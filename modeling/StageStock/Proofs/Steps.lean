import Mathlib.Tactic.Lemma
import StageStock.Proofs.Fulfilment

/-!
What orders make of a store, also when other workers commit beside them.

An order either enters something into the store, or it commits changes that it has ready, or it
leaves the store as it was. So a property of stores that entries and commits preserve is preserved
by every order, whether it succeeds or fails. The commits of other workers that overtake an order
are those of orders themselves, so that they preserve the property too.

* `Store.Enters`: what an entry makes of a store;
* `Store.Becomes`: what one order makes of it at one stroke;
* `Store.Leads`: one store comes after another in a row of such strokes, which carries what each of
  them carries (`Store.Leads.preserves`);
* `Rival.IsOrdered`, `Store.AllOrdered`: what other workers commit are their own orders;
* `Desk.exists_becomes_fulfil`: an order is one stroke, after the orders of other workers that
  overtake it;
* `Store.Yields`: what orders make of a store, each of them among orders of other workers
  (`Store.Yields.leads`).
-/

namespace StageStock

/-! ### Entries -/

/-- What an order can enter into a store: an equipment of some units, a show, or a location that has
a name. The audit trail has an entry for a location, and may have one for an equipment. -/
inductive Store.Enters (s : Store) (now : Moment) : Order → Store → Prop where
  | equipment (r : Equipments.RegisterRequest) (audits : Table AuditRow) (units : 1 ≤ r.total)
      (fits : (Equipments.newRow r now).fits = true)
      (noted : audits = s.audits
        ∨ audits = s.audits.insert (Equipments.registration r s.equipments.nextId now)) :
      s.Enters now (.register r)
        { s with equipments := s.equipments.insert (Equipments.newRow r now), audits }
  | event (r : Catalogue.ShowRequest) (row : ShowRow) :
      s.Enters now (.addShow r) { s with shows := s.shows.insert row }
  | location (r : Catalogue.LocationRequest) (row : LocationRow) (audits : Table AuditRow)
      (words : Text.normalise r.name ≠ "") (name : row.name = Text.normalise r.name)
      (noted : ∃ entry, entry.subject = "Location" ∧ audits = s.audits.insert entry) :
      s.Enters now (.addLocation r) { s with locations := s.locations.insert row, audits }

section Entries

variable {s t : Store} {now : Moment} {o : Order}

lemma Equipments.enters_register (r : RegisterRequest) : (register r now s).2 = s
    ∨ s.Enters now (.register r) (register r now s).2 := by
  rw [register]
  split
  · exact Or.inl rfl
  · rename_i units
    simp only
    split
    · exact Or.inl rfl
    · rename_i fits
      have hfits : (newRow r now).fits = true := by simpa using fits
      split
      · exact Or.inr (.equipment r _ (Int.not_lt.1 units) hfits (Or.inr rfl))
      · exact Or.inr (.equipment r _ (Int.not_lt.1 units) hfits (Or.inl rfl))

lemma Catalogue.enters_addShow (r : ShowRequest) : (addShow r now s).2 = s
    ∨ s.Enters now (.addShow r) (addShow r now s).2 := by
  rw [addShow]
  simp only
  split
  · exact Or.inl rfl
  · split
    · exact Or.inl rfl
    · exact Or.inr (.event r _)

lemma Catalogue.enters_addLocation (r : LocationRequest) : (addLocation r now s).2 = s
    ∨ s.Enters now (.addLocation r) (addLocation r now s).2 := by
  rw [addLocation]
  simp only
  split
  · exact Or.inl rfl
  · rename_i words
    split
    · exact Or.inl rfl
    · exact Or.inr (.location r _ _ words rfl ⟨_, rfl, rfl⟩)

/-- An order that takes no lock leaves the store as it was, or enters something into it. -/
lemma Desk.enters_fulfil {desk : Desk} {call : Call} (h : o.isLocked = false) :
    (desk.fulfil call o).desk.store = desk.store
      ∨ desk.store.Enters call.now o (desk.fulfil call o).desk.store := by
  cases o with
  | register r =>
      rw [fulfil, Outcome.desk_map, entered]
      exact Equipments.enters_register r
  | addShow r =>
      rw [fulfil, Outcome.desk_map, entered]
      exact Catalogue.enters_addShow r
  | addLocation r =>
      rw [fulfil, Outcome.desk_map, entered]
      exact Catalogue.enters_addLocation r
  | _ => cases h

end Entries

/-! ### Orders -/

/-- What an order makes of a store at one stroke: it stays as it was, something is entered into it,
or the order commits what it has ready. Other workers may have committed since the order was made,
but the catalogue is still the same. -/
inductive Store.Becomes (s : Store) (now : Moment) (o : Order) : Store → Prop where
  | same : s.Becomes now o s
  | entered {t : Store} (enters : s.Enters now o t) : s.Becomes now o t
  | committed {origin t : Store} {m : Mutation Json} {work : Prepared Json}
      {before after result : Snapshot} {w : Worksheet} (shows : s.shows = origin.shows)
      (locations : s.locations = origin.locations) (makes : o.Makes now.date origin m)
      (ready : m.Readies before work)
      (commits : s.Commits (m.proposal work) now before after w t result) : s.Becomes now o t

namespace Store

/-- One store comes after another in a row of strokes. -/
inductive Leads (s : Store) : Store → Prop where
  | refl : s.Leads s
  | stroke {u v : Store} {now : Moment} {o : Order} (h : s.Leads u) (becomes : u.Becomes now o v) :
      s.Leads v

variable {s t u : Store}

lemma Leads.trans (h : s.Leads t) (h' : t.Leads u) : s.Leads u := by
  induction h' with
  | refl => exact h
  | stroke _ becomes ih => exact ih.stroke becomes

/-- What each stroke carries from a store to the next one, a row of them carries. -/
theorem Leads.preserves {I : Store → Prop} (leads : s.Leads t) (start : I s)
    (step : ∀ ⦃u now o v⦄, s.Leads u → u.Becomes now o v → I u → I v) : I t := by
  induction leads with
  | refl => exact start
  | stroke h becomes ih => exact step h becomes ih

end Store

/-! ### Orders among orders of other workers -/

/-- What another worker commits is what an order of its own has ready for the ledger at hand. -/
def Rival.IsOrdered (e : Int) (now : Moment) (s : Store) (r : Rival) : Prop :=
  ∃ (o : Order) (m : Mutation Json) (read : Snapshot) (work : Prepared Json),
    o.Makes now.date s m ∧ m.equipment = e ∧ s.ledger? e = .ok read ∧ m.Readies read work
      ∧ s.commit (r.proposal e) now = s.commit (m.proposal work) now

/-- All that other workers commit are orders of their own, each on the store that those before it
left. -/
def Store.AllOrdered (e : Int) (now : Moment) : Store → List Rival → Prop
  | _, [] => True
  | s, r :: rest => r.IsOrdered e now s ∧ AllOrdered e now (s.afterRivals e now [r]) rest

section Rivals

variable {s : Store} {e : Int} {now : Moment}

/-- The commit of another worker is one stroke. -/
lemma Rival.IsOrdered.exists_becomes {r : Rival} (h : r.IsOrdered e now s) :
    ∃ o, s.Becomes now o (s.afterRivals e now [r]) := by
  obtain ⟨o, m, read, work, hmakes, rfl, hread, hready, hsame⟩ := h
  refine ⟨o, ?_⟩
  cases hcommit : s.commit (r.proposal m.equipment) now with
  | error failure =>
      rw [Store.afterRivals_of_error hcommit]
      exact .same
  | ok stored =>
      obtain ⟨t, result⟩ := stored
      rw [Store.afterRivals_of_commit hcommit]
      rw [hsame] at hcommit
      obtain ⟨before, after, w, hcommits⟩ := Store.commits_of_commit hcommit
      obtain rfl : read = before := Except.ok.inj (hread.symm.trans hcommits.read)
      exact .committed rfl rfl hmakes hready hcommits

/-- The first ones of the other workers lead on. -/
lemma Store.leads_afterRivals {rivals : List Rival} (h : s.AllOrdered e now rivals) (k : Nat) :
    s.Leads (s.afterRivals e now (rivals.take k)) := by
  induction rivals generalizing s k with
  | nil =>
      rw [List.take_nil]
      exact .refl
  | cons r rest ih =>
      cases k with
      | zero => exact .refl
      | succ k =>
          obtain ⟨hfirst, hrest⟩ := h
          obtain ⟨o, hbecomes⟩ := hfirst.exists_becomes
          rw [List.take_succ_cons, afterRivals_cons]
          exact (Leads.refl.stroke hbecomes).trans (ih hrest k)

end Rivals

section Fulfilling

variable {desk : Desk} {call : Call} {o : Order}

/-- Other workers' orders for the equipment of an order lead on. -/
lemma Order.leads_afterRivals (ordered : ∀ e, o.equipment? desk.store = some e →
      desk.store.AllOrdered e call.now call.rivals) (k : Nat) :
    desk.store.Leads (o.afterRivals desk.store call.now (call.rivals.take k)) := by
  rw [afterRivals]
  cases he : o.equipment? desk.store with
  | none => exact .refl
  | some e => exact Store.leads_afterRivals (ordered e he) k

/-- Other workers leave the catalogue alone. -/
lemma Order.catalogue_afterRivals (o : Order) (s : Store) (now : Moment) (rivals : List Rival) :
    (o.afterRivals s now rivals).shows = s.shows
      ∧ (o.afterRivals s now rivals).locations = s.locations := by
  rw [afterRivals]
  split
  · rename_i e _
    exact ⟨(Store.afterRivals_agreesBeside s rivals).shows,
      (Store.afterRivals_agreesBeside s rivals).locations⟩
  · exact ⟨rfl, rfl⟩

/-- Whatever other workers commit, an order is one stroke after the first ones of them. -/
theorem Desk.exists_becomes_fulfil (desk : Desk) (call : Call) (o : Order) :
    ∃ k, (o.afterRivals desk.store call.now (call.rivals.take k)).Becomes call.now o
      (desk.fulfil call o).desk.store := by
  cases hlocked : o.isLocked with
  | false =>
      refine ⟨0, ?_⟩
      rw [List.take_zero, o.afterRivals_nil]
      rcases enters_fulfil hlocked with hsame | hentered
      · rw [hsame]
        exact .same
      · exact .entered hentered
  | true =>
      cases hresult : (desk.fulfil call o).result with
      | error failure =>
          obtain ⟨k, houtcome⟩ := fulfil_of_error hlocked hresult
          refine ⟨k, ?_⟩
          rw [houtcome]
          exact .same
      | ok answer =>
          obtain ⟨m, k, work, before, after, w, t, committed, hmakes, -, hready, hcommits,
            houtcome⟩ := fulfil_ok hlocked hresult
          obtain ⟨hshows, hlocations⟩ :=
            o.catalogue_afterRivals desk.store call.now (call.rivals.take k)
          refine ⟨k, ?_⟩
          rw [houtcome]
          exact .committed hshows hlocations hmakes hready hcommits

/-- Without other workers, an order is one stroke. -/
lemma Desk.becomes_fulfil (alone : call.rivals = []) (o : Order) :
    desk.store.Becomes call.now o (desk.fulfil call o).desk.store := by
  obtain ⟨k, hbecomes⟩ := desk.exists_becomes_fulfil call o
  rwa [alone, List.take_nil, o.afterRivals_nil] at hbecomes

/-- An order among orders of other workers is a row of strokes: those of the workers who overtake
it, and then its own. -/
lemma Desk.leads_fulfil (o : Order) (ordered : ∀ e, o.equipment? desk.store = some e →
      desk.store.AllOrdered e call.now call.rivals) :
    desk.store.Leads (desk.fulfil call o).desk.store := by
  obtain ⟨k, hbecomes⟩ := desk.exists_becomes_fulfil call o
  exact (Order.leads_afterRivals ordered k).stroke hbecomes

end Fulfilling

/-! ### Rows of orders -/

namespace Store

/-- Orders make one store of another. Each may have come to another desk, with other locks held and
other listeners, and orders of other workers may have overtaken it. -/
inductive Yields (s : Store) : Store → Prop where
  | refl : s.Yields s
  | order (desk : Desk) (call : Call) (o : Order) (h : s.Yields desk.store)
      (ordered : ∀ e, o.equipment? desk.store = some e →
        desk.store.AllOrdered e call.now call.rivals) : s.Yields (desk.fulfil call o).desk.store

variable {s t : Store}

lemma Yields.leads (h : s.Yields t) : s.Leads t := by
  induction h with
  | refl => exact .refl
  | order desk call o _ ordered ih => exact ih.trans (Desk.leads_fulfil o ordered)

/-- One more order, beside which no other worker commits. -/
lemma Yields.alone (desk : Desk) (call : Call) (o : Order) (h : s.Yields desk.store)
    (alone : call.rivals = []) : s.Yields (desk.fulfil call o).desk.store :=
  .order desk call o h fun e _ => by
    rw [alone]
    exact trivial

lemma Reached.yields (h : s.Reached) : Store.empty.Yields s := by
  induction h with
  | empty => exact .refl
  | order desk call o _ alone ih => exact .alone desk call o ih alone

lemma Reached.leads (h : s.Reached) : Store.empty.Leads s :=
  h.yields.leads

end Store

end StageStock
