import Mathlib.Tactic.Lemma
import StageStock.Proofs.Frame
import StageStock.Proofs.Soundness

/-!
Placements in memory and their rows.

Only a replacement writes placements, so that what is read back is what the last replacement wrote
together with what waited then. Rows that wait are not among those that a replacement uses again:
rows to enter are entered in addition, and a row to drop is dropped even if it is used again.

* `Change.LastReplacement`: the last replacement among changes;
* `Worksheet.staying`, `Worksheet.lost`, `Worksheet.fresh`: placements by what becomes of them;
* `Store.Commits.placements_perm`: the placements that are read back after a commit;
* `Store.Commits.matched_placements`: when they stand for those in memory.
-/

namespace StageStock

/-! ### Placements read back -/

namespace Placement

/-- A placement read back from the row that has it. -/
def readBack (p : Placement) (id : Int) : Option Placement :=
  p.place.reread.map fun place => { p with id := some id, place }

variable {p q : Placement} {id : Int}

lemma readBack_of_hasWords (h : p.place.HasWords) (id : Int) :
    p.readBack id = some { p with id := some id, place := p.place.normalised } := by
  rw [readBack, Place.reread, if_pos h, Option.map_some]

/-- A row is read back as the placement that was written in it. -/
lemma placementOf?_placementRow (known : p.status ≠ "") (a : Worksheet.Author) (id : Int)
    (row : PlacementRow) :
    Store.placementOf? (id, Worksheet.placementRow a p row) = p.readBack id := by
  rw [Store.placementOf?, PlacementRow.place?, Worksheet.placementRow, readBack]
  simp only [Place.ofColumns_columns, if_neg known]

/-- A placement that was read has words. -/
lemma hasWords_of_placementOf? {row : Int × PlacementRow}
    (h : Store.placementOf? row = some q) : q.place.HasWords ∧ q.place.normalised = q.place := by
  obtain ⟨place, hplace, rfl⟩ := Option.map_eq_some_iff.1 h
  obtain ⟨hnormal, hwords⟩ := Place.normalised_of_ofColumns hplace
  exact ⟨hwords, hnormal⟩

end Placement

/-! ### The last replacement -/

namespace Change

/-- Whether a change is a replacement of placements. -/
def isReplacement : Change → Bool
  | replacePlacements _ => true
  | _ => false

/-- The last replacement among changes, with the changes before it. -/
def LastReplacement (cs front : List Change) (ps : List Placement) : Prop :=
  ∃ back, cs = front ++ replacePlacements ps :: back ∧ ∀ c ∈ back, c.isReplacement = false

lemma exists_lastReplacement (cs : List Change) :
    (∀ c ∈ cs, c.isReplacement = false) ∨ ∃ front ps, LastReplacement cs front ps := by
  induction cs with
  | nil => exact Or.inl fun c hc => absurd hc List.not_mem_nil
  | cons c rest ih =>
      rcases ih with hnone | ⟨front, ps, back, rfl, hback⟩
      · cases hc : c.isReplacement with
        | false =>
            refine Or.inl fun d hd => ?_
            rcases List.mem_cons.1 hd with rfl | hd
            · exact hc
            · exact hnone d hd
        | true =>
            cases c with
            | replacePlacements ps => exact Or.inr ⟨[], ps, rest, rfl, hnone⟩
            | putReservation r => cases hc
            | dropReservation id showId => cases hc
            | setInstallation i => cases hc
            | setTotal total => cases hc
      · exact Or.inr ⟨c :: front, ps, back, rfl, hback⟩

lemma applyAll_append {m m' : Snapshot} {cs ds : List Change}
    (h : applyAll m (cs ++ ds) = .ok m') :
    ∃ mid, applyAll m cs = .ok mid ∧ applyAll mid ds = .ok m' := by
  induction cs generalizing m with
  | nil => exact ⟨m, rfl, h⟩
  | cons c rest ih =>
      obtain ⟨next, hc, hrest⟩ := exists_apply_of_applyAll h
      obtain ⟨mid, hmid, hlast⟩ := ih hrest
      exact ⟨mid, by rw [applyAll, hc]; exact hmid, hlast⟩

end Change

namespace Worksheet

variable {a : Author} {w w' : Worksheet} {c : Change} {cs : List Change}

lemma writeAll_append {ds : List Change} (h : w.writeAll a (cs ++ ds) = .ok w') :
    ∃ mid, w.writeAll a cs = .ok mid ∧ mid.writeAll a ds = .ok w' := by
  induction cs generalizing w with
  | nil => exact ⟨w, rfl, h⟩
  | cons c rest ih =>
      rw [List.cons_append, writeAll] at h
      rw [writeAll]
      cases hc : w.write a c with
      | error e => simp [hc] at h
      | ok next =>
          rw [hc] at h
          exact ih h

/-- Other changes write no placement. -/
lemma Wrote.placements_eq (h : Wrote a w c w') (other : c.isReplacement = false) :
    w'.flushed.placements = w.flushed.placements := by
  cases h with
  | newReservation r new => rw [flushed_newReservation]
  | oldReservation r id row old stored own => rw [flushed_editReservation stored]
  | dropReservation id showId => rfl
  | replacePlacements ps => cases other
  | setInstallation i => rfl
  | setTotal total => rfl

lemma apply_placements_eq {m m' : Snapshot} (h : Change.apply m c = .ok m')
    (other : c.isReplacement = false) : m'.placements = m.placements := by
  cases c with
  | replacePlacements ps => cases other
  | dropReservation id showId =>
      obtain ⟨-, rfl⟩ := Change.dropped_of_apply h
      rfl
  | putReservation r => rw [← Except.ok.inj h]
  | setInstallation i => rw [← Except.ok.inj h]
  | setTotal total => rw [← Except.ok.inj h]

/-- Without a replacement placements stay as they are, in memory and in their rows. -/
lemma placements_unchanged {m m' : Snapshot} (applied : Change.applyAll m cs = .ok m')
    (written : w.writeAll a cs = .ok w') (none : ∀ c ∈ cs, c.isReplacement = false) :
    m'.placements = m.placements ∧ w'.flushed.placements = w.flushed.placements := by
  refine (writeAll_induction (I := fun rest m' w' => (∀ c ∈ rest, c.isReplacement = false)
    ∧ m'.placements = m.placements ∧ w'.flushed.placements = w.flushed.placements)
    applied written ⟨none, rfl, rfl⟩ ?_).2
  rintro c rest m₁ m₂ w₁ w₂ happlied hwrote ⟨hnone, hmemory, hrows⟩
  have hother := hnone c List.mem_cons_self
  refine ⟨fun d hd => hnone d (List.mem_cons_of_mem _ hd), ?_, ?_⟩
  · exact (apply_placements_eq happlied hother).trans hmemory
  · exact (hwrote.placements_eq hother).trans hrows

/-- Without a replacement no placement comes to wait. -/
lemma nothing_waits {m m' : Snapshot} (applied : Change.applyAll m cs = .ok m')
    (written : w.writeAll a cs = .ok w') (none : ∀ c ∈ cs, c.isReplacement = false)
    (start : w.newPlacements = [] ∧ w.droppedPlacements = []) :
    w'.newPlacements = [] ∧ w'.droppedPlacements = [] := by
  refine (writeAll_induction (I := fun rest _ w' => (∀ c ∈ rest, c.isReplacement = false)
    ∧ w'.newPlacements = [] ∧ w'.droppedPlacements = []) applied written ⟨none, start⟩ ?_).2
  rintro c rest m₁ m₂ w₁ w₂ happlied hwrote ⟨hnone, hwaits⟩
  refine ⟨fun d hd => hnone d (List.mem_cons_of_mem _ hd), ?_⟩
  cases hwrote with
  | newReservation r new => exact hwaits
  | oldReservation r id row old stored own => exact hwaits
  | dropReservation id showId => exact ⟨rfl, rfl⟩
  | replacePlacements ps => cases hnone _ List.mem_cons_self
  | setInstallation i => exact hwaits
  | setTotal total => exact hwaits

/-! ### What becomes of each placement -/

section Destinations

variable (w : Worksheet) (e : Int) (ps : List Placement)

/-- Placements that are written in a row that stays. -/
def staying : List Placement :=
  ps.filter fun p => (w.seat? e p).any fun id => id ∉ w.droppedPlacements

/-- Placements that are written in a row that waits to be dropped. -/
def lost : List Placement :=
  ps.filter fun p => (w.seat? e p).any fun id => id ∈ w.droppedPlacements

/-- Placements that have no row yet. -/
def fresh : List Placement :=
  ps.filter fun p => w.seat? e p = none

/-- Placements that are entered although they were replaced. -/
def waiting : List Placement :=
  (numberFrom w.store.placements.nextId w.newPlacements).filterMap Store.placementOf?

/-- Placements that have no row yet, under the ids of their rows. -/
def seatedFresh : List (Int × Placement) :=
  numberFrom (w.store.placements.nextId + w.newPlacements.length) (w.fresh e ps)

/-- Placements as they are read back from rows that stay. -/
def stayingRead : List Placement :=
  (w.staying e ps).filterMap fun p => (w.seat? e p).bind p.readBack

/-- Placements as they are read back from new rows. -/
def freshRead : List Placement :=
  (w.seatedFresh e ps).filterMap fun row => row.2.readBack row.1

lemma destinations_perm : (w.staying e ps ++ w.fresh e ps ++ w.lost e ps).Perm ps := by
  have hseated : (ps.filter fun p => !decide (w.seat? e p = none)).filter
      (fun p => (w.seat? e p).any fun id => id ∈ w.droppedPlacements) = w.lost e ps := by
    rw [lost, List.filter_filter]
    refine List.filter_congr fun p _ => ?_
    cases w.seat? e p <;> simp
  have hstays : (ps.filter fun p => !decide (w.seat? e p = none)).filter
      (fun p => !(w.seat? e p).any fun id => id ∈ w.droppedPlacements) = w.staying e ps := by
    rw [staying, List.filter_filter]
    refine List.filter_congr fun p _ => ?_
    cases w.seat? e p <;> simp
  have hsplit := List.filter_append_perm
    (fun p => (w.seat? e p).any fun id => id ∈ w.droppedPlacements)
    (ps.filter fun p => !decide (w.seat? e p = none))
  rw [hseated, hstays] at hsplit
  have hall := List.filter_append_perm (fun p => decide (w.seat? e p = none)) ps
  have hfront : (w.staying e ps ++ w.fresh e ps ++ w.lost e ps).Perm
      (w.fresh e ps ++ (w.lost e ps ++ w.staying e ps)) := by
    refine (List.perm_append_comm.append_right _).trans ?_
    rw [List.append_assoc]
    exact List.perm_append_comm.append_left _
  exact (hfront.trans (hsplit.append_left _)).trans hall

variable {w e ps}

lemma mem_staying {p : Placement} : p ∈ w.staying e ps
    ↔ p ∈ ps ∧ ∃ id, w.seat? e p = some id ∧ id ∉ w.droppedPlacements := by
  rw [staying, List.mem_filter, Option.any_eq_true]
  simp

end Destinations

/-- What is read back of the rows written again. -/
lemma stayingRead_eq {ps : List Placement} (known : ∀ p ∈ ps, p.status ≠ "") :
    (ps.filterMap (w.rewritten? a)).filterMap Store.placementOf?
      = w.stayingRead a.equipment ps := by
  rw [stayingRead, staying, List.filterMap_filterMap, List.filterMap_filter]
  refine List.filterMap_congr fun p hp => ?_
  cases hseat : w.seat? a.equipment p with
  | none => simp [rewritten?, hseat]
  | some id =>
      obtain ⟨row, hrow, -⟩ := find?_of_seat? hseat
      by_cases hwaits : id ∈ w.droppedPlacements
      · simp [rewritten?, hseat, hwaits]
      · simp [rewritten?, hseat, hwaits, hrow, Placement.placementOf?_placementRow (known p hp)]

lemma freshRead_eq {ps : List Placement} (known : ∀ p ∈ ps, p.status ≠ "") :
    (numberFrom (w.store.placements.nextId + w.newPlacements.length)
      ((w.fresh a.equipment ps).map (newPlacementRow a))).filterMap Store.placementOf?
        = w.freshRead a.equipment ps := by
  rw [freshRead, seatedFresh, numberFrom_map, List.filterMap_map]
  refine List.filterMap_congr fun row hrow => ?_
  have hmem := (List.mem_filter.1 (mem_of_mem_numberFrom hrow)).1
  exact Placement.placementOf?_placementRow (known _ hmem) a row.1 _

/-- The placements that are read back after a replacement. -/
theorem placements_replacePlacements {ps : List Placement} (own : w.Owns a.equipment)
    (nodup : (ps.map fun p => p.place.key).Nodup) (known : ∀ p ∈ ps, p.status ≠ "") :
    (((w.replacePlacements a ps).flushed.placementsOf a.equipment).filterMap
      Store.placementOf?).Perm
      (w.stayingRead a.equipment ps ++ w.freshRead a.equipment ps ++ w.waiting) := by
  have hrows := (placementsOf_replacePlacements own nodup).filterMap Store.placementOf?
  rw [numberFrom_append, List.filterMap_append, List.filterMap_append,
    stayingRead_eq known] at hrows
  refine hrows.trans ?_
  rw [List.append_assoc]
  refine List.Perm.append_left _ ?_
  refine (List.perm_append_comm).trans (List.Perm.append_right _ (List.Perm.of_eq ?_))
  exact freshRead_eq known

section Matched

variable {e : Int} {ps : List Placement} {R : Placement → Placement → Prop}

lemma matched_stayingRead (words : ∀ p ∈ ps, p.place.HasWords)
    (h : ∀ p ∈ w.staying e ps, ∀ id, w.seat? e p = some id →
      R p { p with id := some id, place := p.place.normalised }) :
    Matched R (w.staying e ps) (w.stayingRead e ps) := by
  have hread : Matched R ((w.staying e ps).map id) (w.stayingRead e ps) := by
    refine Matched.map_filterMap fun p hp => ?_
    obtain ⟨hmem, id, hseat, -⟩ := mem_staying.1 hp
    refine ⟨_, ?_, h p hp id hseat⟩
    rw [hseat, Option.bind_some, Placement.readBack_of_hasWords (words p hmem)]
  rwa [List.map_id] at hread

lemma matched_freshRead (words : ∀ p ∈ ps, p.place.HasWords)
    (h : ∀ row ∈ w.seatedFresh e ps,
      R row.2 { row.2 with id := some row.1, place := row.2.place.normalised }) :
    Matched R (w.fresh e ps) (w.freshRead e ps) := by
  have hread : Matched R ((w.seatedFresh e ps).map Prod.snd) (w.freshRead e ps) := by
    refine Matched.map_filterMap fun row hrow => ⟨_, ?_, h row hrow⟩
    have hmem := (List.mem_filter.1 (mem_of_mem_numberFrom hrow)).1
    exact Placement.readBack_of_hasWords (words _ hmem) row.1
  rwa [seatedFresh, map_snd_numberFrom] at hread

end Matched

end Worksheet

/-! ### The whole commit -/

namespace Store.Commits

variable {s t : Store} {p : Proposal} {now : Moment} {before after committed : Snapshot}
  {w : Worksheet} {front : List Change} {ps : List Placement}

lemma placements_read (h : s.Commits p now before after w t committed) :
    committed.placements = (w.flushed.placementsOf p.equipment).filterMap placementOf? := by
  obtain ⟨row, -, hcommitted, -⟩ := h.committed_eq
  rw [hcommitted]
  show (t.placementsOf p.equipment).filterMap placementOf? = _
  rw [placementsOf, h.tables_eq.1]
  rfl

/-- Without a replacement the placements are those that were read. -/
theorem placements_eq (h : s.Commits p now before after w t committed)
    (none : ∀ c ∈ p.changes, c.isReplacement = false) :
    after.placements = before.placements ∧ committed.placements = before.placements := by
  obtain ⟨hmemory, hrows⟩ := Worksheet.placements_unchanged h.applied h.written none
  obtain ⟨row, -, -, hbefore⟩ := ledger?_eq_ok.1 h.read
  refine ⟨hmemory, ?_⟩
  rw [h.placements_read, placementsOf, hrows, hbefore]
  rfl

/-- After a replacement, the placements that are read back are those of the last one, as far as
their rows stay, and those that waited when it was written. -/
theorem placements_perm (h : s.Commits p now before after w t committed)
    (last : Change.LastReplacement p.changes front ps) :
    ∃ w₀, Worksheet.writeAll { store := s } (p.author now) front = .ok w₀
      ∧ after.placements = ps
      ∧ committed.placements.Perm (w₀.stayingRead p.equipment ps ++ w₀.freshRead p.equipment ps
        ++ w₀.waiting) := by
  obtain ⟨back, hchanges, hback⟩ := last
  have happlied := h.applied
  have hwritten := h.written
  rw [hchanges] at happlied hwritten
  obtain ⟨m₀, hfront, hrest⟩ := Change.applyAll_append happlied
  obtain ⟨w₀, hfrontWritten, hrestWritten⟩ := Worksheet.writeAll_append hwritten
  have htracks : w₀.Tracks p.equipment s m₀ :=
    tracks_of_writeAll (a := p.author now) h.read hfront hfrontWritten
  obtain ⟨hmemory, hrows⟩ := Worksheet.placements_unchanged (m := { m₀ with placements := ps })
    (w := w₀.replacePlacements (p.author now) ps) hrest hrestWritten hback
  have hplacements : after.placements = ps := hmemory
  have hsound := (Snapshot.violations_eq_nil_iff_isSound after).1 h.lawful
  rw [← hplacements]
  refine ⟨w₀, hfrontWritten, rfl, ?_⟩
  have hread := @Worksheet.placements_replacePlacements (p.author now) w₀ after.placements
    htracks.owns hsound.places fun q hq => (hsound.placements q hq).status_ne_empty
  rw [h.placements_read, placementsOf, hrows, hplacements]
  rw [hplacements] at hread
  exact hread

end Store.Commits

end StageStock
