import Mathlib.Tactic.Lemma
import StageStock.Proofs.Committing
import StageStock.Proofs.Conservation

/-!
How orders write rows.

A place can be stored in more than one way, and a row may hold less than it should: no place at all,
or no kind of installation. Orders write the columns of a place in one way only, and always name the
kind.

* `PlacementRow.IsWritten`: the columns of a row are those of a place that has words;
* `Change.Tidy`, `Worksheet.Tidy`: writing tidy changes keeps a worksheet tidy
  (`Worksheet.Tidy.write`);
* `Store.Reached.tidy`: so all rows are tidy, whatever was ordered.
-/

namespace StageStock

/-! ### Rows and changes -/

/-- The columns of a placement's row say where the units are, in the way in which a place is
written. -/
def PlacementRow.IsWritten (r : PlacementRow) : Prop :=
  ∃ place : Place, place.HasWords ∧ (r.placeId, r.placeText) = Place.columns (some place)

/-- A row that is written is read back as the place that was written. -/
lemma PlacementRow.place?_of_columns {r : PlacementRow} {place : Place} (words : place.HasWords)
    (columns : (r.placeId, r.placeText) = Place.columns (some place)) :
    r.place? = some place.normalised := by
  show Place.ofColumns (r.placeId, r.placeText).1 (r.placeId, r.placeText).2 = _
  rw [columns, Place.ofColumns_columns, Place.reread, if_pos words]

/-- The places of a change have words, and its installation has a kind. -/
def Change.Tidy : Change → Prop
  | replacePlacements ps => ∀ p ∈ ps, p.place.HasWords
  | setInstallation i => i.kind ≠ ""
  | _ => True

/-- Proper changes that leave a sound ledger are tidy. -/
lemma Change.Proper.tidy {before after : Snapshot} {cs : List Change} (h : Proper before cs)
    (applied : applyAll before cs = .ok after) (sound : after.IsSound) : ∀ c ∈ cs, c.Tidy := by
  cases h with
  | setInstallation i words =>
      obtain rfl := Except.ok.inj applied
      intro c hc
      rw [List.mem_singleton.1 hc]
      exact sound.installation.kind_ne_empty
  | replacePlacements ps words =>
      intro c hc
      rw [List.mem_singleton.1 hc]
      exact words
  | setTotal total =>
      intro c hc
      rw [List.mem_singleton.1 hc]
      exact trivial
  | putReservation r known =>
      intro c hc
      rw [List.mem_singleton.1 hc]
      exact trivial
  | dropReservation id showId =>
      intro c hc
      rw [List.mem_singleton.1 hc]
      exact trivial
  | renewReservation id showId r new =>
      intro c hc
      simp only [List.mem_cons, List.not_mem_nil, or_false] at hc
      rcases hc with rfl | rfl <;> exact trivial

/-! ### Worksheets -/

namespace Worksheet

/-- The rows of a worksheet name the kind of installation, and are written where they have a
place. -/
structure Tidy (w : Worksheet) : Prop where
  kinds : ∀ row ∈ w.store.equipments.rows, row.2.installationKind ≠ ""
  places : ∀ row ∈ w.store.placements.rows, row.2.IsWritten
  newPlaces : ∀ row ∈ w.newPlacements, row.IsWritten

namespace Tidy

variable {w w' : Worksheet} {a : Author} {c : Change}

lemma isWritten_placementRow {p : Placement} (words : p.place.HasWords) (row : PlacementRow) :
    (placementRow a p row).IsWritten :=
  ⟨p.place, words, rfl⟩

lemma replacePlacements (h : w.Tidy) {ps : List Placement} (words : ∀ p ∈ ps, p.place.HasWords) :
    (w.replacePlacements a ps).Tidy := by
  have hput : (putPlacements a ps w (w.kept a.equipment)).1.Tidy := by
    refine putPlacements_induction h (fun v p hp entry _ hv => ?_) fun v p hp hv => ?_
    · exact ⟨hv.kinds, Table.forall_modify hv.places
        fun row _ => isWritten_placementRow (words p hp) row, hv.newPlaces⟩
    · refine ⟨hv.kinds, hv.places, fun row hrow => ?_⟩
      rcases List.mem_append.1 hrow with hrow | hrow
      · exact hv.newPlaces row hrow
      · rw [List.mem_singleton.1 hrow]
        exact isWritten_placementRow (words p hp) _
  rw [replacePlacements_eq]
  exact ⟨hput.kinds, hput.places, hput.newPlaces⟩

lemma editEquipment (h : w.Tidy) {f : EquipmentRow → EquipmentRow}
    (hf : ∀ row : EquipmentRow, row.installationKind ≠ "" → (f row).installationKind ≠ "") :
    (w.editEquipment a f).Tidy :=
  ⟨Table.forall_modify (P := fun row : EquipmentRow => row.installationKind ≠ "") h.kinds hf,
    h.places, h.newPlaces⟩

/-- The placements of the flushed store. -/
lemma places_flushed (h : w.Tidy) : ∀ row ∈ w.flushed.placements.rows, row.2.IsWritten :=
  Table.forall_eraseAll (Table.forall_insertAll h.places h.newPlaces) _

/-- Writing a tidy change. -/
theorem write (h : w.Tidy) (tidy : c.Tidy) (wrote : Wrote a w c w') : w'.Tidy := by
  cases wrote with
  | newReservation r new => exact ⟨h.kinds, h.places, h.newPlaces⟩
  | oldReservation r id row old stored own => exact ⟨h.kinds, h.places, h.newPlaces⟩
  | dropReservation id showId => exact ⟨h.kinds, h.places_flushed, by simp⟩
  | replacePlacements ps => exact h.replacePlacements tidy
  | setInstallation i => exact h.editEquipment fun _ _ => tidy
  | setTotal total => exact h.editEquipment fun _ hrow => hrow

lemma writeAll (h : w.Tidy) {cs : List Change} (tidy : ∀ c ∈ cs, c.Tidy)
    (written : w.writeAll a cs = .ok w') : w'.Tidy := by
  induction cs generalizing w with
  | nil => exact Except.ok.inj written ▸ h
  | cons c rest ih =>
      rw [Worksheet.writeAll] at written
      split at written
      · cases written
      · rename_i next hnext
        exact ih (h.write (tidy c List.mem_cons_self) (wrote_of_write hnext))
          (fun d hd => tidy d (List.mem_cons_of_mem _ hd)) written

end Tidy

end Worksheet

/-! ### Stores -/

namespace Store

/-- Rows name the kind of installation and hold totals that can be stored, and placements have
places that are written as places are. -/
structure Tidy (s : Store) : Prop where
  kinds : ∀ row ∈ s.equipments.rows, row.2.installationKind ≠ ""
  totals : ∀ row ∈ s.equipments.rows, fitsWord row.2.total = true
  places : ∀ row ∈ s.placements.rows, row.2.IsWritten

namespace Tidy

variable {s t : Store}

lemma empty : Store.empty.Tidy :=
  ⟨fun _ hrow => absurd hrow List.not_mem_nil, fun _ hrow => absurd hrow List.not_mem_nil,
    fun _ hrow => absurd hrow List.not_mem_nil⟩

/-- A new equipment is portable, and is only registered if its total can be stored. -/
lemma enter (h : s.Tidy) {now : Moment} {o : Order} (entered : s.Enters now o t) : t.Tidy := by
  cases entered with
  | equipment r audits units fits noted =>
      refine ⟨?_, ?_, h.places⟩
      · exact Table.forall_insert (P := fun row : EquipmentRow => row.installationKind ≠ "")
          h.kinds (show InstallationKind.portable.text ≠ "" by decide)
      · exact Table.forall_insert (P := fun row : EquipmentRow => fitsWord row.total = true)
          h.totals (EquipmentRow.fitsWord_total_of_fits fits)
  | event r row => exact ⟨h.kinds, h.totals, h.places⟩
  | location r row audits words name noted => exact ⟨h.kinds, h.totals, h.places⟩

/-- A commit of proper changes, after which all numbers can be stored. -/
theorem commit (h : s.Tidy) {p : Proposal} {now : Moment} {before after committed : Snapshot}
    {w : Worksheet} (commits : s.Commits p now before after w t committed)
    (proper : Change.Proper before p.changes) : t.Tidy := by
  have hstart : ({ store := s } : Worksheet).Tidy := ⟨h.kinds, h.places, by simp⟩
  have hwritten : w.Tidy := hstart.writeAll
    (proper.tidy commits.applied ((Snapshot.violations_eq_nil_iff_isSound after).1 commits.lawful))
    commits.written
  have hcompleted : (complete w (p.author now) p before after).Tidy := by
    obtain ⟨hkinds, hplaces, hnew⟩ := hwritten.editEquipment (a := p.author now)
      (f := fun row => { row with
        version := before.version + 1
        status := some after.status.text
        updated := some now }) fun _ hrow => hrow
    exact ⟨hkinds, hplaces, hnew⟩
  refine ⟨?_, fun row hrow => fitsWord_total_of_fits commits.fits hrow, ?_⟩
  · rw [commits.stored]
    exact hcompleted.kinds
  · rw [commits.stored]
    exact hcompleted.places_flushed

/-- An order keeps rows tidy, whether it succeeds or fails. -/
theorem becomes (h : s.Tidy) {now : Moment} {o : Order} (becomes : s.Becomes now o t) :
    t.Tidy := by
  cases becomes with
  | same => exact h
  | entered enters => exact h.enter enters
  | committed shows locations makes ready commits =>
      exact h.commit commits (makes.proper.of_readies commits.read ready)

end Tidy

lemma Leads.tidy {s : Store} (h : Store.empty.Leads s) : s.Tidy :=
  h.preserves Tidy.empty fun _ _ _ _ _ becomes hu => hu.becomes becomes

/-- Rows are tidy, whatever was ordered. -/
theorem Reached.tidy {s : Store} (h : s.Reached) : s.Tidy :=
  h.leads.tidy

end Store

end StageStock
