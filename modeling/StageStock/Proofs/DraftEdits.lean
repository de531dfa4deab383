import Mathlib.Tactic.Lemma
import StageStock.Draft

/-!
What edits leave of the rows of a draft.

Edits add rows without a place, drop rows and edit single fields, whether they succeed or fail half
way. So what holds of new rows and is kept by the edit of a field holds of all rows of a draft,
however it is edited. That a row does not name a listed location and words at once is of this kind,
as either of them clears the other.

* `DraftRow.Kept`: what new rows have and the edit of a field keeps;
* `Draft.run`: a draft after some edits;
* `Draft.forall_step`, `Draft.forall_run`, `Draft.forall_ofRows`: what one edit, many edits and the
  rows that a draft is begun with leave true of all rows;
* `Draft.placedOnce_run`: no row of a draft names two places.
-/

namespace StageStock

/-! ### Rows -/

/-- The row that is added, before it has a place. -/
def Draft.Entry.row (entry : Draft.Entry) : DraftRow :=
  { quantity := entry.quantity, status := entry.status, notes := entry.notes }

namespace DraftRow

/-- What holds of every row without a place and stays true when a field is edited. -/
structure Kept (P : DraftRow → Prop) : Prop where
  new (entry : Draft.Entry) : P entry.row
  edit {row edited : DraftRow} {field : String} {value : Json} (before : P row)
    (accepted : row.edit field value = .ok edited) : P edited

/-- A row does not name a listed location and words at once. -/
def PlacedOnce (row : DraftRow) : Prop :=
  row.locationId = none ∨ row.locationName = .null

/-- Of the two ways to name a place, the one that is given clears the other. -/
theorem kept_placedOnce : Kept PlacedOnce where
  new _ := Or.inl rfl
  edit := by
    intro row edited field value before accepted
    unfold DraftRow.edit at accepted
    split at accepted
    · split at accepted
      · exact Or.inl (Except.ok.inj accepted ▸ rfl)
      · split at accepted
        · cases accepted
        · exact Or.inr (Except.ok.inj accepted ▸ rfl)
    · split at accepted
      · exact Or.inl (Except.ok.inj accepted ▸ rfl)
      · exact Or.inr (Except.ok.inj accepted ▸ rfl)
    · split at accepted
      · split at accepted
        · cases accepted
        · exact Except.ok.inj accepted ▸ before
      · exact Except.ok.inj accepted ▸ before
    · exact Except.ok.inj accepted ▸ before
    · exact Except.ok.inj accepted ▸ before
    · cases accepted

end DraftRow

/-! ### Edits -/

namespace Draft

variable {P : DraftRow → Prop} {draft result : Draft}

/-- The draft after some edits; those that fail may have changed it as well. -/
def run (draft : Draft) (steps : List Step) : Draft :=
  steps.foldl (fun draft step => (draft.step step).2) draft

/-- An edit of a field replaces one row by the edited one. -/
lemma update_eq_ok {index : Int} {field : String} {value : Json} {edited : DraftRow}
    (h : draft.update index field value = .ok (edited, result)) :
    ∃ row ∈ draft, row.edit field value = .ok edited
      ∧ result = draft.set index.toNat edited := by
  rw [update] at h
  split at h
  · cases h
  · split at h
    · cases h
    · rename_i row hrow
      split at h
      · cases h
      · rename_i hedited
        obtain ⟨rfl, rfl⟩ := Prod.mk.inj (Except.ok.inj h)
        exact ⟨row, List.mem_of_getElem? hrow, hedited, rfl⟩

lemma forall_update (kept : DraftRow.Kept P) (before : ∀ row ∈ draft, P row) {index : Int}
    {field : String} {value : Json} {edited : DraftRow}
    (h : draft.update index field value = .ok (edited, result)) : ∀ row ∈ result, P row := by
  obtain ⟨old, hold, hedit, rfl⟩ := update_eq_ok h
  intro row hrow
  rcases List.mem_or_eq_of_mem_set hrow with hother | rfl
  · exact before row hother
  · exact kept.edit (before old hold) hedit

/-- A new row is there even if its place cannot be read. -/
lemma forall_add (kept : DraftRow.Kept P) (before : ∀ row ∈ draft, P row) (entry : Entry) :
    ∀ row ∈ (draft.add entry).2, P row := by
  have hgrown : ∀ row ∈ draft ++ [entry.row], P row := by
    intro row hrow
    rcases List.mem_append.1 hrow with hold | hnew
    · exact before row hold
    · rw [List.mem_singleton.1 hnew]
      exact kept.new entry
  simp only [add]
  split
  · exact hgrown
  · rename_i edited result hplaced
    split at hplaced
    · exact forall_update kept hgrown hplaced
    · split at hplaced
      · exact forall_update kept hgrown hplaced
      · rw [← (Prod.mk.inj (Except.ok.inj hplaced)).2]
        exact hgrown

lemma forall_remove (before : ∀ row ∈ draft, P row) {index : Int}
    (h : draft.remove index = .ok result) : ∀ row ∈ result, P row := by
  rw [remove] at h
  split at h
  · cases h
  · obtain rfl := Except.ok.inj h
    exact fun row hrow => before row (List.mem_of_mem_eraseIdx hrow)

/-- One edit, whatever it answers. -/
theorem forall_step (kept : DraftRow.Kept P) (before : ∀ row ∈ draft, P row) (step : Step) :
    ∀ row ∈ (draft.step step).2, P row := by
  cases step with
  | add entry =>
      have hadded := forall_add kept before entry
      simp only [Draft.step]
      cases hadd : draft.add entry with
      | mk answer result =>
          rw [hadd] at hadded
          cases answer <;> exact hadded
  | remove index =>
      simp only [Draft.step]
      cases hremove : draft.remove index with
      | error e => exact before
      | ok result => exact forall_remove before hremove
  | update index field value =>
      simp only [Draft.step]
      cases hupdate : draft.update index field value with
      | error e => exact before
      | ok pair => exact forall_update kept before hupdate

/-- Any edits, one after the other. -/
theorem forall_run (kept : DraftRow.Kept P) (before : ∀ row ∈ draft, P row) (steps : List Step) :
    ∀ row ∈ draft.run steps, P row := by
  induction steps generalizing draft with
  | nil => exact before
  | cons step rest ih => exact ih (forall_step kept before step)

lemma forall_addRows (kept : DraftRow.Kept P) {rows : List Json} (before : ∀ row ∈ draft, P row)
    (h : addRows draft rows = .ok result) : ∀ row ∈ result, P row := by
  induction rows generalizing draft with
  | nil => exact Except.ok.inj h ▸ before
  | cons shown rest ih =>
      rw [addRows] at h
      split at h
      · cases h
      · rename_i entry _
        have hadded := forall_add kept before entry
        split at h
        · cases h
        · rename_i _ next hadd
          rw [hadd] at hadded
          exact ih hadded h

/-- The rows of a plan that a draft is begun with. -/
theorem forall_ofRows (kept : DraftRow.Kept P) {rows : List Json} (h : ofRows rows = .ok draft) :
    ∀ row ∈ draft, P row :=
  forall_addRows kept (fun _ hrow => absurd hrow List.not_mem_nil) h

/-! ### Places -/

/-- A draft is begun with rows that name one place each, or none, or with the rows of a plan. -/
inductive Begun : Draft → Prop where
  | rows {start : Draft} (once : ∀ row ∈ start, row.PlacedOnce) : Begun start
  | plan {shown : List Json} {start : Draft} (read : ofRows shown = .ok start) : Begun start

/-- However a draft is edited, and whether the edits succeed or fail, no row names a listed location
and words at once. -/
theorem placedOnce_run {start : Draft} (begun : start.Begun) (steps : List Step) :
    ∀ row ∈ start.run steps, row.PlacedOnce := by
  refine forall_run DraftRow.kept_placedOnce ?_ steps
  cases begun with
  | rows once => exact once
  | plan read => exact forall_ofRows DraftRow.kept_placedOnce read

/-- The plan of a hall that is listed. -/
def hallPlan : List Json :=
  [.obj [("locationID", .int 1), ("locationName", .str "Hall"), ("quantity", .int 2)]]

/-- The draft that is begun with it keeps the id. -/
def hallDraft : Draft :=
  [{ locationId := some 1, quantity := .int 2 }]

/-- A row is added under an id that is no number, then given words and an id that is `true`; the row
of the hall is given a list for words, and then an id that is no number. -/
def hallEdits : List Step :=
  [.add { locationId := .str "five" }, .update 1 "locationName" (.str "Van"),
    .update 1 "locationID" (.bool true), .update 0 "locationName" (.arr [.null]),
    .update 0 "locationID" (.str "five"), .remove 7]

/-- The added row stays though its id cannot be read, and each row keeps what was given last. -/
theorem placedOnce_run_hall :
    ofRows hallPlan = .ok hallDraft
      ∧ hallDraft.run hallEdits
        = [{ locationName := .arr [.null], quantity := .int 2 }, { locationId := some 1 }]
      ∧ ∀ row ∈ hallDraft.run hallEdits, row.PlacedOnce := by
  have hread : ofRows hallPlan = .ok hallDraft := rfl
  exact ⟨hread, rfl, placedOnce_run (.plan hread) hallEdits⟩

end Draft

end StageStock
