import Mathlib.Tactic.Lemma
import StageStock.Proofs.DraftEdits
import StageStock.Proofs.Drafts

/-!
What an edit that fails leaves of a draft.

Whoever drops a row or edits a field learns of a failure before anything has changed. A new row is
there before its place is read, and it stays there, without a place, if its place cannot be read. So
of all edits that fail, exactly those that add a row leave something behind.

* `Draft.Entry.placed`: a new row with its place, and `Draft.add_eq`: the adding of a row says
  whether that can be read, but the row is added in either case;
* `Draft.Entry.HasId`: the id that is given can be read (`Draft.Entry.placed_of_hasId`,
  `Draft.Entry.placed_of_not_hasId`);
* `Draft.step_of_error`: what an edit leaves if it fails;
* `Draft.failsCleanly_iff`: exactly which edits leave a draft as it was if they fail.
-/

namespace StageStock

namespace Draft

variable {draft : Draft} {entry : Entry} {failure : Failure}

/-! ### New rows -/

/-- A new row with its place: the listed location, or else the words, if any are given. -/
def Entry.placed (entry : Entry) : Except Failure DraftRow :=
  if !entry.locationId.isNull then entry.row.edit "locationID" entry.locationId
  else if entry.locationName.isGiven then entry.row.edit "locationName" entry.locationName
  else .ok entry.row

/-- A row is added whether its place can be read or not. -/
lemma add_eq (draft : Draft) (entry : Entry) :
    draft.add entry = match entry.placed with
      | .error failure => (.error failure, draft ++ [entry.row])
      | .ok row => (.ok draft.length, draft ++ [row]) := by
  simp only [add, update_last, Entry.placed, Entry.row]
  by_cases hid : entry.locationId.isNull = true
  · by_cases hname : entry.locationName.isGiven = true
    · simp only [hid, hname, Bool.not_true, Bool.false_eq_true, if_false, if_true]
      generalize DraftRow.edit _ _ _ = placed
      cases placed <;> rfl
    · simp only [hid, hname, Bool.not_true, Bool.false_eq_true, if_false]
  · simp only [hid, Bool.not_false, if_true]
    generalize DraftRow.edit _ _ _ = placed
    cases placed <;> rfl

/-- The id that is given for a new row can be read, or none is given: what is given is nothing, an
empty text or a whole number. -/
def Entry.HasId (entry : Entry) : Prop :=
  entry.locationId.str? = some "" ∨ ∃ id, entry.locationId.toWhole = .ok id

lemma Entry.placed_of_hasId (readable : entry.HasId) : ∃ row, entry.placed = .ok row := by
  rw [placed]
  split
  · simp only [DraftRow.edit]
    split
    · exact ⟨_, rfl⟩
    · rename_i hgiven
      rcases readable with hempty | ⟨id, hid⟩
      · simp [hempty] at hgiven
      · rw [hid]
        exact ⟨_, rfl⟩
  · split
    · -- words are taken as they come
      simp only [DraftRow.edit]
      split <;> exact ⟨_, rfl⟩
    · exact ⟨_, rfl⟩

lemma Entry.placed_of_not_hasId (unreadable : ¬ entry.HasId) :
    ∃ failure, entry.placed = .error failure := by
  obtain ⟨hgiven, hunread⟩ := not_or.1 unreadable
  have hnull : entry.locationId.isNull = false := by
    cases hvalue : entry.locationId with
    | null => exact absurd ⟨0, congrArg Json.toWhole hvalue⟩ hunread
    | _ => rfl
  cases hread : entry.locationId.toWhole with
  | ok id => exact absurd ⟨id, hread⟩ hunread
  | error failure => exact ⟨failure, by simp [placed, DraftRow.edit, hnull, hgiven, hread]⟩

/-! ### Edits that fail -/

/-- What an edit leaves if it fails: a new row without a place, and of any other edit nothing. -/
theorem step_of_error {step : Step} (failed : (draft.step step).1 = .error failure) :
    (draft.step step).2 = match step with
      | .add entry => draft ++ [entry.row]
      | .remove _ | .update .. => draft := by
  cases step with
  | add entry =>
      simp only [Draft.step, add_eq] at failed ⊢
      cases hplaced : entry.placed with
      | error failure => rfl
      | ok row => simp [hplaced] at failed
  | remove index =>
      simp only [Draft.step] at failed ⊢
      cases hremove : draft.remove index with
      | error failure => rfl
      | ok result => simp [hremove] at failed
  | update index field value =>
      simp only [Draft.step] at failed ⊢
      cases hupdate : draft.update index field value with
      | error failure => rfl
      | ok pair => simp [hupdate] at failed

/-- An edit fails cleanly: if it fails, the draft is as it was before. -/
def FailsCleanly (draft : Draft) (step : Step) : Prop :=
  ∀ failure, (draft.step step).1 = .error failure → (draft.step step).2 = draft

/-- The adding of a row whose id cannot be read does not. -/
lemma not_failsCleanly_add (unreadable : ¬ entry.HasId) :
    (draft.step (.add entry)).2 = draft ++ [entry.row] ∧ ¬ draft.FailsCleanly (.add entry) := by
  obtain ⟨failure, hplaced⟩ := Entry.placed_of_not_hasId unreadable
  have hstep : draft.step (.add entry) = (.error failure, draft ++ [entry.row]) := by
    simp only [Draft.step, add_eq, hplaced]
  refine ⟨by rw [hstep], fun hclean => ?_⟩
  have hsame := hclean failure (by rw [hstep])
  rw [hstep] at hsame
  exact absurd hsame (by simp)

/-- The adding of a row whose id can be read does not fail at all. -/
lemma failsCleanly_add (readable : entry.HasId) : draft.FailsCleanly (.add entry) := by
  obtain ⟨row, hplaced⟩ := Entry.placed_of_hasId readable
  intro failure failed
  simp [Draft.step, add_eq, hplaced] at failed

/-- Whatever the draft: the dropping of a row and the editing of a field leave it as it was if they
fail, and so does the adding of a row, except if an id is given for it that cannot be read. Then the
draft has grown by the row without a place. -/
theorem failsCleanly_iff (draft : Draft) (step : Step) :
    (draft.FailsCleanly step ↔ ∀ entry, step = .add entry → entry.HasId)
      ∧ (¬ draft.FailsCleanly step → ∃ entry, step = .add entry
        ∧ (draft.step step).2 = draft ++ [entry.row]) := by
  cases step with
  | add entry =>
      by_cases hid : entry.HasId
      · have hclean : draft.FailsCleanly (.add entry) := failsCleanly_add hid
        exact ⟨iff_of_true hclean fun other hsame => Step.add.inj hsame ▸ hid,
          fun hunclean => absurd hclean hunclean⟩
      · obtain ⟨hgrown, hunclean⟩ : (draft.step (.add entry)).2 = draft ++ [entry.row]
            ∧ ¬ draft.FailsCleanly (.add entry) := not_failsCleanly_add hid
        exact ⟨iff_of_false hunclean fun hall => hid (hall entry rfl),
          fun _ => ⟨entry, rfl, hgrown⟩⟩
  | remove index =>
      have hclean : draft.FailsCleanly (.remove index) := fun _ failed => step_of_error failed
      exact ⟨iff_of_true hclean nofun, fun hunclean => absurd hclean hunclean⟩
  | update index field value =>
      have hclean : draft.FailsCleanly (.update index field value) :=
        fun _ failed => step_of_error failed
      exact ⟨iff_of_true hclean nofun, fun hunclean => absurd hclean hunclean⟩

/-- Three units are added to the plan of the hall, under a word for an id. -/
def strayEntry : Entry :=
  { locationId := .str "five", quantity := .int 3 }

/-- The word is declined, but the three units are in the draft. -/
theorem not_failsCleanly_stray :
    (hallDraft.step (.add strayEntry)).1 = .error (.notANumeral "five")
      ∧ (hallDraft.step (.add strayEntry)).2
        = [{ locationId := some 1, quantity := .int 2 }, { quantity := .int 3 }]
      ∧ ¬ hallDraft.FailsCleanly (.add strayEntry) := by
  refine ⟨rfl, rfl, fun hclean => ?_⟩
  have hsame : hallDraft ++ [strayEntry.row] = hallDraft := hclean (.notANumeral "five") rfl
  exact absurd hsame (by simp)

end Draft

end StageStock
