import Mathlib.Tactic.Lemma
import StageStock.Store

/-!
Failures in the ordinary course.

A request can fail for what the caller asks for, for what is stored, or for what others do at the
same time. The other failures are those of the ledger itself: a rule that a change would have
broken, and a second row for one show.

* `Failure.IsOrdinary`: failures of the first kind, and numbers that cannot be stored or looked up;
* `Failure.IsRefusal`: those that the same ledger gives again, so that the request is not repeated;
* `Store.isOrdinary_of_equipment?` and the like: a row that is not found is an ordinary failure.
-/

namespace StageStock

/-- The kinds of failure that a caller has to expect. -/
def NoticeKind.isOrdinary : NoticeKind → Bool
  | validation | conflict | notFound | concurrency => true
  | general | invariant => false

namespace Failure

/-- A failure that a caller has to expect. -/
def IsOrdinary (f : Failure) : Prop :=
  f = .numberTooWide ∨ ∃ notice, f.notice? = some notice ∧ notice.kind.isOrdinary = true

/-- A failure that is no reason to try again. -/
def IsRefusal (f : Failure) : Prop :=
  ∃ notice, f.notice? = some notice ∧ notice.kind.isOrdinary = true
    ∧ notice.retryable = false

variable {f : Failure}

lemma IsRefusal.isOrdinary (h : f.IsRefusal) : f.IsOrdinary := by
  obtain ⟨notice, hnotice, hkind, -⟩ := h
  exact Or.inr ⟨notice, hnotice, hkind⟩

lemma IsRefusal.isRetryable_eq (h : f.IsRefusal) : f.isRetryable = false := by
  obtain ⟨notice, hnotice, -, hretryable⟩ := h
  rw [isRetryable, hnotice]
  simp [hretryable]

/-- No rule of the ledger is at stake. -/
lemma IsOrdinary.ne_wouldBreak (h : f.IsOrdinary) (equipment : Int) (action : String)
    (violations : List Violation) : f ≠ .wouldBreak equipment action violations := by
  rintro rfl
  rcases h with h | ⟨notice, hnotice, hkind⟩
  · cases h
  · obtain rfl := Option.some.inj hnotice
    cases hkind

/-- No show would get a second row. -/
lemma IsOrdinary.ne_reservationExists (h : f.IsOrdinary) (showId equipment : Int) :
    f ≠ .reservationExists showId equipment := by
  rintro rfl
  rcases h with h | ⟨notice, hnotice, -⟩
  · cases h
  · cases hnotice

end Failure

/-! ### Rows that are looked up -/

namespace Store

variable {s : Store} {id : Int} {f : Failure}

lemma isOrdinary_of_equipment? (h : s.equipment? id = .error f) : f.IsOrdinary := by
  rw [equipment?] at h
  split at h
  · split at h <;> cases h
    exact Or.inr ⟨_, rfl, rfl⟩
  · cases h
    exact Or.inl rfl

lemma isOrdinary_of_show? (h : s.show? id = .error f) : f.IsOrdinary := by
  rw [show?] at h
  split at h
  · split at h <;> cases h
    exact Or.inr ⟨_, rfl, rfl⟩
  · cases h
    exact Or.inl rfl

lemma isOrdinary_of_location? (h : s.location? id = .error f) : f.IsOrdinary := by
  rw [location?] at h
  split at h
  · split at h <;> cases h
    exact Or.inr ⟨_, rfl, rfl⟩
  · cases h
    exact Or.inl rfl

lemma isOrdinary_of_reservation? (h : s.reservation? id = .error f) : f.IsOrdinary := by
  rw [reservation?] at h
  split at h
  · split at h <;> cases h
    exact Or.inr ⟨_, rfl, rfl⟩
  · cases h
    exact Or.inl rfl

lemma isOrdinary_of_placement? (h : s.placement? id = .error f) : f.IsOrdinary := by
  rw [placement?] at h
  split at h
  · split at h <;> cases h
    exact Or.inr ⟨_, rfl, rfl⟩
  · cases h
    exact Or.inl rfl

lemma isOrdinary_of_ledger? (h : s.ledger? id = .error f) : f.IsOrdinary := by
  rw [ledger?] at h
  split at h
  · rename_i e he
    exact Except.error.inj h ▸ isOrdinary_of_equipment? he
  · cases h

/-- A place that callers name may be named in a way that is not accepted, or not be listed. -/
lemma isOrdinary_of_findPlace {input : Place.Input} (h : s.findPlace input = .error f) :
    f.IsOrdinary := by
  rw [findPlace] at h
  split at h
  · rename_i e he
    obtain rfl := Except.error.inj h
    simp only [Place.ofInput] at he
    split at he
    · split at he
      · exact Except.error.inj he ▸ Or.inr ⟨_, rfl, rfl⟩
      · split at he
        · exact Except.error.inj he ▸ Or.inr ⟨_, rfl, rfl⟩
        · cases he
    · split at he <;> cases he
  · cases h
  · split at h
    · cases h
    · split at h
      · rename_i e he
        exact Except.error.inj h ▸ isOrdinary_of_location? he
      · cases h

end Store

end StageStock
