import Mathlib.Tactic.Lemma
import StageStock.Proofs.Spreading

/-!
How evenly units are spread over places.

Every place gets the same share, and the first ones one unit more until the remainder is used up. So
the units of the planned rows do not increase from one place to the next and differ by one at most,
and the places that get nothing are the last ones: they are left out, and a plan names the first
places alone, as many as there are units.

* `Plan.quota`: what the place of a number gets, which is no more than the place before it gets;
* `Plan.shares_bounds`, `Plan.pairwise_shares`: the planned shares between the common one and the
  first place's, and in their order;
* `Plan.isPrefix_places_shares`: only the last places are left out;
* `Plan.splitEqually_fair`: what units that are spread equally come to.
-/

namespace StageStock

namespace Plan

variable {places : List Place} {units share remainder : Int} {index : Nat} {p : Placement}

/-! ### Shares -/

/-- What the place of a number gets: the common share, and one unit more below the remainder. -/
def quota (share remainder : Int) (index : Nat) : Int :=
  share + if (index : Int) < remainder then 1 else 0

lemma quota_bounds (share remainder : Int) (index : Nat) :
    share ≤ quota share remainder index ∧ quota share remainder index ≤ share + 1 := by
  rw [quota]
  split <;> omega

/-- No later place gets more. -/
lemma quota_succ_le (share remainder : Int) (index : Nat) :
    quota share remainder (index + 1) ≤ quota share remainder index := by
  rw [quota, quota]
  split <;> split <;> omega

lemma shares_cons (place : Place) (rest : List Place) :
    shares share remainder (place :: rest) index
      = if 0 < quota share remainder index then
          placed place (quota share remainder index) :: shares share remainder rest (index + 1)
        else shares share remainder rest (index + 1) := by
  show (if 0 < quota share remainder index then [placed place (quota share remainder index)]
    else []) ++ _ = _
  split <;> rfl

/-- Nobody gets less than the common share, nor more than the first place. -/
lemma shares_bounds (hp : p ∈ shares share remainder places index) :
    share ≤ p.quantity ∧ p.quantity ≤ quota share remainder index := by
  induction places generalizing index with
  | nil => cases hp
  | cons place rest ih =>
      have hlater (hrest : p ∈ shares share remainder rest (index + 1)) :
          share ≤ p.quantity ∧ p.quantity ≤ quota share remainder index :=
        ⟨(ih hrest).1, (ih hrest).2.trans (quota_succ_le share remainder index)⟩
      rw [shares_cons] at hp
      split at hp
      · rcases List.mem_cons.1 hp with rfl | hrest
        · exact ⟨(quota_bounds share remainder index).1, Int.le_refl _⟩
        · exact hlater hrest
      · exact hlater hp

/-- From one place to the next the shares stay the same or become one unit less. -/
lemma pairwise_shares (share remainder : Int) (places : List Place) (index : Nat) :
    ((shares share remainder places index).map Placement.quantity).Pairwise
      fun earlier later => later ≤ earlier ∧ earlier ≤ later + 1 := by
  induction places generalizing index with
  | nil => exact List.Pairwise.nil
  | cons place rest ih =>
      rw [shares_cons]
      split
      · refine List.pairwise_cons.2 ⟨fun later hlater => ?_, ih (index + 1)⟩
        obtain ⟨p, hp, rfl⟩ := List.mem_map.1 hlater
        obtain ⟨hleast, hmost⟩ := shares_bounds hp
        show p.quantity ≤ quota share remainder index
          ∧ quota share remainder index ≤ p.quantity + 1
        exact ⟨hmost.trans (quota_succ_le share remainder index),
          (quota_bounds share remainder index).2.trans (by omega)⟩
      · exact ih (index + 1)

/-- Where the first place gets nothing, no place does. -/
lemma shares_eq_nil (nothing : quota share remainder index ≤ 0) :
    shares share remainder places index = [] := by
  refine List.eq_nil_iff_forall_not_mem.2 fun p hp => ?_
  obtain ⟨-, hone⟩ := (spreads_shares share remainder places index).each p hp
  have hmost := (shares_bounds hp).2
  omega

/-- The places that get nothing are the last ones. -/
lemma isPrefix_places_shares (share remainder : Int) (places : List Place) (index : Nat) :
    (shares share remainder places index).map Placement.place <+: places := by
  induction places generalizing index with
  | nil => exact List.nil_prefix
  | cons place rest ih =>
      rw [shares_cons]
      split
      · exact (List.prefix_cons_inj place).2 (ih (index + 1))
      · rename_i hnothing
        have hlater := (quota_succ_le share remainder index).trans (Int.not_lt.1 hnothing)
        rw [shares_eq_nil hlater]
        exact List.nil_prefix

/-! ### Plans -/

/-- A debt is spread like no units at all. -/
lemma splitEqually_max (places : List Place) (units : Int) :
    splitEqually places (max 0 units) = splitEqually places units := by
  rcases Int.le_total 0 units with hsome | hdebt
  · rw [max_eq_right hsome]
  · rw [max_eq_left hdebt, splitEqually, if_pos (Or.inr (Int.le_refl 0)), splitEqually,
      if_pos (Or.inr hdebt)]

lemma isPrefix_places_splitEqually (places : List Place) (units : Int) :
    (splitEqually places units).map Placement.place <+: places := by
  rw [splitEqually]
  split
  · exact List.nil_prefix
  · exact isPrefix_places_shares _ _ _ _

lemma pairwise_splitEqually (places : List Place) (units : Int) :
    ((splitEqually places units).map Placement.quantity).Pairwise
      fun earlier later => later ≤ earlier ∧ earlier ≤ later + 1 := by
  rw [splitEqually]
  split
  · exact List.Pairwise.nil
  · exact pairwise_shares _ _ _ _

/-- Units that are spread equally go to the first places in their order, as many as there are
places, or units if these are fewer. Each of them gets one unit at least, which is allocated there;
no place gets more than one before it, nor less by more than one unit. If there is a place, all
units are spread. -/
theorem splitEqually_fair (places : List Place) (units : Int) :
    (splitEqually places units).map Placement.place
        = places.take (min places.length (max 0 units).toNat)
      ∧ (∀ p ∈ splitEqually places units,
          1 ≤ p.quantity ∧ p.status = PlacementStatus.allocated.text)
      ∧ ((splitEqually places units).map Placement.quantity).Pairwise
          (fun earlier later => later ≤ earlier ∧ earlier ≤ later + 1)
      ∧ addUp ((splitEqually places units).map Placement.quantity)
          = if places = [] then 0 else max 0 units := by
  have hnonneg : 0 ≤ max 0 units := Int.le_max_left 0 units
  refine ⟨?_, fun p hp => ?_, pairwise_splitEqually places units, ?_⟩
  · have hlength : (splitEqually places units).length
        = min places.length (max 0 units).toNat := by
      have hcount := @length_splitEqually places (max 0 units) hnonneg
      rw [splitEqually_max] at hcount
      omega
    rw [← hlength, ← List.length_map Placement.place]
    exact List.prefix_iff_eq_take.1 (isPrefix_places_splitEqually places units)
  · obtain ⟨hplaced, hone⟩ := (spreads_splitEqually places units).each p hp
    refine ⟨hone, ?_⟩
    rw [hplaced]
    rfl
  · split
    · rename_i hnone
      rw [hnone]
      rfl
    · rename_i hsome
      rw [← splitEqually_max]
      exact addUp_splitEqually hsome hnonneg

/-- Five units make shares of two, two and one, and two units leave the last of three places out. -/
example :
    ((splitEqually [.named 1, .custom "Van", .named 2] 5).map Placement.quantity) = [2, 2, 1]
      ∧ (splitEqually [.named 1, .custom "Van", .named 2] 2).map Placement.place
        = [.named 1, .custom "Van"] := by
  decide

end Plan

end StageStock
