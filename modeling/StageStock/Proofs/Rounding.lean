import Mathlib.Algebra.Order.Field.Power
import Mathlib.Algebra.Order.Field.Rat
import Mathlib.Tactic.Lemma
import Mathlib.Tactic.Linarith
import Mathlib.Tactic.Positivity
import Mathlib.Tactic.Ring
import StageStock.Snapshot.Availability

/-!
Rounding does not lead far away.

* `Rounding.exponentOf_bounds`: between which powers of two a number lies;
* `Rounding.nearest_near`: a number is rounded by at most half the spacing at it;
* `Rounding.le_nearest`: and not below a floating-point number that it reaches;
* `Rounding.two_pow_le_nearest_of_half`, `Rounding.nearest_lt_two_pow`: from where on a number is
  rounded to a power of two or to more;
* `Rounding.limit_le_nearest_add`: so that a sum beyond 64 bits is still beyond them when both
  numbers and the sum are rounded;
* `Rounding.tooLarge_iff`: which numbers are too large for floating-point arithmetic;
* `Snapshot.exists_summary?`, `Snapshot.summary?_eq_error`: so that a ledger has a summary exactly
  if its total is not too large or nothing is left, and always if the total can be stored
  (`Snapshot.summary?_eq_ok`).
-/

namespace StageStock

namespace Rounding

/-! ### Powers of two -/

lemma power_two_eq (e : Int) : power 2 e = (2 : Rat) ^ e := by
  rw [power]
  split
  · rename_i h
    lift e to ℕ using h
    rw [zpow_natCast, Int.toNat_natCast]
    exact Nat.cast_pow 2 e
  · rename_i h
    obtain ⟨n, hn⟩ := Int.eq_ofNat_of_zero_le (by omega : 0 ≤ -e)
    obtain rfl : e = -n := by omega
    rw [zpow_neg, zpow_natCast, neg_neg, Int.toNat_natCast, one_div]
    exact congrArg _ (Nat.cast_pow 2 n)

lemma power_two_pos (e : Int) : 0 < power 2 e := by
  rw [power_two_eq]
  positivity

lemma power_two_le {e : Int} {n : Nat} (h : e ≤ n) : power 2 e ≤ 2 ^ n := by
  rw [power_two_eq, ← zpow_natCast]
  exact zpow_le_zpow_right₀ (by norm_num) h

/-! ### The spacing at a number -/

/-- The exponent of a number is that of the largest power of two that it reaches. -/
lemma exponentOf_bounds {x : Rat} (h : 0 < x) :
    (2 : Rat) ^ exponentOf x ≤ x ∧ x < 2 ^ (exponentOf x + 1) := by
  have hnum : 0 < x.num := Rat.num_pos.2 h
  have hcast : ((x.num.toNat : ℕ) : Rat) = x.num := by exact_mod_cast Int.toNat_of_nonneg hnum.le
  have hden : (0 : Rat) < x.den := by exact_mod_cast x.den_pos
  have hx : x * x.den = x.num := Rat.mul_den_eq_num x
  generalize ha : (x.num.toNat.log2 : Int) = a
  generalize hb : (x.den.log2 : Int) = b
  have hnumlow : (2 : Rat) ^ a ≤ x.num := by
    rw [← hcast, ← ha, zpow_natCast]
    exact_mod_cast Nat.log2_self_le (by omega)
  have hnumhigh : (x.num : Rat) < 2 ^ (a + 1) := by
    rw [← hcast, ← ha]
    exact_mod_cast Nat.lt_log2_self (n := x.num.toNat)
  have hdenlow : (2 : Rat) ^ b ≤ x.den := by
    rw [← hb, zpow_natCast]
    exact_mod_cast Nat.log2_self_le x.den_nz
  have hdenhigh : (x.den : Rat) < 2 ^ (b + 1) := by
    rw [← hb]
    exact_mod_cast Nat.lt_log2_self (n := x.den)
  have hlow : (2 : Rat) ^ (a - b - 1) ≤ x := by
    refine le_of_mul_le_mul_right ?_ hden
    calc (2 : Rat) ^ (a - b - 1) * x.den
        ≤ 2 ^ (a - b - 1) * 2 ^ (b + 1) :=
          mul_le_mul_of_nonneg_left hdenhigh.le (zpow_pos (by norm_num) _).le
      _ = 2 ^ a := by rw [← zpow_add₀ (by norm_num)]; congr 1; omega
      _ ≤ x * x.den := by rw [hx]; exact hnumlow
  have hhigh : x < 2 ^ (a - b + 1) := by
    refine lt_of_mul_lt_mul_right ?_ hden.le
    calc x * x.den < 2 ^ (a + 1) := by rw [hx]; exact hnumhigh
      _ = 2 ^ (a - b + 1) * 2 ^ b := by rw [← zpow_add₀ (by norm_num)]; congr 1; omega
      _ ≤ 2 ^ (a - b + 1) * x.den :=
          mul_le_mul_of_nonneg_left hdenlow (zpow_pos (by norm_num) _).le
  simp only [exponentOf, power_two_eq, ha, hb]
  split
  · rename_i hless
    exact ⟨hlow, by rwa [sub_add_cancel]⟩
  · rename_i hmore
    exact ⟨not_lt.1 hmore, hhigh⟩

lemma exponentOf_lt {x : Rat} (pos : 0 < x) {n : Int} (h : x < 2 ^ n) : exponentOf x < n :=
  (zpow_lt_zpow_iff_right₀ (by norm_num)).1 ((exponentOf_bounds pos).1.trans_lt h)

lemma le_exponentOf {x : Rat} {n : Int} (h : 2 ^ n ≤ x) : n ≤ exponentOf x := by
  have hpos : 0 < x := (zpow_pos (by norm_num) n).trans_le h
  exact Int.le_of_lt_add_one
    ((zpow_lt_zpow_iff_right₀ (by norm_num)).1 (h.trans_lt (exponentOf_bounds hpos).2))

lemma spacing_eq (x : Rat) : spacing x = 2 ^ max (exponentOf x - 52) (-1074) :=
  power_two_eq _

lemma spacing_pos (x : Rat) : 0 < spacing x :=
  power_two_pos _

/-! ### Whole numbers -/

/-- A number lies no further than a half from its nearest whole number. -/
lemma halfEven_near (x : Rat) : x - 1 / 2 ≤ halfEven x ∧ (halfEven x : Rat) ≤ x + 1 / 2 := by
  have hlow := Rat.floor_le x
  have hhigh := Rat.lt_floor_add_one x
  push_cast at hhigh
  simp only [halfEven]
  split_ifs <;> push_cast <;> constructor <;> linarith

/-- Rounding does not lead below a whole number. -/
lemma le_halfEven {k : Int} {x : Rat} (h : k ≤ x) : k ≤ halfEven x := by
  have hfloor : k ≤ x.floor := Rat.le_floor_iff.2 h
  simp only [halfEven]
  split_ifs <;> omega

/-- A tie below an even number goes up to it. -/
lemma le_halfEven_of_even {k : Int} {x : Rat} (even : k % 2 = 0) (h : k - 1 / 2 ≤ x) :
    k ≤ halfEven x := by
  have hfloor : k - 1 ≤ x.floor := by
    rw [Rat.le_floor_iff]
    push_cast
    linarith
  by_cases hreach : k ≤ x.floor
  · exact le_halfEven (Rat.le_floor_iff.1 hreach)
  · obtain hbelow : x.floor = k - 1 := by omega
    simp only [halfEven, hbelow]
    split_ifs with hless hmore heven
    · push_cast at hless
      linarith
    · omega
    · omega
    · omega

/-! ### Floating-point numbers -/

/-- A number is rounded by at most half the spacing at it. -/
lemma nearest_near (x : Rat) : x - spacing (if x < 0 then -x else x) / 2 ≤ nearest x
    ∧ nearest x ≤ x + spacing (if x < 0 then -x else x) / 2 := by
  have hpos := spacing_pos (if x < 0 then -x else x)
  by_cases hzero : x = 0
  · rw [nearest, if_pos hzero]
    constructor <;> linarith
  · rw [nearest, if_neg hzero]
    obtain ⟨hlow, hhigh⟩ := halfEven_near (x / spacing (if x < 0 then -x else x))
    have hx : x / spacing (if x < 0 then -x else x) * spacing (if x < 0 then -x else x) = x :=
      div_mul_cancel₀ x hpos.ne'
    have hlow' := mul_le_mul_of_nonneg_right hlow hpos.le
    have hhigh' := mul_le_mul_of_nonneg_right hhigh hpos.le
    rw [sub_mul, hx, one_div_mul_eq_div] at hlow'
    rw [add_mul, hx, one_div_mul_eq_div] at hhigh'
    exact ⟨hlow', hhigh'⟩

/-- Rounding does not lead below a floating-point number, that is a multiple of a power of two that
is no finer than the spacing. -/
lemma le_nearest {x : Rat} (pos : 0 < x) {k j : Int} (h : k * 2 ^ j ≤ x)
    (coarse : max (exponentOf x - 52) (-1074) ≤ j) : k * 2 ^ j ≤ nearest x := by
  have hunit := spacing_pos x
  obtain ⟨i, hi⟩ := Int.le.dest coarse
  have hsplit : (k * 2 ^ j : Rat) = ((k * 2 ^ i : Int) : Rat) * spacing x := by
    rw [spacing_eq, ← hi, zpow_add₀ (by norm_num), zpow_natCast]
    push_cast
    ring
  rw [nearest, if_neg pos.ne', if_neg pos.not_gt]
  rw [hsplit] at h ⊢
  have hunits : k * 2 ^ i ≤ halfEven (x / spacing x) := le_halfEven ((le_div_iff₀ hunit).2 h)
  exact mul_le_mul_of_nonneg_right (by exact_mod_cast hunits) hunit.le

lemma nearest_nonneg {x : Rat} (h : 0 ≤ x) : 0 ≤ nearest x := by
  rcases h.eq_or_lt with rfl | hpos
  · decide +kernel
  · have hzero := le_nearest hpos (k := 0) (j := max (exponentOf x - 52) (-1074))
      (by simpa using h) le_rfl
    simpa using hzero

/-- Rounding does not lead below a power of two. -/
lemma two_pow_le_nearest {n : ℕ} {x : Rat} (h : 2 ^ n ≤ x) : 2 ^ n ≤ nearest x := by
  have hpos : 0 < x := (pow_pos (by norm_num) n).trans_le h
  have hn : (n : Int) ≤ exponentOf x := le_exponentOf (by rwa [zpow_natCast])
  have hfloat : ((2 ^ 52 : Int) : Rat) * 2 ^ (exponentOf x - 52) = 2 ^ exponentOf x := by
    rw [zpow_sub₀ (by norm_num)]
    norm_num
    ring
  have hnearest := le_nearest hpos (k := 2 ^ 52) (j := exponentOf x - 52)
    (hfloat ▸ (exponentOf_bounds hpos).1) (by omega)
  rw [hfloat] at hnearest
  refine le_trans ?_ hnearest
  rw [← zpow_natCast]
  exact zpow_le_zpow_right₀ (by norm_num) hn


/-! ### Just below a power of two -/

lemma spacing_of_le {n : ℕ} {x : Rat} (low : 2 ^ (n + 52) ≤ x) (high : x < 2 ^ (n + 53)) :
    spacing x = 2 ^ n := by
  have hpos : 0 < x := (pow_pos (by norm_num) _).trans_le low
  have hle : (n + 52 : Int) ≤ exponentOf x := le_exponentOf (by exact_mod_cast low)
  have hlt : exponentOf x < (n + 53 : Int) := exponentOf_lt hpos (by exact_mod_cast high)
  rw [spacing_eq, show max (exponentOf x - 52) (-1074) = (n : Int) by omega, zpow_natCast]

/-- From half a spacing below a power of two on, numbers are rounded to it or to more. -/
lemma two_pow_le_nearest_of_half {n : ℕ} {x : Rat} (h : 2 ^ (n + 54) - 2 ^ n ≤ x) :
    2 ^ (n + 54) ≤ nearest x := by
  by_cases hreach : 2 ^ (n + 54) ≤ x
  · exact two_pow_le_nearest hreach
  · have hunit : (0 : Rat) < 2 ^ n := by positivity
    have hdouble : (2 : Rat) ^ (n + 1) = 2 * 2 ^ n := pow_succ' 2 n
    rw [pow_add] at h
    have hlow : 2 ^ (n + 1 + 52) ≤ x := by
      rw [pow_add, hdouble]
      linarith
    have hpos : 0 < x := lt_of_lt_of_le (by positivity) hlow
    have hunits : (2 ^ 53 : Int) ≤ halfEven (x / 2 ^ (n + 1)) := by
      refine le_halfEven_of_even (by norm_num) ((le_div_iff₀ (by positivity)).2 ?_)
      rw [hdouble]
      push_cast
      linarith
    rw [nearest, if_neg hpos.ne', if_neg hpos.not_gt, spacing_of_le hlow (not_le.1 hreach)]
    calc (2 : Rat) ^ (n + 54) = (2 ^ 53 : Int) * 2 ^ (n + 1) := by
          push_cast
          ring
      _ ≤ halfEven (x / 2 ^ (n + 1)) * 2 ^ (n + 1) :=
          mul_le_mul_of_nonneg_right (by exact_mod_cast hunits) (by positivity)

/-- Further below it, numbers are rounded to less. -/
lemma nearest_lt_two_pow {n : ℕ} {x : Rat} (pos : 0 < x) (h : x < 2 ^ (n + 54) - 2 ^ n) :
    nearest x < 2 ^ (n + 54) := by
  have hunit : (0 : Rat) < 2 ^ n := by positivity
  have hexponent : exponentOf x < ((n + 54 : ℕ) : Int) := by
    refine exponentOf_lt pos ?_
    rw [zpow_natCast]
    exact h.trans (sub_lt_self _ hunit)
  have hspacing : spacing x ≤ 2 ^ (n + 1) := power_two_le (by push_cast at hexponent ⊢; omega)
  have hdouble : (2 : Rat) ^ (n + 1) = 2 * 2 ^ n := pow_succ' 2 n
  obtain ⟨-, hnear⟩ := nearest_near x
  rw [if_neg pos.not_gt] at hnear
  linarith

/-! ### Sums beyond 64 bits -/

/-- The larger one of two numbers that reach the limit together is rounded to a multiple of the
spacing, and the smaller one not below what that leaves of the limit. -/
lemma limit_le_nearest_add_of_le {n m : Int} (hm : 0 ≤ m) (le : m ≤ n) (h : 2 ^ 63 ≤ n + m) :
    2 ^ 63 ≤ nearest (nearest n + nearest m) := by
  have hmround : (0 : Rat) ≤ nearest m := nearest_nonneg (by exact_mod_cast hm)
  by_cases hlarge : 2 ^ 63 ≤ n
  · have hnround : (2 : Rat) ^ 63 ≤ nearest n := two_pow_le_nearest (by exact_mod_cast hlarge)
    exact two_pow_le_nearest (by linarith)
  · have hnlow : (2 : Rat) ^ 62 ≤ n := by exact_mod_cast (by omega : (2 : Int) ^ 62 ≤ n)
    have hnhigh : (n : Rat) < 2 ^ 63 := by exact_mod_cast not_le.1 hlarge
    by_cases hboth : 2 ^ 62 ≤ m
    · have hnround := two_pow_le_nearest hnlow
      have hmround : (2 : Rat) ^ 62 ≤ nearest m := two_pow_le_nearest (by exact_mod_cast hboth)
      exact two_pow_le_nearest (by linarith)
    · have hnpos : (0 : Rat) < n := lt_of_lt_of_le (by norm_num) hnlow
      have hmpos : (0 : Rat) < m := by exact_mod_cast (by omega : 0 < m)
      -- in units of the half spacing, what the rounded `n` leaves of the limit
      obtain ⟨hnear, -⟩ := halfEven_near ((n : Rat) / 2 ^ 10)
      have hnround : nearest n = halfEven ((n : Rat) / 2 ^ 10) * 2 ^ 10 := by
        rw [nearest, if_neg hnpos.ne', if_neg hnpos.not_gt, spacing_of_le (n := 10) hnlow hnhigh]
      generalize halfEven ((n : Rat) / 2 ^ 10) = units at hnear hnround
      have hsum : (2 : Rat) ^ 63 ≤ n + m := by exact_mod_cast h
      have hrest : ((2 ^ 54 - 2 * units - 1 : Int) : Rat) * 2 ^ (9 : Int) ≤ m := by
        push_cast
        norm_num at hnear hsum ⊢
        linarith
      have hexponent : exponentOf (m : Rat) < 62 :=
        exponentOf_lt hmpos (by exact_mod_cast not_le.1 hboth)
      have hmnear := le_nearest hmpos hrest (by omega)
      refine two_pow_le_nearest_of_half (n := 9) ?_
      rw [hnround]
      push_cast at hmnear
      norm_num at hmnear ⊢
      linarith

/-- Two numbers that reach the limit of 64 bits together still do when they and their sum are
rounded. -/
theorem limit_le_nearest_add {n m : Int} (hn : 0 ≤ n) (hm : 0 ≤ m) (h : 2 ^ 63 ≤ n + m) :
    2 ^ 63 ≤ nearest (nearest n + nearest m) := by
  rcases le_total m n with hle | hle
  · exact limit_le_nearest_add_of_le hm hle h
  · rw [add_comm]
    exact limit_le_nearest_add_of_le hn hle (by omega)

/-! ### Numbers that are too large -/

/-- A positive number is too large from half a spacing below `2 ^ 1024` on. -/
theorem tooLarge_iff {n : Int} (pos : 0 < n) : tooLarge n = true ↔ 2 ^ 1024 - 2 ^ 970 ≤ n := by
  have hpos : (0 : Rat) < n := by exact_mod_cast pos
  have hlargest : power 2 1024 = 2 ^ (970 + 54) := by
    rw [power_two_eq]
    exact zpow_natCast 2 1024
  have hnonneg : -power 2 1024 < nearest n :=
    (neg_lt_zero.2 (power_two_pos 1024)).trans_le (nearest_nonneg hpos.le)
  have hcast : ∀ k j : ℕ, 2 ^ k - 2 ^ j ≤ n ↔ (2 : Rat) ^ k - 2 ^ j ≤ n :=
    fun k j => by exact_mod_cast Iff.rfl
  rw [tooLarge, Bool.or_eq_true, decide_eq_true_iff, decide_eq_true_iff,
    or_iff_left (not_le.2 hnonneg), hlargest, hcast]
  constructor
  · intro hreach
    by_contra hless
    exact hreach.not_gt (nearest_lt_two_pow hpos (not_le.1 hless))
  · exact two_pow_le_nearest_of_half

lemma tooLarge_eq_false {n : Int} (pos : 0 < n) (h : n < 2 ^ 1024 - 2 ^ 970) :
    tooLarge n = false := by
  rw [← Bool.not_eq_true, tooLarge_iff pos, not_le]
  exact h

lemma lt_of_fitsWord {n : Int} (h : fitsWord n = true) : n < 2 ^ 1024 - 2 ^ 970 := by
  rw [fitsWord, Bool.and_eq_true, decide_eq_true_iff, decide_eq_true_iff] at h
  exact h.2.trans (by decide +kernel)

end Rounding

namespace Snapshot

variable {s : Snapshot}

/-- There is an answer to how much is left if the total is not too large, or if nothing is. -/
lemma exists_levelWarnings? (h : s.total < 2 ^ 1024 - 2 ^ 970 ∨ s.inStore ≤ 0) :
    ∃ level, s.levelWarnings? = .ok level := by
  by_cases htotal : s.total ≤ 0
  · exact ⟨[], by rw [levelWarnings?, if_pos htotal]⟩
  · by_cases hstore : s.inStore ≤ 0
    · exact ⟨_, by rw [levelWarnings?, if_neg htotal, if_pos hstore]⟩
    · have hfits : Rounding.tooLarge s.total = false :=
        Rounding.tooLarge_eq_false (not_le.1 htotal) (h.resolve_right hstore)
      simp only [levelWarnings?, htotal, hstore, if_false, lowLimit?, hfits, Bool.false_eq_true]
      split <;> exact ⟨_, rfl⟩

/-- A ledger has a summary if its total is not too large, or if nothing is left. -/
theorem exists_summary? (h : s.total < 2 ^ 1024 - 2 ^ 970 ∨ s.inStore ≤ 0) (held : Int) :
    ∃ summary, s.summary? held = .ok summary := by
  obtain ⟨level, hlevel⟩ := exists_levelWarnings? h
  rw [summary?, warnings?, hlevel]
  exact ⟨_, rfl⟩

/-- Otherwise the limit that says how much is little cannot be computed. -/
theorem summary?_eq_error (large : 2 ^ 1024 - 2 ^ 970 ≤ s.total) (some : 0 < s.inStore)
    (held : Int) : s.summary? held = .error .totalTooLarge := by
  have hpos : 0 < s.total := lt_of_lt_of_le (by decide +kernel) large
  have hlarge : Rounding.tooLarge s.total = true := (Rounding.tooLarge_iff hpos).2 large
  rw [summary?, warnings?, levelWarnings?, if_neg hpos.not_ge, if_neg some.not_ge, lowLimit?,
    if_pos hlarge]

/-- A ledger has a summary if its total can be stored. -/
theorem summary?_eq_ok (h : fitsWord s.total = true) (held : Int) :
    ∃ summary, s.summary? held = .ok summary :=
  exists_summary? (Or.inl (Rounding.lt_of_fitsWord h)) held

end Snapshot

end StageStock
