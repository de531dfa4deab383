import StageStock.Proofs.Rounding
import StageStock.Proofs.Tallies

/-!
When a ledger says that little or nothing is left.

Little is left when there is less in the store than two tenths of the total. The limit is computed
in floating-point numbers, and the one nearest to two tenths is a little larger than these. Up to
`2 ^ 53` that does not matter: where five times the store is the total or more, what the limit has
too much is less than half the spacing and is rounded away, and where it is less, the store is at
least a fifth of a unit below the limit, which is more than half the spacing.

* `Rounding.nearest_le_of_lt`, `Rounding.lt_nearest_of_lt`: rounding to one side of a whole number;
* `Rounding.nearest_intCast`: whole numbers up to `2 ^ 53` are floating-point numbers;
* `lt_lowLimit_iff`: the limit decides as the exact fifth does;
* `percentage_bounds`: the percentage below the limit;
* `Snapshot.exactWarnings`, `Snapshot.levelWarnings?_eq`: the warnings about what is left, without
  floating-point numbers;
* `Snapshot.shortage_warnings`: exactly when each of them is given.
-/

namespace StageStock

namespace Rounding

variable {x : Rat} {n : Int}

/-! ### Whole numbers among floating-point numbers -/

lemma nearest_of_pos (pos : 0 < x) : nearest x = halfEven (x / spacing x) * spacing x := by
  rw [nearest, if_neg pos.ne', if_neg pos.not_gt]

/-- At numbers below `2 ^ 53` a whole number is a multiple of the spacing. -/
lemma exists_eq_mul_spacing (pos : 0 < x) (small : x < 2 ^ 53) (n : Int) :
    ∃ units : Int, (n : Rat) = units * spacing x := by
  have hexponent : exponentOf x < 53 := exponentOf_lt pos (by exact_mod_cast small)
  obtain ⟨i, hi⟩ := Int.le.dest (show max (exponentOf x - 52) (-1074) ≤ 0 by omega)
  refine ⟨n * 2 ^ i, ?_⟩
  have hunit : (2 : Rat) ^ i * spacing x = 1 := by
    rw [spacing_eq, ← zpow_natCast, ← zpow_add₀ (by norm_num),
      show (i : Int) + max (exponentOf x - 52) (-1074) = 0 by omega, zpow_zero]
  push_cast
  rw [mul_assoc, hunit, mul_one]

/-- What is less than half the spacing above a whole number is not rounded beyond it. -/
lemma nearest_le_of_lt (pos : 0 < x) (small : x < 2 ^ 53) (h : x < n + spacing x / 2) :
    nearest x ≤ n := by
  have hspacing := spacing_pos x
  obtain ⟨units, hunits⟩ := exists_eq_mul_spacing pos small n
  rw [nearest_of_pos pos, hunits]
  rw [hunits] at h
  have hless : x / spacing x < units + 1 / 2 := by
    rw [div_lt_iff₀ hspacing]
    linarith
  have hround : halfEven (x / spacing x) < units + 1 := by
    have hnear := (halfEven_near (x / spacing x)).2
    exact_mod_cast (by linarith : (halfEven (x / spacing x) : Rat) < units + 1)
  exact mul_le_mul_of_nonneg_right (by exact_mod_cast Int.le_of_lt_add_one hround) hspacing.le

/-- What is more than half the spacing above a whole number is not rounded down to it. -/
lemma lt_nearest_of_lt (pos : 0 < x) (small : x < 2 ^ 53) (h : n + spacing x / 2 < x) :
    n < nearest x := by
  have hspacing := spacing_pos x
  obtain ⟨units, hunits⟩ := exists_eq_mul_spacing pos small n
  rw [nearest_of_pos pos, hunits]
  rw [hunits] at h
  have hmore : units + 1 / 2 < x / spacing x := by
    rw [lt_div_iff₀ hspacing]
    linarith
  have hround : (units : Rat) < halfEven (x / spacing x) := by
    have hnear := (halfEven_near (x / spacing x)).1
    linarith
  exact mul_lt_mul_of_pos_right hround hspacing

/-- Whole numbers up to `2 ^ 53` are floating-point numbers. -/
lemma nearest_intCast (pos : 0 < n) (small : n ≤ 2 ^ 53) : nearest n = n := by
  rcases small.eq_or_lt with rfl | hless
  · decide +kernel
  · have hpos : (0 : Rat) < n := by exact_mod_cast pos
    have hsmall : (n : Rat) < 2 ^ 53 := by exact_mod_cast hless
    have hspacing := spacing_pos n
    refine le_antisymm (nearest_le_of_lt hpos hsmall (by linarith)) ?_
    have hexponent : exponentOf (n : Rat) < 53 := exponentOf_lt hpos (by exact_mod_cast hsmall)
    simpa using le_nearest (k := n) (j := 0) hpos (by simp) (by omega)

end Rounding

/-! ### The limit -/

/-- The floating-point number nearest to two tenths is a little larger. -/
lemma twoTenths_eq : twoTenths = 1 / 5 * (1 + 1 / 2 ^ 54) := by
  decide +kernel

variable {total available : Int}

/-- A number is below the limit exactly if it is below the exact fifth. -/
theorem lt_lowLimit_iff (units : 1 ≤ total) (small : total ≤ 2 ^ 53) :
    (available : Rat) < Rounding.nearest (Rounding.nearest total * twoTenths)
      ↔ 5 * available < total := by
  have hunits : (1 : Rat) ≤ total := by exact_mod_cast units
  have hsmall : (total : Rat) ≤ 2 ^ 53 := by exact_mod_cast small
  rw [Rounding.nearest_intCast units small, twoTenths_eq]
  generalize hx : (total : Rat) * (1 / 5 * (1 + 1 / 2 ^ 54)) = x
  have hpos : 0 < x := by
    rw [← hx]
    positivity
  have hbelow : x < 2 ^ 51 := by
    rw [← hx]
    linarith
  obtain ⟨-, hhigh⟩ := Rounding.exponentOf_bounds hpos
  have hexponent : Rounding.exponentOf x < 51 :=
    Rounding.exponentOf_lt hpos (by exact_mod_cast hbelow)
  constructor
  · -- at the exact fifth or above it, the excess is rounded away
    intro hless
    by_contra hmore
    have hfifth : (total : Rat) ≤ 5 * available := by exact_mod_cast not_lt.1 hmore
    refine absurd hless (not_lt.2 (Rounding.nearest_le_of_lt hpos (by linarith) ?_))
    have hspacing : (2 : Rat) ^ (Rounding.exponentOf x + 1) ≤ Rounding.spacing x * 2 ^ 53 := by
      rw [Rounding.spacing_eq, ← zpow_natCast (2 : Rat) 53, ← zpow_add₀ (by norm_num)]
      exact zpow_le_zpow_right₀ (by norm_num) (by push_cast; omega)
    have hspare := Rounding.spacing_pos x
    linarith
  · -- below it, a fifth of a unit is left
    intro hless
    have hfifth : 5 * (available : Rat) + 1 ≤ total := by exact_mod_cast hless
    refine Rounding.lt_nearest_of_lt hpos (by linarith) ?_
    have hspacing : Rounding.spacing x ≤ 1 / 4 := by
      rw [Rounding.spacing_eq]
      calc (2 : Rat) ^ max (Rounding.exponentOf x - 52) (-1074)
          ≤ 2 ^ (-2 : Int) := zpow_le_zpow_right₀ (by norm_num) (by omega)
        _ = 1 / 4 := by norm_num
    linarith

/-- Below the limit the percentage is at most twenty. -/
lemma percentage_bounds (some : 0 ≤ available) (low : 5 * available < total) :
    0 ≤ percentage available total ∧ percentage available total ≤ 20 := by
  have hsome : (0 : Rat) ≤ available := by exact_mod_cast some
  have htotal : (0 : Rat) < total := by exact_mod_cast (by omega : 0 < total)
  have hlow : 5 * (available : Rat) ≤ total := by exact_mod_cast low.le
  generalize hy : ((available * 100 : Int) : Rat) / total = y
  have hnonneg : 0 ≤ y := by
    rw [← hy]
    push_cast
    positivity
  have htwenty : y ≤ (20 : Int) := by
    rw [← hy, div_le_iff₀ htotal]
    push_cast
    linarith
  have hround : Rounding.nearest y ≤ (20 : Int) := by
    rcases hnonneg.eq_or_lt with hzero | hpos
    · rw [← hzero]
      decide +kernel
    · have hspacing := Rounding.spacing_pos y
      push_cast at htwenty
      exact Rounding.nearest_le_of_lt hpos (by linarith) (by push_cast; linarith)
  rw [percentage, hy]
  refine ⟨Rounding.le_halfEven (by exact_mod_cast Rounding.nearest_nonneg hnonneg), ?_⟩
  have hnear := (Rounding.halfEven_near (Rounding.nearest y)).2
  push_cast at hround
  exact Int.le_of_lt_add_one
    (by exact_mod_cast (by linarith : (Rounding.halfEven (Rounding.nearest y) : Rat) < 20 + 1))

/-! ### The warnings -/

namespace Snapshot

variable {s : Snapshot}

/-- What the warnings about what is left come to, without floating-point numbers. -/
def exactWarnings (s : Snapshot) : List Warning :=
  if s.inStore ≤ 0 then
    (if 0 < s.requestedUnits then [.mayFreeUp s.requestedUnits] else [])
      ++ [.nothingLeft s.total s.committed]
  else if 5 * s.inStore < s.total then
    [.fewLeft s.inStore s.total (percentage s.inStore s.total)]
  else []

lemma levelWarnings?_eq (units : 1 ≤ s.total) (small : s.total ≤ 2 ^ 53) :
    s.levelWarnings? = .ok s.exactWarnings := by
  have hfits : Rounding.tooLarge s.total = false :=
    Rounding.tooLarge_eq_false units (small.trans_lt (by decide +kernel))
  have hlimit : lowLimit? s.total
      = .ok (Rounding.nearest (Rounding.nearest s.total * twoTenths)) := by
    rw [lowLimit?, hfits]
    rfl
  rw [levelWarnings?, if_neg (by omega), hlimit, exactWarnings]
  by_cases hstore : s.inStore ≤ 0
  · rw [if_pos hstore, if_pos hstore]
  · simp only [hstore, if_false, lt_lowLimit_iff units small]
    split <;> rfl

variable {w : Warning}

/-- Nothing left, with or without requests that may free up units. -/
lemma mem_exactWarnings_of_le (none : s.inStore ≤ 0) :
    w ∈ s.exactWarnings ↔ w = .nothingLeft s.total s.committed
      ∨ 0 < s.requestedUnits ∧ w = .mayFreeUp s.requestedUnits := by
  rw [exactWarnings, if_pos none, List.mem_append, List.mem_singleton, List.mem_ite_nil_right,
    List.mem_singleton, or_comm]

/-- Something left, which may be little. -/
lemma mem_exactWarnings_of_pos (some : 0 < s.inStore) :
    w ∈ s.exactWarnings ↔ 5 * s.inStore < s.total
      ∧ w = .fewLeft s.inStore s.total (percentage s.inStore s.total) := by
  rw [exactWarnings, if_neg some.not_ge, List.mem_ite_nil_right, List.mem_singleton]

/-- That nothing is left is said exactly if nothing is in the store. -/
lemma exists_nothingLeft :
    (∃ w ∈ s.exactWarnings, w.kind = "no_availability") ↔ s.inStore ≤ 0 := by
  constructor
  · rintro ⟨w, hw, hkind⟩
    by_contra hsome
    obtain ⟨-, rfl⟩ := (mem_exactWarnings_of_pos (not_le.1 hsome)).1 hw
    exact absurd hkind (by simp [Warning.kind])
  · exact fun hnone => ⟨_, (mem_exactWarnings_of_le hnone).2 (.inl rfl), rfl⟩

/-- That more may free up is said exactly if there are requests besides. -/
lemma exists_mayFreeUp :
    (∃ w ∈ s.exactWarnings, w.kind = "units_may_free_up")
      ↔ s.inStore ≤ 0 ∧ 0 < s.requestedUnits := by
  constructor
  · rintro ⟨w, hw, hkind⟩
    rcases le_or_gt s.inStore 0 with hnone | hsome
    · obtain rfl | ⟨hrequested, -⟩ := (mem_exactWarnings_of_le hnone).1 hw
      · exact absurd hkind (by simp [Warning.kind])
      · exact ⟨hnone, hrequested⟩
    · obtain ⟨-, rfl⟩ := (mem_exactWarnings_of_pos hsome).1 hw
      exact absurd hkind (by simp [Warning.kind])
  · exact fun ⟨hnone, hrequested⟩ =>
      ⟨_, (mem_exactWarnings_of_le hnone).2 (.inr ⟨hrequested, rfl⟩), rfl⟩

/-- A warning that little is left gives what is left, which is less than a fifth. -/
lemma eq_fewLeft (hw : w ∈ s.exactWarnings) (kind : w.kind = "low_availability") :
    0 < s.inStore ∧ 5 * s.inStore < s.total
      ∧ w = .fewLeft s.inStore s.total (percentage s.inStore s.total) := by
  rcases le_or_gt s.inStore 0 with hnone | hsome
  · obtain rfl | ⟨-, rfl⟩ := (mem_exactWarnings_of_le hnone).1 hw
    · exact absurd kind (by simp [Warning.kind])
    · exact absurd kind (by simp [Warning.kind])
  · exact ⟨hsome, (mem_exactWarnings_of_pos hsome).1 hw⟩

/-- That little is left is said exactly if something is, but less than a fifth. -/
lemma exists_fewLeft :
    (∃ w ∈ s.exactWarnings, w.kind = "low_availability")
      ↔ 0 < s.inStore ∧ 5 * s.inStore < s.total := by
  constructor
  · rintro ⟨w, hw, hkind⟩
    obtain ⟨hsome, hlow, -⟩ := eq_fewLeft hw hkind
    exact ⟨hsome, hlow⟩
  · exact fun ⟨hsome, hlow⟩ => ⟨_, (mem_exactWarnings_of_pos hsome).2 ⟨hlow, rfl⟩, rfl⟩

/-- The kinds of the warnings that are not about what is left. -/
def otherKinds : List String :=
  ["requested_info", "in_use_info", "checked_out_info"]

lemma kind_useWarnings (h : w ∈ s.useWarnings) : w.kind ∈ otherKinds := by
  simp only [useWarnings, List.mem_append, List.mem_ite_nil_right, List.mem_singleton] at h
  rcases h with ⟨-, rfl⟩ | ⟨-, rfl⟩
  · exact List.mem_cons_of_mem _ List.mem_cons_self
  · exact List.mem_cons_of_mem _ (List.mem_cons_of_mem _ List.mem_cons_self)

/-- The warnings of all other kinds are those about what is left. -/
lemma exists_warnings? {level : List Warning} (left : s.levelWarnings? = .ok level) :
    ∃ warnings, s.warnings? = .ok warnings
      ∧ ∀ w : Warning, w.kind ∉ otherKinds → (w ∈ warnings ↔ w ∈ level) := by
  refine ⟨_, by rw [warnings?, left], fun w other => ?_⟩
  rw [List.mem_append, List.mem_append]
  constructor
  · rintro ((hrequested | hlevel) | huse)
    · simp only [List.mem_ite_nil_right, List.mem_singleton] at hrequested
      obtain ⟨-, rfl⟩ := hrequested
      exact absurd List.mem_cons_self other
    · exact hlevel
    · exact absurd (kind_useWarnings huse) other
  · exact fun hlevel => Or.inl (Or.inr hlevel)

/-- For a total from one to `2 ^ 53`, there are warnings, and they say that nothing is left exactly
if nothing is in the store, that more may free up exactly if shows have requested units besides, and
that little is left exactly if something is in the store, but less than a fifth of the total. So
they never say that nothing and that little is left, and where little is left, they say how much in
percent, which is at most twenty. -/
theorem shortage_warnings (units : 1 ≤ s.total) (small : s.total ≤ 2 ^ 53) :
    ∃ warnings, s.warnings? = .ok warnings
      ∧ ((∃ w ∈ warnings, w.kind = "no_availability") ↔ s.inStore ≤ 0)
      ∧ ((∃ w ∈ warnings, w.kind = "units_may_free_up") ↔ s.inStore ≤ 0
        ∧ 0 < addUp ((s.reservations.filter fun r => r.status = "requested").map
          Reservation.allocated))
      ∧ ((∃ w ∈ warnings, w.kind = "low_availability")
        ↔ 0 < s.inStore ∧ 5 * s.inStore < s.total)
      ∧ ¬ ((∃ w ∈ warnings, w.kind = "no_availability")
        ∧ ∃ w ∈ warnings, w.kind = "low_availability")
      ∧ ∀ w ∈ warnings, w.kind = "low_availability" → ∃ share : Int,
        w.details.lookup "percentage" = some (.int share) ∧ 0 ≤ share ∧ share ≤ 20 := by
  obtain ⟨warnings, hwarnings, hlevel⟩ := exists_warnings? (levelWarnings?_eq units small)
  have hkind : ∀ kind ∉ otherKinds, (∃ w ∈ warnings, w.kind = kind)
      ↔ ∃ w ∈ s.exactWarnings, w.kind = kind := fun kind other =>
    exists_congr fun w => and_congr_left fun hw => hlevel w (hw ▸ other)
  have hrequested : s.requestedUnits = addUp ((s.reservations.filter fun r =>
      r.status = "requested").map Reservation.allocated) := s.requestedUnits_eq
  refine ⟨warnings, hwarnings, ?_⟩
  rw [hkind "no_availability" (by decide), hkind "units_may_free_up" (by decide),
    hkind "low_availability" (by decide), exists_nothingLeft, exists_mayFreeUp, exists_fewLeft,
    hrequested]
  refine ⟨Iff.rfl, Iff.rfl, Iff.rfl, fun h => h.2.1.not_ge h.1, ?_⟩
  intro w hw hlow
  obtain ⟨hsome, hless, rfl⟩ :=
    eq_fewLeft ((hlevel w (by rw [hlow]; decide)).1 hw) hlow
  exact ⟨_, rfl, percentage_bounds hsome.le hless⟩

/-- Ten microphones, of which a show has two and the hall seven. -/
def microphones : Snapshot :=
  { equipment := 1, total := 10, placements := [{ id := some 1, place := .named 1, quantity := 7 }],
    reservations := [{ id := some 1, showId := 1, needed := 4, allocated := 2 }] }

/-- One of ten units is left, so there is a warning that little is left, which says how much in
percent, and none that nothing is. -/
theorem shortage_warnings_microphones :
    (1 ≤ microphones.total ∧ microphones.total ≤ 2 ^ 53)
      ∧ ∃ warnings, microphones.warnings? = .ok warnings
        ∧ (∃ w ∈ warnings, w.kind = "low_availability" ∧ ∃ share : Int,
          w.details.lookup "percentage" = some (.int share) ∧ 0 ≤ share ∧ share ≤ 20)
        ∧ ¬ (∃ w ∈ warnings, w.kind = "no_availability")
        ∧ ¬ ∃ w ∈ warnings, w.kind = "units_may_free_up" := by
  have hunits : 1 ≤ microphones.total := by decide
  have hsmall : microphones.total ≤ 2 ^ 53 := by decide
  obtain ⟨warnings, hwarnings, hnone, hfree, hlow, -, hshare⟩ := shortage_warnings hunits hsmall
  obtain ⟨w, hw, hkind⟩ := hlow.2 (by decide)
  refine ⟨⟨hunits, hsmall⟩, warnings, hwarnings, ⟨w, hw, hkind, hshare w hw hkind⟩, ?_, ?_⟩
  · exact fun hsaid => absurd (hnone.1 hsaid) (by decide)
  · exact fun hsaid => absurd (hfree.1 hsaid).1 (by decide)

/-- The warnings themselves: two units are requested, and one of ten is left. -/
example : microphones.warnings?.toOption = some [.requested 2, .fewLeft 1 10 10] := by
  decide +kernel

end Snapshot

end StageStock
