/-!
# Whole numbers

Units are counted in whole numbers, which have no bounds of their own. Rows store only those that
have a place in 64 bits with sign.

* `addUp`: the sum of a list, which does not depend on the order (`addUp_eq_of_perm`);
* `fitsWord`: whether a number can be stored.
-/

namespace StageStock

/-! ### Sums -/

/-- The sum of a list. -/
def addUp : List Int → Int
  | [] => 0
  | n :: rest => n + addUp rest

theorem addUp_append (ns ms : List Int) : addUp (ns ++ ms) = addUp ns + addUp ms := by
  induction ns with
  | nil => simp [addUp]
  | cons n rest ih =>
    simp only [List.cons_append, addUp, ih]
    omega

theorem addUp_eq_of_perm {ns ms : List Int} (h : ns.Perm ms) : addUp ns = addUp ms := by
  induction h with
  | nil => rfl
  | cons n _ ih => simp only [addUp, ih]
  | swap n m rest =>
    simp only [addUp]
    omega
  | trans _ _ ih₁ ih₂ => exact ih₁.trans ih₂

/-! ### Numbers that can be stored -/

/-- The least number that is too large for 64 bits with sign. -/
def wordLimit : Int := 0x8000000000000000

/-- Whether a number has a place in 64 bits with sign. -/
def fitsWord (n : Int) : Bool :=
  -wordLimit ≤ n && n < wordLimit

/-- Whether an optional number, if there is one, has a place in 64 bits with sign. -/
def fitsWord? (n : Option Int) : Bool :=
  n.all fitsWord

end StageStock
