import Mathlib.Data.List.Nodup
import Mathlib.Tactic.Lemma
import StageStock.Whole

/-!
Lists that stand for each other.

`Matched R xs ys` says that each element of `xs` stands for one element of `ys` to which `R` relates
it, one for one and in any order. A ledger in memory and the ledger that is stored are compared in
this way, since rows may be stored in another order.

* `Matched.exists_right`, `Matched.exists_left`: every element has a partner;
* `Matched.filter`, `Matched.append`, `Matched.perm_right`: how matched lists are made from others;
* `Matched.filter_key`, `Matched.split`: parts that are told by a key are matched on their own;
* `Matched.addUp_eq`, `Matched.nodup_map`: sums and the absence of repetitions carry over.
-/

namespace StageStock

/-- Each element of one list stands for one of the other, in any order. -/
def Matched {α β : Type} (R : α → β → Prop) (xs : List α) (ys : List β) : Prop :=
  ∃ pairs : List (α × β), (pairs.map Prod.fst).Perm xs ∧ (pairs.map Prod.snd).Perm ys
    ∧ ∀ pair ∈ pairs, R pair.1 pair.2

namespace Matched

variable {α β γ : Type} {R S : α → β → Prop} {xs xs' : List α} {ys ys' : List β}

lemma nil : Matched R [] [] :=
  ⟨[], List.Perm.refl _, List.Perm.refl _, by simp⟩

lemma singleton {x : α} {y : β} (h : R x y) : Matched R [x] [y] :=
  ⟨[(x, y)], List.Perm.refl _, List.Perm.refl _, by simpa using h⟩

lemma append (h : Matched R xs ys) (h' : Matched R xs' ys') :
    Matched R (xs ++ xs') (ys ++ ys') := by
  obtain ⟨pairs, hx, hy, hr⟩ := h
  obtain ⟨pairs', hx', hy', hr'⟩ := h'
  refine ⟨pairs ++ pairs', ?_, ?_, fun pair hm => ?_⟩
  · rw [List.map_append]
    exact hx.append hx'
  · rw [List.map_append]
    exact hy.append hy'
  · rcases List.mem_append.1 hm with hm | hm
    · exact hr pair hm
    · exact hr' pair hm

lemma perm_right (h : Matched R xs ys) (hy : ys.Perm ys') : Matched R xs ys' := by
  obtain ⟨pairs, hx, hy', hr⟩ := h
  exact ⟨pairs, hx, hy'.trans hy, hr⟩

lemma perm_left (h : Matched R xs ys) (hx : xs.Perm xs') : Matched R xs' ys := by
  obtain ⟨pairs, hx', hy, hr⟩ := h
  exact ⟨pairs, hx'.trans hx, hy, hr⟩

/-- The relation is only asked about elements that stand in the lists. -/
lemma mono (h : Matched R xs ys) (hRS : ∀ x ∈ xs, ∀ y ∈ ys, R x y → S x y) : Matched S xs ys := by
  obtain ⟨pairs, hx, hy, hr⟩ := h
  refine ⟨pairs, hx, hy, fun pair hm => ?_⟩
  exact hRS _ (hx.mem_iff.1 (List.mem_map_of_mem hm)) _ (hy.mem_iff.1 (List.mem_map_of_mem hm))
    (hr pair hm)

lemma length_eq (h : Matched R xs ys) : xs.length = ys.length := by
  obtain ⟨pairs, hx, hy, -⟩ := h
  rw [← hx.length_eq, ← hy.length_eq, List.length_map, List.length_map]

lemma exists_right (h : Matched R xs ys) {x : α} (hx : x ∈ xs) : ∃ y ∈ ys, R x y := by
  obtain ⟨pairs, hxs, hys, hr⟩ := h
  obtain ⟨pair, hm, rfl⟩ := List.mem_map.1 (hxs.mem_iff.2 hx)
  exact ⟨pair.2, hys.mem_iff.1 (List.mem_map_of_mem hm), hr pair hm⟩

lemma exists_left (h : Matched R xs ys) {y : β} (hy : y ∈ ys) : ∃ x ∈ xs, R x y := by
  obtain ⟨pairs, hxs, hys, hr⟩ := h
  obtain ⟨pair, hm, rfl⟩ := List.mem_map.1 (hys.mem_iff.2 hy)
  exact ⟨pair.1, hxs.mem_iff.1 (List.mem_map_of_mem hm), hr pair hm⟩

/-- What two lists were made of the same elements stand for each other. -/
lemma map_filterMap {zs : List γ} {f : γ → α} {g : γ → Option β}
    (h : ∀ z ∈ zs, ∃ y, g z = some y ∧ R (f z) y) : Matched R (zs.map f) (zs.filterMap g) := by
  induction zs with
  | nil => exact nil
  | cons z rest ih =>
      obtain ⟨y, hy, hr⟩ := h z (by simp)
      have hrest := ih fun z' hz' => h z' (List.mem_cons_of_mem _ hz')
      rw [List.map_cons, List.filterMap_cons_some hy]
      exact (singleton hr).append hrest

lemma map_left {f : β → α} (h : ∀ y ∈ ys, R (f y) y) : Matched R (ys.map f) ys := by
  have hself := map_filterMap (R := R) (f := f) (g := some) fun y hy => ⟨y, rfl, h y hy⟩
  rwa [List.filterMap_some] at hself

lemma refl (xs : List α) : Matched (fun x y => x = y) xs xs := by
  have hself : Matched (fun x y : α => x = y) (xs.map id) xs := map_left fun _ _ => rfl
  rwa [List.map_id] at hself

lemma map_right {R : α → γ → Prop} {f : β → γ} (h : Matched (fun x y => R x (f y)) xs ys) :
    Matched R xs (ys.map f) := by
  obtain ⟨pairs, hx, hy, hr⟩ := h
  refine ⟨pairs.map fun pair => (pair.1, f pair.2), ?_, ?_, ?_⟩
  · rw [List.map_map]
    exact hx
  · have := hy.map f
    rw [List.map_map] at this ⊢
    exact this
  · intro pair hm
    obtain ⟨old, ho, rfl⟩ := List.mem_map.1 hm
    exact hr old ho

/-- Matched lists stay matched when partners are kept or left out together. -/
lemma filter {p : α → Bool} {q : β → Bool} (h : Matched R xs ys)
    (hpq : ∀ x ∈ xs, ∀ y ∈ ys, R x y → p x = q y) : Matched R (xs.filter p) (ys.filter q) := by
  obtain ⟨pairs, hx, hy, hr⟩ := h
  have hsame : pairs.filter (q ∘ Prod.snd) = pairs.filter (p ∘ Prod.fst) :=
    List.filter_congr fun pair hm => (hpq _ (hx.mem_iff.1 (List.mem_map_of_mem hm)) _
      (hy.mem_iff.1 (List.mem_map_of_mem hm)) (hr pair hm)).symm
  refine ⟨pairs.filter (p ∘ Prod.fst), ?_, ?_, fun pair hm => hr pair (List.mem_filter.1 hm).1⟩
  · rw [← List.filter_map]
    exact hx.filter p
  · rw [← hsame, ← List.filter_map]
    exact hy.filter q

/-- Among partners with different keys, the one with a given key can be left out on both sides. -/
lemma filter_key {κ : Type} [DecidableEq κ] {k : α → Option κ} {k' : β → κ} (h : Matched R xs ys)
    (hk : ∀ x y, R x y → ∀ i, k x = some i → k' y = i) (nodup : (ys.map k').Nodup) {i : κ}
    (hx : ∃ x ∈ xs, k x = some i) :
    Matched R (xs.filter fun x => k x ≠ some i) (ys.filter fun y => k' y ≠ i) := by
  obtain ⟨pairs, hxs, hys, hr⟩ := h
  obtain ⟨x, hx, hi⟩ := hx
  obtain ⟨pair, hpair, rfl⟩ := List.mem_map.1 (hxs.mem_iff.2 hx)
  have hkeys : (pairs.map fun pair => k' pair.2).Nodup := by
    have := (hys.map k').nodup_iff.2 nodup
    rwa [List.map_map] at this
  have hsame : pairs.filter ((fun y => decide (k' y ≠ i)) ∘ Prod.snd)
      = pairs.filter ((fun x => decide (k x ≠ some i)) ∘ Prod.fst) := by
    refine List.filter_congr fun other hm =>
      decide_eq_decide.2 (not_congr ⟨fun he => ?_, fun he => ?_⟩)
    · -- only one partner has the key, and it is that of `x`
      have hother : other = pair :=
        List.inj_on_of_nodup_map hkeys hm hpair (he.trans (hk _ _ (hr pair hpair) i hi).symm)
      exact hother ▸ hi
    · exact hk _ _ (hr other hm) i he
  refine ⟨pairs.filter ((fun x => decide (k x ≠ some i)) ∘ Prod.fst), ?_, ?_,
    fun other hm => hr other (List.mem_filter.1 hm).1⟩
  · rw [← List.filter_map]
    exact hxs.filter _
  · rw [← hsame, ← List.filter_map]
    exact hys.filter _

lemma map_perm {f : α → γ} {g : β → γ} (h : Matched R xs ys)
    (hfg : ∀ x ∈ xs, ∀ y ∈ ys, R x y → f x = g y) : (xs.map f).Perm (ys.map g) := by
  obtain ⟨pairs, hx, hy, hr⟩ := h
  have hsame : (pairs.map Prod.fst).map f = (pairs.map Prod.snd).map g := by
    rw [List.map_map, List.map_map]
    exact List.map_congr_left fun pair hm => hfg _ (hx.mem_iff.1 (List.mem_map_of_mem hm)) _
      (hy.mem_iff.1 (List.mem_map_of_mem hm)) (hr pair hm)
  exact (hx.map f).symm.trans ((List.Perm.of_eq hsame).trans (hy.map g))

lemma addUp_eq {f : α → Int} {g : β → Int} (h : Matched R xs ys)
    (hfg : ∀ x ∈ xs, ∀ y ∈ ys, R x y → f x = g y) : addUp (xs.map f) = addUp (ys.map g) :=
  addUp_eq_of_perm (h.map_perm hfg)

lemma nodup_map {f : α → γ} {g : β → γ} (h : Matched R xs ys)
    (hfg : ∀ x ∈ xs, ∀ y ∈ ys, R x y → f x = g y) (nodup : (xs.map f).Nodup) :
    (ys.map g).Nodup :=
  (h.map_perm hfg).nodup_iff.1 nodup

section Keys

variable {key : α → γ} {key' : β → γ}

/-- Where keys do not repeat, an element stands for the one with its key. -/
lemma rel_of_key (h : Matched R xs ys) (hkey : ∀ x y, R x y → key x = key' y)
    (nodup : (xs.map key).Nodup) {x : α} {y : β} (hx : x ∈ xs) (hy : y ∈ ys)
    (same : key x = key' y) : R x y := by
  obtain ⟨y', hy', hr⟩ := h.exists_right hx
  have hys : (ys.map key').Nodup := h.nodup_map (fun x _ y _ => hkey x y) nodup
  rwa [List.inj_on_of_nodup_map hys hy hy' (same.symm.trans (hkey x y' hr))]

/-- Where keys do not repeat, parts with the same keys stand for each other, and so does what is
left. -/
lemma split [DecidableEq γ] (h : Matched R (xs ++ xs') (ys ++ ys'))
    (hkey : ∀ x y, R x y → key x = key' y) (nodup : ((xs ++ xs').map key).Nodup)
    (same : (xs.map key).Perm (ys.map key')) : Matched R xs ys ∧ Matched R xs' ys' := by
  have hnodup' : ((ys ++ ys').map key').Nodup := h.nodup_map (fun x _ y _ => hkey x y) nodup
  rw [List.map_append] at nodup hnodup'
  have hdisjoint := List.disjoint_of_nodup_append nodup
  have hdisjoint' := List.disjoint_of_nodup_append hnodup'
  have hin : ∀ x ∈ xs, key x ∈ xs.map key := fun x hx => List.mem_map_of_mem hx
  have hout : ∀ x ∈ xs', key x ∉ xs.map key :=
    fun x hx hm => hdisjoint hm (List.mem_map_of_mem hx)
  have hin' : ∀ y ∈ ys, key' y ∈ xs.map key :=
    fun y hy => same.mem_iff.2 (List.mem_map_of_mem hy)
  have hout' : ∀ y ∈ ys', key' y ∉ xs.map key :=
    fun y hy hm => hdisjoint' (same.mem_iff.1 hm) (List.mem_map_of_mem hy)
  constructor
  · have hfront := h.filter (p := fun x => key x ∈ xs.map key) (q := fun y => key' y ∈ xs.map key)
      fun x _ y _ hr => by rw [hkey x y hr]
    rw [List.filter_append, List.filter_append,
      List.filter_eq_self.2 fun x hx => decide_eq_true (hin x hx),
      List.filter_eq_self.2 fun y hy => decide_eq_true (hin' y hy),
      List.filter_eq_nil_iff.2 fun x hx he => hout x hx (of_decide_eq_true he),
      List.filter_eq_nil_iff.2 fun y hy he => hout' y hy (of_decide_eq_true he),
      List.append_nil, List.append_nil] at hfront
    exact hfront
  · have hback := h.filter (p := fun x => key x ∉ xs.map key) (q := fun y => key' y ∉ xs.map key)
      fun x _ y _ hr => by rw [hkey x y hr]
    rw [List.filter_append, List.filter_append,
      List.filter_eq_nil_iff.2 fun x hx he => absurd (hin x hx) (of_decide_eq_true he),
      List.filter_eq_nil_iff.2 fun y hy he => absurd (hin' y hy) (of_decide_eq_true he),
      List.filter_eq_self.2 fun x hx => decide_eq_true (hout x hx),
      List.filter_eq_self.2 fun y hy => decide_eq_true (hout' y hy),
      List.nil_append, List.nil_append] at hback
    exact hback

end Keys

end Matched

end StageStock
