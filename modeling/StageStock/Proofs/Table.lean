import Mathlib.Data.List.Nodup
import Mathlib.Tactic.Lemma
import StageStock.Store.Table

/-!
Tables after many changes at once.

* `rows_insertAll`: rows entered one after the other stand behind the others, under ascending ids
  (`numberFrom`);
* `rows_eraseAll`: rows dropped one after the other;
* `le_of_find?_select`: the first of some rows has the least id;
* `modify_insertAll`: an edit of an older row and the entry of new rows commute;
* `perm_of_mem_iff`: lists without a repeated row are permutations of each other once they hold the
  same rows, which is how selections of two tables are compared;
* `map_modify_perm`: an edit of one row, seen as the row taken out and put back at the end;
* `find?_eq_some_of_unique`, `lookup_eq_some_of_mem`: what is told by its key is found by it.
-/

namespace StageStock

/-- Elements under ascending numbers. -/
def numberFrom {α : Type} : Int → List α → List (Int × α)
  | _, [] => []
  | n, a :: rest => (n, a) :: numberFrom (n + 1) rest

section Numbered

variable {α β : Type}

lemma numberFrom_append (n : Int) (as bs : List α) :
    numberFrom n (as ++ bs) = numberFrom n as ++ numberFrom (n + as.length) bs := by
  induction as generalizing n with
  | nil => simp [numberFrom]
  | cons a rest ih =>
      simp only [List.cons_append, numberFrom, ih, List.length_cons]
      congr 3
      push_cast
      omega

lemma map_snd_numberFrom (n : Int) (as : List α) : (numberFrom n as).map Prod.snd = as := by
  induction as generalizing n with
  | nil => rfl
  | cons a rest ih => simp only [numberFrom, List.map_cons, ih]

lemma map_numberFrom (f : α → β) (n : Int) (as : List α) :
    ((numberFrom n as).map fun row => f row.2) = as.map f := by
  rw [show (fun row : Int × α => f row.2) = f ∘ Prod.snd from rfl, ← List.map_map,
    map_snd_numberFrom]

lemma le_of_mem_numberFrom {n : Int} {as : List α} {row : Int × α}
    (h : row ∈ numberFrom n as) : n ≤ row.1 := by
  induction as generalizing n with
  | nil => simp [numberFrom] at h
  | cons a rest ih =>
      rcases List.mem_cons.1 h with rfl | h
      · exact Int.le_refl _
      · have := ih h
        omega

lemma mem_of_mem_numberFrom {n : Int} {as : List α} {row : Int × α}
    (h : row ∈ numberFrom n as) : row.2 ∈ as := by
  rw [← map_snd_numberFrom n as]
  exact List.mem_map_of_mem h

lemma numberFrom_map (f : α → β) (n : Int) (as : List α) :
    numberFrom n (as.map f) = (numberFrom n as).map fun row => (row.1, f row.2) := by
  induction as generalizing n with
  | nil => rfl
  | cons a rest ih => simp only [List.map_cons, numberFrom, ih]

end Numbered

namespace Table

variable {α : Type}

/-! ### Rows and ids -/

@[simp] lemma rows_insert (t : Table α) (a : α) : (t.insert a).rows = t.rows ++ [(t.nextId, a)] :=
  rfl

@[simp] lemma rows_modify (t : Table α) (id : Int) (f : α → α) :
    (t.modify id f).rows = t.rows.map fun row => if row.1 = id then (row.1, f row.2) else row :=
  rfl

@[simp] lemma rows_erase (t : Table α) (id : Int) :
    (t.erase id).rows = t.rows.filter fun row => row.1 ≠ id :=
  rfl

lemma ext_rows {t u : Table α} (h : t.rows = u.rows) : t = u := by
  cases t
  cases u
  simp only at h
  subst h
  rfl

lemma nodup_ids (t : Table α) : (t.rows.map Prod.fst).Nodup :=
  t.ascending.imp fun h => Int.ne_of_lt h

lemma nodup_rows (t : Table α) : t.rows.Nodup :=
  List.Nodup.of_map _ t.nodup_ids

lemma nodup_select (t : Table α) (p : α → Bool) : (t.select p).Nodup :=
  t.nodup_rows.filter _

lemma nodup_ids_select (t : Table α) (p : α → Bool) : ((t.select p).map Prod.fst).Nodup :=
  t.nodup_ids.sublist (List.filter_sublist.map Prod.fst)

lemma mem_select {t : Table α} {p : α → Bool} {row : Int × α} :
    row ∈ t.select p ↔ row ∈ t.rows ∧ p row.2 = true :=
  List.mem_filter

/-- Of the selected rows of some kind, the first one has the least id. -/
lemma le_of_find?_select {t : Table α} {p : α → Bool} {q : Int × α → Bool} {row other : Int × α}
    (found : (t.select p).find? q = some row) (listed : other ∈ t.select p)
    (fits : q other = true) : row.1 ≤ other.1 := by
  have hascending : ((t.select p).map Prod.fst).Pairwise (· < ·) :=
    t.ascending.sublist (List.filter_sublist.map _)
  obtain ⟨-, front, back, hsplit, hfront⟩ := List.find?_eq_some_iff_append.1 found
  rw [hsplit, List.map_append, List.map_cons] at hascending
  obtain ⟨-, hback, -⟩ := List.pairwise_append.1 hascending
  rw [hsplit, List.mem_append, List.mem_cons] at listed
  rcases listed with hearlier | rfl | hlater
  · exact absurd fits (by simpa using hfront other hearlier)
  · exact Int.le_refl _
  · exact Int.le_of_lt ((List.pairwise_cons.1 hback).1 _ (List.mem_map_of_mem hlater))

lemma find?_of_mem {t : Table α} {row : Int × α} (h : row ∈ t.rows) : t.find? row.1 = some row.2 :=
  find?_eq_some_iff.2 h

lemma eq_of_mem_of_find? {t : Table α} {row : Int × α} {a : α} (h : row ∈ t.rows)
    (hf : t.find? row.1 = some a) : row.2 = a := by
  rw [find?_of_mem h] at hf
  exact Option.some.inj hf

lemma lt_nextId_of_find? {t : Table α} {id : Int} {a : α} (h : t.find? id = some a) :
    id < t.nextId :=
  lt_nextId (find?_eq_some_iff.1 h)

/-- The next id is a new one. -/
lemma find?_nextId (t : Table α) : t.find? t.nextId = none := by
  cases h : t.find? t.nextId with
  | none => rfl
  | some a => exact absurd (lt_nextId_of_find? h) (Int.lt_irrefl _)

/-- Two selections, or other lists of rows, are the same up to order if they hold the same rows. -/
lemma perm_of_mem_iff {rows rows' : List (Int × α)} (h : rows.Nodup) (h' : rows'.Nodup)
    (same : ∀ row, row ∈ rows ↔ row ∈ rows') : rows.Perm rows' :=
  (List.perm_ext_iff_of_nodup h h').2 same

/-! ### Many new rows -/

lemma nextId_insert (t : Table α) (a : α) : (t.insert a).nextId = t.nextId + 1 := by
  simp [nextId, insert]

lemma rows_insertAll (as : List α) (t : Table α) :
    (as.foldl insert t).rows = t.rows ++ numberFrom t.nextId as := by
  induction as generalizing t with
  | nil => simp [numberFrom]
  | cons a rest ih =>
      rw [List.foldl_cons, ih, nextId_insert, rows_insert, List.append_assoc]
      rfl

lemma mem_insertAll {as : List α} {t : Table α} {row : Int × α} :
    row ∈ (as.foldl insert t).rows ↔ row ∈ t.rows ∨ row ∈ numberFrom t.nextId as := by
  rw [rows_insertAll, List.mem_append]

lemma find?_insertAll_of_find? {as : List α} {t : Table α} {id : Int} {a : α}
    (h : t.find? id = some a) : (as.foldl insert t).find? id = some a :=
  find?_eq_some_iff.2 (mem_insertAll.2 (Or.inl (find?_eq_some_iff.1 h)))

lemma find?_insert_of_find? {t : Table α} {id : Int} {a : α} (b : α) (h : t.find? id = some a) :
    (t.insert b).find? id = some a :=
  @find?_insertAll_of_find? _ [b] t id a h

/-! ### Many dropped rows -/

lemma rows_eraseAll (ids : List Int) (t : Table α) :
    (ids.foldl erase t).rows = t.rows.filter fun row => row.1 ∉ ids := by
  induction ids generalizing t with
  | nil => simp
  | cons id rest ih =>
      rw [List.foldl_cons, ih, rows_erase, List.filter_filter]
      refine List.filter_congr fun row _ => ?_
      simp only [List.mem_cons, not_or, ne_eq, Bool.decide_and]
      rw [Bool.and_comm]

/-! ### Edits -/

lemma nextId_modify (t : Table α) (id : Int) (f : α → α) : (t.modify id f).nextId = t.nextId := by
  have hlast : (t.modify id f).rows.getLast?.map Prod.fst = t.rows.getLast?.map Prod.fst := by
    rw [rows_modify, List.getLast?_map, Option.map_map]
    cases t.rows.getLast? with
    | none => rfl
    | some row => by_cases h : row.1 = id <;> simp [h]
  simp only [nextId]
  cases h : (t.modify id f).rows.getLast? <;> cases h' : t.rows.getLast? <;>
    simp_all

/-- New rows stand under ids that no older row has, so that an edit of an older row does not touch
them. -/
lemma modify_insertAll (as : List α) {t : Table α} {id : Int} (h : id < t.nextId) (f : α → α) :
    as.foldl insert (t.modify id f) = (as.foldl insert t).modify id f := by
  refine ext_rows ?_
  rw [rows_insertAll, nextId_modify, rows_modify, rows_modify, rows_insertAll, List.map_append]
  congr 1
  conv_lhs => rw [← List.map_id (numberFrom t.nextId as)]
  refine List.map_congr_left fun row hr => ?_
  have := le_of_mem_numberFrom hr
  rw [if_neg (by omega)]
  rfl

/-- An edit that does not change whether rows are selected edits the selection. -/
lemma select_modify {p : α → Bool} {t : Table α} {id : Int} {f : α → α}
    (h : ∀ a, t.find? id = some a → p (f a) = p a) :
    (t.modify id f).select p
      = (t.select p).map fun row => if row.1 = id then (row.1, f row.2) else row := by
  rw [select, rows_modify, List.filter_map]
  congr 1
  refine List.filter_congr fun row hr => ?_
  by_cases he : row.1 = id
  · simpa [he] using h row.2 (he ▸ find?_of_mem hr)
  · simp [he]

/-- An edit of a row that is not selected, before or after, leaves the selection as it is. -/
lemma select_modify_eq {p : α → Bool} {t : Table α} {id : Int} {f : α → α}
    (h : ∀ a, t.find? id = some a → p a = false ∧ p (f a) = false) :
    (t.modify id f).select p = t.select p := by
  rw [select_modify fun a ha => (h a ha).2.trans (h a ha).1.symm]
  conv_rhs => rw [← List.map_id (t.select p)]
  refine List.map_congr_left fun row hr => if_neg fun he => ?_
  obtain ⟨hrow, hp⟩ := mem_select.1 hr
  rw [(h row.2 (he ▸ find?_of_mem hrow)).1] at hp
  cases hp

lemma select_insert (t : Table α) (a : α) (p : α → Bool) :
    (t.insert a).select p = t.select p ++ if p a then [(t.nextId, a)] else [] := by
  simp only [select]
  rw [rows_insert, List.filter_append]
  cases h : p a <;> simp [h]

lemma select_erase (t : Table α) (id : Int) (p : α → Bool) :
    (t.erase id).select p = (t.select p).filter fun row => row.1 ≠ id := by
  simp only [select]
  rw [rows_erase, List.filter_filter, List.filter_filter]
  exact List.filter_congr fun row _ => Bool.and_comm _ _

/-- Dropping a row that is not selected leaves the selection as it is. -/
lemma select_erase_eq {p : α → Bool} {t : Table α} {id : Int}
    (h : ∀ a, t.find? id = some a → p a = false) : (t.erase id).select p = t.select p := by
  rw [select_erase, List.filter_eq_self]
  refine fun row hr => decide_eq_true fun he => ?_
  obtain ⟨hrow, hp⟩ := mem_select.1 hr
  rw [h row.2 (he ▸ find?_of_mem hrow)] at hp
  cases hp

end Table

/-! ### Groups of rows -/

/-- The elements of each group are related in pairs exactly if those of the list are that are of one
group. -/
lemma pairwise_groups_iff {α γ : Type} [DecidableEq γ] {R : α → α → Prop} {g : α → γ}
    {xs : List α} :
    (∀ c, (xs.filter fun x => g x = c).Pairwise R) ↔ xs.Pairwise fun x y => g x = g y → R x y := by
  induction xs with
  | nil => simp
  | cons x rest ih =>
      rw [List.pairwise_cons, ← ih]
      constructor
      · intro h
        refine ⟨fun y hy hsame => ?_, fun c =>
          (h c).sublist ((List.sublist_cons_self x rest).filter _)⟩
        have hown := h (g x)
        rw [List.filter_cons_of_pos (by simp), List.pairwise_cons] at hown
        exact hown.1 y (List.mem_filter.2 ⟨hy, decide_eq_true hsame.symm⟩)
      · rintro ⟨hfirst, hrest⟩ c
        by_cases hx : g x = c
        · rw [List.filter_cons_of_pos (by simpa using hx), List.pairwise_cons]
          refine ⟨fun y hy => ?_, hrest c⟩
          obtain ⟨hmem, hgroup⟩ := List.mem_filter.1 hy
          exact hfirst y hmem (hx.trans (of_decide_eq_true hgroup).symm)
        · rw [List.filter_cons_of_neg (by simpa using hx)]
          exact hrest c

/-! ### One row taken out of a list -/

section OneRow

variable {α β : Type}

/-- Among rows with different keys, the one with a given key can be taken to the front. -/
lemma perm_cons_filter_ne [DecidableEq β] {f : α → β} {xs : List α} {x : α}
    (nodup : (xs.map f).Nodup) (h : x ∈ xs) : xs.Perm (x :: xs.filter fun y => f y ≠ f x) := by
  have hkey : xs.filter (fun y => decide (f y = f x)) = [x] := by
    have hne : (xs.filter fun y => decide (f y = f x)).Nodup := (List.Nodup.of_map f nodup).filter _
    refine List.perm_singleton.1 ((List.perm_ext_iff_of_nodup hne (List.nodup_singleton x)).2 ?_)
    intro y
    rw [List.mem_filter, List.mem_singleton, decide_eq_true_iff]
    constructor
    · rintro ⟨hy, he⟩
      exact List.inj_on_of_nodup_map nodup hy h he
    · rintro rfl
      exact ⟨h, rfl⟩
  have hsplit := List.filter_append_perm (fun y => decide (f y = f x)) xs
  rw [hkey, List.singleton_append] at hsplit
  refine hsplit.symm.trans (List.Perm.cons x (List.Perm.of_eq (List.filter_congr fun y _ => ?_)))
  simp

/-- An edit of one row takes it out and puts it back at the end. -/
lemma map_modify_perm {rows : List (Int × α)} {id : Int} {a : α} {f : α → α}
    (nodup : (rows.map Prod.fst).Nodup) (h : (id, a) ∈ rows) :
    (rows.map fun row => if row.1 = id then (row.1, f row.2) else row).Perm
      ((rows.filter fun row => row.1 ≠ id) ++ [(id, f a)]) := by
  have hrest : (rows.filter fun row => row.1 ≠ id).map
      (fun row => if row.1 = id then (row.1, f row.2) else row)
        = rows.filter fun row => row.1 ≠ id := by
    conv_rhs => rw [← List.map_id (rows.filter fun row => row.1 ≠ id)]
    refine List.map_congr_left fun row hr => ?_
    have hne : row.1 ≠ id := by simpa using (List.mem_filter.1 hr).2
    rw [if_neg hne]
    rfl
  have hfront := (perm_cons_filter_ne nodup h).map
    fun row => if row.1 = id then (row.1, f row.2) else row
  rw [List.map_cons, if_pos rfl, hrest] at hfront
  exact hfront.trans (List.perm_append_singleton _ _).symm

end OneRow

/-! ### Look-ups -/

section Lookup

variable {κ β : Type} [DecidableEq κ]

/-- The only element that is looked for is found. -/
lemma find?_eq_some_of_unique {α : Type} {xs : List α} {p : α → Bool} {x : α} (mem : x ∈ xs)
    (holds : p x = true) (only : ∀ y ∈ xs, p y = true → y = x) : xs.find? p = some x := by
  cases hfound : xs.find? p with
  | none => exact absurd holds (List.find?_eq_none.1 hfound x mem)
  | some y => rw [only y (List.mem_of_find?_eq_some hfound) (List.find?_some hfound)]

lemma mem_of_lookup_eq_some {entries : List (κ × β)} {k : κ} {b : β}
    (h : entries.lookup k = some b) : (k, b) ∈ entries := by
  obtain ⟨front, back, rfl, -⟩ := List.lookup_eq_some_iff.1 h
  simp

lemma lookup_filter_ne (entries : List (κ × β)) {k k' : κ} (h : k' ≠ k) :
    (entries.filter fun entry => entry.1 ≠ k).lookup k' = entries.lookup k' := by
  induction entries with
  | nil => rfl
  | cons entry rest ih =>
      by_cases hk : entry.1 = k
      · have hne : (k' == entry.1) = false := by simpa [hk] using h
        rw [List.filter_cons_of_neg (by simpa using hk), ih, List.lookup_cons, hne]
      · rw [List.filter_cons_of_pos (by simpa using hk), List.lookup_cons, List.lookup_cons, ih]

lemma lookup_eq_some_of_mem {entries : List (κ × β)} (nodup : (entries.map Prod.fst).Nodup)
    {entry : κ × β} (h : entry ∈ entries) : entries.lookup entry.1 = some entry.2 := by
  cases hl : entries.lookup entry.1 with
  | none => simpa using List.lookup_eq_none_iff.1 hl entry h
  | some b =>
      rw [← List.inj_on_of_nodup_map nodup (mem_of_lookup_eq_some hl) h rfl]

/-- No entry is found twice, if the values do not repeat. -/
lemma key_eq_of_lookup {entries : List (κ × β)} (nodup : (entries.map Prod.snd).Nodup) {k k' : κ}
    {b : β} (h : entries.lookup k = some b) (h' : entries.lookup k' = some b) : k = k' :=
  congrArg Prod.fst (List.inj_on_of_nodup_map nodup (mem_of_lookup_eq_some h)
    (mem_of_lookup_eq_some h') rfl)

end Lookup

end StageStock
