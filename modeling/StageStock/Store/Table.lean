/-!
# Tables

A `Table` holds rows under whole-number ids, in ascending order of the ids. A new row gets the id
after the largest one present, so that the id of a row that was dropped from the end is given out
again.

* `Table.find?`: the row under an id;
* `Table.insert`, `Table.put`, `Table.modify`, `Table.erase`: the four changes;
* `find?_eq_some_iff`: `find?` is membership;
* `find?_insert_nextId`, `find?_modify`, `find?_erase`: what each change does to `find?`.
-/

namespace StageStock

/-- Rows under ids, in ascending order of the ids. -/
structure Table (α : Type) where
  rows : List (Int × α)
  ascending : (rows.map Prod.fst).Pairwise (· < ·)

namespace Table

variable {α : Type}

/-- The table without a row. -/
def empty : Table α :=
  ⟨[], by simp⟩

instance : Inhabited (Table α) := ⟨empty⟩

/-- The row under an id. -/
def find? (t : Table α) (id : Int) : Option α :=
  t.rows.lookup id

/-- The id that the next new row gets. It is not bounded here: once the largest id is the largest
number that can be stored, the database looks for an id below it that is free instead, and a new row
of such a table gets an id that can be stored after all. -/
def nextId (t : Table α) : Int :=
  match t.rows.getLast? with
  | some row => row.1 + 1
  | none => 1

theorem lt_nextId {t : Table α} {row : Int × α} (h : row ∈ t.rows) : row.1 < t.nextId := by
  unfold nextId
  cases hl : t.rows.getLast? with
  | none => simp [List.getLast?_eq_none_iff.1 hl] at h
  | some last =>
    obtain ⟨front, hf⟩ := List.getLast?_eq_some_iff.1 hl
    have ha := t.ascending
    rw [hf, List.map_append, List.pairwise_append] at ha
    rw [hf, List.mem_append] at h
    rcases h with h | h
    · have := ha.2.2 row.1 (List.mem_map_of_mem h) last.1 (by simp)
      show row.1 < last.1 + 1
      omega
    · simp at h
      show row.1 < last.1 + 1
      rw [h]
      omega

/-- Add a row under the next id. -/
def insert (t : Table α) (a : α) : Table α :=
  ⟨t.rows ++ [(t.nextId, a)], by
    rw [List.map_append, List.pairwise_append]
    refine ⟨t.ascending, by simp, ?_⟩
    intro x hx y hy
    simp at hy
    obtain ⟨row, hr, rfl⟩ := List.mem_map.1 hx
    exact hy ▸ lt_nextId hr⟩

/-- Rows with one more row put in at its place; a row under the same id is replaced. -/
def putRow (id : Int) (a : α) : List (Int × α) → List (Int × α)
  | [] => [(id, a)]
  | row :: rest =>
    if id < row.1 then (id, a) :: row :: rest
    else if id = row.1 then (id, a) :: rest
    else row :: putRow id a rest

theorem mem_keys_putRow {id k : Int} {a : α} {rows : List (Int × α)}
    (h : k ∈ (putRow id a rows).map Prod.fst) : k = id ∨ k ∈ rows.map Prod.fst := by
  induction rows with
  | nil => simpa [putRow] using h
  | cons row rest ih =>
    unfold putRow at h
    split at h
    · simpa using h
    · split at h
      · rename_i he
        rw [List.map_cons, List.mem_cons] at h
        rcases h with h | h
        · exact Or.inl h
        · exact Or.inr (List.mem_cons_of_mem _ h)
      · rw [List.map_cons, List.mem_cons] at h
        rcases h with h | h
        · exact Or.inr (by simp [h])
        · rcases ih h with h | h
          · exact Or.inl h
          · exact Or.inr (List.mem_cons_of_mem _ h)

theorem ascending_putRow {id : Int} {a : α} {rows : List (Int × α)}
    (h : (rows.map Prod.fst).Pairwise (· < ·)) :
    ((putRow id a rows).map Prod.fst).Pairwise (· < ·) := by
  induction rows with
  | nil => simp [putRow]
  | cons row rest ih =>
    rw [List.map_cons, List.pairwise_cons] at h
    unfold putRow
    split
    · rename_i hlt
      rw [List.map_cons, List.pairwise_cons]
      refine ⟨?_, by rw [List.map_cons, List.pairwise_cons]; exact h⟩
      intro k hk
      rw [List.map_cons, List.mem_cons] at hk
      rcases hk with hk | hk
      · exact hk ▸ hlt
      · exact Int.lt_trans hlt (h.1 k hk)
    · split
      · rename_i he
        rw [List.map_cons, List.pairwise_cons]
        exact ⟨he ▸ h.1, h.2⟩
      · rename_i h1 h2
        rw [List.map_cons, List.pairwise_cons]
        refine ⟨fun k hk => ?_, ih h.2⟩
        rcases mem_keys_putRow hk with hk | hk
        · show row.1 < k
          omega
        · exact h.1 k hk

/-- Put a row under a given id; a row under the same id is replaced. -/
def put (t : Table α) (id : Int) (a : α) : Table α :=
  ⟨putRow id a t.rows, ascending_putRow t.ascending⟩

/-- Change the row under an id, if there is one. -/
def modify (t : Table α) (id : Int) (f : α → α) : Table α :=
  ⟨t.rows.map fun row => if row.1 = id then (row.1, f row.2) else row, by
    have : (t.rows.map fun row => if row.1 = id then (row.1, f row.2) else row).map Prod.fst
        = t.rows.map Prod.fst := by
      rw [List.map_map]
      refine List.map_congr_left fun row _ => ?_
      by_cases h : row.1 = id <;> simp [h]
    rw [this]
    exact t.ascending⟩

/-- Drop the row under an id, if there is one. -/
def erase (t : Table α) (id : Int) : Table α :=
  ⟨t.rows.filter fun row => row.1 ≠ id,
    t.ascending.sublist (List.filter_sublist.map Prod.fst)⟩

/-- The rows that satisfy a condition, in ascending order of the ids. -/
def select (t : Table α) (p : α → Bool) : List (Int × α) :=
  t.rows.filter fun row => p row.2

/-! ### What each change does to `find?` -/

theorem lookup_row (row : Int × α) (rest : List (Int × α)) (k : Int) :
    (row :: rest).lookup k = if k = row.1 then some row.2 else rest.lookup k := by
  obtain ⟨id, a⟩ := row
  by_cases h : k = id
  · simp [h]
  · have hne : (k == id) = false := by simpa using h
    simp [List.lookup_cons, h, hne]

/-- Ids do not repeat, so that the row under an id is the one that is stored with it. -/
theorem find?_eq_some_iff {t : Table α} {id : Int} {a : α} :
    t.find? id = some a ↔ (id, a) ∈ t.rows := by
  obtain ⟨rows, h⟩ := t
  simp only [find?]
  induction rows with
  | nil => simp
  | cons row rest ih =>
    rw [List.map_cons, List.pairwise_cons] at h
    rw [lookup_row, List.mem_cons]
    by_cases hk : id = row.1
    · rw [if_pos hk, Option.some.injEq]
      constructor
      · intro ha
        exact Or.inl (by rw [hk, ← ha])
      · rintro (hr | hr)
        · rw [← hr]
        · have := h.1 id (List.mem_map_of_mem hr)
          omega
    · rw [if_neg hk, ih h.2]
      constructor
      · exact Or.inr
      · rintro (hr | hr)
        · exact absurd (congrArg Prod.fst hr) hk
        · exact hr

theorem lookup_append_of_forall_ne {rows : List (Int × α)} {id : Int} {a : α}
    (h : ∀ row ∈ rows, row.1 ≠ id) : (rows ++ [(id, a)]).lookup id = some a := by
  induction rows with
  | nil => simp
  | cons row rest ih =>
    rw [List.cons_append, lookup_row, if_neg fun e => h row (by simp) e.symm]
    exact ih fun r hr => h r (List.mem_cons_of_mem _ hr)

theorem find?_insert_nextId (t : Table α) (a : α) : (t.insert a).find? t.nextId = some a :=
  lookup_append_of_forall_ne fun _ hr he => absurd (lt_nextId hr) (by omega)

theorem find?_modify (t : Table α) (id k : Int) (f : α → α) :
    (t.modify id f).find? k = if k = id then (t.find? k).map f else t.find? k := by
  simp only [find?, modify]
  induction t.rows with
  | nil => simp
  | cons row rest ih =>
    simp only [List.map_cons, lookup_row, ih]
    by_cases hid : row.1 = id
    · by_cases hk : k = id <;> simp [hid, hk]
    · by_cases hk : k = row.1
      · simp [hk, hid]
      · simp [hk, hid]

theorem find?_erase (t : Table α) (id k : Int) :
    (t.erase id).find? k = if k = id then none else t.find? k := by
  simp only [find?, erase]
  induction t.rows with
  | nil => simp
  | cons row rest ih =>
    by_cases hid : row.1 = id
    · rw [List.filter_cons_of_neg (by simp [hid]), ih, lookup_row]
      by_cases hk : k = id
      · simp [hk]
      · simp [hk, hid]
    · rw [List.filter_cons_of_pos (by simpa using hid), lookup_row, lookup_row, ih]
      by_cases hk : k = row.1
      · simp [hk, hid]
      · simp [hk]

end Table

end StageStock
