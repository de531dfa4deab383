import StageStock.Json
import StageStock.Text.Blank
import StageStock.Text.CaseFold
import StageStock.Text.Quoted

/-!
# Places

Units are kept at a place: a location listed in the catalogue, named by its id, or a place that is
only described in words. Two descriptions are the same place when their words agree up to case; that
is what `Place.key` compares.

* `foldName`: the form of a name that is compared;
* `Directory.byName`: locations in the order of their names, in which they are read;
* `Directory`: the listed locations by folded name, one entry a name (`Directory.nodup_put`);
* `Place.resolve`: a description that names a listed location is that location;
* `Place.columns`, `Place.ofColumns`: the two columns of a row in which a place is stored.
-/

namespace StageStock

/-- A place where units can be. -/
inductive Place where
  /-- A listed location. -/
  | named (id : Int)
  /-- A place described in words. -/
  | custom (text : String)
  deriving DecidableEq, Repr

/-- What tells two places apart. -/
inductive PlaceKey where
  | named (id : Int)
  | custom (folded : String)
  deriving DecidableEq, Repr

/-- The form of a name that is compared: its words, folded. -/
def foldName (s : String) : String :=
  Text.caseFold (Text.normalise s)

/-! ### Listed locations by name -/

/-- The ids of the listed locations under their folded names. -/
structure Directory where
  entries : List (String × Int)
  deriving Repr

namespace Directory

/-- The directory without a location. -/
def empty : Directory := ⟨[]⟩

/-- A location put in before the first one whose name is no earlier. -/
def enterByName (entry : Int × String) : List (Int × String) → List (Int × String)
  | [] => [entry]
  | first :: rest =>
    if entry.2 ≤ first.2 then entry :: first :: rest else first :: enterByName entry rest

/-- Locations given by id and name, in the order of their names. Names are compared character by
character, by code points. -/
def byName (names : List (Int × String)) : List (Int × String) :=
  names.foldr enterByName []

theorem perm_enterByName (entry : Int × String) (names : List (Int × String)) :
    (enterByName entry names).Perm (entry :: names) := by
  induction names with
  | nil => exact .refl _
  | cons first rest ih =>
    rw [enterByName]
    split
    · exact .refl _
    · exact (ih.cons first).trans (.swap entry first rest)

theorem perm_byName (names : List (Int × String)) : (byName names).Perm names := by
  induction names with
  | nil => exact .refl _
  | cons entry rest ih => exact (perm_enterByName entry (byName rest)).trans (ih.cons entry)

theorem pairwise_enterByName {entry : Int × String} {names : List (Int × String)}
    (h : names.Pairwise fun a b => a.2 ≤ b.2) :
    (enterByName entry names).Pairwise fun a b => a.2 ≤ b.2 := by
  induction names with
  | nil => exact List.pairwise_singleton _ _
  | cons first rest ih =>
    obtain ⟨hfirst, hrest⟩ := List.pairwise_cons.1 h
    rw [enterByName]
    split
    · rename_i hle
      refine List.pairwise_cons.2 ⟨fun other hother => ?_, h⟩
      rcases List.mem_cons.1 hother with rfl | hother
      · exact hle
      · exact String.le_trans hle (hfirst other hother)
    · rename_i hlater
      refine List.pairwise_cons.2 ⟨fun other hother => ?_, ih hrest⟩
      rcases List.mem_cons.1 ((perm_enterByName entry rest).mem_iff.1 hother) with rfl | hother
      · exact (String.le_total _ _).resolve_right hlater
      · exact hfirst other hother

theorem pairwise_byName (names : List (Int × String)) :
    (byName names).Pairwise fun a b => a.2 ≤ b.2 := by
  induction names with
  | nil => exact .nil
  | cons entry rest ih => exact pairwise_enterByName ih

/-- Enter an id under a folded name; an earlier id under that name is replaced. -/
def put (folded : String) (id : Int) : List (String × Int) → List (String × Int)
  | [] => [(folded, id)]
  | entry :: rest =>
    if entry.1 = folded then (folded, id) :: rest else entry :: put folded id rest

/-- The directory of locations given by id and name; of locations whose names fold to the same name
the one that is read last counts, and a location without a name is not entered. -/
def ofNames (names : List (Int × String)) : Directory :=
  ⟨names.foldl (fun done entry =>
    if entry.2 = "" then done else put (foldName entry.2) entry.1 done) []⟩

/-- The id under a folded name. -/
def find? (directory : Directory) (folded : String) : Option Int :=
  directory.entries.lookup folded

theorem mem_keys_put {folded key : String} {id : Int} {entries : List (String × Int)} :
    key ∈ (put folded id entries).map Prod.fst ↔ key = folded ∨ key ∈ entries.map Prod.fst := by
  induction entries with
  | nil => simp [put]
  | cons entry rest ih =>
    by_cases h : entry.1 = folded
    · simp [put, h]
    · simp only [put, h, if_false, List.map_cons, List.mem_cons, ih]
      constructor <;> rintro (h | h | h) <;> simp [h]

theorem nodup_put {folded : String} {id : Int} {entries : List (String × Int)}
    (h : (entries.map Prod.fst).Nodup) : ((put folded id entries).map Prod.fst).Nodup := by
  induction entries with
  | nil => simp [put]
  | cons entry rest ih =>
    simp only [List.map_cons, List.nodup_cons] at h
    by_cases he : entry.1 = folded
    · simp only [put, he, if_true, List.map_cons, List.nodup_cons]
      exact ⟨he ▸ h.1, h.2⟩
    · simp only [put, he, if_false, List.map_cons, List.nodup_cons]
      refine ⟨fun hm => ?_, ih h.2⟩
      rcases mem_keys_put.1 hm with hm | hm
      · exact he hm
      · exact h.1 hm

end Directory

namespace Place

/-! ### Identity -/

/-- What tells this place from others. -/
def key : Place → PlaceKey
  | named id => .named id
  | custom text => .custom (foldName text)

/-- A description that names a listed location is that location. -/
def resolve (directory : Directory) : Place → Place
  | named id => named id
  | custom text =>
    match directory.find? (foldName text) with
    | some id => named id
    | none => custom text

/-! ### Storage -/

/-- The two columns of a row in which a place is stored. -/
def columns : Option Place → Option Int × Option String
  | some (named id) => (some id, none)
  | some (custom text) => (none, some (Text.normalise text))
  | none => (none, none)

/-- The place that two columns of a row describe; blank text describes none. -/
def ofColumns : Option Int → Option String → Option Place
  | some id, _ => some (named id)
  | none, text =>
    let words := Text.normalise? text
    if words = "" then none else some (custom words)

/-! ### Answers -/

/-- The place as it is shown, a listed one with its name if `names` has one. -/
def toJson (names : List (Int × String)) : Option Place → Json
  | some (named id) => .obj [("kind", .str "named"), ("locationID", .int id),
      ("locationName", Json.ofStr? (names.lookup id))]
  | some (custom text) => .obj [("kind", .str "custom"), ("locationID", .null),
      ("locationName", .str text)]
  | none => .null

end Place

namespace PlaceKey

/-- The key as messages show it. -/
def text : PlaceKey → String
  | named id => "('named', " ++ toString id ++ ")"
  | custom folded => "('custom', " ++ Text.quoted folded ++ ")"

/-- The key as an answer shows it. -/
def toJson : PlaceKey → Json
  | named id => .arr [.str "named", .int id]
  | custom folded => .arr [.str "custom", .str folded]

end PlaceKey

end StageStock
