import Mathlib.Logic.Function.Iterate
import Mathlib.Tactic.Lemma
import StageStock.Proofs.Naming
import StageStock.Proofs.Replacement

/-!
Which inputs name the same place.

A place is given by the id of a location or in words. Words are compared without regard to blanks
and case, and words under which a location is listed stand for that location. So if all names of
locations differ once they are folded, two inputs are resolved to places with one key exactly if
both name the same location, or if neither names one and their words fold to the same text. A place
that was resolved is resolved already, and what is stored of it is read back as that very place.

* `Text.caseFold_eq_empty_iff`: folding leaves no word out;
* `Directory.find?_ofNames_iff`: words are found exactly if a location is listed under them;
* `Place.Input.Denotes`, `Place.Input.SamePlace`: which location an input names, and when two inputs
  name the same place;
* `Place.key_resolve_eq_named_iff`, `Place.key_resolve_eq_custom_iff`: the key that an input is
  resolved to;
* `Place.key_resolve_eq_iff`: when two keys are the same, and what storing does to the places.
-/

namespace StageStock

/-! ### Folded names -/

namespace Text

lemma foldByTable_ne_nil (n : Nat) : foldByTable n ≠ [] := by
  have hspelled : ∀ entry ∈ spelledOut, entry.2 ≠ [] := by decide
  rw [foldByTable]
  split
  · rename_i letters hletters
    exact hspelled _ (mem_of_lookup_eq_some hletters)
  · split <;> exact List.cons_ne_nil _ _

lemma foldChar_ne_nil (c : Char) : foldChar c ≠ [] := by
  rw [foldChar]
  split
  · exact List.cons_ne_nil _ _
  · exact fun h => foldByTable_ne_nil _ (List.map_eq_nil_iff.1 h)

/-- Every character folds to at least one, so that only the empty text folds to it. -/
theorem caseFold_eq_empty_iff (s : String) : caseFold s = "" ↔ s = "" := by
  rw [caseFold, ← String.toList_inj, String.toList_ofList, ← String.toList_inj]
  constructor
  · intro h
    cases hs : s.toList with
    | nil => rfl
    | cons c rest =>
        rw [hs, String.toList_empty, List.flatMap_cons, List.append_eq_nil_iff] at h
        exact absurd h.1 (foldChar_ne_nil c)
  · intro h
    rw [h]
    rfl

end Text

lemma foldName_eq_empty_iff (s : String) : foldName s = "" ↔ Text.normalise s = "" :=
  Text.caseFold_eq_empty_iff _

namespace Directory

variable {names : List (Int × String)} {id : Int} {text : String}

/-- Where all folded names differ, words are found exactly if a location is listed under them. -/
theorem find?_ofNames_iff (distinct : (names.map fun entry => foldName entry.2).Nodup)
    (words : Text.normalise text ≠ "") :
    (ofNames names).find? (foldName text) = some id
      ↔ ∃ name, (id, name) ∈ names ∧ foldName name = foldName text := by
  refine ⟨exists_name_of_find?, ?_⟩
  rintro ⟨name, hname, hsame⟩
  have hgiven : name ≠ "" := by
    rintro rfl
    have hblank : foldName "" = "" := (foldName_eq_empty_iff "").2 (by decide)
    exact words ((foldName_eq_empty_iff text).1 (hsame.symm.trans hblank))
  have hfound := find?_ofNames_of_nodup distinct hname hgiven
  rwa [hsame] at hfound

end Directory

/-! ### What inputs name -/

namespace Place.Input

/-- The location that an input names: an id names itself, and words name the location whose name
folds to the same text. -/
inductive Denotes (names : List (Int × String)) : Place.Input → Int → Prop where
  | id {id : Int} {name : Option String} : Denotes names { id := some id, name } id
  | words {id : Int} {name text : String} (listed : (id, name) ∈ names)
      (same : foldName name = foldName text) : Denotes names { name := some text } id

/-- Two inputs name the same place: one location, or, where no location is listed under them, words
that fold to the same text. -/
inductive SamePlace (names : List (Int × String)) : Place.Input → Place.Input → Prop where
  | listed {i j : Place.Input} {id : Int} (first : i.Denotes names id)
      (second : j.Denotes names id) : SamePlace names i j
  | unlisted {text text' : String} (same : foldName text = foldName text')
      (first : ∀ entry ∈ names, foldName entry.2 ≠ foldName text)
      (second : ∀ entry ∈ names, foldName entry.2 ≠ foldName text') :
      SamePlace names { name := some text } { name := some text' }

end Place.Input

namespace Place

variable {names : List (Int × String)} {directory : Directory} {i j : Input} {p q : Place}

/-! ### Places that are resolved -/

lemma resolve_resolve (directory : Directory) (p : Place) :
    (p.resolve directory).resolve directory = p.resolve directory := by
  cases p with
  | named id => rfl
  | custom text =>
      cases hfound : directory.find? (foldName text) with
      | some id => simp only [resolve, hfound]
      | none => simp only [resolve, hfound]

/-- Words are resolved to the location that is found under them. -/
lemma key_resolve_custom (text : String) :
    ((custom (Text.normalise text)).resolve directory).key
      = match directory.find? (foldName text) with
        | some id => .named id
        | none => .custom (foldName text) := by
  rw [key_resolve, key, foldName_normalise]
  rfl

/-- An input is resolved to a location exactly if it names that location. -/
lemma key_resolve_eq_named_iff (distinct : (names.map fun entry => foldName entry.2).Nodup)
    (accepted : ofInput i = .ok (some p)) {id : Int} :
    (p.resolve (Directory.ofNames names)).key = .named id ↔ i.Denotes names id := by
  rcases ofInput_eq_some_iff.1 accepted with
    ⟨own, name, rfl, -, -, rfl⟩ | ⟨text, rfl, hwords, rfl⟩
  · constructor
    · intro hkey
      obtain rfl := PlaceKey.named.inj hkey
      exact .id
    · rintro ⟨⟩
      rfl
  · have hfound := @Directory.find?_ofNames_iff names id text distinct hwords
    rw [key_resolve_custom]
    constructor
    · intro hkey
      split at hkey
      · rename_i listed hlisted
        obtain rfl := PlaceKey.named.inj hkey
        obtain ⟨name, hname, hsame⟩ := hfound.1 hlisted
        exact .words hname hsame
      · cases hkey
    · rintro (_ | ⟨hname, hsame⟩)
      rw [hfound.2 ⟨_, hname, hsame⟩]

/-- An input is resolved to words exactly if it gives them and no location is listed under them. -/
lemma key_resolve_eq_custom_iff (distinct : (names.map fun entry => foldName entry.2).Nodup)
    (accepted : ofInput i = .ok (some p)) {folded : String} :
    (p.resolve (Directory.ofNames names)).key = .custom folded
      ↔ ∃ text, i = { name := some text } ∧ foldName text = folded
        ∧ ∀ entry ∈ names, foldName entry.2 ≠ folded := by
  rcases ofInput_eq_some_iff.1 accepted with
    ⟨own, name, rfl, -, -, rfl⟩ | ⟨text, rfl, hwords, rfl⟩
  · constructor
    · rintro ⟨⟩
    · rintro ⟨text, ⟨⟩, -⟩
  · have hfound (id : Int) := @Directory.find?_ofNames_iff names id text distinct hwords
    rw [key_resolve_custom]
    constructor
    · intro hkey
      split at hkey
      · cases hkey
      · rename_i hnone
        obtain rfl := PlaceKey.custom.inj hkey
        refine ⟨text, rfl, rfl, fun entry hentry hsame => ?_⟩
        rw [(hfound entry.1).2 ⟨entry.2, hentry, hsame⟩] at hnone
        cases hnone
    · rintro ⟨text', hinput, rfl, hnone⟩
      obtain rfl := Option.some.inj (Input.mk.inj hinput).2
      cases hlisted : (Directory.ofNames names).find? (foldName text) with
      | some id =>
          obtain ⟨name, hname, hsame⟩ := (hfound id).1 hlisted
          exact absurd hsame (hnone (id, name) hname)
      | none => rfl

/-! ### Places that are stored -/

/-- A place that is stored in the two columns of a row and read back. -/
def restored (place : Option Place) : Option Place :=
  ofColumns (columns place).1 (columns place).2

/-- What an input is resolved to is stored as it is. -/
lemma restored_resolve (accepted : ofInput i = .ok (some p)) (directory : Directory) :
    restored (some (p.resolve directory)) = some (p.resolve directory) := by
  have hstored : ∀ place : Place, place.HasWords → place.normalised = place →
      restored (some place) = some place := by
    intro place hwords hnormal
    rw [restored, ofColumns_columns, reread, if_pos hwords, hnormal]
  rcases ofInput_eq_some_iff.1 accepted with
    ⟨own, name, rfl, -, -, rfl⟩ | ⟨text, rfl, hwords, rfl⟩
  · rfl
  · simp only [resolve]
    cases directory.find? (foldName (Text.normalise text)) with
    | some id => rfl
    | none =>
        refine hstored _ ?_ ?_
        · rwa [HasWords, Text.normalise_normalise]
        · rw [normalised, Text.normalise_normalise]

/-- Two inputs that are accepted are resolved to places with one key exactly if they name the same
place. Each of these places is resolved already; one column of a row is set for it, and it is read
back as it is, however often it is stored. -/
theorem key_resolve_eq_iff (distinct : (names.map fun entry => foldName entry.2).Nodup)
    (first : ofInput i = .ok (some p)) (second : ofInput j = .ok (some q)) :
    let directory := Directory.ofNames names
    let resolved := p.resolve directory
    (resolved.key = (q.resolve directory).key ↔ Input.SamePlace names i j)
      ∧ resolved.resolve directory = resolved
      ∧ (columns (some resolved)).1.isSome = !(columns (some resolved)).2.isSome
      ∧ ∀ times, restored^[times] (some resolved) = some resolved := by
  intro directory resolved
  have hcolumns (place : Place) :
      (columns (some place)).1.isSome = !(columns (some place)).2.isSome := by
    cases place <;> rfl
  refine ⟨⟨fun hsame => ?_, fun hsame => ?_⟩, resolve_resolve directory p, hcolumns resolved,
    Function.iterate_fixed (restored_resolve first directory)⟩
  · cases hkey : (q.resolve directory).key with
    | named id =>
        exact .listed ((key_resolve_eq_named_iff distinct first).1 (hsame.trans hkey))
          ((key_resolve_eq_named_iff distinct second).1 hkey)
    | custom folded =>
        obtain ⟨text, rfl, rfl, hnone⟩ :=
          (key_resolve_eq_custom_iff distinct first).1 (hsame.trans hkey)
        obtain ⟨text', rfl, htext, hnone'⟩ := (key_resolve_eq_custom_iff distinct second).1 hkey
        have hnone'' : ∀ entry ∈ names, foldName entry.2 ≠ foldName text' := by rwa [htext]
        exact .unlisted htext.symm hnone hnone''
  · cases hsame with
    | listed hfirst hsecond =>
        exact ((key_resolve_eq_named_iff distinct first).2 hfirst).trans
          ((key_resolve_eq_named_iff distinct second).2 hsecond).symm
    | @unlisted text text' same hfirst hsecond =>
        exact ((key_resolve_eq_custom_iff distinct first).2 ⟨text, rfl, rfl, hfirst⟩).trans
          ((key_resolve_eq_custom_iff distinct second).2
            ⟨text', rfl, same.symm, hfirst⟩).symm

/-- A stage and a street are listed, and a location that has no name. -/
def streetNames : List (Int × String) :=
  [(1, "Main Stage"), (2, "Straße"), (3, "")]

/-- The street in capitals is the location 2, and a large van is one van in all its spellings. -/
theorem key_resolve_eq_iff_street :
    (streetNames.map fun entry => foldName entry.2).Nodup
      ∧ ofInput { name := some " STRASSE" } = .ok (some (custom "STRASSE"))
      ∧ ofInput { id := some 2, name := some " " } = .ok (some (named 2))
      ∧ ofInput { name := some "Großer  Van" } = .ok (some (custom "Großer Van"))
      ∧ ofInput { name := some "GROSSER VAN " } = .ok (some (custom "GROSSER VAN"))
      ∧ ((custom "STRASSE").resolve (Directory.ofNames streetNames)).key
        = ((named 2).resolve (Directory.ofNames streetNames)).key
      ∧ ((custom "Großer Van").resolve (Directory.ofNames streetNames)).key
        = ((custom "GROSSER VAN").resolve (Directory.ofNames streetNames)).key := by
  have hdistinct : (streetNames.map fun entry => foldName entry.2).Nodup := by decide +kernel
  have hwords {text words : String} (h : Text.normalise text = words) (some_word : words ≠ "") :
      ofInput { name := some text } = .ok (some (custom words)) :=
    ofInput_eq_some_iff.2 (Or.inr ⟨text, rfl, h ▸ some_word, congrArg custom h.symm⟩)
  have hstreet := @hwords " STRASSE" "STRASSE" (by decide +kernel) (by decide)
  have hlocation := ofInput_eq_some_iff.2 (Or.inl ⟨2, some " ", rfl, by decide, by decide, rfl⟩)
  have hvan := @hwords "Großer  Van" "Großer Van" (by decide +kernel) (by decide)
  have hcapitals := @hwords "GROSSER VAN " "GROSSER VAN" (by decide +kernel) (by decide)
  refine ⟨hdistinct, hstreet, hlocation, hvan, hcapitals, ?_, ?_⟩
  · exact (key_resolve_eq_iff hdistinct hstreet hlocation).1.2
      (.listed (.words (show (2, "Straße") ∈ streetNames by decide) (by decide +kernel)) .id)
  · exact (key_resolve_eq_iff hdistinct hvan hcapitals).1.2
      (.unlisted (by decide +kernel) (by decide +kernel) (by decide +kernel))

end Place

end StageStock
