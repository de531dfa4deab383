import Mathlib.Tactic.Lemma
import StageStock.Snapshot

/-!
What becomes of a place when it is stored and read back.

* `Text.words_normaliseChars`: the words of a normalised text are the words it was made of, so that
  normalising twice is normalising once (`Text.normalise_normalise`), and a name is folded alike
  before and after (`foldName_normalise`);
* `Place.ofColumns_columns`: a place is read back with its words normalised, and a description
  without a word is read back as no place at all (`Place.reread`);
* `Place.key_normalised`: normalising keeps the key, so that two places are told apart as before.
-/

namespace StageStock

/-! ### Words of a normalised text -/

namespace Text

lemma pieces_append_blank {w rest : List Char} {c : Char} (hw : ∀ d ∈ w, isBlank d = false)
    (hc : isBlank c = true) : pieces (w ++ c :: rest) = w :: pieces rest := by
  induction w with
  | nil => simp [pieces, hc]
  | cons d w ih =>
      have hd : isBlank d = false := hw d (by simp)
      rw [List.cons_append, pieces, ih fun x hx => hw x (by simp [hx])]
      simp [hd]

lemma pieces_of_not_blank {w : List Char} (hw : ∀ d ∈ w, isBlank d = false) : pieces w = [w] := by
  induction w with
  | nil => rfl
  | cons d w ih =>
      have hd : isBlank d = false := hw d (by simp)
      rw [pieces, ih fun x hx => hw x (by simp [hx])]
      simp [hd]

/-- Words joined by single spaces fall into the same words again. -/
lemma words_intercalate {ws : List (List Char)} (hne : ∀ w ∈ ws, w ≠ [])
    (hblank : ∀ w ∈ ws, ∀ d ∈ w, isBlank d = false) : words ([' '].intercalate ws) = ws := by
  induction ws with
  | nil => rfl
  | cons w ws ih =>
      have hw : w ≠ [] := hne w (by simp)
      have hwb := hblank w (by simp)
      cases ws with
      | nil => simp [words, List.intercalate, pieces_of_not_blank hwb, hw]
      | cons v vs =>
          have hrest := ih (fun x hx => hne x (by simp [hx])) fun x hx => hblank x (by simp [hx])
          have hjoin : [' '].intercalate (w :: v :: vs)
              = w ++ ' ' :: [' '].intercalate (v :: vs) := by
            simp [List.intercalate]
          rw [words] at hrest ⊢
          rw [hjoin, pieces_append_blank hwb (by decide), List.filter_cons_of_pos (by simp [hw]),
            hrest]

theorem words_normaliseChars (cs : List Char) : words (normaliseChars cs) = words cs :=
  words_intercalate (fun _ h => ne_nil_of_mem_words h) fun _ h => not_isBlank_of_mem_words h

@[simp] theorem normalise_normalise (s : String) : normalise (normalise s) = normalise s := by
  rw [normalise, normalise, String.toList_ofList, normaliseChars, words_normaliseChars]
  rfl

end Text

/-! ### Places -/

@[simp] lemma foldName_normalise (s : String) : foldName (Text.normalise s) = foldName s := by
  rw [foldName, Text.normalise_normalise, foldName]

namespace Place

/-- A place as it is stored: a description by its words. -/
def normalised : Place → Place
  | named id => named id
  | custom text => custom (Text.normalise text)

/-- Whether a place can be read back: a description needs a word. -/
def HasWords : Place → Prop
  | named _ => True
  | custom text => Text.normalise text ≠ ""

instance : DecidablePred HasWords
  | named _ => .isTrue trivial
  | custom text => inferInstanceAs (Decidable (Text.normalise text ≠ ""))

@[simp] lemma key_normalised (p : Place) : p.normalised.key = p.key := by
  cases p <;> simp [normalised, key]

@[simp] lemma hasWords_normalised (p : Place) : p.normalised.HasWords ↔ p.HasWords := by
  cases p <;> simp [normalised, HasWords]

/-- A place as it is read back: by its words, if it has any. -/
def reread (p : Place) : Option Place :=
  if p.HasWords then some p.normalised else none

theorem ofColumns_columns (p : Place) :
    ofColumns (columns (some p)).1 (columns (some p)).2 = p.reread := by
  rw [reread]
  cases p with
  | named id => simp [columns, ofColumns, HasWords, normalised]
  | custom text =>
      simp only [columns, ofColumns, HasWords, normalised, Text.normalise?, Option.getD_some,
        Text.normalise_normalise]
      by_cases h : Text.normalise text = "" <;> simp [h]

lemma ofColumns_columns_none : ofColumns (columns none).1 (columns none).2 = none := by
  decide

/-- A place that was read is normalised and has words. -/
lemma normalised_of_ofColumns {id : Option Int} {text : Option String} {p : Place}
    (h : ofColumns id text = some p) : p.normalised = p ∧ p.HasWords := by
  cases id with
  | some n =>
      simp only [ofColumns, Option.some.injEq] at h
      subst h
      exact ⟨rfl, trivial⟩
  | none =>
      by_cases hne : Text.normalise? text = ""
      · simp [ofColumns, hne] at h
      · simp only [ofColumns, hne, if_false, Option.some.injEq] at h
        subst h
        exact ⟨by simp [normalised, Text.normalise?],
          by simpa [HasWords, Text.normalise?] using hne⟩

/-- Reading back a place that was read changes nothing. -/
lemma reread_of_ofColumns {id : Option Int} {text : Option String} {p : Place}
    (h : ofColumns id text = some p) : p.reread = some p := by
  obtain ⟨hnormal, hwords⟩ := normalised_of_ofColumns h
  rw [reread, if_pos hwords, hnormal]

end Place

/-! ### Installations -/

namespace Installation

/-- An installation as it is read back. -/
def recorded (i : Installation) : Installation :=
  { i with
    kind := if i.kind = "" then InstallationKind.portable.text else i.kind
    place := i.place.bind Place.reread }

end Installation

end StageStock
