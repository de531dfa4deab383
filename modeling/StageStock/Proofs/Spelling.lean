import Mathlib.Data.List.Basic
import Mathlib.Tactic.Lemma
import StageStock.Proofs.StoredPlace

/-!
Spellings that differ in the case of Basic Latin letters.

Names are compared by their words with all letters folded. To make the Basic Latin capitals of a
name small beforehand changes nothing of that, as the capitals are folded to these letters anyway
and none of them parts words.

* `Text.normalise_lowerBasicLatin`, `Text.caseFold_lowerBasicLatin`: what becomes of the words and
  of the folding;
* `foldName_eq_of_lowerBasicLatin_eq`: two spellings that differ in these letters only are one name.
-/

namespace StageStock

namespace Text

/-! ### Characters -/

lemma toNat_foldBasicLatin (c : Char) :
    (foldBasicLatin c).toNat = if 65 ≤ c.toNat ∧ c.toNat ≤ 90 then c.toNat + 32 else c.toNat := by
  rw [foldBasicLatin]
  split
  · rename_i hcapital
    have hvalid : (c.toNat + 32).isValidChar := Or.inl (by omega)
    rw [Char.ofNat, dif_pos hvalid]
    rfl
  · rfl

lemma foldBasicLatin_foldBasicLatin (c : Char) :
    foldBasicLatin (foldBasicLatin c) = foldBasicLatin c := by
  have hsmall : ¬ (65 ≤ (foldBasicLatin c).toNat ∧ (foldBasicLatin c).toNat ≤ 90) := by
    rw [toNat_foldBasicLatin]
    split <;> omega
  exact if_neg hsmall

/-- No capital is a blank, and neither is its small letter. -/
lemma isBlank_foldBasicLatin (c : Char) : isBlank (foldBasicLatin c) = isBlank c := by
  have hletter : ∀ d : Char, 65 ≤ d.toNat → d.toNat ≤ 122 → isBlank d = false := by
    intro d hlow hhigh
    simp only [isBlank, isWhiteSpace, Bool.or_eq_false_iff, Bool.and_eq_false_imp,
      decide_eq_true_eq, decide_eq_false_iff_not]
    omega
  by_cases hcapital : 65 ≤ c.toNat ∧ c.toNat ≤ 90
  · have hsmall := toNat_foldBasicLatin c
    rw [if_pos hcapital] at hsmall
    rw [hletter c hcapital.1 (by omega), hletter _ (by omega) (by omega)]
  · rw [foldBasicLatin, if_neg hcapital]

lemma foldChar_foldBasicLatin (c : Char) : foldChar (foldBasicLatin c) = foldChar c := by
  by_cases hlatin : c.toNat < 128
  · have hfolded : (foldBasicLatin c).toNat < 128 := by
      rw [toNat_foldBasicLatin]
      split <;> omega
    rw [foldChar_of_lt hlatin, foldChar_of_lt hfolded, foldBasicLatin_foldBasicLatin]
  · have hother : foldBasicLatin c = c := if_neg (by omega)
    rw [hother]

/-! ### Words -/

section Words

variable {f : Char → Char}

/-- Where blanks stay blanks and nothing else becomes one, a text falls into pieces at the same
characters as before. -/
lemma pieces_map (hf : ∀ c, isBlank (f c) = isBlank c) (cs : List Char) :
    pieces (cs.map f) = (pieces cs).map (List.map f) := by
  induction cs with
  | nil => rfl
  | cons c rest ih =>
      rw [List.map_cons, pieces, pieces, hf, ih]
      by_cases hblank : isBlank c = true
      · rw [if_pos hblank, if_pos hblank]
        rfl
      · rw [if_neg hblank, if_neg hblank]
        cases pieces rest <;> rfl

lemma words_map (hf : ∀ c, isBlank (f c) = isBlank c) (cs : List Char) :
    words (cs.map f) = (words cs).map (List.map f) := by
  rw [words, pieces_map hf, List.filter_map, words]
  congr 1
  refine List.filter_congr fun piece _ => ?_
  simp

lemma intercalate_map (space : f ' ' = ' ') (ws : List (List Char)) :
    [' '].intercalate (ws.map (List.map f)) = ([' '].intercalate ws).map f := by
  induction ws with
  | nil => rfl
  | cons w rest ih =>
      cases rest with
      | nil => simp [List.intercalate]
      | cons v others =>
          simp only [List.intercalate, List.map_cons, List.intersperse_cons_cons, List.flatten_cons,
            List.map_append, List.map_nil, space] at ih ⊢
          rw [ih]

lemma normaliseChars_map (hf : ∀ c, isBlank (f c) = isBlank c) (space : f ' ' = ' ')
    (cs : List Char) : normaliseChars (cs.map f) = (normaliseChars cs).map f := by
  rw [normaliseChars, normaliseChars, words_map hf, intercalate_map space]

end Words

theorem normalise_lowerBasicLatin (s : String) :
    normalise (lowerBasicLatin s) = lowerBasicLatin (normalise s) := by
  rw [normalise, lowerBasicLatin, String.toList_ofList,
    normaliseChars_map isBlank_foldBasicLatin (by decide), lowerBasicLatin, normalise,
    String.toList_ofList]

theorem caseFold_lowerBasicLatin (s : String) : caseFold (lowerBasicLatin s) = caseFold s := by
  rw [caseFold, lowerBasicLatin, String.toList_ofList, List.flatMap_map, caseFold]
  congr 1
  exact List.flatMap_congr fun c _ => foldChar_foldBasicLatin c

end Text

/-- Two spellings that differ in the case of Basic Latin letters only are one name. -/
theorem foldName_eq_of_lowerBasicLatin_eq {t u : String}
    (h : Text.lowerBasicLatin t = Text.lowerBasicLatin u) : foldName t = foldName u := by
  have hfold : ∀ s : String, foldName s
      = Text.caseFold (Text.normalise (Text.lowerBasicLatin s)) := by
    intro s
    rw [Text.normalise_lowerBasicLatin, Text.caseFold_lowerBasicLatin, foldName]
  rw [hfold t, hfold u, h]

end StageStock
