/-!
# Blanks and the words between them

A text is compared by its words: `normalise` drops the blanks at both ends and writes every run of
blanks between two words as one space.

* `isWhiteSpace`: the characters of the Unicode property of that name;
* `isBlank`: these and the four separators of the control block, which part words as well;
* `words`: the longest pieces without a blank; none is empty (`ne_nil_of_mem_words`) and none holds
  a blank (`not_isBlank_of_mem_words`);
* `normalise_eq_empty_iff`: only a text without a word is normalised to the empty text.
-/

namespace StageStock.Text

/-- The characters with the Unicode property `White_Space`. -/
def isWhiteSpace (c : Char) : Bool :=
  let n := c.toNat
  (9 ≤ n && n ≤ 13) || n = 0x20 || n = 0x85 || n = 0xA0 || n = 0x1680 || (0x2000 ≤ n && n ≤ 0x200A)
    || n = 0x2028 || n = 0x2029 || n = 0x202F || n = 0x205F || n = 0x3000

/-- The characters that part words: white space and the separators U+001C to U+001F. -/
def isBlank (c : Char) : Bool :=
  isWhiteSpace c || (0x1C ≤ c.toNat && c.toNat ≤ 0x1F)

/-- Drop the characters of a class at both ends. -/
def trimChars (p : Char → Bool) (cs : List Char) : List Char :=
  ((cs.dropWhile p).reverse.dropWhile p).reverse

/-- The text without the blanks at its ends. -/
def trim (s : String) : String :=
  String.ofList (trimChars isBlank s.toList)

/-! ### Words -/

/-- The pieces between the blanks, an empty one where two blanks meet or a text ends in one. -/
def pieces : List Char → List (List Char)
  | [] => [[]]
  | c :: rest =>
    if isBlank c then [] :: pieces rest
    else match pieces rest with
      | [] => [[c]]
      | piece :: others => (c :: piece) :: others

/-- The words of a text. -/
def words (cs : List Char) : List (List Char) :=
  (pieces cs).filter fun piece => !piece.isEmpty

/-- The words of a text with one space between each two. -/
def normaliseChars (cs : List Char) : List Char :=
  [' '].intercalate (words cs)

/-- The words of a text with one space between each two. -/
def normalise (s : String) : String :=
  String.ofList (normaliseChars s.toList)

/-- The words of a text that may be missing; a missing one has none. -/
def normalise? (s : Option String) : String :=
  normalise (s.getD "")

theorem ne_nil_of_mem_words {cs w : List Char} (h : w ∈ words cs) : w ≠ [] := by
  have := (List.mem_filter.1 h).2
  simpa using this

theorem not_isBlank_of_mem_pieces {cs piece : List Char} (h : piece ∈ pieces cs) :
    ∀ c ∈ piece, isBlank c = false := by
  induction cs generalizing piece with
  | nil => simp_all [pieces]
  | cons c rest ih =>
    intro d hd
    by_cases hc : isBlank c
    · simp only [pieces, hc, if_true, List.mem_cons] at h
      rcases h with rfl | h
      · simp at hd
      · exact ih h d hd
    · have hc' : isBlank c = false := by simpa using hc
      simp only [pieces, hc] at h
      cases hp : pieces rest with
      | nil =>
        simp [hp] at h
        subst h
        simp at hd
        exact hd ▸ hc'
      | cons first others =>
        simp [hp] at h
        rcases h with rfl | h
        · rcases List.mem_cons.1 hd with rfl | hd
          · exact hc'
          · exact ih (by simp [hp]) d hd
        · exact ih (by simp [hp, h]) d hd

theorem not_isBlank_of_mem_words {cs w : List Char} (h : w ∈ words cs) :
    ∀ c ∈ w, isBlank c = false :=
  not_isBlank_of_mem_pieces (List.mem_filter.1 h).1

theorem normaliseChars_eq_nil_iff (cs : List Char) : normaliseChars cs = [] ↔ words cs = [] := by
  constructor
  · intro h
    cases hw : words cs with
    | nil => rfl
    | cons w ws =>
      have hne : w ≠ [] := @ne_nil_of_mem_words cs w (by simp [hw])
      cases ws with
      | nil => simp [normaliseChars, hw, List.intercalate] at h; exact absurd h hne
      | cons v vs => simp [normaliseChars, hw, List.intercalate] at h
  · intro h
    simp [normaliseChars, h, List.intercalate]

theorem normalise_eq_empty_iff (s : String) : normalise s = "" ↔ words s.toList = [] := by
  rw [← normaliseChars_eq_nil_iff, normalise]
  constructor
  · intro h
    have := congrArg String.toList h
    simpa using this
  · intro h
    simp [h]

end StageStock.Text
