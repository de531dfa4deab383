import StageStock.Json
import StageStock.Text.Encoding
import StageStock.Text.Hexadecimal

/-!
# Reading JSON

`Json.parse?` reads the text of exactly one document, blanks around it allowed. A text with a raw
control character between quotes, a number with a leading zero, a comma before a closing bracket or
anything after the document is no document. `Json.parseWithin` reads the same and also stops where a
document goes beyond `Limits`; of a fault and a limit the one that comes first in the text counts.

The reader works on the list of characters left to read. Of two calls of `documentAt`, `itemsAt`
and `entriesAt` inside each other one takes a character, so twice the length of the text bounds how
deep they call each other; that bound is their first argument. The second is how many brackets may
still be opened inside each other.

* `numeralAt`: a number, kept exact;
* `quoted?`: the inside of a quoted text up to its closing quote;
* `parseWithin`, `parse?`: the whole text.
-/

namespace StageStock.Json

/-- How long and how deep a document may be. -/
structure Limits where
  /-- The most digits of a whole number. -/
  digits : Nat
  /-- The most brackets that are open at once. -/
  depth : Nat
  deriving DecidableEq, Repr

/-- Why no document is read. -/
inductive ParseProblem where
  /-- The text is no document. -/
  | malformed
  /-- The document goes beyond the limits. -/
  | beyondLimits
  deriving DecidableEq, Repr

/-- A value read from the front of a text, with the rest of the text. -/
abbrev Parsed (α : Type) := Except ParseProblem (α × List Char)

/-- What a reader that knows no limits found. -/
def Parsed.of {α : Type} : Option (α × List Char) → Parsed α
  | some found => .ok found
  | none => .error .malformed

/-- The rest of the text after blanks. -/
def skipBlanks (cs : List Char) : List Char :=
  cs.dropWhile fun c => c = ' ' || c = '\t' || c = '\n' || c = '\r'

/-- What follows `word`, if the text starts with it. -/
def strip? : (word cs : List Char) → Option (List Char)
  | [], cs => some cs
  | w :: word, c :: cs => if w = c then strip? word cs else none
  | _ :: _, [] => none

/-! ### Numbers -/

/-- A digit's value. -/
def digitValue (c : Char) : Nat :=
  c.toNat - '0'.toNat

/-- The number that a row of digits spells. -/
def digitsValue (cs : List Char) : Nat :=
  cs.foldl (fun n c => 10 * n + digitValue c) 0

/-- The digits at the front of a text, and the rest. -/
def digits (cs : List Char) : List Char × List Char :=
  (cs.takeWhile Char.isDigit, cs.dropWhile Char.isDigit)

/-- The digits before the point: a zero stands alone, any other digit may be followed by more. -/
def wholePart? : List Char → Option (List Char × List Char)
  | '0' :: rest => some (['0'], rest)
  | cs => match digits cs with
    | ([], _) => none
    | found => some found

/-- The digits after a point; a point without a digit belongs to what follows the number. -/
def fraction (cs : List Char) : List Char × List Char :=
  match cs with
  | '.' :: rest => match digits rest with
    | ([], _) => ([], cs)
    | found => found
  | _ => ([], cs)

/-- The exponent, if a complete one follows. -/
def exponent (cs : List Char) : Option Int × List Char :=
  match cs with
  | e :: rest =>
    if e = 'e' || e = 'E' then
      let (negative, unsigned) := match rest with
        | '-' :: r => (true, r)
        | '+' :: r => (false, r)
        | r => (false, r)
      match digits unsigned with
      | ([], _) => (none, cs)
      | (ds, after) =>
        let n : Int := digitsValue ds
        (some (if negative then -n else n), after)
    else (none, cs)
  | [] => (none, cs)

/-- A number at the front of the text. -/
def numeralAt (limits : Limits) (cs : List Char) : Parsed Json :=
  let (negative, unsigned) := match cs with
    | '-' :: rest => (true, rest)
    | _ => (false, cs)
  match wholePart? unsigned with
  | none => .error .malformed
  | some (whole, afterWhole) =>
    let (decimals, afterPoint) := fraction afterWhole
    let (power, rest) := exponent afterPoint
    let magnitude : Int := digitsValue (whole ++ decimals)
    let signed := if negative then -magnitude else magnitude
    match decimals, power with
    | [], none =>
      if limits.digits < whole.length then .error .beyondLimits else .ok (.int signed, rest)
    | ds, p => .ok (.decimal signed (p.getD 0 - ds.length), rest)

/-- The words for numbers that have no numeral. -/
def numberWords : List (List Char × Unnumbered) :=
  [("NaN".toList, .notANumber), ("Infinity".toList, .infinity),
    ("-Infinity".toList, .minusInfinity)]

/-- A number or a word for one at the front of the text. -/
def numberAt (limits : Limits) (cs : List Char) : Parsed Json :=
  match numberWords.findSome? fun (word, value) => (strip? word cs).map (value, ·) with
  | some (value, rest) => .ok (.unnumbered value, rest)
  | none => numeralAt limits cs

/-! ### Text -/

/-- The number that four hexadecimal digits spell. -/
def hex4? (a b c d : Char) : Option Nat := do
  let a ← Text.hexValue? a
  let b ← Text.hexValue? b
  let c ← Text.hexValue? c
  let d ← Text.hexValue? d
  return ((a * 16 + b) * 16 + c) * 16 + d

/-- The character an escape of one letter stands for. -/
def escaped? (c : Char) : Option Char :=
  match c with
  | '"' => some '"'
  | '\\' => some '\\'
  | '/' => some '/'
  | 'b' => some '\x08'
  | 'f' => some '\x0c'
  | 'n' => some '\n'
  | 'r' => some '\r'
  | 't' => some '\t'
  | _ => none

/-- The text up to the closing quote, and what follows that quote. Half of a pair of code units that
stands alone is no character and reads as the replacement character. -/
def quoted? : List Char → Option (List Char × List Char)
  | [] => none
  | '"' :: rest => some ([], rest)
  | '\\' :: 'u' :: a :: b :: c :: d :: '\\' :: 'u' :: e :: f :: g :: h :: rest =>
    match hex4? a b c d with
    | none => none
    | some high =>
      match (hex4? e f g h).bind (Text.Encoding.pairValue? high) with
      | some n => (quoted? rest).map fun found => (Text.charOr n :: found.1, found.2)
      | none =>
        (quoted? ('\\' :: 'u' :: e :: f :: g :: h :: rest)).map
          fun found => (Text.charOr high :: found.1, found.2)
  | '\\' :: 'u' :: a :: b :: c :: d :: rest =>
    match hex4? a b c d with
    | none => none
    | some unit => (quoted? rest).map fun found => (Text.charOr unit :: found.1, found.2)
  | '\\' :: c :: rest =>
    match escaped? c with
    | none => none
    | some ch => (quoted? rest).map fun found => (ch :: found.1, found.2)
  | c :: rest =>
    if c.toNat < 32 ∨ c = '\\' then none
    else (quoted? rest).map fun found => (c :: found.1, found.2)
termination_by cs => cs.length
decreasing_by all_goals simp_wf; all_goals omega

/-! ### Documents -/

mutual

/-- A document at the front of the text, with what follows it. -/
def documentAt (limits : Limits) : Nat → Nat → List Char → Parsed Json
  | 0, _, _ => .error .malformed
  | fuel + 1, depth, cs =>
    match skipBlanks cs with
    | '"' :: rest => .of ((quoted? rest).map fun found => (.str (String.ofList found.1), found.2))
    | '[' :: rest =>
      match depth with
      | 0 => .error .beyondLimits
      | inner + 1 =>
        match skipBlanks rest with
        | ']' :: after => .ok (.arr [], after)
        | _ => (itemsAt limits fuel inner rest).map fun found => (.arr found.1, found.2)
    | '\x7b' :: rest =>
      match depth with
      | 0 => .error .beyondLimits
      | inner + 1 =>
        match skipBlanks rest with
        | '\x7d' :: after => .ok (.obj [], after)
        | _ => (entriesAt limits fuel inner rest).map fun found => (object found.1, found.2)
    | 'n' :: rest => .of ((strip? ['u', 'l', 'l'] rest).map fun after => (.null, after))
    | 't' :: rest => .of ((strip? ['r', 'u', 'e'] rest).map fun after => (.bool true, after))
    | 'f' :: rest => .of ((strip? ['a', 'l', 's', 'e'] rest).map fun after => (.bool false, after))
    | other => numberAt limits other

/-- The elements of an array up to its closing bracket. -/
def itemsAt (limits : Limits) : Nat → Nat → List Char → Parsed (List Json)
  | 0, _, _ => .error .malformed
  | fuel + 1, depth, cs =>
    match documentAt limits fuel depth cs with
    | .error e => .error e
    | .ok (item, rest) =>
      match skipBlanks rest with
      | ']' :: after => .ok ([item], after)
      | ',' :: more =>
        (itemsAt limits fuel depth more).map fun found => (item :: found.1, found.2)
      | _ => .error .malformed

/-- The fields of an object up to its closing brace. -/
def entriesAt (limits : Limits) : Nat → Nat → List Char → Parsed (List (String × Json))
  | 0, _, _ => .error .malformed
  | fuel + 1, depth, cs =>
    match skipBlanks cs with
    | '"' :: text =>
      match quoted? text with
      | none => .error .malformed
      | some (key, afterKey) =>
        match skipBlanks afterKey with
        | ':' :: rest =>
          match documentAt limits fuel depth rest with
          | .error e => .error e
          | .ok (value, afterValue) =>
            let entry := (String.ofList key, value)
            match skipBlanks afterValue with
            | '\x7d' :: after => .ok ([entry], after)
            | ',' :: more =>
              (entriesAt limits fuel depth more).map fun found => (entry :: found.1, found.2)
            | _ => .error .malformed
        | _ => .error .malformed
    | _ => .error .malformed

end

/-- The document a text spells, if it spells one within limits. -/
def parseWithin (limits : Limits) (cs : List Char) : Except ParseProblem Json :=
  match documentAt limits (2 * cs.length + 2) limits.depth cs with
  | .error e => .error e
  | .ok (document, rest) => if skipBlanks rest = [] then .ok document else .error .malformed

/-- The document a text spells, if it spells one. Nothing in a text is longer than the text, so its
length is no limit. -/
def parse? (text : String) : Option Json :=
  let cs := text.toList
  (parseWithin { digits := cs.length, depth := cs.length } cs).toOption

end StageStock.Json
