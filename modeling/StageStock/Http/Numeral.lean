import StageStock.Http.Problem
import StageStock.Text.Blank
import StageStock.Text.Numeral
import StageStock.Whole

/-!
# Whole numbers in the text of a request

A whole number may come as a text. The plain form is a minus sign or none and Basic Latin digits
without a zero in front. Any other text is tidied first: white space around it, a plus sign, zeros
in front, zeros behind a point and single low lines are dropped, and what is left has to have the
plain form.

* `plain`: the number of a text in the plain form;
* `tidy?`: a text without what does not count in it;
* `ofText`: the number of any text.
-/

namespace StageStock.Http.Numeral

/-- The number of a text in the plain form. A row of digits that is too long is told before what
follows it is looked at. -/
def plain (cs : List Char) : Except ProblemKind Int :=
  let negative := cs.head? = some '-'
  let unsigned := if negative then cs.drop 1 else cs
  match unsigned with
  | ['0'] => .ok 0
  | '0' :: _ => .error .unreadableWhole
  | _ =>
    let row := unsigned.takeWhile Char.isDigit
    if Text.mostDigits < row.length + (if negative then 1 else 0) then .error .wholeTooLarge
    else if row.isEmpty || row.length < unsigned.length then .error .unreadableWhole
    else
      let magnitude : Int := Text.digitsValue (row.filterMap Text.basicDigit?)
      .ok (if negative then -magnitude else magnitude)

/-- A text without the plus sign in front of it; no minus sign may follow that. -/
def dropPlus? : List Char → Option (List Char)
  | '+' :: '-' :: _ => none
  | '+' :: rest => some rest
  | cs => some cs

/-- A text after a zero in front of it, without the zeros and low lines that follow. The last
character stays, and so does the one in front of a point. -/
def dropZeros? (last : Char) : List Char → Option (List Char)
  | [] => some [last]
  | c :: rest =>
    if c = '0' || c = '_' then dropZeros? c rest
    else if c = '.' then some (last :: c :: rest)
    else if c.isDigit || c = '-' then some (c :: rest)
    else none

/-- A text without the zeros in front of it. It has to begin with a digit or a minus sign. -/
def dropLeadingZeros? : List Char → Option (List Char)
  | [] => none
  | c :: rest =>
    if c = '0' then dropZeros? c rest
    else if c.isDigit || c = '-' then some (c :: rest)
    else none

/-- A text without its first point and what follows it, if these are one or more zeros. -/
def dropDecimals (cs : List Char) : List Char :=
  match cs.dropWhile (· ≠ '.') with
  | '.' :: '0' :: decimals =>
    if decimals.all (· = '0') then cs.takeWhile (· ≠ '.') else cs
  | _ => cs

/-- Whether two low lines stand side by side. -/
def hasDoubleLine : List Char → Bool
  | '_' :: '_' :: _ => true
  | _ :: rest => hasDoubleLine rest
  | [] => false

/-- A text without its low lines, if each of them stands alone between other characters. -/
def dropLines (cs : List Char) : List Char :=
  if cs.head? = some '_' || cs.getLast? = some '_' || hasDoubleLine cs then cs
  else cs.filter (· ≠ '_')

/-- A text without what does not count in it. -/
def tidy? (cs : List Char) : Option (List Char) :=
  ((dropPlus? (Text.trimChars Text.isWhiteSpace cs)).bind dropLeadingZeros?).map
    fun rest => dropLines (dropDecimals rest)

/-- The number of a text, as it stands or else tidied. -/
def ofText (s : String) : Except ProblemKind Int :=
  match plain s.toList with
  | .error .unreadableWhole =>
    match tidy? s.toList with
    | some cs => plain cs
    | none => .error .unreadableWhole
  | found => found

end StageStock.Http.Numeral
