import StageStock.Calendar
import StageStock.Http.Problem
import StageStock.Rounding
import StageStock.Text.Numeral

/-!
# Days in a request

A day may come as `YYYY-MM-DD`, as a moment at the beginning of a day, or as a number of seconds
since the beginning of 1970; a number beyond `mostSeconds` counts milliseconds. A moment at another
time of day is a fault of its own, and so is a day of the year 0, which can be named but is not in
the calendar.

Seconds are counted to the microsecond, and a number with a fraction is rounded to it. Where such a
number stands in a text, the rounding is done after milliseconds have been turned into seconds.

* `ofInstant`: the day that begins at a number of seconds and microseconds;
* `ofInt`, `ofFraction`: the day of a number;
* `ofText`: the day of a text.
-/

namespace StageStock.Http.Day

/-! ### Numbers -/

/-- The number of the first day of 1970. -/
def epochDay : Int := 719468

/-- The number of 1 January of the year 0. -/
def earliestDay : Int := -60

/-- The number of 31 December 9999. -/
def latestDay : Int := 3652364

/-- The number of the first day of the calendar, 1 January of the year 1. -/
def firstDay : Int := 306

/-- The day of a number, if its time of day is the first. -/
def ofNumber (number : Int) (begins : Bool) : Except ProblemKind Date :=
  if !begins then .error .inexactDay
  else if number < firstDay then .error .dayBeforeCalendar
  else .ok ⟨number.toNat⟩

/-- The largest number that counts seconds; a larger one counts milliseconds. -/
def mostSeconds : Int := 20000000000

/-- The seconds that a count stands for, and the microseconds beside them. -/
def ofCount (count : Int) : Int × Int :=
  if -mostSeconds ≤ count ∧ count ≤ mostSeconds then (count, 0)
  else (count / 1000, count % 1000 * 1000)

/-- The day that begins at a count of seconds or milliseconds, and so many microseconds more. -/
def ofInstant (count micros : Int) : Except ProblemKind Date :=
  let (seconds, more) := ofCount count
  let rest := micros + more
  let seconds := seconds + rest / 1000000
  let number := epochDay + seconds / 86400
  if number < earliestDay ∨ latestDay < number then .error .unreadableDay
  else ofNumber number (seconds % 86400 = 0 && rest % 1000000 = 0)

/-- The day of a whole number. One that is too large even for floating-point arithmetic is nothing
that could be a day. -/
def ofInt (n : Int) : Except ProblemKind Date :=
  if Rounding.tooLarge n then .error .notADay else ofInstant n 0

/-- The nearest whole number, of two equally near ones the one further from zero, for a number that
is not negative. -/
def roundUp (x : Rat) : Int :=
  (x + 1 / 2).floor

/-- The microseconds of a fraction of a second. -/
def microseconds (fraction : Rat) : Int :=
  roundUp (Rounding.nearest (fraction * 1000000))

/-- The day of a number with a fraction. The fraction counts forwards from the whole number below,
by its distance from the one towards zero. -/
def ofFraction (x : Rat) : Except ProblemKind Date :=
  let fraction := x - (Rounding.truncate x : Int)
  ofInstant x.floor (microseconds (if fraction < 0 then -fraction else fraction))

/-- The day of a number with a fraction that stands in a text. -/
def ofWrittenFraction (x : Rat) : Except ProblemKind Date :=
  let seconds :=
    if -mostSeconds ≤ x ∧ x ≤ mostSeconds then x else Rounding.nearest (x / 1000)
  ofInstant seconds.floor (microseconds (Rounding.nearest (seconds - (seconds.floor : Int))))

/-! ### Times of day -/

/-- The signs in front of the distance from universal time; the second and the third are both minus
signs. -/
def offsetSigns : List Char := ['+', '-', '−']

/-- Whether characters are an offset from universal time: none, `Z`, or a sign with hours and
minutes. -/
def isOffset : List Char → Bool
  | [] => true
  | ['Z'] | ['z'] => true
  | [sign, h₁, h₂, ':', m₁, m₂] | [sign, h₁, h₂, m₁, m₂] =>
    offsetSigns.contains sign && isBelow 24 h₁ h₂ && isBelow 60 m₁ m₂
  | _ => false
where
  /-- Whether two characters are a number below a limit. -/
  isBelow (limit : Nat) (a b : Char) : Bool :=
    (Date.digitsValue? [a, b]).any (· < limit)

/-- The digits behind the seconds, after a point or a comma, and the rest; without either there is
one zero. -/
def decimalPart : List Char → List Char × List Char
  | c :: rest =>
    if c = '.' || c = ',' then (rest.takeWhile Char.isDigit, rest.dropWhile Char.isDigit)
    else (['0'], c :: rest)
  | [] => (['0'], [])

/-- The seconds part of a time of day and the offset behind it: whether the seconds are zero, if the
characters are such. Digits behind the sixth do not count. -/
def secondsPart? : List Char → Option Bool
  | ':' :: s₁ :: s₂ :: rest =>
    match Date.digitsValue? [s₁, s₂] with
    | none => none
    | some seconds =>
      let (decimals, offset) := decimalPart rest
      if seconds < 60 && !decimals.isEmpty && isOffset offset then
        some (seconds = 0 && (decimals.take 6).all (· = '0'))
      else none
  | offset => if isOffset offset then some true else none

/-- Whether the time of day that characters name is the beginning of the day, if they name one. -/
def midnight? : List Char → Option Bool
  | mark :: h₁ :: h₂ :: ':' :: m₁ :: m₂ :: rest =>
    match Date.digitsValue? [h₁, h₂], Date.digitsValue? [m₁, m₂], secondsPart? rest with
    | some hour, some minute, some zeroSeconds =>
      if (mark = 'T' || mark = 't' || mark = ' ' || mark = '_') && hour < 24 && minute < 60 then
        some (hour = 0 && minute = 0 && zeroSeconds)
      else none
    | _, _, _ => none
  | _ => none

/-! ### Texts -/

/-- The number with a point that characters spell, if they spell one: digits on one side of the
point at least, and an exponent or none. -/
def written? (cs : List Char) : Option Rat :=
  let (negative, unsigned) := Text.splitSign cs
  let whole := unsigned.takeWhile Char.isDigit
  match unsigned.dropWhile Char.isDigit with
  | '.' :: rest =>
    let decimals := rest.takeWhile Char.isDigit
    match whole ++ decimals, exponent? (rest.dropWhile Char.isDigit) with
    | [], _ | _, none => none
    | digits, some e =>
      let magnitude : Int := Text.digitsValue (digits.filterMap Text.basicDigit?)
      Rounding.ofDecimal? (if negative then -magnitude else magnitude) (e - decimals.length)
  | _ => none
where
  /-- The exponent that characters spell; zero if there are none. -/
  exponent? : List Char → Option Int
    | [] => some 0
    | mark :: rest =>
      let (negative, digits) := Text.splitSign rest
      if (mark = 'e' || mark = 'E') && !digits.isEmpty && digits.all Char.isDigit then
        let magnitude : Int := Text.digitsValue (digits.filterMap Text.basicDigit?)
        some (if negative then -magnitude else magnitude)
      else none

/-- The whole number that characters spell, if they are digits behind a sign or none. -/
def count? (cs : List Char) : Option Int :=
  let (negative, digits) := Text.splitSign cs
  if !digits.isEmpty && digits.all Char.isDigit then
    let magnitude : Int := Text.digitsValue (digits.filterMap Text.basicDigit?)
    some (if negative then -magnitude else magnitude)
  else none

/-- The day that a date names, with whether it is meant from its beginning. -/
def ofDate (date : Nat × Nat × Nat) (begins : Bool) : Except ProblemKind Date :=
  match Date.ofCivil? date.1 date.2.1 date.2.2 with
  | some d => ofNumber d.day begins
  | none => ofNumber earliestDay begins

/-- The day that a text names. -/
def ofText (s : String) : Except ProblemKind Date :=
  let cs := s.toList
  match Date.civilOfChars? (cs.take 10), cs.drop 10 with
  | some date, [] => ofDate date true
  | some date, time =>
    match midnight? time with
    | some begins => ofDate date begins
    | none => .error .unreadableDay
  | none, _ =>
    match count? cs, written? cs with
    | some n, _ => ofInstant n 0
    | none, some x => ofWrittenFraction x
    | none, none => .error .unreadableDay

end StageStock.Http.Day
