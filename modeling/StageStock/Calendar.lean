import StageStock.Json

/-!
# Days and moments

A `Date` is a day of the Gregorian calendar, kept as the number of days since 1 March of the year 0,
so that the order of dates is the order of numbers and the day after is one more. A `Moment` is a
second of a day.

* `Date.ofCivil?`, `Date.civil`: between a day and its year, month and day of month;
* `Date.parse?`, `Date.text`: between a day and `YYYY-MM-DD`;
* `Moment.text`: a moment as `YYYY-MM-DDTHH:MM:SS`;
* `Date.covers`: whether a period given by an optional first and last day holds a day.
-/

namespace StageStock

/-- A day, as the number of days since 1 March of the year 0. -/
structure Date where
  day : Nat
  deriving DecidableEq, Repr, Inhabited

/-- A second of a day. -/
structure Moment where
  date : Date
  second : Nat
  deriving DecidableEq, Repr, Inhabited

namespace Date

instance : LE Date := ⟨fun a b => a.day ≤ b.day⟩
instance : LT Date := ⟨fun a b => a.day < b.day⟩
instance (a b : Date) : Decidable (a ≤ b) := inferInstanceAs (Decidable (a.day ≤ b.day))
instance (a b : Date) : Decidable (a < b) := inferInstanceAs (Decidable (a.day < b.day))

/-! ### Year, month and day of month -/

/-- Whether a year has a 29 February. -/
def isLeap (year : Nat) : Bool :=
  (year % 4 = 0 && year % 100 ≠ 0) || year % 400 = 0

/-- The number of days of a month. -/
def daysInMonth (year month : Nat) : Nat :=
  if month = 2 then (if isLeap year then 29 else 28)
  else if month = 4 ∨ month = 6 ∨ month = 9 ∨ month = 11 then 30
  else 31

/-- The number of days from 1 March of the year 0 to 1 March of a year. -/
def daysBeforeYear (year : Nat) : Nat :=
  365 * year + year / 4 - year / 100 + year / 400

/-- Whether a year has this day. The year 0, which comes before the calendar begins, has days as
well. -/
def isCivil (year month dayOfMonth : Nat) : Bool :=
  year ≤ 9999 && 1 ≤ month && month ≤ 12 && 1 ≤ dayOfMonth && dayOfMonth ≤ daysInMonth year month

/-- The day with this year, month and day of month, for years 1 to 9999. Years are counted from
March, so that a leap day is the last of its year. -/
def ofCivil? (year month dayOfMonth : Nat) : Option Date :=
  if 1 ≤ year ∧ isCivil year month dayOfMonth then
    let marchYear := if month ≤ 2 then year - 1 else year
    let marchMonth := (month + 9) % 12
    some ⟨daysBeforeYear marchYear + (153 * marchMonth + 2) / 5 + (dayOfMonth - 1)⟩
  else none

/-- The year, month and day of month. -/
def civil (d : Date) : Nat × Nat × Nat :=
  let era := d.day / 146097
  let dayOfEra := d.day % 146097
  let yearOfEra := (dayOfEra - dayOfEra / 1460 + dayOfEra / 36524 - dayOfEra / 146096) / 365
  let dayOfYear := dayOfEra - (365 * yearOfEra + yearOfEra / 4 - yearOfEra / 100)
  let marchMonth := (5 * dayOfYear + 2) / 153
  let dayOfMonth := dayOfYear - (153 * marchMonth + 2) / 5 + 1
  let month := if marchMonth < 10 then marchMonth + 3 else marchMonth - 9
  let marchYear := yearOfEra + 400 * era
  (if month ≤ 2 then marchYear + 1 else marchYear, month, dayOfMonth)

/-- The day that lies `n` days later. -/
def addDays (d : Date) (n : Nat) : Date :=
  ⟨d.day + n⟩

/-! ### Text -/

/-- A number in at least `width` digits. -/
def padded (width n : Nat) : String :=
  let digits := (toString n).toList
  String.ofList (List.replicate (width - digits.length) '0' ++ digits)

/-- The day as `YYYY-MM-DD`. -/
def text (d : Date) : String :=
  let (year, month, dayOfMonth) := d.civil
  padded 4 year ++ "-" ++ padded 2 month ++ "-" ++ padded 2 dayOfMonth

/-- The number that characters spell, if they are digits. -/
def digitsValue? (cs : List Char) : Option Nat :=
  if cs.all Char.isDigit then some (cs.foldl (fun n c => 10 * n + (c.toNat - 48)) 0) else none

/-- The year, month and day of month that ten characters `YYYY-MM-DD` name, if there is such a day
in the years 0 to 9999. -/
def civilOfChars? : List Char → Option (Nat × Nat × Nat)
  | [y₁, y₂, y₃, y₄, '-', m₁, m₂, '-', d₁, d₂] => do
    let year ← digitsValue? [y₁, y₂, y₃, y₄]
    let month ← digitsValue? [m₁, m₂]
    let dayOfMonth ← digitsValue? [d₁, d₂]
    if isCivil year month dayOfMonth then some (year, month, dayOfMonth) else none
  | _ => none

/-- The day that ten characters `YYYY-MM-DD` name. -/
def ofChars? (cs : List Char) : Option Date :=
  (civilOfChars? cs).bind fun (year, month, dayOfMonth) => ofCivil? year month dayOfMonth

/-- The day that a text `YYYY-MM-DD` names. -/
def parse? (s : String) : Option Date :=
  ofChars? s.toList

/-! ### Periods -/

/-- Whether the period from `first` to `last` holds a day. Without a first day it holds every day,
and without a last day only its first. -/
def covers (first last : Option Date) (d : Date) : Bool :=
  match first with
  | none => true
  | some start => decide (start ≤ d) && decide (d ≤ last.getD start)

end Date

namespace Moment

/-- The moment `n` seconds later. -/
def addSeconds (m : Moment) (n : Nat) : Moment :=
  let total := m.second + n
  ⟨m.date.addDays (total / 86400), total % 86400⟩

/-- The moment as `YYYY-MM-DDTHH:MM:SS`. -/
def text (m : Moment) : String :=
  m.date.text ++ "T" ++ Date.padded 2 (m.second / 3600) ++ ":"
    ++ Date.padded 2 (m.second / 60 % 60) ++ ":" ++ Date.padded 2 (m.second % 60)

/-- The moment that a text `YYYY-MM-DDTHH:MM:SS` names. -/
def parse? (s : String) : Option Moment := do
  let cs := s.toList
  let date ← Date.ofChars? (cs.take 10)
  match cs.drop 10 with
  | ['T', h₁, h₂, ':', m₁, m₂, ':', s₁, s₂] =>
    let hour ← Date.digitsValue? [h₁, h₂]
    let minute ← Date.digitsValue? [m₁, m₂]
    let second ← Date.digitsValue? [s₁, s₂]
    if hour < 24 ∧ minute < 60 ∧ second < 60 then
      return ⟨date, 3600 * hour + 60 * minute + second⟩
    else none
  | _ => none

end Moment

namespace Json

/-- An optional day, absence being `null`. -/
def ofDate? (d : Option Date) : Json :=
  ofStr? (d.map Date.text)

/-- An optional moment, absence being `null`. -/
def ofMoment? (m : Option Moment) : Json :=
  ofStr? (m.map Moment.text)

end Json

end StageStock
