import StageStock.Json

/-!
# Problems of a request

A request is read field by field, and every field that cannot be read is a `Problem` with its
location and its kind. `Checked` holds a value or the problems of reading it; combining two of them
with `<*>` keeps the problems of both, in order, so that a caller hears of all of them at once.
-/

namespace StageStock.Http

/-- A step on the way to a value inside a request. -/
inductive Step where
  | key (name : String)
  | index (i : Nat)
  deriving DecidableEq, Repr

/-- What is wrong with a value. -/
inductive ProblemKind where
  | missing
  | notJson
  | notAnObject
  | notAList
  | notText
  | notAChoice
  | notWhole
  | unreadableWhole
  | fractional
  | infinite
  | wholeTooLarge
  | tooSmall
  | tooLarge
  | notADay
  | unreadableDay
  /-- A moment that is not the beginning of a day. -/
  | inexactDay
  /-- A day of the year 0. -/
  | dayBeforeCalendar
  deriving DecidableEq, Repr

namespace ProblemKind

/-- The word by which programs tell problems apart. -/
def text : ProblemKind → String
  | missing => "missing"
  | notJson => "json_invalid"
  | notAnObject => "model_attributes_type"
  | notAList => "list_type"
  | notText => "string_type"
  | notAChoice => "literal_error"
  | notWhole => "int_type"
  | unreadableWhole => "int_parsing"
  | fractional => "int_from_float"
  | infinite => "finite_number"
  | wholeTooLarge => "int_parsing_size"
  | tooSmall => "greater_than_equal"
  | tooLarge => "less_than_equal"
  | notADay => "date_type"
  | unreadableDay => "date_from_datetime_parsing"
  | inexactDay => "date_from_datetime_inexact"
  | dayBeforeCalendar => "date_parsing"

end ProblemKind

/-- A problem and where it is. -/
structure Problem where
  path : List Step
  kind : ProblemKind
  /-- What was found there; of something that is missing, where it was looked for. -/
  found : Json
  deriving Repr

namespace Problem

/-- The problem as it is shown. -/
def toJson (p : Problem) : Json :=
  .obj [("loc", .arr (p.path.map fun step =>
      match step with
      | .key name => .str name
      | .index i => .int i)),
    ("type", .str p.kind.text)]

end Problem

/-- A value, or the problems of reading it. -/
inductive Checked (α : Type) where
  | value (a : α)
  | problems (ps : List Problem)

namespace Checked

variable {α β : Type}

/-- The value changed. -/
def map (f : α → β) : Checked α → Checked β
  | value a => value (f a)
  | problems ps => problems ps

/-- A function applied to a value; the problems of both are kept. -/
def apply (f : Checked (α → β)) (a : Checked α) : Checked β :=
  match f, a with
  | value g, value x => value (g x)
  | value _, problems ps => problems ps
  | problems ps, value _ => problems ps
  | problems ps, problems qs => problems (ps ++ qs)

instance : Applicative Checked where
  pure := value
  map := map
  seq f a := apply f (a ())

/-- A single problem. -/
def problem (path : List Step) (kind : ProblemKind) (found : Json) : Checked α :=
  problems [⟨path, kind, found⟩]

/-- The values of a list, or the problems of all its elements. -/
def all : List (Checked α) → Checked (List α)
  | [] => value []
  | c :: rest => apply (map List.cons c) (all rest)

end Checked

end StageStock.Http
