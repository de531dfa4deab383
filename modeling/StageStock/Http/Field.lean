import StageStock.Http.Day
import StageStock.Http.Numeral

/-!
# Fields of a request

A `Reader` reads a value that stands at a location of a request. Whole numbers and days are read
generously: a whole number may be a truth value, a number without a fraction, or a text; a day may
also be a moment at the beginning of a day or a number of seconds since 1970.

* `whole`, `text`, `choice`, `day`, `listOf`: readers of single values;
* `orNull`: a reader that takes `null` for no value;
* `required`, `optional`: a field of an object that has to be there, or that has a usual value.
-/

namespace StageStock.Http

/-- How a value at a location is read. -/
abbrev Reader (α : Type) := List Step → Json → Checked α

namespace Field

variable {α : Type}

/-- A result of reading a value, with its location. -/
def located (path : List Step) (value : Json) : Except ProblemKind α → Checked α
  | .ok a => .value a
  | .error kind => .problem path kind value

/-! ### Whole numbers -/

/-- The whole number that a value means, or what is wrong with it. -/
def wholeOf : Json → Except ProblemKind Int
  | .int n => .ok n
  | .bool b => .ok (if b then 1 else 0)
  | .decimal digits exponent =>
    match Rounding.ofDecimal? digits exponent with
    | none => .error .infinite
    | some x =>
      if x ≠ (x.floor : Rat) then .error .fractional
      else if -wordLimit < x.floor ∧ x.floor < wordLimit then .ok x.floor
      else .error .wholeTooLarge
  | .unnumbered _ => .error .infinite
  | .str s => Numeral.ofText s
  | .null | .arr _ | .obj _ => .error .notWhole

/-- A whole number. -/
def whole : Reader Int :=
  fun path value => located path value (wholeOf value)

/-- A whole number within bounds. -/
def wholeWithin (least most : Int) : Reader Int :=
  fun path value =>
    located path value <|
      match wholeOf value with
      | .error kind => .error kind
      | .ok n =>
        if n < least then .error .tooSmall
        else if most < n then .error .tooLarge
        else .ok n

/-! ### Text -/

/-- A text. -/
def text : Reader String :=
  fun path value =>
    match value with
    | .str s => .value s
    | _ => .problem path .notText value

/-- One of several texts. -/
def choice (choices : List String) : Reader String :=
  fun path value =>
    match value with
    | .str s => if choices.contains s then .value s else .problem path .notAChoice value
    | _ => .problem path .notAChoice value

/-! ### Days -/

/-- The day that a value means, or what is wrong with it. -/
def dayOf : Json → Except ProblemKind Date
  | .str s => Day.ofText s
  | .int n => Day.ofInt n
  | .decimal digits exponent =>
    match Rounding.ofDecimal? digits exponent with
    | some x => Day.ofFraction x
    | none => .error .unreadableDay
  | .unnumbered _ => .error .unreadableDay
  | .null | .bool _ | .arr _ | .obj _ => .error .notADay

/-- A day. -/
def day : Reader Date :=
  fun path value => located path value (dayOf value)

/-! ### Composite values -/

/-- A value, or `null` for none. -/
def orNull (reader : Reader α) : Reader (Option α) :=
  fun path value =>
    match value with
    | .null => .value none
    | other => (reader path other).map some

/-- A list whose elements are read one by one. -/
def listOf (reader : Reader α) : Reader (List α) :=
  fun path value =>
    match value with
    | .arr items => Checked.all (items.zipIdx.map fun (item, i) => reader (path ++ [.index i]) item)
    | _ => .problem path .notAList value

/-- An object whose fields are read by `fields`. -/
def objectOf (fields : List Step → Json → Checked α) : Reader α :=
  fun path value =>
    match value with
    | .obj _ => fields path value
    | _ => .problem path .notAnObject value

/-- A field that has to be there. -/
def required (key : String) (reader : Reader α) (path : List Step) (object : Json) : Checked α :=
  match object.get? key with
  | some value => reader (path ++ [.key key]) value
  | none => .problem (path ++ [.key key]) .missing object

/-- A field with a usual value. -/
def optional (key : String) (reader : Reader α) (usual : α) (path : List Step) (object : Json) :
    Checked α :=
  match object.get? key with
  | some value => reader (path ++ [.key key]) value
  | none => .value usual

/-- A field that may be missing or `null`. -/
def maybe (key : String) (reader : Reader α) (path : List Step) (object : Json) :
    Checked (Option α) :=
  optional key (orNull reader) none path object

end Field

end StageStock.Http
