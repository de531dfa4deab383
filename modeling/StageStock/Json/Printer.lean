import StageStock.Json
import StageStock.Text.Hexadecimal

/-!
# Writing JSON

`Json.render` writes a document on one line. Inside a text the quote and the backslash are escaped,
and so is every control character; all other characters stand for themselves.
-/

namespace StageStock.Json

/-- The word for a number that has no numeral. -/
def unnumberedWord : Unnumbered → String
  | .notANumber => "NaN"
  | .infinity => "Infinity"
  | .minusInfinity => "-Infinity"

/-- A character inside a quoted text. -/
def escapeChar (c : Char) : List Char :=
  if c = '"' then ['\\', '"']
  else if c = '\\' then ['\\', '\\']
  else if c.toNat < 32 then ['\\', 'u'] ++ Text.hexDigits c.toNat 4
  else [c]

/-- A text between quotes. -/
def quote (s : String) : String :=
  String.ofList (['"'] ++ s.toList.flatMap escapeChar ++ ['"'])

mutual

/-- The one-line text of a document. -/
def render : Json → String
  | .null => "null"
  | .bool b => if b then "true" else "false"
  | .int n => toString n
  | .decimal digits exponent => toString digits ++ "e" ++ toString exponent
  | .unnumbered value => unnumberedWord value
  | .str s => quote s
  | .arr items => "[" ++ ",".intercalate (renderItems items) ++ "]"
  | .obj fields => "\x7b" ++ ",".intercalate (renderFields fields) ++ "\x7d"

/-- The elements of an array, each on its own. -/
def renderItems : List Json → List String
  | [] => []
  | item :: rest => render item :: renderItems rest

/-- The fields of an object, each on its own. -/
def renderFields : List (String × Json) → List String
  | [] => []
  | (key, value) :: rest => (quote key ++ ":" ++ render value) :: renderFields rest

end

end StageStock.Json
