import StageStock.Json
import StageStock.Rounding

/-!
# Documents that can be sent

A number that has no numeral, or one too large for floating-point arithmetic, is read and passed
over, but no answer that holds it can be written. `Json.isFinite` tells the documents without one.
-/

namespace StageStock.Json

mutual

/-- Whether every number of a document can be written. -/
def isFinite : Json → Bool
  | .null | .bool _ | .int _ | .str _ => true
  | .decimal digits exponent => (Rounding.ofDecimal? digits exponent).isSome
  | .unnumbered _ => false
  | .arr items => areFinite items
  | .obj fields => fieldsAreFinite fields

/-- Whether every number of some documents can be written. -/
def areFinite : List Json → Bool
  | [] => true
  | item :: rest => isFinite item && areFinite rest

/-- Whether every number of some fields can be written. -/
def fieldsAreFinite : List (String × Json) → Bool
  | [] => true
  | (_, value) :: rest => isFinite value && fieldsAreFinite rest

end

end StageStock.Json
