import StageStock.Json.Parser
import StageStock.Text.Encoding
import StageStock.Text.Numeral

/-!
# Documents in the bodies of requests

A body is text, kept as bytes, that spells a document. A mark of the order of bytes in front of it
does not count, and zeros among its first bytes tell that its units have more than one byte. A
document that is too deep or has too long a number is not read, and neither are bytes that are no
text; both are told apart from text that is no document.

* `Payload.read`: the document of a body, and `Payload.document` if the body need not be there.
-/

namespace StageStock.Http

/-- What is found in a body. -/
inductive Payload where
  /-- There is no body. -/
  | absent
  | document (value : Json)
  /-- The body is no document. -/
  | malformed
  /-- The body could not be read to its end. -/
  | unreadable

namespace Payload

/-- The limits of a document in a body. -/
def limits : Json.Limits :=
  { digits := Text.mostDigits, depth := 960 }

/-- The characters of a body, if its bytes are text. -/
def characters? (body : String) : Option (List Char) :=
  match body.toList with
  | '\ufeff' :: rest => some rest
  | cs =>
    let bytes := body.toUTF8.toList
    match Text.Encoding.ofBytes bytes with
    | .single => some cs
    | encoding => encoding.decode? bytes

/-- What is found in a body. An empty body is none. -/
def read (body : String) : Payload :=
  if body = "" then absent
  else
    match (characters? body).map (Json.parseWithin limits) with
    | none | some (.error .beyondLimits) => unreadable
    | some (.error .malformed) => malformed
    | some (.ok value) => document value

/-- The document in a body, if there is one. -/
def document? : Payload → Option Json
  | document value => some value
  | absent | malformed | unreadable => none

end Payload

end StageStock.Http
