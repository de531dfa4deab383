import StageStock.Failure
import StageStock.Text.Encoding
import StageStock.Text.Hexadecimal

/-!
# Targets of requests

The target of a request is a path and, after a question mark, a query; what follows a number sign is
not part of it, and neither are a scheme and a host in front of the path. Parts of the path that are
one point or two are taken as steps and not as names.

A per cent sign and two hexadecimal digits stand for a byte. In the path they are read twice, so
that a per cent sign can itself be written in this way; in the query they are read once, and a plus
sign there stands for a space.

* `Target.parse`: the path and the entries of the query that a text means;
* `Target.fault?`: why a text is not taken as a target;
* `Target.query?`: the value of a query entry, the last one if there are several.
-/

namespace StageStock.Http

/-- The target of a request. -/
structure Target where
  path : List Char
  /-- The query as it was written. -/
  written : List Char
  deriving DecidableEq, Repr

namespace Target

/-! ### Bytes in per cent signs -/

/-- The bytes that characters stand for. -/
def decodeBytes : List Char → List UInt8
  | '%' :: a :: b :: rest =>
    match Text.hexValue? a, Text.hexValue? b with
    | some high, some low => (16 * high + low).toUInt8 :: decodeBytes rest
    | _, _ => 37 :: decodeBytes (a :: b :: rest)
  | c :: rest => c.toString.toUTF8.toList ++ decodeBytes rest
  | [] => []

/-- The text that characters stand for. -/
def decode (cs : List Char) : List Char :=
  Text.decodeShown (decodeBytes cs)

/-! ### Paths -/

/-- Characters without a scheme in front of them. -/
def dropScheme (cs : List Char) : List Char :=
  let inScheme (c : Char) : Bool := c.isAlphanum || c = '+' || c = '-' || c = '.'
  match cs.head?, cs.dropWhile inScheme with
  | some first, ':' :: rest => if first.isAlpha then rest else cs
  | _, _ => cs

/-- Characters without the two slashes and the host in front of them. -/
def dropHost (cs : List Char) : List Char :=
  match cs with
  | '/' :: '/' :: rest => rest.dropWhile (· ≠ '/')
  | _ => cs

/-- The pieces between the slashes. -/
def pieces (cs : List Char) : List (List Char) :=
  cs.splitOn '/'

/-- Take the parts of a path as steps: one point stays where it is and two points go back. The parts
that were taken so far are given with the last one first. -/
def walk (done : List (List Char)) : List (List Char) → List (List Char)
  | [] => done.reverse
  | part :: rest =>
    if part = ['.'] then walk done rest
    else if part = ['.', '.'] then walk (if done = [[]] then done else done.tail) rest
    else walk (part :: done) rest

/-- The path that characters mean: it begins with a slash, and it is decoded twice. -/
def pathOf (cs : List Char) : List Char :=
  let absolute := '/' :: (dropHost (dropScheme cs)).dropWhile (· = '/')
  decode (decode (['/'].intercalate (walk [] (pieces absolute))))

/-- The target that characters mean. -/
def ofChars (cs : List Char) : Target :=
  let relevant := cs.takeWhile (· ≠ '#')
  { path := pathOf (relevant.takeWhile (· ≠ '?'))
    written := (relevant.dropWhile (· ≠ '?')).drop 1 }

/-- The target that a text means. -/
def parse (text : String) : Target :=
  ofChars text.toList

/-- The parts of a path between its slashes. -/
def segmentsOf (path : List Char) : List String :=
  match (pieces path).map String.ofList with
  | "" :: rest => rest
  | parts => parts

/-- The parts of the path between its slashes. -/
def segments (t : Target) : List String :=
  segmentsOf t.path

/-- Whether the path ends with a slash behind something else. -/
def endsInSlash (t : Target) : Bool :=
  t.path ≠ ['/'] && t.path.getLast? = some '/'

/-- The path without the slashes at its end. -/
def trimmedPath (t : Target) : List Char :=
  (t.path.reverse.dropWhile (· = '/')).reverse

/-- The target without the slashes at the end of its path. The path is read anew, with what per cent
signs, question marks and number signs are left in it. -/
def withoutSlashes (t : Target) : Target :=
  ofChars (t.trimmedPath ++ (if t.written = [] then [] else '?' :: t.written))

/-! ### Queries -/

/-- An entry of a query: key and value, the value empty if there is no equals sign. -/
def entry (written : List Char) : String × String :=
  let cs := written.map fun c => if c = '+' then ' ' else c
  (String.ofList (decode (cs.takeWhile (· ≠ '='))),
    String.ofList (decode ((cs.dropWhile (· ≠ '=')).drop 1)))

/-- The entries of the query. -/
def query (t : Target) : List (String × String) :=
  ((t.written.splitOn '&').filter (· ≠ [])).map entry

/-- The value of a query entry. -/
def query? (t : Target) (key : String) : Option String :=
  t.query.reverse.lookup key

/-! ### Texts that are no targets -/

/-- The longest target that is taken. -/
def mostCharacters : Nat := 65536

/-- The first control character of Basic Latin in a text, with its position. -/
def control? (cs : List Char) : Option (Char × Nat) :=
  cs.zipIdx.find? fun (c, _) => c.toNat < 0x20 || c.toNat = 0x7F

/-- Why a text is not taken as a target. -/
def fault? (text : String) : Option Failure :=
  let cs := text.toList
  if mostCharacters < cs.length then some .targetTooLong
  else (control? cs).map fun (c, position) => .unprintableTarget c position

end Target

end StageStock.Http
