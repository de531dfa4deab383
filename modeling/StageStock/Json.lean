/-!
# JSON documents

`Json` is a JSON document with two kinds of number: a numeral without point and exponent is an
`int` of any size, every other numeral keeps its digits as `decimal`. Where a number has no numeral
a word stands for it, and the document is then one that not every reader takes. An object is the
list of its fields in the order they were written; `Json.object` and the reader keep one field per
key, the last one written.

* `Json.get?`: the value a document holds under a key;
* `Json.put`: writing a field replaces the value of that key (`lookup_put_self`) and of no other
  (`lookup_put_ne`).
-/

namespace StageStock

/-- A result of arithmetic that no numeral stands for. -/
inductive Unnumbered where
  | notANumber
  | infinity
  | minusInfinity
  deriving DecidableEq, Repr

/-- A JSON document. -/
inductive Json where
  | null
  | bool (value : Bool)
  /-- A numeral written with digits alone. -/
  | int (value : Int)
  /-- A numeral with a point or an exponent: `digits * 10 ^ exponent`. -/
  | decimal (digits : Int) (exponent : Int)
  /-- A word in the place of a number. -/
  | unnumbered (value : Unnumbered)
  | str (text : String)
  | arr (items : List Json)
  | obj (fields : List (String × Json))
  deriving BEq, Repr, Inhabited

namespace Json

/-! ### Fields -/

/-- Write a field: the value under an old key changes in its place, a new key goes to the end. -/
def put (key : String) (value : Json) : List (String × Json) → List (String × Json)
  | [] => [(key, value)]
  | (k, v) :: rest => if k = key then (k, value) :: rest else (k, v) :: put key value rest

/-- The object with these fields; of several values for one key the last counts. -/
def object (fields : List (String × Json)) : Json :=
  .obj (fields.foldl (fun done field => put field.1 field.2 done) [])

theorem lookup_put_self (key : String) (value : Json) (fields : List (String × Json)) :
    (put key value fields).lookup key = some value := by
  induction fields with
  | nil => simp [put]
  | cons field rest ih =>
    obtain ⟨k, v⟩ := field
    by_cases hk : k = key
    · simp [put, hk]
    · have h' : (key == k) = false := by simpa using fun e => hk e.symm
      simp [put, hk, h', List.lookup_cons, ih]

theorem lookup_put_ne {key other : String} (value : Json) (fields : List (String × Json))
    (h : other ≠ key) : (put key value fields).lookup other = fields.lookup other := by
  have h' : (other == key) = false := by simpa using h
  induction fields with
  | nil => simp [put, h]
  | cons field rest ih =>
    obtain ⟨k, v⟩ := field
    by_cases hk : k = key
    · simp [put, hk, List.lookup_cons, h']
    · simp [put, hk, List.lookup_cons, ih]

/-- The value under a key of an object; nothing for any other document. -/
def get? (document : Json) (key : String) : Option Json :=
  match document with
  | .obj fields => fields.lookup key
  | _ => none

/-- The value under a key, a missing one counting as `null`. -/
def field (document : Json) (key : String) : Json :=
  (document.get? key).getD .null

/-! ### Reading plain values -/

/-- Whether the document is `null`. -/
def isNull : Json → Bool
  | .null => true
  | _ => false

/-- The whole number of an `int`. -/
def int? : Json → Option Int
  | .int n => some n
  | _ => none

/-- The text of a `str`. -/
def str? : Json → Option String
  | .str s => some s
  | _ => none

/-- The truth value of a `bool`. -/
def bool? : Json → Option Bool
  | .bool b => some b
  | _ => none

/-- The elements of an array; nothing in any other document. -/
def items : Json → List Json
  | .arr xs => xs
  | _ => []

/-- The fields of an object; none in any other document. -/
def fields : Json → List (String × Json)
  | .obj fs => fs
  | _ => []

/-! ### Building -/

/-- An optional number, absence being `null`. -/
def ofInt? : Option Int → Json
  | some n => .int n
  | none => .null

/-- An optional text, absence being `null`. -/
def ofStr? : Option String → Json
  | some s => .str s
  | none => .null

end Json

end StageStock
