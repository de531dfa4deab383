import StageStock.Failure
import StageStock.Text.Numeral

/-!
# Drafts of a plan

A `Draft` is a plan that is still being edited, row by row. The values come from forms and are kept
as they come; only a location id is read as a whole number, and so is a quantity that is edited.
Choosing a listed location clears the words of a row and giving words clears the listed location, so
that a row never has both.

* `Draft.step`: one edit. Its answer may be a failure, and even then the draft may have grown: a new
  row is there before its place is read;
* `Draft.ofRows`: a draft begun with rows of a plan;
* `Draft.total?`: the units of all rows.
-/

namespace StageStock

/-- A row of a draft. -/
structure DraftRow where
  locationId : Option Int := none
  /-- The words for a place; `null` if there are none. -/
  locationName : Json := .null
  quantity : Json := .int 1
  status : Json := .str PlacementStatus.allocated.text
  notes : Json := .null

/-- A plan that is being edited. -/
abbrev Draft := List DraftRow

namespace Json

/-- Whether a value counts as given: `null`, `false`, zero and everything empty do not. -/
def isGiven : Json → Bool
  | null => false
  | bool b => b
  | int n => n ≠ 0
  | decimal digits exponent => Rounding.ofDecimal? digits exponent ≠ some 0
  | unnumbered _ => true
  | str s => s ≠ ""
  | arr items => !items.isEmpty
  | obj fields => !fields.isEmpty

/-- The whole number that a value means. Digits after a point are dropped, a truth value is one or
zero, and a text must spell a whole number. -/
def toWhole : Json → Except Failure Int
  | null => .ok 0
  | bool b => .ok (if b then 1 else 0)
  | int n => .ok n
  | decimal digits exponent =>
    match Rounding.ofDecimal? digits exponent with
    | some x => .ok (Rounding.truncate x)
    | none => .error .infiniteNumber
  | unnumbered .notANumber => .error .notANumber
  | unnumbered _ => .error .infiniteNumber
  | str s =>
    match Text.wholeNumber s with
    | .ok n => .ok n
    | .error .malformed => .error (.notANumeral s)
    | .error (.tooLong digits) => .error (.numeralTooLong digits)
  | arr _ => .error .listForNumber
  | obj _ => .error .objectForNumber

end Json

namespace DraftRow

/-- The row with a field edited. -/
def edit (row : DraftRow) (field : String) (value : Json) : Except Failure DraftRow :=
  match field with
  | "locationID" =>
    if value.isNull || value.str? = some "" then .ok { row with locationId := none }
    else
      match value.toWhole with
      | .error e => .error e
      | .ok id => .ok { row with locationId := some id, locationName := .null }
  | "locationName" =>
    if value.isGiven then .ok { row with locationName := value, locationId := none }
    else .ok { row with locationName := .null }
  | "quantity" =>
    if value.isGiven then
      match value.toWhole with
      | .error e => .error e
      | .ok quantity => .ok { row with quantity := .int quantity }
    else .ok { row with quantity := .int 0 }
  | "status" => .ok { row with status := value }
  | "notes" => .ok { row with notes := value }
  | other => .error (.draftFieldUnknown other)

/-- The row as it is submitted. -/
def toJson (row : DraftRow) : Json :=
  .obj [("locationID", Json.ofInt? row.locationId), ("locationName", row.locationName),
    ("quantity", row.quantity), ("status", row.status), ("notes", row.notes)]

/-- The units of a row, if its quantity is a number. -/
def units? (row : DraftRow) : Option Int :=
  match row.quantity with
  | .int n => some n
  | .bool b => some (if b then 1 else 0)
  | _ => none

end DraftRow

namespace Draft

/-- The values of a new row. -/
structure Entry where
  locationId : Json := .null
  locationName : Json := .null
  quantity : Json := .int 1
  status : Json := .str PlacementStatus.allocated.text
  notes : Json := .null

/-- An edit of a draft; rows are counted from zero. -/
inductive Step where
  | add (entry : Entry)
  | remove (index : Int)
  | update (index : Int) (field : String) (value : Json)

/-- What an edit answers. -/
inductive Answer where
  /-- The number of the new row. -/
  | added (index : Nat)
  | removed
  /-- The row as it is now. -/
  | updated (row : DraftRow)

/-- Edit a field of a row. -/
def update (draft : Draft) (index : Int) (field : String) (value : Json) :
    Except Failure (DraftRow × Draft) :=
  if index < 0 then .error (.draftRowMissing index)
  else
    match draft[index.toNat]? with
    | none => .error (.draftRowMissing index)
    | some row =>
      match row.edit field value with
      | .error e => .error e
      | .ok edited => .ok (edited, draft.set index.toNat edited)

/-- Drop a row. -/
def remove (draft : Draft) (index : Int) : Except Failure Draft :=
  if index < 0 ∨ draft.length ≤ index.toNat then .error (.draftRowMissing index)
  else .ok (draft.eraseIdx index.toNat)

/-- Add a row at the end, then choose its place. The row stays even if its place cannot be read. -/
def add (draft : Draft) (entry : Entry) : Except Failure Nat × Draft :=
  let row : DraftRow :=
    { quantity := entry.quantity, status := entry.status, notes := entry.notes }
  let index := draft.length
  let grown := draft ++ [row]
  let placed :=
    if !entry.locationId.isNull then update grown index "locationID" entry.locationId
    else if entry.locationName.isGiven then update grown index "locationName" entry.locationName
    else .ok (row, grown)
  match placed with
  | .error e => (.error e, grown)
  | .ok (_, result) => (.ok index, result)

/-- One edit: its answer and the draft after it. -/
def step (draft : Draft) : Step → Except Failure Answer × Draft
  | .add entry =>
    match draft.add entry with
    | (.error e, result) => (.error e, result)
    | (.ok index, result) => (.ok (.added index), result)
  | .remove index =>
    match draft.remove index with
    | .error e => (.error e, draft)
    | .ok result => (.ok .removed, result)
  | .update index field value =>
    match draft.update index field value with
    | .error e => (.error e, draft)
    | .ok (row, result) => (.ok (.updated row), result)

/-- The values of a row of a plan; a quantity that is not given is one. -/
def entryOfRow (row : Json) : Except Failure Entry :=
  let quantity := row.field "quantity"
  let status := row.field "status"
  let whole := if quantity.isGiven then quantity.toWhole else .ok 1
  match whole with
  | .error e => .error e
  | .ok n =>
    .ok { locationId := row.field "locationID"
          locationName := row.field "locationName"
          quantity := .int n
          status := if status.isGiven then status else .str PlacementStatus.allocated.text
          notes := row.field "notes" }

/-- Add rows of a plan one after the other. -/
def addRows : Draft → List Json → Except Failure Draft
  | draft, [] => .ok draft
  | draft, row :: rest =>
    match entryOfRow row with
    | .error e => .error e
    | .ok entry =>
      match draft.add entry with
      | (.error e, _) => .error e
      | (.ok _, result) => addRows result rest

/-- The draft begun with rows of a plan. -/
def ofRows (rows : List Json) : Except Failure Draft :=
  addRows [] rows

/-- The units of all rows, if every quantity is a number. -/
def total? (draft : Draft) : Option Int :=
  (draft.mapM DraftRow.units?).map addUp

/-- The rows as they are submitted. -/
def payload (draft : Draft) : Json :=
  .arr (draft.map DraftRow.toJson)

end Draft

end StageStock
