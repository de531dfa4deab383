import Mathlib.Data.List.Forall2
import Mathlib.Tactic.Lemma
import StageStock.Proofs.Requests

/-!
What a draft makes of the rows that it is begun with.

Rows are shown with more than a submission takes: a listed location comes with its id and with its
name, and a submission that gives both is declined. A draft that is begun with shown rows keeps the
id alone, and otherwise the words, so that each of its rows names its place once. What is not given
is filled in: a row without units has one, and a row without a status is allocated.

* `Placements.Row.ShownBy`: a document has the fields of a row;
* `Placements.Row.drafted`: the row that the draft makes of it (`Draft.exists_ofRows`);
* `Store.Finds`: the places that can be found (`Store.Finds.findPlace_input`);
* `Placements.Row.Means`: a row means a placement, and `Placements.readRows_of_means`: rows of
  different places are read as the placements that they mean.
-/

namespace StageStock

/-! ### Rows that are shown -/

/-- The place that a draft keeps of an input: the id of a listed location, without words, or else
the words, if there are any. -/
def Place.Input.chosen (input : Place.Input) : Place.Input :=
  match input.id with
  | some id => { id := some id }
  | none => { name := input.name.filter (· ≠ "") }

/-- How a place is given once: a listed location by its id, and any other in words. -/
def Place.input : Place → Place.Input
  | named id => { id := some id }
  | custom text => { name := some text }

lemma Place.Input.chosen_id (id : Int) (name : Option String) :
    ({ id := some id, name } : Place.Input).chosen = (Place.named id).input := rfl

lemma Place.Input.chosen_name {text : String} (words : text ≠ "") :
    ({ name := some text } : Place.Input).chosen = (Place.custom text).input := by
  simp [chosen, Place.input, words]

namespace Placements.Row

/-- A document shows a row: it has the fields of the row, and may have others besides. -/
structure ShownBy (row : Row) (shown : Json) : Prop where
  id : shown.field "locationID" = Json.ofInt? row.place.id
  name : shown.field "locationName" = Json.ofStr? row.place.name
  quantity : shown.field "quantity" = .int row.quantity
  status : shown.field "status" = Json.ofStr? row.status
  notes : shown.field "notes" = Json.ofStr? row.notes

/-- The row that a draft makes of a row: it names its place once and says its status, and it has
some units. -/
def drafted (row : Row) : Row :=
  { place := row.place.chosen
    quantity := if row.quantity = 0 then 1 else row.quantity
    status := some row.statusText
    notes := row.notes }

/-- The row as a row of a draft that submits it. -/
def toDraftRow (row : Row) : DraftRow :=
  { locationId := row.place.id
    locationName := Json.ofStr? row.place.name
    quantity := .int row.quantity
    status := Json.ofStr? row.status
    notes := Json.ofStr? row.notes }

lemma ofDraftRow?_toDraftRow (row : Row) : ofDraftRow? row.toDraftRow = some row := by
  have htext (text : Option String) : ofDraftRow?.optionalText? (Json.ofStr? text) = some text := by
    cases text <;> rfl
  simp [ofDraftRow?, toDraftRow, Json.int?, htext]

lemma mapM_ofDraftRow? (rows : List Row) :
    (rows.map toDraftRow).mapM ofDraftRow? = some rows := by
  induction rows with
  | nil => rfl
  | cons row rest ih => simp [ofDraftRow?_toDraftRow, ih]

end Placements.Row

/-! ### Drafts that are begun with rows -/

namespace Draft

open Placements

variable {row : Row} {shown : Json}

/-- An edit of the last row leaves the rows before it. -/
lemma update_last (draft : Draft) (last : DraftRow) (field : String) (value : Json) :
    update (draft ++ [last]) draft.length field value
      = (last.edit field value).map fun edited => (edited, draft ++ [edited]) := by
  have hcount : ¬ (draft.length : Int) < 0 := Int.not_lt.2 (Int.natCast_nonneg _)
  simp only [update, if_neg hcount, Int.toNat_natCast, List.getElem?_concat_length,
    List.set_append_right _ _ (Nat.le_refl _), Nat.sub_self, List.set_cons_zero]
  cases last.edit field value <;> rfl

/-- The values that are read of a shown row. -/
lemma entryOfRow_of_shown (h : row.ShownBy shown) :
    entryOfRow shown = .ok
      { locationId := Json.ofInt? row.place.id
        locationName := Json.ofStr? row.place.name
        quantity := .int row.drafted.quantity
        status := .str row.statusText
        notes := Json.ofStr? row.notes } := by
  have hstatus : (if (Json.ofStr? row.status).isGiven then Json.ofStr? row.status
      else .str PlacementStatus.allocated.text) = .str row.statusText := by
    rw [Row.statusText]
    cases row.status with
    | none => rfl
    | some text => by_cases hempty : text = "" <;> simp [Json.ofStr?, Json.isGiven, hempty]
  have hquantity : (if (Json.int row.quantity).isGiven then (Json.int row.quantity).toWhole
      else .ok 1) = .ok row.drafted.quantity := by
    by_cases hzero : row.quantity = 0 <;> simp [Json.isGiven, Json.toWhole, Row.drafted, hzero]
  simp only [entryOfRow, h.id, h.name, h.quantity, h.status, h.notes, hstatus, hquantity]

/-- The draft grows by the row that it makes of a shown one. -/
lemma add_of_shown (draft : Draft) (h : row.ShownBy shown) {entry : Entry}
    (read : entryOfRow shown = .ok entry) :
    draft.add entry = (.ok draft.length, draft ++ [row.drafted.toDraftRow]) := by
  obtain rfl := Except.ok.inj ((entryOfRow_of_shown h).symm.trans read)
  simp only [add, update_last]
  obtain ⟨⟨id, name⟩, quantity, status, notes⟩ := row
  cases id with
  | some id => rfl
  | none =>
      cases name with
      | none => rfl
      | some text =>
          by_cases hempty : text = ""
          · subst hempty
            rfl
          · simp [Json.ofInt?, Json.ofStr?, Json.isNull, Json.isGiven, hempty, DraftRow.edit,
              Except.map, Row.drafted, Row.toDraftRow, Place.Input.chosen_name hempty, Place.input]

section Rows

variable {α : Type} {row : α → Row} {document : α → Json}

lemma addRows_of_shown (shown : ∀ a, (row a).ShownBy (document a)) (as : List α) (draft : Draft) :
    addRows draft (as.map document)
      = .ok (draft ++ as.map fun a => (row a).drafted.toDraftRow) := by
  induction as generalizing draft with
  | nil => rw [List.map_nil, addRows, List.map_nil, List.append_nil]
  | cons a rest ih =>
      have hread := entryOfRow_of_shown (shown a)
      rw [List.map_cons, addRows, hread]
      simp only [add_of_shown draft (shown a) hread, ih, List.map_cons, List.append_assoc,
        List.cons_append, List.nil_append]

/-- A draft that is begun with shown rows can be submitted as it is: its rows are those that it
makes of the shown ones, in their order. -/
theorem exists_ofRows (shown : ∀ a, (row a).ShownBy (document a)) (as : List α) :
    ∃ draft, ofRows (as.map document) = .ok draft
      ∧ draft.mapM Row.ofDraftRow? = some (as.map fun a => (row a).drafted) := by
  refine ⟨_, addRows_of_shown shown as [], ?_⟩
  rw [List.nil_append, ← Row.mapM_ofDraftRow?, List.map_map]
  rfl

end Rows

end Draft

/-! ### Rows that are read -/

namespace Store

/-- The places that a store finds: a listed location, or words that no location is listed under. -/
inductive Finds (s : Store) : Place → Prop where
  | named {id : Int} {row : LocationRow} (listed : s.location? id = .ok row) : s.Finds (.named id)
  | custom {text : String} (normal : Text.normalise text = text) (words : text ≠ "")
      (unlisted : s.directory.find? (foldName text) = none) : s.Finds (.custom text)

variable {s : Store} {place : Place}

lemma finds_of_findPlace {input : Place.Input} (h : s.findPlace input = .ok (some place)) :
    s.Finds place := by
  rcases findPlace_eq_ok h with ⟨id, row, rfl, hrow⟩ | ⟨text, rfl, hnormal, hwords, hunlisted⟩
  · exact .named hrow
  · exact .custom hnormal hwords hunlisted

/-- A place that the store finds is found under the input that gives it once. -/
lemma Finds.findPlace_input (h : s.Finds place)
    (positive : ∀ row ∈ s.locations.rows, 0 < row.1) :
    s.findPlace place.input = .ok (some place) := by
  cases h with
  | named listed =>
      have hlisted := Table.find?_eq_some_iff.1 (location?_eq_ok.1 listed).2
      exact findPlace_of_listed listed (positive _ hlisted) (by decide)
  | custom normal words unlisted => exact findPlace_of_unlisted normal words unlisted

end Store

namespace Placements

variable {s : Store} {rows : List Row} {ps : List Placement}

/-- A row means a placement: its place is found, and its units are in a known state. -/
structure Row.Means (s : Store) (row : Row) (p : Placement) : Prop where
  found : s.findPlace row.place = .ok (some p.place)
  units : 1 ≤ row.quantity
  known : PlacementStatus.isKnown row.statusText = true
  eq : p = { id := none, place := p.place, quantity := row.quantity, status := row.statusText
             notes := row.notes }

/-- Rows that are read mean the placements that they are read as. -/
lemma means_of_readRows {index : Nat} {seen : List (PlaceKey × Nat)}
    (h : readRows s rows index seen = .ok ps) : List.Forall₂ (Row.Means s) rows ps := by
  induction rows generalizing index seen ps with
  | nil => exact Except.ok.inj h ▸ .nil
  | cons row rest ih =>
      obtain ⟨place, others, hplace, hunits, hknown, -, hothers, rfl⟩ := readRows_cons_eq_ok.1 h
      exact .cons ⟨hplace, hunits, hknown, rfl⟩ (ih hothers)

/-- Rows of different places are read as the placements that they mean. -/
theorem readRows_of_means (means : List.Forall₂ (Row.Means s) rows ps)
    (nodup : (ps.map fun p => p.place.key).Nodup) (index : Nat) {seen : List (PlaceKey × Nat)}
    (unseen : ∀ p ∈ ps, seen.lookup p.place.key = none) :
    readRows s rows index seen = .ok ps := by
  induction means generalizing index seen with
  | nil => rfl
  | @cons row p rest others hmeans _ ih =>
      obtain ⟨hnew, hnodup⟩ := List.nodup_cons.1 nodup
      have hunseen : ∀ q ∈ others, ((p.place.key, index) :: seen).lookup q.place.key = none := by
        intro q hq
        have hne : q.place.key ≠ p.place.key :=
          fun hkey => hnew (List.mem_map.2 ⟨q, hq, hkey⟩)
        rw [List.lookup_cons, beq_false_of_ne hne]
        exact unseen q (List.mem_cons_of_mem _ hq)
      refine readRows_cons_eq_ok.2 ⟨p.place, others, hmeans.found, hmeans.units, hmeans.known,
        unseen p List.mem_cons_self, ih hnodup (index + 1) hunseen, ?_⟩
      rw [← hmeans.eq]

end Placements

end StageStock
