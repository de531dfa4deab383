import StageStock.Json

/-!
# Warnings

A warning accompanies an answer and never blocks it. `Warning.message` is its wording and
`Warning.toJson` the way it is shown, with its figures under `details`. Figures are written in full:
the setting of the runtime by which numbers of more than `Text.mostDigits` digits are not written is
left out.
-/

namespace StageStock

/-- What a caller should know about an answer. -/
inductive Warning where
  /-- Units are requested by shows but not allocated yet. -/
  | requested (units : Int)
  /-- Nothing is left, but requests that are not final hold units. -/
  | mayFreeUp (requested : Int)
  /-- Nothing is left. -/
  | nothingLeft (total committed : Int)
  /-- Little is left. -/
  | fewLeft (available total percentage : Int)
  /-- Units are in use at shows or at places. -/
  | inUse (atShows atPlaces : Int)
  /-- Units are checked out. -/
  | checkedOut (units : Int)
  /-- Other shows have units allocated as well. -/
  | allocatedElsewhere (showIds : List Int) (units : Int)
  /-- A reservation is allocated with fewer units than it needs. -/
  | unitsMissing (missing needed allocated : Int)
  deriving DecidableEq, Repr

namespace Warning

/-- The word by which programs tell warnings apart. -/
def kind : Warning → String
  | requested .. => "requested_info"
  | mayFreeUp .. => "units_may_free_up"
  | nothingLeft .. => "no_availability"
  | fewLeft .. => "low_availability"
  | inUse .. => "in_use_info"
  | checkedOut .. => "checked_out_info"
  | allocatedElsewhere .. => "also_allocated_elsewhere"
  | unitsMissing .. => "missing_items"

/-- The wording for people. -/
def message : Warning → String
  | requested units =>
    toString units ++ " units are requested but not yet allocated. These quantities are reserved."
  | mayFreeUp units =>
    "No units available, but " ++ toString units ++ " units are only requested; "
      ++ "more units may free up if those requests are reduced or returned."
  | nothingLeft .. => "No units available. All equipment is allocated, installed or reserved."
  | fewLeft available total _ =>
    "Low availability: Only " ++ toString available ++ " of " ++ toString total
      ++ " units available."
  | inUse atShows atPlaces => toString (atShows + atPlaces) ++ " units are currently in use."
  | checkedOut units => toString units ++ " units are checked out and need to be returned."
  | allocatedElsewhere showIds _ =>
    "This equipment is also allocated to " ++ toString showIds.length ++ " other show(s)."
  | unitsMissing missing needed _ =>
    toString missing ++ " of " ++ toString needed ++ " needed units are still missing."

/-- The figures behind the wording. -/
def details : Warning → List (String × Json)
  | requested units => [("shows", .int units)]
  | mayFreeUp units => [("requested", .int units)]
  | nothingLeft total committed => [("total", .int total), ("committed", .int committed)]
  | fewLeft available total percentage =>
    [("available", .int available), ("total", .int total), ("percentage", .int percentage)]
  | inUse atShows atPlaces => [("shows", .int atShows), ("inventory", .int atPlaces)]
  | checkedOut units => [("shows", .int units)]
  | allocatedElsewhere showIds units =>
    [("showIDs", .arr (showIds.map .int)), ("quantity", .int units)]
  | unitsMissing missing needed allocated =>
    [("missing", .int missing), ("needed", .int needed), ("allocated", .int allocated)]

/-- The warning as it is shown. -/
def toJson (w : Warning) : Json :=
  .obj [("type", .str w.kind), ("message", .str w.message), ("details", .obj w.details)]

end Warning

end StageStock
