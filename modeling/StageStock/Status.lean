/-!
# Words for the state of units

Rows of the ledger carry their state as text, because a stored text may be unknown. The known words
are enumerated here: `ReservationStatus` for units promised to a show, `PlacementStatus` for units
kept at a place, `InstallationKind` for how an equipment is installed, and `EquipmentStatus` for the
state of a whole equipment, which the ledger derives itself. Each has its `text`, and `isKnown`
recognises the texts of a list of all states (`any_text_iff`, `any_text_iff_exists`).
-/

namespace StageStock

/-! ### The words of a list of states -/

section Words

variable {α : Type} {text : α → String} {states : List α} {word : String}

/-- A text is the word for one of some states exactly if it is one of their words. -/
theorem any_text_iff :
    (states.any fun state => text state = word) = true ↔ word ∈ states.map text := by
  simp only [List.any_eq_true, decide_eq_true_eq, List.mem_map]

/-- If no state is left out, it is the word for a state. -/
theorem any_text_iff_exists (complete : ∀ state, state ∈ states) :
    (states.any fun state => text state = word) = true ↔ ∃ state, text state = word := by
  simp only [any_text_iff, List.mem_map, complete, true_and]

end Words

/-! ### The states -/

/-- The state of units promised to a show. -/
inductive ReservationStatus where
  | requested
  | allocated
  | checkedOut
  | inUse
  | returned
  deriving DecidableEq, Repr

namespace ReservationStatus

/-- The states in the order in which messages list them. -/
def all : List ReservationStatus :=
  [requested, allocated, checkedOut, inUse, returned]

/-- The word for a state. -/
def text : ReservationStatus → String
  | requested => "requested"
  | allocated => "allocated"
  | checkedOut => "checked-out"
  | inUse => "in-use"
  | returned => "returned"

/-- Whether a text is the word for a state. -/
def isKnown (s : String) : Bool :=
  all.any fun status => status.text = s

/-- Whether a text is the word for a state in which the units have left the store. -/
def isOut (s : String) : Bool :=
  s = checkedOut.text || s = inUse.text

theorem isKnown_iff (s : String) : isKnown s ↔ ∃ status : ReservationStatus, status.text = s :=
  any_text_iff_exists fun status => by cases status <;> decide

end ReservationStatus

/-- The state of units kept at a place. -/
inductive PlacementStatus where
  | allocated
  | inUse
  | maintenance
  | reserved
  deriving DecidableEq, Repr

namespace PlacementStatus

/-- The states in the order in which messages list them. -/
def all : List PlacementStatus :=
  [allocated, inUse, maintenance, reserved]

/-- The word for a state. -/
def text : PlacementStatus → String
  | allocated => "allocated"
  | inUse => "in-use"
  | maintenance => "maintenance"
  | reserved => "reserved"

/-- Whether a text is the word for a state. -/
def isKnown (s : String) : Bool :=
  all.any fun status => status.text = s

theorem isKnown_iff (s : String) : isKnown s ↔ ∃ status : PlacementStatus, status.text = s :=
  any_text_iff_exists fun status => by cases status <;> decide

end PlacementStatus

/-- How an equipment is installed; portable equipment is not installed at all. -/
inductive InstallationKind where
  | portable
  | semiPermanent
  | fixed
  deriving DecidableEq, Repr

namespace InstallationKind

/-- The kinds in the order in which messages list them. -/
def all : List InstallationKind :=
  [portable, semiPermanent, fixed]

/-- The word for a kind. -/
def text : InstallationKind → String
  | portable => "portable"
  | semiPermanent => "semi-permanent"
  | fixed => "fixed"

/-- Whether a text is the word for a kind. -/
def isKnown (s : String) : Bool :=
  all.any fun kind => kind.text = s

end InstallationKind

/-- The state of a whole equipment. -/
inductive EquipmentStatus where
  | available
  | allocated
  | inUse
  | installed
  deriving DecidableEq, Repr

namespace EquipmentStatus

/-- The word for a state. -/
def text : EquipmentStatus → String
  | available => "available"
  | allocated => "allocated"
  | inUse => "in-use"
  | installed => "installed"

end EquipmentStatus

end StageStock
