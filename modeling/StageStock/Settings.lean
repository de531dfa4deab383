import StageStock.Failure

/-!
# Settings

A setting is a text that may be missing. It is read as a switch, as a list of items parted by
commas, or as a text that has to be there.
-/

namespace StageStock.Settings

/-- The words that turn a switch on. -/
def onWords : List String :=
  ["1", "true", "yes", "on"]

/-- A switch; capitals and blanks around the word do not count. -/
def isOn (value : Option String) (usual : String) : Bool :=
  onWords.contains (Text.lowerBasicLatin (Text.trim (value.getD usual)))

/-- The items between the commas, without blanks around them; empty items are left out. -/
def items (value : Option String) (usual : String) : List String :=
  (((value.getD usual).splitOn ",").map Text.trim).filter (· ≠ "")

/-- A text that has to be there and not empty. -/
def required (name : String) (value : Option String) : Except Failure String :=
  match value with
  | some text => if text = "" then .error (.settingMissing name) else .ok text
  | none => .error (.settingMissing name)

end StageStock.Settings
