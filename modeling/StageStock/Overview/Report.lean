import StageStock.Overview.Arguments
import StageStock.Overview.Checks

/-!
# The overview of a store

The overview shows which tables are there, what the integrity checks find, how many rows each table
has, and the figures of the first equipments. When a table is missing it ends after the first part.

* `report`: the overview of a store, with the code that tells whether everything passed;
* `answer`: the same for the values of the options, and `run` for a command line.
-/

namespace StageStock.Overview

/-- What a run of the overview comes to. -/
inductive Result where
  /-- The command line was rejected. -/
  | rejected
  /-- The command line asked for help. -/
  | help
  | finished (code : Nat) (output : String)
  /-- No number of equipments to list was given, and none is usual. -/
  | sizeMissing
  deriving DecidableEq, Repr

/-- The lines of a section: a blank one, the title, and the content. -/
def sectionLines (title : String) (content : List String) : List String :=
  "" :: ("=== " ++ title ++ " ===") :: content

/-- A check as it is shown. -/
def Check.line (c : Check) : String :=
  "[" ++ (if c.ok then "OK" else "FAIL") ++ "] " ++ c.name ++ " :: " ++ c.detail

/-- The check whether a table is there. -/
def tableCheck (missing : List TableName) (table : TableName) : Check :=
  let ok := !missing.contains table
  { name := "table:" ++ table.text, ok, detail := if ok then "present" else "missing" }

/-- The figures of an equipment as they are shown. -/
def Figures.line (f : Figures) : String :=
  "  - equipment=" ++ toString f.equipment ++ " total=" ++ toString f.total ++ " committed="
    ++ toString f.committed ++ " default_storage=" ++ toString (f.total - f.committed)

/-- The lines of the overview after the tables were found, for at least one equipment. -/
def contentLines (s : Store) (samples : Int) : List String :=
  sectionLines "Integrity Checks" ((checks s).map Check.line)
    ++ sectionLines "Row Counts"
      (TableName.all.map fun table => table.text ++ ": " ++ toString (s.size table))
    ++ sectionLines "Ledger (default storage per equipment)"
      (((figures s).take (max 1 samples).toNat).map Figures.line)

/-- Lines as a text, each ended. -/
def joinLines (lines : List String) : String :=
  String.join (lines.map (· ++ "\n"))

/-- The overview of a store in which some tables are missing. -/
def report (s : Store) (missing : List TableName) (samples : Option Int) : Result :=
  let existence := TableName.all.map (tableCheck missing)
  let first := sectionLines "Table Existence" (existence.map Check.line)
  if existence.all Check.ok then
    match samples with
    | some n => .finished (if passes s then 0 else 1) (joinLines (first ++ contentLines s n))
    | none => .sizeMissing
  else .finished 1 (joinLines first)

/-- The overview that the values of the options ask for. Without an address there is nothing to look
at. -/
def answer (s : Store) (missing : List TableName) (a : Arguments) : Result :=
  if Text.trim a.address = "" then
    .finished 2 "LEDGER_DB_URL is not set. Provide --db-url or export env first.\n"
  else report s missing a.samples

/-- The overview that a command line asks for; `usualAddress` is the address when none is given. -/
def run (s : Store) (missing : List TableName) (usualAddress : String) (words : List String) :
    Result :=
  match Arguments.parse usualAddress words with
  | .rejected => .rejected
  | .help => .help
  | .show a => answer s missing a

end StageStock.Overview
