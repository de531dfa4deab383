import StageStock.Json.Parser
import StageStock.Overview.Report

/-!
# The overview on the command line

The overview is printed of a store that is given on standard input as a document. The address of the
store is the value of `--db-url`, or else of the variable `LEDGER_DB_URL`. The exit code is 0 if
every check passes, 1 if one fails, 2 if the command line is rejected or gives no address, and 3 if
the input is no store.
-/

namespace StageStock.Overview

/-- How the overview is called. -/
def usage : String :=
  "usage: overview [-h] [--db-url DB_URL] [--samples SAMPLES]"

/-- What the options mean. -/
def optionLines : List String :=
  ["", "Equipment ledger DB overview", "", "options:",
    "  -h, --help         show this help message and exit",
    "  --db-url DB_URL",
    "  --samples SAMPLES"]

/-- The text that is left on a stream, after `done`. -/
partial def readRest (input : IO.FS.Stream) (done : String) : IO String := do
  let line ← input.getLine
  if line.isEmpty then return done
  readRest input (done ++ line)

/-- Print the overview of the store on standard input. -/
def printOverview (usualAddress : String) (words : List String) : IO UInt32 := do
  let text ← readRest (← IO.getStdin) ""
  match (Json.parse? text).bind fun document => Store.ofJson? document default with
  | none =>
    IO.println "Could not connect to DB: the input is no store"
    return 3
  | some store =>
    match run store [] usualAddress words with
    | .finished code output =>
      IO.print output
      return code.toUInt32
    | .help => return 0
    | .rejected | .sizeMissing => return 2

end StageStock.Overview

open StageStock.Overview in
/-- Print the overview that the command line asks for. -/
def main (words : List String) : IO UInt32 := do
  let usual := (← IO.getEnv "LEDGER_DB_URL").getD ""
  match Arguments.parse usual words with
  | .rejected =>
    IO.eprintln usage
    return 2
  | .help =>
    IO.println ("\n".intercalate (usage :: optionLines))
    return 0
  | .show _ => printOverview usual words
