import StageStock.Text.Blank
import StageStock.Text.Numeral

/-!
# The command line of the overview

The overview takes the address of a store and the number of equipments to list. An option may be
shortened as long as no other option begins the same way, and its value follows it or stands after
an equals sign. A word that begins with a hyphen is a value only if it is a number or holds a space.
Two hyphens after an equals sign are no value at all.

* `Word.classify`: what a word of the command line is taken for;
* `Arguments.parse`: the whole command line, which may also ask for help or be rejected.
-/

namespace StageStock.Overview

/-- The options. -/
inductive OptionName where
  | help
  | address
  | samples
  deriving DecidableEq, Repr

/-- The spellings of the options. -/
def optionSpellings : List (String × OptionName) :=
  [("-h", .help), ("--help", .help), ("--db-url", .address), ("--samples", .samples)]

/-- What a word of the command line is taken for. -/
inductive Word where
  /-- An option, with the value after an equals sign. -/
  | option (name : OptionName) (value : Option String)
  /-- A word that looks like an option and is none. -/
  | unknown
  /-- The beginning of several options. -/
  | ambiguous
  /-- The two hyphens after which no word is an option. -/
  | endOfOptions
  /-- Any other word. -/
  | plain (text : String)
  deriving DecidableEq, Repr

namespace Word

/-- Whether a character is a digit of any script. -/
def isDigit (c : Char) : Bool :=
  (Text.decimalDigit? c).isSome

/-- Digits, with at most one point among them. -/
def isUnsignedNumber (cs : List Char) : Bool :=
  let whole := cs.takeWhile isDigit
  match cs.dropWhile isDigit with
  | [] => !whole.isEmpty
  | '.' :: decimals => !decimals.isEmpty && decimals.all isDigit
  | _ => false

/-- Whether a word is a negative number; a line feed may follow it. -/
def isNegativeNumber (cs : List Char) : Bool :=
  match cs with
  | '-' :: rest => isUnsignedNumber (if rest.getLast? = some '\n' then rest.dropLast else rest)
  | _ => false

/-- The part of a word before its first equals sign, and the part after it. -/
def splitValue (cs : List Char) : List Char × Option String :=
  match cs.dropWhile (· ≠ '=') with
  | '=' :: value => (cs.takeWhile (· ≠ '='), some (String.ofList value))
  | _ => (cs, none)

/-- What is written together with the short option for help. It may be that option again, any number
of times; anything else is a value, which the option does not take. -/
def besideHelp (value : String) : Option String :=
  if value ≠ "" && value.toList.all (· = 'h') then none else some value

/-- The long options that begin with a word, and the short one that a word with a single hyphen
begins with, each with its value. -/
def candidates (cs : List Char) : List (OptionName × Option String) :=
  match cs with
  | '-' :: '-' :: _ =>
    let (name, value) := splitValue cs
    (optionSpellings.filter fun option => name.isPrefixOf option.1.toList).map
      fun option => (option.2, value)
  | '-' :: 'h' :: '=' :: value => [(.help, besideHelp (String.ofList value))]
  | '-' :: 'h' :: value => [(.help, besideHelp (String.ofList value))]
  | _ => []

/-- What a word is taken for. -/
def classify (word : String) : Word :=
  let cs := word.toList
  if cs.head? ≠ some '-' ∨ word = "-" then .plain word
  else if word = "--" then .endOfOptions
  else
    match optionSpellings.lookup word with
    | some name => .option name none
    | none =>
      match candidates cs with
      | [(name, value)] => .option name value
      | _ :: _ :: _ => .ambiguous
      | [] => if isNegativeNumber cs || cs.contains ' ' then .plain word else .unknown

/-- What the words of a command line are taken for; after two hyphens every word is plain. -/
def classifyAll : List String → List Word
  | [] => []
  | word :: rest =>
    match classify word with
    | .endOfOptions => .endOfOptions :: rest.map .plain
    | other => other :: classifyAll rest

end Word

/-- The values of the options. -/
structure Arguments where
  address : String
  /-- The number of equipments to list; nothing if two hyphens stand for it. -/
  samples : Option Int := some 10
  deriving DecidableEq, Repr

/-- What a command line asks for. -/
inductive Request where
  | show (arguments : Arguments)
  | help
  | rejected
  deriving DecidableEq, Repr

namespace Arguments

/-- The value of an option that stands in the word behind it, and the words after the value. -/
def takeValue : List Word → Option (String × List Word)
  | .plain value :: rest => some (value, rest)
  | _ => none

theorem length_takeValue {words rest : List Word} {value : String}
    (h : takeValue words = some (value, rest)) : rest.length < words.length := by
  unfold takeValue at h
  split at h <;> cases h
  simp only [List.length_cons]
  omega

/-- The arguments with the value of an option. -/
def set (a : Arguments) (name : OptionName) (value : String) : Option Arguments :=
  match name with
  | .help => none
  | .address => some { a with address := if value = "--" then "" else value }
  | .samples =>
    if value = "--" then some { a with samples := none }
    else
      match Text.wholeNumber value with
      | .ok n => some { a with samples := some n }
      | .error _ => none

/-- Read the words in order. Words that belong to no option are remembered in `surplus` and reject
the command line at its end. -/
def read (a : Arguments) (surplus : Bool) (words : List Word) : Request :=
  match words with
  | [] => if surplus then .rejected else .show a
  | .option .help none :: _ => .help
  | .option name (some value) :: rest =>
    match a.set name value with
    | some changed => read changed surplus rest
    | none => .rejected
  | .option name none :: rest =>
    match h : takeValue rest with
    | none => .rejected
    | some (value, after) =>
      have := length_takeValue h
      match a.set name value with
      | some changed => read changed surplus after
      | none => .rejected
  | .ambiguous :: _ => .rejected
  | .unknown :: rest | .endOfOptions :: rest | .plain _ :: rest => read a true rest
termination_by words.length

/-- What a command line asks for; `usual` is the address when none is given. -/
def parse (usual : String) (words : List String) : Request :=
  let classified := Word.classifyAll words
  if classified.contains .ambiguous then .rejected
  else read { address := usual } false classified

end Arguments

end StageStock.Overview
