import StageStock.Text.Hexadecimal
import StageStock.Text.Printable

/-!
# Quoted text in messages

Messages show a text between quotes so that its ends and its unusual characters can be seen. The
quotes are single ones, unless the text holds a single quote and no double quote. A backslash and
the chosen quote are escaped, line feed, carriage return and tab have an escape of one letter, and
every other character that is not printable is written as its code point in two, four or eight
hexadecimal digits. Where a text may be long, `quotedUpTo` shows its beginning alone.
-/

namespace StageStock.Text

/-- The quote that is written around a text. -/
def quoteMark (s : List Char) : Char :=
  if s.contains '\'' && !s.contains '"' then '"' else '\''

/-- A character of a text between quotes. -/
def escapeIn (mark c : Char) : List Char :=
  if c = mark || c = '\\' then ['\\', c]
  else if c = '\n' then ['\\', 'n']
  else if c = '\r' then ['\\', 'r']
  else if c = '\t' then ['\\', 't']
  else if isPrintable c then [c]
  else if c.toNat < 0x100 then ['\\', 'x'] ++ hexDigits c.toNat 2
  else if c.toNat < 0x10000 then ['\\', 'u'] ++ hexDigits c.toNat 4
  else ['\\', 'U'] ++ hexDigits c.toNat 8

/-- The text between quotes. -/
def quoted (s : String) : String :=
  let mark := quoteMark s.toList
  String.ofList ([mark] ++ s.toList.flatMap (escapeIn mark) ++ [mark])

/-- The text between quotes, cut off after so many characters. -/
def quotedUpTo (most : Nat) (s : String) : String :=
  String.ofList ((quoted s).toList.take most)

end StageStock.Text
