import TactilePad.Text.Form
import TactilePad.Text.Unprintable

/-!
# Quoted text

Inside a described value a text stands in double quotes.  A quote and a backslash are written
after a backslash, tab, line feed, carriage return and the null character by their letters, and
every other character without a glyph of its own by its code point.
-/

namespace TactilePad.Text

/-- How one character is written between quotes. -/
def escape (c : Char) : List Char :=
  if c = '"' then ['\\', '"']
  else if c = '\\' then ['\\', '\\']
  else if c = '\t' then ['\\', 't']
  else if c = '\n' then ['\\', 'n']
  else if c = '\r' then ['\\', 'r']
  else if c.toNat = 0 then ['\\', '0']
  else if isUnprintable c then ['\\', 'u', '\x7b'] ++ hexDigits c.toNat ++ ['\x7d']
  else [c]

/-- A text in double quotes. -/
def quoted (s : String) : String :=
  String.ofList (['"'] ++ s.toList.flatMap escape ++ ['"'])

end TactilePad.Text
