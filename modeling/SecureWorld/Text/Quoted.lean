import SecureWorld.Text.GraphemeExtend
import SecureWorld.Text.Hex
import SecureWorld.Text.Ignorable
import SecureWorld.Text.Printable

/-!
# Quoted text

Text between quotation marks, as it is shown in messages: with every character visible on its own.
-/

namespace SecureWorld.Text

/-- A code point in braces behind `\u`, in lower case. -/
def codePoint (c : Char) : List Char :=
  ['\\', 'u', '\x7b'] ++ Hex.digits c.toNat ++ ['\x7d']

/-- Whether a character is seen, and on its own. -/
def isPlain (c : Char) : Bool :=
  isPrintable c && !isIgnorable c && !isCombining c

/-- How a character stands in quoted text. A tab, the ends of lines, a null, a backslash and a quotation
mark stand behind a backslash; what would not be seen, or would join its neighbour, is given by number. -/
def escape (c : Char) : List Char :=
  if c = '\t' then ['\\', 't']
  else if c = '\r' then ['\\', 'r']
  else if c = '\n' then ['\\', 'n']
  else if c = '\x00' then ['\\', '0']
  else if c = '\\' then ['\\', '\\']
  else if c = '"' then ['\\', '"']
  else if isPlain c then [c]
  else codePoint c

/-- A text in quotation marks. -/
def quote (s : String) : String :=
  "\"" ++ String.ofList (s.toList.flatMap escape) ++ "\""

end SecureWorld.Text
