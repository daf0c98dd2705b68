import SecureWorld.Text.Ranges
import SecureWorld.Text.Split

/-!
# Blanks

The characters that separate words, and the cutting of a text into lines and fields. Blank are the
characters with the Unicode property White_Space.
-/

namespace SecureWorld.Text

/-- The characters with the property White_Space. -/
def blanks : List (Nat × Nat) :=
  [(0x9, 0xd), (0x20, 0x20), (0x85, 0x85), (0xa0, 0xa0), (0x1680, 0x1680), (0x2000, 0x200a),
    (0x2028, 0x2029), (0x202f, 0x202f), (0x205f, 0x205f), (0x3000, 0x3000)]

/-- Whether a character is blank. -/
def isBlank (c : Char) : Bool :=
  within blanks c

/-- A text without the blanks at its two ends. -/
def trim (cs : List Char) : List Char :=
  ((cs.dropWhile isBlank).reverse.dropWhile isBlank).reverse

/-- The longest pieces of a text without blanks. -/
def fields (cs : List Char) : List (List Char) :=
  (split isBlank cs).filter fun f => !f.isEmpty

/-- The lines of a text, which end at line feeds. A carriage return before the line feed stays: it is
blank. -/
def lines (cs : List Char) : List (List Char) :=
  split (· == '\n') cs

end SecureWorld.Text
