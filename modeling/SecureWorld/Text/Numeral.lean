import SecureWorld.Text.Hex
import SecureWorld.Word

/-!
# Numerals

Words as they are written in lists: decimal, or in base sixteen behind `0x` or `0X`. A plus sign may stand
before the digits.
-/

namespace SecureWorld.Numeral

/-- Whether a character is a digit in a base up to sixteen, in either case. -/
def isDigit (base : Nat) (c : Char) : Bool :=
  c.isHexDigit && Hex.digitValue c < base

/-- The number that digits of a base spell. -/
def value (base : Nat) (ds : List Char) : Nat :=
  ds.foldl (fun n c => base * n + Hex.digitValue c) 0

/-- The word that at least one digit of a base spells, unless it leaves the word. -/
def digits? (base : Nat) (ds : List Char) : Option Word :=
  if !ds.isEmpty && ds.all (isDigit base) && value base ds < 0x10000000000000000 then
    some (UInt64.ofNat (value base ds))
  else none

/-- A text without the plus sign it may start with. -/
def unsigned : List Char → List Char
  | '+' :: cs => cs
  | cs => cs

/-- The word that a numeral stands for. -/
def word? : List Char → Option Word
  | '0' :: 'x' :: cs => digits? 16 (unsigned cs)
  | '0' :: 'X' :: cs => digits? 16 (unsigned cs)
  | cs => digits? 10 (unsigned cs)

end SecureWorld.Numeral
