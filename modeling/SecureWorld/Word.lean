import SecureWorld.Fault

/-!
# Call words

The 64-bit words in which a call passes its arguments and its result, and the narrower numbers they stand
for: the low bits of a word, and a signed code that fills a word with its sign.
-/

namespace SecureWorld

/-- A word of a call. -/
abbrev Word := UInt64

namespace Word

/-- Number of bytes of a word. -/
def bytes : Word := 8

/-- The answer to a call that was not understood: all bits set. -/
def callFailed : Word := 0xFFFFFFFFFFFFFFFF

/-- The word of a signed code, filled up with the sign. -/
def ofCode (c : Int32) : Word :=
  c.toInt64.toUInt64

/-- The signed code in the low half of a word. -/
def toCode (w : Word) : Int32 :=
  w.toUInt32.toInt32

/-- The word of a truth value. -/
def ofBool (b : Bool) : Word :=
  if b then 1 else 0

/-- Every word but zero means true. -/
def toBool (w : Word) : Bool :=
  w != 0

/-- A sum, unless it leaves the word. -/
def plus? (a b : Word) : Option Word :=
  if a.toNat + b.toNat < 0x10000000000000000 then some (a + b) else none

/-- A sum; leaving the word is a fault. -/
def plus (a b : Word) : Except Fault Word :=
  match plus? a b with
  | some c => .ok c
  | none => .error .overflow

/-- A product, unless it leaves the word. -/
def times? (a b : Word) : Option Word :=
  if a.toNat * b.toNat < 0x10000000000000000 then some (a * b) else none

/-- The sum of two words in natural numbers. -/
theorem toNat_of_plus? {a b c : Word} (h : plus? a b = some c) : c.toNat = a.toNat + b.toNat := by
  unfold plus? at h
  split at h
  · cases h
    rw [UInt64.toNat_add]
    omega
  · cases h

end Word

end SecureWorld
