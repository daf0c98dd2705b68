import SecureWorld.Fault
import SecureWorld.Text.Hex

/-!
# Addresses

A 32-bit address and the space it belongs to. Flash is seen through a virtual window and addressed
physically behind it, so an address carries its space in its type and the two cannot be mixed up.
-/

namespace SecureWorld

/-- The address spaces: on-chip or not yet known, seen through the window, and behind it. -/
inductive Space where
  | memory
  | virtual
  | physical
deriving DecidableEq, Repr

/-- An address of a space. -/
structure Address (s : Space) where
  value : UInt32
deriving DecidableEq, Repr, Inhabited

namespace Address

variable {s : Space}

/-- The address as a natural number. -/
def toNat (a : Address s) : Nat :=
  a.value.toNat

/-- An address has 32 bits. -/
theorem toNat_lt (a : Address s) : a.toNat < 0x100000000 :=
  a.value.toNat_lt

/-- Two addresses with one number are one address. -/
theorem ext_toNat {a b : Address s} (h : a.toNat = b.toNat) : a = b := by
  cases a; cases b; simpa [toNat, UInt32.toNat_inj] using h

instance : LT (Address s) := ⟨fun a b => a.value < b.value⟩
instance : LE (Address s) := ⟨fun a b => a.value ≤ b.value⟩
instance (a b : Address s) : Decidable (a < b) := inferInstanceAs (Decidable (a.value < b.value))
instance (a b : Address s) : Decidable (a ≤ b) := inferInstanceAs (Decidable (a.value ≤ b.value))

/-- Addresses are ordered as their numbers are. -/
theorem lt_iff_toNat {a b : Address s} : a < b ↔ a.toNat < b.toNat :=
  UInt32.lt_iff_toNat_lt

/-- Addresses are ordered as their numbers are, equal ones included. -/
theorem le_iff_toNat {a b : Address s} : a ≤ b ↔ a.toNat ≤ b.toNat :=
  UInt32.le_iff_toNat_le

/-- The address `n` bytes further, unless it lies beyond the space. -/
def plus? (a : Address s) (n : UInt32) : Option (Address s) :=
  if a.toNat + n.toNat < 0x100000000 then some ⟨a.value + n⟩ else none

/-- The address `n` bytes further; leaving the space is a fault. -/
def plus (a : Address s) (n : UInt32) : Except Fault (Address s) :=
  match a.plus? n with
  | some b => .ok b
  | none => .error .overflow

/-- An address is written with eight upper-case digits. -/
def render (a : Address s) : String :=
  Hex.upper8 a.toNat

end Address

/-- The name under which an address of a space is shown in diagnostics. -/
def Space.label : Space → String
  | .memory => "MemoryAddress"
  | .virtual => "VA"
  | .physical => "PA"

/-- An address with the label of its space. -/
def Address.describe {s : Space} (a : Address s) : String :=
  s.label ++ "(" ++ a.render ++ ")"

/-- An address of the cache-mapped window. -/
abbrev VirtualAddress := Address .virtual

/-- An address of the memory behind the window. -/
abbrev PhysicalAddress := Address .physical

end SecureWorld
