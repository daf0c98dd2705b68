import SecureWorld.Layout

/-!
# Partitions

The secure partitions of the flash, which fill the secure flash range without a gap.
-/

namespace SecureWorld

/-- A named part of the flash. -/
structure Partition where
  label : String
  offset : UInt32
  size : UInt32
deriving DecidableEq, Repr

namespace Partition

/-- The end of a partition, a fault if it lies beyond the space. -/
def stop (p : Partition) : Except Fault UInt32 :=
  if p.offset.toNat + p.size.toNat < 0x100000000 then .ok (p.offset + p.size) else .error .overflow

/-- The secure partitions in the order of their offsets. -/
def secure : List Partition :=
  [⟨"tee_0", 0x10000, 0x30000⟩,
   ⟨"tee_1", 0x40000, 0x30000⟩,
   ⟨"tee_otadata", 0x70000, 0x2000⟩,
   ⟨"secure_storage", 0x72000, 0xE000⟩]

/-- Whether partitions follow each other without a gap, from one offset to another. -/
def Fill : UInt32 → UInt32 → List Partition → Prop
  | lo, hi, [] => lo = hi
  | lo, hi, p :: ps => p.offset = lo ∧ ∃ e, p.stop = .ok e ∧ Fill e hi ps

/-- The partitions of the secure world fill the secure flash, without gaps. -/
theorem fill_secure : Fill Layout.secureFlashStart Layout.secureFlashEnd secure :=
  ⟨rfl, _, rfl, rfl, _, rfl, rfl, _, rfl, rfl, _, rfl, rfl⟩

end Partition

end SecureWorld
