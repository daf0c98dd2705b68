import SecureWorld.Address.Range

/-!
# Memory layout

The fixed addresses of the chip and the part of them that the secure world owns: the first bytes of the
on-chip memory, the first megabyte of the window and the secure partitions of the flash.
-/

namespace SecureWorld.Layout

/-- First address of the on-chip memory. -/
def sramLow : UInt32 := 0x40800000

/-- End of the on-chip memory. -/
def sramHigh : UInt32 := 0x40880000

/-- Number of bytes of secure on-chip memory, at the start of it. -/
def secureSramSize : UInt32 := 0x10000

/-- The start of the secure on-chip memory. -/
def secureSramStart : UInt32 := sramLow

/-- The end of the secure on-chip memory. -/
def secureSramEnd : UInt32 := secureSramStart + secureSramSize

/-- The open part of the on-chip memory follows the secure one. -/
def openSramStart : UInt32 := secureSramEnd

/-- First address of the window. -/
def windowBase : UInt32 := 0x42000000

/-- Number of pages of the window, and so of entries of its table. -/
def windowPages : Nat := 256

/-- Number of bytes of a page of the window. -/
def pageBytes : UInt32 := 0x10000

/-- End of the window. -/
def windowEnd : UInt32 := windowBase + UInt32.ofNat windowPages * pageBytes

/-- Number of bytes of flash. -/
def flashSize : UInt32 := 0x1000000

/-- The start of the secure part of the window. -/
def secureWindowStart : UInt32 := windowBase

/-- The number of bytes of the secure part of the window. -/
def secureWindowSize : UInt32 := 0x100000

/-- The end of the secure part of the window. -/
def secureWindowEnd : UInt32 := secureWindowStart + secureWindowSize

/-- The start of the secure flash. -/
def secureFlashStart : UInt32 := 0x10000

/-- The number of bytes of the secure flash. -/
def secureFlashSize : UInt32 := 0x70000

/-- The end of the secure flash. -/
def secureFlashEnd : UInt32 := secureFlashStart + secureFlashSize

/-- Number of bytes of the secure stack. -/
def stackSize : UInt32 := 4096

/-- The window addresses of secure flash. -/
def secureWindow : AddressRange .virtual :=
  .between ⟨secureWindowStart⟩ ⟨secureWindowEnd⟩

/-- The physical addresses of secure flash. -/
def secureFlash : AddressRange .physical :=
  .between ⟨secureFlashStart⟩ ⟨secureFlashEnd⟩

/-- The secure on-chip memory. -/
def secureSram : AddressRange .virtual :=
  .between ⟨secureSramStart⟩ ⟨secureSramEnd⟩

end SecureWorld.Layout
