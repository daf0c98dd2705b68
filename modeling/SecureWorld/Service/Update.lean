import SecureWorld.Device.Drivers
import SecureWorld.Region

/-!
# Update services

An update of the secure partition is begun, written in pieces with their offsets, and ended.
-/

namespace SecureWorld.Update

variable {σ : Type} (D : Drivers σ)

open Service

/-- Begin an update. -/
def begin : Secure σ Word :=
  status (device? D.beginUpdate)

/-- Write a chunk of an image at an offset. -/
def write (offset data size : Word) : Secure σ Word :=
  status do
    let r ← Region.bytes data size
    device? (D.writeUpdate offset.toUInt32 (← r.load).toList)

/-- Finish an update. -/
def finish : Secure σ Word :=
  status (device? D.endUpdate)

end SecureWorld.Update
