import SecureWorld.Device.Drivers
import SecureWorld.Region

/-!
# Digest services

Digests in one go or block by block; the state between two blocks can be saved and restored.
-/

namespace SecureWorld.Sha

variable {σ : Type} (D : Drivers σ)

open Service

/-- The algorithm that a word asks for. -/
def algorithm (w : Word) : Service σ ShaType := validArg (ShaType.ofRaw? w.toUInt32)

/-- Claim the saved state of an algorithm. -/
def savedState (t : ShaType) (addr : Word) : Service σ Region :=
  Region.claim addr (UInt64.ofNat t.stateBytes) 4

/-- The digest of a whole message. -/
def digest (ty input length output : Word) : Secure σ Word :=
  status do
    let t ← algorithm ty
    let input ← Region.bytes input length
    let output ← Region.bytes output (UInt64.ofNat t.digestBytes)
    Region.ensureDisjoint [input, output]
    let v ← device (D.sha t (← input.load).toList (← output.load))
    output.store v

/-- Feed blocks from two buffers. -/
def feed (ty input length buffer bufferLength first : Word) : Secure σ Word :=
  driverCode do
    let t ← algorithm ty
    let input ← Region.bytes input length
    let buffer ← Region.bytes buffer bufferLength
    device (D.shaDma t (← input.load).toList (← buffer.load).toList first.toBool)

/-- Write the state of the engine to the caller. -/
def readState (ty state : Word) : Secure σ Word :=
  status do
    let t ← algorithm ty
    let r ← savedState t state
    let v ← device (D.readShaState t (← r.load))
    r.store v

/-- Take the state of the engine from the caller. -/
def writeState (ty state : Word) : Secure σ Word :=
  status do
    let t ← algorithm ty
    let r ← savedState t state
    device (D.writeShaState t (← r.load).toList)

end SecureWorld.Sha
