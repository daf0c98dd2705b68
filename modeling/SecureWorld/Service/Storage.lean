import SecureWorld.Device.Drivers
import SecureWorld.Region

/-!
# Storage services

Keys live in numbered slots and never leave them. Encryption and decryption work in place, so the input is
first copied to the output, which may share no byte with the additional data or the tag.
-/

namespace SecureWorld.Storage

variable {σ : Type} (D : Drivers σ)

open Service

/-- The slot that a word names. -/
def slot (w : Word) : UInt16 := w.toUInt16

/-- Make the storage ready. -/
def init : Secure σ Word :=
  status (device? D.initStorage)

/-- Generate a key in a slot. -/
def generateKey (slotId kind : Word) : Secure σ Word :=
  status do
    let k ← validArg (KeyType.ofRaw? kind.toUInt8)
    device? (D.generateKey (slot slotId) k)

/-- Write two halves of 32 bytes, one after the other. -/
def storePair (out : Region) (p : Vector UInt8 32 × Vector UInt8 32) : Service σ Unit :=
  out.store (p.1 ++ p.2)

/-- Sign a hash with the key of a slot. -/
def sign (slotId hash length out : Word) : Secure σ Word :=
  status do
    let hash ← Region.bytes hash length
    let out ← Region.bytes out 64
    let p ← device? (D.sign (slot slotId) (← hash.load).toList)
    storePair out p

/-- Write the public key of a slot. -/
def publicKey (slotId out : Word) : Secure σ Word :=
  status do
    let out ← Region.bytes out 64
    let p ← device? (D.publicKey (slot slotId))
    storePair out p

/-- The regions of an authenticated request. -/
structure Sealed where
  output : Region
  aad : Region
  tag : Region

/-- Claim the regions of an authenticated request and copy its input to its output. -/
def stage (input length aad aadLength tag tagLength output : Word) : Service σ Sealed := do
  let n := length.toUInt8.toUInt64
  let src ← Region.bytes input n
  let output ← Region.bytes output n
  let aad ← Region.bytes aad aadLength.toUInt16.toUInt64
  let tag ← Region.bytes tag tagLength.toUInt16.toUInt64
  Region.ensureDisjoint [output, aad]
  Region.ensureDisjoint [output, tag]
  src.copyTo output
  return ⟨output, aad, tag⟩

/-- Seal data with the key of a slot, with a tag for it and the data beside it. -/
def encrypt (slotId input length aad aadLength tag tagLength output : Word) : Secure σ Word :=
  status do
    let r ← stage input length aad aadLength tag tagLength output
    Region.ensureDisjoint [r.aad, r.tag]
    let (result, data, tag) ← device (D.encrypt (slot slotId) (← r.output.load) (← r.aad.load).toList
      (← r.tag.load))
    r.output.store data
    r.tag.store tag
    match result with
    | .ok () => return ()
    | .error e => refuse e

/-- Unseal data with the key of a slot, if the tag fits. -/
def decrypt (slotId input length aad aadLength tag tagLength output : Word) : Secure σ Word :=
  status do
    let r ← stage input length aad aadLength tag tagLength output
    let (result, data) ← device (D.decrypt (slot slotId) (← r.output.load) (← r.aad.load).toList
      (← r.tag.load).toList)
    r.output.store data
    match result with
    | .ok () => return ()
    | .error e => refuse e

/-- Ask whether a slot is empty. -/
def isSlotEmpty (slotId : Word) : Secure σ Word :=
  flag (device (D.isSlotEmpty (slot slotId)))

/-- Empty a slot. -/
def clearSlot (slotId : Word) : Secure σ Word :=
  status (device? (D.clearSlot (slot slotId)))

end SecureWorld.Storage
