import SecureWorld.Device.Request
import SecureWorld.Service.Error

/-!
# Drivers

The devices behind the services, as one record of actions on their common state. A driver is handed the
bytes of the memory it may see and gives back the bytes of the memory it may change, as many as it got; it
never sees an address.
-/

namespace SecureWorld

/-- Drivers whose devices have states in `σ`. -/
structure Drivers (σ : Type) where
  routeInterrupt : (cpu : Int32) → (source line : UInt32) → StateM σ Unit
  enableInterrupts : (mask : UInt32) → StateM σ Unit
  disableInterrupts : (mask : UInt32) → StateM σ Unit
  setInterruptPriority : (line : Int32) → (priority : UInt32) → StateM σ Unit
  setInterruptType : (line : Int32) → Trigger → StateM σ Unit
  setInterruptThreshold : (threshold : Int32) → StateM σ Unit
  acknowledgeEdge : (line : UInt32) → StateM σ Unit
  enableAllInterrupts : StateM σ Unit
  chipRevision : StateM σ UInt32
  packageVersion : StateM σ UInt32
  waferDisabled : StateM σ Bool
  macAddress : StateM σ (Vector UInt8 6)
  checkSecureVersion : (version : UInt32) → StateM σ Bool
  /-- The field described by runs of fused bits, read into a buffer. -/
  readFuses : (runs : List FuseRun) → {n : Nat} → (buffer : Vector UInt8 n) → (bits : Word) →
    StateM σ (Except ServiceError Unit × Vector UInt8 n)
  /-- The counter whose odd values mean that flash is encrypted. -/
  cryptCount : StateM σ UInt32
  initWatchdog : WatchdogContext → Watchdog → (prescaler : UInt32) → (interrupt : Bool) →
    StateM σ WatchdogContext
  deinitWatchdog : WatchdogContext → StateM σ WatchdogContext
  allocAesInterrupt : StateM σ Unit
  aesCbc : AesContext → AesMode → (vector : Vector UInt8 16) → {n : Nat} → Vector UInt8 n →
    StateM σ (Int32 × AesContext × Vector UInt8 16 × Vector UInt8 n)
  aesCfb128 : AesContext → AesMode → (offset : Word) → (vector : Vector UInt8 16) → {n : Nat} →
    Vector UInt8 n → StateM σ (Int32 × AesContext × Word × Vector UInt8 16 × Vector UInt8 n)
  aesCfb8 : AesContext → AesMode → (vector : Vector UInt8 16) → {n : Nat} → Vector UInt8 n →
    StateM σ (Int32 × AesContext × Vector UInt8 16 × Vector UInt8 n)
  aesCtr : AesContext → (offset : Word) → (nonce stream : Vector UInt8 16) → {n : Nat} →
    Vector UInt8 n →
    StateM σ (Int32 × AesContext × Word × Vector UInt8 16 × Vector UInt8 16 × Vector UInt8 n)
  aesEcb : AesContext → AesMode → (block : Vector UInt8 16) →
    StateM σ (Int32 × AesContext × Vector UInt8 16)
  aesOfb : AesContext → (offset : Word) → (vector : Vector UInt8 16) → {n : Nat} → Vector UInt8 n →
    StateM σ (Int32 × AesContext × Word × Vector UInt8 16 × Vector UInt8 n)
  sha : ShaType → (input : List UInt8) → {n : Nat} → (output : Vector UInt8 n) →
    StateM σ (Vector UInt8 n)
  shaDma : ShaType → (input buffer : List UInt8) → (first : Bool) → StateM σ Int32
  readShaState : ShaType → {n : Nat} → (state : Vector UInt8 n) → StateM σ (Vector UInt8 n)
  writeShaState : ShaType → (state : List UInt8) → StateM σ Unit
  beginUpdate : StateM σ (Except ServiceError Unit)
  writeUpdate : (offset : UInt32) → (data : List UInt8) → StateM σ (Except ServiceError Unit)
  endUpdate : StateM σ (Except ServiceError Unit)
  initStorage : StateM σ (Except ServiceError Unit)
  generateKey : (slot : UInt16) → KeyType → StateM σ (Except ServiceError Unit)
  /-- The two halves of a signature. -/
  sign : (slot : UInt16) → (hash : List UInt8) →
    StateM σ (Except ServiceError (Vector UInt8 32 × Vector UInt8 32))
  /-- The two coordinates of a public key. -/
  publicKey : (slot : UInt16) → StateM σ (Except ServiceError (Vector UInt8 32 × Vector UInt8 32))
  /-- The data encrypted in place, and the tag. -/
  encrypt : (slot : UInt16) → {n : Nat} → Vector UInt8 n → (aad : List UInt8) → {k : Nat} →
    (tag : Vector UInt8 k) → StateM σ (Except ServiceError Unit × Vector UInt8 n × Vector UInt8 k)
  /-- The data decrypted in place, once its tag was checked. -/
  decrypt : (slot : UInt16) → {n : Nat} → Vector UInt8 n → (aad tag : List UInt8) →
    StateM σ (Except ServiceError Unit × Vector UInt8 n)
  isSlotEmpty : (slot : UInt16) → StateM σ Bool
  clearSlot : (slot : UInt16) → StateM σ (Except ServiceError Unit)
  /-- The length of the token written to the start of a buffer. -/
  attest : (nonce client : UInt32) → (certificate : List UInt8) → {n : Nat} →
    (buffer : Vector UInt8 n) → StateM σ (Except ServiceError Nat × Vector UInt8 n)

end SecureWorld
