import SecureWorld.Device.Drivers
import SecureWorld.Text.Hex

/-!
# A bench of simulated devices

Devices for trying out the services without a chip. Each request is recorded before anything else happens,
then answered by simple arithmetic on its arguments and on settings of the bench; some can be told to refuse.
-/

namespace SecureWorld

/-- The requests that the devices of the bench have seen. -/
inductive Bench.Request where
  | routeInterrupt (cpu : Int32) (source line : UInt32)
  | enableInterrupts (mask : UInt32)
  | disableInterrupts (mask : UInt32)
  | setInterruptPriority (line : Int32) (priority : UInt32)
  | setInterruptType (line : Int32) (trigger : Trigger)
  | setInterruptThreshold (threshold : Int32)
  | acknowledgeEdge (line : UInt32)
  | enableAllInterrupts
  | chipRevision
  | packageVersion
  | waferDisabled
  | macAddress
  | cryptCount
  | checkSecureVersion (version : UInt32)
  | readFuses (runs : List FuseRun) (length : Nat) (bits : Word)
  | initWatchdog (before : WatchdogContext) (dog : Watchdog) (prescaler : UInt32) (interrupt : Bool)
  | deinitWatchdog (before : WatchdogContext)
  | allocAesInterrupt
  | aesCbc (key : List UInt8) (mode : AesMode) (vector data : List UInt8)
  | aesCfb128 (key : List UInt8) (mode : AesMode) (offset : Word) (vector data : List UInt8)
  | aesCfb8 (key : List UInt8) (mode : AesMode) (vector data : List UInt8)
  | aesCtr (key : List UInt8) (offset : Word) (nonce stream data : List UInt8)
  | aesEcb (key : List UInt8) (mode : AesMode) (block : List UInt8)
  | aesOfb (key : List UInt8) (offset : Word) (vector data : List UInt8)
  | sha (type : ShaType) (input : List UInt8) (length : Nat)
  | shaDma (type : ShaType) (input buffer : List UInt8) (first : Bool)
  | writeShaState (type : ShaType) (state : List UInt8)
  | readShaState (type : ShaType) (length : Nat)
  | beginUpdate
  | writeUpdate (offset : UInt32) (data : List UInt8)
  | endUpdate (written : Option Nat)
  | initStorage
  | generateKey (slot : UInt16) (kind : KeyType)
  | clearSlot (slot : UInt16)
  | isSlotEmpty (slot : UInt16)
  | sign (slot : UInt16) (hash : List UInt8)
  | publicKey (slot : UInt16)
  | encrypt (slot : UInt16) (data aad : List UInt8) (tagLength : Nat)
  | decrypt (slot : UInt16) (data aad tag : List UInt8)
  | attest (nonce client : UInt32) (certificate : List UInt8) (length : Nat)

/-- The requests that the bench can be told to refuse. -/
inductive Bench.Fallible where
  | readFuses
  | beginUpdate
  | writeUpdate
  | endUpdate
  | initStorage
  | generateKey
  | clearSlot
  | sign
  | publicKey
  | encrypt
  | decrypt
  | attest
deriving DecidableEq, Repr

/-- What passed between the open world and a gate of the bench. -/
inductive Bench.Crossing where
  | masked
  | unmasked
  | call (words : List Word)

/-- The settings of the bench, what its devices remember, and what they were asked. -/
structure Bench where
  cryptCount : UInt32
  chipRevision : UInt32
  packageVersion : UInt32
  secureVersion : UInt32
  waferDisabled : Bool
  cipherCode : Int32
  /-- The code of a digest step; the number of bytes fed if unset. -/
  digestCode : Option Int32
  mac : Vector UInt8 6
  refusals : List (Bench.Fallible × ServiceError)
  shaState : List UInt8
  /-- The number of bytes written since an update was begun. -/
  written : Option Nat
  /-- The slots that hold keys. -/
  keys : List UInt16
  /-- The requests seen, the last one first. -/
  requests : List Bench.Request
  /-- What passed the gate, the last first. -/
  crossings : List Bench.Crossing
  /-- The answers that a scripted gate still has to give. -/
  replies : List Word

namespace Bench

/-- A bench whose settings are zero and whose devices remember nothing. -/
def initial : Bench where
  cryptCount := 0
  chipRevision := 0
  packageVersion := 0
  secureVersion := 0
  waferDisabled := false
  cipherCode := 0
  digestCode := none
  mac := Vector.replicate 6 0
  refusals := []
  shaState := []
  written := none
  keys := []
  requests := []
  crossings := []
  replies := []

instance : Inhabited Bench := ⟨initial⟩

/-- Record a request. -/
def record (r : Request) : StateM Bench Unit :=
  modify fun b => { b with requests := r :: b.requests }

/-- The refusal of a request, if the bench was told to refuse it; otherwise what the device does. -/
def unlessRefused {α : Type} (f : Fallible) (x : StateM Bench (Except ServiceError α)) :
    StateM Bench (Except ServiceError α) := do
  match (← get).refusals.lookup f with
  | some e => return .error e
  | none => x

/-- Bytes counted up from a number. -/
def ramp (start n : Nat) : Vector UInt8 n :=
  Vector.ofFn fun i => UInt8.ofNat (start + i)

/-- The byte by which a slot's key marks its results. -/
def slotByte (slot : UInt16) : UInt8 := slot.toUInt8

/-- Whether a slot holds a key. -/
def hasKey (b : Bench) (slot : UInt16) : Bool := b.keys.contains slot

/-- What a device does with a key, if there is one. -/
def withKey {α : Type} (slot : UInt16) (x : StateM Bench (Except ServiceError α)) :
    StateM Bench (Except ServiceError α) := do
  if (← get).hasKey slot then x else return .error .notFound

/-- The sum of bytes. -/
def total (bs : List UInt8) : Nat := bs.foldl (fun n b => n + b.toNat) 0

/-- The tag of data and additional data under a key. -/
def tagOf (slot : UInt16) (data aad : List UInt8) (n : Nat) : Vector UInt8 n :=
  (ramp ((slotByte slot).toNat + total data + total aad) n).map (· ^^^ 0x5A)

/-- Data under the mask of a key. -/
def mask {n : Nat} (slot : UInt16) (data : Vector UInt8 n) : Vector UInt8 n :=
  data.map (· ^^^ (slotByte slot ||| 0x80))

/-- Data under the key stream of the accelerator: a count from the first byte of the key. -/
def stream {n : Nat} (c : AesContext) (data : Vector UInt8 n) : Vector UInt8 n :=
  data.zipWith (· ^^^ ·) (ramp (c.activeKey.headD 0).toNat n)

/-- The context after the accelerator has used it. -/
def loaded (c : AesContext) : AesContext := { c with keyInHardware := 1 }

/-- The vector after `n` bytes: whole blocks are counted in the first byte and requests in the last. -/
def step (v : Vector UInt8 16) (n : Nat) : Vector UInt8 16 :=
  let v := v.set 0 (v[0] + UInt8.ofNat (n / 16))
  v.set 15 (v[15] + 1)

/-- The offset into the current block after `n` bytes. -/
def advance (off : Word) (n : Nat) : Word := (off + UInt64.ofNat n) % 16

/-- The bytes of a text written to the start of a buffer, if they fit. -/
def writeText {n : Nat} (text : List UInt8) (buffer : Vector UInt8 n) :
    Except ServiceError Nat × Vector UInt8 n :=
  if n < text.length then (.error .invalidSize, buffer)
  else (.ok text.length, Vector.ofFn fun i => text.getD i buffer[i])

/-- The token for a certificate. -/
def token (nonce client : UInt32) (certificate : List UInt8) : List UInt8 :=
  let text := "EAT:".toList ++ Hex.digits nonce.toNat ++ ":".toList ++ Hex.digits client.toNat
    ++ ":".toList
  (text.map fun c => UInt8.ofNat c.toNat) ++ certificate

/-- Keep a buffer as it is when a request on it was refused. -/
def keeping {n : Nat} {α : Type} (buffer : Vector UInt8 n)
    (x : StateM Bench (Except ServiceError (α × Vector UInt8 n))) :
    StateM Bench (Except ServiceError α × Vector UInt8 n) := do
  match ← x with
  | .ok (a, v) => return (.ok a, v)
  | .error e => return (.error e, buffer)

/-- The drivers of the bench. -/
def drivers : Drivers Bench where
  routeInterrupt cpu source line := record (.routeInterrupt cpu source line)
  enableInterrupts mask := record (.enableInterrupts mask)
  disableInterrupts mask := record (.disableInterrupts mask)
  setInterruptPriority line priority := record (.setInterruptPriority line priority)
  setInterruptType line trigger := record (.setInterruptType line trigger)
  setInterruptThreshold threshold := record (.setInterruptThreshold threshold)
  acknowledgeEdge line := record (.acknowledgeEdge line)
  enableAllInterrupts := record .enableAllInterrupts
  chipRevision := do
    record .chipRevision
    return (← get).chipRevision
  packageVersion := do
    record .packageVersion
    return (← get).packageVersion
  waferDisabled := do
    record .waferDisabled
    return (← get).waferDisabled
  macAddress := do
    record .macAddress
    return (← get).mac
  checkSecureVersion version := do
    record (.checkSecureVersion version)
    return decide (version ≤ (← get).secureVersion)
  readFuses runs {n} buffer bits := do
    record (.readFuses runs n bits)
    keeping buffer (unlessRefused .readFuses do
      return .ok ((), Vector.ofFn fun i =>
        match runs[i.val % runs.length]? with
        | some r => UInt8.ofNat (r.block.toNat * 16 + r.firstBit.toNat + i)
        | none => buffer[i]))
  cryptCount := do
    record .cryptCount
    return (← get).cryptCount
  initWatchdog before dog prescaler interrupt := do
    record (.initWatchdog before dog prescaler interrupt)
    return ⟨dog.raw, prescaler.toUInt64 + (if interrupt then 0x100000000 else 0)⟩
  deinitWatchdog before := do
    record (.deinitWatchdog before)
    return ⟨0, 0⟩
  allocAesInterrupt := record .allocAesInterrupt
  aesCbc c mode vector {n} data := do
    record (.aesCbc c.activeKey mode vector.toList data.toList)
    return ((← get).cipherCode, loaded c, step vector n, stream c data)
  aesCfb128 c mode offset vector {n} data := do
    record (.aesCfb128 c.activeKey mode offset vector.toList data.toList)
    return ((← get).cipherCode, loaded c, advance offset n, step vector n, stream c data)
  aesCfb8 c mode vector {n} data := do
    record (.aesCfb8 c.activeKey mode vector.toList data.toList)
    return ((← get).cipherCode, loaded c, step vector n, stream c data)
  aesCtr c offset nonce block {n} data := do
    record (.aesCtr c.activeKey offset nonce.toList block.toList data.toList)
    return ((← get).cipherCode, loaded c, advance offset n, step nonce n, block.set 0 (UInt8.ofNat n),
      stream c data)
  aesEcb c mode block := do
    record (.aesEcb c.activeKey mode block.toList)
    return ((← get).cipherCode, loaded c, stream c block)
  aesOfb c offset vector {n} data := do
    record (.aesOfb c.activeKey offset vector.toList data.toList)
    return ((← get).cipherCode, loaded c, advance offset n, step vector n, stream c data)
  sha type input {n} _ := do
    record (.sha type input n)
    return ramp input.length n
  shaDma type input buffer first := do
    record (.shaDma type input buffer first)
    return (← get).digestCode.getD (Int32.ofNat (input.length + buffer.length))
  readShaState type {n} _ := do
    record (.readShaState type n)
    let saved := (← get).shaState
    return Vector.ofFn fun i => saved.getD i 0
  writeShaState type state := do
    record (.writeShaState type state)
    modify fun b => { b with shaState := state }
  beginUpdate := do
    record .beginUpdate
    unlessRefused .beginUpdate do
      modify fun b => { b with written := some 0 }
      return .ok ()
  writeUpdate offset data := do
    record (.writeUpdate offset data)
    unlessRefused .writeUpdate do
      match (← get).written with
      | none => return .error .invalidState
      | some k =>
        modify fun b => { b with written := some (k + data.length) }
        return .ok ()
  endUpdate := do
    record (.endUpdate (← get).written)
    unlessRefused .endUpdate do
      match (← get).written with
      | none => return .error .invalidState
      | some _ =>
        modify fun b => { b with written := none }
        return .ok ()
  initStorage := do
    record .initStorage
    unlessRefused .initStorage (return .ok ())
  generateKey slot kind := do
    record (.generateKey slot kind)
    unlessRefused .generateKey do
      modify fun b => { b with keys := slot :: b.keys }
      return .ok ()
  sign slot hash := do
    record (.sign slot hash)
    unlessRefused .sign (withKey slot do
      if hash.isEmpty then return .error .invalidArg
      return .ok (Vector.ofFn fun i => slotByte slot ^^^ hash.getD (i % hash.length) 0,
        Vector.replicate 32 (slotByte slot)))
  publicKey slot := do
    record (.publicKey slot)
    unlessRefused .publicKey (withKey slot
      (return .ok (Vector.replicate 32 (slotByte slot), Vector.replicate 32 (~~~ slotByte slot))))
  encrypt slot {n} data aad {k} tag := do
    record (.encrypt slot data.toList aad k)
    let r ← unlessRefused .encrypt (withKey slot (return .ok ()))
    match r with
    | .ok () =>
      let hidden := mask slot data
      return (.ok (), hidden, tagOf slot hidden.toList aad k)
    | .error e => return (.error e, data, tag)
  decrypt slot {n} data aad tag := do
    record (.decrypt slot data.toList aad tag)
    keeping data (unlessRefused .decrypt (withKey slot do
      if (tagOf slot data.toList aad tag.length).toList = tag then return .ok ((), mask slot data)
      else return .error .fail))
  isSlotEmpty slot := do
    record (.isSlotEmpty slot)
    return !(← get).hasKey slot
  clearSlot slot := do
    record (.clearSlot slot)
    unlessRefused .clearSlot do
      modify fun b => { b with keys := b.keys.filter (· != slot) }
      return .ok ()
  attest nonce client certificate {n} buffer := do
    record (.attest nonce client certificate n)
    match (← get).refusals.lookup .attest with
    | some e => return (.error e, buffer)
    | none => return writeText (token nonce client certificate) buffer

end Bench

end SecureWorld
