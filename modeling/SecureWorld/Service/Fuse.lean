import SecureWorld.Device.Drivers
import SecureWorld.Region

/-!
# Fuse services

The bits burnt into the chip. A caller may read a field that it describes by a list of pointers to
descriptors, ended by a zero; blocks that hold keys are refused and the destination may not share a byte with
the list or with a descriptor.
-/

namespace SecureWorld.Fuse

variable {σ : Type} (D : Drivers σ)

open Service

/-- Read the revision of the chip. -/
def chipRevision : Secure σ Word :=
  value do return (← device D.chipRevision).toUInt64

/-- Read the version of the package. -/
def packageVersion : Secure σ Word :=
  value do return (← device D.packageVersion).toUInt64

/-- Ask whether the major version of the wafer is disabled. -/
def waferDisabled : Secure σ Word :=
  flag (device D.waferDisabled)

/-- Write the hardware address to memory. -/
def macAddress (out : Word) : Secure σ Word :=
  status do
    let r ← Region.bytes out 6
    let mac ← device D.macAddress
    r.store mac

/-- Ask whether a secure version may be booted. -/
def checkSecureVersion (version : Word) : Secure σ Word :=
  flag (device (D.checkSecureVersion version.toUInt32))

/-- Refuse a request if a region shares a byte with the destination. -/
def ensureApart (r dst : Region) : Service σ Unit := do
  if ← ofExcept (r.overlaps dst) then refuse .invalidArg

/-- The descriptor at an address, which must not name a block of keys. -/
def descriptor (dst : Region) (addr : Word) : Service σ FuseRun := do
  let r ← Region.claim addr 4 2
  ensureApart r dst
  let run := FuseRun.ofBytes (← r.loadFixed 4)
  if FuseRun.firstKeyBlock ≤ run.block then
    log .warn "tee_services" ("eFuse read from key block " ++ toString run.block.toNat ++ " refused")
    refuse .invalidArg
  return run

/-- The address of a slot of a pointer list. -/
def slotAddress (field : Word) (index : Nat) : Option Word := do
  let off ← Word.times? (UInt64.ofNat index) Word.bytes
  Word.plus? field off

/-- The descriptors of a pointer list from the slot of an index on. At most `budget` slots are left to look
at; a list that goes on beyond them is refused. -/
def descriptors (field : Word) (dst : Region) : (budget : Nat) → (index : Nat) → Service σ (List FuseRun)
  | 0, _ => refuse .invalidArg
  | budget + 1, index => do
    let slot ← Region.word (← validArg (slotAddress field index))
    ensureApart slot dst
    let addr := UInt64.ofNat (← slot.loadNat)
    if addr = 0 then return []
    let run ← descriptor dst addr
    return run :: (← descriptors field dst budget (index + 1))

/-- Read the field of a list of descriptors into memory. -/
def readField (field dst bits : Word) : Secure σ Word :=
  status do
    let out ← Region.bytes dst (UInt64.ofNat ((bits.toNat + 7) / 8))
    let runs ← descriptors field out FuseRun.maxCount 0
    if runs.isEmpty then refuse .invalidArg
    let (result, v) ← device (D.readFuses runs (← out.load) bits)
    out.store v
    match result with
    | .ok () => return ()
    | .error e => refuse e

/-- Whether the number of bits set in the encryption counter is odd. -/
def flashEncrypted : Secure σ Word :=
  flag do
    let n ← device D.cryptCount
    return (List.range 32).countP (fun i => n.toNat.testBit i) % 2 == 1

end SecureWorld.Fuse
