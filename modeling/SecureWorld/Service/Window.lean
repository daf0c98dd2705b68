import SecureWorld.Mmu.Control
import SecureWorld.Region

/-!
# Window services

Mapping, unmapping and translating addresses of the window on behalf of the open world. A request that
touches the secure region is refused before the devices are looked for, and the decision is taken twice.
-/

namespace SecureWorld

variable {σ α : Type}

/-- Go on only if a condition holds that was found to hold before. -/
def assertHolds (check : String) (holds : Bool) : Service σ Unit :=
  if holds then return () else Service.fault (.checkFailed check)

namespace Boundary

/-- Whether a window address is one of the secure region. -/
def inWindow (addr : UInt32) : Service σ Bool := do
  return (← secureRegion).window.contains ⟨addr⟩

/-- Whether a physical address is one of the secure region. -/
def inFlash (addr : UInt32) : Service σ Bool := do
  return (← secureRegion).flash.contains ⟨addr⟩

/-- Log a request that touches the secure region. -/
def judge (touches : Bool) (v : Violation) : Service σ (Except Violation Unit) :=
  if touches then do
    log .warn "tee_services" v.message
    return .error v
  else return .ok ()

/-- Whether a window span stays clear of the secure region. -/
def checkWindow (addr len : UInt32) : Service σ (Except Violation Unit) := do
  let b ← secureRegion
  judge (b.window.touches ⟨addr⟩ len) (.window ⟨addr⟩)

/-- Whether a physical span stays clear of the secure region. -/
def checkFlash (addr len : UInt32) : Service σ (Except Violation Unit) := do
  let b ← secureRegion
  judge (b.flash.touches ⟨addr⟩ len) (.flash ⟨addr⟩)

/-- Refuse a request that failed a check, and look at the outcome once more before going on. -/
def enforce (check : String) (r : Except Violation Unit) : Service σ Unit := do
  if let .error v := r then Service.refuse (.ofViolation v)
  assertHolds check r.isOk

end Boundary

namespace Window

open Service Boundary

/-- The target that a word names. -/
def target (w : Word) : Service σ Mmu.Target := validArg (Mmu.Target.ofRaw? w.toUInt32)

/-- The bus that a word names. -/
def bus (w : Word) : Service σ Mmu.Bus := validArg (Mmu.Bus.ofRaw? w.toUInt32)

/-- Run an operation on the table, which only installed devices have. -/
def control (x : Mmu.Control σ α) : Service σ α := do
  requirePlatform
  EStateM.adaptExcept (Stop.map ServiceError.ofMmu) x

/-- Map a region and write the number of bytes mapped. -/
def map (id kind vaddr paddr len out : Word) : Secure σ Word :=
  answer (do
    let t ← target kind
    let out ← Region.single out
    let v ← checkWindow vaddr.toUInt32 len.toUInt32
    let p ← checkFlash paddr.toUInt32 len.toUInt32
    enforce "vaddr_chk.is_ok() && paddr_chk.is_ok()" (v.bind fun () => p)
    let bytes ← control (.map id.toUInt32 t ⟨vaddr.toUInt32⟩ ⟨paddr.toUInt32⟩ len.toUInt32)
    out.storeSingle bytes)
    (fun () => 0) ServiceError.word

/-- Unmap a region of the window. -/
def unmap (id vaddr len : Word) : Secure σ Word :=
  answer (do
    let v ← checkWindow vaddr.toUInt32 len.toUInt32
    enforce "vaddr_chk.is_ok()" v
    control (.unmap id.toUInt32 ⟨vaddr.toUInt32⟩ len.toUInt32))
    (fun () => 0) ServiceError.word

/-- Write the physical address behind a window address, and after it the number of its target. -/
def toPhysical (id vaddr outAddr outTarget : Word) : Secure σ Word :=
  answer (do
    let outAddr ← Region.single outAddr
    let outTarget ← Region.single outTarget
    let v ← checkWindow vaddr.toUInt32 0
    enforce "vaddr_chk.is_ok()" v
    let (p, t) ← control (.toPhysical id.toUInt32 ⟨vaddr.toUInt32⟩)
    outAddr.storeSingle p.value
    outTarget.storeSingle t.raw)
    (fun () => 1) fun _ => 0

/-- Write the lowest window address of a physical address. -/
def toVirtual (id paddr kind side out : Word) : Secure σ Word :=
  answer (do
    let t ← target kind
    let b ← bus side
    let out ← Region.single out
    let p ← checkFlash paddr.toUInt32 0
    enforce "paddr_chk.is_ok()" p
    let v ← control (.toVirtual id.toUInt32 ⟨paddr.toUInt32⟩ t b)
    out.storeSingle v.value)
    (fun () => 1) fun _ => 0

end Window

end SecureWorld
