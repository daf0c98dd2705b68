import SecureWorld.Device.Drivers
import SecureWorld.Region

/-!
# Watchdog services

A watchdog is set up through a context in open memory: a 32-bit number, four bytes that are never written,
and a word.
-/

namespace SecureWorld.WatchdogService

variable {σ : Type} (D : Drivers σ)

open Service

/-- The context at the start of a region. -/
def load (r : Region) : Service σ WatchdogContext := do
  let m := (← get).memory
  return ⟨UInt32.ofNat (m.readNat r.addr.toNat 4), UInt64.ofNat (m.readNat (r.addr.toNat + 8) 8)⟩

/-- Write a context, the four bytes between its fields apart. -/
def store (r : Region) (c : WatchdogContext) : Service σ Unit := do
  r.storeSingle c.inst
  Region.storeWord ⟨r.addr + 8, 8⟩ c.dev

/-- Claim a context. -/
def context (addr : Word) : Service σ Region := Region.claim addr 16 8

/-- Set up a watchdog, and write its context. -/
def init (hal inst prescaler interrupt : Word) : Secure σ Word :=
  status do
    let dog ← validArg (Watchdog.ofRaw? inst.toUInt32)
    let r ← context hal
    let c ← device (D.initWatchdog (← load r) dog prescaler.toUInt32 interrupt.toBool)
    store r c

/-- Take a watchdog down, and write its context. -/
def deinit (hal : Word) : Secure σ Word :=
  status do
    let r ← context hal
    let c ← device (D.deinitWatchdog (← load r))
    store r c

end SecureWorld.WatchdogService
