import SecureWorld.Console
import SecureWorld.Memory
import SecureWorld.Service.Error

/-!
# The machine

All that a call can change: the memory, the table of the window, the secure region once it is fixed, the
console, and the state of the devices. `Secure` are the actions that answer or halt, `Service` those that may
refuse as well.
-/

namespace SecureWorld

/-- The state of the secure world over devices with states in `σ`. -/
structure Machine (σ : Type) where
  memory : Memory
  table : Mmu.Table
  /-- The bounds of the secure region, once something has fixed them. -/
  region : Option Bounds
  /-- Whether the devices have been installed. -/
  platform : Bool
  /-- The filter of the installed logger. -/
  logger : Option Log.Filter
  console : Console
  devices : σ

/-- The machine before anything was installed. -/
def Machine.powerUp {σ : Type} (devices : σ) : Machine σ where
  memory := .zero
  table := .empty
  region := none
  platform := false
  logger := none
  console := .empty
  devices := devices

/-- Actions that answer or halt. -/
abbrev Secure (σ : Type) := EStateM Fault (Machine σ)

/-- Actions that answer, refuse or halt. -/
abbrev Service (σ : Type) := EStateM (Stop ServiceError) (Machine σ)

variable {σ ε α : Type}

namespace Machine

/-- Write a record to the console, if a logger is installed and lets it through. -/
def log (m : Machine σ) (r : Log.Record) : Machine σ :=
  match m.logger with
  | none => m
  | some f => { m with console := m.console.log f r }

/-- The bounds in force: those that are fixed, or else those of the layout. -/
def bounds (m : Machine σ) : Bounds := m.region.getD .ofLayout

/-- The machine after something has consulted the secure region. -/
def fixRegion (m : Machine σ) : Machine σ := { m with region := some m.bounds }

section Log

variable (m : Machine σ) (r : Log.Record)

@[simp] theorem memory_log : (m.log r).memory = m.memory := by
  unfold log; split <;> rfl

@[simp] theorem table_log : (m.log r).table = m.table := by
  unfold log; split <;> rfl

@[simp] theorem region_log : (m.log r).region = m.region := by
  unfold log; split <;> rfl

@[simp] theorem platform_log : (m.log r).platform = m.platform := by
  unfold log; split <;> rfl

@[simp] theorem devices_log : (m.log r).devices = m.devices := by
  unfold log; split <;> rfl

@[simp] theorem bounds_log : (m.log r).bounds = m.bounds := by
  rw [bounds, region_log]; rfl

end Log

end Machine

/-- Log a record. -/
def log (level : Log.Level) (target message : String) : EStateM ε (Machine σ) Unit :=
  modify fun m => m.log ⟨level, target, message⟩

/-- The bounds of the secure region, which are fixed from now on. -/
def secureRegion : EStateM ε (Machine σ) Bounds := do
  modify Machine.fixRegion
  return (← get).bounds

namespace Secure

/-- Halt the call. -/
def fault (f : Fault) : Secure σ α := throw f

/-- Go on with a value or halt the call. -/
def ofExcept : Except Fault α → Secure σ α
  | .ok a => pure a
  | .error f => fault f

end Secure

namespace Service

/-- Refuse the request. -/
def refuse (e : ServiceError) : Service σ α := throw (.refused e)

/-- Halt the call. -/
def fault (f : Fault) : Service σ α := throw (.fault f)

/-- Go on with a value or halt the call. -/
def ofExcept : Except Fault α → Service σ α
  | .ok a => pure a
  | .error f => fault f

/-- Go on with a value or refuse the request as an invalid argument. -/
def validArg : Option α → Service σ α
  | some a => pure a
  | none => refuse .invalidArg

/-- The answer of a request: a word for its value, a word for its refusal. -/
def answer (x : Service σ α) (value : α → Word) (refusal : ServiceError → Word) : Secure σ Word :=
  fun m =>
    match x m with
    | .ok a m' => .ok (value a) m'
    | .error (.refused e) m' => .ok (refusal e) m'
    | .error (.fault f) m' => .error f m'

/-- Refuse the request unless the devices are installed. -/
def requirePlatform : Service σ Unit := do
  if (← get).platform then return () else refuse .invalidState

/-- The answer zero, or the code of the refusal. -/
def status (x : Service σ Unit) : Secure σ Word :=
  answer (do requirePlatform; x) (fun () => 0) ServiceError.word

/-- The answer of a value, or zero if there are no devices. -/
def value (x : Service σ Word) : Secure σ Word :=
  answer (do requirePlatform; x) id fun _ => 0

/-- The answer of a truth value, false for a refusal. -/
def flag (x : Service σ Bool) : Secure σ Word :=
  answer (do requirePlatform; x) Word.ofBool fun _ => 0

/-- The answer of a driver's code, or the code of the refusal. -/
def driverCode (x : Service σ Int32) : Secure σ Word :=
  answer (do requirePlatform; x) Word.ofCode ServiceError.word

/-- Run an action of the devices. -/
def device (x : StateM σ α) : Service σ α :=
  modifyGet fun m =>
    match x m.devices with
    | (a, d) => (a, { m with devices := d })

/-- Run an action of the devices that may refuse. -/
def device? (x : StateM σ (Except ServiceError α)) : Service σ α := do
  match ← device x with
  | .ok a => return a
  | .error e => refuse e

end Service

end SecureWorld
