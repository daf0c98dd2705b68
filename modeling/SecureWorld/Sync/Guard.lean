/-!
# Interrupt guards and locks

A guard is a loan: of the right to be interrupted, of a lock, or of both, and releasing it gives back what
was taken. `State.step?` is one operation of a single thread on a collection of numbered locks and named
guards; it is undefined where the thread would wait for itself for ever.
-/

namespace SecureWorld.Sync

/-- What a live guard has to give back when it is released. -/
inductive Guard where
  /-- Interrupts are masked; they come back if they were enabled before. -/
  | interrupts (wereEnabled : Bool)
  /-- A lock is held. -/
  | lock (lock : Nat)
  /-- A lock is held and interrupts are masked; the lock is given back first. -/
  | maskedLock (lock : Nat) (wereEnabled : Bool)
deriving DecidableEq, Repr

namespace Guard

/-- The lock that a guard holds, if it holds one. -/
def lock? : Guard → Option Nat
  | .interrupts _ => none
  | .lock l => some l
  | .maskedLock l _ => some l

/-- Whether a guard reports that interrupts were enabled before it masked them. -/
def reportsEnabled : Guard → Bool
  | .interrupts b => b
  | .lock _ => false
  | .maskedLock _ b => b

/-- Whether interrupts are to stay masked while a guard lives. -/
def masks : Guard → Bool
  | .lock _ => false
  | _ => true

end Guard

/-- The interrupt switch, the locks with the numbers they protect, and the live guards by name. -/
structure State where
  enabled : Bool
  held : Nat → Bool
  value : Nat → UInt32
  guards : List (Nat × Guard)

/-- Every lock is free and nothing is guarded. -/
def State.initial (enabled : Bool) : State :=
  ⟨enabled, fun _ => false, fun _ => 0, []⟩

/-- An operation of the thread; a guard is named when it is taken. -/
inductive Op where
  | mask (name : Nat)
  | lock (name lock : Nat)
  | maskAndLock (name lock : Nat)
  | tryLock (name lock : Nat)
  | add (name : Nat) (amount : UInt32)
  | read (name : Nat)
  | release (name : Nat)
deriving DecidableEq, Repr

/-- What an operation answers. -/
inductive Answer where
  | done
  | wereEnabled (b : Bool)
  | got (b : Bool)
  /-- The number behind a lock guard, if there is a guard and if it holds a lock. -/
  | value (v : Option (Option UInt32))
deriving DecidableEq, Repr

namespace State

/-- The live guard of a name. -/
def guard? (s : State) (name : Nat) : Option Guard :=
  s.guards.lookup name

/-- Add a live guard. -/
def take (s : State) (name : Nat) (g : Guard) : State :=
  { s with guards := (name, g) :: s.guards }

/-- Mask interrupts. -/
def disable (s : State) : State :=
  { s with enabled := false }

/-- Enable interrupts if they were enabled before. -/
def restore (s : State) (wereEnabled : Bool) : State :=
  { s with enabled := s.enabled || wereEnabled }

/-- Mark a lock as held or free. -/
def setHeld (s : State) (l : Nat) (b : Bool) : State :=
  { s with held := fun k => if k = l then b else s.held k }

/-- Give back what a guard took: the lock first, the interrupts after it. -/
def giveBack (s : State) : Guard → State
  | .interrupts b => s.restore b
  | .lock l => s.setHeld l false
  | .maskedLock l b => (s.setHeld l false).restore b

/-- The guards without the one of a name. -/
def dropName (name : Nat) : List (Nat × Guard) → List (Nat × Guard)
  | [] => []
  | (n, g) :: rest => if n = name then rest else (n, g) :: dropName name rest

/-- Release the guard of a name, if there is one. -/
def release (s : State) (name : Nat) : State :=
  match s.guard? name with
  | none => s
  | some g => ({ s with guards := dropName name s.guards }).giveBack g

/-- One operation. A lock that is held can be tried but not waited for. -/
def step? (s : State) : Op → Option (Answer × State)
  | .mask n => some (.wereEnabled s.enabled, s.disable.take n (.interrupts s.enabled))
  | .lock n l =>
    if s.held l then none else some (.done, (s.setHeld l true).take n (.lock l))
  | .maskAndLock n l =>
    if s.held l then none
    else some (.done, (s.disable.setHeld l true).take n (.maskedLock l s.enabled))
  | .tryLock n l =>
    if s.held l then some (.got false, s)
    else some (.got true, (s.setHeld l true).take n (.lock l))
  | .add n v =>
    match (s.guard? n).bind Guard.lock? with
    | none => some (.done, s)
    | some l => some (.done, { s with value := fun k => if k = l then s.value k + v else s.value k })
  | .read n => some (.value ((s.guard? n).map fun g => g.lock?.map s.value), s)
  | .release n => some (.done, s.release n)

end State

end SecureWorld.Sync
