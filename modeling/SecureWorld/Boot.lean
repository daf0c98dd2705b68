import SecureWorld.Machine

/-!
# Boot

The logger, the secure region and the devices are installed once each. Booting installs all three in this
order and stops at the first that had been installed before.
-/

namespace SecureWorld

variable {σ : Type}

/-- Why booting stops. -/
inductive BootError where
  | logger
  | region (cause : RegionError)
  | platform
deriving DecidableEq, Repr

/-- The words in which a boot is refused. -/
def BootError.message : BootError → String
  | .logger => "a logger is already installed"
  | .region cause => cause.message
  | .platform => "a platform is already installed"

namespace Machine

/-- Install a logger, if there is none. -/
def installLogger (m : Machine σ) (f : Log.Filter) : Option (Machine σ) :=
  match m.logger with
  | none => some { m with logger := some f }
  | some _ => none

/-- Install the devices, if they are not installed. -/
def installPlatform (m : Machine σ) : Option (Machine σ) :=
  if m.platform then none else some { m with platform := true }

/-- Fix the secure region, if nothing has fixed it; its ends have to be bases of pages. -/
def installRegion (m : Machine σ) (b : Bounds) : Except RegionError (Machine σ) :=
  if !b.aligned then .error (.unaligned b)
  else
    match m.region with
    | none => .ok { m with region := some b }
    | some _ => .error (.alreadyFixed b)

end Machine

/-- Boot with a log filter and, unless the layout is to be kept, with the bounds of the secure region. -/
def boot (f : Log.Filter) (region : Option Bounds) : EStateM BootError (Machine σ) Unit := do
  match (← get).installLogger f with
  | none => throw .logger
  | some m => set m
  let b := region.getD .ofLayout
  match (← get).installRegion b with
  | .error e => throw (.region e)
  | .ok m => set m
  match (← get).installPlatform with
  | none => throw .platform
  | some m => set m
  log .info "tee_services" ("secure services ready, secure flash " ++ b.flash.render ++ " mapped at "
    ++ b.window.render)

end SecureWorld
