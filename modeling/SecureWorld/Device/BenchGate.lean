import SecureWorld.Client
import SecureWorld.Device.Bench

/-!
# Gates of the bench

Gates that record what passes them. One enters the dispatcher over the drivers of the bench, the other
answers from a script.
-/

namespace SecureWorld.Bench

/-- Record what passes a gate. -/
def cross (c : Crossing) : Secure Bench Unit :=
  modify fun m => { m with devices := { m.devices with crossings := c :: m.devices.crossings } }

/-- The next answer of the script, zero when it is used up. -/
def reply : Secure Bench Word :=
  modifyGet fun m =>
    (m.devices.replies.headD 0, { m with devices := { m.devices with replies := m.devices.replies.tail } })

/-- Where the callers of the bench keep the words of their calls and their own variables. -/
def wordsAddress : Word := 0x10000

/-- Where the frame of a call is put in memory. -/
def frameAddress : Word := 0x7FFC00000000

/-- A gate whose calls are answered by `enter`. -/
def gate (enter : List Word → Secure Bench Word) : Gate Bench where
  enter words := do
    cross (.call words)
    enter words
  disable := cross .masked
  enable := cross .unmasked
  frame := frameAddress

/-- The gate into the dispatcher. -/
def liveGate : Gate Bench :=
  gate (Gate.direct drivers wordsAddress frameAddress).enter

/-- The gate that answers from the script. -/
def scriptedGate : Gate Bench :=
  gate fun _ => reply

end SecureWorld.Bench
