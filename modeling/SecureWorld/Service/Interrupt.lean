import SecureWorld.Device.Drivers
import SecureWorld.Machine

/-!
# Interrupt services

The interrupt matrix and the interrupt controller, driven with numbers alone.
-/

namespace SecureWorld.Interrupt

variable {σ : Type} (D : Drivers σ)

open Service

/-- Connect an interrupt source to an interrupt line of a core. -/
def route (cpu source line : Word) : Secure σ Word :=
  status (device (D.routeInterrupt cpu.toCode source.toUInt32 line.toUInt32))

/-- Enable the interrupts of a mask. -/
def enable (mask : Word) : Secure σ Word :=
  status (device (D.enableInterrupts mask.toUInt32))

/-- Disable the interrupts of a mask. -/
def disable (mask : Word) : Secure σ Word :=
  status (device (D.disableInterrupts mask.toUInt32))

/-- Set the priority of a line. -/
def setPriority (line priority : Word) : Secure σ Word :=
  status (device (D.setInterruptPriority line.toCode priority.toUInt32))

/-- Set what triggers a line. -/
def setType (line trigger : Word) : Secure σ Word :=
  status do
    let t ← validArg (Trigger.ofRaw? trigger.toUInt32)
    device (D.setInterruptType line.toCode t)

/-- Set the threshold that priorities have to pass. -/
def setThreshold (threshold : Word) : Secure σ Word :=
  status (device (D.setInterruptThreshold threshold.toCode))

/-- Acknowledge the edge of a line. -/
def acknowledgeEdge (line : Word) : Secure σ Word :=
  status (device (D.acknowledgeEdge line.toUInt32))

/-- Enable all interrupts. -/
def enableAll : Secure σ Word :=
  status (device D.enableAllInterrupts)

end SecureWorld.Interrupt
