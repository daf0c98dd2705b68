import SecureWorld.Call.Dispatch

/-!
# The open side

How the open world calls the services: the words of a call go through a gate, pointers to results point into
the caller's own frame, and some calls are made with interrupts masked.
-/

namespace SecureWorld

variable {σ α : Type}

/-- A way into the secure world. -/
structure Gate (σ : Type) where
  /-- Pass the words of a call and get its answer. -/
  enter : List Word → Secure σ Word
  /-- Mask the interrupts whose handlers live in flash. -/
  disable : Secure σ Unit
  enable : Secure σ Unit
  /-- The address of the caller's own variables. -/
  frame : Word

/-- A service answered a code other than zero. -/
structure ServiceFailed where
  code : Int32
deriving DecidableEq

/-- The words in which the open side learns of a failure. -/
def ServiceFailed.message (e : ServiceFailed) : String :=
  "secure service failed with " ++ Hex.lower e.code.toUInt32.toNat

/-- A call that answers a code succeeded if the code is zero. -/
def ServiceFailed.check (w : Word) : Except ServiceFailed Unit :=
  if w.toCode = 0 then .ok () else .error ⟨w.toCode⟩

/-- Actions of the open world that may find a service failed. -/
abbrev Client (σ : Type) := EStateM (Stop ServiceFailed) (Machine σ)

namespace Client

/-- An action that cannot find a service failed. -/
def ofSecure (x : Secure σ α) : Client σ α := EStateM.adaptExcept Stop.fault x

/-- Go on only if a call succeeded. -/
def check (w : Word) : Client σ Unit :=
  match ServiceFailed.check w with
  | .ok () => pure ()
  | .error e => throw (.refused e)

end Client

namespace Gate

variable (g : Gate σ)

/-- Call a service. A call with too many words is answered without entering the gate. -/
def call (s : ServiceId) (args : List Word) : Secure σ Word :=
  if maxCallWords < args.length + 1 then do
    log .warn "tee_client" (s.name ++ " takes at most " ++ toString maxCallWords ++ " words, got "
      ++ toString (args.length + 1))
    return Word.callFailed
  else g.enter (UInt64.ofNat s.number :: args)

/-- Run an action with interrupts masked; they come back even if the action halts. -/
def masked (x : Secure σ α) : Secure σ α := do
  g.disable
  let a ← tryCatch x fun f => do
    g.enable
    throw f
  g.enable
  return a

/-- Call a service with interrupts masked. -/
def callMasked (s : ServiceId) (args : List Word) : Secure σ Word :=
  g.masked (g.call s args)

/-- The address of one of the caller's own 32-bit variables. -/
def slot (i : Nat) : Word := g.frame + UInt64.ofNat (4 * i)

/-- Set one of the caller's own variables. -/
def setSlot (i : Nat) (w : UInt32) : Secure σ Unit :=
  modify fun m => { m with memory := m.memory.writeList (g.slot i).toNat (Bytes.ofNat 4 w.toNat) }

/-- The value of one of the caller's own variables. -/
def getSlot (i : Nat) : Secure σ UInt32 :=
  return UInt32.ofNat ((← get).memory.readNat (g.slot i).toNat 4)

/-- Call the service that does nothing. -/
def dummy : Secure σ Unit := do
  let _ ← g.call .dummy []

/-- Let the service add two numbers. -/
def add (a b : UInt32) : Secure σ UInt32 :=
  return (← g.call .add [a.toUInt64, b.toUInt64]).toUInt32

/-- Let the service subtract the second of two numbers from the first one. -/
def subtract (a b : UInt32) : Secure σ UInt32 :=
  return (← g.call .subtract [a.toUInt64, b.toUInt64]).toUInt32

/-- Let the service multiply two numbers. -/
def multiply (a b : UInt32) : Secure σ UInt32 :=
  return (← g.call .multiply [a.toUInt64, b.toUInt64]).toUInt32

/-- Let the service divide the first number by the second one. -/
def divide (a b : UInt32) : Secure σ UInt32 :=
  return (← g.call .divide [a.toUInt64, b.toUInt64]).toUInt32

/-- Add a number as many times as told, one call each. -/
def addRepeatedly (a b : UInt32) : Nat → Secure σ UInt32
  | 0 => return a
  | n + 1 => do addRepeatedly (← g.add a b) b n

/-- Have a token written to a buffer; the answer is its length. -/
def attest (nonce client : UInt32) (certificate buffer size : Word) : Client σ UInt32 := do
  .ofSecure (g.setSlot 0 0)
  let ret ← .ofSecure (g.callMasked .attest
    [nonce.toUInt64, client.toUInt64, certificate, buffer, size, g.slot 0])
  .check ret
  .ofSecure (g.getSlot 0)

/-- Map a region of flash; the answer is the number of bytes mapped. -/
def mapRegion (vaddr paddr len : UInt32) : Client σ UInt32 := do
  .ofSecure (g.setSlot 0 0)
  let ret ← .ofSecure (g.call .mapRegion
    [0, 1, vaddr.toUInt64, paddr.toUInt64, len.toUInt64, g.slot 0])
  .check ret
  .ofSecure (g.getSlot 0)

/-- Ask to unmap a region. -/
def unmapRegion (vaddr len : UInt32) : Client σ Unit := do
  .check (← .ofSecure (g.call .unmapRegion [0, vaddr.toUInt64, len.toUInt64]))

/-- The physical address behind a window address. -/
def toPhysical (vaddr : UInt32) : Secure σ (Option UInt32) := do
  g.setSlot 0 0
  g.setSlot 1 0
  let found ← g.call .toPhysical [0, vaddr.toUInt64, g.slot 0, g.slot 1]
  if found = 1 then return some (← g.getSlot 0) else return none

/-- Write the chunks of an image, each at the sum of the lengths before it. -/
def writeChunks (offset : Word) : List Region → Client σ Unit
  | [] => return ()
  | c :: cs => do
    .check (← .ofSecure (g.call .writeUpdate [offset, c.addr, c.len]))
    writeChunks (← .ofSecure (.ofExcept (Word.plus offset c.len))) cs

/-- Update the secure partition with an image that lies in memory in chunks. -/
def update (chunks : List Region) : Client σ Unit := do
  .check (← .ofSecure (g.call .beginUpdate []))
  g.writeChunks 0 chunks
  .check (← .ofSecure (g.call .endUpdate []))

end Gate

/-- The memory of a caller that has put the words of a call at an address. -/
def callerMemory (address : Word) (words : List Word) : Memory :=
  Memory.zero.writeList address.toNat (words.flatMap fun w => Bytes.ofNat 8 w.toNat)

/-- The gate of a caller that puts the words of its calls at an address and enters the dispatcher. -/
def Gate.direct (D : Drivers σ) (address frame : Word) : Gate σ where
  enter words := SecureWorld.enter D (UInt64.ofNat words.length) (callerMemory address words) address
  disable := pure ()
  enable := pure ()
  frame := frame

end SecureWorld
