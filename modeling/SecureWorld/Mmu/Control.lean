import SecureWorld.Machine

/-!
# Control of the window

The operations on the table of a machine. A change of the table is logged.
-/

namespace SecureWorld.Mmu

variable {σ α : Type}

/-- Actions on the table of a machine. -/
abbrev Control (σ : Type) := EStateM (Stop MmuError) (Machine σ)

namespace Control

/-- Go on with the outcome of an operation on a table. -/
def ofExcept : Except (Stop MmuError) α → Control σ α
  | .ok a => pure a
  | .error e => throw e

/-- Replace the table. -/
def setTable (t : Table) : Control σ Unit :=
  modify fun m => { m with table := t }

/-- Map a physical region into the window; the answer is the number of bytes mapped. -/
def map (id : UInt32) (target : Target) (v : VirtualAddress) (p : PhysicalAddress) (len : UInt32) :
    Control σ UInt32 := do
  let (bytes, t) ← ofExcept ((← get).table.map id target v p len)
  setTable t
  log .debug "tee_mmu" ("map " ++ v.render ++ " -> " ++ p.render ++ " (" ++ target.name ++ "), "
    ++ Hex.lower bytes.toNat ++ " bytes")
  return bytes

/-- Clear the entries of a window region. -/
def unmap (id : UInt32) (v : VirtualAddress) (len : UInt32) : Control σ Unit := do
  let (count, t) ← ofExcept ((← get).table.unmap id v len)
  setTable t
  log .debug "tee_mmu" ("unmap " ++ v.render ++ ", " ++ toString count ++ " pages")

/-- Clear every entry. -/
def unmapAll : Control σ Unit :=
  modify fun m => { m with table := m.table.unmapAll }

/-- The physical address and the target behind a window address. -/
def toPhysical (id : UInt32) (v : VirtualAddress) : Control σ (PhysicalAddress × Target) := do
  ofExcept ((← get).table.toPhysical id v)

/-- The lowest window address of a physical address. -/
def toVirtual (id : UInt32) (p : PhysicalAddress) (target : Target) (bus : Bus) :
    Control σ VirtualAddress := do
  ofExcept ((← get).table.toVirtual id p target bus)

end Control

end SecureWorld.Mmu
