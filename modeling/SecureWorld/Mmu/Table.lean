import SecureWorld.Layout
import SecureWorld.Mmu.Entry

/-!
# The table of the window

One entry for every page of the window. A region is mapped or unmapped as a run of entries, and an address
is translated forward through the entry of its page and backward by the first entry that selects its page.
-/

namespace SecureWorld.Mmu

/-- Why an operation on the table is refused. -/
inductive MmuError where
  | unsupportedId (id : UInt32)
  | unaligned (addr : UInt32)
  | zeroLength
  | outOfWindow (vaddr len : UInt32)
  | outOfRange (paddr len : UInt32)
  | notMapped (addr : UInt32)
deriving DecidableEq, Repr

namespace MmuError

/-- The words in which an operation is refused. -/
def message : MmuError → String
  | .unsupportedId id => "unsupported MMU id " ++ toString id.toNat
  | .unaligned a => "address " ++ Hex.lower8 a.toNat ++ " is not page aligned"
  | .zeroLength => "zero-length region"
  | .outOfWindow a n =>
    "virtual region at " ++ Hex.lower8 a.toNat ++ " (+" ++ Hex.lower n.toNat ++ ") leaves the MMU window"
  | .outOfRange a n =>
    "physical region at " ++ Hex.lower8 a.toNat ++ " (+" ++ Hex.lower n.toNat
      ++ ") exceeds the target memory"
  | .notMapped a => "address " ++ Hex.lower8 a.toNat ++ " is not mapped"

end MmuError

/-- The entries of the window, by page. -/
abbrev Table := Vector Entry Layout.windowPages

/-- The only table there is. -/
def tableId : UInt32 := 0

/-- The end of the memory of a target; a page number of nine bits reaches the end of external memory. -/
def Target.limit : Target → Nat
  | .flash => Layout.flashSize.toNat
  | .psram => 512 * Layout.pageBytes.toNat

/-- The index of the entry that translates a window address. -/
def entryIndex? (v : VirtualAddress) : Option Nat :=
  if v.value < Layout.windowBase ∨ Layout.windowEnd ≤ v.value then none
  else some ((v.toNat - Layout.windowBase.toNat) / Layout.pageBytes.toNat)

/-- A number of bytes in whole pages, rounded up. -/
def pageCount (len : UInt32) : Nat :=
  (len.toNat + (Layout.pageBytes.toNat - 1)) / Layout.pageBytes.toNat

/-- A request names the table that there is. -/
def checkId (id : UInt32) : Except MmuError Unit :=
  if id = tableId then .ok () else .error (.unsupportedId id)

/-- The first entry and the number of entries that cover a window region. -/
def windowRun (v : VirtualAddress) (len : UInt32) : Except MmuError (Nat × Nat) :=
  if len = 0 then .error .zeroLength
  else if ¬ v.Aligned .k64 then .error (.unaligned v.value)
  else
    match entryIndex? v with
    | none => .error (.outOfWindow v.value len)
    | some first =>
      if Layout.windowEnd.toNat < v.toNat + len.toNat then .error (.outOfWindow v.value len)
      else .ok (first, pageCount len)

/-- A physical region starts at a page and ends within the memory of its target. -/
def checkPhysical (t : Target) (p : PhysicalAddress) (len : UInt32) : Except MmuError Unit :=
  if ¬ p.Aligned .k64 then .error (.unaligned p.value)
  else if t.limit < p.toNat + len.toNat then .error (.outOfRange p.value len)
  else .ok ()

/-- The entries that select `count` consecutive pages of a target. -/
def mappings (first : Nat) (t : Target) (count : Nat) : Except Fault (List Entry) :=
  (List.range count).mapM fun i => Entry.mapping (Page.ofNumber (first + i)) t

/-- A refusal among the stops of an operation. -/
def refusing {α : Type} : Except MmuError α → Except (Stop MmuError) α
  | .ok a => .ok a
  | .error e => .error (.refused e)

/-- A fault among the stops of an operation. -/
def faulting {α : Type} : Except Fault α → Except (Stop MmuError) α
  | .ok a => .ok a
  | .error f => .error (.fault f)

namespace Table

/-- A table without an entry in use. -/
def empty : Table := Vector.replicate _ Entry.unused

/-- The table with a run of entries written from an index on. -/
def writeRun (t : Table) (i : Nat) : List Entry → Table
  | [] => t
  | e :: es => writeRun (t.setIfInBounds i e) (i + 1) es

/-- Map a physical region into the window: the number of bytes mapped, in whole pages, and the new table. -/
def map (t : Table) (id : UInt32) (target : Target) (v : VirtualAddress) (p : PhysicalAddress)
    (len : UInt32) : Except (Stop MmuError) (UInt32 × Table) := do
  refusing (checkId id)
  let (first, count) ← refusing (windowRun v len)
  refusing (checkPhysical target p len)
  let entries ← faulting (mappings (p.page .k64).number target count)
  return (UInt32.ofNat (count * Layout.pageBytes.toNat), t.writeRun first entries)

/-- Clear the entries of a window region: their number and the new table. -/
def unmap (t : Table) (id : UInt32) (v : VirtualAddress) (len : UInt32) :
    Except (Stop MmuError) (Nat × Table) := do
  refusing (checkId id)
  let (first, count) ← refusing (windowRun v len)
  return (count, t.writeRun first (List.replicate count .unused))

/-- Clear every entry. -/
def unmapAll (t : Table) : Table :=
  t.writeRun 0 (List.replicate Layout.windowPages .unused)

/-- The physical address and the target behind a window address. -/
def toPhysical (t : Table) (id : UInt32) (v : VirtualAddress) :
    Except (Stop MmuError) (PhysicalAddress × Target) := do
  refusing (checkId id)
  match entryIndex? v with
  | none => .error (.refused (.outOfWindow v.value 0))
  | some i =>
    match t[i]?.bind Entry.selected? with
    | none => .error (.refused (.notMapped v.value))
    | some (target, page) => return (page.join (v.offset .k64), target)

/-- The lowest window address that is translated to a physical address of a target; the bus makes no
difference. -/
def toVirtual (t : Table) (id : UInt32) (p : PhysicalAddress) (target : Target) (_bus : Bus) :
    Except (Stop MmuError) VirtualAddress := do
  refusing (checkId id)
  let wanted ← faulting (Entry.mapping (p.page .k64) target)
  match (List.range Layout.windowPages).find? fun i => t[i]? == some wanted with
  | none => .error (.refused (.notMapped p.value))
  | some i =>
    return ⟨UInt32.ofNat (Layout.windowBase.toNat + i * Layout.pageBytes.toNat
      + (p.offset .k64).value)⟩

/-- The entries in use with their indices. -/
def inUse (t : Table) : List (Nat × Entry) :=
  (List.range Layout.windowPages).filterMap fun i =>
    (t[i]?.filter Entry.valid).map fun e => (i, e)

end Table

end SecureWorld.Mmu
