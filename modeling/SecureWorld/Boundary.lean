import SecureWorld.Address.Page
import SecureWorld.Layout

/-!
# The secure region

The addresses that the open world must not name in a request to the memory management unit, on both sides of
the window. Requests are judged by the whole pages that they touch.
-/

namespace SecureWorld

/-- The window addresses and the physical addresses of the secure region. -/
structure Bounds where
  window : AddressRange .virtual
  flash : AddressRange .physical
deriving DecidableEq, Repr

/-- A request that touches the secure region, by the address it names. -/
inductive Violation where
  | window (addr : VirtualAddress)
  | flash (addr : PhysicalAddress)
deriving DecidableEq, Repr

/-- The words in which a request is found to touch the secure region. -/
def Violation.message : Violation → String
  | .window a => "virtual address " ++ a.render ++ " overlaps the secure region"
  | .flash a => "physical address " ++ a.render ++ " overlaps the secure region"

/-- Why bounds are not installed; both causes name the refused bounds. -/
inductive RegionError where
  | unaligned (bounds : Bounds)
  | alreadyFixed (bounds : Bounds)
deriving DecidableEq, Repr

/-- The first byte and the number of bytes of the pages that a non-empty span touches. -/
def pageSpan (addr len : UInt32) : UInt32 × UInt32 :=
  let page := PageSize.k64.bytes
  let start := addr.toNat / page * page
  let stop := (addr.toNat + len.toNat + (page - 1)) / page * page
  (UInt32.ofNat start, UInt32.ofNat (min (stop - start) 0xFFFFFFFF))

/-- Whether a range shares an address with the pages that a span touches; an empty span is taken as the
address it starts at. -/
def AddressRange.touches {s : Space} (r : AddressRange s) (a : Address s) (len : UInt32) : Bool :=
  if len = 0 then r.contains a
  else
    match pageSpan a.value len with
    | (start, width) => r.overlaps (.ofLength ⟨start⟩ width)

namespace Bounds

/-- The bounds of the memory layout. -/
def ofLayout : Bounds := ⟨Layout.secureWindow, Layout.secureFlash⟩

/-- Whether all four ends are bases of pages. -/
def aligned (b : Bounds) : Bool :=
  decide (b.window.start.Aligned .k64) && decide (b.window.stop.Aligned .k64)
    && decide (b.flash.start.Aligned .k64) && decide (b.flash.stop.Aligned .k64)

/-- The bounds as diagnostics show them. -/
def describe (b : Bounds) : String :=
  "SecureRegionBounds \x7b vaddr: " ++ b.window.render ++ ", paddr: " ++ b.flash.render ++ " \x7d"

end Bounds

/-- The words in which bounds are refused. -/
def RegionError.message : RegionError → String
  | .unaligned b => "secure region " ++ b.describe ++ " is not aligned to MMU pages"
  | .alreadyFixed _ => "the secure region is already fixed"

end SecureWorld
