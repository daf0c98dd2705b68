import SecureWorld.Proofs.Services
import SecureWorld.Proofs.Table
import SecureWorld.Service.Window

/-!
# Services over the window

A request is checked against the secure region before it comes to the table, so a table changes only as a
policy allows. Mapping, unmapping and translating forward never halt; translating backward halts at most for
a page number that no entry can hold.
-/

namespace SecureWorld

variable {σ α : Type} {π : Policy} {F : Fault → Prop}

namespace Boundary

variable {addr len : UInt32} {touches : Bool} {violation : Violation}

/-- A judgement is passed on only if nothing was touched; a violation goes to the log and no further. -/
lemma judge_confined :
    Confined π (judge touches violation : Service σ _) (fun r => r = .ok () → touches = false)
      (Stop.Within F) := by
  unfold judge
  split
  · exact .bind .log fun _ _ => .pure fun h => by cases h
  next h => exact .pure fun _ => by simpa using h

/-- A span that passes the check of window addresses touches no secure page of the window. -/
lemma checkWindow_confined :
    Confined π (checkWindow addr len : Service σ _)
      (fun r => r = .ok () → π.bounds.window.touches ⟨addr⟩ len = false) (Stop.Within F) := by
  refine .bind .secureRegion ?_
  rintro b rfl
  exact judge_confined

/-- A span that passes the check of physical addresses touches no secure page of the flash. -/
lemma checkFlash_confined :
    Confined π (checkFlash addr len : Service σ _)
      (fun r => r = .ok () → π.bounds.flash.touches ⟨addr⟩ len = false) (Stop.Within F) := by
  refine .bind .secureRegion ?_
  rintro b rfl
  exact judge_confined

/-- What is done after a check is done because the check passed; the second look never disagrees. -/
lemma enforce_confined {check : String} {r : Except Violation Unit} :
    Confined π (enforce check r : Service σ Unit) (fun _ => r = .ok ()) (Stop.Within F) := by
  cases r with
  | error v => exact .bind (Q := fun _ => False) .refuse fun _ h => h.elim
  | ok a => exact .pure rfl

end Boundary

namespace Mmu.Control

variable {id len : UInt32} {target : Target} {v : VirtualAddress} {p : PhysicalAddress}

/-- A mapping of spans that touch no secure page is one of those that a policy allows for. -/
lemma map_confined (hv : π.bounds.window.touches v len = false) (hp : π.bounds.flash.touches p len = false) :
    Confined π (map id target v p len : Control σ UInt32) (fun _ => True) (Stop.Within F) := by
  refine .retable (g := fun t => t.map id target v p len) (fun _ _ => rfl) ?_ ?_
  · intro t bytes t' ht
    exact ⟨π.map hv hp ht, .bind .log fun _ _ => .pure trivial⟩
  · intro t e ht
    cases e with
    | refused e => exact trivial
    | fault f => exact absurd ht Table.map_ne_fault

/-- An unmapping of a span that touches no secure page is one of those that a policy allows for. -/
lemma unmap_confined (hv : π.bounds.window.touches v len = false) :
    Confined π (unmap id v len : Control σ Unit) (fun _ => True) (Stop.Within F) := by
  refine .retable (g := fun t => t.unmap id v len) (fun _ _ => rfl) ?_ ?_
  · intro t count t' ht
    exact ⟨π.unmap hv ht, .log⟩
  · intro t e ht
    cases e with
    | refused e => exact trivial
    | fault f => exact absurd ht Table.unmap_ne_fault

/-- Translating a window address changes nothing. -/
lemma toPhysical_confined :
    Confined π (toPhysical id v : Control σ _) (fun _ => True) (Stop.Within F) := by
  refine .lookup (g := fun t => t.toPhysical id v) (fun _ _ _ => trivial) ?_
  intro t e ht
  cases e with
  | refused e => exact trivial
  | fault f => exact absurd ht Table.toPhysical_ne_fault

/-- Translating a physical address changes nothing and halts for a page number at most. -/
lemma toVirtual_confined {bus : Bus} :
    Confined π (toVirtual id p target bus : Control σ _) (fun _ => True)
      (Stop.Within fun f => f = .pageNumber) := by
  refine .lookup (g := fun t => t.toVirtual id p target bus) (fun _ _ _ => trivial) ?_
  intro t e ht
  cases e with
  | refused e => exact trivial
  | fault f => exact (Table.toVirtual_fault_iff.1 ht).1

end Mmu.Control

namespace Window

open Boundary Mmu

variable {id kind side vaddr paddr len out outAddr outTarget : Word}

/-- A request that came as far as the table is stopped only by the operation on the table. -/
lemma control_confined {x : Control σ α} {Q : α → Prop} (hx : Confined π x Q (Stop.Within F)) :
    Confined π (control x) Q (Stop.Within F) := by
  refine .bind .requirePlatform fun _ _ => hx.adapt ?_
  intro e he
  cases e with
  | refused e => exact trivial
  | fault f => exact he

/-- A request to map is checked on both sides before the table is asked. -/
lemma map_harmless : Harmless π (map id kind vaddr paddr len out : Secure σ Word) := by
  refine .answer (.bind .validArg fun t _ => .bind .claim ?_)
  rintro r ⟨rfl, hr⟩
  refine .bind checkWindow_confined fun v hv => .bind checkFlash_confined fun p hp => ?_
  refine .bind enforce_confined fun _ hboth => ?_
  -- both checks are made before either is enforced
  obtain ⟨rfl, rfl⟩ : v = .ok () ∧ p = .ok () := by
    cases v with
    | error e => cases hboth
    | ok a => exact ⟨rfl, hboth⟩
  refine .bind (control_confined (Control.map_confined (hv rfl) (hp rfl))) fun bytes _ => ?_
  exact .storeSingle hr (Nat.le_refl _)

/-- A request to unmap is checked on the side of the window before the table is asked. -/
lemma unmap_harmless : Harmless π (unmap id vaddr len : Secure σ Word) := by
  refine .answer (.bind checkWindow_confined fun v hv => .bind enforce_confined ?_)
  rintro _ rfl
  exact control_confined (Control.unmap_confined (hv rfl))

/-- A window address is translated into two claimed slots. -/
lemma toPhysical_harmless : Harmless π (toPhysical id vaddr outAddr outTarget : Secure σ Word) := by
  refine .answer (.bind .claim ?_)
  rintro r ⟨rfl, hr⟩
  refine .bind .claim ?_
  rintro q ⟨rfl, hq⟩
  refine .bind checkWindow_confined fun v _ => .bind enforce_confined fun _ _ => ?_
  refine .bind (control_confined Control.toPhysical_confined) fun p _ => ?_
  exact .bind (.storeSingle hr (Nat.le_refl _)) fun _ _ => .storeSingle hq (Nat.le_refl _)

/-- A physical address is translated into one claimed slot, and the only halt on the way is that for a page number. -/
lemma toVirtual_confined :
    Confined π (toVirtual id paddr kind side out : Secure σ Word) (fun _ => True) fun f => f = .pageNumber := by
  refine .answer (.bind .validArg fun t _ => .bind .validArg fun b _ => .bind .claim ?_)
  rintro r ⟨rfl, hr⟩
  refine .bind checkFlash_confined fun p _ => .bind enforce_confined fun _ _ => ?_
  refine .bind (control_confined Control.toVirtual_confined) fun v _ => ?_
  exact .storeSingle hr (Nat.le_refl _)

end Window

end SecureWorld
