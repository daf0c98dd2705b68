import SecureWorld.Proofs.Runs

/-!
# Effects of window requests

A footprint says what a step may change of the table and of the memory. An action is *atomic* if it stays within
its footprint when it is carried out and changes neither table nor memory when it stops. The rules of this module
follow the structure of the window services, whose steps change nothing up to the last ones, and
`effect_of_request` says of every request when it has an effect, and which one.
-/

namespace SecureWorld

variable {σ ε δ α β : Type} {m m' m'' : Machine σ}

/-- What may be changed: the table or not, and these bytes of the memory. -/
structure Footprint where
  table : Bool
  byte : Nat → Prop

namespace Footprint

/-- Nothing may be changed. -/
def empty : Footprint := ⟨false, fun _ => False⟩

/-- A change of the machine within a footprint. -/
structure Covers (w : Footprint) (m m' : Machine σ) : Prop where
  table : w.table = false → m'.table = m.table
  memory : ∀ a, ¬ w.byte a → m'.memory.byte a = m.memory.byte a

variable {w : Footprint}

/-- A change that leaves the table and the memory alone is within every footprint. -/
lemma Covers.of_eq (ht : m'.table = m.table) (hm : m'.memory = m.memory) : w.Covers m m' :=
  ⟨fun _ => ht, fun _ _ => by rw [hm]⟩

/-- Two changes within a footprint make one within it. -/
lemma Covers.trans (h : w.Covers m m') (k : w.Covers m' m'') : w.Covers m m'' :=
  ⟨fun hw => (k.table hw).trans (h.table hw), fun a ha => (k.memory a ha).trans (h.memory a ha)⟩

/-- What changes nothing is within every footprint. -/
lemma Covers.weaken (h : empty.Covers m m') : w.Covers m m' :=
  ⟨fun _ => h.table rfl, fun a _ => h.memory a id⟩

/-- What is within the empty footprint changes neither the table nor the memory. -/
lemma Covers.unchanged (h : empty.Covers m m') : m'.table = m.table ∧ m'.memory = m.memory :=
  ⟨h.table rfl, Memory.ext fun a => h.memory a id⟩

end Footprint

open Footprint

/-- The end of an action on the machine `m` that keeps to a footprint if it is carried out and changes nothing if
it stops. -/
inductive Kept (w : Footprint) (m : Machine σ) : EStateM.Result ε (Machine σ) α → Prop where
  | done {a m'} : w.Covers m m' → Kept w m (.ok a m')
  | stopped {e m'} : empty.Covers m m' → Kept w m (.error e m')

/-- An action of which every run keeps to a footprint or changes nothing. -/
structure Atomic (w : Footprint) (x : EStateM ε (Machine σ) α) : Prop where
  kept : ∀ m, Kept w m (x m)

namespace Atomic

variable {w : Footprint}

/-- A value is given without any change. -/
lemma pure {a : α} : Atomic w (pure a : EStateM ε (Machine σ) α) where
  kept _ := .done (.of_eq rfl rfl)

/-- Stopping changes nothing. -/
lemma throw {e : ε} : Atomic w (throw e : EStateM ε (Machine σ) α) where
  kept _ := .stopped (.of_eq rfl rfl)

/-- A change within a footprint is atomic. -/
lemma modify {f : Machine σ → Machine σ} (hf : ∀ m, w.Covers m (f m)) :
    Atomic w (modify f : EStateM ε (Machine σ) Unit) where
  kept m := .done (hf m)

/-- What comes before an atomic action may change nothing, for the action may still stop. -/
lemma bind {x : EStateM ε (Machine σ) α} {f : α → EStateM ε (Machine σ) β} (hx : Atomic empty x)
    (hf : ∀ a, (∃ k k', x k = .ok a k') → Atomic w (f a)) : Atomic w (x >>= f) := by
  constructor
  intro m
  have hk := hx.kept m
  change Kept w m (EStateM.bind x f m)
  unfold EStateM.bind
  generalize hr : x m = r at hk ⊢
  cases hk with
  | stopped h => exact .stopped h
  | @done a k h =>
    have hk' := (hf a ⟨m, k, hr⟩).kept k
    change Kept w m (f a k)
    generalize f a k = r at hk' ⊢
    cases hk' with
    | done h' => exact .done (h.weaken.trans h')
    | stopped h' => exact .stopped (h.trans h')

/-- What comes behind an atomic action must not stop any more. -/
lemma followed {x : EStateM ε (Machine σ) α} {f : α → EStateM ε (Machine σ) β} (hx : Atomic w x)
    (hf : ∀ a k, ∃ b k', f a k = .ok b k' ∧ w.Covers k k') : Atomic w (x >>= f) := by
  constructor
  intro m
  have hk := hx.kept m
  change Kept w m (EStateM.bind x f m)
  unfold EStateM.bind
  generalize x m = r at hk ⊢
  cases hk with
  | stopped h => exact .stopped h
  | @done a k h =>
    obtain ⟨b, k', hrun, h'⟩ := hf a k
    change Kept w m (f a k)
    rw [hrun]
    exact .done (h.trans h')

/-- Translating the reason for stopping makes no difference. -/
lemma adapt {g : ε → δ} {x : EStateM ε (Machine σ) α} (hx : Atomic w x) :
    Atomic w (EStateM.adaptExcept g x) := by
  constructor
  intro m
  have hk := hx.kept m
  unfold EStateM.adaptExcept
  generalize x m = r at hk ⊢
  cases hk with
  | done h => exact .done h
  | stopped h => exact .stopped h

/-- A look at the machine changes nothing of it. -/
lemma peek {f : Machine σ → EStateM ε (Machine σ) α} (hf : ∀ m, Atomic w (f m)) : Atomic w (get >>= f) where
  kept m := (hf m).kept m

/-- The log is outside of every footprint. -/
lemma log {level : Log.Level} {target message : String} :
    Atomic w (log level target message : EStateM ε (Machine σ) Unit) :=
  .modify fun m => .of_eq (m.table_log _) (m.memory_log _)

/-- Asking for the bounds fixes them, but changes nothing that a footprint is about. -/
lemma secureRegion : Atomic w (secureRegion : EStateM ε (Machine σ) Bounds) :=
  .bind (.modify fun _ => .of_eq rfl rfl) fun _ _ => .peek fun _ => .pure

/-- Checking an argument changes nothing. -/
lemma validArg {o : Option α} : Atomic w (Service.validArg o : Service σ α) := by
  cases o with
  | none => exact .throw
  | some a => exact .pure

/-- Claiming a region fixes the bounds at most. -/
lemma claim {addr len align : Word} : Atomic w (Region.claim addr len align : Service σ Region) := by
  unfold Region.claim
  split
  · exact .pure
  split
  · exact .throw
  cases Word.plus? addr len with
  | none => exact .throw
  | some stop =>
    refine .bind .secureRegion fun b _ => ?_
    split
    · exact .throw
    · exact .pure

/-- Asking for the devices changes nothing. -/
lemma requirePlatform : Atomic w (Service.requirePlatform : Service σ Unit) := by
  refine .peek fun m => ?_
  split
  · exact .pure
  · exact .throw

/-- Judging a span changes nothing but the log. -/
lemma judge {touches : Bool} {v : Violation} : Atomic w (Boundary.judge touches v : Service σ _) := by
  unfold Boundary.judge
  split
  · exact .bind .log fun _ _ => .pure
  · exact .pure

/-- Checking a span of the window fixes the bounds and changes nothing else but the log. -/
lemma checkWindow {addr len : UInt32} : Atomic w (Boundary.checkWindow addr len : Service σ _) :=
  .bind .secureRegion fun _ _ => .judge

/-- Checking a span of the flash fixes the bounds and changes nothing else but the log. -/
lemma checkFlash {addr len : UInt32} : Atomic w (Boundary.checkFlash addr len : Service σ _) :=
  .bind .secureRegion fun _ _ => .judge

/-- Enforcing a check changes nothing. -/
lemma enforce {check : String} {r : Except Violation Unit} :
    Atomic w (Boundary.enforce check r : Service σ Unit) := by
  cases r with
  | error v => exact .bind .throw fun _ _ => .throw
  | ok a => exact .pure

/-- Behind a claim the region is the one that was asked for. -/
lemma claimed {addr : Word} {f : Region → Service σ β} (hf : Atomic w (f ⟨addr, 4⟩)) :
    Atomic w (Region.single addr >>= f) := by
  refine .bind .claim ?_
  rintro r ⟨k, k', hr⟩
  obtain ⟨-, rfl, -⟩ := (Region.claim_ok_iff (by decide)).1 hr
  exact hf

end Atomic

namespace Mmu.Control

variable {w : Footprint} {id len : UInt32} {target : Target} {bus : Bus} {v : VirtualAddress} {p : PhysicalAddress}

/-- A lookup changes nothing. -/
lemma ofExcept_atomic {x : Except (Stop MmuError) α} : Atomic w (ofExcept x : Control σ α) := by
  cases x with
  | ok a => exact .pure
  | error e => exact .throw

/-- A table that was changed is in place before the change is logged. -/
lemma retable_atomic {t : Table} {level : Log.Level} {origin message : String} {a : α} (hw : w.table = true) :
    Atomic w (do setTable t; log level origin message; return a : Control σ α) := by
  refine .followed (.modify fun m => ⟨fun h => ?_, fun _ _ => rfl⟩) fun _ k => ⟨a, _, rfl, ?_⟩
  · rw [hw] at h
    cases h
  · exact .of_eq (k.table_log _) (k.memory_log _)

/-- Mapping pages is atomic where the table may be changed. -/
lemma map_atomic (hw : w.table = true) : Atomic w (map id target v p len : Control σ _) :=
  .peek fun _ => .bind ofExcept_atomic fun _ _ => retable_atomic hw

/-- Unmapping pages is atomic where the table may be changed. -/
lemma unmap_atomic (hw : w.table = true) : Atomic w (unmap id v len : Control σ _) :=
  .peek fun _ => .bind ofExcept_atomic fun _ _ => retable_atomic hw

/-- Translating a virtual address changes nothing. -/
lemma toPhysical_atomic : Atomic w (toPhysical id v : Control σ _) :=
  .peek fun _ => ofExcept_atomic

/-- Translating a physical address changes nothing. -/
lemma toVirtual_atomic : Atomic w (toVirtual id p target bus : Control σ _) :=
  .peek fun _ => ofExcept_atomic

end Mmu.Control

/-- The bytes of the 32-bit numbers at some addresses. -/
def slotBytes (slots : List Word) (a : Nat) : Prop :=
  ∃ s ∈ slots, s.toNat ≤ a ∧ a < s.toNat + 4

/-- Writing a number at one of the slots of a footprint is never refused. -/
lemma storeSingle_covers {w : Footprint} {r : Region} {slots : List Word} (hr : r.addr ∈ slots)
    (hw : w.byte = slotBytes slots) (u : UInt32) (m : Machine σ) :
    ∃ b m', (r.storeSingle u : Service σ Unit) m = .ok b m' ∧ w.Covers m m' := by
  refine ⟨(), _, Region.storeSingle_eq, fun _ => rfl, ?_⟩
  intro a ha
  refine Memory.byte_write_of_not_mem ?_
  rw [List.size_toArray, Bytes.length_ofNat]
  by_contra hin
  rw [hw] at ha
  exact ha ⟨r.addr, hr, by omega, by omega⟩

/-- A service that answers `done` when it is carried out, and keeps to a footprint then; with any other answer,
and if it halts, it changes nothing. -/
def AllOrNothing (w : Footprint) (done : Word) (x : Secure σ Word) : Prop :=
  ∀ m, w.Covers m (endState (x m)) ∧ (outcome (x m) ≠ .ok done → empty.Covers m (endState (x m)))

/-- An atomic action that is answered with the same word at each success is carried out or changes nothing. -/
lemma AllOrNothing.answer {w : Footprint} {done : Word} {x : Service σ α} {value : α → Word}
    {refusal : ServiceError → Word} (hx : Atomic w x) (hvalue : ∀ a, value a = done) :
    AllOrNothing w done (Service.answer x value refusal) := by
  intro m
  have hk := hx.kept m
  unfold Service.answer
  generalize x m = r at hk ⊢
  cases hk with
  | @done a _ h => exact ⟨h, fun hne => absurd (congrArg Except.ok (hvalue a)) hne⟩
  | @stopped e _ h =>
    cases e with
    | refused e => exact ⟨h.weaken, fun _ => h⟩
    | fault f => exact ⟨h.weaken, fun _ => h⟩

/-- A request that is refused because it touches the secure region. -/
def Denied (x : Service σ α) (m : Machine σ) : Prop :=
  ∃ m', x m = .error (.refused .fail) m'

namespace Denied

/-- An action is denied if its first step succeeds and what follows is denied. -/
lemma bind {x : Service σ α} {f : α → Service σ β} {a : α} (hx : x m = .ok a m') (hf : Denied (f a) m') :
    Denied (x >>= f) m := by
  obtain ⟨k, hk⟩ := hf
  exact ⟨k, (bind_of_ok hx).trans hk⟩

/-- An action is denied if its first step is denied. -/
lemma first {x : Service σ α} {f : α → Service σ β} (hx : Denied x m) : Denied (x >>= f) m := by
  obtain ⟨k, hk⟩ := hx
  exact ⟨k, bind_of_error hk⟩

/-- A denied action is answered with the word for a failure. -/
lemma answer {x : Service σ α} {value : α → Word} {refusal : ServiceError → Word} (hx : Denied x m) :
    outcome (Service.answer x value refusal m) = .ok (refusal .fail) := by
  obtain ⟨k, hk⟩ := hx
  rw [Service.answer, hk]
  rfl

/-- Enforcing a check that found something denies the request. -/
lemma enforce {check : String} {r : Except Violation Unit} (hr : r ≠ .ok ()) :
    Denied (Boundary.enforce check r : Service σ Unit) m := by
  cases r with
  | error v => exact ⟨m, rfl⟩
  | ok a => exact absurd rfl hr

end Denied

namespace Window

open Mmu Boundary

/-- A request to the services of the window, with its words. -/
inductive Request where
  | map (id kind vaddr paddr len out : Word)
  | unmap (id vaddr len : Word)
  | toPhysical (id vaddr outAddr outTarget : Word)
  | toVirtual (id paddr kind side out : Word)

namespace Request

/-- The service that a request is for. -/
def service : Request → ServiceId
  | .map .. => .mapRegion
  | .unmap .. => .unmapRegion
  | .toPhysical .. => .toPhysical
  | .toVirtual .. => .toVirtual

/-- The words of a request, in the order of the arguments of its service. -/
def words : Request → List Word
  | .map id kind vaddr paddr len out => [id, kind, vaddr, paddr, len, out]
  | .unmap id vaddr len => [id, vaddr, len]
  | .toPhysical id vaddr outAddr outTarget => [id, vaddr, outAddr, outTarget]
  | .toVirtual id paddr kind side out => [id, paddr, kind, side, out]

/-- The handler of the service answers the request. -/
def serve (D : Drivers σ) (q : Request) : Secure σ Word :=
  (q.service.handler D).call q.words

/-- The answer to a request that is carried out. -/
def success : Request → Word
  | .map .. | .unmap .. => 0
  | .toPhysical .. | .toVirtual .. => 1

/-- The answer to a request that touches the secure region. -/
def denial : Request → Word
  | .map .. | .unmap .. => Word.ofCode (-1)
  | .toPhysical .. | .toVirtual .. => 0

/-- Whether a request is one to change the table. -/
def remaps : Request → Bool
  | .map .. | .unmap .. => true
  | .toPhysical .. | .toVirtual .. => false

/-- The addresses at which the results of a request are to be written. -/
def slots : Request → List Word
  | .map _ _ _ _ _ out => [out]
  | .unmap .. => []
  | .toPhysical _ _ outAddr outTarget => [outAddr, outTarget]
  | .toVirtual _ _ _ _ out => [out]

/-- The words of a request that name a kind do so, and its results may be written. -/
def WellFormed (b : Bounds) : Request → Prop
  | .map _ kind _ _ _ out => (Target.ofRaw? kind.toUInt32).isSome ∧ Region.Claimable b out 4 4
  | .unmap .. => True
  | .toPhysical _ _ outAddr outTarget => Region.Claimable b outAddr 4 4 ∧ Region.Claimable b outTarget 4 4
  | .toVirtual _ _ kind side out =>
    (Target.ofRaw? kind.toUInt32).isSome ∧ (Bus.ofRaw? side.toUInt32).isSome ∧ Region.Claimable b out 4 4

/-- A span that a request names meets the secure region. -/
def Trespasses (b : Bounds) : Request → Prop
  | .map _ _ vaddr paddr len _ =>
    b.window.Meets ⟨vaddr.toUInt32⟩ len.toUInt32 ∨ b.flash.Meets ⟨paddr.toUInt32⟩ len.toUInt32
  | .unmap _ vaddr len => b.window.Meets ⟨vaddr.toUInt32⟩ len.toUInt32
  | .toPhysical _ vaddr _ _ => ⟨vaddr.toUInt32⟩ ∈ b.window
  | .toVirtual _ paddr _ _ _ => ⟨paddr.toUInt32⟩ ∈ b.flash

/-- What a request may change. -/
def footprint (q : Request) : Footprint := ⟨q.remaps, slotBytes q.slots⟩

end Request

variable {w : Footprint}

/-- An action on the table stays atomic as a step of a service. -/
lemma control_atomic {x : Control σ α} (hx : Atomic w x) : Atomic w (control x) :=
  .bind .requirePlatform fun _ _ => .adapt hx

/-- Every step of a request up to the last one that may stop it changes nothing. -/
lemma Request.allOrNothing (D : Drivers σ) (q : Request) : AllOrNothing q.footprint q.success (q.serve D) := by
  cases q with
  | map id kind vaddr paddr len out =>
    refine .answer (.bind .validArg fun t _ => .claimed ?_) fun _ => rfl
    refine .bind .checkWindow fun v _ => .bind .checkFlash fun p _ => .bind .enforce fun _ _ => ?_
    exact .followed (control_atomic (Control.map_atomic rfl)) (storeSingle_covers List.mem_cons_self rfl)
  | unmap id vaddr len =>
    refine .answer (.bind .checkWindow fun v _ => .bind .enforce fun _ _ => ?_) fun _ => rfl
    exact control_atomic (Control.unmap_atomic rfl)
  | toPhysical id vaddr outAddr outTarget =>
    refine .answer (.claimed (.claimed ?_)) fun _ => rfl
    refine .bind .checkWindow fun v _ => .bind .enforce fun _ _ => ?_
    refine .followed (control_atomic Control.toPhysical_atomic) ?_
    -- neither of the two numbers that are written last can be refused
    have hstore (r : Region) (hr : r.addr ∈ [outAddr, outTarget]) (u : UInt32) (k : Machine σ) :=
      storeSingle_covers (w := footprint (.toPhysical id vaddr outAddr outTarget)) hr rfl u k
    rintro ⟨p, t⟩ k
    obtain ⟨_, k₁, h₁, hc₁⟩ := hstore ⟨outAddr, 4⟩ List.mem_cons_self p.value k
    obtain ⟨_, k₂, h₂, hc₂⟩ := hstore ⟨outTarget, 4⟩ (List.mem_cons_of_mem _ List.mem_cons_self) t.raw k₁
    exact ⟨(), k₂, bind_ok_iff.2 ⟨_, k₁, h₁, h₂⟩, hc₁.trans hc₂⟩
  | toVirtual id paddr kind side out =>
    refine .answer (.bind .validArg fun t _ => .bind .validArg fun b _ => .claimed ?_) fun _ => rfl
    refine .bind .checkFlash fun p _ => .bind .enforce fun _ _ => ?_
    exact .followed (control_atomic Control.toVirtual_atomic) fun v => storeSingle_covers List.mem_cons_self rfl v.value

/-- A request that may be carried out up to its checks and fails one of them is answered as a trespass. -/
lemma Request.denied (D : Drivers σ) (q : Request) (hform : q.WellFormed m.bounds)
    (hq : q.Trespasses m.bounds) : outcome (q.serve D m) = .ok q.denial := by
  have hclaim {addr : Word} {k : Machine σ} (h : Region.Claimable k.bounds addr 4 4) :
      (Region.single addr : Service σ Region) k = .ok ⟨addr, 4⟩ k.fixRegion :=
    (Region.claim_ok_iff (by decide)).2 ⟨h, rfl, rfl⟩
  cases q with
  | map id kind vaddr paddr len out =>
    obtain ⟨hkind, hout⟩ := hform
    obtain ⟨t, ht⟩ := Option.isSome_iff_exists.1 hkind
    obtain ⟨k, hv, hregion⟩ := checkWindow_run vaddr.toUInt32 len.toUInt32 m.fixRegion
    have hb : k.bounds = m.bounds := by
      rw [Machine.bounds, hregion]
      rfl
    obtain ⟨l, hp, -⟩ := checkFlash_run paddr.toUInt32 len.toUInt32 k
    refine Denied.answer (.bind (Service.validArg_ok_iff.2 ⟨ht, rfl⟩) (.bind (hclaim hout) ?_))
    -- both spans are checked before one of the findings is enforced
    refine .bind hv (.bind hp (.first (.enforce ?_)))
    rw [hb]
    exact bind_finding_ne_ok (hq.imp AddressRange.touches_iff_meets.2 AddressRange.touches_iff_meets.2)
  | unmap id vaddr len =>
    obtain ⟨k, hv, -⟩ := checkWindow_run vaddr.toUInt32 len.toUInt32 m
    refine Denied.answer (.bind hv (.first (.enforce (finding_ne_ok ?_))))
    exact AddressRange.touches_iff_meets.2 hq
  | toPhysical id vaddr outAddr outTarget =>
    obtain ⟨haddr, htarget⟩ := hform
    obtain ⟨k, hv, -⟩ := checkWindow_run vaddr.toUInt32 0 m.fixRegion
    refine Denied.answer (.bind (hclaim haddr) (.bind (hclaim htarget) (.bind hv (.first (.enforce ?_)))))
    exact finding_ne_ok (AddressRange.touches_zero.2 hq)
  | toVirtual id paddr kind side out =>
    obtain ⟨hkind, hside, hout⟩ := hform
    obtain ⟨t, ht⟩ := Option.isSome_iff_exists.1 hkind
    obtain ⟨b, hb⟩ := Option.isSome_iff_exists.1 hside
    obtain ⟨k, hp, -⟩ := checkFlash_run paddr.toUInt32 0 m.fixRegion
    refine Denied.answer (.bind (Service.validArg_ok_iff.2 ⟨ht, rfl⟩) ?_)
    refine .bind (Service.validArg_ok_iff.2 ⟨hb, rfl⟩) (.bind (hclaim hout) (.bind hp (.first (.enforce ?_))))
    exact finding_ne_ok (AddressRange.touches_zero.2 hq)

end Window

/-- A request to the services of the window that is not answered as carried out, or that halts, changes neither
the table nor the memory. A translation never changes the table, and what a request changes of the memory are the
numbers it asks for. A well-formed request that meets the secure region is denied in one way, whatever the table
holds and whether or not there are devices. -/
theorem effect_of_request (D : Drivers σ) (q : Window.Request) (m : Machine σ) :
    let r := q.serve D m
    (outcome r ≠ .ok q.success → (endState r).table = m.table ∧ (endState r).memory = m.memory) ∧
    (q.remaps = false → (endState r).table = m.table) ∧
    (∀ a, (∀ s ∈ q.slots, a < s.toNat ∨ s.toNat + 4 ≤ a) → (endState r).memory.byte a = m.memory.byte a) ∧
    (q.WellFormed m.bounds → q.Trespasses m.bounds → outcome r = .ok q.denial) := by
  intro r
  obtain ⟨hcovers, hunchanged⟩ := q.allOrNothing D m
  refine ⟨fun h => (hunchanged h).unchanged, hcovers.table, ?_, q.denied D⟩
  intro a ha
  refine hcovers.memory a ?_
  rintro ⟨s, hs, hlow, hhigh⟩
  have := ha s hs
  omega

end SecureWorld
