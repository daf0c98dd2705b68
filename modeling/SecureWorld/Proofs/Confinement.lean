import Mathlib.Tactic.Common
import SecureWorld.Machine
import SecureWorld.Mmu.Control

/-!
# Confinement

What an action on a machine can see and what it can change. Two machines are *alike* if they differ in secure
memory only. An action is *confined* by a policy if it ends alike on machines that are alike, leaves secure
memory as it was and changes the table only as the policy says. The rules of this module follow the structure of
actions, so an action is confined as soon as its parts are: `Confined.bind` joins two of them, the others are
about single steps.
-/

namespace SecureWorld

variable {σ ε δ α β : Type}

/-- The addresses of secure memory: the secure on-chip memory and the secure part of the window. -/
def Bounds.Secures (b : Bounds) (a : Nat) : Prop :=
  (Layout.secureSramStart.toNat ≤ a ∧ a < Layout.secureSramEnd.toNat) ∨
    (b.window.start.toNat ≤ a ∧ a < b.window.stop.toNat)

/-- Machines under the bounds `b` that differ in secure memory only. -/
structure Alike (b : Bounds) (m n : Machine σ) : Prop where
  bounds : m.bounds = b
  rest : n = { m with memory := n.memory }
  memory : ∀ a, ¬ b.Secures a → n.memory.byte a = m.memory.byte a

/-- What an action ended with: its value, or the cause for which it stopped. -/
def outcome : EStateM.Result ε (Machine σ) α → Except ε α
  | .ok a _ => .ok a
  | .error e _ => .error e

/-- The machine in which an action ended, also if it stopped. -/
def endState : EStateM.Result ε (Machine σ) α → Machine σ
  | .ok _ m => m
  | .error _ m => m

/-- The secure region and what may become of the table: at least whatever comes of a request to map or to unmap
that stays clear of the region. -/
structure Policy where
  bounds : Bounds
  Remaps : Mmu.Table → Mmu.Table → Prop
  refl : ∀ t, Remaps t t
  trans : ∀ {t u v}, Remaps t u → Remaps u v → Remaps t v
  map : ∀ {t t' id target v p len n}, bounds.window.touches v len = false →
    bounds.flash.touches p len = false → Mmu.Table.map t id target v p len = .ok (n, t') → Remaps t t'
  unmap : ∀ {t t' id v len n}, bounds.window.touches v len = false →
    Mmu.Table.unmap t id v len = .ok (n, t') → Remaps t t'

/-- The policy under which the table may become anything. -/
def Policy.lax (b : Bounds) : Policy where
  bounds := b
  Remaps _ _ := True
  refl _ := trivial
  trans _ _ := trivial
  map _ _ _ := trivial
  unmap _ _ := trivial

/-- A change of the machine within a policy. -/
structure Policy.Allows (π : Policy) (m m' : Machine σ) : Prop where
  table : π.Remaps m.table m'.table
  memory : ∀ a, π.bounds.Secures a → m'.memory.byte a = m.memory.byte a

/-- Outcomes of one action on the machines `m` and `n`: both are answers with the same value or both are stops
for the same cause, on machines that are alike again. -/
inductive Agree (π : Policy) (Q : α → Prop) (E : ε → Prop) (m n : Machine σ) :
    EStateM.Result ε (Machine σ) α → EStateM.Result ε (Machine σ) α → Prop where
  | ok {a m' n'} : Q a → Alike π.bounds m' n' → π.Allows m m' → π.Allows n n' →
    Agree π Q E m n (.ok a m') (.ok a n')
  | error {e m' n'} : E e → Alike π.bounds m' n' → π.Allows m m' → π.Allows n n' →
    Agree π Q E m n (.error e m') (.error e n')

/-- An action within a policy, with what holds of its values and of the causes for which it stops. -/
structure Confined (π : Policy) (x : EStateM ε (Machine σ) α) (Q : α → Prop) (E : ε → Prop) : Prop where
  agree : ∀ {m n : Machine σ}, Alike π.bounds m n → Agree π Q E m n (x m) (x n)

/-- A stop that is an ordinary refusal or a halt for one of the given faults. -/
def Stop.Within (F : Fault → Prop) : Stop ε → Prop
  | .refused _ => True
  | .fault f => F f

section Steps

variable {π : Policy} {m m' m'' n n' : Machine σ} {b : Bounds}

/-- A machine is like itself. -/
lemma Alike.refl (h : m.bounds = b) : Alike b m m :=
  ⟨h, rfl, fun _ _ => rfl⟩

/-- A policy allows it that nothing happens. -/
lemma Policy.Allows.refl : π.Allows m m :=
  ⟨π.refl _, fun _ _ => rfl⟩

/-- What is allowed step by step is allowed on the whole. -/
lemma Policy.Allows.trans (h : π.Allows m m') (k : π.Allows m' m'') : π.Allows m m'' :=
  ⟨π.trans h.table k.table, fun a ha => (k.memory a ha).trans (h.memory a ha)⟩

/-- Nothing is asked of a step that leaves table and memory as they were. -/
lemma Policy.Allows.of_eq (ht : m'.table = m.table) (hm : m'.memory = m.memory) : π.Allows m m' :=
  ⟨ht ▸ π.refl _, fun _ _ => by rw [hm]⟩

/-- An agreement that was reached after allowed steps holds of the whole runs. -/
lemma Agree.after {Q : α → Prop} {E : ε → Prop} {r s}
    (h : Agree π Q E m' n' r s) (hm : π.Allows m m') (hn : π.Allows n n') : Agree π Q E m n r s := by
  cases h with
  | ok hq hl km kn => exact .ok hq hl (hm.trans km) (hn.trans kn)
  | error he hl km kn => exact .error he hl (hm.trans km) (hn.trans kn)

end Steps

section Outcomes

variable {π : Policy} {Q : α → Prop} {E : ε → Prop} {m n : Machine σ} {r s : EStateM.Result ε (Machine σ) α}

/-- Runs that agree end with the same value or for the same cause. -/
lemma Agree.outcome_eq (h : Agree π Q E m n r s) : outcome s = outcome r := by
  cases h <;> rfl

/-- Runs that agree end in machines that are alike. -/
lemma Agree.alike (h : Agree π Q E m n r s) : Alike π.bounds (endState r) (endState s) := by
  cases h with
  | ok _ hl _ _ => exact hl
  | error _ hl _ _ => exact hl

/-- A run that agrees with another one has done what the policy allows. -/
lemma Agree.allows (h : Agree π Q E m n r s) : π.Allows m (endState r) := by
  cases h with
  | ok _ _ hm _ => exact hm
  | error _ _ hm _ => exact hm

/-- A run that agrees with another one fails for an admitted cause only. -/
lemma Agree.cause {e : ε} (h : Agree π Q E m n r s) (he : outcome r = .error e) : E e := by
  cases h with
  | ok => cases he
  | error hE =>
    cases he
    exact hE

end Outcomes

namespace Confined

variable {π : Policy} {Q Q' : α → Prop} {R : β → Prop} {E E' : ε → Prop}

/-- A value that has the property is confined. -/
lemma pure {a : α} (h : Q a) : Confined π (pure a : EStateM ε (Machine σ) α) Q E where
  agree hl := .ok h hl .refl .refl

/-- A failure for an admitted cause is confined. -/
lemma throw {e : ε} (h : E e) : Confined π (throw e : EStateM ε (Machine σ) α) Q E where
  agree hl := .error h hl .refl .refl

/-- Steps are confined if the first of them is, and the others are after every value of it that has the property. -/
lemma bind {x : EStateM ε (Machine σ) α} {f : α → EStateM ε (Machine σ) β}
    (hx : Confined π x Q E) (hf : ∀ a, Q a → Confined π (f a) R E) : Confined π (x >>= f) R E := by
  constructor
  intro m n hl
  have hxl := hx.agree hl
  show Agree π R E m n (EStateM.bind x f m) (EStateM.bind x f n)
  unfold EStateM.bind
  generalize x m = r at hxl ⊢
  generalize x n = s at hxl ⊢
  -- both runs come to the same end of `x`, so either both go on with `f` at the same value or none does
  cases hxl with
  | ok hq hl' hm hn => exact ((hf _ hq).agree hl').after hm hn
  | error he hl' hm hn => exact .error he hl' hm hn

/-- Less can be said of the values and more be admitted as causes. -/
lemma mono {x : EStateM ε (Machine σ) α} (hx : Confined π x Q E)
    (hQ : ∀ a, Q a → Q' a) (hE : ∀ e, E e → E' e) : Confined π x Q' E' := by
  constructor
  intro m n hl
  have hxl := hx.agree hl
  generalize x m = r at hxl ⊢
  generalize x n = s at hxl ⊢
  cases hxl with
  | ok hq hl' hm hn => exact .ok (hQ _ hq) hl' hm hn
  | error he hl' hm hn => exact .error (hE _ he) hl' hm hn

/-- A look at the machine, if what follows does not tell machines that are alike apart. -/
lemma peek {f : Machine σ → EStateM ε (Machine σ) α}
    (hc : ∀ {m n : Machine σ}, Alike π.bounds m n → f n = f m)
    (hf : ∀ m, m.bounds = π.bounds → Confined π (f m) Q E) : Confined π (get >>= f) Q E := by
  constructor
  intro m n hl
  show Agree π Q E m n (f m m) (f n n)
  rw [hc hl]
  exact (hf m hl.bounds).agree hl

/-- A change to the machine is confined if it is allowed and keeps machines alike. -/
lemma modify {f : Machine σ → Machine σ}
    (hl : ∀ {m n : Machine σ}, Alike π.bounds m n → Alike π.bounds (f m) (f n))
    (hf : ∀ m, π.Allows m (f m)) :
    Confined π (modify f : EStateM ε (Machine σ) Unit) (fun _ => True) E where
  agree h := .ok trivial (hl h) (hf _) (hf _)

/-- The secure region that is consulted is the region in force, and fixing it changes no bounds. -/
lemma secureRegion :
    Confined π (secureRegion : EStateM ε (Machine σ) Bounds) (fun b => b = π.bounds) E := by
  refine .bind (.modify ?_ fun m => .of_eq rfl rfl) fun _ _ => ?_
  · rintro m n ⟨hb, hr, hm⟩
    refine ⟨hb, ?_, hm⟩
    rw [hr]
    rfl
  · refine .peek ?_ fun m hm => .pure hm
    intro m n hl
    rw [hl.rest]
    rfl

/-- What goes to the log does not go to secure memory, and does not depend on it. -/
lemma log {level : Log.Level} {target message : String} :
    Confined π (log level target message : EStateM ε (Machine σ) Unit) (fun _ => True) E := by
  refine .modify ?_ fun m => .of_eq (m.table_log _) (m.memory_log _)
  rintro m n ⟨hb, hr, hm⟩
  refine ⟨by rw [Machine.bounds_log, hb], ?_, ?_⟩
  · rw [hr]
    unfold Machine.log
    dsimp only
    split <;> rfl
  · rw [Machine.memory_log, Machine.memory_log]
    exact hm

/-- Causes can be restated. -/
lemma adapt {E' : δ → Prop} {g : ε → δ} {x : EStateM ε (Machine σ) α} (hx : Confined π x Q E)
    (hg : ∀ e, E e → E' (g e)) : Confined π (EStateM.adaptExcept g x) Q E' := by
  constructor
  intro m n hl
  have hxl := hx.agree hl
  unfold EStateM.adaptExcept
  generalize x m = r at hxl ⊢
  generalize x n = s at hxl ⊢
  cases hxl with
  | ok hq hl' hm hn => exact .ok hq hl' hm hn
  | error he hl' hm hn => exact .error (hg _ he) hl' hm hn

section Requests

variable {Q : α → Prop} {F : Fault → Prop}

/-- A refusal is no halt, so it is confined whatever is to be said of the values. -/
lemma refuse {e : ServiceError} : Confined π (Service.refuse e : Service σ α) Q (Stop.Within F) :=
  .throw trivial

/-- A computation that is known to give a value does not halt. -/
lemma ofExcept {x : Except Fault α} (h : ∃ a, x = .ok a ∧ Q a) :
    Confined π (Service.ofExcept x : Service σ α) Q (Stop.Within F) := by
  obtain ⟨a, rfl, ha⟩ := h
  exact .pure ha

/-- An argument is passed on if it is valid and refused otherwise. -/
lemma validArg {o : Option α} :
    Confined π (Service.validArg o : Service σ α) (fun a => o = some a) (Stop.Within F) := by
  cases o with
  | none => exact .refuse
  | some a => exact .pure rfl

/-- Whether the devices are there is the same in machines that are alike. -/
lemma requirePlatform :
    Confined π (Service.requirePlatform : Service σ Unit) (fun _ => True) (Stop.Within F) := by
  refine .peek ?_ fun m _ => ?_
  · intro m n hl
    rw [hl.rest]
  · split
    · exact .pure trivial
    · exact .refuse

/-- The devices never see the memory. -/
lemma device {x : StateM σ α} : Confined π (Service.device x : Service σ α) (fun _ => True) (Stop.Within F) where
  agree {m n} hl := by
    have hrest := hl.rest
    show Agree π _ _ m n (.ok (x m.devices).1 { m with devices := (x m.devices).2 })
      (.ok (x n.devices).1 { n with devices := (x n.devices).2 })
    rw [show n.devices = m.devices by rw [hrest]]
    refine .ok trivial ⟨hl.bounds, ?_, hl.memory⟩ (.of_eq rfl rfl) (.of_eq rfl rfl)
    rw [hrest]

/-- An action of the devices that may refuse reaches the devices only. -/
lemma device? {x : StateM σ (Except ServiceError α)} :
    Confined π (Service.device? x : Service σ α) (fun _ => True) (Stop.Within F) := by
  refine .bind .device fun r _ => ?_
  cases r with
  | ok a => exact .pure trivial
  | error e => exact .refuse

/-- The answer of a request halts only where the request does. -/
lemma answer {x : Service σ α} {value : α → Word} {refusal : ServiceError → Word}
    (hx : Confined π x (fun _ => True) (Stop.Within F)) :
    Confined π (Service.answer x value refusal) (fun _ => True) F := by
  constructor
  intro m n hl
  have hxl := hx.agree hl
  unfold Service.answer
  generalize x m = r at hxl ⊢
  generalize x n = s at hxl ⊢
  cases hxl with
  | ok hq hl' hm hn => exact .ok trivial hl' hm hn
  | @error e _ _ he hl' hm hn =>
    cases e with
    | refused e => exact .ok trivial hl' hm hn
    | fault f => exact .error he hl' hm hn

/-- A request that is answered behind the check for the devices is confined if its steps are. -/
lemma behindPlatform {x : Service σ α} {value : α → Word} {refusal : ServiceError → Word}
    (hx : Confined π x (fun _ => True) (Stop.Within F)) :
    Confined π (Service.answer (do Service.requirePlatform; x) value refusal) (fun _ => True) F :=
  .answer (.bind .requirePlatform fun _ _ => hx)

/-- A request that is answered by a status. -/
lemma status {x : Service σ Unit} (hx : Confined π x (fun _ => True) (Stop.Within F)) :
    Confined π (Service.status x) (fun _ => True) F :=
  .behindPlatform hx

/-- A request that is answered by a value. -/
lemma value {x : Service σ Word} (hx : Confined π x (fun _ => True) (Stop.Within F)) :
    Confined π (Service.value x) (fun _ => True) F :=
  .behindPlatform hx

/-- A request that is answered by a truth value. -/
lemma flag {x : Service σ Bool} (hx : Confined π x (fun _ => True) (Stop.Within F)) :
    Confined π (Service.flag x) (fun _ => True) F :=
  .behindPlatform hx

/-- A request that is answered by the code of a driver. -/
lemma driverCode {x : Service σ Int32} (hx : Confined π x (fun _ => True) (Stop.Within F)) :
    Confined π (Service.driverCode x) (fun _ => True) F :=
  .behindPlatform hx

end Requests

section Tables

open Mmu

variable {E : Stop MmuError → Prop}

/-- What is read off the table is the same on machines that are alike. -/
lemma lookup {g : Table → Except (Stop MmuError) α} {Q : α → Prop}
    (hok : ∀ t a, g t = .ok a → Q a) (herr : ∀ t e, g t = .error e → E e) :
    Confined π (get >>= fun m : Machine σ => Control.ofExcept (g m.table)) Q E := by
  refine .peek ?_ fun m _ => ?_
  · intro m n hl
    rw [hl.rest]
  · cases hg : g m.table with
    | ok a => exact .pure (hok _ a hg)
    | error e => exact .throw (herr _ e hg)

/-- A new table takes the place of the old one, if the policy agrees to it. -/
lemma retable {g : Table → Except (Stop MmuError) (α × Table)} {k : α × Table → Control σ β}
    {f : α → Control σ β} (hk : ∀ a t, k (a, t) = Control.setTable t >>= fun _ => f a)
    (hok : ∀ t a t', g t = .ok (a, t') → π.Remaps t t' ∧ Confined π (f a) R E)
    (herr : ∀ t e, g t = .error e → E e) :
    Confined π (get >>= fun m : Machine σ => Control.ofExcept (g m.table) >>= k) R E := by
  constructor
  intro m n hl
  -- not by `bind`: that the new table comes of the one in the machine is lost once it is a value
  have ht : n.table = m.table := by rw [hl.rest]
  show Agree π R E m n (EStateM.bind (Control.ofExcept (g m.table)) k m)
    (EStateM.bind (Control.ofExcept (g n.table)) k n)
  rw [ht]
  cases hg : g m.table with
  | ok p =>
    obtain ⟨a, t⟩ := p
    obtain ⟨hr, hf⟩ := hok _ _ _ hg
    show Agree π R E m n (k (a, t) m) (k (a, t) n)
    rw [hk]
    have hrest : Alike π.bounds { m with table := t } { n with table := t } := by
      refine ⟨hl.bounds, ?_, hl.memory⟩
      rw [hl.rest]
    refine (hf.agree hrest).after ⟨hr, fun _ _ => rfl⟩ ⟨?_, fun _ _ => rfl⟩
    rw [ht]
    exact hr
  | error e => exact .error (herr _ _ hg) hl .refl .refl

end Tables

end Confined

end SecureWorld
