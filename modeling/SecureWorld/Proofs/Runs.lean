import SecureWorld.Proofs.Catalogue

/-!
# Runs

When a step succeeds, and in which machine it leaves the call. `bind_ok_iff` and `bind_error_iff` take a run of
a service apart into the runs of its steps; the other lemmas are about the steps that the services over the
window are made of.
-/

namespace SecureWorld

variable {σ ε α β : Type} {m m' : Machine σ}

/-- A value is given as it is, on the same machine. -/
lemma pure_ok_iff {a b : α} : (pure a : EStateM ε (Machine σ) α) m = .ok b m' ↔ a = b ∧ m' = m := by
  constructor
  · intro h
    cases h
    exact ⟨rfl, rfl⟩
  · rintro ⟨rfl, rfl⟩
    rfl

/-- An action that throws gives no value. -/
lemma throw_ne_ok {e : ε} {a : α} : (throw e : EStateM ε (Machine σ) α) m ≠ .ok a m' :=
  nofun

/-- The state that is asked for is the machine. -/
lemma get_bind {f : Machine σ → EStateM ε (Machine σ) β} : (get >>= f) m = f m m := rfl

/-- What follows runs on the machine that is set. -/
lemma set_bind {f : PUnit → EStateM ε (Machine σ) β} : (set m' >>= f) m = f ⟨⟩ m' := rfl

/-- Behind a step that succeeds the rest runs on the machine that the step leaves. -/
lemma bind_of_ok {x : EStateM ε (Machine σ) α} {f : α → EStateM ε (Machine σ) β} {a : α} (hx : x m = .ok a m') :
    (x >>= f) m = f a m' := by
  show EStateM.bind x f m = _
  rw [EStateM.bind, hx]

/-- Behind a step that fails nothing runs. -/
lemma bind_of_error {x : EStateM ε (Machine σ) α} {f : α → EStateM ε (Machine σ) β} {e : ε}
    (hx : x m = .error e m') : (x >>= f) m = .error e m' := by
  show EStateM.bind x f m = _
  rw [EStateM.bind, hx]

/-- Two steps succeed exactly if the first one does and the second one does behind it. -/
lemma bind_ok_iff {x : EStateM ε (Machine σ) α} {f : α → EStateM ε (Machine σ) β} {b : β} :
    (x >>= f) m = .ok b m' ↔ ∃ a m₁, x m = .ok a m₁ ∧ f a m₁ = .ok b m' := by
  show EStateM.bind x f m = _ ↔ _
  unfold EStateM.bind
  cases x m with
  | ok a m₁ =>
    constructor
    · intro h
      exact ⟨a, m₁, rfl, h⟩
    · rintro ⟨a', m₂, he, h⟩
      cases he
      exact h
  | error e m₁ =>
    constructor
    · intro h
      cases h
    · rintro ⟨a, m₂, he, -⟩
      cases he

/-- A span of memory that nothing but the secure region can tell against. -/
structure Region.Viable (addr len align : Word) : Prop where
  len_ne_zero : len ≠ 0
  ne_zero : addr ≠ 0
  aligned : addr % align = 0
  bounded : addr.toNat + len.toNat < 0x10000000000000000

instance (addr len align : Word) : Decidable (Region.Viable addr len align) :=
  decidable_of_iff (len ≠ 0 ∧ addr ≠ 0 ∧ addr % align = 0 ∧ addr.toNat + len.toNat < 0x10000000000000000)
    ⟨fun ⟨hl, hz, ha, hb⟩ => ⟨hl, hz, ha, hb⟩, fun ⟨hl, hz, ha, hb⟩ => ⟨hl, hz, ha, hb⟩⟩

/-- The secure region is looked at last, and only for the sake of a viable span. -/
lemma Region.Viable.claim_eq {addr len align : Word} (h : Viable addr len align) :
    (Region.claim addr len align : Service σ Region) m =
      if reachesSecure m.bounds addr (addr + len) then .error (.refused .invalidArg) m.fixRegion
      else .ok ⟨addr, len⟩ m.fixRegion := by
  unfold Region.claim
  rw [if_neg h.len_ne_zero, if_neg (by simp [h.ne_zero, h.aligned]), Word.plus?, if_pos h.bounded]
  change (if reachesSecure m.bounds addr (addr + len) then _ else _ : Service σ Region) m.fixRegion = _
  split <;> rfl

/-- Behind the other checks of a span that is not viable, the secure region is not looked at. -/
lemma Region.claim_of_not_viable {addr len align : Word} (h : ¬ Viable addr len align) :
    (Region.claim addr len align : Service σ Region) m =
      if len = 0 then .ok ⟨addr, len⟩ m else .error (.refused .invalidArg) m := by
  unfold Region.claim
  split
  · rfl
  split
  · rfl
  next hlen hbad =>
    obtain ⟨hz, ha⟩ := not_or.1 hbad
    rw [Word.plus?, if_neg fun hb => h ⟨hlen, hz, Decidable.not_not.1 ha, hb⟩]
    rfl

/-- What a request needs of an address that it claims bytes at. -/
structure Region.Claimable (b : Bounds) (addr len align : Word) : Prop where
  ne_zero : addr ≠ 0
  aligned : addr % align = 0
  bounded : addr.toNat + len.toNat < 0x10000000000000000
  clear : reachesSecure b addr (addr + len) = false

instance (b : Bounds) (addr len align : Word) : Decidable (Region.Claimable b addr len align) :=
  decidable_of_iff (addr ≠ 0 ∧ addr % align = 0 ∧ addr.toNat + len.toNat < 0x10000000000000000 ∧
      reachesSecure b addr (addr + len) = false)
    ⟨fun ⟨hz, ha, hb, hc⟩ => ⟨hz, ha, hb, hc⟩, fun ⟨hz, ha, hb, hc⟩ => ⟨hz, ha, hb, hc⟩⟩

/-- A span that is not empty is claimed exactly if it is claimable, and nothing but the region may have changed. -/
lemma Region.claim_ok_iff {addr len align : Word} {r : Region} (hlen : len ≠ 0) :
    Region.claim addr len align m = .ok r m' ↔
      Region.Claimable m.bounds addr len align ∧ r = ⟨addr, len⟩ ∧ m' = m.fixRegion := by
  by_cases h : Viable addr len align
  · rw [h.claim_eq]
    split
    next hs =>
      refine ⟨nofun, ?_⟩
      rintro ⟨hc, -⟩
      rw [hc.clear] at hs
      cases hs
    next hs =>
      rw [EStateM.Result.ok.injEq, eq_comm, @eq_comm _ _ m']
      exact ⟨fun he => ⟨⟨h.ne_zero, h.aligned, h.bounded, by simpa using hs⟩, he⟩, And.right⟩
  · rw [claim_of_not_viable h, if_neg hlen]
    refine ⟨nofun, ?_⟩
    rintro ⟨hc, -⟩
    exact absurd ⟨hlen, hc.ne_zero, hc.aligned, hc.bounded⟩ h

/-- An argument is valid exactly if there is a value for it. -/
lemma Service.validArg_ok_iff {o : Option α} {a : α} :
    (validArg o : Service σ α) m = .ok a m' ↔ o = some a ∧ m' = m := by
  cases o with
  | none => exact ⟨fun h => absurd h throw_ne_ok, fun h => by cases h.1⟩
  | some b => rw [Option.some_inj, ← pure_ok_iff, validArg]

/-- A request is answered as its value is, if it is carried out with a value that no refusal is answered as. -/
lemma Service.answer_ok_iff {x : Service σ α} {value : α → Word} {refusal : ServiceError → Word} {w : Word}
    (hw : ∀ e, refusal e ≠ w) :
    answer x value refusal m = .ok w m' ↔ ∃ a, x m = .ok a m' ∧ value a = w := by
  unfold answer
  split
  next a m₁ hx =>
    constructor
    · intro h
      cases h
      exact ⟨a, hx, rfl⟩
    · rintro ⟨a', h, rfl⟩
      rw [hx] at h
      cases h
      rfl
  next e m₁ hx =>
    constructor
    · intro h
      cases h
      exact absurd rfl (hw e)
    · rintro ⟨a, h, -⟩
      rw [hx] at h
      cases h
  next f m₁ hx =>
    constructor
    · intro h
      cases h
    · rintro ⟨a, h, -⟩
      rw [hx] at h
      cases h

/-- A number is written in four bytes, the lowest one first. -/
lemma Region.storeSingle_eq {r : Region} {w : UInt32} :
    (r.storeSingle w : Service σ Unit) m =
      .ok () { m with memory := m.memory.writeList r.addr.toNat (Bytes.ofNat 4 w.toNat) } := by
  have hwrite {n : Nat} {xs : Array UInt8} (h : xs.size = n) (k : Memory) (a : Nat) :
      k.write a (⟨xs, h⟩ : Vector UInt8 n) = k.write a (⟨xs, rfl⟩ : Vector UInt8 xs.size) := by
    subst h
    rfl
  show EStateM.Result.ok () { m with memory := m.memory.write r.addr.toNat _ } = _
  rw [hwrite]
  rfl

namespace Boundary

variable {addr len : UInt32}

/-- What a check finds out. -/
def finding (touches : Bool) (violation : Violation) : Except Violation Unit :=
  if touches then .error violation else .ok ()

/-- A span that touches the secure region has a finding. -/
lemma finding_ne_ok {touches : Bool} {violation : Violation} (h : touches = true) :
    finding touches violation ≠ .ok () := by
  rw [finding, if_pos h]
  exact nofun

/-- Of two checks either alone is enough to fail. -/
lemma bind_finding_ne_ok {touches touches' : Bool} {violation violation' : Violation}
    (h : touches = true ∨ touches' = true) :
    ((finding touches violation).bind fun () => finding touches' violation') ≠ .ok () := by
  cases touches with
  | true => exact nofun
  | false => exact finding_ne_ok (h.resolve_left nofun)

/-- A check is never refused itself, and nothing happens to the region while it is logged. -/
lemma judge_run (touches : Bool) (violation : Violation) (m : Machine σ) :
    ∃ k, (judge touches violation : Service σ _) m = .ok (finding touches violation) k ∧ k.region = m.region := by
  cases touches with
  | true => exact ⟨_, rfl, Machine.region_log ..⟩
  | false => exact ⟨m, rfl, rfl⟩

/-- Checking a span of the window finds whether it touches the secure window, and fixes the bounds. -/
lemma checkWindow_run (addr len : UInt32) (m : Machine σ) :
    ∃ k, (checkWindow addr len : Service σ _) m =
        .ok (finding (m.bounds.window.touches ⟨addr⟩ len) (.window ⟨addr⟩)) k ∧ k.region = some m.bounds :=
  judge_run _ _ m.fixRegion

/-- Checking a span of the flash finds whether it touches the secure flash, and fixes the bounds. -/
lemma checkFlash_run (addr len : UInt32) (m : Machine σ) :
    ∃ k, (checkFlash addr len : Service σ _) m =
        .ok (finding (m.bounds.flash.touches ⟨addr⟩ len) (.flash ⟨addr⟩)) k ∧ k.region = some m.bounds :=
  judge_run _ _ m.fixRegion

/-- A span is judged innocuous exactly if it does not touch, and then nothing is noted. -/
lemma judge_ok_iff {touches : Bool} {v : Violation} :
    (judge touches v : Service σ _) m = .ok (.ok ()) m' ↔ touches = false ∧ m' = m := by
  cases touches with
  | true =>
    constructor
    · intro h
      cases h
    · rintro ⟨h, -⟩
      cases h
  | false =>
    constructor
    · intro h
      exact ⟨rfl, (pure_ok_iff.1 h).2⟩
    · rintro ⟨-, rfl⟩
      rfl

/-- A check of a span of the window passes exactly if it does not touch the secure window. -/
lemma checkWindow_ok_iff :
    (checkWindow addr len : Service σ _) m = .ok (.ok ()) m' ↔
      m.bounds.window.touches ⟨addr⟩ len = false ∧ m' = m.fixRegion :=
  judge_ok_iff (m := m.fixRegion)

/-- A check of a span of the flash passes exactly if it does not touch the secure flash. -/
lemma checkFlash_ok_iff :
    (checkFlash addr len : Service σ _) m = .ok (.ok ()) m' ↔
      m.bounds.flash.touches ⟨addr⟩ len = false ∧ m' = m.fixRegion :=
  judge_ok_iff (m := m.fixRegion)

/-- Enforcing succeeds exactly if the check found nothing. -/
lemma enforce_ok_iff {check : String} {r : Except Violation Unit} :
    (enforce check r : Service σ Unit) m = .ok () m' ↔ r = .ok () ∧ m' = m := by
  cases r with
  | error v => exact ⟨nofun, fun h => by cases h.1⟩
  | ok a =>
    constructor
    · intro h
      exact ⟨rfl, (pure_ok_iff.1 h).2⟩
    · rintro ⟨-, rfl⟩
      rfl

end Boundary

namespace Window

open Mmu

/-- The devices are asked for with success exactly if there are any. -/
lemma requirePlatform_ok_iff :
    (Service.requirePlatform : Service σ Unit) m = .ok () m' ↔ m.platform = true ∧ m' = m := by
  show (if m.platform then pure () else Service.refuse .invalidState : Service σ Unit) m = _ ↔ _
  split
  next h =>
    constructor
    · intro h'
      exact ⟨h, (pure_ok_iff.1 h').2⟩
    · rintro ⟨-, rfl⟩
      rfl
  next h => exact ⟨fun h' => absurd h' throw_ne_ok, fun h' => absurd h'.1 h⟩

/-- Only installed devices have a table to work on. -/
lemma control_ok_iff {x : Control σ α} {a : α} :
    control x m = .ok a m' ↔ m.platform = true ∧ x m = .ok a m' := by
  have hadapt (k : Machine σ) :
      EStateM.adaptExcept (Stop.map ServiceError.ofMmu) x k = .ok a m' ↔ x k = .ok a m' := by
    unfold EStateM.adaptExcept
    cases x k <;> simp
  rw [control, bind_ok_iff]
  constructor
  · rintro ⟨_, k, hk, h⟩
    obtain ⟨hp, rfl⟩ := requirePlatform_ok_iff.1 hk
    exact ⟨hp, (hadapt k).1 h⟩
  · rintro ⟨hp, h⟩
    exact ⟨(), m, requirePlatform_ok_iff.2 ⟨hp, rfl⟩, (hadapt m).2 h⟩

section Lookups

variable {x : Except (Stop MmuError) α}

/-- A lookup is carried out exactly if it has an answer. -/
lemma ofExcept_ok_iff {a : α} : (Control.ofExcept x : Control σ α) m = .ok a m' ↔ x = .ok a ∧ m' = m := by
  cases x with
  | ok b => rw [Except.ok.injEq, ← pure_ok_iff, Control.ofExcept]
  | error e => exact ⟨fun h => absurd h throw_ne_ok, fun h => by cases h.1⟩

end Lookups

/-- A virtual address is translated as the table has it. -/
lemma toPhysical_control_ok_iff {id : UInt32} {v : VirtualAddress} {a : PhysicalAddress × Target} :
    (Control.toPhysical id v : Control σ _) m = .ok a m' ↔ m.table.toPhysical id v = .ok a ∧ m' = m :=
  ofExcept_ok_iff (x := m.table.toPhysical id v)

/-- A physical address is answered exactly if every check is passed and the table has one. -/
lemma toPhysical_ok_iff {id vaddr outAddr outTarget : Word} :
    toPhysical id vaddr outAddr outTarget m = .ok 1 m' ↔
      ∃ p target, Region.Claimable m.bounds outAddr 4 4 ∧ Region.Claimable m.bounds outTarget 4 4 ∧
        (⟨vaddr.toUInt32⟩ : VirtualAddress) ∉ m.bounds.window ∧ m.platform = true ∧
        m.table.toPhysical id.toUInt32 ⟨vaddr.toUInt32⟩ = .ok (p, target) ∧
        m' = { m.fixRegion with
          memory := (m.memory.writeList outAddr.toNat (Bytes.ofNat 4 p.toNat)).writeList outTarget.toNat
            (Bytes.ofNat 4 target.raw.toNat) } := by
  rw [toPhysical, Service.answer_ok_iff fun _ => by decide]
  constructor
  · rintro ⟨_, h, -⟩
    obtain ⟨r, k, hr, h₁⟩ := bind_ok_iff.1 h
    obtain ⟨haddr, rfl, rfl⟩ := (Region.claim_ok_iff (by decide)).1 hr
    obtain ⟨q, k, hq, h₂⟩ := bind_ok_iff.1 h₁
    obtain ⟨htarget, rfl, rfl⟩ := (Region.claim_ok_iff (by decide)).1 hq
    obtain ⟨v, k, hv, h₃⟩ := bind_ok_iff.1 h₂
    obtain ⟨_, l, he, h₄⟩ := bind_ok_iff.1 h₃
    obtain ⟨rfl, rfl⟩ := Boundary.enforce_ok_iff.1 he
    obtain ⟨hclear, rfl⟩ := Boundary.checkWindow_ok_iff.1 hv
    rw [← Bool.not_eq_true, AddressRange.touches_zero] at hclear
    obtain ⟨⟨p, target⟩, k, hp, h₅⟩ := bind_ok_iff.1 h₄
    obtain ⟨hplatform, hp⟩ := control_ok_iff.1 hp
    obtain ⟨hfound, rfl⟩ := toPhysical_control_ok_iff.1 hp
    -- neither write is refused; the second one may replace bytes of the first one
    obtain ⟨_, k, hstore, h₆⟩ := bind_ok_iff.1 h₅
    rw [Region.storeSingle_eq] at hstore
    cases hstore
    rw [Region.storeSingle_eq] at h₆
    cases h₆
    exact ⟨p, target, haddr, htarget, hclear, hplatform, hfound, rfl⟩
  · rintro ⟨p, target, haddr, htarget, hclear, hplatform, hfound, rfl⟩
    rw [← AddressRange.touches_zero, Bool.not_eq_true] at hclear
    refine ⟨(), bind_ok_iff.2 ⟨_, _, (Region.claim_ok_iff (by decide)).2 ⟨haddr, rfl, rfl⟩, ?_⟩, rfl⟩
    refine bind_ok_iff.2 ⟨_, _, (Region.claim_ok_iff (by decide)).2 ⟨htarget, rfl, rfl⟩, ?_⟩
    refine bind_ok_iff.2 ⟨_, _, Boundary.checkWindow_ok_iff.2 ⟨hclear, rfl⟩, ?_⟩
    refine bind_ok_iff.2 ⟨_, _, Boundary.enforce_ok_iff.2 ⟨rfl, rfl⟩, ?_⟩
    refine bind_ok_iff.2 ⟨_, _, control_ok_iff.2 ⟨hplatform, toPhysical_control_ok_iff.2 ⟨hfound, rfl⟩⟩, ?_⟩
    exact bind_ok_iff.2 ⟨_, _, Region.storeSingle_eq, Region.storeSingle_eq⟩

/-- A physical address is translated as the table has it. -/
lemma toVirtual_control_ok_iff {id : UInt32} {p : PhysicalAddress} {t : Target} {b : Bus} {v : VirtualAddress} :
    (Control.toVirtual id p t b : Control σ _) m = .ok v m' ↔ m.table.toVirtual id p t b = .ok v ∧ m' = m :=
  ofExcept_ok_iff (x := m.table.toVirtual id p t b)

/-- A window address is answered exactly if every check is passed and the table has one. -/
lemma toVirtual_ok_iff {id paddr kind side out : Word} :
    toVirtual id paddr kind side out m = .ok 1 m' ↔
      ∃ t b v, Target.ofRaw? kind.toUInt32 = some t ∧ Bus.ofRaw? side.toUInt32 = some b ∧
        Region.Claimable m.bounds out 4 4 ∧ (⟨paddr.toUInt32⟩ : PhysicalAddress) ∉ m.bounds.flash ∧
        m.platform = true ∧ m.table.toVirtual id.toUInt32 ⟨paddr.toUInt32⟩ t b = .ok v ∧
        m' = { m.fixRegion with memory := m.memory.writeList out.toNat (Bytes.ofNat 4 v.toNat) } := by
  rw [toVirtual, Service.answer_ok_iff fun _ => by decide]
  constructor
  · rintro ⟨_, h, -⟩
    obtain ⟨t, k, ht, h₁⟩ := bind_ok_iff.1 h
    obtain ⟨hkind, rfl⟩ := Service.validArg_ok_iff.1 ht
    obtain ⟨b, k, hb, h₂⟩ := bind_ok_iff.1 h₁
    obtain ⟨hside, rfl⟩ := Service.validArg_ok_iff.1 hb
    obtain ⟨r, k, hr, h₃⟩ := bind_ok_iff.1 h₂
    obtain ⟨hout, rfl, rfl⟩ := (Region.claim_ok_iff (by decide)).1 hr
    obtain ⟨v, k, hv, h₄⟩ := bind_ok_iff.1 h₃
    obtain ⟨_, l, he, h₅⟩ := bind_ok_iff.1 h₄
    obtain ⟨rfl, rfl⟩ := Boundary.enforce_ok_iff.1 he
    obtain ⟨hclear, rfl⟩ := Boundary.checkFlash_ok_iff.1 hv
    rw [← Bool.not_eq_true, AddressRange.touches_zero] at hclear
    obtain ⟨v, k, hv, h₆⟩ := bind_ok_iff.1 h₅
    obtain ⟨hplatform, hv⟩ := control_ok_iff.1 hv
    obtain ⟨hfound, rfl⟩ := toVirtual_control_ok_iff.1 hv
    rw [Region.storeSingle_eq] at h₆
    cases h₆
    exact ⟨t, b, v, hkind, hside, hout, hclear, hplatform, hfound, rfl⟩
  · rintro ⟨t, b, v, hkind, hside, hout, hclear, hplatform, hfound, rfl⟩
    rw [← AddressRange.touches_zero, Bool.not_eq_true] at hclear
    refine ⟨(), bind_ok_iff.2 ⟨t, m, Service.validArg_ok_iff.2 ⟨hkind, rfl⟩, ?_⟩, rfl⟩
    refine bind_ok_iff.2 ⟨b, m, Service.validArg_ok_iff.2 ⟨hside, rfl⟩, ?_⟩
    refine bind_ok_iff.2 ⟨_, _, (Region.claim_ok_iff (by decide)).2 ⟨hout, rfl, rfl⟩, ?_⟩
    refine bind_ok_iff.2 ⟨_, _, Boundary.checkFlash_ok_iff.2 ⟨hclear, rfl⟩, ?_⟩
    refine bind_ok_iff.2 ⟨_, _, Boundary.enforce_ok_iff.2 ⟨rfl, rfl⟩, ?_⟩
    refine bind_ok_iff.2 ⟨v, _, control_ok_iff.2 ⟨hplatform, toVirtual_control_ok_iff.2 ⟨hfound, rfl⟩⟩, ?_⟩
    exact Region.storeSingle_eq

end Window

end SecureWorld
