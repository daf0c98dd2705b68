import SecureWorld.Boot
import SecureWorld.Device.Bench
import SecureWorld.Proofs.Protocol
import SecureWorld.Proofs.Runs

/-!
# Isolation of the window

The open world never gets to see secure flash through its own part of the window. `Table.Isolated` is the
invariant, `Policy.isolating` the policy under which a request keeps it, and `isolation_of_reaches` says what
follows for every machine that calls can lead to.
-/

namespace SecureWorld

variable {σ : Type}

namespace Mmu.Table

variable {t t' : Table} {b : Bounds} {v : VirtualAddress} {p : PhysicalAddress} {len : UInt32} {first : Nat}

/-- No entry in use whose page of the window lies outside the secure part selects a page of secure flash. -/
def Isolated (b : Bounds) (t : Table) : Prop :=
  ∀ i target page, t[i]?.bind Entry.selected? = some (target, page) →
    (windowPage i).Outside b.window → ¬ page.Inside b.flash

/-- The entries of the secure part of the window are those of another table. -/
def Keeps (b : Bounds) (t t' : Table) : Prop :=
  ∀ i < Layout.windowPages, (windowPage i).Inside b.window → t'[i]? = t[i]?

/-- A run of entries for a window region that touches no secure page, none of which selects a secure page. -/
lemma writeRun_isolated {es : List Entry} (hrun : windowRun v len = .ok (first, es.length))
    (hv : b.window.touches v len = false)
    (hes : ∀ (k : Nat) target page, es[k]?.bind Entry.selected? = some (target, page) → ¬ page.Inside b.flash) :
    (t.Isolated b → (t.writeRun first es).Isolated b) ∧ t.Keeps b (t.writeRun first es) := by
  obtain ⟨hlen, hfit, hstart, hlast⟩ := windowRun_ok hrun
  constructor
  · intro ht i target page hi hout
    rw [getElem?_writeRun hfit] at hi
    split at hi
    · exact hes _ target page hi
    · exact ht i target page hi hout
  · intro i hi hin
    rw [getElem?_writeRun hfit, if_neg]
    -- a written entry stands behind a page that the region has a byte in, which is outside the secure part
    rintro ⟨hlow, hhigh⟩
    have hspan := hlast (i - first) (by omega)
    have hpage : (v.page .k64).number = v.toNat / 0x10000 := rfl
    have hbegin : (v.page .k64).number ≤ (windowPage i).number := by
      rw [hpage, windowPage_number hi]
      omega
    have hend : (windowPage i).number * 0x10000 < v.toNat + len.toNat := by
      rw [windowPage_number hi]
      grind
    exact (Page.outside_of_touches hlen hv hbegin hend).not_inside hin

/-- Mapping a region that touches no secure page keeps a table isolated and its secure entries in place. -/
lemma map_isolated {id n : UInt32} {target : Target} (hv : b.window.touches v len = false)
    (hp : b.flash.touches p len = false) (h : t.map id target v p len = .ok (n, t')) :
    (t.Isolated b → t'.Isolated b) ∧ t.Keeps b t' := by
  obtain ⟨first, es, hrun, hphys, hsel, rfl⟩ := map_ok h
  refine writeRun_isolated hrun hv ?_
  intro k target' page hk
  obtain ⟨hlen, -, -, hlast⟩ := windowRun_ok hrun
  obtain ⟨hbase, -⟩ := checkPhysical_ok hphys
  have hfit := pages_fit hrun hphys
  cases he : es[k]? with
  | none =>
    rw [he] at hk
    cases hk
  | some e =>
    rw [he, Option.bind_some, (mapping_ok_iff.1 (hsel k e he)).2] at hk
    cases hk
    -- the page of the entry has a byte of the physical region, which touches no secure page
    obtain ⟨hk, -⟩ := List.getElem?_eq_some_iff.1 he
    have hspan := hlast k hk
    have hnum : (Page.ofNumber ((p.page .k64).number + k) : PhysicalPage).number = (p.page .k64).number + k :=
      ofNumber_number (by omega)
    generalize (Page.ofNumber ((p.page .k64).number + k) : PhysicalPage) = q at hnum ⊢
    exact (Page.outside_of_touches hlen hp (by omega) (by grind)).not_inside

/-- Unmapping a region that touches no secure page keeps a table isolated and its secure entries in place. -/
lemma unmap_isolated {id : UInt32} {n : Nat} (hv : b.window.touches v len = false)
    (h : t.unmap id v len = .ok (n, t')) : (t.Isolated b → t'.Isolated b) ∧ t.Keeps b t' := by
  obtain ⟨first, hrun, rfl⟩ := unmap_ok h
  refine writeRun_isolated (by rwa [List.length_replicate]) hv ?_
  intro k target page hk
  rw [List.getElem?_replicate] at hk
  split at hk <;> cases hk

/-- In an isolated table no window address outside the secure part leads to secure flash. -/
lemma toPhysical_isolated {id : UInt32} {target : Target} (hb : b.aligned = true) (ht : t.Isolated b)
    (hv : b.window.touches v 0 = false) (h : t.toPhysical id v = .ok (p, target)) : p ∉ b.flash := by
  obtain ⟨⟨hwstart, hwstop⟩, hfstart, hfstop⟩ := Bounds.aligned_iff.1 hb
  obtain ⟨-, i, -, hpage, hsel, -⟩ := toPhysical_ok_iff.1 h
  rw [← Bool.not_eq_true, AddressRange.touches_zero] at hv
  have hout : (windowPage i).Outside b.window := by
    refine Page.outside_of_not_inside hwstart hwstop fun hin => hv (hin v hpage)
  exact fun hp => ht i target _ hsel hout (Page.inside_of_mem hfstart hfstop hp)

end Mmu.Table

open Mmu

/-- The policy under which a table stays isolated and keeps the entries of the secure part of the window. -/
def Policy.isolating (b : Bounds) : Policy where
  bounds := b
  Remaps t t' := (t.Isolated b → t'.Isolated b) ∧ t.Keeps b t'
  refl _ := ⟨id, fun _ _ _ => rfl⟩
  trans h k := ⟨k.1 ∘ h.1, fun i hi hin => (k.2 i hi hin).trans (h.2 i hi hin)⟩
  map hv hp h := Table.map_isolated hv hp h
  unmap hv h := Table.unmap_isolated hv h

namespace Machine

/-- The secure region of a machine: bounds that were accepted when they were installed, or the bounds of the
layout while nothing has fixed the region. -/
inductive Guards (m : Machine σ) : Bounds → Prop where
  | installed {k k' : Machine σ} {b : Bounds} : k.installRegion b = .ok k' → m.region = some b → Guards m b
  | layout : m.region = none → Guards m .ofLayout

/-- The machines that the open world can lead a machine to, call by call; a call that halts ends there. Between
two calls it may write to memory. -/
inductive Reaches (D : Drivers σ) (m₀ : Machine σ) : Machine σ → Prop where
  | start : Reaches D m₀ m₀
  | call {m : Machine σ} (argc : Word) (caller : Memory) (address : Word) : Reaches D m₀ m →
    Reaches D m₀ (endState (enter D argc caller address m))
  | write {m : Machine σ} (memory : Memory) : Reaches D m₀ m → Reaches D m₀ { m with memory := memory }

variable {D : Drivers σ} {m₀ m : Machine σ} {b : Bounds}

/-- The bounds that guard a machine are its bounds. -/
lemma Guards.bounds_eq (h : m.Guards b) : m.bounds = b := by
  cases h with
  | installed _ h => rw [bounds, h, Option.getD_some]
  | layout h => rw [bounds, h, Option.getD_none]

/-- The installer accepts no other bounds than those that end at bases of pages. -/
lemma Guards.aligned (h : m.Guards b) : b.aligned = true := by
  cases h with
  | installed h _ =>
    unfold installRegion at h
    split at h
    · cases h
    next hb => simpa using hb
  | layout => decide

/-- One call keeps the bounds and the isolation of the table. -/
lemma enter_isolated (D : Drivers σ) (argc : Word) (caller : Memory) (address : Word) (hb : m.bounds = b) :
    (endState (enter D argc caller address m)).bounds = b ∧
      (m.table.Isolated b → (endState (enter D argc caller address m)).table.Isolated b) ∧
      m.table.Keeps b (endState (enter D argc caller address m)).table := by
  have hc := dispatch_confined D (.isolating b) (⟨caller, address⟩ : PointerCursor) argc.toNat
  have hagree := hc.agree (.refl hb)
  exact ⟨hagree.alike.bounds, hagree.allows.table⟩

/-- Every machine that calls lead to has the bounds of the first one, an isolated table and the first one's
entries in the secure part of the window. -/
lemma Reaches.isolated (h : Reaches D m₀ m) (hb : m₀.bounds = b) (ht : m₀.table.Isolated b) :
    m.bounds = b ∧ m.table.Isolated b ∧ m₀.table.Keeps b m.table := by
  induction h with
  | start => exact ⟨hb, ht, fun _ _ _ => rfl⟩
  | call argc caller address h ih =>
    obtain ⟨hm, hi, hk⟩ := ih
    obtain ⟨hm', hi', hk'⟩ := enter_isolated D argc caller address hm
    exact ⟨hm', hi' hi, fun i hlt hin => (hk' i hlt hin).trans (hk i hlt hin)⟩
  | write memory h ih => exact ih

/-- A call that was understood is answered by the handler of its service. -/
lemma enter_served {argc address : Word} {caller : Memory} {r : CallRequest} {s : ServiceId}
    (hdecode : (CallRequest.decode (⟨caller, address⟩ : PointerCursor) argc.toNat).1 = .ok r)
    (hservice : r.service = s.number) :
    enter D argc caller address m = concluded s.number ((s.handler D).call r.argv.args
      (entered s.number (s.handler D).arity r.argv.args.length m)) := by
  have hd := (dispatch_of_ok (t := serviceTable D) (m := m) (Prod.ext hdecode rfl)).2
  rwa [hservice, lookup_serviceTable, ServiceId.serving_number] at hd

/-- A call for the physical address behind a window address that is answered with success. -/
lemma enter_toPhysical {argc address : Word} {caller : Memory} {r : CallRequest} {m' : Machine σ}
    (hdecode : (CallRequest.decode (⟨caller, address⟩ : PointerCursor) argc.toNat).1 = .ok r)
    (hservice : r.service = ServiceId.toPhysical.number) (h : enter D argc caller address m = .ok 1 m') :
    m.bounds.window.touches ⟨(r.word 1).toUInt32⟩ 0 = false ∧
      ∃ p target, m.table.toPhysical (r.word 0).toUInt32 ⟨(r.word 1).toUInt32⟩ = .ok (p, target) ∧
        m'.memory = (m.memory.writeList (r.word 2).toNat (Bytes.ofNat 4 p.toNat)).writeList (r.word 3).toNat
          (Bytes.ofNat 4 target.raw.toNat) := by
  have hcall : (ServiceId.toPhysical.handler D).call r.argv.args =
      Window.toPhysical (r.word 0) (r.word 1) (r.word 2) (r.word 3) := by
    simp only [Handler.call, ServiceId.handler, Curried.apply_succ, getD_tail]
    rfl
  rw [enter_served hdecode hservice, hcall] at h
  obtain ⟨k, hk, hmem⟩ := concluded_ok h
  obtain ⟨p, target, -, -, hclear, -, hp, rfl⟩ := Window.toPhysical_ok_iff.1 hk
  rw [entered_bounds, ← AddressRange.touches_zero, Bool.not_eq_true] at hclear
  rw [entered_table] at hp
  refine ⟨hclear, p, target, hp, hmem.trans ?_⟩
  dsimp only
  rw [entered_memory]

end Machine

/-- Whatever the open world calls for, in whatever order and with whatever words: if the table was isolated at
first, it stays isolated, the entries of the secure part of the window stay what they were, and no call for the
physical address behind a window address finds one in secure flash. -/
theorem isolation_of_reaches (D : Drivers σ) {m₀ m : Machine σ} {b : Bounds} (hb : m₀.Guards b)
    (ht : m₀.table.Isolated b) (h : m₀.Reaches D m) :
    m.table.Isolated b ∧ m₀.table.Keeps b m.table ∧
      ∀ (argc : Word) (caller : Memory) (address : Word) (r : CallRequest) (m' : Machine σ),
        (CallRequest.decode (⟨caller, address⟩ : PointerCursor) argc.toNat).1 = .ok r →
        r.service = ServiceId.toPhysical.number → enter D argc caller address m = .ok 1 m' →
        ∃ p target, m.table.toPhysical (r.word 0).toUInt32 ⟨(r.word 1).toUInt32⟩ = .ok (p, target) ∧
          p ∉ b.flash ∧
          m'.memory = (m.memory.writeList (r.word 2).toNat (Bytes.ofNat 4 p.toNat)).writeList
            (r.word 3).toNat (Bytes.ofNat 4 target.raw.toNat) := by
  obtain ⟨hm, hi, hk⟩ := h.isolated hb.bounds_eq ht
  refine ⟨hi, hk, ?_⟩
  intro argc caller address r m' hdecode hservice hcall
  obtain ⟨hv, p, target, hp, hmem⟩ := Machine.enter_toPhysical hdecode hservice hcall
  rw [hm] at hv
  exact ⟨p, target, hp, Table.toPhysical_isolated hb.aligned hi hv hp, hmem⟩

/-- A table with an entry for the first page of the window, and with nothing else mapped. -/
def Mmu.Table.ofFirst (e : Entry) : Table :=
  Table.empty.set 0 e (by decide)

/-- The first page of the window is a secure one, so it may lead anywhere. -/
lemma Mmu.Table.ofFirst_isolated (e : Entry) : Isolated .ofLayout (ofFirst e) := by
  intro i target page hi hout
  by_cases h : i = 0
  · subst h
    exact absurd (by decide) (hout ⟨Layout.windowBase⟩ (by decide))
  · rw [ofFirst, Vector.getElem?_set_ne (by decide) (Ne.symm h), Table.empty, Vector.getElem?_replicate] at hi
    split at hi <;> cases hi

/-- The first page of the window leads to a page of secure flash, and nothing else is mapped. -/
def Mmu.Table.secured : Table :=
  Table.empty.set 0 { Entry.unused with pageNumber := ⟨1, by decide⟩, valid := true } (by decide)

/-- The secured table is isolated under the bounds of the layout. -/
lemma Mmu.Table.secured_isolated : secured.Isolated .ofLayout :=
  ofFirst_isolated _

/-- A request to map a page of flash behind the secure part, carried out beside a mapping of secure flash. -/
theorem isolation_of_mapping :
    let m₀ : Machine Bench := { Machine.powerUp .initial with platform := true, table := .secured }
    let words := [41, 0, 1, 0x42100000, 0x80000, 0x10000, 0x40820000].flatMap (Bytes.ofNat 8)
    let m := endState (enter Bench.drivers 7 (Memory.zero.writeList 0x1000 words) 0x1000 m₀)
    m.table.Isolated .ofLayout ∧ m₀.table.Keeps .ofLayout m.table := by
  intro m₀ words m
  have hm : m₀.Reaches Bench.drivers m := .call 7 (Memory.zero.writeList 0x1000 words) 0x1000 .start
  obtain ⟨hi, hk, -⟩ := isolation_of_reaches Bench.drivers (.layout rfl) Table.secured_isolated hm
  exact ⟨hi, hk⟩

end SecureWorld
