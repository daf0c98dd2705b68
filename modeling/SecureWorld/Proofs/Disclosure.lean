import SecureWorld.Proofs.Answers
import SecureWorld.Proofs.Isolation

/-!
# What the way back discloses

A call for the window address of a physical address is judged by the physical address alone, and answered by the
first entry that leads there. `answer_of_reaches` says when the answer can lie in the secure part of the window:
only if the secure world had mapped the page that is asked for, which is not a secure one, at this very address.
`discloses_shared_page` is a call of this kind.
-/

namespace SecureWorld

open Mmu

variable {σ : Type} {D : Drivers σ} {m₀ m m' : Machine σ} {b : Bounds}

namespace Machine

variable {argc address : Word} {caller : Memory} {r : CallRequest}

/-- A call for the window address of a physical address that is answered with success. -/
lemma enter_toVirtual
    (hdecode : (CallRequest.decode (⟨caller, address⟩ : PointerCursor) argc.toNat).1 = .ok r)
    (hservice : r.service = ServiceId.toVirtual.number) (h : enter D argc caller address m = .ok 1 m') :
    (⟨(r.word 1).toUInt32⟩ : PhysicalAddress) ∉ m.bounds.flash ∧
      ∃ target bus v, Target.ofRaw? (r.word 2).toUInt32 = some target ∧
        m.table.toVirtual (r.word 0).toUInt32 ⟨(r.word 1).toUInt32⟩ target bus = .ok v ∧
        m'.memory = m.memory.writeList (r.word 4).toNat (Bytes.ofNat 4 v.toNat) := by
  rw [enter_served hdecode hservice, call_toVirtual] at h
  obtain ⟨k, hk, hmem⟩ := concluded_ok h
  obtain ⟨target, bus, v, hkind, -, -, hclear, -, hv, rfl⟩ := Window.toVirtual_ok_iff.1 hk
  rw [entered_bounds] at hclear
  rw [entered_table] at hv
  refine ⟨hclear, target, bus, v, hkind, hv, hmem.trans ?_⟩
  dsimp only
  rw [entered_memory]
  rfl

end Machine

/-- The way back leads into the secure part of the window only by an entry that was there before. -/
lemma Mmu.Table.Keeps.toPhysical {t t' : Table} {id : UInt32} {p : PhysicalAddress} {target : Target} {bus : Bus}
    {v : VirtualAddress} (hk : t.Keeps b t') (hb : b.aligned = true) (hv : v ∈ b.window)
    (h : t'.toVirtual id p target bus = .ok v) : t.toPhysical id v = .ok (p, target) := by
  obtain ⟨⟨hstart, hstop⟩, -⟩ := Bounds.aligned_iff.1 hb
  obtain ⟨hid, e, he, i, hi, hpage, hoff, hfound, -⟩ := Table.toVirtual_ok_iff.1 h
  have hinside : (windowPage i).Inside b.window := hpage ▸ Page.inside_of_mem hstart hstop hv
  rw [hk i hi hinside] at hfound
  refine Table.toPhysical_ok_iff.2 ⟨hid, i, hi, hpage, ?_, hoff.symm⟩
  rw [hfound]
  exact (mapping_ok_iff.1 he).2

/-- The first page of the window leads to the first page of flash behind the secure part, and nothing else is
mapped. -/
def Mmu.Table.shared : Table :=
  .ofFirst { Entry.unused with pageNumber := ⟨8, by decide⟩, valid := true }

/-- The shared table is isolated under the bounds of the layout. -/
lemma Mmu.Table.shared_isolated : shared.Isolated .ofLayout :=
  ofFirst_isolated _

/-- The page is found at the base of the window. -/
lemma Mmu.Table.shared_toVirtual : shared.toVirtual 0 ⟨0x80000⟩ .flash .data = .ok ⟨Layout.windowBase⟩ :=
  toVirtual_ok_iff.2 ⟨rfl, _, rfl, 0, by decide, rfl, rfl, rfl, fun _ h => absurd h (Nat.not_lt_zero _)⟩

/-- A machine whose open world has been started, with one page shared. -/
def Machine.sharing : Machine Bench :=
  { Machine.powerUp .initial with platform := true, table := .shared }

/-- A call for the window address of the page that is shared. -/
def CallRequest.askShared : CallRequest := ⟨44, ⟨[0, 0x80000, 1, 1, 0x40820020], by decide⟩⟩

/-- A memory with the words of that call. -/
def Memory.askShared : Memory :=
  Memory.zero.writeList 0x1000 ([44, 0, 0x80000, 1, 1, 0x40820020].flatMap (Bytes.ofNat 8))

/-- The words in memory are decoded to the request. -/
lemma CallRequest.decode_askShared :
    (decode (⟨.askShared, 0x1000⟩ : PointerCursor) (6 : Word).toNat).1 = .ok askShared := by
  rfl

/-- The call is answered with the base of the window. -/
lemma Machine.sharing_answers :
    ∃ m', enter Bench.drivers 6 .askShared 0x1000 sharing = .ok 1 m' ∧
      m'.memory = sharing.memory.writeList 0x40820020 (Bytes.ofNat 4 Layout.windowBase.toNat) := by
  have hclaim : Region.Claimable sharing.bounds 0x40820020 4 4 := ⟨by decide, by decide, by decide, by decide⟩
  have hserved : ∃ k, Window.toVirtual 0 0x80000 1 1 0x40820020 sharing = .ok 1 k ∧
      k.memory = sharing.memory.writeList 0x40820020 (Bytes.ofNat 4 Layout.windowBase.toNat) :=
    ⟨_, Window.toVirtual_ok_iff.2
      ⟨.flash, .data, _, rfl, rfl, hclaim, by decide, rfl, Table.shared_toVirtual, rfl⟩, rfl⟩
  obtain ⟨k, hk, hmem⟩ := hserved
  have henter : enter Bench.drivers 6 .askShared 0x1000 sharing = concluded 44 (.ok 1 k) := by
    rw [enter_served CallRequest.decode_askShared (s := .toVirtual) rfl, call_toVirtual]
    exact congrArg (concluded 44) hk
  exact ⟨_, henter, (memory_log ..).trans hmem⟩

/-- Whatever the open world calls for: if the table was isolated at first and a call for the window address of a
physical address is answered with success, the address that is written lies in the secure part of the window only
if the table at first translates it to the address that is asked for, which is not one of secure flash. -/
theorem answer_of_reaches (D : Drivers σ) (hb : m₀.Guards b) (ht : m₀.table.Isolated b) (h : m₀.Reaches D m)
    (argc : Word) (caller : Memory) (address : Word) (r : CallRequest) (m' : Machine σ)
    (hdecode : (CallRequest.decode (⟨caller, address⟩ : PointerCursor) argc.toNat).1 = .ok r)
    (hservice : r.service = ServiceId.toVirtual.number) (hcall : enter D argc caller address m = .ok 1 m') :
    ∃ target v, Target.ofRaw? (r.word 2).toUInt32 = some target ∧
      m'.memory = m.memory.writeList (r.word 4).toNat (Bytes.ofNat 4 v.toNat) ∧
      (v ∈ b.window → (⟨(r.word 1).toUInt32⟩ : PhysicalAddress) ∉ b.flash ∧
        m₀.table.toPhysical (r.word 0).toUInt32 v = .ok (⟨(r.word 1).toUInt32⟩, target)) := by
  obtain ⟨hm, -, hk⟩ := h.isolated hb.bounds_eq ht
  obtain ⟨hclear, target, bus, v, hkind, hv, hmem⟩ := Machine.enter_toVirtual hdecode hservice hcall
  rw [hm] at hclear
  exact ⟨target, v, hkind, hmem, fun hin => ⟨hclear, hk.toPhysical hb.aligned hin hv⟩⟩

/-- The secure world shares a page with the open world that it sees in its own part of the window. The table is
isolated, and yet the first call is answered with a secure window address. -/
theorem discloses_shared_page :
    Machine.sharing.Guards .ofLayout ∧ Machine.sharing.table.Isolated .ofLayout ∧
      Machine.sharing.Reaches Bench.drivers .sharing ∧
      (CallRequest.decode (⟨.askShared, 0x1000⟩ : PointerCursor) (6 : Word).toNat).1 = .ok .askShared ∧
      CallRequest.askShared.service = ServiceId.toVirtual.number ∧
      ∃ m', enter Bench.drivers 6 .askShared 0x1000 .sharing = .ok 1 m' ∧
        m'.memory.readNat (CallRequest.askShared.word 4).toNat 4 = 0x42000000 ∧
        (⟨0x42000000⟩ : VirtualAddress) ∈ Bounds.ofLayout.window := by
  obtain ⟨m', hcall, hmem⟩ := Machine.sharing_answers
  refine ⟨.layout rfl, Table.shared_isolated, .start, CallRequest.decode_askShared, rfl, m', hcall, ?_, by decide⟩
  rw [hmem]
  rfl

/-- The table at first translates what is written to the page that was asked for. -/
theorem answer_of_shared_page :
    ∃ m' target v, enter Bench.drivers 6 .askShared 0x1000 .sharing = .ok 1 m' ∧
      m'.memory = Machine.sharing.memory.writeList 0x40820020 (Bytes.ofNat 4 v.toNat) ∧
      (v ∈ Bounds.ofLayout.window →
        Machine.sharing.table.toPhysical 0 v = .ok ((⟨0x80000⟩ : PhysicalAddress), target)) := by
  obtain ⟨m', hcall, -⟩ := Machine.sharing_answers
  obtain ⟨target, v, -, hstored, hv⟩ := answer_of_reaches Bench.drivers (.layout rfl) Table.shared_isolated .start 6
    .askShared 0x1000 .askShared m' CallRequest.decode_askShared rfl hcall
  exact ⟨m', target, v, hcall, hstored, fun hin => (hv hin).2⟩

end SecureWorld
