import Mathlib.Order.Bounds.Basic
import Mathlib.Order.WellFounded
import SecureWorld.Proofs.Confinement
import SecureWorld.Proofs.Table

/-!
# Translation in both directions

Whatever is mapped and unmapped, the entries of the table stay plain (`Edit.table_run`, `Machine.edited_plain`).
In a table of plain entries the way back is the least address of the way forth (`Table.Plain.toVirtual_ok_iff`),
and `translations_inverse` says what this makes of the two translations.
-/

namespace SecureWorld.Mmu

variable {σ : Type} {m : Machine σ} {t : Table} {id : UInt32} {target : Target} {v : VirtualAddress}
  {p : PhysicalAddress} {len : UInt32}

/-- A change of the table that is asked for, and that may be refused. -/
inductive Edit where
  | map (id : UInt32) (target : Target) (v : VirtualAddress) (p : PhysicalAddress) (len : UInt32)
  | unmap (id : UInt32) (v : VirtualAddress) (len : UInt32)
  | unmapAll

/-- Carry out an edit. -/
def Edit.run : Edit → Control σ Unit
  | .map id target v p len => do
    let _ ← Control.map id target v p len
  | .unmap id v len => Control.unmap id v len
  | .unmapAll => Control.unmapAll

namespace Table

/-- Every entry of the table is plain. -/
def Plain (t : Table) : Prop :=
  ∀ (i : Nat) e, t[i]? = some e → e.Plain

/-- All entries of an empty table are plain. -/
lemma empty_plain : empty.Plain := by
  intro i e h
  rw [empty, Vector.getElem?_replicate] at h
  split at h
  · cases h
    exact ⟨rfl, rfl⟩
  · cases h

/-- Writing plain entries keeps all entries plain. -/
lemma Plain.writeRun {first : Nat} {es : List Entry} (ht : t.Plain) (hfit : first + es.length ≤ Layout.windowPages)
    (hes : ∀ e ∈ es, e.Plain) : (t.writeRun first es).Plain := by
  intro i e h
  rw [getElem?_writeRun hfit] at h
  split at h
  · exact hes e (List.mem_of_getElem? h)
  · exact ht i e h

/-- In a table of plain entries an entry is the one made for a page exactly if it selects the page. -/
lemma Plain.getElem?_mapping {e : Entry} {i : Nat} {q : PhysicalPage} (ht : t.Plain)
    (he : Entry.mapping q target = .ok e) : t[i]? = some e ↔ t[i]?.bind Entry.selected? = some (target, q) := by
  obtain ⟨-, hsel⟩ := mapping_ok_iff.1 he
  constructor
  · intro h
    rw [h]
    exact hsel
  · intro h
    obtain ⟨e', hi, hsel'⟩ := Option.bind_eq_some_iff.1 h
    rwa [← mapping_unique he (ht i e' hi) hsel']

/-- A window address is where its page and its distance from the base of the page put it. -/
lemma toNat_of_page {i : Nat} (hi : i < Layout.windowPages) (hpage : v.page .k64 = windowPage i) :
    v.toNat = (0x4200 + i) * 0x10000 + (v.offset .k64).value := by
  have hjoin := Page.toNat_join (windowPage i) (v.offset .k64)
  rwa [← Page.eq_join_iff.2 ⟨hpage, rfl⟩, windowPage_number hi] at hjoin

/-- In a table of plain entries the way back leads to the least of the addresses that are translated to the
physical address. -/
lemma Plain.toVirtual_ok_iff {bus : Bus} (ht : t.Plain) :
    t.toVirtual id p target bus = .ok v ↔ IsLeast {u | t.toPhysical id u = .ok (p, target)} v := by
  rw [Table.toVirtual_ok_iff]
  constructor
  · rintro ⟨hid, e, he, i, hi, hpage, hoff, hfound, hfirst⟩
    refine ⟨toPhysical_ok_iff.2 ⟨hid, i, hi, hpage, (ht.getElem?_mapping he).1 hfound, hoff.symm⟩, ?_⟩
    intro u hu
    obtain ⟨-, j, hj, hpage', hsel, hoff'⟩ := toPhysical_ok_iff.1 hu
    -- the entries of both addresses are made for the page, so the first of them is not behind the other
    have hij : i ≤ j := Nat.not_lt.1 fun hlt => hfirst j hlt ((ht.getElem?_mapping he).2 hsel)
    have hv := toNat_of_page hi hpage
    have hu' := toNat_of_page hj hpage'
    rw [hoff] at hv
    rw [← hoff'] at hu'
    rw [Address.le_iff_toNat]
    omega
  · rintro ⟨hv, hleast⟩
    obtain ⟨hid, i, hi, hpage, hsel, hoff⟩ := toPhysical_ok_iff.1 hv
    obtain ⟨e, he, hsel'⟩ := Option.bind_eq_some_iff.1 hsel
    have hmap := mapping_ok_iff.2 ⟨ht i e he, hsel'⟩
    refine ⟨hid, e, hmap, i, hi, hpage, hoff.symm, he, ?_⟩
    intro j hj hfound
    have hlt : j < Layout.windowPages := by omega
    have hjoin := Page.eq_join_iff.1 (rfl : (windowPage j).join (p.offset .k64) = _)
    have hle := hleast (toPhysical_ok_iff.2
      ⟨hid, j, hlt, hjoin.1, (ht.getElem?_mapping hmap).1 hfound, hjoin.2.symm⟩)
    have hvn := toNat_of_page hi hpage
    have hun := toNat_of_page hlt hjoin.1
    rw [← hoff] at hvn
    rw [hjoin.2] at hun
    rw [Address.le_iff_toNat] at hle
    omega

end Table

namespace Control

/-- A request to map ends as the operation on the table does, and replaces the table if it is carried out. -/
lemma map_run (id : UInt32) (target : Target) (v : VirtualAddress) (p : PhysicalAddress) (len : UInt32)
    (m : Machine σ) :
    (∃ n t, m.table.map id target v p len = .ok (n, t) ∧ outcome (map id target v p len m) = .ok n ∧
        (endState (map id target v p len m)).table = t) ∨
      ∃ e, m.table.map id target v p len = .error e ∧ map id target v p len m = .error e m := by
  change (∃ n t, _ ∧ outcome (EStateM.bind (ofExcept (m.table.map id target v p len)) _ m) = _ ∧
      (endState (EStateM.bind (ofExcept (m.table.map id target v p len)) _ m)).table = _) ∨
    ∃ e, _ ∧ EStateM.bind (ofExcept (m.table.map id target v p len)) _ m = _
  cases m.table.map id target v p len with
  | ok r => exact .inl ⟨r.1, r.2, rfl, rfl, Machine.table_log ..⟩
  | error e => exact .inr ⟨e, rfl, rfl⟩

/-- A request to unmap ends as the operation on the table does, and replaces the table if it is carried out. -/
lemma unmap_run (id : UInt32) (v : VirtualAddress) (len : UInt32) (m : Machine σ) :
    (∃ n t, m.table.unmap id v len = .ok (n, t) ∧ outcome (unmap id v len m) = .ok () ∧
        (endState (unmap id v len m)).table = t) ∨
      ∃ e, m.table.unmap id v len = .error e ∧ unmap id v len m = .error e m := by
  change (∃ n t, _ ∧ outcome (EStateM.bind (ofExcept (m.table.unmap id v len)) _ m) = _ ∧
      (endState (EStateM.bind (ofExcept (m.table.unmap id v len)) _ m)).table = _) ∨
    ∃ e, _ ∧ EStateM.bind (ofExcept (m.table.unmap id v len)) _ m = _
  cases m.table.unmap id v len with
  | ok r => exact .inl ⟨r.1, r.2, rfl, rfl, Machine.table_log ..⟩
  | error e => exact .inr ⟨e, rfl, rfl⟩

end Control

namespace Edit

/-- An edit that maps a region leaves the machine as the request to map does. -/
lemma endState_map : endState ((Edit.map id target v p len).run m) = endState (Control.map id target v p len m) := by
  show endState (EStateM.bind (Control.map id target v p len) _ m) = _
  unfold EStateM.bind
  cases Control.map id target v p len m with
  | ok n k => rfl
  | error e k => rfl

/-- The edit that unmaps everything does so to the table. -/
lemma table_unmapAll : (endState (Edit.unmapAll.run m)).table = m.table.unmapAll := by
  unfold run Control.unmapAll
  -- the 256 writes are kept out of sight of the comparison
  generalize Table.unmapAll = f
  rfl

/-- An edit writes a run of plain entries, the same one into the table of every machine; a refused one writes
none. -/
lemma table_run (e : Edit) : ∃ first es, first + es.length ≤ Layout.windowPages ∧ (∀ x ∈ es, x.Plain) ∧
    ∀ {σ : Type} (m : Machine σ), (endState (e.run m)).table = m.table.writeRun first es := by
  have hclear {count : Nat} : ∀ x ∈ List.replicate count Entry.unused, x.Plain := by
    intro x hx
    rw [List.eq_of_mem_replicate hx]
    exact ⟨rfl, rfl⟩
  cases e with
  | map id target v p len =>
    by_cases hpass : id = tableId ∧ (∃ first count, windowRun v len = .ok (first, count)) ∧
        checkPhysical target p len = .ok ()
    · obtain ⟨rfl, ⟨first, count, hrun⟩, hphys⟩ := hpass
      obtain ⟨es, rfl, hes, hmap⟩ := Table.map_eq hrun hphys
      obtain ⟨-, hfit, -⟩ := windowRun_ok hrun
      refine ⟨first, es, hfit, ?_, fun m => ?_⟩
      · intro x hx
        obtain ⟨k, hk⟩ := List.getElem?_of_mem hx
        exact (mapping_ok_iff.1 (hes k x hk)).1
      · rw [endState_map]
        rcases Control.map_run tableId target v p len m with ⟨n, t, h, -, ht⟩ | ⟨e, h, -⟩
        · rw [hmap] at h
          cases h
          exact ht
        · rw [hmap] at h
          cases h
    · -- refused, so that no entry is written
      refine ⟨0, [], Nat.zero_le _, nofun, fun m => ?_⟩
      rw [endState_map]
      rcases Control.map_run id target v p len m with ⟨n, t, h, -, -⟩ | ⟨e, -, he⟩
      · exact absurd (Table.map_passed h) hpass
      · rw [he]
        rfl
  | unmap id v len =>
    by_cases hpass : id = tableId ∧ ∃ first count, windowRun v len = .ok (first, count)
    · obtain ⟨rfl, first, count, hrun⟩ := hpass
      obtain ⟨-, hfit, -⟩ := windowRun_ok hrun
      refine ⟨first, List.replicate count .unused, by rwa [List.length_replicate], hclear, fun m => ?_⟩
      show (endState (Control.unmap tableId v len m)).table = _
      rcases Control.unmap_run tableId v len m with ⟨n, t, h, -, ht⟩ | ⟨e, h, -⟩
      · rw [Table.unmap_eq hrun] at h
        cases h
        exact ht
      · rw [Table.unmap_eq hrun] at h
        cases h
    · refine ⟨0, [], Nat.zero_le _, nofun, fun m => ?_⟩
      show (endState (Control.unmap id v len m)).table = _
      rcases Control.unmap_run id v len m with ⟨n, t, h, -, -⟩ | ⟨e, -, he⟩
      · exact absurd (Table.unmap_passed h) hpass
      · rw [he]
        rfl
  | unmapAll =>
    refine ⟨0, List.replicate Layout.windowPages .unused, ?_, hclear, fun m => table_unmapAll⟩
    rw [List.length_replicate, Nat.zero_add]

end Edit

end SecureWorld.Mmu

namespace SecureWorld

open Mmu

variable {σ : Type} {m : Machine σ}

namespace Machine

/-- The machine after edits of its table, one after the other, whether they are carried out or refused. -/
def edited (m : Machine σ) : List Edit → Machine σ
  | [] => m
  | e :: es => (endState (e.run m)).edited es

/-- No edit brings an entry into a table of plain entries that is not plain. -/
lemma edited_plain (h : m.table.Plain) (es : List Edit) : (m.edited es).table.Plain := by
  induction es generalizing m with
  | nil => exact h
  | cons e es ih =>
    obtain ⟨first, xs, hfit, hxs, hrun⟩ := e.table_run
    refine ih ?_
    rw [hrun]
    exact h.writeRun hfit hxs

end Machine

/-- A set of addresses has a least one. -/
lemma exists_isLeast {s : Space} {S : Set (Address s)} (h : S.Nonempty) : ∃ a, IsLeast S a := by
  obtain ⟨a, ha, hmin⟩ := (measure Address.toNat).wf.has_min S h
  refine ⟨a, ha, ?_⟩
  intro b hb
  exact Address.le_iff_toNat.2 (Nat.not_lt.1 (hmin b hb))

/-- In every table that edits make of the empty one, the two translations undo each other. A physical address
that a window address is translated to is translated back, for either bus, to the least window address of which
this holds, which is the one at first if no other page of the window leads to the same page; and what the way
back answers is translated forth to where it came from. -/
theorem translations_inverse (devices : σ) (es : List Edit) :
    let t := ((Machine.powerUp devices).edited es).table
    (∀ id v p target, t.toPhysical id v = .ok (p, target) →
      ∃ v', (∀ bus, t.toVirtual id p target bus = .ok v') ∧ v' ≤ v ∧ t.toPhysical id v' = .ok (p, target) ∧
        (∀ u < v', t.toPhysical id u ≠ .ok (p, target)) ∧
        ((∀ u q, t.toPhysical id u = .ok (q, target) → q.page .k64 = p.page .k64 → u.page .k64 = v.page .k64) →
          v' = v)) ∧
    ∀ id v p target bus, t.toVirtual id p target bus = .ok v → t.toPhysical id v = .ok (p, target) := by
  intro t
  have ht : t.Plain := Machine.edited_plain Table.empty_plain es
  constructor
  · intro id v p target hv
    obtain ⟨v', hleast⟩ := exists_isLeast (S := {u | t.toPhysical id u = .ok (p, target)}) ⟨v, hv⟩
    obtain ⟨hv', hle⟩ := hleast
    refine ⟨v', fun bus => ht.toVirtual_ok_iff.2 ⟨hv', hle⟩, hle hv, hv', ?_, ?_⟩
    · intro u hu hup
      have := hle hup
      rw [Address.lt_iff_toNat] at hu
      rw [Address.le_iff_toNat] at this
      omega
    · intro honly
      obtain ⟨-, i, -, -, -, hoff⟩ := Table.toPhysical_ok_iff.1 hv
      obtain ⟨-, j, -, -, -, hoff'⟩ := Table.toPhysical_ok_iff.1 hv'
      -- both addresses are on the one page, at the same distance from its base
      have hpage := honly v' p hv' rfl
      have hjoin := Page.eq_join_iff.2 ⟨hpage, hoff'.symm.trans hoff⟩
      rwa [Address.page_join_offset] at hjoin
  · intro id v p target bus h
    exact (ht.toVirtual_ok_iff.1 h).1

end SecureWorld
