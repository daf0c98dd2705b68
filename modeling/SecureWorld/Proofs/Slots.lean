import SecureWorld.Proofs.Runs

/-!
# Results in memory

A translation to a physical address has two results, the address and the number of its target, which are written
one after the other at places that the caller names. `results_of_toPhysical` says what is found at the two places
behind a translation that was answered with success: both results, unless the two places are one. This is not
looked at before the results are written, and `target_over_address` is a translation whose address is lost.
-/

namespace SecureWorld.Window

open Mmu

variable {σ : Type} {m m' : Machine σ}

/-- The places of two 32-bit numbers are the same or share no byte. -/
lemma slots_apart {a b : Word} (ha : a % 4 = 0) (hb : b % 4 = 0) (h : a ≠ b) :
    a.toNat + 4 ≤ b.toNat ∨ b.toNat + 4 ≤ a.toNat := by
  have hna : a.toNat % 4 = 0 := congrArg UInt64.toNat ha
  have hnb : b.toNat % 4 = 0 := congrArg UInt64.toNat hb
  have hne : a.toNat ≠ b.toNat := fun heq => h (UInt64.toNat_inj.1 heq)
  omega

/-- A 32-bit number has no bits that are dropped when it is written. -/
lemma readNat_single (M : Memory) (a : Nat) (w : UInt32) :
    (M.writeList a (Bytes.ofNat 4 w.toNat)).readNat a 4 = w.toNat := by
  rw [Memory.readNat_writeList]
  exact Nat.mod_eq_of_lt w.toNat_lt

/-- A machine whose devices are installed, with the first page behind the secure part of the window mapped to the page
of flash that is as far from its start. -/
def mapped : Machine Unit :=
  { Machine.powerUp () with
    platform := true
    table := Table.empty.set 16 { Entry.unused with pageNumber := ⟨16, by decide⟩, valid := true } (by decide) }

/-- The page at 0x42100000 leads to the page at 0x100000 of the flash. -/
lemma mapped_toPhysical : mapped.table.toPhysical 0 ⟨0x42100000⟩ = .ok (⟨0x100000⟩, .flash) :=
  Table.toPhysical_ok_iff.2 ⟨rfl, 16, by decide, rfl, rfl, rfl⟩

/-- What the base of the mapped page is translated to is written to any two places that can be claimed. -/
lemma mapped_answers (outAddr outTarget : Word) (haddr : Region.Claimable mapped.bounds outAddr 4 4)
    (htarget : Region.Claimable mapped.bounds outTarget 4 4) :
    ∃ m', toPhysical 0 0x42100000 outAddr outTarget mapped = .ok 1 m' ∧
      m'.memory = (mapped.memory.writeList outAddr.toNat (Bytes.ofNat 4 0x100000)).writeList outTarget.toNat
        (Bytes.ofNat 4 1) :=
  ⟨_, toPhysical_ok_iff.2 ⟨_, _, haddr, htarget, by decide, rfl, mapped_toPhysical, rfl⟩, rfl⟩

/-- Behind a translation that is answered with success the number of the target is found where it was asked for, and
the physical address as well, unless both were asked for at one place. -/
theorem results_of_toPhysical {id vaddr outAddr outTarget : Word}
    (h : toPhysical id vaddr outAddr outTarget m = .ok 1 m') :
    ∃ p target, m.table.toPhysical id.toUInt32 ⟨vaddr.toUInt32⟩ = .ok (p, target) ∧
      m'.memory.readNat outTarget.toNat 4 = target.raw.toNat ∧
      m'.memory.readNat outAddr.toNat 4 = if outAddr = outTarget then target.raw.toNat else p.toNat := by
  obtain ⟨p, target, haddr, htarget, -, -, hfound, rfl⟩ := toPhysical_ok_iff.1 h
  refine ⟨p, target, hfound, readNat_single _ _ _, ?_⟩
  split
  next heq => rw [heq, readNat_single]
  next hne =>
    have hapart := slots_apart haddr.aligned htarget.aligned hne
    rw [Memory.readNat_writeList_of_disjoint (by simpa using hapart), Address.toNat, readNat_single]

/-- Two results at two places. -/
theorem results_side_by_side :
    ∃ m', toPhysical 0 0x42100000 0x40820020 0x40820024 mapped = .ok 1 m' ∧
      m'.memory.readNat 0x40820024 4 = 1 ∧ m'.memory.readNat 0x40820020 4 = 0x100000 := by
  obtain ⟨m', h, -⟩ := mapped_answers 0x40820020 0x40820024 (by decide) (by decide)
  obtain ⟨p, target, hfound, htarget, haddr⟩ := results_of_toPhysical h
  cases mapped_toPhysical.symm.trans hfound
  exact ⟨m', h, htarget, haddr⟩

/-- Two results at one place: the translation is answered with success, and the number of the target stands where the
address was asked for. -/
theorem target_over_address :
    mapped.table.toPhysical 0 ⟨0x42100000⟩ = .ok (⟨0x100000⟩, .flash) ∧
      ∃ m', toPhysical 0 0x42100000 0x40820020 0x40820020 mapped = .ok 1 m' ∧
        m'.memory.readNat 0x40820020 4 = 1 := by
  obtain ⟨m', h, hmem⟩ := mapped_answers 0x40820020 0x40820020 (by decide) (by decide)
  refine ⟨mapped_toPhysical, m', h, ?_⟩
  rw [hmem]
  exact Memory.readNat_writeList ..

end SecureWorld.Window
