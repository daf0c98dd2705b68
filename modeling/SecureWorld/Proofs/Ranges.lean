import Mathlib.Data.Set.Card
import Mathlib.Order.Interval.Finset.Nat
import SecureWorld.Proofs.Pages

/-!
# Ranges as sets

A range is compared by its two ends, but stands for the addresses in it. `overlaps_iff`, `covers_iff`, `isEmpty_iff`
and `ncard_addresses` say that the comparisons tell the truth about these addresses, and `Extent.mem_range` which
addresses they are: ends that are given the wrong way round hold none, and a number of bytes stops short of the last
address of the space.
-/

namespace SecureWorld

variable {s : Space}

namespace AddressRange

variable {r q : AddressRange s} {x : Address s}

/-- A range is asked whether it contains an address. -/
lemma contains_iff : r.contains x = true ↔ x ∈ r :=
  decide_eq_true_iff

/-- A range is empty exactly if it does not end after its start. -/
lemma isEmpty_iff_toNat : r.isEmpty = true ↔ r.stop.toNat ≤ r.start.toNat := by
  rw [isEmpty, decide_eq_true_iff, Address.le_iff_toNat]

/-- A range whose ends differ holds the first of them. -/
lemma isEmpty_iff : r.isEmpty = true ↔ ∀ x, x ∉ r := by
  rw [isEmpty_iff_toNat]
  constructor
  · intro h x hx
    rw [mem_iff_toNat] at hx
    omega
  · intro h
    by_contra hlt
    exact h r.start (mem_iff_toNat.2 ⟨Nat.le_refl _, Nat.not_le.1 hlt⟩)

/-- An empty range is covered wherever it starts; of any other it is enough to look at its first and at its last
address. -/
lemma covers_iff : r.covers q = true ↔ ∀ x ∈ q, x ∈ r := by
  rw [covers, Bool.or_eq_true, Bool.and_eq_true, decide_eq_true_iff, decide_eq_true_iff, Address.le_iff_toNat,
    Address.le_iff_toNat]
  constructor
  · rintro (hempty | ⟨hstart, hstop⟩) x hx
    · exact absurd hx (isEmpty_iff.1 hempty x)
    · rw [mem_iff_toNat] at hx ⊢
      omega
  · intro h
    by_cases hempty : q.isEmpty = true
    · exact .inl hempty
    · rw [isEmpty_iff_toNat, Nat.not_le] at hempty
      obtain ⟨last, hlast⟩ : ∃ a : Address s, a.toNat = q.stop.toNat - 1 :=
        Address.exists_toNat (Nat.lt_of_le_of_lt (Nat.sub_le _ _) q.stop.toNat_lt)
      have hstart := mem_iff_toNat.1 (h q.start (mem_iff_toNat.2 ⟨Nat.le_refl _, hempty⟩))
      have hstop := mem_iff_toNat.1 (h last (mem_iff_toNat.2 ⟨by omega, by omega⟩))
      exact .inr ⟨hstart.1, by omega⟩

/-- The length of a range reaches from its start to its end, so the difference of the two does not wrap. -/
lemma toNat_length : r.start.toNat + r.length.toNat = r.stop.toNat := by
  have h := r.start_le_stop
  have hsub : r.length.toNat = r.stop.toNat - r.start.toNat := UInt32.toNat_sub_of_le _ _ h
  omega

/-- The numbers of the addresses of a range are an interval of numbers. -/
lemma toNat_image : Address.toNat '' {x | x ∈ r} = Set.Ico r.start.toNat r.stop.toNat := by
  ext n
  constructor
  · rintro ⟨x, hx, rfl⟩
    exact mem_iff_toNat.1 hx
  · intro hn
    obtain ⟨x, rfl⟩ := Address.exists_toNat (s := s) (Nat.lt_trans hn.2 r.stop.toNat_lt)
    exact ⟨x, mem_iff_toNat.2 hn, rfl⟩

/-- There are as many addresses in a range as its length says. -/
lemma ncard_addresses : {x | x ∈ r}.ncard = r.length.toNat := by
  have hinj : Function.Injective (Address.toNat (s := s)) := fun _ _ => Address.ext_toNat
  rw [← Set.ncard_image_of_injective _ hinj, toNat_image, ← Finset.coe_Ico, Set.ncard_coe_finset, Nat.card_Ico,
    ← toNat_length]
  exact Nat.add_sub_cancel_left _ _

end AddressRange

/-- How a range is given: by two addresses, in whatever order, or by an address and a number of bytes. -/
inductive Extent (s : Space) where
  | ends (a b : Address s)
  | bytes (a : Address s) (len : UInt32)

namespace Extent

/-- The range that is given. -/
def range : Extent s → AddressRange s
  | ends a b => .between a b
  | bytes a len => .ofLength a len

/-- The numbers that an extent spans, in unbounded numbers. Nothing lies between two ends that are given the wrong
way round. A number of bytes ends at the last address of the space, which is itself left out. -/
def Spans : Extent s → Nat → Prop
  | ends a b, n => a.toNat ≤ n ∧ n < b.toNat
  | bytes a len, n => a.toNat ≤ n ∧ n < min (a.toNat + len.toNat) 0xFFFFFFFF

variable {e : Extent s} {x : Address s}

/-- The addresses in a range are those that are spanned. -/
lemma mem_range : x ∈ e.range ↔ e.Spans x.toNat := by
  cases e with
  | ends a b => exact AddressRange.mem_between
  | bytes a len => rw [range, AddressRange.mem_ofLength, Spans, lt_min_iff]

/-- Whatever two ranges are given, in whatever way: what is told of them by their ends is what holds of the sets of
their addresses. -/
theorem ranges_faithful (e f : Extent s) :
    (∀ x, e.range.contains x = true ↔ e.Spans x.toNat) ∧
    (e.range.overlaps f.range = true ↔ ∃ x, e.range.contains x = true ∧ f.range.contains x = true) ∧
    (e.range.covers f.range = true ↔ ∀ x, f.range.contains x = true → e.range.contains x = true) ∧
    (e.range.isEmpty = true ↔ ¬ ∃ x, e.range.contains x = true) ∧
    e.range.start.toNat + e.range.length.toNat = e.range.stop.toNat ∧
    e.range.length.toNat = {x | e.range.contains x = true}.ncard := by
  simp only [AddressRange.contains_iff, not_exists]
  exact ⟨fun x => mem_range, AddressRange.overlaps_iff, AddressRange.covers_iff, AddressRange.isEmpty_iff,
    AddressRange.toNat_length, AddressRange.ncard_addresses.symm⟩

-- sixteen bytes from the last address but one on are cut down to that address
example : (bytes ⟨0xFFFFFFFE⟩ 16 : Extent .physical).range.length = 1 := by decide

end Extent

end SecureWorld
