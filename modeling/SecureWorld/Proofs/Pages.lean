import Mathlib.Tactic.Common
import SecureWorld.Boundary

/-!
# Pages and ranges

Requests are judged by whole pages. `AddressRange.touches_iff` says which addresses a judged span reaches, and
`Page.outside_of_touches` what a range has to do with the pages of a span that stays clear of it. A range with
aligned ends holds every page wholly or not at all (`Page.inside_of_mem`).
-/

namespace SecureWorld

variable {s : Space}

/-- A number that the space has room for is that of an address. -/
lemma Address.exists_toNat {n : Nat} (hn : n < 0x100000000) : ∃ a : Address s, a.toNat = n := by
  refine ⟨⟨UInt32.ofNat n⟩, ?_⟩
  show (UInt32.ofNat n).toNat = n
  rw [UInt32.toNat_ofNat']
  omega

namespace AddressRange

variable {r q : AddressRange s} {a x : Address s} {len : UInt32}

/-- Two ranges overlap exactly if they share an address. -/
theorem overlaps_iff : r.overlaps q = true ↔ ∃ a, a ∈ r ∧ a ∈ q := by
  simp only [overlaps, isEmpty, Bool.and_eq_true, Bool.not_eq_true', decide_eq_false_iff_not,
    decide_eq_true_iff, Address.le_iff_toNat, Address.lt_iff_toNat, mem_iff_toNat]
  constructor
  · rintro ⟨⟨⟨hr, hq⟩, hrq⟩, hqr⟩
    by_cases h : r.start.toNat ≤ q.start.toNat
    · exact ⟨q.start, by omega, by omega⟩
    · exact ⟨r.start, by omega, by omega⟩
  · rintro ⟨a, hr, hq⟩
    omega

/-- The addresses between two ends are those from the first one on and before the second one. -/
lemma mem_between {b : Address s} : x ∈ between a b ↔ a.toNat ≤ x.toNat ∧ x.toNat < b.toNat := by
  rw [mem_iff_toNat, between]
  split
  next h =>
    rw [Address.lt_iff_toNat] at h
    simp only
    omega
  next h => rfl

/-- The addresses of a range given by its length; the last address of the space is never among them. -/
lemma mem_ofLength :
    x ∈ ofLength a len ↔ a.toNat ≤ x.toNat ∧ x.toNat < a.toNat + len.toNat ∧ x.toNat < 0xFFFFFFFF := by
  have hx := x.toNat_lt
  rw [ofLength, mem_between, Address.plus?]
  split
  next h =>
    have hsum : (⟨a.value + len⟩ : Address s).toNat = a.toNat + len.toNat := by
      simp only [Address.toNat, UInt32.toNat_add]
      simp only [Address.toNat] at h
      omega
    rw [Option.getD_some, hsum]
    omega
  next h =>
    have hlast : (⟨0xFFFFFFFF⟩ : Address s).toNat = 0xFFFFFFFF := rfl
    rw [Option.getD_none, hlast]
    omega

/-- The first byte of the first page of a span, and the number of bytes up to the end of its last page as far
as it can be written down. -/
lemma pageSpan_eq (addr len : UInt32) :
    (pageSpan addr len).1.toNat = addr.toNat / 0x10000 * 0x10000 ∧
      (pageSpan addr len).2.toNat =
        min ((addr.toNat + len.toNat + 0xFFFF) / 0x10000 * 0x10000 - addr.toNat / 0x10000 * 0x10000)
          0xFFFFFFFF := by
  have ha := addr.toNat_lt
  simp only [pageSpan, PageSize.bytes, UInt32.toNat_ofNat']
  constructor <;> omega

/-- A span touches a range exactly if some address of the range lies in a page that the span has a byte in. -/
theorem touches_iff (hlen : len ≠ 0) :
    r.touches a len = true ↔
      ∃ x ∈ r, (a.page .k64).number ≤ (x.page .k64).number ∧
        (x.page .k64).number * 0x10000 < a.toNat + len.toNat := by
  obtain ⟨hstart, hwidth⟩ := pageSpan_eq a.value len
  have hpos : 0 < len.toNat := by
    have := mt UInt32.toNat_inj.1 hlen
    rw [UInt32.toNat_zero] at this
    omega
  rw [touches, if_neg hlen]
  simp only
  rw [overlaps_iff]
  refine exists_congr fun x => and_congr_right fun hx => ?_
  -- a range never holds the last address, so it makes no difference that a span is cut off there
  have hlt : x.toNat < 0xFFFFFFFF := by
    have := (mem_iff_toNat.1 hx).2
    have := r.stop.toNat_lt
    omega
  rw [mem_ofLength]
  simp only [Address.page, PageSize.bytes]
  simp only [Address.toNat] at hstart hwidth hlt ⊢
  rw [hstart, hwidth]
  omega

/-- An empty span touches a range if the address it starts at lies in the range. -/
theorem touches_zero : r.touches a 0 = true ↔ a ∈ r := by
  rw [touches, if_pos rfl, contains, decide_eq_true_iff]

/-- A span meets a range: some address of the range lies in a page that the span has a byte in, or the span is
empty and starts at an address of the range. -/
def Meets (r : AddressRange s) (a : Address s) (len : UInt32) : Prop :=
  if len = 0 then a ∈ r
  else ∃ x ∈ r, (a.page .k64).number ≤ (x.page .k64).number ∧
    (x.page .k64).number * 0x10000 < a.toNat + len.toNat

/-- The spans that touch a range are those that meet it. -/
theorem touches_iff_meets : r.touches a len = true ↔ r.Meets a len := by
  unfold Meets
  split
  next h => rw [h, touches_zero]
  next h => exact touches_iff h

/-- The numbers of the addresses of a range are the numbers between its ends. -/
lemma exists_mem_iff {P : Nat → Prop} :
    (∃ x ∈ r, P x.toNat) ↔ ∃ n, (r.start.toNat ≤ n ∧ n < r.stop.toNat) ∧ P n := by
  constructor
  · rintro ⟨x, hx, hP⟩
    exact ⟨x.toNat, mem_iff_toNat.1 hx, hP⟩
  · rintro ⟨n, hn, hP⟩
    obtain ⟨x, rfl⟩ := Address.exists_toNat (s := s) (Nat.lt_trans hn.2 r.stop.toNat_lt)
    exact ⟨x, mem_iff_toNat.2 hn, hP⟩

/-- In unbounded numbers: a byte of the range lies in one of the pages from that of byte `a` to that of the last
of the `n` bytes from `a` on. No bytes at all are taken as the byte `a` alone, without the rest of its page. -/
def MeetsPages (r : AddressRange s) (a n : Nat) : Prop :=
  if n = 0 then r.start.toNat ≤ a ∧ a < r.stop.toNat
  else ∃ x, (r.start.toNat ≤ x ∧ x < r.stop.toNat) ∧ a / 0x10000 ≤ x / 0x10000 ∧
    x / 0x10000 ≤ (a + n - 1) / 0x10000

/-- A span touches a range exactly if its pages meet the range. -/
lemma touches_iff_meetsPages : r.touches a len = true ↔ r.MeetsPages a.toNat len.toNat := by
  unfold MeetsPages
  by_cases hlen : len = 0
  · subst hlen
    rw [touches_zero, if_pos UInt32.toNat_zero, mem_iff_toNat]
  · have hpos : len.toNat ≠ 0 := by
      intro h
      exact hlen (UInt32.toNat_inj.1 h)
    rw [touches_iff hlen, if_neg hpos, ← exists_mem_iff]
    refine exists_congr fun x => and_congr_right fun _ => and_congr_right fun _ => ?_
    -- the page of `x` starts before the end of the span, so it is not behind the page of the last byte
    show x.toNat / 0x10000 * 0x10000 < a.toNat + len.toNat ↔ _
    omega

end AddressRange

/-- Addresses of whatever space are as far from the bases of their pages if their numbers are. -/
lemma Address.offset_eq {s' : Space} {z : PageSize} {a : Address s} {b : Address s'}
    (h : a.toNat % z.bytes = b.toNat % z.bytes) : a.offset z = b.offset z := by
  simp only [Address.offset, h]

namespace Page

variable {z : PageSize} {p : Page s z} {r : AddressRange s}

/-- All addresses of a page are in a range. -/
def Inside (p : Page s z) (r : AddressRange s) : Prop :=
  ∀ a : Address s, a.page z = p → a ∈ r

/-- No address of a page is in a range. -/
def Outside (p : Page s z) (r : AddressRange s) : Prop :=
  ∀ a : Address s, a.page z = p → a ∉ r

/-- A page is known by its number. -/
lemma ext_number {q : Page s z} (h : p.number = q.number) : p = q := by
  cases p
  cases q
  cases h
  rfl

/-- The base of a page lies on the page. -/
lemma page_base : p.base.page z = p := by
  obtain ⟨n, hn⟩ := p
  simp only [Address.page, toNat_base, mk.injEq]
  exact Nat.mul_div_cancel _ z.bytes_pos

/-- An address that is put together from a page and an offset lies on the page. -/
lemma page_join {o : PageOffset z} : (p.join o).page z = p := by
  obtain ⟨n, hn⟩ := p
  simp only [Address.page, toNat_join, mk.injEq]
  rw [Nat.mul_comm, Nat.mul_add_div z.bytes_pos, Nat.div_eq_of_lt o.value_lt, Nat.add_zero]

/-- An address that is put together from a page and an offset has the offset. -/
lemma offset_join {o : PageOffset z} : (p.join o).offset z = o := by
  obtain ⟨n, hn⟩ := o
  simp only [Address.offset, toNat_join, PageOffset.mk.injEq]
  rw [Nat.mul_comm, Nat.mul_add_mod, Nat.mod_eq_of_lt hn]

/-- An address is known by its page and its distance from the base of the page. -/
lemma eq_join_iff {a : Address s} {o : PageOffset z} : a = p.join o ↔ a.page z = p ∧ a.offset z = o := by
  constructor
  · rintro rfl
    exact ⟨page_join, offset_join⟩
  · rintro ⟨rfl, rfl⟩
    exact a.page_join_offset.symm

/-- A page is not outside and inside of a range, for it has an address. -/
lemma Outside.not_inside (h : p.Outside r) : ¬ p.Inside r :=
  fun hi => h _ page_base (hi _ page_base)

/-- A range whose ends are bases of pages holds the whole page of every address in it. -/
lemma inside_of_mem {a : Address s} (hstart : r.start.Aligned z) (hstop : r.stop.Aligned z) (ha : a ∈ r) :
    (a.page z).Inside r := by
  intro x hx
  rw [AddressRange.mem_iff_toNat] at ha ⊢
  have hpage : x.toNat / z.bytes = a.toNat / z.bytes := congrArg Page.number hx
  obtain ⟨k, hk⟩ := hstart
  obtain ⟨l, hl⟩ := hstop
  rw [hk, hl] at ha ⊢
  constructor
  · rw [Nat.mul_comm, ← Nat.le_div_iff_mul_le z.bytes_pos, hpage, Nat.le_div_iff_mul_le z.bytes_pos,
      Nat.mul_comm]
    exact ha.1
  · rw [Nat.mul_comm, ← Nat.div_lt_iff_lt_mul z.bytes_pos, hpage, Nat.div_lt_iff_lt_mul z.bytes_pos,
      Nat.mul_comm]
    exact ha.2

/-- A page that is not inside of a range whose ends are bases of pages is outside of it. -/
lemma outside_of_not_inside (hstart : r.start.Aligned z) (hstop : r.stop.Aligned z) (h : ¬ p.Inside r) :
    p.Outside r := by
  rintro a rfl ha
  exact h (inside_of_mem hstart hstop ha)

/-- The pages in which a span has a byte are outside of every range that the span does not touch. -/
lemma outside_of_touches {p : Page s .k64} {a : Address s} {len : UInt32} (hlen : len ≠ 0)
    (h : r.touches a len = false) (hfirst : (a.page .k64).number ≤ p.number)
    (hlast : p.number * 0x10000 < a.toNat + len.toNat) : p.Outside r := by
  rintro x rfl hx
  rw [← Bool.not_eq_true, AddressRange.touches_iff hlen] at h
  exact h ⟨x, hx, hfirst, hlast⟩

end Page

namespace Bounds

variable {b : Bounds}

/-- Bounds are aligned if the ends of both ranges are. -/
lemma aligned_iff : b.aligned = true ↔
    (b.window.start.Aligned .k64 ∧ b.window.stop.Aligned .k64) ∧
      (b.flash.start.Aligned .k64 ∧ b.flash.stop.Aligned .k64) := by
  simp only [aligned, Bool.and_eq_true, decide_eq_true_iff, and_assoc]

/-- The check of a span is exact on both sides of the window, for all bounds and for spans of every address and
length, those included that reach the top of the address space or go beyond it. -/
theorem spans_judged_exactly (b : Bounds) (addr len : UInt32) :
    (b.window.touches ⟨addr⟩ len = true ↔ b.window.MeetsPages addr.toNat len.toNat) ∧
      (b.flash.touches ⟨addr⟩ len = true ↔ b.flash.MeetsPages addr.toNat len.toNat) :=
  ⟨AddressRange.touches_iff_meetsPages, AddressRange.touches_iff_meetsPages⟩

end Bounds

end SecureWorld
