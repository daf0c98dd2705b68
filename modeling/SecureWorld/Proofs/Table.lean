import Mathlib.Data.List.Forall2
import SecureWorld.Mmu.Table
import SecureWorld.Proofs.Pages

/-!
# The table under requests

What the operations on the table do once they are not refused: `Table.map_ok` and `Table.unmap_ok` take a
successful operation apart, `Table.toPhysical_ok_iff` and `Table.toVirtual_ok_iff` say when a translation succeeds
and with what. Mapping never halts (`Table.map_ne_fault`), and looking for a window address halts exactly for a
page number that no entry can hold (`Table.toVirtual_fault_iff`).
-/

namespace SecureWorld.Mmu

variable {t t' : Table} {id : UInt32} {target : Target} {v : VirtualAddress} {p : PhysicalAddress}
  {len : UInt32} {first count : Nat}

/-- The page of the window behind which an entry stands. -/
def windowPage (i : Nat) : Page .virtual .k64 :=
  Page.ofNumber (Layout.windowBase.toNat / Layout.pageBytes.toNat + i)

/-- The pages of the window are numbered one after the other. -/
lemma windowPage_number {i : Nat} (hi : i < Layout.windowPages) : (windowPage i).number = 0x4200 + i := by
  have hcount : PageSize.k64.count = 0x10000 := by decide
  have hbase : Layout.windowBase.toNat / Layout.pageBytes.toNat = 0x4200 := by decide
  simp only [windowPage, Page.ofNumber, hcount, hbase]
  simp only [Layout.windowPages] at hi
  omega

/-- The page of an address is the one behind which an entry stands if it has its number. -/
lemma page_eq_windowPage_iff {i : Nat} (hi : i < Layout.windowPages) :
    v.page .k64 = windowPage i ↔ v.toNat / 0x10000 = 0x4200 + i := by
  rw [← windowPage_number hi, ← Page.mk.injEq]
  rfl

/-- What gives a value when errors count as refusals gives it anyway. -/
lemma refusing_ok {α : Type} {x : Except MmuError α} {a : α} (h : refusing x = .ok a) : x = .ok a := by
  cases x with
  | ok a' =>
    cases h
    rfl
  | error e => cases h

/-- What gives a value when errors count as faults gives it anyway. -/
lemma faulting_ok {α : Type} {x : Except Fault α} {a : α} (h : faulting x = .ok a) : x = .ok a := by
  cases x with
  | ok a' =>
    cases h
    rfl
  | error e => cases h

/-- There is one table, and no other number passes. -/
lemma checkId_ok_iff : checkId id = .ok () ↔ id = tableId := by
  unfold checkId
  split
  next h => exact ⟨fun _ => h, fun _ => rfl⟩
  next h => exact ⟨nofun, fun h' => absurd h' h⟩

/-- A refusal is no fault. -/
lemma refusing_ne_fault {α : Type} {x : Except MmuError α} {f : Fault} : refusing x ≠ .error (.fault f) := by
  cases x <;> exact fun h => by cases h

/-- A window address stands behind the entry of its page. -/
lemma entryIndex?_eq {i : Nat} : entryIndex? v = some i ↔ i < Layout.windowPages ∧ v.page .k64 = windowPage i := by
  have hbase : Layout.windowBase.toNat = 0x42000000 := by decide
  have hend : Layout.windowEnd.toNat = 0x43000000 := by decide
  have hbytes : Layout.pageBytes.toNat = 0x10000 := by decide
  have hv : v.toNat = v.value.toNat := rfl
  have hpages : Layout.windowPages = 256 := rfl
  unfold entryIndex?
  simp only [UInt32.lt_iff_toNat_lt, UInt32.le_iff_toNat_le, hbase, hend, hbytes]
  split
  next h =>
    constructor
    · intro h'
      cases h'
    · rintro ⟨hi, hn⟩
      rw [page_eq_windowPage_iff hi] at hn
      omega
  next h =>
    rw [Option.some_inj]
    constructor
    · intro he
      have hi : i < Layout.windowPages := by omega
      rw [page_eq_windowPage_iff hi]
      exact ⟨hi, by omega⟩
    · rintro ⟨hi, hn⟩
      rw [page_eq_windowPage_iff hi] at hn
      omega

/-- The window address at a distance from the base of the page behind which an entry stands. -/
lemma windowAddress_eq {i : Nat} {o : PageOffset .k64} (hi : i < Layout.windowPages) :
    (⟨UInt32.ofNat (Layout.windowBase.toNat + i * Layout.pageBytes.toNat + o.value)⟩ : VirtualAddress) =
      (windowPage i).join o := by
  have hbase : Layout.windowBase.toNat = 0x4200 * 0x10000 := by decide
  have hbytes : Layout.pageBytes.toNat = 0x10000 := by decide
  have hsize : PageSize.k64.bytes = 0x10000 := rfl
  rw [Page.join, windowPage_number hi, hbase, hbytes, hsize, Nat.add_mul]

/-- A region of the window that a request may name: it is not empty, starts at a page and ends in the window. -/
structure WindowRegion (v : VirtualAddress) (len : UInt32) : Prop where
  nonempty : 0 < len.toNat
  aligned : 0x10000 ∣ v.toNat
  above : Layout.windowBase.toNat ≤ v.toNat
  within : v.toNat + len.toNat ≤ Layout.windowEnd.toNat

/-- The number of bytes of the memory of a target. -/
def Target.size : Target → Nat
  | .flash => 16 * 1024 * 1024
  | .psram => 32 * 1024 * 1024

/-- A physical region that a request may name: it starts at a page and ends in the memory of its target. -/
structure PhysicalRegion (target : Target) (p : PhysicalAddress) (len : UInt32) : Prop where
  aligned : 0x10000 ∣ p.toNat
  within : p.toNat + len.toNat ≤ target.size

/-- A number of bytes rounded up to whole pages. -/
def wholePages (len : UInt32) : Nat :=
  (len.toNat + 0xFFFF) / 0x10000 * 0x10000

/-- A window region that may be named is covered by the entries from that of its first byte on. -/
lemma windowRun_ok_iff :
    windowRun v len = .ok (first, count) ↔ WindowRegion v len ∧
      v.toNat = Layout.windowBase.toNat + first * 0x10000 ∧ wholePages len = count * 0x10000 := by
  have hbase : Layout.windowBase.toNat = 0x42000000 := by decide
  have hend : Layout.windowEnd.toNat = 0x43000000 := by decide
  have hpages : pageCount len = (len.toNat + 0xFFFF) / 0x10000 := rfl
  rw [hbase]
  constructor
  · intro h
    unfold windowRun at h
    split at h
    · cases h
    next hlen =>
    split at h
    · cases h
    next hal =>
    split at h
    · cases h
    next i hi =>
    split at h
    · cases h
    next hfit =>
    cases h
    -- all four checks are passed
    have hal : 0x10000 ∣ v.toNat := Decidable.not_not.1 hal
    obtain ⟨hlt, hpage⟩ := entryIndex?_eq.1 hi
    rw [page_eq_windowPage_iff hlt] at hpage
    have hne := mt UInt32.toNat_inj.1 hlen
    rw [UInt32.toNat_zero] at hne
    rw [hpages]
    refine ⟨⟨by omega, hal, by omega, by omega⟩, by omega, rfl⟩
  · rintro ⟨⟨hlen, hal, habove, hwithin⟩, hfirst, hcount⟩
    rw [hbase] at habove
    rw [hend] at hwithin
    have hlt : first < Layout.windowPages := by
      show first < 256
      omega
    have hindex : entryIndex? v = some first := by
      apply entryIndex?_eq.2
      rw [page_eq_windowPage_iff hlt]
      exact ⟨hlt, by omega⟩
    have hne : len ≠ 0 := by
      rintro rfl
      exact absurd hlen (by decide)
    have hal : v.Aligned .k64 := hal
    have hcount : pageCount len = count := by
      unfold wholePages at hcount
      omega
    unfold windowRun
    rw [if_neg hne, if_neg (Decidable.not_not.2 hal), hindex, hcount]
    exact if_neg (by omega)

/-- A run of entries for a window region: the region starts with the page of the first one and has a byte in
the page of each of them. -/
lemma windowRun_ok (h : windowRun v len = .ok (first, count)) :
    len ≠ 0 ∧ first + count ≤ Layout.windowPages ∧ v.toNat = (0x4200 + first) * 0x10000 ∧
      ∀ k < count, k * 0x10000 < len.toNat := by
  have hbase : Layout.windowBase.toNat = 0x42000000 := by decide
  have hend : Layout.windowEnd.toNat = 0x43000000 := by decide
  obtain ⟨⟨hlen, hal, habove, hwithin⟩, hfirst, hcount⟩ := windowRun_ok_iff.1 h
  rw [hbase] at hfirst
  rw [hend] at hwithin
  unfold wholePages at hcount
  have hfit : first + count ≤ 256 := by omega
  refine ⟨?_, hfit, by omega, ?_⟩
  · rintro rfl
    exact absurd hlen (by decide)
  · intro k hk
    -- the count is rounded up: the last page is short by less than a page
    omega

/-- A physical region passes exactly if a request may name it. -/
lemma checkPhysical_ok_iff : checkPhysical target p len = .ok () ↔ PhysicalRegion target p len := by
  have hlimit : target.limit = target.size := by cases target <;> rfl
  unfold checkPhysical
  rw [hlimit]
  split
  next hal => exact ⟨nofun, fun h => absurd h.aligned hal⟩
  next hal =>
    split
    next hfit => exact ⟨nofun, fun h => absurd h.within (Nat.not_le.2 hfit)⟩
    next hfit => exact ⟨fun _ => ⟨Decidable.not_not.1 hal, Nat.not_lt.1 hfit⟩, fun _ => rfl⟩

/-- A physical region that is not refused starts at a page and ends among the pages that an entry can select. -/
lemma checkPhysical_ok (h : checkPhysical target p len = .ok ()) :
    p.toNat = (p.page .k64).number * 0x10000 ∧ p.toNat + len.toNat ≤ 512 * 0x10000 := by
  obtain ⟨hal, hfit⟩ := checkPhysical_ok_iff.1 h
  have hsize : target.size ≤ 512 * 0x10000 := by cases target <;> decide
  have hnumber : (p.page .k64).number = p.toNat / 0x10000 := rfl
  omega

/-- The pages of a region that passes have numbers that entries can hold. -/
lemma pages_fit (hrun : windowRun v len = .ok (first, count)) (hphys : checkPhysical target p len = .ok ()) :
    (p.page .k64).number + count ≤ 512 := by
  obtain ⟨-, -, -, hlast⟩ := windowRun_ok hrun
  obtain ⟨hp, hfit⟩ := checkPhysical_ok hphys
  cases count with
  | zero => omega
  | succ k =>
    have := hlast k (Nat.lt_succ_self k)
    omega

/-- The page of a number that an entry can hold has this number. -/
lemma ofNumber_number {n : Nat} (hn : n < 512) :
    (Page.ofNumber n : PhysicalPage).number = n :=
  Nat.mod_eq_of_lt (Nat.lt_trans hn (by decide))

/-- An entry without a bit set besides its page, its use and its target. -/
def Entry.Plain (e : Entry) : Prop :=
  e.sensitive = false ∧ e.reserved.val = 0

/-- The entry made for a page, if the number of the page fits it. -/
lemma mapping_eq {q : PhysicalPage} :
    Entry.mapping q target =
      if h : q.number < 512 then .ok ⟨⟨q.number, h⟩, true, false, target = .psram, 0⟩ else .error .pageNumber := by
  have hnum : q.number % 65536 = q.number := Nat.mod_eq_of_lt q.number_lt
  unfold Entry.mapping Entry.withPageNumber
  simp only [hnum]
  split <;> rfl

/-- It is the plain entry that selects the page. -/
lemma mapping_ok_iff {e : Entry} {q : PhysicalPage} :
    Entry.mapping q target = .ok e ↔ e.Plain ∧ e.selected? = some (target, q) := by
  have hofNumber {n : Nat} (hn : n < 512) : (Page.ofNumber n : PhysicalPage).number = n := ofNumber_number hn
  rw [mapping_eq]
  constructor
  · intro h
    split at h
    next hq =>
      cases h
      refine ⟨⟨rfl, rfl⟩, ?_⟩
      have hpage : (Page.ofNumber q.number : PhysicalPage) = q := by
        simp only [Page.ofNumber, Nat.mod_eq_of_lt q.number_lt]
      rw [Entry.selected?, if_pos rfl, hpage]
      cases target <;> rfl
    next hq => cases h
  · -- page and target are what the entry selects, and nothing else is set
    obtain ⟨⟨n, hn⟩, valid, sensitive, psram, reserved⟩ := e
    rintro ⟨⟨rfl, hreserved⟩, hsel⟩
    obtain rfl : reserved = 0 := Fin.ext hreserved
    cases valid with
    | false => cases hsel
    | true =>
      cases hsel
      rw [dif_pos (by rwa [hofNumber hn])]
      simp only [hofNumber hn]
      cases psram <;> rfl

/-- No other plain entry selects the page. -/
lemma mapping_unique {e e' : Entry} {q : PhysicalPage} (he : Entry.mapping q target = .ok e) (hplain : e'.Plain)
    (hsel : e'.selected? = some (target, q)) : e' = e := by
  have he' := mapping_ok_iff.2 ⟨hplain, hsel⟩
  rw [he] at he'
  cases he'
  rfl

/-- There is an entry for every page with a number below 512. -/
lemma mapping_ok (target : Target) {q : PhysicalPage} (hq : q.number < 512) :
    ∃ e, Entry.mapping q target = .ok e := by
  rw [mapping_eq, dif_pos hq]
  exact ⟨_, rfl⟩

/-- There is no entry for the other pages. -/
lemma mapping_error {q : PhysicalPage} (hq : 512 ≤ q.number) :
    Entry.mapping q target = .error .pageNumber := by
  rw [mapping_eq, dif_neg (Nat.not_lt.2 hq)]

/-- If every step succeeds, all of them do, with a result for each. -/
lemma mapM_ok {ε α β : Type} {f : α → Except ε β} {l : List α} (h : ∀ a ∈ l, ∃ b, f a = .ok b) :
    ∃ bs, l.mapM f = .ok bs ∧ List.Forall₂ (fun a b => f a = .ok b) l bs := by
  induction l with
  | nil => exact ⟨[], rfl, .nil⟩
  | cons a l ih =>
    obtain ⟨b, hb⟩ := h a List.mem_cons_self
    obtain ⟨bs, hbs, hall⟩ := ih fun a' ha => h a' (List.mem_cons_of_mem _ ha)
    refine ⟨b :: bs, ?_, .cons hb hall⟩
    rw [List.mapM_cons, hb, hbs]
    rfl

/-- The entries for pages that entries can hold are made for these pages one after the other. -/
lemma mappings_ok (target : Target) {n : Nat} (h : n + count ≤ 512) :
    ∃ es, mappings n target count = .ok es ∧ es.length = count ∧
      ∀ k e, es[k]? = some e → Entry.mapping (Page.ofNumber (n + k)) target = .ok e := by
  have hstep : ∀ i ∈ List.range count, ∃ e, Entry.mapping (Page.ofNumber (n + i)) target = .ok e := by
    intro i hi
    have hn : n + i < 512 := by
      have := List.mem_range.1 hi
      omega
    exact mapping_ok target ((ofNumber_number hn).symm ▸ hn)
  obtain ⟨es, hes, hall⟩ := mapM_ok hstep
  have hlen : es.length = count := by rw [← hall.length_eq, List.length_range]
  refine ⟨es, hes, hlen, ?_⟩
  intro k e hk
  obtain ⟨hlt, rfl⟩ := List.getElem?_eq_some_iff.1 hk
  have := hall.get (i := k) (by simpa using hlen ▸ hlt) hlt
  simpa using this

namespace Table

/-- The written entries stand from the first index on, the others are as before. -/
lemma getElem?_writeRun {es : List Entry} {j : Nat} (hfit : first + es.length ≤ Layout.windowPages) :
    (t.writeRun first es)[j]? = if first ≤ j ∧ j < first + es.length then es[j - first]? else t[j]? := by
  induction es generalizing t first with
  | nil => rw [writeRun, if_neg (by simp)]
  | cons e es ih =>
    simp only [List.length_cons] at hfit ⊢
    rw [writeRun, ih (by omega), Vector.getElem?_setIfInBounds]
    by_cases hj : first = j
    · subst hj
      rw [if_neg (by omega), if_pos rfl, if_pos (by omega), if_pos (by omega), Nat.sub_self]
      rfl
    · rw [if_neg hj]
      by_cases hr : first ≤ j ∧ j < first + (es.length + 1)
      · rw [if_pos (by omega), if_pos hr, show j - first = j - (first + 1) + 1 by omega, List.getElem?_cons_succ]
      · rw [if_neg (by omega), if_neg hr]

/-- Mapping a region that passed the checks writes a run of entries made for the pages of the physical region one
after the other, the same one into every table. -/
lemma map_eq (hrun : windowRun v len = .ok (first, count)) (hphys : checkPhysical target p len = .ok ()) :
    ∃ es, es.length = count ∧
      (∀ k e, es[k]? = some e → Entry.mapping (Page.ofNumber ((p.page .k64).number + k)) target = .ok e) ∧
      ∀ t : Table, t.map tableId target v p len =
        .ok (UInt32.ofNat (count * Layout.pageBytes.toNat), t.writeRun first es) := by
  obtain ⟨es, hes, hlen, hsel⟩ := mappings_ok target (pages_fit hrun hphys)
  refine ⟨es, hlen, hsel, fun t => ?_⟩
  unfold map
  rw [checkId_ok_iff.2 rfl, hrun, hphys]
  show faulting (mappings (p.page .k64).number target count) >>= _ = _
  rw [hes]
  rfl

/-- What is mapped has passed the checks. -/
lemma map_passed {n : UInt32} (h : t.map id target v p len = .ok (n, t')) :
    id = tableId ∧ (∃ first count, windowRun v len = .ok (first, count)) ∧ checkPhysical target p len = .ok () := by
  obtain ⟨_, hid, h⟩ := bind_ok h
  obtain ⟨⟨first, count⟩, hrun, h⟩ := bind_ok h
  obtain ⟨_, hphys, -⟩ := bind_ok h
  exact ⟨checkId_ok_iff.1 (refusing_ok hid), ⟨first, count, refusing_ok hrun⟩, refusing_ok hphys⟩

/-- Mapping writes a run of entries made for the pages of the physical region one after the other. -/
lemma map_ok {n : UInt32} (h : t.map id target v p len = .ok (n, t')) :
    ∃ first es, windowRun v len = .ok (first, es.length) ∧ checkPhysical target p len = .ok () ∧
      (∀ k e, es[k]? = some e → Entry.mapping (Page.ofNumber ((p.page .k64).number + k)) target = .ok e) ∧
      t' = t.writeRun first es := by
  obtain ⟨rfl, ⟨first, count, hrun⟩, hphys⟩ := map_passed h
  obtain ⟨es, rfl, hsel, hmap⟩ := map_eq hrun hphys
  rw [hmap] at h
  cases h
  exact ⟨first, es, hrun, hphys, hsel, rfl⟩

/-- Every page of a region that passed the checks has an entry. -/
lemma map_ne_fault {f : Fault} : t.map id target v p len ≠ .error (.fault f) := by
  intro h
  obtain h | ⟨_, -, h⟩ := bind_error h
  · exact refusing_ne_fault h
  obtain h | ⟨⟨first, count⟩, hrun, h⟩ := bind_error h
  · exact refusing_ne_fault h
  obtain h | ⟨_, hphys, h⟩ := bind_error h
  · exact refusing_ne_fault h
  obtain h | ⟨es, -, h⟩ := bind_error h
  · obtain ⟨es, hes, -⟩ := mappings_ok target (pages_fit (refusing_ok hrun) (refusing_ok hphys))
    rw [hes] at h
    cases h
  · cases h

/-- A region of the window is unmapped by clearing the entries of its run. -/
lemma unmap_eq (hrun : windowRun v len = .ok (first, count)) :
    t.unmap tableId v len = .ok (count, t.writeRun first (List.replicate count .unused)) := by
  unfold unmap
  rw [checkId_ok_iff.2 rfl, hrun]
  rfl

/-- What is unmapped is a region of the window, in the one table there is. -/
lemma unmap_passed {n : Nat} (h : t.unmap id v len = .ok (n, t')) :
    id = tableId ∧ ∃ first count, windowRun v len = .ok (first, count) := by
  obtain ⟨_, hid, h⟩ := bind_ok h
  obtain ⟨⟨first, count⟩, hrun, -⟩ := bind_ok h
  exact ⟨checkId_ok_iff.1 (refusing_ok hid), first, count, refusing_ok hrun⟩

/-- Unmapping writes a run of entries that are not in use. -/
lemma unmap_ok {n : Nat} (h : t.unmap id v len = .ok (n, t')) :
    ∃ first, windowRun v len = .ok (first, n) ∧ t' = t.writeRun first (List.replicate n .unused) := by
  obtain ⟨rfl, first, count, hrun⟩ := unmap_passed h
  rw [unmap_eq hrun] at h
  cases h
  exact ⟨first, hrun, rfl⟩

/-- Unmapping never halts. -/
lemma unmap_ne_fault {f : Fault} : t.unmap id v len ≠ .error (.fault f) := by
  intro h
  obtain h | ⟨_, -, h⟩ := bind_error h
  · exact refusing_ne_fault h
  obtain h | ⟨_, -, h⟩ := bind_error h
  · exact refusing_ne_fault h
  · cases h

/-- An address is translated by the entry of its window page, and keeps its distance from the base of the
page. -/
lemma toPhysical_ok_iff :
    t.toPhysical id v = .ok (p, target) ↔
      id = tableId ∧ ∃ i < Layout.windowPages, v.page .k64 = windowPage i ∧
        t[i]?.bind Entry.selected? = some (target, p.page .k64) ∧ p.offset .k64 = v.offset .k64 := by
  constructor
  · intro h
    obtain ⟨_, hid, h⟩ := bind_ok h
    split at h
    · cases h
    next i hi =>
    split at h
    · cases h
    next target' page hsel =>
    cases h
    obtain ⟨hlt, hpage⟩ := entryIndex?_eq.1 hi
    refine ⟨checkId_ok_iff.1 (refusing_ok hid), i, hlt, hpage, ?_, Page.offset_join⟩
    rw [hsel, Page.page_join]
  · rintro ⟨rfl, i, hi, hpage, hsel, hoff⟩
    have hindex := entryIndex?_eq.2 ⟨hi, hpage⟩
    have hjoin : (p.page .k64).join (v.offset .k64) = p := (Page.eq_join_iff.2 ⟨rfl, hoff⟩).symm
    unfold toPhysical
    rw [hindex]
    dsimp only
    rw [hsel]
    dsimp only
    rw [hjoin]
    rfl

/-- The way back leads to the first entry that is the one made for the page. -/
lemma toVirtual_ok_iff {bus : Bus} :
    t.toVirtual id p target bus = .ok v ↔
      id = tableId ∧ ∃ e, Entry.mapping (p.page .k64) target = .ok e ∧ ∃ i < Layout.windowPages,
        v.page .k64 = windowPage i ∧ v.offset .k64 = p.offset .k64 ∧ t[i]? = some e ∧
          ∀ j < i, t[j]? ≠ some e := by
  constructor
  · intro h
    obtain ⟨_, hid, h⟩ := bind_ok h
    obtain ⟨e, he, h⟩ := bind_ok h
    split at h
    · cases h
    next i hi =>
    cases h
    -- the search gives the first index at which the entry stands
    obtain ⟨hfound, hmem, hfirst⟩ := List.find?_range_eq_some.1 hi
    have hlt := List.mem_range.1 hmem
    obtain ⟨hpage, hoff⟩ := Page.eq_join_iff.1 (windowAddress_eq (o := p.offset .k64) hlt)
    refine ⟨checkId_ok_iff.1 (refusing_ok hid), e, faulting_ok he, i, hlt, hpage, hoff, ?_, ?_⟩
    · simpa using hfound
    · intro j hj
      simpa using hfirst j hj
  · rintro ⟨rfl, e, he, i, hi, hpage, hoff, hfound, hfirst⟩
    have hfind : (List.range Layout.windowPages).find? (fun i => t[i]? == some e) = some i := by
      refine List.find?_range_eq_some.2 ⟨by simpa using hfound, List.mem_range.2 hi, ?_⟩
      intro j hj
      simpa using hfirst j hj
    simp only [toVirtual, he, faulting, bind, Except.bind, hfind]
    rw [windowAddress_eq hi, ← Page.eq_join_iff.2 ⟨hpage, hoff⟩]
    rfl

/-- Translating a window address never halts. -/
lemma toPhysical_ne_fault {f : Fault} : t.toPhysical id v ≠ .error (.fault f) := by
  intro h
  obtain h | ⟨_, -, h⟩ := bind_error h
  · exact refusing_ne_fault h
  split at h
  · cases h
  split at h <;> cases h

/-- The way back halts exactly if the page has a number that no entry can hold. -/
lemma toVirtual_fault_iff {bus : Bus} {f : Fault} :
    t.toVirtual id p target bus = .error (.fault f) ↔
      f = .pageNumber ∧ id = tableId ∧ 512 * 0x10000 ≤ p.toNat := by
  have hnum : (p.page .k64).number = p.toNat / 0x10000 := rfl
  constructor
  · intro h
    obtain h | ⟨_, hid, h⟩ := bind_error h
    · exact absurd h refusing_ne_fault
    have hid := checkId_ok_iff.1 (refusing_ok hid)
    -- only the entry that is searched for can be impossible to make
    obtain h | ⟨_, -, h⟩ := bind_error h
    · by_cases hp : 512 ≤ (p.page .k64).number
      · rw [mapping_error hp] at h
        cases h
        exact ⟨rfl, hid, by omega⟩
      · obtain ⟨e, he⟩ := mapping_ok target (Nat.not_le.1 hp)
        rw [he] at h
        cases h
    · split at h <;> cases h
  · rintro ⟨rfl, rfl, hp⟩
    have hp : 512 ≤ (p.page .k64).number := by omega
    unfold toVirtual
    rw [mapping_error hp]
    rfl

end Table

end SecureWorld.Mmu
