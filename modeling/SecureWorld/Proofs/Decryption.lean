import SecureWorld.Proofs.Translation

/-!
# Pages that are decrypted

An entry says beside its page whether the page is decrypted, which is nothing that a translation should depend on.
The way forth does not (`Table.SamePages.toPhysical_eq`). The way back looks for the entry made for a page, and that
one is for a page read as it is: `Table.Unreserved.toVirtual_ok_iff` says what it finds. Edits treat all tables alike
(`Machine.edited_getElem?`), so `translations_of_samePages` compares the translations of two tables after any of them.
-/

namespace SecureWorld.Mmu

variable {e e' : Entry} {es : List Entry} {t t' : Table} {id : UInt32} {target : Target} {v : VirtualAddress}
  {p : PhysicalAddress} {q : PhysicalPage} {bus : Bus} {i j first : Nat}

/-- Entries without reserved bits that differ in no more than whether their page is decrypted. -/
def Entry.SamePage (e e' : Entry) : Prop :=
  e.pageNumber = e'.pageNumber ∧ e.valid = e'.valid ∧ e.psram = e'.psram ∧
    e.reserved.val = 0 ∧ e'.reserved.val = 0

instance : Decidable (e.SamePage e') :=
  inferInstanceAs (Decidable (_ ∧ _))

/-- Entries for the same page select the same page. -/
lemma Entry.SamePage.selected?_eq (h : e.SamePage e') : e.selected? = e'.selected? := by
  obtain ⟨hpage, hvalid, hpsram, -⟩ := h
  simp only [Entry.selected?, Entry.target, hpage, hvalid, hpsram]

/-- A plain entry is an entry for the same page as itself. -/
lemma Entry.Plain.samePage (h : e.Plain) : e.SamePage e :=
  ⟨rfl, rfl, rfl, h.2, h.2⟩

/-- Different indices stand for different pages of the window. -/
lemma windowPage_inj (hi : i < Layout.windowPages) (hj : j < Layout.windowPages) (h : windowPage i = windowPage j) :
    i = j := by
  have hi := windowPage_number hi
  rw [h, windowPage_number hj] at hi
  omega

namespace Table

/-- Two tables that differ in no more than which pages are decrypted. -/
def SamePages (t t' : Table) : Prop :=
  ∀ i (hi : i < Layout.windowPages), t[i].SamePage t'[i]

/-- No entry of the table has a reserved bit set. -/
def Unreserved (t : Table) : Prop :=
  ∀ (i : Nat) e, t[i]? = some e → e.reserved.val = 0

/-- The entries that select a page and leave it as it is, by their indices. -/
def unencrypted (t : Table) (target : Target) (q : PhysicalPage) : Set Nat :=
  {i | ∃ e, t[i]? = some e ∧ e.sensitive = false ∧ e.selected? = some (target, q)}

/-- A plain table has the same pages as itself. -/
lemma Plain.samePages (ht : t.Plain) : t.SamePages t := fun i hi =>
  (ht i _ (Vector.getElem?_eq_getElem hi)).samePage

/-- Entries for the same page may be put at the same index. -/
lemma SamePages.set (h : t.SamePages t') (he : e.SamePage e') :
    SamePages (t.setIfInBounds i e) (t'.setIfInBounds i e') := by
  intro j hj
  rw [Vector.getElem_setIfInBounds, Vector.getElem_setIfInBounds]
  split
  · exact he
  · exact h j hj

/-! ## The translations -/

/-- Neither of two tables with the same pages has a reserved bit set. -/
lemma SamePages.unreserved (h : t.SamePages t') : t.Unreserved ∧ t'.Unreserved := by
  constructor
  · intro i e he
    obtain ⟨hi, rfl⟩ := Vector.getElem?_eq_some_iff.1 he
    exact (h i hi).2.2.2.1
  · intro i e he
    obtain ⟨hi, rfl⟩ := Vector.getElem?_eq_some_iff.1 he
    exact (h i hi).2.2.2.2

/-- At every index, two tables with the same pages select the same page. -/
lemma SamePages.selected?_eq (h : t.SamePages t') : t[i]?.bind Entry.selected? = t'[i]?.bind Entry.selected? := by
  by_cases hi : i < Layout.windowPages
  · rw [Vector.getElem?_eq_getElem hi, Vector.getElem?_eq_getElem hi]
    exact (h i hi).selected?_eq
  · rw [Vector.getElem?_eq_none (Nat.not_lt.1 hi), Vector.getElem?_eq_none (Nat.not_lt.1 hi)]

/-- The way forth reads no more of an entry than what it selects. -/
lemma SamePages.toPhysical_eq (h : t.SamePages t') : t.toPhysical id v = t'.toPhysical id v := by
  simp only [toPhysical, h.selected?_eq]

/-- The entry that is searched for stands exactly where its page is selected and not decrypted. -/
lemma Unreserved.getElem?_mapping (ht : t.Unreserved) (he : Entry.mapping q target = .ok e) :
    t[i]? = some e ↔ i ∈ t.unencrypted target q := by
  obtain ⟨hplain, hsel⟩ := mapping_ok_iff.1 he
  constructor
  · intro hi
    exact ⟨e, hi, hplain.1, hsel⟩
  · rintro ⟨e', hi, hs, hsel'⟩
    rwa [← mapping_unique he ⟨hs, ht i e' hi⟩ hsel']

/-- The indices that are searched are indices of the table. -/
lemma lt_of_mem_unencrypted (h : i ∈ t.unencrypted target q) : i < Layout.windowPages := by
  obtain ⟨e, he, -⟩ := h
  exact (Vector.getElem?_eq_some_iff.1 he).1

/-- The way back leads to the first entry that selects the page and leaves it as it is. -/
lemma Unreserved.toVirtual_ok_iff (ht : t.Unreserved) :
    t.toVirtual id p target bus = .ok v ↔
      id = tableId ∧ ∃ i, IsLeast (t.unencrypted target (p.page .k64)) i ∧ v = (windowPage i).join (p.offset .k64) := by
  rw [Table.toVirtual_ok_iff]
  constructor
  · rintro ⟨hid, e, he, i, hi, hpage, hoff, hfound, hfirst⟩
    refine ⟨hid, i, ⟨(ht.getElem?_mapping he).1 hfound, ?_⟩, Page.eq_join_iff.2 ⟨hpage, hoff⟩⟩
    intro j hj
    exact Nat.not_lt.1 fun hlt => hfirst j hlt ((ht.getElem?_mapping he).2 hj)
  · rintro ⟨hid, i, ⟨⟨e, hfound, hs, hsel⟩, hleast⟩, rfl⟩
    obtain ⟨hi, -⟩ := Vector.getElem?_eq_some_iff.1 hfound
    have he := mapping_ok_iff.2 ⟨⟨hs, ht i e hfound⟩, hsel⟩
    refine ⟨hid, e, he, i, hi, Page.page_join, Page.offset_join, hfound, ?_⟩
    intro j hj hfound'
    exact absurd hj (Nat.not_lt.2 (hleast ((ht.getElem?_mapping he).1 hfound')))

/-- There is no way back to a page with a number that an entry can hold exactly if no entry selects the page and
leaves it as it is. -/
lemma Unreserved.toVirtual_notMapped_iff (ht : t.Unreserved) (hp : (p.page .k64).number < 512) :
    t.toVirtual tableId p target bus = .error (.refused (.notMapped p.value)) ↔
      t.unencrypted target (p.page .k64) = ∅ := by
  obtain ⟨wanted, hmap⟩ := mapping_ok target hp
  have hmem {i : Nat} : (t[i]? == some wanted) = true ↔ i ∈ t.unencrypted target (p.page .k64) := by
    rw [beq_iff_eq]
    exact ht.getElem?_mapping hmap
  simp only [toVirtual, checkId_ok_iff.2, refusing, hmap, faulting, bind, Except.bind]
  split
  next hnone =>
    refine ⟨fun _ => Set.eq_empty_iff_forall_notMem.2 fun i hi => ?_, fun _ => rfl⟩
    exact List.find?_eq_none.1 hnone i (List.mem_range.2 (lt_of_mem_unencrypted hi)) (hmem.2 hi)
  next i hsome =>
    have hfound := hmem.1 (List.find?_range_eq_some.1 hsome).1
    constructor
    · intro h
      cases h
    · intro hempty
      rw [hempty] at hfound
      exact absurd hfound (Set.notMem_empty i)

/-- Why there is no way back does not depend on the table. -/
lemma toVirtual_error_unique {s s' : Stop MmuError} (h : t.toVirtual id p target bus = .error s)
    (h' : t'.toVirtual id p target bus = .error s') : s = s' := by
  unfold toVirtual at h h'
  -- neither check before the search looks at the table
  cases hid : refusing (checkId id) with
  | error r =>
    rw [hid] at h h'
    cases h
    cases h'
    rfl
  | ok _ =>
    cases hmap : faulting (Entry.mapping (p.page .k64) target) with
    | error r =>
      rw [hid, hmap] at h h'
      cases h
      cases h'
      rfl
    | ok wanted =>
      rw [hid, hmap] at h h'
      simp only [bind, Except.bind] at h h'
      split at h
      · split at h'
        · cases h
          cases h'
          rfl
        · cases h'
      · cases h

/-- An index that comes first in one table comes first in another table that gives the same answer. -/
lemma isLeast_of_toVirtual_eq (ht : t.Unreserved) (ht' : t'.Unreserved)
    (h : t.toVirtual tableId p target bus = t'.toVirtual tableId p target bus)
    (hi : IsLeast (t.unencrypted target (p.page .k64)) i) : IsLeast (t'.unencrypted target (p.page .k64)) i := by
  have hv : t.toVirtual tableId p target bus = .ok ((windowPage i).join (p.offset .k64)) :=
    ht.toVirtual_ok_iff.2 ⟨rfl, i, hi, rfl⟩
  rw [h] at hv
  obtain ⟨-, j, hj, hij⟩ := ht'.toVirtual_ok_iff.1 hv
  obtain ⟨hpage, -⟩ := Page.eq_join_iff.1 hij
  rw [Page.page_join] at hpage
  obtain rfl := windowPage_inj (lt_of_mem_unencrypted hi.1) (lt_of_mem_unencrypted hj.1) hpage
  exact hj

/-- The way back is the same in two tables exactly if it leads to the same entry, or to none. -/
lemma toVirtual_eq_iff (ht : t.Unreserved) (ht' : t'.Unreserved) :
    t.toVirtual id p target bus = t'.toVirtual id p target bus ↔ (id = tableId →
      ∀ i, IsLeast (t.unencrypted target (p.page .k64)) i ↔ IsLeast (t'.unencrypted target (p.page .k64)) i) := by
  constructor
  · rintro h rfl i
    exact ⟨isLeast_of_toVirtual_eq ht ht' h, isLeast_of_toVirtual_eq ht' ht h.symm⟩
  · intro h
    have hok : ∀ v, t.toVirtual id p target bus = .ok v ↔ t'.toVirtual id p target bus = .ok v := by
      intro v
      rw [ht.toVirtual_ok_iff, ht'.toVirtual_ok_iff]
      exact and_congr_right fun hid => exists_congr fun i => and_congr_left fun _ => h hid i
    cases hv : t.toVirtual id p target bus with
    | ok v => exact ((hok v).1 hv).symm
    | error s =>
      cases hv' : t'.toVirtual id p target bus with
      | ok v =>
        rw [(hok v).2 hv'] at hv
        cases hv
      | error s' => rw [toVirtual_error_unique hv hv']

/-! ## Edits -/

/-- An entry of a written table is one of the run, or the one that stood there before. -/
lemma getElem?_writeRun_or (hfit : first + es.length ≤ Layout.windowPages) :
    (t.writeRun first es)[j]? = (if first ≤ j then es[j - first]? else none).or t[j]? := by
  rw [getElem?_writeRun hfit]
  by_cases hj : first ≤ j
  · rw [if_pos hj]
    by_cases hlt : j < first + es.length
    · have hk : j - first < es.length := by omega
      rw [if_pos ⟨hj, hlt⟩, List.getElem?_eq_getElem hk, Option.some_or]
    · have hk : es.length ≤ j - first := by omega
      rw [if_neg fun h => hlt h.2, List.getElem?_eq_none hk, Option.none_or]
  · rw [if_neg hj, if_neg fun h => hj h.1, Option.none_or]

end Table

end SecureWorld.Mmu

namespace SecureWorld

open Mmu

variable {σ : Type} {m m' : Machine σ}

/-- What edits write does not depend on the table: at an index there is afterwards a plain entry, the same one in
every table, or else what was there before. -/
lemma Machine.edited_getElem? (es : List Edit) :
    ∃ written : Nat → Option Entry, (∀ i e, written i = some e → e.Plain) ∧
      ∀ {σ : Type} (m : Machine σ) (i : Nat), (m.edited es).table[i]? = (written i).or m.table[i]? := by
  induction es with
  | nil => exact ⟨fun _ => none, nofun, fun m i => Option.none_or.symm⟩
  | cons e es ih =>
    obtain ⟨first, xs, hfit, hxs, hrun⟩ := e.table_run
    obtain ⟨written, hplain, hwritten⟩ := ih
    refine ⟨fun i => (written i).or (if first ≤ i then xs[i - first]? else none), ?_, fun m i => ?_⟩
    · intro i x hx
      obtain hx | ⟨-, hx⟩ := Option.or_eq_some_iff.1 hx
      · exact hplain i x hx
      · split at hx
        · exact hxs x (List.mem_of_getElem? hx)
        · cases hx
    · rw [edited, hwritten, hrun, Table.getElem?_writeRun_or hfit, Option.or_assoc]

/-- The same edits keep the pages of two tables the same. -/
lemma Machine.edited_samePages (h : m.table.SamePages m'.table) (es : List Edit) :
    (m.edited es).table.SamePages (m'.edited es).table := by
  obtain ⟨written, hplain, hwritten⟩ := edited_getElem? es
  intro i hi
  have hm := hwritten m i
  have hm' := hwritten m' i
  rw [Vector.getElem?_eq_getElem hi] at hm hm'
  -- either both tables hold what was written, or both hold what they held
  cases hw : written i with
  | none =>
    rw [hw, Option.none_or, Vector.getElem?_eq_getElem hi, Option.some_inj] at hm hm'
    rw [hm, hm']
    exact h i hi
  | some e =>
    rw [hw, Option.some_or, Option.some_inj] at hm hm'
    rw [hm, hm']
    exact (hplain i e hw).samePage

/-- Two tables have the same entry after edits, or each of them still has its own. -/
lemma Machine.edited_getElem?_eq_or (es : List Edit) (i : Nat) :
    (m.edited es).table[i]? = (m'.edited es).table[i]? ∨
      (m.edited es).table[i]? = m.table[i]? ∧ (m'.edited es).table[i]? = m'.table[i]? := by
  obtain ⟨written, -, hwritten⟩ := edited_getElem? es
  rw [hwritten m, hwritten m']
  cases written i with
  | none => exact .inr ⟨Option.none_or, Option.none_or⟩
  | some e => exact .inl rfl

/-- Two tables that differ in no more than which pages are decrypted still do after any edits, and only at indices
that no edit has written. They translate every window address alike. A physical address they translate back alike
exactly if the first entry that selects its page and leaves it as it is stands at the same index in both, or in
neither. -/
theorem translations_of_samePages (h : m.table.SamePages m'.table) (es : List Edit) :
    let t := (m.edited es).table
    let t' := (m'.edited es).table
    t.SamePages t' ∧
    (∀ i : Nat, t[i]? = t'[i]? ∨ t[i]? = m.table[i]? ∧ t'[i]? = m'.table[i]?) ∧
    (∀ id v, t.toPhysical id v = t'.toPhysical id v) ∧
    ∀ id p target bus, t.toVirtual id p target bus = t'.toVirtual id p target bus ↔ (id = tableId →
      ∀ i, IsLeast (t.unencrypted target (p.page .k64)) i ↔ IsLeast (t'.unencrypted target (p.page .k64)) i) := by
  intro t t'
  have hpages : t.SamePages t' := Machine.edited_samePages h es
  obtain ⟨hres, hres'⟩ := hpages.unreserved
  exact ⟨hpages, Machine.edited_getElem?_eq_or es, fun id v => hpages.toPhysical_eq,
    fun id p target bus => Table.toVirtual_eq_iff hres hres'⟩

/-- A machine that starts with one entry in use, for the flash page at `0x100000`. -/
def Machine.preloaded (decrypted : Bool) : Machine Unit :=
  { powerUp () with table := Table.empty.setIfInBounds 0 (Entry.ofBits (if decrypted then 0x610 else 0x210)) }

/-- The preloaded tables have the same pages, decrypted or not. -/
lemma Machine.preloaded_samePages : (preloaded true).table.SamePages (preloaded false).table := by
  have hentry : (Entry.ofBits 0x610).SamePage (Entry.ofBits 0x210) := by decide
  exact Table.empty_plain.samePages.set hentry

/-- Beside such an entry a page is mapped, and nothing of what window addresses lead to depends on the
decryption. -/
theorem preloaded_translations :
    (Machine.preloaded true).table.SamePages (Machine.preloaded false).table ∧
    ∀ id v, ((Machine.preloaded true).edited [.map tableId .flash ⟨0x42010000⟩ ⟨0x200000⟩ 1]).table.toPhysical id v =
      ((Machine.preloaded false).edited [.map tableId .flash ⟨0x42010000⟩ ⟨0x200000⟩ 1]).table.toPhysical id v := by
  have h := Machine.preloaded_samePages
  obtain ⟨-, -, hforth, -⟩ := translations_of_samePages h [.map tableId .flash ⟨0x42010000⟩ ⟨0x200000⟩ 1]
  exact ⟨h, hforth⟩

/-- The page of the entry is found on the way back if it is left as it is, and is not if it is decrypted, although a
window address leads there. -/
theorem decrypted_page_not_found :
    let t := (Machine.preloaded true).table
    let t' := (Machine.preloaded false).table
    t.SamePages t' ∧
      t.toPhysical tableId ⟨0x42000000⟩ = .ok (⟨0x100000⟩, .flash) ∧
      t'.toPhysical tableId ⟨0x42000000⟩ = .ok (⟨0x100000⟩, .flash) ∧
      t.toVirtual tableId ⟨0x100000⟩ .flash .data = .error (.refused (.notMapped 0x100000)) ∧
      t'.toVirtual tableId ⟨0x100000⟩ .flash .data = .ok ⟨0x42000000⟩ := by
  intro t t'
  have h : t.SamePages t' := Machine.preloaded_samePages
  refine ⟨h, by decide +kernel, by decide +kernel, ?_, by decide +kernel⟩
  apply (h.unreserved.1.toVirtual_notMapped_iff (p := ⟨0x100000⟩) (by decide)).2
  rw [Set.eq_empty_iff_forall_notMem]
  rintro i ⟨e, he, hs, hsel⟩
  -- the only entry in use is decrypted
  have he : (Table.empty.setIfInBounds 0 (Entry.ofBits 0x610))[i]? = some e := he
  rw [Vector.getElem?_setIfInBounds] at he
  split at he
  · rw [if_pos (by decide)] at he
    cases he
    exact absurd hs (by decide)
  · rw [Table.empty, Vector.getElem?_replicate] at he
    split at he
    · cases he
      cases hsel
    · cases he

end SecureWorld
