import SecureWorld.Proofs.Translation

/-!
# Mapping and clearing regions

What a request to map or to clear a region of the window does to the table. `Table.map_succeeds_iff` and
`Table.unmap_succeeds_iff` say when it is carried out, `Table.map_maps` and `Table.unmap_clears` what the addresses
of the region are translated to afterwards, byte by byte, and `Table.sameBeside_writeRun` that no other entry has
changed. `map_and_unmap_exact` joins them for the operations on a machine, where a refused one leaves the table.
-/

namespace SecureWorld.Mmu

variable {σ : Type} {m : Machine σ} {t t' : Table} {id : UInt32} {target : Target} {v : VirtualAddress}
  {p : PhysicalAddress} {len : UInt32} {first count : Nat}

namespace Table

/-- The `n` bytes of the window from one address on are translated to those of a target from another on. -/
def Maps (t : Table) (v : VirtualAddress) (n : Nat) (target : Target) (p : PhysicalAddress) : Prop :=
  ∀ k < n, ∃ w q, w.toNat = v.toNat + k ∧ q.toNat = p.toNat + k ∧ t.toPhysical tableId w = .ok (q, target)

/-- None of the `n` bytes of the window from one address on is mapped. -/
def Clears (t : Table) (v : VirtualAddress) (n : Nat) : Prop :=
  ∀ k < n, ∃ w, w.toNat = v.toNat + k ∧ t.toPhysical tableId w = .error (.refused (.notMapped w.value))

/-- Two tables agree in all entries but those of the pages in which the `n` bytes of the window from an address on
have a byte. -/
def SameBeside (t t' : Table) (v : VirtualAddress) (n : Nat) : Prop :=
  ∀ i, Layout.windowBase.toNat + (i + 1) * 0x10000 ≤ v.toNat ∨ v.toNat + n ≤ Layout.windowBase.toNat + i * 0x10000 →
    t'[i]? = t[i]?

/-- A region of the window is a run of entries. -/
lemma exists_windowRun (h : WindowRegion v len) : ∃ first count, windowRun v len = .ok (first, count) := by
  have hbase : Layout.windowBase.toNat = 0x42000000 := by decide
  have habove := h.above
  have haligned := h.aligned
  refine ⟨(v.toNat - 0x42000000) / 0x10000, (len.toNat + 0xFFFF) / 0x10000, ?_⟩
  apply windowRun_ok_iff.2
  rw [hbase] at habove ⊢
  exact ⟨h, by omega, rfl⟩

/-- A region is mapped exactly if both sides of it may be named. -/
lemma map_succeeds_iff :
    (∃ n t', t.map id target v p len = .ok (n, t')) ↔
      id = tableId ∧ WindowRegion v len ∧ PhysicalRegion target p len := by
  constructor
  · intro ⟨n, t', h⟩
    obtain ⟨hid, ⟨first, count, hrun⟩, hphys⟩ := map_passed h
    exact ⟨hid, (windowRun_ok_iff.1 hrun).1, checkPhysical_ok_iff.1 hphys⟩
  · intro ⟨hid, hregion, hphys⟩
    subst hid
    obtain ⟨first, count, hrun⟩ := exists_windowRun hregion
    obtain ⟨es, -, -, hmap⟩ := map_eq hrun (checkPhysical_ok_iff.2 hphys)
    exact ⟨_, _, hmap t⟩

/-- A region is cleared exactly if its window side may be named. -/
lemma unmap_succeeds_iff : (∃ n t', t.unmap id v len = .ok (n, t')) ↔ id = tableId ∧ WindowRegion v len := by
  constructor
  · intro ⟨n, t', h⟩
    obtain ⟨hid, first, count, hrun⟩ := unmap_passed h
    exact ⟨hid, (windowRun_ok_iff.1 hrun).1⟩
  · intro ⟨hid, hregion⟩
    subst hid
    obtain ⟨first, count, hrun⟩ := exists_windowRun hregion
    exact ⟨_, _, unmap_eq hrun⟩

/-- Writing the entries of a region changes no entry of another page. -/
lemma sameBeside_writeRun {es : List Entry} (hrun : windowRun v len = .ok (first, es.length)) :
    t.SameBeside (t.writeRun first es) v (wholePages len) := by
  obtain ⟨-, hfit, -, -⟩ := windowRun_ok hrun
  obtain ⟨-, hfirst, hcount⟩ := windowRun_ok_iff.1 hrun
  intro i hi
  rw [hfirst, hcount] at hi
  rw [getElem?_writeRun hfit, if_neg]
  omega

/-- Each byte of the pages of a region is an address of the window, behind the entry of its page. -/
lemma exists_region_address (hrun : windowRun v len = .ok (first, count)) {k : Nat} (hk : k < wholePages len) :
    ∃ w : VirtualAddress, w.toNat = v.toNat + k ∧ k / 0x10000 < count ∧
      first + k / 0x10000 < Layout.windowPages ∧ w.page .k64 = windowPage (first + k / 0x10000) := by
  obtain ⟨-, hfit, hstart, -⟩ := windowRun_ok hrun
  obtain ⟨-, -, hcount⟩ := windowRun_ok_iff.1 hrun
  have hpages : Layout.windowPages = 256 := rfl
  have hlt : k / 0x10000 < count := by omega
  obtain ⟨w, hw⟩ := Address.exists_toNat (s := .virtual) (n := v.toNat + k) (by omega)
  have hi : first + k / 0x10000 < Layout.windowPages := by omega
  refine ⟨w, hw, hlt, hi, ?_⟩
  apply (page_eq_windowPage_iff hi).2
  omega

/-- The entries of a run stand at the entries of its region. -/
lemma getElem?_region {es : List Entry} (hrun : windowRun v len = .ok (first, es.length)) {j : Nat}
    (hj : j < es.length) : (t.writeRun first es)[first + j]? = es[j]? := by
  obtain ⟨-, hfit, -, -⟩ := windowRun_ok hrun
  rw [getElem?_writeRun hfit, if_pos (by omega), Nat.add_sub_cancel_left]

/-- Behind a mapped region every byte is found at its distance from the first one. -/
lemma map_maps {n : UInt32} (h : t.map id target v p len = .ok (n, t')) :
    n.toNat = wholePages len ∧ t'.Maps v (wholePages len) target p ∧ t.SameBeside t' v (wholePages len) := by
  obtain ⟨rfl, ⟨first, count, hrun⟩, hphys⟩ := map_passed h
  obtain ⟨es, rfl, hsel, hmap⟩ := map_eq hrun hphys
  rw [hmap] at h
  cases h
  obtain ⟨-, hfit, -, -⟩ := windowRun_ok hrun
  obtain ⟨-, hfirst, hcount⟩ := windowRun_ok_iff.1 hrun
  obtain ⟨hbase, -⟩ := checkPhysical_ok hphys
  have hpages := pages_fit hrun hphys
  have hbytes : Layout.pageBytes.toNat = 0x10000 := by decide
  refine ⟨?_, ?_, sameBeside_writeRun hrun⟩
  · have hwindow : Layout.windowPages = 256 := rfl
    rw [UInt32.toNat_ofNat', hbytes]
    omega
  · intro k hk
    obtain ⟨w, hw, hj, hi, hpage⟩ := exists_region_address hrun hk
    obtain ⟨q, hq⟩ := Address.exists_toNat (s := .physical) (n := p.toNat + k) (by omega)
    refine ⟨w, q, hw, hq, ?_⟩
    apply toPhysical_ok_iff.2
    refine ⟨rfl, _, hi, hpage, ?_, ?_⟩
    · have he := List.getElem?_eq_getElem hj
      -- the entry selects the page that stands as far behind the first one as the byte does
      have hsame : (Page.ofNumber ((p.page .k64).number + k / 0x10000) : PhysicalPage) = q.page .k64 := by
        apply Page.ext_number
        rw [ofNumber_number (by omega)]
        show _ = q.toNat / 0x10000
        omega
      rw [getElem?_region hrun hj, he, Option.bind_some, (mapping_ok_iff.1 (hsel _ _ he)).2, hsame]
    · apply Address.offset_eq
      show q.toNat % 0x10000 = w.toNat % 0x10000
      obtain ⟨-, -, hstart, -⟩ := windowRun_ok hrun
      omega

/-- An address whose entry is unused is not mapped. -/
lemma toPhysical_notMapped {i : Nat} {w : VirtualAddress} (hi : i < Layout.windowPages)
    (hpage : w.page .k64 = windowPage i) (hentry : t[i]? = some .unused) :
    t.toPhysical tableId w = .error (.refused (.notMapped w.value)) := by
  have hindex := entryIndex?_eq.2 ⟨hi, hpage⟩
  unfold toPhysical
  rw [hindex]
  dsimp only
  rw [hentry]
  rfl

/-- Behind a region that was cleared no byte is found any more. -/
lemma unmap_clears {n : Nat} (h : t.unmap id v len = .ok (n, t')) :
    t'.Clears v (wholePages len) ∧ t.SameBeside t' v (wholePages len) := by
  obtain ⟨first, hrun, rfl⟩ := unmap_ok h
  have hlen : (List.replicate n Entry.unused).length = n := List.length_replicate
  have hrun : windowRun v len = .ok (first, (List.replicate n Entry.unused).length) := by rwa [hlen]
  refine ⟨?_, sameBeside_writeRun hrun⟩
  intro k hk
  obtain ⟨w, hw, hj, hi, hpage⟩ := exists_region_address hrun hk
  refine ⟨w, hw, ?_⟩
  apply toPhysical_notMapped hi hpage
  rw [getElem?_region hrun hj, List.getElem?_replicate, if_pos (hlen ▸ hj)]

end Table

namespace Control

/-- What mapping does, and when. -/
lemma map_exact (id : UInt32) (target : Target) (v : VirtualAddress) (p : PhysicalAddress) (len : UInt32)
    (m : Machine σ) :
    let r := map id target v p len m
    ((∃ bytes, outcome r = .ok bytes) ↔ id = tableId ∧ WindowRegion v len ∧ PhysicalRegion target p len) ∧
    (∀ bytes, outcome r = .ok bytes → bytes.toNat = wholePages len ∧
      (endState r).table.Maps v (wholePages len) target p ∧
      m.table.SameBeside (endState r).table v (wholePages len)) ∧
    ∀ e, outcome r = .error e → (∃ cause, e = .refused cause) ∧ endState r = m := by
  intro r
  rw [← Table.map_succeeds_iff (t := m.table)]
  rcases map_run id target v p len m with ⟨n, t, h, hout, hend⟩ | ⟨e, h, hrun⟩
  · refine ⟨⟨fun _ => ⟨n, t, h⟩, fun _ => ⟨n, hout⟩⟩, ?_, ?_⟩
    · intro bytes hbytes
      rw [hout] at hbytes
      cases hbytes
      rw [hend]
      -- carried out: the table is the one with the run written into it
      exact Table.map_maps h
    · intro e he
      rw [hout] at he
      cases he
  · have hr : r = .error e m := hrun
    rw [hr, h]
    refine ⟨⟨?_, ?_⟩, ?_, ?_⟩
    · intro ⟨bytes, hbytes⟩
      cases hbytes
    · intro ⟨n, t, ht⟩
      cases ht
    · intro bytes hbytes
      cases hbytes
    · intro e' he
      cases he
      refine ⟨?_, rfl⟩
      cases e with
      | refused cause => exact ⟨cause, rfl⟩
      | fault f => exact absurd h Table.map_ne_fault

/-- What clearing does, and when. -/
lemma unmap_exact (id : UInt32) (v : VirtualAddress) (len : UInt32) (m : Machine σ) :
    let r := unmap id v len m
    (outcome r = .ok () ↔ id = tableId ∧ WindowRegion v len) ∧
    (outcome r = .ok () → (endState r).table.Clears v (wholePages len) ∧
      m.table.SameBeside (endState r).table v (wholePages len)) ∧
    ∀ e, outcome r = .error e → (∃ cause, e = .refused cause) ∧ endState r = m := by
  intro r
  rw [← Table.unmap_succeeds_iff (t := m.table)]
  rcases unmap_run id v len m with ⟨n, t, h, hout, hend⟩ | ⟨e, h, hrun⟩
  · refine ⟨⟨fun _ => ⟨n, t, h⟩, fun _ => hout⟩, ?_, ?_⟩
    · intro _
      rw [hend]
      exact Table.unmap_clears h
    · intro e he
      rw [hout] at he
      cases he
  · have hr : r = .error e m := hrun
    rw [hr, h]
    refine ⟨⟨nofun, ?_⟩, nofun, ?_⟩
    · intro ⟨n, t, ht⟩
      cases ht
    · intro e' he
      cases he
      refine ⟨?_, rfl⟩
      cases e with
      | refused cause => exact ⟨cause, rfl⟩
      | fault f => exact absurd h Table.unmap_ne_fault

end Control

/-- Mapping and clearing do what is said of them or nothing. A region is mapped exactly if the table is the one
there is and both sides of the region may be named; then the bytes of its whole pages, and no other entries, are
translated to those of the target. A region is cleared exactly if its window side may be named; then no byte of its
pages is mapped, and no other entry has changed. What is not carried out is refused, without a halt, and changes
nothing. -/
theorem map_and_unmap_exact (m : Machine σ) (id len : UInt32) (target : Target) (v : VirtualAddress)
    (p : PhysicalAddress) :
    let mapped := Control.map id target v p len m
    let cleared := Control.unmap id v len m
    let n := wholePages len
    ((∃ bytes, outcome mapped = .ok bytes) ↔ id = 0 ∧ WindowRegion v len ∧ PhysicalRegion target p len) ∧
    (∀ bytes, outcome mapped = .ok bytes → bytes.toNat = n ∧ (endState mapped).table.Maps v n target p ∧
      m.table.SameBeside (endState mapped).table v n) ∧
    (∀ e, outcome mapped = .error e → (∃ cause, e = .refused cause) ∧ endState mapped = m) ∧
    (outcome cleared = .ok () ↔ id = 0 ∧ WindowRegion v len) ∧
    (outcome cleared = .ok () → (endState cleared).table.Clears v n ∧
      m.table.SameBeside (endState cleared).table v n) ∧
    ∀ e, outcome cleared = .error e → (∃ cause, e = .refused cause) ∧ endState cleared = m := by
  intro mapped cleared n
  obtain ⟨hmap, hmapped, hkept⟩ := Control.map_exact id target v p len m
  obtain ⟨hclear, hcleared, hkept'⟩ := Control.unmap_exact id v len m
  exact ⟨hmap, hmapped, hkept, hclear, hcleared, hkept'⟩

end SecureWorld.Mmu
