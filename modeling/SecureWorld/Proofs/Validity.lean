import SecureWorld.Proofs.Filling
import SecureWorld.Proofs.Pages

/-!
# Valid headers

`Valid` says which headers keep clear of secure memory, and `Fails` with which error a header fails a check.
`judged_validate` walks through the checks in their order, and `validated_exactly` is what comes of it: the valid
headers pass, and every other header is refused for the first check that it fails.
-/

namespace SecureWorld.Image

variable {a : UInt32} {e : HeaderError}

/-- An address of memory whose code the open world may run: its on-chip memory, or its part of the window. -/
def OpenCode (a : UInt32) : Prop :=
  (Layout.openSramStart ≤ a ∧ a < Layout.sramHigh) ∨ (Layout.secureWindowEnd ≤ a ∧ a < Layout.windowEnd)

/-- The check of an entry point passes the addresses of code of the open world. -/
lemma isOpenCode_iff : isOpenCode a = true ↔ OpenCode a := by
  rw [isOpenCode, Bool.or_eq_true, Bool.and_eq_true, Bool.and_eq_true, decide_eq_true_iff, decide_eq_true_iff,
    decide_eq_true_iff, decide_eq_true_iff, OpenCode]

/-- Code of the open world lies neither in the secure on-chip memory nor in the secure part of the window. -/
lemma OpenCode.not_mem (h : OpenCode a) :
    (⟨a⟩ : VirtualAddress) ∉ Layout.secureSram ∧ (⟨a⟩ : VirtualAddress) ∉ Layout.secureWindow := by
  have ha : (⟨a⟩ : VirtualAddress).toNat = a.toNat := rfl
  have hsram : Layout.openSramStart.toNat = 0x40810000 ∧ Layout.sramHigh.toNat = 0x40880000 := by decide
  have hwindow : Layout.secureWindowEnd.toNat = 0x42100000 ∧ Layout.windowEnd.toNat = 0x43000000 := by decide
  have hsecureSram : (⟨Layout.secureSramStart⟩ : VirtualAddress).toNat = 0x40800000 ∧
      (⟨Layout.secureSramEnd⟩ : VirtualAddress).toNat = 0x40810000 := by decide
  have hsecureWindow : (⟨Layout.secureWindowStart⟩ : VirtualAddress).toNat = 0x42000000 ∧
      (⟨Layout.secureWindowEnd⟩ : VirtualAddress).toNat = 0x42100000 := by decide
  simp only [OpenCode, UInt32.le_iff_toNat_le, UInt32.lt_iff_toNat_lt] at h
  rw [Layout.secureSram, Layout.secureWindow, AddressRange.mem_between, AddressRange.mem_between]
  omega

/-- The memory in which the end of a part has to lie, and the end of the secure share at the bottom of it. -/
structure Bed where
  low : UInt32
  secureEnd : UInt32
  high : UInt32

/-- On-chip memory for the instructions in it, and the window for what is seen through it. -/
def Part.bed : Part → Bed
  | .iram => ⟨Layout.sramLow, Layout.openSramStart, Layout.sramHigh⟩
  | .irom => ⟨Layout.windowBase, Layout.secureWindowEnd, Layout.windowEnd⟩
  | .drom => ⟨Layout.windowBase, Layout.secureWindowEnd, Layout.windowEnd⟩

/-- The secure share of a memory does not end below it. -/
lemma Part.low_le_secureEnd (p : Part) : p.bed.low ≤ p.bed.secureEnd := by
  cases p <;> decide

namespace Header

variable {h : Header} {n : Nat} {r : Except HeaderError Unit}

/-- The address of an entry point. -/
def point (h : Header) : EntryPoint → UInt32
  | .entry => h.openEntry
  | .interrupt => h.openInterrupt

/-- The end of a part. -/
def stop (h : Header) : Part → UInt32
  | .iram => h.iramEnd
  | .irom => h.iromEnd
  | .drom => h.dromEnd

/-- A header of this interface with blank secure fields, whose entry points lie in code of the open world and whose
parts end above the secure share of their memory. -/
structure Valid (h : Header) : Prop where
  magic : h.magic = magicWord
  major : h.major = majorVersion
  minor : h.minor ≤ minorVersion
  reserved : h.reserved0 = 0 ∧ h.reserved1 = 0
  secureFields : h.secureEntry = 0 ∧ h.secureInterrupt = 0
  openEntry : OpenCode h.openEntry
  openInterrupt : OpenCode h.openInterrupt
  iramEnd : Layout.openSramStart < h.iramEnd ∧ h.iramEnd ≤ Layout.sramHigh
  iromEnd : Layout.secureWindowEnd < h.iromEnd ∧ h.iromEnd ≤ Layout.windowEnd
  dromEnd : Layout.secureWindowEnd < h.dromEnd ∧ h.dromEnd ≤ Layout.windowEnd

/-- What is checked of a header. -/
inductive Check where
  | magic
  | major
  | minor
  | reserved
  | secureFields
  | point (p : EntryPoint)
  | stop (p : Part)

/-- The place of a check among the others. -/
def Check.rank : Check → Nat
  | .magic => 0
  | .major => 1
  | .minor => 2
  | .reserved => 3
  | .secureFields => 4
  | .point .entry => 5
  | .point .interrupt => 6
  | .stop .iram => 7
  | .stop .irom => 8
  | .stop .drom => 9

/-- The ranks of the checks are below ten. -/
lemma Check.rank_lt (c : Check) : c.rank < 10 := by
  rcases c with _ | _ | _ | _ | _ | (_ | _) | (_ | _ | _) <;> decide

/-- A check is known by its rank. -/
lemma Check.eq_of_rank_eq {c c' : Check} (hr : c.rank = c'.rank) : c = c' := by
  rcases c with _ | _ | _ | _ | _ | (_ | _) | (_ | _ | _) <;>
    rcases c' with _ | _ | _ | _ | _ | (_ | _) | (_ | _ | _) <;> first | rfl | cases hr

/-- A header fails a check, with an error. -/
def Fails (h : Header) : Check → HeaderError → Prop
  | .magic, e => h.magic ≠ magicWord ∧ e = .badMagic h.magic
  | .major, e => h.major ≠ majorVersion ∧ e = .unsupportedMajor h.major
  | .minor, e => minorVersion < h.minor ∧ e = .minorTooNew h.minor
  | .reserved, e => (h.reserved0 ≠ 0 ∨ h.reserved1 ≠ 0) ∧ e = .reservedNotZero
  | .secureFields, e => (h.secureEntry ≠ 0 ∨ h.secureInterrupt ≠ 0) ∧ e = .secureFieldsNotBlank
  | .point p, e => ¬ OpenCode (h.point p) ∧ e = .badEntryPoint p (h.point p)
  | .stop p, e =>
    ((h.stop p < p.bed.low ∨ p.bed.high < h.stop p) ∧ e = .outOfWindow p (h.stop p)) ∨
      ((p.bed.low ≤ h.stop p ∧ h.stop p ≤ p.bed.high) ∧ h.stop p ≤ p.bed.secureEnd ∧
        e = .overlapsSecure p (h.stop p))

/-! ## One check -/

/-- The check of the secure fields fails exactly if they are not blank. -/
lemma fails_secureFields_iff : h.Fails .secureFields e ↔ (!h.blank) = true ∧ e = .secureFieldsNotBlank := by
  rw [Fails, blank, Bool.not_eq_true', Bool.and_eq_false_iff, beq_eq_false_iff_ne, beq_eq_false_iff_ne]

/-- The check of an entry point fails exactly with the error of the function that makes it. -/
lemma fails_point_iff {p : EntryPoint} : h.Fails (.point p) e ↔ checkEntry p (h.point p) = .error e := by
  rw [Fails, ← isOpenCode_iff, checkEntry]
  split
  next hopen => exact ⟨fun hf => absurd hopen hf.1, nofun⟩
  next hclosed => rw [Except.error.injEq, and_iff_right hclosed, eq_comm]

/-- The check of the end of a part fails exactly with the error of the function that makes it. -/
lemma fails_stop_iff {p : Part} :
    h.Fails (.stop p) e ↔ checkEnd p (h.stop p) p.bed.low p.bed.secureEnd p.bed.high = .error e := by
  rw [Fails, checkEnd]
  split
  next hout =>
    rw [Except.error.injEq, eq_comm, and_iff_right hout]
    refine ⟨?_, .inl⟩
    rintro (he | ⟨hin, -⟩)
    · exact he
    · rw [← UInt32.not_lt, ← UInt32.not_lt, ← not_or] at hin
      exact absurd hout hin
  next hin =>
    have hwithin : p.bed.low ≤ h.stop p ∧ h.stop p ≤ p.bed.high := by
      rwa [← UInt32.not_lt, ← UInt32.not_lt, ← not_or]
    rw [and_iff_right hwithin, or_iff_right fun hf => hin hf.1]
    split
    next hsecure => rw [Except.error.injEq, and_iff_right hsecure, eq_comm]
    next hopen => exact ⟨fun hf => absurd hf.1 hopen, nofun⟩

/-- The end of a part passes its check if it lies above the secure share of its memory and within it. -/
lemma passes_stop_iff {p : Part} :
    (∀ e, ¬ h.Fails (.stop p) e) ↔ p.bed.secureEnd < h.stop p ∧ h.stop p ≤ p.bed.high := by
  have hlow := p.low_le_secureEnd
  constructor
  · intro hpass
    refine ⟨UInt32.not_le.1 fun hle => ?_, UInt32.not_lt.1 fun hlt => hpass _ (.inl ⟨.inr hlt, rfl⟩)⟩
    by_cases hbelow : h.stop p < p.bed.low
    · exact hpass _ (.inl ⟨.inl hbelow, rfl⟩)
    by_cases habove : p.bed.high < h.stop p
    · exact hpass _ (.inl ⟨.inr habove, rfl⟩)
    · exact hpass _ (.inr ⟨⟨UInt32.not_lt.1 hbelow, UInt32.not_lt.1 habove⟩, hle, rfl⟩)
  · rintro ⟨hsecure, hhigh⟩ e (⟨hbelow | habove, -⟩ | ⟨-, hle, -⟩)
    · exact UInt32.not_le.2 (UInt32.lt_trans hbelow (UInt32.lt_of_le_of_lt hlow hsecure)) (UInt32.le_refl _)
    · exact UInt32.not_le.2 habove hhigh
    · exact UInt32.not_le.2 hsecure hle

/-- A header is valid if it fails no check. -/
lemma valid_iff : h.Valid ↔ ∀ c e, ¬ h.Fails c e := by
  constructor
  · intro hv c e hf
    cases c with
    | magic => exact hf.1 hv.magic
    | major => exact hf.1 hv.major
    | minor => exact UInt32.not_le.2 hf.1 hv.minor
    | reserved => exact not_or.2 ⟨not_not_intro hv.reserved.1, not_not_intro hv.reserved.2⟩ hf.1
    | secureFields => exact not_or.2 ⟨not_not_intro hv.secureFields.1, not_not_intro hv.secureFields.2⟩ hf.1
    | point p =>
      cases p with
      | entry => exact hf.1 hv.openEntry
      | interrupt => exact hf.1 hv.openInterrupt
    | stop p =>
      cases p with
      | iram => exact (passes_stop_iff (p := .iram)).2 hv.iramEnd e hf
      | irom => exact (passes_stop_iff (p := .irom)).2 hv.iromEnd e hf
      | drom => exact (passes_stop_iff (p := .drom)).2 hv.dromEnd e hf
  · intro hpass
    -- a check that the header does not fail says what a field of validity says
    have hreserved := not_or.1 fun hf => hpass .reserved _ ⟨hf, rfl⟩
    have hsecure := not_or.1 fun hf => hpass .secureFields _ ⟨hf, rfl⟩
    have hpoint (p : EntryPoint) : OpenCode (h.point p) := not_not.1 fun hf => hpass (.point p) _ ⟨hf, rfl⟩
    exact {
      magic := not_not.1 fun hf => hpass .magic _ ⟨hf, rfl⟩
      major := not_not.1 fun hf => hpass .major _ ⟨hf, rfl⟩
      minor := UInt32.not_lt.1 fun hf => hpass .minor _ ⟨hf, rfl⟩
      reserved := ⟨not_not.1 hreserved.1, not_not.1 hreserved.2⟩
      secureFields := ⟨not_not.1 hsecure.1, not_not.1 hsecure.2⟩
      openEntry := hpoint .entry
      openInterrupt := hpoint .interrupt
      iramEnd := passes_stop_iff.1 (hpass (.stop .iram))
      iromEnd := passes_stop_iff.1 (hpass (.stop .irom))
      dromEnd := passes_stop_iff.1 (hpass (.stop .drom)) }

/-! ## One check after the other -/

/-- The outcome of the checks from a place on: the header passes all of them, or the error is that of the first
one that it fails. -/
inductive Judged (h : Header) (n : Nat) : Except HeaderError Unit → Prop where
  | passed : (∀ c e, n ≤ c.rank → ¬ h.Fails c e) → Judged h n (.ok ())
  | failed {c : Check} {e : HeaderError} : n ≤ c.rank → h.Fails c e →
    (∀ c' e', n ≤ c'.rank → c'.rank < c.rank → ¬ h.Fails c' e') → Judged h n (.error e)

/-- A check that is failed decides the outcome. -/
lemma Judged.fail {c : Check} (hf : h.Fails c e) : Judged h c.rank (.error e) :=
  .failed (Nat.le_refl _) hf fun _ _ hle hlt => absurd hle (Nat.not_le.2 hlt)

/-- A check that is passed leaves the outcome to those behind it. -/
lemma Judged.pass {c : Check} (hpass : ∀ e, ¬ h.Fails c e) (hr : Judged h (c.rank + 1) r) :
    Judged h c.rank r := by
  have hnone (c' : Check) (e : HeaderError) (hle : c.rank ≤ c'.rank) (hf : h.Fails c' e) :
      c.rank + 1 ≤ c'.rank := by
    refine Nat.lt_of_le_of_ne hle fun heq => ?_
    rw [← Check.eq_of_rank_eq heq] at hf
    exact hpass e hf
  cases hr with
  | passed hrest => exact .passed fun c' e hle hf => hrest c' e (hnone c' e hle hf) hf
  | failed hle hf hfirst =>
    exact .failed (Nat.le_of_succ_le hle) hf
      fun c' e hle' hlt hf' => hfirst c' e (hnone c' e hle' hf') hlt hf'

/-- Behind the last check the header has passed. -/
lemma Judged.done : Judged h 10 (.ok ()) :=
  .passed fun c _ hle => absurd c.rank_lt (Nat.not_lt.2 hle)

/-- A check that compares and refuses. -/
lemma Judged.ite {c : Check} {p : Prop} [Decidable p] (hc : ∀ e', h.Fails c e' ↔ p ∧ e' = e)
    (hr : Judged h (c.rank + 1) r) : Judged h c.rank (if p then .error e else r) := by
  split
  next hp => exact .fail ((hc e).2 ⟨hp, rfl⟩)
  next hp => exact .pass (fun e' hf => hp ((hc e').1 hf).1) hr

/-- A check that is a function of its own. -/
lemma Judged.bind {c : Check} {x : Except HeaderError Unit} (hc : ∀ e, h.Fails c e ↔ x = .error e)
    (hr : Judged h (c.rank + 1) r) : Judged h c.rank (x >>= fun _ => r) := by
  cases x with
  | ok => exact .pass (fun e hf => by cases (hc e).1 hf) hr
  | error e => exact .fail ((hc e).2 rfl)

/-- The addresses of a header are checked in the order of their ranks. -/
lemma judged_checkAddresses : Judged h 5 h.checkAddresses := by
  have hlast : Judged h 9 (checkEnd .drom h.dromEnd Layout.windowBase Layout.secureWindowEnd Layout.windowEnd) := by
    rw [← bind_pure_unit (x := checkEnd _ _ _ _ _)]
    exact .bind (c := .stop .drom) (fun _ => fails_stop_iff) .done
  exact .bind (c := .point .entry) (fun _ => fails_point_iff) <|
    .bind (c := .point .interrupt) (fun _ => fails_point_iff) <|
    .bind (c := .stop .iram) (fun _ => fails_stop_iff) <|
    .bind (c := .stop .irom) (fun _ => fails_stop_iff) hlast

/-- The checks of a header are made in the order of their ranks. -/
lemma judged_validate : Judged h 0 h.validate := by
  rw [validate_eq]
  exact .ite (c := .magic) (fun _ => .rfl) <|
    .ite (c := .major) (fun _ => .rfl) <|
    .ite (c := .minor) (fun _ => .rfl) <|
    .ite (c := .reserved) (fun _ => .rfl) <|
    .ite (c := .secureFields) (fun _ => fails_secureFields_iff) judged_checkAddresses

/-- A header fails a check with one error. -/
lemma Fails.unique {c : Check} {e e' : HeaderError} (hf : h.Fails c e) (hf' : h.Fails c e') : e = e' := by
  cases c with
  | stop p =>
    rw [fails_stop_iff] at hf hf'
    rw [hf] at hf'
    cases hf'
    rfl
  | _ => exact hf.2.trans hf'.2.symm

/-- A header is accepted exactly if it is valid. -/
lemma validate_ok_iff : h.validate = .ok () ↔ h.Valid := by
  rw [valid_iff]
  generalize hr : h.validate = r
  have hj : Judged h 0 r := hr ▸ judged_validate
  cases hj with
  | passed hpass => exact ⟨fun _ c e => hpass c e (Nat.zero_le _), fun _ => rfl⟩
  | failed _ hf _ => exact ⟨nofun, fun hpass => absurd hf (hpass _ _)⟩

/-- A header is refused with the error of the first check that it fails. -/
lemma validate_error_iff :
    h.validate = .error e ↔ ∃ c, h.Fails c e ∧ ∀ c', c'.rank < c.rank → ∀ e', ¬ h.Fails c' e' := by
  generalize hr : h.validate = r
  have hj : Judged h 0 r := hr ▸ judged_validate
  cases hj with
  | passed hpass => exact ⟨nofun, fun ⟨c, hf, _⟩ => absurd hf (hpass c e (Nat.zero_le _))⟩
  | @failed c₁ e₁ _ hf hfirst =>
    constructor
    · intro he
      cases he
      exact ⟨c₁, hf, fun c' hlt e' => hfirst c' e' (Nat.zero_le _) hlt⟩
    · rintro ⟨c, hf', hfirst'⟩
      have hle : c₁.rank ≤ c.rank := Nat.not_lt.1 fun hlt => hfirst c e (Nat.zero_le _) hlt hf'
      have hge : c.rank ≤ c₁.rank := Nat.not_lt.1 fun hlt => hfirst' c₁ hlt e₁ hf
      obtain rfl := Check.eq_of_rank_eq (Nat.le_antisymm hle hge)
      rw [hf.unique hf']

/-- The headers that pass are the valid ones, and no entry point of a valid header lies in secure memory. Every other
header is refused with the error of the first check that it fails. -/
theorem validated_exactly (h : Header) :
    (h.validate = .ok () ↔ h.Valid) ∧
    (h.validate = .ok () → ∀ p, (⟨h.point p⟩ : VirtualAddress) ∉ Layout.secureSram ∧
      (⟨h.point p⟩ : VirtualAddress) ∉ Layout.secureWindow) ∧
    (∀ e, h.validate = .error e ↔
      ∃ c, h.Fails c e ∧ ∀ c', c'.rank < c.rank → ∀ e', ¬ h.Fails c' e') := by
  refine ⟨validate_ok_iff, ?_, fun e => validate_error_iff⟩
  intro hv p
  have hvalid := validate_ok_iff.1 hv
  cases p with
  | entry => exact hvalid.openEntry.not_mem
  | interrupt => exact hvalid.openInterrupt.not_mem

end Header

end SecureWorld.Image
