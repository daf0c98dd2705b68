import SecureWorld.Proofs.Spans

/-!
# Texts of the open world

A text is looked at byte by byte for its terminator, and each byte is claimed before it is read. `Ends` is the
relation between an index and that of the terminator if every byte between them may be read, `scan_finds` says that
the service walks exactly these bytes, and `texts_exact` says which texts there are: by their bytes, and whatever the
memory holds behind them.
-/

namespace SecureWorld.Region

variable {σ : Type} {m : Machine σ} {b : Bounds} {M M' : Memory} {addr : Word} {a i n limit : Nat}

/-- A byte that may be read for the open world. -/
structure ByteOpen (b : Bounds) (a : Nat) : Prop where
  ne_zero : a ≠ 0
  bounded : a + 1 ≤ 0xFFFFFFFFFFFFFFFF
  clear : ¬ b.Secures a

/-- The text of `n` bytes at an address: its terminator comes within the limit and is the first zero, no byte of both
is secure, and they do not go beyond the last address. -/
structure Text (M : Memory) (b : Bounds) (addr : Word) (limit n : Nat) : Prop where
  ne_zero : addr ≠ 0
  short : n < limit
  terminator : M.byte (addr.toNat + n) = 0
  nonzero : ∀ i < n, M.byte (addr.toNat + i) ≠ 0
  bounded : addr.toNat + n + 1 ≤ 0xFFFFFFFFFFFFFFFF
  clear : ∀ i ≤ n, ¬ b.Secures (addr.toNat + i)

/-- The bytes from an index on may be read, up to the first zero. -/
inductive Ends (b : Bounds) (M : Memory) (addr : Word) : Nat → Nat → Prop where
  | here {i : Nat} : ByteOpen b (addr.toNat + i) → M.byte (addr.toNat + i) = 0 → Ends b M addr i i
  | later {i n : Nat} : ByteOpen b (addr.toNat + i) → M.byte (addr.toNat + i) ≠ 0 → Ends b M addr (i + 1) n →
    Ends b M addr i n

/-- A byte can be claimed exactly if it may be read for the open world. -/
lemma acceptable_byte {p : Word} : Acceptable b 1 ⟨p, 1⟩ ↔ ByteOpen b p.toNat := by
  have hone : (1 : Word).toNat = 1 := rfl
  rw [acceptable_iff, Innocuous, or_iff_right (by decide : (1 : Word) ≠ 0), hone]
  constructor
  · rintro ⟨⟨hz, -, hbounded, hclear⟩, -⟩
    refine ⟨fun h => hz (UInt64.toNat_inj.1 h), hbounded, hclear _ ⟨Nat.le_refl _, Nat.lt_succ_self _⟩⟩
  · rintro ⟨hz, hbounded, hclear⟩
    refine ⟨⟨fun h => hz (congrArg UInt64.toNat h), Nat.one_dvd _, hbounded, ?_⟩, ?_⟩
    · rintro a ⟨hlow, hhigh⟩
      rwa [Nat.le_antisymm (Nat.le_of_lt_succ hhigh) hlow]
    · -- a single byte has none on both sides of an empty window
      rintro ⟨-, hbefore, hbehind⟩
      exact absurd hbefore (Nat.not_lt.2 (Nat.le_of_lt_succ hbehind))

namespace Ends

/-- The byte at the index may be read. -/
lemma byteOpen (h : Ends b M addr i n) : ByteOpen b (addr.toNat + i) := by
  cases h with
  | here hi _ => exact hi
  | later hi _ _ => exact hi

/-- The end does not come before the index. -/
lemma le (h : Ends b M addr i n) : i ≤ n := by
  induction h with
  | here => exact Nat.le_refl _
  | later _ _ _ ih => exact Nat.le_of_succ_le ih

/-- A byte other than zero is not the end. -/
lemma tail (h : Ends b M addr i n) (hne : M.byte (addr.toNat + i) ≠ 0) : Ends b M addr (i + 1) n := by
  cases h with
  | here _ hz => exact absurd hz hne
  | later _ _ h => exact h

end Ends

/-- The bytes end at the first zero, and all of them may be read. -/
lemma ends_iff : Ends b M addr i n ↔ i ≤ n ∧ M.byte (addr.toNat + n) = 0 ∧
    ∀ j, i ≤ j → j ≤ n → ByteOpen b (addr.toNat + j) ∧ (j < n → M.byte (addr.toNat + j) ≠ 0) := by
  constructor
  · intro h
    refine ⟨h.le, ?_⟩
    induction h with
    | @here i hi hz =>
      refine ⟨hz, fun j hlow hhigh => ?_⟩
      obtain rfl := Nat.le_antisymm hhigh hlow
      exact ⟨hi, fun hlt => absurd hlt (Nat.lt_irrefl _)⟩
    | @later i n hi hne _ ih =>
      refine ⟨ih.1, fun j hlow hhigh => ?_⟩
      obtain rfl | hlt := Nat.eq_or_lt_of_le hlow
      · exact ⟨hi, fun _ => hne⟩
      · exact ih.2 j hlt hhigh
  · rintro ⟨hle, hz, hall⟩
    -- on the number of bytes before the zero
    obtain ⟨d, rfl⟩ := Nat.exists_eq_add_of_le hle
    clear hle
    induction d generalizing i with
    | zero => exact .here (hall i (Nat.le_refl _) (Nat.le_refl _)).1 hz
    | succ d ih =>
      obtain ⟨hi, hne⟩ := hall i (Nat.le_refl _) (by omega)
      have hcount : i + (d + 1) = i + 1 + d := by omega
      refine .later hi (hne (by omega)) ?_
      rw [hcount] at hz hall ⊢
      exact ih hz fun j hlow => hall j (by omega)

/-- A text is a walk to its terminator. -/
lemma text_iff_ends : Text M b addr limit n ↔ addr ≠ 0 ∧ n < limit ∧ Ends b M addr 0 n := by
  rw [ends_iff]
  constructor
  · intro h
    refine ⟨h.ne_zero, h.short, Nat.zero_le _, h.terminator, fun j _ hj => ⟨⟨?_, ?_, h.clear j hj⟩, h.nonzero j⟩⟩
    · have hz : addr.toNat ≠ 0 := fun hz => h.ne_zero (UInt64.toNat_inj.1 hz)
      omega
    · have := h.bounded
      omega
  · rintro ⟨hz, hshort, -, hterm, hall⟩
    refine ⟨hz, hshort, hterm, fun i hi => (hall i (Nat.zero_le _) (Nat.le_of_lt hi)).2 hi, ?_, fun i hi => ?_⟩
    · exact (hall n (Nat.zero_le _) (Nat.le_refl _)).1.bounded
    · exact (hall i (Nat.zero_le _) hi).1.clear

/-- An index that does not leave the word is added as a number. -/
lemma toNat_index (h : addr.toNat + i < 0x10000000000000000) : (addr + UInt64.ofNat i).toNat = addr.toNat + i := by
  rw [UInt64.toNat_add, UInt64.toNat_ofNat']
  omega

/-- The walk finds the terminator that the memory holds, if it comes within the budget. -/
lemma scan_finds (budget : Nat) (hi : addr.toNat + i < 0x10000000000000000) :
    Finds m (fun len => ∃ n, n < i + budget ∧ Ends m.bounds m.memory addr i n ∧ len = n + 1)
      (scan addr budget i : Service σ Nat) := by
  induction budget generalizing i with
  | zero =>
    refine .refuse ?_
    rintro len ⟨n, hlt, h, -⟩
    exact Nat.not_lt.2 h.le hlt
  | succ budget ih =>
    have hindex := toNat_index hi
    have hbyte : Acceptable m.bounds 1 ⟨addr + UInt64.ofNat i, 1⟩ ↔ ByteOpen m.bounds (addr.toNat + i) := by
      rw [acceptable_byte, hindex]
    have hplus : Word.plus addr (UInt64.ofNat i) = .ok (addr + UInt64.ofNat i) := by
      refine plus_eq ?_
      rw [UInt64.toNat_ofNat']
      omega
    rw [scan, hplus]
    refine .bind (P := fun p => p = addr + UInt64.ofNat i) (.pure rfl) (fun _ _ => ⟨_, rfl⟩) ?_
    rintro p rfl
    refine .bind .claim (fun _ ⟨n, _, h, _⟩ => ⟨_, hbyte.2 h.byteOpen, rfl⟩) ?_
    rintro r ⟨hr, rfl⟩
    have hopen := hbyte.1 hr
    refine .bind .loadNat (fun _ _ => ⟨_, rfl⟩) ?_
    intro v (hv : v = m.memory.readNat (addr + UInt64.ofNat i).toNat 1)
    rw [hindex, Memory.readNat_one] at hv
    split
    next hz =>
      have hzero : m.memory.byte (addr.toNat + i) = 0 := UInt8.toNat_inj.1 (hv.symm.trans hz)
      exact .pure ⟨i, by omega, .here hopen hzero, rfl⟩
    next hne =>
      have hnonzero : m.memory.byte (addr.toNat + i) ≠ 0 := fun h => hne (hv.trans (congrArg UInt8.toNat h))
      -- the byte was claimed, so the index behind it is still in the word
      have hbound := hopen.bounded
      refine .congr (ih (by omega)) fun len => ?_
      constructor
      · rintro ⟨n, hlt, h, rfl⟩
        exact ⟨n, by omega, .later hopen hnonzero h, rfl⟩
      · rintro ⟨n, hlt, h, rfl⟩
        exact ⟨n, by omega, h.tail hnonzero, rfl⟩

namespace Text

/-- A text has no zero in it. -/
lemma zero_not_mem (h : Text M b addr limit n) : 0 ∉ (M.read addr.toNat n).toList := by
  intro hmem
  obtain ⟨i, hi, hz⟩ := List.getElem_of_mem hmem
  rw [Vector.length_toList] at hi
  rw [Vector.getElem_toList, Memory.getElem_read] at hz
  exact h.nonzero i hi hz

/-- The length of a text fits into a word, with the terminator. -/
lemma toNat_len (h : Text M b addr limit n) : (UInt64.ofNat (n + 1)).toNat = n + 1 := by
  have := h.bounded
  rw [UInt64.toNat_ofNat']
  omega

/-- A text and its terminator can be claimed together, unless there is an empty window inside of them. -/
lemma acceptable (h : Text M b addr limit n) (hb : b.window.start.toNat < b.window.stop.toNat) :
    Acceptable b 1 ⟨addr, UInt64.ofNat (n + 1)⟩ := by
  refine acceptable_iff.2 ⟨.inr ⟨h.ne_zero, Nat.one_dvd _, ?_, ?_⟩, fun he => Nat.ne_of_lt hb he.empty⟩
  · rw [h.toNat_len]
    exact h.bounded
  · rintro a ⟨hlow, hhigh⟩
    obtain ⟨i, rfl⟩ := Nat.exists_eq_add_of_le hlow
    rw [h.toNat_len] at hhigh
    exact h.clear i (by omega)

/-- At an address there is one text at most. -/
lemma unique (h : Text M b addr limit n) {n' : Nat} (h' : Text M b addr limit n') : n = n' := by
  rcases Nat.lt_trichotomy n n' with hlt | heq | hlt
  · exact absurd h.terminator (h'.nonzero n hlt)
  · exact heq
  · exact absurd h'.terminator (h.nonzero n' hlt)

/-- Where the bytes are the same, so is the text. -/
lemma of_same (h : Text M b addr limit n)
    (hsame : ∀ i ≤ n, M'.byte (addr.toNat + i) = M.byte (addr.toNat + i)) : Text M' b addr limit n where
  ne_zero := h.ne_zero
  short := h.short
  terminator := (hsame n (Nat.le_refl _)).trans h.terminator
  nonzero i hi := (hsame i (Nat.le_of_lt hi)).symm ▸ h.nonzero i hi
  bounded := h.bounded
  clear := h.clear

end Text

/-- Memories that agree on the bytes up to the first zero of one of them, as far as they come within the limit and are
not secure. -/
def SeenAlike (M M' : Memory) (b : Bounds) (addr : Word) (limit : Nat) : Prop :=
  ∀ i < limit, (∀ j < i, M.byte (addr.toNat + j) ≠ 0) → ¬ b.Secures (addr.toNat + i) →
    M'.byte (addr.toNat + i) = M.byte (addr.toNat + i)

namespace SeenAlike

/-- Memories that are seen alike have the bytes of a text of the first one in common. -/
lemma byte_eq (h : SeenAlike M M' b addr limit) (ht : Text M b addr limit n) :
    ∀ i ≤ n, M'.byte (addr.toNat + i) = M.byte (addr.toNat + i) := fun i hi =>
  h i (Nat.lt_of_le_of_lt hi ht.short) (fun j hj => ht.nonzero j (Nat.lt_of_lt_of_le hj hi)) (ht.clear i hi)

/-- One byte after the other is the same, as long as none before it is zero. -/
lemma byte_eq_of_text (h : SeenAlike M M' b addr limit) (ht : Text M' b addr limit n) :
    ∀ i ≤ n, M'.byte (addr.toNat + i) = M.byte (addr.toNat + i) := by
  intro i
  induction i using Nat.strongRecOn with
  | ind i ih =>
    intro hi
    refine h i (Nat.lt_of_le_of_lt hi ht.short) (fun j hj => ?_) (ht.clear i hi)
    rw [← ih j hj (by omega)]
    exact ht.nonzero j (by omega)

/-- Memories that are seen alike hold the same texts. -/
lemma text_iff (h : SeenAlike M M' b addr limit) : Text M' b addr limit n ↔ Text M b addr limit n :=
  ⟨fun ht => ht.of_same fun i hi => (h.byte_eq_of_text ht i hi).symm, fun ht => ht.of_same (h.byte_eq ht)⟩

/-- A text is read with the same result from memories that are seen alike. -/
lemma read_eq (h : SeenAlike M M' b addr limit) (ht : Text M b addr limit n) :
    M'.read addr.toNat n = M.read addr.toNat n := by
  ext i hi : 1
  rw [Memory.getElem_read, Memory.getElem_read, h.byte_eq ht i (Nat.le_of_lt hi)]

end SeenAlike

section Window

variable (hb : m.bounds.window.start.toNat < m.bounds.window.stop.toNat)

include hb

/-- What is looked for is the text that the memory holds, and the check at the end is passed. -/
lemma text_finds : Finds m (fun t => ∃ n, Text m.memory m.bounds addr limit n ∧
      t = ((m.memory.read addr.toNat n).toList, ⟨addr, UInt64.ofNat (n + 1)⟩))
    (text addr limit : Service σ _) := by
  rw [text]
  split
  next hz =>
    refine .bind (P := fun _ => False) (.refuse fun _ h => h) ?_ (fun _ h => h.elim)
    rintro t ⟨n, h, -⟩
    exact absurd hz h.ne_zero
  next hz =>
    refine .bind (scan_finds limit addr.toNat_lt) ?_ ?_
    · rintro t ⟨n, h, -⟩
      obtain ⟨-, hlt, hends⟩ := text_iff_ends.1 h
      exact ⟨_, n, by omega, hends, rfl⟩
    rintro len ⟨n, hlt, hends, rfl⟩
    have htext : Text m.memory m.bounds addr limit n := text_iff_ends.2 ⟨hz, by omega, hends⟩
    refine .bind .claim (fun _ _ => ⟨_, htext.acceptable hb, rfl⟩) ?_
    rintro r ⟨-, rfl⟩
    refine .bind .load (fun _ _ => ⟨_, rfl⟩) ?_
    rintro v rfl
    -- the zero is the last of the bytes that are claimed, and there is none before it
    have hbytes : (m.memory.read addr.toNat (UInt64.ofNat (n + 1)).toNat).toList.reverse =
        0 :: (m.memory.read addr.toNat n).toList.reverse := by
      rw [htext.toNat_len, Memory.toList_read_succ, htext.terminator, List.reverse_append]
      rfl
    have hrest : ¬ (m.memory.read addr.toNat n).toList.reverse.contains 0 = true := by
      rw [List.contains_iff_mem, List.mem_reverse]
      exact htext.zero_not_mem
    rw [hbytes]
    show Finds m _ (if (m.memory.read addr.toNat n).toList.reverse.contains 0 = true then _ else _)
    rw [if_neg hrest, List.reverse_reverse]
    exact .pure ⟨n, htext, rfl⟩

/-- A text in the memory is borrowed, with its terminator. -/
lemma borrowed_of_text (h : Text m.memory m.bounds addr limit n) : ∃ k, m.Consulted k ∧
    text addr limit m = .ok ((m.memory.read addr.toNat n).toList, ⟨addr, UInt64.ofNat (n + 1)⟩) k := by
  have hfound : Found m _ (text addr limit m) := text_finds hb m .untouched
  generalize text addr limit m = r at hfound
  cases hfound with
  | @found t k ht hk =>
    obtain ⟨n', h', rfl⟩ := ht
    rw [h.unique h']
    exact ⟨k, hk, rfl⟩
  | missing hnone => exact absurd ⟨n, h, rfl⟩ (hnone _)

/-- Where the memory holds no text the request is refused. -/
lemma refused_of_no_text (h : ∀ n, ¬ Text m.memory m.bounds addr limit n) :
    ∃ k, k.memory = m.memory ∧ k.devices = m.devices ∧
      text addr limit m = .error (.refused .invalidArg) k := by
  have hfound : Found m _ (text addr limit m) := text_finds hb m .untouched
  generalize text addr limit m = r at hfound
  cases hfound with
  | found ht _ =>
    obtain ⟨n, h', -⟩ := ht
    exact absurd h' (h n)
  | @missing k _ hmem hdev => exact ⟨k, hmem, hdev, rfl⟩

/-- The outcome is the same for memories that are seen alike. -/
lemma outcome_text_congr (h : SeenAlike m.memory M' m.bounds addr limit) :
    outcome (text addr limit { m with memory := M' }) = outcome (text addr limit m) := by
  by_cases ht : ∃ n, Text m.memory m.bounds addr limit n
  · obtain ⟨n, ht⟩ := ht
    obtain ⟨k, -, hrun⟩ := borrowed_of_text hb ht
    obtain ⟨k', -, hrun'⟩ := borrowed_of_text (m := { m with memory := M' }) hb (h.text_iff.2 ht)
    rw [hrun, hrun']
    show Except.ok ((M'.read addr.toNat n).toList, _) = _
    rw [h.read_eq ht]
    rfl
  · have hnone : ∀ n, ¬ Text m.memory m.bounds addr limit n := fun n hn => ht ⟨n, hn⟩
    obtain ⟨k, -, -, hrun⟩ := refused_of_no_text hb hnone
    have hnone' : ∀ n, ¬ Text M' m.bounds addr limit n := fun n hn => hnone n (h.text_iff.1 hn)
    obtain ⟨k', -, -, hrun'⟩ := refused_of_no_text (m := { m with memory := M' }) hb hnone'
    rw [hrun, hrun']
    rfl

end Window

/-- With the secure region of the layout, whatever the memory holds: if there is a text at an address within the
limit, it is borrowed, its bytes without the terminator and the region of both, and nothing has happened. If there is
none, the request is refused as an invalid argument. What comes of it does not depend on the bytes behind the first
zero or behind the limit, nor on those of secure memory. -/
theorem texts_exact (hb : m.bounds = .ofLayout) (addr : Word) (limit : Nat) :
    (∀ n, Text m.memory m.bounds addr limit n → ∃ k, m.Consulted k ∧
      text addr limit m = .ok ((m.memory.read addr.toNat n).toList, ⟨addr, UInt64.ofNat (n + 1)⟩) k) ∧
    ((∀ n, ¬ Text m.memory m.bounds addr limit n) → ∃ k, k.memory = m.memory ∧ k.devices = m.devices ∧
      text addr limit m = .error (.refused .invalidArg) k) ∧
    ∀ M', SeenAlike m.memory M' m.bounds addr limit →
      outcome (text addr limit { m with memory := M' }) = outcome (text addr limit m) := by
  have hwindow : m.bounds.window.start.toNat < m.bounds.window.stop.toNat := by
    rw [hb]
    decide
  exact ⟨fun n => borrowed_of_text hwindow, refused_of_no_text hwindow, fun M' => outcome_text_congr hwindow⟩

/-- A text of two bytes is borrowed within a limit of three, whatever follows it, and refused within a limit of
two. -/
theorem text_within_limit :
    let m : Machine Unit := { Machine.powerUp () with
      memory := Memory.zero.writeList 0x40820000 [0x61, 0x62, 0, 0x63] }
    let M' := Memory.zero.writeList 0x40820000 [0x61, 0x62]
    m.bounds = .ofLayout ∧ outcome (text 0x40820000 3 m) = .ok ([0x61, 0x62], ⟨0x40820000, 3⟩) ∧
      outcome (text 0x40820000 3 { m with memory := M' }) = .ok ([0x61, 0x62], ⟨0x40820000, 3⟩) ∧
      outcome (text 0x40820000 2 m) = .error (.refused .invalidArg) := by
  intro m M'
  have hclear : ∀ i ≤ 2, ¬ m.bounds.Secures ((0x40820000 : Word).toNat + i) := by
    have hlow : Layout.secureSramEnd.toNat ≤ (0x40820000 : Word).toNat := by decide
    have hhigh : (0x40820000 : Word).toNat + 2 < m.bounds.window.start.toNat := by decide
    rintro i hi (⟨-, hsram⟩ | ⟨hstart, -⟩)
    · omega
    · omega
  have htext : Text m.memory m.bounds 0x40820000 3 2 :=
    ⟨by decide, by decide, by decide, by decide, by decide, hclear⟩
  have hnone : ∀ n, ¬ Text m.memory m.bounds 0x40820000 2 n := by
    intro n h
    have hbytes : ∀ i < 2, m.memory.byte ((0x40820000 : Word).toNat + i) ≠ 0 := by decide
    exact hbytes n h.short h.terminator
  have hsame : ∀ i < 3, M'.byte ((0x40820000 : Word).toNat + i) = m.memory.byte ((0x40820000 : Word).toNat + i) := by
    decide
  obtain ⟨hborrowed, -, hcongr⟩ := texts_exact (m := m) rfl 0x40820000 3
  obtain ⟨-, hrefused, -⟩ := texts_exact (m := m) rfl 0x40820000 2
  obtain ⟨k, -, hrun⟩ := hborrowed 2 htext
  obtain ⟨k', -, -, hrun'⟩ := hrefused hnone
  refine ⟨rfl, congrArg outcome hrun, ?_, congrArg outcome hrun'⟩
  exact (hcongr M' fun i hi _ _ => hsame i hi).trans (congrArg outcome hrun)

end SecureWorld.Region
