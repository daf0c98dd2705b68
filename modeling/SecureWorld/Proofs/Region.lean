import SecureWorld.Proofs.Confinement
import SecureWorld.Region

/-!
# Open regions

What `Region.claim` accepts holds no byte of secure memory and does not wrap. From this follow the rules for
reading, comparing and writing claimed regions: none of these steps sees or changes secure memory and none
halts. `Confined.claim`, `Confined.text` and `Confined.ensureDisjoint` are the rules about whole requests.
-/

namespace SecureWorld

variable {σ : Type} {b : Bounds} {m n : Machine σ}

namespace Region

variable {r q : Region} {rs : List Region}

/-- The addresses of the bytes of a region. -/
def Holds (r : Region) (a : Nat) : Prop :=
  r.addr.toNat ≤ a ∧ a < r.addr.toNat + r.len.toNat

/-- A region without a byte of secure memory that does not wrap, unless it is empty. -/
structure Open (b : Bounds) (r : Region) : Prop where
  clear : ∀ a, r.Holds a → ¬ b.Secures a
  bounded : r.len.toNat = 0 ∨ r.addr.toNat + r.len.toNat < 0x10000000000000000

/-- A region that ends within the word, unless it is empty. -/
def Bounded (r : Region) : Prop :=
  r.len.toNat = 0 ∨ r.addr.toNat + r.len.toNat < 0x10000000000000000

/-- An empty region is open. -/
lemma Open.of_empty (h : r.len.toNat = 0) : r.Open b := by
  refine ⟨?_, .inl h⟩
  rintro a ⟨hl, hr⟩
  omega

/-- A span that does not reach secure memory holds no byte of it. -/
lemma not_secures_of_reachesSecure {addr stop : Word} {a : Nat} (h : reachesSecure b addr stop = false)
    (hl : addr.toNat ≤ a) (hr : a < stop.toNat) : ¬ b.Secures a := by
  simp only [reachesSecure, Bool.or_eq_false_iff, Bool.and_eq_false_iff, decide_eq_false_iff_not,
    UInt64.lt_iff_toNat_lt, UInt32.toNat_toUInt64] at h
  simp only [Bounds.Secures, Address.toNat]
  omega

/-- A sum that does not leave the word. -/
lemma plus_eq {x y : Word} (h : x.toNat + y.toNat < 0x10000000000000000) : Word.plus x y = .ok (x + y) := by
  rw [Word.plus, Word.plus?, if_pos h]

/-- Two regions share a byte if neither of them is empty and each starts before the other one ends. -/
lemma exists_holds_iff : (∃ a, r.Holds a ∧ q.Holds a) ↔ (r.len.toNat ≠ 0 ∧ q.len.toNat ≠ 0) ∧
    r.addr.toNat < q.addr.toNat + q.len.toNat ∧ q.addr.toNat < r.addr.toNat + r.len.toNat := by
  constructor
  · rintro ⟨a, ⟨hr, hr'⟩, hq, hq'⟩
    omega
  · rintro ⟨hlen, hrq, hqr⟩
    exact ⟨max r.addr.toNat q.addr.toNat, ⟨by omega, by omega⟩, by omega, by omega⟩

/-- Whether two bounded regions share a byte can be told without leaving the word. -/
lemma overlaps_eq (hr : r.Bounded) (hq : q.Bounded) :
    ∃ o, r.overlaps q = .ok o ∧ (o = true ↔ ∃ a, r.Holds a ∧ q.Holds a) := by
  unfold overlaps
  -- an empty region need not be bounded, so it has to be out of the way before an end is computed
  by_cases he : r.len.toNat = 0 ∨ q.len.toNat = 0
  · refine ⟨false, ?_, ?_⟩
    · rw [if_pos]
      simpa [isEmpty, ← UInt64.toNat_inj] using he
    · rw [exists_holds_iff]
      exact iff_of_false Bool.false_ne_true fun h => he.elim h.1.1 h.1.2
  · have hrb : r.addr.toNat + r.len.toNat < 0x10000000000000000 := hr.resolve_left (he ∘ .inl)
    have hqb : q.addr.toNat + q.len.toNat < 0x10000000000000000 := hq.resolve_left (he ∘ .inr)
    rw [if_neg (by simpa [isEmpty, ← UInt64.toNat_inj] using he), stop, stop, plus_eq hrb, plus_eq hqb]
    refine ⟨decide (r.addr < q.addr + q.len ∧ q.addr < r.addr + r.len), ?_, ?_⟩
    · by_cases hlt : r.addr < q.addr + q.len
      · simp only [bind, Except.bind, hlt, if_true, pure, Except.pure, true_and]
      · simp only [bind, Except.bind, hlt, if_false, pure, Except.pure, false_and, decide_false]
    · rw [exists_holds_iff, and_iff_right (not_or.1 he), decide_eq_true_iff, UInt64.lt_iff_toNat_lt,
        UInt64.lt_iff_toNat_lt, UInt64.toNat_add, UInt64.toNat_add, Nat.mod_eq_of_lt hrb, Nat.mod_eq_of_lt hqb]

/-- Whether a bounded region shares a byte with one of others can be told without leaving the word. -/
lemma overlapsAny_eq (hr : r.Bounded) (hrs : ∀ q ∈ rs, q.Bounded) :
    ∃ o, r.overlapsAny rs = .ok o ∧ (o = true ↔ ∃ q ∈ rs, ∃ a, r.Holds a ∧ q.Holds a) := by
  induction rs with
  | nil => exact ⟨false, rfl, by simp⟩
  | cons q rs ih =>
    obtain ⟨o, ho, hiff⟩ := overlaps_eq hr (hrs q List.mem_cons_self)
    obtain ⟨o', ho', hiff'⟩ := ih fun q hq => hrs q (List.mem_cons_of_mem _ hq)
    rw [overlapsAny, ho, ho']
    cases o with
    | true => exact ⟨true, rfl, by simpa using .inl (hiff.1 rfl)⟩
    | false =>
      refine ⟨o', rfl, ?_⟩
      have hnone : ¬ ∃ a, r.Holds a ∧ q.Holds a := fun h => by cases hiff.2 h
      rw [hiff']
      constructor
      · rintro ⟨p, hp, h⟩
        exact ⟨p, List.mem_cons_of_mem _ hp, h⟩
      · rintro ⟨p, hp, h⟩
        cases List.mem_cons.1 hp with
        | inl e => exact absurd (e ▸ h) hnone
        | inr hp => exact ⟨p, hp, h⟩

/-- Whether bounded regions are apart from one another can be told without leaving the word. -/
lemma disjoint_eq (hrs : ∀ r ∈ rs, r.Bounded) :
    ∃ o, disjoint rs = .ok o ∧ (o = true ↔ rs.Pairwise fun r q => ¬ ∃ a, r.Holds a ∧ q.Holds a) := by
  induction rs with
  | nil => exact ⟨true, rfl, by simp⟩
  | cons r rs ih =>
    obtain ⟨hr, hrs⟩ := List.forall_mem_cons.1 hrs
    obtain ⟨o, ho, hiff⟩ := overlapsAny_eq hr hrs
    obtain ⟨o', ho', hiff'⟩ := ih hrs
    rw [disjoint, ho, ho', List.pairwise_cons]
    cases o with
    | true =>
      obtain ⟨q, hq, h⟩ := hiff.1 rfl
      refine ⟨false, rfl, ?_⟩
      constructor
      · intro hf
        cases hf
      · rintro ⟨hd, -⟩
        exact absurd h (hd q hq)
    | false =>
      -- the first region shares no byte with the others, and the comparison goes on with them
      have hnone : ∀ q ∈ rs, ¬ ∃ a, r.Holds a ∧ q.Holds a := fun q hq h => by
        cases hiff.2 ⟨q, hq, h⟩
      exact ⟨o', rfl, hiff'.trans ⟨fun h => ⟨hnone, h⟩, And.right⟩⟩

/-- The bytes of an open region are the same in machines that are alike. -/
lemma Open.byte_eq {a : Nat} (hr : r.Open b) (hl : Alike b m n) (ha : r.Holds a) :
    n.memory.byte a = m.memory.byte a :=
  hl.memory a (hr.clear a ha)

/-- Reading at the address of an open region gives the same bytes in machines that are alike. -/
lemma Open.read_eq {k : Nat} (hr : r.Open b) (hl : Alike b m n) (hk : k ≤ r.len.toNat) :
    n.memory.read r.addr.toNat k = m.memory.read r.addr.toNat k := by
  ext i hi
  rw [Memory.getElem_read, Memory.getElem_read, hr.byte_eq hl]
  exact ⟨by omega, by omega⟩

/-- A number within an open region is the same in memories that are alike. -/
lemma Open.readNat_eq {k : Nat} (hr : r.Open b) (hl : Alike b m n) (hk : k ≤ r.len.toNat) :
    n.memory.readNat r.addr.toNat k = m.memory.readNat r.addr.toNat k := by
  rw [Memory.readNat, Memory.readNat, hr.read_eq hl hk]

/-- A part of an open region is open, and its address is a sum of addresses. -/
lemma Open.part {off len : Word} (hr : r.Open b) (hlen : 0 < len.toNat)
    (h : off.toNat + len.toNat ≤ r.len.toNat) :
    (⟨r.addr + off, len⟩ : Region).Open b ∧ (r.addr + off).toNat = r.addr.toNat + off.toNat := by
  have hb := hr.bounded
  have hadd : (r.addr + off).toNat = r.addr.toNat + off.toNat := by
    rw [UInt64.toNat_add]
    omega
  refine ⟨⟨?_, .inr ?_⟩, hadd⟩
  · rintro a ⟨hl, hu⟩
    simp only [hadd] at hl hu
    exact hr.clear a ⟨by omega, by omega⟩
  · simp only [hadd]
    omega

end Region

namespace Confined

open Region

variable {π : Policy} {F : Fault → Prop} {r q : Region} {rs : List Region} {k : Nat}

/-- What is claimed is what was asked for, and open. -/
lemma claim {addr len align : Word} :
    Confined π (Region.claim addr len align : Service σ Region)
      (fun r => r = ⟨addr, len⟩ ∧ r.Open π.bounds) (Stop.Within F) := by
  unfold Region.claim
  split
  next h => exact .pure ⟨rfl, .of_empty (congrArg UInt64.toNat h)⟩
  split
  · exact .refuse
  cases hs : Word.plus? addr len with
  | none => exact .refuse
  | some stop =>
    have hstop := Word.toNat_of_plus? hs
    have hlt := stop.toNat_lt
    refine .bind .secureRegion fun b hb => ?_
    subst hb
    split
    · exact .refuse
    next h =>
      refine .pure ⟨rfl, ?_, .inr (by simp only; omega)⟩
      rintro a ⟨hl, hr⟩
      exact not_secures_of_reachesSecure (by simpa using h) hl (hstop ▸ hr)

/-- The bytes of an open region may be loaded. -/
lemma load (hr : r.Open π.bounds) :
    Confined π (r.load : Service σ _) (fun _ => True) (Stop.Within F) := by
  refine .peek ?_ fun m _ => .pure trivial
  intro m n hl
  rw [hr.read_eq hl (Nat.le_refl _)]

/-- A fixed number of bytes within an open region may be loaded. -/
lemma loadFixed (hr : r.Open π.bounds) (hk : k ≤ r.len.toNat) :
    Confined π (r.loadFixed k : Service σ _) (fun _ => True) (Stop.Within F) := by
  refine .peek ?_ fun m _ => .pure trivial
  intro m n hl
  rw [hr.read_eq hl hk]

/-- The number in an open region may be loaded. -/
lemma loadNat (hr : r.Open π.bounds) :
    Confined π (r.loadNat : Service σ _) (fun _ => True) (Stop.Within F) := by
  refine .peek ?_ fun m _ => .pure trivial
  intro m n hl
  rw [hr.readNat_eq hl (Nat.le_refl _)]

/-- A block written into an open region leaves secure memory as it was. -/
lemma store {v : Vector UInt8 k} (hr : r.Open π.bounds) (hk : k ≤ r.len.toNat) :
    Confined π (r.store v : Service σ Unit) (fun _ => True) (Stop.Within F) := by
  refine .modify ?_ ?_
  · intro m n hl
    refine ⟨hl.bounds, ?_, ?_⟩
    · rw [hl.rest]
    · intro a ha
      rw [Memory.byte_write, Memory.byte_write]
      split
      · rfl
      · exact hl.memory a ha
  · intro m
    refine ⟨π.refl _, ?_⟩
    intro a ha
    apply Memory.byte_write_of_not_mem
    by_contra hc
    exact hr.clear a ⟨by omega, by omega⟩ ha

/-- A number of four bytes may be written into an open region. -/
lemma storeSingle {w : UInt32} (hr : r.Open π.bounds) (hk : 4 ≤ r.len.toNat) :
    Confined π (r.storeSingle w : Service σ Unit) (fun _ => True) (Stop.Within F) :=
  .store hr hk

/-- A number of eight bytes may be written into an open region. -/
lemma storeWord {w : Word} (hr : r.Open π.bounds) (hk : 8 ≤ r.len.toNat) :
    Confined π (r.storeWord w : Service σ Unit) (fun _ => True) (Stop.Within F) :=
  .store hr hk

/-- The bytes of an open region may be copied into another one. -/
lemma copyTo (hr : r.Open π.bounds) (hq : q.Open π.bounds) :
    Confined π (r.copyTo q : Service σ Unit) (fun _ => True) (Stop.Within F) := by
  unfold Region.copyTo
  split
  · exact .refuse
  next h =>
    refine .bind (.load hr) fun v _ => .store hq ?_
    rw [UInt64.lt_iff_toNat_lt] at h
    omega

/-- Open regions may be compared. -/
lemma ensureDisjoint (h : ∀ r ∈ rs, r.Open π.bounds) :
    Confined π (Region.ensureDisjoint rs : Service σ Unit) (fun _ => True) (Stop.Within F) := by
  obtain ⟨o, ho, -⟩ := disjoint_eq fun r hr => (h r hr).bounded
  refine .bind (Q := fun _ => True) (.ofExcept ⟨o, ho, trivial⟩) fun o _ => ?_
  cases o with
  | true => exact .pure trivial
  | false => exact .refuse

/-- The search for a terminator never leaves the word: what was looked at so far lies in the word. -/
lemma scan {addr : Word} {budget seen : Nat} (h : addr.toNat + seen < 0x10000000000000000) :
    Confined π (Region.scan addr budget seen : Service σ Nat) (fun _ => True) (Stop.Within F) := by
  induction budget generalizing seen with
  | zero => exact .refuse
  | succ budget ih =>
    have hseen : (UInt64.ofNat seen).toNat = seen := by
      rw [UInt64.toNat_ofNat']
      omega
    have hplus : Word.plus addr (UInt64.ofNat seen) = .ok (addr + UInt64.ofNat seen) := plus_eq (by omega)
    refine .bind (.ofExcept ⟨_, hplus, rfl⟩) ?_
    rintro next rfl
    refine .bind .claim ?_
    rintro r ⟨rfl, hr⟩
    refine .bind (.loadNat hr) fun c _ => ?_
    split
    · exact .pure trivial
    · -- the byte was claimed, so the address behind it is still in the word
      refine ih ?_
      have hb := hr.bounded
      simp only [UInt64.toNat_add, hseen] at hb
      have hone : (1 : Word).toNat = 1 := rfl
      omega

/-- A text may be read, and the region that is read is open. -/
lemma text {addr : Word} {limit : Nat} :
    Confined π (Region.text addr limit : Service σ (List UInt8 × Region))
      (fun p => p.2.Open π.bounds) (Stop.Within F) := by
  unfold Region.text
  dsimp only
  split
  · exact .bind (Q := fun _ => False) .refuse fun _ h => h.elim
  · refine .bind (.scan (by simpa using addr.toNat_lt)) fun len _ => ?_
    refine .bind .claim ?_
    rintro r ⟨-, hr⟩
    refine .bind (.load hr) fun v _ => ?_
    split
    · split
      · exact .refuse
      · exact .pure hr
    · exact .refuse

end Confined

end SecureWorld
