import SecureWorld.Proofs.Cursor
import SecureWorld.Proofs.Screening

/-!
# Lists of fuse descriptors

The open world names a field of fuses by a list of pointers to descriptors, ended by a zero. `Fuse.Chain` is the
relation between a slot of such a list and the pointers from it on, if every slot and every descriptor may be read,
and `descriptors_finds` says that the service walks exactly these lists. `Fuse.Legal` describes a list as a whole.

`fuses_read_from_open_runs` says what the driver gets of any memory at all: the whole list and nothing secret. In the
other direction, `legal_list_read_if_short` says that a legal list is carried out if it is shorter than the greatest
number of descriptors, and `sixteen_pointers_refused` is a list of just that number, which is refused.
-/

namespace SecureWorld.Fuse

variable {σ : Type} {m k : Machine σ} {b : Bounds} {M : Memory} {field p : Word} {dst : Region} {i : Nat}
  {ps qs : List Word}

/-- The slot of a list at an index. -/
def slot (field : Word) (i : Nat) : Region :=
  ⟨field + UInt64.ofNat (8 * i), 8⟩

/-- The run that the descriptor behind a pointer spells. -/
def run (M : Memory) (p : Word) : FuseRun :=
  .ofBytes (M.read p.toNat 4)

/-- A slot that may be read for the open world, and that is not written over by the answer. -/
structure SlotOpen (b : Bounds) (field : Word) (dst : Region) (i : Nat) : Prop where
  within : field.toNat + 8 * i < 0x10000000000000000
  acceptable : (slot field i).Acceptable b 8
  apart : (slot field i).Apart dst

/-- A descriptor that may be read for the open world, and that is not written over by the answer. -/
structure RunOpen (b : Bounds) (M : Memory) (dst : Region) (p : Word) : Prop where
  acceptable : Region.Acceptable b 2 ⟨p, 4⟩
  apart : Region.Apart ⟨p, 4⟩ dst
  unkeyed : (run M p).block < FuseRun.firstKeyBlock

/-- The pointers of a list from a slot on, up to the zero that ends it. -/
inductive Chain (b : Bounds) (M : Memory) (field : Word) (dst : Region) : Nat → List Word → Prop where
  | stop {i : Nat} : SlotOpen b field dst i → M.word (slot field i).addr.toNat = 0 → Chain b M field dst i []
  | next {i : Nat} {p : Word} {ps : List Word} : SlotOpen b field dst i → M.word (slot field i).addr.toNat = p →
    RunOpen b M dst p → Chain b M field dst (i + 1) ps → Chain b M field dst i (p :: ps)

/-- An open descriptor does not lie at zero. -/
lemma RunOpen.ne_zero (h : RunOpen b M dst p) : p ≠ 0 :=
  (h.acceptable.resolve_left (by simp)).ne_zero

namespace Chain

/-- Every list begins at an open slot. -/
lemma slotOpen (h : Chain b M field dst i ps) : SlotOpen b field dst i := by
  cases h with
  | stop hs _ => exact hs
  | next hs _ _ _ => exact hs

/-- A slot with a word other than zero begins a list with an open descriptor, and goes on behind it. -/
lemma exists_cons (h : Chain b M field dst i ps) (hne : M.word (slot field i).addr.toNat ≠ 0) :
    ∃ qs, ps = M.word (slot field i).addr.toNat :: qs ∧
      RunOpen b M dst (M.word (slot field i).addr.toNat) ∧ Chain b M field dst (i + 1) qs := by
  cases h with
  | stop _ hw => exact absurd hw hne
  | next _ hw hr ht =>
    subst hw
    exact ⟨_, rfl, hr, ht⟩

/-- The memory determines the list. -/
lemma unique (h : Chain b M field dst i ps) (h' : Chain b M field dst i qs) : ps = qs := by
  induction h generalizing qs with
  | stop _ hw =>
    cases h' with
    | stop => rfl
    | next _ hw' hr _ => exact absurd (hw'.symm.trans hw) hr.ne_zero
  | next _ hw hr _ ih =>
    cases h' with
    | stop _ hw' => exact absurd (hw.symm.trans hw') hr.ne_zero
    | next _ hw' _ ht' => rw [← hw, ← hw', ih ht']

end Chain

/-- Slots within the word lie eight bytes apart. -/
lemma toNat_slot (h : field.toNat + 8 * i < 0x10000000000000000) :
    (slot field i).addr.toNat = field.toNat + 8 * i := by
  rw [slot, UInt64.toNat_add, UInt64.toNat_ofNat']
  omega

/-- A slot has an address if it does not lie beyond the end of the address space. -/
lemma slotAddress_eq_some_iff {a : Word} (hi : i < 0x10000000000000000) :
    slotAddress field i = some a ↔ field.toNat + 8 * i < 0x10000000000000000 ∧ a = (slot field i).addr := by
  have hindex : (UInt64.ofNat i).toNat = i := by
    rw [UInt64.toNat_ofNat']
    exact Nat.mod_eq_of_lt hi
  have hproduct : UInt64.ofNat i * Word.bytes = UInt64.ofNat (8 * i) := by
    rw [Nat.mul_comm, UInt64.ofNat_mul]
    rfl
  have hbytes : Word.bytes.toNat = 8 := rfl
  rw [slotAddress, Word.times?, hindex, hbytes, hproduct]
  split
  next hfits =>
    -- the offset of the slot is in the word; whether its address is depends on the sum
    have hoffset : (UInt64.ofNat (8 * i)).toNat = 8 * i := by
      rw [UInt64.toNat_ofNat']
      omega
    show Word.plus? _ _ = _ ↔ _
    rw [Word.plus?, hoffset]
    split
    next hsum => simp [hsum, slot, eq_comm]
    next hsum => simp [hsum]
  next hfits =>
    refine iff_of_false (Option.some_ne_none _).symm fun h => hfits ?_
    omega

/-- A region is compared with the destination of the answer. -/
lemma ensureApart_finds {r : Region} (hr : r.Open m.bounds) (hd : dst.Open m.bounds) :
    Finds m (fun _ => r.Apart dst) (ensureApart r dst : Service σ Unit) := by
  obtain ⟨o, ho, hiff⟩ := Region.overlaps_eq hr.bounded hd.bounded
  rw [ensureApart, ho]
  cases o with
  | true => exact .refuse fun _ h => h (hiff.1 rfl)
  | false => exact .pure fun h => nomatch hiff.2 h

/-- The descriptor behind a pointer is read exactly if it is open. -/
lemma descriptor_finds (hd : dst.Open m.bounds) :
    Finds m (fun r => RunOpen m.bounds m.memory dst p ∧ r = run m.memory p) (descriptor dst p : Service σ FuseRun) := by
  refine .bind .claim (fun _ h => ⟨_, h.1.acceptable, rfl⟩) ?_
  rintro r ⟨hr, rfl⟩
  refine .bind (ensureApart_finds hr.open hd) (fun _ h => ⟨(), h.1.apart⟩) fun _ hapart => ?_
  refine .bind .loadFixed (fun _ _ => ⟨_, rfl⟩) ?_
  rintro v rfl
  dsimp only
  split
  next hkey =>
    intro k hk
    refine .missing (fun r h => ?_) ?_ ?_
    · exact absurd h.1.unkeyed (UInt8.not_lt.2 hkey)
    · exact (Machine.memory_log ..).trans hk.memory
    · exact (Machine.devices_log ..).trans hk.devices
  next hkey => exact .pure ⟨⟨hr, hapart, UInt8.not_le.1 hkey⟩, rfl⟩

/-- The walk finds the list that the memory holds, if the list is short enough. -/
lemma descriptors_finds (hd : dst.Open m.bounds) (budget : Nat) (hi : i + budget ≤ 0x10000000000000000) :
    Finds m (fun rs => ∃ ps, ps.length < budget ∧ Chain m.bounds m.memory field dst i ps ∧ rs = ps.map (run m.memory))
      (descriptors field dst budget i : Service σ (List FuseRun)) := by
  induction budget generalizing i with
  | zero =>
    refine .refuse ?_
    rintro rs ⟨ps, hlt, -⟩
    exact Nat.not_lt_zero _ hlt
  | succ budget ih =>
    -- each step is passed by every list that may be followed from here on, and gives a part of the one found
    refine .bind .validArg ?_ fun a ha => ?_
    · rintro rs ⟨ps, -, hc, -⟩
      exact ⟨_, (slotAddress_eq_some_iff (by omega)).2 ⟨hc.slotOpen.within, rfl⟩⟩
    obtain ⟨hwithin, rfl⟩ := (slotAddress_eq_some_iff (by omega)).1 ha
    refine .bind .claim ?_ ?_
    · rintro rs ⟨ps, -, hc, -⟩
      exact ⟨_, hc.slotOpen.acceptable, rfl⟩
    rintro r ⟨hr, rfl⟩
    refine .bind (ensureApart_finds hr.open hd) ?_ fun _ hapart => ?_
    · rintro rs ⟨ps, -, hc, -⟩
      exact ⟨(), hc.slotOpen.apart⟩
    have hslot : SlotOpen m.bounds field dst i := ⟨hwithin, hr, hapart⟩
    refine .bind .loadNat (fun _ _ => ⟨_, rfl⟩) ?_
    intro n (hn : n = m.memory.readNat (slot field i).addr.toNat 8)
    rw [hn]
    show Finds m _ (if m.memory.word (slot field i).addr.toNat = 0 then _ else _)
    split
    next hz => exact .pure ⟨[], Nat.succ_pos _, .stop hslot hz, rfl⟩
    next hne =>
      refine .bind (descriptor_finds hd) ?_ ?_
      · rintro rs ⟨ps, -, hc, -⟩
        obtain ⟨qs, -, hrun, -⟩ := hc.exists_cons hne
        exact ⟨_, hrun, rfl⟩
      rintro r ⟨hrun, rfl⟩
      refine .bind (ih (by omega)) ?_ ?_
      · rintro rs ⟨ps, hlt, hc, -⟩
        obtain ⟨qs, rfl, -, ht⟩ := hc.exists_cons hne
        exact ⟨_, qs, Nat.lt_of_succ_lt_succ hlt, ht, rfl⟩
      rintro rs ⟨qs, hlt, ht, rfl⟩
      exact .pure ⟨_ :: qs, Nat.succ_lt_succ hlt, .next hslot rfl hrun ht, rfl⟩

section Lists

/-- A list of pointers to descriptors, ended by a zero, that may be followed for the open world while the answer is
written to `dst`. -/
structure Legal (b : Bounds) (M : Memory) (field : Word) (dst : Region) (ps : List Word) : Prop where
  stored : M.Stores field (ps ++ [0])
  slots : ∀ i ≤ ps.length, (slot field i).Acceptable b 8 ∧ (slot field i).Apart dst
  runs : ∀ p ∈ ps, RunOpen b M dst p

/-- A chain of pointers is known slot by slot. -/
lemma chain_iff : Chain b M field dst i ps ↔
    (∀ j < ps.length + 1, SlotOpen b field dst (i + j) ∧
      (ps ++ [0])[j]? = some (M.word (slot field (i + j)).addr.toNat)) ∧ ∀ p ∈ ps, RunOpen b M dst p := by
  induction ps generalizing i with
  | nil =>
    constructor
    · intro h
      cases h with
      | stop hs hw =>
        refine ⟨fun j hj => ?_, nofun⟩
        obtain rfl := Nat.lt_one_iff.1 hj
        exact ⟨hs, by rw [Nat.add_zero, hw]; rfl⟩
    · rintro ⟨h, -⟩
      obtain ⟨hs, hw⟩ := h 0 Nat.one_pos
      exact .stop hs (Option.some_inj.1 hw).symm
  | cons p ps ih =>
    -- the rest of the list lies one slot further on
    have ih := ih (i := i + 1)
    simp only [Nat.add_assoc, Nat.add_comm 1] at ih
    rw [List.length_cons, Nat.forall_lt_succ_left, List.forall_mem_cons]
    simp only [List.cons_append, List.getElem?_cons_succ]
    constructor
    · intro h
      cases h with
      | next hs hw hr ht =>
        obtain ⟨hslots, hruns⟩ := ih.1 ht
        exact ⟨⟨⟨hs, by rw [Nat.add_zero, hw]; rfl⟩, hslots⟩, hr, hruns⟩
    · rintro ⟨⟨⟨hs, hw⟩, hslots⟩, hr, hruns⟩
      exact .next hs (Option.some_inj.1 hw).symm hr (ih.2 ⟨hslots, hruns⟩)

/-- The lists that the service walks from their first slot on are the legal ones. -/
lemma chain_iff_legal : Chain b M field dst 0 ps ↔ Legal b M field dst ps := by
  rw [chain_iff]
  simp only [Nat.zero_add]
  have hlen : (ps ++ [0]).length = ps.length + 1 := List.length_append
  constructor
  · rintro ⟨h, hruns⟩
    have hclaim {j : Nat} (hj : j < ps.length + 1) := (h j hj).1.acceptable.resolve_left (by simp [slot])
    refine ⟨⟨?_, ?_, fun j hj => ?_⟩, fun j hj => ?_, hruns⟩
    · have hz := (hclaim (Nat.succ_pos _)).ne_zero
      simpa [slot] using hz
    · have hlast := (hclaim (Nat.lt_succ_self _)).bounded
      rw [toNat_slot (h _ (Nat.lt_succ_self _)).1.within] at hlast
      have height : (slot field ps.length).len.toNat = 8 := rfl
      omega
    · obtain ⟨hs, hw⟩ := h j (hlen ▸ hj)
      obtain ⟨_, hw⟩ := List.getElem?_eq_some_iff.1 hw
      rw [← toNat_slot hs.within, hw]
    · obtain ⟨hs, -⟩ := h j (Nat.lt_succ_of_le hj)
      exact ⟨hs.acceptable, hs.apart⟩
  · rintro ⟨⟨-, hfits, hword⟩, hslots, hruns⟩
    refine ⟨fun j hj => ?_, hruns⟩
    have hwithin : field.toNat + 8 * j < 0x10000000000000000 := by omega
    obtain ⟨hacc, hapart⟩ := hslots j (Nat.le_of_lt_succ hj)
    refine ⟨⟨hwithin, hacc, hapart⟩, List.getElem?_eq_some_iff.2 ⟨hlen ▸ hj, ?_⟩⟩
    rw [toNat_slot hwithin, hword]

namespace Legal

/-- No pointer of a legal list is zero. -/
lemma zero_notMem (h : Legal b M field dst ps) : 0 ∉ ps :=
  fun hz => (h.runs 0 hz).ne_zero rfl

/-- At an address there is one legal list at most. -/
lemma unique (h : Legal b M field dst ps) (h' : Legal b M field dst qs) : ps = qs :=
  (chain_iff_legal.2 h).unique (chain_iff_legal.2 h')

/-- No byte of the slots, the one that ends the list included, is secure or written by the answer. -/
lemma slots_clear {a : Nat} (h : Legal b M field dst ps) (hlow : field.toNat ≤ a)
    (hhigh : a < field.toNat + 8 * (ps.length + 1)) : ¬ dst.Holds a ∧ ¬ b.Secures a := by
  -- the slot that the byte is in
  have hi : (a - field.toNat) / 8 ≤ ps.length := by omega
  obtain ⟨hacc, hapart⟩ := h.slots _ hi
  have hfits := h.stored.fits
  rw [List.length_append, List.length_singleton] at hfits
  have hheld : (slot field ((a - field.toNat) / 8)).Holds a := by
    rw [Region.Holds, toNat_slot (by omega)]
    have height : (slot field ((a - field.toNat) / 8)).len.toNat = 8 := rfl
    omega
  exact ⟨fun hd => hapart ⟨a, hheld, hd⟩, hacc.open.clear a hheld⟩

end Legal

end Lists

section Reading

variable {dst bits : Word}

/-- Where the bits of a field are written to. -/
def destination (dst bits : Word) : Region :=
  ⟨dst, UInt64.ofNat ((bits.toNat + 7) / 8)⟩

/-- The destination has room for the bits, in whole bytes. -/
lemma destination_len : (destination dst bits).len.toNat = (bits.toNat + 7) / 8 := by
  have := bits.toNat_lt
  rw [destination, UInt64.toNat_ofNat']
  omega

/-- The driver is called once, with the runs and the bytes of the destination. What it makes of the bytes is written
back, and its result is the answer. -/
def deliver (D : Drivers σ) (runs : List FuseRun) (out : Region) (bits : Word) (k : Machine σ) : Reply σ :=
  let r := D.readFuses runs (k.memory.read out.addr.toNat out.len.toNat) bits k.devices
  .ok (statusWord r.1.1) { k with memory := k.memory.write out.addr.toNat r.1.2, devices := r.2 }

/-- A request for a field with a list that is walked to its end. -/
structure Readable (m : Machine σ) (field dst bits : Word) (ps : List Word) : Prop where
  platform : m.platform = true
  claimable : (destination dst bits).Acceptable m.bounds 1
  ne_nil : ps ≠ []
  short : ps.length < FuseRun.maxCount
  legal : Legal m.bounds m.memory field (destination dst bits) ps

/-- What becomes of a request for a field: the driver is called with the runs of its list, or the request is refused
before anything of the memory or the devices was changed. -/
inductive Reading (m : Machine σ) (field dst bits : Word) : Prop where
  | delivered {ps : List Word} {k : Machine σ} : Readable m field dst bits ps → m.Consulted k →
    (∀ D, readField D field dst bits m = deliver D (ps.map (run m.memory)) (destination dst bits) bits k) →
    Reading m field dst bits
  | refused {e : ServiceError} {k : Machine σ} : (∀ ps, ¬ Readable m field dst bits ps) →
    (m.platform = true → e = .invalidArg) → k.memory = m.memory → k.devices = m.devices →
    (∀ D, readField D field dst bits m = .ok (ServiceError.word e) k) → Reading m field dst bits

/-- The result of the driver is the answer. -/
lemma answer_result {r : Except ServiceError Unit} :
    Service.answer (match r with
      | .ok () => return ()
      | .error e => Service.refuse e) (fun () => 0) ServiceError.word k = .ok (statusWord r) k := by
  cases r with
  | ok a => rfl
  | error e => rfl

/-- The last steps of a request call the driver, write back and answer. -/
lemma answer_deliver (D : Drivers σ) (runs : List FuseRun) (out : Region) :
    Service.answer (do
      let (result, v) ← Service.device (D.readFuses runs (← out.load) bits)
      out.store v
      match result with
      | .ok () => return ()
      | .error e => Service.refuse e) (fun () => 0) ServiceError.word k = deliver D runs out bits k :=
  -- the bytes are loaded, the driver is called and the bytes are stored, none of which can stop
  (Service.answer_bind rfl).trans ((Service.answer_bind rfl).trans ((Service.answer_bind rfl).trans answer_result))

/-- With a destination that can be claimed a request comes down to what is found in its list. -/
lemma reading_of_acceptable (hp : m.platform = true) (hd : (destination dst bits).Acceptable m.bounds 1) :
    Reading m field dst bits := by
  have hrequire : (Service.requirePlatform : Service σ Unit) m = .ok () m :=
    Window.requirePlatform_ok_iff.2 ⟨hp, rfl⟩
  obtain ⟨k, hk, hclaim⟩ := Region.claim_of_acceptable hd
  have hwalk : Finds m _ (descriptors field (destination dst bits) FuseRun.maxCount 0 : Service σ _) :=
    descriptors_finds hd.open _ (by decide)
  have hfound := hwalk k hk
  generalize hrun : (descriptors field (destination dst bits) FuseRun.maxCount 0 : Service σ _) k = r at hfound
  cases hfound with
  | @found rs k' h hk' =>
    obtain ⟨ps, hlt, hc, rfl⟩ := h
    have hl := chain_iff_legal.1 hc
    cases ps with
    | nil =>
      -- the only list at the address names nothing
      refine .refused (fun qs h => h.ne_nil (h.legal.unique hl)) (fun _ => rfl) hk'.memory hk'.devices fun D => ?_
      refine (Service.answer_bind hrequire).trans ((Service.answer_bind hclaim).trans ?_)
      exact (Service.answer_bind hrun).trans (Service.answer_bind_refused rfl)
    | cons p ps =>
      refine .delivered ⟨hp, hd, List.cons_ne_nil _ _, hlt, hl⟩ hk' fun D => ?_
      refine (Service.answer_bind hrequire).trans ((Service.answer_bind hclaim).trans ?_)
      exact (Service.answer_bind hrun).trans (answer_deliver D _ _)
  | @missing k' hnone hmem hdev =>
    refine .refused (fun qs h => ?_) (fun _ => rfl) hmem hdev fun D => ?_
    · -- a readable list would have been found
      exact hnone _ ⟨qs, h.short, chain_iff_legal.2 h.legal, rfl⟩
    · refine (Service.answer_bind hrequire).trans ((Service.answer_bind hclaim).trans ?_)
      exact Service.answer_bind_refused hrun

/-- Every request for a field takes this course. -/
lemma readField_reading (m : Machine σ) (field dst bits : Word) : Reading m field dst bits := by
  by_cases hp : m.platform = true
  · by_cases hd : (destination dst bits).Acceptable m.bounds 1
    · exact reading_of_acceptable hp hd
    · obtain ⟨k, hk, hclaim⟩ := Region.claim_of_not_acceptable hd
      refine .refused (fun qs h => hd h.claimable) (fun _ => rfl) hk.memory hk.devices fun D => ?_
      exact (Service.answer_bind (Window.requirePlatform_ok_iff.2 ⟨hp, rfl⟩)).trans
        (Service.answer_bind_refused hclaim)
  · have hrequire : (Service.requirePlatform : Service σ Unit) m = .error (.refused .invalidState) m := by
      show (if m.platform then pure () else Service.refuse .invalidState : Service σ Unit) m = _
      rw [if_neg hp]
      rfl
    exact .refused (fun qs h => hp h.platform) (fun h => absurd h hp) rfl rfl fun D =>
      Service.answer_bind_refused hrequire

/-- A request with a readable list reaches the driver with its runs. -/
lemma Readable.delivered (h : Readable m field dst bits ps) :
    ∃ k, m.Consulted k ∧
      ∀ D, readField D field dst bits m = deliver D (ps.map (run m.memory)) (destination dst bits) bits k := by
  cases readField_reading m field dst bits with
  | delivered h' hk hrun =>
    obtain rfl := h.legal.unique h'.legal
    exact ⟨_, hk, hrun⟩
  | refused hnone => exact absurd h (hnone _)

/-- A request without a readable list is refused, and neither memory nor devices change. -/
lemma refused_of_not_readable (hp : m.platform = true) (h : ∀ ps, ¬ Readable m field dst bits ps) :
    ∃ k : Machine σ, k.memory = m.memory ∧ k.devices = m.devices ∧
      ∀ D, readField D field dst bits m = .ok ServiceError.invalidArg.word k := by
  cases readField_reading m field dst bits with
  | delivered h' => exact absurd h' (h _)
  | refused _ he hmem hdev hrun =>
    obtain rfl := he hp
    exact ⟨_, hmem, hdev, hrun⟩

/-- A legal list that is as long as the greatest number of descriptors, or longer, is not walked to its end. -/
lemma Legal.not_readable (h : Legal m.bounds m.memory field (destination dst bits) ps)
    (hlong : FuseRun.maxCount ≤ ps.length) (qs : List Word) : ¬ Readable m field dst bits qs := by
  intro hq
  obtain rfl := h.unique hq.legal
  exact absurd hq.short (Nat.not_lt.2 hlong)

/-- Whatever is asked for: either the driver gets the runs of the whole list at `field`, up to the zero that ends it,
and the bytes of the destination; then no run is of a block of keys, and no byte of the list or of a descriptor is
secure or one of the destination. Or the request is refused, whatever the drivers are, and no byte has changed. -/
theorem fuses_read_from_open_runs (m : Machine σ) (field dst bits : Word) :
    let out := destination dst bits
    (∃ ps k, (∀ D, readField D field dst bits m = deliver D (ps.map (run m.memory)) out bits k) ∧ m.Consulted k ∧
      out.addr = dst ∧ out.len.toNat = (bits.toNat + 7) / 8 ∧
      1 ≤ ps.length ∧ ps.length ≤ FuseRun.maxCount ∧ m.memory.Stores field (ps ++ [0]) ∧ 0 ∉ ps ∧
      (∀ a, field.toNat ≤ a → a < field.toNat + 8 * (ps.length + 1) → ¬ out.Holds a ∧ ¬ m.bounds.Secures a) ∧
      ∀ p ∈ ps, (run m.memory p).block < FuseRun.firstKeyBlock ∧
        ∀ a, Region.Holds ⟨p, 4⟩ a → ¬ out.Holds a ∧ ¬ m.bounds.Secures a) ∨
    ∃ e k, (∀ D, readField D field dst bits m = .ok (ServiceError.word e) k) ∧
      k.memory = m.memory ∧ k.devices = m.devices := by
  intro out
  cases readField_reading m field dst bits with
  | @delivered ps k h hk hrun =>
    refine .inl ⟨ps, k, hrun, hk, rfl, destination_len, List.length_pos_iff.2 h.ne_nil, Nat.le_of_lt h.short,
      h.legal.stored, h.legal.zero_notMem, fun a hlow hhigh => h.legal.slots_clear hlow hhigh, fun p hp => ?_⟩
    have hrun := h.legal.runs p hp
    exact ⟨hrun.unkeyed, fun a ha => ⟨fun hd => hrun.apart ⟨a, ha, hd⟩, hrun.acceptable.open.clear a ha⟩⟩
  | @refused e k _ _ hmem hdev hrun => exact .inr ⟨e, k, hrun, hmem, hdev⟩

/-- A machine whose memory holds a list that names one descriptor again and again. -/
def repeated (n : Nat) : Machine Unit :=
  { Machine.powerUp () with
    platform := true
    memory := (callerMemory 0x40820000 (List.replicate n 0x40820400 ++ [0])).writeList 0x40820400 [3, 0, 8, 0] }

/-- The machines with a repeated pointer have the bounds of the layout. -/
lemma repeated_bounds (n : Nat) : (repeated n).bounds = .ofLayout := rfl

/-- The descriptor that is pointed to spells the first eight bits of block 3. -/
lemma repeated_run (n : Nat) : run (repeated n).memory 0x40820400 = ⟨3, 0, 8⟩ := by
  rfl

/-- Repeating the pointer up to sixteen times makes a legal list. -/
lemma repeated_legal {n : Nat} (hn : n ≤ 16) :
    Legal (repeated n).bounds (repeated n).memory 0x40820000 (destination 0x40820800 8)
      (List.replicate n 0x40820400) := by
  have hlen : (List.replicate n (0x40820400 : Word) ++ [0]).length = n + 1 := by
    rw [List.length_append, List.length_replicate, List.length_singleton]
  have hfield : (0x40820000 : Word).toNat = 0x40820000 := rfl
  rw [repeated_bounds]
  constructor
  · refine (callerMemory_stores (by decide) (by omega)).congr fun i hi => ?_
    -- the descriptor lies behind the slots
    have hbehind : (0x40820000 : Word).toNat + 8 * i + 8 ≤ 0x40820400 := by omega
    exact congrArg UInt64.ofNat (Memory.readNat_writeList_of_disjoint (.inl hbehind))
  · intro i hi
    rw [List.length_replicate] at hi
    have hall : ∀ i < 17, (slot 0x40820000 i).Acceptable .ofLayout 8 ∧
        (slot 0x40820000 i).Apart (destination 0x40820800 8) := by decide
    exact hall i (by omega)
  · intro p hp
    obtain rfl := List.eq_of_mem_replicate hp
    refine ⟨by decide, by decide, ?_⟩
    rw [repeated_run]
    decide

/-- A request with a legal list and a destination that can be claimed is carried out if the list is shorter than the
greatest number of descriptors; a list of just that number is refused like every longer one, for the service gives
up before it has seen that the list ends. -/
theorem legal_list_read_if_short (hplatform : m.platform = true)
    (hdst : (destination dst bits).Acceptable m.bounds 1) (hps : ps ≠ [])
    (hlegal : Legal m.bounds m.memory field (destination dst bits) ps) :
    (ps.length < FuseRun.maxCount → ∃ k, m.Consulted k ∧
      ∀ D, readField D field dst bits m = deliver D (ps.map (run m.memory)) (destination dst bits) bits k) ∧
    (FuseRun.maxCount ≤ ps.length → ∃ k : Machine σ, k.memory = m.memory ∧ k.devices = m.devices ∧
      ∀ D, readField D field dst bits m = .ok ServiceError.invalidArg.word k) :=
  ⟨fun hshort => Readable.delivered ⟨hplatform, hdst, hps, hshort, hlegal⟩,
    fun hlong => refused_of_not_readable hplatform (hlegal.not_readable hlong)⟩

/-- A list of fifteen pointers. -/
theorem fifteen_pointers_read :
    Legal (repeated 15).bounds (repeated 15).memory 0x40820000 (destination 0x40820800 8)
        (List.replicate 15 0x40820400) ∧
      ∃ k, ∀ D : Drivers Unit, readField D 0x40820000 0x40820800 8 (repeated 15) =
        deliver D (List.replicate 15 ⟨3, 0, 8⟩) (destination 0x40820800 8) 8 k := by
  have hlegal := repeated_legal (n := 15) (by decide)
  obtain ⟨hshort, -⟩ := legal_list_read_if_short rfl (by decide) (by simp) hlegal
  obtain ⟨k, -, hrun⟩ := hshort (by rw [List.length_replicate]; decide)
  rw [List.map_replicate, repeated_run] at hrun
  exact ⟨hlegal, k, hrun⟩

/-- A list of sixteen pointers, which is the greatest number of descriptors, is legal and refused. -/
theorem sixteen_pointers_refused :
    Legal (repeated 16).bounds (repeated 16).memory 0x40820000 (destination 0x40820800 8)
        (List.replicate 16 0x40820400) ∧
      FuseRun.maxCount = 16 ∧ (repeated 16).platform = true ∧
      (destination 0x40820800 8).Acceptable (repeated 16).bounds 1 ∧
      ∃ k : Machine Unit, k.memory = (repeated 16).memory ∧ k.devices = (repeated 16).devices ∧
        ∀ D, readField D 0x40820000 0x40820800 8 (repeated 16) = .ok ServiceError.invalidArg.word k := by
  have hlegal := repeated_legal (n := 16) (by decide)
  refine ⟨hlegal, rfl, rfl, by decide, refused_of_not_readable rfl (hlegal.not_readable ?_)⟩
  rw [List.length_replicate]
  exact Nat.le_refl _

end Reading

end SecureWorld.Fuse
