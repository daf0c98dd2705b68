import SecureWorld.Proofs.Runs

/-!
# Screening

A service looks at the words of a request before it does anything for it. A *check* is a step of this kind: it
changes nothing, except that the secure region may be fixed from then on, and whether it is passed is a property
of the request. `Screened.next` puts checks together; what is behind the last one is reached exactly if all of
them are passed, and this does not depend on what is behind it. A *search* is a sequence of steps that come to a
value, and `Finds.bind` puts searches together.
-/

namespace SecureWorld

variable {σ ι α β : Type} {m k : Machine σ}

/-- A machine in which nothing has happened, except that the secure region may have been consulted. -/
inductive Machine.Consulted (m : Machine σ) : Machine σ → Prop where
  | untouched : Consulted m m
  | fixed : Consulted m m.fixRegion

namespace Machine.Consulted

variable (h : m.Consulted k)

include h

/-- Consulting the secure region leaves the memory as it was. -/
lemma memory : k.memory = m.memory := by
  cases h <;> rfl

/-- Consulting the secure region leaves the devices as they were. -/
lemma devices : k.devices = m.devices := by
  cases h <;> rfl

/-- Consulting the secure region does not tell on the platform. -/
lemma platform : k.platform = m.platform := by
  cases h <;> rfl

/-- The bounds in force are the same before and after they are consulted. -/
lemma bounds : k.bounds = m.bounds := by
  cases h <;> rfl

/-- The region may be consulted any number of times. -/
lemma fixRegion : m.Consulted k.fixRegion := by
  cases h <;> exact .fixed

/-- Steps that do nothing but consult the region are one such step. -/
lemma trans {k' : Machine σ} (h' : k.Consulted k') : m.Consulted k' := by
  cases h' with
  | untouched => exact h
  | fixed => exact h.fixRegion

end Machine.Consulted

namespace Region

variable {b : Bounds} {r q : Region} {align : Word}

/-- No byte lies in both of two regions. -/
def Apart (r q : Region) : Prop :=
  ¬ ∃ a, r.Holds a ∧ q.Holds a

instance (r q : Region) : Decidable (r.Apart q) :=
  decidable_of_iff _ (not_congr exists_holds_iff).symm

/-- It makes no difference which of two regions is named first. -/
lemma Apart.symm (h : r.Apart q) : q.Apart r := by
  rintro ⟨a, hq, hr⟩
  exact h ⟨a, hr, hq⟩

/-- A region is apart from one that starts behind its end. -/
lemma Apart.of_le (h : r.addr.toNat + r.len.toNat ≤ q.addr.toNat) : r.Apart q := by
  rintro ⟨a, hr, hq⟩
  exact Nat.not_le.2 (Nat.lt_of_lt_of_le hr.2 h) hq.1

/-- What can be claimed: an empty region, and a region that there is nothing to say against. -/
def Acceptable (b : Bounds) (align : Word) (r : Region) : Prop :=
  r.len = 0 ∨ Claimable b r.addr r.len align

instance (b : Bounds) (align : Word) (r : Region) : Decidable (r.Acceptable b align) :=
  inferInstanceAs (Decidable (r.len = 0 ∨ Claimable b r.addr r.len align))

/-- What can be claimed is open. -/
lemma Acceptable.open (h : r.Acceptable b align) : r.Open b := by
  rcases h with h | h
  · exact .of_empty (congrArg UInt64.toNat h)
  · have hstop : (r.addr + r.len).toNat = r.addr.toNat + r.len.toNat := by
      have := h.bounded
      rw [UInt64.toNat_add]
      omega
    refine ⟨?_, .inr h.bounded⟩
    rintro a ⟨hlow, hhigh⟩
    exact not_secures_of_reachesSecure h.clear hlow (hstop ▸ hhigh)

/-- A word is claimed like bytes, but at a multiple of its size. -/
lemma acceptable_word {addr : Word} :
    Acceptable b 8 ⟨addr, 8⟩ ↔ addr % 8 = 0 ∧ Acceptable b 1 ⟨addr, 8⟩ := by
  constructor
  · intro h
    rcases h with h | h
    · cases h
    · exact ⟨h.aligned, .inr ⟨h.ne_zero, UInt64.mod_one, h.bounded, h.clear⟩⟩
  · rintro ⟨ha, h⟩
    rcases h with h | h
    · cases h
    · exact .inr ⟨h.ne_zero, ha, h.bounded, h.clear⟩

section Claim

variable {addr len : Word}

/-- What can be claimed is claimed, and nothing happens but that the region may be consulted. -/
lemma claim_of_acceptable (h : Acceptable k.bounds align ⟨addr, len⟩) :
    ∃ k', k.Consulted k' ∧ claim addr len align k = .ok ⟨addr, len⟩ k' := by
  by_cases hv : Viable addr len align
  · refine ⟨k.fixRegion, .fixed, ?_⟩
    have hc := h.resolve_left hv.len_ne_zero
    rw [hv.claim_eq, hc.clear]
    rfl
  · refine ⟨k, .untouched, ?_⟩
    rw [claim_of_not_viable hv, if_pos]
    by_contra hlen
    have hc := h.resolve_left hlen
    exact hv ⟨hlen, hc.ne_zero, hc.aligned, hc.bounded⟩

/-- What cannot be claimed is refused as an invalid argument. -/
lemma claim_of_not_acceptable (h : ¬ Acceptable k.bounds align ⟨addr, len⟩) :
    ∃ k', k.Consulted k' ∧ claim addr len align k = .error (.refused .invalidArg) k' := by
  obtain ⟨hlen, hc⟩ := not_or.1 h
  by_cases hv : Viable addr len align
  · refine ⟨k.fixRegion, .fixed, ?_⟩
    rw [hv.claim_eq, if_pos]
    by_contra hs
    exact hc ⟨hv.ne_zero, hv.aligned, hv.bounded, Bool.eq_false_iff.2 hs⟩
  · refine ⟨k, .untouched, ?_⟩
    rw [claim_of_not_viable hv, if_neg hlen]

end Claim

section EnsureDisjoint

variable {rs : List Region} (hrs : ∀ r ∈ rs, r.Bounded)

include hrs

/-- Bounded regions are compared without a halt. -/
lemma ensureDisjoint_of_pairwise (h : rs.Pairwise Apart) :
    (ensureDisjoint rs : Service σ Unit) k = .ok () k := by
  obtain ⟨o, ho, hiff⟩ := disjoint_eq hrs
  rw [ensureDisjoint, ho, hiff.2 h]
  rfl

/-- Bounded regions that are not all apart are refused. -/
lemma ensureDisjoint_of_not_pairwise (h : ¬ rs.Pairwise Apart) :
    (ensureDisjoint rs : Service σ Unit) k = .error (.refused .invalidArg) k := by
  obtain ⟨o, ho, hiff⟩ := disjoint_eq hrs
  rw [ensureDisjoint, ho, Bool.eq_false_iff.2 fun hd => h (hiff.1 hd)]
  rfl

end EnsureDisjoint

end Region

/-- How a check ends: with the value `a` if `C` holds, and with a refusal otherwise. -/
inductive Checked (m : Machine σ) (C : Prop) (a : α) :
    EStateM.Result (Stop ServiceError) (Machine σ) α → Prop where
  | passed {k' : Machine σ} : C → m.Consulted k' → Checked m C a (.ok a k')
  | refused {e} {k' : Machine σ} : ¬ C → m.Consulted k' → Checked m C a (.error (.refused e) k')

/-- A step that changes nothing and that is passed exactly if `C` holds. -/
def Check (m : Machine σ) (C : Prop) (x : Service σ α) (a : α) : Prop :=
  ∀ k, m.Consulted k → Checked m C a (x k)

namespace Check

/-- The check for the devices is passed exactly if they are installed. -/
lemma requirePlatform : Check m (m.platform = true) (Service.requirePlatform : Service σ Unit) () := by
  intro k hk
  rw [← hk.platform]
  show Checked m _ () ((if k.platform then pure () else Service.refuse .invalidState : Service σ Unit) k)
  split
  next h => exact .passed h hk
  next h => exact .refused h hk

/-- A claim is a check that exactly the acceptable regions pass. -/
lemma claim {addr len align : Word} :
    Check m (Region.Acceptable m.bounds align ⟨addr, len⟩) (Region.claim addr len align) ⟨addr, len⟩ := by
  intro k hk
  rw [← hk.bounds]
  by_cases h : Region.Acceptable k.bounds align ⟨addr, len⟩
  · obtain ⟨k', hk', hrun⟩ := Region.claim_of_acceptable h
    rw [hrun]
    exact .passed h (hk.trans hk')
  · obtain ⟨k', hk', hrun⟩ := Region.claim_of_not_acceptable h
    rw [hrun]
    exact .refused h (hk.trans hk')

/-- The comparison of open regions is a check that they pass exactly if they are pairwise apart. -/
lemma ensureDisjoint {rs : List Region} (hrs : ∀ r ∈ rs, r.Open m.bounds) :
    Check m (rs.Pairwise Region.Apart) (Region.ensureDisjoint rs) () := by
  intro k hk
  have hbounded : ∀ r ∈ rs, r.Bounded := fun r hr => (hrs r hr).bounded
  by_cases h : rs.Pairwise Region.Apart
  · rw [Region.ensureDisjoint_of_pairwise hbounded h]
    exact .passed h hk
  · rw [Region.ensureDisjoint_of_not_pairwise hbounded h]
    exact .refused h hk

end Check

/-- How a search ends: with a value that `P` holds of, if there is one, and nothing has happened; otherwise with a
refusal as an invalid argument, and nothing but the log has changed. -/
inductive Found (m : Machine σ) (P : α → Prop) : EStateM.Result (Stop ServiceError) (Machine σ) α → Prop where
  | found {a} {k' : Machine σ} : P a → m.Consulted k' → Found m P (.ok a k')
  | missing {k' : Machine σ} : (∀ a, ¬ P a) → k'.memory = m.memory → k'.devices = m.devices →
    Found m P (.error (.refused .invalidArg) k')

/-- Steps that look for a value with the property `P` and fail only if there is none. -/
def Finds (m : Machine σ) (P : α → Prop) (x : Service σ α) : Prop :=
  ∀ k, m.Consulted k → Found m P (x k)

namespace Finds

variable {P : α → Prop}

/-- A value with the property is found at once. -/
lemma pure {a : α} (h : P a) : Finds m P (pure a : Service σ α) :=
  fun _ hk => .found h hk

/-- A search is given up where there is no such value. -/
lemma refuse (h : ∀ a, ¬ P a) : Finds m P (Service.refuse .invalidArg : Service σ α) :=
  fun _ hk => .missing h hk.memory hk.devices

/-- The second part is searched for what goes with the value that the first one has found. -/
lemma bind {Q : β → Prop} {x : Service σ α} {f : α → Service σ β} (hx : Finds m P x) (hP : ∀ c, Q c → ∃ a, P a)
    (hf : ∀ a, P a → Finds m Q (f a)) : Finds m Q (x >>= f) := by
  intro k hk
  have hfound := hx k hk
  generalize hrun : x k = r at hfound
  cases hfound with
  | @found a k' ha hk' =>
    rw [bind_of_ok hrun]
    exact hf a ha k' hk'
  | missing hnone hmem hdev =>
    rw [bind_of_error hrun]
    exact .missing (fun c hc => (hP c hc).elim hnone) hmem hdev

/-- What is searched for may be said in other words. -/
lemma congr {Q : α → Prop} {x : Service σ α} (hx : Finds m P x) (h : ∀ a, P a ↔ Q a) : Finds m Q x := by
  obtain rfl : P = Q := funext fun a => propext (h a)
  exact hx

/-- The search for a valid argument finds nothing but the argument. -/
lemma validArg {o : Option α} : Finds m (fun a => o = some a) (Service.validArg o : Service σ α) := by
  cases o with
  | none => exact .refuse nofun
  | some a => exact .pure rfl

/-- The search for a region that can be claimed at an address finds the region that was asked for. -/
lemma claim {addr len align : Word} :
    Finds m (fun r => Region.Acceptable m.bounds align r ∧ r = ⟨addr, len⟩) (Region.claim addr len align) := by
  intro k hk
  rw [← hk.bounds]
  by_cases h : Region.Acceptable k.bounds align ⟨addr, len⟩
  · obtain ⟨k', hk', hrun⟩ := Region.claim_of_acceptable h
    rw [hrun]
    exact .found ⟨h, rfl⟩ (hk.trans hk')
  · obtain ⟨k', hk', hrun⟩ := Region.claim_of_not_acceptable h
    rw [hrun]
    have hk' := hk.trans hk'
    exact .missing (fun r hr => h (hr.2 ▸ hr.1)) hk'.memory hk'.devices

/-- Reading finds the bytes that were in memory before the search. -/
lemma load {r : Region} :
    Finds m (fun v => v = m.memory.read r.addr.toNat r.len.toNat) (r.load : Service σ _) :=
  fun _ hk => .found (by rw [hk.memory]) hk

/-- Reading a number finds the one that was in memory before the search. -/
lemma loadNat {r : Region} :
    Finds m (fun n => n = m.memory.readNat r.addr.toNat r.len.toNat) (r.loadNat : Service σ Nat) :=
  fun _ hk => .found (by rw [hk.memory]) hk

/-- Reading a fixed number of bytes finds those that were in memory before the search. -/
lemma loadFixed {r : Region} {n : Nat} :
    Finds m (fun v => v = m.memory.read r.addr.toNat n) (r.loadFixed n : Service σ _) :=
  fun _ hk => .found (by rw [hk.memory]) hk

end Finds

namespace Service

variable {x : Service σ α} {f : α → Service σ β} {value : β → Word} {refusal : ServiceError → Word}
  {k' : Machine σ}

/-- A request goes on behind a step that succeeds. -/
lemma answer_bind {a : α} (hx : x k = .ok a k') :
    answer (x >>= f) value refusal k = answer (f a) value refusal k' := by
  rw [answer, answer, bind_of_ok hx]

/-- A request is answered by the first refusal. -/
lemma answer_bind_refused {e : ServiceError} (hx : x k = .error (.refused e) k') :
    answer (x >>= f) value refusal k = .ok (refusal e) k' := by
  rw [answer, bind_of_error hx]

end Service

/-- How a request that is answered by a word can end. -/
abbrev Reply (σ : Type) := EStateM.Result Fault (Machine σ) Word

/-- What a family of requests comes to: if `A` holds, something with the property `P`, and otherwise one and the
same refusal, before anything was changed. -/
inductive Verdict (m : Machine σ) (A : Prop) (P : (ι → Reply σ) → Prop) (r : ι → Reply σ) : Prop where
  | passed : A → P r → Verdict m A P r
  | refused {e} {k' : Machine σ} : ¬ A → m.Consulted k' → (∀ i, r i = .ok (ServiceError.word e) k') →
    Verdict m A P r

/-- A family of services that begin with the same checks, all of which are passed if `A` holds. -/
def Screened (m : Machine σ) (A : Prop) (P : (ι → Reply σ) → Prop) (x : ι → Secure σ Word) : Prop :=
  ∀ k, m.Consulted k → Verdict m A P fun i => x i k

namespace Screened

variable {A C : Prop} {P : (ι → Reply σ) → Prop} {x : ι → Secure σ Word} {value : β → Word}

/-- Behind the last check the request is what is left of it. -/
lemma done (hA : A) (hx : ∀ k, m.Consulted k → P fun i => x i k) : Screened m A P x :=
  fun k hk => .passed hA (hx k hk)

/-- What follows a check may rely on it. -/
lemma next {x : Service σ α} {a : α} {f : ι → α → Service σ β} (hx : Check m C x a) (hA : A → C)
    (hf : C → Screened m A P fun i => Service.answer (f i a) value ServiceError.word) :
    Screened m A P fun i => Service.answer (x >>= f i) value ServiceError.word := by
  intro k hk
  have hcheck := hx k hk
  generalize hrun : x k = r at hcheck
  cases hcheck with
  | @passed k' hC hk' =>
    -- the rest runs in the machine that the check has left
    have heq : (fun i => Service.answer (x >>= f i) value ServiceError.word k) =
        fun i => Service.answer (f i a) value ServiceError.word k' :=
      funext fun _ => Service.answer_bind hrun
    rw [heq]
    exact hf hC k' hk'
  | refused hC hk' => exact .refused (fun h => hC (hA h)) hk' fun _ => Service.answer_bind_refused hrun

/-- A word that has to name something. -/
lemma named {o : Option α} {f : ι → α → Service σ β} (hA : A → o.isSome)
    (hf : ∀ a, o = some a → Screened m A P fun i => Service.answer (f i a) value ServiceError.word) :
    Screened m A P fun i => Service.answer (Service.validArg o >>= f i) value ServiceError.word := by
  cases o with
  | none => exact fun k hk => .refused (fun h => nomatch hA h) hk fun _ => Service.answer_bind_refused rfl
  | some a => exact hf a rfl

end Screened

end SecureWorld
