import SecureWorld.Proofs.Screening

/-!
# Disjoint regions

What a service writes to must not be one of the other places that it looks at, so it compares all regions of a request
with each other. `compared_by_bytes` says that for regions that were claimed, however many, the comparison never halts
and tells whether two of them share a byte.
-/

namespace SecureWorld.Region

variable {σ : Type} {r q : Region} {rs qs : List Region} {align : Word}

/-- An empty region shares no byte with another one. -/
lemma apart_of_isEmpty (h : r.isEmpty = true) : r.Apart q := by
  rw [isEmpty, beq_iff_eq] at h
  intro hshared
  exact (exists_holds_iff.1 hshared).1.1 (congrArg UInt64.toNat h)

/-- No byte lies in the regions at two different positions of a list. -/
def Separate (rs : List Region) : Prop :=
  ∀ i j (hi : i < rs.length) (hj : j < rs.length), i ≠ j → rs[i].Apart rs[j]

/-- The order of two positions does not matter. -/
lemma separate_iff_pairwise : Separate rs ↔ rs.Pairwise Apart := by
  rw [List.pairwise_iff_getElem]
  constructor
  · intro h i j hi hj hij
    exact h i j hi hj (Nat.ne_of_lt hij)
  · intro h i j hi hj hne
    rcases Nat.lt_or_gt_of_ne hne with hij | hji
    · exact h i j hi hj hij
    · exact (h j i hj hi hji).symm

instance (rs : List Region) : Decidable (Separate rs) :=
  decidable_of_iff _ separate_iff_pairwise.symm

/-- The order of the regions does not matter. -/
lemma Separate.perm (h : qs.Perm rs) : Separate qs ↔ Separate rs := by
  rw [separate_iff_pairwise, separate_iff_pairwise]
  exact h.pairwise_iff Apart.symm

/-- Empty regions are apart from all others, so they need not be among the regions that are compared. -/
lemma separate_filter : Separate (rs.filter fun r => !r.isEmpty) ↔ Separate rs := by
  rw [separate_iff_pairwise, separate_iff_pairwise, List.pairwise_filter]
  refine ⟨fun h => h.imp fun {r q} hrq => ?_, fun h => h.imp fun hrq _ _ => hrq⟩
  by_cases hr : r.isEmpty = true
  · exact apart_of_isEmpty hr
  by_cases hq : q.isEmpty = true
  · exact (apart_of_isEmpty hq).symm
  · exact hrq (by simpa using hr) (by simpa using hq)

/-- A region that was claimed, whatever was in force then. -/
def Claimed (σ : Type) (r : Region) : Prop :=
  ∃ (addr len align : Word) (m k : Machine σ), claim addr len align m = .ok r k

/-- An acceptable region can be claimed. -/
lemma Acceptable.claimed {m : Machine σ} (h : r.Acceptable m.bounds align) : r.Claimed σ := by
  obtain ⟨k, -, hrun⟩ := claim_of_acceptable h
  exact ⟨_, _, _, m, k, hrun⟩

/-- The end of a claimed region was computed when it was claimed, unless the region is empty. -/
lemma Claimed.bounded (h : r.Claimed σ) : r.Bounded := by
  obtain ⟨addr, len, align, m, k, hrun⟩ := h
  by_cases ha : Acceptable m.bounds align ⟨addr, len⟩
  · obtain ⟨k', -, hok⟩ := claim_of_acceptable ha
    rw [hok] at hrun
    cases hrun
    exact ha.open.bounded
  · obtain ⟨k', -, herror⟩ := claim_of_not_acceptable ha
    rw [herror] at hrun
    cases hrun

/-- Two bounded regions are compared without a halt, and it makes no difference which of them is asked. -/
lemma overlaps_told (hr : r.Bounded) (hq : q.Bounded) :
    ∃ o, r.overlaps q = .ok o ∧ q.overlaps r = .ok o ∧ (o = true ↔ ∃ a, r.Holds a ∧ q.Holds a) := by
  obtain ⟨o, ho, hiff⟩ := overlaps_eq hr hq
  obtain ⟨o', ho', hiff'⟩ := overlaps_eq hq hr
  have hsame : o' = o := by
    rw [Bool.eq_iff_iff, hiff, hiff']
    exact exists_congr fun a => and_comm
  exact ⟨o, ho, hsame ▸ ho', hiff⟩

section EnsureDisjoint

variable (hrs : ∀ r ∈ rs, r.Bounded)

include hrs

/-- The comparison tells whether the regions are separate. -/
lemma disjoint_told : disjoint rs = .ok (decide (Separate rs)) := by
  obtain ⟨o, ho, hiff⟩ := disjoint_eq hrs
  have hsame : o = decide (Separate rs) := by
    rw [Bool.eq_iff_iff, decide_eq_true_iff, separate_iff_pairwise]
    exact hiff
  rw [ho, hsame]

/-- The outcome depends on nothing but whether the regions are separate. -/
lemma ensureDisjoint_congr (hqs : ∀ q ∈ qs, q.Bounded) (h : Separate qs ↔ Separate rs) :
    (ensureDisjoint qs : Service σ Unit) = ensureDisjoint rs := by
  rw [ensureDisjoint, ensureDisjoint, disjoint_told hqs, disjoint_told hrs, decide_eq_decide.2 h]

/-- Separate regions, and no others, go through. -/
lemma ensureDisjoint_ok_iff {m : Machine σ} : ensureDisjoint rs m = .ok () m ↔ Separate rs := by
  rw [separate_iff_pairwise]
  refine ⟨fun hok => ?_, ensureDisjoint_of_pairwise hrs⟩
  by_contra h
  rw [ensureDisjoint_of_not_pairwise hrs h] at hok
  cases hok

/-- Regions that are not separate, and no others, are refused. -/
lemma ensureDisjoint_refused_iff {m : Machine σ} :
    ensureDisjoint rs m = .error (.refused .invalidArg) m ↔ ¬ Separate rs := by
  rw [separate_iff_pairwise]
  refine ⟨fun hrefused h => ?_, ensureDisjoint_of_not_pairwise hrs⟩
  rw [ensureDisjoint_of_pairwise hrs h] at hrefused
  cases hrefused

end EnsureDisjoint

/-- Any number of claimed regions are compared without a halt, two of them with the same result from either side, and
are accepted exactly if no byte lies in two of them. Neither the order of the regions nor the empty ones among them
make a difference. -/
theorem compared_by_bytes (hrs : ∀ r ∈ rs, r.Claimed σ) :
    (∀ r ∈ rs, ∀ q ∈ rs, ∃ o, r.overlaps q = .ok o ∧ q.overlaps r = .ok o ∧
      (o = true ↔ ∃ a, r.Holds a ∧ q.Holds a)) ∧
    (∀ m : Machine σ, (ensureDisjoint rs m = .ok () m ↔ Separate rs) ∧
      (ensureDisjoint rs m = .error (.refused .invalidArg) m ↔ ¬ Separate rs)) ∧
    (∀ qs, qs.Perm rs → (ensureDisjoint qs : Service σ Unit) = ensureDisjoint rs) ∧
    (ensureDisjoint (rs.filter fun r => !r.isEmpty) : Service σ Unit) = ensureDisjoint rs := by
  have hbounded : ∀ r ∈ rs, r.Bounded := fun r hr => (hrs r hr).bounded
  refine ⟨fun r hr q hq => overlaps_told (hbounded r hr) (hbounded q hq),
    fun m => ⟨ensureDisjoint_ok_iff hbounded, ensureDisjoint_refused_iff hbounded⟩, fun qs hperm => ?_, ?_⟩
  · exact ensureDisjoint_congr hbounded (fun q hq => hbounded q (hperm.mem_iff.1 hq)) (Separate.perm hperm)
  · exact ensureDisjoint_congr hbounded (fun q hq => hbounded q (List.mem_of_mem_filter hq)) separate_filter

/-- Two regions side by side that reach up to the last byte that can be claimed, and an empty one inside of the second:
they are accepted, until there is one that lies across the border of the two. -/
theorem compared_at_last_byte :
    let across : Region := ⟨0xFFFFFFFFFFFFFFE8, 16⟩
    let rs : List Region := [⟨0xFFFFFFFFFFFFFFE0, 16⟩, ⟨0xFFFFFFFFFFFFFFF0, 15⟩, ⟨0xFFFFFFFFFFFFFFF8, 0⟩]
    (∀ r ∈ across :: rs, r.Claimed Unit) ∧ ∀ m : Machine Unit, ensureDisjoint rs m = .ok () m ∧
      ensureDisjoint (across :: rs) m = .error (.refused .invalidArg) m := by
  intro across rs
  have hacceptable : ∀ r ∈ across :: rs, r.Acceptable (Machine.powerUp ()).bounds 1 := by decide
  have hclaimed : ∀ r ∈ across :: rs, r.Claimed Unit := fun r hr => (hacceptable r hr).claimed
  obtain ⟨-, hthree, -⟩ := compared_by_bytes fun r hr => hclaimed r (List.mem_cons_of_mem _ hr)
  obtain ⟨-, hfour, -⟩ := compared_by_bytes hclaimed
  exact ⟨hclaimed, fun m => ⟨(hthree m).1.2 (by decide), (hfour m).2.2 (by decide)⟩⟩

end SecureWorld.Region
