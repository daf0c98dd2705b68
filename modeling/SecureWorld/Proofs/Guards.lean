import Mathlib.Data.List.Basic
import Mathlib.Data.List.Count
import Mathlib.Tactic.Common
import SecureWorld.Sync.Guard

/-!
# What guards take and give back

A guard is a loan, and what is lent is missing until it is given back: `Balanced` is the account of the interrupts
and of every lock, `Effect` lists what one operation can do to it, and `Runs.balanced` says that it comes out even
after every sequence of operations. `guards_give_back` is what follows for any order of releases. A guard keeps
interrupts masked only as long as the guard that found them enabled lives: `orderly_release_masks` says for which
orders of releases this makes no difference.
-/

namespace SecureWorld.Sync

variable {s s' : State} {op : Op} {ops : List Op} {a : Answer} {n l : Nat} {g : Guard} {enabled : Bool}
  {allowed : State → Op → Prop}

namespace State

/-- The live guards, from the one taken last to the one taken first. -/
def live (s : State) : List Guard :=
  s.guards.map Prod.snd

/-- The number of live guards that hold a lock. -/
def holders (s : State) (l : Nat) : Nat :=
  s.live.countP fun g => g.lock? = some l

/-- The number of live guards that report that interrupts were enabled before them. -/
def reporters (s : State) : Nat :=
  s.live.countP Guard.reportsEnabled

/-- The sequences of operations that have an answer, each of them allowed where it is carried out. -/
inductive Runs (allowed : State → Op → Prop) : State → List Op → State → Prop where
  | nil {s : State} : Runs allowed s [] s
  | cons {s s' s'' : State} {op : Op} {a : Answer} {ops : List Op} :
    allowed s op → s.step? op = some (a, s') → Runs allowed s' ops s'' → Runs allowed s (op :: ops) s''

/-- Every operation is allowed. -/
def Any (_ : State) (_ : Op) : Prop := True

/-- What is lent and what is left add up to what there was: interrupts that are enabled, and every lock, once. -/
structure Balanced (enabled : Bool) (s : State) : Prop where
  interrupts : s.enabled.toNat + s.reporters = enabled.toNat
  locks (l : Nat) : s.holders l = (s.held l).toNat

/-- What an operation does to the guards: it takes one, it releases one, or it leaves them alone. -/
inductive Effect (s : State) : Op → State → Prop where
  | takes {op : Op} {s' : State} (g : Guard) (hfree : ∀ l, g.lock? = some l → s.held l = false)
    (hreports : g.reportsEnabled = (s.enabled && g.masks)) (hlive : s'.live = g :: s.live)
    (henabled : s'.enabled = (s.enabled && !g.masks))
    (hheld : ∀ l, s'.held l = (s.held l || decide (g.lock? = some l))) : Effect s op s'
  | releases {n : Nat} (g : Guard) (hguard : s.guard? n = some g) (hlive : s.live.Perm (g :: (s.release n).live))
    (henabled : (s.release n).enabled = (s.enabled || g.reportsEnabled))
    (hheld : ∀ l, (s.release n).held l = (s.held l && !decide (g.lock? = some l))) :
    Effect s (.release n) (s.release n)
  | keeps {op : Op} {s' : State} (hlive : s'.live = s.live) (henabled : s'.enabled = s.enabled)
    (hheld : s'.held = s.held) : Effect s op s'

/-- The guard of a name is the only one that goes when the name is released. -/
lemma perm_dropName {gs : List (Nat × Guard)} (h : gs.lookup n = some g) :
    (gs.map Prod.snd).Perm (g :: (dropName n gs).map Prod.snd) := by
  induction gs with
  | nil => cases h
  | cons x gs ih =>
    obtain ⟨k, g'⟩ := x
    rw [List.lookup_cons] at h
    by_cases hk : k = n
    · subst hk
      rw [beq_self_eq_true] at h
      cases h
      rw [dropName, if_pos rfl]
      exact .refl _
    · rw [beq_false_of_ne (Ne.symm hk)] at h
      rw [dropName, if_neg hk]
      exact ((ih h).cons g').trans (.swap ..)

/-- A lock that is taken is held, and the others are as they were. -/
lemma held_setHeld_true : (s.setHeld l true).held n = (s.held n || decide (some l = some n)) := by
  change (if n = l then true else s.held n) = _
  by_cases h : n = l
  · rw [if_pos h, h, decide_eq_true rfl, Bool.or_true]
  · rw [if_neg h, decide_eq_false fun h' => h (Option.some.inj h').symm, Bool.or_false]

/-- A lock that is given back is free, and the others are as they were. -/
lemma held_setHeld_false : (s.setHeld l false).held n = (s.held n && !decide (some l = some n)) := by
  change (if n = l then false else s.held n) = _
  by_cases h : n = l
  · rw [if_pos h, h, decide_eq_true rfl, Bool.not_true, Bool.and_false]
  · rw [if_neg h, decide_eq_false fun h' => h (Option.some.inj h').symm, Bool.not_false, Bool.and_true]

/-- A guard gives back the lock that it holds, and no other one. -/
lemma held_giveBack : (s.giveBack g).held l = (s.held l && !decide (g.lock? = some l)) := by
  cases g with
  | interrupts b => exact (Bool.and_true _).symm
  | lock k => exact held_setHeld_false
  | maskedLock k b => exact held_setHeld_false

/-- A guard enables interrupts if they were enabled before it. -/
lemma enabled_giveBack : (s.giveBack g).enabled = (s.enabled || g.reportsEnabled) := by
  cases g with
  | interrupts b => rfl
  | lock k => exact (Bool.or_false _).symm
  | maskedLock k b => rfl

/-- Giving back what a guard holds takes no guard away. -/
lemma live_giveBack : (s.giveBack g).live = s.live := by
  cases g <;> rfl

/-- Releasing a guard takes it away and gives back what it holds. -/
lemma release_of_guard? (h : s.guard? n = some g) :
    s.release n = ({ s with guards := dropName n s.guards }).giveBack g := by
  rw [release, h]

/-- Releasing a name without a guard does nothing. -/
lemma release_of_guard?_eq_none (h : s.guard? n = none) : s.release n = s := by
  rw [release, h]

/-- A release takes away the guard of its name, if there is one. -/
lemma effect_release : Effect s (.release n) (s.release n) := by
  cases h : s.guard? n with
  | none =>
    rw [release_of_guard?_eq_none h]
    exact .keeps rfl rfl rfl
  | some g =>
    have hrelease := release_of_guard? h
    refine .releases g h ?_ ?_ fun l => ?_
    · rw [hrelease, live_giveBack]
      exact perm_dropName h
    · rw [hrelease, enabled_giveBack]
    · rw [hrelease, held_giveBack]

/-- A lock is taken with a new guard. -/
lemma effect_lock (hfree : s.held l = false) : Effect s op ((s.setHeld l true).take n (.lock l)) := by
  refine .takes (.lock l) ?_ (Bool.and_false _).symm rfl (Bool.and_true _).symm fun _ => held_setHeld_true
  rintro k ⟨⟩
  exact hfree

/-- A lock is taken and interrupts are masked with one new guard. -/
lemma effect_maskAndLock (hfree : s.held l = false) :
    Effect s op ((s.disable.setHeld l true).take n (.maskedLock l s.enabled)) := by
  refine .takes (.maskedLock l s.enabled) ?_ (Bool.and_true _).symm rfl (Bool.and_false _).symm
    fun _ => held_setHeld_true
  rintro k ⟨⟩
  exact hfree

/-- Every operation has one of the three effects. -/
lemma effect_step (h : s.step? op = some (a, s')) : Effect s op s' := by
  cases op with
  | mask n =>
    cases h
    exact .takes (.interrupts s.enabled) nofun (Bool.and_true _).symm rfl (Bool.and_false _).symm
      fun _ => (Bool.or_false _).symm
  | lock n l =>
    obtain ⟨hfree, h⟩ := Option.ite_none_left_eq_some.1 h
    cases h
    exact effect_lock (Bool.eq_false_iff.2 hfree)
  | maskAndLock n l =>
    obtain ⟨hfree, h⟩ := Option.ite_none_left_eq_some.1 h
    cases h
    exact effect_maskAndLock (Bool.eq_false_iff.2 hfree)
  | tryLock n l =>
    rw [step?] at h
    split at h
    next =>
      cases h
      exact .keeps rfl rfl rfl
    next hfree =>
      cases h
      exact effect_lock (Bool.eq_false_iff.2 hfree)
  | add n v =>
    rw [step?] at h
    split at h
    · cases h
      exact .keeps rfl rfl rfl
    · cases h
      exact .keeps rfl rfl rfl
  | read n =>
    cases h
    exact .keeps rfl rfl rfl
  | release n =>
    cases h
    exact effect_release

/-- Taking a guard lends what releasing it gives back. -/
lemma Effect.balanced (h : Effect s op s') (hs : s.Balanced enabled) : s'.Balanced enabled := by
  obtain ⟨hi, hl⟩ := hs
  cases h with
  | takes g hfree hreports hlive henabled hheld =>
    constructor
    · rw [reporters, hlive, List.countP_cons, henabled, hreports, ← hi, reporters]
      cases s.enabled <;> cases g.masks <;> simp [Nat.add_comm]
    · intro l
      rw [holders, hlive, List.countP_cons, hheld, ← holders, hl]
      -- a lock that is taken was free, so that one guard holds it now
      by_cases h : g.lock? = some l
      · simp [h, hfree l h]
      · simp [h]
  | releases g hguard hlive henabled hheld =>
    constructor
    · rw [reporters, hlive.countP_eq, List.countP_cons, ← reporters] at hi
      have hle := enabled.toNat_le
      rw [henabled]
      cases hr : g.reportsEnabled with
      | false =>
        rw [hr, if_neg Bool.false_ne_true, Nat.add_zero] at hi
        rw [Bool.or_false]
        exact hi
      | true =>
        -- the guard has the interrupts, so they are not enabled besides
        rw [hr, if_pos rfl] at hi
        have hmasked : s.enabled = false := Bool.toNat_eq_zero.1 (by omega)
        rw [hmasked, Bool.toNat_false] at hi
        rw [hmasked, Bool.false_or, Bool.toNat_true]
        omega
    · intro l
      have hlock := hl l
      have hle := (s.held l).toNat_le
      rw [holders, hlive.countP_eq, List.countP_cons, ← holders] at hlock
      rw [hheld]
      by_cases h : g.lock? = some l
      · rw [decide_eq_true h, if_pos rfl] at hlock
        rw [decide_eq_true h, Bool.not_true, Bool.and_false, Bool.toNat_false]
        omega
      · rw [decide_eq_false h, if_neg Bool.false_ne_true, Nat.add_zero] at hlock
        rw [decide_eq_false h, Bool.not_false, Bool.and_true]
        exact hlock
  | keeps hlive henabled hheld =>
    constructor
    · rw [henabled, reporters, hlive]
      exact hi
    · intro l
      rw [hheld, holders, hlive]
      exact hl l

/-- At the beginning nothing is lent. -/
lemma initial_balanced : (initial enabled).Balanced enabled :=
  ⟨Nat.add_zero _, fun _ => rfl⟩

/-- The account comes out even after every sequence of operations. -/
lemma Runs.balanced (h : Runs allowed s ops s') (hs : s.Balanced enabled) : s'.Balanced enabled := by
  induction h with
  | nil => exact hs
  | cons _ hstep _ ih => exact ih ((effect_step hstep).balanced hs)

/-- A lock is held exactly if a live guard holds it, and then just one does. -/
lemma Balanced.held_iff (h : s.Balanced enabled) : s.held l = true ↔ s.holders l = 1 := by
  rw [h.locks]
  cases s.held l <;> decide

/-- A lock is free exactly if no live guard holds it. -/
lemma Balanced.free_iff (h : s.Balanced enabled) : s.held l = false ↔ s.holders l = 0 := by
  rw [h.locks]
  cases s.held l <;> decide

/-- An attempt gets exactly the locks that are free. -/
lemma tryLock_got_iff : (∃ s', s.step? (.tryLock n l) = some (.got true, s')) ↔ s.held l = false := by
  rw [step?]
  cases s.held l <;> simp

/-- A thread waits for ever exactly where it waits for a lock that is held. -/
lemma step?_eq_none_iff : s.step? op = none ↔
    ∃ n l, (op = .lock n l ∨ op = .maskAndLock n l) ∧ s.held l = true := by
  constructor
  · intro h
    cases op with
    | lock n l =>
      refine ⟨n, l, .inl rfl, ?_⟩
      by_contra hfree
      rw [step?, if_neg hfree] at h
      cases h
    | maskAndLock n l =>
      refine ⟨n, l, .inr rfl, ?_⟩
      by_contra hfree
      rw [step?, if_neg hfree] at h
      cases h
    | tryLock n l | add n v =>
      rw [step?] at h
      split at h <;> cases h
    | mask n | read n | release n => cases h
  · rintro ⟨n, l, rfl | rfl, h⟩
    · exact if_pos h
    · exact if_pos h

/-- An attempt is refused exactly for the locks that are held, and nothing changes. -/
lemma tryLock_refused_iff : s.step? (.tryLock n l) = some (.got false, s) ↔ s.held l = true := by
  rw [step?]
  cases s.held l <;> simp

/-- Interrupts that were enabled at first are back exactly when no live guard has them. -/
lemma Balanced.enabled_iff (h : s.Balanced true) :
    s.enabled = true ↔ ∀ g ∈ s.live, g.reportsEnabled = false := by
  have hnone : s.reporters = 0 ↔ ∀ g ∈ s.live, g.reportsEnabled = false := by
    simp [reporters, List.countP_eq_zero]
  have hsum := h.interrupts
  rw [Bool.toNat_true] at hsum
  rw [← hnone, ← Bool.toNat_eq_one]
  omega

/-- In every state that a thread brings about, whatever guards it takes and in whatever order it releases them: a
lock is held if exactly one live guard holds it and free if none does, so that trying it succeeds if none does and
only a lock that a live guard holds is waited for. Interrupts that were enabled at first are enabled unless a live
guard reports so, which at most one does; interrupts that were masked at first stay masked. Without a live guard
all is as it was at first. -/
theorem guards_give_back (enabled : Bool) (ops : List Op) (s : State) (h : Runs Any (initial enabled) ops s) :
    (∀ l, (s.held l = true ↔ s.holders l = 1) ∧ (s.held l = false ↔ s.holders l = 0)) ∧
    (∀ n l, ((∃ s', s.step? (.tryLock n l) = some (.got true, s')) ↔ s.holders l = 0) ∧
      (s.step? (.tryLock n l) = some (.got false, s) ↔ s.holders l = 1)) ∧
    (∀ op, s.step? op = none ↔ ∃ n l, (op = .lock n l ∨ op = .maskAndLock n l) ∧ s.holders l = 1) ∧
    (enabled = true →
      (s.enabled = true ↔ ∀ g ∈ s.live, g.reportsEnabled = false) ∧ s.reporters ≤ 1) ∧
    (enabled = false → s.enabled = false) ∧
    (s.live = [] → (∀ l, s.held l = false) ∧ s.enabled = enabled) := by
  have hs := h.balanced initial_balanced
  refine ⟨fun l => ⟨hs.held_iff, hs.free_iff⟩, fun n l => ⟨?_, ?_⟩, fun op => ?_, ?_, ?_, ?_⟩
  · rw [tryLock_got_iff, hs.free_iff]
  · rw [tryLock_refused_iff, hs.held_iff]
  · rw [step?_eq_none_iff]
    simp only [hs.held_iff]
  · rintro rfl
    refine ⟨hs.enabled_iff, ?_⟩
    -- what is lent cannot be more than the interrupts that were enabled
    have hsum := hs.interrupts
    rw [Bool.toNat_true] at hsum
    omega
  · rintro rfl
    exact Bool.toNat_eq_zero.1 (Nat.add_eq_zero_iff.1 hs.interrupts).1
  · intro hlive
    constructor
    · intro l
      rw [hs.free_iff, holders, hlive]
      rfl
    · have hsum := hs.interrupts
      rw [reporters, hlive, List.countP_nil, Nat.add_zero] at hsum
      rw [Bool.eq_iff_iff, ← Bool.toNat_eq_one, hsum, Bool.toNat_eq_one]

/-- Two locks are given back in the order in which they were taken: at the end both are free and interrupts are as
they were, and in between the lock that is left is held. -/
theorem hand_over_hand_gives_back :
    (∃ s, Runs Any (initial true) [.maskAndLock 1 0, .maskAndLock 2 1, .release 1] s ∧ s.held 1 = true ∧
      s.enabled = true) ∧
    (∃ s, Runs Any (initial true) [.maskAndLock 1 0, .maskAndLock 2 1, .release 1, .release 2] s ∧
      (∀ l, s.held l = false) ∧ s.enabled = true) ∧
    ∃ s, Runs Any (initial false) [.maskAndLock 1 0, .maskAndLock 2 1, .release 1] s ∧ s.enabled = false := by
  refine ⟨?_, ?_, ?_⟩
  · have hrun : Runs Any (initial true) [.maskAndLock 1 0, .maskAndLock 2 1, .release 1] _ :=
      .cons trivial rfl (.cons trivial rfl (.cons trivial rfl .nil))
    obtain ⟨hheld, -, -, henabled, -⟩ := guards_give_back true _ _ hrun
    exact ⟨_, hrun, (hheld 1).1.2 rfl, (henabled rfl).1.2 (by decide)⟩
  · have hrun : Runs Any (initial true) [.maskAndLock 1 0, .maskAndLock 2 1, .release 1, .release 2] _ :=
      .cons trivial rfl (.cons trivial rfl (.cons trivial rfl (.cons trivial rfl .nil)))
    obtain ⟨-, -, -, -, -, hall⟩ := guards_give_back true _ _ hrun
    exact ⟨_, hrun, hall rfl⟩
  · have hrun : Runs Any (initial false) [.maskAndLock 1 0, .maskAndLock 2 1, .release 1] _ :=
      .cons trivial rfl (.cons trivial rfl (.cons trivial rfl .nil))
    obtain ⟨-, -, -, -, hmasked, -⟩ := guards_give_back false _ _ hrun
    exact ⟨_, hrun, hmasked rfl⟩

/-- Interrupts are masked, or no live guard is to keep them masked. -/
def Masked (s : State) : Prop :=
  (∃ g ∈ s.live, g.masks = true) → s.enabled = false

/-- A release is out of order if it enables interrupts while another guard is left that is to keep them masked. -/
def Orderly (s : State) : Op → Prop
  | .release n => ∀ g, s.guard? n = some g → g.reportsEnabled = true → ∀ g' ∈ (s.release n).live, g'.masks = false
  | _ => True

/-- Releases are nested if the guard taken last is released first. -/
def Nested (s : State) : Op → Prop
  | .release n => s.guards.head?.map Prod.fst = some n
  | _ => True

/-- No guard that is to keep interrupts masked is older than one that found them enabled. -/
def Stacked (s : State) : Prop :=
  s.live.Pairwise fun g g' => g.reportsEnabled = true → g'.masks = false

/-- At the beginning there is no guard to keep interrupts masked. -/
lemma initial_masked : (initial enabled).Masked := by
  rintro ⟨g, hg, -⟩
  cases hg

/-- Operations in order keep interrupts masked. -/
lemma Effect.masked (h : Effect s op s') (ho : s.Orderly op) (hs : s.Masked) : s'.Masked := by
  rintro ⟨g', hg', hmasks⟩
  cases h with
  | takes g hfree hreports hlive henabled hheld =>
    rw [hlive] at hg'
    rw [henabled]
    obtain rfl | hg' := List.mem_cons.1 hg'
    · rw [hmasks, Bool.not_true, Bool.and_false]
    · rw [hs ⟨g', hg', hmasks⟩, Bool.false_and]
  | releases g hguard hlive henabled hheld =>
    cases hr : g.reportsEnabled with
    | true =>
      rw [ho g hguard hr g' hg'] at hmasks
      cases hmasks
    | false =>
      rw [henabled, hr, Bool.or_false]
      exact hs ⟨g', hlive.mem_iff.2 (List.mem_cons_of_mem g hg'), hmasks⟩
  | keeps hlive henabled hheld =>
    rw [hlive] at hg'
    rw [henabled]
    exact hs ⟨g', hg', hmasks⟩

/-- Runs in order keep interrupts masked. -/
lemma Runs.masked (h : Runs Orderly s ops s') (hs : s.Masked) : s'.Masked := by
  induction h with
  | nil => exact hs
  | cons ho hstep _ ih => exact ih ((effect_step hstep).masked ho hs)

/-- A release out of order leaves a guard that is to keep interrupts masked, and enables them. -/
lemma not_masked_of_not_orderly (h : s.step? op = some (a, s')) (ho : ¬ s.Orderly op) : ¬ s'.Masked := by
  cases op with
  | release n =>
    cases h
    simp only [Orderly, not_forall] at ho
    obtain ⟨g, hguard, hreports, g', hg', hmasks⟩ := ho
    intro hs
    have henabled := hs ⟨g', hg', by simpa using hmasks⟩
    rw [release_of_guard? hguard, enabled_giveBack, hreports, Bool.or_true] at henabled
    cases henabled
  | _ => exact absurd trivial ho

/-- Dropping a name leaves the other guards in their order. -/
lemma dropName_sublist (gs : List (Nat × Guard)) : (dropName n gs).Sublist gs := by
  induction gs with
  | nil => exact .slnil
  | cons x gs ih =>
    rw [dropName]
    split
    · exact List.sublist_cons_self _ _
    · exact ih.cons_cons _

/-- The guards that a release leaves are live guards in their order. -/
lemma live_release_sublist : (s.release n).live.Sublist s.live := by
  cases h : s.guard? n with
  | none => rw [release_of_guard?_eq_none h]
  | some g =>
    rw [release_of_guard? h, live_giveBack]
    exact (dropName_sublist s.guards).map Prod.snd

/-- While interrupts are masked, every operation keeps the guards stacked. -/
lemma Effect.stacked (h : Effect s op s') (hm : s.Masked) (hs : s.Stacked) : s'.Stacked := by
  cases h with
  | takes g hfree hreports hlive henabled hheld =>
    rw [Stacked, hlive]
    refine List.pairwise_cons.2 ⟨fun g' hg' hr => ?_, hs⟩
    -- a guard that finds interrupts enabled finds no guard that keeps them masked
    rw [hreports, Bool.and_eq_true] at hr
    rw [← Bool.not_eq_true]
    intro hmasks
    rw [hm ⟨g', hg', hmasks⟩] at hr
    cases hr.1
  | releases g hguard hlive henabled hheld => exact hs.sublist live_release_sublist
  | keeps hlive henabled hheld =>
    rw [Stacked, hlive]
    exact hs

/-- The guard taken last has none but older ones left behind it. -/
lemma Nested.orderly (h : s.Nested op) (hs : s.Stacked) : s.Orderly op := by
  cases op with
  | release n =>
    intro g hguard hr g' hg'
    obtain ⟨⟨k, g₀⟩, hhead, rfl⟩ := Option.map_eq_some_iff.1 h
    obtain ⟨rest, hguards⟩ := List.head?_eq_some_iff.1 hhead
    have hfirst : s.guard? k = some g₀ := by
      rw [guard?, hguards, List.lookup_cons, beq_self_eq_true]
    have hrest : (s.release k).live = rest.map Prod.snd := by
      rw [release_of_guard? hfirst, live_giveBack, live, hguards, dropName, if_pos rfl]
    rw [hfirst] at hguard
    cases hguard
    rw [Stacked, live, hguards] at hs
    rw [hrest] at hg'
    exact (List.pairwise_cons.1 hs).1 g' hg' hr
  | _ => trivial

/-- A nested run is in order. -/
lemma Runs.orderly (h : Runs Nested s ops s') (hm : s.Masked) (hs : s.Stacked) : Runs Orderly s ops s' := by
  induction h with
  | nil => exact .nil
  | cons hn hstep _ ih =>
    have ho := hn.orderly hs
    have heffect := effect_step hstep
    exact .cons ho hstep (ih (heffect.masked ho hm) (heffect.stacked hm hs))

/-- Interrupts stay masked while a guard lives that is to keep them masked, whatever guards are taken, as long as
the guard that found them enabled is released after the others. Nested releases are in this order. Any release
out of this order enables interrupts at once, while such a guard lives. -/
theorem orderly_release_masks (ops : List Op) (s : State) :
    (Runs Orderly (initial true) ops s → s.Masked) ∧
    (Runs Nested (initial true) ops s → Runs Orderly (initial true) ops s) ∧
    (∀ op a s', s.step? op = some (a, s') → ¬ s.Orderly op → ¬ s'.Masked) :=
  ⟨fun h => h.masked initial_masked, fun h => h.orderly initial_masked .nil,
    fun _ _ _ h ho => not_masked_of_not_orderly h ho⟩

/-- Two locks are taken one after the other and the first is given back: interrupts are enabled, while the other
lock is held by a guard that is to keep them masked. -/
theorem hand_over_hand_unmasks :
    ∃ s, Runs Any (initial true) [.maskAndLock 1 0, .maskAndLock 2 1, .release 1] s ∧
      s.live = [.maskedLock 1 false] ∧ s.held 1 = true ∧ s.enabled = true ∧ ¬ s.Masked := by
  refine ⟨_, .cons trivial rfl (.cons trivial rfl (.cons trivial rfl .nil)), rfl, rfl, rfl, ?_⟩
  intro h
  cases h ⟨.maskedLock 1 false, List.mem_singleton.2 rfl, rfl⟩

/-- While both locks are held interrupts are masked, and to give back the first of them is out of order. -/
theorem nested_locks_masked :
    ∃ s, Runs Nested (initial true) [.maskAndLock 1 0, .maskAndLock 2 1] s ∧ s.Masked ∧
      ¬ s.Orderly (.release 1) ∧ ¬ (s.release 1).Masked := by
  have hrun : Runs Nested (initial true) [.maskAndLock 1 0, .maskAndLock 2 1] _ :=
    .cons trivial rfl (.cons trivial rfl .nil)
  obtain ⟨hmasked, hnested, hlifted⟩ := orderly_release_masks _ _
  refine ⟨_, hrun, hmasked (hnested hrun), ?_, ?_⟩
  · intro ho
    cases ho (.maskedLock 0 true) rfl rfl (.maskedLock 1 false) (List.mem_singleton.2 rfl)
  · refine hlifted (.release 1) .done _ rfl ?_
    intro ho
    cases ho (.maskedLock 0 true) rfl rfl (.maskedLock 1 false) (List.mem_singleton.2 rfl)

end State

end SecureWorld.Sync
