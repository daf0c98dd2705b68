import SecureWorld.Boot
import SecureWorld.Proofs.Runs

/-!
# How the secure region is fixed

The region is fixed once, by the first operation that installs bounds or asks for the bounds in force.
`RegionOp.Effect` lists what one operation can do to it and what it is answered then, and `effect_perform` says
that this is all. `region_after` and `after_of_fixed` are about sequences of operations; `region_fixed_once` says
what holds of all sequences from power-up.
-/

namespace SecureWorld

variable {σ : Type} {m m' : Machine σ} {b : Bounds}

/-- The cause for which bounds are refused where a region is fixed. -/
def Bounds.refusal (b : Bounds) : RegionError :=
  if b.aligned then .alreadyFixed b else .unaligned b

/-- Bounds that can be installed. -/
structure Machine.Accepts (m : Machine σ) (b : Bounds) : Prop where
  aligned : b.aligned = true
  unfixed : m.region = none

/-- Bounds that can be installed are installed. -/
lemma Machine.Accepts.installRegion_eq (h : m.Accepts b) : m.installRegion b = .ok { m with region := some b } := by
  unfold installRegion
  rw [h.aligned, h.unfixed]
  rfl

/-- Bounds that cannot be installed are refused for one of the two causes. -/
lemma Machine.installRegion_of_not_accepts (h : ¬ m.Accepts b) : m.installRegion b = .error b.refusal := by
  unfold installRegion Bounds.refusal
  cases ha : b.aligned with
  | false => rfl
  | true =>
    cases hr : m.region with
    | none => exact absurd ⟨ha, hr⟩ h
    | some b' => rfl

/-- How booting ends, by what it does to the secure region. -/
inductive Booted (m : Machine σ) (b : Bounds) : EStateM.Result BootError (Machine σ) Unit → Prop where
  | logger : Booted m b (.error .logger m)
  | refused (h : ¬ m.Accepts b) (f : Log.Filter) : Booted m b (.error (.region b.refusal) { m with logger := some f })
  | platform {m' : Machine σ} (h : m.Accepts b) (hr : m'.region = some b) : Booted m b (.error .platform m')
  | done {m' : Machine σ} (h : m.Accepts b) (hr : m'.region = some b) : Booted m b (.ok () m')

/-- Nothing of what booting does before or after the region matters to the region. -/
lemma boot_booted (f : Log.Filter) (region : Option Bounds) : Booted m (region.getD .ofLayout) (boot f region m) := by
  unfold boot
  generalize region.getD .ofLayout = b
  rw [get_bind, Machine.installLogger]
  cases m.logger with
  | some f' => exact .logger
  | none =>
    dsimp only
    rw [set_bind, get_bind]
    by_cases h : m.Accepts b
    · have h' : ({ m with logger := some f } : Machine σ).Accepts b := ⟨h.aligned, h.unfixed⟩
      rw [h'.installRegion_eq]
      dsimp only
      rw [set_bind, get_bind, Machine.installPlatform]
      cases m.platform with
      | true => exact .platform h rfl
      | false => exact .done h (Machine.region_log ..)
    · have h' : ¬ ({ m with logger := some f } : Machine σ).Accepts b := fun h' => h ⟨h'.aligned, h'.unfixed⟩
      rw [Machine.installRegion_of_not_accepts h']
      exact .refused h f

/-- An operation on the secure region, or one that booting consists of. -/
inductive RegionOp where
  | install (b : Bounds)
  | installLogger (f : Log.Filter)
  | installPlatform
  | boot (f : Log.Filter) (region : Option Bounds)
  | consult
  | inWindow (addr : UInt32)
  | inFlash (addr : UInt32)
  | checkWindow (addr len : UInt32)
  | checkFlash (addr len : UInt32)
  | claim (addr len align : Word)

/-- What an operation answers. -/
inductive RegionOp.Answer where
  | installed (r : Except RegionError Unit)
  | accepted (r : Bool)
  | booted (r : Except BootError Unit)
  | bounds (r : Except (Stop ServiceError) Bounds)
  | inside (r : Except (Stop ServiceError) Bool)
  | checked (r : Except (Stop ServiceError) (Except Violation Unit))
  | claimed (r : Except (Stop ServiceError) Region)

namespace RegionOp

/-- An operation and an answer to it. -/
structure Event where
  op : RegionOp
  answer : Answer

/-- Carry out an operation. -/
def perform (m : Machine σ) : RegionOp → Answer × Machine σ
  | .install b =>
    match m.installRegion b with
    | .ok m' => (.installed (.ok ()), m')
    | .error e => (.installed (.error e), m)
  | .installLogger f => (.accepted (m.installLogger f).isSome, (m.installLogger f).getD m)
  | .installPlatform => (.accepted m.installPlatform.isSome, m.installPlatform.getD m)
  | .boot f region => ended .booted (SecureWorld.boot f region m)
  | .consult => ended .bounds ((secureRegion : Service σ Bounds) m)
  | .inWindow addr => ended .inside (Boundary.inWindow addr m)
  | .inFlash addr => ended .inside (Boundary.inFlash addr m)
  | .checkWindow addr len => ended .checked (Boundary.checkWindow addr len m)
  | .checkFlash addr len => ended .checked (Boundary.checkFlash addr len m)
  | .claim addr len align => ended .claimed (Region.claim addr len align m)
where
  ended {ε α : Type} (answer : Except ε α → Answer) (r : EStateM.Result ε (Machine σ) α) : Answer × Machine σ :=
    (answer (outcome r), endState r)

/-- An operation that is carried out, with its answer. -/
def event (m : Machine σ) (op : RegionOp) : Event := ⟨op, (op.perform m).1⟩

/-- The machine after a sequence of operations. -/
def after (m : Machine σ) : List RegionOp → Machine σ
  | [] => m
  | op :: ops => after (op.perform m).2 ops

/-- A sequence of operations that are carried out one after the other, with their answers. -/
def history (m : Machine σ) : List RegionOp → List Event
  | [] => []
  | op :: ops => op.event m :: history (op.perform m).2 ops

/-- The bounds that were installed. -/
def Event.installs? : Event → Option Bounds
  | ⟨.install b, .installed (.ok ())⟩ => some b
  | ⟨.boot _ region, .booted (.ok ())⟩ => some (region.getD .ofLayout)
  | ⟨.boot _ region, .booted (.error .platform)⟩ => some (region.getD .ofLayout)
  | _ => none

/-- Whether an operation asks for the bounds in force. A claim does so last of all. -/
def consults : RegionOp → Bool
  | .install _ | .installLogger _ | .installPlatform | .boot .. => false
  | .consult | .inWindow _ | .inFlash _ | .checkWindow .. | .checkFlash .. => true
  | .claim addr len align => decide (Region.Viable addr len align)

/-- The bounds at which the region is fixed, if it was not fixed before. -/
def Event.fixes? (e : Event) : Option Bounds :=
  if e.op.consults then some .ofLayout else e.installs?

/-- The answer is one that the bounds `b` lead to: bounds that were installed are these, and whoever asks for
the bounds in force is answered by these. -/
inductive Event.Sees (b : Bounds) : Event → Prop where
  | installed : Sees b ⟨.install b, .installed (.ok ())⟩
  | refused (b' : Bounds) : Sees b ⟨.install b', .installed (.error b'.refusal)⟩
  | logger (f : Log.Filter) (r : Bool) : Sees b ⟨.installLogger f, .accepted r⟩
  | platform (r : Bool) : Sees b ⟨.installPlatform, .accepted r⟩
  | booted (f : Log.Filter) {region : Option Bounds} {r : Except BootError Unit} :
    region.getD .ofLayout = b → r = .ok () ∨ r = .error .platform → Sees b ⟨.boot f region, .booted r⟩
  | stopped (f : Log.Filter) {region : Option Bounds} {e : BootError} :
    e = .logger ∨ e = .region (region.getD .ofLayout).refusal → Sees b ⟨.boot f region, .booted (.error e)⟩
  | consult : Sees b ⟨.consult, .bounds (.ok b)⟩
  | inWindow (a : UInt32) : Sees b ⟨.inWindow a, .inside (.ok (b.window.contains ⟨a⟩))⟩
  | inFlash (a : UInt32) : Sees b ⟨.inFlash a, .inside (.ok (b.flash.contains ⟨a⟩))⟩
  | checkWindow (a len : UInt32) : Sees b ⟨.checkWindow a len,
    .checked (.ok (if b.window.touches ⟨a⟩ len then .error (.window ⟨a⟩) else .ok ()))⟩
  | checkFlash (a len : UInt32) : Sees b ⟨.checkFlash a len,
    .checked (.ok (if b.flash.touches ⟨a⟩ len then .error (.flash ⟨a⟩) else .ok ()))⟩
  | claimed {addr len align : Word} : len = 0 ∨ Region.Claimable b addr len align →
    Sees b ⟨.claim addr len align, .claimed (.ok ⟨addr, len⟩)⟩
  | unclaimed {addr len align : Word} : ¬ (len = 0 ∨ Region.Claimable b addr len align) →
    Sees b ⟨.claim addr len align, .claimed (.error (.refused .invalidArg))⟩

/-- What an operation does to the region: it installs bounds, it asks for the bounds in force, or it does
neither. -/
inductive Effect (m : Machine σ) (e : Event) (m' : Machine σ) : Prop where
  | installs (b : Bounds) (hop : e.op.consults = false) (hb : e.installs? = some b) (h : m.Accepts b)
    (hr : m'.region = some b) (hs : e.Sees b)
  | consults (hop : e.op.consults = true) (hb : e.installs? = none) (hr : m'.region = some m.bounds)
    (hs : e.Sees m.bounds)
  | idles (hop : e.op.consults = false) (hb : e.installs? = none) (hr : m'.region = m.region)
    (hs : ∀ b, e.Sees b)

/-- The operation that installs acceptable bounds. -/
lemma perform_install (h : m.Accepts b) :
    (install b).perform m = (.installed (.ok ()), { m with region := some b }) := by
  simp only [perform, h.installRegion_eq]

/-- The operation that installs other bounds changes nothing. -/
lemma perform_install_of_not_accepts (h : ¬ m.Accepts b) :
    (install b).perform m = (.installed (.error b.refusal), m) := by
  simp only [perform, Machine.installRegion_of_not_accepts h]

/-- Bounds are refused for their ends first of all, and then because the region is fixed. -/
lemma install_answer_iff :
    (((install b).event m).answer = .installed (.error (.unaligned b)) ↔ b.aligned = false) ∧
    (((install b).event m).answer = .installed (.error (.alreadyFixed b)) ↔
      b.aligned = true ∧ m.region.isSome) ∧
    (((install b).event m).answer = .installed (.ok ()) ↔ b.aligned = true ∧ m.region = none) := by
  by_cases h : m.Accepts b
  · rw [event, perform_install h]
    simp [h.aligned, h.unfixed]
  · rw [event, perform_install_of_not_accepts h, Bounds.refusal]
    cases ha : b.aligned with
    | false => simp
    | true =>
      have hr : m.region ≠ none := fun hr => h ⟨ha, hr⟩
      simp [hr, Option.isSome_iff_ne_none]

/-- Installing fixes the region or leaves it as it was. -/
lemma effect_install : Effect m ((install b).event m) ((install b).perform m).2 := by
  by_cases h : m.Accepts b
  · rw [event, perform_install h]
    exact .installs b rfl rfl h rfl .installed
  · rw [event, perform_install_of_not_accepts h]
    exact .idles rfl rfl rfl fun _ => .refused b

/-- Booting installs bounds, if it comes so far. -/
lemma effect_boot {f : Log.Filter} {region : Option Bounds} :
    Effect m ((boot f region).event m) ((boot f region).perform m).2 := by
  change Effect m ⟨boot f region, .booted (outcome (SecureWorld.boot f region m))⟩
    (endState (SecureWorld.boot f region m))
  have hb := boot_booted (m := m) f region
  generalize SecureWorld.boot f region m = r at hb ⊢
  cases hb with
  | logger => exact .idles rfl rfl rfl fun _ => .stopped f (.inl rfl)
  | refused h f' => exact .idles rfl rfl rfl fun _ => .stopped f (.inr rfl)
  | platform h hr => exact .installs _ rfl rfl h hr (.booted f rfl (.inr rfl))
  | done h hr => exact .installs _ rfl rfl h hr (.booted f rfl (.inl rfl))

/-- A claim of a viable span asks for the bounds in force, and no other claim does. -/
lemma effect_claim {addr len align : Word} :
    Effect m ((claim addr len align).event m) ((claim addr len align).perform m).2 := by
  change Effect m ⟨claim addr len align, .claimed (outcome (Region.claim addr len align m))⟩
    (endState (Region.claim addr len align m))
  by_cases h : Region.Viable addr len align
  · rw [h.claim_eq]
    split
    next hs =>
      -- refused for secure bytes alone
      refine .consults (decide_eq_true h) rfl rfl (.unclaimed ?_)
      rintro (hlen | hc)
      · exact h.len_ne_zero hlen
      · rw [hc.clear] at hs
        cases hs
    next hs =>
      have hclear : reachesSecure m.bounds addr (addr + len) = false := by simpa using hs
      exact .consults (decide_eq_true h) rfl rfl (.claimed (.inr ⟨h.ne_zero, h.aligned, h.bounded, hclear⟩))
  · rw [Region.claim_of_not_viable h]
    split
    next hlen => exact .idles (decide_eq_false h) rfl rfl fun _ => .claimed (.inl hlen)
    next hlen =>
      refine .idles (decide_eq_false h) rfl rfl fun b => .unclaimed ?_
      rintro (hlen' | hc)
      · exact hlen hlen'
      · exact h ⟨hlen, hc.ne_zero, hc.aligned, hc.bounded⟩

/-- Every operation has one of the three effects. -/
lemma effect_perform (op : RegionOp) : Effect m (op.event m) (op.perform m).2 := by
  cases op with
  | install b => exact effect_install
  | installLogger f =>
    refine .idles rfl rfl ?_ fun _ => .logger f _
    unfold perform Machine.installLogger
    cases m.logger <;> rfl
  | installPlatform =>
    refine .idles rfl rfl ?_ fun _ => .platform _
    unfold perform Machine.installPlatform
    cases m.platform <;> rfl
  | boot f region => exact effect_boot
  | consult => exact .consults rfl rfl rfl .consult
  | inWindow a => exact .consults rfl rfl rfl (.inWindow a)
  | inFlash a => exact .consults rfl rfl rfl (.inFlash a)
  | checkWindow a len =>
    obtain ⟨k, hk, hr⟩ := Boundary.checkWindow_run a len m
    change Effect m ⟨_, .checked (outcome (Boundary.checkWindow a len m))⟩ (endState (Boundary.checkWindow a len m))
    rw [hk]
    exact .consults rfl rfl hr (.checkWindow a len)
  | checkFlash a len =>
    obtain ⟨k, hk, hr⟩ := Boundary.checkFlash_run a len m
    change Effect m ⟨_, .checked (outcome (Boundary.checkFlash a len m))⟩ (endState (Boundary.checkFlash a len m))
    rw [hk]
    exact .consults rfl rfl hr (.checkFlash a len)
  | claim addr len align => exact effect_claim

/-- The region after an operation is the one before it, or what the operation fixes it at. -/
lemma Effect.region_eq {e : Event} (h : Effect m e m') : m'.region = m.region.or e.fixes? := by
  cases h with
  | installs b hop hb h hr hs =>
    rw [hr, Event.fixes?, hop, hb, h.unfixed]
    rfl
  | consults hop hb hr hs =>
    rw [hr, Event.fixes?, hop, Machine.bounds]
    cases m.region <;> rfl
  | idles hop hb hr hs =>
    rw [hr, Event.fixes?, hop, hb]
    exact (Option.or_none ..).symm

/-- A fixed region stays what it is. -/
lemma Effect.of_fixed {e : Event} (h : Effect m e m') (hm : m.region = some b) :
    m'.region = some b ∧ e.Sees b ∧ e.installs? = none := by
  cases h with
  | installs b' hop hb h hr hs =>
    rw [h.unfixed] at hm
    cases hm
  | consults hop hb hr hs =>
    have hbounds : m.bounds = b := by rw [Machine.bounds, hm, Option.getD_some]
    exact ⟨hbounds ▸ hr, hbounds ▸ hs, hb⟩
  | idles hop hb hr hs => exact ⟨hr.trans hm, hs b, hb⟩

/-- An operation that fixes the region is answered by the bounds that it is fixed at. -/
lemma Effect.of_fixes {e : Event} (h : Effect m e m') (he : e.fixes?.isSome) :
    m'.region = some m'.bounds ∧ e.Sees m'.bounds := by
  cases h with
  | installs b hop hb h hr hs =>
    have hbounds : m'.bounds = b := by rw [Machine.bounds, hr, Option.getD_some]
    exact ⟨hbounds ▸ hr, hbounds ▸ hs⟩
  | consults hop hb hr hs =>
    have hbounds : m'.bounds = m.bounds := by rw [Machine.bounds, hr, Option.getD_some]
    exact ⟨hbounds ▸ hr, hbounds ▸ hs⟩
  | idles hop hb hr hs =>
    rw [Event.fixes?, hop, hb] at he
    cases he

/-- Whatever installs bounds fixes the region at them. -/
lemma Effect.fixes_of_installs {e : Event} (h : Effect m e m') (he : e.installs?.isSome) : e.fixes?.isSome := by
  cases h with
  | installs b hop hb h hr hs =>
    rw [Event.fixes?, hop]
    exact he
  | consults hop hb hr hs =>
    rw [hb] at he
    cases he
  | idles hop hb hr hs =>
    rw [hb] at he
    cases he

/-- No operation puts bounds in force that end within a page. -/
lemma Effect.aligned {e : Event} (h : Effect m e m') (hm : m.bounds.aligned = true) :
    m'.bounds.aligned = true := by
  cases h with
  | installs b hop hb h hr hs =>
    rw [Machine.bounds, hr]
    exact h.aligned
  | consults hop hb hr hs =>
    rw [Machine.bounds, hr]
    exact hm
  | idles hop hb hr hs =>
    rw [Machine.bounds, hr]
    exact hm

/-- Bounds were refused, or booting stopped before it came to the devices. -/
def Event.Fails (e : Event) : Prop :=
  (∃ c, e.answer = .installed (.error c)) ∨ ∃ c, e.answer = .booted (.error c) ∧ c ≠ .platform

/-- An operation that fails fixes nothing. -/
lemma Event.Sees.fixes_eq_none {e : Event} (hs : e.Sees b) (he : e.Fails) : e.fixes? = none := by
  cases hs with
  | refused b' => rfl
  | stopped f h => obtain rfl | rfl := h <;> rfl
  | booted f h hr =>
    obtain ⟨c, hc⟩ | ⟨c, hc, hne⟩ := he
    · cases hc
    · cases hc
      obtain hr | hr := hr
      · cases hr
      · cases hr
        exact absurd rfl hne
  | _ => obtain ⟨c, hc⟩ | ⟨c, hc, -⟩ := he <;> cases hc

/-- An operation that fails leaves the region as it was. -/
lemma Effect.of_fails {e : Event} (h : Effect m e m') (he : e.Fails) : m'.region = m.region := by
  have hs : ∃ b, e.Sees b := by
    cases h with
    | installs b _ _ _ _ hs => exact ⟨b, hs⟩
    | consults _ _ _ hs => exact ⟨_, hs⟩
    | idles _ _ _ hs => exact ⟨_, hs .ofLayout⟩
  obtain ⟨b, hs⟩ := hs
  rw [h.region_eq, hs.fixes_eq_none he, Option.or_none]

/-- The region is fixed at what the first operation that fixes it fixes it at. -/
lemma region_after (ops : List RegionOp) :
    (after m ops).region = m.region.or ((history m ops).findSome? Event.fixes?) := by
  induction ops generalizing m with
  | nil => exact (Option.or_none ..).symm
  | cons op ops ih =>
    rw [after, ih, (effect_perform op).region_eq, Option.or_assoc, history, List.findSome?_cons]
    cases (op.event m).fixes? <;> rfl

/-- Bounds with aligned ends stay so in every sequence of operations. -/
lemma aligned_after (ops : List RegionOp) (hm : m.bounds.aligned = true) : (after m ops).bounds.aligned = true := by
  induction ops generalizing m with
  | nil => exact hm
  | cons op ops ih => exact ih ((effect_perform op).aligned hm)

/-- Whatever is done where the region is fixed: it stays fixed, and everybody sees the same bounds. -/
lemma after_of_fixed (ops : List RegionOp) (hm : m.region = some b) :
    (after m ops).region = some b ∧ ∀ e ∈ history m ops, e.Sees b ∧ e.installs? = none := by
  induction ops generalizing m with
  | nil => exact ⟨hm, fun e he => absurd he List.not_mem_nil⟩
  | cons op ops ih =>
    obtain ⟨hregion, he⟩ := (effect_perform op).of_fixed hm
    obtain ⟨hafter, hes⟩ := ih hregion
    exact ⟨hafter, List.forall_mem_cons.2 ⟨he, hes⟩⟩

/-- Bounds are installed at most once. -/
lemma countP_installs (ops : List RegionOp) : (history m ops).countP (fun e => e.installs?.isSome) ≤ 1 := by
  induction ops generalizing m with
  | nil => exact Nat.zero_le 1
  | cons op ops ih =>
    rw [history, List.countP_cons]
    split
    next h =>
      -- the region is fixed from here on, and where it is fixed nothing is installed
      obtain ⟨hregion, -⟩ := (effect_perform op).of_fixes ((effect_perform op).fixes_of_installs h)
      have hnone : (history (op.perform m).2 ops).countP (fun e => e.installs?.isSome) = 0 := by
        rw [List.countP_eq_zero]
        intro e he
        rw [((after_of_fixed ops hregion).2 e he).2]
        nofun
      omega
    next => exact ih

/-- Whatever is asked for from power-up, the bounds in force end at bases of pages, and the region is fixed by the
first operation that installs bounds or asks for them: all later ones see the bounds that this one saw. Bounds
are installed at most once, and each refusal says why. -/
theorem region_fixed_once (devices : σ) (ops : List RegionOp) :
    let m := after (.powerUp devices) ops
    let earlier := history (.powerUp devices) ops
    m.bounds.aligned = true ∧ m.region = earlier.findSome? Event.fixes? ∧
      earlier.countP (fun e => e.installs?.isSome) ≤ 1 ∧
      (∀ op : RegionOp, (op.event m).fixes?.isSome →
        ∃ b, b.aligned = true ∧ (op.event m).Sees b ∧ ∀ later,
          (after (op.perform m).2 later).region = some b ∧
            ∀ e ∈ history (op.perform m).2 later, e.Sees b ∧ e.installs? = none) ∧
      (∀ b,
        (((install b).event m).answer = .installed (.error (.unaligned b)) ↔ b.aligned = false) ∧
        (((install b).event m).answer = .installed (.error (.alreadyFixed b)) ↔
          b.aligned = true ∧ ∃ e ∈ earlier, e.fixes?.isSome) ∧
        (((install b).event m).answer = .installed (.ok ()) ↔
          b.aligned = true ∧ ∀ e ∈ earlier, e.fixes? = none)) ∧
      ∀ op : RegionOp, (op.event m).Fails → (op.perform m).2.region = m.region := by
  intro m earlier
  have hregion : m.region = earlier.findSome? Event.fixes? := region_after ops
  have haligned : m.bounds.aligned = true := aligned_after ops (show Bounds.ofLayout.aligned = true by decide)
  refine ⟨haligned, hregion, countP_installs ops, ?_, ?_, ?_⟩
  · intro op he
    obtain ⟨hfixed, hsees⟩ := (effect_perform op).of_fixes he
    refine ⟨_, (effect_perform op).aligned haligned, hsees, fun later => ?_⟩
    exact after_of_fixed later hfixed
  · intro b
    rw [← List.findSome?_eq_none_iff, ← List.findSome?_isSome_iff, ← hregion]
    exact install_answer_iff
  · intro op he
    exact (effect_perform op).of_fails he

end RegionOp

end SecureWorld
