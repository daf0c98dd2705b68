import Mathlib.Data.List.Perm.Basic
import Mathlib.Tactic.Common
import SecureWorld.Proofs.Catalogue

/-!
# How service tables are built

A table starts with the handler of slot 0 and is given the others one by one. `Assignment.outcome` says what one
assignment comes to, and `Lists` is what a table has to do with the assignments that were carried out on the way
to it. It determines the table whatever their order (`Lists.eq_of_perm`) and holds of every table that is built
(`lists_accepted`), however many assignments were refused in between; `built_exactly` is what this comes to.
-/

namespace SecureWorld.ServiceTable

variable {m : Type → Type}

/-- A request to give a slot its handler; the slot is named by its service, or by its number. -/
inductive Assignment (m : Type → Type) where
  | service (s : ServiceId) (h : Handler m)
  | slot (n : Nat) (h : Handler m)

namespace Assignment

/-- The number of the slot that an assignment is about. -/
def number : Assignment m → Nat
  | .service s _ => s.number
  | .slot n _ => n

/-- The handler that an assignment puts in its slot. -/
def handler : Assignment m → Handler m
  | .service _ h => h
  | .slot _ h => h

/-- A handler for a service takes as many words as the service announces. -/
def Fits : Assignment m → Prop
  | .service s h => h.arity = s.arity
  | .slot .. => True

/-- There is nothing to say against an assignment, as long as its slot is free. -/
structure Sound (a : Assignment m) : Prop where
  fits : a.Fits
  ne_zero : a.number ≠ 0
  lt : a.number < serviceSlots

/-- Carry out an assignment. -/
def perform (t : ServiceTable m) : Assignment m → Except Fault (ServiceTable m)
  | .service s h => t.assignService s h
  | .slot n h => t.assign n h

end Assignment

/-- The table after some assignments; one that is refused leaves the table as it was. -/
def build (t : ServiceTable m) : List (Assignment m) → ServiceTable m
  | [] => t
  | a :: as =>
    match a.perform t with
    | .ok t' => build t' as
    | .error _ => build t as

/-- The assignments that are carried out when a table is built. -/
def accepted (t : ServiceTable m) : List (Assignment m) → List (Assignment m)
  | [] => []
  | a :: as =>
    match a.perform t with
    | .ok t' => a :: accepted t' as
    | .error _ => accepted t as

variable {t t' : ServiceTable m} {h : Handler m} {a : Assignment m} {as as' done done' : List (Assignment m)}
  {n : Nat}

/-! ## One assignment -/

/-- A table is told by what its numbers resolve to. -/
lemma ext_resolve (hinvalid : t.invalid = t'.invalid) (hresolve : ∀ n, t.resolve n = t'.resolve n) : t = t' := by
  obtain ⟨i, slots⟩ := t
  obtain ⟨i', slots'⟩ := t'
  cases hinvalid
  congr 1
  ext n hn : 1
  have hslot := hresolve n
  simpa [resolve, hn] using hslot

/-- A number without a slot resolves to nothing. -/
lemma resolve_eq_none (hn : serviceSlots ≤ n) : t.resolve n = none := by
  rw [resolve, Vector.getElem?_eq_none hn]
  rfl

/-- In a new table only slot 0 is taken. -/
lemma resolve_ofInvalid : (ofInvalid h).resolve n = if n = 0 then some h else none := by
  rw [resolve, ofInvalid, Vector.getElem?_set, Vector.getElem?_replicate]
  by_cases hz : 0 = n
  · rw [if_pos hz, if_pos hz.symm]
    rfl
  · rw [if_neg hz, if_neg (Ne.symm hz)]
    split <;> rfl

/-- A new table has one handler. -/
lemma assigned_ofInvalid : (ofInvalid h).assigned = 1 := rfl

/-- What an assignment comes to: the causes for which it is refused, in the order in which they are looked for, and a
table in which its slot was free and nothing else has changed. -/
inductive Assignment.Outcome (t : ServiceTable m) (a : Assignment m) : Except Fault (ServiceTable m) → Prop where
  | misfit : ¬ a.Fits → Outcome t a (.error .arity)
  | reserved : a.Fits → a.number = 0 → Outcome t a (.error .slotZero)
  | outside : a.Fits → serviceSlots ≤ a.number → Outcome t a (.error .slotRange)
  | taken : a.Fits → a.number ≠ 0 → (t.resolve a.number).isSome → Outcome t a (.error .slotTaken)
  | assigned {t' : ServiceTable m} : a.Sound → t.resolve a.number = none → t'.invalid = t.invalid →
    (∀ n, t'.resolve n = if n = a.number then some a.handler else t.resolve n) → t'.assigned = t.assigned + 1 →
    Outcome t a (.ok t')

/-- An assignment of a handler that fits is judged by its slot alone. -/
lemma Assignment.outcome_of_fits (hfits : a.Fits) : a.Outcome t (t.assign a.number a.handler) := by
  unfold assign
  split
  next hz => exact .reserved hfits hz
  next hz =>
  split
  next hn =>
    have hslot : t.resolve a.number = t.slots[a.number] := by
      rw [resolve, Vector.getElem?_eq_getElem hn]
      rfl
    cases hfree : t.slots[a.number] with
    | some h =>
      rw [hfree] at hslot
      exact .taken hfits hz (Option.isSome_of_eq_some hslot)
    | none =>
      -- one slot is filled, and the others are what they were
      refine .assigned ⟨hfits, hz, hn⟩ (hslot.trans hfree) rfl (fun n => ?_) ?_
      · rw [resolve, Vector.getElem?_set, resolve]
        by_cases heq : a.number = n
        · rw [if_pos heq, if_pos heq.symm]
          rfl
        · rw [if_neg heq, if_neg (Ne.symm heq)]
      · have hcount : a.number < t.slots.toList.length := by rwa [Vector.length_toList]
        rw [ServiceTable.assigned, Vector.toList_set, List.countP_set hcount, Vector.getElem_toList, hfree]
        rfl
  next hn => exact .outside hfits (Nat.not_lt.1 hn)

/-- Every assignment comes to one of these. -/
lemma Assignment.outcome (t : ServiceTable m) (a : Assignment m) : a.Outcome t (a.perform t) := by
  cases a with
  | slot n h => exact outcome_of_fits (a := .slot n h) trivial
  | service s h =>
    show Outcome t _ (t.assignService s h)
    unfold assignService
    split
    next hfits => exact outcome_of_fits (a := .service s h) hfits
    next hfits => exact .misfit hfits

/-! ## Many assignments -/

/-- What a table has to do with the assignments that were carried out on the way to it. -/
structure Lists (h : Handler m) (done : List (Assignment m)) (t : ServiceTable m) : Prop where
  invalid : t.invalid = h
  zero : t.resolve 0 = some h
  listed : ∀ a ∈ done, t.resolve a.number = some a.handler
  others : ∀ n ≠ 0, (∀ a ∈ done, a.number ≠ n) → t.resolve n = none
  sound : ∀ a ∈ done, a.Sound
  distinct : done.Pairwise fun a a' => a.number ≠ a'.number
  assigned : t.assigned = done.length + 1

/-- A new table lists no assignments. -/
lemma lists_ofInvalid (h : Handler m) : Lists h [] (ofInvalid h) where
  invalid := rfl
  zero := rfl
  listed := nofun
  others n hn _ := by rw [resolve_ofInvalid, if_neg hn]
  sound := nofun
  distinct := .nil
  assigned := assigned_ofInvalid

namespace Lists

/-- A number resolves to something if it is zero or was assigned. -/
lemma resolve_isSome_iff (hl : Lists h done t) : (t.resolve n).isSome ↔ n = 0 ∨ ∃ a ∈ done, a.number = n := by
  constructor
  · intro hsome
    by_contra hnone
    obtain ⟨hz, hdone⟩ := not_or.1 hnone
    rw [hl.others n hz fun a ha heq => hdone ⟨a, ha, heq⟩] at hsome
    cases hsome
  · rintro (rfl | ⟨a, ha, rfl⟩)
    · exact Option.isSome_of_eq_some hl.zero
    · exact Option.isSome_of_eq_some (hl.listed a ha)

/-- A number that was assigned is looked up as its handler. -/
lemma lookup_of_mem (hl : Lists h done t) (ha : a ∈ done) : t.lookup a.number = a.handler := by
  rw [lookup, hl.listed a ha]
  rfl

/-- All other numbers are looked up as the handler of slot 0. -/
lemma lookup_of_not_mem (hl : Lists h done t) (hn : ∀ a ∈ done, a.number ≠ n) : t.lookup n = h := by
  rw [lookup]
  by_cases hz : n = 0
  · rw [hz, hl.zero]
    rfl
  · rw [hl.others n hz hn]
    exact hl.invalid

/-- An assignment that is carried out is one more, for a number that had none. -/
lemma snoc (hl : Lists h done t) (ha : a.Outcome t (.ok t')) : Lists h (done ++ [a]) t' := by
  cases ha with
  | assigned hsound hfree hinvalid hresolve hassigned =>
    -- the slot was free, so no assignment that was carried out is about it
    have hnew : ∀ a' ∈ done, a'.number ≠ a.number := by
      intro a' ha' heq
      rw [← heq, hl.listed a' ha'] at hfree
      cases hfree
    constructor
    case invalid => rw [hinvalid, hl.invalid]
    case zero => rw [hresolve, if_neg (Ne.symm hsound.ne_zero), hl.zero]
    case listed =>
      intro a' ha'
      rw [hresolve]
      obtain ha' | ha' := List.mem_append.1 ha'
      · rw [if_neg (hnew a' ha'), hl.listed a' ha']
      · rw [List.mem_singleton.1 ha', if_pos rfl]
    case others =>
      intro n hne hall
      obtain ⟨hall, hlast⟩ := List.forall_mem_append.1 hall
      rw [hresolve, if_neg (Ne.symm (hlast a List.mem_cons_self)), hl.others n hne hall]
    case sound =>
      exact List.forall_mem_append.2 ⟨hl.sound, List.forall_mem_singleton.2 hsound⟩
    case distinct =>
      refine List.pairwise_append.2 ⟨hl.distinct, List.pairwise_singleton .., fun a' ha' b hb => ?_⟩
      rw [List.mem_singleton.1 hb]
      exact hnew a' ha'
    case assigned => rw [hassigned, hl.assigned, List.length_append, List.length_singleton]

/-- Whatever is attempted, the table lists what was carried out. -/
lemma build (hl : Lists h done t) (as : List (Assignment m)) : Lists h (done ++ t.accepted as) (t.build as) := by
  induction as generalizing t done with
  | nil => rwa [accepted, List.append_nil]
  | cons a as ih =>
    rw [accepted, ServiceTable.build]
    have hout := a.outcome t
    cases hrun : a.perform t with
    | error f => exact ih hl
    | ok t' =>
      rw [hrun] at hout
      rw [List.append_cons]
      exact ih (hl.snoc hout)

/-- The assignments determine the table, and their order does not matter. -/
lemma eq_of_perm (hl : Lists h done t) (hl' : Lists h done' t') (hp : done.Perm done') : t = t' := by
  refine ext_resolve (hl.invalid.trans hl'.invalid.symm) fun n => ?_
  by_cases hn : ∃ a ∈ done, a.number = n
  · obtain ⟨a, ha, rfl⟩ := hn
    rw [hl.listed a ha, hl'.listed a (hp.mem_iff.1 ha)]
  by_cases hz : n = 0
  · rw [hz, hl.zero, hl'.zero]
  · rw [hl.others n hz fun a ha heq => hn ⟨a, ha, heq⟩,
      hl'.others n hz fun a ha heq => hn ⟨a, hp.mem_iff.2 ha, heq⟩]

/-- An assignment is refused if it does not fit, or if it is for slot 0, for a slot beyond the table or for one that
has been assigned. -/
lemma perform_error_iff (hl : Lists h done t) : (∃ f, a.perform t = .error f) ↔
    ¬ a.Fits ∨ a.number = 0 ∨ serviceSlots ≤ a.number ∨ ∃ a' ∈ done, a'.number = a.number := by
  have hout := a.outcome t
  constructor
  · rintro ⟨f, hf⟩
    rw [hf] at hout
    cases hout with
    | misfit hfits => exact .inl hfits
    | reserved _ hz => exact .inr (.inl hz)
    | outside _ hn => exact .inr (.inr (.inl hn))
    | taken _ hz hsome => exact .inr (.inr (.inr ((hl.resolve_isSome_iff.1 hsome).resolve_left hz)))
  · intro hbad
    cases hrun : a.perform t with
    | error f => exact ⟨f, rfl⟩
    | ok t' =>
      rw [hrun] at hout
      cases hout with
      | assigned hsound hfree =>
        obtain hfits | hz | hn | ⟨a', ha', heq⟩ := hbad
        · exact absurd hsound.fits hfits
        · exact absurd hz hsound.ne_zero
        · exact absurd hsound.lt (Nat.not_lt.2 hn)
        · rw [← heq, hl.listed a' ha'] at hfree
          cases hfree

end Lists

/-- Sound assignments for different slots, none of which has been assigned, are all carried out. -/
lemma accepted_eq_self (hsound : ∀ a ∈ as, a.Sound) (hdistinct : as.Pairwise fun a a' => a.number ≠ a'.number)
    (hl : Lists h done t) (hnew : ∀ a ∈ as, ∀ a' ∈ done, a'.number ≠ a.number) : t.accepted as = as := by
  induction as generalizing t done with
  | nil => rfl
  | cons a as ih =>
    obtain ⟨hfirst, hsound⟩ := List.forall_mem_cons.1 hsound
    obtain ⟨hdiffers, hdistinct⟩ := List.pairwise_cons.1 hdistinct
    obtain ⟨hfree, hnew⟩ := List.forall_mem_cons.1 hnew
    rw [accepted]
    cases hrun : a.perform t with
    | error f =>
      obtain hfits | hz | hn | ⟨a', ha', heq⟩ := hl.perform_error_iff.1 ⟨f, hrun⟩
      · exact absurd hfirst.fits hfits
      · exact absurd hz hfirst.ne_zero
      · exact absurd hfirst.lt (Nat.not_lt.2 hn)
      · exact absurd heq (hfree a' ha')
    | ok t' =>
      have hout := a.outcome t
      rw [hrun] at hout
      -- the slots of the others are still free behind this one
      refine congrArg (a :: ·) (ih hsound hdistinct (hl.snoc hout) fun b hb a' ha' => ?_)
      obtain ha' | ha' := List.mem_append.1 ha'
      · exact hnew b hb a' ha'
      · rw [List.mem_singleton.1 ha']
        exact hdiffers b hb

/-- A table that is built from a new one lists the assignments that were accepted. -/
lemma lists_accepted (h : Handler m) (as : List (Assignment m)) :
    Lists h ((ofInvalid h).accepted as) ((ofInvalid h).build as) :=
  (lists_ofInvalid h).build as

/-- What was carried out once is carried out in any order. -/
lemma accepted_of_perm (hp : as'.Perm ((ofInvalid h).accepted as)) : (ofInvalid h).accepted as' = as' := by
  have hl := lists_accepted h as
  have hdistinct := (hp.pairwise_iff fun hne => Ne.symm hne).2 hl.distinct
  exact accepted_eq_self (fun a ha => hl.sound a (hp.mem_iff.1 ha)) hdistinct (lists_ofInvalid h) fun _ _ => nofun

/-- Whatever is tried to assign, and in whatever order: an assignment is refused exactly if its handler does not fit
the service, or if its slot is slot 0, lies beyond the table or has been assigned. A number is answered by the one
handler that was assigned to it, if there is one, and by the handler of slot 0 otherwise; it resolves to something
only in the first case and for slot 0. The slots that are assigned are those of the assignments that were carried
out, and slot 0. These alone make the table what it is, and their order does not matter: they are carried out in any
order, and lead to the same table. -/
theorem built_exactly (h : Handler m) (as : List (Assignment m)) :
    let t := (ofInvalid h).build as
    let done := (ofInvalid h).accepted as
    (∀ a : Assignment m, (∃ f, a.perform t = .error f) ↔
      ¬ a.Fits ∨ a.number = 0 ∨ serviceSlots ≤ a.number ∨ ∃ a' ∈ done, a'.number = a.number) ∧
    done.Pairwise (fun a a' => a.number ≠ a'.number) ∧
    (∀ a ∈ done, t.lookup a.number = a.handler) ∧
    (∀ n, (∀ a ∈ done, a.number ≠ n) → t.lookup n = h) ∧
    (∀ n, (t.resolve n).isSome ↔ n = 0 ∨ ∃ a ∈ done, a.number = n) ∧
    t.assigned = done.length + 1 ∧
    (∀ as', as'.Perm done → (ofInvalid h).accepted as' = as') ∧
    ∀ as', ((ofInvalid h).accepted as').Perm done → (ofInvalid h).build as' = t := by
  intro t done
  have hl : Lists h done t := lists_accepted h as
  refine ⟨fun a => hl.perform_error_iff, hl.distinct, fun a => hl.lookup_of_mem, fun n => hl.lookup_of_not_mem,
    fun n => hl.resolve_isSome_iff, hl.assigned, fun as' => accepted_of_perm, fun as' hp => ?_⟩
  exact (lists_accepted h as').eq_of_perm hl hp

/-- Two assignments among four that are refused, one for each cause. -/
theorem built_around_refusals :
    let h : Handler Option := ⟨0, none⟩
    let one : Handler Option := ⟨0, some 1⟩
    let two : Handler Option := ⟨2, fun v _ => some v⟩
    let t := (ofInvalid h).build
      [.slot 3 one, .slot 3 two, .slot 0 one, .service .add one, .slot 50 one, .service .divide two]
    (∃ f, (Assignment.slot 49 one).perform t = .error f) ∧ t.lookup 3 = one ∧ t.lookup 49 = two ∧
      t.lookup 46 = h ∧ t.lookup 50 = h ∧ t.assigned = 3 ∧
      (ofInvalid h).build [.service .divide two, .slot 3 one] = t := by
  intro h one two t
  obtain ⟨hrefused, -, hlookup, hother, -, hassigned, -, hperm⟩ := built_exactly h
    [.slot 3 one, .slot 3 two, .slot 0 one, .service .add one, .slot 50 one, .service .divide two]
  have hdone : (ofInvalid h).accepted
      [.slot 3 one, .slot 3 two, .slot 0 one, .service .add one, .slot 50 one, .service .divide two] =
        [.slot 3 one, .service .divide two] := rfl
  have hswapped : (ofInvalid h).accepted [.service .divide two, .slot 3 one] =
      [.service .divide two, .slot 3 one] := rfl
  rw [hdone] at hrefused hlookup hother hassigned hperm
  refine ⟨?_, hlookup (.slot 3 one) (by simp), hlookup (.service .divide two) (by simp), hother 46 ?_, hother 50 ?_,
    hassigned, hperm _ ?_⟩
  · exact (hrefused _).2 (.inr (.inr (.inr ⟨.service .divide two, by simp, rfl⟩)))
  · simp [Assignment.number, ServiceId.number, ServiceId.info]
  · simp [Assignment.number, ServiceId.number, ServiceId.info]
  · rw [hswapped]
    exact .swap ..

section Services

variable {σ : Type}

/-- The assignments of all services but the one of slot 0. -/
def serviceAssignments (D : Drivers σ) : List (Assignment (Secure σ)) :=
  ServiceId.all.tail.map fun s => .service s (s.handler D)

/-- All assignments of the services are accepted. -/
lemma accepted_services (D : Drivers σ) :
    (ofInvalid (ServiceId.invalid.handler D)).accepted (serviceAssignments D) = serviceAssignments D := by
  have hnonzero : ∀ s ∈ ServiceId.all.tail, s.number ≠ 0 := by decide
  have hdistinct : ServiceId.all.tail.Pairwise fun s s' => s.number ≠ s'.number := by decide
  refine accepted_eq_self ?_ (List.pairwise_map.2 hdistinct) (lists_ofInvalid _) fun _ _ => nofun
  intro a ha
  obtain ⟨s, hs, rfl⟩ := List.mem_map.1 ha
  exact ⟨s.arity_handler D, hnonzero s hs, s.number_lt⟩

/-- The table of all services is built by assigning each of them its handler. -/
theorem build_services (D : Drivers σ) :
    (ofInvalid (ServiceId.invalid.handler D)).build (serviceAssignments D) = serviceTable D := by
  have hl := lists_accepted (ServiceId.invalid.handler D) (serviceAssignments D)
  rw [accepted_services] at hl
  refine ext_resolve hl.invalid fun n => ?_
  by_cases hn : n < serviceSlots
  · obtain ⟨s, rfl⟩ : ∃ s : ServiceId, s.number = n := ⟨_, ServiceId.number_serving hn⟩
    rw [resolve_serviceTable hn, ServiceId.ofNumber?_number]
    by_cases hs : s = .invalid
    · subst hs
      exact hl.zero
    · have hall : s ∈ ServiceId.all := List.mem_of_getElem? s.ofNumber?_number
      have htail : s ∈ ServiceId.all.tail := (List.mem_cons.1 hall).resolve_left hs
      exact hl.listed _ (List.mem_map.2 ⟨s, htail, rfl⟩)
  · rw [resolve_eq_none (Nat.not_lt.1 hn), resolve_eq_none (Nat.not_lt.1 hn)]

end Services

end SecureWorld.ServiceTable
