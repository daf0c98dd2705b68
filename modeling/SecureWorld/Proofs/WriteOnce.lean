import Mathlib.Data.List.Count
import Mathlib.Data.List.Perm.Basic
import Mathlib.Tactic.Common
import SecureWorld.Sync.OnceCell

/-!
# What becomes of the values of a cell

A history lists the operations on a cell, one after the other, each with the cell that it found and with what it
left behind. `Event.Effect` says what one operation can do, and `Runs.of_claimed` that nothing changes once the
cell is claimed. `Event.Fits` is what holds of an event in its history, and `cell_written_once` that it holds of all
of them: one writer at most gets through, and every value that is handed to the cell is dropped once.
-/

namespace SecureWorld.Sync.OnceCell

variable {α : Type} {c c' : OnceCell α} {op : Op α} {r : Run α (Answer α)} {v : α}

/-- An operation, the cell that it found, and what it left behind. -/
structure Event (α : Type) where
  op : Op α
  found : OnceCell α
  run : Run α (Answer α)

/-- The sequences of operations on a cell that have an answer, and the cell that they leave. -/
inductive Runs : OnceCell α → List (Event α) → OnceCell α → Prop where
  | nil {c : OnceCell α} : Runs c [] c
  | cons {c c' : OnceCell α} {op : Op α} {r : Run α (Answer α)} {es : List (Event α)} :
    c.step? op = some r → Runs r.cell es c' → Runs c (⟨op, c, r⟩ :: es) c'

/-- The value that an observation is the offer of. -/
def Seen.offered? : Seen α → Option α
  | .offered v _ => some v
  | _ => none

/-- An observation of a cell that holds no value and takes none. -/
inductive Seen.Unfilled : Seen α → Prop where
  | got : Unfilled (.got none)
  | filled : Unfilled (.filled false)
  | offered (v : α) : Unfilled (.offered v false)

/-- Whether an operation may put a value into the cell. -/
def Op.writes : Op α → Bool
  | .set _ | .getOrInit _ => true
  | .get | .isFilled | .wait => false

/-- The answer of a cell that is claimed for good, with a value or without one. -/
def settledAnswer (value : Option α) : Op α → Answer α
  | .set v => .refused v
  | .get | .wait | .getOrInit _ => .value value
  | .isFilled => .flag value.isSome

namespace Event

variable {e : Event α}

/-- The run of the initializer that an operation calls, if it calls one. -/
def initRun? (e : Event α) : Option (Run α (Except Fault α)) :=
  match e.op, e.found with
  | .getOrInit init, .empty => some (runInit .claimed init)
  | _, _ => none

/-- The values handed to the cell: those that are offered, also by an initializer, and the one it produces. -/
def handed (e : Event α) : List α :=
  match e.op with
  | .set v => [v]
  | _ => e.initRun?.elim [] fun r => r.seen.filterMap Seen.offered? ++ r.result.toOption.toList

/-- The value that is in the cell since the event. -/
def published? (e : Event α) : Option α :=
  if e.found.isFilled then none else e.run.cell.get

/-- Whether an event claims the cell, for a value or for an initializer. -/
def claims (e : Event α) : Bool :=
  e.published?.isSome || e.initRun?.isSome

/-- What can happen to a cell: nothing, as nobody wants to write; a value is published; an initializer leaves it
claimed; or nothing, as it was claimed before. -/
inductive Effect (e : Event α) : Prop where
  | reads (hfound : e.found = .empty) (hop : e.op.writes = false)
    (hrun : e.run = ⟨.empty, [], e.handed, settledAnswer none e.op⟩) (hpublished : e.published? = none)
    (hclaims : e.claims = false)
  | publishes (v : α) (hfound : e.found = .empty) (hop : e.op.writes = true) (hcell : e.run.cell = .filled v)
    (hanswer : e.run.result = .stored v ∨ e.run.result = .value (some v)) (hseen : ∀ o ∈ e.run.seen, o.Unfilled)
    (hhanded : e.handed = e.run.dropped ++ [v]) (hpublished : e.published? = some v) (hclaims : e.claims = true)
  | abandons (f : Fault) (hfound : e.found = .empty) (hop : e.op.writes = true) (hcell : e.run.cell = .claimed)
    (hanswer : e.run.result = .fault f) (hseen : ∀ o ∈ e.run.seen, o.Unfilled) (hhanded : e.handed = e.run.dropped)
    (hpublished : e.published? = none) (hclaims : e.claims = true)
  | settled (hfound : e.found ≠ .empty) (hrun : e.run = ⟨e.found, [], e.handed, settledAnswer e.found.get e.op⟩)
    (hpublished : e.published? = none) (hclaims : e.claims = false)

end Event

/-- An initializer leaves the claim on the cell, and its offers are refused and dropped. -/
lemma runInit_claimed (init : Initializer α) :
    (runInit .claimed init).cell = .claimed ∧ (∀ o ∈ (runInit .claimed init).seen, o.Unfilled) ∧
      (runInit .claimed init).dropped = (runInit .claimed init).seen.filterMap Seen.offered? := by
  induction init with
  | produce v => exact ⟨rfl, nofun, rfl⟩
  | abandon f => exact ⟨rfl, nofun, rfl⟩
  | get next ih =>
    obtain ⟨hcell, hseen, hdropped⟩ := ih none
    exact ⟨hcell, List.forall_mem_cons.2 ⟨.got, hseen⟩, hdropped⟩
  | isFilled next ih =>
    obtain ⟨hcell, hseen, hdropped⟩ := ih false
    exact ⟨hcell, List.forall_mem_cons.2 ⟨.filled, hseen⟩, hdropped⟩
  | set v next ih =>
    obtain ⟨hcell, hseen, hdropped⟩ := ih false
    exact ⟨hcell, List.forall_mem_cons.2 ⟨.offered v, hseen⟩, congrArg (v :: ·) hdropped⟩

/-- Every operation has one of the four effects. -/
lemma effect_step (h : c.step? op = some r) : (⟨op, c, r⟩ : Event α).Effect := by
  cases c with
  | empty =>
    cases op with
    | set v =>
      cases h
      exact .publishes v rfl rfl rfl (.inl rfl) nofun rfl rfl rfl
    | get | isFilled =>
      cases h
      exact .reads rfl rfl rfl rfl rfl
    | wait => cases h
    | getOrInit init =>
      -- the initializer runs on a cell that is claimed already, and leaves it so
      obtain ⟨hcell, hseen, hdropped⟩ := runInit_claimed init
      have hhanded (r : Run α (Answer α)) : (⟨.getOrInit init, .empty, r⟩ : Event α).handed =
          (runInit .claimed init).dropped ++ (runInit .claimed init).result.toOption.toList := by
        rw [hdropped]
        rfl
      rw [step?] at h
      generalize runInit .claimed init = i at h hcell hseen hhanded
      obtain ⟨cell, seen, dropped, result⟩ := i
      cases hcell
      cases result with
      | ok v =>
        cases h
        exact .publishes v rfl rfl rfl (.inr rfl) hseen (hhanded _) rfl rfl
      | error f =>
        cases h
        exact .abandons f rfl rfl rfl rfl hseen ((hhanded _).trans (List.append_nil _)) rfl rfl
  | claimed =>
    cases op with
    | wait | getOrInit init => cases h
    | set v | get | isFilled =>
      cases h
      exact .settled nofun rfl rfl rfl
  | filled v =>
    cases op with
    | _ =>
      cases h
      exact .settled nofun rfl rfl rfl

namespace Event

variable {e : Event α}

/-- What an event hands to the cell is published, or dropped at once by whoever offered it. -/
lemma Effect.handed_eq (h : e.Effect) : e.handed = e.run.dropped ++ e.published?.toList := by
  cases h with
  | reads hfound hop hrun hpublished | settled hfound hrun hpublished =>
    rw [hpublished, hrun]
    exact (List.append_nil _).symm
  | publishes v hfound hop hcell hanswer hseen hhanded hpublished =>
    rw [hpublished]
    exact hhanded
  | abandons f hfound hop hcell hanswer hseen hhanded hpublished =>
    rw [hpublished, hhanded]
    exact (List.append_nil _).symm

/-- What is published is in the cell afterwards, besides what was in it before. -/
lemma Effect.contents_eq (h : e.Effect) : e.run.cell.contents = e.found.contents ++ e.published?.toList := by
  cases h with
  | reads hfound hop hrun hpublished =>
    rw [hpublished, hrun, hfound]
    rfl
  | publishes v hfound hop hcell hanswer hseen hhanded hpublished =>
    rw [hpublished, hcell, hfound]
    rfl
  | abandons f hfound hop hcell hanswer hseen hhanded hpublished =>
    rw [hpublished, hcell, hfound]
    rfl
  | settled hfound hrun hpublished =>
    rw [hpublished, hrun]
    exact (List.append_nil _).symm

/-- What an initializer sees holds no value. -/
lemma Effect.unfilled (h : e.Effect) : ∀ o ∈ e.run.seen, o.Unfilled := by
  cases h with
  | reads hfound hop hrun | settled hfound hrun =>
    rw [hrun]
    nofun
  | publishes v hfound hop hcell hanswer hseen => exact hseen
  | abandons f hfound hop hcell hanswer hseen => exact hseen

/-- An operation that may write claims the cell exactly if it finds it empty. -/
lemma Effect.claims_iff (h : e.Effect) : e.claims = true ↔ e.op.writes = true ∧ e.found = .empty := by
  cases h with
  | reads hfound hop hrun hpublished hclaims => simp [hclaims, hop]
  | publishes v hfound hop hcell hanswer hseen hhanded hpublished hclaims => simp [hclaims, hop, hfound]
  | abandons f hfound hop hcell hanswer hseen hhanded hpublished hclaims => simp [hclaims, hop, hfound]
  | settled hfound hrun hpublished hclaims => simp [hclaims, hfound]

/-- An event leaves the cell empty exactly if it finds it empty and does not claim it. -/
lemma Effect.cell_eq_empty_iff (h : e.Effect) : e.run.cell = .empty ↔ e.found = .empty ∧ e.claims = false := by
  cases h with
  | reads hfound hop hrun hpublished hclaims => simp [hclaims, hfound, hrun]
  | publishes v hfound hop hcell hanswer hseen hhanded hpublished hclaims => simp [hclaims, hcell]
  | abandons f hfound hop hcell hanswer hseen hhanded hpublished hclaims => simp [hclaims, hcell]
  | settled hfound hrun hpublished hclaims => simp [hfound, hrun]

/-- Only an initializer that halts leaves a claim without a value. -/
lemma Effect.cell_eq_claimed_iff (h : e.Effect) :
    e.run.cell = .claimed ↔ e.found = .claimed ∨ ∃ f, e.run.result = .fault f := by
  have hsettled (value : Option α) (op : Op α) (f : Fault) : settledAnswer value op ≠ .fault f := by
    cases op <;> nofun
  cases h with
  | reads hfound hop hrun => simp [hfound, hrun, hsettled]
  | publishes v hfound hop hcell hanswer =>
    obtain hanswer | hanswer := hanswer
    · simp [hfound, hcell, hanswer]
    · simp [hfound, hcell, hanswer]
  | abandons f hfound hop hcell hanswer => simp [hcell, hanswer]
  | settled hfound hrun => simp [hrun, hsettled]

/-- What holds of an event between what came before it and what comes after it. -/
structure Fits (earlier : List (Event α)) (e : Event α) (later : List (Event α)) : Prop where
  /-- An offer is taken, or an initializer is called, where nothing has claimed the cell before. -/
  claims_iff : e.claims = true ↔ e.op.writes = true ∧ ∀ e' ∈ earlier, e'.claims = false
  /-- Whoever publishes a value is told so, and from then on everybody sees it and every offer is refused. -/
  published (v : α) : e.published? = some v → (e.run.result = .stored v ∨ e.run.result = .value (some v)) ∧
    ∀ e' ∈ later, e'.run.result = settledAnswer (some v) e'.op
  /-- After an initializer that halts nobody sees a value, and every offer is refused. -/
  abandoned (f : Fault) : e.run.result = .fault f → ∀ e' ∈ later, e'.run.result = settledAnswer none e'.op
  /-- An initializer sees a cell that holds no value and refuses its offers. -/
  unfilled : ∀ o ∈ e.run.seen, o.Unfilled
  /-- An initializer that is not called does not matter. -/
  uncalled (init init' : Initializer α) : e.op = .getOrInit init → e.initRun? = none →
    e.found.step? (.getOrInit init') = e.found.step? e.op
  /-- What is handed to the cell is published, or dropped at once by whoever offered it. -/
  accounted : e.handed = e.run.dropped ++ e.published?.toList

end Event

variable {es xs ys : List (Event α)} {e : Event α}

/-- A run begins with its first event and goes on behind it. -/
lemma Runs.cons_inv (h : Runs c (e :: es) c') : e.found = c ∧ e.Effect ∧ Runs e.run.cell es c' := by
  cases h with
  | cons hstep h => exact ⟨rfl, effect_step hstep, h⟩

/-- A run of two lists of events goes through a cell between them. -/
lemma Runs.append_inv (h : Runs c (xs ++ ys) c') : ∃ m, Runs c xs m ∧ Runs m ys c' := by
  induction xs generalizing c with
  | nil => exact ⟨c, .nil, h⟩
  | cons x xs ih =>
    cases h with
    | cons hstep h =>
      obtain ⟨m, hxs, hys⟩ := ih h
      exact ⟨m, .cons hstep hxs, hys⟩

/-- Whatever is done where the cell is claimed: it stays what it is, and answers accordingly. -/
lemma Runs.of_claimed (h : Runs c es c') (hc : c ≠ .empty) :
    c' = c ∧ ∀ e ∈ es, e.claims = false ∧ e.run.result = settledAnswer c.get e.op := by
  induction h with
  | nil => exact ⟨rfl, nofun⟩
  | @cons c c' op r es hstep h ih =>
    cases effect_step hstep with
    | settled hfound hrun hpublished hclaims =>
      have hcell : r.cell = c := congrArg Run.cell hrun
      rw [hcell] at ih
      obtain ⟨hc', hes⟩ := ih hc
      exact ⟨hc', List.forall_mem_cons.2 ⟨⟨hclaims, congrArg Run.result hrun⟩, hes⟩⟩
    | reads hfound => exact absurd hfound hc
    | publishes v hfound => exact absurd hfound hc
    | abandons f hfound => exact absurd hfound hc

/-- A cell is empty as long as nothing claims it. -/
lemma Runs.eq_empty_iff (h : Runs c es c') : c' = .empty ↔ c = .empty ∧ ∀ e ∈ es, e.claims = false := by
  induction h with
  | nil => exact ⟨fun h => ⟨h, nofun⟩, And.left⟩
  | cons hstep h ih => rw [ih, (effect_step hstep).cell_eq_empty_iff, List.forall_mem_cons, and_assoc]

/-- A cell is claimed without a value exactly if it was so before or an initializer has halted. -/
lemma Runs.eq_claimed_iff (h : Runs c es c') :
    c' = .claimed ↔ c = .claimed ∨ ∃ e ∈ es, ∃ f, e.run.result = .fault f := by
  induction h with
  | nil => simp
  | cons hstep h ih => rw [ih, (effect_step hstep).cell_eq_claimed_iff, List.exists_mem_cons_iff, or_assoc]

/-- The values that are published are that of the first event and those of the others. -/
lemma filterMap_published_cons :
    (e :: es).filterMap Event.published? = e.published?.toList ++ es.filterMap Event.published? := by
  rw [List.filterMap_cons]
  cases e.published? <;> rfl

/-- The cell holds what was published. -/
lemma Runs.contents_eq (h : Runs c es c') : c'.contents = c.contents ++ es.filterMap Event.published? := by
  induction h with
  | nil => exact (List.append_nil _).symm
  | cons hstep h ih => rw [ih, (effect_step hstep).contents_eq, List.append_assoc, filterMap_published_cons]

/-- Everything that is handed to the cell is dropped on the way or published. -/
lemma Runs.handed_perm (h : Runs c es c') :
    (es.flatMap Event.handed).Perm (es.flatMap (·.run.dropped) ++ es.filterMap Event.published?) := by
  induction h with
  | nil => exact .nil
  | cons hstep h ih =>
    rw [List.flatMap_cons, (effect_step hstep).handed_eq, List.flatMap_cons, filterMap_published_cons,
      List.append_assoc, List.append_assoc]
    refine List.Perm.append_left _ ?_
    exact (ih.append_left _).trans (List.perm_append_comm_assoc _ _ _)

/-- A cell is claimed at most once. -/
lemma Runs.countP_claims (h : Runs c es c') : es.countP Event.claims ≤ 1 := by
  induction h with
  | nil => exact Nat.zero_le 1
  | @cons c c' op r es hstep h ih =>
    rw [List.countP_cons]
    split
    next hclaims =>
      -- the cell is claimed from here on, and where it is claimed nothing claims it
      have hcell : r.cell ≠ .empty := by
        intro hempty
        rw [((effect_step hstep).cell_eq_empty_iff.1 hempty).2] at hclaims
        cases hclaims
      have hnone : es.countP Event.claims = 0 := by
        rw [List.countP_eq_zero]
        intro e he
        rw [((h.of_claimed hcell).2 e he).1]
        nofun
      omega
    next => exact ih

/-- An operation waits for ever where it waits for a value that nobody publishes. -/
lemma step?_eq_none_iff : c.step? op = none ↔
    (op = .wait ∧ c.get = none) ∨ (∃ init, op = .getOrInit init) ∧ c = .claimed := by
  constructor
  · intro h
    cases op with
    | wait =>
      cases c with
      | filled v => cases h
      | empty | claimed => exact .inl ⟨rfl, rfl⟩
    | getOrInit init =>
      cases c with
      | claimed => exact .inr ⟨⟨init, rfl⟩, rfl⟩
      | filled v => cases h
      | empty =>
        rw [step?] at h
        split at h <;> cases h
    | set v => cases c <;> cases h
    | get | isFilled => cases h
  · rintro (⟨rfl, h⟩ | ⟨⟨init, rfl⟩, rfl⟩)
    · cases c with
      | filled v => cases h
      | empty | claimed => rfl
    · rfl

/-- Every event of a history fits between those before it and those after it. -/
lemma Runs.fits (h : Runs .empty (xs ++ e :: ys) c) : e.Fits xs ys := by
  obtain ⟨m, hxs, h⟩ := h.append_inv
  obtain ⟨hfound, heffect, hys⟩ := h.cons_inv
  constructor
  case claims_iff => rw [heffect.claims_iff, hfound, hxs.eq_empty_iff, and_iff_right rfl]
  case published =>
    intro v hv
    cases heffect with
    | publishes v' _ _ hcell hanswer _ _ hpublished =>
      rw [hv] at hpublished
      cases hpublished
      rw [hcell] at hys
      exact ⟨hanswer, fun e' he' => ((hys.of_claimed nofun).2 e' he').2⟩
    | reads _ _ _ hpublished | abandons _ _ _ _ _ _ _ hpublished | settled _ _ hpublished =>
      rw [hv] at hpublished
      cases hpublished
  case abandoned =>
    intro f hf
    -- the claim is left without a value, and whatever comes behind is settled
    rw [heffect.cell_eq_claimed_iff.2 (.inr ⟨f, hf⟩)] at hys
    exact fun e' he' => ((hys.of_claimed nofun).2 e' he').2
  case unfilled => exact heffect.unfilled
  case uncalled =>
    intro init init' hop hinit
    rw [hop]
    cases hf : e.found with
    | empty =>
      rw [Event.initRun?, hop, hf] at hinit
      cases hinit
    | claimed | filled v => rfl
  case accounted => exact heffect.handed_eq

/-- Of all operations on a cell at most one claims it, which only an offer or a call for an initializer does, and
only if nothing has claimed the cell before. The cell holds what was published, if anything was; what is handed to
it is dropped when it is refused, or with the cell when it is published, and none of it twice. Only a wait for a
value that was not published, and a call for an initializer after one that halted, have no answer. -/
theorem cell_written_once (es : List (Event α)) (c : OnceCell α) (h : Runs .empty es c) :
    es.countP Event.claims ≤ 1 ∧
    (∀ earlier e later, es = earlier ++ e :: later → e.Fits earlier later) ∧
    es.filterMap Event.published? = c.contents ∧
    (es.flatMap Event.handed).Perm (es.flatMap (·.run.dropped) ++ c.contents) ∧
    ∀ op, c.step? op = none ↔ (op = .wait ∧ es.filterMap Event.published? = []) ∨
      (∃ init, op = .getOrInit init) ∧ ∃ e ∈ es, ∃ f, e.run.result = .fault f := by
  have hcontents : c.contents = es.filterMap Event.published? := h.contents_eq
  have hempty : c.get = none ↔ es.filterMap Event.published? = [] := by
    rw [← hcontents, contents, Option.toList_eq_nil_iff]
  have hclaimed : c = .claimed ↔ ∃ e ∈ es, ∃ f, e.run.result = .fault f := by
    rw [h.eq_claimed_iff]
    exact or_iff_right nofun
  refine ⟨h.countP_claims, ?_, hcontents.symm, ?_, ?_⟩
  · rintro earlier e later rfl
    exact h.fits
  · rw [hcontents]
    exact h.handed_perm
  · intro op
    rw [step?_eq_none_iff, hempty, hclaimed]

/-- An initializer offers a value to the cell that it is called for, and produces another. The offer and one that
comes later are refused and dropped; what is produced is seen, and dropped with the cell. A value can be waited
for in this cell, and not in one whose initializer halts. -/
theorem initializer_writes_once :
    (∃ (es : List (Event Nat)) (c : OnceCell Nat), Runs .empty es c ∧
      es.map (·.run.result) = [.value (some 5), .refused 7, .value (some 5)] ∧
      (∀ e ∈ es.tail, e.run.result = settledAnswer (some 5) e.op) ∧ es.countP Event.claims ≤ 1 ∧
      [9, 5, 7].Perm (es.flatMap (·.run.dropped) ++ c.contents) ∧ c.contents = [5] ∧ c.step? .wait ≠ none) ∧
    ∃ (es : List (Event Nat)) (c : OnceCell Nat), Runs .empty es c ∧
      es.map (·.run.result) = [.fault .overflow, .refused 7, .value none] ∧
      (∀ e ∈ es.tail, e.run.result = settledAnswer none e.op) ∧ c.contents = [] ∧ c.step? .wait = none := by
  constructor
  · have hrun : Runs (.empty : OnceCell Nat) [⟨.getOrInit (.set 9 fun _ => .produce 5), _, _⟩, ⟨.set 7, _, _⟩,
        ⟨.get, _, _⟩] _ := .cons rfl (.cons rfl (.cons rfl .nil))
    obtain ⟨honce, hfits, hcontents, hperm, hwait⟩ := cell_written_once _ _ hrun
    have hlater := ((hfits [] _ _ rfl).published 5 rfl).2
    refine ⟨_, _, hrun, rfl, hlater, honce, hperm, hcontents.symm, ?_⟩
    rw [ne_eq, hwait]
    rintro (⟨-, hnone⟩ | ⟨⟨init, hop⟩, -⟩)
    · cases hnone
    · cases hop
  · have hrun : Runs (.empty : OnceCell Nat) [⟨.getOrInit (.abandon .overflow), _, _⟩, ⟨.set 7, _, _⟩,
        ⟨.get, _, _⟩] _ := .cons rfl (.cons rfl (.cons rfl .nil))
    obtain ⟨-, hfits, hcontents, -, hwait⟩ := cell_written_once _ _ hrun
    have hlater := (hfits [] _ _ rfl).abandoned .overflow rfl
    exact ⟨_, _, hrun, rfl, hlater, hcontents.symm, (hwait .wait).2 (.inl ⟨rfl, rfl⟩)⟩

end SecureWorld.Sync.OnceCell
