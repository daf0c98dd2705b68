import SecureWorld.Device.BenchGate
import SecureWorld.Proofs.Answers
import SecureWorld.Proofs.Cursor

/-!
# Calls through a gate

The open side and the dispatcher agree on the words of a call. A gate *passes* calls if it puts their words into
memory and enters the dispatcher with them, once. `Gate.Passes.call_eq` says what one call through such a gate
comes to; the operations on 32-bit numbers, and the sum that is made of many calls, follow from it for every
such gate.
-/

namespace SecureWorld

variable {σ α β : Type} {D : Drivers σ} {m : Machine σ} {args : List Word}

/-- A gate that stores the words of a call in the memory of a caller and enters the dispatcher with their number
and their address. What else it does to the machine before, such as keeping a record, is `before`. -/
def Gate.Passes (g : Gate σ) (D : Drivers σ) (before : List Word → Machine σ → Machine σ) : Prop :=
  ∀ words m, words.length ≤ maxCallWords → ∃ caller address, caller.Stores address words ∧
    g.enter words m = SecureWorld.enter D (UInt64.ofNat words.length) caller address (before words m)

/-- The gate that enters the dispatcher behind no other step passes its calls. -/
lemma Gate.direct_passes {address frame : Word} (hzero : address ≠ 0)
    (hfits : address.toNat + 8 * maxCallWords ≤ 0x10000000000000000) :
    (Gate.direct D address frame).Passes D fun _ m => m := by
  intro words m hmax
  refine ⟨callerMemory address words, address, callerMemory_stores hzero ?_, rfl⟩
  omega

/-- The machine after a gate of the bench has recorded a call. -/
def Bench.recorded (words : List Word) (m : Machine Bench) : Machine Bench :=
  { m with devices := { m.devices with crossings := .call words :: m.devices.crossings } }

/-- The gate of the bench passes its calls and records them before. -/
lemma Bench.liveGate_passes : liveGate.Passes drivers recorded := by
  have hdirect : (Gate.direct drivers wordsAddress frameAddress).Passes drivers fun _ m => m :=
    Gate.direct_passes (by decide) (by decide)
  intro words m hmax
  exact hdirect words (recorded words m) hmax

/-- Words that are stored and announced as they are are dispatched as the list of them. -/
lemma Memory.Stores.enter_eq {caller : Memory} {address : Word} {words : List Word}
    (h : caller.Stores address words) :
    enter D (UInt64.ofNat words.length) caller address =
      (dispatch (serviceTable D) (WordCursor.ofList words) words.length).2 := by
  have hlen : (UInt64.ofNat words.length).toNat = words.length := by
    have := h.fits
    rw [UInt64.toNat_ofNat']
    omega
  rw [enter, hlen]
  exact (h.reads.sameCall (.inl (Nat.le_refl _))).answer

/-- The slot of a service holds its handler. -/
lemma resolve_number (s : ServiceId) : (serviceTable D).resolve s.number = some (s.handler D) := by
  rw [resolve_serviceTable s.number_lt, ServiceId.ofNumber?_number]
  rfl

/-- A handler is handed all words of a call that announces them all, and zeros behind them. -/
lemma handed_all {w : Word} {arity : Nat} :
    handed (w :: args) (args.length + 1) arity = (args ++ List.replicate arity 0).take arity := by
  show (((w :: args).take (w :: args).length).drop 1 ++ _).take arity = _
  rw [List.take_length]
  rfl

/-- A list of words that begins with the number of a service calls the handler of this service. -/
lemma dispatch_number {s : ServiceId} (hmax : args.length < maxCallWords) :
    (dispatch (serviceTable D) (WordCursor.ofList (UInt64.ofNat s.number :: args)) (args.length + 1)).2 m =
      concluded s.number ((s.handler D).call ((args ++ List.replicate s.arity 0).take s.arity)
        (entered s.number s.arity args.length m)) := by
  have hlt : s.number < serviceSlots := s.number_lt
  have hnumber : (UInt64.ofNat s.number).toNat = s.number :=
    UInt64.toNat_ofNat_of_lt' (Nat.lt_trans hlt (by decide))
  have hslot : (UInt64.ofNat s.number).toNat < serviceSlots := by rwa [hnumber]
  have hpos : 0 < args.length + 1 := Nat.succ_pos _
  rw [dispatch_served hpos hmax hslot (Nat.le_refl _), hnumber, ServiceId.serving_number,
    handed_all, Nat.add_sub_cancel]

/-- A call through a gate that passes it is served by the handler of the service, which finds zeros in the place
of missing words and no surplus ones. -/
lemma Gate.Passes.call_eq {g : Gate σ} {before : List Word → Machine σ → Machine σ} (hg : g.Passes D before)
    {s : ServiceId} (hmax : args.length < maxCallWords) :
    g.call s args m = concluded s.number ((s.handler D).call ((args ++ List.replicate s.arity 0).take s.arity)
      (entered s.number s.arity args.length (before (UInt64.ofNat s.number :: args) m))) := by
  obtain ⟨caller, address, hstores, henter⟩ := hg (UInt64.ofNat s.number :: args) m hmax
  rw [call, if_neg (Nat.not_lt.2 hmax), henter, hstores.enter_eq]
  exact dispatch_number hmax

/-- Too many words are not sent but noted in the log. -/
lemma Gate.call_tooMany {g : Gate σ} {s : ServiceId} (hmax : maxCallWords ≤ args.length) :
    g.call s args m = .ok Word.callFailed (m.log ⟨.warn, "tee_client", s.name ++ " takes at most "
      ++ toString maxCallWords ++ " words, got " ++ toString (args.length + 1)⟩) := by
  rw [call, if_pos (Nat.lt_succ_of_le hmax)]
  rfl

/-- An action that answers the same on every machine. -/
def Answers (x : Secure σ α) (a : α) : Prop :=
  ∀ m, ∃ m', x m = .ok a m'

/-- A value that is returned is the answer. -/
lemma Answers.pure {a : α} : Answers (Pure.pure a : Secure σ α) a :=
  fun m => ⟨m, rfl⟩

/-- Answers are put together like the steps that give them. -/
lemma Answers.bind {x : Secure σ α} {f : α → Secure σ β} {a : α} {b : β} (hx : Answers x a)
    (hf : Answers (f a) b) : Answers (x >>= f) b := by
  intro m
  obtain ⟨m₁, h₁⟩ := hx m
  obtain ⟨m₂, h₂⟩ := hf m₁
  exact ⟨m₂, bind_ok_iff.2 ⟨a, m₁, h₁, h₂⟩⟩

/-- What the operations through a gate compute, on numbers of 32 bits. -/
structure Gate.Computes (g : Gate σ) : Prop where
  add (a b : UInt32) : ∃ r, Answers (g.add a b) r ∧ r.toNat = (a.toNat + b.toNat) % 0x100000000
  subtract (a b : UInt32) :
    ∃ r, Answers (g.subtract a b) r ∧ (r.toNat : Int) = (a.toNat - b.toNat) % 0x100000000
  multiply (a b : UInt32) : ∃ r, Answers (g.multiply a b) r ∧ r.toNat = a.toNat * b.toNat % 0x100000000
  divide (a b : UInt32) : ∃ r, Answers (g.divide a b) r ∧ r.toNat = if b = 0 then 0 else a.toNat / b.toNat
  addRepeatedly (a b : UInt32) (n : Nat) :
    ∃ r, Answers (g.addRepeatedly a b n) r ∧ r.toNat = (a.toNat + n * b.toNat) % 0x100000000

namespace Gate.Passes

variable {g : Gate σ} {before : List Word → Machine σ → Machine σ} {a b : UInt32}

/-- A service that applies a function to the low halves of two words answers its value through the gate. -/
lemma operation (hg : g.Passes D before) {s : ServiceId} {f : UInt32 → UInt32 → UInt32}
    (hs : s.handler D = ⟨2, fun v w => (pure (f v.toUInt32 w.toUInt32).toUInt64 : Secure σ Word)⟩) :
    Answers (return (← g.call s [a.toUInt64, b.toUInt64]).toUInt32) (f a b) := by
  refine .bind (a := (f a.toUInt64.toUInt32 b.toUInt64.toUInt32).toUInt64) (fun m => ?_) ?_
  · have harity : s.arity = 2 := by rw [← s.arity_handler D, hs]
    have hmax : [a.toUInt64, b.toUInt64].length < maxCallWords := (by decide : 2 < 10)
    rw [hg.call_eq hmax, hs, harity]
    exact ⟨_, rfl⟩
  · simp only [UInt32.toUInt32_toUInt64]
    exact .pure

/-- A sum is answered modulo 2^32. -/
lemma add_answers (hg : g.Passes D before) : Answers (g.add a b) (a + b) :=
  hg.operation rfl

/-- Repeated addition is answered by the sum modulo 2^32. -/
lemma addRepeatedly_answers (hg : g.Passes D before) (a b : UInt32) (n : Nat) :
    ∃ r, Answers (g.addRepeatedly a b n) r ∧ r.toNat = (a.toNat + n * b.toNat) % 0x100000000 := by
  induction n generalizing a with
  | zero =>
    refine ⟨a, .pure, ?_⟩
    rw [Nat.zero_mul, Nat.add_zero, Nat.mod_eq_of_lt a.toNat_lt]
  | succ n ih =>
    -- the first call narrows its sum to 32 bits, which the remaining ones do not notice
    have hsum : ((a + b).toNat + n * b.toNat) % 0x100000000 = (a.toNat + (n + 1) * b.toNat) % 0x100000000 := by
      rw [UInt32.toNat_add, Nat.mod_add_mod, Nat.succ_mul, Nat.add_assoc, Nat.add_comm b.toNat]
    obtain ⟨r, hr, hvalue⟩ := ih (a + b)
    exact ⟨r, hg.add_answers.bind hr, hvalue.trans hsum⟩

/-- All four operations are computed through a gate that passes its calls. -/
lemma computes (hg : g.Passes D before) : g.Computes where
  add a b := ⟨a + b, hg.add_answers, UInt32.toNat_add a b⟩
  subtract a b := by
    refine ⟨a - b, hg.operation rfl, ?_⟩
    have ha := a.toNat_lt
    have hb := b.toNat_lt
    rw [UInt32.toNat_sub]
    omega
  multiply a b := ⟨a * b, hg.operation rfl, UInt32.toNat_mul a b⟩
  divide a b := by
    refine ⟨if b = 0 then 0 else a / b, hg.operation (f := fun a b => if b = 0 then 0 else a / b) rfl, ?_⟩
    split
    · rfl
    · exact UInt32.toNat_div a b
  addRepeatedly := hg.addRepeatedly_answers

/-- The open side and the dispatcher agree on every call. Through a gate that passes its words, a call with at
most nine arguments enters the gate once, so that what the gate does before happens once, and comes to what the
handler in the slot of the service comes to, which is handed as many words as it takes: the arguments, cut or
filled up with zeros. The service of slot 0 halts. A call with more arguments does not enter the gate: it is
answered with all bits set and leaves the machine as it is, but for a warning. What the operations compute
follows, and so does the sum that takes a call for each step. -/
theorem calls_agree (hg : g.Passes D before) :
    (∀ (s : ServiceId) (args : List Word) (m : Machine σ), args.length ≤ 9 →
      ∃ h, (serviceTable D).resolve s.number = some h ∧ h.arity = s.arity ∧
        g.call s args m = concluded s.number (h.call ((args ++ List.replicate h.arity 0).take h.arity)
          (entered s.number h.arity args.length (before (UInt64.ofNat s.number :: args) m)))) ∧
    (∀ (args : List Word) (m : Machine σ), args.length ≤ 9 →
      ∃ m', g.call .invalid args m = .error .invalidService m') ∧
    (∀ (s : ServiceId) (args : List Word) (m : Machine σ), 10 ≤ args.length →
      ∃ line, g.call s args m = .ok 0xFFFFFFFFFFFFFFFF (m.log line)) ∧
    g.Computes := by
  refine ⟨fun s args m hlen => ?_, fun args m hlen => ?_, fun s args m hlen => ?_, hg.computes⟩
  · refine ⟨s.handler D, resolve_number s, s.arity_handler D, ?_⟩
    rw [hg.call_eq (Nat.lt_succ_of_le hlen), s.arity_handler D]
  · rw [hg.call_eq (Nat.lt_succ_of_le hlen)]
    exact ⟨_, rfl⟩
  · exact ⟨_, call_tooMany hlen⟩

/-- Through the live gate of the bench a sum with one argument too many is the sum of the first two, and the gate
has seen one call. Three steps from seven by the number below `2 ^ 32` come to four. -/
theorem live_calls_agree :
    Bench.liveGate.Passes Bench.drivers Bench.recorded ∧
    (∃ m', Bench.liveGate.call .add [2, 3, 4] (.powerUp .initial) = .ok 5 m' ∧
      m'.devices.crossings = [.call [46, 2, 3, 4]]) ∧
    Answers (Bench.liveGate.addRepeatedly 7 0xFFFFFFFF 3) 4 := by
  obtain ⟨hcall, -, -, hcomputes⟩ := calls_agree Bench.liveGate_passes
  refine ⟨Bench.liveGate_passes, ?_, ?_⟩
  · obtain ⟨h, hslot, -, heq⟩ := hcall .add [2, 3, 4] (.powerUp .initial) (by decide)
    rw [resolve_number] at hslot
    cases hslot
    exact ⟨_, heq, rfl⟩
  · obtain ⟨r, hr, hvalue⟩ := hcomputes.addRepeatedly 7 0xFFFFFFFF 3
    rwa [show r = 4 from UInt32.toNat_inj.1 hvalue] at hr

end Gate.Passes

end SecureWorld
