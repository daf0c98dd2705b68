import Mathlib.Tactic.Common
import SecureWorld.Call.Dispatch

/-!
# The call protocol

`Exchange` says what a call comes to: one case for every way in which a call is not understood, none of which
knows the handlers, and one for the call that is served. `dispatch_iff_exchange` says that dispatching a list of
words behind a fresh cursor is this protocol and nothing else.
-/

namespace SecureWorld

variable {σ : Type} {t : ServiceTable (Secure σ)} {m : Machine σ} {words : List Word}

/-- The words that a handler of `arity` words is called with: those that were announced after the service
number, and after them zeros. -/
def handed (words : List Word) (argc arity : Nat) : List Word :=
  ((words.take argc).drop 1 ++ List.replicate arity 0).take arity

/-- The machine in which a handler is called: other numbers of words than the handler takes are traced. -/
def entered (service arity passed : Nat) (m : Machine σ) : Machine σ :=
  if arity = passed then m
  else m.log ⟨.trace, "tee_dispatch", "service " ++ toString service ++ " takes " ++ toString arity
    ++ " words, caller passed " ++ toString passed⟩

section Entered

variable {service arity passed : Nat}

/-- Entering a service is logged and leaves the memory as it was. -/
@[simp] lemma entered_memory : (entered service arity passed m).memory = m.memory := by
  unfold entered
  split <;> simp

/-- Entering a service leaves the table as it was. -/
@[simp] lemma entered_table : (entered service arity passed m).table = m.table := by
  unfold entered
  split <;> simp

/-- Entering a service leaves the platform as it was. -/
@[simp] lemma entered_platform : (entered service arity passed m).platform = m.platform := by
  unfold entered
  split <;> simp

/-- Entering a service leaves the devices as they were. -/
@[simp] lemma entered_devices : (entered service arity passed m).devices = m.devices := by
  unfold entered
  split <;> simp

/-- Entering a service leaves the bounds in force as they were. -/
@[simp] lemma entered_bounds : (entered service arity passed m).bounds = m.bounds := by
  unfold entered
  split <;> simp

end Entered

/-- What a handler ended with is passed on; an answer is traced. -/
def concluded (service : Nat) :
    EStateM.Result Fault (Machine σ) Word → EStateM.Result Fault (Machine σ) Word
  | .ok w m => .ok w (m.log ⟨.trace, "tee_dispatch", "service " ++ toString service ++ " returned "
    ++ Hex.lower w.toNat⟩)
  | .error f m => .error f m

/-- What is logged behind a service does not change what the service did to the memory. -/
lemma concluded_ok {service : Nat} {x : EStateM.Result Fault (Machine σ) Word} {w : Word} {m' : Machine σ}
    (h : concluded service x = .ok w m') : ∃ k, x = .ok w k ∧ m'.memory = k.memory := by
  cases x with
  | ok v k =>
    cases h
    exact ⟨k, rfl, Machine.memory_log ..⟩
  | error f k => cases h

/-- A call that is not understood is logged and answered with all bits set. -/
def refused (e : CallError) (m : Machine σ) : EStateM.Result Fault (Machine σ) Word :=
  .ok Word.callFailed (m.log ⟨.error, "tee_dispatch", e.message⟩)

/-- The calls of the protocol: the words behind the cursor, the cursor afterwards and the outcome. -/
inductive Exchange (t : ServiceTable (Secure σ)) (argc : Nat) (m : Machine σ) :
    List Word → WordCursor → EStateM.Result Fault (Machine σ) Word → Prop where
  | tooMany {words : List Word} : maxCallWords < argc →
    Exchange t argc m words ⟨words, 0, true⟩ (refused (.tooManyWords argc) m)
  | noWords {words : List Word} : argc = 0 →
    Exchange t argc m words ⟨words, 0, true⟩ (refused .missingService m)
  | noNumber : 0 < argc → argc ≤ maxCallWords →
    Exchange t argc m [] ⟨[], 0, true⟩ (refused .missingService m)
  | badNumber {w : Word} {ws : List Word} : 0 < argc → argc ≤ maxCallWords → serviceSlots ≤ w.toNat →
    Exchange t argc m (w :: ws) ⟨w :: ws, 1, true⟩ (refused (.invalidService w.toNat) m)
  | truncated {w : Word} {ws : List Word} : 0 < argc → argc ≤ maxCallWords → w.toNat < serviceSlots →
    (w :: ws).length < argc →
    Exchange t argc m (w :: ws) ⟨w :: ws, (w :: ws).length, true⟩
      (refused (.truncated (argc - 1) ws.length) m)
  | served {w : Word} {ws : List Word} : 0 < argc → argc ≤ maxCallWords → w.toNat < serviceSlots →
    argc ≤ (w :: ws).length →
    Exchange t argc m (w :: ws) ⟨w :: ws, argc, true⟩
      (concluded w.toNat
        (Curried.apply (t.lookup w.toNat).arity (t.lookup w.toNat).run
          (handed (w :: ws) argc (t.lookup w.toNat).arity)
          (entered w.toNat (t.lookup w.toNat).arity (argc - 1) m)))

/-- An argument word of a call; missing words are zero. -/
def CallRequest.word (r : CallRequest) (i : Nat) : Word :=
  r.argv.args.getD i 0

/-- A function of one more argument takes the first word, or zero if there is none. -/
lemma Curried.apply_succ {α : Type} {n : Nat} {f : Curried (n + 1) α} {ws : List Word} :
    Curried.apply (n + 1) f ws = Curried.apply n (f (ws.getD 0 0)) ws.tail := by
  cases ws <;> rfl

/-- A position behind the first word is one less in the rest of the words. -/
lemma getD_tail {ws : List Word} {i : Nat} : ws.tail.getD i 0 = ws.getD (i + 1) 0 := by
  cases ws <;> rfl

/-- Zeros in the place of missing words make no difference, nor do surplus words. -/
lemma Curried.apply_padded {α : Type} (n : Nat) (f : Curried n α) (ws : List Word) :
    Curried.apply n f ((ws ++ List.replicate n 0).take n) = Curried.apply n f ws := by
  induction n generalizing ws with
  | zero => rfl
  | succ n ih =>
    cases ws with
    | nil => exact ih (f 0) []
    | cons w ws =>
      have htake : (ws ++ List.replicate (n + 1) 0).take n = (ws ++ List.replicate n 0).take n := by
        rw [List.take_append, List.take_append, List.take_replicate, List.take_replicate]
        congr 2
        omega
      show Curried.apply n (f w) ((ws ++ List.replicate (n + 1) 0).take n) = Curried.apply n (f w) ws
      rw [htake, ih]

/-- A cursor over a list gives the word at its position and moves on. -/
lemma WordCursor.next_of_getElem? {k : Nat} {w : Word} (h : words[k]? = some w) :
    Cursor.next (⟨words, k, false⟩ : WordCursor) = (some w, ⟨words, k + 1, false⟩) := by
  show WordCursor.next _ = _
  rw [WordCursor.next, if_neg Bool.false_ne_true]
  dsimp only
  rw [h]

/-- A cursor behind the last word of a list gives nothing and stays. -/
lemma WordCursor.next_of_none {k : Nat} (h : words[k]? = none) :
    Cursor.next (⟨words, k, false⟩ : WordCursor) = (none, ⟨words, k, false⟩) := by
  show WordCursor.next _ = _
  rw [WordCursor.next, if_neg Bool.false_ne_true]
  dsimp only
  rw [h]

/-- A cursor over a list reads the words that are left, as many as are asked for, and moves on by as many as
it reads. -/
lemma readWords_list {k n : Nat} (hk : k ≤ words.length) :
    readWords (⟨words, k, false⟩ : WordCursor) n =
      ((words.drop k).take n, ⟨words, min (k + n) words.length, false⟩) := by
  induction n generalizing k with
  | zero =>
    rw [readWords, Nat.add_zero, Nat.min_eq_left hk]
    rfl
  | succ n ih =>
    rw [readWords]
    cases hw : words[k]? with
    | none =>
      -- the list has ended, and nothing more is read
      have hlen := List.getElem?_eq_none_iff.1 hw
      rw [WordCursor.next_of_none hw, List.drop_eq_nil_of_le hlen, Nat.min_eq_right (by omega),
        show words.length = k by omega]
      rfl
    | some w =>
      obtain ⟨hlt, rfl⟩ := List.getElem?_eq_some_iff.1 hw
      rw [WordCursor.next_of_getElem? hw]
      dsimp only
      rw [ih hlt, List.drop_eq_getElem_cons hlt, show k + 1 + n = k + (n + 1) by omega]
      rfl

section Decoding

variable {γ : Type} [Cursor γ] {c : γ} {count argc : Nat} {w : Word} {ws : List Word}

/-- Words that end early are reported with their number and the number that was asked for. -/
lemma marshal_short {args : List Word} {c' : γ} (hread : readWords c count = (args, c'))
    (hcount : count ≤ maxCallWords) (h : args.length < count) :
    marshal c count = (.error (.truncated count args.length), c') := by
  unfold marshal
  rw [dif_neg (Nat.not_lt.2 hcount)]
  split
  next e =>
    cases hread.symm.trans e
    rw [if_pos h]

/-- As many words as were asked for fill the buffer. -/
lemma marshal_full {args : List Word} {c' : γ} (hread : readWords c count = (args, c'))
    (hcount : count ≤ maxCallWords) (h : count ≤ args.length) :
    ∃ b, marshal c count = (.ok b, c') ∧ b.args = args := by
  unfold marshal
  rw [dif_neg (Nat.not_lt.2 hcount)]
  split
  next e =>
    cases hread.symm.trans e
    rw [if_neg (Nat.not_lt.2 h)]
    exact ⟨_, rfl, rfl⟩

/-- A call with too many words is refused before the cursor is moved. -/
lemma decode_tooMany (h : maxCallWords < argc) :
    CallRequest.decode (WordCursor.ofList words) argc = (.error (.tooManyWords argc), ⟨words, 0, true⟩) := by
  rw [CallRequest.decode, CallRequest.decodeWords, if_pos h]
  rfl

/-- A call without words is refused before the cursor is moved. -/
lemma decode_noWords :
    CallRequest.decode (WordCursor.ofList words) 0 = (.error .missingService, ⟨words, 0, true⟩) := by
  rw [CallRequest.decode, CallRequest.decodeWords, if_neg (by decide), if_pos rfl]
  rfl

/-- A call whose first word is missing is refused. -/
lemma decode_noNumber (hpos : 0 < argc) (hmax : argc ≤ maxCallWords) :
    CallRequest.decode (WordCursor.ofList []) argc = (.error .missingService, ⟨[], 0, true⟩) := by
  rw [CallRequest.decode, CallRequest.decodeWords, if_neg (by omega), if_neg (by omega)]
  rfl

/-- A number without a slot is refused behind the first word. -/
lemma decode_badNumber (hpos : 0 < argc) (hmax : argc ≤ maxCallWords) (hw : serviceSlots ≤ w.toNat) :
    CallRequest.decode (WordCursor.ofList (w :: ws)) argc =
      (.error (.invalidService w.toNat), ⟨w :: ws, 1, true⟩) := by
  have hnext : Cursor.next (WordCursor.ofList (w :: ws)) = (some w, ⟨w :: ws, 1, false⟩) := rfl
  rw [CallRequest.decode, CallRequest.decodeWords, if_neg (by omega), if_neg (by omega), hnext]
  dsimp only
  rw [if_pos hw]
  rfl

/-- The words behind the first one, as far as there are any. -/
lemma readWords_tail {n : Nat} :
    readWords (⟨w :: ws, 1, false⟩ : WordCursor) n =
      (ws.take n, ⟨w :: ws, min (n + 1) (w :: ws).length, false⟩) := by
  rw [readWords_list (by simp), Nat.add_comm 1 n]
  rfl

/-- A call that announces more words than there are is refused behind the last one. -/
lemma decode_truncated (hpos : 0 < argc) (hmax : argc ≤ maxCallWords) (hw : w.toNat < serviceSlots)
    (hlen : (w :: ws).length < argc) :
    CallRequest.decode (WordCursor.ofList (w :: ws)) argc =
      (.error (.truncated (argc - 1) ws.length), ⟨w :: ws, (w :: ws).length, true⟩) := by
  have hnext : Cursor.next (WordCursor.ofList (w :: ws)) = (some w, ⟨w :: ws, 1, false⟩) := rfl
  rw [List.length_cons] at hlen
  have hread : readWords (⟨w :: ws, 1, false⟩ : WordCursor) (argc - 1) =
      (ws, ⟨w :: ws, (w :: ws).length, false⟩) := by
    rw [readWords_tail, List.take_of_length_le (by omega), Nat.min_eq_right (by rw [List.length_cons]; omega)]
  rw [CallRequest.decode, CallRequest.decodeWords, if_neg (by omega), if_neg (by omega), hnext]
  dsimp only
  rw [if_neg (Nat.not_le.2 hw), marshal_short hread (by omega) (by omega)]
  rfl

/-- All other calls are decoded into the first word and the words behind it, as many as were announced. -/
lemma decode_served (hpos : 0 < argc) (hmax : argc ≤ maxCallWords) (hw : w.toNat < serviceSlots)
    (hlen : argc ≤ (w :: ws).length) :
    ∃ r, CallRequest.decode (WordCursor.ofList (w :: ws)) argc = (.ok r, ⟨w :: ws, argc, true⟩) ∧
      r.service = w.toNat ∧ r.argv.args = ws.take (argc - 1) := by
  have hnext : Cursor.next (WordCursor.ofList (w :: ws)) = (some w, ⟨w :: ws, 1, false⟩) := rfl
  have hread : readWords (⟨w :: ws, 1, false⟩ : WordCursor) (argc - 1) =
      (ws.take (argc - 1), ⟨w :: ws, argc, false⟩) := by
    rw [readWords_tail, Nat.sub_add_cancel hpos, Nat.min_eq_left hlen]
  rw [List.length_cons] at hlen
  obtain ⟨b, hb, hargs⟩ := marshal_full hread (by omega) (by rw [List.length_take]; omega)
  refine ⟨⟨w.toNat, b⟩, ?_, rfl, hargs⟩
  rw [CallRequest.decode, CallRequest.decodeWords, if_neg (by omega), if_neg (by omega), hnext]
  dsimp only
  rw [if_neg (Nat.not_le.2 hw), hb]
  rfl

end Decoding

/-- A call that was understood calls one handler, once. -/
lemma CallRequest.serve_eq (r : CallRequest) :
    r.serve t m = concluded r.service ((t.lookup r.service).call r.argv.args
      (entered r.service (t.lookup r.service).arity r.argv.args.length m)) := by
  have hlast (h : Handler (Secure σ)) (k : Machine σ) :
      (do
        let ret ← h.call r.argv.args
        log .trace "tee_dispatch" ("service " ++ toString r.service ++ " returned " ++ Hex.lower ret.toNat)
        return ret : Secure σ Word) k = concluded r.service (h.call r.argv.args k) := by
    show EStateM.bind _ _ k = _
    unfold EStateM.bind
    cases h.call r.argv.args k <;> rfl
  rw [← hlast]
  unfold CallRequest.serve entered
  by_cases h : (t.lookup r.service).arity = r.argv.args.length
  · dsimp only
    rw [if_neg (not_not_intro h), if_pos h]
  · dsimp only
    rw [if_pos h, if_neg h]
    rfl

/-- A call that is refused is answered without a service. -/
lemma dispatch_of_error {γ : Type} [Cursor γ] {c c' : γ} {argc : Nat} {e : CallError}
    (h : CallRequest.decode c argc = (.error e, c')) :
    (dispatch t c argc).1 = c' ∧ (dispatch t c argc).2 m = refused e m := by
  unfold dispatch
  rw [h]
  exact ⟨rfl, rfl⟩

/-- A call that is decoded is answered by the service in the slot that it names. -/
lemma dispatch_of_ok {γ : Type} [Cursor γ] {c c' : γ} {argc : Nat} {r : CallRequest}
    (h : CallRequest.decode c argc = (.ok r, c')) :
    (dispatch t c argc).1 = c' ∧
      (dispatch t c argc).2 m = concluded r.service ((t.lookup r.service).call r.argv.args
        (entered r.service (t.lookup r.service).arity r.argv.args.length m)) := by
  unfold dispatch
  rw [h]
  exact ⟨rfl, r.serve_eq⟩

namespace Exchange

variable {argc : Nat} {c : WordCursor} {r : EStateM.Result Fault (Machine σ) Word}

/-- Every call is exchanged for something. -/
lemma total (t : ServiceTable (Secure σ)) (argc : Nat) (m : Machine σ) (words : List Word) :
    ∃ c r, Exchange t argc m words c r := by
  by_cases hmax : maxCallWords < argc
  · exact ⟨_, _, tooMany hmax⟩
  by_cases hzero : argc = 0
  · exact ⟨_, _, noWords hzero⟩
  have hpos : 0 < argc := by omega
  have hmax : argc ≤ maxCallWords := by omega
  cases words with
  | nil => exact ⟨_, _, noNumber hpos hmax⟩
  | cons w ws =>
    by_cases hw : serviceSlots ≤ w.toNat
    · exact ⟨_, _, badNumber hpos hmax hw⟩
    by_cases hlen : (w :: ws).length < argc
    · exact ⟨_, _, truncated hpos hmax (by omega) hlen⟩
    · exact ⟨_, _, served hpos hmax (by omega) (by omega)⟩

/-- What an exchange says is what dispatching does. -/
lemma dispatch_eq (h : Exchange t argc m words c r) :
    (dispatch t (WordCursor.ofList words) argc).1 = c ∧ (dispatch t (WordCursor.ofList words) argc).2 m = r := by
  cases h with
  | tooMany h => exact dispatch_of_error (decode_tooMany h)
  | noWords h =>
    subst h
    exact dispatch_of_error decode_noWords
  | noNumber hpos hmax => exact dispatch_of_error (decode_noNumber hpos hmax)
  | badNumber hpos hmax hw => exact dispatch_of_error (decode_badNumber hpos hmax hw)
  | truncated hpos hmax hw hlen => exact dispatch_of_error (decode_truncated hpos hmax hw hlen)
  | @served w ws hpos hmax hw hlen =>
    obtain ⟨q, hq, hservice, hargs⟩ := decode_served hpos hmax hw hlen
    have hhanded : (List.take argc (w :: ws)).drop 1 = q.argv.args := by
      obtain ⟨k, rfl⟩ : ∃ k, argc = k + 1 := ⟨argc - 1, by omega⟩
      rw [hargs]
      rfl
    have hpassed : q.argv.args.length = argc - 1 := by
      rw [hargs, List.length_take]
      rw [List.length_cons] at hlen
      omega
    -- the padding of `handed` is what a handler reads in the place of missing words
    have hd := dispatch_of_ok (t := t) (m := m) hq
    rwa [hservice, hpassed, Handler.call, ← Curried.apply_padded, ← hhanded] at hd

end Exchange

/-- Dispatching a list of words behind a fresh cursor is the protocol: every call is one of its exchanges, with
the cursor and the outcome that the exchange says, and with no other. In all of them the cursor is closed, and
it does not depend on the machine in which the call is carried out afterwards. -/
theorem dispatch_iff_exchange (t : ServiceTable (Secure σ)) (words : List Word) (argc : Nat) (m : Machine σ)
    (c : WordCursor) (r : EStateM.Result Fault (Machine σ) Word) :
    (dispatch t (WordCursor.ofList words) argc).1 = c ∧ (dispatch t (WordCursor.ofList words) argc).2 m = r ↔
      Exchange t argc m words c r := by
  constructor
  · rintro ⟨rfl, rfl⟩
    obtain ⟨c, r, h⟩ := Exchange.total t argc m words
    obtain ⟨hc, hr⟩ := h.dispatch_eq
    rwa [hc, hr]
  · exact Exchange.dispatch_eq

end SecureWorld
