import SecureWorld.Client
import SecureWorld.Device.Bench
import SecureWorld.Proofs.Protocol

/-!
# Cursors that read alike

A reader cannot tell two cursors apart that give it the same words. `Simulation` is the relation between such
cursors, for as many words as may still be read, and `Simulation.decode_eq` says that calls are decoded alike.
`Reads` relates the cursor over a memory to the cursor over the list of the words that are stored there, and
`sameCall_of_stores` says what follows for calls: what is read of a memory is the announced words and nothing
behind them.
-/

namespace SecureWorld

/-- A buffer is known by the arguments in it. -/
lemma ArgBuffer.ext {b b' : ArgBuffer} (h : b.args = b'.args) : b = b' := by
  cases b
  cases b'
  cases h
  rfl

namespace Cursor

variable {γ δ : Type} [Cursor γ] [Cursor δ]

/-- What a reader does with a cursor. -/
inductive Move where
  | next
  | finish
deriving DecidableEq

/-- The answers of a cursor to a reader that makes some moves. -/
def answers {γ : Type} [Cursor γ] (c : γ) : List Move → List (Option Word)
  | [] => []
  | .next :: moves => (next c).1 :: answers (next c).2 moves
  | .finish :: moves => answers (finish c) moves

/-- The cursors of a type that have been closed, which give no word and stay as they are. -/
structure Shut (closed : γ → Prop) : Prop where
  finish (c : γ) : closed (Cursor.finish c)
  next {c : γ} : closed c → Cursor.next c = (none, c)

namespace Shut

variable {closed : γ → Prop} {c : γ}

/-- A closed cursor answers every reader with nothing. -/
lemma answers_of_closed (hs : Shut closed) (h : closed c) (moves : List Move) :
    answers c moves = List.replicate (moves.count .next) none := by
  induction moves generalizing c with
  | nil => rfl
  | cons move moves ih =>
    cases move with
    | next => rw [answers, hs.next h, ih h, List.count_cons_self, List.replicate_succ]
    | finish => exact ih (hs.finish c)

/-- Whatever a reader has done before, once it has closed the cursor there are no words. -/
lemma answers_append (hs : Shut closed) (c : γ) (moves later : List Move) :
    answers c (moves ++ .finish :: later) = answers c moves ++ List.replicate (later.count .next) none := by
  induction moves generalizing c with
  | nil => exact hs.answers_of_closed (hs.finish c) later
  | cons move moves ih =>
    cases move with
    | next => exact congrArg ((Cursor.next c).1 :: ·) (ih (Cursor.next c).2)
    | finish => exact ih (Cursor.finish c)

end Shut

/-- Cursors that are related for a number of words give the same word and are related for one word less. Once
they are closed they are related for any number. -/
structure Simulation (R : Nat → γ → δ → Prop) : Prop where
  next {n : Nat} {c : γ} {d : δ} : R (n + 1) c d →
    (Cursor.next c).1 = (Cursor.next d).1 ∧ R n (Cursor.next c).2 (Cursor.next d).2
  finish {n : Nat} {c : γ} {d : δ} : R n c d → ∀ k, R k (Cursor.finish c) (Cursor.finish d)

namespace Simulation

variable {R : Nat → γ → δ → Prop} {n k argc : Nat} {c : γ} {d : δ}

/-- Related cursors give a reader the same answers, as long as it asks for no more words than they are related for. -/
lemma answers_eq (hR : Simulation R) (h : R n c d) {moves : List Move} (hn : moves.count .next ≤ n) :
    answers c moves = answers d moves := by
  induction moves generalizing n c d with
  | nil => rfl
  | cons move moves ih =>
    cases move with
    | next =>
      rw [List.count_cons_self] at hn
      obtain ⟨n, rfl⟩ : ∃ k, n = k + 1 := ⟨n - 1, by omega⟩
      obtain ⟨hword, hrest⟩ := hR.next h
      rw [answers, answers, hword, ih hrest (by omega)]
    | finish =>
      rw [answers, answers, ih (hR.finish h (moves.count .next)) (Nat.le_refl _)]

/-- The same words are read from related cursors. -/
lemma readWords_eq (hR : Simulation R) (h : R n c d) (hk : k ≤ n) :
    (readWords c k).1 = (readWords d k).1 ∧ ∃ j, R j (readWords c k).2 (readWords d k).2 := by
  induction k generalizing n c d with
  | zero => exact ⟨rfl, n, h⟩
  | succ k ih =>
    obtain ⟨n, rfl⟩ : ∃ j, n = j + 1 := ⟨n - 1, by omega⟩
    obtain ⟨hword, hrest⟩ := hR.next h
    unfold readWords
    generalize Cursor.next c = p at hword hrest
    generalize Cursor.next d = q at hword hrest
    obtain ⟨w, c'⟩ := p
    obtain ⟨v, d'⟩ := q
    cases hword
    cases w with
    | none => exact ⟨rfl, n, hrest⟩
    | some w =>
      obtain ⟨hwords, hj⟩ := ih hrest (by omega)
      exact ⟨congrArg (w :: ·) hwords, hj⟩

/-- The same buffer is filled from related cursors. -/
lemma marshal_eq (hR : Simulation R) (h : R n c d) (hk : k ≤ n) (hmax : k ≤ maxCallWords) :
    (marshal c k).1 = (marshal d k).1 ∧ ∃ j, R j (marshal c k).2 (marshal d k).2 := by
  obtain ⟨hwords, hj⟩ := hR.readWords_eq h hk
  by_cases hlen : (readWords c k).1.length < k
  · rw [marshal_short (c := c) rfl hmax hlen, marshal_short (c := d) rfl hmax (hwords ▸ hlen), hwords]
    exact ⟨rfl, hj⟩
  · obtain ⟨b, hb, hargs⟩ := marshal_full (c := c) rfl hmax (Nat.not_lt.1 hlen)
    obtain ⟨b', hb', hargs'⟩ := marshal_full (c := d) rfl hmax (Nat.not_lt.1 (hwords ▸ hlen))
    have heq : b = b' := ArgBuffer.ext (hargs.trans (hwords.trans hargs'.symm))
    rw [hb, hb', heq]
    exact ⟨rfl, hj⟩

/-- Of two cursors that are related for the announced words the same call is decoded, and of any two cursors if
too many words are announced. -/
lemma decode_eq (hR : Simulation R) (h : R n c d) (hn : argc ≤ n ∨ maxCallWords < argc) :
    (CallRequest.decode c argc).1 = (CallRequest.decode d argc).1 := by
  show (CallRequest.decodeWords c argc).1 = (CallRequest.decodeWords d argc).1
  unfold CallRequest.decodeWords
  split
  · rfl
  next hmax =>
  split
  · rfl
  next hzero =>
  obtain ⟨n, rfl⟩ : ∃ k, n = k + 1 := ⟨n - 1, by omega⟩
  -- the first word names the service
  obtain ⟨hword, hrest⟩ := hR.next h
  generalize Cursor.next c = p at hword hrest
  generalize Cursor.next d = q at hword hrest
  obtain ⟨w, c'⟩ := p
  obtain ⟨v, d'⟩ := q
  cases hword
  cases w with
  | none => rfl
  | some w =>
    dsimp only
    split
    · rfl
    -- the other words are its arguments
    obtain ⟨hargs, -⟩ := hR.marshal_eq hrest (k := argc - 1) (by omega) (by omega)
    generalize marshal c' (argc - 1) = p at hargs
    generalize marshal d' (argc - 1) = q at hargs
    obtain ⟨x, c''⟩ := p
    obtain ⟨y, d''⟩ := q
    cases hargs
    cases x <;> rfl

end Simulation

end Cursor

namespace Memory

variable {memory : Memory} {address a w : Word} {words ws : List Word}

/-- The word of a memory at an address. -/
def word (memory : Memory) (a : Nat) : Word :=
  UInt64.ofNat (memory.readNat a 8)

/-- Words stored one after the other, from an address other than zero on and without running over the end of the
address space. -/
structure Stores (memory : Memory) (address : Word) (words : List Word) : Prop where
  ne_zero : address ≠ 0
  fits : address.toNat + 8 * words.length ≤ 0x10000000000000000
  word : ∀ i (hi : i < words.length), memory.word (address.toNat + 8 * i) = words[i]

/-- Words that a cursor finds when it moves on from word to word. -/
inductive Runs (memory : Memory) : Word → List Word → Prop where
  | nil {a : Word} : Runs memory a []
  | cons {a w : Word} {ws : List Word} : a ≠ 0 → memory.word a.toNat = w → Runs memory (a + 8) ws →
    Runs memory a (w :: ws)

/-- Words behind the first one are stored eight bytes further. -/
lemma Stores.tail {v : Word} (h : memory.Stores address (w :: v :: ws)) :
    memory.Stores (address + 8) (v :: ws) := by
  obtain ⟨-, hfits, hword⟩ := h
  simp only [List.length_cons] at hfits
  -- there is room for a second word, so the address behind the first one has not wrapped
  have hnext : (address + 8).toNat = address.toNat + 8 := by
    rw [UInt64.toNat_add]
    change (address.toNat + 8) % 0x10000000000000000 = _
    omega
  constructor
  · intro hzero
    rw [hzero] at hnext
    change 0 = _ at hnext
    omega
  · rw [hnext, List.length_cons]
    omega
  · intro i hi
    rw [hnext, Nat.add_assoc, Nat.add_comm 8, ← Nat.mul_succ]
    exact hword (i + 1) (Nat.succ_lt_succ hi)

/-- Stored words are found one after the other, since their addresses do not wrap before the last of them. -/
lemma Stores.runs (h : memory.Stores address words) : memory.Runs address words := by
  induction words generalizing address with
  | nil => exact .nil
  | cons w ws ih =>
    refine .cons h.ne_zero (h.word 0 (Nat.succ_pos _)) ?_
    cases ws with
    | nil => exact .nil
    | cons v ws => exact ih h.tail

/-- The first of some stored words are stored at the same address. -/
lemma Stores.take (h : memory.Stores address words) (n : Nat) : memory.Stores address (words.take n) := by
  obtain ⟨hzero, hfits, hword⟩ := h
  refine ⟨hzero, ?_, ?_⟩
  · have := List.length_take_le' n words
    omega
  · intro i hi
    rw [List.getElem_take]
    exact hword i (Nat.lt_of_lt_of_le hi (List.length_take_le' n words))

/-- What is stored depends on no other word of the memory. -/
lemma Stores.congr {memory' : Memory} (h : memory.Stores address words)
    (heq : ∀ i < words.length, memory'.word (address.toNat + 8 * i) = memory.word (address.toNat + 8 * i)) :
    memory'.Stores address words :=
  ⟨h.ne_zero, h.fits, fun i hi => (heq i hi).trans (h.word i hi)⟩

end Memory

/-- A caller that puts the words of a call at an address other than zero stores them there. -/
lemma callerMemory_stores {address : Word} {words : List Word} (hzero : address ≠ 0)
    (hfits : address.toNat + 8 * words.length ≤ 0x10000000000000000) :
    (callerMemory address words).Stores address words := by
  have hwidth (w : Word) : (Bytes.ofNat 8 w.toNat).length = 8 := Bytes.length_ofNat 8 _
  refine ⟨hzero, hfits, fun i hi => ?_⟩
  have hlen : (words.flatMap fun w => Bytes.ofNat 8 w.toNat).length = 8 * words.length :=
    Bytes.length_flatMap hwidth
  have hslice : (((words.flatMap fun w => Bytes.ofNat 8 w.toNat).drop (8 * i)).take 8) =
      Bytes.ofNat 8 words[i].toNat := by
    rw [← Bytes.take_drop_flatMap hwidth hi [], List.append_nil]
  have hlt : words[i].toNat < Bytes.values 8 := words[i].toNat_lt
  rw [Memory.word, Memory.readNat, callerMemory, Memory.toList_read_writeList _ _ (by omega), hslice,
    Bytes.toNat_ofNat, Nat.mod_eq_of_lt hlt, UInt64.ofNat_toNat]

/-- The cursor over a memory beside the cursor over the words that are stored there, for a number of words that
may still be read. Without an address the one has no words, as the other has none at its end or once it is
closed. -/
inductive Reads : Nat → PointerCursor → WordCursor → Prop where
  | stored {n k : Nat} {memory : Memory} {a : Word} {words : List Word} : n ≤ (words.drop k).length →
    memory.Runs a (words.drop k) → Reads n ⟨memory, a⟩ ⟨words, k, false⟩
  | spent {n k : Nat} {memory : Memory} {words : List Word} : words[k]? = none →
    Reads n ⟨memory, 0⟩ ⟨words, k, false⟩
  | closed {n k : Nat} {memory : Memory} {words : List Word} : Reads n ⟨memory, 0⟩ ⟨words, k, true⟩

/-- A pointer other than zero gives the word that it points to and moves on by eight bytes. -/
lemma PointerCursor.next_of_ne_zero {memory : Memory} {a : Word} (h : a ≠ 0) :
    Cursor.next (⟨memory, a⟩ : PointerCursor) = (some (memory.word a.toNat), ⟨memory, a + 8⟩) :=
  if_neg h

/-- One step of both cursors gives the same word and leaves them related. -/
lemma Reads.next {n : Nat} {p : PointerCursor} {c : WordCursor} (h : Reads (n + 1) p c) :
    (Cursor.next p).1 = (Cursor.next c).1 ∧ Reads n (Cursor.next p).2 (Cursor.next c).2 := by
  cases h with
  | @stored k memory a words hlen hruns =>
    generalize hrest : words.drop k = rest at hlen hruns
    cases hruns with
    | nil => cases hlen
    | @cons _ w ws hzero hword hruns =>
      -- the word at the address is the word that the other cursor has come to in its list
      have hk : words[k]? = some w := by
        rw [← Nat.add_zero k, ← List.getElem?_drop, hrest]
        rfl
      have htail : words.drop (k + 1) = ws := by
        rw [← List.tail_drop, hrest]
        rfl
      rw [PointerCursor.next_of_ne_zero hzero, WordCursor.next_of_getElem? hk, hword]
      refine ⟨rfl, .stored ?_ ?_⟩
      · rw [htail]
        exact Nat.le_of_succ_le_succ hlen
      · rwa [htail]
  | spent hnone =>
    rw [WordCursor.next_of_none hnone]
    exact ⟨rfl, .spent hnone⟩
  | closed => exact ⟨rfl, .closed⟩

/-- The cursor over a memory simulates the cursor over the words in it. -/
lemma reads_simulation : Cursor.Simulation Reads where
  next := Reads.next
  finish h k := by
    cases h with
    | stored => exact .closed
    | spent => exact .closed
    | closed => exact .closed

/-- A cursor at the address of stored words begins like a cursor over the list of them. -/
lemma Memory.Stores.reads {memory : Memory} {address : Word} {words : List Word}
    (h : memory.Stores address words) : Reads words.length ⟨memory, address⟩ (.ofList words) :=
  .stored (Nat.le_refl _) h.runs

/-- A cursor without an address begins like a cursor over no words. -/
lemma reads_nil {n : Nat} {memory : Memory} : Reads n ⟨memory, 0⟩ (.ofList []) :=
  .spent rfl

/-- A cursor over a memory is closed by taking its address away. -/
lemma PointerCursor.shut : Cursor.Shut fun c : PointerCursor => c.address = 0 where
  finish _ := rfl
  next h := if_pos h

/-- A cursor over a list is closed by a mark. -/
lemma WordCursor.shut : Cursor.Shut fun c : WordCursor => c.ended = true where
  finish _ := rfl
  next h := if_pos h

variable {σ : Type} {t : ServiceTable (Secure σ)}

/-- The same call behind two cursors: it is decoded to the same request or refused for the same cause, it is
answered alike on every machine, and it closes both cursors. -/
structure SameCall (t : ServiceTable (Secure σ)) (argc : Nat) (p : PointerCursor) (c : WordCursor) : Prop where
  request : (CallRequest.decode p argc).1 = (CallRequest.decode c argc).1
  answer : (dispatch t p argc).2 = (dispatch t c argc).2
  pointer_closed : (dispatch t p argc).1.address = 0
  list_closed : (dispatch t c argc).1.ended = true

/-- Calls behind related cursors are the same call. -/
lemma Reads.sameCall {n argc : Nat} {p : PointerCursor} {c : WordCursor} (h : Reads n p c)
    (hargc : argc ≤ n ∨ maxCallWords < argc) : SameCall t argc p c := by
  have hrequest := reads_simulation.decode_eq h hargc
  exact ⟨hrequest, congrArg (serveDecoded t) hrequest, rfl, rfl⟩

/-- The words that a call of a memory depends on are the announced ones, if they are not too many. -/
lemma Memory.Stores.dispatch_congr {memory memory' : Memory} {address : Word} {words : List Word} {argc : Nat}
    (h : memory.Stores address words) (hargc : argc ≤ words.length ∨ maxCallWords < argc)
    (heq : argc ≤ maxCallWords → ∀ i < argc,
      memory'.word (address.toNat + 8 * i) = memory.word (address.toNat + 8 * i)) :
    (dispatch t (⟨memory', address⟩ : PointerCursor) argc).2 =
      (dispatch t (⟨memory, address⟩ : PointerCursor) argc).2 := by
  by_cases hmax : argc ≤ maxCallWords
  · -- both memories store the announced words, so both calls are the call of the list of these
    have hlen : (words.take argc).length = argc := by
      rw [List.length_take]
      omega
    have hread := h.take argc
    have hread' : memory'.Stores address (words.take argc) :=
      hread.congr fun i hi => heq hmax i (hlen ▸ hi)
    have hannounced : argc ≤ (words.take argc).length ∨ maxCallWords < argc := .inl (Nat.le_of_eq hlen.symm)
    exact (hread'.reads.sameCall hannounced).answer.trans (hread.reads.sameCall hannounced).answer.symm
  · have hmany : maxCallWords < argc := Nat.not_le.1 hmax
    have hnone := h.take 0
    have hnone' : memory'.Stores address (words.take 0) := hnone.congr nofun
    exact (hnone'.reads.sameCall (.inr hmany)).answer.trans (hnone.reads.sameCall (.inr hmany)).answer.symm

/-- A call whose words are stored in a memory is the same call as that of the list of these words, if no more
words are announced than are stored, or more than a call can have. No word behind the announced ones matters to
it, and no word at all if none or too many are announced. A reader that takes no more words than are stored gets
the same answers from both cursors, and no words once it has closed them. Without an address there are no
words. -/
theorem sameCall_of_stores (t : ServiceTable (Secure σ)) (memory : Memory) (argc : Nat) :
    (∀ address words, memory.Stores address words →
      (argc ≤ words.length ∨ maxCallWords < argc →
        SameCall t argc ⟨memory, address⟩ (.ofList words) ∧
        ∀ memory' : Memory, (argc ≤ maxCallWords → ∀ i < argc,
            memory'.word (address.toNat + 8 * i) = memory.word (address.toNat + 8 * i)) →
          (dispatch t (⟨memory', address⟩ : PointerCursor) argc).2 =
            (dispatch t (⟨memory, address⟩ : PointerCursor) argc).2) ∧
      ∀ moves : List Cursor.Move, moves.count .next ≤ words.length →
        Cursor.answers (⟨memory, address⟩ : PointerCursor) moves =
          Cursor.answers (WordCursor.ofList words) moves) ∧
    SameCall t argc ⟨memory, 0⟩ (.ofList []) ∧
    (∀ moves : List Cursor.Move,
      Cursor.answers (⟨memory, 0⟩ : PointerCursor) moves = Cursor.answers (WordCursor.ofList []) moves) ∧
    ∀ (p : PointerCursor) (c : WordCursor) (moves later : List Cursor.Move),
      Cursor.answers p (moves ++ .finish :: later) =
        Cursor.answers p moves ++ List.replicate (later.count .next) none ∧
      Cursor.answers c (moves ++ .finish :: later) =
        Cursor.answers c moves ++ List.replicate (later.count .next) none := by
  refine ⟨fun address words h => ⟨fun hargc => ⟨h.reads.sameCall hargc, ?_⟩, ?_⟩, ?_, ?_, ?_⟩
  · exact fun memory' heq => h.dispatch_congr hargc heq
  · exact fun moves hmoves => reads_simulation.answers_eq h.reads hmoves
  · exact (reads_nil (n := argc)).sameCall (.inl (Nat.le_refl _))
  · exact fun moves => reads_simulation.answers_eq reads_nil (Nat.le_refl _)
  · intro p c moves later
    exact ⟨PointerCursor.shut.answers_append p moves later, WordCursor.shut.answers_append c moves later⟩

/-- A sum whose words are stored with another word behind them, in which a byte may be anything. -/
theorem sameCall_of_sum :
    let words : List Word := [46, 2, 3, 4]
    let memory := callerMemory 0x1000 words
    let t := serviceTable Bench.drivers
    memory.Stores 0x1000 words ∧ SameCall t 3 ⟨memory, 0x1000⟩ (.ofList words) ∧
      (dispatch t (⟨memory.writeList 0x1018 [5], 0x1000⟩ : PointerCursor) 3).2 =
        (dispatch t (⟨memory, 0x1000⟩ : PointerCursor) 3).2 ∧
      Cursor.answers (⟨memory, 0x1000⟩ : PointerCursor) [.next, .finish, .next] = [some 46, none] := by
  intro words memory t
  have h : memory.Stores 0x1000 words := callerMemory_stores (by decide) (by decide)
  obtain ⟨hstored, -⟩ := sameCall_of_stores t memory 3
  obtain ⟨hcall, hmoves⟩ := hstored 0x1000 words h
  obtain ⟨hsame, hcongr⟩ := hcall (.inl (by decide))
  refine ⟨h, hsame, hcongr (memory.writeList 0x1018 [5]) fun _ => by decide, ?_⟩
  exact hmoves [.next, .finish, .next] (by decide)

end SecureWorld
