import Mathlib.Data.List.DropRight
import Mathlib.Tactic.Common
import SecureWorld.Console

/-!
# What the console shows

The console keeps bytes, and loses those for which it has no room. `keeps_after` says what it has kept after any
events: the beginning of the bytes of all that was said since it was last cleared. The text that such bytes show is
the longest part of it that fits (`decodeFrom_eq_fit`), since a character that is cut off is none, whatever was
written behind it (`decode_cut`).
-/

namespace SecureWorld.Console

/-- What happens to a console. -/
inductive Event where
  | record (r : Log.Record)
  | raw (s : String)
  | clear

namespace Event

/-- What an event does to a console. -/
def perform (f : Log.Filter) (c : Console) : Event → Console
  | .record r => c.log f r
  | .raw s => c.write s
  | .clear => .empty

/-- What an event has to say; a record that the filter does not let through says nothing. -/
def said (f : Log.Filter) : Event → List Char
  | .record r => if f.admits r.level then r.line.toList else []
  | .raw s => s.toList
  | .clear => []

/-- The event empties the console. -/
def isClear : Event → Bool
  | .clear => true
  | _ => false

end Event

/-- A console after some events. -/
def after (f : Log.Filter) (es : List Event) : Console :=
  es.foldl (Event.perform f) .empty

/-- All that was said since the console was last cleared. -/
def transcript (f : Log.Filter) (es : List Event) : List Char :=
  (es.rtakeWhile fun e => !e.isClear).flatMap (Event.said f)

/-- A console keeps as much of a text as there is room for. -/
def Keeps (c : Console) (t : List Char) : Prop :=
  c.bytes.data.toList = (encode t).take capacity

/-- The longest part of a text from its start on that has no more than `n` bytes. -/
def fit (n : Nat) : List Char → List Char
  | [] => []
  | a :: as => if a.utf8Size ≤ n then a :: fit (n - a.utf8Size) as else []

variable {f : Log.Filter} {c : Console} {b : ByteArray} {a : Char} {as p t : List Char} {bs : List UInt8}
  {es : List Event} {i n : Nat}

/-! ## Bytes -/

/-- The bytes of the first character come first. -/
lemma encode_cons : encode (a :: as) = String.utf8EncodeChar a ++ encode as := rfl

/-- The bytes of a text come before those of what follows it. -/
lemma encode_append : encode (p ++ t) = encode p ++ encode t :=
  List.flatMap_append

/-- A byte is kept if there is room for it. -/
lemma put_bytes {u : UInt8} (h : c.bytes.data.toList = bs.take capacity) :
    (c.put u).bytes.data.toList = (bs ++ [u]).take capacity := by
  have hsize : c.bytes.size = min capacity bs.length := by
    rw [← List.length_take, ← h]
    rfl
  rw [put]
  split
  next hroom =>
    have hall : bs.length < capacity := by omega
    show (c.bytes.data.push u).toList = _
    rw [Array.toList_push, h, List.take_of_length_le (Nat.le_of_lt hall), List.take_of_length_le]
    rw [List.length_append, List.length_singleton]
    exact hall
  next hfull =>
    rw [h, List.take_append_of_le_length (by omega)]

/-- Of some bytes as many are kept as there is room for. -/
lemma foldl_put_bytes {us : List UInt8} (h : c.bytes.data.toList = bs.take capacity) :
    (us.foldl put c).bytes.data.toList = (bs ++ us).take capacity := by
  induction us generalizing c bs with
  | nil => rwa [List.append_nil]
  | cons u us ih =>
    rw [List.append_cons]
    exact ih (put_bytes h)

/-- What is written is kept behind the text, as far as there is room for it. -/
lemma Keeps.write (h : c.Keeps t) (s : String) : (c.write s).Keeps (t ++ s.toList) := by
  rw [Keeps, encode_append]
  exact foldl_put_bytes h

/-- An empty console keeps an empty text. -/
lemma keeps_empty : empty.Keeps [] := rfl

/-- What an event has to say is kept behind the text, or nothing is if the event empties the console. -/
lemma Keeps.perform (h : c.Keeps t) (e : Event) :
    (e.perform f c).Keeps (if e.isClear then [] else t ++ e.said f) := by
  cases e with
  | raw s => exact h.write s
  | clear => exact keeps_empty
  | record r =>
    show (c.log f r).Keeps (t ++ if f.admits r.level then r.line.toList else [])
    rw [log]
    split
    · exact h.write r.line
    · rwa [List.append_nil]

/-- The last event adds what it has to say, or clears what was said before. -/
lemma transcript_concat {e : Event} :
    transcript f (es ++ [e]) = if e.isClear then [] else transcript f es ++ e.said f := by
  cases h : e.isClear with
  | true =>
    rw [transcript, List.rtakeWhile_concat_neg, if_pos rfl, List.flatMap_nil]
    rw [h]
    exact Bool.false_ne_true
  | false =>
    rw [transcript, List.rtakeWhile_concat_pos, if_neg Bool.false_ne_true, List.flatMap_append,
      List.flatMap_singleton]
    · rfl
    · rw [h]
      rfl

/-- After any events, the console has kept of what was said since it was last cleared as much as there is room for. -/
lemma keeps_after (f : Log.Filter) (es : List Event) : (after f es).Keeps (transcript f es) := by
  induction es using List.reverseRecOn with
  | nil => exact keeps_empty
  | append_singleton es e ih =>
    rw [after, List.foldl_concat, transcript_concat]
    exact ih.perform e

/-! ## Characters -/

/-- The longest part that fits is at the start of the text. -/
lemma fit_isPrefix (n : Nat) (t : List Char) : fit n t <+: t := by
  induction t generalizing n with
  | nil => exact List.nil_prefix
  | cons a as ih =>
    rw [fit]
    split
    · exact (List.cons_prefix_cons).2 ⟨rfl, ih _⟩
    · exact List.nil_prefix

/-- The bytes of a text are those of its first character and of the others. -/
lemma length_encode_cons : (encode (a :: as)).length = a.utf8Size + (encode as).length := by
  rw [encode_cons, List.length_append, String.length_utf8EncodeChar]

/-- The longest part that fits does not have too many bytes. -/
lemma length_encode_fit (n : Nat) (t : List Char) : (encode (fit n t)).length ≤ n := by
  induction t generalizing n with
  | nil => exact Nat.zero_le _
  | cons a as ih =>
    rw [fit]
    split
    next h =>
      have := ih (n - a.utf8Size)
      rw [length_encode_cons]
      omega
    next => exact Nat.zero_le _

/-- There is no longer part that fits. -/
lemma prefix_fit (hp : p <+: t) (hn : (encode p).length ≤ n) : p <+: fit n t := by
  induction t generalizing p n with
  | nil =>
    rw [List.prefix_nil.1 hp]
    exact List.nil_prefix
  | cons a as ih =>
    cases p with
    | nil => exact List.nil_prefix
    | cons d ds =>
      obtain ⟨rfl, hds⟩ := List.cons_prefix_cons.1 hp
      rw [length_encode_cons] at hn
      rw [fit, if_pos (by omega)]
      exact List.cons_prefix_cons.2 ⟨rfl, ih hds (by omega)⟩

example : fit 4 ['a', '€', 'b'] = ['a', '€'] := by decide

example : fit 3 ['a', '€', 'b'] = ['a'] := by decide

/-- Decoding at an index depends only on the bytes from there on. -/
lemma decode_at (h : b.data.toList.drop i = bs) : b.utf8DecodeChar? i = bs.toByteArray.utf8DecodeChar? 0 := by
  have hextract : b.extract i b.size = bs.toByteArray := by
    apply ByteArray.ext
    apply Array.toList_inj.1
    rw [ByteArray.data_extract, Array.toList_extract, List.data_toByteArray, List.extract_eq_take_drop, h]
    apply List.take_of_length_le
    rw [← h, List.length_drop]
    rfl
  rw [ByteArray.utf8DecodeChar?_eq_utf8DecodeChar?_extract, hextract]

/-- A character that is there in full is decoded. -/
lemma decode_char : (String.utf8EncodeChar a ++ bs).toByteArray.utf8DecodeChar? 0 = some a := by
  rw [List.toByteArray_append]
  exact ByteArray.utf8DecodeChar?_utf8EncodeChar_append

/-- Too few bytes of a character are none. -/
lemma decode_cut (h : n < a.utf8Size) : ((String.utf8EncodeChar a).take n).toByteArray.utf8DecodeChar? 0 = none := by
  cases hd : ((String.utf8EncodeChar a).take n).toByteArray.utf8DecodeChar? 0 with
  | none => rfl
  | some d =>
    -- with the bytes that are missing it would be the same character
    have hwhole := ByteArray.utf8DecodeChar?_append_eq_some hd ((String.utf8EncodeChar a).drop n).toByteArray
    rw [← List.toByteArray_append, List.take_append_drop, ← List.append_nil (String.utf8EncodeChar a),
      decode_char] at hwhole
    cases hwhole
    have hsize := ByteArray.le_size_of_utf8DecodeChar?_eq_some hd
    rw [List.size_toByteArray, List.length_take] at hsize
    omega

/-- The bytes of a text, cut off somewhere, show as much of it as they have in full. -/
lemma decodeFrom_eq_fit (h : b.data.toList.drop i = (encode t).take n) : decodeFrom b i = fit n t := by
  induction t generalizing i n with
  | nil =>
    have hend : ¬ i < b.size := by
      have hnil : b.data.toList.drop i = [] := by rw [h, encode, List.flatMap_nil, List.take_nil]
      exact Nat.not_lt.2 (List.drop_eq_nil_iff.1 hnil)
    rw [decodeFrom, dif_neg hend, fit]
  | cons a as ih =>
    rw [encode_cons] at h
    rw [fit]
    split
    next hfits =>
      have hlen : (String.utf8EncodeChar a).length = a.utf8Size := String.length_utf8EncodeChar a
      rw [List.take_append, List.take_of_length_le (by omega), hlen] at h
      have hdecode : b.utf8DecodeChar? i = some a := (decode_at h).trans decode_char
      have hnext : b.data.toList.drop (i + a.utf8Size) = (encode as).take (n - a.utf8Size) := by
        rw [← List.drop_drop, h, ← hlen, List.drop_left]
      have hin : i < b.size := by
        have := ByteArray.le_size_of_utf8DecodeChar?_eq_some hdecode
        have := a.utf8Size_pos
        omega
      rw [decodeFrom, dif_pos hin, hdecode]
      exact congrArg (a :: ·) (ih hnext)
    next hcut =>
      have hlen : n ≤ (String.utf8EncodeChar a).length := by
        rw [String.length_utf8EncodeChar]
        omega
      rw [List.take_append_of_le_length hlen] at h
      -- what is left of the character does not decode, and nothing is shown behind it
      rw [decodeFrom, (decode_at h).trans (decode_cut (Nat.not_le.1 hcut))]
      split <;> rfl

/-- A console shows the longest part of its text that there is room for. -/
lemma toList_text (h : c.Keeps t) : c.text.toList = fit capacity t := by
  rw [text, String.toList_ofList]
  exact decodeFrom_eq_fit h

/-- The size of a text is the number of its bytes. -/
lemma utf8ByteSize_eq (s : String) : s.utf8ByteSize = (encode s.toList).length := by
  rw [← String.size_toByteArray, ← String.utf8Encode_toList, List.utf8Encode, List.size_toByteArray]
  rfl

/-- Whatever the filter is, and after any records, raw texts and clearings: the console shows the longest text of at
most 16384 bytes with which begins what was said since it was last cleared, which is the raw texts and the lines of
the records that the filter lets through, in order. -/
theorem shows_longest_fit (f : Log.Filter) (es : List Event) :
    let shown := (after f es).text
    shown.toList <+: transcript f es ∧ shown.utf8ByteSize ≤ 16384 ∧
      ∀ s : String, s.toList <+: transcript f es → s.utf8ByteSize ≤ 16384 → s.toList <+: shown.toList := by
  intro shown
  have hshown : shown.toList = fit capacity (transcript f es) := toList_text (keeps_after f es)
  rw [utf8ByteSize_eq, hshown]
  refine ⟨fit_isPrefix _ _, length_encode_fit _ _, fun s hs hsize => ?_⟩
  rw [utf8ByteSize_eq] at hsize
  exact prefix_fit hs hsize

end SecureWorld.Console
