import Mathlib.Tactic.Common
import SecureWorld.Image.Header

/-!
# Reading and writing headers

A header is read from the bytes it is written as, and from no others. `parse_append` is the law of the reader on
an image that begins with a header, `exists_toBytes_append` says that every image of enough bytes does, and
`parse_inverse_toBytes` is what both come to.
-/

namespace SecureWorld.Image

variable {w : UInt32} {ws : List UInt32} {blob rest : List UInt8}

/-- The bytes of words, one word after the other. -/
def encode (ws : List UInt32) : List UInt8 :=
  ws.flatMap fun w => Bytes.ofNat 4 w.toNat

/-- The word that an image begins with. -/
def leadingWord (blob : List UInt8) : UInt32 :=
  UInt32.ofNat (Bytes.toNat (blob.take 4))

/-- Every word takes four bytes. -/
@[simp] lemma length_encode : (encode ws).length = 4 * ws.length :=
  Bytes.length_flatMap fun _ => Bytes.length_ofNat 4 _

/-- The bytes of the first word come first. -/
lemma encode_cons : encode (w :: ws) = Bytes.ofNat 4 w.toNat ++ encode ws := rfl

/-- A word is what its bytes spell. -/
lemma ofNat_toNat_word : UInt32.ofNat (Bytes.toNat (Bytes.ofNat 4 w.toNat)) = w := by
  have hlt : w.toNat < Bytes.values 4 := w.toNat_lt
  rw [Bytes.toNat_ofNat, Nat.mod_eq_of_lt hlt, UInt32.ofNat_toNat]

/-- Four bytes are the bytes of the word they spell. -/
lemma ofNat_word_toNat (h : blob.length = 4) :
    Bytes.ofNat 4 (UInt32.ofNat (Bytes.toNat blob)).toNat = blob := by
  have hlt : Bytes.toNat blob < UInt32.size := by
    have := Bytes.toNat_lt blob
    rwa [h] at this
  rw [UInt32.toNat_ofNat_of_lt' hlt, ← h, Bytes.ofNat_toNat]

/-- Every one of the words is read from its place. -/
lemma wordAt_encode {k : Nat} (h : ws[k]? = some w) : wordAt (encode ws ++ rest) (4 * k) = .ok w := by
  obtain ⟨hk, rfl⟩ := List.getElem?_eq_some_iff.1 h
  have hlen : ¬ (encode ws ++ rest).length < 4 * k + 4 := by
    rw [List.length_append, length_encode]
    omega
  have hbytes : ((encode ws ++ rest).drop (4 * k)).take 4 = Bytes.ofNat 4 ws[k].toNat :=
    Bytes.take_drop_flatMap (fun _ => Bytes.length_ofNat 4 _) hk rest
  rw [wordAt, if_neg hlen, hbytes, ofNat_toNat_word]

/-- Bytes by fours are words. -/
lemma exists_encode {n : Nat} (h : blob.length = 4 * n) : ∃ ws, ws.length = n ∧ encode ws = blob := by
  induction n generalizing blob with
  | zero => exact ⟨[], rfl, (List.length_eq_zero_iff.1 h).symm⟩
  | succ n ih =>
    obtain ⟨ws, hlen, hws⟩ := @ih (blob.drop 4) (by rw [List.length_drop]; omega)
    have hfour : (blob.take 4).length = 4 := by
      rw [List.length_take]
      omega
    refine ⟨leadingWord blob :: ws, by rw [List.length_cons, hlen], ?_⟩
    rw [encode_cons, leadingWord, ofNat_word_toNat hfour, hws, List.take_append_drop]

namespace Header

variable {h : Header}

/-- The bytes of a header are those of its words. -/
lemma toBytes_eq : h.toBytes = encode h.words := rfl

/-- All headers take the same number of bytes. -/
@[simp] lemma length_toBytes : h.toBytes.length = size :=
  length_encode

/-- Every image of enough bytes begins with the bytes of a header. -/
lemma exists_toBytes_append (hlen : size ≤ blob.length) :
    ∃ h : Header, h.toBytes ++ blob.drop size = blob := by
  have htake : (blob.take size).length = 4 * 12 := by
    rw [List.length_take, Nat.min_eq_left hlen]
    rfl
  obtain ⟨ws, hws, henc⟩ := exists_encode htake
  match ws, hws with
  | [w₀, w₁, w₂, w₃, w₄, w₅, w₆, w₇, w₈, w₉, w₁₀, w₁₁], _ =>
    refine ⟨⟨w₀, w₁, w₂, w₃, w₄, w₅, w₆, w₇, w₈, w₉, w₁₀, w₁₁⟩, ?_⟩
    rw [toBytes_eq, words, henc, List.take_append_drop]

/-- The bytes of a header begin with its magic word. -/
lemma leadingWord_append : leadingWord (h.toBytes ++ rest) = h.magic := by
  have htake : (h.toBytes ++ rest).take 4 = Bytes.ofNat 4 h.magic.toNat := rfl
  rw [leadingWord, htake, ofNat_toNat_word]

/-- An image that begins with a header is read as that header if the first word is the magic word, and refused
for its first word otherwise. -/
lemma parse_append : parse (h.toBytes ++ rest) =
    if h.magic = magicWord then .ok h else .error (.badMagic h.magic) := by
  have hlen : ¬ (h.toBytes ++ rest).length < size := by
    rw [List.length_append, length_toBytes]
    omega
  have hword {k : Nat} {w : UInt32} (hk : h.words[k]? = some w) :
      wordAt (h.toBytes ++ rest) (4 * k) = .ok w := wordAt_encode hk
  have hmagic : wordAt (h.toBytes ++ rest) 0 = .ok h.magic := hword (k := 0) rfl
  unfold parse
  rw [if_neg hlen, hmagic]
  change (if h.magic ≠ magicWord then _ else _ : Except HeaderError Header) = _
  by_cases hm : h.magic = magicWord
  · rw [if_neg (not_not_intro hm), if_pos hm]
    -- every field is read at four times its place among the words
    rw [hword (k := 1) rfl, hword (k := 2) rfl, hword (k := 3) rfl, hword (k := 4) rfl, hword (k := 5) rfl,
      hword (k := 6) rfl, hword (k := 7) rfl, hword (k := 8) rfl, hword (k := 9) rfl, hword (k := 10) rfl,
      hword (k := 11) rfl]
    rfl
  · rw [if_pos hm, if_neg hm]
    rfl

/-- Bytes that are too few for a header are refused, with their number. -/
lemma parse_short (hlen : blob.length < size) : parse blob = .error (.tooShort blob.length) := by
  unfold parse
  rw [if_pos hlen]
  rfl

/-- The reader gives back a header exactly if the image begins with the header's bytes and these with the magic
word. -/
lemma parse_ok_iff : parse blob = .ok h ↔ h.magic = magicWord ∧ blob.take size = h.toBytes := by
  constructor
  · intro hp
    by_cases hlen : blob.length < size
    · rw [parse_short hlen] at hp
      cases hp
    obtain ⟨g, hg⟩ := exists_toBytes_append (Nat.not_lt.1 hlen)
    rw [← hg, parse_append] at hp
    split at hp
    next hm =>
      cases hp
      rw [← hg, List.take_left' length_toBytes]
      exact ⟨hm, rfl⟩
    next => cases hp
  · rintro ⟨hm, hb⟩
    rw [← List.take_append_drop size blob, hb, parse_append, if_pos hm]

/-- Bytes are refused exactly if they are too few or do not begin with the magic word. -/
lemma parse_error_iff {e : HeaderError} : parse blob = .error e ↔
    (blob.length < size ∧ e = .tooShort blob.length) ∨
      (size ≤ blob.length ∧ leadingWord blob ≠ magicWord ∧ e = .badMagic (leadingWord blob)) := by
  by_cases hlen : blob.length < size
  · rw [parse_short hlen, Except.error.injEq, eq_comm]
    constructor
    · intro he
      exact .inl ⟨hlen, he⟩
    · rintro (⟨-, he⟩ | ⟨hle, -⟩)
      · exact he
      · exact absurd hlen (Nat.not_lt.2 hle)
  · -- enough bytes are those of some header, and the rest behind them
    obtain ⟨g, hg⟩ := exists_toBytes_append (Nat.not_lt.1 hlen)
    have hparse : parse (g.toBytes ++ blob.drop size) = _ := parse_append
    have hlead : leadingWord (g.toBytes ++ blob.drop size) = _ := leadingWord_append
    rw [hg] at hparse hlead
    rw [hparse, hlead]
    split
    next hm =>
      refine ⟨nofun, ?_⟩
      rintro (⟨hlt, -⟩ | ⟨-, hne, -⟩)
      · exact absurd hlt hlen
      · exact absurd hm hne
    next hm =>
      rw [Except.error.injEq, eq_comm]
      constructor
      · intro he
        exact .inr ⟨Nat.not_lt.1 hlen, hm, he⟩
      · rintro (⟨hlt, -⟩ | ⟨-, -, he⟩)
        · exact absurd hlt hlen
        · exact he

/-- Reading is inverse to writing. A written header is read back whatever follows it, or refused for its first
word; an image that is read begins with the bytes of the header it is read as; and an image is refused only if
it is too short, for its length, or begins with another word than the magic word, for that word. -/
theorem parse_inverse_toBytes (h : Header) (rest blob : List UInt8) (e : HeaderError) :
    parse (h.toBytes ++ rest) = (if h.magic = magicWord then .ok h else .error (.badMagic h.magic)) ∧
    (parse blob = .ok h ↔ h.magic = magicWord ∧ blob.take size = h.toBytes) ∧
    (parse blob = .error e ↔
      (blob.length < size ∧ e = .tooShort blob.length) ∨
        (size ≤ blob.length ∧ leadingWord blob ≠ magicWord ∧ e = .badMagic (leadingWord blob))) :=
  ⟨parse_append, parse_ok_iff, parse_error_iff⟩

end Header

end SecureWorld.Image
