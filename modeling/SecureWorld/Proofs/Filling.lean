import SecureWorld.Image.Loader
import SecureWorld.Proofs.Header

/-!
# Filling in the secure fields

An attempt to fill in the secure fields of an image either changes these eight bytes and nothing else, or it
changes nothing. `fillSecureFields_of_valid` and the two lemmas before it say what an attempt comes to, case by
case for what the header of the image is; `Retried.refused` says that once the fields are filled in, every later
attempt is refused.
-/

namespace SecureWorld.Image

variable {h : Header} {entry interrupt : UInt32} {s s' : Loader} {e : HeaderError}

namespace Header

/-- A header with its secure fields filled in. -/
def fill (h : Header) (entry interrupt : UInt32) : Header :=
  { h with secureEntry := entry, secureInterrupt := interrupt }

/-- The checks of the addresses that a header names. -/
def checkAddresses (h : Header) : Except HeaderError Unit := do
  checkEntry .entry h.openEntry
  checkEntry .interrupt h.openInterrupt
  checkEnd .iram h.iramEnd Layout.sramLow Layout.openSramStart Layout.sramHigh
  checkEnd .irom h.iromEnd Layout.windowBase Layout.secureWindowEnd Layout.windowEnd
  checkEnd .drom h.dromEnd Layout.windowBase Layout.secureWindowEnd Layout.windowEnd

/-- The checks of a header in their order. -/
lemma validate_eq : h.validate =
    if h.magic ≠ magicWord then .error (.badMagic h.magic)
    else if h.major ≠ majorVersion then .error (.unsupportedMajor h.major)
    else if minorVersion < h.minor then .error (.minorTooNew h.minor)
    else if h.reserved0 ≠ 0 ∨ h.reserved1 ≠ 0 then .error .reservedNotZero
    else if !h.blank then .error .secureFieldsNotBlank
    else h.checkAddresses := rfl

/-- A header that passes every check which comes before that of the secure fields. -/
structure Supported (h : Header) : Prop where
  magic : h.magic = magicWord
  major : h.major = majorVersion
  minor : ¬ minorVersion < h.minor
  reserved : ¬ (h.reserved0 ≠ 0 ∨ h.reserved1 ≠ 0)

/-- A valid header is supported. -/
lemma supported_of_validate (hv : h.validate = .ok ()) : h.Supported := by
  rw [validate_eq] at hv
  split at hv
  · cases hv
  next hmagic =>
  split at hv
  · cases hv
  next hmajor =>
  split at hv
  · cases hv
  next hminor =>
  split at hv
  · cases hv
  next hreserved => exact ⟨not_not.1 hmagic, not_not.1 hmajor, hminor, hreserved⟩

/-- The secure fields are not among what is checked before them. -/
lemma Supported.fill (hs : h.Supported) (entry interrupt : UInt32) : (h.fill entry interrupt).Supported :=
  ⟨hs.magic, hs.major, hs.minor, hs.reserved⟩

/-- A supported header whose secure fields are filled in is invalid for that cause. -/
lemma Supported.validate_of_not_blank (hs : h.Supported) (hb : h.blank = false) :
    h.validate = .error .secureFieldsNotBlank := by
  rw [validate_eq, if_neg (not_not_intro hs.magic), if_neg (not_not_intro hs.major), if_neg hs.minor,
    if_neg hs.reserved, hb]
  rfl

/-- Secure fields are not blank once one of them is filled with something other than zero. -/
lemma blank_fill (hne : entry ≠ 0 ∨ interrupt ≠ 0) : (h.fill entry interrupt).blank = false := by
  rw [blank, Bool.and_eq_false_iff, beq_eq_false_iff_ne, beq_eq_false_iff_ne]
  exact hne

end Header

section Words

variable {before after : List UInt8} {v w : UInt32}

/-- A word is written over the one in its place, and nothing else is. -/
lemma withWord_append : withWord (before ++ (Bytes.ofNat 4 v.toNat ++ after)) before.length w =
    .ok (before ++ (Bytes.ofNat 4 w.toNat ++ after)) := by
  have hlen : ¬ (before ++ (Bytes.ofNat 4 v.toNat ++ after)).length < before.length + 4 := by
    simp only [List.length_append, Bytes.length_ofNat]
    omega
  rw [withWord, if_neg hlen, List.take_left, ← List.drop_drop, List.drop_left,
    List.drop_left' (Bytes.length_ofNat 4 _), List.append_assoc]

end Words

/-- A header that passes the checks is read from every image that begins with it. -/
lemma Header.parse_of_validate {blob rest : List UInt8} (hb : blob = h.toBytes ++ rest)
    (hv : h.validate = .ok ()) : Header.parse blob = .ok h := by
  rw [hb, Header.parse_append, if_pos (Header.supported_of_validate hv).magic]

/-- An image that begins with a header around the secure fields of the header, whatever these are. -/
lemma Header.toBytes_fill_append (h : Header) (rest : List UInt8) :
    ∃ before after, before.length = 20 ∧ ∀ entry interrupt, (h.fill entry interrupt).toBytes ++ rest =
      before ++ (Bytes.ofNat 4 entry.toNat ++ (Bytes.ofNat 4 interrupt.toNat ++ after)) :=
  ⟨encode (h.words.take 5), encode (h.words.drop 7) ++ rest, rfl, fun _ _ => rfl⟩

/-- Filling in the secure fields of a header is writing over bytes 20 to 27 of its image. -/
lemma Header.toBytes_fill {rest : List UInt8} : (h.fill entry interrupt).toBytes ++ rest =
    (h.toBytes ++ rest).take 20 ++ Bytes.ofNat 4 entry.toNat ++ Bytes.ofNat 4 interrupt.toNat ++
      (h.toBytes ++ rest).drop 28 := by
  obtain ⟨before, after, hlen, happend⟩ := h.toBytes_fill_append rest
  have hself : h.toBytes ++ rest = before ++ (Bytes.ofNat 4 h.secureEntry.toNat ++
      (Bytes.ofNat 4 h.secureInterrupt.toNat ++ after)) := happend h.secureEntry h.secureInterrupt
  have hdrop : (h.toBytes ++ rest).drop 28 = after := by
    have hlen' : (before ++ Bytes.ofNat 4 h.secureEntry.toNat ++
        Bytes.ofNat 4 h.secureInterrupt.toNat).length = 28 := by
      rw [List.length_append, List.length_append, hlen, Bytes.length_ofNat, Bytes.length_ofNat]
    rw [hself, ← List.append_assoc, ← List.append_assoc, List.drop_left' hlen']
  rw [hdrop, happend, hself, List.take_left' hlen, List.append_assoc, List.append_assoc]

/-- What is logged about an image that is refused. -/
def refusal (e : HeaderError) : Log.Record :=
  ⟨.warn, "tee_app_abi", "Refusing REE image: " ++ e.message⟩

/-- What is logged about an image that was filled in. -/
def notice (h : Header) : Log.Record :=
  ⟨.debug, "tee_app_abi", "REE app config v" ++ toString h.major.toNat ++ "." ++ toString h.minor.toNat
    ++ ": ns_entry=" ++ Hex.lower8 h.openEntry.toNat ++ " s_entry=" ++ Hex.lower8 h.secureEntry.toNat
    ++ " s_intr=" ++ Hex.lower8 h.secureInterrupt.toNat⟩

namespace Loading

/-- A word that fits into the blob is stored in it, and what follows goes on with the new blob. -/
lemma storeWord_bind {α : Type} {off : Nat} {w : UInt32} {blob : List UInt8} {f : Unit → Loading α}
    (hw : withWord s.blob off w = .ok blob) : (storeWord off w >>= f) s = f () { s with blob := blob } := by
  show ((ofExcept (withWord s.blob off w) >>= fun b => modify fun s => { s with blob := b }) >>= f) s = _
  rw [hw]
  rfl

/-- A step that gives a value goes on with it. -/
lemma ofExcept_ok_bind {α β : Type} {a : α} {f : α → Loading β} : (ofExcept (.ok a) >>= f) = f a := rfl

/-- Nothing happens to an image without a header. -/
lemma fillSecureFields_of_unreadable (hp : Header.parse s.blob = .error e) :
    fillSecureFields entry interrupt s = .error e s := by
  show (ofExcept (Header.parse s.blob) >>= _ : Loading Header) s = _
  rw [hp]
  rfl

/-- An image with an invalid header is refused in the log, and nothing happens to its bytes. -/
lemma fillSecureFields_of_invalid (hp : Header.parse s.blob = .ok h) (hv : h.validate = .error e) :
    fillSecureFields entry interrupt s = .error e { s with records := s.records ++ [refusal e] } := by
  show (ofExcept (Header.parse s.blob) >>= _ : Loading Header) s = _
  rw [hp, ofExcept_ok_bind, hv]
  rfl

/-- An image with a valid header gets the bytes of the header with the secure fields filled in. -/
lemma fillSecureFields_of_valid {rest : List UInt8} (hb : s.blob = h.toBytes ++ rest)
    (hv : h.validate = .ok ()) :
    fillSecureFields entry interrupt s = .ok (h.fill entry interrupt)
      ⟨(h.fill entry interrupt).toBytes ++ rest, s.records ++ [notice (h.fill entry interrupt)]⟩ := by
  have hp := Header.parse_of_validate hb hv
  obtain ⟨before, after, hlen, happend⟩ := h.toBytes_fill_append rest
  have hentry : withWord s.blob 20 entry = .ok ((h.fill entry h.secureInterrupt).toBytes ++ rest) := by
    have hself : s.blob = (h.fill h.secureEntry h.secureInterrupt).toBytes ++ rest := hb
    rw [hself, happend, happend, ← hlen]
    exact withWord_append
  have hinterrupt : withWord ((h.fill entry h.secureInterrupt).toBytes ++ rest) 24 interrupt =
      .ok ((h.fill entry interrupt).toBytes ++ rest) := by
    -- the field before it is filled in by now, and takes the four bytes from 20 on
    have hplace : 24 = (before ++ Bytes.ofNat 4 entry.toNat).length := by
      rw [List.length_append, hlen, Bytes.length_ofNat]
    rw [happend, happend, ← List.append_assoc before, ← List.append_assoc before, hplace]
    exact withWord_append
  show (ofExcept (Header.parse s.blob) >>= _ : Loading Header) s = _
  rw [hp, ofExcept_ok_bind, hv]
  change (storeWord 20 entry >>= fun _ => storeWord 24 interrupt >>= _ : Loading Header) s = _
  rw [storeWord_bind hentry, storeWord_bind hinterrupt]
  rfl

/-- What the header of an image can be. -/
inductive Verdict (blob : List UInt8) : Prop where
  | unreadable {e : HeaderError} : Header.parse blob = .error e → Verdict blob
  | invalid {h : Header} {e : HeaderError} : Header.parse blob = .ok h → h.validate = .error e → Verdict blob
  | valid {h : Header} {rest : List UInt8} : blob = h.toBytes ++ rest → h.validate = .ok () → Verdict blob

lemma verdict (blob : List UInt8) : Verdict blob := by
  cases hp : Header.parse blob with
  | error e => exact .unreadable hp
  | ok h =>
    cases hv : h.validate with
    | error e => exact .invalid hp hv
    | ok =>
      have hb : blob = h.toBytes ++ blob.drop Header.size := by
        rw [← (Header.parse_ok_iff.1 hp).2, List.take_append_drop]
      exact .valid hb hv

/-- Only an image with a valid header is filled in. -/
lemma fillSecureFields_ok {h' : Header} (hf : fillSecureFields entry interrupt s = .ok h' s') :
    ∃ (h : Header) (rest : List UInt8), s.blob = h.toBytes ++ rest ∧ h.validate = .ok () ∧
      h' = h.fill entry interrupt ∧ s'.blob = h'.toBytes ++ rest := by
  cases verdict s.blob with
  | unreadable hp =>
    rw [fillSecureFields_of_unreadable hp] at hf
    cases hf
  | invalid hp hv =>
    rw [fillSecureFields_of_invalid hp hv] at hf
    cases hf
  | valid hb hv =>
    rw [fillSecureFields_of_valid hb hv] at hf
    cases hf
    exact ⟨_, _, hb, hv, rfl, rfl⟩

/-- An attempt that is refused leaves the bytes of the image alone and says what is wrong with it. -/
lemma fillSecureFields_error (hf : fillSecureFields entry interrupt s = .error e s') :
    s'.blob = s.blob ∧ (Header.parse s.blob = .error e ∨
      ∃ h, Header.parse s.blob = .ok h ∧ h.validate = .error e) := by
  cases verdict s.blob with
  | unreadable hp =>
    rw [fillSecureFields_of_unreadable hp] at hf
    cases hf
    exact ⟨rfl, .inl hp⟩
  | invalid hp hv =>
    rw [fillSecureFields_of_invalid hp hv] at hf
    cases hf
    exact ⟨rfl, .inr ⟨_, hp, hv⟩⟩
  | valid hb hv =>
    rw [fillSecureFields_of_valid hb hv] at hf
    cases hf

/-- The secure fields are filled in exactly if the header is read and valid. -/
lemma fillSecureFields_succeeds_iff : (∃ h' s', fillSecureFields entry interrupt s = .ok h' s') ↔
    ∃ h, Header.parse s.blob = .ok h ∧ h.validate = .ok () := by
  constructor
  · rintro ⟨h', s', hf⟩
    obtain ⟨h, rest, hb, hv, -⟩ := fillSecureFields_ok hf
    exact ⟨h, Header.parse_of_validate hb hv, hv⟩
  · rintro ⟨h, hp, hv⟩
    cases hf : fillSecureFields entry interrupt s with
    | ok h' s' => exact ⟨h', s', rfl⟩
    | error e s' =>
      obtain ⟨-, hp' | ⟨g, hp', hv'⟩⟩ := fillSecureFields_error hf
      · rw [hp] at hp'
        cases hp'
      · rw [hp] at hp'
        cases hp'
        rw [hv] at hv'
        cases hv'

end Loading

namespace Loader

open Loading

/-- An image with a supported header whose secure fields are filled in. -/
def Filled (s : Loader) : Prop :=
  ∃ h, Header.parse s.blob = .ok h ∧ h.Supported ∧ h.blank = false

/-- The images that later attempts to fill in the secure fields lead to. -/
inductive Retried (s₀ : Loader) : Loader → Prop where
  | start : Retried s₀ s₀
  | filled {s s' : Loader} {h : Header} (entry interrupt : UInt32) : Retried s₀ s →
    fillSecureFields entry interrupt s = .ok h s' → Retried s₀ s'
  | refused {s s' : Loader} {e : HeaderError} (entry interrupt : UInt32) : Retried s₀ s →
    fillSecureFields entry interrupt s = .error e s' → Retried s₀ s'

/-- Whether an image is filled in can be told from its bytes. -/
lemma Filled.of_blob_eq (hs : s.Filled) (hb : s'.blob = s.blob) : s'.Filled := by
  rwa [Filled, hb]

/-- An image that is filled in is refused once more, and nothing but the log changes. -/
lemma Filled.refused (hs : s.Filled) : fillSecureFields entry interrupt s =
    .error .secureFieldsNotBlank { s with records := s.records ++ [refusal .secureFieldsNotBlank] } := by
  obtain ⟨h, hp, hsup, hb⟩ := hs
  exact fillSecureFields_of_invalid hp (hsup.validate_of_not_blank hb)

/-- No number of later attempts changes a byte of an image that is filled in. -/
lemma Filled.retried (hs : s.Filled) (hr : s.Retried s') : s'.blob = s.blob := by
  induction hr with
  | start => rfl
  | filled entry interrupt _ hf ih =>
    rw [(hs.of_blob_eq ih).refused] at hf
    cases hf
  | refused entry interrupt _ hf ih => rw [(fillSecureFields_error hf).1, ih]

end Loader

namespace Loading

open Loader

/-- An attempt to fill in the secure fields succeeds exactly if the image has a valid header. It then writes the
two words over bytes 20 to 27 of the image and changes nothing else; the header that it gives back is the one of
the new image, and is the old one with these two fields. An attempt that fails leaves the image alone. Once one
of the fields is not zero, no later attempt succeeds, and none changes the image. -/
theorem fillSecureFields_atomic (entry interrupt : UInt32) (s : Loader) :
    ((∃ h' s', fillSecureFields entry interrupt s = .ok h' s') ↔
      ∃ h, Header.parse s.blob = .ok h ∧ h.validate = .ok ()) ∧
    (∀ h' s', fillSecureFields entry interrupt s = .ok h' s' →
      (∃ h, Header.parse s.blob = .ok h ∧ h' = h.fill entry interrupt) ∧
      Header.parse s'.blob = .ok h' ∧
      s'.blob = s.blob.take 20 ++ Bytes.ofNat 4 entry.toNat ++ Bytes.ofNat 4 interrupt.toNat ++ s.blob.drop 28 ∧
      s'.blob.length = s.blob.length ∧
      (entry ≠ 0 ∨ interrupt ≠ 0 → ∀ k, s'.Retried k → k.blob = s'.blob ∧ ∀ e i, ∃ k',
        fillSecureFields e i k = .error .secureFieldsNotBlank k' ∧ k'.blob = k.blob)) ∧
    (∀ e s', fillSecureFields entry interrupt s = .error e s' → s'.blob = s.blob ∧
      (Header.parse s.blob = .error e ∨ ∃ h, Header.parse s.blob = .ok h ∧ h.validate = .error e)) := by
  refine ⟨fillSecureFields_succeeds_iff, ?_, fun e s' => fillSecureFields_error⟩
  intro h' s' hf
  obtain ⟨h, rest, hb, hv, rfl, hb'⟩ := fillSecureFields_ok hf
  have hsup := (Header.supported_of_validate hv).fill entry interrupt
  have hp' : Header.parse s'.blob = .ok (h.fill entry interrupt) := by
    rw [hb', Header.parse_append, if_pos hsup.magic]
  refine ⟨⟨h, Header.parse_of_validate hb hv, rfl⟩, hp', ?_, ?_, ?_⟩
  · rw [hb, hb', Header.toBytes_fill]
  · rw [hb, hb', List.length_append, List.length_append, Header.length_toBytes, Header.length_toBytes]
  · intro hne k hk
    have hfilled : s'.Filled := ⟨_, hp', hsup, Header.blank_fill hne⟩
    have hblob := hfilled.retried hk
    exact ⟨hblob, fun e i => ⟨_, (hfilled.of_blob_eq hblob).refused, rfl⟩⟩

/-- An image with one byte behind its header is filled in once, and refused when it is tried again. -/
theorem refuses_second_filling :
    let h := Header.ofImage 0x40820100 0x40820200 0x40840000 0x42140000 0x42200000
    let s : Loader := ⟨h.toBytes ++ [0xAA], []⟩
    ∃ h' s', fillSecureFields 0x40800400 0x40800800 s = .ok h' s' ∧ s'.blob.length = 49 ∧
      ∃ k', fillSecureFields 1 2 s' = .error .secureFieldsNotBlank k' ∧ k'.blob = s'.blob := by
  intro h s
  have hv : h.validate = .ok () := rfl
  obtain ⟨hiff, hok, -⟩ := fillSecureFields_atomic 0x40800400 0x40800800 s
  obtain ⟨h', s', hf⟩ := hiff.2 ⟨h, Header.parse_of_validate rfl hv, hv⟩
  obtain ⟨-, -, -, hlen, honce⟩ := hok h' s' hf
  obtain ⟨-, hrefused⟩ := honce (.inl (by decide)) s' .start
  exact ⟨h', s', hf, hlen, hrefused 1 2⟩

end Loading

end SecureWorld.Image
