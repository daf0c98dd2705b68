import Mathlib
import SecureWorld.Proofs.Lexemes
import SecureWorld.Text.CamelCase

/-!
# Names in camel case

What becomes of a name when it is put into camel case. `ofSnake_eq` reads the camel case off a name in one pass. From
it follow the names whose camel case is a name again (`isName_ofSnake_iff`), the pairs of names that have one camel
case (`blend_iff`), and a class of names that can be read back from it (`Snake.spread_scan`), none two of which blend.
-/

namespace SecureWorld.CamelCase

open Text (IsName IsLetter split)

variable {name name' cs cs' : List Char} {c : Char} {s s' : Bool}

/-- A character as it stands in camel case: raised if it begins a part. -/
def raised (start : Bool) (c : Char) : Char :=
  if start then c.toUpper else c

/-- The camel case of a name, or of the rest of one; `start` says whether the next character begins a part. -/
def scan : Bool → List Char → List Char
  | _, [] => []
  | start, c :: cs => if c = '_' then scan true cs else raised start c :: scan false cs

/-- An underscore is left out, and a part begins behind it. -/
lemma scan_mark : scan s ('_' :: cs) = scan true cs := by
  rw [scan, if_pos rfl]

/-- A character other than an underscore stands in camel case, raised if it begins a part. -/
lemma scan_cons (hc : c ≠ '_') : scan s (c :: cs) = raised s c :: scan false cs := by
  rw [scan, if_neg hc]

/-- The first part is raised if it is a whole one; the others always are. -/
lemma scan_eq (name : List Char) : ∃ q qs, split (· == '_') name = q :: qs ∧
    scan false name = q ++ qs.flatMap raise ∧ scan true name = raise q ++ qs.flatMap raise := by
  induction name with
  | nil => exact ⟨[], [], rfl, rfl, rfl⟩
  | cons c name ih =>
    obtain ⟨q, qs, hsplit, hfalse, htrue⟩ := ih
    by_cases hc : c = '_'
    · subst hc
      -- an empty part comes first, and the parts of the rest behind it
      refine ⟨[], q :: qs, ?_, ?_, ?_⟩
      · rw [split, if_pos (beq_self_eq_true '_'), hsplit]
      · rw [scan_mark, htrue]
        rfl
      · rw [scan_mark, htrue]
        rfl
    · refine ⟨c :: q, qs, ?_, ?_, ?_⟩
      · rw [split, if_neg (by simpa using hc), hsplit]
      · rw [scan_cons hc, hfalse]
        rfl
      · rw [scan_cons hc, hfalse]
        rfl

/-- The camel case of a name is found in one pass over it. -/
lemma ofSnake_eq (name : List Char) : ofSnake name = scan true name := by
  obtain ⟨q, qs, hsplit, -, htrue⟩ := scan_eq name
  rw [ofSnake, hsplit, htrue]
  rfl

/-! ## Characters -/

/-- The characters that names go on with. -/
def IsNameText (cs : List Char) : Prop :=
  ∀ c ∈ cs, Text.continuesName c = true

/-- A name consists of characters that names go on with. -/
lemma isNameText_of_isName (h : IsName name) : IsNameText name := by
  obtain ⟨c, rest, rfl, hc, hrest⟩ := h
  refine List.forall_mem_cons.2 ⟨?_, ?_⟩
  · exact Text.continuesName_iff.2 (.inl hc)
  · exact fun d hd => Text.continuesName_iff.2 (hrest d hd)

/-- Underscores apart, names go on with letters and digits. -/
lemma isAlphanum_of_continuesName (h : Text.continuesName c = true) (hc : c ≠ '_') : c.isAlphanum = true := by
  rw [Text.continuesName, Bool.or_eq_true, beq_iff_eq] at h
  exact h.resolve_right hc

/-- A digit has no case. -/
lemma uncased_of_isDigit (h : c.isDigit = true) : c.isUpper = false ∧ c.isLower = false := by
  rw [Char.isDigit_iff_toNat] at h
  have hlow : c.val.toNat ≤ 57 := h.2
  simp only [Char.isUpper, Char.isLower, Bool.and_eq_false_iff, decide_eq_false_iff_not, ge_iff_le,
    UInt32.le_iff_toNat_le]
  refine ⟨fun h' => ?_, .inl fun h' => ?_⟩
  · exact absurd (h'.1.trans hlow) (by decide)
  · exact absurd (h'.trans hlow) (by decide)

/-- A letter or digit stays one when it is raised. -/
lemma isAlphanum_raised (h : c.isAlphanum = true) : (raised s c).isAlphanum = true := by
  cases s with
  | false => exact h
  | true =>
    rw [Char.isAlphanum, Bool.or_eq_true] at h ⊢
    rw [raised, if_pos rfl]
    obtain h | h := h
    · exact .inl (by rwa [Char.isAlpha_toUpper_eq_isAlpha])
    · have hlower : ¬ c.isLower = true := Bool.eq_false_iff.1 (uncased_of_isDigit h).2
      exact .inr (by rwa [Char.toUpper_eq_of_not_isLower hlower])

/-- Letters and digits are all that the camel case of a name consists of. -/
lemma isAlphanum_of_mem_scan (h : IsNameText cs) : ∀ d ∈ scan s cs, d.isAlphanum = true := by
  induction cs generalizing s with
  | nil => exact nofun
  | cons c cs ih =>
    obtain ⟨hc, hcs⟩ := List.forall_mem_cons.1 h
    by_cases hmark : c = '_'
    · subst hmark
      rw [scan_mark]
      exact ih hcs
    · rw [scan_cons hmark]
      exact List.forall_mem_cons.2 ⟨isAlphanum_raised (isAlphanum_of_continuesName hc hmark), ih hcs⟩

/-- The first character of a name that is no underscore is a letter, and there is one. -/
def LeadsWithLetter (name : List Char) : Prop :=
  ∃ marks c rest, (∀ d ∈ marks, d = '_') ∧ c.isAlpha = true ∧ name = marks ++ c :: rest

/-- Underscores before a name make no difference to the letter that leads it. -/
lemma leadsWithLetter_mark : LeadsWithLetter ('_' :: cs) ↔ LeadsWithLetter cs := by
  constructor
  · rintro ⟨marks, c, rest, hmarks, hc, heq⟩
    cases marks with
    | nil =>
      cases heq
      exact absurd hc (by decide)
    | cons d marks =>
      obtain ⟨-, hmarks⟩ := List.forall_mem_cons.1 hmarks
      exact ⟨marks, c, rest, hmarks, hc, (List.cons.inj heq).2⟩
  · rintro ⟨marks, c, rest, hmarks, hc, rfl⟩
    exact ⟨'_' :: marks, c, rest, List.forall_mem_cons.2 ⟨rfl, hmarks⟩, hc, rfl⟩

/-- Without an underscore in front, the first character has to be the letter. -/
lemma leadsWithLetter_cons (hmark : c ≠ '_') : LeadsWithLetter (c :: cs) ↔ c.isAlpha = true := by
  constructor
  · rintro ⟨marks, d, rest, hmarks, hd, heq⟩
    cases marks with
    | nil =>
      cases heq
      exact hd
    | cons m marks =>
      cases heq
      exact absurd (hmarks c List.mem_cons_self) hmark
  · intro hc
    exact ⟨[], c, cs, nofun, hc, rfl⟩

/-- A text of letters and digits is a name if it begins with a letter. -/
lemma isName_cons_iff (hcs : ∀ d ∈ c :: cs, d.isAlphanum = true) : IsName (c :: cs) ↔ c.isAlpha = true := by
  obtain ⟨hc, hcs⟩ := List.forall_mem_cons.1 hcs
  have hrest : cs.all Text.continuesName = true := by
    refine List.all_eq_true.2 fun d hd => ?_
    rw [Text.continuesName, hcs d hd, Bool.true_or]
  have hmark : (c == '_') = false := by
    rw [beq_eq_false_iff_ne]
    rintro rfl
    exact absurd hc (by decide)
  rw [← Text.isIdentifier_iff, Text.isIdentifier, hrest, Bool.and_true, Text.startsName, hmark, Bool.or_false]

/-- The camel case of a name is a name again if the first character that is left is a letter. -/
lemma isName_scan_iff (h : IsNameText cs) : IsName (scan true cs) ↔ LeadsWithLetter cs := by
  induction cs with
  | nil =>
    constructor
    · rintro ⟨c, rest, heq, -⟩
      cases heq
    · rintro ⟨marks, c, rest, -, -, heq⟩
      cases marks <;> cases heq
  | cons c cs ih =>
    obtain ⟨hc, hcs⟩ := List.forall_mem_cons.1 h
    by_cases hmark : c = '_'
    · subst hmark
      rw [scan_mark, leadsWithLetter_mark]
      exact ih hcs
    · have hall := isAlphanum_of_mem_scan (s := true) h
      rw [scan_cons hmark] at hall ⊢
      rw [leadsWithLetter_cons hmark, isName_cons_iff hall, raised, if_pos rfl, Char.isAlpha_toUpper_eq_isAlpha]

/-- The camel case of a name is a name exactly if a letter leads the name. -/
lemma isName_ofSnake_iff (h : IsName name) : IsName (ofSnake name) ↔ LeadsWithLetter name := by
  rw [ofSnake_eq]
  exact isName_scan_iff (isNameText_of_isName h)

/-- The camel case of a name has no underscores. -/
lemma isAlphanum_of_mem_ofSnake (h : IsName name) : ∀ d ∈ ofSnake name, d.isAlphanum = true := by
  rw [ofSnake_eq]
  exact isAlphanum_of_mem_scan (isNameText_of_isName h)

/-! ## Names with one camel case -/

/-- Two names, or rests of names, differ at most in underscores and in the case of letters that begin a part; the
truth values say whether the next character of each begins one. -/
inductive Blend : Bool → Bool → List Char → List Char → Prop where
  | nil {s s' : Bool} : Blend s s' [] []
  | left {s s' : Bool} {cs cs' : List Char} : Blend true s' cs cs' → Blend s s' ('_' :: cs) cs'
  | right {s s' : Bool} {cs cs' : List Char} : Blend s true cs cs' → Blend s s' cs ('_' :: cs')
  | both {s s' : Bool} {c c' : Char} {cs cs' : List Char} : c ≠ '_' → c' ≠ '_' → raised s c = raised s' c' →
    Blend false false cs cs' → Blend s s' (c :: cs) (c' :: cs')

/-- Names that blend have the same camel case. -/
lemma Blend.scan_eq (h : Blend s s' cs cs') : scan s cs = scan s' cs' := by
  induction h with
  | nil => rfl
  | left _ ih => rw [scan_mark, ih]
  | right _ ih => rw [scan_mark, ih]
  | both hc hc' heq _ ih => rw [scan_cons hc, scan_cons hc', heq, ih]

/-- Names with the same camel case blend. -/
lemma blend_of_scan_eq (h : scan s cs = scan s' cs') : Blend s s' cs cs' := by
  induction cs generalizing s s' cs' with
  | nil =>
    -- nothing is left of the other name either, so it consists of underscores
    induction cs' generalizing s' with
    | nil => exact .nil
    | cons c' cs' ih =>
      by_cases hc' : c' = '_'
      · subst hc'
        rw [scan_mark] at h
        exact .right (ih h)
      · rw [scan_cons hc'] at h
        cases h
  | cons c cs ih =>
    by_cases hc : c = '_'
    · subst hc
      rw [scan_mark] at h
      exact .left (ih h)
    · induction cs' generalizing s' with
      | nil =>
        rw [scan_cons hc] at h
        cases h
      | cons c' cs' ih' =>
        by_cases hc' : c' = '_'
        · subst hc'
          rw [scan_mark] at h
          exact .right (ih' h)
        · rw [scan_cons hc, scan_cons hc'] at h
          obtain ⟨hhead, htail⟩ := List.cons.inj h
          exact .both hc hc' hhead (ih htail)

/-- Names have one camel case exactly if they blend. -/
lemma blend_iff : Blend true true name name' ↔ ofSnake name = ofSnake name' := by
  rw [ofSnake_eq, ofSnake_eq]
  exact ⟨Blend.scan_eq, blend_of_scan_eq⟩

/-! ## Snake case -/

/-- Words in lower case, with one underscore between two of them; each begins with a letter and goes on with letters
and digits. The truth value says whether a word begins. -/
inductive Snake : Bool → List Char → Prop where
  | done : Snake false []
  | first {c : Char} {cs : List Char} : c.isLower = true → Snake false cs → Snake true (c :: cs)
  | next {c : Char} {cs : List Char} : c.isLower = true ∨ c.isDigit = true → Snake false cs → Snake false (c :: cs)
  | mark {cs : List Char} : Snake true cs → Snake false ('_' :: cs)

/-- Camel case taken apart again: an underscore before every letter that is raised. -/
def spread : List Char → List Char
  | [] => []
  | c :: cs => if c.isUpper then '_' :: c.toLower :: spread cs else c :: spread cs

/-- Small letters and digits are no capital letters. -/
lemma not_isUpper (h : c.isLower = true ∨ c.isDigit = true) : ¬ c.isUpper = true := by
  obtain h | h := h
  · exact Char.not_isUpper_of_isLower h
  · exact Bool.eq_false_iff.1 (uncased_of_isDigit h).1

/-- Small letters and digits are no underscores. -/
lemma ne_mark (h : c.isLower = true ∨ c.isDigit = true) : c ≠ '_' := by
  rintro rfl
  exact absurd h (by decide)

/-- A name in snake case is read back from its camel case. -/
lemma Snake.spread_scan (h : Snake s cs) : spread (scan s cs) = if s then '_' :: cs else cs := by
  induction h with
  | done => rfl
  | @first c cs hc _ ih =>
    have hupper : c.toUpper.isUpper = true := by
      rw [Char.isUpper_toUpper_eq_isAlpha, Char.isAlpha, hc, Bool.or_true]
    rw [scan_cons (ne_mark (.inl hc)), raised, if_pos rfl, spread, if_pos hupper, ih,
      Char.toLower_toUpper_eq_toLower, Char.toLower_eq_of_not_isUpper (not_isUpper (.inl hc))]
    rfl
  | @next c cs hc _ ih =>
    rw [scan_cons (ne_mark hc), raised, if_neg Bool.false_ne_true, spread, if_neg (not_isUpper hc), ih]
    rfl
  | mark _ ih =>
    rw [scan_mark, ih]
    rfl

/-- Different names in snake case do not blend. -/
lemma Snake.eq_of_blend (h : Snake true name) (h' : Snake true name') (hb : Blend true true name name') :
    name = name' := by
  have hspread := congrArg spread hb.scan_eq
  rw [h.spread_scan, h'.spread_scan] at hspread
  exact (List.cons.inj hspread).2

/-- A name in snake case begins with a letter. -/
lemma Snake.leadsWithLetter (h : Snake true name) : LeadsWithLetter name := by
  cases h with
  | @first c cs hc _ =>
    rw [leadsWithLetter_cons (ne_mark (.inl hc)), Char.isAlpha, hc, Bool.or_true]

end SecureWorld.CamelCase
