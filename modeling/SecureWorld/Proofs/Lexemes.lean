import Mathlib.Data.List.Induction
import Mathlib.Data.List.TakeWhile
import Mathlib.Tactic.Common
import Mathlib.Tactic.IntervalCases
import SecureWorld.Text.Blank
import SecureWorld.Text.Identifier
import SecureWorld.Text.Numeral

/-!
# Lines, fields, numerals and names

What lists are written with, said without the functions that read it: `bareLines` are the lines of a text, `Fielded`
says which fields a line consists of, `Numeral.Spells` which number a numeral stands for, and `IsName` what a name
is. Each is followed by the lemma that the reading functions find it: `padded_lines`, `fielded_iff`,
`Numeral.word?_eq_some_iff` and `isIdentifier_iff`.
-/

namespace SecureWorld.Text

variable {cs gap field rest : List Char} {fs : List (List Char)} {c : Char}

/-- Blanks, or nothing. -/
def IsGap (cs : List Char) : Prop :=
  ∀ c ∈ cs, isBlank c = true

/-- At least one character, and no blank. -/
structure IsField (cs : List Char) : Prop where
  ne_nil : cs ≠ []
  not_blank : ∀ c ∈ cs, isBlank c = false

/-- A text consists of fields: gaps stand before and behind them, and a gap between two is not empty. -/
inductive Fielded : List Char → List (List Char) → Prop where
  | nil {gap : List Char} : IsGap gap → Fielded gap []
  | cons {gap field rest : List Char} {fs : List (List Char)} : IsGap gap → IsField field →
    (∀ c ∈ rest.head?, isBlank c = true) → Fielded rest fs → Fielded (gap ++ (field ++ rest)) (field :: fs)

/-! ## Gaps -/

/-- Nothing at all is a gap. -/
lemma IsGap.nil : IsGap [] := nofun

/-- A gap with one more blank before it is a gap. -/
lemma IsGap.cons (hc : isBlank c = true) (h : IsGap cs) : IsGap (c :: cs) :=
  List.forall_mem_cons.2 ⟨hc, h⟩

/-- Two gaps make a gap. -/
lemma IsGap.append (h : IsGap gap) (h' : IsGap cs) : IsGap (gap ++ cs) := by
  intro c hc
  obtain hc | hc := List.mem_append.1 hc
  · exact h c hc
  · exact h' c hc

/-- A gap is a gap from its other end as well. -/
lemma IsGap.reverse (h : IsGap gap) : IsGap gap.reverse :=
  fun c hc => h c (List.mem_reverse.1 hc)

/-- What begins with a gap begins with a blank, if it begins at all. -/
lemma IsGap.head? (h : IsGap gap) : ∀ c ∈ gap.head?, isBlank c = true :=
  fun c hc => h c (List.mem_of_mem_head? hc)

/-- Leaving out the blanks at the front leaves out a gap. -/
lemma IsGap.dropWhile_append (h : IsGap gap) : (gap ++ cs).dropWhile isBlank = cs.dropWhile isBlank :=
  List.dropWhile_append_of_pos h

/-- Leaving out the blanks of a gap leaves nothing. -/
lemma IsGap.dropWhile (h : IsGap gap) : gap.dropWhile isBlank = [] :=
  List.dropWhile_eq_nil_iff.2 h

/-! ## Trimming -/

/-- Behind the blanks that a text starts with stands what is left of it, and then a gap. -/
lemma dropWhile_eq_trim_append (cs : List Char) :
    ∃ gap, IsGap gap ∧ cs.dropWhile isBlank = trim cs ++ gap := by
  refine ⟨((cs.dropWhile isBlank).reverse.takeWhile isBlank).reverse, ?_, ?_⟩
  · exact IsGap.reverse fun c hc => List.mem_takeWhile_imp hc
  · rw [trim, ← List.reverse_append, List.takeWhile_append_dropWhile, List.reverse_reverse]

/-- A text is what is left of it when it is trimmed, between two gaps. -/
lemma eq_append_trim_append (cs : List Char) :
    ∃ gap gap', IsGap gap ∧ IsGap gap' ∧ cs = gap ++ (trim cs ++ gap') := by
  obtain ⟨gap', hgap', heq⟩ := dropWhile_eq_trim_append cs
  refine ⟨cs.takeWhile isBlank, gap', fun c hc => List.mem_takeWhile_imp hc, hgap', ?_⟩
  rw [← heq, List.takeWhile_append_dropWhile]

/-- What a trimmed text starts with is what follows on the blanks before it. -/
lemma trim_eq_cons_iff : (∃ rest, trim cs = c :: rest) ↔
    isBlank c = false ∧ ∃ gap rest, IsGap gap ∧ cs = gap ++ c :: rest := by
  obtain ⟨gap', hgap', heq⟩ := dropWhile_eq_trim_append cs
  constructor
  · rintro ⟨rest, h⟩
    rw [h, List.cons_append] at heq
    have hhead := List.head?_dropWhile_not isBlank cs
    rw [heq] at hhead
    refine ⟨hhead, cs.takeWhile isBlank, rest ++ gap', fun c hc => List.mem_takeWhile_imp hc, ?_⟩
    rw [← heq, List.takeWhile_append_dropWhile]
  · rintro ⟨hc, gap, rest, hgap, rfl⟩
    rw [hgap.dropWhile_append, List.dropWhile_cons_of_neg (Bool.eq_false_iff.1 hc)] at heq
    cases ht : trim (gap ++ c :: rest) with
    | nil =>
      rw [ht, List.nil_append] at heq
      rw [← heq] at hgap'
      rw [hgap' c List.mem_cons_self] at hc
      cases hc
    | cons d t =>
      rw [ht] at heq
      cases heq
      exact ⟨t, rfl⟩

/-- A gap behind a text is trimmed away. -/
lemma trim_append_gap (h : IsGap gap) : trim (cs ++ gap) = trim cs := by
  rw [trim, List.dropWhile_append]
  split
  next hempty => rw [h.dropWhile, trim, List.isEmpty_iff.1 hempty]
  next =>
    rw [List.reverse_append, h.reverse.dropWhile_append, trim]

/-- Nothing is left of a gap when it is trimmed. -/
lemma trim_gap (h : IsGap gap) : trim gap = [] := by
  rw [trim, h.dropWhile]
  rfl

/-! ## Fields -/

/-- A blank at the front is in no field. -/
lemma fields_cons_of_isBlank (hc : isBlank c = true) : fields (c :: cs) = fields cs := by
  rw [fields, split, if_pos hc]
  rfl

/-- A gap at the front is in no field. -/
lemma fields_gap_append (h : IsGap gap) : fields (gap ++ cs) = fields cs := by
  induction gap with
  | nil => rfl
  | cons c gap ih =>
    obtain ⟨hc, hgap⟩ := List.forall_mem_cons.1 h
    rw [List.cons_append, fields_cons_of_isBlank hc, ih hgap]

/-- The first piece of a text ends where a separator does. -/
lemma split_append {p : Char → Bool} {q : List Char} {qs : List (List Char)} (hq : ∀ c ∈ q, p c = false)
    (hrest : split p rest = [] :: qs) : split p (q ++ rest) = q :: qs := by
  induction q with
  | nil => exact hrest
  | cons c q ih =>
    obtain ⟨hc, hq⟩ := List.forall_mem_cons.1 hq
    rw [List.cons_append, split, if_neg (Bool.eq_false_iff.1 hc), ih hq]

/-- A text that begins with a separator, if it begins at all, has an empty first piece. -/
lemma split_of_head? {p : Char → Bool} (h : ∀ c ∈ rest.head?, p c = true) :
    ∃ qs, split p rest = [] :: qs := by
  cases rest with
  | nil => exact ⟨[], rfl⟩
  | cons c rest => exact ⟨_, if_pos (h c rfl)⟩

/-- A field ends at the next blank or with the text. -/
lemma fields_append (hfield : IsField field) (hrest : ∀ c ∈ rest.head?, isBlank c = true) :
    fields (field ++ rest) = field :: fields rest := by
  obtain ⟨qs, hqs⟩ := split_of_head? hrest
  rw [fields, fields, split_append hfield.not_blank hqs, hqs, List.filter_cons_of_pos]
  · rfl
  · simpa using hfield.ne_nil

/-- The fields that a text is put together from are those that it is cut into. -/
lemma Fielded.fields_eq (h : Fielded cs fs) : fields cs = fs := by
  induction h with
  | @nil gap hgap =>
    rw [← List.append_nil gap, fields_gap_append hgap]
    rfl
  | cons hgap hfield hrest _ ih => rw [fields_gap_append hgap, fields_append hfield hrest, ih]

/-- A text with one more blank before it has the same fields. -/
lemma Fielded.cons_blank (h : Fielded cs fs) (hc : isBlank c = true) : Fielded (c :: cs) fs := by
  cases h with
  | nil hgap => exact .nil (hgap.cons hc)
  | cons hgap hfield hrest h => exact .cons (hgap.cons hc) hfield hrest h

/-- Every text consists of fields. -/
lemma exists_fielded (cs : List Char) : ∃ fs, Fielded cs fs := by
  induction cs with
  | nil => exact ⟨[], .nil .nil⟩
  | cons c cs ih =>
    obtain ⟨fs, h⟩ := ih
    cases hc : isBlank c with
    | true => exact ⟨fs, h.cons_blank hc⟩
    | false =>
      have hone : IsField [c] := ⟨nofun, by simpa using hc⟩
      cases h with
      | nil hgap => exact ⟨[[c]], .cons .nil hone hgap.head? (.nil hgap)⟩
      | @cons gap field rest fs hgap hfield hrest h =>
        cases gap with
        | nil =>
          -- without a gap in between the character belongs to the first field
          have hlonger : IsField (c :: field) := ⟨nofun, List.forall_mem_cons.2 ⟨hc, hfield.not_blank⟩⟩
          exact ⟨(c :: field) :: fs, .cons .nil hlonger hrest h⟩
        | cons b gap =>
          have hb : ∀ d ∈ (b :: gap ++ (field ++ rest)).head?, isBlank d = true := (hgap.head? · ·)
          exact ⟨[c] :: field :: fs, .cons .nil hone hb (.cons hgap hfield hrest h)⟩

/-- The reader of fields finds those that a text consists of. -/
lemma fielded_iff : Fielded cs fs ↔ fields cs = fs := by
  refine ⟨Fielded.fields_eq, ?_⟩
  rintro rfl
  obtain ⟨fs, h⟩ := exists_fielded cs
  rwa [h.fields_eq]

/-- A gap at the end is in no field. -/
lemma Fielded.append_gap (h : Fielded cs fs) (hgap : IsGap gap) : Fielded (cs ++ gap) fs := by
  induction h with
  | nil h => exact .nil (h.append hgap)
  | @cons gap' field rest fs h hfield hrest _ ih =>
    rw [List.append_assoc, List.append_assoc]
    refine .cons h hfield ?_ ih
    cases rest with
    | nil => exact hgap.head?
    | cons c rest => exact hrest

/-- The gaps at both ends are in no field. -/
lemma fields_trim : fields (trim cs) = fields cs := by
  obtain ⟨gap, gap', hgap, hgap', heq⟩ := eq_append_trim_append cs
  conv_rhs => rw [heq, fields_gap_append hgap]
  exact ((fielded_iff.2 rfl).append_gap hgap').fields_eq.symm

/-! ## Lines -/

/-- The lines of a text without their ends. A line ends at a line feed, with which a carriage return right before it
goes; behind the last end there is a line if there is any text. -/
def bareLines : List Char → List (List Char)
  | [] => []
  | '\n' :: cs => [] :: bareLines cs
  | '\r' :: '\n' :: cs => [] :: bareLines cs
  | c :: cs =>
    match bareLines cs with
    | [] => [[c]]
    | l :: ls => (c :: l) :: ls

/-- The second list has the lines of the first one, with a gap behind each, and after them lines of blanks. -/
inductive Padded : List (List Char) → List (List Char) → Prop where
  | nil {gaps : List (List Char)} : (∀ gap ∈ gaps, IsGap gap) → Padded [] gaps
  | cons {l gap : List Char} {ls ls' : List (List Char)} : IsGap gap → Padded ls ls' →
    Padded (l :: ls) ((l ++ gap) :: ls')

/-- A character that does not end a line begins the first line of what is left. -/
lemma bareLines_cons (hfeed : c ≠ '\n') (hreturn : ∀ cs', c = '\r' → cs ≠ '\n' :: cs') :
    bareLines (c :: cs) = match bareLines cs with
      | [] => [[c]]
      | l :: ls => (c :: l) :: ls := by
  rw [bareLines]
  · exact hfeed
  · exact hreturn

/-- There is always a first line. -/
lemma exists_lines_eq_cons (cs : List Char) : ∃ q qs, lines cs = q :: qs :=
  List.exists_cons_of_ne_nil (split_ne_nil _ cs)

/-- A character that is no line feed begins the first line of what is left. -/
lemma lines_cons {q : List Char} {qs : List (List Char)} (hc : c ≠ '\n') (h : lines cs = q :: qs) :
    lines (c :: cs) = (c :: q) :: qs := by
  rw [lines] at h ⊢
  rw [split, if_neg (by simpa using hc), h]

/-- The lines that are read are those of the text, but for blanks. -/
lemma padded_lines (cs : List Char) : Padded (bareLines cs) (lines cs) := by
  induction cs using bareLines.induct with
  | case1 => exact .nil (List.forall_mem_singleton.2 .nil)
  | case2 cs ih =>
    rw [bareLines]
    exact .cons (l := []) .nil ih
  | case3 cs ih =>
    rw [bareLines]
    -- the return before the feed stays at the end of the line, as a gap
    have hreturn : IsGap ['\r'] := IsGap.cons (by decide) .nil
    exact .cons (l := []) hreturn ih
  | case4 c cs hfeed hreturn hnil ih =>
    obtain ⟨q, qs, hq⟩ := exists_lines_eq_cons cs
    rw [bareLines_cons hfeed hreturn, hnil, lines_cons hfeed hq]
    rw [hnil, hq] at ih
    cases ih with
    | nil hgaps =>
      obtain ⟨hgap, hgaps⟩ := List.forall_mem_cons.1 hgaps
      exact .cons (l := [c]) hgap (.nil hgaps)
  | case5 c cs hfeed hreturn l ls hcons ih =>
    obtain ⟨q, qs, hq⟩ := exists_lines_eq_cons cs
    rw [bareLines_cons hfeed hreturn, hcons, lines_cons hfeed hq]
    rw [hcons, hq] at ih
    cases ih with
    | cons hgap ih => exact .cons (l := c :: l) hgap ih

/-! ## Names -/

/-- A letter of the Latin alphabet, or an underscore. -/
def IsLetter (c : Char) : Prop :=
  ('a' ≤ c ∧ c ≤ 'z') ∨ ('A' ≤ c ∧ c ≤ 'Z') ∨ c = '_'

/-- A letter, and then letters and decimal digits. -/
def IsName (cs : List Char) : Prop :=
  ∃ c rest, cs = c :: rest ∧ IsLetter c ∧ ∀ d ∈ rest, IsLetter d ∨ ('0' ≤ d ∧ d ≤ '9')

/-- A letter of ASCII is a small or a capital one. -/
lemma isAlpha_iff : c.isAlpha = true ↔ ('a' ≤ c ∧ c ≤ 'z') ∨ ('A' ≤ c ∧ c ≤ 'Z') := by
  have heq : c.isAlpha = (decide ('A' ≤ c ∧ c ≤ 'Z') || ('a' ≤ c && c ≤ 'z')) := rfl
  rw [heq, Bool.or_eq_true, Bool.and_eq_true, decide_eq_true_eq, decide_eq_true_eq, decide_eq_true_eq, or_comm]

/-- A name begins with a letter or an underscore. -/
lemma startsName_iff : startsName c = true ↔ IsLetter c := by
  rw [startsName, Bool.or_eq_true, beq_iff_eq, isAlpha_iff, or_assoc, IsLetter]

/-- A name goes on with letters, underscores and digits. -/
lemma continuesName_iff : continuesName c = true ↔ IsLetter c ∨ ('0' ≤ c ∧ c ≤ '9') := by
  have hdigit : c.isDigit = true ↔ '0' ≤ c ∧ c ≤ '9' := by
    have heq : c.isDigit = ('0' ≤ c && c ≤ '9') := rfl
    rw [heq, Bool.and_eq_true, decide_eq_true_eq, decide_eq_true_eq]
  rw [← startsName_iff, ← hdigit, ← Bool.or_eq_true, continuesName, startsName, Char.isAlphanum,
    Bool.or_right_comm]

/-- The check for identifiers accepts just the names. -/
lemma isIdentifier_iff : isIdentifier cs = true ↔ IsName cs := by
  cases cs with
  | nil => simp [isIdentifier, IsName]
  | cons c cs => simp [isIdentifier, IsName, startsName_iff, continuesName_iff]

end SecureWorld.Text

namespace SecureWorld.Numeral

variable {base n : Nat} {c : Char} {ds cs : List Char} {w : Word}

/-- A character is the digit for a number below the base, with letters in either case. -/
def IsDigitFor (base : Nat) (c : Char) (d : Nat) : Prop :=
  d < base ∧ ("0123456789abcdef".toList[d]? = some c ∨ "0123456789ABCDEF".toList[d]? = some c)

/-- The number that digits of a base stand for, the last of them for the ones. -/
inductive Digits (base : Nat) : List Char → Nat → Prop where
  | one {c : Char} {d : Nat} : IsDigitFor base c d → Digits base [c] d
  | snoc {cs : List Char} {c : Char} {n d : Nat} : Digits base cs n → IsDigitFor base c d →
    Digits base (cs ++ [c]) (base * n + d)

/-- A plus sign, or none. -/
inductive Sign : List Char → Prop where
  | none : Sign []
  | plus : Sign ['+']

/-- The number that a numeral stands for: decimal digits, or digits of base sixteen behind `0x` or `0X`. -/
inductive Spells : List Char → Nat → Prop where
  | decimal {sign ds : List Char} {n : Nat} : Sign sign → Digits 10 ds n → Spells (sign ++ ds) n
  | hex {x : Char} {sign ds : List Char} {n : Nat} : x = 'x' ∨ x = 'X' → Sign sign → Digits 16 ds n →
    Spells ('0' :: x :: (sign ++ ds)) n

instance {d : Nat} : Decidable (IsDigitFor base c d) :=
  inferInstanceAs (Decidable (_ ∧ _))

/-- Digits of a smaller base are those digits of base sixteen that stand for smaller numbers. -/
lemma isDigitFor_iff_of_le {d : Nat} (hbase : base ≤ 16) : IsDigitFor base c d ↔ d < base ∧ IsDigitFor 16 c d :=
  ⟨fun h => ⟨h.1, h.1.trans_le hbase, h.2⟩, fun h => ⟨h.1, h.2.2⟩⟩

/-- The number that a digit of base sixteen stands for. -/
lemma IsDigitFor.digitValue_eq {d : Nat} (h : IsDigitFor 16 c d) : c.isHexDigit = true ∧ Hex.digitValue c = d := by
  obtain ⟨hd, h⟩ := h
  interval_cases d <;> obtain h | h := h <;> cases h <;> decide

/-- The digits of base sixteen are characters of ASCII, none of them behind the letter f. -/
lemma toNat_lt_of_isHexDigit (h : c.isHexDigit = true) : c.toNat < 103 := by
  simp only [Char.isHexDigit, Char.isDigit, Bool.or_eq_true, Bool.and_eq_true, decide_eq_true_eq, ge_iff_le,
    UInt32.le_iff_toNat_le] at h
  change c.val.toNat < 103
  obtain (⟨-, h⟩ | ⟨-, h⟩) | ⟨-, h⟩ := h
  all_goals exact Nat.lt_of_le_of_lt h (by decide)

/-- A character is a digit for the number that is read from it. -/
lemma isDigitFor_digitValue (h : c.isHexDigit = true) : IsDigitFor 16 c (Hex.digitValue c) := by
  have hchar : ∀ n < 103, (Char.ofNat n).isHexDigit = true →
      IsDigitFor 16 (Char.ofNat n) (Hex.digitValue (Char.ofNat n)) := by
    decide
  have hc := hchar c.toNat (toNat_lt_of_isHexDigit h)
  rw [Char.ofNat_toNat] at hc
  exact hc h

/-- A digit stands for one number. -/
lemma isDigitFor_iff {d : Nat} (hbase : base ≤ 16) :
    IsDigitFor base c d ↔ isDigit base c = true ∧ d = Hex.digitValue c := by
  rw [isDigitFor_iff_of_le hbase, isDigit, Bool.and_eq_true, decide_eq_true_eq]
  constructor
  · rintro ⟨hd, h⟩
    obtain ⟨hhex, rfl⟩ := h.digitValue_eq
    exact ⟨⟨hhex, hd⟩, rfl⟩
  · rintro ⟨⟨hhex, hd⟩, rfl⟩
    exact ⟨hd, isDigitFor_digitValue hhex⟩

/-- One more digit multiplies the value by the base. -/
lemma value_append_singleton : value base (cs ++ [c]) = base * value base cs + Hex.digitValue c := by
  rw [value, List.foldl_append]
  rfl

/-- Digits spell a number if there is one at least, all of them are digits of the base, and the number is their
value. -/
lemma digits_iff (hbase : base ≤ 16) :
    Digits base ds n ↔ ds ≠ [] ∧ (∀ c ∈ ds, isDigit base c = true) ∧ n = value base ds := by
  constructor
  · intro h
    induction h with
    | one hd =>
      obtain ⟨hc, rfl⟩ := (isDigitFor_iff hbase).1 hd
      exact ⟨nofun, List.forall_mem_singleton.2 hc, by simp [value]⟩
    | snoc _ hd ih =>
      obtain ⟨hc, rfl⟩ := (isDigitFor_iff hbase).1 hd
      obtain ⟨-, hds, rfl⟩ := ih
      refine ⟨by simp, ?_, value_append_singleton.symm⟩
      exact List.forall_mem_append.2 ⟨hds, List.forall_mem_singleton.2 hc⟩
  · rintro ⟨hne, hds, rfl⟩
    -- from the end, for the value grows with the last digit
    induction ds using List.reverseRecOn with
    | nil => exact absurd rfl hne
    | append_singleton cs c ih =>
      obtain ⟨hcs, hc⟩ := List.forall_mem_append.1 hds
      have hd := (isDigitFor_iff hbase).2 ⟨hc c List.mem_cons_self, rfl⟩
      cases cs with
      | nil =>
        rw [value_append_singleton, value, List.foldl_nil, Nat.mul_zero, Nat.zero_add]
        exact .one hd
      | cons a cs =>
        rw [value_append_singleton]
        exact .snoc (ih nofun hcs) hd

/-- Digits are read as the word that they spell, and as nothing if they spell none. -/
lemma digits?_eq_some_iff (hbase : base ≤ 16) : digits? base ds = some w ↔ Digits base ds w.toNat := by
  have hcond : (!ds.isEmpty && ds.all (isDigit base) && decide (value base ds < 0x10000000000000000)) = true ↔
      (ds ≠ [] ∧ ∀ c ∈ ds, isDigit base c = true) ∧ value base ds < 2 ^ 64 := by
    simp
  rw [digits?, Option.ite_none_right_eq_some, hcond, digits_iff hbase]
  constructor
  · rintro ⟨⟨⟨hne, hds⟩, hlt⟩, h⟩
    cases h
    exact ⟨hne, hds, UInt64.toNat_ofNat_of_lt hlt⟩
  · rintro ⟨hne, hds, h⟩
    refine ⟨⟨⟨hne, hds⟩, h ▸ w.toNat_lt⟩, ?_⟩
    rw [← h, UInt64.ofNat_toNat]

/-- A sign before digits is left out. -/
lemma unsigned_append {sign : List Char} (hsign : Sign sign) (hds : ∀ c ∈ ds, isDigit base c = true) :
    unsigned (sign ++ ds) = ds := by
  cases hsign with
  | plus => rfl
  | none =>
    rw [List.nil_append, unsigned]
    rintro cs rfl
    exact absurd (hds '+' List.mem_cons_self) (by simp [isDigit, show Char.isHexDigit '+' = false by decide])

/-- A text is what is left of it behind its sign, if it has one. -/
lemma exists_sign_append (cs : List Char) : ∃ sign, Sign sign ∧ cs = sign ++ unsigned cs := by
  unfold unsigned
  split
  · exact ⟨['+'], .plus, rfl⟩
  · exact ⟨[], .none, rfl⟩

/-- Behind a sign, or without one, digits are read as the word that they spell. -/
lemma digits?_unsigned_eq_some_iff (hbase : base ≤ 16) :
    digits? base (unsigned cs) = some w ↔ ∃ sign ds, Sign sign ∧ Digits base ds w.toNat ∧ cs = sign ++ ds := by
  rw [digits?_eq_some_iff hbase]
  constructor
  · intro h
    obtain ⟨sign, hsign, heq⟩ := exists_sign_append cs
    exact ⟨sign, _, hsign, h, heq⟩
  · rintro ⟨sign, ds, hsign, h, rfl⟩
    rwa [unsigned_append hsign ((digits_iff hbase).1 h).2.1]

/-- Digits of base ten, with a sign or without one, are not taken for the mark of base sixteen. -/
lemma word?_append {sign : List Char} (hsign : Sign sign) (hds : ∀ c ∈ ds, isDigit 10 c = true) :
    word? (sign ++ ds) = digits? 10 (unsigned (sign ++ ds)) := by
  cases hsign with
  | plus => rfl
  | none =>
    rw [List.nil_append, word?]
    all_goals
      rintro cs rfl
      obtain ⟨-, hx, -⟩ := List.forall_mem_cons.1 hds |>.imp_right List.forall_mem_cons.1
      cases hx

/-- The reader of numerals finds the number that a numeral stands for, if it is the number of a word. -/
lemma word?_eq_some_iff : word? cs = some w ↔ Spells cs w.toNat := by
  constructor
  · intro h
    unfold word? at h
    split at h
    all_goals obtain ⟨sign, ds, hsign, hds, rfl⟩ := (digits?_unsigned_eq_some_iff (by decide)).1 h
    · exact .hex (.inl rfl) hsign hds
    · exact .hex (.inr rfl) hsign hds
    · exact .decimal hsign hds
  · intro h
    generalize hn : w.toNat = n at h
    cases h with
    | @decimal sign ds _ hsign h =>
      rw [word?_append hsign ((digits_iff (by decide)).1 h).2.1, digits?_unsigned_eq_some_iff (by decide)]
      exact ⟨sign, ds, hsign, hn ▸ h, rfl⟩
    | @hex x sign ds _ hx hsign h =>
      have hword : digits? 16 (unsigned (sign ++ ds)) = some w :=
        (digits?_unsigned_eq_some_iff (by decide)).2 ⟨sign, ds, hsign, hn ▸ h, rfl⟩
      obtain rfl | rfl := hx
      · exact hword
      · exact hword

end SecureWorld.Numeral
