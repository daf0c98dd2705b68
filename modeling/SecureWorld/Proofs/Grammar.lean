import Mathlib.Data.List.Forall2
import Mathlib.Data.List.Perm.Basic
import Mathlib.Order.Bounds.Defs
import SecureWorld.Proofs.Lexemes
import SecureWorld.ServiceList.Parser

/-!
# Which texts are service lists

`Row` says which entry a line stands for, `WellFormed` which lines make a list, and `Faulty` which line is at fault.
`addLines_ok_iff` is what the reader makes of lines that it accepts, `addLines_error` where it stops, and
`parse_exact` joins the two: the reader accepts the well-formed texts, the entries depend on nothing but what the
lines say, and an error names the first line at fault.
-/

namespace SecureWorld.ServiceList

open Text (IsGap IsName Fielded Padded bareLines)

variable {raw gap : List Char} {ls ls' pre post gaps : List (List Char)} {e x : Entry} {es es' xs : List Entry}
  {n i : Nat} {err : ListError}

/-! ## Rows -/

/-- A line says something: behind blanks stands a character that is none and that starts no comment. -/
def Significant (raw : List Char) : Prop :=
  ∃ gap c rest, IsGap gap ∧ Text.isBlank c = false ∧ c ≠ '#' ∧ raw = gap ++ c :: rest

/-- The entry that a line stands for: four fields spell it. -/
inductive Row : List Char → Entry → Prop where
  | mk {raw nr family name nargs : List Char} {number arity : Word} : Fielded raw [nr, family, name, nargs] →
    Numeral.Spells nr number.toNat → IsName name → Numeral.Spells nargs arity.toNat →
    Row raw ⟨number, String.ofList family, String.ofList name, arity⟩

/-- What is left of a line when it is trimmed tells whether it counts. -/
lemma isSignificant_trim_iff : isSignificant (Text.trim raw) = true ↔ Significant raw := by
  constructor
  · intro h
    cases ht : Text.trim raw with
    | nil =>
      rw [ht] at h
      cases h
    | cons c rest =>
      rw [ht] at h
      obtain ⟨hc, gap, rest, hgap, rfl⟩ := Text.trim_eq_cons_iff.1 ⟨rest, ht⟩
      exact ⟨gap, c, rest, hgap, hc, by simpa [isSignificant] using h, rfl⟩
  · rintro ⟨gap, c, rest, hgap, hc, hne, rfl⟩
    obtain ⟨rest', ht⟩ := Text.trim_eq_cons_iff.2 ⟨hc, gap, rest, hgap, rfl⟩
    rw [ht]
    simpa [isSignificant] using hne

instance : DecidablePred Significant :=
  fun _ => decidable_of_iff _ isSignificant_trim_iff

/-- A field is read as the number that it spells. -/
lemma readNumber_ok_iff {field : List Char} {w : Word} :
    readNumber n field = .ok w ↔ Numeral.Spells field w.toNat := by
  rw [← Numeral.word?_eq_some_iff, readNumber]
  cases Numeral.word? field with
  | none => exact ⟨nofun, nofun⟩
  | some w' => simp

/-- Four fields make an entry if two of them spell words and one is a name. -/
lemma ofFields_ok_iff {nr family name nargs : List Char} :
    Entry.ofFields n nr family name nargs = .ok e ↔ ∃ number arity : Word, Numeral.Spells nr number.toNat ∧
      Numeral.Spells nargs arity.toNat ∧ IsName name ∧
      ⟨number, String.ofList family, String.ofList name, arity⟩ = e := by
  constructor
  · intro h
    obtain ⟨number, hnumber, h⟩ := bind_ok h
    obtain ⟨arity, harity, h⟩ := bind_ok h
    split at h
    next hname =>
      cases h
      exact ⟨number, arity, readNumber_ok_iff.1 hnumber, readNumber_ok_iff.1 harity,
        Text.isIdentifier_iff.1 hname, rfl⟩
    next => cases h
  · rintro ⟨number, arity, hnumber, harity, hname, rfl⟩
    rw [Entry.ofFields, readNumber_ok_iff.2 hnumber, readNumber_ok_iff.2 harity]
    exact if_pos (Text.isIdentifier_iff.2 hname)

/-- The reader of lines finds the entry that a line stands for. -/
lemma ofLine_ok_iff : Entry.ofLine n (Text.trim raw) = .ok e ↔ Row raw e := by
  constructor
  · intro h
    unfold Entry.ofLine at h
    split at h
    next nr family name nargs hfields =>
      rw [Text.fields_trim] at hfields
      obtain ⟨number, arity, hnumber, harity, hname, rfl⟩ := ofFields_ok_iff.1 h
      exact .mk (Text.fielded_iff.2 hfields) hnumber hname harity
    next => cases h
  · rintro ⟨hfields, hnumber, hname, harity⟩
    rw [Entry.ofLine, Text.fields_trim, Text.fielded_iff.1 hfields]
    exact ofFields_ok_iff.2 ⟨_, _, hnumber, harity, hname, rfl⟩

/-- A line stands for one entry. -/
lemma Row.unique (h : Row raw e) (h' : Row raw x) : e = x := by
  have heq := (ofLine_ok_iff (n := 0)).2 h
  rw [ofLine_ok_iff.2 h'] at heq
  cases heq
  rfl

/-- A line that stands for an entry starts no comment: no numeral starts with the sign of one. -/
lemma Row.significant (h : Row raw e) : Significant raw := by
  cases h with
  | @mk nr _ _ _ _ _ hfields hnumber =>
    cases hfields with
    | @cons gap _ rest _ hgap hfield _ _ =>
      cases nr with
      | nil => exact absurd rfl hfield.ne_nil
      | cons c nr =>
        refine ⟨gap, c, nr ++ rest, hgap, hfield.not_blank c List.mem_cons_self, ?_, rfl⟩
        rintro rfl
        have hword := Numeral.word?_eq_some_iff.2 hnumber
        simp [Numeral.word?, Numeral.unsigned, Numeral.digits?, Numeral.isDigit,
          show Char.isHexDigit '#' = false by decide] at hword

/-! ## Errors -/

/-- The number of the line that an error names. -/
def ListError.line? : ListError → Option Nat
  | .malformed line _ | .badNumber line _ | .duplicate line _ | .badName line _ => some line
  | .empty => none

/-- A number that cannot be read is reported with its line. -/
lemma readNumber_error {field : List Char} (h : readNumber n field = .error err) : err.line? = some n := by
  unfold readNumber at h
  split at h
  next => cases h
  next =>
    cases h
    rfl

/-- A line that cannot be read is reported with its number. -/
lemma ofLine_error {text : List Char} (h : Entry.ofLine n text = .error err) : err.line? = some n := by
  unfold Entry.ofLine at h
  split at h
  next =>
    obtain h | ⟨number, -, h⟩ := bind_error h
    · exact readNumber_error h
    obtain h | ⟨arity, -, h⟩ := bind_error h
    · exact readNumber_error h
    split at h
    next => cases h
    next =>
      cases h
      rfl
  next =>
    cases h
    rfl

/-! ## Insertion -/

/-- Entries in ascending order of their numbers. -/
def Ascending (es : List Entry) : Prop :=
  es.Pairwise (·.number < ·.number)

/-- No two entries of an ascending list have the same number. -/
lemma Ascending.numbers_nodup (h : Ascending es) : (es.map Entry.number).Nodup :=
  List.pairwise_map.2 (h.imp UInt64.ne_of_lt)

/-- The order of the numbers leaves one way to arrange entries. -/
lemma Ascending.eq_of_perm (h : Ascending es) (h' : Ascending es') (hp : es.Perm es') : es = es' :=
  hp.eq_of_pairwise (fun _ _ _ _ hlt hgt => absurd hgt (UInt64.lt_asymm hlt)) h h'

/-- An entry is added to the others, of which none is lost. -/
lemma insert?_perm (h : insert? e es = some es') : es'.Perm (e :: es) := by
  induction es generalizing es' with
  | nil =>
    cases h
    exact .refl _
  | cons x es ih =>
    unfold insert? at h
    split at h
    next =>
      cases h
      exact .refl _
    next =>
      split at h
      next => cases h
      next =>
        obtain ⟨es'', hes, rfl⟩ := Option.map_eq_some_iff.1 h
        exact ((ih hes).cons x).trans (.swap e x es)

/-- An entry is left out only if its number is taken. -/
lemma insert?_eq_none_iff (h : Ascending es) : insert? e es = none ↔ ∃ x ∈ es, x.number = e.number := by
  induction es with
  | nil => simp [insert?]
  | cons y es ih =>
    obtain ⟨hy, hes⟩ := List.pairwise_cons.1 h
    rw [insert?]
    split
    next hlt =>
      refine ⟨nofun, ?_⟩
      rintro ⟨x, hx, heq⟩
      -- the first entry is greater than the new one, and so are the others
      have hle : y.number ≤ x.number := by
        obtain rfl | hx := List.mem_cons.1 hx
        · exact UInt64.le_refl _
        · exact UInt64.le_of_lt (hy x hx)
      exact absurd (heq ▸ hle) (UInt64.not_le.2 hlt)
    next =>
      split
      next heq => exact ⟨fun _ => ⟨y, List.mem_cons_self, heq.symm⟩, fun _ => rfl⟩
      next hne =>
        rw [Option.map_eq_none_iff, ih hes]
        simp [Ne.symm hne]

/-- An entry can be put among others if all of them can be arranged in ascending order, with further ones. -/
lemma exists_insert? (hes : Ascending es) (hes' : Ascending es') (hp : es'.Perm (es ++ e :: xs)) :
    ∃ es₁, insert? e es = some es₁ := by
  refine Option.ne_none_iff_exists'.1 ?_
  rw [ne_eq, insert?_eq_none_iff hes]
  rintro ⟨x, hx, heq⟩
  -- the number would stand twice among those of all entries
  have hnodup := (hp.map Entry.number).nodup_iff.1 hes'.numbers_nodup
  rw [List.map_append, List.map_cons] at hnodup
  exact (List.nodup_append.1 hnodup).2.2 _ (List.mem_map_of_mem hx) _ List.mem_cons_self heq

/-! ## Lines one after the other -/

/-- A line that does not count adds nothing. -/
lemma addLine_of_not_significant (h : ¬ Significant raw) : addLine es n raw = .ok es := by
  rw [addLine, if_neg (isSignificant_trim_iff.not.2 h)]
  rfl

/-- A line that counts is a row whose number is not taken. -/
lemma addLine_ok_iff (hs : Significant raw) :
    addLine es n raw = .ok es' ↔ ∃ e, Row raw e ∧ insert? e es = some es' := by
  rw [addLine, if_pos (isSignificant_trim_iff.2 hs)]
  constructor
  · intro h
    obtain ⟨e, he, h⟩ := bind_ok h
    refine ⟨e, ofLine_ok_iff.1 he, ?_⟩
    split at h
    next hes =>
      cases h
      exact hes
    next => cases h
  · rintro ⟨e, he, hes⟩
    simp only [ofLine_ok_iff.2 he, bind, Except.bind, hes]
    rfl

/-- A line is refused if it stands for no entry, or for one with a number that is taken. -/
lemma addLine_error (h : addLine es n raw = .error err) :
    err.line? = some n ∧ Significant raw ∧ ∀ e, Row raw e → insert? e es = none := by
  have hs : Significant raw := by
    by_contra hs
    rw [addLine_of_not_significant hs] at h
    cases h
  refine ⟨?_, hs, ?_⟩
  · rw [addLine, if_pos (isSignificant_trim_iff.2 hs)] at h
    obtain h | ⟨e, -, h⟩ := bind_error h
    · exact ofLine_error h
    · split at h
      next => cases h
      next =>
        cases h
        rfl
  · intro e he
    cases hes : insert? e es with
    | none => rfl
    | some es' =>
      rw [(addLine_ok_iff hs).2 ⟨e, he, hes⟩] at h
      cases h

/-- Lines are added one after the other. -/
lemma addLines_cons : addLines es n (raw :: ls) = addLine es n raw >>= fun es => addLines es (n + 1) ls :=
  rfl

/-- What is read from lines: the entries before them and one for each line that says something, in ascending
order. -/
lemma addLines_ok_iff (hes : Ascending es) : addLines es n ls = .ok es' ↔
    Ascending es' ∧ ∃ xs, List.Forall₂ Row (ls.filter (Significant ·)) xs ∧ es'.Perm (es ++ xs) := by
  induction ls generalizing es n with
  | nil =>
    constructor
    · intro h
      cases h
      exact ⟨hes, [], .nil, by rw [List.append_nil]⟩
    · rintro ⟨hes', xs, hrows, hp⟩
      cases hrows
      rw [List.append_nil] at hp
      rw [hes'.eq_of_perm hes hp]
      rfl
  | cons raw ls ih =>
    rw [addLines_cons]
    by_cases hs : Significant raw
    · rw [List.filter_cons_of_pos (by simpa using hs)]
      constructor
      · intro h
        obtain ⟨es₁, h₁, h⟩ := bind_ok h
        obtain ⟨e, he, hinsert⟩ := (addLine_ok_iff hs).1 h₁
        obtain ⟨hes', xs, hrows, hp⟩ := (ih (pairwise_insert? hinsert hes)).1 h
        refine ⟨hes', e :: xs, .cons he hrows, ?_⟩
        exact hp.trans (((insert?_perm hinsert).append_right xs).trans List.perm_middle.symm)
      · rintro ⟨hes', xs, hrows, hp⟩
        obtain ⟨e, xs, he, hrest, rfl⟩ := List.forall₂_cons_left_iff.1 hrows
        -- the result is ascending, so the number of the line is not among those before it
        obtain ⟨es₁, hinsert⟩ := exists_insert? hes hes' hp
        rw [(addLine_ok_iff hs).2 ⟨e, he, hinsert⟩]
        refine (ih (pairwise_insert? hinsert hes)).2 ⟨hes', xs, hrest, ?_⟩
        exact hp.trans (List.perm_middle.trans ((insert?_perm hinsert).append_right xs).symm)
    · rw [List.filter_cons_of_neg (by simpa using hs), addLine_of_not_significant hs]
      exact ih hes

/-- The reader stops at the first line that it refuses. -/
lemma addLines_error (h : addLines es n ls = .error err) :
    ∃ pre raw post es', ls = pre ++ raw :: post ∧ addLines es n pre = .ok es' ∧
      addLine es' (n + pre.length) raw = .error err := by
  induction ls generalizing es n with
  | nil => cases h
  | cons raw ls ih =>
    obtain h | ⟨es₁, h₁, h⟩ := bind_error h
    · exact ⟨[], raw, ls, es, rfl, rfl, h⟩
    · obtain ⟨pre, raw', post, es', rfl, hpre, herr⟩ := ih h
      refine ⟨raw :: pre, raw', post, es', rfl, ?_, ?_⟩
      · rw [addLines_cons, h₁]
        exact hpre
      · rwa [List.length_cons, Nat.add_comm pre.length, ← Nat.add_assoc]

/-! ## Gaps behind lines -/

/-- A gap at the end of a line makes no difference. -/
lemma addLine_append_gap (h : IsGap gap) : addLine es n (raw ++ gap) = addLine es n raw := by
  rw [addLine, addLine, Text.trim_append_gap h]

/-- Lines of blanks add nothing. -/
lemma addLines_gaps (h : ∀ gap ∈ gaps, IsGap gap) : addLines es n gaps = .ok es := by
  induction gaps generalizing n with
  | nil => rfl
  | cons gap gaps ih =>
    obtain ⟨hgap, hgaps⟩ := List.forall_mem_cons.1 h
    have hline : addLine es n gap = .ok es := by
      rw [addLine, Text.trim_gap hgap]
      rfl
    rw [addLines_cons, hline]
    exact ih hgaps

/-- Lines may be padded with gaps. -/
lemma addLines_padded (h : Padded ls ls') : addLines es n ls' = addLines es n ls := by
  induction h generalizing es n with
  | nil hgaps => exact addLines_gaps hgaps
  | cons hgap _ ih =>
    rw [addLines_cons, addLines_cons, addLine_append_gap hgap]
    exact bind_congr fun _ => ih

/-- A carriage return before the end of a line makes no difference. -/
lemma parse_eq (text : String) : parse text = addLines [] 1 (bareLines text.toList) :=
  addLines_padded (Text.padded_lines text.toList)

/-! ## Well-formed texts -/

/-- Lines that make a list: those that say something are rows, with different numbers. -/
structure WellFormed (ls : List (List Char)) : Prop where
  row : ∀ l ∈ ls, Significant l → ∃ e, Row l e
  distinct : ls.Pairwise fun l l' => ∀ e e', Row l e → Row l' e' → e.number ≠ e'.number

/-- The line at an index is at fault. -/
inductive Faulty (ls : List (List Char)) (i : Nat) : Prop where
  /-- It says something but is no row. -/
  | illFormed {l : List Char} : ls[i]? = some l → Significant l → (∀ e, ¬ Row l e) → Faulty ls i
  /-- It is a row with the number of a row before it. -/
  | repeated {l l' : List Char} {e e' : Entry} {j : Nat} : ls[i]? = some l → Row l e → j < i →
    ls[j]? = some l' → Row l' e' → e'.number = e.number → Faulty ls i

/-- The lines of a text that say something. -/
def significantLines (text : String) : List (List Char) :=
  (bareLines text.toList).filter (Significant ·)

/-- No line of a well-formed list is at fault. -/
lemma WellFormed.not_faulty (h : WellFormed ls) : ¬ Faulty ls i := by
  intro hf
  cases hf with
  | illFormed hl hs hnone =>
    obtain ⟨e, he⟩ := h.row _ (List.mem_of_getElem? hl) hs
    exact hnone e he
  | repeated hl he hlt hl' he' heq =>
    obtain ⟨hi, rfl⟩ := List.getElem?_eq_some_iff.1 hl
    obtain ⟨hj, rfl⟩ := List.getElem?_eq_some_iff.1 hl'
    exact List.pairwise_iff_getElem.1 h.distinct _ _ hj hi hlt _ _ he' he heq

/-- The entries are those of the lines. -/
lemma mem_iff_of_forall₂ (h : List.Forall₂ Row ls xs) : e ∈ xs ↔ ∃ l ∈ ls, Row l e := by
  induction h with
  | nil => simp
  | @cons l x ls xs hx _ ih =>
    have hhead : e = x ↔ Row l e := ⟨fun heq => heq ▸ hx, fun he => he.unique hx⟩
    simp [ih, hhead]

/-- The entries are those of the lines that count. -/
lemma mem_iff_of_rows (h : List.Forall₂ Row (ls.filter (Significant ·)) xs) : e ∈ xs ↔ ∃ l ∈ ls, Row l e := by
  rw [mem_iff_of_forall₂ h]
  constructor
  · rintro ⟨l, hl, he⟩
    exact ⟨l, List.mem_of_mem_filter hl, he⟩
  · rintro ⟨l, hl, he⟩
    exact ⟨l, List.mem_filter.2 ⟨hl, decide_eq_true he.significant⟩, he⟩

/-- A line before a well-formed list is a row with a new number, or does not count. -/
lemma WellFormed.cons (h : WellFormed ls) (hrow : Significant raw → ∃ e, Row raw e)
    (hnew : ∀ e, Row raw e → ∀ l ∈ ls, ∀ e', Row l e' → e.number ≠ e'.number) : WellFormed (raw :: ls) where
  row := List.forall_mem_cons.2 ⟨hrow, h.row⟩
  distinct := List.pairwise_cons.2 ⟨fun l hl e e' he he' => hnew e he l hl e' he', h.distinct⟩

/-- A list is well-formed if its lines that count are rows with different numbers. -/
lemma wellFormed_of_rows (hrows : List.Forall₂ Row (ls.filter (Significant ·)) xs)
    (hxs : (xs.map Entry.number).Nodup) : WellFormed ls := by
  induction ls generalizing xs with
  | nil => exact ⟨nofun, .nil⟩
  | cons raw ls ih =>
    by_cases hs : Significant raw
    · rw [List.filter_cons_of_pos (by simpa using hs)] at hrows
      obtain ⟨e, xs, he, hrest, rfl⟩ := List.forall₂_cons_left_iff.1 hrows
      obtain ⟨hnew, hxs⟩ := List.nodup_cons.1 hxs
      refine (ih hrest hxs).cons (fun _ => ⟨e, he⟩) ?_
      intro e₁ h₁ l hl e₂ h₂ heq
      obtain rfl := h₁.unique he
      exact hnew (heq ▸ List.mem_map_of_mem ((mem_iff_of_rows hrest).2 ⟨l, hl, h₂⟩))
    · rw [List.filter_cons_of_neg (by simpa using hs)] at hrows
      exact (ih hrows hxs).cons (fun h => absurd h hs) fun _ he => absurd he.significant hs

/-- A list that is read is well-formed. -/
lemma wellFormed_of_ok (h : addLines [] n ls = .ok es) : WellFormed ls := by
  obtain ⟨hes, xs, hrows, hp⟩ := (addLines_ok_iff .nil).1 h
  exact wellFormed_of_rows hrows ((hp.map Entry.number).nodup_iff.1 hes.numbers_nodup)

/-- Whether a line is at fault depends on no line behind it. -/
lemma Faulty.of_append (h : Faulty (pre ++ post) i) (hi : i < pre.length) : Faulty pre i := by
  cases h with
  | illFormed hl hs hnone =>
    rw [List.getElem?_append_left hi] at hl
    exact .illFormed hl hs hnone
  | repeated hl he hlt hl' he' heq =>
    rw [List.getElem?_append_left hi] at hl
    rw [List.getElem?_append_left (hlt.trans hi)] at hl'
    exact .repeated hl he hlt hl' he' heq

/-- A line that is refused is at fault, and none before it. -/
lemma isLeast_faulty (hpre : addLines [] n pre = .ok es) (h : addLine es (n + pre.length) raw = .error err) :
    IsLeast {i | Faulty (pre ++ raw :: post) i} pre.length := by
  obtain ⟨-, hs, htaken⟩ := addLine_error h
  obtain ⟨hes, xs, hrows, hp⟩ := (addLines_ok_iff .nil).1 hpre
  have hraw : (pre ++ raw :: post)[pre.length]? = some raw := by
    rw [List.getElem?_append_right (Nat.le_refl _), Nat.sub_self]
    rfl
  constructor
  · by_cases hrow : ∃ e, Row raw e
    · obtain ⟨e, he⟩ := hrow
      -- the row is refused because an earlier one has its number
      obtain ⟨x, hx, heq⟩ := (insert?_eq_none_iff hes).1 (htaken e he)
      obtain ⟨l, hl, hrow⟩ := (mem_iff_of_rows hrows).1 (hp.mem_iff.1 hx)
      obtain ⟨j, hj, rfl⟩ := List.mem_iff_getElem.1 hl
      refine .repeated hraw he hj ?_ hrow heq
      rw [List.getElem?_append_left hj, List.getElem?_eq_getElem hj]
    · exact .illFormed hraw hs (not_exists.1 hrow)
  · intro i hi
    -- the lines before it were accepted, so none of them is faulty
    by_contra hlt
    exact (wellFormed_of_ok hpre).not_faulty (hi.of_append (Nat.lt_of_not_le hlt))

/-- The error names the first line that is faulty. -/
lemma error_of_lines (h : addLines [] 1 ls = .error err) :
    ∃ i, err.line? = some (i + 1) ∧ IsLeast {i | Faulty ls i} i := by
  obtain ⟨pre, raw, post, es, rfl, hpre, herr⟩ := addLines_error h
  refine ⟨pre.length, ?_, isLeast_faulty hpre herr⟩
  rw [Nat.add_comm]
  exact (addLine_error herr).1

/-- A list is read exactly if it is well-formed. -/
lemma ok_iff_wellFormed : (∃ es, addLines [] 1 ls = .ok es) ↔ WellFormed ls := by
  constructor
  · rintro ⟨es, h⟩
    exact wellFormed_of_ok h
  · intro hls
    cases h : addLines [] 1 ls with
    | ok es => exact ⟨es, rfl⟩
    | error err =>
      obtain ⟨i, -, hi, -⟩ := error_of_lines h
      exact absurd hi hls.not_faulty

/-- What is read is the entries of the rows in ascending order. -/
lemma parse_ok_iff {text : String} : parse text = .ok es ↔
    Ascending es ∧ ∃ xs, List.Forall₂ Row (significantLines text) xs ∧ es.Perm xs := by
  rw [parse_eq, addLines_ok_iff .nil]
  rfl

/-- The order of lines makes no difference to what is read, up to its order. -/
lemma rows_of_perm (hp : ls.Perm ls') (h : ∃ xs, List.Forall₂ Row ls xs ∧ es.Perm xs) :
    ∃ xs, List.Forall₂ Row ls' xs ∧ es.Perm xs := by
  obtain ⟨xs, hrows, hes⟩ := h
  obtain ⟨xs', hrows', hxs⟩ := List.perm_comp_forall₂ hp.symm hrows
  exact ⟨xs', hrows', hes.trans hxs.symm⟩

/-- A text is a service list if and only if its lines are well-formed. What is read from it are the entries of its
rows in ascending order, so that the order of the lines makes no difference, nor do lines that say nothing. An error
names the first line at fault, counted from one. -/
theorem parse_exact (text : String) :
    ((∃ es, parse text = .ok es) ↔ WellFormed (bareLines text.toList)) ∧
    (∀ es, parse text = .ok es ↔
      es.Pairwise (·.number < ·.number) ∧ ∃ xs, List.Forall₂ Row (significantLines text) xs ∧ es.Perm xs) ∧
    (∀ text', (significantLines text).Perm (significantLines text') →
      ∀ es, parse text = .ok es ↔ parse text' = .ok es) ∧
    (∀ err, parse text = .error err →
      ∃ i, err.line? = some (i + 1) ∧ IsLeast {i | Faulty (bareLines text.toList) i} i) := by
  refine ⟨?_, fun es => parse_ok_iff, ?_, ?_⟩
  · rw [parse_eq]
    exact ok_iff_wellFormed
  · intro text' hp es
    rw [parse_ok_iff, parse_ok_iff]
    exact and_congr_right fun _ => ⟨rows_of_perm hp, rows_of_perm hp.symm⟩
  · intro err h
    rw [parse_eq] at h
    exact error_of_lines h

/-- A list and the same services in another order, without the blank line and behind a comment; and a list in which
the third line has the number of the first one, written in another way. -/
theorem lists_read :
    parse "# services\n1 IDF get_key +0\n2 CUSTOM sum 0x10" =
      .ok [⟨1, "IDF", "get_key", 0⟩, ⟨2, "CUSTOM", "sum", 16⟩] ∧
    parse "1 IDF get_key 0\n\n0x1 CUSTOM sum 2\n" = .error (.duplicate 3 1) ∧
    IsLeast {i | Faulty (bareLines "1 IDF get_key 0\n\n0x1 CUSTOM sum 2\n".toList) i} 2 := by
  refine ⟨?_, by rfl, ?_⟩
  · obtain ⟨-, -, horder, -⟩ := parse_exact "2 CUSTOM sum 0x10\r\n\n1 IDF get_key +0\n"
    have hlines : significantLines "2 CUSTOM sum 0x10\r\n\n1 IDF get_key +0\n" =
        ["2 CUSTOM sum 0x10".toList, "1 IDF get_key +0".toList] := by rfl
    have hlines' : significantLines "# services\n1 IDF get_key +0\n2 CUSTOM sum 0x10" =
        ["1 IDF get_key +0".toList, "2 CUSTOM sum 0x10".toList] := by rfl
    refine (horder _ ?_ _).1 (by rfl)
    rw [hlines, hlines']
    exact .swap _ _ []
  · obtain ⟨-, -, -, herror⟩ := parse_exact "1 IDF get_key 0\n\n0x1 CUSTOM sum 2\n"
    obtain ⟨i, hline, hleast⟩ := herror (.duplicate 3 1) (by rfl)
    cases hline
    exact hleast

end SecureWorld.ServiceList
