import Mathlib
import SecureWorld.Proofs.CamelCase
import SecureWorld.Proofs.Grammar
import SecureWorld.ServiceList.IdModule

/-!
# What the module tells of its list

The module of service numbers is taken apart again. A text of lines has no other lines (`join_injective`), lines of a
module fall into its sections in one way (`sections_of_moduleLines`), and the sections tell everything of an entry but
the name of its family (`agree_of_moduleLines`). `module_determines_list` is what this comes to for lists that were
read.
-/

namespace SecureWorld.ServiceList

open Text (IsName)

variable {s t : String} {ls ls' pre post pre' post' mid mid' : List String} {e e' : Entry}
  {es es' : List Entry} {w w' : Word}

/-! ## Lines -/

/-- A text without a line feed. -/
def IsLine (s : String) : Prop :=
  '\n' ∉ s.toList

/-- Texts none of which has a line feed. -/
def AreLines (ls : List String) : Prop :=
  ∀ l ∈ ls, IsLine l

instance : DecidablePred IsLine :=
  fun _ => inferInstanceAs (Decidable (¬ _))

instance : DecidablePred AreLines :=
  fun ls => inferInstanceAs (Decidable (∀ l ∈ ls, IsLine l))

/-- Two texts side by side are one line if neither has a line feed. -/
lemma isLine_append : IsLine (s ++ t) ↔ IsLine s ∧ IsLine t := by
  rw [IsLine, String.toList_append, List.mem_append, not_or]
  rfl

/-- Lines before other lines. -/
lemma AreLines.append (h : AreLines ls) (h' : AreLines ls') : AreLines (ls ++ ls') :=
  List.forall_mem_append.2 ⟨h, h'⟩

/-- A line before other lines. -/
lemma AreLines.cons (h : IsLine s) (h' : AreLines ls) : AreLines (s :: ls) :=
  List.forall_mem_cons.2 ⟨h, h'⟩

/-- A line for every element of a list. -/
lemma areLines_map {α : Type} {f : α → String} {as : List α} (h : ∀ a ∈ as, IsLine (f a)) :
    AreLines (as.map f) :=
  List.forall_mem_map.2 h

/-- Lines, each with its line feed, are taken apart into these lines, and nothing behind them. -/
lemma lines_join (h : AreLines ls) :
    Text.lines (String.join (ls.map (· ++ "\n"))).toList = ls.map String.toList ++ [[]] := by
  induction ls with
  | nil => rfl
  | cons l ls ih =>
    obtain ⟨hl, hls⟩ := List.forall_mem_cons.1 h
    rw [String.toList_join] at ih ⊢
    have hfeed : ∀ c ∈ l.toList, (c == '\n') = false := by
      intro c hc
      rw [beq_eq_false_iff_ne]
      rintro rfl
      exact hl hc
    rw [List.map_cons, List.flatMap_cons, String.toList_append, List.append_assoc]
    refine Text.split_append hfeed ?_
    show Text.split _ ('\n' :: _) = [] :: _
    rw [Text.split, if_pos (beq_self_eq_true '\n')]
    exact congrArg _ (ih hls)

/-- Lines that end in line feeds can be told from the whole text. -/
lemma join_injective (h : AreLines ls) (h' : AreLines ls')
    (heq : String.join (ls.map (· ++ "\n")) = String.join (ls'.map (· ++ "\n"))) : ls = ls' := by
  have hlines := lines_join h
  rw [heq, lines_join h'] at hlines
  exact List.map_injective_iff.2 (fun _ _ => String.toList_inj.1) (List.append_cancel_right hlines).symm

/-! ## Numbers and names -/

/-- A number is written in digits. -/
lemma isDigit_of_mem_toString {n : Nat} : ∀ c ∈ (toString n).toList, c.isDigit = true := by
  intro c hc
  rw [Nat.toString_eq_repr, Nat.toList_repr] at hc
  exact Nat.isDigit_of_mem_toDigits (by decide) (by decide) hc

/-- A number is written on one line. -/
lemma isLine_toString (n : Nat) : IsLine (toString n) := by
  intro h
  exact absurd (isDigit_of_mem_toString _ h) (by decide)

/-- Different words are written as different numerals. -/
lemma decimal_injective (h : decimal w = decimal w') : w = w' :=
  UInt64.toNat_inj.1 (Nat.repr_inj.1 h)

/-- A name has no line feed. -/
lemma isLine_of_isName (h : IsName s.toList) : IsLine s := by
  intro hmem
  exact absurd (CamelCase.isNameText_of_isName h _ hmem) (by decide)

/-- The variant of a service with a name has no line feed. -/
lemma isLine_variant (h : IsName e.name.toList) : IsLine e.variant := by
  intro hmem
  rw [Entry.variant, String.toList_ofList] at hmem
  exact absurd (CamelCase.isAlphanum_of_mem_ofSnake h _ hmem) (by decide)

/-- Entries whose services have names. -/
def Named (es : List Entry) : Prop :=
  ∀ e ∈ es, IsName e.name.toList

/-- The entries that are read have names. -/
lemma named_of_parse {text : String} (h : parse text = .ok es) : Named es := by
  obtain ⟨-, xs, hrows, hp⟩ := parse_ok_iff.1 h
  intro e he
  obtain ⟨l, -, hrow⟩ := (mem_iff_of_forall₂ hrows).1 (hp.mem_iff.1 he)
  cases hrow with
  | mk _ _ hname _ => rwa [String.toList_ofList]

/-! ## The lines of the module -/

/-- An arm of a match is one line if its pattern and its value are. -/
lemma isLine_arm (hs : IsLine s) (ht : IsLine t) : IsLine (arm s t) := by
  simp only [arm, isLine_append]
  exact ⟨⟨⟨⟨by decide, hs⟩, by decide⟩, ht⟩, by decide⟩

/-- A method is written line by line if its parts are. -/
lemma areLines_method {comment arms : List String} {signature subject : String} (hcomment : AreLines comment)
    (hsignature : IsLine signature) (hsubject : IsLine subject) (harms : AreLines arms) :
    AreLines (method comment signature subject arms) := by
  have hhead : AreLines ["    #[must_use]", "    pub const fn " ++ signature ++ " \x7b",
      "        match " ++ subject ++ " \x7b"] := by
    refine .cons (by decide +kernel) (.cons ?_ (.cons ?_ nofun))
    · simp only [isLine_append]
      exact ⟨⟨by decide +kernel, hsignature⟩, by decide⟩
    · simp only [isLine_append]
      exact ⟨⟨by decide +kernel, hsubject⟩, by decide⟩
  exact ((hcomment.append hhead).append harms).append (by decide)

/-- A method with an arm for each entry is written line by line if its values are. -/
lemma areLines_property {comment : List String} {signature : String} {value : Entry → String}
    (hcomment : AreLines comment) (hsignature : IsLine signature) (hes : Named es)
    (hvalue : ∀ e ∈ es, IsLine (value e)) : AreLines (property comment signature value es) := by
  refine areLines_method hcomment hsignature (by decide) (areLines_map fun e he => ?_)
  exact isLine_arm (isLine_append.2 ⟨by decide, isLine_variant (hes e he)⟩) (hvalue e he)

/-- The head of the module, in which nothing but the number of slots changes. -/
lemma areLines_preamble (w : Word) : AreLines (preamble w) := by
  have hslots : IsLine ("pub const MAX_SECURE_SERVICES: usize = " ++ decimal w ++ ";") := by
    simp only [isLine_append]
    exact ⟨⟨by decide +kernel, isLine_toString _⟩, by decide⟩
  -- all lines but the ninth are the same for every list
  have habove : AreLines ((preamble 0).take 8) := by decide +kernel
  have hbelow : AreLines ((preamble 0).drop 9) := by decide +kernel
  exact habove.append (.cons hslots hbelow)

/-- The variants with their numbers, each on a line of its own. -/
lemma areLines_enumeration (hes : Named es) : AreLines (enumeration es) := by
  unfold enumeration
  refine .append (.append (by decide +kernel) (areLines_map fun e he => ?_)) (by decide)
  simp only [isLine_append]
  exact ⟨⟨⟨⟨by decide, isLine_variant (hes e he)⟩, by decide⟩, isLine_toString _⟩, by decide⟩

/-- The list of all variants, each on a line of its own. -/
lemma areLines_listing (hes : Named es) : AreLines (listing es) := by
  unfold listing
  refine .append (.append (.cons (by decide +kernel) (.cons ?_ nofun)) (areLines_map fun e he => ?_)) (by decide)
  · simp only [isLine_append]
    exact ⟨⟨by decide +kernel, isLine_toString _⟩, by decide⟩
  · simp only [isLine_append]
    exact ⟨⟨by decide, isLine_variant (hes e he)⟩, by decide⟩

/-- The method from numbers to variants has an arm on a line of its own for each of them. -/
lemma areLines_fromRaw (hes : Named es) : AreLines (fromRaw es) := by
  refine areLines_method (by decide +kernel) (by decide +kernel) (by decide) ?_
  refine .append (areLines_map fun e he => ?_) (by decide +kernel)
  refine isLine_arm (isLine_toString _) ?_
  simp only [isLine_append]
  exact ⟨⟨by decide, isLine_variant (hes e he)⟩, by decide⟩

/-- The method for names is written line by line. -/
lemma areLines_names (hes : Named es) : AreLines (names es) := by
  refine areLines_property (by decide +kernel) (by decide +kernel) hes fun e he => ?_
  simp only [isLine_append]
  exact ⟨⟨by decide, isLine_of_isName (hes e he)⟩, by decide⟩

/-- The method for arities is written line by line. -/
lemma areLines_arities (hes : Named es) : AreLines (arities es) :=
  areLines_property (by decide +kernel) (by decide +kernel) hes fun _ _ => isLine_toString _

/-- The method for families is written line by line. -/
lemma areLines_families (hes : Named es) : AreLines (families es) := by
  refine areLines_property (by decide) (by decide +kernel) hes fun e _ => ?_
  refine isLine_append.2 ⟨by decide, ?_⟩
  split <;> decide

/-- The whole module is written line by line. -/
lemma areLines_moduleLines (w : Word) (hes : Named es) : AreLines (moduleLines w es) :=
  (areLines_preamble w).append (areLines_enumeration hes)
    |>.append (by decide +kernel)
    |>.append (areLines_listing hes)
    |>.append (by decide)
    |>.append (areLines_fromRaw hes)
    |>.append (by decide)
    |>.append (areLines_names hes)
    |>.append (by decide)
    |>.append (areLines_arities hes)
    |>.append (by decide)
    |>.append (areLines_families hes)
    |>.append (by decide)

/-! ## The sections of the module -/

/-- A method has five lines besides its comment and its arms. -/
lemma length_method {comment arms : List String} {signature subject : String} :
    (method comment signature subject arms).length = comment.length + arms.length + 5 := by
  simp only [method, List.length_append, List.length_cons, List.length_nil]
  omega

/-- A method with an arm for each entry grows by one line with each of them. -/
lemma length_property {comment : List String} {signature : String} {value : Entry → String} :
    (property comment signature value es).length = comment.length + es.length + 5 := by
  rw [property, length_method, List.length_map]

/-- The enumeration has six lines besides the variants. -/
lemma length_enumeration : (enumeration es).length = es.length + 6 := by
  simp only [enumeration, List.length_append, List.length_cons, List.length_nil, List.length_map]
  omega

/-- The list of variants has three lines besides them. -/
lemma length_listing : (listing es).length = es.length + 3 := by
  simp only [listing, List.length_append, List.length_cons, List.length_nil, List.length_map]
  omega

/-- The method from numbers to variants has seven lines besides its arms. -/
lemma length_fromRaw : (fromRaw es).length = es.length + 7 := by
  simp only [fromRaw, length_method, List.length_append, List.length_cons, List.length_nil, List.length_map]
  omega

/-- The method for names has a comment of one line. -/
lemma length_names : (names es).length = es.length + 6 := by
  rw [names, length_property, List.length_singleton]
  omega

/-- The method for arities has a comment of one line. -/
lemma length_arities : (arities es).length = es.length + 6 := by
  rw [arities, length_property, List.length_singleton]
  omega

/-- The method for families has no comment. -/
lemma length_families : (families es).length = es.length + 5 := by
  rw [families, length_property, List.length_nil]
  omega

/-- Every entry adds one line to each of the six sections. -/
lemma length_moduleLines : (moduleLines w es).length = 6 * es.length + 49 := by
  simp only [moduleLines, preamble, List.length_append, length_enumeration, length_listing, length_fromRaw,
    length_names, length_arities, length_families, List.length_cons, List.length_nil]
  omega

/-- Two modules with the same lines have as many entries, and the same sections. -/
lemma sections_of_moduleLines (h : moduleLines w es = moduleLines w' es') :
    es.length = es'.length ∧ enumeration es = enumeration es' ∧ listing es = listing es' ∧
      names es = names es' ∧ arities es = arities es' ∧ families es = families es' := by
  have hlen : es.length = es'.length := by
    have := congrArg List.length h
    rw [length_moduleLines, length_moduleLines] at this
    omega
  -- the sections are cut off from the end
  obtain ⟨h, -⟩ := List.append_inj' h rfl
  obtain ⟨h, hfamilies⟩ := List.append_inj' h (by rw [length_families, length_families, hlen])
  obtain ⟨h, -⟩ := List.append_inj' h rfl
  obtain ⟨h, harities⟩ := List.append_inj' h (by rw [length_arities, length_arities, hlen])
  obtain ⟨h, -⟩ := List.append_inj' h rfl
  obtain ⟨h, hnames⟩ := List.append_inj' h (by rw [length_names, length_names, hlen])
  obtain ⟨h, -⟩ := List.append_inj' h rfl
  obtain ⟨h, -⟩ := List.append_inj' h (by rw [length_fromRaw, length_fromRaw, hlen])
  obtain ⟨h, -⟩ := List.append_inj' h rfl
  obtain ⟨h, hlisting⟩ := List.append_inj' h (by rw [length_listing, length_listing, hlen])
  obtain ⟨h, -⟩ := List.append_inj' h rfl
  obtain ⟨-, henumeration⟩ := List.append_inj' h (by rw [length_enumeration, length_enumeration, hlen])
  exact ⟨hlen, henumeration, hlisting, hnames, harities, hfamilies⟩

/-! ## The entries of the module -/

/-- The module shows no difference between two entries: they differ at most in the name of a family whose services
stand in for nothing. -/
structure Entry.Agrees (e e' : Entry) : Prop where
  number : e.number = e'.number
  name : e.name = e'.name
  arity : e.arity = e'.arity
  wraps : e.wraps = e'.wraps

/-- What stands between parts of known length is determined by the whole. -/
lemma middle_eq (h : pre ++ mid ++ post = pre' ++ mid' ++ post') (hpre : pre.length = pre'.length)
    (hpost : post.length = post'.length) : mid = mid' := by
  obtain ⟨h, -⟩ := List.append_inj' h hpost
  exact (List.append_inj h hpre).2

section Entries

variable {i : Nat} (hi : i < es.length) (hi' : i < es'.length)
include hi hi'

/-- Two lists that look the same entry by entry look the same at every place. -/
lemma eq_of_map_eq {f : Entry → String} (h : es.map f = es'.map f) : f es[i] = f es'[i] := by
  have := List.getElem_of_eq h (by rwa [List.length_map])
  rwa [List.getElem_map, List.getElem_map] at this

/-- The list of variants shows the variant of each entry. -/
lemma variant_of_listing (h : listing es = listing es') : es[i].variant = es'[i].variant := by
  have hline := eq_of_map_eq hi hi' (middle_eq h rfl rfl)
  exact (String.append_right_inj _).1 ((String.append_left_inj _).1 hline)

/-- Behind a known variant, the enumeration shows the number of an entry. -/
lemma number_of_enumeration (h : enumeration es = enumeration es') (hvariant : es[i].variant = es'[i].variant) :
    es[i].number = es'[i].number := by
  have hline := eq_of_map_eq hi hi' (middle_eq h rfl rfl)
  rw [hvariant] at hline
  exact decimal_injective ((String.append_right_inj _).1 ((String.append_left_inj _).1 hline))

/-- Behind a known variant, a method shows the value of an entry. -/
lemma value_of_property {comment : List String} {signature : String} {value : Entry → String}
    (h : property comment signature value es = property comment signature value es')
    (hvariant : es[i].variant = es'[i].variant) : value es[i] = value es'[i] := by
  have hline := eq_of_map_eq hi hi' (middle_eq h rfl rfl)
  rw [hvariant] at hline
  exact (String.append_right_inj _).1 ((String.append_left_inj _).1 hline)

end Entries

/-- The two words for a family are different. -/
lemma eq_of_familyWord {b b' : Bool} (h : (if b then "Idf" else "Custom") = if b' then "Idf" else "Custom") :
    b = b' := by
  cases b <;> cases b'
  · rfl
  · exact absurd h (by decide)
  · exact absurd h (by decide)
  · rfl

/-- From the lines of a module one reads off every entry, as far as the module shows it. -/
lemma agree_of_moduleLines (h : moduleLines w es = moduleLines w' es') : List.Forall₂ Entry.Agrees es es' := by
  obtain ⟨hlen, henumeration, hlisting, hnames, harities, hfamilies⟩ := sections_of_moduleLines h
  refine List.forall₂_iff_get.2 ⟨hlen, fun i hi hi' => ?_⟩
  have hvariant := variant_of_listing hi hi' hlisting
  have hname := value_of_property hi hi' hnames hvariant
  have hfamily := value_of_property hi hi' hfamilies hvariant
  refine ⟨number_of_enumeration hi hi' henumeration hvariant, ?_, ?_, ?_⟩
  · exact (String.append_right_inj _).1 ((String.append_left_inj _).1 hname)
  · exact decimal_injective (value_of_property hi hi' harities hvariant)
  · exact eq_of_familyWord ((String.append_right_inj _).1 hfamily)

/-- What is made of agreeing entries without a look at their families is the same. -/
lemma map_of_agree {α : Type} {f : Entry → α} (h : List.Forall₂ Entry.Agrees es es')
    (hf : ∀ e e' : Entry, e.Agrees e' → f e = f e') : es.map f = es'.map f := by
  induction h with
  | nil => rfl
  | cons hhead _ ih => rw [List.map_cons, List.map_cons, hf _ _ hhead, ih]

/-- Entries that agree have the same variant. -/
lemma Entry.Agrees.variant (h : e.Agrees e') : e.variant = e'.variant := by
  rw [Entry.variant, h.name, Entry.variant]

/-- A method with a value that agreeing entries share is the same for both lists. -/
lemma property_of_agree {comment : List String} {signature : String} {value : Entry → String}
    (h : List.Forall₂ Entry.Agrees es es') (hvalue : ∀ e e' : Entry, e.Agrees e' → value e = value e') :
    property comment signature value es = property comment signature value es' := by
  unfold property
  rw [map_of_agree h fun e e' hagree => by rw [hagree.variant, hvalue e e' hagree]]

/-- Lists that agree entry by entry have the same module. -/
lemma moduleLines_of_agree (h : List.Forall₂ Entry.Agrees es es') : moduleLines w es = moduleLines w es' := by
  have henumeration : enumeration es = enumeration es' := by
    unfold enumeration
    rw [map_of_agree h fun e e' hagree => by rw [hagree.variant, hagree.number]]
  have hlisting : listing es = listing es' := by
    unfold listing
    rw [map_of_agree h fun e e' hagree => by rw [hagree.variant], h.length_eq]
  have hfromRaw : fromRaw es = fromRaw es' := by
    unfold fromRaw
    rw [map_of_agree h fun e e' hagree => by rw [hagree.variant, hagree.number]]
  have hnames : names es = names es' := property_of_agree h fun e e' hagree => by rw [hagree.name]
  have harities : arities es = arities es' := property_of_agree h fun e e' hagree => by rw [hagree.arity]
  have hfamilies : families es = families es' := property_of_agree h fun e e' hagree => by rw [hagree.wraps]
  rw [moduleLines, henumeration, hlisting, hfromRaw, hnames, harities, hfamilies, moduleLines]

/-! ## The text of the module -/

/-- Every number leaves room for the number of slots. -/
def Bounded (es : List Entry) : Prop :=
  ∀ e ∈ es, e.number.toNat < 2 ^ 64 - 1

instance : DecidablePred Bounded :=
  fun es => inferInstanceAs (Decidable (∀ e ∈ es, e.number.toNat < 2 ^ 64 - 1))

/-- There is room for one slot more than the number of every entry. -/
lemma slots_of_bounded (h : Bounded es) : ∃ w, slots es = .ok w := by
  unfold slots
  split
  · exact ⟨0, rfl⟩
  next e hlast =>
    have hlt := h e (List.mem_of_getLast? hlast)
    have hplus : Word.plus? e.number 1 = some (e.number + 1) := by
      refine if_pos ?_
      rw [UInt64.toNat_one]
      omega
    rw [Word.plus, hplus]
    exact ⟨_, rfl⟩

/-- The number of slots is one more than the number of the last entry, of which no entry has a greater one. -/
lemma slots_eq : slots es = match (es.map Entry.number).getLast? with
    | none => .ok 0
    | some w => w.plus 1 := by
  rw [List.getLast?_map, slots]
  cases es.getLast? <;> rfl

/-- Lists that agree entry by entry need the same number of slots. -/
lemma slots_of_agree (h : List.Forall₂ Entry.Agrees es es') : slots es = slots es' := by
  rw [slots_eq, map_of_agree h fun _ _ hagree => hagree.number, ← slots_eq]

/-- A module is made of entries whose numbers are bounded, if there are any. -/
lemma render_of_bounded (hne : es ≠ []) (h : Bounded es) :
    ∃ w, slots es = .ok w ∧ render es = .ok (String.join ((moduleLines w es).map (· ++ "\n"))) := by
  obtain ⟨w, hw⟩ := slots_of_bounded h
  refine ⟨w, hw, ?_⟩
  rw [render, if_neg (by rwa [List.isEmpty_iff]), hw]

/-- Two lists that are read, with services and with room for the number of slots, give one module exactly if they
have as many entries and these agree one by one in their numbers, names and numbers of words, and in whether the
service stands in for a function of the development kit. -/
theorem module_determines_list {text text' : String} (h : parse text = .ok es) (h' : parse text' = .ok es')
    (hne : es ≠ []) (hne' : es' ≠ []) (hb : Bounded es) (hb' : Bounded es') :
    ∃ m m', render es = .ok m ∧ render es' = .ok m' ∧ (m = m' ↔ List.Forall₂ Entry.Agrees es es') := by
  obtain ⟨w, hw, hm⟩ := render_of_bounded hne hb
  obtain ⟨w', hw', hm'⟩ := render_of_bounded hne' hb'
  refine ⟨_, _, hm, hm', ?_⟩
  constructor
  · intro heq
    have hlines := areLines_moduleLines w (named_of_parse h)
    exact agree_of_moduleLines (join_injective hlines (areLines_moduleLines w' (named_of_parse h')) heq)
  · intro hagree
    have hslots := slots_of_agree hagree
    rw [hw, hw'] at hslots
    cases hslots
    rw [moduleLines_of_agree hagree]

/-- The names `get_key` and `get__key` have one camel case, and yet the modules of the two lists differ; the name of
a family that stands in for nothing makes no difference. -/
theorem modules_compared :
    (∃ m m', render [⟨1, "IDF", "get_key", 0⟩] = .ok m ∧ render [⟨1, "IDF", "get__key", 0⟩] = .ok m' ∧ m ≠ m') ∧
    ∃ m m', render [⟨16, "tee", "get_key", 0⟩] = .ok m ∧ render [⟨16, "TEE", "get_key", 0⟩] = .ok m' ∧ m = m' := by
  constructor
  · have h : parse "1 IDF get_key 0" = .ok [⟨1, "IDF", "get_key", 0⟩] := by rfl
    have h' : parse "0x1 IDF get__key 0" = .ok [⟨1, "IDF", "get__key", 0⟩] := by rfl
    obtain ⟨m, m', hm, hm', hiff⟩ := module_determines_list h h' nofun nofun (by decide) (by decide)
    refine ⟨m, m', hm, hm', fun heq => ?_⟩
    cases hiff.1 heq with
    | cons hagree _ => exact absurd hagree.name (by decide)
  · have h : parse "16 tee get_key 0" = .ok [⟨16, "tee", "get_key", 0⟩] := by rfl
    have h' : parse "0x10 TEE get_key +0" = .ok [⟨16, "TEE", "get_key", 0⟩] := by rfl
    obtain ⟨m, m', hm, hm', hiff⟩ := module_determines_list h h' nofun nofun (by decide) (by decide)
    exact ⟨m, m', hm, hm', hiff.2 (.cons ⟨rfl, rfl, rfl, rfl⟩ .nil)⟩

end SecureWorld.ServiceList
