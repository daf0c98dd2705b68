import Mathlib
import SecureWorld.Proofs.Rendering

/-!
# The enumeration of services

The module declares a variant for every service, by the camel case of its name, and finds the variant of a number.
`assigns_iff` says which variants it finds. The names that a reader of lists accepts are not enough for variants that
are names and different from one another: `enumerates_iff` says which lists have such variants, and
`enumerated_exactly` adds that those do whose names are in snake case and different.
-/

namespace SecureWorld.ServiceList

open Text (IsName)
open CamelCase (LeadsWithLetter Blend Snake)

variable {e e' : Entry} {es : List Entry} {w w' : Word} {s t v : String} {l l' cs cs' : List Char}

/-- The module finds a variant for a number: its method has an arm that says so. -/
def Assigns (es : List Entry) (w : Word) (v : String) : Prop :=
  arm (decimal w) ("Some(Self::" ++ v ++ ")") ∈ fromRaw es

/-! ## The arms for numbers -/

/-- Whether a line begins as the arm for a number does: with a digit behind twelve characters. -/
def hasNumber (s : String) : Bool :=
  s.toList[12]?.any Char.isDigit

/-- The characters of an arm, its pattern behind twelve blanks. -/
lemma toList_arm : (arm s t).toList = "            ".toList ++ (s.toList ++ ' ' :: ("=> " ++ t ++ ",").toList) := by
  have hsep : " => ".toList = ' ' :: "=> ".toList := rfl
  simp only [arm, String.toList_append, hsep, List.append_assoc, List.cons_append]

/-- The arm for a number has a digit behind twelve characters. -/
lemma hasNumber_arm : hasNumber (arm (decimal w) t) = true := by
  have hne : (decimal w).toList ≠ [] := by
    rw [decimal, Nat.toString_eq_repr, Nat.toList_repr]
    exact Nat.toDigits_ne_nil
  obtain ⟨c, cs, hcs⟩ := List.exists_cons_of_ne_nil hne
  have hdigit := isDigit_of_mem_toString (n := w.toNat) c (hcs ▸ List.mem_cons_self)
  rw [hasNumber, toList_arm, hcs]
  exact hdigit

/-- Digits end where a blank stands. -/
lemma digits_append_inj (hl : ∀ c ∈ l, c.isDigit = true) (hl' : ∀ c ∈ l', c.isDigit = true)
    (h : l ++ ' ' :: cs = l' ++ ' ' :: cs') : l = l' ∧ cs = cs' := by
  have hnot {ds : List Char} (hds : ∀ c ∈ ds, c.isDigit = true) : ∀ c ∈ ds, (c == ' ') = false := by
    intro c hc
    rw [beq_eq_false_iff_ne]
    rintro rfl
    exact absurd (hds _ hc) (by decide)
  have hrest (cs : List Char) : Text.split (· == ' ') (' ' :: cs) = [] :: Text.split (· == ' ') cs := by
    rw [Text.split, if_pos (beq_self_eq_true ' ')]
  have hsplit := Text.split_append (hnot hl) (hrest cs)
  rw [h, Text.split_append (hnot hl') (hrest cs')] at hsplit
  obtain rfl := (List.cons.inj hsplit).1
  exact ⟨rfl, (List.cons.inj (List.append_cancel_left h)).2⟩

/-- The arms for two numbers are different if the numbers or what is found for them are. -/
lemma arm_inj (h : arm (decimal w) s = arm (decimal w') t) : w = w' ∧ s = t := by
  have hlist := congrArg String.toList h
  rw [toList_arm, toList_arm] at hlist
  obtain ⟨hnumber, hvalue⟩ :=
    digits_append_inj isDigit_of_mem_toString isDigit_of_mem_toString (List.append_cancel_left hlist)
  refine ⟨decimal_injective (String.toList_inj.1 hnumber), ?_⟩
  exact (String.append_right_inj _).1 ((String.append_left_inj _).1 (String.toList_inj.1 hvalue))

/-- The arms of the entries stand among the lines that are there for every list. -/
lemma mem_fromRaw : s ∈ fromRaw es ↔
    s ∈ fromRaw [] ∨ ∃ e ∈ es, arm (decimal e.number) ("Some(Self::" ++ e.variant ++ ")") = s := by
  simp only [fromRaw, method, List.mem_append, List.mem_map, List.map_nil, List.not_mem_nil, false_or]
  rw [or_comm (a := ∃ e ∈ es, _), ← or_assoc, or_right_comm, or_comm]

/-- The module finds for a number the variants of the entries with this number, and no others. -/
lemma assigns_iff : Assigns es w v ↔ ∃ e ∈ es, e.number = w ∧ e.variant = v := by
  -- without entries there are only lines that begin in another way
  have hframe : ∀ l ∈ fromRaw [], ¬ hasNumber l = true := by decide +kernel
  rw [Assigns, mem_fromRaw, or_iff_right fun hmem => hframe _ hmem hasNumber_arm]
  refine exists_congr fun e => and_congr_right fun _ => ?_
  constructor
  · intro h
    obtain ⟨hnumber, hvalue⟩ := arm_inj h
    exact ⟨hnumber, (String.append_right_inj _).1 ((String.append_left_inj _).1 hvalue)⟩
  · rintro ⟨rfl, rfl⟩
    rfl

/-! ## The variants -/

/-- The variants of a list are names, no two of them are the same, and the module finds none of them for two
numbers. -/
structure Enumerates (es : List Entry) : Prop where
  isName : ∀ e ∈ es, IsName e.variant.toList
  distinct : es.Pairwise (·.variant ≠ ·.variant)
  own : ∀ w w' v, Assigns es w v → Assigns es w' v → w = w'

/-- A variant is a name exactly if a letter leads the name of its service. -/
lemma isName_variant_iff (h : IsName e.name.toList) : IsName e.variant.toList ↔ LeadsWithLetter e.name.toList := by
  rw [Entry.variant, String.toList_ofList]
  exact CamelCase.isName_ofSnake_iff h

/-- Two variants are the same exactly if the names of their services blend. -/
lemma variant_eq_iff : e.variant = e'.variant ↔ Blend true true e.name.toList e'.name.toList := by
  rw [CamelCase.blend_iff, Entry.variant, Entry.variant, String.ofList_inj]

/-- Different variants belong to different numbers. -/
lemma own_of_distinct (h : es.Pairwise (·.variant ≠ ·.variant)) (hw : Assigns es w v) (hw' : Assigns es w' v) :
    w = w' := by
  obtain ⟨e, he, rfl, rfl⟩ := assigns_iff.1 hw
  obtain ⟨e', he', rfl, hv⟩ := assigns_iff.1 hw'
  rw [List.inj_on_of_nodup_map (List.pairwise_map.2 h) he' he hv]

/-- Which names make an enumeration: in each of them a letter comes before every digit, and no two of them blend. -/
lemma enumerates_iff (h : Named es) : Enumerates es ↔
    (∀ e ∈ es, LeadsWithLetter e.name.toList) ∧
      es.Pairwise fun e e' => ¬ Blend true true e.name.toList e'.name.toList := by
  have hdistinct : es.Pairwise (·.variant ≠ ·.variant) ↔
      es.Pairwise fun e e' => ¬ Blend true true e.name.toList e'.name.toList :=
    List.Pairwise.iff fun _ _ => not_congr variant_eq_iff
  constructor
  · intro hes
    exact ⟨fun e he => (isName_variant_iff (h e he)).1 (hes.isName e he), hdistinct.1 hes.distinct⟩
  · rintro ⟨hlead, hblend⟩
    exact {
      isName := fun e he => (isName_variant_iff (h e he)).2 (hlead e he)
      distinct := hdistinct.2 hblend
      own := fun _ _ _ => own_of_distinct (hdistinct.2 hblend) }

/-- Different names in snake case make an enumeration. -/
lemma enumerates_of_snake (h : Named es) (hsnake : ∀ e ∈ es, Snake true e.name.toList)
    (hnodup : (es.map Entry.name).Nodup) : Enumerates es := by
  refine (enumerates_iff h).2 ⟨fun e he => (hsnake e he).leadsWithLetter, ?_⟩
  refine (List.pairwise_map.1 hnodup).imp_of_mem fun {e e'} he he' hne hblend => hne ?_
  exact String.toList_inj.1 ((hsnake e he).eq_of_blend (hsnake e' he') hblend)

/-- A list that is read, with services and with room for the number of slots, gives a module that declares the
variants and finds them for their numbers. The variants are names and different from one another exactly if every name
has a letter before its first digit and no two names differ only in underscores and in the case of letters that begin
a part. Different names in snake case always suffice. A name is meant as `Text.isIdentifier` takes it: it begins with a
letter or an underscore, and letters, digits and underscores follow. Reserved words are names like all others, so that
`Self`, the variant of a service with the name `self`, counts as one. -/
theorem enumerated_exactly {text : String} (h : parse text = .ok es) (hne : es ≠ []) (hb : Bounded es) :
    (∃ ls, render es = .ok (String.join (ls.map (· ++ "\n"))) ∧ enumeration es <:+: ls ∧ fromRaw es <:+: ls) ∧
    (∀ w v, Assigns es w v ↔ ∃ e ∈ es, e.number = w ∧ e.variant = v) ∧
    (Enumerates es ↔
      (∀ e ∈ es, LeadsWithLetter e.name.toList) ∧
        es.Pairwise fun e e' => ¬ Blend true true e.name.toList e'.name.toList) ∧
    ((∀ e ∈ es, Snake true e.name.toList) → (es.map Entry.name).Nodup → Enumerates es) := by
  have hnamed := named_of_parse h
  refine ⟨?_, fun w v => assigns_iff, enumerates_iff hnamed, enumerates_of_snake hnamed⟩
  obtain ⟨w, -, hm⟩ := render_of_bounded hne hb
  refine ⟨moduleLines w es, hm, ⟨preamble w, ?_⟩, ⟨preamble w ++ enumeration es ++ ["impl ServiceId \x7b"] ++
    listing es ++ [""], ?_⟩⟩
  · simp only [moduleLines, List.append_assoc]
    exact ⟨_, rfl⟩
  · simp only [moduleLines, List.append_assoc]
    exact ⟨_, rfl⟩

/-- Two names in snake case, in a list that writes its numbers in several ways. -/
theorem names_enumerated :
    parse "2 CUSTOM sum2 0x10\n1 IDF get_key +0\n" = .ok [⟨1, "IDF", "get_key", 0⟩, ⟨2, "CUSTOM", "sum2", 16⟩] ∧
    Enumerates [⟨1, "IDF", "get_key", 0⟩, ⟨2, "CUSTOM", "sum2", 16⟩] := by
  have h : parse "2 CUSTOM sum2 0x10\n1 IDF get_key +0\n" =
      .ok [⟨1, "IDF", "get_key", 0⟩, ⟨2, "CUSTOM", "sum2", 16⟩] := by rfl
  have hkey : Snake true "get_key".toList :=
    .first rfl (.next (.inl rfl) (.next (.inl rfl) (.mark (.first rfl (.next (.inl rfl) (.next (.inl rfl) .done))))))
  have hsum : Snake true "sum2".toList :=
    .first rfl (.next (.inl rfl) (.next (.inl rfl) (.next (.inr rfl) .done)))
  obtain ⟨-, -, -, hsnake⟩ := enumerated_exactly h nofun (by decide)
  exact ⟨h, hsnake (List.forall_mem_cons.2 ⟨hkey, List.forall_mem_singleton.2 hsum⟩) (by decide)⟩

/-- Names that the reader of lists accepts, and variants that are none: one begins with a digit, and two are the
same. -/
theorem accepted_names_fall_short :
    (parse "7 custom _3d_thing 0" = .ok [⟨7, "custom", "_3d_thing", 0⟩] ∧
      (⟨7, "custom", "_3d_thing", 0⟩ : Entry).variant = "3dThing" ∧
      ¬ Enumerates [⟨7, "custom", "_3d_thing", 0⟩]) ∧
    (parse "1 IDF get_key 0\n2 IDF getKey 0" = .ok [⟨1, "IDF", "get_key", 0⟩, ⟨2, "IDF", "getKey", 0⟩] ∧
      (⟨1, "IDF", "get_key", 0⟩ : Entry).variant = "GetKey" ∧ (⟨2, "IDF", "getKey", 0⟩ : Entry).variant = "GetKey" ∧
      ¬ Enumerates [⟨1, "IDF", "get_key", 0⟩, ⟨2, "IDF", "getKey", 0⟩]) := by
  refine ⟨⟨by rfl, by rfl, fun h => ?_⟩, by rfl, by rfl, by rfl, fun h => ?_⟩
  · have hname := Text.isIdentifier_iff.2 (h.isName _ List.mem_cons_self)
    exact absurd hname (by decide)
  · obtain ⟨hfirst, -⟩ := List.pairwise_cons.1 h.distinct
    exact hfirst _ List.mem_cons_self (by rfl)

end SecureWorld.ServiceList
