import SecureWorld.ServiceList.Entry
import SecureWorld.ServiceList.Error
import SecureWorld.Text.Blank
import SecureWorld.Text.Identifier
import SecureWorld.Text.Numeral

/-!
# Reading service lists

A line of a service list holds the number, the family, the name and the number of words of one service,
between blanks. Blank lines and lines that start with `#` say nothing. What is read is in ascending order of
numbers, each of which is assigned once; the first line at fault decides the error.
-/

namespace SecureWorld.ServiceList

/-- Whether a trimmed line says something. -/
def isSignificant : List Char → Bool
  | [] => false
  | c :: _ => c != '#'

/-- The number that a field of a line spells. -/
def readNumber (line : Nat) (field : List Char) : Except ListError Word :=
  match Numeral.word? field with
  | some w => .ok w
  | none => .error (.badNumber line (String.ofList field))

/-- The entry that the fields of a line spell. -/
def Entry.ofFields (line : Nat) (nr family name nargs : List Char) : Except ListError Entry := do
  let nr ← readNumber line nr
  let nargs ← readNumber line nargs
  if Text.isIdentifier name then return ⟨nr, String.ofList family, String.ofList name, nargs⟩
  else throw (.badName line (String.ofList name))

/-- The entry of a trimmed line. -/
def Entry.ofLine (line : Nat) (text : List Char) : Except ListError Entry :=
  match Text.fields text with
  | [nr, family, name, nargs] => Entry.ofFields line nr family name nargs
  | _ => .error (.malformed line (String.ofList text))

/-- Put an entry in its place among entries in ascending order, unless its number is taken. -/
def insert? (e : Entry) : List Entry → Option (List Entry)
  | [] => some [e]
  | x :: xs =>
    if e.number < x.number then some (e :: x :: xs)
    else if e.number = x.number then none
    else (insert? e xs).map (x :: ·)

/-- Add what a line says to the entries of the lines before it. -/
def addLine (es : List Entry) (line : Nat) (raw : List Char) : Except ListError (List Entry) :=
  if isSignificant (Text.trim raw) then do
    let e ← Entry.ofLine line (Text.trim raw)
    match insert? e es with
    | some es => return es
    | none => throw (.duplicate line e.number)
  else
    return es

/-- Add what lines say, the first of them with the number `line`. -/
def addLines (es : List Entry) (line : Nat) : List (List Char) → Except ListError (List Entry)
  | [] => return es
  | raw :: rest => do
    let es ← addLine es line raw
    addLines es (line + 1) rest

/-- The entries of a service list. -/
def parse (text : String) : Except ListError (List Entry) :=
  addLines [] 1 (Text.lines text.toList)

/-- The entries after an insertion are those before it and the new one. -/
theorem mem_insert? {e x : Entry} {es es' : List Entry} (h : insert? e es = some es') :
    x ∈ es' ↔ x = e ∨ x ∈ es := by
  induction es generalizing es' with
  | nil =>
    cases h
    simp
  | cons y ys ih =>
    unfold insert? at h
    split at h
    · cases h
      simp
    · split at h
      · cases h
      · obtain ⟨zs, hz, rfl⟩ := Option.map_eq_some_iff.mp h
        simp only [List.mem_cons, ih hz]
        exact or_left_comm

/-- Insertion keeps the ascending order of the numbers. -/
theorem pairwise_insert? {e : Entry} {es es' : List Entry} (h : insert? e es = some es')
    (hs : es.Pairwise (·.number < ·.number)) : es'.Pairwise (·.number < ·.number) := by
  induction es generalizing es' with
  | nil =>
    cases h
    simp
  | cons y ys ih =>
    have hy := List.pairwise_cons.mp hs
    unfold insert? at h
    split at h
    · next hlt =>
      cases h
      -- the entry stands before the first one that is greater
      refine List.pairwise_cons.mpr ⟨fun z hz => ?_, hs⟩
      rcases List.mem_cons.mp hz with rfl | hz
      · exact hlt
      · exact UInt64.lt_trans hlt (hy.1 z hz)
    · next hge =>
      split at h
      · cases h
      · next hne =>
        obtain ⟨zs, hz, rfl⟩ := Option.map_eq_some_iff.mp h
        refine List.pairwise_cons.mpr ⟨fun z hm => ?_, ih hz hy.2⟩
        rcases (mem_insert? hz).mp hm with rfl | hm
        · exact UInt64.lt_of_le_of_ne (UInt64.not_lt.mp hge) (Ne.symm hne)
        · exact hy.1 z hm

end SecureWorld.ServiceList
