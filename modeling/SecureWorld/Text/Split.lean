/-!
# Splitting text

The pieces of a text between the characters of a class: one piece more than there are such characters.
-/

namespace SecureWorld.Text

/-- The pieces of a text between the characters that satisfy `p`. -/
def split (p : Char → Bool) : List Char → List (List Char)
  | [] => [[]]
  | c :: cs =>
    if p c then [] :: split p cs
    else
      match split p cs with
      | [] => [[c]]
      | q :: qs => (c :: q) :: qs

/-- There is one part more than there are characters to split at. -/
theorem length_split (p : Char → Bool) (cs : List Char) : (split p cs).length = cs.countP p + 1 := by
  induction cs with
  | nil => rfl
  | cons c cs ih =>
    unfold split
    split
    · next h => simp [ih, h]
    · next h =>
      split
      · next e => simp [e] at ih
      · next e => simpa [e, h] using ih

/-- There is a part, even of nothing. -/
theorem split_ne_nil (p : Char → Bool) (cs : List Char) : split p cs ≠ [] := by
  intro h
  have := length_split p cs
  simp [h] at this

end SecureWorld.Text
