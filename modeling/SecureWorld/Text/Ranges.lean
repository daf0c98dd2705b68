/-!
# Ranges of characters

Classes of characters given as lists of ranges of code points, both ends included.
-/

namespace SecureWorld.Text

/-- Whether the code point of a character lies in one of the ranges. -/
def within (ranges : List (Nat × Nat)) (c : Char) : Bool :=
  ranges.any fun (first, last) => first ≤ c.toNat && c.toNat ≤ last

end SecureWorld.Text
