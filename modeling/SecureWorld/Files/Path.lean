import SecureWorld.Text.Split

/-!
# Paths

The text of a path taken apart into the names between its slashes.
-/

namespace SecureWorld.Files

/-- The longest name, in bytes. -/
def nameLimit : Nat := 255

/-- The longest path, in bytes. -/
def pathLimit : Nat := 4095

/-- A path. -/
structure Path where
  /-- Whether it starts at the root and not in the working directory. -/
  absolute : Bool
  /-- The names that it passes, the last of which is its aim. -/
  names : List String
  /-- Whether a slash stands at its end. -/
  slashed : Bool
deriving DecidableEq, Repr

/-- Whether a character is a slash. -/
def isSlash (c : Char) : Bool := c == '/'

/-- The names between the slashes of a text. -/
def namesOf (cs : List Char) : List String :=
  ((Text.split isSlash cs).filter fun n => !n.isEmpty).map String.ofList

/-- The path that a text describes. Slashes in a row count as one. -/
def Path.ofString (s : String) : Path where
  absolute := s.toList.head?.any isSlash
  names := namesOf s.toList
  slashed := s.toList.getLast?.any isSlash

end SecureWorld.Files
