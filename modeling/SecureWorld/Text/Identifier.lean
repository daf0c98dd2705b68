/-!
# Identifiers

Names that start with a letter or an underscore and go on with letters, digits and underscores, all of them
ASCII.
-/

namespace SecureWorld.Text

/-- Whether a name may start with a character. -/
def startsName (c : Char) : Bool :=
  c.isAlpha || c == '_'

/-- Whether a name may go on with a character. -/
def continuesName (c : Char) : Bool :=
  c.isAlphanum || c == '_'

/-- Whether a text is an identifier. -/
def isIdentifier : List Char → Bool
  | [] => false
  | c :: cs => startsName c && cs.all continuesName

end SecureWorld.Text
