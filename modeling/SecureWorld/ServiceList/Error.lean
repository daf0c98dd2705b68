import SecureWorld.Text.Quoted
import SecureWorld.Word

/-!
# Errors of service lists

Why a text is no service list, with the number of the line that shows it, and why no module is made of one.
-/

namespace SecureWorld.ServiceList

/-- Why a list is refused. Lines are counted from one, blank ones and comments included. -/
inductive ListError where
  /-- A line has other than four fields. -/
  | malformed (line : Nat) (text : String)
  /-- A field is not a numeral, or its number leaves the word. -/
  | badNumber (line : Nat) (text : String)
  /-- A number was assigned on an earlier line. -/
  | duplicate (line : Nat) (number : Word)
  /-- A name is not an identifier. -/
  | badName (line : Nat) (name : String)
  /-- There are no services. -/
  | empty
deriving DecidableEq, Repr

/-- Where the text of an error stands. -/
def atLine (line : Nat) (text : String) : String :=
  "line " ++ toString line ++ ": " ++ text

/-- The text of an error. -/
def ListError.message : ListError → String
  | .malformed line text => atLine line ("expected `<nr> <family> <name> <nargs>`, got " ++ Text.quote text)
  | .badNumber line text => atLine line ("invalid number " ++ Text.quote text)
  | .duplicate line number => atLine line ("found duplicate secure service number " ++ toString number.toNat)
  | .badName line name => atLine line ("service name " ++ Text.quote name ++ " is not a valid identifier")
  | .empty => "service table is empty"

end SecureWorld.ServiceList
