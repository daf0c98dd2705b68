import SecureWorld.Text.CamelCase
import SecureWorld.Word

/-!
# Service lists

A service list assigns numbers to services. Each entry names a service, the family it belongs to and the
number of argument words it takes. The services of one family stand in for functions of the development kit;
for these the linker of the open world is told to wrap the function.
-/

namespace SecureWorld.ServiceList

/-- One service of a list. -/
structure Entry where
  number : Word
  family : String
  name : String
  arity : Word
deriving DecidableEq, Repr

/-- The family whose services stand in for functions of the development kit. -/
def kitFamily : String := "IDF"

/-- Whether a service stands in for a function of the development kit. -/
def Entry.wraps (e : Entry) : Bool :=
  e.family == kitFamily

/-- The name of a service in camel case. -/
def Entry.variant (e : Entry) : String :=
  String.ofList (CamelCase.ofSnake e.name.toList)

/-- The number of slots that a table of the services needs: one more than the number of the last entry, and
none without entries. -/
def slots (es : List Entry) : Except Fault Word :=
  match es.getLast? with
  | none => .ok 0
  | some e => e.number.plus 1

/-- The linker arguments that wrap the functions of the development kit, with a space between two. -/
def wrapFlags (es : List Entry) : String :=
  " ".intercalate ((es.filter Entry.wraps).map fun e => "-Wl,--wrap=" ++ e.name)

end SecureWorld.ServiceList
