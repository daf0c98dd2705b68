import SecureWorld.Text.Split

/-!
# Camel case

The form of a name whose parts are joined without a mark, each part with its first letter raised.
-/

namespace SecureWorld.CamelCase

/-- A part with its first letter raised; only the letters from a to z are. -/
def raise : List Char → List Char
  | [] => []
  | c :: cs => c.toUpper :: cs

/-- A name with its underscores dropped and the letter after each of them raised, the first one too. -/
def ofSnake (name : List Char) : List Char :=
  (Text.split (· == '_') name).flatMap raise

end SecureWorld.CamelCase
