import SecureWorld.Boundary
import SecureWorld.Mmu.Table
import SecureWorld.Word

/-!
# Service errors

The refusals of the services, with the signed code by which the open world knows each of them.
-/

namespace SecureWorld

/-- Why a service refuses a request. -/
inductive ServiceError where
  | fail
  | noMem
  | invalidArg
  | invalidState
  | invalidSize
  | notFound
  | notSupported
deriving DecidableEq, Repr

namespace ServiceError

/-- The code of a refusal. -/
def code : ServiceError → Int32
  | .fail => -1
  | .noMem => 0x101
  | .invalidArg => 0x102
  | .invalidState => 0x103
  | .invalidSize => 0x104
  | .notFound => 0x105
  | .notSupported => 0x106

/-- The words in which a service refuses. -/
def message : ServiceError → String
  | .fail => "operation failed"
  | .noMem => "out of memory"
  | .invalidArg => "invalid argument"
  | .invalidState => "invalid state"
  | .invalidSize => "invalid size"
  | .notFound => "not found"
  | .notSupported => "not supported"

/-- All refusals. -/
def all : List ServiceError :=
  [.fail, .noMem, .invalidArg, .invalidState, .invalidSize, .notFound, .notSupported]

/-- The refusal of a code. -/
def ofCode? (c : Int32) : Option ServiceError :=
  all.find? fun e => e.code == c

/-- The word that a refusing service answers. -/
def word (e : ServiceError) : Word := Word.ofCode e.code

/-- What a refusal of the memory management unit means to the caller. -/
def ofMmu : Mmu.MmuError → ServiceError
  | .notMapped _ => .notFound
  | _ => .invalidArg

/-- A request that touches the secure region fails without a reason. -/
def ofViolation (_ : Violation) : ServiceError := .fail

/-- A code leads back to its refusal. -/
theorem ofCode?_code (e : ServiceError) : ofCode? e.code = some e := by
  cases e <;> rfl

end ServiceError

/-- The word of a request that was carried out or refused. -/
def statusWord : Except ServiceError Unit → Word
  | .ok () => Word.ofCode 0
  | .error e => e.word

end SecureWorld
