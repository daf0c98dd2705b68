/-!
# Log records

A record has a level, the name of the part it comes from and a message; a filter lets the levels up to its
own through.
-/

namespace SecureWorld.Log

/-- The severity of a record, the most severe first. -/
inductive Level where
  | error
  | warn
  | info
  | debug
  | trace
deriving DecidableEq, Repr

namespace Level

/-- The rank of a level; a higher rank is less severe. -/
def rank : Level → Nat
  | .error => 1
  | .warn => 2
  | .info => 3
  | .debug => 4
  | .trace => 5

/-- The name of a level in the output. -/
def name : Level → String
  | .error => "ERROR"
  | .warn => "WARN"
  | .info => "INFO"
  | .debug => "DEBUG"
  | .trace => "TRACE"

end Level

/-- The least severe level let through; `none` lets nothing through. -/
abbrev Filter := Option Level

/-- Whether a filter lets a level through. -/
def Filter.admits (f : Filter) (l : Level) : Bool :=
  match f with
  | none => false
  | some m => l.rank ≤ m.rank

/-- A log record. -/
structure Record where
  level : Level
  target : String
  message : String
deriving DecidableEq, Repr

/-- A record is one line: its level in brackets, its origin and its message. -/
def Record.line (r : Record) : String :=
  "[" ++ r.level.name ++ "] " ++ r.target ++ ": " ++ r.message ++ "\n"

end SecureWorld.Log
