/-!
# Faults

What ends an operation of the secure world without a value. A *fault* is a halt: the running call is
abandoned and nothing is answered. A *refusal* is an ordinary negative answer; `Stop` joins the two.
-/

namespace SecureWorld

/-- The reasons for which the secure world halts a call. -/
inductive Fault where
  /-- A sum or product left its word. -/
  | overflow
  /-- A page number does not fit the nine bits of a table entry. -/
  | pageNumber
  /-- The service in slot 0 was called. -/
  | invalidService
  /-- The second look at a security decision disagreed with the first. -/
  | checkFailed (check : String)
  /-- A handler for slot 0 was offered to a service table. -/
  | slotZero
  /-- A handler for a slot beyond the service table was offered. -/
  | slotRange
  /-- A second handler for one slot was offered. -/
  | slotTaken
  /-- A handler takes another number of words than its service number announces. -/
  | arity
  /-- A program that runs inside the secure world gave up, with its own words. -/
  | abandoned (reason : String)
deriving DecidableEq, Repr

/-- The text reported for a fault; an arithmetic overflow is reported without one. -/
def Fault.message : Fault → Option String
  | .overflow => none
  | .pageNumber => some "value out of bounds [0, 511]"
  | .invalidService => some "invalid secure service invoked"
  | .checkFailed check => some ("fault injection detected: `" ++ check ++ "` does not hold")
  | .slotZero => some "slot 0 is reserved for the invalid service"
  | .slotRange => some "service number out of range"
  | .slotTaken => some "service slot assigned twice"
  | .arity => some "service arity differs from the table"
  | .abandoned reason => some reason

/-- Why an operation stopped: it refused the request, or it halted. -/
inductive Stop (ε : Type) where
  | refused (cause : ε)
  | fault (cause : Fault)
deriving DecidableEq, Repr

/-- The same stop with its refusal restated. -/
def Stop.map {ε δ : Type} (f : ε → δ) : Stop ε → Stop δ
  | .refused e => .refused (f e)
  | .fault h => .fault h

/-- An operation that succeeds is the last of a chain of checks, each of which may refuse. -/
theorem bind_ok {ε α β : Type} {x : Except ε α} {f : α → Except ε β} {b : β} (h : x >>= f = .ok b) :
    ∃ a, x = .ok a ∧ f a = .ok b := by
  cases x with
  | ok a => exact ⟨a, rfl, h⟩
  | error e => cases h

/-- Two steps fail if the first one does, or the second one behind it. -/
theorem bind_error {ε α β : Type} {x : Except ε α} {f : α → Except ε β} {e : ε} (h : x >>= f = .error e) :
    x = .error e ∨ ∃ a, x = .ok a ∧ f a = .error e := by
  cases x with
  | ok a => exact .inr ⟨a, rfl, h⟩
  | error e' =>
    cases h
    exact .inl rfl

end SecureWorld
