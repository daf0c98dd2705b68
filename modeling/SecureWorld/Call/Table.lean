import SecureWorld.Fault
import SecureWorld.Service.Id
import SecureWorld.Word

/-!
# Service tables

A handler takes a fixed number of words and answers one. A table gives every service number a handler; the
numbers without one, and all numbers out of range, belong to the handler of slot 0.
-/

namespace SecureWorld

/-- Functions of `n` words. -/
@[reducible]
def Curried : Nat → Type → Type
  | 0, α => α
  | n + 1, α => Word → Curried n α

/-- Apply a function of `n` words to the first words of a list; missing words are zero. -/
def Curried.apply {α : Type} : (n : Nat) → Curried n α → List Word → α
  | 0, f, _ => f
  | n + 1, f, ws => Curried.apply n (f (ws.headD 0)) ws.tail

/-- A function of words that answers a word in a context `m`. -/
structure Handler (m : Type → Type) where
  arity : Nat
  run : Curried arity (m Word)

/-- Call a handler; missing words are zero and surplus words are not passed. -/
def Handler.call {m : Type → Type} (h : Handler m) (words : List Word) : m Word :=
  Curried.apply h.arity h.run words

/-- The handlers by service number. -/
structure ServiceTable (m : Type → Type) where
  invalid : Handler m
  slots : Vector (Option (Handler m)) serviceSlots

namespace ServiceTable

variable {m : Type → Type}

/-- A table in which every number belongs to one handler. -/
def ofInvalid (h : Handler m) : ServiceTable m :=
  ⟨h, (Vector.replicate _ none).set 0 (some h) (by decide)⟩

/-- Give a free slot its handler. -/
def assign (t : ServiceTable m) (n : Nat) (h : Handler m) : Except Fault (ServiceTable m) :=
  if n = 0 then .error .slotZero
  else if hn : n < serviceSlots then
    match t.slots[n] with
    | some _ => .error .slotTaken
    | none => .ok { t with slots := t.slots.set n (some h) }
  else .error .slotRange

/-- Give a service its handler, which has to take the announced number of words. -/
def assignService (t : ServiceTable m) (s : ServiceId) (h : Handler m) : Except Fault (ServiceTable m) :=
  if h.arity = s.arity then t.assign s.number h else .error .arity

/-- The handler that was assigned to a number. -/
def resolve (t : ServiceTable m) (n : Nat) : Option (Handler m) :=
  t.slots[n]?.join

/-- The handler that is called for a number. -/
def lookup (t : ServiceTable m) (n : Nat) : Handler m :=
  (t.resolve n).getD t.invalid

/-- The number of slots with a handler. -/
def assigned (t : ServiceTable m) : Nat :=
  t.slots.toList.countP Option.isSome

end ServiceTable

end SecureWorld
