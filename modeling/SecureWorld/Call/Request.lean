import SecureWorld.Call.Cursor
import SecureWorld.Service.Id

/-!
# Call requests

A call is a service number followed by its argument words. `CallRequest.decode` reads one from a cursor and
closes the cursor, whatever it finds; a call with too many words, without a number, with a number out of
range or with fewer words than announced is refused.
-/

namespace SecureWorld

/-- Why a call is not understood. -/
inductive CallError where
  | tooManyWords (received : Nat)
  | missingService
  | invalidService (received : Nat)
  | truncated (expected got : Nat)
deriving DecidableEq, Repr

/-- The text logged for a call that is not understood. -/
def CallError.message : CallError → String
  | .tooManyWords n =>
    "Input arguments overflow! Received " ++ toString n ++ ", Permitted " ++ toString maxCallWords
  | .missingService => "Invalid Service ID! No service id was passed"
  | .invalidService n =>
    "Invalid Service ID! Received " ++ toString n ++ ", Permitted < " ++ toString serviceSlots
  | .truncated e g => "Argument list ended after " ++ toString g ++ " of " ++ toString e ++ " words"

/-- The argument words of a call, at most as many as a call can have. -/
structure ArgBuffer where
  args : List Word
  length_le : args.length ≤ maxCallWords
deriving DecidableEq, Repr

namespace ArgBuffer

/-- No words. -/
def empty : ArgBuffer := ⟨[], Nat.zero_le _⟩

/-- A list of words, if it is not too long. -/
def ofList? (words : List Word) : Option ArgBuffer :=
  if h : words.length ≤ maxCallWords then some ⟨words, h⟩ else none

/-- The words filled up with zeros. -/
def slots (b : ArgBuffer) : List Word :=
  b.args ++ List.replicate (maxCallWords - b.args.length) 0

/-- The words in decimal between square brackets. -/
def describe (b : ArgBuffer) : String :=
  "[" ++ String.intercalate ", " (b.args.map fun w => toString w.toNat) ++ "]"

end ArgBuffer

section Reading

variable {γ : Type} [Cursor γ]

/-- Read `n` words, in order; a source that runs dry leaves fewer. -/
def readWords (c : γ) : Nat → List Word × γ
  | 0 => ([], c)
  | n + 1 =>
    match Cursor.next c with
    | (none, c') => ([], c')
    | (some w, c') =>
      match readWords c' n with
      | (ws, c'') => (w :: ws, c'')

/-- No more words are read than are asked for. -/
theorem length_readWords_le (c : γ) (n : Nat) : (readWords c n).1.length ≤ n := by
  induction n generalizing c with
  | zero => simp [readWords]
  | succ n ih =>
    unfold readWords
    split
    · simp
    · simpa using ih _

/-- Collect the announced number of argument words. -/
def marshal (c : γ) (count : Nat) : Except CallError ArgBuffer × γ :=
  if h : maxCallWords < count then (.error (.tooManyWords count), c)
  else
    match e : readWords c count with
    | (ws, c') =>
      if ws.length < count then (.error (.truncated count ws.length), c')
      else
        (.ok ⟨ws, by
          have := length_readWords_le c count
          rw [e] at this
          simp only at this
          omega⟩, c')

/-- A service number below the number of slots and the argument words. -/
structure CallRequest where
  service : Nat
  argv : ArgBuffer
deriving DecidableEq, Repr

namespace CallRequest

/-- The number of words of a call. -/
def wordCount (r : CallRequest) : Nat := r.argv.args.length + 1

/-- Read the words of a call that announces `argc` of them. -/
def decodeWords (c : γ) (argc : Nat) : Except CallError CallRequest × γ :=
  if maxCallWords < argc then (.error (.tooManyWords argc), c)
  else if argc = 0 then (.error .missingService, c)
  else
    match Cursor.next c with
    | (none, c') => (.error .missingService, c')
    | (some w, c') =>
      if serviceSlots ≤ w.toNat then (.error (.invalidService w.toNat), c')
      else
        match marshal c' (argc - 1) with
        | (.error e, c'') => (.error e, c'')
        | (.ok argv, c'') => (.ok ⟨w.toNat, argv⟩, c'')

/-- Read a call and close the cursor. -/
def decode (c : γ) (argc : Nat) : Except CallError CallRequest × γ :=
  match decodeWords c argc with
  | (r, c') => (r, Cursor.finish c')

end CallRequest

end Reading

end SecureWorld
