import SecureWorld.Call.Request
import SecureWorld.Call.Table
import SecureWorld.Machine
import SecureWorld.Service.Catalogue

/-!
# Dispatch

A call is decoded and its cursor closed before anything runs; a call that is not understood is logged and
answered with all bits set, any other by the handler of its service.
-/

namespace SecureWorld

variable {σ γ : Type} [Cursor γ]

/-- Answer a call that was understood. -/
def CallRequest.serve (r : CallRequest) (t : ServiceTable (Secure σ)) : Secure σ Word := do
  let h := t.lookup r.service
  if h.arity ≠ r.argv.args.length then
    log .trace "tee_dispatch" ("service " ++ toString r.service ++ " takes " ++ toString h.arity
      ++ " words, caller passed " ++ toString r.argv.args.length)
  let ret ← h.call r.argv.args
  log .trace "tee_dispatch" ("service " ++ toString r.service ++ " returned " ++ Hex.lower ret.toNat)
  return ret

/-- Answer a decoded call, understood or not. -/
def serveDecoded (t : ServiceTable (Secure σ)) : Except CallError CallRequest → Secure σ Word
  | .ok r => r.serve t
  | .error e => do
    log .error "tee_dispatch" e.message
    return Word.callFailed

/-- The cursor after a call was read, and the answer to the call. -/
def dispatch (t : ServiceTable (Secure σ)) (c : γ) (argc : Nat) : γ × Secure σ Word :=
  match CallRequest.decode c argc with
  | (r, c') => (c', serveDecoded t r)

/-- The entry for calls: the announced number of words and the address of the words in the memory of the
caller. -/
def enter (D : Drivers σ) (argc : Word) (caller : Memory) (address : Word) : Secure σ Word :=
  (dispatch (serviceTable D) (⟨caller, address⟩ : PointerCursor) argc.toNat).2

end SecureWorld
