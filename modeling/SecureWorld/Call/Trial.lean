import SecureWorld.Call.Dispatch

/-!
# Trial handlers

For every number of words a handler that remembers the words it was called with and answers their weighted
sum, so that a missing, a surplus and a shifted word all show.
-/

namespace SecureWorld.Trial

/-- The number of words, plus every word times its place, in words. -/
def sum (words : List Word) : Word :=
  (words.zipIdx 1).foldl (fun acc p => acc + UInt64.ofNat p.2 * p.1) (UInt64.ofNat words.length)

/-- Remember words and answer their sum. -/
def remember (words : List Word) : Secure (List Word) Word := do
  modify fun m => { m with devices := words }
  return sum words

/-- The function of `n` more words that goes on from the words collected so far, the last one first. -/
def body : (n : Nat) → List Word → Curried n (Secure (List Word) Word)
  | 0, ws => remember ws.reverse
  | n + 1, ws => fun w => body n (w :: ws)

/-- The trial handler of `n` words. -/
def handler (n : Nat) : Handler (Secure (List Word)) := ⟨n, body n []⟩

end SecureWorld.Trial
