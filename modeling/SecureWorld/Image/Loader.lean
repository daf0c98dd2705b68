import SecureWorld.Image.Header
import SecureWorld.Log

/-!
# Loading an image

The secure world fills its entry points into the header of a valid image, in place.
-/

namespace SecureWorld.Image

/-- An image in memory, and what was logged about it. -/
structure Loader where
  blob : List UInt8
  records : List Log.Record

/-- Actions on an image that may refuse it. -/
abbrev Loading := EStateM HeaderError Loader

namespace Loading

/-- Log a record. -/
def log (level : Log.Level) (message : String) : Loading Unit :=
  modify fun s => { s with records := s.records ++ [⟨level, "tee_app_abi", message⟩] }

/-- Go on with a value or refuse the image. -/
def ofExcept {α : Type} : Except HeaderError α → Loading α
  | .ok a => pure a
  | .error e => throw e

/-- Write a word at an offset of the image. -/
def storeWord (off : Nat) (w : UInt32) : Loading Unit := do
  let blob ← ofExcept (withWord (← get).blob off w)
  modify fun s => { s with blob := blob }

/-- Fill in the secure entry points. The header must be valid, so they can be filled in only once. -/
def fillSecureFields (entry interrupt : UInt32) : Loading Header := do
  let h ← ofExcept (Header.parse (← get).blob)
  match h.validate with
  | .error e =>
    log .warn ("Refusing REE image: " ++ e.message)
    throw e
  | .ok () => pure ()
  storeWord 20 entry
  storeWord 24 interrupt
  let h := { h with secureEntry := entry, secureInterrupt := interrupt }
  log .debug ("REE app config v" ++ toString h.major.toNat ++ "." ++ toString h.minor.toNat
    ++ ": ns_entry=" ++ Hex.lower8 h.openEntry.toNat ++ " s_entry=" ++ Hex.lower8 entry.toNat
    ++ " s_intr=" ++ Hex.lower8 interrupt.toNat)
  return h

end Loading

end SecureWorld.Image
