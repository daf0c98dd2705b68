import SecureWorld.Memory
import SecureWorld.Word

/-!
# Argument cursors

The words of a call are read one after the other until the reader declares that it is done. One cursor reads
a list and knows its end; the other reads memory from an address on and trusts the announced count.
-/

namespace SecureWorld

/-- A source of words that can be closed. -/
class Cursor (γ : Type) where
  /-- The next word, if there is one. -/
  next : γ → Option Word × γ
  /-- Close the source. -/
  finish : γ → γ

/-- A cursor over a list of words. -/
structure WordCursor where
  words : List Word
  consumed : Nat
  ended : Bool
deriving DecidableEq, Repr

namespace WordCursor

/-- The cursor before the first word of a list. -/
def ofList (words : List Word) : WordCursor := ⟨words, 0, false⟩

/-- The next word; a closed cursor has none. -/
def next (c : WordCursor) : Option Word × WordCursor :=
  if c.ended then (none, c)
  else
    match c.words[c.consumed]? with
    | none => (none, c)
    | some w => (some w, { c with consumed := c.consumed + 1 })

instance : Cursor WordCursor := ⟨next, fun c => { c with ended := true }⟩

end WordCursor

/-- A cursor over the words of a memory. It is closed when it has no address. -/
structure PointerCursor where
  memory : Memory
  address : Word

namespace PointerCursor

/-- The word at the address; the cursor at address zero is closed. -/
def next (c : PointerCursor) : Option Word × PointerCursor :=
  if c.address = 0 then (none, c)
  else (some (UInt64.ofNat (c.memory.readNat c.address.toNat 8)), { c with address := c.address + 8 })

instance : Cursor PointerCursor := ⟨next, fun c => { c with address := 0 }⟩

end PointerCursor

end SecureWorld
