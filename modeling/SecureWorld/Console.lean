import SecureWorld.Log

/-!
# The console

The secure serial line as seen from a host: the bytes written to it are kept up to a fixed number and shown
as text. A character that the limit cuts in two is not shown.
-/

namespace SecureWorld

/-- The bytes kept of what was written to the console. -/
structure Console where
  bytes : ByteArray

namespace Console

/-- The number of bytes kept. -/
def capacity : Nat := 16384

/-- A console to which nothing was written. -/
def empty : Console := ⟨ByteArray.empty⟩

instance : Inhabited Console := ⟨empty⟩

/-- Write one byte; it is lost if the console is full. -/
def put (c : Console) (b : UInt8) : Console :=
  if c.bytes.size < capacity then ⟨c.bytes.push b⟩ else c

/-- The bytes of a text. -/
def encode (s : List Char) : List UInt8 :=
  s.flatMap String.utf8EncodeChar

/-- Write a text byte by byte. -/
def write (c : Console) (s : String) : Console :=
  (encode s.toList).foldl put c

/-- Write the line of a record if the filter lets its level through. -/
def log (c : Console) (f : Log.Filter) (r : Log.Record) : Console :=
  if f.admits r.level then c.write r.line else c

/-- The characters that the bytes from position `i` on spell, up to the first byte that begins none. -/
def decodeFrom (b : ByteArray) (i : Nat) : List Char :=
  if _h : i < b.size then
    match b.utf8DecodeChar? i with
    | some c => c :: decodeFrom b (i + c.utf8Size)
    | none => []
  else []
termination_by b.size - i
decreasing_by
  have := c.utf8Size_pos
  omega

/-- The text on the console. -/
def text (c : Console) : String :=
  String.ofList (decodeFrom c.bytes 0)

end Console

end SecureWorld
