import SecureWorld.Machine

/-!
# Regions of open memory

A span of memory that a caller names by an address and a length. `Region.claim` accepts it only if it is
aligned, does not wrap and stays clear of secure memory; an empty span is harmless wherever it points.
-/

namespace SecureWorld

/-- A span of memory. -/
structure Region where
  addr : Word
  len : Word
deriving DecidableEq, Repr

/-- Whether the addresses from `addr` on and before `stop` reach secure on-chip memory or the secure part of
the window. -/
def reachesSecure (b : Bounds) (addr stop : Word) : Bool :=
  (decide (addr < Layout.secureSramEnd.toUInt64) && decide (Layout.secureSramStart.toUInt64 < stop))
    || (decide (addr < b.window.stop.value.toUInt64) && decide (b.window.start.value.toUInt64 < stop))

namespace Region

variable {σ : Type}

/-- Claim a span of memory for a service. Only a span that is worth a look consults the secure region. -/
def claim (addr len align : Word) : Service σ Region :=
  if len = 0 then pure ⟨addr, len⟩
  else if addr = 0 ∨ addr % align ≠ 0 then Service.refuse .invalidArg
  else
    match Word.plus? addr len with
    | none => Service.refuse .invalidArg
    | some stop => do
      let b ← secureRegion
      if reachesSecure b addr stop then Service.refuse .invalidArg else return ⟨addr, len⟩

/-- Claim bytes. -/
def bytes (addr len : Word) : Service σ Region := claim addr len 1

/-- Claim a 16-bit number. -/
def half (addr : Word) : Service σ Region := claim addr 2 2

/-- Claim a 32-bit number. -/
def single (addr : Word) : Service σ Region := claim addr 4 4

/-- Claim a word. -/
def word (addr : Word) : Service σ Region := claim addr 8 8

/-- Claim a cipher block. -/
def block (addr : Word) : Service σ Region := claim addr 16 1

/-- Whether a region holds no byte. -/
def isEmpty (r : Region) : Bool := r.len == 0

/-- The end of a region. -/
def stop (r : Region) : Except Fault Word := Word.plus r.addr r.len

/-- Whether two regions share a byte. -/
def overlaps (r q : Region) : Except Fault Bool :=
  if r.isEmpty || q.isEmpty then .ok false
  else do
    if r.addr < (← q.stop) then return decide (q.addr < (← r.stop)) else return false

/-- Whether a region shares a byte with one of a list. -/
def overlapsAny (r : Region) : List Region → Except Fault Bool
  | [] => .ok false
  | q :: qs => do if ← r.overlaps q then return true else overlapsAny r qs

/-- Whether no two regions of a list share a byte. -/
def disjoint : List Region → Except Fault Bool
  | [] => .ok true
  | r :: rs => do if ← r.overlapsAny rs then return false else disjoint rs

/-- Refuse a request whose regions share bytes. -/
def ensureDisjoint (rs : List Region) : Service σ Unit := do
  if ← Service.ofExcept (disjoint rs) then return () else Service.refuse .invalidArg

/-- The bytes of a region. -/
def load (r : Region) : Service σ (Vector UInt8 r.len.toNat) :=
  return (← get).memory.read r.addr.toNat _

/-- The first `n` bytes at the address of a region. -/
def loadFixed (r : Region) (n : Nat) : Service σ (Vector UInt8 n) :=
  return (← get).memory.read r.addr.toNat n

/-- The number that a region spells. -/
def loadNat (r : Region) : Service σ Nat :=
  return (← get).memory.readNat r.addr.toNat r.len.toNat

/-- Write bytes at the address of a region. -/
def store (r : Region) {n : Nat} (v : Vector UInt8 n) : Service σ Unit :=
  modify fun m => { m with memory := m.memory.write r.addr.toNat v }

/-- Write a 32-bit number at the address of a region. -/
def storeSingle (r : Region) (w : UInt32) : Service σ Unit :=
  r.store (⟨(Bytes.ofNat 4 w.toNat).toArray, by simp⟩ : Vector UInt8 4)

/-- Write a word at the address of a region. -/
def storeWord (r : Region) (w : Word) : Service σ Unit :=
  r.store (⟨(Bytes.ofNat 8 w.toNat).toArray, by simp⟩ : Vector UInt8 8)

/-- Copy the bytes of a region to the start of another, which has to be as long; they may overlap. -/
def copyTo (src dst : Region) : Service σ Unit :=
  if dst.len < src.len then Service.refuse .invalidSize
  else do
    let v ← src.load
    dst.store v

/-- The bytes before the first zero from an address on, which has to come within `budget` bytes; `seen` of
them were looked at already. -/
def scan (addr : Word) : (budget : Nat) → (seen : Nat) → Service σ Nat
  | 0, _ => Service.refuse .invalidArg
  | budget + 1, seen => do
    let next ← Service.ofExcept (Word.plus addr (UInt64.ofNat seen))
    let r ← bytes next 1
    if (← r.loadNat) = 0 then return seen + 1 else scan addr budget (seen + 1)

/-- The text at an address up to its terminator, and the region of both. A text longer than the limit,
terminator included, is refused. -/
def text (addr : Word) (limit : Nat) : Service σ (List UInt8 × Region) := do
  if addr = 0 then Service.refuse .invalidArg
  let len ← scan addr limit 0
  let r ← bytes addr (UInt64.ofNat len)
  let v ← r.load
  match v.toList.reverse with
  | 0 :: rest => if rest.contains 0 then Service.refuse .invalidArg else return (rest.reverse, r)
  | _ => Service.refuse .invalidArg

end Region

end SecureWorld
