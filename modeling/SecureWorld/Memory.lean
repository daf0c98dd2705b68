import SecureWorld.Bytes

/-!
# Memory

A flat memory gives every address a byte. A block is written and read as a whole; `byte_write` says what a
written block changes and `getElem_read` what a block that is read holds.
-/

namespace SecureWorld

/-- A byte at every address. -/
structure Memory where
  byte : Nat → UInt8

namespace Memory

/-- A memory of zeros. -/
def zero : Memory := ⟨fun _ => 0⟩

instance : Inhabited Memory := ⟨zero⟩

/-- The `n` bytes from address `a` on. -/
def read (m : Memory) (a n : Nat) : Vector UInt8 n :=
  Vector.ofFn fun i : Fin n => m.byte (a + i)

/-- The memory with a block written over the bytes from address `a` on. -/
@[noinline]
def write (m : Memory) (a : Nat) {n : Nat} (v : Vector UInt8 n) : Memory :=
  ⟨fun x => if h : a ≤ x ∧ x - a < n then v[x - a] else m.byte x⟩

/-- A run of bytes written from address `a` on. -/
def writeList (m : Memory) (a : Nat) (bs : List UInt8) : Memory :=
  m.write a (⟨bs.toArray, rfl⟩ : Vector UInt8 bs.toArray.size)

/-- The number of `k` bytes at an address. -/
def readNat (m : Memory) (a k : Nat) : Nat :=
  Bytes.toNat (m.read a k).toList

/-- Memories are the same if all of their bytes are. -/
@[ext]
theorem ext {m m' : Memory} (h : ∀ a, m.byte a = m'.byte a) : m = m' := by
  cases m; cases m'; congr; exact funext h

/-- A byte that is read is the byte at its address. -/
@[simp]
theorem getElem_read (m : Memory) (a n i : Nat) (h : i < n) : (m.read a n)[i] = m.byte (a + i) := by
  simp [read]

/-- A number of one byte is that byte. -/
theorem readNat_one (m : Memory) (a : Nat) : m.readNat a 1 = (m.byte a).toNat := rfl

/-- Reading one byte more puts it behind the others. -/
theorem toList_read_succ (m : Memory) (a n : Nat) :
    (m.read a (n + 1)).toList = (m.read a n).toList ++ [m.byte (a + n)] := by
  apply List.ext_getElem
  · simp
  · intro j hj _
    rw [Vector.length_toList] at hj
    rw [Vector.getElem_toList, getElem_read, List.getElem_append]
    split
    next hlt => simp
    next hlt =>
      rw [Vector.length_toList] at hlt
      rw [List.getElem_singleton, show j = n by omega]

/-- A byte is the one that was written there, or else the one that was there before. -/
theorem byte_write (m : Memory) (a : Nat) {n : Nat} (v : Vector UInt8 n) (x : Nat) :
    (m.write a v).byte x = if h : a ≤ x ∧ x - a < n then v[x - a] else m.byte x := rfl

/-- A byte is the one of the list that was written there, or else the one that was there before. -/
theorem byte_writeList (m : Memory) (a : Nat) (bs : List UInt8) (x : Nat) :
    (m.writeList a bs).byte x = if h : a ≤ x ∧ x - a < bs.length then bs[x - a] else m.byte x := rfl

/-- A part of a run that was written is read back. -/
theorem toList_read_writeList (m : Memory) (a : Nat) {bs : List UInt8} {i n : Nat} (h : i + n ≤ bs.length) :
    ((m.writeList a bs).read (a + i) n).toList = (bs.drop i).take n := by
  apply List.ext_getElem
  · simp only [Vector.length_toList, List.length_take, List.length_drop]
    omega
  · intro j hj _
    rw [Vector.length_toList] at hj
    rw [Vector.getElem_toList, getElem_read, byte_writeList, dif_pos (by omega), List.getElem_take,
      List.getElem_drop]
    congr 1
    omega

/-- A write leaves the bytes outside its block alone. -/
theorem byte_write_of_not_mem {m : Memory} {a n : Nat} {v : Vector UInt8 n} {x : Nat}
    (h : x < a ∨ a + n ≤ x) : (m.write a v).byte x = m.byte x := by
  rw [byte_write, dif_neg (by omega)]

/-- A block that was written is read back. -/
@[simp]
theorem read_write (m : Memory) (a : Nat) {n : Nat} (v : Vector UInt8 n) : (m.write a v).read a n = v := by
  ext i hi
  simp [byte_write, hi]

/-- A block is read as before after a write that shares no byte with it. -/
theorem read_write_of_disjoint {m : Memory} {a n b k : Nat} {v : Vector UInt8 n}
    (h : b + k ≤ a ∨ a + n ≤ b) : (m.write a v).read b k = m.read b k := by
  ext i hi
  rw [getElem_read, getElem_read, byte_write_of_not_mem (by omega)]

/-- A number that was written is read back, less its upper bits. -/
theorem readNat_writeList (m : Memory) (a k n : Nat) :
    (m.writeList a (Bytes.ofNat k n)).readNat a k = n % Bytes.values k := by
  have hfits : 0 + k ≤ (Bytes.ofNat k n).length := by simp
  have hread := toList_read_writeList m a hfits
  rw [Nat.add_zero, List.drop_zero, List.take_of_length_le (by simp)] at hread
  rw [readNat, hread, Bytes.toNat_ofNat]

/-- A number is read as before after a run was written that shares no byte with it. -/
theorem readNat_writeList_of_disjoint {m : Memory} {a b k : Nat} {bs : List UInt8}
    (h : b + k ≤ a ∨ a + bs.length ≤ b) : (m.writeList a bs).readNat b k = m.readNat b k := by
  rw [readNat, writeList, read_write_of_disjoint (by simpa using h), readNat]

end Memory

end SecureWorld
