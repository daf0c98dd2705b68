/-!
# Little-endian words

Numbers as bytes, the least significant byte first. `Bytes.ofNat` writes a number into a given count of
bytes and `Bytes.toNat` reads the number back; the bits beyond the count are dropped.
-/

namespace SecureWorld.Bytes

/-- The first `k` bytes of a number, the least significant one first. -/
def ofNat : (k : Nat) → Nat → List UInt8
  | 0, _ => []
  | k + 1, n => UInt8.ofNat n :: ofNat k (n / 256)

/-- The number that bytes spell, the least significant one first. -/
def toNat : List UInt8 → Nat
  | [] => 0
  | b :: bs => b.toNat + 256 * toNat bs

/-- The number of values that `k` bytes can spell. -/
def values : Nat → Nat
  | 0 => 1
  | k + 1 => 256 * values k

/-- A number is written in as many bytes as are asked for. -/
@[simp] theorem length_ofNat (k n : Nat) : (ofNat k n).length = k := by
  induction k generalizing n with
  | zero => rfl
  | succ k ih => simp [ofNat, ih]

/-- Some bytes spell a number below the number of their values. -/
theorem toNat_lt (bs : List UInt8) : toNat bs < values bs.length := by
  induction bs with
  | nil => simp [toNat, values]
  | cons b bs ih =>
    have hb := b.toNat_lt
    simp only [toNat, List.length_cons, values]
    omega

/-- Reading back what was written gives the number less its upper bits. -/
theorem toNat_ofNat (k n : Nat) : toNat (ofNat k n) = n % values k := by
  induction k generalizing n with
  | zero => simp [ofNat, toNat, values, Nat.mod_one]
  | succ k ih =>
    rw [ofNat, toNat, ih, values, UInt8.toNat_ofNat', Nat.mod_mul]

/-- Writing what was read gives the bytes. -/
theorem ofNat_toNat (bs : List UInt8) : ofNat bs.length (toNat bs) = bs := by
  induction bs with
  | nil => rfl
  | cons b bs ih =>
    have hb := b.toNat_lt
    have h1 : UInt8.ofNat (b.toNat + 256 * toNat bs) = b := by
      apply UInt8.toNat_inj.1
      simp only [UInt8.toNat_ofNat']
      omega
    have h2 : (b.toNat + 256 * toNat bs) / 256 = toNat bs := by omega
    simp [ofNat, toNat, h1, h2, ih]

section Codes

variable {α : Type} {f : α → List UInt8} {k : Nat} (hf : ∀ x, (f x).length = k) {xs : List α}

include hf

/-- The length of codes of one width, one after the other. -/
theorem length_flatMap : (xs.flatMap f).length = k * xs.length := by
  induction xs with
  | nil => rfl
  | cons x xs ih => rw [List.flatMap_cons, List.length_append, hf, ih, List.length_cons, Nat.mul_succ, Nat.add_comm]

/-- Of codes of one width, one after the other, each is found at its place. -/
theorem take_drop_flatMap {i : Nat} (hi : i < xs.length) (rest : List UInt8) :
    ((xs.flatMap f ++ rest).drop (k * i)).take k = f xs[i] := by
  induction xs generalizing i with
  | nil => cases hi
  | cons x xs ih =>
    rw [List.flatMap_cons, List.append_assoc]
    cases i with
    | zero => exact List.take_left' (hf x)
    | succ i =>
      rw [Nat.mul_succ, Nat.add_comm, ← List.drop_drop, List.drop_left' (hf x)]
      exact ih (Nat.lt_of_succ_lt_succ hi)

end Codes

end SecureWorld.Bytes
