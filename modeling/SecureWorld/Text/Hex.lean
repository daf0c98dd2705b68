/-!
# Hexadecimal text

The written forms of numbers in base sixteen: bare digits, digits behind `0x`, and digits filled up with
zeros to a fixed width, with letters in either case.
-/

namespace SecureWorld.Hex

/-- The digits of a number in base sixteen, lower case, without leading zeros. -/
def digits (n : Nat) : List Char :=
  Nat.toDigits 16 n

/-- The digits filled up with zeros on the left to at least `width`. -/
def padded (width n : Nat) : List Char :=
  (digits n).leftpad width '0'

/-- `0x` and the digits, letters in lower case. -/
def lower (n : Nat) : String :=
  "0x" ++ String.ofList (digits n)

/-- `0x` and the digits, letters in upper case. -/
def upper (n : Nat) : String :=
  "0x" ++ String.ofList ((digits n).map Char.toUpper)

/-- `0x` and at least eight digits, letters in lower case: the form of a 32-bit word in messages. -/
def lower8 (n : Nat) : String :=
  "0x" ++ String.ofList (padded 8 n)

/-- `0x` and at least eight digits, letters in upper case: the form of an address. -/
def upper8 (n : Nat) : String :=
  "0x" ++ String.ofList ((padded 8 n).map Char.toUpper)

/-- The value of a digit in either case; every other character counts as zero. -/
def digitValue (c : Char) : Nat :=
  if '0' ≤ c ∧ c ≤ '9' then c.toNat - '0'.toNat
  else if 'a' ≤ c ∧ c ≤ 'f' then c.toNat - 'a'.toNat + 10
  else if 'A' ≤ c ∧ c ≤ 'F' then c.toNat - 'A'.toNat + 10
  else 0

/-- The number that digits spell. -/
def toNat (ds : List Char) : Nat :=
  ds.foldl (fun n c => 16 * n + digitValue c) 0

/-- Bytes as pairs of digits. -/
def ofBytes (bs : List UInt8) : String :=
  String.ofList (bs.flatMap fun b => padded 2 b.toNat)

/-- The bytes that pairs of digits spell. -/
def toBytes : List Char → List UInt8
  | a :: b :: rest => UInt8.ofNat (toNat [a, b]) :: toBytes rest
  | _ => []

end SecureWorld.Hex
