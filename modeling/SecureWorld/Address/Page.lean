import SecureWorld.Address

/-!
# Pages

A page is known by its number and an offset by its distance from the page's base; together they name one
address. `Address.page` and `Address.offset` take an address apart, `Page.join` puts it together again.
-/

namespace SecureWorld

/-- The page sizes of the memory management unit. -/
inductive PageSize where
  | k8
  | k16
  | k32
  | k64
deriving DecidableEq, Repr

namespace PageSize

/-- The number of address bits inside a page. -/
def shift : PageSize → Nat
  | .k8 => 13
  | .k16 => 14
  | .k32 => 15
  | .k64 => 16

/-- The number of bytes of a page. -/
def bytes : PageSize → Nat
  | .k8 => 0x2000
  | .k16 => 0x4000
  | .k32 => 0x8000
  | .k64 => 0x10000

/-- The number of pages of a 32-bit space. -/
def count (z : PageSize) : Nat :=
  0x100000000 / z.bytes

/-- The name of a page size. -/
def name : PageSize → String
  | .k8 => "8K"
  | .k16 => "16K"
  | .k32 => "32K"
  | .k64 => "64K"

/-- Pages are not empty. -/
theorem bytes_pos (z : PageSize) : 0 < z.bytes := by
  cases z <;> decide

/-- The addresses have pages of every size. -/
theorem count_pos (z : PageSize) : 0 < z.count := by
  cases z <;> decide

/-- The pages of a size fill the 32-bit addresses. -/
theorem count_mul_bytes (z : PageSize) : z.count * z.bytes = 0x100000000 := by
  cases z <;> rfl

end PageSize

/-- A page of a space, by its number. -/
structure Page (s : Space) (z : PageSize) where
  number : Nat
  number_lt : number < z.count
deriving DecidableEq, Repr

/-- A distance from the base of a page. -/
structure PageOffset (z : PageSize) where
  value : Nat
  value_lt : value < z.bytes
deriving DecidableEq, Repr

variable {s : Space} {z : PageSize}

namespace Page

/-- The page with the given number; the bits of the number beyond the space are dropped. -/
def ofNumber (n : Nat) : Page s z :=
  ⟨n % z.count, Nat.mod_lt _ z.count_pos⟩

/-- The address of the first byte of a page. -/
def base (p : Page s z) : Address s :=
  ⟨UInt32.ofNat (p.number * z.bytes)⟩

/-- The address at an offset into a page. -/
def join (p : Page s z) (o : PageOffset z) : Address s :=
  ⟨UInt32.ofNat (p.number * z.bytes + o.value)⟩

/-- The addresses on a page have 32 bits. -/
theorem number_mul_add_lt (p : Page s z) (o : PageOffset z) : p.number * z.bytes + o.value < 0x100000000 := by
  have h : (p.number + 1) * z.bytes ≤ z.count * z.bytes := Nat.mul_le_mul_right _ p.number_lt
  have ho := o.value_lt
  rw [Nat.add_mul, PageSize.count_mul_bytes] at h
  omega

/-- A page and an offset make the number of the base and the offset together. -/
theorem toNat_join (p : Page s z) (o : PageOffset z) :
    (p.join o).toNat = p.number * z.bytes + o.value := by
  simpa [join, Address.toNat] using number_mul_add_lt p o

/-- The base of a page is the number of the page in units of its size. -/
theorem toNat_base (p : Page s z) : p.base.toNat = p.number * z.bytes := by
  have h := p.number_mul_add_lt ⟨0, z.bytes_pos⟩
  simpa [base, Address.toNat] using h

end Page

/-- The offset of a number; the bits of the number beyond the page are dropped. -/
def PageOffset.ofNat (n : Nat) : PageOffset z :=
  ⟨n % z.bytes, Nat.mod_lt _ z.bytes_pos⟩

namespace Address

/-- The page that contains an address. -/
def page (z : PageSize) (a : Address s) : Page s z :=
  ⟨a.toNat / z.bytes, Nat.div_lt_of_lt_mul (by
    rw [Nat.mul_comm, PageSize.count_mul_bytes]; exact a.toNat_lt)⟩

/-- The distance of an address from the base of its page. -/
def offset (z : PageSize) (a : Address s) : PageOffset z :=
  ⟨a.toNat % z.bytes, Nat.mod_lt _ z.bytes_pos⟩

/-- An address is aligned when it is the base of a page. -/
def Aligned (z : PageSize) (a : Address s) : Prop :=
  z.bytes ∣ a.toNat

instance (z : PageSize) (a : Address s) : Decidable (a.Aligned z) :=
  inferInstanceAs (Decidable (z.bytes ∣ a.toNat))

/-- The base of the page that contains an address. -/
def alignDown (z : PageSize) (a : Address s) : Address s :=
  (a.page z).base

/-- Taking an address apart and joining the parts gives it back. -/
theorem page_join_offset (a : Address s) : (a.page z).join (a.offset z) = a := by
  apply ext_toNat
  rw [Page.toNat_join]
  simp only [page, offset]
  rw [Nat.mul_comm]
  exact Nat.div_add_mod ..

end Address

/-- The name under which a page of a space is shown in diagnostics. -/
def Space.pageLabel : Space → String
  | .memory => "MemoryPage"
  | .virtual => "VirtualPage"
  | .physical => "PhysicalPage"

/-- A page with the label of its space, its size and its base. -/
def Page.describe (p : Page s z) : String :=
  s.pageLabel ++ "<" ++ z.name ++ ">(" ++ p.base.render ++ ")"

/-- An offset with the size of its page. -/
def PageOffset.describe (o : PageOffset z) : String :=
  "Offset<" ++ z.name ++ ">(" ++ Hex.upper o.value ++ ")"

end SecureWorld
