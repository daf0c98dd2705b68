import SecureWorld.Address

/-!
# Address ranges

A half-open range of addresses, taken as the set of the addresses in it. A range never ends before it
starts: an inverted pair of bounds makes the empty range at its start.
-/

namespace SecureWorld

/-- The addresses from `start` on and before `stop`. -/
structure AddressRange (s : Space) where
  start : Address s
  stop : Address s
  start_le_stop : start.toNat ≤ stop.toNat
deriving DecidableEq, Repr

namespace AddressRange

variable {s : Space}

/-- The range between two addresses, empty at the first one if they are inverted. -/
def between (a b : Address s) : AddressRange s :=
  if h : b < a then ⟨a, a, Nat.le_refl _⟩
  else ⟨a, b, by rw [Address.lt_iff_toNat] at h; omega⟩

/-- The `len` addresses from `a` on, cut off at the last address of the space. -/
def ofLength (a : Address s) (len : UInt32) : AddressRange s :=
  between a ((a.plus? len).getD ⟨0xFFFFFFFF⟩)

instance : Membership (Address s) (AddressRange s) :=
  ⟨fun r a => r.start ≤ a ∧ a < r.stop⟩

instance (a : Address s) (r : AddressRange s) : Decidable (a ∈ r) :=
  inferInstanceAs (Decidable (r.start ≤ a ∧ a < r.stop))

/-- Whether a range holds no address. -/
def isEmpty (r : AddressRange s) : Bool :=
  r.stop ≤ r.start

/-- Whether an address lies in a range. -/
def contains (r : AddressRange s) (a : Address s) : Bool :=
  decide (a ∈ r)

/-- Whether two ranges share an address. -/
def overlaps (r q : AddressRange s) : Bool :=
  !r.isEmpty && !q.isEmpty && decide (r.start < q.stop) && decide (q.start < r.stop)

/-- Whether a range holds every address of another. -/
def covers (r q : AddressRange s) : Bool :=
  q.isEmpty || (decide (r.start ≤ q.start) && decide (q.stop ≤ r.stop))

/-- The distance between the two ends of a range. -/
def length (r : AddressRange s) : UInt32 :=
  r.stop.value - r.start.value

/-- The set view of a range, in natural numbers. -/
theorem mem_iff_toNat {r : AddressRange s} {a : Address s} :
    a ∈ r ↔ r.start.toNat ≤ a.toNat ∧ a.toNat < r.stop.toNat := by
  rw [← Address.le_iff_toNat, ← Address.lt_iff_toNat]; rfl

/-- A range is written as its ends between a square and a round bracket. -/
def render (r : AddressRange s) : String :=
  "[" ++ r.start.render ++ ", " ++ r.stop.render ++ ")"

end AddressRange

end SecureWorld
