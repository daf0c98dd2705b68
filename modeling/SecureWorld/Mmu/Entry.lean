import SecureWorld.Address.Page

/-!
# Table entries

An entry of the window's table is a 32-bit word that selects a page of flash or of external memory. Here it
is taken apart into its fields; `Entry.ofBits` and `Entry.toBits` pass between the two forms.
-/

namespace SecureWorld.Mmu

/-- The memories behind the window. -/
inductive Target where
  | flash
  | psram
deriving DecidableEq, Repr

namespace Target

/-- The number of a target in a request. -/
def raw : Target → UInt32
  | .flash => 1
  | .psram => 2

/-- The target of a number. -/
def ofRaw? (w : UInt32) : Option Target :=
  if w = 1 then some .flash else if w = 2 then some .psram else none

/-- A target, as messages name it. -/
def name : Target → String
  | .flash => "Flash"
  | .psram => "Psram"

end Target

/-- The bus that a window address is asked for; both share one window. -/
inductive Bus where
  | data
  | instruction
deriving DecidableEq, Repr

namespace Bus

/-- The bus of a number. -/
def ofRaw? (w : UInt32) : Option Bus :=
  if w = 1 then some .data else if w = 2 then some .instruction else none

/-- A side of the bus, as messages name it. -/
def name : Bus → String
  | .data => "Data"
  | .instruction => "Instruction"

end Bus

/-- A page of the memory behind the window. -/
abbrev PhysicalPage := Page .physical .k64

/-- An entry: the page it selects, whether it is in use, whether the page is decrypted, whether it is one of
external memory, and the bits without a meaning. -/
structure Entry where
  pageNumber : Fin 512
  valid : Bool
  sensitive : Bool
  psram : Bool
  reserved : Fin 1048576
deriving DecidableEq, Repr

namespace Entry

/-- An entry that is not in use. -/
def unused : Entry := ⟨0, false, false, false, 0⟩

instance : Inhabited Entry := ⟨unused⟩

/-- The entry that a word spells. -/
def ofBits (w : UInt32) : Entry where
  pageNumber := ⟨w.toNat % 512, Nat.mod_lt _ (by decide)⟩
  valid := w.toNat / 512 % 2 = 1
  sensitive := w.toNat / 1024 % 2 = 1
  psram := w.toNat / 2048 % 2 = 1
  reserved := ⟨w.toNat / 4096 % 1048576, Nat.mod_lt _ (by decide)⟩

/-- The word of an entry. -/
def toBits (e : Entry) : UInt32 :=
  UInt32.ofNat (e.pageNumber.val + 512 * e.valid.toNat + 1024 * e.sensitive.toNat
    + 2048 * e.psram.toNat + 4096 * e.reserved.val)

/-- The entry with another page number, which has to fit nine bits. -/
def withPageNumber (e : Entry) (n : Nat) : Except Fault Entry :=
  if h : n < 512 then .ok { e with pageNumber := ⟨n, h⟩ } else .error .pageNumber

/-- The entry in use that selects a page of a target. -/
def mapping (p : PhysicalPage) (t : Target) : Except Fault Entry :=
  (unused.withPageNumber (p.number % 65536)).map fun e =>
    { e with valid := true, psram := t = .psram }

/-- The target of an entry in use. -/
def target (e : Entry) : Target :=
  if e.psram then .psram else .flash

/-- The target and the page that an entry selects, if it is in use. -/
def selected? (e : Entry) : Option (Target × PhysicalPage) :=
  if e.valid then some (e.target, Page.ofNumber e.pageNumber.val) else none

/-- The fields of an entry as diagnostics show them. -/
def describe (e : Entry) : String :=
  "MmuEntry \x7b page_num: " ++ toString e.pageNumber.val ++ ", valid: " ++ toString e.valid
    ++ ", sensitive: " ++ toString e.sensitive ++ ", psram: " ++ toString e.psram ++ " \x7d"

/-- A word spelled by an entry gives the entry back. -/
theorem ofBits_toBits (e : Entry) : ofBits e.toBits = e := by
  obtain ⟨⟨p, hp⟩, v, s, r, ⟨x, hx⟩⟩ := e
  have hv := v.toNat_lt
  have hs := s.toNat_lt
  have hr := r.toNat_lt
  have hw : (toBits ⟨⟨p, hp⟩, v, s, r, ⟨x, hx⟩⟩).toNat
      = p + 512 * v.toNat + 1024 * s.toNat + 2048 * r.toNat + 4096 * x := by
    simp only [toBits, UInt32.toNat_ofNat']
    omega
  have hbit : ∀ (b : Bool) (n : Nat), n = b.toNat → decide (n = 1) = b := by
    intro b n h; cases b <;> simp_all
  simp only [ofBits, hw, Entry.mk.injEq, Fin.mk.injEq]
  exact ⟨by omega, hbit _ _ (by omega), hbit _ _ (by omega), hbit _ _ (by omega), by omega⟩

/-- Every word is spelled by the entry it spells. -/
theorem toBits_ofBits (w : UInt32) : (ofBits w).toBits = w := by
  have hw := w.toNat_lt
  have hbit : ∀ n : Nat, (decide (n % 2 = 1)).toNat = n % 2 := by
    intro n; rcases Nat.mod_two_eq_zero_or_one n with h | h <;> simp [h]
  apply UInt32.toNat_inj.1
  simp only [toBits, ofBits, UInt32.toNat_ofNat', hbit]
  omega

end Entry

end SecureWorld.Mmu
