import SecureWorld.Bytes
import SecureWorld.Layout
import SecureWorld.Text.Hex

/-!
# Image headers

The header of an open-world image: twelve little-endian words that name the version of the interface, the
entry points of both worlds and the ends of the image's memory. A header is valid if it keeps clear of secure
memory and its secure fields are still blank.
-/

namespace SecureWorld.Image

/-- The twelve words of a header. -/
structure Header where
  magic : UInt32
  major : UInt32
  minor : UInt32
  reserved0 : UInt32
  reserved1 : UInt32
  secureEntry : UInt32
  secureInterrupt : UInt32
  openEntry : UInt32
  openInterrupt : UInt32
  iramEnd : UInt32
  iromEnd : UInt32
  dromEnd : UInt32
deriving DecidableEq, Repr

/-- The memories whose ends a header names. -/
inductive Part where
  | iram
  | irom
  | drom
deriving DecidableEq, Repr

/-- A part of an image, as messages name it. -/
def Part.name : Part → String
  | .iram => "Iram"
  | .irom => "Irom"
  | .drom => "Drom"

/-- The entry points that a header names. -/
inductive EntryPoint where
  | entry
  | interrupt
deriving DecidableEq, Repr

/-- An entry point of an image, as messages name it. -/
def EntryPoint.name : EntryPoint → String
  | .entry => "ns_entry_addr"
  | .interrupt => "ns_int_handler"

/-- Why an image is refused. -/
inductive HeaderError where
  | tooShort (length : Nat)
  | badMagic (found : UInt32)
  | unsupportedMajor (found : UInt32)
  | minorTooNew (found : UInt32)
  | reservedNotZero
  | secureFieldsNotBlank
  | outOfWindow (part : Part) (addr : UInt32)
  | overlapsSecure (part : Part) (addr : UInt32)
  | badEntryPoint (point : EntryPoint) (addr : UInt32)
deriving DecidableEq, Repr

/-- The word that opens a header. -/
def magicWord : UInt32 := 0x3348AAED

/-- The version of the interface. -/
def majorVersion : UInt32 := 1

/-- The newest minor version that is supported. -/
def minorVersion : UInt32 := 0

/-- What is logged about a header that is refused. -/
def HeaderError.message : HeaderError → String
  | .tooShort n => toString n ++ " bytes are too short for the application configuration"
  | .badMagic w => "bad magic word " ++ Hex.lower8 w.toNat
  | .unsupportedMajor w =>
    "unsupported API major version " ++ toString w.toNat ++ " (expected " ++ toString majorVersion.toNat
      ++ ")"
  | .minorTooNew w =>
    "API minor version " ++ toString w.toNat ++ " is newer than " ++ toString minorVersion.toNat
  | .reservedNotZero => "reserved words are not zero"
  | .secureFieldsNotBlank => "secure entry fields are already set"
  | .outOfWindow p a => p.name ++ " end " ++ Hex.lower8 a.toNat ++ " lies outside its memory window"
  | .overlapsSecure p a => p.name ++ " end " ++ Hex.lower8 a.toNat ++ " overlaps TEE memory"
  | .badEntryPoint p a => p.name ++ " " ++ Hex.lower8 a.toNat ++ " is not in REE code memory"

/-- The word at an offset of some bytes; the bytes have to hold it. -/
def wordAt (blob : List UInt8) (off : Nat) : Except HeaderError UInt32 :=
  if blob.length < off + 4 then .error (.tooShort blob.length)
  else .ok (UInt32.ofNat (Bytes.toNat ((blob.drop off).take 4)))

/-- The bytes with a word written at an offset; the bytes have to hold it. -/
def withWord (blob : List UInt8) (off : Nat) (w : UInt32) : Except HeaderError (List UInt8) :=
  if blob.length < off + 4 then .error (.tooShort blob.length)
  else .ok (blob.take off ++ Bytes.ofNat 4 w.toNat ++ blob.drop (off + 4))

namespace Header

/-- The number of bytes of a header. -/
def size : Nat := 48

/-- The header of a new image, with blank secure fields. -/
def ofImage (openEntry openInterrupt iramEnd iromEnd dromEnd : UInt32) : Header :=
  ⟨magicWord, majorVersion, minorVersion, 0, 0, 0, 0, openEntry, openInterrupt, iramEnd, iromEnd, dromEnd⟩

/-- The words of a header in their order. -/
def words (h : Header) : List UInt32 :=
  [h.magic, h.major, h.minor, h.reserved0, h.reserved1, h.secureEntry, h.secureInterrupt, h.openEntry,
   h.openInterrupt, h.iramEnd, h.iromEnd, h.dromEnd]

/-- The bytes of a header. -/
def toBytes (h : Header) : List UInt8 :=
  h.words.flatMap fun w => Bytes.ofNat 4 w.toNat

/-- The header at the start of some bytes. -/
def parse (blob : List UInt8) : Except HeaderError Header := do
  if blob.length < size then throw (.tooShort blob.length)
  let magic ← wordAt blob 0
  if magic ≠ magicWord then throw (.badMagic magic)
  return ⟨magic, ← wordAt blob 4, ← wordAt blob 8, ← wordAt blob 12, ← wordAt blob 16, ← wordAt blob 20,
    ← wordAt blob 24, ← wordAt blob 28, ← wordAt blob 32, ← wordAt blob 36, ← wordAt blob 40,
    ← wordAt blob 44⟩

/-- Whether nobody has filled in the secure fields. -/
def blank (h : Header) : Bool := h.secureEntry == 0 && h.secureInterrupt == 0

end Header

/-- Whether an address lies in memory whose code the open world may run. -/
def isOpenCode (a : UInt32) : Bool :=
  (decide (Layout.openSramStart ≤ a) && decide (a < Layout.sramHigh))
    || (decide (Layout.secureWindowEnd ≤ a) && decide (a < Layout.windowEnd))

/-- The end of a part lies in its memory, and above the secure share of it. -/
def checkEnd (p : Part) (a low secureEnd high : UInt32) : Except HeaderError Unit :=
  if a < low ∨ high < a then .error (.outOfWindow p a)
  else if a ≤ secureEnd then .error (.overlapsSecure p a)
  else .ok ()

/-- An entry point lies in memory whose code the open world may run. -/
def checkEntry (p : EntryPoint) (a : UInt32) : Except HeaderError Unit :=
  if isOpenCode a then .ok () else .error (.badEntryPoint p a)

namespace Header

/-- The first thing wrong with a header, if any. -/
def validate (h : Header) : Except HeaderError Unit := do
  if h.magic ≠ magicWord then throw (.badMagic h.magic)
  if h.major ≠ majorVersion then throw (.unsupportedMajor h.major)
  if minorVersion < h.minor then throw (.minorTooNew h.minor)
  if h.reserved0 ≠ 0 ∨ h.reserved1 ≠ 0 then throw .reservedNotZero
  if !h.blank then throw .secureFieldsNotBlank
  checkEntry .entry h.openEntry
  checkEntry .interrupt h.openInterrupt
  checkEnd .iram h.iramEnd Layout.sramLow Layout.openSramStart Layout.sramHigh
  checkEnd .irom h.iromEnd Layout.windowBase Layout.secureWindowEnd Layout.windowEnd
  checkEnd .drom h.dromEnd Layout.windowBase Layout.secureWindowEnd Layout.windowEnd

end Header

end SecureWorld.Image
