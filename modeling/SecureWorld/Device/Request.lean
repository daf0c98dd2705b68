import SecureWorld.Bytes

/-!
# Requests to the devices

The choices and the records that travel between the services and the devices: cipher modes and contexts,
digest algorithms, watchdogs, descriptors of fused bits, interrupt triggers and kinds of keys.
-/

namespace SecureWorld

/-- The direction of a cipher. -/
inductive AesMode where
  | decrypt
  | encrypt
deriving DecidableEq, Repr

namespace AesMode

def ofRaw? (c : Int32) : Option AesMode :=
  if c = 0 then some .decrypt else if c = 1 then some .encrypt else none

def name : AesMode → String
  | .decrypt => "Decrypt"
  | .encrypt => "Encrypt"

end AesMode

/-- The number of bytes of a cipher block. -/
def blockBytes : Nat := 16

/-- A cipher context: the number of key bytes in use, a mark of the device, and room for a key. -/
structure AesContext where
  keyBytes : UInt8
  keyInHardware : UInt8
  key : Vector UInt8 32
deriving DecidableEq

namespace AesContext

/-- The number of bytes of a context in memory. -/
def size : Nat := 34

/-- The context that bytes spell. -/
def ofBytes (v : Vector UInt8 34) : AesContext :=
  ⟨v[0], v[1], Vector.ofFn fun i : Fin 32 => v[i.val + 2]⟩

/-- The bytes of a context. -/
def toBytes (c : AesContext) : Vector UInt8 34 :=
  Vector.ofFn fun i : Fin 34 =>
    if i.val = 0 then c.keyBytes
    else if i.val = 1 then c.keyInHardware
    else c.key[i.val - 2]

/-- The key in use, at most as long as its room. -/
def activeKey (c : AesContext) : List UInt8 :=
  c.key.toList.take c.keyBytes.toNat

end AesContext

/-- The digest algorithms. -/
inductive ShaType where
  | sha1
  | sha224
  | sha256
deriving DecidableEq, Repr

namespace ShaType

def ofRaw? (w : UInt32) : Option ShaType :=
  if w = 0 then some .sha1 else if w = 1 then some .sha224 else if w = 2 then some .sha256 else none

def name : ShaType → String
  | .sha1 => "Sha1"
  | .sha224 => "Sha224"
  | .sha256 => "Sha256"

/-- The number of bytes of a digest. -/
def digestBytes : ShaType → Nat
  | .sha1 => 20
  | .sha224 => 28
  | .sha256 => 32

/-- The number of bytes of the state between two blocks. -/
def stateBytes : ShaType → Nat
  | .sha1 => 20
  | .sha224 => 32
  | .sha256 => 32

end ShaType

/-- The watchdogs. -/
inductive Watchdog where
  | main0
  | main1
  | rtc
deriving DecidableEq, Repr

namespace Watchdog

def ofRaw? (w : UInt32) : Option Watchdog :=
  if w = 0 then some .main0 else if w = 1 then some .main1 else if w = 2 then some .rtc else none

/-- The number of a watchdog. -/
def raw : Watchdog → UInt32
  | .main0 => 0
  | .main1 => 1
  | .rtc => 2

def name : Watchdog → String
  | .main0 => "Mwdt0"
  | .main1 => "Mwdt1"
  | .rtc => "Rwdt"

end Watchdog

/-- A watchdog context: the number of the instance and the word of its registers. -/
structure WatchdogContext where
  inst : UInt32
  dev : UInt64
deriving DecidableEq, Repr

/-- A run of fused bits: its block, its first bit and their number. -/
structure FuseRun where
  block : UInt8
  firstBit : UInt8
  bitCount : UInt16
deriving DecidableEq, Repr

namespace FuseRun

/-- The run that the four bytes of a descriptor spell. -/
def ofBytes (v : Vector UInt8 4) : FuseRun :=
  ⟨v[0], v[1], UInt16.ofNat (Bytes.toNat [v[2], v[3]])⟩

/-- The first block that holds keys; the open world may read neither it nor a later one. -/
def firstKeyBlock : UInt8 := 4

/-- The greatest number of descriptors of a field. -/
def maxCount : Nat := 16

end FuseRun

/-- What triggers an interrupt. -/
inductive Trigger where
  | level
  | edge
deriving DecidableEq, Repr

namespace Trigger

def ofRaw? (w : UInt32) : Option Trigger :=
  if w = 0 then some .level else if w = 1 then some .edge else none

def name : Trigger → String
  | .level => "Level"
  | .edge => "Edge"

end Trigger

/-- The kinds of stored keys. -/
inductive KeyType where
  | ecdsa
  | aes
deriving DecidableEq, Repr

namespace KeyType

def ofRaw? (b : UInt8) : Option KeyType :=
  if b = 0 then some .ecdsa else if b = 1 then some .aes else none

def name : KeyType → String
  | .ecdsa => "EcdsaSecp256r1"
  | .aes => "Aes256"

end KeyType

/-- The longest certificate name that is accepted, its terminator included. -/
def maxCertificateBytes : Nat := 64

end SecureWorld
