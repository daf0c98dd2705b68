import SecureWorld.Device.Bench

/-!
# Reports of the bench

A request to the bench as a line of a report: its name and its arguments in their order. The names are also
those by which the bench is told to refuse a request.
-/

namespace SecureWorld.Bench

/-- A column of a report. -/
inductive Value where
  | text (s : String)
  | number (n : Int)
  | word (w : Word)
  | bytes (bs : List UInt8)
  | flag (b : Bool)
  | absent
  | list (vs : List Value)

namespace Value

def u32 (w : UInt32) : Value := number w.toNat

def i32 (c : Int32) : Value := number c.toInt

def slot (s : UInt16) : Value := number s.toNat

def count (n : Nat) : Value := number n

/-- A run of fused bits as a triple. -/
def run (r : FuseRun) : Value :=
  list [count r.block.toNat, count r.firstBit.toNat, count r.bitCount.toNat]

end Value

/-- The name under which a request can be refused. -/
def Fallible.name : Fallible → String
  | .readFuses => "efuse.read_field"
  | .beginUpdate => "ota.begin"
  | .writeUpdate => "ota.write"
  | .endUpdate => "ota.end"
  | .initStorage => "storage.init"
  | .generateKey => "storage.gen_key"
  | .clearSlot => "storage.clear"
  | .sign => "storage.sign"
  | .publicKey => "storage.pubkey"
  | .encrypt => "storage.encrypt"
  | .decrypt => "storage.decrypt"
  | .attest => "att.token"

/-- The request of a name that can be refused. -/
def Fallible.ofName? (s : String) : Option Fallible :=
  [readFuses, beginUpdate, writeUpdate, endUpdate, initStorage, generateKey, clearSlot, sign, publicKey,
   encrypt, decrypt, attest].find? fun f => f.name == s

open Value in
/-- The name and the arguments of a request. -/
def Request.report : Request → String × List Value
  | .routeInterrupt c s l => ("intr.route", [i32 c, u32 s, u32 l])
  | .enableInterrupts m => ("intr.enable", [u32 m])
  | .disableInterrupts m => ("intr.disable", [u32 m])
  | .setInterruptPriority l p => ("intr.priority", [i32 l, u32 p])
  | .setInterruptType l t => ("intr.type", [i32 l, text t.name])
  | .setInterruptThreshold t => ("intr.threshold", [i32 t])
  | .acknowledgeEdge l => ("intr.edge_ack", [u32 l])
  | .enableAllInterrupts => ("intr.global_enable", [])
  | .chipRevision => ("efuse.chip_revision", [])
  | .packageVersion => ("efuse.chip_ver_pkg", [])
  | .waferDisabled => ("efuse.wafer", [])
  | .macAddress => ("efuse.mac", [])
  | .cryptCount => ("efuse.crypt_cnt", [])
  | .checkSecureVersion v => ("efuse.secure_version", [u32 v])
  | .readFuses rs n b => (Fallible.readFuses.name, [list (rs.map run), count n, word b])
  | .initWatchdog b d p i => ("wdt.init", [u32 b.inst, word b.dev, text d.name, u32 p, flag i])
  | .deinitWatchdog b => ("wdt.deinit", [u32 b.inst, word b.dev])
  | .allocAesInterrupt => ("aes.intr_alloc", [])
  | .aesCbc k m v d => ("aes.cbc", [bytes k, text m.name, bytes v, bytes d])
  | .aesCfb128 k m o v d => ("aes.cfb128", [bytes k, text m.name, word o, bytes v, bytes d])
  | .aesCfb8 k m v d => ("aes.cfb8", [bytes k, text m.name, bytes v, bytes d])
  | .aesCtr k o n s d => ("aes.ctr", [bytes k, word o, bytes n, bytes s, bytes d])
  | .aesEcb k m b => ("aes.ecb", [bytes k, text m.name, bytes b])
  | .aesOfb k o v d => ("aes.ofb", [bytes k, word o, bytes v, bytes d])
  | .sha t i n => ("sha.sha", [text t.name, bytes i, count n])
  | .shaDma t i b f => ("sha.dma", [text t.name, bytes i, bytes b, flag f])
  | .writeShaState t s => ("sha.write", [text t.name, bytes s])
  | .readShaState t n => ("sha.read", [text t.name, count n])
  | .beginUpdate => (Fallible.beginUpdate.name, [])
  | .writeUpdate o d => (Fallible.writeUpdate.name, [u32 o, bytes d])
  | .endUpdate w => (Fallible.endUpdate.name, [(w.map count).getD absent])
  | .initStorage => (Fallible.initStorage.name, [])
  | .generateKey s k => (Fallible.generateKey.name, [slot s, text k.name])
  | .clearSlot s => (Fallible.clearSlot.name, [slot s])
  | .isSlotEmpty s => ("storage.is_empty", [slot s])
  | .sign s h => (Fallible.sign.name, [slot s, bytes h])
  | .publicKey s => (Fallible.publicKey.name, [slot s])
  | .encrypt s d a n => (Fallible.encrypt.name, [slot s, bytes d, bytes a, count n])
  | .decrypt s d a t => (Fallible.decrypt.name, [slot s, bytes d, bytes a, bytes t])
  | .attest n c t k => (Fallible.attest.name, [u32 n, u32 c, bytes t, count k])

end SecureWorld.Bench
