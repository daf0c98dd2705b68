import SecureWorld.Device.Drivers
import SecureWorld.Region

/-!
# Cipher services

The block cipher works in place, so a request first copies its input to its output; before that, all regions
that the accelerator may change are claimed and found to share no byte. The input may overlap any of them.
-/

namespace SecureWorld.Aes

variable {σ : Type} (D : Drivers σ)

open Service

/-- The direction that a word asks for. -/
def mode (w : Word) : Service σ AesMode := validArg (AesMode.ofRaw? w.toCode)

/-- Claim a cipher context. -/
def context (addr : Word) : Service σ Region := Region.bytes addr 34

/-- The context in a region. -/
def loadContext (r : Region) : Service σ AesContext :=
  return AesContext.ofBytes (← r.loadFixed 34)

/-- Write a context to its region. -/
def storeContext (r : Region) (c : AesContext) : Service σ Unit :=
  r.store c.toBytes

/-- Copy as many bytes of input as the output holds to the output. -/
def stage (input : Word) (output : Region) : Service σ Unit := do
  let src ← Region.bytes input output.len
  src.copyTo output

/-- Claim the interrupt of the cipher. -/
def allocInterrupt : Secure σ Word :=
  status (device D.allocAesInterrupt)

/-- Cipher block chaining. -/
def cbc (ctx direction length iv input output : Word) : Secure σ Word :=
  driverCode do
    let dir ← mode direction
    let ctx ← context ctx
    let iv ← Region.block iv
    let output ← Region.bytes output length
    Region.ensureDisjoint [ctx, iv, output]
    stage input output
    let (code, c, v, data) ← device (D.aesCbc (← loadContext ctx) dir (← iv.loadFixed 16) (← output.load))
    storeContext ctx c
    iv.store v
    output.store data
    return code

/-- Cipher feedback over whole blocks, with an offset into the current one. -/
def cfb128 (ctx direction length offset iv input output : Word) : Secure σ Word :=
  driverCode do
    let dir ← mode direction
    let ctx ← context ctx
    let offset ← Region.word offset
    let iv ← Region.block iv
    let output ← Region.bytes output length
    Region.ensureDisjoint [ctx, offset, iv, output]
    stage input output
    let (code, c, o, v, data) ← device (D.aesCfb128 (← loadContext ctx) dir
      (UInt64.ofNat (← offset.loadNat)) (← iv.loadFixed 16) (← output.load))
    storeContext ctx c
    offset.storeWord o
    iv.store v
    output.store data
    return code

/-- Cipher feedback byte by byte. -/
def cfb8 (ctx direction length iv input output : Word) : Secure σ Word :=
  driverCode do
    let dir ← mode direction
    let ctx ← context ctx
    let iv ← Region.block iv
    let output ← Region.bytes output length
    Region.ensureDisjoint [ctx, iv, output]
    stage input output
    let (code, c, v, data) ← device (D.aesCfb8 (← loadContext ctx) dir (← iv.loadFixed 16) (← output.load))
    storeContext ctx c
    iv.store v
    output.store data
    return code

/-- Counter mode, with an offset into the current key stream block. -/
def ctr (ctx length offset nonce stream input output : Word) : Secure σ Word :=
  driverCode do
    let ctx ← context ctx
    let offset ← Region.word offset
    let nonce ← Region.block nonce
    let stream ← Region.block stream
    let output ← Region.bytes output length
    Region.ensureDisjoint [ctx, offset, nonce, stream, output]
    stage input output
    let (code, c, o, n, s, data) ← device (D.aesCtr (← loadContext ctx)
      (UInt64.ofNat (← offset.loadNat)) (← nonce.loadFixed 16) (← stream.loadFixed 16) (← output.load))
    storeContext ctx c
    offset.storeWord o
    nonce.store n
    stream.store s
    output.store data
    return code

/-- One block on its own. -/
def ecb (ctx direction input output : Word) : Secure σ Word :=
  driverCode do
    let dir ← mode direction
    let ctx ← context ctx
    let output ← Region.block output
    Region.ensureDisjoint [ctx, output]
    stage input output
    let (code, c, data) ← device (D.aesEcb (← loadContext ctx) dir (← output.loadFixed 16))
    storeContext ctx c
    output.store data
    return code

/-- Output feedback, with an offset into the current block. -/
def ofb (ctx length offset iv input output : Word) : Secure σ Word :=
  driverCode do
    let ctx ← context ctx
    let offset ← Region.word offset
    let iv ← Region.block iv
    let output ← Region.bytes output length
    Region.ensureDisjoint [ctx, offset, iv, output]
    stage input output
    let (code, c, o, v, data) ← device (D.aesOfb (← loadContext ctx)
      (UInt64.ofNat (← offset.loadNat)) (← iv.loadFixed 16) (← output.load))
    storeContext ctx c
    offset.storeWord o
    iv.store v
    output.store data
    return code

end SecureWorld.Aes
