import SecureWorld.Device.Drivers
import SecureWorld.Region

/-!
# Attestation

A token is written to a buffer of the caller and its length to a number of the caller.
-/

namespace SecureWorld.Attestation

variable {σ : Type} (D : Drivers σ)

open Service

/-- Make a token for a nonce, a client and a certificate, and write how long it is. -/
def token (nonce client certificate buffer size length : Word) : Secure σ Word :=
  status do
    let (name, cert) ← Region.text certificate maxCertificateBytes
    let buffer ← Region.bytes buffer size
    let out ← Region.single length
    Region.ensureDisjoint [cert, buffer, out]
    let (result, v) ← device (D.attest nonce.toUInt32 client.toUInt32 name (← buffer.load))
    buffer.store v
    match result with
    | .error e => refuse e
    | .ok written =>
      if written < 0x100000000 then out.storeSingle (UInt32.ofNat written) else refuse .invalidSize

end SecureWorld.Attestation
