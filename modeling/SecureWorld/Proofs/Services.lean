import SecureWorld.Proofs.Region
import SecureWorld.Service.Aes
import SecureWorld.Service.Arithmetic
import SecureWorld.Service.Attestation
import SecureWorld.Service.Fuse
import SecureWorld.Service.Interrupt
import SecureWorld.Service.Sha
import SecureWorld.Service.Storage
import SecureWorld.Service.Update
import SecureWorld.Service.Watchdog

/-!
# Services over the devices

Every service over the devices that takes an address is *harmless*: it never halts and never sees or changes
secure memory, whatever the devices do. Each proof follows the steps of its service: what is claimed is open,
and only what is open is read, handed to the devices and written.
-/

namespace SecureWorld

variable {σ : Type} {D : Drivers σ} {π : Policy} {F : Fault → Prop}

/-- An answer that is given without a halt. -/
abbrev Harmless (π : Policy) (x : Secure σ Word) : Prop :=
  Confined π x (fun _ => True) fun _ => False

namespace Interrupt

/-- Changing the trigger of an interrupt line reaches nothing but the devices. -/
lemma setType_harmless {line trigger : Word} : Harmless π (setType D line trigger) :=
  .status (.bind .validArg fun _ _ => .device)

end Interrupt

namespace Fuse

/-- The revision of the chip is asked of the devices. -/
lemma chipRevision_harmless : Harmless π (chipRevision D) :=
  .value (.bind .device fun _ _ => .pure trivial)

/-- The version of the package is asked of the devices. -/
lemma packageVersion_harmless : Harmless π (packageVersion D) :=
  .value (.bind .device fun _ _ => .pure trivial)

/-- Whether the flash is encrypted is asked of the devices. -/
lemma flashEncrypted_harmless : Harmless π (flashEncrypted D) :=
  .flag (.bind .device fun _ _ => .pure trivial)

/-- The address goes to six claimed bytes and nowhere else. -/
lemma macAddress_harmless {out : Word} : Harmless π (macAddress D out) := by
  refine .status (.bind .claim ?_)
  rintro r ⟨rfl, hr⟩
  exact .bind .device fun mac _ => .store hr (Nat.le_refl _)

/-- The comparison of two open regions reads no memory at all. -/
lemma ensureApart_confined {r q : Region} (hr : r.Open π.bounds) (hq : q.Open π.bounds) :
    Confined π (ensureApart r q : Service σ Unit) (fun _ => True) (Stop.Within F) := by
  obtain ⟨o, ho, -⟩ := Region.overlaps_eq hr.bounded hq.bounded
  refine .bind (Q := fun _ => True) (.ofExcept ⟨o, ho, trivial⟩) fun o _ => ?_
  cases o with
  | true => exact .refuse
  | false => exact .pure trivial

/-- A descriptor is claimed and kept apart from the destination before it is read. -/
lemma descriptor_confined {dst : Region} {addr : Word} (hd : dst.Open π.bounds) :
    Confined π (descriptor dst addr : Service σ FuseRun) (fun _ => True) (Stop.Within F) := by
  refine .bind .claim ?_
  rintro r ⟨rfl, hr⟩
  refine .bind (ensureApart_confined hr hd) fun _ _ => ?_
  refine .bind (.loadFixed hr (Nat.le_refl _)) fun v _ => ?_
  dsimp only
  split
  · exact .bind .log fun _ _ => .bind (Q := fun _ => False) .refuse fun _ h => h.elim
  · exact .pure trivial

/-- The list is walked slot by slot; every slot and every descriptor is claimed before it is read. -/
lemma descriptors_confined {field : Word} {dst : Region} {budget index : Nat} (hd : dst.Open π.bounds) :
    Confined π (descriptors field dst budget index : Service σ (List FuseRun)) (fun _ => True)
      (Stop.Within F) := by
  induction budget generalizing index with
  | zero => exact .refuse
  | succ budget ih =>
    refine .bind .validArg fun a _ => .bind .claim ?_
    rintro r ⟨rfl, hr⟩
    refine .bind (ensureApart_confined hr hd) fun _ _ => ?_
    refine .bind (.loadNat hr) fun addr _ => ?_
    dsimp only
    split
    · exact .pure trivial
    · -- what was loaded may be any address, which is why the descriptor is claimed for itself
      exact .bind (descriptor_confined hd) fun run _ => .bind ih fun runs _ => .pure trivial

/-- A fuse field is read through claimed slots and descriptors, and delivered to the claimed destination. -/
lemma readField_harmless {field dst bits : Word} : Harmless π (readField D field dst bits) := by
  refine .status (.bind .claim ?_)
  rintro out ⟨rfl, hout⟩
  refine .bind (descriptors_confined hout) fun runs _ => ?_
  dsimp only
  split
  · exact .bind (Q := fun _ => False) .refuse fun _ h => h.elim
  refine .bind (.load hout) fun old _ => .bind .device fun p _ => ?_
  obtain ⟨result, v⟩ := p
  refine .bind (.store hout (Nat.le_refl _)) fun _ _ => ?_
  cases result with
  | ok a => exact .pure trivial
  | error e => exact .refuse

end Fuse

namespace WatchdogService

/-- The second field of a context lies within the region of the context. -/
lemma device_open {hal : Word} (hr : Region.Open π.bounds ⟨hal, 16⟩) :
    Region.Open π.bounds ⟨hal + 8, 8⟩ ∧ (hal + 8).toNat = hal.toNat + 8 :=
  hr.part (by decide) (by simp)

/-- The context of a watchdog is read from its claimed region only. -/
lemma load_confined {hal : Word} (hr : Region.Open π.bounds ⟨hal, 16⟩) :
    Confined π (load ⟨hal, 16⟩ : Service σ WatchdogContext) (fun _ => True) (Stop.Within F) := by
  obtain ⟨hdev, heq⟩ := device_open hr
  have hfield : hal.toNat + 8 = (hal + 8).toNat := heq.symm
  refine .peek ?_ fun m _ => .pure trivial
  intro m n hl
  dsimp only
  rw [hr.readNat_eq hl (by simp), hfield, hdev.readNat_eq hl (by simp)]

/-- The context of a watchdog is written to its claimed region only. -/
lemma store_confined {hal : Word} {c : WatchdogContext} (hr : Region.Open π.bounds ⟨hal, 16⟩) :
    Confined π (store ⟨hal, 16⟩ c : Service σ Unit) (fun _ => True) (Stop.Within F) := by
  obtain ⟨hdev, -⟩ := device_open hr
  exact .bind (.storeSingle hr (by simp)) fun _ _ => .storeWord hdev (by simp)

/-- Setting a watchdog up touches the context at the claimed handle and no other memory. -/
lemma init_harmless {hal inst prescaler interrupt : Word} :
    Harmless π (init D hal inst prescaler interrupt) := by
  refine .status (.bind .validArg fun dog _ => .bind .claim ?_)
  rintro r ⟨rfl, hr⟩
  exact .bind (load_confined hr) fun c _ => .bind .device fun c' _ => store_confined hr

/-- Switching a watchdog off touches the context at the claimed handle and no other memory. -/
lemma deinit_harmless {hal : Word} : Harmless π (deinit D hal) := by
  refine .status (.bind .claim ?_)
  rintro r ⟨rfl, hr⟩
  exact .bind (load_confined hr) fun c _ => .bind .device fun c' _ => store_confined hr

end WatchdogService

namespace Sha

/-- A digest is computed of a claimed input and written to a claimed output. -/
lemma digest_harmless {ty input length output : Word} : Harmless π (digest D ty input length output) := by
  refine .status (.bind .validArg fun t _ => .bind .claim ?_)
  rintro src ⟨rfl, hsrc⟩
  refine .bind .claim ?_
  rintro out ⟨rfl, hout⟩
  refine .bind (.ensureDisjoint (by simp [hsrc, hout])) fun _ _ => ?_
  refine .bind (.load hsrc) fun v _ => .bind (.load hout) fun old _ => .bind .device fun new _ => ?_
  exact .store hout (Nat.le_refl _)

/-- The engine is fed from a claimed input, behind what is in a claimed buffer. -/
lemma feed_harmless {ty input length buffer bufferLength first : Word} :
    Harmless π (feed D ty input length buffer bufferLength first) := by
  refine .driverCode (.bind .validArg fun t _ => .bind .claim ?_)
  rintro src ⟨rfl, hsrc⟩
  refine .bind .claim ?_
  rintro buf ⟨rfl, hbuf⟩
  exact .bind (.load hsrc) fun v _ => .bind (.load hbuf) fun w _ => .device

/-- The state of the engine is read into a claimed region. -/
lemma readState_harmless {ty state : Word} : Harmless π (readState D ty state) := by
  refine .status (.bind .validArg fun t _ => .bind .claim ?_)
  rintro r ⟨rfl, hr⟩
  exact .bind (.load hr) fun old _ => .bind .device fun new _ => .store hr (Nat.le_refl _)

/-- The state of the engine is taken from a claimed region. -/
lemma writeState_harmless {ty state : Word} : Harmless π (writeState D ty state) := by
  refine .status (.bind .validArg fun t _ => .bind .claim ?_)
  rintro r ⟨rfl, hr⟩
  exact .bind (.load hr) fun v _ => .device

end Sha

namespace Update

/-- A piece of an update is read from a claimed region. -/
lemma write_harmless {offset data size : Word} : Harmless π (write D offset data size) := by
  refine .status (.bind .claim ?_)
  rintro r ⟨rfl, hr⟩
  exact .bind (.load hr) fun v _ => .device?

end Update

namespace Aes

/-- The context of a cipher is claimed as thirty-four bytes. -/
lemma context_confined {addr : Word} :
    Confined π (context addr : Service σ Region) (fun r => r = ⟨addr, 34⟩ ∧ r.Open π.bounds)
      (Stop.Within F) := by
  unfold context
  exact .claim

/-- The input is cut to the length of the output, so the copy stays within it. -/
lemma stage_confined {input : Word} {out : Region} (hout : out.Open π.bounds) :
    Confined π (stage input out : Service σ Unit) (fun _ => True) (Stop.Within F) := by
  refine .bind .claim ?_
  rintro src ⟨rfl, hsrc⟩
  exact .copyTo hsrc hout

/-- The context of a cipher is read from an open region that has room for it. -/
lemma loadContext_confined {r : Region} (hr : r.Open π.bounds) (hlen : 34 ≤ r.len.toNat) :
    Confined π (loadContext r : Service σ AesContext) (fun _ => True) (Stop.Within F) :=
  .bind (.loadFixed hr hlen) fun _ _ => .pure trivial

/-- The context of a cipher is written to an open region that has room for it. -/
lemma storeContext_confined {r : Region} {c : AesContext} (hr : r.Open π.bounds) (hlen : 34 ≤ r.len.toNat) :
    Confined π (storeContext r c : Service σ Unit) (fun _ => True) (Stop.Within F) :=
  .store hr hlen

/-- Chained blocks: context, initial vector, input and output are claimed before the first of them is read. -/
lemma cbc_harmless {ctx direction length iv input output : Word} :
    Harmless π (cbc D ctx direction length iv input output) := by
  refine .driverCode (.bind .validArg fun dir _ => .bind context_confined ?_)
  rintro c ⟨rfl, hc⟩
  refine .bind .claim ?_
  rintro v ⟨rfl, hv⟩
  refine .bind .claim ?_
  rintro out ⟨rfl, hout⟩
  refine .bind (.ensureDisjoint (by simp [hc, hv, hout])) fun _ _ => ?_
  refine .bind (stage_confined hout) fun _ _ => ?_
  refine .bind (loadContext_confined hc (Nat.le_refl _)) fun _ _ => ?_
  refine .bind (.loadFixed hv (Nat.le_refl _)) fun _ _ => .bind (.load hout) fun _ _ => ?_
  refine .bind .device fun p _ => ?_
  refine .bind (storeContext_confined hc (Nat.le_refl _)) fun _ _ => ?_
  refine .bind (.store hv (Nat.le_refl _)) fun _ _ => ?_
  exact .bind (.store hout (Nat.le_refl _)) fun _ _ => .pure trivial

/-- Feedback by blocks: the offset is claimed like the context and the initial vector. -/
lemma cfb128_harmless {ctx direction length offset iv input output : Word} :
    Harmless π (cfb128 D ctx direction length offset iv input output) := by
  refine .driverCode (.bind .validArg fun dir _ => .bind context_confined ?_)
  rintro c ⟨rfl, hc⟩
  refine .bind .claim ?_
  rintro off ⟨rfl, hoff⟩
  refine .bind .claim ?_
  rintro v ⟨rfl, hv⟩
  refine .bind .claim ?_
  rintro out ⟨rfl, hout⟩
  refine .bind (.ensureDisjoint (by simp [hc, hoff, hv, hout])) fun _ _ => ?_
  refine .bind (stage_confined hout) fun _ _ => ?_
  refine .bind (loadContext_confined hc (Nat.le_refl _)) fun _ _ => .bind (.loadNat hoff) fun _ _ => ?_
  refine .bind (.loadFixed hv (Nat.le_refl _)) fun _ _ => .bind (.load hout) fun _ _ => ?_
  refine .bind .device fun p _ => ?_
  refine .bind (storeContext_confined hc (Nat.le_refl _)) fun _ _ => ?_
  refine .bind (.storeWord hoff (Nat.le_refl _)) fun _ _ => .bind (.store hv (Nat.le_refl _)) fun _ _ => ?_
  exact .bind (.store hout (Nat.le_refl _)) fun _ _ => .pure trivial

/-- Feedback by bytes claims what chained blocks claim. -/
lemma cfb8_harmless {ctx direction length iv input output : Word} :
    Harmless π (cfb8 D ctx direction length iv input output) := by
  -- the steps of `cbc` over another action of the devices
  let E : Drivers σ := { D with aesCbc := D.aesCfb8 }
  exact cbc_harmless (D := E)

/-- Counter mode: nonce and key stream are claimed like the context. -/
lemma ctr_harmless {ctx length offset nonce stream input output : Word} :
    Harmless π (ctr D ctx length offset nonce stream input output) := by
  refine .driverCode (.bind context_confined ?_)
  rintro c ⟨rfl, hc⟩
  refine .bind .claim ?_
  rintro off ⟨rfl, hoff⟩
  refine .bind .claim ?_
  rintro n ⟨rfl, hn⟩
  refine .bind .claim ?_
  rintro s ⟨rfl, hs⟩
  refine .bind .claim ?_
  rintro out ⟨rfl, hout⟩
  refine .bind (.ensureDisjoint (by simp [hc, hoff, hn, hs, hout])) fun _ _ => ?_
  refine .bind (stage_confined hout) fun _ _ => ?_
  refine .bind (loadContext_confined hc (Nat.le_refl _)) fun _ _ => .bind (.loadNat hoff) fun _ _ => ?_
  refine .bind (.loadFixed hn (Nat.le_refl _)) fun _ _ => .bind (.loadFixed hs (Nat.le_refl _)) fun _ _ => ?_
  refine .bind (.load hout) fun _ _ => .bind .device fun p _ => ?_
  refine .bind (storeContext_confined hc (Nat.le_refl _)) fun _ _ => ?_
  refine .bind (.storeWord hoff (Nat.le_refl _)) fun _ _ => .bind (.store hn (Nat.le_refl _)) fun _ _ => ?_
  refine .bind (.store hs (Nat.le_refl _)) fun _ _ => ?_
  exact .bind (.store hout (Nat.le_refl _)) fun _ _ => .pure trivial

/-- Single blocks: input and output are claimed as one block each. -/
lemma ecb_harmless {ctx direction input output : Word} : Harmless π (ecb D ctx direction input output) := by
  refine .driverCode (.bind .validArg fun dir _ => .bind context_confined ?_)
  rintro c ⟨rfl, hc⟩
  refine .bind .claim ?_
  rintro out ⟨rfl, hout⟩
  refine .bind (.ensureDisjoint (by simp [hc, hout])) fun _ _ => ?_
  refine .bind (stage_confined hout) fun _ _ => ?_
  refine .bind (loadContext_confined hc (Nat.le_refl _)) fun _ _ => ?_
  refine .bind (.loadFixed hout (Nat.le_refl _)) fun _ _ => .bind .device fun p _ => ?_
  refine .bind (storeContext_confined hc (Nat.le_refl _)) fun _ _ => ?_
  exact .bind (.store hout (Nat.le_refl _)) fun _ _ => .pure trivial

/-- Output feedback claims what feedback by blocks claims. -/
lemma ofb_harmless {ctx length offset iv input output : Word} :
    Harmless π (ofb D ctx length offset iv input output) := by
  refine .driverCode (.bind context_confined ?_)
  rintro c ⟨rfl, hc⟩
  refine .bind .claim ?_
  rintro off ⟨rfl, hoff⟩
  refine .bind .claim ?_
  rintro v ⟨rfl, hv⟩
  refine .bind .claim ?_
  rintro out ⟨rfl, hout⟩
  refine .bind (.ensureDisjoint (by simp [hc, hoff, hv, hout])) fun _ _ => ?_
  refine .bind (stage_confined hout) fun _ _ => ?_
  refine .bind (loadContext_confined hc (Nat.le_refl _)) fun _ _ => .bind (.loadNat hoff) fun _ _ => ?_
  refine .bind (.loadFixed hv (Nat.le_refl _)) fun _ _ => .bind (.load hout) fun _ _ => ?_
  refine .bind .device fun p _ => ?_
  refine .bind (storeContext_confined hc (Nat.le_refl _)) fun _ _ => ?_
  refine .bind (.storeWord hoff (Nat.le_refl _)) fun _ _ => .bind (.store hv (Nat.le_refl _)) fun _ _ => ?_
  exact .bind (.store hout (Nat.le_refl _)) fun _ _ => .pure trivial

end Aes

namespace Storage

/-- A key is made inside the devices. -/
lemma generateKey_harmless {slotId kind : Word} : Harmless π (generateKey D slotId kind) :=
  .status (.bind .validArg fun _ _ => .device?)

/-- A signature is made of a claimed hash and written to a claimed region. -/
lemma sign_harmless {slotId hash length out : Word} : Harmless π (sign D slotId hash length out) := by
  refine .status (.bind .claim ?_)
  rintro src ⟨rfl, hsrc⟩
  refine .bind .claim ?_
  rintro r ⟨rfl, hr⟩
  exact .bind (.load hsrc) fun v _ => .bind .device? fun p _ => .store hr (Nat.le_refl _)

/-- A public key is written to a claimed region. -/
lemma publicKey_harmless {slotId out : Word} : Harmless π (publicKey D slotId out) := by
  refine .status (.bind .claim ?_)
  rintro r ⟨rfl, hr⟩
  exact .bind .device? fun p _ => .store hr (Nat.le_refl _)

/-- All regions of an authenticated request are open. -/
lemma stage_confined {input length aad aadLength tag tagLength output : Word} :
    Confined π (stage input length aad aadLength tag tagLength output : Service σ Sealed)
      (fun r => r.output.Open π.bounds ∧ r.aad.Open π.bounds ∧ r.tag.Open π.bounds) (Stop.Within F) := by
  refine .bind .claim ?_
  rintro src ⟨rfl, hsrc⟩
  refine .bind .claim ?_
  rintro out ⟨rfl, hout⟩
  refine .bind .claim ?_
  rintro a ⟨rfl, ha⟩
  refine .bind .claim ?_
  rintro t ⟨rfl, ht⟩
  refine .bind (.ensureDisjoint (by simpa using ⟨hout, ha⟩)) fun _ _ => ?_
  refine .bind (.ensureDisjoint (by simpa using ⟨hout, ht⟩)) fun _ _ => ?_
  exact .bind (.copyTo hsrc hout) fun _ _ => .pure ⟨hout, ha, ht⟩

/-- An encryption reads and writes claimed regions only, and compares the additional data with the tag between two
of these steps. -/
lemma encrypt_harmless {slotId input length aad aadLength tag tagLength output : Word} :
    Harmless π (encrypt D slotId input length aad aadLength tag tagLength output) := by
  refine .status (.bind stage_confined ?_)
  rintro r ⟨hout, ha, ht⟩
  refine .bind (.ensureDisjoint (by simp [ha, ht])) fun _ _ => ?_
  refine .bind (.load hout) fun _ _ => .bind (.load ha) fun _ _ => .bind (.load ht) fun _ _ => ?_
  refine .bind .device fun p _ => ?_
  obtain ⟨result, data, new⟩ := p
  refine .bind (.store hout (Nat.le_refl _)) fun _ _ => .bind (.store ht (Nat.le_refl _)) fun _ _ => ?_
  cases result with
  | ok a => exact .pure trivial
  | error e => exact .refuse

/-- A decryption reads and writes claimed regions only. -/
lemma decrypt_harmless {slotId input length aad aadLength tag tagLength output : Word} :
    Harmless π (decrypt D slotId input length aad aadLength tag tagLength output) := by
  refine .status (.bind stage_confined ?_)
  rintro r ⟨hout, ha, ht⟩
  refine .bind (.load hout) fun _ _ => .bind (.load ha) fun _ _ => .bind (.load ht) fun _ _ => ?_
  refine .bind .device fun p _ => ?_
  obtain ⟨result, data⟩ := p
  refine .bind (.store hout (Nat.le_refl _)) fun _ _ => ?_
  cases result with
  | ok a => exact .pure trivial
  | error e => exact .refuse

end Storage

namespace Attestation

/-- A token is made of a text that was claimed up to its end, and written to a claimed buffer. -/
lemma token_harmless {nonce client certificate buffer size length : Word} :
    Harmless π (token D nonce client certificate buffer size length) := by
  refine .status (.bind .text fun p hcert => .bind .claim ?_)
  rintro buf ⟨rfl, hbuf⟩
  refine .bind .claim ?_
  rintro out ⟨rfl, hout⟩
  refine .bind (.ensureDisjoint (by simp [hcert, hbuf, hout])) fun _ _ => ?_
  refine .bind (.load hbuf) fun _ _ => .bind .device fun q _ => ?_
  obtain ⟨result, v⟩ := q
  refine .bind (.store hbuf (Nat.le_refl _)) fun _ _ => ?_
  cases result with
  | error e => exact .refuse
  | ok written =>
    dsimp only
    split
    · exact .storeSingle hout (Nat.le_refl _)
    · exact .refuse

end Attestation

namespace Arithmetic

/-- The service that does nothing. -/
lemma dummy_harmless : Harmless π (dummy : Secure σ Word) :=
  .bind .log fun _ _ => .pure trivial

end Arithmetic

end SecureWorld
