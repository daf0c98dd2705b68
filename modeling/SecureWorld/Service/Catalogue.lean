import SecureWorld.Call.Table
import SecureWorld.Service.Aes
import SecureWorld.Service.Arithmetic
import SecureWorld.Service.Attestation
import SecureWorld.Service.Fuse
import SecureWorld.Service.Interrupt
import SecureWorld.Service.Sha
import SecureWorld.Service.Storage
import SecureWorld.Service.Update
import SecureWorld.Service.Watchdog
import SecureWorld.Service.Window

/-!
# The catalogue of services

Every service with its handler, and the table of all of them. The service of slot 0 halts the call.
-/

namespace SecureWorld

variable {σ : Type}

/-- The handler of a service over given drivers. -/
def ServiceId.handler (D : Drivers σ) : ServiceId → Handler (Secure σ)
  | .invalid => ⟨0, Secure.fault .invalidService⟩
  | .routeInterrupt => ⟨3, Interrupt.route D⟩
  | .enableInterrupts => ⟨1, Interrupt.enable D⟩
  | .disableInterrupts => ⟨1, Interrupt.disable D⟩
  | .setInterruptPriority => ⟨2, Interrupt.setPriority D⟩
  | .setInterruptType => ⟨2, Interrupt.setType D⟩
  | .setInterruptThreshold => ⟨1, Interrupt.setThreshold D⟩
  | .acknowledgeEdge => ⟨1, Interrupt.acknowledgeEdge D⟩
  | .enableAllInterrupts => ⟨0, Interrupt.enableAll D⟩
  | .chipRevision => ⟨0, Fuse.chipRevision D⟩
  | .packageVersion => ⟨0, Fuse.packageVersion D⟩
  | .waferDisabled => ⟨0, Fuse.waferDisabled D⟩
  | .macAddress => ⟨1, Fuse.macAddress D⟩
  | .checkSecureVersion => ⟨1, Fuse.checkSecureVersion D⟩
  | .readEfuseField => ⟨3, Fuse.readField D⟩
  | .flashEncrypted => ⟨0, Fuse.flashEncrypted D⟩
  | .initWatchdog => ⟨4, WatchdogService.init D⟩
  | .deinitWatchdog => ⟨1, WatchdogService.deinit D⟩
  | .allocAesInterrupt => ⟨0, Aes.allocInterrupt D⟩
  | .aesCbc => ⟨6, Aes.cbc D⟩
  | .aesCfb128 => ⟨7, Aes.cfb128 D⟩
  | .aesCfb8 => ⟨6, Aes.cfb8 D⟩
  | .aesCtr => ⟨7, Aes.ctr D⟩
  | .aesEcb => ⟨4, Aes.ecb D⟩
  | .aesOfb => ⟨6, Aes.ofb D⟩
  | .sha => ⟨4, Sha.digest D⟩
  | .shaDma => ⟨6, Sha.feed D⟩
  | .readShaState => ⟨2, Sha.readState D⟩
  | .writeShaState => ⟨2, Sha.writeState D⟩
  | .beginUpdate => ⟨0, Update.begin D⟩
  | .writeUpdate => ⟨3, Update.write D⟩
  | .endUpdate => ⟨0, Update.finish D⟩
  | .initStorage => ⟨0, Storage.init D⟩
  | .generateKey => ⟨2, Storage.generateKey D⟩
  | .sign => ⟨4, Storage.sign D⟩
  | .publicKey => ⟨2, Storage.publicKey D⟩
  | .encrypt => ⟨8, Storage.encrypt D⟩
  | .decrypt => ⟨8, Storage.decrypt D⟩
  | .isSlotEmpty => ⟨1, Storage.isSlotEmpty D⟩
  | .clearSlot => ⟨1, Storage.clearSlot D⟩
  | .attest => ⟨6, Attestation.token D⟩
  | .mapRegion => ⟨6, Window.map⟩
  | .unmapRegion => ⟨3, Window.unmap⟩
  | .toPhysical => ⟨4, Window.toPhysical⟩
  | .toVirtual => ⟨5, Window.toVirtual⟩
  | .dummy => ⟨0, Arithmetic.dummy⟩
  | .add => ⟨2, Arithmetic.add⟩
  | .subtract => ⟨2, Arithmetic.subtract⟩
  | .multiply => ⟨2, Arithmetic.multiply⟩
  | .divide => ⟨2, Arithmetic.divide⟩

/-- Every handler takes as many words as its service announces. -/
theorem ServiceId.arity_handler (D : Drivers σ) (s : ServiceId) : (s.handler D).arity = s.arity := by
  cases s <;> rfl

/-- The table of all services. -/
def serviceTable (D : Drivers σ) : ServiceTable (Secure σ) where
  invalid := ServiceId.invalid.handler D
  slots := Vector.ofFn fun i => (ServiceId.ofNumber? i).map (ServiceId.handler D)

end SecureWorld
