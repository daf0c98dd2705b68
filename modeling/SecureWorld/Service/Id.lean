import SecureWorld.Text.CamelCase

/-!
# Service numbers

The services that the secure world offers, each with its number, its name on the open side, the family it
belongs to and the number of words it takes.
-/

namespace SecureWorld

/-- Where a service stands in for: a function of the development framework, or nothing. -/
inductive Family where
  | idf
  | custom
deriving DecidableEq, Repr

/-- The services. -/
inductive ServiceId where
  | invalid
  | routeInterrupt
  | enableInterrupts
  | disableInterrupts
  | setInterruptPriority
  | setInterruptType
  | setInterruptThreshold
  | acknowledgeEdge
  | enableAllInterrupts
  | chipRevision
  | packageVersion
  | waferDisabled
  | macAddress
  | checkSecureVersion
  | readEfuseField
  | flashEncrypted
  | initWatchdog
  | deinitWatchdog
  | allocAesInterrupt
  | aesCbc
  | aesCfb128
  | aesCfb8
  | aesCtr
  | aesEcb
  | aesOfb
  | sha
  | shaDma
  | readShaState
  | writeShaState
  | beginUpdate
  | writeUpdate
  | endUpdate
  | initStorage
  | generateKey
  | sign
  | publicKey
  | encrypt
  | decrypt
  | isSlotEmpty
  | clearSlot
  | attest
  | mapRegion
  | unmapRegion
  | toPhysical
  | toVirtual
  | dummy
  | add
  | subtract
  | multiply
  | divide
deriving DecidableEq, Repr

namespace ServiceId

/-- What is announced of a service. -/
structure Info where
  number : Nat
  family : Family
  name : String
  arity : Nat
deriving DecidableEq, Repr

/-- The announcement of a service. -/
def info : ServiceId → Info
  | .invalid => ⟨0, .custom, "invalid_secure_service", 0⟩
  | .routeInterrupt => ⟨1, .idf, "esp_rom_route_intr_matrix", 3⟩
  | .enableInterrupts => ⟨2, .idf, "rv_utils_intr_enable", 1⟩
  | .disableInterrupts => ⟨3, .idf, "rv_utils_intr_disable", 1⟩
  | .setInterruptPriority => ⟨4, .idf, "rv_utils_intr_set_priority", 2⟩
  | .setInterruptType => ⟨5, .idf, "rv_utils_intr_set_type", 2⟩
  | .setInterruptThreshold => ⟨6, .idf, "rv_utils_intr_set_threshold", 1⟩
  | .acknowledgeEdge => ⟨7, .idf, "rv_utils_intr_edge_ack", 1⟩
  | .enableAllInterrupts => ⟨8, .idf, "rv_utils_intr_global_enable", 0⟩
  | .chipRevision => ⟨9, .idf, "efuse_hal_chip_revision", 0⟩
  | .packageVersion => ⟨10, .idf, "efuse_hal_get_chip_ver_pkg", 0⟩
  | .waferDisabled => ⟨11, .idf, "efuse_hal_get_disable_wafer_version_major", 0⟩
  | .macAddress => ⟨12, .idf, "efuse_hal_get_mac", 1⟩
  | .checkSecureVersion => ⟨13, .idf, "esp_efuse_check_secure_version", 1⟩
  | .readEfuseField => ⟨14, .idf, "esp_efuse_read_field_blob", 3⟩
  | .flashEncrypted => ⟨15, .idf, "esp_flash_encryption_enabled", 0⟩
  | .initWatchdog => ⟨16, .idf, "wdt_hal_init", 4⟩
  | .deinitWatchdog => ⟨17, .idf, "wdt_hal_deinit", 1⟩
  | .allocAesInterrupt => ⟨18, .idf, "esp_aes_intr_alloc", 0⟩
  | .aesCbc => ⟨19, .idf, "esp_aes_crypt_cbc", 6⟩
  | .aesCfb128 => ⟨20, .idf, "esp_aes_crypt_cfb128", 7⟩
  | .aesCfb8 => ⟨21, .idf, "esp_aes_crypt_cfb8", 6⟩
  | .aesCtr => ⟨22, .idf, "esp_aes_crypt_ctr", 7⟩
  | .aesEcb => ⟨23, .idf, "esp_aes_crypt_ecb", 4⟩
  | .aesOfb => ⟨24, .idf, "esp_aes_crypt_ofb", 6⟩
  | .sha => ⟨25, .idf, "esp_sha", 4⟩
  | .shaDma => ⟨26, .idf, "esp_sha_dma", 6⟩
  | .readShaState => ⟨27, .idf, "esp_sha_read_digest_state", 2⟩
  | .writeShaState => ⟨28, .idf, "esp_sha_write_digest_state", 2⟩
  | .beginUpdate => ⟨29, .custom, "esp_tee_ota_begin", 0⟩
  | .writeUpdate => ⟨30, .custom, "esp_tee_ota_write", 3⟩
  | .endUpdate => ⟨31, .custom, "esp_tee_ota_end", 0⟩
  | .initStorage => ⟨32, .custom, "esp_tee_sec_storage_init", 0⟩
  | .generateKey => ⟨33, .custom, "esp_tee_sec_storage_gen_key", 2⟩
  | .sign => ⟨34, .custom, "esp_tee_sec_storage_get_signature", 4⟩
  | .publicKey => ⟨35, .custom, "esp_tee_sec_storage_get_pubkey", 2⟩
  | .encrypt => ⟨36, .custom, "esp_tee_sec_storage_encrypt", 8⟩
  | .decrypt => ⟨37, .custom, "esp_tee_sec_storage_decrypt", 8⟩
  | .isSlotEmpty => ⟨38, .custom, "esp_tee_sec_storage_is_slot_empty", 1⟩
  | .clearSlot => ⟨39, .custom, "esp_tee_sec_storage_clear_slot", 1⟩
  | .attest => ⟨40, .custom, "esp_tee_att_generate_token", 6⟩
  | .mapRegion => ⟨41, .idf, "mmu_hal_map_region", 6⟩
  | .unmapRegion => ⟨42, .idf, "mmu_hal_unmap_region", 3⟩
  | .toPhysical => ⟨43, .idf, "mmu_hal_vaddr_to_paddr", 4⟩
  | .toVirtual => ⟨44, .idf, "mmu_hal_paddr_to_vaddr", 5⟩
  | .dummy => ⟨45, .custom, "dummy_secure_service", 0⟩
  | .add => ⟨46, .custom, "esp_tee_service_add", 2⟩
  | .subtract => ⟨47, .custom, "esp_tee_service_sub", 2⟩
  | .multiply => ⟨48, .custom, "esp_tee_service_mul", 2⟩
  | .divide => ⟨49, .custom, "esp_tee_service_div", 2⟩

/-- The services in the order of their numbers. -/
def all : List ServiceId :=
  [.invalid, .routeInterrupt, .enableInterrupts, .disableInterrupts, .setInterruptPriority,
   .setInterruptType, .setInterruptThreshold, .acknowledgeEdge, .enableAllInterrupts, .chipRevision,
   .packageVersion, .waferDisabled, .macAddress, .checkSecureVersion, .readEfuseField, .flashEncrypted,
   .initWatchdog, .deinitWatchdog, .allocAesInterrupt, .aesCbc, .aesCfb128, .aesCfb8, .aesCtr, .aesEcb,
   .aesOfb, .sha, .shaDma, .readShaState, .writeShaState, .beginUpdate, .writeUpdate, .endUpdate,
   .initStorage, .generateKey, .sign, .publicKey, .encrypt, .decrypt, .isSlotEmpty, .clearSlot, .attest,
   .mapRegion, .unmapRegion, .toPhysical, .toVirtual, .dummy, .add, .subtract, .multiply, .divide]

def number (s : ServiceId) : Nat := s.info.number

def name (s : ServiceId) : String := s.info.name

def family (s : ServiceId) : Family := s.info.family

/-- The number of argument words that a service takes. -/
def arity (s : ServiceId) : Nat := s.info.arity

/-- The number of words of a call of a service, its number included. -/
def callWords (s : ServiceId) : Nat := s.arity + 1

/-- The service of a number. -/
def ofNumber? (n : Nat) : Option ServiceId := all[n]?

/-- The name of a service as an identifier of its own. -/
def label (s : ServiceId) : String :=
  String.ofList (CamelCase.ofSnake s.name.toList)

/-- The number of a service leads back to it. -/
theorem ofNumber?_number (s : ServiceId) : ofNumber? s.number = some s := by
  cases s <;> rfl

/-- Every service has one of fifty numbers. -/
theorem number_lt (s : ServiceId) : s.number < 50 := by
  cases s <;> decide

end ServiceId

/-- The number of slots of the table of services. -/
def serviceSlots : Nat := 50

/-- The greatest number of words of a call, the service number included. -/
def maxCallWords : Nat := 10

end SecureWorld
