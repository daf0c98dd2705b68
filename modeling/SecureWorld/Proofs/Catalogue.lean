import SecureWorld.Call.Dispatch
import SecureWorld.Proofs.Window

/-!
# The catalogue under requests

All services together: `ServiceId.handler_confined` goes through the catalogue, and `dispatch_confined` says of
any call, understood or not, that it is confined and for which causes it may halt.
-/

namespace SecureWorld

variable {σ γ : Type} {D : Drivers σ} {π : Policy}

/-- The causes for which the handler of a service may halt. -/
def ServiceId.Halts : ServiceId → Fault → Prop
  | .invalid, f => f = .invalidService
  | .toVirtual, f => f = .pageNumber
  | _, _ => False

/-- The service whose handler answers the calls of a number. -/
def ServiceId.serving (n : Nat) : ServiceId :=
  (ServiceId.ofNumber? n).getD .invalid

/-- The service that serves the number of a service is that service. -/
lemma ServiceId.serving_number (s : ServiceId) : serving s.number = s := by
  rw [serving, ofNumber?_number]
  rfl

/-- The number of the service that serves a slot is the number of the slot. -/
lemma ServiceId.number_serving {n : Nat} (h : n < serviceSlots) : (serving n).number = n := by
  have hall : ∀ i : Fin serviceSlots, (serving i).number = i := by decide
  exact hall ⟨n, h⟩

/-- Two services may halt, each for one cause. -/
lemma ServiceId.Halts.service {s : ServiceId} {f : Fault} (h : s.Halts f) :
    (s = .invalid ∧ f = .invalidService) ∨ (s = .toVirtual ∧ f = .pageNumber) := by
  cases s with
  | invalid => exact .inl ⟨rfl, h⟩
  | toVirtual => exact .inr ⟨rfl, h⟩
  | _ => exact h.elim

/-- Every service is confined, whatever words it is called with. -/
theorem ServiceId.handler_confined (D : Drivers σ) (π : Policy) (s : ServiceId) (words : List Word) :
    Confined π ((s.handler D).call words) (fun _ => True) s.Halts := by
  -- where no lemma is named, a service is handed numbers only and claims no region
  cases s with
  | invalid => exact .throw rfl
  | routeInterrupt => exact .status .device
  | enableInterrupts => exact .status .device
  | disableInterrupts => exact .status .device
  | setInterruptPriority => exact .status .device
  | setInterruptType => exact Interrupt.setType_harmless
  | setInterruptThreshold => exact .status .device
  | acknowledgeEdge => exact .status .device
  | enableAllInterrupts => exact .status .device
  | chipRevision => exact Fuse.chipRevision_harmless
  | packageVersion => exact Fuse.packageVersion_harmless
  | waferDisabled => exact .flag .device
  | macAddress => exact Fuse.macAddress_harmless
  | checkSecureVersion => exact .flag .device
  | readEfuseField => exact Fuse.readField_harmless
  | flashEncrypted => exact Fuse.flashEncrypted_harmless
  | initWatchdog => exact WatchdogService.init_harmless
  | deinitWatchdog => exact WatchdogService.deinit_harmless
  | allocAesInterrupt => exact .status .device
  | aesCbc => exact Aes.cbc_harmless
  | aesCfb128 => exact Aes.cfb128_harmless
  | aesCfb8 => exact Aes.cfb8_harmless
  | aesCtr => exact Aes.ctr_harmless
  | aesEcb => exact Aes.ecb_harmless
  | aesOfb => exact Aes.ofb_harmless
  | sha => exact Sha.digest_harmless
  | shaDma => exact Sha.feed_harmless
  | readShaState => exact Sha.readState_harmless
  | writeShaState => exact Sha.writeState_harmless
  | beginUpdate => exact .status .device?
  | writeUpdate => exact Update.write_harmless
  | endUpdate => exact .status .device?
  | initStorage => exact .status .device?
  | generateKey => exact Storage.generateKey_harmless
  | sign => exact Storage.sign_harmless
  | publicKey => exact Storage.publicKey_harmless
  | encrypt => exact Storage.encrypt_harmless
  | decrypt => exact Storage.decrypt_harmless
  | isSlotEmpty => exact .flag .device
  | clearSlot => exact .status .device?
  | attest => exact Attestation.token_harmless
  | mapRegion => exact Window.map_harmless
  | unmapRegion => exact Window.unmap_harmless
  | toPhysical => exact Window.toPhysical_harmless
  | toVirtual => exact Window.toVirtual_confined
  | dummy => exact Arithmetic.dummy_harmless
  | add => exact .pure trivial
  | subtract => exact .pure trivial
  | multiply => exact .pure trivial
  | divide => exact .pure trivial

/-- A slot holds the handler of the service of its number, if there is one. -/
lemma resolve_serviceTable {n : Nat} (hn : n < serviceSlots) :
    (serviceTable D).resolve n = (ServiceId.ofNumber? n).map (ServiceId.handler D) := by
  simp [ServiceTable.resolve, serviceTable, hn]

/-- The table answers every number with the handler of its service, and any number without a service with the
handler of slot 0. -/
theorem lookup_serviceTable (n : Nat) :
    (serviceTable D).lookup n = (ServiceId.serving n).handler D := by
  by_cases hn : n < serviceSlots
  · rw [ServiceTable.lookup, resolve_serviceTable hn, ServiceId.serving]
    cases ServiceId.ofNumber? n with
    | none => rfl
    | some s => rfl
  · have hslot : (serviceTable D).resolve n = none := by
      simp [ServiceTable.resolve, Vector.getElem?_eq_none (Nat.not_lt.1 hn)]
    have hnone : ServiceId.ofNumber? n = none := List.getElem?_eq_none (Nat.not_lt.1 hn)
    rw [ServiceTable.lookup, hslot, ServiceId.serving, hnone]
    rfl

/-- A decoded call is confined, whatever service it names. -/
lemma CallRequest.serve_confined (r : CallRequest) :
    Confined π (r.serve (serviceTable D)) (fun _ => True) (ServiceId.serving r.service).Halts := by
  unfold CallRequest.serve
  rw [lookup_serviceTable]
  have hcall := (ServiceId.serving r.service).handler_confined D π r.argv.args
  dsimp only
  split
  · exact .bind .log fun _ _ => .bind hcall fun w _ => .bind .log fun _ _ => .pure trivial
  · exact .bind hcall fun w _ => .bind .log fun _ _ => .pure trivial

/-- Every call is confined, behind every cursor, and halts for the service in slot 0 or for a page number at most. -/
theorem dispatch_confined [Cursor γ] (D : Drivers σ) (π : Policy) (c : γ) (argc : Nat) :
    Confined π (dispatch (serviceTable D) c argc).2 (fun _ => True)
      fun f => f = .invalidService ∨ f = .pageNumber := by
  unfold dispatch
  generalize CallRequest.decode c argc = p
  obtain ⟨result, c'⟩ := p
  cases result with
  | error e => exact .bind .log fun _ _ => .pure trivial
  | ok r =>
    refine r.serve_confined.mono (fun _ h => h) ?_
    intro f hf
    obtain ⟨-, rfl⟩ | ⟨-, rfl⟩ := hf.service
    · exact .inl rfl
    · exact .inr rfl

end SecureWorld
