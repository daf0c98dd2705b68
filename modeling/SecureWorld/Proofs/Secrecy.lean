import SecureWorld.Proofs.Catalogue

/-!
# Secrecy

`dispatch_secrecy`: no call writes secure memory, and no call reads it. The second is about two runs: on
machines that differ in secure memory only, a call is answered with the same word or halts for the same cause,
and what it leaves behind differs in secure memory only.
-/

namespace SecureWorld

variable {σ γ : Type}

/-- A call neither changes nor reveals a byte of secure memory, whatever words it is made of and whatever the
devices do with the bytes they are handed. -/
theorem dispatch_secrecy [Cursor γ] (D : Drivers σ) (c : γ) (argc : Nat) (m : Machine σ) :
    (∀ a, m.bounds.Secures a →
      (endState ((dispatch (serviceTable D) c argc).2 m)).memory.byte a = m.memory.byte a) ∧
    ∀ memory : Memory, (∀ a, ¬ m.bounds.Secures a → memory.byte a = m.memory.byte a) →
      let r := (dispatch (serviceTable D) c argc).2 m
      let r' := (dispatch (serviceTable D) c argc).2 { m with memory := memory }
      outcome r' = outcome r ∧
        endState r' = { endState r with memory := (endState r').memory } ∧
        ∀ a, ¬ m.bounds.Secures a → (endState r').memory.byte a = (endState r).memory.byte a := by
  have hc := dispatch_confined D (.lax m.bounds) c argc
  constructor
  · exact (hc.agree (.refl rfl)).allows.memory
  · intro memory hmem
    have hl : Alike m.bounds m { m with memory := memory } := ⟨rfl, rfl, hmem⟩
    have hagree := hc.agree hl
    exact ⟨hagree.outcome_eq, hagree.alike.rest, hagree.alike.memory⟩

end SecureWorld
