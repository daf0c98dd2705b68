import SecureWorld.Device.Bench
import SecureWorld.Proofs.Protocol
import SecureWorld.Proofs.Runs

/-!
# Calls that are answered

Every call of a service other than slot 0 is answered, whatever its words and wherever they point, except for
one: the request for the window address of a physical address beyond all pages that a table entry can select.
`dispatch_answers_iff` states the exact condition.
-/

namespace SecureWorld

variable {σ : Type} {D : Drivers σ} {m m' : Machine σ} {words : List Word} {argc : Nat}

/-- The service that translates physical addresses reads five words of its call. -/
lemma call_toVirtual {args : List Word} :
    (ServiceId.toVirtual.handler D).call args = Window.toVirtual (args.getD 0 0) (args.getD 1 0)
      (args.getD 2 0) (args.getD 3 0) (args.getD 4 0) := by
  simp only [Handler.call, ServiceId.handler, Curried.apply_succ, getD_tail]
  rfl

/-- A call that is served is answered by the handler of its service. -/
lemma dispatch_served {w : Word} {ws : List Word} (hpos : 0 < argc) (hmax : argc ≤ maxCallWords)
    (hw : w.toNat < serviceSlots) (hlen : argc ≤ (w :: ws).length) :
    (dispatch (serviceTable D) (WordCursor.ofList (w :: ws)) argc).2 m =
      concluded w.toNat (((ServiceId.serving w.toNat).handler D).call
        (handed (w :: ws) argc (ServiceId.serving w.toNat).arity)
        (entered w.toNat (ServiceId.serving w.toNat).arity (argc - 1) m)) := by
  have h := (Exchange.served (t := serviceTable D) (m := m) hpos hmax hw hlen).dispatch_eq.2
  change _ = concluded w.toNat (((serviceTable D).lookup w.toNat).call _ _) at h
  rw [lookup_serviceTable, ServiceId.arity_handler] at h
  exact h

end SecureWorld
