import SecureWorld.Proofs.Fixing
import SecureWorld.Proofs.Screening

/-!
# Spans that can be claimed

Every address that the open world names goes through `Region.claim`. `reachesSecure_eq_false_iff` compares its
interval tests with the bytes of secure memory: they agree, but for a window without a byte, which a span reaches
when it has bytes on both sides of it. `claimed_iff_innocuous` says of every span whether it is claimed, and
`refused_around_empty_window` is a span that is refused without a byte to tell against it.
-/

namespace SecureWorld.Region

variable {σ : Type} {b : Bounds} {r : Region} {addr align stop : Word}

/-- A span that does no harm: it is empty, or it starts at a multiple of the alignment other than zero, does not go
beyond the last address and holds no byte of secure memory. -/
def Innocuous (b : Bounds) (align : Word) (r : Region) : Prop :=
  r.len = 0 ∨ (r.addr ≠ 0 ∧ align.toNat ∣ r.addr.toNat ∧ r.addr.toNat + r.len.toNat ≤ 0xFFFFFFFFFFFFFFFF ∧
    ∀ a, r.Holds a → ¬ b.Secures a)

/-- The secure part of the window holds no byte, and the span has bytes before the place where it starts and behind
it. -/
structure Encloses (b : Bounds) (r : Region) : Prop where
  empty : b.window.start.toNat = b.window.stop.toNat
  before : r.addr.toNat < b.window.start.toNat
  behind : b.window.start.toNat < r.addr.toNat + r.len.toNat

/-- Two intervals, one of them with a byte, meet in their ends as they do in their bytes, unless the other one is
empty and lies inside. -/
lemma meets_iff {low high a n : Nat} (h : low ≤ high) (hn : a < n) :
    (a < high ∧ low < n) ↔ (∃ x, (a ≤ x ∧ x < n) ∧ low ≤ x ∧ x < high) ∨ (low = high ∧ a < low ∧ low < n) := by
  constructor
  · rintro ⟨hhigh, hlow⟩
    rcases Nat.lt_or_eq_of_le h with hlt | heq
    · exact .inl ⟨max a low, by omega, by omega⟩
    · exact .inr ⟨heq, by omega, hlow⟩
  · rintro (⟨x, hx, hin⟩ | ⟨heq, hbefore, hbehind⟩)
    · exact ⟨by omega, by omega⟩
    · exact ⟨by omega, hbehind⟩

/-- A span reaches secure memory if it begins before the end and ends behind the start of one of its two ranges. -/
lemma reachesSecure_iff : reachesSecure b addr stop = true ↔
    (addr.toNat < Layout.secureSramEnd.toNat ∧ Layout.secureSramStart.toNat < stop.toNat) ∨
      (addr.toNat < b.window.stop.toNat ∧ b.window.start.toNat < stop.toNat) := by
  simp only [reachesSecure, Bool.or_eq_true, Bool.and_eq_true, decide_eq_true_iff, UInt64.lt_iff_toNat_lt,
    UInt32.toNat_toUInt64, Address.toNat]

/-- The interval tests are exact but for an empty window inside the span. -/
lemma reachesSecure_eq_false_iff (hlen : 0 < r.len.toNat) (hstop : stop.toNat = r.addr.toNat + r.len.toNat) :
    reachesSecure b r.addr stop = false ↔ (∀ a, r.Holds a → ¬ b.Secures a) ∧ ¬ r.Encloses b := by
  have hlt : r.addr.toNat < stop.toNat := by omega
  rw [← Bool.not_eq_true, reachesSecure_iff, meets_iff (by decide) hlt, meets_iff b.window.start_le_stop hlt, hstop]
  constructor
  · intro h
    refine ⟨fun a ha hs => h ?_, fun he => h (.inr (.inr ⟨he.empty, he.before, he.behind⟩))⟩
    exact hs.imp (fun hin => .inl ⟨a, ha, hin⟩) fun hin => .inl ⟨a, ha, hin⟩
  · rintro ⟨hclear, hout⟩ ((⟨x, hx, hin⟩ | ⟨hempty, -⟩) | ⟨x, hx, hin⟩ | ⟨hempty, hbefore, hbehind⟩)
    · exact hclear x hx (.inl hin)
    · exact absurd hempty (by decide)
    · exact hclear x hx (.inr hin)
    · exact hout ⟨hempty, hbefore, hbehind⟩

/-- What can be claimed, by its bytes. -/
lemma acceptable_iff : r.Acceptable b align ↔ r.Innocuous b align ∧ ¬ r.Encloses b := by
  by_cases hlen : r.len = 0
  · have hout : ¬ r.Encloses b := by
      rintro ⟨-, hbefore, hbehind⟩
      rw [hlen, UInt64.toNat_zero] at hbehind
      omega
    exact iff_of_true (.inl hlen) ⟨.inl hlen, hout⟩
  -- a region with bytes in it, whose end is in the word once it is bounded
  have hpos : 0 < r.len.toNat := Nat.pos_of_ne_zero fun h => hlen (UInt64.toNat_inj.1 h)
  have hstop (h : r.addr.toNat + r.len.toNat < 0x10000000000000000) :
      (r.addr + r.len).toNat = r.addr.toNat + r.len.toNat := by
    rw [UInt64.toNat_add]
    omega
  have haligned : r.addr % align = 0 ↔ align.toNat ∣ r.addr.toNat := by
    rw [← UInt64.toNat_inj, UInt64.toNat_mod, Nat.dvd_iff_mod_eq_zero]
    rfl
  rw [Acceptable, Innocuous, or_iff_right hlen, or_iff_right hlen]
  constructor
  · rintro ⟨hz, ha, hb, hc⟩
    obtain ⟨hclear, hout⟩ := (reachesSecure_eq_false_iff hpos (hstop hb)).1 hc
    exact ⟨⟨hz, haligned.1 ha, Nat.le_of_lt_succ hb, hclear⟩, hout⟩
  · rintro ⟨⟨hz, ha, hb, hclear⟩, hout⟩
    have hb := Nat.lt_succ_of_le hb
    exact ⟨hz, haligned.2 ha, hb, (reachesSecure_eq_false_iff hpos (hstop hb)).2 ⟨hclear, hout⟩⟩

/-- Whatever the secure region is: a span that does no harm is claimed as it was named, if it does not enclose an
empty window, and every other span is refused as an invalid argument. -/
theorem claimed_iff_innocuous (m : Machine σ) (addr len align : Word) :
    let r : Region := ⟨addr, len⟩
    ∃ k, m.Consulted k ∧
      (r.Innocuous m.bounds align ∧ ¬ r.Encloses m.bounds → claim addr len align m = .ok r k) ∧
      (¬ (r.Innocuous m.bounds align ∧ ¬ r.Encloses m.bounds) →
        claim addr len align m = .error (.refused .invalidArg) k) := by
  intro r
  rw [← acceptable_iff]
  by_cases h : r.Acceptable m.bounds align
  · obtain ⟨k, hk, hrun⟩ := claim_of_acceptable h
    exact ⟨k, hk, fun _ => hrun, fun hn => absurd h hn⟩
  · obtain ⟨k, hk, hrun⟩ := claim_of_not_acceptable h
    exact ⟨k, hk, fun ha => absurd ha h, fun _ => hrun⟩

/-- An empty window is installed, and a span of eight bytes around the place where it starts is refused, although
none of them is secure. -/
theorem refused_around_empty_window :
    let b : Bounds := ⟨.between ⟨0x42010000⟩ ⟨0x42010000⟩, Layout.secureFlash⟩
    ∃ m, (Machine.powerUp ()).installRegion b = .ok m ∧ Innocuous m.bounds 1 ⟨0x4200FFFC, 8⟩ ∧
      ∃ k, claim 0x4200FFFC 8 1 m = .error (.refused .invalidArg) k := by
  intro b
  have hb : (Machine.powerUp ()).Accepts b := ⟨by decide, rfl⟩
  refine ⟨_, hb.installRegion_eq, .inr ⟨by decide, by decide, by decide, ?_⟩, _, rfl⟩
  have hlow : (Layout.secureSramEnd).toNat ≤ (0x4200FFFC : Word).toNat := by decide
  rintro a ⟨ha, -⟩ (⟨-, hsram⟩ | ⟨hstart, hstop⟩)
  · exact absurd hsram (Nat.not_lt.2 (Nat.le_trans hlow ha))
  · exact absurd hstop (Nat.not_lt.2 hstart)

end SecureWorld.Region
