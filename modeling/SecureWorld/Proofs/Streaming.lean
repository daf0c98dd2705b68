import SecureWorld.Proofs.Client
import SecureWorld.Proofs.Spans
import SecureWorld.Proofs.Staging

/-!
# Updates as streams

An update is a list of calls of the driver, which sees them in order up to the first that fails (`Streamed`). What
the open side does for an update is put together from requests that make one call each (`Serves`), so that
`Streams.seq` and an induction over the chunks lead to `update_streams_plan`: through the words of the calls, the
driver sees the calls of `plan`. `update_refused_around_empty_window` is an image that is refused although its chunk
holds no byte of secure memory.
-/

namespace SecureWorld.Update

variable {σ : Type}

/-- A call of the driver of updates. -/
inductive Call where
  | begin
  | write (offset : UInt32) (data : List UInt8)
  | finish

/-- The driver carries out a call. -/
def Call.run (D : Drivers σ) : Call → StateM σ (Except ServiceError Unit)
  | .begin => D.beginUpdate
  | .write offset data => D.writeUpdate offset data
  | .finish => D.endUpdate

/-- Calls that are made in order, up to the first that fails: those that the driver has seen, the states of the
devices before and after, and how the last call has ended. -/
inductive Streamed (D : Drivers σ) : List Call → σ → List Call → σ → Except ServiceError Unit → Prop where
  | done {s : σ} : Streamed D [] s [] s (.ok ())
  | failed {c : Call} {cs : List Call} {s s' : σ} {e : ServiceError} : c.run D s = (.error e, s') →
    Streamed D (c :: cs) s [c] s' (.error e)
  | next {c : Call} {cs seen : List Call} {s s₁ s' : σ} {r : Except ServiceError Unit} : c.run D s = (.ok (), s₁) →
    Streamed D cs s₁ seen s' r → Streamed D (c :: cs) s (c :: seen) s' r

/-- A record of the calls in the state of the devices. -/
def Records (D : Drivers σ) (history : σ → List Call) : Prop :=
  ∀ (c : Call) (s : σ), history (c.run D s).2 = history s ++ [c]

/-- The number of bytes in chunks. -/
def size : List Region → Nat
  | [] => 0
  | p :: ps => p.len.toNat + size ps

/-- Each chunk is written at the sum of the lengths of those before it. -/
def writes (M : Memory) (chunks : List Region) : List Call :=
  chunks.mapIdx fun i c => .write (UInt32.ofNat (size (chunks.take i))) (M.span c)

/-- The calls that stream an image that lies in memory in chunks. -/
def plan (M : Memory) (chunks : List Region) : List Call :=
  .begin :: writes M chunks ++ [.finish]

/-- How the open side learns how a stream has ended. -/
def told (k : Machine σ) : Except ServiceError Unit → EStateM.Result (Stop ServiceFailed) (Machine σ) Unit
  | .ok () => .ok () k
  | .error e => .error (.refused ⟨e.code⟩) k

variable {D : Drivers σ} {M : Memory} {b : Bounds} {m k k' : Machine σ} {c : Call} {cs ds seen : List Call}
  {s s₁ s' : σ} {r : Except ServiceError Unit} {chunks : List Region}

/-! ## Runs of calls -/

namespace Streamed

/-- A single call is seen, and ends the run as it ends. -/
lemma single : Streamed D [c] s [c] (c.run D s).2 (c.run D s).1 := by
  generalize hrun : c.run D s = p
  obtain ⟨e | ⟨⟩, s'⟩ := p
  · exact .failed hrun
  · exact .next hrun .done

/-- Behind a run without failure another one goes on. -/
lemma append_of_ok (h : Streamed D cs s seen s₁ (.ok ())) {seen' : List Call} (h' : Streamed D ds s₁ seen' s' r) :
    Streamed D (cs ++ ds) s (seen ++ seen') s' r := by
  generalize hr : (Except.ok () : Except ServiceError Unit) = q at h
  induction h with
  | done => exact h'
  | failed _ => cases hr
  | next hrun _ ih => exact .next hrun (ih h' hr)

/-- Behind a failure no further calls are made. -/
lemma append_of_error {e : ServiceError} (h : Streamed D cs s seen s' (.error e)) :
    Streamed D (cs ++ ds) s seen s' (.error e) := by
  generalize hr : Except.error e = q at h
  induction h with
  | done => cases hr
  | failed hrun => exact .failed hrun
  | next hrun _ ih => exact .next hrun (ih hr)

/-- The calls and the devices at the start determine a run. -/
lemma unique (h : Streamed D cs s seen s₁ r) {seen' : List Call} {r' : Except ServiceError Unit}
    (h' : Streamed D cs s seen' s' r') : seen = seen' ∧ s₁ = s' ∧ r = r' := by
  induction h generalizing seen' with
  | done =>
    cases h'
    exact ⟨rfl, rfl, rfl⟩
  | failed hrun =>
    cases h' with
    | failed hrun' =>
      cases hrun.symm.trans hrun'
      exact ⟨rfl, rfl, rfl⟩
    -- the driver does not both fail and succeed at a call
    | next hrun' _ => cases hrun.symm.trans hrun'
  | next hrun _ ih =>
    cases h' with
    | failed hrun' => cases hrun.symm.trans hrun'
    | next hrun' h' =>
      cases hrun.symm.trans hrun'
      obtain ⟨rfl, hs, hr⟩ := ih h'
      exact ⟨rfl, hs, hr⟩

/-- A call that is seen only at the end is seen only if all others were seen and none of them has failed. -/
lemma all_before_last (h : Streamed D (cs ++ [c]) s seen s' r) (hc : c ∉ cs) (hseen : c ∈ seen) :
    seen = cs ++ [c] ∧ ∃ s₁, Streamed D cs s cs s₁ (.ok ()) := by
  induction cs generalizing s seen with
  | nil =>
    cases h with
    | failed _ => exact ⟨rfl, s, .done⟩
    | next _ h =>
      cases h
      exact ⟨rfl, s, .done⟩
  | cons d cs ih =>
    obtain ⟨hne, hc⟩ := not_or.1 (mt List.mem_cons.2 hc)
    cases h with
    | failed _ => exact absurd (List.mem_singleton.1 hseen) hne
    | next hrun h =>
      obtain ⟨rfl, s₁, h₁⟩ := ih h hc ((List.mem_cons.1 hseen).resolve_left hne)
      exact ⟨rfl, s₁, .next hrun h₁⟩

/-- The calls that are recorded are those that the driver has seen. -/
lemma recorded (h : Streamed D cs s seen s' r) {history : σ → List Call} (hrec : Records D history) :
    history s' = history s ++ seen := by
  induction h with
  | done => exact (List.append_nil _).symm
  | @failed c cs s s' e hrun =>
    have hlast := hrec c s
    rwa [hrun] at hlast
  | @next c cs seen s s₁ s' r hrun _ ih =>
    have hfirst := hrec c s
    rw [hrun] at hfirst
    rw [ih, hfirst, List.append_assoc]
    rfl

end Streamed

/-! ## Requests -/

/-- A machine with devices, and with the memory and the secure region that an image is streamed from. -/
structure Ready (M : Memory) (b : Bounds) (k : Machine σ) : Prop where
  platform : k.platform = true
  memory : k.memory = M
  bounds : k.bounds = b

namespace Ready

/-- A machine stays ready when its secure region is consulted. -/
lemma consulted (h : Ready M b k) (hk : k.Consulted k') : Ready M b k' :=
  ⟨hk.platform.trans h.platform, hk.memory.trans h.memory, hk.bounds.trans h.bounds⟩

/-- A machine stays ready when a service is entered. -/
lemma entered {service arity passed : Nat} (h : Ready M b k) : Ready M b (entered service arity passed k) :=
  ⟨entered_platform.trans h.platform, entered_memory.trans h.memory, entered_bounds.trans h.bounds⟩

/-- A machine stays ready whatever becomes of its devices. -/
lemma withDevices (h : Ready M b k) (s : σ) : Ready M b { k with devices := s } :=
  ⟨h.platform, h.memory, h.bounds⟩

/-- A machine stays ready when something is logged. -/
lemma log {l : Log.Record} (h : Ready M b k) : Ready M b (k.log l) :=
  ⟨(Machine.platform_log ..).trans h.platform, (Machine.memory_log ..).trans h.memory,
    (Machine.bounds_log ..).trans h.bounds⟩

end Ready

/-- A request that makes one call of the driver and is answered how it has ended. -/
def Serves (D : Drivers σ) (M : Memory) (b : Bounds) (x : Secure σ Word) (c : Call) : Prop :=
  ∀ k, Ready M b k → ∃ k', Ready M b k' ∧ k'.devices = (c.run D k.devices).2 ∧
    x k = .ok (statusWord (c.run D k.devices).1) k'

/-- A call of the driver is answered with how it has ended. -/
lemma answer_device? {x : StateM σ (Except ServiceError Unit)} :
    Service.answer (Service.device? x) (fun () => 0) ServiceError.word k =
      .ok (statusWord (x k.devices).1) { k with devices := (x k.devices).2 } := by
  have hdevice : Service.device x k = .ok (x k.devices).1 { k with devices := (x k.devices).2 } := rfl
  refine (Service.answer_bind hdevice).trans ?_
  cases (x k.devices).1 <;> rfl

/-- With devices, an update is answered as its action is. -/
lemma status_eq {x : Service σ Unit} (h : k.platform = true) :
    Service.status x k = Service.answer x (fun () => 0) ServiceError.word k :=
  Service.answer_bind (Window.requirePlatform_ok_iff.2 ⟨h, rfl⟩)

/-- The service that begins an update makes the call that begins it. -/
lemma begin_serves : Serves D M b (Update.begin D) .begin :=
  fun _ hk => ⟨_, hk.withDevices _, rfl, (status_eq hk.platform).trans answer_device?⟩

/-- The service that finishes an update makes the call that finishes it. -/
lemma finish_serves : Serves D M b (Update.finish D) .finish :=
  fun _ hk => ⟨_, hk.withDevices _, rfl, (status_eq hk.platform).trans answer_device?⟩

/-- The service that writes an acceptable chunk makes the call that writes its bytes. -/
lemma write_serves {offset : Word} {p : Region} (hp : p.Acceptable b 1) :
    Serves D M b (Update.write D offset p.addr p.len) (.write offset.toUInt32 (M.span p)) := by
  intro k hk
  obtain ⟨k₁, hk₁, hclaim⟩ := Region.claim_of_acceptable (k := k) (hk.bounds ▸ hp)
  have hready := hk.consulted hk₁
  have hload : p.load k₁ = .ok (M.read p.addr.toNat p.len.toNat) k₁ := by
    rw [← hready.memory]
    rfl
  refine ⟨_, hready.withDevices (D.writeUpdate offset.toUInt32 (M.span p) k.devices).2, rfl, ?_⟩
  refine (status_eq hk.platform).trans ((Service.answer_bind hclaim).trans ((Service.answer_bind hload).trans ?_))
  refine answer_device?.trans ?_
  rw [hk₁.devices]
  rfl

/-- A request through a gate is answered as the service answers. -/
lemma Serves.call {g : Gate σ} (hg : g.Passes D fun _ k => k) {service : ServiceId} {args : List Word}
    (hmax : args.length < maxCallWords)
    (h : Serves D M b ((service.handler D).call ((args ++ List.replicate service.arity 0).take service.arity)) c) :
    Serves D M b (g.call service args) c := by
  intro k hk
  have hentered : Ready M b (entered service.number service.arity args.length k) := hk.entered
  obtain ⟨k', hk', hdevices, hrun⟩ := h _ hentered
  rw [entered_devices] at hdevices hrun
  have hcall : g.call service args k = concluded service.number (.ok (statusWord (c.run D k.devices).1) k') := by
    rw [hg.call_eq hmax, hrun]
  exact ⟨_, hk'.log, (Machine.devices_log ..).trans hdevices, hcall⟩

/-! ## The open side -/

/-- An action of the open side that makes the driver see calls, up to the first that fails. -/
def Streams (D : Drivers σ) (M : Memory) (b : Bounds) (x : Client σ Unit) (calls : List Call) : Prop :=
  ∀ k, Ready M b k → ∃ seen r k', Ready M b k' ∧ Streamed D calls k.devices seen k'.devices r ∧ x k = told k' r

/-- The open side learns from the word of an answer how the call has ended. -/
lemma check_statusWord : Client.check (statusWord r) k = told k r := by
  cases r with
  | ok a => rfl
  | error e => cases e <;> rfl

namespace Streams

/-- Doing nothing streams no calls. -/
lemma pure : Streams D M b (pure () : Client σ Unit) [] :=
  fun k hk => ⟨[], .ok (), k, hk, .done, rfl⟩

/-- One action behind another streams its calls behind those of the other. -/
lemma seq {x y : Client σ Unit} (hx : Streams D M b x cs) (hy : Streams D M b y ds) :
    Streams D M b (x >>= fun _ => y) (cs ++ ds) := by
  intro k hk
  obtain ⟨seen, r, k₁, hk₁, hseen, hrun⟩ := hx k hk
  cases r with
  | error e => exact ⟨seen, .error e, k₁, hk₁, hseen.append_of_error, bind_of_error hrun⟩
  | ok a =>
    obtain ⟨seen', r, k', hk', hseen', hrun'⟩ := hy k₁ hk₁
    exact ⟨seen ++ seen', r, k', hk', hseen.append_of_ok hseen', (bind_of_ok hrun).trans hrun'⟩

/-- A request is checked before anything else is done. -/
lemma request {x : Secure σ Word} (h : Serves D M b x c) :
    Streams D M b (do Client.check (← Client.ofSecure x)) [c] := by
  intro k hk
  obtain ⟨k', hk', hdevices, hrun⟩ := h k hk
  have hsecure : Client.ofSecure x k = .ok (statusWord (c.run D k.devices).1) k' := by
    show EStateM.adaptExcept Stop.fault x k = _
    unfold EStateM.adaptExcept
    rw [hrun]
  refine ⟨[c], (c.run D k.devices).1, k', hk', ?_, (bind_of_ok hsecure).trans check_statusWord⟩
  rw [hdevices]
  exact .single

end Streams

/-- The calls that write chunks of which the first one belongs at an offset. -/
def writesFrom (M : Memory) (offset : Nat) : List Region → List Call
  | [] => []
  | p :: ps => .write (UInt32.ofNat offset) (M.span p) :: writesFrom M (offset + p.len.toNat) ps

/-- Chunks that are written from an offset are written at the sum of that and the lengths of those before. -/
lemma writesFrom_eq (M : Memory) (offset : Nat) (chunks : List Region) : writesFrom M offset chunks =
    chunks.mapIdx fun i p => .write (UInt32.ofNat (offset + size (chunks.take i))) (M.span p) := by
  induction chunks generalizing offset with
  | nil => rfl
  | cons p ps ih =>
    rw [writesFrom, ih, List.mapIdx_cons]
    simp only [List.take_succ_cons, size, Nat.add_assoc]
    rfl

/-- The writes of an image are those from offset zero. -/
lemma writes_eq : writes M chunks = writesFrom M 0 chunks := by
  simp only [writesFrom_eq, Nat.zero_add, writes]

/-- The offset that is kept in a word is the one that the driver sees in its low half. -/
lemma writeChunks_streams {g : Gate σ} (hg : g.Passes D fun _ k => k) (hvalid : ∀ p ∈ chunks, p.Acceptable b 1)
    {offset : Word} (hsize : offset.toNat + size chunks < 0x100000000) :
    Streams D M b (g.writeChunks offset chunks) (writesFrom M offset.toNat chunks) := by
  induction chunks generalizing offset with
  | nil => exact .pure
  | cons p ps ih =>
    obtain ⟨hp, hps⟩ := List.forall_mem_cons.1 hvalid
    rw [size] at hsize
    -- the image is small enough for the offset of the next chunk
    have hnext : (offset + p.len).toNat = offset.toNat + p.len.toNat := by
      rw [UInt64.toNat_add]
      omega
    have hplus : Word.plus offset p.len = .ok (offset + p.len) := Region.plus_eq (by omega)
    have hwrite : Serves D M b (g.call .writeUpdate [offset, p.addr, p.len])
        (.write (UInt32.ofNat offset.toNat) (M.span p)) :=
      Serves.call hg (show 3 < maxCallWords by decide) (write_serves hp)
    have hrest : Streams D M b (g.writeChunks (offset + p.len) ps) (writesFrom M (offset + p.len).toNat ps) :=
      ih hps (by omega)
    rw [hnext] at hrest
    have heq : g.writeChunks offset (p :: ps) = (do
        Client.check (← Client.ofSecure (g.call .writeUpdate [offset, p.addr, p.len]))
        g.writeChunks (offset + p.len) ps : Client σ Unit) := by
      rw [Gate.writeChunks, hplus]
      rfl
    rw [heq, ← bind_assoc]
    exact (Streams.request hwrite).seq hrest

/-- An update of acceptable chunks streams the calls of its plan. -/
lemma update_streams {g : Gate σ} (hg : g.Passes D fun _ k => k) (hvalid : ∀ p ∈ chunks, p.Acceptable b 1)
    (hsize : size chunks < 0x100000000) : Streams D M b (g.update chunks) (plan M chunks) := by
  have hbegin : Serves D M b (g.call .beginUpdate []) .begin := Serves.call hg (by decide) begin_serves
  have hfinish : Serves D M b (g.call .endUpdate []) .finish := Serves.call hg (by decide) finish_serves
  have hwrites : Streams D M b (g.writeChunks 0 chunks) (writes M chunks) := by
    rw [writes_eq]
    exact writeChunks_streams hg hvalid ((Nat.zero_add _).symm ▸ hsize)
  rw [Gate.update, ← bind_assoc]
  exact (Streams.request hbegin).seq (hwrites.seq (.request hfinish))

/-- No call before the last one of a plan finishes the update. -/
lemma finish_not_mem : Call.finish ∉ .begin :: writes M chunks := by
  simp [writes, List.mem_mapIdx]

/-- An image whose chunks do no harm, none of them around an empty window, is streamed in order and without gaps,
whatever the driver is: it sees the beginning, each chunk at the sum of the lengths of those before it, and the end,
up to the first call that fails. The open side learns whether all of them succeeded, and otherwise the code of the
call that failed. The end is seen only after all chunks have been written. -/
theorem update_streams_plan {g : Gate σ} (hg : g.Passes D fun _ k => k) (hplatform : m.platform = true)
    (hvalid : ∀ p ∈ chunks, p.Innocuous m.bounds 1) (hout : ∀ p ∈ chunks, ¬ p.Encloses m.bounds)
    (hsize : size chunks < 0x100000000) :
    ∃ seen r m', g.update chunks m = told m' r ∧
      Streamed D (plan m.memory chunks) m.devices seen m'.devices r ∧
      (.finish ∈ seen → seen = plan m.memory chunks ∧
        ∃ s, Streamed D (.begin :: writes m.memory chunks) m.devices (.begin :: writes m.memory chunks) s (.ok ())) ∧
      ∀ history : σ → List Call, Records D history → history m'.devices = history m.devices ++ seen := by
  have hacceptable : ∀ p ∈ chunks, p.Acceptable m.bounds 1 :=
    fun p hp => Region.acceptable_iff.2 ⟨hvalid p hp, hout p hp⟩
  obtain ⟨seen, r, m', -, hseen, hrun⟩ := update_streams hg hacceptable hsize m ⟨hplatform, rfl, rfl⟩
  exact ⟨seen, r, m', hrun, hseen, hseen.all_before_last finish_not_mem, fun history => hseen.recorded⟩

/-- An image in three chunks, one of them empty, is streamed to a driver that takes it, and to one that refuses to
write. -/
theorem update_streams_three_chunks :
    let g := Gate.direct Bench.drivers Bench.wordsAddress Bench.frameAddress
    let chunks : List Region := [⟨0x40820000, 2⟩, ⟨0x40830000, 0⟩, ⟨0x40820002, 1⟩]
    let image : List Call := [.begin, .write 0 [1, 2], .write 2 [], .write 2 [3], .finish]
    let m : Machine Bench := { Machine.powerUp .initial with
      platform := true, memory := Memory.zero.writeList 0x40820000 [1, 2, 3] }
    let n : Machine Bench := { m with devices := { Bench.initial with refusals := [(.writeUpdate, .noMem)] } }
    (∃ m', g.update chunks m = .ok () m' ∧
      Streamed Bench.drivers image m.devices image m'.devices (.ok ())) ∧
    ∃ n', g.update chunks n = .error (.refused ⟨0x101⟩) n' ∧
      Streamed Bench.drivers image n.devices [.begin, .write 0 [1, 2]] n'.devices (.error .noMem) := by
  intro g chunks image m n
  have hg : g.Passes Bench.drivers fun _ k => k := Gate.direct_passes (by decide) (by decide)
  have hacceptable : ∀ p ∈ chunks, p.Acceptable .ofLayout 1 := by decide
  have hvalid : ∀ p ∈ chunks, p.Innocuous .ofLayout 1 := fun p hp => (Region.acceptable_iff.1 (hacceptable p hp)).1
  have hout : ∀ p ∈ chunks, ¬ p.Encloses .ofLayout := fun p hp => (Region.acceptable_iff.1 (hacceptable p hp)).2
  have hplan : plan m.memory chunks = image := rfl
  constructor
  · have hall : ∃ s, Streamed Bench.drivers image m.devices image s (.ok ()) :=
      ⟨_, .next rfl (.next rfl (.next rfl (.next rfl (.next rfl .done))))⟩
    obtain ⟨s, hall⟩ := hall
    obtain ⟨seen, r, m', hrun, hseen, -⟩ := update_streams_plan (m := m) hg rfl hvalid hout (by decide)
    rw [hplan] at hseen
    obtain ⟨rfl, -, rfl⟩ := hall.unique hseen
    exact ⟨m', hrun, hseen⟩
  · have hfirst : ∃ s, Streamed Bench.drivers image n.devices [.begin, .write 0 [1, 2]] s (.error .noMem) :=
      ⟨_, .next rfl (.failed rfl)⟩
    obtain ⟨s, hfirst⟩ := hfirst
    obtain ⟨seen, r, n', hrun, hseen, -⟩ := update_streams_plan (m := n) hg rfl hvalid hout (by decide)
    rw [hplan] at hseen
    obtain ⟨rfl, -, rfl⟩ := hfirst.unique hseen
    exact ⟨n', hrun, hseen⟩

/-- An empty window is installed, and an image in one chunk around the place where it starts is refused as an invalid
argument, although none of its bytes is secure and the driver would take all of its calls. -/
theorem update_refused_around_empty_window :
    let g := Gate.direct Bench.drivers Bench.wordsAddress Bench.frameAddress
    let b : Bounds := ⟨.between ⟨0x42010000⟩ ⟨0x42010000⟩, Layout.secureFlash⟩
    let chunk : Region := ⟨0x4200FFFC, 8⟩
    ∃ m, Machine.installRegion { Machine.powerUp Bench.initial with platform := true } b = .ok m ∧
      m.platform = true ∧ chunk.Innocuous m.bounds 1 ∧
      (∃ s, Streamed Bench.drivers (plan m.memory [chunk]) m.devices (plan m.memory [chunk]) s (.ok ())) ∧
      outcome (g.update [chunk] m) = .error (.refused ⟨0x102⟩) := by
  intro g b chunk
  have hb : Machine.Accepts { Machine.powerUp Bench.initial with platform := true } b := ⟨by decide, rfl⟩
  refine ⟨_, hb.installRegion_eq, rfl, .inr ⟨by decide, by decide, by decide, ?_⟩,
    ⟨_, .next rfl (.next rfl (.next rfl .done))⟩, by decide +kernel⟩
  have hlow : (Layout.secureSramEnd).toNat ≤ (0x4200FFFC : Word).toNat := by decide
  rintro a ⟨ha, -⟩ (⟨-, hsram⟩ | ⟨hstart, hstop⟩)
  · exact absurd hsram (Nat.not_lt.2 (Nat.le_trans hlow ha))
  · exact absurd hstop (Nat.not_lt.2 hstart)

end SecureWorld.Update
