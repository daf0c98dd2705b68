import SecureWorld.Proofs.Screening

/-!
# Staging

The ciphers and the storage work in place on a copy of the caller's data. `InPlace.Request.course` follows a
request to one of these services through its checks, through the copy and, if it is for an encryption with the
storage, through the comparison that comes only behind the copy. What is left then is the driver and what it gives
back, `InPlace.Request.deliver`, and the bytes that the driver gets are those that the caller had put there.
-/

namespace SecureWorld

variable {σ : Type} {m k : Machine σ}

namespace Memory

variable {M : Memory} {src dst r : Region}

/-- The memory with the bytes of a region copied to another, from its start on. -/
def copy (M : Memory) (src dst : Region) : Memory :=
  M.write dst.addr.toNat (M.read src.addr.toNat src.len.toNat)

/-- The bytes in a region of a memory. -/
def span (M : Memory) (r : Region) : List UInt8 :=
  (M.read r.addr.toNat r.len.toNat).toList

/-- A copy changes no byte outside of its target. -/
lemma byte_copy_of_not_holds {a : Nat} (hlen : src.len = dst.len) (ha : ¬ dst.Holds a) :
    (M.copy src dst).byte a = M.byte a := by
  apply byte_write_of_not_mem
  rw [hlen]
  by_contra h
  exact ha ⟨by omega, by omega⟩

/-- The copy has the bytes that its source had before, whether or not the two overlap. -/
lemma span_copy (hlen : src.len = dst.len) : (M.copy src dst).span dst = M.span src := by
  rw [span, ← hlen, copy, read_write, span]

/-- Reading within a region that lies apart from the target of a copy gives what it gave before. -/
lemma read_copy_of_apart {n : Nat} (hlen : src.len = dst.len) (h : dst.Apart r) (hn : n ≤ r.len.toNat) :
    (M.copy src dst).read r.addr.toNat n = M.read r.addr.toNat n := by
  ext i hi : 1
  rw [getElem_read, getElem_read]
  apply byte_copy_of_not_holds hlen
  intro ha
  exact h ⟨_, ha, by omega, by omega⟩

/-- The bytes in a region that lies apart from the target of a copy stay the same. -/
lemma span_copy_of_apart (hlen : src.len = dst.len) (h : dst.Apart r) : (M.copy src dst).span r = M.span r := by
  rw [span, read_copy_of_apart hlen h (Nat.le_refl _), span]

end Memory

/-- The context of a cipher takes 34 bytes that are aligned anyway. -/
lemma Check.context {addr : Word} :
    Check m (Region.Acceptable m.bounds 1 ⟨addr, 34⟩) (Aes.context addr) ⟨addr, 34⟩ :=
  .claim

namespace InPlace

/-- A request to the ciphers that work in place or to the sealed storage, with its words. -/
inductive Request where
  | cbc (ctx direction length iv input output : Word)
  | cfb128 (ctx direction length offset iv input output : Word)
  | cfb8 (ctx direction length iv input output : Word)
  | ctr (ctx length offset nonce stream input output : Word)
  | ecb (ctx direction input output : Word)
  | ofb (ctx length offset iv input output : Word)
  | encrypt (slot input length aad aadLength tag tagLength output : Word)
  | decrypt (slot input length aad aadLength tag tagLength output : Word)

/-- When the regions beside the data are compared with one another. -/
inductive Comparison where
  | beforeCopy
  | afterCopy
  | never

namespace Request

/-- The service that a request is about. -/
def service : Request → ServiceId
  | .cbc .. => .aesCbc
  | .cfb128 .. => .aesCfb128
  | .cfb8 .. => .aesCfb8
  | .ctr .. => .aesCtr
  | .ecb .. => .aesEcb
  | .ofb .. => .aesOfb
  | .encrypt .. => .encrypt
  | .decrypt .. => .decrypt

/-- The words of a request, in the order of the arguments of its service. -/
def words : Request → List Word
  | .cbc ctx direction length iv input output => [ctx, direction, length, iv, input, output]
  | .cfb128 ctx direction length offset iv input output => [ctx, direction, length, offset, iv, input, output]
  | .cfb8 ctx direction length iv input output => [ctx, direction, length, iv, input, output]
  | .ctr ctx length offset nonce stream input output => [ctx, length, offset, nonce, stream, input, output]
  | .ecb ctx direction input output => [ctx, direction, input, output]
  | .ofb ctx length offset iv input output => [ctx, length, offset, iv, input, output]
  | .encrypt slot input length aad aadLength tag tagLength output
  | .decrypt slot input length aad aadLength tag tagLength output =>
    [slot, input, length, aad, aadLength, tag, tagLength, output]

/-- The answer to a request on a machine. -/
def serve (D : Drivers σ) (q : Request) : Secure σ Word :=
  (q.service.handler D).call q.words

/-- The number of bytes of the data. -/
def size : Request → Word
  | .cbc _ _ length .. | .cfb128 _ _ length .. | .cfb8 _ _ length .. | .ctr _ length .. | .ofb _ length .. => length
  | .ecb .. => 16
  | .encrypt _ _ length .. | .decrypt _ _ length .. => length.toUInt8.toUInt64

/-- Where the caller has put the data. -/
def input (q : Request) : Region where
  addr := match q with
    | .cbc _ _ _ _ input _ | .cfb128 _ _ _ _ _ input _ | .cfb8 _ _ _ _ input _ | .ctr _ _ _ _ _ input _
    | .ecb _ _ input _ | .ofb _ _ _ _ input _ | .encrypt _ input .. | .decrypt _ input .. => input
  len := q.size

/-- Where the service works on the data. -/
def output (q : Request) : Region where
  addr := match q with
    | .cbc _ _ _ _ _ output | .cfb128 _ _ _ _ _ _ output | .cfb8 _ _ _ _ _ output | .ctr _ _ _ _ _ _ output
    | .ecb _ _ _ output | .ofb _ _ _ _ _ output | .encrypt _ _ _ _ _ _ _ output
    | .decrypt _ _ _ _ _ _ _ output => output
  len := q.size

/-- The regions beside the data that the driver is handed. -/
def others : Request → List Region
  | .cbc ctx _ _ iv _ _ | .cfb8 ctx _ _ iv _ _ => [⟨ctx, 34⟩, ⟨iv, 16⟩]
  | .cfb128 ctx _ _ offset iv _ _ | .ofb ctx _ offset iv _ _ => [⟨ctx, 34⟩, ⟨offset, 8⟩, ⟨iv, 16⟩]
  | .ctr ctx _ offset nonce stream _ _ => [⟨ctx, 34⟩, ⟨offset, 8⟩, ⟨nonce, 16⟩, ⟨stream, 16⟩]
  | .ecb ctx _ _ _ => [⟨ctx, 34⟩]
  | .encrypt _ _ _ aad aadLength tag tagLength _ | .decrypt _ _ _ aad aadLength tag tagLength _ =>
    [⟨aad, aadLength.toUInt16.toUInt64⟩, ⟨tag, tagLength.toUInt16.toUInt64⟩]

/-- The word for the direction, in the requests that have one. -/
def direction : Request → Option Word
  | .cbc _ direction .. | .cfb128 _ direction .. | .cfb8 _ direction .. | .ecb _ direction .. => some direction
  | .ctr .. | .ofb .. | .encrypt .. | .decrypt .. => none

/-- The address of the offset into the stream, in the requests that have one. -/
def offset : Request → Option Word
  | .cfb128 _ _ _ offset .. | .ctr _ _ offset .. | .ofb _ _ offset .. => some offset
  | .cbc .. | .cfb8 .. | .ecb .. | .encrypt .. | .decrypt .. => none

/-- Decryption changes none of the regions beside the data, and does not mind if they overlap. -/
def comparison : Request → Comparison
  | .cbc .. | .cfb128 .. | .cfb8 .. | .ctr .. | .ecb .. | .ofb .. => .beforeCopy
  | .encrypt .. => .afterCopy
  | .decrypt .. => .never

/-- A request that comes as far as the copy. -/
structure Admitted (m : Machine σ) (q : Request) : Prop where
  platform : m.platform = true
  direction : ∀ w ∈ q.direction, (AesMode.ofRaw? w.toCode).isSome
  offset : ∀ w ∈ q.offset, w % 8 = 0
  input : q.input.Acceptable m.bounds 1
  output : q.output.Acceptable m.bounds 1
  others : ∀ r ∈ q.others, r.Acceptable m.bounds 1
  apart : ∀ r ∈ q.others, q.output.Apart r
  compared : q.comparison = .beforeCopy → q.others.Pairwise Region.Apart

/-- A request that is found to be refused behind the copy. -/
def Collides (q : Request) : Prop :=
  q.comparison = .afterCopy ∧ ¬ q.others.Pairwise Region.Apart

/-- The machine with the data of a request copied. -/
def staged (q : Request) (m : Machine σ) : Machine σ :=
  { m with memory := m.memory.copy q.input q.output }

open Service in
/-- The driver of a request, called with the bytes of the memory `M` at the regions of the request; what it gives
back is written to the regions that it may change, and its code is the answer. -/
def deliver (D : Drivers σ) (M : Memory) : Request → Secure σ Word
  | .cbc ctx direction length iv input output =>
    answer (do
      let dir ← Aes.mode direction
      let (code, c, v, data) ← device (D.aesCbc (.ofBytes (M.read ctx.toNat 34)) dir (M.read iv.toNat 16)
        (M.read input.toNat length.toNat))
      Aes.storeContext ⟨ctx, 34⟩ c
      (⟨iv, 16⟩ : Region).store v
      (⟨output, length⟩ : Region).store data
      return code) Word.ofCode ServiceError.word
  | .cfb128 ctx direction length offset iv input output =>
    answer (do
      let dir ← Aes.mode direction
      let (code, c, o, v, data) ← device (D.aesCfb128 (.ofBytes (M.read ctx.toNat 34)) dir
        (UInt64.ofNat (M.readNat offset.toNat 8)) (M.read iv.toNat 16) (M.read input.toNat length.toNat))
      Aes.storeContext ⟨ctx, 34⟩ c
      (⟨offset, 8⟩ : Region).storeWord o
      (⟨iv, 16⟩ : Region).store v
      (⟨output, length⟩ : Region).store data
      return code) Word.ofCode ServiceError.word
  | .cfb8 ctx direction length iv input output =>
    answer (do
      let dir ← Aes.mode direction
      let (code, c, v, data) ← device (D.aesCfb8 (.ofBytes (M.read ctx.toNat 34)) dir (M.read iv.toNat 16)
        (M.read input.toNat length.toNat))
      Aes.storeContext ⟨ctx, 34⟩ c
      (⟨iv, 16⟩ : Region).store v
      (⟨output, length⟩ : Region).store data
      return code) Word.ofCode ServiceError.word
  | .ctr ctx length offset nonce stream input output =>
    answer (do
      let (code, c, o, n, s, data) ← device (D.aesCtr (.ofBytes (M.read ctx.toNat 34))
        (UInt64.ofNat (M.readNat offset.toNat 8)) (M.read nonce.toNat 16) (M.read stream.toNat 16)
        (M.read input.toNat length.toNat))
      Aes.storeContext ⟨ctx, 34⟩ c
      (⟨offset, 8⟩ : Region).storeWord o
      (⟨nonce, 16⟩ : Region).store n
      (⟨stream, 16⟩ : Region).store s
      (⟨output, length⟩ : Region).store data
      return code) Word.ofCode ServiceError.word
  | .ecb ctx direction input output =>
    answer (do
      let dir ← Aes.mode direction
      let (code, c, data) ← device (D.aesEcb (.ofBytes (M.read ctx.toNat 34)) dir (M.read input.toNat 16))
      Aes.storeContext ⟨ctx, 34⟩ c
      (⟨output, 16⟩ : Region).store data
      return code) Word.ofCode ServiceError.word
  | .ofb ctx length offset iv input output =>
    answer (do
      let (code, c, o, v, data) ← device (D.aesOfb (.ofBytes (M.read ctx.toNat 34))
        (UInt64.ofNat (M.readNat offset.toNat 8)) (M.read iv.toNat 16) (M.read input.toNat length.toNat))
      Aes.storeContext ⟨ctx, 34⟩ c
      (⟨offset, 8⟩ : Region).storeWord o
      (⟨iv, 16⟩ : Region).store v
      (⟨output, length⟩ : Region).store data
      return code) Word.ofCode ServiceError.word
  | .encrypt slot input length aad aadLength tag tagLength output =>
    answer (do
      let (result, data, t) ← device (D.encrypt (Storage.slot slot) (M.read input.toNat length.toUInt8.toNat)
        (M.read aad.toNat aadLength.toUInt16.toNat).toList (M.read tag.toNat tagLength.toUInt16.toNat))
      (⟨output, length.toUInt8.toUInt64⟩ : Region).store data
      (⟨tag, tagLength.toUInt16.toUInt64⟩ : Region).store t
      match result with
      | .ok () => return ()
      | .error e => refuse e) (fun () => 0) ServiceError.word
  | .decrypt slot input length aad aadLength tag tagLength output =>
    answer (do
      let (result, data) ← device (D.decrypt (Storage.slot slot) (M.read input.toNat length.toUInt8.toNat)
        (M.read aad.toNat aadLength.toUInt16.toNat).toList (M.read tag.toNat tagLength.toUInt16.toNat).toList)
      (⟨output, length.toUInt8.toUInt64⟩ : Region).store data
      match result with
      | .ok () => return ()
      | .error e => refuse e) (fun () => 0) ServiceError.word

/-- What becomes of a request that is admitted: if it collides it is refused, and otherwise it reaches the driver. -/
inductive Staged (m : Machine σ) (q : Request) (r : Drivers σ → Reply σ) : Prop where
  | collided {k : Machine σ} : q.Collides → m.Consulted k →
      (∀ D, r D = .ok ServiceError.invalidArg.word (q.staged k)) → Staged m q r
  | delivered {k : Machine σ} : ¬ q.Collides → m.Consulted k →
      (∀ D, r D = q.deliver D m.memory (q.staged k)) → Staged m q r

/-- Staging changes the memory like a copy from the input to the output. -/
lemma memory_staged {q : Request} (hk : m.Consulted k) :
    (q.staged k).memory = m.memory.copy q.input q.output := by
  rw [staged, hk.memory]

/-- The list that a cipher compares has the data last. -/
lemma pairwise_concat {q : Request} :
    (q.others ++ [q.output]).Pairwise Region.Apart ↔
      (∀ r ∈ q.others, q.output.Apart r) ∧ q.others.Pairwise Region.Apart := by
  rw [(List.perm_append_singleton q.output q.others).pairwise_iff fun h => h.symm, List.pairwise_cons]

namespace Admitted

variable {q : Request} (h : q.Admitted m)

include h

/-- The regions of a cipher lie apart from one another. -/
lemma pairwise (hq : q.comparison = .beforeCopy) : (q.others ++ [q.output]).Pairwise Region.Apart :=
  pairwise_concat.2 ⟨h.apart, h.compared hq⟩

/-- The regions that are handed over share no byte, whenever they are compared. -/
lemma pairwise_of_not_collides (hc : ¬ q.Collides) (hq : q.comparison ≠ .never) :
    (q.output :: q.others).Pairwise Region.Apart := by
  refine List.pairwise_cons.2 ⟨h.apart, ?_⟩
  cases hcomparison : q.comparison with
  | beforeCopy => exact h.compared hcomparison
  | afterCopy =>
    by_contra hn
    exact hc ⟨hcomparison, hn⟩
  | never => exact absurd hcomparison hq

/-- The offset into the stream is aligned, so that its region is acceptable. -/
lemma acceptable_offset {addr : Word} (hq : q.offset = some addr) (hr : ⟨addr, 8⟩ ∈ q.others) :
    Region.Acceptable m.bounds 8 ⟨addr, 8⟩ :=
  Region.acceptable_word.2 ⟨h.offset addr hq, h.others _ hr⟩

/-- The copy leaves the bytes of the other regions as they were when the call was made. -/
lemma read_staged {addr len : Word} (n : Nat) (hk : m.Consulted k) (hr : ⟨addr, len⟩ ∈ q.others)
    (hn : len.toNat = n) : (q.staged k).memory.read addr.toNat n = m.memory.read addr.toNat n := by
  subst hn
  rw [memory_staged hk]
  exact Memory.read_copy_of_apart (r := ⟨addr, len⟩) rfl (h.apart _ hr) (Nat.le_refl _)

/-- The driver is handed the context as the caller has it. -/
lemma read_context {addr : Word} (hk : m.Consulted k) (hr : ⟨addr, 34⟩ ∈ q.others) :
    (q.staged k).memory.read addr.toNat 34 = m.memory.read addr.toNat 34 :=
  h.read_staged 34 hk hr (by decide)

/-- The driver is handed a block of sixteen bytes as the caller has it. -/
lemma read_block {addr : Word} (hk : m.Consulted k) (hr : ⟨addr, 16⟩ ∈ q.others) :
    (q.staged k).memory.read addr.toNat 16 = m.memory.read addr.toNat 16 :=
  h.read_staged 16 hk hr (by decide)

/-- The driver is handed a number as the caller has it. -/
lemma readNat_word {addr : Word} (hk : m.Consulted k) (hr : ⟨addr, 8⟩ ∈ q.others) :
    (q.staged k).memory.readNat addr.toNat 8 = m.memory.readNat addr.toNat 8 := by
  rw [Memory.readNat, h.read_staged 8 hk hr (by decide), Memory.readNat]

end Admitted

/-- The driver is handed the bytes of the input, though they are read from the output. -/
lemma read_staged_output (q : Request) (hk : m.Consulted k) :
    (q.staged k).memory.read q.output.addr.toNat q.size.toNat =
      m.memory.read q.input.addr.toNat q.size.toNat := by
  rw [memory_staged hk]
  exact Memory.read_write ..

section Steps

variable {α : Type} {value : α → Word} {refusal : ServiceError → Word} {r : Region}

/-- Loading a context goes on with the context in the memory. -/
lemma answer_loadContext {f : AesContext → Service σ α} :
    Service.answer (Aes.loadContext r >>= f) value refusal k =
      Service.answer (f (.ofBytes (k.memory.read r.addr.toNat 34))) value refusal k :=
  Service.answer_bind rfl

/-- Loading a fixed number of bytes goes on with the bytes in the memory. -/
lemma answer_loadFixed {n : Nat} {f : Vector UInt8 n → Service σ α} :
    Service.answer (r.loadFixed n >>= f) value refusal k =
      Service.answer (f (k.memory.read r.addr.toNat n)) value refusal k :=
  Service.answer_bind rfl

/-- Loading a region goes on with the bytes in it. -/
lemma answer_load {f : Vector UInt8 r.len.toNat → Service σ α} :
    Service.answer (r.load >>= f) value refusal k =
      Service.answer (f (k.memory.read r.addr.toNat r.len.toNat)) value refusal k :=
  Service.answer_bind rfl

/-- Loading a number goes on with the number in the memory. -/
lemma answer_loadNat {f : Nat → Service σ α} :
    Service.answer (r.loadNat >>= f) value refusal k =
      Service.answer (f (k.memory.readNat r.addr.toNat r.len.toNat)) value refusal k :=
  Service.answer_bind rfl

/-- The copy of a request is staged. -/
lemma copyTo_run (q : Request) : (q.input.copyTo q.output : Service σ Unit) k = .ok () (q.staged k) := by
  show (if q.size < q.size then _ else _ : Service σ Unit) k = _
  rw [if_neg (UInt64.lt_irrefl _)]
  rfl

end Steps

/-- The course of a request: through its checks and, behind the copy, to its driver. -/
def Course (m : Machine σ) (q : Request) : Prop :=
  Screened m (q.Admitted m) (Staged m q) fun D => q.serve D

section Ciphers

variable {ctx direction length offset iv nonce stream input output : Word}

/-- The last two checks of a cipher and the copy. -/
lemma cipher_screened {q : Request} {f : Drivers σ → Unit → Service σ Int32}
    (hbefore : q.comparison = .beforeCopy) (hp : m.platform = true)
    (hdirection : ∀ w ∈ q.direction, (AesMode.ofRaw? w.toCode).isSome) (hoffset : ∀ w ∈ q.offset, w % 8 = 0)
    (hout : q.output.Acceptable m.bounds 1) (hothers : ∀ r ∈ q.others, r.Acceptable m.bounds 1)
    (hf : q.Admitted m → ∀ k, m.Consulted k → ∀ D,
      Service.answer (f D ()) Word.ofCode ServiceError.word (q.staged k) = q.deliver D m.memory (q.staged k)) :
    Screened m (q.Admitted m) (Staged m q) fun D => Service.answer
      (do Region.ensureDisjoint (q.others ++ [q.output]); let u ← Aes.stage q.input.addr q.output; f D u)
      Word.ofCode ServiceError.word := by
  have hopen : ∀ r ∈ q.others ++ [q.output], r.Open m.bounds := by
    intro r hr
    rcases List.mem_append.1 hr with hr | hr
    · exact (hothers r hr).open
    · rw [List.mem_singleton.1 hr]
      exact hout.open
  refine .next (.ensureDisjoint hopen) (fun h => h.pairwise hbefore) fun hd => ?_
  obtain ⟨hapart, hcompared⟩ := pairwise_concat.1 hd
  simp only [Aes.stage, bind_assoc]
  refine .next .claim Admitted.input fun hin => ?_
  have hA : q.Admitted m := ⟨hp, hdirection, hoffset, hin, hout, hothers, hapart, fun _ => hcompared⟩
  refine .done hA fun k hk => .delivered ?_ hk fun D => ?_
  · rintro ⟨h, -⟩
    rw [hbefore] at h
    cases h
  · -- the copy is not refused, so nothing stops the request any more
    rw [← hf hA k hk D]
    exact Service.answer_bind (copyTo_run q)

/-- Ciphering in chained blocks takes this course. -/
lemma cbc_course : Course m (.cbc ctx direction length iv input output) := by
  show Screened m _ _ fun D => Aes.cbc D ctx direction length iv input output
  refine .next .requirePlatform Admitted.platform fun hp => ?_
  refine .named (fun h => h.direction _ rfl) fun dir hdir => ?_
  refine .next .context (fun h => h.others _ (.head _)) fun hctx => ?_
  refine .next .claim (fun h => h.others _ (.tail _ (.head _))) fun hiv => ?_
  refine .next .claim Admitted.output fun hout => ?_
  refine cipher_screened rfl hp (by simp [Request.direction, hdir]) nofun hout (by simp [others, hctx, hiv])
    fun hA k hk D => ?_
  have hdata : (staged _ k).memory.read output.toNat length.toNat = m.memory.read input.toNat length.toNat :=
    read_staged_output (.cbc ctx direction length iv input output) hk
  rw [answer_loadContext, answer_loadFixed, answer_load, hA.read_context hk (.head _),
    hA.read_block hk (.tail _ (.head _)), hdata, deliver, Aes.mode, hdir]
  rfl

/-- Ciphering with feedback of blocks takes this course. -/
lemma cfb128_course : Course m (.cfb128 ctx direction length offset iv input output) := by
  show Screened m _ _ fun D => Aes.cfb128 D ctx direction length offset iv input output
  refine .next .requirePlatform Admitted.platform fun hp => ?_
  refine .named (fun h => h.direction _ rfl) fun dir hdir => ?_
  refine .next .context (fun h => h.others _ (.head _)) fun hctx => ?_
  refine .next .claim (fun h => h.acceptable_offset rfl (.tail _ (.head _))) fun hoff => ?_
  refine .next .claim (fun h => h.others _ (.tail _ (.tail _ (.head _)))) fun hiv => ?_
  refine .next .claim Admitted.output fun hout => ?_
  obtain ⟨halign, hoff⟩ := Region.acceptable_word.1 hoff
  refine cipher_screened rfl hp (by simp [Request.direction, hdir]) (by simp [Request.offset, halign]) hout
    (by simp [others, hctx, hoff, hiv]) fun hA k hk D => ?_
  have hdata : (staged _ k).memory.read output.toNat length.toNat = m.memory.read input.toNat length.toNat :=
    read_staged_output (.cfb128 ctx direction length offset iv input output) hk
  rw [answer_loadContext, answer_loadNat, answer_loadFixed, answer_load, hA.read_context hk (.head _),
    hA.read_block hk (.tail _ (.tail _ (.head _))), hdata, deliver, Aes.mode, hdir,
    ← hA.readNat_word hk (.tail _ (.head _))]
  rfl

/-- Ciphering with feedback of bytes takes this course. -/
lemma cfb8_course : Course m (.cfb8 ctx direction length iv input output) := by
  show Screened m _ _ fun D => Aes.cfb8 D ctx direction length iv input output
  refine .next .requirePlatform Admitted.platform fun hp => ?_
  refine .named (fun h => h.direction _ rfl) fun dir hdir => ?_
  refine .next .context (fun h => h.others _ (.head _)) fun hctx => ?_
  refine .next .claim (fun h => h.others _ (.tail _ (.head _))) fun hiv => ?_
  refine .next .claim Admitted.output fun hout => ?_
  refine cipher_screened rfl hp (by simp [Request.direction, hdir]) nofun hout (by simp [others, hctx, hiv])
    fun hA k hk D => ?_
  have hdata : (staged _ k).memory.read output.toNat length.toNat = m.memory.read input.toNat length.toNat :=
    read_staged_output (.cfb8 ctx direction length iv input output) hk
  rw [answer_loadContext, answer_loadFixed, answer_load, hA.read_context hk (.head _),
    hA.read_block hk (.tail _ (.head _)), hdata, deliver, Aes.mode, hdir]
  rfl

/-- Ciphering with a counter takes this course. -/
lemma ctr_course : Course m (.ctr ctx length offset nonce stream input output) := by
  show Screened m _ _ fun D => Aes.ctr D ctx length offset nonce stream input output
  refine .next .requirePlatform Admitted.platform fun hp => ?_
  refine .next .context (fun h => h.others _ (.head _)) fun hctx => ?_
  refine .next .claim (fun h => h.acceptable_offset rfl (.tail _ (.head _))) fun hoff => ?_
  refine .next .claim (fun h => h.others _ (.tail _ (.tail _ (.head _)))) fun hnonce => ?_
  refine .next .claim (fun h => h.others _ (.tail _ (.tail _ (.tail _ (.head _))))) fun hstream => ?_
  refine .next .claim Admitted.output fun hout => ?_
  obtain ⟨halign, hoff⟩ := Region.acceptable_word.1 hoff
  refine cipher_screened rfl hp nofun (by simp [Request.offset, halign]) hout
    (by simp [others, hctx, hoff, hnonce, hstream]) fun hA k hk D => ?_
  have hdata : (staged _ k).memory.read output.toNat length.toNat = m.memory.read input.toNat length.toNat :=
    read_staged_output (.ctr ctx length offset nonce stream input output) hk
  rw [answer_loadContext, answer_loadNat, answer_loadFixed, answer_loadFixed, answer_load,
    hA.read_context hk (.head _), hA.read_block hk (.tail _ (.tail _ (.head _))),
    hA.read_block hk (.tail _ (.tail _ (.tail _ (.head _)))), hdata, deliver,
    ← hA.readNat_word hk (.tail _ (.head _))]
  rfl

/-- Ciphering a single block takes this course. -/
lemma ecb_course : Course m (.ecb ctx direction input output) := by
  show Screened m _ _ fun D => Aes.ecb D ctx direction input output
  refine .next .requirePlatform Admitted.platform fun hp => ?_
  refine .named (fun h => h.direction _ rfl) fun dir hdir => ?_
  refine .next .context (fun h => h.others _ (.head _)) fun hctx => ?_
  refine .next .claim Admitted.output fun hout => ?_
  refine cipher_screened rfl hp (by simp [Request.direction, hdir]) nofun hout (by simp [others, hctx])
    fun hA k hk D => ?_
  have hdata : (staged _ k).memory.read output.toNat 16 = m.memory.read input.toNat 16 :=
    read_staged_output (.ecb ctx direction input output) hk
  rw [answer_loadContext, answer_loadFixed, hA.read_context hk (.head _), hdata, deliver, Aes.mode, hdir]
  rfl

/-- Ciphering with feedback of the output takes this course. -/
lemma ofb_course : Course m (.ofb ctx length offset iv input output) := by
  show Screened m _ _ fun D => Aes.ofb D ctx length offset iv input output
  refine .next .requirePlatform Admitted.platform fun hp => ?_
  refine .next .context (fun h => h.others _ (.head _)) fun hctx => ?_
  refine .next .claim (fun h => h.acceptable_offset rfl (.tail _ (.head _))) fun hoff => ?_
  refine .next .claim (fun h => h.others _ (.tail _ (.tail _ (.head _)))) fun hiv => ?_
  refine .next .claim Admitted.output fun hout => ?_
  obtain ⟨halign, hoff⟩ := Region.acceptable_word.1 hoff
  refine cipher_screened rfl hp nofun (by simp [Request.offset, halign]) hout
    (by simp [others, hctx, hoff, hiv]) fun hA k hk D => ?_
  have hdata : (staged _ k).memory.read output.toNat length.toNat = m.memory.read input.toNat length.toNat :=
    read_staged_output (.ofb ctx length offset iv input output) hk
  rw [answer_loadContext, answer_loadNat, answer_loadFixed, answer_load, hA.read_context hk (.head _),
    hA.read_block hk (.tail _ (.tail _ (.head _))), hdata, deliver, ← hA.readNat_word hk (.tail _ (.head _))]
  rfl

end Ciphers

section Storage

variable {slot input length aad aadLength tag tagLength output : Word}

/-- The steps that encryption and decryption have in common. -/
lemma storage_screened {q : Request} {f : Drivers σ → Storage.Sealed → Service σ Unit}
    (hin : q.input = ⟨input, length.toUInt8.toUInt64⟩) (hout : q.output = ⟨output, length.toUInt8.toUInt64⟩)
    (hothers : q.others = [⟨aad, aadLength.toUInt16.toUInt64⟩, ⟨tag, tagLength.toUInt16.toUInt64⟩])
    (hdirection : q.direction = none) (hoffset : q.offset = none) (hbefore : q.comparison ≠ .beforeCopy)
    (hf : q.Admitted m → ∀ k, m.Consulted k → Staged m q fun D =>
      Service.answer (f D ⟨⟨output, length.toUInt8.toUInt64⟩, ⟨aad, aadLength.toUInt16.toUInt64⟩,
        ⟨tag, tagLength.toUInt16.toUInt64⟩⟩) (fun () => 0) ServiceError.word (q.staged k)) :
    Screened m (q.Admitted m) (Staged m q) fun D => Service.status
      (do let r ← Storage.stage input length aad aadLength tag tagLength output; f D r) := by
  have hpair {P : Region → Prop} : (∀ r ∈ q.others, P r) ↔
      P ⟨aad, aadLength.toUInt16.toUInt64⟩ ∧ P ⟨tag, tagLength.toUInt16.toUInt64⟩ := by
    rw [hothers, List.forall_mem_cons, List.forall_mem_singleton]
  have hapart {r : Region} :
      [⟨output, length.toUInt8.toUInt64⟩, r].Pairwise Region.Apart ↔ q.output.Apart r := by
    rw [hout, List.pairwise_pair]
  have hopen {r q : Region} (hr : r.Acceptable m.bounds 1) (hq : q.Acceptable m.bounds 1) :
      ∀ p ∈ [r, q], p.Open m.bounds := by
    rw [List.forall_mem_cons, List.forall_mem_singleton]
    exact ⟨hr.open, hq.open⟩
  simp only [Storage.stage, bind_assoc, pure_bind]
  refine .next .requirePlatform Admitted.platform fun hp => ?_
  refine .next .claim (fun h => hin ▸ h.input) fun hinput => ?_
  refine .next .claim (fun h => hout ▸ h.output) fun houtput => ?_
  refine .next .claim (fun h => (hpair.1 h.others).1) fun haad => ?_
  refine .next .claim (fun h => (hpair.1 h.others).2) fun htag => ?_
  refine .next (.ensureDisjoint (hopen houtput haad)) (fun h => hapart.2 (hpair.1 h.apart).1) fun haad' => ?_
  refine .next (.ensureDisjoint (hopen houtput htag)) (fun h => hapart.2 (hpair.1 h.apart).2) fun htag' => ?_
  have hA : q.Admitted m :=
    ⟨hp, by simp [hdirection], by simp [hoffset], hin ▸ hinput, hout ▸ houtput, hpair.2 ⟨haad, htag⟩,
      hpair.2 ⟨hapart.1 haad', hapart.1 htag'⟩, fun h => absurd h hbefore⟩
  refine .done hA fun k hk => ?_
  -- with all checks passed the copy is not refused, and the driver finds the input in the output
  have hcopy : (⟨input, length.toUInt8.toUInt64⟩ : Region).copyTo ⟨output, length.toUInt8.toUInt64⟩ k =
      .ok () (q.staged k) := by
    rw [← hin, ← hout]
    exact copyTo_run q
  simp only [Service.answer_bind hcopy]
  exact hf hA k hk

/-- Sealing takes this course. -/
lemma encrypt_course : Course m (.encrypt slot input length aad aadLength tag tagLength output) := by
  show Screened m _ _ fun D => Storage.encrypt D slot input length aad aadLength tag tagLength output
  refine storage_screened rfl rfl rfl rfl rfl nofun fun hA k hk => ?_
  have hbounded : ∀ r ∈ others _, r.Bounded := fun r hr => (hA.others r hr).open.bounded
  -- by now the data was copied, whatever this comparison finds
  by_cases h : (others (.encrypt slot input length aad aadLength tag tagLength output)).Pairwise Region.Apart
  · refine .delivered (fun hc => hc.2 h) hk fun D => ?_
    refine (Service.answer_bind (Region.ensureDisjoint_of_pairwise hbounded h)).trans ?_
    have hdata : (staged _ k).memory.read output.toNat length.toUInt8.toNat =
        m.memory.read input.toNat length.toUInt8.toNat :=
      read_staged_output (.encrypt slot input length aad aadLength tag tagLength output) hk
    have haad := hA.read_staged aadLength.toUInt16.toNat hk (.head _) rfl
    have htag := hA.read_staged tagLength.toUInt16.toNat hk (.tail _ (.head _)) rfl
    rw [answer_load, answer_load, answer_load, deliver, ← hdata, ← haad, ← htag]
    rfl
  · exact .collided ⟨rfl, h⟩ hk fun D =>
      Service.answer_bind_refused (Region.ensureDisjoint_of_not_pairwise hbounded h)

/-- Unsealing takes this course. -/
lemma decrypt_course : Course m (.decrypt slot input length aad aadLength tag tagLength output) := by
  show Screened m _ _ fun D => Storage.decrypt D slot input length aad aadLength tag tagLength output
  refine storage_screened rfl rfl rfl rfl rfl nofun fun hA k hk => ?_
  refine .delivered nofun hk fun D => ?_
  have hdata : (staged _ k).memory.read output.toNat length.toUInt8.toNat =
      m.memory.read input.toNat length.toUInt8.toNat :=
    read_staged_output (.decrypt slot input length aad aadLength tag tagLength output) hk
  have haad := hA.read_staged aadLength.toUInt16.toNat hk (.head _) rfl
  have htag := hA.read_staged tagLength.toUInt16.toNat hk (.tail _ (.head _)) rfl
  rw [answer_load, answer_load, answer_load, deliver, ← hdata, ← haad, ← htag]
  rfl

end Storage

/-- Every request takes this course. -/
lemma course (m : Machine σ) (q : Request) : Course m q := by
  cases q with
  | cbc => exact cbc_course
  | cfb128 => exact cfb128_course
  | cfb8 => exact cfb8_course
  | ctr => exact ctr_course
  | ecb => exact ecb_course
  | ofb => exact ofb_course
  | encrypt => exact encrypt_course
  | decrypt => exact decrypt_course

end Request

/-- A request that is not admitted is refused and leaves the memory alone. One that is admitted has its data copied,
and after that it reaches its driver, unless it collides: then it is refused, but the copy was made. No answer depends
on the drivers but that of the driver that is reached. -/
theorem copied_exactly_if_admitted (m : Machine σ) (q : Request) :
    (¬ q.Admitted m → ∃ e k, (∀ D, q.serve D m = .ok (ServiceError.word e) k) ∧
      k.devices = m.devices ∧ k.memory = m.memory) ∧
    (q.Admitted m → ∃ k, k.devices = m.devices ∧ k.memory = m.memory.copy q.input q.output ∧
      (q.Collides → ∀ D, q.serve D m = .ok ServiceError.invalidArg.word k) ∧
      (¬ q.Collides → ∀ D, q.serve D m = q.deliver D m.memory k)) := by
  rcases q.course m m .untouched with ⟨hA, hq⟩ | ⟨hA, hk, hrefused⟩
  · refine ⟨fun h => absurd hA h, fun _ => ?_⟩
    rcases hq with ⟨hc, hk, hrun⟩ | ⟨hc, hk, hrun⟩
    · exact ⟨q.staged _, hk.devices, Request.memory_staged hk, fun _ => hrun, fun h => absurd hc h⟩
    · exact ⟨q.staged _, hk.devices, Request.memory_staged hk, fun h => absurd h hc, fun _ => hrun⟩
  · exact ⟨fun _ => ⟨_, _, hrefused, hk.devices, hk.memory⟩, fun h => absurd h hA⟩

/-- The additional data of an encryption overlaps its tag, which is found out only when the data was copied. -/
theorem collision_found_behind_copy :
    let m : Machine Unit := { Machine.powerUp () with
      platform := true, memory := Memory.zero.writeList 0x40820000 (List.replicate 16 17) }
    let q : Request := .encrypt 5 0x40820000 16 0x40820200 16 0x40820208 16 0x40820100
    ∃ k, (∀ D, q.serve D m = .ok ServiceError.invalidArg.word k) ∧ k.memory ≠ m.memory := by
  intro m q
  have hin : q.input.Acceptable m.bounds 1 := .inr ⟨by decide, by decide, by decide, by decide⟩
  have hout : q.output.Acceptable m.bounds 1 := .inr ⟨by decide, by decide, by decide, by decide⟩
  have hothers : ∀ r ∈ q.others, r.Acceptable m.bounds 1 := by
    refine List.forall_mem_cons.2 ⟨.inr ?_, List.forall_mem_singleton.2 (.inr ?_)⟩
    · exact ⟨by decide, by decide, by decide, by decide⟩
    · exact ⟨by decide, by decide, by decide, by decide⟩
  have hapart : ∀ r ∈ q.others, q.output.Apart r :=
    List.forall_mem_cons.2 ⟨.of_le (by decide), List.forall_mem_singleton.2 (.of_le (by decide))⟩
  have hadmitted : q.Admitted m := ⟨rfl, nofun, nofun, hin, hout, hothers, hapart, nofun⟩
  have hcollides : q.Collides := by
    refine ⟨rfl, fun h => ?_⟩
    exact List.pairwise_pair.1 h ⟨0x40820208, ⟨by decide, by decide⟩, by decide, by decide⟩
  rcases q.course m m .untouched with ⟨-, ⟨-, hk, hrun⟩ | ⟨hc, -⟩⟩ | ⟨hA, -⟩
  · refine ⟨q.staged _, hrun, fun h => ?_⟩
    -- the first byte of the output was zero before the copy
    rw [Request.memory_staged hk] at h
    have hbyte := congrArg (fun M => M.byte 0x40820100) h
    revert hbyte
    decide
  · exact absurd hcollides hc
  · exact absurd hadmitted hA

/-- A request reaches its driver exactly if it is admitted and does not collide. The driver then gets the data that
the caller had put at the input, and beside it what the caller had put at the other regions, whatever the input
overlaps; until then nothing has changed but the bytes of the output. -/
theorem driver_gets_data_of_caller (m : Machine σ) (q : Request) :
    (q.Admitted m ∧ ¬ q.Collides → ∃ k, (∀ D, q.serve D m = q.deliver D m.memory k) ∧
      k.devices = m.devices ∧ k.memory.span q.output = m.memory.span q.input ∧
      (∀ r ∈ q.others, k.memory.span r = m.memory.span r ∧ q.output.Apart r) ∧
      (q.comparison ≠ .never → (q.output :: q.others).Pairwise Region.Apart) ∧
      ∀ a, ¬ q.output.Holds a → k.memory.byte a = m.memory.byte a) ∧
    (¬ (q.Admitted m ∧ ¬ q.Collides) → ∃ e k, (∀ D, q.serve D m = .ok (ServiceError.word e) k) ∧
      k.devices = m.devices) := by
  rcases q.course m m .untouched with ⟨hA, hq⟩ | ⟨hA, hk, hrefused⟩
  · rcases hq with ⟨hc, hk, hrun⟩ | ⟨hc, hk, hrun⟩
    · exact ⟨fun h => absurd hc h.2, fun _ => ⟨_, _, hrun, hk.devices⟩⟩
    · refine ⟨fun _ => ?_, fun h => absurd ⟨hA, hc⟩ h⟩
      refine ⟨_, hrun, hk.devices, ?_, ?_, hA.pairwise_of_not_collides hc, ?_⟩
      · rw [Request.memory_staged hk]
        exact Memory.span_copy rfl
      · intro r hr
        rw [Request.memory_staged hk]
        exact ⟨Memory.span_copy_of_apart rfl (hA.apart r hr), hA.apart r hr⟩
      · intro a ha
        rw [Request.memory_staged hk]
        exact Memory.byte_copy_of_not_holds rfl ha
  · exact ⟨fun h => absurd h.1 hA, fun _ => ⟨_, _, hrefused, hk.devices⟩⟩

end InPlace

end SecureWorld
