import ReviewProtocol.Agent.Handler

set_option autoImplicit false

namespace ReviewProtocol

open Framing (Bytes Act Endpoint RecvStream)
open Framing.Act (Turn emit)

/-- The bounded reader over an install's payload; it borrows the agent's stream. -/
structure PackageReader where
  size : Nat
  remaining : Nat
  failed : Bool
deriving DecidableEq, Repr

/-- Reports a payload that stopped short as an end of file. -/
def truncatedPayload (error : IoError) : IoError :=
  if error.kind = .unexpectedEof then error else .wrapped .unexpectedEof error

/-- The error of every read after one that failed. -/
def transferFailed : IoError := .message .invalidData "the package transfer already failed"

def chunkOverrun (length remaining : Nat) : IoError :=
  .message .invalidData
    s!"package chunk of {length} bytes overruns the {remaining} bytes still expected"

namespace PackageReader

variable {σ : Type}

def new (size : Nat) : PackageReader := ⟨size, size, false⟩

/-- Reads one chunk and accounts for it. The bytes are what the caller's buffer
holds afterwards. -/
def readChunk (reader : PackageReader) :
    AgentAct σ (Except IoError Unit × Bytes × PackageReader) := do
  match ← Act.recv with
  | .error (error, seen) =>
      emit (.chunkLost error)
      pure (.error (truncatedPayload error), seen, reader)
  | .ok body =>
      emit (.chunk reader.remaining body)
      if reader.remaining < body.length then
        pure (.error (chunkOverrun body.length reader.remaining), body, reader)
      else
        pure (.ok (), body, { reader with remaining := reader.remaining - body.length })

def nextChunk (reader : PackageReader) : AgentAct σ (ChunkAnswer × PackageReader) := do
  if reader.failed then
    pure (.failed transferFailed [], reader)
  else if reader.remaining = 0 then
    pure (.finished, reader)
  else
    let (result, buf, reader) ← reader.readChunk
    match result with
    | .ok () => pure (.chunk buf, reader)
    | .error error => pure (.failed error buf, { reader with failed := true })

/-- One round of `while self.next_chunk(&mut buf).await? {}`. -/
def drainRound (reader : PackageReader) :
    AgentAct σ (Turn PackageReader (Except IoError Unit)) := do
  let (answer, reader) ← reader.nextChunk
  match answer with
  | .chunk _ => pure (.next reader)
  | .finished => pure (.stop (.ok ()))
  | .failed error _ => pure (.stop (.error error))

/-- What one `next_chunk` call can do: its answer and what it adds to the log. -/
inductive Step (reader : PackageReader) (w : Agent σ) :
    ChunkAnswer → List AgentEvent → PackageReader → Agent σ → Prop where
  | alreadyFailed (failed : reader.failed = true) :
      Step reader w (.failed transferFailed []) [] reader w
  | finished (sound : reader.failed = false) (complete : reader.remaining = 0) :
      Step reader w .finished [] reader w
  | chunk (body rest : Bytes) (sound : reader.failed = false) (expected : 0 < reader.remaining)
      (within : body.length ≤ reader.remaining) (bytes : w.recv.bytes = Framing.frame body ++ rest)
      (fits : body.length < Framing.frameLimit) :
      Step reader w (.chunk body) [.chunk reader.remaining body]
        { reader with remaining := reader.remaining - body.length }
        { w with recv.bytes := rest, log := w.log ++ [.chunk reader.remaining body] }
  | overrun (body rest : Bytes) (sound : reader.failed = false)
      (expected : 0 < reader.remaining) (tooLong : reader.remaining < body.length)
      (bytes : w.recv.bytes = Framing.frame body ++ rest) :
      Step reader w (.failed (chunkOverrun body.length reader.remaining) body)
        [.chunk reader.remaining body] { reader with failed := true }
        { w with recv.bytes := rest, log := w.log ++ [.chunk reader.remaining body] }
  | lost (cause : IoError) (sound : reader.failed = false)
      (expected : 0 < reader.remaining) (fin : w.recv.fin = some cause) :
      Step reader w (.failed (truncatedPayload cause) w.recv.bytes) [.chunkLost cause]
        { reader with failed := true }
        { w with recv.bytes := [], log := w.log ++ [.chunkLost cause] }

theorem nextChunk_step {reader reader' : PackageReader} {w w' : Agent σ} {answer : ChunkAnswer}
    (ran : reader.nextChunk.run w = (.ok (answer, reader'), w')) :
    ∃ added, Step reader w answer added reader' w' := by
  unfold nextChunk at ran
  split at ran
  · rename_i failed
    cases ran
    exact ⟨_, .alreadyFailed failed⟩
  · rename_i sound
    simp only [Bool.not_eq_true] at sound
    split at ran
    · rename_i complete
      cases ran
      exact ⟨_, .finished sound complete⟩
    · rename_i expected
      simp only [readChunk, Act.run_bind] at ran
      rcases Act.run_recv_cases (ε := HandlerError) w with
        ⟨body, rest, bytes, fits, read⟩ | ⟨cause, fin, read⟩ | ⟨-, read⟩
      · rw [read] at ran
        simp only [Act.andThen_ok, Act.run_bind, emit] at ran
        split at ran
        · rename_i tooLong
          cases ran
          exact ⟨_, .overrun body rest sound (by omega) tooLong bytes⟩
        · rename_i within
          cases ran
          exact ⟨_, .chunk body rest sound (by omega) (by omega) bytes fits⟩
      · rw [read] at ran
        cases ran
        exact ⟨_, .lost cause sound (by omega) fin⟩
      · rw [read] at ran
        cases ran

/-- A transfer that has not failed waits for more of its payload. -/
structure Awaits (reader : PackageReader) (stream : RecvStream IoError) : Prop where
  sound : reader.failed = false
  expected : 0 < reader.remaining
  waiting : stream.Waiting

/-- A call that does not answer is waiting for the peer, and has done nothing. -/
theorem nextChunk_halt {reader : PackageReader} {w w' : Agent σ} {halt : Framing.Halt HandlerError}
    (ran : reader.nextChunk.run w = (.error halt, w')) :
    halt = .pending ∧ w' = w ∧ Awaits reader w.recv := by
  unfold nextChunk at ran
  split at ran
  · cases ran
  · rename_i sound
    simp only [Bool.not_eq_true] at sound
    split at ran
    · cases ran
    · rename_i expected
      simp only [readChunk, Act.run_bind] at ran
      rcases Act.run_recv_cases (ε := HandlerError) w with
        ⟨body, rest, bytes, fits, read⟩ | ⟨cause, fin, read⟩ | ⟨fin, read⟩
      · rw [read] at ran
        simp only [Act.andThen_ok, Act.run_bind, emit] at ran
        split at ran <;> cases ran
      · rw [read] at ran
        cases ran
      · rw [read] at ran
        cases ran
        exact ⟨rfl, rfl, sound, by omega, fin⟩

theorem drainRound_decreasing :
    Act.Decreasing (fun _ (w : Agent σ) => w.recv.bytes.length) drainRound := by
  intro reader w again w' ran
  simp only [drainRound, Act.run_bind] at ran
  rcases step : reader.nextChunk.run w with ⟨_ | ⟨answer, reader'⟩, middle⟩
  · rw [step] at ran
    cases ran
  · rw [step] at ran
    cases answer with
    | chunk body =>
        cases ran
        obtain ⟨added, taken⟩ := nextChunk_step step
        cases taken with
        | chunk body rest sound expected within bytes fits =>
            dsimp only
            rw [bytes, List.length_append, Framing.length_frame]
            omega
    | finished => cases ran
    | failed error seen => cases ran

/-- Reads whatever the handler left behind. -/
def drain (reader : PackageReader) : AgentAct σ (Except IoError Unit) :=
  Act.loop (fun _ w => w.recv.bytes.length) drainRound drainRound_decreasing reader

end PackageReader

/-- Runs an install body against the reader. -/
def InstallProg.run {σ α : Type} : InstallProg α → PackageReader → AgentAct σ (α × PackageReader)
  | .ret value, reader => pure (value, reader)
  | .nextChunk resume, reader => do
      let (answer, reader) ← reader.nextChunk
      (resume answer).run reader

/-! ### What a transfer leaves in the log -/

/-- The payload frames read, each with the bytes expected when it was. -/
def chunks (log : List AgentEvent) : List (Nat × Bytes) :=
  log.filterMap fun
    | .chunk remaining body => some (remaining, body)
    | _ => none

/-- The payload reads that failed. -/
def losses (log : List AgentEvent) : List IoError :=
  log.filterMap fun
    | .chunkLost error => some error
    | _ => none

/-- No chunk was larger than what was still expected. -/
def NoOverrun (log : List AgentEvent) : Prop :=
  ∀ chunk ∈ chunks log, chunk.2.length ≤ chunk.1

/-- The transfer did not fail: no chunk overran and no read was lost. -/
def Clean (log : List AgentEvent) : Prop := NoOverrun log ∧ losses log = []

def received (log : List AgentEvent) : Nat := ((chunks log).map fun chunk => chunk.2.length).sum

/-- The payload frames of a log as they were on the wire. -/
def payloadBytes (log : List AgentEvent) : Bytes :=
  (chunks log).flatMap fun chunk => Framing.frame chunk.2

def AgentEvent.IsPayload : AgentEvent → Prop
  | .chunk _ _ => True
  | .chunkLost _ => True
  | _ => False

@[simp] theorem chunks_append (first second : List AgentEvent) :
    chunks (first ++ second) = chunks first ++ chunks second := List.filterMap_append

@[simp] theorem losses_append (first second : List AgentEvent) :
    losses (first ++ second) = losses first ++ losses second := List.filterMap_append

@[simp] theorem received_append (first second : List AgentEvent) :
    received (first ++ second) = received first + received second := by
  simp only [received, chunks_append, List.map_append, List.sum_append]

@[simp] theorem payloadBytes_append (first second : List AgentEvent) :
    payloadBytes (first ++ second) = payloadBytes first ++ payloadBytes second := by
  simp only [payloadBytes, chunks_append, List.flatMap_append]

theorem noOverrun_append (first second : List AgentEvent) :
    NoOverrun (first ++ second) ↔ NoOverrun first ∧ NoOverrun second := by
  simp only [NoOverrun, chunks_append, List.mem_append, or_imp, forall_and]

theorem clean_append (first second : List AgentEvent) :
    Clean (first ++ second) ↔ Clean first ∧ Clean second := by
  simp only [Clean, noOverrun_append, losses_append, List.append_eq_nil_iff]
  constructor
  · rintro ⟨⟨fits, fits'⟩, none, none'⟩
    exact ⟨⟨fits, none⟩, fits', none'⟩
  · rintro ⟨⟨fits, none⟩, fits', none'⟩
    exact ⟨⟨fits, fits'⟩, none, none'⟩

theorem clean_nil : Clean [] := by
  refine ⟨?_, rfl⟩
  intro chunk member
  cases member

/-- The error a failed transfer is reported by: the overrun, the lost read, or that
one of these came earlier. -/
def Explains (log : List AgentEvent) (error : IoError) : Prop :=
  error = transferFailed ∨
  (∃ remaining body, .chunk remaining body ∈ log ∧ remaining < body.length ∧
    error = chunkOverrun body.length remaining) ∨
  (∃ cause, .chunkLost cause ∈ log ∧ error = truncatedPayload cause)

/-- Payload reads took the reader and the stream from one state to another, adding
these events to the log. -/
structure Drawn (reader : PackageReader) (stream : RecvStream IoError) (added : List AgentEvent)
    (reader' : PackageReader) (stream' : RecvStream IoError) : Prop where
  payload : ∀ event ∈ added, event.IsPayload
  bytes : stream'.bytes <:+ stream.bytes
  fin : stream'.fin = stream.fin
  /-- While nothing has failed, the payload frames account for the stream and for
  the reader's counter. -/
  sound : reader'.failed = false → reader.failed = false ∧ Clean added ∧
    received added + reader'.remaining = reader.remaining ∧
    stream.bytes = payloadBytes added ++ stream'.bytes
  /-- The failure flag has a cause in the log. -/
  failed : reader'.failed = true → reader.failed = true ∨ ¬ Clean added
  /-- A lost read has used up the stream. -/
  lost : losses added ≠ [] → stream'.bytes = [] ∧ stream'.fin ≠ none

namespace Drawn

variable {reader reader' reader'' : PackageReader} {stream stream' stream'' : RecvStream IoError}
  {added added' : List AgentEvent}

theorem refl (reader : PackageReader) (stream : RecvStream IoError) :
    Drawn reader stream [] reader stream where
  payload := by
    intro event member
    cases member
  bytes := List.suffix_rfl
  fin := rfl
  sound failed := ⟨failed, clean_nil, Nat.zero_add _, rfl⟩
  failed failed := .inl failed
  lost lost := absurd rfl lost

theorem trans (first : Drawn reader stream added reader' stream')
    (second : Drawn reader' stream' added' reader'' stream'') :
    Drawn reader stream (added ++ added') reader'' stream'' where
  payload := by
    intro event member
    rcases List.mem_append.mp member with earlier | later
    · exact first.payload event earlier
    · exact second.payload event later
  bytes := second.bytes.trans first.bytes
  fin := second.fin.trans first.fin
  sound := by
    intro sound
    obtain ⟨middle, clean', count', bytes'⟩ := second.sound sound
    obtain ⟨start, clean, count, bytes⟩ := first.sound middle
    refine ⟨start, (clean_append _ _).mpr ⟨clean, clean'⟩, ?_, ?_⟩
    · rw [received_append]
      omega
    · rw [bytes, bytes', payloadBytes_append, List.append_assoc]
  failed := by
    intro failed
    rcases second.failed failed with earlier | dirty
    · rcases first.failed earlier with start | dirty
      · exact .inl start
      · exact .inr fun clean => dirty ((clean_append _ _).mp clean).1
    · exact .inr fun clean => dirty ((clean_append _ _).mp clean).2
  lost := by
    intro lost
    rw [losses_append] at lost
    by_cases early : losses added = []
    · rw [early, List.nil_append] at lost
      exact second.lost lost
    · obtain ⟨bytes, fin⟩ := first.lost early
      have rest := second.bytes
      rw [bytes, List.suffix_nil] at rest
      exact ⟨rest, by rw [second.fin]; exact fin⟩

end Drawn

/-- Reading payload changes nothing of the agent but its stream and its log. -/
def Reads {σ : Type} (reader : PackageReader) (w : Agent σ) (added : List AgentEvent)
    (reader' : PackageReader) (w' : Agent σ) : Prop :=
  ∃ stream, w' = { w with recv := stream, log := w.log ++ added } ∧
    Drawn reader w.recv added reader' stream

namespace Reads

variable {σ : Type} {reader reader' reader'' : PackageReader} {w w' w'' : Agent σ}
  {added added' : List AgentEvent}

theorem refl (reader : PackageReader) (w : Agent σ) : Reads reader w [] reader w := by
  refine ⟨w.recv, ?_, .refl reader w.recv⟩
  rw [List.append_nil]

theorem trans (first : Reads reader w added reader' w')
    (second : Reads reader' w' added' reader'' w'') :
    Reads reader w (added ++ added') reader'' w'' := by
  obtain ⟨stream, rfl, drawn⟩ := first
  obtain ⟨stream', rfl, drawn'⟩ := second
  refine ⟨stream', ?_, drawn.trans drawn'⟩
  rw [List.append_assoc]

end Reads

theorem PackageReader.Step.reads {σ : Type} {reader reader' : PackageReader} {w w' : Agent σ}
    {answer : ChunkAnswer} {added : List AgentEvent}
    (step : PackageReader.Step reader w answer added reader' w') :
    Reads reader w added reader' w' := by
  cases step with
  | alreadyFailed failed => exact .refl reader w
  | finished sound complete => exact .refl reader w
  | chunk body rest sound expected within bytes fits =>
      refine ⟨⟨rest, w.recv.fin⟩, rfl, ?_, ⟨Framing.frame body, bytes.symm⟩, rfl, ?_, ?_, ?_⟩
      · intro event member
        rw [List.mem_singleton.mp member]
        trivial
      · intro _
        refine ⟨sound, ⟨?_, rfl⟩, ?_, ?_⟩
        · intro chunk member
          rw [List.mem_singleton.mp member]
          exact within
        · change body.length + 0 + (reader.remaining - body.length) = reader.remaining
          omega
        · simpa [payloadBytes, chunks] using bytes
      · intro failed
        exact .inl failed
      · intro lost
        exact absurd rfl lost
  | overrun body rest sound expected tooLong bytes =>
      refine ⟨⟨rest, w.recv.fin⟩, rfl, ?_, ⟨Framing.frame body, bytes.symm⟩, rfl, ?_, ?_, ?_⟩
      · intro event member
        rw [List.mem_singleton.mp member]
        trivial
      · intro impossible
        cases impossible
      · intro _
        refine .inr fun clean => ?_
        have within := clean.1 (reader.remaining, body) List.mem_cons_self
        dsimp only at within
        omega
      · intro lost
        exact absurd rfl lost
  | lost cause sound expected fin =>
      refine ⟨⟨[], w.recv.fin⟩, rfl, ?_, List.nil_suffix, rfl, ?_, ?_, ?_⟩
      · intro event member
        rw [List.mem_singleton.mp member]
        trivial
      · intro impossible
        cases impossible
      · intro _
        exact .inr fun clean => by cases clean.2
      · intro _
        refine ⟨rfl, ?_⟩
        rw [fin]
        exact Option.some_ne_none cause

/-- However it is written, an install body only reads payload. -/
theorem InstallProg.run_reads {σ α : Type} (prog : InstallProg α) (reader : PackageReader)
    (w : Agent σ) (value : α) (reader' : PackageReader) (w' : Agent σ)
    (ran : (prog.run reader).run w = (.ok (value, reader'), w')) :
    ∃ added, Reads reader w added reader' w' := by
  induction prog generalizing reader w with
  | ret value =>
      cases ran
      exact ⟨[], Reads.refl _ _⟩
  | nextChunk resume ih =>
      simp only [InstallProg.run, Act.run_bind] at ran
      rcases step : reader.nextChunk.run w with ⟨_ | ⟨answer, middle⟩, w₁⟩
      · rw [step] at ran
        cases ran
      · rw [step] at ran
        obtain ⟨first, taken⟩ := PackageReader.nextChunk_step step
        obtain ⟨second, rest⟩ := ih answer middle w₁ ran
        exact ⟨first ++ second, taken.reads.trans rest⟩

/-- An install body that has not returned is waiting for the peer. -/
theorem InstallProg.run_halt {σ α : Type} (prog : InstallProg α) (reader : PackageReader)
    (w w' : Agent σ) (halt : Framing.Halt HandlerError)
    (ran : (prog.run reader).run w = (.error halt, w')) :
    halt = .pending ∧ ∃ added reader', Reads reader w added reader' w' ∧
      reader'.Awaits w'.recv := by
  induction prog generalizing reader w with
  | ret value => cases ran
  | nextChunk resume ih =>
      simp only [InstallProg.run, Act.run_bind] at ran
      rcases step : reader.nextChunk.run w with ⟨_ | ⟨answer, middle⟩, w₁⟩
      · rw [step] at ran
        cases ran
        obtain ⟨rfl, rfl, awaits⟩ := PackageReader.nextChunk_halt step
        exact ⟨rfl, [], reader, Reads.refl _ _, awaits⟩
      · rw [step] at ran
        obtain ⟨first, taken⟩ := PackageReader.nextChunk_step step
        obtain ⟨pending, second, reader', rest, awaits⟩ := ih answer middle w₁ ran
        exact ⟨pending, first ++ second, reader', taken.reads.trans rest, awaits⟩

/-- What draining comes to: the whole payload read, the transfer failed, or waiting. -/
def Drains {σ : Type} (reader : PackageReader) (w : Agent σ) :
    Except (Framing.Halt HandlerError) (Except IoError Unit) × Agent σ → Prop
  | (.ok (.ok ()), w') => ∃ added reader', Reads reader w added reader' w' ∧
      reader'.failed = false ∧ reader'.remaining = 0
  | (.ok (.error error), w') => ∃ added reader', Reads reader w added reader' w' ∧
      reader'.failed = true ∧ Explains added error
  | (.error halt, w') => halt = .pending ∧
      ∃ added reader', Reads reader w added reader' w' ∧ reader'.Awaits w'.recv

theorem PackageReader.run_drain {σ : Type} (reader : PackageReader) (w : Agent σ) :
    Drains reader w (reader.drain.run w) := by
  refine Act.loop_rule drainRound_decreasing
    (fun reader' w' => ∃ added, Reads reader w added reader' w') (Drains reader w)
    ?_ ?_ ?_ reader w ⟨[], .refl reader w⟩
  · rintro r u again u' ⟨added, before⟩ ran
    simp only [drainRound, Act.run_bind] at ran
    rcases step : r.nextChunk.run u with ⟨_ | ⟨answer, r'⟩, u₁⟩
    · rw [step] at ran
      cases ran
    · rw [step] at ran
      cases answer with
      | chunk body =>
          cases ran
          obtain ⟨more, taken⟩ := nextChunk_step step
          exact ⟨added ++ more, before.trans taken.reads⟩
      | finished => cases ran
      | failed error seen => cases ran
  · rintro r u value u' ⟨added, before⟩ ran
    simp only [drainRound, Act.run_bind] at ran
    rcases step : r.nextChunk.run u with ⟨_ | ⟨answer, r'⟩, u₁⟩
    · rw [step] at ran
      cases ran
    · rw [step] at ran
      obtain ⟨more, taken⟩ := nextChunk_step step
      cases answer with
      | chunk body => cases ran
      | finished =>
          cases ran
          cases taken with
          | finished sound complete => exact ⟨added, r, before, sound, complete⟩
      | failed error seen =>
          cases ran
          refine ⟨added ++ more, r', before.trans taken.reads, ?_⟩
          cases taken with
          | alreadyFailed failed => exact ⟨failed, .inl rfl⟩
          | overrun body rest sound expected tooLong bytes =>
              exact ⟨rfl,
                .inr (.inl ⟨_, _, List.mem_append_right _ List.mem_cons_self, tooLong, rfl⟩)⟩
          | lost cause sound expected fin =>
              exact ⟨rfl, .inr (.inr ⟨cause, List.mem_append_right _ List.mem_cons_self, rfl⟩)⟩
  · rintro r u halt u' ⟨added, before⟩ ran
    simp only [drainRound, Act.run_bind] at ran
    rcases step : r.nextChunk.run u with ⟨_ | ⟨answer, r'⟩, u₁⟩
    · rw [step] at ran
      cases ran
      obtain ⟨rfl, rfl, awaits⟩ := nextChunk_halt step
      exact ⟨rfl, added, r, before, awaits⟩
    · rw [step] at ran
      cases answer <;> cases ran

end ReviewProtocol
