import ReviewProtocol.Agent.PackageReader
import Mathlib.Algebra.BigOperators.Group.List.Basic

set_option autoImplicit false

/- How far the payload reader gets. What remains of a payload falls by the length of
each frame, so a frame that is empty takes a read and leaves the reader where it was. -/
namespace ReviewProtocol

open Framing (Bytes Act Frames Halt frame)
open Framing.Act (Turn emit)

variable {σ : Type}

namespace PackageReader

section loop

variable {τ : Type} (use : τ → Bytes → τ)

/-- One round of a handler's `while pkg.next_chunk(&mut buf).await? { .. }`, with what it
makes of the chunks so far. -/
def chunkRound (progress : PackageReader × τ) :
    AgentAct σ (Turn (PackageReader × τ) (Except IoError τ)) := do
  let (answer, reader) ← progress.1.nextChunk
  match answer with
  | .chunk body => pure (.next (reader, use progress.2 body))
  | .finished => pure (.stop (.ok progress.2))
  | .failed error _ => pure (.stop (.error error))

/-- What one round comes to, by the answer of its call. -/
theorem run_chunkRound (value : τ) {reader reader' : PackageReader} {w w' : Agent σ}
    {answer : ChunkAnswer} (ran : reader.nextChunk.run w = (.ok (answer, reader'), w')) :
    (chunkRound use (reader, value)).run w =
      match answer with
      | .chunk body => (.ok (.next (reader', use value body)), w')
      | .finished => (.ok (.stop (.ok value)), w')
      | .failed error _ => (.ok (.stop (.error error)), w') := by
  simp only [chunkRound, Act.run_bind, ran, Act.andThen_ok]
  cases answer with
  | chunk body => rfl
  | finished => rfl
  | failed error seen => rfl

theorem chunkRound_decreasing :
    Act.Decreasing (fun _ (w : Agent σ) => w.recv.bytes.length) (chunkRound use) := by
  rintro ⟨reader, value⟩ w again w' ran
  rcases step : reader.nextChunk.run w with ⟨halt | ⟨answer, reader'⟩, middle⟩
  · simp only [chunkRound, Act.run_bind, step, Act.andThen_error] at ran
    cases ran
  · rw [run_chunkRound use _ step] at ran
    cases answer with
    | chunk body =>
        cases ran
        obtain ⟨added, taken⟩ := nextChunk_step step
        cases taken with
        | chunk body rest sound expected within bytes fits =>
            dsimp only
            rw [bytes, List.length_append, Framing.length_frame]
            omega
    | finished => cases ran
    | failed error seen => cases ran

def whileChunks (value : τ) (reader : PackageReader) : AgentAct σ (Except IoError τ) :=
  Act.loop (fun _ w => w.recv.bytes.length) (chunkRound use) (chunkRound_decreasing use)
    (reader, value)

theorem run_whileChunks_chunk {reader reader' : PackageReader} {value : τ} {w w' : Agent σ}
    {body : Bytes} (ran : reader.nextChunk.run w = (.ok (.chunk body, reader'), w')) :
    (whileChunks use value reader).run w = (whileChunks use (use value body) reader').run w' := by
  unfold whileChunks
  rw [Act.run_loop, run_chunkRound use _ ran]

/-- The loop ends with a call that reads no chunk, or waits with it. -/
theorem run_whileChunks_last (value : τ) {reader reader' : PackageReader} {w w' : Agent σ}
    {answer : ChunkAnswer} (ran : reader.nextChunk.run w = (.ok (answer, reader'), w'))
    (last : ∀ body, answer ≠ .chunk body) :
    ∃ result, (whileChunks use value reader).run w = (.ok result, w') := by
  unfold whileChunks
  rw [Act.run_loop, run_chunkRound use _ ran]
  cases answer with
  | chunk body => exact absurd rfl (last body)
  | finished => exact ⟨.ok value, rfl⟩
  | failed error seen => exact ⟨.error error, rfl⟩

theorem run_whileChunks_halt {reader : PackageReader} {value : τ} {w w' : Agent σ}
    {halt : Halt HandlerError} (ran : reader.nextChunk.run w = (.error halt, w')) :
    (whileChunks use value reader).run w = (.error halt, w') := by
  unfold whileChunks
  rw [Act.run_loop]
  simp only [chunkRound, Act.run_bind, ran, Act.andThen_error]

end loop

/-- To drain is to go on with the chunks and make nothing of them. -/
theorem run_drain_eq (reader : PackageReader) (w : Agent σ) :
    reader.drain.run w = (whileChunks (fun _ _ => ()) () reader).run w := by
  induction bound : w.recv.bytes.length using Nat.strongRecOn generalizing reader w with
  | ind bound ih =>
      unfold drain
      rw [Act.run_loop]
      simp only [drainRound, Act.run_bind]
      rcases step : reader.nextChunk.run w with ⟨halt | ⟨answer, reader'⟩, w'⟩
      · rw [Act.andThen_error, run_whileChunks_halt _ step]
      · rw [Act.andThen_ok]
        cases answer with
        | chunk body =>
            have shorter : w'.recv.bytes.length < w.recv.bytes.length := by
              have round := run_chunkRound (fun _ _ => ()) () step
              exact chunkRound_decreasing _ _ _ _ _ round
            rw [run_whileChunks_chunk _ step]
            exact ih _ (by omega) reader' w' rfl
        | finished =>
            unfold whileChunks
            rw [Act.run_loop, run_chunkRound _ _ step]
            rfl
        | failed error seen =>
            unfold whileChunks
            rw [Act.run_loop, run_chunkRound _ _ step]
            rfl

/-- A call in front of a whole frame: a chunk, or an overrun. -/
theorem run_nextChunk_frame {reader : PackageReader} {w : Agent σ} {body tail : Bytes}
    (sound : reader.failed = false) (expected : 0 < reader.remaining)
    (bytes : w.recv.bytes = frame body ++ tail) (fits : body.length < Framing.frameLimit) :
    reader.nextChunk.run w =
      if reader.remaining < body.length then
        (.ok (.failed (chunkOverrun body.length reader.remaining) body,
          { reader with failed := true }),
          { w with recv.bytes := tail, log := w.log ++ [.chunk reader.remaining body] })
      else
        (.ok (.chunk body, { reader with remaining := reader.remaining - body.length }),
          { w with recv.bytes := tail, log := w.log ++ [.chunk reader.remaining body] }) := by
  have going : ¬ reader.failed = true := by
    rw [sound]
    decide
  rw [nextChunk, if_neg going, if_neg (by omega)]
  simp only [readChunk, Act.run_bind, Act.run_recv_frame bytes fits, Act.andThen_ok, emit]
  split
  · rfl
  · rfl

end PackageReader

/-- The frames a reader takes when so many bytes remain: up to the one that completes the
payload or overruns it. -/
def framesTaken : Nat → List Bytes → List Bytes
  | _, [] => []
  | 0, _ :: _ => []
  | remaining + 1, body :: bodies =>
      if remaining + 1 < body.length then [body]
      else body :: framesTaken (remaining + 1 - body.length) bodies

theorem framesTaken_cons {remaining : Nat} (expected : 0 < remaining) (body : Bytes)
    (bodies : List Bytes) :
    framesTaken remaining (body :: bodies) =
      if remaining < body.length then [body]
      else body :: framesTaken (remaining - body.length) bodies := by
  cases remaining with
  | zero => omega
  | succ remaining => rfl

theorem framesTaken_zero (bodies : List Bytes) : framesTaken 0 bodies = [] := by
  cases bodies <;> rfl

/-- Frames that each hold a byte are no more than the bytes there are to come. -/
theorem length_framesTaken_le (remaining : Nat) (bodies : List Bytes)
    (nonempty : [] ∉ framesTaken remaining bodies) :
    (framesTaken remaining bodies).length ≤ remaining := by
  induction bodies generalizing remaining with
  | nil => exact Nat.zero_le _
  | cons body bodies ih =>
      by_cases expected : 0 < remaining
      · rw [framesTaken_cons expected] at nonempty ⊢
        by_cases overruns : remaining < body.length
        · rw [if_pos overruns]
          exact expected
        · rw [if_neg overruns] at nonempty ⊢
          obtain ⟨first, later⟩ := not_or.mp (mt List.mem_cons.mpr nonempty)
          have some : 0 < body.length := List.length_pos_iff.mpr (Ne.symm first)
          have rest := ih (remaining - body.length) later
          rw [List.length_cons]
          omega
      · have none : remaining = 0 := by omega
        rw [none, framesTaken_zero]
        exact Nat.le_refl 0

/-- What the loop has read of these frames when it ends, or when it waits. -/
structure Took (remaining : Nat) (bodies : List Bytes) (w : Agent σ) {α : Type}
    (outcome : Except (Halt HandlerError) α × Agent σ) : Prop where
  read : ∃ added, outcome.2.log = w.log ++ added ∧
    (chunks added).map Prod.snd = framesTaken remaining bodies
  waiting : outcome.1 = .error .pending →
    framesTaken remaining bodies = bodies ∧ (bodies.map List.length).sum < remaining

theorem Took.idle {remaining : Nat} {bodies : List Bytes} {w w' : Agent σ} {α : Type} {result : α}
    {added : List AgentEvent} (log : w'.log = w.log ++ added) (none : chunks added = [])
    (taken : framesTaken remaining bodies = []) : Took remaining bodies w (.ok result, w') :=
  ⟨⟨added, log, by rw [none, taken, List.map_nil]⟩, nofun⟩

namespace PackageReader

variable {τ : Type} (use : τ → Bytes → τ)

/-- A call without a whole frame to come reads none. -/
theorem nextChunk_incomplete (reader : PackageReader) {w : Agent σ}
    (incomplete : Framing.splitFrame w.recv.bytes = none) :
    (∃ answer reader' w' added, reader.nextChunk.run w = (.ok (answer, reader'), w') ∧
      (∀ body, answer ≠ .chunk body) ∧ w'.log = w.log ++ added ∧ chunks added = []) ∨
    (reader.nextChunk.run w = (.error .pending, w) ∧ 0 < reader.remaining) := by
  rcases step : reader.nextChunk.run w with ⟨halt | ⟨answer, reader'⟩, w'⟩
  · obtain ⟨rfl, rfl, awaits⟩ := nextChunk_halt step
    exact .inr ⟨rfl, awaits.expected⟩
  · obtain ⟨added, taken⟩ := nextChunk_step step
    have noFrame (body rest : Bytes) : w.recv.bytes ≠ frame body ++ rest := by
      intro bytes
      have whole := Framing.splitFrame_frame_isSome body rest
      rw [← bytes, incomplete] at whole
      cases whole
    cases taken with
    | alreadyFailed failed =>
        exact .inl ⟨_, _, _, [], rfl, nofun, (List.append_nil _).symm, rfl⟩
    | finished sound complete =>
        exact .inl ⟨_, _, _, [], rfl, nofun, (List.append_nil _).symm, rfl⟩
    | chunk body rest sound expected within bytes fits => exact absurd bytes (noFrame body rest)
    | overrun body rest sound expected tooLong bytes => exact absurd bytes (noFrame body rest)
    | lost cause sound expected fin =>
        exact .inl ⟨_, _, _, [.chunkLost cause], rfl, nofun, rfl, rfl⟩

/-- Without a whole frame to come, the loop ends or waits, and has read none. -/
theorem whileChunks_incomplete {reader : PackageReader} {w : Agent σ} (value : τ)
    (incomplete : Framing.splitFrame w.recv.bytes = none) :
    Took reader.remaining [] w ((whileChunks use value reader).run w) := by
  rcases nextChunk_incomplete reader incomplete with
    ⟨answer, reader', w', added, step, last, log, none⟩ | ⟨step, expected⟩
  · obtain ⟨result, ended⟩ := run_whileChunks_last use value step last
    rw [ended]
    exact .idle log none rfl
  · rw [run_whileChunks_halt use step]
    refine ⟨⟨[], (List.append_nil _).symm, rfl⟩, ?_⟩
    intro _
    exact ⟨rfl, expected⟩

theorem whileChunks_took (reader : PackageReader) (sound : reader.failed = false) {w : Agent σ}
    {bodies : List Bytes} {rest : Bytes} (value : τ) (frames : Frames w.recv.bytes bodies rest) :
    Took reader.remaining bodies w ((whileChunks use value reader).run w) := by
  induction bodies generalizing reader w value with
  | nil =>
      apply whileChunks_incomplete
      have same : w.recv.bytes = rest := frames.bytes
      rw [same]
      exact frames.incomplete
  | cons body bodies ih =>
      by_cases expected : 0 < reader.remaining
      · obtain ⟨tail, bytes, fits, later⟩ := frames.uncons
        have step := run_nextChunk_frame sound expected bytes fits
        by_cases overruns : reader.remaining < body.length
        · rw [if_pos overruns] at step
          obtain ⟨result, ended⟩ := run_whileChunks_last use value step nofun
          rw [ended]
          refine ⟨⟨[.chunk reader.remaining body], rfl, ?_⟩, nofun⟩
          rw [framesTaken_cons expected, if_pos overruns]
          rfl
        · rw [if_neg overruns] at step
          rw [run_whileChunks_chunk use step]
          obtain ⟨⟨added, log, read⟩, waiting⟩ :=
            ih { reader with remaining := reader.remaining - body.length } sound
              (w := { w with recv.bytes := tail, log := w.log ++ [.chunk reader.remaining body] })
              (use value body) later
          refine ⟨⟨.chunk reader.remaining body :: added, ?_, ?_⟩, ?_⟩
          · rw [log, List.append_assoc, List.singleton_append]
          · rw [framesTaken_cons expected, if_neg overruns, ← read]
            rfl
          · intro pending
            obtain ⟨all, below⟩ := waiting pending
            dsimp only at all below
            rw [framesTaken_cons expected, if_neg overruns, all, List.map_cons, List.sum_cons]
            exact ⟨rfl, by omega⟩
      · have complete : reader.remaining = 0 := by omega
        have going : ¬ reader.failed = true := by
          rw [sound]
          decide
        have step : reader.nextChunk.run w = (.ok (.finished, reader), w) := by
          rw [nextChunk, if_neg going, if_pos complete]
          rfl
        obtain ⟨result, ended⟩ := run_whileChunks_last use value step nofun
        rw [ended]
        apply Took.idle (List.append_nil _).symm rfl
        rw [complete, framesTaken_zero]

/-- One after another, calls that return `Ok(true)`. -/
inductive Reading : PackageReader → Agent σ → List Bytes → PackageReader → Agent σ → Prop where
  | none {reader w} : Reading reader w [] reader w
  | more {reader w body reader' w' bodies reader'' w''}
      (call : reader.nextChunk.run w = (.ok (.chunk body, reader'), w'))
      (rest : Reading reader' w' bodies reader'' w'') :
      Reading reader w (body :: bodies) reader'' w''

/-- Every call that returns `Ok(true)` leaves less to come, however many came before. -/
def Decreases (reader : PackageReader) (w : Agent σ) : Prop :=
  ∀ bodies reader' w' body reader'' w'', Reading reader w bodies reader' w' →
    reader'.nextChunk.run w' = (.ok (.chunk body, reader''), w'') →
    reader''.remaining < reader'.remaining

/-- A loop over the chunks reads no more than so many frames, and is over once so many
have been sent. -/
structure Finishes (bound sent : Nat) (w : Agent σ) {α : Type}
    (outcome : Except (Halt HandlerError) α × Agent σ) : Prop where
  few : ∃ added, outcome.2.log = w.log ++ added ∧ (chunks added).length ≤ bound
  done : bound ≤ sent → outcome.1 ≠ .error .pending

/-- What is said of a reader on a stream that holds so many frames. -/
structure Progresses (reader : PackageReader) (w : Agent σ) (sent : Nat) : Prop where
  decreases : Decreases reader w
  handler : ∀ (τ : Type) (use : τ → Bytes → τ) (value : τ),
    Finishes reader.remaining sent w ((whileChunks use value reader).run w)
  drain : Finishes reader.remaining sent w (reader.drain.run w)

/-- Calls that return `Ok(true)` take the frames of the stream one after another. -/
theorem Reading.taken {reader reader' : PackageReader} {w w' : Agent σ} {read : List Bytes}
    (reading : Reading reader w read reader' w') {bodies : List Bytes} {rest : Bytes}
    (frames : Frames w.recv.bytes bodies rest) :
    ∃ later, Frames w'.recv.bytes later rest ∧
      framesTaken reader.remaining bodies = read ++ framesTaken reader'.remaining later := by
  induction reading generalizing bodies with
  | none => exact ⟨bodies, frames, rfl⟩
  | more call _ ih =>
      obtain ⟨added, step⟩ := nextChunk_step call
      cases step with
      | chunk body tail sound expected within bytes fits =>
          rw [bytes] at frames
          obtain ⟨others, rfl, after⟩ := frames.first fits
          obtain ⟨later, left, taken⟩ := ih after
          refine ⟨later, left, ?_⟩
          rw [framesTaken_cons expected, if_neg (by omega), List.cons_append, ← taken]

/-- While no frame that is taken is empty, every chunk leaves less to come. -/
theorem decreases_of_nonempty {reader : PackageReader} {w : Agent σ} {bodies : List Bytes}
    {rest : Bytes} (frames : Frames w.recv.bytes bodies rest)
    (nonempty : [] ∉ framesTaken reader.remaining bodies) : Decreases reader w := by
  intro read reader' w' body reader'' w'' reading call
  obtain ⟨later, left, taken⟩ := reading.taken frames
  obtain ⟨added, step⟩ := nextChunk_step call
  cases step with
  | chunk body tail sound expected within bytes fits =>
      rw [bytes] at left
      obtain ⟨others, rfl, -⟩ := left.first fits
      have member : body ∈ framesTaken reader.remaining bodies := by
        rw [taken, framesTaken_cons expected, if_neg (by omega)]
        exact List.mem_append_right _ List.mem_cons_self
      have some : 0 < body.length := by
        apply List.length_pos_iff.mpr
        intro empty
        exact nonempty (empty ▸ member)
      dsimp only
      omega

/-- A frame that is taken and empty is a chunk that changes nothing. -/
theorem nonempty_of_decreases (reader : PackageReader) (sound : reader.failed = false)
    {w : Agent σ} {bodies : List Bytes} {rest : Bytes} (frames : Frames w.recv.bytes bodies rest)
    (decreases : Decreases reader w) : [] ∉ framesTaken reader.remaining bodies := by
  induction bodies generalizing reader w with
  | nil => exact List.not_mem_nil
  | cons body bodies ih =>
      by_cases expected : 0 < reader.remaining
      · obtain ⟨tail, bytes, fits, later⟩ := frames.uncons
        have call := run_nextChunk_frame sound expected bytes fits
        rw [framesTaken_cons expected]
        by_cases overruns : reader.remaining < body.length
        · rw [if_pos overruns]
          intro member
          rw [← List.mem_singleton.mp member, List.length_nil] at overruns
          omega
        · rw [if_neg overruns] at call ⊢
          have less := decreases [] reader w body _ _ .none call
          dsimp only at less
          have after := ih { reader with remaining := reader.remaining - body.length }
            sound later fun read reader' w' body' reader'' w'' reading =>
              decreases (body :: read) reader' w' body' reader'' w'' (.more call reading)
          intro member
          rcases List.mem_cons.mp member with empty | old
          · rw [← empty, List.length_nil] at less
            omega
          · exact after old
      · have none : reader.remaining = 0 := by omega
        rw [none, framesTaken_zero]
        exact List.not_mem_nil

end PackageReader

/-- A loop that took its frames, none of them empty, finishes in time. -/
theorem Took.finishes {remaining : Nat} {bodies : List Bytes} {w : Agent σ} {α : Type}
    {outcome : Except (Halt HandlerError) α × Agent σ} (took : Took remaining bodies w outcome)
    (nonempty : [] ∉ framesTaken remaining bodies) :
    PackageReader.Finishes remaining bodies.length w outcome := by
  have few := length_framesTaken_le remaining bodies nonempty
  obtain ⟨added, log, read⟩ := took.read
  refine ⟨⟨added, log, ?_⟩, ?_⟩
  · rw [← read, List.length_map] at few
    exact few
  · intro enough pending
    obtain ⟨all, below⟩ := took.waiting pending
    rw [all] at nonempty
    have each : bodies.length ≤ (bodies.map List.length).sum := by
      have positive : ∀ size ∈ bodies.map List.length, 1 ≤ size := by
        intro size member
        obtain ⟨body, old, rfl⟩ := List.mem_map.mp member
        apply List.length_pos_iff.mpr
        intro empty
        exact nonempty (empty ▸ old)
      have bound := List.length_le_sum_of_one_le _ positive
      rwa [List.length_map] at bound
    omega

namespace PackageReader

/-- After a failure every call answers at once. -/
theorem progresses_of_failed {reader : PackageReader} (failed : reader.failed = true)
    (w : Agent σ) (sent : Nat) : Progresses reader w sent := by
  have call : reader.nextChunk.run w = (.ok (.failed transferFailed [], reader), w) := by
    rw [nextChunk, if_pos failed]
    rfl
  have ends (τ : Type) (use : τ → Bytes → τ) (value : τ) :
      Finishes reader.remaining sent w ((whileChunks use value reader).run w) := by
    obtain ⟨result, ended⟩ := run_whileChunks_last use value call nofun
    rw [ended]
    exact ⟨⟨[], (List.append_nil _).symm, Nat.zero_le _⟩, fun _ => nofun⟩
  refine ⟨?_, ends, ?_⟩
  · intro bodies reader' w' body reader'' w'' reading chunk
    cases reading with
    | none =>
        rw [call] at chunk
        cases chunk
    | more first rest =>
        rw [call] at first
        cases first
  · rw [run_drain_eq]
    exact ends Unit _ ()

/-- A reader gets on with every chunk, and the loops over its chunks are over in time,
exactly if no frame that is due to it is empty. -/
theorem reader_progress_iff (reader : PackageReader) (w : Agent σ) (bodies : List Bytes)
    (rest : Bytes) (frames : Frames w.recv.bytes bodies rest) :
    Progresses reader w bodies.length ↔
      (reader.failed = false → [] ∉ framesTaken reader.remaining bodies) := by
  constructor
  · intro progresses sound
    exact nonempty_of_decreases reader sound frames progresses.decreases
  · intro condition
    by_cases failed : reader.failed = true
    · exact progresses_of_failed failed w bodies.length
    · have sound : reader.failed = false := Bool.not_eq_true _ ▸ failed
      have nonempty := condition sound
      refine ⟨decreases_of_nonempty frames nonempty, ?_, ?_⟩
      · intro τ use value
        exact (whileChunks_took use reader sound value frames).finishes nonempty
      · rw [run_drain_eq]
        exact (whileChunks_took _ reader sound () frames).finishes nonempty

/-- An agent with these frames to read, on a stream that the peer has not finished. -/
def facingFrames (bodies : List Bytes) : Agent Unit where
  state := ()
  input := []
  recv := ⟨bodies.flatMap frame, none⟩
  send := .healthy (.simple .invalidInput)
  log := []

theorem reader_progress_iff_sample :
    Frames (facingFrames [[1, 2], [3]]).recv.bytes [[1, 2], [3]] [] ∧
      Progresses (.new 3) (facingFrames [[1, 2], [3]]) 2 := by
  have frames : Frames (facingFrames [[1, 2], [3]]).recv.bytes [[1, 2], [3]] [] :=
    ⟨rfl, by decide, rfl⟩
  exact ⟨frames, (reader_progress_iff (.new 3) (facingFrames [[1, 2], [3]]) [[1, 2], [3]] []
    frames).mpr (by decide)⟩

/-- With one byte to come, two empty frames are two chunks, and the loop waits for a
third. -/
theorem empty_chunks_stall :
    ¬ Progresses (.new 1) (facingFrames [[], []]) 2 ∧
      (drain (.new 1)).run (facingFrames [[], []]) =
        (.error .pending,
          { facingFrames [] with log := [.chunk 1 [], .chunk 1 []] }) := by
  refine ⟨?_, rfl⟩
  intro progresses
  have less : (1 : Nat) < 1 :=
    progresses.decreases [] (.new 1) (facingFrames [[], []]) [] (.new 1)
      { facingFrames [[]] with log := [.chunk 1 []] } .none rfl
  omega

end PackageReader

end ReviewProtocol
