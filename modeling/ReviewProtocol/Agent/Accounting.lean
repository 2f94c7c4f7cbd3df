import ReviewProtocol.Agent.Progress

set_option autoImplicit false

/- What a sequence of `next_chunk` calls comes to, by the results and the buffers that its
caller sees. -/
namespace ReviewProtocol

open Framing (Bytes Act RecvStream Halt frame splitFrame)

variable {σ : Type}

/-- What a call returns. -/
def ChunkAnswer.result : ChunkAnswer → Except IoError Bool
  | chunk _ => .ok true
  | finished => .ok false
  | failed error _ => .error error

namespace PackageReader

/-- `next_chunk` with the caller's buffer. -/
def nextChunkInto (reader : PackageReader) (buf : Bytes) :
    AgentAct σ (Except IoError Bool × Bytes × PackageReader) := do
  if reader.failed then
    pure (.error transferFailed, buf, reader)
  else if reader.remaining = 0 then
    pure (.ok false, [], reader)
  else
    let (result, buf, reader) ← reader.readChunk
    match result with
    | .ok () => pure (.ok true, buf, reader)
    | .error error => pure (.error error, buf, { reader with failed := true })

/-- What the buffer holds after a call that answered so. -/
def leaves (reader : PackageReader) (buf : Bytes) : ChunkAnswer → Bytes
  | .chunk body => body
  | .finished => []
  | .failed _ seen => if reader.failed then buf else seen

/-- The caller's buffer aside, the call is `nextChunk`. -/
theorem run_nextChunkInto (reader : PackageReader) (buf : Bytes) (w : Agent σ) :
    (reader.nextChunkInto buf).run w =
      match reader.nextChunk.run w with
      | (.ok (answer, after), w') => (.ok (answer.result, reader.leaves buf answer, after), w')
      | (.error halt, w') => (.error halt, w') := by
  unfold nextChunkInto nextChunk
  by_cases failed : reader.failed = true
  · rw [if_pos failed, if_pos failed]
    show _ = (Except.ok (_, (if reader.failed then buf else []), reader), w)
    rw [if_pos failed]
    rfl
  · rw [if_neg failed, if_neg failed]
    by_cases complete : reader.remaining = 0
    · rw [if_pos complete, if_pos complete]
      rfl
    · rw [if_neg complete, if_neg complete]
      simp only [Act.run_bind]
      rcases reader.readChunk.run w with ⟨halt | ⟨read, seen, after⟩, w'⟩
      · rfl
      · cases read with
        | ok done => rfl
        | error error =>
            show _ = (Except.ok (_, (if reader.failed then buf else seen), _), w')
            rw [if_neg failed]
            rfl

/-- A call that has returned: the buffer it was given, its result, and the buffer it left. -/
structure Call where
  given : Bytes
  result : Except IoError Bool
  left : Bytes
deriving DecidableEq

/-- One call, from a state of the reader and the stream to the next. -/
def Returns (reader : PackageReader) (w : Agent σ) (call : Call) (reader' : PackageReader)
    (w' : Agent σ) : Prop :=
  (reader.nextChunkInto call.given).run w = (.ok (call.result, call.left, reader'), w')

/-- What one call can do. -/
inductive Effect (reader : PackageReader) (w : Agent σ) :
    Call → PackageReader → Agent σ → Prop where
  | refused (buf : Bytes) (failed : reader.failed = true) :
      Effect reader w ⟨buf, .error transferFailed, buf⟩ reader w
  | finished (buf : Bytes) (sound : reader.failed = false) (complete : reader.remaining = 0) :
      Effect reader w ⟨buf, .ok false, []⟩ reader w
  | delivered (buf body : Bytes) (w' : Agent σ) (sound : reader.failed = false)
      (expected : 0 < reader.remaining) (within : body.length ≤ reader.remaining)
      (bytes : w.recv.bytes = frame body ++ w'.recv.bytes) (fin : w'.recv.fin = w.recv.fin) :
      Effect reader w ⟨buf, .ok true, body⟩
        { reader with remaining := reader.remaining - body.length } w'
  | failing (buf left spent : Bytes) (error : IoError) (w' : Agent σ)
      (sound : reader.failed = false) (expected : 0 < reader.remaining)
      (bytes : w.recv.bytes = spent ++ w'.recv.bytes) (fin : w'.recv.fin = w.recv.fin)
      (few : (∃ body, spent = frame body ∧ reader.remaining < body.length) ∨
        (splitFrame spent = none ∧ w'.recv.bytes = [])) :
      Effect reader w ⟨buf, .error error, left⟩ { reader with failed := true } w'

theorem nextChunk_lost {reader reader' : PackageReader} {w w' : Agent σ} {error : IoError}
    {seen : Bytes} {cause : IoError} (sound : reader.failed = false)
    (expected : 0 < reader.remaining) (log : w'.log = w.log ++ [.chunkLost cause])
    (ran : reader.nextChunk.run w = (.ok (.failed error seen, reader'), w')) :
    splitFrame w.recv.bytes = none := by
  cases split : splitFrame w.recv.bytes with
  | none => rfl
  | some parts =>
      obtain ⟨body, rest⟩ := parts
      obtain ⟨bytes, fits⟩ := Framing.splitFrame_some split
      -- a whole frame is logged as one, not as a read that was lost
      rw [run_nextChunk_frame sound expected bytes fits] at ran
      have other : w'.log = w.log ++ [.chunk reader.remaining body] := by
        split at ran
        · cases ran
          rfl
        · cases ran
      rw [log] at other
      have same := List.append_cancel_left other
      cases same

theorem Returns.effect {reader reader' : PackageReader} {w w' : Agent σ} {call : Call}
    (returns : Returns reader w call reader' w') : Effect reader w call reader' w' := by
  obtain ⟨given, result, left⟩ := call
  unfold Returns at returns
  dsimp only at returns
  rw [run_nextChunkInto] at returns
  rcases ran : reader.nextChunk.run w with ⟨halt | ⟨answer, after⟩, v⟩
  · rw [ran] at returns
    cases returns
  · rw [ran] at returns
    cases returns
    obtain ⟨added, step⟩ := nextChunk_step ran
    cases step with
    | alreadyFailed failed =>
        show Effect reader w ⟨given, _, if reader.failed then given else []⟩ reader w
        rw [if_pos failed]
        exact .refused given failed
    | finished sound complete => exact .finished given sound complete
    | chunk body rest sound expected within bytes fits =>
        exact .delivered given body _ sound expected within bytes rfl
    | overrun body rest sound expected tooLong bytes =>
        exact .failing given _ (frame body) _ _ sound expected bytes rfl
          (.inl ⟨body, rfl, tooLong⟩)
    | lost cause sound expected fin =>
        have incomplete := nextChunk_lost sound expected rfl ran
        exact .failing given _ w.recv.bytes _ _ sound expected (List.append_nil _).symm rfl
          (.inr ⟨incomplete, rfl⟩)

/-- Calls one after the other, the last one last. -/
inductive Calls (reader : PackageReader) (w : Agent σ) :
    List Call → PackageReader → Agent σ → Prop where
  | none : Calls reader w [] reader w
  | next {calls : List Call} {call : Call} {reader' reader'' : PackageReader} {w' w'' : Agent σ}
      (before : Calls reader w calls reader' w') (returns : Returns reader' w' call reader'' w'') :
      Calls reader w (calls ++ [call]) reader'' w''

/-- The chunks delivered by the calls that returned `Ok(true)`. -/
def delivered (calls : List Call) : List Bytes :=
  calls.filterMap fun call =>
    match call.result with
    | .ok true => some call.left
    | _ => none

def deliveredBytes (calls : List Call) : Nat := ((delivered calls).map List.length).sum

/-- One of the calls returned an error. -/
def Failed (calls : List Call) : Prop := ∃ call ∈ calls, ∃ error, call.result = .error error

@[simp] theorem delivered_append (calls more : List Call) :
    delivered (calls ++ more) = delivered calls ++ delivered more := List.filterMap_append

@[simp] theorem deliveredBytes_append (calls more : List Call) :
    deliveredBytes (calls ++ more) = deliveredBytes calls + deliveredBytes more := by
  simp only [deliveredBytes, delivered_append, List.map_append, List.sum_append]

theorem failed_append (calls more : List Call) :
    Failed (calls ++ more) ↔ Failed calls ∨ Failed more := by
  simp only [Failed, List.mem_append, or_and_right, exists_or]

theorem failed_error (given left : Bytes) (error : IoError) :
    Failed [⟨given, .error error, left⟩] := ⟨_, List.mem_cons_self, error, rfl⟩

theorem not_failed_ok (given left : Bytes) (more : Bool) : ¬ Failed [⟨given, .ok more, left⟩] := by
  rintro ⟨call, member, error, wrong⟩
  rw [List.mem_singleton.mp member] at wrong
  cases wrong

/-- The books after some calls on a new reader for `size` bytes. Beyond the frames that
were delivered only the call that failed took something: the frame that overran, or what
was left of a stream that broke off inside one. -/
structure Accounts (size : Nat) (w : Agent σ) (calls : List Call) (reader' : PackageReader)
    (w' : Agent σ) : Prop where
  total : deliveredBytes calls + reader'.remaining = size
  failed : reader'.failed = true ↔ Failed calls
  consumed : ∃ spent, w.recv.bytes = (delivered calls).flatMap frame ++ (spent ++ w'.recv.bytes) ∧
    (¬ Failed calls → spent = []) ∧
    (Failed calls → (∃ body, spent = frame body ∧ reader'.remaining < body.length) ∨
      (splitFrame spent = none ∧ w'.recv.bytes = []))

namespace Accounts

variable {size : Nat} {w w' w'' : Agent σ} {calls : List Call} {call : Call}
  {reader' reader'' : PackageReader}

theorem new (size : Nat) (w : Agent σ) : Accounts size w [] (.new size) w := by
  have none : ¬ Failed [] := by
    rintro ⟨call, member, -⟩
    cases member
  refine ⟨Nat.zero_add size, ⟨nofun, fun some => absurd some none⟩, [], rfl, fun _ => rfl, ?_⟩
  intro some
  exact absurd some none

/-- What one call keeps: every case of it is entered in the books. -/
theorem step (books : Accounts size w calls reader' w')
    (effect : Effect reader' w' call reader'' w'') :
    Accounts size w (calls ++ [call]) reader'' w'' := by
  obtain ⟨total, failed, spent, bytes, nothing, something⟩ := books
  cases effect with
  | refused buf broken =>
      have before := failed.mp broken
      refine ⟨?_, ?_, spent, ?_, ?_, ?_⟩
      · rw [deliveredBytes_append]
        exact total
      · rw [failed_append]
        exact ⟨fun _ => .inl before, fun _ => broken⟩
      · rw [delivered_append]
        simpa [delivered] using bytes
      · intro sound
        exact absurd ((failed_append _ _).mpr (.inl before)) sound
      · intro _
        exact something before
  | finished buf sound complete =>
      have before : ¬ Failed calls := by
        intro some
        rw [failed.mpr some] at sound
        cases sound
      have still : ¬ Failed (calls ++ [⟨buf, .ok false, []⟩]) := by
        rw [failed_append]
        exact not_or.mpr ⟨before, not_failed_ok _ _ _⟩
      refine ⟨?_, ?_, spent, ?_, fun _ => nothing before, fun some => absurd some still⟩
      · rw [deliveredBytes_append]
        exact total
      · exact ⟨fun some => absurd (failed.mp some) before, fun some => absurd some still⟩
      · rw [delivered_append]
        simpa [delivered] using bytes
  | delivered buf body w'' sound expected within whole fin =>
      have before : ¬ Failed calls := by
        intro some
        rw [failed.mpr some] at sound
        cases sound
      have still : ¬ Failed (calls ++ [⟨buf, .ok true, body⟩]) := by
        rw [failed_append]
        exact not_or.mpr ⟨before, not_failed_ok _ _ _⟩
      refine ⟨?_, ?_, [], ?_, fun _ => rfl, fun some => absurd some still⟩
      · have last : deliveredBytes [⟨buf, .ok true, body⟩] = body.length := by
          simp [deliveredBytes, delivered]
        rw [deliveredBytes_append, last]
        dsimp only
        omega
      · exact ⟨fun some => absurd (failed.mp some) before, fun some => absurd some still⟩
      · have last : delivered [⟨buf, .ok true, body⟩] = [body] := rfl
        rw [delivered_append, last, List.flatMap_append, List.flatMap_singleton, bytes,
          nothing before, whole, List.append_assoc]
        rfl
  | failing buf left taken error w'' sound expected whole fin few =>
      have before : ¬ Failed calls := by
        intro some
        rw [failed.mpr some] at sound
        cases sound
      have now : Failed (calls ++ [⟨buf, .error error, left⟩]) := by
        rw [failed_append]
        exact .inr (failed_error _ _ _)
      refine ⟨?_, ⟨fun _ => now, fun _ => rfl⟩, taken, ?_, fun sound => absurd now sound,
        fun _ => few⟩
      · rw [deliveredBytes_append]
        exact total
      · rw [delivered_append, bytes, nothing before, whole]
        simp [delivered]

end Accounts

/-- However many calls there were, the books balance. -/
theorem Calls.accounts {size : Nat} {w w' : Agent σ} {calls : List Call} {reader' : PackageReader}
    (ran : Calls (.new size) w calls reader' w') : Accounts size w calls reader' w' := by
  induction ran with
  | none => exact .new size w
  | next before returns ih => exact ih.step returns.effect

/-- What the next call can do when some calls have led here. -/
structure Onward (calls : List Call) (reader' : PackageReader) (w' : Agent σ) : Prop where
  finished : ∀ buf left reader'' w'', Returns reader' w' ⟨buf, .ok false, left⟩ reader'' w'' ↔
    ¬ Failed calls ∧ reader'.remaining = 0 ∧ left = [] ∧ reader'' = reader' ∧ w'' = w'
  delivered : ∀ buf body reader'' w'', Returns reader' w' ⟨buf, .ok true, body⟩ reader'' w'' →
    w'.recv.bytes = frame body ++ w''.recv.bytes ∧ body.length ≤ reader'.remaining ∧
      reader''.remaining = reader'.remaining - body.length
  failing : ∀ buf error left reader'' w'',
    Returns reader' w' ⟨buf, .error error, left⟩ reader'' w'' →
    reader''.remaining = reader'.remaining ∧ ∃ spent, w'.recv.bytes = spent ++ w''.recv.bytes ∧
      ((∃ body, spent = frame body) ∨ splitFrame spent = none)
  refused : Failed calls → ∀ buf, Returns reader' w' ⟨buf, .error transferFailed, buf⟩ reader' w'
  waiting : ∀ buf halt w'', (reader'.nextChunkInto buf).run w' = (.error halt, w'') →
    halt = .pending ∧ w'' = w' ∧ ¬ Failed calls ∧ 0 < reader'.remaining

theorem returns_finished {reader : PackageReader} (sound : ¬ reader.failed = true)
    (complete : reader.remaining = 0) (buf : Bytes) (w : Agent σ) :
    Returns reader w ⟨buf, .ok false, []⟩ reader w := by
  unfold Returns nextChunkInto
  rw [if_neg sound, if_pos complete]
  rfl

theorem returns_refused {reader : PackageReader} (failed : reader.failed = true) (buf : Bytes)
    (w : Agent σ) : Returns reader w ⟨buf, .error transferFailed, buf⟩ reader w := by
  unfold Returns nextChunkInto
  rw [if_pos failed]
  rfl

theorem Accounts.onward {size : Nat} {w w' : Agent σ} {calls : List Call} {reader' : PackageReader}
    (books : Accounts size w calls reader' w') : Onward calls reader' w' := by
  refine ⟨?_, ?_, ?_, ?_, ?_⟩
  · intro buf left reader'' w''
    constructor
    · intro returns
      cases returns.effect with
      | finished buf sound complete =>
          refine ⟨?_, complete, rfl, rfl, rfl⟩
          intro some
          rw [books.failed.mpr some] at sound
          cases sound
    · rintro ⟨sound, complete, rfl, rfl, rfl⟩
      exact returns_finished (mt books.failed.mp sound) complete buf w''
  · intro buf body reader'' w'' returns
    cases returns.effect with
    | delivered buf body w'' sound expected within bytes fin => exact ⟨bytes, within, rfl⟩
  · intro buf error left reader'' w'' returns
    cases returns.effect with
    | refused buf failed => exact ⟨rfl, [], rfl, .inr rfl⟩
    | failing buf left spent error w'' sound expected bytes fin few =>
        refine ⟨rfl, spent, bytes, ?_⟩
        rcases few with ⟨body, whole, -⟩ | ⟨incomplete, -⟩
        · exact .inl ⟨body, whole⟩
        · exact .inr incomplete
  · intro some buf
    exact returns_refused (books.failed.mpr some) buf w'
  · intro buf halt w'' ran
    rw [run_nextChunkInto] at ran
    rcases step : reader'.nextChunk.run w' with ⟨stopped | ⟨answer, after⟩, v⟩
    · rw [step] at ran
      cases ran
      obtain ⟨rfl, rfl, awaits⟩ := nextChunk_halt step
      refine ⟨rfl, rfl, ?_, awaits.expected⟩
      intro some
      have sound := awaits.sound
      rw [books.failed.mpr some] at sound
      cases sound
    · rw [step] at ran
      cases ran

/-- To drain is to make more calls, up to one that is not a chunk. -/
def DrainsBy (size : Nat) (w : Agent σ) (calls : List Call)
    (outcome : Except (Halt HandlerError) (Except IoError Unit) × Agent σ) : Prop :=
  ∃ more reader'', Calls (.new size) w (calls ++ more) reader'' outcome.2 ∧
    match outcome.1 with
    | .ok (.ok ()) => ¬ Failed (calls ++ more) ∧ reader''.remaining = 0
    | .ok (.error _) => Failed (calls ++ more)
    | .error halt => halt = .pending ∧ ¬ Failed (calls ++ more) ∧ 0 < reader''.remaining

theorem Calls.call {reader reader' reader'' : PackageReader} {w w' w'' : Agent σ}
    {calls : List Call} {answer : ChunkAnswer} (before : Calls reader w calls reader' w')
    (ran : reader'.nextChunk.run w' = (.ok (answer, reader''), w'')) (buf : Bytes) :
    Calls reader w (calls ++ [⟨buf, answer.result, reader'.leaves buf answer⟩]) reader'' w'' := by
  refine .next before ?_
  unfold Returns
  rw [run_nextChunkInto, ran]

theorem Calls.drain {size : Nat} {w w' : Agent σ} {calls : List Call} {reader' : PackageReader}
    (ran : Calls (.new size) w calls reader' w') :
    DrainsBy size w calls (reader'.drain.run w') := by
  have start : ∃ more, Calls (.new size) w (calls ++ more) reader' w' :=
    ⟨[], by rw [List.append_nil]; exact ran⟩
  refine Act.loop_rule drainRound_decreasing
    (fun reader'' w'' => ∃ more, Calls (.new size) w (calls ++ more) reader'' w'')
    (DrainsBy size w calls) ?_ ?_ ?_ reader' w' start
  · rintro r u again u' ⟨more, before⟩ round
    simp only [drainRound, Act.run_bind] at round
    rcases step : r.nextChunk.run u with ⟨halt | ⟨answer, r'⟩, u₁⟩
    · rw [step] at round
      cases round
    · rw [step] at round
      cases answer with
      | chunk body =>
          cases round
          have after := before.call step []
          rw [List.append_assoc] at after
          exact ⟨_, after⟩
      | finished => cases round
      | failed error seen => cases round
  · rintro r u value u' ⟨more, before⟩ round
    simp only [drainRound, Act.run_bind] at round
    rcases step : r.nextChunk.run u with ⟨halt | ⟨answer, r'⟩, u₁⟩
    · rw [step] at round
      cases round
    · rw [step] at round
      have after := before.call step []
      rw [List.append_assoc] at after
      cases answer with
      | chunk body => cases round
      | finished =>
          cases round
          obtain ⟨added, taken⟩ := nextChunk_step step
          cases taken with
          | finished sound complete =>
              refine ⟨_, r, after, ?_, complete⟩
              intro some
              rw [after.accounts.failed.mpr some] at sound
              cases sound
      | failed error seen =>
          cases round
          refine ⟨_, r', after, ?_⟩
          rw [← List.append_assoc, failed_append]
          exact .inr (failed_error _ _ _)
  · rintro r u halt u' ⟨more, before⟩ round
    simp only [drainRound, Act.run_bind] at round
    rcases step : r.nextChunk.run u with ⟨stopped | ⟨answer, r'⟩, u₁⟩
    · rw [step] at round
      cases round
      obtain ⟨rfl, rfl, awaits⟩ := nextChunk_halt step
      refine ⟨more, r, before, rfl, ?_, awaits.expected⟩
      intro some
      have sound := awaits.sound
      rw [before.accounts.failed.mpr some] at sound
      cases sound
    · rw [step] at round
      cases answer <;> cases round

/-- The reader's accounts. For every declared size and every stream, after every sequence of
calls on a new reader: what was delivered and what remains are the size, the stream was read
by the delivered frames and at most one more, by the call that failed, and the next call
keeps to this; draining is more such calls. -/
theorem reader_accounting (size : UInt64) {w w' : Agent σ} {calls : List Call}
    {reader' : PackageReader} (ran : Calls (.new size.toNat) w calls reader' w') :
    Accounts size.toNat w calls reader' w' ∧ Onward calls reader' w' ∧
      DrainsBy size.toNat w calls (reader'.drain.run w') :=
  ⟨ran.accounts, ran.accounts.onward, ran.drain⟩

/-- A chunk, then one that overruns, then a call that is refused: one byte came, two remain,
and the frame behind is still on the stream. -/
theorem reader_accounting_overrun :
    ∃ calls reader' w', Calls (.new 3) (facingFrames [[7], [8, 9, 10], [11]]) calls reader' w' ∧
      delivered calls = [[7]] ∧ Failed calls ∧ reader'.remaining = 2 ∧
      w'.recv.bytes = frame [11] ∧
      Accounts 3 (facingFrames [[7], [8, 9, 10], [11]]) calls reader' w' ∧
      Onward calls reader' w' := by
  have first : Returns (.new 3) (facingFrames [[7], [8, 9, 10], [11]]) ⟨[], .ok true, [7]⟩
      ⟨3, 2, false⟩ { facingFrames [[8, 9, 10], [11]] with log := [.chunk 3 [7]] } := rfl
  have second : Returns ⟨3, 2, false⟩ { facingFrames [[8, 9, 10], [11]] with log := [.chunk 3 [7]] }
      ⟨[7], .error (chunkOverrun 3 2), [8, 9, 10]⟩ ⟨3, 2, true⟩
      { facingFrames [[11]] with log := [.chunk 3 [7], .chunk 2 [8, 9, 10]] } := rfl
  have ran := (Calls.none.next first).next second |>.next (returns_refused rfl [5] _)
  obtain ⟨books, onward, -⟩ := reader_accounting 3 ran
  exact ⟨_, _, _, ran, rfl, ⟨_, List.mem_cons_of_mem _ List.mem_cons_self, _, rfl⟩, rfl, rfl,
    books, onward⟩

end PackageReader

end ReviewProtocol
