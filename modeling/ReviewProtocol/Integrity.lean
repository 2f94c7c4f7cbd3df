import ReviewProtocol.Server.Fidelity

set_option autoImplicit false

/- A package on its way: at every moment of every interleaving, and wherever the stream is
cut off, what the agent's handler was given is what the manager has read, from the first
byte on. -/
namespace ReviewProtocol

open Framing (Bytes Act RecvStream SendStream Halt Party Duplex frame)
open Framing.Act (Turn emit)
open Server (Manager ManagerAct ManagerEvent ApiError Opening sentChunks sourceBytes)

variable {σ τ α : Type}

/-- The payload frames of a log. -/
def payload (log : List AgentEvent) : List Bytes := (chunks log).map Prod.snd

@[simp] theorem payload_append (first second : List AgentEvent) :
    payload (first ++ second) = payload first ++ payload second := by
  simp only [payload, chunks_append, List.map_append]

/-- Chunks of a package of this size, or of the front of one. -/
structure Sendable (size : Nat) (sent : List Bytes) : Prop where
  nonempty : ∀ chunk ∈ sent, chunk ≠ []
  small : ∀ chunk ∈ sent, chunk.length < Framing.frameLimit
  total : sent.flatten.length ≤ size

theorem Sendable.nil (size : Nat) : Sendable size [] :=
  ⟨fun _ mem => (List.not_mem_nil mem).elim, fun _ mem => (List.not_mem_nil mem).elim,
    Nat.zero_le size⟩

/-! ### The agent's reads -/

/-- Payload, or the handler's return. -/
def AgentEvent.IsInstalling : AgentEvent → Prop
  | .chunk _ _ => True
  | .chunkLost _ => True
  | .installed _ => True
  | _ => False

/-- A reader in front of the chunks that were not read yet, as far as they have arrived. -/
structure Drawing (size : Nat) (sent : List Bytes) (before : List AgentEvent) (stream : Bytes)
    (reader : PackageReader) (w : Agent σ) : Prop where
  reads : ∃ added left, w.log = before ++ added ∧ (∀ event ∈ added, event.IsInstalling) ∧
    NoOverrun added ∧ sent = payload added ++ left ∧
    (payload added).flatten.length + reader.remaining = size ∧
    w.recv.bytes <+: left.flatMap frame ∧
    (reader.failed = false → stream = (payload added).flatMap frame ++ w.recv.bytes)
  broken : reader.failed = true → w.recv.bytes = [] ∧ w.recv.fin ≠ none

section reader

variable {size : Nat} {sent : List Bytes} {before : List AgentEvent} {stream : Bytes}
  {reader : PackageReader} {w : Agent σ}

theorem Drawing.new (arrived : w.recv.bytes <+: sent.flatMap frame) :
    Drawing size sent w.log w.recv.bytes (.new size) w := by
  refine ⟨⟨[], sent, (List.append_nil _).symm, ?_, clean_nil.1, rfl, Nat.zero_add size, arrived,
    fun _ => rfl⟩, ?_⟩
  · intro event mem
    cases mem
  · intro failed
    cases failed

/-- Payload that was read is the body of a frame. -/
theorem nextChunk_fits {answer : ChunkAnswer} {reader' : PackageReader} {w' : Agent σ}
    (ran : reader.nextChunk.run w = (.ok (answer, reader'), w')) {remaining : Nat} {body : Bytes}
    (logged : w'.log = w.log ++ [.chunk remaining body]) : body.length < Framing.frameLimit := by
  have unread : w.log ≠ w.log ++ [.chunk remaining body] := by
    intro same
    have length := congrArg List.length same
    rw [List.length_append, List.length_singleton] at length
    omega
  unfold PackageReader.nextChunk at ran
  split at ran
  · cases ran
    exact absurd logged unread
  · split at ran
    · cases ran
      exact absurd logged unread
    · simp only [PackageReader.readChunk, Act.run_bind] at ran
      rcases Act.run_recv_cases (ε := HandlerError) w with
        ⟨found, rest, -, fits, read⟩ | ⟨cause, -, read⟩ | ⟨-, read⟩
      · have same (later : w'.log = w.log ++ [.chunk reader.remaining found]) : found = body := by
          have event := List.append_cancel_left (later.symm.trans logged)
          cases event
          rfl
        rw [read] at ran
        simp only [Act.andThen_ok, Act.run_bind, emit] at ran
        split at ran
        · cases ran
          rw [← same rfl]
          exact fits
        · cases ran
          rw [← same rfl]
          exact fits
      · rw [read] at ran
        cases ran
        cases List.append_cancel_left logged
      · rw [read] at ran
        cases ran

/-- The chunks are read one after the other; none is larger than what is expected. -/
theorem Drawing.next (sendable : Sendable size sent)
    (drawing : Drawing size sent before stream reader w)
    {answer : ChunkAnswer} {reader' : PackageReader} {w' : Agent σ}
    (ran : reader.nextChunk.run w = (.ok (answer, reader'), w')) :
    Drawing size sent before stream reader' w' := by
  obtain ⟨seen, left, log, payloads, honest, whole, count, arrived, taken⟩ := drawing.reads
  obtain ⟨added, step⟩ := PackageReader.nextChunk_step ran
  -- The next frame is the next chunk.
  have next {body rest : Bytes} (bytes : w.recv.bytes = frame body ++ rest)
      (fits : body.length < Framing.frameLimit) :
      ∃ later, left = body :: later ∧ rest <+: later.flatMap frame ∧
        body.length ≤ reader.remaining := by
    rw [bytes] at arrived
    cases left with
    | nil =>
        have length := congrArg List.length (List.prefix_nil.mp arrived)
        rw [List.length_append, Framing.length_frame, List.length_nil] at length
        omega
    | cons chunk later =>
        have mem : chunk ∈ sent := by
          rw [whole]
          exact List.mem_append_right _ List.mem_cons_self
        obtain ⟨rfl, after⟩ := Framing.frame_prefix arrived fits (sendable.small chunk mem)
        refine ⟨later, rfl, after, ?_⟩
        have total := sendable.total
        rw [whole, List.flatten_append, List.length_append, List.flatten_cons,
          List.length_append] at total
        omega
  cases step with
  | alreadyFailed failed => exact drawing
  | finished sound complete => exact drawing
  | chunk body rest sound expected within bytes fits =>
      obtain ⟨later, rfl, after, -⟩ := next bytes fits
      have one : payload [.chunk reader.remaining body] = [body] := rfl
      refine ⟨⟨seen ++ [.chunk reader.remaining body], later, ?_, ?_, ?_, ?_, ?_, after, ?_⟩, ?_⟩
      · rw [log, List.append_assoc]
      · intro event mem
        rcases List.mem_append.mp mem with mem | mem
        · exact payloads event mem
        · rw [List.mem_singleton.mp mem]
          trivial
      · refine (noOverrun_append _ _).mpr ⟨honest, ?_⟩
        intro chunk mem
        rw [List.mem_singleton.mp mem]
        exact within
      · rw [payload_append, one, List.append_assoc]
        exact whole
      · rw [payload_append, one, List.flatten_append, List.length_append, List.flatten_singleton]
        dsimp only
        omega
      · intro _
        rw [taken sound, bytes, payload_append, one, List.flatMap_append, List.flatMap_singleton,
          List.append_assoc]
      · intro failed
        rw [sound] at failed
        cases failed
  | overrun body rest sound expected tooLong bytes =>
      obtain ⟨-, -, -, within⟩ := next bytes (nextChunk_fits ran rfl)
      omega
  | lost cause sound expected fin =>
      refine ⟨⟨seen ++ [.chunkLost cause], left, ?_, ?_, ?_, ?_, ?_, List.nil_prefix, ?_⟩, ?_⟩
      · rw [log, List.append_assoc]
      · intro event mem
        rcases List.mem_append.mp mem with mem | mem
        · exact payloads event mem
        · rw [List.mem_singleton.mp mem]
          trivial
      · refine (noOverrun_append _ _).mpr ⟨honest, ?_⟩
        intro chunk mem
        cases mem
      · rw [payload_append, whole]
        exact congrArg (· ++ left) (List.append_nil _).symm
      · have none : payload [.chunkLost cause] = [] := rfl
        rw [payload_append, none, List.append_nil]
        exact count
      · intro sound
        cases sound
      · intro _
        refine ⟨rfl, ?_⟩
        rw [fin]
        exact Option.some_ne_none cause

theorem Drawing.installed (drawing : Drawing size sent before stream reader w) (state : σ)
    (result : Except String NodePackageResponse) :
    Drawing size sent before stream reader
      { w with state, log := w.log ++ [.installed result] } := by
  obtain ⟨⟨added, left, log, payloads, honest, whole, count, arrived, taken⟩, broken⟩ := drawing
  have none : payload [.installed result] = [] := rfl
  refine ⟨⟨added ++ [.installed result], left, ?_, ?_, ?_, ?_, ?_, arrived, ?_⟩, broken⟩
  · dsimp only
    rw [log, List.append_assoc]
  · intro event mem
    rcases List.mem_append.mp mem with mem | mem
    · exact payloads event mem
    · rw [List.mem_singleton.mp mem]
      trivial
  · refine (noOverrun_append _ _).mpr ⟨honest, ?_⟩
    intro chunk mem
    cases mem
  · rw [payload_append, none, List.append_nil]
    exact whole
  · rw [payload_append, none, List.append_nil]
    exact count
  · rw [payload_append, none, List.append_nil]
    exact taken

/-- Whatever an install body does, it reads what was sent. -/
theorem InstallProg.run_drawing {β : Type} (prog : InstallProg β) (sendable : Sendable size sent)
    (drawing : Drawing size sent before stream reader w) :
    ∃ reader', Drawing size sent before stream reader' ((prog.run reader).run w).2 ∧
      ∀ value last, ((prog.run reader).run w).1 = .ok (value, last) → last = reader' := by
  induction prog generalizing reader w with
  | ret value =>
      refine ⟨reader, drawing, ?_⟩
      intro value last same
      cases same
      rfl
  | nextChunk resume ih =>
      simp only [InstallProg.run, Act.run_bind]
      rcases step : reader.nextChunk.run w with ⟨_ | ⟨answer, middle⟩, w₁⟩
      · obtain ⟨-, rfl, -⟩ := PackageReader.nextChunk_halt step
        refine ⟨reader, drawing, ?_⟩
        intro value last same
        cases same
      · exact ih answer (drawing.next sendable step)

/-- So does the drain, and it ends with the package whole or the stream lost. -/
theorem Drawing.drain (sendable : Sendable size sent)
    (drawing : Drawing size sent before stream reader w) :
    ∃ reader', Drawing size sent before stream reader' (reader.drain.run w).2 ∧
      ((reader.drain.run w).1 = .ok (.ok ()) → reader'.failed = false ∧ reader'.remaining = 0) ∧
      ∀ error, (reader.drain.run w).1 = .ok (.error error) → reader'.failed = true := by
  refine Act.loop_rule PackageReader.drainRound_decreasing
    (fun r v => Drawing size sent before stream r v)
    (fun outcome => ∃ reader', Drawing size sent before stream reader' outcome.2 ∧
      (outcome.1 = .ok (.ok ()) → reader'.failed = false ∧ reader'.remaining = 0) ∧
      ∀ error, outcome.1 = .ok (.error error) → reader'.failed = true) ?_ ?_ ?_ reader w drawing
  · intro r v again v' drawing ran
    simp only [PackageReader.drainRound, Act.run_bind] at ran
    rcases step : r.nextChunk.run v with ⟨_ | ⟨answer, r'⟩, v₁⟩
    · rw [step] at ran
      cases ran
    · rw [step] at ran
      cases answer with
      | chunk body =>
          cases ran
          exact drawing.next sendable step
      | finished => cases ran
      | failed error seen => cases ran
  · intro r v value v' drawing ran
    simp only [PackageReader.drainRound, Act.run_bind] at ran
    rcases step : r.nextChunk.run v with ⟨_ | ⟨answer, r'⟩, v₁⟩
    · rw [step] at ran
      cases ran
    · rw [step] at ran
      obtain ⟨added, taken⟩ := PackageReader.nextChunk_step step
      cases answer with
      | chunk body => cases ran
      | finished =>
          cases ran
          refine ⟨_, drawing.next sendable step, ?_, ?_⟩
          · intro _
            cases taken with
            | finished sound complete => exact ⟨sound, complete⟩
          · intro error same
            cases same
      | failed error seen =>
          cases ran
          refine ⟨_, drawing.next sendable step, ?_, ?_⟩
          · intro same
            cases same
          · intro other same
            cases taken with
            | alreadyFailed failed => exact failed
            | overrun body rest sound expected tooLong bytes => rfl
            | lost cause sound expected fin => rfl
  · intro r v halt v' drawing ran
    simp only [PackageReader.drainRound, Act.run_bind] at ran
    rcases step : r.nextChunk.run v with ⟨_ | ⟨answer, r'⟩, v₁⟩
    · rw [step] at ran
      cases ran
      obtain ⟨-, rfl, -⟩ := PackageReader.nextChunk_halt step
      refine ⟨r, drawing, ?_, ?_⟩
      · intro same
        cases same
      · intro error same
        cases same
    · rw [step] at ran
      cases answer with
      | chunk body => cases ran
      | finished => cases ran
      | failed error seen => cases ran

/-- A finished transfer leaves nothing on the stream. -/
theorem Drawing.finished (sendable : Sendable size sent)
    (drawing : Drawing size sent before stream reader w)
    (settled : (reader.failed = false ∧ reader.remaining = 0) ∨ reader.failed = true) :
    w.recv.bytes = [] := by
  rcases settled with ⟨-, empty⟩ | failed
  · obtain ⟨added, left, -, -, -, whole, count, arrived, -⟩ := drawing.reads
    have total := sendable.total
    rw [whole, List.flatten_append, List.length_append] at total
    cases left with
    | nil => exact List.prefix_nil.mp arrived
    | cons chunk later =>
        have mem : chunk ∈ sent := by
          rw [whole]
          exact List.mem_append_right _ List.mem_cons_self
        have positive := List.length_pos_iff.mpr (sendable.nonempty chunk mem)
        rw [List.flatten_cons, List.length_append] at total
        omega
  · exact (drawing.broken failed).1

end reader

/-- What the agent does of an install: it reads what was sent, calls its handler for this
request only, and answers with the whole package or because the stream was lost. -/
structure Drew (size : Nat) (sent : List Bytes) (req : NodePackageRequest) (w : Agent σ)
    (added : List AgentEvent) (w' : Agent σ) : Prop where
  log : w'.log = w.log ++ added
  honest : NoOverrun added
  read : payload added <+: sent
  called : ∀ other, .called (.nodePackageInstall other) ∈ added → other = req
  answered : ∀ result, .replied .nodePackageResponse result ∈ added →
    ((payload added).flatten.length = size ∧ w.recv.bytes = (payload added).flatMap frame) ∨
      w.recv.fin ≠ none ∧ ∃ text, result = .error text

section install

variable {size : Nat} {sent : List Bytes} {handler : NodeHandler σ} {req : NodePackageRequest}
  {w : Agent σ}

theorem terminal_lost (result : Except String NodePackageResponse) (error : IoError) :
    ∃ text, terminal result (.error error) = .error text := by
  cases result with
  | ok response => exact ⟨_, rfl⟩
  | error text => exact ⟨text, rfl⟩

theorem receivePackage_drawing (handler : NodeHandler σ) (req : NodePackageRequest)
    (sendable : Sendable size sent)
    (arrived : w.recv.bytes <+: sent.flatMap frame) :
    ∃ reader, Drawing size sent (w.log ++ [.called (.nodePackageInstall req)]) w.recv.bytes reader
        ((receivePackage handler req size).run w).2 ∧
      ∀ result, ((receivePackage handler req size).run w).1 = .ok result →
        (reader.failed = false ∧ reader.remaining = 0) ∨
          (reader.failed = true ∧ ∃ text, result = .error text) := by
  let begun : Agent σ := { w with log := w.log ++ [.called (.nodePackageInstall req)] }
  have unfolded : (receivePackage handler req size).run w =
      Act.andThen (((handler.nodePackageInstall req w.state).run (.new size)).run begun)
        fun out => concludePackage out.1.1 out.1.2 out.2 := rfl
  have begins : Drawing size sent begun.log begun.recv.bytes (.new size) begun := .new arrived
  obtain ⟨reader, drawing, same⟩ :=
    (handler.nodePackageInstall req w.state).run_drawing sendable begins
  rw [unfolded]
  rcases body : ((handler.nodePackageInstall req w.state).run (.new size)).run begun with
    ⟨halt | ⟨⟨result, state⟩, last⟩, w₁⟩
  · rw [body] at drawing
    refine ⟨reader, drawing, ?_⟩
    intro result success
    cases success
  · rw [body] at drawing same
    obtain rfl := same _ _ rfl
    have resumed : (concludePackage result state last).run w₁ =
        Act.andThen (last.drain.run { w₁ with state, log := w₁.log ++ [.installed result] })
          fun drained => pure (terminal result drained) := rfl
    obtain ⟨reader', drained, whole, broken⟩ := (drawing.installed state result).drain sendable
    rw [Act.andThen_ok, resumed]
    rcases out : last.drain.run { w₁ with state, log := w₁.log ++ [.installed result] } with
      ⟨halt | outcome, w₂⟩
    · rw [out] at drained
      refine ⟨reader', drained, ?_⟩
      intro other success
      cases success
    · rw [out] at drained whole broken
      refine ⟨reader', drained, ?_⟩
      intro other success
      cases success
      cases outcome with
      | ok done => exact .inl (whole rfl)
      | error error => exact .inr ⟨broken error rfl, terminal_lost result error⟩

/-- Events that are neither payload, nor a call of the handler, nor its answer. -/
theorem drew_nothing {added : List AgentEvent} {w' : Agent σ} (log : w'.log = w.log ++ added)
    (others : ∀ event ∈ added, ∃ call : NodeCall, event = .called (.node call) ∨
      ∃ verdict, event = .replied .installPreflight verdict) : Drew size sent req w added w' := by
  have none : chunks added = [] := by
    refine List.filterMap_eq_nil_iff.mpr fun event mem => ?_
    obtain ⟨call, rfl | ⟨verdict, rfl⟩⟩ := others event mem <;> rfl
  refine ⟨log, ?_, ?_, ?_, ?_⟩
  · intro chunk mem
    rw [none] at mem
    cases mem
  · rw [payload, none]
    exact List.nil_prefix
  · intro other mem
    obtain ⟨call, same | ⟨verdict, same⟩⟩ := others _ mem <;> cases same
  · intro result mem
    obtain ⟨call, same | ⟨verdict, same⟩⟩ := others _ mem <;> cases same

/-- An install that got to its handler, with its answer if there is one. -/
theorem Drawing.drew {verdict : Except String InstallPreflight} {reader : PackageReader}
    {v w' : Agent σ}
    (drawing : Drawing size sent
      (w.log ++ (opening req verdict ++ [.called (.nodePackageInstall req)])) w.recv.bytes reader v)
    {tail : List AgentEvent} (log : w'.log = v.log ++ tail)
    (answers : ∀ event ∈ tail, ∃ result, event = .replied .nodePackageResponse result ∧
      v.recv.bytes = [] ∧ ((reader.failed = false ∧ reader.remaining = 0) ∨
        w.recv.fin ≠ none ∧ ∃ text, result = .error text)) :
    ∃ added, Drew size sent req w added w' := by
  obtain ⟨added, left, logged, installing, honest, whole, count, -, taken⟩ := drawing.reads
  let front := opening req verdict ++ [AgentEvent.called (.nodePackageInstall req)]
  have silent : chunks tail = [] := by
    refine List.filterMap_eq_nil_iff.mpr fun event mem => ?_
    obtain ⟨result, rfl, -⟩ := answers event mem
    rfl
  have read : chunks (front ++ added ++ tail) = chunks added := by
    rw [chunks_append, chunks_append, silent, List.append_nil]
    rfl
  have drawn : payload (front ++ added ++ tail) = payload added := congrArg (List.map _) read
  have parts {event : AgentEvent} (mem : event ∈ front ++ added ++ tail) :
      event ∈ front ∨ event ∈ added ∨ event ∈ tail := by
    rw [List.append_assoc] at mem
    rcases List.mem_append.mp mem with mem | mem
    · exact .inl mem
    · exact .inr (List.mem_append.mp mem)
  refine ⟨front ++ added ++ tail, ?_, ?_, ?_, ?_, ?_⟩
  · rw [log, logged, List.append_assoc w.log, List.append_assoc]
  · intro chunk mem
    rw [read] at mem
    exact honest chunk mem
  · rw [drawn, whole]
    exact List.prefix_append _ _
  · intro other mem
    rcases parts mem with mem | mem | mem
    · simp only [front, opening, List.cons_append, List.nil_append, List.mem_cons,
        List.not_mem_nil, or_false, AgentEvent.called.injEq, AgentCall.nodePackageInstall.injEq,
        reduceCtorEq, false_or] at mem
      exact mem
    · cases installing _ mem
    · obtain ⟨result, same, -⟩ := answers _ mem
      cases same
  · intro result mem
    rw [drawn]
    rcases parts mem with mem | mem | mem
    · simp [front, opening] at mem
    · cases installing _ mem
    · obtain ⟨other, same, empty, settled⟩ := answers _ mem
      cases same
      rcases settled with ⟨sound, finished⟩ | lost
      · left
        rw [finished] at count
        refine ⟨count, ?_⟩
        rw [taken sound, empty, List.append_nil]
      · exact .inr lost

/-- The agent's part of an install, against chunks of the right sizes. -/
theorem dispatchInstall_drew (wire : Wire) (sendable : Sendable size sent)
    (arrived : w.recv.bytes <+: sent.flatMap frame)
    (unsent : verdictOf handler req w.state ≠ .ok .proceed → sent = []) :
    ∃ added, Drew size sent req w added ((dispatchInstall wire handler req size).run w).2 ∧
      (((dispatchInstall wire handler req size).run w).1 = .ok () →
        ((dispatchInstall wire handler req size).run w).2.recv.bytes = []) := by
  let asked : Agent σ :=
    { w with
      state := (handler.call (.nodePackageInstallPreflight req) w.state).2
      log := w.log ++ [.called (.node (.nodePackageInstallPreflight req))] }
  have unfolded : (dispatchInstall wire handler req size).run w =
      Act.andThen ((sendResponse wire .installPreflight (verdictOf handler req w.state)).run asked)
        fun _ => if verdictOf handler req w.state = .ok .proceed then
          (receivePackage handler req size >>= sendResponse wire .nodePackageResponse) else
            pure () := rfl
  rw [unfolded]
  rcases run_sendResponse wire .installPreflight (verdictOf handler req w.state) asked with
    wrote | ⟨error, lost⟩
  · rw [wrote, Act.andThen_ok]
    let judged := ReviewProtocol.wrote asked .installPreflight (verdictOf handler req w.state)
    have opened : judged.log = w.log ++ opening req (verdictOf handler req w.state) :=
      List.append_assoc _ _ _
    by_cases proceed : verdictOf handler req w.state = .ok .proceed
    · rw [if_pos proceed, Act.run_bind]
      have arrives : judged.recv.bytes <+: sent.flatMap frame := arrived
      obtain ⟨reader, drawing, settled⟩ :=
        receivePackage_drawing handler req sendable arrives
      have progress := (receivePackage handler req size).progress judged
      rcases out : (receivePackage handler req size).run judged with ⟨halt | result, v⟩
      · rw [out, opened, List.append_assoc] at drawing
        obtain ⟨added, drew⟩ := drawing.drew (List.append_nil _).symm
          fun _ mem => (List.not_mem_nil mem).elim
        refine ⟨added, drew, ?_⟩
        intro success
        cases success
      · rw [out, opened, List.append_assoc] at drawing
        rw [out] at settled progress
        have fin : v.recv.fin = w.recv.fin := progress.fin
        have ends := settled result rfl
        have empty : v.recv.bytes = [] := drawing.finished sendable (ends.imp_right And.left)
        rw [Act.andThen_ok]
        rcases run_sendResponse wire .nodePackageResponse result v with sent' | ⟨error, lost⟩
        · rw [sent']
          have answers : ∀ event ∈ [AgentEvent.replied .nodePackageResponse result],
              ∃ other, event = .replied .nodePackageResponse other ∧ v.recv.bytes = [] ∧
                ((reader.failed = false ∧ reader.remaining = 0) ∨
                  w.recv.fin ≠ none ∧ ∃ text, other = .error text) := by
            intro event mem
            refine ⟨result, List.mem_singleton.mp mem, empty, ?_⟩
            rcases ends with whole | ⟨failed, lost⟩
            · exact .inl whole
            · rw [← fin]
              exact .inr ⟨(drawing.broken failed).2, lost⟩
          have log : (ReviewProtocol.wrote v .nodePackageResponse result).log =
              v.log ++ [.replied .nodePackageResponse result] := rfl
          obtain ⟨added, drew⟩ := drawing.drew log answers
          exact ⟨added, drew, fun _ => empty⟩
        · rw [lost]
          have log : (lostWrite v).log = v.log ++ [] := (List.append_nil _).symm
          obtain ⟨added, drew⟩ := drawing.drew log fun _ mem => (List.not_mem_nil mem).elim
          refine ⟨added, drew, ?_⟩
          intro success
          cases success
    · rw [if_neg proceed]
      rw [unsent proceed] at arrived
      refine ⟨opening req (verdictOf handler req w.state), drew_nothing opened ?_, ?_⟩
      · intro event mem
        simp only [opening, List.mem_cons, List.not_mem_nil, or_false] at mem
        rcases mem with rfl | rfl
        · exact ⟨_, .inl rfl⟩
        · exact ⟨.nodePackageInstallPreflight req, .inr ⟨_, rfl⟩⟩
      · intro _
        exact List.prefix_nil.mp arrived
  · rw [lost]
    refine ⟨[.called (.node (.nodePackageInstallPreflight req))], drew_nothing rfl ?_, ?_⟩
    · intro event mem
      exact ⟨_, .inl (List.mem_singleton.mp mem)⟩
    · intro success
      cases success

end install

/-- What an agent to which a package is sent has made of it by now. -/
structure Receiving (size : Nat) (sent : List Bytes) (req : NodePackageRequest) (request : Bytes)
    (stream : RecvStream IoError) (log : List AgentEvent) : Prop where
  honest : NoOverrun log
  read : payload log <+: sent
  called : ∀ other, .called (.nodePackageInstall other) ∈ log → other = req
  answered : ∀ result, .replied .nodePackageResponse result ∈ log →
    ((payload log).flatten.length = size ∧
      stream.bytes = request ++ (payload log).flatMap frame) ∨
      stream.fin ≠ none ∧ ∃ text, result = .error text
  begun : log ≠ [] → request <+: stream.bytes

/-- An agent that gets one install and its package reads nothing else. -/
theorem Loop.receiving (wire : Wire) (loop : Loop σ) {fields : Install} {w : Agent σ}
    {sent : List Bytes} (fresh : w.log = [])
    (lawful : wire.RoundTrips .nodePackageRequest (.install fields))
    (fits : (Server.installFrame wire (.install fields)).length < Framing.frameLimit)
    (sendable : Sendable fields.size.toNat sent)
    (arrived : w.recv.bytes <+:
      frame (Server.installFrame wire (.install fields)) ++ sent.flatMap frame)
    (unsent : verdictOf loop.nodeHandler (.install fields) w.state ≠ .ok .proceed → sent = []) :
    Receiving fields.size.toNat sent (.install fields)
      (frame (Server.installFrame wire (.install fields))) w.recv
      ((loop.run wire).run w).2.log := by
  have idle (same : ((loop.run wire).run w).2.log = w.log) :
      Receiving fields.size.toNat sent (.install fields)
        (frame (Server.installFrame wire (.install fields))) w.recv
        ((loop.run wire).run w).2.log := by
    rw [same, fresh]
    refine ⟨fun _ mem => (List.not_mem_nil mem).elim, List.nil_prefix,
      fun _ mem => (List.not_mem_nil mem).elim, fun _ mem => (List.not_mem_nil mem).elim, ?_⟩
    intro some
    exact absurd rfl some
  have serves := loop.run_eq_serve wire
  rcases serve_cases wire w with
    ⟨found, rest, code, body, bytes, foundFits, parsed, read⟩ | ⟨error, rest, -, read⟩ | ⟨-, read⟩
  · have front := arrived
    rw [bytes] at front
    obtain ⟨rfl, unread⟩ := Framing.frame_prefix front foundFits fits
    rw [Server.installFrame, Wire.splitRequest_requestFrame] at parsed
    obtain ⟨rfl, rfl⟩ := Prod.mk.inj (Except.ok.inj parsed)
    let v := atRequest w rest Client.RequestCode.nodePackage.discriminant
      (wire.encode .nodePackageRequest (.install fields))
    have begun : v.log = [.request Client.RequestCode.nodePackage.discriminant
        (wire.encode .nodePackageRequest (.install fields))] := by
      show w.log ++ [_] = _
      rw [fresh]
      rfl
    have ahead : v.recv.bytes <+: sent.flatMap frame := unread
    have refused : verdictOf loop.nodeHandler (.install fields) v.state ≠ .ok .proceed →
        sent = [] := unsent
    obtain ⟨added, drew, ends⟩ := dispatchInstall_drew wire sendable ahead refused
    have last : ((loop.run wire).run w).2.log =
        ((dispatchInstall wire loop.nodeHandler (.install fields)
          fields.size.toNat).run v).2.log := by
      rw [serves, read, loop.arms_install wire lawful]
      rcases out : (dispatchInstall wire loop.nodeHandler (.install fields)
        fields.size.toNat).run v with ⟨halt | done, v'⟩
      · rfl
      · rw [out] at ends
        rw [Act.andThen_ok, ← serves]
        have stays := loop.run_idle wire (ends rfl)
        rw [stays]
    have log := drew.log
    rw [begun] at log
    have none : chunks [AgentEvent.request Client.RequestCode.nodePackage.discriminant
        (wire.encode .nodePackageRequest (.install fields))] = [] := rfl
    have reads : chunks ((loop.run wire).run w).2.log = chunks added := by
      rw [last, log, chunks_append, none, List.nil_append]
    have drawn : payload ((loop.run wire).run w).2.log = payload added :=
      congrArg (List.map _) reads
    have later {event : AgentEvent} (other : ∀ code body, event ≠ .request code body)
        (mem : event ∈ ((loop.run wire).run w).2.log) : event ∈ added := by
      rw [last, log] at mem
      rcases List.mem_cons.mp mem with same | mem
      · exact absurd same (other _ _)
      · exact mem
    refine ⟨?_, ?_, ?_, ?_, ?_⟩
    · intro chunk mem
      rw [reads] at mem
      exact drew.honest chunk mem
    · rw [drawn]
      exact drew.read
    · intro other mem
      exact drew.called other (later (fun _ _ same => by cases same) mem)
    · intro result mem
      rw [drawn, bytes]
      rcases drew.answered result (later (fun _ _ same => by cases same) mem) with
        ⟨whole, same⟩ | lost
      · have same : rest = (payload added).flatMap frame := same
        exact .inl ⟨whole, by rw [same]⟩
      · exact .inr lost
    · intro _
      rw [bytes]
      exact List.prefix_append _ _
  · refine idle ?_
    rw [serves, read]
    rfl
  · refine idle ?_
    rw [serves, read]

/-! ### The manager's writes -/

/-- What a manager has sent of a package: chunks that a reader will take, of what its source
held, in order. -/
structure Sends (size : Nat) (source : Server.Source) (sent : List Bytes) : Prop where
  sendable : Sendable size sent
  source : sent.flatten <+: sourceBytes source

theorem sends_of_forwards {size : Nat} {w w' : Manager τ} {added : List ManagerEvent}
    (forwards : Server.Forwards w added w') (within : (sentChunks added).flatten.length ≤ size) :
    Sends size w.input (sentChunks added) := by
  refine ⟨⟨fun chunk mem => (forwards.sizes chunk mem).1, ?_, within⟩, ?_⟩
  · intro chunk mem
    have short := (forwards.sizes chunk mem).2
    unfold Server.packageChunkLen at short
    unfold Framing.frameLimit
    omega
  · rw [forwards.source]
    exact List.prefix_append _ _

/-- Streaming sends the source from the front, as long as it lasts. -/
theorem sendPackage_sends (size : Nat) (w : Manager τ) :
    ∃ added, ((Server.sendPackage size).run w).2.log = w.log ++ added ∧
      (∀ event ∈ added, event.IsTransfer) ∧ Sends size w.input (sentChunks added) := by
  -- A round that ends the streaming reads at most once more.
  have closes {v : Manager τ} {added : List ManagerEvent} (forwards : Server.Forwards w added v)
      (within : (sentChunks added).flatten.length ≤ size) (result : Except IoError Bytes) :
      v.log ++ [.read result] = w.log ++ (added ++ [.read result]) ∧
        (∀ event ∈ added ++ [.read result], event.IsTransfer) ∧
        Sends size w.input (sentChunks (added ++ [.read result])) := by
    have none : sentChunks [.read result] = [] := rfl
    refine ⟨?_, ?_, ?_⟩
    · rw [forwards.log, List.append_assoc]
    · intro event mem
      rcases List.mem_append.mp mem with mem | mem
      · exact forwards.transfer event mem
      · rw [List.mem_singleton.mp mem]
        trivial
    · rw [Server.sentChunks_append, none, List.append_nil]
      exact sends_of_forwards forwards within
  refine Act.loop_rule (Server.sendPackageRound_decreasing size)
    (fun remaining v => ∃ added, Server.Forwards w added v ∧
      (sentChunks added).flatten.length + remaining = size)
    (fun outcome => ∃ added, outcome.2.log = w.log ++ added ∧
      (∀ event ∈ added, event.IsTransfer) ∧ Sends size w.input (sentChunks added))
    ?_ ?_ ?_ size w ⟨[], Server.Forwards.refl w, Nat.zero_add size⟩
  · rintro remaining v again v' ⟨added, forwards, total⟩ ran
    rcases Server.sendPackageRound_forwards size remaining v with
      ⟨-, done⟩ | ⟨more, v₁, data, next, fits, forwards', length⟩ | ⟨_, _, _, quits, -⟩ | waits
    · rw [done] at ran
      cases ran
    · rw [next] at ran
      cases ran
      refine ⟨added ++ more, forwards.append forwards', ?_⟩
      rw [Server.sentChunks_append, List.flatten_append, List.length_append, length]
      omega
    · rw [quits] at ran
      cases ran
    · rw [waits] at ran
      cases ran
  · rintro remaining v value v' ⟨added, forwards, total⟩ ran
    rcases Server.sendPackageRound_cases size remaining v with
      ⟨-, done⟩ | ⟨-, -, waits⟩ | ⟨-, error, result, rest, -, quits⟩ |
      ⟨-, data, more, rest, -, -, -, -, ⟨-, sent⟩ | ⟨error, -, lost⟩⟩
    · rw [done] at ran
      cases ran
      exact ⟨added, forwards.log, forwards.transfer, sends_of_forwards forwards (by omega)⟩
    · rw [waits] at ran
      cases ran
    · rw [quits] at ran
      cases ran
      exact ⟨_, closes forwards (by omega) result⟩
    · rw [sent] at ran
      cases ran
    · rw [lost] at ran
      cases ran
      exact ⟨_, closes forwards (by omega) (.ok data)⟩
  · rintro remaining v halt v' ⟨added, forwards, total⟩ ran
    rcases Server.sendPackageRound_forwards size remaining v with
      ⟨-, done⟩ | ⟨_, _, _, next, -⟩ | ⟨_, _, _, quits, -⟩ | waits
    · rw [done] at ran
      cases ran
    · rw [next] at ran
      cases ran
    · rw [quits] at ran
      cases ran
    · rw [waits] at ran
      cases ran
      exact ⟨added, forwards.log, forwards.transfer, sends_of_forwards forwards (by omega)⟩

/-- What a manager that installs has written by now. -/
inductive Installing (wire : Wire) (fields : Install) (w : Manager τ) (written : Bytes)
    (sent : List Bytes) : Prop where
  | unsent (silent : written = []) (none : sent = [])
  | requested (fits : (Server.installFrame wire (.install fields)).length < Framing.frameLimit)
      (written : written = frame (Server.installFrame wire (.install fields))) (none : sent = [])
  | streaming (fits : (Server.installFrame wire (.install fields)).length < Framing.frameLimit)
      (written : written =
        frame (Server.installFrame wire (.install fields)) ++ sent.flatMap frame)
      (sends : Sends fields.size.toNat w.input sent) (body rest : Bytes)
      (answer : Server.NextResponse wire .installPreflight (.ok .proceed) w.recv.bytes body rest)

/-- Behind a `Proceed` there is the package, and after it no other frame. -/
theorem streamPackage_log (wire : Wire) (size : UInt64) (w : Manager τ) :
    ∃ added more, ((Server.streamPackage wire size).run w).2.log = w.log ++ (added ++ more) ∧
      (∀ event ∈ added, event.IsTransfer) ∧ Sends size.toNat w.input (sentChunks added) ∧
      ∀ event ∈ more, event = .reset ∨ ∃ ty result, event = .received ty result := by
  obtain ⟨added, log, transfer, sends⟩ := sendPackage_sends size.toNat w
  have ends {w' : Manager τ} (later : List ManagerEvent) (logged : w'.log = w.log ++ added ++ later)
      (others : ∀ event ∈ later, event = .reset ∨ ∃ ty result, event = .received ty result) :
      ∃ added more, w'.log = w.log ++ (added ++ more) ∧ (∀ event ∈ added, event.IsTransfer) ∧
        Sends size.toNat w.input (sentChunks added) ∧
        ∀ event ∈ more, event = .reset ∨ ∃ ty result, event = .received ty result :=
    ⟨added, later, by rw [logged, List.append_assoc], transfer, sends, others⟩
  unfold Server.streamPackage
  rw [Act.run_bind]
  rcases sent : (Server.sendPackage size.toNat).run w with ⟨halt | outcome, v⟩
  · rw [sent] at log
    exact ends [] (log.trans (List.append_nil _).symm) fun _ mem => (List.not_mem_nil mem).elim
  · rw [sent] at log
    have log : v.log = w.log ++ added := log
    rw [Act.andThen_ok]
    cases outcome with
    | error error =>
        refine ends [.reset] ?_ fun _ mem => .inl (List.mem_singleton.mp mem)
        rw [← log]
        rfl
    | ok done =>
        dsimp only
        rw [Act.run_bind]
        rcases Server.run_recvResult wire .nodePackageResponse
          (some "receiving the install response") v with
          ⟨-, read⟩ | ⟨result, body, rest, -, read⟩ | ⟨error, recv, -, read⟩
        · rw [read]
          exact ends [] (log.trans (List.append_nil _).symm)
            fun _ mem => (List.not_mem_nil mem).elim
        · rw [read]
          refine ends [.received .nodePackageResponse result] ?_
            fun _ mem => .inr ⟨_, _, List.mem_singleton.mp mem⟩
          rw [← log]
          cases result with
          | ok resp => rfl
          | error text => rfl
        · rw [read]
          exact ends [] (log.trans (List.append_nil _).symm)
            fun _ mem => (List.not_mem_nil mem).elim

/-- The package follows only behind a `Proceed`. -/
theorem installExchange_installing (wire : Wire) (fields : Install) (call : ManagerAct τ α)
    {w : Manager τ} (unwritten : (managerParty call).written w.log = [])
    (unsent : sentChunks w.log = []) :
    Installing wire fields w
      ((managerParty call).written
        ((Server.installExchange wire (.install fields) fields.size).run w).2.log)
      (sentChunks ((Server.installExchange wire (.install fields) fields.size).run w).2.log) := by
  unfold Server.installExchange
  rcases Server.run_openBi_sendRaw wire .nodePackage .nodePackageRequest (.install fields) w _ with
    ⟨fits, sent⟩ | ⟨error, events, send, -, stopped, opened⟩
  · rw [sent, Act.run_bind]
    let v := Server.requesting .nodePackage (wire.encode .nodePackageRequest (.install fields)) w
    have front (more : List ManagerEvent) : (managerParty call).written (v.log ++ more) =
        frame (Server.installFrame wire (.install fields)) ++ (managerParty call).written more := by
      have dialed : (managerParty call).written v.log =
          frame (Server.installFrame wire (.install fields)) := by
        show (managerParty call).written (w.log ++ _) = _
        rw [Party.written_append, unwritten]
        exact List.append_nil _
      rw [Party.written_append, dialed]
    have unsent : sentChunks v.log = [] := by
      show sentChunks (w.log ++ _) = _
      rw [Server.sentChunks_append, unsent]
      rfl
    -- Nothing is sent until there is a verdict.
    have waits {log more : List ManagerEvent} (logged : log = v.log ++ more)
        (silent : (managerParty call).written more = []) (none : sentChunks more = []) :
        Installing wire fields w ((managerParty call).written log) (sentChunks log) := by
      rw [logged]
      refine .requested fits ?_ ?_
      · rw [front, silent, List.append_nil]
      · rw [Server.sentChunks_append, unsent, none]
        rfl
    rcases Server.run_recvResult wire .installPreflight
      (some "receiving the install preflight verdict") v with
      ⟨-, read⟩ | ⟨verdict, body, rest, answer, read⟩ | ⟨error, recv, -, read⟩
    · rw [read, Act.andThen_error]
      exact waits (List.append_nil _).symm rfl rfl
    · rw [read]
      cases verdict with
      | error text => exact waits rfl rfl rfl
      | ok verdict =>
          cases verdict with
          | proceed =>
              let judged : Manager τ :=
                { v with
                  recv.bytes := rest
                  log := v.log ++ [.received .installPreflight (.ok .proceed)] }
              obtain ⟨added, more, log, transfer, sends, others⟩ :=
                streamPackage_log wire fields.size judged
              have silent : (managerParty call).written more = [] := by
                refine List.flatMap_eq_nil_iff.mpr fun event mem => ?_
                obtain rfl | ⟨ty, result, rfl⟩ := others event mem <;> rfl
              have none : sentChunks more = [] := by
                refine List.filterMap_eq_nil_iff.mpr fun event mem => ?_
                obtain rfl | ⟨ty, result, rfl⟩ := others event mem <;> rfl
              have chunks : sentChunks
                  ((Server.streamPackage wire fields.size).run judged).2.log =
                    sentChunks added := by
                rw [log, Server.sentChunks_append, Server.sentChunks_append, unsent,
                  Server.sentChunks_append, none, List.append_nil]
                rfl
              refine .streaming fits ?_ ?_ body rest answer
              · show (managerParty call).written
                  ((Server.streamPackage wire fields.size).run judged).2.log = _ ++
                    (sentChunks ((Server.streamPackage wire fields.size).run judged).2.log).flatMap
                      frame
                rw [chunks, log, List.append_assoc, front, Party.written_append,
                  Party.written_append, silent, List.append_nil, written_transfer call transfer]
                rfl
              · show Sends fields.size.toNat w.input (sentChunks
                  ((Server.streamPackage wire fields.size).run judged).2.log)
                rw [chunks]
                exact sends
          | _ => exact waits rfl rfl rfl
    · rw [read, Act.andThen_error]
      exact waits (List.append_nil _).symm rfl rfl
  · rw [stopped]
    dsimp only
    refine .unsent ?_ ?_
    · rw [Party.written_append, unwritten, written_dialing _ opened]
      rfl
    · rw [Server.sentChunks_append, unsent, List.nil_append]
      refine List.filterMap_eq_nil_iff.mpr fun event mem => ?_
      rw [opened event mem]

/-- So it is for every method that installs, whomever it asks first. -/
theorem Server.Method.installing (wire : Wire) (method : Server.Method τ) {fields : Install}
    {wrap : Server.InstallOutcome → method.Outcome}
    (accepted : method.sending = some (.install fields wrap)) {w : Manager τ} (fresh : w.log = []) :
    Installing wire fields w ((managerParty (method.act wire)).output w)
      (sentChunks ((method.act wire).run w).2.log) := by
  obtain ⟨state, events, asking, ⟨-, error, ran⟩ | ⟨-, ran⟩⟩ := method.run_act wire accepted w
  · have act : (managerParty (method.act wire)).act = method.act wire := rfl
    rw [Party.output, act, ran, fresh, List.nil_append]
    refine .unsent (written_asking _ asking) ?_
    refine List.filterMap_eq_nil_iff.mpr fun event mem => ?_
    obtain ⟨service, answer, rfl⟩ := asking event mem
    rfl
  · rw [fresh, List.nil_append] at ran
    let v : Manager τ := { w with state, log := events }
    have unsent : sentChunks v.log = [] := by
      refine List.filterMap_eq_nil_iff.mpr fun event mem => ?_
      obtain ⟨service, answer, rfl⟩ := asking event mem
      rfl
    have performs : ((Server.Sending.install fields wrap).perform wire).run v =
        Act.andThen ((Server.installExchange wire (.install fields) fields.size).run v)
          (pure ∘ wrap) := rfl
    rw [performs, Act.andThen_pure] at ran
    have installing := installExchange_installing wire fields (method.act wire)
      (written_asking _ asking : (managerParty (method.act wire)).written v.log = []) unsent
    have act : (managerParty (method.act wire)).act = method.act wire := rfl
    rw [Party.output, act, ran]
    cases installing with
    | unsent silent none => exact .unsent silent none
    | requested fits written none => exact .requested fits written none
    | streaming fits written sends body rest answer =>
        exact .streaming fits written sends body rest answer

/-! ### Both ends -/

theorem Receiving.nothing {size : Nat} {req : NodePackageRequest} {request : Bytes}
    {stream : RecvStream IoError} : Receiving size [] req request stream [] where
  honest := fun _ mem => (List.not_mem_nil mem).elim
  read := List.nil_prefix
  called := fun _ mem => (List.not_mem_nil mem).elim
  answered := fun _ mem => (List.not_mem_nil mem).elim
  begun := fun some => absurd rfl some

/-- An install at any moment: what the manager has written, and what the agent has made of
what arrived. -/
structure Underway (wire : Wire) (fields : Install) (manager : Manager τ) (written : Bytes)
    (sent : List Bytes) (agent : Agent σ) (log : List AgentEvent) : Prop where
  installing : Installing wire fields manager written sent
  receiving : Receiving fields.size.toNat sent (.install fields)
    (frame (Server.installFrame wire (.install fields))) agent.recv log

/-- A verdict that the manager has read is the agent's own. -/
theorem verdict_read {wire : Wire} {loop : Loop σ} {fields : Install} {agent : Agent σ}
    {bytes body rest tail : Bytes} (fresh : agent.log = [])
    (lawful : wire.RoundTrips .nodePackageRequest (.install fields))
    (verdicts : ∀ verdict, wire.RoundTrips (.result .installPreflight) verdict)
    (fits : (Server.installFrame wire (.install fields)).length < Framing.frameLimit)
    (answer : Server.NextResponse wire .installPreflight (.ok .proceed) bytes body rest)
    (toFar : agent.recv.bytes <+: frame (Server.installFrame wire (.install fields)) ++ tail)
    (toNear : bytes <+: responseBytes wire (responses ((loop.run wire).run agent).2.log)) :
    verdictOf loop.nodeHandler (.install fields) agent.state = .ok .proceed ∧
      ∃ later, responses ((loop.run wire).run agent).2.log =
          ⟨.installPreflight, .ok .proceed⟩ :: later ∧
        body = wire.encode (.result .installPreflight) (.ok .proceed) ∧
        rest <+: responseBytes wire later ∧
        (later = [] ∨ ∃ result more, later = ⟨.nodePackageResponse, result⟩ :: more) := by
  have shape := loop.install_responses wire lawful fresh fits toFar
  have fit := loop.responses_fit wire fresh
  rw [answer.bytes] at toNear
  obtain ⟨ty, verdict, later, replies, same, after, -⟩ := next_response fit answer.fits toNear
  rw [replies] at shape ⊢
  cases shape with
  | refused refused => exact absurd (eq_of_decoded (verdicts _) same answer.decoded) refused
  | verdict =>
      have proceed := eq_of_decoded (verdicts _) same answer.decoded
      rw [proceed] at same ⊢
      exact ⟨rfl, [], rfl, same, after, .inl rfl⟩
  | concluded proceed =>
      rw [proceed] at same ⊢
      exact ⟨rfl, _, rfl, same, after, .inr ⟨_, _, rfl⟩⟩

theorem install_underway (wire : Wire) (loop : Loop σ) (method : Server.Method τ)
    {fields : Install} {wrap : Server.InstallOutcome → method.Outcome}
    (accepted : method.sending = some (.install fields wrap))
    (lawful : wire.RoundTrips .nodePackageRequest (.install fields))
    (verdicts : ∀ verdict, wire.RoundTrips (.result .installPreflight) verdict)
    {now : Duplex (Opening τ) (Except IoError Bytes) ManagerEvent IoError σ AgentEvent IoError}
    (freshNear : now.near.log = []) (freshFar : now.far.log = [])
    (delivered : Duplex.Delivered (managerParty (method.act wire)) (agentParty wire loop) now) :
    Underway wire fields now.near ((managerParty (method.act wire)).output now.near)
      (sentChunks ((method.act wire).run now.near).2.log) now.far
      ((loop.run wire).run now.far).2.log := by
  have installing := method.installing wire accepted freshNear
  refine ⟨installing, ?_⟩
  have toFar := delivered.toFar
  have toNear := delivered.toNear
  rw [Party.output, agentParty_written] at toNear
  cases installing with
  | unsent silent none =>
      rw [silent] at toFar
      rw [loop.run_idle wire (List.prefix_nil.mp toFar), freshFar, none]
      exact .nothing
  | requested fits written none =>
      rw [written, ← List.append_nil (frame _)] at toFar
      rw [none]
      exact loop.receiving wire freshFar lawful fits (.nil _) toFar fun _ => rfl
  | streaming fits written sends body rest answer =>
      rw [written] at toFar
      refine loop.receiving wire freshFar lawful fits sends.sendable toFar ?_
      intro refused
      exact absurd (verdict_read freshFar lawful verdicts fits answer toFar toNear).1 refused

/-- The agent was given the front of what the manager sent, which is the front of what its
source held; an agent that reports success was given all of it. -/
structure Intact (size : Nat) (source : Server.Source) (req : NodePackageRequest)
    (manager : List ManagerEvent) (agent : List AgentEvent) : Prop where
  honest : NoOverrun agent
  inOrder : payload agent <+: sentChunks manager
  fromSource : (sentChunks manager).flatten <+: (sourceBytes source).take size
  called : ∀ other, .called (.nodePackageInstall other) ∈ agent → other = req
  whole : ∀ resp, .replied .nodePackageResponse (.ok resp) ∈ agent →
    size ≤ (sourceBytes source).length ∧ (payload agent).flatten = (sourceBytes source).take size

/-- In every state that any interleaving reaches, and wherever either half of the stream was
cut off, the chunks that the agent's handler was given are those the manager sent, in order
and unchanged, and together the front of the source. Never is a chunk larger than what is
expected, nor the handler called for another package, and success is reported only once
exactly the announced bytes were received. -/
theorem package_integrity (wire : Wire) (loop : Loop σ) (method : Server.Method τ)
    (fields : Install) (wrap : Server.InstallOutcome → method.Outcome)
    (accepted : method.sending = some (.install fields wrap)) (policy : τ)
    (refused : Option IoError) (state : σ) (managerSend agentSend : SendStream IoError)
    (lawful : wire.RoundTrips .nodePackageRequest (.install fields))
    (verdicts : ∀ verdict, wire.RoundTrips (.result .installPreflight) verdict)
    (now : Duplex (Opening τ) (Except IoError Bytes) ManagerEvent IoError σ AgentEvent IoError)
    (reachable : Duplex.Reachable (managerParty (method.act wire)) (agentParty wire loop)
      (dialing policy refused state managerSend agentSend) now) :
    Intact fields.size.toNat now.near.input (.install fields)
      ((method.act wire).run now.near).2.log ((loop.run wire).run now.far).2.log := by
  have freshNear : now.near.log = [] := by rw [reachable.frame.1]; rfl
  have freshFar : now.far.log = [] := by rw [reachable.frame.2]; rfl
  obtain ⟨installing, receiving⟩ := install_underway wire loop method accepted lawful verdicts
    freshNear freshFar (reachable.delivered rfl rfl)
  have sends : Sends fields.size.toNat now.near.input
      (sentChunks ((method.act wire).run now.near).2.log) := by
    cases installing with
    | unsent silent none =>
        rw [none]
        exact ⟨.nil _, List.nil_prefix⟩
    | requested fits written none =>
        rw [none]
        exact ⟨.nil _, List.nil_prefix⟩
    | streaming fits written sends body rest answer => exact sends
  have front : (sentChunks ((method.act wire).run now.near).2.log).flatten <+:
      (sourceBytes now.near.input).take fields.size.toNat :=
    List.prefix_take_iff.mpr ⟨sends.source, sends.sendable.total⟩
  refine ⟨receiving.honest, receiving.read, front, receiving.called, ?_⟩
  intro resp replied
  rcases receiving.answered (.ok resp) replied with ⟨total, -⟩ | ⟨-, text, lost⟩
  · obtain ⟨left, split⟩ := receiving.read
    have given : (payload ((loop.run wire).run now.far).2.log).flatten <+:
        (sourceBytes now.near.input).take fields.size.toNat := by
      refine List.IsPrefix.trans ?_ front
      rw [← split, List.flatten_append]
      exact List.prefix_append _ _
    have enough := given.length_le
    rw [total, List.length_take] at enough
    refine ⟨by omega, given.eq_of_length ?_⟩
    rw [total, List.length_take]
    omega
  · cases lost

/-- Of a source with two bytes, a package of one is given the first. -/
theorem package_integrity_sample :
    payload (((Loop.handle eagerHandler).run Encoding.bincode).run sampleEnd.far).2.log = [[7]] ∧
    Intact 1 [.ok [7, 8]] (.install (bareInstall 1))
      ((Server.nodePackageInstall Encoding.bincode (.install (bareInstall 1))).run
        sampleEnd.near).2.log
      (((Loop.handle eagerHandler).run Encoding.bincode).run sampleEnd.far).2.log :=
  ⟨rfl, package_integrity Encoding.bincode (.handle eagerHandler)
    (.node (.nodePackageInstall (.install (bareInstall 1)))) (bareInstall 1) id rfl () none () _ _
    (Encoding.bincode_roundTrips rfl _) (fun _ => Encoding.bincode_roundTrips rfl _) sampleEnd
    sampleEnd_reachable⟩

end ReviewProtocol
