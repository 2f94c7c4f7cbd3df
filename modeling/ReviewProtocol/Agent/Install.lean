import ReviewProtocol.Agent.Plan

set_option autoImplicit false

/- The streaming exchange of an install on the agent's side. -/
namespace ReviewProtocol

open Framing (Bytes Act RecvStream Halt)
open Framing.Act (emit)

variable {σ : Type}

/-- The agent after a frame went out. -/
def wrote (w : Agent σ) (ty : WireTy) (result : Except String ty.denote) : Agent σ :=
  { w with send.attempts := w.send.attempts + 1, log := w.log ++ [.replied ty result] }

/-- The agent after a frame failed to go out. -/
def lostWrite (w : Agent σ) : Agent σ := { w with send.attempts := w.send.attempts + 1 }

theorem run_trySend (wire : Wire) (ty : WireTy) (result : Except String ty.denote) (w : Agent σ) :
    (trySend wire ty result).run w = (.ok (.ok ()), wrote w ty result) ∨
    ∃ error, (trySend wire ty result).run w = (.ok (.error error), lostWrite w) := by
  rcases Act.run_send_cases (ε := HandlerError) (wire.encode (.result ty) result)
    (AgentEvent.replied ty result) w with ⟨-, sent⟩ | ⟨error, -, lost⟩
  · exact .inl sent
  · exact .inr ⟨error, lost⟩

theorem run_sendResponse (wire : Wire) (ty : WireTy) (result : Except String ty.denote)
    (w : Agent σ) :
    (sendResponse wire ty result).run w = (.ok (), wrote w ty result) ∨
    ∃ error, (sendResponse wire ty result).run w =
      (.error (.failed (.sendError error)), lostWrite w) := by
  simp only [sendResponse, Act.run_bind]
  rcases run_trySend wire ty result w with sent | ⟨error, lost⟩
  · rw [sent]
    exact .inl rfl
  · rw [lost]
    exact .inr ⟨error, rfl⟩

/-- The whole of a transfer, up to the end of the drain: what was read while the
handler ran, and what was left for the drain. -/
structure Transfer (size : Nat) (stream : RecvStream IoError) (early late : List AgentEvent)
    (drained : Except IoError Unit) (stream' : RecvStream IoError) : Prop where
  payload : ∀ event ∈ early ++ late, event.IsPayload
  bytes : stream'.bytes <:+ stream.bytes
  fin : stream'.fin = stream.fin
  complete : drained = .ok () → Clean (early ++ late) ∧ received (early ++ late) = size ∧
    stream.bytes = payloadBytes (early ++ late) ++ stream'.bytes
  broken : ∀ error, drained = .error error → ¬ Clean (early ++ late) ∧ Explains late error
  lost : losses (early ++ late) ≠ [] → stream'.bytes = [] ∧ stream'.fin ≠ none

/-- The verdict a handler gives in a state. -/
def verdictOf (handler : NodeHandler σ) (req : NodePackageRequest) (state : σ) :
    Except String InstallPreflight :=
  (handler.call (.nodePackageInstallPreflight req) state).1

/-- The events of an install up to its verdict. -/
def opening (req : NodePackageRequest) (verdict : Except String InstallPreflight) :
    List AgentEvent :=
  [.called (.node (.nodePackageInstallPreflight req)), .replied .installPreflight verdict]

/-- The events of an install that proceeds, up to its terminal frame. -/
def exchange (req : NodePackageRequest) (early : List AgentEvent)
    (result : Except String NodePackageResponse) (late : List AgentEvent) : List AgentEvent :=
  opening req (.ok .proceed) ++
    .called (.nodePackageInstall req) :: (early ++ .installed result :: late)

/-- Everything the exchange of an install can come to. -/
inductive Installs (handler : NodeHandler σ) (req : NodePackageRequest) (size : Nat)
    (w : Agent σ) : Except (Halt HandlerError) Unit → Agent σ → Prop where
  | verdictLost (error : IoError) (state : σ) :
      Installs handler req size w (.error (.failed (.sendError error)))
        { w with
          state, send.attempts := w.send.attempts + 1
          log := w.log ++ [.called (.node (.nodePackageInstallPreflight req))] }
  | refused (state : σ) (refused : verdictOf handler req w.state ≠ .ok .proceed) :
      Installs handler req size w (.ok ())
        { w with
          state, send.attempts := w.send.attempts + 1
          log := w.log ++ opening req (verdictOf handler req w.state) }
  | receiving (state : σ) (added : List AgentEvent) (reader : PackageReader)
      (stream : RecvStream IoError) (proceed : verdictOf handler req w.state = .ok .proceed)
      (drawn : Drawn (.new size) w.recv added reader stream) (awaits : reader.Awaits stream) :
      Installs handler req size w (.error .pending)
        { w with
          state, recv := stream, send.attempts := w.send.attempts + 1
          log := w.log ++
            (opening req (.ok .proceed) ++ .called (.nodePackageInstall req) :: added) }
  | draining (state : σ) (result : Except String NodePackageResponse)
      (early late : List AgentEvent) (reader : PackageReader) (stream : RecvStream IoError)
      (proceed : verdictOf handler req w.state = .ok .proceed)
      (drawn : Drawn (.new size) w.recv (early ++ late) reader stream)
        (awaits : reader.Awaits stream) :
      Installs handler req size w (.error .pending)
        { w with
          state, recv := stream, send.attempts := w.send.attempts + 1
          log := w.log ++ exchange req early result late }
  | terminalLost (error : IoError) (state : σ) (result : Except String NodePackageResponse)
      (early late : List AgentEvent) (drained : Except IoError Unit) (stream : RecvStream IoError)
      (proceed : verdictOf handler req w.state = .ok .proceed)
      (transfer : Transfer size w.recv early late drained stream) :
      Installs handler req size w (.error (.failed (.sendError error)))
        { w with
          state, recv := stream, send.attempts := w.send.attempts + 2
          log := w.log ++ exchange req early result late }
  | finished (state : σ) (result : Except String NodePackageResponse)
      (early late : List AgentEvent) (drained : Except IoError Unit) (stream : RecvStream IoError)
      (proceed : verdictOf handler req w.state = .ok .proceed)
      (transfer : Transfer size w.recv early late drained stream) :
      Installs handler req size w (.ok ())
        { w with
          state, recv := stream, send.attempts := w.send.attempts + 2
          log := w.log ++ (exchange req early result late ++
            [.replied .nodePackageResponse (terminal result drained)]) }

/-- What the part between the verdict and the terminal frame can come to. -/
inductive Receives (req : NodePackageRequest) (size : Nat) (w : Agent σ) :
    Except (Halt HandlerError) (Except String NodePackageResponse) → Agent σ → Prop where
  | receiving (added : List AgentEvent) (reader : PackageReader) (stream : RecvStream IoError)
      (drawn : Drawn (.new size) w.recv added reader stream) (awaits : reader.Awaits stream) :
      Receives req size w (.error .pending)
        { w with recv := stream, log := w.log ++ .called (.nodePackageInstall req) :: added }
  | draining (state : σ) (result : Except String NodePackageResponse)
      (early late : List AgentEvent) (reader : PackageReader) (stream : RecvStream IoError)
      (drawn : Drawn (.new size) w.recv (early ++ late) reader stream)
        (awaits : reader.Awaits stream) :
      Receives req size w (.error .pending)
        { w with
          state, recv := stream
          log := w.log ++ .called (.nodePackageInstall req) ::
            (early ++ .installed result :: late) }
  | received (state : σ) (result : Except String NodePackageResponse)
      (early late : List AgentEvent) (drained : Except IoError Unit) (stream : RecvStream IoError)
      (transfer : Transfer size w.recv early late drained stream) :
      Receives req size w (.ok (terminal result drained))
        { w with
          state, recv := stream
          log := w.log ++ .called (.nodePackageInstall req) ::
            (early ++ .installed result :: late) }

/-- A handler's reads followed by a drain to its end make a transfer. -/
theorem Drawn.transfer {size : Nat} {stream stream' : RecvStream IoError}
    {early late : List AgentEvent} {reader : PackageReader} {drained : Except IoError Unit}
    (drawn : Drawn (.new size) stream (early ++ late) reader stream')
    (complete : drained = .ok () → reader.failed = false ∧ reader.remaining = 0)
    (broken : ∀ error, drained = .error error → reader.failed = true ∧ Explains late error) :
    Transfer size stream early late drained stream' where
  payload := drawn.payload
  bytes := drawn.bytes
  fin := drawn.fin
  complete := by
    intro whole
    obtain ⟨sound, empty⟩ := complete whole
    obtain ⟨-, clean, count, bytes⟩ := drawn.sound sound
    rw [empty, Nat.add_zero] at count
    exact ⟨clean, count, bytes⟩
  broken := by
    intro error failure
    obtain ⟨failed, explained⟩ := broken error failure
    refine ⟨?_, explained⟩
    rcases drawn.failed failed with before | dirty
    · cases before
    · exact dirty
  lost := drawn.lost

theorem receivePackage_receives (handler : NodeHandler σ) (req : NodePackageRequest) (size : Nat)
    (w : Agent σ) :
    Receives req size w ((receivePackage handler req size).run w).1
      ((receivePackage handler req size).run w).2 := by
  let begun : Agent σ := { w with log := w.log ++ [.called (.nodePackageInstall req)] }
  have unfolded : (receivePackage handler req size).run w =
      Act.andThen (((handler.nodePackageInstall req w.state).run (.new size)).run begun)
        fun out => concludePackage out.1.1 out.1.2 out.2 := rfl
  rw [unfolded]
  rcases body : ((handler.nodePackageInstall req w.state).run (.new size)).run begun with
    ⟨halt | ⟨⟨result, state⟩, reader⟩, w₁⟩
  · obtain ⟨rfl, added, reader, ⟨stream, rfl, drawn⟩, awaits⟩ := InstallProg.run_halt _ _ _ _ _ body
    have receiving : Receives req size w (.error .pending) _ :=
      .receiving added reader stream drawn awaits
    simpa only [Act.andThen_error, begun, List.append_assoc, List.cons_append, List.nil_append]
      using receiving
  · obtain ⟨early, stream, rfl, drawn⟩ := InstallProg.run_reads _ _ _ _ _ _ body
    -- The drain starts where the handler left the stream.
    let left : Agent σ :=
      { w with
        state, recv := stream
        log := w.log ++ .called (.nodePackageInstall req) :: (early ++ [.installed result]) }
    have resumed : (concludePackage result state reader).run
        { begun with recv := stream, log := begun.log ++ early } =
        Act.andThen (reader.drain.run left) fun drained => pure (terminal result drained) := by
      simp only [concludePackage, Act.run_bind, Act.andThen_ok, Act.update, emit, begun, left,
        List.append_assoc, List.cons_append, List.nil_append]
    rw [Act.andThen_ok, resumed]
    have drains := reader.run_drain left
    rcases out : reader.drain.run left with ⟨halt | drained, w₂⟩
    · rw [out] at drains
      obtain ⟨rfl, late, reader', ⟨stream', rfl, drawn'⟩, awaits⟩ := drains
      have draining : Receives req size w (.error .pending) _ :=
        .draining state result early late reader' stream' (drawn.trans drawn') awaits
      simpa only [Act.andThen_error, left, List.append_assoc, List.cons_append, List.nil_append]
        using draining
    · rw [out] at drains
      cases drained with
      | ok =>
          obtain ⟨late, reader', ⟨stream', rfl, drawn'⟩, sound, empty⟩ := drains
          have transfer : Transfer size w.recv early late (.ok ()) stream' :=
            (drawn.trans drawn').transfer (fun _ => ⟨sound, empty⟩)
              (by intro error failure; cases failure)
          have received : Receives req size w _ _ :=
            .received state result early late _ stream' transfer
          simpa only [Act.andThen_ok, Act.run_pure, left, List.append_assoc, List.cons_append,
            List.nil_append] using received
      | error error =>
          obtain ⟨late, reader', ⟨stream', rfl, drawn'⟩, failed, explained⟩ := drains
          have transfer : Transfer size w.recv early late (.error error) stream' :=
            (drawn.trans drawn').transfer (by intro whole; cases whole)
              (by intro other same; cases same; exact ⟨failed, explained⟩)
          have received : Receives req size w _ _ :=
            .received state result early late _ stream' transfer
          simpa only [Act.andThen_ok, Act.run_pure, left, List.append_assoc, List.cons_append,
            List.nil_append] using received

theorem dispatchInstall_installs (wire : Wire) (handler : NodeHandler σ)
    (req : NodePackageRequest) (size : Nat) (w : Agent σ) :
    Installs handler req size w ((dispatchInstall wire handler req size).run w).1
      ((dispatchInstall wire handler req size).run w).2 := by
  let asked : Agent σ :=
    { w with
      state := (handler.call (.nodePackageInstallPreflight req) w.state).2
      log := w.log ++ [.called (.node (.nodePackageInstallPreflight req))] }
  have unfolded : (dispatchInstall wire handler req size).run w =
      Act.andThen ((sendResponse wire .installPreflight (verdictOf handler req w.state)).run asked)
        fun _ => if verdictOf handler req w.state = .ok .proceed then
          (receivePackage handler req size >>= sendResponse wire .nodePackageResponse) else
            pure () := rfl
  rw [unfolded]
  rcases run_sendResponse wire .installPreflight (verdictOf handler req w.state) asked with
    sent | ⟨error, lost⟩
  · rw [sent, Act.andThen_ok]
    by_cases proceed : verdictOf handler req w.state = .ok .proceed
    · rw [if_pos proceed, Act.run_bind]
      rw [proceed]
      have receives :=
        receivePackage_receives handler req size (wrote asked .installPreflight (.ok .proceed))
      rcases out : (receivePackage handler req size).run
        (wrote asked .installPreflight (.ok .proceed))
        with ⟨outcome, w₁⟩
      rw [out] at receives
      dsimp only at receives
      cases receives with
      | receiving added reader stream drawn awaits =>
          have receiving : Installs handler req size w (.error .pending) _ :=
            .receiving asked.state added reader stream proceed drawn awaits
          simpa only [Act.andThen_error, asked, wrote, exchange, opening, List.append_assoc,
            List.cons_append,
            List.nil_append] using receiving
      | draining state result early late reader stream drawn awaits =>
          have draining : Installs handler req size w (.error .pending) _ :=
            .draining state result early late reader stream proceed drawn awaits
          simpa only [Act.andThen_error, asked, wrote, exchange, opening, List.append_assoc,
            List.cons_append,
            List.nil_append] using draining
      | received state result early late drained stream transfer =>
          rw [Act.andThen_ok]
          rcases run_sendResponse wire .nodePackageResponse (terminal result drained) _ with
            sent' | ⟨error, lost⟩
          · rw [sent']
            have finished : Installs handler req size w (.ok ()) _ :=
              .finished state result early late drained stream proceed transfer
            simpa only [asked, wrote, exchange, opening, List.append_assoc, List.cons_append,
              List.nil_append] using finished
          · rw [lost]
            have terminalLost : Installs handler req size w
                (.error (.failed (.sendError error))) _ :=
              .terminalLost error state result early late drained stream proceed transfer
            simpa only [asked, wrote, lostWrite, exchange, opening, List.append_assoc,
              List.cons_append,
              List.nil_append] using terminalLost
    · rw [if_neg proceed]
      have refused : Installs handler req size w (.ok ()) _ := .refused asked.state proceed
      simpa only [Act.run_pure, asked, wrote, opening, List.append_assoc, List.cons_append,
        List.nil_append] using refused
  · rw [lost]
    exact .verdictLost error asked.state

/-! ### What the terminal frame says about the transfer -/

/-- The terminal frames written. -/
def terminals (log : List AgentEvent) : List (Except String NodePackageResponse) :=
  log.filterMap fun
    | .replied .nodePackageResponse result => some result
    | _ => none

@[simp] theorem terminals_append (first second : List AgentEvent) :
    terminals (first ++ second) = terminals first ++ terminals second := List.filterMap_append

section payload

variable {events : List AgentEvent} (payload : ∀ event ∈ events, event.IsPayload)

include payload

theorem terminals_payload : terminals events = [] := by
  refine List.filterMap_eq_nil_iff.mpr fun event member => ?_
  have isPayload := payload event member
  cases event with
  | chunk remaining body => rfl
  | chunkLost error => rfl
  | request | called | installed | replied => cases isPayload

theorem installed_notMem_payload (result : Except String NodePackageResponse) :
    .installed result ∉ events := by
  intro member
  cases payload _ member

end payload

section exchange

variable (req : NodePackageRequest) (early late : List AgentEvent)
  (result : Except String NodePackageResponse)

@[simp] theorem chunks_exchange :
    chunks (exchange req early result late) = chunks (early ++ late) := by
  simp [chunks, exchange, opening]

@[simp] theorem losses_exchange :
    losses (exchange req early result late) = losses (early ++ late) := by
  simp [losses, exchange, opening]

theorem clean_exchange (tail : List AgentEvent) (silent : chunks tail = [] ∧ losses tail = []) :
    Clean (exchange req early result late ++ tail) ↔ Clean (early ++ late) := by
  simp only [Clean, NoOverrun, chunks_append, chunks_exchange, losses_append, losses_exchange,
    silent, List.append_nil]

theorem terminals_exchange (payload : ∀ event ∈ early ++ late, event.IsPayload) :
    terminals (exchange req early result late) = [] := by
  have none := terminals_payload payload
  rw [terminals_append] at none
  obtain ⟨noneEarly, noneLate⟩ := List.append_eq_nil_iff.mp none
  simp only [terminals] at noneEarly noneLate
  simp [terminals, exchange, opening, noneEarly, noneLate]

theorem installed_mem_exchange (payload : ∀ event ∈ early ++ late, event.IsPayload)
    (other : Except String NodePackageResponse) (tail : List AgentEvent)
    (member : .installed other ∈ exchange req early result late ++ tail)
    (silent : .installed other ∉ tail) : other = result := by
  have absent := installed_notMem_payload payload other
  simp only [List.mem_append, not_or] at absent
  simpa [exchange, opening, absent, silent] using member

end exchange

theorem terminal_ok {result : Except String NodePackageResponse} {drained : Except IoError Unit}
    {response : NodePackageResponse} (success : terminal result drained = .ok response) :
    drained = .ok () := by
  cases drained with
  | ok => rfl
  | error error => cases result <;> cases success

theorem Explains.mono {late : List AgentEvent} {error : IoError}
    (explained : Explains late error) (request : NodePackageRequest) (early : List AgentEvent)
    (result : Except String NodePackageResponse) (tail : List AgentEvent) :
    Explains (exchange request early result late ++ tail) error := by
  have included : ∀ event ∈ late, event ∈ exchange request early result late ++ tail := by
    intro event member
    simp [exchange, member]
  rcases explained with earlier | ⟨remaining, body, member, tooLong, same⟩ | ⟨cause, member, same⟩
  · exact .inl earlier
  · exact .inr (.inl ⟨remaining, body, included _ member, tooLong, same⟩)
  · exact .inr (.inr ⟨cause, included _ member, same⟩)

/-- A transfer that is not clean was noticed by the drain. -/
theorem Transfer.noticed {size : Nat} {stream stream' : RecvStream IoError}
    {early late : List AgentEvent} {drained : Except IoError Unit}
    (transfer : Transfer size stream early late drained stream')
    (dirty : ¬ Clean (early ++ late)) : ∃ error, drained = .error error ∧ Explains late error := by
  cases drained with
  | ok => exact absurd (transfer.complete rfl).1 dirty
  | error error => exact ⟨error, rfl, (transfer.broken error rfl).2⟩

/-- The one terminal frame is this, unless the transport did not take it. -/
def AnswersWith (added : List AgentEvent) (outcome : Except (Halt HandlerError) Unit)
    (result : Except String NodePackageResponse) : Prop :=
  terminals added = [result] ∨
  terminals added = [] ∧ ∃ error, outcome = .error (.failed (.sendError error))

/-- No install is reported as done unless its whole payload arrived: whatever the
peer sends and whatever the handler makes of the errors it is shown, a failed
transfer is answered with an error, the handler's own if it gave one. -/
theorem dispatchNodePackage_honest (wire : Wire) (handler : NodeHandler σ) (fields : Install)
    (w : Agent σ) :
    ∃ outcome w' added,
      (dispatchNodePackage wire handler (.install fields)).run w = (outcome, w') ∧
      w'.log = w.log ++ added ∧
      (∀ response, .ok response ∈ terminals added →
        .replied .installPreflight (.ok .proceed) ∈ added ∧
        received added = fields.size.toNat ∧ NoOverrun added ∧ losses added = [] ∧
        w.recv.bytes = payloadBytes added ++ w'.recv.bytes) ∧
      (∀ error, .installed (.error error) ∈ added → ¬ Clean added →
        AnswersWith added outcome (.error error)) ∧
      (∀ response, .installed (.ok response) ∈ added → ¬ Clean added →
        ∃ cause, Explains added cause ∧ AnswersWith added outcome
          (.error s!"failed to receive the package payload: {cause.text}")) := by
  have installs := dispatchInstall_installs wire handler (.install fields) fields.size.toNat w
  rcases ran : (dispatchNodePackage wire handler (.install fields)).run w with ⟨outcome, w'⟩
  rw [show (dispatchInstall wire handler (.install fields) fields.size.toNat).run w =
    (outcome, w') from ran] at installs
  refine ⟨outcome, w', ?_⟩
  cases installs with
  | verdictLost error state =>
      refine ⟨_, rfl, rfl, ?_, ?_, ?_⟩ <;> intro _ member <;> simp [terminals] at member
  | refused state refused =>
      refine ⟨_, rfl, rfl, ?_, ?_, ?_⟩ <;> intro _ member <;> simp [terminals, opening] at member
  | receiving state added reader stream proceed drawn awaits =>
      have none := terminals_payload drawn.payload
      have absent := installed_notMem_payload drawn.payload
      simp only [terminals] at none
      refine ⟨_, rfl, rfl, ?_, ?_, ?_⟩ <;> intro _ member <;>
        simp [terminals, opening, none, absent] at member
  | draining state result early late reader stream proceed drawn awaits =>
      have clean := (drawn.sound awaits.sound).2.1
      have none := terminals_exchange (.install fields) early late result drawn.payload
      have still := (clean_exchange (.install fields) early late result [] ⟨rfl, rfl⟩).mpr clean
      rw [List.append_nil] at still
      refine ⟨_, rfl, rfl, ?_, ?_, ?_⟩
      · intro response member
        rw [none] at member
        cases member
      · intro error _ dirty
        exact absurd still dirty
      · intro response _ dirty
        exact absurd still dirty
  | terminalLost error state result early late drained stream proceed transfer =>
      have none := terminals_exchange (.install fields) early late result transfer.payload
      refine ⟨_, rfl, rfl, ?_, ?_, ?_⟩
      · intro response member
        rw [none] at member
        cases member
      · intro error _ dirty
        exact .inr ⟨none, _, rfl⟩
      · intro response member dirty
        have broken := (clean_exchange (.install fields) early late result [] ⟨rfl, rfl⟩).not
        rw [List.append_nil] at broken
        obtain ⟨cause, -, explained⟩ := transfer.noticed (broken.mp dirty)
        have known := explained.mono (.install fields) early result []
        rw [List.append_nil] at known
        exact ⟨cause, known, .inr ⟨none, _, rfl⟩⟩
  | finished state result early late drained stream proceed transfer =>
      have none := terminals_exchange (.install fields) early late result transfer.payload
      have broken := (clean_exchange (.install fields) early late result
        [.replied .nodePackageResponse (terminal result drained)] ⟨rfl, rfl⟩).not
      have only : terminals (exchange (.install fields) early result late ++
          [.replied .nodePackageResponse (terminal result drained)]) =
          [terminal result drained] := by
        rw [terminals_append, none]
        rfl
      refine ⟨_, rfl, rfl, ?_, ?_, ?_⟩
      · intro response member
        rw [only, List.mem_singleton] at member
        obtain ⟨clean, count, bytes⟩ := transfer.complete (terminal_ok member.symm)
        have same := (clean_exchange (.install fields) early late result
          [.replied .nodePackageResponse (terminal result drained)] ⟨rfl, rfl⟩).mpr clean
        have frames : chunks (exchange (.install fields) early result late ++
            [.replied .nodePackageResponse (terminal result drained)]) =
              chunks (early ++ late) := by
          rw [chunks_append, chunks_exchange]
          exact List.append_nil _
        refine ⟨by simp [exchange, opening], ?_, same.1, same.2, ?_⟩
        · rw [← count]
          simp only [received, frames]
        · rw [bytes]
          simp only [payloadBytes, frames]
      · intro error member dirty
        obtain ⟨cause, rfl, -⟩ := transfer.noticed (broken.mp dirty)
        have own := installed_mem_exchange (.install fields) early late result transfer.payload _ _
          member (by simp)
        exact .inl (by rw [only, ← own]; rfl)
      · intro response member dirty
        obtain ⟨cause, rfl, explained⟩ := transfer.noticed (broken.mp dirty)
        have own := installed_mem_exchange (.install fields) early late result transfer.payload _ _
          member (by simp)
        exact ⟨cause, explained.mono _ _ _ _, .inl (by rw [only, ← own]; rfl)⟩

end ReviewProtocol
