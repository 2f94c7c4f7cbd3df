import ReviewProtocol.Agent.Loops

set_option autoImplicit false

/- Request boundaries. When every install that is told to proceed is followed by exactly
its payload, the loops read each request as a request and each chunk as payload. -/
namespace ReviewProtocol

open Framing (Bytes Act RecvStream SendStream Halt)
open Framing.Act (emit)

variable {σ : Type}

/-- What a frame was read as. -/
inductive FrameRead where
  | request (code : UInt32) (body : Bytes)
  | chunk (body : Bytes)
deriving DecidableEq

/-- The frames read, in order. -/
def framesRead (log : List AgentEvent) : List FrameRead :=
  log.filterMap fun
    | .request code body => some (.request code body)
    | .chunk _ body => some (.chunk body)
    | _ => none

@[simp] theorem framesRead_append (first second : List AgentEvent) :
    framesRead (first ++ second) = framesRead first ++ framesRead second := List.filterMap_append

/-- Payload frames that total a size, the last of them completing it. -/
structure Payload (size : Nat) (payload : List Bytes) : Prop where
  total : (payload.map List.length).sum = size
  last : ∀ last ∈ payload.getLast?, last ≠ []

/-- The reader expects exactly these frames. -/
structure Facing (reader : PackageReader) (payload : List Bytes) : Prop where
  sound : reader.failed = false
  whole : Payload reader.remaining payload
  fits : ∀ chunk ∈ payload, chunk.length < Framing.frameLimit

theorem Payload.nonempty {size : Nat} {first : Bytes} {rest : List Bytes}
    (payload : Payload size (first :: rest)) : 0 < size := by
  have last := payload.last ((first :: rest).getLast (List.cons_ne_nil _ _))
    (List.getLast?_eq_some_getLast _)
  have counted : ((first :: rest).getLast (List.cons_ne_nil _ _)).length ≤
      ((first :: rest).map List.length).sum :=
    List.single_le_sum (fun _ _ => Nat.zero_le _) _
      (List.mem_map_of_mem (List.getLast_mem _))
  have positive := List.length_pos_iff.mpr last
  rw [payload.total] at counted
  omega

theorem Facing.next {reader : PackageReader} {first : Bytes} {rest : List Bytes}
    (facing : Facing reader (first :: rest)) :
    first.length ≤ reader.remaining ∧
      Facing { reader with remaining := reader.remaining - first.length } rest := by
  have total := facing.whole.total
  simp only [List.map_cons, List.sum_cons] at total
  refine ⟨by omega, facing.sound, ⟨?_, ?_⟩, ?_⟩
  · dsimp only
    omega
  · intro last member
    cases rest with
    | nil => cases member
    | cons second rest => exact facing.whole.last last (by simpa using member)
  · intro chunk member
    exact facing.fits chunk (List.mem_cons_of_mem _ member)

/-- What is left of the payload on the wire, and what follows it. -/
def ahead (payload : List Bytes) (rest : Bytes) : Bytes := payload.flatMap Framing.frame ++ rest

/-- The agent after more of the payload was read. -/
def advanced (w : Agent σ) (bytes : Bytes) (events : List AgentEvent) : Agent σ :=
  { w with recv.bytes := bytes, log := w.log ++ events }

theorem advanced_advanced (w : Agent σ) (bytes bytes' : Bytes) (events events' : List AgentEvent) :
    advanced (advanced w bytes events) bytes' events' = advanced w bytes' (events ++ events') := by
  simp only [advanced, List.append_assoc]

/-- A call finds the end of the payload, or its next frame. -/
theorem nextChunk_facing {reader : PackageReader} {payload : List Bytes} {rest : Bytes}
    {w : Agent σ} (facing : Facing reader payload) (bytes : w.recv.bytes = ahead payload rest) :
    payload = [] ∧ reader.nextChunk.run w = (.ok (.finished, reader), w) ∨
    ∃ first left, payload = first :: left ∧ reader.nextChunk.run w =
      (.ok (.chunk first, { reader with remaining := reader.remaining - first.length }),
        advanced w (ahead left rest) [.chunk reader.remaining first]) := by
  have sound : ¬ reader.failed = true := by
    rw [facing.sound]
    decide
  cases payload with
  | nil =>
      have complete : reader.remaining = 0 := facing.whole.total.symm
      refine .inl ⟨rfl, ?_⟩
      rw [PackageReader.nextChunk, if_neg sound, if_pos complete]
      rfl
  | cons first left =>
      have expected := facing.whole.nonempty
      have front : w.recv.bytes = Framing.frame first ++ ahead left rest := by
        rw [bytes, ahead, List.flatMap_cons, List.append_assoc, ahead]
      refine .inr ⟨first, left, rfl, ?_⟩
      rw [PackageReader.nextChunk, if_neg sound, if_neg (by omega)]
      simp only [PackageReader.readChunk, Act.run_bind,
        Act.run_recv_frame front (facing.fits first List.mem_cons_self), Act.andThen_ok, emit]
      rw [if_neg (by have := facing.next.1; omega)]
      rfl

theorem InstallProg.run_facing {α : Type} (prog : InstallProg α) (reader : PackageReader)
    (payload : List Bytes) (rest : Bytes) (w : Agent σ) (facing : Facing reader payload)
    (bytes : w.recv.bytes = ahead payload rest) :
    ∃ value reader' read left events,
      (prog.run reader).run w = (.ok (value, reader'), advanced w (ahead left rest) events) ∧
      Facing reader' left ∧ payload = read ++ left ∧ framesRead events = read.map .chunk := by
  induction prog generalizing reader payload w with
  | ret value =>
      refine ⟨value, reader, [], payload, [], ?_, facing, rfl, rfl⟩
      simp only [InstallProg.run, Act.run_pure, advanced, ← bytes, List.append_nil]
  | nextChunk resume ih =>
      simp only [InstallProg.run, Act.run_bind]
      rcases nextChunk_facing facing bytes with ⟨rfl, ran⟩ | ⟨first, left, rfl, ran⟩
      · rw [ran, Act.andThen_ok]
        exact ih .finished reader [] w facing bytes
      · rw [ran, Act.andThen_ok]
        obtain ⟨value, reader', read, left', events, later, facing', split, frames⟩ :=
          ih (.chunk first) _ left
            (advanced w (ahead left rest) [.chunk reader.remaining first]) facing.next.2 rfl
        refine ⟨value, reader', first :: read, left', .chunk reader.remaining first :: events, ?_,
          facing', by rw [split]; rfl, ?_⟩
        · rw [later, advanced_advanced]
          rfl
        · simp only [framesRead] at frames ⊢
          simp [frames]

theorem drain_facing (reader : PackageReader) (payload : List Bytes) (rest : Bytes) (w : Agent σ)
    (facing : Facing reader payload) (bytes : w.recv.bytes = ahead payload rest) :
    ∃ events, reader.drain.run w = (.ok (.ok ()), advanced w rest events) ∧
      framesRead events = payload.map .chunk := by
  induction payload generalizing reader w with
  | nil =>
      rcases nextChunk_facing facing bytes with ⟨-, ran⟩ | ⟨first, left, impossible, -⟩
      · refine ⟨[], ?_, rfl⟩
        rw [PackageReader.drain, Act.run_loop]
        simp only [PackageReader.drainRound, Act.run_bind, ran, Act.andThen_ok, Act.run_pure]
        have same : w.recv.bytes = rest := bytes
        rw [advanced, ← same, List.append_nil]
      · cases impossible
  | cons first left ih =>
      rcases nextChunk_facing facing bytes with ⟨impossible, -⟩ | ⟨first', left', same, ran⟩
      · cases impossible
      · cases same
        obtain ⟨events, later, frames⟩ := ih _
          (advanced w (ahead left rest) [.chunk reader.remaining first]) facing.next.2 rfl
        refine ⟨.chunk reader.remaining first :: events, ?_, ?_⟩
        · rw [PackageReader.drain, Act.run_loop]
          simp only [PackageReader.drainRound, Act.run_bind, ran, Act.andThen_ok, Act.run_pure]
          rw [← PackageReader.drain, later, advanced_advanced]
          rfl
        · simp only [framesRead] at frames ⊢
          simp [frames]

/-- Whatever the handler leaves of a whole payload, the agent ends up right behind it. -/
theorem receivePackage_facing (handler : NodeHandler σ) (req : NodePackageRequest) (size : Nat)
    (payload : List Bytes) (rest : Bytes) (w : Agent σ) (whole : Payload size payload)
    (fits : ∀ chunk ∈ payload, chunk.length < Framing.frameLimit)
    (bytes : w.recv.bytes = ahead payload rest) :
    ∃ result state events, (receivePackage handler req size).run w =
        (.ok result, { advanced w rest events with state }) ∧
      framesRead events = payload.map .chunk := by
  let begun : Agent σ := { w with log := w.log ++ [.called (.nodePackageInstall req)] }
  have facing : Facing (.new size) payload := ⟨rfl, whole, fits⟩
  obtain ⟨⟨result, state⟩, reader, read, left, early, ran, facing', split, framesEarly⟩ :=
    InstallProg.run_facing (handler.nodePackageInstall req w.state) (.new size) payload rest begun
      facing bytes
  let left' : Agent σ :=
    { advanced begun (ahead left rest) (early ++ [.installed result]) with state }
  obtain ⟨late, drained, framesLate⟩ := drain_facing reader left rest left' facing' rfl
  have unfolded : (receivePackage handler req size).run w =
      Act.andThen (((handler.nodePackageInstall req w.state).run (.new size)).run begun)
        fun out => concludePackage out.1.1 out.1.2 out.2 := rfl
  have concluded : (concludePackage result state reader).run
      (advanced begun (ahead left rest) early) =
      Act.andThen (reader.drain.run left') fun drained => pure (terminal result drained) := by
    simp only [concludePackage, Act.run_bind, Act.andThen_ok, Act.update, emit, left', advanced,
      List.append_assoc]
  refine ⟨terminal result (.ok ()), state,
    .called (.nodePackageInstall req) :: (early ++ .installed result :: late), ?_, ?_⟩
  · rw [unfolded, ran, Act.andThen_ok, concluded, drained, Act.andThen_ok, Act.run_pure]
    simp only [left', begun, advanced, List.append_assoc, List.cons_append, List.nil_append]
  · simp only [framesRead] at framesEarly framesLate ⊢
    simp [framesEarly, framesLate, split]

/-- An install with its payload: the exchange ends behind the payload, or with a frame
the transport did not take. -/
theorem dispatchInstall_facing (wire : Wire) (handler : NodeHandler σ) (req : NodePackageRequest)
    (size : Nat) (payload : List Bytes) (rest : Bytes) (w : Agent σ)
    (proceed : verdictOf handler req w.state = .ok .proceed) (whole : Payload size payload)
    (fits : ∀ chunk ∈ payload, chunk.length < Framing.frameLimit)
    (bytes : w.recv.bytes = ahead payload rest) :
    ∃ w' events, w'.log = w.log ++ events ∧
      (((dispatchInstall wire handler req size).run w = (.ok (), w') ∧ w'.recv.bytes = rest ∧
        framesRead events = payload.map .chunk) ∨
      ∃ error, (dispatchInstall wire handler req size).run w =
        (.error (.failed (.sendError error)), w') ∧ framesRead events <+: payload.map .chunk) := by
  let asked : Agent σ :=
    { w with
      state := (handler.call (.nodePackageInstallPreflight req) w.state).2
      log := w.log ++ [.called (.node (.nodePackageInstallPreflight req))] }
  have unfolded : (dispatchInstall wire handler req size).run w =
      Act.andThen ((sendResponse wire .installPreflight (verdictOf handler req w.state)).run asked)
        fun _ => if verdictOf handler req w.state = .ok .proceed then
          (receivePackage handler req size >>= sendResponse wire .nodePackageResponse) else
            pure () := rfl
  rw [unfolded, if_pos proceed]
  rcases run_sendResponse wire .installPreflight (verdictOf handler req w.state) asked with
    sent | ⟨error, lost⟩
  · obtain ⟨result, state, events, received, frames⟩ :=
      receivePackage_facing handler req size payload
      rest (wrote asked .installPreflight (verdictOf handler req w.state)) whole fits bytes
    rw [sent, Act.andThen_ok, Act.run_bind, received, Act.andThen_ok]
    rcases run_sendResponse wire .nodePackageResponse result
      { advanced (wrote asked .installPreflight (verdictOf handler req w.state)) rest events with
        state }
      with sent' | ⟨error, lost⟩
    · refine ⟨_, opening req (verdictOf handler req w.state) ++
        (events ++ [.replied .nodePackageResponse result]), ?_, .inl ⟨sent', rfl, ?_⟩⟩
      · simp only [wrote, advanced, asked, opening, List.append_assoc, List.cons_append,
          List.nil_append]
      · simp only [framesRead] at frames ⊢
        simp [opening, frames]
    · refine ⟨_, opening req (verdictOf handler req w.state) ++ events, ?_,
        .inr ⟨error, lost, ?_⟩⟩
      · simp only [lostWrite, wrote, advanced, asked, opening, List.append_assoc, List.cons_append,
          List.nil_append]
      · simp only [framesRead] at frames ⊢
        simp [opening, frames]
  · rw [lost]
    exact ⟨_, [.called (.node (.nodePackageInstallPreflight req))], rfl,
      .inr ⟨error, rfl, List.nil_prefix⟩⟩

/-! ### Whole streams -/

/-- A request and the payload frames sent behind it. Every frame has a length its
length word can express. -/
structure Exchange where
  code : UInt32
  body : Bytes
  payload : List Bytes
  requestFits : (Wire.requestFrame code body).length < Framing.frameLimit
  payloadFits : ∀ chunk ∈ payload, chunk.length < Framing.frameLimit

/-- How the frames of an exchange are meant to be read. -/
def Exchange.frames (exchange : Exchange) : List FrameRead :=
  .request exchange.code exchange.body :: exchange.payload.map .chunk

/-- The bytes of a whole stream. -/
def scriptBytes : List Exchange → Bytes
  | [] => []
  | exchange :: rest =>
      Framing.frame (Wire.requestFrame exchange.code exchange.body) ++
        ahead exchange.payload (scriptBytes rest)

/-- Payload follows a request exactly when it is an install that the handler, in the
state it then has, tells to proceed. -/
def Exchange.Fits (wire : Wire) (loop : Loop σ) (state : σ) (exchange : Exchange) : Prop :=
  match pairing wire (loop.sees exchange.code) exchange.body with
  | .install fields =>
      if verdictOf loop.nodeHandler (.install fields) state = .ok .proceed then
        Payload fields.size.toNat exchange.payload
      else exchange.payload = []
  | _ => exchange.payload = []

/-- A stream whose payload frames are where the agent expects them. Arguments that do
not decode may only come last. -/
def Aligned (wire : Wire) (loop : Loop σ) : List Exchange → Agent σ → Prop
  | [], _ => True
  | exchange :: rest, w =>
      exchange.Fits wire loop w.state ∧
      (pairing wire (loop.sees exchange.code) exchange.body = .undecodable → rest = []) ∧
      match (loop.arms wire exchange.code exchange.body).run
        (atRequest w (ahead exchange.payload (scriptBytes rest)) exchange.code exchange.body) with
      | (.ok (), w') => Aligned wire loop rest w'
      | (.error _, _) => True

/-- One exchange that fits is read as it is meant to be. -/
theorem Exchange.Fits.read {wire : Wire} {loop : Loop σ} {exchange : Exchange} {w : Agent σ}
    (fits : exchange.Fits wire loop w.state) (rest : Bytes)
    (bytes : w.recv.bytes = ahead exchange.payload rest) :
    ∃ w' events, w'.log = w.log ++ events ∧
      (((loop.arms wire exchange.code exchange.body).run w = (.ok (), w') ∧
        w'.recv.bytes = rest ∧ framesRead events = exchange.payload.map .chunk) ∨
      (∃ error, (loop.arms wire exchange.code exchange.body).run w =
        (.error (.failed (.sendError error)), w') ∧
        framesRead events <+: exchange.payload.map .chunk) ∨
      (∃ error, (loop.arms wire exchange.code exchange.body).run w =
        (.error (.failed (.recvError error)), w') ∧
        pairing wire (loop.sees exchange.code) exchange.body = .undecodable ∧
        framesRead events = exchange.payload.map .chunk)) := by
  obtain ⟨plan, same, paired, -⟩ := loop.planned wire exchange.code exchange.body
  have performs := plan.perform_performs wire loop.nodeHandler exchange.code w
  rw [same, ← paired]
  unfold Exchange.Fits at fits
  rw [← paired] at fits
  rcases out : (plan.perform wire loop.nodeHandler exchange.code).run w with ⟨outcome, w'⟩
  rw [out] at performs
  cases performs with
  | undecodable error =>
      have none : exchange.payload = [] := fits
      exact ⟨_, [_], rfl, .inr (.inr ⟨error, rfl, rfl, by rw [none]; rfl⟩)⟩
  | undecodableLost error =>
      have none : exchange.payload = [] := fits
      exact ⟨_, [], by simp, .inr (.inr ⟨error, rfl, rfl, by rw [none]; rfl⟩)⟩
  | answered ty result =>
      have none : exchange.payload = [] := fits
      rw [none] at bytes ⊢
      exact ⟨_, [_], rfl, .inl ⟨rfl, bytes, rfl⟩⟩
  | answerLost ty result error =>
      exact ⟨_, [], by simp, .inr (.inl ⟨error, rfl, List.nil_prefix⟩)⟩
  | unary call ty ask =>
      have none : exchange.payload = [] := fits
      rw [none] at bytes ⊢
      exact ⟨_, [.called call, .replied ty (ask w.state).1], by simp [asked],
        .inl ⟨rfl, bytes, rfl⟩⟩
  | unaryLost call ty ask error =>
      exact ⟨_, [.called call], rfl, .inr (.inl ⟨error, rfl, List.nil_prefix⟩)⟩
  | silent call ask =>
      have none : exchange.payload = [] := fits
      rw [none] at bytes ⊢
      exact ⟨_, [_], rfl, .inl ⟨rfl, bytes, rfl⟩⟩
  | install fields _ _ installs =>
      by_cases proceed : verdictOf loop.nodeHandler (.install fields) w.state = .ok .proceed
      · have whole : Payload fields.size.toNat exchange.payload := by
          simpa only [Plan.pairing, if_pos proceed] using fits
        obtain ⟨w₁, events, log, read⟩ := dispatchInstall_facing wire loop.nodeHandler
          (.install fields) fields.size.toNat exchange.payload rest w proceed whole
          exchange.payloadFits bytes
        have ran :
            (dispatchInstall wire loop.nodeHandler (.install fields) fields.size.toNat).run w =
          (outcome, w') := out
        rw [ran] at read
        rcases read with ⟨finished, after, frames⟩ | ⟨error, lost, frames⟩
        · exact ⟨w₁, events, log, .inl ⟨finished, after, frames⟩⟩
        · exact ⟨w₁, events, log, .inr (.inl ⟨error, lost, frames⟩)⟩
      · have none : exchange.payload = [] := by
          simpa only [Plan.pairing, if_neg proceed] using fits
        rw [none] at bytes ⊢
        cases installs with
        | verdictLost error state =>
            exact ⟨_, [.called (.node (.nodePackageInstallPreflight (.install fields)))], rfl,
              .inr (.inl ⟨error, rfl, List.nil_prefix⟩)⟩
        | refused state refused => exact ⟨_, _, rfl, .inl ⟨rfl, bytes, rfl⟩⟩
        | receiving _ _ _ _ proceed' => exact absurd proceed' proceed
        | draining _ _ _ _ _ _ proceed' => exact absurd proceed' proceed
        | terminalLost _ _ _ _ _ _ _ proceed' => exact absurd proceed' proceed
        | finished _ _ _ _ _ _ proceed' => exact absurd proceed' proceed

/-- The frames were read as they were meant, each once and in order, and unless the
transport refused an answer all of them were. -/
structure ReadAsMeant (script : List Exchange) (outcome : Except (Halt HandlerError) Unit)
    (added : List AgentEvent) : Prop where
  inOrder : framesRead added <+: script.flatMap Exchange.frames
  complete : (∀ error, outcome ≠ .error (.failed (.sendError error))) →
    framesRead added = script.flatMap Exchange.frames

theorem ReadAsMeant.of_eq {script : List Exchange} {outcome : Except (Halt HandlerError) Unit}
    {added : List AgentEvent} (all : framesRead added = script.flatMap Exchange.frames) :
    ReadAsMeant script outcome added :=
  ⟨by rw [all], fun _ => all⟩

/-- With nothing to read, the loop does not get to its arms. -/
theorem serve_nothing (wire : Wire) {w : Agent σ} (bytes : w.recv.bytes = []) :
    ∃ outcome w', w'.log = w.log ∧ ∀ arms, (serve wire arms).run w = (outcome, w') := by
  rcases serve_cases wire w with ⟨frame, rest, code, body, front, -, -⟩ |
    ⟨error, rest, -, read⟩ | ⟨-, read⟩
  · rw [bytes] at front
    have length := congrArg List.length front
    rw [List.length_append, Framing.length_frame, List.length_nil] at length
    omega
  · exact ⟨_, { w with recv.bytes := rest }, rfl, read⟩
  · exact ⟨_, w, rfl, read⟩

theorem run_aligned (wire : Wire) (loop : Loop σ) (script : List Exchange) (w : Agent σ)
    (bytes : w.recv.bytes = scriptBytes script) (aligned : Aligned wire loop script w) :
    ∃ added, ((loop.run wire).run w).2.log = w.log ++ added ∧
      ReadAsMeant script ((loop.run wire).run w).1 added := by
  rw [loop.run_eq_serve]
  induction script generalizing w with
  | nil =>
      obtain ⟨outcome, w', log, read⟩ := serve_nothing wire bytes
      rw [read]
      exact ⟨[], by rw [log, List.append_nil], .of_eq rfl⟩
  | cons exchange rest ih =>
      obtain ⟨fits, last, later⟩ := aligned
      rw [serve_request (loop.arms wire) bytes exchange.requestFits]
      obtain ⟨w', events, log, outcome⟩ := fits.read (w := atRequest w
        (ahead exchange.payload (scriptBytes rest)) exchange.code exchange.body)
          (scriptBytes rest) rfl
      have begun : w'.log = w.log ++ (.request exchange.code exchange.body :: events) := by
        rw [log]
        simp only [atRequest, List.append_assoc, List.cons_append, List.nil_append]
      have frames : framesRead (.request exchange.code exchange.body :: events) =
        .request exchange.code exchange.body :: framesRead events := rfl
      rcases outcome with ⟨ran, after, read⟩ | ⟨error, ran, read⟩ | ⟨error, ran, undecodable, read⟩
      · rw [ran] at later ⊢
        rw [Act.andThen_ok]
        obtain ⟨added, log', meant⟩ := ih w' after later
        refine ⟨.request exchange.code exchange.body :: events ++ added, ?_, ?_⟩
        · rw [log', begun, List.append_assoc]
        · constructor
          · rw [framesRead_append, frames, read]
            exact (List.prefix_append_right_inj _).mpr meant.inOrder
          · intro sent
            rw [framesRead_append, frames, read, meant.complete sent]
            rfl
      · rw [ran, Act.andThen_error]
        refine ⟨_, begun, ?_, fun sent => absurd rfl (sent error)⟩
        rw [frames, List.flatMap_cons, Exchange.frames]
        exact List.IsPrefix.trans (List.cons_prefix_cons.mpr ⟨rfl, read⟩) (List.prefix_append _ _)
      · rw [ran, Act.andThen_error]
        refine ⟨_, begun, .of_eq ?_⟩
        rw [last undecodable, frames, read]
        exact (List.append_nil _).symm

/-- Requests and payload never change places: on a stream that carries exactly the
payload its installs call for, both loops read every request as a request, once and in
order, and every payload frame as payload. -/
theorem dispatch_aligned (wire : Wire) (loop : Loop σ) (script : List Exchange) (state : σ)
    (fin : Option IoError) (send : SendStream IoError)
    (aligned : Aligned wire loop script (connected state ⟨scriptBytes script, fin⟩ send)) :
    ReadAsMeant script
      ((loop.run wire).run (connected state ⟨scriptBytes script, fin⟩ send)).1
      ((loop.run wire).run (connected state ⟨scriptBytes script, fin⟩ send)).2.log := by
  obtain ⟨added, log, meant⟩ := run_aligned wire loop script _ rfl aligned
  rw [log]
  exact meant

/-- Two installs, the first in three chunks of which one is empty, a power request, and
arguments that do not decode. -/
def sampleScript : List Exchange :=
  [⟨109, Encoding.nodePackageRequest.encode (.install (bareInstall 2)), [[1], [], [2]],
      by decide, by decide⟩,
    ⟨109, Encoding.nodePackageRequest.encode (.install (bareInstall 0)), [], by decide, by decide⟩,
    ⟨106, Encoding.nodePowerRequest.encode .reboot, [], by decide, by decide⟩,
    ⟨109, [9], [], by decide, by decide⟩]

theorem sampleScript_aligned :
    Aligned Encoding.bincode (.handle eagerHandler) sampleScript
      (connected () ⟨scriptBytes sampleScript, none⟩ (.healthy (.simple .invalidInput))) := by
  refine ⟨(⟨rfl, by decide⟩ : Payload 2 [[1], [], [2]]), (by intro impossible; cases impossible),
    ?_⟩
  refine ⟨(⟨rfl, by decide⟩ : Payload 0 []), (by intro impossible; cases impossible), ?_⟩
  refine ⟨(rfl : ([] : List Bytes) = []), (by intro impossible; cases impossible), ?_⟩
  exact ⟨(rfl : ([] : List Bytes) = []), fun _ => rfl, by split <;> trivial⟩

theorem dispatch_aligned_sampleScript :
    ReadAsMeant sampleScript
      (((Loop.handle eagerHandler).run Encoding.bincode).run
        (connected () ⟨scriptBytes sampleScript, none⟩ (.healthy (.simple .invalidInput)))).1
      (((Loop.handle eagerHandler).run Encoding.bincode).run
        (connected () ⟨scriptBytes sampleScript, none⟩ (.healthy (.simple .invalidInput)))).2.log :=
  dispatch_aligned Encoding.bincode (.handle eagerHandler) sampleScript () none _
    sampleScript_aligned

end ReviewProtocol
