import ReviewProtocol.Agent.Legacy
import ReviewProtocol.Lib.Duplex
import ReviewProtocol.Lib.Transducer

set_option autoImplicit false

/- What a conversation means to an agent: which methods it calls and what it answers, message
by message, without streams, frames or readers. The loops do just that. -/
namespace ReviewProtocol

open Framing (Bytes Act RecvStream Halt frame)

variable {σ : Type}

/-- What comes of one message. -/
structure Deed where
  calls : List AgentCall
  replies : List ((ty : WireTy) × Except String ty.denote)

/-- A body of `node_package_install` over these chunks, whatever it leaves of them. -/
def InstallProg.feed {α : Type} : InstallProg α → List Bytes → α
  | ret value, _ => value
  | nextChunk resume, [] => (resume .finished).feed []
  | nextChunk resume, chunk :: left => (resume (.chunk chunk)).feed left

/-- An install, with the chunks that are sent if the handler wants them. -/
def NodeHandler.mean (handler : NodeHandler σ) (fields : Install) (payload : List Bytes)
    (state : σ) : Deed × σ × Except HandlerError Unit :=
  let preflight : NodeCall := .nodePackageInstallPreflight (.install fields)
  let asked := (handler.call preflight state).2
  let verdict := verdictOf handler (.install fields) state
  if verdict = .ok .proceed then
    let returned := (handler.nodePackageInstall (.install fields) asked).feed payload
    (⟨[.node preflight, .nodePackageInstall (.install fields)],
      [⟨.installPreflight, verdict⟩, ⟨.nodePackageResponse, returned.1⟩]⟩, returned.2, .ok ())
  else (⟨[.node preflight], [⟨.installPreflight, verdict⟩]⟩, asked, .ok ())

def Loop.mean (wire : Wire) (loop : Loop σ) (state : σ) (exchange : Exchange) :
    Deed × σ × Except HandlerError Unit :=
  match loop.plan wire exchange.code exchange.body with
  | .undecodable error =>
      (⟨[], [⟨.unit, .error (undecodableArgsMessage exchange.code)⟩]⟩, state,
        .error (.recvError error))
  | .answer ty result => (⟨[], [⟨ty, result⟩]⟩, state, .ok ())
  | .unary call ty ask => (⟨[call], [⟨ty, (ask state).1⟩]⟩, (ask state).2, .ok ())
  | .silent call ask => (⟨[call], []⟩, ask state, .ok ())
  | .install fields => loop.nodeHandler.mean fields exchange.payload state

/-- The agent without its stream. -/
def Loop.machine (wire : Wire) (loop : Loop σ) : Transducer σ Exchange Deed HandlerError where
  step := loop.mean wire

/-- Every install that the handler wants is followed by its package, and nothing else is. -/
def Loop.Meant (wire : Wire) (loop : Loop σ) : σ → List Exchange → Prop
  | _, [] => True
  | state, exchange :: rest =>
      exchange.Fits wire loop state ∧
      ((loop.mean wire state exchange).2.2 = .ok () →
        Meant wire loop (loop.mean wire state exchange).2.1 rest)

/-- From `w` to `w'` the agent did what was meant, and took what was sent for it. -/
structure Does (meant : Deed × σ × Except HandlerError Unit) (rest : Bytes) (w w' : Agent σ)
    (outcome : Except (Halt HandlerError) Unit) : Prop where
  called : calls w'.log = calls w.log ++ meant.1.calls
  replied : responses w'.log = responses w.log ++ meant.1.replies
  state : w'.state = meant.2.1
  outcome : outcome = meant.2.2.mapError .failed
  fin : w'.recv.fin = w.recv.fin
  bytes : meant.2.2 = .ok () → w'.recv.bytes = rest

theorem calls_payload {events : List AgentEvent} (payload : ∀ event ∈ events, event.IsPayload) :
    calls events = [] := by
  apply List.filterMap_eq_nil_iff.mpr
  intro event member
  have isPayload := payload event member
  cases event with
  | chunk remaining body => rfl
  | chunkLost error => rfl
  | request | called | installed | replied => cases isPayload

/-! ### Packages -/

/-- A handler that is given whole packages sees their chunks, and then the end. -/
theorem InstallProg.run_feed {α : Type} (prog : InstallProg α) {reader : PackageReader}
    {payload : List Bytes} (rest : Bytes) {w : Agent σ} (facing : Facing reader payload)
    (bytes : w.recv.bytes = ahead payload rest) :
    ∃ reader' left events,
      (prog.run reader).run w =
        (.ok (prog.feed payload, reader'), advanced w (ahead left rest) events) ∧
      Facing reader' left ∧ ∀ event ∈ events, event.IsPayload := by
  induction prog generalizing reader payload w with
  | ret value =>
      refine ⟨reader, payload, [], ?_, facing, ?_⟩
      · simp only [InstallProg.run, Act.run_pure, advanced, ← bytes, List.append_nil, feed]
      · intro event mem
        cases mem
  | nextChunk resume ih =>
      simp only [InstallProg.run, Act.run_bind]
      rcases nextChunk_facing facing bytes with ⟨rfl, ran⟩ | ⟨first, left, rfl, ran⟩
      · rw [ran, Act.andThen_ok]
        exact ih .finished facing bytes
      · rw [ran, Act.andThen_ok]
        obtain ⟨reader', left', events, later, facing', payloads⟩ :=
          ih (.chunk first) (w := advanced w (ahead left rest) [.chunk reader.remaining first])
            facing.next.2 rfl
        refine ⟨reader', left', .chunk reader.remaining first :: events, ?_, facing', ?_⟩
        · rw [later, advanced_advanced]
          rfl
        · intro event mem
          rcases List.mem_cons.mp mem with rfl | mem
          · trivial
          · exact payloads event mem

/-- What a drain reads is payload. -/
theorem drain_payload {reader : PackageReader} {w w' : Agent σ} {events : List AgentEvent}
    (ran : reader.drain.run w = (.ok (.ok ()), w')) (log : w'.log = w.log ++ events) : ∀ event ∈ events, event.IsPayload := by
  have drains := reader.run_drain w
  rw [ran] at drains
  obtain ⟨added, reader', ⟨stream, rfl, drawn⟩, -⟩ := drains
  have same : added = events := List.append_cancel_left log
  rw [← same]
  exact drawn.payload

/-- A handler that is given a whole package answers as it means to. -/
theorem receivePackage_feed (handler : NodeHandler σ) (req : NodePackageRequest) {size : Nat}
    {payload : List Bytes} (rest : Bytes) {w : Agent σ} (whole : Payload size payload)
    (fits : ∀ chunk ∈ payload, chunk.length < Framing.frameLimit)
    (bytes : w.recv.bytes = ahead payload rest) :
    ∃ events, (receivePackage handler req size).run w =
        (.ok ((handler.nodePackageInstall req w.state).feed payload).1,
          { advanced w rest events with
            state := ((handler.nodePackageInstall req w.state).feed payload).2 }) ∧
      calls events = [.nodePackageInstall req] ∧ responses events = [] := by
  let begun : Agent σ := { w with log := w.log ++ [.called (.nodePackageInstall req)] }
  have facing : Facing (.new size) payload := ⟨rfl, whole, fits⟩
  obtain ⟨reader, left, early, ran, facing', payloads⟩ :=
    (handler.nodePackageInstall req w.state).run_feed rest (w := begun) facing bytes
  rcases returned : (handler.nodePackageInstall req w.state).feed payload with ⟨result, state⟩
  rw [returned] at ran
  let left' : Agent σ :=
    { advanced begun (ahead left rest) (early ++ [.installed result]) with state }
  obtain ⟨late, drained, -⟩ := drain_facing reader left rest left' facing' rfl
  have payloads' := drain_payload drained rfl
  have unfolded : (receivePackage handler req size).run w =
      Act.andThen (((handler.nodePackageInstall req w.state).run (.new size)).run begun)
        fun out => concludePackage out.1.1 out.1.2 out.2 := rfl
  have concluded : (concludePackage result state reader).run
      (advanced begun (ahead left rest) early) =
      Act.andThen (reader.drain.run left') fun drained => pure (terminal result drained) := by
    simp only [concludePackage, Act.run_bind, Act.andThen_ok, Act.update, Act.emit, left',
      advanced, List.append_assoc]
  have kept : terminal result (.ok ()) = result := by
    cases result <;> rfl
  refine ⟨.called (.nodePackageInstall req) :: (early ++ .installed result :: late), ?_, ?_, ?_⟩
  · rw [unfolded, ran, Act.andThen_ok, concluded, drained, Act.andThen_ok, Act.run_pure, kept]
    simp only [left', begun, advanced, List.append_assoc, List.cons_append, List.nil_append]
  · have none := calls_payload payloads
    have none' := calls_payload payloads'
    simp only [calls] at none none'
    simp only [calls, List.filterMap_cons, List.filterMap_append, none, none', List.append_nil]
  · have none := responses_payload payloads
    have none' := responses_payload payloads'
    simp only [responses] at none none'
    simp only [responses, List.filterMap_cons, List.filterMap_append, none, none', List.append_nil]

/-- If a write is lost after as many tries as there are responses, not all went out. -/
theorem not_allSent_of_tried {w v : Agent σ} (tried : Tried w v) : ¬ AllSent w (lostWrite v) := by
  intro sent
  unfold Tried at tried
  unfold AllSent at sent
  have more : (lostWrite v).send.attempts = v.send.attempts + 1 := rfl
  have same : (lostWrite v).log = v.log := rfl
  rw [same] at sent
  omega

/-- An install that the handler wants, with its package. -/
theorem dispatchInstall_does {wire : Wire} {handler : NodeHandler σ} {fields : Install}
    {payload : List Bytes} (rest : Bytes) {w w' : Agent σ}
    {outcome : Except (Halt HandlerError) Unit}
    (proceed : verdictOf handler (.install fields) w.state = .ok .proceed)
    (whole : Payload fields.size.toNat payload)
    (fits : ∀ chunk ∈ payload, chunk.length < Framing.frameLimit)
    (bytes : w.recv.bytes = ahead payload rest)
    (ran : (dispatchInstall wire handler (.install fields) fields.size.toNat).run w = (outcome, w'))
    (sent : AllSent w w') : Does (handler.mean fields payload w.state) rest w w' outcome := by
  let preflight : AgentCall := .node (.nodePackageInstallPreflight (.install fields))
  let ready := asked w preflight
    (handler.call (.nodePackageInstallPreflight (.install fields)) w.state).2
  have readied : responses ready.log = responses w.log := by
    show responses (w.log ++ [.called preflight]) = _
    rw [responses_append]
    exact List.append_nil _
  rw [run_dispatchInstall] at ran
  rcases run_sendResponse wire .installPreflight (verdictOf handler (.install fields) w.state)
      ready with written | ⟨error, lost⟩
  · obtain ⟨events, received, called, unanswered⟩ :=
      receivePackage_feed handler (.install fields) rest (w := wrote ready .installPreflight
        (verdictOf handler (.install fields) w.state)) whole fits bytes
    rw [written, Act.andThen_ok, if_pos proceed, Act.run_bind, received, Act.andThen_ok] at ran
    rcases run_sendResponse wire .nodePackageResponse
        ((handler.nodePackageInstall (.install fields) ready.state).feed payload).1
        { advanced (wrote ready .installPreflight
            (verdictOf handler (.install fields) w.state)) rest events with
          state := ((handler.nodePackageInstall (.install fields) ready.state).feed payload).2 }
      with written' | ⟨error, lost⟩
    · cases written'.symm.trans ran
      unfold NodeHandler.mean
      simp only [if_pos proceed]
      refine ⟨?_, ?_, rfl, rfl, rfl, fun _ => rfl⟩
      · simp only [calls] at called
        simp only [wrote, advanced, ready, asked, calls, List.filterMap_append, called,
          List.filterMap_cons, List.filterMap_nil, List.append_assoc, List.nil_append,
          List.cons_append]
        rfl
      · simp only [responses] at unanswered
        simp only [wrote, advanced, ready, asked, responses, List.filterMap_append, unanswered,
          List.filterMap_cons, List.filterMap_nil, List.append_assoc, List.nil_append,
          List.cons_append]
    · cases lost.symm.trans ran
      apply absurd sent
      apply not_allSent_of_tried
      unfold Tried
      have one : responses (ready.log ++ [.replied .installPreflight
          (verdictOf handler (.install fields) w.state)] ++ events) = responses w.log ++
            [⟨.installPreflight, verdictOf handler (.install fields) w.state⟩] := by
        rw [responses_append, responses_append, unanswered, readied]
        exact List.append_nil _
      show w.send.attempts + (responses (ready.log ++ [.replied .installPreflight
        (verdictOf handler (.install fields) w.state)] ++ events)).length ≤
          w.send.attempts + 1 + (responses w.log).length
      rw [one, List.length_append, List.length_singleton]
      omega
  · rw [lost] at ran
    cases ran
    apply absurd sent
    apply not_allSent_of_tried
    unfold Tried
    rw [readied]
    exact Nat.le_refl _

/-! ### Messages -/

theorem Effected.does {effect : List AgentEvent × σ × Except (Halt HandlerError) Unit}
    {meant : Deed × σ × Except HandlerError Unit} {rest : Bytes} {w w' : Agent σ}
    {outcome : Except (Halt HandlerError) Unit} (effected : Effected effect w w' outcome)
    (called : calls effect.1 = meant.1.calls) (replied : responses effect.1 = meant.1.replies)
    (state : effect.2.1 = meant.2.1) (ended : effect.2.2 = meant.2.2.mapError .failed)
    (bytes : w.recv.bytes = rest) : Does meant rest w w' outcome where
  called := by
    rw [effected.log, ← called]
    exact List.filterMap_append
  replied := by rw [effected.log, responses_append, replied]
  state := effected.state.trans state
  outcome := effected.outcome.trans ended
  fin := by rw [effected.recv]
  bytes := by
    intro _
    rw [effected.recv, bytes]

/-- While writes go out, a message comes to what it means. -/
theorem Loop.arm_does (wire : Wire) (loop : Loop σ) {exchange : Exchange} (rest : Bytes)
    {w w' : Agent σ} {outcome : Except (Halt HandlerError) Unit}
    (fits : exchange.Fits wire loop w.state) (bytes : w.recv.bytes = ahead exchange.payload rest)
    (ran : (loop.arms wire exchange.code exchange.body).run w = (outcome, w'))
    (sent : AllSent w w') : Does (loop.mean wire w.state exchange) rest w w' outcome := by
  rw [loop.arms_eq] at ran
  unfold Exchange.Fits at fits
  rw [← loop.pairing_plan] at fits
  have bare (none : exchange.payload = []) : w.recv.bytes = rest := by
    rw [bytes, none]
    rfl
  have performs := (loop.plan wire exchange.code exchange.body).perform_performs wire
    loop.nodeHandler exchange.code w
  rw [ran] at performs
  unfold Loop.mean
  cases plan : loop.plan wire exchange.code exchange.body with
  | undecodable error =>
      rw [plan] at performs fits
      have effected := performs.effected (fun fields other => by cases other) sent
      exact effected.does rfl rfl rfl rfl (bare fits)
  | answer ty result =>
      rw [plan] at performs fits
      have effected := performs.effected (fun fields other => by cases other) sent
      exact effected.does rfl rfl rfl rfl (bare fits)
  | unary call ty ask =>
      rw [plan] at performs fits
      have effected := performs.effected (fun fields other => by cases other) sent
      exact effected.does rfl rfl rfl rfl (bare fits)
  | silent call ask =>
      rw [plan] at performs fits
      have effected := performs.effected (fun fields other => by cases other) sent
      exact effected.does rfl rfl rfl rfl (bare fits)
  | install fields =>
      rw [plan] at ran fits
      by_cases proceed : verdictOf loop.nodeHandler (.install fields) w.state = .ok .proceed
      · have whole : Payload fields.size.toNat exchange.payload := by
          simpa only [Plan.pairing, if_pos proceed] using fits
        exact dispatchInstall_does rest proceed whole exchange.payloadFits bytes ran sent
      · have none : exchange.payload = [] := by
          simpa only [Plan.pairing, if_neg proceed] using fits
        have effected := dispatchInstall_effected proceed ran sent
        dsimp only
        unfold NodeHandler.mean
        simp only [if_neg proceed]
        exact effected.does rfl rfl rfl rfl (bare none)

/-! ### Conversations -/

/-- How a loop ends behind the last message. -/
def ending (fin : Option IoError) : Except HandlerError Unit → Except (Halt HandlerError) Unit
  | .error error => .error (.failed error)
  | .ok () =>
      match fin with
      | none => .error .pending
      | some error =>
          if error.kind = .unexpectedEof then .ok () else .error (.failed (.recvError error))

/-- What a loop has come to is what the conversation means. -/
structure Means (answered : List (Exchange × Deed) × σ × Except HandlerError Unit)
    (w w' : Agent σ) (outcome : Except (Halt HandlerError) Unit) : Prop where
  called : calls w'.log = calls w.log ++ answered.1.flatMap (fun answer => answer.2.calls)
  replied : responses w'.log = responses w.log ++ answered.1.flatMap (fun answer => answer.2.replies)
  state : w'.state = answered.2.1
  outcome : outcome = ending w.recv.fin answered.2.2

/-- In front of less than a frame, a loop does nothing. -/
theorem Loop.run_rest (wire : Wire) (loop : Loop σ) {w : Agent σ}
    (incomplete : Framing.splitFrame w.recv.bytes = none) :
    Means ([], w.state, .ok ()) w ((loop.run wire).run w).2 ((loop.run wire).run w).1 := by
  rw [loop.run_eq_serve]
  show Means _ w (((agentProtocol wire).serve (goOn (loop.arms wire))).run w).2
    (((agentProtocol wire).serve (goOn (loop.arms wire))).run w).1
  cases fin : w.recv.fin with
  | none =>
      rw [(agentProtocol wire).serve_waiting _ ⟨fin, incomplete⟩]
      refine ⟨(List.append_nil _).symm, (List.append_nil _).symm, rfl, ?_⟩
      rw [fin]
      rfl
  | some error =>
      rw [(agentProtocol wire).serve_end _ incomplete fin]
      refine ⟨(List.append_nil _).symm, (List.append_nil _).symm, rfl, ?_⟩
      rw [fin]
      simp only [Framing.Protocol.stopped, agentProtocol, ending]
      by_cases eof : error.kind = .unexpectedEof
      · rw [if_pos eof, if_pos eof]
      · rw [if_neg eof, if_neg eof]

/-- A loop in front of a request. If all its writes go out, so do those of the request. -/
theorem Loop.run_request (wire : Wire) (loop : Loop σ) {code : UInt32} {body rest : Bytes}
    {w : Agent σ} (bytes : w.recv.bytes = frame (Wire.requestFrame code body) ++ rest)
    (fits : (Wire.requestFrame code body).length < Framing.frameLimit)
    (sent : AllSent w ((loop.run wire).run w).2) :
    ∃ outcome v, (loop.arms wire code body).run (atRequest w rest code body) = (outcome, v) ∧
      (loop.run wire).run w = Act.andThen (outcome, v) (fun _ => loop.run wire) ∧
      AllSent (atRequest w rest code body) v ∧ AllSent v ((loop.run wire).run w).2 := by
  have run_eq : (loop.run wire).run w = Act.andThen ((loop.arms wire code body).run
      (atRequest w rest code body)) fun _ => loop.run wire := by
    rw [loop.run_eq_serve]
    exact serve_request (loop.arms wire) bytes fits
  have early := (loop.plan wire code body).perform_tried wire loop.nodeHandler code
    (atRequest w rest code body)
  rw [← loop.arms_eq] at early
  rcases arm : (loop.arms wire code body).run (atRequest w rest code body) with ⟨outcome, v⟩
  rw [arm] at run_eq early
  have late : Tried v ((loop.run wire).run w).2 := by
    rw [run_eq]
    cases outcome with
    | error halt => exact Tried.refl v
    | ok => exact loop.run_tried wire v
  have read : responses (atRequest w rest code body).log = responses w.log := by
    rw [atRequest, responses_append]
    exact List.append_nil _
  have tries : (atRequest w rest code body).send.attempts = w.send.attempts := rfl
  unfold Tried at early late
  unfold AllSent at sent
  rw [read, tries] at early
  dsimp only at early
  refine ⟨outcome, v, rfl, run_eq, ?_, ?_⟩
  · unfold AllSent
    rw [read, tries]
    omega
  · unfold AllSent
    omega

/-- A request itself is no call and no response. -/
theorem Does.of_atRequest {meant : Deed × σ × Except HandlerError Unit} {rest ahead body : Bytes}
    {code : UInt32} {w v : Agent σ} {outcome : Except (Halt HandlerError) Unit}
    (does : Does meant rest (atRequest w ahead code body) v outcome) :
    Does meant rest w v outcome where
  called := by
    rw [does.called, atRequest, show calls (w.log ++ [.request code body]) = calls w.log from
      List.filterMap_append.trans (List.append_nil _)]
  replied := by
    rw [does.replied, atRequest, responses_append]
    exact congrArg (· ++ meant.1.replies) (List.append_nil _)
  state := does.state
  outcome := does.outcome
  fin := does.fin
  bytes := does.bytes

theorem Loop.run_means (wire : Wire) (loop : Loop σ) (script : List Exchange) {tail : Bytes}
    (incomplete : Framing.splitFrame tail = none) {w : Agent σ}
    (bytes : w.recv.bytes = scriptBytes script ++ tail) (meant : loop.Meant wire w.state script)
    (sent : AllSent w ((loop.run wire).run w).2) :
    Means ((loop.machine wire).run w.state script) w ((loop.run wire).run w).2
      ((loop.run wire).run w).1 := by
  induction script generalizing w with
  | nil =>
      apply loop.run_rest
      rw [bytes]
      exact incomplete
  | cons exchange rest ih =>
      obtain ⟨fits, later⟩ := meant
      have front : w.recv.bytes = frame (Wire.requestFrame exchange.code exchange.body) ++
          ahead exchange.payload (scriptBytes rest ++ tail) := by
        rw [bytes]
        simp only [scriptBytes, ahead, List.append_assoc]
      obtain ⟨outcome, v, arm, run_eq, here, after⟩ :=
        loop.run_request wire front exchange.requestFits sent
      have does : Does (loop.mean wire w.state exchange) (scriptBytes rest ++ tail) w v outcome :=
        (loop.arm_does wire (w := atRequest w _ _ _) _ fits rfl arm here).of_atRequest
      rcases step : loop.mean wire w.state exchange with ⟨deed, state, error | ⟨⟨⟩⟩⟩
      · rw [step] at does
        have stops : (loop.machine wire).step w.state exchange = (deed, state, .error error) := step
        rw [(loop.machine wire).run_cons_error rest stops, run_eq, does.outcome]
        refine ⟨?_, ?_, does.state, rfl⟩
        · rw [List.flatMap_singleton]
          exact does.called
        · rw [List.flatMap_singleton]
          exact does.replied
      · rw [step] at does later
        have goes : (loop.machine wire).step w.state exchange = (deed, state, .ok ()) := step
        have ended := does.outcome
        have kept : v.state = state := does.state
        rw [(loop.machine wire).run_cons_ok rest goes]
        rw [run_eq, ended] at after ⊢
        have meant' := later rfl
        rw [show (deed, state, (Except.ok () : Except HandlerError Unit)).2.1 = v.state from
          kept.symm] at meant'
        have means := ih (does.bytes rfl) meant' after
        rw [kept] at means
        refine ⟨?_, ?_, means.state, ?_⟩
        · show calls ((loop.run wire).run v).2.log = _
          rw [means.called, does.called, List.append_assoc, List.flatMap_cons]
        · show responses ((loop.run wire).run v).2.log = _
          rw [means.replied, does.replied, List.append_assoc, List.flatMap_cons]
        · show ((loop.run wire).run v).1 = _
          rw [means.outcome, does.fin]

/-- An agent that loses no write does what the conversation means: it calls the methods and
gives the answers that are meant, ends in the state and for the reason that are meant, and
before all of the conversation has arrived it has done the front of that. -/
theorem conversation_meaning (wire : Wire) (loop : Loop σ) (script : List Exchange) (tail : Bytes)
    (incomplete : Framing.splitFrame tail = none) (state : σ) (fin : Option IoError)
    (send : Framing.SendStream IoError) (meant : loop.Meant wire state script)
    (sent : AllSent (connected state ⟨scriptBytes script ++ tail, fin⟩ send)
      ((loop.run wire).run (connected state ⟨scriptBytes script ++ tail, fin⟩ send)).2) :
    Means ((loop.machine wire).run state script) (connected state ⟨[], fin⟩ send)
      ((loop.run wire).run (connected state ⟨scriptBytes script ++ tail, fin⟩ send)).2
      ((loop.run wire).run (connected state ⟨scriptBytes script ++ tail, fin⟩ send)).1 ∧
    ((loop.machine wire).run state script).1.map Prod.fst <+: script ∧
    ∀ less : Agent σ, less.Extends (connected state ⟨scriptBytes script ++ tail, fin⟩ send) →
      calls ((loop.run wire).run less).2.log <+:
        ((loop.machine wire).run state script).1.flatMap (fun answer => answer.2.calls) ∧
      responses ((loop.run wire).run less).2.log <+:
        ((loop.machine wire).run state script).1.flatMap fun answer => answer.2.replies := by
  have means := loop.run_means wire script incomplete rfl meant sent
  refine ⟨⟨means.called, means.replied, means.state, means.outcome⟩,
    (loop.machine wire).run_front state script, ?_⟩
  intro less extended
  obtain ⟨later, log⟩ := Framing.Act.log_prefix (loop.run wire) extended
  have called := means.called
  have replied := means.replied
  rw [← log] at called replied
  constructor
  · exact ⟨calls later, List.filterMap_append.symm.trans called⟩
  · exact ⟨responses later, (responses_append _ _).symm.trans replied⟩

theorem install_fits :
    (Wire.requestFrame 109 (Encoding.nodePackageRequest.encode
      (.install (bareInstall 2)))).length < Framing.frameLimit := by
  decide

theorem reboot_fits :
    (Wire.requestFrame 106 (Encoding.nodePowerRequest.encode .reboot)).length <
      Framing.frameLimit := by
  decide

theorem bare_fits (code : UInt32) : (Wire.requestFrame code []).length < Framing.frameLimit := by
  simp [Wire.requestFrame, Framing.le32, Framing.frameLimit]

theorem chunks_fit : ∀ chunk ∈ ([[1], [2]] : List Bytes), chunk.length < Framing.frameLimit := by
  decide

theorem none_fit : ∀ chunk ∈ ([] : List Bytes), chunk.length < Framing.frameLimit := by
  simp

/-- An install in two chunks of which the handler leaves all, an unassigned code, and a
reboot. -/
def sampleTalk : List Exchange :=
  [⟨109, Encoding.nodePackageRequest.encode (.install (bareInstall 2)), [[1], [2]],
      install_fits, chunks_fit⟩,
    ⟨9999, [], [], bare_fits 9999, none_fit⟩,
    ⟨106, Encoding.nodePowerRequest.encode .reboot, [], reboot_fits, none_fit⟩]

theorem sampleTalk_meant : (Loop.handle eagerHandler).Meant Encoding.bincode () sampleTalk := by
  refine ⟨(⟨rfl, by decide⟩ : Payload 2 [[1], [2]]), fun _ => ?_⟩
  refine ⟨(rfl : ([] : List Bytes) = []), fun _ => ?_⟩
  exact ⟨(rfl : ([] : List Bytes) = []), fun _ => trivial⟩

theorem conversation_meaning_sample :
    calls (((Loop.handle eagerHandler).run Encoding.bincode).run
      (connected () ⟨scriptBytes sampleTalk ++ [], none⟩ (.healthy (.simple .invalidInput)))).2.log =
      [.node (.nodePackageInstallPreflight (.install (bareInstall 2))),
        .nodePackageInstall (.install (bareInstall 2)), .node (.nodePower .reboot)] := by
  obtain ⟨means, -, -⟩ := conversation_meaning Encoding.bincode (.handle eagerHandler) sampleTalk []
    rfl () none (.healthy (.simple .invalidInput)) sampleTalk_meant rfl
  rw [means.called]
  rfl

end ReviewProtocol
