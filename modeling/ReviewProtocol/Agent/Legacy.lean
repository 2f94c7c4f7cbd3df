import ReviewProtocol.Agent.Passage
import ReviewProtocol.Agent.Pairing

set_option autoImplicit false

/- The four requests that have two codes. The old code is routed through the grouped
method of the new one, and the grouped method, unless it is overridden, goes back to the
flat method of the old one. -/
namespace ReviewProtocol

open Framing (Bytes Act Frames Protocol RecvStream SendStream Halt)
open Framing.Act (emit)

variable {σ : Type}

/-- An implementation of `Handler` that overrides flat methods only. -/
structure FlatHandler (σ : Type) where
  flat : (call : FlatCall) → σ → Except String call.ret.denote × σ

namespace FlatHandler

variable (handler : FlatHandler σ)

/-- The default of `Handler::node_power`. -/
def nodePower : NodePowerRequest → σ → Except String NodePowerResponse × σ
  | .reboot, state =>
      let (result, state) := handler.flat .reboot state
      (result.map fun () => .initiated, state)
  | .shutdown, state =>
      let (result, state) := handler.flat .shutdown state
      (result.map fun () => .initiated, state)
  | .gracefulReboot, state => (.error "not supported", state)
  | .gracefulShutdown, state => (.error "not supported", state)

/-- The default of `Handler::node_observation`. -/
def nodeObservation : NodeObservationRequest → σ → Except String NodeObservationResponse × σ
  | .processList, state =>
      let (result, state) := handler.flat .processList state
      (result.map fun processes => .processList processes, state)
  | .resourceUsage, state =>
      let (result, state) := handler.flat .resourceUsage state
      (result.map fun (hostname, resourceUsage) => .resourceUsage hostname resourceUsage, state)
  | .uptime, state => (.error "not supported", state)

/-- The trait's defaults around the flat methods. -/
def toHandler : Handler σ where
  flat := handler.flat
  node
    | .nodePower req => handler.nodePower req
    | .nodeObservation req => handler.nodeObservation req
    | _ => fun state => (.error "not supported", state)
  nodePackageInstall _ state := .ret (.error "not supported", state)

/-- The same handler, keeping a list of the flat methods that are called. -/
def recorded : FlatHandler (σ × List FlatCall) where
  flat call state :=
    let (result, state') := handler.flat call state.1
    (result, state', state.2 ++ [call])

end FlatHandler

/-- The frame of the new code that asks for what a frame of an old code asks for. -/
def modernRequest (wire : Wire) (request : UInt32 × Bytes) : UInt32 × Bytes :=
  match Client.RequestCode.fromPrimitive request.1 with
  | .reboot =>
      (Client.RequestCode.nodePower.discriminant, wire.encode .nodePowerRequest .reboot)
  | .shutdown =>
      (Client.RequestCode.nodePower.discriminant, wire.encode .nodePowerRequest .shutdown)
  | .processList =>
      (Client.RequestCode.nodeObservation.discriminant,
        wire.encode .nodeObservationRequest .processList)
  | .resourceUsage =>
      (Client.RequestCode.nodeObservation.discriminant,
        wire.encode .nodeObservationRequest .resourceUsage)
  | _ => request

/-- What the new code makes of an entry in the log of the old one: replies to power
requests are gone, and observations are wrapped. -/
def modernEvents (request : Client.RequestCode) (event : AgentEvent) : List AgentEvent :=
  match request, event with
  | .reboot, .replied _ _ => []
  | .shutdown, .replied _ _ => []
  | .processList, .replied (.vec .process) result =>
      [.replied .nodeObservationResponse (result.map fun processes => .processList processes)]
  | .resourceUsage, .replied (.pair .str .resourceUsage) result =>
      [.replied .nodeObservationResponse
        (result.map fun (hostname, resourceUsage) => .resourceUsage hostname resourceUsage)]
  | _, event => [event]

def modernExchange (wire : Wire) (exchange : Protocol.Exchange (UInt32 × Bytes) AgentEvent) :
    Protocol.Exchange (UInt32 × Bytes) AgentEvent where
  request := modernRequest wire exchange.request
  logged := exchange.logged.flatMap
    (modernEvents (Client.RequestCode.fromPrimitive exchange.request.1))

/-- The arguments of the new frames come back as they were sent. -/
structure GroupedRoundTrips (wire : Wire) : Prop where
  reboot : wire.RoundTrips .nodePowerRequest .reboot
  shutdown : wire.RoundTrips .nodePowerRequest .shutdown
  processList : wire.RoundTrips .nodeObservationRequest .processList
  resourceUsage : wire.RoundTrips .nodeObservationRequest .resourceUsage

/-! ### What a request does while writes go out -/

/-- The log, the state and the outcome of a request that is no install with a payload. -/
def Plan.effect (handler : NodeHandler σ) (code : UInt32) (state : σ) :
    Plan σ → List AgentEvent × σ × Except (Halt HandlerError) Unit
  | undecodable error =>
      ([.replied .unit (.error (undecodableArgsMessage code))], state,
        .error (.failed (.recvError error)))
  | answer ty result => ([.replied ty result], state, .ok ())
  | unary call ty ask => ([.called call, .replied ty (ask state).1], (ask state).2, .ok ())
  | silent call ask => ([.called call], ask state, .ok ())
  | install fields =>
      (opening (.install fields) (verdictOf handler (.install fields) state),
        (handler.call (.nodePackageInstallPreflight (.install fields)) state).2, .ok ())

/-- The agent has come from `w` to `w'` by this effect, with the same bytes to read. -/
structure Effected (effect : List AgentEvent × σ × Except (Halt HandlerError) Unit)
    (w w' : Agent σ) (outcome : Except (Halt HandlerError) Unit) : Prop where
  log : w'.log = w.log ++ effect.1
  state : w'.state = effect.2.1
  outcome : outcome = effect.2.2
  recv : w'.recv = w.recv

theorem not_allSent_lostWrite {w v : Agent σ} (attempts : v.send.attempts = w.send.attempts)
    (unwritten : responses v.log = responses w.log) : ¬ AllSent w (lostWrite v) := by
  intro sent
  unfold AllSent at sent
  show False
  have same : (responses (lostWrite v).log).length = (responses w.log).length := by
    rw [← unwritten]
    rfl
  have more : (lostWrite v).send.attempts = w.send.attempts + 1 := by
    rw [← attempts]
    rfl
  omega

/-- A request that is no install has its effect, unless a write is lost. -/
theorem Performs.effected {handler : NodeHandler σ} {code : UInt32} {plan : Plan σ}
    {w w' : Agent σ} {outcome : Except (Halt HandlerError) Unit}
    (other : ∀ fields, plan ≠ .install fields)
    (performs : Performs handler code w plan outcome w') (sent : AllSent w w') :
    Effected (plan.effect handler code w.state) w w' outcome := by
  cases performs with
  | undecodable error => exact ⟨rfl, rfl, rfl, rfl⟩
  | undecodableLost error => exact absurd sent (not_allSent_lostWrite rfl rfl)
  | answered ty result => exact ⟨rfl, rfl, rfl, rfl⟩
  | answerLost ty result error => exact absurd sent (not_allSent_lostWrite rfl rfl)
  | unary call ty ask => exact ⟨List.append_assoc _ _ _, rfl, rfl, rfl⟩
  | unaryLost call ty ask error =>
      have unwritten : responses (asked w call (ask w.state).2).log = responses w.log := by
        rw [asked, responses_append]
        exact List.append_nil _
      exact absurd sent (not_allSent_lostWrite rfl unwritten)
  | silent call ask => exact ⟨rfl, rfl, rfl, rfl⟩
  | install fields outcome w' installs => exact absurd rfl (other fields)

/-- So has an install, if the handler refuses it. -/
theorem dispatchInstall_effected {wire : Wire} {handler : NodeHandler σ} {code : UInt32}
    {fields : Install} {w w' : Agent σ} {outcome : Except (Halt HandlerError) Unit}
    (refused : verdictOf handler (.install fields) w.state ≠ .ok .proceed)
    (ran : ((Plan.install fields).perform wire handler code).run w = (outcome, w'))
    (sent : AllSent w w') :
    Effected ((Plan.install fields).effect handler code w.state) w w' outcome := by
  simp only [Plan.perform] at ran
  rw [run_dispatchInstall] at ran
  rcases run_sendResponse wire .installPreflight (verdictOf handler (.install fields) w.state)
      (asked w _ _) with written | ⟨error, lost⟩
  · rw [written, Act.andThen_ok, if_neg refused] at ran
    cases ran
    exact ⟨List.append_assoc _ _ _, rfl, rfl, rfl⟩
  · rw [lost] at ran
    cases ran
    have unwritten : responses (asked w (.node (.nodePackageInstallPreflight (.install fields)))
        (handler.call (.nodePackageInstallPreflight (.install fields)) w.state).2).log =
        responses w.log := by
      rw [asked, responses_append]
      exact List.append_nil _
    exact absurd sent (not_allSent_lostWrite rfl unwritten)

theorem Plan.effected {wire : Wire} {handler : NodeHandler σ} {code : UInt32} {plan : Plan σ}
    {w w' : Agent σ} {outcome : Except (Halt HandlerError) Unit}
    (refuses : ∀ fields state, verdictOf handler (.install fields) state ≠ .ok .proceed)
    (ran : (plan.perform wire handler code).run w = (outcome, w')) (sent : AllSent w w') :
    Effected (plan.effect handler code w.state) w w' outcome := by
  by_cases installs : ∃ fields, plan = .install fields
  · obtain ⟨fields, rfl⟩ := installs
    exact dispatchInstall_effected (refuses fields w.state) ran sent
  · have performs := plan.perform_performs wire handler code w
    rw [ran] at performs
    apply performs.effected _ sent
    intro fields same
    exact installs ⟨fields, same⟩

/-! ### The two codes of a request -/

/-- What an effect becomes under the new codes. -/
def modernEffect (request : Client.RequestCode)
    (effect : List AgentEvent × σ × Except (Halt HandlerError) Unit) :
    List AgentEvent × σ × Except (Halt HandlerError) Unit :=
  (effect.1.flatMap (modernEvents request), effect.2)

/-- The requests that have two codes. -/
def Client.RequestCode.isLegacy : Client.RequestCode → Bool
  | reboot => true
  | shutdown => true
  | processList => true
  | resourceUsage => true
  | _ => false

theorem modernRequest_of_not_legacy {wire : Wire} {request : UInt32 × Bytes}
    (modern : (Client.RequestCode.fromPrimitive request.1).isLegacy = false) :
    modernRequest wire request = request := by
  unfold modernRequest
  cases code : Client.RequestCode.fromPrimitive request.1 <;> rw [code] at modern <;> first
    | rfl
    | cases modern

theorem modernEvents_of_not_legacy {request : Client.RequestCode}
    (modern : request.isLegacy = false)
    (event : AgentEvent) : modernEvents request event = [event] := by
  cases request <;> first
    | rfl
    | cases modern

theorem Handler.plan_nodePower {wire : Wire} (handler : Handler σ) {req : NodePowerRequest}
    (lawful : wire.RoundTrips .nodePowerRequest req) :
    handler.plan wire Client.RequestCode.nodePower.discriminant
      (wire.encode .nodePowerRequest req) =
      powerPlan handler.node req := by
  have decoded : wire.decode .nodePowerRequest (wire.encode .nodePowerRequest req) = .ok req :=
    lawful
  unfold Handler.plan
  rw [Client.RequestCode.fromPrimitive_discriminant]
  simp only [nodePlan, planArgs, decoded]

theorem Handler.plan_nodeObservation {wire : Wire} (handler : Handler σ)
    {req : NodeObservationRequest} (lawful : wire.RoundTrips .nodeObservationRequest req) :
    handler.plan wire Client.RequestCode.nodeObservation.discriminant
        (wire.encode .nodeObservationRequest req) =
      nodeUnary handler.node (.nodeObservation req) := by
  have decoded : wire.decode .nodeObservationRequest (wire.encode .nodeObservationRequest req) =
      .ok req := lawful
  unfold Handler.plan
  rw [Client.RequestCode.fromPrimitive_discriminant]
  simp only [nodePlan, planArgs, decoded]

section simulation

variable {wire : Wire} (handler : FlatHandler σ)

/-- What a request does to a flat handler. -/
def FlatHandler.effect (wire : Wire) (request : UInt32 × Bytes) (state : σ) :
    List AgentEvent × σ × Except (Halt HandlerError) Unit :=
  (handler.toHandler.plan wire request.1 request.2).effect handler.toHandler.toNodeHandler request.1
    state

/-- Under its new code a request has the effect of its old one. -/
theorem FlatHandler.effect_modern (lawful : GroupedRoundTrips wire) (request : UInt32 × Bytes)
    (state : σ) :
    handler.effect wire (modernRequest wire request) state =
      modernEffect (Client.RequestCode.fromPrimitive request.1)
        (handler.effect wire request state) := by
  unfold FlatHandler.effect
  by_cases legacy : (Client.RequestCode.fromPrimitive request.1).isLegacy = true
  · cases code : Client.RequestCode.fromPrimitive request.1 <;> rw [code] at legacy <;>
      first
        | (cases legacy; done)
        | skip
    case reboot =>
        have modern : modernRequest wire request = (Client.RequestCode.nodePower.discriminant,
            wire.encode .nodePowerRequest .reboot) := by simp only [modernRequest, code]
        have old : handler.toHandler.plan wire request.1 request.2 =
            handler.toHandler.translated (.nodePower .reboot) .unit (Except.map fun _ => ()) := by
          simp only [Handler.plan, code]
        rw [modern, old, Handler.plan_nodePower _ lawful.reboot]
        rfl
    case shutdown =>
        have modern : modernRequest wire request = (Client.RequestCode.nodePower.discriminant,
            wire.encode .nodePowerRequest .shutdown) := by simp only [modernRequest, code]
        have old : handler.toHandler.plan wire request.1 request.2 =
            handler.toHandler.translated (.nodePower .shutdown) .unit (Except.map fun _ => ()) := by
          simp only [Handler.plan, code]
        rw [modern, old, Handler.plan_nodePower _ lawful.shutdown]
        rfl
    case processList =>
        have modern : modernRequest wire request = (Client.RequestCode.nodeObservation.discriminant,
            wire.encode .nodeObservationRequest .processList) := by simp only [modernRequest, code]
        have old : handler.toHandler.plan wire request.1 request.2 =
            handler.toHandler.translated (.nodeObservation .processList) (.vec .process)
              (· >>= flatProcessList wire) := by
          simp only [Handler.plan, code]
        rw [modern, old, Handler.plan_nodeObservation _ lawful.processList]
        have answer : handler.toHandler.node (.nodeObservation .processList) state =
            ((handler.flat .processList state).1.map fun processes => .processList processes,
              (handler.flat .processList state).2) := rfl
        simp only [Plan.effect, nodeUnary, Handler.translated, answer]
        cases (handler.flat .processList state).1 with
        | ok processes => rfl
        | error text => rfl
    case resourceUsage =>
        have modern : modernRequest wire request = (Client.RequestCode.nodeObservation.discriminant,
            wire.encode .nodeObservationRequest .resourceUsage) := by
          simp only [modernRequest, code]
        have old : handler.toHandler.plan wire request.1 request.2 =
            handler.toHandler.translated (.nodeObservation .resourceUsage)
              (.pair .str .resourceUsage)
              (· >>= flatResourceUsage wire) := by
          simp only [Handler.plan, code]
        rw [modern, old, Handler.plan_nodeObservation _ lawful.resourceUsage]
        have answer : handler.toHandler.node (.nodeObservation .resourceUsage) state =
            ((handler.flat .resourceUsage state).1.map fun (hostname, resourceUsage) =>
                .resourceUsage hostname resourceUsage,
              (handler.flat .resourceUsage state).2) := rfl
        simp only [Plan.effect, nodeUnary, Handler.translated, answer]
        cases (handler.flat .resourceUsage state).1 with
        | ok reading => rfl
        | error text => rfl
  · have modern : (Client.RequestCode.fromPrimitive request.1).isLegacy = false := by
      simpa only [Bool.not_eq_true] using legacy
    have same : modernEvents (Client.RequestCode.fromPrimitive request.1) = fun event => [event] :=
      funext (modernEvents_of_not_legacy modern)
    rw [modernRequest_of_not_legacy modern, modernEffect, same, List.flatMap_singleton']

theorem FlatHandler.refuses (fields : Install) (state : σ) :
    verdictOf handler.toHandler.toNodeHandler (.install fields) state ≠ .ok .proceed := by
  intro proceed
  cases proceed

/-- While writes go out, a request of a flat handler is its effect and then the loop
again. -/
theorem FlatHandler.run_request {request : UInt32 × Bytes} {w : Agent σ} {tail : Bytes}
    (bytes : w.recv.bytes = Framing.frame (Wire.requestFrame request.1 request.2) ++ tail)
    (fits : (Wire.requestFrame request.1 request.2).length < Framing.frameLimit)
    (sent : AllSent w ((handle wire handler.toHandler).run w).2) :
    ∃ outcome w', Effected (handler.effect wire request w.state)
        (atRequest w tail request.1 request.2) w' outcome ∧
      ((handle wire handler.toHandler).run w =
        Act.andThen (outcome, w') fun _ => handle wire handler.toHandler) ∧
      AllSent w' ((handle wire handler.toHandler).run w).2 := by
  let loop : Loop σ := .handle handler.toHandler
  have run_eq : (handle wire handler.toHandler).run w =
      Act.andThen ((handler.toHandler.dispatch wire request.1 request.2).run
        (atRequest w tail request.1 request.2)) fun _ => handle wire handler.toHandler :=
    serve_request (handler.toHandler.dispatch wire) bytes fits
  rcases arm : (handler.toHandler.dispatch wire request.1 request.2).run
      (atRequest w tail request.1 request.2) with ⟨outcome, w'⟩
  rw [arm] at run_eq
  have planned := handler.toHandler.dispatch_eq wire request.1 request.2
  have early := (handler.toHandler.plan wire request.1 request.2).perform_tried wire
    handler.toHandler.toNodeHandler request.1 (atRequest w tail request.1 request.2)
  rw [← planned, arm] at early
  have late : Tried w' ((handle wire handler.toHandler).run w).2 := by
    rw [run_eq]
    cases outcome with
    | error halt => exact Tried.refl w'
    | ok => exact loop.run_tried wire w'
  have read : responses (atRequest w tail request.1 request.2).log = responses w.log := by
    rw [atRequest, responses_append]
    exact List.append_nil _
  have tries : (atRequest w tail request.1 request.2).send.attempts = w.send.attempts := rfl
  unfold AllSent at sent
  unfold Tried at early late
  refine ⟨outcome, w', ?_, run_eq, ?_⟩
  · rw [planned] at arm
    apply Plan.effected handler.refuses arm
    unfold AllSent
    rw [read, tries] at early ⊢
    dsimp only at early
    omega
  · unfold AllSent
    rw [read, tries] at early
    dsimp only at early
    omega

/-- A loop past its last whole frame: its log and its state stay, and its outcome is a
matter of how the stream goes on. -/
theorem FlatHandler.run_rest (wire : Wire) {w : Agent σ} {rest : Bytes}
    (frames : Frames w.recv.bytes [] rest) :
    ((handle wire handler.toHandler).run w).2.log = w.log ∧
      ((handle wire handler.toHandler).run w).2.state = w.state ∧
      ((handle wire handler.toHandler).run w).1 =
        match w.recv.fin with
        | none => .error .pending
        | some error => if error.kind = .unexpectedEof then .ok () else
            .error (.failed (.recvError error)) := by
  have same : w.recv.bytes = rest := frames.bytes
  have incomplete : Framing.splitFrame w.recv.bytes = none := by
    rw [same]
    exact frames.incomplete
  unfold handle serve
  cases fin : w.recv.fin with
  | none =>
      rw [(agentProtocol wire).serve_waiting _ ⟨fin, incomplete⟩]
      exact ⟨rfl, rfl, rfl⟩
  | some error =>
      rw [(agentProtocol wire).serve_end _ incomplete fin]
      refine ⟨rfl, rfl, ?_⟩
      simp only [Protocol.stopped, agentProtocol]
      by_cases eof : error.kind = .unexpectedEof
      · rw [if_pos eof, if_pos eof]
      · rw [if_neg eof, if_neg eof]

/-- Two runs of a flat handler that differ in the codes they are asked by. -/
structure Alike (wire : Wire) (requests : List (UInt32 × Bytes)) (w m w' m' : Agent σ)
    (outcome outcome' : Except (Halt HandlerError) Unit) : Prop where
  outcome : outcome' = outcome
  state : m'.state = w'.state
  logs : ∃ exchanges : List (Protocol.Exchange (UInt32 × Bytes) AgentEvent),
    exchanges.map Protocol.Exchange.request <+: requests ∧
    w'.log = w.log ++ exchanges.flatMap (Protocol.Exchange.events (agentProtocol wire)) ∧
    m'.log = m.log ++
      (exchanges.map (modernExchange wire)).flatMap (Protocol.Exchange.events (agentProtocol wire))

/-- The frames of requests. -/
def requestFrames (requests : List (UInt32 × Bytes)) : List Bytes :=
  requests.map fun request => Wire.requestFrame request.1 request.2

theorem FlatHandler.runs_alike (lawful : GroupedRoundTrips wire) (requests : List (UInt32 × Bytes))
    {rest : Bytes} {w m : Agent σ} (state : m.state = w.state) (fin : m.recv.fin = w.recv.fin)
    (legacy : Frames w.recv.bytes (requestFrames requests) rest)
    (modern : Frames m.recv.bytes (requestFrames (requests.map (modernRequest wire))) rest)
    (sent : AllSent w ((handle wire handler.toHandler).run w).2)
    (sent' : AllSent m ((handle wire handler.toHandler).run m).2) :
    Alike wire requests w m ((handle wire handler.toHandler).run w).2
      ((handle wire handler.toHandler).run m).2 ((handle wire handler.toHandler).run w).1
      ((handle wire handler.toHandler).run m).1 := by
  induction requests generalizing w m with
  | nil =>
      obtain ⟨log, kept, outcome⟩ := handler.run_rest wire legacy
      obtain ⟨log', kept', outcome'⟩ := handler.run_rest wire modern
      refine ⟨?_, ?_, [], List.prefix_rfl, ?_, ?_⟩
      · rw [outcome, outcome', fin]
      · rw [kept, kept', state]
      · rw [log]
        exact (List.append_nil _).symm
      · rw [log']
        exact (List.append_nil _).symm
  | cons request requests ih =>
      obtain ⟨tail, bytes, fits, later⟩ := legacy.uncons
      obtain ⟨tail', bytes', fits', later'⟩ := modern.uncons
      obtain ⟨outcome, v, effected, run_eq, allSent⟩ := handler.run_request bytes fits sent
      obtain ⟨outcome', v', effected', run_eq', allSent'⟩ := handler.run_request bytes' fits' sent'
      rw [state, handler.effect_modern lawful] at effected'
      have together : outcome' = outcome := by
        rw [effected'.outcome, effected.outcome]
        rfl
      have alike : v'.state = v.state := by
        rw [effected'.state, effected.state]
        rfl
      let exchange : Protocol.Exchange (UInt32 × Bytes) AgentEvent :=
        ⟨request, (handler.effect wire request w.state).1⟩
      have log : v.log = w.log ++ exchange.events (agentProtocol wire) := by
        rw [effected.log]
        exact List.append_assoc _ _ _
      have log' : v'.log = m.log ++ (modernExchange wire exchange).events (agentProtocol wire) := by
        rw [effected'.log]
        exact List.append_assoc _ _ _
      rw [together] at run_eq'
      rw [run_eq] at allSent ⊢
      rw [run_eq'] at allSent' ⊢
      cases outcome with
      | error halt =>
          refine ⟨rfl, alike, [exchange], ?_, ?_, ?_⟩
          · exact List.prefix_append [request] requests
          · rw [Act.andThen_error, log, List.flatMap_singleton]
          · rw [Act.andThen_error, log', List.map_singleton, List.flatMap_singleton]
      | ok =>
          rw [Act.andThen_ok] at allSent allSent' ⊢
          rw [Act.andThen_ok]
          have fin' : v'.recv.fin = v.recv.fin := by
            rw [effected'.recv, effected.recv]
            exact fin
          have ahead : Frames v.recv.bytes (requestFrames requests) rest := by
            rw [effected.recv]
            exact later
          have ahead' : Frames v'.recv.bytes
              (requestFrames (requests.map (modernRequest wire))) rest := by
            rw [effected'.recv]
            exact later'
          obtain ⟨same, kept, exchanges, front, logs, logs'⟩ :=
            ih alike fin' ahead ahead' allSent allSent'
          refine ⟨same, kept, exchange :: exchanges, ?_, ?_, ?_⟩
          · exact List.cons_prefix_cons.mpr ⟨rfl, front⟩
          · rw [logs, log, List.append_assoc, List.flatMap_cons]
          · rw [logs', log', List.append_assoc, List.map_cons, List.flatMap_cons]

end simulation

/-! ### Projections of grouped results -/

/-- A power reply: `Ok(())` for every `Ok`, and the error as it is. -/
def PowerProjection (result : Except String NodePowerResponse) (reply : Except String Unit) :
    Prop :=
  (∀ response, result = .ok response → reply = .ok ()) ∧
    ∀ text, result = .error text → reply = .error text

/-- An observation reply: what the response holds if it is of the right variant, some
error if it is of another, and the error as it is. -/
def ObservationProjection {α : Type} (inner : NodeObservationResponse → Option α)
    (result : Except String NodeObservationResponse) (reply : Except String α) : Prop :=
  (∀ response value, result = .ok response → inner response = some value → reply = .ok value) ∧
    (∀ response, result = .ok response → inner response = none → ∃ text, reply = .error text) ∧
    ∀ text, result = .error text → reply = .error text

def innerProcesses : NodeObservationResponse → Option (List Process)
  | .processList processes => some processes
  | _ => none

def innerUsage : NodeObservationResponse → Option (String × ResourceUsage)
  | .resourceUsage hostname resourceUsage => some (hostname, resourceUsage)
  | _ => none

theorem powerProjection (result : Except String NodePowerResponse) :
    PowerProjection result (result.map fun _ => ()) := by
  cases result with
  | ok response => exact ⟨fun _ _ => rfl, nofun⟩
  | error text =>
      refine ⟨nofun, ?_⟩
      intro other same
      cases same
      rfl

theorem observationProjection {α : Type} {inner : NodeObservationResponse → Option α}
    {flat : NodeObservationResponse → Except String α}
    (matching : ∀ response value, inner response = some value → flat response = .ok value)
    (other : ∀ response, inner response = none → ∃ text, flat response = .error text)
    (result : Except String NodeObservationResponse) :
    ObservationProjection inner result (result >>= flat) := by
  cases result with
  | ok response =>
      refine ⟨?_, ?_, nofun⟩
      · intro _ value same held
        cases same
        exact matching response value held
      · intro _ same absent
        cases same
        exact other response absent
  | error text =>
      refine ⟨nofun, nofun, ?_⟩
      intro _ same
      cases same
      rfl

theorem processesProjection (wire : Wire) (result : Except String NodeObservationResponse) :
    ObservationProjection innerProcesses result (result >>= flatProcessList wire) := by
  apply observationProjection
  · intro response value held
    cases response <;> cases held
    rfl
  · intro response absent
    cases response with
    | processList processes => cases absent
    | resourceUsage hostname usage => exact ⟨_, rfl⟩
    | uptime uptime => exact ⟨_, rfl⟩

theorem usageProjection (wire : Wire) (result : Except String NodeObservationResponse) :
    ObservationProjection innerUsage result (result >>= flatResourceUsage wire) := by
  apply observationProjection
  · intro response value held
    cases response <;> cases held
    rfl
  · intro response absent
    cases response with
    | resourceUsage hostname usage => cases absent
    | processList processes => exact ⟨_, rfl⟩
    | uptime uptime => exact ⟨_, rfl⟩

/-- Wherever it comes in a run, a request with this code makes one call of the grouped
method, and its reply is this projection of the result; or the write fails. -/
def RepliesWith (wire : Wire) (handler : Handler σ) (request : Client.RequestCode) (call : NodeCall)
    (ty : WireTy) (projects : Except String call.ret.denote → Except String ty.denote → Prop) :
    Prop :=
  ∀ (w : Agent σ) (body tail : Bytes),
    w.recv.bytes = Framing.frame (Wire.requestFrame request.discriminant body) ++ tail →
    (Wire.requestFrame request.discriminant body).length < Framing.frameLimit →
    ∃ reply v, v = asked (atRequest w tail request.discriminant body) (.node call)
        (handler.node call w.state).2 ∧
      projects (handler.node call w.state).1 reply ∧
      ((handle wire handler).run w = (handle wire handler).run (wrote v ty reply) ∨
        ∃ error, (handle wire handler).run w = (.error (.failed (.sendError error)), lostWrite v))

theorem Handler.repliesWith {wire : Wire} {handler : Handler σ} {request : Client.RequestCode}
    {call : NodeCall} {ty : WireTy}
    {translate : Except String call.ret.denote → Except String ty.denote}
    {projects : Except String call.ret.denote → Except String ty.denote → Prop}
    (planned : ∀ body, handler.plan wire request.discriminant body =
      handler.translated call ty translate)
    (projected : ∀ result, projects result (translate result)) :
    RepliesWith wire handler request call ty projects := by
  intro w body tail bytes fits
  let v : Agent σ := asked (atRequest w tail request.discriminant body) (.node call)
    (handler.node call w.state).2
  refine ⟨translate (handler.node call w.state).1, v, rfl, projected _, ?_⟩
  have run_eq : (handle wire handler).run w =
      Act.andThen ((sendResponse wire ty (translate (handler.node call w.state).1)).run v)
        fun _ => handle wire handler := by
    rw [handle, serve_request (handler.dispatch wire) bytes fits, handler.dispatch_eq, planned]
    rfl
  rw [run_eq]
  rcases run_sendResponse wire ty (translate (handler.node call w.state).1) v with
    sent | ⟨error, lost⟩
  · left
    rw [sent, Act.andThen_ok]
  · right
    exact ⟨error, by rw [lost, Act.andThen_error]⟩

/-- The old codes are simulated by the new ones. If only flat methods are overridden, the
two runs make the same flat calls, leave the handler in the same state, and differ in
their replies as `modernEvents` says. Whatever is overridden, the reply to an old code is
the projection of the grouped method's result. -/
theorem legacy_codes_simulated (wire : Wire) (lawful : GroupedRoundTrips wire) :
    (∀ (σ : Type) (handler : FlatHandler σ) (state : σ) (requests : List (UInt32 × Bytes))
        (rest legacy modern : Bytes) (fin : Option IoError) (send send' : SendStream IoError)
        (w m : Agent (σ × List FlatCall)),
      w = connected (state, []) ⟨legacy, fin⟩ send →
      m = connected (state, []) ⟨modern, fin⟩ send' →
      Frames legacy (requestFrames requests) rest →
      Frames modern (requestFrames (requests.map (modernRequest wire))) rest →
      AllSent w ((handle wire handler.recorded.toHandler).run w).2 →
      AllSent m ((handle wire handler.recorded.toHandler).run m).2 →
      Alike wire requests w m ((handle wire handler.recorded.toHandler).run w).2
        ((handle wire handler.recorded.toHandler).run m).2
        ((handle wire handler.recorded.toHandler).run w).1
        ((handle wire handler.recorded.toHandler).run m).1) ∧
    (∀ (σ : Type) (handler : Handler σ),
      RepliesWith wire handler .reboot (.nodePower .reboot) .unit PowerProjection ∧
      RepliesWith wire handler .shutdown (.nodePower .shutdown) .unit PowerProjection ∧
      RepliesWith wire handler .processList (.nodeObservation .processList) (.vec .process)
        (ObservationProjection innerProcesses) ∧
      RepliesWith wire handler .resourceUsage (.nodeObservation .resourceUsage)
        (.pair .str .resourceUsage) (ObservationProjection innerUsage)) := by
  constructor
  · rintro σ handler state requests rest legacy modern fin send send' w m rfl rfl frames
      frames' sent
      sent'
    exact handler.recorded.runs_alike lawful requests rfl rfl frames frames' sent sent'
  · intro σ handler
    refine ⟨?_, ?_, ?_, ?_⟩
    · exact Handler.repliesWith (fun _ => rfl) powerProjection
    · exact Handler.repliesWith (fun _ => rfl) powerProjection
    · exact Handler.repliesWith (fun _ => rfl) (processesProjection wire)
    · exact Handler.repliesWith (fun _ => rfl) (usageProjection wire)

theorem bincode_grouped : GroupedRoundTrips Encoding.bincode :=
  ⟨Encoding.bincode_roundTrips rfl _, Encoding.bincode_roundTrips rfl _,
    Encoding.bincode_roundTrips rfl _, Encoding.bincode_roundTrips rfl _⟩

/-- A host with one process and no sensors, which counts what it is asked. -/
def sampleFlat : FlatHandler Nat where
  flat call count :=
    match call with
    | .processList => (.ok [⟨"root", ⟨0⟩, ⟨0⟩, 0, "init"⟩], count + 1)
    | .resourceUsage => (.error "no reading", count + 1)
    | .reboot => (.ok (), count + 1)
    | _ => (.error "not supported", count)

def sampleRequests : List (UInt32 × Bytes) :=
  [(Client.RequestCode.reboot.discriminant, []), (Client.RequestCode.processList.discriminant, []),
    (Client.RequestCode.resourceUsage.discriminant, [7]),
    (Client.RequestCode.shutdown.discriminant, [])]

/-- An agent in front of requests on a stream that stays open. -/
def askedFor (requests : List (UInt32 × Bytes)) : Agent (Nat × List FlatCall) :=
  connected (0, []) ⟨(requestFrames requests).flatMap Framing.frame, none⟩
    (.healthy (.simple .invalidInput))

theorem legacy_codes_simulated_sample :
    Alike Encoding.bincode sampleRequests (askedFor sampleRequests)
        (askedFor (sampleRequests.map (modernRequest Encoding.bincode)))
        ((handle Encoding.bincode sampleFlat.recorded.toHandler).run (askedFor sampleRequests)).2
        ((handle Encoding.bincode sampleFlat.recorded.toHandler).run
          (askedFor (sampleRequests.map (modernRequest Encoding.bincode)))).2
        ((handle Encoding.bincode sampleFlat.recorded.toHandler).run (askedFor sampleRequests)).1
        ((handle Encoding.bincode sampleFlat.recorded.toHandler).run
          (askedFor (sampleRequests.map (modernRequest Encoding.bincode)))).1 ∧
      ((handle Encoding.bincode sampleFlat.recorded.toHandler).run
        (askedFor sampleRequests)).2.state =
          (3, [.reboot, .processList, .resourceUsage, .shutdown]) := by
  constructor
  · apply (legacy_codes_simulated Encoding.bincode bincode_grouped).1 Nat sampleFlat 0
      sampleRequests
      [] _ _ none _ _ _ _ rfl rfl
    · exact Frames.whole (by decide +kernel)
    · exact Frames.whole (by decide +kernel)
    · unfold AllSent
      decide +kernel
    · unfold AllSent
      decide +kernel
  · decide +kernel

end ReviewProtocol
