import ReviewProtocol.EndToEnd
import ReviewProtocol.Server.Methods

set_option autoImplicit false

/- Requests and responses in step: what the manager's methods read is what the agent's
loop writes, so neither waits for a frame that the other will not send. -/
namespace ReviewProtocol

open Framing (Bytes Act RecvStream SendStream Halt Party Duplex frame)
open Server (Manager ManagerAct ManagerEvent ApiError Opening InstallOutcome Method Sending FlatSend
  ManagerCall Concluded answersRead)

variable {σ τ α : Type}

/-! ### What a method's request comes to at the agent -/

def FlatSend.plan (handler : Handler σ) : FlatSend → Plan σ
  | .allowlist list => .unary (.flat (.allowlist list)) .unit (handler.flat (.allowlist list))
  | .blocklist list => .unary (.flat (.blocklist list)) .unit (handler.flat (.blocklist list))
  | .configUpdateCmd => .unary (.flat .updateConfig) .unit (handler.flat .updateConfig)
  | .deleteCustomerDataCmd request =>
      .unary (.flat (.deleteCustomerData request)) .unit
        (handler.flat (.deleteCustomerData request))
  | .trainModel request =>
      .unary (.flat (.trainModel request)) .unit (handler.flat (.trainModel request))
  | .cloneModel request =>
      .unary (.flat (.cloneModel request)) .unit (handler.flat (.cloneModel request))
  | .cancelRun runId => .unary (.flat (.cancelRun runId)) .unit (handler.flat (.cancelRun runId))
  | .runDetectorOnce detectorId =>
      .unary (.flat (.runDetectorOnce detectorId)) .unit
        (handler.flat (.runDetectorOnce detectorId))
  | .filteringRules list =>
      .unary (.flat (.updateTrafficFilterRules list)) .unit
        (handler.flat (.updateTrafficFilterRules list))
  | .internalNetworkList list =>
      .unary (.flat (.internalNetworkList list)) .unit (handler.flat (.internalNetworkList list))
  | .ping => .answer .unit (.ok ())
  | .samplingPolicies list =>
      .unary (.flat (.samplingPolicyList list)) .unit (handler.flat (.samplingPolicyList list))
  | .torExitNodeList list =>
      .unary (.flat (.torExitNodeList list)) .unit (handler.flat (.torExitNodeList list))
  | .trustedDomainList list =>
      .unary (.flat (.trustedDomainList list)) .unit (handler.flat (.trustedDomainList list))
  | .trustedUserAgentList list =>
      .unary (.flat (.trustedUserAgentList list)) .unit (handler.flat (.trustedUserAgentList list))

def ManagerCall.plan (handler : Handler σ) : ManagerCall → Plan σ
  | .nodeService req =>
      .unary (.node (.nodeService req)) .nodeServiceResponse (handler.node (.nodeService req))
  | .nodeNetworkInterface req =>
      .unary (.node (.nodeNetworkInterface req)) .nodeNetworkInterfaceResponse
        (handler.node (.nodeNetworkInterface req))
  | .nodeHostname req =>
      .unary (.node (.nodeHostname req)) .nodeHostnameResponse (handler.node (.nodeHostname req))
  | .nodeTimeSync req =>
      .unary (.node (.nodeTimeSync req)) .nodeTimeSyncResponse (handler.node (.nodeTimeSync req))
  | .nodeLogging req =>
      .unary (.node (.nodeLogging req)) .nodeLoggingResponse (handler.node (.nodeLogging req))
  | .nodeRemoteAccess req =>
      .unary (.node (.nodeRemoteAccess req)) .nodeRemoteAccessResponse
        (handler.node (.nodeRemoteAccess req))
  | .nodePower req =>
      if nodePowerExpectsResponse req then
        .unary (.node (.nodePower req)) .nodePowerResponse (handler.node (.nodePower req))
      else .silent (.node (.nodePower req)) fun state => (handler.node (.nodePower req) state).2
  | .nodeObservation req =>
      .unary (.node (.nodeObservation req)) .nodeObservationResponse
        (handler.node (.nodeObservation req))
  | .nodeVersion req =>
      .unary (.node (.nodeVersion req)) .nodeVersionResponse (handler.node (.nodeVersion req))
  | .nodePackage req | .nodePackageInstall req =>
      match req with
      | .install fields => .install fields
      | req =>
          .unary (.node (.nodePackage req)) .nodePackageResponse (handler.node (.nodePackage req))
  | .nodeEnroll req =>
      .unary (.node (.nodeEnroll req)) .nodeEnrollResponse (handler.node (.nodeEnroll req))

def Method.plan (handler : Handler σ) : Method τ → Plan σ
  | .flat send => FlatSend.plan handler send
  | .node call => ManagerCall.plan handler call
  | .asked _ call => ManagerCall.plan handler call

/-- The agent writes what the manager reads. -/
inductive Matches : Sending α → Plan σ → Prop where
  | silent (code : Client.RequestCode) (ty : WireTy) (payload : ty.denote) (value : α)
      (call : AgentCall) (ask : σ → σ) :
      Matches (.silent code ty payload value) (.silent call ask)
  | unary (code : Client.RequestCode) (ty : WireTy) (payload : ty.denote) (ret : WireTy)
      (wrap : ret.denote → α) (call : AgentCall) (ask : σ → Except String ret.denote × σ) :
      Matches (.single code ty payload ret wrap) (.unary call ret ask)
  | answer (code : Client.RequestCode) (ty : WireTy) (payload : ty.denote) (ret : WireTy)
      (wrap : ret.denote → α) (result : Except String ret.denote) :
      Matches (.single code ty payload ret wrap) (.answer ret result)
  | install (fields : Install) (wrap : InstallOutcome → α) :
      Matches (.install fields wrap) (.install fields)

/-- A sent request is understood, and answered as it is waited for. -/
structure InStep (wire : Wire) (handler : Handler σ) (sending : Sending α) (plan : Plan σ) :
    Prop where
  paired : pairing wire sending.code (sending.body wire) = sending.pairing
  served : handler.dispatch wire sending.code.discriminant (sending.body wire) =
    plan.perform wire handler.toNodeHandler sending.code.discriminant
  matched : Matches sending plan

theorem FlatSend.inStep (wire : Wire) (handler : Handler σ) (send : FlatSend)
    (spelled : send.sending.Spelled wire) :
    InStep wire handler send.sending (FlatSend.plan handler send) := by
  cases send with
  | configUpdateCmd => exact ⟨rfl, rfl, .unary _ _ _ _ _ _ _⟩
  | ping => exact ⟨rfl, rfl, .answer _ _ _ _ _ _⟩
  | _ =>
      have decodes : wire.RoundTrips _ _ := spelled
      unfold Wire.RoundTrips at decodes
      refine ⟨?_, ?_, .unary _ _ _ _ _ _ _⟩
      · simp only [FlatSend.sending, Sending.code, Sending.body, pairing, Client.RequestCode.args,
          decodes, Sending.pairing]
      · simp only [FlatSend.sending, Sending.code, Sending.body, Handler.dispatch,
          Client.RequestCode.fromPrimitive_discriminant, decodeArgs, decodes]
        rfl

theorem ManagerCall.inStep (wire : Wire) (handler : Handler σ) (call : ManagerCall)
    {sending : Sending call.Outcome} (accepted : call.sending = some sending)
    (spelled : sending.Spelled wire) :
    InStep wire handler sending (ManagerCall.plan handler call) := by
  have power (req : NodePowerRequest) (decodes : wire.RoundTrips .nodePowerRequest req) :
      pairing wire .nodePower (wire.encode .nodePowerRequest req) =
        (if nodePowerExpectsResponse req then .single else .silent) ∧
      handler.dispatch wire Client.RequestCode.nodePower.discriminant
        (wire.encode .nodePowerRequest req) =
          (ManagerCall.plan handler (.nodePower req)).perform wire handler.toNodeHandler
            Client.RequestCode.nodePower.discriminant := by
    unfold Wire.RoundTrips at decodes
    constructor
    · simp only [pairing, decodes]
    · simp only [Handler.dispatch, Client.RequestCode.fromPrimitive_discriminant, decodeArgs,
        decodes]
      cases req <;> rfl
  have package (req : NodePackageRequest) (decodes : wire.RoundTrips .nodePackageRequest req) :
      handler.dispatch wire Client.RequestCode.nodePackage.discriminant
        (wire.encode .nodePackageRequest req) =
          (ManagerCall.plan handler (.nodePackage req)).perform wire handler.toNodeHandler
            Client.RequestCode.nodePackage.discriminant := by
    unfold Wire.RoundTrips at decodes
    simp only [Handler.dispatch, Client.RequestCode.fromPrimitive_discriminant, decodeArgs, decodes]
    cases req <;> rfl
  cases call with
  | nodePower req =>
      cases req with
      | reboot =>
          cases accepted
          obtain ⟨paired, served⟩ := power .reboot spelled
          exact ⟨paired, served, .silent _ _ _ _ _ _⟩
      | shutdown =>
          cases accepted
          obtain ⟨paired, served⟩ := power .shutdown spelled
          exact ⟨paired, served, .silent _ _ _ _ _ _⟩
      | gracefulReboot =>
          cases accepted
          obtain ⟨paired, served⟩ := power .gracefulReboot spelled
          exact ⟨paired, served, .unary _ _ _ _ _ _ _⟩
      | gracefulShutdown =>
          cases accepted
          obtain ⟨paired, served⟩ := power .gracefulShutdown spelled
          exact ⟨paired, served, .unary _ _ _ _ _ _ _⟩
  | nodePackage req =>
      cases req with
      | install fields => cases accepted
      | _ =>
          cases accepted
          have decodes : wire.RoundTrips _ _ := spelled
          refine ⟨?_, package _ decodes, .unary _ _ _ _ _ _ _⟩
          unfold Wire.RoundTrips at decodes
          simp only [Sending.code, Sending.body, pairing, decodes, Sending.pairing]
  | nodePackageInstall req =>
      cases req with
      | install fields =>
          cases accepted
          have decodes : wire.RoundTrips _ _ := spelled
          refine ⟨?_, package _ decodes, .install fields _⟩
          unfold Wire.RoundTrips at decodes
          simp only [Sending.code, Sending.body, pairing, decodes, Sending.pairing]
      | _ => cases accepted
  | _ =>
      cases accepted
      have decodes : wire.RoundTrips _ _ := spelled
      unfold Wire.RoundTrips at decodes
      refine ⟨?_, ?_, .unary _ _ _ _ _ _ _⟩
      · simp only [Sending.code, Sending.body, pairing, Client.RequestCode.args, decodes,
          Sending.pairing]
      · simp only [Sending.code, Sending.body, Handler.dispatch,
          Client.RequestCode.fromPrimitive_discriminant, decodeArgs, decodes]
        rfl

theorem Method.inStep (wire : Wire) (handler : Handler σ) (method : Method τ)
    {sending : Sending method.Outcome} (accepted : method.sending = some sending)
    (spelled : sending.Spelled wire) :
    InStep wire handler sending (Method.plan handler method) := by
  cases method with
  | flat send =>
      cases accepted
      exact FlatSend.inStep wire handler send spelled
  | node call => exact ManagerCall.inStep wire handler call accepted spelled
  | asked gate call => exact ManagerCall.inStep wire handler call accepted spelled

/-! ### What a method reads -/

theorem answersRead_dials {events : List ManagerEvent} (dials : ∀ event ∈ events, event.IsDial) :
    answersRead events = [] := by
  refine List.filterMap_eq_nil_iff.mpr fun event mem => ?_
  have dial := dials event mem
  cases event with
  | opened => rfl
  | requested code payload => rfl
  | _ => cases dial

theorem answersRead_transfer {events : List ManagerEvent}
    (transfer : ∀ event ∈ events, event.IsTransfer) : answersRead events = [] := by
  refine List.filterMap_eq_nil_iff.mpr fun event mem => ?_
  have isTransfer := transfer event mem
  cases event with
  | read result => rfl
  | chunk bytes => rfl
  | _ => cases isTransfer

theorem answersRead_judged (wire : Wire) (req : NodePackageRequest)
    (verdict : Except String InstallPreflight) (rest : Bytes) (w : Manager τ) :
    answersRead (Server.judged wire req verdict rest w).log =
      answersRead w.log ++ [⟨.installPreflight, verdict⟩] :=
  Server.answersRead_append _ _

theorem answersRead_streams {wire : Wire} {req : NodePackageRequest} {rest : Bytes}
    {events : List ManagerEvent} {w v : Manager τ}
    (streams : Server.Streams (Server.judged wire req (.ok .proceed) rest w) events v) :
    answersRead v.log = answersRead w.log ++ [⟨.installPreflight, .ok .proceed⟩] := by
  rw [streams.log, Server.answersRead_append, answersRead_transfer streams.transfer,
    answersRead_judged, List.append_nil]

/-- A `Proceed` alone is not how an install ends. -/
theorem not_concluded {events : List ManagerEvent}
    (only : answersRead events = [⟨.installPreflight, .ok .proceed⟩]) (error : ApiError) :
    ¬ Concluded (.error (.failed error) : Except (Halt ApiError) α) events := by
  rintro ⟨ty, text, mem⟩
  rw [only] at mem
  cases List.mem_singleton.mp mem

/-- What an install has sent and read when it ends with the agent's answer. -/
theorem transacts_answered {wire : Wire} {fields : Install} {w w' : Manager τ}
    {outcome : Except (Halt ApiError) InstallOutcome} {added : List ManagerEvent}
    (transacts : Server.Transacts wire (.install fields) fields.size.toNat w outcome w')
    (log : w'.log = w.log ++ added) (concluded : Concluded outcome added) :
    .requested Client.RequestCode.nodePackage.discriminant
        (wire.encode .nodePackageRequest (.install fields)) ∈ added ∧
      ∃ verdict, (Pairing.install fields).Answered verdict (answersRead added) := by
  have read {answers : List ((ty : WireTy) × Except String ty.denote)}
      (total : answersRead w'.log = answersRead w.log ++ answers) :
        answersRead added = answers := by
    rw [log, Server.answersRead_append] at total
    exact List.append_cancel_left total
  have requested {verdict : Except String InstallPreflight} {rest : Bytes}
      {back : List ManagerEvent}
      (whole : w'.log = (Server.judged wire (.install fields) verdict rest w).log ++ back) :
      .requested Client.RequestCode.nodePackage.discriminant
        (wire.encode .nodePackageRequest (.install fields)) ∈ added := by
    rw [Server.judged, List.append_assoc, log] at whole
    rw [List.append_cancel_left whole]
    exact List.mem_append_left _ (List.mem_cons_of_mem _ List.mem_cons_self)
  cases transacts with
  | failed error events _ log' dials =>
      have same : added = events := List.append_cancel_left (log.symm.trans log')
      obtain ⟨ty, text, mem⟩ := concluded
      rw [same, answersRead_dials dials] at mem
      cases mem
  | awaitsVerdict fits waiting => cases concluded
  | denied text body rest fits answer =>
      refine ⟨requested (List.append_nil _).symm, fun _ => .error text, ?_⟩
      rw [read (answersRead_judged wire _ _ rest w)]
      refine .refused fields ?_
      intro proceed
      cases proceed
  | refused verdict image body rest fits answer same =>
      refine ⟨requested (List.append_nil _).symm, fun _ => .ok verdict, ?_⟩
      rw [read (answersRead_judged wire _ _ rest w)]
      refine .refused fields ?_
      intro proceed
      cases proceed
      cases same
  | streaming body rest events _ fits answer stuck streams => cases concluded
  | aborted error body rest events v answer streams =>
      have only := read ((Server.answersRead_append v.log [.reset]).trans
        ((List.append_nil _).trans (answersRead_streams streams)))
      exact absurd concluded (not_concluded only error)
  | awaitsTerminal body rest events _ fits answer forwards total waiting => cases concluded
  | unanswered error body rest events v recv answer forwards =>
      have only := answersRead_streams forwards.toStreams
      exact absurd concluded (not_concluded (read only) error)
  | unapplied text body rest events v body' rest' fits answer forwards total terminal =>
      have both := Server.answersRead_append v.log [.received .nodePackageResponse (.error text)]
      rw [answersRead_streams forwards.toStreams, List.append_assoc] at both
      have whole := congrArg (· ++ [.received .nodePackageResponse (.error text)]) forwards.log
      refine ⟨requested (whole.trans (List.append_assoc _ _ _)), fun _ => .ok .proceed, ?_⟩
      rw [read both]
      exact .concluded fields (.error text) rfl
  | applied resp body rest events v body' rest' fits answer forwards total terminal =>
      have both := Server.answersRead_append v.log [.received .nodePackageResponse (.ok resp)]
      rw [answersRead_streams forwards.toStreams, List.append_assoc] at both
      have whole := congrArg (· ++ [.received .nodePackageResponse (.ok resp)]) forwards.log
      refine ⟨requested (whole.trans (List.append_assoc _ _ _)), fun _ => .ok .proceed, ?_⟩
      rw [read both]
      exact .concluded fields (.ok resp) rfl

theorem concluded_map {β : Type} {outcome : Except (Halt ApiError) α} {wrap : α → β}
    {log : List ManagerEvent} (concluded : Concluded (outcome.map wrap) log) :
    Concluded outcome log := by
  rcases outcome with halt | value
  · cases halt with
    | pending => exact concluded
    | failed error => exact concluded
  · trivial

/-- What a method has sent and read when it ends with the agent's answer. -/
theorem runs_answered {wire : Wire} {sending : Sending α} {w w' : Manager τ}
    {outcome : Except (Halt ApiError) α} {added : List ManagerEvent}
    (runs : sending.Runs wire w outcome w') (log : w'.log = w.log ++ added)
    (concluded : Concluded outcome added) :
    .requested sending.code.discriminant (sending.body wire) ∈ added ∧
      ∃ verdict, sending.pairing.Answered verdict (answersRead added) := by
  cases runs with
  | failed _ error events _ log' dials =>
      have same : added = events := List.append_cancel_left (log.symm.trans log')
      obtain ⟨ty, text, mem⟩ := concluded
      rw [same, answersRead_dials dials] at mem
      cases mem
  | silent code ty payload value fits =>
      have same : _ = added :=
        List.append_cancel_left ((List.append_assoc _ _ _).symm.trans log)
      rw [← same]
      exact ⟨List.mem_cons_of_mem _ List.mem_cons_self, fun _ => .ok .proceed, .silent⟩
  | waiting code ty payload ret wrap fits waiting => cases concluded
  | answered code ty payload ret wrap result body rest fits answer =>
      have same : _ = added :=
        List.append_cancel_left ((List.append_assoc _ _ _).symm.trans log)
      rw [← same]
      exact ⟨List.mem_cons_of_mem _ List.mem_cons_self, fun _ => .ok .proceed,
        .single ⟨ret, result⟩⟩
  | install fields wrap outcome _ transacts =>
      exact transacts_answered transacts log (concluded_map concluded)

theorem answersRead_asking {events : List ManagerEvent}
    (asking : ∀ event ∈ events, ∃ service answer, event = .authorized service answer) :
    answersRead events = [] := by
  refine List.filterMap_eq_nil_iff.mpr fun event mem => ?_
  obtain ⟨service, answer, rfl⟩ := asking event mem
  rfl

/-! ### What the agent writes for it -/

theorem responseBytes_cons (wire : Wire) (response : (ty : WireTy) × Except String ty.denote)
    (later : List ((ty : WireTy) × Except String ty.denote)) :
    responseBytes wire (response :: later) =
      frame (wire.encode (.result response.1) response.2) ++ responseBytes wire later := rfl

/-- Nobody waits in front of a response. -/
theorem not_waiting {wire : Wire} {stream : RecvStream IoError}
    {response : (ty : WireTy) × Except String ty.denote}
    {later : List ((ty : WireTy) × Except String ty.denote)}
    (fits : (wire.encode (.result response.1) response.2).length < Framing.frameLimit)
    (bytes : stream.bytes = responseBytes wire (response :: later)) : ¬ stream.Waiting := by
  intro waiting
  have none := waiting.incomplete
  rw [bytes, responseBytes_cons, Framing.splitFrame_frame _ _ fits] at none
  cases none

section alone

variable {wire : Wire} (loop : Loop σ) {far : Agent σ} {code : UInt32} {body : Bytes}

/-- A request on its own is dealt with as its plan says, and that is all. -/
theorem run_alone (bytes : far.recv.bytes = frame (Wire.requestFrame code body))
    (fits : (Wire.requestFrame code body).length < Framing.frameLimit) :
    ((loop.run wire).run far).2 =
      ((loop.arms wire code body).run (atRequest far [] code body)).2 := by
  have progress := (loop.arms wire code body).progress (atRequest far [] code body)
  rcases ran : (loop.arms wire code body).run (atRequest far [] code body) with ⟨outcome, w'⟩
  rw [ran] at progress
  have empty : w'.recv.bytes = [] := List.suffix_nil.mp progress.bytes
  exact loop.run_last wire (bytes.trans (List.append_nil _).symm) fits ran empty

theorem responses_atRequest (fresh : far.log = []) (rest : Bytes) (code : UInt32) (body : Bytes) :
    responses (atRequest far rest code body).log = [] := by
  rw [atRequest, fresh]
  rfl

/-- A single answer, unless its write failed. -/
theorem answers_single {plan : Plan σ} {ret : WireTy} (fresh : far.log = [])
    (bytes : far.recv.bytes = frame (Wire.requestFrame code body))
    (fits : (Wire.requestFrame code body).length < Framing.frameLimit)
    (same : loop.arms wire code body = plan.perform wire loop.nodeHandler code)
    (single : (∃ call ask, plan = .unary call ret ask) ∨ ∃ result, plan = .answer ret result) :
    (∃ result, responses ((loop.run wire).run far).2.log = [⟨ret, result⟩]) ∨
      responses ((loop.run wire).run far).2.log = [] ∧
        ¬ AllSent far ((loop.run wire).run far).2 := by
  rw [run_alone loop bytes fits, same]
  have performs := plan.perform_performs wire loop.nodeHandler code (atRequest far [] code body)
  have begun := responses_atRequest fresh [] code body
  have started : (responses far.log).length = 0 := by
    rw [fresh]
    rfl
  rcases out : (plan.perform wire loop.nodeHandler code).run (atRequest far [] code body) with
    ⟨outcome, w'⟩
  rw [out] at performs
  dsimp only at performs ⊢
  rcases single with ⟨call, ask, rfl⟩ | ⟨result, rfl⟩
  · cases performs with
    | unary =>
        refine .inl ⟨(ask far.state).1, ?_⟩
        rw [responses_wrote, asked, responses_append, begun]
        rfl
    | unaryLost _ _ _ error =>
        have none : responses (lostWrite (asked (atRequest far [] code body) call
            (ask (atRequest far [] code body).state).2)).log = [] := by
          rw [lostWrite, asked, responses_append, begun]
          rfl
        refine .inr ⟨none, ?_⟩
        intro sent
        unfold AllSent at sent
        rw [none, started] at sent
        simp only [lostWrite, asked, atRequest, List.length_nil] at sent
        omega
  · cases performs with
    | answered =>
        refine .inl ⟨result, ?_⟩
        rw [responses_wrote, begun]
        rfl
    | answerLost _ _ error =>
        have none : responses (lostWrite (atRequest far [] code body)).log = [] := begun
        refine .inr ⟨none, ?_⟩
        intro sent
        unfold AllSent at sent
        rw [none, started] at sent
        simp only [lostWrite, atRequest, List.length_nil] at sent
        omega

theorem allSent_atRequest {w : Agent σ} (rest : Bytes) :
    AllSent (atRequest far rest code body) w ↔ AllSent far w := by
  have same : responses (atRequest far rest code body).log = responses far.log := by
    rw [atRequest, responses_append]
    exact List.append_nil _
  unfold AllSent
  rw [same]
  rfl

variable {fields : Install}

/-- An install on its own: no answer, because its write failed; the verdict; or both
frames. -/
theorem install_alone (fresh : far.log = [])
    (lawful : wire.RoundTrips .nodePackageRequest (.install fields))
    (fits : (Server.installFrame wire (.install fields)).length < Framing.frameLimit)
    (bytes : far.recv.bytes = frame (Server.installFrame wire (.install fields))) :
    (responses ((loop.run wire).run far).2.log = [] ∧
      ¬ AllSent far ((loop.run wire).run far).2) ∨
    responses ((loop.run wire).run far).2.log =
      [⟨.installPreflight, verdictOf loop.nodeHandler (.install fields) far.state⟩] ∨
    ∃ result, verdictOf loop.nodeHandler (.install fields) far.state = .ok .proceed ∧
      responses ((loop.run wire).run far).2.log =
        [⟨.installPreflight, .ok .proceed⟩, ⟨.nodePackageResponse, result⟩] := by
  rw [run_alone loop bytes fits, loop.arms_install wire lawful]
  have written := (dispatchInstall_installs wire loop.nodeHandler (.install fields)
    fields.size.toNat (atRequest far [] Client.RequestCode.nodePackage.discriminant
      (wire.encode .nodePackageRequest (.install fields)))).written
  rw [responses_atRequest fresh, List.nil_append, allSent_atRequest] at written
  rcases written with ⟨error, -, lost, none | one⟩ | ⟨-, -, one⟩ | ⟨-, -, one⟩ |
    ⟨result, -, proceed, both⟩
  · exact .inl ⟨none, lost⟩
  · exact .inr (.inl one)
  · exact .inr (.inl one)
  · exact .inr (.inl one)
  · exact .inr (.inr ⟨result, proceed, both⟩)

/-- An install with its whole payload: both frames, unless a write failed. -/
theorem install_whole {payload : List Bytes} (fresh : far.log = [])
    (lawful : wire.RoundTrips .nodePackageRequest (.install fields))
    (proceed : verdictOf loop.nodeHandler (.install fields) far.state = .ok .proceed)
    (whole : Payload fields.size.toNat payload)
    (chunks : ∀ chunk ∈ payload, chunk.length < Framing.frameLimit)
    (fits : (Server.installFrame wire (.install fields)).length < Framing.frameLimit)
    (bytes : far.recv.bytes =
      frame (Server.installFrame wire (.install fields)) ++ ahead payload []) :
    ((responses ((loop.run wire).run far).2.log).length ≤ 1 ∧
      ¬ AllSent far ((loop.run wire).run far).2) ∨
    ∃ result, responses ((loop.run wire).run far).2.log =
      [⟨.installPreflight, .ok .proceed⟩, ⟨.nodePackageResponse, result⟩] := by
  have arms := loop.arms_install wire lawful
  have installs := dispatchInstall_installs wire loop.nodeHandler (.install fields)
    fields.size.toNat (atRequest far (ahead payload [])
      Client.RequestCode.nodePackage.discriminant
      (wire.encode .nodePackageRequest (.install fields)))
  have written := installs.written
  rw [responses_atRequest fresh, List.nil_append, allSent_atRequest] at written
  obtain ⟨w', events, -, facing⟩ := dispatchInstall_facing wire loop.nodeHandler (.install fields)
    fields.size.toNat payload [] (atRequest far (ahead payload [])
      Client.RequestCode.nodePackage.discriminant
      (wire.encode .nodePackageRequest (.install fields))) proceed whole chunks rfl
  rcases facing with ⟨ran, empty, -⟩ | ⟨error, ran, -⟩
  · rw [ran] at written
    rw [← arms] at ran
    rw [loop.run_last wire bytes fits ran empty]
    rcases written with ⟨error, impossible, -⟩ | ⟨-, refused, -⟩ | ⟨impossible, -⟩ |
      ⟨result, -, -, both⟩
    · cases impossible
    · exact absurd proceed refused
    · cases impossible
    · exact .inr ⟨result, both⟩
  · rw [ran] at written
    rw [← arms] at ran
    have stopped : ((loop.run wire).run far).2 = w' := by
      rw [loop.run_eq_serve wire, serve_request _ bytes fits, ran]
      rfl
    rw [stopped]
    rcases written with ⟨error, -, lost, none | one⟩ | ⟨impossible, -⟩ | ⟨impossible, -⟩ |
      ⟨result, impossible, -⟩
    · refine .inl ⟨?_, lost⟩
      dsimp only at none
      rw [none]
      exact Nat.zero_le 1
    · refine .inl ⟨?_, lost⟩
      dsimp only at one
      rw [one]
      exact Nat.le_refl 1
    · cases impossible
    · cases impossible
    · cases impossible

end alone

/-! ### Both ends -/

theorem written_transfer (call : ManagerAct τ α) {events : List ManagerEvent}
    (transfer : ∀ event ∈ events, event.IsTransfer) :
    (managerParty call).written events = (Server.sentChunks events).flatMap frame := by
  induction events with
  | nil => rfl
  | cons event events ih =>
      have isTransfer := transfer event List.mem_cons_self
      have rest := ih fun other mem => transfer other (List.mem_cons_of_mem _ mem)
      cases event with
      | read result => exact rest
      | chunk bytes =>
          have split := (managerParty call).written_append [.chunk bytes] events
          rw [List.singleton_append] at split
          rw [split, rest]
          exact congrArg (· ++ _) (List.append_nil (frame bytes))
      | _ => cases isTransfer

theorem written_asking (call : ManagerAct τ α) {events : List ManagerEvent}
    (asking : ∀ event ∈ events, ∃ service answer, event = .authorized service answer) :
    (managerParty call).written events = [] := by
  refine List.flatMap_eq_nil_iff.mpr fun event mem => ?_
  obtain ⟨service, answer, rfl⟩ := asking event mem
  rfl

/-- What is forwarded is a payload. -/
theorem forwards_payload {w w' : Manager τ} {added : List ManagerEvent} {size : Nat}
    (forwards : Server.Forwards w added w')
    (total : (Server.sentChunks added).flatten.length = size) :
    Payload size (Server.sentChunks added) ∧
      ∀ chunk ∈ Server.sentChunks added, chunk.length < Framing.frameLimit := by
  refine ⟨⟨?_, ?_⟩, ?_⟩
  · rw [← total, List.length_flatten]
  · intro last mem
    exact (forwards.sizes last (List.mem_of_mem_getLast? mem)).1
  · intro chunk mem
    have short := (forwards.sizes chunk mem).2
    unfold Server.packageChunkLen at short
    unfold Framing.frameLimit
    omega

/-- A source that holds all that a method is to send of it. -/
def Sourced (source : Server.Source) : Sending α → Prop
  | .install fields _ => fields.size.toNat ≤ (Server.sourceBytes source).length
  | _ => True

section ends

variable {wire : Wire} {handler : Handler σ} {far : Agent σ} {near manager : Manager τ}
  {call : ManagerAct τ α}

/-- The two ends when nothing is on its way: a call that had written nothing and a loop
that had done nothing before. -/
structure AtRest (wire : Wire) (handler : Handler σ) (call : ManagerAct τ α)
    (near manager : Manager τ)
    (far : Agent σ) : Prop where
  unwritten : (managerParty call).written near.log = []
  unread : Server.answersRead near.log = []
  fresh : far.log = []
  toFar : far.recv.bytes = (managerParty call).written manager.log
  toNear : near.recv.bytes =
    responseBytes wire (responses ((handle wire handler).run far).2.log)

namespace AtRest

theorem allFit (atRest : AtRest wire handler call near manager far) :
    AllFit wire (responses ((handle wire handler).run far).2.log) :=
  (Loop.handle handler).responses_fit wire atRest.fresh

/-- The agent's responses are what the manager finds, from the first one on. -/
theorem next {body rest : Bytes} (atRest : AtRest wire handler call near manager far)
    (bytes : near.recv.bytes = frame body ++ rest) (fits : body.length < Framing.frameLimit) :
    ∃ ty result later, responses ((handle wire handler).run far).2.log = ⟨ty, result⟩ :: later ∧
      body = wire.encode (.result ty) result ∧ rest = responseBytes wire later ∧
      AllFit wire later := by
  have toNear := atRest.toNear
  rw [bytes] at toNear
  obtain ⟨ty, result, later, replies, same, -, fit⟩ :=
    next_response atRest.allFit fits (by rw [toNear])
  refine ⟨ty, result, later, replies, same, ?_, fit⟩
  rw [replies, responseBytes_cons, same] at toNear
  exact List.append_cancel_left toNear

/-- Nobody waits for a response that was written. -/
theorem not_waiting {response : (ty : WireTy) × Except String ty.denote}
    {later : List ((ty : WireTy) × Except String ty.denote)}
    (atRest : AtRest wire handler call near manager far)
    (written : responses ((handle wire handler).run far).2.log = response :: later) :
    ¬ near.recv.Waiting := by
  have toNear := atRest.toNear
  have fit := atRest.allFit
  rw [written] at toNear fit
  exact ReviewProtocol.not_waiting (fit response List.mem_cons_self) toNear

theorem written_requesting (atRest : AtRest wire handler call near manager far)
    (code : Client.RequestCode) (payload : Bytes) :
    (managerParty call).written (Server.requesting code payload near).log =
      frame (Wire.requestFrame code.discriminant payload) := by
  rw [Server.requesting, Party.written_append, atRest.unwritten, List.nil_append]
  exact List.append_nil _

theorem written_judged (atRest : AtRest wire handler call near manager far)
    (req : NodePackageRequest) (verdict : Except String InstallPreflight) (rest : Bytes) :
    (managerParty call).written (Server.judged wire req verdict rest near).log =
      frame (Server.installFrame wire req) := by
  rw [Server.judged, Party.written_append, atRest.unwritten, List.nil_append]
  exact List.append_nil _

end AtRest

/-- A single request is answered once. -/
theorem single_answered {plan : Plan σ} {code : Client.RequestCode} {ty : WireTy}
    {payload : ty.denote} {ret : WireTy} {wrap : ret.denote → α} {body : Bytes}
    (matched : Matches (.single code ty payload ret wrap) plan)
    (served : handler.dispatch wire code.discriminant body =
      plan.perform wire handler.toNodeHandler code.discriminant)
    (fresh : far.log = [])
    (fits : (Wire.requestFrame code.discriminant body).length < Framing.frameLimit)
    (bytes : far.recv.bytes = frame (Wire.requestFrame code.discriminant body)) :
    (∃ result, responses ((handle wire handler).run far).2.log = [⟨ret, result⟩]) ∨
      responses ((handle wire handler).run far).2.log = [] ∧
        ¬ AllSent far ((handle wire handler).run far).2 := by
  cases matched with
  | unary _ _ _ _ _ agentCall ask =>
      exact answers_single (.handle handler) fresh bytes fits served (.inl ⟨_, _, rfl⟩)
  | answer _ _ _ _ _ result =>
      exact answers_single (.handle handler) fresh bytes fits served (.inr ⟨_, rfl⟩)

variable {sending : Sending α} {plan : Plan σ} {outcome : Except (Halt ApiError) α}

/-- With nothing on its way, a verdict that the manager took for `Proceed` is one. -/
theorem AtRest.proceeds {fields : Install} {body rest tail : Bytes}
    (atRest : AtRest wire handler call near manager far)
    (lawful : wire.RoundTrips .nodePackageRequest (.install fields))
    (verdicts : ∀ verdict, wire.RoundTrips (.result .installPreflight) verdict)
    (fits : (Server.installFrame wire (.install fields)).length < Framing.frameLimit)
    (answer : Server.NextResponse wire .installPreflight (.ok .proceed) near.recv.bytes body rest)
    (bytes : far.recv.bytes = frame (Server.installFrame wire (.install fields)) ++ tail) :
    verdictOf handler.toNodeHandler (.install fields) far.state = .ok .proceed := by
  obtain ⟨ty, result, later, replies, same, -⟩ := atRest.next answer.bytes answer.fits
  have shape := (Loop.handle handler).install_responses wire lawful atRest.fresh fits
    (by rw [bytes])
  have replies : responses (((Loop.handle handler).run wire).run far).2.log = _ := replies
  rw [replies] at shape
  cases shape with
  | refused refused => exact eq_of_decoded (verdicts _) same answer.decoded
  | verdict => exact eq_of_decoded (verdicts _) same answer.decoded
  | concluded proceed => exact proceed

/-- With nothing on its way, a whole package is answered by both frames. -/
theorem AtRest.package {fields : Install} {body rest : Bytes} {added : List ManagerEvent}
    {w' : Manager τ} (atRest : AtRest wire handler call near manager far)
    (lawful : wire.RoundTrips .nodePackageRequest (.install fields))
    (verdicts : ∀ verdict, wire.RoundTrips (.result .installPreflight) verdict)
    (fits : (Server.installFrame wire (.install fields)).length < Framing.frameLimit)
    (answer : Server.NextResponse wire .installPreflight (.ok .proceed) near.recv.bytes body rest)
    (forwards : Server.Forwards
      (Server.judged wire (.install fields) (.ok .proceed) rest near) added w')
    (total : (Server.sentChunks added).flatten.length = fields.size.toNat)
    (log : (managerParty call).written manager.log = (managerParty call).written w'.log) :
    ((responses ((handle wire handler).run far).2.log).length ≤ 1 ∧
      ¬ AllSent far ((handle wire handler).run far).2) ∨
    ∃ result, responses ((handle wire handler).run far).2.log =
      [⟨.installPreflight, .ok .proceed⟩, ⟨.nodePackageResponse, result⟩] := by
  obtain ⟨whole, chunks⟩ := forwards_payload forwards total
  have bytes : far.recv.bytes = frame (Server.installFrame wire (.install fields)) ++
      ahead (Server.sentChunks added) [] := by
    rw [atRest.toFar, log, forwards.log, Party.written_append, atRest.written_judged,
      written_transfer call forwards.transfer, ahead, List.append_nil]
  have proceed := atRest.proceeds lawful verdicts fits answer bytes
  exact install_whole (.handle handler) atRest.fresh lawful proceed whole chunks fits bytes

/-- With nothing on its way and every answer written, a method does not wait. -/
theorem AtRest.not_pending (atRest : AtRest wire handler call near manager far)
    (inStep : InStep wire handler sending plan) (lawful : sending.Lawful wire)
    (runs : sending.Runs wire near outcome manager)
    (sent : AllSent far ((handle wire handler).run far).2)
    (sourced : Sourced near.input sending) : outcome ≠ .error .pending := by
  cases runs with
  | failed _ error events _ log dials => exact nofun
  | silent code ty payload value fits => exact nofun
  | waiting code ty payload ret wrap fits waiting =>
      have bytes := atRest.toFar
      rw [atRest.written_requesting] at bytes
      rcases single_answered inStep.matched inStep.served atRest.fresh fits bytes with
        ⟨result, one⟩ | ⟨-, lost⟩
      · exact absurd waiting (atRest.not_waiting one)
      · exact absurd sent lost
  | answered code ty payload ret wrap result body rest fits answer =>
      cases result with
      | ok value => exact nofun
      | error text => exact nofun
  | install fields wrap outcome _ transacts =>
      obtain ⟨request, verdicts, -⟩ := lawful
      cases transacts with
      | awaitsVerdict fits waiting =>
          have bytes := atRest.toFar
          rw [atRest.written_requesting] at bytes
          rcases install_alone (.handle handler) atRest.fresh request fits bytes with
            ⟨-, lost⟩ | one | ⟨result, -, both⟩
          · exact absurd sent lost
          · exact absurd waiting (atRest.not_waiting one)
          · exact absurd waiting (atRest.not_waiting both)
      | streaming body rest added _ fits answer stuck streams =>
          have moves := Server.sendPackage_not_pending fields.size.toNat
            (Server.judged wire (.install fields) (.ok .proceed) rest near) sourced
          rw [stuck] at moves
          exact absurd rfl moves
      | awaitsTerminal body rest added _ fits answer forwards total waiting =>
          rcases atRest.package request verdicts fits answer forwards total rfl with
            ⟨-, lost⟩ | ⟨result, both⟩
          · exact absurd sent lost
          · obtain ⟨ty, first, later, replies, -, after, fit⟩ :=
              atRest.next answer.bytes answer.fits
            rw [both] at replies
            cases replies
            have unread : manager.recv.bytes =
                responseBytes wire [⟨.nodePackageResponse, result⟩] := by
              rw [forwards.recv]
              exact after
            exact absurd waiting (ReviewProtocol.not_waiting (fit _ List.mem_cons_self) unread)
      | _ => exact nofun

/-- A verdict that ends an install is all that the agent has written. -/
theorem AtRest.verdict_read {fields : Install} {verdict : Except String InstallPreflight}
    {body rest : Bytes} (atRest : AtRest wire handler call near manager far)
    (lawful : wire.RoundTrips .nodePackageRequest (.install fields))
    (verdicts : ∀ verdict, wire.RoundTrips (.result .installPreflight) verdict)
    (fits : (Server.installFrame wire (.install fields)).length < Framing.frameLimit)
    (answer : Server.NextResponse wire .installPreflight verdict near.recv.bytes body rest)
    (other : verdict ≠ .ok .proceed)
    (same : manager = Server.judged wire (.install fields) verdict rest near) :
    answersRead manager.log = responses ((handle wire handler).run far).2.log := by
  have bytes := atRest.toFar
  obtain ⟨ty, result, later, replies, spelled, -⟩ := atRest.next answer.bytes answer.fits
  rw [same, atRest.written_judged] at bytes
  rw [same, answersRead_judged, atRest.unread, List.nil_append]
  rcases install_alone (.handle handler) atRest.fresh lawful fits bytes with
    ⟨none, -⟩ | one | ⟨terminal, -, both⟩
  · have none : responses ((handle wire handler).run far).2.log = [] := none
    rw [none] at replies
    cases replies
  · have one : responses ((handle wire handler).run far).2.log = _ := one
    rw [one] at replies ⊢
    cases replies
    rw [eq_of_decoded (verdicts _) spelled answer.decoded]
  · have both : responses ((handle wire handler).run far).2.log = _ := both
    rw [both] at replies
    cases replies
    exact absurd (eq_of_decoded (verdicts _) spelled answer.decoded).symm other

/-- A terminal frame that ends an install is the last thing the agent has written. -/
theorem AtRest.terminal_read {fields : Install} {result : Except String NodePackageResponse}
    {body rest body' rest' : Bytes} {added : List ManagerEvent} {v : Manager τ}
    (atRest : AtRest wire handler call near manager far)
    (lawful : wire.RoundTrips .nodePackageRequest (.install fields))
    (verdicts : ∀ verdict, wire.RoundTrips (.result .installPreflight) verdict)
    (terminals : ∀ result, wire.RoundTrips (.result .nodePackageResponse) result)
    (fits : (Server.installFrame wire (.install fields)).length < Framing.frameLimit)
    (answer : Server.NextResponse wire .installPreflight (.ok .proceed) near.recv.bytes body rest)
    (forwards : Server.Forwards
      (Server.judged wire (.install fields) (.ok .proceed) rest near) added v)
    (total : (Server.sentChunks added).flatten.length = fields.size.toNat)
    (terminal : Server.NextResponse wire .nodePackageResponse result rest body' rest')
    (log : manager.log = v.log ++ [.received .nodePackageResponse result]) :
    answersRead manager.log = responses ((handle wire handler).run far).2.log := by
  have written : (managerParty call).written manager.log = (managerParty call).written v.log := by
    rw [log, Party.written_append]
    exact List.append_nil _
  obtain ⟨ty, first, later, replies, -, after, fit⟩ := atRest.next answer.bytes answer.fits
  have toNear : frame body' ++ rest' <+: responseBytes wire later := by
    rw [← after, terminal.bytes]
  obtain ⟨ty', second, later', replies', spelled, -⟩ := next_response fit terminal.fits toNear
  rw [log, Server.answersRead_append, answersRead_streams forwards.toStreams, atRest.unread]
  rcases atRest.package lawful verdicts fits answer forwards total written with
    ⟨short, -⟩ | ⟨_, both⟩
  · rw [replies, replies', List.length_cons, List.length_cons] at short
    omega
  · rw [both, replies'] at replies
    rw [both]
    cases replies
    rw [eq_of_decoded (terminals _) spelled terminal.decoded]
    rfl

/-- With nothing on its way, a method that ended with the agent's answer has read all
that the agent has written. -/
theorem AtRest.all_read (atRest : AtRest wire handler call near manager far)
    (inStep : InStep wire handler sending plan) (lawful : sending.Lawful wire)
    (runs : sending.Runs wire near outcome manager)
    (concluded : Concluded outcome manager.log) :
    answersRead manager.log = responses ((handle wire handler).run far).2.log := by
  have only_dials {events : List ManagerEvent} (log : manager.log = near.log ++ events)
      (dials : ∀ event ∈ events, event.IsDial) : answersRead manager.log = [] := by
    rw [log, Server.answersRead_append, atRest.unread, answersRead_dials dials]
    rfl
  have no_error (none : answersRead manager.log = []) (error : ApiError) :
      ¬ Concluded (.error (.failed error) : Except (Halt ApiError) Unit) manager.log := by
    rintro ⟨ty, text, mem⟩
    rw [none] at mem
    cases mem
  cases runs with
  | failed _ error events _ log dials =>
      exact absurd concluded (no_error (only_dials log dials) error)
  | silent code ty payload value fits =>
      have bytes := atRest.toFar
      rw [Party.written_append, atRest.written_requesting] at bytes
      have alone : ((handle wire handler).run far).2 = _ :=
        run_alone (.handle handler) (bytes.trans (List.append_nil _)) fits
      have served :
          (Loop.handle handler).arms wire code.discriminant (wire.encode ty payload) = _ :=
        inStep.served
      rw [alone, served, Server.answersRead_append, Server.requesting, Server.answersRead_append,
        atRest.unread]
      cases inStep.matched with
      | silent _ _ _ _ agentCall ask =>
          have none : responses (asked (atRequest far [] code.discriminant (wire.encode ty payload))
              agentCall (ask far.state)).log = [] := by
            rw [asked, responses_append, responses_atRequest atRest.fresh]
            rfl
          exact none.symm
  | waiting code ty payload ret wrap fits waiting => cases concluded
  | answered code ty payload ret wrap result body rest fits answer =>
      have bytes := atRest.toFar
      rw [Party.written_append, atRest.written_requesting] at bytes
      obtain ⟨ty', first, later, replies, spelled, -⟩ := atRest.next answer.bytes answer.fits
      rw [Server.answersRead_append, Server.requesting, Server.answersRead_append, atRest.unread]
      rcases single_answered inStep.matched inStep.served atRest.fresh fits
        (bytes.trans (List.append_nil _)) with ⟨written, one⟩ | ⟨none, -⟩
      · rw [one] at replies ⊢
        cases replies
        rw [eq_of_decoded (lawful.2 _) spelled answer.decoded]
        rfl
      · rw [none] at replies
        cases replies
  | install fields wrap outcome _ transacts =>
      obtain ⟨request, verdicts, terminals⟩ := lawful
      cases transacts with
      | failed error events _ log dials =>
          exact absurd concluded (no_error (only_dials log dials) error)
      | awaitsVerdict fits waiting => cases concluded
      | denied text body rest fits answer =>
          refine atRest.verdict_read request verdicts fits answer ?_ rfl
          intro proceed
          cases proceed
      | refused verdict image body rest fits answer same =>
          refine atRest.verdict_read request verdicts fits answer ?_ rfl
          intro proceed
          cases proceed
          cases same
      | streaming body rest added _ fits answer stuck streams => cases concluded
      | aborted error body rest added v answer streams =>
          have only := Server.answersRead_append v.log [.reset]
          rw [answersRead_streams streams, atRest.unread] at only
          exact absurd concluded (not_concluded only error)
      | awaitsTerminal body rest added _ fits answer forwards total waiting => cases concluded
      | unanswered error body rest added v recv answer forwards =>
          have only := answersRead_streams forwards.toStreams
          rw [atRest.unread] at only
          exact absurd concluded (not_concluded only error)
      | unapplied text body rest added v body' rest' fits answer forwards total terminal =>
          exact atRest.terminal_read request verdicts terminals fits answer forwards total
            terminal rfl
      | applied resp body rest added v body' rest' fits answer forwards total terminal =>
          exact atRest.terminal_read request verdicts terminals fits answer forwards total
            terminal rfl

end ends

/-- Asking the authorizer is neither written nor read. -/
theorem AtRest.of_quiescent {wire : Wire} {handler : Handler σ} {call : ManagerAct τ α}
    {now : Duplex (Opening τ) (Except IoError Bytes) ManagerEvent IoError σ AgentEvent IoError}
    (state : Opening τ) {events : List ManagerEvent}
    (quiescent : Duplex.Quiescent (managerParty call) (agentParty wire (.handle handler)) now)
    (freshNear : now.near.log = []) (freshFar : now.far.log = [])
    (asking : ∀ event ∈ events, ∃ service answer, event = .authorized service answer) :
    AtRest wire handler call { now.near with state, log := now.near.log ++ events }
      (call.run now.near).2 now.far where
  unwritten := by
    rw [freshNear]
    exact written_asking call asking
  unread := by
    rw [freshNear]
    exact answersRead_asking asking
  fresh := freshFar
  toFar := quiescent.toFar
  toNear := by
    have toNear := quiescent.toNear
    rw [Party.output, agentParty_written] at toNear
    exact toNear

/-- The agent answers every request as the request calls for, in order, and a method of the
manager reads as many answers as its request calls for; so when nothing is on its way
between the two, the method is not left waiting. -/
theorem request_response_pairing (wire : Wire) (handler : Handler σ) :
    (∀ state recv send,
      AllSent (connected state recv send)
        ((handle wire handler).run (connected state recv send)).2 →
      ∃ exchanges, Pairs wire (.handle handler) (connected state recv send) exchanges) ∧
    ∀ (method : Method τ) (sending : Sending method.Outcome), method.sending = some sending →
      sending.Lawful wire →
      (∀ w added, ((method.act wire).run w).2.log = w.log ++ added →
        Concluded ((method.act wire).run w).1 added →
        .requested sending.code.discriminant (sending.body wire) ∈ added ∧
        ∃ verdict, (pairing wire (.fromPrimitive sending.code.discriminant)
          (sending.body wire)).Answered verdict (answersRead added)) ∧
      ∀ policy refused state managerSend agentSend now,
        Duplex.Reachable (managerParty (method.act wire)) (agentParty wire (.handle handler))
          (dialing policy refused state managerSend agentSend) now →
        Duplex.Quiescent (managerParty (method.act wire)) (agentParty wire (.handle handler)) now →
        (AllSent now.far ((handle wire handler).run now.far).2 → Sourced now.near.input sending →
          ((method.act wire).run now.near).1 ≠ .error .pending) ∧
        (Concluded ((method.act wire).run now.near).1 ((method.act wire).run now.near).2.log →
          answersRead ((method.act wire).run now.near).2.log =
            responses ((handle wire handler).run now.far).2.log) := by
  refine ⟨fun state recv send sent => (Loop.handle handler).run_pairs wire _ sent, ?_⟩
  intro method sending accepted lawful
  have inStep := Method.inStep wire handler method accepted lawful.spelled
  constructor
  · intro w added log concluded
    rw [Client.RequestCode.fromPrimitive_discriminant, inStep.paired]
    obtain ⟨state, events, asking, ⟨-, error, denied⟩ | ⟨-, ran⟩⟩ := method.run_act wire accepted w
    · rw [denied] at log concluded
      have same : added = events := (List.append_cancel_left log).symm
      obtain ⟨ty, text, mem⟩ := concluded
      rw [same, answersRead_asking asking] at mem
      cases mem
    · rw [ran] at log concluded
      have runs := sending.perform_runs wire { w with state, log := w.log ++ events }
      obtain ⟨later, more⟩ := ((sending.perform wire).progress
        { w with state, log := w.log ++ events }).log
      have split : added = events ++ later := by
        rw [log, List.append_assoc] at more
        exact (List.append_cancel_left more).symm
      have read : answersRead added = answersRead later := by
        rw [split, Server.answersRead_append, answersRead_asking asking, List.nil_append]
      have ended : Concluded ((sending.perform wire).run
          { w with state, log := w.log ++ events }).1 later := by
        unfold Concluded at concluded ⊢
        rw [read] at concluded
        exact concluded
      obtain ⟨requested, answered⟩ := runs_answered runs more.symm ended
      rw [read, split]
      exact ⟨List.mem_append_right _ requested, answered⟩
  · intro policy refused state managerSend agentSend now reachable quiescent
    have freshNear : now.near.log = [] := by
      rw [reachable.frame.1]
      rfl
    have freshFar : now.far.log = [] := by
      rw [reachable.frame.2]
      rfl
    obtain ⟨opening, events, asking, ⟨-, error, denied⟩ | ⟨-, ran⟩⟩ :=
      method.run_act wire accepted now.near
    · rw [denied, freshNear]
      refine ⟨fun _ _ => nofun, ?_⟩
      rintro ⟨ty, text, mem⟩
      rw [List.nil_append, answersRead_asking asking] at mem
      cases mem
    · have atRest := AtRest.of_quiescent opening quiescent freshNear freshFar asking
      have runs := sending.perform_runs wire
        { now.near with state := opening, log := now.near.log ++ events }
      rw [← ran] at runs
      exact ⟨fun sent sourced => atRest.not_pending inStep lawful runs sent sourced,
        fun concluded => atRest.all_read inStep lawful runs concluded⟩

theorem request_response_pairing_sample :
    (∃ exchanges, Pairs Encoding.bincode (.handle eagerHandler)
      (connected () nodeStream (.healthy (.simple .invalidInput))) exchanges) ∧
    ((Server.nodePackageInstall Encoding.bincode (.install (bareInstall 1))).run
      sampleEnd.near).1 ≠ .error .pending ∧
    answersRead ((Server.nodePackageInstall Encoding.bincode (.install (bareInstall 1))).run
        sampleEnd.near).2.log =
      responses ((handle Encoding.bincode eagerHandler).run sampleEnd.far).2.log := by
  obtain ⟨served, methods⟩ := request_response_pairing (τ := Unit) Encoding.bincode eagerHandler
  have sent : AllSent (connected () nodeStream (.healthy (.simple .invalidInput)))
      ((handle Encoding.bincode eagerHandler).run
        (connected () nodeStream (.healthy (.simple .invalidInput)))).2 := by
    unfold AllSent
    decide +kernel
  refine ⟨served () nodeStream (.healthy (.simple .invalidInput)) sent, ?_⟩
  have lawful : (Sending.install (bareInstall 1) id : Sending InstallOutcome).Lawful
      Encoding.bincode :=
    ⟨Encoding.bincode_roundTrips rfl _, fun _ => Encoding.bincode_roundTrips rfl _,
      fun _ => Encoding.bincode_roundTrips rfl _⟩
  obtain ⟨-, ends⟩ := methods (.node (.nodePackageInstall (.install (bareInstall 1))))
    (.install (bareInstall 1) id) rfl lawful
  obtain ⟨moves, agree⟩ := ends () none () _ _ sampleEnd sampleEnd_reachable ⟨rfl, rfl⟩
  have enough : Sourced sampleEnd.near.input
      (.install (bareInstall 1) id : Sending InstallOutcome) := by
    show 1 ≤ (Server.sourceBytes sampleEnd.near.input).length
    decide
  exact ⟨moves rfl enough, agree trivial⟩

end ReviewProtocol
