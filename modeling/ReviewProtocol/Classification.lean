import ReviewProtocol.Agent.Loops
import ReviewProtocol.Server.Gate

set_option autoImplicit false

/- What the error of a dispatch loop says of its cause. A failure to decode arguments has
the same `io::ErrorKind` as an unknown code, and only the arms that attach a class to it
keep the two apart. -/
namespace ReviewProtocol

open Framing (Bytes Act Endpoint Protocol Halt)
open Framing.Act (Turn)

/-- The class an arm of the agent's loops attaches to a decode failure. -/
def Client.RequestCode.classify : Client.RequestCode → Option ProtocolErrorKind
  | reloadTi => some .invalidArgs
  | nodePower => some .invalidArgs
  | _ => none

/-- The type of the arguments that an arm of the manager's loops parses, if it does. -/
def Server.RequestCode.args : Server.RequestCode → Option WireTy
  | getDataSource => some .dataSourceKey
  | getIndicator => some .str
  | getModel => some .str
  | getModelNames => some .unit
  | insertColumnStatistics => some (.pair (.vec .columnStatisticsUpdate) (.pair .u32 .i64))
  | insertModel => some .bytes
  | insertTimeSeries => some (.pair (.vec .timeSeriesUpdate) (.pair .u32 .i64))
  | removeModel => some .str
  | updateClusters => some (.pair (.vec .updateClusterRequest) .u32)
  | updateModel => some .bytes
  | updateOutliers => some (.pair (.vec .outlierInfo) (.pair .u32 .i64))
  | insertEventLabels => some (.pair .u32 (.pair .u32 (.vec .eventMessage)))
  | getLabelDbPatterns => some (.vec (.pair .str .str))
  | insertDataSource => some .dataSource
  | getTrustedDomainList => some .unit
  | getOutliers => some (.pair .u32 .i64)
  | getTorExitNodeList => some .unit
  | getInternalNetworkList => some .unit
  | getAllowlist => some .unit
  | getBlocklist => some .unit
  | getPretrainedModel => some .str
  | getTrustedUserAgentList => some .unit
  | getConfig => some .unit
  | updateHostOpenedPorts => some (.vec (.pair .ipAddr .portCounts))
  | updateHostOsAgents => some (.vec (.pair .ipAddr (.pair (.vec .userAgent) (.vec .str))))
  | getSamplingPolicyList => some .unit
  | reportCustomerDataDeletion => some .customerDataDeletionReport
  | uploadRunModel => some (.pair .u32 .bytes)
  | reportRun => some (.pair .u32 (.pair .reportedRunState (.option .str)))
  | reportActiveRuns => some (.vec .u32)
  | reportDetectorStatus => some .detectorStatusReport
  | _ => none

def Server.RequestCode.classify : Server.RequestCode → Option ProtocolErrorKind
  | getModel => some .invalidArgs
  | getOutliers => some .invalidArgs
  | _ => none

/-- The request has arguments of this type, and they do not decode. -/
def Undecodable (wire : Wire) (args : Option WireTy) (body : Bytes) : Prop :=
  ∃ ty error, args = some ty ∧ wire.decode ty body = .error error

/-- `oinq` reports arguments that do not decode as invalid data, and knows nothing of this
crate's own error type. -/
def PlainDecodeErrors (wire : Wire) : Prop :=
  ∀ ty bytes error, wire.decode ty bytes = .error error →
    error.kind = .invalidData ∧ ∀ kind inner, error ≠ .dispatch kind inner

/-- The class of an error is that of its cause. -/
structure FaithfulKind (kind : ProtocolErrorKind) (denied unassigned undecodable : Prop) :
    Prop where
  forbidden : kind = .forbidden ↔ denied
  notSupported : kind = .notSupported ↔ unassigned
  invalidArgs : kind = .invalidArgs ↔ undecodable

theorem kind_classified {wire : Wire} (plain : PlainDecodeErrors wire) {ty : WireTy}
    {bytes : Bytes} {error : IoError} (refused : wire.decode ty bytes = .error error)
    (classify : Option ProtocolErrorKind) :
    ProtocolErrorKind.ofIoError (classified classify error) = classify.getD .notSupported := by
  cases classify with
  | some kind => rfl
  | none =>
      obtain ⟨kind, foreign⟩ := plain ty bytes error refused
      cases error with
      | simple found =>
          cases kind
          rfl
      | message found text =>
          cases kind
          rfl
      | dispatch found inner => exact absurd rfl (foreign found inner)
      | wrapped found inner =>
          cases kind
          rfl

/-! ### The agent's loops -/

section agent

variable {σ : Type} {wire : Wire} {code : UInt32} {body : Bytes} {error : IoError}

theorem planArgs_undecodable {ty : WireTy} {classify : Option ProtocolErrorKind}
    {plan : ty.denote → Plan σ} (served : ∀ args other, plan args ≠ .undecodable other)
    (planned : planArgs wire ty body classify plan = .undecodable error) :
    ∃ cause, wire.decode ty body = .error cause ∧ error = classified classify cause := by
  unfold planArgs at planned
  cases decoded : wire.decode ty body with
  | ok args =>
      rw [decoded] at planned
      exact absurd planned (served args error)
  | error cause =>
      rw [decoded] at planned
      cases planned
      exact ⟨cause, rfl, rfl⟩

/-- The error of an arm whose arguments did not decode, with the class it attaches. -/
def DecodeFailure (wire : Wire) (request : Client.RequestCode) (body : Bytes) (error : IoError) :
    Prop :=
  ∃ ty cause, request.args = some ty ∧ wire.decode ty body = .error cause ∧
    error = classified request.classify cause

theorem powerPlan_ne (call : (call : NodeCall) → σ → Except String call.ret.denote × σ)
    (req : NodePowerRequest) (error : IoError) : powerPlan call req ≠ .undecodable error := by
  unfold powerPlan
  split
  · nofun
  · nofun

theorem packagePlan_ne (call : (call : NodeCall) → σ → Except String call.ret.denote × σ)
    (req : NodePackageRequest) (error : IoError) : packagePlan call req ≠ .undecodable error := by
  cases req <;> nofun

theorem nodePlan_undecodable {call : (call : NodeCall) → σ → Except String call.ret.denote × σ}
    {request : Client.RequestCode}
    (planned : nodePlan call wire code body request = .undecodable error) :
    DecodeFailure wire request body error := by
  cases request
  case nodePower =>
      obtain ⟨cause, refused, same⟩ := planArgs_undecodable (powerPlan_ne call) planned
      exact ⟨_, cause, rfl, refused, same⟩
  case nodePackage =>
      obtain ⟨cause, refused, same⟩ := planArgs_undecodable (packagePlan_ne call) planned
      exact ⟨_, cause, rfl, refused, same⟩
  all_goals first
    | cases planned
    | (obtain ⟨cause, refused, same⟩ := planArgs_undecodable (fun _ _ same => by cases same) planned
       exact ⟨_, cause, rfl, refused, same⟩)

theorem Handler.plan_undecodable {handler : Handler σ}
    (planned : handler.plan wire code body = .undecodable error) :
    DecodeFailure wire (.fromPrimitive code) body error := by
  unfold Handler.plan at planned
  cases request : Client.RequestCode.fromPrimitive code <;> rw [request] at planned <;> first
    | exact nodePlan_undecodable planned
    | cases planned
    | (obtain ⟨cause, refused, same⟩ := planArgs_undecodable (fun _ _ same => by cases same) planned
       exact ⟨_, cause, rfl, refused, same⟩)

/-- The plan either loop follows. -/
def Loop.plan (wire : Wire) : Loop σ → UInt32 → Bytes → Plan σ
  | handle handler => handler.plan wire
  | handleNode handler => handler.plan wire

theorem Loop.arms_eq (loop : Loop σ) (code : UInt32) (body : Bytes) :
    loop.arms wire code body = (loop.plan wire code body).perform wire loop.nodeHandler code := by
  cases loop with
  | handle handler => exact handler.dispatch_eq wire code body
  | handleNode handler => exact handler.dispatch_eq wire code body

theorem Loop.plan_undecodable {loop : Loop σ}
    (planned : loop.plan wire code body = .undecodable error) :
    DecodeFailure wire (.fromPrimitive code) body error := by
  cases loop with
  | handle handler => exact Handler.plan_undecodable planned
  | handleNode handler => exact nodePlan_undecodable planned

/-- An arm has nothing but undecodable arguments to complain of. -/
theorem Performs.recvError {handler : NodeHandler σ} {w w' : Agent σ} {plan : Plan σ}
    {outcome : Except (Halt HandlerError) Unit}
    (performs : Performs handler code w plan outcome w')
    (failed : outcome = .error (.failed (.recvError error))) : plan = .undecodable error := by
  cases performs with
  | undecodable error => cases failed; rfl
  | undecodableLost error => cases failed; rfl
  | answered | answerLost | unary | unaryLost | silent => cases failed
  | install fields outcome w' installs => cases installs <;> cases failed

theorem Loop.fails_undecodable {loop : Loop σ} {w w' : Agent σ}
    (fails : (agentProtocol wire).FailsOn (goOn (loop.arms wire)) w (code, body)
      (.recvError error) w') : DecodeFailure wire (.fromPrimitive code) body error := by
  obtain ⟨frame, rest, -, -, -, ran⟩ := fails
  rw [run_goOn, loop.arms_eq] at ran
  have performs := (loop.plan wire code body).perform_performs wire loop.nodeHandler code
    ((agentProtocol wire).atRequest w rest (code, body))
  rcases arm : ((loop.plan wire code body).perform wire loop.nodeHandler code).run
      ((agentProtocol wire).atRequest w rest (code, body)) with ⟨halt | value, v⟩
  · rw [arm] at ran performs
    cases ran
    exact Loop.plan_undecodable (performs.recvError rfl)
  · rw [arm] at ran
    cases ran

/-- Arguments that do not decode end the loop. -/
theorem Loop.failsOn (loop : Loop σ) {error : IoError} {w : Agent σ} {rest : Bytes}
    (bytes : w.recv.bytes = Framing.frame (Wire.requestFrame code body) ++ rest)
    (fits : (Wire.requestFrame code body).length < Framing.frameLimit)
    (planned : loop.plan wire code body = .undecodable error) :
    ∃ w', (agentProtocol wire).FailsOn (goOn (loop.arms wire)) w (code, body)
      (.recvError error) w' := by
  have ran := run_goOn (loop.arms wire) (code, body)
    ((agentProtocol wire).atRequest w rest (code, body))
  rw [loop.arms_eq, planned] at ran
  simp only [Plan.perform, Act.run_bind] at ran
  rcases run_trySend wire .unit (.error (undecodableArgsMessage code))
      ((agentProtocol wire).atRequest w rest (code, body)) with sent | ⟨lost, sent⟩
  · rw [sent] at ran
    exact ⟨_, _, rest, bytes, fits, wire.splitRequest_requestFrame code body, ran⟩
  · rw [sent] at ran
    exact ⟨_, _, rest, bytes, fits, wire.splitRequest_requestFrame code body, ran⟩

end agent

/-! ### The manager's loops -/

namespace Server

variable {σ τ : Type} {wire : Wire} {code : UInt32} {body : Bytes} {error : IoError}

theorem planArgs_undecodable {ty : WireTy} {classify : Option ProtocolErrorKind}
    {call : ty.denote → ServerCall}
    (planned : planArgs wire ty body classify call = .undecodable error) :
    ∃ cause, wire.decode ty body = .error cause ∧ error = classified classify cause := by
  unfold planArgs at planned
  cases decoded : wire.decode ty body with
  | ok args =>
      rw [decoded] at planned
      cases planned
  | error cause =>
      rw [decoded] at planned
      refine ⟨cause, rfl, ?_⟩
      cases classify with
      | some kind =>
          cases planned
          rfl
      | none =>
          cases planned
          rfl

theorem planOf_undecodable {peerName : String}
    (planned : planOf wire peerName code body = .undecodable error) :
    ∃ ty cause, (RequestCode.fromPrimitive code).args = some ty ∧
      wire.decode ty body = .error cause ∧
      error = classified (RequestCode.fromPrimitive code).classify cause := by
  unfold planOf at planned
  cases request : RequestCode.fromPrimitive code <;> rw [request] at planned <;> first
    | cases planned
    | (obtain ⟨cause, refused, same⟩ := planArgs_undecodable planned
       exact ⟨_, cause, rfl, refused, same⟩)

/-- The authorizer, asked in this state, says no to this request. -/
def Gate.Denies (gate : Gate τ) (policy : τ) (code : UInt32) : Prop :=
  ∃ service error, fromServerRequestCode (.fromPrimitive code) = some service ∧
    (gate.ask service policy).1 = .error error

/-- Why an arm fails when its writes do not: the code, the policy, or the arguments. -/
inductive Blame (wire : Wire) (gate : Gate τ) (policy : τ) (code : UInt32) (body : Bytes)
    (error : IoError) : Prop where
  | unassigned (unassigned : RequestCode.fromPrimitive code = .unknown)
      (reported : error = unknownRequestCode)
  | denied (reason : AuthorizationError) (denies : gate.Denies policy code)
      (reported : error = Server.denied reason)
  | undecodable (permitted : ¬ gate.Denies policy code)
      (planned : planOf wire gate.peerName code body = .undecodable error)

/-- A refusal ends with its error, whatever was to come after it. -/
theorem run_refusal {α β : Type} {text : String} {reason : IoError} {w w' : Peer σ τ}
    {next : α → ServerAct σ τ β}
    (own : ∀ attempt frame, w.send.outcome attempt frame ≠ some error)
    (ran :
      ((do respond wire .unit (.error text); Act.fail reason : ServerAct σ τ α) >>= next).run w =
      (.error (.failed error), w')) : error = reason := by
  simp only [Act.run_bind] at ran
  rcases run_respond wire .unit (.error text) w with ⟨-, sent⟩ | ⟨failure, lost, sent⟩
  · rw [sent] at ran
    cases ran
    rfl
  · rw [sent] at ran
    cases ran
    exact absurd lost (own _ _)

theorem Plan.perform_error {handler : Handler σ} {plan : Plan} {w w' : Peer σ τ}
    (own : ∀ attempt frame, w.send.outcome attempt frame ≠ some error)
    (ran : (plan.perform wire handler code body).run w = (.error (.failed error), w')) :
    plan = .undecodable error ∨ plan = .unknown ∧ error = unknownRequestCode := by
  cases plan with
  | undecodable reason =>
      cases ran
      exact .inl rfl
  | handBack => cases ran
  | unknown =>
      rw [Plan.perform, refuseUnknown, ← Act.bind_pure (_ >>= _)] at ran
      exact .inr ⟨rfl, run_refusal own ran⟩
  | unary call =>
      simp only [Plan.perform, Handler.invoke, Act.run_bind, Framing.Act.emit, Act.update,
        Act.andThen_ok] at ran
      generalize handler.call call w.state.handler = answer at ran
      rcases run_respond wire call.ret answer.1
        { w with state.handler := answer.2, log := w.log ++ [.called call] } with
        ⟨-, sent⟩ | ⟨failure, lost, sent⟩
      · rw [sent] at ran
        cases ran
      · rw [sent] at ran
        cases ran
        exact absurd lost (own _ _)

theorem Gate.arms_blame {handler : Handler σ} {gate : Gate τ} {w w' : Peer σ τ}
    (own : ∀ attempt frame, w.send.outcome attempt frame ≠ some error)
    (ran : (gate.arms wire handler (code, body)).run w = (.error (.failed error), w')) :
    Blame wire gate w.state.policy code body error := by
  unfold Gate.arms at ran
  dsimp only at ran
  rw [handleAuthorizedArms_eq] at ran
  cases named : fromServerRequestCode (.fromPrimitive code) with
  | none =>
      have unassigned := fromServerRequestCode_none.mp named
      rw [named] at ran
      rcases Plan.perform_error own ran with planned | ⟨-, reported⟩
      · obtain ⟨ty, cause, args, -⟩ := planOf_undecodable planned
        rw [unassigned] at args
        cases args
      · exact .unassigned unassigned reported
  | some service =>
      rw [named] at ran
      simp only [checkAuthorization, Act.run_bind, Act.update, Framing.Act.emit,
        Act.andThen_ok] at ran
      cases answer : (gate.ask service w.state.policy).1 with
      | ok =>
          rw [answer] at ran
          have permitted : ¬ gate.Denies w.state.policy code := by
            rintro ⟨other, reason, named', refused⟩
            rw [named] at named'
            cases named'
            rw [answer] at refused
            cases refused
          rcases Plan.perform_error (w := { w with
              state.policy := (gate.ask service w.state.policy).2
              log := w.log ++ [.authorized service (.ok ())] }) own ran with
            planned | ⟨planned, -⟩
          · exact .undecodable permitted planned
          · have fits := fits_planOf wire gate.peerName code body
            rw [planned] at fits
            rw [fromServerRequestCode_none.mpr fits] at named
            cases named
      | error reason =>
          rw [answer] at ran
          refine .denied reason ⟨service, reason, named, answer⟩ ?_
          exact run_refusal (w := { w with
            state.policy := (gate.ask service w.state.policy).2
            log := w.log ++ [.authorized service (.error reason)] }) own ran

/-- Arguments that do not decode end the loop, once the request is permitted. -/
theorem Gate.failsOn (handler : Handler σ) (gate : Gate τ) {w : Peer σ τ} {rest : Bytes}
    (bytes : w.recv.bytes = Framing.frame (Wire.requestFrame code body) ++ rest)
    (fits : (Wire.requestFrame code body).length < Framing.frameLimit)
    (permitted : ¬ gate.Denies w.state.policy code)
    (planned : planOf wire gate.peerName code body = .undecodable error) :
    ∃ w', (serverProtocol wire).FailsOn (gate.arms wire handler) w (code, body) error w' := by
  have ran : ∃ w', (gate.arms wire handler (code, body)).run
      ((serverProtocol wire).atRequest w rest (code, body)) = (.error (.failed error), w') := by
    unfold Gate.arms
    dsimp only
    rw [handleAuthorizedArms_eq, planned]
    cases named : fromServerRequestCode (.fromPrimitive code) with
    | none => exact ⟨_, rfl⟩
    | some service =>
        simp only [checkAuthorization, Act.run_bind, Act.update, Framing.Act.emit, Act.andThen_ok]
        cases answer : (gate.ask service w.state.policy).1 with
        | ok =>
            simp only [Protocol.atRequest, answer]
            exact ⟨_, rfl⟩
        | error reason => exact absurd ⟨service, reason, named, answer⟩ permitted
  obtain ⟨w', ran⟩ := ran
  exact ⟨w', _, rest, bytes, fits, wire.splitRequest_requestFrame code body, ran⟩

theorem classify_cases (request : RequestCode) :
    request.classify = some .invalidArgs ∨ request.classify = none := by
  cases request <;> decide

/-- The class of the manager's error is that of its cause, unless arguments that do not
decode were not classified, or were not looked at. -/
theorem Blame.faithful_iff {gate : Gate τ} {policy : τ} (plain : PlainDecodeErrors wire)
    (blame : Blame wire gate policy code body error) :
    FaithfulKind (.ofIoError error) (gate.Denies policy code)
        (RequestCode.fromPrimitive code = .unknown)
        (Undecodable wire (RequestCode.fromPrimitive code).args body) ↔
      (Undecodable wire (RequestCode.fromPrimitive code).args body →
        (RequestCode.fromPrimitive code).classify = some .invalidArgs ∧
          ¬ gate.Denies policy code) := by
  cases blame with
  | unassigned unassigned reported =>
      have decodes : ¬ Undecodable wire (RequestCode.fromPrimitive code).args body := by
        rintro ⟨ty, cause, args, -⟩
        rw [unassigned] at args
        cases args
      have permitted : ¬ gate.Denies policy code := by
        rintro ⟨service, reason, named, -⟩
        rw [unassigned] at named
        cases named
      have kind : ProtocolErrorKind.ofIoError error = .notSupported := by rw [reported]; rfl
      constructor
      · intro _ undecodable
        exact absurd undecodable decodes
      · intro _
        rw [kind]
        exact ⟨by simp [permitted], by simp [unassigned], by simp [decodes]⟩
  | denied reason denies reported =>
      have assigned : RequestCode.fromPrimitive code ≠ .unknown := by
        obtain ⟨service, _, named, -⟩ := denies
        intro unassigned
        rw [unassigned] at named
        cases named
      have kind : ProtocolErrorKind.ofIoError error = .forbidden := by rw [reported]; rfl
      constructor
      · intro faithful undecodable
        have other := faithful.invalidArgs.mpr undecodable
        rw [kind] at other
        cases other
      · intro condition
        have decodes : ¬ Undecodable wire (RequestCode.fromPrimitive code).args body :=
          fun undecodable => (condition undecodable).2 denies
        rw [kind]
        exact ⟨by simp [denies], by simp [assigned], by simp [decodes]⟩
  | undecodable permitted planned =>
      obtain ⟨ty, cause, args, refused, reported⟩ := planOf_undecodable planned
      have undecodable : Undecodable wire (RequestCode.fromPrimitive code).args body :=
        ⟨ty, cause, args, refused⟩
      have assigned : RequestCode.fromPrimitive code ≠ .unknown := by
        intro unassigned
        rw [unassigned] at args
        cases args
      have kind := kind_classified plain refused (RequestCode.fromPrimitive code).classify
      rw [← reported] at kind
      rw [kind]
      rcases classify_cases (RequestCode.fromPrimitive code) with classified | unclassified
      · rw [classified]
        constructor
        · intro _ _
          exact ⟨rfl, permitted⟩
        · intro _
          exact ⟨by simp [permitted], by simp [assigned], by simp [undecodable]⟩
      · rw [unclassified]
        constructor
        · intro faithful
          exact absurd (faithful.notSupported.mp rfl) assigned
        · intro condition
          cases (condition undecodable).1

end Server

theorem Client.RequestCode.classify_cases (request : Client.RequestCode) :
    request.classify = some .invalidArgs ∨ request.classify = none := by
  cases request <;> decide

/-- The agent's loops ask no one, so their errors are for undecodable arguments. -/
theorem DecodeFailure.faithful_iff {wire : Wire} (plain : PlainDecodeErrors wire) {code : UInt32}
    {body : Bytes} {error : IoError}
    (failure : DecodeFailure wire (.fromPrimitive code) body error) :
    FaithfulKind (HandlerError.recvError error).kind False
        (Client.RequestCode.fromPrimitive code = .unknown)
        (Undecodable wire (Client.RequestCode.fromPrimitive code).args body) ↔
      (Client.RequestCode.fromPrimitive code).classify = some .invalidArgs := by
  obtain ⟨ty, cause, args, refused, reported⟩ := failure
  have undecodable : Undecodable wire (Client.RequestCode.fromPrimitive code).args body :=
    ⟨ty, cause, args, refused⟩
  have assigned : Client.RequestCode.fromPrimitive code ≠ .unknown := by
    intro unassigned
    rw [unassigned] at args
    cases args
  have kind := kind_classified plain refused (Client.RequestCode.fromPrimitive code).classify
  rw [← reported] at kind
  rw [HandlerError.kind, kind]
  rcases Client.RequestCode.classify_cases (.fromPrimitive code) with classified | unclassified
  · rw [classified]
    constructor
    · intro _
      rfl
    · intro _
      exact ⟨by simp, by simp [assigned], by simp [undecodable]⟩
  · rw [unclassified]
    constructor
    · intro faithful
      exact absurd (faithful.notSupported.mp rfl) assigned
    · intro impossible
      cases impossible

/-- When a request makes a loop return an error that is not the transport's, the class of
the error is that of its cause exactly if the arguments decode or their arm classifies the
failure; on the manager's side, a request that is denied must have arguments that decode. -/
theorem error_kind_faithful_iff (wire : Wire) (plain : PlainDecodeErrors wire) :
    (∀ (σ : Type) (loop : Loop σ) (w w' : Agent σ) (code : UInt32) (body : Bytes) (error : IoError),
      (agentProtocol wire).FailsOn (goOn (loop.arms wire)) w (code, body) (.recvError error) w' →
      (loop.run wire).run w = (.error (.failed (.recvError error)), w') ∧
      (FaithfulKind (HandlerError.recvError error).kind False
          (Client.RequestCode.fromPrimitive code = .unknown)
          (Undecodable wire (Client.RequestCode.fromPrimitive code).args body) ↔
        (Client.RequestCode.fromPrimitive code).classify = some .invalidArgs)) ∧
    (∀ (σ τ : Type) (handler : Server.Handler σ) (gate : Server.Gate τ) (w w' : Server.Peer σ τ)
        (code : UInt32) (body : Bytes) (error : IoError),
      (Server.serverProtocol wire).FailsOn (gate.arms wire handler) w (code, body) error w' →
      (∀ attempt frame, w.send.outcome attempt frame ≠ some error) →
      (gate.loop wire handler).run w = (.error (.failed error), w') ∧
      (FaithfulKind (.ofIoError error) (gate.Denies w.state.policy code)
          (Server.RequestCode.fromPrimitive code = .unknown)
          (Undecodable wire (Server.RequestCode.fromPrimitive code).args body) ↔
        (Undecodable wire (Server.RequestCode.fromPrimitive code).args body →
          (Server.RequestCode.fromPrimitive code).classify = some .invalidArgs ∧
            ¬ gate.Denies w.state.policy code))) := by
  constructor
  · intro σ loop w w' code body error fails
    refine ⟨?_, (Loop.fails_undecodable fails).faithful_iff plain⟩
    rw [loop.run_eq_serve]
    exact fails.run_eq
  · intro σ τ handler gate w w' code body error fails own
    refine ⟨?_, ?_⟩
    · rw [gate.loop_eq_serve]
      exact fails.run_eq
    · obtain ⟨frame, rest, -, -, -, ran⟩ := fails
      exact (Server.Gate.arms_blame
        (w := (Server.serverProtocol wire).atRequest w rest (code, body))
        own ran).faithful_iff plain

theorem bincode_plain : PlainDecodeErrors Encoding.bincode := by
  intro ty bytes error refused
  have same : error = .message .invalidData "undecodable" := by
    simp only [Encoding.bincode, Encoding.decode] at refused
    split at refused
    · split at refused
      · cases refused
      · cases refused
        rfl
    · cases refused
      rfl
  rw [same]
  refine ⟨rfl, ?_⟩
  intro kind inner foreign
  cases foreign

/-- An agent in front of one request, whose arguments are a byte that begins a text of
nine. -/
def facingRequest (request : Client.RequestCode) : Agent Unit :=
  connected () ⟨encodedRequest request [9], none⟩ (.healthy (.simple .invalidInput))

namespace Server

def unsupporting : Handler Unit where
  call _ state := (.error "not supported", state)

def openGate : Gate Unit := .legacy (.new "agent") noopAuthorizer

def facingRequest (request : RequestCode) : Peer Unit Unit where
  state := ⟨(), ()⟩
  input := []
  recv := ⟨Framing.frame (Wire.requestFrame request.discriminant [9]), none⟩
  send := .healthy (.simple .invalidInput)
  log := []

end Server

theorem healthy_own {error : IoError} (other : error ≠ .simple .invalidInput) (attempt : Nat)
    (frame : Bytes) :
    (Framing.SendStream.healthy (.simple .invalidInput)).outcome attempt frame ≠ some error := by
  change (if frame.length < Framing.frameLimit then none else some _) ≠ _
  split
  · nofun
  · intro same
    exact other (Option.some.inj same).symm

theorem openGate_permits (policy : Unit) (code : UInt32) :
    ¬ Server.openGate.Denies policy code := by
  rintro ⟨service, reason, -, refused⟩
  cases refused

/-- A text that does not decode is classified by the arm of `ReloadTi` and by that of
`GetModel`. -/
theorem error_kind_faithful_iff_sample :
    FaithfulKind
      (HandlerError.recvError (.dispatch .invalidData ⟨.invalidArgs, "undecodable"⟩)).kind
        False (Client.RequestCode.fromPrimitive (Client.RequestCode.discriminant .reloadTi) =
          .unknown)
        (Undecodable Encoding.bincode
          (Client.RequestCode.fromPrimitive (Client.RequestCode.discriminant .reloadTi)).args [9]) ∧
      FaithfulKind (.ofIoError (.dispatch .invalidData ⟨.invalidArgs, "undecodable"⟩))
        (Server.openGate.Denies () (Server.RequestCode.discriminant .getModel))
        (Server.RequestCode.fromPrimitive (Server.RequestCode.discriminant .getModel) = .unknown)
        (Undecodable Encoding.bincode
          (Server.RequestCode.fromPrimitive (Server.RequestCode.discriminant .getModel)).args
            [9]) := by
  constructor
  · have planned : (Loop.handle eagerHandler).plan Encoding.bincode
        (Client.RequestCode.discriminant .reloadTi) [9] =
        .undecodable (.dispatch .invalidData ⟨.invalidArgs, "undecodable"⟩) := rfl
    obtain ⟨w', fails⟩ := Loop.failsOn (.handle eagerHandler) (w := facingRequest .reloadTi)
      (List.append_nil _).symm (by decide) planned
    exact ((error_kind_faithful_iff Encoding.bincode bincode_plain).1 Unit (.handle eagerHandler)
      _ _ _ _ _ fails).2.mpr rfl
  · have planned : Server.planOf Encoding.bincode Server.openGate.peerName
        (Server.RequestCode.discriminant .getModel) [9] =
        .undecodable (.dispatch .invalidData ⟨.invalidArgs, "undecodable"⟩) := rfl
    obtain ⟨w', fails⟩ := Server.Gate.failsOn Server.unsupporting Server.openGate
      (w := Server.facingRequest .getModel) (List.append_nil _).symm (by decide)
      (openGate_permits _ _) planned
    refine ((error_kind_faithful_iff Encoding.bincode bincode_plain).2 Unit Unit
      Server.unsupporting Server.openGate _ _ _ _ _ fails (healthy_own nofun)).2.mpr ?_
    intro _
    exact ⟨rfl, openGate_permits _ _⟩

/-- A package request, and one for an indicator, that do not decode look like codes that
are not supported. -/
theorem decode_failure_unsupported :
    (∃ w' error, (agentProtocol Encoding.bincode).FailsOn
        (goOn ((Loop.handle eagerHandler).arms Encoding.bincode)) (facingRequest .nodePackage)
        (Client.RequestCode.discriminant .nodePackage, [9]) (.recvError error) w' ∧
      (HandlerError.recvError error).kind = .notSupported ∧
      ¬ FaithfulKind (HandlerError.recvError error).kind False
        (Client.RequestCode.fromPrimitive (Client.RequestCode.discriminant .nodePackage) = .unknown)
        (Undecodable Encoding.bincode
          (Client.RequestCode.fromPrimitive (Client.RequestCode.discriminant .nodePackage)).args
            [9])) ∧
    (∃ w' error, (Server.serverProtocol Encoding.bincode).FailsOn
        (Server.openGate.arms Encoding.bincode Server.unsupporting)
        (Server.facingRequest .getIndicator)
        (Server.RequestCode.discriminant .getIndicator, [9]) error w' ∧
      ProtocolErrorKind.ofIoError error = .notSupported ∧
      ¬ FaithfulKind (.ofIoError error)
        (Server.openGate.Denies () (Server.RequestCode.discriminant .getIndicator))
        (Server.RequestCode.fromPrimitive (Server.RequestCode.discriminant .getIndicator) =
          .unknown)
        (Undecodable Encoding.bincode
          (Server.RequestCode.fromPrimitive (Server.RequestCode.discriminant .getIndicator)).args
          [9])) := by
  constructor
  · have planned : (Loop.handle eagerHandler).plan Encoding.bincode
        (Client.RequestCode.discriminant .nodePackage) [9] =
        .undecodable (.message .invalidData "undecodable") := rfl
    obtain ⟨w', fails⟩ := Loop.failsOn (.handle eagerHandler) (w := facingRequest .nodePackage)
      (List.append_nil _).symm (by decide) planned
    refine ⟨w', _, fails, rfl, ?_⟩
    intro faithful
    have unassigned := faithful.notSupported.mp rfl
    rw [Client.RequestCode.fromPrimitive_discriminant] at unassigned
    cases unassigned
  · have planned : Server.planOf Encoding.bincode Server.openGate.peerName
        (Server.RequestCode.discriminant .getIndicator) [9] =
        .undecodable (.message .invalidData "undecodable") := rfl
    obtain ⟨w', fails⟩ := Server.Gate.failsOn Server.unsupporting Server.openGate
      (w := Server.facingRequest .getIndicator) (List.append_nil _).symm (by decide)
      (openGate_permits _ _) planned
    refine ⟨w', _, fails, rfl, ?_⟩
    intro faithful
    have unassigned := faithful.notSupported.mp rfl
    rw [Server.RequestCode.fromPrimitive_discriminant] at unassigned
    cases unassigned

end ReviewProtocol
