import ReviewProtocol.Agent.Dispatch

set_option autoImplicit false

/- What a request frame comes to, once its code and arguments are known. The arms of
both loops are instances of five plans, and every fact about a run is proved by
cases on the plan. -/
namespace ReviewProtocol

open Framing (Bytes Act)
open Framing.Act (emit)

variable {σ : Type}

inductive Plan (σ : Type) where
  /-- The arguments did not decode; the loop will end with this error. -/
  | undecodable (error : IoError)
  /-- Answered by the loop itself. -/
  | answer (ty : WireTy) (result : Except String ty.denote)
  /-- One handler call, and its result written. -/
  | unary (call : AgentCall) (ty : WireTy) (ask : σ → Except String ty.denote × σ)
  /-- One handler call, with nothing written. -/
  | silent (call : AgentCall) (ask : σ → σ)
  | install (fields : Install)

def Plan.perform (wire : Wire) (handler : NodeHandler σ) (code : UInt32) :
    Plan σ → AgentAct σ Unit
  | undecodable error => do
      let _ ← trySend wire .unit (.error (undecodableArgsMessage code))
      Act.fail (.recvError error)
  | answer ty result => sendResponse wire ty result
  | unary call ty ask => do
      let result ← invoke call ask
      sendResponse wire ty result
  | silent call ask => do
      emit (.called call)
      Act.update fun state => ((), ask state)
  | install fields => dispatchInstall wire handler (.install fields) fields.size.toNat

/-- How a request is answered: what the peer has to know to stay in step. -/
inductive Pairing where
  | undecodable
  | silent
  | single
  | install (fields : Install)
deriving DecidableEq

/-- The type of a request's arguments, for the codes that carry any. -/
def Client.RequestCode.args : Client.RequestCode → Option WireTy
  | reloadTi => some .str
  | torExitNodeList => some (.vec .str)
  | samplingPolicyList => some (.vec .samplingPolicy)
  | deleteSamplingPolicy => some (.vec .u32)
  | trustedDomainList => some (.vec .str)
  | internalNetworkList => some .hostNetworkGroup
  | allowlist => some .hostNetworkGroup
  | blocklist => some .hostNetworkGroup
  | trustedUserAgentList => some (.vec .str)
  | reloadFilterRule => some (.vec .trafficFilterRule)
  | deleteCustomerData => some .customerDataDeletionRequest
  | nodeService => some .nodeServiceRequest
  | nodeNetworkInterface => some .nodeNetworkInterfaceRequest
  | nodeHostname => some .nodeHostnameRequest
  | nodeTimeSync => some .nodeTimeSyncRequest
  | nodeLogging => some .nodeLoggingRequest
  | nodeRemoteAccess => some .nodeRemoteAccessRequest
  | nodePower => some .nodePowerRequest
  | nodeObservation => some .nodeObservationRequest
  | nodeVersion => some .nodeVersionRequest
  | nodePackage => some .nodePackageRequest
  | nodeEnroll => some .nodeEnrollRequest
  | trainModel => some .trainModelRequest
  | cloneModel => some .cloneModelRequest
  | cancelRun => some .u32
  | runDetectorOnce => some .i32
  | _ => none

def pairing (wire : Wire) (request : Client.RequestCode) (body : Bytes) : Pairing :=
  match request with
  | .nodePower =>
      match wire.decode .nodePowerRequest body with
      | .ok req => if nodePowerExpectsResponse req then .single else .silent
      | .error _ => .undecodable
  | .nodePackage =>
      match wire.decode .nodePackageRequest body with
      | .ok (.install fields) => .install fields
      | .ok _ => .single
      | .error _ => .undecodable
  | request =>
      match request.args with
      | none => .single
      | some ty =>
          match wire.decode ty body with
          | .ok _ => .single
          | .error _ => .undecodable

def Plan.pairing : Plan σ → Pairing
  | undecodable _ => .undecodable
  | answer _ _ => .single
  | unary _ _ _ => .single
  | silent _ _ => .silent
  | install fields => .install fields

/-- The plan of an arm that decodes its arguments first. -/
def planArgs (wire : Wire) (ty : WireTy) (body : Bytes) (classify : Option ProtocolErrorKind)
    (plan : ty.denote → Plan σ) : Plan σ :=
  match wire.decode ty body with
  | .ok args => plan args
  | .error error => .undecodable (classified classify error)

section node

variable (call : (call : NodeCall) → σ → Except String call.ret.denote × σ)

def nodeUnary (made : NodeCall) : Plan σ := .unary (.node made) made.ret (call made)

def powerPlan (req : NodePowerRequest) : Plan σ :=
  if nodePowerExpectsResponse req then nodeUnary call (.nodePower req)
  else .silent (.node (.nodePower req)) fun state => (call (.nodePower req) state).2

def packagePlan : NodePackageRequest → Plan σ
  | .install fields => .install fields
  | req => nodeUnary call (.nodePackage req)

/-- The plans of `handle_node`'s arms, over the methods they call. -/
def nodePlan (wire : Wire) (code : UInt32) (body : Bytes) : Client.RequestCode → Plan σ
  | .nodeService =>
      planArgs wire .nodeServiceRequest body none fun req => nodeUnary call (.nodeService req)
  | .nodeNetworkInterface =>
      planArgs wire .nodeNetworkInterfaceRequest body none fun req =>
        nodeUnary call (.nodeNetworkInterface req)
  | .nodeHostname =>
      planArgs wire .nodeHostnameRequest body none fun req => nodeUnary call (.nodeHostname req)
  | .nodeTimeSync =>
      planArgs wire .nodeTimeSyncRequest body none fun req => nodeUnary call (.nodeTimeSync req)
  | .nodeLogging =>
      planArgs wire .nodeLoggingRequest body none fun req => nodeUnary call (.nodeLogging req)
  | .nodeRemoteAccess =>
      planArgs wire .nodeRemoteAccessRequest body none fun req =>
        nodeUnary call (.nodeRemoteAccess req)
  | .nodePower => planArgs wire .nodePowerRequest body (some .invalidArgs) (powerPlan call)
  | .nodeObservation =>
      planArgs wire .nodeObservationRequest body none fun req =>
        nodeUnary call (.nodeObservation req)
  | .nodeVersion =>
      planArgs wire .nodeVersionRequest body none fun req => nodeUnary call (.nodeVersion req)
  | .nodePackage => planArgs wire .nodePackageRequest body none (packagePlan call)
  | .nodeEnroll =>
      planArgs wire .nodeEnrollRequest body none fun req => nodeUnary call (.nodeEnroll req)
  | _ => .answer .unit (.error (unknownRequestMessage code))

end node

def NodeHandler.plan (wire : Wire) (handler : NodeHandler σ) (code : UInt32) (body : Bytes) :
    Plan σ :=
  nodePlan handler.call wire code body (.fromPrimitive code)

def Handler.flatUnary (handler : Handler σ) (call : FlatCall) : Plan σ :=
  .unary (.flat call) call.ret (handler.flat call)

/-- A node method whose result is translated before it is written. -/
def Handler.translated (handler : Handler σ) (call : NodeCall) (ty : WireTy)
    (translate : Except String call.ret.denote → Except String ty.denote) : Plan σ :=
  .unary (.node call) ty fun state =>
    (translate (handler.node call state).1, (handler.node call state).2)

/-- The plans of `handle`'s arms. -/
def Handler.plan (wire : Wire) (handler : Handler σ) (code : UInt32) (body : Bytes) : Plan σ :=
  match Client.RequestCode.fromPrimitive code with
  | .dnsStart => handler.flatUnary .dnsStart
  | .dnsStop => handler.flatUnary .dnsStop
  | .reboot => handler.translated (.nodePower .reboot) .unit (Except.map fun _ => ())
  | .reloadConfig => handler.flatUnary .reloadConfig
  | .reloadTi =>
      planArgs wire .str body (some .invalidArgs) fun version =>
        handler.flatUnary (.reloadTi version)
  | .resourceUsage =>
      handler.translated (.nodeObservation .resourceUsage) (.pair .str .resourceUsage)
        (· >>= flatResourceUsage wire)
  | .torExitNodeList =>
      planArgs wire (.vec .str) body none fun nodes => handler.flatUnary (.torExitNodeList nodes)
  | .samplingPolicyList =>
      planArgs wire (.vec .samplingPolicy) body none fun list =>
        handler.flatUnary (.samplingPolicyList list)
  | .reloadFilterRule =>
      planArgs wire (.vec .trafficFilterRule) body none fun rules =>
        handler.flatUnary (.updateTrafficFilterRules rules)
  | .updateConfig => handler.flatUnary .updateConfig
  | .deleteSamplingPolicy =>
      planArgs wire (.vec .u32) body none fun policyIds =>
        handler.flatUnary (.deleteSamplingPolicy policyIds)
  | .internalNetworkList =>
      planArgs wire .hostNetworkGroup body none fun networkList =>
        handler.flatUnary (.internalNetworkList networkList)
  | .allowlist =>
      planArgs wire .hostNetworkGroup body none fun allowlist =>
        handler.flatUnary (.allowlist allowlist)
  | .blocklist =>
      planArgs wire .hostNetworkGroup body none fun blocklist =>
        handler.flatUnary (.blocklist blocklist)
  | .echoRequest => .answer .unit (.ok ())
  | .trustedUserAgentList =>
      planArgs wire (.vec .str) body none fun userAgentList =>
        handler.flatUnary (.trustedUserAgentList userAgentList)
  | .trustedDomainList =>
      planArgs wire (.vec .str) body none fun domains =>
        handler.flatUnary (.trustedDomainList domains)
  | .processList =>
      handler.translated (.nodeObservation .processList) (.vec .process)
        (· >>= flatProcessList wire)
  | .semiSupervisedModels => handler.flatUnary (.updateSemiSupervisedModels body)
  | .shutdown => handler.translated (.nodePower .shutdown) .unit (Except.map fun _ => ())
  | .deleteCustomerData =>
      planArgs wire .customerDataDeletionRequest body none fun request =>
        handler.flatUnary (.deleteCustomerData request)
  | .trainModel =>
      planArgs wire .trainModelRequest body none fun request =>
        handler.flatUnary (.trainModel request)
  | .cloneModel =>
      planArgs wire .cloneModelRequest body none fun request =>
        handler.flatUnary (.cloneModel request)
  | .cancelRun => planArgs wire .u32 body none fun runId => handler.flatUnary (.cancelRun runId)
  | .runDetectorOnce =>
      planArgs wire .i32 body none fun detectorId => handler.flatUnary (.runDetectorOnce detectorId)
  | request => nodePlan handler.node wire code body request

section arms

variable {wire : Wire} {handler : NodeHandler σ} {code : UInt32} {body : Bytes}

/-- An arm that decodes its arguments follows the plan they decide. -/
theorem decodeArgs_bind {ty : WireTy} {classify : Option ProtocolErrorKind}
    {next : ty.denote → AgentAct σ Unit} {plan : ty.denote → Plan σ}
    (follows : ∀ args, next args = (plan args).perform wire handler code) :
    decodeArgs wire ty code body classify >>= next =
      (planArgs wire ty body classify plan).perform wire handler code := by
  unfold decodeArgs planArgs
  cases wire.decode ty body with
  | ok args => exact follows args
  | error error =>
      apply Act.ext
      funext w
      simp only [Act.run_bind, Plan.perform]
      rcases (trySend wire .unit (.error (undecodableArgsMessage code)) : AgentAct σ _).run w with
        ⟨halt | sent, w'⟩
      · rfl
      · rfl

theorem perform_powerPlan (call : (call : NodeCall) → σ → Except String call.ret.denote × σ)
    (req : NodePowerRequest) :
    (do
      let result ← invoke (.node (.nodePower req)) (call (.nodePower req))
      if nodePowerExpectsResponse req then
        sendResponse wire .nodePowerResponse result) =
      (powerPlan call req).perform wire handler code := by
  unfold powerPlan
  by_cases expects : nodePowerExpectsResponse req
  · simp only [if_pos expects]
    rfl
  · simp only [if_neg expects]
    rfl

theorem perform_packagePlan (code : UInt32) (req : NodePackageRequest) :
    dispatchNodePackage wire handler req =
      (packagePlan handler.call req).perform wire handler code := by
  cases req <;> rfl

theorem pairing_planArgs {ty : WireTy} {classify : Option ProtocolErrorKind}
    {plan : ty.denote → Plan σ} (single : ∀ args, (plan args).pairing = .single) :
    (planArgs wire ty body classify plan).pairing =
      match wire.decode ty body with
      | .ok _ => .single
      | .error _ => .undecodable := by
  unfold planArgs
  cases wire.decode ty body with
  | ok args => exact single args
  | error error => rfl

end arms

theorem NodeHandler.dispatch_eq (wire : Wire) (handler : NodeHandler σ) (code : UInt32)
    (body : Bytes) :
    handler.dispatch wire code body = (handler.plan wire code body).perform wire handler code := by
  unfold NodeHandler.dispatch NodeHandler.plan
  cases Client.RequestCode.fromPrimitive code
  case nodePower => exact decodeArgs_bind fun req => perform_powerPlan handler.call req
  case nodePackage => exact decodeArgs_bind (perform_packagePlan code)
  all_goals first
    | rfl
    | exact decodeArgs_bind fun _ => rfl

theorem Handler.dispatch_eq (wire : Wire) (handler : Handler σ) (code : UInt32) (body : Bytes) :
    handler.dispatch wire code body =
      (handler.plan wire code body).perform wire handler.toNodeHandler code := by
  unfold Handler.dispatch Handler.plan
  cases Client.RequestCode.fromPrimitive code
  case nodePower => exact decodeArgs_bind fun req => perform_powerPlan handler.node req
  case nodePackage =>
      refine decodeArgs_bind fun req => ?_
      rw [perform_packagePlan code]
      cases req <;> rfl
  all_goals first
    | rfl
    | exact decodeArgs_bind fun _ => rfl

/-- The codes `handle_node` serves. -/
def Client.RequestCode.isNode : Client.RequestCode → Bool
  | nodeService => true
  | nodeNetworkInterface => true
  | nodeHostname => true
  | nodeTimeSync => true
  | nodeLogging => true
  | nodeRemoteAccess => true
  | nodePower => true
  | nodeObservation => true
  | nodeVersion => true
  | nodePackage => true
  | nodeEnroll => true
  | _ => false

/-- A code as `handle_node` sees it: every other family is unknown there. -/
def Client.RequestCode.nodeOnly (request : Client.RequestCode) : Client.RequestCode :=
  if request.isNode then request else .unknown

/-- An arm does what some plan says, and the plan fits the request. -/
def Planned (wire : Wire) (handler : NodeHandler σ) (code : UInt32)
    (request : Client.RequestCode) (body : Bytes) (arm : AgentAct σ Unit) : Prop :=
  ∃ plan : Plan σ, arm = plan.perform wire handler code ∧
    plan.pairing = pairing wire request body ∧
    (request = .unknown → plan = .answer .unit (.error (unknownRequestMessage code)))

theorem pairing_power (wire : Wire) (body : Bytes) (classify : Option ProtocolErrorKind)
    (call : (call : NodeCall) → σ → Except String call.ret.denote × σ) :
    (planArgs wire .nodePowerRequest body classify (powerPlan call)).pairing =
      pairing wire .nodePower body := by
  unfold planArgs pairing
  cases wire.decode .nodePowerRequest body with
  | ok req =>
      dsimp only [powerPlan]
      split
      · rfl
      · rfl
  | error error => rfl

theorem pairing_package (wire : Wire) (body : Bytes) (classify : Option ProtocolErrorKind)
    (call : (call : NodeCall) → σ → Except String call.ret.denote × σ) :
    (planArgs wire .nodePackageRequest body classify (packagePlan call)).pairing =
      pairing wire .nodePackage body := by
  unfold planArgs pairing
  cases wire.decode .nodePackageRequest body with
  | ok req => cases req <;> rfl
  | error error => rfl

theorem pairing_nodePlan (wire : Wire) (code : UInt32) (body : Bytes)
    (call : (call : NodeCall) → σ → Except String call.ret.denote × σ)
    (request : Client.RequestCode) :
    (nodePlan call wire code body request).pairing = pairing wire request.nodeOnly body := by
  cases request
  case nodePower => exact pairing_power wire body _ call
  case nodePackage => exact pairing_package wire body _ call
  all_goals first
    | rfl
    | exact pairing_planArgs fun _ => rfl

theorem Handler.pairing_plan (wire : Wire) (handler : Handler σ) (code : UInt32) (body : Bytes) :
    (handler.plan wire code body).pairing =
      pairing wire (Client.RequestCode.fromPrimitive code) body := by
  unfold Handler.plan
  cases Client.RequestCode.fromPrimitive code
  case nodePower => exact pairing_power wire body _ handler.node
  case nodePackage => exact pairing_package wire body _ handler.node
  all_goals first
    | rfl
    | exact pairing_planArgs fun _ => rfl

theorem Handler.dispatch_planned (wire : Wire) (handler : Handler σ) (code : UInt32)
    (body : Bytes) :
    Planned wire handler.toNodeHandler code (Client.RequestCode.fromPrimitive code) body
      (handler.dispatch wire code body) := by
  refine ⟨handler.plan wire code body, handler.dispatch_eq wire code body,
    handler.pairing_plan wire code body, ?_⟩
  intro unknown
  rw [Handler.plan, unknown]
  rfl

theorem NodeHandler.dispatch_planned (wire : Wire) (handler : NodeHandler σ) (code : UInt32)
    (body : Bytes) :
    Planned wire handler code (Client.RequestCode.fromPrimitive code).nodeOnly body
      (handler.dispatch wire code body) := by
  refine ⟨handler.plan wire code body, handler.dispatch_eq wire code body,
    pairing_nodePlan wire code body handler.call _, ?_⟩
  unfold NodeHandler.plan
  cases Client.RequestCode.fromPrimitive code <;> first
    | exact fun _ => rfl
    | exact fun served => by cases served

end ReviewProtocol
