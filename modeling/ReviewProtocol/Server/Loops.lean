import ReviewProtocol.Server.Handler

set_option autoImplicit false

/- What the manager's loops do for each request, and what follows for whole runs: the
two copies of the loop are the same loop, and nothing gets past the authorizer. -/
namespace ReviewProtocol.Server

open Framing (Bytes Act Endpoint Protocol Halt frame)
open Framing.Act (Turn emit)
open Framing.Protocol (Exchange)

variable {σ τ : Type}

theorem handleAuthorizedWithContextArms_eq (wire : Wire) (handler : Handler σ)
    (peerName : String) (code : UInt32) (body : Bytes) :
    (handleAuthorizedWithContextArms wire handler peerName code body : ServerAct σ τ _) =
      handleAuthorizedArms wire handler peerName code body := by
  unfold handleAuthorizedWithContextArms handleAuthorizedArms
  cases Server.RequestCode.fromPrimitive code <;> rfl

/-- Through an adapted policy, the loop that takes a context is the loop that takes the
peer the context was built from. -/
theorem handleAuthorizedWithContext_adapted (wire : Wire) (handler : Handler σ)
    (peer : PeerContext) (authorizer : Authorizer τ) (agentKind : Option AgentKind)
    (roles : Option (List String)) (protocolMetadata : Option ProtocolMetadata)
    (attributes : Option (List (String × String))) :
    handleAuthorizedWithContext wire handler
      (.fromAuthenticatedInputs peer agentKind roles protocolMetadata attributes)
      authorizer.adapted = handleAuthorized wire handler peer authorizer := by
  unfold handleAuthorizedWithContext handleAuthorized
  congr 1
  funext ⟨code, body⟩
  have same := AuthorizationContext.toPeerContext_fromAuthenticatedInputs peer agentKind roles
    protocolMetadata attributes
  simp only [Authorizer.adapted, same, handleAuthorizedWithContextArms_eq]
  rfl

/-- The two loops make the same calls on the policy, make the same calls on the handler,
write the same frames and return the same result, and the loop without authorization is
the one that allows everything. -/
theorem handleAuthorized_eq_withContext (wire : Wire) (handler : Handler σ) (peer : PeerContext)
    (authorizer : Authorizer τ) (agentKind : Option AgentKind) (roles : Option (List String))
    (protocolMetadata : Option ProtocolMetadata) (attributes : Option (List (String × String))) :
    (∀ start : Peer σ τ, (handleAuthorized wire handler peer authorizer).run start =
      (handleAuthorizedWithContext wire handler
        (.fromAuthenticatedInputs peer agentKind roles protocolMetadata attributes)
        authorizer.adapted).run start) ∧
    (∀ start : Peer σ (τ × List (PeerContext × ServiceId)),
      (handleAuthorized wire handler peer authorizer.recorded).run start =
        (handleAuthorizedWithContext wire handler
          (.fromAuthenticatedInputs peer agentKind roles protocolMetadata attributes)
          authorizer.recorded.adapted).run start) ∧
    ∀ (name : String) (start : Peer σ Unit), (handle wire handler name).run start =
      (handleAuthorized wire handler (PeerContext.new name) noopAuthorizer).run start := by
  refine ⟨fun start => ?_, fun start => ?_, fun name start => rfl⟩
  · rw [handleAuthorizedWithContext_adapted]
  · rw [handleAuthorizedWithContext_adapted]

/-- What a frame comes to once the authorizer let it pass. -/
inductive Plan where
  /-- The arguments did not decode. -/
  | undecodable (error : IoError)
  /-- One handler call, and its result written. -/
  | unary (call : ServerCall)
  /-- The caller has to serve it. -/
  | handBack
  | unknown

def Plan.perform (wire : Wire) (handler : Handler σ) (code : UInt32) (body : Bytes) :
    Plan → ServerAct σ τ (Turn Unit HandedBack)
  | undecodable error => Act.fail error
  | unary call => do
      let result ← handler.invoke call
      respond wire call.ret result
      pure (.next ())
  | handBack => pure (.stop (some (code, body)))
  | unknown => refuseUnknown wire

/-- The plan of an arm that parses its arguments first. -/
def planArgs (wire : Wire) (ty : WireTy) (body : Bytes) (classify : Option ProtocolErrorKind)
    (call : ty.denote → ServerCall) : Plan :=
  match wire.decode ty body with
  | .ok args => .unary (call args)
  | .error error =>
      match classify with
      | some kind => .undecodable (DispatchError.fromIo kind error)
      | none => .undecodable error

/-- The plans of the arms. -/
def planOf (wire : Wire) (peerName : String) (code : UInt32) (body : Bytes) : Plan :=
  match Server.RequestCode.fromPrimitive code with
  | .getAllowlist => planArgs wire .unit body none fun _ => .getAllowlist peerName
  | .getBlocklist => planArgs wire .unit body none fun _ => .getBlocklist peerName
  | .getDataSource => planArgs wire .dataSourceKey body none fun key => .getDataSource key
  | .getIndicator => planArgs wire .str body none fun name => .getIndicator name
  | .getModel => planArgs wire .str body (some .invalidArgs) fun name => .getModel name
  | .getModelNames => planArgs wire .unit body none fun _ => .getModelNames
  | .getLabelDbPatterns =>
      planArgs wire (.vec (.pair .str .str)) body none fun names => .getLabeldbPatterns names
  | .getTorExitNodeList => planArgs wire .unit body none fun _ => .getTorExitNodeList
  | .getTrustedDomainList => planArgs wire .unit body none fun _ => .getTrustedDomainList
  | .getTrustedUserAgentList => planArgs wire .unit body none fun _ => .getTrustedUserAgentList
  | .getConfig => planArgs wire .unit body none fun _ => .getConfig peerName
  | .getInternalNetworkList =>
      planArgs wire .unit body none fun _ => .getInternalNetworkList peerName
  | .getOutliers =>
      planArgs wire (.pair .u32 .i64) body (some .invalidArgs)
        fun args => .getOutliers args.1 args.2
  | .getPretrainedModel => planArgs wire .str body none fun name => .getPretrainedModel name
  | .getSamplingPolicyList => planArgs wire .unit body none fun _ => .getSamplingPolicyList peerName
  | .insertColumnStatistics =>
      planArgs wire (.pair (.vec .columnStatisticsUpdate) (.pair .u32 .i64)) body none
        fun args => .insertColumnStatistics args.1 args.2.1 args.2.2
  | .insertDataSource => planArgs wire .dataSource body none fun source => .insertDataSource source
  | .insertEventLabels =>
      planArgs wire (.pair .u32 (.pair .u32 (.vec .eventMessage))) body none
        fun args => .insertEventLabels args.1 args.2.1 args.2.2
  | .insertModel => planArgs wire .bytes body none fun model => .insertModel model
  | .insertTimeSeries =>
      planArgs wire (.pair (.vec .timeSeriesUpdate) (.pair .u32 .i64)) body none
        fun args => .insertTimeSeries args.1 args.2.1 args.2.2
  | .removeModel => planArgs wire .str body none fun name => .removeModel name
  | .reportCustomerDataDeletion =>
      planArgs wire .customerDataDeletionReport body none
        fun report => .reportCustomerDataDeletion report
  | .updateClusters =>
      planArgs wire (.pair (.vec .updateClusterRequest) .u32) body none
        fun args => .updateClusters args.1 args.2
  | .updateModel => planArgs wire .bytes body none fun model => .updateModel model
  | .updateOutliers =>
      planArgs wire (.pair (.vec .outlierInfo) (.pair .u32 .i64)) body none
        fun args => .updateOutliers args.1 args.2.1 args.2.2
  | .updateHostOpenedPorts =>
      planArgs wire (.vec (.pair .ipAddr .portCounts)) body none
        fun hosts => .updateHostPorts peerName hosts
  | .updateHostOsAgents =>
      planArgs wire (.vec (.pair .ipAddr (.pair (.vec .userAgent) (.vec .str)))) body none
        fun hosts => .updateHostUserAgents peerName hosts
  | .uploadRunModel =>
      planArgs wire (.pair .u32 .bytes) body none fun args => .uploadRunModel peerName args.1 args.2
  | .reportRun =>
      planArgs wire (.pair .u32 (.pair .reportedRunState (.option .str))) body none
        fun args => .reportRun peerName args.1 args.2.1 args.2.2
  | .reportActiveRuns =>
      planArgs wire (.vec .u32) body none fun runIds => .reportActiveRuns peerName runIds
  | .reportDetectorStatus =>
      planArgs wire .detectorStatusReport body none
        fun report => .reportDetectorStatus peerName report
  | .renewCertificate => .unary (.renewCertificate peerName)
  | .unknown => .unknown
  | .getDataSourceList => .handBack
  | .getMaxEventIdNum => .handBack
  | .removeOutliers => .handBack

theorem parseArgs_bind {wire : Wire} {handler : Handler σ} {code : UInt32} {body : Bytes}
    {ty : WireTy} {classify : Option ProtocolErrorKind}
    {next : ty.denote → ServerAct σ τ (Turn Unit HandedBack)} {call : ty.denote → ServerCall}
    (follows : ∀ args, next args = (Plan.unary (call args)).perform wire handler code body) :
    parseArgs wire ty body classify >>= next =
      (planArgs wire ty body classify call).perform wire handler code body := by
  unfold parseArgs planArgs
  cases wire.decode ty body with
  | ok args => exact follows args
  | error error =>
      cases classify with
      | some kind => rfl
      | none => rfl

theorem handleAuthorizedArms_eq (wire : Wire) (handler : Handler σ) (peerName : String)
    (code : UInt32) (body : Bytes) :
    (handleAuthorizedArms wire handler peerName code body : ServerAct σ τ _) =
      (planOf wire peerName code body).perform wire handler code body := by
  unfold handleAuthorizedArms planOf
  cases Server.RequestCode.fromPrimitive code
  all_goals first
    | rfl
    | exact parseArgs_bind fun _ => rfl

/-- The plan is for this request, and tells the handler of no peer but this one. -/
def Plan.Fits (peerName : String) (request : Server.RequestCode) : Plan → Prop
  | undecodable _ => request ≠ .unknown
  | unary call => request ≠ .unknown ∧ ∀ name ∈ call.peer, name = peerName
  | handBack => request ≠ .unknown
  | unknown => request = .unknown

/-- An arm does what some plan says, and the plan fits the request. -/
def Planned (wire : Wire) (handler : Handler σ) (peerName : String) (code : UInt32)
    (request : Server.RequestCode) (body : Bytes) (arm : ServerAct σ τ (Turn Unit HandedBack)) :
    Prop :=
  ∃ plan : Plan, arm = plan.perform wire handler code body ∧ plan.Fits peerName request

theorem fits_planArgs {wire : Wire} {peerName : String} {request : Server.RequestCode}
    {body : Bytes} {ty : WireTy} {classify : Option ProtocolErrorKind}
    {call : ty.denote → ServerCall} (assigned : request ≠ .unknown)
    (peer : ∀ args, (call args).peer = some peerName ∨ (call args).peer = none) :
    (planArgs wire ty body classify call).Fits peerName request := by
  unfold planArgs
  cases wire.decode ty body with
  | ok args =>
      refine ⟨assigned, ?_⟩
      intro name told
      rcases peer args with same | none
      · rw [same, Option.mem_some] at told
        exact told.symm
      · rw [none] at told
        cases told
  | error error =>
      cases classify with
      | some kind => exact assigned
      | none => exact assigned

theorem fits_planOf (wire : Wire) (peerName : String) (code : UInt32) (body : Bytes) :
    (planOf wire peerName code body).Fits peerName (.fromPrimitive code) := by
  unfold planOf
  cases Server.RequestCode.fromPrimitive code
  case unknown => rfl
  case renewCertificate =>
      refine ⟨by decide, ?_⟩
      intro name told
      exact (Option.mem_some.mp told).symm
  case getDataSourceList | getMaxEventIdNum | removeOutliers =>
      intro unknown
      cases unknown
  all_goals first
    | exact fits_planArgs (by decide) fun _ => .inl rfl
    | exact fits_planArgs (by decide) fun _ => .inr rfl

theorem handleAuthorizedArms_planned (wire : Wire) (handler : Handler σ) (peerName : String)
    (code : UInt32) (body : Bytes) :
    Planned wire handler peerName code (.fromPrimitive code) body
      (handleAuthorizedArms wire handler peerName code body : ServerAct σ τ _) :=
  ⟨planOf wire peerName code body, handleAuthorizedArms_eq wire handler peerName code body,
    fits_planOf wire peerName code body⟩

end ReviewProtocol.Server
