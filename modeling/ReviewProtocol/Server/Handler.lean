import ReviewProtocol.Lib.Serve
import ReviewProtocol.Auth
import ReviewProtocol.RequestCode
import ReviewProtocol.Wire

set_option autoImplicit false

/- The manager's dispatch of agents' requests. Both authorized loops are written out, as
the source has them. -/
namespace ReviewProtocol.Server

open Framing (Bytes Act Endpoint Protocol)
open Framing.Act (Turn emit)

/-- The methods of `server::Handler`. -/
inductive ServerCall where
  | reportCustomerDataDeletion (report : CustomerDataDeletionReport)
  | getAllowlist (peer : String)
  | getBlocklist (peer : String)
  | getConfig (peer : String)
  | getDataSource (key : DataSourceKey)
  | getIndicator (name : String)
  | getInternalNetworkList (peer : String)
  | getModel (name : String)
  | getModelNames
  | getOutliers (modelId : UInt32) (timestamp : Int64)
  | getPretrainedModel (name : String)
  | getSamplingPolicyList (peer : String)
  | getLabeldbPatterns (dbNames : List (String × String))
  | getTorExitNodeList
  | getTrustedDomainList
  | getTrustedUserAgentList
  | insertColumnStatistics (statistics : List ColumnStatisticsUpdate) (modelId : UInt32)
    (batchTs : Int64)
  | insertDataSource (dataSource : DataSource)
  | insertEventLabels (modelId : UInt32) (round : UInt32) (eventLabels : List EventMessage)
  | insertModel (model : Bytes)
  | insertTimeSeries (timeSeries : List TimeSeriesUpdate) (modelId : UInt32) (batchTs : Int64)
  | removeModel (name : String)
  | renewCertificate (peer : String)
  | updateClusters (input : List UpdateClusterRequest) (modelId : UInt32)
  | updateModel (model : Bytes)
  | updateOutliers (outliers : List OutlierInfo) (modelId : UInt32) (timestamp : Int64)
  | updateHostPorts (peer : String) (hosts : List (IpAddr × List ((UInt16 × UInt8) × UInt32)))
  | updateHostUserAgents (peer : String) (hosts : List (IpAddr × List UserAgent × List String))
  | uploadRunModel (peer : String) (runId : UInt32) (model : Bytes)
  | reportRun (peer : String) (runId : UInt32) (state : ReportedRunState) (reason : Option String)
  | reportActiveRuns (peer : String) (runIds : List UInt32)
  | reportDetectorStatus (peer : String) (report : DetectorStatusReport)
deriving DecidableEq

@[reducible] def ServerCall.ret : ServerCall → WireTy
  | reportCustomerDataDeletion _ => .unit
  | getAllowlist _ => .hostNetworkGroup
  | getBlocklist _ => .hostNetworkGroup
  | getConfig _ => .str
  | getDataSource _ => .option .dataSource
  | getIndicator _ => .vec (.vec .str)
  | getInternalNetworkList _ => .hostNetworkGroup
  | getModel _ => .bytes
  | getModelNames => .vec .str
  | getOutliers _ _ => .vec (.pair .str (.vec .i64))
  | getPretrainedModel _ => .bytes
  | getSamplingPolicyList _ => .vec .samplingPolicy
  | getLabeldbPatterns _ => .vec (.pair .str (.option .labelDb))
  | getTorExitNodeList => .vec .str
  | getTrustedDomainList => .vec .str
  | getTrustedUserAgentList => .vec .str
  | insertColumnStatistics _ _ _ => .unit
  | insertDataSource _ => .u32
  | insertEventLabels _ _ _ => .unit
  | insertModel _ => .u32
  | insertTimeSeries _ _ _ => .unit
  | removeModel _ => .unit
  | renewCertificate _ => .pair .str .str
  | updateClusters _ _ => .unit
  | updateModel _ => .u32
  | updateOutliers _ _ _ => .unit
  | updateHostPorts _ _ => .unit
  | updateHostUserAgents _ _ => .unit
  | uploadRunModel _ _ _ => .unit
  | reportRun _ _ _ _ => .unit
  | reportActiveRuns _ _ => .unit
  | reportDetectorStatus _ _ => .unit

/-- The peer a method is told about, for the methods that are. -/
def ServerCall.peer : ServerCall → Option String
  | getAllowlist peer => some peer
  | getBlocklist peer => some peer
  | getConfig peer => some peer
  | getInternalNetworkList peer => some peer
  | getSamplingPolicyList peer => some peer
  | renewCertificate peer => some peer
  | updateHostPorts peer _ => some peer
  | updateHostUserAgents peer _ => some peer
  | uploadRunModel peer _ _ => some peer
  | reportRun peer _ _ _ => some peer
  | reportActiveRuns peer _ => some peer
  | reportDetectorStatus peer _ => some peer
  | _ => none

structure Handler (σ : Type) where
  call : (call : ServerCall) → σ → Except String call.ret.denote × σ

/-- What the loop does, as seen from outside. -/
inductive ServerEvent where
  /-- A frame read as a request. -/
  | request (code : UInt32) (body : Bytes)
  /-- The authorizer's answer. -/
  | authorized (service : ServiceId) (answer : Except AuthorizationError Unit)
  /-- A handler method called. -/
  | called (call : ServerCall)
  /-- A response frame written. -/
  | replied (ty : WireTy) (result : Except String ty.denote)

/-- The handler's state and the authorizer's. -/
structure State (σ τ : Type) where
  handler : σ
  policy : τ

abbrev Peer (σ τ : Type) := Endpoint (State σ τ) Empty ServerEvent IoError

abbrev ServerAct (σ τ α : Type) := Act (State σ τ) Empty ServerEvent IoError IoError α

/-- What the caller of a loop may be handed back: a request it has to serve itself. -/
abbrev HandedBack := Option (UInt32 × Bytes)

variable {σ τ : Type}

def Handler.invoke (handler : Handler σ) (call : ServerCall) :
    ServerAct σ τ (Except String call.ret.denote) := do
  emit (.called call)
  Act.update fun state =>
    ((handler.call call state.handler).1,
      { state with handler := (handler.call call state.handler).2 })

/-- `oinq::request::send_response` and `oinq::frame::send`. -/
def respond (wire : Wire) (ty : WireTy) (result : Except String ty.denote) :
    ServerAct σ τ Unit := do
  Act.orFail id (← Act.send (wire.encode (.result ty) result) (.replied ty result))

/-- `parse_args`, with its error classified where the arm does so. -/
def parseArgs (wire : Wire) (ty : WireTy) (body : Bytes) (classify : Option ProtocolErrorKind) :
    ServerAct σ τ ty.denote :=
  match wire.decode ty body with
  | .ok args => pure args
  | .error error =>
      match classify with
      | some kind => Act.fail (DispatchError.fromIo kind error)
      | none => Act.fail error

def unknownRequestCode : IoError := .dispatch .invalidData ⟨.notSupported, "unknown request code"⟩

def refuseUnknown (wire : Wire) : ServerAct σ τ (Turn Unit HandedBack) := do
  respond wire .unit (.error "unknown request code")
  Act.fail unknownRequestCode

/-- The error of a request that the authorizer denied. -/
def denied (error : AuthorizationError) : IoError :=
  .dispatch .permissionDenied ⟨error.kind, error.text⟩

/-- Asks the authorizer about a service, and refuses the request if it does. -/
def checkAuthorization (wire : Wire) (service : ServiceId)
    (ask : τ → Except AuthorizationError Unit × τ) : ServerAct σ τ Unit := do
  let answer ← Act.update fun state =>
    ((ask state.policy).1, { state with policy := (ask state.policy).2 })
  emit (.authorized service answer)
  match answer with
  | .ok () => pure ()
  | .error error => do
      respond wire .unit (.error "authorization denied")
      Act.fail (denied error)

/-- The arms of `handle_authorized`. -/
def handleAuthorizedArms (wire : Wire) (handler : Handler σ) (peerName : String) (code : UInt32)
    (body : Bytes) : ServerAct σ τ (Turn Unit HandedBack) :=
  match Server.RequestCode.fromPrimitive code with
  | .getAllowlist => do
      let _ ← parseArgs wire .unit body none
      let result ← handler.invoke (.getAllowlist peerName)
      respond wire .hostNetworkGroup result
      pure (.next ())
  | .getBlocklist => do
      let _ ← parseArgs wire .unit body none
      let result ← handler.invoke (.getBlocklist peerName)
      respond wire .hostNetworkGroup result
      pure (.next ())
  | .getDataSource => do
      let dataSourceKey ← parseArgs wire .dataSourceKey body none
      let result ← handler.invoke (.getDataSource dataSourceKey)
      respond wire (.option .dataSource) result
      pure (.next ())
  | .getIndicator => do
      let name ← parseArgs wire .str body none
      let result ← handler.invoke (.getIndicator name)
      respond wire (.vec (.vec .str)) result
      pure (.next ())
  | .getModel => do
      let name ← parseArgs wire .str body (some .invalidArgs)
      let result ← handler.invoke (.getModel name)
      respond wire .bytes result
      pure (.next ())
  | .getModelNames => do
      let _ ← parseArgs wire .unit body none
      let result ← handler.invoke .getModelNames
      respond wire (.vec .str) result
      pure (.next ())
  | .getLabelDbPatterns => do
      let dbNames ← parseArgs wire (.vec (.pair .str .str)) body none
      let result ← handler.invoke (.getLabeldbPatterns dbNames)
      respond wire (.vec (.pair .str (.option .labelDb))) result
      pure (.next ())
  | .getTorExitNodeList => do
      let _ ← parseArgs wire .unit body none
      let result ← handler.invoke .getTorExitNodeList
      respond wire (.vec .str) result
      pure (.next ())
  | .getTrustedDomainList => do
      let _ ← parseArgs wire .unit body none
      let result ← handler.invoke .getTrustedDomainList
      respond wire (.vec .str) result
      pure (.next ())
  | .getTrustedUserAgentList => do
      let _ ← parseArgs wire .unit body none
      let result ← handler.invoke .getTrustedUserAgentList
      respond wire (.vec .str) result
      pure (.next ())
  | .getConfig => do
      let _ ← parseArgs wire .unit body none
      let result ← handler.invoke (.getConfig peerName)
      respond wire .str result
      pure (.next ())
  | .getInternalNetworkList => do
      let _ ← parseArgs wire .unit body none
      let result ← handler.invoke (.getInternalNetworkList peerName)
      respond wire .hostNetworkGroup result
      pure (.next ())
  | .getOutliers => do
      let (modelId, timestamp) ← parseArgs wire (.pair .u32 .i64) body (some .invalidArgs)
      let result ← handler.invoke (.getOutliers modelId timestamp)
      respond wire (.vec (.pair .str (.vec .i64))) result
      pure (.next ())
  | .getPretrainedModel => do
      let name ← parseArgs wire .str body none
      let result ← handler.invoke (.getPretrainedModel name)
      respond wire .bytes result
      pure (.next ())
  | .getSamplingPolicyList => do
      let _ ← parseArgs wire .unit body none
      let result ← handler.invoke (.getSamplingPolicyList peerName)
      respond wire (.vec .samplingPolicy) result
      pure (.next ())
  | .insertColumnStatistics => do
      let (statistics, modelId, batchTs) ← parseArgs wire
          (.pair (.vec .columnStatisticsUpdate) (.pair .u32 .i64)) body none
      let result ← handler.invoke (.insertColumnStatistics statistics modelId batchTs)
      respond wire .unit result
      pure (.next ())
  | .insertDataSource => do
      let dataSource ← parseArgs wire .dataSource body none
      let result ← handler.invoke (.insertDataSource dataSource)
      respond wire .u32 result
      pure (.next ())
  | .insertEventLabels => do
      let (modelId, round, eventLabels) ← parseArgs wire
          (.pair .u32 (.pair .u32 (.vec .eventMessage))) body none
      let result ← handler.invoke (.insertEventLabels modelId round eventLabels)
      respond wire .unit result
      pure (.next ())
  | .insertModel => do
      let model ← parseArgs wire .bytes body none
      let result ← handler.invoke (.insertModel model)
      respond wire .u32 result
      pure (.next ())
  | .insertTimeSeries => do
      let (timeSeries, modelId, batchTs) ← parseArgs wire
          (.pair (.vec .timeSeriesUpdate) (.pair .u32 .i64)) body none
      let result ← handler.invoke (.insertTimeSeries timeSeries modelId batchTs)
      respond wire .unit result
      pure (.next ())
  | .removeModel => do
      let name ← parseArgs wire .str body none
      let result ← handler.invoke (.removeModel name)
      respond wire .unit result
      pure (.next ())
  | .renewCertificate => do
      let result ← handler.invoke (.renewCertificate peerName)
      respond wire (.pair .str .str) result
      pure (.next ())
  | .reportCustomerDataDeletion => do
      let report ← parseArgs wire .customerDataDeletionReport body none
      let result ← handler.invoke (.reportCustomerDataDeletion report)
      respond wire .unit result
      pure (.next ())
  | .updateClusters => do
      let (input, modelId) ← parseArgs wire (.pair (.vec .updateClusterRequest) .u32) body none
      let result ← handler.invoke (.updateClusters input modelId)
      respond wire .unit result
      pure (.next ())
  | .updateModel => do
      let model ← parseArgs wire .bytes body none
      let result ← handler.invoke (.updateModel model)
      respond wire .u32 result
      pure (.next ())
  | .updateOutliers => do
      let (outliers, modelId, timestamp) ← parseArgs wire
          (.pair (.vec .outlierInfo) (.pair .u32 .i64)) body none
      let result ← handler.invoke (.updateOutliers outliers modelId timestamp)
      respond wire .unit result
      pure (.next ())
  | .updateHostOpenedPorts => do
      let hosts ← parseArgs wire (.vec (.pair .ipAddr .portCounts)) body none
      let result ← handler.invoke (.updateHostPorts peerName hosts)
      respond wire .unit result
      pure (.next ())
  | .updateHostOsAgents => do
      let hosts ← parseArgs wire
          (.vec (.pair .ipAddr (.pair (.vec .userAgent) (.vec .str)))) body none
      let result ← handler.invoke (.updateHostUserAgents peerName hosts)
      respond wire .unit result
      pure (.next ())
  | .uploadRunModel => do
      let (runId, model) ← parseArgs wire (.pair .u32 .bytes) body none
      let result ← handler.invoke (.uploadRunModel peerName runId model)
      respond wire .unit result
      pure (.next ())
  | .reportRun => do
      let (runId, state, reason) ← parseArgs wire
          (.pair .u32 (.pair .reportedRunState (.option .str))) body none
      let result ← handler.invoke (.reportRun peerName runId state reason)
      respond wire .unit result
      pure (.next ())
  | .reportActiveRuns => do
      let runIds ← parseArgs wire (.vec .u32) body none
      let result ← handler.invoke (.reportActiveRuns peerName runIds)
      respond wire .unit result
      pure (.next ())
  | .reportDetectorStatus => do
      let report ← parseArgs wire .detectorStatusReport body none
      let result ← handler.invoke (.reportDetectorStatus peerName report)
      respond wire .unit result
      pure (.next ())
  | .unknown => refuseUnknown wire
  | _ => pure (.stop (some (code, body)))

/-- The arms of `handle_authorized_with_context`. -/
def handleAuthorizedWithContextArms (wire : Wire) (handler : Handler σ) (peerName : String)
    (code : UInt32) (body : Bytes) : ServerAct σ τ (Turn Unit HandedBack) :=
  match Server.RequestCode.fromPrimitive code with
  | .getAllowlist => do
      let _ ← parseArgs wire .unit body none
      let result ← handler.invoke (.getAllowlist peerName)
      respond wire .hostNetworkGroup result
      pure (.next ())
  | .getBlocklist => do
      let _ ← parseArgs wire .unit body none
      let result ← handler.invoke (.getBlocklist peerName)
      respond wire .hostNetworkGroup result
      pure (.next ())
  | .getDataSource => do
      let dataSourceKey ← parseArgs wire .dataSourceKey body none
      let result ← handler.invoke (.getDataSource dataSourceKey)
      respond wire (.option .dataSource) result
      pure (.next ())
  | .getIndicator => do
      let name ← parseArgs wire .str body none
      let result ← handler.invoke (.getIndicator name)
      respond wire (.vec (.vec .str)) result
      pure (.next ())
  | .getModel => do
      let name ← parseArgs wire .str body (some .invalidArgs)
      let result ← handler.invoke (.getModel name)
      respond wire .bytes result
      pure (.next ())
  | .getModelNames => do
      let _ ← parseArgs wire .unit body none
      let result ← handler.invoke .getModelNames
      respond wire (.vec .str) result
      pure (.next ())
  | .getLabelDbPatterns => do
      let dbNames ← parseArgs wire (.vec (.pair .str .str)) body none
      let result ← handler.invoke (.getLabeldbPatterns dbNames)
      respond wire (.vec (.pair .str (.option .labelDb))) result
      pure (.next ())
  | .getTorExitNodeList => do
      let _ ← parseArgs wire .unit body none
      let result ← handler.invoke .getTorExitNodeList
      respond wire (.vec .str) result
      pure (.next ())
  | .getTrustedDomainList => do
      let _ ← parseArgs wire .unit body none
      let result ← handler.invoke .getTrustedDomainList
      respond wire (.vec .str) result
      pure (.next ())
  | .getTrustedUserAgentList => do
      let _ ← parseArgs wire .unit body none
      let result ← handler.invoke .getTrustedUserAgentList
      respond wire (.vec .str) result
      pure (.next ())
  | .getConfig => do
      let _ ← parseArgs wire .unit body none
      let result ← handler.invoke (.getConfig peerName)
      respond wire .str result
      pure (.next ())
  | .getInternalNetworkList => do
      let _ ← parseArgs wire .unit body none
      let result ← handler.invoke (.getInternalNetworkList peerName)
      respond wire .hostNetworkGroup result
      pure (.next ())
  | .getOutliers => do
      let (modelId, timestamp) ← parseArgs wire (.pair .u32 .i64) body (some .invalidArgs)
      let result ← handler.invoke (.getOutliers modelId timestamp)
      respond wire (.vec (.pair .str (.vec .i64))) result
      pure (.next ())
  | .getPretrainedModel => do
      let name ← parseArgs wire .str body none
      let result ← handler.invoke (.getPretrainedModel name)
      respond wire .bytes result
      pure (.next ())
  | .getSamplingPolicyList => do
      let _ ← parseArgs wire .unit body none
      let result ← handler.invoke (.getSamplingPolicyList peerName)
      respond wire (.vec .samplingPolicy) result
      pure (.next ())
  | .insertColumnStatistics => do
      let (statistics, modelId, batchTs) ← parseArgs wire
          (.pair (.vec .columnStatisticsUpdate) (.pair .u32 .i64)) body none
      let result ← handler.invoke (.insertColumnStatistics statistics modelId batchTs)
      respond wire .unit result
      pure (.next ())
  | .insertDataSource => do
      let dataSource ← parseArgs wire .dataSource body none
      let result ← handler.invoke (.insertDataSource dataSource)
      respond wire .u32 result
      pure (.next ())
  | .insertEventLabels => do
      let (modelId, round, eventLabels) ← parseArgs wire
          (.pair .u32 (.pair .u32 (.vec .eventMessage))) body none
      let result ← handler.invoke (.insertEventLabels modelId round eventLabels)
      respond wire .unit result
      pure (.next ())
  | .insertModel => do
      let model ← parseArgs wire .bytes body none
      let result ← handler.invoke (.insertModel model)
      respond wire .u32 result
      pure (.next ())
  | .insertTimeSeries => do
      let (timeSeries, modelId, batchTs) ← parseArgs wire
          (.pair (.vec .timeSeriesUpdate) (.pair .u32 .i64)) body none
      let result ← handler.invoke (.insertTimeSeries timeSeries modelId batchTs)
      respond wire .unit result
      pure (.next ())
  | .removeModel => do
      let name ← parseArgs wire .str body none
      let result ← handler.invoke (.removeModel name)
      respond wire .unit result
      pure (.next ())
  | .renewCertificate => do
      let result ← handler.invoke (.renewCertificate peerName)
      respond wire (.pair .str .str) result
      pure (.next ())
  | .reportCustomerDataDeletion => do
      let report ← parseArgs wire .customerDataDeletionReport body none
      let result ← handler.invoke (.reportCustomerDataDeletion report)
      respond wire .unit result
      pure (.next ())
  | .updateClusters => do
      let (input, modelId) ← parseArgs wire (.pair (.vec .updateClusterRequest) .u32) body none
      let result ← handler.invoke (.updateClusters input modelId)
      respond wire .unit result
      pure (.next ())
  | .updateModel => do
      let model ← parseArgs wire .bytes body none
      let result ← handler.invoke (.updateModel model)
      respond wire .u32 result
      pure (.next ())
  | .updateOutliers => do
      let (outliers, modelId, timestamp) ← parseArgs wire
          (.pair (.vec .outlierInfo) (.pair .u32 .i64)) body none
      let result ← handler.invoke (.updateOutliers outliers modelId timestamp)
      respond wire .unit result
      pure (.next ())
  | .updateHostOpenedPorts => do
      let hosts ← parseArgs wire (.vec (.pair .ipAddr .portCounts)) body none
      let result ← handler.invoke (.updateHostPorts peerName hosts)
      respond wire .unit result
      pure (.next ())
  | .updateHostOsAgents => do
      let hosts ← parseArgs wire
          (.vec (.pair .ipAddr (.pair (.vec .userAgent) (.vec .str)))) body none
      let result ← handler.invoke (.updateHostUserAgents peerName hosts)
      respond wire .unit result
      pure (.next ())
  | .uploadRunModel => do
      let (runId, model) ← parseArgs wire (.pair .u32 .bytes) body none
      let result ← handler.invoke (.uploadRunModel peerName runId model)
      respond wire .unit result
      pure (.next ())
  | .reportRun => do
      let (runId, state, reason) ← parseArgs wire
          (.pair .u32 (.pair .reportedRunState (.option .str))) body none
      let result ← handler.invoke (.reportRun peerName runId state reason)
      respond wire .unit result
      pure (.next ())
  | .reportActiveRuns => do
      let runIds ← parseArgs wire (.vec .u32) body none
      let result ← handler.invoke (.reportActiveRuns peerName runIds)
      respond wire .unit result
      pure (.next ())
  | .reportDetectorStatus => do
      let report ← parseArgs wire .detectorStatusReport body none
      let result ← handler.invoke (.reportDetectorStatus peerName report)
      respond wire .unit result
      pure (.next ())
  | .unknown => refuseUnknown wire
  | _ => pure (.stop (some (code, body)))

/-- What the manager's loops take a frame for. They end well when the stream does. -/
def serverProtocol (wire : Wire) :
    Protocol ServerEvent IoError IoError (UInt32 × Bytes) HandedBack where
  parse := wire.splitRequest
  event request := .request request.1 request.2
  ended error := if error.kind = .unexpectedEof then .ok none else .error error

def handleAuthorized (wire : Wire) (handler : Handler σ) (peer : PeerContext)
    (authorizer : Authorizer τ) : ServerAct σ τ HandedBack :=
  (serverProtocol wire).serve fun (code, body) => do
    match fromServerRequestCode (.fromPrimitive code) with
    | some service => checkAuthorization wire service (authorizer.authorize peer service)
    | none => pure ()
    handleAuthorizedArms wire handler peer.name code body

def handleAuthorizedWithContext (wire : Wire) (handler : Handler σ)
    (context : AuthorizationContext) (authorizer : AuthorizerV2 τ) : ServerAct σ τ HandedBack :=
  (serverProtocol wire).serve fun (code, body) => do
    match fromServerRequestCode (.fromPrimitive code) with
    | some service =>
        checkAuthorization wire service (authorizer.authorizeWithContext context service)
    | none => pure ()
    handleAuthorizedWithContextArms wire handler context.peerIdentity.name code body

def handle (wire : Wire) (handler : Handler σ) (peer : String) : ServerAct σ Unit HandedBack :=
  handleAuthorized wire handler (PeerContext.new peer) noopAuthorizer

end ReviewProtocol.Server
