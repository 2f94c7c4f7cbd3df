import ReviewProtocol.Lib.Act
import ReviewProtocol.RequestCode
import ReviewProtocol.Wire

set_option autoImplicit false

/- An agent's calls to the manager. Each call opens a stream of its own, so the party is one
call: the stream it opens and what it did. -/
namespace ReviewProtocol.Client

open Framing (Bytes Act Endpoint Halt RecvStream SendStream frame)
open Framing.Act (emit)

/-- What a call does, as seen from outside. -/
inductive ClientEvent where
  /-- A stream opened. -/
  | opened
  /-- A request frame written. -/
  | requested (code : UInt32) (payload : Bytes)
  /-- A response frame read. -/
  | received (ty : WireTy) (result : Except String ty.denote)

/-- One call. Its state is what `open_bi` meets if it fails. -/
abbrev Caller := Endpoint (Option IoError) Empty ClientEvent IoError

abbrev ClientAct (α : Type) := Act (Option IoError) Empty ClientEvent IoError IoError α

def openBi : ClientAct Unit := do
  match ← Act.update fun refused => (refused, refused) with
  | none => emit .opened
  | some error => Act.fail error

/-- `oinq::frame::recv`, for the one shape that responses have. -/
def recvResponse (wire : Wire) (ret : WireTy) : ClientAct (Except String ret.denote) := do
  match ← Act.recv with
  | .error (error, _) => Act.fail error
  | .ok body =>
      match wire.decode (.result ret) body with
      | .error error => Act.fail error
      | .ok result => do
          emit (.received ret result)
          pure result

def unaryRequest (wire : Wire) (code : UInt32) (ty : WireTy) (input : ty.denote) (ret : WireTy) :
    ClientAct (Except String ret.denote) := do
  let body := wire.encode ty input
  Act.orFail id (← Act.send (Wire.requestFrame code body) (.requested code body))
  recvResponse wire ret

def request (wire : Wire) (code : Server.RequestCode) (ty : WireTy) (input : ty.denote)
    (ret : WireTy) : ClientAct (Except String ret.denote) := do
  openBi
  unaryRequest wire code.discriminant ty input ret

/-- The stream opens and takes this frame. -/
def Dialed (body : Bytes) (w : Caller) : Prop :=
  w.state = none ∧ w.send.outcome w.send.attempts body = none

/-- The call once its request is written. -/
def requesting (code : UInt32) (payload : Bytes) (w : Caller) : Caller :=
  { w with
    send.attempts := w.send.attempts + 1
    log := w.log ++ [.opened, .requested code payload] }

/-- All that a request can come to. -/
inductive Requests (wire : Wire) (code : UInt32) (payload : Bytes) (ret : WireTy) (w : Caller) :
    Except (Halt IoError) (Except String ret.denote) → Caller → Prop where
  | undialed (error : IoError) (events : List ClientEvent) (send : SendStream IoError)
      (undialed : ¬ Dialed (Wire.requestFrame code payload) w)
      (opened : ∀ event ∈ events, event = .opened) :
      Requests wire code payload ret w (.error (.failed error))
        { w with send, log := w.log ++ events }
  | unread (halt : Halt IoError) (recv : RecvStream IoError)
      (small : (Wire.requestFrame code payload).length < Framing.frameLimit)
      (incomplete : Framing.splitFrame w.recv.bytes = none) :
      Requests wire code payload ret w (.error halt) { requesting code payload w with recv }
  | undecoded (error : IoError) (body rest : Bytes)
      (small : (Wire.requestFrame code payload).length < Framing.frameLimit)
      (bytes : w.recv.bytes = frame body ++ rest) (fits : body.length < Framing.frameLimit)
      (undecoded : wire.decode (.result ret) body = .error error) :
      Requests wire code payload ret w (.error (.failed error))
        { requesting code payload w with recv.bytes := rest }
  | decoded (result : Except String ret.denote) (body rest : Bytes)
      (small : (Wire.requestFrame code payload).length < Framing.frameLimit)
      (bytes : w.recv.bytes = frame body ++ rest) (fits : body.length < Framing.frameLimit)
      (decoded : wire.decode (.result ret) body = .ok result) :
      Requests wire code payload ret w (.ok result)
        { requesting code payload w with
          recv.bytes := rest
          log := (requesting code payload w).log ++ [.received ret result] }

theorem recvResponse_requests (wire : Wire) {code : UInt32} {payload : Bytes} (ret : WireTy)
    (w : Caller) (small : (Wire.requestFrame code payload).length < Framing.frameLimit) :
    Requests wire code payload ret w ((recvResponse wire ret).run (requesting code payload w)).1
      ((recvResponse wire ret).run (requesting code payload w)).2 := by
  simp only [recvResponse, Act.run_bind]
  cases split : Framing.splitFrame w.recv.bytes with
  | none =>
      rcases Act.run_recv_incomplete (ε := IoError) (w := requesting code payload w) split with
        ⟨error, read⟩ | read
      · rw [read]
        exact .unread (.failed error) _ small split
      · rw [read]
        exact .unread .pending _ small split
  | some parts =>
      obtain ⟨body, rest⟩ := parts
      obtain ⟨bytes, fits⟩ := Framing.splitFrame_some split
      have read := Act.run_recv_frame (ε := IoError) (w := requesting code payload w) bytes fits
      rw [read, Act.andThen_ok]
      dsimp only
      cases decodes : wire.decode (.result ret) body with
      | error error => exact .undecoded error body rest small bytes fits decodes
      | ok result => exact .decoded result body rest small bytes fits decodes

theorem unaryRequest_requests (wire : Wire) (code : UInt32) (ty : WireTy) (input : ty.denote)
    (ret : WireTy) (w : Caller) :
    Requests wire code (wire.encode ty input) ret w
      ((unaryRequest wire code ty input ret).run { w with log := w.log ++ [.opened] }).1
      ((unaryRequest wire code ty input ret).run { w with log := w.log ++ [.opened] }).2 := by
  simp only [unaryRequest, Act.run_bind]
  rcases Act.run_send_cases (ε := IoError) (Wire.requestFrame code (wire.encode ty input))
    (ClientEvent.requested code (wire.encode ty input)) { w with log := w.log ++ [.opened] } with
    ⟨out, sent⟩ | ⟨error, out, sent⟩
  · rw [sent]
    have after : ({ w with
        send.attempts := w.send.attempts + 1
        log := w.log ++ [.opened] ++ [.requested code (wire.encode ty input)] } : Caller) =
        requesting code (wire.encode ty input) w := by
      rw [List.append_assoc]
      rfl
    dsimp only
    rw [after]
    exact recvResponse_requests wire ret w (w.send.fits _ _ out)
  · rw [sent]
    refine .undialed error [.opened] _ ?_ ?_
    · rintro ⟨-, taken⟩
      rw [out] at taken
      cases taken
    · intro event mem
      exact List.mem_singleton.mp mem

theorem request_requests (wire : Wire) (code : Server.RequestCode) (ty : WireTy)
    (input : ty.denote) (ret : WireTy) (w : Caller) :
    Requests wire code.discriminant (wire.encode ty input) ret w
      ((request wire code ty input ret).run w).1 ((request wire code ty input ret).run w).2 := by
  simp only [request, openBi, Act.run_bind, Act.update, Act.andThen_ok]
  cases refused : w.state with
  | some error =>
      have same : { w with log := w.log ++ [] } = w := by rw [List.append_nil]
      have failed : Requests wire code.discriminant (wire.encode ty input) ret w
          (.error (.failed error)) { w with log := w.log ++ [] } := by
        refine .undialed error [] w.send ?_ ?_
        · rintro ⟨opens, -⟩
          rw [refused] at opens
          cases opens
        · intro event mem
          cases mem
      rw [same] at failed
      have unchanged : { w with state := some error } = w := by rw [← refused]
      simp only [Act.fail, Act.andThen_error, unchanged]
      exact failed
  | none =>
      have unchanged : { w with state := none } = w := by rw [← refused]
      simp only [emit, Act.andThen_ok, unchanged]
      exact unaryRequest_requests wire code.discriminant ty input ret w

/-- `io::Error::other`. -/
def otherError (text : String) : IoError := .message .other text

def reportCustomerDataDeletion (wire : Wire) (report : CustomerDataDeletionReport) :
    ClientAct Unit := do
  let res ← request wire .reportCustomerDataDeletion .customerDataDeletionReport report .unit
  Act.orFail otherError res

def uploadRunModel (wire : Wire) (runId : UInt32) (model : Bytes) : ClientAct Unit := do
  let res ← request wire .uploadRunModel (.pair .u32 .bytes) (runId, model) .unit
  Act.orFail otherError res

def reportRun (wire : Wire) (runId : UInt32) (state : ReportedRunState) (reason : Option String) :
    ClientAct Unit := do
  let res ← request wire .reportRun (.pair .u32 (.pair .reportedRunState (.option .str)))
    (runId, state, reason) .unit
  Act.orFail otherError res

def reportActiveRuns (wire : Wire) (runIds : List UInt32) : ClientAct Unit := do
  let res ← request wire .reportActiveRuns (.vec .u32) runIds .unit
  Act.orFail otherError res

def reportDetectorStatus (wire : Wire) (report : DetectorStatusReport) : ClientAct Unit := do
  let res ← request wire .reportDetectorStatus .detectorStatusReport report .unit
  Act.orFail otherError res

def getConfig (wire : Wire) : ClientAct String := do
  let res ← request wire .getConfig .unit () .str
  Act.orFail otherError res

def getAllowlist (wire : Wire) : ClientAct HostNetworkGroup := do
  let res ← request wire .getAllowlist .unit () .hostNetworkGroup
  Act.orFail otherError res

def getBlocklist (wire : Wire) : ClientAct HostNetworkGroup := do
  let res ← request wire .getBlocklist .unit () .hostNetworkGroup
  Act.orFail otherError res

def getDataSource (wire : Wire) (key : DataSourceKey) : ClientAct DataSource := do
  let res ← request wire .getDataSource .dataSourceKey key (.option .dataSource)
  match ← Act.orFail otherError res with
  | some source => pure source
  | none => Act.fail (.simple .notFound)

def getIndicator (wire : Wire) (name : String) : ClientAct (List (List String)) := do
  let res ← request wire .getIndicator .str name (.vec (.vec .str))
  Act.orFail otherError res

def getInternalNetworkList (wire : Wire) : ClientAct HostNetworkGroup := do
  let res ← request wire .getInternalNetworkList .unit () .hostNetworkGroup
  Act.orFail otherError res

def getLabeldbPatterns (wire : Wire) (labeldbs : List (String × String)) :
    ClientAct (List (String × Option LabelDb)) := do
  let res ← request wire .getLabelDbPatterns (.vec (.pair .str .str))
    labeldbs (.vec (.pair .str (.option .labelDb)))
  Act.orFail otherError res

def getTorExitNodeList (wire : Wire) : ClientAct (List String) := do
  let res ← request wire .getTorExitNodeList .unit () (.vec .str)
  Act.orFail otherError res

def getTrustedDomainList (wire : Wire) : ClientAct (List String) := do
  let res ← request wire .getTrustedDomainList .unit () (.vec .str)
  Act.orFail otherError res

def getTrustedUserAgentList (wire : Wire) : ClientAct (List String) := do
  let res ← request wire .getTrustedUserAgentList .unit () (.vec .str)
  Act.orFail otherError res

def getSamplingPolicyList (wire : Wire) : ClientAct (List SamplingPolicy) := do
  let res ← request wire .getSamplingPolicyList .unit () (.vec .samplingPolicy)
  Act.orFail otherError res

def getPretrainedModel (wire : Wire) (name : String) : ClientAct Bytes := do
  let res ← request wire .getPretrainedModel .str name .bytes
  Act.orFail otherError res

def renewCertificate (wire : Wire) : ClientAct (String × String) := do
  let res ← request wire .renewCertificate .unit () (.pair .str .str)
  Act.orFail otherError res

def getModel (wire : Wire) (name : String) : ClientAct Bytes := do
  let res ← request wire .getModel .str name .bytes
  Act.orFail otherError res

def getModelNames (wire : Wire) : ClientAct (List String) := do
  let res ← request wire .getModelNames .unit () (.vec .str)
  Act.orFail otherError res

def insertColumnStatistics (wire : Wire) (statistics : List ColumnStatisticsUpdate)
    (modelId : UInt32) (batchTs : Int64) : ClientAct Unit := do
  let res ← request wire .insertColumnStatistics
    (.pair (.vec .columnStatisticsUpdate) (.pair .u32 .i64)) (statistics, modelId, batchTs) .unit
  Act.orFail otherError res

def insertModel (wire : Wire) (model : Bytes) : ClientAct UInt32 := do
  let res ← request wire .insertModel .bytes model .u32
  Act.orFail otherError res

def insertTimeSeries (wire : Wire) (timeSeries : List TimeSeriesUpdate) (modelId : UInt32)
    (batchTs : Int64) : ClientAct Unit := do
  let res ← request wire .insertTimeSeries (.pair (.vec .timeSeriesUpdate) (.pair .u32 .i64))
    (timeSeries, modelId, batchTs) .unit
  Act.orFail otherError res

def removeModel (wire : Wire) (name : String) : ClientAct Unit := do
  let res ← request wire .removeModel .str name .unit
  Act.orFail otherError res

def updateClusters (wire : Wire) (input : List UpdateClusterRequest) (modelId : UInt32) :
    ClientAct Unit := do
  let res ← request wire .updateClusters (.pair (.vec .updateClusterRequest) .u32)
    (input, modelId) .unit
  Act.orFail otherError res

def updateModel (wire : Wire) (model : Bytes) : ClientAct UInt32 := do
  let res ← request wire .updateModel .bytes model .u32
  Act.orFail otherError res

def updateOutliers (wire : Wire) (outliers : List OutlierInfo) (modelId : UInt32)
    (timestamp : Int64) : ClientAct Unit := do
  let res ← request wire .updateOutliers (.pair (.vec .outlierInfo) (.pair .u32 .i64))
    (outliers, modelId, timestamp) .unit
  Act.orFail otherError res

def insertEventLabels (wire : Wire) (modelId : UInt32) (round : UInt32)
    (eventLabels : List EventMessage) : ClientAct Unit := do
  let res ← request wire .insertEventLabels (.pair .u32 (.pair .u32 (.vec .eventMessage)))
    (modelId, round, eventLabels) .unit
  Act.orFail otherError res

def insertDataSource (wire : Wire) (dataSource : DataSource) : ClientAct UInt32 := do
  let res ← request wire .insertDataSource .dataSource dataSource .u32
  Act.orFail otherError res

def getOutliers (wire : Wire) (modelId : UInt32) (timestamp : Int64) :
    ClientAct (List (String × List Int64)) := do
  let res ← request wire .getOutliers (.pair .u32 .i64)
    (modelId, timestamp) (.vec (.pair .str (.vec .i64)))
  Act.orFail otherError res

def updateHostPorts (wire : Wire) (hosts : List (IpAddr × List ((UInt16 × UInt8) × UInt32))) :
    ClientAct Unit := do
  let res ← request wire .updateHostOpenedPorts (.vec (.pair .ipAddr .portCounts)) hosts .unit
  Act.orFail otherError res

def updateHostUserAgents (wire : Wire) (hosts : List (IpAddr × List UserAgent × List String)) :
    ClientAct Unit := do
  let res ← request wire .updateHostOsAgents
    (.vec (.pair .ipAddr (.pair (.vec .userAgent) (.vec .str)))) hosts .unit
  Act.orFail otherError res

/-- A method of a client's connection and its arguments. -/
inductive ClientCall where
  | reportCustomerDataDeletion (report : CustomerDataDeletionReport)
  | uploadRunModel (runId : UInt32) (model : Bytes)
  | reportRun (runId : UInt32) (state : ReportedRunState) (reason : Option String)
  | reportActiveRuns (runIds : List UInt32)
  | reportDetectorStatus (report : DetectorStatusReport)
  | getConfig
  | getAllowlist
  | getBlocklist
  | getDataSource (key : DataSourceKey)
  | getIndicator (name : String)
  | getInternalNetworkList
  | getLabeldbPatterns (labeldbs : List (String × String))
  | getTorExitNodeList
  | getTrustedDomainList
  | getTrustedUserAgentList
  | getSamplingPolicyList
  | getPretrainedModel (name : String)
  | renewCertificate
  | getModel (name : String)
  | getModelNames
  | insertColumnStatistics (statistics : List ColumnStatisticsUpdate) (modelId : UInt32)
      (batchTs : Int64)
  | insertModel (model : Bytes)
  | insertTimeSeries (timeSeries : List TimeSeriesUpdate) (modelId : UInt32) (batchTs : Int64)
  | removeModel (name : String)
  | updateClusters (input : List UpdateClusterRequest) (modelId : UInt32)
  | updateModel (model : Bytes)
  | updateOutliers (outliers : List OutlierInfo) (modelId : UInt32) (timestamp : Int64)
  | insertEventLabels (modelId : UInt32) (round : UInt32) (eventLabels : List EventMessage)
  | insertDataSource (dataSource : DataSource)
  | getOutliers (modelId : UInt32) (timestamp : Int64)
  | updateHostPorts (hosts : List (IpAddr × List ((UInt16 × UInt8) × UInt32)))
  | updateHostUserAgents (hosts : List (IpAddr × List UserAgent × List String))

/-- The request of a call: its code and arguments. -/
structure Asking where
  code : Server.RequestCode
  ty : WireTy
  payload : ty.denote

namespace ClientCall

@[reducible] def Outcome : ClientCall → Type
  | reportCustomerDataDeletion _ => Unit
  | uploadRunModel _ _ => Unit
  | reportRun _ _ _ => Unit
  | reportActiveRuns _ => Unit
  | reportDetectorStatus _ => Unit
  | getConfig => String
  | getAllowlist => HostNetworkGroup
  | getBlocklist => HostNetworkGroup
  | getDataSource _ => DataSource
  | getIndicator _ => List (List String)
  | getInternalNetworkList => HostNetworkGroup
  | getLabeldbPatterns _ => List (String × Option LabelDb)
  | getTorExitNodeList => List String
  | getTrustedDomainList => List String
  | getTrustedUserAgentList => List String
  | getSamplingPolicyList => List SamplingPolicy
  | getPretrainedModel _ => Bytes
  | renewCertificate => String × String
  | getModel _ => Bytes
  | getModelNames => List String
  | insertColumnStatistics _ _ _ => Unit
  | insertModel _ => UInt32
  | insertTimeSeries _ _ _ => Unit
  | removeModel _ => Unit
  | updateClusters _ _ => Unit
  | updateModel _ => UInt32
  | updateOutliers _ _ _ => Unit
  | insertEventLabels _ _ _ => Unit
  | insertDataSource _ => UInt32
  | getOutliers _ _ => List (String × List Int64)
  | updateHostPorts _ => Unit
  | updateHostUserAgents _ => Unit

def act (wire : Wire) : (call : ClientCall) → ClientAct call.Outcome
  | reportCustomerDataDeletion report => Client.reportCustomerDataDeletion wire report
  | uploadRunModel runId model => Client.uploadRunModel wire runId model
  | reportRun runId state reason => Client.reportRun wire runId state reason
  | reportActiveRuns runIds => Client.reportActiveRuns wire runIds
  | reportDetectorStatus report => Client.reportDetectorStatus wire report
  | getConfig => Client.getConfig wire
  | getAllowlist => Client.getAllowlist wire
  | getBlocklist => Client.getBlocklist wire
  | getDataSource key => Client.getDataSource wire key
  | getIndicator name => Client.getIndicator wire name
  | getInternalNetworkList => Client.getInternalNetworkList wire
  | getLabeldbPatterns labeldbs => Client.getLabeldbPatterns wire labeldbs
  | getTorExitNodeList => Client.getTorExitNodeList wire
  | getTrustedDomainList => Client.getTrustedDomainList wire
  | getTrustedUserAgentList => Client.getTrustedUserAgentList wire
  | getSamplingPolicyList => Client.getSamplingPolicyList wire
  | getPretrainedModel name => Client.getPretrainedModel wire name
  | renewCertificate => Client.renewCertificate wire
  | getModel name => Client.getModel wire name
  | getModelNames => Client.getModelNames wire
  | insertColumnStatistics statistics modelId batchTs =>
      Client.insertColumnStatistics wire statistics modelId batchTs
  | insertModel model => Client.insertModel wire model
  | insertTimeSeries timeSeries modelId batchTs =>
      Client.insertTimeSeries wire timeSeries modelId batchTs
  | removeModel name => Client.removeModel wire name
  | updateClusters input modelId => Client.updateClusters wire input modelId
  | updateModel model => Client.updateModel wire model
  | updateOutliers outliers modelId timestamp =>
      Client.updateOutliers wire outliers modelId timestamp
  | insertEventLabels modelId round eventLabels =>
      Client.insertEventLabels wire modelId round eventLabels
  | insertDataSource dataSource => Client.insertDataSource wire dataSource
  | getOutliers modelId timestamp => Client.getOutliers wire modelId timestamp
  | updateHostPorts hosts => Client.updateHostPorts wire hosts
  | updateHostUserAgents hosts => Client.updateHostUserAgents wire hosts

/-- What a call writes. -/
def asking : ClientCall → Asking
  | reportCustomerDataDeletion report =>
      ⟨.reportCustomerDataDeletion, .customerDataDeletionReport, report⟩
  | uploadRunModel runId model => ⟨.uploadRunModel, .pair .u32 .bytes, (runId, model)⟩
  | reportRun runId state reason =>
      ⟨.reportRun, .pair .u32 (.pair .reportedRunState (.option .str)), (runId, state, reason)⟩
  | reportActiveRuns runIds => ⟨.reportActiveRuns, .vec .u32, runIds⟩
  | reportDetectorStatus report => ⟨.reportDetectorStatus, .detectorStatusReport, report⟩
  | getConfig => ⟨.getConfig, .unit, ()⟩
  | getAllowlist => ⟨.getAllowlist, .unit, ()⟩
  | getBlocklist => ⟨.getBlocklist, .unit, ()⟩
  | getDataSource key => ⟨.getDataSource, .dataSourceKey, key⟩
  | getIndicator name => ⟨.getIndicator, .str, name⟩
  | getInternalNetworkList => ⟨.getInternalNetworkList, .unit, ()⟩
  | getLabeldbPatterns labeldbs => ⟨.getLabelDbPatterns, .vec (.pair .str .str), labeldbs⟩
  | getTorExitNodeList => ⟨.getTorExitNodeList, .unit, ()⟩
  | getTrustedDomainList => ⟨.getTrustedDomainList, .unit, ()⟩
  | getTrustedUserAgentList => ⟨.getTrustedUserAgentList, .unit, ()⟩
  | getSamplingPolicyList => ⟨.getSamplingPolicyList, .unit, ()⟩
  | getPretrainedModel name => ⟨.getPretrainedModel, .str, name⟩
  | renewCertificate => ⟨.renewCertificate, .unit, ()⟩
  | getModel name => ⟨.getModel, .str, name⟩
  | getModelNames => ⟨.getModelNames, .unit, ()⟩
  | insertColumnStatistics statistics modelId batchTs =>
      ⟨.insertColumnStatistics, .pair (.vec .columnStatisticsUpdate) (.pair .u32 .i64),
        (statistics, modelId, batchTs)⟩
  | insertModel model => ⟨.insertModel, .bytes, model⟩
  | insertTimeSeries timeSeries modelId batchTs =>
      ⟨.insertTimeSeries, .pair (.vec .timeSeriesUpdate) (.pair .u32 .i64),
        (timeSeries, modelId, batchTs)⟩
  | removeModel name => ⟨.removeModel, .str, name⟩
  | updateClusters input modelId =>
      ⟨.updateClusters, .pair (.vec .updateClusterRequest) .u32, (input, modelId)⟩
  | updateModel model => ⟨.updateModel, .bytes, model⟩
  | updateOutliers outliers modelId timestamp =>
      ⟨.updateOutliers, .pair (.vec .outlierInfo) (.pair .u32 .i64),
        (outliers, modelId, timestamp)⟩
  | insertEventLabels modelId round eventLabels =>
      ⟨.insertEventLabels, .pair .u32 (.pair .u32 (.vec .eventMessage)),
        (modelId, round, eventLabels)⟩
  | insertDataSource dataSource => ⟨.insertDataSource, .dataSource, dataSource⟩
  | getOutliers modelId timestamp => ⟨.getOutliers, .pair .u32 .i64, (modelId, timestamp)⟩
  | updateHostPorts hosts => ⟨.updateHostOpenedPorts, .vec (.pair .ipAddr .portCounts), hosts⟩
  | updateHostUserAgents hosts =>
      ⟨.updateHostOsAgents, .vec (.pair .ipAddr (.pair (.vec .userAgent) (.vec .str))), hosts⟩

end ClientCall

end ReviewProtocol.Client
