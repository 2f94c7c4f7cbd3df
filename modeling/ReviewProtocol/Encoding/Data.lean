import ReviewProtocol.Encoding
import ReviewProtocol.Lib.Variants

set_option autoImplicit false

/- The encodings of what the flat methods carry, in either direction. -/
namespace ReviewProtocol.Encoding

open Framing (Bytes)
open Bincode
open Bincode.Codec (string u16 u32 u64 i32 i64 bool)

def ipAddr : Codec IpAddr where
  encode
    | .v4 bits => u32.encode 0 ++ (Codec.octets 4).encode bits
    | .v6 bits => u32.encode 1 ++ (Codec.octets 16).encode bits
  reader := do
    match ← u32.reader with
    | 0 => do
        let bits ← (Codec.octets 4).reader
        pure (.v4 bits)
    | 1 => do
        let bits ← (Codec.octets 16).reader
        pure (.v6 bits)
    | _ => Reader.fail .invalid
  reads := by
    intro value rest
    cases value <;> simp

def customerDataDeletionRequest : Codec CustomerDataDeletionRequest :=
  (Codec.pair u32 string).refine (fun value => (value.id, value.hostFqdn))
    (fun (id, hostFqdn) => some ⟨id, hostFqdn⟩) fun _ => rfl

def customerDataDeletionReporter : Codec CustomerDataDeletionReporter :=
  .enumeration [.sensor, .semiSupervised] (by decide) fun value => by cases value <;> decide

def customerDataDeletionOutcome : Codec CustomerDataDeletionOutcome where
  encode
    | .succeeded => u32.encode 0
    | .failed reason => u32.encode 1 ++ string.encode reason
  reader := do
    match ← u32.reader with
    | 0 => pure .succeeded
    | 1 => do
        let reason ← string.reader
        pure (.failed reason)
    | _ => Reader.fail .invalid
  reads := by
    intro value rest
    cases value <;> simp

def customerDataDeletionReport : Codec CustomerDataDeletionReport where
  encode value := u32.encode value.id ++ string.encode value.hostFqdn ++
    (Codec.option i64).encode value.completedAt ++
    customerDataDeletionReporter.encode value.reporter ++
    customerDataDeletionOutcome.encode value.outcome
  reader := do
    let id ← u32.reader
    let hostFqdn ← string.reader
    let completedAt ← (Codec.option i64).reader
    let reporter ← customerDataDeletionReporter.reader
    let outcome ← customerDataDeletionOutcome.reader
    pure ⟨id, hostFqdn, completedAt, reporter, outcome⟩
  reads := by
    intro value rest
    simp

def trainModelRequest : Codec TrainModelRequest :=
  (Codec.pair u32 (.pair string string)).refine
    (fun value => (value.runId, value.model, value.definition))
    (fun (runId, model, definition) => some ⟨runId, model, definition⟩) fun _ => rfl

def cloneModelRequest : Codec CloneModelRequest :=
  (Codec.pair u32 (.pair string (.pair string bool))).refine
    (fun value => (value.runId, value.source, value.targetName, value.stripEvents))
    (fun (runId, source, targetName, stripEvents) =>
      some ⟨runId, source, targetName, stripEvents⟩) fun _ => rfl

def reportedRunState : Codec ReportedRunState :=
  .enumeration [.started, .failed, .cancelled] (by decide) fun value => by cases value <;> decide

def detectorState : Codec DetectorState :=
  .enumeration [.running, .disabled, .noModel, .pausedForRun] (by decide)
    fun value => by cases value <;> decide

def roundOutcome : Codec RoundOutcome :=
  .enumeration [.succeeded, .failed] (by decide) fun value => by cases value <;> decide

def sourceState : Codec SourceState :=
  .enumeration [.served, .servedByNoNode, .failed] (by decide)
    fun value => by cases value <;> decide

def sourceStatus : Codec SourceStatus :=
  (Codec.pair string (.pair sourceState (.option string))).refine
    (fun value => (value.source, value.state, value.reason))
    (fun (source, state, reason) => some ⟨source, state, reason⟩) fun _ => rfl

def detectorStatusReport : Codec DetectorStatusReport where
  encode value := i32.encode value.detectorId ++ detectorState.encode value.state ++
    (Codec.option i64).encode value.finishedAt ++
    (Codec.option roundOutcome).encode value.outcome ++
    (Codec.option string).encode value.reason ++ u64.encode value.events ++
    (Codec.list sourceStatus).encode value.sources
  reader := do
    let detectorId ← i32.reader
    let state ← detectorState.reader
    let finishedAt ← (Codec.option i64).reader
    let outcome ← (Codec.option roundOutcome).reader
    let reason ← (Codec.option string).reader
    let events ← u64.reader
    let sources ← (Codec.list sourceStatus).reader
    pure ⟨detectorId, state, finishedAt, outcome, reason, events, sources⟩
  reads := by
    intro value rest
    simp

def dataSourceKey : Codec DataSourceKey where
  encode
    | .id id => u32.encode 0 ++ u32.encode id
    | .name name => u32.encode 1 ++ string.encode name
  reader := do
    match ← u32.reader with
    | 0 => do
        let id ← u32.reader
        pure (.id id)
    | 1 => do
        let name ← string.reader
        pure (.name name)
    | _ => Reader.fail .invalid
  reads := by
    intro value rest
    cases value <;> simp

/-- By its discriminant, as a `u16`. -/
def dataType : Codec DataType :=
  u16.refine
    (fun
      | .csv => 0
      | .log => 1
      | .timeSeries => 2)
    (fun
      | 0 => some .csv
      | 1 => some .log
      | 2 => some .timeSeries
      | _ => none)
    fun value => by cases value <;> rfl

def dataSource : Codec DataSource where
  encode value := u32.encode value.id ++ string.encode value.name ++
    string.encode value.serverName ++ socketAddr.encode value.address ++
    dataType.encode value.dataType ++ string.encode value.source ++
    (Codec.option string).encode value.kind ++ string.encode value.description
  reader := do
    let id ← u32.reader
    let name ← string.reader
    let serverName ← string.reader
    let address ← socketAddr.reader
    let dataType ← dataType.reader
    let source ← string.reader
    let kind ← (Codec.option string).reader
    let description ← string.reader
    pure ⟨id, name, serverName, address, dataType, source, kind, description⟩
  reads := by
    intro value rest
    simp

def samplingKind : Codec SamplingKind :=
  .enumeration [.conn, .dns, .http, .rdp] (by decide) fun value => by cases value <;> decide

def samplingPolicy : Codec SamplingPolicy where
  encode value := u32.encode value.id ++ samplingKind.encode value.kind ++
    duration.encode value.interval ++ duration.encode value.period ++ i32.encode value.offset ++
    (Codec.option ipAddr).encode value.srcIp ++ (Codec.option ipAddr).encode value.dstIp ++
    (Codec.option string).encode value.node ++ (Codec.option u32).encode value.column
  reader := do
    let id ← u32.reader
    let kind ← samplingKind.reader
    let interval ← duration.reader
    let period ← duration.reader
    let offset ← i32.reader
    let srcIp ← (Codec.option ipAddr).reader
    let dstIp ← (Codec.option ipAddr).reader
    let node ← (Codec.option string).reader
    let column ← (Codec.option u32).reader
    pure ⟨id, kind, interval, period, offset, srcIp, dstIp, node, column⟩
  reads := by
    intro value rest
    simp

/-- By its place in the declaration, whatever its discriminant. -/
def eventCategory : Codec EventCategory :=
  .enumeration [.reconnaissance, .initialAccess, .execution, .credentialAccess, .discovery,
    .lateralMovement, .commandAndControl, .exfiltration, .impact, .collection, .defenseEvasion,
    .persistence, .privilegeEscalation, .resourceDevelopment] (by decide)
    fun value => by cases value <;> decide

/-- By its discriminant, as a byte. -/
def labelDbKind : Codec LabelDbKind :=
  Codec.byte.refine
    (fun
      | .ip => 0
      | .url => 1
      | .token => 2
      | .regex => 3)
    (fun
      | 0 => some .ip
      | 1 => some .url
      | 2 => some .token
      | 3 => some .regex
      | _ => none)
    fun value => by cases value <;> rfl

def ruleKind : Codec RuleKind :=
  .enumeration [.os, .agentSoftware] (by decide) fun value => by cases value <;> decide

def userAgent : Codec UserAgent :=
  (Codec.pair string (.pair string (.pair ruleKind i64))).refine
    (fun value => (value.name, value.header, value.kind, value.lastModificationTime))
    (fun (name, header, kind, lastModificationTime) =>
      some ⟨name, header, kind, lastModificationTime⟩) fun _ => rfl

def labelDbRule : Codec LabelDbRule where
  encode value := u32.encode value.ruleId ++ (Codec.option eventCategory).encode value.category ++
    string.encode value.name ++ (Codec.option ruleKind).encode value.kind ++
    (Codec.option string).encode value.description ++
    (Codec.option (.list string)).encode value.references ++
    (Codec.option (.list string)).encode value.samples ++
    (Codec.option (.list string)).encode value.signatures ++
    (Codec.option f32).encode value.confidence
  reader := do
    let ruleId ← u32.reader
    let category ← (Codec.option eventCategory).reader
    let name ← string.reader
    let kind ← (Codec.option ruleKind).reader
    let description ← (Codec.option string).reader
    let references ← (Codec.option (.list string)).reader
    let samples ← (Codec.option (.list string)).reader
    let signatures ← (Codec.option (.list string)).reader
    let confidence ← (Codec.option f32).reader
    pure ⟨ruleId, category, name, kind, description, references, samples, signatures, confidence⟩
  reads := by
    intro value rest
    simp

def labelDb : Codec LabelDb where
  encode value := u32.encode value.id ++ string.encode value.name ++
    (Codec.option string).encode value.description ++ labelDbKind.encode value.kind ++
    (Codec.option eventCategory).encode value.category ++ string.encode value.version ++
    (Codec.list labelDbRule).encode value.patterns
  reader := do
    let id ← u32.reader
    let name ← string.reader
    let description ← (Codec.option string).reader
    let kind ← labelDbKind.reader
    let category ← (Codec.option eventCategory).reader
    let version ← string.reader
    let patterns ← (Codec.list labelDbRule).reader
    pure ⟨id, name, description, kind, category, version, patterns⟩
  reads := by
    intro value rest
    simp

def updateClusterRequest : Codec UpdateClusterRequest where
  encode value := u32.encode value.clusterId ++ i32.encode value.detectorId ++
    string.encode value.signature ++ (Codec.option f64).encode value.score ++
    i64.encode value.size ++ (Codec.list (.pair i64 string)).encode value.eventIds ++
    i32.encode value.statusId ++ (Codec.option (.list string)).encode value.labels
  reader := do
    let clusterId ← u32.reader
    let detectorId ← i32.reader
    let signature ← string.reader
    let score ← (Codec.option f64).reader
    let size ← i64.reader
    let eventIds ← (Codec.list (.pair i64 string)).reader
    let statusId ← i32.reader
    let labels ← (Codec.option (.list string)).reader
    pure ⟨clusterId, detectorId, signature, score, size, eventIds, statusId, labels⟩
  reads := by
    intro value rest
    simp

def outlierInfo : Codec OutlierInfo :=
  (Codec.pair i64 (.pair i64 (.pair f64 string))).refine
    (fun value => (value.id, value.rank, value.distance, value.sensor))
    (fun (id, rank, distance, sensor) => some ⟨id, rank, distance, sensor⟩) fun _ => rfl

/-- By its place in the declaration. -/
def eventKind : Codec EventKind :=
  u32.refine (fun kind => UInt32.ofNat kind.ctorIdx) (fun index => eventKindOfIndex index.toNat) (by
    intro kind
    have small := ctorIdx_eventKind_lt kind
    have same : (UInt32.ofNat kind.ctorIdx).toNat = kind.ctorIdx := by
      apply UInt32.toNat_ofNat_of_lt'
      show kind.ctorIdx < 4294967296
      omega
    rw [same, eventKindOfIndex_ctorIdx])

def eventMessage : Codec EventMessage :=
  (Codec.pair timestamp (.pair eventKind .bytes)).refine
    (fun value => (value.time, value.kind, value.fields))
    (fun (time, kind, fields) => some ⟨time, kind, fields⟩) fun _ => rfl

/-- The entries, in whatever order the map yields them. -/
def portCounts : Codec (List ((UInt16 × UInt8) × UInt32)) :=
  .list (.pair (.pair u16 .byte) u32)

end ReviewProtocol.Encoding
