import ReviewProtocol.Encoding.Node
import ReviewProtocol.Fidelity

set_option autoImplicit false

/- The whole wire format: an encoding for every type that either party sends. -/
namespace ReviewProtocol

namespace Encoding

open Framing (Bytes)
open Bincode
open Bincode.Codec (string u32 u64 i32 i64)

/-- What other crates define: the encodings of their types, and the texts of their errors. -/
structure Foreign where
  ipNet : Codec IpNet
  dateTime : Codec DateTime
  columnStatistics : Codec ColumnStatistics
  shortRequest : IoError
  undecodable : DecodeError → IoError
  debug : NodeObservationResponse → String

section format

variable (foreign : Foreign)

/-- A range is written as its two ends. -/
def hostNetworkGroup : Codec HostNetworkGroup :=
  (Codec.pair (.list ipAddr)
    (.pair (.list foreign.ipNet) (.list (.pair ipAddr ipAddr)))).refine
    (fun value => (value.hosts, value.networks, value.ipRanges))
    (fun (hosts, networks, ipRanges) => some ⟨hosts, networks, ipRanges⟩) fun _ => rfl

def trafficFilterRule : Codec TrafficFilterRule :=
  .pair foreign.ipNet (.pair (.option (.list .u16)) (.option (.list .u16)))

def columnStatisticsUpdate : Codec ColumnStatisticsUpdate :=
  (Codec.pair u32 (.list foreign.columnStatistics)).refine
    (fun value => (value.clusterId, value.columnStatistics))
    (fun (clusterId, columnStatistics) => some ⟨clusterId, columnStatistics⟩) fun _ => rfl

def timeCount : Codec TimeCount :=
  (Codec.pair foreign.dateTime u64).refine (fun value => (value.time, value.count))
    (fun (time, count) => some ⟨time, count⟩) fun _ => rfl

def timeSeries : Codec TimeSeries :=
  (Codec.pair (.option u64) (.list (timeCount foreign))).refine
    (fun value => (value.countIndex, value.series))
    (fun (countIndex, series) => some ⟨countIndex, series⟩) fun _ => rfl

def timeSeriesUpdate : Codec TimeSeriesUpdate :=
  (Codec.pair u32 (.list (timeSeries foreign))).refine
    (fun value => (value.clusterId, value.timeSeries))
    (fun (clusterId, timeSeries) => some ⟨clusterId, timeSeries⟩) fun _ => rfl

def format : (ty : WireTy) → Codec ty.denote
  | .unit => .unit
  | .str => string
  | .bytes => .bytes
  | .u32 => u32
  | .i32 => i32
  | .i64 => i64
  | .ipAddr => ipAddr
  | .option element => .option (format element)
  | .vec element => .list (format element)
  | .pair first second => .pair (format first) (format second)
  | .result value => result (format value)
  | .hostNetworkGroup => hostNetworkGroup foreign
  | .samplingPolicy => samplingPolicy
  | .trafficFilterRule => trafficFilterRule foreign
  | .customerDataDeletionRequest => customerDataDeletionRequest
  | .trainModelRequest => trainModelRequest
  | .cloneModelRequest => cloneModelRequest
  | .process => process
  | .resourceUsage => resourceUsage
  | .nodeServiceRequest => nodeServiceRequest
  | .nodeServiceResponse => nodeServiceResponse
  | .nodeNetworkInterfaceRequest => nodeNetworkInterfaceRequest
  | .nodeNetworkInterfaceResponse => nodeNetworkInterfaceResponse
  | .nodeHostnameRequest => nodeHostnameRequest
  | .nodeHostnameResponse => nodeHostnameResponse
  | .nodeTimeSyncRequest => nodeTimeSyncRequest
  | .nodeTimeSyncResponse => nodeTimeSyncResponse
  | .nodeLoggingRequest => nodeLoggingRequest
  | .nodeLoggingResponse => nodeLoggingResponse
  | .nodeRemoteAccessRequest => nodeRemoteAccessRequest
  | .nodeRemoteAccessResponse => nodeRemoteAccessResponse
  | .nodePowerRequest => nodePowerRequest
  | .nodePowerResponse => nodePowerResponse
  | .nodeObservationRequest => nodeObservationRequest
  | .nodeObservationResponse => nodeObservationResponse
  | .nodeVersionRequest => nodeVersionRequest
  | .nodeVersionResponse => nodeVersionResponse
  | .nodePackageRequest => nodePackageRequest
  | .nodePackageResponse => nodePackageResponse
  | .installPreflight => installPreflight
  | .nodeEnrollRequest => nodeEnrollRequest
  | .nodeEnrollResponse => nodeEnrollResponse
  | .dataSourceKey => dataSourceKey
  | .dataSource => dataSource
  | .columnStatisticsUpdate => columnStatisticsUpdate foreign
  | .timeSeriesUpdate => timeSeriesUpdate foreign
  | .eventMessage => eventMessage
  | .updateClusterRequest => updateClusterRequest
  | .outlierInfo => outlierInfo
  | .userAgent => userAgent
  | .labelDb => labelDb
  | .customerDataDeletionReport => customerDataDeletionReport
  | .reportedRunState => reportedRunState
  | .detectorStatusReport => detectorStatusReport
  | .portCounts => portCounts

/-- The serialization of the crate. Bytes after a value are ignored. -/
def standard : Wire where
  encode ty value := (format foreign ty).encode value
  decode ty bytes :=
    match (format foreign ty).reader.run bytes with
    | .ok (value, _) => .ok value
    | .error error => .error (foreign.undecodable error)
  shortRequest := foreign.shortRequest
  debug := foreign.debug

theorem standard_followed (ty : WireTy) (value : ty.denote) (more : Bytes) :
    (standard foreign).decode ty ((standard foreign).encode ty value ++ more) = .ok value := by
  simp only [standard, (format foreign ty).reads value more]

theorem standard_roundTrips (ty : WireTy) (value : ty.denote) :
    (standard foreign).RoundTrips ty value := by
  have read := standard_followed foreign ty value []
  rw [List.append_nil] at read
  exact read

end format

end Encoding

open Framing (Bytes Duplex Faithful)
open Client (ClientEvent)
open Server (Method)
open Encoding (Foreign standard standard_roundTrips)

variable {σ σ' τ ι κ : Type} (foreign : Foreign)

theorem ClientStream.lawful_standard (peer : String) (stream : ClientStream σ) :
    stream.Lawful (standard foreign) peer :=
  ⟨standard_roundTrips foreign _ _, standard_roundTrips foreign _ _⟩

theorem ManagerStream.lawful_standard (stream : ManagerStream σ τ)
    (errand : Errand σ stream.method.Outcome) : stream.Lawful (standard foreign) errand := by
  constructor
  · intro sending _
    cases sending with
    | silent code ty payload value => exact standard_roundTrips foreign ty payload
    | single code ty payload ret wrap => exact standard_roundTrips foreign ty payload
    | install fields wrap => exact standard_roundTrips foreign .nodePackageRequest (.install fields)
  · cases errand with
    | asks calls ret ask wrap => exact standard_roundTrips foreign (.result ret) (ask stream.state)
    | tells call value => trivial

/-- In the wire format of the crate nothing has to be assumed of a call: in every state of
every interleaving, whatever its arguments and its answer. -/
theorem connection_fidelity (peer : String) (ups : ι → ClientStream σ)
    (downs : κ → ManagerStream σ' τ) (now : Connection σ σ' τ ι κ)
    (reaches : Connection.Reaches (standard foreign) peer ups downs now) :
    (∀ i, Faithful [((ups i).call.counterpart peer).call]
      (callsServed
        ((Server.handle (standard foreign) (ups i).handler peer).run (now.1 i).far).2.log)
      (((ups i).call.act (standard foreign)).run (now.1 i).near).1
      (ended (((ups i).call.counterpart peer).returned ((ups i).answer peer))) True
      (HasRead (((ups i).call.act (standard foreign)).run (now.1 i).near).2.log)
      ((ups i).Through (standard foreign) peer (now.1 i))) ∧
    ∀ k errand, Method.errand (downs k).handler (downs k).method = some errand →
      Faithful errand.calls
        (calls ((handle (standard foreign) (downs k).handler).run (now.2 k).far).2.log)
        (((downs k).method.act (standard foreign)).run (now.2 k).near).1
        (errand.answer (downs k).state) errand.Waits
        (Server.HasRead (((downs k).method.act (standard foreign)).run (now.2 k).near).2.log)
        ((downs k).Through (standard foreign) errand (now.2 k)) := by
  obtain ⟨up, down⟩ := Framing.reachable_beside reaches
  constructor
  · intro i
    exact ClientStream.faithful (ClientStream.lawful_standard foreign peer (ups i))
      (Duplex.ReachableAll.stream up i)
  · intro k errand unary
    exact ManagerStream.faithful unary (ManagerStream.lawful_standard foreign (downs k) errand)
      (Duplex.ReachableAll.stream down k)

end ReviewProtocol
