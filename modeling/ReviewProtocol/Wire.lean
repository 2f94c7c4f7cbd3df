import ReviewProtocol.Types
import ReviewProtocol.ProtocolError

set_option autoImplicit false

/- The serialization the crate takes from `bincode` and `oinq`, as a parameter:
one encoder and one decoder for every type that travels. -/
namespace ReviewProtocol

open Framing (Bytes le32 word)

/-- The types the two parties exchange. Borrowed and owned text, slices and
vectors have the same encoding and are not told apart. -/
inductive WireTy where
  | unit
  | str
  | bytes
  | u32
  | i32
  | i64
  | ipAddr
  | option (element : WireTy)
  | vec (element : WireTy)
  | pair (first second : WireTy)
  /-- `Result<T, String>`, the shape of every response. -/
  | result (value : WireTy)
  | hostNetworkGroup
  | samplingPolicy
  | trafficFilterRule
  | customerDataDeletionRequest
  | trainModelRequest
  | cloneModelRequest
  | process
  | resourceUsage
  | nodeServiceRequest
  | nodeServiceResponse
  | nodeNetworkInterfaceRequest
  | nodeNetworkInterfaceResponse
  | nodeHostnameRequest
  | nodeHostnameResponse
  | nodeTimeSyncRequest
  | nodeTimeSyncResponse
  | nodeLoggingRequest
  | nodeLoggingResponse
  | nodeRemoteAccessRequest
  | nodeRemoteAccessResponse
  | nodePowerRequest
  | nodePowerResponse
  | nodeObservationRequest
  | nodeObservationResponse
  | nodeVersionRequest
  | nodeVersionResponse
  | nodePackageRequest
  | nodePackageResponse
  | installPreflight
  | nodeEnrollRequest
  | nodeEnrollResponse
  | dataSourceKey
  | dataSource
  | columnStatisticsUpdate
  | timeSeriesUpdate
  | eventMessage
  | updateClusterRequest
  | outlierInfo
  | userAgent
  | labelDb
  | customerDataDeletionReport
  | reportedRunState
  | detectorStatusReport
  /-- `HashMap<(u16, u8), u32>`, by its entries. -/
  | portCounts
deriving DecidableEq

@[reducible] def WireTy.denote : WireTy → Type
  | unit => Unit
  | str => String
  | bytes => Bytes
  | u32 => UInt32
  | i32 => Int32
  | i64 => Int64
  | ipAddr => IpAddr
  | option element => Option element.denote
  | vec element => List element.denote
  | pair first second => first.denote × second.denote
  | result value => Except String value.denote
  | hostNetworkGroup => HostNetworkGroup
  | samplingPolicy => SamplingPolicy
  | trafficFilterRule => TrafficFilterRule
  | customerDataDeletionRequest => CustomerDataDeletionRequest
  | trainModelRequest => TrainModelRequest
  | cloneModelRequest => CloneModelRequest
  | process => Process
  | resourceUsage => ResourceUsage
  | nodeServiceRequest => NodeServiceRequest
  | nodeServiceResponse => NodeServiceResponse
  | nodeNetworkInterfaceRequest => NodeNetworkInterfaceRequest
  | nodeNetworkInterfaceResponse => NodeNetworkInterfaceResponse
  | nodeHostnameRequest => NodeHostnameRequest
  | nodeHostnameResponse => NodeHostnameResponse
  | nodeTimeSyncRequest => NodeTimeSyncRequest
  | nodeTimeSyncResponse => NodeTimeSyncResponse
  | nodeLoggingRequest => NodeLoggingRequest
  | nodeLoggingResponse => NodeLoggingResponse
  | nodeRemoteAccessRequest => NodeRemoteAccessRequest
  | nodeRemoteAccessResponse => NodeRemoteAccessResponse
  | nodePowerRequest => NodePowerRequest
  | nodePowerResponse => NodePowerResponse
  | nodeObservationRequest => NodeObservationRequest
  | nodeObservationResponse => NodeObservationResponse
  | nodeVersionRequest => NodeVersionRequest
  | nodeVersionResponse => NodeVersionResponse
  | nodePackageRequest => NodePackageRequest
  | nodePackageResponse => NodePackageResponse
  | installPreflight => InstallPreflight
  | nodeEnrollRequest => NodeEnrollRequest
  | nodeEnrollResponse => NodeEnrollResponse
  | dataSourceKey => DataSourceKey
  | dataSource => DataSource
  | columnStatisticsUpdate => ColumnStatisticsUpdate
  | timeSeriesUpdate => TimeSeriesUpdate
  | eventMessage => EventMessage
  | updateClusterRequest => UpdateClusterRequest
  | outlierInfo => OutlierInfo
  | userAgent => UserAgent
  | labelDb => LabelDb
  | customerDataDeletionReport => CustomerDataDeletionReport
  | reportedRunState => ReportedRunState
  | detectorStatusReport => DetectorStatusReport
  | portCounts => List ((UInt16 × UInt8) × UInt32)

/-- What the crate takes from `oinq`, `bincode` and `std` beyond framing. -/
structure Wire where
  /-- The body `oinq::frame::send` writes for a value. -/
  encode : (ty : WireTy) → ty.denote → Bytes
  /-- The decode of a request's arguments (`oinq::request::parse_args`) and of a
  whole frame (`oinq::frame::recv`). -/
  decode : (ty : WireTy) → Bytes → Except IoError ty.denote
  /-- The error of `oinq::message::recv_request_raw` on a frame too short to hold
  a request code. -/
  shortRequest : IoError
  /-- The `Debug` text of an observation, which quotes floating-point readings. -/
  debug : NodeObservationResponse → String

namespace Wire

variable (wire : Wire)

/-- This value comes back as it was sent. -/
def RoundTrips (ty : WireTy) (value : ty.denote) : Prop :=
  wire.decode ty (wire.encode ty value) = .ok value

/-- A request frame is the code as a little-endian word and the arguments. -/
def splitRequest : Bytes → Except IoError (UInt32 × Bytes)
  | a :: b :: c :: d :: body => .ok (UInt32.ofNat (word d c b a), body)
  | _ => .error wire.shortRequest

/-- The frame body of a request, as `encode_request` and `oinq` build it. -/
def requestFrame (code : UInt32) (body : Bytes) : Bytes := le32 code.toNat ++ body

@[simp] theorem splitRequest_requestFrame (code : UInt32) (body : Bytes) :
    wire.splitRequest (requestFrame code body) = .ok (code, body) := by
  have small : code.toNat < Framing.frameLimit := code.toNat_lt
  simp only [requestFrame, le32, List.cons_append, List.nil_append, splitRequest,
    Framing.word_ofNat code.toNat small, UInt32.ofNat_toNat]

/-- A frame that is read as a request is the frame of that request. -/
theorem splitRequest_ok {bytes body : Bytes} {code : UInt32}
    (split : wire.splitRequest bytes = .ok (code, body)) : bytes = requestFrame code body := by
  unfold splitRequest at split
  split at split
  · rename_i a b c d rest
    cases split
    have small := Framing.word_lt d c b a
    have reversed : le32 (word d c b a) = (Framing.be32 (word d c b a)).reverse := rfl
    rw [requestFrame, UInt32.toNat_ofNat_of_lt' small, reversed, Framing.be32_word]
    rfl
  · cases split

end Wire

end ReviewProtocol
