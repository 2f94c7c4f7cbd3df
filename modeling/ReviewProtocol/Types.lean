import ReviewProtocol.Lib.Framing
import Mathlib.Order.Basic

set_option autoImplicit false

/- The data types of the protocol, as far as a modelled function reads, sends or
hands them on. -/
namespace ReviewProtocol

open Framing (Bytes)

structure F32 where
  bits : BitVec 32
deriving DecidableEq, Repr

structure F64 where
  bits : BitVec 64
deriving DecidableEq, Repr

inductive IpAddr where
  | v4 (bits : BitVec 32)
  | v6 (bits : BitVec 128)
deriving DecidableEq, Repr

structure SocketAddr where
  ip : IpAddr
  port : UInt16
deriving DecidableEq, Repr

structure IpNet where
  addr : IpAddr
  prefixLen : UInt8
deriving DecidableEq, Repr

structure Duration where
  secs : UInt64
  nanos : UInt32
deriving DecidableEq, Repr

/-- `jiff::Timestamp`, in nanoseconds since the epoch. It has the range of jiff's: the
seconds from -377705023201 to 253402207200, with any nanosecond of the last. -/
structure Timestamp where
  nanosecond : Int
  lower : -377705023201000000000 ≤ nanosecond
  upper : nanosecond ≤ 253402207200999999999
deriving DecidableEq, Repr

/-- `Timestamp::from_nanosecond`. -/
def Timestamp.fromNanosecond (nanosecond : Int) : Option Timestamp :=
  if bounds : -377705023201000000000 ≤ nanosecond ∧ nanosecond ≤ 253402207200999999999 then
    some ⟨nanosecond, bounds.1, bounds.2⟩
  else none

@[simp] theorem Timestamp.fromNanosecond_nanosecond (value : Timestamp) :
    fromNanosecond value.nanosecond = some value := by
  rw [fromNanosecond, dif_pos ⟨value.lower, value.upper⟩]

/-- `jiff::civil::DateTime`. -/
structure DateTime where
  year : Int
  month : UInt8
  day : UInt8
  hour : UInt8
  minute : UInt8
  second : UInt8
  subsecNanosecond : UInt32
deriving DecidableEq, Repr

/-- `structured::ColumnStatistics`, which nothing here looks into, by the bytes
it is serialized to. -/
structure ColumnStatistics where
  serialized : Bytes
deriving DecidableEq, Repr

/-- A `BTreeSet<String>`: its elements in strictly ascending order. -/
structure StringSet where
  elements : List String
  sorted : elements.Pairwise (· < ·)
deriving DecidableEq

def StringSet.empty : StringSet := ⟨[], .nil⟩

/-- A `BTreeMap<String, V>`: its entries in strictly ascending order of key. -/
structure StringMap (V : Type) where
  entries : List (String × V)
  sorted : (entries.map Prod.fst).Pairwise (· < ·)
deriving DecidableEq

structure CustomerDataDeletionRequest where
  id : UInt32
  hostFqdn : String
deriving DecidableEq, Repr

inductive CustomerDataDeletionReporter where
  | sensor
  | semiSupervised
deriving DecidableEq, Repr

inductive CustomerDataDeletionOutcome where
  | succeeded
  | failed (reason : String)
deriving DecidableEq, Repr

structure CustomerDataDeletionReport where
  id : UInt32
  hostFqdn : String
  completedAt : Option Int64
  reporter : CustomerDataDeletionReporter
  outcome : CustomerDataDeletionOutcome
deriving DecidableEq

structure TrainModelRequest where
  runId : UInt32
  model : String
  definition : String
deriving DecidableEq, Repr

structure CloneModelRequest where
  runId : UInt32
  source : String
  targetName : String
  stripEvents : Bool
deriving DecidableEq, Repr

inductive ReportedRunState where
  | started
  | failed
  | cancelled
deriving DecidableEq, Repr

inductive DetectorState where
  | running
  | disabled
  | noModel
  | pausedForRun
deriving DecidableEq, Repr

inductive RoundOutcome where
  | succeeded
  | failed
deriving DecidableEq, Repr

inductive SourceState where
  | served
  | servedByNoNode
  | failed
deriving DecidableEq, Repr

structure SourceStatus where
  source : String
  state : SourceState
  reason : Option String
deriving DecidableEq, Repr

structure DetectorStatusReport where
  detectorId : Int32
  state : DetectorState
  finishedAt : Option Int64
  outcome : Option RoundOutcome
  reason : Option String
  events : UInt64
  sources : List SourceStatus
deriving DecidableEq

inductive DataSourceKey where
  | id (id : UInt32)
  | name (name : String)
deriving DecidableEq, Repr

inductive DataType where
  | csv
  | log
  | timeSeries
deriving DecidableEq, Repr

structure DataSource where
  id : UInt32
  name : String
  serverName : String
  address : SocketAddr
  dataType : DataType
  source : String
  kind : Option String
  description : String
deriving DecidableEq, Repr

structure ResourceUsage where
  cpuUsage : F32
  totalMemory : UInt64
  usedMemory : UInt64
  diskUsedBytes : UInt64
  diskAvailableBytes : UInt64
deriving DecidableEq, Repr

structure Process where
  user : String
  cpuUsage : F32
  memUsage : F64
  startTime : Int64
  command : String
deriving DecidableEq

structure HostNetworkGroup where
  hosts : List IpAddr
  networks : List IpNet
  ipRanges : List (IpAddr × IpAddr)
deriving DecidableEq, Repr

inductive SamplingKind where
  | conn
  | dns
  | http
  | rdp
deriving DecidableEq, Repr

structure SamplingPolicy where
  id : UInt32
  kind : SamplingKind
  interval : Duration
  period : Duration
  offset : Int32
  srcIp : Option IpAddr
  dstIp : Option IpAddr
  node : Option String
  column : Option UInt32
deriving DecidableEq

abbrev TrafficFilterRule := IpNet × Option (List UInt16) × Option (List UInt16)

inductive EventCategory where
  | reconnaissance
  | initialAccess
  | execution
  | credentialAccess
  | discovery
  | lateralMovement
  | commandAndControl
  | exfiltration
  | impact
  | collection
  | defenseEvasion
  | persistence
  | privilegeEscalation
  | resourceDevelopment
deriving DecidableEq, Repr

inductive LabelDbKind where
  | ip
  | url
  | token
  | regex
deriving DecidableEq, Repr

inductive RuleKind where
  | os
  | agentSoftware
deriving DecidableEq, Repr

structure UserAgent where
  name : String
  header : String
  kind : RuleKind
  lastModificationTime : Int64
deriving DecidableEq

structure LabelDbRule where
  ruleId : UInt32
  category : Option EventCategory
  name : String
  kind : Option RuleKind
  description : Option String
  references : Option (List String)
  samples : Option (List String)
  signatures : Option (List String)
  confidence : Option F32
deriving DecidableEq, Repr

structure LabelDb where
  id : UInt32
  name : String
  description : Option String
  kind : LabelDbKind
  category : Option EventCategory
  version : String
  patterns : List LabelDbRule
deriving DecidableEq, Repr

inductive Status where
  | ready
  | idle
deriving DecidableEq, Repr

structure ManifestFormatRange where
  min : UInt32
  max : UInt32
deriving DecidableEq, Repr

structure ProvisioningFingerprint where
  components : StringMap String
  domain : String
deriving DecidableEq

structure AuditHealth where
  belowLowWater : Bool
  intentWithoutOutcome : UInt64
deriving DecidableEq, Repr

structure ColumnStatisticsUpdate where
  clusterId : UInt32
  columnStatistics : List ColumnStatistics
deriving DecidableEq, Repr

structure TimeCount where
  time : DateTime
  count : UInt64
deriving DecidableEq, Repr

structure TimeSeries where
  countIndex : Option UInt64
  series : List TimeCount
deriving DecidableEq, Repr

structure TimeSeriesUpdate where
  clusterId : UInt32
  timeSeries : List TimeSeries
deriving DecidableEq, Repr

structure UpdateClusterRequest where
  clusterId : UInt32
  detectorId : Int32
  signature : String
  score : Option F64
  size : Int64
  eventIds : List (Int64 × String)
  statusId : Int32
  labels : Option (List String)
deriving DecidableEq

structure OutlierInfo where
  id : Int64
  rank : Int64
  distance : F64
  sensor : String
deriving DecidableEq

inductive EventKind where
  | dnsCovertChannel
  | httpThreat
  | rdpBruteForce
  | repeatedHttpSessions
  | extraThreat
  | torConnection
  | domainGenerationAlgorithm
  | ftpBruteForce
  | ftpPlainText
  | portScan
  | multiHostPortScan
  | nonBrowser
  | ldapBruteForce
  | ldapPlainText
  | externalDdos
  | cryptocurrencyMiningPool
  | blocklistConn
  | blocklistDns
  | blocklistDceRpc
  | blocklistFtp
  | blocklistHttp
  | blocklistKerberos
  | blocklistLdap
  | blocklistMqtt
  | blocklistNfs
  | blocklistNtlm
  | blocklistRdp
  | blocklistSmb
  | blocklistSmtp
  | blocklistSsh
  | blocklistTls
  | windowsThreat
  | networkThreat
  | lockyRansomware
  | suspiciousTlsTraffic
  | blocklistBootp
  | blocklistDhcp
  | torConnectionConn
  | blocklistRadius
  | blocklistMalformedDns
  | unusualDestinationPattern
deriving DecidableEq, Repr

structure EventMessage where
  time : Timestamp
  kind : EventKind
  fields : Bytes
deriving DecidableEq, Repr

/-! ### Node feature families -/

inductive NodeServiceRequest where
  | start (service : String)
  | stop (service : String)
  | status (service : String)
  | restart (service : String)
deriving DecidableEq, Repr

inductive NodeServiceResponse where
  | status (active : Bool)
  | done
deriving DecidableEq, Repr

structure NodeNetworkInterfaceConfig where
  addresses : Option (List String)
  dhcp4 : Option Bool
  gateway4 : Option String
  nameservers : Option (List String)
deriving DecidableEq, Repr

structure NodeNetworkInterface where
  device : String
  config : NodeNetworkInterfaceConfig
deriving DecidableEq, Repr

inductive NodeNetworkInterfaceRequest where
  | list (namePrefix : Option String)
  | get (device : String)
  | resetConfig (device : String)
  | set (device : String) (config : NodeNetworkInterfaceConfig)
  | remove (device : String) (config : NodeNetworkInterfaceConfig)
deriving DecidableEq, Repr

inductive NodeNetworkInterfaceResponse where
  | list (devices : List String)
  | get (interface : Option NodeNetworkInterface)
  | done
deriving DecidableEq, Repr

inductive NodeHostnameRequest where
  | get
  | set (hostname : String)
deriving DecidableEq, Repr

inductive NodeHostnameResponse where
  | get (hostname : String)
  | done
deriving DecidableEq, Repr

inductive NodeTimeSyncRequest where
  | get
  | set (servers : List String)
  | enable
  | disable
  | status
deriving DecidableEq, Repr

inductive NodeTimeSyncResponse where
  | get (servers : Option (List String))
  | status (enabled synchronized : Bool) (server : Option String) (offsetMicros : Option Int64)
  | done
deriving DecidableEq

inductive NodeLoggingProtocol where
  | tcp
  | udp
deriving DecidableEq, Repr

structure NodeLoggingEndpoint where
  protocol : NodeLoggingProtocol
  address : String
  port : UInt16
deriving DecidableEq, Repr

inductive NodeLoggingRequest where
  | get
  | set (endpoints : List NodeLoggingEndpoint)
  | clear
  | restart
deriving DecidableEq, Repr

inductive NodeLoggingResponse where
  | get (endpoints : Option (List NodeLoggingEndpoint))
  | done
deriving DecidableEq, Repr

structure NodeRemoteAccessConfig where
  port : UInt16
deriving DecidableEq, Repr

inductive NodeRemoteAccessRequest where
  | get
  | set (config : NodeRemoteAccessConfig)
  | restart
deriving DecidableEq, Repr

inductive NodeRemoteAccessResponse where
  | get (config : NodeRemoteAccessConfig)
  | done
deriving DecidableEq, Repr

inductive NodePowerRequest where
  | reboot
  | shutdown
  | gracefulReboot
  | gracefulShutdown
deriving DecidableEq, Repr

inductive NodePowerResponse where
  | initiated
deriving DecidableEq, Repr

inductive NodeObservationRequest where
  | processList
  | resourceUsage
  | uptime
deriving DecidableEq, Repr

inductive NodeObservationResponse where
  | processList (processes : List Process)
  | resourceUsage (hostname : String) (resourceUsage : ResourceUsage)
  | uptime (uptime : Duration)
deriving DecidableEq

inductive NodeVersionRequest where
  | get
  | setOsVersion (version : String)
  | setProductVersion (version : String)
deriving DecidableEq, Repr

inductive NodeVersionResponse where
  | get (osVersion productVersion : String)
  | done
deriving DecidableEq, Repr

structure BootstrapMaterial where
  roleId : String
  wrappedSecretId : String
  caAnchor : Bytes
  expiresAt : Timestamp
  bootstrapArtifact : Bytes
deriving DecidableEq

inductive FailurePolicy where
  | rollback
  | hold
deriving DecidableEq, Repr

/-- The fields of `NodePackageRequest::Install`. -/
structure Install where
  target : String
  instanceNo : Option UInt32
  version : String
  commit : String
  size : UInt64
  idempotencyKey : String
  bootstrapMaterial : Option BootstrapMaterial
  onFailure : FailurePolicy
  bindAddrs : Option (StringMap SocketAddr)
  configTemplate : Option String
  privilegeProfile : Option String
deriving DecidableEq

inductive NodePackageRequest where
  | install (fields : Install)
  | remove (target : String) (instanceNo : Option UInt32) (idempotencyKey : String)
  | listInstalled
  | status (target : String) (instanceNo : Option UInt32)
  | listHostPorts
deriving DecidableEq

inductive InstallPreflight where
  | proceed
  | alreadyApplied
  | insufficientDiskSpace (filesystem : String) (required available : UInt64)
  | bindAddrsOnUpdate
  | namespaceUnconfigured
  | enrollmentUnsupported
  | configTemplateOnUpdate
  | unknownConfigTemplate (id : String)
deriving DecidableEq, Repr

inductive Lifecycle where
  | notInstalled
  | installing
  | running
  | stopped
  | failed
  | removing
  | unknown
deriving DecidableEq, Repr

structure BoundAddr where
  name : String
  addr : String
deriving DecidableEq, Repr

structure PackageState where
  version : String
  commit : String
  lifecycle : Lifecycle
  boundAddrs : List BoundAddr
  privilegeProfile : Option String
deriving DecidableEq, Repr

structure InstalledPackage where
  target : String
  instanceNo : Option UInt32
  state : PackageState
deriving DecidableEq, Repr

inductive Transport where
  | tcp
  | udp
deriving DecidableEq, Repr

structure HostPort where
  transport : Transport
  port : UInt16
deriving DecidableEq, Repr

structure PackageIdentity where
  target : String
  version : String
  commit : String
deriving DecidableEq, Repr

inductive NodePackageError where
  | targetMismatch (expected found : PackageIdentity)
  | missingBootstrapMaterial
  | bootstrapMaterialExpired
  | insufficientDiskSpace (filesystem : String) (required available : UInt64)
  | staleTrustSet (activeEpoch : UInt64)
  | unsupportedManifestFormat (activeEpoch : UInt64) (supported : ManifestFormatRange)
  | observationUnavailable
  | unmanagedInstancePresent
  | undeclaredPrivilegeProfile (profile : String) (declared : List String)
  | unexpectedPrivilegeProfile (profile : String)
  | missingPrivilegeProfile
deriving DecidableEq, Repr

inductive NodePackageResponse where
  | done
  | accepted
  | installed (packages : List InstalledPackage)
  | state (state : PackageState)
  | failed (error : NodePackageError)
  | trustActive (activeEpoch : UInt64)
  | hostPorts (ports : List HostPort)
deriving DecidableEq, Repr

inductive DeliveryMode where
  | localFile
  | remoteBootstrap
deriving DecidableEq, Repr

structure ReloadHook where
  hook : String
deriving DecidableEq, Repr

structure CertGroup where
  group : String
deriving DecidableEq, Repr

structure ServiceSpec where
  component : String
  serviceName : String
  reload : ReloadHook
  certGroup : Option CertGroup
deriving DecidableEq, Repr

inductive NodeEnrollRequest where
  | register (serviceName : String) (deliveryMode : DeliveryMode) (host : String)
      (instanceNo : Option UInt32) (spec : ServiceSpec) (wrapTtl : Duration)
      (idempotencyKey : String)
  | deregister (serviceName host : String) (instanceNo : Option UInt32) (idempotencyKey : String)
deriving DecidableEq, Repr

inductive RegistrarUnavailableReason where
  | credentialInvalid
  | notProvisioned
  | auditUnwritable
  | endpointUnreachable
  | postMintUnrecordable
  | registrarUnreachable
deriving DecidableEq, Repr

inductive NodeEnrollError where
  | serviceSpecConflict
  | serviceNameCollision
  | serviceInstanceMismatch
  | serviceHostMismatch
  | registrarUnavailable (reason : RegistrarUnavailableReason)
  | registrarBusy (retryAfter : Duration)
  | serviceLabelInvalid
deriving DecidableEq, Repr

inductive NodeEnrollResponse where
  | material (material : BootstrapMaterial)
  | done
  | failed (error : NodeEnrollError)
deriving DecidableEq

end ReviewProtocol
