import ReviewProtocol.Encoding.Data

set_option autoImplicit false

/- The encodings of the node families. The package family is in `Encoding`. -/
namespace ReviewProtocol.Encoding

open Framing (Bytes)
open Bincode
open Bincode.Codec (string u16 u32 i64 bool)

def nodeServiceRequest : Codec NodeServiceRequest where
  encode
    | .start service => u32.encode 0 ++ string.encode service
    | .stop service => u32.encode 1 ++ string.encode service
    | .status service => u32.encode 2 ++ string.encode service
    | .restart service => u32.encode 3 ++ string.encode service
  reader := do
    match ← u32.reader with
    | 0 => do
        let service ← string.reader
        pure (.start service)
    | 1 => do
        let service ← string.reader
        pure (.stop service)
    | 2 => do
        let service ← string.reader
        pure (.status service)
    | 3 => do
        let service ← string.reader
        pure (.restart service)
    | _ => Reader.fail .invalid
  reads := by
    intro value rest
    cases value <;> simp

def nodeServiceResponse : Codec NodeServiceResponse where
  encode
    | .status active => u32.encode 0 ++ bool.encode active
    | .done => u32.encode 1
  reader := do
    match ← u32.reader with
    | 0 => do
        let active ← bool.reader
        pure (.status active)
    | 1 => pure .done
    | _ => Reader.fail .invalid
  reads := by
    intro value rest
    cases value <;> simp

def nodeNetworkInterfaceConfig : Codec NodeNetworkInterfaceConfig :=
  (Codec.pair (.option (.list string))
    (.pair (.option bool) (.pair (.option string) (.option (.list string))))).refine
    (fun value => (value.addresses, value.dhcp4, value.gateway4, value.nameservers))
    (fun (addresses, dhcp4, gateway4, nameservers) =>
      some ⟨addresses, dhcp4, gateway4, nameservers⟩) fun _ => rfl

def nodeNetworkInterface : Codec NodeNetworkInterface :=
  (Codec.pair string nodeNetworkInterfaceConfig).refine (fun value => (value.device, value.config))
    (fun (device, config) => some ⟨device, config⟩) fun _ => rfl

def nodeNetworkInterfaceRequest : Codec NodeNetworkInterfaceRequest where
  encode
    | .list namePrefix => u32.encode 0 ++ (Codec.option string).encode namePrefix
    | .get device => u32.encode 1 ++ string.encode device
    | .resetConfig device => u32.encode 2 ++ string.encode device
    | .set device config =>
        u32.encode 3 ++ string.encode device ++ nodeNetworkInterfaceConfig.encode config
    | .remove device config =>
        u32.encode 4 ++ string.encode device ++ nodeNetworkInterfaceConfig.encode config
  reader := do
    match ← u32.reader with
    | 0 => do
        let namePrefix ← (Codec.option string).reader
        pure (.list namePrefix)
    | 1 => do
        let device ← string.reader
        pure (.get device)
    | 2 => do
        let device ← string.reader
        pure (.resetConfig device)
    | 3 => do
        let device ← string.reader
        let config ← nodeNetworkInterfaceConfig.reader
        pure (.set device config)
    | 4 => do
        let device ← string.reader
        let config ← nodeNetworkInterfaceConfig.reader
        pure (.remove device config)
    | _ => Reader.fail .invalid
  reads := by
    intro value rest
    cases value <;> simp

def nodeNetworkInterfaceResponse : Codec NodeNetworkInterfaceResponse where
  encode
    | .list devices => u32.encode 0 ++ (Codec.list string).encode devices
    | .get interface => u32.encode 1 ++ (Codec.option nodeNetworkInterface).encode interface
    | .done => u32.encode 2
  reader := do
    match ← u32.reader with
    | 0 => do
        let devices ← (Codec.list string).reader
        pure (.list devices)
    | 1 => do
        let interface ← (Codec.option nodeNetworkInterface).reader
        pure (.get interface)
    | 2 => pure .done
    | _ => Reader.fail .invalid
  reads := by
    intro value rest
    cases value <;> simp

def nodeHostnameRequest : Codec NodeHostnameRequest where
  encode
    | .get => u32.encode 0
    | .set hostname => u32.encode 1 ++ string.encode hostname
  reader := do
    match ← u32.reader with
    | 0 => pure .get
    | 1 => do
        let hostname ← string.reader
        pure (.set hostname)
    | _ => Reader.fail .invalid
  reads := by
    intro value rest
    cases value <;> simp

def nodeHostnameResponse : Codec NodeHostnameResponse where
  encode
    | .get hostname => u32.encode 0 ++ string.encode hostname
    | .done => u32.encode 1
  reader := do
    match ← u32.reader with
    | 0 => do
        let hostname ← string.reader
        pure (.get hostname)
    | 1 => pure .done
    | _ => Reader.fail .invalid
  reads := by
    intro value rest
    cases value <;> simp

def nodeTimeSyncRequest : Codec NodeTimeSyncRequest where
  encode
    | .get => u32.encode 0
    | .set servers => u32.encode 1 ++ (Codec.list string).encode servers
    | .enable => u32.encode 2
    | .disable => u32.encode 3
    | .status => u32.encode 4
  reader := do
    match ← u32.reader with
    | 0 => pure .get
    | 1 => do
        let servers ← (Codec.list string).reader
        pure (.set servers)
    | 2 => pure .enable
    | 3 => pure .disable
    | 4 => pure .status
    | _ => Reader.fail .invalid
  reads := by
    intro value rest
    cases value <;> simp

def nodeTimeSyncResponse : Codec NodeTimeSyncResponse where
  encode
    | .get servers => u32.encode 0 ++ (Codec.option (.list string)).encode servers
    | .status enabled synchronized server offsetMicros =>
        u32.encode 1 ++ bool.encode enabled ++ bool.encode synchronized ++
          (Codec.option string).encode server ++ (Codec.option i64).encode offsetMicros
    | .done => u32.encode 2
  reader := do
    match ← u32.reader with
    | 0 => do
        let servers ← (Codec.option (.list string)).reader
        pure (.get servers)
    | 1 => do
        let enabled ← bool.reader
        let synchronized ← bool.reader
        let server ← (Codec.option string).reader
        let offsetMicros ← (Codec.option i64).reader
        pure (.status enabled synchronized server offsetMicros)
    | 2 => pure .done
    | _ => Reader.fail .invalid
  reads := by
    intro value rest
    cases value <;> simp

def nodeLoggingProtocol : Codec NodeLoggingProtocol :=
  .enumeration [.tcp, .udp] (by decide) fun value => by cases value <;> decide

def nodeLoggingEndpoint : Codec NodeLoggingEndpoint :=
  (Codec.pair nodeLoggingProtocol (.pair string u16)).refine
    (fun value => (value.protocol, value.address, value.port))
    (fun (protocol, address, port) => some ⟨protocol, address, port⟩) fun _ => rfl

def nodeLoggingRequest : Codec NodeLoggingRequest where
  encode
    | .get => u32.encode 0
    | .set endpoints => u32.encode 1 ++ (Codec.list nodeLoggingEndpoint).encode endpoints
    | .clear => u32.encode 2
    | .restart => u32.encode 3
  reader := do
    match ← u32.reader with
    | 0 => pure .get
    | 1 => do
        let endpoints ← (Codec.list nodeLoggingEndpoint).reader
        pure (.set endpoints)
    | 2 => pure .clear
    | 3 => pure .restart
    | _ => Reader.fail .invalid
  reads := by
    intro value rest
    cases value <;> simp

def nodeLoggingResponse : Codec NodeLoggingResponse where
  encode
    | .get endpoints => u32.encode 0 ++ (Codec.option (.list nodeLoggingEndpoint)).encode endpoints
    | .done => u32.encode 1
  reader := do
    match ← u32.reader with
    | 0 => do
        let endpoints ← (Codec.option (.list nodeLoggingEndpoint)).reader
        pure (.get endpoints)
    | 1 => pure .done
    | _ => Reader.fail .invalid
  reads := by
    intro value rest
    cases value <;> simp

def nodeRemoteAccessConfig : Codec NodeRemoteAccessConfig :=
  u16.refine NodeRemoteAccessConfig.port (fun port => some ⟨port⟩) fun _ => rfl

def nodeRemoteAccessRequest : Codec NodeRemoteAccessRequest where
  encode
    | .get => u32.encode 0
    | .set config => u32.encode 1 ++ nodeRemoteAccessConfig.encode config
    | .restart => u32.encode 2
  reader := do
    match ← u32.reader with
    | 0 => pure .get
    | 1 => do
        let config ← nodeRemoteAccessConfig.reader
        pure (.set config)
    | 2 => pure .restart
    | _ => Reader.fail .invalid
  reads := by
    intro value rest
    cases value <;> simp

def nodeRemoteAccessResponse : Codec NodeRemoteAccessResponse where
  encode
    | .get config => u32.encode 0 ++ nodeRemoteAccessConfig.encode config
    | .done => u32.encode 1
  reader := do
    match ← u32.reader with
    | 0 => do
        let config ← nodeRemoteAccessConfig.reader
        pure (.get config)
    | 1 => pure .done
    | _ => Reader.fail .invalid
  reads := by
    intro value rest
    cases value <;> simp

def nodeVersionRequest : Codec NodeVersionRequest where
  encode
    | .get => u32.encode 0
    | .setOsVersion version => u32.encode 1 ++ string.encode version
    | .setProductVersion version => u32.encode 2 ++ string.encode version
  reader := do
    match ← u32.reader with
    | 0 => pure .get
    | 1 => do
        let version ← string.reader
        pure (.setOsVersion version)
    | 2 => do
        let version ← string.reader
        pure (.setProductVersion version)
    | _ => Reader.fail .invalid
  reads := by
    intro value rest
    cases value <;> simp

def nodeVersionResponse : Codec NodeVersionResponse where
  encode
    | .get osVersion productVersion =>
        u32.encode 0 ++ string.encode osVersion ++ string.encode productVersion
    | .done => u32.encode 1
  reader := do
    match ← u32.reader with
    | 0 => do
        let osVersion ← string.reader
        let productVersion ← string.reader
        pure (.get osVersion productVersion)
    | 1 => pure .done
    | _ => Reader.fail .invalid
  reads := by
    intro value rest
    cases value <;> simp

def deliveryMode : Codec DeliveryMode :=
  .enumeration [.localFile, .remoteBootstrap] (by decide) fun value => by cases value <;> decide

/-- A newtype is written as what it wraps. -/
def reloadHook : Codec ReloadHook :=
  string.refine ReloadHook.hook (fun hook => some ⟨hook⟩) fun _ => rfl

def certGroup : Codec CertGroup :=
  string.refine CertGroup.group (fun group => some ⟨group⟩) fun _ => rfl

def serviceSpec : Codec ServiceSpec :=
  (Codec.pair string (.pair string (.pair reloadHook (.option certGroup)))).refine
    (fun value => (value.component, value.serviceName, value.reload, value.certGroup))
    (fun (component, serviceName, reload, certGroup) =>
      some ⟨component, serviceName, reload, certGroup⟩) fun _ => rfl

def nodeEnrollRequest : Codec NodeEnrollRequest where
  encode
    | .register serviceName deliveryMode' host instanceNo spec wrapTtl idempotencyKey =>
        u32.encode 0 ++ string.encode serviceName ++ deliveryMode.encode deliveryMode' ++
          string.encode host ++ (Codec.option u32).encode instanceNo ++ serviceSpec.encode spec ++
          duration.encode wrapTtl ++ string.encode idempotencyKey
    | .deregister serviceName host instanceNo idempotencyKey =>
        u32.encode 1 ++ string.encode serviceName ++ string.encode host ++
          (Codec.option u32).encode instanceNo ++ string.encode idempotencyKey
  reader := do
    match ← u32.reader with
    | 0 => do
        let serviceName ← string.reader
        let deliveryMode ← deliveryMode.reader
        let host ← string.reader
        let instanceNo ← (Codec.option u32).reader
        let spec ← serviceSpec.reader
        let wrapTtl ← duration.reader
        let idempotencyKey ← string.reader
        pure (.register serviceName deliveryMode host instanceNo spec wrapTtl idempotencyKey)
    | 1 => do
        let serviceName ← string.reader
        let host ← string.reader
        let instanceNo ← (Codec.option u32).reader
        let idempotencyKey ← string.reader
        pure (.deregister serviceName host instanceNo idempotencyKey)
    | _ => Reader.fail .invalid
  reads := by
    intro value rest
    cases value <;> simp

def registrarUnavailableReason : Codec RegistrarUnavailableReason :=
  .enumeration [.credentialInvalid, .notProvisioned, .auditUnwritable, .endpointUnreachable,
    .postMintUnrecordable, .registrarUnreachable] (by decide) fun value => by cases value <;> decide

def nodeEnrollError : Codec NodeEnrollError where
  encode
    | .serviceSpecConflict => u32.encode 0
    | .serviceNameCollision => u32.encode 1
    | .serviceInstanceMismatch => u32.encode 2
    | .serviceHostMismatch => u32.encode 3
    | .registrarUnavailable reason => u32.encode 4 ++ registrarUnavailableReason.encode reason
    | .registrarBusy retryAfter => u32.encode 5 ++ duration.encode retryAfter
    | .serviceLabelInvalid => u32.encode 6
  reader := do
    match ← u32.reader with
    | 0 => pure .serviceSpecConflict
    | 1 => pure .serviceNameCollision
    | 2 => pure .serviceInstanceMismatch
    | 3 => pure .serviceHostMismatch
    | 4 => do
        let reason ← registrarUnavailableReason.reader
        pure (.registrarUnavailable reason)
    | 5 => do
        let retryAfter ← duration.reader
        pure (.registrarBusy retryAfter)
    | 6 => pure .serviceLabelInvalid
    | _ => Reader.fail .invalid
  reads := by
    intro value rest
    cases value <;> simp

def nodeEnrollResponse : Codec NodeEnrollResponse where
  encode
    | .material material => u32.encode 0 ++ bootstrapMaterial.encode material
    | .done => u32.encode 1
    | .failed error => u32.encode 2 ++ nodeEnrollError.encode error
  reader := do
    match ← u32.reader with
    | 0 => do
        let material ← bootstrapMaterial.reader
        pure (.material material)
    | 1 => pure .done
    | 2 => do
        let error ← nodeEnrollError.reader
        pure (.failed error)
    | _ => Reader.fail .invalid
  reads := by
    intro value rest
    cases value <;> simp

end ReviewProtocol.Encoding
