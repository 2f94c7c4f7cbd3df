import ReviewProtocol.Lib.Bincode
import ReviewProtocol.Wire

set_option autoImplicit false

/- The bincode encodings of the package family and of the requests around it, field by
field in declaration order. With them the serialization that the model takes as a
parameter has an instance. -/
namespace ReviewProtocol.Encoding

open Framing (Bytes)
open Bincode
open Bincode.Codec (string u16 u32 u64 length)

def failurePolicy : Codec FailurePolicy where
  encode
    | .rollback => length.encode 0
    | .hold => length.encode 1
  reader := do
    match ← length.reader with
    | 0 => pure .rollback
    | 1 => pure .hold
    | _ => Reader.fail .invalid
  reads := by
    intro value rest
    cases value <;> simp

def transport : Codec Transport where
  encode
    | .tcp => length.encode 0
    | .udp => length.encode 1
  reader := do
    match ← length.reader with
    | 0 => pure .tcp
    | 1 => pure .udp
    | _ => Reader.fail .invalid
  reads := by
    intro value rest
    cases value <;> simp

/-- By its discriminant; one this build does not know reads as `unknown`. -/
def lifecycle : Codec Lifecycle where
  encode
    | .notInstalled => [0]
    | .installing => [1]
    | .running => [2]
    | .stopped => [3]
    | .failed => [4]
    | .removing => [5]
    | .unknown => [255]
  reader := do
    match ← Reader.byte with
    | 0 => pure .notInstalled
    | 1 => pure .installing
    | 2 => pure .running
    | 3 => pure .stopped
    | 4 => pure .failed
    | 5 => pure .removing
    | _ => pure .unknown
  reads := by
    intro value rest
    cases value <;> rfl

def nodePowerRequest : Codec NodePowerRequest where
  encode
    | .reboot => length.encode 0
    | .shutdown => length.encode 1
    | .gracefulReboot => length.encode 2
    | .gracefulShutdown => length.encode 3
  reader := do
    match ← length.reader with
    | 0 => pure .reboot
    | 1 => pure .shutdown
    | 2 => pure .gracefulReboot
    | 3 => pure .gracefulShutdown
    | _ => Reader.fail .invalid
  reads := by
    intro value rest
    cases value <;> simp

def nodePowerResponse : Codec NodePowerResponse where
  encode
    | .initiated => length.encode 0
  reader := do
    match ← length.reader with
    | 0 => pure .initiated
    | _ => Reader.fail .invalid
  reads := by
    rintro ⟨⟩ rest
    simp

def f32 : Codec F32 :=
  (Codec.word 4).refine F32.bits (fun bits => some ⟨bits⟩) fun _ => rfl

def f64 : Codec F64 :=
  (Codec.word 8).refine F64.bits (fun bits => some ⟨bits⟩) fun _ => rfl

def duration : Codec Duration :=
  (Codec.pair u64 u32).refine (fun value => (value.secs, value.nanos))
    (fun (secs, nanos) => some ⟨secs, nanos⟩) fun _ => rfl

def process : Codec Process :=
  (Codec.pair string (.pair f32 (.pair f64 (.pair .i64 string)))).refine
    (fun value => (value.user, value.cpuUsage, value.memUsage, value.startTime, value.command))
    (fun (user, cpuUsage, memUsage, startTime, command) =>
      some ⟨user, cpuUsage, memUsage, startTime, command⟩) fun _ => rfl

def resourceUsage : Codec ResourceUsage :=
  (Codec.pair f32 (.pair u64 (.pair u64 (.pair u64 u64)))).refine
    (fun value => (value.cpuUsage, value.totalMemory, value.usedMemory, value.diskUsedBytes,
      value.diskAvailableBytes))
    (fun (cpuUsage, totalMemory, usedMemory, diskUsedBytes, diskAvailableBytes) =>
      some ⟨cpuUsage, totalMemory, usedMemory, diskUsedBytes, diskAvailableBytes⟩) fun _ => rfl

def nodeObservationRequest : Codec NodeObservationRequest where
  encode
    | .processList => length.encode 0
    | .resourceUsage => length.encode 1
    | .uptime => length.encode 2
  reader := do
    match ← length.reader with
    | 0 => pure .processList
    | 1 => pure .resourceUsage
    | 2 => pure .uptime
    | _ => Reader.fail .invalid
  reads := by
    intro value rest
    cases value <;> simp

def nodeObservationResponse : Codec NodeObservationResponse where
  encode
    | .processList processes => length.encode 0 ++ (Codec.list process).encode processes
    | .resourceUsage hostname usage =>
        length.encode 1 ++ string.encode hostname ++ resourceUsage.encode usage
    | .uptime uptime => length.encode 2 ++ duration.encode uptime
  reader := do
    match ← length.reader with
    | 0 => do
        let processes ← (Codec.list process).reader
        pure (.processList processes)
    | 1 => do
        let hostname ← string.reader
        let usage ← resourceUsage.reader
        pure (.resourceUsage hostname usage)
    | 2 => do
        let uptime ← duration.reader
        pure (.uptime uptime)
    | _ => Reader.fail .invalid
  reads := by
    intro value rest
    cases value <;> simp

def socketAddr : Codec SocketAddr where
  encode addr :=
    match addr.ip with
    | .v4 bits => length.encode 0 ++ (Codec.octets 4).encode bits ++ u16.encode addr.port
    | .v6 bits => length.encode 1 ++ (Codec.octets 16).encode bits ++ u16.encode addr.port
  reader := do
    match ← length.reader with
    | 0 => do
        let bits ← (Codec.octets 4).reader
        let port ← u16.reader
        pure ⟨.v4 bits, port⟩
    | 1 => do
        let bits ← (Codec.octets 16).reader
        let port ← u16.reader
        pure ⟨.v6 bits, port⟩
    | _ => Reader.fail .invalid
  reads := by
    rintro ⟨ip, port⟩ rest
    cases ip <;> simp

/-- The nanoseconds as an `i128`; a number out of the range is refused. -/
def timestamp : Codec Timestamp where
  encode value := writeVarint (Codec.zigzag value.nanosecond)
  reader := do
    let n ← readVarint 254
    Reader.ofOption (Timestamp.fromNanosecond (Codec.unzigzag n))
  reads := by
    intro value rest
    have small : Codec.zigzag value.nanosecond < limit128 := by
      have lower := value.lower
      have upper := value.upper
      unfold Codec.zigzag limit128
      split
      · omega
      · omega
    rw [Reader.run_bind_ok (run_readVarint 254 _ rest (Codec.allows_u128 small)),
      Codec.unzigzag_zigzag, Timestamp.fromNanosecond_nanosecond]
    rfl

section sorted

variable {α : Type} (key : α → String)

/-- Puts an entry in its place, where it replaces one with the same key. -/
def insertBy (entry : α) : List α → List α
  | [] => [entry]
  | first :: rest =>
      if key entry < key first then entry :: first :: rest
      else if key entry = key first then entry :: rest
      else first :: insertBy entry rest

theorem mem_insertBy {entry other : α} {entries : List α}
    (member : other ∈ insertBy key entry entries) : other = entry ∨ other ∈ entries := by
  induction entries with
  | nil => exact .inl (List.mem_singleton.mp member)
  | cons first rest ih =>
      unfold insertBy at member
      split at member
      · exact List.mem_cons.mp member
      · split at member
        · rcases List.mem_cons.mp member with same | later
          · exact .inl same
          · exact .inr (List.mem_cons_of_mem _ later)
        · rcases List.mem_cons.mp member with same | later
          · exact .inr (List.mem_cons.mpr (.inl same))
          · rcases ih later with same | old
            · exact .inl same
            · exact .inr (List.mem_cons_of_mem _ old)

def Ascending (entries : List α) : Prop := (entries.map key).Pairwise (· < ·)

theorem ascending_cons {first : α} {rest : List α} :
    Ascending key (first :: rest) ↔ (∀ other ∈ rest, key first < key other) ∧
      Ascending key rest := by
  simp only [Ascending, List.map_cons, List.pairwise_cons, List.forall_mem_map]

theorem insertBy_ascending (entry : α) {entries : List α} (sorted : Ascending key entries) :
    Ascending key (insertBy key entry entries) := by
  induction entries with
  | nil => exact List.pairwise_singleton _ _
  | cons first rest ih =>
      obtain ⟨below, sorted'⟩ := (ascending_cons key).mp sorted
      unfold insertBy
      split
      · rename_i before
        refine (ascending_cons key).mpr ⟨?_, sorted⟩
        intro other member
        rcases List.mem_cons.mp member with rfl | later
        · exact before
        · exact String.lt_trans before (below other later)
      · rename_i notBefore
        split
        · rename_i same
          exact (ascending_cons key).mpr ⟨fun other member => same ▸ below other member, sorted'⟩
        · rename_i different
          refine (ascending_cons key).mpr ⟨?_, ih sorted'⟩
          intro other member
          rcases mem_insertBy key member with rfl | old
          · apply String.not_le.mp
            intro atMost
            exact different (String.le_antisymm atMost (String.not_lt.mp notBefore))
          · exact below other old

/-- The entries of a container that was filled in this order. -/
def insertAll (entries : List α) : List α :=
  entries.foldl (fun sorted entry => insertBy key entry sorted) []

theorem foldl_insertBy_ascending (entries sorted : List α) (start : Ascending key sorted) :
    Ascending key (entries.foldl (fun sorted entry => insertBy key entry sorted) sorted) := by
  induction entries generalizing sorted with
  | nil => exact start
  | cons first rest ih => exact ih _ (insertBy_ascending key first start)

theorem insertBy_last (entry : α) (entries : List α)
    (above : ∀ other ∈ entries, key other < key entry) :
    insertBy key entry entries = entries ++ [entry] := by
  induction entries with
  | nil => rfl
  | cons first rest ih =>
      have after := above first List.mem_cons_self
      have different : key entry ≠ key first := by
        intro same
        rw [same] at after
        exact String.lt_irrefl _ after
      rw [insertBy, if_neg (String.lt_asymm after), if_neg different,
        ih fun other member => above other (List.mem_cons_of_mem _ member)]
      rfl

theorem foldl_insertBy_of_ascending (entries sorted : List α)
    (whole : Ascending key (sorted ++ entries)) :
    entries.foldl (fun sorted entry => insertBy key entry sorted) sorted = sorted ++ entries := by
  induction entries generalizing sorted with
  | nil => exact (List.append_nil _).symm
  | cons first rest ih =>
      have above : ∀ other ∈ sorted, key other < key first := by
        intro other member
        rw [Ascending, List.map_append, List.pairwise_append] at whole
        exact whole.2.2 _ (List.mem_map_of_mem member) _ List.mem_cons_self
      rw [List.foldl_cons, insertBy_last key first sorted above, ih]
      · exact List.append_assoc _ _ _
      · rw [List.append_assoc]
        exact whole

end sorted

def stringSet : Codec StringSet :=
  string.list.refine StringSet.elements
    (fun elements => some ⟨insertAll id elements, by
      have sorted := foldl_insertBy_ascending id elements [] .nil
      rwa [Ascending, List.map_id] at sorted⟩) (by
      intro value
      have same := foldl_insertBy_of_ascending id value.elements [] (by
        rw [List.nil_append, Ascending, List.map_id]
        exact value.sorted)
      simp only [insertAll, same, List.nil_append])

def stringMap {V : Type} (codec : Codec V) : Codec (StringMap V) :=
  (string.pair codec).list.refine StringMap.entries
    (fun entries => some ⟨insertAll Prod.fst entries,
      foldl_insertBy_ascending Prod.fst entries [] .nil⟩) (by
      intro value
      have same := foldl_insertBy_of_ascending Prod.fst value.entries [] value.sorted
      simp only [insertAll, same, List.nil_append])

def packageIdentity : Codec PackageIdentity where
  encode value :=
    string.encode value.target ++ string.encode value.version ++ string.encode value.commit
  reader := do
    let target ← string.reader
    let version ← string.reader
    let commit ← string.reader
    pure ⟨target, version, commit⟩
  reads := by
    intro value rest
    simp

def boundAddr : Codec BoundAddr where
  encode value := string.encode value.name ++ string.encode value.addr
  reader := do
    let name ← string.reader
    let addr ← string.reader
    pure ⟨name, addr⟩
  reads := by
    intro value rest
    simp

def packageState : Codec PackageState where
  encode value :=
    string.encode value.version ++ string.encode value.commit ++
      lifecycle.encode value.lifecycle ++ boundAddr.list.encode value.boundAddrs ++
      string.option.encode value.privilegeProfile
  reader := do
    let version ← string.reader
    let commit ← string.reader
    let lifecycle ← lifecycle.reader
    let boundAddrs ← boundAddr.list.reader
    let privilegeProfile ← string.option.reader
    pure ⟨version, commit, lifecycle, boundAddrs, privilegeProfile⟩
  reads := by
    intro value rest
    simp

def installedPackage : Codec InstalledPackage where
  encode value :=
    string.encode value.target ++ u32.option.encode value.instanceNo ++
      packageState.encode value.state
  reader := do
    let target ← string.reader
    let instanceNo ← u32.option.reader
    let state ← packageState.reader
    pure ⟨target, instanceNo, state⟩
  reads := by
    intro value rest
    simp

def hostPort : Codec HostPort where
  encode value := transport.encode value.transport ++ u16.encode value.port
  reader := do
    let transport ← transport.reader
    let port ← u16.reader
    pure ⟨transport, port⟩
  reads := by
    intro value rest
    simp

def manifestFormatRange : Codec ManifestFormatRange where
  encode value := u32.encode value.min ++ u32.encode value.max
  reader := do
    let min ← u32.reader
    let max ← u32.reader
    pure ⟨min, max⟩
  reads := by
    intro value rest
    simp

def nodePackageError : Codec NodePackageError where
  encode
    | .targetMismatch expected found =>
        length.encode 0 ++ packageIdentity.encode expected ++ packageIdentity.encode found
    | .missingBootstrapMaterial => length.encode 1
    | .bootstrapMaterialExpired => length.encode 2
    | .insufficientDiskSpace filesystem required available =>
        length.encode 3 ++ string.encode filesystem ++ u64.encode required ++ u64.encode available
    | .staleTrustSet activeEpoch => length.encode 4 ++ u64.encode activeEpoch
    | .unsupportedManifestFormat activeEpoch supported =>
        length.encode 5 ++ u64.encode activeEpoch ++ manifestFormatRange.encode supported
    | .observationUnavailable => length.encode 6
    | .unmanagedInstancePresent => length.encode 7
    | .undeclaredPrivilegeProfile profile declared =>
        length.encode 8 ++ string.encode profile ++ string.list.encode declared
    | .unexpectedPrivilegeProfile profile => length.encode 9 ++ string.encode profile
    | .missingPrivilegeProfile => length.encode 10
  reader := do
    match ← length.reader with
    | 0 => do
        let expected ← packageIdentity.reader
        let found ← packageIdentity.reader
        pure (.targetMismatch expected found)
    | 1 => pure .missingBootstrapMaterial
    | 2 => pure .bootstrapMaterialExpired
    | 3 => do
        let filesystem ← string.reader
        let required ← u64.reader
        let available ← u64.reader
        pure (.insufficientDiskSpace filesystem required available)
    | 4 => do
        let activeEpoch ← u64.reader
        pure (.staleTrustSet activeEpoch)
    | 5 => do
        let activeEpoch ← u64.reader
        let supported ← manifestFormatRange.reader
        pure (.unsupportedManifestFormat activeEpoch supported)
    | 6 => pure .observationUnavailable
    | 7 => pure .unmanagedInstancePresent
    | 8 => do
        let profile ← string.reader
        let declared ← string.list.reader
        pure (.undeclaredPrivilegeProfile profile declared)
    | 9 => do
        let profile ← string.reader
        pure (.unexpectedPrivilegeProfile profile)
    | 10 => pure .missingPrivilegeProfile
    | _ => Reader.fail .invalid
  reads := by
    intro value rest
    cases value <;> simp

def nodePackageResponse : Codec NodePackageResponse where
  encode
    | .done => length.encode 0
    | .accepted => length.encode 1
    | .installed packages => length.encode 2 ++ installedPackage.list.encode packages
    | .state state => length.encode 3 ++ packageState.encode state
    | .failed error => length.encode 4 ++ nodePackageError.encode error
    | .trustActive activeEpoch => length.encode 5 ++ u64.encode activeEpoch
    | .hostPorts ports => length.encode 6 ++ hostPort.list.encode ports
  reader := do
    match ← length.reader with
    | 0 => pure .done
    | 1 => pure .accepted
    | 2 => do
        let packages ← installedPackage.list.reader
        pure (.installed packages)
    | 3 => do
        let state ← packageState.reader
        pure (.state state)
    | 4 => do
        let error ← nodePackageError.reader
        pure (.failed error)
    | 5 => do
        let activeEpoch ← u64.reader
        pure (.trustActive activeEpoch)
    | 6 => do
        let ports ← hostPort.list.reader
        pure (.hostPorts ports)
    | _ => Reader.fail .invalid
  reads := by
    intro value rest
    cases value <;> simp

def installPreflight : Codec InstallPreflight where
  encode
    | .proceed => length.encode 0
    | .alreadyApplied => length.encode 1
    | .insufficientDiskSpace filesystem required available =>
        length.encode 2 ++ string.encode filesystem ++ u64.encode required ++ u64.encode available
    | .bindAddrsOnUpdate => length.encode 3
    | .namespaceUnconfigured => length.encode 4
    | .enrollmentUnsupported => length.encode 5
    | .configTemplateOnUpdate => length.encode 6
    | .unknownConfigTemplate id => length.encode 7 ++ string.encode id
  reader := do
    match ← length.reader with
    | 0 => pure .proceed
    | 1 => pure .alreadyApplied
    | 2 => do
        let filesystem ← string.reader
        let required ← u64.reader
        let available ← u64.reader
        pure (.insufficientDiskSpace filesystem required available)
    | 3 => pure .bindAddrsOnUpdate
    | 4 => pure .namespaceUnconfigured
    | 5 => pure .enrollmentUnsupported
    | 6 => pure .configTemplateOnUpdate
    | 7 => do
        let id ← string.reader
        pure (.unknownConfigTemplate id)
    | _ => Reader.fail .invalid
  reads := by
    intro value rest
    cases value <;> simp

def bootstrapMaterial : Codec BootstrapMaterial where
  encode value :=
    string.encode value.roleId ++ string.encode value.wrappedSecretId ++
      Codec.bytes.encode value.caAnchor ++ timestamp.encode value.expiresAt ++
      Codec.bytes.encode value.bootstrapArtifact
  reader := do
    let roleId ← string.reader
    let wrappedSecretId ← string.reader
    let caAnchor ← Codec.bytes.reader
    let expiresAt ← timestamp.reader
    let bootstrapArtifact ← Codec.bytes.reader
    pure ⟨roleId, wrappedSecretId, caAnchor, expiresAt, bootstrapArtifact⟩
  reads := by
    intro value rest
    simp

def install : Codec Install where
  encode value :=
    string.encode value.target ++ u32.option.encode value.instanceNo ++
      string.encode value.version ++ string.encode value.commit ++ u64.encode value.size ++
      string.encode value.idempotencyKey ++
      bootstrapMaterial.option.encode value.bootstrapMaterial ++
      failurePolicy.encode value.onFailure ++
      (stringMap socketAddr).option.encode value.bindAddrs ++
      string.option.encode value.configTemplate ++ string.option.encode value.privilegeProfile
  reader := do
    let target ← string.reader
    let instanceNo ← u32.option.reader
    let version ← string.reader
    let commit ← string.reader
    let size ← u64.reader
    let idempotencyKey ← string.reader
    let bootstrapMaterial ← bootstrapMaterial.option.reader
    let onFailure ← failurePolicy.reader
    let bindAddrs ← (stringMap socketAddr).option.reader
    let configTemplate ← string.option.reader
    let privilegeProfile ← string.option.reader
    pure ⟨target, instanceNo, version, commit, size, idempotencyKey, bootstrapMaterial, onFailure,
      bindAddrs, configTemplate, privilegeProfile⟩
  reads := by
    intro value rest
    simp

def nodePackageRequest : Codec NodePackageRequest where
  encode
    | .install fields => length.encode 0 ++ install.encode fields
    | .remove target instanceNo idempotencyKey =>
        length.encode 1 ++ string.encode target ++ u32.option.encode instanceNo ++
          string.encode idempotencyKey
    | .listInstalled => length.encode 2
    | .status target instanceNo =>
        length.encode 3 ++ string.encode target ++ u32.option.encode instanceNo
    | .listHostPorts => length.encode 4
  reader := do
    match ← length.reader with
    | 0 => do
        let fields ← install.reader
        pure (.install fields)
    | 1 => do
        let target ← string.reader
        let instanceNo ← u32.option.reader
        let idempotencyKey ← string.reader
        pure (.remove target instanceNo idempotencyKey)
    | 2 => pure .listInstalled
    | 3 => do
        let target ← string.reader
        let instanceNo ← u32.option.reader
        pure (.status target instanceNo)
    | 4 => pure .listHostPorts
    | _ => Reader.fail .invalid
  reads := by
    intro value rest
    cases value <;> simp

/-- The number serde gives a variant is its place in the declaration. -/
def eventKindOfIndex (index : Nat) : Option EventKind :=
  if index < 41 then some (EventKind.ofNat index) else none

theorem ctorIdx_eventKind_lt (kind : EventKind) : kind.ctorIdx < 41 := by
  cases kind <;> decide

@[simp] theorem eventKindOfIndex_ctorIdx (kind : EventKind) :
    eventKindOfIndex kind.ctorIdx = some kind := by
  rw [eventKindOfIndex, if_pos (ctorIdx_eventKind_lt kind), EventKind.ofNat_ctorIdx]

def encodeEventMessage (event : EventMessage) : Bytes :=
  timestamp.encode event.time ++ writeVarint event.kind.ctorIdx ++
    writeVarint event.fields.length ++ event.fields

def readEventMessage : Reader EventMessage := do
  let time ← timestamp.reader
  let kind ← readVarint 252
  let kind ← Reader.ofOption (eventKindOfIndex kind)
  let size ← readVarint 253
  let fields ← Reader.byte.replicate size
  pure ⟨time, kind, fields⟩

theorem run_replicate_byte (values rest : Bytes) :
    (Reader.byte.replicate values.length).run (values ++ rest) = .ok (values, rest) := by
  have read := Codec.byte.run_replicate values rest
  rwa [show values.flatMap Codec.byte.encode = values from List.flatMap_singleton' values] at read

theorem run_readEventMessage (event : EventMessage) (rest : Bytes)
    (small : event.fields.length < limit64) :
    readEventMessage.run (encodeEventMessage event ++ rest) = .ok (event, rest) := by
  have index : event.kind.ctorIdx < limit32 := by
    have below := ctorIdx_eventKind_lt event.kind
    unfold limit32
    omega
  simp only [encodeEventMessage, List.append_assoc, readEventMessage, Codec.run_bind]
  rw [Reader.run_bind_ok (run_readVarint 252 _ _ (Codec.allows_u32 index)),
    eventKindOfIndex_ctorIdx]
  change (readVarint 253 >>= _).run _ = _
  rw [Reader.run_bind_ok (run_readVarint 253 _ _ (Codec.allows_u64 small)),
    Reader.run_bind_ok (run_replicate_byte event.fields rest)]
  rfl

/-- `Result<T, String>`. -/
def result {α : Type} (codec : Codec α) : Codec (Except String α) where
  encode
    | .ok value => length.encode 0 ++ codec.encode value
    | .error message => length.encode 1 ++ string.encode message
  reader := do
    match ← length.reader with
    | 0 => do
        let value ← codec.reader
        pure (.ok value)
    | 1 => do
        let message ← string.reader
        pure (.error message)
    | _ => Reader.fail .invalid
  reads := by
    intro value rest
    cases value <;> simp

/-- The encodings spelled out here, by type. -/
def codec : (ty : WireTy) → Option (Codec ty.denote)
  | .unit => some .unit
  | .str => some string
  | .bytes => some .bytes
  | .u32 => some u32
  | .i64 => some .i64
  | .option element => (codec element).map .option
  | .vec element => (codec element).map .list
  | .pair first second => do some (.pair (← codec first) (← codec second))
  | .result value => (codec value).map result
  | .nodePowerRequest => some nodePowerRequest
  | .nodePowerResponse => some nodePowerResponse
  | .process => some process
  | .resourceUsage => some resourceUsage
  | .nodeObservationRequest => some nodeObservationRequest
  | .nodeObservationResponse => some nodeObservationResponse
  | .nodePackageRequest => some nodePackageRequest
  | .nodePackageResponse => some nodePackageResponse
  | .installPreflight => some installPreflight
  | _ => none

/-- Bytes after the value are ignored, as `oinq` does. -/
def decode {α : Type} (codec : Codec α) (bytes : Bytes) : Except IoError α :=
  match codec.reader.run bytes with
  | .ok (value, _) => .ok value
  | .error _ => .error (.message .invalidData "undecodable")

/-- A serialization that is bincode's on every type spelled out here, and refuses the
others. -/
def bincode : Wire where
  encode ty value :=
    match codec ty with
    | some codec => codec.encode value
    | none => []
  decode ty bytes :=
    match codec ty with
    | some codec => decode codec bytes
    | none => .error (.message .invalidData "undecodable")
  shortRequest := .message .invalidData "truncated request code"
  debug _ := ""

theorem bincode_roundTrips {ty : WireTy} (covered : (codec ty).isSome) (value : ty.denote) :
    bincode.RoundTrips ty value := by
  obtain ⟨codec, spelled⟩ := Option.isSome_iff_exists.mp covered
  have read := codec.reads value []
  rw [List.append_nil] at read
  simp only [Wire.RoundTrips, bincode, spelled, decode, read]

end ReviewProtocol.Encoding
