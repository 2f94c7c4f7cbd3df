import ReviewProtocol.Admission
import ReviewProtocol.Client.Builder
import ReviewProtocol.Encoding

set_option autoImplicit false

/- The builder over any sequence of calls. What the manager learns of an agent is what the
builder was told last, whichever calls came between and whichever of them failed. -/
namespace ReviewProtocol

open Framing (Bytes Duplex SendStream)

variable {R Cert Key Anchor : Type}

theorem Encoding.insertAll_sorted (tags : List String) :
    (insertAll id tags).Pairwise (· < ·) := by
  have sorted := foldl_insertBy_ascending id tags [] .nil
  rw [Ascending, List.map_id] at sorted
  exact sorted

/-- `into_iter().map(Into::into).collect()`. -/
def StringSet.collect (tags : List String) : StringSet where
  elements := Encoding.insertAll id tags
  sorted := Encoding.insertAll_sorted tags

theorem Encoding.mem_insertBy_iff {entry other : String} {entries : List String} :
    other ∈ insertBy id entry entries ↔ other = entry ∨ other ∈ entries := by
  constructor
  · exact mem_insertBy id
  · induction entries with
    | nil =>
        intro member
        apply List.mem_singleton.mpr
        simpa only [List.not_mem_nil, or_false] using member
    | cons first rest ih =>
        intro member
        simp only [insertBy, id_eq]
        by_cases before : entry < first
        · rw [if_pos before]
          exact List.mem_cons.mpr member
        · rw [if_neg before]
          by_cases same : entry = first
          · rw [if_pos same, same]
            rcases member with rfl | member
            · rw [same]
              exact List.mem_cons_self
            · exact member
          · rw [if_neg same]
            rcases member with rfl | member
            · exact List.mem_cons_of_mem _ (ih (.inl rfl))
            · rcases List.mem_cons.mp member with rfl | later
              · exact List.mem_cons_self
              · exact List.mem_cons_of_mem _ (ih (.inr later))

/-- The set holds the tags that it was made of, and no other. -/
theorem StringSet.mem_collect (tags : List String) (tag : String) :
    tag ∈ (collect tags).elements ↔ tag ∈ tags := by
  have filled (sorted : List String) :
      tag ∈ tags.foldl (fun sorted entry => Encoding.insertBy id entry sorted) sorted ↔
        tag ∈ tags ∨ tag ∈ sorted := by
    induction tags generalizing sorted with
    | nil => simp
    | cons first rest ih =>
        rw [List.foldl_cons, ih, Encoding.mem_insertBy_iff, List.mem_cons]
        tauto
  show tag ∈ tags.foldl _ [] ↔ _
  rw [filled]
  simp

/-- A call on a builder. -/
inductive Setting (R : Type) where
  | capabilities (tags : List String)
  | activeTrustEpoch (epoch : UInt64)
  | manifestFormats (formats : ManifestFormatRange)
  | provisioningFingerprint (fingerprint : ProvisioningFingerprint)
  | auditHealth (health : AuditHealth)
  | cert (pem : Bytes)
  | key (pem : Bytes)
  | rootCerts (pems : List Bytes)
  | addRootCerts (rd : R)
  | localAddr (addr : IpAddr)

namespace Setting

def tags? : Setting R → Option (List String)
  | capabilities tags => some tags
  | _ => none

def epoch? : Setting R → Option UInt64
  | activeTrustEpoch epoch => some epoch
  | _ => none

def formats? : Setting R → Option ManifestFormatRange
  | manifestFormats formats => some formats
  | _ => none

def fingerprint? : Setting R → Option ProvisioningFingerprint
  | provisioningFingerprint fingerprint => some fingerprint
  | _ => none

def health? : Setting R → Option AuditHealth
  | auditHealth health => some health
  | _ => none

def local? : Setting R → Option IpAddr
  | localAddr addr => some addr
  | _ => none

/-- What the last call of its kind said. -/
def last {α : Type} (said : Setting R → Option α) (calls : List (Setting R)) : Option α :=
  (calls.filterMap said).getLast?

theorem last_cons {α : Type} (said : Setting R → Option α) (call : Setting R)
    (calls : List (Setting R)) : last said (call :: calls) = (last said calls).or (said call) := by
  unfold last
  cases first : said call with
  | none => rw [List.filterMap_cons_none first, Option.or_none]
  | some value =>
      rw [List.filterMap_cons_some first, List.getLast?_cons]
      cases (calls.filterMap said).getLast? with
      | none => rfl
      | some later => rfl

end Setting

namespace Tls

variable (tls : Tls R Cert Key Anchor)

/-- The chain of a text that `cert` accepts. -/
def chain? (pem : Bytes) : Option (List Cert) :=
  match collect (tls.certs (tls.cursor pem)) with
  | .error _ => none
  | .ok certs => if certs.isEmpty then none else some certs

/-- The key of a text that `key` accepts. -/
def key? (pem : Bytes) : Option Key :=
  match tls.privateKey (tls.cursor pem) with
  | .ok (some key) => some key
  | _ => none

/-- `ConnectionBuilder::new`. -/
def new (remoteName : String) (remoteAddr : SocketAddr)
    (agentName agentVersion protocolVersion : String) (status : Status) (cert key : Bytes) :
    Except IoError (TlsBuilder Cert Key Anchor) :=
  match collect (tls.certs (tls.cursor cert)) with
  | .error error => .error error
  | .ok certs =>
      if certs.isEmpty then .error noCertificate
      else
        match tls.privateKey (tls.cursor key) with
        | .error error => .error (.wrapped .invalidData error)
        | .ok none => .error noPrivateKey
        | .ok (some key) => .ok
          { agentName, agentVersion, protocolVersion, status
            capabilities := .empty
            activeTrustEpoch := none
            manifestFormats := none
            provisioningFingerprint := none
            auditHealth := none
            remoteName, remoteAddr
            localAddr :=
              match remoteAddr.ip with
              | .v6 _ => .v6 0
              | .v4 _ => .v4 0
            roots := []
            certs, key }

/-- One call on the builder. -/
def set (builder : TlsBuilder Cert Key Anchor) :
    Setting R → Except IoError Unit × TlsBuilder Cert Key Anchor
  | .capabilities tags => (.ok (), { builder with capabilities := .collect tags })
  | .activeTrustEpoch epoch => (.ok (), { builder with activeTrustEpoch := some epoch })
  | .manifestFormats formats => (.ok (), { builder with manifestFormats := some formats })
  | .provisioningFingerprint fingerprint =>
      (.ok (), { builder with provisioningFingerprint := some fingerprint })
  | .auditHealth health => (.ok (), { builder with auditHealth := some health })
  | .cert pem => tls.cert builder pem
  | .key pem => tls.key builder pem
  | .rootCerts pems => tls.rootCerts builder pems
  | .addRootCerts rd => tls.addRootCerts builder rd
  | .localAddr addr => (.ok (), { builder with localAddr := addr })

/-- The builder after these calls, whatever they returned. -/
def setAll (builder : TlsBuilder Cert Key Anchor) (calls : List (Setting R)) :
    TlsBuilder Cert Key Anchor :=
  calls.foldl (fun builder call => (tls.set builder call).2) builder

/-- What one call leaves in the trust store. -/
def store (roots : List Anchor) : Setting R → List Anchor
  | .rootCerts pems => tls.anchorsBefore (tls.itemsOf pems)
  | .addRootCerts rd => roots ++ tls.anchorsBefore (tls.certs rd)
  | _ => roots

/-- What a call says of the certificate chain, if it succeeds. -/
def chainSet? : Setting R → Option (List Cert)
  | .cert pem => tls.chain? pem
  | _ => none

/-- What a call says of the key, if it succeeds. -/
def keySet? : Setting R → Option Key
  | .key pem => tls.key? pem
  | _ => none

section fields

variable (builder : TlsBuilder Cert Key Anchor)

theorem cert_builder (pem : Bytes) :
    (tls.cert builder pem).2 = { builder with certs := (tls.chain? pem).getD builder.certs } := by
  unfold cert chain?
  rcases collect (tls.certs (tls.cursor pem)) with error | certs
  · rfl
  · dsimp only
    by_cases empty : certs.isEmpty = true
    · rw [if_pos empty, if_pos empty]
      rfl
    · rw [if_neg empty, if_neg empty]
      rfl

theorem key_builder (pem : Bytes) :
    (tls.key builder pem).2 = { builder with key := (tls.key? pem).getD builder.key } := by
  unfold key key?
  rcases tls.privateKey (tls.cursor pem) with error | _ | key
  · rfl
  · rfl
  · rfl

/-- What a call leaves, field by field. -/
theorem set_builder (call : Setting R) :
    (tls.set builder call).2 =
      { builder with
        capabilities := (call.tags?.map .collect).getD builder.capabilities
        activeTrustEpoch := call.epoch?.or builder.activeTrustEpoch
        manifestFormats := call.formats?.or builder.manifestFormats
        provisioningFingerprint := call.fingerprint?.or builder.provisioningFingerprint
        auditHealth := call.health?.or builder.auditHealth
        localAddr := call.local?.getD builder.localAddr
        roots := tls.store builder.roots call
        certs := (tls.chainSet? call).getD builder.certs
        key := (tls.keySet? call).getD builder.key } := by
  cases call with
  | cert pem => exact tls.cert_builder builder pem
  | key pem => exact tls.key_builder builder pem
  | rootCerts pems =>
      show (tls.rootCerts builder pems).2 = _
      rw [rootCerts, addPems_eq, addEach_builder]
      rfl
  | addRootCerts rd => exact tls.addEach_builder builder (tls.certs rd)
  | _ => rfl

end fields

/-- The builder after any calls, field by field. -/
theorem setAll_builder (builder : TlsBuilder Cert Key Anchor) (calls : List (Setting R)) :
    tls.setAll builder calls =
      { builder with
        capabilities := ((Setting.last Setting.tags? calls).map .collect).getD builder.capabilities
        activeTrustEpoch := (Setting.last Setting.epoch? calls).or builder.activeTrustEpoch
        manifestFormats := (Setting.last Setting.formats? calls).or builder.manifestFormats
        provisioningFingerprint :=
          (Setting.last Setting.fingerprint? calls).or builder.provisioningFingerprint
        auditHealth := (Setting.last Setting.health? calls).or builder.auditHealth
        localAddr := (Setting.last Setting.local? calls).getD builder.localAddr
        roots := calls.foldl tls.store builder.roots
        certs := (Setting.last tls.chainSet? calls).getD builder.certs
        key := (Setting.last tls.keySet? calls).getD builder.key } := by
  induction calls generalizing builder with
  | nil => rfl
  | cons call calls ih =>
      have later (α : Type) (late early : Option α) (before : α) :
          late.getD (early.getD before) = (late.or early).getD before := by
        cases late with
        | none => rfl
        | some value => rfl
      show tls.setAll (tls.set builder call).2 calls = _
      rw [ih, set_builder]
      simp only [Setting.last_cons, Option.or_assoc, Option.map_or, later, List.foldl_cons]

theorem chain?_ne_nil {pem : Bytes} {certs : List Cert} (found : tls.chain? pem = some certs) :
    certs ≠ [] := by
  unfold chain? at found
  split at found
  · cases found
  · split at found
    · cases found
    · rename_i read nonempty
      cases found
      intro empty
      exact nonempty (List.isEmpty_iff.mpr empty)

/-- A builder that `new` makes holds what its arguments say and reports nothing. -/
structure Fresh (remoteName : String) (remoteAddr : SocketAddr)
    (agentName agentVersion protocolVersion : String) (status : Status) (cert key : Bytes)
    (builder : TlsBuilder Cert Key Anchor) : Prop where
  certs : tls.chain? cert = some builder.certs
  key : tls.key? key = some builder.key
  same : builder =
    { agentName, agentVersion, protocolVersion, status, remoteName, remoteAddr
      capabilities := .empty
      activeTrustEpoch := none
      manifestFormats := none
      provisioningFingerprint := none
      auditHealth := none
      localAddr := (placeholderAddr remoteAddr).ip
      roots := []
      certs := builder.certs
      key := builder.key }

theorem new_fresh {remoteName : String} {remoteAddr : SocketAddr}
    {agentName agentVersion protocolVersion : String} {status : Status} {cert key : Bytes}
    {builder : TlsBuilder Cert Key Anchor}
    (made : tls.new remoteName remoteAddr agentName agentVersion protocolVersion status cert key =
      .ok builder) :
    tls.Fresh remoteName remoteAddr agentName agentVersion protocolVersion status cert key
      builder := by
  have unspecified : (match remoteAddr.ip with
      | .v6 _ => IpAddr.v6 0
      | .v4 _ => .v4 0) = (placeholderAddr remoteAddr).ip := by
    unfold placeholderAddr
    cases remoteAddr.ip with
    | v4 addr => rfl
    | v6 addr => rfl
  unfold new at made
  split at made
  · cases made
  · rename_i certs collected
    by_cases empty : certs.isEmpty = true
    · rw [if_pos empty] at made
      cases made
    · rw [if_neg empty] at made
      split at made
      · cases made
      · cases made
      · rename_i found read
        cases made
        refine ⟨?_, ?_, ?_⟩
        · simp only [chain?, collected, if_neg empty]
        · simp only [key?, read]
        · dsimp only
          rw [unspecified]

end Tls

/-- What a connection of this builder is made with. -/
structure Presents (tls : Tls R Cert Key Anchor) (remoteName : String) (remoteAddr : SocketAddr)
    (cert key : Bytes) (calls : List (Setting R)) (builder : TlsBuilder Cert Key Anchor) :
    Prop where
  named : builder.remoteName = remoteName
  remote : builder.remoteAddr = remoteAddr
  bound : builder.localAddr =
    (Setting.last Setting.local? calls).getD (placeholderAddr remoteAddr).ip
  chain : some builder.certs = Setting.last tls.chainSet? (.cert cert :: calls)
  chained : builder.certs ≠ []
  secret : some builder.key = Setting.last tls.keySet? (.key key :: calls)
  roots : builder.roots = calls.foldl tls.store []

/-- What the manager is told of an agent. -/
structure Reports (agentName agentVersion protocolVersion : String) (status : Status)
    (calls : List (Setting R)) (addr : SocketAddr) (info : AgentInfo) : Prop where
  agentName : info.agentName = agentName
  agentVersion : info.agentVersion = agentVersion
  protocolVersion : info.protocolVersion = protocolVersion
  status : info.status = status
  addr : info.addr = addr
  capabilities : ∀ tag, tag ∈ info.capabilities.elements ↔
    ∃ tags, Setting.last Setting.tags? calls = some tags ∧ tag ∈ tags
  activeTrustEpoch : info.activeTrustEpoch = Setting.last Setting.epoch? calls
  manifestFormats : info.manifestFormats = Setting.last Setting.formats? calls
  provisioningFingerprint : info.provisioningFingerprint = Setting.last Setting.fingerprint? calls
  auditHealth : info.auditHealth = Setting.last Setting.health? calls

section reported

variable {tls : Tls R Cert Key Anchor} {remoteName : String} {remoteAddr : SocketAddr}
  {agentName agentVersion protocolVersion : String} {status : Status} {cert key : Bytes}
  {builder : TlsBuilder Cert Key Anchor}
  (fresh : tls.Fresh remoteName remoteAddr agentName agentVersion protocolVersion status cert key
    builder) (calls : List (Setting R))

include fresh

theorem Tls.Fresh.presents :
    Presents tls remoteName remoteAddr cert key calls (tls.setAll builder calls) := by
  have after := tls.setAll_builder builder calls
  have nonempty : (tls.setAll builder calls).certs ≠ [] := by
    rw [after]
    have set : ∀ (later : List (Setting R)) certs,
        Setting.last tls.chainSet? later = some certs → certs ≠ [] := by
      intro later certs last
      obtain ⟨call, -, said⟩ := List.mem_filterMap.mp (List.mem_of_getLast? last)
      cases call with
      | cert pem => exact tls.chain?_ne_nil said
      | _ => cases said
    cases last : Setting.last tls.chainSet? calls with
    | none => exact tls.chain?_ne_nil fresh.certs
    | some certs => exact set calls certs last
  constructor
  case chained => exact nonempty
  case chain =>
    rw [after, Setting.last_cons]
    show _ = (Setting.last tls.chainSet? calls).or (tls.chain? cert)
    rw [fresh.certs]
    cases Setting.last tls.chainSet? calls <;> rfl
  case secret =>
    rw [after, Setting.last_cons]
    show _ = (Setting.last tls.keySet? calls).or (tls.key? key)
    rw [fresh.key]
    cases Setting.last tls.keySet? calls <;> rfl
  all_goals
    rw [after, fresh.same]

theorem Tls.Fresh.reports (addr placeholder : SocketAddr) :
    Reports agentName agentVersion protocolVersion status calls addr
      { (tls.setAll builder calls).agentInfo placeholder with addr := addr } := by
  rw [tls.setAll_builder builder calls, fresh.same]
  constructor
  case capabilities =>
    intro tag
    show tag ∈ (((Setting.last Setting.tags? calls).map StringSet.collect).getD
      StringSet.empty).elements ↔ _
    cases Setting.last Setting.tags? calls with
    | none =>
        constructor
        · intro member
          cases member
        · rintro ⟨tags, said, -⟩
          cases said
    | some tags =>
        simp only [Option.map_some, Option.getD_some, StringSet.mem_collect, Option.some.injEq,
          exists_eq_left']
  all_goals
    first
      | rfl
      | exact Option.or_none

end reported

/-- What the manager learns of an agent is what its builder was told last: the arguments of
`new`, each report by the last call that made it and otherwise none, and the manager's own
address, whatever other calls came between and failed. The certificate chain and the key are
those of the last call that accepted any, the chain is never empty, and the trust store holds
what the calls since it was last replaced have left in it. -/
theorem reported_as_set (tls : Tls R Cert Key Anchor) (remoteName : String)
    (remoteAddr : SocketAddr) (agentName agentVersion protocolVersion : String) (status : Status)
    (cert key : Bytes) (builder : TlsBuilder Cert Key Anchor)
    (made : tls.new remoteName remoteAddr agentName agentVersion protocolVersion status cert key =
      .ok builder) (calls : List (Setting R)) :
    Presents tls remoteName remoteAddr cert key calls (tls.setAll builder calls) ∧
    ∀ (crates : Crates) (addr : SocketAddr) (versionReqText highestText : String) (dial : Dial)
      (lost : Option ConnectionError) (agentSend managerSend : SendStream IoError)
      (now : Duplex Dial Empty ConnectEvent IoError (Option ConnectionError) HandshakeEvent
        IoError),
      Duplex.Reachable
        (agentHandshake crates (tls.setAll builder calls).toConnectionBuilder)
        (managerHandshake crates addr versionReqText highestText)
        (introducing dial lost agentSend managerSend) now →
      ∀ info, ((handshake crates addr versionReqText highestText).run now.far).1 = .ok info →
        Reports agentName agentVersion protocolVersion status calls addr info := by
  have fresh := tls.new_fresh made
  refine ⟨fresh.presents calls, ?_⟩
  intro crates addr versionReqText highestText dial lost agentSend managerSend now reachable info
    accepted
  have parsed : ∃ versionReq highest, crates.semver.parseReq versionReqText = .ok versionReq ∧
      crates.semver.parse highestText = .ok highest := by
    unfold handshake at accepted
    cases parsedReq : crates.semver.parseReq versionReqText with
    | error text =>
        rw [parsedReq] at accepted
        cases accepted
    | ok versionReq =>
        cases parsedHighest : crates.semver.parse highestText with
        | error text =>
            rw [parsedReq, parsedHighest] at accepted
            cases accepted
        | ok highest => exact ⟨versionReq, highest, rfl, rfl⟩
  obtain ⟨versionReq, highest, parsedReq, parsedHighest⟩ := parsed
  cases manager_judges reachable parsedReq parsedHighest with
  | unheard _ failed _ _ _ => exact absurd accepted (failed info)
  | unanswered error failed _ => cases failed.symm.trans accepted
  | answered _ _ verdict _ =>
      rw [accepted] at verdict
      unfold managerVerdict at verdict
      split at verdict
      · cases verdict
        exact fresh.reports calls addr _
      · cases verdict

/-- Texts that hold one certificate or key, themselves, or break off at once. -/
def wholeTls : Tls Bytes Bytes Bytes Bytes where
  cursor text := text
  certs
    | [] => [.error (.simple .invalidData)]
    | text => [.ok text]
  privateKey text := .ok (some text)
  anchor cert := .ok cert

/-- Two sets of tags, and a chain that breaks off in between. -/
def sampleCalls : List (Setting Bytes) :=
  [.capabilities ["node:enroll"], .cert [], .activeTrustEpoch 42,
    .capabilities ["registrar", "future:thing"], .activeTrustEpoch 43]

def wholeBuilder : TlsBuilder Bytes Bytes Bytes where
  agentName := "agent"
  agentVersion := "1.0.0"
  protocolVersion := "0.48.1"
  status := .ready
  capabilities := .empty
  activeTrustEpoch := none
  manifestFormats := none
  provisioningFingerprint := none
  auditHealth := none
  remoteName := "manager"
  remoteAddr := ⟨.v4 2130706433, 38390⟩
  localAddr := .v4 0
  roots := []
  certs := [[1]]
  key := [2]

/-- The introduction of an agent that was told all this has arrived. -/
def sampleIntroduced :
    Duplex Dial Empty ConnectEvent IoError (Option ConnectionError) HandshakeEvent IoError :=
  (introducing sampleDial none (.healthy (.simple .invalidInput))
    (.healthy (.simple .invalidInput))).deliverFar
      (agentHandshake sampleCrates (wholeTls.setAll wholeBuilder sampleCalls).toConnectionBuilder)

theorem reported_as_set_sample :
    ∃ info, ((handshake sampleCrates ⟨.v4 1, 2⟩ ">=0.48.0" "0.49.0").run
        sampleIntroduced.far).1 = .ok info ∧
      Reports "agent" "1.0.0" "0.48.1" .ready sampleCalls ⟨.v4 1, 2⟩ info ∧
      info.activeTrustEpoch = some 43 := by
  obtain ⟨-, learns⟩ := reported_as_set wholeTls "manager" ⟨.v4 2130706433, 38390⟩ "agent" "1.0.0"
    "0.48.1" .ready [1] [2] wholeBuilder rfl sampleCalls
  have accepted : ((handshake sampleCrates ⟨.v4 1, 2⟩ ">=0.48.0" "0.49.0").run
      sampleIntroduced.far).1 = .ok
        { introduction (wholeTls.setAll wholeBuilder sampleCalls).toConnectionBuilder sampleDial with
          addr := ⟨.v4 1, 2⟩ } := by
    decide +kernel
  have start : Duplex.Delivered
      (agentHandshake sampleCrates (wholeTls.setAll wholeBuilder sampleCalls).toConnectionBuilder)
      (managerHandshake sampleCrates ⟨.v4 1, 2⟩ ">=0.48.0" "0.49.0")
      (introducing sampleDial none (.healthy (.simple .invalidInput))
        (.healthy (.simple .invalidInput))) :=
    Duplex.Reachable.delivered .refl rfl rfl
  exact ⟨_, accepted, learns sampleCrates ⟨.v4 1, 2⟩ _ _ sampleDial none _ _ sampleIntroduced
    (.single (start.step_deliverFar rfl)) _ accepted, rfl⟩

end ReviewProtocol
