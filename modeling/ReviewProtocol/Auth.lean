import ReviewProtocol.ProtocolError
import ReviewProtocol.ServiceId

set_option autoImplicit false

namespace ReviewProtocol

/-- The authenticated identity of a peer. -/
structure PeerContext where
  name : String
  subject : Option String
  fingerprint : Option String
deriving DecidableEq, Repr

namespace PeerContext

def new (name : String) : PeerContext := ⟨name, none, none⟩

def withSubject (peer : PeerContext) (subject : String) : PeerContext :=
  { peer with subject := some subject }

def withFingerprint (peer : PeerContext) (fingerprint : String) : PeerContext :=
  { peer with fingerprint := some fingerprint }

end PeerContext

structure PeerIdentity where
  name : String
  subject : Option String
  fingerprint : Option String
deriving DecidableEq, Repr

/-- `impl From<&PeerContext> for PeerIdentity`. -/
def PeerIdentity.ofPeerContext (peer : PeerContext) : PeerIdentity :=
  ⟨peer.name, peer.subject, peer.fingerprint⟩

inductive AgentKind where
  | agent
  | proxy
  | other (kind : String)
deriving DecidableEq, Repr

structure ProtocolMetadata where
  version : Option String
  capabilities : List String
deriving DecidableEq, Repr

/-- What an authorization policy may look at. The attributes are a hash map, by its
entries. -/
structure AuthorizationContext where
  peerIdentity : PeerIdentity
  agentKind : Option AgentKind
  roles : Option (List String)
  protocolMetadata : Option ProtocolMetadata
  attributes : Option (List (String × String))
deriving DecidableEq, Repr

namespace AuthorizationContext

def fromPeerContext (peer : PeerContext) : AuthorizationContext :=
  ⟨.ofPeerContext peer, none, none, none, none⟩

def fromAuthenticatedInputs (peer : PeerContext) (agentKind : Option AgentKind)
    (roles : Option (List String)) (protocolMetadata : Option ProtocolMetadata)
    (attributes : Option (List (String × String))) : AuthorizationContext :=
  ⟨.ofPeerContext peer, agentKind, roles, protocolMetadata, attributes⟩

def toPeerContext (context : AuthorizationContext) : PeerContext :=
  let peer := PeerContext.new context.peerIdentity.name
  let peer :=
    match context.peerIdentity.subject with
    | some subject => peer.withSubject subject
    | none => peer
  match context.peerIdentity.fingerprint with
  | some fingerprint => peer.withFingerprint fingerprint
  | none => peer

/-- Nothing of a peer's identity is lost or added on the way through a context. -/
theorem toPeerContext_fromAuthenticatedInputs (peer : PeerContext) (agentKind : Option AgentKind)
    (roles : Option (List String)) (protocolMetadata : Option ProtocolMetadata)
    (attributes : Option (List (String × String))) :
    (fromAuthenticatedInputs peer agentKind roles protocolMetadata attributes).toPeerContext =
      peer := by
  obtain ⟨name, subject, fingerprint⟩ := peer
  cases subject with
  | none => cases fingerprint <;> rfl
  | some subject => cases fingerprint <;> rfl

end AuthorizationContext

structure AuthorizationError where
  reason : String
deriving DecidableEq, Repr

namespace AuthorizationError

def kind (_ : AuthorizationError) : ProtocolErrorKind := .forbidden

def text (error : AuthorizationError) : String := s!"authorization denied: {error.reason}"

end AuthorizationError

/-- A policy with a state of its own, so that it may answer differently each time. -/
structure Authorizer (τ : Type) where
  authorize : PeerContext → ServiceId → τ → Except AuthorizationError Unit × τ

structure AuthorizerV2 (τ : Type) where
  authorizeWithContext : AuthorizationContext → ServiceId → τ → Except AuthorizationError Unit × τ

def noopAuthorizer : Authorizer Unit where
  authorize _ _ state := (.ok (), state)

/-- `AuthorizerV2Adapter::new`. -/
def Authorizer.adapted {τ : Type} (inner : Authorizer τ) : AuthorizerV2 τ where
  authorizeWithContext context service := inner.authorize context.toPeerContext service

/-- The same policy, keeping a record of the calls it answers. -/
def Authorizer.recorded {τ : Type} (inner : Authorizer τ) :
    Authorizer (τ × List (PeerContext × ServiceId)) where
  authorize peer service state :=
    ((inner.authorize peer service state.1).1,
      ((inner.authorize peer service state.1).2, state.2 ++ [(peer, service)]))

end ReviewProtocol
