import ReviewProtocol.Agent.Plan
import ReviewProtocol.Encoding
import ReviewProtocol.Server.Api
import ReviewProtocol.Server.Gate

set_option autoImplicit false

/- The node methods of a connection, by what they send and to whom they ask leave. -/
namespace ReviewProtocol.Server

open Framing (Bytes Act)
open Framing.Act (emit Within Logs)

variable {τ : Type}

/-- From `w` to `w'` the manager logged nothing but what is allowed, and asked nobody. -/
structure Only (allowed : ManagerEvent → Prop) (w w' : Manager τ) : Prop where
  state : w'.state = w.state
  log : Logs allowed w w'

section only

variable {allowed : ManagerEvent → Prop}

theorem Only.refl (w : Manager τ) : Only allowed w w := ⟨rfl, Logs.refl w⟩

theorem Only.trans (u v w : Manager τ) (early : Only allowed u v) (late : Only allowed v w) :
    Only allowed u w :=
  ⟨late.state.trans early.state, Logs.trans u v w early.log late.log⟩

theorem within_bind {α β : Type} {first : ManagerAct τ α} {next : α → ManagerAct τ β}
    (early : Within (Only allowed) first) (late : ∀ value, Within (Only allowed) (next value)) :
    Within (Only allowed) (first >>= next) :=
  Within.bind Only.trans early late

theorem within_pure {α : Type} (value : α) :
    Within (Only allowed) (pure value : ManagerAct τ α) := Only.refl

theorem within_fail {α : Type} (error : ApiError) :
    Within (Only allowed) (Act.fail error : ManagerAct τ α) := Only.refl

theorem within_orFail {Y α : Type} (wrap : Y → ApiError) (result : Except Y α) :
    Within (Only allowed) (Act.orFail wrap result : ManagerAct τ α) := by
  cases result with
  | ok value => exact Only.refl
  | error error => exact Only.refl

theorem within_emit {event : ManagerEvent} (permitted : allowed event) :
    Within (Only allowed) (emit event : ManagerAct τ Unit) :=
  fun _ => ⟨rfl, .one rfl permitted⟩

theorem within_send (body : Bytes) {event : ManagerEvent} (permitted : allowed event) :
    Within (Only allowed) (Act.send body event : ManagerAct τ _) := by
  intro w
  rcases Act.run_send_cases (ε := ApiError) body event w with ⟨-, sent⟩ | ⟨error, -, sent⟩
  · rw [sent]
    exact ⟨rfl, .one rfl permitted⟩
  · rw [sent]
    exact ⟨rfl, .none rfl⟩

theorem within_recv : Within (Only allowed) (Act.recv : ManagerAct τ _) := by
  intro w
  rcases Act.run_recv_cases (ε := ApiError) w with
    ⟨body, rest, -, -, read⟩ | ⟨error, -, read⟩ | ⟨-, read⟩
  · rw [read]
    exact ⟨rfl, .none rfl⟩
  · rw [read]
    exact ⟨rfl, .none rfl⟩
  · rw [read]
    exact ⟨rfl, .none rfl⟩

theorem within_openBi (opens : allowed .opened) :
    Within (Only allowed) (openBi : ManagerAct τ Unit) := by
  refine within_bind (fun _ => ⟨rfl, .none rfl⟩) ?_
  intro refused
  cases refused with
  | none => exact within_emit opens
  | some error => exact within_fail _

theorem within_sendRaw (wire : Wire) (code : Client.RequestCode) (ty : WireTy)
    (payload : ty.denote)
    (permitted : allowed (.requested code.discriminant (wire.encode ty payload))) :
    Within (Only allowed) (sendRaw wire code ty payload : ManagerAct τ Unit) :=
  within_bind (within_send _ permitted) (within_orFail _)

theorem within_recvResult (wire : Wire) (ty : WireTy) (context : Option String)
    (permitted : ∀ result, allowed (.received ty result)) :
    Within (Only allowed) (recvResult wire ty context : ManagerAct τ _) := by
  refine within_bind within_recv ?_
  intro frame
  cases frame with
  | error error => exact within_fail _
  | ok body =>
      dsimp only
      cases wire.decode (.result ty) body with
      | error error => exact within_fail _
      | ok result => exact within_bind (within_emit (permitted result)) fun _ => within_orFail _ _

theorem within_sendPackage (reads : ∀ result, allowed (.read result))
    (chunks : ∀ bytes, allowed (.chunk bytes)) (size : Nat) :
    Within (Only allowed) (sendPackage size : ManagerAct τ _) := by
  refine Within.loop Only.refl Only.trans ?_ size
  intro remaining w
  rcases sendPackageRound_cases size remaining w with
    ⟨-, done⟩ | ⟨-, -, waits⟩ | ⟨-, error, result, rest, -, quits⟩ |
      ⟨-, data, more, rest, -, -, -, -, sent⟩
  · rw [done]
    exact Only.refl w
  · rw [waits]
    exact Only.refl w
  · rw [quits]
    exact ⟨rfl, .one rfl (reads result)⟩
  · rcases sent with ⟨-, sent⟩ | ⟨error, -, sent⟩
    · rw [sent]
      refine ⟨rfl, _, rfl, ?_⟩
      intro event mem
      rcases List.mem_cons.mp mem with rfl | mem
      · exact reads _
      · rw [List.mem_singleton.mp mem]
        exact chunks data
    · rw [sent]
      exact ⟨rfl, .one rfl (reads _)⟩

theorem within_installExchange (wire : Wire) (req : NodePackageRequest) (size : UInt64)
    (unasked : ∀ event, (∀ service answer, event ≠ .authorized service answer) →
      (∀ code payload, event ≠ .requested code payload) → allowed event)
    (permitted : allowed (.requested Client.RequestCode.nodePackage.discriminant
      (wire.encode .nodePackageRequest req))) :
    Within (Only allowed) (installExchange wire req size : ManagerAct τ _) := by
  refine within_bind (within_openBi (unasked _ nofun nofun)) fun _ => ?_
  refine within_bind (within_sendRaw wire _ _ _ permitted) fun _ => ?_
  refine within_bind (within_recvResult wire _ _ fun _ => unasked _ nofun nofun) fun verdict => ?_
  cases verdict with
  | proceed =>
      refine within_bind (within_sendPackage (fun _ => unasked _ nofun nofun)
        (fun _ => unasked _ nofun nofun) _) fun result => ?_
      cases result with
      | error error =>
          exact within_bind (within_emit (unasked _ nofun nofun)) fun _ => within_fail _
      | ok done =>
          exact within_bind (within_recvResult wire _ _ fun _ => unasked _ nofun nofun)
            fun _ => within_pure _
  | _ => exact within_pure _

end only

/-- A node method and its request. -/
inductive ManagerCall where
  | nodeService (req : NodeServiceRequest)
  | nodeNetworkInterface (req : NodeNetworkInterfaceRequest)
  | nodeHostname (req : NodeHostnameRequest)
  | nodeTimeSync (req : NodeTimeSyncRequest)
  | nodeLogging (req : NodeLoggingRequest)
  | nodeRemoteAccess (req : NodeRemoteAccessRequest)
  | nodePower (req : NodePowerRequest)
  | nodeObservation (req : NodeObservationRequest)
  | nodeVersion (req : NodeVersionRequest)
  | nodePackage (req : NodePackageRequest)
  | nodePackageInstall (req : NodePackageRequest)
  | nodeEnroll (req : NodeEnrollRequest)

namespace ManagerCall

def code : ManagerCall → Client.RequestCode
  | nodeService _ => .nodeService
  | nodeNetworkInterface _ => .nodeNetworkInterface
  | nodeHostname _ => .nodeHostname
  | nodeTimeSync _ => .nodeTimeSync
  | nodeLogging _ => .nodeLogging
  | nodeRemoteAccess _ => .nodeRemoteAccess
  | nodePower _ => .nodePower
  | nodeObservation _ => .nodeObservation
  | nodeVersion _ => .nodeVersion
  | nodePackage _ => .nodePackage
  | nodePackageInstall _ => .nodePackage
  | nodeEnroll _ => .nodeEnroll

@[reducible] def ty : ManagerCall → WireTy
  | nodeService _ => .nodeServiceRequest
  | nodeNetworkInterface _ => .nodeNetworkInterfaceRequest
  | nodeHostname _ => .nodeHostnameRequest
  | nodeTimeSync _ => .nodeTimeSyncRequest
  | nodeLogging _ => .nodeLoggingRequest
  | nodeRemoteAccess _ => .nodeRemoteAccessRequest
  | nodePower _ => .nodePowerRequest
  | nodeObservation _ => .nodeObservationRequest
  | nodeVersion _ => .nodeVersionRequest
  | nodePackage _ => .nodePackageRequest
  | nodePackageInstall _ => .nodePackageRequest
  | nodeEnroll _ => .nodeEnrollRequest

def payload : (call : ManagerCall) → call.ty.denote
  | nodeService req => req
  | nodeNetworkInterface req => req
  | nodeHostname req => req
  | nodeTimeSync req => req
  | nodeLogging req => req
  | nodeRemoteAccess req => req
  | nodePower req => req
  | nodeObservation req => req
  | nodeVersion req => req
  | nodePackage req => req
  | nodePackageInstall req => req
  | nodeEnroll req => req

def serviceId : ManagerCall → ServiceId
  | nodeService req => req.serviceId
  | nodeNetworkInterface req => req.serviceId
  | nodeHostname req => req.serviceId
  | nodeTimeSync req => req.serviceId
  | nodeLogging req => req.serviceId
  | nodeRemoteAccess req => req.serviceId
  | nodePower req => req.serviceId
  | nodeObservation req => req.serviceId
  | nodeVersion req => req.serviceId
  | nodePackage req => req.serviceId
  | nodePackageInstall req => req.serviceId
  | nodeEnroll req => req.serviceId

@[reducible] def Outcome : ManagerCall → Type
  | nodeService _ => NodeServiceResponse
  | nodeNetworkInterface _ => NodeNetworkInterfaceResponse
  | nodeHostname _ => NodeHostnameResponse
  | nodeTimeSync _ => NodeTimeSyncResponse
  | nodeLogging _ => NodeLoggingResponse
  | nodeRemoteAccess _ => NodeRemoteAccessResponse
  | nodePower _ => NodePowerOutcome
  | nodeObservation _ => NodeObservationResponse
  | nodeVersion _ => NodeVersionResponse
  | nodePackage _ => NodePackageResponse
  | nodePackageInstall _ => InstallOutcome
  | nodeEnroll _ => NodeEnrollResponse

/-- An install handed to the unary method, or a unary request to the install method. -/
def Rejected : ManagerCall → Prop
  | nodePackage (.install _) => True
  | nodePackageInstall (.install _) => False
  | nodePackageInstall _ => True
  | _ => False

/-- The method that asks nobody. -/
def plain (wire : Wire) : (call : ManagerCall) → ManagerAct τ call.Outcome
  | nodeService req => Server.nodeService wire req
  | nodeNetworkInterface req => Server.nodeNetworkInterface wire req
  | nodeHostname req => Server.nodeHostname wire req
  | nodeTimeSync req => Server.nodeTimeSync wire req
  | nodeLogging req => Server.nodeLogging wire req
  | nodeRemoteAccess req => Server.nodeRemoteAccess wire req
  | nodePower req => Server.nodePower wire req
  | nodeObservation req => Server.nodeObservation wire req
  | nodeVersion req => Server.nodeVersion wire req
  | nodePackage req => Server.nodePackage wire req
  | nodePackageInstall req => Server.nodePackageInstall wire req
  | nodeEnroll req => Server.nodeEnroll wire req

/-- The method that asks first, in either version. -/
def authorized (wire : Wire) : Gate τ → (call : ManagerCall) → ManagerAct τ call.Outcome
  | .legacy peer authorizer, nodeService req => nodeServiceAuthorized wire req peer authorizer
  | .legacy peer authorizer, nodeNetworkInterface req =>
      nodeNetworkInterfaceAuthorized wire req peer authorizer
  | .legacy peer authorizer, nodeHostname req => nodeHostnameAuthorized wire req peer authorizer
  | .legacy peer authorizer, nodeTimeSync req => nodeTimeSyncAuthorized wire req peer authorizer
  | .legacy peer authorizer, nodeLogging req => nodeLoggingAuthorized wire req peer authorizer
  | .legacy peer authorizer, nodeRemoteAccess req =>
      nodeRemoteAccessAuthorized wire req peer authorizer
  | .legacy peer authorizer, nodePower req => nodePowerAuthorized wire req peer authorizer
  | .legacy peer authorizer, nodeObservation req =>
      nodeObservationAuthorized wire req peer authorizer
  | .legacy peer authorizer, nodeVersion req => nodeVersionAuthorized wire req peer authorizer
  | .legacy peer authorizer, nodePackage req => nodePackageAuthorized wire req peer authorizer
  | .legacy peer authorizer, nodePackageInstall req =>
      nodePackageInstallAuthorized wire req peer authorizer
  | .legacy peer authorizer, nodeEnroll req => nodeEnrollAuthorized wire req peer authorizer
  | .withContext context authorizer, nodeService req =>
      nodeServiceWithContext wire req context authorizer
  | .withContext context authorizer, nodeNetworkInterface req =>
      nodeNetworkInterfaceWithContext wire req context authorizer
  | .withContext context authorizer, nodeHostname req =>
      nodeHostnameWithContext wire req context authorizer
  | .withContext context authorizer, nodeTimeSync req =>
      nodeTimeSyncWithContext wire req context authorizer
  | .withContext context authorizer, nodeLogging req =>
      nodeLoggingWithContext wire req context authorizer
  | .withContext context authorizer, nodeRemoteAccess req =>
      nodeRemoteAccessWithContext wire req context authorizer
  | .withContext context authorizer, nodePower req =>
      nodePowerWithContext wire req context authorizer
  | .withContext context authorizer, nodeObservation req =>
      nodeObservationWithContext wire req context authorizer
  | .withContext context authorizer, nodeVersion req =>
      nodeVersionWithContext wire req context authorizer
  | .withContext context authorizer, nodePackage req =>
      nodePackageWithContext wire req context authorizer
  | .withContext context authorizer, nodePackageInstall req =>
      nodePackageInstallWithContext wire req context authorizer
  | .withContext context authorizer, nodeEnroll req =>
      nodeEnrollWithContext wire req context authorizer

/-- What a method may log once it has been allowed. -/
def Permits (wire : Wire) (call : ManagerCall) : ManagerEvent → Prop
  | .authorized _ _ => False
  | .requested code payload =>
      code = call.code.discriminant ∧ payload = wire.encode call.ty call.payload
  | _ => True

/-- Whom a method asks is all that sets it apart from the method that asks nobody. -/
theorem authorized_eq (wire : Wire) (gate : Gate τ) (call : ManagerCall)
    (accepted : ¬ call.Rejected) :
    call.authorized wire gate =
      (do authorize call.serviceId (gate.ask call.serviceId); call.plain wire) := by
  cases gate with
  | legacy peer authorizer =>
      cases call with
      | nodePackage req =>
          cases req with
          | install fields => exact absurd trivial accepted
          | _ => rfl
      | nodePackageInstall req =>
          cases req with
          | install fields => rfl
          | _ => exact absurd trivial accepted
      | _ => rfl
  | withContext context authorizer =>
      cases call with
      | nodePackage req =>
          cases req with
          | install fields => exact absurd trivial accepted
          | _ => rfl
      | nodePackageInstall req =>
          cases req with
          | install fields => rfl
          | _ => exact absurd trivial accepted
      | _ => rfl

/-- A rejected request gets nowhere. -/
theorem run_rejected (wire : Wire) (gate : Gate τ) (call : ManagerCall) (rejected : call.Rejected)
    (start : Manager τ) :
    ∃ text, (call.authorized wire gate).run start = (.error (.failed (.message text)), start) := by
  cases gate with
  | legacy peer authorizer =>
      cases call with
      | nodePackage req =>
          cases req with
          | install fields => exact ⟨_, rfl⟩
          | _ => exact absurd rejected not_false
      | nodePackageInstall req =>
          cases req with
          | install fields => exact absurd rejected not_false
          | _ => exact ⟨_, rfl⟩
      | _ => exact absurd rejected not_false
  | withContext context authorizer =>
      cases call with
      | nodePackage req =>
          cases req with
          | install fields => exact ⟨_, rfl⟩
          | _ => exact absurd rejected not_false
      | nodePackageInstall req =>
          cases req with
          | install fields => exact absurd rejected not_false
          | _ => exact ⟨_, rfl⟩
      | _ => exact absurd rejected not_false

/-- The agent takes the code for the request that was authorized. -/
theorem code_args (call : ManagerCall) : call.code.args = some call.ty := by
  cases call <;> rfl

theorem code_family (call : ManagerCall) :
    ∃ service, fromClientRequestCode call.code = some service ∧
      service.family = call.serviceId.family := by
  cases call with
  | _ req => refine ⟨_, rfl, ?_⟩; cases req <;> rfl

theorem permits_of_unasked (wire : Wire) (call : ManagerCall) (event : ManagerEvent)
    (asked : ∀ service answer, event ≠ .authorized service answer)
    (requested : ∀ code payload, event ≠ .requested code payload) : call.Permits wire event := by
  cases event with
  | authorized service answer => exact absurd rfl (asked service answer)
  | requested code payload => exact absurd rfl (requested code payload)
  | _ => trivial

theorem plain_within (wire : Wire) (call : ManagerCall) :
    Within (Only (call.Permits wire)) (call.plain wire : ManagerAct τ _) := by
  have sends (ret : WireTy) : Within (Only (call.Permits wire))
      (sendRequest wire call.code call.ty call.payload ret : ManagerAct τ _) :=
    within_bind (within_openBi trivial) fun _ =>
      within_bind (within_sendRaw wire _ _ _ ⟨rfl, rfl⟩) fun _ =>
        within_recvResult wire _ _ fun _ => trivial
  cases call with
  | nodePower req =>
      have notifies : Within (Only (Permits wire (nodePower req)))
          (sendRequestNoResponse wire .nodePower .nodePowerRequest req : ManagerAct τ _) :=
        within_bind (within_openBi trivial) fun _ =>
          within_bind (within_sendRaw wire _ _ _ ⟨rfl, rfl⟩) fun _ => within_emit trivial
      cases req with
      | reboot => exact within_bind notifies fun _ => within_pure _
      | shutdown => exact within_bind notifies fun _ => within_pure _
      | gracefulReboot => exact within_bind (sends _) fun _ => within_pure _
      | gracefulShutdown => exact within_bind (sends _) fun _ => within_pure _
  | nodePackage req =>
      refine within_bind ?_ fun _ => sends _
      cases req with
      | install fields => exact within_fail _
      | _ => exact within_pure _
  | nodePackageInstall req =>
      refine within_bind ?_ fun size =>
        within_installExchange wire req size (permits_of_unasked wire _) ⟨rfl, rfl⟩
      cases req with
      | install fields => exact within_pure _
      | _ => exact within_fail _
  | _ => exact sends _

/-- A call that asks once and before anything else, goes no further than a no, and then
sends what it asked about. -/
structure AsksFirst (wire : Wire) (gate : Gate τ) (call : ManagerCall) (start : Manager τ)
    (later : List ManagerEvent)
    (run : Except (Framing.Halt ApiError) call.Outcome × Manager τ) : Prop where
  log : run.2.log = start.log ++
    .authorized call.serviceId (gate.ask call.serviceId start.state.policy).1 :: later
  policy : run.2.state.policy = (gate.ask call.serviceId start.state.policy).2
  once : ∀ service answer, .authorized service answer ∉ later
  denied : ∀ error, (gate.ask call.serviceId start.state.policy).1 = .error error →
    later = [] ∧ run.1 = .error (.failed (.denied error)) ∧ run.2.input = start.input ∧
    run.2.recv = start.recv ∧ run.2.send = start.send
  sent : ∀ code payload, .requested code payload ∈ later →
    wire.splitRequest (Wire.requestFrame code payload) = .ok (code, payload) ∧
    (Client.RequestCode.fromPrimitive code).args = some call.ty ∧
    wire.decode call.ty payload = .ok call.payload ∧
    ∃ service, fromClientRequestCode (.fromPrimitive code) = some service ∧
      service.family = call.serviceId.family

/-- Asking goes on to the call, or ends it. -/
theorem run_authorize (service : ServiceId) (ask : τ → Except AuthorizationError Unit × τ)
    (w : Manager τ) :
    (authorize service ask).run w =
      (match (ask w.state.policy).1 with
        | .ok () => .ok ()
        | .error error => .error (.failed (.denied error)),
        { w with
          state.policy := (ask w.state.policy).2
          log := w.log ++ [.authorized service (ask w.state.policy).1] }) := by
  simp only [authorize, Act.run_bind, Act.update, emit, Act.andThen_ok]
  cases (ask w.state.policy).1 with
  | ok => rfl
  | error error => rfl

end ManagerCall

open ManagerCall in
/-- No method opens a stream, writes or reads the source before the authorizer said yes to
the request it then sends. -/
theorem authorized_call_gated (wire : Wire) (gate : Gate τ) (call : ManagerCall)
    (start : Manager τ) (lawful : wire.RoundTrips call.ty call.payload) :
    (call.Rejected → ∃ text, (call.authorized wire gate).run start =
      (.error (.failed (.message text)), start)) ∧
    (¬ call.Rejected → ∃ later,
      AsksFirst wire gate call start later ((call.authorized wire gate).run start)) := by
  refine ⟨fun rejected => run_rejected wire gate call rejected start, fun accepted => ?_⟩
  rw [authorized_eq wire gate call accepted, Act.run_bind, run_authorize]
  cases answer : (gate.ask call.serviceId start.state.policy).1 with
  | error error =>
      refine ⟨[], ?_⟩
      constructor
      · rw [answer]
        rfl
      · rfl
      · exact fun _ _ => List.not_mem_nil
      · intro denied same
        rw [answer] at same
        cases same
        exact ⟨rfl, rfl, rfl, rfl, rfl⟩
      · intro _ _ mem
        cases mem
  | ok =>
      rw [Act.andThen_ok]
      obtain ⟨state, later, log, permitted⟩ := call.plain_within wire
        { start with
          state.policy := (gate.ask call.serviceId start.state.policy).2
          log := start.log ++ [.authorized call.serviceId (.ok ())] }
      refine ⟨later, ?_⟩
      constructor
      · rw [log, answer, List.append_assoc, List.singleton_append]
      · rw [state]
      · intro service given mem
        exact permitted _ mem
      · intro error same
        rw [answer] at same
        cases same
      · intro code payload mem
        obtain ⟨rfl, rfl⟩ := permitted _ mem
        rw [Client.RequestCode.fromPrimitive_discriminant]
        exact ⟨wire.splitRequest_requestFrame _ _, call.code_args, lawful, call.code_family⟩

/-- A call about to start, on a connection that will open a healthy stream. -/
def freshCall (policy : τ) (source : Source) : Manager τ where
  state := ⟨policy, none⟩
  input := source
  recv := ⟨[], none⟩
  send := .healthy (.simple .invalidInput)
  log := []

theorem authorized_call_gated_reboot :
    ∃ later, ManagerCall.AsksFirst Encoding.bincode
      (.legacy (PeerContext.new "agent") noopAuthorizer) (.nodePower .reboot) (freshCall () [])
      later ((ManagerCall.authorized Encoding.bincode
        (.legacy (PeerContext.new "agent") noopAuthorizer) (.nodePower .reboot)).run
          (freshCall () [])) :=
  (authorized_call_gated Encoding.bincode _ (.nodePower .reboot) (freshCall () [])
    (Encoding.bincode_roundTrips rfl _)).2 not_false

end ReviewProtocol.Server
