import ReviewProtocol.Server.Install

set_option autoImplicit false

/- Every method of a connection, by the request it writes and the responses it reads. -/
namespace ReviewProtocol.Server

open Framing (Bytes Act Halt)
open Framing.Act (emit)

variable {τ α : Type}

/-- What a method does: the request it writes, and what it makes of the responses. -/
inductive Sending (α : Type) where
  | silent (code : Client.RequestCode) (ty : WireTy) (payload : ty.denote) (value : α)
  | single (code : Client.RequestCode) (ty : WireTy) (payload : ty.denote) (ret : WireTy)
      (wrap : ret.denote → α)
  | install (fields : Install) (wrap : InstallOutcome → α)

namespace Sending

def perform (wire : Wire) : Sending α → ManagerAct τ α
  | silent code ty payload value => do
      sendRequestNoResponse wire code ty payload
      pure value
  | single code ty payload ret wrap => do
      let resp ← sendRequest wire code ty payload ret
      pure (wrap resp)
  | install fields wrap => do
      let outcome ← installExchange wire (.install fields) fields.size
      pure (wrap outcome)

def code : Sending α → Client.RequestCode
  | silent code _ _ _ => code
  | single code _ _ _ _ => code
  | install _ _ => .nodePackage

/-- The arguments as they are written. -/
def body (wire : Wire) : Sending α → Bytes
  | silent _ ty payload _ => wire.encode ty payload
  | single _ ty payload _ _ => wire.encode ty payload
  | install fields _ => wire.encode .nodePackageRequest (.install fields)

def pairing : Sending α → Pairing
  | silent _ _ _ _ => .silent
  | single _ _ _ _ _ => .single
  | install fields _ => .install fields

/-- What is sent and what may be answered comes back from the wire as it was. -/
def Lawful (wire : Wire) : Sending α → Prop
  | silent _ ty payload _ => wire.RoundTrips ty payload
  | single _ ty payload ret _ =>
      wire.RoundTrips ty payload ∧ ∀ result, wire.RoundTrips (.result ret) result
  | install fields _ =>
      wire.RoundTrips .nodePackageRequest (.install fields) ∧
        (∀ verdict, wire.RoundTrips (.result .installPreflight) verdict) ∧
        ∀ result, wire.RoundTrips (.result .nodePackageResponse) result

/-- What is sent comes back from the wire as it was. -/
def Spelled (wire : Wire) : Sending α → Prop
  | silent _ ty payload _ => wire.RoundTrips ty payload
  | single _ ty payload _ _ => wire.RoundTrips ty payload
  | install fields _ => wire.RoundTrips .nodePackageRequest (.install fields)

theorem Lawful.spelled {wire : Wire} {sending : Sending α} (lawful : sending.Lawful wire) :
    sending.Spelled wire := by
  cases sending with
  | silent code ty payload value => exact lawful
  | single code ty payload ret wrap => exact lawful.1
  | install fields wrap => exact lawful.1

theorem perform_single (wire : Wire) (code : Client.RequestCode) (ty : WireTy)
    (payload : ty.denote) (ret : WireTy) :
    ((single code ty payload ret id).perform wire : ManagerAct τ ret.denote) =
      sendRequest wire code ty payload ret :=
  Act.bind_pure _

end Sending

/-- A `send_*` method and its argument. -/
inductive FlatSend where
  | allowlist (list : HostNetworkGroup)
  | blocklist (list : HostNetworkGroup)
  | configUpdateCmd
  | deleteCustomerDataCmd (request : CustomerDataDeletionRequest)
  | trainModel (request : TrainModelRequest)
  | cloneModel (request : CloneModelRequest)
  | cancelRun (runId : UInt32)
  | runDetectorOnce (detectorId : Int32)
  | filteringRules (list : List TrafficFilterRule)
  | internalNetworkList (list : HostNetworkGroup)
  | ping
  | samplingPolicies (list : List SamplingPolicy)
  | torExitNodeList (list : List String)
  | trustedDomainList (list : List String)
  | trustedUserAgentList (list : List String)

def FlatSend.send (wire : Wire) : FlatSend → ManagerAct τ Unit
  | allowlist list => sendAllowlist wire list
  | blocklist list => sendBlocklist wire list
  | configUpdateCmd => sendConfigUpdateCmd wire
  | deleteCustomerDataCmd request => sendDeleteCustomerDataCmd wire request
  | trainModel request => sendTrainModel wire request
  | cloneModel request => sendCloneModel wire request
  | cancelRun runId => sendCancelRun wire runId
  | runDetectorOnce detectorId => sendRunDetectorOnce wire detectorId
  | filteringRules list => sendFilteringRules wire list
  | internalNetworkList list => sendInternalNetworkList wire list
  | ping => sendPing wire
  | samplingPolicies list => sendSamplingPolicies wire list
  | torExitNodeList list => sendTorExitNodeList wire list
  | trustedDomainList list => sendTrustedDomainList wire list
  | trustedUserAgentList list => sendTrustedUserAgentList wire list

def FlatSend.sending : FlatSend → Sending Unit
  | allowlist list => .single .allowlist .hostNetworkGroup list .unit id
  | blocklist list => .single .blocklist .hostNetworkGroup list .unit id
  | configUpdateCmd => .single .updateConfig .unit () .unit id
  | deleteCustomerDataCmd request =>
      .single .deleteCustomerData .customerDataDeletionRequest request .unit id
  | trainModel request => .single .trainModel .trainModelRequest request .unit id
  | cloneModel request => .single .cloneModel .cloneModelRequest request .unit id
  | cancelRun runId => .single .cancelRun .u32 runId .unit id
  | runDetectorOnce detectorId => .single .runDetectorOnce .i32 detectorId .unit id
  | filteringRules list => .single .reloadFilterRule (.vec .trafficFilterRule) list .unit id
  | internalNetworkList list => .single .internalNetworkList .hostNetworkGroup list .unit id
  | ping => .single .echoRequest .unit () .unit id
  | samplingPolicies list => .single .samplingPolicyList (.vec .samplingPolicy) list .unit id
  | torExitNodeList list => .single .torExitNodeList (.vec .str) list .unit id
  | trustedDomainList list => .single .trustedDomainList (.vec .str) list .unit id
  | trustedUserAgentList list => .single .trustedUserAgentList (.vec .str) list .unit id

/-- Nothing, when the method rejects its request. -/
def ManagerCall.sending : (call : ManagerCall) → Option (Sending call.Outcome)
  | nodeService req => some (.single .nodeService .nodeServiceRequest req .nodeServiceResponse id)
  | nodeNetworkInterface req =>
      some (.single .nodeNetworkInterface .nodeNetworkInterfaceRequest req
        .nodeNetworkInterfaceResponse id)
  | nodeHostname req =>
      some (.single .nodeHostname .nodeHostnameRequest req .nodeHostnameResponse id)
  | nodeTimeSync req =>
      some (.single .nodeTimeSync .nodeTimeSyncRequest req .nodeTimeSyncResponse id)
  | nodeLogging req => some (.single .nodeLogging .nodeLoggingRequest req .nodeLoggingResponse id)
  | nodeRemoteAccess req =>
      some (.single .nodeRemoteAccess .nodeRemoteAccessRequest req .nodeRemoteAccessResponse id)
  | nodePower req =>
      match req with
      | .reboot | .shutdown => some (.silent .nodePower .nodePowerRequest req .sent)
      | .gracefulReboot | .gracefulShutdown =>
          some (.single .nodePower .nodePowerRequest req .nodePowerResponse .response)
  | nodeObservation req =>
      some (.single .nodeObservation .nodeObservationRequest req .nodeObservationResponse id)
  | nodeVersion req => some (.single .nodeVersion .nodeVersionRequest req .nodeVersionResponse id)
  | nodePackage req =>
      match req with
      | .install _ => none
      | req => some (.single .nodePackage .nodePackageRequest req .nodePackageResponse id)
  | nodePackageInstall req =>
      match req with
      | .install fields => some (.install fields id)
      | _ => none
  | nodeEnroll req => some (.single .nodeEnroll .nodeEnrollRequest req .nodeEnrollResponse id)

/-- A method of a connection, as it is called. -/
inductive Method (τ : Type) where
  | flat (send : FlatSend)
  | node (call : ManagerCall)
  | asked (gate : Gate τ) (call : ManagerCall)

namespace Method

@[reducible] def Outcome : Method τ → Type
  | flat _ => Unit
  | node call => call.Outcome
  | asked _ call => call.Outcome

def act (wire : Wire) : (method : Method τ) → ManagerAct τ method.Outcome
  | flat send => send.send wire
  | node call => call.plain wire
  | asked gate call => call.authorized wire gate

def sending : (method : Method τ) → Option (Sending method.Outcome)
  | flat send => some send.sending
  | node call => call.sending
  | asked _ call => call.sending

/-- Whom a method asks before anything else. -/
def leave : Method τ → ManagerAct τ Unit
  | flat _ => pure ()
  | node _ => pure ()
  | asked gate call => authorize call.serviceId (gate.ask call.serviceId)

end Method

theorem FlatSend.send_eq (wire : Wire) (send : FlatSend) :
    (send.send wire : ManagerAct τ Unit) = send.sending.perform wire := by
  cases send <;> exact (Sending.perform_single wire _ _ _ _).symm

theorem ManagerCall.plain_eq (wire : Wire) (call : ManagerCall) {sending : Sending call.Outcome}
    (accepted : call.sending = some sending) :
    (call.plain wire : ManagerAct τ call.Outcome) = sending.perform wire := by
  cases call with
  | nodePower req =>
      cases req <;>
        (cases accepted
         rfl)
  | nodePackage req =>
      cases req with
      | install fields => cases accepted
      | _ =>
          cases accepted
          exact (Sending.perform_single wire _ _ _ _).symm
  | nodePackageInstall req =>
      cases req with
      | install fields =>
          cases accepted
          exact (Act.bind_pure (installExchange wire (.install fields) fields.size)).symm
      | _ => cases accepted
  | _ =>
      cases accepted
      exact (Sending.perform_single wire _ _ _ _).symm

theorem ManagerCall.not_rejected {call : ManagerCall} {sending : Sending call.Outcome}
    (accepted : call.sending = some sending) : ¬ call.Rejected := by
  intro rejected
  cases call with
  | nodePackage req =>
      cases req with
      | install fields => cases accepted
      | _ => cases rejected
  | nodePackageInstall req =>
      cases req with
      | install fields => cases rejected
      | _ => cases accepted
  | _ => cases rejected

/-- A method asks for leave and sends. -/
theorem Method.act_eq (wire : Wire) (method : Method τ) {sending : Sending method.Outcome}
    (accepted : method.sending = some sending) :
    method.act wire = (do method.leave; sending.perform wire) := by
  cases method with
  | flat send =>
      cases accepted
      exact send.send_eq wire
  | node call => exact call.plain_eq wire accepted
  | asked gate call =>
      show call.authorized wire gate = _
      rw [call.authorized_eq wire gate (ManagerCall.not_rejected accepted),
        call.plain_eq wire accepted]
      rfl

/-- Whom a method asks lets it pass. -/
def Method.Permitted (policy : τ) : Method τ → Prop
  | flat _ => True
  | node _ => True
  | asked gate call => (gate.ask call.serviceId policy).1 = .ok ()

/-- The authorizer's answers come before everything else, and after a no there is nothing
else. -/
theorem Method.run_act (wire : Wire) (method : Method τ) {sending : Sending method.Outcome}
    (accepted : method.sending = some sending) (w : Manager τ) :
    ∃ state events, (∀ event ∈ events, ∃ service answer, event = .authorized service answer) ∧
      ((¬ method.Permitted w.state.policy ∧ ∃ error, (method.act wire).run w =
        (.error (.failed error), { w with state, log := w.log ++ events })) ∨
      (state.refused = w.state.refused ∧ (method.act wire).run w =
        (sending.perform wire).run { w with state, log := w.log ++ events })) := by
  rw [method.act_eq wire accepted, Act.run_bind]
  have unasked (leave : method.leave = pure ()) :
      Act.andThen (method.leave.run w) (fun _ => sending.perform wire) =
        (sending.perform wire).run { w with log := w.log ++ [] } := by
    rw [leave, List.append_nil]
    rfl
  have none : ∀ event ∈ ([] : List ManagerEvent),
      ∃ service answer, event = .authorized service answer := by
    intro event mem
    cases mem
  cases method with
  | flat send => exact ⟨w.state, [], none, .inr ⟨rfl, unasked rfl⟩⟩
  | node call => exact ⟨w.state, [], none, .inr ⟨rfl, unasked rfl⟩⟩
  | asked gate call =>
      refine ⟨{ w.state with policy := (gate.ask call.serviceId w.state.policy).2 },
        [.authorized call.serviceId (gate.ask call.serviceId w.state.policy).1], ?_, ?_⟩
      · intro event mem
        exact ⟨_, _, List.mem_singleton.mp mem⟩
      · rw [Method.leave, ManagerCall.run_authorize]
        cases answer : (gate.ask call.serviceId w.state.policy).1 with
        | ok done => exact .inr ⟨rfl, rfl⟩
        | error error =>
            refine .inl ⟨?_, _, rfl⟩
            intro permitted
            cases answer.symm.trans permitted

/-! ### Responses -/

/-- The responses read, in order. -/
def answersRead (log : List ManagerEvent) : List ((ty : WireTy) × Except String ty.denote) :=
  log.filterMap fun
    | .received ty result => some ⟨ty, result⟩
    | _ => none

@[simp] theorem answersRead_append (first second : List ManagerEvent) :
    answersRead (first ++ second) = answersRead first ++ answersRead second := List.filterMap_append

/-- The call ended with what the agent answered, and not with a failure of its own. -/
def Concluded (outcome : Except (Halt ApiError) α) (log : List ManagerEvent) : Prop :=
  match outcome with
  | .ok _ => True
  | .error .pending => False
  | .error (.failed _) => ∃ ty text, ⟨ty, .error text⟩ ∈ answersRead log

/-- Everything a method can come to once it has leave. -/
inductive Sending.Runs (wire : Wire) (w : Manager τ) :
    Sending α → Except (Halt ApiError) α → Manager τ → Prop where
  | failed (sending : Sending α) (error : ApiError) (events : List ManagerEvent) (w' : Manager τ)
      (log : w'.log = w.log ++ events) (dials : ∀ event ∈ events, event.IsDial) :
      Runs wire w sending (.error (.failed error)) w'
  | silent (code : Client.RequestCode) (ty : WireTy) (payload : ty.denote) (value : α)
      (fits : (Wire.requestFrame code.discriminant (wire.encode ty payload)).length <
        Framing.frameLimit) :
      Runs wire w (.silent code ty payload value) (.ok value)
        { requesting code (wire.encode ty payload) w with
          log := (requesting code (wire.encode ty payload) w).log ++ [.finished] }
  | waiting (code : Client.RequestCode) (ty : WireTy) (payload : ty.denote) (ret : WireTy)
      (wrap : ret.denote → α)
      (fits : (Wire.requestFrame code.discriminant (wire.encode ty payload)).length <
        Framing.frameLimit) (waiting : w.recv.Waiting) :
      Runs wire w (.single code ty payload ret wrap) (.error .pending)
        (requesting code (wire.encode ty payload) w)
  | answered (code : Client.RequestCode) (ty : WireTy) (payload : ty.denote) (ret : WireTy)
      (wrap : ret.denote → α) (result : Except String ret.denote) (body rest : Bytes)
      (fits : (Wire.requestFrame code.discriminant (wire.encode ty payload)).length <
        Framing.frameLimit)
      (answer : NextResponse wire ret result w.recv.bytes body rest) :
      Runs wire w (.single code ty payload ret wrap) ((returned result).map wrap)
        { requesting code (wire.encode ty payload) w with
          recv.bytes := rest
          log := (requesting code (wire.encode ty payload) w).log ++ [.received ret result] }
  | install (fields : Install) (wrap : InstallOutcome → α)
      (outcome : Except (Halt ApiError) InstallOutcome) (w' : Manager τ)
      (transacts : Transacts wire (.install fields) fields.size.toNat w outcome w') :
      Runs wire w (.install fields wrap) (outcome.map wrap) w'

theorem Sending.perform_runs (wire : Wire) (sending : Sending α) (w : Manager τ) :
    Runs wire w sending ((sending.perform wire).run w).1 ((sending.perform wire).run w).2 := by
  cases sending with
  | silent code ty payload value =>
      have unfolded : ((Sending.silent code ty payload value).perform wire).run w =
        Act.andThen ((sendRequestNoResponse wire code ty payload).run w) fun _ => pure value := rfl
      rw [unfolded]
      rcases run_openBi_sendRaw wire code ty payload w (emit .finished) with
        ⟨fits, sent⟩ | ⟨error, events, send, -, stopped, opened⟩
      · rw [sendRequestNoResponse, sent]
        exact .silent code ty payload value fits
      · rw [sendRequestNoResponse, stopped]
        refine .failed _ error events _ rfl ?_
        intro event mem
        rw [opened event mem]
        trivial
  | single code ty payload ret wrap =>
      have unfolded : ((Sending.single code ty payload ret wrap).perform wire).run w =
        Act.andThen ((sendRequest wire code ty payload ret).run w) (pure ∘ wrap) := rfl
      rw [unfolded, Act.andThen_pure]
      rcases run_openBi_sendRaw wire code ty payload w (recvResult wire ret none) with
        ⟨fits, sent⟩ | ⟨error, events, send, -, stopped, opened⟩
      · rw [sendRequest, sent]
        rcases run_recvResult wire ret none (requesting code (wire.encode ty payload) w) with
          ⟨waiting, read⟩ | ⟨result, body, rest, answer, read⟩ | ⟨error, recv, -, read⟩
        · rw [read]
          exact .waiting code ty payload ret wrap fits waiting
        · rw [read]
          exact .answered code ty payload ret wrap result body rest fits answer
        · rw [read]
          refine .failed _ error [.opened, .requested code.discriminant (wire.encode ty payload)] _
            rfl ?_
          intro event mem
          simp only [List.mem_cons, List.not_mem_nil, or_false] at mem
          rcases mem with rfl | rfl
          · trivial
          · trivial
      · rw [sendRequest, stopped]
        refine .failed _ error events _ rfl ?_
        intro event mem
        rw [opened event mem]
        trivial
  | install fields wrap =>
      have ran : ((Sending.install fields wrap).perform wire).run w =
        Act.andThen ((installExchange wire (.install fields) fields.size).run w) (pure ∘ wrap) :=
          rfl
      rw [ran, Act.andThen_pure]
      exact .install fields wrap _ _
        (installExchange_transacts wire (.install fields) fields.size w)

end ReviewProtocol.Server
