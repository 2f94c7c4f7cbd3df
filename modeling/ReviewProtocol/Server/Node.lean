import ReviewProtocol.Lib.Mirror
import ReviewProtocol.Lib.Rewording
import ReviewProtocol.Schedule

set_option autoImplicit false

/- The `Node` handle of a connection. Its methods forward to the connection's; a reboot and a
shutdown are power requests of which no answer is kept. Each of them has a variant that asks
a policy first: if the policy says no the agent is none the wiser, and if it says yes the
command goes the way it goes without one. -/
namespace ReviewProtocol

open Framing (Bytes Act Party Duplex RecvStream SendStream)
open Framing.Act (Forgetful forgetful_pure forgetful_fail forgetful_emit forgetful_update
  forgetful_take forgetful_orFail forgetful_send forgetful_recv)

variable {σ τ α ι : Type}

namespace Server

/-- `server::notify_config_update`. -/
def notifyConfigUpdate (wire : Wire) : ManagerAct τ Unit := do
  let code := Client.RequestCode.updateConfig.discriminant
  openBi
  (do Act.orFail (.io none) (← Act.send (Framing.le32 code.toNat) (.requested code [])))
  recvResult wire .unit none

/-- Where nothing is written for a unit, this is `send_config_update_cmd` once more. -/
theorem notifyConfigUpdate_eq (wire : Wire) (nothing : wire.encode .unit () = []) :
    (notifyConfigUpdate wire : ManagerAct τ Unit) = sendConfigUpdateCmd wire := by
  simp only [notifyConfigUpdate, sendConfigUpdateCmd, sendRequest, sendRaw, nothing,
    Wire.requestFrame, List.append_nil]

namespace Node

/-- `Node::reboot`. -/
def reboot (wire : Wire) : ManagerAct τ Unit := do
  match ← nodePower wire .reboot with
  | .sent | .response _ => pure ()

def rebootAuthorized (wire : Wire) (peer : PeerContext) (authorizer : Authorizer τ) :
    ManagerAct τ Unit := do
  match ← nodePowerAuthorized wire .reboot peer authorizer with
  | .sent | .response _ => pure ()

def rebootWithContext (wire : Wire) (context : AuthorizationContext)
    (authorizer : AuthorizerV2 τ) : ManagerAct τ Unit := do
  match ← nodePowerWithContext wire .reboot context authorizer with
  | .sent | .response _ => pure ()

/-- `Node::shutdown`. -/
def shutdown (wire : Wire) : ManagerAct τ Unit := do
  match ← nodePower wire .shutdown with
  | .sent | .response _ => pure ()

def shutdownAuthorized (wire : Wire) (peer : PeerContext) (authorizer : Authorizer τ) :
    ManagerAct τ Unit := do
  match ← nodePowerAuthorized wire .shutdown peer authorizer with
  | .sent | .response _ => pure ()

def shutdownWithContext (wire : Wire) (context : AuthorizationContext)
    (authorizer : AuthorizerV2 τ) : ManagerAct τ Unit := do
  match ← nodePowerWithContext wire .shutdown context authorizer with
  | .sent | .response _ => pure ()

/-- A method of the handle, and its request. -/
inductive Command where
  | forward (call : ManagerCall)
  | reboot
  | shutdown

namespace Command

@[reducible] def Outcome : Command → Type
  | forward call => call.Outcome
  | reboot => Unit
  | shutdown => Unit

def serviceId : Command → ServiceId
  | forward call => call.serviceId
  | reboot => NodePowerRequest.reboot.serviceId
  | shutdown => NodePowerRequest.shutdown.serviceId

def plain (wire : Wire) : (command : Command) → ManagerAct τ command.Outcome
  | forward call => call.plain wire
  | reboot => Node.reboot wire
  | shutdown => Node.shutdown wire

def authorized (wire : Wire) : Gate τ → (command : Command) → ManagerAct τ command.Outcome
  | gate, forward call => call.authorized wire gate
  | .legacy peer authorizer, reboot => rebootAuthorized wire peer authorizer
  | .legacy peer authorizer, shutdown => shutdownAuthorized wire peer authorizer
  | .withContext context authorizer, reboot => rebootWithContext wire context authorizer
  | .withContext context authorizer, shutdown => shutdownWithContext wire context authorizer

/-- Nothing, when the method rejects its request. -/
def sending : (command : Command) → Option (Sending command.Outcome)
  | forward call => call.sending
  | reboot => some (.silent .nodePower .nodePowerRequest .reboot ())
  | shutdown => some (.silent .nodePower .nodePowerRequest .shutdown ())

theorem plain_eq (wire : Wire) (command : Command) {sending : Sending command.Outcome}
    (accepted : command.sending = some sending) :
    (command.plain wire : ManagerAct τ command.Outcome) = sending.perform wire := by
  have powered (req : NodePowerRequest) (w : Manager τ) :
      Act.andThen (Act.andThen ((sendRequestNoResponse wire .nodePower .nodePowerRequest req).run w)
        fun _ => pure NodePowerOutcome.sent) (fun outcome => match outcome with
          | .sent | .response _ => pure ()) =
      Act.andThen ((sendRequestNoResponse wire .nodePower .nodePowerRequest req).run w)
        fun _ => (pure () : ManagerAct τ Unit) := by
    rcases (sendRequestNoResponse wire .nodePower .nodePowerRequest req).run w with
      ⟨halt | value, w'⟩
    · rfl
    · rfl
  cases command with
  | forward call => exact call.plain_eq wire accepted
  | reboot =>
      cases accepted
      apply Act.ext
      funext w
      exact powered .reboot w
  | shutdown =>
      cases accepted
      apply Act.ext
      funext w
      exact powered .shutdown w

/-- A command asks for leave and goes the way of the one that asks nobody. -/
theorem authorized_eq (wire : Wire) (gate : Gate τ) (command : Command)
    {sending : Sending command.Outcome} (accepted : command.sending = some sending) :
    command.authorized wire gate =
      (do authorize command.serviceId (gate.ask command.serviceId); command.plain wire) := by
  have powered (service : ServiceId) (ask : τ → Except AuthorizationError Unit × τ)
      (next : ManagerAct τ NodePowerOutcome) (w : Manager τ) :
      Act.andThen (Act.andThen ((authorize service ask).run w) fun _ => next)
          (fun outcome => match outcome with | .sent | .response _ => pure ()) =
        Act.andThen ((authorize service ask).run w) fun _ => next >>= fun outcome =>
          match outcome with | .sent | .response _ => (pure () : ManagerAct τ Unit) := by
    rcases (authorize service ask).run w with ⟨halt | value, w'⟩
    · rfl
    · rfl
  cases command with
  | forward call => exact call.authorized_eq wire gate (ManagerCall.not_rejected accepted)
  | reboot =>
      apply Act.ext
      funext w
      cases gate with
      | legacy peer authorizer => exact powered _ (authorizer.authorize peer _) _ w
      | withContext context authorizer =>
          exact powered _ (authorizer.authorizeWithContext context _) _ w
  | shutdown =>
      apply Act.ext
      funext w
      cases gate with
      | legacy peer authorizer => exact powered _ (authorizer.authorize peer _) _ w
      | withContext context authorizer =>
          exact powered _ (authorizer.authorizeWithContext context _) _ w

/-- A policy of the first kind, adapted, is asked what it was asked before. -/
theorem authorized_adapted (wire : Wire) (context : AuthorizationContext)
    (authorizer : Authorizer τ) (command : Command) :
    command.authorized wire (.withContext context authorizer.adapted) =
      command.authorized wire (.legacy context.toPeerContext authorizer) := by
  cases command with
  | forward call => cases call <;> rfl
  | reboot => rfl
  | shutdown => rfl

end Command

end Node

section forgetful

variable (wire : Wire)

theorem openBi_forgetful : Forgetful (openBi : ManagerAct τ Unit) := by
  apply (forgetful_update _).bind
  intro refused
  cases refused with
  | none => exact forgetful_emit _
  | some error => exact forgetful_fail _

theorem sendRaw_forgetful (code : Client.RequestCode) (ty : WireTy) (payload : ty.denote) :
    Forgetful (sendRaw wire code ty payload : ManagerAct τ Unit) :=
  (forgetful_send _ _).bind fun sent => forgetful_orFail _ sent

theorem recvResult_forgetful (ty : WireTy) (context : Option String) :
    Forgetful (recvResult wire ty context : ManagerAct τ _) := by
  apply forgetful_recv.bind
  intro read
  cases read with
  | error error => exact forgetful_fail _
  | ok body =>
      dsimp only
      cases wire.decode (.result ty) body with
      | error error => exact forgetful_fail _
      | ok result => exact (forgetful_emit _).bind fun _ => forgetful_orFail _ result

theorem sendPackage_forgetful (size : Nat) : Forgetful (sendPackage size : ManagerAct τ _) := by
  apply Forgetful.loop
  intro remaining
  unfold sendPackageRound
  by_cases complete : remaining = 0
  · rw [if_pos complete]
    exact forgetful_pure _
  · rw [if_neg complete]
    apply Forgetful.bind
    · exact (forgetful_take _).bind fun result =>
        (forgetful_emit _).bind fun _ => forgetful_pure result
    · intro read
      split
      · exact forgetful_pure _
      · exact forgetful_pure _
      · apply (forgetful_send _ _).bind
        intro sent
        cases sent with
        | error error => exact forgetful_pure _
        | ok done => exact forgetful_pure _

theorem installExchange_forgetful (req : NodePackageRequest) (size : UInt64) :
    Forgetful (installExchange wire req size : ManagerAct τ _) := by
  apply openBi_forgetful.bind
  intro _
  apply (sendRaw_forgetful wire _ _ _).bind
  intro _
  apply (recvResult_forgetful wire _ _).bind
  intro verdict
  cases verdict with
  | proceed =>
      apply (sendPackage_forgetful size.toNat).bind
      intro streamed
      cases streamed with
      | error error => exact (forgetful_emit _).bind fun _ => forgetful_fail _
      | ok done => exact (recvResult_forgetful wire _ _).bind fun _ => forgetful_pure _
  | _ => exact forgetful_pure _

/-- A call goes no further than a no. -/
theorem run_authorize_no {service : ServiceId} {ask : τ → Except AuthorizationError Unit × τ}
    (next : ManagerAct τ α) (w : Manager τ) {error : AuthorizationError}
    (no : (ask w.state.policy).1 = .error error) :
    (do authorize service ask; next : ManagerAct τ α).run w =
      (.error (.failed (.denied error)),
        { w with
          state.policy := (ask w.state.policy).2
          log := w.log ++ [.authorized service (.error error)] }) := by
  rw [Act.run_bind, ManagerCall.run_authorize, no]
  rfl

theorem run_authorize_yes {service : ServiceId} {ask : τ → Except AuthorizationError Unit × τ}
    (next : ManagerAct τ α) (w : Manager τ) (yes : (ask w.state.policy).1 = .ok ()) :
    (do authorize service ask; next : ManagerAct τ α).run w =
      next.run
        { w with
          state.policy := (ask w.state.policy).2
          log := w.log ++ [.authorized service (.ok ())] } := by
  rw [Act.run_bind, ManagerCall.run_authorize, yes]
  rfl

/-- What a manager's call does is no matter of what it did before. -/
theorem Sending.perform_forgetful (sending : Sending α) :
    Forgetful (sending.perform wire : ManagerAct τ α) := by
  cases sending with
  | silent code ty payload value =>
      apply Forgetful.bind
      · exact openBi_forgetful.bind fun _ => (sendRaw_forgetful wire _ _ _).bind fun _ =>
          forgetful_emit _
      · intro _
        exact forgetful_pure _
  | single code ty payload ret wrap =>
      apply Forgetful.bind
      · exact openBi_forgetful.bind fun _ => (sendRaw_forgetful wire _ _ _).bind fun _ =>
          recvResult_forgetful wire _ _
      · intro _
        exact forgetful_pure _
  | install fields wrap =>
      exact (installExchange_forgetful wire _ _).bind fun _ => forgetful_pure _

end forgetful

end Server

/-- With nothing to read, the agent does nothing. -/
theorem Loop.run_nothing (wire : Wire) (loop : Loop σ) {w : Agent σ} (empty : w.recv.bytes = []) :
    ((loop.run wire).run w).2.log = w.log ∧ ((loop.run wire).run w).2.state = w.state := by
  rw [loop.run_eq_serve]
  show (((agentProtocol wire).serve (goOn (loop.arms wire))).run w).2.log = _ ∧
    (((agentProtocol wire).serve (goOn (loop.arms wire))).run w).2.state = _
  rcases (agentProtocol wire).serve_cases w with
    ⟨body, rest, request, bytes, -⟩ | ⟨error, rest, -, read⟩ | ⟨-, read⟩
  · have length := congrArg List.length (bytes.symm.trans empty)
    rw [List.length_append, Framing.length_frame, List.length_nil] at length
    omega
  · rw [read]
    exact ⟨rfl, rfl⟩
  · rw [read]
    exact ⟨rfl, rfl⟩

open Server (Opening ManagerEvent ApiError Manager)
open Server.Node (Command)

/-- A command that has not begun, the policy it asks, and an agent at the other end of the
stream it will open. -/
structure CommandStream (σ τ : Type) where
  command : Command
  gate : Server.Gate τ
  loop : Loop σ
  policy : τ
  state : σ
  refused : Option IoError
  managerSend : SendStream IoError
  agentSend : SendStream IoError

namespace CommandStream

variable (wire : Wire) (stream : CommandStream σ τ)

def near : Party (Opening τ) (Except IoError Bytes) ManagerEvent IoError ApiError
    stream.command.Outcome :=
  managerParty (stream.command.authorized wire stream.gate)

/-- The command that asks nobody. -/
def plain : Party (Opening τ) (Except IoError Bytes) ManagerEvent IoError ApiError
    stream.command.Outcome :=
  managerParty (stream.command.plain wire)

def far : Party σ Empty AgentEvent IoError HandlerError Unit := agentParty wire stream.loop

def start : Duplex (Opening τ) (Except IoError Bytes) ManagerEvent IoError σ AgentEvent IoError :=
  dialing stream.policy stream.refused stream.state stream.managerSend stream.agentSend

/-- What the policy says, and what it is left with. -/
def answer : Except AuthorizationError Unit × τ :=
  stream.gate.ask stream.command.serviceId stream.policy

/-- The manager's end once the policy has answered. -/
def asked : Manager τ :=
  { stream.start.near with state.policy := stream.answer.2 }

/-- What the command that asks nobody comes to on these deliveries. -/
def plainly
    (now : Duplex (Opening τ) (Except IoError Bytes) ManagerEvent IoError σ AgentEvent IoError) :
    Except (Framing.Halt ApiError) stream.command.Outcome × Manager τ :=
  (stream.command.plain wire).run (now.withNear stream.asked).near

/-- What becomes of a command that has to ask. -/
structure Decided
    (now : Duplex (Opening τ) (Except IoError Bytes) ManagerEvent IoError σ AgentEvent IoError) :
    Prop where
  rejected : stream.command.sending = none → ∃ text,
    (stream.command.authorized wire stream.gate).run now.near =
      (.error (.failed (.message text)), now.near)
  denied : stream.command.sending ≠ none → ∀ error, stream.answer.1 = .error error →
    (stream.command.authorized wire stream.gate).run now.near =
      (.error (.failed (.denied error)),
        { now.near with
          state.policy := stream.answer.2
          log := [.authorized stream.command.serviceId (.error error)] })
  untouched : stream.command.sending = none ∨ stream.answer.1 ≠ .ok () →
    now.far.recv.bytes = [] ∧ ((stream.loop.run wire).run now.far).2.log = [] ∧
    ((stream.loop.run wire).run now.far).2.state = stream.state
  allowed : stream.command.sending ≠ none → stream.answer.1 = .ok () →
    Duplex.Reachable (stream.plain wire) (stream.far wire) (stream.start.withNear stream.asked)
      (now.withNear stream.asked) ∧
    (stream.command.authorized wire stream.gate).run now.near =
      ((stream.plainly wire now).1,
        { (stream.plainly wire now).2 with
          log := .authorized stream.command.serviceId (.ok ()) ::
            (stream.plainly wire now).2.log })

variable {wire stream}

section run

variable (input : List (Except IoError Bytes)) (recv : RecvStream IoError)
  (accepted : stream.command.sending ≠ none)

include accepted

/-- After a no there is nothing else, whatever has reached the manager. -/
theorem run_denied {error : AuthorizationError} (no : stream.answer.1 = .error error) :
    (stream.command.authorized wire stream.gate).run { stream.start.near with input, recv } =
      (.error (.failed (.denied error)),
        { stream.asked with
          input, recv
          log := [.authorized stream.command.serviceId (.error error)] }) := by
  obtain ⟨sending, accepted⟩ := Option.ne_none_iff_exists'.mp accepted
  rw [stream.command.authorized_eq wire stream.gate accepted]
  exact Server.run_authorize_no _ _ no

/-- After a yes the manager does what it does without asking. -/
theorem run_allowed (yes : stream.answer.1 = .ok ()) :
    (stream.command.authorized wire stream.gate).run { stream.start.near with input, recv } =
      let plainly := (stream.command.plain wire).run { stream.asked with input, recv }
      (plainly.1,
        { plainly.2 with
          log := .authorized stream.command.serviceId (.ok ()) :: plainly.2.log }) := by
  obtain ⟨sending, accepted⟩ := Option.ne_none_iff_exists'.mp accepted
  have forgets : Forgetful (stream.command.plain wire : Server.ManagerAct τ _) := by
    rw [stream.command.plain_eq wire accepted]
    exact sending.perform_forgetful wire
  obtain ⟨added, grown, same⟩ := forgets { stream.asked with input, recv }
    [.authorized stream.command.serviceId (.ok ())]
  have grown : ((stream.command.plain wire).run { stream.asked with input, recv }).2.log =
    added := grown
  rw [stream.command.authorized_eq wire stream.gate accepted]
  apply (Server.run_authorize_yes _ _ yes).trans
  dsimp only
  rw [grown]
  exact same

end run

theorem run_rejected (unsent : stream.command.sending = none) (w : Manager τ) :
    ∃ text, (stream.command.authorized wire stream.gate).run w =
      (.error (.failed (.message text)), w) := by
  obtain ⟨command, gate, loop, policy, state, refused, managerSend, agentSend⟩ := stream
  cases command with
  | forward call => exact call.run_rejected wire gate (Server.ManagerCall.rejected unsent) w
  | reboot => cases unsent
  | shutdown => cases unsent

/-- Once it has leave, a command writes what it writes without. -/
theorem mirrors (accepted : stream.command.sending ≠ none) (yes : stream.answer.1 = .ok ()) :
    Duplex.Mirrors (stream.near wire) (stream.plain wire) stream.start.near stream.asked := by
  intro input recv
  show (stream.near wire).written
    ((stream.command.authorized wire stream.gate).run { stream.start.near with input, recv }).2.log
      = _
  rw [run_allowed input recv accepted yes]
  rfl

section reached

variable
  {now : Duplex (Opening τ) (Except IoError Bytes) ManagerEvent IoError σ AgentEvent IoError}
  (reachable : Duplex.Reachable (stream.near wire) (stream.far wire) stream.start now)

include reachable

/-- An agent to which nothing is written does nothing. -/
theorem untouched (unwritten : (stream.near wire).output now.near = []) :
    now.far.recv.bytes = [] ∧ ((stream.loop.run wire).run now.far).2.log = [] ∧
      ((stream.loop.run wire).run now.far).2.state = stream.state := by
  have arrived := (reachable.delivered rfl rfl).toFar
  rw [unwritten] at arrived
  have empty : now.far.recv.bytes = [] := List.prefix_nil.mp arrived
  obtain ⟨log, state⟩ := stream.loop.run_nothing wire empty
  have framed := reachable.frame.2
  refine ⟨empty, log.trans ?_, state.trans ?_⟩
  · rw [framed]
    rfl
  · rw [framed]
    rfl

theorem decided : stream.Decided wire now := by
  have framed := reachable.frame.1
  have denied (accepted : stream.command.sending ≠ none) {error : AuthorizationError}
      (no : stream.answer.1 = .error error) :
      (stream.command.authorized wire stream.gate).run now.near =
        (.error (.failed (.denied error)),
          { now.near with
            state.policy := stream.answer.2
            log := [.authorized stream.command.serviceId (.error error)] }) := by
    rw [framed]
    exact run_denied now.near.input now.near.recv accepted no
  refine ⟨fun unsent => run_rejected unsent now.near, fun accepted error => denied accepted, ?_, ?_⟩
  · intro turned
    apply untouched reachable
    by_cases accepted : stream.command.sending = none
    · obtain ⟨text, rejects⟩ := run_rejected accepted now.near
      show (stream.near wire).written
        ((stream.command.authorized wire stream.gate).run now.near).2.log = []
      rw [rejects, framed]
      rfl
    · cases verdict : stream.answer.1 with
      | ok done =>
          rcases turned with unsent | no
          · exact absurd unsent accepted
          · exact absurd verdict no
      | error error =>
          show (stream.near wire).written
            ((stream.command.authorized wire stream.gate).run now.near).2.log = []
          rw [denied accepted verdict]
          rfl
  · intro accepted yes
    refine ⟨reachable.mirror (mirrors accepted yes), ?_⟩
    rw [framed]
    exact run_allowed now.near.input now.near.recv accepted yes

end reached

end CommandStream

/-- Whatever else the connection carries, a command that asks a policy first is told no and
the agent is none the wiser; or it is told yes, and then the stream goes exactly the ways it
goes for the command that asks nobody, and the caller gets what it gets there. It does not
matter whether a policy of the first kind is asked as it is or adapted. -/
theorem commands_under_leave (wire : Wire) (streams : ι → CommandStream σ τ)
    (now : ι → Duplex (Opening τ) (Except IoError Bytes) ManagerEvent IoError σ AgentEvent IoError)
    (reaches : Duplex.ReachableAll (fun i => (streams i).near wire) (fun i => (streams i).far wire)
      (fun i => (streams i).start) now) :
    (∀ i, (streams i).Decided wire (now i)) ∧
    (∀ i, (streams i).command.sending ≠ none → (streams i).answer.1 = .ok () →
      ∀ later, Duplex.Reachable ((streams i).plain wire) ((streams i).far wire)
        ((streams i).start.withNear (streams i).asked) later →
      Duplex.Reachable ((streams i).near wire) ((streams i).far wire) (streams i).start
        (later.withNear (streams i).start.near)) ∧
    ∀ (command : Command) (context : AuthorizationContext) (authorizer : Authorizer τ),
      command.authorized wire (.withContext context authorizer.adapted) =
        command.authorized wire (.legacy context.toPeerContext authorizer) := by
  refine ⟨?_, ?_, ?_⟩
  · intro i
    exact CommandStream.decided (reaches.stream i)
  · intro i accepted yes later reachable
    exact reachable.mirror (CommandStream.mirrors accepted yes).symm
  · intro command context authorizer
    exact Command.authorized_adapted wire context authorizer command

/-- A reboot that a policy of the first kind allows. -/
def sampleReboot : CommandStream Unit Unit where
  command := .reboot
  gate := .legacy (.new "agent") noopAuthorizer
  loop := .handle eagerHandler
  policy := ()
  state := ()
  refused := none
  managerSend := .healthy (.simple .invalidInput)
  agentSend := .healthy (.simple .invalidInput)

/-- The request has arrived. -/
def sampleRebooting :
    Duplex (Opening Unit) (Except IoError Bytes) ManagerEvent IoError Unit AgentEvent IoError :=
  sampleReboot.start.deliverFar (sampleReboot.near Encoding.bincode)

theorem commands_under_leave_sample :
    calls ((sampleReboot.loop.run Encoding.bincode).run sampleRebooting.far).2.log =
      [.node (.nodePower .reboot)] ∧
    Duplex.Reachable (sampleReboot.plain Encoding.bincode) (sampleReboot.far Encoding.bincode)
      (sampleReboot.start.withNear sampleReboot.asked)
      (sampleRebooting.withNear sampleReboot.asked) := by
  have start : Duplex.Delivered (sampleReboot.near Encoding.bincode)
      (sampleReboot.far Encoding.bincode) sampleReboot.start :=
    Duplex.Reachable.delivered .refl rfl rfl
  have step : Duplex.StepAny (fun _ : Unit => sampleReboot.near Encoding.bincode)
      (fun _ => sampleReboot.far Encoding.bincode) (fun _ => sampleReboot.start)
      (fun _ => sampleRebooting) :=
    ⟨(), start.step_deliverFar rfl, fun _ other => absurd rfl other⟩
  obtain ⟨decided, -, -⟩ := commands_under_leave Encoding.bincode (fun _ : Unit => sampleReboot) _
    (.single step)
  refine ⟨rfl, ((decided ()).allowed ?_ rfl).1⟩
  intro unsent
  cases unsent

end ReviewProtocol
