import ReviewProtocol.Lib.Call
import ReviewProtocol.Lockstep

set_option autoImplicit false

/- Calls from the manager to agents: the handler method that is called is the one that the
method is for, with the argument that the caller gave, and its answer is what the caller
gets. -/
namespace ReviewProtocol

open Framing (Bytes Act RecvStream SendStream Halt Party Duplex frame Faithful Asked)
open Framing.Act (emit)
open Server (Manager ManagerAct ManagerEvent ApiError Opening Method Sending FlatSend ManagerCall
  answersRead)

variable {σ τ α : Type}

/-- What a method asks of an agent's handler. -/
inductive Errand (σ α : Type) where
  /-- These calls, for an answer that the method waits for. -/
  | asks (calls : List AgentCall) (ret : WireTy) (ask : σ → Except String ret.denote)
      (wrap : ret.denote → α)
  /-- A call whose answer the method does not wait for. -/
  | tells (call : AgentCall) (value : α)

namespace Errand

def calls : Errand σ α → List AgentCall
  | asks calls _ _ _ => calls
  | tells call _ => [call]

/-- What the caller gets: the handler's value, or an error with its text. -/
def answer (state : σ) : Errand σ α → Except (Halt ApiError) α
  | asks _ _ ask wrap => (Server.returned (ask state)).map wrap
  | tells _ value => .ok value

def Waits : Errand σ α → Prop
  | asks _ _ _ _ => True
  | tells _ _ => False

def response (wire : Wire) (state : σ) : Errand σ α → Option Bytes
  | asks _ ret ask _ => some (wire.encode (.result ret) (ask state))
  | tells _ _ => none

/-- The answer comes back from the wire as it was. -/
def Spelled (wire : Wire) (state : σ) : Errand σ α → Prop
  | asks _ ret ask _ => wire.RoundTrips (.result ret) (ask state)
  | tells _ _ => True

end Errand

/-- One call of a flat method. -/
def Handler.flatErrand (handler : Handler σ) (call : FlatCall) : Errand σ call.ret.denote :=
  .asks [.flat call] call.ret (fun state => (handler.flat call state).1) id

/-- One call of a node method. -/
def Handler.nodeErrand (handler : Handler σ) (call : NodeCall) : Errand σ call.ret.denote :=
  .asks [.node call] call.ret (fun state => (handler.node call state).1) id

/-- The handler method that each `send_*` method is for. -/
def FlatSend.errand (handler : Handler σ) : FlatSend → Errand σ Unit
  | .allowlist list => handler.flatErrand (.allowlist list)
  | .blocklist list => handler.flatErrand (.blocklist list)
  | .configUpdateCmd => handler.flatErrand .updateConfig
  | .deleteCustomerDataCmd request => handler.flatErrand (.deleteCustomerData request)
  | .trainModel request => handler.flatErrand (.trainModel request)
  | .cloneModel request => handler.flatErrand (.cloneModel request)
  | .cancelRun runId => handler.flatErrand (.cancelRun runId)
  | .runDetectorOnce detectorId => handler.flatErrand (.runDetectorOnce detectorId)
  | .filteringRules list => handler.flatErrand (.updateTrafficFilterRules list)
  | .internalNetworkList list => handler.flatErrand (.internalNetworkList list)
  | .ping => .asks [] .unit (fun _ => .ok ()) id
  | .samplingPolicies list => handler.flatErrand (.samplingPolicyList list)
  | .torExitNodeList list => handler.flatErrand (.torExitNodeList list)
  | .trustedDomainList list => handler.flatErrand (.trustedDomainList list)
  | .trustedUserAgentList list => handler.flatErrand (.trustedUserAgentList list)

/-- The handler method that each unary `node_*` method is for. A package to install is
nothing for a unary method. -/
def ManagerCall.errand (handler : Handler σ) :
    (call : ManagerCall) → Option (Errand σ call.Outcome)
  | .nodeService req => some (handler.nodeErrand (.nodeService req))
  | .nodeNetworkInterface req => some (handler.nodeErrand (.nodeNetworkInterface req))
  | .nodeHostname req => some (handler.nodeErrand (.nodeHostname req))
  | .nodeTimeSync req => some (handler.nodeErrand (.nodeTimeSync req))
  | .nodeLogging req => some (handler.nodeErrand (.nodeLogging req))
  | .nodeRemoteAccess req => some (handler.nodeErrand (.nodeRemoteAccess req))
  | .nodePower .reboot => some (.tells (.node (.nodePower .reboot)) .sent)
  | .nodePower .shutdown => some (.tells (.node (.nodePower .shutdown)) .sent)
  | .nodePower req => some (.asks [.node (.nodePower req)] .nodePowerResponse
      (fun state => (handler.node (.nodePower req) state).1) .response)
  | .nodeObservation req => some (handler.nodeErrand (.nodeObservation req))
  | .nodeVersion req => some (handler.nodeErrand (.nodeVersion req))
  | .nodePackage (.install _) => none
  | .nodePackage req => some (handler.nodeErrand (.nodePackage req))
  | .nodePackageInstall _ => none
  | .nodeEnroll req => some (handler.nodeErrand (.nodeEnroll req))

def Method.errand (handler : Handler σ) :
    (method : Method τ) → Option (Errand σ method.Outcome)
  | .flat send => some (FlatSend.errand handler send)
  | .node call => ManagerCall.errand handler call
  | .asked _ call => ManagerCall.errand handler call

/-- What is sent, what the agent does about it and what that is to the caller. -/
inductive Fulfils : Sending α → Plan σ → Errand σ α → Prop where
  | told (code : Client.RequestCode) (ty : WireTy) (payload : ty.denote) (value : α)
      (call : AgentCall) (ask : σ → σ) :
      Fulfils (.silent code ty payload value) (.silent call ask) (.tells call value)
  | asked (code : Client.RequestCode) (ty : WireTy) (payload : ty.denote) (ret : WireTy)
      (wrap : ret.denote → α) (call : AgentCall) (ask : σ → Except String ret.denote × σ) :
      Fulfils (.single code ty payload ret wrap) (.unary call ret ask)
        (.asks [call] ret (fun state => (ask state).1) wrap)
  | greeted (code : Client.RequestCode) (ty : WireTy) (payload : ty.denote) (ret : WireTy)
      (wrap : ret.denote → α) (result : Except String ret.denote) :
      Fulfils (.single code ty payload ret wrap) (.answer ret result)
        (.asks [] ret (fun _ => result) wrap)

theorem FlatSend.fulfils (handler : Handler σ) (send : FlatSend) :
    Fulfils send.sending (FlatSend.plan handler send) (FlatSend.errand handler send) := by
  cases send with
  | ping => exact .greeted _ _ _ _ _ _
  | _ => exact .asked _ _ _ _ _ _ _

theorem ManagerCall.fulfils (handler : Handler σ) (call : ManagerCall)
    {errand : Errand σ call.Outcome} (unary : ManagerCall.errand handler call = some errand) :
    ∃ sending, call.sending = some sending ∧
      Fulfils sending (ManagerCall.plan handler call) errand := by
  cases call with
  | nodePower req =>
      cases req with
      | reboot =>
          cases unary
          exact ⟨_, rfl, .told _ _ _ _ _ _⟩
      | shutdown =>
          cases unary
          exact ⟨_, rfl, .told _ _ _ _ _ _⟩
      | gracefulReboot =>
          cases unary
          exact ⟨_, rfl, .asked _ _ _ _ _ _ _⟩
      | gracefulShutdown =>
          cases unary
          exact ⟨_, rfl, .asked _ _ _ _ _ _ _⟩
  | nodePackage req =>
      cases req with
      | install fields => cases unary
      | _ =>
          cases unary
          exact ⟨_, rfl, .asked _ _ _ _ _ _ _⟩
  | nodePackageInstall req => cases unary
  | _ =>
      cases unary
      exact ⟨_, rfl, .asked _ _ _ _ _ _ _⟩

theorem Method.fulfils (handler : Handler σ) (method : Method τ)
    {errand : Errand σ method.Outcome} (unary : Method.errand handler method = some errand) :
    ∃ sending, method.sending = some sending ∧
      Fulfils sending (Method.plan handler method) errand := by
  cases method with
  | flat send =>
      cases unary
      exact ⟨_, rfl, FlatSend.fulfils handler send⟩
  | node call => exact ManagerCall.fulfils handler call unary
  | asked gate call => exact ManagerCall.fulfils handler call unary

/-- The agent's transport takes what it answers with. -/
def Taken (body : Option Bytes) (w : Agent σ) : Prop :=
  ∀ response ∈ body, w.send.outcome w.send.attempts response = none

theorem sendResponse_log (wire : Wire) (ty : WireTy) (result : Except String ty.denote)
    (w : Agent σ) :
    (w.send.outcome w.send.attempts (wire.encode (.result ty) result) = none ∧
      ((sendResponse wire ty result).run w).2.log = w.log ++ [.replied ty result]) ∨
    (w.send.outcome w.send.attempts (wire.encode (.result ty) result) ≠ none ∧
      ((sendResponse wire ty result).run w).2.log = w.log) := by
  have unfolded : (sendResponse wire ty result).run w = Act.andThen
      ((Act.send (wire.encode (.result ty) result) (AgentEvent.replied ty result) :
        AgentAct σ _).run w) (Act.orFail .sendError) := rfl
  rw [unfolded]
  rcases Act.run_send_cases (ε := HandlerError) (wire.encode (.result ty) result)
    (AgentEvent.replied ty result) w with ⟨taken, sent⟩ | ⟨error, lost, sent⟩
  · rw [sent]
    exact .inl ⟨taken, rfl⟩
  · rw [sent]
    refine .inr ⟨?_, rfl⟩
    intro taken
    rw [lost] at taken
    cases taken

/-- An errand is run: its calls are made and its answer is written, unless that fails. -/
theorem Fulfils.performed (wire : Wire) {sending : Sending α} {plan : Plan σ}
    {errand : Errand σ α} (fulfils : Fulfils sending plan errand) (handler : NodeHandler σ)
    (loop : Loop σ) (code : UInt32) (w : Agent σ) :
    (Taken (errand.response wire w.state) w ∧
      ∃ replies, ((plan.perform wire handler code).run w).2.log =
          w.log ++ errand.calls.map .called ++ replies ∧ calls replies = [] ∧
        (agentParty wire loop).written replies =
          (errand.response wire w.state).elim [] frame) ∨
    (¬ Taken (errand.response wire w.state) w ∧
      ((plan.perform wire handler code).run w).2.log = w.log ++ errand.calls.map .called) := by
  cases fulfils with
  | told _ ty payload value call ask =>
      left
      refine ⟨?_, [], (List.append_nil _).symm, rfl, rfl⟩
      intro response mem
      cases mem
  | asked _ ty payload ret wrap call ask =>
      have unfolded : ((Plan.unary call ret ask).perform wire handler code).run w =
        (sendResponse wire ret (ask w.state).1).run
          (ReviewProtocol.asked w call (ask w.state).2) := rfl
      rw [unfolded]
      rcases sendResponse_log wire ret (ask w.state).1
        (ReviewProtocol.asked w call (ask w.state).2) with ⟨taken, log⟩ | ⟨lost, log⟩
      · left
        refine ⟨?_, [.replied ret (ask w.state).1], log, rfl, List.append_nil _⟩
        intro response same
        rw [← Option.mem_some.mp same]
        exact taken
      · right
        refine ⟨?_, log⟩
        intro taken
        exact lost (taken _ rfl)
  | greeted _ ty payload ret wrap result =>
      rcases sendResponse_log wire ret result w with ⟨taken, log⟩ | ⟨lost, log⟩
      · left
        refine ⟨?_, [.replied ret result], ?_, rfl, List.append_nil _⟩
        · intro response same
          rw [← Option.mem_some.mp same]
          exact taken
        · simp only [Errand.calls, List.map_nil, List.append_nil]
          exact log
      · right
        refine ⟨?_, log.trans (List.append_nil _).symm⟩
        intro taken
        exact lost (taken _ rfl)

theorem calls_append (first second : List AgentEvent) :
    calls (first ++ second) = calls first ++ calls second :=
  List.filterMap_append

theorem calls_map (made : List AgentCall) : calls (made.map .called) = made := by
  induction made with
  | nil => rfl
  | cons call made ih => exact congrArg (call :: ·) ih

theorem written_calls (wire : Wire) (loop : Loop σ) (made : List AgentCall) :
    (agentParty wire loop).written (made.map .called) = [] := by
  refine List.flatMap_eq_nil_iff.mpr fun event mem => ?_
  obtain ⟨call, -, rfl⟩ := List.mem_map.mp mem
  rfl

/-- All that the agent can come to on the stream of a method. -/
theorem Fulfils.served {wire : Wire} {handler : Handler σ} {sending : Sending α} {plan : Plan σ}
    {errand : Errand σ α} (fulfils : Fulfils sending plan errand)
    (inStep : InStep wire handler sending plan) {w : Agent σ} (fresh : w.log = [])
    (arrives : Framing.Arrives
      (Wire.requestFrame sending.code.discriminant (sending.body wire)) w.recv.bytes) :
    Framing.Served (agentParty wire (.handle handler)) calls
      (Wire.requestFrame sending.code.discriminant (sending.body wire))
      (errand.response wire w.state) errand.calls (Taken (errand.response wire w.state) w) w := by
  have loop : (agentParty wire (.handle handler)).act =
      (agentProtocol wire).serve (goOn (handler.dispatch wire)) := rfl
  rcases (agentProtocol wire).serve_one (goOn (handler.dispatch wire)) arrives
    (wire.splitRequest_requestFrame sending.code.discriminant (sending.body wire)) with
    ⟨other, log⟩ | ⟨whole, log⟩
  · refine .idle other ?_ ?_
    · rw [loop, log, fresh]
      rfl
    · rw [Party.output, loop, log, fresh]
      rfl
  · let v := (agentProtocol wire).atRequest w [] (sending.code.discriminant, sending.body wire)
    have begun : v.log = [.request sending.code.discriminant (sending.body wire)] := by
      show w.log ++ [_] = _
      rw [fresh]
      rfl
    have arm : ((goOn (handler.dispatch wire)
        (sending.code.discriminant, sending.body wire)).run v).2.log =
        ((plan.perform wire handler.toNodeHandler sending.code.discriminant).run v).2.log := by
      rw [run_goOn, inStep.served]
      rcases (plan.perform wire handler.toNodeHandler sending.code.discriminant).run v with
        ⟨halt | value, v'⟩
      · rfl
      · rfl
    rw [arm] at log
    rcases fulfils.performed wire handler.toNodeHandler (.handle handler)
      sending.code.discriminant v with ⟨taken, replies, made, uncalled, written⟩ | ⟨lost, made⟩
    · rw [made, begun] at log
      refine .answered whole ?_ ?_ ?_
      · rw [loop, log, calls_append, calls_append, calls_map, uncalled, List.append_nil]
        rfl
      · rw [Party.output, loop, log, Party.written_append, Party.written_append, written_calls,
          written]
        rfl
      · intro response mem
        exact w.send.fits _ _ (taken response mem)
    · rw [made, begun] at log
      refine .lost whole ?_ ?_ lost
      · rw [loop, log, calls_append, calls_map]
        rfl
      · rw [Party.output, loop, log, Party.written_append, written_calls]
        rfl

/-- The frame of a request. -/
def Server.Sending.frame (wire : Wire) (sending : Sending α) : Bytes :=
  Wire.requestFrame sending.code.discriminant (sending.body wire)

/-- The method has leave, and its stream opens and takes its request. -/
def Server.Method.Starts (method : Method τ) (request : Bytes) (w : Manager τ) : Prop :=
  method.Permitted w.state.policy ∧ Server.Dialed request w

/-- The method has read a response. -/
def Server.HasRead (log : List ManagerEvent) : Prop := answersRead log ≠ []

/-- What a method makes of a response, if it understands it. -/
def Server.concluding (wire : Wire) (ret : WireTy) (wrap : ret.denote → α) (body : Bytes) :
    Option (Except (Halt ApiError) α) :=
  match wire.decode (.result ret) body with
  | .ok result => some ((Server.returned result).map wrap)
  | .error _ => none

theorem written_dialing (call : ManagerAct τ α) {events : List ManagerEvent}
    (opened : ∀ event ∈ events, event = .opened) : (managerParty call).written events = [] := by
  refine List.flatMap_eq_nil_iff.mpr fun event mem => ?_
  rw [opened event mem]
  rfl

theorem answersRead_opened {events : List ManagerEvent}
    (opened : ∀ event ∈ events, event = .opened) : answersRead events = [] := by
  refine List.filterMap_eq_nil_iff.mpr fun event mem => ?_
  rw [opened event mem]

/-- A method gets nowhere, or has its request out and goes on. -/
theorem Method.run_dialing {β : Type} (wire : Wire) (method : Method τ)
    {sending : Sending method.Outcome} (accepted : method.sending = some sending)
    {code : Client.RequestCode} {ty : WireTy} {payload : ty.denote} {next : ManagerAct τ β}
    {finish : β → ManagerAct τ method.Outcome}
    (performs : ∀ v, (sending.perform wire).run v = Act.andThen
      ((do Server.openBi; Server.sendRaw wire code ty payload; next).run v) finish)
    {w : Manager τ} (fresh : w.log = []) :
    (¬ method.Starts (Wire.requestFrame code.discriminant (wire.encode ty payload)) w ∧
      ∃ error w', (method.act wire).run w = (.error (.failed error), w') ∧
        (managerParty (method.act wire)).written w'.log = [] ∧ answersRead w'.log = []) ∨
    ((Wire.requestFrame code.discriminant (wire.encode ty payload)).length < Framing.frameLimit ∧
      ∃ v, (method.act wire).run w =
          Act.andThen (next.run (Server.requesting code (wire.encode ty payload) v)) finish ∧
        v.recv = w.recv ∧ (managerParty (method.act wire)).written v.log = [] ∧
        answersRead v.log = []) := by
  obtain ⟨state, events, asking, ⟨denied, error, ran⟩ | ⟨same, ran⟩⟩ :=
    method.run_act wire accepted w
  · left
    rw [fresh, List.nil_append] at ran
    refine ⟨?_, error, _, ran, written_asking _ asking, answersRead_asking asking⟩
    intro starts
    exact denied starts.1
  · rw [fresh, List.nil_append, performs] at ran
    rcases Server.run_openBi_sendRaw wire code ty payload { w with state, log := events } next with
      ⟨small, sent⟩ | ⟨error, dials, send, undialed, stopped, opened⟩
    · right
      rw [sent] at ran
      exact ⟨small, _, ran, rfl, written_asking _ asking, answersRead_asking asking⟩
    · left
      rw [stopped, Act.andThen_error] at ran
      refine ⟨?_, error, _, ran, ?_, ?_⟩
      · rintro ⟨-, opens, takes⟩
        exact undialed ⟨same.trans opens, takes⟩
      · rw [Party.written_append, written_dialing _ opened, List.append_nil]
        exact written_asking _ asking
      · rw [Server.answersRead_append, answersRead_opened opened, List.append_nil]
        exact answersRead_asking asking

theorem written_requesting {call : ManagerAct τ α} {v : Manager τ} {more : List ManagerEvent}
    (unwritten : (managerParty call).written v.log = [])
    (silent : (managerParty call).written more = []) (code : Client.RequestCode) (payload : Bytes) :
    (managerParty call).written ((Server.requesting code payload v).log ++ more) =
      frame (Wire.requestFrame code.discriminant payload) := by
  rw [Party.written_append, silent, List.append_nil, Server.requesting, Party.written_append,
    unwritten]
  exact List.append_nil _

/-- A method that asks and is answered once: all that it can come to. -/
theorem Method.asked (wire : Wire) (method : Method τ) {code : Client.RequestCode} {ty : WireTy}
    {payload : ty.denote} {ret : WireTy} {wrap : ret.denote → method.Outcome}
    (accepted : method.sending = some (.single code ty payload ret wrap)) {w : Manager τ}
    (fresh : w.log = []) :
    Asked (managerParty (method.act wire))
      (method.Starts (Wire.requestFrame code.discriminant (wire.encode ty payload)) w)
      Server.HasRead (Wire.requestFrame code.discriminant (wire.encode ty payload))
      (Server.concluding wire ret wrap) w := by
  have act : (managerParty (method.act wire)).act = method.act wire := rfl
  have performs (v : Manager τ) : ((Sending.single code ty payload ret wrap).perform wire).run v =
      Act.andThen ((do
        Server.openBi
        Server.sendRaw wire code ty payload
        Server.recvResult wire ret none).run v) (pure ∘ wrap) := rfl
  rcases Method.run_dialing wire method accepted performs fresh with
    ⟨unstarted, error, w', ran, unwritten, unread⟩ | ⟨small, v, ran, recv, unwritten, unread⟩
  · refine .undialed unstarted ?_ ?_ ?_
    · rw [Party.output, act, ran]
      exact unwritten
    · intro value success
      rw [act, ran] at success
      cases success
    · rw [act, ran]
      exact not_not_intro unread
  · rw [Act.andThen_pure] at ran
    have written : (managerParty (method.act wire)).written
        (Server.requesting code (wire.encode ty payload) v).log =
          frame (Wire.requestFrame code.discriminant (wire.encode ty payload)) := by
      rw [← List.append_nil (Server.requesting code (wire.encode ty payload) v).log]
      exact written_requesting unwritten rfl code (wire.encode ty payload)
    have unanswered : answersRead (Server.requesting code (wire.encode ty payload) v).log = [] := by
      rw [Server.requesting, Server.answersRead_append, unread]
      rfl
    rcases Server.run_recvResult wire ret none (Server.requesting code (wire.encode ty payload) v)
      with ⟨waiting, read⟩ | ⟨result, body, rest, answer, read⟩ | ⟨error, stream, missing, read⟩
    · rw [read] at ran
      refine .unread ?_ small ?_ ?_ ?_
      · rw [Party.output, act, ran]
        exact written
      · rw [← recv]
        exact waiting.incomplete
      · intro value success
        rw [act, ran] at success
        cases success
      · rw [act, ran]
        exact not_not_intro unanswered
    · rw [read] at ran
      have bytes : w.recv.bytes = frame body ++ rest := by
        rw [← recv]
        exact answer.bytes
      refine .decoded body rest ?_ small bytes answer.fits ?_
      · rw [Party.output, act, ran]
        exact written_requesting unwritten rfl code (wire.encode ty payload)
      · rw [act, ran]
        simp only [Server.concluding, answer.decoded]
    · rw [read] at ran
      have output : (managerParty (method.act wire)).output w =
          frame (Wire.requestFrame code.discriminant (wire.encode ty payload)) := by
        rw [Party.output, act, ran]
        exact written
      rcases missing with incomplete | ⟨body, rest, failure, bytes, fits, undecoded⟩
      · refine .unread output small ?_ ?_ ?_
        · rw [← recv]
          exact incomplete
        · intro value success
          rw [act, ran] at success
          cases success
        · rw [act, ran]
          exact not_not_intro unanswered
      · refine .undecoded body rest output small ?_ fits ?_
        · rw [← recv]
          exact bytes
        · simp only [Server.concluding, undecoded]

/-- A method that does not wait for an answer: it gets nowhere, or its request is out. -/
theorem Method.told (wire : Wire) (method : Method τ) {code : Client.RequestCode} {ty : WireTy}
    {payload : ty.denote} {value : method.Outcome}
    (accepted : method.sending = some (.silent code ty payload value)) {w : Manager τ}
    (fresh : w.log = []) :
    (((managerParty (method.act wire)).output w = [] ∧
        ¬ method.Starts (Wire.requestFrame code.discriminant (wire.encode ty payload)) w ∧
        ∀ other, ((method.act wire).run w).1 ≠ .ok other) ∨
      ((managerParty (method.act wire)).output w =
          frame (Wire.requestFrame code.discriminant (wire.encode ty payload)) ∧
        (Wire.requestFrame code.discriminant (wire.encode ty payload)).length < Framing.frameLimit ∧
        ((method.act wire).run w).1 = .ok value)) ∧
    ¬ Server.HasRead ((method.act wire).run w).2.log := by
  have act : (managerParty (method.act wire)).act = method.act wire := rfl
  have performs (v : Manager τ) : ((Sending.silent code ty payload value).perform wire).run v =
      Act.andThen ((do
        Server.openBi
        Server.sendRaw wire code ty payload
        emit ManagerEvent.finished).run v) (fun _ => pure value) := rfl
  rcases Method.run_dialing wire method accepted performs fresh with
    ⟨unstarted, error, w', ran, unwritten, unread⟩ | ⟨small, v, ran, recv, unwritten, unread⟩
  · rw [Party.output, act, ran]
    refine ⟨.inl ⟨unwritten, unstarted, ?_⟩, not_not_intro unread⟩
    intro other success
    cases success
  · rw [Party.output, act, ran]
    refine ⟨.inr ⟨?_, small, rfl⟩, ?_⟩
    · exact written_requesting unwritten rfl code (wire.encode ty payload)
    · apply not_not_intro
      show answersRead (v.log ++ _ ++ _) = []
      rw [Server.answersRead_append, Server.answersRead_append, unread]
      rfl

/-- A method that has not begun, and a handler at the other end of the stream it will open.
It may be denied, and opening the stream and any of its writes may still fail. -/
structure ManagerStream (σ τ : Type) where
  method : Method τ
  handler : Handler σ
  policy : τ
  state : σ
  refused : Option IoError
  managerSend : SendStream IoError
  agentSend : SendStream IoError

namespace ManagerStream

variable (wire : Wire) (stream : ManagerStream σ τ)

def near : Party (Opening τ) (Except IoError Bytes) ManagerEvent IoError ApiError
    stream.method.Outcome :=
  managerParty (stream.method.act wire)

def far : Party σ Empty AgentEvent IoError HandlerError Unit :=
  agentParty wire (.handle stream.handler)

def start : Duplex (Opening τ) (Except IoError Bytes) ManagerEvent IoError σ AgentEvent IoError :=
  dialing stream.policy stream.refused stream.state stream.managerSend stream.agentSend

/-- The argument and the answer come back from the wire as they were. -/
structure Lawful (errand : Errand σ stream.method.Outcome) : Prop where
  argument : ∀ sending ∈ stream.method.sending, sending.Spelled wire
  answer : errand.Spelled wire stream.state

/-- The method has leave, and its stream opens and takes the request. -/
structure Starts : Prop where
  permitted : stream.method.Permitted stream.policy
  opened : stream.refused = none
  requested : ∀ sending ∈ stream.method.sending,
    stream.managerSend.outcome stream.managerSend.attempts (sending.frame wire) = none

/-- The request and its answer were taken, and nothing is on its way. -/
structure Through (errand : Errand σ stream.method.Outcome)
    (now : Duplex (Opening τ) (Except IoError Bytes) ManagerEvent IoError σ AgentEvent IoError) :
    Prop where
  starts : stream.Starts wire
  answered : ∀ response ∈ errand.response wire stream.state,
    stream.agentSend.outcome stream.agentSend.attempts response = none
  quiescent : Duplex.Quiescent (stream.near wire) (stream.far wire) now

variable {wire stream}

/-- At any point a method can rely on its errand being run. -/
theorem faithful {errand : Errand σ stream.method.Outcome}
    (unary : Method.errand stream.handler stream.method = some errand)
    (lawful : stream.Lawful wire errand)
    {now : Duplex (Opening τ) (Except IoError Bytes) ManagerEvent IoError σ AgentEvent IoError}
    (reachable : Duplex.Reachable (stream.near wire) (stream.far wire) stream.start now) :
    Faithful errand.calls (calls ((handle wire stream.handler).run now.far).2.log)
      ((stream.method.act wire).run now.near).1 (errand.answer stream.state) errand.Waits
      (Server.HasRead ((stream.method.act wire).run now.near).2.log)
      (stream.Through wire errand now) := by
  obtain ⟨sending, accepted, fulfils⟩ := Method.fulfils stream.handler stream.method unary
  have inStep := Method.inStep wire stream.handler stream.method accepted
    (lawful.argument sending accepted)
  have delivered := reachable.delivered rfl rfl
  obtain ⟨nearFrame, farFrame⟩ := reachable.frame
  have freshNear : now.near.log = [] := by rw [nearFrame]; rfl
  have freshFar : now.far.log = [] := by rw [farFrame]; rfl
  have state : now.far.state = stream.state := by rw [farFrame]; rfl
  have served := fulfils.served inStep freshFar
  rw [state] at served
  have starts (through : stream.Through wire errand now) :
      stream.method.Starts (sending.frame wire) now.near ∧
        Taken (errand.response wire stream.state) now.far ∧
        Duplex.Quiescent (stream.near wire) (stream.far wire) now := by
    refine ⟨⟨?_, ?_, ?_⟩, ?_, through.quiescent⟩
    · rw [nearFrame]
      exact through.starts.permitted
    · rw [nearFrame]
      exact through.starts.opened
    · rw [nearFrame]
      exact through.starts.requested sending accepted
    · rw [farFrame]
      exact through.answered
  have answers := lawful.answer
  clear inStep lawful unary
  generalize Method.plan stream.handler stream.method = plan at fulfils
  cases fulfils with
  | told code ty payload value call ask =>
      obtain ⟨told, unanswered⟩ := Method.told wire stream.method accepted freshNear
      exact (Framing.faithful_of_told delivered told unanswered served).when starts
  | asked code ty payload ret wrap call ask =>
      have decodes : Server.concluding wire ret wrap
          (wire.encode (.result ret) (ask stream.state).1) =
            some ((Server.returned (ask stream.state).1).map wrap) := by
        have same : wire.decode (.result ret) (wire.encode (.result ret) (ask stream.state).1) =
          .ok (ask stream.state).1 := answers
        simp only [Server.concluding, same]
      exact (Framing.faithful_of_asked delivered
        (Method.asked wire stream.method accepted freshNear) served decodes).when starts
  | greeted code ty payload ret wrap result =>
      have decodes : Server.concluding wire ret wrap (wire.encode (.result ret) result) =
          some ((Server.returned result).map wrap) := by
        have same : wire.decode (.result ret) (wire.encode (.result ret) result) = .ok result :=
          answers
        simp only [Server.concluding, same]
      exact (Framing.faithful_of_asked delivered
        (Method.asked wire stream.method accepted freshNear) served decodes).when starts

/-- A method whose request is taken can always get through. -/
theorem completes {errand : Errand σ stream.method.Outcome}
    (unary : Method.errand stream.handler stream.method = some errand)
    (starts : stream.Starts wire)
    {now : Duplex (Opening τ) (Except IoError Bytes) ManagerEvent IoError σ AgentEvent IoError}
    (reachable : Duplex.Reachable (stream.near wire) (stream.far wire) stream.start now) :
    Duplex.Completes (stream.near wire) (stream.far wire) now := by
  obtain ⟨sending, accepted, fulfils⟩ := Method.fulfils stream.handler stream.method unary
  obtain ⟨nearFrame, -⟩ := reachable.frame
  have written (recv : RecvStream IoError) :
      (stream.near wire).output { now.near with recv } = frame (sending.frame wire) := by
    have fresh : ({ now.near with recv } : Manager τ).log = [] := by rw [nearFrame]; rfl
    have begins : stream.method.Starts (sending.frame wire) { now.near with recv } := by
      rw [nearFrame]
      exact ⟨starts.permitted, starts.opened, starts.requested sending accepted⟩
    generalize Method.plan stream.handler stream.method = plan at fulfils
    cases fulfils with
    | told code ty payload value call ask =>
        rcases (Method.told wire stream.method accepted fresh).1 with
          ⟨-, unstarted, -⟩ | ⟨written, -⟩
        · exact absurd begins unstarted
        · exact written
    | asked code ty payload ret wrap call ask =>
        exact (Method.asked wire stream.method accepted fresh).written begins
    | greeted code ty payload ret wrap result =>
        exact (Method.asked wire stream.method accepted fresh).written begins
  refine (reachable.delivered rfl rfl).completes ?_
  intro recv
  rw [written recv]
  exact (written now.near.recv).symm

end ManagerStream

end ReviewProtocol
