import ReviewProtocol.Lib.Waiting
import ReviewProtocol.Mediation
import ReviewProtocol.Schedule
import ReviewProtocol.Truncation

set_option autoImplicit false

/- What the parties wait for. Each one waits only for the other, on a stream that is open,
or for its own package source; and a call and the loop that serves it never both wait. -/
namespace ReviewProtocol

open Framing (Bytes Act Endpoint Halt Duplex Party frame)
open Framing.Act (Awaits awaits_pure awaits_fail awaits_emit awaits_update awaits_orFail awaits_send
  awaits_take awaits_recv awaits_arrival awaits_readExact)
open Client (ClientCall ClientEvent ClientAct)
open Server (ServerCall ServerEvent ServerAct ManagerAct Manager State HandedBack Gate)

section rules

variable {S I E : Type}

/-- Less than a frame is at hand, and the stream is open. -/
def Unread (w : Endpoint S I E IoError) : Prop := w.recv.Waiting

theorem unread_recv {ε : Type} : Awaits Unread (Act.recv : Act S I E IoError ε _) :=
  awaits_recv fun _ waiting => waiting

end rules

/-! ### The agent -/

section agent

variable {σ : Type}

theorem PackageReader.awaits_nextChunk (reader : PackageReader) :
    Act.Awaits Unread (reader.nextChunk : AgentAct σ _) := by
  intro w w' ran
  obtain ⟨-, rfl, awaits⟩ := nextChunk_halt ran
  exact awaits.waiting

theorem PackageReader.awaits_drain (reader : PackageReader) :
    Act.Awaits Unread (reader.drain : AgentAct σ _) := by
  refine Act.Awaits.loop (fun reader => ?_) reader
  refine reader.awaits_nextChunk.bind fun answered => ?_
  obtain ⟨answer, reader⟩ := answered
  cases answer with
  | chunk body => exact awaits_pure _
  | finished => exact awaits_pure _
  | failed error seen => exact awaits_pure _

theorem InstallProg.awaits_run {α : Type} (prog : InstallProg α) (reader : PackageReader) :
    Awaits Unread (prog.run reader : AgentAct σ _) := by
  induction prog generalizing reader with
  | ret value => exact awaits_pure _
  | nextChunk resume ih =>
      exact reader.awaits_nextChunk.bind fun answered => ih answered.1 answered.2

variable (wire : Wire)

theorem awaits_sendResponse (ty : WireTy) (result : Except String ty.denote) :
    Awaits Unread (sendResponse wire ty result : AgentAct σ Unit) :=
  (awaits_send _ _).bind fun sent => awaits_orFail _ sent

theorem awaits_receivePackage (handler : NodeHandler σ) (req : NodePackageRequest) (size : Nat) :
    Awaits Unread (receivePackage handler req size) := by
  refine (awaits_emit _).bind fun _ => (awaits_update _).bind fun state => ?_
  refine (InstallProg.awaits_run _ _).bind fun returned => ?_
  refine (awaits_update _).bind fun _ => (awaits_emit _).bind fun _ => ?_
  exact (PackageReader.awaits_drain _).bind fun _ => awaits_pure _

theorem Plan.awaits_perform (handler : NodeHandler σ) (code : UInt32) (plan : Plan σ) :
    Awaits Unread (plan.perform wire handler code) := by
  cases plan with
  | undecodable error => exact (awaits_send _ _).bind fun _ => awaits_fail _
  | answer ty result => exact awaits_sendResponse wire ty result
  | unary call ty ask =>
      refine Awaits.bind ?_ fun result => awaits_sendResponse wire ty result
      exact (awaits_emit _).bind fun _ => awaits_update ask
  | silent call ask => exact (awaits_emit _).bind fun _ => awaits_update _
  | install fields =>
      refine Awaits.bind ((awaits_emit _).bind fun _ => awaits_update _) fun verdict => ?_
      refine (awaits_sendResponse wire _ _).bind fun _ => ?_
      split
      · exact (awaits_receivePackage handler _ _).bind fun _ => awaits_sendResponse wire _ _
      · exact awaits_pure _

/-- The agent's loops wait for a frame. -/
theorem Loop.awaits_run (loop : Loop σ) : Awaits Unread (loop.run wire) := by
  rw [loop.run_eq_serve]
  refine (agentProtocol wire).awaits_serve (fun _ waiting => waiting) fun request => ?_
  refine Awaits.bind ?_ fun _ => awaits_pure _
  rw [loop.arms_eq]
  exact Plan.awaits_perform wire _ _ _

end agent

/-! ### The manager's loops -/

section manager

variable {σ τ : Type} (wire : Wire)

/-- The manager's loops wait for a frame. -/
theorem Server.Gate.awaits_loop (gate : Gate τ) (handler : Server.Handler σ) :
    Awaits Unread (gate.loop wire handler) := by
  rw [gate.loop_eq_serve]
  refine (Server.serverProtocol wire).awaits_serve (fun _ waiting => waiting) fun request => ?_
  intro w w' ran
  apply absurd (congrArg Prod.fst ran)
  exact (gate.arms_settles handler request w).1

end manager

/-! ### Calls of the agent -/

section client

variable (wire : Wire)

theorem Client.awaits_openBi : Awaits Unread (Client.openBi : ClientAct Unit) := by
  refine (awaits_update _).bind fun refused => ?_
  cases refused with
  | none => exact awaits_emit _
  | some error => exact awaits_fail _

theorem Client.awaits_recvResponse (ret : WireTy) :
    Awaits Unread (Client.recvResponse wire ret) := by
  refine unread_recv.bind fun read => ?_
  cases read with
  | error error => exact awaits_fail _
  | ok body =>
      dsimp only
      cases wire.decode (.result ret) body with
      | error error => exact awaits_fail _
      | ok result => exact (awaits_emit _).bind fun _ => awaits_pure _

/-- A call waits for its response. -/
theorem Client.ClientCall.awaits_act (call : ClientCall) : Awaits Unread (call.act wire) := by
  rw [@Client.ClientCall.act_eq wire "" call]
  refine Awaits.bind ?_ fun res => awaits_orFail _ _
  refine Client.awaits_openBi.bind fun _ => ?_
  refine (awaits_send _ _).bind fun sent => (awaits_orFail _ sent).bind fun _ => ?_
  exact Client.awaits_recvResponse wire _

end client

/-! ### The manager's methods -/

section methods

variable {τ : Type} (wire : Wire)

/-- A method waits for a response, or for its package source. -/
def UnreadOrDry (w : Manager τ) : Prop := Unread w ∨ w.input = []

theorem Server.awaits_openBi : Awaits UnreadOrDry (Server.openBi : ManagerAct τ Unit) := by
  refine (awaits_update _).bind fun refused => ?_
  cases refused with
  | none => exact awaits_emit _
  | some error => exact awaits_fail _

theorem Server.awaits_sendRaw (code : Client.RequestCode) (ty : WireTy) (payload : ty.denote) :
    Awaits UnreadOrDry (Server.sendRaw wire code ty payload : ManagerAct τ Unit) :=
  (awaits_send _ _).bind fun sent => awaits_orFail _ sent

theorem Server.awaits_recvResult (ty : WireTy) (context : Option String) :
    Awaits UnreadOrDry (Server.recvResult wire ty context : ManagerAct τ _) := by
  refine (awaits_recv fun _ waiting => .inl waiting).bind fun read => ?_
  cases read with
  | error error => exact awaits_fail _
  | ok body =>
      dsimp only
      cases wire.decode (.result ty) body with
      | error error => exact awaits_fail _
      | ok result => exact (awaits_emit _).bind fun _ => awaits_orFail _ _

theorem Server.awaits_sendPackage (size : Nat) :
    Awaits UnreadOrDry (Server.sendPackage size : ManagerAct τ _) := by
  refine Awaits.loop (fun remaining => ?_) size
  intro w w' ran
  rcases Server.sendPackageRound_cases size remaining w with
    ⟨-, done⟩ | ⟨-, empty, waits⟩ | ⟨-, _, _, _, -, quits⟩ |
    ⟨-, _, _, _, -, -, -, -, ⟨-, sent⟩ | ⟨_, -, lost⟩⟩
  · rw [done] at ran
    cases ran
  · rw [waits] at ran
    cases ran
    exact .inr empty
  · rw [quits] at ran
    cases ran
  · rw [sent] at ran
    cases ran
  · rw [lost] at ran
    cases ran

theorem Server.awaits_installExchange (req : NodePackageRequest) (size : UInt64) :
    Awaits UnreadOrDry (Server.installExchange wire req size : ManagerAct τ _) := by
  refine Server.awaits_openBi.bind fun _ => (Server.awaits_sendRaw wire _ _ _).bind fun _ => ?_
  refine (Server.awaits_recvResult wire _ _).bind fun verdict => ?_
  cases verdict with
  | proceed =>
      refine (Server.awaits_sendPackage size.toNat).bind fun result => ?_
      cases result with
      | error error => exact (awaits_emit _).bind fun _ => awaits_fail _
      | ok done => exact (Server.awaits_recvResult wire _ _).bind fun _ => awaits_pure _
  | _ => exact awaits_pure _

theorem Server.Sending.awaits_perform {α : Type} (sending : Server.Sending α) :
    Awaits UnreadOrDry (sending.perform wire : ManagerAct τ α) := by
  cases sending with
  | silent code ty payload value =>
      refine Awaits.bind ?_ fun _ => awaits_pure _
      exact Server.awaits_openBi.bind fun _ =>
        (Server.awaits_sendRaw wire _ _ _).bind fun _ => awaits_emit _
  | single code ty payload ret wrap =>
      refine Awaits.bind ?_ fun _ => awaits_pure _
      exact Server.awaits_openBi.bind fun _ =>
        (Server.awaits_sendRaw wire _ _ _).bind fun _ => Server.awaits_recvResult wire _ _
  | install fields wrap =>
      exact (Server.awaits_installExchange wire _ _).bind fun _ => awaits_pure _

theorem Server.Method.awaits_act (method : Server.Method τ) :
    Awaits UnreadOrDry (method.act wire) := by
  cases accepted : method.sending with
  | none =>
      intro w w' ran
      cases method with
      | flat send => cases accepted
      | node call =>
          obtain ⟨text, rejects⟩ := call.run_plain_rejected wire
            (Server.ManagerCall.rejected accepted) w
          cases rejects.symm.trans ran
      | asked gate call =>
          obtain ⟨text, rejects⟩ := call.run_rejected wire gate
            (Server.ManagerCall.rejected accepted) w
          cases rejects.symm.trans ran
  | some sending =>
      rw [method.act_eq wire accepted]
      refine Awaits.bind ?_ fun _ => sending.awaits_perform wire
      cases method with
      | flat send => exact awaits_pure _
      | node call => exact awaits_pure _
      | asked gate call =>
          exact (awaits_update _).bind fun _ => (awaits_emit _).bind fun _ => awaits_orFail _ _

end methods

/-! ### The handshake and the event streams -/

section handshake

variable (crates : Crates)

theorem awaits_sendAnswer (wire : Wire) (result : Except String String) :
    Awaits Unread (sendAnswer wire result) :=
  (awaits_send _ _).bind fun sent => awaits_orFail _ sent

theorem awaits_acceptBi : Awaits Unread acceptBi := by
  refine (awaits_update _).bind fun lost => ?_
  cases lost with
  | some error => exact awaits_fail _
  | none => exact (awaits_arrival fun _ waiting => waiting).bind fun _ => awaits_emit _

theorem awaits_judge (addr : SocketAddr) (versionReq : crates.semver.VersionReq)
    (highest : crates.semver.Version) (buf : Bytes) :
    Awaits Unread (judge crates addr versionReq highest buf) := by
  unfold judge
  cases decodeAgentInfo crates.formats buf with
  | error error => exact awaits_fail _
  | ok agentInfo =>
      dsimp only
      split
      · exact (awaits_sendAnswer _ _).bind fun _ => awaits_pure _
      · exact (awaits_sendAnswer _ _).bind fun _ => (awaits_emit _).bind fun _ => awaits_fail _

/-- The manager waits for a stream, and for the agent's introduction on it. -/
theorem awaits_handshake (addr : SocketAddr) (versionReq highestProtocolVersion : String) :
    Awaits Unread (handshake crates addr versionReq highestProtocolVersion) := by
  unfold handshake
  split
  · exact awaits_fail _
  · split
    · exact awaits_fail _
    · refine awaits_acceptBi.bind fun _ => unread_recv.bind fun read => ?_
      cases read with
      | error error => exact awaits_fail _
      | ok buf => exact awaits_judge crates addr _ _ buf

theorem awaits_conclude (wire : Wire) (read : Except (IoError × Bytes) Bytes) :
    Awaits Unread (conclude wire read) := by
  unfold conclude
  split
  · exact awaits_fail _
  · split
    · exact awaits_fail _
    · exact awaits_pure _
    · exact awaits_fail _

/-- The agent waits for the manager's answer. -/
theorem ConnectionBuilder.awaits_connect (builder : ConnectionBuilder) :
    Awaits Unread (builder.connect crates) := by
  refine (awaits_update _).bind fun dial => ?_
  refine (awaits_orFail _ _).bind fun _ => (awaits_orFail _ _).bind fun _ => ?_
  refine (awaits_orFail _ _).bind fun _ => (awaits_orFail _ _).bind fun _ => ?_
  refine (awaits_emit _).bind fun _ => (awaits_send _ _).bind fun sent => ?_
  exact (awaits_orFail _ sent).bind fun _ => unread_recv.bind (awaits_conclude crates.wire)

end handshake

section events

variable {σ : Type} (describe : Bytes → String) (handler : EventStreamHandler σ)

theorem awaits_runCallback (callback : EventCallback) :
    Awaits Unread (runCallback handler callback) :=
  (awaits_update _).bind fun result => awaits_orFail _ result

/-- An event stream is waited on for its header or its next frame. -/
theorem awaits_processEventStream :
    Awaits Unread (processEventStream describe handler) := by
  refine (awaits_readExact (fun _ waiting => waiting) (by decide)).bind fun read => ?_
  cases read with
  | error failed => exact awaits_fail _
  | ok header =>
      refine Awaits.bind ?_ fun _ => (awaits_emit _).bind fun _ =>
        awaits_runCallback handler _
      refine (eventProtocol describe).awaits_serve (fun _ waiting => waiting)
        fun callback => ?_
      exact (awaits_runCallback handler callback).bind fun _ => awaits_pure _

end events

/-! ### Together -/

/-- A party that waits has an open stream with less than a frame at hand, so it returns once
its stream has ended. -/
structure Attentive {S I E ε α : Type} (act : Act S I E IoError ε α) : Prop where
  waits : Awaits Unread act
  returns : ∀ w, w.recv.fin ≠ none → (act.run w).1 ≠ .error .pending

theorem attentive {S I E ε α : Type} {act : Act S I E IoError ε α} (awaits : Awaits Unread act) :
    Attentive act := by
  refine ⟨awaits, ?_⟩
  intro w finished pending
  have waiting := awaits w (act.run w).2 (Prod.ext pending rfl)
  exact finished ((act.progress w).fin.symm.trans waiting.unfinished)

section deadlock

variable {σ τ : Type} {wire : Wire}

/-- A call that waits has written its request and found no whole frame. -/
theorem Client.ClientCall.run_pending (call : ClientCall) {w : Client.Caller} (fresh : w.log = [])
    (pending : ((call.act wire).run w).1 = .error .pending) :
    (clientParty (call.act wire)).output w = frame (call.requestFrame wire) ∧
      (call.requestFrame wire).length < Framing.frameLimit ∧
      Framing.splitFrame w.recv.bytes = none := by
  have requests := Client.request_requests wire call.asking.code call.asking.ty
    call.asking.payload (call.counterpart "").call.ret w
  have ran : (call.act wire).run w = Act.andThen ((Client.request wire
      call.asking.code call.asking.ty call.asking.payload (call.counterpart "").call.ret).run w)
      fun res => Act.orFail id ((call.counterpart "").returned res) := by
    rw [@Client.ClientCall.act_eq wire "" call]
    rfl
  have output : (clientParty (call.act wire)).output w =
      (clientParty (call.act wire)).written ((call.act wire).run w).2.log := rfl
  rw [output]
  rw [ran] at pending ⊢
  rcases asked : (Client.request wire call.asking.code call.asking.ty call.asking.payload
    (call.counterpart "").call.ret).run w with ⟨outcome, w'⟩
  rw [asked] at requests pending
  cases requests with
  | undialed error events send undialed opened => cases pending
  | undecoded error body rest small bytes fits undecoded => cases pending
  | decoded result body rest small bytes fits decoded =>
      rw [Act.andThen_ok, run_orFail] at pending
      cases returned : (call.counterpart "").returned result with
      | ok value =>
          rw [returned] at pending
          cases pending
      | error error =>
          rw [returned] at pending
          cases pending
  | unread halt recv small incomplete =>
      refine ⟨?_, small, incomplete⟩
      show (clientParty (call.act wire)).written (w.log ++ [_, _]) = _
      rw [fresh]
      exact List.append_nil _

/-- An entry for an answer stands for a frame that the transport can take. -/
def Fits (wire : Wire) : ServerEvent → Prop
  | .replied ty result => (wire.encode (.result ty) result).length < Framing.frameLimit
  | _ => True

theorem Server.respond_fits (ty : WireTy) (result : Except String ty.denote) :
    Act.Within (Act.Logs (Fits wire)) (Server.respond wire ty result : ServerAct σ τ Unit) :=
  Act.logs_bind (Act.logs_send _ fun small => small) fun sent => Act.logs_orFail _ sent

theorem Server.arms_fit (gate : Gate τ) (handler : Server.Handler σ) (request : UInt32 × Bytes) :
    Act.Within (Act.Logs (Fits wire)) (gate.arms wire handler request) := by
  have silent {α : Type} (change : State σ τ → α × State σ τ) :
      Act.Within (Act.Logs (Fits wire)) (Act.update change : ServerAct σ τ α) :=
    fun _ => .none rfl
  have stops {α : Type} (outcome : ServerAct σ τ α) (same : ∀ w, (outcome.run w).2 = w) :
      Act.Within (Act.Logs (Fits wire)) outcome :=
    fun w => .none (congrArg Endpoint.log (same w))
  have performs : Act.Within (Act.Logs (Fits wire))
      (Server.handleAuthorizedArms wire handler gate.peerName request.1 request.2 :
        ServerAct σ τ _) := by
    rw [Server.handleAuthorizedArms_eq]
    cases Server.planOf wire gate.peerName request.1 request.2 with
    | undecodable error => exact stops _ fun _ => rfl
    | handBack => exact stops _ fun _ => rfl
    | unknown => exact Act.logs_bind (Server.respond_fits _ _) fun _ => stops _ fun _ => rfl
    | unary call =>
        refine Act.logs_bind (Act.logs_bind (Act.logs_emit trivial) fun _ => silent _) ?_
        intro result
        exact Act.logs_bind (Server.respond_fits _ _) fun _ => stops _ fun _ => rfl
  unfold Server.Gate.arms
  cases fromServerRequestCode (.fromPrimitive request.1) with
  | none => exact performs
  | some service =>
      refine Act.logs_bind ?_ fun _ => performs
      refine Act.logs_bind (silent _) fun answer => ?_
      refine Act.logs_bind (Act.logs_emit trivial) fun _ => ?_
      cases answer with
      | ok done => exact stops _ fun _ => rfl
      | error error =>
          exact Act.logs_bind (Server.respond_fits _ _) fun _ => stops _ fun _ => rfl

/-- A loop that has taken a request and waits for the next one has answered it. -/
theorem Server.Gate.run_pending (gate : Gate τ) (handler : Server.Handler σ) {w : Server.Peer σ τ}
    {code : UInt32} {payload : Bytes} (fresh : w.log = [])
    (bytes : w.recv.bytes = frame (Wire.requestFrame code payload))
    (small : (Wire.requestFrame code payload).length < Framing.frameLimit)
    (pending : ((gate.loop wire handler).run w).1 = .error .pending) :
    ∃ body, (gatedParty wire handler gate).output w = frame body ∧
      body.length < Framing.frameLimit := by
  have output : (gatedParty wire handler gate).output w =
      (gatedParty wire handler gate).written ((gate.loop wire handler).run w).2.log := rfl
  rw [gate.loop_eq_serve] at pending output
  rw [output]
  have parsed := wire.splitRequest_requestFrame code payload
  have whole : w.recv.bytes = frame (Wire.requestFrame code payload) ++ [] := by
    rw [bytes, List.append_nil]
  rw [(Server.serverProtocol wire).serve_request _ whole small parsed] at pending ⊢
  let v := (Server.serverProtocol wire).atRequest w [] (code, payload)
  have settles : ((gate.arms wire handler (code, payload)).run v).1 ≠ .error .pending :=
    (gate.arms_settles handler (code, payload) v).1
  have fits : Act.Within (Act.Logs (Fits wire)) (gate.arms wire handler (code, payload)) :=
    Server.arms_fit gate handler (code, payload)
  obtain ⟨added, log, fitting⟩ := fits v
  obtain ⟨logged, result, w', ran, acts, serves⟩ := gate.arms_serves wire handler code payload v
  have ran' : (gate.arms wire handler (code, payload)).run
    ((Server.serverProtocol wire).atRequest w [] (code, payload)) = (result, w') := ran
  rw [ran] at settles log
  rw [ran'] at pending ⊢
  rcases result with halt | ⟨⟨⟩⟩ | value
  · cases pending
    exact absurd rfl settles
  · have nothing : w'.recv.bytes = [] := congrArg Framing.RecvStream.bytes acts.recv
    have last : ((Server.serverProtocol wire).resume (gate.arms wire handler)
        (.ok (.next ()), w')).2.log = w'.log :=
      (Server.serverProtocol wire).serve_nothing _ nothing
    rw [last]
    obtain rfl : added = logged := List.append_cancel_left (log.symm.trans acts.log)
    cases serves with
    | unassigned unassigned refuses =>
        rcases refuses with ⟨-, impossible⟩ | ⟨-, _, _, -, impossible⟩ <;> cases impossible
    | denied named refuses =>
        rcases refuses with ⟨-, impossible⟩ | ⟨-, _, _, -, impossible⟩ <;> cases impossible
    | @answered service call answer named peer =>
        refine ⟨wire.encode (.result call.ret) answer, ?_,
          fitting (.replied call.ret answer) (.tail _ (.tail _ (.head _)))⟩
        rw [acts.log]
        show (gatedParty wire handler gate).written (w.log ++ [_] ++ [_, _, _]) = _
        rw [fresh]
        exact List.append_nil _
  · cases pending

variable {ι : Type}

/-- With nothing on its way, a call that waits has lost its loop: it has failed, or given the
request back. -/
theorem never_both_wait (streams : ι → MediatedStream σ τ)
    (now : ι → Duplex (Option IoError) Empty ClientEvent IoError (State σ τ) ServerEvent IoError)
    (reaches : Duplex.ReachableAll (fun i => (streams i).near wire) (fun i => (streams i).far wire)
      (fun i => (streams i).start) now) (i : ι)
    (quiescent : Duplex.Quiescent ((streams i).near wire) ((streams i).far wire) (now i)) :
    (((streams i).call.act wire).run (now i).near).1 ≠ .error .pending ∨
      (((streams i).gate.loop wire (streams i).handler).run (now i).far).1 ≠ .error .pending := by
  by_contra both
  obtain ⟨nearWaits, farWaits⟩ := not_or.mp both
  obtain ⟨nearFrame, farFrame⟩ := (reaches.stream i).frame
  have freshNear : (now i).near.log = [] := by rw [nearFrame]; rfl
  have freshFar : (now i).far.log = [] := by rw [farFrame]; rfl
  obtain ⟨written, small, incomplete⟩ :=
    (streams i).call.run_pending freshNear (not_not.mp nearWaits)
  have arrived : (now i).far.recv.bytes = frame ((streams i).call.requestFrame wire) :=
    quiescent.toFar.trans written
  obtain ⟨body, replied, fits⟩ :=
    (streams i).gate.run_pending (streams i).handler freshFar arrived small (not_not.mp farWaits)
  have response : (now i).near.recv.bytes = frame body ++ [] := by
    rw [List.append_nil]
    exact quiescent.toNear.trans replied
  rw [response, Framing.splitFrame_frame _ _ fits] at incomplete
  cases incomplete

end deadlock

/-- Nobody waits for anything but the peer: neither a call, nor a loop, nor an event stream, nor
either side of the handshake, and a method of the manager for nothing else but its own package
source; so none of them outlives its stream. And a call and the loop that serves it never wait for
each other, whatever they make of each other's bytes. -/
theorem no_hang (wire : Wire) (crates : Crates) (describe : Bytes → String) :
    (∀ call : ClientCall, Attentive (call.act wire)) ∧
    (∀ {σ : Type} (loop : Loop σ), Attentive (loop.run wire)) ∧
    (∀ {σ τ : Type} (gate : Gate τ) (handler : Server.Handler σ),
      Attentive (gate.loop wire handler)) ∧
    (∀ {σ : Type} (handler : EventStreamHandler σ),
      Attentive (processEventStream describe handler)) ∧
    (∀ addr versionReq highest, Attentive (handshake crates addr versionReq highest)) ∧
    (∀ builder : ConnectionBuilder, Attentive (builder.connect crates)) ∧
    (∀ {τ : Type} (method : Server.Method τ), Awaits UnreadOrDry (method.act wire)) ∧
    ∀ {σ τ ι : Type} (streams : ι → MediatedStream σ τ) now,
      Duplex.ReachableAll (fun i => (streams i).near wire) (fun i => (streams i).far wire)
        (fun i => (streams i).start) now →
      ∀ i, Duplex.Quiescent ((streams i).near wire) ((streams i).far wire) (now i) →
        (((streams i).call.act wire).run (now i).near).1 ≠ .error .pending ∨
        (((streams i).gate.loop wire (streams i).handler).run (now i).far).1 ≠ .error .pending := by
  refine ⟨?_, ?_, ?_, ?_, ?_, ?_, ?_, ?_⟩
  · intro call
    exact attentive (call.awaits_act wire)
  · intro σ loop
    exact attentive (loop.awaits_run wire)
  · intro σ τ gate handler
    exact attentive (gate.awaits_loop wire handler)
  · intro σ handler
    exact attentive (awaits_processEventStream describe handler)
  · intro addr versionReq highest
    exact attentive (awaits_handshake crates addr versionReq highest)
  · intro builder
    exact attentive (builder.awaits_connect crates)
  · intro τ method
    exact method.awaits_act wire
  · intro σ τ ι streams now reaches i quiescent
    exact never_both_wait streams now reaches i quiescent

/-- The call that was turned down has returned, or its loop has. -/
theorem no_hang_sample :
    ((Client.insertModel Encoding.bincode [1, 2, 3]).run sampleTurnedDown.near).1 ≠
        .error .pending ∨
      ((sampleDenied.gate.loop Encoding.bincode sampleDenied.handler).run
        sampleTurnedDown.far).1 ≠ .error .pending := by
  obtain ⟨-, -, -, -, -, -, -, together⟩ := no_hang Encoding.bincode sampleCrates fun _ => ""
  exact together (fun _ : Unit => sampleDenied) _ sampleTurnedDown_reached () ⟨rfl, rfl⟩

end ReviewProtocol
