import ReviewProtocol.Server.Loops

set_option autoImplicit false

/- Authorization over whole runs of the manager's loops. -/
namespace ReviewProtocol.Server

open Framing (Bytes Act Endpoint Protocol Halt frame)
open Framing.Act (Turn emit)

variable {σ τ : Type}

/-- Either authorized loop, by whom it serves and whom it asks. -/
inductive Gate (τ : Type) where
  | legacy (peer : PeerContext) (authorizer : Authorizer τ)
  | withContext (context : AuthorizationContext) (authorizer : AuthorizerV2 τ)

namespace Gate

def peerName : Gate τ → String
  | legacy peer _ => peer.name
  | withContext context _ => context.peerIdentity.name

def ask : Gate τ → ServiceId → τ → Except AuthorizationError Unit × τ
  | legacy peer authorizer => authorizer.authorize peer
  | withContext context authorizer => authorizer.authorizeWithContext context

def loop (wire : Wire) (handler : Handler σ) : Gate τ → ServerAct σ τ HandedBack
  | legacy peer authorizer => handleAuthorized wire handler peer authorizer
  | withContext context authorizer => handleAuthorizedWithContext wire handler context authorizer

def arms (wire : Wire) (handler : Handler σ) (gate : Gate τ) (request : UInt32 × Bytes) :
    ServerAct σ τ (Turn Unit HandedBack) := do
  match fromServerRequestCode (.fromPrimitive request.1) with
  | some service => checkAuthorization wire service (gate.ask service)
  | none => pure ()
  handleAuthorizedArms wire handler gate.peerName request.1 request.2

theorem loop_eq_serve (wire : Wire) (handler : Handler σ) (gate : Gate τ) :
    gate.loop wire handler = (serverProtocol wire).serve (gate.arms wire handler) := by
  cases gate with
  | legacy peer authorizer => rfl
  | withContext context authorizer =>
      simp only [loop, handleAuthorizedWithContext, handleAuthorizedWithContextArms_eq]
      rfl

end Gate

/-- The answers in a log are the policy's own, one after the other. -/
def Answers (ask : ServiceId → τ → Except AuthorizationError Unit × τ) :
    τ → List ServerEvent → τ → Prop
  | policy, [], policy' => policy' = policy
  | policy, .authorized service answer :: later, policy' =>
      answer = (ask service policy).1 ∧ Answers ask (ask service policy).2 later policy'
  | policy, _ :: later, policy' => Answers ask policy later policy'

theorem Answers.append {ask : ServiceId → τ → Except AuthorizationError Unit × τ}
    {first second : List ServerEvent} {a b c : τ} (early : Answers ask a first b)
    (late : Answers ask b second c) : Answers ask a (first ++ second) c := by
  induction first generalizing a with
  | nil =>
      cases early
      exact late
  | cons event first ih =>
      cases event with
      | request code body => exact ih early
      | authorized service answer => exact ⟨early.1, ih early.2⟩
      | called call => exact ih early
      | replied ty result => exact ih early

/-- One error frame and nothing more, and then this error; or the failure of that write. -/
def Refuses {α : Type} (wire : Wire) (outcome : Nat → Bytes → Option IoError) (text : String)
    (error : IoError) (logged : List ServerEvent) (result : Except (Halt IoError) α) : Prop :=
  logged = [.replied .unit (.error text)] ∧ result = .error (.failed error) ∨
  logged = [] ∧ ∃ attempt failure,
    outcome attempt (wire.encode (.result .unit) (.error text)) = some failure ∧
    result = .error (.failed failure)

/-- All that can happen for one request. -/
inductive Serves (wire : Wire) (outcome : Nat → Bytes → Option IoError) (peerName : String)
    (code : UInt32) (body : Bytes) :
    List ServerEvent → Except (Halt IoError) (Turn Unit HandedBack) → Prop where
  | unassigned {logged result} (unassigned : Server.RequestCode.fromPrimitive code = .unknown)
      (refuses : Refuses wire outcome "unknown request code" unknownRequestCode logged result) :
      Serves wire outcome peerName code body logged result
  | denied {service error logged result}
      (named : fromServerRequestCode (.fromPrimitive code) = some service)
      (refuses : Refuses wire outcome "authorization denied" (denied error) logged result) :
      Serves wire outcome peerName code body (.authorized service (.error error) :: logged) result
  | undecodable {service error}
      (named : fromServerRequestCode (.fromPrimitive code) = some service) :
      Serves wire outcome peerName code body [.authorized service (.ok ())] (.error (.failed error))
  | answered {service call result}
      (named : fromServerRequestCode (.fromPrimitive code) = some service)
      (peer : ∀ name ∈ call.peer, name = peerName) :
      Serves wire outcome peerName code body
        [.authorized service (.ok ()), .called call, .replied call.ret result] (.ok (.next ()))
  | unanswered {service call failure}
      (named : fromServerRequestCode (.fromPrimitive code) = some service)
      (peer : ∀ name ∈ call.peer, name = peerName) :
      Serves wire outcome peerName code body
        [.authorized service (.ok ()), .called call] (.error (.failed failure))
  | handedBack {service} (named : fromServerRequestCode (.fromPrimitive code) = some service) :
      Serves wire outcome peerName code body [.authorized service (.ok ())]
        (.ok (.stop (some (code, body))))

theorem run_respond (wire : Wire) (ty : WireTy) (result : Except String ty.denote)
    (w : Peer σ τ) :
    (w.send.outcome w.send.attempts (wire.encode (.result ty) result) = none ∧
      (respond wire ty result).run w = (.ok (),
        { w with send.attempts := w.send.attempts + 1, log := w.log ++ [.replied ty result] })) ∨
    ∃ failure, w.send.outcome w.send.attempts (wire.encode (.result ty) result) = some failure ∧
      (respond wire ty result).run w =
        (.error (.failed failure), { w with send.attempts := w.send.attempts + 1 }) := by
  rcases Act.run_send_cases (ε := IoError) (wire.encode (.result ty) result)
    (ServerEvent.replied ty result) w with ⟨taken, sent⟩ | ⟨failure, lost, sent⟩
  · left
    refine ⟨taken, ?_⟩
    simp only [respond, Act.run_bind, sent, Act.andThen_ok]
    rfl
  · right
    refine ⟨failure, lost, ?_⟩
    simp only [respond, Act.run_bind, sent, Act.andThen_ok]
    rfl

/-- From `w` to `w'` the loop logged this, asked this policy and read nothing. -/
structure Acts (ask : ServiceId → τ → Except AuthorizationError Unit × τ) (w : Peer σ τ)
    (logged : List ServerEvent) (w' : Peer σ τ) : Prop where
  log : w'.log = w.log ++ logged
  recv : w'.recv = w.recv
  outcome : w'.send.outcome = w.send.outcome
  answers : Answers ask w.state.policy logged w'.state.policy

theorem Acts.append {ask : ServiceId → τ → Except AuthorizationError Unit × τ}
    {first second : List ServerEvent} {u v w : Peer σ τ} (early : Acts ask u first v)
    (late : Acts ask v second w) : Acts ask u (first ++ second) w :=
  ⟨by rw [late.log, early.log, List.append_assoc], late.recv.trans early.recv,
    late.outcome.trans early.outcome, early.answers.append late.answers⟩

section arms

variable (wire : Wire) (handler : Handler σ) (code : UInt32) (body : Bytes) (peerName : String)
  (ask : ServiceId → τ → Except AuthorizationError Unit × τ) (w : Peer σ τ)

/-- A refusal writes its one frame, or fails on it. -/
theorem refuse_acts {α : Type} (text : String) (error : IoError) :
    ∃ logged result w',
      (do respond wire .unit (.error text); Act.fail error : ServerAct σ τ α).run w =
        (.error result, w') ∧
      Acts ask w logged w' ∧
      ∀ β : Type, Refuses wire w.send.outcome text error logged (.error result : Except _ β) := by
  simp only [Act.run_bind]
  rcases run_respond wire .unit (.error text) w with ⟨-, sent⟩ | ⟨failure, lost, sent⟩
  · rw [sent]
    exact ⟨[.replied .unit (.error text)], .failed error, _, rfl, ⟨rfl, rfl, rfl, rfl⟩,
      fun _ => .inl ⟨rfl, rfl⟩⟩
  · rw [sent]
    exact ⟨[], .failed failure, _, rfl, ⟨(List.append_nil _).symm, rfl, rfl, rfl⟩,
      fun _ => .inr ⟨rfl, w.send.attempts, failure, lost, rfl⟩⟩

theorem Plan.perform_serves (plan : Plan) {service : ServiceId}
    (named : fromServerRequestCode (.fromPrimitive code) = some service)
    (fits : plan.Fits peerName (.fromPrimitive code)) (outcome : Nat → Bytes → Option IoError) :
    ∃ logged result w', (plan.perform wire handler code body).run w = (result, w') ∧
      Acts ask w logged w' ∧
      Serves wire outcome peerName code body (.authorized service (.ok ()) :: logged) result := by
  cases plan with
  | undecodable error =>
      exact ⟨[], _, _, rfl, ⟨(List.append_nil _).symm, rfl, rfl, rfl⟩, .undecodable named⟩
  | handBack =>
      exact ⟨[], _, _, rfl, ⟨(List.append_nil _).symm, rfl, rfl, rfl⟩, .handedBack named⟩
  | unknown =>
      rw [fits] at named
      cases named
  | unary call =>
      obtain ⟨-, peer⟩ := fits
      simp only [Plan.perform, Handler.invoke, Act.run_bind, emit, Act.update, Act.andThen_ok]
      generalize handler.call call w.state.handler = answer
      rcases run_respond wire call.ret answer.1
        { w with state.handler := answer.2, log := w.log ++ [.called call] } with
        ⟨-, sent⟩ | ⟨failure, lost, sent⟩
      · rw [sent]
        refine ⟨[.called call, .replied call.ret answer.1], _, _, rfl, ⟨?_, rfl, rfl, rfl⟩,
          .answered named peer⟩
        exact List.append_assoc _ _ _
      · rw [sent]
        exact ⟨[.called call], _, _, rfl, ⟨rfl, rfl, rfl, rfl⟩, .unanswered named peer⟩

/-- The loop goes on after asking only if the answer is yes. -/
theorem checkAuthorization_acts (service : ServiceId) :
    (∃ v, (checkAuthorization wire service (ask service)).run w = (.ok (), v) ∧
      Acts ask w [.authorized service (.ok ())] v) ∨
    ∃ error logged result v,
      (checkAuthorization wire service (ask service)).run w = (.error result, v) ∧
      Acts ask w (.authorized service (.error error) :: logged) v ∧
      ∀ β : Type, Refuses wire w.send.outcome "authorization denied" (denied error) logged
        (.error result : Except _ β) := by
  simp only [checkAuthorization, Act.run_bind, Act.update, emit, Act.andThen_ok]
  cases answer : (ask service w.state.policy).1 with
  | ok =>
      refine .inl ⟨_, rfl, rfl, rfl, rfl, answer.symm, rfl⟩
  | error error =>
      right
      let asked : Peer σ τ :=
        { w with
          state.policy := (ask service w.state.policy).2
          log := w.log ++ [.authorized service (.error error)] }
      obtain ⟨logged, result, v, ran, acts, refuses⟩ :=
        refuse_acts (α := Unit) wire ask asked "authorization denied" (denied error)
      have first : Acts ask w [.authorized service (.error error)] asked :=
        ⟨rfl, rfl, rfl, answer.symm, rfl⟩
      exact ⟨error, logged, result, v, ran, first.append acts, refuses⟩

theorem Gate.arms_serves (gate : Gate τ) :
    ∃ logged result w', (gate.arms wire handler (code, body)).run w = (result, w') ∧
      Acts gate.ask w logged w' ∧
      Serves wire w.send.outcome gate.peerName code body logged result := by
  obtain ⟨plan, arm, fits⟩ :=
    handleAuthorizedArms_planned (τ := τ) wire handler gate.peerName code body
  unfold Gate.arms
  rw [arm]
  cases named : fromServerRequestCode (.fromPrimitive code) with
  | none =>
      have unassigned := fromServerRequestCode_none.mp named
      obtain rfl : plan = .unknown := by
        cases plan with
        | undecodable error => exact absurd unassigned fits
        | unary call => exact absurd unassigned fits.1
        | handBack => exact absurd unassigned fits
        | unknown => rfl
      obtain ⟨logged, result, w', ran, acts, refuses⟩ :=
        refuse_acts (α := Turn Unit HandedBack) wire gate.ask w "unknown request code"
          unknownRequestCode
      exact ⟨logged, .error result, w', ran, acts, .unassigned unassigned (refuses _)⟩
  | some service =>
      simp only [Act.run_bind]
      rcases checkAuthorization_acts wire gate.ask w service with
        ⟨v, asked, acts⟩ | ⟨error, logged, result, v, asked, acts, refuses⟩
      · rw [asked, Act.andThen_ok]
        obtain ⟨logged, result, w', ran, more, serves⟩ :=
          plan.perform_serves wire handler code body gate.peerName gate.ask v named fits
            w.send.outcome
        exact ⟨_, result, w', ran, acts.append more, serves⟩
      · rw [asked, Act.andThen_error]
        exact ⟨_, _, v, rfl, acts, .denied named (refuses _)⟩

end arms

section exchanges

variable {wire : Wire} {outcome : Nat → Bytes → Option IoError} {peerName : String}
  {code : UInt32} {body : Bytes} {logged front back : List ServerEvent}
  {result : Except (Halt IoError) (Turn Unit HandedBack)}

theorem Refuses.replied {α : Type} {text : String} {error : IoError} {event : ServerEvent}
    {result : Except (Halt IoError) α} (refuses : Refuses wire outcome text error logged result)
    (mem : event ∈ logged) : event = .replied .unit (.error text) := by
  rcases refuses with ⟨rfl, -⟩ | ⟨rfl, -⟩
  · exact List.mem_singleton.mp mem
  · cases mem

/-- An entry after the request is one the arm logged. -/
theorem mem_logged {event : ServerEvent}
    (split : .request code body :: logged = front ++ event :: back)
    (other : event ≠ .request code body) :
    ∃ start, front = .request code body :: start ∧ logged = start ++ event :: back := by
  rcases List.cons_eq_append_iff.mp split with ⟨-, rest⟩ | ⟨start, opening, rest⟩
  · exact absurd (List.cons.inj rest).1 other
  · exact ⟨start, opening, rest⟩

/-- A call is made right after the authorizer's yes to this request. -/
theorem Serves.called (serves : Serves wire outcome peerName code body logged result)
    {call : ServerCall} (split : .request code body :: logged = front ++ .called call :: back) :
    (∃ service, front = [.request code body, .authorized service (.ok ())] ∧
      fromServerRequestCode (.fromPrimitive code) = some service) ∧
    ∀ name ∈ call.peer, name = peerName := by
  obtain ⟨start, rfl, inside⟩ := mem_logged split nofun
  have mem : .called call ∈ logged := by
    rw [inside]
    exact List.mem_append_right _ List.mem_cons_self
  cases serves with
  | unassigned unassigned refuses => cases refuses.replied mem
  | denied named refuses =>
      rcases List.mem_cons.mp mem with impossible | mem
      · cases impossible
      · cases refuses.replied mem
  | undecodable named => cases List.mem_singleton.mp mem
  | handedBack named => cases List.mem_singleton.mp mem
  | @answered service made result named peer =>
      simp only [List.cons_eq_append_iff, List.nil_eq_append_iff, List.cons.injEq, reduceCtorEq,
        ServerEvent.called.injEq, false_and, and_false, exists_false, or_false, false_or] at inside
      obtain ⟨_, rfl, rfl, rfl, -⟩ := inside
      exact ⟨⟨service, rfl, named⟩, peer⟩
  | @unanswered service made failure named peer =>
      simp only [List.cons_eq_append_iff, List.nil_eq_append_iff, List.cons.injEq, reduceCtorEq,
        ServerEvent.called.injEq, false_and, and_false, exists_false, or_false, false_or] at inside
      obtain ⟨_, rfl, rfl, rfl, -⟩ := inside
      exact ⟨⟨service, rfl, named⟩, peer⟩

/-- A no is for this request, and is all that happens to it. -/
theorem Serves.refused (serves : Serves wire outcome peerName code body logged result)
    {service : ServiceId} {error : AuthorizationError}
    (split : .request code body :: logged = front ++ .authorized service (.error error) :: back) :
    front = [.request code body] ∧ fromServerRequestCode (.fromPrimitive code) = some service ∧
      Refuses wire outcome "authorization denied" (Server.denied error) back result := by
  obtain ⟨start, rfl, inside⟩ := mem_logged split nofun
  have mem : .authorized service (.error error) ∈ logged := by
    rw [inside]
    exact List.mem_append_right _ List.mem_cons_self
  cases serves with
  | unassigned unassigned refuses => cases refuses.replied mem
  | undecodable named => cases List.mem_singleton.mp mem
  | handedBack named => cases List.mem_singleton.mp mem
  | answered named peer =>
      simp only [List.mem_cons, ServerEvent.authorized.injEq, reduceCtorEq, and_false,
        List.not_mem_nil, or_self] at mem
  | unanswered named peer =>
      simp only [List.mem_cons, ServerEvent.authorized.injEq, reduceCtorEq, and_false,
        List.not_mem_nil, or_self] at mem
  | denied named refuses =>
      rcases List.cons_eq_append_iff.mp inside with ⟨rfl, rest⟩ | ⟨more, rfl, rest⟩
      · obtain ⟨same, rfl⟩ := List.cons.inj rest
        cases same
        exact ⟨rfl, named, refuses⟩
      · rw [rest] at refuses
        cases refuses.replied (List.mem_append_right more List.mem_cons_self)

/-- A request is the first entry of its exchange, and the only one of its kind there. -/
theorem Serves.requested (serves : Serves wire outcome peerName code body logged result)
    {code' : UInt32} {body' : Bytes}
    (split : .request code body :: logged = front ++ .request code' body' :: back) :
    front = [] ∧ code = code' ∧ body = body' ∧ back = logged := by
  rcases List.cons_eq_append_iff.mp split with ⟨rfl, rest⟩ | ⟨start, rfl, rest⟩
  · cases rest
    exact ⟨rfl, rfl, rfl, rfl⟩
  · have mem : .request code' body' ∈ logged := by
      rw [rest]
      exact List.mem_append_right _ List.mem_cons_self
    cases serves with
    | unassigned _ refuses => cases refuses.replied mem
    | denied _ refuses =>
        rcases List.mem_cons.mp mem with impossible | mem
        · cases impossible
        · cases refuses.replied mem
    | undecodable _ => simp only [List.mem_cons, reduceCtorEq, List.not_mem_nil, or_self] at mem
    | answered _ _ => simp only [List.mem_cons, reduceCtorEq, List.not_mem_nil, or_self] at mem
    | unanswered _ _ => simp only [List.mem_cons, reduceCtorEq, List.not_mem_nil, or_self] at mem
    | handedBack _ => simp only [List.mem_cons, reduceCtorEq, List.not_mem_nil, or_self] at mem

theorem Serves.unknown (serves : Serves wire outcome peerName code body logged result)
    (unassigned : Server.RequestCode.fromPrimitive code = .unknown) :
    Refuses wire outcome "unknown request code" unknownRequestCode logged result := by
  have unnamed := fromServerRequestCode_none.mpr unassigned
  cases serves with
  | unassigned _ refuses => exact refuses
  | denied named _ => exact absurd (unnamed.symm.trans named) nofun
  | undecodable named => exact absurd (unnamed.symm.trans named) nofun
  | answered named _ => exact absurd (unnamed.symm.trans named) nofun
  | unanswered named _ => exact absurd (unnamed.symm.trans named) nofun
  | handedBack named => exact absurd (unnamed.symm.trans named) nofun

theorem Serves.stopped (serves : Serves wire outcome peerName code body logged result)
    {value : HandedBack} (stop : result = .ok (.stop value)) :
    value = some (code, body) ∧ ∃ service, logged = [.authorized service (.ok ())] ∧
      fromServerRequestCode (.fromPrimitive code) = some service := by
  cases serves with
  | unassigned _ refuses =>
      rcases refuses with ⟨-, rfl⟩ | ⟨-, _, _, -, rfl⟩ <;> cases stop
  | denied _ refuses =>
      rcases refuses with ⟨-, rfl⟩ | ⟨-, _, _, -, rfl⟩ <;> cases stop
  | undecodable named => cases stop
  | answered named _ => cases stop
  | unanswered named _ => cases stop
  | handedBack named =>
      cases stop
      exact ⟨rfl, _, rfl, named⟩

end exchanges

/-- The bytes of the frames read as requests. -/
def requestFrames (events : List ServerEvent) : Bytes :=
  events.flatMap fun
    | .request code body => frame (Wire.requestFrame code body)
    | _ => []

@[simp] theorem requestFrames_append (first second : List ServerEvent) :
    requestFrames (first ++ second) = requestFrames first ++ requestFrames second :=
  List.flatMap_append

/-- What authorization promises of a run that logged these events. -/
structure Gated (wire : Wire) (gate : Gate τ) (start : Peer σ τ) (events : List ServerEvent)
    (run : Except (Halt IoError) HandedBack × Peer σ τ) : Prop where
  answers : Answers gate.ask start.state.policy events run.2.state.policy
  called : ∀ before call after, events = before ++ .called call :: after →
    (∃ earlier code body service,
      before = earlier ++ [.request code body, .authorized service (.ok ())] ∧
      fromServerRequestCode (.fromPrimitive code) = some service) ∧
    ∀ name ∈ call.peer, name = gate.peerName
  handedBack : ∀ code body, run.1 = .ok (some (code, body)) →
    ∃ earlier service, events = earlier ++ [.request code body, .authorized service (.ok ())] ∧
      fromServerRequestCode (.fromPrimitive code) = some service
  denied : ∀ before service error after,
    events = before ++ .authorized service (.error error) :: after →
    (∃ earlier code body, before = earlier ++ [.request code body] ∧
      fromServerRequestCode (.fromPrimitive code) = some service) ∧
    Refuses wire start.send.outcome "authorization denied" (Server.denied error) after run.1 ∧
    start.recv.bytes = requestFrames events ++ run.2.recv.bytes
  unassigned : ∀ before code body after, events = before ++ .request code body :: after →
    Server.RequestCode.fromPrimitive code = .unknown →
    Refuses wire start.send.outcome "unknown request code" unknownRequestCode after run.1 ∧
    start.recv.bytes = requestFrames events ++ run.2.recv.bytes

section runs

variable {wire : Wire} {handler : Handler σ} {gate : Gate τ}

/-- What an arm logged is all it did. -/
theorem Gate.exchange_serves {w w' : Peer σ τ} {rest : Bytes}
    {request : UInt32 × Bytes} {logged : List ServerEvent}
    {outcome : Except (Halt IoError) (Turn Unit HandedBack)}
    (ran : (gate.arms wire handler request).run
      ((serverProtocol wire).atRequest w rest request) = (outcome, w'))
    (log : w'.log = w.log ++ (serverProtocol wire).event request :: logged) :
    Acts gate.ask ((serverProtocol wire).atRequest w rest request) logged w' ∧
      Serves wire w.send.outcome gate.peerName request.1 request.2
        logged outcome := by
  obtain ⟨added, result, v, arm, acts, serves⟩ :=
    gate.arms_serves wire handler request.1 request.2
      ((serverProtocol wire).atRequest w rest request)
  have same : (result, v) = (outcome, w') := arm.symm.trans ran
  obtain ⟨rfl, rfl⟩ := Prod.mk.inj same
  have logs : added = logged := by
    have both := acts.log.symm.trans log
    simp only [Protocol.atRequest, List.append_assoc, List.singleton_append,
      List.append_cancel_left_eq, List.cons.injEq, true_and] at both
    exact both
  rw [logs] at acts serves
  exact ⟨acts, serves⟩

/-- An arm reads no request. -/
theorem Serves.requestFrames_eq {outcome : Nat → Bytes → Option IoError} {peerName : String}
    {code : UInt32} {body : Bytes} {logged : List ServerEvent}
    {result : Except (Halt IoError) (Turn Unit HandedBack)}
    (serves : Serves wire outcome peerName code body logged result) :
    requestFrames logged = [] := by
  cases serves with
  | unassigned _ refuses => rcases refuses with ⟨rfl, -⟩ | ⟨rfl, -⟩ <;> rfl
  | denied _ refuses => rcases refuses with ⟨rfl, -⟩ | ⟨rfl, -⟩ <;> rfl
  | undecodable _ => rfl
  | answered _ _ => rfl
  | unanswered _ _ => rfl
  | handedBack _ => rfl

/-- One request and its arm read the frame of that request. -/
theorem Gate.exchange_consumed {w w' : Peer σ τ} {frameBody rest : Bytes}
    {request : UInt32 × Bytes} {logged : List ServerEvent}
    {outcome : Except (Halt IoError) (Turn Unit HandedBack)}
    (bytes : w.recv.bytes = frame frameBody ++ rest)
    (parsed : (serverProtocol wire).parse frameBody = .ok request)
    (ran : (gate.arms wire handler request).run
      ((serverProtocol wire).atRequest w rest request) = (outcome, w'))
    (log : w'.log = w.log ++ (serverProtocol wire).event request :: logged) :
    w.recv.bytes =
      requestFrames ((serverProtocol wire).event request :: logged) ++ w'.recv.bytes := by
  obtain ⟨acts, serves⟩ := gate.exchange_serves ran log
  have whole : requestFrames ((serverProtocol wire).event request :: logged) =
      frame (Wire.requestFrame request.1 request.2) ++
        requestFrames logged := rfl
  rw [whole, serves.requestFrames_eq, List.append_nil, acts.recv, bytes,
    wire.splitRequest_ok parsed]
  rfl

theorem Gate.reaches_consumed {w v : Peer σ τ}
    {exchanges : List (Protocol.Exchange (UInt32 × Bytes) ServerEvent)}
    (reaches : (serverProtocol wire).Reaches (gate.arms wire handler) w exchanges v) :
    w.recv.bytes =
      requestFrames (exchanges.flatMap (Protocol.Exchange.events (serverProtocol wire))) ++
        v.recv.bytes := by
  induction reaches with
  | here => rfl
  | step bytes fits parsed ran log rounds ih =>
      rw [gate.exchange_consumed bytes parsed ran log, List.flatMap_cons, requestFrames_append,
        List.append_assoc, ih, Protocol.Exchange.events]

theorem Gate.course_answers {w : Peer σ τ}
    {exchanges : List (Protocol.Exchange (UInt32 × Bytes) ServerEvent)}
    {result : Except (Halt IoError) HandedBack × Peer σ τ}
    (course : (serverProtocol wire).Course (gate.arms wire handler) w exchanges result) :
    Answers gate.ask w.state.policy
      (exchanges.flatMap (Protocol.Exchange.events (serverProtocol wire)))
      result.2.state.policy := by
  induction course with
  | waiting idle => rfl
  | ended ends => rfl
  | next bytes fits parsed ran log rounds ih =>
      have acts := (gate.exchange_serves ran log).1
      rw [List.flatMap_cons]
      exact Answers.append acts.answers ih
  | last bytes fits parsed ran log settles =>
      have acts := (gate.exchange_serves ran log).1
      rw [List.flatMap_cons, List.flatMap_nil, List.append_nil]
      exact acts.answers

/-- A loop hands a request back only at its end, and after the authorizer's yes. -/
theorem Gate.course_handedBack {w : Peer σ τ}
    {exchanges : List (Protocol.Exchange (UInt32 × Bytes) ServerEvent)}
    {result : Except (Halt IoError) HandedBack × Peer σ τ}
    (course : (serverProtocol wire).Course (gate.arms wire handler) w exchanges result)
    {code : UInt32} {body : Bytes} (back : result.1 = .ok (some (code, body))) :
    ∃ earlier service, exchanges.flatMap (Protocol.Exchange.events (serverProtocol wire)) =
        earlier ++ [.request code body, .authorized service (.ok ())] ∧
      fromServerRequestCode (.fromPrimitive code) = some service := by
  induction course with
  | waiting idle => cases back
  | @ended w error rest ends =>
      simp only [Protocol.stopped, serverProtocol] at back
      split at back
      · rename_i value ended
        split at ended
        · cases ended
          cases back
        · cases ended
      · cases back
  | next bytes fits parsed ran log rounds ih =>
      obtain ⟨earlier, service, events, named⟩ := ih back
      rw [List.flatMap_cons, events, ← List.append_assoc]
      exact ⟨_, service, rfl, named⟩
  | @last w frameBody rest request logged outcome w' result bytes fits parsed ran log settles =>
      have serves := (gate.exchange_serves ran log).2
      have stop : outcome = .ok (.stop (some (code, body))) := by
        dsimp only at back
        subst back
        match outcome, settles with
        | .ok (.stop _), rfl => rfl
      obtain ⟨same, service, rfl, named⟩ := serves.stopped stop
      obtain ⟨rfl, rfl⟩ := Prod.mk.inj (Option.some.inj same)
      exact ⟨[], service, rfl, named⟩

/-- A refusal ends the loop, with its own outcome. -/
theorem Refuses.settled {outcome : Nat → Bytes → Option IoError} {text : String} {error : IoError}
    {logged : List ServerEvent} {result : Except (Halt IoError) (Turn Unit HandedBack)}
    (refuses : Refuses wire outcome text error logged result) :
    ∃ value, Protocol.settled result = some value ∧
      Refuses wire outcome text error logged value := by
  rcases refuses with ⟨rfl, rfl⟩ | ⟨rfl, attempt, failure, lost, rfl⟩
  · exact ⟨_, rfl, .inl ⟨rfl, rfl⟩⟩
  · exact ⟨_, rfl, .inr ⟨rfl, attempt, failure, lost, rfl⟩⟩

/-- An entry of a log belongs to a request that was served in one of the ways there are,
and if the loop did not go on from it, to the last one that was read. -/
theorem Gate.course_at {w : Peer σ τ}
    {exchanges : List (Protocol.Exchange (UInt32 × Bytes) ServerEvent)}
    {result : Except (Halt IoError) HandedBack × Peer σ τ}
    (course : (serverProtocol wire).Course (gate.arms wire handler) w exchanges result)
    {event : ServerEvent} {front back : List ServerEvent}
    (split : exchanges.flatMap (Protocol.Exchange.events (serverProtocol wire)) =
      front ++ event :: back) :
    ∃ earlier code body logged start stop outcome later,
      .request code body :: logged = start ++ event :: stop ∧ front = earlier ++ start ∧
      back = stop ++ later ∧
      Serves wire w.send.outcome gate.peerName code body logged outcome ∧
      ∀ value, Protocol.settled outcome = some value → later = [] ∧ result.1 = value ∧
        w.recv.bytes =
          requestFrames (exchanges.flatMap (Protocol.Exchange.events (serverProtocol wire))) ++
          result.2.recv.bytes := by
  obtain ⟨earlier, exchange, later, start, stop, rfl, inside, opening, closing⟩ :=
    Protocol.inExchange split
  obtain ⟨v, frameBody, rest, outcome, v', reaches, bytes, -, parsed, ran, log, continues⟩ :=
    course.at_exchange
  have serves := (gate.exchange_serves ran log).2
  rw [reaches.progress.outcome] at serves
  refine ⟨_, exchange.request.1, exchange.request.2, exchange.logged, start, stop, outcome, _,
    inside, opening, closing, serves, fun value settles => ?_⟩
  rcases continues with ⟨rfl, -⟩ | ⟨rfl, _, same, rfl⟩
  · cases settles
  · refine ⟨rfl, Option.some.inj (same.symm.trans settles), ?_⟩
    rw [List.flatMap_append, requestFrames_append, List.flatMap_cons, List.flatMap_nil,
      List.append_nil, List.append_assoc, Protocol.Exchange.events,
      ← gate.exchange_consumed bytes parsed ran log]
    exact gate.reaches_consumed reaches

/-- Nothing reaches the handler or the caller unless the authorizer said yes to it, the
first no ends the loop, and so does a code that names nothing. -/
theorem authorization_complete (wire : Wire) (handler : Handler σ) (gate : Gate τ)
    (start : Peer σ τ) :
    (∃ events, ((gate.loop wire handler).run start).2.log = start.log ++ events ∧
      Gated wire gate start events ((gate.loop wire handler).run start)) ∧
    (∀ error, (Server.denied error).kind = .permissionDenied ∧
      ProtocolErrorKind.ofIoError (Server.denied error) = .forbidden) ∧
    ProtocolErrorKind.ofIoError unknownRequestCode = .notSupported := by
  refine ⟨?_, fun error => ⟨rfl, rfl⟩, rfl⟩
  rw [gate.loop_eq_serve]
  obtain ⟨exchanges, course⟩ :=
    (serverProtocol wire).serve_course (gate.arms wire handler) start
  refine ⟨_, course.log_eq, gate.course_answers course, ?_, ?_, ?_, ?_⟩
  · intro before call after split
    obtain ⟨earlier, code, body, logged, first, stop, outcome, later, inside, rfl, rfl, serves,
      -⟩ :=
      gate.course_at course split
    obtain ⟨⟨service, rfl, named⟩, peer⟩ := serves.called inside
    exact ⟨⟨earlier, code, body, service, rfl, named⟩, peer⟩
  · intro code body back
    exact gate.course_handedBack course back
  · intro before service error after split
    obtain ⟨earlier, code, body, logged, first, stop, outcome, later, inside, rfl, rfl, serves,
      settles⟩ :=
      gate.course_at course split
    obtain ⟨rfl, named, refuses⟩ := serves.refused inside
    obtain ⟨value, settled, refuses⟩ := refuses.settled
    obtain ⟨rfl, result, consumed⟩ := settles value settled
    rw [result, List.append_nil]
    exact ⟨⟨earlier, code, body, rfl, named⟩, refuses, consumed⟩
  · intro before code body after split unassigned
    obtain ⟨earlier, _, _, logged, first, stop, outcome, later, inside, rfl, rfl, serves,
      settles⟩ :=
      gate.course_at course split
    obtain ⟨rfl, rfl, rfl, rfl⟩ := serves.requested inside
    obtain ⟨value, settled, refuses⟩ := (serves.unknown unassigned).settled
    obtain ⟨rfl, result, consumed⟩ := settles value settled
    rw [result, List.append_nil]
    exact ⟨refuses, consumed⟩

end runs

end ReviewProtocol.Server
