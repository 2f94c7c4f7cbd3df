import ReviewProtocol.Agent.Passage
import ReviewProtocol.Agent.Pairing

set_option autoImplicit false

/- What the peer learns of arguments that do not decode. The frame that answers them is made
of the request code alone, and what came before does not depend on what comes after, so two
bodies that both fail to decode look the same from the other side. -/
namespace ReviewProtocol

open Framing (Bytes Act RecvStream Halt frame)
open Framing.Act (Steady steady_pure steady_fail steady_emit steady_update steady_orFail steady_send
  steady_recv)

variable {σ : Type}

/-! ### What follows on the stream does not matter to a request -/

theorem PackageReader.readChunk_steady (reader : PackageReader) :
    Steady (reader.readChunk : AgentAct σ _) := by
  refine steady_recv.bind fun read => ?_
  cases read with
  | error lost => exact (steady_emit _).bind fun _ => steady_pure _
  | ok body =>
      refine (steady_emit _).bind fun _ => ?_
      split
      · exact steady_pure _
      · exact steady_pure _

theorem PackageReader.nextChunk_steady (reader : PackageReader) :
    Steady (reader.nextChunk : AgentAct σ _) := by
  unfold nextChunk
  by_cases failed : reader.failed = true
  · rw [if_pos failed]
    exact steady_pure _
  · rw [if_neg failed]
    by_cases complete : reader.remaining = 0
    · rw [if_pos complete]
      exact steady_pure _
    · rw [if_neg complete]
      refine reader.readChunk_steady.bind fun read => ?_
      obtain ⟨result, buf, after⟩ := read
      cases result with
      | ok done => exact steady_pure _
      | error error => exact steady_pure _

theorem PackageReader.drain_steady (reader : PackageReader) :
    Steady (reader.drain : AgentAct σ _) := by
  refine Steady.loop (fun reader => ?_) reader
  refine reader.nextChunk_steady.bind fun answered => ?_
  obtain ⟨answer, after⟩ := answered
  cases answer with
  | chunk body => exact steady_pure _
  | finished => exact steady_pure _
  | failed error seen => exact steady_pure _

theorem InstallProg.run_steady {α : Type} (prog : InstallProg α) (reader : PackageReader) :
    Steady (prog.run reader : AgentAct σ _) := by
  induction prog generalizing reader with
  | ret value => exact steady_pure _
  | nextChunk resume ih =>
      refine reader.nextChunk_steady.bind fun answered => ?_
      exact ih answered.1 answered.2

section steady

variable (wire : Wire)

theorem sendResponse_steady (ty : WireTy) (result : Except String ty.denote) :
    Steady (sendResponse wire ty result : AgentAct σ Unit) :=
  (steady_send _ _).bind fun sent => steady_orFail _ sent

theorem invoke_steady {ty : WireTy} (call : AgentCall) (ask : σ → Except String ty.denote × σ) :
    Steady (invoke call ask) :=
  (steady_emit _).bind fun _ => steady_update ask

theorem receivePackage_steady (handler : NodeHandler σ) (req : NodePackageRequest) (size : Nat) :
    Steady (receivePackage handler req size) := by
  refine (steady_emit _).bind fun _ => (steady_update _).bind fun state => ?_
  refine (InstallProg.run_steady _ _).bind fun returned => ?_
  refine (steady_update _).bind fun _ => (steady_emit _).bind fun _ => ?_
  exact (PackageReader.drain_steady _).bind fun _ => steady_pure _

theorem Plan.perform_steady (handler : NodeHandler σ) (code : UInt32) (plan : Plan σ) :
    Steady (plan.perform wire handler code) := by
  cases plan with
  | undecodable error => exact (steady_send _ _).bind fun _ => steady_fail _
  | answer ty result => exact sendResponse_steady wire ty result
  | unary call ty ask =>
      exact (invoke_steady call ask).bind fun result => sendResponse_steady wire ty result
  | silent call ask => exact (steady_emit _).bind fun _ => steady_update _
  | install fields =>
      refine (invoke_steady _ _).bind fun verdict => ?_
      refine (sendResponse_steady wire _ _).bind fun _ => ?_
      split
      · exact (receivePackage_steady handler _ _).bind fun _ => sendResponse_steady wire _ _
      · exact steady_pure _

theorem Loop.goOn_steady (loop : Loop σ) (request : UInt32 × Bytes) :
    Steady (goOn (loop.arms wire) request) := by
  refine Steady.bind ?_ fun _ => steady_pure _
  rw [loop.arms_eq]
  exact Plan.perform_steady wire _ _ _

end steady

/-! ### Arguments that do not decode -/

section undecodable

variable {wire : Wire} {code : UInt32} {body : Bytes} {ty : WireTy} {cause : IoError}

theorem pairing_undecodable {request : Client.RequestCode} (args : request.args = some ty)
    (refused : wire.decode ty body = .error cause) :
    pairing wire request body = .undecodable := by
  cases request <;> cases args <;> simp only [pairing, Client.RequestCode.args, refused]

theorem undecodable_of_pairing {plan : Plan σ} (pairs : plan.pairing = .undecodable) :
    ∃ error, plan = .undecodable error := by
  cases plan with
  | undecodable error => exact ⟨error, rfl⟩
  | answer | unary | silent | install => cases pairs

/-- A code that has arguments for the loop is taken for what it is. -/
theorem Loop.sees_of_args {loop : Loop σ} (args : (loop.sees code).args = some ty) :
    loop.sees code = .fromPrimitive code := by
  cases loop with
  | handle handler => rfl
  | handleNode handler =>
      change (Client.RequestCode.nodeOnly _).args = some ty at args
      change Client.RequestCode.nodeOnly _ = _
      unfold Client.RequestCode.nodeOnly at args ⊢
      by_cases node : (Client.RequestCode.fromPrimitive code).isNode = true
      · exact if_pos node
      · rw [if_neg node] at args
        cases args

theorem Loop.plan_of_refused {loop : Loop σ} (args : (loop.sees code).args = some ty)
    (refused : wire.decode ty body = .error cause) :
    loop.plan wire code body = .undecodable (classified (loop.sees code).classify cause) := by
  have pairs : (loop.plan wire code body).pairing = pairing wire (loop.sees code) body :=
    loop.pairing_plan code body
  rw [pairing_undecodable args refused] at pairs
  obtain ⟨error, planned⟩ := undecodable_of_pairing pairs
  obtain ⟨other, found, args', refused', same⟩ := Loop.plan_undecodable planned
  have seen := Loop.sees_of_args args
  rw [seen] at args ⊢
  rw [args] at args'
  cases args'
  rw [refused] at refused'
  cases refused'
  rw [planned, same]

/-- What goes out for undecodable arguments, if the transport takes it. -/
def errorAnswer (wire : Wire) (w : Agent σ) (code : UInt32) : List AgentEvent :=
  match w.send.outcome w.send.attempts
    (wire.encode (.result .unit) (.error (undecodableArgsMessage code))) with
  | none => [.replied .unit (.error (undecodableArgsMessage code))]
  | some _ => []

theorem run_undecodable (handler : NodeHandler σ) (error : IoError) (w : Agent σ) :
    ((Plan.undecodable error).perform wire handler code).run w =
      (.error (.failed (.recvError error)),
        { w with send.attempts := w.send.attempts + 1
                 log := w.log ++ errorAnswer wire w code }) := by
  simp only [Plan.perform, Act.run_bind, trySend]
  rcases Act.run_send_cases (ε := HandlerError)
      (wire.encode (.result .unit) (.error (undecodableArgsMessage code)))
      (AgentEvent.replied .unit (.error (undecodableArgsMessage code))) w with
    ⟨out, sent⟩ | ⟨lost, out, sent⟩
  · rw [sent, errorAnswer, out]
    rfl
  · rw [sent, errorAnswer, out, List.append_nil]
    rfl

/-- The loop in front of the request: it answers as it can, and ends with the decode error. -/
theorem Loop.run_refused (loop : Loop σ) {v : Agent σ} {rest : Bytes}
    (args : (loop.sees code).args = some ty) (refused : wire.decode ty body = .error cause)
    (bytes : v.recv.bytes = frame (Wire.requestFrame code body) ++ rest)
    (fits : (Wire.requestFrame code body).length < Framing.frameLimit) :
    (loop.run wire).run v =
      (.error (.failed (.recvError (classified (loop.sees code).classify cause))),
        { v with recv.bytes := rest
                 send.attempts := v.send.attempts + 1
                 log := v.log ++ .request code body :: errorAnswer wire v code }) := by
  have parsed : (agentProtocol wire).parse (Wire.requestFrame code body) = .ok (code, body) :=
    wire.splitRequest_requestFrame code body
  have served := (agentProtocol wire).serve_request (goOn (loop.arms wire)) bytes fits parsed
  rw [loop.run_eq_serve]
  refine served.trans ?_
  rw [run_goOn, loop.arms_eq, Loop.plan_of_refused args refused, run_undecodable]
  show _ = (_, { v with recv.bytes := rest, send.attempts := _, log := _ })
  rw [← List.singleton_append, ← List.append_assoc]
  rfl

end undecodable

/-- The bytes that were written to the peer. -/
def sentBytes (wire : Wire) (log : List AgentEvent) : Bytes :=
  (responses log).flatMap fun response => frame (wire.encode (.result response.1) response.2)

/-- The loop serves what is on the stream, to its last byte, and goes round again. -/
structure ServesAll (wire : Wire) (loop : Loop σ) (before v : Agent σ) : Prop where
  unfinished : before.recv.fin = none
  served : ∃ earlier, (agentProtocol wire).Reaches (goOn (loop.arms wire)) before earlier v
  consumed : v.recv.bytes = []

/-- A run that ended at a request whose arguments do not decode: with the decode error, and
without a call of the handler since the request was read. -/
structure EndsUndecodable (wire : Wire) (loop : Loop σ) (code : UInt32) (ty : WireTy) (v : Agent σ)
    (body : Bytes) (outcome : Except (Halt HandlerError) Unit × Agent σ) : Prop where
  error : ∃ cause, wire.decode ty body = .error cause ∧
    outcome.1 = .error (.failed (.recvError (classified (loop.sees code).classify cause)))
  uncalled : ∃ events, outcome.2.log = v.log ++ .request code body :: events ∧
    ∀ event ∈ events, ∃ result, event = .replied .unit result
  state : outcome.2.state = v.state

theorem errorAnswer_replies (wire : Wire) (w : Agent σ) (code : UInt32) :
    ∀ event ∈ errorAnswer wire w code, ∃ result, event = .replied .unit result := by
  intro event member
  unfold errorAnswer at member
  split at member
  · rw [List.mem_singleton.mp member]
    exact ⟨_, rfl⟩
  · cases member

/-- The request behind a common prefix that the loop has served. -/
theorem ServesAll.run_refused {wire : Wire} {loop : Loop σ} {before v : Agent σ} {code : UInt32}
    {ty : WireTy} {body : Bytes} {cause : IoError} (prior : ServesAll wire loop before v)
    (args : (loop.sees code).args = some ty) (refused : wire.decode ty body = .error cause)
    (fits : (Wire.requestFrame code body).length < Framing.frameLimit) (rest : Bytes)
    (fin : Option IoError) :
    (loop.run wire).run (before.followed (frame (Wire.requestFrame code body) ++ rest) fin) =
      (.error (.failed (.recvError (classified (loop.sees code).classify cause))),
        { v with recv := ⟨rest, fin⟩
                 send.attempts := v.send.attempts + 1
                 log := v.log ++ .request code body :: errorAnswer wire v code }) := by
  obtain ⟨earlier, reaches⟩ := prior.served
  have same := (reaches.followed (loop.goOn_steady wire) prior.unfinished
    (frame (Wire.requestFrame code body) ++ rest) fin).run_eq
  have bytes : (v.followed (frame (Wire.requestFrame code body) ++ rest) fin).recv.bytes =
      frame (Wire.requestFrame code body) ++ rest := by
    show v.recv.bytes ++ _ = _
    rw [prior.consumed, List.nil_append]
  have run := loop.run_refused args refused bytes fits
  rw [loop.run_eq_serve] at run ⊢
  exact same.trans run

/-- Undecodable arguments leak nothing. Behind any requests that either loop has served,
two bodies that both fail to decode for a code have the same bytes written to the peer in the
two runs, whatever comes after them; the handler is not called for the frame, and the loop
ends with the decode error, whether or not the error frame went out. -/
theorem undecodable_leaks_nothing (wire : Wire) (loop : Loop σ) (code : UInt32) (ty : WireTy)
    (args : (loop.sees code).args = some ty) (before v : Agent σ)
    (prior : ServesAll wire loop before v) (body₁ body₂ : Bytes) (cause₁ cause₂ : IoError)
    (refused₁ : wire.decode ty body₁ = .error cause₁)
    (refused₂ : wire.decode ty body₂ = .error cause₂)
    (fits₁ : (Wire.requestFrame code body₁).length < Framing.frameLimit)
    (fits₂ : (Wire.requestFrame code body₂).length < Framing.frameLimit)
    (rest₁ rest₂ : Bytes) (fin₁ fin₂ : Option IoError) :
    let run₁ := (loop.run wire).run
      (before.followed (frame (Wire.requestFrame code body₁) ++ rest₁) fin₁)
    let run₂ := (loop.run wire).run
      (before.followed (frame (Wire.requestFrame code body₂) ++ rest₂) fin₂)
    sentBytes wire run₁.2.log = sentBytes wire run₂.2.log ∧
      sentBytes wire run₁.2.log =
        sentBytes wire v.log ++ sentBytes wire (errorAnswer wire v code) ∧
      EndsUndecodable wire loop code ty v body₁ run₁ ∧
      EndsUndecodable wire loop code ty v body₂ run₂ := by
  have first := prior.run_refused args refused₁ fits₁ rest₁ fin₁
  have second := prior.run_refused args refused₂ fits₂ rest₂ fin₂
  dsimp only
  rw [first, second]
  have sent (body : Bytes) :
      sentBytes wire (v.log ++ .request code body :: errorAnswer wire v code) =
        sentBytes wire v.log ++ sentBytes wire (errorAnswer wire v code) := by
    unfold sentBytes
    rw [responses_append, List.flatMap_append]
    rfl
  refine ⟨(sent body₁).trans (sent body₂).symm, sent body₁, ?_, ?_⟩
  · exact ⟨⟨cause₁, refused₁, rfl⟩, ⟨_, rfl, errorAnswer_replies wire v code⟩, rfl⟩
  · exact ⟨⟨cause₂, refused₂, rfl⟩, ⟨_, rfl, errorAnswer_replies wire v code⟩, rfl⟩

/-- An agent with an echo request to read, and what it is when that is served. -/
def echoing : Agent Unit :=
  connected () ⟨encodedRequest .echoRequest [], none⟩ (.healthy (.simple .invalidInput))

def echoed : Agent Unit :=
  wrote (atRequest echoing [] (Client.RequestCode.discriminant .echoRequest) []) .unit (.ok ())

theorem echoing_served :
    ServesAll Encoding.bincode (.handle eagerHandler) echoing echoed := by
  refine ⟨rfl, ⟨_, .step (List.append_nil _).symm (by decide)
    (Encoding.bincode.splitRequest_requestFrame _ _) ?_ rfl .here⟩, rfl⟩
  rfl

def noArguments : Bytes := []

def strangeArguments : Bytes := [9]

/-- The stream behind the echo: a package request with these arguments. -/
def packageFrame (body : Bytes) : Bytes :=
  frame (Wire.requestFrame (Client.RequestCode.discriminant .nodePackage) body) ++ noArguments

/-- After an echo, a package request that breaks off at once and one of no known kind. -/
theorem undecodable_leaks_nothing_package :
    noArguments ≠ strangeArguments ∧
      sentBytes Encoding.bincode (((Loop.handle eagerHandler).run Encoding.bincode).run
        (echoing.followed (packageFrame noArguments) none)).2.log =
      sentBytes Encoding.bincode (((Loop.handle eagerHandler).run Encoding.bincode).run
        (echoing.followed (packageFrame strangeArguments) none)).2.log := by
  have leakless := undecodable_leaks_nothing Encoding.bincode (.handle eagerHandler)
    (Client.RequestCode.discriminant .nodePackage) .nodePackageRequest rfl echoing echoed
    echoing_served noArguments strangeArguments _ _ rfl rfl (by decide) (by decide) noArguments
    noArguments none none
  refine ⟨by decide, ?_⟩
  unfold packageFrame
  exact leakless.1

end ReviewProtocol
