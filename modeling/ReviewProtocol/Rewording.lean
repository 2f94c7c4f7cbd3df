import ReviewProtocol.Agent.Secrecy
import ReviewProtocol.Encoding.Format
import ReviewProtocol.Lib.Rewording
import ReviewProtocol.Mediation

set_option autoImplicit false

/- All that the loops of either party take from a request is its code and what its arguments
decode to. The encoding of the crate ignores what comes after a value, so a peer may send
more after the arguments than this one knows of. -/
namespace ReviewProtocol

open Framing (Bytes Act RecvStream Halt frame)
open Framing.Act (Forgetful Steady forgetful_pure forgetful_fail forgetful_emit forgetful_update
  forgetful_orFail forgetful_send forgetful_recv)
open Framing.Protocol (Reworded SameOutcome)

variable {σ : Type}

/-- What a loop takes from the body of a request. -/
inductive Reading where
  | unread
  | raw (body : Bytes)
  | args (ty : WireTy) (decoded : Except IoError ty.denote)

def Wire.read (wire : Wire) (raw : Bool) (args : Option WireTy) (body : Bytes) : Reading :=
  if raw then .raw body
  else
    match args with
    | some ty => .args ty (wire.decode ty body)
    | none => .unread

section reading

variable {wire : Wire} {raw : Bool} {args : Option WireTy} {body body' : Bytes}

theorem Wire.body_of_read (same : wire.read raw args body = wire.read raw args body')
    (unparsed : raw = true) : body = body' := by
  simp only [read, if_pos unparsed, Reading.raw.injEq] at same
  exact same

theorem Wire.decode_of_read (same : wire.read raw args body = wire.read raw args body')
    (parsed : raw = false) (ty : WireTy) (typed : args = some ty) :
    wire.decode ty body = wire.decode ty body' := by
  subst typed
  simp only [read, parsed, Bool.false_eq_true, if_false, Reading.args.injEq, heq_eq_eq,
    true_and] at same
  exact same

end reading

/-! ### The agent's loops -/

/-- What either loop takes a request for. -/
def Loop.reading (wire : Wire) (loop : Loop σ) (request : UInt32 × Bytes) : UInt32 × Reading :=
  (request.1, wire.read (loop.sees request.1 == .semiSupervisedModels) (loop.sees request.1).args
    request.2)

/-- A log with its requests as they are read. -/
def Loop.readEvent (wire : Wire) (loop : Loop σ) : AgentEvent → AgentEvent ⊕ (UInt32 × Reading)
  | .request code body => .inr (loop.reading wire (code, body))
  | event => .inl event

section plans

variable {wire : Wire} {code : UInt32} {body body' : Bytes}

theorem planArgs_congr {ty : WireTy} (classify : Option ProtocolErrorKind)
    (plan : ty.denote → Plan σ) (same : wire.decode ty body = wire.decode ty body') :
    planArgs wire ty body classify plan = planArgs wire ty body' classify plan := by
  simp only [planArgs, same]

theorem nodePlan_nodeOnly (call : (call : NodeCall) → σ → Except String call.ret.denote × σ)
    (wire : Wire) (code : UInt32) (body : Bytes) (request : Client.RequestCode) :
    nodePlan call wire code body request = nodePlan call wire code body request.nodeOnly := by
  cases request <;> rfl

theorem nodePlan_congr (call : (call : NodeCall) → σ → Except String call.ret.denote × σ)
    (request : Client.RequestCode)
    (same : ∀ ty, request.args = some ty → wire.decode ty body = wire.decode ty body') :
    nodePlan call wire code body request = nodePlan call wire code body' request := by
  cases request <;> first
    | rfl
    | exact planArgs_congr _ _ (same _ rfl)

theorem Handler.plan_congr (handler : Handler σ)
    (unparsed : Client.RequestCode.fromPrimitive code = .semiSupervisedModels → body = body')
    (same : ∀ ty, (Client.RequestCode.fromPrimitive code).args = some ty →
      wire.decode ty body = wire.decode ty body') :
    handler.plan wire code body = handler.plan wire code body' := by
  unfold Handler.plan
  cases request : Client.RequestCode.fromPrimitive code <;> rw [request] at unparsed same <;>
    first
      | rfl
      | exact planArgs_congr _ _ (same _ rfl)
      | rw [unparsed rfl]

/-- Requests that read the same are planned the same. -/
theorem Loop.plan_congr (loop : Loop σ)
    (same : loop.reading wire (code, body) = loop.reading wire (code, body')) :
    loop.plan wire code body = loop.plan wire code body' := by
  have read := congrArg Prod.snd same
  cases loop with
  | handle handler =>
      by_cases unparsed : Client.RequestCode.fromPrimitive code = .semiSupervisedModels
      · have equal : body = body' := Wire.body_of_read read (beq_iff_eq.mpr unparsed)
        rw [equal]
      · apply handler.plan_congr
        · intro impossible
          exact absurd impossible unparsed
        · exact Wire.decode_of_read read (beq_eq_false_iff_ne.mpr unparsed)
  | handleNode handler =>
      have node : (Client.RequestCode.fromPrimitive code).nodeOnly ≠ .semiSupervisedModels := by
        unfold Client.RequestCode.nodeOnly
        split
        · rename_i isNode
          intro impossible
          rw [impossible] at isNode
          cases isNode
        · intro impossible
          cases impossible
      show nodePlan handler.call wire code body _ = nodePlan handler.call wire code body' _
      rw [nodePlan_nodeOnly, nodePlan_nodeOnly handler.call wire code body']
      exact nodePlan_congr _ _ (Wire.decode_of_read read (beq_eq_false_iff_ne.mpr node))

theorem Loop.goOn_congr (loop : Loop σ) (request request' : UInt32 × Bytes)
    (same : loop.reading wire request = loop.reading wire request') :
    goOn (loop.arms wire) request = goOn (loop.arms wire) request' := by
  obtain ⟨code, body⟩ := request
  obtain ⟨code', body'⟩ := request'
  obtain rfl : code = code' := congrArg Prod.fst same
  simp only [goOn, loop.arms_eq, loop.plan_congr same]

end plans

/-! What is in the log does not matter to what the agent does. -/

theorem PackageReader.readChunk_forgetful (reader : PackageReader) :
    Forgetful (reader.readChunk : AgentAct σ _) := by
  apply forgetful_recv.bind
  intro read
  cases read with
  | error lost => exact (forgetful_emit _).bind fun _ => forgetful_pure _
  | ok body =>
      apply (forgetful_emit _).bind
      intro _
      split
      · exact forgetful_pure _
      · exact forgetful_pure _

theorem PackageReader.nextChunk_forgetful (reader : PackageReader) :
    Forgetful (reader.nextChunk : AgentAct σ _) := by
  unfold nextChunk
  by_cases failed : reader.failed = true
  · rw [if_pos failed]
    exact forgetful_pure _
  · rw [if_neg failed]
    by_cases complete : reader.remaining = 0
    · rw [if_pos complete]
      exact forgetful_pure _
    · rw [if_neg complete]
      apply reader.readChunk_forgetful.bind
      rintro ⟨result, buf, after⟩
      cases result with
      | ok done => exact forgetful_pure _
      | error error => exact forgetful_pure _

theorem PackageReader.drain_forgetful (reader : PackageReader) :
    Forgetful (reader.drain : AgentAct σ _) := by
  apply Forgetful.loop
  intro reader
  apply reader.nextChunk_forgetful.bind
  rintro ⟨answer, after⟩
  cases answer with
  | chunk body => exact forgetful_pure _
  | finished => exact forgetful_pure _
  | failed error seen => exact forgetful_pure _

theorem InstallProg.run_forgetful {α : Type} (prog : InstallProg α) (reader : PackageReader) :
    Forgetful (prog.run reader : AgentAct σ _) := by
  induction prog generalizing reader with
  | ret value => exact forgetful_pure _
  | nextChunk resume ih =>
      apply reader.nextChunk_forgetful.bind
      intro answered
      exact ih answered.1 answered.2

section forgetful

variable (wire : Wire)

theorem sendResponse_forgetful (ty : WireTy) (result : Except String ty.denote) :
    Forgetful (sendResponse wire ty result : AgentAct σ Unit) :=
  (forgetful_send _ _).bind fun sent => forgetful_orFail _ sent

theorem invoke_forgetful {ty : WireTy} (call : AgentCall) (ask : σ → Except String ty.denote × σ) :
    Forgetful (invoke call ask) :=
  (forgetful_emit _).bind fun _ => forgetful_update ask

theorem receivePackage_forgetful (handler : NodeHandler σ) (req : NodePackageRequest)
    (size : Nat) : Forgetful (receivePackage handler req size) := by
  apply (forgetful_emit _).bind
  intro _
  apply (forgetful_update _).bind
  intro state
  apply (InstallProg.run_forgetful _ _).bind
  intro returned
  apply (forgetful_update _).bind
  intro _
  apply (forgetful_emit _).bind
  intro _
  exact (PackageReader.drain_forgetful _).bind fun _ => forgetful_pure _

theorem Plan.perform_forgetful (handler : NodeHandler σ) (code : UInt32) (plan : Plan σ) :
    Forgetful (plan.perform wire handler code) := by
  cases plan with
  | undecodable error => exact (forgetful_send _ _).bind fun _ => forgetful_fail _
  | answer ty result => exact sendResponse_forgetful wire ty result
  | unary call ty ask =>
      exact (invoke_forgetful call ask).bind fun result => sendResponse_forgetful wire ty result
  | silent call ask => exact (forgetful_emit _).bind fun _ => forgetful_update _
  | install fields =>
      apply (invoke_forgetful _ _).bind
      intro verdict
      apply (sendResponse_forgetful wire _ _).bind
      intro _
      split
      · exact (receivePackage_forgetful handler _ _).bind fun _ => sendResponse_forgetful wire _ _
      · exact forgetful_pure _

theorem Loop.goOn_forgetful (loop : Loop σ) (request : UInt32 × Bytes) :
    Forgetful (goOn (loop.arms wire) request) := by
  apply Forgetful.bind
  · rw [loop.arms_eq]
    exact Plan.perform_forgetful wire _ _ _
  · intro _
    exact forgetful_pure _

end forgetful

/-- The handler call of an entry, however its requests are read. -/
def readCall : AgentEvent ⊕ (UInt32 × Reading) → Option AgentCall
  | .inl (.called call) => some call
  | _ => none

/-- The response of an entry, however its requests are read. -/
def readResponse : AgentEvent ⊕ (UInt32 × Reading) →
    Option ((ty : WireTy) × Except String ty.denote)
  | .inl (.replied ty result) => some ⟨ty, result⟩
  | _ => none

theorem calls_eq_filterMap (wire : Wire) (loop : Loop σ) (log : List AgentEvent) :
    calls log = (log.map (loop.readEvent wire)).filterMap readCall := by
  rw [List.filterMap_map]
  apply List.filterMap_congr
  intro event _
  cases event <;> rfl

theorem responses_eq_filterMap (wire : Wire) (loop : Loop σ) (log : List AgentEvent) :
    responses log = (log.map (loop.readEvent wire)).filterMap readResponse := by
  rw [List.filterMap_map]
  apply List.filterMap_congr
  intro event _
  cases event <;> rfl

theorem calls_of_read {wire : Wire} {loop : Loop σ} {log log' : List AgentEvent}
    (same : log.map (loop.readEvent wire) = log'.map (loop.readEvent wire)) :
    calls log = calls log' ∧ responses log = responses log' := by
  constructor
  · rw [calls_eq_filterMap wire loop, same, ← calls_eq_filterMap]
  · rw [responses_eq_filterMap wire loop, same, ← responses_eq_filterMap]

/-- Either loop of the agent, with any number of requests worded otherwise. -/
theorem Loop.run_reworded (wire : Wire) (loop : Loop σ) {w w' : Agent σ}
    (rewords : Relation.ReflTransGen
      (Reworded (agentProtocol wire) (goOn (loop.arms wire)) (loop.reading wire)) w w') :
    SameOutcome (loop.readEvent wire) ((loop.run wire).run w) ((loop.run wire).run w') := by
  rw [loop.run_eq_serve]
  apply Framing.Protocol.serve_reworded (loop.goOn_steady wire) (loop.goOn_forgetful wire)
    loop.goOn_congr _ rewords
  intro request request' same
  exact congrArg Sum.inr same

/-! ### The manager's loops -/

namespace Server

variable {τ : Type}

/-- The codes that the loops have no arm for. Their bodies go back to the caller as they are. -/
def RequestCode.left : Server.RequestCode → Bool
  | getDataSourceList => true
  | getMaxEventIdNum => true
  | removeOutliers => true
  | _ => false

/-- What either loop takes a request for. -/
def reading (wire : Wire) (request : UInt32 × Bytes) : UInt32 × Reading :=
  (request.1, wire.read (RequestCode.fromPrimitive request.1).left
    (RequestCode.fromPrimitive request.1).args request.2)

/-- A log with its requests as they are read. -/
def readEvent (wire : Wire) : ServerEvent → ServerEvent ⊕ (UInt32 × Reading)
  | .request code body => .inr (reading wire (code, body))
  | event => .inl event

section plans

variable {wire : Wire} {code : UInt32} {body body' : Bytes}

theorem planArgs_congr {ty : WireTy} (classify : Option ProtocolErrorKind)
    (call : ty.denote → ServerCall) (same : wire.decode ty body = wire.decode ty body') :
    planArgs wire ty body classify call = planArgs wire ty body' classify call := by
  simp only [planArgs, same]

theorem planOf_congr (peerName : String)
    (same : ∀ ty, (RequestCode.fromPrimitive code).args = some ty →
      wire.decode ty body = wire.decode ty body') :
    planOf wire peerName code body = planOf wire peerName code body' := by
  unfold planOf
  cases request : RequestCode.fromPrimitive code <;> rw [request] at same <;> first
    | rfl
    | exact planArgs_congr _ _ (same _ rfl)

theorem not_handBack_of_left (peerName : String)
    (served : (RequestCode.fromPrimitive code).left = false) :
    planOf wire peerName code body ≠ .handBack := by
  have kept {ty : WireTy} {classify : Option ProtocolErrorKind} {call : ty.denote → ServerCall} :
      planArgs wire ty body classify call ≠ .handBack := by
    unfold planArgs
    cases wire.decode ty body with
    | ok args =>
        intro impossible
        cases impossible
    | error error =>
        cases classify <;>
        · intro impossible
          cases impossible
  unfold planOf
  cases request : RequestCode.fromPrimitive code <;> rw [request] at served <;> first
    | exact kept
    | exact absurd served (by decide)
    | (intro impossible
       cases impossible)

/-- Requests that read the same are served the same. -/
theorem handleAuthorizedArms_congr (handler : Handler σ) (peerName : String)
    (same : reading wire (code, body) = reading wire (code, body')) :
    (handleAuthorizedArms wire handler peerName code body : ServerAct σ τ _) =
      handleAuthorizedArms wire handler peerName code body' := by
  have read := congrArg Prod.snd same
  by_cases left : (RequestCode.fromPrimitive code).left = true
  · have equal : body = body' := Wire.body_of_read read left
    rw [equal]
  · rw [Bool.not_eq_true] at left
    have planned : planOf wire peerName code body = planOf wire peerName code body' :=
      planOf_congr peerName (Wire.decode_of_read read left)
    have kept : planOf wire peerName code body ≠ .handBack := not_handBack_of_left peerName left
    rw [handleAuthorizedArms_eq, handleAuthorizedArms_eq, ← planned]
    cases plan : planOf wire peerName code body with
    | handBack => exact absurd plan kept
    | undecodable error => rfl
    | unary call => rfl
    | unknown => rfl

theorem Gate.arms_congr (handler : Handler σ) (gate : Gate τ) (request request' : UInt32 × Bytes)
    (same : reading wire request = reading wire request') :
    gate.arms wire handler request = gate.arms wire handler request' := by
  obtain ⟨code, body⟩ := request
  obtain ⟨code', body'⟩ := request'
  obtain rfl : code = code' := congrArg Prod.fst same
  simp only [Gate.arms, handleAuthorizedArms_congr handler gate.peerName same]

end plans

section arms

variable (wire : Wire)

theorem respond_steady (ty : WireTy) (result : Except String ty.denote) :
    Steady (respond wire ty result : ServerAct σ τ Unit) :=
  (Act.steady_send _ _).bind fun sent => Act.steady_orFail _ sent

theorem respond_forgetful (ty : WireTy) (result : Except String ty.denote) :
    Forgetful (respond wire ty result : ServerAct σ τ Unit) :=
  (forgetful_send _ _).bind fun sent => forgetful_orFail _ sent

theorem checkAuthorization_steady (service : ServiceId)
    (ask : τ → Except AuthorizationError Unit × τ) :
    Steady (checkAuthorization wire service ask : ServerAct σ τ Unit) := by
  apply (Act.steady_update _).bind
  intro answer
  apply (Act.steady_emit _).bind
  intro _
  cases answer with
  | ok _ => exact Act.steady_pure _
  | error error => exact (respond_steady wire _ _).bind fun _ => Act.steady_fail _

theorem checkAuthorization_forgetful (service : ServiceId)
    (ask : τ → Except AuthorizationError Unit × τ) :
    Forgetful (checkAuthorization wire service ask : ServerAct σ τ Unit) := by
  apply (forgetful_update _).bind
  intro answer
  apply (forgetful_emit _).bind
  intro _
  cases answer with
  | ok _ => exact forgetful_pure _
  | error error => exact (respond_forgetful wire _ _).bind fun _ => forgetful_fail _

theorem Plan.perform_steady (handler : Handler σ) (code : UInt32) (body : Bytes) (plan : Plan) :
    Steady (plan.perform wire handler code body : ServerAct σ τ _) := by
  cases plan with
  | undecodable error => exact Act.steady_fail _
  | unary call =>
      apply Steady.bind ((Act.steady_emit _).bind fun _ => Act.steady_update _)
      intro result
      exact (respond_steady wire _ _).bind fun _ => Act.steady_pure _
  | handBack => exact Act.steady_pure _
  | unknown => exact (respond_steady wire _ _).bind fun _ => Act.steady_fail _

theorem Plan.perform_forgetful (handler : Handler σ) (code : UInt32) (body : Bytes)
    (plan : Plan) : Forgetful (plan.perform wire handler code body : ServerAct σ τ _) := by
  cases plan with
  | undecodable error => exact forgetful_fail _
  | unary call =>
      apply Forgetful.bind ((forgetful_emit _).bind fun _ => forgetful_update _)
      intro result
      exact (respond_forgetful wire _ _).bind fun _ => forgetful_pure _
  | handBack => exact forgetful_pure _
  | unknown => exact (respond_forgetful wire _ _).bind fun _ => forgetful_fail _

theorem Gate.arms_steady (handler : Handler σ) (gate : Gate τ) (request : UInt32 × Bytes) :
    Steady (gate.arms wire handler request) := by
  have served : Steady (handleAuthorizedArms wire handler gate.peerName request.1 request.2 :
      ServerAct σ τ _) := by
    rw [handleAuthorizedArms_eq]
    exact Plan.perform_steady wire handler _ _ _
  unfold Gate.arms
  cases fromServerRequestCode (.fromPrimitive request.1) with
  | none => exact served
  | some service => exact (checkAuthorization_steady wire service _).bind fun _ => served

theorem Gate.arms_forgetful (handler : Handler σ) (gate : Gate τ) (request : UInt32 × Bytes) :
    Forgetful (gate.arms wire handler request) := by
  have served : Forgetful (handleAuthorizedArms wire handler gate.peerName request.1 request.2 :
      ServerAct σ τ _) := by
    rw [handleAuthorizedArms_eq]
    exact Plan.perform_forgetful wire handler _ _ _
  unfold Gate.arms
  cases fromServerRequestCode (.fromPrimitive request.1) with
  | none => exact served
  | some service => exact (checkAuthorization_forgetful wire service _).bind fun _ => served

end arms

/-- The handler call of an entry, however its requests are read. -/
def readCall : ServerEvent ⊕ (UInt32 × Reading) → Option ServerCall
  | .inl (.called call) => some call
  | _ => none

/-- The policy's answer in an entry, however its requests are read. -/
def readAnswer : ServerEvent ⊕ (UInt32 × Reading) →
    Option (ServiceId × Except AuthorizationError Unit)
  | .inl (.authorized service answer) => some (service, answer)
  | _ => none

theorem callsServed_eq_filterMap (wire : Wire) (log : List ServerEvent) :
    callsServed log = (log.map (readEvent wire)).filterMap readCall := by
  rw [List.filterMap_map]
  apply List.filterMap_congr
  intro event _
  cases event <;> rfl

theorem answersGiven_eq_filterMap (wire : Wire) (log : List ServerEvent) :
    answersGiven log = (log.map (readEvent wire)).filterMap readAnswer := by
  rw [List.filterMap_map]
  apply List.filterMap_congr
  intro event _
  cases event <;> rfl

theorem callsServed_of_read {wire : Wire} {log log' : List ServerEvent}
    (same : log.map (readEvent wire) = log'.map (readEvent wire)) :
    callsServed log = callsServed log' ∧ answersGiven log = answersGiven log' := by
  constructor
  · rw [callsServed_eq_filterMap wire, same, ← callsServed_eq_filterMap]
  · rw [answersGiven_eq_filterMap wire, same, ← answersGiven_eq_filterMap]

/-- Either loop of the manager, with any number of requests worded otherwise. -/
theorem Gate.run_reworded (wire : Wire) (handler : Handler σ) (gate : Gate τ) {w w' : Peer σ τ}
    (rewords : Relation.ReflTransGen
      (Reworded (serverProtocol wire) (gate.arms wire handler) (reading wire)) w w') :
    SameOutcome (readEvent wire) ((gate.loop wire handler).run w)
      ((gate.loop wire handler).run w') := by
  rw [gate.loop_eq_serve]
  apply Framing.Protocol.serve_reworded (gate.arms_steady wire handler)
    (gate.arms_forgetful wire handler) (gate.arms_congr handler) _ rewords
  intro request request' same
  exact congrArg Sum.inr same

end Server

/-! ### Bytes after the arguments -/

open Encoding (Foreign standard)

/-- In the format of the crate a value is read from longer bytes as well. -/
theorem Encoding.standard_decode_append {foreign : Foreign} {ty : WireTy} {body : Bytes}
    {value : ty.denote} (decoded : (standard foreign).decode ty body = .ok value) (more : Bytes) :
    (standard foreign).decode ty (body ++ more) = .ok value := by
  simp only [standard] at decoded ⊢
  rcases read : (format foreign ty).reader.run body with error | ⟨found, rest⟩
  · rw [read] at decoded
    cases decoded
  · rw [read] at decoded
    cases decoded
    obtain ⟨used, rfl, anywhere⟩ := (format foreign ty).reader.positional _ _ _ read
    rw [List.append_assoc, anywhere]

/-- The body is parsed, if it is looked at, and parses. -/
def Wire.Parses (wire : Wire) (raw : Bool) (args : Option WireTy) (body : Bytes) : Prop :=
  raw = false ∧ ∀ ty, args = some ty → ∃ value, wire.decode ty body = .ok value

theorem Encoding.read_append {foreign : Foreign} {raw : Bool} {args : Option WireTy}
    {body : Bytes} (parses : (standard foreign).Parses raw args body) (more : Bytes) :
    (standard foreign).read raw args (body ++ more) = (standard foreign).read raw args body := by
  obtain ⟨parsed, decodes⟩ := parses
  subst parsed
  cases args with
  | none => rfl
  | some ty =>
      obtain ⟨value, decoded⟩ := decodes ty rfl
      simp only [Wire.read, Bool.false_eq_true, if_false, decoded,
        Encoding.standard_decode_append decoded more]

variable {τ : Type}

/-- Requests are served by what they read as. Whatever the encodings, two streams that differ
in the wording of any number of requests, package installs among them, bring either loop of
either party to the same result, with the same calls of the handler, the same questions to the
policy, the same frames written, the same state and the same bytes left. In the format of the
crate, arguments with more bytes behind them are another wording of the same request. -/
theorem requests_by_reading (foreign : Foreign) :
    (∀ (wire : Wire) (loop : Loop σ) (w w' : Agent σ),
      Relation.ReflTransGen
        (Reworded (agentProtocol wire) (goOn (loop.arms wire)) (loop.reading wire)) w w' →
      SameOutcome (loop.readEvent wire) ((loop.run wire).run w) ((loop.run wire).run w') ∧
      calls ((loop.run wire).run w).2.log = calls ((loop.run wire).run w').2.log ∧
      responses ((loop.run wire).run w).2.log = responses ((loop.run wire).run w').2.log) ∧
    (∀ (wire : Wire) (handler : Server.Handler σ) (gate : Server.Gate τ) (w w' : Server.Peer σ τ),
      Relation.ReflTransGen
        (Reworded (Server.serverProtocol wire) (gate.arms wire handler) (Server.reading wire))
        w w' →
      SameOutcome (Server.readEvent wire) ((gate.loop wire handler).run w)
        ((gate.loop wire handler).run w') ∧
      callsServed ((gate.loop wire handler).run w).2.log =
        callsServed ((gate.loop wire handler).run w').2.log ∧
      answersGiven ((gate.loop wire handler).run w).2.log =
        answersGiven ((gate.loop wire handler).run w').2.log) ∧
    (∀ (loop : Loop σ) (code : UInt32) (body more : Bytes),
      (standard foreign).Parses (loop.sees code == .semiSupervisedModels) (loop.sees code).args
        body →
      loop.reading (standard foreign) (code, body ++ more) =
        loop.reading (standard foreign) (code, body)) ∧
    ∀ (code : UInt32) (body more : Bytes),
      (standard foreign).Parses (Server.RequestCode.fromPrimitive code).left
        (Server.RequestCode.fromPrimitive code).args body →
      Server.reading (standard foreign) (code, body ++ more) =
        Server.reading (standard foreign) (code, body) := by
  refine ⟨?_, ?_, ?_, ?_⟩
  · intro wire loop w w' rewords
    have same := loop.run_reworded wire rewords
    exact ⟨same, calls_of_read same.log⟩
  · intro wire handler gate w w' rewords
    have same := gate.run_reworded wire handler rewords
    exact ⟨same, Server.callsServed_of_read same.log⟩
  · intro loop code body more parses
    exact congrArg (Prod.mk code) (Encoding.read_append parses more)
  · intro code body more parses
    exact congrArg (Prod.mk code) (Encoding.read_append parses more)

/-- Encodings of the types of other crates, for a stream that carries none of them. -/
def plainForeign : Foreign where
  ipNet := (Bincode.Codec.pair Encoding.ipAddr .byte).refine
    (fun net => (net.addr, net.prefixLen)) (fun (addr, len) => some ⟨addr, len⟩) fun _ => rfl
  dateTime := (Bincode.Codec.pair .length (.pair .byte (.pair .byte (.pair .byte
      (.pair .byte (.pair .byte .u32)))))).refine
    (fun time => (Bincode.Codec.zigzag time.year, time.month, time.day, time.hour, time.minute,
      time.second, time.subsecNanosecond))
    (fun (year, month, day, hour, minute, second, subsecNanosecond) =>
      some ⟨Bincode.Codec.unzigzag year, month, day, hour, minute, second, subsecNanosecond⟩)
    fun time => by simp only [Bincode.Codec.unzigzag_zigzag]
  columnStatistics := Bincode.Codec.bytes.refine (fun statistics => statistics.serialized)
    (fun serialized => some ⟨serialized⟩) fun _ => rfl
  shortRequest := .message .invalidData "truncated request code"
  undecodable _ := .message .invalidData "undecodable"
  debug _ := ""

/-- The argument of a reboot, as this crate writes it and with two bytes more. -/
def rebootBody : Bytes := Encoding.nodePowerRequest.encode .reboot

def longerBody : Bytes := rebootBody ++ [7, 7]

/-- An agent that has not read anything yet, with this request before it. -/
def faced (body : Bytes) : Agent Unit :=
  (connected () ⟨[], none⟩ (.healthy (.simple .invalidInput))).followed
    (frame (Wire.requestFrame (Client.RequestCode.discriminant .nodePower) body) ++ []) none

/-- A reboot with more behind its argument is a reboot. -/
theorem requests_by_reading_sample :
    longerBody ≠ rebootBody ∧
      calls (((Loop.handle eagerHandler).run (standard plainForeign)).run
        (faced longerBody)).2.log = [.node (.nodePower .reboot)] := by
  obtain ⟨agent, -, reads, -⟩ := requests_by_reading (σ := Unit) (τ := Unit) plainForeign
  refine ⟨by decide, ?_⟩
  have same := reads (.handle eagerHandler) (Client.RequestCode.discriminant .nodePower) rebootBody
    [7, 7] ⟨rfl, fun ty typed => by cases typed; exact ⟨.reboot, rfl⟩⟩
  have step := agent (standard plainForeign) (.handle eagerHandler) (faced longerBody)
    (faced rebootBody) (.single (.intro [] none rfl .here rfl (by decide) (by decide)
      ((standard plainForeign).splitRequest_requestFrame _ _)
      ((standard plainForeign).splitRequest_requestFrame _ _) same))
  rw [step.2.1]
  rfl

end ReviewProtocol
