import ReviewProtocol.Agent.Alignment

set_option autoImplicit false

/- Responses: how many frames the agent writes for each request, and that each of them is
one the transport could take. -/
namespace ReviewProtocol

open Framing (Bytes Act RecvStream Halt Protocol)
open Framing.Act (emit Within Logs)

variable {σ : Type}

/-- The response frames written, in order. -/
def responses (log : List AgentEvent) : List ((ty : WireTy) × Except String ty.denote) :=
  log.filterMap fun
    | .replied ty result => some ⟨ty, result⟩
    | _ => none

@[simp] theorem responses_append (first second : List AgentEvent) :
    responses (first ++ second) = responses first ++ responses second := List.filterMap_append

theorem responses_payload {events : List AgentEvent}
    (payload : ∀ event ∈ events, event.IsPayload) : responses events = [] := by
  refine List.filterMap_eq_nil_iff.mpr fun event member => ?_
  have isPayload := payload event member
  cases event with
  | chunk remaining body => rfl
  | chunkLost error => rfl
  | request | called | installed | replied => cases isPayload

theorem responses_exchange (req : NodePackageRequest) (early late : List AgentEvent)
    (result : Except String NodePackageResponse)
    (payload : ∀ event ∈ early ++ late, event.IsPayload) :
    responses (exchange req early result late) = [⟨.installPreflight, .ok .proceed⟩] := by
  have none := responses_payload payload
  rw [responses_append] at none
  obtain ⟨noneEarly, noneLate⟩ := List.append_eq_nil_iff.mp none
  simp only [responses] at noneEarly noneLate
  simp [responses, exchange, opening, noneEarly, noneLate]

/-! ### Frames that fit -/

/-- A response that its length word can express. -/
def AgentEvent.Fits (wire : Wire) : AgentEvent → Prop
  | .replied ty result => (wire.encode (.result ty) result).length < Framing.frameLimit
  | _ => True

theorem trySend_logs (wire : Wire) (ty : WireTy) (result : Except String ty.denote) :
    Within (Logs (AgentEvent.Fits wire)) (trySend wire ty result : AgentAct σ _) :=
  Act.logs_send _ fun fits => fits

theorem sendResponse_logs (wire : Wire) (ty : WireTy) (result : Except String ty.denote) :
    Within (Logs (AgentEvent.Fits wire)) (sendResponse wire ty result : AgentAct σ _) :=
  Act.logs_bind (trySend_logs wire ty result) (Act.logs_orFail _)

theorem invoke_logs (wire : Wire) {ty : WireTy} (call : AgentCall)
    (ask : σ → Except String ty.denote × σ) :
    Within (Logs (AgentEvent.Fits wire)) (invoke call ask) :=
  Act.logs_bind (Act.logs_emit trivial) fun _ _ => .none rfl

theorem fits_of_payload (wire : Wire) {events : List AgentEvent}
    (payload : ∀ event ∈ events, event.IsPayload) : ∀ event ∈ events, event.Fits wire := by
  intro event mem
  have isPayload := payload event mem
  cases event with
  | replied ty result => cases isPayload
  | _ => trivial

theorem receivePackage_logs (wire : Wire) (handler : NodeHandler σ) (req : NodePackageRequest)
    (size : Nat) : Within (Logs (AgentEvent.Fits wire)) (receivePackage handler req size) := by
  intro w
  have called (events : List AgentEvent) (fit : ∀ event ∈ events, event.Fits wire) :
      ∀ event ∈ .called (.nodePackageInstall req) :: events, event.Fits wire := by
    intro event mem
    rcases List.mem_cons.mp mem with rfl | mem
    · trivial
    · exact fit event mem
  have installed (early late : List AgentEvent) (result : Except String NodePackageResponse)
      (payload : ∀ event ∈ early ++ late, event.IsPayload) :
      ∀ event ∈ early ++ .installed result :: late, event.Fits wire := by
    intro event mem
    have fit := fits_of_payload wire payload
    rcases List.mem_append.mp mem with mem | mem
    · exact fit event (List.mem_append_left _ mem)
    · rcases List.mem_cons.mp mem with rfl | mem
      · trivial
      · exact fit event (List.mem_append_right _ mem)
  rcases out : (receivePackage handler req size).run w with ⟨outcome, w'⟩
  have receives := receivePackage_receives handler req size w
  rw [out] at receives
  cases receives with
  | receiving added reader stream drawn awaits =>
      exact ⟨_, rfl, called _ (fits_of_payload wire drawn.payload)⟩
  | draining state result early late reader stream drawn awaits =>
      exact ⟨_, rfl, called _ (installed early late result drawn.payload)⟩
  | received state result early late drained stream transfer =>
      exact ⟨_, rfl, called _ (installed early late result transfer.payload)⟩

theorem Plan.perform_logs (wire : Wire) (handler : NodeHandler σ) (code : UInt32) (plan : Plan σ) :
    Within (Logs (AgentEvent.Fits wire)) (plan.perform wire handler code) := by
  cases plan with
  | undecodable error => exact Act.logs_bind (trySend_logs wire _ _) fun _ => Logs.refl
  | answer ty result => exact sendResponse_logs wire ty result
  | unary call ty ask =>
      exact Act.logs_bind (invoke_logs wire call ask) fun _ => sendResponse_logs wire ty _
  | silent call ask => exact Act.logs_bind (Act.logs_emit trivial) fun _ _ => .none rfl
  | install fields =>
      refine Act.logs_bind (invoke_logs wire _ _) fun verdict => ?_
      refine Act.logs_bind (sendResponse_logs wire _ _) fun _ => ?_
      split
      · exact Act.logs_bind (receivePackage_logs wire handler _ _) fun _ =>
          sendResponse_logs wire _ _
      · exact Logs.refl

/-- Every response in the log of a loop is one that could be written. -/
theorem Loop.run_logs (wire : Wire) (loop : Loop σ) :
    Within (Logs (AgentEvent.Fits wire)) (loop.run wire) := by
  rw [loop.run_eq_serve wire]
  refine Protocol.serve_logs _ (fun _ => trivial) fun request => ?_
  obtain ⟨plan, same, -⟩ := loop.planned wire request.1 request.2
  refine Act.logs_bind ?_ fun _ => Logs.refl
  rw [same]
  exact plan.perform_logs wire loop.nodeHandler request.1

/-! ### Writes that went out -/

/-- From `w` to `w'` no more responses were logged than writes were tried. -/
def Tried (w w' : Agent σ) : Prop :=
  w.send.attempts + (responses w'.log).length ≤ w'.send.attempts + (responses w.log).length

/-- From `w` to `w'` every write that was tried went out. -/
def AllSent (w w' : Agent σ) : Prop :=
  w'.send.attempts + (responses w.log).length = w.send.attempts + (responses w'.log).length

theorem Tried.refl (w : Agent σ) : Tried w w := Nat.le_refl _

theorem Tried.trans (u v w : Agent σ) (early : Tried u v) (late : Tried v w) : Tried u w := by
  unfold Tried at early late ⊢
  omega

theorem tried_of_unwritten {w w' : Agent σ} (events : List AgentEvent)
    (log : w'.log = w.log ++ events) (unwritten : responses events = [])
    (untried : w'.send.attempts = w.send.attempts) : Tried w w' := by
  unfold Tried
  rw [log, responses_append, unwritten, List.append_nil, untried]

theorem trySend_tried (wire : Wire) (ty : WireTy) (result : Except String ty.denote) :
    Within Tried (trySend wire ty result : AgentAct σ _) := by
  intro w
  unfold Tried
  rcases run_trySend wire ty result w with sent | ⟨error, lost⟩
  · rw [sent, wrote, responses_append, List.length_append]
    show w.send.attempts + ((responses w.log).length + 1) ≤ w.send.attempts + 1 + _
    omega
  · rw [lost]
    show w.send.attempts + (responses w.log).length ≤ w.send.attempts + 1 + _
    omega

theorem sendResponse_tried (wire : Wire) (ty : WireTy) (result : Except String ty.denote) :
    Within Tried (sendResponse wire ty result : AgentAct σ _) := by
  refine Within.bind Tried.trans (trySend_tried wire ty result) fun sent => ?_
  cases sent with
  | ok done => exact Tried.refl
  | error error => exact Tried.refl

theorem invoke_tried {ty : WireTy} (call : AgentCall) (ask : σ → Except String ty.denote × σ) :
    Within Tried (invoke call ask) :=
  fun _ => tried_of_unwritten [.called call] rfl rfl rfl

theorem receivePackage_tried (handler : NodeHandler σ) (req : NodePackageRequest) (size : Nat) :
    Within Tried (receivePackage handler req size) := by
  intro w
  rcases out : (receivePackage handler req size).run w with ⟨outcome, w'⟩
  have receives := receivePackage_receives handler req size w
  rw [out] at receives
  have unwritten (early late : List AgentEvent) (result : Except String NodePackageResponse)
      (payload : ∀ event ∈ early ++ late, event.IsPayload) :
      responses (.called (.nodePackageInstall req) :: (early ++ .installed result :: late)) =
        [] := by
    have none := responses_payload payload
    rw [responses_append] at none
    obtain ⟨noneEarly, noneLate⟩ := List.append_eq_nil_iff.mp none
    simp only [responses] at noneEarly noneLate
    simp [responses, noneEarly, noneLate]
  cases receives with
  | receiving added reader stream drawn awaits =>
      have none : responses added = [] := responses_payload drawn.payload
      exact tried_of_unwritten _ rfl none rfl
  | draining state result early late reader stream drawn awaits =>
      exact tried_of_unwritten _ rfl (unwritten early late result drawn.payload) rfl
  | received state result early late drained stream transfer =>
      exact tried_of_unwritten _ rfl (unwritten early late result transfer.payload) rfl

theorem Plan.perform_tried (wire : Wire) (handler : NodeHandler σ) (code : UInt32) (plan : Plan σ) :
    Within Tried (plan.perform wire handler code) := by
  cases plan with
  | undecodable error =>
      exact Within.bind Tried.trans (trySend_tried wire _ _) fun _ => Tried.refl
  | answer ty result => exact sendResponse_tried wire ty result
  | unary call ty ask =>
      exact Within.bind Tried.trans (invoke_tried call ask) fun _ => sendResponse_tried wire ty _
  | silent call ask => exact fun _ => tried_of_unwritten [.called call] rfl rfl rfl
  | install fields =>
      refine Within.bind Tried.trans (invoke_tried _ _) fun verdict => ?_
      refine Within.bind Tried.trans (sendResponse_tried wire _ _) fun _ => ?_
      split
      · exact Within.bind Tried.trans (receivePackage_tried handler _ _)
          fun _ => sendResponse_tried wire _ _
      · exact Tried.refl

theorem Loop.goOn_tried (wire : Wire) (loop : Loop σ) (request : UInt32 × Bytes) :
    Within Tried (goOn (loop.arms wire) request) := by
  obtain ⟨plan, same, -⟩ := loop.planned wire request.1 request.2
  refine Within.bind Tried.trans ?_ fun _ => Tried.refl
  rw [same]
  exact plan.perform_tried wire loop.nodeHandler request.1

theorem Loop.run_tried (wire : Wire) (loop : Loop σ) : Within Tried (loop.run wire) := by
  intro w
  rw [loop.run_eq_serve wire]
  obtain ⟨exchanges, course⟩ := (agentProtocol wire).serve_course (goOn (loop.arms wire)) w
  apply course.within Tried.refl Tried.trans _ (loop.goOn_tried wire) _
  · intro v rest request
    exact tried_of_unwritten [.request request.1 request.2] rfl rfl rfl
  · intro v rest
    exact Tried.refl v

/-! ### Requests and their responses -/

/-- The responses to a request once it is dealt with, by what the handler says to an
install. -/
inductive Pairing.Answered (verdict : Install → Except String InstallPreflight) :
    Pairing → List ((ty : WireTy) × Except String ty.denote) → Prop where
  | silent : Answered verdict .silent []
  | single (response : (ty : WireTy) × Except String ty.denote) :
      Answered verdict .single [response]
  | refused (fields : Install) (refused : verdict fields ≠ .ok .proceed) :
      Answered verdict (.install fields) [⟨.installPreflight, verdict fields⟩]
  | concluded (fields : Install) (result : Except String NodePackageResponse)
      (proceed : verdict fields = .ok .proceed) :
      Answered verdict (.install fields)
        [⟨.installPreflight, .ok .proceed⟩, ⟨.nodePackageResponse, result⟩]

/-- What a request comes to while writes go out: answered, and the loop goes on; still
reading a payload; or not understood, and the loop ends right behind its frame. -/
inductive Served (wire : Wire) (loop : Loop σ) (code : UInt32) (body : Bytes) (state : σ)
    (rest : Bytes) (logged : List AgentEvent) (after : Agent σ) :
    Except (Halt HandlerError) Unit × Agent σ → Prop where
  | answered
      (answer : (pairing wire (loop.sees code) body).Answered
        (fun fields => verdictOf loop.nodeHandler (.install fields) state) (responses logged))
      (unassigned : loop.sees code = .unknown →
        responses logged = [⟨.unit, .error (unknownRequestMessage code)⟩]) :
      Served wire loop code body state rest logged after ((loop.run wire).run after)
  | receiving (fields : Install) (install : pairing wire (loop.sees code) body = .install fields)
      (proceed : verdictOf loop.nodeHandler (.install fields) state = .ok .proceed)
      (answer : responses logged = [⟨.installPreflight, .ok .proceed⟩]) :
      Served wire loop code body state rest logged after (.error .pending, after)
  | undecodable (error : IoError) (undecodable : pairing wire (loop.sees code) body = .undecodable)
      (answer : responses logged = [⟨.unit, .error (undecodableArgsMessage code)⟩])
      (uncalled : calls logged = []) (unread : after.recv.bytes = rest) :
      Served wire loop code body state rest logged after
        (.error (.failed (.recvError error)), after)

theorem responses_wrote (w : Agent σ) (ty : WireTy) (result : Except String ty.denote) :
    responses (wrote w ty result).log = responses w.log ++ [⟨ty, result⟩] := responses_append _ _

/-- The responses to an install: cut short by a failed write, a verdict that ends it, a
verdict with the payload still to come, or a verdict and a terminal frame. -/
theorem Installs.written {handler : NodeHandler σ} {req : NodePackageRequest} {size : Nat}
    {w w' : Agent σ} {outcome : Except (Halt HandlerError) Unit}
    (installs : Installs handler req size w outcome w') :
    (∃ error, outcome = .error (.failed (.sendError error)) ∧ ¬ AllSent w w' ∧
      (responses w'.log = responses w.log ∨ responses w'.log =
        responses w.log ++ [⟨.installPreflight, verdictOf handler req w.state⟩])) ∨
    (outcome = .ok () ∧ verdictOf handler req w.state ≠ .ok .proceed ∧ responses w'.log =
      responses w.log ++ [⟨.installPreflight, verdictOf handler req w.state⟩]) ∨
    (outcome = .error .pending ∧ verdictOf handler req w.state = .ok .proceed ∧ responses w'.log =
      responses w.log ++ [⟨.installPreflight, verdictOf handler req w.state⟩]) ∨
    ∃ result, outcome = .ok () ∧ verdictOf handler req w.state = .ok .proceed ∧
      responses w'.log = responses w.log ++
        [⟨.installPreflight, .ok .proceed⟩, ⟨.nodePackageResponse, result⟩] := by
  cases installs with
  | verdictLost error state =>
      have none : responses (w.log ++ [.called (.node (.nodePackageInstallPreflight req))]) =
          responses w.log := by
        rw [responses_append]
        exact List.append_nil _
      refine .inl ⟨error, rfl, ?_, .inl none⟩
      intro sent
      unfold AllSent at sent
      dsimp only at sent
      rw [none] at sent
      omega
  | refused state refused => exact .inr (.inl ⟨rfl, refused, responses_append _ _⟩)
  | receiving state added reader stream proceed drawn awaits =>
      refine .inr (.inr (.inl ⟨rfl, proceed, ?_⟩))
      have none := responses_payload drawn.payload
      rw [proceed, responses_append, responses_append, ← List.singleton_append, responses_append,
        none]
      rfl
  | draining state result early late reader stream proceed drawn awaits =>
      refine .inr (.inr (.inl ⟨rfl, proceed, ?_⟩))
      rw [proceed, responses_append, responses_exchange req early late result drawn.payload]
  | terminalLost error state result early late drained stream proceed transfer =>
      have one : responses (w.log ++ exchange req early result late) =
          responses w.log ++ [⟨.installPreflight, verdictOf handler req w.state⟩] := by
        rw [proceed, responses_append, responses_exchange req early late result transfer.payload]
      refine .inl ⟨error, rfl, ?_, .inr one⟩
      intro sent
      unfold AllSent at sent
      dsimp only at sent
      rw [one, List.length_append, List.length_singleton] at sent
      omega
  | finished state result early late drained stream proceed transfer =>
      refine .inr (.inr (.inr ⟨terminal result drained, rfl, proceed, ?_⟩))
      rw [responses_append, responses_append,
        responses_exchange req early late result transfer.payload]
      rfl

/-- One request, whatever it is, is served. -/
theorem Loop.arm_served (wire : Wire) (loop : Loop σ) {code : UInt32} {body rest : Bytes}
    {v v' : Agent σ} {outcome : Except (Halt HandlerError) Unit} {logged : List AgentEvent}
    (ran : (loop.arms wire code body).run (atRequest v rest code body) = (outcome, v'))
    (log : v'.log = (atRequest v rest code body).log ++ logged)
    (sent : AllSent (atRequest v rest code body) v') :
    Served wire loop code body v.state rest logged v'
      (Act.andThen (outcome, v') fun _ => loop.run wire) := by
  obtain ⟨plan, same, paired, unknown⟩ := loop.planned wire code body
  have performs := plan.perform_performs wire loop.nodeHandler code (atRequest v rest code body)
  rw [← same, ran] at performs
  dsimp only at performs
  have written {answer : List ((ty : WireTy) × Except String ty.denote)}
      (total : responses v'.log = responses (atRequest v rest code body).log ++ answer) :
      responses logged = answer := by
    rw [log, responses_append] at total
    exact List.append_cancel_left total
  have assigned (other : ∀ ty result, plan ≠ .answer ty result) {P : Prop}
      (unassigned : loop.sees code = .unknown) : P :=
    absurd (unknown unassigned) (other _ _)
  cases performs with
  | undecodable error =>
      have all : logged = [.replied .unit (.error (undecodableArgsMessage code))] :=
        (List.append_cancel_left log).symm
      refine .undecodable error paired.symm ?_ ?_ rfl
      · rw [all]
        rfl
      · rw [all]
        rfl
  | undecodableLost error =>
      unfold AllSent at sent
      dsimp only [lostWrite] at sent
      omega
  | answered ty result =>
      refine .answered ?_ ?_
      · rw [written (responses_wrote _ ty result), ← paired]
        exact .single _
      · intro unassigned
        rw [written (responses_wrote _ ty result)]
        cases unknown unassigned
        rfl
  | answerLost ty result error =>
      unfold AllSent at sent
      dsimp only [lostWrite] at sent
      omega
  | unary call ty ask =>
      have total := responses_wrote (asked (atRequest v rest code body) call
        (ask (atRequest v rest code body).state).2) ty (ask (atRequest v rest code body).state).1
      have called : responses (asked (atRequest v rest code body) call
          (ask (atRequest v rest code body).state).2).log =
          responses (atRequest v rest code body).log := by
        rw [asked, responses_append]
        exact List.append_nil _
      rw [called] at total
      refine .answered ?_ (assigned fun _ _ other => by cases other)
      rw [written total, ← paired]
      exact .single _
  | unaryLost call ty ask error =>
      unfold AllSent at sent
      dsimp only [lostWrite, asked] at sent
      rw [responses_append, List.length_append] at sent
      have none : (responses [.called call]).length = 0 := rfl
      omega
  | silent call ask =>
      refine .answered ?_ (assigned fun _ _ other => by cases other)
      have total : responses (asked (atRequest v rest code body) call
          (ask (atRequest v rest code body).state)).log =
          responses (atRequest v rest code body).log ++ [] := responses_append _ _
      rw [written total, ← paired]
      exact .silent
  | install fields outcome v' installs =>
      rcases installs.written with ⟨error, -, lost, -⟩ | ⟨rfl, refused, total⟩ |
        ⟨rfl, proceed, total⟩ | ⟨result, rfl, proceed, total⟩
      · exact absurd sent lost
      · refine .answered ?_ (assigned fun _ _ other => by cases other)
        rw [written total, ← paired]
        exact .refused fields refused
      · have proceed : verdictOf loop.nodeHandler (.install fields) v.state = .ok .proceed :=
          proceed
        refine .receiving fields paired.symm proceed ?_
        rw [written total, ← proceed]
        rfl
      · refine .answered ?_ (assigned fun _ _ other => by cases other)
        rw [written total, ← paired]
        exact .concluded fields result proceed

/-- The requests of a run, in the order they came, with what each of them came to. -/
structure Pairs (wire : Wire) (loop : Loop σ) (w : Agent σ)
    (exchanges : List (Protocol.Exchange (UInt32 × Bytes) AgentEvent)) : Prop where
  log : ((loop.run wire).run w).2.log =
    w.log ++ exchanges.flatMap (Protocol.Exchange.events (agentProtocol wire))
  apart : ∀ exchange ∈ exchanges, requests exchange.logged = []
  served : ∀ before code body logged after, exchanges = before ++ ⟨(code, body), logged⟩ :: after →
    ∃ v rest v', (agentProtocol wire).Reaches (goOn (loop.arms wire)) w before v ∧
      v.recv.bytes = Framing.frame (Wire.requestFrame code body) ++ rest ∧
      v'.log = v.log ++ .request code body :: logged ∧
      Served wire loop code body v.state rest logged v' ((loop.run wire).run w)

theorem goOn_ran {arms : UInt32 → Bytes → AgentAct σ Unit} {request : UInt32 × Bytes}
    {v v' : Agent σ} {outcome : Except (Halt HandlerError) (Act.Turn Unit Unit)}
    (ran : (goOn arms request).run v = (outcome, v')) :
    ∃ outcome', (arms request.1 request.2).run v = (outcome', v') := by
  rw [run_goOn] at ran
  rcases arm : (arms request.1 request.2).run v with ⟨halt | done, v₁⟩
  · rw [arm] at ran
    cases ran
    exact ⟨_, rfl⟩
  · rw [arm] at ran
    cases ran
    exact ⟨_, rfl⟩

/-- While writes go out, every request of a run is served, and in order. -/
theorem Loop.run_pairs (wire : Wire) (loop : Loop σ) (w : Agent σ)
    (sent : AllSent w ((loop.run wire).run w).2) : ∃ exchanges, Pairs wire loop w exchanges := by
  obtain ⟨exchanges, course⟩ :=
    (agentProtocol wire).serve_course (goOn (loop.arms wire)) w
  rw [loop.run_eq_serve wire] at sent
  have reads (u : Agent σ) (rest : Bytes) (request : UInt32 × Bytes) :
      Tried u ((agentProtocol wire).atRequest u rest request) :=
    tried_of_unwritten [.request request.1 request.2] rfl rfl rfl
  have skips (u : Agent σ) (rest : Bytes) : Tried u { u with recv.bytes := rest } := Tried.refl u
  refine ⟨exchanges, ?_, ?_, ?_⟩
  · rw [loop.run_eq_serve wire]
    exact course.log_eq
  · intro exchange member
    obtain ⟨before, after, rfl⟩ := List.append_of_mem member
    obtain ⟨v, frame, rest, outcome, v', -, -, -, -, ran, log, -⟩ := course.at_exchange
    obtain ⟨outcome', arm⟩ := goOn_ran ran
    obtain ⟨plan, same, -⟩ := loop.planned wire exchange.request.1 exchange.request.2
    have performs := plan.perform_performs wire loop.nodeHandler exchange.request.1
      ((agentProtocol wire).atRequest v rest exchange.request)
    rw [← same, arm] at performs
    obtain ⟨added, log', none, -⟩ := performs.leaves
    have whole : v.log ++ .request exchange.request.1 exchange.request.2 :: added =
        v.log ++ .request exchange.request.1 exchange.request.2 :: exchange.logged := by
      refine Eq.trans ?_ log
      rw [log']
      exact (List.append_assoc v.log [_] added).symm
    have same := List.cons.inj (List.append_cancel_left whole)
    rw [← same.2]
    exact none
  · rintro before code body logged after rfl
    obtain ⟨v, frame, rest, outcome, v', reaches, bytes, fits, parsed, ran, log, continues⟩ :=
      course.at_exchange
    obtain ⟨outcome', arm⟩ := goOn_ran ran
    have whole : ((agentProtocol wire).serve (goOn (loop.arms wire))).run w =
        Act.andThen (outcome', v') fun _ => serve wire (loop.arms wire) := by
      rw [reaches.run_eq, Protocol.serve_request _ _ bytes fits parsed, resume_goOn]
      exact congrArg (fun out => Act.andThen out fun _ => serve wire (loop.arms wire)) arm
    have early := reaches.within Tried.refl Tried.trans reads (loop.goOn_tried wire)
    have here :=
      loop.goOn_tried wire (code, body) ((agentProtocol wire).atRequest v rest (code, body))
    rw [ran] at here
    have late : Tried v' ((serve wire (loop.arms wire)).run w).2 := by
      rcases continues with ⟨-, later⟩ | ⟨-, value, -, same⟩
      · exact later.within Tried.refl Tried.trans reads (loop.goOn_tried wire) skips
      · show Tried v' (((agentProtocol wire).serve (goOn (loop.arms wire))).run w).2
        rw [same]
        exact Tried.refl v'
    have sentHere : AllSent (atRequest v rest code body) v' := by
      have read := reads v rest (code, body)
      have back : AllSent w ((serve wire (loop.arms wire)).run w).2 := sent
      unfold AllSent at back ⊢
      unfold Tried at early read here late
      have same : (agentProtocol wire).atRequest v rest (code, body) = atRequest v rest code body :=
        rfl
      rw [same] at read here
      dsimp only at here
      omega
    refine ⟨v, rest, v', reaches, ?_, log, ?_⟩
    · rw [bytes, wire.splitRequest_ok parsed]
    · have logged' : v'.log = (atRequest v rest code body).log ++ logged := by
        rw [log]
        exact (List.append_assoc v.log [_] logged).symm
      have served := loop.arm_served wire arm logged' sentHere
      rw [loop.run_eq_serve wire] at served ⊢
      exact whole ▸ served

end ReviewProtocol
