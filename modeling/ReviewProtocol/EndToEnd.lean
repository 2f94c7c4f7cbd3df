import ReviewProtocol.Agent.Pairing
import ReviewProtocol.Lib.Duplex
import ReviewProtocol.Server.Install

set_option autoImplicit false

/- A manager's call and the agent's loop at the two ends of the stream that the call
opens. -/
namespace ReviewProtocol

open Framing (Bytes Act RecvStream SendStream Halt Party Duplex frame)
open Server (Manager ManagerAct ManagerEvent Opening InstallOutcome TerminalPreflight)

variable {σ τ : Type}

def managerParty {α : Type} (call : ManagerAct τ α) :
    Party (Opening τ) (Except IoError Bytes) ManagerEvent IoError Server.ApiError α where
  act := call
  body
    | .requested code payload => some (Wire.requestFrame code payload)
    | .chunk bytes => some bytes
    | _ => none

def agentParty (wire : Wire) (loop : Loop σ) :
    Party σ Empty AgentEvent IoError HandlerError Unit where
  act := loop.run wire
  body
    | .replied ty result => some (wire.encode (.result ty) result)
    | _ => none

/-- A call that has not begun and a loop that has read nothing. Any of the stream's
writes may still fail. -/
def dialing (policy : τ) (refused : Option IoError) (state : σ)
    (managerSend agentSend : SendStream IoError) :
    Duplex (Opening τ) (Except IoError Bytes) ManagerEvent IoError σ AgentEvent IoError where
  near := ⟨⟨policy, refused⟩, [], ⟨[], none⟩, managerSend, []⟩
  far := connected state ⟨[], none⟩ agentSend

/-- The bytes of some responses. -/
def responseBytes (wire : Wire) (replies : List ((ty : WireTy) × Except String ty.denote)) :
    Bytes :=
  replies.flatMap fun response => frame (wire.encode (.result response.1) response.2)

theorem agentParty_written (wire : Wire) (loop : Loop σ) (log : List AgentEvent) :
    (agentParty wire loop).written log = responseBytes wire (responses log) := by
  induction log with
  | nil => rfl
  | cons event log ih =>
      have split := (agentParty wire loop).written_append [event] log
      rw [List.singleton_append] at split
      rw [split, ih]
      cases event with
      | replied ty result =>
          have one : (agentParty wire loop).written [.replied ty result] =
              frame (wire.encode (.result ty) result) := List.append_nil _
          have more : responses (.replied ty result :: log) = ⟨ty, result⟩ :: responses log := rfl
          rw [one, more, responseBytes, responseBytes, List.flatMap_cons]
      | _ => rfl

/-- Every one of these responses could be written. -/
def AllFit (wire : Wire) (replies : List ((ty : WireTy) × Except String ty.denote)) : Prop :=
  ∀ response ∈ replies, (wire.encode (.result response.1) response.2).length < Framing.frameLimit

theorem Loop.responses_fit (wire : Wire) (loop : Loop σ) {w : Agent σ} (fresh : w.log = []) :
    AllFit wire (responses ((loop.run wire).run w).2.log) := by
  obtain ⟨added, log, fit⟩ := loop.run_logs wire w
  rw [fresh, List.nil_append] at log
  rw [log]
  intro response mem
  obtain ⟨event, logged, same⟩ := List.mem_filterMap.mp mem
  have fits := fit event logged
  cases event with
  | replied ty result =>
      cases same
      exact fits
  | _ => cases same

/-- The next frame that arrives is the next response. -/
theorem next_response {wire : Wire} {replies : List ((ty : WireTy) × Except String ty.denote)}
    (fit : AllFit wire replies) {body rest : Bytes} (fits : body.length < Framing.frameLimit)
    (sent : frame body ++ rest <+: responseBytes wire replies) :
    ∃ ty result later, replies = ⟨ty, result⟩ :: later ∧ body = wire.encode (.result ty) result ∧
      rest <+: responseBytes wire later ∧ AllFit wire later := by
  cases replies with
  | nil =>
      have length := congrArg List.length (List.prefix_nil.mp sent)
      rw [List.length_append, Framing.length_frame, List.length_nil] at length
      omega
  | cons response later =>
      rw [responseBytes, List.flatMap_cons] at sent
      obtain ⟨same, after⟩ := Framing.frame_prefix sent fits (fit response List.mem_cons_self)
      exact ⟨response.1, response.2, later, rfl, same, after,
        fun other mem => fit other (List.mem_cons_of_mem _ mem)⟩

theorem eq_of_decoded {wire : Wire} {ty : WireTy} {result value : Except String ty.denote}
    {body : Bytes} (lawful : wire.RoundTrips (.result ty) result)
    (same : body = wire.encode (.result ty) result)
    (decoded : wire.decode (.result ty) body = .ok value) : result = value := by
  rw [same, lawful] at decoded
  exact Except.ok.inj decoded

/-! ### The agent's part of an install -/

theorem Loop.sees_nodePackage (loop : Loop σ) :
    loop.sees Client.RequestCode.nodePackage.discriminant = .nodePackage := by
  cases loop with
  | handle handler => exact Client.RequestCode.fromPrimitive_discriminant .nodePackage
  | handleNode handler =>
      show (Client.RequestCode.fromPrimitive _).nodeOnly = _
      rw [Client.RequestCode.fromPrimitive_discriminant]
      rfl

theorem Loop.arms_install (wire : Wire) (loop : Loop σ) {body : Bytes} {fields : Install}
    (decoded : wire.decode .nodePackageRequest body = .ok (.install fields)) :
    loop.arms wire Client.RequestCode.nodePackage.discriminant body =
      dispatchInstall wire loop.nodeHandler (.install fields) fields.size.toNat := by
  obtain ⟨plan, same, paired, -⟩ :=
    loop.planned wire Client.RequestCode.nodePackage.discriminant body
  have install : pairing wire .nodePackage body = .install fields := by
    simp only [pairing, decoded]
  rw [loop.sees_nodePackage, install] at paired
  cases plan with
  | install fields' =>
      cases paired
      exact same
  | undecodable | answer | unary | silent => cases paired

/-- An agent to which an install was sent has logged nothing, or serves it first. -/
theorem Loop.run_install (wire : Wire) (loop : Loop σ) {fields : Install}
    (lawful : wire.RoundTrips .nodePackageRequest (.install fields)) (w : Agent σ) {tail : Bytes}
    (fits : (Server.installFrame wire (.install fields)).length < Framing.frameLimit)
    (sent : w.recv.bytes <+: frame (Server.installFrame wire (.install fields)) ++ tail) :
    ((loop.run wire).run w).2.log = w.log ∨
    ∃ rest outcome w', rest <+: tail ∧
      Installs loop.nodeHandler (.install fields) fields.size.toNat
        (atRequest w rest Client.RequestCode.nodePackage.discriminant
          (wire.encode .nodePackageRequest (.install fields))) outcome w' ∧
      (loop.run wire).run w = Act.andThen (outcome, w') fun _ => loop.run wire := by
  rw [loop.run_eq_serve wire]
  rcases serve_cases wire w with
    ⟨found, rest, code, body, bytes, foundFits, parsed, read⟩ | ⟨error, rest, -, read⟩ | ⟨-, read⟩
  · right
    rw [bytes] at sent
    obtain ⟨rfl, unread⟩ := Framing.frame_prefix sent foundFits fits
    rw [Server.installFrame, Wire.splitRequest_requestFrame] at parsed
    obtain ⟨rfl, rfl⟩ := Prod.mk.inj (Except.ok.inj parsed)
    have installs := dispatchInstall_installs wire loop.nodeHandler (.install fields)
      fields.size.toNat (atRequest w rest Client.RequestCode.nodePackage.discriminant
        (wire.encode .nodePackageRequest (.install fields)))
    refine ⟨rest, _, _, unread, installs, ?_⟩
    rw [read, loop.arms_install wire lawful]
  · left
    rw [read]
    rfl
  · left
    rw [read]

/-- What an agent can have answered to an install, as far as it got. -/
inductive InstallResponses (verdict : Except String InstallPreflight) :
    List ((ty : WireTy) × Except String ty.denote) → Prop where
  | none : InstallResponses verdict []
  | refused {later} (refused : verdict ≠ .ok .proceed) :
      InstallResponses verdict (⟨.installPreflight, verdict⟩ :: later)
  | verdict : InstallResponses verdict [⟨.installPreflight, verdict⟩]
  | concluded {result later} (proceed : verdict = .ok .proceed) :
      InstallResponses verdict
        (⟨.installPreflight, verdict⟩ :: ⟨.nodePackageResponse, result⟩ :: later)

theorem Loop.install_responses (wire : Wire) (loop : Loop σ) {fields : Install}
    (lawful : wire.RoundTrips .nodePackageRequest (.install fields)) {w : Agent σ}
    (fresh : w.log = []) {tail : Bytes}
    (fits : (Server.installFrame wire (.install fields)).length < Framing.frameLimit)
    (sent : w.recv.bytes <+: frame (Server.installFrame wire (.install fields)) ++ tail) :
    InstallResponses (verdictOf loop.nodeHandler (.install fields) w.state)
      (responses ((loop.run wire).run w).2.log) := by
  rcases loop.run_install wire lawful w fits sent with
    idle | ⟨rest, outcome, w', -, installs, ran⟩
  · rw [idle, fresh]
    exact .none
  · rw [ran]
    have begun : (atRequest w rest Client.RequestCode.nodePackage.discriminant
        (wire.encode .nodePackageRequest (.install fields))).log =
        [.request Client.RequestCode.nodePackage.discriminant
          (wire.encode .nodePackageRequest (.install fields))] := by
      rw [atRequest, fresh]
      rfl
    have none : responses (atRequest w rest Client.RequestCode.nodePackage.discriminant
        (wire.encode .nodePackageRequest (.install fields))).log = [] := by
      rw [begun]
      rfl
    -- An exchange that ended leaves the loop to log more behind it.
    have goes_on : ∃ later, responses ((loop.run wire).run w').2.log =
        responses w'.log ++ later := by
      obtain ⟨more, log⟩ := ((loop.run wire).progress w').log
      rw [← log, responses_append]
      exact ⟨_, rfl⟩
    have written := installs.written
    rw [none, List.nil_append] at written
    rcases written with ⟨error, rfl, -, total | total⟩ | ⟨rfl, refused, total⟩ |
      ⟨rfl, proceed, total⟩ | ⟨result, rfl, proceed, total⟩
    · rw [Act.andThen_error, total]
      exact .none
    · rw [Act.andThen_error, total]
      exact .verdict
    · rw [Act.andThen_ok]
      obtain ⟨later, log⟩ := goes_on
      rw [log, total]
      exact .refused refused
    · rw [Act.andThen_error, total]
      exact .verdict
    · rw [Act.andThen_ok]
      obtain ⟨later, log⟩ := goes_on
      rw [log, total]
      have proceed : verdictOf loop.nodeHandler (.install fields) w.state = .ok .proceed := proceed
      rw [← proceed]
      exact .concluded proceed

/-- With nothing to read, a loop does nothing. -/
theorem Loop.run_idle (wire : Wire) (loop : Loop σ) {w : Agent σ} (empty : w.recv.bytes = []) :
    ((loop.run wire).run w).2 = w := by
  have no_frame (found rest : Bytes) : w.recv.bytes ≠ frame found ++ rest := by
    intro bytes
    have length := congrArg List.length (bytes.symm.trans empty)
    rw [List.length_append, Framing.length_frame, List.length_nil] at length
    omega
  rw [loop.run_eq_serve wire]
  rcases serve_cases wire w with
    ⟨found, rest, _, _, bytes, -⟩ | ⟨error, rest, ends, read⟩ | ⟨-, read⟩
  · exact absurd bytes (no_frame found rest)
  · rcases ends with ⟨-, rfl⟩ | ⟨found, bytes, -⟩
    · rw [read]
      show { w with recv.bytes := [] } = w
      rw [← empty]
    · exact absurd bytes (no_frame found rest)
  · rw [read]

/-- A request that leaves nothing behind it is the last thing a loop does. -/
theorem Loop.run_last (wire : Wire) (loop : Loop σ) {w w' : Agent σ} {code : UInt32}
    {body rest : Bytes} {outcome : Except (Halt HandlerError) Unit}
    (bytes : w.recv.bytes = frame (Wire.requestFrame code body) ++ rest)
    (fits : (Wire.requestFrame code body).length < Framing.frameLimit)
    (ran : (loop.arms wire code body).run (atRequest w rest code body) = (outcome, w'))
    (empty : w'.recv.bytes = []) : ((loop.run wire).run w).2 = w' := by
  rw [loop.run_eq_serve wire, serve_request _ bytes fits, ran]
  rcases outcome with halt | done
  · rfl
  · rw [Act.andThen_ok, ← loop.run_eq_serve wire]
    exact loop.run_idle wire empty

/-- A refused install is all the agent gets to do when nothing follows the request. -/
theorem Loop.refused_not_called (wire : Wire) (loop : Loop σ) {fields : Install}
    (lawful : wire.RoundTrips .nodePackageRequest (.install fields)) {w : Agent σ}
    (fresh : w.log = [])
    (fits : (Server.installFrame wire (.install fields)).length < Framing.frameLimit)
    (sent : w.recv.bytes <+: frame (Server.installFrame wire (.install fields)))
    (refused : verdictOf loop.nodeHandler (.install fields) w.state ≠ .ok .proceed)
    (req : NodePackageRequest) :
    .called (.nodePackageInstall req) ∉ ((loop.run wire).run w).2.log := by
  rw [← List.append_nil (frame _)] at sent
  rcases loop.run_install wire lawful w fits sent with
    idle | ⟨rest, outcome, w', unread, installs, ran⟩
  · rw [idle, fresh]
    exact List.not_mem_nil
  · rw [List.prefix_nil.mp unread] at installs
    rw [ran]
    cases installs with
    | verdictLost error state =>
        rw [Act.andThen_error]
        simp [atRequest, fresh]
    | refused state refused =>
        rw [Act.andThen_ok, loop.run_idle wire rfl]
        simp [atRequest, fresh, opening]
    | receiving state added reader stream proceed drawn awaits => exact absurd proceed refused
    | draining state result early late reader stream proceed drawn awaits =>
        exact absurd proceed refused
    | terminalLost error state result early late drained stream proceed transfer =>
        exact absurd proceed refused
    | finished state result early late drained stream proceed transfer =>
        exact absurd proceed refused

/-! ### Both ends -/

/-- What `Applied` means: the agent proceeded, got the package and answered this. -/
structure AppliedAs (size : Nat) (resp : NodePackageResponse) (source : Server.Source)
    (manager : Manager τ) (agent : List AgentEvent) : Prop where
  answers : ∃ later, responses agent =
    ⟨.installPreflight, .ok .proceed⟩ :: ⟨.nodePackageResponse, .ok resp⟩ :: later
  length : (Server.sentChunks manager.log).flatten.length = size
  sent : (Server.sentChunks manager.log).flatten = (Server.sourceBytes source).take size
  sizes : ∀ chunk ∈ Server.sentChunks manager.log,
    chunk ≠ [] ∧ chunk.length ≤ Server.packageChunkLen
  consumed : Server.sourceBytes manager.input = (Server.sourceBytes source).drop size

/-- What `Preflight` means: the agent gave this verdict, and nothing else happened. -/
structure RefusedAs (image : TerminalPreflight) (source : Server.Source) (manager : Manager τ)
    (agent : List AgentEvent) : Prop where
  verdict : ∃ verdict later, Server.terminalPreflight verdict = some image ∧
    responses agent = ⟨.installPreflight, .ok verdict⟩ :: later
  unread : (∀ result, .read result ∉ manager.log) ∧ manager.input = source
  unsent : Server.sentChunks manager.log = []
  uncalled : ∀ req, .called (.nodePackageInstall req) ∉ agent

theorem managerParty_judged {α : Type} (call : ManagerAct τ α) (wire : Wire)
    (req : NodePackageRequest) (verdict : Except String InstallPreflight) (rest : Bytes)
    {w : Manager τ}
    (fresh : w.log = []) :
    (managerParty call).written (Server.judged wire req verdict rest w).log =
      frame (Server.installFrame wire req) := by
  rw [Server.judged, fresh]
  exact List.append_nil _

section ends

variable {wire : Wire} {loop : Loop σ} {fields : Install} {near manager : Manager τ} {far : Agent σ}
  {α : Type} {call : ManagerAct τ α}

theorem applied_as {resp : NodePackageResponse}
    (transacts : Server.Transacts wire (.install fields) fields.size.toNat near
      (.ok (.applied resp)) manager) (freshNear : near.log = []) (freshFar : far.log = [])
    (lawful : wire.RoundTrips .nodePackageRequest (.install fields))
    (verdicts : ∀ verdict, wire.RoundTrips (.result .installPreflight) verdict)
    (terminals : ∀ result, wire.RoundTrips (.result .nodePackageResponse) result)
    (toFar : far.recv.bytes <+: (managerParty call).written manager.log)
    (toNear : near.recv.bytes <+:
      responseBytes wire (responses ((loop.run wire).run far).2.log)) :
    AppliedAs fields.size.toNat resp near.input manager ((loop.run wire).run far).2.log := by
  cases transacts with
  | applied _ body rest added w' body' rest' fits answer forwards total terminal =>
      have log : (Server.judged wire (.install fields) (.ok .proceed) rest near).log ++
          (added ++ [.received .nodePackageResponse (.ok resp)]) =
          w'.log ++ [.received .nodePackageResponse (.ok resp)] := by
        rw [forwards.log, List.append_assoc]
      dsimp only at toFar
      rw [← log, Party.written_append, managerParty_judged call wire _ _ _ freshNear] at toFar
      have shape := loop.install_responses wire lawful freshFar fits toFar
      have fit := loop.responses_fit wire freshFar
      rw [answer.bytes] at toNear
      obtain ⟨ty, verdict, later, replies, same, toNear, fit⟩ :=
        next_response fit answer.fits toNear
      rw [terminal.bytes] at toNear
      obtain ⟨ty', result, later', replies', same', -⟩ := next_response fit terminal.fits toNear
      rw [replies, replies'] at shape
      have chunks : Server.sentChunks
          (w'.log ++ [.received .nodePackageResponse (.ok resp)]) = Server.sentChunks added := by
        rw [← log, Server.judged, freshNear, Server.sentChunks_append,
          Server.sentChunks_append added]
        exact List.append_nil _
      refine ⟨?_, ?_, ?_, ?_, ?_⟩
      · rw [replies, replies']
        cases shape with
        | refused refused =>
            exact absurd (eq_of_decoded (verdicts _) same answer.decoded) refused
        | concluded proceed =>
            have done := eq_of_decoded (terminals _) same' terminal.decoded
            rw [proceed, done]
            exact ⟨later', rfl⟩
      · rw [chunks, total]
      · have source : Server.sourceBytes near.input = _ := forwards.source
        rw [chunks, source, ← total, List.take_left]
      · rw [chunks]
        exact forwards.sizes
      · have source : Server.sourceBytes near.input = _ := forwards.source
        rw [source, ← total, List.drop_left]

theorem refused_as {image : TerminalPreflight}
    (transacts : Server.Transacts wire (.install fields) fields.size.toNat near
      (.ok (.preflight image)) manager) (freshNear : near.log = []) (freshFar : far.log = [])
    (lawful : wire.RoundTrips .nodePackageRequest (.install fields))
    (verdicts : ∀ verdict, wire.RoundTrips (.result .installPreflight) verdict)
    (toFar : far.recv.bytes <+: (managerParty call).written manager.log)
    (toNear : near.recv.bytes <+:
      responseBytes wire (responses ((loop.run wire).run far).2.log)) :
    RefusedAs image near.input manager ((loop.run wire).run far).2.log := by
  cases transacts with
  | refused verdict _ body rest fits answer image =>
      rw [managerParty_judged call wire _ _ _ freshNear] at toFar
      have shape := loop.install_responses wire lawful freshFar fits
        (toFar.trans (List.prefix_append _ []))
      have fit := loop.responses_fit wire freshFar
      rw [answer.bytes] at toNear
      obtain ⟨ty, result, later, replies, same, -⟩ := next_response fit answer.fits toNear
      rw [replies] at shape
      have given : ty = .installPreflight ∧
          HEq result (verdictOf loop.nodeHandler (.install fields) far.state) := by
        cases shape with
        | refused _ => exact ⟨rfl, HEq.rfl⟩
        | verdict => exact ⟨rfl, HEq.rfl⟩
        | concluded _ => exact ⟨rfl, HEq.rfl⟩
      obtain ⟨rfl, given⟩ := given
      obtain rfl := eq_of_heq given
      have judgement := eq_of_decoded (verdicts _) same answer.decoded
      have other : verdictOf loop.nodeHandler (.install fields) far.state ≠ .ok .proceed := by
        rw [judgement]
        intro proceed
        cases proceed
        cases image
      refine ⟨⟨verdict, later, image, ?_⟩, ⟨?_, rfl⟩, ?_, ?_⟩
      · rw [replies, judgement]
      · simp [Server.judged, freshNear]
      · rw [Server.judged, freshNear]
        rfl
      · exact loop.refused_not_called wire lawful freshFar fits toFar other

end ends

/-- In every state that any interleaving reaches, a manager that has returned from an
install knows what became of it, and it reads the source only behind a `Proceed`. -/
theorem install_end_to_end (wire : Wire) (loop : Loop σ) (fields : Install) (policy : τ)
    (refused : Option IoError) (state : σ) (managerSend agentSend : SendStream IoError)
    (lawful : wire.RoundTrips .nodePackageRequest (.install fields))
    (verdicts : ∀ verdict, wire.RoundTrips (.result .installPreflight) verdict)
    (terminals : ∀ result, wire.RoundTrips (.result .nodePackageResponse) result)
    (now : Duplex (Opening τ) (Except IoError Bytes) ManagerEvent IoError σ AgentEvent IoError)
    (reachable : Duplex.Reachable
      (managerParty (Server.nodePackageInstall wire (.install fields))) (agentParty wire loop)
      (dialing policy refused state managerSend agentSend) now) :
    (∀ resp, ((Server.nodePackageInstall wire (.install fields)).run now.near).1 =
        .ok (.applied resp) →
      AppliedAs fields.size.toNat resp now.near.input
        ((Server.nodePackageInstall wire (.install fields)).run now.near).2
        ((loop.run wire).run now.far).2.log) ∧
    (∀ image, ((Server.nodePackageInstall wire (.install fields)).run now.near).1 =
        .ok (.preflight image) →
      RefusedAs image now.near.input
        ((Server.nodePackageInstall wire (.install fields)).run now.near).2
        ((loop.run wire).run now.far).2.log) ∧
    ∀ before result after,
      ((Server.nodePackageInstall wire (.install fields)).run now.near).2.log =
        before ++ .read result :: after →
      .received .installPreflight (.ok .proceed) ∈ before := by
  have delivered := reachable.delivered rfl rfl
  have freshNear : now.near.log = [] := by rw [reachable.frame.1]; rfl
  have freshFar : now.far.log = [] := by rw [reachable.frame.2]; rfl
  have toFar := delivered.toFar
  have toNear := delivered.toNear
  rw [Party.output, agentParty_written] at toNear
  have transacts := Server.installExchange_transacts wire (.install fields) fields.size now.near
  refine ⟨?_, ?_, ?_⟩
  · intro resp applied
    have transacts : Server.Transacts wire (.install fields) fields.size.toNat now.near
      (.ok (.applied resp)) _ := applied ▸ transacts
    exact applied_as transacts freshNear freshFar lawful verdicts terminals toFar toNear
  · intro image preflight
    have transacts : Server.Transacts wire (.install fields) fields.size.toNat now.near
      (.ok (.preflight image)) _ := preflight ▸ transacts
    exact refused_as transacts freshNear freshFar lawful verdicts toFar toNear
  · intro before result after split
    exact transacts.read_after_proceed freshNear split

section sample

/-- The manager of a one-byte install. -/
def sampleManager :
    Party (Opening Unit) (Except IoError Bytes) ManagerEvent IoError Server.ApiError
      InstallOutcome :=
  managerParty (Server.nodePackageInstall Encoding.bincode (.install (bareInstall 1)))

def sampleAgent : Party Unit Empty AgentEvent IoError HandlerError Unit :=
  agentParty Encoding.bincode (.handle eagerHandler)

def sampleStart :
    Duplex (Opening Unit) (Except IoError Bytes) ManagerEvent IoError Unit AgentEvent IoError :=
  dialing () none () (.healthy (.simple .invalidInput)) (.healthy (.simple .invalidInput))

/-- The source yields two bytes. -/
def sampleFed :
    Duplex (Opening Unit) (Except IoError Bytes) ManagerEvent IoError Unit AgentEvent IoError :=
  { sampleStart with
    near := { sampleStart.near with input := sampleStart.near.input ++ [.ok [7, 8]] } }

/-- All frames arrive in turn. -/
def sampleEnd :
    Duplex (Opening Unit) (Except IoError Bytes) ManagerEvent IoError Unit AgentEvent IoError :=
  (((sampleFed.deliverFar sampleManager).deliverNear sampleAgent).deliverFar
    sampleManager).deliverNear sampleAgent

theorem sampleEnd_reachable : Duplex.Reachable sampleManager sampleAgent sampleStart sampleEnd := by
  have start : Duplex.Delivered sampleManager sampleAgent sampleStart :=
    ⟨List.nil_prefix, List.nil_prefix⟩
  have first : Duplex.Step sampleManager sampleAgent sampleStart sampleFed :=
    .input sampleStart (.ok [7, 8])
  have at₁ := start.step first
  have second := at₁.step_deliverFar rfl
  have at₂ := at₁.step second
  have third := at₂.step_deliverNear rfl
  have at₃ := at₂.step third
  have fourth := at₃.step_deliverFar rfl
  have at₄ := at₃.step fourth
  have fifth := at₄.step_deliverNear rfl
  exact ((((Relation.ReflTransGen.single first).tail second).tail third).tail fourth).tail fifth

theorem install_end_to_end_sample :
    ((Server.nodePackageInstall Encoding.bincode (.install (bareInstall 1))).run
      sampleEnd.near).1 = .ok (.applied .done) ∧
    AppliedAs 1 .done sampleEnd.near.input
      ((Server.nodePackageInstall Encoding.bincode (.install (bareInstall 1))).run
        sampleEnd.near).2
      (((Loop.handle eagerHandler).run Encoding.bincode).run sampleEnd.far).2.log := by
  have applied : ((Server.nodePackageInstall Encoding.bincode (.install (bareInstall 1))).run
      sampleEnd.near).1 = .ok (.applied .done) := by rfl
  exact ⟨applied, (install_end_to_end Encoding.bincode (.handle eagerHandler) (bareInstall 1) ()
    none () _ _ (Encoding.bincode_roundTrips rfl _) (fun _ => Encoding.bincode_roundTrips rfl _)
    (fun _ => Encoding.bincode_roundTrips rfl _) sampleEnd sampleEnd_reachable).1 .done applied⟩

end sample

end ReviewProtocol
