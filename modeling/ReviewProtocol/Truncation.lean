import ReviewProtocol.Agent.Passage
import ReviewProtocol.Server.Stream

set_option autoImplicit false

/- Streams that break off inside a frame. The transport reports the end of a finished
stream in the same way before a frame and inside one, and every loop takes that for a
graceful close. -/
namespace ReviewProtocol

open Framing (Bytes Act Frames Protocol RecvStream Halt frame)
open Framing.Act (Turn)

/-- The peer has sent these bytes and finished the stream. -/
structure Finished (stream : RecvStream IoError) (bytes : Bytes) : Prop where
  bytes : stream.bytes = bytes
  fin : ∃ error, stream.fin = some error ∧ error.kind = .unexpectedEof

theorem Finished.ne_none {stream : RecvStream IoError} {bytes : Bytes}
    (finished : Finished stream bytes) : stream.fin ≠ none := by
  obtain ⟨error, fin, -⟩ := finished.fin
  rw [fin]
  nofun

/-- When a start of a frame is left over, a loop neither ends as if the stream had been
closed nor goes on waiting. -/
def HonestEnd {ε α : Type} (rest : Bytes) (clean : α) (outcome : Except (Halt ε) α) : Prop :=
  rest ≠ [] → outcome ≠ .ok clean ∧ outcome ≠ .error .pending

/-! ### The manager's loops -/

namespace Server

variable {σ τ : Type} {wire : Wire}

/-- The requests that the manager's loops give back to their caller. -/
def RequestCode.handedBack : RequestCode → Bool
  | getDataSourceList => true
  | getMaxEventIdNum => true
  | removeOutliers => true
  | _ => false

/-- A request that the loops let a handler answer, if the policy does. -/
structure Answerable (wire : Wire) (code : UInt32) (args : Bytes) : Prop where
  assigned : RequestCode.fromPrimitive code ≠ .unknown
  kept : (RequestCode.fromPrimitive code).handedBack = false
  decodes : ¬ Undecodable wire (RequestCode.fromPrimitive code).args args

/-- Some handler and policy get a loop through these frames. -/
inductive Servable (wire : Wire) : List Bytes → Prop where
  | done : Servable wire []
  | short {body : Bytes} {later : List Bytes} {error : IoError}
      (refused : wire.splitRequest body = .error error) (eof : error.kind = .unexpectedEof) :
      Servable wire (body :: later)
  | request {body args : Bytes} {later : List Bytes} {code : UInt32}
      (parsed : wire.splitRequest body = .ok (code, args)) (answerable : Answerable wire code args)
      (servable : Servable wire later) : Servable wire (body :: later)

theorem planArgs_unary {ty : WireTy} {body : Bytes} {classify : Option ProtocolErrorKind}
    {call : ty.denote → ServerCall} {made : ServerCall}
    (planned : planArgs wire ty body classify call = .unary made) :
    ∃ args, wire.decode ty body = .ok args := by
  unfold planArgs at planned
  cases decoded : wire.decode ty body with
  | ok args => exact ⟨args, rfl⟩
  | error cause =>
      rw [decoded] at planned
      cases classify <;> cases planned

theorem planArgs_kept {ty : WireTy} {body : Bytes} {classify : Option ProtocolErrorKind}
    {call : ty.denote → ServerCall} : planArgs wire ty body classify call ≠ .handBack := by
  unfold planArgs
  cases wire.decode ty body with
  | ok args => nofun
  | error cause => cases classify <;> nofun

theorem answerable_of_unary {peerName : String} {code : UInt32} {body : Bytes} {call : ServerCall}
    (planned : planOf wire peerName code body = .unary call) : Answerable wire code body := by
  have fits := fits_planOf wire peerName code body
  rw [planned] at fits
  refine ⟨fits.1, ?_, ?_⟩
  · unfold planOf at planned
    cases request : RequestCode.fromPrimitive code <;> rw [request] at planned <;> first
      | rfl
      | cases planned
  · rintro ⟨ty, error, args, refused⟩
    unfold planOf at planned
    cases request : RequestCode.fromPrimitive code <;> rw [request] at planned args <;> first
      | (cases args
         obtain ⟨value, decoded⟩ := planArgs_unary planned
         rw [refused] at decoded
         cases decoded)
      | cases args

theorem unary_of_answerable (peerName : String) {code : UInt32} {body : Bytes}
    (answerable : Answerable wire code body) :
    ∃ call, planOf wire peerName code body = .unary call := by
  have fits := fits_planOf wire peerName code body
  cases planned : planOf wire peerName code body with
  | unary call => exact ⟨call, rfl⟩
  | undecodable error =>
      obtain ⟨ty, cause, args, refused, -⟩ := planOf_undecodable planned
      exact absurd ⟨ty, cause, args, refused⟩ answerable.decodes
  | unknown =>
      rw [planned] at fits
      exact absurd fits answerable.assigned
  | handBack =>
      have kept := answerable.kept
      unfold planOf at planned
      cases request : RequestCode.fromPrimitive code <;> rw [request] at planned kept <;> first
        | exact absurd planned planArgs_kept
        | (cases planned; done)
        | cases kept

/-- Only an answered request lets the loop go on. -/
theorem Plan.unary_of_next {handler : Handler σ} {plan : Plan} {w w' : Peer σ τ} {code : UInt32}
    {body : Bytes} (ran : (plan.perform wire handler code body).run w = (.ok (.next ()), w')) :
    ∃ call, plan = .unary call := by
  cases plan with
  | unary call => exact ⟨call, rfl⟩
  | undecodable error => cases ran
  | handBack => cases ran
  | unknown =>
      rw [Plan.perform, refuseUnknown, Act.run_bind] at ran
      rcases run_respond wire .unit (.error "unknown request code") w with
        ⟨-, sent⟩ | ⟨error, -, lost⟩
      · rw [sent] at ran
        cases ran
      · rw [lost] at ran
        cases ran

/-- An arm after which the loop goes on has answered its request, and read nothing more. -/
theorem Gate.arms_next {handler : Handler σ} {gate : Gate τ} {w w' : Peer σ τ} {code : UInt32}
    {body : Bytes} (ran : (gate.arms wire handler (code, body)).run w = (.ok (.next ()), w')) :
    Answerable wire code body ∧ w'.recv = w.recv := by
  obtain ⟨logged, result, v, arm, acts, -⟩ := gate.arms_serves wire handler code body w
  rw [ran] at arm
  cases arm
  refine ⟨?_, acts.recv⟩
  have planned : ∃ u, ((planOf wire gate.peerName code body).perform wire handler code body).run u =
      (.ok (.next ()), w') := by
    unfold Gate.arms at ran
    dsimp only at ran
    rw [handleAuthorizedArms_eq] at ran
    cases named : fromServerRequestCode (.fromPrimitive code) with
    | none =>
        rw [named] at ran
        exact ⟨w, ran⟩
    | some service =>
        rw [named] at ran
        simp only [Act.run_bind] at ran
        rcases asked : (checkAuthorization wire service (gate.ask service)).run w with
          ⟨halt | ⟨⟩, u⟩
        · rw [asked] at ran
          cases ran
        · rw [asked] at ran
          exact ⟨u, ran⟩
  obtain ⟨u, performed⟩ := planned
  obtain ⟨call, unary⟩ := Plan.unary_of_next performed
  exact answerable_of_unary unary

/-- No arm waits, and one that stops the loop gives its request back. -/
theorem Gate.arms_settles (handler : Handler σ) (gate : Gate τ) (request : UInt32 × Bytes)
    (w : Peer σ τ) :
    ((gate.arms wire handler request).run w).1 ≠ .error .pending ∧
      ((gate.arms wire handler request).run w).1 ≠ .ok (.stop none) := by
  obtain ⟨logged, result, v, arm, -, serves⟩ := gate.arms_serves wire handler request.1 request.2 w
  rw [arm]
  cases serves with
  | unassigned unassigned refuses =>
      rcases refuses with ⟨-, rfl⟩ | ⟨-, attempt, failure, -, rfl⟩
      · exact ⟨nofun, nofun⟩
      · exact ⟨nofun, nofun⟩
  | denied named refuses =>
      rcases refuses with ⟨-, rfl⟩ | ⟨-, attempt, failure, -, rfl⟩
      · exact ⟨nofun, nofun⟩
      · exact ⟨nofun, nofun⟩
  | undecodable | answered | unanswered | handedBack => exact ⟨nofun, nofun⟩

/-- A loop that ends without an error, and gives nothing back, got through all the
frames. -/
theorem Gate.servable_of_ok {handler : Handler σ} {gate : Gate τ} {bodies : List Bytes}
    {rest : Bytes} {w : Peer σ τ} (frames : Frames w.recv.bytes bodies rest)
    (clean : ((gate.loop wire handler).run w).1 = .ok none) : Servable wire bodies := by
  rw [gate.loop_eq_serve] at clean
  induction bodies generalizing w with
  | nil => exact .done
  | cons body later ih =>
      obtain ⟨tail, bytes, fits, after⟩ := frames.uncons
      cases parsed : wire.splitRequest body with
      | error error =>
          refine .short parsed ?_
          rw [(serverProtocol wire).serve_refused _ bytes fits parsed] at clean
          by_cases eof : error.kind = .unexpectedEof
          · exact eof
          · simp only [serverProtocol, if_neg eof, Protocol.stopped] at clean
            cases clean
      | ok request =>
          obtain ⟨code, args⟩ := request
          rw [(serverProtocol wire).serve_request _ bytes fits parsed] at clean
          rcases ran : (gate.arms wire handler (code, args)).run
              ((serverProtocol wire).atRequest w tail (code, args)) with ⟨halt | ⟨⟨⟩⟩ | value, w'⟩
          · rw [ran] at clean
            cases clean
          · rw [ran] at clean
            obtain ⟨answerable, recv⟩ := Gate.arms_next ran
            refine .request parsed answerable (ih ?_ clean)
            rw [recv]
            exact after
          · obtain ⟨-, settles⟩ := gate.arms_settles handler (code, args)
              ((serverProtocol wire).atRequest w tail (code, args))
            rw [ran] at clean settles
            cases clean
            exact absurd rfl settles

theorem Gate.not_pending {handler : Handler σ} {gate : Gate τ} {w : Peer σ τ}
    (finished : w.recv.fin ≠ none) : ((gate.loop wire handler).run w).1 ≠ .error .pending := by
  rw [gate.loop_eq_serve]
  exact (serverProtocol wire).serve_settles
    (fun request v _ => (gate.arms_settles handler request v).1) finished

/-- A handler that refuses everything. -/
def refusing : Handler Unit where
  call _ state := (.error "", state)

/-- The policy of this gate lets everything pass. -/
def Gate.Open (gate : Gate Unit) : Prop := ∀ service, gate.ask service () = (.ok (), ())

theorem run_refusing (writable : Writable wire) (call : ServerCall) {code : UInt32} {body : Bytes}
    {w : Peer Unit Unit} (reliable : w.send.Reliable) :
    ∃ w', ((Plan.unary call).perform wire refusing code body).run w = (.ok (.next ()), w') ∧
      w'.recv = w.recv := by
  let called : Peer Unit Unit := { w with log := w.log ++ [.called call] }
  have unfolded : ((Plan.unary call).perform wire refusing code body).run w =
      Act.andThen ((respond wire call.ret (.error "")).run called) fun _ => pure (.next ()) := rfl
  rw [unfolded]
  rcases run_respond wire call.ret (.error "") called with ⟨-, sent⟩ | ⟨failure, lost, -⟩
  · rw [sent]
    exact ⟨_, rfl, rfl⟩
  · rw [reliable _ _ (writable.refusal call.ret)] at lost
    cases lost

theorem Gate.Open.arms {gate : Gate Unit} (passes : gate.Open) (writable : Writable wire)
    {code : UInt32} {body : Bytes} (answerable : Answerable wire code body) {w : Peer Unit Unit}
    (reliable : w.send.Reliable) :
    ∃ w', (gate.arms wire refusing (code, body)).run w = (.ok (.next ()), w') ∧
      w'.recv = w.recv := by
  obtain ⟨call, planned⟩ := unary_of_answerable gate.peerName answerable
  unfold Gate.arms
  dsimp only
  rw [handleAuthorizedArms_eq, planned]
  cases named : fromServerRequestCode (.fromPrimitive code) with
  | none => exact absurd (fromServerRequestCode_none.mp named) answerable.assigned
  | some service =>
      have asked : (checkAuthorization wire service (gate.ask service)).run w =
          (.ok (), { w with log := w.log ++ [.authorized service (.ok ())] }) := by
        simp only [checkAuthorization, Act.run_bind, Act.update, Framing.Act.emit, Act.andThen_ok,
          passes service]
        rfl
      rw [Act.run_bind, asked, Act.andThen_ok]
      exact run_refusing writable call reliable

/-- Frames that can be got through are, by a handler that refuses everything. -/
theorem Gate.Open.ok_of_servable {gate : Gate Unit} (passes : gate.Open)
    (writable : Writable wire) {bodies : List Bytes} (servable : Servable wire bodies)
    {w : Peer Unit Unit} {rest : Bytes} (frames : Frames w.recv.bytes bodies rest) {error : IoError}
    (fin : w.recv.fin = some error) (eof : error.kind = .unexpectedEof)
    (reliable : w.send.Reliable) : ((gate.loop wire refusing).run w).1 = .ok none := by
  rw [gate.loop_eq_serve]
  induction servable generalizing w with
  | done =>
      have same : w.recv.bytes = rest := frames.bytes
      have incomplete : Framing.splitFrame w.recv.bytes = none := by rw [same, frames.incomplete]
      rw [(serverProtocol wire).serve_end _ incomplete fin]
      simp only [serverProtocol, if_pos eof, Protocol.stopped]
  | short refused eof =>
      obtain ⟨tail, bytes, fits, -⟩ := frames.uncons
      rw [(serverProtocol wire).serve_refused _ bytes fits refused]
      simp only [serverProtocol, if_pos eof, Protocol.stopped]
  | @request body args later code parsed answerable servable ih =>
      obtain ⟨tail, bytes, fits, after⟩ := frames.uncons
      obtain ⟨w', ran, recv⟩ := passes.arms writable answerable
        (w := (serverProtocol wire).atRequest w tail (code, args)) reliable
      have progress := (gate.arms wire refusing (code, args)).progress
        ((serverProtocol wire).atRequest w tail (code, args))
      rw [ran] at progress
      rw [(serverProtocol wire).serve_request _ bytes fits parsed, ran]
      refine ih ?_ ?_ ?_
      · rw [recv]
        exact after
      · rw [recv]
        exact fin
      · intro attempt sent small
        rw [progress.outcome]
        exact reliable attempt sent small

/-- A manager in front of a finished stream, with nothing of its own. -/
def facing (bytes : Bytes) : Peer Unit Unit where
  state := ⟨(), ()⟩
  input := []
  recv := ⟨bytes, some (.simple .unexpectedEof)⟩
  send := .healthy (.simple .invalidInput)
  log := []

variable {bytes rest : Bytes} {bodies : List Bytes}

theorem Gate.honest {handler : Handler σ} (gate : Gate τ) {w : Peer σ τ}
    (frames : Frames bytes bodies rest) (finished : Finished w.recv bytes)
    (condition : rest = [] ∨ ¬ Servable wire bodies) :
    HonestEnd rest none ((gate.loop wire handler).run w).1 := by
  intro left
  refine ⟨?_, Gate.not_pending finished.ne_none⟩
  intro clean
  rcases condition with boundary | stuck
  · exact left boundary
  · rw [← finished.bytes] at frames
    exact stuck (Gate.servable_of_ok frames clean)

theorem Gate.Open.condition {gate : Gate Unit} (passes : gate.Open) (writable : Writable wire)
    (frames : Frames bytes bodies rest)
    (honest : HonestEnd rest none ((gate.loop wire refusing).run (facing bytes)).1) :
    rest = [] ∨ ¬ Servable wire bodies := by
  by_cases boundary : rest = []
  · exact .inl boundary
  · right
    intro servable
    have clean := passes.ok_of_servable writable servable (w := facing bytes) frames rfl rfl
      (Framing.SendStream.healthy_reliable _)
    exact (honest boundary).1 clean

end Server

/-! ### The agent's loops -/

section agent

variable {σ : Type} {wire : Wire} {bytes rest : Bytes} {bodies : List Bytes}

theorem Loop.honest (loop : Loop σ) {w : Agent σ} (frames : Frames bytes bodies rest)
    (finished : Finished w.recv bytes) (condition : rest = [] ∨ ¬ Passable wire loop.sees bodies) :
    HonestEnd rest () ((loop.run wire).run w).1 := by
  intro left
  refine ⟨?_, loop.not_pending finished.ne_none⟩
  intro clean
  rcases condition with boundary | stuck
  · exact left boundary
  · rw [← finished.bytes] at frames
    exact stuck (loop.passable_of_ok frames clean)

/-- An agent in front of a finished stream. -/
def facing (script : List Bool) (bytes : Bytes) : Agent (List Bool) :=
  connected script ⟨bytes, some (.simple .unexpectedEof)⟩ (.healthy (.simple .invalidInput))

theorem Loop.Scripted.condition {loop : Loop (List Bool)} (scripted : loop.Scripted wire)
    (writable : Writable wire) (frames : Frames bytes bodies rest)
    (honest : ∀ script, HonestEnd rest () ((loop.run wire).run (facing script bytes)).1) :
    rest = [] ∨ ¬ Passable wire loop.sees bodies := by
  by_cases boundary : rest = []
  · exact .inl boundary
  · right
    intro passable
    obtain ⟨script, through⟩ := Loop.ok_of_passable scripted writable passable
    have clean := through (facing script bytes)
      ⟨rfl, ⟨rest, frames⟩, ⟨_, rfl, rfl⟩, Framing.SendStream.healthy_reliable _⟩
    exact (honest script boundary).1 clean

end agent

/-! ### Event streams -/

section events

variable {σ : Type} {describe : Bytes → String}

/-- The handler of an event stream is not told of an end inside a frame. -/
def HonestEvents (rest : Bytes) (w : EventStream σ)
    (outcome : Except (Halt IoError) Unit × EventStream σ) : Prop :=
  HonestEnd rest () outcome.1 ∧
    (rest ≠ [] → ∀ made, outcome.2.log = w.log ++ made → .onStreamEnd ∉ made)

/-- A handler that takes everything. -/
def accepting : EventStreamHandler Unit where
  handleEvent _ state := (.ok (), state)

def eventsFacing (bytes : Bytes) : EventStream Unit where
  state := ()
  input := []
  recv := ⟨bytes, some (.simple .unexpectedEof)⟩
  send := .healthy (.simple .invalidInput)
  log := []

/-- A handler that takes everything is told of the end wherever the stream breaks off. -/
theorem accepting_ok {header bytes rest : Bytes} {bodies : List Bytes} (two : header.length = 2)
    (frames : Frames bytes bodies rest) :
    ((processEventStream describe accepting).run (eventsFacing (header ++ bytes))).1 = .ok () := by
  have whole : (eventsFacing (header ++ bytes)).recv.bytes =
      header ++ (bodies.flatMap frame ++ rest) := by
    rw [← frames.bytes]
    rfl
  have delivers : Delivers accepting _ (callbacksDue describe bodies) _ :=
    processEventStream_delivers two frames.fits frames.incomplete whole rfl rfl
  rcases delivers with ⟨ok, -⟩ | ⟨error, made, -, -, fails⟩
  · exact ok
  · obtain ⟨before, callback, after, between, -, -, -, failed⟩ := fails
    cases callback <;> cases failed

/-- A stream that ends inside its header is an error. -/
theorem processEventStream_header {handler : EventStreamHandler σ} {w : EventStream σ}
    {bytes : Bytes}
    (finished : Finished w.recv bytes) (short : bytes.length < 2) :
    ∃ error, ((processEventStream describe handler).run w).1 = .error (.failed error) := by
  rw [← finished.bytes] at short
  rcases Act.run_readExact_cases (ε := IoError) 2 w with
    ⟨front, left, split, size, -⟩ | ⟨error, -, -, read⟩ | ⟨unfinished, -, -⟩
  · rw [split, List.length_append, size] at short
    omega
  · simp only [processEventStream, Act.run_bind, read, Act.andThen_ok, Act.fail]
    exact ⟨_, rfl⟩
  · exact absurd unfinished finished.ne_none

end events

/-- On every finished stream a loop reports a frame that breaks off if and only if none
does, or some whole frame before it keeps every handler from getting there. Event streams
have no such frame. -/
theorem truncation_reported_iff (wire : Wire) (writable : Writable wire)
    (describe : Bytes → String) (bytes : Bytes) (bodies : List Bytes) (rest : Bytes)
    (frames : Frames bytes bodies rest) :
    ((∀ (σ : Type) (handler : Handler σ) (w : Agent σ), Finished w.recv bytes →
        HonestEnd rest () ((handle wire handler).run w).1) ↔
      rest = [] ∨ ¬ Passable wire .fromPrimitive bodies) ∧
    ((∀ (σ : Type) (handler : NodeHandler σ) (w : Agent σ), Finished w.recv bytes →
        HonestEnd rest () ((handleNode wire handler).run w).1) ↔
      rest = [] ∨ ¬ Passable wire (fun code => (Client.RequestCode.fromPrimitive code).nodeOnly)
        bodies) ∧
    ((∀ (σ τ : Type) (handler : Server.Handler σ) (peer : PeerContext) (authorizer : Authorizer τ)
        (w : Server.Peer σ τ), Finished w.recv bytes →
        HonestEnd rest none ((Server.handleAuthorized wire handler peer authorizer).run w).1) ↔
      rest = [] ∨ ¬ Server.Servable wire bodies) ∧
    ((∀ (σ τ : Type) (handler : Server.Handler σ) (context : AuthorizationContext)
        (authorizer : AuthorizerV2 τ) (w : Server.Peer σ τ), Finished w.recv bytes →
        HonestEnd rest none
          ((Server.handleAuthorizedWithContext wire handler context authorizer).run w).1) ↔
      rest = [] ∨ ¬ Server.Servable wire bodies) ∧
    (∀ header : Bytes, header.length = 2 →
      ((∀ (σ : Type) (handler : EventStreamHandler σ) (w : EventStream σ),
        Finished w.recv (header ++ bytes) →
        HonestEvents rest w ((processEventStream describe handler).run w)) ↔ rest = [])) ∧
    (∀ (σ : Type) (handler : EventStreamHandler σ) (w : EventStream σ) (header : Bytes),
      header.length < 2 → Finished w.recv header →
      (∃ error, ((processEventStream describe handler).run w).1 = .error (.failed error)) ∧
        ((processEventStream describe handler).run w).2.log = w.log) := by
  have eof : ∃ error, some (IoError.simple .unexpectedEof) = some error ∧
      error.kind = .unexpectedEof := ⟨_, rfl, rfl⟩
  refine ⟨⟨?_, ?_⟩, ⟨?_, ?_⟩, ⟨?_, ?_⟩, ⟨?_, ?_⟩, ?_, ?_⟩
  · intro honest
    exact (Loop.scripted_handle writable).condition writable frames fun script =>
      honest _ scripted (facing script bytes) ⟨rfl, eof⟩
  · intro condition σ handler w finished
    exact Loop.honest (.handle handler) frames finished condition
  · intro honest
    exact (Loop.scripted_handleNode writable).condition writable frames fun script =>
      honest _ scripted.toNodeHandler (facing script bytes) ⟨rfl, eof⟩
  · intro condition σ handler w finished
    exact Loop.honest (.handleNode handler) frames finished condition
  · intro honest
    have passes : Server.openGate.Open := fun _ => rfl
    exact passes.condition writable frames
      (honest _ _ Server.refusing _ _ (Server.facing bytes) ⟨rfl, eof⟩)
  · intro condition σ τ handler peer authorizer w finished
    exact Server.Gate.honest (.legacy peer authorizer) frames finished condition
  · intro honest
    have passes :
        (Server.Gate.withContext (.fromAuthenticatedInputs (.new "agent") none none none none)
      noopAuthorizer.adapted).Open := fun _ => rfl
    exact passes.condition writable frames
      (honest _ _ Server.refusing _ _ (Server.facing bytes) ⟨rfl, eof⟩)
  · intro condition σ τ handler context authorizer w finished
    exact Server.Gate.honest (.withContext context authorizer) frames finished condition
  · intro header two
    constructor
    · intro honest
      by_cases boundary : rest = []
      · exact boundary
      · have reported := honest Unit accepting (eventsFacing (header ++ bytes)) ⟨rfl, eof⟩
        exact absurd (accepting_ok two frames) (reported.1 boundary).1
    · intro boundary σ handler w _
      exact ⟨fun left => absurd boundary left, fun left => absurd boundary left⟩
  · intro σ handler w header short finished
    refine ⟨processEventStream_header finished short, ?_⟩
    apply processEventStream_headless
    rw [finished.bytes]
    exact short

theorem size_ofList_le (text : List Char) :
    (String.ofList text).toByteArray.size ≤ 4 * text.length := by
  rw [String.toByteArray_ofList]
  induction text with
  | nil => simp
  | cons c text ih =>
      have four := c.utf8Size_le_four
      rw [List.utf8Encode_cons, ByteArray.size_append, List.utf8Encode_singleton,
        List.size_toByteArray, String.length_utf8EncodeChar, List.length_cons]
      omega

theorem size_unknownRequestMessage (code : UInt32) :
    (unknownRequestMessage code).toByteArray.size < 251 := by
  have digits : toString code = String.ofList (Nat.toDigits 10 code.toNat) :=
    Nat.repr_eq_ofList_toDigits
  have ten : (Nat.toDigits 10 code.toNat).length ≤ 10 := by
    rw [Nat.length_toDigits_le_iff (by decide) (by decide)]
    have small := code.toNat_lt
    omega
  have bound := size_ofList_le (Nat.toDigits 10 code.toNat)
  have opening : (toString "unknown request code: ").toByteArray.size = 22 := by decide +kernel
  unfold unknownRequestMessage
  rw [digits, String.toByteArray_append, ByteArray.size_append, opening]
  omega

theorem bincode_writable : Writable Encoding.bincode := by
  refine ⟨?_, by decide, by decide, ?_⟩
  · intro ty
    simp only [Encoding.bincode, Encoding.codec]
    cases Encoding.codec ty with
    | none => simp [Framing.frameLimit]
    | some codec =>
        change ([1, 0] : Bytes).length < Framing.frameLimit
        decide
  · intro code
    have small := size_unknownRequestMessage code
    have same : Encoding.bincode.encode (.result .unit) (.error (unknownRequestMessage code)) =
        1 :: (Bincode.writeVarint (unknownRequestMessage code).toByteArray.data.toList.length ++
          (unknownRequestMessage code).toByteArray.data.toList.flatMap
            Bincode.Codec.byte.encode) := rfl
    have length : (unknownRequestMessage code).toByteArray.data.toList.length < 251 := small
    have text : (unknownRequestMessage code).toByteArray.data.toList.flatMap
        Bincode.Codec.byte.encode = (unknownRequestMessage code).toByteArray.data.toList :=
      List.flatMap_singleton' _
    rw [same, text, Bincode.writeVarint, if_pos length, List.length_cons, List.length_append,
      List.length_singleton]
    unfold Framing.frameLimit
    omega

/-- The start of a frame of five bytes. -/
def brokenFrame : Bytes := [0, 0, 0, 5, 1]

theorem truncation_reported_iff_sample :
    ¬ (∀ (σ : Type) (handler : Handler σ) (w : Agent σ), Finished w.recv brokenFrame →
        HonestEnd brokenFrame () ((handle Encoding.bincode handler).run w).1) ∧
      ¬ (∀ (σ : Type) (handler : EventStreamHandler σ) (w : EventStream σ),
        Finished w.recv ([0, 0] ++ brokenFrame) →
        HonestEvents brokenFrame w ((processEventStream (fun _ => "") handler).run w)) := by
  have sample := truncation_reported_iff Encoding.bincode bincode_writable (fun _ => "") brokenFrame
    [] brokenFrame (.nil (by decide +kernel))
  constructor
  · rw [sample.1]
    rintro (boundary | stuck)
    · cases boundary
    · exact stuck .done
  · rw [sample.2.2.2.2.1 [0, 0] rfl]
    nofun

/-- After a reboot, after a request for the configuration and after an event, the start of
a frame is taken for the end of the stream. -/
theorem broken_frame_ends_clean :
    Framing.splitFrame brokenFrame = none ∧
    ¬ HonestEnd brokenFrame () ((handle Encoding.bincode eagerHandler).run (connected ()
        ⟨encodedRequest .nodePower (Encoding.nodePowerRequest.encode .reboot) ++ brokenFrame,
          some (.simple .unexpectedEof)⟩ (.healthy (.simple .invalidInput)))).1 ∧
    ¬ HonestEnd brokenFrame () ((handleNode Encoding.bincode eagerHandler.toNodeHandler).run
        (connected ()
          ⟨encodedRequest .nodePower (Encoding.nodePowerRequest.encode .reboot) ++ brokenFrame,
            some (.simple .unexpectedEof)⟩ (.healthy (.simple .invalidInput)))).1 ∧
    ¬ HonestEnd brokenFrame none ((Server.handleAuthorized Encoding.bincode Server.refusing
        (.new "agent") noopAuthorizer).run (Server.facing
          (frame (Wire.requestFrame (Server.RequestCode.discriminant .getConfig) []) ++
            brokenFrame))).1 ∧
    ¬ HonestEnd brokenFrame none ((Server.handleAuthorizedWithContext Encoding.bincode
        Server.refusing (.fromAuthenticatedInputs (.new "agent") none none none none)
        noopAuthorizer.adapted).run (Server.facing
          (frame (Wire.requestFrame (Server.RequestCode.discriminant .getConfig) []) ++
            brokenFrame))).1 ∧
    ¬ HonestEvents brokenFrame (eventsFacing ([0, 0] ++ (frame (Encoding.encodeEventMessage
        sampleEvent) ++ brokenFrame))) ((processEventStream (fun _ => "") accepting).run
          (eventsFacing ([0, 0] ++ (frame (Encoding.encodeEventMessage sampleEvent) ++
            brokenFrame)))) := by
  have left : brokenFrame ≠ [] := by decide
  refine ⟨by decide +kernel, ?_, ?_, ?_, ?_, ?_⟩
  · intro honest
    exact (honest left).1 rfl
  · intro honest
    exact (honest left).1 rfl
  · intro honest
    exact (honest left).1 rfl
  · intro honest
    exact (honest left).1 rfl
  · intro honest
    exact (honest.1 left).1 rfl

end ReviewProtocol
