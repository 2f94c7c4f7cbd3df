import ReviewProtocol.Agent.Progress
import ReviewProtocol.Classification

set_option autoImplicit false

/- Which frames an agent's loop gets through. Every frame is taken as a request, except
those that an install takes as its payload; what a handler decides is only whether an
install takes any. -/
namespace ReviewProtocol

open Framing (Bytes Act Frames RecvStream SendStream Halt frame)
open Framing.Act (emit)

variable {σ : Type}

/-- Where the reader of a transfer stands among the frames that it faced at first. -/
inductive Midway (size : Nat) (bodies : List Bytes) (rest : Bytes) (reader : PackageReader)
    (stream : RecvStream IoError) : Prop where
  | sound (read left : List Bytes) (sound : reader.failed = false) (split : bodies = read ++ left)
      (taken : framesTaken size bodies = read ++ framesTaken reader.remaining left)
      (frames : Frames stream.bytes left rest)
  | overrun (read left : List Bytes) (failed : reader.failed = true) (split : bodies = read ++ left)
      (taken : framesTaken size bodies = read) (frames : Frames stream.bytes left rest)
  | lost (failed : reader.failed = true) (taken : framesTaken size bodies = bodies)
      (used : stream.bytes = [])

namespace Midway

variable {size : Nat} {bodies : List Bytes} {rest : Bytes} {reader reader' : PackageReader}
  {w w' : Agent σ}

theorem start {stream : RecvStream IoError} (frames : Frames stream.bytes bodies rest) :
    Midway size bodies rest (.new size) stream :=
  .sound [] bodies rfl rfl rfl frames

/-- A failed reader stays where it is. -/
theorem nextChunk_failed {answer : ChunkAnswer} (failed : reader.failed = true)
    (ran : reader.nextChunk.run w = (.ok (answer, reader'), w')) : reader' = reader ∧ w' = w := by
  rw [PackageReader.nextChunk, if_pos failed] at ran
  cases ran
  exact ⟨rfl, rfl⟩

theorem nextChunk {answer : ChunkAnswer} (midway : Midway size bodies rest reader w.recv)
    (ran : reader.nextChunk.run w = (.ok (answer, reader'), w')) :
    Midway size bodies rest reader' w'.recv := by
  cases midway with
  | overrun read left failed split taken frames =>
      obtain ⟨rfl, rfl⟩ := nextChunk_failed failed ran
      exact .overrun read left failed split taken frames
  | lost failed taken used =>
      obtain ⟨rfl, rfl⟩ := nextChunk_failed failed ran
      exact .lost failed taken used
  | sound read left sound split taken frames =>
      cases left with
      | nil =>
          have bytes : w.recv.bytes = rest := frames.bytes
          have noFrame (body tail : Bytes) : w.recv.bytes ≠ frame body ++ tail := by
            intro whole
            have isSome := Framing.splitFrame_frame_isSome body tail
            rw [← whole, bytes, frames.incomplete] at isSome
            cases isSome
          obtain ⟨added, step⟩ := PackageReader.nextChunk_step ran
          cases step with
          | alreadyFailed failed => exact .sound read [] sound split taken frames
          | finished _ complete => exact .sound read [] sound split taken frames
          | chunk body tail _ _ _ whole _ => exact absurd whole (noFrame body tail)
          | overrun body tail _ _ _ whole => exact absurd whole (noFrame body tail)
          | lost cause _ _ fin =>
              refine .lost rfl ?_ rfl
              rw [taken, split]
              rfl
      | cons body left =>
          by_cases expected : 0 < reader.remaining
          · obtain ⟨tail, bytes, fits, later⟩ := frames.uncons
            rw [PackageReader.run_nextChunk_frame sound expected bytes fits] at ran
            rw [framesTaken_cons expected] at taken
            by_cases overruns : reader.remaining < body.length
            · rw [if_pos overruns] at ran taken
              cases ran
              refine .overrun (read ++ [body]) left rfl ?_ taken later
              rw [split, List.append_assoc, List.singleton_append]
            · rw [if_neg overruns] at ran taken
              cases ran
              refine .sound (read ++ [body]) left sound ?_ ?_ later
              · rw [split, List.append_assoc, List.singleton_append]
              · rw [taken, List.append_assoc, List.singleton_append]
          · obtain ⟨added, step⟩ := PackageReader.nextChunk_step ran
            cases step with
            | alreadyFailed failed => exact .sound read (body :: left) sound split taken frames
            | finished _ complete => exact .sound read (body :: left) sound split taken frames
            | chunk _ _ _ more _ _ _ => exact absurd more expected
            | overrun _ _ _ more _ _ => exact absurd more expected
            | lost _ _ more _ => exact absurd more expected

/-- Behind a transfer that is over are the frames that it did not take. -/
theorem frames_after {stream : RecvStream IoError} (midway : Midway size bodies rest reader stream)
    (ended : reader.failed = true ∨ reader.remaining = 0) :
    ∃ rest', Frames stream.bytes (bodies.drop (framesTaken size bodies).length) rest' := by
  cases midway with
  | sound read left sound split taken frames =>
      have complete : reader.remaining = 0 := by
        rcases ended with failed | complete
        · rw [sound] at failed
          cases failed
        · exact complete
      rw [complete, framesTaken_zero, List.append_nil] at taken
      refine ⟨rest, ?_⟩
      rw [taken, split, List.drop_left]
      exact frames
  | overrun read left failed split taken frames =>
      refine ⟨rest, ?_⟩
      rw [taken, split, List.drop_left]
      exact frames
  | lost failed taken used =>
      refine ⟨[], ?_⟩
      rw [taken, List.drop_length, used]
      exact .nil rfl

end Midway

theorem InstallProg.run_midway {α : Type} (prog : InstallProg α) {size : Nat} {bodies : List Bytes}
    {rest : Bytes} {reader reader' : PackageReader} {w w' : Agent σ} {value : α}
    (midway : Midway size bodies rest reader w.recv)
    (ran : (prog.run reader).run w = (.ok (value, reader'), w')) :
    Midway size bodies rest reader' w'.recv := by
  induction prog generalizing reader w with
  | ret value =>
      cases ran
      exact midway
  | nextChunk resume ih =>
      simp only [InstallProg.run, Act.run_bind] at ran
      rcases step : reader.nextChunk.run w with ⟨halt | ⟨answer, middle⟩, v⟩
      · rw [step] at ran
        cases ran
      · rw [step] at ran
        exact ih answer (midway.nextChunk step) ran

theorem PackageReader.drain_midway {size : Nat} {bodies : List Bytes} {rest : Bytes}
    {reader : PackageReader} {w w' : Agent σ} {drained : Except IoError Unit}
    (midway : Midway size bodies rest reader w.recv)
    (ran : reader.drain.run w = (.ok drained, w')) :
    ∃ rest', Frames w'.recv.bytes (bodies.drop (framesTaken size bodies).length) rest' := by
  suffices ends : ∀ drained, (reader.drain.run w).1 = .ok drained →
      ∃ rest', Frames (reader.drain.run w).2.recv.bytes
        (bodies.drop (framesTaken size bodies).length) rest' by
    rw [ran] at ends
    exact ends drained rfl
  refine Act.loop_rule drainRound_decreasing
    (fun reader' v => Midway size bodies rest reader' v.recv)
    (fun outcome => ∀ drained, outcome.1 = .ok drained → ∃ rest', Frames outcome.2.recv.bytes
      (bodies.drop (framesTaken size bodies).length) rest') ?_ ?_ ?_ reader w midway
  · intro r u again u' held round
    simp only [drainRound, Act.run_bind] at round
    rcases step : r.nextChunk.run u with ⟨halt | ⟨answer, r'⟩, v⟩
    · rw [step] at round
      cases round
    · rw [step] at round
      cases answer <;> cases round
      exact held.nextChunk step
  · intro r u value u' held round drained _
    simp only [drainRound, Act.run_bind] at round
    rcases step : r.nextChunk.run u with ⟨halt | ⟨answer, r'⟩, v⟩
    · rw [step] at round
      cases round
    · rw [step] at round
      have next := held.nextChunk step
      obtain ⟨added, taken⟩ := nextChunk_step step
      cases taken with
      | alreadyFailed failed =>
          cases round
          exact next.frames_after (.inl failed)
      | finished sound complete =>
          cases round
          exact next.frames_after (.inr complete)
      | chunk => cases round
      | overrun =>
          cases round
          exact next.frames_after (.inl rfl)
      | lost =>
          cases round
          exact next.frames_after (.inl rfl)
  · intro r u halt u' _ _ drained impossible
    cases impossible

/-- The handler's part of a transfer and the drain together take the frames that a reader
is due. -/
theorem receivePackage_frames {handler : NodeHandler σ} {req : NodePackageRequest} {size : Nat}
    {bodies : List Bytes} {rest : Bytes} {w w' : Agent σ}
    {result : Except String NodePackageResponse} (frames : Frames w.recv.bytes bodies rest)
    (ran : (receivePackage handler req size).run w = (.ok result, w')) :
    ∃ rest', Frames w'.recv.bytes (bodies.drop (framesTaken size bodies).length) rest' := by
  let begun : Agent σ := { w with log := w.log ++ [.called (.nodePackageInstall req)] }
  have unfolded : (receivePackage handler req size).run w =
      Act.andThen (((handler.nodePackageInstall req w.state).run (.new size)).run begun)
        fun out => concludePackage out.1.1 out.1.2 out.2 := rfl
  rw [unfolded] at ran
  rcases body : ((handler.nodePackageInstall req w.state).run (.new size)).run begun with
    ⟨halt | ⟨⟨early, state⟩, reader⟩, v⟩
  · rw [body] at ran
    cases ran
  · rw [body, Act.andThen_ok] at ran
    have midway := InstallProg.run_midway (w := begun) _ (Midway.start frames) body
    simp only [concludePackage, Act.run_bind, Act.andThen_ok, Act.update, emit] at ran
    rcases out : reader.drain.run { v with state, log := v.log ++ [.installed early] } with
      ⟨halt | drained, u⟩
    · rw [out] at ran
      cases ran
    · rw [out] at ran
      cases ran
      exact PackageReader.drain_midway (w := { v with state, log := v.log ++ [.installed early] })
        midway out

/-- The exchange of an install once the handler has given its verdict. -/
theorem run_dispatchInstall (wire : Wire) (handler : NodeHandler σ) (req : NodePackageRequest)
    (size : Nat) (w : Agent σ) :
    (dispatchInstall wire handler req size).run w =
      Act.andThen ((sendResponse wire .installPreflight (verdictOf handler req w.state)).run
        (asked w (.node (.nodePackageInstallPreflight req))
          (handler.call (.nodePackageInstallPreflight req) w.state).2))
        fun _ =>
          if verdictOf handler req w.state = .ok .proceed then do
            let result ← receivePackage handler req size
            sendResponse wire .nodePackageResponse result
          else pure () := rfl

/-- An install that is answered has taken the frames that are due to it, or none. -/
theorem dispatchInstall_frames {wire : Wire} {handler : NodeHandler σ} {req : NodePackageRequest}
    {size : Nat} {bodies : List Bytes} {rest : Bytes} {w w' : Agent σ}
    (frames : Frames w.recv.bytes bodies rest)
    (ran : (dispatchInstall wire handler req size).run w = (.ok (), w')) :
    (∃ rest', Frames w'.recv.bytes bodies rest') ∨
      ∃ rest', Frames w'.recv.bytes (bodies.drop (framesTaken size bodies).length) rest' := by
  rw [run_dispatchInstall] at ran
  rcases run_sendResponse wire .installPreflight (verdictOf handler req w.state)
      (asked w (.node (.nodePackageInstallPreflight req))
        (handler.call (.nodePackageInstallPreflight req) w.state).2) with sent | ⟨error, lost⟩
  · rw [sent, Act.andThen_ok] at ran
    by_cases proceed : verdictOf handler req w.state = .ok .proceed
    · rw [if_pos proceed, Act.run_bind] at ran
      rcases received : (receivePackage handler req size).run (wrote _ .installPreflight _) with
        ⟨halt | result, v⟩
      · rw [received] at ran
        cases ran
      · rw [received, Act.andThen_ok] at ran
        have after := receivePackage_frames (w := wrote (asked w _ _) .installPreflight _) frames
          received
        rcases run_sendResponse wire .nodePackageResponse result v with sent | ⟨error, lost⟩
        · rw [sent] at ran
          cases ran
          exact .inr after
        · rw [lost] at ran
          cases ran
    · rw [if_neg proceed] at ran
      cases ran
      exact .inl ⟨rest, frames⟩
  · rw [lost] at ran
    cases ran

/-- Some handler gets a loop through these frames. A frame too short for a code can end
the loop as the end of the stream does. -/
inductive Passable (wire : Wire) (sees : UInt32 → Client.RequestCode) : List Bytes → Prop where
  | done : Passable wire sees []
  | short {body : Bytes} {later : List Bytes} {error : IoError}
      (refused : wire.splitRequest body = .error error) (eof : error.kind = .unexpectedEof) :
      Passable wire sees (body :: later)
  | request {body args : Bytes} {later : List Bytes} {code : UInt32}
      (parsed : wire.splitRequest body = .ok (code, args))
      (served : pairing wire (sees code) args ≠ .undecodable)
        (passable : Passable wire sees later) :
      Passable wire sees (body :: later)
  | install {body args : Bytes} {later : List Bytes} {code : UInt32} {fields : Install}
      (parsed : wire.splitRequest body = .ok (code, args))
      (pairs : pairing wire (sees code) args = .install fields)
      (passable : Passable wire sees
        (later.drop (framesTaken fields.size.toNat later).length)) :
      Passable wire sees (body :: later)

/-- What is left in front of the loop once a request has been served. -/
theorem Plan.frames_after {wire : Wire} {handler : NodeHandler σ} {code : UInt32} {plan : Plan σ}
    {bodies : List Bytes} {rest : Bytes} {w w' : Agent σ}
    (frames : Frames w.recv.bytes bodies rest)
    (ran : (plan.perform wire handler code).run w = (.ok (), w')) :
    plan.pairing ≠ .undecodable ∧ (∃ rest', Frames w'.recv.bytes bodies rest') ∨
      ∃ fields, plan.pairing = .install fields ∧ ∃ rest',
        Frames w'.recv.bytes (bodies.drop (framesTaken fields.size.toNat bodies).length) rest' := by
  have performs := plan.perform_performs wire handler code w
  rw [ran] at performs
  cases plan with
  | undecodable error => cases performs
  | answer ty result =>
      cases performs
      exact .inl ⟨nofun, rest, frames⟩
  | unary call ty ask =>
      cases performs
      exact .inl ⟨nofun, rest, frames⟩
  | silent call ask =>
      cases performs
      exact .inl ⟨nofun, rest, frames⟩
  | install fields =>
      rcases dispatchInstall_frames frames ran with kept | taken
      · exact .inl ⟨nofun, kept⟩
      · exact .inr ⟨fields, rfl, taken⟩

namespace Loop

variable {wire : Wire} (loop : Loop σ)

/-- A loop that ends without an error got through all the frames. -/
theorem passable_of_ok {bodies : List Bytes} {rest : Bytes} {w : Agent σ}
    (frames : Frames w.recv.bytes bodies rest) (clean : ((loop.run wire).run w).1 = .ok ()) :
    Passable wire loop.sees bodies := by
  rw [loop.run_eq_serve] at clean
  induction bound : bodies.length using Nat.strongRecOn generalizing bodies rest w with
  | ind bound ih =>
      cases bodies with
      | nil => exact .done
      | cons body later =>
          obtain ⟨tail, bytes, fits, after⟩ := frames.uncons
          cases parsed : wire.splitRequest body with
          | error error =>
              refine .short parsed ?_
              have ended :=
                (agentProtocol wire).serve_refused (goOn (loop.arms wire)) bytes fits parsed
              unfold serve at clean
              rw [ended] at clean
              by_cases eof : error.kind = .unexpectedEof
              · exact eof
              · simp only [agentProtocol, if_neg eof, Framing.Protocol.stopped] at clean
                cases clean
          | ok request =>
              obtain ⟨code, args⟩ := request
              obtain ⟨plan, same, pairs, -⟩ := loop.planned wire code args
              have whole := wire.splitRequest_ok parsed
              rw [whole] at bytes fits
              rw [serve_request (loop.arms wire) bytes fits, same] at clean
              rcases ran : (plan.perform wire loop.nodeHandler code).run
                  (atRequest w tail code args) with ⟨halt | ⟨⟩, w'⟩
              · rw [ran] at clean
                cases clean
              · rw [ran, Act.andThen_ok] at clean
                rcases plan.frames_after after ran with
                  ⟨served, rest', kept⟩ | ⟨fields, installs, rest', taken⟩
                · rw [pairs] at served
                  refine .request parsed served (ih later.length ?_ kept clean rfl)
                  rw [← bound, List.length_cons]
                  omega
                · rw [pairs] at installs
                  refine .install parsed installs (ih _ ?_ taken clean rfl)
                  rw [← bound, List.length_cons, List.length_drop]
                  omega

/-- On a finished stream nothing is left to wait for. -/
theorem not_pending {w : Agent σ} (finished : w.recv.fin ≠ none) :
    ((loop.run wire).run w).1 ≠ .error .pending := by
  rw [loop.run_eq_serve]
  refine (agentProtocol wire).serve_settles ?_ finished
  intro ⟨code, body⟩ v finished waits
  rw [run_goOn] at waits
  obtain ⟨plan, same, -⟩ := loop.planned wire code body
  have performs := plan.perform_performs wire loop.nodeHandler code v
  rw [same] at waits
  rcases ran : (plan.perform wire loop.nodeHandler code).run v with ⟨halt | value, v'⟩
  · rw [ran] at waits performs
    cases waits
    cases performs with
    | install fields outcome w' installs =>
        cases installs with
        | receiving state added reader stream proceed drawn awaits =>
            exact finished (drawn.fin.symm.trans awaits.waiting.unfinished)
        | draining state result early late reader stream proceed drawn awaits =>
            exact finished (drawn.fin.symm.trans awaits.waiting.unfinished)
  · rw [ran] at waits
    cases waits

end Loop

/-- A handler that refuses everything, except the installs its script lets proceed, which
it leaves to the drain. -/
def scripted : Handler (List Bool) where
  flat _ script := (.error "", script)
  node
    | .nodePackageInstallPreflight _, true :: script => (.ok .proceed, script)
    | .nodePackageInstallPreflight _, script => (.error "", script.drop 1)
    | _, script => (.error "", script)
  nodePackageInstall _ script := .ret (.error "", script)

/-- The replies of the scripted handler and those of the loops themselves can be framed. -/
structure Writable (wire : Wire) : Prop where
  refusal : ∀ ty, (wire.encode (.result ty) (.error "")).length < Framing.frameLimit
  done : (wire.encode (.result .unit) (.ok ())).length < Framing.frameLimit
  proceed : (wire.encode (.result .installPreflight) (.ok .proceed)).length < Framing.frameLimit
  unknown : ∀ code, (wire.encode (.result .unit) (.error (unknownRequestMessage code))).length <
    Framing.frameLimit

/-- A plan that the scripted handler gets done on a reliable transport. -/
def Plan.Obliging (wire : Wire) : Plan (List Bool) → Prop
  | undecodable _ => True
  | answer ty result => (wire.encode (.result ty) result).length < Framing.frameLimit
  | unary _ _ ask => ∀ script, ask script = (.error "", script)
  | silent _ ask => ∀ script, ask script = script
  | install _ => True

section scripted

variable {wire : Wire} {code : UInt32} {body : Bytes}

theorem planArgs_obliging {ty : WireTy} {classify : Option ProtocolErrorKind}
    {plan : ty.denote → Plan (List Bool)} (obliging : ∀ args, (plan args).Obliging wire) :
    (planArgs wire ty body classify plan).Obliging wire := by
  unfold planArgs
  cases wire.decode ty body with
  | ok args => exact obliging args
  | error error => trivial

theorem powerPlan_obliging (req : NodePowerRequest) :
    (powerPlan scripted.node req).Obliging wire := by
  unfold powerPlan
  split
  · exact fun script => rfl
  · exact fun script => rfl

theorem packagePlan_obliging (req : NodePackageRequest) :
    (packagePlan scripted.node req).Obliging wire := by
  cases req with
  | install fields => trivial
  | remove | listInstalled | status | listHostPorts => exact fun script => rfl

theorem nodePlan_obliging (writable : Writable wire) (request : Client.RequestCode) :
    (nodePlan scripted.node wire code body request).Obliging wire := by
  cases request
  case nodePower => exact planArgs_obliging powerPlan_obliging
  case nodePackage => exact planArgs_obliging packagePlan_obliging
  all_goals first
    | exact writable.unknown code
    | exact planArgs_obliging fun _ _ => rfl

theorem scripted_obliging (writable : Writable wire) :
    (scripted.plan wire code body).Obliging wire := by
  unfold Handler.plan
  cases Client.RequestCode.fromPrimitive code
  case echoRequest => exact writable.done
  all_goals first
    | exact nodePlan_obliging writable _
    | exact fun _ => rfl
    | exact planArgs_obliging fun _ _ => rfl

theorem scripted_toNodeHandler :
    scripted.toNodeHandler = ⟨scripted.node, scripted.nodePackageInstall⟩ := by
  unfold Handler.toNodeHandler
  congr 1
  funext call
  cases call <;> rfl

theorem run_sendResponse_reliable {ty : WireTy} {result : Except String ty.denote} {w : Agent σ}
    (reliable : w.send.Reliable)
    (fits : (wire.encode (.result ty) result).length < Framing.frameLimit) :
    (sendResponse wire ty result).run w = (.ok (), wrote w ty result) := by
  rcases Act.run_send_cases (ε := HandlerError) (wire.encode (.result ty) result)
    (AgentEvent.replied ty result) w with ⟨-, sent⟩ | ⟨error, failed, -⟩
  · have tried : (trySend wire ty result).run w = (.ok (.ok ()), wrote w ty result) := sent
    rw [sendResponse, Act.run_bind, tried]
    rfl
  · rw [reliable _ _ fits] at failed
    cases failed

/-- An obliging plan, installs apart, is carried out and leaves the stream alone. -/
theorem Plan.Obliging.run {plan : Plan (List Bool)} {handler : NodeHandler (List Bool)}
    (writable : Writable wire) (obliging : plan.Obliging wire)
    (served : plan.pairing ≠ .undecodable) (other : ∀ fields, plan.pairing ≠ .install fields)
    {w : Agent (List Bool)} (reliable : w.send.Reliable) :
    ∃ w', (plan.perform wire handler code).run w = (.ok (), w') ∧ w'.recv = w.recv ∧
      w'.state = w.state := by
  cases plan with
  | undecodable error => exact absurd rfl served
  | answer ty result =>
      exact ⟨_, run_sendResponse_reliable reliable obliging, rfl, rfl⟩
  | unary call ty ask =>
      have unfolded : ((Plan.unary call ty ask).perform wire handler code).run w =
        (sendResponse wire ty (ask w.state).1).run (asked w call (ask w.state).2) := rfl
      rw [unfolded, obliging w.state]
      exact ⟨_, run_sendResponse_reliable reliable (writable.refusal ty), rfl, rfl⟩
  | silent call ask => exact ⟨asked w call (ask w.state), rfl, rfl, obliging w.state⟩
  | install fields => exact absurd rfl (other fields)

/-- The scripted handler refuses an install. -/
theorem scripted_refuses (writable : Writable wire) (req : NodePackageRequest) (size : Nat)
    {script : List Bool} {w : Agent (List Bool)} (state : w.state = false :: script)
    (reliable : w.send.Reliable) :
    ∃ w', (dispatchInstall wire scripted.toNodeHandler req size).run w = (.ok (), w') ∧
      w'.recv = w.recv ∧ w'.state = script := by
  have answer : scripted.toNodeHandler.call (.nodePackageInstallPreflight req) w.state =
      (.error "", script) := by
    rw [Handler.toNodeHandler_call, state]
    rfl
  let asking : Agent (List Bool) := asked w (.node (.nodePackageInstallPreflight req)) script
  have sent : (sendResponse wire .installPreflight (.error "")).run asking = _ :=
    run_sendResponse_reliable reliable (writable.refusal .installPreflight)
  rw [run_dispatchInstall, verdictOf, answer, sent, Act.andThen_ok, if_neg nofun]
  exact ⟨_, rfl, rfl, rfl⟩

/-- The agent in front of a payload whose handler has returned at once. -/
def undrained (w : Agent σ) (req : NodePackageRequest) (early : Except String NodePackageResponse)
    (state : σ) : Agent σ :=
  { w with state, log := w.log ++ [.called (.nodePackageInstall req), .installed early] }

/-- A handler that reads nothing leaves all of a transfer to the drain. -/
theorem run_receivePackage_ret {handler : NodeHandler σ} {req : NodePackageRequest} {size : Nat}
    {w : Agent σ} {early : Except String NodePackageResponse} {state : σ}
    (unread : handler.nodePackageInstall req w.state = .ret (early, state)) :
    (receivePackage handler req size).run w =
      Act.andThen ((PackageReader.new size).drain.run (undrained w req early state))
        fun drained => pure (terminal early drained) := by
  simp only [receivePackage, Act.run_bind, emit, Act.update, Act.andThen_ok, unread,
    InstallProg.run,
    Act.run_pure, concludePackage, List.append_assoc, List.cons_append, List.nil_append, undrained]

/-- A refusal from a handler that reads nothing is the terminal reply, and the frames due
to the transfer are gone. -/
theorem run_receivePackage_unread {handler : NodeHandler σ} {req : NodePackageRequest}
    (size : Nat) {w : Agent σ} {text : String} {state : σ}
    (unread : handler.nodePackageInstall req w.state = .ret (.error text, state))
    (finished : w.recv.fin ≠ none) {bodies : List Bytes} {rest : Bytes}
    (frames : Frames w.recv.bytes bodies rest) :
    ∃ w' rest', (receivePackage handler req size).run w = (.ok (.error text), w') ∧
      Frames w'.recv.bytes (bodies.drop (framesTaken size bodies).length) rest' ∧
      w'.state = state ∧ w'.send.outcome = w.send.outcome := by
  let begun := undrained w req (.error text) state
  have drains := PackageReader.run_drain (.new size) begun
  have progress := (PackageReader.new size).drain.progress begun
  rw [run_receivePackage_ret unread]
  rcases drained : (PackageReader.new size).drain.run begun with ⟨halt | drain, v⟩
  · rw [drained] at drains progress
    obtain ⟨-, -, reader, -, awaits⟩ := drains
    exact absurd (progress.fin.symm.trans awaits.waiting.unfinished) finished
  · obtain ⟨rest', left⟩ := PackageReader.drain_midway (w := begun) (Midway.start frames) drained
    have same : terminal (.error text) drain = .error text := by cases drain <;> rfl
    rw [drained] at progress drains
    have kept : v.state = state := by
      cases drain with
      | ok =>
          obtain ⟨-, -, ⟨-, rfl, -⟩, -⟩ := drains
          rfl
      | error error =>
          obtain ⟨-, -, ⟨-, rfl, -⟩, -⟩ := drains
          rfl
    refine ⟨v, rest', ?_, left, kept, progress.outcome⟩
    rw [Act.andThen_ok, same, Act.run_pure]

/-- The scripted handler lets an install proceed. -/
theorem scripted_proceeds (writable : Writable wire) (req : NodePackageRequest) (size : Nat)
    {script : List Bool} {w : Agent (List Bool)} (state : w.state = true :: script)
    (reliable : w.send.Reliable) (finished : w.recv.fin ≠ none) {bodies : List Bytes}
    {rest : Bytes} (frames : Frames w.recv.bytes bodies rest) :
    ∃ w' rest', (dispatchInstall wire scripted.toNodeHandler req size).run w = (.ok (), w') ∧
      Frames w'.recv.bytes (bodies.drop (framesTaken size bodies).length) rest' ∧
      w'.state = script := by
  have answer : scripted.toNodeHandler.call (.nodePackageInstallPreflight req) w.state =
      (.ok .proceed, script) := by
    rw [Handler.toNodeHandler_call, state]
    rfl
  let asking : Agent (List Bool) := asked w (.node (.nodePackageInstallPreflight req)) script
  have sent : (sendResponse wire .installPreflight (.ok .proceed)).run asking = _ :=
    run_sendResponse_reliable reliable writable.proceed
  rw [run_dispatchInstall, verdictOf, answer, sent, Act.andThen_ok, if_pos rfl, Act.run_bind]
  have unread : scripted.toNodeHandler.nodePackageInstall req script = .ret (.error "", script) :=
    rfl
  obtain ⟨v, rest', received, left, kept, outcome⟩ := run_receivePackage_unread size
    (w := wrote asking .installPreflight (.ok .proceed)) unread finished frames
  have reliable' : v.send.Reliable := by
    intro attempt body fits
    rw [outcome]
    exact reliable attempt body fits
  rw [received, Act.andThen_ok,
    run_sendResponse_reliable reliable' (writable.refusal .nodePackageResponse)]
  exact ⟨_, rest', rfl, left, kept⟩

end scripted

namespace Loop

variable {wire : Wire}

theorem pairing_plan (loop : Loop σ) (code : UInt32) (body : Bytes) :
    (loop.plan wire code body).pairing = pairing wire (loop.sees code) body := by
  cases loop with
  | handle handler => exact handler.pairing_plan wire code body
  | handleNode handler => exact pairing_nodePlan wire code body handler.call _

/-- A loop that serves the scripted handler. -/
structure Scripted (wire : Wire) (loop : Loop (List Bool)) : Prop where
  handler : loop.nodeHandler = scripted.toNodeHandler
  obliging : ∀ code body, (loop.plan wire code body).Obliging wire

theorem scripted_handle (writable : Writable wire) : Scripted wire (.handle scripted) :=
  ⟨rfl, fun _ _ => scripted_obliging writable⟩

theorem scripted_handleNode (writable : Writable wire) :
    Scripted wire (.handleNode scripted.toNodeHandler) := by
  refine ⟨rfl, fun code body => ?_⟩
  rw [scripted_toNodeHandler]
  exact nodePlan_obliging writable _

/-- An agent that the scripted handler can serve up to the end of its stream. -/
structure Ready (w : Agent (List Bool)) (script : List Bool) (bodies : List Bytes) : Prop where
  state : w.state = script
  frames : ∃ rest, Frames w.recv.bytes bodies rest
  finished : ∃ error, w.recv.fin = some error ∧ error.kind = .unexpectedEof
  reliable : w.send.Reliable

theorem install_of_pairing {plan : Plan σ} {fields : Install}
    (pairs : plan.pairing = .install fields) : plan = .install fields := by
  cases plan <;> cases pairs
  rfl

/-- A request that is answered is a round of the loop, and leaves the agent ready for what
is behind it. -/
theorem Ready.round {loop : Loop (List Bool)} {w : Agent (List Bool)} {script script' : List Bool}
    {body args : Bytes} {later left : List Bytes} {code : UInt32}
    (ready : Ready w script (body :: later)) (parsed : wire.splitRequest body = .ok (code, args))
    (answers : ∀ tail rest, Frames tail later rest →
      ∃ w', ((loop.plan wire code args).perform wire loop.nodeHandler code).run
          (atRequest w tail code args) = (.ok (), w') ∧
        w'.state = script' ∧ ∃ rest', Frames w'.recv.bytes left rest') :
    ∃ w', Ready w' script' left ∧ (loop.run wire).run w = (loop.run wire).run w' := by
  obtain ⟨rest, frames⟩ := ready.frames
  obtain ⟨tail, bytes, fits, after⟩ := frames.uncons
  obtain ⟨w', ran, state, frames'⟩ := answers tail rest after
  have progress := ((loop.plan wire code args).perform wire loop.nodeHandler code).progress
    (atRequest w tail code args)
  rw [ran] at progress
  refine ⟨w', ⟨state, frames', ?_, ?_⟩, ?_⟩
  · rw [progress.fin]
    exact ready.finished
  · intro attempt body fits
    rw [progress.outcome]
    exact ready.reliable attempt body fits
  · rw [wire.splitRequest_ok parsed] at bytes fits
    rw [loop.run_eq_serve, serve_request (loop.arms wire) bytes fits, loop.arms_eq, ran,
      Act.andThen_ok]

/-- Frames that can be got through are, by some script. -/
theorem ok_of_passable {loop : Loop (List Bool)} (scripted : Scripted wire loop)
    (writable : Writable wire) {bodies : List Bytes} (passable : Passable wire loop.sees bodies) :
    ∃ script, ∀ w, Ready w script bodies → ((loop.run wire).run w).1 = .ok () := by
  induction passable with
  | done =>
      refine ⟨[], fun w ready => ?_⟩
      obtain ⟨rest, frames⟩ := ready.frames
      obtain ⟨error, fin, eof⟩ := ready.finished
      have same : w.recv.bytes = rest := frames.bytes
      have incomplete : Framing.splitFrame w.recv.bytes = none := by rw [same, frames.incomplete]
      rw [loop.run_eq_serve, serve, (agentProtocol wire).serve_end _ incomplete fin]
      simp only [agentProtocol, if_pos eof, Framing.Protocol.stopped]
  | short refused eof =>
      refine ⟨[], fun w ready => ?_⟩
      obtain ⟨rest, frames⟩ := ready.frames
      obtain ⟨tail, bytes, fits, -⟩ := frames.uncons
      rw [loop.run_eq_serve, serve, (agentProtocol wire).serve_refused _ bytes fits refused]
      simp only [agentProtocol, if_pos eof, Framing.Protocol.stopped]
  | @request body args later code parsed served passable ih =>
      obtain ⟨script, through⟩ := ih
      rw [← loop.pairing_plan] at served
      by_cases installs : ∃ fields, (loop.plan wire code args).pairing = .install fields
      · obtain ⟨fields, pairs⟩ := installs
        refine ⟨false :: script, fun w ready => ?_⟩
        obtain ⟨w', ready', same⟩ := ready.round parsed fun tail rest after => by
          rw [install_of_pairing pairs, Plan.perform, scripted.handler]
          obtain ⟨w', ran, recv, state⟩ := scripted_refuses writable (.install fields)
            fields.size.toNat (w := atRequest w tail code args) ready.state ready.reliable
          refine ⟨w', ran, state, rest, ?_⟩
          rw [recv]
          exact after
        rw [same]
        exact through w' ready'
      · refine ⟨script, fun w ready => ?_⟩
        obtain ⟨w', ready', same⟩ := ready.round parsed fun tail rest after => by
          obtain ⟨w', ran, recv, state⟩ := (scripted.obliging code args).run writable served
            (fun fields pairs => installs ⟨fields, pairs⟩) (w := atRequest w tail code args)
            ready.reliable
          refine ⟨w', ran, state.trans ready.state, rest, ?_⟩
          rw [recv]
          exact after
        rw [same]
        exact through w' ready'
  | @install body args later code fields parsed pairs passable ih =>
      obtain ⟨script, through⟩ := ih
      rw [← loop.pairing_plan] at pairs
      refine ⟨true :: script, fun w ready => ?_⟩
      have finished : w.recv.fin ≠ none := by
        obtain ⟨error, fin, -⟩ := ready.finished
        rw [fin]
        exact Option.some_ne_none error
      obtain ⟨w', ready', same⟩ := ready.round parsed fun tail rest after => by
        rw [install_of_pairing pairs, Plan.perform, scripted.handler]
        obtain ⟨w', rest', ran, frames, state⟩ := scripted_proceeds writable (.install fields)
          fields.size.toNat (w := atRequest w tail code args) ready.state ready.reliable
            finished after
        exact ⟨w', ran, state, rest', frames⟩
      rw [same]
      exact through w' ready'

end Loop

end ReviewProtocol
