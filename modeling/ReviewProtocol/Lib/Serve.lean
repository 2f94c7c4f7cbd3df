import ReviewProtocol.Lib.Act

set_option autoImplicit false

/- Dispatch loops: read a frame, read it as a request, let its arm act, and go round
again until an arm stops, the stream ends, or a frame is no request. -/
namespace Framing

open Act (Turn emit)

/-- What a dispatch loop takes a frame for, and what ends it. -/
structure Protocol (E X ε R α : Type) where
  parse : Bytes → Except X R
  event : R → E
  ended : X → Except ε α

namespace Protocol

variable {S I E X ε R α : Type} (protocol : Protocol E X ε R α)

/-- The party once it has read a request, with what follows it unread. -/
def atRequest (w : Endpoint S I E X) (rest : Bytes) (request : R) : Endpoint S I E X :=
  { w with recv.bytes := rest, log := w.log ++ [protocol.event request] }

/-- Ends the loop. -/
def finish : Except ε α → Act S I E X ε (Turn Unit α)
  | .ok value => pure (.stop value)
  | .error error => Act.fail error

def round (arms : R → Act S I E X ε (Turn Unit α)) (_ : Unit) : Act S I E X ε (Turn Unit α) := do
  match ← Act.recv with
  | .error (error, _) => finish (protocol.ended error)
  | .ok frame =>
      match protocol.parse frame with
      | .error error => finish (protocol.ended error)
      | .ok request => do
          emit (protocol.event request)
          arms request

/-- The outcome of a loop that ended without an arm. -/
def stopped (w : Endpoint S I E X) (rest : Bytes) (result : Except ε α) :
    Except (Halt ε) α × Endpoint S I E X :=
  (match result with
    | .ok value => .ok value
    | .error error => .error (.failed error), { w with recv.bytes := rest })

/-- Why a loop ends without an arm: the stream did, or a frame was no request. -/
def Ends (w : Endpoint S I E X) (rest : Bytes) (error : X) : Prop :=
  w.recv.fin = some error ∧ rest = [] ∨
  ∃ body, w.recv.bytes = frame body ++ rest ∧ protocol.parse body = .error error

/-- What one round can do, whatever the arms. -/
theorem round_cases (w : Endpoint S I E X) :
    (∃ body rest request, w.recv.bytes = frame body ++ rest ∧ body.length < frameLimit ∧
      protocol.parse body = .ok request ∧
      ∀ arms, (protocol.round arms ()).run w =
        (arms request).run (protocol.atRequest w rest request)) ∨
    (∃ error rest, protocol.Ends w rest error ∧
      ∀ arms, (protocol.round arms ()).run w =
        (finish (protocol.ended error)).run { w with recv.bytes := rest }) ∨
    (w.recv.Waiting ∧ ∀ arms, (protocol.round arms ()).run w = (.error .pending, w)) := by
  simp only [round, Act.run_bind]
  rcases Act.run_recv_cases (ε := ε) w with
    ⟨body, rest, bytes, fits, read⟩ | ⟨error, fin, read⟩ | ⟨waiting, read⟩
  · rw [read]
    cases parsed : protocol.parse body with
    | ok request =>
        refine .inl ⟨body, rest, request, bytes, fits, parsed, fun arms => ?_⟩
        simp only [Act.andThen_ok, parsed, Act.run_bind, emit, atRequest]
    | error error =>
        refine .inr (.inl ⟨error, rest, .inr ⟨body, bytes, parsed⟩, fun arms => ?_⟩)
        simp only [Act.andThen_ok, parsed]
  · rw [read]
    exact .inr (.inl ⟨error, [], .inl ⟨fin, rfl⟩, fun arms => rfl⟩)
  · rw [read]
    exact .inr (.inr ⟨waiting, fun arms => rfl⟩)

theorem round_decreasing (arms : R → Act S I E X ε (Turn Unit α)) :
    Act.Decreasing (fun _ (w : Endpoint S I E X) => w.recv.bytes.length) (protocol.round arms) := by
  intro _ w again w' ran
  rcases protocol.round_cases w with
    ⟨body, rest, request, bytes, -, -, read⟩ | ⟨error, rest, -, read⟩ | ⟨-, read⟩
  · have shorter := ((arms request).progress (protocol.atRequest w rest request)).bytes_le
    rw [← read arms, ran] at shorter
    dsimp only [atRequest] at shorter ⊢
    rw [bytes, List.length_append, length_frame]
    omega
  · rw [read] at ran
    cases finished : protocol.ended error with
    | ok value =>
        rw [finished] at ran
        cases ran
    | error error =>
        rw [finished] at ran
        cases ran
  · rw [read] at ran
    cases ran

def serve (arms : R → Act S I E X ε (Turn Unit α)) : Act S I E X ε α :=
  Act.loop (fun _ w => w.recv.bytes.length) (protocol.round arms)
    (protocol.round_decreasing arms) ()

/-- The loop after an arm: round again, or its outcome. -/
def resume (arms : R → Act S I E X ε (Turn Unit α)) :
    Except (Halt ε) (Turn Unit α) × Endpoint S I E X → Except (Halt ε) α × Endpoint S I E X
  | (.ok (.next ()), w) => (protocol.serve arms).run w
  | (.ok (.stop value), w) => (.ok value, w)
  | (.error halt, w) => (.error halt, w)

theorem run_serve (arms : R → Act S I E X ε (Turn Unit α)) (w : Endpoint S I E X) :
    (protocol.serve arms).run w = protocol.resume arms ((protocol.round arms ()).run w) := by
  unfold serve
  rw [Act.run_loop]
  rcases (protocol.round arms ()).run w with ⟨_ | _ | _, w'⟩
  · rfl
  · rfl
  · rfl

/-- A loop by its first round. -/
theorem serve_cases (w : Endpoint S I E X) :
    (∃ body rest request, w.recv.bytes = frame body ++ rest ∧ body.length < frameLimit ∧
      protocol.parse body = .ok request ∧
      ∀ arms, (protocol.serve arms).run w =
        protocol.resume arms ((arms request).run (protocol.atRequest w rest request))) ∨
    (∃ error rest, protocol.Ends w rest error ∧
      ∀ arms, (protocol.serve arms).run w = stopped w rest (protocol.ended error)) ∨
    (w.recv.Waiting ∧ ∀ arms, (protocol.serve arms).run w = (.error .pending, w)) := by
  rcases protocol.round_cases w with
    ⟨body, rest, request, bytes, fits, parsed, read⟩ | ⟨error, rest, ends, read⟩ | ⟨waiting, read⟩
  · refine .inl ⟨body, rest, request, bytes, fits, parsed, fun arms => ?_⟩
    rw [run_serve, read]
  · refine .inr (.inl ⟨error, rest, ends, fun arms => ?_⟩)
    rw [run_serve, read]
    cases protocol.ended error with
    | ok value => rfl
    | error error => rfl
  · refine .inr (.inr ⟨waiting, fun arms => ?_⟩)
    rw [run_serve, read]
    rfl

/-- A loop in front of a request. -/
theorem serve_request (arms : R → Act S I E X ε (Turn Unit α)) {w : Endpoint S I E X}
    {body rest : Bytes} {request : R} (bytes : w.recv.bytes = frame body ++ rest)
    (fits : body.length < frameLimit) (parsed : protocol.parse body = .ok request) :
    (protocol.serve arms).run w =
      protocol.resume arms ((arms request).run (protocol.atRequest w rest request)) := by
  rw [run_serve]
  simp only [round, Act.run_bind, Act.run_recv_frame bytes fits, Act.andThen_ok, parsed, emit,
    atRequest]

/-- A loop in front of a frame that is no request. -/
theorem serve_refused (arms : R → Act S I E X ε (Turn Unit α)) {w : Endpoint S I E X}
    {body rest : Bytes} {error : X} (bytes : w.recv.bytes = frame body ++ rest)
    (fits : body.length < frameLimit) (refused : protocol.parse body = .error error) :
    (protocol.serve arms).run w = stopped w rest (protocol.ended error) := by
  rw [run_serve]
  simp only [round, Act.run_bind, Act.run_recv_frame bytes fits, Act.andThen_ok, refused]
  cases protocol.ended error with
  | ok value => rfl
  | error error => rfl

/-- The loop is in front of this request, and its arm ends with this error. -/
def FailsOn (arms : R → Act S I E X ε (Turn Unit α)) (w : Endpoint S I E X) (request : R)
    (error : ε) (w' : Endpoint S I E X) : Prop :=
  ∃ body rest, w.recv.bytes = frame body ++ rest ∧ body.length < frameLimit ∧
    protocol.parse body = .ok request ∧
    (arms request).run (protocol.atRequest w rest request) = (.error (.failed error), w')

theorem FailsOn.run_eq {protocol : Protocol E X ε R α} {arms : R → Act S I E X ε (Turn Unit α)}
    {w w' : Endpoint S I E X} {request : R} {error : ε}
    (fails : protocol.FailsOn arms w request error w') :
    (protocol.serve arms).run w = (.error (.failed error), w') := by
  obtain ⟨body, rest, bytes, fits, parsed, ran⟩ := fails
  rw [protocol.serve_request arms bytes fits parsed, ran]
  rfl

/-- A loop at the end of its stream, whatever is left of a last frame. -/
theorem serve_end (arms : R → Act S I E X ε (Turn Unit α)) {w : Endpoint S I E X} {error : X}
    (incomplete : splitFrame w.recv.bytes = none) (fin : w.recv.fin = some error) :
    (protocol.serve arms).run w = stopped w [] (protocol.ended error) := by
  rw [run_serve]
  simp only [round, Act.run_bind, Act.run_recv_end incomplete fin, Act.andThen_ok]
  cases protocol.ended error with
  | ok value => rfl
  | error error => rfl

/-- A loop in front of less than a frame of an open stream. -/
theorem serve_waiting (arms : R → Act S I E X ε (Turn Unit α)) {w : Endpoint S I E X}
    (waiting : w.recv.Waiting) : (protocol.serve arms).run w = (.error .pending, w) := by
  rw [run_serve]
  simp only [round, Act.run_bind, Act.recv, RecvStream.recvRaw, waiting.incomplete,
    waiting.unfinished, Act.andThen_error, resume]

/-- Loop rule: what holds between requests, and what follows from it when the loop ends
in an arm, without one, or waiting. -/
theorem serve_rule {arms : R → Act S I E X ε (Turn Unit α)}
    (invariant : Endpoint S I E X → Prop) (result : Except (Halt ε) α × Endpoint S I E X → Prop)
    (next : ∀ w body rest request w', invariant w → w.recv.bytes = frame body ++ rest →
      protocol.parse body = .ok request →
      (arms request).run (protocol.atRequest w rest request) = (.ok (.next ()), w') → invariant w')
    (stop : ∀ w body rest request value w', invariant w → w.recv.bytes = frame body ++ rest →
      protocol.parse body = .ok request →
      (arms request).run (protocol.atRequest w rest request) = (.ok (.stop value), w') →
      result (.ok value, w'))
    (halted : ∀ w body rest request halt w', invariant w → w.recv.bytes = frame body ++ rest →
      protocol.parse body = .ok request →
      (arms request).run (protocol.atRequest w rest request) = (.error halt, w') →
      result (.error halt, w'))
    (ended : ∀ w error rest, invariant w → protocol.Ends w rest error →
      result (stopped w rest (protocol.ended error)))
    (waiting : ∀ w, invariant w → w.recv.Waiting → result (.error .pending, w))
    (w : Endpoint S I E X) (start : invariant w) : result ((protocol.serve arms).run w) := by
  induction bound : w.recv.bytes.length using Nat.strongRecOn generalizing w with
  | ind bound ih =>
      rcases protocol.serve_cases w with
        ⟨body, rest, request, bytes, -, parsed, read⟩ | ⟨error, rest, ends, read⟩ | ⟨idle, read⟩
      · have shorter := ((arms request).progress (protocol.atRequest w rest request)).bytes_le
        rw [read]
        rcases arm : (arms request).run (protocol.atRequest w rest request) with ⟨_ | _ | _, w'⟩
        · exact halted w body rest request _ w' start bytes parsed arm
        · rw [arm] at shorter
          refine ih w'.recv.bytes.length ?_ w'
            (next w body rest request w' start bytes parsed arm) rfl
          rw [← bound, bytes, List.length_append, length_frame]
          dsimp only [atRequest] at shorter
          omega
        · exact stop w body rest request _ w' start bytes parsed arm
      · rw [read]
        exact ended w error rest start ends
      · rw [read]
        exact waiting w start idle

/-- If no arm waits on a finished stream, neither does the loop. -/
theorem serve_settles {arms : R → Act S I E X ε (Turn Unit α)}
    (settles : ∀ request w, w.recv.fin ≠ none → ((arms request).run w).1 ≠ .error .pending)
    {w : Endpoint S I E X} (finished : w.recv.fin ≠ none) :
    ((protocol.serve arms).run w).1 ≠ .error .pending := by
  apply protocol.serve_rule (fun v => v.recv.fin ≠ none)
    (fun outcome => outcome.1 ≠ .error .pending)
  · intro v body rest request v' finished _ _ ran
    have progress := (arms request).progress (protocol.atRequest v rest request)
    rw [ran] at progress
    rw [progress.fin]
    exact finished
  · intro v body rest request value v' _ _ _ _ waits
    cases waits
  · intro v body rest request halt v' finished _ _ ran waits
    cases waits
    apply settles request (protocol.atRequest v rest request) finished
    rw [ran]
  · intro v error rest _ _
    unfold stopped
    cases protocol.ended error with
    | ok value => nofun
    | error error => nofun
  · intro v finished waiting
    exact absurd waiting.unfinished finished
  · exact finished

/-- Loops whose arms agree on the requests that are read agree altogether. -/
theorem serve_congr (arms arms' : R → Act S I E X ε (Turn Unit α)) (w : Endpoint S I E X)
    (agree : ∀ request, protocol.event request ∈ ((protocol.serve arms).run w).2.log →
      arms request = arms' request) :
    (protocol.serve arms).run w = (protocol.serve arms').run w := by
  induction bound : w.recv.bytes.length using Nat.strongRecOn generalizing w with
  | ind bound ih =>
      rcases protocol.serve_cases w with
        ⟨body, rest, request, bytes, -, -, read⟩ | ⟨error, rest, -, read⟩ | ⟨-, read⟩
      · rw [read] at agree ⊢
        rw [read arms']
        have progress := (arms request).progress (protocol.atRequest w rest request)
        have logged (w' : Endpoint S I E X)
            (later : ((arms request).run (protocol.atRequest w rest request)).2.log <+: w'.log) :
            protocol.event request ∈ w'.log :=
          (progress.log.trans later).mem (List.mem_append_right _ List.mem_cons_self)
        have shorter := progress.bytes_le
        have known : protocol.event request ∈
            (protocol.resume arms
              ((arms request).run (protocol.atRequest w rest request))).2.log := by
          apply logged
          rcases (arms request).run (protocol.atRequest w rest request) with ⟨_ | _ | _, w'⟩
          · exact List.prefix_rfl
          · exact ((protocol.serve arms).progress w').log
          · exact List.prefix_rfl
        rw [← agree request known]
        rcases arm : (arms request).run (protocol.atRequest w rest request) with ⟨_ | _ | _, w'⟩
        · rfl
        · rw [arm] at agree shorter
          refine ih w'.recv.bytes.length ?_ w' agree rfl
          rw [← bound, bytes, List.length_append, length_frame]
          dsimp only [atRequest] at shorter
          omega
        · rfl
      · rw [read, read]
      · rw [read, read]

/-- A loop logs its requests and what its arms log. -/
theorem serve_logs {allowed : E → Prop} {arms : R → Act S I E X ε (Turn Unit α)}
    (requests : ∀ request, allowed (protocol.event request))
    (served : ∀ request, Act.Within (Act.Logs allowed) (arms request)) :
    Act.Within (Act.Logs allowed) (protocol.serve arms) := by
  have finishes (result : Except ε α) :
      Act.Within (Act.Logs allowed) (finish result : Act S I E X ε (Turn Unit α)) := by
    cases result with
    | ok value => exact Act.Logs.refl
    | error error => exact Act.Logs.refl
  refine Act.Within.loop Act.Logs.refl Act.Logs.trans (fun _ => ?_) ()
  refine Act.logs_bind Act.logs_recv fun read => ?_
  cases read with
  | error error => exact finishes _
  | ok body =>
      dsimp only
      cases protocol.parse body with
      | error error => exact finishes _
      | ok request => exact Act.logs_bind (Act.logs_emit (requests request)) fun _ => served request

/-- A request and what its arm logged. -/
structure Exchange (R E : Type) where
  request : R
  logged : List E

def Exchange.events (exchange : Exchange R E) : List E :=
  protocol.event exchange.request :: exchange.logged

/-- What an arm makes of the loop, unless the loop goes round again. -/
def settled : Except (Halt ε) (Turn Unit α) → Option (Except (Halt ε) α)
  | .ok (.next ()) => none
  | .ok (.stop value) => some (.ok value)
  | .error halt => some (.error halt)

/-- The loop has served these requests and goes round again. -/
inductive Reaches (arms : R → Act S I E X ε (Turn Unit α)) :
    Endpoint S I E X → List (Exchange R E) → Endpoint S I E X → Prop where
  | here {w} : Reaches arms w [] w
  | step {w body rest request logged w' later v}
      (bytes : w.recv.bytes = frame body ++ rest) (fits : body.length < frameLimit)
      (parsed : protocol.parse body = .ok request)
      (ran : (arms request).run (protocol.atRequest w rest request) = (.ok (.next ()), w'))
      (log : w'.log = w.log ++ protocol.event request :: logged)
      (rounds : Reaches arms w' later v) : Reaches arms w (⟨request, logged⟩ :: later) v

/-- The course of a loop, request by request. -/
inductive Course (arms : R → Act S I E X ε (Turn Unit α)) :
    Endpoint S I E X → List (Exchange R E) → Except (Halt ε) α × Endpoint S I E X → Prop where
  | waiting {w} (idle : w.recv.Waiting) : Course arms w [] (.error .pending, w)
  | ended {w error rest} (ends : protocol.Ends w rest error) :
      Course arms w [] (stopped w rest (protocol.ended error))
  | next {w body rest request logged w' later result}
      (bytes : w.recv.bytes = frame body ++ rest) (fits : body.length < frameLimit)
      (parsed : protocol.parse body = .ok request)
      (ran : (arms request).run (protocol.atRequest w rest request) = (.ok (.next ()), w'))
      (log : w'.log = w.log ++ protocol.event request :: logged)
      (rounds : Course arms w' later result) : Course arms w (⟨request, logged⟩ :: later) result
  | last {w body rest request logged outcome w' result}
      (bytes : w.recv.bytes = frame body ++ rest) (fits : body.length < frameLimit)
      (parsed : protocol.parse body = .ok request)
      (ran : (arms request).run (protocol.atRequest w rest request) = (outcome, w'))
      (log : w'.log = w.log ++ protocol.event request :: logged)
      (settles : settled outcome = some result) : Course arms w [⟨request, logged⟩] (result, w')

theorem serve_course (arms : R → Act S I E X ε (Turn Unit α)) (w : Endpoint S I E X) :
    ∃ exchanges, protocol.Course arms w exchanges ((protocol.serve arms).run w) := by
  induction bound : w.recv.bytes.length using Nat.strongRecOn generalizing w with
  | ind bound ih =>
      rcases protocol.serve_cases w with
        ⟨body, rest, request, bytes, fits, parsed, read⟩ | ⟨error, rest, ends, read⟩ | ⟨idle, read⟩
      · have progress := (arms request).progress (protocol.atRequest w rest request)
        rw [read]
        rcases arm : (arms request).run (protocol.atRequest w rest request) with ⟨outcome, w'⟩
        rw [arm] at progress
        obtain ⟨logged, log⟩ := progress.log
        have whole : w'.log = w.log ++ protocol.event request :: logged := by
          rw [← log, atRequest, List.append_assoc, List.singleton_append]
        rcases outcome with halt | again | value
        · exact ⟨_, .last bytes fits parsed arm whole rfl⟩
        · have shorter : w'.recv.bytes.length < w.recv.bytes.length := by
            have shrunk := progress.bytes_le
            rw [bytes, List.length_append, length_frame]
            dsimp only [atRequest] at shrunk
            omega
          rw [bound] at shorter
          obtain ⟨later, rounds⟩ := ih w'.recv.bytes.length shorter w' rfl
          exact ⟨_, .next bytes fits parsed arm whole rounds⟩
        · exact ⟨_, .last bytes fits parsed arm whole rfl⟩
      · rw [read]
        exact ⟨[], .ended ends⟩
      · rw [read]
        exact ⟨[], .waiting idle⟩

section course

variable {protocol} {arms : R → Act S I E X ε (Turn Unit α)} {w : Endpoint S I E X}
  {exchanges before after : List (Exchange R E)} {exchange : Exchange R E}
  {result : Except (Halt ε) α × Endpoint S I E X}

/-- The log of a loop is the log of its exchanges. -/
theorem Course.log_eq (course : protocol.Course arms w exchanges result) :
    result.2.log = w.log ++ exchanges.flatMap (Exchange.events protocol) := by
  induction course with
  | waiting idle => exact (List.append_nil _).symm
  | ended ends => exact (List.append_nil _).symm
  | next bytes fits parsed ran log rounds ih =>
      rw [ih, log, List.flatMap_cons, Exchange.events, List.append_assoc]
  | last bytes fits parsed ran log settles =>
      rw [log, List.flatMap_cons, Exchange.events, List.flatMap_nil, List.append_nil]

theorem atRequest_progress {body rest : Bytes} (bytes : w.recv.bytes = frame body ++ rest)
    (request : R) : Endpoint.Progress w (protocol.atRequest w rest request) :=
  ⟨⟨frame body, bytes.symm⟩, rfl, rfl, List.prefix_append _ _⟩

theorem Reaches.progress {v : Endpoint S I E X} (reaches : protocol.Reaches arms w exchanges v) :
    Endpoint.Progress w v := by
  induction reaches with
  | here => exact Endpoint.Progress.refl _
  | @step w body rest request logged w' later v bytes fits parsed ran log rounds ih =>
      have served := (arms request).progress (protocol.atRequest w rest request)
      rw [ran] at served
      exact ((atRequest_progress bytes request).trans served).trans ih

/-- Requests already served do not matter to what becomes of the loop. -/
theorem Reaches.run_eq {v : Endpoint S I E X} (reaches : protocol.Reaches arms w exchanges v) :
    (protocol.serve arms).run w = (protocol.serve arms).run v := by
  induction reaches with
  | here => rfl
  | step bytes fits parsed ran log rounds ih =>
      rw [protocol.serve_request arms bytes fits parsed, ran, ← ih]
      rfl

/-- Requests served on an open stream are served the same whatever follows them. -/
theorem Reaches.followed {v : Endpoint S I E X} (steady : ∀ request, (arms request).Steady)
    (reaches : protocol.Reaches arms w exchanges v) (unfinished : w.recv.fin = none)
    (more : Bytes) (fin : Option X) :
    protocol.Reaches arms (w.followed more fin) exchanges (v.followed more fin) := by
  induction reaches with
  | here => exact .here
  | @step w body rest request logged w' later v bytes fits parsed ran log rounds ih =>
      have progress := (arms request).progress (protocol.atRequest w rest request)
      rw [ran] at progress
      have longer : (w.followed more fin).recv.bytes = frame body ++ (rest ++ more) := by
        rw [← List.append_assoc, ← bytes]
        rfl
      exact .step longer fits parsed
        (steady request (protocol.atRequest w rest request) _ w' unfinished ran more fin) log
        (ih (progress.fin.trans unfinished))

section related

variable {related : Endpoint S I E X → Endpoint S I E X → Prop} (refl : ∀ w, related w w)
  (trans : ∀ u v w, related u v → related v w → related u w)
  (reads : ∀ w rest request, related w (protocol.atRequest w rest request))
  (served : ∀ request, Act.Within related (arms request))

include refl trans reads served

/-- What every read and every arm keeps holds between any two requests. -/
theorem Reaches.within {v : Endpoint S I E X} (reaches : protocol.Reaches arms w exchanges v) :
    related w v := by
  induction reaches with
  | here => exact refl _
  | @step w body rest request logged w' later v bytes fits parsed ran log rounds ih =>
      have arm := served request (protocol.atRequest w rest request)
      rw [ran] at arm
      exact trans _ _ _ (reads w rest request) (trans _ _ _ arm ih)

/-- What every read and every arm keeps holds from the start to the end. -/
theorem Course.within (skips : ∀ w rest, related w { w with recv.bytes := rest })
    (course : protocol.Course arms w exchanges result) : related w result.2 := by
  induction course with
  | waiting idle => exact refl _
  | @ended w error rest ends => exact skips w rest
  | @next w body rest request logged w' later result bytes fits parsed ran log rounds ih =>
      have arm := served request (protocol.atRequest w rest request)
      rw [ran] at arm
      exact trans _ _ _ (reads w rest request) (trans _ _ _ arm ih)
  | @last w body rest request logged outcome w' result bytes fits parsed ran log settles =>
      have arm := served request (protocol.atRequest w rest request)
      rw [ran] at arm
      exact trans _ _ _ (reads w rest request) arm

end related

/-- One exchange of a course: the loop goes on from it, or ends with it. -/
theorem Course.at_exchange (course : protocol.Course arms w (before ++ exchange :: after) result) :
    ∃ v body rest outcome v', protocol.Reaches arms w before v ∧
      v.recv.bytes = frame body ++ rest ∧ body.length < frameLimit ∧
      protocol.parse body = .ok exchange.request ∧
      (arms exchange.request).run (protocol.atRequest v rest exchange.request) = (outcome, v') ∧
      v'.log = v.log ++ protocol.event exchange.request :: exchange.logged ∧
      (outcome = .ok (.next ()) ∧ protocol.Course arms v' after result ∨
        after = [] ∧ ∃ value, settled outcome = some value ∧ result = (value, v')) := by
  induction before generalizing w with
  | nil =>
      cases course with
      | next bytes fits parsed ran log rounds =>
          exact ⟨_, _, _, _, _, .here, bytes, fits, parsed, ran, log, .inl ⟨rfl, rounds⟩⟩
      | last bytes fits parsed ran log settles =>
          exact ⟨_, _, _, _, _, .here, bytes, fits, parsed, ran, log, .inr ⟨rfl, _, settles, rfl⟩⟩
  | cons first before ih =>
      generalize split : first :: before ++ exchange :: after = exchanges at course
      cases course with
      | waiting idle => cases split
      | ended ends => cases split
      | next bytes fits parsed ran log rounds =>
          cases split
          obtain ⟨v, body, rest, outcome, v', reaches, found⟩ := ih rounds
          exact ⟨v, body, rest, outcome, v', .step bytes fits parsed ran log reaches, found⟩
      | last bytes fits parsed ran log settles =>
          obtain ⟨-, none⟩ := List.cons.inj split
          exact absurd none (List.append_ne_nil_of_right_ne_nil before (List.cons_ne_nil _ _))

/-- An entry of a log, by the exchange it belongs to and its place there. -/
def InExchange (protocol : Protocol E X ε R α) (exchanges : List (Exchange R E)) (event : E)
    (front back : List E) : Prop :=
  ∃ earlier exchange later start stop, exchanges = earlier ++ exchange :: later ∧
    exchange.events protocol = start ++ event :: stop ∧
    front = earlier.flatMap (Exchange.events protocol) ++ start ∧
    back = stop ++ later.flatMap (Exchange.events protocol)

theorem InExchange.cons {event : E} {front back : List E}
    (found : InExchange protocol exchanges event front back) :
    InExchange protocol (exchange :: exchanges) event (exchange.events protocol ++ front) back := by
  obtain ⟨earlier, here, later, start, stop, whole, inside, opening, closing⟩ := found
  refine ⟨exchange :: earlier, here, later, start, stop, ?_, inside, ?_, closing⟩
  · rw [whole, List.cons_append]
  · rw [opening, List.flatMap_cons, List.append_assoc]

/-- Every entry of a log belongs to one exchange. -/
theorem inExchange {event : E} {front back : List E}
    (split : exchanges.flatMap (Exchange.events protocol) = front ++ event :: back) :
    InExchange protocol exchanges event front back := by
  induction exchanges generalizing front with
  | nil => exact absurd split.symm (List.append_ne_nil_of_right_ne_nil front (List.cons_ne_nil _ _))
  | cons first exchanges ih =>
      rw [List.flatMap_cons] at split
      rcases List.append_eq_append_iff.mp split with ⟨more, opening, rest⟩ | ⟨more, inside, rest⟩
      · rw [opening]
        exact (ih rest).cons
      · cases more with
        | nil =>
            rw [List.append_nil] at inside
            rw [← inside, ← List.append_nil (first.events protocol)]
            exact (@ih [] rest.symm).cons
        | cons head more =>
            obtain ⟨rfl, closing⟩ := List.cons.inj rest
            exact ⟨[], first, exchanges, front, more, rfl, inside, rfl, closing⟩

end course

end Protocol

end Framing
