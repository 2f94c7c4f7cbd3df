import ReviewProtocol.Server.Calls

set_option autoImplicit false

/- The install exchange on the manager's side: what it reads of the source, what it sends
of it, and what it may have seen when it returns. -/
namespace ReviewProtocol.Server

open Framing (Bytes Act Halt frame)
open Framing.Act (emit Turn)

variable {τ : Type}

/-- The bytes a source holds. -/
def sourceBytes (source : Source) : Bytes :=
  source.flatMap fun
    | .ok bytes => bytes
    | .error _ => []

/-- The payload frames written, in order. -/
def sentChunks (log : List ManagerEvent) : List Bytes :=
  log.filterMap fun
    | .chunk bytes => some bytes
    | _ => none

@[simp] theorem sentChunks_append (first second : List ManagerEvent) :
    sentChunks (first ++ second) = sentChunks first ++ sentChunks second := List.filterMap_append

/-- A read of the source, or a frame of what was read. -/
def ManagerEvent.IsTransfer : ManagerEvent → Prop
  | .read _ => True
  | .chunk _ => True
  | _ => False

/-- From `w` to `w'` the manager did nothing but stream the package. -/
structure Streams (w : Manager τ) (added : List ManagerEvent) (w' : Manager τ) : Prop where
  log : w'.log = w.log ++ added
  recv : w'.recv = w.recv
  state : w'.state = w.state
  outcome : w'.send.outcome = w.send.outcome
  transfer : ∀ event ∈ added, event.IsTransfer

/-- What was read of the source was sent, in chunks of the allowed size. -/
structure Forwards (w : Manager τ) (added : List ManagerEvent) (w' : Manager τ) : Prop
    extends Streams w added w' where
  source : sourceBytes w.input = (sentChunks added).flatten ++ sourceBytes w'.input
  sizes : ∀ chunk ∈ sentChunks added, chunk ≠ [] ∧ chunk.length ≤ packageChunkLen

theorem Streams.append {u v w : Manager τ} {first second : List ManagerEvent}
    (early : Streams u first v) (late : Streams v second w) : Streams u (first ++ second) w := by
  refine ⟨?_, late.recv.trans early.recv, late.state.trans early.state,
    late.outcome.trans early.outcome, ?_⟩
  · rw [late.log, early.log, List.append_assoc]
  · intro event mem
    rcases List.mem_append.mp mem with mem | mem
    · exact early.transfer event mem
    · exact late.transfer event mem

theorem Forwards.refl (w : Manager τ) : Forwards w [] w :=
  ⟨⟨(List.append_nil _).symm, rfl, rfl, rfl, fun _ mem => by cases mem⟩, rfl,
    fun _ mem => by cases mem⟩

theorem Forwards.append {u v w : Manager τ} {first second : List ManagerEvent}
    (early : Forwards u first v) (late : Forwards v second w) : Forwards u (first ++ second) w := by
  refine ⟨early.toStreams.append late.toStreams, ?_, ?_⟩
  · rw [sentChunks_append, List.flatten_append, List.append_assoc, ← late.source, early.source]
  · intro chunk mem
    rw [sentChunks_append] at mem
    rcases List.mem_append.mp mem with mem | mem
    · exact early.sizes chunk mem
    · exact late.sizes chunk mem

theorem sourceBytes_putBack (data more : Bytes) (rest : Source) :
    sourceBytes (.ok (data ++ more) :: rest) = data ++ sourceBytes (putBack more ++ rest) := by
  unfold putBack
  by_cases empty : more = []
  · rw [if_pos empty, empty, List.append_nil]
    rfl
  · rw [if_neg empty]
    exact List.append_assoc data more _

/-- A round forwards what it reads, or gives up. -/
theorem sendPackageRound_forwards (size remaining : Nat) (w : Manager τ) :
    (remaining = 0 ∧ (sendPackageRound size remaining).run w = (.ok (.stop (.ok ())), w)) ∨
    (∃ added w' data, (sendPackageRound size remaining).run w =
        (.ok (.next (remaining - data)), w') ∧ data ≤ remaining ∧ Forwards w added w' ∧
      (sentChunks added).flatten.length = data) ∨
    (∃ added w' error, (sendPackageRound size remaining).run w =
      (.ok (.stop (.error error)), w') ∧ Streams w added w') ∨
    (sendPackageRound size remaining).run w = (.error .pending, w) := by
  rcases sendPackageRound_cases size remaining w with
    ⟨zero, done⟩ | ⟨-, -, waits⟩ | ⟨-, error, result, rest, -, quits⟩ |
    ⟨-, data, more, rest, input, some, fits, short, ⟨-, sent⟩ | ⟨error, -, lost⟩⟩
  · exact .inl ⟨zero, done⟩
  · exact .inr (.inr (.inr waits))
  · refine .inr (.inr (.inl ⟨[.read result], _, error, quits, rfl, rfl, rfl, rfl, ?_⟩))
    intro event mem
    rw [List.mem_singleton.mp mem]
    trivial
  · refine .inr (.inl ⟨[.read (.ok data), .chunk data], _, data.length, sent, fits, ?_, ?_⟩)
    · refine ⟨⟨rfl, rfl, rfl, rfl, ?_⟩, ?_, ?_⟩
      · intro event mem
        rcases List.mem_cons.mp mem with rfl | mem
        · trivial
        · rw [List.mem_singleton.mp mem]
          trivial
      · rw [input, sourceBytes_putBack]
        simp [sentChunks]
      · intro chunk mem
        have same : chunk = data := by simpa [sentChunks] using mem
        rw [same]
        exact ⟨some, short⟩
    · simp [sentChunks]
  · refine .inr (.inr (.inl ⟨[.read (.ok data)], _, _, lost, rfl, rfl, rfl, rfl, ?_⟩))
    intro event mem
    rw [List.mem_singleton.mp mem]
    trivial

/-- Streaming ends with the whole package sent, or with part of it. -/
theorem sendPackage_forwards (size : Nat) (w : Manager τ) :
    (∃ added w', (sendPackage size).run w = (.ok (.ok ()), w') ∧ Forwards w added w' ∧
      (sentChunks added).flatten.length = size) ∨
    (∃ added w' error, (sendPackage size).run w = (.ok (.error error), w') ∧
      Streams w added w') ∨
    ∃ added w', (sendPackage size).run w = (.error .pending, w') ∧ Streams w added w' := by
  refine Act.loop_rule (sendPackageRound_decreasing size)
    (fun remaining v => ∃ added, Forwards w added v ∧
      (sentChunks added).flatten.length + remaining = size)
    (fun outcome =>
      (∃ added w', outcome = (.ok (.ok ()), w') ∧ Forwards w added w' ∧
        (sentChunks added).flatten.length = size) ∨
      (∃ added w' error, outcome = (.ok (.error error), w') ∧ Streams w added w') ∨
      ∃ added w', outcome = (.error .pending, w') ∧ Streams w added w')
    ?_ ?_ ?_ size w ⟨[], Forwards.refl w, Nat.zero_add size⟩
  · rintro remaining v again v' ⟨added, forwards, total⟩ ran
    rcases sendPackageRound_forwards size remaining v with
      ⟨-, done⟩ | ⟨more, v₁, data, next, fits, forwards', length⟩ | ⟨_, _, _, quits, -⟩ | waits
    · rw [done] at ran
      cases ran
    · rw [next] at ran
      cases ran
      refine ⟨added ++ more, forwards.append forwards', ?_⟩
      rw [sentChunks_append, List.flatten_append, List.length_append, length]
      omega
    · rw [quits] at ran
      cases ran
    · rw [waits] at ran
      cases ran
  · rintro remaining v value v' ⟨added, forwards, total⟩ ran
    rcases sendPackageRound_forwards size remaining v with
      ⟨zero, done⟩ | ⟨_, _, _, next, -⟩ | ⟨more, v₁, error, quits, streams⟩ | waits
    · rw [done] at ran
      cases ran
      exact .inl ⟨added, v, rfl, forwards, by omega⟩
    · rw [next] at ran
      cases ran
    · rw [quits] at ran
      cases ran
      exact .inr (.inl ⟨_, _, error, rfl, forwards.toStreams.append streams⟩)
    · rw [waits] at ran
      cases ran
  · rintro remaining v halt v' ⟨added, forwards, total⟩ ran
    rcases sendPackageRound_forwards size remaining v with
      ⟨-, done⟩ | ⟨_, _, _, next, -⟩ | ⟨_, _, _, quits, -⟩ | waits
    · rw [done] at ran
      cases ran
    · rw [next] at ran
      cases ran
    · rw [quits] at ran
      cases ran
    · rw [waits] at ran
      cases ran
      exact .inr (.inr ⟨added, v, rfl, forwards.toStreams⟩)

/-- Streaming does not wait for a source that holds the whole package. -/
theorem sendPackage_not_pending (size : Nat) (w : Manager τ)
    (enough : size ≤ (sourceBytes w.input).length) :
    ((sendPackage size).run w).1 ≠ .error .pending := by
  refine Act.loop_rule (sendPackageRound_decreasing size)
    (fun remaining v => remaining ≤ (sourceBytes v.input).length)
    (fun outcome => outcome.1 ≠ .error .pending) ?_ ?_ ?_ size w enough
  · intro remaining v again v' held ran
    rcases sendPackageRound_forwards size remaining v with
      ⟨-, done⟩ | ⟨added, v₁, data, next, fits, forwards, length⟩ | ⟨_, _, _, quits, -⟩ | waits
    · rw [done] at ran
      cases ran
    · rw [next] at ran
      cases ran
      rw [forwards.source, List.length_append] at held
      omega
    · rw [quits] at ran
      cases ran
    · rw [waits] at ran
      cases ran
  · intro remaining v value v' held ran
    exact nofun
  · intro remaining v halt v' held ran
    rcases sendPackageRound_cases size remaining v with
      ⟨-, done⟩ | ⟨positive, empty, -⟩ | ⟨-, _, _, _, -, quits⟩ |
      ⟨-, data, more, rest, -, -, -, -, ⟨-, sent⟩ | ⟨error, -, lost⟩⟩
    · rw [done] at ran
      cases ran
    · rw [empty] at held
      have none : (sourceBytes []).length = 0 := rfl
      omega
    · rw [quits] at ran
      cases ran
    · rw [sent] at ran
      cases ran
    · rw [lost] at ran
      cases ran

/-- The next frame on the stream is this response. -/
structure NextResponse (wire : Wire) (ty : WireTy) (result : Except String ty.denote)
    (bytes body rest : Bytes) : Prop where
  bytes : bytes = frame body ++ rest
  fits : body.length < Framing.frameLimit
  decoded : wire.decode (.result ty) body = .ok result

/-- There is no whole frame on the stream, or the next one is no response. -/
def NoResponse (wire : Wire) (ty : WireTy) (bytes : Bytes) : Prop :=
  Framing.splitFrame bytes = none ∨
  ∃ body rest error, bytes = frame body ++ rest ∧ body.length < Framing.frameLimit ∧
    wire.decode (.result ty) body = .error error

/-- What a call makes of a response. -/
def returned {α : Type} : Except String α → Except (Halt ApiError) α
  | .ok value => .ok value
  | .error text => .error (.failed (.message text))

/-- A response that has not come, one that has, or a failed call. -/
theorem run_recvResult (wire : Wire) (ty : WireTy) (context : Option String) (w : Manager τ) :
    (w.recv.Waiting ∧ (recvResult wire ty context).run w = (.error .pending, w)) ∨
    (∃ result body rest, NextResponse wire ty result w.recv.bytes body rest ∧
      (recvResult wire ty context).run w = (returned result,
        { w with recv.bytes := rest, log := w.log ++ [.received ty result] })) ∨
    ∃ error recv, NoResponse wire ty w.recv.bytes ∧
      (recvResult wire ty context).run w = (.error (.failed error), { w with recv }) := by
  simp only [recvResult, Act.run_bind]
  cases split : Framing.splitFrame w.recv.bytes with
  | none =>
      rcases Act.run_recv_cases (ε := ApiError) w with
        ⟨body, rest, bytes, fits, -⟩ | ⟨error, -, read⟩ | ⟨waiting, read⟩
      · rw [bytes, Framing.splitFrame_frame _ _ fits] at split
        cases split
      · rw [read, Act.andThen_ok]
        exact .inr (.inr ⟨.io context error, ⟨[], w.recv.fin⟩, .inl split, rfl⟩)
      · rw [read]
        exact .inl ⟨waiting, rfl⟩
  | some parts =>
      obtain ⟨body, rest⟩ := parts
      obtain ⟨bytes, fits⟩ := Framing.splitFrame_some split
      rw [Act.run_recv_frame bytes fits, Act.andThen_ok]
      dsimp only
      cases decoded : wire.decode (.result ty) body with
      | error error =>
          exact .inr (.inr ⟨.io context error, ⟨rest, w.recv.fin⟩,
            .inr ⟨body, rest, error, bytes, fits, decoded⟩, rfl⟩)
      | ok result =>
          refine .inr (.inl ⟨result, body, rest, ⟨bytes, fits, decoded⟩, ?_⟩)
          cases result with
          | ok value => rfl
          | error text => rfl

/-- The manager once a request is out. -/
def requesting (code : Client.RequestCode) (payload : Bytes) (w : Manager τ) : Manager τ :=
  { w with
    send.attempts := w.send.attempts + 1
    log := w.log ++ [.opened, .requested code.discriminant payload] }

/-- The stream opens and takes this frame. -/
def Dialed (body : Bytes) (w : Manager τ) : Prop :=
  w.state.refused = none ∧ w.send.outcome w.send.attempts body = none

/-- A stream that could not be opened, a request that was not sent, or one that was. -/
theorem run_openBi_sendRaw (wire : Wire) (code : Client.RequestCode) (ty : WireTy)
    (payload : ty.denote) (w : Manager τ) {α : Type} (next : ManagerAct τ α) :
    ((Wire.requestFrame code.discriminant (wire.encode ty payload)).length < Framing.frameLimit ∧
      (do openBi; sendRaw wire code ty payload; next).run w =
        next.run (requesting code (wire.encode ty payload) w)) ∨
    ∃ error events send,
      ¬ Dialed (Wire.requestFrame code.discriminant (wire.encode ty payload)) w ∧
      (do openBi; sendRaw wire code ty payload; next : ManagerAct τ α).run w =
        (.error (.failed error), { w with send, log := w.log ++ events }) ∧
      ∀ event ∈ events, event = .opened := by
  simp only [Act.run_bind, openBi, Act.update, Act.andThen_ok]
  cases refused : w.state.refused with
  | some error =>
      refine .inr ⟨.io none error, [], w.send, ?_, ?_, fun _ mem => by cases mem⟩
      · rintro ⟨opens, -⟩
        rw [refused] at opens
        cases opens
      · rw [List.append_nil]
        rfl
  | none =>
      simp only [emit, Act.andThen_ok, sendRaw, Act.run_bind]
      rcases Act.run_send_cases (ε := ApiError)
        (Wire.requestFrame code.discriminant (wire.encode ty payload))
        (ManagerEvent.requested code.discriminant (wire.encode ty payload))
        { w with log := w.log ++ [.opened] } with ⟨out, sent⟩ | ⟨error, lost, sent⟩
      · left
        refine ⟨w.send.fits _ _ out, ?_⟩
        rw [sent]
        simp only [Act.andThen_ok, Act.orFail, requesting, List.append_assoc, List.cons_append,
          List.nil_append]
        rfl
      · right
        rw [sent]
        refine ⟨.io none error, [.opened], _, ?_, rfl, ?_⟩
        · rintro ⟨-, taken⟩
          rw [lost] at taken
          cases taken
        · intro event mem
          exact List.mem_singleton.mp mem

/-- What a verdict other than `Proceed` is returned as. -/
def terminalPreflight : InstallPreflight → Option TerminalPreflight
  | .proceed => none
  | .alreadyApplied => some .alreadyApplied
  | .insufficientDiskSpace filesystem required available =>
      some (.insufficientDiskSpace filesystem required available)
  | .bindAddrsOnUpdate => some .bindAddrsOnUpdate
  | .namespaceUnconfigured => some .namespaceUnconfigured
  | .enrollmentUnsupported => some .enrollmentUnsupported
  | .configTemplateOnUpdate => some .configTemplateOnUpdate
  | .unknownConfigTemplate id => some (.unknownConfigTemplate id)

/-- The frame of an install request. -/
def installFrame (wire : Wire) (req : NodePackageRequest) : Bytes :=
  Wire.requestFrame Client.RequestCode.nodePackage.discriminant
    (wire.encode .nodePackageRequest req)

/-- The manager once it has read the verdict on an install. -/
def judged (wire : Wire) (req : NodePackageRequest) (verdict : Except String InstallPreflight)
    (rest : Bytes) (w : Manager τ) : Manager τ :=
  { requesting .nodePackage (wire.encode .nodePackageRequest req) w with
    recv.bytes := rest
    log := w.log ++ [.opened, .requested Client.RequestCode.nodePackage.discriminant
      (wire.encode .nodePackageRequest req), .received .installPreflight verdict] }

/-- A stream opened, or a request written on it. -/
def ManagerEvent.IsDial : ManagerEvent → Prop
  | .opened => True
  | .requested _ _ => True
  | _ => False

/-- Everything an install can come to for the manager. -/
inductive Transacts (wire : Wire) (req : NodePackageRequest) (size : Nat) (w : Manager τ) :
    Except (Halt ApiError) InstallOutcome → Manager τ → Prop where
  | failed (error : ApiError) (events : List ManagerEvent) (w' : Manager τ)
      (log : w'.log = w.log ++ events) (dials : ∀ event ∈ events, event.IsDial) :
      Transacts wire req size w (.error (.failed error)) w'
  | awaitsVerdict (fits : (installFrame wire req).length < Framing.frameLimit)
      (waiting : w.recv.Waiting) :
      Transacts wire req size w (.error .pending)
        (requesting .nodePackage (wire.encode .nodePackageRequest req) w)
  | denied (text : String) (body rest : Bytes)
      (fits : (installFrame wire req).length < Framing.frameLimit)
      (answer : NextResponse wire .installPreflight (.error text) w.recv.bytes body rest) :
      Transacts wire req size w (.error (.failed (.message text)))
        (judged wire req (.error text) rest w)
  | refused (verdict : InstallPreflight) (image : TerminalPreflight) (body rest : Bytes)
      (fits : (installFrame wire req).length < Framing.frameLimit)
      (answer : NextResponse wire .installPreflight (.ok verdict) w.recv.bytes body rest)
      (same : terminalPreflight verdict = some image) :
      Transacts wire req size w (.ok (.preflight image)) (judged wire req (.ok verdict) rest w)
  | streaming (body rest : Bytes) (added : List ManagerEvent) (w' : Manager τ)
      (fits : (installFrame wire req).length < Framing.frameLimit)
      (answer : NextResponse wire .installPreflight (.ok .proceed) w.recv.bytes body rest)
      (stuck : (sendPackage size).run (judged wire req (.ok .proceed) rest w) =
        (.error .pending, w'))
      (streams : Streams (judged wire req (.ok .proceed) rest w) added w') :
      Transacts wire req size w (.error .pending) w'
  | aborted (error : ApiError) (body rest : Bytes) (added : List ManagerEvent) (w' : Manager τ)
      (answer : NextResponse wire .installPreflight (.ok .proceed) w.recv.bytes body rest)
      (streams : Streams (judged wire req (.ok .proceed) rest w) added w') :
      Transacts wire req size w (.error (.failed error)) { w' with log := w'.log ++ [.reset] }
  | awaitsTerminal (body rest : Bytes) (added : List ManagerEvent) (w' : Manager τ)
      (fits : (installFrame wire req).length < Framing.frameLimit)
      (answer : NextResponse wire .installPreflight (.ok .proceed) w.recv.bytes body rest)
      (forwards : Forwards (judged wire req (.ok .proceed) rest w) added w')
      (total : (sentChunks added).flatten.length = size) (waiting : w'.recv.Waiting) :
      Transacts wire req size w (.error .pending) w'
  | unanswered (error : ApiError) (body rest : Bytes) (added : List ManagerEvent)
      (w' : Manager τ) (recv : Framing.RecvStream IoError)
      (answer : NextResponse wire .installPreflight (.ok .proceed) w.recv.bytes body rest)
      (forwards : Forwards (judged wire req (.ok .proceed) rest w) added w') :
      Transacts wire req size w (.error (.failed error)) { w' with recv }
  | unapplied (text : String) (body rest : Bytes) (added : List ManagerEvent) (w' : Manager τ)
      (body' rest' : Bytes) (fits : (installFrame wire req).length < Framing.frameLimit)
      (answer : NextResponse wire .installPreflight (.ok .proceed) w.recv.bytes body rest)
      (forwards : Forwards (judged wire req (.ok .proceed) rest w) added w')
      (total : (sentChunks added).flatten.length = size)
      (terminal : NextResponse wire .nodePackageResponse (.error text) rest body' rest') :
      Transacts wire req size w (.error (.failed (.message text)))
        { w' with
          recv.bytes := rest'
          log := w'.log ++ [.received .nodePackageResponse (.error text)] }
  | applied (resp : NodePackageResponse) (body rest : Bytes) (added : List ManagerEvent)
      (w' : Manager τ) (body' rest' : Bytes)
      (fits : (installFrame wire req).length < Framing.frameLimit)
      (answer : NextResponse wire .installPreflight (.ok .proceed) w.recv.bytes body rest)
      (forwards : Forwards (judged wire req (.ok .proceed) rest w) added w')
      (total : (sentChunks added).flatten.length = size)
      (terminal : NextResponse wire .nodePackageResponse (.ok resp) rest body' rest') :
      Transacts wire req size w (.ok (.applied resp))
        { w' with
          recv.bytes := rest'
          log := w'.log ++ [.received .nodePackageResponse (.ok resp)] }

theorem streamPackage_transacts (wire : Wire) (req : NodePackageRequest) (size : UInt64)
    (w : Manager τ) {body rest : Bytes}
    (fits : (installFrame wire req).length < Framing.frameLimit)
    (answer : NextResponse wire .installPreflight (.ok .proceed) w.recv.bytes body rest) :
    Transacts wire req size.toNat w
      ((streamPackage wire size).run (judged wire req (.ok .proceed) rest w)).1
      ((streamPackage wire size).run (judged wire req (.ok .proceed) rest w)).2 := by
  unfold streamPackage
  rw [Act.run_bind]
  rcases sendPackage_forwards size.toNat (judged wire req (.ok .proceed) rest w) with
    ⟨added, w', sent, forwards, total⟩ | ⟨added, w', error, sent, streams⟩ |
    ⟨added, w', stuck, streams⟩
  · rw [sent, Act.andThen_ok]
    dsimp only
    rw [Act.run_bind]
    have unread : w'.recv.bytes = rest := by rw [forwards.recv]; rfl
    rcases run_recvResult wire .nodePackageResponse (some "receiving the install response") w' with
      ⟨waiting, read⟩ | ⟨result, body', rest', terminal, read⟩ | ⟨error, recv, -, read⟩
    · rw [read]
      exact .awaitsTerminal body rest added w' fits answer forwards total waiting
    · rw [read]
      rw [unread] at terminal
      cases result with
      | ok resp =>
          exact .applied resp body rest added w' body' rest' fits answer forwards total terminal
      | error text =>
          exact .unapplied text body rest added w' body' rest' fits answer forwards total terminal
    · rw [read]
      exact .unanswered error body rest added w' recv answer forwards
  · rw [sent]
    exact .aborted error body rest added w' answer streams
  · rw [stuck]
    exact .streaming body rest added w' fits answer stuck streams

theorem installExchange_transacts (wire : Wire) (req : NodePackageRequest) (size : UInt64)
    (w : Manager τ) :
    Transacts wire req size.toNat w ((installExchange wire req size).run w).1
      ((installExchange wire req size).run w).2 := by
  unfold installExchange
  rcases run_openBi_sendRaw wire .nodePackage .nodePackageRequest req w _ with
    ⟨fits, sent⟩ | ⟨error, events, send, -, stopped, opened⟩
  · rw [sent, Act.run_bind]
    rcases run_recvResult wire .installPreflight (some "receiving the install preflight verdict")
      (requesting .nodePackage (wire.encode .nodePackageRequest req) w) with
      ⟨waiting, read⟩ | ⟨verdict, body, rest, answer, read⟩ | ⟨error, recv, -, read⟩
    · rw [read]
      exact .awaitsVerdict fits waiting
    · have at_verdict : { requesting .nodePackage (wire.encode .nodePackageRequest req) w with
          recv.bytes := rest
          log := (requesting .nodePackage (wire.encode .nodePackageRequest req) w).log ++
            [.received .installPreflight verdict] } = judged wire req verdict rest w := by
        simp only [requesting, judged, List.append_assoc, List.cons_append, List.nil_append]
      rw [read, at_verdict]
      cases verdict with
      | error text => exact .denied text body rest fits answer
      | ok verdict =>
          simp only [returned, Act.andThen_ok]
          cases verdict with
          | proceed => exact streamPackage_transacts wire req size w fits answer
          | _ => exact .refused _ _ body rest fits answer rfl
    · rw [read, Act.andThen_error]
      refine .failed error [.opened, .requested Client.RequestCode.nodePackage.discriminant
        (wire.encode .nodePackageRequest req)] _ rfl ?_
      intro event mem
      simp only [List.mem_cons, List.not_mem_nil, or_false] at mem
      rcases mem with rfl | rfl
      · trivial
      · trivial
  · rw [stopped]
    refine .failed error events _ rfl ?_
    intro event mem
    rw [opened event mem]
    trivial

/-- What is not in the front of a log comes after all of it. -/
theorem mem_before {front back before after : List ManagerEvent} {mark event : ManagerEvent}
    (split : front ++ back = before ++ event :: after) (notFront : event ∉ front)
    (marked : mark ∈ front) : mark ∈ before := by
  rcases List.append_eq_append_iff.mp split with ⟨more, rfl, -⟩ | ⟨more, rfl, rest⟩
  · exact List.mem_append_left _ marked
  · cases more with
    | nil =>
        rw [List.append_nil] at marked
        exact marked
    | cons head more =>
        obtain ⟨rfl, -⟩ := List.cons.inj rest
        exact absurd (List.mem_append_right before List.mem_cons_self) notFront

/-- The source is read only behind a `Proceed`. -/
theorem Transacts.read_after_proceed {wire : Wire} {req : NodePackageRequest} {size : Nat}
    {w w' : Manager τ} {outcome : Except (Halt ApiError) InstallOutcome}
    (transacts : Transacts wire req size w outcome w') (fresh : w.log = [])
    {before after : List ManagerEvent} {result : Except IoError Bytes}
    (split : w'.log = before ++ .read result :: after) :
    .received .installPreflight (.ok .proceed) ∈ before := by
  have read : .read result ∈ w'.log := by
    rw [split]
    exact List.mem_append_right _ List.mem_cons_self
  have front (rest : Bytes) (back : List ManagerEvent)
      (log : w'.log = (judged wire req (.ok .proceed) rest w).log ++ back) :
      .received .installPreflight (.ok .proceed) ∈ before := by
    rw [log] at split
    refine mem_before split ?_ ?_
    · simp only [judged, fresh, List.nil_append, List.mem_cons, reduceCtorEq, List.not_mem_nil,
        or_self, not_false_eq_true]
    · exact List.mem_append_right _
        (List.mem_cons_of_mem _ (List.mem_cons_of_mem _ List.mem_cons_self))
  cases transacts with
  | failed error events _ log dials =>
      rw [log, fresh] at read
      cases dials _ read
  | awaitsVerdict fits waiting =>
      simp only [requesting, fresh, List.nil_append, List.mem_cons, reduceCtorEq, List.not_mem_nil,
        or_self] at read
  | denied text body rest fits answer =>
      simp only [judged, fresh, List.nil_append, List.mem_cons, reduceCtorEq, List.not_mem_nil,
        or_self] at read
  | refused verdict image body rest fits answer same =>
      simp only [judged, fresh, List.nil_append, List.mem_cons, reduceCtorEq, List.not_mem_nil,
        or_self] at read
  | streaming body rest added _ fits answer stuck streams => exact front rest _ streams.log
  | aborted error body rest added v answer streams =>
      exact front rest (added ++ [.reset]) (by rw [← List.append_assoc, ← streams.log])
  | awaitsTerminal body rest added _ fits answer forwards total waiting =>
      exact front rest _ forwards.log
  | unanswered error body rest added v recv answer forwards => exact front rest _ forwards.log
  | unapplied text body rest added v body' rest' fits answer forwards total terminal =>
      exact front rest (added ++ [_]) (by rw [← List.append_assoc, ← forwards.log])
  | applied resp body rest added v body' rest' fits answer forwards total terminal =>
      exact front rest (added ++ [_]) (by rw [← List.append_assoc, ← forwards.log])

end ReviewProtocol.Server
