import ReviewProtocol.Agent.Alignment
import ReviewProtocol.Agent.Passage
import ReviewProtocol.Lib.Duplex
import ReviewProtocol.Classification

set_option autoImplicit false

/- Chunk reads that are given up. A pending `next_chunk` that is dropped keeps what it has
taken off the stream, and the reader does not notice. -/
namespace ReviewProtocol

open Framing (Bytes Act Endpoint RecvStream SendStream Halt Protocol)
open Framing.Act (emit CutsAt)

variable {σ α : Type}

/-- A body of `node_package_install` that may also give a call of `next_chunk` up, as a
timeout does. The number is how many bytes the call has used up when its time is over;
it is answered if it is done by then. -/
inductive CancelProg (α : Type) where
  | ret (value : α)
  | nextChunk (resume : ChunkAnswer → CancelProg α)
  | timed (count : Nat) (resume : Option ChunkAnswer → CancelProg α)

namespace PackageReader

/-- A read of a chunk waits where nothing whole has arrived. -/
theorem readChunk_waits (reader : PackageReader) (w : Agent σ) (waiting : w.recv.Waiting) :
    reader.readChunk.run w = (.error .pending, w) := by
  simp only [readChunk, Act.run_bind, Act.recv, RecvStream.recvRaw, waiting.incomplete,
    waiting.unfinished, Act.andThen_error]

/-- `next_chunk`, given up at this count. Nothing is taken if it is dropped before it is
polled, and no answer comes later than it has to. -/
def timedChunk (reader : PackageReader) (count : Nat) :
    AgentAct σ (Option ChunkAnswer × PackageReader) := do
  if count = 0 then
    pure (none, reader)
  else if reader.failed then
    pure (some (.failed transferFailed []), reader)
  else if reader.remaining = 0 then
    pure (some .finished, reader)
  else
    match ← Act.cutOff count reader.readChunk reader.readChunk_waits with
    | none => pure (none, reader)
    | some (result, buf, reader) =>
        match result with
        | .ok () => pure (some (.chunk buf), reader)
        | .error error => pure (some (.failed error buf), { reader with failed := true })

/-- The call is dropped after it has read some bytes of its frame, and not all. -/
structure Loses (reader : PackageReader) (count : Nat) (bytes : Bytes) : Prop where
  polled : count ≠ 0
  sound : reader.failed = false
  expecting : reader.remaining ≠ 0
  cut : CutsAt count bytes

/-- A timed call that loses nothing is a call like any other. -/
theorem timedChunk_whole (reader : PackageReader) (count : Nat) (polled : count ≠ 0)
    (w : Agent σ) (nothing : ¬ reader.Loses count w.recv.bytes) :
    (reader.timedChunk count).run w =
      Act.andThen (reader.nextChunk.run w) fun out => pure (some out.1, out.2) := by
  unfold timedChunk nextChunk
  rw [if_neg polled]
  by_cases failed : reader.failed = true
  · rw [if_pos failed, if_pos failed]
    rfl
  · rw [if_neg failed, if_neg failed]
    by_cases complete : reader.remaining = 0
    · rw [if_pos complete, if_pos complete]
      rfl
    · rw [if_neg complete, if_neg complete]
      have whole : ¬ CutsAt count w.recv.bytes := by
        intro cut
        exact nothing ⟨polled, by simpa using failed, complete, cut⟩
      simp only [Act.run_bind, Act.cutOff, if_neg whole, Act.wrapped]
      rcases reader.readChunk.run w with ⟨halt | ⟨result, buf, reader'⟩, w'⟩
      · rfl
      · cases result with
        | ok done => rfl
        | error error => rfl

end PackageReader

namespace CancelProg

def run : CancelProg α → PackageReader → AgentAct σ (α × PackageReader)
  | ret value, reader => pure (value, reader)
  | nextChunk resume, reader => do
      let (answer, reader) ← reader.nextChunk
      (resume answer).run reader
  | timed count resume, reader => do
      let (answer, reader) ← reader.timedChunk count
      (resume answer).run reader

/-- From here on, every call that is given up has taken nothing off the stream. -/
def LosesNothing : CancelProg α → PackageReader → Agent σ → Prop
  | ret _, _, _ => True
  | nextChunk resume, reader, w =>
      match reader.nextChunk.run w with
      | (.ok (answer, reader'), w') => (resume answer).LosesNothing reader' w'
      | (.error _, _) => True
  | timed count resume, reader, w =>
      ¬ reader.Loses count w.recv.bytes ∧
      match (reader.timedChunk count).run w with
      | (.ok (answer, reader'), w') => (resume answer).LosesNothing reader' w'
      | (.error _, _) => True

/-- The body without its timers: a call that is given up at once is not made, and any
other is awaited. -/
def erase : CancelProg α → InstallProg α
  | ret value => .ret value
  | nextChunk resume => .nextChunk fun answer => (resume answer).erase
  | timed count resume =>
      if count = 0 then (resume none).erase
      else .nextChunk fun answer => (resume (some answer)).erase

/-- While nothing is lost, giving calls up makes no difference. -/
theorem run_erase (prog : CancelProg α) (reader : PackageReader) (w : Agent σ)
    (nothing : prog.LosesNothing reader w) :
    (prog.run reader).run w = (prog.erase.run reader).run w := by
  induction prog generalizing reader w with
  | ret value => rfl
  | nextChunk resume ih =>
      simp only [CancelProg.run, erase, InstallProg.run, Act.run_bind]
      unfold LosesNothing at nothing
      rcases step : reader.nextChunk.run w with ⟨halt | ⟨answer, reader'⟩, w'⟩
      · rfl
      · rw [step] at nothing
        exact ih answer reader' w' nothing
  | timed count resume ih =>
      unfold LosesNothing at nothing
      by_cases now : count = 0
      · have dropped : (reader.timedChunk count).run w = (.ok (none, reader), w) := by
          rw [PackageReader.timedChunk, if_pos now]
          rfl
        rw [dropped] at nothing
        rw [erase, if_pos now, CancelProg.run, Act.run_bind, dropped, Act.andThen_ok]
        exact ih none reader w nothing.2
      · rw [erase, if_neg now]
        simp only [CancelProg.run, InstallProg.run, Act.run_bind]
        rw [reader.timedChunk_whole count now w nothing.1] at nothing ⊢
        rcases step : reader.nextChunk.run w with ⟨halt | ⟨answer, reader'⟩, w'⟩
        · rfl
        · rw [step] at nothing
          exact ih (some answer) reader' w' nothing.2

end CancelProg

/-- A dispatch loop with an install body that gives calls up. -/
structure Cancelling (σ : Type) where
  loop : Loop σ
  install : NodePackageRequest → σ → CancelProg (Except String NodePackageResponse × σ)

namespace Cancelling

variable (c : Cancelling σ)

def receivePackage (req : NodePackageRequest) (size : Nat) :
    AgentAct σ (Except String NodePackageResponse) := do
  emit (.called (.nodePackageInstall req))
  let state ← Act.update fun state => (state, state)
  let ((result, state), pkg) ← (c.install req state).run (.new size)
  concludePackage result state pkg

def dispatchInstall (wire : Wire) (req : NodePackageRequest) (size : Nat) : AgentAct σ Unit := do
  let verdict ← c.loop.nodeHandler.callNode (.nodePackageInstallPreflight req)
  sendResponse wire .installPreflight verdict
  if verdict = .ok .proceed then
    let result ← c.receivePackage req size
    sendResponse wire .nodePackageResponse result

def arms (wire : Wire) (code : UInt32) (body : Bytes) : AgentAct σ Unit :=
  match c.loop.plan wire code body with
  | .install fields => c.dispatchInstall wire (.install fields) fields.size.toNat
  | plan => plan.perform wire c.loop.nodeHandler code

def run (wire : Wire) : AgentAct σ Unit := serve wire (c.arms wire)

/-- The same loop with every call awaited. -/
def erased : Loop σ :=
  match c.loop with
  | .handle handler =>
      .handle { handler with nodePackageInstall := fun req state => (c.install req state).erase }
  | .handleNode handler =>
      .handleNode
        { handler with nodePackageInstall := fun req state => (c.install req state).erase }

theorem erased_plan (wire : Wire) (code : UInt32) (body : Bytes) :
    c.erased.plan wire code body = c.loop.plan wire code body := by
  unfold erased
  cases c.loop with
  | handle handler => rfl
  | handleNode handler => rfl

theorem erased_sees (code : UInt32) : c.erased.sees code = c.loop.sees code := by
  unfold erased
  cases c.loop with
  | handle handler => rfl
  | handleNode handler => rfl

theorem erased_call (call : NodeCall) :
    c.erased.nodeHandler.call call = c.loop.nodeHandler.call call := by
  unfold erased
  cases c.loop with
  | handle handler => cases call <;> rfl
  | handleNode handler => rfl

theorem erased_install (req : NodePackageRequest) (state : σ) :
    c.erased.nodeHandler.nodePackageInstall req state = (c.install req state).erase := by
  unfold erased
  cases c.loop with
  | handle handler => rfl
  | handleNode handler => rfl

/-- The agent that has told an install to proceed. -/
def told (req : NodePackageRequest) (w : Agent σ) : Agent σ :=
  wrote (asked w (.node (.nodePackageInstallPreflight req))
    (c.loop.nodeHandler.call (.nodePackageInstallPreflight req) w.state).2) .installPreflight
    (.ok .proceed)

/-- The agent as the install body starts. -/
def begun (req : NodePackageRequest) (w : Agent σ) : Agent σ :=
  { c.told req w with log := (c.told req w).log ++ [.called (.nodePackageInstall req)] }

/-- If this request is an install, its body loses nothing of the stream. -/
def LosesNothing (wire : Wire) (code : UInt32) (body : Bytes) (w : Agent σ) : Prop :=
  ∀ fields, c.loop.plan wire code body = .install fields →
    verdictOf c.loop.nodeHandler (.install fields) w.state = .ok .proceed →
    (c.install (.install fields) (c.begun (.install fields) w).state).LosesNothing
      (.new fields.size.toNat) (c.begun (.install fields) w)

theorem receivePackage_erase {req : NodePackageRequest} {size : Nat} {w v : Agent σ}
    (start : v = { w with log := w.log ++ [.called (.nodePackageInstall req)] })
    (nothing : (c.install req v.state).LosesNothing (.new size) v) :
    (c.receivePackage req size).run w =
      (ReviewProtocol.receivePackage c.erased.nodeHandler req size).run w := by
  have plain : (ReviewProtocol.receivePackage c.erased.nodeHandler req size).run w =
      Act.andThen (((c.erased.nodeHandler.nodePackageInstall req w.state).run (.new size)).run v)
        fun out => concludePackage out.1.1 out.1.2 out.2 := by
    rw [start]
    rfl
  have cancelling : (c.receivePackage req size).run w =
      Act.andThen (((c.install req w.state).run (.new size)).run v)
        fun out => concludePackage out.1.1 out.1.2 out.2 := by
    rw [start]
    rfl
  have state : v.state = w.state := by rw [start]
  rw [state] at nothing
  rw [plain, cancelling, c.erased_install, CancelProg.run_erase _ _ _ nothing]

theorem run_dispatchInstall (wire : Wire) (req : NodePackageRequest) (size : Nat) (w : Agent σ) :
    (c.dispatchInstall wire req size).run w =
      Act.andThen ((sendResponse wire .installPreflight
          (verdictOf c.loop.nodeHandler req w.state)).run
        (asked w (.node (.nodePackageInstallPreflight req))
          (c.loop.nodeHandler.call (.nodePackageInstallPreflight req) w.state).2))
        fun _ =>
          if verdictOf c.loop.nodeHandler req w.state = .ok .proceed then do
            let result ← c.receivePackage req size
            sendResponse wire .nodePackageResponse result
          else pure () := rfl

theorem dispatchInstall_erase {wire : Wire} {req : NodePackageRequest} {size : Nat} {w : Agent σ}
    (nothing : verdictOf c.loop.nodeHandler req w.state = .ok .proceed →
      (c.install req (c.begun req w).state).LosesNothing (.new size) (c.begun req w)) :
    (c.dispatchInstall wire req size).run w =
      (ReviewProtocol.dispatchInstall wire c.erased.nodeHandler req size).run w := by
  have verdict : verdictOf c.erased.nodeHandler req w.state =
      verdictOf c.loop.nodeHandler req w.state := by
    unfold verdictOf
    rw [c.erased_call]
  rw [run_dispatchInstall, ReviewProtocol.run_dispatchInstall, verdict, c.erased_call]
  by_cases proceed : verdictOf c.loop.nodeHandler req w.state = .ok .proceed
  · rw [if_pos proceed, if_pos proceed, proceed]
    rcases run_sendResponse wire .installPreflight (.ok .proceed)
        (asked w (.node (.nodePackageInstallPreflight req))
          (c.loop.nodeHandler.call (.nodePackageInstallPreflight req) w.state).2) with
      sent | ⟨error, lost⟩
    · rw [sent, Act.andThen_ok, Act.andThen_ok, Act.run_bind, Act.run_bind]
      have same : (c.receivePackage req size).run (c.told req w) = _ :=
        c.receivePackage_erase rfl (nothing proceed)
      rw [show (c.receivePackage req size).run (wrote _ .installPreflight (.ok .proceed)) = _
        from same]
      rfl
    · rw [lost]
      rfl
  · rw [if_neg proceed, if_neg proceed]

/-- While nothing is lost, a request is served as if every call were awaited. -/
theorem arms_erase {wire : Wire} {code : UInt32} {body : Bytes} {w : Agent σ}
    (nothing : c.LosesNothing wire code body w) :
    (c.arms wire code body).run w = (c.erased.arms wire code body).run w := by
  rw [c.erased.arms_eq, c.erased_plan]
  unfold arms
  unfold LosesNothing at nothing
  cases planned : c.loop.plan wire code body with
  | install fields => exact c.dispatchInstall_erase (nothing fields planned)
  | undecodable error => rfl
  | answer ty result => rfl
  | unary call ty ask => rfl
  | silent call ask => rfl

/-- A stream whose payload frames are where this loop expects them. -/
def Aligned (wire : Wire) : List Exchange → Agent σ → Prop
  | [], _ => True
  | exchange :: rest, w =>
      exchange.Fits wire c.loop w.state ∧
      (pairing wire (c.loop.sees exchange.code) exchange.body = .undecodable → rest = []) ∧
      match (c.arms wire exchange.code exchange.body).run
        (atRequest w (ahead exchange.payload (scriptBytes rest)) exchange.code exchange.body) with
      | (.ok (), w') => Aligned wire rest w'
      | (.error _, _) => True

/-- No install of the stream has a call given up that has read part of its frame. -/
def Undisturbed (wire : Wire) : List Exchange → Agent σ → Prop
  | [], _ => True
  | exchange :: rest, w =>
      c.LosesNothing wire exchange.code exchange.body
        (atRequest w (ahead exchange.payload (scriptBytes rest)) exchange.code exchange.body) ∧
      match (c.arms wire exchange.code exchange.body).run
        (atRequest w (ahead exchange.payload (scriptBytes rest)) exchange.code exchange.body) with
      | (.ok (), w') => Undisturbed wire rest w'
      | (.error _, _) => True

theorem erased_fits {wire : Wire} {exchange : Exchange} {state : σ} :
    exchange.Fits wire c.erased state ↔ exchange.Fits wire c.loop state := by
  unfold Exchange.Fits verdictOf
  simp only [c.erased_sees, c.erased_call]

theorem aligned_erase {wire : Wire} {script : List Exchange} {w : Agent σ}
    (aligned : c.Aligned wire script w) (undisturbed : c.Undisturbed wire script w) :
    ReviewProtocol.Aligned wire c.erased script w := by
  induction script generalizing w with
  | nil => trivial
  | cons exchange rest ih =>
      obtain ⟨fits, last, later⟩ := aligned
      obtain ⟨nothing, later'⟩ := undisturbed
      refine ⟨c.erased_fits.mpr fits, by rwa [c.erased_sees], ?_⟩
      rw [← c.arms_erase nothing]
      rcases ran : (c.arms wire exchange.code exchange.body).run
          (atRequest w (ahead exchange.payload (scriptBytes rest)) exchange.code exchange.body) with
        ⟨halt | done, w'⟩
      · trivial
      · rw [ran] at later later'
        exact ih later later'

/-- A stream that is undisturbed is served as if every call were awaited. -/
theorem run_erase {wire : Wire} {script : List Exchange} {w : Agent σ}
    (bytes : w.recv.bytes = scriptBytes script) (aligned : c.Aligned wire script w)
    (undisturbed : c.Undisturbed wire script w) :
    (c.run wire).run w = (c.erased.run wire).run w := by
  rw [c.erased.run_eq_serve]
  unfold run
  induction script generalizing w with
  | nil =>
      rcases serve_cases wire w with ⟨frame, rest, code, body, front, -, -⟩ |
        ⟨error, rest, -, read⟩ | ⟨-, read⟩
      · rw [bytes] at front
        have length := congrArg List.length front
        rw [List.length_append, Framing.length_frame, scriptBytes, List.length_nil] at length
        omega
      · rw [read, read]
      · rw [read, read]
  | cons exchange rest ih =>
      obtain ⟨fits, last, later⟩ := aligned
      obtain ⟨nothing, later'⟩ := undisturbed
      rw [serve_request (c.arms wire) bytes exchange.requestFits,
        serve_request (c.erased.arms wire) bytes exchange.requestFits, c.arms_erase nothing]
      rw [c.arms_erase nothing] at later later'
      obtain ⟨w', events, -, outcome⟩ := (c.erased_fits.mpr fits).read (w := atRequest w
        (ahead exchange.payload (scriptBytes rest)) exchange.code exchange.body)
        (scriptBytes rest) rfl
      rcases outcome with ⟨ran, after, -⟩ | ⟨error, ran, -⟩ | ⟨error, ran, -⟩
      · rw [ran] at later later' ⊢
        exact ih after later later'
      · rw [ran]
        rfl
      · rw [ran]
        rfl

end Cancelling

/-! ### Installs reported as done -/

/-- The stream was read as it was sent: requests as requests and chunks as payload, whole
and in order, and no package was reported as done before its payload had been read. -/
structure Unmixed (script : List Exchange) (log : List AgentEvent) : Prop where
  inOrder : framesRead log <+: script.flatMap Exchange.frames
  whole : ∀ before response after,
    log = before ++ .replied .nodePackageResponse (.ok response) :: after →
    ∃ served, served <+: script ∧ framesRead before = served.flatMap Exchange.frames

section success

variable {events before after : List AgentEvent} {response : NodePackageResponse}
  (success : events = before ++ .replied .nodePackageResponse (.ok response) :: after)

include success

theorem success_mem_terminals : .ok response ∈ terminals events := by
  rw [success]
  simp [terminals]

theorem success_last (early : List AgentEvent) {last : AgentEvent} (none : terminals early = [])
    (split : events = early ++ [last]) : after = [] := by
  rcases List.eq_nil_or_concat after with nothing | ⟨init, other, rfl⟩
  · exact nothing
  · rw [split, List.concat_eq_append, ← List.cons_append, ← List.append_assoc] at success
    have member := success_mem_terminals (List.append_inj_left' success rfl)
    rw [none] at member
    cases member

end success

/-- A package is reported as done by the last event of its request, which then ends well. -/
theorem Performs.success_last {handler : NodeHandler σ} {code : UInt32} {w w' : Agent σ}
    {plan : Plan σ} {outcome : Except (Halt HandlerError) Unit}
    (performs : Performs handler code w plan outcome w') {events before after : List AgentEvent}
    {response : NodePackageResponse} (log : w'.log = w.log ++ events)
    (success : events = before ++ .replied .nodePackageResponse (.ok response) :: after) :
    outcome = .ok () ∧ after = [] := by
  have member := success_mem_terminals success
  cases performs with
  | undecodable error =>
      rw [← List.append_cancel_left log] at member
      simp [terminals] at member
  | undecodableLost error =>
      have none : events = [] := by simpa [lostWrite] using log
      rw [none] at member
      cases member
  | answered ty result =>
      exact ⟨rfl, ReviewProtocol.success_last success [] rfl (List.append_cancel_left log).symm⟩
  | answerLost ty result error =>
      have none : events = [] := by simpa [lostWrite] using log
      rw [none] at member
      cases member
  | unary call ty ask =>
      simp only [wrote, asked, List.append_assoc] at log
      exact ⟨rfl, ReviewProtocol.success_last success [.called call] rfl
        (List.append_cancel_left log).symm⟩
  | unaryLost call ty ask error =>
      rw [← List.append_cancel_left log] at member
      simp [terminals] at member
  | silent call ask =>
      rw [← List.append_cancel_left log] at member
      simp [terminals] at member
  | install fields outcome w' installs =>
      cases installs with
      | verdictLost error state =>
          rw [← List.append_cancel_left log] at member
          simp [terminals] at member
      | refused state refused =>
          rw [← List.append_cancel_left log] at member
          simp [terminals, opening] at member
      | receiving state added reader stream proceed drawn awaits =>
          rw [← List.append_cancel_left log] at member
          have none := terminals_payload drawn.payload
          simp only [terminals] at none
          simp [terminals, opening, none] at member
      | draining state result early late reader stream proceed drawn awaits =>
          rw [← List.append_cancel_left log, terminals_exchange _ _ _ _ drawn.payload] at member
          cases member
      | terminalLost error state result early late drained stream proceed transfer =>
          rw [← List.append_cancel_left log, terminals_exchange _ _ _ _ transfer.payload] at member
          cases member
      | finished state result early late drained stream proceed transfer =>
          exact ⟨rfl, ReviewProtocol.success_last success _
            (terminals_exchange _ _ _ _ transfer.payload) (List.append_cancel_left log).symm⟩

theorem Loop.success_last (loop : Loop σ) {wire : Wire} {code : UInt32} {body : Bytes}
    {w w' : Agent σ} {outcome : Except (Halt HandlerError) Unit}
    {events before after : List AgentEvent} {response : NodePackageResponse}
    (ran : (loop.arms wire code body).run w = (outcome, w'))
    (log : w'.log = w.log ++ events)
    (success : events = before ++ .replied .nodePackageResponse (.ok response) :: after) :
    outcome = .ok () ∧ after = [] := by
  rw [loop.arms_eq] at ran
  have performs := (loop.plan wire code body).perform_performs wire loop.nodeHandler code w
  rw [ran] at performs
  exact performs.success_last log success

/-- The events of one exchange, put in front of those of the rest. -/
theorem Unmixed.cons {exchange : Exchange} {rest : List Exchange} {events added : List AgentEvent}
    (read : framesRead events = exchange.payload.map .chunk)
    (last : ∀ before response after,
      events = before ++ .replied .nodePackageResponse (.ok response) :: after → after = [])
    (unmixed : Unmixed rest added) :
    Unmixed (exchange :: rest) (.request exchange.code exchange.body :: events ++ added) := by
  have frames : framesRead (.request exchange.code exchange.body :: events) = exchange.frames := by
    rw [Exchange.frames, ← read]
    rfl
  constructor
  · rw [framesRead_append, frames, List.flatMap_cons]
    exact (List.prefix_append_right_inj _).mpr unmixed.inOrder
  · intro before response after split
    rcases List.append_eq_append_iff.mp split with ⟨middle, rfl, later⟩ | ⟨middle, early, later⟩
    · obtain ⟨served, prefixed, same⟩ := unmixed.whole middle response after later
      refine ⟨exchange :: served, List.cons_prefix_cons.mpr ⟨rfl, prefixed⟩, ?_⟩
      rw [framesRead_append, frames, same, List.flatMap_cons]
    · cases middle with
      | nil =>
          rw [List.append_nil] at early
          obtain ⟨served, prefixed, same⟩ := unmixed.whole [] response after later.symm
          refine ⟨exchange :: served, List.cons_prefix_cons.mpr ⟨rfl, prefixed⟩, ?_⟩
          rw [← early, frames, List.flatMap_cons, ← same]
          exact (List.append_nil _).symm
      | cons first middle =>
          cases later
          cases before with
          | nil => cases early
          | cons head before =>
              rw [List.cons_append] at early
              obtain ⟨rfl, ended⟩ := List.cons.inj early
              have nothing := last before response middle ended
              rw [ended, nothing, framesRead_append] at read
              have all : framesRead before = exchange.payload.map .chunk := by
                simpa [framesRead] using read
              refine ⟨[exchange], List.cons_prefix_cons.mpr ⟨rfl, List.nil_prefix⟩, ?_⟩
              rw [List.flatMap_singleton, Exchange.frames, ← all]
              rfl

/-- The events of an exchange that was broken off. -/
theorem Unmixed.broken {exchange : Exchange} {rest : List Exchange} {events : List AgentEvent}
    (read : framesRead events <+: exchange.payload.map .chunk)
    (none : ∀ before response after,
      events ≠ before ++ .replied .nodePackageResponse (.ok response) :: after) :
    Unmixed (exchange :: rest) (.request exchange.code exchange.body :: events) := by
  constructor
  · rw [List.flatMap_cons, Exchange.frames]
    exact List.IsPrefix.trans (List.cons_prefix_cons.mpr ⟨rfl, read⟩) (List.prefix_append _ _)
  · intro before response after split
    cases before with
    | nil => cases split
    | cons head before =>
        rw [List.cons_append] at split
        exact absurd (List.cons.inj split).2 (none before response after)

/-- A loop whose calls are all awaited reads an aligned stream as it was sent. -/
theorem run_unmixed (wire : Wire) (loop : Loop σ) (script : List Exchange) (w : Agent σ)
    (bytes : w.recv.bytes = scriptBytes script) (aligned : Aligned wire loop script w) :
    ∃ added, ((loop.run wire).run w).2.log = w.log ++ added ∧ Unmixed script added := by
  rw [loop.run_eq_serve]
  induction script generalizing w with
  | nil =>
      obtain ⟨outcome, w', log, read⟩ := serve_nothing wire bytes
      rw [read]
      exact ⟨[], by rw [log, List.append_nil], List.nil_prefix, by simp⟩
  | cons exchange rest ih =>
      obtain ⟨fits, last, later⟩ := aligned
      rw [serve_request (loop.arms wire) bytes exchange.requestFits]
      obtain ⟨w', events, log, outcome⟩ := fits.read (w := atRequest w
        (ahead exchange.payload (scriptBytes rest)) exchange.code exchange.body)
        (scriptBytes rest) rfl
      have begun : w'.log = w.log ++ (.request exchange.code exchange.body :: events) := by
        rw [log]
        simp only [atRequest, List.append_assoc, List.cons_append, List.nil_append]
      rcases outcome with ⟨ran, after, read⟩ | ⟨error, ran, read⟩ | ⟨error, ran, undecodable, read⟩
      · rw [ran] at later ⊢
        rw [Act.andThen_ok]
        obtain ⟨added, log', unmixed⟩ := ih w' after later
        refine ⟨.request exchange.code exchange.body :: events ++ added, ?_, ?_⟩
        · rw [log', begun, List.append_assoc]
        · refine .cons read ?_ unmixed
          intro before response after success
          exact (loop.success_last ran log success).2
      · rw [ran, Act.andThen_error]
        refine ⟨_, begun, .broken read ?_⟩
        intro before response after success
        cases (loop.success_last ran log success).1
      · rw [ran, Act.andThen_error]
        refine ⟨_, begun, .broken (by rw [read]) ?_⟩
        intro before response after success
        cases (loop.success_last ran log success).1

theorem Unmixed.prefixed {script : List Exchange} {less more : List AgentEvent}
    (unmixed : Unmixed script more) (earlier : less <+: more) : Unmixed script less := by
  obtain ⟨later, rfl⟩ := earlier
  constructor
  · have inOrder := unmixed.inOrder
    rw [framesRead_append] at inOrder
    exact List.IsPrefix.trans (List.prefix_append _ _) inOrder
  · rintro before response after rfl
    exact unmixed.whole before response (after ++ later) (by simp)

/-- Chunk reads may be given up as long as none of them has begun to read: on a stream that
carries what its installs call for, requests and payload then never change places, and no
install is reported as done that is not. This holds at every moment, however much of the
stream has arrived. -/
theorem cancelled_unmixed (wire : Wire) (c : Cancelling σ) (script : List Exchange) (state : σ)
    (fin : Option IoError) (send : SendStream IoError)
    (aligned : c.Aligned wire script (connected state ⟨scriptBytes script, fin⟩ send))
    (undisturbed : c.Undisturbed wire script (connected state ⟨scriptBytes script, fin⟩ send)) :
    Unmixed script ((c.run wire).run (connected state ⟨scriptBytes script, fin⟩ send)).2.log ∧
    ∀ arrived, arrived <+: scriptBytes script →
      Unmixed script ((c.run wire).run (connected state ⟨arrived, none⟩ send)).2.log := by
  obtain ⟨added, log, unmixed⟩ := run_unmixed wire c.erased script
    (connected state ⟨scriptBytes script, fin⟩ send) rfl (c.aligned_erase aligned undisturbed)
  rw [← c.run_erase rfl aligned undisturbed] at log
  have all : Unmixed script
      ((c.run wire).run (connected state ⟨scriptBytes script, fin⟩ send)).2.log := by
    rw [log]
    exact unmixed
  refine ⟨all, ?_⟩
  intro arrived early
  exact all.prefixed (Act.log_prefix (c.run wire)
    ⟨rfl, List.prefix_rfl, .inr ⟨rfl, early⟩, rfl, rfl⟩)

/-- A body that gives up a call before it reads, and another only after it is answered. -/
def patientBody : CancelProg (Except String NodePackageResponse × Unit) :=
  .timed 0 fun _ => .timed 5 fun _ => .ret (.ok .done, ())

def patient : Cancelling Unit := ⟨.handle eagerHandler, fun _ _ => patientBody⟩

theorem patientInstall_fits :
    (Wire.requestFrame 109 (Encoding.nodePackageRequest.encode
      (.install (bareInstall 2)))).length < Framing.frameLimit := by decide

theorem patientPayload_fits :
    ∀ chunk ∈ ([[1], [], [2]] : List Bytes), chunk.length < Framing.frameLimit := by decide

theorem patientPower_fits :
    (Wire.requestFrame 106 (Encoding.nodePowerRequest.encode .reboot)).length <
      Framing.frameLimit := by decide

theorem noPayload_fits : ∀ chunk ∈ ([] : List Bytes), chunk.length < Framing.frameLimit := by
  decide

/-- An install in three chunks of which one is empty, and a power request. -/
def patientScript : List Exchange :=
  [⟨109, Encoding.nodePackageRequest.encode (.install (bareInstall 2)), [[1], [], [2]],
      patientInstall_fits, patientPayload_fits⟩,
    ⟨106, Encoding.nodePowerRequest.encode .reboot, [], patientPower_fits, noPayload_fits⟩]

def patientAgent : Agent Unit :=
  connected () ⟨scriptBytes patientScript, none⟩ (.healthy (.simple .invalidInput))

theorem patient_aligned : patient.Aligned Encoding.bincode patientScript patientAgent := by
  refine ⟨(⟨rfl, by decide⟩ : Payload 2 [[1], [], [2]]), ?_, ?_⟩
  · intro impossible
    cases impossible
  exact ⟨(rfl : ([] : List Bytes) = []), fun _ => rfl, by split <;> trivial⟩

theorem patient_undisturbed : patient.Undisturbed Encoding.bincode patientScript patientAgent := by
  refine ⟨?_, ⟨?_, by split <;> trivial⟩⟩
  · intro fields planned proceed
    cases planned
    refine ⟨fun loses => loses.polled rfl, ?_⟩
    refine ⟨fun loses => absurd loses.cut ?_, trivial⟩
    decide +kernel
  · intro fields planned
    cases planned

theorem cancelled_unmixed_patient :
    Unmixed patientScript ((patient.run Encoding.bincode).run patientAgent).2.log ∧
    ∀ arrived, arrived <+: scriptBytes patientScript →
      Unmixed patientScript ((patient.run Encoding.bincode).run
        (connected () ⟨arrived, none⟩ (.healthy (.simple .invalidInput)))).2.log :=
  cancelled_unmixed Encoding.bincode patient patientScript () none _ patient_aligned
    patient_undisturbed

/-- A body that gives its first call up behind the length of a chunk, and asks again. -/
def hastyBody : CancelProg (Except String NodePackageResponse × Unit) :=
  .timed 4 fun _ => .nextChunk fun _ => .ret (.ok .done, ())

def hasty : Cancelling Unit := ⟨.handle eagerHandler, fun _ _ => hastyBody⟩

/-- An install whose payload reads differently from its fifth byte on. -/
def tornScript : List Exchange :=
  [⟨109, Encoding.nodePackageRequest.encode (.install (bareInstall 12)),
      [[0, 0, 0, 12], [], [], Framing.frame (Wire.requestFrame 4 [])], by decide, by decide⟩]

def tornAgent : Agent Unit :=
  connected () ⟨scriptBytes tornScript, none⟩ (.healthy (.simple .invalidInput))

theorem hasty_log : ((hasty.run Encoding.bincode).run tornAgent).2.log =
    [.request 109 (Encoding.nodePackageRequest.encode (.install (bareInstall 12))),
      .called (.node (.nodePackageInstallPreflight (.install (bareInstall 12)))),
      .replied .installPreflight (.ok .proceed),
      .called (.nodePackageInstall (.install (bareInstall 12))),
      .chunk 12 [0, 0, 0, 0, 0, 0, 0, 0, 0, 0, 0, 8],
      .installed (.ok .done),
      .replied .nodePackageResponse (.ok .done),
      .request 4 [],
      .called (.node (.nodePower .reboot)),
      .replied .unit (.ok ())] := by
  rfl

/-- A timeout behind a length prefix: the handler is given bytes that are no chunk, the
install is reported as done though its payload was not read as it was sent, and what its
last chunk holds is served as a request, which reboots the host. -/
theorem dropped_read_misaligns :
    hasty.Aligned Encoding.bincode tornScript tornAgent ∧
    ¬ Unmixed tornScript ((hasty.run Encoding.bincode).run tornAgent).2.log ∧
    .chunk 12 [0, 0, 0, 0, 0, 0, 0, 0, 0, 0, 0, 8] ∈
      ((hasty.run Encoding.bincode).run tornAgent).2.log ∧
    .replied .nodePackageResponse (.ok .done) ∈
      ((hasty.run Encoding.bincode).run tornAgent).2.log ∧
    .request 4 [] ∈ ((hasty.run Encoding.bincode).run tornAgent).2.log := by
  rw [hasty_log]
  refine ⟨⟨(⟨rfl, by decide⟩ : Payload 12
      [[0, 0, 0, 12], [], [], Framing.frame (Wire.requestFrame 4 [])]),
    fun _ => rfl, by split <;> trivial⟩, ?_, by simp, by simp, by simp⟩
  intro unmixed
  have inOrder := unmixed.inOrder
  revert inOrder
  decide +kernel

end ReviewProtocol
