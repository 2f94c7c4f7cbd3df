import ReviewProtocol.Lib.Duplex
import ReviewProtocol.Lib.Serve

set_option autoImplicit false

/- Calls over streams: an end that writes one request and reads one response, a loop that
serves it, and what the caller may rely on whatever becomes of the stream. -/
namespace Framing

variable {S I E X ε R α S' E' X' ε' β γ : Type}

/-- Nothing has been sent, or a request that can be is on its way. -/
def Arrives (request bytes : Bytes) : Prop :=
  bytes = [] ∨ bytes <+: frame request ∧ request.length < frameLimit

/-- A whole frame where only this one can arrive is this one. -/
theorem Arrives.whole {request bytes body rest : Bytes} (arrives : Arrives request bytes)
    (whole : bytes = frame body ++ rest) (fits : body.length < frameLimit) : body = request := by
  rcases arrives with empty | ⟨arrived, small⟩
  · rw [whole] at empty
    have length := congrArg List.length empty
    rw [List.length_append, length_frame, List.length_nil] at length
    omega
  · rw [whole, ← List.append_nil (frame request)] at arrived
    obtain ⟨same, -⟩ := frame_prefix arrived fits small
    exact same

namespace Protocol

variable (protocol : Protocol E X ε R α) (arms : R → Act S I E X ε (Act.Turn Unit α))
  {w : Endpoint S I E X}

/-- With nothing to read, a loop does nothing. -/
theorem serve_nothing (empty : w.recv.bytes = []) :
    ((protocol.serve arms).run w).2.log = w.log := by
  rcases protocol.serve_cases w with ⟨body, rest, _, bytes, -⟩ | ⟨error, rest, -, read⟩ | ⟨-, read⟩
  · have length := congrArg List.length (bytes.symm.trans empty)
    rw [List.length_append, length_frame, List.length_nil] at length
    omega
  · rw [read]
    rfl
  · rw [read]

/-- A loop to which one request is sent has not begun, or has served it. -/
theorem serve_one {body : Bytes} {request : R} (arrives : Arrives body w.recv.bytes)
    (parsed : protocol.parse body = .ok request) :
    (w.recv.bytes ≠ frame body ∧ ((protocol.serve arms).run w).2.log = w.log) ∨
    (w.recv.bytes = frame body ∧ ((protocol.serve arms).run w).2.log =
      ((arms request).run (protocol.atRequest w [] request)).2.log) := by
  rcases arrives with empty | ⟨arrived, fits⟩
  · left
    refine ⟨?_, protocol.serve_nothing arms empty⟩
    intro whole
    have length := congrArg List.length (whole.symm.trans empty)
    rw [length_frame, List.length_nil] at length
    omega
  by_cases whole : w.recv.bytes = frame body
  · right
    refine ⟨whole, ?_⟩
    rw [protocol.serve_request arms (whole.trans (List.append_nil _).symm) fits parsed]
    have progress := (arms request).progress (protocol.atRequest w [] request)
    rcases arm : (arms request).run (protocol.atRequest w [] request) with ⟨_ | _ | _, w'⟩
    · rfl
    · rw [arm] at progress
      exact protocol.serve_nothing arms (List.suffix_nil.mp progress.bytes)
    · rfl
  · left
    refine ⟨whole, ?_⟩
    rcases protocol.serve_cases w with
      ⟨found, rest, _, bytes, foundFits, -⟩ | ⟨error, rest, -, read⟩ | ⟨-, read⟩
    · rw [bytes, ← List.append_nil (frame body)] at arrived
      obtain ⟨same, nothing⟩ := frame_prefix arrived foundFits fits
      rw [List.prefix_nil.mp nothing, same, List.append_nil] at bytes
      exact absurd bytes whole
    · rw [read]
      rfl
    · rw [read]

end Protocol

/-- What a caller may rely on. The calls made for it are at most the expected ones; a success
is the callee's own, and comes after its call where a response is waited for; once a response
was read, or everything has got through, the calls are the expected ones and the outcome is
the callee's answer. -/
structure Faithful (expected called : List γ) (outcome answer : Except (Halt ε) α)
    (responds answered arrived : Prop) : Prop where
  atMostOnce : called <+: expected
  success : ∀ value, outcome = .ok value → answer = .ok value ∧ (responds → called = expected)
  genuine : answered → called = expected ∧ outcome = answer
  through : arrived → called = expected ∧ outcome = answer

/-- What brings everything through may be said in other words. -/
theorem Faithful.when {expected called : List γ} {outcome answer : Except (Halt ε) α}
    {responds answered arrived through : Prop}
    (faithful : Faithful expected called outcome answer responds answered arrived)
    (brings : through → arrived) :
    Faithful expected called outcome answer responds answered through where
  atMostOnce := faithful.atMostOnce
  success := faithful.success
  genuine := faithful.genuine
  through := fun got => faithful.through (brings got)

/-- All that a caller can come to: it did not get to its request; it wrote it and found no
whole frame, one that it does not understand, or one that it does. -/
inductive Asked (near : Party S I E X ε α) (dialed : Prop) (answered : List E → Prop)
    (request : Bytes) (finish : Bytes → Option (Except (Halt ε) α)) (w : Endpoint S I E X) :
    Prop where
  | undialed (undialed : ¬ dialed) (silent : near.output w = [])
      (failed : ∀ value, (near.act.run w).1 ≠ .ok value)
      (unanswered : ¬ answered (near.act.run w).2.log)
  | unread (written : near.output w = frame request) (small : request.length < frameLimit)
      (incomplete : splitFrame w.recv.bytes = none)
      (failed : ∀ value, (near.act.run w).1 ≠ .ok value)
      (unanswered : ¬ answered (near.act.run w).2.log)
  | undecoded (body rest : Bytes) (written : near.output w = frame request)
      (small : request.length < frameLimit) (bytes : w.recv.bytes = frame body ++ rest)
      (fits : body.length < frameLimit) (undecoded : finish body = none)
  | decoded (body rest : Bytes) (written : near.output w = frame request)
      (small : request.length < frameLimit) (bytes : w.recv.bytes = frame body ++ rest)
      (fits : body.length < frameLimit) (decoded : finish body = some (near.act.run w).1)

/-- All that a callee can come to: the request has not arrived, or its calls were made and
this was written, unless the write failed. -/
inductive Served (far : Party S' Empty E' X' ε' β) (calls : List E' → List γ) (request : Bytes)
    (response : Option Bytes) (expected : List γ) (taken : Prop) (w : Endpoint S' Empty E' X') :
    Prop where
  | idle (bytes : w.recv.bytes ≠ frame request)
      (uncalled : calls (far.act.run w).2.log = []) (silent : far.output w = [])
  | answered (bytes : w.recv.bytes = frame request)
      (called : calls (far.act.run w).2.log = expected)
      (written : far.output w = response.elim [] frame)
      (fits : ∀ body ∈ response, body.length < frameLimit)
  | lost (bytes : w.recv.bytes = frame request)
      (called : calls (far.act.run w).2.log = expected) (silent : far.output w = [])
      (refused : ¬ taken)

section faithful

variable {near : Party S I E X ε α} {far : Party S' Empty E' X' ε' β}
  {now : Duplex S I E X S' E' X'} {calls : List E' → List γ} {answered : List E → Prop}
  {expected : List γ} {request response : Bytes} {dialed taken : Prop}

theorem Served.atMostOnce {reply : Option Bytes}
    (served : Served far calls request reply expected taken now.far) :
    calls (far.act.run now.far).2.log <+: expected := by
  cases served with
  | idle bytes uncalled silent =>
      rw [uncalled]
      exact List.nil_prefix
  | answered bytes called written fits => rw [called]
  | lost bytes called silent refused => rw [called]

/-- The whole request has been served. -/
theorem Served.called {reply : Option Bytes}
    (served : Served far calls request reply expected taken now.far)
    (bytes : now.far.recv.bytes = frame request) :
    calls (far.act.run now.far).2.log = expected := by
  cases served with
  | idle other uncalled silent => exact absurd bytes other
  | answered _ called written fits => exact called
  | lost _ called silent refused => exact called

/-- A frame that arrives from the callee is its response. -/
theorem Served.replied {body rest : Bytes}
    (served : Served far calls request (some response) expected taken now.far)
    (sent : frame body ++ rest <+: far.output now.far) (fits : body.length < frameLimit) :
    body = response ∧ calls (far.act.run now.far).2.log = expected := by
  have nothing (silent : far.output now.far = []) : False := by
    rw [silent] at sent
    have length := congrArg List.length (List.prefix_nil.mp sent)
    rw [List.length_append, length_frame, List.length_nil] at length
    omega
  cases served with
  | idle bytes uncalled silent => exact (nothing silent).elim
  | answered bytes called written responseFits =>
      rw [written, Option.elim_some, ← List.append_nil (frame response)] at sent
      exact ⟨( frame_prefix sent fits (responseFits response rfl)).1, called⟩
  | lost bytes called silent refused => exact (nothing silent).elim

/-- A caller that waits for its response can rely on it. -/
theorem faithful_of_asked {finish : Bytes → Option (Except (Halt ε) α)}
    {answer : Except (Halt ε) α} (delivered : Duplex.Delivered near far now)
    (asked : Asked near dialed answered request finish now.near)
    (served : Arrives request now.far.recv.bytes →
      Served far calls request (some response) expected taken now.far)
    (decodes : finish response = some answer) :
    Faithful expected (calls (far.act.run now.far).2.log) (near.act.run now.near).1 answer True
      (answered (near.act.run now.near).2.log)
      (dialed ∧ taken ∧ Duplex.Quiescent near far now) := by
  have toFar := delivered.toFar
  have toNear := delivered.toNear
  cases asked with
  | undialed undialed silent failed unanswered =>
      rw [silent] at toFar
      have serves := served (.inl (List.prefix_nil.mp toFar))
      refine ⟨serves.atMostOnce, ?_, ?_, ?_⟩
      · intro value success
        exact absurd success (failed value)
      · intro read
        exact absurd read unanswered
      · rintro ⟨done, -⟩
        exact absurd done undialed
  | unread written small incomplete failed unanswered =>
      rw [written] at toFar
      have serves := served (.inr ⟨toFar, small⟩)
      refine ⟨serves.atMostOnce, ?_, ?_, ?_⟩
      · intro value success
        exact absurd success (failed value)
      · intro read
        exact absurd read unanswered
      · -- With everything delivered there is a whole frame to read.
        rintro ⟨-, took, quiescent⟩
        have bytes := quiescent.toFar
        rw [written] at bytes
        cases serves with
        | idle other uncalled silent => exact absurd bytes other
        | answered _ called replied fits =>
            have arrived := quiescent.toNear
            rw [replied, Option.elim_some, ← List.append_nil (frame response)] at arrived
            rw [arrived, splitFrame_frame _ _ (fits response rfl)] at incomplete
            cases incomplete
        | lost _ called silent refused => exact absurd took refused
  | undecoded body rest written small bytes fits undecoded =>
      rw [written] at toFar
      rw [bytes] at toNear
      rw [((served (.inr ⟨toFar, small⟩)).replied toNear fits).1, decodes] at undecoded
      cases undecoded
  | decoded body rest written small bytes fits decoded =>
      rw [written] at toFar
      rw [bytes] at toNear
      have serves := served (.inr ⟨toFar, small⟩)
      obtain ⟨same, called⟩ := serves.replied toNear fits
      rw [same, decodes] at decoded
      have outcome : (near.act.run now.near).1 = answer := (Option.some.inj decoded).symm
      refine ⟨serves.atMostOnce, ?_, fun _ => ⟨called, outcome⟩, fun _ => ⟨called, outcome⟩⟩
      intro value success
      exact ⟨outcome.symm.trans success, fun _ => called⟩

/-- A caller that does not wait for a response can rely on its call being made. -/
theorem faithful_of_told {value : α} {reply : Option Bytes}
    (delivered : Duplex.Delivered near far now)
    (told : (near.output now.near = [] ∧ ¬ dialed ∧
        ∀ other, (near.act.run now.near).1 ≠ .ok other) ∨
      (near.output now.near = frame request ∧ request.length < frameLimit ∧
        (near.act.run now.near).1 = .ok value))
    (unanswered : ¬ answered (near.act.run now.near).2.log)
    (served : Arrives request now.far.recv.bytes →
      Served far calls request reply expected taken now.far) :
    Faithful expected (calls (far.act.run now.far).2.log) (near.act.run now.near).1 (.ok value)
      False (answered (near.act.run now.near).2.log)
      (dialed ∧ taken ∧ Duplex.Quiescent near far now) := by
  have toFar := delivered.toFar
  rcases told with ⟨silent, undialed, failed⟩ | ⟨written, small, outcome⟩
  · rw [silent] at toFar
    have serves := served (.inl (List.prefix_nil.mp toFar))
    refine ⟨serves.atMostOnce, ?_, ?_, ?_⟩
    · intro other success
      exact absurd success (failed other)
    · intro read
      exact absurd read unanswered
    · rintro ⟨done, -⟩
      exact absurd done undialed
  · rw [written] at toFar
    have serves := served (.inr ⟨toFar, small⟩)
    refine ⟨serves.atMostOnce, ?_, ?_, ?_⟩
    · intro other success
      exact ⟨outcome.symm.trans success, fun responds => responds.elim⟩
    · intro read
      exact absurd read unanswered
    · rintro ⟨-, -, quiescent⟩
      have bytes := quiescent.toFar
      rw [written] at bytes
      exact ⟨serves.called bytes, outcome⟩

/-- A caller that gets to its request has written it, whatever came back. -/
theorem Asked.written {finish : Bytes → Option (Except (Halt ε) α)} {w : Endpoint S I E X}
    (asked : Asked near dialed answered request finish w) (dials : dialed) :
    near.output w = frame request := by
  cases asked with
  | undialed undialed silent failed unanswered => exact absurd dials undialed
  | unread written small incomplete failed unanswered => exact written
  | undecoded body rest written small bytes fits undecoded => exact written
  | decoded body rest written small bytes fits decoded => exact written

/-- A callee has written nothing, or its response. -/
theorem Served.output_cases {w : Endpoint S' Empty E' X'}
    (served : Served far calls request (some response) expected taken w) :
    far.output w = [] ∨ far.output w = frame response ∧ response.length < frameLimit := by
  cases served with
  | idle bytes uncalled silent => exact .inl silent
  | answered bytes called written fits => exact .inr ⟨written, fits response rfl⟩
  | lost bytes called silent refused => exact .inl silent

/-- A caller has written nothing, or its request. -/
theorem Asked.output_cases {finish : Bytes → Option (Except (Halt ε) α)} {w : Endpoint S I E X}
    (asked : Asked near dialed answered request finish w) :
    near.output w = [] ∨ near.output w = frame request ∧ request.length < frameLimit := by
  cases asked with
  | undialed undialed silent failed unanswered => exact .inl silent
  | unread written small incomplete failed unanswered => exact .inr ⟨written, small⟩
  | undecoded body rest written small bytes fits undecoded => exact .inr ⟨written, small⟩
  | decoded body rest written small bytes fits decoded => exact .inr ⟨written, small⟩

theorem arrives_of_sent {body written bytes : Bytes} (sent : bytes <+: written)
    (one : written = [] ∨ written = frame body ∧ body.length < frameLimit) :
    Arrives body bytes := by
  rcases one with rfl | ⟨rfl, small⟩
  · exact .inl (List.prefix_nil.mp sent)
  · exact .inr ⟨sent, small⟩

/-- If the response is all that the callee writes, and the request all that the caller writes
when nothing but the response arrives, then nothing else ever arrives at either. -/
theorem arrives_of_reachable {start : Duplex S I E X S' E' X'}
    (reachable : Duplex.Reachable near far start now) (nearEmpty : start.near.recv.bytes = [])
    (farEmpty : start.far.recv.bytes = [])
    (asks : ∀ w : Endpoint S I E X, w = { start.near with input := w.input, recv := w.recv } →
      Arrives response w.recv.bytes →
      near.output w = [] ∨ near.output w = frame request ∧ request.length < frameLimit)
    (answers : ∀ w : Endpoint S' Empty E' X', w = { start.far with recv := w.recv } →
      Arrives request w.recv.bytes →
      far.output w = [] ∨ far.output w = frame response ∧ response.length < frameLimit) :
    Arrives response now.near.recv.bytes ∧ Arrives request now.far.recv.bytes := by
  induction reachable with
  | refl => exact ⟨.inl nearEmpty, .inl farEmpty⟩
  | tail reached step ih =>
      obtain ⟨toNear, toFar⟩ := ih
      obtain ⟨nearFrame, farFrame⟩ := Duplex.Reachable.frame reached
      cases step with
      | toFar more extended sent =>
          exact ⟨toNear, arrives_of_sent sent (asks _ nearFrame toNear)⟩
      | toNear more extended sent =>
          exact ⟨arrives_of_sent sent (answers _ farFrame toFar), toFar⟩
      | input more => exact ⟨toNear, toFar⟩

/-! ### One direction at a time -/

/-- Of the two directions, at most one has bytes on the way. -/
def Duplex.OneWay (near : Party S I E X ε α) (far : Party S' Empty E' X' ε' β)
    (now : Duplex S I E X S' E' X') : Prop :=
  now.far.recv.bytes = near.output now.near ∨ now.near.recv.bytes = far.output now.far

/-- While the callee has written nothing, all there is is on the way to it. -/
theorem Duplex.Delivered.oneWay_of_silent (delivered : Duplex.Delivered near far now)
    (silent : far.output now.far = []) : Duplex.OneWay near far now := by
  have toNear := delivered.toNear
  rw [silent] at toNear
  exact .inr ((List.prefix_nil.mp toNear).trans silent.symm)

/-- A caller that writes one request and a loop that serves it take turns. -/
theorem oneWay_of_one {R : Type} {protocol : Protocol E' X' ε' R β}
    {arms : R → Act S' Empty E' X' ε' (Act.Turn Unit β)} (loop : far.act = protocol.serve arms)
    (fresh : now.far.log = []) (delivered : Duplex.Delivered near far now)
    (output : near.output now.near = [] ∨
      near.output now.near = frame request ∧ request.length < frameLimit)
    {parsed : R} (parses : protocol.parse request = .ok parsed) : Duplex.OneWay near far now := by
  have toFar := delivered.toFar
  rcases output with silent | ⟨written, small⟩
  · rw [silent] at toFar
    exact .inl ((List.prefix_nil.mp toFar).trans silent.symm)
  · rw [written] at toFar
    rcases protocol.serve_one arms (.inr ⟨toFar, small⟩) parses with ⟨-, idle⟩ | ⟨whole, -⟩
    · refine delivered.oneWay_of_silent ?_
      rw [Party.output, loop, idle, fresh]
      rfl
    · exact .inl (whole.trans written.symm)

/-! ### Getting through -/

/-- While neither half of the stream has ended, all that is on its way can arrive. -/
def Duplex.Completes (near : Party S I E X ε α) (far : Party S' Empty E' X' ε' β)
    (now : Duplex S I E X S' E' X') : Prop :=
  now.near.recv.fin = none → now.far.recv.fin = none →
    ∃ next, Duplex.Reachable near far now next ∧ Duplex.Quiescent near far next

/-- It can if the near end writes nothing more. -/
theorem Duplex.Delivered.completes (delivered : Duplex.Delivered near far now)
    (settled : ∀ recv, near.output { now.near with recv } = near.output now.near) :
    Duplex.Completes near far now := by
  intro nearOpen farOpen
  have first := delivered.step_deliverFar farOpen
  have second := (delivered.step first).step_deliverNear nearOpen
  refine ⟨(now.deliverFar near).deliverNear far, (Relation.ReflTransGen.single first).tail second,
    ?_, rfl⟩
  exact (settled _).symm

end faithful

/-! ### Many streams -/

/-- Two systems side by side, of which one makes a step. -/
def Beside {A B : Type} (first : A → A → Prop) (second : B → B → Prop) (now next : A × B) : Prop :=
  first now.1 next.1 ∧ next.2 = now.2 ∨ next.1 = now.1 ∧ second now.2 next.2

theorem reachable_beside {A B : Type} {first : A → A → Prop} {second : B → B → Prop}
    {start now : A × B} (reachable : Relation.ReflTransGen (Beside first second) start now) :
    Relation.ReflTransGen first start.1 now.1 ∧ Relation.ReflTransGen second start.2 now.2 := by
  induction reachable with
  | refl => exact ⟨.refl, .refl⟩
  | tail _ step ih =>
      obtain ⟨early, late⟩ := ih
      rcases step with ⟨step, same⟩ | ⟨same, step⟩
      · rw [same]
        exact ⟨early.tail step, late⟩
      · rw [same]
        exact ⟨early, late.tail step⟩

namespace Duplex

variable {ι : Type} {A : ι → Type} (near : (i : ι) → Party S I E X ε (A i))
  (far : ι → Party S' Empty E' X' ε' β)

/-- A delivery on one of several streams. -/
def StepAny (now next : ι → Duplex S I E X S' E' X') : Prop :=
  ∃ i, Step (near i) (far i) (now i) (next i) ∧ ∀ j, j ≠ i → next j = now j

def ReachableAll (start now : ι → Duplex S I E X S' E' X') : Prop :=
  Relation.ReflTransGen (StepAny near far) start now

variable {near far} {start now : ι → Duplex S I E X S' E' X'}

/-- Of several streams, each goes its own way. -/
theorem ReachableAll.stream (reachable : ReachableAll near far start now) (i : ι) :
    Reachable (near i) (far i) (start i) (now i) := by
  induction reachable with
  | refl => exact .refl
  | tail _ step ih =>
      obtain ⟨j, step, others⟩ := step
      by_cases same : i = j
      · subst same
        exact ih.tail step
      · rw [others i same]
        exact ih

end Duplex

end Framing
