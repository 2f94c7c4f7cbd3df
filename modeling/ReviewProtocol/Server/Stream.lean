import ReviewProtocol.Lib.Serve
import ReviewProtocol.Encoding

set_option autoImplicit false

/- The server's unidirectional event streams. A stream is two header bytes and frames,
each of them an event; the loop hands every frame to its handler, as an event or as an
error, and tells it when the stream has ended. -/
namespace ReviewProtocol

open Framing (Bytes Act Endpoint Halt Protocol frame frameLimit)
open Framing.Act (Turn)

/-- A call of a method of `EventStreamHandler`. -/
inductive EventCallback where
  | handleEvent (event : EventMessage)
  | onStreamEnd
  | onError (error : String)
deriving DecidableEq, Repr

structure EventStreamHandler (σ : Type) where
  handleEvent : EventMessage → σ → Except IoError Unit × σ
  onStreamEnd : σ → Except IoError Unit × σ := fun state => (.ok (), state)
  onError : String → σ → Except IoError Unit × σ := fun _ state => (.ok (), state)

abbrev EventStream (σ : Type) := Endpoint σ Empty EventCallback IoError

abbrev EventAct (σ α : Type) := Act σ Empty EventCallback IoError IoError α

namespace EventStreamHandler

variable {σ : Type} (handler : EventStreamHandler σ)

def call : EventCallback → σ → Except IoError Unit × σ
  | .handleEvent event => handler.handleEvent event
  | .onStreamEnd => handler.onStreamEnd
  | .onError error => handler.onError error

/-- One after another, all of these callbacks return `Ok`. -/
inductive Passes : σ → List EventCallback → σ → Prop where
  | none {state} : Passes state [] state
  | more {state callback state' callbacks state''}
      (passed : handler.call callback state = (.ok (), state'))
      (rest : Passes state' callbacks state'') : Passes state (callback :: callbacks) state''

/-- The first of these callbacks that fails is the last that is made. -/
def FailsAt (state : σ) (due made : List EventCallback) (error : IoError) (state' : σ) : Prop :=
  ∃ before callback after between, due = before ++ callback :: after ∧
    made = before ++ [callback] ∧ handler.Passes state before between ∧
    handler.call callback between = (.error error, state')

variable {handler}

theorem Passes.concat {state between state' : σ} {callbacks : List EventCallback}
    {callback : EventCallback} (passes : handler.Passes state callbacks between)
    (passed : handler.call callback between = (.ok (), state')) :
    handler.Passes state (callbacks ++ [callback]) state' := by
  induction passes with
  | none => exact .more passed .none
  | more first _ ih => exact .more first (ih passed)

theorem FailsAt.cons {state between state' : σ} {callback : EventCallback}
    {due made : List EventCallback} {error : IoError}
    (passed : handler.call callback state = (.ok (), between))
    (later : handler.FailsAt between due made error state') :
    handler.FailsAt state (callback :: due) (callback :: made) error state' := by
  obtain ⟨before, failing, after, middle, rfl, rfl, passes, failed⟩ := later
  exact ⟨callback :: before, failing, after, middle, rfl, rfl, .more passed passes, failed⟩

theorem FailsAt.append {state state' : σ} {due made : List EventCallback} {error : IoError}
    (fails : handler.FailsAt state due made error state') (more : List EventCallback) :
    handler.FailsAt state (due ++ more) made error state' := by
  obtain ⟨before, failing, after, middle, rfl, rfl, passes, failed⟩ := fails
  refine ⟨before, failing, after ++ more, middle, ?_, rfl, passes, failed⟩
  rw [List.append_assoc, List.cons_append]

end EventStreamHandler

/-- `quinn::ReadExactError`. -/
inductive ReadExactError where
  | finishedEarly (read : Nat)
  | readError (error : IoError)

def fromReadExactErrorToIoError : ReadExactError → IoError
  | .finishedEarly _ => .simple .unexpectedEof
  | .readError error => error

/-- What `read_exact` makes of the end of a stream, by whether the peer finished it. -/
def ReadExactError.ofEnd (error : IoError) (used : Bytes) : ReadExactError :=
  if error.kind = .unexpectedEof then .finishedEarly used.length else .readError error

section stream

-- the `Display` text of the error that these bytes are refused with
variable (describe : Bytes → String)

/-- `borrow_decode_from_slice`, which leaves bytes after the value alone, and the callback
that its result is for. -/
def eventCallback (body : Bytes) : EventCallback :=
  match Encoding.readEventMessage.run body with
  | .ok (event, _) => .handleEvent event
  | .error _ => .onError ("decoding error: " ++ describe body)

def eventProtocol : Protocol EventCallback IoError IoError EventCallback Unit where
  parse body := .ok (eventCallback describe body)
  event := id
  ended error := if error.kind = .unexpectedEof then .ok () else .error error

variable {σ : Type} (handler : EventStreamHandler σ)

def runCallback (callback : EventCallback) : EventAct σ Unit := do
  let result ← Act.update (handler.call callback)
  Act.orFail id result

def eventArm (callback : EventCallback) : EventAct σ (Turn Unit Unit) := do
  runCallback handler callback
  pure (.next ())

def eventLoop : EventAct σ Unit := (eventProtocol describe).serve (eventArm handler)

def streamEnded : EventAct σ Unit := do
  Act.emit .onStreamEnd
  runCallback handler .onStreamEnd

/-- The loop leaves off at the end of the stream, and then the handler is told. -/
def processEventStream : EventAct σ Unit := do
  match ← Act.readExact 2 with
  | .error (error, used) => Act.fail (fromReadExactErrorToIoError (.ofEnd error used))
  | .ok _header => do
      eventLoop describe handler
      streamEnded handler

variable {handler}

theorem run_callback_ok {w : EventStream σ} {callback : EventCallback} {state : σ}
    (passed : handler.call callback w.state = (.ok (), state)) :
    (runCallback handler callback).run w = (.ok (), { w with state := state }) := by
  simp only [runCallback, Act.run_bind, Act.update, passed, Act.andThen_ok, Act.orFail]
  rfl

theorem run_callback_error {w : EventStream σ} {callback : EventCallback} {error : IoError}
    {state : σ} (failed : handler.call callback w.state = (.error error, state)) :
    (runCallback handler callback).run w = (.error (.failed error), { w with state := state }) := by
  simp only [runCallback, Act.run_bind, Act.update, failed, Act.andThen_ok, Act.orFail]
  rfl

/-- A callback returns, with `Ok` or with an error. -/
theorem call_cases (handler : EventStreamHandler σ) (callback : EventCallback) (state : σ) :
    (∃ state', handler.call callback state = (.ok (), state')) ∨
    (∃ error state', handler.call callback state = (.error error, state')) := by
  rcases answer : handler.call callback state with ⟨error | ⟨⟩, state'⟩
  · exact .inr ⟨error, state', rfl⟩
  · exact .inl ⟨state', rfl⟩

variable {describe}

theorem run_event_ok {w : EventStream σ} {callback : EventCallback} {state : σ}
    (passed : handler.call callback w.state = (.ok (), state)) :
    (eventArm handler callback).run w = (.ok (.next ()), { w with state := state }) := by
  rw [eventArm, Act.run_bind, run_callback_ok passed, Act.andThen_ok, Act.run_pure]

theorem run_event_error {w : EventStream σ} {callback : EventCallback} {error : IoError}
    {state : σ} (failed : handler.call callback w.state = (.error error, state)) :
    (eventArm handler callback).run w = (.error (.failed error), { w with state := state }) := by
  rw [eventArm, Act.run_bind, run_callback_error failed, Act.andThen_error]

/-- Where the loop stands after callbacks that all returned `Ok`. -/
structure Passed (handler : EventStreamHandler σ) (w w' : EventStream σ)
    (made : List EventCallback) : Prop where
  log : w'.log = w.log ++ made
  passes : handler.Passes w.state made w'.state
  fin : w'.recv.fin = w.recv.fin

/-- Where the loop stands after a callback that failed. -/
structure Stopped (handler : EventStreamHandler σ) (w w' : EventStream σ)
    (due : List EventCallback) (error : IoError) : Prop where
  made : ∃ made, w'.log = w.log ++ made ∧ handler.FailsAt w.state due made error w'.state

/-- The loop once the callback for a frame has returned. -/
def afterFrame (w : EventStream σ) (rest : Bytes) (callback : EventCallback) (state : σ) :
    EventStream σ :=
  { w with state := state, recv.bytes := rest, log := w.log ++ [callback] }

theorem run_eventLoop_ok {w : EventStream σ} {body rest : Bytes} {state : σ}
    (bytes : w.recv.bytes = frame body ++ rest) (fits : body.length < frameLimit)
    (passed : handler.call (eventCallback describe body) w.state = (.ok (), state)) :
    (eventLoop describe handler).run w =
      (eventLoop describe handler).run (afterFrame w rest (eventCallback describe body) state) := by
  unfold eventLoop
  rw [(eventProtocol describe).serve_request (eventArm handler) bytes fits rfl]
  have arm := run_event_ok
    (w := (eventProtocol describe).atRequest w rest (eventCallback describe body)) passed
  rw [arm]
  rfl

theorem run_eventLoop_error {w : EventStream σ} {body rest : Bytes} {error : IoError} {state : σ}
    (bytes : w.recv.bytes = frame body ++ rest) (fits : body.length < frameLimit)
    (failed : handler.call (eventCallback describe body) w.state = (.error error, state)) :
    (eventLoop describe handler).run w =
      (.error (.failed error), afterFrame w rest (eventCallback describe body) state) := by
  unfold eventLoop
  rw [(eventProtocol describe).serve_request (eventArm handler) bytes fits rfl]
  have arm := run_event_error
    (w := (eventProtocol describe).atRequest w rest (eventCallback describe body)) failed
  rw [arm]
  rfl

/-- Frame by frame, the loop makes the callbacks that are due, up to the first that
fails. -/
theorem run_eventLoop_frames (describe : Bytes → String) (handler : EventStreamHandler σ)
    {bodies : List Bytes}
    (fits : ∀ body ∈ bodies, body.length < frameLimit) {rest : Bytes} {w : EventStream σ}
    (bytes : w.recv.bytes = bodies.flatMap frame ++ rest) :
    (∃ w', Passed handler w w' (bodies.map (eventCallback describe)) ∧ w'.recv.bytes = rest ∧
      (eventLoop describe handler).run w = (eventLoop describe handler).run w') ∨
    (∃ w' error, Stopped handler w w' (bodies.map (eventCallback describe)) error ∧
      (eventLoop describe handler).run w = (.error (.failed error), w')) := by
  induction bodies generalizing w with
  | nil =>
      refine .inl ⟨w, ⟨?_, .none, rfl⟩, bytes, rfl⟩
      rw [List.map_nil, List.append_nil]
  | cons body bodies ih =>
      rw [List.flatMap_cons, List.append_assoc] at bytes
      have small : body.length < frameLimit := fits body List.mem_cons_self
      have later : ∀ other ∈ bodies, other.length < frameLimit :=
        fun other member => fits other (List.mem_cons_of_mem _ member)
      rcases call_cases handler (eventCallback describe body) w.state with
        ⟨state, passed⟩ | ⟨error, state, failed⟩
      · rw [run_eventLoop_ok bytes small passed]
        rcases ih later (w := afterFrame w _ (eventCallback describe body) state) rfl with
          ⟨w', ⟨log, passes, fin⟩, left, same⟩ | ⟨w', error, ⟨made, log, fails⟩, same⟩
        · refine .inl ⟨w', ⟨?_, .more passed passes, fin⟩, left, same⟩
          rw [log, afterFrame, List.append_assoc, List.map_cons, List.singleton_append]
        · refine .inr
            ⟨w', error, ⟨eventCallback describe body :: made, ?_, fails.cons passed⟩, same⟩
          rw [log, afterFrame, List.append_assoc, List.singleton_append]
      · rw [run_eventLoop_error bytes small failed]
        refine .inr ⟨_, error, ⟨[eventCallback describe body], rfl, ?_⟩, rfl⟩
        exact ⟨[], _, bodies.map (eventCallback describe), w.state, rfl, rfl, .none, failed⟩

theorem run_eventLoop_end {w : EventStream σ} {error : IoError}
    (incomplete : Framing.splitFrame w.recv.bytes = none) (fin : w.recv.fin = some error)
    (eof : error.kind = .unexpectedEof) :
    (eventLoop describe handler).run w = (.ok (), { w with recv.bytes := [] }) := by
  unfold eventLoop
  rw [(eventProtocol describe).serve_end (eventArm handler) incomplete fin]
  simp only [eventProtocol, if_pos eof, Protocol.stopped]

theorem run_processEventStream {header rest : Bytes} (two : header.length = 2)
    {w : EventStream σ} (bytes : w.recv.bytes = header ++ rest) :
    (processEventStream describe handler).run w =
      Act.andThen ((eventLoop describe handler).run { w with recv.bytes := rest })
        fun _ => streamEnded handler := by
  rcases Act.run_readExact_cases (ε := IoError) 2 w with
    ⟨front, left, split, size, read⟩ | ⟨error, -, short, -⟩ | ⟨-, short, -⟩
  · rw [bytes] at split
    obtain ⟨-, rfl⟩ := List.append_inj split (two.trans size.symm)
    simp only [processEventStream, Act.run_bind, read, Act.andThen_ok]
  · rw [bytes, List.length_append] at short
    omega
  · rw [bytes, List.length_append] at short
    omega

theorem eventCallback_ne_onStreamEnd (describe : Bytes → String) (body : Bytes) :
    eventCallback describe body ≠ .onStreamEnd := by
  unfold eventCallback
  split
  · nofun
  · nofun

/-- An event is handed on as it was encoded, whatever follows it in its frame. -/
theorem eventCallback_encode (event : EventMessage) (extra : Bytes)
    (fits : (Encoding.encodeEventMessage event ++ extra).length < frameLimit) :
    eventCallback describe (Encoding.encodeEventMessage event ++ extra) = .handleEvent event := by
  have small : event.fields.length < Bincode.limit64 := by
    simp only [Encoding.encodeEventMessage, List.length_append] at fits
    unfold frameLimit at fits
    unfold Bincode.limit64
    omega
  rw [eventCallback, Encoding.run_readEventMessage event extra small]

/-- A callback of the loop is one more, and leaves the handler in the state it returned. -/
theorem eventArm_cases {w w' : EventStream σ} {body rest : Bytes}
    {outcome : Except (Halt IoError) (Turn Unit Unit)}
    (ran : (eventArm handler (eventCallback describe body)).run
      ((eventProtocol describe).atRequest w rest (eventCallback describe body)) = (outcome, w')) :
    w'.log = w.log ++ [eventCallback describe body] ∧ w'.recv.fin = w.recv.fin ∧
      (outcome = .ok (.next ()) ∧
          handler.call (eventCallback describe body) w.state = (.ok (), w'.state) ∨
        ∃ error, outcome = .error (.failed error)) := by
  rcases call_cases handler (eventCallback describe body) w.state with
    ⟨state, passed⟩ | ⟨error, state, failed⟩
  · rw [run_event_ok (w := (eventProtocol describe).atRequest w rest _) passed] at ran
    cases ran
    exact ⟨rfl, rfl, .inl ⟨rfl, passed⟩⟩
  · rw [run_event_error (w := (eventProtocol describe).atRequest w rest _) failed] at ran
    cases ran
    exact ⟨rfl, rfl, .inr ⟨error, rfl⟩⟩

/-- Whatever arrives, the loop itself never tells the handler that the stream has ended,
and leaves off without an error only at the end of a finished stream, after callbacks that
all returned `Ok`. -/
theorem run_eventLoop_sound (describe : Bytes → String) (handler : EventStreamHandler σ)
    (v : EventStream σ) :
    ∃ made, EventCallback.onStreamEnd ∉ made ∧
      ((eventLoop describe handler).run v).2.log = v.log ++ made ∧
      (((eventLoop describe handler).run v).1 = .ok () →
        handler.Passes v.state made ((eventLoop describe handler).run v).2.state ∧
        ∃ error, v.recv.fin = some error ∧ error.kind = .unexpectedEof) := by
  -- between two frames, only callbacks that passed have been made
  apply @Protocol.serve_rule _ _ _ _ _ _ _ (eventProtocol describe) (eventArm handler)
    (fun w => ∃ made, EventCallback.onStreamEnd ∉ made ∧ Passed handler v w made)
    (fun outcome => ∃ made, EventCallback.onStreamEnd ∉ made ∧
      outcome.2.log = v.log ++ made ∧
      (outcome.1 = .ok () → handler.Passes v.state made outcome.2.state ∧
        ∃ error, v.recv.fin = some error ∧ error.kind = .unexpectedEof))
  · rintro w body rest callback w' ⟨made, absent, log, passes, fin⟩ - parsed ran
    cases parsed
    obtain ⟨log', fin', ⟨-, passed⟩ | ⟨error, failed⟩⟩ := eventArm_cases ran
    · refine ⟨made ++ [eventCallback describe body], ?_, ?_, passes.concat passed, fin'.trans fin⟩
      · have fresh := eventCallback_ne_onStreamEnd describe body
        simp only [List.mem_append, List.mem_singleton, not_or]
        exact ⟨absent, fresh.symm⟩
      · rw [log', log, List.append_assoc]
    · cases failed
  · rintro w body rest callback value w' - - parsed ran
    cases parsed
    obtain ⟨-, -, ⟨other, -⟩ | ⟨error, failed⟩⟩ := eventArm_cases ran
    · cases other
    · cases failed
  · rintro w body rest callback halt w' ⟨made, absent, log, -, -⟩ - parsed ran
    cases parsed
    obtain ⟨log', -, -⟩ := eventArm_cases ran
    refine ⟨made ++ [eventCallback describe body], ?_, ?_, nofun⟩
    · have fresh := eventCallback_ne_onStreamEnd describe body
      simp only [List.mem_append, List.mem_singleton, not_or]
      exact ⟨absent, fresh.symm⟩
    · rw [log', log, List.append_assoc]
  · rintro w error rest ⟨made, absent, log, passes, fin⟩ ends
    refine ⟨made, absent, log, ?_⟩
    intro finished
    rcases ends with ⟨ended, -⟩ | ⟨body, -, refused⟩
    · by_cases eof : error.kind = .unexpectedEof
      · exact ⟨passes, error, fin.symm.trans ended, eof⟩
      · simp only [Protocol.stopped, eventProtocol, if_neg eof] at finished
        cases finished
    · cases refused
  · rintro w ⟨made, absent, log, -, -⟩ -
    exact ⟨made, absent, log, nofun⟩
  · exact ⟨[], List.not_mem_nil, (List.append_nil _).symm, .none, rfl⟩

theorem run_streamEnded (handler : EventStreamHandler σ) (w : EventStream σ) :
    ((streamEnded handler).run w).2.log = w.log ++ [.onStreamEnd] ∧
      ((∃ state, handler.call .onStreamEnd w.state = (.ok (), state) ∧
          ((streamEnded handler).run w).1 = .ok () ∧
            ((streamEnded handler).run w).2.state = state) ∨
        ∃ error state, handler.call .onStreamEnd w.state = (.error error, state) ∧
          ((streamEnded handler).run w).1 = .error (.failed error) ∧
          ((streamEnded handler).run w).2.state = state) := by
  simp only [streamEnded, Act.run_bind, Act.emit, Act.andThen_ok]
  rcases call_cases handler .onStreamEnd w.state with ⟨state, passed⟩ | ⟨error, state, failed⟩
  · rw [run_callback_ok (w := { w with log := w.log ++ [.onStreamEnd] }) passed]
    exact ⟨rfl, .inl ⟨state, passed, rfl, rfl⟩⟩
  · rw [run_callback_error (w := { w with log := w.log ++ [.onStreamEnd] }) failed]
    exact ⟨rfl, .inr ⟨error, state, failed, rfl, rfl⟩⟩

variable (describe)

/-- The callbacks due on a finished stream of these frames. -/
def callbacksDue (bodies : List Bytes) : List EventCallback :=
  bodies.map (eventCallback describe) ++ [.onStreamEnd]

/-- All callbacks are made and return `Ok`, or they are made up to the first that fails,
and its error is the result. -/
def Delivers (handler : EventStreamHandler σ) (w : EventStream σ) (due : List EventCallback)
    (outcome : Except (Halt IoError) Unit × EventStream σ) : Prop :=
  (outcome.1 = .ok () ∧ outcome.2.log = w.log ++ due ∧
    handler.Passes w.state due outcome.2.state) ∨
  (∃ error made, outcome.1 = .error (.failed error) ∧ outcome.2.log = w.log ++ made ∧
    handler.FailsAt w.state due made error outcome.2.state)

variable {describe}

/-- A finished stream is delivered, and what is left of a frame at its end does not show. -/
theorem processEventStream_delivers {header : Bytes} (two : header.length = 2)
    {bodies : List Bytes} (fits : ∀ body ∈ bodies, body.length < frameLimit) {rest : Bytes}
    (incomplete : Framing.splitFrame rest = none) {w : EventStream σ} {error : IoError}
    (bytes : w.recv.bytes = header ++ (bodies.flatMap frame ++ rest))
    (fin : w.recv.fin = some error) (eof : error.kind = .unexpectedEof) :
    Delivers handler w (callbacksDue describe bodies)
      ((processEventStream describe handler).run w) := by
  rw [run_processEventStream two bytes]
  rcases run_eventLoop_frames describe handler fits
      (w := { w with recv.bytes := bodies.flatMap frame ++ rest }) rfl with
    ⟨w', ⟨log, passes, kept⟩, left, same⟩ | ⟨w', failure, ⟨made, log, fails⟩, same⟩
  · have incomplete' : Framing.splitFrame w'.recv.bytes = none := by rw [left, incomplete]
    rw [same, run_eventLoop_end incomplete' (kept.trans fin) eof, Act.andThen_ok]
    obtain ⟨log', ⟨state, passed, result, final⟩ | ⟨failure, state, failed, result, final⟩⟩ :=
      run_streamEnded handler { w' with recv.bytes := [] }
    · refine .inl ⟨result, ?_, ?_⟩
      · rw [log', log, List.append_assoc, callbacksDue]
      · rw [final]
        exact passes.concat passed
    · refine .inr ⟨failure, callbacksDue describe bodies, result, ?_, ?_⟩
      · rw [log', log, List.append_assoc, callbacksDue]
      · rw [final]
        exact ⟨bodies.map (eventCallback describe), .onStreamEnd, [], w'.state, rfl, rfl, passes,
          failed⟩
  · rw [same, Act.andThen_error]
    exact .inr ⟨failure, made, rfl, log, fails.append _⟩

/-- A stream without its two header bytes gets no callback. -/
theorem processEventStream_headless {v : EventStream σ} (short : v.recv.bytes.length < 2) :
    ((processEventStream describe handler).run v).2.log = v.log := by
  rcases Act.run_readExact_cases (ε := IoError) 2 v with
    ⟨front, left, split, size, -⟩ | ⟨error, -, -, read⟩ | ⟨-, -, read⟩
  · rw [split, List.length_append, size] at short
    omega
  · simp only [processEventStream, Act.run_bind, read, Act.andThen_ok, Act.fail]
  · simp only [processEventStream, Act.run_bind, read, Act.andThen_error]

/-- The handler is told of the end once, after callbacks that all returned `Ok`, and only
when the peer has finished the stream. -/
theorem onStreamEnd_last {v : EventStream σ} {made : List EventCallback}
    (log : ((processEventStream describe handler).run v).2.log = v.log ++ made)
    (told : .onStreamEnd ∈ made) :
    (∃ error, v.recv.fin = some error ∧ error.kind = .unexpectedEof) ∧
      ∃ before state, made = before ++ [.onStreamEnd] ∧ .onStreamEnd ∉ before ∧
        handler.Passes v.state before state := by
  by_cases short : v.recv.bytes.length < 2
  · rw [processEventStream_headless short] at log
    have none : made = [] := List.append_cancel_left (log.symm.trans (List.append_nil _).symm)
    rw [none] at told
    cases told
  · have two : (v.recv.bytes.take 2).length = 2 := by
      rw [List.length_take]
      omega
    have bytes : v.recv.bytes = v.recv.bytes.take 2 ++ v.recv.bytes.drop 2 :=
      (List.take_append_drop 2 _).symm
    rw [run_processEventStream two bytes] at log
    obtain ⟨before, absent, earlier, sound⟩ := run_eventLoop_sound describe handler
      { v with recv.bytes := v.recv.bytes.drop 2 }
    rcases ran : (eventLoop describe handler).run { v with recv.bytes := v.recv.bytes.drop 2 } with
      ⟨halt | ⟨⟩, w⟩
    · rw [ran] at log earlier
      rw [Act.andThen_error] at log
      rw [List.append_cancel_left (earlier.symm.trans log)] at absent
      exact absurd told absent
    · rw [ran] at log earlier sound
      obtain ⟨passes, finished⟩ := sound rfl
      have whole : v.log ++ made = v.log ++ (before ++ [.onStreamEnd]) := by
        rw [← log, Act.andThen_ok, (run_streamEnded handler w).1, earlier, List.append_assoc]
      exact ⟨finished, before, w.state, List.append_cancel_left whole, absent, passes⟩

/-- Frames that end with the stream: every frame is handed on once and in order, as the
event that its sender encoded or as an error, up to the first callback that fails; if none
does, the end of the stream is the last callback. On no stream at all is the end called
after a failure. -/
theorem event_stream_delivery (describe : Bytes → String) (handler : EventStreamHandler σ)
    (header : Bytes) (two : header.length = 2) (bodies : List Bytes)
    (fits : ∀ body ∈ bodies, body.length < frameLimit) (w : EventStream σ) (error : IoError)
    (bytes : w.recv.bytes = header ++ bodies.flatMap frame) (fin : w.recv.fin = some error)
    (eof : error.kind = .unexpectedEof) :
    Delivers handler w (callbacksDue describe bodies)
        ((processEventStream describe handler).run w) ∧
      (∀ event extra, Encoding.encodeEventMessage event ++ extra ∈ bodies →
        eventCallback describe (Encoding.encodeEventMessage event ++ extra) = .handleEvent event) ∧
      ∀ (v : EventStream σ) (made : List EventCallback),
        ((processEventStream describe handler).run v).2.log = v.log ++ made →
        .onStreamEnd ∈ made →
        (∃ error, v.recv.fin = some error ∧ error.kind = .unexpectedEof) ∧
        ∃ before state, made = before ++ [.onStreamEnd] ∧ .onStreamEnd ∉ before ∧
          handler.Passes v.state before state := by
  have bytes' : w.recv.bytes = header ++ (bodies.flatMap frame ++ []) := by
    rw [List.append_nil, bytes]
  refine ⟨processEventStream_delivers two fits rfl bytes' fin eof, ?_, ?_⟩
  · intro event extra member
    exact eventCallback_encode event extra (fits _ member)
  · intro v made log told
    exact onStreamEnd_last log told

/-- A handler that keeps the events and refuses the third. -/
def sampleCollector : EventStreamHandler (List EventMessage) where
  handleEvent event state :=
    if state.length < 2 then (.ok (), state ++ [event]) else (.error (.simple .other), state)

def sampleEvent : EventMessage := ⟨⟨-1, by decide, by decide⟩, .httpThreat, [118, 97, 108]⟩

/-- One event, fifty bytes of nothing, and the event again with a byte behind it. -/
def sampleBodies : List Bytes :=
  [Encoding.encodeEventMessage sampleEvent, List.replicate 50 255,
    Encoding.encodeEventMessage sampleEvent ++ [7]]

def sampleStream : EventStream (List EventMessage) where
  state := []
  input := []
  recv := ⟨[0, 0] ++ sampleBodies.flatMap frame, some (.simple .unexpectedEof)⟩
  send := .healthy (.simple .invalidInput)
  log := []

theorem event_stream_delivery_sample :
    callbacksDue (fun _ => "") sampleBodies =
        [.handleEvent sampleEvent, .onError "decoding error: ", .handleEvent sampleEvent,
          .onStreamEnd] ∧
      Delivers sampleCollector sampleStream (callbacksDue (fun _ => "") sampleBodies)
        ((processEventStream (fun _ => "") sampleCollector).run sampleStream) := by
  refine ⟨by decide +kernel, ?_⟩
  have fits : ∀ body ∈ sampleBodies, body.length < frameLimit := by decide +kernel
  exact (event_stream_delivery (fun _ => "") sampleCollector [0, 0] rfl sampleBodies fits
    sampleStream (.simple .unexpectedEof) rfl rfl rfl).1

end stream

end ReviewProtocol
