import ReviewProtocol.Lib.Framing

set_option autoImplicit false

/- Sequential code at one end of a stream. An action either finishes, fails, or
waits for input that has not arrived. Two facts hold of every action by
construction: it only reads forward and only adds to its log, and what it did on
the input so far is what it does first when more input has arrived. -/
namespace Framing

/-- One party: its own state, local inputs not yet taken, both stream halves, and
the log of what it has done, oldest first. -/
structure Endpoint (S I E X : Type) where
  state : S
  input : List I
  recv : RecvStream X
  send : SendStream X
  log : List E

namespace Endpoint

variable {S I E X : Type}

/-- `after` is reached from `before` by reading forward and logging. -/
structure Progress (before after : Endpoint S I E X) : Prop where
  bytes : after.recv.bytes <:+ before.recv.bytes
  fin : after.recv.fin = before.recv.fin
  outcome : after.send.outcome = before.send.outcome
  log : before.log <+: after.log

theorem Progress.refl (w : Endpoint S I E X) : Progress w w :=
  ⟨List.suffix_rfl, rfl, rfl, List.prefix_rfl⟩

theorem Progress.trans {u v w : Endpoint S I E X} (first : Progress u v) (second : Progress v w) :
    Progress u w :=
  ⟨second.bytes.trans first.bytes, second.fin.trans first.fin,
    second.outcome.trans first.outcome, first.log.trans second.log⟩

theorem Progress.bytes_le {before after : Endpoint S I E X} (progress : Progress before after) :
    after.recv.bytes.length ≤ before.recv.bytes.length :=
  progress.bytes.length_le

/-- `more` differs from `w` only in having received more. -/
structure Extends (w more : Endpoint S I E X) : Prop where
  state : more.state = w.state
  input : w.input <+: more.input
  recv : more.recv = w.recv ∨ w.recv.Extends more.recv
  send : more.send = w.send
  log : more.log = w.log

theorem Extends.refl (w : Endpoint S I E X) : Extends w w :=
  ⟨rfl, List.prefix_rfl, .inl rfl, rfl, rfl⟩

/-- The party with more on its stream, which may also have ended behind it. -/
def followed (w : Endpoint S I E X) (more : Bytes) (fin : Option X) : Endpoint S I E X :=
  { w with recv := ⟨w.recv.bytes ++ more, fin⟩ }

end Endpoint

open Endpoint (Progress)

/-- The outcome on more input agrees with the outcome on less. -/
def Streams {S I E X ε α : Type} (less more : Except (Halt ε) α × Endpoint S I E X) : Prop :=
  match less with
  | (.error .pending, w) => w.log <+: more.2.log
  | (.error (.failed error), w) => more.1 = .error (.failed error) ∧ w.Extends more.2
  | (.ok value, w) => more.1 = .ok value ∧ w.Extends more.2

@[ext] structure Act (S I E X ε α : Type) where
  run : Endpoint S I E X → Except (Halt ε) α × Endpoint S I E X
  progress : ∀ w, Progress w (run w).2
  streams : ∀ w more, w.Extends more → Streams (run w) (run more)

namespace Act

variable {S I E X ε α β A : Type}

protected def pure (value : α) : Act S I E X ε α where
  run w := (.ok value, w)
  progress w := Progress.refl w
  streams _ _ extended := ⟨rfl, extended⟩

/-- Runs the continuation on a finished outcome. -/
def andThen (outcome : Except (Halt ε) α × Endpoint S I E X) (next : α → Act S I E X ε β) :
    Except (Halt ε) β × Endpoint S I E X :=
  match outcome with
  | (.ok value, w) => (next value).run w
  | (.error halt, w) => (.error halt, w)

theorem andThen_progress (outcome : Except (Halt ε) α × Endpoint S I E X)
    (next : α → Act S I E X ε β) : Progress outcome.2 (andThen outcome next).2 := by
  obtain ⟨_ | value, w⟩ := outcome
  · exact Progress.refl w
  · exact (next value).progress w

theorem andThen_streams {less more : Except (Halt ε) α × Endpoint S I E X}
    (agree : Streams less more) (next : α → Act S I E X ε β) :
    Streams (andThen less next) (andThen more next) := by
  obtain ⟨_ | value, w⟩ := less
  · rename_i halt
    cases halt with
    | pending => exact List.IsPrefix.trans agree (andThen_progress more next).log
    | failed error =>
        obtain ⟨_, w'⟩ := more
        obtain ⟨rfl, extended⟩ := agree
        exact ⟨rfl, extended⟩
  · obtain ⟨_, w'⟩ := more
    obtain ⟨rfl, extended⟩ := agree
    exact (next value).streams w w' extended

protected def bind (first : Act S I E X ε α) (next : α → Act S I E X ε β) : Act S I E X ε β where
  run w := andThen (first.run w) next
  progress w := (first.progress w).trans (andThen_progress _ next)
  streams w more extended := andThen_streams (first.streams w more extended) next

instance : Monad (Act S I E X ε) where
  pure := Act.pure
  bind := Act.bind

@[simp] theorem run_pure (value : α) (w : Endpoint S I E X) :
    (pure value : Act S I E X ε α).run w = (.ok value, w) := rfl

@[simp] theorem run_bind (first : Act S I E X ε α) (next : α → Act S I E X ε β)
    (w : Endpoint S I E X) : (first >>= next).run w = andThen (first.run w) next := rfl

theorem bind_pure (act : Act S I E X ε α) : act >>= pure = act := by
  apply Act.ext
  funext w
  rw [run_bind]
  rcases act.run w with ⟨halt | value, w'⟩
  · rfl
  · rfl

@[simp] theorem andThen_ok (value : α) (w : Endpoint S I E X) (next : α → Act S I E X ε β) :
    andThen (.ok value, w) next = (next value).run w := rfl

@[simp] theorem andThen_error (halt : Halt ε) (w : Endpoint S I E X)
    (next : α → Act S I E X ε β) :
    andThen (.error halt, w) next = (.error halt, w) := rfl

theorem andThen_pure (outcome : Except (Halt ε) α × Endpoint S I E X) (wrap : α → β) :
    andThen outcome (pure ∘ wrap) = (outcome.1.map wrap, outcome.2) := by
  obtain ⟨halt | value, w⟩ := outcome
  · rfl
  · rfl

/-- Ends the action with an error. -/
def fail (error : ε) : Act S I E X ε α where
  run w := (.error (.failed error), w)
  progress w := Progress.refl w
  streams _ _ extended := ⟨rfl, extended⟩

/-- Adds an entry to the log. -/
def emit (event : E) : Act S I E X ε Unit where
  run w := (.ok (), { w with log := w.log ++ [event] })
  progress w := ⟨List.suffix_rfl, rfl, rfl, List.prefix_append _ _⟩
  streams w more extended := by
    refine ⟨rfl, extended.state, extended.input, extended.recv, extended.send, ?_⟩
    dsimp only
    rw [extended.log]

/-- Runs a state transformer of the party's own. -/
def update (change : S → α × S) : Act S I E X ε α where
  run w := (.ok (change w.state).1, { w with state := (change w.state).2 })
  progress w := ⟨List.suffix_rfl, rfl, rfl, List.prefix_rfl⟩
  streams w more extended := by
    obtain ⟨state, input, recv, send, log⟩ := extended
    dsimp only [Streams]
    rw [state]
    exact ⟨rfl, rfl, input, recv, send, log⟩

/-- Takes the next local input, or waits for one. The input may be put back in
part. -/
def take (use : I → α × Option I) : Act S I E X ε α where
  run w :=
    match w.input with
    | [] => (.error .pending, w)
    | next :: rest => (.ok (use next).1, { w with input := (use next).2.toList ++ rest })
  progress w := by
    split
    · exact Progress.refl w
    · exact ⟨List.suffix_rfl, rfl, rfl, List.prefix_rfl⟩
  streams w more extended := by
    obtain ⟨state, ⟨tail, input⟩, recv, send, log⟩ := extended
    rw [← input]
    cases w.input with
    | nil =>
        dsimp only [Streams]
        rw [← log]
        split <;> exact List.prefix_rfl
    | cons next rest =>
        refine ⟨rfl, state, ⟨tail, ?_⟩, recv, send, log⟩
        exact List.append_assoc _ rest tail

/-- Waits until something of the stream has arrived. -/
def arrival : Act S I E X ε Unit where
  run w :=
    if w.recv.bytes = [] ∧ w.recv.fin.isNone then (.error .pending, w) else (.ok (), w)
  progress w := by
    split <;> exact Progress.refl w
  streams w more extended := by
    by_cases nothing : w.recv.bytes = [] ∧ w.recv.fin.isNone
    · rw [if_pos nothing]
      dsimp only [Streams]
      rw [← extended.log]
      split <;> exact List.prefix_rfl
    · have something : ¬ (more.recv.bytes = [] ∧ more.recv.fin.isNone) := by
        rcases extended.recv with same | ⟨unfinished, bytes⟩
        · rwa [same]
        · rintro ⟨empty, -⟩
          rw [empty] at bytes
          exact nothing ⟨List.prefix_nil.mp bytes, by rw [unfinished]; rfl⟩
      rw [if_neg nothing, if_neg something]
      exact ⟨rfl, extended⟩

/-- Either nothing has arrived yet, or the action goes on. -/
theorem run_arrival_cases (w : Endpoint S I E X) :
    (w.recv.bytes = [] ∧ w.recv.fin = none ∧
      (arrival : Act S I E X ε Unit).run w = (.error .pending, w)) ∨
    (arrival : Act S I E X ε Unit).run w = (.ok (), w) := by
  by_cases nothing : w.recv.bytes = [] ∧ w.recv.fin.isNone
  · exact .inl ⟨nothing.1, Option.isNone_iff_eq_none.mp nothing.2, if_pos nothing⟩
  · exact .inr (if_neg nothing)

/-- Reads exactly so many bytes, or waits for them. A transport failure is a value, with
the bytes that the read used up. -/
def readExact (count : Nat) : Act S I E X ε (Except (X × Bytes) Bytes) where
  run w :=
    if count ≤ w.recv.bytes.length then
      (.ok (.ok (w.recv.bytes.take count)), { w with recv.bytes := w.recv.bytes.drop count })
    else
      match w.recv.fin with
      | some error => (.ok (.error (error, w.recv.bytes)), { w with recv.bytes := [] })
      | none => (.error .pending, w)
  progress w := by
    split
    · exact ⟨List.drop_suffix _ _, rfl, rfl, List.prefix_rfl⟩
    · split
      · exact ⟨List.nil_suffix, rfl, rfl, List.prefix_rfl⟩
      · exact Progress.refl w
  streams w more extended := by
    obtain ⟨state, input, recv, send, log⟩ := extended
    rcases recv with same | ⟨unfinished, tail, bytes⟩
    · rw [same]
      split
      · exact ⟨rfl, state, input, .inl rfl, send, log⟩
      · split
        · exact ⟨rfl, state, input, .inl rfl, send, log⟩
        · dsimp only [Streams]
          rw [log]
    · by_cases enough : count ≤ w.recv.bytes.length
      · have still : count ≤ more.recv.bytes.length := by
          rw [← bytes, List.length_append]
          omega
        rw [if_pos enough, if_pos still, ← bytes, List.take_append_of_le_length enough,
          List.drop_append_of_le_length enough]
        exact ⟨rfl, state, input, .inr ⟨unfinished, List.prefix_append _ _⟩, send, log⟩
      · rw [if_neg enough, unfinished]
        dsimp only [Streams]
        rw [← log]
        split
        · exact List.prefix_rfl
        · split <;> exact List.prefix_rfl

/-- A read finds its bytes, meets the end, or waits. -/
theorem run_readExact_cases (count : Nat) (w : Endpoint S I E X) :
    (∃ front rest, w.recv.bytes = front ++ rest ∧ front.length = count ∧
      (readExact count : Act S I E X ε _).run w =
        (.ok (.ok front), { w with recv.bytes := rest })) ∨
    (∃ error, w.recv.fin = some error ∧ w.recv.bytes.length < count ∧
      (readExact count : Act S I E X ε _).run w =
        (.ok (.error (error, w.recv.bytes)), { w with recv.bytes := [] })) ∨
    (w.recv.fin = none ∧ w.recv.bytes.length < count ∧
      (readExact count : Act S I E X ε _).run w = (.error .pending, w)) := by
  by_cases enough : count ≤ w.recv.bytes.length
  · refine .inl ⟨w.recv.bytes.take count, w.recv.bytes.drop count, ?_, ?_, if_pos enough⟩
    · exact (List.take_append_drop _ _).symm
    · rw [List.length_take]
      omega
  · have short : w.recv.bytes.length < count := by omega
    cases fin : w.recv.fin with
    | some error =>
        refine .inr (.inl ⟨error, rfl, short, ?_⟩)
        simp only [readExact, if_neg enough, fin]
    | none =>
        refine .inr (.inr ⟨rfl, short, ?_⟩)
        simp only [readExact, if_neg enough, fin]

/-- Reads one frame, or waits for it. A transport failure is a value, with the
bytes of the unfinished frame that the read used up. -/
def recv : Act S I E X ε (Except (X × Bytes) Bytes) where
  run w :=
    match w.recv.recvRaw with
    | (.ok body, stream) => (.ok (.ok body), { w with recv := stream })
    | (.error (.failed error), stream) =>
        (.ok (.error (error, w.recv.bytes)), { w with recv := stream })
    | (.error .pending, _) => (.error .pending, w)
  progress w := by
    split
    · rename_i body stream read
      obtain ⟨bytes, fin, -⟩ := RecvStream.recvRaw_ok read
      exact ⟨⟨frame body, bytes.symm⟩, fin, rfl, List.prefix_rfl⟩
    · rename_i error stream read
      obtain ⟨before, after, bytes⟩ := RecvStream.recvRaw_failed read
      exact ⟨by rw [bytes]; exact List.nil_suffix, after.trans before.symm, rfl, List.prefix_rfl⟩
    · exact Progress.refl w
  streams w more extended := by
    obtain ⟨state, input, recv, send, log⟩ := extended
    rcases recv with same | ⟨unfinished, tail, bytes⟩
    · rw [same]
      split
      · exact ⟨rfl, state, input, .inl rfl, send, log⟩
      · exact ⟨rfl, state, input, .inl rfl, send, log⟩
      · dsimp only [Streams]
        rw [log]
    · split
      · rename_i body stream read
        obtain ⟨split, fin, fits⟩ := RecvStream.recvRaw_ok read
        have later : more.recv.recvRaw = (.ok body, ⟨stream.bytes ++ tail, more.recv.fin⟩) := by
          have whole : more.recv.bytes = frame body ++ (stream.bytes ++ tail) := by
            rw [← bytes, split, List.append_assoc]
          rw [← RecvStream.recvRaw_frame body (stream.bytes ++ tail) more.recv.fin fits, ← whole]
        rw [later]
        exact ⟨rfl, state, input, .inr ⟨fin.trans unfinished, List.prefix_append _ _⟩, send, log⟩
      · rename_i error stream read
        have ended := (RecvStream.recvRaw_failed read).1
        rw [unfinished] at ended
        cases ended
      · dsimp only [Streams]
        rw [← log]
        split <;> exact List.prefix_rfl

/-- The outcome of an action, with its value wrapped. -/
def wrapped (outcome : Except (Halt ε) α × Endpoint S I E X) (wrap : α → β) :
    Except (Halt ε) β × Endpoint S I E X := (outcome.1.map wrap, outcome.2)

theorem wrapped_streams {less more : Except (Halt ε) α × Endpoint S I E X}
    (agree : Streams less more) (wrap : α → β) :
    Streams (wrapped less wrap) (wrapped more wrap) := by
  obtain ⟨halt | value, w⟩ := less
  · cases halt with
    | pending => exact agree
    | failed error =>
        obtain ⟨_, w'⟩ := more
        obtain ⟨rfl, extended⟩ := agree
        exact ⟨rfl, extended⟩
  · obtain ⟨_, w'⟩ := more
    obtain ⟨rfl, extended⟩ := agree
    exact ⟨rfl, extended⟩

/-- So many bytes of the stream have arrived, and they end inside its first frame. -/
def CutsAt (count : Nat) (bytes : Bytes) : Prop :=
  count ≤ bytes.length ∧ splitFrame (bytes.take count) = none

instance (count : Nat) (bytes : Bytes) : Decidable (CutsAt count bytes) :=
  inferInstanceAs (Decidable (_ ∧ _))

/-- With more input the cut is at the same place, or there was nothing to read before. -/
theorem CutsAt.iff_of_prefix (count : Nat) {less more : Bytes} (later : less <+: more) :
    (CutsAt count less ↔ CutsAt count more) ∨ splitFrame less = none := by
  obtain ⟨tail, rfl⟩ := later
  by_cases enough : count ≤ less.length
  · left
    unfold CutsAt
    rw [List.take_append_of_le_length enough, List.length_append]
    constructor
    · rintro ⟨-, incomplete⟩
      exact ⟨by omega, incomplete⟩
    · rintro ⟨-, incomplete⟩
      exact ⟨enough, incomplete⟩
  · cases split : splitFrame less with
    | none => exact .inr rfl
    | some parts =>
        left
        have short : less <+: (less ++ tail).take count := by
          rw [List.take_append, List.take_of_length_le (by omega)]
          exact List.prefix_append _ _
        obtain ⟨more, same⟩ := short
        constructor
        · rintro ⟨impossible, -⟩
          exact absurd impossible enough
        · rintro ⟨-, incomplete⟩
          obtain ⟨body, rest⟩ := parts
          rw [← same, splitFrame_append more split] at incomplete
          cases incomplete

/-- An action that reads, dropped if it has used up so many bytes and its frame is not
whole. The bytes are gone. -/
def cutOff (count : Nat) (act : Act S I E X ε α)
    (reads : ∀ w, w.recv.Waiting → act.run w = (.error .pending, w)) :
    Act S I E X ε (Option α) where
  run w :=
    if CutsAt count w.recv.bytes then
      (.ok none, { w with recv.bytes := w.recv.bytes.drop count })
    else wrapped (act.run w) some
  progress w := by
    split
    · exact ⟨List.drop_suffix _ _, rfl, rfl, List.prefix_rfl⟩
    · exact act.progress w
  streams w more extended := by
    rcases extended.recv with same | ⟨unfinished, later⟩
    · rw [same]
      by_cases cut : CutsAt count w.recv.bytes
      · rw [if_pos cut, if_pos cut]
        exact ⟨rfl, extended.state, extended.input, .inl rfl, extended.send, extended.log⟩
      · rw [if_neg cut, if_neg cut]
        exact wrapped_streams (act.streams w more extended) some
    · by_cases cut : CutsAt count w.recv.bytes
      · have still : CutsAt count more.recv.bytes := by
          obtain ⟨tail, bytes⟩ := later
          unfold CutsAt
          rw [← bytes, List.take_append_of_le_length cut.1, List.length_append]
          exact ⟨by have := cut.1; omega, cut.2⟩
        rw [if_pos cut, if_pos still]
        refine ⟨rfl, extended.state, extended.input, .inr ⟨unfinished, ?_⟩, extended.send,
          extended.log⟩
        obtain ⟨tail, bytes⟩ := later
        rw [← bytes]
        dsimp only
        rw [List.drop_append_of_le_length cut.1]
        exact List.prefix_append _ _
      · rw [if_neg cut]
        by_cases cut' : CutsAt count more.recv.bytes
        · rw [if_pos cut']
          rcases CutsAt.iff_of_prefix count later with same | incomplete
          · exact absurd (same.mpr cut') cut
          · rw [reads w ⟨unfinished, incomplete⟩]
            show w.log <+: more.log
            rw [extended.log]
        · rw [if_neg cut']
          exact wrapped_streams (act.streams w more extended) some

theorem run_recv_frame {w : Endpoint S I E X} {body rest : Bytes}
    (bytes : w.recv.bytes = frame body ++ rest) (fits : body.length < frameLimit) :
    (recv : Act S I E X ε _).run w = (.ok (.ok body), { w with recv.bytes := rest }) := by
  have read : w.recv.recvRaw = (.ok body, ⟨rest, w.recv.fin⟩) := by
    rw [← RecvStream.recvRaw_frame body rest w.recv.fin fits, ← bytes]
  simp only [recv, read]

theorem run_recv_end {w : Endpoint S I E X} {error : X}
    (incomplete : splitFrame w.recv.bytes = none)
    (fin : w.recv.fin = some error) :
    (recv : Act S I E X ε _).run w =
      (.ok (.error (error, w.recv.bytes)), { w with recv.bytes := [] }) := by
  simp only [recv, RecvStream.recvRaw, incomplete, fin]

/-- A read finds a whole frame, meets the end, or waits. -/
theorem run_recv_cases (w : Endpoint S I E X) :
    (∃ body rest, w.recv.bytes = frame body ++ rest ∧ body.length < frameLimit ∧
      (recv : Act S I E X ε _).run w = (.ok (.ok body), { w with recv.bytes := rest })) ∨
    (∃ error, w.recv.fin = some error ∧ (recv : Act S I E X ε _).run w =
      (.ok (.error (error, w.recv.bytes)), { w with recv.bytes := [] })) ∨
    (w.recv.Waiting ∧ (recv : Act S I E X ε _).run w = (.error .pending, w)) := by
  rcases read : w.recv.recvRaw with ⟨_ | body, stream⟩
  · rename_i halt
    cases halt with
    | pending =>
        exact .inr (.inr ⟨(RecvStream.recvRaw_pending read).1, by simp only [recv, read]⟩)
    | failed error =>
        obtain ⟨before, after, empty⟩ := RecvStream.recvRaw_failed read
        obtain ⟨bytes, fin⟩ := stream
        subst after empty
        refine .inr (.inl ⟨error, before, ?_⟩)
        simp only [recv, read, before]
  · obtain ⟨bytes, fin, fits⟩ := RecvStream.recvRaw_ok read
    exact .inl ⟨body, stream.bytes, bytes, fits, run_recv_frame bytes fits⟩

/-- A read that finds no whole frame meets the end or waits. -/
theorem run_recv_incomplete {w : Endpoint S I E X} (incomplete : splitFrame w.recv.bytes = none) :
    (∃ error, (recv : Act S I E X ε _).run w =
      (.ok (.error (error, w.recv.bytes)), { w with recv.bytes := [] })) ∨
    (recv : Act S I E X ε _).run w = (.error .pending, w) := by
  rcases run_recv_cases (ε := ε) w with
    ⟨body, rest, bytes, fits, -⟩ | ⟨error, -, read⟩ | ⟨-, read⟩
  · rw [bytes, splitFrame_frame _ _ fits] at incomplete
    cases incomplete
  · exact .inl ⟨error, read⟩
  · exact .inr read

/-- A read of the one frame that there will be, on a stream that does not end within it. -/
theorem run_recv_one {w : Endpoint S I E X} {body : Bytes} (fits : body.length < frameLimit)
    (arrived : w.recv.bytes <+: frame body)
    (orderly : w.recv.fin ≠ none → w.recv.bytes = frame body) :
    (w.recv.bytes = frame body ∧
      (recv : Act S I E X ε _).run w = (.ok (.ok body), { w with recv.bytes := [] })) ∨
    (w.recv.bytes ≠ frame body ∧ (recv : Act S I E X ε _).run w = (.error .pending, w)) := by
  by_cases whole : w.recv.bytes = frame body
  · have bytes : w.recv.bytes = frame body ++ [] := by rw [whole, List.append_nil]
    exact .inl ⟨whole, run_recv_frame bytes fits⟩
  · rcases run_recv_cases (ε := ε) w with
      ⟨found, rest, bytes, foundFits, -⟩ | ⟨error, ended, -⟩ | ⟨-, read⟩
    · have shorter : frame found ++ rest <+: frame body ++ [] := by
        rw [← bytes, List.append_nil]
        exact arrived
      obtain ⟨same, nothing⟩ := frame_prefix shorter foundFits fits
      rw [List.prefix_nil.mp nothing, same, List.append_nil] at bytes
      exact absurd bytes whole
    · have finished : w.recv.fin ≠ none := by rw [ended]; nofun
      exact absurd (orderly finished) whole
    · exact .inr ⟨whole, read⟩

/-- Writes one frame and logs it if it went out. A transport failure is a value. -/
def send (body : Bytes) (event : E) : Act S I E X ε (Except X Unit) where
  run w :=
    match w.send.sendRaw body with
    | (.ok (), stream) => (.ok (.ok ()), { w with send := stream, log := w.log ++ [event] })
    | (.error error, stream) => (.ok (.error error), { w with send := stream })
  progress w := by
    unfold SendStream.sendRaw
    split
    · rename_i stream sent
      split at sent
      · cases sent
        exact ⟨List.suffix_rfl, rfl, rfl, List.prefix_append _ _⟩
      · cases sent
    · rename_i error stream sent
      split at sent
      · cases sent
      · cases sent
        exact ⟨List.suffix_rfl, rfl, rfl, List.prefix_rfl⟩
  streams w more extended := by
    obtain ⟨state, input, recv, send, log⟩ := extended
    rw [send]
    split
    · exact ⟨rfl, state, input, recv, rfl, by dsimp only; rw [log]⟩
    · exact ⟨rfl, state, input, recv, rfl, log⟩

/-- A write goes out and is logged, or fails and leaves no trace but the attempt. -/
theorem run_send_cases (body : Bytes) (event : E) (w : Endpoint S I E X) :
    (w.send.outcome w.send.attempts body = none ∧ (send body event : Act S I E X ε _).run w =
      (.ok (.ok ()), { w with send.attempts := w.send.attempts + 1, log := w.log ++ [event] })) ∨
    (∃ error, w.send.outcome w.send.attempts body = some error ∧
      (send body event : Act S I E X ε _).run w =
        (.ok (.error error), { w with send.attempts := w.send.attempts + 1 })) := by
  cases outcome : w.send.outcome w.send.attempts body with
  | none => exact .inl ⟨rfl, by simp only [send, SendStream.sendRaw, outcome]⟩
  | some error => exact .inr ⟨error, rfl, by simp only [send, SendStream.sendRaw, outcome]⟩

/-- Turns a failed value into a failure of the action. -/
def orFail {Y : Type} (wrap : Y → ε) : Except Y α → Act S I E X ε α
  | .ok value => Act.pure value
  | .error error => fail (wrap error)

/-- Whether a loop goes round again. -/
inductive Turn (A α : Type) where
  | next (again : A)
  | stop (value : α)
deriving DecidableEq, Repr

/-- Every further round of the loop lowers the measure. -/
def Decreasing (measure : A → Endpoint S I E X → Nat)
    (body : A → Act S I E X ε (Turn A α)) : Prop :=
  ∀ a w again w', (body a).run w = (.ok (.next again), w') → measure again w' < measure a w

/-- At most `fuel` rounds of a loop. -/
def rounds (body : A → Act S I E X ε (Turn A α)) :
    Nat → A → Endpoint S I E X → Except (Halt ε) α × Endpoint S I E X
  | 0, _, w => (.error .pending, w)
  | fuel + 1, a, w =>
      match (body a).run w with
      | (.ok (.next again), w') => rounds body fuel again w'
      | (.ok (.stop value), w') => (.ok value, w')
      | (.error halt, w') => (.error halt, w')

theorem rounds_progress (body : A → Act S I E X ε (Turn A α)) (fuel : Nat) (a : A)
    (w : Endpoint S I E X) : Progress w (rounds body fuel a w).2 := by
  induction fuel generalizing a w with
  | zero => exact Progress.refl w
  | succ fuel ih =>
      have step := (body a).progress w
      unfold rounds
      split
      · rename_i again w' outcome
        rw [outcome] at step
        exact step.trans (ih again w')
      · rename_i value w' outcome
        rw [outcome] at step
        exact step
      · rename_i halt w' outcome
        rw [outcome] at step
        exact step

/-- Fuel above the measure is never used up, so how much there is is irrelevant. -/
theorem rounds_stable {measure : A → Endpoint S I E X → Nat}
    {body : A → Act S I E X ε (Turn A α)} (decreasing : Decreasing measure body)
    (fuel other : Nat) (a : A) (w : Endpoint S I E X)
    (enough : measure a w < fuel) (alsoEnough : measure a w < other) :
    rounds body fuel a w = rounds body other a w := by
  induction fuel generalizing other a w with
  | zero => omega
  | succ fuel ih =>
      cases other with
      | zero => omega
      | succ other =>
          unfold rounds
          split
          · rename_i again w' outcome
            have lower := decreasing a w again w' outcome
            exact ih other again w' (by omega) (by omega)
          · rfl
          · rfl

theorem rounds_streams {measure : A → Endpoint S I E X → Nat}
    {body : A → Act S I E X ε (Turn A α)} (decreasing : Decreasing measure body)
    (fuel other : Nat) (a : A) (w more : Endpoint S I E X) (extended : w.Extends more)
    (enough : measure a w < fuel) (alsoEnough : measure a more < other) :
    Streams (rounds body fuel a w) (rounds body other a more) := by
  induction fuel generalizing other a w more with
  | zero => omega
  | succ fuel ih =>
      cases other with
      | zero => omega
      | succ other =>
          have agree := (body a).streams w more extended
          have later := rounds_progress body (other + 1) a more
          rcases first : (body a).run w with ⟨_ | _ | _, w'⟩
          · rename_i halt
            rw [first] at agree
            cases halt with
            | pending =>
                rw [rounds, first]
                refine List.IsPrefix.trans agree ?_
                rw [rounds]
                rcases (body a).run more with ⟨_ | _ | _, more'⟩
                · exact List.prefix_rfl
                · exact (rounds_progress body other _ more').log
                · exact List.prefix_rfl
            | failed error =>
                rcases second : (body a).run more with ⟨result, more'⟩
                rw [second] at agree
                obtain ⟨rfl, extended'⟩ := agree
                rw [rounds, first, rounds, second]
                exact ⟨rfl, extended'⟩
          · rename_i again
            rw [first] at agree
            rcases second : (body a).run more with ⟨result, more'⟩
            rw [second] at agree
            obtain ⟨rfl, extended'⟩ := agree
            have lower := decreasing a w again w' first
            have lower' := decreasing a more again more' second
            rw [rounds, first, rounds, second]
            exact ih other again w' more' extended' (by omega) (by omega)
          · rename_i value
            rw [first] at agree
            rcases second : (body a).run more with ⟨result, more'⟩
            rw [second] at agree
            obtain ⟨rfl, extended'⟩ := agree
            rw [rounds, first, rounds, second]
            exact ⟨rfl, extended'⟩

/-- Repeats the body until it stops. The measure is what shows that it does. -/
def loop (measure : A → Endpoint S I E X → Nat) (body : A → Act S I E X ε (Turn A α))
    (decreasing : Decreasing measure body) (a : A) : Act S I E X ε α where
  run w := rounds body (measure a w + 1) a w
  progress w := rounds_progress body _ a w
  streams w more extended :=
    rounds_streams decreasing _ _ a w more extended (by omega) (by omega)

theorem run_loop {measure : A → Endpoint S I E X → Nat}
    {body : A → Act S I E X ε (Turn A α)} (decreasing : Decreasing measure body)
    (a : A) (w : Endpoint S I E X) :
    (loop measure body decreasing a).run w =
      match (body a).run w with
      | (.ok (.next again), w') => (loop measure body decreasing again).run w'
      | (.ok (.stop value), w') => (.ok value, w')
      | (.error halt, w') => (.error halt, w') := by
  change rounds body (measure a w + 1) a w = _
  rw [rounds]
  split
  · rename_i again w' outcome
    have lower := decreasing a w again w' outcome
    exact rounds_stable decreasing _ _ again w' (by omega) (by omega)
  · rfl
  · rfl

/-- Loop rule: an invariant of the rounds gives a fact of the outcome. -/
theorem loop_rule {measure : A → Endpoint S I E X → Nat}
    {body : A → Act S I E X ε (Turn A α)} (decreasing : Decreasing measure body)
    (invariant : A → Endpoint S I E X → Prop)
    (result : Except (Halt ε) α × Endpoint S I E X → Prop)
    (next : ∀ a w again w', invariant a w → (body a).run w = (.ok (.next again), w') →
      invariant again w')
    (stop : ∀ a w value w', invariant a w → (body a).run w = (.ok (.stop value), w') →
      result (.ok value, w'))
    (halted : ∀ a w halt w', invariant a w → (body a).run w = (.error halt, w') →
      result (.error halt, w'))
    (a : A) (w : Endpoint S I E X) (start : invariant a w) :
    result ((loop measure body decreasing a).run w) := by
  induction bound : measure a w using Nat.strongRecOn generalizing a w with
  | ind bound ih =>
      rw [run_loop]
      split
      · rename_i again w' outcome
        have lower := decreasing a w again w' outcome
        exact ih (measure again w') (by omega) again w' (next a w again w' start outcome) rfl
      · rename_i value w' outcome
        exact stop a w value w' start outcome
      · rename_i halt w' outcome
        exact halted a w halt w' start outcome

/-- Whatever becomes of the action, it leaves the party related to what it was. -/
def Within (related : Endpoint S I E X → Endpoint S I E X → Prop) (act : Act S I E X ε α) : Prop :=
  ∀ w, related w (act.run w).2

section within

variable {related : Endpoint S I E X → Endpoint S I E X → Prop}
  (refl : ∀ w, related w w) (trans : ∀ u v w, related u v → related v w → related u w)

include trans in
theorem Within.bind {first : Act S I E X ε α} {next : α → Act S I E X ε β}
    (early : Within related first) (late : ∀ value, Within related (next value)) :
    Within related (first >>= next) := by
  intro w
  have before := early w
  rw [run_bind]
  rcases outcome : first.run w with ⟨halt | value, w'⟩
  · rw [outcome] at before
    exact before
  · rw [outcome] at before
    exact trans _ _ _ before (late value w')

include refl trans in
theorem Within.loop {measure : A → Endpoint S I E X → Nat}
    {body : A → Act S I E X ε (Turn A α)} {decreasing : Decreasing measure body}
    (rounds : ∀ a, Within related (body a)) (a : A) :
    Within related (loop measure body decreasing a) := by
  intro w
  refine loop_rule decreasing (fun _ w' => related w w') (fun outcome => related w outcome.2)
    ?_ ?_ ?_ a w (refl w)
  · intro a v again v' before ran
    have step := rounds a v
    rw [ran] at step
    exact trans _ _ _ before step
  · intro a v value v' before ran
    have step := rounds a v
    rw [ran] at step
    exact trans _ _ _ before step
  · intro a v halt v' before ran
    have step := rounds a v
    rw [ran] at step
    exact trans _ _ _ before step

end within

/-- Everything logged on the way is allowed. -/
def Logs (allowed : E → Prop) (w w' : Endpoint S I E X) : Prop :=
  ∃ added, w'.log = w.log ++ added ∧ ∀ event ∈ added, allowed event

section logs

variable {allowed : E → Prop}

theorem Logs.refl (w : Endpoint S I E X) : Logs allowed w w :=
  ⟨[], (List.append_nil _).symm, fun _ mem => by cases mem⟩

theorem Logs.trans (u v w : Endpoint S I E X) (early : Logs allowed u v)
    (late : Logs allowed v w) : Logs allowed u w := by
  obtain ⟨first, log, permitted⟩ := early
  obtain ⟨second, log', permitted'⟩ := late
  refine ⟨first ++ second, ?_, ?_⟩
  · rw [log', log, List.append_assoc]
  · intro event mem
    rcases List.mem_append.mp mem with mem | mem
    · exact permitted event mem
    · exact permitted' event mem

theorem Logs.one {w w' : Endpoint S I E X} {event : E} (log : w'.log = w.log ++ [event])
    (permitted : allowed event) : Logs allowed w w' := by
  refine ⟨[event], log, ?_⟩
  intro other mem
  rw [List.mem_singleton.mp mem]
  exact permitted

theorem Logs.none {w w' : Endpoint S I E X} (log : w'.log = w.log) : Logs allowed w w' :=
  ⟨[], by rw [log, List.append_nil], fun _ mem => by cases mem⟩

theorem logs_bind {first : Act S I E X ε α} {next : α → Act S I E X ε β}
    (early : Within (Logs allowed) first) (late : ∀ value, Within (Logs allowed) (next value)) :
    Within (Logs allowed) (first >>= next) :=
  Within.bind Logs.trans early late

theorem logs_orFail {Y : Type} (wrap : Y → ε) (result : Except Y α) :
    Within (Logs allowed) (orFail wrap result : Act S I E X ε α) := by
  cases result with
  | ok value => exact Logs.refl
  | error error => exact Logs.refl

theorem logs_emit {event : E} (permitted : allowed event) :
    Within (Logs allowed) (emit event : Act S I E X ε Unit) :=
  fun _ => .one rfl permitted

/-- A frame that is logged as written is one that could be. -/
theorem logs_send (body : Bytes) {event : E}
    (permitted : body.length < frameLimit → allowed event) :
    Within (Logs allowed) (send body event : Act S I E X ε _) := by
  intro w
  rcases run_send_cases (ε := ε) body event w with ⟨out, sent⟩ | ⟨error, -, sent⟩
  · rw [sent]
    exact .one rfl (permitted (w.send.fits _ _ out))
  · rw [sent]
    exact .none rfl

theorem logs_recv : Within (Logs allowed) (recv : Act S I E X ε _) := by
  intro w
  rcases run_recv_cases (ε := ε) w with
    ⟨body, rest, -, -, read⟩ | ⟨error, -, read⟩ | ⟨-, read⟩
  · rw [read]
    exact .none rfl
  · rw [read]
    exact .none rfl
  · rw [read]
    exact .none rfl

end logs

section steady

/-- An action that completes on an open stream does the same whatever follows there. -/
def Steady (act : Act S I E X ε α) : Prop :=
  ∀ w value w', w.recv.fin = none → act.run w = (.ok value, w') →
    ∀ more fin, act.run (w.followed more fin) = (.ok value, w'.followed more fin)

theorem steady_pure (value : α) : Steady (pure value : Act S I E X ε α) := by
  intro w value w' _ ran more fin
  cases ran
  rfl

theorem steady_fail (error : ε) : Steady (fail error : Act S I E X ε α) := by
  intro w value w' _ ran
  cases ran

theorem steady_emit (event : E) : Steady (emit event : Act S I E X ε Unit) := by
  intro w value w' _ ran more fin
  cases ran
  rfl

theorem steady_update (change : S → α × S) : Steady (update change : Act S I E X ε α) := by
  intro w value w' _ ran more fin
  cases ran
  rfl

theorem steady_orFail {Y : Type} (wrap : Y → ε) (result : Except Y α) :
    Steady (orFail wrap result : Act S I E X ε α) := by
  cases result with
  | ok value => exact steady_pure value
  | error error => exact steady_fail _

theorem steady_send (body : Bytes) (event : E) : Steady (send body event : Act S I E X ε _) := by
  intro w value w' _ ran more fin
  simp only [send, SendStream.sendRaw] at ran ⊢
  cases outcome : w.send.outcome w.send.attempts body with
  | none =>
      rw [outcome] at ran
      cases ran
      simp only [Endpoint.followed, outcome]
  | some error =>
      rw [outcome] at ran
      cases ran
      simp only [Endpoint.followed, outcome]

theorem steady_recv : Steady (recv : Act S I E X ε _) := by
  intro w value w' unfinished ran more fin
  rcases run_recv_cases (ε := ε) w with
    ⟨body, rest, bytes, fits, read⟩ | ⟨error, ended, -⟩ | ⟨-, read⟩
  · rw [read] at ran
    cases ran
    have longer : (w.followed more fin).recv.bytes = frame body ++ (rest ++ more) := by
      rw [← List.append_assoc, ← bytes]
      rfl
    exact run_recv_frame longer fits
  · rw [unfinished] at ended
    cases ended
  · rw [read] at ran
    cases ran

theorem Steady.bind {first : Act S I E X ε α} {next : α → Act S I E X ε β} (early : Steady first)
    (late : ∀ value, Steady (next value)) : Steady (first >>= next) := by
  intro w value w' unfinished ran more fin
  rw [run_bind] at ran ⊢
  have progress := first.progress w
  rcases outcome : first.run w with ⟨halt | middle, v⟩
  · rw [outcome] at ran
    cases ran
  · rw [outcome] at ran progress
    rw [early w middle v unfinished outcome more fin]
    exact late middle v value w' (progress.fin.trans unfinished) ran more fin

theorem Steady.loop {measure : A → Endpoint S I E X → Nat} {body : A → Act S I E X ε (Turn A α)}
    {decreasing : Decreasing measure body} (rounds : ∀ a, Steady (body a)) (a : A) :
    Steady (loop measure body decreasing a) := by
  intro w value w' unfinished ran more fin
  induction bound : measure a w using Nat.strongRecOn generalizing a w with
  | ind bound ih =>
      rw [run_loop] at ran ⊢
      have progress := (body a).progress w
      rcases outcome : (body a).run w with ⟨halt | again | result, v⟩
      · rw [outcome] at ran
        cases ran
      · rw [outcome] at ran progress
        rw [rounds a w _ v unfinished outcome more fin]
        have lower := decreasing a w again v outcome
        exact ih (measure again v) (by omega) again v (progress.fin.trans unfinished) ran rfl
      · rw [outcome] at ran
        cases ran
        rw [rounds a w _ w' unfinished outcome more fin]

end steady

end Act

end Framing
