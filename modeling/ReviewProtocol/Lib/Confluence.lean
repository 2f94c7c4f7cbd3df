import ReviewProtocol.Lib.Duplex

set_option autoImplicit false

/- The order of deliveries does not matter. As long as neither half of the stream is cut
off, any two ways that the exchange goes from one start can be brought together again, so
what one of them comes to, the other does not contradict. -/
namespace Framing

open Relation (ReflTransGen ReflGen Join church_rosser)

variable {S I E X ε α S' E' X' ε' β : Type}

theorem RecvStream.Extends.trans {first second third : RecvStream X}
    (early : first.Extends second) (late : second.Extends third) : first.Extends third :=
  ⟨early.unfinished, early.bytes.trans late.bytes⟩

theorem Endpoint.Extends.trans {u v w : Endpoint S I E X} (early : u.Extends v)
    (late : v.Extends w) : u.Extends w where
  state := late.state.trans early.state
  input := early.input.trans late.input
  recv := by
    rcases late.recv with same | later
    · rw [same]
      exact early.recv
    · rcases early.recv with same | earlier
      · rw [same] at later
        exact .inr later
      · exact .inr (earlier.trans later)
  send := late.send.trans early.send
  log := late.log.trans early.log

/-- An end of a stream that was not cut off was not cut off before. -/
theorem Endpoint.Extends.unfinished {w more : Endpoint S I E X} (extended : w.Extends more)
    (unfinished : more.recv.fin = none) : w.recv.fin = none := by
  rcases extended.recv with same | later
  · rw [← same]
    exact unfinished
  · exact later.unfinished

namespace Duplex

variable (near : Party S I E X ε α) (far : Party S' Empty E' X' ε' β)

/-- Neither half of the stream has ended, and the local input is from this source. -/
structure Open (source : List I) (now : Duplex S I E X S' E' X') : Prop where
  near : now.near.recv.fin = none
  far : now.far.recv.fin = none
  supplied : now.near.input <+: source

/-- A step that cuts nothing off. -/
def Flows (source : List I) (now next : Duplex S I E X S' E' X') : Prop :=
  Step near far now next ∧ Open source next

/-- All that was written and all of the source has arrived. -/
structure Settled (source : List I) (now : Duplex S I E X S' E' X') : Prop where
  quiescent : Quiescent near far now
  supplied : now.near.input = source

variable {near far} {source : List I} {start now next a b : Duplex S I E X S' E' X'}

theorem Step.opened (step : Step near far now next) (opened : Open source next) :
    Open source now where
  near := step.near_extends.unfinished opened.near
  far := step.far_extends.unfinished opened.far
  supplied := step.near_extends.input.trans opened.supplied

/-- An exchange that is not cut off never was. -/
theorem Reachable.flows (reachable : Reachable near far start now) (opened : Open source now) :
    ReflTransGen (Flows near far source) start now := by
  induction reachable with
  | refl => exact .refl
  | tail _ step ih => exact (ih (step.opened opened)).tail ⟨step, opened⟩

theorem near_extends_of_flows (flows : ReflTransGen (Flows near far source) now next) :
    now.near.Extends next.near := by
  induction flows with
  | refl => exact Endpoint.Extends.refl _
  | tail _ flow ih => exact ih.trans flow.1.near_extends

theorem far_extends_of_flows (flows : ReflTransGen (Flows near far source) now next) :
    now.far.Extends next.far := by
  induction flows with
  | refl => exact Endpoint.Extends.refl _
  | tail _ flow ih => exact ih.trans flow.1.far_extends

variable (near far) in
/-- Two deliveries to the same end: one of them brings the more. -/
theorem flows_toFar_toFar {first second : RecvStream X'}
    (sentFirst : first.bytes <+: near.output now.near)
    (sentSecond : second.bytes <+: near.output now.near)
    (openFirst : Open source { now with far.recv := first })
    (openSecond : Open source { now with far.recv := second }) :
    Flows near far source { now with far.recv := first } { now with far.recv := second } ∨
      Flows near far source { now with far.recv := second } { now with far.recv := first } := by
  rcases List.prefix_or_prefix_of_prefix sentFirst sentSecond with shorter | shorter
  · exact .inl ⟨.toFar _ second ⟨openFirst.far, shorter⟩ sentSecond, openSecond⟩
  · exact .inr ⟨.toFar _ first ⟨openSecond.far, shorter⟩ sentFirst, openFirst⟩

variable (near far) in
theorem flows_toNear_toNear {first second : RecvStream X}
    (sentFirst : first.bytes <+: far.output now.far)
    (sentSecond : second.bytes <+: far.output now.far)
    (openFirst : Open source { now with near.recv := first })
    (openSecond : Open source { now with near.recv := second }) :
    Flows near far source { now with near.recv := first } { now with near.recv := second } ∨
      Flows near far source { now with near.recv := second } { now with near.recv := first } := by
  rcases List.prefix_or_prefix_of_prefix sentFirst sentSecond with shorter | shorter
  · exact .inl ⟨.toNear _ second ⟨openFirst.near, shorter⟩ sentSecond, openSecond⟩
  · exact .inr ⟨.toNear _ first ⟨openSecond.near, shorter⟩ sentFirst, openFirst⟩

/-- Two steps from one state: the one can be made after the other. -/
theorem flows_diamond (left : Flows near far source now a) (right : Flows near far source now b) :
    ∃ c, ReflGen (Flows near far source) a c ∧ ReflTransGen (Flows near far source) b c := by
  obtain ⟨step, opened⟩ := left
  obtain ⟨step', opened'⟩ := right
  have nearGrows := near.output_prefix step.near_extends
  have nearGrows' := near.output_prefix step'.near_extends
  have farGrows := far.output_prefix step.far_extends
  have farGrows' := far.output_prefix step'.far_extends
  cases step with
  | toFar more extended sent =>
      cases step' with
      | toFar more' extended' sent' =>
          rcases flows_toFar_toFar near far sent sent' opened opened' with
            flow | flow
          · exact ⟨_, .single flow, .refl⟩
          · exact ⟨_, .refl, .single flow⟩
      | toNear more' extended' sent' =>
          exact ⟨{ now with far.recv := more, near.recv := more' },
            .single ⟨.toNear _ more' extended' (sent'.trans farGrows),
              ⟨opened'.near, opened.far, opened.supplied⟩⟩,
            .single ⟨.toFar _ more extended (sent.trans nearGrows'),
              ⟨opened'.near, opened.far, opened.supplied⟩⟩⟩
      | input more' =>
          exact ⟨{ now with far.recv := more, near.input := now.near.input ++ [more'] },
            .single ⟨.input _ more', ⟨opened.near, opened.far, opened'.supplied⟩⟩,
            .single ⟨.toFar _ more extended (sent.trans nearGrows'),
              ⟨opened.near, opened.far, opened'.supplied⟩⟩⟩
  | toNear more extended sent =>
      cases step' with
      | toFar more' extended' sent' =>
          exact ⟨{ now with near.recv := more, far.recv := more' },
            .single ⟨.toFar _ more' extended' (sent'.trans nearGrows),
              ⟨opened.near, opened'.far, opened.supplied⟩⟩,
            .single ⟨.toNear _ more extended (sent.trans farGrows'),
              ⟨opened.near, opened'.far, opened.supplied⟩⟩⟩
      | toNear more' extended' sent' =>
          rcases flows_toNear_toNear near far sent sent' opened opened' with
            flow | flow
          · exact ⟨_, .single flow, .refl⟩
          · exact ⟨_, .refl, .single flow⟩
      | input more' =>
          exact ⟨{ now with near.recv := more, near.input := now.near.input ++ [more'] },
            .single ⟨.input _ more', ⟨opened.near, opened.far, opened'.supplied⟩⟩,
            .single ⟨.toNear _ more extended (sent.trans farGrows'),
              ⟨opened.near, opened.far, opened'.supplied⟩⟩⟩
  | input more =>
      cases step' with
      | toFar more' extended' sent' =>
          exact ⟨{ now with near.input := now.near.input ++ [more], far.recv := more' },
            .single ⟨.toFar _ more' extended' (sent'.trans nearGrows),
              ⟨opened'.near, opened'.far, opened.supplied⟩⟩,
            .single ⟨.input _ more, ⟨opened'.near, opened'.far, opened.supplied⟩⟩⟩
      | toNear more' extended' sent' =>
          exact ⟨{ now with near.input := now.near.input ++ [more], near.recv := more' },
            .single ⟨.toNear _ more' extended' (sent'.trans farGrows),
              ⟨opened'.near, opened'.far, opened.supplied⟩⟩,
            .single ⟨.input _ more, ⟨opened'.near, opened'.far, opened.supplied⟩⟩⟩
      | input more' =>
          -- there is only one next piece of the source
          have length : (now.near.input ++ [more]).length = (now.near.input ++ [more']).length := by
            rw [List.length_append, List.length_append]
            rfl
          have same := (List.prefix_of_prefix_length_le opened.supplied opened'.supplied
            length.le).eq_of_length length
          have piece : more = more' := List.singleton_inj.mp (List.append_cancel_left same)
          subst piece
          exact ⟨_, .refl, .refl⟩

/-- Two ways that an exchange goes can be brought together. -/
theorem flows_confluent (left : ReflTransGen (Flows near far source) start a)
    (right : ReflTransGen (Flows near far source) start b) :
    Join (ReflTransGen (Flows near far source)) a b :=
  church_rosser (fun _ _ _ => flows_diamond) left right

/-- From where all has arrived there is nowhere to go. -/
theorem Settled.stays (settled : Settled near far source now) (delivered : Delivered near far now)
    (flows : ReflTransGen (Flows near far source) now next) : next = now := by
  induction flows with
  | refl => rfl
  | tail _ flow ih =>
      subst ih
      obtain ⟨step, opened⟩ := flow
      have after := delivered.step step
      cases step with
      | toFar more extended sent =>
          obtain ⟨bytes, fin⟩ := more
          have whole := settled.quiescent.toFar
          have arrived : bytes = _ :=
            (extended.bytes.eq_of_length_le (by rw [whole]; exact sent.length_le)).symm
          have unended : fin = none := opened.far
          rw [arrived, unended, ← extended.unfinished]
      | toNear more extended sent =>
          obtain ⟨bytes, fin⟩ := more
          have whole := settled.quiescent.toNear
          have arrived : bytes = _ :=
            (extended.bytes.eq_of_length_le (by rw [whole]; exact sent.length_le)).symm
          have unended : fin = none := opened.near
          rw [arrived, unended, ← extended.unfinished]
      | input more =>
          have longer := opened.supplied.length_le
          rw [← settled.supplied, List.length_append, List.length_singleton] at longer
          omega

/-- How a state lies to the end of its exchange: it leads there, what either end has come to
or logged by now stays, and nothing else is an end. -/
structure Toward (near : Party S I E X ε α) (far : Party S' Empty E' X' ε' β) (source : List I)
    (now final : Duplex S I E X S' E' X') : Prop where
  leads : ReflTransGen (Flows near far source) now final
  settled : Settled near far source final
  nearDone : (near.act.run now.near).1 ≠ .error .pending →
    (near.act.run final.near).1 = (near.act.run now.near).1 ∧
      (near.act.run final.near).2.log = (near.act.run now.near).2.log
  farDone : (far.act.run now.far).1 ≠ .error .pending →
    (far.act.run final.far).1 = (far.act.run now.far).1 ∧
      (far.act.run final.far).2.log = (far.act.run now.far).2.log
  nearLog : (near.act.run now.near).2.log <+: (near.act.run final.near).2.log
  farLog : (far.act.run now.far).2.log <+: (far.act.run final.far).2.log
  only : Settled near far source now → now = final

theorem flows_delivered (flows : ReflTransGen (Flows near far source) now next)
    (delivered : Delivered near far now) : Delivered near far next := by
  induction flows with
  | refl => exact delivered
  | tail _ flow ih => exact ih.step flow.1

theorem toward_of_flows (delivered : Delivered near far now)
    (flows : ReflTransGen (Flows near far source) now next)
    (settled : Settled near far source next) : Toward near far source now next where
  leads := flows
  settled := settled
  nearDone := near.act.run_done (near_extends_of_flows flows)
  farDone := far.act.run_done (far_extends_of_flows flows)
  nearLog := near.act.log_prefix (near_extends_of_flows flows)
  farLog := far.act.log_prefix (far_extends_of_flows flows)
  only := fun stopped => (stopped.stays delivered flows).symm

theorem reachable_of_flows (flows : ReflTransGen (Flows near far source) now next) :
    Reachable near far now next := by
  induction flows with
  | refl => exact .refl
  | tail _ flow ih => exact ih.tail flow.1

variable (near far) in
/-- The rest of the source can be supplied at any time. -/
theorem flows_supply (opened : Open source now) :
    ∃ next, ReflTransGen (Flows near far source) now next ∧ Open source next ∧
      next.near.input = source := by
  obtain ⟨tail, whole⟩ := opened.supplied
  induction tail generalizing now with
  | nil =>
      rw [List.append_nil] at whole
      exact ⟨now, .refl, opened, whole⟩
  | cons more tail ih =>
      let later : Duplex S I E X S' E' X' :=
        { now with near.input := now.near.input ++ [more] }
      have split : later.near.input ++ tail = source := by
        rw [← whole]
        exact List.append_assoc _ [more] tail
      have opened' : Open source later := ⟨opened.near, opened.far, ⟨tail, split⟩⟩
      have flow : Flows near far source now later := ⟨.input now more, opened'⟩
      obtain ⟨next, flows, open', supplied⟩ := ih opened' split
      exact ⟨next, .head flow flows, open', supplied⟩

/-- Once it has its source, an end that writes only so much comes to rest. The induction is on
what it may still write. -/
theorem flows_settle {bound : Nat} (delivered : Delivered near far now) (opened : Open source now)
    (supplied : now.near.input = source)
    (bounded : ∀ next, ReflTransGen (Flows near far source) now next →
      (near.output next.near).length ≤ bound) :
    ∃ final, ReflTransGen (Flows near far source) now final ∧ Settled near far source final := by
  induction left : bound - (near.output now.near).length using Nat.strongRecOn
    generalizing now with
  | ind left ih =>
      let asked := now.deliverFar near
      let answered := asked.deliverNear far
      have asks : Flows near far source now asked :=
        ⟨delivered.step_deliverFar opened.far, opened.near, opened.far, opened.supplied⟩
      have delivered' := delivered.step asks.1
      have answers : Flows near far source asked answered :=
        ⟨delivered'.step_deliverNear opened.near, opened.near, opened.far, opened.supplied⟩
      have flows : ReflTransGen (Flows near far source) now answered := .tail (.single asks) answers
      have grows := near.output_prefix (near_extends_of_flows flows)
      by_cases same : near.output now.near = near.output answered.near
      · exact ⟨answered, flows, ⟨same, rfl⟩, supplied⟩
      · have longer : (near.output now.near).length < (near.output answered.near).length := by
          refine lt_of_le_of_ne grows.length_le ?_
          intro lengths
          exact same (grows.eq_of_length lengths)
        have fits := bounded answered flows
        obtain ⟨final, onward, settled⟩ := ih (bound - (near.output answered.near).length)
          (by omega) (delivered'.step answers.1) answers.2 supplied
          (fun next more => bounded next (flows.trans more)) rfl
        exact ⟨final, flows.trans onward, settled⟩

/-- If the near end writes only so much, an exchange that is not cut off has one end, whatever
the order of deliveries, and every state on the way leads there. -/
theorem exists_final (bound : Nat) (opened : Open source start)
    (nearEmpty : start.near.recv.bytes = []) (farEmpty : start.far.recv.bytes = [])
    (bounded : ∀ now, Reachable near far start now → (near.output now.near).length ≤ bound) :
    ∃ final, ∀ now, Reachable near far start now → Open source now →
      Toward near far source now final := by
  have begun : Delivered near far start := Reachable.delivered .refl nearEmpty farEmpty
  obtain ⟨whole, supplies, opened', supplied⟩ := flows_supply near far opened
  obtain ⟨final, rests, settled⟩ := flows_settle (flows_delivered supplies begun) opened' supplied
    fun next flows => bounded next (reachable_of_flows (supplies.trans flows))
  refine ⟨final, ?_⟩
  intro now reachable openNow
  obtain ⟨meeting, onward, stays⟩ :=
    flows_confluent (reachable.flows openNow) (supplies.trans rests)
  have ended : Delivered near far final := flows_delivered (supplies.trans rests) begun
  have same : meeting = final := settled.stays ended stays
  subst same
  exact toward_of_flows (reachable.delivered nearEmpty farEmpty) onward settled

end Duplex

/-! ### What an action may write -/

namespace Act

variable {A : Type} {body : E → Option Bytes} {budget : Nat}

/-- Whatever its input, the action writes at most so much. -/
def Spends (body : E → Option Bytes) (budget : Nat) (act : Act S I E X ε α) : Prop :=
  ∀ w, ∃ added, (act.run w).2.log = w.log ++ added ∧
    (added.flatMap fun event => (body event).elim [] frame).length ≤ budget

theorem spends_nothing {act : Act S I E X ε α} (silent : ∀ w, (act.run w).2.log = w.log) :
    Spends body budget act :=
  fun w => ⟨[], by rw [silent w, List.append_nil], Nat.zero_le _⟩

theorem spends_pure (value : α) : Spends body budget (pure value : Act S I E X ε α) :=
  spends_nothing fun _ => rfl

theorem spends_update (change : S → α × S) :
    Spends body budget (update change : Act S I E X ε α) :=
  spends_nothing fun _ => rfl

theorem spends_orFail {Y : Type} (wrap : Y → ε) (result : Except Y α) :
    Spends body budget (orFail wrap result : Act S I E X ε α) := by
  cases result with
  | ok value => exact spends_nothing fun _ => rfl
  | error error => exact spends_nothing fun _ => rfl

theorem spends_emit {event : E} (unwritten : body event = none) :
    Spends body budget (emit event : Act S I E X ε Unit) := by
  intro w
  refine ⟨[event], rfl, ?_⟩
  rw [List.flatMap_singleton, unwritten]
  exact Nat.zero_le _

theorem spends_recv : Spends body budget (recv : Act S I E X ε _) := by
  refine spends_nothing fun w => ?_
  rcases run_recv_cases (ε := ε) w with
    ⟨_, rest, -, -, read⟩ | ⟨error, -, read⟩ | ⟨-, read⟩
  · rw [read]
  · rw [read]
  · rw [read]

theorem spends_send {sent : Bytes} {event : E} (written : body event = some sent) :
    Spends body (frame sent).length (send sent event : Act S I E X ε _) := by
  intro w
  rcases run_send_cases (ε := ε) sent event w with ⟨-, ran⟩ | ⟨error, -, ran⟩
  · rw [ran]
    refine ⟨[event], rfl, ?_⟩
    rw [List.flatMap_singleton, written]
    exact Nat.le_refl _
  · rw [ran]
    exact ⟨[], (List.append_nil _).symm, Nat.zero_le _⟩

theorem Spends.mono {act : Act S I E X ε α} {more : Nat} (spends : Spends body budget act)
    (enough : budget ≤ more) : Spends body more act := by
  intro w
  obtain ⟨added, log, within⟩ := spends w
  exact ⟨added, log, within.trans enough⟩

theorem Spends.bind {first : Act S I E X ε α} {next : α → Act S I E X ε β} {rest : Nat}
    (early : Spends body budget first) (late : ∀ value, Spends body rest (next value)) :
    Spends body (budget + rest) (first >>= next) := by
  intro w
  obtain ⟨added, log, within⟩ := early w
  rw [run_bind]
  rcases outcome : first.run w with ⟨halt | value, w'⟩
  · rw [outcome] at log
    exact ⟨added, log, within.trans (Nat.le_add_right _ _)⟩
  · rw [outcome] at log
    obtain ⟨more, log', within'⟩ := late value w'
    refine ⟨added ++ more, ?_, ?_⟩
    · rw [andThen_ok, log', log, List.append_assoc]
    · rw [List.flatMap_append, List.length_append]
      exact Nat.add_le_add within within'

theorem Spends.bind_silent {first : Act S I E X ε α} {next : α → Act S I E X ε β}
    (early : Spends body budget first) (late : ∀ value, Spends body 0 (next value)) :
    Spends body budget (first >>= next) :=
  early.bind late

theorem Spends.silent_bind {first : Act S I E X ε α} {next : α → Act S I E X ε β}
    (early : Spends body 0 first) (late : ∀ value, Spends body budget (next value)) :
    Spends body budget (first >>= next) :=
  (early.bind late).mono (Nat.zero_add budget).le

end Act

/-- What an end with a budget has written keeps to it. -/
theorem Act.Spends.output_le {party : Party S I E X ε α} {budget : Nat}
    (spends : party.act.Spends party.body budget) {w : Endpoint S I E X} (fresh : w.log = []) :
    (party.output w).length ≤ budget := by
  obtain ⟨added, log, within⟩ := spends w
  rw [Party.output, log, fresh, List.nil_append]
  exact within

end Framing
