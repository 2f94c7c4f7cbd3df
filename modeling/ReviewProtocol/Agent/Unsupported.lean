import ReviewProtocol.Agent.Meaning

set_option autoImplicit false

/- Requests that an agent has nothing for: codes that it does not know, and methods that its
handler leaves to the defaults of the trait. Each gets an answer, and is otherwise as if it
had not been sent. -/
namespace ReviewProtocol

open Framing (Bytes SendStream Halt)

variable {σ : Type}

/-- The default of most methods of either trait. -/
def Unsupported {ty : WireTy} (ask : σ → Except String ty.denote × σ) : Prop :=
  ∀ state, ask state = (.error "not supported", state)

/-- Nothing behind the request looks at it. -/
def Plan.Inert (handler : NodeHandler σ) : Plan σ → Prop
  | undecodable _ => False
  | answer _ _ => True
  | unary _ _ ask => Unsupported ask
  | silent _ ask => ∀ state, ask state = state
  | install fields => Unsupported (handler.call (.nodePackageInstallPreflight (.install fields)))

/-- What such a request is answered. -/
def Plan.dismissal : Plan σ → List ((ty : WireTy) × Except String ty.denote)
  | undecodable _ => []
  | answer ty result => [⟨ty, result⟩]
  | unary _ ty _ => [⟨ty, .error "not supported"⟩]
  | silent _ _ => []
  | install _ => [⟨.installPreflight, .error "not supported"⟩]

section inert

variable {wire : Wire} {loop : Loop σ} {exchange : Exchange}
  (inert : (loop.plan wire exchange.code exchange.body).Inert loop.nodeHandler)

include inert

theorem Loop.mean_inert (state : σ) :
    (loop.mean wire state exchange).1.replies =
        (loop.plan wire exchange.code exchange.body).dismissal ∧
      (loop.mean wire state exchange).2 = (state, .ok ()) := by
  unfold Loop.mean
  cases plan : loop.plan wire exchange.code exchange.body with
  | undecodable error =>
      rw [plan] at inert
      exact inert.elim
  | answer ty result => exact ⟨rfl, rfl⟩
  | unary call ty ask =>
      rw [plan] at inert
      dsimp only
      rw [inert state]
      exact ⟨rfl, rfl⟩
  | silent call ask =>
      rw [plan] at inert
      dsimp only
      rw [inert state]
      exact ⟨rfl, rfl⟩
  | install fields =>
      rw [plan] at inert
      have verdict : verdictOf loop.nodeHandler (.install fields) state =
          .error "not supported" := congrArg Prod.fst (inert state)
      simp only [NodeHandler.mean, verdict, inert state]
      exact ⟨rfl, rfl⟩

theorem Loop.machine_inert : (loop.machine wire).Inert exchange :=
  fun state => (loop.mean_inert inert state).2

end inert

/-- What comes of a conversation apart from the requests that are not kept. -/
structure Apart (wire : Wire) (loop : Loop σ) (kept : Exchange → Bool)
    (answered : List (Exchange × Deed)) (log : List AgentEvent) : Prop where
  called : calls log = answered.flatMap fun answer => answer.2.calls
  replied : responses log = answered.flatMap fun answer => answer.2.replies
  dismissed : ∀ answer ∈ answered, kept answer.1 = false →
    answer.2.replies = (loop.plan wire answer.1.code answer.1.body).dismissal

/-- Of two conversations that differ in nothing but requests the agent has nothing for, an
agent makes the same: it ends in the same state and for the same reason, and does the same
for every other request and answers it the same. -/
theorem unsupported_without_trace (wire : Wire) (loop : Loop σ) (kept : Exchange → Bool)
    (first second : List Exchange) (tail tail' : Bytes)
    (inert : ∀ exchange, exchange ∈ first ∨ exchange ∈ second → kept exchange = false →
      (loop.plan wire exchange.code exchange.body).Inert loop.nodeHandler)
    (same : first.filter kept = second.filter kept)
    (incomplete : Framing.splitFrame tail = none) (incomplete' : Framing.splitFrame tail' = none)
    (state : σ) (fin : Option IoError) (send send' : SendStream IoError)
    (meant : loop.Meant wire state first) (meant' : loop.Meant wire state second)
    (sent : AllSent (connected state ⟨scriptBytes first ++ tail, fin⟩ send)
      ((loop.run wire).run (connected state ⟨scriptBytes first ++ tail, fin⟩ send)).2)
    (sent' : AllSent (connected state ⟨scriptBytes second ++ tail', fin⟩ send')
      ((loop.run wire).run (connected state ⟨scriptBytes second ++ tail', fin⟩ send')).2) :
    let w := (loop.run wire).run (connected state ⟨scriptBytes first ++ tail, fin⟩ send)
    let m := (loop.run wire).run (connected state ⟨scriptBytes second ++ tail', fin⟩ send')
    m.1 = w.1 ∧ m.2.state = w.2.state ∧ ∃ answered answered',
      Apart wire loop kept answered w.2.log ∧ Apart wire loop kept answered' m.2.log ∧
      answered.filter (fun answer => kept answer.1) =
        answered'.filter fun answer => kept answer.1 := by
  have means := loop.run_means wire first incomplete rfl meant sent
  have means' := loop.run_means wire second incomplete' rfl meant' sent'
  obtain ⟨ended, agreed⟩ := (loop.machine wire).run_agree kept
    (fun exchange mem dropped => loop.machine_inert (inert exchange mem dropped)) same state
  have dismissed (script : List Exchange)
      (unsupported : ∀ exchange ∈ script, kept exchange = false →
        (loop.plan wire exchange.code exchange.body).Inert loop.nodeHandler) :
      ∀ answer ∈ ((loop.machine wire).run state script).1, kept answer.1 = false →
        answer.2.replies = (loop.plan wire answer.1.code answer.1.body).dismissal := by
    intro answer mem dropped
    obtain ⟨sent, before, given⟩ := (loop.machine wire).run_answers mem
    rw [← given]
    exact (loop.mean_inert (unsupported _ sent dropped) before).1
  refine ⟨?_, ?_, _, _, ⟨means.called, means.replied, dismissed first ?_⟩,
    ⟨means'.called, means'.replied, dismissed second ?_⟩, agreed⟩
  · rw [means.outcome, means'.outcome]
    exact congrArg (fun last => ending fin last.2) ended.symm
  · rw [means.state, means'.state]
    exact congrArg Prod.fst ended.symm
  · intro exchange mem
    exact inert exchange (.inl mem)
  · intro exchange mem
    exact inert exchange (.inr mem)

/-- The install and the reboot of `sampleTalk`, and a call of `dns_start` in place of the
unassigned code. -/
def quietTalk : List Exchange :=
  [⟨109, Encoding.nodePackageRequest.encode (.install (bareInstall 2)), [[1], [2]],
      install_fits, chunks_fit⟩,
    ⟨106, Encoding.nodePowerRequest.encode .reboot, [], reboot_fits, none_fit⟩,
    ⟨1, [], [], bare_fits 1, none_fit⟩]

theorem quietTalk_meant : (Loop.handle eagerHandler).Meant Encoding.bincode () quietTalk := by
  refine ⟨(⟨rfl, by decide⟩ : Payload 2 [[1], [2]]), fun _ => ?_⟩
  refine ⟨(rfl : ([] : List Bytes) = []), fun _ => ?_⟩
  exact ⟨(rfl : ([] : List Bytes) = []), fun _ => trivial⟩

/-- The codes of `Install` and `Reboot`. -/
def understood (exchange : Exchange) : Bool := exchange.code = 109 || exchange.code = 106

theorem quietTalk_inert (exchange : Exchange)
    (mem : exchange ∈ sampleTalk ∨ exchange ∈ quietTalk) (dropped : understood exchange = false) :
    ((Loop.handle eagerHandler).plan Encoding.bincode exchange.code exchange.body).Inert
      (Loop.handle eagerHandler).nodeHandler := by
  simp only [sampleTalk, quietTalk, List.mem_cons, List.not_mem_nil, or_false] at mem
  rcases mem with (rfl | rfl | rfl) | (rfl | rfl | rfl)
  · cases dropped
  · exact trivial
  · cases dropped
  · cases dropped
  · cases dropped
  · exact fun _ => rfl

theorem unsupported_without_trace_sample :
    (((Loop.handle eagerHandler).run Encoding.bincode).run
      (connected () ⟨scriptBytes quietTalk ++ [7], none⟩
        (.healthy (.simple .invalidInput)))).1 =
    (((Loop.handle eagerHandler).run Encoding.bincode).run
      (connected () ⟨scriptBytes sampleTalk ++ [], none⟩
        (.healthy (.simple .invalidInput)))).1 :=
  (unsupported_without_trace Encoding.bincode (.handle eagerHandler) understood sampleTalk
    quietTalk [] [7] quietTalk_inert rfl rfl rfl () none (.healthy (.simple .invalidInput))
    (.healthy (.simple .invalidInput)) sampleTalk_meant quietTalk_meant rfl rfl).1

end ReviewProtocol
