import ReviewProtocol.Integrity
import ReviewProtocol.Schedule

set_option autoImplicit false

/- The two ends of a stream take turns: neither writes while what the other has written is
still on its way, so two full windows never face each other. -/
namespace ReviewProtocol

open Framing (Bytes RecvStream Party Duplex frame)
open Framing.Duplex (OneWay Delivered)
open Server (ManagerEvent Opening Method Sending ManagerCall)

variable {σ σ' τ ι κ : Type}

/-- Chunks that leave no room for more of the package are all there are. -/
theorem Sendable.all {size : Nat} {sent read : List Bytes} (sendable : Sendable size sent)
    (front : read <+: sent) (total : read.flatten.length = size) : read = sent := by
  obtain ⟨left, rfl⟩ := front
  have within := sendable.total
  rw [List.flatten_append, List.length_append] at within
  cases left with
  | nil => rw [List.append_nil]
  | cons chunk left =>
      have mem : chunk ∈ read ++ chunk :: left := List.mem_append_right _ List.mem_cons_self
      have positive := List.length_pos_iff.mpr (sendable.nonempty chunk mem)
      rw [List.flatten_cons, List.length_append] at within
      omega

/-- In an install, the agent's answers and the manager's package take turns. -/
theorem install_oneWay (wire : Wire) (loop : Loop σ) (method : Method τ) {fields : Install}
    {wrap : Server.InstallOutcome → method.Outcome}
    (accepted : method.sending = some (.install fields wrap))
    (lawful : wire.RoundTrips .nodePackageRequest (.install fields))
    (verdicts : ∀ verdict, wire.RoundTrips (.result .installPreflight) verdict)
    {now : Duplex (Opening τ) (Except IoError Bytes) ManagerEvent IoError σ AgentEvent IoError}
    (freshNear : now.near.log = []) (freshFar : now.far.log = [])
    (delivered : Delivered (managerParty (method.act wire)) (agentParty wire loop) now)
    (unfinished : now.far.recv.fin = none) :
    OneWay (managerParty (method.act wire)) (agentParty wire loop) now := by
  obtain ⟨installing, receiving⟩ :=
    install_underway wire loop method accepted lawful verdicts freshNear freshFar delivered
  have toFar := delivered.toFar
  have toNear := delivered.toNear
  rw [Party.output, agentParty_written] at toNear
  cases installing with
  | unsent silent none =>
      rw [silent] at toFar
      exact .inl ((List.prefix_nil.mp toFar).trans silent.symm)
  | requested fits written none =>
      by_cases idle : ((loop.run wire).run now.far).2.log = []
      · refine delivered.oneWay_of_silent ?_
        rw [Party.output, agentParty_written]
        exact congrArg (responseBytes wire ∘ responses) idle
      · rw [written] at toFar
        have whole := toFar.eq_of_length_le (receiving.begun idle).length_le
        exact .inl (whole.trans written.symm)
  | streaming fits written sends body rest answer =>
      rw [written] at toFar
      obtain ⟨-, later, replies, same, after, none | ⟨result, more, answered⟩⟩ :=
        verdict_read freshFar lawful verdicts fits answer toFar toNear
      · -- The manager has read all that the agent wrote.
        right
        rw [none] at replies after
        rw [Party.output, agentParty_written, answer.bytes, same, List.prefix_nil.mp after]
        exact (congrArg (responseBytes wire) replies).symm
      · -- The agent has read all that the manager wrote.
        left
        have mem : .replied .nodePackageResponse result ∈ ((loop.run wire).run now.far).2.log := by
          have given : ⟨.nodePackageResponse, result⟩ ∈
              responses ((loop.run wire).run now.far).2.log := by
            rw [replies, answered]
            exact List.mem_cons_of_mem _ List.mem_cons_self
          obtain ⟨event, mem, same⟩ := List.mem_filterMap.mp given
          cases event with
          | replied ty value =>
              cases same
              exact mem
          | _ => cases same
        rcases receiving.answered result mem with ⟨total, bytes⟩ | ⟨ended, -⟩
        · rw [bytes, sends.sendable.all receiving.read total]
          exact written.symm
        · exact absurd unfinished ended

/-- So do a call of an agent and the manager. -/
theorem ClientStream.oneWay {wire : Wire} {peer : String} {stream : ClientStream σ}
    {now : Duplex (Option IoError) Empty Client.ClientEvent IoError (Server.State σ Unit)
      Server.ServerEvent IoError}
    (reachable : Duplex.Reachable (stream.near wire) (stream.far wire peer) stream.start now) :
    OneWay (stream.near wire) (stream.far wire peer) now := by
  have freshNear : now.near.log = [] := by rw [reachable.frame.1]; rfl
  have freshFar : now.far.log = [] := by rw [reachable.frame.2]; rfl
  let gate : Server.Gate Unit := .legacy (.new peer) noopAuthorizer
  have loop : (stream.far wire peer).act =
      (Server.serverProtocol wire).serve (gate.arms wire stream.handler) :=
    gate.loop_eq_serve wire stream.handler
  exact Framing.oneWay_of_one loop freshFar (reachable.delivered rfl rfl)
    (stream.call.asked wire peer freshNear).output_cases
    (wire.splitRequest_requestFrame stream.call.asking.code.discriminant _)

/-- What an install writes comes back from the wire as it was. -/
def ManagerStream.Spells (wire : Wire) (stream : ManagerStream σ τ) : Prop :=
  ∀ fields wrap, stream.method.sending = some (.install fields wrap) →
    wire.RoundTrips .nodePackageRequest (.install fields) ∧
      ∀ verdict, wire.RoundTrips (.result .installPreflight) verdict

/-- So do every method of the manager and the agent. -/
theorem ManagerStream.oneWay {wire : Wire} {stream : ManagerStream σ τ}
    (spells : stream.Spells wire)
    {now : Duplex (Opening τ) (Except IoError Bytes) ManagerEvent IoError σ AgentEvent IoError}
    (reachable : Duplex.Reachable (stream.near wire) (stream.far wire) stream.start now)
    (unfinished : now.far.recv.fin = none) : OneWay (stream.near wire) (stream.far wire) now := by
  have freshNear : now.near.log = [] := by rw [reachable.frame.1]; rfl
  have freshFar : now.far.log = [] := by rw [reachable.frame.2]; rfl
  have delivered := reachable.delivered rfl rfl
  have loop : (stream.far wire).act =
      (agentProtocol wire).serve (goOn (stream.handler.dispatch wire)) := rfl
  have parses (code : Client.RequestCode) (body : Bytes) :
      (agentProtocol wire).parse (Wire.requestFrame code.discriminant body) =
        .ok (code.discriminant, body) := wire.splitRequest_requestFrame code.discriminant body
  cases accepted : stream.method.sending with
  | none =>
      have silent : (stream.near wire).output now.near = [] := by
        have ran := stream.method.log_of_unsent wire accepted now.near
        have act : (stream.near wire).act = stream.method.act wire := rfl
        rw [Party.output, act, ran, freshNear]
        rfl
      have toFar := delivered.toFar
      rw [silent] at toFar
      exact .inl ((List.prefix_nil.mp toFar).trans silent.symm)
  | some sending =>
      cases sending with
      | silent code ty payload value =>
          refine Framing.oneWay_of_one loop freshFar delivered ?_
            (parses code (wire.encode ty payload))
          rcases (Method.told wire stream.method accepted freshNear).1 with
            ⟨silent, -⟩ | ⟨written, small, -⟩
          · exact .inl silent
          · exact .inr ⟨written, small⟩
      | single code ty payload ret wrap =>
          exact Framing.oneWay_of_one loop freshFar delivered
            (Method.asked wire stream.method accepted freshNear).output_cases (parses code _)
      | install fields wrap =>
          obtain ⟨lawful, verdicts⟩ := spells fields wrap accepted
          exact install_oneWay wire (.handle stream.handler) stream.method accepted lawful
            verdicts freshNear freshFar delivered unfinished

/-- At no moment of any interleaving do both directions of one stream have bytes on the way:
not in a call of an agent, and not in a method of the manager, be it an install, unless the
agent has lost the stream. So whatever windows the transport keeps, the two ends never both
wait to write. -/
theorem half_duplex (wire : Wire) (peer : String) (ups : ι → ClientStream σ)
    (downs : κ → ManagerStream σ' τ) (spells : ∀ k, (downs k).Spells wire)
    (now : Connection σ σ' τ ι κ) (reaches : Connection.Reaches wire peer ups downs now) :
    (∀ i, OneWay ((ups i).near wire) ((ups i).far wire peer) (now.1 i)) ∧
    ∀ k, (now.2 k).far.recv.fin = none →
      OneWay ((downs k).near wire) ((downs k).far wire) (now.2 k) := by
  obtain ⟨up, down⟩ := Framing.reachable_beside reaches
  refine ⟨?_, ?_⟩
  · intro i
    exact ClientStream.oneWay (Duplex.ReachableAll.stream up i)
  · intro k unfinished
    exact ManagerStream.oneWay (spells k) (Duplex.ReachableAll.stream down k) unfinished

/-- Of the sample streams each has gone one way at a time. -/
theorem half_duplex_sample :
    OneWay (sampleUp.near Encoding.bincode) (sampleUp.far Encoding.bincode "agent")
      sampleAnswered ∧
    OneWay (sampleDown.near Encoding.bincode) (sampleDown.far Encoding.bincode) sampleReplied := by
  have spells : sampleDown.Spells Encoding.bincode := by
    intro fields wrap accepted
    cases accepted
  obtain ⟨up, down⟩ := half_duplex Encoding.bincode "agent" (fun _ : Unit => sampleUp)
    (fun _ : Unit => sampleDown) (fun _ => spells) _ sample_reached
  exact ⟨up (), down () rfl⟩

end ReviewProtocol
