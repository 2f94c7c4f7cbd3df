import ReviewProtocol.Fidelity
import ReviewProtocol.Handshake
import ReviewProtocol.Lib.Confluence

set_option autoImplicit false

/- A connection comes to the same whatever the order of deliveries: neither end writes
without bound, so every stream that is not cut off has one end, and every state on the way
leads there. -/
namespace ReviewProtocol

open Framing (Bytes Act SendStream Party Duplex frame)
open Framing.Act (Spends)
open Framing.Duplex (Open Toward Settled)
open Server (Manager ManagerAct ManagerEvent Method Sending ManagerCall ApiError)

variable {σ σ' τ ι κ α β : Type}

/-! ### What the manager may write -/

section budget

variable {call : ManagerAct τ β}

theorem spends_openBi : Spends (managerParty call).body 0 (Server.openBi : ManagerAct τ Unit) := by
  refine Spends.bind_silent (Act.spends_update _) fun refused => ?_
  cases refused with
  | none => exact Act.spends_emit rfl
  | some error => exact Act.spends_nothing fun _ => rfl

theorem spends_sendRaw (wire : Wire) (code : Client.RequestCode) (ty : WireTy)
    (payload : ty.denote) :
    Spends (managerParty call).body
      (Framing.frame (Wire.requestFrame code.discriminant (wire.encode ty payload))).length
      (Server.sendRaw wire code ty payload : ManagerAct τ Unit) :=
  Spends.bind_silent (Act.spends_send rfl) fun _ => Act.spends_orFail _ _

theorem spends_recvResult (wire : Wire) (ty : WireTy) (context : Option String) :
    Spends (managerParty call).body 0 (Server.recvResult wire ty context : ManagerAct τ _) := by
  refine Spends.bind_silent Act.spends_recv fun read => ?_
  cases read with
  | error error => exact Act.spends_nothing fun _ => rfl
  | ok body =>
      dsimp only
      cases wire.decode (.result ty) body with
      | error error => exact Act.spends_nothing fun _ => rfl
      | ok result =>
          exact Spends.bind_silent (Act.spends_emit rfl) fun _ => Act.spends_orFail _ _

/-- A chunk and its length prefix are at most five bytes for each of its own. -/
theorem length_chunk_le {data : Bytes} (some : data ≠ []) :
    (frame data).length ≤ 5 * data.length := by
  have positive := List.length_pos_iff.mpr some
  rw [Framing.length_frame]
  omega

/-- What is written of a package and what is left of it. -/
theorem spends_sendPackage (size : Nat) :
    Spends (managerParty call).body (5 * size)
      (Server.sendPackage size : ManagerAct τ (Except ApiError Unit)) := by
  intro w
  have read (result : Except IoError Bytes) :
      (managerParty call).written [.read result] = [] := rfl
  refine Act.loop_rule (Server.sendPackageRound_decreasing size)
    (fun remaining v => ∃ added, v.log = w.log ++ added ∧
      ((managerParty call).written added).length + 5 * remaining ≤ 5 * size)
    (fun outcome => ∃ added, outcome.2.log = w.log ++ added ∧
      ((managerParty call).written added).length ≤ 5 * size)
    ?_ ?_ ?_ size w ⟨[], (List.append_nil _).symm, Nat.le_of_eq (Nat.zero_add _)⟩
  · rintro remaining v again v' ⟨added, log, within⟩ ran
    rcases Server.sendPackageRound_cases size remaining v with
      ⟨-, done⟩ | ⟨-, -, waits⟩ | ⟨-, error, result, rest, -, quits⟩ |
      ⟨-, data, more, rest, -, some, fits, -, ⟨-, sent⟩ | ⟨error, -, lost⟩⟩
    · rw [done] at ran
      cases ran
    · rw [waits] at ran
      cases ran
    · rw [quits] at ran
      cases ran
    · rw [sent] at ran
      cases ran
      have chunk : (managerParty call).written [.read (.ok data), .chunk data] = frame data :=
        List.append_nil _
      have short := length_chunk_le some
      refine ⟨added ++ [.read (.ok data), .chunk data], ?_, ?_⟩
      · rw [log, List.append_assoc]
      · rw [Party.written_append, chunk, List.length_append]
        omega
    · rw [lost] at ran
      cases ran
  · rintro remaining v value v' ⟨added, log, within⟩ ran
    rcases Server.sendPackageRound_cases size remaining v with
      ⟨-, done⟩ | ⟨-, -, waits⟩ | ⟨-, error, result, rest, -, quits⟩ |
      ⟨-, data, more, rest, -, -, -, -, ⟨-, sent⟩ | ⟨error, -, lost⟩⟩
    · rw [done] at ran
      cases ran
      exact ⟨added, log, by omega⟩
    · rw [waits] at ran
      cases ran
    · rw [quits] at ran
      cases ran
      refine ⟨added ++ [.read result], ?_, ?_⟩
      · rw [log, List.append_assoc]
      · rw [Party.written_append, read, List.append_nil]
        omega
    · rw [sent] at ran
      cases ran
    · rw [lost] at ran
      cases ran
      refine ⟨added ++ [.read (.ok data)], ?_, ?_⟩
      · rw [log, List.append_assoc]
      · rw [Party.written_append, read, List.append_nil]
        omega
  · rintro remaining v halt v' ⟨added, log, within⟩ ran
    rcases Server.sendPackageRound_cases size remaining v with
      ⟨-, done⟩ | ⟨-, -, waits⟩ | ⟨-, error, result, rest, -, quits⟩ |
      ⟨-, data, more, rest, -, -, -, -, ⟨-, sent⟩ | ⟨error, -, lost⟩⟩
    · rw [done] at ran
      cases ran
    · rw [waits] at ran
      cases ran
      exact ⟨added, log, by omega⟩
    · rw [quits] at ran
      cases ran
    · rw [sent] at ran
      cases ran
    · rw [lost] at ran
      cases ran

theorem spends_installExchange (wire : Wire) (req : NodePackageRequest) (size : UInt64) :
    Spends (managerParty call).body ((frame (Server.installFrame wire req)).length + 5 * size.toNat)
      (Server.installExchange wire req size : ManagerAct τ _) := by
  refine Spends.silent_bind spends_openBi fun _ => ?_
  refine Spends.bind (spends_sendRaw wire _ _ _) fun _ => ?_
  refine Spends.silent_bind (spends_recvResult wire _ _) fun verdict => ?_
  cases verdict with
  | proceed =>
      refine Spends.bind_silent (spends_sendPackage size.toNat) fun result => ?_
      cases result with
      | error error =>
          exact Spends.bind_silent (Act.spends_emit rfl) fun _ =>
            Act.spends_nothing fun _ => rfl
      | ok done =>
          exact Spends.bind_silent (spends_recvResult wire _ _) fun _ => Act.spends_pure _
  | _ => exact Act.spends_pure _

/-- What a method may write: its request, and of a package five bytes for each of its own. -/
def Server.Sending.budget (wire : Wire) : Sending α → Nat
  | silent code ty payload _ =>
      (Framing.frame (Wire.requestFrame code.discriminant (wire.encode ty payload))).length
  | single code ty payload _ _ =>
      (Framing.frame (Wire.requestFrame code.discriminant (wire.encode ty payload))).length
  | install fields _ =>
      (Framing.frame (Server.installFrame wire (.install fields))).length + 5 * fields.size.toNat

theorem Server.Sending.spends (wire : Wire) (sending : Sending α) :
    Spends (managerParty call).body (sending.budget wire)
      (sending.perform wire : ManagerAct τ α) := by
  cases sending with
  | silent code ty payload value =>
      refine Spends.bind_silent ?_ fun _ => Act.spends_pure _
      exact Spends.silent_bind spends_openBi fun _ =>
        Spends.bind_silent (spends_sendRaw wire _ _ _) fun _ => Act.spends_emit rfl
  | single code ty payload ret wrap =>
      refine Spends.bind_silent ?_ fun _ => Act.spends_pure _
      exact Spends.silent_bind spends_openBi fun _ =>
        Spends.bind_silent (spends_sendRaw wire _ _ _) fun _ => spends_recvResult wire _ _
  | install fields wrap =>
      exact Spends.bind_silent (spends_installExchange wire _ _) fun _ => Act.spends_pure _

theorem spends_authorize (service : ServiceId)
    (ask : τ → Except AuthorizationError Unit × τ) :
    Spends (managerParty call).body 0 (Server.authorize service ask : ManagerAct τ Unit) :=
  Spends.bind_silent (Act.spends_update _) fun _ =>
    Spends.bind_silent (Act.spends_emit rfl) fun _ => Act.spends_orFail _ _

theorem Server.Method.spends_leave (method : Method τ) :
    Spends (managerParty call).body 0 method.leave := by
  cases method with
  | flat send => exact Act.spends_pure _
  | node call => exact Act.spends_pure _
  | asked gate call => exact spends_authorize _ _

/-- A method that sends nothing was given what another method is for. -/
theorem Server.ManagerCall.rejected {call : ManagerCall} (unsent : call.sending = none) :
    call.Rejected := by
  cases call with
  | nodePower req => cases req <;> cases unsent
  | nodePackage req =>
      cases req with
      | install fields => trivial
      | _ => cases unsent
  | nodePackageInstall req =>
      cases req with
      | install fields => cases unsent
      | _ => trivial
  | _ => cases unsent

theorem Server.ManagerCall.run_plain_rejected (wire : Wire) (call : ManagerCall)
    (rejected : call.Rejected) (w : Manager τ) :
    ∃ text, (call.plain wire).run w = (.error (.failed (.message text)), w) := by
  cases call with
  | nodePackage req =>
      cases req with
      | install fields => exact ⟨_, rfl⟩
      | _ => exact absurd rejected not_false
  | nodePackageInstall req =>
      cases req with
      | install fields => exact absurd rejected not_false
      | _ => exact ⟨_, rfl⟩
  | _ => exact absurd rejected not_false

/-- Such a method does nothing. -/
theorem Server.Method.log_of_unsent (wire : Wire) (method : Method τ)
    (unsent : method.sending = none) (w : Manager τ) : ((method.act wire).run w).2.log = w.log := by
  cases method with
  | flat send => cases unsent
  | node call =>
      obtain ⟨text, ran⟩ := call.run_plain_rejected wire (ManagerCall.rejected unsent) w
      rw [act, ran]
  | asked gate call =>
      obtain ⟨text, ran⟩ := call.run_rejected wire gate (ManagerCall.rejected unsent) w
      rw [act, ran]

theorem Server.Method.spends (wire : Wire) (method : Method τ) :
    ∃ budget, Spends (managerParty call).body budget (method.act wire) := by
  cases accepted : method.sending with
  | some sending =>
      refine ⟨sending.budget wire, ?_⟩
      rw [method.act_eq wire accepted]
      exact Spends.silent_bind method.spends_leave fun _ => sending.spends wire
  | none => exact ⟨0, Act.spends_nothing (method.log_of_unsent wire accepted)⟩

end budget

/-! ### One end -/

theorem ClientStream.exists_final (wire : Wire) (peer : String) (stream : ClientStream σ) :
    ∃ final, ∀ now,
      Duplex.Reachable (stream.near wire) (stream.far wire peer) stream.start now →
      Open [] now → Toward (stream.near wire) (stream.far wire peer) [] now final := by
  refine Duplex.exists_final (frame (stream.call.requestFrame wire)).length
    ⟨rfl, rfl, List.prefix_rfl⟩ rfl rfl ?_
  intro now reachable
  have fresh : now.near.log = [] := by rw [reachable.frame.1]; rfl
  rcases (stream.call.asked wire peer fresh).output_cases with silent | ⟨written, -⟩
  · have same : (stream.near wire).output now.near = [] := silent
    rw [same]
    exact Nat.zero_le _
  · have same : (stream.near wire).output now.near = frame (stream.call.requestFrame wire) :=
      written
    rw [same]

theorem ManagerStream.exists_final (wire : Wire) (stream : ManagerStream σ τ)
    (source : Server.Source) :
    ∃ final, ∀ now, Duplex.Reachable (stream.near wire) (stream.far wire) stream.start now →
      Open source now → Toward (stream.near wire) (stream.far wire) source now final := by
  have bounded : ∃ budget, Spends (stream.near wire).body budget (stream.near wire).act :=
    stream.method.spends wire
  obtain ⟨budget, spends⟩ := bounded
  refine Duplex.exists_final budget ⟨rfl, rfl, List.nil_prefix⟩ rfl rfl ?_
  intro now reachable
  have fresh : now.near.log = [] := by rw [reachable.frame.1]; rfl
  exact spends.output_le fresh

/-- Whatever the order in which a connection's streams and their deliveries take turns, every
stream that is not cut off comes to the one end that it has for its source: what either side
has come to or done by now is what it comes to and does there, and once all streams have
arrived, the connection is in this one state. -/
theorem schedule_independence (wire : Wire) (peer : String) (ups : ι → ClientStream σ)
    (downs : κ → ManagerStream σ' τ) (source : κ → Server.Source) :
    ∃ final : Connection σ σ' τ ι κ, ∀ now, Connection.Reaches wire peer ups downs now →
      (∀ i, Open [] (now.1 i) →
        Toward ((ups i).near wire) ((ups i).far wire peer) [] (now.1 i) (final.1 i)) ∧
      (∀ k, Open (source k) (now.2 k) →
        Toward ((downs k).near wire) ((downs k).far wire) (source k) (now.2 k) (final.2 k)) ∧
      ((∀ i, Open [] (now.1 i) ∧
          Settled ((ups i).near wire) ((ups i).far wire peer) [] (now.1 i)) →
        (∀ k, Open (source k) (now.2 k) ∧
          Settled ((downs k).near wire) ((downs k).far wire) (source k) (now.2 k)) →
        now = final) := by
  choose up upward using fun i => (ups i).exists_final wire peer
  choose down downward using fun k => (downs k).exists_final wire (source k)
  refine ⟨(up, down), ?_⟩
  intro now reaches
  obtain ⟨first, second⟩ := Framing.reachable_beside reaches
  have ascends (i : ι) := upward i (now.1 i) (Duplex.ReachableAll.stream first i)
  have descends (k : κ) := downward k (now.2 k) (Duplex.ReachableAll.stream second k)
  refine ⟨ascends, descends, ?_⟩
  intro arrived arrived'
  refine Prod.ext (funext fun i => ?_) (funext fun k => ?_)
  · exact (ascends i (arrived i).1).only (arrived i).2
  · exact (descends k (arrived' k).1).only (arrived' k).2

/-- Of the two sample streams, both have arrived where their calls have their answers. -/
theorem schedule_independence_sample :
    ∃ final : Connection Nat Unit Unit Unit Unit,
      ((Client.insertModel Encoding.bincode [1, 2, 3]).run (final.1 ()).near).1 = .ok 3 ∧
      ((Server.nodePower Encoding.bincode .gracefulReboot).run (final.2 ()).near).1 =
        .ok (.response .initiated) ∧
      Toward (sampleUp.near Encoding.bincode) (sampleUp.far Encoding.bincode "agent") []
        sampleUp.start (final.1 ()) := by
  obtain ⟨final, toward⟩ := schedule_independence Encoding.bincode "agent"
    (fun _ : Unit => sampleUp) (fun _ : Unit => sampleDown) (fun _ => [])
  obtain ⟨-, -, only⟩ := toward _ sample_reached
  have arrived := only (fun _ => ⟨⟨rfl, rfl, List.prefix_rfl⟩, ⟨rfl, rfl⟩, rfl⟩)
    (fun _ => ⟨⟨rfl, rfl, List.prefix_rfl⟩, ⟨rfl, rfl⟩, rfl⟩)
  obtain ⟨begins, -, -⟩ := toward (fun _ => sampleUp.start, fun _ => sampleDown.start) .refl
  refine ⟨final, ?_, ?_, begins () ⟨rfl, rfl, List.prefix_rfl⟩⟩
  · rw [← arrived]
    rfl
  · rw [← arrived]
    rfl

end ReviewProtocol
