import ReviewProtocol.Agent.Install
import ReviewProtocol.Encoding

set_option autoImplicit false

/- Runs of the two dispatch loops: what one request does, and from it what a whole
stream does. -/
namespace ReviewProtocol

open Framing (Bytes Act RecvStream SendStream Halt)

variable {σ : Type}

/-- The agent after a handler call. -/
def asked (w : Agent σ) (call : AgentCall) (state : σ) : Agent σ :=
  { w with state, log := w.log ++ [.called call] }

/-- Everything a request can come to, by its plan. -/
inductive Performs (handler : NodeHandler σ) (code : UInt32) (w : Agent σ) :
    Plan σ → Except (Halt HandlerError) Unit → Agent σ → Prop where
  | undecodable (error : IoError) :
      Performs handler code w (.undecodable error) (.error (.failed (.recvError error)))
        (wrote w .unit (.error (undecodableArgsMessage code)))
  | undecodableLost (error : IoError) :
      Performs handler code w (.undecodable error) (.error (.failed (.recvError error)))
        (lostWrite w)
  | answered (ty : WireTy) (result : Except String ty.denote) :
      Performs handler code w (.answer ty result) (.ok ()) (wrote w ty result)
  | answerLost (ty : WireTy) (result : Except String ty.denote) (error : IoError) :
      Performs handler code w (.answer ty result) (.error (.failed (.sendError error)))
        (lostWrite w)
  | unary (call : AgentCall) (ty : WireTy) (ask : σ → Except String ty.denote × σ) :
      Performs handler code w (.unary call ty ask) (.ok ())
        (wrote (asked w call (ask w.state).2) ty (ask w.state).1)
  | unaryLost (call : AgentCall) (ty : WireTy) (ask : σ → Except String ty.denote × σ)
      (error : IoError) :
      Performs handler code w (.unary call ty ask) (.error (.failed (.sendError error)))
        (lostWrite (asked w call (ask w.state).2))
  | silent (call : AgentCall) (ask : σ → σ) :
      Performs handler code w (.silent call ask) (.ok ()) (asked w call (ask w.state))
  | install (fields : Install) (outcome : Except (Halt HandlerError) Unit) (w' : Agent σ)
      (installs : Installs handler (.install fields) fields.size.toNat w outcome w') :
      Performs handler code w (.install fields) outcome w'

theorem Plan.perform_performs (wire : Wire) (handler : NodeHandler σ) (code : UInt32)
    (plan : Plan σ) (w : Agent σ) :
    Performs handler code w plan ((plan.perform wire handler code).run w).1
      ((plan.perform wire handler code).run w).2 := by
  cases plan with
  | undecodable error =>
      simp only [Plan.perform, Act.run_bind]
      rcases run_trySend wire .unit (.error (undecodableArgsMessage code)) w with sent | ⟨_, lost⟩
      · rw [sent]
        exact .undecodable error
      · rw [lost]
        exact .undecodableLost error
  | answer ty result =>
      simp only [Plan.perform]
      rcases run_sendResponse wire ty result w with sent | ⟨error, lost⟩
      · rw [sent]
        exact .answered ty result
      · rw [lost]
        exact .answerLost ty result error
  | unary call ty ask =>
      have unfolded : ((Plan.unary call ty ask).perform wire handler code).run w =
        (sendResponse wire ty (ask w.state).1).run (asked w call (ask w.state).2) := rfl
      rw [unfolded]
      rcases run_sendResponse wire ty (ask w.state).1 (asked w call (ask w.state).2) with
        sent | ⟨error, lost⟩
      · rw [sent]
        exact .unary call ty ask
      · rw [lost]
        exact .unaryLost call ty ask error
  | silent call ask => exact .silent call ask
  | install fields =>
      exact .install fields _ _
        (dispatchInstall_installs wire handler (.install fields) fields.size.toNat w)

theorem requests_payload {events : List AgentEvent}
    (payload : ∀ event ∈ events, event.IsPayload) : requests events = [] := by
  refine List.filterMap_eq_nil_iff.mpr fun event member => ?_
  have isPayload := payload event member
  cases event with
  | chunk remaining body => rfl
  | chunkLost error => rfl
  | request | called | installed | replied => cases isPayload

theorem requests_exchange (req : NodePackageRequest) (early late : List AgentEvent)
    (result : Except String NodePackageResponse)
    (payload : ∀ event ∈ early ++ late, event.IsPayload) :
    requests (exchange req early result late) = [] := by
  have none := requests_payload payload
  rw [requests_append] at none
  obtain ⟨noneEarly, noneLate⟩ := List.append_eq_nil_iff.mp none
  simp only [requests] at noneEarly noneLate
  simp [requests, exchange, opening, noneEarly, noneLate]

theorem Installs.leaves {handler : NodeHandler σ} {req : NodePackageRequest} {size : Nat}
    {w w' : Agent σ} {outcome : Except (Halt HandlerError) Unit}
    (installs : Installs handler req size w outcome w') :
    ∃ added, w'.log = w.log ++ added ∧ requests added = [] ∧
      (losses added ≠ [] → w'.recv.bytes = [] ∧ w'.recv.fin ≠ none) := by
  cases installs with
  | verdictLost error state => exact ⟨_, rfl, rfl, fun lost => absurd rfl lost⟩
  | refused state refused => exact ⟨_, rfl, rfl, fun lost => absurd rfl lost⟩
  | receiving state added reader stream proceed drawn awaits =>
      have none : requests added = [] := requests_payload drawn.payload
      exact ⟨_, rfl, none, drawn.lost⟩
  | draining state result early late reader stream proceed drawn awaits =>
      refine ⟨_, rfl, requests_exchange req early late result drawn.payload, ?_⟩
      rw [losses_exchange]
      exact drawn.lost
  | terminalLost error state result early late drained stream proceed transfer =>
      refine ⟨_, rfl, requests_exchange req early late result transfer.payload, ?_⟩
      rw [losses_exchange]
      exact transfer.lost
  | finished state result early late drained stream proceed transfer =>
      refine ⟨_, rfl, ?_, ?_⟩
      · rw [requests_append, requests_exchange req early late result transfer.payload]
        rfl
      · rw [losses_append, losses_exchange]
        exact fun lost => transfer.lost (by simpa [losses] using lost)

/-- A request leaves the next frame to the loop, and if a payload read was lost then
there is none. -/
theorem Performs.leaves {handler : NodeHandler σ} {code : UInt32} {w w' : Agent σ} {plan : Plan σ}
    {outcome : Except (Halt HandlerError) Unit}
    (performs : Performs handler code w plan outcome w') :
    ∃ added, w'.log = w.log ++ added ∧ requests added = [] ∧
      (losses added ≠ [] → w'.recv.bytes = [] ∧ w'.recv.fin ≠ none) := by
  cases performs with
  | undecodable error => exact ⟨_, rfl, rfl, fun lost => absurd rfl lost⟩
  | undecodableLost error => exact ⟨[], by simp [lostWrite], rfl, fun lost => absurd rfl lost⟩
  | answered ty result => exact ⟨_, rfl, rfl, fun lost => absurd rfl lost⟩
  | answerLost ty result error => exact ⟨[], by simp [lostWrite], rfl, fun lost => absurd rfl lost⟩
  | unary call ty ask =>
      exact ⟨_, List.append_assoc _ _ _, rfl, fun lost => absurd rfl lost⟩
  | unaryLost call ty ask error => exact ⟨_, rfl, rfl, fun lost => absurd rfl lost⟩
  | silent call ask => exact ⟨_, rfl, rfl, fun lost => absurd rfl lost⟩
  | install fields outcome w' installs => exact installs.leaves

/-! ### Agreement on node traffic -/

theorem isNode_of_range (code : UInt32) (low : 100 ≤ code) (high : code ≤ 110) :
    (Client.RequestCode.fromPrimitive code).isNode = true := by
  have cases : code ∈ [100, 101, 102, 103, 104, 105, 106, 107, 108, 109, (110 : UInt32)] := by
    have low' : 100 ≤ code.toNat := low
    have high' : code.toNat ≤ 110 := high
    simp only [List.mem_cons, List.not_mem_nil, or_false, ← UInt32.toNat_inj]
    simp only [UInt32.reduceToNat]
    omega
  have served : [100, 101, 102, 103, 104, 105, 106, 107, 108, 109, (110 : UInt32)].all
      (fun code => (Client.RequestCode.fromPrimitive code).isNode) = true := by decide +kernel
  exact List.all_eq_true.mp served code cases

theorem dispatch_agree (wire : Wire) (handler : Handler σ) (code : UInt32) (body : Bytes)
    (node : (Client.RequestCode.fromPrimitive code).isNode = true ∨
      Client.RequestCode.fromPrimitive code = .unknown) :
    handler.dispatch wire code body = handler.toNodeHandler.dispatch wire code body := by
  unfold Handler.dispatch NodeHandler.dispatch
  cases request : Client.RequestCode.fromPrimitive code <;> rw [request] at node <;>
    first
      | rfl
      | (rcases node with impossible | impossible <;> cases impossible)

/-- An agent at the start of a stream. -/
def connected (state : σ) (recv : RecvStream IoError) (send : SendStream IoError) : Agent σ :=
  ⟨state, [], recv, send, []⟩

/-- On a stream that carries only node and unassigned codes the two loops are one:
same calls, same frames, same state, same result. -/
theorem handle_eq_handleNode (wire : Wire) (handler : Handler σ) (state : σ)
    (recv : RecvStream IoError) (send : SendStream IoError)
    (node : ∀ request ∈ requests ((handle wire handler).run (connected state recv send)).2.log,
      (100 ≤ request.1 ∧ request.1 ≤ 110) ∨
        Client.RequestCode.fromPrimitive request.1 = .unknown) :
    (handle wire handler).run (connected state recv send) =
      (handleNode wire handler.toNodeHandler).run (connected state recv send) := by
  refine serve_congr wire _ _ _ fun request member => ?_
  apply dispatch_agree
  rcases node request member with ⟨low, high⟩ | unassigned
  · exact .inl (isNode_of_range request.1 low high)
  · exact .inr unassigned

/-- A handler that accepts every install without reading any of it, and every power
request. -/
def eagerHandler : Handler Unit where
  flat _ state := (.error "not supported", state)
  node
    | .nodePackageInstallPreflight _, state => (.ok .proceed, state)
    | .nodePower _, state => (.ok .initiated, state)
    | _, state => (.error "not supported", state)
  nodePackageInstall _ state := .ret (.ok .done, state)

/-- An install of this many bytes with every other field empty. -/
def bareInstall (size : UInt64) : Install :=
  { target := "", instanceNo := none, version := "", commit := "", size, idempotencyKey := ""
    bootstrapMaterial := none, onFailure := .rollback, bindAddrs := none, configTemplate := none
    privilegeProfile := none }

/-- A request frame as the manager writes it. -/
def encodedRequest (code : Client.RequestCode) (body : Bytes) : Bytes :=
  Framing.frame (Wire.requestFrame code.discriminant body)

/-- An install of one byte in one chunk, a reboot, an unassigned code, and a package
request that does not decode. -/
def nodeStream : RecvStream IoError where
  bytes :=
    encodedRequest .nodePackage (Encoding.nodePackageRequest.encode (.install (bareInstall 1))) ++
      Framing.frame [7] ++
      encodedRequest .nodePower (Encoding.nodePowerRequest.encode .reboot) ++
      Framing.frame (Wire.requestFrame 111 [1]) ++ encodedRequest .nodePackage [9]
  fin := none

theorem handle_eq_handleNode_nodeStream :
    (handle Encoding.bincode eagerHandler).run
        (connected () nodeStream (.healthy (.simple .invalidInput))) =
      (handleNode Encoding.bincode eagerHandler.toNodeHandler).run
        (connected () nodeStream (.healthy (.simple .invalidInput))) :=
  handle_eq_handleNode _ _ _ _ _ (by decide +kernel)

/-! ### Either loop -/

/-- A dispatch loop and the handler it serves. -/
inductive Loop (σ : Type) where
  | handle (handler : Handler σ)
  | handleNode (handler : NodeHandler σ)

namespace Loop

def arms (wire : Wire) : Loop σ → UInt32 → Bytes → AgentAct σ Unit
  | handle handler => handler.dispatch wire
  | handleNode handler => handler.dispatch wire

def run (wire : Wire) : Loop σ → AgentAct σ Unit
  | handle handler => ReviewProtocol.handle wire handler
  | handleNode handler => ReviewProtocol.handleNode wire handler

def nodeHandler : Loop σ → NodeHandler σ
  | handle handler => handler.toNodeHandler
  | handleNode handler => handler

/-- The request a code stands for. -/
def sees : Loop σ → UInt32 → Client.RequestCode
  | handle _, code => .fromPrimitive code
  | handleNode _, code => (Client.RequestCode.fromPrimitive code).nodeOnly

theorem run_eq_serve (wire : Wire) (loop : Loop σ) :
    loop.run wire = serve wire (loop.arms wire) := by
  cases loop <;> rfl

theorem planned (wire : Wire) (loop : Loop σ) (code : UInt32) (body : Bytes) :
    Planned wire loop.nodeHandler code (loop.sees code) body (loop.arms wire code body) := by
  cases loop with
  | handle handler => exact handler.dispatch_planned wire code body
  | handleNode handler => exact handler.dispatch_planned wire code body

end Loop

/-! ### After a failed transfer -/

/-- The payload transfer fails here. -/
def AgentEvent.Fails : AgentEvent → Prop
  | .chunk remaining body => remaining < body.length
  | .chunkLost _ => True
  | _ => False

/-- The handler methods called, in order. -/
def calls (log : List AgentEvent) : List AgentCall :=
  log.filterMap fun
    | .called call => some call
    | _ => none

/-- None of these frames reaches a handler method as a request. -/
def Undispatched (events : List AgentEvent) : Prop :=
  ∀ before code body after, events = before ++ .request code body :: after → calls after = []

/-- Once a transfer has failed, no later frame is dispatched. -/
def Poisons (log : List AgentEvent) : Prop :=
  ∀ before event after, log = before ++ event :: after → event.Fails → Undispatched after

/-- Once a transfer has failed, no later frame is even read as a request. -/
def Quiet (log : List AgentEvent) : Prop :=
  ∀ before event after, log = before ++ event :: after → event.Fails → requests after = []

theorem Quiet.poisons {log : List AgentEvent} (quiet : Quiet log) : Poisons log := by
  intro before event after split fails before' code body after' dispatched
  have none := quiet before event after split fails
  rw [dispatched, requests_append] at none
  simp [requests] at none

theorem Clean.quiet {log : List AgentEvent} (clean : Clean log) : Quiet log := by
  intro before event after split fails
  have member : event ∈ log := by
    rw [split]
    exact List.mem_append_right _ List.mem_cons_self
  cases event with
  | chunk remaining body =>
      have within := clean.1 (remaining, body) (List.mem_filterMap.mpr ⟨_, member, rfl⟩)
      exact absurd fails (Nat.not_lt.mpr within)
  | chunkLost error =>
      have lost : error ∈ losses log := List.mem_filterMap.mpr ⟨_, member, rfl⟩
      rw [clean.2] at lost
      cases lost
  | request | called | installed | replied => cases fails

theorem Quiet.append {log added : List AgentEvent} (quiet : Quiet log)
    (none : requests added = []) : Quiet (log ++ added) := by
  intro before event after split fails
  rcases List.append_eq_append_iff.mp split with ⟨middle, rfl, rest⟩ | ⟨middle, rfl, rest⟩
  · rw [rest, requests_append, ← List.singleton_append, requests_append] at none
    exact (List.append_eq_nil_iff.mp (List.append_eq_nil_iff.mp none).2).2
  · cases middle with
    | nil =>
        rw [List.nil_append] at rest
        rw [← rest, ← List.singleton_append, requests_append] at none
        exact (List.append_eq_nil_iff.mp none).2
    | cons first middle =>
        rw [List.cons_append] at rest
        injection rest with same rest
        subst same
        rw [rest, requests_append, quiet before event middle rfl fails, none]
        rfl

/-- What holds between the requests of a stream as long as no chunk overruns: after a
failure nothing more was read as a request, and nothing more can be. -/
def Sealed (w : Agent σ) : Prop :=
  NoOverrun w.log → Quiet w.log ∧ (losses w.log = [] ∨ w.recv.bytes = [] ∧ w.recv.fin ≠ none)

/-- One request keeps a stream sealed. -/
theorem Sealed.step {w w' : Agent σ} {frame rest body : Bytes} {code : UInt32}
    {added : List AgentEvent} (held : Sealed w)
    (bytes : w.recv.bytes = Framing.frame frame ++ rest)
    (log : w'.log = (atRequest w rest code body).log ++ added) (none : requests added = [])
    (lost : losses added ≠ [] → w'.recv.bytes = [] ∧ w'.recv.fin ≠ .none) : Sealed w' := by
  intro fits
  rw [log] at fits ⊢
  have fitsBefore := ((noOverrun_append _ _).mp ((noOverrun_append _ _).mp fits).1).1
  have unfailed : losses w.log = [] := by
    rcases (held fitsBefore).2 with unfailed | ⟨exhausted, -⟩
    · exact unfailed
    · -- A frame was there to read, so the stream had not been used up.
      have length := congrArg List.length bytes
      rw [exhausted, List.length_append, Framing.length_frame] at length
      simp only [List.length_nil] at length
      omega
  have clean : Clean (atRequest w rest code body).log := by
    refine ⟨((noOverrun_append _ _).mp fits).1, ?_⟩
    simp only [atRequest, losses_append, unfailed]
    rfl
  refine ⟨clean.quiet.append none, ?_⟩
  rw [losses_append, clean.2, List.nil_append]
  by_cases failed : losses added = []
  · exact .inl failed
  · exact .inr (lost failed)

/-- Every run of a loop over planned arms ends with its stream sealed. -/
theorem serve_sealed {wire : Wire} {arms : UInt32 → Bytes → AgentAct σ Unit}
    {handler : NodeHandler σ} {request : UInt32 → Client.RequestCode}
    (planned : ∀ code body, Planned wire handler code (request code) body (arms code body))
    (w : Agent σ) (start : Sealed w) : Sealed ((serve wire arms).run w).2 := by
  have leaves (code : UInt32) (body : Bytes) (w : Agent σ) : ∃ added,
      ((arms code body).run w).2.log = w.log ++ added ∧ requests added = [] ∧
      (losses added ≠ [] → ((arms code body).run w).2.recv.bytes = [] ∧
        ((arms code body).run w).2.recv.fin ≠ none) := by
    obtain ⟨plan, same, -⟩ := planned code body
    rw [same]
    exact (plan.perform_performs wire handler code w).leaves
  refine serve_rule Sealed (fun out => Sealed out.2) ?_ ?_ ?_ ?_ w start
  · intro w frame rest code body w' held bytes _ arm
    obtain ⟨added, log, none, lost⟩ := leaves code body (atRequest w rest code body)
    rw [arm] at log lost
    exact held.step bytes log none lost
  · intro w frame rest code body halt w' held bytes _ arm
    obtain ⟨added, log, none, lost⟩ := leaves code body (atRequest w rest code body)
    rw [arm] at log lost
    exact held.step bytes log none lost
  · intro w error rest held stopped fits
    refine ⟨(held fits).1, ?_⟩
    rcases (held fits).2 with unfailed | ⟨exhausted, fin⟩
    · exact .inl unfailed
    · refine .inr ⟨?_, fin⟩
      rcases stopped with ⟨-, rfl⟩ | ⟨frame, bytes, -⟩
      · rfl
      · rw [exhausted] at bytes
        exact (List.append_eq_nil_iff.mp bytes.symm).2
  · intro w held _
    exact held

theorem connected_sealed (state : σ) (recv : RecvStream IoError) (send : SendStream IoError) :
    Sealed (connected state recv send) := fun _ => ⟨clean_nil.quiet, .inl rfl⟩

/-- As long as no chunk overruns what its install still expects, a failed transfer is
the end of its stream, on either loop. -/
theorem failed_transfer_poisons (wire : Wire) (state : σ) (recv : RecvStream IoError)
    (send : SendStream IoError) :
    (∀ handler : Handler σ,
      NoOverrun ((handle wire handler).run (connected state recv send)).2.log →
      Poisons ((handle wire handler).run (connected state recv send)).2.log) ∧
    (∀ handler : NodeHandler σ,
      NoOverrun ((handleNode wire handler).run (connected state recv send)).2.log →
      Poisons ((handleNode wire handler).run (connected state recv send)).2.log) := by
  constructor
  · intro handler fits
    have held := serve_sealed (fun code body => handler.dispatch_planned wire code body) _
      (connected_sealed state recv send)
    exact (held fits).1.poisons
  · intro handler fits
    have held := serve_sealed (fun code body => handler.dispatch_planned wire code body) _
      (connected_sealed state recv send)
    exact (held fits).1.poisons

/-- An install of one byte, a chunk of two, and a frame that reads as a reboot. -/
def overrunningStream : RecvStream IoError where
  bytes :=
    encodedRequest .nodePackage (Encoding.nodePackageRequest.encode (.install (bareInstall 1))) ++
      Framing.frame [7, 7] ++
      encodedRequest .nodePower (Encoding.nodePowerRequest.encode .reboot)
  fin := none

/-- After the overrun both loops go on to reboot the host. -/
theorem overrun_dispatches :
    ¬ Poisons ((handle Encoding.bincode eagerHandler).run
      (connected () overrunningStream (.healthy (.simple .invalidInput)))).2.log ∧
    ¬ Poisons ((handleNode Encoding.bincode eagerHandler.toNodeHandler).run
      (connected () overrunningStream (.healthy (.simple .invalidInput)))).2.log := by
  constructor
  · intro poisons
    have none := poisons (_ :: _ :: _ :: _ :: [_]) (.chunk 1 [7, 7]) (_ :: _ :: [_]) rfl
      (by decide : 1 < 2) [_] 106 [0] [.called (.node (.nodePower .reboot))] rfl
    cases none
  · intro poisons
    have none := poisons (_ :: _ :: _ :: _ :: [_]) (.chunk 1 [7, 7]) (_ :: _ :: [_]) rfl
      (by decide : 1 < 2) [_] 106 [0] [.called (.node (.nodePower .reboot))] rfl
    cases none

end ReviewProtocol
