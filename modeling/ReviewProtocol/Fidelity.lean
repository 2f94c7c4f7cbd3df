import ReviewProtocol.Client.Fidelity
import ReviewProtocol.Server.Fidelity

set_option autoImplicit false

/- Calls that are what they seem, in both directions and on any number of streams at once. -/
namespace ReviewProtocol

open Framing (Bytes Duplex Halt Faithful Beside)
open Client (ClientEvent)
open Server (Manager ManagerEvent ApiError Opening Method ManagerCall State ServerEvent)

variable {σ σ' τ ι κ : Type}

/-- A connection with calls of an agent and methods of the manager, a stream for each. -/
abbrev Connection (σ σ' τ ι κ : Type) :=
  (ι → Duplex (Option IoError) Empty ClientEvent IoError (State σ Unit) ServerEvent IoError) ×
  (κ → Duplex (Opening τ) (Except IoError Bytes) ManagerEvent IoError σ' AgentEvent IoError)

/-- The connection gets here, by deliveries on one stream or another. -/
def Connection.Reaches (wire : Wire) (peer : String) (ups : ι → ClientStream σ)
    (downs : κ → ManagerStream σ' τ) (now : Connection σ σ' τ ι κ) : Prop :=
  Relation.ReflTransGen
    (Beside (Duplex.StepAny (fun i => (ups i).near wire) fun i => (ups i).far wire peer)
      (Duplex.StepAny (fun k => (downs k).near wire) fun k => (downs k).far wire))
    (fun i => (ups i).start, fun k => (downs k).start) now

/-- A manager that numbers models by their length, and keeps count of its calls. -/
def sizing : Server.Handler Nat where
  call
    | .insertModel model, count => (.ok (UInt32.ofNat model.length), count + 1)
    | _, count => (.error "not supported", count + 1)

def sampleUp : ClientStream Nat where
  call := .insertModel [1, 2, 3]
  handler := sizing
  state := 0
  refused := none
  clientSend := .healthy (.simple .invalidInput)
  serverSend := .healthy (.simple .invalidInput)

def sampleDown : ManagerStream Unit Unit where
  method := .node (.nodePower .gracefulReboot)
  handler := eagerHandler
  policy := ()
  state := ()
  refused := none
  managerSend := .healthy (.simple .invalidInput)
  agentSend := .healthy (.simple .invalidInput)

/-- A delivery on either of the two streams. -/
def sampleStep : Connection Nat Unit Unit Unit Unit → Connection Nat Unit Unit Unit Unit → Prop :=
  Beside
    (Duplex.StepAny (fun _ => sampleUp.near Encoding.bincode)
      fun _ => sampleUp.far Encoding.bincode "agent")
    (Duplex.StepAny (fun _ => sampleDown.near Encoding.bincode)
      fun _ => sampleDown.far Encoding.bincode)

def sampleAsked := sampleUp.start.deliverFar (sampleUp.near Encoding.bincode)

def sampleAnswered := sampleAsked.deliverNear (sampleUp.far Encoding.bincode "agent")

def sampleTold := sampleDown.start.deliverFar (sampleDown.near Encoding.bincode)

def sampleReplied := sampleTold.deliverNear (sampleDown.far Encoding.bincode)

/-- Both requests are on their way before the first answer. -/
theorem sample_reached :
    Connection.Reaches Encoding.bincode "agent" (fun _ : Unit => sampleUp)
      (fun _ : Unit => sampleDown) (fun _ => sampleAnswered, fun _ => sampleReplied) := by
  have up : Duplex.Delivered (sampleUp.near Encoding.bincode)
      (sampleUp.far Encoding.bincode "agent") sampleUp.start :=
    Duplex.Reachable.delivered .refl rfl rfl
  have down : Duplex.Delivered (sampleDown.near Encoding.bincode)
      (sampleDown.far Encoding.bincode) sampleDown.start :=
    Duplex.Reachable.delivered .refl rfl rfl
  have asks := up.step_deliverFar rfl
  have tells := down.step_deliverFar rfl
  have first : sampleStep (fun _ => sampleUp.start, fun _ => sampleDown.start)
      (fun _ => sampleAsked, fun _ => sampleDown.start) :=
    .inl ⟨⟨(), asks, fun _ other => absurd rfl other⟩, rfl⟩
  have second : sampleStep (fun _ => sampleAsked, fun _ => sampleDown.start)
      (fun _ => sampleAsked, fun _ => sampleTold) :=
    .inr ⟨rfl, (), tells, fun _ other => absurd rfl other⟩
  have third : sampleStep (fun _ => sampleAsked, fun _ => sampleTold)
      (fun _ => sampleAnswered, fun _ => sampleTold) :=
    .inl ⟨⟨(), (up.step asks).step_deliverNear rfl, fun _ other => absurd rfl other⟩, rfl⟩
  have fourth : sampleStep (fun _ => sampleAnswered, fun _ => sampleTold)
      (fun _ => sampleAnswered, fun _ => sampleReplied) :=
    .inr ⟨rfl, (), (down.step tells).step_deliverNear rfl, fun _ other => absurd rfl other⟩
  exact ((Relation.ReflTransGen.single first).tail second |>.tail third).tail fourth

end ReviewProtocol
