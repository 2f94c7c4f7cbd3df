import Mathlib.Logic.Function.Basic
import ReviewProtocol.Encoding

set_option autoImplicit false

/- The agent's handshake message, whose last fields may be missing: an agent of an older
release ends it early. -/
namespace ReviewProtocol

open Framing (Bytes)
open Bincode (Codec Reader)

structure AgentInfoBase where
  agentName : String
  agentVersion : String
  protocolVersion : String
  addr : SocketAddr
  status : Status
deriving DecidableEq

structure AgentInfo extends AgentInfoBase where
  capabilities : StringSet
  activeTrustEpoch : Option UInt64
  manifestFormats : Option ManifestFormatRange
  provisioningFingerprint : Option ProvisioningFingerprint
  auditHealth : Option AuditHealth
deriving DecidableEq

inductive AgentInfoDecodeError where
  | base (source : Bincode.DecodeError)
  | tail (field : String) (source : Bincode.DecodeError)
deriving DecidableEq, Repr

inductive TailField where
  | capabilities
  | activeTrustEpoch
  | manifestFormats
  | provisioningFingerprint
  | auditHealth
deriving DecidableEq, Repr

namespace TailField

@[reducible] def Reading : TailField → Type
  | capabilities => StringSet
  | activeTrustEpoch => Option UInt64
  | manifestFormats => Option ManifestFormatRange
  | provisioningFingerprint => Option ProvisioningFingerprint
  | auditHealth => Option AuditHealth

def name : TailField → String
  | capabilities => "capabilities"
  | activeTrustEpoch => "active_trust_epoch"
  | manifestFormats => "manifest_formats"
  | provisioningFingerprint => "provisioning_fingerprint"
  | auditHealth => "audit_health"

/-- The order in which the tail is written. -/
def order : List TailField :=
  [capabilities, activeTrustEpoch, manifestFormats, provisioningFingerprint, auditHealth]

end TailField

/-- The encodings of the message's parts. No field of the tail is written as no bytes. -/
structure Formats where
  base : Codec AgentInfoBase
  tail : (field : TailField) → Codec field.Reading
  occupied : ∀ field, ∃ error, (tail field).reader.run [] = .error error

/-- The next field of the tail, unless the bytes end here, and the offset after it. -/
def decodeTailField {α : Type} (reader : Reader α) (buf : Bytes) (offset : Nat)
    (field : String) : Except AgentInfoDecodeError (Option α × Nat) :=
  match buf.drop offset with
  | [] => .ok (none, offset)
  | first :: rest =>
      match reader.run (first :: rest) with
      | .ok (value, left) => .ok (some value, offset + ((first :: rest).length - left.length))
      | .error source => .error (.tail field source)

def decodeAgentInfo (formats : Formats) (buf : Bytes) :
    Except AgentInfoDecodeError AgentInfo := do
  let (base, offset) ←
    match formats.base.reader.run buf with
    | .ok (base, rest) => .ok (base, buf.length - rest.length)
    | .error source => .error (.base source)
  let (capabilities, offset) ←
    decodeTailField (formats.tail .capabilities).reader buf offset "capabilities"
  let (activeTrustEpoch, offset) ←
    decodeTailField (formats.tail .activeTrustEpoch).reader buf offset "active_trust_epoch"
  let (manifestFormats, offset) ←
    decodeTailField (formats.tail .manifestFormats).reader buf offset "manifest_formats"
  let (provisioningFingerprint, offset) ←
    decodeTailField (formats.tail .provisioningFingerprint).reader buf offset
      "provisioning_fingerprint"
  let (auditHealth, _) ←
    decodeTailField (formats.tail .auditHealth).reader buf offset "audit_health"
  pure
    { base with
      capabilities := capabilities.getD .empty
      activeTrustEpoch := activeTrustEpoch.join
      manifestFormats := manifestFormats.join
      provisioningFingerprint := provisioningFingerprint.join
      auditHealth := auditHealth.join }

/-- The fields of the tail that were there. -/
abbrev Readings := (field : TailField) → Option field.Reading

/-- A message from its base and the fields that were there; the others are unknown. -/
def AgentInfo.assemble (base : AgentInfoBase) (readings : Readings) : AgentInfo :=
  { base with
    capabilities := (readings .capabilities).getD .empty
    activeTrustEpoch := (readings .activeTrustEpoch).join
    manifestFormats := (readings .manifestFormats).join
    provisioningFingerprint := (readings .provisioningFingerprint).join
    auditHealth := (readings .auditHealth).join }

/-- The tail, field by field, on the bytes that are left. -/
def decodeTail (formats : Formats) : List TailField → Bytes → Except AgentInfoDecodeError Readings
  | [], _ => .ok fun _ => none
  | _ :: _, [] => .ok fun _ => none
  | field :: fields, first :: rest =>
      match (formats.tail field).reader.run (first :: rest) with
      | .ok (value, left) =>
          (decodeTail formats fields left).map fun readings =>
            Function.update readings field (some value)
      | .error source => .error (.tail field.name source)

@[simp] theorem decodeTail_end (formats : Formats) (fields : List TailField) :
    decodeTail formats fields [] = .ok fun _ => none := by
  cases fields with
  | nil => rfl
  | cons field fields => rfl

/-- One field of the source's sequence is one step down the list of fields. -/
theorem decodeTailField_bind {β : Type} (formats : Formats) {buf bytes : Bytes} {offset : Nat}
    (left : buf.drop offset = bytes) (field : TailField) (fields : List TailField)
    (next : Option field.Reading × Nat → Except AgentInfoDecodeError β) (use : Readings → β)
    (follows : ∀ value offset bytes, buf.drop offset = bytes →
      next (value, offset) = (decodeTail formats fields bytes).map fun readings =>
        use (Function.update readings field value)) :
    (decodeTailField (formats.tail field).reader buf offset field.name >>= next) =
      (decodeTail formats (field :: fields) bytes).map use := by
  subst left
  unfold decodeTailField
  cases rest : buf.drop offset with
  | nil =>
      have ended := follows none offset [] rest
      rw [decodeTail_end] at ended
      rw [decodeTail_end]
      have none : (Function.update (fun _ => none) field none : Readings) = fun _ => none :=
        Function.update_eq_self field _
      rw [Except.map, none] at ended
      exact ended
  | cons first later =>
      rw [decodeTail]
      dsimp only
      rcases read : (formats.tail field).reader.run (first :: later) with source | ⟨value, left⟩
      · rfl
      · obtain ⟨used, split, -⟩ := (formats.tail field).reader.positional _ _ _ read
        have after : buf.drop (offset + ((first :: later).length - left.length)) = left := by
          rw [← List.drop_drop, rest, split, List.length_append, Nat.add_sub_cancel,
            List.drop_left]
        have continued := follows (some value) _ left after
        dsimp only
        cases tail : decodeTail formats fields left with
        | ok readings =>
            rw [tail] at continued
            exact continued
        | error error =>
            rw [tail] at continued
            exact continued

theorem decodeAgentInfo_eq (formats : Formats) (buf : Bytes) :
    decodeAgentInfo formats buf =
      match formats.base.reader.run buf with
      | .ok (base, rest) => (decodeTail formats TailField.order rest).map (.assemble base)
      | .error source => .error (.base source) := by
  unfold decodeAgentInfo
  rcases read : formats.base.reader.run buf with source | ⟨base, rest⟩
  · rfl
  · obtain ⟨used, split, -⟩ := formats.base.reader.positional _ _ _ read
    have after : buf.drop (buf.length - rest.length) = rest := by
      rw [split, List.length_append, Nat.add_sub_cancel, List.drop_left]
    refine decodeTailField_bind formats after .capabilities _ _ _ fun _ _ _ left => ?_
    refine decodeTailField_bind formats left .activeTrustEpoch _ _ _ fun _ _ _ left => ?_
    refine decodeTailField_bind formats left .manifestFormats _ _ _ fun _ _ _ left => ?_
    refine decodeTailField_bind formats left .provisioningFingerprint _ _ _ fun _ _ _ left => ?_
    refine decodeTailField_bind formats left .auditHealth _ _ _ fun _ _ _ left => ?_
    rfl

/-- These bytes, and no fewer, are read as this value. -/
def Spells {α : Type} (codec : Codec α) (bytes : Bytes) (value : α) : Prop :=
  codec.reader.run bytes = .ok (value, [])

theorem Spells.append {α : Type} {codec : Codec α} {bytes : Bytes} {value : α}
    (spells : Spells codec bytes value) (rest : Bytes) :
    codec.reader.run (bytes ++ rest) = .ok (value, rest) := by
  obtain ⟨used, same, anywhere⟩ := codec.reader.positional _ _ _ spells
  rw [List.append_nil] at same
  rw [same]
  exact anywhere rest

theorem spells_of_run {α : Type} {codec : Codec α} {bytes rest : Bytes} {value : α}
    (read : codec.reader.run bytes = .ok (value, rest)) :
    ∃ used, bytes = used ++ rest ∧ Spells codec used value := by
  obtain ⟨used, split, anywhere⟩ := codec.reader.positional _ _ _ read
  refine ⟨used, split, ?_⟩
  have alone := anywhere []
  rwa [List.append_nil] at alone

theorem spells_encode {α : Type} (codec : Codec α) (value : α) :
    Spells codec (codec.encode value) value := by
  have read := codec.reads value []
  rwa [List.append_nil] at read

/-- The bytes hold the first `k` of these fields, and more only if that is all of them. -/
structure TailSplit (formats : Formats) (fields : List TailField) (k : Nat)
    (pieces : TailField → Bytes) (bytes rest : Bytes) (readings : Readings) : Prop where
  bound : k ≤ fields.length
  bytes : bytes = (fields.take k).flatMap pieces ++ rest
  ended : k < fields.length → rest = []
  present : ∀ field ∈ fields.take k, ∃ value, readings field = some value ∧
    Spells (formats.tail field) (pieces field) value
  absent : ∀ field, field ∉ fields.take k → readings field = none

theorem TailSplit.of_decode {formats : Formats} {fields : List TailField} (nodup : fields.Nodup)
    {bytes : Bytes} {readings : Readings}
    (decoded : decodeTail formats fields bytes = .ok readings) :
    ∃ k pieces rest, TailSplit formats fields k pieces bytes rest readings := by
  induction fields generalizing bytes readings with
  | nil =>
      cases decoded
      exact ⟨0, fun _ => [], bytes, Nat.le_refl 0, rfl, fun more => absurd more (Nat.lt_irrefl 0),
        fun _ mem => (List.not_mem_nil mem).elim, fun _ _ => rfl⟩
  | cons field fields ih =>
      cases bytes with
      | nil =>
          cases decoded
          exact ⟨0, fun _ => [], [], Nat.zero_le _, rfl, fun _ => rfl,
            fun _ mem => (List.not_mem_nil mem).elim, fun _ _ => rfl⟩
      | cons first later =>
          rw [decodeTail] at decoded
          rcases read : (formats.tail field).reader.run (first :: later) with source | ⟨value, left⟩
          · rw [read] at decoded
            cases decoded
          · rw [read] at decoded
            dsimp only at decoded
            cases tail : decodeTail formats fields left with
            | error error =>
                rw [tail] at decoded
                cases decoded
            | ok others =>
                rw [tail] at decoded
                have same : Function.update others field (some value) = readings :=
                  Except.ok.inj decoded
                subst same
                obtain ⟨fresh, nodup⟩ := List.nodup_cons.mp nodup
                obtain ⟨k, pieces, rest, split⟩ := ih nodup tail
                obtain ⟨used, whole, spells⟩ := spells_of_run read
                have apart : ∀ other ∈ fields.take k, other ≠ field := by
                  intro other mem same
                  rw [same] at mem
                  exact fresh (List.mem_of_mem_take mem)
                refine ⟨k + 1, Function.update pieces field used, rest, ?_, ?_, ?_, ?_, ?_⟩
                · exact Nat.succ_le_succ split.bound
                · have same : (fields.take k).flatMap (Function.update pieces field used) =
                      (fields.take k).flatMap pieces := by
                    apply List.flatMap_congr
                    intro other mem
                    rw [Function.update_of_ne (apart other mem)]
                  rw [whole, split.bytes, List.take_succ_cons, List.flatMap_cons, same,
                    Function.update_self, List.append_assoc]
                · intro more
                  exact split.ended (Nat.lt_of_succ_lt_succ more)
                · intro other mem
                  rw [List.take_succ_cons] at mem
                  rcases List.mem_cons.mp mem with rfl | mem
                  · rw [Function.update_self, Function.update_self]
                    exact ⟨value, rfl, spells⟩
                  · rw [Function.update_of_ne (apart other mem),
                      Function.update_of_ne (apart other mem)]
                    exact split.present other mem
                · intro other notMem
                  rw [List.take_succ_cons, List.mem_cons, not_or] at notMem
                  rw [Function.update_of_ne notMem.1]
                  exact split.absent other notMem.2

theorem TailSplit.decode {formats : Formats} {fields : List TailField} (nodup : fields.Nodup)
    {k : Nat} {pieces : TailField → Bytes} {bytes rest : Bytes} {readings : Readings}
    (split : TailSplit formats fields k pieces bytes rest readings) :
    decodeTail formats fields bytes = .ok readings := by
  induction fields generalizing k bytes readings with
  | nil =>
      have none : readings = fun _ => none := by
        funext field
        apply split.absent
        rw [List.take_nil]
        exact List.not_mem_nil
      rw [none]
      rfl
  | cons field fields ih =>
      obtain ⟨fresh, nodup⟩ := List.nodup_cons.mp nodup
      cases k with
      | zero =>
          have none : readings = fun _ => none := by
            funext field
            apply split.absent
            exact List.not_mem_nil
          have empty : bytes = [] := by
            rw [split.bytes, split.ended (Nat.zero_lt_succ _)]
            rfl
          rw [none, empty, decodeTail_end]
      | succ k =>
          have whole := split.bytes
          have first := split.present field (by rw [List.take_succ_cons]; exact List.mem_cons_self)
          obtain ⟨value, reading, spells⟩ := first
          rw [List.take_succ_cons, List.flatMap_cons, List.append_assoc] at whole
          have read := spells.append ((fields.take k).flatMap pieces ++ rest)
          rw [← whole] at read
          have others : TailSplit formats fields k pieces
              ((fields.take k).flatMap pieces ++ rest) rest
              (Function.update readings field none) := by
            refine ⟨Nat.le_of_succ_le_succ split.bound, rfl, fun more => ?_, ?_, ?_⟩
            · exact split.ended (Nat.succ_lt_succ more)
            · intro other mem
              have apart : other ≠ field := by
                intro same
                rw [same] at mem
                exact fresh (List.mem_of_mem_take mem)
              rw [Function.update_of_ne apart]
              apply split.present
              rw [List.take_succ_cons]
              exact List.mem_cons_of_mem _ mem
            · intro other notMem
              by_cases same : other = field
              · rw [same, Function.update_self]
              · rw [Function.update_of_ne same]
                apply split.absent
                rw [List.take_succ_cons, List.mem_cons, not_or]
                exact ⟨same, notMem⟩
          cases bytes with
          | nil =>
              obtain ⟨error, rejects⟩ := formats.occupied field
              rw [rejects] at read
              cases read
          | cons head bytes =>
              rw [decodeTail, read]
              dsimp only
              rw [ih nodup others, Except.map, Function.update_idem, ← reading,
                Function.update_eq_self]

/-- The format: a base, `k` complete fields of the tail in their order, and nothing more
unless that is all of them. -/
def Accepts (formats : Formats) (bytes : Bytes) (info : AgentInfo) : Prop :=
  ∃ base used k pieces tail rest readings, bytes = used ++ tail ∧ Spells formats.base used base ∧
    TailSplit formats TailField.order k pieces tail rest readings ∧
    info = AgentInfo.assemble base readings

theorem order_nodup : TailField.order.Nodup := by decide

theorem decodeAgentInfo_ok_iff (formats : Formats) (bytes : Bytes) (info : AgentInfo) :
    decodeAgentInfo formats bytes = .ok info ↔ Accepts formats bytes info := by
  rw [decodeAgentInfo_eq]
  constructor
  · intro decoded
    rcases read : formats.base.reader.run bytes with source | ⟨base, tail⟩
    · rw [read] at decoded
      cases decoded
    · rw [read] at decoded
      dsimp only at decoded
      cases decodedTail : decodeTail formats TailField.order tail with
      | error error =>
          rw [decodedTail] at decoded
          cases decoded
      | ok readings =>
          rw [decodedTail] at decoded
          obtain ⟨used, whole, spells⟩ := spells_of_run read
          obtain ⟨k, pieces, rest, split⟩ := TailSplit.of_decode order_nodup decodedTail
          exact ⟨base, used, k, pieces, tail, rest, readings, whole, spells, split,
            (Except.ok.inj decoded).symm⟩
  · rintro ⟨base, used, k, pieces, tail, rest, readings, whole, spells, split, rfl⟩
    rw [whole, spells.append tail]
    dsimp only
    rw [split.decode order_nodup]
    rfl

namespace AgentInfo

def reading (info : AgentInfo) : (field : TailField) → field.Reading
  | .capabilities => info.capabilities
  | .activeTrustEpoch => info.activeTrustEpoch
  | .manifestFormats => info.manifestFormats
  | .provisioningFingerprint => info.provisioningFingerprint
  | .auditHealth => info.auditHealth

variable (formats : Formats) (info : AgentInfo)

def fieldBytes (field : TailField) : Bytes :=
  (formats.tail field).encode (info.reading field)

/-- The message as an agent writes it, its fields one after the other. -/
def encode : Bytes :=
  formats.base.encode info.toAgentInfoBase ++ TailField.order.flatMap (info.fieldBytes formats)

/-- Where the base and the first `k` fields of the tail end. -/
def boundary (k : Nat) : Nat :=
  (formats.base.encode info.toAgentInfoBase).length +
    ((TailField.order.take k).flatMap (info.fieldBytes formats)).length

/-- The readings of the first `k` fields. -/
def upTo (k : Nat) : Readings := fun field =>
  if field ∈ TailField.order.take k then some (info.reading field) else none

theorem fieldBytes_ne_nil (field : TailField) : info.fieldBytes formats field ≠ [] := by
  intro empty
  obtain ⟨error, rejects⟩ := formats.occupied field
  have read := spells_encode (formats.tail field) (info.reading field)
  change (formats.tail field).reader.run (info.fieldBytes formats field) = _ at read
  rw [empty, rejects] at read
  cases read

theorem assemble_upTo : assemble info.toAgentInfoBase (info.upTo 5) = info := by
  obtain ⟨base, capabilities, activeTrustEpoch, manifestFormats, provisioningFingerprint,
    auditHealth⟩ := info
  rfl

/-- Cut where a field ends, the message is one with the later fields unknown. -/
theorem decode_whole_fields {k : Nat} (bound : k ≤ 5) :
    decodeAgentInfo formats (formats.base.encode info.toAgentInfoBase ++
      (TailField.order.take k).flatMap (info.fieldBytes formats)) =
      .ok (assemble info.toAgentInfoBase (info.upTo k)) := by
  apply (decodeAgentInfo_ok_iff formats _ _).mpr
  refine ⟨_, _, k, info.fieldBytes formats, _, [], _, rfl, spells_encode _ _, ?_, rfl⟩
  refine ⟨bound, (List.append_nil _).symm, fun _ => rfl, ?_, ?_⟩
  · intro field mem
    exact ⟨info.reading field, if_pos mem, spells_encode _ _⟩
  · intro field notMem
    exact if_neg notMem

end AgentInfo

namespace Encoding

open Bincode.Codec

def status : Codec Status where
  encode
    | .ready => length.encode 0
    | .idle => length.encode 1
  reader := do
    match ← length.reader with
    | 0 => pure .ready
    | 1 => pure .idle
    | _ => Reader.fail .invalid
  reads := by
    intro value rest
    cases value <;> simp

def agentInfoBase : Codec AgentInfoBase where
  encode value :=
    string.encode value.agentName ++ string.encode value.agentVersion ++
      string.encode value.protocolVersion ++ socketAddr.encode value.addr ++
      status.encode value.status
  reader := do
    let agentName ← string.reader
    let agentVersion ← string.reader
    let protocolVersion ← string.reader
    let addr ← socketAddr.reader
    let status ← status.reader
    pure ⟨agentName, agentVersion, protocolVersion, addr, status⟩
  reads := by
    intro value rest
    simp

def provisioningFingerprint : Codec ProvisioningFingerprint where
  encode value := (stringMap string).encode value.components ++ string.encode value.domain
  reader := do
    let components ← (stringMap string).reader
    let domain ← string.reader
    pure ⟨components, domain⟩
  reads := by
    intro value rest
    simp

def auditHealth : Codec AuditHealth where
  encode value := bool.encode value.belowLowWater ++ u64.encode value.intentWithoutOutcome
  reader := do
    let belowLowWater ← bool.reader
    let intentWithoutOutcome ← u64.reader
    pure ⟨belowLowWater, intentWithoutOutcome⟩
  reads := by
    intro value rest
    simp

/-- The message in bincode's standard configuration. -/
def formats : Formats where
  base := agentInfoBase
  tail
    | .capabilities => stringSet
    | .activeTrustEpoch => u64.option
    | .manifestFormats => manifestFormatRange.option
    | .provisioningFingerprint => provisioningFingerprint.option
    | .auditHealth => auditHealth.option
  occupied := by
    intro field
    cases field with
    | capabilities => exact ⟨.unexpectedEnd, rfl⟩
    | activeTrustEpoch => exact ⟨.unexpectedEnd, rfl⟩
    | manifestFormats => exact ⟨.unexpectedEnd, rfl⟩
    | provisioningFingerprint => exact ⟨.unexpectedEnd, rfl⟩
    | auditHealth => exact ⟨.unexpectedEnd, rfl⟩

end Encoding

/-- An agent that stops after its trust epoch, in bincode. -/
example :
    decodeAgentInfo Encoding.formats [1, 97, 0, 0, 0, 127, 0, 0, 1, 80, 1, 0, 1, 9] =
      .ok { agentName := "a", agentVersion := "", protocolVersion := ""
            addr := ⟨.v4 2130706433, 80⟩, status := .idle, capabilities := .empty
            activeTrustEpoch := some 9, manifestFormats := none
            provisioningFingerprint := none, auditHealth := none } := by
  rfl

end ReviewProtocol
