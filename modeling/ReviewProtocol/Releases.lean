import ReviewProtocol.AgentInfo

set_option autoImplicit false

/- The handshake message between releases. An older decoder knows fewer fields of the tail
and a newer encoder writes more of them; neither may change what the other one reads. -/
namespace ReviewProtocol

open Framing (Bytes)

/-- A field of the tail as a decoder finds it, and where it looks for it. -/
structure TailEntry where
  field : TailField
  offset : Nat
  reading : Option field.Reading

/-- The fields that a release knows, each from where the one before it ended. -/
def decodeKnownTail (formats : Formats) (buf : Bytes) :
    List TailField → Nat → Except AgentInfoDecodeError (List TailEntry)
  | [], _ => .ok []
  | field :: fields, offset => do
      let (reading, next) ←
        decodeTailField (formats.tail field).reader buf offset field.name
      let entries ← decodeKnownTail formats buf fields next
      pure (⟨field, offset, reading⟩ :: entries)

/-- The conditional decode of a release that knows these fields of the tail. -/
def decodeKnown (formats : Formats) (known : List TailField) (buf : Bytes) :
    Except AgentInfoDecodeError (AgentInfoBase × List TailEntry) :=
  match formats.base.reader.run buf with
  | .ok (base, rest) =>
      (decodeKnownTail formats buf known (buf.length - rest.length)).map fun entries =>
        (base, entries)
  | .error source => .error (.base source)

/-- The readings that these entries hold. -/
def readingsOf : List TailEntry → Readings
  | [] => fun _ => none
  | entry :: entries => Function.update (readingsOf entries) entry.field entry.reading

theorem readingsOf_decodeKnownTail (formats : Formats) (buf : Bytes) (fields : List TailField)
    (offset : Nat) :
    (decodeKnownTail formats buf fields offset).map readingsOf =
      decodeTail formats fields (buf.drop offset) := by
  induction fields generalizing offset with
  | nil => rfl
  | cons field fields ih =>
      have whole := decodeTailField_bind formats (rfl : buf.drop offset = _) field fields
        (fun found => (decodeKnownTail formats buf fields found.2).map fun entries =>
          readingsOf (⟨field, offset, found.1⟩ :: entries)) id
      have same : (decodeTail formats (field :: fields) (buf.drop offset)).map id =
          decodeTail formats (field :: fields) (buf.drop offset) := by
        cases decodeTail formats (field :: fields) (buf.drop offset) <;> rfl
      rw [← same, ← whole]
      · rw [decodeKnownTail]
        rcases decodeTailField (formats.tail field).reader buf offset field.name with
          error | ⟨reading, next⟩
        · rfl
        · show (decodeKnownTail formats buf fields next >>= _).map readingsOf =
            (decodeKnownTail formats buf fields next).map _
          cases decodeKnownTail formats buf fields next with
          | error error => rfl
          | ok entries => rfl
      · intro reading next bytes left
        have step := ih next
        rw [left] at step
        rw [← step]
        cases decodeKnownTail formats buf fields next with
        | error error => rfl
        | ok entries => rfl

/-- The release that knows the whole tail decodes as `decodeAgentInfo`. -/
theorem decodeAgentInfo_eq_known (formats : Formats) (buf : Bytes) :
    decodeAgentInfo formats buf =
      (decodeKnown formats TailField.order buf).map fun found =>
        AgentInfo.assemble found.1 (readingsOf found.2) := by
  rw [decodeAgentInfo_eq, decodeKnown]
  rcases read : formats.base.reader.run buf with source | ⟨base, rest⟩
  · rfl
  · obtain ⟨used, split, -⟩ := formats.base.reader.positional _ _ _ read
    have after : buf.drop (buf.length - rest.length) = rest := by
      rw [split, List.length_append, Nat.add_sub_cancel, List.drop_left]
    have tail := readingsOf_decodeKnownTail formats buf TailField.order (buf.length - rest.length)
    rw [after] at tail
    dsimp only
    rw [← tail]
    cases decodeKnownTail formats buf TailField.order (buf.length - rest.length) with
    | error error => rfl
    | ok entries => rfl

/-- Knowing fewer fields changes nothing about those that are known. -/
theorem decodeKnownTail_take {formats : Formats} {buf : Bytes} {fields : List TailField}
    {offset : Nat} {entries : List TailEntry}
    (decoded : decodeKnownTail formats buf fields offset = .ok entries) (j : Nat) :
    decodeKnownTail formats buf (fields.take j) offset = .ok (entries.take j) := by
  induction fields generalizing offset entries j with
  | nil =>
      cases decoded
      rw [List.take_nil, List.take_nil]
      rfl
  | cons field fields ih =>
      cases j with
      | zero => rfl
      | succ j =>
          rw [List.take_succ_cons, decodeKnownTail]
          rw [decodeKnownTail] at decoded
          rcases found : decodeTailField (formats.tail field).reader buf offset field.name with
            error | ⟨reading, next⟩
          · rw [found] at decoded
            cases decoded
          · rw [found] at decoded
            change (decodeKnownTail formats buf fields next >>= _) = _ at decoded
            show (decodeKnownTail formats buf (fields.take j) next >>= _) = _
            cases later : decodeKnownTail formats buf fields next with
            | error error =>
                rw [later] at decoded
                cases decoded
            | ok others =>
                rw [later] at decoded
                cases decoded
                rw [ih later j]
                rfl

theorem decodeKnown_take {formats : Formats} {buf : Bytes} {known : List TailField}
    {base : AgentInfoBase} {entries : List TailEntry}
    (decoded : decodeKnown formats known buf = .ok (base, entries)) (j : Nat) :
    decodeKnown formats (known.take j) buf = .ok (base, entries.take j) := by
  rw [decodeKnown] at decoded ⊢
  rcases read : formats.base.reader.run buf with source | ⟨first, rest⟩
  · rw [read] at decoded
    cases decoded
  · rw [read] at decoded
    dsimp only at decoded ⊢
    cases tail : decodeKnownTail formats buf known (buf.length - rest.length) with
    | error error =>
        rw [tail] at decoded
        cases decoded
    | ok found =>
        rw [tail] at decoded
        cases decoded
        rw [decodeKnownTail_take tail j]
        rfl

namespace AgentInfo

variable (formats : Formats) (info : AgentInfo)

/-- What a full message holds for each field of the tail. -/
def entries : List TailEntry :=
  TailField.order.zipIdx.map fun (field, k) =>
    ⟨field, info.boundary formats k, some (info.reading field)⟩

/-- The same base with nothing known of the tail. -/
def unknownTail (base : AgentInfoBase) : AgentInfo :=
  assemble base fun _ => none

theorem decodeTailField_written (used later : Bytes) (field : TailField) :
    decodeTailField (formats.tail field).reader
      (used ++ (info.fieldBytes formats field ++ later)) used.length field.name =
        .ok (some (info.reading field), used.length + (info.fieldBytes formats field).length) := by
  have read := (formats.tail field).reads (info.reading field) later
  change (formats.tail field).reader.run (info.fieldBytes formats field ++ later) = _ at read
  rw [decodeTailField, List.drop_left]
  cases bytes : info.fieldBytes formats field with
  | nil => exact absurd bytes (info.fieldBytes_ne_nil formats field)
  | cons first rest =>
      rw [bytes] at read
      rw [List.cons_append] at read ⊢
      dsimp only
      rw [read]
      have length : (first :: (rest ++ later)).length - later.length =
          (first :: rest).length := by
        simp only [List.length_cons, List.length_append]
        omega
      dsimp only
      rw [length]

/-- Every field that is known is read from where it was written, whatever follows. -/
theorem decodeKnownTail_written (fields : List TailField) (used later : Bytes) :
    decodeKnownTail formats (used ++ (fields.flatMap (info.fieldBytes formats) ++ later)) fields
        used.length =
      .ok (fields.zipIdx.map fun (field, k) =>
        ⟨field, used.length + ((fields.take k).flatMap (info.fieldBytes formats)).length,
          some (info.reading field)⟩) := by
  induction fields generalizing used with
  | nil => rfl
  | cons field fields ih =>
      have decoded := ih (used ++ info.fieldBytes formats field)
      rw [List.append_assoc, ← List.append_assoc (info.fieldBytes formats field),
        ← List.flatMap_cons, List.length_append] at decoded
      have first := info.decodeTailField_written formats used
        (fields.flatMap (info.fieldBytes formats) ++ later) field
      rw [← List.append_assoc (info.fieldBytes formats field), ← List.flatMap_cons] at first
      rw [decodeKnownTail, first]
      show (decodeKnownTail _ _ fields _ >>= _) = _
      rw [decoded, List.zipIdx_cons', List.map_cons, List.map_map]
      show Except.ok _ = Except.ok _
      congr 2
      -- the later fields are counted from the end of this one
      apply List.map_congr_left
      rintro ⟨other, k⟩ _
      simp only [Function.comp_apply, Prod.map_apply, id_eq, TailEntry.mk.injEq, heq_eq_eq,
        true_and, and_true]
      rw [List.take_succ_cons, List.flatMap_cons, List.length_append]
      omega

theorem decodeKnown_written (later : Bytes) :
    decodeKnown formats TailField.order (info.encode formats ++ later) =
      .ok (info.toAgentInfoBase, info.entries formats) := by
  have read := formats.base.reads info.toAgentInfoBase
    (TailField.order.flatMap (info.fieldBytes formats) ++ later)
  rw [encode, List.append_assoc, decodeKnown, read]
  dsimp only
  rw [List.length_append, Nat.add_sub_cancel]
  rw [info.decodeKnownTail_written formats TailField.order]
  rfl

theorem readingsOf_entries : readingsOf (info.entries formats) = info.upTo 5 := by
  funext field
  cases field <;> rfl

/-- Bytes after the last field that is known are not looked at. -/
theorem decode_append (later : Bytes) :
    decodeAgentInfo formats (info.encode formats ++ later) = .ok info := by
  rw [decodeAgentInfo_eq_known, decodeKnown_written]
  show Except.ok (assemble _ (readingsOf (info.entries formats))) = _
  rw [readingsOf_entries, assemble_upTo]

/-- A base alone reads as the full message in which nothing of the tail is known. -/
theorem decode_base (base : AgentInfoBase) :
    decodeAgentInfo formats (formats.base.encode base) = .ok (unknownTail base) := by
  have cut := (unknownTail base).decode_whole_fields formats (Nat.zero_le 5)
  rw [List.take_zero, List.flatMap_nil, List.append_nil] at cut
  exact cut

end AgentInfo

/-- A socket address in memory. The flow information and the scope of an IPv6 address are
not part of serde's binary form. -/
inductive HostAddr where
  | v4 (ip : BitVec 32) (port : UInt16)
  | v6 (ip : BitVec 128) (port : UInt16) (flowinfo scopeId : UInt32)
deriving DecidableEq

namespace HostAddr

/-- What is written of an address. -/
def written : HostAddr → SocketAddr
  | v4 ip port => ⟨.v4 ip, port⟩
  | v6 ip port _ _ => ⟨.v6 ip, port⟩

/-- The address that is read from what was written. -/
def ofRead : SocketAddr → HostAddr
  | ⟨.v4 ip, port⟩ => v4 ip port
  | ⟨.v6 ip, port⟩ => v6 ip port 0 0

/-- Nothing is lost when the address is written. -/
def Unscoped : HostAddr → Prop
  | v4 _ _ => True
  | v6 _ _ flowinfo scopeId => flowinfo = 0 ∧ scopeId = 0

theorem written_ofRead (addr : SocketAddr) : (ofRead addr).written = addr := by
  obtain ⟨ip, port⟩ := addr
  cases ip with
  | v4 bits => rfl
  | v6 bits => rfl

theorem ofRead_written_iff (addr : HostAddr) : ofRead addr.written = addr ↔ addr.Unscoped := by
  cases addr with
  | v4 ip port => exact ⟨fun _ => trivial, fun _ => rfl⟩
  | v6 ip port flowinfo scopeId =>
      constructor
      · intro same
        cases same
        exact ⟨rfl, rfl⟩
      · rintro ⟨rfl, rfl⟩
        rfl

end HostAddr

/-- An `AgentInfo` in memory, which differs from what travels in its address alone. -/
@[ext] structure HostAgentInfo where
  info : AgentInfo
  addr : HostAddr
  written : addr.written = info.addr

namespace HostAgentInfo

def ofRead (info : AgentInfo) : HostAgentInfo where
  info := info
  addr := .ofRead info.addr
  written := HostAddr.written_ofRead info.addr

theorem ofRead_eq_iff (host : HostAgentInfo) : ofRead host.info = host ↔ host.addr.Unscoped := by
  rw [← HostAddr.ofRead_written_iff, host.written]
  constructor
  · intro same
    exact congrArg HostAgentInfo.addr same
  · intro same
    exact HostAgentInfo.ext rfl same

end HostAgentInfo

namespace Encoding

open Bincode.Codec

/-- The derived serialization: the ten fields in the order of their declaration. -/
def encodeAgentInfo (host : HostAgentInfo) : Bytes :=
  string.encode host.info.agentName ++ string.encode host.info.agentVersion ++
    string.encode host.info.protocolVersion ++ socketAddr.encode host.addr.written ++
    status.encode host.info.status ++ stringSet.encode host.info.capabilities ++
    u64.option.encode host.info.activeTrustEpoch ++
    manifestFormatRange.option.encode host.info.manifestFormats ++
    provisioningFingerprint.option.encode host.info.provisioningFingerprint ++
    auditHealth.option.encode host.info.auditHealth

/-- The declaration order of the fields is the base and then the tail. -/
theorem encodeAgentInfo_eq (host : HostAgentInfo) :
    encodeAgentInfo host = host.info.encode formats := by
  have tail : TailField.order.flatMap (host.info.fieldBytes formats) =
      stringSet.encode host.info.capabilities ++ (u64.option.encode host.info.activeTrustEpoch ++
        (manifestFormatRange.option.encode host.info.manifestFormats ++
          (provisioningFingerprint.option.encode host.info.provisioningFingerprint ++
            (auditHealth.option.encode host.info.auditHealth ++ [])))) := rfl
  rw [AgentInfo.encode, tail, List.append_nil]
  simp only [encodeAgentInfo, host.written, formats, agentInfoBase, List.append_assoc]

/-- `decode_agent_info`, with the address as the program holds it. -/
def decodeHostAgentInfo (buf : Bytes) : Except AgentInfoDecodeError HostAgentInfo :=
  (decodeAgentInfo formats buf).map .ofRead

end Encoding

open Encoding in
/-- A message and some bytes of a later release, read by the releases before it. -/
structure WireCompatible (host : HostAgentInfo) (later : Bytes) : Prop where
  /-- The later bytes change nothing. -/
  newer : decodeHostAgentInfo (encodeAgentInfo host ++ later) = .ok (.ofRead host.info)
  /-- What is read is what was sent, unless its address had more than is written. -/
  same : decodeHostAgentInfo (encodeAgentInfo host ++ later) = .ok host ↔ host.addr.Unscoped
  /-- A decoder of the base reads the base and takes its bytes, no more and no fewer. -/
  older : ∃ rest, encodeAgentInfo host ++ later =
      agentInfoBase.encode host.info.toAgentInfoBase ++ rest ∧
    agentInfoBase.reader.run (encodeAgentInfo host ++ later) =
      .ok (host.info.toAgentInfoBase, rest)
  /-- The first fields of the tail, at the same offsets and with the same values for a
  decoder that knows no others. -/
  between : ∀ j ≤ 5,
    decodeKnown formats TailField.order (encodeAgentInfo host ++ later) =
        .ok (host.info.toAgentInfoBase, host.info.entries formats) ∧
      decodeKnown formats (TailField.order.take j) (encodeAgentInfo host ++ later) =
        .ok (host.info.toAgentInfoBase, (host.info.entries formats).take j)
  /-- A base alone is the message in which nothing of the tail is known. -/
  base : decodeHostAgentInfo (agentInfoBase.encode host.info.toAgentInfoBase) =
    decodeHostAgentInfo (encodeAgentInfo (.ofRead (.unknownTail host.info.toAgentInfoBase)))

open Encoding in
/-- The handshake message is compatible in both directions, and on every buffer a release
that knows fewer fields of the tail agrees on them with the one that knows all. -/
theorem agentInfo_wire_compatible :
    (∀ host later, WireCompatible host later) ∧
    (∀ buf, decodeAgentInfo formats buf =
      (decodeKnown formats TailField.order buf).map fun found =>
        AgentInfo.assemble found.1 (readingsOf found.2)) ∧
    ∀ buf base entries, decodeKnown formats TailField.order buf = .ok (base, entries) →
      ∀ j ≤ 5, decodeKnown formats (TailField.order.take j) buf = .ok (base, entries.take j) := by
  refine ⟨fun host later => ?_, decodeAgentInfo_eq_known formats, ?_⟩
  · have written := host.info.decodeKnown_written formats later
    have newer : decodeHostAgentInfo (encodeAgentInfo host ++ later) = .ok (.ofRead host.info) := by
      rw [decodeHostAgentInfo, encodeAgentInfo_eq, host.info.decode_append formats later]
      rfl
    constructor
    case newer => exact newer
    case same =>
      rw [newer, Except.ok.injEq]
      exact host.ofRead_eq_iff
    case older =>
      refine ⟨TailField.order.flatMap (host.info.fieldBytes formats) ++ later, ?_, ?_⟩
      · rw [encodeAgentInfo_eq, AgentInfo.encode, List.append_assoc]
        rfl
      · rw [encodeAgentInfo_eq, AgentInfo.encode, List.append_assoc]
        exact agentInfoBase.reads host.info.toAgentInfoBase _
    case between =>
      intro j _
      rw [encodeAgentInfo_eq]
      exact ⟨written, decodeKnown_take written j⟩
    case base =>
      have unknown := (AgentInfo.unknownTail host.info.toAgentInfoBase).decode_append formats []
      rw [List.append_nil] at unknown
      have known := AgentInfo.decode_base formats host.info.toAgentInfoBase
      rw [decodeHostAgentInfo, decodeHostAgentInfo, encodeAgentInfo_eq]
      show (decodeAgentInfo formats (formats.base.encode _)).map _ = _
      rw [known, ← unknown]
      rfl
  · intro buf base entries decoded j _
    exact decodeKnown_take decoded j

/-- An agent on an IPv6 address with a scope. -/
def scopedAgent : HostAgentInfo where
  info :=
    { agentName := "", agentVersion := "", protocolVersion := "", addr := ⟨.v6 1, 0⟩
      status := .ready, capabilities := .empty, activeTrustEpoch := none
      manifestFormats := none, provisioningFingerprint := none, auditHealth := none }
  addr := .v6 1 0 0 1
  written := rfl

open Encoding in
theorem scopedAgent_changes :
    ¬ ∀ (host : HostAgentInfo) (later : Bytes),
      decodeHostAgentInfo (encodeAgentInfo host ++ later) = .ok host := by
  intro preserved
  have read : decodeHostAgentInfo (encodeAgentInfo scopedAgent ++ []) =
      .ok (.ofRead scopedAgent.info) := by
    rw [decodeHostAgentInfo, encodeAgentInfo_eq, scopedAgent.info.decode_append formats []]
    rfl
  rw [preserved scopedAgent []] at read
  have scope := congrArg HostAgentInfo.addr (Except.ok.inj read)
  revert scope
  decide

end ReviewProtocol
