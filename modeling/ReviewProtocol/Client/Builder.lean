import ReviewProtocol.Handshake

set_option autoImplicit false

/- The builder's certificates and key. A setter that reads all of its input before it
assigns leaves the builder alone when the input is bad; one that adds to the trust store as
it reads does not. -/
namespace ReviewProtocol

open Framing (Bytes)

variable {R Cert Key Anchor : Type}

/-- What the builder uses of `rustls` and `rustls_pemfile`. A reader of PEM text yields its
certificates in order, with an error at one that is malformed; `anchor` is the trust anchor
that `RootCertStore::add` makes of a certificate, or the text of its error. -/
structure Tls (R Cert Key Anchor : Type) where
  cursor : Bytes → R
  certs : R → List (Except IoError Cert)
  privateKey : R → Except IoError (Option Key)
  anchor : Cert → Except String Anchor

/-- The builder with the fields of its endpoint. -/
structure TlsBuilder (Cert Key Anchor : Type) extends ConnectionBuilder where
  remoteName : String
  remoteAddr : SocketAddr
  localAddr : IpAddr
  roots : List Anchor
  certs : List Cert
  key : Key

def noCertificate : IoError := .message .invalidData "no certificate"

def noPrivateKey : IoError := .message .invalidData "no private key"

/-- `collect::<Result<_, _>>()`. -/
def collect {α : Type} : List (Except IoError α) → Except IoError (List α)
  | [] => .ok []
  | .error error :: _ => .error error
  | .ok value :: items =>
      match collect items with
      | .ok values => .ok (value :: values)
      | .error error => .error error

namespace Tls

variable (tls : Tls R Cert Key Anchor)

/-- `RootCertStore::add`: one more anchor, or an error and the store as it was. -/
def add (store : List Anchor) (cert : Cert) : Except IoError Unit × List Anchor :=
  match tls.anchor cert with
  | .ok anchor => (.ok (), store ++ [anchor])
  | .error text => (.error (.message .invalidData text), store)

/-- `for cert in rustls_pemfile::certs(..)`, with the builder's store. -/
def addEach (builder : TlsBuilder Cert Key Anchor) :
    List (Except IoError Cert) → Except IoError Unit × TlsBuilder Cert Key Anchor
  | [] => (.ok (), builder)
  | .error error :: _ => (.error error, builder)
  | .ok cert :: items =>
      match tls.add builder.roots cert with
      | (.ok (), roots) => addEach { builder with roots := roots } items
      | (.error error, roots) => (.error error, { builder with roots := roots })

/-- `for pem in certs`. -/
def addPems (builder : TlsBuilder Cert Key Anchor) :
    List Bytes → Except IoError Unit × TlsBuilder Cert Key Anchor
  | [] => (.ok (), builder)
  | pem :: pems =>
      match tls.addEach builder (tls.certs (tls.cursor pem)) with
      | (.ok (), builder) => addPems builder pems
      | (.error error, builder) => (.error error, builder)

def rootCerts (builder : TlsBuilder Cert Key Anchor) (certs : List Bytes) :
    Except IoError Unit × TlsBuilder Cert Key Anchor :=
  tls.addPems { builder with roots := [] } certs

def addRootCerts (builder : TlsBuilder Cert Key Anchor) (rd : R) :
    Except IoError Unit × TlsBuilder Cert Key Anchor :=
  tls.addEach builder (tls.certs rd)

def cert (builder : TlsBuilder Cert Key Anchor) (cert : Bytes) :
    Except IoError Unit × TlsBuilder Cert Key Anchor :=
  match collect (tls.certs (tls.cursor cert)) with
  | .error error => (.error error, builder)
  | .ok certs =>
      if certs.isEmpty then (.error noCertificate, builder)
      else (.ok (), { builder with certs := certs })

def key (builder : TlsBuilder Cert Key Anchor) (key : Bytes) :
    Except IoError Unit × TlsBuilder Cert Key Anchor :=
  match tls.privateKey (tls.cursor key) with
  | .error error => (.error (.wrapped .invalidData error), builder)
  | .ok none => (.error noPrivateKey, builder)
  | .ok (some key) => (.ok (), { builder with key := key })

/-! ### What the loops over the certificates come to -/

/-- The anchor of one item of the input, unless the item is bad. -/
def read (item : Except IoError Cert) : Option Anchor :=
  match item with
  | .error _ => none
  | .ok cert =>
      match tls.anchor cert with
      | .ok anchor => some anchor
      | .error _ => none

/-- Some item of the input is bad. -/
def SomeBad (items : List (Except IoError Cert)) : Prop := ∃ item ∈ items, tls.read item = none

/-- The anchors of the items before the first bad one. -/
def anchorsBefore : List (Except IoError Cert) → List Anchor
  | [] => []
  | item :: items =>
      match tls.read item with
      | some anchor => anchor :: anchorsBefore items
      | none => []

/-- The items of all the PEM texts. -/
def itemsOf (pems : List Bytes) : List (Except IoError Cert) :=
  pems.flatMap fun pem => tls.certs (tls.cursor pem)

theorem addEach_append (builder : TlsBuilder Cert Key Anchor)
    (items more : List (Except IoError Cert)) :
    tls.addEach builder (items ++ more) =
      match tls.addEach builder items with
      | (.ok (), builder) => tls.addEach builder more
      | (.error error, builder) => (.error error, builder) := by
  induction items generalizing builder with
  | nil => rfl
  | cons item items ih =>
      cases item with
      | error error => rfl
      | ok cert =>
          rw [List.cons_append]
          simp only [addEach]
          rcases tls.add builder.roots cert with ⟨error | ⟨⟩, roots⟩
          · rfl
          · exact ih _

/-- The two loops of `root_certs` are one over all the items. -/
theorem addPems_eq (builder : TlsBuilder Cert Key Anchor) (pems : List Bytes) :
    tls.addPems builder pems = tls.addEach builder (tls.itemsOf pems) := by
  induction pems generalizing builder with
  | nil => rfl
  | cons pem pems ih =>
      rw [itemsOf, List.flatMap_cons, addEach_append, addPems]
      rcases tls.addEach builder (tls.certs (tls.cursor pem)) with ⟨error | ⟨⟩, after⟩
      · rfl
      · exact ih after

/-- Whatever comes of it, the anchors before the first bad item have been added. -/
theorem addEach_builder (builder : TlsBuilder Cert Key Anchor)
    (items : List (Except IoError Cert)) :
    (tls.addEach builder items).2 =
      { builder with roots := builder.roots ++ tls.anchorsBefore items } := by
  induction items generalizing builder with
  | nil => simp only [addEach, anchorsBefore, List.append_nil]
  | cons item items ih =>
      cases item with
      | error error => simp only [addEach, anchorsBefore, read, List.append_nil]
      | ok cert =>
          cases made : tls.anchor cert with
          | error text =>
              simp only [addEach, add, anchorsBefore, read, made, List.append_nil]
          | ok anchor =>
              simp only [addEach, add, anchorsBefore, read, made, ih]
              rw [List.append_assoc, List.singleton_append]

theorem addEach_error_iff (builder : TlsBuilder Cert Key Anchor)
    (items : List (Except IoError Cert)) :
    (∃ error, (tls.addEach builder items).1 = .error error) ↔ tls.SomeBad items := by
  induction items generalizing builder with
  | nil =>
      constructor
      · rintro ⟨error, wrong⟩
        cases wrong
      · rintro ⟨item, member, -⟩
        cases member
  | cons item items ih =>
      have split : tls.SomeBad (item :: items) ↔ tls.read item = none ∨ tls.SomeBad items := by
        simp only [SomeBad, List.exists_mem_cons_iff]
      rw [split]
      cases item with
      | error error => exact ⟨fun _ => .inl rfl, fun _ => ⟨error, rfl⟩⟩
      | ok cert =>
          cases made : tls.anchor cert with
          | error text =>
              simp only [addEach, add, read, made]
              exact ⟨fun _ => .inl trivial, fun _ => ⟨_, rfl⟩⟩
          | ok anchor =>
              simp only [addEach, add, read, made, ih, reduceCtorEq, false_or]

/-- Without a bad item, the anchors are those of every item. -/
theorem read_of_good {items : List (Except IoError Cert)} (good : ¬ tls.SomeBad items) :
    items.map tls.read = (tls.anchorsBefore items).map some := by
  induction items with
  | nil => rfl
  | cons item items ih =>
      have later : ¬ tls.SomeBad items := by
        rintro ⟨other, member, bad⟩
        exact good ⟨other, List.mem_cons_of_mem _ member, bad⟩
      cases made : tls.read item with
      | none => exact absurd ⟨item, List.mem_cons_self, made⟩ good
      | some anchor => simp only [anchorsBefore, made, List.map_cons, ih later]

/-- What is asked of a setter: after an error the builder is as it was, and after a success
it is as it was meant to be. -/
structure Atomic (builder : TlsBuilder Cert Key Anchor)
    (outcome : Except IoError Unit × TlsBuilder Cert Key Anchor)
    (meant : TlsBuilder Cert Key Anchor → Prop) : Prop where
  unchanged : ∀ error, outcome.1 = .error error → outcome.2 = builder
  done : outcome.1 = .ok () → meant outcome.2

/-- The store holds these anchors and then those of the input, in order. -/
def Stores (builder : TlsBuilder Cert Key Anchor) (before : List Anchor)
    (items : List (Except IoError Cert)) (after : TlsBuilder Cert Key Anchor) : Prop :=
  ∃ anchors, items.map tls.read = anchors.map some ∧
    after = { builder with roots := before ++ anchors }

def MeansRootCerts (builder : TlsBuilder Cert Key Anchor) (pems : List Bytes) :
    TlsBuilder Cert Key Anchor → Prop :=
  tls.Stores builder [] (tls.itemsOf pems)

def MeansAddRootCerts (builder : TlsBuilder Cert Key Anchor) (rd : R) :
    TlsBuilder Cert Key Anchor → Prop :=
  tls.Stores builder builder.roots (tls.certs rd)

def MeansCert (builder : TlsBuilder Cert Key Anchor) (pem : Bytes)
    (after : TlsBuilder Cert Key Anchor) : Prop :=
  ∃ certs, tls.certs (tls.cursor pem) = certs.map .ok ∧ after = { builder with certs := certs }

def MeansKey (builder : TlsBuilder Cert Key Anchor) (pem : Bytes)
    (after : TlsBuilder Cert Key Anchor) : Prop :=
  ∃ key, tls.privateKey (tls.cursor pem) = .ok (some key) ∧ after = { builder with key := key }

/-- A loop that started from another store than the builder's is atomic exactly if, should
an item be bad, what it has made of that store by then is the builder's. -/
theorem addEach_atomic_iff (builder : TlsBuilder Cert Key Anchor) (before : List Anchor)
    (items : List (Except IoError Cert)) :
    Atomic builder (tls.addEach { builder with roots := before } items)
        (tls.Stores builder before items) ↔
      (tls.SomeBad items → before ++ tls.anchorsBefore items = builder.roots) := by
  have after := tls.addEach_builder { builder with roots := before } items
  have failing := tls.addEach_error_iff { builder with roots := before } items
  dsimp only at after
  constructor
  · intro atomic bad
    obtain ⟨error, failed⟩ := failing.mpr bad
    have same := atomic.unchanged error failed
    rw [after] at same
    exact congrArg TlsBuilder.roots same
  · intro condition
    refine ⟨?_, ?_⟩
    · intro error failed
      rw [after, condition (failing.mp ⟨error, failed⟩)]
    · intro succeeded
      have good : ¬ tls.SomeBad items := by
        intro bad
        obtain ⟨error, failed⟩ := failing.mpr bad
        rw [succeeded] at failed
        cases failed
      exact ⟨tls.anchorsBefore items, tls.read_of_good good, after⟩

theorem collect_ok {α : Type} {items : List (Except IoError α)} {values : List α}
    (collected : collect items = .ok values) : items = values.map .ok := by
  induction items generalizing values with
  | nil =>
      cases collected
      rfl
  | cons item items ih =>
      cases item with
      | error error => cases collected
      | ok value =>
          rw [collect] at collected
          split at collected
          · rename_i later rest
            cases collected
            rw [ih rest, List.map_cons]
          · cases collected

theorem cert_atomic (builder : TlsBuilder Cert Key Anchor) (pem : Bytes) :
    Atomic builder (tls.cert builder pem) (tls.MeansCert builder pem) := by
  unfold cert
  split
  · exact ⟨fun _ _ => rfl, nofun⟩
  · rename_i certs collected
    by_cases none : certs.isEmpty = true
    · rw [if_pos none]
      exact ⟨fun _ _ => rfl, nofun⟩
    · rw [if_neg none]
      exact ⟨nofun, fun _ => ⟨certs, collect_ok collected, rfl⟩⟩

theorem key_atomic (builder : TlsBuilder Cert Key Anchor) (pem : Bytes) :
    Atomic builder (tls.key builder pem) (tls.MeansKey builder pem) := by
  unfold key
  split
  · exact ⟨fun _ _ => rfl, nofun⟩
  · exact ⟨fun _ _ => rfl, nofun⟩
  · rename_i key found
    exact ⟨nofun, fun _ => ⟨key, found, rfl⟩⟩

/-- When the setters are atomic. Those of the chain and the key always are. `root_certs` is
so exactly when no certificate of its input is bad, or the ones before the bad one are what
the store already held; `add_root_certs` exactly when none is bad, or none comes before it. -/
theorem setters_atomic_iff (builder : TlsBuilder Cert Key Anchor) (pems : List Bytes) (rd : R)
    (cert key : Bytes) :
    (Atomic builder (tls.rootCerts builder pems) (tls.MeansRootCerts builder pems) ↔
      (tls.SomeBad (tls.itemsOf pems) → tls.anchorsBefore (tls.itemsOf pems) = builder.roots)) ∧
    (Atomic builder (tls.addRootCerts builder rd) (tls.MeansAddRootCerts builder rd) ↔
      (tls.SomeBad (tls.certs rd) → tls.anchorsBefore (tls.certs rd) = [])) ∧
    Atomic builder (tls.cert builder cert) (tls.MeansCert builder cert) ∧
    Atomic builder (tls.key builder key) (tls.MeansKey builder key) := by
  refine ⟨?_, ?_, tls.cert_atomic builder cert, tls.key_atomic builder key⟩
  · rw [rootCerts, addPems_eq]
    exact tls.addEach_atomic_iff builder [] (tls.itemsOf pems)
  · have appended := tls.addEach_atomic_iff builder builder.roots (tls.certs rd)
    rw [List.append_right_eq_self] at appended
    exact appended

/-- A PEM section that its text breaks off in, and other texts that hold none. -/
def brokenSection : Bytes := "-----BEGIN CERTIFICATE-----\nMIIB\n".toUTF8.toList

def sampleTls : Tls Bytes Bytes Bytes Bytes where
  cursor text := text
  certs text := if text = brokenSection then [.error (.simple .invalidData)] else []
  privateKey _ := .ok none
  anchor cert := .ok cert

/-- A builder that trusts one anchor. -/
def trusting : TlsBuilder Bytes Bytes Bytes where
  agentName := "agent"
  agentVersion := "1.0.0"
  protocolVersion := "0.24.0"
  status := .ready
  capabilities := .empty
  activeTrustEpoch := none
  manifestFormats := none
  provisioningFingerprint := none
  auditHealth := none
  remoteName := "manager"
  remoteAddr := ⟨.v4 2130706433, 38390⟩
  localAddr := .v4 0
  roots := [[1]]
  certs := [[2]]
  key := [3]

/-- A reload whose text is broken off returns an error and leaves no trust root. -/
theorem broken_reload_empties :
    (sampleTls.rootCerts trusting [brokenSection]).1 = .error (.simple .invalidData) ∧
      (sampleTls.rootCerts trusting [brokenSection]).2.roots = [] ∧ trusting.roots = [[1]] ∧
      ¬ Atomic trusting (sampleTls.rootCerts trusting [brokenSection])
        (sampleTls.MeansRootCerts trusting [brokenSection]) := by
  have yields : sampleTls.certs brokenSection = [.error (.simple .invalidData)] := if_pos rfl
  have reload : sampleTls.rootCerts trusting [brokenSection] =
      (.error (.simple .invalidData), { trusting with roots := [] }) := by
    rw [rootCerts, addPems, show sampleTls.cursor brokenSection = brokenSection from rfl, yields]
    rfl
  have failed := congrArg Prod.fst reload
  have emptied : (sampleTls.rootCerts trusting [brokenSection]).2.roots = [] := by
    rw [reload]
  refine ⟨failed, emptied, rfl, ?_⟩
  intro atomic
  rw [atomic.unchanged _ failed] at emptied
  cases emptied

end Tls

end ReviewProtocol
