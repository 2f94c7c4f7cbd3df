import ReviewProtocol.Encoding

set_option autoImplicit false

/- A lifecycle is one byte of a positional record. Whatever byte an agent puts there, the
fields around it are read as they were written. -/
namespace ReviewProtocol

open Framing (Bytes)
open Bincode
open Bincode.Codec (string u32 length)
open Encoding (bincode boundAddr packageState installedPackage nodePackageResponse)

namespace Lifecycle

def discriminant : Lifecycle → UInt8
  | notInstalled => 0
  | installing => 1
  | running => 2
  | stopped => 3
  | failed => 4
  | removing => 5
  | unknown => 255

/-- The variant that a byte is read as. -/
def fromPrimitive (raw : UInt8) : Lifecycle :=
  match raw with
  | 0 => notInstalled
  | 1 => installing
  | 2 => running
  | 3 => stopped
  | 4 => failed
  | 5 => removing
  | _ => unknown

theorem fromPrimitive_discriminant (lifecycle : Lifecycle) :
    fromPrimitive lifecycle.discriminant = lifecycle := by
  cases lifecycle <;> rfl

/-- The variant with that discriminant, or `unknown` when there is none. -/
theorem fromPrimitive_cases (raw : UInt8) :
    (fromPrimitive raw).discriminant = raw ∨
      (∀ known : Lifecycle, known.discriminant ≠ raw) ∧ fromPrimitive raw = unknown := by
  by_cases known : ∃ lifecycle : Lifecycle, lifecycle.discriminant = raw
  · obtain ⟨lifecycle, rfl⟩ := known
    rw [fromPrimitive_discriminant]
    exact .inl rfl
  · refine .inr ⟨fun lifecycle same => known ⟨lifecycle, same⟩, ?_⟩
    unfold fromPrimitive
    split
    · exact absurd ⟨notInstalled, rfl⟩ known
    · exact absurd ⟨installing, rfl⟩ known
    · exact absurd ⟨running, rfl⟩ known
    · exact absurd ⟨stopped, rfl⟩ known
    · exact absurd ⟨failed, rfl⟩ known
    · exact absurd ⟨removing, rfl⟩ known
    · rfl

theorem encode_eq (lifecycle : Lifecycle) :
    Encoding.lifecycle.encode lifecycle = [lifecycle.discriminant] := by
  cases lifecycle <;> rfl

/-- Any byte is a lifecycle. -/
theorem takes (raw : UInt8) : Encoding.lifecycle.reader.Takes [raw] (fromPrimitive raw) := by
  intro rest
  show (Encoding.lifecycle.reader).run (raw :: rest) = _
  unfold Encoding.lifecycle
  dsimp only
  rw [Reader.run_bind_ok (Reader.run_byte raw rest)]
  rcases fromPrimitive_cases raw with known | ⟨none, unknown⟩
  · rw [← known]
    cases fromPrimitive raw <;> rfl
  · rw [unknown]
    split
    · exact absurd rfl (none notInstalled)
    · exact absurd rfl (none installing)
    · exact absurd rfl (none running)
    · exact absurd rfl (none stopped)
    · exact absurd rfl (none failed)
    · exact absurd rfl (none removing)
    · rfl

end Lifecycle

namespace PackageState

/-- The same state at the lifecycle that a byte is read as. -/
def withLifecycle (state : PackageState) (raw : UInt8) : PackageState :=
  { state with lifecycle := .fromPrimitive raw }

/-- What is encoded before the lifecycle. -/
def bytesBefore (state : PackageState) : Bytes :=
  string.encode state.version ++ string.encode state.commit

def bytesAfter (state : PackageState) : Bytes :=
  boundAddr.list.encode state.boundAddrs ++ string.option.encode state.privilegeProfile

theorem encode_eq (state : PackageState) :
    packageState.encode state =
      state.bytesBefore ++ state.lifecycle.discriminant :: state.bytesAfter := by
  unfold packageState bytesBefore bytesAfter
  dsimp only
  rw [Lifecycle.encode_eq]
  simp only [List.append_assoc, List.cons_append, List.nil_append]

theorem takes (state : PackageState) (raw : UInt8) :
    packageState.reader.Takes (state.bytesBefore ++ raw :: state.bytesAfter)
      (state.withLifecycle raw) := by
  have fields : packageState.reader.Takes
      (string.encode state.version ++ (string.encode state.commit ++ ([raw] ++
        (boundAddr.list.encode state.boundAddrs ++
          string.option.encode state.privilegeProfile)))) (state.withLifecycle raw) :=
    (string.takes _).bind ((string.takes _).bind ((Lifecycle.takes raw).bind
      ((boundAddr.list.takes _).bind ((string.option.takes _).map _))))
  rw [bytesBefore, List.append_assoc]
  exact fields

end PackageState

namespace InstalledPackage

def withLifecycle (package : InstalledPackage) (raw : UInt8) : InstalledPackage :=
  { package with state := package.state.withLifecycle raw }

/-- What is encoded before the lifecycle of the package's state. -/
def bytesBefore (package : InstalledPackage) : Bytes :=
  string.encode package.target ++ u32.option.encode package.instanceNo ++ package.state.bytesBefore

/-- The encoding with this byte for the lifecycle. -/
def encodeWith (package : InstalledPackage) (raw : UInt8) : Bytes :=
  package.bytesBefore ++ raw :: package.state.bytesAfter

theorem encode_eq (package : InstalledPackage) :
    installedPackage.encode package = package.encodeWith package.state.lifecycle.discriminant := by
  unfold installedPackage encodeWith bytesBefore
  dsimp only
  rw [PackageState.encode_eq]
  simp only [List.append_assoc]

theorem takes (package : InstalledPackage) (raw : UInt8) :
    installedPackage.reader.Takes (package.encodeWith raw) (package.withLifecycle raw) := by
  have fields : installedPackage.reader.Takes
      (string.encode package.target ++ (u32.option.encode package.instanceNo ++
        (package.state.bytesBefore ++ raw :: package.state.bytesAfter)))
      (package.withLifecycle raw) :=
    (string.takes _).bind ((u32.option.takes _).bind ((package.state.takes raw).map _))
  rw [encodeWith, bytesBefore, List.append_assoc, List.append_assoc]
  exact fields

end InstalledPackage

/-- Where the lifecycles of packages are when the first of these is encoded at `start`. -/
def lifecyclesFrom (start : Nat) : List InstalledPackage → List Nat
  | [] => []
  | package :: packages =>
      (start + package.bytesBefore.length) ::
        lifecyclesFrom (start + (installedPackage.encode package).length) packages

theorem length_encodeWith (package : InstalledPackage) (raw : UInt8) :
    (package.encodeWith raw).length = (installedPackage.encode package).length := by
  rw [package.encode_eq]
  simp only [InstalledPackage.encodeWith, List.length_append, List.length_cons]

/-- At those positions are the discriminants. -/
theorem lifecyclesFrom_get (head : Bytes) (packages : List InstalledPackage) (tail : Bytes) :
    (lifecyclesFrom head.length packages).map
        (fun position => (head ++ (packages.flatMap installedPackage.encode ++ tail))[position]?) =
      packages.map fun package => some package.state.lifecycle.discriminant := by
  induction packages generalizing head with
  | nil => rfl
  | cons package packages ih =>
      rw [lifecyclesFrom, List.map_cons, List.map_cons, List.flatMap_cons]
      have here : (head ++ (installedPackage.encode package ++
          packages.flatMap installedPackage.encode ++ tail))[head.length +
            package.bytesBefore.length]? = some package.state.lifecycle.discriminant := by
        rw [package.encode_eq, InstalledPackage.encodeWith, ← List.length_append]
        simp only [List.append_assoc, List.cons_append]
        rw [← List.append_assoc, List.getElem?_append_right (Nat.le_refl _), Nat.sub_self]
        rfl
      have later := ih (head ++ installedPackage.encode package)
      rw [List.length_append] at later
      simp only [List.append_assoc] at later here ⊢
      rw [here, later]

/-- To overwrite the lifecycles is to encode the packages with those bytes for them. -/
theorem overwrite_packages (head tail : Bytes) (assigned : List (InstalledPackage × UInt8)) :
    overwrite (head ++ ((assigned.map Prod.fst).flatMap installedPackage.encode ++ tail))
        ((lifecyclesFrom head.length (assigned.map Prod.fst)).zip (assigned.map Prod.snd)) =
      head ++ (assigned.flatMap (fun entry => entry.1.encodeWith entry.2) ++ tail) := by
  induction assigned generalizing head with
  | nil => rfl
  | cons entry assigned ih =>
      obtain ⟨package, raw⟩ := entry
      simp only [List.map_cons, List.flatMap_cons, lifecyclesFrom, List.zip_cons_cons]
      have here : (head ++ (installedPackage.encode package ++
          (assigned.map Prod.fst).flatMap installedPackage.encode ++ tail)).set
            (head.length + package.bytesBefore.length) raw =
          (head ++ package.encodeWith raw) ++
            ((assigned.map Prod.fst).flatMap installedPackage.encode ++ tail) := by
        rw [package.encode_eq, InstalledPackage.encodeWith, ← List.length_append]
        simp only [List.append_assoc, List.cons_append]
        rw [← List.append_assoc, set_middle]
        simp only [InstalledPackage.encodeWith, List.append_assoc, List.cons_append]
      have later := ih (head ++ package.encodeWith raw)
      rw [List.length_append, length_encodeWith] at later
      unfold overwrite at later ⊢
      rw [List.foldl_cons, here, later]
      simp only [List.append_assoc]

/-- What `oinq` sends for a response, and what a manager makes of some bytes. -/
def encodeReply (response : NodePackageResponse) : Bytes :=
  bincode.encode (.result .nodePackageResponse) (.ok response)

def decodeReply (bytes : Bytes) : Except IoError (Except String NodePackageResponse) :=
  bincode.decode (.result .nodePackageResponse) bytes

/-- The positions of the lifecycles in an encoded `Ok(Installed(packages))`: behind the two
tags and the count. -/
def installedLifecycles (packages : List InstalledPackage) : List Nat :=
  lifecyclesFrom (2 + (length.encode packages.length).length) packages

/-- The position of the lifecycle in an encoded `Ok(State(state))`. -/
def stateLifecycle (state : PackageState) : Nat := 2 + state.bytesBefore.length

theorem encodeReply_installed (packages : List InstalledPackage) :
    encodeReply (.installed packages) =
      (0 :: 2 :: length.encode packages.length) ++
        (packages.flatMap installedPackage.encode ++ []) := by
  rw [List.append_nil]
  rfl

theorem encodeReply_state (state : PackageState) :
    encodeReply (.state state) =
      (0 :: 3 :: state.bytesBefore) ++ state.lifecycle.discriminant :: state.bytesAfter := by
  have encoded : encodeReply (.state state) = 0 :: 3 :: packageState.encode state := rfl
  rw [encoded, PackageState.encode_eq]
  rfl

theorem decodeReply_of_takes {bytes : Bytes} {response : NodePackageResponse}
    (taken : nodePackageResponse.reader.Takes bytes response) :
    decodeReply (0 :: bytes) = .ok (.ok response) := by
  have whole : (Encoding.result nodePackageResponse).reader.Takes ([0] ++ bytes) (.ok response) :=
    (length.takes 0).bind (taken.map Except.ok)
  have read := whole []
  rw [List.append_nil] at read
  have spelled : Encoding.codec (.result .nodePackageResponse) =
    some (Encoding.result nodePackageResponse) := rfl
  simp only [decodeReply, bincode, spelled, Encoding.decode]
  rw [show (Encoding.result nodePackageResponse).reader.run (0 :: bytes) = _ from read]

theorem takes_installed (assigned : List (InstalledPackage × UInt8)) :
    nodePackageResponse.reader.Takes
      (2 :: (length.encode assigned.length ++
        assigned.flatMap (fun entry => entry.1.encodeWith entry.2)))
      (.installed (assigned.map fun entry => entry.1.withLifecycle entry.2)) := by
  have packages := installedPackage.takes_list (fun entry : InstalledPackage × UInt8 =>
    entry.1.encodeWith entry.2) _ (fun entry => entry.1.takes entry.2) assigned
  exact (length.takes 2).bind (packages.map NodePackageResponse.installed)

theorem takes_state (state : PackageState) (raw : UInt8) :
    nodePackageResponse.reader.Takes (3 :: (state.bytesBefore ++ raw :: state.bytesAfter))
      (.state (state.withLifecycle raw)) :=
  (length.takes 3).bind ((state.takes raw).map NodePackageResponse.state)

/-- Whatever bytes a newer agent puts for the lifecycles, an older manager reads the same
packages, each at the state it knows by that byte or at `unknown`. -/
theorem lifecycle_tolerance :
    (∀ packages : List InstalledPackage,
      (installedLifecycles packages).map (fun position =>
          (encodeReply (.installed packages))[position]?) =
        packages.map fun package => some package.state.lifecycle.discriminant) ∧
    (∀ assigned : List (InstalledPackage × UInt8),
      decodeReply (overwrite (encodeReply (.installed (assigned.map Prod.fst)))
          ((installedLifecycles (assigned.map Prod.fst)).zip (assigned.map Prod.snd))) =
        .ok (.ok (.installed (assigned.map fun entry => entry.1.withLifecycle entry.2)))) ∧
    (∀ state : PackageState,
      (encodeReply (.state state))[stateLifecycle state]? = some state.lifecycle.discriminant) ∧
    (∀ (state : PackageState) (raw : UInt8),
      decodeReply ((encodeReply (.state state)).set (stateLifecycle state) raw) =
        .ok (.ok (.state (state.withLifecycle raw)))) ∧
    (∀ raw : UInt8, (Lifecycle.fromPrimitive raw).discriminant = raw ∨
      (∀ known : Lifecycle, known.discriminant ≠ raw) ∧
        Lifecycle.fromPrimitive raw = .unknown) ∧
    (∀ packages : List InstalledPackage,
      decodeReply (encodeReply (.installed packages)) = .ok (.ok (.installed packages))) ∧
    (∀ state : PackageState,
      decodeReply (encodeReply (.state state)) = .ok (.ok (.state state))) := by
  refine ⟨?_, ?_, ?_, ?_, Lifecycle.fromPrimitive_cases, ?_, ?_⟩
  · intro packages
    have positions := lifecyclesFrom_get (0 :: 2 :: length.encode packages.length) packages []
    rw [encodeReply_installed, installedLifecycles, Nat.add_comm]
    exact positions
  · intro assigned
    have written := overwrite_packages
      (0 :: 2 :: length.encode (assigned.map Prod.fst).length) [] assigned
    rw [encodeReply_installed, installedLifecycles, Nat.add_comm]
    rw [List.length_cons, List.length_cons] at written
    rw [written, List.append_nil, List.length_map]
    exact decodeReply_of_takes (takes_installed assigned)
  · intro state
    rw [encodeReply_state, stateLifecycle, Nat.add_comm,
      show state.bytesBefore.length + 2 = (0 :: 3 :: state.bytesBefore : Bytes).length from rfl,
      List.getElem?_append_right (Nat.le_refl _), Nat.sub_self]
    rfl
  · intro state raw
    rw [encodeReply_state, stateLifecycle, Nat.add_comm,
      show state.bytesBefore.length + 2 = (0 :: 3 :: state.bytesBefore : Bytes).length from rfl,
      set_middle]
    exact decodeReply_of_takes (takes_state state raw)
  · intro packages
    exact Encoding.bincode_roundTrips rfl _
  · intro state
    exact Encoding.bincode_roundTrips rfl _

end ReviewProtocol
