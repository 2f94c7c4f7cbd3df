import Mathlib.Algebra.Ring.Nat
import Mathlib.Data.List.Basic

set_option autoImplicit false

/- Semantic versions and requirements on them, as the `semver` crate has them: the total
order of versions, which counts build metadata, and the matching of requirements, which
does not and which lets a pre-release in only where a comparator names one. -/
namespace SemVer

def isIdentifierChar (c : Char) : Bool := c.isAlphanum || c == '-'

/-- A part of a pre-release or of build metadata, between two dots. -/
def IsIdentifier (id : List Char) : Prop := id ≠ [] ∧ ∀ c ∈ id, isIdentifierChar c

def isNumeric (id : List Char) : Bool := id.all Char.isDigit

/-- A number of two digits or more that begins with a zero. -/
def leadingZero (id : List Char) : Bool :=
  isNumeric id && decide (1 < id.length) && id.head? == some '0'

/-- The empty one is that of a release. -/
structure Prerelease where
  ids : List (List Char)
  identifiers : ∀ id ∈ ids, IsIdentifier id
  canonical : ∀ id ∈ ids, leadingZero id = false

structure BuildMetadata where
  ids : List (List Char)
  identifiers : ∀ id ∈ ids, IsIdentifier id

structure Version where
  major : UInt64
  minor : UInt64
  patch : UInt64
  pre : Prerelease
  build : BuildMetadata

@[ext] theorem Prerelease.ext {first second : Prerelease} (same : first.ids = second.ids) :
    first = second := by
  cases first
  cases second
  cases same
  rfl

@[ext] theorem BuildMetadata.ext {first second : BuildMetadata} (same : first.ids = second.ids) :
    first = second := by
  cases first
  cases second
  cases same
  rfl

instance : DecidableEq Prerelease := fun first second =>
  decidable_of_iff (first.ids = second.ids) ⟨Prerelease.ext, congrArg _⟩

instance : DecidableEq BuildMetadata := fun first second =>
  decidable_of_iff (first.ids = second.ids) ⟨BuildMetadata.ext, congrArg _⟩

deriving instance DecidableEq for Version

def Prerelease.empty : Prerelease := ⟨[], nofun, nofun⟩

def BuildMetadata.empty : BuildMetadata := ⟨[], nofun⟩

/-! ### The order of versions -/

/-- Numbers come before other identifiers, and are compared as numbers. -/
def compareIdentifier (first second : List Char) : Ordering :=
  match isNumeric first, isNumeric second with
  | false, true => .gt
  | true, false => .lt
  | false, false => compare first second
  | true, true => (compare first.length second.length).then (compare first second)

/-- Numbers of build metadata may begin with zeros, which break a tie. -/
def compareBuildIdentifier (first second : List Char) : Ordering :=
  match isNumeric first, isNumeric second with
  | false, true => .gt
  | true, false => .lt
  | false, false => compare first second
  | true, true =>
      let value := first.dropWhile (· == '0')
      let value' := second.dropWhile (· == '0')
      (compare value.length value'.length).then
        ((compare value value').then (compare first.length second.length))

/-- A release comes after its pre-releases. -/
def comparePre (first second : Prerelease) : Ordering :=
  match first.ids, second.ids with
  | [], [] => .eq
  | [], _ :: _ => .gt
  | _ :: _, [] => .lt
  | _ :: _, _ :: _ => first.ids.compareLex compareIdentifier second.ids

def compareBuild (first second : BuildMetadata) : Ordering :=
  first.ids.compareLex compareBuildIdentifier second.ids

/-- Without the build metadata. -/
def comparePrecedence (first second : Version) : Ordering :=
  (compare first.major second.major).then ((compare first.minor second.minor).then
    ((compare first.patch second.patch).then (comparePre first.pre second.pre)))

/-- The order that the crate derives for `Version`. -/
def compareVersion (first second : Version) : Ordering :=
  (comparePrecedence first second).then (compareBuild first.build second.build)

def Version.le (first second : Version) : Bool := (compareVersion first second).isLE

/-! ### Requirements -/

inductive Op where
  | exact
  | greater
  | greaterEq
  | less
  | lessEq
  | tilde
  | caret
  | wildcard
deriving DecidableEq, Repr

/-- A comparator leaves fields out from the end on. -/
structure Comparator where
  op : Op
  major : UInt64
  minor : Option UInt64
  patch : Option UInt64
  pre : Prerelease
  nested : minor = none → patch = none
  whole : patch = none → pre = .empty
  wild : op = .wildcard → patch = none
deriving DecidableEq

/-- All of its comparators must match. None is written `*`. -/
structure VersionReq where
  comparators : List Comparator
deriving DecidableEq

namespace Comparator

variable (cmp : Comparator) (ver : Version)

def matchesExact : Bool :=
  if ver.major ≠ cmp.major then false
  else if cmp.minor.any (· ≠ ver.minor) then false
  else if cmp.patch.any (· ≠ ver.patch) then false
  else ver.pre = cmp.pre

def matchesGreater : Bool :=
  if ver.major ≠ cmp.major then ver.major > cmp.major
  else match cmp.minor with
    | none => false
    | some minor =>
        if ver.minor ≠ minor then ver.minor > minor
        else match cmp.patch with
          | none => false
          | some patch =>
              if ver.patch ≠ patch then ver.patch > patch
              else (comparePre ver.pre cmp.pre).isGT

def matchesLess : Bool :=
  if ver.major ≠ cmp.major then ver.major < cmp.major
  else match cmp.minor with
    | none => false
    | some minor =>
        if ver.minor ≠ minor then ver.minor < minor
        else match cmp.patch with
          | none => false
          | some patch =>
              if ver.patch ≠ patch then ver.patch < patch
              else (comparePre ver.pre cmp.pre).isLT

def matchesTilde : Bool :=
  if ver.major ≠ cmp.major then false
  else if cmp.minor.any (· ≠ ver.minor) then false
  else match cmp.patch with
    | some patch =>
        if ver.patch ≠ patch then ver.patch > patch
        else (comparePre ver.pre cmp.pre).isGE
    | none => (comparePre ver.pre cmp.pre).isGE

def matchesCaret : Bool :=
  if ver.major ≠ cmp.major then false
  else match cmp.minor with
    | none => true
    | some minor =>
        match cmp.patch with
        | none => if cmp.major > 0 then ver.minor ≥ minor else ver.minor = minor
        | some patch =>
            if cmp.major > 0 then
              if ver.minor ≠ minor then ver.minor > minor
              else if ver.patch ≠ patch then ver.patch > patch
              else (comparePre ver.pre cmp.pre).isGE
            else if minor > 0 then
              if ver.minor ≠ minor then false
              else if ver.patch ≠ patch then ver.patch > patch
              else (comparePre ver.pre cmp.pre).isGE
            else if ver.minor ≠ minor ∨ ver.patch ≠ patch then false
            else (comparePre ver.pre cmp.pre).isGE

/-- A comparator by itself, the rule on pre-releases aside. -/
def matchesImpl : Bool :=
  match cmp.op with
  | .exact | .wildcard => cmp.matchesExact ver
  | .greater => cmp.matchesGreater ver
  | .greaterEq => cmp.matchesExact ver || cmp.matchesGreater ver
  | .less => cmp.matchesLess ver
  | .lessEq => cmp.matchesExact ver || cmp.matchesLess ver
  | .tilde => cmp.matchesTilde ver
  | .caret => cmp.matchesCaret ver

/-- A comparator that names a pre-release of the same version lets its pre-releases in. -/
def preIsCompatible : Bool :=
  cmp.major = ver.major ∧ cmp.minor = some ver.minor ∧ cmp.patch = some ver.patch ∧
    cmp.pre ≠ .empty

end Comparator

def VersionReq.matchesReq (req : VersionReq) (ver : Version) : Bool :=
  req.comparators.all (·.matchesImpl ver) &&
    (ver.pre = .empty || req.comparators.any (·.preIsCompatible ver))

/-! ### A requirement with a ceiling -/

theorem compareIdentifier_eq_iff (first second : List Char) :
    compareIdentifier first second = .eq ↔ first = second := by
  unfold compareIdentifier
  constructor
  · intro same
    split at same
    · cases same
    · cases same
    · exact Std.LawfulEqOrd.eq_of_compare same
    · exact Std.LawfulEqOrd.eq_of_compare (Ordering.then_eq_eq.mp same).2
  · intro same
    subst same
    split
    · simp_all
    · simp_all
    · exact Std.ReflOrd.compare_self
    · rw [Std.ReflOrd.compare_self, Std.ReflOrd.compare_self]
      rfl

theorem compareBuildIdentifier_self (id : List Char) : compareBuildIdentifier id id = .eq := by
  unfold compareBuildIdentifier
  split
  · simp_all
  · simp_all
  · exact Std.ReflOrd.compare_self
  · simp only [Std.ReflOrd.compare_self, Ordering.then_eq]

theorem compareLex_eq_iff {α : Type} {cmp : α → α → Ordering}
    (lawful : ∀ first second, cmp first second = .eq ↔ first = second) (xs ys : List α) :
    xs.compareLex cmp ys = .eq ↔ xs = ys := by
  induction xs generalizing ys with
  | nil =>
      cases ys with
      | nil => simp [List.compareLex_nil_nil]
      | cons y ys => simp [List.compareLex_nil_cons]
  | cons x xs ih =>
      cases ys with
      | nil => simp [List.compareLex_cons_nil]
      | cons y ys =>
          rw [List.compareLex_cons_cons, Ordering.then_eq_eq, lawful, ih, List.cons.injEq]

/-- A list comes before the same list with more after it. -/
theorem compareLex_append {α : Type} {cmp : α → α → Ordering} (self : ∀ x, cmp x x = .eq)
    (xs : List α) (y : α) (ys : List α) : (xs ++ y :: ys).compareLex cmp xs = .gt := by
  induction xs with
  | nil => exact List.compareLex_cons_nil
  | cons x xs ih =>
      rw [List.cons_append, List.compareLex_cons_cons, self, ih]
      rfl

theorem comparePre_eq_iff (first second : Prerelease) :
    comparePre first second = .eq ↔ first = second := by
  rw [Prerelease.ext_iff]
  unfold comparePre
  cases left : first.ids with
  | nil => cases second.ids <;> simp
  | cons id ids =>
      cases right : second.ids with
      | nil => simp
      | cons id' ids' =>
          exact compareLex_eq_iff compareIdentifier_eq_iff (id :: ids) (id' :: ids')

theorem comparePre_empty {pre : Prerelease} (some : pre ≠ .empty) :
    comparePre pre .empty = .lt := by
  unfold comparePre
  cases ids : pre.ids with
  | nil => exact absurd (Prerelease.ext ids) some
  | cons id ids => rfl

theorem comparePrecedence_eq_iff (first second : Version) :
    comparePrecedence first second = .eq ↔ first.major = second.major ∧
      first.minor = second.minor ∧ first.patch = second.patch ∧ first.pre = second.pre := by
  simp only [comparePrecedence, Ordering.then_eq_eq, comparePre_eq_iff,
    Std.LawfulEqOrd.compare_eq_iff_eq]

/-- What `<=` and a version stand for. The build metadata is dropped. -/
def ceiling (highest : Version) : Comparator where
  op := .lessEq
  major := highest.major
  minor := some highest.minor
  patch := some highest.patch
  pre := highest.pre
  nested := nofun
  whole := nofun
  wild := nofun

@[simp] theorem ceiling_op (highest : Version) : (ceiling highest).op = .lessEq := rfl

@[simp] theorem ceiling_major (highest : Version) :
    (ceiling highest).major = highest.major := rfl

@[simp] theorem ceiling_minor (highest : Version) :
    (ceiling highest).minor = some highest.minor := rfl

@[simp] theorem ceiling_patch (highest : Version) :
    (ceiling highest).patch = some highest.patch := rfl

@[simp] theorem ceiling_pre (highest : Version) : (ceiling highest).pre = highest.pre := rfl

theorem isLE_then_of_ne {first second : UInt64} (apart : first ≠ second) (later : Ordering) :
    ((compare first second).then later).isLE = decide (first < second) := by
  show ((compareOfLessAndEq first second).then later).isLE = _
  unfold compareOfLessAndEq
  by_cases less : first < second
  · simp [less]
  · simp [less, apart]

/-- Without build metadata, the ceiling is what the order says. -/
theorem ceiling_matchesImpl (highest ver : Version) :
    (ceiling highest).matchesImpl ver = (comparePrecedence ver highest).isLE := by
  simp only [Comparator.matchesImpl, ceiling_op, Comparator.matchesExact, Comparator.matchesLess,
    ceiling_major, ceiling_minor, ceiling_patch, ceiling_pre, comparePrecedence, Option.any_some]
  by_cases major : ver.major = highest.major
  · by_cases minor : ver.minor = highest.minor
    · by_cases patch : ver.patch = highest.patch
      · simp only [major, minor, patch, Std.ReflOrd.compare_self, Ordering.then]
        cases pre : comparePre ver.pre highest.pre with
        | lt => simp
        | eq => simp [(comparePre_eq_iff _ _).mp pre]
        | gt =>
            have apart : ver.pre ≠ highest.pre := by
              intro same
              rw [(comparePre_eq_iff _ _).mpr same] at pre
              cases pre
            simp [apart]
      · simp [major, minor, patch, Ne.symm patch, Std.ReflOrd.compare_self, isLE_then_of_ne patch]
    · simp [major, minor, Ne.symm minor, Std.ReflOrd.compare_self, isLE_then_of_ne minor]
  · simp only [isLE_then_of_ne major, ne_eq, major, not_false_eq_true, ↓reduceIte, Bool.false_or]
    exact decide_eq_decide.mpr Iff.rfl

section matching

variable (cmp : Comparator) {ver other : Version}

/-- A comparator looks at no build metadata. -/
theorem matchesImpl_congr (same : comparePrecedence ver other = .eq) :
    cmp.matchesImpl ver = cmp.matchesImpl other := by
  obtain ⟨major, minor, patch, pre⟩ := (comparePrecedence_eq_iff ver other).mp same
  simp only [Comparator.matchesImpl, Comparator.matchesExact, Comparator.matchesGreater,
    Comparator.matchesLess, Comparator.matchesTilde, Comparator.matchesCaret, major, minor, patch,
    pre]

/-- Where no comparator names a pre-release of a version, all its pre-releases match alike. -/
theorem matchesImpl_prereleases (major : ver.major = other.major) (minor : ver.minor = other.minor)
    (patch : ver.patch = other.patch) (pre : ver.pre ≠ .empty) (otherPre : other.pre ≠ .empty)
    (unnamed : cmp.preIsCompatible ver = false) :
    cmp.matchesImpl ver = cmp.matchesImpl other := by
  by_cases plain : cmp.pre = .empty
  · simp only [Comparator.matchesImpl, Comparator.matchesExact, Comparator.matchesGreater,
      Comparator.matchesLess, Comparator.matchesTilde, Comparator.matchesCaret, major, minor, patch,
      plain, comparePre_empty pre, comparePre_empty otherPre, pre, otherPre]
  · -- all three numbers are given, and they are not those of the version
    cases givenPatch : cmp.patch with
    | none => exact absurd (cmp.whole givenPatch) plain
    | some patch' =>
        cases givenMinor : cmp.minor with
        | none =>
            rw [cmp.nested givenMinor] at givenPatch
            cases givenPatch
        | some minor' =>
            have elsewhere : ¬ (cmp.major = other.major ∧ minor' = other.minor ∧
                patch' = other.patch) := by
              rintro ⟨sameMajor, sameMinor, samePatch⟩
              simp [Comparator.preIsCompatible, givenMinor, givenPatch, sameMajor, sameMinor,
                samePatch, major, minor, patch, plain] at unnamed
            simp only [Comparator.matchesImpl, Comparator.matchesExact, Comparator.matchesGreater,
              Comparator.matchesLess, Comparator.matchesTilde, Comparator.matchesCaret, major,
                minor,
              patch, givenMinor, givenPatch]
            by_cases sameMajor : other.major = cmp.major
            · by_cases sameMinor : other.minor = minor'
              · have apart : other.patch ≠ patch' := by
                  intro samePatch
                  exact elsewhere ⟨sameMajor.symm, sameMinor.symm, samePatch.symm⟩
                simp [sameMajor, sameMinor, apart, Ne.symm apart]
              · simp [sameMajor, sameMinor, Ne.symm sameMinor]
            · simp [sameMajor]

end matching

/-- The requirement with the ceiling as one more comparator. -/
def VersionReq.under (req : VersionReq) (highest : Version) : VersionReq :=
  ⟨req.comparators ++ [ceiling highest]⟩

/-- The same version with more build metadata. -/
def Version.rebuilt (ver : Version) : Version :=
  { ver with build :=
      { ids := ver.build.ids ++ [['0']]
        identifiers := by
          intro id mem
          rcases List.mem_append.mp mem with mem | mem
          · exact ver.build.identifiers id mem
          · rw [List.mem_singleton.mp mem]
            refine ⟨nofun, fun c digit => ?_⟩
            rw [List.mem_singleton.mp digit]
            rfl } }

theorem Version.rebuilt_precedence (ver : Version) :
    comparePrecedence ver.rebuilt ver = .eq :=
  (comparePrecedence_eq_iff _ _).mpr ⟨rfl, rfl, rfl, rfl⟩

theorem Version.rebuilt_not_le (ver : Version) : ver.rebuilt.le ver = false := by
  have later : compareBuild ver.rebuilt.build ver.build = .gt :=
    compareLex_append compareBuildIdentifier_self ver.build.ids ['0'] []
  rw [Version.le, compareVersion, ver.rebuilt_precedence, later]
  rfl

theorem under_matchesReq (req : VersionReq) (highest ver : Version) :
    (req.under highest).matchesReq ver =
      ((req.comparators.all (·.matchesImpl ver) && (comparePrecedence ver highest).isLE) &&
        (ver.pre = .empty || (req.comparators.any (·.preIsCompatible ver) ||
          (ceiling highest).preIsCompatible ver))) := by
  simp only [VersionReq.matchesReq, VersionReq.under, List.all_append, List.any_append,
    List.all_cons, List.all_nil, List.any_cons, List.any_nil, Bool.and_true, Bool.or_false,
    ceiling_matchesImpl]

/-- Versions that differ in more than their build are ordered by that. -/
theorem isLE_precedence_of_ne {ver highest : Version}
    (apart : comparePrecedence ver highest ≠ .eq) :
    (comparePrecedence ver highest).isLE = ver.le highest := by
  unfold Version.le compareVersion
  cases order : comparePrecedence ver highest with
  | lt => rfl
  | eq => exact absurd order apart
  | gt => rfl

/-- If some comparator rejects the ceiling, it names no pre-release that the others let in. -/
theorem ceiling_preIsCompatible {req : VersionReq} {highest ver : Version}
    (rejected : ∃ cmp ∈ req.comparators, cmp.matchesImpl highest = false)
    (all : req.comparators.all (·.matchesImpl ver) = true) (pre : ver.pre ≠ .empty)
    (compatible : (ceiling highest).preIsCompatible ver = true) :
    req.comparators.any (·.preIsCompatible ver) = true := by
  obtain ⟨cmp, mem, rejects⟩ := rejected
  have same : highest.major = ver.major ∧ highest.minor = ver.minor ∧
      highest.patch = ver.patch ∧ highest.pre ≠ .empty := by
    simpa [Comparator.preIsCompatible] using compatible
  obtain ⟨major, minor, patch, highestPre⟩ := same
  by_cases named : cmp.preIsCompatible ver = true
  · exact List.any_eq_true.mpr ⟨cmp, mem, named⟩
  · have alike := matchesImpl_prereleases cmp major.symm minor.symm patch.symm pre highestPre
      (Bool.eq_false_iff.mpr named)
    rw [List.all_eq_true.mp all cmp mem, rejects] at alike
    cases alike

/-- The requirement with the ceiling is both of the conditions together exactly when the
ceiling itself is not in it. A ceiling that is in it lets in every build of itself, which
the order of versions puts above it. -/
theorem under_matchesReq_iff (req : VersionReq) (highest : Version) :
    (∀ ver, (req.under highest).matchesReq ver = (req.matchesReq ver && ver.le highest)) ↔
      ∃ cmp ∈ req.comparators, cmp.matchesImpl highest = false := by
  constructor
  · intro same
    by_contra none
    have admitted : ∀ cmp ∈ req.comparators, cmp.matchesImpl highest = true := by
      intro cmp mem
      by_contra rejects
      exact none ⟨cmp, mem, Bool.eq_false_iff.mpr rejects⟩
    have all : req.comparators.all (·.matchesImpl highest.rebuilt) = true := by
      rw [List.all_eq_true]
      intro cmp mem
      rw [matchesImpl_congr cmp highest.rebuilt_precedence]
      exact admitted cmp mem
    have here := same highest.rebuilt
    rw [under_matchesReq, all, highest.rebuilt_precedence, highest.rebuilt_not_le,
      Bool.and_false] at here
    by_cases release : highest.pre = .empty
    · simp [Version.rebuilt, release] at here
    · have compatible : (ceiling highest).preIsCompatible highest.rebuilt = true := by
        simp [Comparator.preIsCompatible, Version.rebuilt, release]
      simp [compatible] at here
  · intro rejected ver
    rw [under_matchesReq]
    unfold VersionReq.matchesReq
    by_cases all : req.comparators.all (·.matchesImpl ver) = true
    · have apart : comparePrecedence ver highest ≠ .eq := by
        intro same
        obtain ⟨cmp, mem, rejects⟩ := rejected
        have matched := List.all_eq_true.mp all cmp mem
        rw [matchesImpl_congr cmp same, rejects] at matched
        cases matched
      rw [isLE_precedence_of_ne apart, all]
      by_cases pre : ver.pre = .empty
      · simp [pre]
      · by_cases compatible : (ceiling highest).preIsCompatible ver = true
        · have named := ceiling_preIsCompatible rejected all pre compatible
          simp [pre, named]
        · have unnamed := Bool.eq_false_iff.mpr compatible
          simp [pre, unnamed, Bool.and_comm]
    · have some := Bool.eq_false_iff.mpr all
      simp [some]

end SemVer
