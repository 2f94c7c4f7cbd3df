import ReviewProtocol.Lib.SemverText

set_option autoImplicit false

/- Versions and their texts are one to one: a text that parses is the one that its version is
written as. And versions are in order, so what is under a ceiling is under every higher one. -/
namespace SemVer

/-! ### A text that parses is what its version is written as -/

theorem digitChar_digit {c : Char} (digit : c.isDigit = true) :
    (c.toNat - 48).digitChar = c ∧ c.toNat - 48 < 10 := by
  have bounds : 48 ≤ c.toNat ∧ c.toNat ≤ 57 := by
    simpa [Char.isDigit, UInt32.le_iff_toNat_le] using digit
  have small : c.toNat - 48 < 10 := by omega
  refine ⟨?_, small⟩
  apply Char.toNat_inj.mp
  rw [Nat.toNat_digitChar_of_lt_ten small]
  omega

/-- The digits read so far, and those to come. -/
theorem toDigits_of_numericFrom {value : Nat} {text rest : List Char} {n : UInt64}
    (small : value < 2 ^ 64) (parsed : numericFrom value true text = some (n, rest)) :
    Nat.toDigits 10 value ++ text = Nat.toDigits 10 n.toNat ++ rest := by
  induction text generalizing value with
  | nil =>
      cases parsed
      rw [UInt64.toNat_ofNat_of_lt' small]
  | cons c text ih =>
      unfold numericFrom at parsed
      by_cases digit : c.isDigit = true
      · obtain ⟨same, single⟩ := digitChar_digit digit
        rw [if_pos digit] at parsed
        by_cases zero : value = 0
        · rw [if_pos ⟨zero, rfl⟩] at parsed
          cases parsed
        · rw [if_neg (by simp [zero])] at parsed
          by_cases fits : value * 10 + (c.toNat - 48) < 2 ^ 64
          · rw [if_pos fits] at parsed
            have last : (value * 10 + (c.toNat - 48)) % 10 = c.toNat - 48 := by omega
            have front : (value * 10 + (c.toNat - 48)) / 10 = value := by omega
            have grown : Nat.toDigits 10 (value * 10 + (c.toNat - 48)) =
                Nat.toDigits 10 value ++ [c] := by
              rw [Nat.toDigits_of_base_le (by omega) (by omega), last, front, same]
            rw [← ih fits parsed, grown, List.append_assoc, List.singleton_append]
          · rw [if_neg fits] at parsed
            cases parsed
      · rw [if_neg digit, if_pos rfl] at parsed
        cases parsed
        rw [UInt64.toNat_ofNat_of_lt' small]

theorem decimal_of_numericIdentifier {text rest : List Char} {n : UInt64}
    (parsed : numericIdentifier text = some (n, rest)) : text = decimal n ++ rest := by
  unfold numericIdentifier at parsed
  cases text with
  | nil => cases parsed
  | cons c text =>
      unfold numericFrom at parsed
      by_cases digit : c.isDigit = true
      · obtain ⟨same, single⟩ := digitChar_digit digit
        rw [if_pos digit, if_neg (by simp), Nat.zero_mul, Nat.zero_add] at parsed
        rw [if_pos (by omega)] at parsed
        have read := toDigits_of_numericFrom (by omega) parsed
        rw [Nat.toDigits_of_lt_base single, same] at read
        exact read
      · rw [if_neg digit] at parsed
        cases parsed

/-- The identifiers so far, with the dots after them, and the characters of the next one. -/
def beginning (ids : List (List Char)) (segment : List Char) : List Char :=
  ids.flatMap (· ++ ['.']) ++ segment

theorem beginning_concat (ids : List (List Char)) (segment : List Char) :
    beginning ids segment = ['.'].intercalate (ids ++ [segment]) := by
  induction ids with
  | nil => simp [beginning]
  | cons id ids ih =>
      have more : ids ++ [segment] ≠ [] := by simp
      obtain ⟨first, others, shape⟩ := List.exists_cons_of_ne_nil more
      rw [List.cons_append, shape, List.intercalate_cons_cons, ← shape, ← ih]
      simp [beginning]

theorem intercalate_of_identifierFrom {canonical : Bool} {ids result : List (List Char)}
    {segment text rest : List Char}
    (parsed : identifierFrom canonical ids segment text = some (result, rest))
    (some : result ≠ []) :
    beginning ids segment ++ text = ['.'].intercalate result ++ rest := by
  induction text generalizing ids segment with
  | nil =>
      rw [identifierFrom] at parsed
      split at parsed
      · split at parsed
        · cases parsed
          exact absurd rfl some
        · cases parsed
      · split at parsed
        · cases parsed
        · cases parsed
          rw [beginning_concat]
  | cons c text ih =>
      rw [identifierFrom] at parsed
      split at parsed
      · rw [← ih parsed]
        simp [beginning]
      · split at parsed
        · split at parsed
          · cases parsed
            exact absurd rfl some
          · cases parsed
        · split at parsed
          · cases parsed
          · split at parsed
            · rename_i dotted
              rw [← ih parsed, dotted]
              simp [beginning]
            · cases parsed
              rw [beginning_concat]

theorem display_of_prereleaseIdentifier {text rest : List Char} {pre : Prerelease}
    (parsed : prereleaseIdentifier text = some (pre, rest)) (some : pre ≠ .empty) :
    text = pre.display ++ rest := by
  unfold prereleaseIdentifier at parsed
  split at parsed
  · rename_i ids rest' read
    cases parsed
    apply intercalate_of_identifierFrom read
    intro none
    apply some
    simp [Prerelease.empty, none]
  · cases parsed

theorem display_of_buildIdentifier {text rest : List Char} {build : BuildMetadata}
    (parsed : buildIdentifier text = some (build, rest)) (some : build ≠ .empty) :
    text = build.display ++ rest := by
  unfold buildIdentifier at parsed
  split at parsed
  · rename_i ids rest' read
    cases parsed
    apply intercalate_of_identifierFrom read
    intro none
    apply some
    simp [BuildMetadata.empty, none]
  · cases parsed

theorem suffix_of_optionalPre {text rest : List Char} {pre : Prerelease}
    (parsed : optionalPre text = some (pre, rest)) : text = pre.suffix ++ rest := by
  unfold optionalPre at parsed
  split at parsed
  · split at parsed
    · rename_i pre' rest' read
      split at parsed
      · cases parsed
      · rename_i some
        cases parsed
        rw [Prerelease.suffix, if_neg some, display_of_prereleaseIdentifier read some,
          List.cons_append]
    · cases parsed
  · cases parsed
    simp [Prerelease.suffix]

theorem suffix_of_optionalBuild {text rest : List Char} {build : BuildMetadata}
    (parsed : optionalBuild text = some (build, rest)) : text = build.suffix ++ rest := by
  unfold optionalBuild at parsed
  split at parsed
  · split at parsed
    · rename_i build' rest' read
      split at parsed
      · cases parsed
      · rename_i some
        cases parsed
        rw [BuildMetadata.suffix, if_neg some, display_of_buildIdentifier read some,
          List.cons_append]
    · cases parsed
  · cases parsed
    simp [BuildMetadata.suffix]

theorem dot_eq_some {text rest : List Char} (parsed : dot text = some rest) :
    text = '.' :: rest := by
  unfold dot at parsed
  split at parsed
  · cases parsed
    rfl
  · cases parsed

/-- A version has one text only. -/
theorem Version.parse_eq_some_iff (text : List Char) (ver : Version) :
    Version.parse text = some ver ↔ text = ver.display := by
  constructor
  · intro parsed
    unfold Version.parse at parsed
    simp only [Option.bind_eq_bind, Option.bind_eq_some_iff, Prod.exists] at parsed
    obtain ⟨major, text₁, readMajor, text₂, dotted, minor, text₃, readMinor, text₄, dotted', patch,
      text₅, readPatch, pre, text₆, readPre, build, text₇, readBuild, ends⟩ := parsed
    split at ends
    · rename_i done
      cases ends
      rw [decimal_of_numericIdentifier readMajor, dot_eq_some dotted,
        decimal_of_numericIdentifier readMinor, dot_eq_some dotted',
        decimal_of_numericIdentifier readPatch, suffix_of_optionalPre readPre,
        suffix_of_optionalBuild readBuild, done]
      simp only [Version.display, List.append_assoc, List.cons_append, List.append_nil]
    · cases ends
  · rintro rfl
    exact ver.parse_display

/-! ### Versions are in order -/

/-- By kind, and then numbers by their lengths. -/
theorem compareIdentifier_eq : compareIdentifier =
    compareLex (compareOn fun id => !isNumeric id)
      (compareLex (compareOn fun id => if isNumeric id then id.length else 0) compare) := by
  funext first second
  unfold compareIdentifier compareLex compareOn
  cases kind : isNumeric first <;> cases kind' : isNumeric second <;> simp [kind, kind'] <;> rfl

instance : Std.TransCmp compareIdentifier := by
  rw [compareIdentifier_eq]
  infer_instance

/-- By kind, then numbers by their digits without leading zeros, then by those zeros. -/
theorem compareBuildIdentifier_eq : compareBuildIdentifier =
    compareLex (compareOn fun id => !isNumeric id)
      (compareLex
        (compareOn fun id => if isNumeric id then (id.dropWhile (· == '0')).length else 0)
        (compareLex (compareOn fun id => if isNumeric id then id.dropWhile (· == '0') else id)
          (compareOn fun id => if isNumeric id then id.length else 0))) := by
  funext first second
  unfold compareBuildIdentifier compareLex compareOn
  cases kind : isNumeric first <;> cases kind' : isNumeric second <;> simp [kind, kind'] <;> rfl

instance : Std.TransCmp compareBuildIdentifier := by
  rw [compareBuildIdentifier_eq]
  infer_instance

section project

variable {α β : Type} (cmp : β → β → Ordering) [Std.TransCmp cmp] (project : α → β)

/-- Things are in order if what is compared of them is. -/
theorem transCmp_project : Std.TransCmp fun first second => cmp (project first) (project second) where
  eq_swap := Std.OrientedCmp.eq_swap
  isLE_trans := Std.TransCmp.isLE_trans

end project

theorem comparePre_eq : comparePre =
    compareLex (compareOn fun pre => pre.ids.isEmpty)
      (fun first second => first.ids.compareLex compareIdentifier second.ids) := by
  funext first second
  obtain ⟨ids, identifiers, unpadded⟩ := first
  obtain ⟨ids', identifiers', unpadded'⟩ := second
  cases ids <;> cases ids' <;> rfl

instance : Std.TransCmp comparePre := by
  rw [comparePre_eq]
  have := transCmp_project (List.compareLex compareIdentifier) Prerelease.ids
  infer_instance

theorem comparePrecedence_eq : comparePrecedence =
    compareLex (compareOn Version.major) (compareLex (compareOn Version.minor)
      (compareLex (compareOn Version.patch)
        fun first second => comparePre first.pre second.pre)) :=
  rfl

instance : Std.TransCmp comparePrecedence := by
  rw [comparePrecedence_eq]
  have := transCmp_project comparePre Version.pre
  infer_instance

theorem compareVersion_eq : compareVersion =
    compareLex comparePrecedence
      (fun first second => first.build.ids.compareLex compareBuildIdentifier second.build.ids) :=
  rfl

instance : Std.TransCmp compareVersion := by
  rw [compareVersion_eq]
  have := transCmp_project (List.compareLex compareBuildIdentifier)
    fun ver : Version => ver.build.ids
  infer_instance

theorem Version.le_trans {first second third : Version} (low : first.le second = true)
    (high : second.le third = true) : first.le third = true := by
  show (compareVersion first third).isLE = true
  exact Std.TransCmp.isLE_trans low high

/-- The order of versions refines their precedence. -/
theorem Version.precedence_of_le {first second : Version} (low : first.le second = true) :
    (comparePrecedence first second).isLE = true := by
  unfold Version.le compareVersion at low
  cases order : comparePrecedence first second with
  | lt => rfl
  | eq => rfl
  | gt =>
      rw [order] at low
      cases low

/-! ### A requirement that is a floor -/

theorem floor_nested (lowest : Version) (absent : some lowest.minor = none) :
    some lowest.patch = none :=
  absurd absent (Option.some_ne_none lowest.minor)

theorem floor_whole (lowest : Version) (absent : some lowest.patch = none) :
    lowest.pre = .empty :=
  absurd absent (Option.some_ne_none lowest.patch)

theorem floor_wild (lowest : Version) (wildcard : Op.greaterEq = .wildcard) :
    some lowest.patch = none :=
  Op.noConfusion wildcard

/-- What `>=` and a version stand for. The build metadata is dropped. -/
def floor (lowest : Version) : Comparator where
  op := .greaterEq
  major := lowest.major
  minor := some lowest.minor
  patch := some lowest.patch
  pre := lowest.pre
  nested := floor_nested lowest
  whole := floor_whole lowest
  wild := floor_wild lowest

/-- A floor is what the precedence says. -/
theorem floor_matchesImpl (lowest ver : Version) :
    (floor lowest).matchesImpl ver = (comparePrecedence lowest ver).isLE := by
  simp only [Comparator.matchesImpl, floor, Comparator.matchesExact, Comparator.matchesGreater,
    comparePrecedence, Option.any_some]
  by_cases major : ver.major = lowest.major
  · by_cases minor : ver.minor = lowest.minor
    · by_cases patch : ver.patch = lowest.patch
      · have swapped : comparePre ver.pre lowest.pre = (comparePre lowest.pre ver.pre).swap :=
          Std.OrientedCmp.eq_swap
        simp only [major, minor, patch, Std.ReflOrd.compare_self, Ordering.then, swapped]
        cases pre : comparePre lowest.pre ver.pre with
        | lt => simp
        | eq => simp [(comparePre_eq_iff _ _).mp pre]
        | gt =>
            have apart : ver.pre ≠ lowest.pre := by
              intro same
              rw [(comparePre_eq_iff _ _).mpr same.symm] at pre
              cases pre
            simp [apart]
      · simp [major, minor, patch, Ne.symm patch, Std.ReflOrd.compare_self,
          isLE_then_of_ne (Ne.symm patch)]
    · simp [major, minor, Ne.symm minor, Std.ReflOrd.compare_self,
        isLE_then_of_ne (Ne.symm minor)]
  · simp [major, isLE_then_of_ne (Ne.symm major)]

/-- The requirement that is a floor and nothing else. -/
def VersionReq.atLeast (lowest : Version) : VersionReq := ⟨[floor lowest]⟩

/-- A floor that is a release lets no pre-release in, however high. -/
theorem VersionReq.atLeast_matchesReq {lowest : Version} (release : lowest.pre = .empty)
    (ver : Version) :
    (VersionReq.atLeast lowest).matchesReq ver = true ↔
      ver.pre = .empty ∧ (comparePrecedence lowest ver).isLE = true := by
  have unnamed : (floor lowest).preIsCompatible ver = false := by
    simp [Comparator.preIsCompatible, floor, release]
  simp only [VersionReq.matchesReq, VersionReq.atLeast, List.all_cons, List.all_nil, List.any_cons,
    List.any_nil, floor_matchesImpl, unnamed, Bool.and_true, Bool.or_false, Bool.and_eq_true,
    decide_eq_true_eq]
  exact And.comm

/-- A release that a floor lets in is let in by every lower floor, also by a pre-release. -/
theorem VersionReq.atLeast_mono {lowest lowest' ver : Version} (release : ver.pre = .empty)
    (lower : lowest'.le lowest = true) (above : (comparePrecedence lowest ver).isLE = true) :
    (VersionReq.atLeast lowest').matchesReq ver = true := by
  simp only [VersionReq.matchesReq, VersionReq.atLeast, List.all_cons, List.all_nil,
    floor_matchesImpl, Bool.and_true, release, decide_true, Bool.true_or]
  exact Std.TransCmp.isLE_trans (Version.precedence_of_le lower) above

/-- Between a plain release and itself there is nothing else. -/
theorem Version.eq_of_between {ver other : Version} (plain : ver.build = .empty)
    (above : (comparePrecedence ver other).isLE = true) (below : other.le ver = true) :
    other = ver := by
  have level : comparePrecedence other ver = .eq :=
    Std.OrientedCmp.isLE_antisymm (Version.precedence_of_le below) above
  obtain ⟨major, minor, patch, pre⟩ := (comparePrecedence_eq_iff other ver).mp level
  have built : other.build = .empty := by
    unfold Version.le compareVersion compareBuild at below
    rw [level, plain] at below
    cases ids : other.build.ids with
    | nil => exact BuildMetadata.ext ids
    | cons id ids' =>
        rw [ids] at below
        cases below
  cases ver
  cases other
  simp_all

/-- The floor, written with its build metadata. -/
theorem Comparator.parse_floor (lowest : Version) :
    Comparator.parse ('>' :: '=' :: lowest.display) = some (floor lowest, []) := by
  let tail := '.' :: (decimal lowest.minor ++ ('.' :: (decimal lowest.patch ++
    (lowest.pre.suffix ++ (lowest.build.suffix ++ [])))))
  have text : lowest.display = decimal lowest.major ++ tail := by
    simp only [Version.display, tail, List.append_assoc, List.cons_append, List.append_nil]
  have read := parseOp_display Op.greaterEq (by decide) lowest.major tail
  have number : numericIdentifier (trimStart (decimal lowest.major ++ tail)) =
      some (lowest.major, tail) := by
    rw [trimStart_decimal]
    exact numericIdentifier_decimal lowest.major (dotted_stops _)
  rw [text]
  show Comparator.parse (Op.greaterEq.display ++ (decimal lowest.major ++ tail)) = _
  rw [parse_eq (some .greaterEq) (by decide) read number, afterMajor_minor _ _ _ _ (dotted_stops _),
    afterMinor_patch _ _ _ _ _ _ _ .text]
  rfl

theorem VersionReq.parse_atLeast (lowest : Version) :
    VersionReq.parse ('>' :: '=' :: lowest.display) = some (VersionReq.atLeast lowest) := by
  unfold VersionReq.parse
  show (parseComparators maxComparators ('>' :: '=' :: lowest.display)).map VersionReq.mk = _
  rw [maxComparators, parseComparators, Comparator.parse_floor]
  rfl

end SemVer
