import ReviewProtocol.Lib.Semver

set_option autoImplicit false

/- The texts of versions and requirements: how the `semver` crate parses them and how it
writes them, and that it reads what it wrote. -/
namespace SemVer

/-! ### Parsing -/

def trimStart (text : List Char) : List Char := text.dropWhile (· == ' ')

/-- The digits so far, and whether there were any. -/
def numericFrom : Nat → Bool → List Char → Option (UInt64 × List Char)
  | value, seen, [] => if seen then some (UInt64.ofNat value, []) else none
  | value, seen, c :: rest =>
      if c.isDigit then
        -- a leading zero, and a number of more than 64 bits
        if value = 0 ∧ seen then none
        else if value * 10 + (c.toNat - 48) < 2 ^ 64 then
          numericFrom (value * 10 + (c.toNat - 48)) true rest
        else none
      else if seen then some (UInt64.ofNat value, c :: rest) else none

def numericIdentifier (text : List Char) : Option (UInt64 × List Char) := numericFrom 0 false text

/-- The identifiers before this one, and the characters of this one so far. -/
def identifierFrom (canonical : Bool) :
    List (List Char) → List Char → List Char → Option (List (List Char) × List Char)
  | ids, segment, [] =>
      if segment = [] then if ids = [] then some ([], []) else none
      else if canonical && leadingZero segment then none
      else some (ids ++ [segment], [])
  | ids, segment, c :: rest =>
      if isIdentifierChar c then identifierFrom canonical ids (segment ++ [c]) rest
      else if segment = [] then if ids = [] ∧ c ≠ '.' then some ([], c :: rest) else none
      else if canonical && leadingZero segment then none
      else if c = '.' then identifierFrom canonical (ids ++ [segment]) [] rest
      else some (ids ++ [segment], c :: rest)

/-- What the parser has accepted as the identifiers of one part. -/
def Accepted (canonical : Bool) (ids : List (List Char)) : Prop :=
  ∀ id ∈ ids, IsIdentifier id ∧ (canonical = true → leadingZero id = false)

theorem Accepted.append {canonical : Bool} {ids : List (List Char)} {segment : List Char}
    (before : Accepted canonical ids) (chars : ∀ c ∈ segment, isIdentifierChar c = true)
    (some : segment ≠ []) (unpadded : ¬ (canonical && leadingZero segment) = true) :
    Accepted canonical (ids ++ [segment]) := by
  intro id mem
  rcases List.mem_append.mp mem with mem | mem
  · exact before id mem
  · rw [List.mem_singleton.mp mem]
    refine ⟨⟨some, chars⟩, fun strict => ?_⟩
    rw [strict, Bool.true_and] at unpadded
    exact Bool.eq_false_iff.mpr unpadded

theorem Accepted.nil (canonical : Bool) : Accepted canonical [] :=
  fun _ mem => (List.not_mem_nil mem).elim

theorem identifierFrom_accepted {canonical : Bool} {ids result : List (List Char)}
    {segment text rest : List Char}
    (parsed : identifierFrom canonical ids segment text = some (result, rest))
    (before : Accepted canonical ids) (chars : ∀ c ∈ segment, isIdentifierChar c = true) :
    Accepted canonical result := by
  induction text generalizing ids segment with
  | nil =>
      rw [identifierFrom] at parsed
      split at parsed
      · split at parsed
        · cases parsed
          exact .nil canonical
        · cases parsed
      · rename_i some
        split at parsed
        · cases parsed
        · rename_i unpadded
          cases parsed
          exact before.append chars some unpadded
  | cons c text ih =>
      rw [identifierFrom] at parsed
      split at parsed
      · rename_i char
        apply ih parsed before
        intro c' mem
        rcases List.mem_append.mp mem with mem | mem
        · exact chars c' mem
        · rw [List.mem_singleton.mp mem]
          exact char
      · split at parsed
        · split at parsed
          · cases parsed
            exact .nil canonical
          · cases parsed
        · rename_i some
          split at parsed
          · cases parsed
          · rename_i unpadded
            split at parsed
            · apply ih parsed (before.append chars some unpadded)
              exact fun c mem => (List.not_mem_nil mem).elim
            · cases parsed
              exact before.append chars some unpadded

theorem identifiers_accepted {canonical : Bool} {result : List (List Char)}
    {text rest : List Char}
    (parsed : identifierFrom canonical [] [] text = some (result, rest)) :
    Accepted canonical result :=
  identifierFrom_accepted parsed (.nil canonical) (fun _ mem => (List.not_mem_nil mem).elim)

def prereleaseIdentifier (text : List Char) : Option (Prerelease × List Char) :=
  match parsed : identifierFrom true [] [] text with
  | some (ids, rest) =>
      some (⟨ids, fun id mem => (identifiers_accepted parsed id mem).1,
        fun id mem => (identifiers_accepted parsed id mem).2 rfl⟩, rest)
  | none => none

def buildIdentifier (text : List Char) : Option (BuildMetadata × List Char) :=
  match parsed : identifierFrom false [] [] text with
  | some (ids, rest) => some (⟨ids, fun id mem => (identifiers_accepted parsed id mem).1⟩, rest)
  | none => none

/-- The pre-release after a dash, if there is one. -/
def optionalPre : List Char → Option (Prerelease × List Char)
  | '-' :: text =>
      match prereleaseIdentifier text with
      | some (pre, rest) => if pre = .empty then none else some (pre, rest)
      | none => none
  | text => some (.empty, text)

/-- The build metadata after a plus sign, if there is any. -/
def optionalBuild : List Char → Option (BuildMetadata × List Char)
  | '+' :: text =>
      match buildIdentifier text with
      | some (build, rest) => if build = .empty then none else some (build, rest)
      | none => none
  | text => some (.empty, text)

def dot : List Char → Option (List Char)
  | '.' :: text => some text
  | _ => none

def Version.parse (text : List Char) : Option Version := do
  let (major, text) ← numericIdentifier text
  let text ← dot text
  let (minor, text) ← numericIdentifier text
  let text ← dot text
  let (patch, text) ← numericIdentifier text
  let (pre, text) ← optionalPre text
  let (build, text) ← optionalBuild text
  if text = [] then some ⟨major, minor, patch, pre, build⟩ else none

def wildcard : List Char → Option (List Char)
  | '*' :: text => some text
  | 'x' :: text => some text
  | 'X' :: text => some text
  | _ => none

/-- The operator, if one is written. -/
def parseOp : List Char → Option Op × List Char
  | '=' :: text => (some .exact, text)
  | '>' :: '=' :: text => (some .greaterEq, text)
  | '>' :: text => (some .greater, text)
  | '<' :: '=' :: text => (some .lessEq, text)
  | '<' :: text => (some .less, text)
  | '~' :: text => (some .tilde, text)
  | '^' :: text => (some .caret, text)
  | text => (none, text)

theorem parseOp_ne_wildcard (text : List Char) : (parseOp text).1.getD .caret ≠ .wildcard := by
  unfold parseOp
  split <;> nofun

namespace Comparator

def ofMajor (op : Op) (major : UInt64) : Comparator :=
  ⟨op, major, none, none, .empty, fun _ => rfl, fun _ => rfl, fun _ => rfl⟩

def ofMinor (op : Op) (major minor : UInt64) : Comparator :=
  ⟨op, major, some minor, none, .empty, nofun, fun _ => rfl, fun _ => rfl⟩

def ofPatch (op : Op) (written : op ≠ .wildcard) (major minor patch : UInt64) (pre : Prerelease) :
    Comparator :=
  ⟨op, major, some minor, some patch, pre, nofun, nofun, fun same => absurd same written⟩

section parsing

variable (op : Option Op) (written : op.getD .caret ≠ .wildcard) (major minor : UInt64)

def parsePatch (text : List Char) : Option (Comparator × List Char) := do
  let (patch, text) ← numericIdentifier text
  let (pre, text) ← optionalPre text
  let (_, text) ← optionalBuild text
  some (ofPatch (op.getD .caret) written major minor patch pre, trimStart text)

/-- After the minor version. A wildcard is the operator if no other is written. -/
def afterMinor : List Char → Option (Comparator × List Char)
  | '.' :: text =>
      match wildcard text with
      | some text => some (ofMinor (op.getD .wildcard) major minor, trimStart text)
      | none => parsePatch op written major minor text
  | text => some (ofMinor (op.getD .caret) major minor, trimStart text)

/-- After the major version. Only a wildcard may follow a wildcard. -/
def afterMajor : List Char → Option (Comparator × List Char)
  | '.' :: text =>
      match wildcard text with
      | some ('.' :: text) => do
          let text ← wildcard text
          some (ofMajor (op.getD .wildcard) major, trimStart text)
      | some text => some (ofMajor (op.getD .wildcard) major, trimStart text)
      | none => do
          let (minor, text) ← numericIdentifier text
          afterMinor op written major minor text
  | text => some (ofMajor (op.getD .caret) major, trimStart text)

end parsing

/-- A comparator and what follows it. -/
def parse (text : List Char) : Option (Comparator × List Char) := do
  let (major, rest) ← numericIdentifier (trimStart (parseOp text).2)
  afterMajor (parseOp text).1 (parseOp_ne_wildcard text) major rest

end Comparator

/-- As many comparators as there may still be, between commas. -/
def parseComparators : Nat → List Char → Option (List Comparator)
  | 0, _ => none
  | room + 1, text =>
      match Comparator.parse text with
      | some (cmp, []) => some [cmp]
      | some (cmp, ',' :: rest) => (parseComparators room (trimStart rest)).map (cmp :: ·)
      | _ => none

def maxComparators : Nat := 32

def VersionReq.parse (text : List Char) : Option VersionReq :=
  match wildcard (trimStart text) with
  | some rest => if trimStart rest = [] then some ⟨[]⟩ else none
  | none => (parseComparators maxComparators (trimStart text)).map VersionReq.mk

/-! ### Writing -/

def decimal (n : UInt64) : List Char := Nat.toDigits 10 n.toNat

def Prerelease.display (pre : Prerelease) : List Char := ['.'].intercalate pre.ids

def BuildMetadata.display (build : BuildMetadata) : List Char := ['.'].intercalate build.ids

def Prerelease.suffix (pre : Prerelease) : List Char :=
  if pre = .empty then [] else '-' :: pre.display

def BuildMetadata.suffix (build : BuildMetadata) : List Char :=
  if build = .empty then [] else '+' :: build.display

def Version.display (ver : Version) : List Char :=
  decimal ver.major ++ '.' :: decimal ver.minor ++ '.' :: decimal ver.patch ++
    ver.pre.suffix ++ ver.build.suffix

def Op.display : Op → List Char
  | .exact => ['=']
  | .greater => ['>']
  | .greaterEq => ['>', '=']
  | .less => ['<']
  | .lessEq => ['<', '=']
  | .tilde => ['~']
  | .caret => ['^']
  | .wildcard => []

/-- What a comparator writes after its major version. -/
def Comparator.minorText (cmp : Comparator) : List Char :=
  match cmp.minor with
  | some minor => '.' :: (decimal minor ++
      match cmp.patch with
      | some patch => '.' :: (decimal patch ++ cmp.pre.suffix)
      | none => if cmp.op = .wildcard then ['.', '*'] else [])
  | none => if cmp.op = .wildcard then ['.', '*'] else []

def Comparator.display (cmp : Comparator) : List Char :=
  cmp.op.display ++ (decimal cmp.major ++ cmp.minorText)

def VersionReq.display (req : VersionReq) : List Char :=
  if req.comparators = [] then ['*']
  else [',', ' '].intercalate (req.comparators.map Comparator.display)

/-! ### What is written is read -/

/-- The text does not go on with such a character. -/
def Stops (kind : Char → Bool) (rest : List Char) : Prop := ∀ c ∈ rest.head?, kind c = false

theorem numericFrom_toDigits (n : Nat) (small : n < 2 ^ 64) (rest : List Char) :
    numericFrom 0 false (Nat.toDigits 10 n ++ rest) = numericFrom n true rest := by
  induction n using Nat.strongRecOn generalizing rest with
  | ind n ih =>
      by_cases one : n < 10
      · have digit : n.digitChar.isDigit = true := by
          rw [Nat.isDigit_digitChar]
          exact decide_eq_true one
        rw [Nat.toDigits_of_lt_base one, List.singleton_append, numericFrom, if_pos digit,
          if_neg (by simp), Nat.toNat_digitChar_sub_48_of_lt_ten one, Nat.zero_mul, Nat.zero_add,
          if_pos small]
      · have last : n % 10 < 10 := Nat.mod_lt n (by omega)
        have digit : (n % 10).digitChar.isDigit = true := by
          rw [Nat.isDigit_digitChar]
          exact decide_eq_true last
        have value : n / 10 * 10 + n % 10 = n := by omega
        rw [Nat.toDigits_of_base_le (by omega) (by omega), List.append_assoc,
          List.singleton_append, ih (n / 10) (by omega) (by omega), numericFrom, if_pos digit,
          if_neg (by omega), Nat.toNat_digitChar_sub_48_of_lt_ten last, value, if_pos small]

theorem numericIdentifier_decimal (n : UInt64) {rest : List Char}
    (stops : Stops Char.isDigit rest) :
    numericIdentifier (decimal n ++ rest) = some (n, rest) := by
  rw [numericIdentifier, decimal, numericFrom_toDigits n.toNat n.toNat_lt rest]
  cases rest with
  | nil => simp [numericFrom]
  | cons c rest =>
      have other : c.isDigit = false := stops c rfl
      simp [numericFrom, other]

theorem identifierFrom_chars {canonical : Bool} {chars : List Char}
    (identifier : ∀ c ∈ chars, isIdentifierChar c = true) (ids : List (List Char))
    (segment rest : List Char) :
    identifierFrom canonical ids segment (chars ++ rest) =
      identifierFrom canonical ids (segment ++ chars) rest := by
  induction chars generalizing segment with
  | nil => rw [List.nil_append, List.append_nil]
  | cons c chars ih =>
      have char : isIdentifierChar c = true := identifier c List.mem_cons_self
      rw [List.cons_append, identifierFrom, if_pos char,
        ih (fun c mem => identifier c (List.mem_cons_of_mem _ mem)), List.append_assoc,
        List.singleton_append]

/-- A character that goes on with identifiers. -/
def continues (c : Char) : Bool := isIdentifierChar c || c == '.'

theorem identifierFrom_intercalate {canonical : Bool} {ids : List (List Char)} (some : ids ≠ [])
    (accepted : Accepted canonical ids) {rest : List Char} (stops : Stops continues rest)
    (before : List (List Char)) :
    identifierFrom canonical before [] (['.'].intercalate ids ++ rest) =
      .some (before ++ ids, rest) := by
  induction ids generalizing before with
  | nil => exact absurd rfl some
  | cons id ids ih =>
      obtain ⟨⟨nonempty, chars⟩, unpadded⟩ := accepted id List.mem_cons_self
      have fine : ¬ (canonical && leadingZero id) = true := by
        cases canonical with
        | false => nofun
        | true => simp [unpadded rfl]
      cases ids with
      | nil =>
          rw [List.intercalate_singleton, identifierFrom_chars chars, List.nil_append]
          cases rest with
          | nil => rw [identifierFrom, if_neg nonempty, if_neg fine]
          | cons c rest =>
              have boundary : continues c = false := stops c rfl
              simp only [continues, Bool.or_eq_false_iff, beq_eq_false_iff_ne] at boundary
              rw [identifierFrom, if_neg (by simp [boundary.1]), if_neg nonempty, if_neg fine,
                if_neg boundary.2]
      | cons id' ids =>
          have later := ih nofun (fun id mem => accepted id (List.mem_cons_of_mem _ mem))
            (before ++ [id])
          rw [List.intercalate_cons_cons, List.append_assoc, List.append_assoc,
            identifierFrom_chars chars, List.nil_append, List.singleton_append, identifierFrom,
            if_neg (by decide), if_neg nonempty, if_neg fine, if_pos rfl, later,
            List.append_assoc, List.singleton_append]

theorem prereleaseIdentifier_display {pre : Prerelease} (some : pre ≠ .empty) {rest : List Char}
    (stops : Stops continues rest) :
    prereleaseIdentifier (pre.display ++ rest) = .some (pre, rest) := by
  have nonempty : pre.ids ≠ [] := fun none => some (Prerelease.ext none)
  have accepted : Accepted true pre.ids :=
    fun id mem => ⟨pre.identifiers id mem, fun _ => pre.canonical id mem⟩
  have read := identifierFrom_intercalate nonempty accepted stops []
  unfold prereleaseIdentifier Prerelease.display
  split
  · rename_i ids rest' parsed
    rw [read] at parsed
    cases parsed
    rfl
  · rename_i failed
    rw [read] at failed
    cases failed

theorem buildIdentifier_display {build : BuildMetadata} (some : build ≠ .empty)
    {rest : List Char} (stops : Stops continues rest) :
    buildIdentifier (build.display ++ rest) = .some (build, rest) := by
  have nonempty : build.ids ≠ [] := fun none => some (BuildMetadata.ext none)
  have accepted : Accepted false build.ids :=
    fun id mem => ⟨build.identifiers id mem, nofun⟩
  have read := identifierFrom_intercalate nonempty accepted stops []
  unfold buildIdentifier BuildMetadata.display
  split
  · rename_i ids rest' parsed
    rw [read] at parsed
    cases parsed
    rfl
  · rename_i failed
    rw [read] at failed
    cases failed

theorem optionalPre_suffix (pre : Prerelease) {rest : List Char} (stops : Stops continues rest) :
    optionalPre (pre.suffix ++ rest) = some (pre, rest) := by
  unfold Prerelease.suffix
  by_cases release : pre = .empty
  · rw [if_pos release, List.nil_append, release]
    unfold optionalPre
    split
    · exact absurd (stops '-' rfl) (by decide)
    · rfl
  · rw [if_neg release, List.cons_append]
    simp only [optionalPre, prereleaseIdentifier_display release stops, if_neg release]

theorem optionalBuild_suffix (build : BuildMetadata) {rest : List Char}
    (stops : Stops continues rest) (ends : Stops (· == '+') rest) :
    optionalBuild (build.suffix ++ rest) = some (build, rest) := by
  unfold BuildMetadata.suffix
  by_cases none : build = .empty
  · rw [if_pos none, List.nil_append, none]
    unfold optionalBuild
    split
    · exact absurd (ends '+' rfl) (by decide)
    · rfl
  · rw [if_neg none, List.cons_append]
    simp only [optionalBuild, buildIdentifier_display none stops, if_neg none]

/-- The end of the text, or of a comparator in a list of them. -/
inductive Ends : List Char → Prop where
  | text : Ends []
  | comparator (rest : List Char) : Ends (',' :: rest)

theorem Ends.stops {rest : List Char} (ends : Ends rest) {kind : Char → Bool}
    (comma : kind ',' = false) : Stops kind rest := by
  intro c mem
  cases ends with
  | text => cases mem
  | comparator more =>
      cases mem
      exact comma

theorem Ends.trimStart {rest : List Char} (ends : Ends rest) : trimStart rest = rest := by
  cases ends with
  | text => rfl
  | comparator more => rfl

theorem BuildMetadata.suffix_stops (build : BuildMetadata) {rest : List Char} (ends : Ends rest)
    {kind : Char → Bool} (plus : kind '+' = false) (comma : kind ',' = false) :
    Stops kind (build.suffix ++ rest) := by
  unfold suffix
  by_cases none : build = .empty
  · rw [if_pos none]
    exact ends.stops comma
  · rw [if_neg none]
    intro c mem
    cases mem
    exact plus

theorem Prerelease.suffix_stops (pre : Prerelease) {rest : List Char} {kind : Char → Bool}
    (dash : kind '-' = false) (stops : Stops kind rest) : Stops kind (pre.suffix ++ rest) := by
  unfold suffix
  by_cases release : pre = .empty
  · rw [if_pos release]
    exact stops
  · rw [if_neg release]
    intro c mem
    cases mem
    exact dash

theorem Version.parse_display (ver : Version) : Version.parse ver.display = some ver := by
  have build := optionalBuild_suffix ver.build (Ends.text.stops rfl) (Ends.text.stops rfl)
  have pre := optionalPre_suffix ver.pre (ver.build.suffix_stops .text (by decide) (by decide))
  have patch := numericIdentifier_decimal ver.patch (ver.pre.suffix_stops (by decide)
    (ver.build.suffix_stops .text (by decide) (by decide)))
  have dotted (text : List Char) : Stops Char.isDigit ('.' :: text) := by
    intro c mem
    cases mem
    decide
  rw [List.append_nil] at build pre patch
  unfold Version.parse Version.display
  simp only [List.append_assoc, List.cons_append, numericIdentifier_decimal _ (dotted _), dot,
    patch,
    pre, build, Option.bind_eq_bind, Option.bind_some, if_true]

/-- A number begins with a digit, which is no operator, blank or wildcard. -/
theorem decimal_head (n : UInt64) : ∃ c rest, decimal n = c :: rest ∧ c.isDigit = true := by
  cases digits : decimal n with
  | nil => exact absurd digits Nat.toDigits_ne_nil
  | cons c rest =>
      have mem : c ∈ Nat.toDigits 10 n.toNat := by
        show c ∈ decimal n
        rw [digits]
        exact List.mem_cons_self
      exact ⟨c, rest, rfl, Nat.isDigit_of_mem_toDigits (by omega) (by omega) mem⟩

theorem trimStart_decimal (n : UInt64) (rest : List Char) :
    trimStart (decimal n ++ rest) = decimal n ++ rest := by
  obtain ⟨c, more, digits, digit⟩ := decimal_head n
  have blank : (c == ' ') = false := by
    rw [beq_eq_false_iff_ne]
    rintro rfl
    revert digit
    decide
  rw [digits, List.cons_append, trimStart, List.dropWhile_cons, if_neg (by rw [blank]; nofun)]

theorem wildcard_decimal (n : UInt64) (rest : List Char) :
    wildcard (decimal n ++ rest) = none := by
  obtain ⟨c, more, digits, digit⟩ := decimal_head n
  rw [digits, List.cons_append]
  unfold wildcard
  split <;> simp_all

theorem parseOp_decimal (n : UInt64) (rest : List Char) :
    parseOp (decimal n ++ rest) = (none, decimal n ++ rest) := by
  obtain ⟨c, more, digits, digit⟩ := decimal_head n
  rw [digits, List.cons_append]
  unfold parseOp
  split <;> simp_all

/-- An operator is read as written, unless it is the one that is not. -/
theorem parseOp_display (op : Op) (written : op ≠ .wildcard) (n : UInt64) (rest : List Char) :
    parseOp (op.display ++ (decimal n ++ rest)) = (some op, decimal n ++ rest) := by
  obtain ⟨c, more, digits, digit⟩ := decimal_head n
  have other : c ≠ '=' := by
    rintro rfl
    revert digit
    decide
  rw [digits, List.cons_append]
  cases op with
  | wildcard => exact absurd rfl written
  | greater => simp [Op.display, parseOp, other]
  | less => simp [Op.display, parseOp, other]
  | _ => rfl

namespace Comparator

theorem parse_eq {text body tail : List Char} (op : Option Op) {major : UInt64}
    (written : op.getD .caret ≠ .wildcard) (read : parseOp text = (op, body))
    (number : numericIdentifier (trimStart body) = some (major, tail)) :
    parse text = afterMajor op written major tail := by
  unfold parse
  generalize parseOp_ne_wildcard text = proof
  revert proof
  rw [read]
  intro proof
  rw [number]
  rfl

section parts

variable (op : Option Op) (written : op.getD .caret ≠ .wildcard) (major minor : UInt64)
  {rest : List Char}

theorem afterMajor_ends (ends : Ends rest) :
    afterMajor op written major rest = some (ofMajor (op.getD .caret) major, rest) := by
  cases ends with
  | text => rfl
  | comparator more => rfl

theorem afterMajor_wildcard (ends : Ends rest) :
    afterMajor op written major ('.' :: '*' :: rest) =
      some (ofMajor (op.getD .wildcard) major, rest) := by
  cases ends with
  | text => rfl
  | comparator more => rfl

theorem afterMajor_minor (stops : Stops Char.isDigit rest) :
    afterMajor op written major ('.' :: (decimal minor ++ rest)) =
      afterMinor op written major minor rest := by
  simp only [afterMajor, wildcard_decimal, numericIdentifier_decimal minor stops,
    Option.bind_eq_bind, Option.bind_some]

theorem afterMinor_ends (ends : Ends rest) :
    afterMinor op written major minor rest = some (ofMinor (op.getD .caret) major minor, rest) := by
  cases ends with
  | text => rfl
  | comparator more => rfl

theorem afterMinor_wildcard (ends : Ends rest) :
    afterMinor op written major minor ('.' :: '*' :: rest) =
      some (ofMinor (op.getD .wildcard) major minor, rest) := by
  cases ends with
  | text => rfl
  | comparator more => rfl

/-- Build metadata is read and dropped. -/
theorem afterMinor_patch (patch : UInt64) (pre : Prerelease) (build : BuildMetadata)
    (ends : Ends rest) :
    afterMinor op written major minor
        ('.' :: (decimal patch ++ (pre.suffix ++ (build.suffix ++ rest)))) =
      some (ofPatch (op.getD .caret) written major minor patch pre, rest) := by
  have readBuild := optionalBuild_suffix build (ends.stops rfl) (ends.stops rfl)
  have readPre := optionalPre_suffix pre (build.suffix_stops ends (by decide) (by decide))
  have readPatch := numericIdentifier_decimal patch (pre.suffix_stops (by decide)
    (build.suffix_stops ends (by decide) (by decide)))
  simp only [afterMinor, wildcard_decimal, parsePatch, readPatch, readPre, readBuild,
    Option.bind_eq_bind, Option.bind_some, ends.trimStart]

end parts

theorem dotted_stops (rest : List Char) : Stops Char.isDigit ('.' :: rest) := by
  intro c mem
  cases mem
  decide

theorem minorText_stops (cmp : Comparator) {rest : List Char} (ends : Ends rest) :
    Stops Char.isDigit (cmp.minorText ++ rest) := by
  unfold minorText
  cases cmp.minor with
  | some minor => exact dotted_stops _
  | none =>
      by_cases wild : cmp.op = .wildcard
      · rw [if_pos wild]
        exact dotted_stops _
      · rw [if_neg wild]
        exact ends.stops (by decide)

/-- With an operator that is written. -/
theorem afterMajor_written (cmp : Comparator) (written : cmp.op ≠ .wildcard) {rest : List Char}
    (ends : Ends rest) :
    afterMajor (some cmp.op) written cmp.major (cmp.minorText ++ rest) = some (cmp, rest) := by
  obtain ⟨op, major, minor, patch, pre, nested, whole, wild⟩ := cmp
  unfold minorText
  cases minor with
  | none =>
      obtain rfl := nested rfl
      obtain rfl := whole rfl
      rw [if_neg written, List.nil_append, afterMajor_ends _ _ _ ends]
      rfl
  | some minor =>
      cases patch with
      | none =>
          obtain rfl := whole rfl
          simp only [if_neg written, List.append_nil, List.cons_append]
          rw [afterMajor_minor _ _ _ _ (ends.stops (by decide)), afterMinor_ends _ _ _ _ ends]
          rfl
      | some patch =>
          have plain := afterMinor_patch (some op) written major minor patch pre .empty ends
          have none : BuildMetadata.empty.suffix = [] := if_pos rfl
          rw [none, List.nil_append] at plain
          simp only [List.cons_append, List.append_assoc]
          rw [afterMajor_minor _ _ _ _ (dotted_stops _), plain]
          rfl

/-- With the operator that is not. -/
theorem afterMajor_wild (cmp : Comparator) (wildcard : cmp.op = .wildcard) {rest : List Char}
    (ends : Ends rest) :
    afterMajor none nofun cmp.major (cmp.minorText ++ rest) = some (cmp, rest) := by
  obtain ⟨op, major, minor, patch, pre, nested, whole, wild⟩ := cmp
  obtain rfl : op = .wildcard := wildcard
  obtain rfl := wild rfl
  obtain rfl := whole rfl
  unfold minorText
  cases minor with
  | none =>
      rw [if_pos rfl, List.cons_append, List.singleton_append, afterMajor_wildcard _ _ _ ends]
      rfl
  | some minor =>
      simp only [if_true, List.cons_append, List.append_assoc, List.nil_append]
      rw [afterMajor_minor _ _ _ _ (dotted_stops _), afterMinor_wildcard _ _ _ _ ends]
      rfl

theorem parse_display (cmp : Comparator) {rest : List Char} (ends : Ends rest) :
    parse (cmp.display ++ rest) = some (cmp, rest) := by
  have number : numericIdentifier (trimStart (decimal cmp.major ++ (cmp.minorText ++ rest))) =
      some (cmp.major, cmp.minorText ++ rest) := by
    rw [trimStart_decimal]
    exact numericIdentifier_decimal cmp.major (cmp.minorText_stops ends)
  rw [display, List.append_assoc, List.append_assoc]
  by_cases wildcard : cmp.op = .wildcard
  · have read := parseOp_decimal cmp.major (cmp.minorText ++ rest)
    have unwritten : cmp.op.display = [] := by rw [wildcard]; rfl
    rw [unwritten, List.nil_append, parse_eq none (by decide) read number]
    exact cmp.afterMajor_wild wildcard ends
  · have read := parseOp_display cmp.op wildcard cmp.major (cmp.minorText ++ rest)
    rw [parse_eq (some cmp.op) wildcard read number]
    exact cmp.afterMajor_written wildcard ends

/-- The ceiling, written with its build metadata. -/
theorem parse_ceiling (highest : Version) {rest : List Char} (ends : Ends rest) :
    parse ('<' :: '=' :: (highest.display ++ rest)) = some (ceiling highest, rest) := by
  let tail := '.' :: (decimal highest.minor ++ ('.' :: (decimal highest.patch ++
    (highest.pre.suffix ++ (highest.build.suffix ++ rest)))))
  have text : highest.display ++ rest = decimal highest.major ++ tail := by
    simp only [Version.display, tail, List.append_assoc, List.cons_append]
  have read := parseOp_display Op.lessEq (by decide) highest.major tail
  have number : numericIdentifier (trimStart (decimal highest.major ++ tail)) =
      some (highest.major, tail) := by
    rw [trimStart_decimal]
    exact numericIdentifier_decimal highest.major (dotted_stops _)
  rw [text]
  show parse (Op.lessEq.display ++ (decimal highest.major ++ tail)) = _
  rw [parse_eq (some .lessEq) (by decide) read number, afterMajor_minor _ _ _ _ (dotted_stops _),
    afterMinor_patch _ _ _ _ _ _ _ ends]
  rfl

/-- A comparator begins with neither a blank nor a wildcard. -/
theorem display_head (cmp : Comparator) (rest : List Char) :
    trimStart (cmp.display ++ rest) = cmp.display ++ rest ∧
      wildcard (cmp.display ++ rest) = none := by
  rw [display, List.append_assoc, List.append_assoc]
  cases op : cmp.op with
  | wildcard => exact ⟨trimStart_decimal _ _, wildcard_decimal _ _⟩
  | _ => exact ⟨rfl, rfl⟩

end Comparator

theorem parseComparators_length {room : Nat} {text : List Char} {cmps : List Comparator}
    (parsed : parseComparators room text = some cmps) : cmps.length ≤ room := by
  induction room generalizing text cmps with
  | zero => cases parsed
  | succ room ih =>
      rw [parseComparators] at parsed
      split at parsed
      · cases parsed
        simp
      · obtain ⟨later, read, rfl⟩ := Option.map_eq_some_iff.mp parsed
        have bound := ih read
        simp only [List.length_cons]
        omega
      · cases parsed

/-- A requirement that was read has no more comparators than fit. -/
theorem VersionReq.parse_length {text : List Char} {req : VersionReq}
    (parsed : VersionReq.parse text = some req) : req.comparators.length ≤ maxComparators := by
  unfold VersionReq.parse at parsed
  split at parsed
  · split at parsed
    · cases parsed
      exact Nat.zero_le _
    · cases parsed
  · obtain ⟨cmps, read, rfl⟩ := Option.map_eq_some_iff.mp parsed
    exact parseComparators_length read

theorem intercalate_concat {α : Type} (sep : List α) {texts : List (List α)} (some : texts ≠ [])
    (last : List α) :
    sep.intercalate (texts ++ [last]) = sep.intercalate texts ++ (sep ++ last) := by
  induction texts with
  | nil => exact absurd rfl some
  | cons text texts ih =>
      cases texts with
      | nil =>
          rw [List.singleton_append, List.intercalate_cons_cons, List.intercalate_singleton,
            List.intercalate_singleton, List.append_assoc]
      | cons text' texts =>
          have tail := ih nofun
          rw [List.cons_append, List.cons_append, List.intercalate_cons_cons, ← List.cons_append,
            tail, List.intercalate_cons_cons]
          simp only [List.append_assoc]

/-- The comparators' texts and the ceiling's. -/
def rangeTexts (cmps : List Comparator) (highest : Version) : List (List Char) :=
  cmps.map Comparator.display ++ ['<' :: '=' :: highest.display]

theorem intercalate_rangeTexts_cons (cmp : Comparator) (cmps : List Comparator)
    (highest : Version) :
    [',', ' '].intercalate (rangeTexts (cmp :: cmps) highest) =
      cmp.display ++ (',' :: ' ' :: [',', ' '].intercalate (rangeTexts cmps highest)) := by
  cases later : rangeTexts cmps highest with
  | nil => simp [rangeTexts] at later
  | cons text texts =>
      have whole : rangeTexts (cmp :: cmps) highest = cmp.display :: text :: texts := by
        rw [← later]
        rfl
      rw [whole, List.intercalate_cons_cons, List.append_assoc]
      rfl

theorem trimStart_rangeTexts (cmps : List Comparator) (highest : Version) :
    trimStart ([',', ' '].intercalate (rangeTexts cmps highest)) =
      [',', ' '].intercalate (rangeTexts cmps highest) := by
  cases cmps with
  | nil => rfl
  | cons cmp cmps =>
      rw [intercalate_rangeTexts_cons]
      exact (cmp.display_head _).1

theorem parseComparators_rangeTexts (cmps : List Comparator) (highest : Version) (room : Nat) :
    parseComparators room ([',', ' '].intercalate (rangeTexts cmps highest)) =
      if cmps.length < room then some (cmps ++ [ceiling highest]) else none := by
  induction cmps generalizing room with
  | nil =>
      cases room with
      | zero => rfl
      | succ room =>
          have read := Comparator.parse_ceiling highest .text
          rw [List.append_nil] at read
          have text : rangeTexts [] highest = ['<' :: '=' :: highest.display] := rfl
          rw [text, List.intercalate_singleton, parseComparators, read, if_pos (by simp)]
          rfl
  | cons cmp cmps ih =>
      cases room with
      | zero => rfl
      | succ room =>
          have read := cmp.parse_display
            (.comparator (' ' :: [',', ' '].intercalate (rangeTexts cmps highest)))
          have blank : trimStart (' ' :: [',', ' '].intercalate (rangeTexts cmps highest)) =
              [',', ' '].intercalate (rangeTexts cmps highest) :=
            trimStart_rangeTexts cmps highest
          rw [intercalate_rangeTexts_cons, parseComparators, read]
          show (parseComparators room (trimStart _)).map _ = _
          rw [blank, ih room, List.length_cons]
          by_cases fits : cmps.length < room
          · rw [if_pos fits, if_pos (by omega)]
            rfl
          · rw [if_neg fits, if_neg (by omega)]
            rfl

/-- A requirement's text with a ceiling after it. It reads as the requirement with that
comparator, unless it had none, which is written as a wildcard, or as many as there may be. -/
theorem VersionReq.parse_under (req : VersionReq) (highest : Version) :
    VersionReq.parse (req.display ++ (',' :: ' ' :: '<' :: '=' :: highest.display)) =
      if req.comparators ≠ [] ∧ req.comparators.length < maxComparators then
        some (req.under highest)
      else none := by
  obtain ⟨cmps⟩ := req
  unfold VersionReq.display
  cases cmps with
  | nil =>
      rw [if_pos rfl, if_neg (by simp)]
      rfl
  | cons cmp cmps =>
      have text : [',', ' '].intercalate ((cmp :: cmps).map Comparator.display) ++
          (',' :: ' ' :: '<' :: '=' :: highest.display) =
          [',', ' '].intercalate (rangeTexts (cmp :: cmps) highest) := by
        rw [rangeTexts, intercalate_concat _ (by simp)]
        rfl
      have noWildcard : wildcard ([',', ' '].intercalate (rangeTexts (cmp :: cmps) highest)) =
          none := by
        rw [intercalate_rangeTexts_cons]
        exact (cmp.display_head _).2
      have parsed := parseComparators_rangeTexts (cmp :: cmps) highest maxComparators
      rw [if_neg (by simp), text, VersionReq.parse, trimStart_rangeTexts, noWildcard]
      dsimp only
      rw [parsed]
      by_cases fits : (cmp :: cmps).length < maxComparators
      · rw [if_pos fits, if_pos ⟨nofun, fits⟩]
        rfl
      · rw [if_neg fits, if_neg (fun both => fits both.2)]
        rfl

end SemVer
