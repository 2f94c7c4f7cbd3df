import ReviewProtocol.Handshake

set_option autoImplicit false

/- The range that a refused agent is told, against the versions that the handshake lets
in. -/
namespace ReviewProtocol

/-- The reported text reads as a requirement, and it is met by exactly the versions that
are let in. -/
def ReportsRange (versionReq : SemVer.VersionReq) (highest : SemVer.Version) : Prop :=
  ∃ reported, semverCrate.parseReq (semverCrate.combinedRange versionReq highest) = .ok reported ∧
    ∀ version : SemVer.Version, semverCrate.reqMatches reported version =
      semverCrate.admits versionReq highest (semverCrate.display version)

theorem parseReq_eq_ok_iff (text : String) (versionReq : SemVer.VersionReq) :
    semverCrate.parseReq text = .ok versionReq ↔
      SemVer.VersionReq.parse text.toList = some versionReq := by
  dsimp only
  cases SemVer.VersionReq.parse text.toList with
  | none => simp
  | some parsed => simp

theorem admits_display (versionReq : SemVer.VersionReq) (highest version : SemVer.Version) :
    semverCrate.admits versionReq highest (semverCrate.display version) =
      (versionReq.matchesReq version && version.le highest) := by
  have parsed := version.parse_display
  rw [← String.toList_ofList (l := version.display)] at parsed
  simp only [Semver.admits, parsed, Option.map_some, Option.getD_some]

theorem combinedRange_toList (versionReq : SemVer.VersionReq) (highest : SemVer.Version) :
    (semverCrate.combinedRange versionReq highest).toList =
      versionReq.display ++ (',' :: ' ' :: '<' :: '=' :: highest.display) := by
  show (String.ofList versionReq.display ++ ", <=" ++ String.ofList highest.display).toList = _
  simp only [String.toList_append, String.toList_ofList, List.append_assoc]
  rfl

/-- The reported range is the accepted one exactly when the requirement has a comparator,
has room for one more, and has one that the ceiling itself does not match. -/
theorem reported_range_iff {versionReqText highestText : String}
    {versionReq : SemVer.VersionReq} {highest : SemVer.Version}
    (parsedReq : semverCrate.parseReq versionReqText = .ok versionReq)
    (_parsedHighest : semverCrate.parse highestText = .ok highest) :
    ReportsRange versionReq highest ↔
      versionReq.comparators ≠ [] ∧ versionReq.comparators.length ≠ SemVer.maxComparators ∧
        ∃ cmp ∈ versionReq.comparators, cmp.matchesImpl highest = false := by
  have bound : versionReq.comparators.length ≤ SemVer.maxComparators :=
    SemVer.VersionReq.parse_length ((parseReq_eq_ok_iff _ _).mp parsedReq)
  have text := SemVer.VersionReq.parse_under versionReq highest
  rw [← combinedRange_toList] at text
  constructor
  · rintro ⟨reported, parsed, same⟩
    rw [parseReq_eq_ok_iff, text] at parsed
    by_cases fits : versionReq.comparators ≠ [] ∧
        versionReq.comparators.length < SemVer.maxComparators
    · rw [if_pos fits] at parsed
      cases parsed
      refine ⟨fits.1, Nat.ne_of_lt fits.2, ?_⟩
      apply (SemVer.under_matchesReq_iff versionReq highest).mp
      intro version
      rw [← admits_display]
      exact same version
    · rw [if_neg fits] at parsed
      cases parsed
  · rintro ⟨some, room, rejected⟩
    refine ⟨versionReq.under highest, ?_, fun version => ?_⟩
    · rw [parseReq_eq_ok_iff, text, if_pos ⟨some, by omega⟩]
    · rw [admits_display]
      exact (SemVer.under_matchesReq_iff versionReq highest).mpr rejected version

/-- Requirement and ceiling of an ordinary range: a build of the ceiling is in the range
that is reported, and is not let in. -/
theorem reported_range_admits_less :
    ¬ ∀ versionReqText highestText versionReq highest,
      semverCrate.parseReq versionReqText = .ok versionReq →
      semverCrate.parse highestText = .ok highest → ReportsRange versionReq highest := by
  intro reports
  have parsedReq : semverCrate.parseReq ">=0.48.0" =
      .ok ⟨[⟨.greaterEq, 0, some 48, some 0, .empty, by decide, by decide, by decide⟩]⟩ := by
    decide +kernel
  have parsedHighest : semverCrate.parse "0.49.0" = .ok ⟨0, 49, 0, .empty, .empty⟩ := by
    decide +kernel
  obtain ⟨reported, parsed, same⟩ := reports _ _ _ _ parsedReq parsedHighest
  have read : semverCrate.parseReq (semverCrate.combinedRange
      ⟨[⟨.greaterEq, 0, some 48, some 0, .empty, by decide, by decide, by decide⟩]⟩
      ⟨0, 49, 0, .empty, .empty⟩) =
      .ok ⟨[⟨.greaterEq, 0, some 48, some 0, .empty, by decide, by decide, by decide⟩,
        ⟨.lessEq, 0, some 49, some 0, .empty, by decide, by decide, by decide⟩]⟩ := by
    decide +kernel
  rw [read] at parsed
  cases parsed
  -- 0.49.0+0
  have build := same (SemVer.Version.rebuilt ⟨0, 49, 0, .empty, .empty⟩)
  revert build
  decide +kernel

/-- A requirement above its ceiling, which lets nothing in and says so. -/
theorem reported_range_iff_empty :
    ∃ versionReq highest, semverCrate.parseReq ">=0.50.0" = .ok versionReq ∧
      semverCrate.parse "0.49.0" = .ok highest ∧ ReportsRange versionReq highest := by
  have parsedReq : semverCrate.parseReq ">=0.50.0" =
      .ok ⟨[⟨.greaterEq, 0, some 50, some 0, .empty, nofun, nofun, nofun⟩]⟩ := by
    decide +kernel
  have parsedHighest : semverCrate.parse "0.49.0" = .ok ⟨0, 49, 0, .empty, .empty⟩ := by
    decide +kernel
  refine ⟨_, _, parsedReq, parsedHighest, (reported_range_iff parsedReq parsedHighest).mpr ?_⟩
  exact ⟨nofun, by decide, _, List.mem_singleton_self _, by decide⟩

end ReviewProtocol
