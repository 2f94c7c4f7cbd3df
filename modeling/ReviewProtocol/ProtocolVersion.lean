import ReviewProtocol.AcceptedRange
import ReviewProtocol.Admission
import ReviewProtocol.Lib.SemverLaws

set_option autoImplicit false

/- The window of protocol versions: a manager with a floor and a ceiling, the two that the
crate offers among them, and what becomes of its peers when the window is widened. -/
namespace ReviewProtocol

open Framing (Bytes Endpoint Halt)

/-- `PROTOCOL_VERSION`. -/
def protocolVersion : String := "0.49.0"

/-- `MIN_PROTOCOL_VERSION_REQ`. -/
def minProtocolVersionReq : String := ">=0.49.0"

/-- The requirement that nothing older than this is met by. -/
def floorText (lowest : SemVer.Version) : String := ">=" ++ semverCrate.display lowest

/-- The versions that a manager with such a floor and such a ceiling lets in. Pre-releases
are out, and the build metadata counts against the ceiling only. -/
structure InWindow (lowest highest version : SemVer.Version) : Prop where
  release : version.pre = .empty
  above : (SemVer.comparePrecedence lowest version).isLE = true
  below : version.le highest = true

theorem parse_eq_ok_iff (text : String) (version : SemVer.Version) :
    semverCrate.parse text = .ok version ↔ text = semverCrate.display version := by
  have written : SemVer.Version.parse text.toList = some version ↔
      text = semverCrate.display version := by
    rw [SemVer.Version.parse_eq_some_iff]
    constructor
    · intro same
      apply String.toList_injective
      rw [same, String.toList_ofList]
    · rintro rfl
      exact String.toList_ofList
  rw [← written]
  dsimp only
  cases SemVer.Version.parse text.toList with
  | none => simp
  | some parsed => simp

theorem parse_display (version : SemVer.Version) :
    semverCrate.parse (semverCrate.display version) = .ok version :=
  (parse_eq_ok_iff _ _).mpr rfl

theorem parse_floorText (lowest : SemVer.Version) :
    semverCrate.parseReq (floorText lowest) = .ok (SemVer.VersionReq.atLeast lowest) := by
  rw [parseReq_eq_ok_iff, ← SemVer.VersionReq.parse_atLeast]
  have text : (floorText lowest).toList = '>' :: '=' :: lowest.display := by
    show (">=" ++ String.ofList lowest.display).toList = _
    simp only [String.toList_append, String.toList_ofList]
    rfl
  rw [text]

/-- Only the text of a version is let in. -/
theorem admits_written {versionReq : SemVer.VersionReq} {highest : SemVer.Version}
    {advertised : String} (admitted : semverCrate.admits versionReq highest advertised = true) :
    ∃ version, advertised = semverCrate.display version := by
  unfold Semver.admits at admitted
  split at admitted
  · rename_i version parsed
    exact ⟨version, (parse_eq_ok_iff advertised version).mp parsed⟩
  · cases admitted

/-- A text that is let in is that of a version in the window. -/
theorem admits_atLeast_iff {lowest : SemVer.Version} (release : lowest.pre = .empty)
    (highest : SemVer.Version) (advertised : String) :
    semverCrate.admits (SemVer.VersionReq.atLeast lowest) highest advertised = true ↔
      ∃ version, advertised = semverCrate.display version ∧ InWindow lowest highest version := by
  constructor
  · intro admitted
    obtain ⟨version, written⟩ := admits_written admitted
    rw [written, admits_display, Bool.and_eq_true,
      SemVer.VersionReq.atLeast_matchesReq release] at admitted
    exact ⟨version, written, admitted.1.1, admitted.1.2, admitted.2⟩
  · rintro ⟨version, rfl, window⟩
    rw [admits_display, Bool.and_eq_true, SemVer.VersionReq.atLeast_matchesReq release]
    exact ⟨⟨window.release, window.above⟩, window.below⟩

theorem InWindow.admitted {lowest highest lowest' highest' version : SemVer.Version}
    (window : InWindow lowest highest version) (lower : lowest'.le lowest = true)
    (higher : highest.le highest' = true) :
    semverCrate.admits (SemVer.VersionReq.atLeast lowest') highest'
      (semverCrate.display version) = true := by
  rw [admits_display, Bool.and_eq_true]
  exact ⟨SemVer.VersionReq.atLeast_mono window.release lower window.above,
    SemVer.Version.le_trans window.below higher⟩

/-- The version that the crate is at. -/
def currentVersion : SemVer.Version := ⟨0, 49, 0, .empty, .empty⟩

theorem protocolVersion_eq : protocolVersion = semverCrate.display currentVersion := by
  decide +kernel

theorem minProtocolVersionReq_eq : minProtocolVersionReq = floorText currentVersion := by
  decide +kernel

/-- Floor and ceiling at one plain release leave that release. -/
theorem InWindow.eq {lowest version : SemVer.Version} (plain : lowest.build = .empty)
    (window : InWindow lowest lowest version) : version = lowest :=
  SemVer.Version.eq_of_between plain window.above window.below

section window

variable (wire : Wire) (formats : Formats) (debugStr : String → String) (addr : SocketAddr)
  (w : Endpoint (Option ConnectionError) Empty HandshakeEvent IoError)

/-- What a manager with this window comes to. -/
def windowed (lowest highest : SemVer.Version) : Except (Halt HandshakeError) AgentInfo :=
  ((handshake ⟨semverCrate, wire, formats, debugStr⟩ addr (floorText lowest)
    (semverCrate.display highest)).run w).1

theorem windowed_eq (lowest highest : SemVer.Version) :
    windowed wire formats debugStr addr w lowest highest =
      ((receiveAgent ⟨semverCrate, wire, formats, debugStr⟩ addr
        (SemVer.VersionReq.atLeast lowest) highest).run w).1 := by
  unfold windowed handshake
  split
  · rename_i text failed
    rw [parse_floorText lowest] at failed
    cases failed
  · rename_i versionReq parsedReq
    rw [parse_floorText lowest] at parsedReq
    cases parsedReq
    split
    · rename_i text failed
      rw [parse_display highest] at failed
      cases failed
    · rename_i highest' parsed
      rw [parse_display highest] at parsed
      cases parsed
      rfl

/-- The answer that tells an agent the ceiling, and what became of it. -/
def ceilingTold (highest : SemVer.Version) : Option IoError :=
  w.send.outcome w.send.attempts
    (wire.encode (.result .str) (.ok (semverCrate.display highest)))

theorem answerFrame_admitted {versionReq : SemVer.VersionReq} {highest : SemVer.Version}
    {agentInfo : AgentInfo}
    (admitted : semverCrate.admits versionReq highest agentInfo.protocolVersion = true) :
    answerFrame ⟨semverCrate, wire, formats, debugStr⟩ versionReq highest agentInfo =
      wire.encode (.result .str) (.ok (semverCrate.display highest)) := by
  unfold answerFrame Semver.answer
  rw [if_pos admitted]

/-- The peers that a window lets in. -/
theorem windowed_ok_iff {lowest : SemVer.Version} (release : lowest.pre = .empty)
    (highest : SemVer.Version) (info : AgentInfo) :
    windowed wire formats debugStr addr w lowest highest = .ok info ↔
      ∃ body rest agentInfo version, FirstFrame w body rest ∧
        decodeAgentInfo formats body = .ok agentInfo ∧
        agentInfo.protocolVersion = semverCrate.display version ∧
        InWindow lowest highest version ∧ ceilingTold wire w highest = none ∧
        info = { agentInfo with addr := addr } := by
  rw [windowed_eq, receiveAgent_ok_iff]
  constructor
  · rintro ⟨body, rest, agentInfo, first, decoded, admitted, taken, same⟩
    obtain ⟨version, written, window⟩ := (admits_atLeast_iff release highest _).mp admitted
    rw [answerFrame_admitted wire formats debugStr admitted] at taken
    exact ⟨body, rest, agentInfo, version, first, decoded, written, window, taken, same⟩
  · rintro ⟨body, rest, agentInfo, version, first, decoded, written, window, taken, same⟩
    have admitted := (admits_atLeast_iff release highest _).mpr ⟨version, written, window⟩
    refine ⟨body, rest, agentInfo, first, decoded, admitted, ?_, same⟩
    rw [answerFrame_admitted wire formats debugStr admitted]
    exact taken

/-- Who is let in by a window is let in by every wider one that tells it so. -/
theorem windowed_wider {lowest highest lowest' highest' : SemVer.Version} {info : AgentInfo}
    (release : lowest.pre = .empty) (lower : lowest'.le lowest = true)
    (higher : highest.le highest' = true)
    (accepted : windowed wire formats debugStr addr w lowest highest = .ok info) :
    (ceilingTold wire w highest' = none ∧
        windowed wire formats debugStr addr w lowest' highest' = .ok info) ∨
      ∃ error, ceilingTold wire w highest' = some error ∧
        windowed wire formats debugStr addr w lowest' highest' =
          .error (.failed (handleHandshakeSendIoError error)) := by
  obtain ⟨body, rest, agentInfo, version, first, decoded, written, window, -, same⟩ :=
    (windowed_ok_iff wire formats debugStr addr w release highest info).mp accepted
  have admitted : semverCrate.admits (SemVer.VersionReq.atLeast lowest') highest'
      agentInfo.protocolVersion = true := by
    rw [written]
    exact window.admitted lower higher
  obtain ⟨events, -, hears⟩ := receiveAgent_hears ⟨semverCrate, wire, formats, debugStr⟩ addr
    (SemVer.VersionReq.atLeast lowest') highest' (w := w)
  rw [← windowed_eq] at hears
  generalize windowed wire formats debugStr addr w lowest' highest' = result at hears ⊢
  have told := answerFrame_admitted wire formats debugStr admitted
  rcases hears.of_decoded first decoded with ⟨taken, verdict⟩ | ⟨error, lost, failed⟩
  · rw [told] at taken
    refine .inl ⟨taken, ?_⟩
    rw [verdict, same]
    exact if_pos admitted
  · rw [told] at lost
    exact .inr ⟨error, lost, failed⟩

/-- The window of a manager against any peer. A release as floor and a ceiling let in exactly
the releases between the two, the floor by precedence and the ceiling by the whole order; the
floor and the ceiling of the crate leave one text; and widening a window turns nobody away
whom it let in, unless the answer that says so is lost. -/
theorem protocol_window :
    (∀ lowest highest info, lowest.pre = .empty →
      (windowed wire formats debugStr addr w lowest highest = .ok info ↔
        ∃ body rest agentInfo version, FirstFrame w body rest ∧
          decodeAgentInfo formats body = .ok agentInfo ∧
          agentInfo.protocolVersion = semverCrate.display version ∧
          InWindow lowest highest version ∧ ceilingTold wire w highest = none ∧
          info = { agentInfo with addr := addr })) ∧
    (∀ info, ((handshake ⟨semverCrate, wire, formats, debugStr⟩ addr minProtocolVersionReq
        protocolVersion).run w).1 = .ok info → info.protocolVersion = protocolVersion) ∧
    ∀ lowest highest lowest' highest' info, lowest.pre = .empty → lowest'.le lowest = true →
      highest.le highest' = true →
      windowed wire formats debugStr addr w lowest highest = .ok info →
      (ceilingTold wire w highest' = none ∧
          windowed wire formats debugStr addr w lowest' highest' = .ok info) ∨
        ∃ error, ceilingTold wire w highest' = some error ∧
          windowed wire formats debugStr addr w lowest' highest' =
            .error (.failed (handleHandshakeSendIoError error)) := by
  refine ⟨fun lowest highest info release =>
    windowed_ok_iff wire formats debugStr addr w release highest info, ?_, ?_⟩
  · intro info accepted
    rw [minProtocolVersionReq_eq, protocolVersion_eq] at accepted
    obtain ⟨-, -, agentInfo, version, -, -, written, window, -, rfl⟩ :=
      (windowed_ok_iff wire formats debugStr addr w rfl currentVersion info).mp accepted
    rw [protocolVersion_eq, ← window.eq rfl]
    exact written
  · intro lowest highest lowest' highest' info release lower higher accepted
    exact windowed_wider wire formats debugStr addr w release lower higher accepted

end window

/-- The introduction of an agent of this version has arrived. -/
def sampleCurrent : Endpoint (Option ConnectionError) Empty HandshakeEvent IoError :=
  ((introducing sampleDial none (.healthy (.simple .invalidInput))
    (.healthy (.simple .invalidInput))).deliverFar (agentHandshake sampleCrates sampleBuilder)).far

theorem protocol_window_sample :
    ((handshake sampleCrates ⟨.v4 1, 2⟩ minProtocolVersionReq protocolVersion).run
        sampleCurrent).1 = .ok { introduction sampleBuilder sampleDial with addr := ⟨.v4 1, 2⟩ } ∧
      ((handshake sampleCrates ⟨.v4 1, 2⟩ ">=0.48.0" "0.50.0").run sampleCurrent).1 =
        .ok { introduction sampleBuilder sampleDial with addr := ⟨.v4 1, 2⟩ } := by
  have accepted : ((handshake sampleCrates ⟨.v4 1, 2⟩ minProtocolVersionReq protocolVersion).run
      sampleCurrent).1 = .ok { introduction sampleBuilder sampleDial with addr := ⟨.v4 1, 2⟩ } := by
    decide +kernel
  refine ⟨accepted, ?_⟩
  obtain ⟨-, -, wider⟩ := protocol_window Encoding.bincode Encoding.formats sampleCrates.debugStr
    ⟨.v4 1, 2⟩ sampleCurrent
  have floor : ">=0.48.0" = floorText ⟨0, 48, 0, .empty, .empty⟩ := by decide +kernel
  have ceiling : "0.50.0" = semverCrate.display ⟨0, 50, 0, .empty, .empty⟩ := by decide +kernel
  rw [minProtocolVersionReq_eq, protocolVersion_eq] at accepted
  rcases wider currentVersion currentVersion ⟨0, 48, 0, .empty, .empty⟩ ⟨0, 50, 0, .empty, .empty⟩
    _ rfl (by decide) (by decide) accepted with ⟨-, still⟩ | ⟨error, lost, -⟩
  · rw [floor, ceiling]
    exact still
  · have told : ceilingTold Encoding.bincode sampleCurrent ⟨0, 50, 0, .empty, .empty⟩ = none := by
      decide +kernel
    rw [told] at lost
    cases lost

end ReviewProtocol
