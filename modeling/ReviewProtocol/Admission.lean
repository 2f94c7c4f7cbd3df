import ReviewProtocol.Handshake

set_option autoImplicit false

/- The handshake when things go wrong: with any peer at the other end, and between the two
parties whatever the transport does to them. -/
namespace ReviewProtocol

open Framing (Bytes Act Endpoint SendStream Duplex Halt frame)
open Framing.Act (emit)

section manager

variable (crates : Crates) (addr : SocketAddr) (versionReq : crates.semver.VersionReq)
  (highest : crates.semver.Version)
  (w : Endpoint (Option ConnectionError) Empty HandshakeEvent IoError)

/-- A frame is there, and these are the frame and what follows it. -/
structure FirstFrame (body rest : Bytes) : Prop where
  here : w.state = none
  bytes : w.recv.bytes = frame body ++ rest
  fits : body.length < Framing.frameLimit

/-- The answer that an agent of this description gets. -/
def answerFrame (agentInfo : AgentInfo) : Bytes :=
  crates.wire.encode (.result .str)
    (crates.semver.answer versionReq highest agentInfo.protocolVersion)

/-- All that the manager can come to, whoever the peer is. -/
inductive Hears : Except (Halt HandshakeError) AgentInfo → List HandshakeEvent → Prop where
  | unheard (result : Except (Halt HandshakeError) AgentInfo) (events : List HandshakeEvent)
      (unheard : ∀ body rest, ¬ FirstFrame w body rest)
      (failed : ∀ info, result ≠ .ok info)
      (unjudged : ∀ version accepted,
        result ≠ .error (.failed (.incompatibleProtocol version accepted)))
      (here : result = .error .pending → w.state = none)
      (silent : ∀ event ∈ events, event = .accepted) : Hears result events
  | garbled (body rest : Bytes) (error : AgentInfoDecodeError) (first : FirstFrame w body rest)
      (undecoded : decodeAgentInfo crates.formats body = .error error) :
      Hears (.error (.failed .invalidMessage)) [.accepted]
  | answered (body rest : Bytes) (agentInfo : AgentInfo) (first : FirstFrame w body rest)
      (decoded : decodeAgentInfo crates.formats body = .ok agentInfo)
      (taken : w.send.outcome w.send.attempts
        (answerFrame crates versionReq highest agentInfo) = none) :
      Hears (managerVerdict crates addr versionReq highest agentInfo)
        (.accepted :: answeredLog crates.semver versionReq highest agentInfo.protocolVersion)
  | unanswered (body rest : Bytes) (agentInfo : AgentInfo) (error : IoError)
      (first : FirstFrame w body rest)
      (decoded : decodeAgentInfo crates.formats body = .ok agentInfo)
      (lost : w.send.outcome w.send.attempts
        (answerFrame crates versionReq highest agentInfo) = some error) :
      Hears (.error (.failed (handleHandshakeSendIoError error))) [.accepted]

variable {w}

theorem run_sendAnswer_lost {wire : Wire} {result : Except String String} {error : IoError}
    (lost : w.send.outcome w.send.attempts (wire.encode (.result .str) result) = some error) :
    (sendAnswer wire result).run w = (.error (.failed (handleHandshakeSendIoError error)),
      { w with send.attempts := w.send.attempts + 1 }) := by
  rw [sendAnswer, Act.run_bind]
  rcases Act.run_send_cases (ε := HandshakeError) (wire.encode (.result .str) result)
    (.answered result) w with ⟨taken, -⟩ | ⟨failure, failed, sent⟩
  · rw [lost] at taken
    cases taken
  · rw [lost] at failed
    cases failed
    rw [sent]
    rfl

/-- What the judgement of an introduction comes to. -/
theorem judge_cases {agentInfo : AgentInfo} {body : Bytes}
    (decoded : decodeAgentInfo crates.formats body = .ok agentInfo) :
    (w.send.outcome w.send.attempts (answerFrame crates versionReq highest agentInfo) = none ∧
      (judge crates addr versionReq highest body).run w =
        (managerVerdict crates addr versionReq highest agentInfo,
          { w with
            send.attempts := w.send.attempts + 1
            log := w.log ++
              answeredLog crates.semver versionReq highest agentInfo.protocolVersion })) ∨
    ∃ error, w.send.outcome w.send.attempts (answerFrame crates versionReq highest agentInfo) =
        some error ∧
      (judge crates addr versionReq highest body).run w =
        (.error (.failed (handleHandshakeSendIoError error)),
          { w with send.attempts := w.send.attempts + 1 }) := by
  cases out : w.send.outcome w.send.attempts (answerFrame crates versionReq highest agentInfo) with
  | none =>
      refine .inl ⟨rfl, ?_⟩
      simp only [judge, decoded, managerVerdict, answeredLog]
      unfold answerFrame Semver.answer at out
      by_cases admitted : crates.semver.admits versionReq highest agentInfo.protocolVersion
      · rw [if_pos admitted] at out
        rw [if_pos admitted, if_pos admitted, if_pos admitted, Act.run_bind, run_sendAnswer out]
        unfold Semver.answer
        rw [if_pos admitted]
        rfl
      · rw [if_neg admitted] at out
        rw [if_neg admitted, if_neg admitted, if_neg admitted, Act.run_bind, run_sendAnswer out]
        unfold Semver.answer
        simp only [if_neg admitted, Act.andThen_ok, Act.run_bind, emit, Act.fail,
          List.append_assoc, List.singleton_append]
  | some error =>
      refine .inr ⟨error, rfl, ?_⟩
      simp only [judge, decoded]
      unfold answerFrame Semver.answer at out
      by_cases admitted : crates.semver.admits versionReq highest agentInfo.protocolVersion
      · rw [if_pos admitted] at out ⊢
        rw [Act.run_bind, run_sendAnswer_lost out]
        rfl
      · rw [if_neg admitted] at out ⊢
        rw [Act.run_bind, run_sendAnswer_lost out]
        rfl

theorem sendIoError_ne (error : IoError) (version accepted : String) :
    handleHandshakeSendIoError error ≠ .incompatibleProtocol version accepted := by
  unfold handleHandshakeSendIoError
  split <;> nofun

theorem recvIoError_ne (error : IoError) (version accepted : String) :
    handleHandshakeRecvIoError error ≠ .incompatibleProtocol version accepted := by
  unfold handleHandshakeRecvIoError
  split <;> nofun

/-- Without a frame there is nobody to let in, and nothing is written. -/
theorem hears_nothing {result : Except (Halt HandshakeError) AgentInfo}
    {events : List HandshakeEvent} (unheard : ∀ body rest, ¬ FirstFrame w body rest)
    (halts : result = .error .pending ∨ ∃ failure, result = .error (.failed failure) ∧
      ∀ version accepted, failure ≠ .incompatibleProtocol version accepted)
    (here : result = .error .pending → w.state = none)
    (silent : ∀ event ∈ events, event = .accepted) :
    Hears crates addr versionReq highest w result events := by
  refine .unheard result events unheard ?_ ?_ here silent
  · rintro info rfl
    rcases halts with impossible | ⟨failure, impossible, -⟩ <;> cases impossible
  · rintro version accepted rfl
    rcases halts with impossible | ⟨failure, same, other⟩
    · cases impossible
    · cases same
      exact other version accepted rfl

theorem receiveAgent_hears :
    ∃ events, ((receiveAgent crates addr versionReq highest).run w).2.log = w.log ++ events ∧
      Hears crates addr versionReq highest w
        ((receiveAgent crates addr versionReq highest).run w).1 events := by
  rw [receiveAgent, Act.run_bind]
  cases lost : w.state with
  | some error =>
      have gone : acceptBi.run w = (.error (.failed (.connectionLost error)), w) := by
        rw [acceptBi, Act.run_bind]
        show Act.andThen (.ok w.state, w) _ = _
        rw [lost]
        rfl
      rw [gone]
      refine ⟨[], (List.append_nil _).symm,
          hears_nothing crates addr versionReq highest ?_ ?_ ?_ ?_⟩
      · intro body rest first
        cases first.here.symm.trans lost
      · refine .inr ⟨_, rfl, ?_⟩
        intro version accepted same
        cases same
      · intro waits
        cases waits
      · exact fun _ mem => (List.not_mem_nil mem).elim
  | none =>
      rcases acceptBi_cases lost with ⟨empty, nothing⟩ | accepted
      · rw [nothing]
        refine ⟨[], (List.append_nil _).symm,
          hears_nothing crates addr versionReq highest ?_ ?_ ?_ ?_⟩
        · intro body rest first
          have length := congrArg List.length (first.bytes.symm.trans empty)
          rw [List.length_append, Framing.length_frame, List.length_nil] at length
          omega
        · exact .inl rfl
        · exact fun _ => lost
        · exact fun _ mem => (List.not_mem_nil mem).elim
      · rw [accepted, Act.andThen_ok, Act.run_bind]
        let v : Endpoint (Option ConnectionError) Empty HandshakeEvent IoError :=
          { w with log := w.log ++ [HandshakeEvent.accepted] }
        have unheard (incomplete : Framing.splitFrame w.recv.bytes = none) (body rest : Bytes) :
            ¬ FirstFrame w body rest := by
          intro first
          rw [first.bytes, Framing.splitFrame_frame _ _ first.fits] at incomplete
          cases incomplete
        cases split : Framing.splitFrame w.recv.bytes with
        | none =>
            rcases Act.run_recv_incomplete (ε := HandshakeError) (w := v) split with
              ⟨error, read⟩ | read
            · rw [read]
              refine ⟨[.accepted], rfl,
                hears_nothing crates addr versionReq highest (unheard split) ?_ ?_ ?_⟩
              · exact .inr ⟨_, rfl, recvIoError_ne error⟩
              · intro waits
                cases waits
              · exact fun event mem => List.mem_singleton.mp mem
            · rw [read]
              refine ⟨[.accepted], rfl,
                hears_nothing crates addr versionReq highest (unheard split) (.inl rfl)
                  (fun _ => lost) ?_⟩
              exact fun event mem => List.mem_singleton.mp mem
        | some parts =>
            obtain ⟨body, rest⟩ := parts
            obtain ⟨bytes, fits⟩ := Framing.splitFrame_some split
            have first : FirstFrame w body rest := ⟨lost, bytes, fits⟩
            have read := Act.run_recv_frame (ε := HandshakeError) (w := v) bytes fits
            rw [read, Act.andThen_ok]
            dsimp only
            cases decoded : decodeAgentInfo crates.formats body with
            | error error =>
                refine ⟨[.accepted], ?_, ?_⟩
                · simp only [judge, decoded]
                  rfl
                · simp only [judge, decoded]
                  exact .garbled body rest error first decoded
            | ok agentInfo =>
                rcases judge_cases crates addr versionReq highest
                  (w := { v with recv.bytes := rest }) decoded with
                  ⟨taken, judged⟩ | ⟨error, failed, judged⟩
                · rw [judged]
                  exact ⟨_, List.append_assoc _ _ _,
                    .answered body rest agentInfo first decoded taken⟩
                · rw [judged]
                  exact ⟨_, rfl, .unanswered body rest agentInfo error first decoded failed⟩

end manager

/-- There is one first frame at most. -/
theorem FirstFrame.unique {w : Endpoint (Option ConnectionError) Empty HandshakeEvent IoError}
    {body rest body' rest' : Bytes} (first : FirstFrame w body rest)
    (other : FirstFrame w body' rest') : body' = body := by
  have both := Framing.splitFrame_frame body' rest' other.fits
  rw [← other.bytes, first.bytes, Framing.splitFrame_frame body rest first.fits] at both
  cases both
  rfl

/-- A peer whose description reads gets the verdict on it, if it can be written. -/
theorem Hears.of_decoded {crates : Crates} {addr : SocketAddr}
    {versionReq : crates.semver.VersionReq} {highest : crates.semver.Version}
    {w : Endpoint (Option ConnectionError) Empty HandshakeEvent IoError}
    {result : Except (Halt HandshakeError) AgentInfo} {events : List HandshakeEvent}
    (hears : Hears crates addr versionReq highest w result events) {body rest : Bytes}
    {agentInfo : AgentInfo} (first : FirstFrame w body rest)
    (decoded : decodeAgentInfo crates.formats body = .ok agentInfo) :
    (w.send.outcome w.send.attempts (answerFrame crates versionReq highest agentInfo) = none ∧
        result = managerVerdict crates addr versionReq highest agentInfo) ∨
      ∃ error, w.send.outcome w.send.attempts (answerFrame crates versionReq highest agentInfo) =
          some error ∧ result = .error (.failed (handleHandshakeSendIoError error)) := by
  cases hears with
  | unheard _ _ unheard => exact absurd first (unheard body rest)
  | garbled body' rest' error other undecoded =>
      rw [first.unique other, decoded] at undecoded
      cases undecoded
  | answered body' rest' agentInfo' other decoded' taken =>
      rw [first.unique other, decoded] at decoded'
      cases decoded'
      exact .inl ⟨taken, rfl⟩
  | unanswered body' rest' agentInfo' error other decoded' lost =>
      rw [first.unique other, decoded] at decoded'
      cases decoded'
      exact .inr ⟨error, lost, rfl⟩

/-- Which peers are let in once the version arguments were parsed. -/
theorem receiveAgent_ok_iff (crates : Crates) (addr : SocketAddr)
    (versionReq : crates.semver.VersionReq) (highest : crates.semver.Version) (info : AgentInfo)
    (w : Endpoint (Option ConnectionError) Empty HandshakeEvent IoError) :
    ((receiveAgent crates addr versionReq highest).run w).1 = .ok info ↔
      ∃ body rest agentInfo, FirstFrame w body rest ∧
        decodeAgentInfo crates.formats body = .ok agentInfo ∧
        crates.semver.admits versionReq highest agentInfo.protocolVersion = true ∧
        w.send.outcome w.send.attempts (answerFrame crates versionReq highest agentInfo) = none ∧
        info = { agentInfo with addr := addr } := by
  obtain ⟨events, -, hears⟩ := receiveAgent_hears crates addr versionReq highest (w := w)
  generalize ((receiveAgent crates addr versionReq highest).run w).1 = result at hears ⊢
  constructor
  · rintro rfl
    generalize outcome : (Except.ok info : Except (Halt HandshakeError) AgentInfo) =
      result at hears
    cases hears with
    | unheard result _ _ failed => exact absurd outcome.symm (failed info)
    | garbled => cases outcome
    | unanswered => cases outcome
    | answered body rest agentInfo first decoded taken =>
        unfold managerVerdict at outcome
        by_cases admitted :
            crates.semver.admits versionReq highest agentInfo.protocolVersion = true
        · rw [if_pos admitted] at outcome
          cases outcome
          exact ⟨body, rest, agentInfo, first, decoded, admitted, taken, rfl⟩
        · rw [if_neg admitted] at outcome
          cases outcome
  · rintro ⟨body, rest, agentInfo, first, decoded, admitted, taken, rfl⟩
    rcases hears.of_decoded first decoded with ⟨-, verdict⟩ | ⟨error, lost, -⟩
    · rw [verdict]
      exact if_pos admitted
    · rw [taken] at lost
      cases lost

/-- The version arguments are looked at first, and nothing is done if one of them is wrong. -/
theorem handshake_cases (crates : Crates) (addr : SocketAddr)
    (versionReqText highestText : String) :
    (∃ versionReq highest, crates.semver.parseReq versionReqText = .ok versionReq ∧
        crates.semver.parse highestText = .ok highest ∧
        handshake crates addr versionReqText highestText =
          receiveAgent crates addr versionReq highest) ∨
      (∃ text, handshake crates addr versionReqText highestText =
          Act.fail (.invalidVersionArgument text)) ∧
        ∀ versionReq highest, crates.semver.parseReq versionReqText = .ok versionReq →
          crates.semver.parse highestText ≠ .ok highest := by
  cases parsedReq : crates.semver.parseReq versionReqText with
  | error text =>
      refine .inr ⟨⟨_, by simp only [handshake, parsedReq]; rfl⟩, ?_⟩
      intro versionReq highest impossible
      cases impossible
  | ok versionReq =>
      cases parsedHighest : crates.semver.parse highestText with
      | error text =>
          refine .inr ⟨⟨_, by simp only [handshake, parsedReq, parsedHighest]; rfl⟩, ?_⟩
          intro _ highest _ impossible
          cases impossible
      | ok highest =>
          exact .inl ⟨versionReq, highest, rfl, rfl,
            by simp only [handshake, parsedReq, parsedHighest]⟩

/-- Exactly which peers a manager lets in: those whose first frame decodes to a description with
a version that it admits, and that its answer can be written to. -/
theorem handshake_accepts_iff (crates : Crates) (addr : SocketAddr)
    (versionReqText highestText : String) (info : AgentInfo)
    (w : Endpoint (Option ConnectionError) Empty HandshakeEvent IoError) :
    ((handshake crates addr versionReqText highestText).run w).1 = .ok info ↔
      ∃ versionReq highest body rest agentInfo,
        crates.semver.parseReq versionReqText = .ok versionReq ∧
        crates.semver.parse highestText = .ok highest ∧ FirstFrame w body rest ∧
        decodeAgentInfo crates.formats body = .ok agentInfo ∧
        crates.semver.admits versionReq highest agentInfo.protocolVersion = true ∧
        w.send.outcome w.send.attempts (answerFrame crates versionReq highest agentInfo) = none ∧
        info = { agentInfo with addr := addr } := by
  rcases handshake_cases crates addr versionReqText highestText with
    ⟨versionReq, highest, parsedReq, parsedHighest, same⟩ | ⟨⟨text, same⟩, unparsed⟩
  · rw [same, receiveAgent_ok_iff]
    constructor
    · rintro ⟨body, rest, agentInfo, heard⟩
      exact ⟨versionReq, highest, body, rest, agentInfo, parsedReq, parsedHighest, heard⟩
    · rintro ⟨_, _, body, rest, agentInfo, parsedReq', parsedHighest', heard⟩
      cases parsedReq.symm.trans parsedReq'
      cases parsedHighest.symm.trans parsedHighest'
      exact ⟨body, rest, agentInfo, heard⟩
  · rw [same]
    constructor
    · intro accepted
      cases accepted
    · rintro ⟨versionReq, highest, -, -, -, parsedReq, parsedHighest, -⟩
      exact absurd parsedHighest (unparsed versionReq highest parsedReq)

theorem HandshakeError.kind_eq_iff (error : HandshakeError) :
    error.kind = .versionMismatch ↔
      ∃ version accepted, error = .incompatibleProtocol version accepted := by
  constructor
  · intro mismatch
    cases error with
    | incompatibleProtocol version accepted => exact ⟨version, accepted, rfl⟩
    | _ => cases mismatch
  · rintro ⟨version, accepted, rfl⟩
    rfl

/-- The peers that are turned away for their version once the version arguments were parsed,
and what has happened by then. -/
theorem receiveAgent_mismatch_iff (crates : Crates) (addr : SocketAddr)
    (versionReq : crates.semver.VersionReq) (highest : crates.semver.Version)
    (error : HandshakeError)
    (w : Endpoint (Option ConnectionError) Empty HandshakeEvent IoError) :
    (((receiveAgent crates addr versionReq highest).run w).1 = .error (.failed error) ∧
        error.kind = .versionMismatch) ↔
      ∃ body rest agentInfo, FirstFrame w body rest ∧
        decodeAgentInfo crates.formats body = .ok agentInfo ∧
        crates.semver.admits versionReq highest agentInfo.protocolVersion = false ∧
        w.send.outcome w.send.attempts (answerFrame crates versionReq highest agentInfo) = none ∧
        error = .incompatibleProtocol agentInfo.protocolVersion
          (crates.semver.combinedRange versionReq highest) := by
  obtain ⟨events, -, hears⟩ := receiveAgent_hears crates addr versionReq highest (w := w)
  generalize ((receiveAgent crates addr versionReq highest).run w).1 = result at hears ⊢
  rw [error.kind_eq_iff]
  constructor
  · rintro ⟨rfl, version, accepted, rfl⟩
    generalize outcome : (Except.error (.failed (.incompatibleProtocol version accepted)) :
      Except (Halt HandshakeError) AgentInfo) = result at hears
    cases hears with
    | unheard result _ _ _ unjudged => exact absurd outcome.symm (unjudged version accepted)
    | garbled => cases outcome
    | unanswered _ _ _ lost =>
        injection outcome with halted
        injection halted with same
        exact absurd same.symm (sendIoError_ne lost version accepted)
    | answered body rest agentInfo first decoded taken =>
        unfold managerVerdict at outcome
        by_cases admitted :
            crates.semver.admits versionReq highest agentInfo.protocolVersion = true
        · rw [if_pos admitted] at outcome
          cases outcome
        · rw [if_neg admitted] at outcome
          cases outcome
          exact ⟨body, rest, agentInfo, first, decoded, Bool.eq_false_iff.mpr admitted, taken, rfl⟩
  · rintro ⟨body, rest, agentInfo, first, decoded, refused, taken, rfl⟩
    refine ⟨?_, _, _, rfl⟩
    rcases hears.of_decoded first decoded with ⟨-, verdict⟩ | ⟨error, lost, -⟩
    · rw [verdict]
      exact if_neg (Bool.eq_false_iff.mp refused)
    · rw [taken] at lost
      cases lost

/-- What the peer was told is what the manager returns. -/
theorem Hears.told {crates : Crates} {addr : SocketAddr} {versionReq : crates.semver.VersionReq}
    {highest : crates.semver.Version}
    {w : Endpoint (Option ConnectionError) Empty HandshakeEvent IoError}
    {result : Except (Halt HandshakeError) AgentInfo} {events : List HandshakeEvent}
    (hears : Hears crates addr versionReq highest w result events) :
    (∀ text, .answered (.ok text) ∈ events ↔
      text = crates.semver.display highest ∧ ∃ info, result = .ok info) ∧
    ∀ range, .answered (.error range) ∈ events ↔
      ∃ version, result = .error (.failed (.incompatibleProtocol version range)) := by
  cases hears with
  | unheard result events _ failed unjudged _ silent =>
      have untold (answer : Except String String) : .answered answer ∉ events := by
        intro mem
        cases silent _ mem
      constructor
      · intro text
        constructor
        · exact fun mem => absurd mem (untold (.ok text))
        · rintro ⟨-, info, accepted⟩
          exact absurd accepted (failed info)
      · intro range
        constructor
        · exact fun mem => absurd mem (untold (.error range))
        · rintro ⟨version, refused⟩
          exact absurd refused (unjudged version range)
  | garbled => simp
  | unanswered _ _ _ error =>
      constructor
      · simp
      · intro range
        constructor
        · simp
        · rintro ⟨version, refused⟩
          injection refused with halted
          injection halted with same
          exact absurd same (sendIoError_ne error version range)
  | answered body rest agentInfo first decoded taken =>
      unfold managerVerdict answeredLog Semver.answer
      by_cases admitted : crates.semver.admits versionReq highest agentInfo.protocolVersion = true
      · simp [admitted]
      · constructor
        · simp [admitted]
        · intro range
          simp only [if_neg admitted]
          constructor
          · intro told
            have same : range = crates.semver.combinedRange versionReq highest := by
              simpa using told
            exact ⟨agentInfo.protocolVersion, by rw [same]⟩
          · rintro ⟨version, refused⟩
            cases refused
            simp

/-- When a handshake counts as a version mismatch, against any peer, and that the peer is told
what the manager returns: the ceiling with a description, the range with a mismatch, and
nothing otherwise. -/
theorem handshake_tells (crates : Crates) (addr : SocketAddr)
    (versionReqText highestText : String)
    (w : Endpoint (Option ConnectionError) Empty HandshakeEvent IoError) :
    (∀ error, (((handshake crates addr versionReqText highestText).run w).1 =
          .error (.failed error) ∧ error.kind = .versionMismatch) ↔
        ∃ versionReq highest body rest agentInfo,
          crates.semver.parseReq versionReqText = .ok versionReq ∧
          crates.semver.parse highestText = .ok highest ∧ FirstFrame w body rest ∧
          decodeAgentInfo crates.formats body = .ok agentInfo ∧
          crates.semver.admits versionReq highest agentInfo.protocolVersion = false ∧
          w.send.outcome w.send.attempts (answerFrame crates versionReq highest agentInfo) =
            none ∧
          error = .incompatibleProtocol agentInfo.protocolVersion
            (crates.semver.combinedRange versionReq highest)) ∧
    ∃ events, ((handshake crates addr versionReqText highestText).run w).2.log =
        w.log ++ events ∧
      (∀ text, .answered (.ok text) ∈ events ↔
        (crates.semver.parse highestText).map crates.semver.display = .ok text ∧
          ∃ info, ((handshake crates addr versionReqText highestText).run w).1 = .ok info) ∧
      ∀ range, .answered (.error range) ∈ events ↔
        ∃ version, ((handshake crates addr versionReqText highestText).run w).1 =
          .error (.failed (.incompatibleProtocol version range)) := by
  rcases handshake_cases crates addr versionReqText highestText with
    ⟨versionReq, highest, parsedReq, parsedHighest, same⟩ | ⟨⟨text, same⟩, unparsed⟩
  · rw [same]
    constructor
    · intro error
      rw [receiveAgent_mismatch_iff]
      constructor
      · rintro ⟨body, rest, agentInfo, refused⟩
        exact ⟨versionReq, highest, body, rest, agentInfo, parsedReq, parsedHighest, refused⟩
      · rintro ⟨_, _, body, rest, agentInfo, parsedReq', parsedHighest', refused⟩
        cases parsedReq.symm.trans parsedReq'
        cases parsedHighest.symm.trans parsedHighest'
        exact ⟨body, rest, agentInfo, refused⟩
    · obtain ⟨events, logged, hears⟩ := receiveAgent_hears crates addr versionReq highest (w := w)
      obtain ⟨yes, no⟩ := hears.told
      refine ⟨events, logged, ?_, no⟩
      intro text
      rw [yes text, parsedHighest]
      simp only [Except.map, Except.ok.injEq, eq_comm]
  · rw [same]
    constructor
    · intro error
      constructor
      · rintro ⟨failed, mismatch⟩
        cases failed
        cases mismatch
      · rintro ⟨versionReq, highest, -, -, -, parsedReq, parsedHighest, -⟩
        exact absurd parsedHighest (unparsed versionReq highest parsedReq)
    · exact ⟨[], (List.append_nil _).symm, by simp [Act.fail], by simp [Act.fail]⟩

section agent

variable (crates : Crates) (builder : ConnectionBuilder)
  (w : Endpoint Dial Empty ConnectEvent IoError)

/-- What an agent makes of an answer. -/
def concluded (body : Bytes) : Except (Halt IoError) Unit :=
  match crates.wire.decode (.result .str) body with
  | .error error => .error (.failed error)
  | .ok (.ok _) => .ok ()
  | .ok (.error accepted) => .error (.failed (refusal accepted))

/-- All that the agent can come to, whoever the peer is. -/
inductive Introduces : Except (Halt IoError) Unit → List ConnectEvent → Prop where
  | undialed (error : IoError) (events : List ConnectEvent)
      (silent : ∀ event ∈ events, event = .opened) :
      Introduces (.error (.failed error)) events
  | unheard (halt : Halt IoError)
      (small : ((introduction builder w.state).encode crates.formats).length < Framing.frameLimit)
      (incomplete : Framing.splitFrame w.recv.bytes = none) :
      Introduces (.error halt) [.opened, .introduced (introduction builder w.state)]
  | heard (body rest : Bytes)
      (small : ((introduction builder w.state).encode crates.formats).length < Framing.frameLimit)
      (bytes : w.recv.bytes = frame body ++ rest) (fits : body.length < Framing.frameLimit) :
      Introduces (concluded crates body) [.opened, .introduced (introduction builder w.state)]

variable {w}

theorem run_conclude_ok (body : Bytes) :
    ((conclude crates.wire (.ok body)).run w).1 = concluded crates body := by
  simp only [conclude, concluded]
  rcases crates.wire.decode (.result .str) body with error | accepted | display
  · rfl
  · rfl
  · rfl

/-- A connection that is not made ends the handshake without a word. -/
theorem run_connect_unmade (unmade : ¬ w.state.Connects) :
    ∃ error, (builder.connect crates).run w = (.error (.failed error), w) := by
  obtain ⟨⟨buildEndpoint, connecting, connection, remote, openBi⟩, input, recv, send, log⟩ := w
  rcases buildEndpoint with error | ⟨⟩
  · exact ⟨_, rfl⟩
  rcases connecting with text | ⟨⟩
  · exact ⟨_, rfl⟩
  rcases connection with error | ⟨⟩
  · exact ⟨_, rfl⟩
  rcases openBi with error | ⟨⟩
  · exact ⟨_, rfl⟩
  · exact absurd ⟨rfl, rfl, rfl, rfl⟩ unmade

theorem run_connect_lost (connects : w.state.Connects) {error : IoError}
    (lost : w.send.outcome w.send.attempts
      ((introduction builder w.state).encode crates.formats) = some error) :
    ((builder.connect crates).run w).1 = .error (.failed error) ∧
      ((builder.connect crates).run w).2.log = w.log ++ [.opened] := by
  let opened := { w with log := w.log ++ [ConnectEvent.opened] }
  rw [ConnectionBuilder.connect, Act.run_bind]
  show (Act.andThen (.ok w.state, w) _).1 = _ ∧ (Act.andThen (.ok w.state, w) _).2.log = _
  simp only [Act.andThen_ok, connects.buildEndpoint, connects.connecting, connects.connection,
    connects.openBi, Act.run_bind]
  show (Act.andThen ((Act.send ((introduction builder w.state).encode crates.formats)
      (.introduced (introduction builder w.state)) : ConnectAct _).run opened) _).1 = _ ∧
    (Act.andThen ((Act.send ((introduction builder w.state).encode crates.formats)
      (.introduced (introduction builder w.state)) : ConnectAct _).run opened) _).2.log = _
  rcases Act.run_send_cases (ε := IoError) ((introduction builder w.state).encode crates.formats)
    (.introduced (introduction builder w.state)) opened with ⟨taken, -⟩ | ⟨failure, failed, sent⟩
  · rw [lost] at taken
    cases taken
  · rw [lost] at failed
    cases failed
    rw [sent]
    exact ⟨rfl, rfl⟩

theorem connect_introduces :
    ∃ events, ((builder.connect crates).run w).2.log = w.log ++ events ∧
      Introduces crates builder w ((builder.connect crates).run w).1 events := by
  by_cases connects : w.state.Connects
  · cases out : w.send.outcome w.send.attempts
      ((introduction builder w.state).encode crates.formats) with
    | none =>
        have small := w.send.fits _ _ out
        rw [run_connect connects out]
        cases split : Framing.splitFrame w.recv.bytes with
        | none =>
            rcases Act.run_recv_incomplete (ε := IoError) (w := introduced builder w) split with
              ⟨error, read⟩ | read
            · rw [read]
              exact ⟨_, rfl, .unheard (.failed error) small split⟩
            · rw [read]
              exact ⟨_, rfl, .unheard .pending small split⟩
        | some parts =>
            obtain ⟨body, rest⟩ := parts
            obtain ⟨bytes, fits⟩ := Framing.splitFrame_some split
            have read := Act.run_recv_frame (ε := IoError) (w := introduced builder w) bytes fits
            rw [read, Act.andThen_ok, conclude_state, run_conclude_ok]
            exact ⟨_, rfl, .heard body rest small bytes fits⟩
    | some error =>
        obtain ⟨failed, log⟩ := run_connect_lost crates builder connects out
        rw [failed, log]
        exact ⟨_, rfl, .undialed error _ fun event mem => List.mem_singleton.mp mem⟩
  · obtain ⟨error, ran⟩ := run_connect_unmade crates builder connects
    rw [ran]
    exact ⟨[], (List.append_nil _).symm,
      .undialed error [] fun _ mem => (List.not_mem_nil mem).elim⟩

end agent

/-- What either party may conclude, whatever has become of the connection. -/
structure Admission (crates : Crates) (addr : SocketAddr) (versionReq : crates.semver.VersionReq)
    (highest : crates.semver.Version) (builder : ConnectionBuilder) (agentInfo : AgentInfo)
    (manager : Except (Halt HandshakeError) AgentInfo) (agent : Except (Halt IoError) Unit)
    (answerArrived quiescent : Prop) : Prop where
  accepted : ∀ info, manager = .ok info →
    manager = managerVerdict crates addr versionReq highest agentInfo
  rejected : ∀ version accepted,
    manager = .error (.failed (.incompatibleProtocol version accepted)) →
    manager = managerVerdict crates addr versionReq highest agentInfo
  connected : agent = .ok () → manager = .ok { agentInfo with addr := addr }
  answered : answerArrived → manager = managerVerdict crates addr versionReq highest agentInfo ∧
    agent = agentVerdict crates versionReq highest builder
  moving : quiescent → manager ≠ .error .pending ∨ agent ≠ .error .pending

section admission

variable {crates : Crates} {addr : SocketAddr} {versionReqText highestText : String}
  {versionReq : crates.semver.VersionReq} {highest : crates.semver.Version}
  {builder : ConnectionBuilder} {dial : Dial} {lost : Option ConnectionError}
  {agentSend managerSend : SendStream IoError}
  {now : Duplex Dial Empty ConnectEvent IoError (Option ConnectionError) HandshakeEvent IoError}
  (reachable : Duplex.Reachable (agentHandshake crates builder)
    (managerHandshake crates addr versionReqText highestText)
    (introducing dial lost agentSend managerSend) now)

include reachable

/-- What an agent writes is its introduction, or nothing. -/
theorem agent_writes :
    (agentHandshake crates builder).output now.near = [] ∨
    (agentHandshake crates builder).output now.near =
        frame ((introduction builder dial).encode crates.formats) ∧
      ((introduction builder dial).encode crates.formats).length < Framing.frameLimit := by
  obtain ⟨near, -⟩ := reachable.frame
  have state : now.near.state = dial := by rw [near]; rfl
  have fresh : now.near.log = [] := by rw [near]; rfl
  obtain ⟨events, log, introduces⟩ := connect_introduces crates builder (w := now.near)
  have written : (agentHandshake crates builder).output now.near =
      (agentHandshake crates builder).written events := by
    show (agentHandshake crates builder).written ((builder.connect crates).run now.near).2.log = _
    rw [log, fresh, List.nil_append]
  rw [written, ← state]
  generalize ((builder.connect crates).run now.near).1 = result at introduces
  cases introduces with
  | undialed error _ silent =>
      refine .inl (List.flatMap_eq_nil_iff.mpr fun event mem => ?_)
      rw [silent event mem]
      rfl
  | unheard halt small incomplete => exact .inr ⟨List.append_nil _, small⟩
  | heard body rest small bytes fits => exact .inr ⟨List.append_nil _, small⟩

/-- What a manager hears of the agent is its introduction. -/
theorem heard_introduction {body rest : Bytes} (first : FirstFrame now.far body rest) :
    body = (introduction builder dial).encode crates.formats := by
  have arrived := (reachable.delivered rfl rfl).toFar
  rw [first.bytes] at arrived
  rcases agent_writes reachable with nothing | ⟨written, small⟩
  · rw [nothing] at arrived
    have length := congrArg List.length (List.prefix_nil.mp arrived)
    rw [List.length_append, Framing.length_frame, List.length_nil] at length
    omega
  · rw [written, ← List.append_nil (frame ((introduction builder dial).encode crates.formats))]
      at arrived
    exact (Framing.frame_prefix arrived first.fits small).1

/-- A manager has not judged the agent, or has come to its verdict, and then either answered or
failed to. -/
inductive Judges (crates : Crates) (addr : SocketAddr) (versionReqText highestText : String)
    (versionReq : crates.semver.VersionReq) (highest : crates.semver.Version)
    (agentInfo : AgentInfo)
    (far : Endpoint (Option ConnectionError) Empty HandshakeEvent IoError) : Prop where
  | unheard (unheard : ∀ body rest, ¬ FirstFrame far body rest)
      (failed : ∀ info,
        ((handshake crates addr versionReqText highestText).run far).1 ≠ .ok info)
      (unjudged : ∀ version accepted,
        ((handshake crates addr versionReqText highestText).run far).1 ≠
          .error (.failed (.incompatibleProtocol version accepted)))
      (here : ((handshake crates addr versionReqText highestText).run far).1 = .error .pending →
        far.state = none)
      (silent : (managerHandshake crates addr versionReqText highestText).output far = [])
  | answered (heard : ∃ body rest, FirstFrame far body rest)
      (small : (answerFrame crates versionReq highest agentInfo).length < Framing.frameLimit)
      (verdict : ((handshake crates addr versionReqText highestText).run far).1 =
        managerVerdict crates addr versionReq highest agentInfo)
      (written : (managerHandshake crates addr versionReqText highestText).output far =
        frame (answerFrame crates versionReq highest agentInfo))
  | unanswered (error : IoError)
      (failed : ((handshake crates addr versionReqText highestText).run far).1 =
        .error (.failed (handleHandshakeSendIoError error)))
      (silent : (managerHandshake crates addr versionReqText highestText).output far = [])

variable (parsedReq : crates.semver.parseReq versionReqText = .ok versionReq)
  (parsedHighest : crates.semver.parse highestText = .ok highest)

include parsedReq parsedHighest

theorem manager_judges :
    Judges crates addr versionReqText highestText versionReq highest (introduction builder dial)
      now.far := by
  obtain ⟨-, far⟩ := reachable.frame
  have fresh : now.far.log = [] := by rw [far]; rfl
  have same : handshake crates addr versionReqText highestText =
      receiveAgent crates addr versionReq highest := by
    simp only [handshake, parsedReq, parsedHighest]
  obtain ⟨events, log, hears⟩ := receiveAgent_hears crates addr versionReq highest (w := now.far)
  rw [← same] at log hears
  have written : (managerHandshake crates addr versionReqText highestText).output now.far =
      (managerHandshake crates addr versionReqText highestText).written events := by
    show (managerHandshake crates addr versionReqText highestText).written
      ((handshake crates addr versionReqText highestText).run now.far).2.log = _
    rw [log, fresh, List.nil_append]
  have decoded {body rest : Bytes} (first : FirstFrame now.far body rest) :
      decodeAgentInfo crates.formats body = .ok (introduction builder dial) := by
    have whole := (introduction builder dial).decode_append crates.formats []
    rw [List.append_nil, ← heard_introduction reachable first] at whole
    exact whole
  generalize outcome : ((handshake crates addr versionReqText highestText).run now.far).1 = result
    at hears
  cases hears with
  | unheard _ _ unheard failed unjudged here silent =>
      rw [← outcome] at failed unjudged here
      refine .unheard unheard failed unjudged here (written.trans ?_)
      refine List.flatMap_eq_nil_iff.mpr fun event mem => ?_
      rw [silent event mem]
      rfl
  | garbled body rest error first undecoded =>
      rw [decoded first] at undecoded
      cases undecoded
  | answered body rest agentInfo first decoded' taken =>
      rw [decoded first] at decoded'
      cases decoded'
      refine .answered ⟨body, rest, first⟩ (now.far.send.fits _ _ taken) outcome
        (written.trans ?_)
      unfold answeredLog
      split
      · exact List.append_nil _
      · exact List.append_nil _
  | unanswered body rest agentInfo error first decoded' lost =>
      exact .unanswered error outcome (written.trans rfl)

/-- A frame that reaches the agent is the manager's answer to it. -/
theorem heard_answer {body rest : Bytes} (bytes : now.near.recv.bytes = frame body ++ rest)
    (fits : body.length < Framing.frameLimit) :
    (∃ heard more, FirstFrame now.far heard more) ∧
      body = answerFrame crates versionReq highest (introduction builder dial) ∧
      ((handshake crates addr versionReqText highestText).run now.far).1 =
        managerVerdict crates addr versionReq highest (introduction builder dial) := by
  have arrived := (reachable.delivered rfl rfl).toNear
  rw [bytes] at arrived
  have nothing (silent : (managerHandshake crates addr versionReqText highestText).output now.far =
      []) : False := by
    rw [silent] at arrived
    have length := congrArg List.length (List.prefix_nil.mp arrived)
    rw [List.length_append, Framing.length_frame, List.length_nil] at length
    omega
  cases manager_judges reachable parsedReq parsedHighest with
  | unheard _ _ _ _ silent => exact (nothing silent).elim
  | unanswered error _ silent => exact (nothing silent).elim
  | answered heard small verdict written =>
      rw [written, ← List.append_nil (frame (answerFrame _ _ _ _))] at arrived
      exact ⟨heard, (Framing.frame_prefix arrived fits small).1, verdict⟩

/-- The agent takes the frame that reaches it for an answer. -/
theorem agent_concludes {body rest : Bytes} (bytes : now.near.recv.bytes = frame body ++ rest)
    (fits : body.length < Framing.frameLimit) :
    ((builder.connect crates).run now.near).1 = concluded crates body := by
  obtain ⟨near, -⟩ := reachable.frame
  have fresh : now.near.log = [] := by rw [near]; rfl
  obtain ⟨events, log, introduces⟩ := connect_introduces crates builder (w := now.near)
  generalize ((builder.connect crates).run now.near).1 = result at introduces
  cases introduces with
  | undialed error _ silent =>
      -- then the manager has heard nothing to answer
      obtain ⟨⟨heard, more, first⟩, -⟩ :=
        heard_answer reachable parsedReq parsedHighest bytes fits
      have arrived := (reachable.delivered rfl rfl).toFar
      have nothing : (agentHandshake crates builder).output now.near = [] := by
        show (agentHandshake crates builder).written ((builder.connect crates).run now.near).2.log =
          _
        rw [log, fresh, List.nil_append]
        refine List.flatMap_eq_nil_iff.mpr fun event mem => ?_
        rw [silent event mem]
        rfl
      rw [first.bytes, nothing] at arrived
      have length := congrArg List.length (List.prefix_nil.mp arrived)
      rw [List.length_append, Framing.length_frame, List.length_nil] at length
      omega
  | unheard halt small incomplete =>
      rw [bytes, Framing.splitFrame_frame _ _ fits] at incomplete
      cases incomplete
  | heard found more small found_bytes found_fits =>
      rw [bytes] at found_bytes
      have both := congrArg Framing.splitFrame found_bytes
      rw [Framing.splitFrame_frame _ _ fits, Framing.splitFrame_frame _ _ found_fits] at both
      cases both
      rfl

end admission

/-- The manager's answer, read back, is the agent's verdict. -/
theorem concluded_answer {crates : Crates} {versionReq : crates.semver.VersionReq}
    {highest : crates.semver.Version} {builder : ConnectionBuilder} {dial : Dial}
    (lawful : ∀ result, crates.wire.RoundTrips (.result .str) result) :
    concluded crates (answerFrame crates versionReq highest (introduction builder dial)) =
      agentVerdict crates versionReq highest builder := by
  have decoded := lawful (crates.semver.answer versionReq highest builder.protocolVersion)
  unfold Wire.RoundTrips at decoded
  have same : answerFrame crates versionReq highest (introduction builder dial) =
      crates.wire.encode (.result .str)
        (crates.semver.answer versionReq highest builder.protocolVersion) := rfl
  simp only [concluded, same, decoded, agentVerdict]
  unfold Semver.answer
  by_cases admitted : crates.semver.admits versionReq highest builder.protocolVersion
  · rw [if_pos admitted, if_pos admitted]
  · rw [if_neg admitted, if_neg admitted]

/-- Whatever the transport does to either of them, the two parties never fall out: an agent that
connects was let in by the manager, under the description that it gave of itself; an agent that
a manager refuses never connects; an answer that arrives is the manager's verdict, and makes it
the agent's; and the two never wait for each other. -/
theorem admission_safe (crates : Crates)
    (lawful : ∀ result, crates.wire.RoundTrips (.result .str) result) (addr : SocketAddr)
    (versionReqText highestText : String) (versionReq : crates.semver.VersionReq)
    (highest : crates.semver.Version) (builder : ConnectionBuilder) (dial : Dial)
    (lost : Option ConnectionError) (agentSend managerSend : SendStream IoError)
    (now : Duplex Dial Empty ConnectEvent IoError (Option ConnectionError) HandshakeEvent IoError)
    (parsedReq : crates.semver.parseReq versionReqText = .ok versionReq)
    (parsedHighest : crates.semver.parse highestText = .ok highest)
    (reachable : Duplex.Reachable (agentHandshake crates builder)
      (managerHandshake crates addr versionReqText highestText)
      (introducing dial lost agentSend managerSend) now) :
    Admission crates addr versionReq highest builder (introduction builder dial)
      ((handshake crates addr versionReqText highestText).run now.far).1
      ((builder.connect crates).run now.near).1 (Framing.splitFrame now.near.recv.bytes ≠ none)
      (Duplex.Quiescent (agentHandshake crates builder)
        (managerHandshake crates addr versionReqText highestText) now) := by
  have judges := manager_judges reachable parsedReq parsedHighest
  have concludes {body rest : Bytes} (bytes : now.near.recv.bytes = frame body ++ rest)
      (fits : body.length < Framing.frameLimit) :
      ((handshake crates addr versionReqText highestText).run now.far).1 =
          managerVerdict crates addr versionReq highest (introduction builder dial) ∧
        ((builder.connect crates).run now.near).1 =
          agentVerdict crates versionReq highest builder := by
    obtain ⟨-, rfl, verdict⟩ := heard_answer reachable parsedReq parsedHighest bytes fits
    exact ⟨verdict, (agent_concludes reachable parsedReq parsedHighest bytes fits).trans
      (concluded_answer lawful)⟩
  obtain ⟨near, -⟩ := reachable.frame
  have state : now.near.state = dial := by rw [near]; rfl
  have fresh : now.near.log = [] := by rw [near]; rfl
  obtain ⟨events, log, introduces⟩ := connect_introduces crates builder (w := now.near)
  refine ⟨?_, ?_, ?_, ?_, ?_⟩
  · intro info accepted
    cases judges with
    | unheard _ failed _ _ _ => exact absurd accepted (failed info)
    | answered _ _ verdict _ => exact verdict
    | unanswered error failed _ => cases failed.symm.trans accepted
  · intro version range refused
    cases judges with
    | unheard _ _ unjudged _ _ => exact absurd refused (unjudged version range)
    | answered _ _ verdict _ => exact verdict
    | unanswered error failed _ =>
        have same := failed.symm.trans refused
        simp only [Except.error.injEq, Halt.failed.injEq] at same
        exact absurd same (sendIoError_ne error version range)
  · intro connected
    rw [connected] at introduces
    generalize outcome : (Except.ok () : Except (Halt IoError) Unit) = result at introduces
    cases introduces with
    | undialed => cases outcome
    | unheard => cases outcome
    | heard body rest small bytes fits =>
        obtain ⟨verdict, agreed⟩ := concludes bytes fits
        rw [verdict]
        rw [connected] at agreed
        unfold agentVerdict at agreed
        by_cases admitted : crates.semver.admits versionReq highest builder.protocolVersion
        · exact if_pos admitted
        · rw [if_neg admitted] at agreed
          cases agreed
  · intro arrived
    obtain ⟨⟨body, rest⟩, split⟩ := Option.ne_none_iff_exists'.mp arrived
    obtain ⟨bytes, fits⟩ := Framing.splitFrame_some split
    exact concludes bytes fits
  · intro quiescent
    by_contra both
    obtain ⟨managerWaits, agentWaits⟩ := not_or.mp both
    rw [not_not] at managerWaits agentWaits
    have whole : now.far.recv.bytes = frame ((introduction builder dial).encode crates.formats) ∧
        ((introduction builder dial).encode crates.formats).length < Framing.frameLimit := by
      rw [agentWaits] at introduces
      generalize outcome : (Except.error .pending : Except (Halt IoError) Unit) = result
        at introduces
      cases introduces with
      | undialed => cases outcome
      | heard body rest small bytes fits =>
          obtain ⟨-, agreed⟩ := concludes bytes fits
          rw [agentWaits] at agreed
          unfold agentVerdict at agreed
          split at agreed <;> cases agreed
      | unheard halt small incomplete =>
          refine ⟨quiescent.toFar.trans ?_, by rw [← state]; exact small⟩
          show (agentHandshake crates builder).written
            ((builder.connect crates).run now.near).2.log = _
          rw [log, fresh, List.nil_append, state]
          exact List.append_nil _
    cases judges with
    | unheard unheard _ _ here _ =>
        exact unheard _ [] ⟨here managerWaits, whole.1.trans (List.append_nil _).symm, whole.2⟩
    | answered _ _ verdict _ =>
        rw [managerWaits] at verdict
        unfold managerVerdict at verdict
        split at verdict <;> cases verdict
    | unanswered error failed _ => cases failed.symm.trans managerWaits

/-- The introduction and its answer have arrived. -/
def sampleAdmitted :
    Duplex Dial Empty ConnectEvent IoError (Option ConnectionError) HandshakeEvent IoError :=
  ((introducing sampleDial none (.healthy (.simple .invalidInput))
    (.healthy (.simple .invalidInput))).deliverFar
      (agentHandshake sampleCrates sampleBuilder)).deliverNear
    (managerHandshake sampleCrates ⟨.v4 1, 2⟩ ">=0.48.0" "0.49.0")

theorem admission_safe_sample :
    ((handshake sampleCrates ⟨.v4 1, 2⟩ ">=0.48.0" "0.49.0").run sampleAdmitted.far).1 =
      .ok { introduction sampleBuilder sampleDial with addr := ⟨.v4 1, 2⟩ } := by
  have parsedReq : semverCrate.parseReq ">=0.48.0" =
      .ok ⟨[⟨.greaterEq, 0, some 48, some 0, .empty, nofun, nofun, nofun⟩]⟩ := by
    decide +kernel
  have parsedHighest : semverCrate.parse "0.49.0" = .ok ⟨0, 49, 0, .empty, .empty⟩ := by
    decide +kernel
  have start : Duplex.Delivered (agentHandshake sampleCrates sampleBuilder)
      (managerHandshake sampleCrates ⟨.v4 1, 2⟩ ">=0.48.0" "0.49.0")
      (introducing sampleDial none (.healthy (.simple .invalidInput))
        (.healthy (.simple .invalidInput))) :=
    Duplex.Reachable.delivered .refl rfl rfl
  have introduces := start.step_deliverFar rfl
  have answers := (start.step introduces).step_deliverNear rfl
  have connects : ((sampleBuilder.connect sampleCrates).run sampleAdmitted.near).1 = .ok () := by
    decide +kernel
  exact (admission_safe sampleCrates (fun result => Encoding.bincode_roundTrips rfl result)
    ⟨.v4 1, 2⟩ _ _ _ _ sampleBuilder sampleDial none _ _ sampleAdmitted parsedReq parsedHighest
    ((Relation.ReflTransGen.single introduces).tail answers)).connected connects

end ReviewProtocol
