import Crabnet.NoiseServer

/-! What each operation of the server's provider can do, one relation or one rule
per operation: the answer, the contexts it leaves, and the library calls it made. -/
namespace Crabnet.NoiseServerOutcomes
open MachineWord SessionTypes Fallible HashTable CryptoBoundary NoiseProfile SnowBoundary NoiseServer
open NoiseServer.ServerProvider

/- What local calls into the library always give, on a session that the server
itself builds: only reading what came from the network may fail. -/
structure LocalOperations (S : Snow) (localPrivate : Bytes) : Prop where
  parses : ∃ params, S.parse noiseProtocolName = some params
  builds : ∀ params prologue, S.parse noiseProtocolName = some params →
    ∃ state, S.buildResponder params localPrivate prologue = some state
  answers : ∀ params prologue start payload plain state entropy record,
    S.parse noiseProtocolName = some params → S.buildResponder params localPrivate prologue = some start →
    S.readMessage start payload = (some plain, state) → record.length = controlRecordLength →
    ∃ out next, S.writeMessage state entropy record = some (out, next) ∧
      out.length = serverHelloPayloadLength ∧ (S.getHandshakeHash next).length = 32 ∧
      ∃ transport, S.intoStatelessTransportMode next = some transport
  seals : ∀ transport record, record.length = controlRecordLength →
    ∃ out, S.transportWrite transport 0 record = some out ∧ out.length = serverFinishPayloadLength

section
variable {S : Snow} {p : ServerProvider S} {α : Type}

def Matches (p : ServerProvider S) (id : CandidateId) (attempt : ClientAttemptId) : Prop :=
  ∀ expected, p.candidateAttempt id = some expected → expected = attempt

theorem checkedRule {op id attempt} {Q : Unit → ServerProvider S → Prop}
    {E : CryptoStateError → ServerProvider S → Prop} (open_ : p.phase ≠ .closed) (fits : Matches p id attempt)
    (post : Q () p) : Action.wp (checked op id attempt) Q E p := by
  have passed : p.check op id attempt = .ok () := by
    unfold ServerProvider.check
    rw [if_neg open_]
    cases found : p.candidateAttempt id with
    | none => rfl
    | some expected => simp [fits expected found]
  simp only [checked, Action.wpBind, Action.wpRead, Action.wpOfExcept, passed]
  exact post

theorem matchesPending {id attempt context} (found : p.candidates.get id = some (.pending context))
    (same : context.attempt = attempt) : Matches p id attempt := by
  intro expected known
  simp only [candidateAttempt, found, Option.map_some, CandidateContext.attempt, Option.some.injEq] at known
  exact known.symm.trans same

theorem matchesAbsent {id attempt} (absent : p.candidates.get id = none) : Matches p id attempt := by
  intro expected known
  simp [candidateAttempt, absent] at known

/- Where the transport of an admitted candidate came from: the responder for the
prologue of its attempt read the hello, named the client and answered it. -/
structure Derived (localPrivate : Bytes) (attempt : ClientAttemptId) (payload remote : Bytes)
    (out : FixedBytes serverHelloPayloadLength) (hash : FixedBytes 32) (transport : S.TransportState) : Prop where
  handshake : ∃ params prologue start plain state entropy record next, S.parse noiseProtocolName = some params ∧
    buildPrologue attempt = .ok prologue ∧ S.buildResponder params localPrivate prologue = some start ∧
    S.readMessage start payload = (some plain, state) ∧ S.getRemoteStatic state = some remote ∧
    encodeControl .serverHello attempt = .ok record ∧ S.writeMessage state entropy record = some (out.toList, next) ∧
    S.getHandshakeHash next = hash.toList ∧ S.intoStatelessTransportMode next = some transport

inductive FreshHello (p : ServerProvider S) (id : CandidateId) (attempt : ClientAttemptId) (payload : Bytes) :
    Except CryptoStateError (CryptoOutcome (PreparedServerHello Bytes)) → ServerProvider S → Prop
  | broken (drawn) (cause : LocalOperations S p.localPrivateKey → payload.length = clientHelloPayloadLength →
      attempt.value ≠ 0 → False) :
    FreshHello p id attempt payload (.error (ServerProvider.fail .prepareServerHello)) {p with drawn := drawn}
  | rejected (reason) : FreshHello p id attempt payload (.ok (failure id attempt reason)) p
  | welcomed (transport hash remote out prologue) (built : buildPrologue attempt = .ok prologue)
      (allowed : remote ∈ p.allowedClientKeys)
      (derived : Derived p.localPrivateKey attempt payload remote out hash transport) :
    FreshHello p id attempt payload (.ok (.success ⟨id, attempt, out.toList⟩))
      (ServerProvider.admitting {p with drawn := p.drawn + 1} id
        (pendingOf attempt ⟨transport, p.history.opened.length⟩ hash remote payload out)
        ⟨prologue, p.localPrivateKey, remote, payload, out.toList, hash⟩)

theorem welcomeAnswered {attempt payload params prologue start plain state entropy record}
    (parsed : S.parse noiseProtocolName = some params)
    (started : S.buildResponder params p.localPrivateKey prologue = some start)
    (read : S.readMessage start payload = (some plain, state)) (recorded : encodeControl .serverHello attempt = .ok record)
    (reliable : LocalOperations S p.localPrivateKey) (nonzero : attempt.value ≠ 0) :
    ∃ out next, S.writeMessage state entropy record = some (out, next) ∧ out.length = serverHelloPayloadLength ∧
      (S.getHandshakeHash next).length = 32 ∧ ∃ transport, S.intoStatelessTransportMode next = some transport := by
  obtain ⟨other, encoded, length⟩ := @controlEncoded attempt .serverHello nonzero rfl
  cases Except.ok.inj (recorded.symm.trans encoded)
  exact reliable.answers params prologue start payload plain state _ record parsed started read length

theorem welcomeSpec {id attempt payload params prologue start plain state remote}
    (built : buildPrologue attempt = .ok prologue) (allowed : remote ∈ p.allowedClientKeys)
    (parsed : S.parse noiseProtocolName = some params)
    (started : S.buildResponder params p.localPrivateKey prologue = some start)
    (read : S.readMessage start payload = (some plain, state)) (known : S.getRemoteStatic state = some remote) :
    Action.wp (welcome id attempt payload prologue remote state)
      (fun r t => FreshHello p id attempt payload (.ok r) t)
      (fun e t => FreshHello p id attempt payload (.error e) t) p := by
  simp only [welcome, Action.wpBind, Action.wpOfOption, draw, Action.wpTotal, Action.wpModify, Action.wpPure]
  cases recorded : encodeControl .serverHello attempt with
  | error e =>
    refine .broken p.drawn fun _ _ nonzero => ?_
    obtain ⟨record, encoded, _⟩ := @controlEncoded attempt .serverHello nonzero rfl
    rw [recorded] at encoded
    contradiction
  | ok record =>
    simp only [Except.toOption]
    cases written : S.writeMessage state (p.rng p.drawn) record with
    | none =>
      refine .broken (p.drawn + 1) fun reliable _ nonzero => ?_
      obtain ⟨out, next, done, _⟩ := welcomeAnswered parsed started read recorded reliable nonzero
      rw [written] at done
      contradiction
    | some result =>
      obtain ⟨raw, next⟩ := result
      have facts (reliable : LocalOperations S p.localPrivateKey) (nonzero : attempt.value ≠ 0) :
          raw.length = serverHelloPayloadLength ∧ (S.getHandshakeHash next).length = 32 ∧
          ∃ transport, S.intoStatelessTransportMode next = some transport := by
        obtain ⟨out, last, done, rest⟩ := welcomeAnswered parsed started read recorded reliable nonzero
        rw [written] at done
        cases Option.some.inj done
        exact rest
      simp only
      cases sized : FixedBytes.ofList? serverHelloPayloadLength raw with
      | none =>
        refine .broken (p.drawn + 1) fun reliable _ nonzero => ?_
        simp [FixedBytes.ofList?, (facts reliable nonzero).1] at sized
      | some out =>
        cases hashed : FixedBytes.ofList? 32 (S.getHandshakeHash next) with
        | none =>
          refine .broken (p.drawn + 1) fun reliable _ nonzero => ?_
          simp [FixedBytes.ofList?, (facts reliable nonzero).2.1] at hashed
        | some hash =>
          cases made : S.intoStatelessTransportMode next with
          | none =>
            refine .broken (p.drawn + 1) fun reliable _ nonzero => ?_
            obtain ⟨transport, found⟩ := (facts reliable nonzero).2.2
            rw [made] at found
            contradiction
          | some transport =>
            refine .welcomed transport hash remote out prologue built allowed ⟨params, prologue, start, plain, state,
              p.rng p.drawn, record, next, parsed, built, started, read, known, recorded, ?_, ?_, made⟩
            · rw [FixedBytes.ofListSome sized]
              exact written
            · exact (FixedBytes.ofListSome hashed).symm

theorem openHelloSpec (id attempt payload) :
    Action.wp (openHello id attempt payload)
      (fun r t => FreshHello p id attempt payload (.ok r) t)
      (fun e t => FreshHello p id attempt payload (.error e) t) p := by
  simp only [openHello, Action.wpIte, Action.wpFail, Action.wpBind, Action.wpOfOption, Action.wpRead]
  refine ⟨fun misfit => .broken p.drawn fun _ sized _ => misfit sized, fun _ => ?_⟩
  cases parsed : S.parse noiseProtocolName with
  | none =>
    refine .broken p.drawn fun reliable _ _ => ?_
    obtain ⟨params, found⟩ := reliable.parses
    rw [parsed] at found
    contradiction
  | some params =>
    cases built : buildPrologue attempt with
    | error e =>
      refine .broken p.drawn fun _ _ nonzero => ?_
      obtain ⟨prologue, found⟩ := prologueBuilt nonzero
      rw [built] at found
      contradiction
    | ok prologue =>
      simp only [Except.toOption]
      cases started : S.buildResponder params p.localPrivateKey prologue with
      | none =>
        refine .broken p.drawn fun reliable _ _ => ?_
        obtain ⟨state, found⟩ := reliable.builds params prologue parsed
        rw [started] at found
        contradiction
      | some start =>
        simp only
        rcases read : S.readMessage start payload with ⟨result, state⟩
        cases opened : fitted clientHelloPayloadLength result with
        | none => exact .rejected .invalidProof
        | some plain =>
          simp only [Action.wpIte, Action.wpPure]
          refine ⟨fun _ => .rejected .invalidProof, fun _ => ?_⟩
          cases known : S.getRemoteStatic state with
          | none => exact .rejected .identityMismatch
          | some remote =>
            simp only [Action.wpIte, Action.wpPure]
            refine ⟨fun _ => .rejected .identityMismatch, fun listed => ?_⟩
            rw [not_not] at listed
            rw [(fittedSome opened).1] at read
            exact welcomeSpec built listed parsed started read known

theorem freshHelloSpec {id} (attempt payload) (running : p.phase = .running)
    (fresh : p.candidates.get id = none) :
    Action.wp (prepareServerHello id attempt payload)
      (fun r t => FreshHello p id attempt payload (.ok r) t)
      (fun e t => FreshHello p id attempt payload (.error e) t) p := by
  simp only [prepareServerHello, Action.wpBind]
  refine checkedRule (by simp [running]) (matchesAbsent fresh) ?_
  simp only [Action.wpRead, running, ne_eq, not_true_eq_false, if_false, fresh]
  exact openHelloSpec id attempt payload

theorem repeatedHelloRule {id attempt payload context}
    {Q : CryptoOutcome (PreparedServerHello Bytes) → ServerProvider S → Prop}
    {E : CryptoStateError → ServerProvider S → Prop} (running : p.phase = .running)
    (found : p.candidates.get id = some (.pending context)) (same : context.attempt = attempt)
    (repeated : context.clientHello = payload → Q (.success ⟨id, attempt, context.serverHello.toList⟩) p)
    (conflicting : context.clientHello ≠ payload → Q (failure id attempt .transcriptMismatch) p) :
    Action.wp (prepareServerHello id attempt payload) Q E p := by
  simp only [prepareServerHello, Action.wpBind]
  refine checkedRule (by simp [running]) (matchesPending found same) ?_
  simp only [Action.wpRead, running, ne_eq, not_true_eq_false, if_false, found, same]
  simp only [Action.wpIte, Action.wpPure]
  exact ⟨repeated, conflicting⟩

def opening (p : ServerProvider S) (context : PendingContext S) (payload : Bytes) : ServerProvider S :=
  let read := context.transport.read 0 payload clientFinishPayloadLength
  {p with history := p.history.read_ context.transport.handle ⟨0, payload, read⟩}

def sealing (p : ServerProvider S) (context : PendingContext S) (record : Bytes) : ServerProvider S :=
  let written := context.transport.write 0 record serverFinishPayloadLength
  {p with history := p.history.wrote context.transport.handle ⟨0, record, written⟩}

inductive FinishAnswer (p : ServerProvider S) (id : CandidateId) (context : PendingContext S) (payload : Bytes) :
    Except CryptoStateError (CryptoOutcome AuthenticatedClientFinish) → ServerProvider S → Prop
  | misfit (sized : payload.length ≠ clientFinishPayloadLength) :
    FinishAnswer p id context payload (.error (ServerProvider.fail .authenticateClientFinish)) p
  | unread (sized : payload.length = clientFinishPayloadLength)
      (refused : context.transport.read 0 payload clientFinishPayloadLength = none) :
    FinishAnswer p id context payload (.error (ServerProvider.fail .authenticateClientFinish))
      (opening p context payload)
  | unconfirmed (plain) (opens : context.transport.read 0 payload clientFinishPayloadLength = some plain) :
    FinishAnswer p id context payload (.ok (failure id context.attempt .invalidConfirmation))
      (opening p context payload)
  | unwritten (plain record) (opens : context.transport.read 0 payload clientFinishPayloadLength = some plain)
      (recorded : encodeControl .serverFinish context.attempt = .ok record)
      (short : ∀ out : FixedBytes serverFinishPayloadLength,
        context.transport.write 0 record serverFinishPayloadLength ≠ some out.toList) :
    FinishAnswer p id context payload (.error (ServerProvider.fail .authenticateClientFinish))
      (sealing (opening p context payload) context record)
  | confirmed (plain record out)
      (opens : context.transport.read 0 payload clientFinishPayloadLength = some plain)
      (recorded : encodeControl .serverFinish context.attempt = .ok record)
      (written : context.transport.write 0 record serverFinishPayloadLength = some out.toList) :
    FinishAnswer p id context payload (.ok (.success ⟨id, context.attempt, context.metadata⟩))
      ((sealing (opening p context payload) context record).confirming id context payload out)

theorem confirmSpec {id context payload plain}
    (opens : context.transport.read 0 payload clientFinishPayloadLength = some plain)
    (nonzero : context.attempt.value ≠ 0) :
    Action.wp (confirm id context.attempt context payload)
      (fun r t => FinishAnswer p id context payload (.ok r) t)
      (fun e t => FinishAnswer p id context payload (.error e) t) (opening p context payload) := by
  obtain ⟨record, recorded, _⟩ := @controlEncoded context.attempt .serverFinish nonzero rfl
  simp only [confirm, Action.wpBind, Action.wpOfOption, recorded, Except.toOption, noteWrite, Action.wpModify,
    Action.wpPure]
  cases written : context.transport.write 0 record serverFinishPayloadLength with
  | none =>
    have short := @FinishAnswer.unwritten _ p id _ _ plain record opens recorded (by simp [written])
    simpa only [sealing, written] using short
  | some raw =>
    simp only
    cases sized : FixedBytes.ofList? serverFinishPayloadLength raw with
    | none =>
      have short := @FinishAnswer.unwritten _ p id _ _ plain record opens recorded (by
        intro out same
        cases Option.some.inj (written.symm.trans same)
        simp [FixedBytes.ofList?, out.sized] at sized)
      simpa only [sealing, written] using short
    | some out =>
      cases FixedBytes.ofListSome sized
      have done := @FinishAnswer.confirmed _ p id _ _ plain record out opens recorded written
      simpa only [sealing, written] using done

theorem finishAnswerSpec {id context} (payload) (running : p.phase = .running)
    (found : p.candidates.get id = some (.pending context)) (uncached : context.clientFinish = none) :
    Action.wp (authenticateClientFinish id context.attempt payload)
      (fun r t => FinishAnswer p id context payload (.ok r) t)
      (fun e t => FinishAnswer p id context payload (.error e) t) p := by
  simp only [authenticateClientFinish, Action.wpBind]
  refine checkedRule (by simp [running]) (matchesPending found rfl) ?_
  simp only [Action.wpRead, found, ne_eq, not_true_eq_false, if_false, uncached, openFinish, Action.wpIte,
    Action.wpFail, Action.wpBind, noteRead, Action.wpModify, Action.wpOfOption]
  refine ⟨fun sized => .misfit sized, fun sized => ?_⟩
  rw [not_not] at sized
  cases opens : context.transport.read 0 payload clientFinishPayloadLength with
  | none =>
    have refused := @FinishAnswer.unread _ p id _ _ sized opens
    simpa only [opening, opens] using refused
  | some plain =>
    have post : (if plain.length ≠ 16 ∨ controlValid plain .clientFinish context.attempt = false then
        Action.wp (pure (failure id context.attempt .invalidConfirmation))
          (fun r t => FinishAnswer p id context payload (.ok r) t)
          (fun e t => FinishAnswer p id context payload (.error e) t) (opening p context payload)
      else Action.wp (confirm id context.attempt context payload)
          (fun r t => FinishAnswer p id context payload (.ok r) t)
          (fun e t => FinishAnswer p id context payload (.error e) t) (opening p context payload)) := by
      split
      · exact .unconfirmed plain opens
      · rename_i valid
        rw [not_or, Bool.not_eq_false] at valid
        exact confirmSpec opens (validNonzero valid.2)
    simp only [opening, opens] at post
    simp only
    split at post
    · rename_i invalid
      exact ⟨fun _ => post, fun valid => absurd invalid valid⟩
    · rename_i valid
      exact ⟨fun invalid => absurd invalid valid, fun _ => post⟩

theorem absentFinishRule {id attempt payload} {Q : CryptoOutcome AuthenticatedClientFinish → ServerProvider S → Prop}
    {E : CryptoStateError → ServerProvider S → Prop} (open_ : p.phase ≠ .closed)
    (absent : p.candidates.get id = none) (post : E (.missingServerCandidateContext id attempt) p) :
    Action.wp (authenticateClientFinish id attempt payload) Q E p := by
  simp only [authenticateClientFinish, Action.wpBind]
  refine checkedRule open_ (matchesAbsent absent) ?_
  simp only [Action.wpRead, absent, Action.wpFail]
  exact post

theorem commitRule {id context payload out} {Q : Unit → ServerProvider S → Prop}
    {E : CryptoStateError → ServerProvider S → Prop}
    (post : Q () (p.committing id ⟨context.attempt, context.transport, context.metadata, out⟩)) :
    Action.wp (commitSession id context.attempt context.metadata) Q E (p.confirming id context payload out) := by
  simp only [commitSession, ServerProvider.confirming, Action.wpBind, Action.wpRead, ne_eq, not_true_eq_false,
    if_false, Action.wpModify, HashMap.getInsert, if_true]
  exact post

theorem preparedFinish {id context} :
    prepareServerFinish id context.attempt context.metadata.sessionId (p.committing id context) =
      .ok ⟨id, context.attempt, context.metadata.sessionId, context.serverFinish.toList⟩ := by
  simp [prepareServerFinish, ServerProvider.committing]

def dropping (p : ServerProvider S) (ids : List CandidateId) : ServerProvider S :=
  {p with candidates := p.candidates.removeAll ids}

theorem removeRule {id attempt context} {Q : ServerCandidateRemoval → ServerProvider S → Prop}
    {E : CryptoStateError → ServerProvider S → Prop} (open_ : p.phase ≠ .closed) (uncommitted : p.pendingCommit = none)
    (found : p.candidates.get id = some context) (same : context.attempt = attempt)
    (post : Q .removed (dropping p [id])) : Action.wp (removeCandidate id attempt) Q E p := by
  have fits : Matches p id attempt := by
    intro expected known
    simp only [candidateAttempt, found, Option.map_some, Option.some.injEq] at known
    exact known.symm.trans same
  simp only [removeCandidate, Action.wpBind, Action.wpRead, open_, if_false]
  refine checkedRule open_ fits ?_
  simp only [found, Action.wpBind, Action.wpModify, Action.wpIte, Action.wpPure]
  refine ⟨fun impossible => ?_, fun _ => post⟩
  rw [uncommitted] at impossible
  contradiction

theorem absentRule {id attempt} {Q : ServerCandidateRemoval → ServerProvider S → Prop}
    {E : CryptoStateError → ServerProvider S → Prop} (open_ : p.phase ≠ .closed)
    (absent : p.candidates.get id = none) (post : Q .alreadyAbsent p) :
    Action.wp (removeCandidate id attempt) Q E p := by
  simp only [removeCandidate, Action.wpBind, Action.wpRead, open_, if_false]
  refine checkedRule open_ (matchesAbsent absent) ?_
  simp only [absent, Action.wpPure]
  exact post

@[simp] theorem getDropping (ids : List CandidateId) (id : CandidateId) :
    (dropping p ids).candidates.get id = if id ∈ ids then none else p.candidates.get id :=
  HashMap.getRemoveAll _ _ _

@[simp] theorem droppingNone : dropping p [] = p := rfl

theorem droppingMore (ids more : List CandidateId) : dropping (dropping p ids) more = dropping p (ids ++ more) := by
  simp [dropping, HashMap.removeAll]

theorem shutdownHistory (p : ServerProvider S) : p.shutdown.2.history = p.history := by
  unfold ServerProvider.shutdown
  split <;> rfl

end
end Crabnet.NoiseServerOutcomes
