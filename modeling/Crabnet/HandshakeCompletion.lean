import Crabnet.CandidateIsolation
import Crabnet.ClientRemoteInput
import Crabnet.DataPipeline

/-! A handshake whose messages arrive, message by message: what each end needs to
have of the other and of the library to take the next step, and what it then has. -/
namespace Crabnet.HandshakeCompletion
open MachineWord SessionTypes Fallible HashTable CryptoBoundary PendingManager ServerPolicy ClientPolicy ServerRegistry
open ServerOutcomes HandshakeTypes NoiseProfile SnowBoundary HandshakeCodec NoiseServer NoiseServerOutcomes NoiseClient
open HandshakeAdapter FrameExchange CoordinatorStability ServerCoupling ServerCorrespondence CandidateIsolation
open AdapterSimulation DataFrame DataSession DataPipeline
open ClientLedger (Client)

section
variable {S : Snow}

/- The second message, from a responder that has read the first one: it carries
the same hash to both ends and leaves them with a transport each. -/
def Answers (S : Snow) (serverPublic : Bytes) (initiator responder : S.HandshakeState) : Prop :=
  ∀ entropy record, record.length = controlRecordLength →
    ∃ answer responder' initiator', S.writeMessage responder entropy record = some (answer, responder') ∧
      answer.length = serverHelloPayloadLength ∧ S.readMessage initiator answer = (some record, initiator') ∧
      S.getRemoteStatic initiator' = some serverPublic ∧ (S.getHandshakeHash initiator').length = 32 ∧
      S.getHandshakeHash responder' = S.getHandshakeHash initiator' ∧
      ∃ near far, S.intoStatelessTransportMode initiator' = some near ∧
        S.intoStatelessTransportMode responder' = some far ∧ Paired near far ∧ Paired far near

/- What the library documents of its pattern: an initiator that holds the public
key of a responder is read by it, for every prologue that both are given. -/
structure Cooperative (S : Snow) (clientPrivate clientPublic serverPrivate serverPublic : Bytes) : Prop where
  parses : ∃ params, S.parse noiseProtocolName = some params
  initiates : ∀ params prologue, S.parse noiseProtocolName = some params →
    ∃ state, S.buildInitiator params clientPrivate serverPublic prologue = some state
  responds : ∀ params prologue, S.parse noiseProtocolName = some params →
    ∃ state, S.buildResponder params serverPrivate prologue = some state
  opens : ∀ params prologue initiator responder entropy record, S.parse noiseProtocolName = some params →
    S.buildInitiator params clientPrivate serverPublic prologue = some initiator →
    S.buildResponder params serverPrivate prologue = some responder → record.length = controlRecordLength →
    ∃ hello initiator' responder', S.writeMessage initiator entropy record = some (hello, initiator') ∧
      hello.length = clientHelloPayloadLength ∧ S.readMessage responder hello = (some record, responder') ∧
      S.getRemoteStatic responder' = some clientPublic ∧ Answers S serverPublic initiator' responder'

structure Greets (serverPrivate clientPublic serverPublic : Bytes) (attempt : ClientAttemptId) (hello : Bytes)
    (initiator : S.HandshakeState) : Prop where
  sized : hello.length = clientHelloPayloadLength
  nonzero : attempt.value ≠ 0
  read : ∃ params prologue responder record responder', S.parse noiseProtocolName = some params ∧
    buildPrologue attempt = .ok prologue ∧ S.buildResponder params serverPrivate prologue = some responder ∧
    encodeControl .clientHello attempt = .ok record ∧ S.readMessage responder hello = (some record, responder') ∧
    S.getRemoteStatic responder' = some clientPublic ∧ Answers S serverPublic initiator responder'

variable {clientPrivate clientPublic serverPrivate serverPublic : Bytes}

structure Greeted (c : Client S) (serverAddr : SocketAddr) (serverPublic : Bytes) (timeout : Duration)
    (attempt : ClientAttemptId) (deadline : Instant) (initiator : S.HandshakeState) : Prop where
  endpoint : c.policy.serverEndpoint = serverAddr
  timeout : c.policy.handshakeTimeout = timeout
  state : ∃ startedAt, c.policy.state = .awaitingServerHello attempt startedAt deadline
  phase : c.crypto.phase = .awaitingServerHello
  pinned : c.crypto.pinnedServerStaticPublic = serverPublic
  context : ∃ hello, c.crypto.context = some (.hello attempt initiator hello)

theorem startGreets (able : Cooperative S clientPrivate clientPublic serverPrivate serverPublic) (p : ClientProvider S)
    (idle : p.phase = .idle) (own : p.localPrivateKey = clientPrivate) (pin : p.pinnedServerStaticPublic = serverPublic)
    {attempt : ClientAttemptId} (nonzero : attempt.value ≠ 0) :
    ∃ hello initiator, Greets (S := S) serverPrivate clientPublic serverPublic attempt hello.toList initiator ∧
      ClientProvider.startAttempt attempt p = (.ok ⟨attempt, hello.toList⟩, {p with
        drawn := p.drawn + 1
        context := some (.hello attempt initiator hello)
        phase := .awaitingServerHello}) := by
  obtain ⟨params, parsed⟩ := able.parses
  obtain ⟨prologue, built⟩ := prologueBuilt nonzero
  obtain ⟨initiator, begun⟩ := able.initiates params prologue parsed
  obtain ⟨responder, waiting⟩ := able.responds params prologue parsed
  obtain ⟨record, recorded, size⟩ := @controlEncoded attempt .clientHello nonzero rfl
  obtain ⟨raw, initiator', responder', written, length, read, known, answers⟩ :=
    able.opens params prologue initiator responder (p.rng p.drawn) record parsed begun waiting size
  refine ⟨⟨raw, length⟩, initiator', ⟨length, nonzero, params, prologue, responder, record, responder', parsed, built,
    waiting, recorded, read, known, answers⟩, ?_⟩
  refine Action.wpOutcome (R := fun outcome => outcome = _) ?_
  simp only [ClientProvider.startAttempt, Action.wpBind, Action.wpRead, idle, reduceCtorEq, if_false, ne_eq,
    not_true_eq_false, Action.wpOfOption, parsed, built, Except.toOption, own, pin, begun, recorded, ClientProvider.draw,
    Action.wpTotal, written, ClientProvider.setContext, Action.wpModify, Action.wpPure]
  simp [FixedBytes.ofList?, length]

theorem wpRan {σ ε α : Type} {x : Action σ ε α} {a : α} {s t : σ} (ran : x s = (.ok a, t)) {Q E} :
    Action.wp x Q E s ↔ Q a t := by
  simp only [Action.wp, ran]

theorem wpEnds {σ ε α : Type} {x : Action σ ε α} {a : α} {s : σ} {P : σ → Prop}
    (done : Action.wp x (fun b t => b = a ∧ P t) (fun _ _ => False) s) : ∃ t, x s = (.ok a, t) ∧ P t := by
  rcases ran : x s with ⟨_ | b, t⟩
  · exact (Action.wpError done ran).elim
  · obtain ⟨rfl, holds⟩ := Action.wpOk done ran
    exact ⟨t, rfl, holds⟩

theorem clientDone {x : ClientCoordinator.Step (ClientProvider S) (ClientCoordinator.Report (ClientProvider S))}
    {c : Client S} {report} {P : Client S → Prop}
    (done : Action.wp x (fun r t => r = report ∧ P t) (fun _ _ => False) c) :
    ∃ t, ClientCoordinator.closing x c = (.ok report, t) ∧ P t := by
  obtain ⟨t, ran, holds⟩ := wpEnds done
  exact ⟨t, by simp only [ClientCoordinator.closing, ran], holds⟩

theorem verifyClient {c : Client S} {Q : Unit → Client S → Prop} {E : CoordinatorPrimaryError → Client S → Prop}
    (same : c.crypto.phase = ClientCoordinator.expectedPhase c.policy.stateName) (post : Q () c) :
    Action.wp ClientCoordinator.verifyPhases Q E c := by
  have agree : ClientHandshakeCrypto.phase c.crypto = ClientCoordinator.expectedPhase c.policy.stateName := same
  simp only [Action.wp, ClientCoordinator.verifyPhases, ClientCoordinator.verifyClientPhases, agree, ne_eq,
    not_true_eq_false, if_false]
  exact post

theorem startsClient (able : Cooperative S clientPrivate clientPublic serverPrivate serverPublic)
    {serverAddr timeout now deadline rng policy} {c : Client S}
    (configured : ClientHandshake.new serverAddr timeout = .ok policy)
    (built : ClientCoordinator.build policy (ClientProvider.new clientPrivate serverPublic rng) = .ok c)
    (timely : Instant.checkedAdd now timeout = some deadline) :
    ∃ hello initiator, Greets (S := S) serverPrivate clientPublic serverPublic ⟨1⟩ hello initiator ∧
      ∃ t, ClientCoordinator.start now c = (.ok ⟨[.clientHello ⟨⟨1⟩, hello⟩], []⟩, t) ∧
        Greeted t serverAddr serverPublic timeout ⟨1⟩ deadline initiator := by
  unfold ClientHandshake.new at configured
  split at configured <;> try contradiction
  cases Except.ok.inj configured
  cases Except.ok.inj built
  obtain ⟨hello, initiator, greets, started⟩ := @startGreets S clientPrivate clientPublic serverPrivate serverPublic able
    (ClientProvider.new clientPrivate serverPublic rng) rfl rfl rfl ⟨1⟩ (by decide)
  refine ⟨hello.toList, initiator, greets, clientDone ?_⟩
  have opened : ClientHandshakeCrypto.startAttempt (C := ClientProvider S) ⟨1⟩ (.new clientPrivate serverPublic rng) = _ :=
    started
  have next : checkedAdd 1 1 = some 2 := by decide
  simp only [ClientCoordinator.begin_, ClientCoordinator.onPolicy, onCrypto, Action.wpBind,
    Action.wpMapError, Action.wpWithin, ClientHandshake.start, ClientHandshake.reserveAttemptId,
    ClientHandshake.phaseDeadline, Action.wpRead, ne_eq, not_true_eq_false, if_false, Action.wpOfExcept, timely, next,
    Action.wpModify, Action.wpPure, wpRan opened, ClientCoordinator.expectAttempt]
  exact verifyClient rfl ⟨trivial, rfl, rfl, ⟨now, rfl⟩, rfl, rfl, hello, rfl⟩

structure Welcomes (serverPublic : Bytes) (attempt : ClientAttemptId) (initiator : S.HandshakeState) (answer : Bytes)
    (hash : FixedBytes 32) (far : S.TransportState) : Prop where
  sized : answer.length = serverHelloPayloadLength
  read : ∃ record initiator' near, encodeControl .serverHello attempt = .ok record ∧
    S.readMessage initiator answer = (some record, initiator') ∧ S.getRemoteStatic initiator' = some serverPublic ∧
    S.getHandshakeHash initiator' = hash.toList ∧ S.intoStatelessTransportMode initiator' = some near ∧
    Paired near far ∧ Paired far near

theorem recordSized {kind attempt record} (recorded : encodeControl kind attempt = .ok record) :
    record.length = controlRecordLength := by
  unfold encodeControl at recorded
  split at recorded <;> try contradiction
  split at recorded <;> try contradiction
  all_goals
    cases Except.ok.inj recorded
    rfl

theorem sealsRecord {near far : Transport S} (paired : Paired near.state far.state) {kind attempt record}
    (recorded : encodeControl kind attempt = .ok record) {available} (room : available = 32) :
    ∃ out : FixedBytes 32, near.write 0 record available = some out.toList ∧
      far.read 0 out.toList available = some record := by
  have size := recordSized recorded
  obtain ⟨raw, written, length⟩ := paired.writes 0 record (by rw [size]; decide) (by decide)
  have whole : raw.length = 32 := by rw [length, size]; rfl
  refine ⟨⟨raw, whole⟩, ?_, ?_⟩
  · simp only [Transport.write, written]
    exact fittedKeeps (by omega)
  · simp only [Transport.read, paired.inverts 0 record raw written]
    refine fittedKeeps ?_
    rw [size, room]
    decide

structure Finishes (serverPublic : Bytes) (attempt : ClientAttemptId) (hash : FixedBytes 32) (far : S.TransportState)
    (near : Transport S) (finish : FixedBytes clientFinishPayloadLength) (q : ClientProvider S) : Prop where
  phase : q.phase = .awaitingServerFinish
  context : q.context = some (.finish attempt near hash (ClientProvider.identity serverPublic) finish)
  there : Paired near.state far
  back : Paired far near.state
  opens : ∃ record, encodeControl .clientFinish attempt = .ok record ∧
    ∀ handle, Transport.read ⟨far, handle⟩ 0 finish.toList clientFinishPayloadLength = some record

theorem acceptsWelcome {p : ClientProvider S} {attempt initiator hello answer hash far}
    (nonzero : attempt.value ≠ 0) (phase : p.phase = .awaitingServerHello)
    (pin : p.pinnedServerStaticPublic = serverPublic) (context : p.context = some (.hello attempt initiator hello))
    (welcomes : Welcomes (S := S) serverPublic attempt initiator answer hash far) :
    ∃ finish near q, ClientProvider.authenticateServerHello attempt answer p = (.ok (.success ⟨attempt⟩), q) ∧
      Finishes serverPublic attempt hash far near finish q := by
  obtain ⟨sized, record, initiator', made, recorded, read, known, hashed, entered, there, back⟩ := welcomes
  obtain ⟨reply, replied, _⟩ := @controlEncoded attempt .clientFinish nonzero rfl
  obtain ⟨finish, written, opens⟩ :=
    @sealsRecord S ⟨made, p.history.opened.length⟩ ⟨far, 0⟩ there _ _ _ replied clientFinishPayloadLength rfl
  refine ⟨finish, ⟨made, p.history.opened.length⟩, wpEnds ?_⟩
  have plain : fitted serverHelloPayloadLength (some record) = some record :=
    fittedKeeps (by rw [recordSized recorded]; decide)
  have valid : ¬ (record.length ≠ 16 ∨ controlValid record .serverHello attempt = false) := by
    rw [not_or, not_not, encodedValid recorded]
    exact ⟨recordSized recorded, by decide⟩
  have whole : FixedBytes.ofList? 32 hash.toList = some hash := by simp [FixedBytes.ofList?, hash.sized]
  have cut : FixedBytes.ofList? clientFinishPayloadLength finish.toList = some finish := by
    simp [FixedBytes.ofList?, finish.sized, clientFinishPayloadLength]
  simp only [ClientProvider.authenticateServerHello, Action.wpBind]
  refine ClientRemoteInput.checkedPasses (by simp [ClientProvider.id, context, Context.id]) (by simp [phase]) ?_
  simp only [Action.wpRead, phase, ne_eq, not_true_eq_false, if_false, sized, Action.wpBind, ClientProvider.takeContext,
    Action.wpModify, context, ClientProvider.openHello, read, plain, if_neg valid, known, pin, ClientProvider.accept,
    Action.wpOfOption, hashed, whole, entered, ClientProvider.openTransport, Action.wpTotal, replied, Except.toOption,
    ClientProvider.noteWrite, written, cut, ClientProvider.setContext, Action.wpPure]
  exact ⟨trivial, rfl, rfl, there, back, reply, replied, fun handle => opens⟩

structure Confirms (c : Client S) (serverAddr : SocketAddr) (deadline : Instant) (serverPublic : Bytes)
    (attempt : ClientAttemptId) (hash : FixedBytes 32) (far : S.TransportState) (near : Transport S)
    (finish : FixedBytes clientFinishPayloadLength) : Prop where
  endpoint : c.policy.serverEndpoint = serverAddr
  state : ∃ startedAt since, c.policy.state = .awaitingServerFinish attempt startedAt since deadline
  provider : Finishes serverPublic attempt hash far near finish c.crypto

theorem prechecks {h : ClientHandshake} {attempt deadline expected kind now}
    (pending : h.state.phase = some (attempt, deadline, expected)) (early : now < deadline)
    (same : ClientHandshake.inboundKind kind = expected) :
    h.precheck h.serverEndpoint attempt kind now = (.permit attempt, h) := by
  simp [ClientHandshake.precheck, pending, Nat.not_le_of_lt early, same]

theorem finishesClient {c : Client S} {serverAddr timeout attempt deadline initiator answer hash far now later}
    (nonzero : attempt.value ≠ 0) (greeted : Greeted c serverAddr serverPublic timeout attempt deadline initiator)
    (welcomes : Welcomes (S := S) serverPublic attempt initiator answer hash far) (early : now < deadline)
    (timely : Instant.checkedAdd now timeout = some later) :
    ∃ finish near t, ClientCoordinator.receiveServerHello serverAddr ⟨attempt, answer⟩ now c =
        (.ok ⟨[.clientFinish ⟨attempt, finish.toList⟩], []⟩, t) ∧
      Confirms t serverAddr later serverPublic attempt hash far near finish := by
  obtain ⟨rfl, rfl, ⟨startedAt, state⟩, phase, pin, hello, context⟩ := greeted
  obtain ⟨finish, near, q, ran, finishes⟩ := acceptsWelcome nonzero phase pin context welcomes
  refine ⟨finish, near, clientDone ?_⟩
  have permitted := @prechecks c.policy attempt deadline .serverHello .serverHello now (by rw [state]; rfl) early rfl
  have opened : ClientHandshakeCrypto.authenticateServerHello (C := ClientProvider S) attempt answer c.crypto = _ := ran
  have prepared : ClientHandshakeCrypto.prepareClientFinish (C := ClientProvider S) attempt q =
      .ok ⟨attempt, finish.toList⟩ := by
    change ClientProvider.prepareClientFinish attempt q = _
    simp [ClientProvider.prepareClientFinish, ClientProvider.check, ClientProvider.id, finishes.context, Context.id,
      finishes.phase]
  simp only [ClientCoordinator.serverHello, ClientCoordinator.askPolicy, Action.wpBind, Action.wpTotal, permitted,
    onCrypto, Action.wpMapError, Action.wpWithin, wpRan opened, ClientCoordinator.acceptServerHello,
    ClientCoordinator.expectAttempt, ne_eq, not_true_eq_false, if_false, Action.wpPure, ClientCoordinator.onPolicy,
    ClientHandshake.handleAuthenticatedServerHello, Action.wpRead, state, Nat.not_le_of_lt early,
    ClientHandshake.phaseDeadline, timely, Action.wpOfExcept, Action.wpModify]
  refine askAnswered prepared ?_
  simp only [not_true_eq_false, if_false, Action.wpPure]
  exact verifyClient finishes.phase ⟨trivial, rfl, ⟨startedAt, now, rfl⟩, finishes⟩

def clientMetadata (serverPublic : Bytes) (hash : FixedBytes 32) : EstablishedSessionMetadata :=
  ⟨ClientProvider.sid hash, ClientProvider.identity serverPublic⟩

def serverMetadata (clientPublic : Bytes) (hash : FixedBytes 32) : EstablishedSessionMetadata :=
  ⟨ServerProvider.sid hash, ServerProvider.identity clientPublic⟩

structure Proves (attempt : ClientAttemptId) (near : Transport S) (confirm : Bytes) : Prop where
  sized : confirm.length = serverFinishPayloadLength
  opens : ∃ record, encodeControl .serverFinish attempt = .ok record ∧
    near.read 0 confirm serverFinishPayloadLength = some record

theorem acceptsProof {p : ClientProvider S} {attempt hash far near finish confirm}
    (finishes : Finishes serverPublic attempt hash far near finish p) (proves : Proves attempt near confirm) :
    ∃ q, ClientProvider.authenticateServerFinish attempt confirm p =
        (.ok (.success ⟨attempt, clientMetadata serverPublic hash⟩), q) ∧ q.phase = .authenticatedPendingCommit ∧
      q.context = some (.pending attempt near (clientMetadata serverPublic hash) finish confirm) := by
  obtain ⟨sized, record, recorded, opens⟩ := proves
  have valid : ¬ (record.length ≠ 16 ∨ controlValid record .serverFinish attempt = false) := by
    rw [not_or, not_not, encodedValid recorded]
    exact ⟨recordSized recorded, by decide⟩
  refine wpEnds ?_
  simp only [ClientProvider.authenticateServerFinish, Action.wpBind]
  refine ClientRemoteInput.checkedPasses (by simp [ClientProvider.id, finishes.context, Context.id])
    (by simp [finishes.phase]) ?_
  simp only [Action.wpRead, finishes.phase, ne_eq, not_true_eq_false, if_false, sized, Action.wpBind,
    ClientProvider.takeContext, Action.wpModify, finishes.context, ClientProvider.openFinish, ClientProvider.noteRead,
    opens, if_neg valid, ClientProvider.setContext, Action.wpPure]
  exact ⟨rfl, trivial, rfl⟩

theorem commits {p : ClientProvider S} {attempt near metadata finish confirm} (phase : p.phase ≠ .closed)
    (context : p.context = some (.pending attempt near metadata finish confirm)) :
    ∃ q, ClientProvider.commitSession attempt metadata p = (.ok (), q) ∧ q.phase = .established ∧
      q.context = some (.established attempt near metadata) := by
  refine wpEnds ?_
  simp only [ClientProvider.commitSession, Action.wpBind]
  refine ClientRemoteInput.checkedPasses (by simp [ClientProvider.id, context, Context.id]) phase ?_
  simp only [Action.wpRead, ClientProvider.takeContext, Action.wpModify, context, ne_eq, not_true_eq_false, if_false,
    ClientProvider.setContext]
  exact ⟨trivial, trivial, trivial⟩

theorem establishesClient {c : Client S} {serverAddr attempt deadline hash far near finish confirm now}
    (confirms : Confirms c serverAddr deadline serverPublic attempt hash far near finish)
    (proves : Proves attempt near confirm) (early : now < deadline) :
    ∃ t, ClientCoordinator.receiveServerFinish serverAddr ⟨attempt, confirm⟩ now c =
        (.ok ⟨[], [.sessionEstablished (clientMetadata serverPublic hash)]⟩, t) ∧
      t.crypto.intoEstablishedTransport = some (near, clientMetadata serverPublic hash) := by
  obtain ⟨rfl, ⟨startedAt, since, state⟩, provider⟩ := confirms
  obtain ⟨p, read, pending, context⟩ := acceptsProof provider proves
  obtain ⟨q, committed, phase, holds⟩ := @commits S p attempt near _ _ _ (by simp [pending]) context
  refine clientDone ?_
  have permitted := @prechecks c.policy attempt deadline .serverFinish .serverFinish now (by rw [state]; rfl) early rfl
  have opened : ClientHandshakeCrypto.authenticateServerFinish (C := ClientProvider S) attempt confirm c.crypto = _ := read
  have done : ClientHandshakeCrypto.commitSession (C := ClientProvider S) attempt (clientMetadata serverPublic hash) p = _ :=
    committed
  simp only [ClientCoordinator.serverFinish, ClientCoordinator.askPolicy, Action.wpBind, Action.wpTotal, permitted,
    onCrypto, Action.wpMapError, Action.wpWithin, wpRan opened, ClientCoordinator.acceptServerFinish,
    ClientCoordinator.expectAttempt, ne_eq, not_true_eq_false, if_false, Action.wpPure, ClientCoordinator.onPolicy,
    ClientHandshake.handleAuthenticatedServerFinish, Action.wpRead, state, Nat.not_le_of_lt early, Action.wpModify,
    wpRan done]
  refine verifyClient phase ⟨trivial, ?_⟩
  simp [ClientProvider.intoEstablishedTransport, phase, holds]

structure Ready (h : ServerHandshake) (source : SocketAddr) (now deadline : Instant) : Prop where
  listening : h.state = .listening
  free : ∀ record, h.pending.pendingBySource.get source = some record → record.deadline ≤ now
  room : (h.pending.expirePending now).2.pendingCount < h.pending.policy.maximumPending
  numbered : checkedAdd h.pending.nextCandidateId 1 ≠ none
  timely : Instant.checkedAdd now h.pending.policy.handshakeTimeout = some deadline

structure Candidate (clientPublic serverPublic : Bytes) (attempt : ClientAttemptId) (initiator : S.HandshakeState)
    (answer : Bytes) (hash : FixedBytes 32) (context : PendingContext S) : Prop where
  numbered : context.attempt = attempt
  metadata : context.metadata = serverMetadata clientPublic hash
  welcomes : Welcomes (S := S) serverPublic attempt initiator answer hash context.transport.state

theorem welcomesHello {p : ServerProvider S} {id attempt hello initiator}
    (greets : Greets (S := S) serverPrivate clientPublic serverPublic attempt hello initiator)
    (own : p.localPrivateKey = serverPrivate) (allowed : clientPublic ∈ p.allowedClientKeys)
    (running : p.phase = .running) (fresh : p.candidates.get id = none) :
    ∃ answer hash context q, ServerProvider.prepareServerHello id attempt hello p =
        (.ok (.success ⟨id, attempt, answer⟩), q) ∧
      FreshHello p id attempt hello (.ok (.success ⟨id, attempt, answer⟩)) q ∧
      q.candidates.get id = some (.pending context) ∧
      Candidate clientPublic serverPublic attempt initiator answer hash context := by
  obtain ⟨sized, nonzero, params, prologue, responder, record, responder', parsed, built, waiting, recorded, read, known,
    answers⟩ := greets
  obtain ⟨reply, replied, length⟩ := @controlEncoded attempt .serverHello nonzero rfl
  obtain ⟨answer, responded, initiator', written, whole, heard, pinned, hashed, agreed, near, far, entered, made, there,
    back⟩ := answers (p.rng p.drawn) reply length
  have plain : fitted clientHelloPayloadLength (some record) = some record :=
    fittedKeeps (by rw [recordSized recorded]; decide)
  have valid : ¬ (record.length ≠ 16 ∨ controlValid record .clientHello attempt = false) := by
    rw [not_or, not_not, encodedValid recorded]
    exact ⟨recordSized recorded, by decide⟩
  have cut : FixedBytes.ofList? serverHelloPayloadLength answer = some ⟨answer, whole⟩ := by
    simp [FixedBytes.ofList?, whole]
  have digest : FixedBytes.ofList? 32 (S.getHandshakeHash responded) = some ⟨S.getHandshakeHash initiator', hashed⟩ := by
    simp [FixedBytes.ofList?, agreed, hashed]
  refine ⟨answer, ⟨S.getHandshakeHash initiator', hashed⟩, ServerProvider.pendingOf attempt
    ⟨far, p.history.opened.length⟩ ⟨S.getHandshakeHash initiator', hashed⟩ clientPublic hello ⟨answer, whole⟩, ?_⟩
  have spec := freshHelloSpec attempt hello running fresh
  obtain ⟨q, ran, found⟩ : ∃ q, ServerProvider.prepareServerHello id attempt hello p =
      (.ok (.success ⟨id, attempt, answer⟩), q) ∧ q.candidates.get id = some (.pending (ServerProvider.pendingOf attempt
        ⟨far, p.history.opened.length⟩ ⟨S.getHandshakeHash initiator', hashed⟩ clientPublic hello ⟨answer, whole⟩)) := by
    refine wpEnds ?_
    simp only [ServerProvider.prepareServerHello, Action.wpBind]
    refine NoiseServerOutcomes.checkedRule (by simp [running]) (matchesAbsent fresh) ?_
    simp only [Action.wpRead, running, ne_eq, not_true_eq_false, if_false, fresh, ServerProvider.openHello, sized,
      Action.wpBind, Action.wpOfOption, parsed, built, Except.toOption, own, waiting, read, plain, if_neg valid, known, allowed,
      ServerProvider.welcome, replied, ServerProvider.draw, Action.wpTotal, written, cut, digest, made, Action.wpModify,
      Action.wpPure]
    exact ⟨trivial, by simp [ServerProvider.admitting, HashMap.getInsert]⟩
  have welcomed : FreshHello p id attempt hello (.ok (.success ⟨id, attempt, answer⟩)) q := by
    have step := Action.wpOk spec ran
    exact step
  refine ⟨q, ran, welcomed, found, rfl, rfl, whole, reply, initiator', near, replied, heard, pinned, rfl,
    entered, there, back⟩

theorem serverDone {x : ServerCoordinator.Step (ServerProvider S) (ServerCoordinator.Report (ServerProvider S))}
    {c : Server S} {Q : ServerCoordinator.Report (ServerProvider S) → Server S → Prop}
    (done : Action.wp x Q (fun _ _ => False) c) : ∃ report t, ServerCoordinator.closing x c = (.ok report, t) ∧ Q report t := by
  rcases ran : x c with ⟨_ | report, t⟩
  · exact (Action.wpError done ran).elim
  · exact ⟨report, t, by simp only [ServerCoordinator.closing, ran], Action.wpOk done ran⟩

theorem expiredCount {h m : ServerHandshake} {now expired} (open_ : h.pending.state ≠ .closed)
    (ex : Expires h now expired m) : m.pending.pendingBySource.len = (h.pending.expirePending now).2.pendingCount := by
  refine HashMap.lenEqOfBijection Sigma.fst (fun _ _ _ _ same => same) ?_
  intro source
  have same : (h.pending.expirePending now).2.pendingBySource.get source = m.pending.pendingBySource.get source := by
    rw [ex.manager source, ← sweptSource h now source]
    simp [SessionManager.expirePending, open_, swept]
  rw [same]
  constructor
  · rintro ⟨e, member, rfl⟩
    exact ⟨e.2, (HashMap.memIter _ e).mp member⟩
  · rintro ⟨record, found⟩
    exact ⟨⟨source, record⟩, (HashMap.memIter _ ⟨source, record⟩).mpr found, rfl⟩

theorem readyAdmits {h : ServerHandshake} {source attempt now deadline} (reg : Registered h)
    (ready : Ready h source now deadline) :
    Action.wp (ServerHandshake.handleValidClientHello source attempt now)
      (fun r t => ∃ m next, Expires h now r.expired m ∧ Registered m ∧ m.state = .listening ∧
        m.pending.pendingBySource.get source = none ∧
        r.effects = [.sendServerHello source ⟨m.pending.nextCandidateId⟩ attempt .newCandidate] ∧
        t = admitted m source attempt now deadline next ∧ Registered t) (fun _ _ => False) h := by
  obtain ⟨listening, free, room, numbered, timely⟩ := ready
  obtain ⟨next, advance⟩ := Option.ne_none_iff_exists'.mp numbered
  simp only [ServerHandshake.handleValidClientHello, Action.wpBind, Action.wpRead]
  refine Action.wpMono (expireSpec reg now) ?_ (fun _ _ impossible => impossible.elim)
  rintro expired m ⟨ex, registered⟩
  have state : m.state = .listening := ex.state.trans listening
  have open_ := notClosed registered state
  have absent : m.pending.pendingBySource.get source = none := by
    rw [ex.manager]
    cases found : h.pending.pendingBySource.get source with
    | none => rfl
    | some record => simp [Option.filter, Nat.not_lt_of_le (free record found)]
  have below : m.pending.pendingBySource.len < m.pending.policy.maximumPending := by
    rw [expiredCount (notClosed reg listening) ex, ex.policy]
    exact room
  rw [← ex.policy] at timely
  rw [← ex.next] at advance
  have after := admittedRegistered registered state absent below advance attempt now deadline
  rw [state]
  simp only [SessionManager.admitSource, Action.wpBind, Action.wpMapError, Action.wpWithin, Action.wpTotal,
    expireNothing open_ (fun _ _ found => expiresEarly ex found), Action.wpRead, open_, if_false, absent,
    Nat.not_le_of_lt below, SessionManager.calculateDeadline, timely, Action.wpOfExcept,
    SessionManager.reserveCandidateId, advance, Action.wpModify, Action.wpPure, ServerHandshake.applyAdmission]
  refine verifySpec after ?_
  exact ⟨m, next, ex, registered, state, absent, rfl, rfl, after⟩

theorem welcomesClient {c : Server S} {source attempt hello initiator now deadline} (corresponds : Corresponds c)
    (own : c.crypto.localPrivateKey = serverPrivate) (allowed : clientPublic ∈ c.crypto.allowedClientKeys)
    (ready : Ready c.policy source now deadline)
    (greets : Greets (S := S) serverPrivate clientPublic serverPublic attempt hello initiator) :
    ∃ report t, ServerCoordinator.receiveClientHello source ⟨attempt, hello⟩ now c = (.ok report, t) ∧
      ∃ answer hash record context, ∃ expired : List ExpiredServerCandidate,
        report = ⟨[helloOutbound source attempt answer], expired.map expiredEvent⟩ ∧
        Holds t source record attempt context ∧ record.deadline = deadline ∧
        Candidate clientPublic serverPublic attempt initiator answer hash context := by
  refine serverDone ?_
  simp only [ServerCoordinator.hello, Action.wpBind, wpOnPolicy]
  refine Action.wpMono (readyAdmits corresponds.registered ready) ?_ (fun _ _ impossible => impossible.elim)
  rintro ⟨expired, effects⟩ _ ⟨m, next, ex, reg, listening, absent, sent, rfl, registered⟩
  cases sent
  have coupled := (coupledListening listening).mp (coupledExpired corresponds.registered corresponds.coupled ex)
  have fresh := unlistedContext coupled (nextUnlisted reg)
  refine expiryRule corresponds.registered corresponds.coupled ex ?_
  simp only [ne_eq, not_true_eq_false, or_self, if_false, ServerCoordinator.answerHello, Action.wpBind, wpOnCrypto]
  obtain ⟨answer, hash, context, q, ran, welcomed, found, candidate⟩ :=
    @welcomesHello S clientPublic serverPrivate serverPublic (dropping c.crypto (expiredIds expired))
      ⟨m.pending.nextCandidateId⟩ attempt hello initiator greets own allowed coupled.phase fresh
  have opened : ServerHandshakeCrypto.prepareServerHello (C := ServerProvider S) ⟨m.pending.nextCandidateId⟩ attempt hello
      (dropping c.crypto (expiredIds expired)) = _ := ran
  have state : (admitted m source attempt now deadline next).state = .listening := listening
  have together := (coupledListening state).mpr (coupledAdmitting coupled welcomed)
  simp only [wpRan opened, not_true_eq_false, or_self, if_false, Action.wpBind, Action.wpPure]
  refine verifyRule registered together ?_
  refine ⟨answer, hash, ⟨⟨m.pending.nextCandidateId⟩, now, deadline⟩, context, expired, rfl, ⟨?_, ?_, found⟩, rfl, candidate⟩
  · simp [admitted, HashMap.getInsert]
  · simp [admitted, HashMap.getInsert]

theorem confirmsRule {p : ServerProvider S} {id context finish plain reply} {out : FixedBytes serverFinishPayloadLength}
    {Q : CryptoOutcome AuthenticatedClientFinish → ServerProvider S → Prop} {E : CryptoStateError → ServerProvider S → Prop}
    (running : p.phase = .running) (found : p.candidates.get id = some (.pending context))
    (uncached : context.clientFinish = none) (sized : finish.length = clientFinishPayloadLength)
    (opens : context.transport.read 0 finish clientFinishPayloadLength = some plain)
    (recorded : encodeControl .clientFinish context.attempt = .ok plain)
    (replied : encodeControl .serverFinish context.attempt = .ok reply)
    (written : context.transport.write 0 reply serverFinishPayloadLength = some out.toList)
    (post : Q (.success ⟨id, context.attempt, context.metadata⟩)
      ((sealing (opening p context finish) context reply).confirming id context finish out)) :
    Action.wp (ServerProvider.authenticateClientFinish id context.attempt finish) Q E p := by
  have valid : ¬ (plain.length ≠ 16 ∨ controlValid plain .clientFinish context.attempt = false) := by
    rw [not_or, not_not, encodedValid recorded]
    exact ⟨recordSized recorded, by decide⟩
  have cut : FixedBytes.ofList? serverFinishPayloadLength out.toList = some out := by simp [FixedBytes.ofList?, out.sized]
  simp only [ServerProvider.authenticateClientFinish, Action.wpBind]
  refine NoiseServerOutcomes.checkedRule (by simp [running]) (matchesPending found rfl) ?_
  simp only [Action.wpRead, found, ne_eq, not_true_eq_false, if_false, uncached, ServerProvider.openFinish, sized,
    Action.wpBind, ServerProvider.noteRead, Action.wpModify, opens, Action.wpOfOption, if_neg valid, ServerProvider.confirm, replied,
    Except.toOption, ServerProvider.noteWrite, written, cut, Action.wpPure]
  simpa only [sealing, opening, opens, written] using post

theorem holdsListening {c : Server S} {source record attempt context} (corresponds : Corresponds c)
    (holds : Holds c source record attempt context) : c.policy.state = .listening := by
  by_contra outside
  have empty := (HashMap.lenEqZeroIff _).mp (corresponds.registered.emptyOutside outside).2 record.id
  rw [holds.entry] at empty
  contradiction

theorem establishesServer {c : Server S} {source record attempt context finish now hash initiator answer}
    {near : Transport S} (corresponds : Corresponds c) (holds : Holds c source record attempt context)
    (early : now < record.deadline)
    (candidate : Candidate clientPublic serverPublic attempt initiator answer hash context)
    (nonzero : attempt.value ≠ 0) (sized : finish.length = clientFinishPayloadLength)
    (opens : ∃ plain, encodeControl .clientFinish attempt = .ok plain ∧
      context.transport.read 0 finish clientFinishPayloadLength = some plain)
    (back : Paired context.transport.state near.state) :
    ∃ report t, ServerCoordinator.receiveClientFinish source ⟨attempt, finish⟩ now c = (.ok report, t) ∧
      ∃ confirm, ∃ expired : List ExpiredServerCandidate, Proves attempt near confirm ∧
        report = ⟨[⟨source, .serverFinish ⟨attempt, confirm⟩⟩],
          expired.map expiredEvent ++ [.sessionEstablished source (serverMetadata clientPublic hash)]⟩ ∧
        t.crypto.intoEstablishedTransport = some (context.transport, serverMetadata clientPublic hash) := by
  obtain ⟨rfl, metadata, _⟩ := candidate
  obtain ⟨plain, recorded, opens⟩ := opens
  obtain ⟨reply, replied, _⟩ := @controlEncoded context.attempt .serverFinish nonzero rfl
  obtain ⟨out, written, proved⟩ := @sealsRecord S context.transport near back _ _ _ replied serverFinishPayloadLength rfl
  have listening := holdsListening corresponds holds
  refine serverDone ?_
  simp only [ServerCoordinator.finish, Action.wpBind, wpOnPolicy]
  refine Action.wpMono (precheckSpec corresponds.registered source context.attempt now) ?_
    (fun _ _ impossible => impossible.elim)
  rintro ⟨expired, decided⟩ m ⟨ex, reg, decision⟩
  have state : m.state = .listening := ex.state.trans listening
  have kept := holdsTrimmed corresponds.registered ex holds early
  have owned : Owned m source (bindingOf record.id source context.attempt) := ⟨state, kept.entry, rfl⟩
  have coupled := (coupledListening state).mp (coupledExpired corresponds.registered corresponds.coupled ex)
  obtain ⟨held, found, _, uncached, _⟩ := listedContext coupled kept.entry
  cases CandidateContext.pending.inj (Option.some.inj (kept.context.symm.trans found))
  cases decision with
  | unavailable closed =>
    rw [state] at closed
    contradiction
  | duplicate session other _ _ | active session other _ =>
    rw [state] at other
    contradiction
  | absent _ free =>
    rw [kept.pending] at free
    contradiction
  | stale b other different =>
    cases ownedUnique reg owned other
    exact absurd rfl different
  | permitted b other same =>
    cases ownedUnique reg owned other
    refine expiryRule corresponds.registered corresponds.coupled ex ?_
    simp only [bindingOf, ServerCoordinator.answerFinish, Action.wpBind, wpOnCrypto]
    refine confirmsRule coupled.phase found uncached sized opens recorded replied written ?_
    simp only [ne_eq, not_true_eq_false, or_self, if_false, ServerCoordinator.completeFinish, Action.wpBind, wpOnPolicy]
    refine completesRule ex reg owned fun t registered established => ?_
    simp only [not_true_eq_false, if_false, ServerCoordinator.expectedFinishEffects, beq_self_eq_true, Bool.and_self,
      Bool.true_eq_false, Action.wpBind, wpOnCrypto]
    refine commitRule ?_
    simp only [ServerCoordinator.prepareFinish, Action.wpBind, Action.wpIte, Action.wpPure]
    refine askAnswered preparedFinish ?_
    refine ⟨fun wrong => by simp at wrong, fun _ => ?_⟩
    have together : Coupled t ((sealing (opening (dropping c.crypto (expiredIds expired)) context finish) context
        reply).committing record.id ⟨context.attempt, context.transport, context.metadata, out⟩) := by
      rw [coupledEstablished established]
      exact ⟨rfl, rfl, rfl, _, rfl, rfl, rfl⟩
    refine verifyRule registered together ⟨out.toList, expired, ⟨out.sized, reply, replied, proved⟩, ?_, ?_⟩
    · rw [metadata]
      rfl
    · rw [metadata]
      rfl

end
end Crabnet.HandshakeCompletion
