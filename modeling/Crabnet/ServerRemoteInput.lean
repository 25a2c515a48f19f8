import Crabnet.FrameExchange
import Crabnet.ServerCorrespondence

/-! What a datagram from the network can do to a Noise server. Every one is
answered or dropped, but for two kinds of finish that close the coordinator: one
that its candidate's transport cannot read, and one for the established session. -/
namespace Crabnet.ServerRemoteInput
open MachineWord SessionTypes Fallible HashTable CryptoBoundary PendingManager ServerPolicy ServerRegistry
open ServerOutcomes HandshakeTypes ServerCoordinator NoiseProfile SnowBoundary NoiseServer NoiseServerOutcomes
open ServerCoupling ServerCorrespondence CoordinatorStability HandshakeCodec HandshakeAdapter FrameExchange

section
variable {S : Snow} {c : Server S}

def policyLimit : CoordinatorPrimaryError → Bool
  | .serverPolicy (.pendingManager _ _ (.deadlineOverflow _)) => true
  | .serverPolicy (.pendingManager _ _ .candidateIdExhausted) => true
  | _ => false

def tolerable : Except AdapterError ServerAdapterReport → Bool
  | .ok _ => true
  | .error (.decode _) => true
  | .error (.direction _) => true
  | .error (.payloadLength _ _ _) => true
  | .error (.coordinator fatal) => policyLimit fatal.primary
  | .error (.encode _) => false

inductive FrameCall where
  | frame (source : SocketAddr) (datagram : Bytes) (now : Instant)
  | checkTimeouts (now : Instant)
  deriving DecidableEq

def advance (codec : V2HandshakeCodec) (c : Server S) : FrameCall → Server S
  | .frame source datagram now => (receiveServerFrame codec source datagram now c).2
  | .checkTimeouts now => (ServerCoordinator.checkTimeouts now c).2

def handed (codec : V2HandshakeCodec) (result : Result (ServerProvider S) × Server S) :
    Except AdapterError ServerAdapterReport × Server S := (serverReport codec result.1, result.2)

/- A datagram is dropped before the coordinator sees it, or it is one of the two
messages a client sends, of its exact length. -/
inductive Received (codec : V2HandshakeCodec) (source : SocketAddr) (datagram : Bytes) (now : Instant) (c : Server S) :
    Except AdapterError ServerAdapterReport × Server S → Prop
  | dropped (e) (harmless : tolerable (.error e) = true)
      (unfinished : ∀ body, codec.decode datagram = .ok (.clientFinish body) →
        body.opaquePayload.length ≠ clientFinishPayloadLength) :
    Received codec source datagram now c (.error e, c)
  | hello (body) (decoded : codec.decode datagram = .ok (.clientHello body))
      (sized : body.opaquePayload.length = clientHelloPayloadLength) :
    Received codec source datagram now c
      (handed codec (receiveClientHello source ⟨body.clientAttemptId, body.opaquePayload⟩ now c))
  | finish (body) (decoded : codec.decode datagram = .ok (.clientFinish body))
      (sized : body.opaquePayload.length = clientFinishPayloadLength) :
    Received codec source datagram now c
      (handed codec (receiveClientFinish source ⟨body.clientAttemptId, body.opaquePayload⟩ now c))

theorem rejectionTolerable {e} (rejection : isRemoteFrameRejection e = true) : tolerable (.error e) = true := by
  cases e <;> first | rfl | contradiction

theorem frameReceived (codec : V2HandshakeCodec) (source datagram now) (c : Server S) :
    Received codec source datagram now c (receiveServerFrame codec source datagram now c) := by
  rw [serverFrameCall]
  cases stands : serverCallOf codec source datagram now with
  | error e =>
    refine .dropped e (rejectionTolerable (serverCallRejected stands)) ?_
    intro body decoded sized
    simp [serverCallOf, decoded, classifyForServer, bodyPayload, payloadLength, sized] at stands
  | ok call =>
    rcases serverCallCases stands with ⟨body, decoded, sized, rfl⟩ | ⟨body, decoded, sized, rfl⟩
    · exact .hello body decoded sized
    · exact .finish body decoded sized

structure Serving (key : Bytes) (c : Server S) : Prop where
  corresponds : Corresponds c
  keyed : c.crypto.localPrivateKey = key

theorem stepServing {key} (serving : Serving key c) (call : ServerCall (ServerProvider S)) :
    Serving key (serverStep c call).2 :=
  ⟨stepCorresponds serving.corresponds call, (stepKeeps serving.corresponds call).own.trans serving.keyed⟩

theorem advanceServing {key} (codec : V2HandshakeCodec) (serving : Serving key c) (call : FrameCall) :
    Serving key (advance codec c call) := by
  cases call with
  | checkTimeouts now => exact stepServing serving (.checkTimeouts now)
  | frame source datagram now =>
    change Serving key (receiveServerFrame codec source datagram now c).2
    have received := frameReceived codec source datagram now c
    generalize receiveServerFrame codec source datagram now c = outcome at received ⊢
    cases received with
    | dropped e harmless unfinished => exact serving
    | hello body decoded sized => exact stepServing serving (.clientHello _ _ _)
    | finish body decoded sized => exact stepServing serving (.clientFinish _ _ _)

theorem runServing {key} (codec : V2HandshakeCodec) (calls : List FrameCall) (serving : Serving key c) :
    Serving key (calls.foldl (advance codec) c) := by
  induction calls generalizing c with
  | nil => exact serving
  | cons call rest ih => exact ih (advanceServing codec serving call)

def Late (c : Server S) (source : SocketAddr) (attempt : ClientAttemptId) : Prop :=
  ∃ session, c.policy.state = .established session ∧ source = session.peerEndpoint ∧
    attempt = session.clientAttemptId

def Unreadable (c : Server S) (source : SocketAddr) (attempt : ClientAttemptId) (payload : Bytes) (now : Instant) : Prop :=
  ∃ held b context, c.policy.pending.pendingBySource.get source = some held ∧ now < held.deadline ∧
    c.policy.candidateById.get held.id = some b ∧ b.clientAttemptId = attempt ∧
    c.crypto.candidates.get held.id = some (.pending context) ∧
    context.transport.read 0 payload clientFinishPayloadLength = none

def Fatal (codec : V2HandshakeCodec) (c : Server S) (source : SocketAddr) (datagram : Bytes) (now : Instant) : Prop :=
  ∃ body, codec.decode datagram = .ok (.clientFinish body) ∧
    body.opaquePayload.length = clientFinishPayloadLength ∧
    (Late c source body.clientAttemptId ∨ Unreadable c source body.clientAttemptId body.opaquePayload now)

theorem liveOwned {h m : ServerHandshake} {source held b now expired} (reg : Registered h)
    (ex : Expires h now expired m) (pending : h.pending.pendingBySource.get source = some held)
    (early : now < held.deadline) (entry : h.candidateById.get held.id = some b) : Owned m source b := by
  obtain ⟨attempt, listed⟩ := reg.forward source held pending
  cases Option.some.inj (listed.symm.trans entry)
  have listening : h.state = .listening := by
    by_contra outside
    rw [(HashMap.lenEqZeroIff _).mp (reg.emptyOutside outside).2] at entry
    contradiction
  refine ⟨ex.state.trans listening, ?_, rfl⟩
  rw [ex.registry, if_neg, entry]
  intro gone
  obtain ⟨e, member, same⟩ := List.mem_map.mp gone
  obtain ⟨other, found, id, late⟩ := ex.due e member
  rw [sourceOfId reg found pending (id.trans same), pending] at found
  cases Option.some.inj found
  exact absurd late (Nat.not_le_of_lt early)

theorem permittedHeld {source attempt now expired id context} (permitted : Permitted c source attempt now expired id context) :
    ∃ held, c.policy.pending.pendingBySource.get source = some held ∧ now < held.deadline ∧ held.id = id ∧
      c.policy.candidateById.get id = some (bindingOf id source attempt) := by
  obtain ⟨m, ex, reg, owned⟩ := permitted.owned
  obtain ⟨held, found, same⟩ := ownedPending reg owned
  have early := expiresEarly ex found
  rw [ex.manager, Option.filter_eq_some_iff] at found
  have entry := owned.entry
  rw [ex.registry] at entry
  split at entry <;> try contradiction
  exact ⟨held, found.1, early, same, entry⟩

theorem sealsRecord {context : PendingContext S} {record key} (reliable : LocalOperations S key)
    (recorded : encodeControl .serverFinish context.attempt = .ok record) :
    ∃ out : FixedBytes serverFinishPayloadLength,
      context.transport.write 0 record serverFinishPayloadLength = some out.toList := by
  have sized : record.length = controlRecordLength := by
    unfold encodeControl at recorded
    split at recorded <;> try contradiction
    cases Except.ok.inj recorded
    rfl
  obtain ⟨raw, sealed_, length⟩ := reliable.seals context.transport.state record sized
  exact ⟨⟨raw, length⟩, by simp [Transport.write, sealed_, fitted, length]⟩

theorem finishFailsOnly {key source attempt payload now e q} (reliable : LocalOperations S key)
    (sized : payload.length = clientFinishPayloadLength)
    (move : FinishMove c source attempt payload now (.error e) q) :
    Late c source attempt ∨ Unreadable c source attempt payload now := by
  cases move with
  | duplicate session state peer same => exact .inl ⟨session, state, peer, same⟩
  | failed expired id context e q permitted answer =>
    cases answer with
    | misfit wrong => exact absurd sized wrong
    | unread _ refused =>
      obtain ⟨held, pending, early, same, entry⟩ := permittedHeld permitted
      subst same
      exact .inr ⟨held, _, context, pending, early, entry, rfl, permitted.found, refused⟩
    | unwritten plain record opens recorded short =>
      obtain ⟨out, written⟩ := sealsRecord reliable recorded
      exact absurd written (short out)

theorem lateFails {source attempt payload now report q} (late : Late c source attempt)
    (move : FinishMove c source attempt payload now (.ok report) q) : False := by
  obtain ⟨session, established, peer, same⟩ := late
  have away : ∀ {m expired}, Expires c.policy now expired m → m.state = .established session :=
    fun ex => ex.state.trans established
  cases move with
  | dropped expired m reason ex reg decision =>
    have state := away ex
    cases decision with
    | unavailable closed =>
      rw [state] at closed
      contradiction
    | active other found different =>
      rw [state] at found
      cases found
      exact different ⟨peer, same⟩
    | absent listening free =>
      rw [state] at listening
      contradiction
    | stale b owned other =>
      have listening := owned.listening
      rw [state] at listening
      contradiction
  | unconfirmed expired id context plain permitted opens =>
    obtain ⟨m, ex, _, owned⟩ := permitted.owned
    exact absurd ((away ex).symm.trans owned.listening) (by simp)
  | established expired id context plain record out permitted opens recorded written =>
    obtain ⟨m, ex, _, owned⟩ := permitted.owned
    exact absurd ((away ex).symm.trans owned.listening) (by simp)

theorem unreadableFails {source attempt payload now report q} (corresponds : Corresponds c)
    (unreadable : Unreadable c source attempt payload now)
    (move : FinishMove c source attempt payload now (.ok report) q) : False := by
  obtain ⟨held, b, context, pending, early, entry, same, found, refused⟩ := unreadable
  have live : ∀ {m expired}, Expires c.policy now expired m → Owned m source b :=
    fun ex => liveOwned corresponds.registered ex pending early entry
  have blocked : ∀ {expired id context' plain}, Permitted c source attempt now expired id context' →
      context'.transport.read 0 payload clientFinishPayloadLength ≠ some plain := by
    intro expired id context' plain permitted opens
    obtain ⟨held', pending', _, sameId, _⟩ := permittedHeld permitted
    cases Option.some.inj (pending.symm.trans pending')
    have found' := permitted.found
    rw [← sameId, found] at found'
    cases Option.some.inj found'
    rw [refused] at opens
    contradiction
  cases move with
  | unconfirmed expired id context plain permitted opens => exact blocked permitted opens
  | established expired id context plain record out permitted opens recorded written => exact blocked permitted opens
  | dropped expired m reason ex reg decision =>
    have owned := live ex
    cases decision with
    | unavailable closed => exact absurd (closed.symm.trans owned.listening) (by simp)
    | active session state _ => exact absurd (state.symm.trans owned.listening) (by simp)
    | absent _ free =>
      obtain ⟨present, kept, _⟩ := ownedPending reg owned
      rw [free] at kept
      contradiction
    | stale b' owned' other =>
      cases ownedUnique reg owned owned'
      exact other same.symm

theorem helloAnswers {p q : ServerProvider S} {codec : V2HandshakeCodec} {source attempt payload report}
    (bounds : codec.maximumOpaquePayload = clientHelloPayloadLength) (nonzero : attempt.value ≠ 0)
    (move : HelloMove p source attempt payload (.ok report) q) :
    (p.phase ≠ .closed → q.phase ≠ .closed) ∧ ∀ outbound ∈ report.outbound, Sendable codec outbound := by
  have fits : ∀ out : FixedBytes serverHelloPayloadLength, ∀ outbound ∈ [helloOutbound source attempt out.toList],
      Sendable codec outbound := by
    intro out outbound member
    cases List.mem_singleton.mp member
    simp only [Sendable, helloOutbound, out.sized, bounds]
    exact ⟨nonzero, by decide, by decide⟩
  cases move with
  | dropped ids events reason => exact ⟨id, fun _ impossible => absurd impossible List.not_mem_nil⟩
  | repeated ids events id context found => exact ⟨fun open_ => open_, fits context.serverHello⟩
  | welcomed ids events id prepared q fresh =>
    cases fresh with
    | welcomed transport hash remote out prologue built allowed => exact ⟨fun open_ => open_, fits out⟩

theorem finishAnswers {q : ServerProvider S} {codec : V2HandshakeCodec} {source attempt payload now report}
    (bounds : codec.maximumOpaquePayload = clientHelloPayloadLength) (nonzero : attempt.value ≠ 0)
    (move : FinishMove c source attempt payload now (.ok report) q) :
    (c.crypto.phase ≠ .closed → q.phase ≠ .closed) ∧ ∀ outbound ∈ report.outbound, Sendable codec outbound := by
  cases move with
  | dropped expired m reason ex reg decision => exact ⟨id, fun _ impossible => absurd impossible List.not_mem_nil⟩
  | unconfirmed expired id context plain permitted opens =>
    exact ⟨fun open_ => open_, fun _ impossible => absurd impossible List.not_mem_nil⟩
  | established expired id context plain record out permitted opens recorded written =>
    refine ⟨(fun _ impossible => by cases impossible), ?_⟩
    intro outbound member
    cases List.mem_singleton.mp member
    simp only [Sendable, out.sized, bounds]
    exact ⟨nonzero, by decide, by decide⟩

/- A datagram is dropped or answered: the coordinator fails only where the policy
reports a limit, and nothing else closes it. -/
def Dropped (before after : Server S) (result : Except AdapterError ServerAdapterReport) : Prop :=
  tolerable result = true ∧
    ((∀ fatal, result ≠ .error (.coordinator fatal)) → before.policy.state ≠ .closed → after.policy.state ≠ .closed)

theorem answeredDropped {Move : Answer S → ServerProvider S → Prop} {codec : V2HandshakeCodec} {t : Server S} {report}
    (before : Corresponds c) (after : Corresponds t) (move : Move (.ok report) t.crypto)
    (answers : Move (.ok report) t.crypto → (c.crypto.phase ≠ .closed → t.crypto.phase ≠ .closed) ∧
      ∀ outbound ∈ report.outbound, Sendable codec outbound) :
    Dropped c t (serverReport codec (.ok report)) := by
  obtain ⟨open_, sendable⟩ := answers move
  obtain ⟨encoded, done⟩ := serverReportSome sendable
  rw [done]
  refine ⟨rfl, fun _ running shut => ?_⟩
  rw [ne_eq, closedPhase before.coupled] at running
  exact open_ running ((closedPhase after.coupled).mp shut)

theorem helloDropped {codec : V2HandshakeCodec} {key source now} {body : DecodedV2HandshakeBody}
    (reliable : LocalOperations S key)
    (serving : Serving key c) (bounds : codec.maximumOpaquePayload = clientHelloPayloadLength)
    (nonzero : body.clientAttemptId.value ≠ 0) (sized : body.opaquePayload.length = clientHelloPayloadLength) :
    Dropped c (handed codec (receiveClientHello source ⟨body.clientAttemptId, body.opaquePayload⟩ now c)).2
      (handed codec (receiveClientHello source ⟨body.clientAttemptId, body.opaquePayload⟩ now c)).1 := by
  have concluded := helloConcludes serving.corresponds source ⟨body.clientAttemptId, body.opaquePayload⟩ now
  generalize receiveClientHello source ⟨body.clientAttemptId, body.opaquePayload⟩ now c = outcome at concluded ⊢
  obtain ⟨result, t⟩ := outcome
  obtain ⟨after, move⟩ := concluded
  cases result with
  | ok report => exact answeredDropped serving.corresponds after move (helloAnswers bounds nonzero)
  | error fatal =>
    obtain ⟨q, failed, _⟩ := move
    refine ⟨?_, fun clean => absurd rfl (clean fatal)⟩
    generalize cause : fatal.primary = primary at failed
    change policyLimit fatal.primary = true
    rw [cause]
    cases failed with
    | refused e limit => cases limit <;> rfl
    | broken ids id e q fresh =>
      cases fresh with
      | broken drawn impossible =>
        have keyed : (dropping c.crypto ids).localPrivateKey = key := serving.keyed
        rw [keyed] at impossible
        exact (impossible reliable sized nonzero).elim

theorem finishDropped {codec : V2HandshakeCodec} {key source now} {body : DecodedV2HandshakeBody}
    (reliable : LocalOperations S key)
    (serving : Serving key c) (bounds : codec.maximumOpaquePayload = clientHelloPayloadLength)
    (nonzero : body.clientAttemptId.value ≠ 0) (sized : body.opaquePayload.length = clientFinishPayloadLength) :
    Dropped c (handed codec (receiveClientFinish source ⟨body.clientAttemptId, body.opaquePayload⟩ now c)).2
      (handed codec (receiveClientFinish source ⟨body.clientAttemptId, body.opaquePayload⟩ now c)).1 ↔
    ¬ (Late c source body.clientAttemptId ∨ Unreadable c source body.clientAttemptId body.opaquePayload now) := by
  have concluded := finishConcludes serving.corresponds source ⟨body.clientAttemptId, body.opaquePayload⟩ now
  generalize receiveClientFinish source ⟨body.clientAttemptId, body.opaquePayload⟩ now c = outcome at concluded ⊢
  obtain ⟨result, t⟩ := outcome
  obtain ⟨after, move⟩ := concluded
  cases result with
  | ok report =>
    refine ⟨fun _ fatal => ?_, fun _ => answeredDropped serving.corresponds after move (finishAnswers bounds nonzero)⟩
    rcases fatal with late | unreadable
    · exact lateFails late move
    · exact unreadableFails serving.corresponds unreadable move
  | error fatal =>
    obtain ⟨q, failed, _⟩ := move
    have cause := finishFailsOnly reliable sized failed
    refine ⟨?_, fun clean => absurd cause clean⟩
    intro spec
    obtain ⟨limit, _⟩ := spec
    have impossible : policyLimit fatal.primary = true := limit
    generalize fatal.primary = primary at failed impossible
    cases failed <;> contradiction

theorem frameDropped {codec : V2HandshakeCodec} {key} (reliable : LocalOperations S key) (serving : Serving key c)
    (bounds : codec.maximumOpaquePayload = clientHelloPayloadLength) (source datagram now) :
    Dropped c (receiveServerFrame codec source datagram now c).2 (receiveServerFrame codec source datagram now c).1 ↔
      ¬ Fatal codec c source datagram now := by
  have received := frameReceived codec source datagram now c
  generalize receiveServerFrame codec source datagram now c = outcome at received ⊢
  cases received with
  | dropped e harmless unfinished =>
    refine ⟨fun _ fatal => ?_, fun _ => ⟨harmless, fun _ open_ => open_⟩⟩
    obtain ⟨body, decoded, sized, _⟩ := fatal
    exact unfinished body decoded sized
  | hello body decoded sized =>
    refine ⟨fun _ fatal => ?_, fun _ => helloDropped reliable serving bounds (HandshakeExact.decodeForm decoded).nonzero sized⟩
    obtain ⟨other, finish, _⟩ := fatal
    rw [decoded] at finish
    cases finish
  | finish body decoded sized =>
    have nonzero : body.clientAttemptId.value ≠ 0 := (HandshakeExact.decodeForm decoded).nonzero
    rw [finishDropped reliable serving bounds nonzero sized]
    refine not_congr ⟨fun cause => ⟨body, decoded, sized, cause⟩, ?_⟩
    intro spec
    obtain ⟨other, same, _, cause⟩ := spec
    rw [decoded] at same
    cases same
    exact cause

theorem remoteInputDropped {localPrivateKey : Bytes} (reliable : LocalOperations S localPrivateKey)
    {codec : V2HandshakeCodec} (made : V2HandshakeCodec.new clientHelloPayloadLength = .ok codec)
    {policy sources ids allowedClientKeys hasher rng} {start : Server S}
    (built : build (ServerHandshake.new policy sources ids)
      (ServerProvider.new localPrivateKey allowedClientKeys hasher rng) = .ok start)
    (calls : List FrameCall) (source datagram now) : let c := calls.foldl (advance codec) start
    Dropped c (receiveServerFrame codec source datagram now c).2 (receiveServerFrame codec source datagram now c).1 ↔
      ¬ Fatal codec c source datagram now := by
  intro c
  obtain ⟨c', built', same, corresponds⟩ :=
    @builtCorresponds S policy sources ids localPrivateKey allowedClientKeys hasher rng
  cases Except.ok.inj (built.symm.trans built')
  have serving : Serving localPrivateKey start := ⟨corresponds, by rw [same]; rfl⟩
  have bounds : codec.maximumOpaquePayload = clientHelloPayloadLength := by
    cases Except.ok.inj (made.symm.trans rfl)
    rfl
  exact frameDropped reliable (runServing codec calls serving) bounds source datagram now

/-! A repeated finish. The context that would answer it left the provider's table
when the session was committed. -/

def DuplicateLaw (c : Server S) (session : EstablishedServerSession) (completed answered payload : Bytes)
    (now : Instant) : Prop :=
  let step := receiveClientFinish session.peerEndpoint ⟨session.clientAttemptId, payload⟩ now c
  if payload = completed then
    step.1 = .ok ⟨[⟨session.peerEndpoint, .serverFinish ⟨session.clientAttemptId, answered⟩⟩], []⟩ ∧ step.2 = c
  else
    step.1 = .ok ⟨[], [.dropped session.peerEndpoint .authenticationFailed]⟩ ∧
      step.2.policy.state = .established session

theorem lateCloses {session : EstablishedServerSession} (corresponds : Corresponds c)
    (established : c.policy.state = .established session) (payload now) :
    let step := receiveClientFinish session.peerEndpoint ⟨session.clientAttemptId, payload⟩ now c
    ∃ fatal, step.1 = .error fatal ∧ step.2.policy.state = .closed ∧ fatal.primary =
      .crypto (.missingServerCandidateContext session.completedCandidateId session.clientAttemptId) := by
  have concluded := finishConcludes corresponds session.peerEndpoint ⟨session.clientAttemptId, payload⟩ now
  have late : Late c session.peerEndpoint session.clientAttemptId := ⟨session, established, rfl, rfl⟩
  generalize receiveClientFinish session.peerEndpoint ⟨session.clientAttemptId, payload⟩ now c = outcome at concluded ⊢
  obtain ⟨result, t⟩ := outcome
  obtain ⟨_, move⟩ := concluded
  cases result with
  | ok report => exact (lateFails late move).elim
  | error fatal =>
    obtain ⟨q, failed, _, shut⟩ := move
    refine ⟨fatal, rfl, shut, ?_⟩
    generalize fatal.primary = primary at failed
    cases failed with
    | duplicate other state peer same =>
      rw [established] at state
      cases state
      rfl
    | failed expired id context e q permitted answer =>
      obtain ⟨m, ex, _, owned⟩ := permitted.owned
      have state : m.state = .established session := ex.state.trans established
      exact absurd (state.symm.trans owned.listening) (by simp)

theorem duplicateFinishCloses {policy sources ids localPrivateKey allowedClientKeys hasher rng} {start : Server S}
    (built : build (ServerHandshake.new policy sources ids)
      (ServerProvider.new localPrivateKey allowedClientKeys hasher rng) = .ok start)
    (calls : List (ServerCall (ServerProvider S))) {session}
    (established : (run serverStep start calls).2.policy.state = .established session)
    (completed answered payload : Bytes) (now : Instant) :
    ¬ DuplicateLaw (run serverStep start calls).2 session completed answered payload now ∧
    let step := receiveClientFinish session.peerEndpoint ⟨session.clientAttemptId, payload⟩ now
      (run serverStep start calls).2
    ∃ fatal, step.1 = .error fatal ∧ step.2.policy.state = .closed ∧ fatal.primary =
      .crypto (.missingServerCandidateContext session.completedCandidateId session.clientAttemptId) := by
  obtain ⟨c, built', _, corresponds⟩ :=
    @builtCorresponds S policy sources ids localPrivateKey allowedClientKeys hasher rng
  cases Except.ok.inj (built.symm.trans built')
  have reached : Corresponds (run serverStep start calls).2 :=
    @runInvariant _ _ _ serverStep Corresponds (fun _ call ok => stepCorresponds ok call) start corresponds calls
  have closes := lateCloses reached established payload now
  refine ⟨?_, closes⟩
  obtain ⟨fatal, failed, _⟩ := closes
  intro law
  unfold DuplicateLaw at law
  simp only [failed] at law
  split at law
  · exact absurd law.1 (by simp)
  · exact absurd law.1 (by simp)

end

section Plain

def plainCodec : V2HandshakeCodec := (V2HandshakeCodec.new 112).toOption.get rfl
def plainAttempt : ClientAttemptId := ⟨1⟩

def plainHello : Bytes :=
  plainWrite ⟨true, plainClientKey, some plainServerKey, []⟩ (controlRecord .clientHello plainAttempt)

def plainFinish : Bytes := plainSeal 0 (controlRecord .clientFinish plainAttempt)
def forgedFinish : Bytes := List.replicate 32 7

def plainDatagram (kind : MessageType) (payload : Bytes) : Bytes :=
  V2HandshakeCodec.frameBytes kind plainAttempt (8 + payload.length) payload

def plainFrame (kind : MessageType) (payload : Bytes) : FrameCall :=
  .frame (plainEndpoint 1000) (plainDatagram kind payload) 1

def plainPending : Server plainSnow :=
  [plainFrame .clientHello plainHello].foldl (advance plainCodec) plainServer

def plainEstablished : Server plainSnow :=
  [plainFrame .clientHello plainHello, plainFrame .clientFinish plainFinish].foldl (advance plainCodec) plainServer

theorem plainReadKeeps (h : PlainHandshake) (message : Bytes) : (plainRead h message).2.initiator = h.initiator := by
  unfold plainRead
  split
  · rfl
  · split <;> rfl

theorem plainLocalOperations : LocalOperations plainSnow plainServerKey where
  parses := ⟨(), rfl⟩
  builds params prologue _ := ⟨_, rfl⟩
  answers params prologue start payload plain state entropy record _ started read sized := by
    have responder : state.initiator = false := by
      have keeps := plainReadKeeps start payload
      change plainRead start payload = (some plain, state) at read
      rw [read] at keeps
      cases Option.some.inj started
      exact keeps
    refine ⟨_, _, rfl, ?_, (FixedBytes.copyFrom 32 state.prologue).sized, (), rfl⟩
    simp [plainWrite, plainSeal, plainTag, responder, sized, controlRecordLength, serverHelloPayloadLength]
  seals transport record sized := by
    refine ⟨_, rfl, ?_⟩
    simp [plainSeal, plainTag, sized, controlRecordLength, serverFinishPayloadLength]

theorem finishesFatal :
    ¬ Dropped plainPending
      (receiveServerFrame plainCodec (plainEndpoint 1000) (plainDatagram .clientFinish forgedFinish) 1 plainPending).2
      (receiveServerFrame plainCodec (plainEndpoint 1000) (plainDatagram .clientFinish forgedFinish) 1 plainPending).1 ∧
    ¬ Dropped plainEstablished
      (receiveServerFrame plainCodec (plainEndpoint 1000) (plainDatagram .clientFinish plainFinish) 1
        plainEstablished).2
      (receiveServerFrame plainCodec (plainEndpoint 1000) (plainDatagram .clientFinish plainFinish) 1
        plainEstablished).1 := by
  constructor
  · intro dropped
    exact absurd dropped.1 (by decide +kernel)
  · intro dropped
    exact absurd dropped.1 (by decide +kernel)

theorem plainHelloDropped : LocalOperations plainSnow plainServerKey ∧
    Dropped plainServer
      (receiveServerFrame plainCodec (plainEndpoint 1000) (plainDatagram .clientHello plainHello) 1 plainServer).2
      (receiveServerFrame plainCodec (plainEndpoint 1000) (plainDatagram .clientHello plainHello) 1 plainServer).1 := by
  refine ⟨plainLocalOperations, ?_⟩
  have known := @remoteInputDropped plainSnow plainServerKey plainLocalOperations plainCodec rfl
    _ _ _ [plainClientKey] (.listing _ _) (fun _ => ()) plainServer rfl [] (plainEndpoint 1000)
    (plainDatagram .clientHello plainHello) 1
  refine known.mpr ?_
  intro spec
  obtain ⟨body, decoded, _⟩ := spec
  have hello : plainCodec.decode (plainDatagram .clientHello plainHello) =
      .ok (.clientHello ⟨plainAttempt, plainHello⟩) := by decide +kernel
  rw [hello] at decoded
  cases decoded

def plainCalls : List (ServerCall (ServerProvider plainSnow)) :=
  [.clientHello (plainEndpoint 1000) ⟨plainAttempt, plainHello⟩ 1,
    .clientFinish (plainEndpoint 1000) ⟨plainAttempt, plainFinish⟩ 1]

def plainSession : EstablishedServerSession where
  metadata := ⟨⟨.copyFrom 32 ((buildPrologue plainAttempt).toOption.getD [])⟩, ⟨.copyFrom 32 plainClientKey⟩⟩
  peerEndpoint := plainEndpoint 1000
  completedCandidateId := ⟨1⟩
  clientAttemptId := plainAttempt
  establishedAt := 1

def plainAnswer : Bytes := plainSeal 0 (controlRecord .serverFinish plainAttempt)

theorem plainSessionEstablished : (run serverStep plainServer plainCalls).2.policy.state = .established plainSession := by
  decide +kernel

theorem repeatedFinishFatal :
    ¬ DuplicateLaw (run serverStep plainServer plainCalls).2 plainSession plainFinish plainAnswer plainFinish 1 := by
  have failed : (receiveClientFinish plainSession.peerEndpoint ⟨plainSession.clientAttemptId, plainFinish⟩ 1
      (run serverStep plainServer plainCalls).2).1.isOk = false := by decide +kernel
  intro law
  simp only [DuplicateLaw, if_true] at law
  rw [law.1] at failed
  contradiction

theorem plainDuplicateCloses :
    (run serverStep plainServer plainCalls).2.policy.state = .established plainSession ∧
    ¬ DuplicateLaw (run serverStep plainServer plainCalls).2 plainSession plainFinish plainAnswer plainFinish 2 :=
  ⟨plainSessionEstablished, (@duplicateFinishCloses plainSnow _ _ _ plainServerKey [plainClientKey] (.listing _ _)
    (fun _ => ()) plainServer rfl plainCalls plainSession plainSessionEstablished plainFinish plainAnswer
    plainFinish 2).1⟩

end Plain
end Crabnet.ServerRemoteInput
