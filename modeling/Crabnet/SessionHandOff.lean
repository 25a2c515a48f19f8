import Crabnet.AdapterSimulation
import Crabnet.NoiseRuntime
import Crabnet.ServerRemoteInput

/-! The session that a report announces and the transport that its coordinator
gives up. On the server both come from one candidate, whose context is followed
back through the run to the hello that admitted it; on the client both come from
the commit of the same call. -/
namespace Crabnet.SessionHandOff
open MachineWord SessionTypes Fallible HashTable CryptoBoundary ServerPolicy ClientPolicy ServerRegistry ServerOutcomes
open HandshakeTypes NoiseProfile SnowBoundary HandshakeCodec NoiseServer NoiseServerOutcomes NoiseClient
open HandshakeAdapter FrameExchange ClientSending CoordinatorStability ServerCoupling ServerCorrespondence
open AdapterSimulation NoiseRuntime
open ClientLedger (Client)

section
variable {S : Snow} {c : Server S}

structure Entered (c : Server S) (id : CandidateId) (peer : SocketAddr) (context : PendingContext S) : Prop where
  entry : c.policy.candidateById.get id = some ⟨id, peer, context.attempt⟩
  context : c.crypto.candidates.get id = some (.pending context)

theorem enteredTrimmed {now expired m id peer} {context : PendingContext S} (ex : Expires c.policy now expired m)
    (entered : Entered (trimmed c m expired) id peer context) : Entered c id peer context := by
  obtain ⟨entry, found⟩ := entered
  simp only [ex.registry] at entry
  split at entry <;> try contradiction
  rw [getDropping] at found
  split at found <;> try contradiction
  exact ⟨entry, found⟩

theorem enteredWithout {b ids id peer} {context : PendingContext S}
    (entered : Entered {c with policy := without c.policy b, crypto := dropping c.crypto ids} id peer context) :
    Entered c id peer context := by
  obtain ⟨entry, found⟩ := entered
  simp only [without, HashMap.getRemove] at entry
  split at entry <;> try contradiction
  rw [getDropping] at found
  split at found <;> try contradiction
  exact ⟨entry, found⟩

def Handshaken (key : Bytes) (allowed : List Bytes) (context : PendingContext S) : Prop :=
  ∃ remote ∈ allowed, context.metadata = ⟨ServerProvider.sid context.hash, ServerProvider.identity remote⟩ ∧
    Derived key context.attempt context.clientHello remote context.serverHello context.hash context.transport.state

structure Admits (c : Server S) (call : ServerCall (ServerProvider S)) (id : CandidateId) (peer : SocketAddr)
    (context : PendingContext S) : Prop where
  call : ∃ now, call = .clientHello peer ⟨context.attempt, context.clientHello⟩ now
  absent : c.policy.candidateById.get id = none
  handshake : Handshaken c.crypto.localPrivateKey c.crypto.allowedClientKeys context

theorem helloEntered {source message now report t id peer context} (reg : Registered c.policy)
    (turn : HelloTurn c source message.clientAttemptId message.payload now (.ok report) t)
    (entered : Entered t id peer context) :
    Entered c id peer context ∨ Admits c (.clientHello source message now) id peer context := by
  cases turn with
  | dropped expired m reason ex middle step => exact .inl (enteredTrimmed ex entered)
  | repeated expired m id' context' ex middle owned found same => exact .inl (enteredTrimmed ex entered)
  | conflicting expired m id' ex middle owned =>
    rw [← droppingMore] at entered
    exact .inl (enteredTrimmed ex (enteredWithout entered))
  | rejected expired m deadline next ex middle listening free =>
    refine .inl (enteredTrimmed ex ⟨?_, entered.context⟩)
    have entry := entered.entry
    simp only [without, bindingOf, admitted, HashMap.getRemove, HashMap.getInsert] at entry
    split at entry <;> try contradiction
    exact entry
  | welcomed expired m deadline next prepared q ex middle listening free fresh =>
    cases fresh with
    | welcomed transport hash remote out prologue built allowed derived =>
      obtain ⟨entry, found⟩ := entered
      simp only [admitted, HashMap.getInsert] at entry
      simp only [ServerProvider.admitting, HashMap.getInsert] at found
      by_cases new : id = ⟨m.pending.nextCandidateId⟩
      · simp only [if_pos new, Option.some.injEq] at entry found
        cases found
        cases entry
        have absent := nextUnlisted reg
        rw [← ex.next] at absent
        exact .inr ⟨⟨now, rfl⟩, absent, remote, allowed, rfl, derived⟩
      · simp only [if_neg new] at entry found
        exact .inl (enteredTrimmed ex ⟨entry, found⟩)

theorem finishEntered {source attempt payload now report t id peer context}
    (turn : FinishTurn c source attempt payload now (.ok report) t) (entered : Entered t id peer context) :
    Entered c id peer context := by
  cases turn with
  | dropped expired m reason ex reg decision => exact enteredTrimmed ex entered
  | unconfirmed expired m id' context' plain allowed opens =>
    have before : Entered {trimmed c m expired with
        crypto := opening (dropping c.crypto (expiredIds expired)) context' payload} id peer context :=
      enteredWithout entered
    exact enteredTrimmed allowed.expires ⟨before.entry, before.context⟩
  | established expired m id' context' plain record out t allowed opens recorded written state =>
    have found := entered.context
    simp [ServerProvider.committing] at found

theorem stepEntered {call : ServerCall (ServerProvider S)} {id peer context} (corresponds : Corresponds c)
    (entered : Entered (serverStep c call).2 id peer context) :
    Entered c id peer context ∨ Admits c call id peer context := by
  have after := stepCorresponds corresponds call
  cases call with
  | clientHello source message now =>
    have returned := (helloReturns corresponds source message now).2
    simp only [serverStep] at entered after
    generalize ServerCoordinator.receiveClientHello source message now c = outcome at returned entered after
    obtain ⟨result, t⟩ := outcome
    cases result with
    | ok report => exact helloEntered corresponds.registered returned entered
    | error fatal =>
      obtain ⟨s, _, rfl⟩ := returned
      exact (closedHeld after.coupled (shutdownClosed_ s.policy) entered.context).elim
  | clientFinish source message now =>
    have returned := (finishReturns corresponds source message now).2
    simp only [serverStep] at entered after
    generalize ServerCoordinator.receiveClientFinish source message now c = outcome at returned entered after
    obtain ⟨result, t⟩ := outcome
    cases result with
    | ok report => exact .inl (finishEntered returned entered)
    | error fatal =>
      obtain ⟨s, _, rfl⟩ := returned
      exact (closedHeld after.coupled (shutdownClosed_ s.policy) entered.context).elim
  | checkTimeouts now =>
    obtain ⟨_, expired, m, ex, ran⟩ := timeoutsReturn corresponds now
    simp only [serverStep, ran] at entered
    exact .inl (enteredTrimmed ex entered)
  | shutdown =>
    simp only [serverStep, shutdownLeaves] at entered after
    exact (closedHeld after.coupled (shutdownClosed_ c.policy) entered.context).elim

inductive Commits (c : Server S) (source : SocketAddr) (attempt : ClientAttemptId) :
    ServerCoordinator.Report (ServerProvider S) → Server S → Prop
  | committed (expired : List ExpiredServerCandidate) (id context t) (out : FixedBytes serverFinishPayloadLength)
      (entered : Entered c id source context) (same : context.attempt = attempt)
      (holds : t.crypto.intoEstablishedTransport = some (context.transport, context.metadata)) :
    Commits c source attempt ⟨[⟨source, .serverFinish ⟨attempt, out.toList⟩⟩],
      expired.map expiredEvent ++ [.sessionEstablished source context.metadata]⟩ t
  | quiet (r t) (silent : ∀ e ∈ r.events, reportsSession e = false) (kept : t.policy.state = c.policy.state) :
    Commits c source attempt r t

theorem expiredSilent (expired : List ExpiredServerCandidate) : ∀ e ∈ expired.map expiredEvent, reportsSession e = false := by
  intro event member
  obtain ⟨e, _, rfl⟩ := List.mem_map.mp member
  rfl

theorem droppedQuiet {m : ServerHandshake} {now expired source attempt reason} {t : Server S} (ex : Expires c.policy now expired m)
    (state : t.policy.state = m.state) :
    Commits c source attempt (ServerCoordinator.dropEvent (expired.map expiredEvent) source reason) t :=
  .quiet _ _ (dropSilent (expiredSilent expired)).2 (state.trans ex.state)

theorem helloCommits {source attempt payload now report t}
    (turn : HelloTurn c source attempt payload now (.ok report) t) : Commits c source attempt report t := by
  cases turn with
  | dropped expired m reason ex reg step => exact droppedQuiet ex rfl
  | repeated expired m id context ex reg owned found same => exact .quiet _ _ (expiredSilent expired) ex.state
  | conflicting expired m id ex reg owned => exact droppedQuiet ex rfl
  | rejected expired m deadline next ex reg listening free => exact droppedQuiet ex rfl
  | welcomed expired m deadline next prepared q ex reg listening free fresh =>
    exact .quiet _ _ (expiredSilent expired) ex.state

theorem finishCommits {source attempt payload now report t}
    (turn : FinishTurn c source attempt payload now (.ok report) t) : Commits c source attempt report t := by
  cases turn with
  | dropped expired m reason ex reg decision => exact droppedQuiet ex rfl
  | unconfirmed expired m id context plain allowed opens =>
    exact droppedQuiet allowed.expires rfl
  | established expired m id context plain record out t allowed opens recorded written state =>
    obtain ⟨ex, reg, owned, found, same⟩ := allowed
    have entry := owned.entry
    rw [ex.registry] at entry
    split at entry <;> try contradiction
    refine .committed expired id context _ out ⟨?_, found⟩ same rfl
    rw [same]
    exact entry

/- The same through the adapter: the finish of a committed session always encodes,
so an announcement is never lost with its report. -/
inductive FrameCommits (codec : V2HandshakeCodec) (c : Server S) (source : SocketAddr) :
    Except AdapterError ServerAdapterReport → Server S → Prop
  | committed (expired : List ExpiredServerCandidate) (id context t datagram payload)
      (entered : Entered c id source context)
      (holds : t.crypto.intoEstablishedTransport = some (context.transport, context.metadata))
      (decoded : codec.decode datagram = .ok (.serverFinish ⟨context.attempt, payload⟩)) :
    FrameCommits codec c source (.ok ⟨[⟨source, datagram⟩],
      expired.map expiredEvent ++ [.sessionEstablished source context.metadata]⟩) t
  | quiet (result t) (silent : ∀ report, result = .ok report → ∀ e ∈ report.events, reportsSession e = false)
      (kept : t.policy.state = c.policy.state ∨ t.policy.state = .closed) : FrameCommits codec c source result t

theorem reportCommits {codec : V2HandshakeCodec} {source attempt r t} (nonzero : attempt.value ≠ 0)
    (fits : payloadLength .serverFinish ≤ codec.maximumOpaquePayload) (commits : Commits c source attempt r t) :
    FrameCommits codec c source (serverReport codec (.ok r)) t := by
  cases commits with
  | committed expired id context t out entered same holds =>
    obtain ⟨datagram, frame, encoded, decoded, named, body, _⟩ :=
      @encodeExact codec .serverFinish attempt out.toList fits (by decide) ⟨nonzero, out.sized⟩
    cases @HandshakeExact.frameKinds frame (.serverFinish ⟨attempt, out.toList⟩) named body
    subst same
    simp only [serverReport, encodeAll, encodeServer, encoded]
    exact .committed expired id context t datagram _ entered holds decoded
  | quiet r t silent kept =>
    refine .quiet _ _ ?_ (.inl kept)
    intro report encoded
    simp only [serverReport] at encoded
    split at encoded <;> try contradiction
    cases Except.ok.inj encoded
    exact silent

theorem returnedCommits {codec : V2HandshakeCodec} {Turn : Answer S → Server S → Prop} {source attempt result t}
    (nonzero : attempt.value ≠ 0) (fits : payloadLength .serverFinish ≤ codec.maximumOpaquePayload)
    (commits : ∀ {report t}, Turn (.ok report) t → Commits c source attempt report t) (returned : Returned Turn result t) :
    FrameCommits codec c source (serverReport codec result) t := by
  cases result with
  | ok report => exact reportCommits nonzero fits (commits returned)
  | error fatal =>
    obtain ⟨s, _, rfl⟩ := returned
    exact .quiet _ _ (fun _ impossible => by cases impossible) (.inr (shutdownClosed_ s.policy))

theorem frameCommits (corresponds : Corresponds c) (codec : V2HandshakeCodec) (source datagram now) :
    FrameCommits codec c source (receiveServerFrame codec source datagram now c).1
      (receiveServerFrame codec source datagram now c).2 := by
  rw [serverFrameCall]
  cases stands : serverCallOf codec source datagram now with
  | error e => exact .quiet _ _ (fun _ impossible => by cases impossible) (.inl rfl)
  | ok call =>
    rcases serverCallCases stands with ⟨body, decoded, sized, rfl⟩ | ⟨body, decoded, sized, rfl⟩
    · obtain ⟨_, nonzero, _, small⟩ := HandshakeExact.decodeForm decoded
      simp only [DecodedV2HandshakeFrame.body, sized] at nonzero small
      exact returnedCommits nonzero (Nat.le_trans (by decide) small) helloCommits
        (helloReturns corresponds source ⟨body.clientAttemptId, body.opaquePayload⟩ now).2
    · obtain ⟨_, nonzero, _, small⟩ := HandshakeExact.decodeForm decoded
      simp only [DecodedV2HandshakeFrame.body, sized] at nonzero small
      exact returnedCommits nonzero small finishCommits
        (finishReturns corresponds source ⟨body.clientAttemptId, body.opaquePayload⟩ now).2

theorem unestablishedServer (corresponds : Corresponds c) (never : ∀ session, c.policy.state ≠ .established session) :
    c.crypto.intoEstablishedTransport = none := by
  have apart : c.crypto.phase ≠ .established := by
    rw [coupledPhase corresponds.coupled, ServerHandshake.stateName]
    cases state : c.policy.state with
    | established session => exact absurd state (never session)
    | listening | closed => simp [ServerCoordinator.expectedPhase]
  unfold ServerProvider.intoEstablishedTransport
  rw [if_pos apart]

inductive ServerInput where
  | frame (source : SocketAddr) (datagram : Bytes) (now : Instant)
  | checkTimeouts (now : Instant)
  | shutdown

structure ServerMoment (S : Snow) where
  before : Server S
  input : ServerInput
  events : List ServerCoordinatorEvent
  after : Server S

def frameEvents : Except AdapterError ServerAdapterReport → List ServerCoordinatorEvent
  | .ok report => report.events
  | .error _ => []

def callEvents : ServerCoordinator.Result (ServerProvider S) → List ServerCoordinatorEvent
  | .ok report => report.events
  | .error _ => []

def observeServer (codec : V2HandshakeCodec) (c : Server S) (input : ServerInput) : ServerMoment S × Server S :=
  match input with
  | .frame source datagram now =>
    let answer := receiveServerFrame codec source datagram now c
    (⟨c, input, frameEvents answer.1, answer.2⟩, answer.2)
  | .checkTimeouts now =>
    let answer := ServerCoordinator.checkTimeouts now c
    (⟨c, input, callEvents answer.1, answer.2⟩, answer.2)
  | .shutdown =>
    let answer := ServerCoordinator.shutdownAll c
    (⟨c, input, callEvents answer.1, answer.2⟩, answer.2)

/- Where the context of a candidate came from: at one moment of the past a datagram
of the peer stood for its hello, no candidate had its id before, and the context
is the result of the Noise handshake with that hello. -/
structure Origin (codec : V2HandshakeCodec) (start : Server S) (past : List (ServerMoment S)) (id : CandidateId)
    (peer : SocketAddr) (context : PendingContext S) : Prop where
  admission : ∃ moment ∈ past, ∃ datagram now, moment.input = .frame peer datagram now ∧
    serverCallOf (S := S) codec peer datagram now = .ok (.clientHello peer ⟨context.attempt, context.clientHello⟩ now) ∧
    moment.before.policy.candidateById.get id = none ∧ Entered moment.after id peer context
  handshake : Handshaken start.crypto.localPrivateKey start.crypto.allowedClientKeys context

structure Followed (codec : V2HandshakeCodec) (start : Server S) (past : List (ServerMoment S)) (c : Server S) : Prop where
  corresponds : Corresponds c
  keys : SameKeys start.crypto c.crypto
  origin : ∀ id peer context, Entered c id peer context → Origin codec start past id peer context
  unannounced : (∀ moment ∈ past, ∀ e ∈ moment.events, reportsSession e = false) →
    ∀ session, c.policy.state ≠ .established session

variable {codec : V2HandshakeCodec} {start : Server S} {past : List (ServerMoment S)}

theorem originLater {moment id peer} {context : PendingContext S} (origin : Origin codec start past id peer context) :
    Origin codec start (past ++ [moment]) id peer context := by
  obtain ⟨⟨old, member, rest⟩, handshake⟩ := origin
  exact ⟨⟨old, List.mem_append_left _ member, rest⟩, handshake⟩

theorem unannouncedBefore {moment : ServerMoment S} {never : Prop}
    (before : (∀ moment ∈ past, ∀ e ∈ moment.events, reportsSession e = false) → never)
    (silent : ∀ other ∈ past ++ [moment], ∀ e ∈ other.events, reportsSession e = false) : never :=
  before fun other member => silent other (List.mem_append_left _ member)

theorem frameCorresponds (corresponds : Corresponds c) (codec : V2HandshakeCodec) (source datagram now) :
    Corresponds (receiveServerFrame codec source datagram now c).2 := by
  rw [serverFrameCall]
  cases serverCallOf codec source datagram now with
  | error e => exact corresponds
  | ok call => exact stepCorresponds corresponds call

theorem frameFollowed (followed : Followed codec start past c) (source datagram now) :
    Followed codec start (past ++ [(observeServer codec c (.frame source datagram now)).1])
      (receiveServerFrame codec source datagram now c).2 := by
  obtain ⟨corresponds, keys, origin, unannounced⟩ := followed
  have commits := frameCommits corresponds codec source datagram now
  have silent : (∀ moment ∈ past ++ [(observeServer codec c (.frame source datagram now)).1], ∀ e ∈ moment.events,
      reportsSession e = false) →
      ∀ session, (receiveServerFrame codec source datagram now c).2.policy.state ≠ .established session := by
    intro silent session
    have last := silent _ (List.mem_append_right _ (List.mem_singleton.mpr rfl))
    simp only [observeServer] at last
    generalize receiveServerFrame codec source datagram now c = answer at commits last ⊢
    obtain ⟨result, t⟩ := answer
    cases commits with
    | committed expired id context t datagram payload entered holds decoded =>
      exact absurd (last _ (List.mem_append_right _ (List.mem_singleton.mpr rfl))) (by simp [reportsSession])
    | quiet result t silentReport kept =>
      rcases kept with same | closed
      · rw [same]
        exact unannouncedBefore unannounced silent session
      · rw [show t.policy.state = _ from closed]
        simp
  refine ⟨frameCorresponds corresponds codec source datagram now, ?_, ?_, silent⟩
  · rw [serverFrameCall]
    cases serverCallOf codec source datagram now with
    | error e => exact keys
    | ok call => exact keys.trans (stepKeeps corresponds call)
  · intro id peer context entered
    have after := entered
    rw [serverFrameCall] at entered
    cases stands : serverCallOf codec source datagram now with
    | error e =>
      rw [stands] at entered
      exact originLater (origin id peer context entered)
    | ok call =>
      simp only [stands] at entered
      rcases stepEntered corresponds entered with before | ⟨⟨at_, rfl⟩, absent, handshake⟩
      · exact originLater (origin id peer context before)
      · rw [keys.own, keys.allowed] at handshake
        rcases serverCallCases stands with ⟨body, _, _, same⟩ | ⟨body, _, _, same⟩
        · simp only [ServerCall.clientHello.injEq] at same
          obtain ⟨rfl, _, rfl⟩ := same
          exact ⟨⟨_, List.mem_append_right _ (List.mem_singleton.mpr rfl), datagram, _, rfl, stands, absent, after⟩,
            handshake⟩
        · cases same

theorem callFollowed {call : ServerCall (ServerProvider S)} {moment} (followed : Followed codec start past c)
    (unheard : ∀ peer message now, call ≠ .clientHello peer message now)
    (state : (serverStep c call).2.policy.state = c.policy.state ∨ (serverStep c call).2.policy.state = .closed) :
    Followed codec start (past ++ [moment]) (serverStep c call).2 := by
  obtain ⟨corresponds, keys, origin, unannounced⟩ := followed
  refine ⟨stepCorresponds corresponds call, keys.trans (stepKeeps corresponds call), ?_, ?_⟩
  · intro id peer context entered
    rcases stepEntered corresponds entered with before | ⟨⟨now, same⟩, _⟩
    · exact originLater (origin id peer context before)
    · exact absurd same (unheard _ _ _)
  · intro silent session
    rcases state with same | closed
    · rw [same]
      exact unannouncedBefore unannounced silent session
    · simp [closed]

theorem observeFollowed (past : List (ServerMoment S)) (c : Server S) (input : ServerInput)
    (followed : Followed codec start past c) :
    Followed codec start (past ++ [(observeServer codec c input).1]) (observeServer codec c input).2 := by
  cases input with
  | frame source datagram now => exact frameFollowed followed source datagram now
  | checkTimeouts now =>
    refine @callFollowed S c codec start past (.checkTimeouts now) _ followed (by simp) (.inl ?_)
    obtain ⟨_, expired, m, ex, ran⟩ := timeoutsReturn followed.corresponds now
    simp only [serverStep, ran]
    exact ex.state
  | shutdown =>
    refine @callFollowed S c codec start past .shutdown _ followed (by simp) (.inr ?_)
    simp only [serverStep, shutdownLeaves]
    exact shutdownClosed_ c.policy

/- What an announcement of the server says: it is the only one of its report, which
sends one finish to the same peer, and the coordinator gives up the transport and
the metadata of the candidate that the peer was admitted as. -/
structure ServerHandOff (codec : V2HandshakeCodec) (start : Server S) (past : List (ServerMoment S)) (c : Server S)
    (report : ServerAdapterReport) (peer : SocketAddr) (metadata : EstablishedSessionMetadata) (t : Server S) : Prop where
  once : report.events.filter reportsSession = [.sessionEstablished peer metadata]
  candidate : ∃ id context datagram payload, Entered c id peer context ∧ Origin codec start past id peer context ∧
    report.datagrams = [⟨peer, datagram⟩] ∧ codec.decode datagram = .ok (.serverFinish ⟨context.attempt, payload⟩) ∧
    context.metadata = metadata ∧ t.crypto.intoEstablishedTransport = some (context.transport, metadata)

theorem announcedOnce {expired : List ExpiredServerCandidate} {event} (reports : reportsSession event = true) :
    (expired.map expiredEvent ++ [event]).filter reportsSession = [event] := by
  have none_ : (expired.map expiredEvent).filter reportsSession = [] := by
    rw [List.filter_eq_nil_iff]
    intro e member
    simp [expiredSilent expired e member]
  rw [List.filter_append, none_, List.nil_append, List.filter_singleton, reports]
  rfl

theorem serverHands {source datagram now report t peer metadata} (followed : Followed codec start past c)
    (received : receiveServerFrame codec source datagram now c = (.ok report, t))
    (announced : ServerCoordinatorEvent.sessionEstablished peer metadata ∈ report.events) :
    peer = source ∧ ServerHandOff codec start past c report peer metadata t := by
  have commits := frameCommits followed.corresponds codec source datagram now
  rw [received] at commits
  cases commits with
  | committed expired id context t datagram payload entered holds decoded =>
    have only := @announcedOnce expired (.sessionEstablished source context.metadata) rfl
    have found := List.mem_filter.mpr ⟨announced, (rfl : reportsSession (.sessionEstablished peer metadata) = true)⟩
    rw [only] at found
    cases List.mem_singleton.mp found
    exact ⟨rfl, only, id, context, datagram, payload, entered, followed.origin id source context entered, rfl, decoded,
      rfl, holds⟩
  | quiet result t silent kept => exact absurd (silent report rfl _ announced) (by simp [reportsSession])

inductive ClientInput where
  | start (now : Instant)
  | frame (source : SocketAddr) (datagram : Bytes) (now : Instant)
  | checkTimeout (now : Instant)
  | shutdown

def clientFrameEvents : Except AdapterError ClientAdapterReport → List ClientCoordinatorEvent
  | .ok report => report.events
  | .error _ => []

def clientCallEvents : ClientCoordinator.Result (ClientProvider S) → List ClientCoordinatorEvent
  | .ok report => report.events
  | .error _ => []

def observeClient (codec : V2HandshakeCodec) (c : Client S) : ClientInput → List ClientCoordinatorEvent × Client S
  | .start now =>
    let answer := startClientFrame codec now c
    (clientFrameEvents answer.1, answer.2)
  | .frame source datagram now =>
    let answer := receiveClientFrame codec source datagram now c
    (clientFrameEvents answer.1, answer.2)
  | .checkTimeout now =>
    let answer := ClientCoordinator.checkTimeout now c
    (clientCallEvents answer.1, answer.2)
  | .shutdown =>
    let answer := ClientCoordinator.shutdownAll c
    (clientCallEvents answer.1, answer.2)

structure ClientHandOff (report : ClientAdapterReport) (metadata : EstablishedSessionMetadata) (t : Client S) : Prop where
  once : report.events = [.sessionEstablished metadata]
  unsent : report.datagrams = []
  committed : ∃ transport, t.crypto.intoEstablishedTransport = some (transport, metadata)

section
variable {client : Client S}

theorem clientHands {source datagram now report t metadata} (numbered : Numbered client.policy)
    (received : receiveClientFrame codec source datagram now client = (.ok report, t))
    (announced : ClientCoordinatorEvent.sessionEstablished metadata ∈ report.events) :
    ClientHandOff report metadata t := by
  rw [clientFrameCall] at received
  cases stands : clientCallOf codec source datagram now with
  | error e =>
    rw [stands] at received
    cases received
  | ok call =>
    have sent := stepSends numbered call
    simp only [stands] at received
    generalize clientStep client call = outcome at sent received
    obtain ⟨result, last⟩ := outcome
    obtain ⟨reported, rfl⟩ := Prod.mk.inj received
    cases result with
    | error fatal => cases reported
    | ok r =>
      cases sent.outcome r rfl with
      | announced transport other t committed =>
        cases Except.ok.inj reported
        cases List.mem_singleton.mp announced
        exact ⟨rfl, rfl, transport, committed⟩
      | quiet r t silent kept =>
        simp only [clientReport] at reported
        split at reported <;> try contradiction
        cases Except.ok.inj reported
        exact absurd announced (silent metadata)

theorem frameNumbered (numbered : Numbered client.policy) (codec : V2HandshakeCodec) (source datagram now) :
    Numbered (receiveClientFrame codec source datagram now client).2.policy := by
  rw [clientFrameCall]
  cases clientCallOf codec source datagram now with
  | error e => exact numbered
  | ok call => exact (stepSends numbered call).numbered

structure Attended (past : List (List ClientCoordinatorEvent)) (client : Client S) : Prop where
  numbered : Numbered client.policy
  stable : ClientStable client
  unannounced : (∀ events ∈ past, ∀ metadata, ClientCoordinatorEvent.sessionEstablished metadata ∉ events) →
    ∀ metadata since, client.policy.state ≠ .established metadata since

theorem callAttended {past : List (List ClientCoordinatorEvent)} {told} {call : ClientCall (ClientProvider S)}
    (attended : Attended past client)
    (tells : ∀ metadata, (clientStep client call).1 = .ok ⟨[], [.sessionEstablished metadata]⟩ →
      ClientCoordinatorEvent.sessionEstablished metadata ∈ told) :
    Attended (past ++ [told]) (clientStep client call).2 := by
  obtain ⟨numbered, stable, unannounced⟩ := attended
  have sent := stepSends numbered call
  refine ⟨sent.numbered, (clientStepAnswer stable call).stable, ?_⟩
  intro silent metadata since established
  generalize clientStep client call = outcome at sent tells established
  obtain ⟨result, t⟩ := outcome
  cases result with
  | error fatal =>
    rw [sent.failed fatal rfl] at established
    contradiction
  | ok r =>
    cases sent.outcome r rfl with
    | announced transport other t committed =>
      exact silent told (List.mem_append_right _ (List.mem_singleton.mpr rfl)) other (tells other rfl)
    | quiet r t quiet kept =>
      rw [kept metadata since established] at established
      exact unannounced (fun events member => silent events (List.mem_append_left _ member)) metadata since established

theorem observeAttended (past : List (List ClientCoordinatorEvent)) (client : Client S) (input : ClientInput)
    (attended : Attended past client) :
    Attended (past ++ [(observeClient codec client input).1]) (observeClient codec client input).2 := by
  have encoded : ∀ {call : ClientCall (ClientProvider S)} metadata,
      (clientStep client call).1 = .ok ⟨[], [.sessionEstablished metadata]⟩ →
      ClientCoordinatorEvent.sessionEstablished metadata ∈
        clientFrameEvents (clientReport codec (clientStep client call).1) := by
    intro call metadata reported
    rw [reported]
    exact List.mem_singleton.mpr rfl
  have direct : ∀ {call : ClientCall (ClientProvider S)} metadata,
      (clientStep client call).1 = .ok ⟨[], [.sessionEstablished metadata]⟩ →
      ClientCoordinatorEvent.sessionEstablished metadata ∈ clientCallEvents (clientStep client call).1 := by
    intro call metadata reported
    rw [reported]
    exact List.mem_singleton.mpr rfl
  cases input with
  | start now => exact @callAttended S client past _ (.start now) attended encoded
  | checkTimeout now => exact @callAttended S client past _ (.checkTimeout now) attended direct
  | shutdown => exact @callAttended S client past _ .shutdown attended direct
  | frame source datagram now =>
    simp only [observeClient, clientFrameCall]
    cases clientCallOf codec source datagram now with
    | ok call => exact callAttended attended encoded
    | error e =>
      refine ⟨attended.numbered, attended.stable, fun silent => attended.unannounced ?_⟩
      intro events member
      exact silent events (List.mem_append_left _ member)

theorem unestablishedClient (stable : ClientStable client)
    (never : ∀ metadata since, client.policy.state ≠ .established metadata since) :
    client.crypto.intoEstablishedTransport = none := by
  have apart : client.crypto.phase ≠ .established := by
    intro established
    have pair := stable.pair
    change (client.policy.state.name, client.crypto.phase) ∈ clientPairs at pair
    rw [established] at pair
    cases state : client.policy.state with
    | established metadata since => exact never metadata since state
    | idle | awaitingServerHello | awaitingServerFinish | closed =>
      rw [state] at pair
      simp [clientPairs, ClientHandshakeState.name] at pair
  unfold ClientProvider.intoEstablishedTransport
  split
  · rw [if_neg apart]
  · rfl

end

section Loops
variable {settings : Settings}

theorem serverStepConsistent {r : ServerRuntime S} (wake : Wake)
    (inv : Corresponds r.coordinator ∧ r.status.inconsistent = false) :
    Corresponds (r.step settings wake).2.coordinator ∧ (r.step settings wake).2.status.inconsistent = false := by
  obtain ⟨corresponds, consistent⟩ := inv
  unfold ServerRuntime.step
  split
  · cases wake with
    | broken => exact ⟨corresponds, rfl⟩
    | timer now =>
      have after := stepCorresponds corresponds (.checkTimeouts now)
      unfold ServerRuntime.wake
      simp only
      split
      · exact ⟨corresponds, consistent⟩
      · split
        · exact ⟨after, rfl⟩
        · exact ⟨after, rfl⟩
    | received datagram source now unsent handedAt =>
      have commits := frameCommits corresponds settings.codec source (buffered settings.codec datagram) now
      have after := frameCorresponds corresponds settings.codec source (buffered settings.codec datagram) now
      unfold ServerRuntime.wake
      simp only
      generalize receiveServerFrame settings.codec source (buffered settings.codec datagram) now r.coordinator = answer
        at commits after ⊢
      obtain ⟨result, t⟩ := answer
      cases result with
      | error e =>
        simp only
        split
        · exact ⟨after, consistent⟩
        · exact ⟨after, rfl⟩
      | ok report =>
        refine ⟨?_, serverReportedConsistent ?_⟩
        · rw [serverReportedKeeps]
          exact after
        · intro peer metadata announced
          cases commits with
          | committed expired id context t datagram payload entered holds decoded =>
            rcases List.mem_append.mp announced with old | new
            · exact absurd (expiredSilent expired _ old) (by simp [reportsSession])
            · cases List.mem_singleton.mp new
              exact ⟨context.transport, holds⟩
          | quiet result t silent kept => exact absurd (silent report rfl _ announced) (by simp [reportsSession])
  · exact ⟨corresponds, consistent⟩
  · exact ⟨corresponds, consistent⟩

theorem clientStepConsistent {r : ClientRuntime S} (wake : Wake)
    (inv : Numbered r.coordinator.policy ∧ r.status.inconsistent = false) :
    Numbered (r.step settings wake).2.coordinator.policy ∧ (r.step settings wake).2.status.inconsistent = false := by
  obtain ⟨numbered, consistent⟩ := inv
  unfold ClientRuntime.step
  split
  · cases wake with
    | broken => exact ⟨numbered, rfl⟩
    | timer now => exact ⟨numbered, rfl⟩
    | received datagram source now unsent handedAt =>
      have hands := @clientHands S settings.codec r.coordinator r.serverAddr (buffered settings.codec datagram) now
      have after := frameNumbered numbered settings.codec r.serverAddr (buffered settings.codec datagram) now
      unfold ClientRuntime.wake
      simp only
      split
      · exact ⟨numbered, consistent⟩
      · generalize receiveClientFrame settings.codec r.serverAddr (buffered settings.codec datagram) now r.coordinator
          = answer at hands after ⊢
        obtain ⟨result, t⟩ := answer
        cases result with
        | error e =>
          simp only
          split
          · exact ⟨after, consistent⟩
          · exact ⟨after, rfl⟩
        | ok report =>
          refine ⟨?_, clientReportedConsistent fun metadata announced => (hands numbered rfl announced).committed⟩
          rw [clientReportedKeeps]
          exact after
  · exact ⟨numbered, consistent⟩
  · exact ⟨numbered, consistent⟩

theorem clientStartConsistent {client : Client S} (numbered : Numbered client.policy) (serverAddr now unsent) :
    let r := (ClientRuntime.start settings serverAddr now unsent client).2
    Numbered r.coordinator.policy ∧ r.status.inconsistent = false := by
  have after := (stepSends numbered (.start now)).numbered
  unfold ClientRuntime.start
  simp only
  split
  · exact ⟨after, rfl⟩
  · refine ⟨after, ?_⟩
    simp only
    split <;> rfl

end Loops

theorem establishmentHandOff (codec : V2HandshakeCodec) {policy sources ids key allowed hasher rng} {server : Server S}
    (serverBuilt : ServerCoordinator.build (ServerHandshake.new policy sources ids)
      (ServerProvider.new key allowed hasher rng) = .ok server)
    {endpoint timeout clientPolicy own pin clientRng} {client : Client S}
    (configured : ClientHandshake.new endpoint timeout = .ok clientPolicy)
    (clientBuilt : ClientCoordinator.build clientPolicy (ClientProvider.new own pin clientRng) = .ok client) :
    (∀ inputs, let past := run (observeServer codec) server inputs
      (∀ source datagram now report t peer metadata, receiveServerFrame codec source datagram now past.2 = (.ok report, t) →
        ServerCoordinatorEvent.sessionEstablished peer metadata ∈ report.events →
          peer = source ∧ ServerHandOff codec server past.1 past.2 report peer metadata t) ∧
      ((∀ moment ∈ past.1, ∀ e ∈ moment.events, reportsSession e = false) →
        past.2.crypto.intoEstablishedTransport = none)) ∧
    (∀ inputs, let past := run (observeClient codec) client inputs
      (∀ source datagram now report t metadata, receiveClientFrame codec source datagram now past.2 = (.ok report, t) →
        ClientCoordinatorEvent.sessionEstablished metadata ∈ report.events → ClientHandOff report metadata t) ∧
      ((∀ events ∈ past.1, ∀ metadata, ClientCoordinatorEvent.sessionEstablished metadata ∉ events) →
        past.2.crypto.intoEstablishedTransport = none)) ∧
    ∀ (mtu : Nat) (limits : DataSession.SessionLimits) (wakes : List Wake), let settings : Settings := ⟨codec, mtu, limits⟩
      (run (ServerRuntime.step settings) ⟨server, .waiting⟩ wakes).2.status.inconsistent = false ∧
      ∀ serverAddr now unsent, (run (ClientRuntime.step settings)
        (ClientRuntime.start settings serverAddr now unsent client).2 wakes).2.status.inconsistent = false := by
  obtain ⟨server', built, opened, corresponds⟩ := @builtCorresponds S policy sources ids key allowed hasher rng
  cases Except.ok.inj (built.symm.trans serverBuilt)
  have stable := CoordinatorStability.clientBuilt clientBuilt
  obtain ⟨idle, numbered⟩ := builtNumbered configured clientBuilt
  refine ⟨?_, ?_, ?_⟩
  · intro inputs past
    have fresh : Followed codec server [] server := by
      refine ⟨corresponds, ⟨rfl, rfl⟩, ?_, ?_⟩
      · intro id peer context entered
        have found := entered.context
        rw [opened] at found
        simp [ServerProvider.new] at found
      · intro _ session
        rw [opened]
        simp [ServerHandshake.new]
    have followed : Followed codec server past.1 past.2 := by
      have reached := runHistory observeFollowed fresh inputs
      rwa [List.nil_append] at reached
    refine ⟨?_, fun silent => unestablishedServer followed.corresponds (followed.unannounced silent)⟩
    intro source datagram now report t peer metadata received announced
    exact serverHands followed received announced
  · intro inputs past
    have fresh : Attended [] client := by
      refine ⟨numbered, stable, fun _ metadata since => ?_⟩
      simp [idle]
    have attended : Attended past.1 past.2 := by
      have reached := runHistory (@observeAttended S codec) fresh inputs
      rwa [List.nil_append] at reached
    refine ⟨?_, fun silent => unestablishedClient attended.stable (attended.unannounced silent)⟩
    intro source datagram now report t metadata received announced
    exact clientHands attended.numbered received announced
  · intro mtu limits wakes settings
    refine ⟨?_, fun serverAddr now unsent => ?_⟩
    · exact (@runInvariant _ _ _ (ServerRuntime.step settings)
        (fun r => Corresponds r.coordinator ∧ r.status.inconsistent = false)
        (fun _ wake inv => serverStepConsistent wake inv) ⟨server, .waiting⟩ ⟨corresponds, rfl⟩ wakes).2
    · exact (@runInvariant _ _ _ (ClientRuntime.step settings)
        (fun r => Numbered r.coordinator.policy ∧ r.status.inconsistent = false)
        (fun _ wake inv => clientStepConsistent wake inv) _ (clientStartConsistent numbered serverAddr now unsent) wakes).2

end

section Plain
open ServerRemoteInput

def plainHellos : List ServerInput := [.frame (plainEndpoint 1000) (plainDatagram .clientHello plainHello) 1]

def plainPast : List (ServerMoment plainSnow) × Server plainSnow := run (observeServer plainCodec) plainServer plainHellos

def plainFinished : Except AdapterError ServerAdapterReport × Server plainSnow :=
  receiveServerFrame plainCodec (plainEndpoint 1000) (plainDatagram .clientFinish plainFinish) 1 plainPast.2

def plainReport : ServerAdapterReport :=
  ⟨[⟨plainEndpoint 1000, plainDatagram .serverFinish plainAnswer⟩],
    [.sessionEstablished (plainEndpoint 1000) plainSession.metadata]⟩

theorem establishmentHandOffPlain : plainFinished.1 = .ok plainReport ∧
    ServerHandOff plainCodec plainServer plainPast.1 plainPast.2 plainReport (plainEndpoint 1000) plainSession.metadata
      plainFinished.2 := by
  have serverBuilt : ServerCoordinator.build plainServer.policy plainServerProvider = .ok plainServer := rfl
  have configured : ClientHandshake.new (plainEndpoint 2000) 10 = .ok plainClient.policy := rfl
  have clientBuilt : ClientCoordinator.build plainClient.policy plainClientProvider = .ok plainClient := rfl
  have reported : plainFinished.1 = .ok plainReport := by decide +kernel
  have received : plainFinished = (.ok plainReport, plainFinished.2) := Prod.ext reported rfl
  refine ⟨reported, ?_⟩
  have known := (establishmentHandOff plainCodec serverBuilt configured clientBuilt).1 plainHellos
  exact (known.1 _ _ _ _ _ _ _ received (List.mem_singleton.mpr rfl)).2

def plainSettings : Settings :=
  ⟨plainCodec, 1400, (DataSession.SessionLimits.new 1 1 1 1 10).toOption.get rfl⟩

def plainWakes : List Wake :=
  [.received (plainDatagram .clientHello plainHello) (plainEndpoint 1000) 1 none 1, .timer 2,
    .received (plainDatagram .clientFinish plainFinish) (plainEndpoint 1000) 3 none 3]

example : (match (run (ServerRuntime.step plainSettings) ⟨plainServer, .waiting⟩ plainWakes).2.status with
    | .forwarding _ session => decide (session.metadata = plainSession.metadata)
    | _ => false) = true := by decide +kernel

end Plain
end Crabnet.SessionHandOff
