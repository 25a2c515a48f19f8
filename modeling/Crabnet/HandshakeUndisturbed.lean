import Crabnet.ServerRecovery

/-! A server that has room for one candidate, as the runtime makes it, and has given it
away. Until that candidate's deadline no datagram of anybody else moves the server, so a
handshake completes whatever strangers send. -/
namespace Crabnet.HandshakeUndisturbed
open MachineWord SessionTypes Fallible HashTable CryptoBoundary PendingManager ServerPolicy ServerRegistry ServerOutcomes
open ServerRuns HandshakeTypes ClientPolicy NoiseProfile SnowBoundary HandshakeCodec NoiseServer NoiseClient HandshakeAdapter
open FrameExchange CoordinatorStability ServerCoupling ServerCorrespondence CandidateIsolation NoiseRuntime DataFrame DataPipeline
open HandshakeCompletion SessionOpening ServerRecovery
open ClientLedger (Client)

theorem opsConfigured (ops : List ServerOp) {h : ServerHandshake} (reg : Registered h) :
    Registered (run ServerRuns.step h ops).2 ∧ (run ServerRuns.step h ops).2.pending.policy = h.pending.policy := by
  induction ops generalizing h with
  | nil => exact ⟨reg, rfl⟩
  | cons op rest ih =>
    have kept := (stepKept reg op).1
    obtain ⟨after, same⟩ := ih kept.registered
    exact ⟨after, same.trans kept.policy⟩

section
variable {S : Snow} {settings : Settings} {c : Server S}

theorem callConfigured (reg : Registered c.policy) (call : ServerCall (ServerProvider S)) :
    (serverStep c call).2.policy.pending.policy = c.policy.pending.policy := by
  obtain ⟨ops, _, same⟩ := @stepDriven (ServerProvider S) _ c call
  rw [same]
  exact (opsConfigured ops reg).2

variable {source peer : SocketAddr} {now : Instant} {record : PendingCandidate} {attempt : ClientAttemptId}
  {context : PendingContext S}

structure Taken (peer : SocketAddr) (record : PendingCandidate) (attempt : ClientAttemptId) (context : PendingContext S)
    (c : Server S) : Prop where
  corresponds : Corresponds c
  single : c.policy.pending.policy.maximumPending = 1
  holds : Holds c peer record attempt context

theorem Taken.listening (taken : Taken peer record attempt context c) : c.policy.state = .listening := by
  by_contra outside
  have empty := (HashMap.lenEqZeroIff _).mp (taken.corresponds.registered.emptyOutside outside).1 peer
  have held := taken.holds.pending
  rw [empty] at held
  contradiction

theorem Taken.free (taken : Taken peer record attempt context c) (elsewhere : source ≠ peer) :
    c.policy.pending.pendingBySource.get source = none := by
  cases found : c.policy.pending.pendingBySource.get source with
  | none => rfl
  | some other =>
    have one := taken.corresponds.registered.bounded
    rw [taken.single] at one
    exact absurd (HashMap.soleKey one found taken.holds.pending) elsewhere

theorem Taken.unowned (taken : Taken peer record attempt context c) (elsewhere : source ≠ peer) {m expired b}
    (ex : Expires c.policy now expired m) (reg : Registered m) : ¬ Owned m source b := by
  intro owned
  obtain ⟨other, found, _⟩ := ownedPending reg owned
  rw [ex.manager, taken.free elsewhere] at found
  contradiction

theorem Taken.full (taken : Taken peer record attempt context c) (early : now < record.deadline) {m expired}
    (ex : Expires c.policy now expired m) : m.pending.policy.maximumPending ≤ m.pending.pendingBySource.len := by
  rw [ex.policy, taken.single, Nat.one_le_iff_ne_zero]
  intro empty
  have kept := ex.manager peer
  rw [(HashMap.lenEqZeroIff _).mp empty peer, taken.holds.pending] at kept
  simp [Option.filter, early] at kept

theorem helloFull (taken : Taken peer record attempt context c) (elsewhere : source ≠ peer) (early : now < record.deadline)
    (other : ClientAttemptId) :
    Action.wp (ServerHandshake.handleValidClientHello source other now)
      (fun report _ => ∃ reason, report.effects = [.dropped source reason]) (fun _ _ => False) c.policy := by
  simp only [ServerHandshake.handleValidClientHello, Action.wpBind, Action.wpRead]
  refine Action.wpMono (expireSpec taken.corresponds.registered now) ?_ (fun _ _ impossible => impossible)
  intro expired m spec
  obtain ⟨ex, registered⟩ := spec
  have state : m.state = .listening := ex.state.trans taken.listening
  have running := notClosed registered state
  have absent : m.pending.pendingBySource.get source = none := by
    rw [ex.manager, taken.free elsewhere]
    rfl
  have full := taken.full early ex
  simp only [state, SessionManager.admitSource, Action.wpBind, Action.wpMapError, Action.wpWithin, Action.wpTotal,
    expireNothing running (fun _ _ found => expiresEarly ex found), Action.wpRead, running, if_false, absent, full, if_true,
    Action.wpPure, ServerHandshake.applyAdmission]
  exact ⟨_, rfl⟩

theorem strangerDropped (taken : Taken peer record attempt context c) {call : ServerCall (ServerProvider S)}
    (from_ : sender call = some (source, now)) (elsewhere : source ≠ peer) (early : now < record.deadline) :
    ∃ reason, PolicyDrops c.policy reason call := by
  cases call with
  | clientHello source' message at_ =>
    cases Option.some.inj from_
    have spec := helloFull taken elsewhere early message.clientAttemptId
    rcases ran : ServerHandshake.handleValidClientHello source message.clientAttemptId now c.policy with ⟨_ | report, m⟩
    · exact (Action.wpError spec ran).elim
    · obtain ⟨reason, dropped⟩ : ∃ reason, report.effects = [.dropped source reason] := Action.wpOk spec ran
      exact ⟨reason, report, m, ran, dropped⟩
  | clientFinish source' message at_ =>
    cases Option.some.inj from_
    have spec := precheckSpec taken.corresponds.registered source message.clientAttemptId now
    rcases ran : ServerHandshake.precheckClientFinish source message.clientAttemptId now c.policy with ⟨_ | report, m⟩
    · exact (Action.wpError spec ran).elim
    obtain ⟨ex, reg, decision⟩ := Action.wpOk spec ran
    have state : m.state = .listening := ex.state.trans taken.listening
    refine ⟨.noPendingCandidate, report, m, ran, ?_⟩
    generalize report.decision = decided at decision
    cases decision with
    | absent listening free => rfl
    | unavailable closed => exact absurd (closed.symm.trans state) (by simp)
    | duplicate session established peer same => exact absurd (established.symm.trans state) (by simp)
    | active session established other => exact absurd (established.symm.trans state) (by simp)
    | stale b owned other => exact (taken.unowned elsewhere ex reg owned).elim
    | permitted b owned same => exact (taken.unowned elsewhere ex reg owned).elim
  | checkTimeouts at_ => contradiction
  | shutdown => contradiction

theorem takenCalled (taken : Taken peer record attempt context c) {call : ServerCall (ServerProvider S)}
    (holds : Holds (serverStep c call).2 peer record attempt context) :
    Taken peer record attempt context (serverStep c call).2 := by
  have policy := callConfigured taken.corresponds.registered call
  exact ⟨stepCorresponds taken.corresponds call, (congrArg SessionPolicy.maximumPending policy).trans taken.single, holds⟩

structure Undisturbed (peer : SocketAddr) (record : PendingCandidate) (attempt : ClientAttemptId)
    (context : PendingContext S) (r : ServerRuntime S) : Prop where
  waiting : r.status = .waiting
  taken : Taken peer record attempt context r.coordinator

theorem reportedQuiet {unsent handedAt} {r : ServerRuntime S} {events : List ServerCoordinatorEvent}
    (quiet : events.findSome? ServerRuntime.establishedPeer = none) :
    r.reported settings unsent handedAt ⟨[], events⟩ = ([], {r with status := .waiting}) := by
  have sent : sendAll unsent ([] : List ServerAdapterDatagram) = ([], true) := by
    unfold sendAll
    split <;> simp
  simp only [ServerRuntime.reported, sent, Bool.true_eq_false, if_false, quiet]

theorem dropsQuiet (expired : List ExpiredServerCandidate) (source : SocketAddr) (reason : ServerDropReason) :
    (expired.map expiredEvent ++ [ServerCoordinatorEvent.dropped source reason]).findSome? ServerRuntime.establishedPeer =
      none := by
  rw [List.findSome?_append, expiredQuiet]
  rfl

theorem callSender {codec : V2HandshakeCodec} {datagram} {call : ServerCall (ServerProvider S)}
    (stands : serverCallOf codec source datagram now = .ok call) : sender call = some (source, now) := by
  rcases serverCallCases stands with ⟨_, _, _, rfl⟩ | ⟨_, _, _, rfl⟩ <;> rfl

/- A stranger gets no answer, and what it sent changes neither the candidate of `peer`
nor the loop. -/
theorem strangerLeaves {r : ServerRuntime S} (undisturbed : Undisturbed peer record attempt context r) (wake : Wake)
    (stranger : Wake.stranger peer record.deadline wake) :
    (r.step settings wake).1 = [] ∧ Undisturbed peer record attempt context (r.step settings wake).2 := by
  obtain ⟨waiting, taken⟩ := undisturbed
  simp only [ServerRuntime.step, waiting]
  cases wake with
  | broken => exact stranger.elim
  | timer now =>
    simp only [ServerRuntime.wake]
    split
    · exact ⟨rfl, waiting, taken⟩
    have after := @takenCalled S r.coordinator peer record attempt context taken (.checkTimeouts now)
      (timeoutsHold taken.corresponds taken.holds stranger)
    obtain ⟨_, expired, m, _, ran⟩ := timeoutsReturn taken.corresponds now
    simp only [serverStep] at after
    rw [ran] at after ⊢
    exact ⟨rfl, rfl, after⟩
  | received datagram source now unsent handedAt =>
    obtain ⟨elsewhere, early⟩ := stranger
    simp only [ServerRuntime.wake, serverFrameCall]
    cases stands : serverCallOf settings.codec source (buffered settings.codec datagram) now with
    | error e =>
      simp only [serverCallRejected stands, if_true]
      exact ⟨trivial, waiting, taken⟩
    | ok call =>
      have from_ := callSender stands
      obtain ⟨reason, drops⟩ := strangerDropped taken from_ elsewhere early
      obtain ⟨expired, m, ex, _, ran⟩ := callDrops taken.corresponds drops from_
      have holds := holdsTrimmed taken.corresponds.registered ex taken.holds early
      have report : serverReport settings.codec (serverStep r.coordinator call).1 =
          .ok ⟨[], expired.map expiredEvent ++ [.dropped source reason]⟩ := by
        rw [ran]
        rfl
      simp only [report, reportedQuiet (dropsQuiet expired source reason)]
      exact ⟨trivial, rfl, takenCalled taken (by simpa only [ran] using holds)⟩

theorem strangersLeave {r : ServerRuntime S} (undisturbed : Undisturbed peer record attempt context r) (wakes : List Wake)
    (strangers : ∀ wake ∈ wakes, Wake.stranger peer record.deadline wake) :
    (run (ServerRuntime.step settings) r wakes).1.flatten = [] ∧
      Undisturbed peer record attempt context (run (ServerRuntime.step settings) r wakes).2 := by
  induction wakes generalizing r with
  | nil => exact ⟨rfl, undisturbed⟩
  | cons wake rest ih =>
    obtain ⟨silent, after⟩ := @strangerLeaves S settings peer record attempt context r undisturbed wake
      (strangers wake List.mem_cons_self)
    obtain ⟨more, later⟩ := ih after fun other member => strangers other (List.mem_cons_of_mem _ member)
    refine ⟨?_, later⟩
    simp only [run, List.flatten_cons, silent, more, List.append_nil]

variable {clientPrivate clientPublic serverPrivate serverPublic : Bytes}

theorem crowdMeets {w : Schedule} {timeout closing deadline initiator answer hash record context} {m : Meeting S}
    (met : Met settings w clientPublic serverPublic timeout closing deadline initiator answer hash record context m)
    (single : m.server.coordinator.policy.pending.policy.maximumPending = 1)
    (strangers : ∀ wake ∈ w.others, Wake.stranger w.clientAddr deadline wake)
    (foreign : ∀ wake ∈ w.beforeWelcome, Wake.foreign w.serverAddr wake) :
    (run (ServerRuntime.step settings) m.server w.others).1.flatten = [] ∧
      Met settings w clientPublic serverPublic timeout closing deadline initiator answer hash record context
        (crowd settings w m) := by
  obtain ⟨client, addressed, greeted, server, corresponds, holds, rfl, candidate, sent⟩ := met
  have same : (crowd settings w m).client = m.client :=
    foreignIgnored client w.beforeWelcome (by rw [addressed]; exact foreign)
  have undisturbed : Undisturbed w.clientAddr record ⟨1⟩ context m.server := ⟨server, corresponds, single, holds⟩
  obtain ⟨silent, waiting, taken⟩ :=
    @strangersLeave S settings w.clientAddr record ⟨1⟩ context m.server undisturbed w.others strangers
  exact ⟨silent, by rw [same]; exact client, by rw [same]; exact addressed, by rw [same]; exact greeted, waiting, taken.corresponds,
    taken.holds, rfl, candidate, sent⟩

/- Every message arrives before the deadline that its receiver set for it, and the
rest is noise: no datagram of the client's to the server but its own two, none from
the server's address to the client but the server's. -/
structure InTime (w : Schedule) (timeout : Duration) (deadline : Instant) : Prop where
  welcome : ∃ closing, Instant.checkedAdd w.startAt timeout = some closing ∧ w.welcomeAt < closing
  finish : w.finishAt < deadline
  confirm : ∃ later, Instant.checkedAdd w.welcomeAt timeout = some later ∧ w.confirmAt < later
  strangers : ∀ wake ∈ w.others, Wake.stranger w.clientAddr deadline wake
  foreign : ∀ wake ∈ w.beforeWelcome ++ w.beforeConfirm, Wake.foreign w.serverAddr wake

-- What no call changes of a server: the keys it was built with, and its policy.
structure Unaltered (server c : Server S) : Prop where
  corresponds : Corresponds c
  keys : SameKeys server.crypto c.crypto
  policy : c.policy.pending.policy = server.policy.pending.policy

theorem runUnaltered {server : Server S} {r : ServerRuntime S} (held : Unaltered server r.coordinator) (wakes : List Wake) :
    Unaltered server (run (ServerRuntime.step settings) r wakes).2.coordinator := by
  refine @serverRunKeeps S settings (Unaltered server) ?_ r held wakes
  intro c call before
  obtain ⟨corresponds, keys, policy⟩ := before
  exact ⟨stepCorresponds corresponds call, keys.trans (stepKeeps corresponds call),
    (callConfigured corresponds.registered call).trans policy⟩

end

/-! Port 3000 says hello before and after the client does, and then sends a finish that
no key opens. -/

section Plain
open ServerRemoteInput (plainCodec plainDatagram plainHello forgedFinish)

theorem plainOpenSeal (nonce : UInt64) (payload : Bytes) : plainOpen nonce (plainSeal nonce payload) = some payload := by
  simp [plainOpen, plainSeal, plainTag]

theorem plainAnswers (initiator responder : PlainHandshake) (first : initiator.initiator = true)
    (second : responder.initiator = false) (pinned : initiator.remoteKey = some plainServerKey)
    (same : initiator.prologue = responder.prologue) : Answers plainSnow plainServerKey initiator responder := by
  intro entropy record sized
  refine ⟨plainWrite responder record, responder, initiator, rfl, ?_, ?_, pinned, ?_, ?_, (), (), rfl, rfl, plainPaired,
    plainPaired⟩
  · simp [plainWrite, second, plainSeal, plainTag, sized, controlRecordLength, serverHelloPayloadLength]
  · change plainRead initiator (plainWrite responder record) = _
    simp [plainRead, first, plainWrite, second, plainOpenSeal]
    rfl
  · exact FixedBytes.sized _
  · change (FixedBytes.copyFrom 32 responder.prologue).toList = (FixedBytes.copyFrom 32 initiator.prologue).toList
    rw [same]

theorem plainCooperative : Cooperative plainSnow plainClientKey plainClientKey plainServerKey plainServerKey where
  parses := ⟨(), rfl⟩
  initiates _ _ _ := ⟨_, rfl⟩
  responds _ _ _ := ⟨_, rfl⟩
  opens params prologue initiator responder entropy record _ begun waiting sized := by
    cases Option.some.inj begun
    cases Option.some.inj waiting
    refine ⟨_, _, ⟨false, plainServerKey, some plainClientKey, prologue⟩, rfl, ?_, ?_, rfl, plainAnswers _ _ rfl rfl rfl rfl⟩
    · simp [plainWrite, plainSeal, plainTag, plainClientKey, sized, controlRecordLength, clientHelloPayloadLength]
    · have key : slice (plainWrite ⟨true, plainClientKey, some plainServerKey, prologue⟩ record) 32 80 =
          plainSeal 0 plainClientKey := by
        simp [slice, plainWrite, plainSeal, plainTag, plainClientKey]
      have body : (plainWrite ⟨true, plainClientKey, some plainServerKey, prologue⟩ record).drop 80 = plainSeal 0 record := by
        simp [plainWrite, plainSeal, plainTag, plainClientKey]
      have read : plainRead ⟨false, plainServerKey, none, prologue⟩
          (plainWrite ⟨true, plainClientKey, some plainServerKey, prologue⟩ record) =
          (some record, ⟨false, plainServerKey, some plainClientKey, prologue⟩) := by
        simp only [plainRead, Bool.false_eq_true, if_false, key, body, plainOpenSeal]
      exact read

def plainDataCodec : DataFrameCodec := ⟨1300, 1367, 1418, by decide, rfl, by decide, rfl, by decide⟩

def plainSingle : Server plainSnow :=
  ⟨.new ((SessionPolicy.new 1 10 10).toOption.get rfl) (.listing _ _) (.listing _ _), plainServerProvider, .running⟩

def plainPast : List Wake := [.received (plainDatagram .clientHello plainHello) (plainEndpoint 3000) 1 none 1]

def plainSchedule : Schedule where
  clientAddr := plainEndpoint 1000
  serverAddr := plainEndpoint 2000
  startAt := 10
  helloAt := 11
  welcomeAt := 14
  finishAt := 15
  confirmAt := 16
  serverHandedAt := 15
  clientHandedAt := 16
  others := [.received (plainDatagram .clientHello plainHello) (plainEndpoint 3000) 12 none 12,
    .received (plainDatagram .clientFinish forgedFinish) (plainEndpoint 3000) 13 none 13, .timer 14]
  beforeWelcome := [.received [7] (plainEndpoint 3000) 12 none 12]
  beforeConfirm := []

def plainReached : ServerRuntime plainSnow :=
  (run (ServerRuntime.step plainOpeningSettings) ⟨plainSingle, .waiting⟩ plainPast).2

def plainGreeted : Meeting plainSnow := greet plainOpeningSettings plainSchedule plainClient plainReached

end Plain
end Crabnet.HandshakeUndisturbed
