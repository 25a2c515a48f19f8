import Crabnet.CandidateTiming
import Crabnet.SessionOpening

/-! What strangers can hold of a server, and for how long. A call of the coordinator
asks of the policy one of a few scripts of operations; so no candidate outlives the
last moment at which anything arrived by more than the timeout, and from then on the
server has room for every peer. -/
namespace Crabnet.ServerRecovery
open MachineWord SessionTypes Fallible HashTable CryptoBoundary PendingManager ServerPolicy ServerRegistry ServerRuns
open ServerTrail HandshakeTypes HandshakeCodec SnowBoundary NoiseServer HandshakeAdapter FrameExchange
open CoordinatorStability
open ServerCoupling ServerCorrespondence NoiseRuntime HandshakeCompletion SessionOpening CandidateTiming

section Scripts
open ServerCoordinator ServerHandshakeCrypto
variable {C : Type} [ServerHandshakeCrypto C]

inductive Script : ServerCall C → List ServerOp → Prop where
  | hello {source message now} :
    Script (.clientHello source message now) [.validClientHello source message.clientAttemptId now]
  | helloAborted {source message now id attempt} : Script (.clientHello source message now)
      [.validClientHello source message.clientAttemptId now, .abortExactCandidate source id attempt]
  | finish {source message now} :
    Script (.clientFinish source message now) [.precheckClientFinish source message.clientAttemptId now]
  | finishAborted {source message now id attempt} : Script (.clientFinish source message now)
      [.precheckClientFinish source message.clientAttemptId now, .abortExactCandidate source id attempt]
  | finished {source message now id attempt metadata} : Script (.clientFinish source message now)
      [.precheckClientFinish source message.clientAttemptId now,
        .authenticatedClientFinish source id attempt metadata now]
  | timeouts {now} : Script (.checkTimeouts now) [.checkTimeouts now]
  | shutdown : Script .shutdown [.shutdown]
  -- every early return of the coordinator shuts the policy down
  | failed {call ops} (script : Script call ops) : Script call (ops ++ [.shutdown])

def Driven (call : ServerCall C) (h t : ServerHandshake) : Prop :=
  ∃ ops, Script call ops ∧ t = (run step h ops).2

variable {c : ServerHandshakeCoordinator C} {D : ServerHandshake → Prop} {α : Type}
  {Q : α → ServerHandshakeCoordinator C → Prop}

/-! Rules for what is asked of the policy alone: the provider may do anything. -/

omit [ServerHandshakeCrypto C] in
theorem cryptoApart {x : Action C CryptoStateError α} (held : D c.policy)
    (post : ∀ a crypto, Q a {c with crypto := crypto}) : Action.wp (onCrypto x) Q (fun _ t => D t.policy) c :=
  callRule (fun a crypto _ => post a crypto) (fun _ _ => held)

omit [ServerHandshakeCrypto C] in
theorem policyMoves {x : ServerHandshake.Step α} (held : D (x c.policy).2)
    (post : ∀ a, Q a {c with policy := (x c.policy).2}) : Action.wp (onPolicy x) Q (fun _ t => D t.policy) c := by
  simp only [onPolicy, Action.wpMapError, Action.wpWithin]
  unfold Action.wp
  rcases ran : x c.policy with ⟨_ | a, t⟩
  · rw [ran] at held
    exact held
  · have after := post a
    rw [ran] at after
    exact after

omit [ServerHandshakeCrypto C] in
theorem askApart {x : C → Except CryptoStateError α} (held : D c.policy) (post : ∀ a, Q a c) :
    Action.wp (askCrypto x) Q (fun _ t => D t.policy) c := askRule (fun a _ => post a) (fun _ => held)

theorem verifyApart {Q : Unit → ServerHandshakeCoordinator C → Prop} (held : D c.policy) (post : Q () c) :
    Action.wp verifyStable Q (fun _ t => D t.policy) c := by
  unfold Action.wp verifyStable
  cases verifyServerStable c.policy c.crypto with
  | ok _ => exact post
  | error _ => exact held

theorem removalApart {candidateId attempt expected} {Q : Unit → ServerHandshakeCoordinator C → Prop}
    (held : D c.policy) (post : ∀ crypto, Q () {c with crypto := crypto}) :
    Action.wp (expectRemoval candidateId attempt expected) Q (fun _ t => D t.policy) c := by
  simp only [expectRemoval, Action.wpBind]
  refine cryptoApart held fun removal crypto => ?_
  simp only [Action.wpIte, violated, Action.wpFail, Action.wpPure]
  exact ⟨fun _ => held, fun _ => post crypto⟩

theorem reconcileApart {Q : List ServerCoordinatorEvent → ServerHandshakeCoordinator C → Prop}
    (expired : List ExpiredServerCandidate) (held : D c.policy)
    (post : ∀ events crypto, Q events {c with crypto := crypto}) :
    Action.wp (reconcileExpired expired) Q (fun _ t => D t.policy) c := by
  induction expired generalizing c Q with
  | nil => exact post [] c.crypto
  | cons candidate rest ih =>
    simp only [reconcileExpired, Action.wpBind, Action.wpPure]
    refine removalApart held fun crypto => ?_
    exact ih (c := {c with crypto := crypto}) held fun events later => post _ later

theorem prepareApart {candidateId attempt sessionId}
    {Q : PreparedServerFinish (ServerFinishPayload C) → ServerHandshakeCoordinator C → Prop} (held : D c.policy)
    (post : ∀ prepared, Q prepared c) :
    Action.wp (prepareFinish candidateId attempt sessionId) Q (fun _ t => D t.policy) c := by
  simp only [prepareFinish, Action.wpBind]
  refine askApart held fun prepared => ?_
  simp only [Action.wpIte, violated, Action.wpFail, Action.wpPure]
  exact ⟨fun _ => held, fun _ => post prepared⟩

theorem reportedState (x : ServerHandshake.Step ServerReport) (h : ServerHandshake) : (reported x h).2 = (x h).2 := by
  simp only [reported, bind, Action.andThen, pure]
  rcases x h with ⟨_ | _, _⟩ <;> rfl

theorem helloStepState (source attempt now) (h : ServerHandshake) :
    (step h (.validClientHello source attempt now)).2 = (ServerHandshake.handleValidClientHello source attempt now h).2 :=
  reportedState _ h

theorem finishStepState (source id attempt metadata now) (h : ServerHandshake) :
    (step h (.authenticatedClientFinish source id attempt metadata now)).2 =
      (ServerHandshake.handleAuthenticatedClientFinish source id attempt metadata now h).2 :=
  reportedState _ h

theorem timeoutsStepState (now) (h : ServerHandshake) :
    (step h (.checkTimeouts now)).2 = (ServerHandshake.checkTimeouts now h).2 := reportedState _ h

theorem precheckStepState (source attempt now) (h : ServerHandshake) :
    (step h (.precheckClientFinish source attempt now)).2 = (ServerHandshake.precheckClientFinish source attempt now h).2 := by
  simp only [step, perform, bind, Action.andThen, pure]
  rcases ServerHandshake.precheckClientFinish source attempt now h with ⟨_ | _, _⟩ <;> rfl

theorem abortStepState (source id attempt) (h : ServerHandshake) :
    (step h (.abortExactCandidate source id attempt)).2 = (ServerHandshake.abortExactCandidate source id attempt h).2 := by
  simp only [step, perform, bind, Action.andThen, pure]
  rcases ServerHandshake.abortExactCandidate source id attempt h with ⟨_ | _, _⟩ <;> rfl

def Drives (call : ServerCall C) (h : ServerHandshake) (x : Step C α) (c : ServerHandshakeCoordinator C) : Prop :=
  Action.wp x (fun _ t => Driven call h t.policy) (fun _ t => Driven call h t.policy) c

theorem abortDrives {call : ServerCall C} {h events source id attempt expected}
    (more : Driven call h (step c.policy (.abortExactCandidate source id attempt)).2) :
    Drives call h (abortCandidate events source id attempt expected) c := by
  rw [abortStepState] at more
  simp only [Drives, abortCandidate, Action.wpBind, Action.wpPure]
  refine policyMoves more fun _ => ?_
  refine removalApart more fun crypto => ?_
  exact verifyApart more more

theorem helloDrives (source message now) :
    Drives (.clientHello source message now) c.policy (hello source message now) c := by
  have held : Driven (.clientHello source message now) c.policy
      (ServerHandshake.handleValidClientHello source message.clientAttemptId now c.policy).2 :=
    ⟨_, .hello, (helloStepState _ _ _ _).symm⟩
  have more id attempt : Driven (.clientHello source message now) c.policy
      (step (ServerHandshake.handleValidClientHello source message.clientAttemptId now c.policy).2
        (.abortExactCandidate source id attempt)).2 :=
    ⟨[.validClientHello source message.clientAttemptId now, .abortExactCandidate source id attempt], .helloAborted,
      by simp only [run, helloStepState]⟩
  simp only [Drives, hello, Action.wpBind]
  refine policyMoves held fun result => reconcileApart result.expired held fun events crypto => ?_
  split
  · simp only [Action.wpIte, violated, Action.wpFail, Action.wpBind, Action.wpPure]
    exact ⟨fun _ => held, fun _ => verifyApart held held⟩
  · rename_i destination id attempt admission _
    simp only [Action.wpIte, violated, Action.wpFail, answerHello, Action.wpBind]
    refine ⟨fun _ => held, fun _ => cryptoApart held fun outcome later => ?_⟩
    cases outcome with
    | success prepared =>
      simp only [Action.wpIte, Action.wpFail, Action.wpBind, Action.wpPure]
      exact ⟨fun _ => held, fun _ => verifyApart held held⟩
    | remoteFailure failure =>
      cases failure with
      | clientAttempt _ _ => exact held
      | serverCandidate observed attempt' reason =>
        simp only [Action.wpIte, Action.wpFail]
        exact ⟨fun _ => held, fun _ => abortDrives (more id attempt)⟩
  · exact held

theorem answerFinishDrives {source message now events id attempt mode payload}
    (held : Driven (.clientFinish source message now) c.policy
      (ServerHandshake.precheckClientFinish source message.clientAttemptId now c.policy).2) (crypto : C) :
    Drives (.clientFinish source message now) c.policy (answerFinish events source id attempt mode payload now)
      {c with policy := (ServerHandshake.precheckClientFinish source message.clientAttemptId now c.policy).2, crypto} := by
  have more : Driven (.clientFinish source message now) c.policy
      (step (ServerHandshake.precheckClientFinish source message.clientAttemptId now c.policy).2
        (.abortExactCandidate source id attempt)).2 :=
    ⟨[.precheckClientFinish source message.clientAttemptId now, .abortExactCandidate source id attempt], .finishAborted,
      by simp only [run, precheckStepState]⟩
  simp only [Drives, answerFinish, Action.wpBind]
  refine cryptoApart held fun outcome later => ?_
  cases outcome with
  | remoteFailure failure =>
    cases failure with
    | clientAttempt _ _ => exact held
    | serverCandidate observed attempt' reason =>
      simp only [Action.wpIte, violated, Action.wpFail]
      refine ⟨fun _ => held, fun _ => ?_⟩
      cases mode with
      | pendingCandidate => exact abortDrives more
      | establishedDuplicate expected =>
        simp only [Action.wpBind, Action.wpPure]
        exact verifyApart held held
  | success authenticated =>
    simp only [Action.wpIte, violated, Action.wpFail]
    refine ⟨fun _ => held, fun _ => ?_⟩
    cases mode with
    | establishedDuplicate expected =>
      simp only [repeatFinish, Action.wpIte, violated, Action.wpFail, Action.wpBind, Action.wpPure]
      exact ⟨fun _ => held, fun _ => prepareApart held fun prepared => verifyApart held held⟩
    | pendingCandidate =>
      have established : Driven (.clientFinish source message now) c.policy
          (ServerHandshake.handleAuthenticatedClientFinish source id attempt authenticated.metadata now
            (ServerHandshake.precheckClientFinish source message.clientAttemptId now c.policy).2).2 :=
        ⟨[.precheckClientFinish source message.clientAttemptId now,
          .authenticatedClientFinish source id attempt authenticated.metadata now], .finished,
          by simp only [run, precheckStepState, finishStepState]⟩
      simp only [completeFinish, Action.wpIte, violated, Action.wpFail, Action.wpBind, Action.wpPure]
      refine policyMoves established fun report => ?_
      refine ⟨fun _ => established, fun _ => ⟨fun _ => established, fun _ => ?_⟩⟩
      refine cryptoApart established fun _ committed => ?_
      exact prepareApart established fun prepared => verifyApart established established

theorem finishDrives (source message now) :
    Drives (.clientFinish source message now) c.policy (finish source message now) c := by
  have held : Driven (.clientFinish source message now) c.policy
      (ServerHandshake.precheckClientFinish source message.clientAttemptId now c.policy).2 :=
    ⟨_, .finish, (precheckStepState _ _ _ _).symm⟩
  simp only [Drives, finish, Action.wpBind]
  refine policyMoves held fun precheck => reconcileApart precheck.expired held fun events crypto => ?_
  cases precheck.decision with
  | drop reason =>
    simp only [Action.wpBind, Action.wpPure]
    exact verifyApart held held
  | permitNew id attempt => exact answerFinishDrives held crypto
  | permitDuplicate id attempt metadata => exact answerFinishDrives held crypto

theorem timeoutsDrives (now) : Drives (.checkTimeouts now) c.policy (timeouts now) c := by
  have held : Driven (C := C) (.checkTimeouts now) c.policy (ServerHandshake.checkTimeouts now c.policy).2 :=
    ⟨_, .timeouts, (timeoutsStepState _ _).symm⟩
  simp only [Drives, timeouts, Action.wpBind]
  refine policyMoves held fun report => ?_
  simp only [Action.wpIte, violated, Action.wpFail, Action.wpBind, Action.wpPure]
  exact ⟨fun _ => held, fun _ => reconcileApart report.expired held fun events crypto => verifyApart held held⟩

theorem closingDriven {call : ServerCall C} {x : Step C (Report C)} (drives : Drives call c.policy x c) :
    Driven call c.policy (closing x c).2.policy := by
  unfold Drives at drives
  unfold closing
  rcases ran : x c with ⟨primary | report, t⟩
  · obtain ⟨ops, script, same⟩ := Action.wpError drives ran
    refine ⟨ops ++ [.shutdown], .failed script, ?_⟩
    rw [runSnoc, ← same]
    rfl
  · have driven := Action.wpOk drives ran
    exact driven

theorem stepDriven (call : ServerCall C) : Driven call c.policy (serverStep c call).2.policy := by
  cases call with
  | clientHello source message now => exact closingDriven (helloDrives source message now)
  | clientFinish source message now => exact closingDriven (finishDrives source message now)
  | checkTimeouts now => exact closingDriven (timeoutsDrives now)
  | shutdown =>
    have same : (shutdownAll c).2.policy = c.policy.shutdown.2 := by
      unfold shutdownAll
      simp only
      split
      · rfl
      · split
        · rfl
        · split <;> rfl
    exact ⟨_, .shutdown, same⟩

def helloTime : ServerOp → Option Instant
  | .validClientHello _ _ now => some now
  | _ => none

def callTime : ServerCall C → Option Instant
  | .clientHello _ _ now => some now
  | _ => none

def isHello (op : ServerOp) : Bool := (helloTime op).isSome

theorem scriptTimes {call : ServerCall C} {ops} (script : Script call ops) :
    ∀ op ∈ ops, ∀ now, helloTime op = some now → callTime call = some now := by
  induction script with
  | failed script ih =>
    intro op member now time
    rcases List.mem_append.mp member with earlier | last
    · exact ih op earlier now time
    · cases List.mem_singleton.mp last
      contradiction
  | hello =>
    intro op member now time
    cases List.mem_singleton.mp member
    exact time
  | finish | timeouts | shutdown =>
    intro op member now time
    cases List.mem_singleton.mp member
    contradiction
  | helloAborted =>
    intro op member now time
    rcases List.mem_cons.mp member with rfl | last
    · exact time
    · cases List.mem_singleton.mp last
      contradiction
  | finishAborted | finished =>
    intro op member now time
    rcases List.mem_cons.mp member with rfl | last
    · contradiction
    · cases List.mem_singleton.mp last
      contradiction

theorem scriptHellos {call : ServerCall C} {ops} (script : Script call ops) : ops.countP isHello ≤ 1 := by
  induction script with
  | failed script ih => simpa [List.countP_append, isHello, helloTime] using ih
  | hello | helloAborted | finish | finishAborted | finished | timeouts | shutdown => simp [List.countP_cons, isHello, helloTime]

end Scripts

structure Bounded (policy : SessionPolicy) (limit : Instant) (hellos : Nat) (h : ServerHandshake) : Prop where
  registered : Registered h
  policy : h.pending.policy = policy
  soon : ∀ source record, h.pending.pendingBySource.get source = some record → record.deadline ≤ limit
  numbered : h.pending.nextCandidateId.toNat ≤ hellos + 1

variable {policy : SessionPolicy} {limit : Instant} {hellos : Nat}

theorem emptySoon {h : ServerHandshake} (reg : Registered h) (outside : h.state ≠ .listening) :
    ∀ source record, h.pending.pendingBySource.get source = some record → record.deadline ≤ limit := by
  intro source record found
  rw [(HashMap.lenEqZeroIff _).mp (reg.emptyOutside outside).1 source] at found
  contradiction

theorem expiresBounded {h m : ServerHandshake} {now expired} (bounded : Bounded policy limit hellos h)
    (ex : Expires h now expired m) :
    (∀ source record, m.pending.pendingBySource.get source = some record → record.deadline ≤ limit) ∧
      m.pending.nextCandidateId.toNat ≤ hellos + 1 := by
  refine ⟨?_, by rw [ex.next]; exact bounded.numbered⟩
  intro source record found
  rw [ex.manager, Option.filter_eq_some_iff] at found
  exact bounded.soon source record found.1

theorem moveBounded {m t : ServerHandshake} {op effects} (move : Move m op effects t) (after : Registered t)
    (configured : m.pending.policy = policy)
    (timely : ∀ now, helloTime op = some now → now + policy.handshakeTimeout ≤ limit)
    (soon : ∀ source record, m.pending.pendingBySource.get source = some record → record.deadline ≤ limit)
    (numbered : m.pending.nextCandidateId.toNat ≤ hellos + 1) :
    (∀ source record, t.pending.pendingBySource.get source = some record → record.deadline ≤ limit) ∧
      t.pending.nextCandidateId.toNat ≤ hellos + [op].countP isHello + 1 := by
  cases move with
  | kept quiet => exact ⟨soon, by omega⟩
  | @admitted source attempt now deadline next listening free advance within =>
    refine ⟨?_, ?_⟩
    · intro other record found
      simp only [admitted, HashMap.getInsert] at found
      split at found
      · cases Option.some.inj found
        rw [timelyDeadline within, configured]
        exact timely now rfl
      · exact soon other record found
    · have grown := checkedAddSome advance
      have one : (1 : UInt64).toNat = 1 := rfl
      simp only [admitted, List.countP_singleton, isHello, helloTime, Option.isSome_some, if_true]
      omega
  | failed owned =>
    refine ⟨?_, by simpa [without, isHello, helloTime] using numbered⟩
    intro other record found
    simp only [without, HashMap.getRemove] at found
    split at found <;> try contradiction
    exact soon other record found
  | aborted owned =>
    refine ⟨?_, by simpa [without, isHello, helloTime] using numbered⟩
    intro other record found
    simp only [without, HashMap.getRemove] at found
    split at found <;> try contradiction
    exact soon other record found
  | established owned =>
    refine ⟨emptySoon after (by simp [ServerHandshake.establish]), ?_⟩
    simpa [ServerHandshake.establish, without, isHello, helloTime] using numbered
  | shutdown =>
    refine ⟨emptySoon after (by simp [shutdownClosed_ m]), ?_⟩
    have counter : m.shutdown.2.pending.nextCandidateId = m.pending.nextCandidateId := by
      unfold ServerHandshake.shutdown
      split
      · rfl
      · simp
    rw [counter]
    omega

theorem opBounded {h : ServerHandshake} {op} (bounded : Bounded policy limit hellos h)
    (timely : ∀ now, helloTime op = some now → now + policy.handshakeTimeout ≤ limit) :
    Bounded policy limit (hellos + [op].countP isHello) (step h op).2 := by
  have kept := (stepKept bounded.registered op).1
  have configured := kept.policy.trans bounded.policy
  have after := kept.registered
  have transition := performTransition bounded.registered op
  clear kept
  unfold step at configured after ⊢
  generalize (perform op h).2 = t at transition configured after ⊢
  generalize (perform op h).1 = result at transition
  have more : hellos + 1 ≤ hellos + [op].countP isHello + 1 := by omega
  cases transition with
  | ignored time => exact ⟨after, configured, bounded.soon, Nat.le_trans bounded.numbered more⟩
  | refused time ex =>
    obtain ⟨soon, numbered⟩ := expiresBounded bounded ex
    exact ⟨after, configured, soon, Nat.le_trans numbered more⟩
  | untimed time silent move =>
    obtain ⟨soon, numbered⟩ := moveBounded move after bounded.policy timely bounded.soon bounded.numbered
    exact ⟨after, configured, soon, numbered⟩
  | timed time ex middle move =>
    obtain ⟨expired, below⟩ := expiresBounded bounded ex
    obtain ⟨soon, numbered⟩ := moveBounded move after (ex.policy.trans bounded.policy) timely expired below
    exact ⟨after, configured, soon, numbered⟩

theorem opsBounded (ops : List ServerOp) {h : ServerHandshake} {hellos : Nat} (bounded : Bounded policy limit hellos h)
    (timely : ∀ op ∈ ops, ∀ now, helloTime op = some now → now + policy.handshakeTimeout ≤ limit) :
    Bounded policy limit (hellos + ops.countP isHello) (run step h ops).2 := by
  induction ops generalizing h hellos with
  | nil => exact bounded
  | cons op rest ih =>
    have next := ih (opBounded bounded (timely op List.mem_cons_self)) fun op member =>
      timely op (List.mem_cons_of_mem _ member)
    rw [Nat.add_assoc, ← List.countP_append] at next
    exact next

theorem callBounded {C : Type} [ServerHandshakeCrypto C] {c : ServerCoordinator.ServerHandshakeCoordinator C}
    {call : ServerCall C} (bounded : Bounded policy limit hellos c.policy)
    (timely : ∀ now, callTime call = some now → now + policy.handshakeTimeout ≤ limit) :
    Bounded policy limit (hellos + 1) (serverStep c call).2.policy := by
  obtain ⟨ops, script, same⟩ := @stepDriven C _ c call
  have times := scriptTimes script
  have few := scriptHellos script
  have after := opsBounded ops bounded fun op member now time => timely now (times op member now time)
  rw [← same] at after
  exact ⟨after.registered, after.policy, after.soon, by have := after.numbered; omega⟩

/-! The loop: a wake is at most one call, and a loop that still waits has
established nothing. -/

section Loop
variable {S : Snow} {settings : Settings}

def arrival : Wake → Option Instant
  | .received _ _ now _ _ => some now
  | .timer _ | .broken => none

structure Silent (c : Server S) (call : ServerCall (ServerProvider S)) : Prop where
  serving : call ≠ .shutdown
  returned : ∃ report, (serverStep c call).1 = .ok report ∧
    ∀ peer metadata, ServerCoordinatorEvent.sessionEstablished peer metadata ∉ report.events

inductive Attends (r : ServerRuntime S) (wake : Wake) (t : ServerRuntime S) : Prop where
  | idle (same : t.coordinator = r.coordinator) (still : t.status = .waiting → r.status = .waiting)
  | called (call) (time : ∀ now, callTime call = some now → arrival wake = some now)
      (next : t.coordinator = (serverStep r.coordinator call).2)
      (still : t.status = .waiting → r.status = .waiting ∧ Silent r.coordinator call)

theorem reportReturned {codec : V2HandshakeCodec} {result : ServerCoordinator.Result (ServerProvider S)} {report}
    (encoded : serverReport codec result = .ok report) :
    ∃ told, result = .ok told ∧ told.events = report.events := by
  cases result with
  | error fatal => contradiction
  | ok told =>
    refine ⟨told, rfl, ?_⟩
    simp only [serverReport] at encoded
    split at encoded <;> try contradiction
    cases Except.ok.inj encoded
    rfl

theorem timerAttends {r : ServerRuntime S} (corresponds : Corresponds r.coordinator) (waiting : r.status = .waiting)
    (now : Instant) : Attends r (.timer now) (r.wake settings (.timer now)).2 := by
  obtain ⟨_, expired, m, ex, ran⟩ := timeoutsReturn corresponds now
  unfold ServerRuntime.wake
  simp only
  split
  · exact .idle rfl fun _ => waiting
  · refine .called (.checkTimeouts now) (fun at_ time => by contradiction) ?_ ?_
    · split <;> rfl
    · intro still
      refine ⟨waiting, by simp, ⟨[], expired.map expiredEvent⟩, congrArg Prod.fst ran, ?_⟩
      intro peer metadata announced
      obtain ⟨e, _, same⟩ := List.mem_map.mp announced
      contradiction

theorem receivedAttends {r : ServerRuntime S} (waiting : r.status = .waiting) (datagram source now unsent handedAt) :
    Attends r (.received datagram source now unsent handedAt)
      (r.wake settings (.received datagram source now unsent handedAt)).2 := by
  unfold ServerRuntime.wake
  simp only [serverFrameCall]
  cases stands : serverCallOf settings.codec source (buffered settings.codec datagram) now with
  | error e =>
    simp only
    split
    · exact .idle rfl fun _ => waiting
    · exact .idle rfl fun _ => waiting
  | ok call =>
    have arrived : ∀ at_, callTime call = some at_ → some now = some at_ := by
      rcases serverCallCases stands with ⟨body, _, _, rfl⟩ | ⟨body, _, _, rfl⟩
      · exact fun at_ time => time
      · intro at_ time
        contradiction
    have serving : call ≠ .shutdown := by
      rcases serverCallCases stands with ⟨body, _, _, rfl⟩ | ⟨body, _, _, rfl⟩ <;> simp
    simp only
    cases reply : serverReport settings.codec (serverStep r.coordinator call).1 with
    | error e =>
      simp only [serverReportFailed reply, Bool.false_eq_true, if_false]
      exact .called call arrived rfl fun impossible => by contradiction
    | ok report =>
      obtain ⟨told, ran, same⟩ := reportReturned reply
      refine .called call arrived serverReportedKeeps fun still => ⟨waiting, serving, told, ran, ?_⟩
      rw [same]
      exact reportedWaiting still

theorem stepAttends {r : ServerRuntime S} (corresponds : Corresponds r.coordinator) (wake : Wake) :
    Attends r wake (r.step settings wake).2 := by
  unfold ServerRuntime.step
  split
  · rename_i waiting
    cases wake with
    | timer now => exact timerAttends corresponds waiting now
    | broken => exact .idle rfl fun _ => waiting
    | received datagram source now unsent handedAt => exact receivedAttends waiting datagram source now unsent handedAt
  · exact .idle rfl id
  · exact .idle rfl id

theorem helloTurnState {c t : Server S} {source attempt payload now report}
    (turn : HelloTurn c source attempt payload now (.ok report) t) : t.policy.state = c.policy.state := by
  cases turn with
  | dropped expired m reason ex reg step => exact ex.state
  | repeated expired m id context ex reg owned found same => exact ex.state
  | conflicting expired m id ex reg owned => exact ex.state
  | rejected expired m deadline next ex reg listening free => exact ex.state
  | welcomed expired m deadline next prepared q ex reg listening free fresh => exact ex.state

theorem finishTurnState {c t : Server S} {source attempt payload now report}
    (turn : FinishTurn c source attempt payload now (.ok report) t)
    (quiet : ∀ peer metadata, ServerCoordinatorEvent.sessionEstablished peer metadata ∉ report.events) :
    t.policy.state = c.policy.state := by
  cases turn with
  | dropped expired m reason ex reg decision => exact ex.state
  | unconfirmed expired m id context plain allowed opens => exact allowed.expires.state
  | established expired m id context plain record out t allowed opens recorded written state =>
    exact absurd (List.mem_append_right _ (List.mem_singleton.mpr rfl)) (quiet source context.metadata)

theorem silentState {c : Server S} {call} (corresponds : Corresponds c) (silent : Silent c call) :
    (serverStep c call).2.policy.state = c.policy.state := by
  obtain ⟨serving, report, ran, quiet⟩ := silent
  cases call with
  | clientHello source message now =>
    have turn := (helloReturns corresponds source message now).2
    simp only [serverStep] at ran ⊢
    rw [ran] at turn
    exact helloTurnState turn
  | clientFinish source message now =>
    have turn := (finishReturns corresponds source message now).2
    simp only [serverStep] at ran ⊢
    rw [ran] at turn
    exact finishTurnState turn quiet
  | checkTimeouts now =>
    obtain ⟨_, expired, m, ex, same⟩ := timeoutsReturn corresponds now
    simp only [serverStep, same]
    exact ex.state
  | shutdown => contradiction

structure Attending (policy : SessionPolicy) (limit : Instant) (hellos : Nat) (r : ServerRuntime S) : Prop where
  corresponds : Corresponds r.coordinator
  bounded : Bounded policy limit hellos r.coordinator.policy
  listening : r.status = .waiting → r.coordinator.policy.state = .listening

theorem stepAttending {r : ServerRuntime S} {wake : Wake} (attending : Attending policy limit hellos r)
    (timely : ∀ now, arrival wake = some now → now + policy.handshakeTimeout ≤ limit) :
    Attending policy limit (hellos + 1) (r.step settings wake).2 := by
  obtain ⟨corresponds, bounded, listening⟩ := attending
  have attends := @stepAttends S settings r corresponds wake
  generalize (r.step settings wake).2 = t at attends ⊢
  cases attends with
  | idle same still =>
    refine ⟨same ▸ corresponds, ?_, fun waiting => same ▸ listening (still waiting)⟩
    rw [same]
    exact ⟨bounded.registered, bounded.policy, bounded.soon, by have := bounded.numbered; omega⟩
  | called call time next still =>
    refine ⟨next ▸ stepCorresponds corresponds call, ?_, ?_⟩
    · rw [next]
      exact callBounded bounded fun now called => timely now (time now called)
    · intro waiting
      obtain ⟨before, silent⟩ := still waiting
      rw [next, silentState corresponds silent]
      exact listening before

theorem runAttending (past : List Wake) {r : ServerRuntime S} {hellos : Nat} (attending : Attending policy limit hellos r)
    (timely : ∀ wake ∈ past, ∀ now, arrival wake = some now → now + policy.handshakeTimeout ≤ limit) :
    Attending policy limit (hellos + past.length) (run (ServerRuntime.step settings) r past).2 := by
  induction past generalizing r hellos with
  | nil => exact attending
  | cons wake rest ih =>
    have after := @stepAttending policy limit hellos S settings r wake attending (timely wake List.mem_cons_self)
    have next := ih after fun wake member => timely wake (List.mem_cons_of_mem _ member)
    rw [Nat.add_assoc, Nat.add_comm 1] at next
    exact next

theorem expiredReady {h : ServerHandshake} {now deadline} (bounded : Bounded policy limit hellos h)
    (listening : h.state = .listening) (late : limit ≤ now) (few : hellos + 2 < u64Limit)
    (timely : Instant.checkedAdd now policy.handshakeTimeout = some deadline) (source : SocketAddr) :
    Ready h source now deadline := by
  have soon source record found := Nat.le_trans (bounded.soon source record found) late
  have empty : (h.pending.expirePending now).2.pendingCount = 0 := by
    obtain ⟨expired, m, ex, _⟩ : ∃ expired m, Expires h now expired m ∧ Registered m := by
      have spec := ServerRegistry.expireSpec bounded.registered now
      rcases ran : ServerHandshake.expireAndReconcile now h with ⟨_ | expired, m⟩
      · exact (Action.wpError spec ran).elim
      · have expires := Action.wpOk spec ran
        exact ⟨expired, m, expires⟩
    rw [← expiredCount (notClosed bounded.registered listening) ex, HashMap.lenEqZeroIff]
    intro other
    rw [ex.manager, Option.filter_eq_none_iff]
    intro record found
    simpa using soon other record found
  refine ⟨listening, soon source, ?_, ?_, by rw [bounded.policy]; exact timely⟩
  · rw [empty]
    exact Nat.pos_of_ne_zero h.pending.policy.pendingPositive
  · intro full
    have exhausted := checkedAddNone full
    have numbered := bounded.numbered
    have one : (1 : UInt64).toNat = 1 := rfl
    omega

end Loop

def plainGreeting : Bytes := (ClientRuntime.start plainOpeningSettings (plainEndpoint 2000) 1 none plainClient).1.flatten

def plainCrowd : List Wake :=
  [.received plainGreeting (plainEndpoint 3000) 5 none 5, .received plainGreeting (plainEndpoint 4000) 6 none 6, .timer 7]

def plainCrowded : ServerRuntime plainSnow :=
  (run (ServerRuntime.step plainOpeningSettings) ⟨plainServer, .waiting⟩ plainCrowd).2

theorem plainCrowdArrived : ∀ wake ∈ plainCrowd, ∀ now, arrival wake = some now → now ≤ 6 := by
  intro wake member now arrives
  rcases List.mem_cons.mp member with rfl | rest
  · cases Option.some.inj arrives
    exact (by decide : 5 ≤ 6)
  · rcases List.mem_cons.mp rest with rfl | last
    · cases Option.some.inj arrives
      exact Nat.le_refl 6
    · cases List.mem_singleton.mp last
      contradiction

end Crabnet.ServerRecovery
