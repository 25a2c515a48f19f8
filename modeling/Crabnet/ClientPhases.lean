import Crabnet.ClientPolicy

/-! The client policy over whole runs: what each of its calls may do, and what
any sequence of them has emitted by the time it is in a given phase. -/
namespace Crabnet.ClientPhases
open MachineWord SessionTypes Fallible ClientPolicy

inductive ClientCall where
  | start (now : Instant)
  | precheck (source : SocketAddr) (attempt : ClientAttemptId) (kind : ClientPreAuthKind) (now : Instant)
  | authenticatedServerHello (source : SocketAddr) (attempt : ClientAttemptId) (now : Instant)
  | authenticatedServerFinish (source : SocketAddr) (attempt : ClientAttemptId) (metadata : EstablishedSessionMetadata)
      (now : Instant)
  | authenticationFailure (source : SocketAddr) (attempt : ClientAttemptId)
  | unexpectedMessage (source : SocketAddr) (observed : ClientInboundKind)
  | checkTimeout (now : Instant)
  | shutdown

inductive ClientAnswer where
  | result (result : Except ClientStateError ClientAction)
  | decision (decision : ClientPreAuthDecision)

def ClientCall.source : ClientCall → Option SocketAddr
  | precheck source _ _ _ | authenticatedServerHello source _ _ | authenticatedServerFinish source _ _ _
  | authenticationFailure source _ | unexpectedMessage source _ => some source
  | start _ | checkTimeout _ | shutdown => none

def acted (answer : ClientAction × ClientHandshake) : ClientAnswer × ClientHandshake := (.result (.ok answer.1), answer.2)

def perform (h : ClientHandshake) : ClientCall → ClientAnswer × ClientHandshake
  | .start now => ((.result (ClientHandshake.start now h).1), (ClientHandshake.start now h).2)
  | .precheck source attempt kind now => (.decision (h.precheck source attempt kind now).1, (h.precheck source attempt kind now).2)
  | .authenticatedServerHello source attempt now =>
    let answer := ClientHandshake.handleAuthenticatedServerHello source attempt now h
    (.result answer.1, answer.2)
  | .authenticatedServerFinish source attempt metadata now =>
    let answer := ClientHandshake.handleAuthenticatedServerFinish source attempt metadata now h
    (.result answer.1, answer.2)
  | .authenticationFailure source attempt => acted (h.handleAuthenticationFailure source attempt)
  | .unexpectedMessage source observed => acted (h.handleUnexpectedMessage source observed, h)
  | .checkTimeout now => acted (h.checkTimeout now)
  | .shutdown => acted h.shutdown

def observe (h : ClientHandshake) (call : ClientCall) : (ClientCall × ClientAnswer) × ClientHandshake :=
  ((call, (perform h call).1), (perform h call).2)

/-! What a call emits. A session is announced without its attempt, which is the
one that the call was made with. -/

inductive Emission where
  | clientHello (attempt : ClientAttemptId)
  | clientFinish (attempt : ClientAttemptId)
  | session (attempt : Option ClientAttemptId) (sessionId : SessionId)
  deriving DecidableEq

def emission : ClientCall × ClientAnswer → Option Emission
  | (_, .result (.ok (.sendClientHello attempt))) => some (.clientHello attempt)
  | (_, .result (.ok (.sendClientFinish attempt))) => some (.clientFinish attempt)
  | (.authenticatedServerFinish _ attempt _ _, .result (.ok (.sessionEstablished sessionId))) =>
    some (.session (some attempt) sessionId)
  | (_, .result (.ok (.sessionEstablished sessionId))) => some (.session none sessionId)
  | _ => none

inductive Closes (h : ClientHandshake) : ClientCall → Prop
  | shutdown : Closes h .shutdown
  | timedOut {now attempt deadline kind} (pending : h.state.phase = some (attempt, deadline, kind)) (due : deadline ≤ now) :
      Closes h (.checkTimeout now)
  | lateMessage {observed kind' now attempt deadline kind} (pending : h.state.phase = some (attempt, deadline, kind))
      (due : deadline ≤ now) : Closes h (.precheck h.serverEndpoint observed kind' now)
  | lateHello {now attempt startedAt deadline} (waiting : h.state = .awaitingServerHello attempt startedAt deadline)
      (due : deadline ≤ now) : Closes h (.authenticatedServerHello h.serverEndpoint attempt now)
  | lateFinish {now attempt startedAt phaseStartedAt deadline metadata}
      (waiting : h.state = .awaitingServerFinish attempt startedAt phaseStartedAt deadline) (due : deadline ≤ now) :
      Closes h (.authenticatedServerFinish h.serverEndpoint attempt metadata now)
  | refused {attempt deadline kind} (pending : h.state.phase = some (attempt, deadline, kind)) :
      Closes h (.authenticationFailure h.serverEndpoint attempt)

inductive Moves (h : ClientHandshake) : ClientCall → ClientAnswer → ClientHandshake → Prop
  | kept (call answer) (quiet : emission (call, answer) = none) : Moves h call answer h
  | started (now next) (idle : h.state = .idle) (timely : now + h.handshakeTimeout < instantLimit)
      (advance : checkedAdd h.nextAttemptId 1 = some next) :
      Moves h (.start now) (.result (.ok (.sendClientHello ⟨h.nextAttemptId⟩)))
        {h with nextAttemptId := next
                state := .awaitingServerHello ⟨h.nextAttemptId⟩ now (now + h.handshakeTimeout)}
  | advanced (attempt startedAt deadline now) (waiting : h.state = .awaitingServerHello attempt startedAt deadline)
      (early : now < deadline) (timely : now + h.handshakeTimeout < instantLimit) :
      Moves h (.authenticatedServerHello h.serverEndpoint attempt now) (.result (.ok (.sendClientFinish attempt)))
        {h with state := .awaitingServerFinish attempt startedAt now (now + h.handshakeTimeout)}
  | established (attempt startedAt phaseStartedAt deadline metadata now)
      (waiting : h.state = .awaitingServerFinish attempt startedAt phaseStartedAt deadline) (early : now < deadline) :
      Moves h (.authenticatedServerFinish h.serverEndpoint attempt metadata now)
        (.result (.ok (.sessionEstablished metadata.sessionId))) {h with state := .established metadata now}
  | closed (call answer) (active : h.state ≠ .closed) (cause : Closes h call) (quiet : emission (call, answer) = none)
      (succeeded : ∀ e, answer ≠ .result (.error e)) : Moves h call answer {h with state := .closed}

theorem phaseDeadlineOk {now timeout phase deadline} (ok : ClientHandshake.phaseDeadline now timeout phase = .ok deadline) :
    deadline = now + timeout ∧ now + timeout < instantLimit := by
  simp only [ClientHandshake.phaseDeadline, Instant.checkedAdd] at ok
  split at ok <;> try contradiction
  rename_i sum
  split at sum <;> try contradiction
  rename_i fits
  cases Option.some.inj sum
  cases Except.ok.inj ok
  exact ⟨rfl, fits⟩

theorem startMoves (h : ClientHandshake) (now : Instant) :
    Moves h (.start now) (perform h (.start now)).1 (perform h (.start now)).2 := by
  simp only [perform]
  refine @Action.wpOutcome _ _ _ h (ClientHandshake.start now) (fun answer => Moves h (.start now) (.result answer.1) answer.2) ?_
  simp only [ClientHandshake.start, Action.wpBind, Action.wpRead, Action.wpIte, Action.wpFail, Action.wpOfExcept]
  refine ⟨fun _ => .kept _ _ rfl, fun idle => ?_⟩
  rw [not_not] at idle
  cases timed : ClientHandshake.phaseDeadline now h.handshakeTimeout .serverHello with
  | error e => exact .kept _ _ rfl
  | ok deadline =>
    obtain ⟨rfl, timely⟩ := phaseDeadlineOk timed
    simp only [ClientHandshake.reserveAttemptId, Action.wpBind, Action.wpRead]
    cases advance : checkedAdd h.nextAttemptId 1 with
    | none => exact .kept _ _ rfl
    | some next =>
      simp only [Action.wpBind, Action.wpModify, Action.wpPure]
      exact .started now next idle timely advance

theorem helloMoves (h : ClientHandshake) (source attempt now) :
    Moves h (.authenticatedServerHello source attempt now) (perform h (.authenticatedServerHello source attempt now)).1
      (perform h (.authenticatedServerHello source attempt now)).2 := by
  simp only [perform]
  refine @Action.wpOutcome _ _ _ h (ClientHandshake.handleAuthenticatedServerHello source attempt now)
    (fun answer => Moves h (.authenticatedServerHello source attempt now) (.result answer.1) answer.2) ?_
  simp only [ClientHandshake.handleAuthenticatedServerHello, Action.wpBind, Action.wpRead, Action.wpIte, Action.wpPure]
  refine ⟨fun _ => .kept _ _ rfl, fun endpoint => ?_⟩
  rw [not_not] at endpoint
  subst endpoint
  cases waiting : h.state with
  | idle | awaitingServerFinish | established | closed => exact .kept _ _ rfl
  | awaitingServerHello current startedAt deadline =>
    simp only [Action.wpIte, Action.wpPure, Action.wpBind, Action.wpModify, Action.wpOfExcept]
    refine ⟨fun _ => .kept _ _ rfl, fun same => ?_⟩
    rw [not_not] at same
    subst same
    refine ⟨fun due => ?_, fun early => ?_⟩
    · exact .closed _ _ (by simp [waiting]) (.lateHello waiting due) rfl (by simp)
    · cases timed : ClientHandshake.phaseDeadline now h.handshakeTimeout .serverFinish with
      | error e => exact .kept _ _ rfl
      | ok later =>
        obtain ⟨rfl, timely⟩ := phaseDeadlineOk timed
        exact .advanced attempt startedAt deadline now waiting (Nat.lt_of_not_le early) timely

theorem finishMoves (h : ClientHandshake) (source attempt metadata now) :
    Moves h (.authenticatedServerFinish source attempt metadata now)
      (perform h (.authenticatedServerFinish source attempt metadata now)).1
      (perform h (.authenticatedServerFinish source attempt metadata now)).2 := by
  simp only [perform]
  refine @Action.wpOutcome _ _ _ h (ClientHandshake.handleAuthenticatedServerFinish source attempt metadata now)
    (fun answer => Moves h (.authenticatedServerFinish source attempt metadata now) (.result answer.1) answer.2) ?_
  simp only [ClientHandshake.handleAuthenticatedServerFinish, Action.wpBind, Action.wpRead, Action.wpIte, Action.wpPure]
  refine ⟨fun _ => .kept _ _ rfl, fun endpoint => ?_⟩
  rw [not_not] at endpoint
  subst endpoint
  cases waiting : h.state with
  | idle | awaitingServerHello | established | closed => exact .kept _ _ rfl
  | awaitingServerFinish current startedAt phaseStartedAt deadline =>
    simp only [Action.wpIte, Action.wpPure, Action.wpBind, Action.wpModify]
    refine ⟨fun _ => .kept _ _ rfl, fun same => ?_⟩
    rw [not_not] at same
    subst same
    refine ⟨fun due => ?_, fun early => ?_⟩
    · exact .closed _ _ (by simp [waiting]) (.lateFinish waiting due) rfl (by simp)
    · exact .established attempt startedAt phaseStartedAt deadline metadata now waiting (Nat.lt_of_not_le early)

theorem precheckMoves (h : ClientHandshake) (source attempt kind now) :
    Moves h (.precheck source attempt kind now) (perform h (.precheck source attempt kind now)).1
      (perform h (.precheck source attempt kind now)).2 := by
  simp only [perform, ClientHandshake.precheck]
  split
  · exact .kept _ _ rfl
  · rename_i endpoint
    rw [not_not] at endpoint
    subst endpoint
    split
    · exact .kept _ _ rfl
    · rename_i current deadline expected pending
      split
      · rename_i due
        exact .closed _ _ (phaseOpen pending) (.lateMessage pending due) rfl (by simp)
      · split
        · exact .kept _ _ rfl
        · split <;> exact .kept _ _ rfl

theorem failureMoves (h : ClientHandshake) (source attempt) :
    Moves h (.authenticationFailure source attempt) (perform h (.authenticationFailure source attempt)).1
      (perform h (.authenticationFailure source attempt)).2 := by
  simp only [perform, acted, ClientHandshake.handleAuthenticationFailure]
  split
  · exact .kept _ _ rfl
  · rename_i endpoint
    rw [not_not] at endpoint
    subst endpoint
    split
    · exact .kept _ _ rfl
    · rename_i current deadline expected pending
      split
      · exact .kept _ _ rfl
      · rename_i same
        rw [not_not] at same
        subst same
        exact .closed _ _ (phaseOpen pending) (.refused pending) rfl (by simp)

theorem unexpectedMoves (h : ClientHandshake) (source observed) :
    Moves h (.unexpectedMessage source observed) (perform h (.unexpectedMessage source observed)).1 h := by
  refine .kept _ _ ?_
  simp only [perform, acted, ClientHandshake.handleUnexpectedMessage]
  split
  · rfl
  · split <;> rfl

theorem timeoutMoves (h : ClientHandshake) (now) :
    Moves h (.checkTimeout now) (perform h (.checkTimeout now)).1 (perform h (.checkTimeout now)).2 := by
  simp only [perform, acted, ClientHandshake.checkTimeout]
  split
  · rename_i attempt deadline kind pending
    split
    · exact .kept _ _ rfl
    · rename_i due
      exact .closed _ _ (phaseOpen pending) (.timedOut pending (Nat.le_of_not_lt due)) rfl (by simp)
  · split <;> exact .kept _ _ rfl

theorem shutdownMoves (h : ClientHandshake) : Moves h .shutdown (perform h .shutdown).1 (perform h .shutdown).2 := by
  simp only [perform, acted, ClientHandshake.shutdown]
  split
  · exact .kept _ _ rfl
  · rename_i active
    exact .closed _ _ active .shutdown rfl (by simp)

theorem performMoves (h : ClientHandshake) (call : ClientCall) : Moves h call (perform h call).1 (perform h call).2 := by
  cases call with
  | start now => exact startMoves h now
  | precheck source attempt kind now => exact precheckMoves h source attempt kind now
  | authenticatedServerHello source attempt now => exact helloMoves h source attempt now
  | authenticatedServerFinish source attempt metadata now => exact finishMoves h source attempt metadata now
  | authenticationFailure source attempt => exact failureMoves h source attempt
  | unexpectedMessage source observed => exact unexpectedMoves h source observed
  | checkTimeout now => exact timeoutMoves h now
  | shutdown => exact shutdownMoves h

section
variable {h t : ClientHandshake} {call : ClientCall} {answer : ClientAnswer}

theorem movesSettings (moves : Moves h call answer t) :
    t.serverEndpoint = h.serverEndpoint ∧ t.handshakeTimeout = h.handshakeTimeout := by
  cases moves <;> exact ⟨rfl, rfl⟩

theorem movesSource (moves : Moves h call answer t) {source} (from_ : call.source = some source)
    (other : source ≠ h.serverEndpoint) : t = h := by
  cases moves with
  | kept => rfl
  | started => contradiction
  | advanced | established => exact absurd (Option.some.inj from_).symm other
  | closed _ _ active cause =>
    cases cause with
    | shutdown | timedOut => contradiction
    | lateMessage | lateHello | lateFinish | refused => exact absurd (Option.some.inj from_).symm other

theorem movesError (moves : Moves h call answer t) {e} (failed : answer = .result (.error e)) : t = h := by
  cases moves with
  | kept => rfl
  | started | advanced | established => cases failed
  | closed _ _ _ _ _ succeeded => exact absurd failed (succeeded e)

theorem movesClosed (moves : Moves h call answer t) (closed : h.state = .closed) : t = h := by
  cases moves with
  | kept => rfl
  | started _ _ idle =>
    rw [closed] at idle
    contradiction
  | advanced _ _ _ _ waiting | established _ _ _ _ _ _ waiting =>
    rw [closed] at waiting
    contradiction
  | closed _ _ active => exact absurd closed active

end

theorem precheckDue {h : ClientHandshake} {current deadline expected}
    (pending : h.state.phase = some (current, deadline, expected)) (attempt kind now) :
    (h.precheck h.serverEndpoint attempt kind now).2.state = .closed ↔ deadline ≤ now := by
  have active := phaseOpen pending
  simp only [ClientHandshake.precheck, ne_eq, not_true_eq_false, if_false, pending]
  by_cases due : deadline ≤ now
  · simp [due]
  · simp only [due, if_false, iff_false]
    split
    · exact active
    · split <;> exact active

theorem checkTimeoutDue {h : ClientHandshake} {current deadline expected}
    (pending : h.state.phase = some (current, deadline, expected)) (now) :
    (h.checkTimeout now).2.state = .closed ↔ deadline ≤ now := by
  simp only [ClientHandshake.checkTimeout, pending]
  by_cases early : now < deadline
  · simp only [early, if_true]
    exact ⟨fun closed => absurd closed (phaseOpen pending), fun due => absurd due (Nat.not_le.mpr early)⟩
  · simp only [early, if_false, true_iff]
    exact Nat.le_of_not_lt early

def Emitted (emissions : List Emission) : ClientHandshakeState → Prop
  | .idle => emissions = []
  | .awaitingServerHello attempt _ _ => emissions = [.clientHello attempt]
  | .awaitingServerFinish attempt _ _ _ => emissions = [.clientHello attempt, .clientFinish attempt]
  | .established metadata _ => ∃ attempt,
    emissions = [.clientHello attempt, .clientFinish attempt, .session (some attempt) metadata.sessionId]
  | .closed => ∃ attempt sessionId,
    emissions <+: [.clientHello attempt, .clientFinish attempt, .session (some attempt) sessionId]

def Entered (endpoint : SocketAddr) (timeout : Duration) (past : List (ClientCall × ClientAnswer)) :
    ClientHandshakeState → Prop
  | .awaitingServerHello attempt startedAt deadline => deadline = startedAt + timeout ∧
    (.start startedAt, .result (.ok (.sendClientHello attempt))) ∈ past
  | .awaitingServerFinish attempt _ phaseStartedAt deadline => deadline = phaseStartedAt + timeout ∧
    (.authenticatedServerHello endpoint attempt phaseStartedAt, .result (.ok (.sendClientFinish attempt))) ∈ past
  | _ => True

theorem emittedSequence {emissions state} (emitted : Emitted emissions state) : ∃ attempt sessionId,
    emissions <+: [.clientHello attempt, .clientFinish attempt, .session (some attempt) sessionId] := by
  have someSession : SessionId := ⟨.copyFrom 32 []⟩
  cases state with
  | idle => exact ⟨⟨0⟩, someSession, by rw [show emissions = [] from emitted]; exact List.nil_prefix⟩
  | awaitingServerHello attempt =>
    exact ⟨attempt, someSession, by rw [show emissions = _ from emitted]; exact ⟨_, rfl⟩⟩
  | awaitingServerFinish attempt =>
    exact ⟨attempt, someSession, by rw [show emissions = _ from emitted]; exact ⟨_, rfl⟩⟩
  | established metadata =>
    obtain ⟨attempt, rfl⟩ := emitted
    exact ⟨attempt, metadata.sessionId, List.prefix_rfl⟩
  | closed => exact emitted

structure Progress (endpoint : SocketAddr) (timeout : Duration) (past : List (ClientCall × ClientAnswer))
    (h : ClientHandshake) : Prop where
  sameEndpoint : h.serverEndpoint = endpoint
  sameTimeout : h.handshakeTimeout = timeout
  emitted : Emitted (past.filterMap emission) h.state
  entered : Entered endpoint timeout past h.state

theorem enteredLater {endpoint timeout past state} (entered : Entered endpoint timeout past state) (more) :
    Entered endpoint timeout (past ++ more) state := by
  cases state with
  | idle | established | closed => trivial
  | awaitingServerHello | awaitingServerFinish => exact ⟨entered.1, List.mem_append_left _ entered.2⟩

theorem observeProgress {endpoint timeout} (past : List (ClientCall × ClientAnswer)) (h : ClientHandshake)
    (call : ClientCall) (progress : Progress endpoint timeout past h) :
    Progress endpoint timeout (past ++ [(observe h call).1]) (observe h call).2 := by
  have moves := performMoves h call
  obtain ⟨sameEndpoint, sameTimeout⟩ := movesSettings moves
  refine ⟨sameEndpoint.trans progress.sameEndpoint, sameTimeout.trans progress.sameTimeout, ?_, ?_⟩
  · have emitted := progress.emitted
    simp only [observe, List.filterMap_append, List.filterMap_cons, List.filterMap_nil]
    generalize (perform h call).1 = answer at moves ⊢
    generalize (perform h call).2 = t at moves ⊢
    cases moves with
    | kept _ _ quiet =>
      rw [quiet, List.append_nil]
      exact emitted
    | started now next idle =>
      rw [idle] at emitted
      simp only [Emitted] at emitted ⊢
      rw [emitted]
      rfl
    | advanced attempt startedAt deadline now waiting =>
      rw [waiting] at emitted
      simp only [Emitted] at emitted ⊢
      rw [emitted]
      rfl
    | established attempt startedAt phaseStartedAt deadline metadata now waiting =>
      rw [waiting] at emitted
      simp only [Emitted] at emitted ⊢
      rw [emitted]
      exact ⟨attempt, rfl⟩
    | closed _ _ _ _ quiet =>
      rw [quiet, List.append_nil]
      exact emittedSequence emitted
  · have entered := progress.entered
    simp only [observe]
    have endpoint_ := progress.sameEndpoint
    have timeout_ := progress.sameTimeout
    generalize (perform h call).1 = answer at moves ⊢
    generalize (perform h call).2 = t at moves ⊢
    cases moves with
    | kept => exact enteredLater entered _
    | started now next => exact ⟨by rw [timeout_], by simp⟩
    | advanced attempt startedAt deadline now => exact ⟨by rw [timeout_], by simp [endpoint_]⟩
    | established => trivial
    | closed => trivial

structure CallLaw (h : ClientHandshake) (call : ClientCall) (answer : ClientAnswer) (t : ClientHandshake) : Prop where
  moves : Moves h call answer t
  foreign : ∀ source, call.source = some source → source ≠ h.serverEndpoint → t = h
  failed : ∀ e, answer = .result (.error e) → t = h
  absorbing : h.state = .closed → t = h

theorem clientPolicyLaw {endpoint : SocketAddr} {timeout : Duration} {policy : ClientHandshake}
    (made : ClientHandshake.new endpoint timeout = .ok policy) (calls : List ClientCall) :
    let past := run observe policy calls
    let h := past.2
    h.serverEndpoint = endpoint ∧ h.handshakeTimeout = timeout ∧
      (∃ attempt sessionId, past.1.filterMap emission <+:
        [.clientHello attempt, .clientFinish attempt, .session (some attempt) sessionId]) ∧
      Emitted (past.1.filterMap emission) h.state ∧ Entered endpoint timeout past.1 h.state ∧
      (∀ call, CallLaw h call (perform h call).1 (perform h call).2) ∧
      ∀ current deadline expected, h.state.phase = some (current, deadline, expected) →
        (∀ attempt kind now, (h.precheck endpoint attempt kind now).2.state = .closed ↔ deadline ≤ now) ∧
        ∀ now, (h.checkTimeout now).2.state = .closed ↔ deadline ≤ now := by
  intro past h
  have start : Progress endpoint timeout [] policy := by
    unfold ClientHandshake.new at made
    obtain ⟨_, made⟩ := passed made
    cases Except.ok.inj made
    exact ⟨rfl, rfl, rfl, trivial⟩
  have progress : Progress endpoint timeout past.1 h := by
    have reached := runHistory observeProgress start calls
    rwa [List.nil_append] at reached
  refine ⟨progress.sameEndpoint, progress.sameTimeout, emittedSequence progress.emitted, progress.emitted, progress.entered, ?_, ?_⟩
  · intro call
    have moves := performMoves h call
    exact ⟨moves, fun _ => movesSource moves, fun _ => movesError moves, movesClosed moves⟩
  · intro current deadline expected pending
    refine ⟨?_, checkTimeoutDue pending⟩
    have due := precheckDue pending
    rwa [progress.sameEndpoint] at due

-- An authenticated server hello at the deadline closes the attempt; one before it would have advanced it.
theorem clientPolicyLawLate : ∃ policy, ClientHandshake.new (.v4 1 7) 10 = .ok policy ∧
    let calls := [ClientCall.start 5, .authenticatedServerHello (.v4 2 7) ⟨1⟩ 6, .authenticatedServerHello (.v4 1 7) ⟨1⟩ 15]
    (run observe policy calls).2.state = .closed ∧
      Emitted ((run observe policy calls).1.filterMap emission) .closed := by
  refine ⟨⟨.v4 1 7, 10, .idle, 1⟩, rfl, ?_⟩
  intro calls
  have closed : (run observe ⟨.v4 1 7, 10, .idle, 1⟩ calls).2.state = .closed := by decide
  refine ⟨closed, ?_⟩
  obtain ⟨-, -, -, emitted, -⟩ := @clientPolicyLaw (.v4 1 7) 10 ⟨.v4 1 7, 10, .idle, 1⟩ rfl calls
  rwa [closed] at emitted

end Crabnet.ClientPhases
