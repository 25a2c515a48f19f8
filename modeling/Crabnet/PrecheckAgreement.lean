import Crabnet.ClientCoordinator
import Crabnet.ClientPhases
import Crabnet.ServerCoordinator
import Crabnet.ServerRuns

/-! The authorisation that both policies make twice, before and after the
cryptography: the handler called next answers as the precheck decided, so that
the coordinators never meet an action they do not expect. -/
namespace Crabnet.PrecheckAgreement
open SessionTypes HashTable Fallible PendingManager CryptoBoundary ServerPolicy ClientPolicy HandshakeTypes
open ServerRegistry ServerOutcomes ServerRuns

-- The candidate that the finish is handed over with: the permitted one, else the source's own one, else any.
def Presented (t : ServerHandshake) (source : SocketAddr) (candidateId : CandidateId) : ServerClientFinishDecision → Prop
  | .permitNew permitted _ => candidateId = permitted
  | .permitDuplicate permitted _ _ => candidateId = permitted
  | .drop _ => ∀ c, t.pending.candidate source = some c → candidateId = c.id

def Follows (t : ServerHandshake) (source : SocketAddr) (attempt : ClientAttemptId) (metadata : EstablishedSessionMetadata)
    (now : Instant) (answer : Except ServerStateError ServerReport × ServerHandshake) : ServerClientFinishDecision → Prop
  | .permitNew candidateId permitted => permitted = attempt ∧
    answer.1 = .ok ⟨[], [.sendServerFinish source candidateId attempt metadata.sessionId,
      .sessionEstablished source metadata.sessionId]⟩ ∧
    answer.2.state = .established ⟨metadata, source, candidateId, attempt, now⟩
  | .permitDuplicate candidateId permitted stored => permitted = attempt ∧
    answer = (.ok ⟨[], [.sendServerFinish source candidateId attempt stored.sessionId]⟩, t) ∧
    ∃ session, t.state = .established session ∧ session.metadata = stored
  | .drop reason => answer = (.ok ⟨[], [.dropped source reason]⟩, t)

section
variable {t : ServerHandshake} {now : Instant}

theorem expireSettled (reg : Registered t)
    (early : ∀ source c, t.pending.pendingBySource.get source = some c → now < c.deadline)
    {Q : List ExpiredServerCandidate → ServerHandshake → Prop} {E : ServerStateError → ServerHandshake → Prop}
    (post : Q [] t) : Action.wp (ServerHandshake.expireAndReconcile now) Q E t := by
  simp only [ServerHandshake.expireAndReconcile, Action.wpBind, Action.wpRead]
  cases state : t.state with
  | listening =>
    simp only [ServerHandshake.expireListening, Action.wpBind, Action.wpTotal, expireNothing (notClosed reg state) early,
      ServerHandshake.reconcile, Action.wpPure]
    exact verifySpec reg post
  | established session =>
    have empty := (reg.emptyOutside (by simp [state])).2
    simpa [HashMap.isEmpty, empty] using post
  | closed =>
    have empty := (reg.emptyOutside (by simp [state])).2
    simpa [HashMap.isEmpty, empty] using post

theorem ownedCurrent (reg : Registered t) {source b} (owned : Owned t source b) : t.currentCandidate source = .ok (some b) := by
  obtain ⟨c, found, same⟩ := ownedPending reg owned
  rcases currentCases reg source with ⟨free, _⟩ | ⟨other, others, current⟩
  · rw [free] at found
    contradiction
  · obtain ⟨c', found', same'⟩ := ownedPending reg others
    cases Option.some.inj (found.symm.trans found')
    have entries := owned.entry.symm.trans (same.symm ▸ same' ▸ others.entry)
    rw [current, Option.some.inj entries]

theorem finishFollows (reg : Registered t)
    (early : ∀ source c, t.pending.pendingBySource.get source = some c → now < c.deadline) {source attempt decision}
    (decided : FinishDecision t source attempt decision) {candidateId} (presented : Presented t source candidateId decision)
    (metadata : EstablishedSessionMetadata) :
    Follows t source attempt metadata now
      (ServerHandshake.handleAuthenticatedClientFinish source candidateId attempt metadata now t) decision := by
  refine Action.wpOutcome (R := fun answer => Follows t source attempt metadata now answer decision) ?_
  simp only [ServerHandshake.handleAuthenticatedClientFinish, Action.wpBind, Action.wpRead]
  refine expireSettled reg early ?_
  cases decided with
  | unavailable closed =>
    rw [closed]
    rfl
  | duplicate session state peer same =>
    cases presented
    rw [state]
    simp only [Action.wpIte, Action.wpPure]
    refine ⟨fun _ => ⟨same.symm, rfl, session, state, rfl⟩, fun other => absurd ⟨peer, trivial, same⟩ other⟩
  | active session state other =>
    rw [state]
    simp only [Action.wpIte, Action.wpPure]
    exact ⟨fun both => absurd ⟨both.1, both.2.2⟩ other, fun _ => rfl⟩
  | absent listening free =>
    rw [listening]
    simp only [ServerHandshake.current, Action.wpBind, Action.wpRead, Action.wpOfExcept]
    rcases currentCases reg source with ⟨_, current⟩ | ⟨b, owned, current⟩
    · simp only [current, Action.wpPure]
      rfl
    · obtain ⟨c, found, _⟩ := ownedPending reg owned
      rw [free] at found
      contradiction
  | stale b owned other =>
    rw [owned.listening]
    simp only [ServerHandshake.current, Action.wpBind, Action.wpRead, Action.wpOfExcept, ownedCurrent reg owned]
    have own : b.candidateId = candidateId := by
      obtain ⟨c, found, same⟩ := ownedPending reg owned
      rw [← same]
      exact (presented c (by rw [candidateAny reg, found])).symm
    simp only [Action.wpIte, Action.wpPure]
    exact ⟨fun differs => absurd own differs, fun _ => ⟨fun _ => rfl, fun same => absurd (not_not.mp same).symm other⟩⟩
  | permitted b owned same =>
    cases presented
    subst same
    rw [owned.listening]
    simp only [ServerHandshake.current, Action.wpBind, Action.wpRead, Action.wpOfExcept, ownedCurrent reg owned,
      Action.wpIte, Action.wpPure, Action.wpModify]
    refine ⟨fun differs => absurd rfl differs, fun _ => ⟨fun differs => absurd rfl differs, fun _ => ?_⟩⟩
    exact removeExactSpec reg owned.listening owned.entry ⟨rfl, rfl, rfl⟩

end

structure Permitted (h : ClientHandshake) (source : SocketAddr) (attempt : ClientAttemptId) (kind : ClientPreAuthKind)
    (now deadline : Instant) : Prop where
  endpoint : source = h.serverEndpoint
  pending : h.state.phase = some (attempt, deadline, ClientHandshake.inboundKind kind)
  early : ¬ deadline ≤ now

theorem permitPermitted {h t : ClientHandshake} {source attempt kind now current}
    (permit : h.precheck source attempt kind now = (.permit current, t)) :
    current = attempt ∧ t = h ∧ ∃ deadline, Permitted h source attempt kind now deadline := by
  unfold ClientHandshake.precheck at permit
  split at permit
  · cases permit
  · rename_i endpoint
    split at permit
    · cases permit
    · rename_i expectedAttempt deadline expected pending
      split at permit
      · cases permit
      · rename_i early
        split at permit
        · cases permit
        · rename_i kinds
          split at permit
          · cases permit
          · rename_i same
            rw [not_not] at endpoint kinds same
            cases permit
            exact ⟨same.symm, rfl, deadline, endpoint, by rw [same, kinds, pending], early⟩

structure ClientFollows (h : ClientHandshake) (source : SocketAddr) (attempt : ClientAttemptId) (kind : ClientPreAuthKind)
    (now : Instant) : Prop where
  hello : kind = .serverHello →
    (ClientHandshake.handleAuthenticatedServerHello source attempt now h).1 = .ok (.sendClientFinish attempt) ∨
    (ClientHandshake.handleAuthenticatedServerHello source attempt now h).1 = .error (.deadlineOverflow .serverFinish)
  finish : kind = .serverFinish → ∀ metadata,
    (ClientHandshake.handleAuthenticatedServerFinish source attempt metadata now h).1 =
      .ok (.sessionEstablished metadata.sessionId)
  failure : h.handleAuthenticationFailure source attempt = (.dropped .authenticationFailed, {h with state := .closed})

theorem permittedFollows {h : ClientHandshake} {source attempt kind now deadline}
    (permitted : Permitted h source attempt kind now deadline) : ClientFollows h source attempt kind now := by
  obtain ⟨rfl, pending, early⟩ := permitted
  refine ⟨?_, ?_, ?_⟩
  · rintro rfl
    cases state : h.state with
    | awaitingServerHello current startedAt due =>
      rw [state] at pending
      cases Option.some.inj pending
      refine Action.wpOutcome (R := fun answer : Except ClientStateError ClientAction × ClientHandshake =>
        answer.1 = .ok (.sendClientFinish attempt) ∨ answer.1 = .error (.deadlineOverflow .serverFinish)) ?_
      simp only [ClientHandshake.handleAuthenticatedServerHello, Action.wpBind, Action.wpRead, ne_eq, not_true_eq_false,
        if_false, state, early, Action.wpOfExcept, Action.wpModify, Action.wpPure]
      cases timed : ClientHandshake.phaseDeadline now h.handshakeTimeout .serverFinish with
      | ok later => exact .inl trivial
      | error e =>
        refine .inr ?_
        unfold ClientHandshake.phaseDeadline at timed
        split at timed
        · contradiction
        · cases timed
          rfl
    | idle | awaitingServerFinish | established | closed =>
      rw [state] at pending
      simp [ClientHandshakeState.phase, ClientHandshake.inboundKind] at pending
  · rintro rfl metadata
    cases state : h.state with
    | awaitingServerFinish current startedAt phaseStartedAt due =>
      rw [state] at pending
      cases Option.some.inj pending
      refine Action.wpOutcome (R := fun answer : Except ClientStateError ClientAction × ClientHandshake =>
        answer.1 = .ok (.sessionEstablished metadata.sessionId)) ?_
      simp only [ClientHandshake.handleAuthenticatedServerFinish, Action.wpBind, Action.wpRead, ne_eq, not_true_eq_false,
        if_false, state, early, Action.wpModify, Action.wpPure]
    | idle | awaitingServerHello | established | closed =>
      rw [state] at pending
      simp [ClientHandshakeState.phase, ClientHandshake.inboundKind] at pending
  · simp only [ClientHandshake.handleAuthenticationFailure, ne_eq, not_true_eq_false, if_false, pending]

def unexpected : CoordinatorPrimaryError → Bool
  | .invariant .unexpectedServerEffect | .invariant .unexpectedServerReport | .invariant .unexpectedClientAction => true
  | _ => false

def Expects {α : Type} : Except FatalCoordinatorError α → Prop
  | .ok _ => True
  | .error fatal => unexpected fatal.primary = false

section
variable {P C α β : Type}

def Aside (x : CoordinatorStep P C α) : Prop :=
  ∀ c, Action.wp x (fun _ t => t.policy = c.policy) (fun e _ => unexpected e = false) c

theorem asideThen {x : CoordinatorStep P C α} (aside : Aside x) {f : α → CoordinatorStep P C β}
    {c : HandshakeCoordinator P C} {Q : β → HandshakeCoordinator P C → Prop}
    (rest : ∀ a t, t.policy = c.policy → Action.wp (f a) Q (fun e _ => unexpected e = false) t) :
    Action.wp (x >>= f) Q (fun e _ => unexpected e = false) c := by
  rw [Action.wpBind]
  exact Action.wpMono (aside c) (fun a t same => rest a t same) (fun _ _ quiet => quiet)

theorem cryptoAside (x : Action C CryptoStateError α) : Aside (onCrypto x : CoordinatorStep P C α) :=
  fun _ => callRule (fun _ _ _ => rfl) (fun _ _ => rfl)

theorem askAside (x : C → Except CryptoStateError α) : Aside (askCrypto x : CoordinatorStep P C α) :=
  fun _ => askRule (fun _ _ => rfl) (fun _ => rfl)

end

section Server
open ServerCoordinator ServerHandshakeCrypto
variable {C : Type} [ServerHandshakeCrypto C] {c : ServerHandshakeCoordinator C}

theorem verifyAside : Aside (verifyStable : Step C Unit) := by
  intro c
  unfold Action.wp verifyStable
  cases verified : verifyServerStable c.policy c.crypto with
  | ok _ => trivial
  | error e =>
    simp only [verifyServerStable] at verified
    split at verified
    · cases verified
      rfl
    · split at verified
      · cases verified
        rfl
      · split at verified
        · cases verified
          rfl
        · contradiction

theorem removalAside (candidateId attempt expected) : Aside (expectRemoval candidateId attempt expected : Step C Unit) := by
  intro c
  refine asideThen (cryptoAside _) fun removal t same => ?_
  simp only [Action.wpIte, violated, Action.wpFail, Action.wpPure]
  exact ⟨fun _ => rfl, fun _ => same⟩

theorem reconcileAside (expired) : Aside (reconcileExpired expired : Step C (List ServerCoordinatorEvent)) := by
  induction expired with
  | nil => exact fun _ => rfl
  | cons candidate rest ih =>
    intro c
    refine asideThen (removalAside _ _ _) fun _ t same => ?_
    refine asideThen ih fun events u later => ?_
    exact later.trans same

theorem prepareAside (candidateId attempt sessionId) :
    Aside (prepareFinish candidateId attempt sessionId : Step C (PreparedServerFinish (ServerFinishPayload C))) := by
  intro c
  refine asideThen (askAside _) fun prepared t same => ?_
  simp only [Action.wpIte, violated, Action.wpFail, Action.wpPure]
  exact ⟨fun _ => rfl, fun _ => same⟩

abbrev Expected (x : Step C (Report C)) (c : ServerHandshakeCoordinator C) : Prop :=
  Action.wp x (fun _ _ => True) (fun e _ => unexpected e = false) c

theorem abortExpected (events source candidateId attempt expected) :
    Expected (abortCandidate events source candidateId attempt expected : Step C (Report C)) c := by
  simp only [Expected, abortCandidate]
  rw [Action.wpBind]
  simp only [onPolicy, Action.wpMapError, Action.wpWithin]
  unfold Action.wp
  split
  · refine asideThen (removalAside _ _ _) fun _ t _ => ?_
    refine asideThen verifyAside fun _ u _ => ?_
    trivial
  · rfl

theorem completeExpected {events source candidateId attempt metadata now} (listening : Registered c.policy)
    (early : ∀ source c', c.policy.pending.pendingBySource.get source = some c' → now < c'.deadline)
    (decided : FinishDecision c.policy source attempt (.permitNew candidateId attempt)) :
    Expected (completeFinish events source candidateId attempt metadata now : Step C (Report C)) c := by
  have presented : Presented c.policy source candidateId (.permitNew candidateId attempt) := rfl
  obtain ⟨-, report, -⟩ := finishFollows listening early decided presented metadata
  simp only [Expected, completeFinish]
  rw [Action.wpBind]
  simp only [onPolicy, Action.wpMapError, Action.wpWithin]
  generalize ran : ServerHandshake.handleAuthenticatedClientFinish source candidateId attempt metadata now c.policy = answer
    at report
  obtain ⟨result, after⟩ := answer
  cases report
  refine Action.wpOfOk ran ?_
  simp only [ne_eq, not_true_eq_false, if_false, expectedFinishEffects, beq_self_eq_true, Bool.and_self, Bool.true_eq_false]
  refine asideThen (cryptoAside _) fun _ t _ => ?_
  refine asideThen (prepareAside _ _ _) fun prepared u _ => ?_
  refine asideThen verifyAside fun _ v _ => ?_
  trivial

theorem repeatExpected (events source candidateId attempt expected observed) :
    Expected (repeatFinish events source candidateId attempt expected observed : Step C (Report C)) c := by
  simp only [Expected, repeatFinish, Action.wpIte]
  refine ⟨fun _ => rfl, fun _ => ?_⟩
  refine asideThen (prepareAside _ _ _) fun prepared u _ => ?_
  refine asideThen verifyAside fun _ v _ => ?_
  trivial

theorem finishExpected (reg : Registered c.policy) (source message now) :
    Expected (finish source message now : Step C (Report C)) c := by
  simp only [Expected, finish]
  rw [Action.wpBind]
  simp only [onPolicy, Action.wpMapError, Action.wpWithin]
  refine Action.wpMono (precheckSpec reg source message.clientAttemptId now) ?_ (fun _ _ => False.elim)
  intro precheck t spec
  obtain ⟨ex, registered, decided⟩ := spec
  have early : ∀ source c', t.pending.pendingBySource.get source = some c' → now < c'.deadline :=
    fun _ _ found => expiresEarly ex found
  refine asideThen (reconcileAside _) fun events u same => ?_
  generalize precheck.decision = decision at decided
  -- Every decision but the permission of a new session ends without asking the policy to match again.
  have authenticate : ∀ candidateId attempt mode,
      (mode = .pendingCandidate → FinishDecision t source attempt (.permitNew candidateId attempt)) →
        Expected (answerFinish events source candidateId attempt mode message.payload now : Step C (Report C)) u := by
    intro candidateId attempt mode permitted
    simp only [Expected, answerFinish]
    refine asideThen (cryptoAside _) fun outcome v sameAgain => ?_
    cases outcome with
    | remoteFailure failure =>
      cases failure with
      | clientAttempt => rfl
      | serverCandidate observedCandidate observedAttempt reason =>
        simp only [Action.wpIte]
        refine ⟨fun _ => rfl, fun _ => ?_⟩
        cases mode with
        | establishedDuplicate expected => exact asideThen verifyAside fun _ _ _ => trivial
        | pendingCandidate => exact abortExpected _ _ _ _ _
    | success authenticated =>
      simp only [Action.wpIte]
      refine ⟨fun _ => rfl, fun _ => ?_⟩
      cases mode with
      | establishedDuplicate expected => exact repeatExpected _ _ _ _ _ _
      | pendingCandidate =>
        have policy : v.policy = t := sameAgain.trans same
        subst policy
        exact completeExpected registered early (permitted rfl)
  cases decided with
  | unavailable | active | absent | stale =>
    exact asideThen verifyAside fun _ _ _ => trivial
  | duplicate session state peer same => exact authenticate _ _ _ (by simp)
  | permitted b owned same =>
    exact authenticate _ _ _ fun _ => .permitted b owned rfl

theorem receiveFinishExpects (reg : Registered c.policy) (source message now) :
    Expects (receiveClientFinish source message now c).1 := by
  have ended := finishExpected reg source message now
  unfold receiveClientFinish closing
  rcases ran : finish source message now c with ⟨primary | report, t⟩
  · have quiet := Action.wpError ended ran
    exact quiet
  · trivial

end Server

section Client
open ClientCoordinator ClientHandshakeCrypto
variable {C : Type} {c : ClientHandshakeCoordinator C}

theorem attemptAside (expected observed) : Aside (expectAttempt expected observed : Step C Unit) := by
  intro c
  simp only [expectAttempt, Action.wpIte, violated, Action.wpFail, Action.wpPure]
  exact ⟨fun _ => rfl, fun _ => trivial⟩

variable [ClientHandshakeCrypto C]

theorem verifyPhasesAside : Aside (verifyPhases : Step C Unit) := by
  intro c
  unfold Action.wp verifyPhases
  cases verified : verifyClientPhases c.policy c.crypto with
  | ok _ => trivial
  | error e =>
    simp only [verifyClientPhases] at verified
    split at verified
    · cases verified
      rfl
    · contradiction

abbrev ClientExpected (x : Step C (Report C)) (c : ClientHandshakeCoordinator C) : Prop :=
  Action.wp x (fun _ _ => True) (fun e _ => unexpected e = false) c

theorem closeExpected (attemptId event) : ClientExpected (closeAttempt attemptId event : Step C (Report C)) c := by
  simp only [ClientExpected, closeAttempt]
  refine asideThen (cryptoAside _) fun removal t _ => ?_
  simp only [Action.wpIte]
  refine ⟨fun _ => rfl, fun _ => ?_⟩
  refine asideThen verifyPhasesAside fun _ u _ => ?_
  trivial

theorem rejectExpected {source attempt kind now observed} (follows : ClientFollows c.policy source attempt kind now) :
    ClientExpected (rejectAttempt source attempt observed : Step C (Report C)) c := by
  simp only [ClientExpected, rejectAttempt]
  refine asideThen (attemptAside _ _) fun _ t same => ?_
  simp only [askPolicy, Action.wpBind, Action.wpTotal, same, follows.failure, ne_eq, not_true_eq_false, if_false]
  exact closeExpected _ _

theorem acceptHelloExpected {source attempt now observed} (follows : ClientFollows c.policy source attempt .serverHello now) :
    ClientExpected (acceptServerHello source attempt observed now : Step C (Report C)) c := by
  simp only [ClientExpected, acceptServerHello]
  refine asideThen (attemptAside _ _) fun _ t same => ?_
  rw [Action.wpBind]
  simp only [onPolicy, Action.wpMapError, Action.wpWithin, same]
  have answers := follows.hello rfl
  generalize ran : ClientHandshake.handleAuthenticatedServerHello source attempt now c.policy = answer at answers
  obtain ⟨result, after⟩ := answer
  rcases answers with sent | overflow
  · cases sent
    refine Action.wpOfOk ran ?_
    refine asideThen (attemptAside _ _) fun _ u _ => ?_
    refine asideThen (askAside _) fun prepared v _ => ?_
    refine asideThen (attemptAside _ _) fun _ w _ => ?_
    refine asideThen verifyPhasesAside fun _ x _ => ?_
    trivial
  · cases overflow
    simp only [Action.wp, ran]
    rfl

theorem acceptFinishExpected {source attempt now authenticated}
    (follows : ClientFollows c.policy source attempt .serverFinish now) :
    ClientExpected (acceptServerFinish source attempt authenticated now : Step C (Report C)) c := by
  simp only [ClientExpected, acceptServerFinish, expectAttempt]
  rw [Action.wpBind, Action.wpIte]
  refine ⟨fun _ => rfl, fun same => ?_⟩
  rw [not_not] at same
  rw [Action.wpPure, Action.wpBind, same]
  simp only [onPolicy, Action.wpMapError, Action.wpWithin]
  have answers := follows.finish rfl authenticated.metadata
  generalize ran : ClientHandshake.handleAuthenticatedServerFinish source attempt authenticated.metadata now c.policy = answer
    at answers
  obtain ⟨result, after⟩ := answer
  cases answers
  refine Action.wpOfOk ran ?_
  simp only [ne_eq, not_true_eq_false, if_false]
  refine asideThen (cryptoAside _) fun _ u _ => ?_
  refine asideThen verifyPhasesAside fun _ v _ => ?_
  trivial

-- The part of the two messages that differs is what follows a success of the provider.
theorem permitExpected {source attempt kind now} {α : Type} {authenticate : Action C CryptoStateError (CryptoOutcome α)}
    {answer : CryptoOutcome α → Step C (Report C)} (follows : ClientFollows c.policy source attempt kind now)
    (accepted : ∀ value t, t.policy = c.policy → ClientExpected (answer (.success value)) t)
    (rejected : ∀ observed reason, answer (.remoteFailure (.clientAttempt observed reason)) = rejectAttempt source attempt observed)
    (confused : ∀ candidateId observed reason, answer (.remoteFailure (.serverCandidate candidateId observed reason)) =
      violated .cryptoFailureCorrelationMismatch) : ClientExpected (onCrypto authenticate >>= answer) c := by
  refine asideThen (cryptoAside _) fun outcome t same => ?_
  cases outcome with
  | success value => exact accepted value t same
  | remoteFailure failure =>
    cases failure with
    | clientAttempt observed reason =>
      rw [rejected]
      exact rejectExpected (by rw [same]; exact follows)
    | serverCandidate candidateId observed reason =>
      rw [confused]
      rfl

theorem serverHelloExpected (source message now) : ClientExpected (serverHello source message now : Step C (Report C)) c := by
  simp only [ClientExpected, serverHello, askPolicy]
  rw [Action.wpBind, Action.wpTotal]
  generalize checked : c.policy.precheck source message.clientAttemptId .serverHello now = answer
  obtain ⟨decision, t⟩ := answer
  cases decision with
  | drop => trivial
  | timeout => exact closeExpected _ _
  | permit attemptId =>
    obtain ⟨rfl, rfl, deadline, permitted⟩ := permitPermitted checked
    have follows := permittedFollows permitted
    refine permitExpected (c := c) follows (fun value t same => ?_) (fun _ _ => rfl) (fun _ _ _ => rfl)
    exact acceptHelloExpected (by rw [same]; exact follows)

theorem serverFinishExpected (source message now) : ClientExpected (serverFinish source message now : Step C (Report C)) c := by
  simp only [ClientExpected, serverFinish, askPolicy]
  rw [Action.wpBind, Action.wpTotal]
  generalize checked : c.policy.precheck source message.clientAttemptId .serverFinish now = answer
  obtain ⟨decision, t⟩ := answer
  cases decision with
  | drop => trivial
  | timeout => exact closeExpected _ _
  | permit attemptId =>
    obtain ⟨rfl, rfl, deadline, permitted⟩ := permitPermitted checked
    have follows := permittedFollows permitted
    refine permitExpected (c := c) follows (fun value t same => ?_) (fun _ _ => rfl) (fun _ _ _ => rfl)
    exact acceptFinishExpected (by rw [same]; exact follows)

theorem closingExpects {x : Step C (Report C)} (ended : ClientExpected x c) : Expects (closing x c).1 := by
  unfold closing
  rcases ran : x c with ⟨primary | report, t⟩
  · have quiet := Action.wpError ended ran
    exact quiet
  · trivial

end Client

structure ServerAgreement (h : ServerHandshake) (source : SocketAddr) (attempt : ClientAttemptId) (now : Instant) : Prop where
  handler : ∃ report t, ServerHandshake.precheckClientFinish source attempt now h = (.ok report, t) ∧
    ∀ candidateId metadata, Presented t source candidateId report.decision →
      Follows t source attempt metadata now
        (ServerHandshake.handleAuthenticatedClientFinish source candidateId attempt metadata now t) report.decision
  coordinator : ∀ (C : Type) [ServerHandshakeCrypto C] (crypto : C) (lifecycle : CoordinatorLifecycle)
    (payload : ServerHandshakeCrypto.ClientFinishPayload C),
    Expects (ServerCoordinator.receiveClientFinish source ⟨attempt, payload⟩ now ⟨h, crypto, lifecycle⟩).1

structure ClientAgreement (h : ClientHandshake) (source : SocketAddr) (attempt : ClientAttemptId) (now : Instant) : Prop where
  handler : ∀ kind current t, h.precheck source attempt kind now = (.permit current, t) →
    current = attempt ∧ t = h ∧ ClientFollows t source attempt kind now
  hello : ∀ (C : Type) [ClientHandshakeCrypto C] (crypto : C) (lifecycle : CoordinatorLifecycle)
    (payload : ClientHandshakeCrypto.ServerHelloPayload C),
    Expects (ClientCoordinator.receiveServerHello source ⟨attempt, payload⟩ now ⟨h, crypto, lifecycle⟩).1
  finish : ∀ (C : Type) [ClientHandshakeCrypto C] (crypto : C) (lifecycle : CoordinatorLifecycle)
    (payload : ClientHandshakeCrypto.ServerFinishPayload C),
    Expects (ClientCoordinator.receiveServerFinish source ⟨attempt, payload⟩ now ⟨h, crypto, lifecycle⟩).1

theorem serverAgreement {h : ServerHandshake} (reg : Registered h) (source attempt now) : ServerAgreement h source attempt now := by
  refine ⟨?_, fun _ _ _ _ _ => receiveFinishExpects reg _ _ _⟩
  have spec := precheckSpec reg source attempt now
  rcases ran : ServerHandshake.precheckClientFinish source attempt now h with ⟨e | report, t⟩
  · exact (Action.wpError spec ran).elim
  · obtain ⟨ex, registered, decided⟩ := Action.wpOk spec ran
    refine ⟨report, t, rfl, fun candidateId metadata presented => ?_⟩
    exact finishFollows registered (fun _ _ found => expiresEarly ex found) decided presented metadata

theorem clientAgreement (h : ClientHandshake) (source attempt now) : ClientAgreement h source attempt now := by
  refine ⟨?_, fun _ _ _ _ _ => closingExpects (serverHelloExpected _ _ _),
    fun _ _ _ _ _ => closingExpects (serverFinishExpected _ _ _)⟩
  intro kind current t permit
  obtain ⟨same, rfl, deadline, permitted⟩ := permitPermitted permit
  exact ⟨same, rfl, permittedFollows permitted⟩

theorem precheckAgreement (source : SocketAddr) (attempt : ClientAttemptId) (now : Instant) :
    (∀ policy sources ids (ops : List ServerOp),
      ServerAgreement (run step (ServerHandshake.new policy sources ids) ops).2 source attempt now) ∧
    ∀ h : ClientHandshake, ClientAgreement h source attempt now :=
  ⟨fun policy sources ids ops => serverAgreement (lifetimeRun policy sources ids ops).registered source attempt now,
    fun h => clientAgreement h source attempt now⟩

end Crabnet.PrecheckAgreement
