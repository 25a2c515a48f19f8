import Crabnet.ServerRegistry

/-! What each policy operation can do from a registered state, one inductive
relation per operation: every branch that can be taken, its guard, its effects
and the state it leaves. Callers reason with these and never unfold the code. -/
namespace Crabnet.ServerOutcomes
open MachineWord SessionTypes HashTable Fallible PendingManager ServerPolicy ServerRegistry

structure Owned (h : ServerHandshake) (source : SocketAddr) (b : ServerCandidate) : Prop where
  listening : h.state = .listening
  entry : h.candidateById.get b.candidateId = some b
  source : b.source = source

theorem currentCases {h : ServerHandshake} (reg : Registered h) (source : SocketAddr) :
    (h.pending.pendingBySource.get source = none ∧ h.currentCandidate source = .ok none) ∨
    ∃ b, Owned h source b ∧ h.currentCandidate source = .ok (some b) := by
  rcases currentOk reg source with absent | ⟨b, entry, owner, found⟩
  · exact .inl absent
  · refine .inr ⟨b, ⟨?_, entry, owner⟩, found⟩
    by_contra outside
    have empty := (HashMap.lenEqZeroIff _).mp (reg.emptyOutside outside).2 b.candidateId
    rw [empty] at entry
    contradiction

theorem ownedPending {h : ServerHandshake} {source b} (reg : Registered h) (owned : Owned h source b) :
    ∃ c, h.pending.pendingBySource.get source = some c ∧ c.id = b.candidateId := by
  obtain ⟨_, c, found, same⟩ := reg.backward _ _ owned.entry
  rw [owned.source] at found
  exact ⟨c, found, same⟩

inductive HelloStep (m : ServerHandshake) (source : SocketAddr) (attempt : ClientAttemptId)
    (now : Instant) : List ServerEffect → ServerHandshake → Prop
  | unavailable (closed : m.state = .closed) :
    HelloStep m source attempt now [.dropped source .sessionUnavailable] m
  | active (session) (state : m.state = .established session) :
    HelloStep m source attempt now [.dropped source (.anotherPeerIsActive session.peerEndpoint)] m
  | stale (b) (owned : Owned m source b) (other : b.clientAttemptId ≠ attempt) :
    HelloStep m source attempt now
      [.dropped source (.staleClientAttempt b.clientAttemptId attempt)] m
  | resent (b) (owned : Owned m source b) (same : b.clientAttemptId = attempt) :
    HelloStep m source attempt now
      [.sendServerHello source b.candidateId attempt .existingCandidate] m
  | full (listening : m.state = .listening) (free : m.pending.pendingBySource.get source = none)
      (crowded : m.pending.policy.maximumPending ≤ m.pending.pendingBySource.len) :
    HelloStep m source attempt now
      [.dropped source (.pendingCapacityReached m.pending.policy.maximumPending)] m
  | admitted (deadline next) (listening : m.state = .listening)
      (free : m.pending.pendingBySource.get source = none)
      (advance : checkedAdd m.pending.nextCandidateId 1 = some next)
      (timely : Instant.checkedAdd now m.pending.policy.handshakeTimeout = some deadline) :
    HelloStep m source attempt now
      [.sendServerHello source ⟨m.pending.nextCandidateId⟩ attempt .newCandidate]
      (ServerRegistry.admitted m source attempt now deadline next)

inductive HelloRefused (source : SocketAddr) : ServerStateError → Prop
  | deadline : HelloRefused source
      (.pendingManager .applyValidClientHello (some source) (.deadlineOverflow source))
  | identifiers : HelloRefused source
      (.pendingManager .applyValidClientHello (some source) .candidateIdExhausted)

theorem admissionSpec {m : ServerHandshake} (reg : Registered m) (listening : m.state = .listening)
    {now : Instant} (early : ∀ source c, m.pending.pendingBySource.get source = some c → now < c.deadline)
    (source attempt expired) :
    Action.wp
      (do
        let admission ← Action.mapError (.pendingManager .applyValidClientHello (some source))
          (Action.within ServerHandshake.pending (fun h pending => {h with pending := pending})
            (SessionManager.admitSource source now))
        ServerHandshake.applyAdmission source attempt expired admission.outcome)
      (fun r t => r.expired = expired ∧ HelloStep m source attempt now r.effects t ∧ Registered t)
      (fun e t => HelloRefused source e ∧ t = m) m := by
  have open_ := notClosed reg listening
  simp only [SessionManager.admitSource, Action.wpBind, Action.wpMapError, Action.wpWithin,
    Action.wpTotal, expireNothing open_ early, Action.wpRead, open_, if_false]
  cases found : m.pending.pendingBySource.get source with
  | some existing =>
    simp only [Action.wpPure, ServerHandshake.applyAdmission, ServerHandshake.current,
      Action.wpBind, Action.wpRead, Action.wpOfExcept]
    rcases currentCases reg source with ⟨absent, _⟩ | ⟨b, owned, current⟩
    · rw [absent] at found
      contradiction
    obtain ⟨c, held, same⟩ := ownedPending reg owned
    cases Option.some.inj (held.symm.trans found)
    simp only [current, Action.wpIte, Action.wpPure]
    constructor
    · intro other
      exact ⟨rfl, .stale b owned other, reg⟩
    · intro equal
      rw [same]
      exact ⟨trivial, .resent b owned (by simpa using equal), reg⟩
  | none =>
    simp only [Action.wpIte, Action.wpPure, ServerHandshake.applyAdmission]
    constructor
    · intro crowded
      exact ⟨rfl, .full listening found crowded, reg⟩
    intro room
    simp only [SessionManager.calculateDeadline, Action.wpBind, Action.wpOfExcept]
    cases at_ : Instant.checkedAdd now m.pending.policy.handshakeTimeout with
    | none => exact ⟨.deadline, trivial⟩
    | some deadline =>
      simp only [SessionManager.reserveCandidateId, Action.wpBind, Action.wpRead]
      cases advance : checkedAdd m.pending.nextCandidateId 1 with
      | none => exact ⟨.identifiers, rfl⟩
      | some next =>
        have registered := admittedRegistered reg listening found (Nat.lt_of_not_le room) advance
          attempt now deadline
        simp only [Action.wpModify, Action.wpPure, Action.wpBind]
        exact verifySpec registered ⟨trivial, .admitted deadline next listening found advance at_, registered⟩

theorem helloSpec {h : ServerHandshake} (reg : Registered h) (source attempt now) :
    Action.wp (ServerHandshake.handleValidClientHello source attempt now)
      (fun r t => ∃ m, Expires h now r.expired m ∧ Registered m ∧
        HelloStep m source attempt now r.effects t ∧ Registered t)
      (fun e t => HelloRefused source e ∧ h.state = .listening ∧ ∃ expired, Expires h now expired t ∧ Registered t)
      h := by
  simp only [ServerHandshake.handleValidClientHello, Action.wpBind, Action.wpRead]
  refine Action.wpMono (expireSpec reg now) ?_ (fun _ _ impossible => impossible.elim)
  intro expired m spec
  obtain ⟨ex, registered⟩ := spec
  cases state : m.state with
  | closed => exact ⟨m, ex, registered, .unavailable state, registered⟩
  | established session => exact ⟨m, ex, registered, .active session state, registered⟩
  | listening =>
    have admission := admissionSpec registered state
      (fun _ _ found => expiresEarly ex found) source attempt expired
    refine Action.wpMono admission ?_ ?_
    · intro r t spec
      obtain ⟨rfl, step, after⟩ := spec
      exact ⟨m, ex, registered, step, after⟩
    · intro e t spec
      obtain ⟨refused, rfl⟩ := spec
      exact ⟨refused, ex.state.symm.trans state, expired, ex, registered⟩

theorem timeoutsSpec {h : ServerHandshake} (reg : Registered h) (now) :
    Action.wp (ServerHandshake.checkTimeouts now)
      (fun r t => r.effects = [] ∧ Expires h now r.expired t ∧ Registered t) (fun _ _ => False) h := by
  simp only [ServerHandshake.checkTimeouts, Action.wpBind, Action.wpPure]
  exact Action.wpMono (expireSpec reg now) (fun _ _ done => ⟨trivial, done⟩) (fun _ _ => id)

inductive FinishDecision (m : ServerHandshake) (source : SocketAddr) (attempt : ClientAttemptId) :
    ServerClientFinishDecision → Prop
  | unavailable (closed : m.state = .closed) : FinishDecision m source attempt (.drop .sessionUnavailable)
  | duplicate (session) (state : m.state = .established session)
      (peer : source = session.peerEndpoint) (same : attempt = session.clientAttemptId) :
    FinishDecision m source attempt
      (.permitDuplicate session.completedCandidateId session.clientAttemptId session.metadata)
  | active (session) (state : m.state = .established session)
      (other : ¬ (source = session.peerEndpoint ∧ attempt = session.clientAttemptId)) :
    FinishDecision m source attempt (.drop (.anotherPeerIsActive session.peerEndpoint))
  | absent (listening : m.state = .listening) (free : m.pending.pendingBySource.get source = none) :
    FinishDecision m source attempt (.drop .noPendingCandidate)
  | stale (b) (owned : Owned m source b) (other : attempt ≠ b.clientAttemptId) :
    FinishDecision m source attempt (.drop (.staleClientAttempt b.clientAttemptId attempt))
  | permitted (b) (owned : Owned m source b) (same : attempt = b.clientAttemptId) :
    FinishDecision m source attempt (.permitNew b.candidateId b.clientAttemptId)

theorem precheckSpec {h : ServerHandshake} (reg : Registered h) (source attempt now) :
    Action.wp (ServerHandshake.precheckClientFinish source attempt now)
      (fun r t => Expires h now r.expired t ∧ Registered t ∧ FinishDecision t source attempt r.decision)
      (fun _ _ => False) h := by
  simp only [ServerHandshake.precheckClientFinish, Action.wpBind, Action.wpRead]
  refine Action.wpMono (timeoutsSpec reg now) ?_ (fun _ _ => id)
  intro r m spec
  obtain ⟨_, ex, registered⟩ := spec
  cases state : m.state with
  | closed => exact ⟨ex, registered, .unavailable state⟩
  | established session =>
    simp only [Action.wpIte, Action.wpPure]
    exact ⟨fun both => ⟨ex, registered, .duplicate session state both.1 both.2⟩,
      fun other => ⟨ex, registered, .active session state other⟩⟩
  | listening =>
    simp only [ServerHandshake.current, Action.wpBind, Action.wpRead, Action.wpOfExcept]
    rcases currentCases registered source with ⟨free, current⟩ | ⟨b, owned, current⟩
    · simp only [current, Action.wpPure]
      exact ⟨ex, registered, .absent state free⟩
    · simp only [current, Action.wpIte, Action.wpPure]
      refine ⟨fun other => ⟨ex, registered, .stale b owned other⟩, fun equal => ?_⟩
      exact ⟨ex, registered, .permitted b owned (by simpa using equal)⟩

inductive Unmatched (m : ServerHandshake) (source : SocketAddr) (candidateId : CandidateId)
    (attempt : ClientAttemptId) : ServerDropReason → Prop
  | unavailable (closed : m.state = .closed) : Unmatched m source candidateId attempt .sessionUnavailable
  | active (session) (state : m.state = .established session) :
    Unmatched m source candidateId attempt (.anotherPeerIsActive session.peerEndpoint)
  | absent (listening : m.state = .listening) (free : m.pending.pendingBySource.get source = none) :
    Unmatched m source candidateId attempt .noPendingCandidate
  | candidate (b) (owned : Owned m source b) (other : b.candidateId ≠ candidateId) :
    Unmatched m source candidateId attempt (.staleCandidate b.candidateId candidateId)
  | attempt (b) (owned : Owned m source b) (other : b.clientAttemptId ≠ attempt) :
    Unmatched m source candidateId attempt (.staleClientAttempt b.clientAttemptId attempt)

def bindingOf (candidateId : CandidateId) (source : SocketAddr) (attempt : ClientAttemptId) :
    ServerCandidate := ⟨candidateId, source, attempt⟩

theorem ownedIs {m : ServerHandshake} {source b id attempt} (owned : Owned m source b)
    (sameId : b.candidateId = id) (sameAttempt : b.clientAttemptId = attempt) :
    b = bindingOf id source attempt := by
  obtain ⟨_, _, owner⟩ := owned
  cases b
  simp_all [bindingOf]

inductive FinishStep (m : ServerHandshake) (source : SocketAddr) (candidateId : CandidateId)
    (attempt : ClientAttemptId) (metadata : EstablishedSessionMetadata) (now : Instant) :
    List ServerEffect → ServerHandshake → Prop
  | refused (reason) (unmatched : Unmatched m source candidateId attempt reason) :
    FinishStep m source candidateId attempt metadata now [.dropped source reason] m
  | repeated (session) (state : m.state = .established session) (peer : source = session.peerEndpoint)
      (sameId : candidateId = session.completedCandidateId) (same : attempt = session.clientAttemptId) :
    FinishStep m source candidateId attempt metadata now
      [.sendServerFinish source candidateId attempt session.metadata.sessionId] m
  | completed (owned : Owned m source (bindingOf candidateId source attempt)) :
    FinishStep m source candidateId attempt metadata now
      [.sendServerFinish source candidateId attempt metadata.sessionId,
        .sessionEstablished source metadata.sessionId]
      (ServerHandshake.establish source candidateId attempt metadata now
        (without m (bindingOf candidateId source attempt)))

theorem establishRegistered {h : ServerHandshake} (reg : Registered h) (listening : h.state = .listening)
    (source candidateId attempt metadata now) :
    Registered (ServerHandshake.establish source candidateId attempt metadata now h) := by
  constructor <;> simp [ServerHandshake.establish, SessionManager.shutdown, notClosed reg listening]

theorem finishSpec {h : ServerHandshake} (reg : Registered h) (source candidateId attempt metadata now) :
    Action.wp (ServerHandshake.handleAuthenticatedClientFinish source candidateId attempt metadata now)
      (fun r t => ∃ m, Expires h now r.expired m ∧ Registered m ∧
        FinishStep m source candidateId attempt metadata now r.effects t ∧ Registered t)
      (fun _ _ => False) h := by
  simp only [ServerHandshake.handleAuthenticatedClientFinish, Action.wpBind, Action.wpRead]
  refine Action.wpMono (expireSpec reg now) ?_ (fun _ _ => id)
  intro expired m spec
  obtain ⟨ex, registered⟩ := spec
  cases state : m.state with
  | closed => exact ⟨m, ex, registered, .refused _ (.unavailable state), registered⟩
  | established session =>
    simp only [Action.wpIte, Action.wpPure]
    constructor
    · intro spec
      obtain ⟨peer, sameId, same⟩ := spec
      exact ⟨m, ex, registered, .repeated session state peer sameId same, registered⟩
    · intro _
      exact ⟨m, ex, registered, .refused _ (.active session state), registered⟩
  | listening =>
    simp only [ServerHandshake.current, Action.wpBind, Action.wpRead, Action.wpOfExcept]
    rcases currentCases registered source with ⟨free, current⟩ | ⟨b, owned, current⟩
    · simp only [current, Action.wpPure]
      exact ⟨m, ex, registered, .refused _ (.absent state free), registered⟩
    simp only [current, Action.wpIte, Action.wpPure]
    refine ⟨fun other => ⟨m, ex, registered, .refused _ (.candidate b owned other), registered⟩, ?_⟩
    intro sameId
    refine ⟨fun other => ⟨m, ex, registered, .refused _ (.attempt b owned other), registered⟩, ?_⟩
    intro same
    have binding := ownedIs owned (by simpa using sameId) (by simpa using same)
    subst binding
    simp only [Action.wpBind]
    refine removeExactSpec registered state owned.entry ?_
    exact ⟨m, ex, registered, .completed owned,
      establishRegistered (withoutRegistered registered state owned.entry) state _ _ _ _ _⟩

inductive FailureStep (m : ServerHandshake) (source : SocketAddr) (candidateId : CandidateId)
    (attempt : ClientAttemptId) : List ServerEffect → ServerHandshake → Prop
  | refused (reason) (unmatched : Unmatched m source candidateId attempt reason) :
    FailureStep m source candidateId attempt [.dropped source reason] m
  | removed (owned : Owned m source (bindingOf candidateId source attempt)) :
    FailureStep m source candidateId attempt [.dropped source .authenticationFailed]
      (without m (bindingOf candidateId source attempt))

theorem failureSpec {h : ServerHandshake} (reg : Registered h) (source candidateId attempt now) :
    Action.wp (ServerHandshake.handleAuthenticationFailure source candidateId attempt now)
      (fun r t => ∃ m, Expires h now r.expired m ∧ Registered m ∧
        FailureStep m source candidateId attempt r.effects t ∧ Registered t)
      (fun _ _ => False) h := by
  simp only [ServerHandshake.handleAuthenticationFailure, Action.wpBind, Action.wpRead]
  refine Action.wpMono (expireSpec reg now) ?_ (fun _ _ => id)
  intro expired m spec
  obtain ⟨ex, registered⟩ := spec
  cases state : m.state with
  | closed => exact ⟨m, ex, registered, .refused _ (.unavailable state), registered⟩
  | established session => exact ⟨m, ex, registered, .refused _ (.active session state), registered⟩
  | listening =>
    simp only [ServerHandshake.current, Action.wpBind, Action.wpRead, Action.wpOfExcept]
    rcases currentCases registered source with ⟨free, current⟩ | ⟨b, owned, current⟩
    · simp only [current, Action.wpPure]
      exact ⟨m, ex, registered, .refused _ (.absent state free), registered⟩
    simp only [current, Action.wpIte, Action.wpPure]
    refine ⟨fun other => ⟨m, ex, registered, .refused _ (.candidate b owned other), registered⟩, ?_⟩
    intro sameId
    refine ⟨fun other => ⟨m, ex, registered, .refused _ (.attempt b owned other), registered⟩, ?_⟩
    intro same
    have binding := ownedIs owned (by simpa using sameId) (by simpa using same)
    subst binding
    have after := withoutRegistered registered state owned.entry
    simp only [Action.wpBind]
    exact removeExactSpec registered state owned.entry
      (verifySpec after ⟨m, ex, registered, .removed owned, after⟩)

theorem unexpectedSpec {h : ServerHandshake} (reg : Registered h) (source observed now) :
    Action.wp (ServerHandshake.handleUnexpectedMessage source observed now)
      (fun r t => Expires h now r.expired t ∧ Registered t ∧ ∃ reason, r.effects = [.dropped source reason])
      (fun _ _ => False) h := by
  simp only [ServerHandshake.handleUnexpectedMessage, Action.wpBind, Action.wpRead]
  refine Action.wpMono (expireSpec reg now) ?_ (fun _ _ => id)
  intro expired m spec
  obtain ⟨ex, registered⟩ := spec
  cases state : m.state with
  | closed => exact ⟨ex, registered, _, rfl⟩
  | established session =>
    simp only [Action.wpIte, Action.wpPure]
    exact ⟨fun _ => ⟨ex, registered, _, rfl⟩, fun _ => ⟨ex, registered, _, rfl⟩⟩
  | listening =>
    simp only [Action.wpIte, Action.wpPure, ServerHandshake.current, Action.wpBind, Action.wpRead,
      Action.wpOfExcept]
    refine ⟨fun _ => ⟨ex, registered, _, rfl⟩, fun _ => ?_⟩
    rcases currentCases registered source with ⟨_, current⟩ | ⟨b, _, current⟩ <;>
      simp only [current] <;> exact ⟨ex, registered, _, rfl⟩

inductive AbortRefused (h : ServerHandshake) (source : SocketAddr) (candidateId : CandidateId)
    (attempt : ClientAttemptId) : ServerStateError → Prop
  | missing (free : h.pending.pendingBySource.get source = none) :
    AbortRefused h source candidateId attempt (.candidateAbortMissing source candidateId attempt)
  | candidate (b) (owned : Owned h source b) (other : b.candidateId ≠ candidateId) :
    AbortRefused h source candidateId attempt
      (.candidateAbortCandidateMismatch source b.candidateId candidateId)
  | attempt (b) (owned : Owned h source b) (other : b.clientAttemptId ≠ attempt) :
    AbortRefused h source candidateId attempt
      (.candidateAbortAttemptMismatch source candidateId b.clientAttemptId attempt)

theorem abortSpec {h : ServerHandshake} (reg : Registered h) (source candidateId attempt) :
    Action.wp (ServerHandshake.abortExactCandidate source candidateId attempt)
      (fun _ t => Owned h source (bindingOf candidateId source attempt) ∧
        t = without h (bindingOf candidateId source attempt) ∧ Registered t)
      (fun e t => AbortRefused h source candidateId attempt e ∧ t = h) h := by
  simp only [ServerHandshake.abortExactCandidate, ServerHandshake.current, Action.wpBind,
    Action.wpRead, Action.wpOfExcept]
  rcases currentCases reg source with ⟨free, current⟩ | ⟨b, owned, current⟩
  · simp only [current, Action.wpFail]
    exact ⟨.missing free, trivial⟩
  simp only [current, Action.wpIte, Action.wpFail]
  refine ⟨fun other => ⟨.candidate b owned other, trivial⟩, fun sameId => ?_⟩
  refine ⟨fun other => ⟨.attempt b owned other, trivial⟩, fun same => ?_⟩
  have binding := ownedIs owned (by simpa using sameId) (by simpa using same)
  subst binding
  have after := withoutRegistered reg owned.listening owned.entry
  simp only [Action.wpBind]
  exact removeExactSpec reg owned.listening owned.entry (verifySpec after ⟨owned, rfl, after⟩)

theorem shutdownRegistered {h : ServerHandshake} (reg : Registered h) : Registered h.shutdown.2 := by
  unfold ServerHandshake.shutdown
  split
  · exact reg
  · rename_i open_
    have empty : h.pending.shutdown.2.pendingBySource.len = 0 := by
      unfold SessionManager.shutdown
      split
      · rename_i closed
        exact (reg.emptyOutside fun listening => notClosed reg listening closed).1
      · rfl
    have absent := (HashMap.lenEqZeroIff _).mp empty
    constructor <;> simp [absent, empty]

end Crabnet.ServerOutcomes
