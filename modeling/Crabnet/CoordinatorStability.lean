import Crabnet.ServerCoordinator
import Crabnet.ClientCoordinator
import Crabnet.NoiseServer
import Crabnet.NoiseClient

/-! What holds of both coordinators whatever the provider answers: the two layers
are in step after every call, an error closes both, and a closed coordinator says
nothing more. The provider's values and errors are arbitrary. -/
namespace Crabnet.CoordinatorStability
open SessionTypes Fallible CryptoBoundary ServerPolicy ClientPolicy HandshakeTypes PendingManager HashTable

section Policy
variable {h : ServerHandshake}

theorem reconcileState (items : List ExpiredCandidate) :
    Action.wp (ServerHandshake.reconcile items) (fun _ t => t.state = h.state) (fun _ _ => True) h := by
  induction items generalizing h with
  | nil => rfl
  | cons item rest ih =>
    simp only [ServerHandshake.reconcile, Action.wpBind, Action.wpRead]
    cases h.candidateById.get item.candidateId with
    | none => trivial
    | some binding =>
      simp only [Action.wpBind, Action.wpModify, Action.wpIte, Action.wpFail]
      refine ⟨fun _ => trivial, fun _ => ?_⟩
      exact Action.wpMono (@ih {h with candidateById := h.candidateById.remove item.candidateId})
        (fun _ _ same => same) (fun _ _ _ => trivial)

theorem verifyState {Q : Unit → ServerHandshake → Prop} (post : Q () h) :
    Action.wp ServerHandshake.verify Q (fun _ _ => True) h := by
  simp only [ServerHandshake.verify, Action.wpBind, Action.wpRead, Action.wpOfExcept]
  cases h.verifyCandidateMaps with
  | ok _ => exact post
  | error _ => trivial

theorem expireState (now : Instant) :
    Action.wp (ServerHandshake.expireAndReconcile now) (fun _ t => t.state = h.state) (fun _ _ => True) h := by
  simp only [ServerHandshake.expireAndReconcile, Action.wpBind, Action.wpRead]
  cases state : h.state with
  | listening =>
    simp only [ServerHandshake.expireListening, Action.wpBind, Action.wpTotal]
    refine Action.wpMono (@reconcileState {h with pending := (h.pending.expirePending now).2} _) ?_ (fun _ _ _ => trivial)
    intro expired t same
    exact verifyState (same.trans state)
  | established session =>
    simp only [Action.wpIte, Action.wpPure, Action.wpFail]
    exact ⟨fun _ => state, fun _ => trivial⟩
  | closed =>
    simp only [Action.wpIte, Action.wpPure, Action.wpFail]
    exact ⟨fun _ => state, fun _ => trivial⟩

theorem currentState {source : SocketAddr} {Q : Option ServerCandidate → ServerHandshake → Prop}
    (post : ∀ found, Q found h) : Action.wp (ServerHandshake.current source) Q (fun _ _ => True) h := by
  simp only [ServerHandshake.current, Action.wpBind, Action.wpRead, Action.wpOfExcept]
  cases h.currentCandidate source with
  | ok found => exact post found
  | error _ => trivial

theorem removeState {b : ServerCandidate} {Q : Unit → ServerHandshake → Prop}
    (post : ∀ t, t.state = h.state → Q () t) :
    Action.wp (ServerHandshake.removeExactCandidate b) Q (fun _ _ => True) h := by
  simp only [ServerHandshake.removeExactCandidate, Action.wpBind, Action.wpTotal]
  cases (h.pending.removeCandidate b.source b.candidateId).1 with
  | notFound => trivial
  | candidateMismatch _ _ => trivial
  | closed => trivial
  | removed =>
    simp only [Action.wpBind, Action.wpRead]
    cases h.candidateById.get b.candidateId with
    | none => trivial
    | some removed =>
      simp only [Action.wpBind, Action.wpModify, Action.wpIte, Action.wpFail, Action.wpPure]
      exact ⟨fun _ => trivial, fun _ => post _ rfl⟩

theorem admissionState {source attempt expired} (outcome : AdmissionOutcome) :
    Action.wp (ServerHandshake.applyAdmission source attempt expired outcome)
      (fun _ t => t.state = h.state) (fun _ _ => True) h := by
  cases outcome with
  | added candidateId deadline =>
    simp only [ServerHandshake.applyAdmission, Action.wpBind, Action.wpModify, Action.wpPure]
    exact verifyState rfl
  | alreadyPending candidateId deadline =>
    simp only [ServerHandshake.applyAdmission, Action.wpBind]
    refine currentState fun found => ?_
    cases found with
    | none => rfl
    | some binding =>
      simp only [Action.wpIte, Action.wpPure]
      exact ⟨fun _ => trivial, fun _ => trivial⟩
  | atCapacity maximum => rfl
  | closed => trivial

theorem helloState (source attempt now) :
    Action.wp (ServerHandshake.handleValidClientHello source attempt now)
      (fun r t => t.state = h.state ∧ (h.state = .closed → ∃ reason, r.effects = [.dropped source reason]))
      (fun _ _ => True) h := by
  simp only [ServerHandshake.handleValidClientHello, Action.wpBind, Action.wpRead]
  refine Action.wpMono (expireState now) ?_ (fun _ _ _ => trivial)
  intro expired m same
  cases state : m.state with
  | closed => exact ⟨same, fun _ => ⟨_, rfl⟩⟩
  | established session => exact ⟨same, fun _ => ⟨_, rfl⟩⟩
  | listening =>
    simp only [Action.wpBind, Action.wpMapError, Action.wpWithin]
    unfold Action.wp
    split
    · rename_i admission pending ran
      refine Action.wpMono (@admissionState {m with pending := pending} source attempt expired admission.outcome)
        ?_ (fun _ _ _ => trivial)
      intro r t kept
      refine ⟨kept.trans same, fun closed => ?_⟩
      rw [← same, state] at closed
      contradiction
    · trivial

theorem timeoutsState (now) :
    Action.wp (ServerHandshake.checkTimeouts now) (fun _ t => t.state = h.state) (fun _ _ => True) h := by
  simp only [ServerHandshake.checkTimeouts, Action.wpBind, Action.wpPure]
  exact expireState now

theorem precheckState (source attempt now) :
    Action.wp (ServerHandshake.precheckClientFinish source attempt now)
      (fun r t => t.state = h.state ∧ (h.state = .closed → ∃ reason, r.decision = .drop reason))
      (fun _ _ => True) h := by
  simp only [ServerHandshake.precheckClientFinish, Action.wpBind, Action.wpRead]
  refine Action.wpMono (timeoutsState now) ?_ (fun _ _ _ => trivial)
  intro report m same
  have open_ : ∀ {P : Prop}, m.state ≠ .closed → h.state = .closed → P :=
    fun away closed => absurd (same.trans closed) away
  cases state : m.state with
  | closed => exact ⟨same, fun _ => ⟨_, rfl⟩⟩
  | established session =>
    simp only [Action.wpIte, Action.wpPure]
    exact ⟨fun _ => ⟨same, open_ (by simp [state])⟩, fun _ => ⟨same, fun _ => ⟨_, rfl⟩⟩⟩
  | listening =>
    simp only [Action.wpBind]
    refine currentState fun found => ?_
    cases found with
    | none => exact ⟨same, fun _ => ⟨_, rfl⟩⟩
    | some candidate =>
      simp only [Action.wpIte, Action.wpPure]
      exact ⟨fun _ => ⟨same, fun _ => ⟨_, rfl⟩⟩, fun _ => ⟨same, open_ (by simp [state])⟩⟩

theorem finishState (source candidateId attempt metadata now) :
    Action.wp (ServerHandshake.handleAuthenticatedClientFinish source candidateId attempt metadata now)
      (fun _ t => t.state = .closed ↔ h.state = .closed) (fun _ _ => True) h := by
  simp only [ServerHandshake.handleAuthenticatedClientFinish, Action.wpBind, Action.wpRead]
  refine Action.wpMono (expireState now) ?_ (fun _ _ _ => trivial)
  intro expired m same
  have kept : m.state = .closed ↔ h.state = .closed := by rw [same]
  cases state : m.state with
  | closed => exact kept
  | established session =>
    simp only [Action.wpIte, Action.wpPure]
    exact ⟨fun _ => kept, fun _ => kept⟩
  | listening =>
    simp only [Action.wpBind]
    refine currentState fun found => ?_
    cases found with
    | none => exact kept
    | some binding =>
      simp only [Action.wpIte, Action.wpPure, Action.wpBind]
      refine ⟨fun _ => kept, fun _ => ⟨fun _ => kept, fun _ => ?_⟩⟩
      refine removeState fun t _ => ?_
      simp only [Action.wpModify, ServerHandshake.establish]
      have open_ : h.state ≠ .closed := by
        rw [← same, state]
        intro impossible
        contradiction
      exact ⟨fun impossible => by contradiction, fun closed => absurd closed open_⟩

theorem abortState (source candidateId attempt) :
    Action.wp (ServerHandshake.abortExactCandidate source candidateId attempt)
      (fun _ t => t.state = h.state) (fun _ _ => True) h := by
  simp only [ServerHandshake.abortExactCandidate, Action.wpBind]
  refine currentState fun found => ?_
  cases found with
  | none => trivial
  | some candidate =>
    simp only [Action.wpIte, Action.wpFail, Action.wpBind]
    refine ⟨fun _ => trivial, fun _ => ⟨fun _ => trivial, fun _ => ?_⟩⟩
    exact removeState fun t same => verifyState same

end Policy

/-! The server coordinator. Where an error ends the step, both layers are shut
down whatever they had become, so nothing is asked of the state it leaves. -/

section Server
open ServerCoordinator ServerHandshakeCrypto
variable {C : Type} {c : ServerHandshakeCoordinator C} {α : Type} {Q : α → ServerHandshakeCoordinator C → Prop}

theorem serverPolicy {x : ServerHandshake.Step α} {P : α → ServerHandshake → Prop}
    (spec : Action.wp x P (fun _ _ => True) c.policy) (post : ∀ a policy, P a policy → Q a {c with policy := policy}) :
    Action.wp (onPolicy x) Q (fun _ _ => True) c := by
  simp only [onPolicy, Action.wpMapError, Action.wpWithin]
  exact Action.wpMono spec (fun a policy => post a policy) (fun _ _ _ => trivial)

variable [ServerHandshakeCrypto C]

theorem serverVerify {Q : Unit → ServerHandshakeCoordinator C → Prop}
    (post : verifyServerStable c.policy c.crypto = .ok () → Q () c) :
    Action.wp verifyStable Q (fun _ _ => True) c := by
  unfold Action.wp verifyStable
  cases verified : verifyServerStable c.policy c.crypto with
  | ok _ => exact post verified
  | error _ => trivial

theorem serverRemoval {candidateId attempt expected} {Q : Unit → ServerHandshakeCoordinator C → Prop}
    (post : ∀ crypto, Q () {c with crypto := crypto}) :
    Action.wp (expectRemoval candidateId attempt expected) Q (fun _ _ => True) c := by
  simp only [expectRemoval, Action.wpBind]
  refine callRule (fun removal crypto _ => ?_) (fun _ _ => trivial)
  simp only [Action.wpIte, violated, Action.wpFail, Action.wpPure]
  exact ⟨fun _ => trivial, fun _ => post crypto⟩

def reportsSession : ServerCoordinatorEvent → Bool
  | .sessionEstablished .. => true
  | _ => false

def serverSilent (r : Report C) : Prop := r.outbound = [] ∧ ∀ e ∈ r.events, reportsSession e = false

theorem serverReconcile {Q : List ServerCoordinatorEvent → ServerHandshakeCoordinator C → Prop}
    (expired : List ExpiredServerCandidate)
    (post : ∀ events crypto, (∀ e ∈ events, reportsSession e = false) → Q events {c with crypto := crypto}) :
    Action.wp (reconcileExpired expired) Q (fun _ _ => True) c := by
  induction expired generalizing c Q with
  | nil => exact post [] c.crypto (fun _ impossible => absurd impossible List.not_mem_nil)
  | cons candidate rest ih =>
    simp only [reconcileExpired, Action.wpBind, Action.wpPure]
    refine serverRemoval fun crypto => ?_
    refine ih fun events later quiet => post _ later ?_
    intro e member
    rcases List.mem_cons.mp member with rfl | other
    · rfl
    · exact quiet e other

structure Settled (c t : ServerHandshakeCoordinator C) (r : Report C) : Prop where
  verified : verifyServerStable t.policy t.crypto = .ok ()
  lifecycle : t.lifecycle = c.lifecycle
  closed : t.policy.state = .closed ↔ c.policy.state = .closed
  silent : c.policy.state = .closed → serverSilent r

theorem dropSilent {events source reason} (quiet : ∀ e ∈ events, reportsSession e = false) :
    serverSilent (dropEvent events source reason : Report C) := by
  refine ⟨rfl, ?_⟩
  intro e member
  rcases List.mem_append.mp member with other | last
  · exact quiet e other
  · cases List.mem_singleton.mp last
    rfl

theorem abortSettled {c t : ServerHandshakeCoordinator C} {events source candidateId attempt expected}
    (lifecycle : t.lifecycle = c.lifecycle) (closed : t.policy.state = .closed ↔ c.policy.state = .closed)
    (quiet : ∀ e ∈ events, reportsSession e = false) :
    Action.wp (abortCandidate events source candidateId attempt expected)
      (fun r u => Settled c u r) (fun _ _ => True) t := by
  simp only [abortCandidate, Action.wpBind, Action.wpPure]
  refine serverPolicy (abortState source candidateId attempt) fun _ policy same => ?_
  refine serverRemoval fun crypto => ?_
  refine serverVerify fun verified => ?_
  refine ⟨verified, lifecycle, ?_, fun _ => dropSilent quiet⟩
  change policy.state = .closed ↔ _
  rw [same]
  exact closed

theorem answerHelloSettled {c t : ServerHandshakeCoordinator C} {events source destination candidateId attempt}
    {admission payload} (lifecycle : t.lifecycle = c.lifecycle)
    (closed : t.policy.state = .closed ↔ c.policy.state = .closed) (open_ : c.policy.state ≠ .closed)
    (quiet : ∀ e ∈ events, reportsSession e = false) :
    Action.wp (answerHello events source destination candidateId attempt admission payload)
      (fun r u => Settled c u r) (fun _ _ => True) t := by
  simp only [answerHello, Action.wpBind]
  refine callRule (fun outcome crypto _ => ?_) (fun _ _ => trivial)
  cases outcome with
  | success prepared =>
    simp only [Action.wpIte, violated, Action.wpFail, Action.wpBind, Action.wpPure]
    refine ⟨fun _ => trivial, fun _ => serverVerify fun verified => ?_⟩
    exact ⟨verified, lifecycle, closed, fun impossible => absurd impossible open_⟩
  | remoteFailure failure =>
    cases failure with
    | clientAttempt _ _ => trivial
    | serverCandidate observed attempt' reason =>
      simp only [Action.wpIte, violated, Action.wpFail]
      exact ⟨fun _ => trivial, fun _ => abortSettled lifecycle closed quiet⟩

theorem helloSettled (source message now) :
    Action.wp (hello source message now) (fun r t => Settled c t r) (fun _ _ => True) c := by
  simp only [hello, Action.wpBind]
  refine serverPolicy (helloState source message.clientAttemptId now) fun result policy spec => ?_
  obtain ⟨same, dropped⟩ := spec
  refine serverReconcile result.expired fun events crypto quiet => ?_
  have closed : policy.state = .closed ↔ c.policy.state = .closed := by rw [same]
  split
  · rename_i effectSource reason
    simp only [Action.wpIte, violated, Action.wpFail, Action.wpBind, Action.wpPure]
    refine ⟨fun _ => trivial, fun _ => serverVerify fun verified => ?_⟩
    exact ⟨verified, rfl, closed, fun _ => dropSilent quiet⟩
  · rename_i destination candidateId attempt admission effects
    simp only [Action.wpIte, violated, Action.wpFail]
    refine ⟨fun _ => trivial, fun _ => answerHelloSettled rfl closed ?_ quiet⟩
    intro shut
    obtain ⟨reason, only⟩ := dropped shut
    rw [effects] at only
    cases only
  · trivial

theorem prepareFinishAny {candidateId attempt sessionId}
    {Q : PreparedServerFinish (ServerFinishPayload C) → ServerHandshakeCoordinator C → Prop}
    (post : ∀ prepared, Q prepared c) :
    Action.wp (prepareFinish candidateId attempt sessionId) Q (fun _ _ => True) c := by
  simp only [prepareFinish, Action.wpBind]
  refine askRule (fun prepared _ => ?_) (fun _ => trivial)
  simp only [Action.wpIte, violated, Action.wpFail, Action.wpPure]
  exact ⟨fun _ => trivial, fun _ => post prepared⟩

theorem answerFinishSettled {c t : ServerHandshakeCoordinator C} {events source candidateId attempt mode payload now}
    (lifecycle : t.lifecycle = c.lifecycle) (closed : t.policy.state = .closed ↔ c.policy.state = .closed)
    (open_ : c.policy.state ≠ .closed) (quiet : ∀ e ∈ events, reportsSession e = false) :
    Action.wp (answerFinish events source candidateId attempt mode payload now)
      (fun r u => Settled c u r) (fun _ _ => True) t := by
  simp only [answerFinish, Action.wpBind]
  refine callRule (fun outcome crypto _ => ?_) (fun _ _ => trivial)
  cases outcome with
  | remoteFailure failure =>
    cases failure with
    | clientAttempt _ _ => trivial
    | serverCandidate observed attempt' reason =>
      simp only [Action.wpIte, violated, Action.wpFail]
      refine ⟨fun _ => trivial, fun _ => ?_⟩
      cases mode with
      | pendingCandidate => exact abortSettled lifecycle closed quiet
      | establishedDuplicate expected =>
        simp only [Action.wpBind, Action.wpPure]
        refine serverVerify fun verified => ?_
        exact ⟨verified, lifecycle, closed, fun _ => dropSilent quiet⟩
  | success authenticated =>
    simp only [Action.wpIte, violated, Action.wpFail]
    refine ⟨fun _ => trivial, fun _ => ?_⟩
    cases mode with
    | establishedDuplicate expected =>
      simp only [repeatFinish, Action.wpIte, violated, Action.wpFail, Action.wpBind, Action.wpPure]
      refine ⟨fun _ => trivial, fun _ => prepareFinishAny fun prepared => serverVerify fun verified => ?_⟩
      exact ⟨verified, lifecycle, closed, fun impossible => absurd impossible open_⟩
    | pendingCandidate =>
      simp only [completeFinish, Action.wpIte, violated, Action.wpFail, Action.wpBind, Action.wpPure]
      refine serverPolicy (finishState source candidateId attempt authenticated.metadata now)
        fun report policy same => ?_
      refine ⟨fun _ => trivial, fun _ => ⟨fun _ => trivial, fun _ => ?_⟩⟩
      refine callRule (fun _ committed _ => ?_) (fun _ _ => trivial)
      refine prepareFinishAny fun prepared => serverVerify fun verified => ?_
      exact ⟨verified, lifecycle, same.trans closed, fun impossible => absurd impossible open_⟩

theorem finishSettled (source message now) :
    Action.wp (finish source message now) (fun r t => Settled c t r) (fun _ _ => True) c := by
  simp only [finish, Action.wpBind]
  refine serverPolicy (precheckState source message.clientAttemptId now) fun precheck policy spec => ?_
  obtain ⟨same, dropped⟩ := spec
  refine serverReconcile precheck.expired fun events crypto quiet => ?_
  have closed : policy.state = .closed ↔ c.policy.state = .closed := by rw [same]
  have open_ (permitted : ∀ reason, precheck.decision ≠ .drop reason) : c.policy.state ≠ .closed := by
    intro shut
    obtain ⟨reason, only⟩ := dropped shut
    exact permitted reason only
  cases decision : precheck.decision with
  | drop reason =>
    simp only [Action.wpBind, Action.wpPure]
    refine serverVerify fun verified => ?_
    exact ⟨verified, rfl, closed, fun _ => dropSilent quiet⟩
  | permitNew candidateId attempt => exact answerFinishSettled rfl closed (open_ (by simp [decision])) quiet
  | permitDuplicate candidateId attempt metadata => exact answerFinishSettled rfl closed (open_ (by simp [decision])) quiet

theorem timeoutsSettled (now) :
    Action.wp (timeouts now) (fun r t => Settled c t r) (fun _ _ => True) c := by
  simp only [timeouts, Action.wpBind]
  refine serverPolicy (timeoutsState now) fun report policy same => ?_
  simp only [Action.wpIte, violated, Action.wpFail, Action.wpBind, Action.wpPure]
  refine ⟨fun _ => trivial, fun _ => ?_⟩
  refine serverReconcile report.expired fun events crypto quiet => serverVerify fun verified => ?_
  refine ⟨verified, rfl, ?_, fun _ => ⟨rfl, quiet⟩⟩
  change policy.state = .closed ↔ _
  rw [same]

inductive ServerCall (C : Type) [ServerHandshakeCrypto C] where
  | clientHello (source : SocketAddr) (message : ClientHello (ClientHelloPayload C)) (now : Instant)
  | clientFinish (source : SocketAddr) (message : ClientFinish (ClientFinishPayload C)) (now : Instant)
  | checkTimeouts (now : Instant)
  | shutdown

def serverStep (c : ServerHandshakeCoordinator C) : ServerCall C → Result C × ServerHandshakeCoordinator C
  | .clientHello source message now => receiveClientHello source message now c
  | .clientFinish source message now => receiveClientFinish source message now c
  | .checkTimeouts now => ServerCoordinator.checkTimeouts now c
  | .shutdown => shutdownAll c

def serverPairs : List (ServerStateName × ServerCryptoPhase) :=
  [(.listening, .running), (.established, .established), (.closed, .closed)]

structure ServerStable (c : ServerHandshakeCoordinator C) : Prop where
  pair : (c.policy.stateName, phase c.crypto) ∈ serverPairs
  lifecycle : c.lifecycle = .closed ↔ c.policy.state = .closed

structure ServerAnswer (c t : ServerHandshakeCoordinator C) (result : Result C) : Prop where
  stable : ServerStable t
  failed : ∀ e, result = .error e → t.policy.state = .closed ∧ phase t.crypto = .closed ∧ t.lifecycle = .closed
  closed : c.policy.state = .closed → t.policy.state = .closed ∧ ∀ r, result = .ok r → serverSilent r

theorem shutStable {c t : ServerHandshakeCoordinator C} (policy : t.policy.state = .closed)
    (crypto : phase t.crypto = .closed) (lifecycle : t.lifecycle = .closed) {result : Result C}
    (quiet : ∀ r, result = .ok r → serverSilent r) : ServerAnswer c t result := by
  refine ⟨⟨?_, by simp [policy, lifecycle]⟩, fun _ _ => ⟨policy, crypto, lifecycle⟩, fun _ => ⟨policy, quiet⟩⟩
  simp [serverPairs, ServerHandshake.stateName, policy, crypto]

variable [LawfulServerCrypto C]

theorem verifiedPair {policy : ServerHandshake} {crypto : C} (verified : verifyServerStable policy crypto = .ok ()) :
    (policy.stateName, phase crypto) ∈ serverPairs := by
  unfold verifyServerStable at verified
  simp only at verified
  split at verified <;> try contradiction
  rename_i same
  rw [not_not, LawfulServerCrypto.statusPhase] at same
  rw [same]
  cases policy.stateName <;> decide

theorem serverShut (c : ServerHandshakeCoordinator C) : c.policy.shutdown.2.state = .closed ∧
    phase (shutdown c.crypto).2 = .closed := by
  constructor
  · unfold ServerHandshake.shutdown
    split <;> simp [*]
  · exact LawfulServerCrypto.shutdownPhase c.crypto

theorem closingAnswer {x : Step C (Report C)} {c : ServerHandshakeCoordinator C} (stable : ServerStable c)
    (settled : Action.wp x (fun r t => Settled c t r) (fun _ _ => True) c) :
    ServerAnswer c (closing x c).2 (closing x c).1 := by
  unfold closing
  rcases ran : x c with ⟨primary | report, t⟩
  · obtain ⟨policy, crypto⟩ := serverShut t
    exact shutStable policy crypto rfl (fun r impossible => by cases impossible)
  · have done := Action.wpOk settled ran
    refine ⟨⟨verifiedPair done.verified, ?_⟩, (fun e impossible => by cases impossible), ?_⟩
    · change t.lifecycle = .closed ↔ t.policy.state = .closed
      rw [done.lifecycle, done.closed]
      exact stable.lifecycle
    · intro shut
      refine ⟨done.closed.mpr shut, ?_⟩
      intro r same
      cases same
      exact done.silent shut

theorem serverClosedQuiet {cleanup effects event} (found : closedEvent cleanup effects = some event) :
    reportsSession event = false := by
  unfold closedEvent at found
  split at found <;> try contradiction
  · cases found
    rfl
  · split at found <;> cases found <;> rfl

theorem serverStepAnswer {c : ServerHandshakeCoordinator C} (stable : ServerStable c) (call : ServerCall C) :
    ServerAnswer c (serverStep c call).2 (serverStep c call).1 := by
  cases call with
  | clientHello source message now => exact closingAnswer stable (helloSettled source message now)
  | clientFinish source message now => exact closingAnswer stable (finishSettled source message now)
  | checkTimeouts now => exact closingAnswer stable (timeoutsSettled now)
  | shutdown =>
    obtain ⟨policy, crypto⟩ := serverShut c
    unfold serverStep shutdownAll
    simp only
    split
    · exact shutStable policy crypto rfl (fun r impossible => by cases impossible)
    · split
      · exact shutStable policy crypto rfl (fun r impossible => by cases impossible)
      · split
        · rename_i event found
          refine shutStable policy crypto rfl ?_
          intro r same
          cases same
          refine ⟨rfl, ?_⟩
          intro e member
          cases List.mem_singleton.mp member
          exact serverClosedQuiet found
        · exact shutStable policy crypto rfl (fun r impossible => by cases impossible)

theorem serverBuilt {policy : ServerHandshake} {crypto : C} {c} (built : build policy crypto = .ok c) :
    ServerStable c := by
  unfold build at built
  split at built <;> try contradiction
  rename_i listening
  split at built <;> try contradiction
  rename_i fresh
  cases Except.ok.inj built
  rw [not_not] at listening
  have running : phase crypto = .running := by
    simp only [ServerCryptoStatus.isFresh, Bool.not_eq_false, Bool.and_eq_true, beq_iff_eq] at fresh
    rw [← LawfulServerCrypto.statusPhase]
    exact fresh.1.1.1
  have open_ : policy.state ≠ .closed := by
    intro closed
    simp [ServerHandshake.stateName, closed] at listening
  refine ⟨by simp [serverPairs, listening, running], ?_⟩
  simp [open_]

def ServerDiscipline (c : ServerHandshakeCoordinator C) : Prop :=
  ∀ calls : List (ServerCall C),
    let past := run serverStep c calls
    (past.2.policy.stateName, phase past.2.crypto) ∈ serverPairs ∧
    (past.2.lifecycle = .closed ↔ past.2.policy.state = .closed) ∧
    (∀ call e, (serverStep past.2 call).1 = .error e →
      (serverStep past.2 call).2.policy.state = .closed ∧ phase (serverStep past.2 call).2.crypto = .closed) ∧
    (past.2.policy.state = .closed →
      ∀ more, ∀ r, Except.ok r ∈ (run serverStep past.2 more).1 → serverSilent r)

theorem serverDisciplined {c : ServerHandshakeCoordinator C} (stable : ServerStable c) : ServerDiscipline c := by
  intro calls past
  have now : ServerStable past.2 :=
    @runInvariant _ _ _ serverStep ServerStable (fun _ call ok => (serverStepAnswer ok call).stable) c stable calls
  refine ⟨now.pair, now.lifecycle, ?_, ?_⟩
  · intro call e failed
    obtain ⟨policy, crypto, _⟩ := (serverStepAnswer now call).failed e failed
    exact ⟨policy, crypto⟩
  · intro shut more r member
    have quiet := @runOutputs _ _ _ (serverStep (C := C))
      (fun c => ServerStable c ∧ c.policy.state = .closed)
      (fun result => ∀ r, result = .ok r → serverSilent r)
      (fun c call ok => ⟨(serverStepAnswer ok.1 call).stable, ((serverStepAnswer ok.1 call).closed ok.2).1⟩)
      (fun c call ok => ((serverStepAnswer ok.1 call).closed ok.2).2) past.2 ⟨now, shut⟩ more
    exact quiet _ member r rfl

end Server

section Client
open ClientCoordinator ClientHandshakeCrypto
variable {C : Type} {c : ClientHandshakeCoordinator C} {α : Type} {Q : α → ClientHandshakeCoordinator C → Prop}

theorem clientPolicy {x : ClientHandshake.Step α}
    (post : ∀ a policy, x c.policy = (.ok a, policy) → Q a {c with policy := policy}) :
    Action.wp (onPolicy x) Q (fun _ _ => True) c := by
  simp only [onPolicy, Action.wpMapError, Action.wpWithin]
  unfold Action.wp
  split
  · rename_i a policy ran
    exact post a policy ran
  · trivial

theorem clientAttempt {expected observed} {Q : Unit → ClientHandshakeCoordinator C → Prop}
    (post : observed = expected → Q () c) : Action.wp (expectAttempt expected observed) Q (fun _ _ => True) c := by
  simp only [expectAttempt, Action.wpIte, violated, Action.wpFail, Action.wpPure]
  exact ⟨fun _ => trivial, fun same => post (not_not.mp same)⟩

theorem startSpec {h : ClientHandshake} (now : Instant) :
    Action.wp (ClientHandshake.start now)
      (fun action t => h.state = .idle ∧ ∃ next deadline, action = .sendClientHello ⟨h.nextAttemptId⟩ ∧
        t = {h with nextAttemptId := next, state := .awaitingServerHello ⟨h.nextAttemptId⟩ now deadline})
      (fun _ _ => True) h := by
  simp only [ClientHandshake.start, Action.wpBind, Action.wpRead, Action.wpIte, Action.wpFail, Action.wpOfExcept]
  refine ⟨fun _ => trivial, fun idle => ?_⟩
  rw [not_not] at idle
  cases ClientHandshake.phaseDeadline now h.handshakeTimeout .serverHello with
  | error _ => trivial
  | ok deadline =>
    simp only [ClientHandshake.reserveAttemptId, Action.wpBind, Action.wpRead]
    cases MachineWord.checkedAdd h.nextAttemptId 1 with
    | none => trivial
    | some next =>
      simp only [Action.wpBind, Action.wpModify, Action.wpPure]
      exact ⟨idle, next, deadline, trivial, rfl⟩

theorem precheckCases (source attempt kind now) (h : ClientHandshake) :
    (∃ reason, h.precheck source attempt kind now = (.drop reason, h)) ∨
    (∃ current, h.state ≠ .closed ∧ h.precheck source attempt kind now = (.timeout current, {h with state := .closed})) ∨
    (∃ deadline expected, h.state.phase = some (attempt, deadline, expected) ∧ source = h.serverEndpoint ∧
      ¬ deadline ≤ now ∧ h.precheck source attempt kind now = (.permit attempt, h)) := by
  unfold ClientHandshake.precheck
  split
  · exact .inl ⟨_, rfl⟩
  · rename_i endpoint
    split
    · exact .inl ⟨_, rfl⟩
    · rename_i current deadline expected pending
      split
      · exact .inr (.inl ⟨current, phaseOpen pending, rfl⟩)
      · rename_i early
        split
        · exact .inl ⟨_, rfl⟩
        · split
          · exact .inl ⟨_, rfl⟩
          · rename_i same
            rw [not_not] at same endpoint
            subst same
            exact .inr (.inr ⟨deadline, expected, pending, endpoint, early, rfl⟩)

theorem failureCloses {h : ClientHandshake} {source attempt p} (pending : h.state.phase = some p)
    (dropped : (h.handleAuthenticationFailure source attempt).1 = .dropped .authenticationFailed) :
    (h.handleAuthenticationFailure source attempt).2.state = .closed := by
  unfold ClientHandshake.handleAuthenticationFailure at dropped ⊢
  split
  · rename_i other
    simp [other, ClientHandshake.unexpectedSource] at dropped
  · rename_i endpoint
    simp only [endpoint, if_false] at dropped
    rw [pending] at dropped ⊢
    simp only at dropped ⊢
    split at dropped
    · cases dropped
    · rename_i same
      simp [same]

theorem serverHelloSpec {h : ClientHandshake} (source attempt now) :
    Action.wp (ClientHandshake.handleAuthenticatedServerHello source attempt now)
      (fun action t => ∀ id, action = .sendClientFinish id → ∃ startedAt later,
        t = {h with state := .awaitingServerFinish id startedAt now later}) (fun _ _ => True) h := by
  simp only [ClientHandshake.handleAuthenticatedServerHello, Action.wpBind, Action.wpRead, Action.wpIte, Action.wpPure]
  refine ⟨(fun _ id impossible => by cases impossible), fun _ => ?_⟩
  split
  · rename_i current startedAt deadline state
    simp only [Action.wpIte, Action.wpPure, Action.wpBind, Action.wpModify, Action.wpOfExcept]
    refine ⟨(fun _ id impossible => by cases impossible), fun _ => ⟨(fun _ id impossible => by cases impossible), fun _ => ?_⟩⟩
    cases ClientHandshake.phaseDeadline now h.handshakeTimeout .serverFinish with
    | error _ => trivial
    | ok later =>
      intro id same
      cases same
      exact ⟨startedAt, later, rfl⟩
  · trivial

theorem serverFinishState {h : ClientHandshake} (source attempt metadata now) :
    Action.wp (ClientHandshake.handleAuthenticatedServerFinish source attempt metadata now)
      (fun action t => ∀ s, action = .sessionEstablished s → t.state = .established metadata now)
      (fun _ _ => True) h := by
  simp only [ClientHandshake.handleAuthenticatedServerFinish, Action.wpBind, Action.wpRead, Action.wpIte, Action.wpPure]
  refine ⟨(fun _ s impossible => by cases impossible), fun _ => ?_⟩
  split
  · simp only [Action.wpIte, Action.wpPure, Action.wpBind, Action.wpModify]
    refine ⟨(fun _ s impossible => by cases impossible), fun _ => ⟨(fun _ s impossible => by cases impossible), fun _ => ?_⟩⟩
    intro s _
    trivial
  · trivial

variable [ClientHandshakeCrypto C]

theorem clientVerify {Q : Unit → ClientHandshakeCoordinator C → Prop}
    (post : verifyClientPhases c.policy c.crypto = .ok () → Q () c) :
    Action.wp verifyPhases Q (fun _ _ => True) c := by
  unfold Action.wp verifyPhases
  cases verified : verifyClientPhases c.policy c.crypto with
  | ok _ => exact post verified
  | error _ => trivial

def clientReportsSession : ClientCoordinatorEvent → Bool
  | .sessionEstablished .. => true
  | _ => false

def clientSilent (r : Report C) : Prop := r.outbound = [] ∧ ∀ e ∈ r.events, clientReportsSession e = false

def clientPairs : List (ClientStateName × ClientCryptoPhase) :=
  [(.idle, .idle), (.awaitingServerHello, .awaitingServerHello), (.awaitingServerFinish, .awaitingServerFinish),
    (.established, .established), (.closed, .closed)]

structure ClientStable (c : ClientHandshakeCoordinator C) : Prop where
  pair : (c.policy.stateName, phase c.crypto) ∈ clientPairs
  lifecycle : c.lifecycle = .closed ↔ c.policy.state = .closed

structure ClientSettled (c t : ClientHandshakeCoordinator C) (r : Report C) : Prop where
  stable : ClientStable t
  closed : c.policy.state = .closed → t.policy.state = .closed ∧ clientSilent r

theorem verifiedClientPair {policy : ClientHandshake} {crypto : C}
    (verified : verifyClientPhases policy crypto = .ok ()) : (policy.stateName, phase crypto) ∈ clientPairs := by
  unfold verifyClientPhases at verified
  split at verified <;> try contradiction
  rename_i same
  rw [not_not] at same
  rw [same]
  cases policy.stateName <;> decide

inductive ClientTurn (c : ClientHandshakeCoordinator C) : Report C → ClientHandshakeCoordinator C → Prop
  | begun (now id policy prepared crypto)
      (started : ClientHandshake.start now c.policy = (.ok (.sendClientHello id), policy))
      (made : startAttempt id c.crypto = (.ok prepared, crypto)) (verified : verifyClientPhases policy crypto = .ok ()) :
    ClientTurn c ⟨[.clientHello ⟨id, prepared.payload⟩], []⟩ {c with policy := policy, crypto := crypto}
  | dropped (reason) : ClientTurn c ⟨[], [.dropped reason]⟩ c
  | answered (source attempt now deadline expected payload observed policy prepared crypto)
      (pending : c.policy.state.phase = some (attempt, deadline, expected))
      (read : authenticateServerHello attempt payload c.crypto = (.ok (.success observed), crypto))
      (accepted : ClientHandshake.handleAuthenticatedServerHello source attempt now c.policy =
        (.ok (.sendClientFinish attempt), policy))
      (made : prepareClientFinish attempt crypto = .ok prepared) (verified : verifyClientPhases policy crypto = .ok ()) :
    ClientTurn c ⟨[.clientFinish ⟨attempt, prepared.payload⟩], []⟩ {c with policy := policy, crypto := crypto}
  | established (source attempt now deadline expected payload metadata policy middle crypto)
      (pending : c.policy.state.phase = some (attempt, deadline, expected))
      (read : authenticateServerFinish attempt payload c.crypto = (.ok (.success ⟨attempt, metadata⟩), middle))
      (accepted : ClientHandshake.handleAuthenticatedServerFinish source attempt metadata now c.policy =
        (.ok (.sessionEstablished metadata.sessionId), policy))
      (committed : commitSession attempt metadata middle = (.ok (), crypto))
      (verified : verifyClientPhases policy crypto = .ok ()) :
    ClientTurn c ⟨[], [.sessionEstablished metadata]⟩ {c with policy := policy, crypto := crypto}
  | unchanged (open_ : c.policy.state ≠ .closed) (verified : verifyClientPhases c.policy c.crypto = .ok ()) :
    ClientTurn c ⟨[], []⟩ c
  | ended (event t) (shut : t.policy.state = .closed) (lifecycle : t.lifecycle = .closed)
      (verified : verifyClientPhases t.policy t.crypto = .ok ()) (quiet : clientReportsSession event = false) :
    ClientTurn c ⟨[], [event]⟩ t

theorem closeTurn {c t : ClientHandshakeCoordinator C} {attempt event} (shut : t.policy.state = .closed)
    (quiet : clientReportsSession event = false) :
    Action.wp (closeAttempt attempt event) (ClientTurn c) (fun _ _ => True) t := by
  simp only [closeAttempt, Action.wpBind]
  refine callRule (fun removal crypto _ => ?_) (fun _ _ => trivial)
  simp only [Action.wpIte, violated, Action.wpFail, Action.wpBind, Action.wpPure, setClosed, Action.wpModify]
  exact ⟨fun _ => trivial, fun _ => clientVerify fun verified => .ended event _ shut rfl verified quiet⟩

theorem rejectTurn {c t : ClientHandshakeCoordinator C} {source expected observed p}
    (pending : t.policy.state.phase = some p) :
    Action.wp (rejectAttempt source expected observed) (ClientTurn c) (fun _ _ => True) t := by
  simp only [rejectAttempt, Action.wpBind]
  refine clientAttempt fun _ => ?_
  simp only [askPolicy, Action.wpTotal, Action.wpIte, violated, Action.wpFail]
  refine ⟨fun _ => trivial, fun dropped => ?_⟩
  rw [not_not] at dropped
  exact closeTurn (failureCloses pending dropped) rfl

theorem beginTurn (now) : Action.wp (begin_ now) (ClientTurn c) (fun _ _ => True) c := by
  simp only [begin_, Action.wpBind]
  refine clientPolicy fun action policy started => ?_
  split
  · simp only [Action.wpBind, Action.wpPure]
    refine callRule (fun prepared crypto made => clientAttempt fun _ => clientVerify fun verified => ?_) (fun _ _ => trivial)
    exact .begun now _ policy prepared crypto started made verified
  · trivial

/- Both inbound messages go through the same precheck; `accept` is what follows a permit. -/
theorem inboundTurn {source attempt kind now} {accept : ClientAttemptId → Step C (Report C)}
    (accepted : ∀ deadline expected, c.policy.state.phase = some (attempt, deadline, expected) →
      Action.wp (accept attempt) (ClientTurn c) (fun _ _ => True) c) :
    Action.wp (do
        match (← askPolicy (ClientHandshake.precheck source attempt kind now)) with
        | .drop reason => pure ⟨[], [.dropped reason]⟩
        | .timeout attemptId => closeAttempt attemptId (.handshakeTimedOut attemptId)
        | .permit attemptId => accept attemptId)
      (ClientTurn c) (fun _ _ => True) c := by
  simp only [askPolicy, Action.wpBind, Action.wpTotal]
  rcases precheckCases source attempt kind now c.policy with
    ⟨reason, ran⟩ | ⟨current, _, ran⟩ | ⟨deadline, expected, pending, _, _, ran⟩
  · simp only [ran, Action.wpPure]
    exact .dropped reason
  · simp only [ran]
    exact closeTurn rfl rfl
  · simp only [ran]
    exact accepted deadline expected pending

theorem serverHelloTurn (source message now) :
    Action.wp (serverHello source message now) (ClientTurn c) (fun _ _ => True) c := by
  refine inboundTurn fun deadline expected pending => ?_
  simp only [Action.wpBind]
  refine callRule (fun outcome crypto read => ?_) (fun _ _ => trivial)
  split
  · simp only [acceptServerHello, Action.wpBind]
    refine clientAttempt fun _ => clientPolicy fun action policy accepted => ?_
    split
    · simp only [Action.wpBind, Action.wpPure]
      refine clientAttempt fun same => askRule (fun prepared made => ?_) (fun _ => trivial)
      refine clientAttempt fun _ => clientVerify fun verified => ?_
      subst same
      exact .answered source _ now deadline expected _ _ policy prepared crypto pending read accepted made verified
    · trivial
  · exact rejectTurn pending
  · trivial

theorem serverFinishTurn (source message now) :
    Action.wp (serverFinish source message now) (ClientTurn c) (fun _ _ => True) c := by
  refine inboundTurn fun deadline expected pending => ?_
  simp only [Action.wpBind]
  refine callRule (fun outcome middle read => ?_) (fun _ _ => trivial)
  split
  · rename_i authenticated
    obtain ⟨observed, metadata⟩ := authenticated
    simp only [acceptServerFinish, Action.wpBind]
    refine clientAttempt fun same => clientPolicy fun action policy accepted => ?_
    subst same
    split
    · simp only [Action.wpIte, violated, Action.wpFail, Action.wpBind, Action.wpPure]
      refine ⟨fun _ => trivial, fun named => callRule (fun _ crypto committed => ?_) (fun _ _ => trivial)⟩
      refine clientVerify fun verified => ?_
      cases not_not.mp named
      exact .established source _ now deadline expected _ metadata policy middle crypto pending read accepted committed
        verified
    · trivial
  · exact rejectTurn pending
  · trivial

theorem timeoutTurn (now) : Action.wp (timeout now) (ClientTurn c) (fun _ _ => True) c := by
  simp only [timeout, askPolicy, Action.wpBind, Action.wpTotal, ClientHandshake.checkTimeout]
  cases pending : c.policy.state.phase with
  | some p =>
    obtain ⟨attempt, deadline, kind⟩ := p
    by_cases early : now < deadline
    · simp only [early, if_true, Action.wpBind, Action.wpPure]
      exact clientVerify fun verified => .unchanged (phaseOpen pending) verified
    · simp only [early, if_false]
      exact closeTurn rfl rfl
  | none =>
    by_cases shut : c.policy.state = .closed
    · simp only [shut, if_true, Action.wpBind, Action.wpPure, setClosed, Action.wpModify]
      exact clientVerify fun verified => .ended _ _ shut rfl verified rfl
    · simp only [shut, if_false, Action.wpBind, Action.wpPure]
      exact clientVerify fun verified => .unchanged shut verified

theorem openSettled {c t : ClientHandshakeCoordinator C} {r : Report C} (stable : ClientStable c)
    (lifecycle : t.lifecycle = c.lifecycle) (before : c.policy.state ≠ .closed) (after : t.policy.state ≠ .closed)
    (verified : verifyClientPhases t.policy t.crypto = .ok ()) : ClientSettled c t r := by
  refine ⟨⟨verifiedClientPair verified, ?_⟩, fun shut => absurd shut before⟩
  rw [lifecycle, stable.lifecycle]
  exact ⟨fun shut => absurd shut before, fun shut => absurd shut after⟩

theorem turnSettled {r t} (stable : ClientStable c) (turn : ClientTurn c r t) : ClientSettled c t r := by
  cases turn with
  | begun now id policy prepared crypto started made verified =>
    obtain ⟨idle, next, deadline, _, rfl⟩ := Action.wpOk (startSpec now) started
    exact openSettled stable rfl (by simp [idle]) (by simp) verified
  | dropped reason => exact ⟨stable, fun shut => ⟨shut, rfl, fun e member => by cases List.mem_singleton.mp member; rfl⟩⟩
  | answered source attempt now deadline expected payload observed policy prepared crypto pending read accepted made verified =>
    obtain ⟨startedAt, later, rfl⟩ := Action.wpOk (serverHelloSpec source attempt now) accepted _ rfl
    exact openSettled stable rfl (phaseOpen pending) (by simp) verified
  | established source attempt now deadline expected payload metadata policy middle crypto pending read accepted committed
      verified =>
    refine openSettled stable rfl (phaseOpen pending) ?_ verified
    simp [Action.wpOk (serverFinishState source attempt metadata now) accepted _ rfl]
  | unchanged open_ verified => exact openSettled stable rfl open_ open_ verified
  | ended event t shut lifecycle verified quiet =>
    refine ⟨⟨verifiedClientPair verified, by simp [shut, lifecycle]⟩, fun _ => ⟨shut, rfl, ?_⟩⟩
    intro e member
    cases List.mem_singleton.mp member
    exact quiet

inductive ClientCall (C : Type) [ClientHandshakeCrypto C] where
  | start (now : Instant)
  | serverHello (source : SocketAddr) (message : ServerHello (ServerHelloPayload C)) (now : Instant)
  | serverFinish (source : SocketAddr) (message : ServerFinish (ServerFinishPayload C)) (now : Instant)
  | checkTimeout (now : Instant)
  | shutdown

def clientStep (c : ClientHandshakeCoordinator C) : ClientCall C → Result C × ClientHandshakeCoordinator C
  | .start now => start now c
  | .serverHello source message now => receiveServerHello source message now c
  | .serverFinish source message now => receiveServerFinish source message now c
  | .checkTimeout now => ClientCoordinator.checkTimeout now c
  | .shutdown => shutdownAll c

structure ClientAnswer (c t : ClientHandshakeCoordinator C) (result : Result C) : Prop where
  stable : ClientStable t
  failed : ∀ e, result = .error e → t.policy.state = .closed ∧ phase t.crypto = .closed
  closed : c.policy.state = .closed → t.policy.state = .closed ∧ ∀ r, result = .ok r → clientSilent r

theorem clientShutAnswer {c t : ClientHandshakeCoordinator C} (policy : t.policy.state = .closed)
    (crypto : phase t.crypto = .closed) (lifecycle : t.lifecycle = .closed) {result : Result C}
    (quiet : ∀ r, result = .ok r → clientSilent r) : ClientAnswer c t result := by
  refine ⟨⟨?_, by simp [policy, lifecycle]⟩, fun _ _ => ⟨policy, crypto⟩, fun _ => ⟨policy, quiet⟩⟩
  simp [clientPairs, ClientHandshake.stateName, ClientHandshakeState.name, policy, crypto]

theorem clientBuilt {policy : ClientHandshake} {crypto : C} {c} (built : build policy crypto = .ok c) :
    ClientStable c := by
  unfold build at built
  split at built <;> try contradiction
  rename_i idle
  split at built <;> try contradiction
  rename_i fresh
  cases Except.ok.inj built
  rw [not_not] at idle fresh
  have open_ : policy.state ≠ .closed := by
    intro closed
    simp [ClientHandshake.stateName, ClientHandshakeState.name, closed] at idle
  refine ⟨by simp [clientPairs, idle, fresh], ?_⟩
  simp [open_]

variable [LawfulClientCrypto C]

theorem clientShut (c : ClientHandshakeCoordinator C) : c.policy.shutdown.2.state = .closed ∧
    phase (shutdown c.crypto).2 = .closed := by
  constructor
  · unfold ClientHandshake.shutdown
    split <;> simp [*]
  · exact LawfulClientCrypto.shutdownPhase c.crypto

def ClientReturned (c : ClientHandshakeCoordinator C) (result : Result C) (t : ClientHandshakeCoordinator C) : Prop :=
  match result with
  | .ok r => ClientTurn c r t
  | .error _ => t.policy.state = .closed ∧ phase t.crypto = .closed ∧ t.lifecycle = .closed

theorem closingReturned {x : Step C (Report C)} {c : ClientHandshakeCoordinator C}
    (turn : Action.wp x (ClientTurn c) (fun _ _ => True) c) : ClientReturned c (closing x c).1 (closing x c).2 := by
  unfold closing
  rcases ran : x c with ⟨primary | report, t⟩
  · obtain ⟨policy, crypto⟩ := clientShut t
    exact ⟨policy, crypto, rfl⟩
  · have returned : ClientTurn c report t := Action.wpOk turn ran
    exact returned

theorem closedQuiet {cleanup action event} (found : closedEvent cleanup action = some event) :
    clientReportsSession event = false := by
  unfold closedEvent at found
  split at found <;> try contradiction
  · cases found
    rfl
  · split at found <;> cases found <;> rfl

theorem clientReturns (c : ClientHandshakeCoordinator C) (call : ClientCall C) :
    ClientReturned c (clientStep c call).1 (clientStep c call).2 := by
  cases call with
  | start now => exact closingReturned (beginTurn now)
  | serverHello source message now => exact closingReturned (serverHelloTurn source message now)
  | serverFinish source message now => exact closingReturned (serverFinishTurn source message now)
  | checkTimeout now => exact closingReturned (timeoutTurn now)
  | shutdown =>
    obtain ⟨policy, crypto⟩ := clientShut c
    unfold clientStep shutdownAll
    simp only
    split
    · exact ⟨policy, crypto, rfl⟩
    · rename_i verified
      split
      · rename_i event found
        exact .ended event _ policy rfl verified (closedQuiet found)
      · exact ⟨policy, crypto, rfl⟩

theorem clientStepAnswer {c : ClientHandshakeCoordinator C} (stable : ClientStable c) (call : ClientCall C) :
    ClientAnswer c (clientStep c call).2 (clientStep c call).1 := by
  have returned := clientReturns c call
  generalize clientStep c call = outcome at returned ⊢
  obtain ⟨result, t⟩ := outcome
  cases result with
  | error fatal =>
    obtain ⟨policy, crypto, lifecycle⟩ := returned
    exact clientShutAnswer policy crypto lifecycle (fun r impossible => by cases impossible)
  | ok report =>
    have settled := turnSettled stable returned
    refine ⟨settled.stable, (fun e impossible => by cases impossible), ?_⟩
    intro shut
    obtain ⟨after, quiet⟩ := settled.closed shut
    refine ⟨after, ?_⟩
    intro r same
    cases same
    exact quiet

def ClientDiscipline (c : ClientHandshakeCoordinator C) : Prop :=
  ∀ calls : List (ClientCall C),
    let past := run clientStep c calls
    (past.2.policy.stateName, phase past.2.crypto) ∈ clientPairs ∧
    (past.2.lifecycle = .closed ↔ past.2.policy.state = .closed) ∧
    (∀ call e, (clientStep past.2 call).1 = .error e →
      (clientStep past.2 call).2.policy.state = .closed ∧ phase (clientStep past.2 call).2.crypto = .closed) ∧
    (past.2.policy.state = .closed →
      ∀ more, ∀ r, Except.ok r ∈ (run clientStep past.2 more).1 → clientSilent r)

theorem clientDisciplined {c : ClientHandshakeCoordinator C} (stable : ClientStable c) : ClientDiscipline c := by
  intro calls past
  have now : ClientStable past.2 :=
    @runInvariant _ _ _ clientStep ClientStable (fun _ call ok => (clientStepAnswer ok call).stable) c stable calls
  refine ⟨now.pair, now.lifecycle, ?_, ?_⟩
  · intro call e failed
    exact (clientStepAnswer now call).failed e failed
  · intro shut more r member
    have quiet := @runOutputs _ _ _ (clientStep (C := C))
      (fun c => ClientStable c ∧ c.policy.state = .closed)
      (fun result => ∀ r, result = .ok r → clientSilent r)
      (fun c call ok => ⟨(clientStepAnswer ok.1 call).stable, ((clientStepAnswer ok.1 call).closed ok.2).1⟩)
      (fun c call ok => ((clientStepAnswer ok.1 call).closed ok.2).2) past.2 ⟨now, shut⟩ more
    exact quiet _ member r rfl

end Client

theorem coordinatorsStable {C D : Type} [ServerHandshakeCrypto C] [LawfulServerCrypto C]
    [ClientHandshakeCrypto D] [LawfulClientCrypto D] {serverPolicy : ServerHandshake} {serverCrypto : C}
    {clientPolicy : ClientHandshake} {clientCrypto : D} {s c}
    (builtServer : ServerCoordinator.build serverPolicy serverCrypto = .ok s)
    (builtClient : ClientCoordinator.build clientPolicy clientCrypto = .ok c) :
    ServerDiscipline s ∧ ClientDiscipline c :=
  ⟨serverDisciplined (serverBuilt builtServer), clientDisciplined (clientBuilt builtClient)⟩

section Plain
open NoiseServer NoiseClient SnowBoundary

def plainEndpoint (port : UInt16) : SocketAddr := .v4 0x7F000001 port

def plainServer : ServerCoordinator.ServerHandshakeCoordinator (ServerProvider plainSnow) :=
  ⟨.new ((SessionPolicy.new 2 10 10).toOption.get rfl) (.listing _ _) (.listing _ _), plainServerProvider, .running⟩

def plainClient : ClientCoordinator.ClientHandshakeCoordinator (ClientProvider plainSnow) :=
  ⟨⟨plainEndpoint 2000, 10, .idle, 1⟩, plainClientProvider, .running⟩

theorem plainCoordinatorsStable : ServerDiscipline plainServer ∧ ClientDiscipline plainClient :=
  @coordinatorsStable _ _ _ _ _ _ plainServer.policy plainServer.crypto plainClient.policy plainClient.crypto
    plainServer plainClient rfl rfl

end Plain
end Crabnet.CoordinatorStability
