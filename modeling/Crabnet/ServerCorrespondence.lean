import Crabnet.ServerCoupling

/-! Every call of a Noise server, from a state where the two layers correspond:
what it returns, what it did with the library, and that the layers correspond
again. Later results about the server read the moves below and nothing else. -/
namespace Crabnet.ServerCorrespondence
open MachineWord SessionTypes Fallible HashTable CryptoBoundary PendingManager ServerPolicy ServerRegistry
open ServerOutcomes HandshakeTypes ServerCoordinator NoiseProfile SnowBoundary NoiseServer NoiseServerOutcomes
open ServerCoupling CoordinatorStability

section
variable {S : Snow}

abbrev Answer (S : Snow) := Except CoordinatorPrimaryError (Report (ServerProvider S))

def helloOutbound (source : SocketAddr) (attempt : ClientAttemptId) (payload : Bytes) :
    ServerOutbound (ServerHandshakeMessage Bytes Bytes) := ⟨source, .serverHello ⟨attempt, payload⟩⟩

inductive HelloMove (p : ServerProvider S) (source : SocketAddr) (attempt : ClientAttemptId) (payload : Bytes) :
    Answer S → ServerProvider S → Prop
  | refused (e) (limit : HelloRefused source e) : HelloMove p source attempt payload (.error (.serverPolicy e)) p
  | dropped (ids events reason) :
    HelloMove p source attempt payload (.ok (dropEvent events source reason)) (dropping p ids)
  | repeated (ids events id context) (found : p.candidates.get id = some (.pending context)) :
    HelloMove p source attempt payload
      (.ok ⟨[helloOutbound source attempt context.serverHello.toList], events⟩) (dropping p ids)
  | broken (ids id e q) (fresh : FreshHello (dropping p ids) id attempt payload (.error e) q) :
    HelloMove p source attempt payload (.error (.crypto e)) q
  | welcomed (ids events id prepared q)
      (fresh : FreshHello (dropping p ids) id attempt payload (.ok (.success prepared)) q) :
    HelloMove p source attempt payload (.ok ⟨[helloOutbound source attempt prepared.payload], events⟩) q

/- A finish that the policy lets through: the candidate has not expired at `now`
and the provider holds its context. -/
structure Permitted (c : Server S) (source : SocketAddr) (attempt : ClientAttemptId) (now : Instant)
    (expired : List ExpiredServerCandidate) (id : CandidateId) (context : PendingContext S) : Prop where
  owned : ∃ m, Expires c.policy now expired m ∧ Registered m ∧ Owned m source (bindingOf id source attempt)
  found : c.crypto.candidates.get id = some (.pending context)
  attempt : context.attempt = attempt

inductive FinishMove (c : Server S) (source : SocketAddr) (attempt : ClientAttemptId) (payload : Bytes)
    (now : Instant) : Answer S → ServerProvider S → Prop
  | dropped (expired m reason) (ex : Expires c.policy now expired m) (reg : Registered m)
      (decision : FinishDecision m source attempt (.drop reason)) :
    FinishMove c source attempt payload now (.ok (dropEvent (expired.map expiredEvent) source reason))
      (dropping c.crypto (expiredIds expired))
  | duplicate (session) (state : c.policy.state = .established session) (peer : source = session.peerEndpoint)
      (same : attempt = session.clientAttemptId) :
    FinishMove c source attempt payload now
      (.error (.crypto (.missingServerCandidateContext session.completedCandidateId session.clientAttemptId)))
      c.crypto
  | failed (expired id context e q) (permitted : Permitted c source attempt now expired id context)
      (answer : FinishAnswer (dropping c.crypto (expiredIds expired)) id context payload (.error e) q) :
    FinishMove c source attempt payload now (.error (.crypto e)) q
  | unconfirmed (expired id context plain) (permitted : Permitted c source attempt now expired id context)
      (opens : context.transport.read 0 payload clientFinishPayloadLength = some plain) :
    FinishMove c source attempt payload now
      (.ok (dropEvent (expired.map expiredEvent) source .authenticationFailed))
      (dropping (opening (dropping c.crypto (expiredIds expired)) context payload) [id])
  | established (expired id context plain record out)
      (permitted : Permitted c source attempt now expired id context)
      (opens : context.transport.read 0 payload clientFinishPayloadLength = some plain)
      (recorded : encodeControl .serverFinish attempt = .ok record)
      (written : context.transport.write 0 record serverFinishPayloadLength = some out.toList) :
    FinishMove c source attempt payload now
      (.ok ⟨[⟨source, .serverFinish ⟨attempt, out.toList⟩⟩],
        expired.map expiredEvent ++ [.sessionEstablished source context.metadata]⟩)
      ((sealing (opening (dropping c.crypto (expiredIds expired)) context payload) context record).committing id
        ⟨attempt, context.transport, context.metadata, out⟩)

abbrev trimmed (c : Server S) (m : ServerHandshake) (expired : List ExpiredServerCandidate) : Server S :=
  {c with policy := m, crypto := dropping c.crypto (expiredIds expired)}

inductive HelloTurn (c : Server S) (source : SocketAddr) (attempt : ClientAttemptId) (payload : Bytes)
    (now : Instant) : Answer S → Server S → Prop
  | refused (e expired m) (limit : HelloRefused source e) (ex : Expires c.policy now expired m) :
    HelloTurn c source attempt payload now (.error (.serverPolicy e)) {c with policy := m}
  | dropped (expired m reason) (ex : Expires c.policy now expired m) (reg : Registered m)
      (step : HelloStep m source attempt now [.dropped source reason] m) :
    HelloTurn c source attempt payload now (.ok (dropEvent (expired.map expiredEvent) source reason))
      (trimmed c m expired)
  | repeated (expired m id context) (ex : Expires c.policy now expired m) (reg : Registered m)
      (owned : Owned m source (bindingOf id source attempt))
      (found : c.crypto.candidates.get id = some (.pending context)) (same : context.clientHello = payload) :
    HelloTurn c source attempt payload now
      (.ok ⟨[helloOutbound source attempt context.serverHello.toList], expired.map expiredEvent⟩) (trimmed c m expired)
  | conflicting (expired m id) (ex : Expires c.policy now expired m) (reg : Registered m)
      (owned : Owned m source (bindingOf id source attempt)) :
    HelloTurn c source attempt payload now
      (.ok (dropEvent (expired.map expiredEvent) source .authenticationFailed))
      {c with
        policy := without m (bindingOf id source attempt)
        crypto := dropping c.crypto (expiredIds expired ++ [id])}
  | rejected (expired m deadline next) (ex : Expires c.policy now expired m) (reg : Registered m)
      (listening : m.state = .listening) (free : m.pending.pendingBySource.get source = none) :
    HelloTurn c source attempt payload now
      (.ok (dropEvent (expired.map expiredEvent) source .authenticationFailed))
      (trimmed c (without (admitted m source attempt now deadline next)
        (bindingOf ⟨m.pending.nextCandidateId⟩ source attempt)) expired)
  | broken (expired m deadline next e q) (ex : Expires c.policy now expired m) (reg : Registered m)
      (fresh : FreshHello (dropping c.crypto (expiredIds expired)) ⟨m.pending.nextCandidateId⟩ attempt payload
        (.error e) q) :
    HelloTurn c source attempt payload now (.error (.crypto e))
      {c with policy := admitted m source attempt now deadline next, crypto := q}
  | welcomed (expired m deadline next prepared q) (ex : Expires c.policy now expired m) (reg : Registered m)
      (listening : m.state = .listening) (free : m.pending.pendingBySource.get source = none)
      (fresh : FreshHello (dropping c.crypto (expiredIds expired)) ⟨m.pending.nextCandidateId⟩ attempt payload
        (.ok (.success prepared)) q) :
    HelloTurn c source attempt payload now
      (.ok ⟨[helloOutbound source attempt prepared.payload], expired.map expiredEvent⟩)
      {c with policy := admitted m source attempt now deadline next, crypto := q}

structure Allowed (c : Server S) (m : ServerHandshake) (source : SocketAddr) (attempt : ClientAttemptId)
    (now : Instant) (expired : List ExpiredServerCandidate) (id : CandidateId) (context : PendingContext S) : Prop where
  expires : Expires c.policy now expired m
  registered : Registered m
  owned : Owned m source (bindingOf id source attempt)
  found : c.crypto.candidates.get id = some (.pending context)
  attempt : context.attempt = attempt

inductive FinishTurn (c : Server S) (source : SocketAddr) (attempt : ClientAttemptId) (payload : Bytes)
    (now : Instant) : Answer S → Server S → Prop
  | dropped (expired m reason) (ex : Expires c.policy now expired m) (reg : Registered m)
      (decision : FinishDecision m source attempt (.drop reason)) :
    FinishTurn c source attempt payload now (.ok (dropEvent (expired.map expiredEvent) source reason))
      (trimmed c m expired)
  | duplicate (session m) (state : c.policy.state = .established session) (peer : source = session.peerEndpoint)
      (same : attempt = session.clientAttemptId) (ex : Expires c.policy now [] m) :
    FinishTurn c source attempt payload now
      (.error (.crypto (.missingServerCandidateContext session.completedCandidateId session.clientAttemptId)))
      {c with policy := m}
  | failed (expired m id context e q) (allowed : Allowed c m source attempt now expired id context)
      (answer : FinishAnswer (dropping c.crypto (expiredIds expired)) id context payload (.error e) q) :
    FinishTurn c source attempt payload now (.error (.crypto e)) {c with policy := m, crypto := q}
  | unconfirmed (expired m id context plain) (allowed : Allowed c m source attempt now expired id context)
      (opens : context.transport.read 0 payload clientFinishPayloadLength = some plain) :
    FinishTurn c source attempt payload now
      (.ok (dropEvent (expired.map expiredEvent) source .authenticationFailed))
      {c with
        policy := without m (bindingOf id source attempt)
        crypto := dropping (opening (dropping c.crypto (expiredIds expired)) context payload) [id]}
  | established (expired m id context plain record out t) (allowed : Allowed c m source attempt now expired id context)
      (opens : context.transport.read 0 payload clientFinishPayloadLength = some plain)
      (recorded : encodeControl .serverFinish attempt = .ok record)
      (written : context.transport.write 0 record serverFinishPayloadLength = some out.toList)
      (state : t.state = .established ⟨context.metadata, source, id, attempt, now⟩) :
    FinishTurn c source attempt payload now
      (.ok ⟨[⟨source, .serverFinish ⟨attempt, out.toList⟩⟩],
        expired.map expiredEvent ++ [.sessionEstablished source context.metadata]⟩)
      {c with
        policy := t
        crypto := (sealing (opening (dropping c.crypto (expiredIds expired)) context payload) context record).committing
          id ⟨attempt, context.transport, context.metadata, out⟩}

theorem helloTurnMove {c t : Server S} {source attempt payload now answer}
    (turn : HelloTurn c source attempt payload now answer t) :
    HelloMove c.crypto source attempt payload answer t.crypto := by
  cases turn with
  | refused e expired m limit ex => exact .refused e limit
  | dropped expired m reason ex reg step => exact .dropped _ _ _
  | repeated expired m id context ex reg owned found same => exact .repeated _ _ id context found
  | conflicting expired m id ex reg owned => exact .dropped _ _ _
  | rejected expired m deadline next ex reg listening free => exact .dropped _ _ _
  | broken expired m deadline next e q ex reg fresh => exact .broken _ _ e q fresh
  | welcomed expired m deadline next prepared q ex reg listening free fresh => exact .welcomed _ _ _ prepared q fresh

theorem allowedPermitted {c : Server S} {m source attempt now expired id context}
    (allowed : Allowed c m source attempt now expired id context) : Permitted c source attempt now expired id context :=
  ⟨⟨m, allowed.expires, allowed.registered, allowed.owned⟩, allowed.found, allowed.attempt⟩

theorem finishTurnMove {c t : Server S} {source attempt payload now answer}
    (turn : FinishTurn c source attempt payload now answer t) :
    FinishMove c source attempt payload now answer t.crypto := by
  cases turn with
  | dropped expired m reason ex reg decision => exact .dropped expired m reason ex reg decision
  | duplicate session m state peer same ex => exact .duplicate session state peer same
  | failed expired m id context e q allowed answer =>
    exact .failed expired id context e q (allowedPermitted allowed) answer
  | unconfirmed expired m id context plain allowed opens =>
    exact .unconfirmed expired id context plain (allowedPermitted allowed) opens
  | established expired m id context plain record out t allowed opens recorded written state =>
    exact .established expired id context plain record out (allowedPermitted allowed) opens recorded written

/- How a step ends: in a corresponding state, or in an error from a state that a
shutdown makes correspond. -/
def Ends (Turn : Answer S → Server S → Prop) (r : Report (ServerProvider S)) (t : Server S) : Prop :=
  Corresponds t ∧ Turn (.ok r) t

def Fails (Turn : Answer S → Server S → Prop) (e : CoordinatorPrimaryError) (t : Server S) : Prop :=
  Registered t.policy ∧ t.crypto.phase ≠ .closed ∧ Turn (.error e) t

variable {c : Server S}

theorem abortingRule {Q : Report (ServerProvider S) → Server S → Prop} {E : CoordinatorPrimaryError → Server S → Prop}
    {events source id attempt context} (reg : Registered c.policy) (coupled : Listening c.policy c.crypto)
    (owned : Owned c.policy source (bindingOf id source attempt))
    (found : c.crypto.candidates.get id = some context) (same : context.attempt = attempt)
    (post : Corresponds {c with
      policy := without c.policy (bindingOf id source attempt), crypto := dropping c.crypto [id]} →
      Q (dropEvent events source .authenticationFailed) {c with
        policy := without c.policy (bindingOf id source attempt), crypto := dropping c.crypto [id]}) :
    Action.wp (abortCandidate events source id attempt .removed) Q E c := by
  simp only [abortCandidate, Action.wpBind, Action.wpPure, wpOnPolicy]
  refine abortRule reg owned fun after => ?_
  refine removalRule (by simp [coupled.phase]) coupled.uncommitted found same ?_
  have state : (without c.policy (bindingOf id source attempt)).state = .listening := owned.listening
  have together : Coupled (without c.policy (bindingOf id source attempt)) (dropping c.crypto [id]) :=
    (coupledListening state).mpr (coupledWithout coupled)
  exact verifyRule after together (post ⟨after, together⟩)

theorem resentEnds {source id attempt payload now expired m} (corresponds : Corresponds (trimmed c m expired))
    (ex : Expires c.policy now expired m) (owned : Owned m source (bindingOf id source attempt)) :
    Action.wp (answerHello (expired.map expiredEvent) source source id attempt .existingCandidate payload)
      (Ends (HelloTurn c source attempt payload now)) (Fails (HelloTurn c source attempt payload now))
      (trimmed c m expired) := by
  have reg : Registered m := corresponds.registered
  have coupled : Listening m (dropping c.crypto (expiredIds expired)) :=
    (coupledListening owned.listening).mp corresponds.coupled
  obtain ⟨context, found, agrees, _⟩ := listedContext coupled owned.entry
  simp only [answerHello, Action.wpBind, wpOnCrypto]
  refine repeatedHelloRule coupled.phase found agrees ?_ ?_
  · intro same
    have before : c.crypto.candidates.get id = some (.pending context) := by
      rw [getDropping] at found
      split at found <;> try contradiction
      exact found
    simp only [ne_eq, not_true_eq_false, or_self, if_false, Action.wpBind, Action.wpPure]
    refine verifyRule corresponds.registered corresponds.coupled ⟨corresponds, ?_⟩
    exact .repeated expired m id context ex reg owned before same
  · intro _
    simp only [ServerProvider.failure, ne_eq, not_true_eq_false, or_self, if_false]
    refine abortingRule corresponds.registered coupled owned found agrees fun after => ⟨after, ?_⟩
    have turn := @HelloTurn.conflicting S c source attempt payload now expired m id ex reg owned
    rw [← droppingMore] at turn
    exact turn

theorem coupledAdmitting {m : ServerHandshake} {p q : ServerProvider S} {source attempt now deadline next prepared payload}
    (coupled : Listening m p)
    (step : FreshHello p ⟨m.pending.nextCandidateId⟩ attempt payload (.ok (.success prepared)) q) :
    Listening (admitted m source attempt now deadline next) q := by
  cases step with
  | welcomed transport hash remote out prologue built allowed =>
    refine ⟨coupled.phase, coupled.uncommitted, coupled.unestablished, ?_, ?_⟩
    · intro id
      simp only [ServerProvider.candidateAttempt, ServerProvider.admitting, admitted, HashMap.getInsert]
      split
      · rfl
      · exact coupled.pairs id
    · intro id context found
      simp only [ServerProvider.admitting, HashMap.getInsert] at found
      split at found
      · cases Option.some.inj found
        exact ⟨_, rfl, rfl, rfl⟩
      · exact coupled.pending id context found

theorem coupledRejecting {m : ServerHandshake} {p : ServerProvider S} {source attempt now deadline next}
    (coupled : Listening m p) (fresh : p.candidates.get ⟨m.pending.nextCandidateId⟩ = none) :
    Listening (without (admitted m source attempt now deadline next)
      (bindingOf ⟨m.pending.nextCandidateId⟩ source attempt)) p := by
  refine ⟨coupled.phase, coupled.uncommitted, coupled.unestablished, ?_, coupled.pending⟩
  intro id
  simp only [without, admitted, bindingOf, HashMap.getRemove, HashMap.getInsert]
  split
  · rename_i same
    rw [same, ServerProvider.candidateAttempt, fresh]
    rfl
  · exact coupled.pairs id

theorem admittedEnds {source attempt payload now deadline next expired} {m : ServerHandshake}
    (ex : Expires c.policy now expired m) (reg : Registered m)
    (coupled : Listening m (dropping c.crypto (expiredIds expired))) (listening : m.state = .listening)
    (free : m.pending.pendingBySource.get source = none)
    (registered : Registered (admitted m source attempt now deadline next)) :
    Action.wp (answerHello (expired.map expiredEvent) source source ⟨m.pending.nextCandidateId⟩ attempt .newCandidate
        payload)
      (Ends (HelloTurn c source attempt payload now)) (Fails (HelloTurn c source attempt payload now))
      (trimmed c (admitted m source attempt now deadline next) expired) := by
  have fresh := unlistedContext coupled (nextUnlisted reg)
  have owned : Owned (admitted m source attempt now deadline next) source
      (bindingOf ⟨m.pending.nextCandidateId⟩ source attempt) :=
    ⟨listening, by simp [admitted, bindingOf, HashMap.getInsert], rfl⟩
  simp only [answerHello, Action.wpBind, wpOnCrypto]
  refine Action.wpMono (freshHelloSpec attempt payload coupled.phase fresh) ?_ ?_
  · intro outcome q step
    rcases outcome with prepared | failure
    · have together : Coupled (admitted m source attempt now deadline next) q :=
        (coupledListening owned.listening).mpr (coupledAdmitting coupled step)
      have original := step
      cases step with
      | welcomed transport hash remote out prologue built allowed =>
        simp only [ne_eq, not_true_eq_false, or_self, if_false, Action.wpBind, Action.wpPure]
        refine verifyRule registered together ⟨⟨registered, together⟩, ?_⟩
        exact .welcomed expired m deadline next _ _ ex reg listening free original
    · cases step with
      | rejected reason =>
        simp only [ne_eq, not_true_eq_false, or_self, if_false, abortCandidate, admissionRemoval, Action.wpBind,
          Action.wpPure, wpOnPolicy]
        refine abortRule registered owned fun after => ?_
        refine absenceRule (by simp [coupled.phase]) fresh ?_
        have state : (without (admitted m source attempt now deadline next)
            (bindingOf ⟨m.pending.nextCandidateId⟩ source attempt)).state = .listening := owned.listening
        have together := (coupledListening state).mpr
          (@coupledRejecting _ _ _ source attempt now deadline next coupled fresh)
        exact verifyRule after together ⟨⟨after, together⟩, .rejected expired m deadline next ex reg listening free⟩
  · intro e q step
    refine ⟨registered, ?_, .broken expired m deadline next e q ex reg step⟩
    cases step
    simp [coupled.phase]

theorem helloEnds (corresponds : Corresponds c) (source message now) :
    Action.wp (hello source message now)
      (Ends (HelloTurn c source message.clientAttemptId message.payload now))
      (Fails (HelloTurn c source message.clientAttemptId message.payload now)) c := by
  simp only [hello, Action.wpBind, wpOnPolicy]
  refine Action.wpMono (helloSpec corresponds.registered source message.clientAttemptId now) ?_ ?_
  · intro result t spec
    obtain ⟨m, ex, reg, step, registered⟩ := spec
    refine expiryRule corresponds.registered corresponds.coupled ex ?_
    have coupled := coupledExpired corresponds.registered corresponds.coupled ex
    have quiet : ∀ reason, HelloStep m source message.clientAttemptId now [.dropped source reason] m → Action.wp
        (do
          verifyStable
          pure (dropEvent (result.expired.map expiredEvent) source reason))
        (Ends (HelloTurn c source message.clientAttemptId message.payload now))
        (Fails (HelloTurn c source message.clientAttemptId message.payload now)) (trimmed c m result.expired) := by
      intro reason why
      simp only [Action.wpBind, Action.wpPure]
      exact verifyRule reg coupled ⟨⟨reg, coupled⟩, .dropped _ m reason ex reg why⟩
    obtain ⟨expired, effects⟩ := result
    simp only at step quiet ⊢
    have original := step
    cases step with
    | unavailable closed => simpa using quiet _ original
    | active session state => simpa using quiet _ original
    | stale b owned other => simpa using quiet _ original
    | full listening free crowded => simpa using quiet _ original
    | resent b owned same =>
      simp only [ne_eq, not_true_eq_false, or_self, if_false]
      refine resentEnds ⟨reg, coupled⟩ ex ?_
      rw [← ownedIs owned rfl same]
      exact owned
    | admitted deadline next listening free advance timely =>
      simp only [ne_eq, not_true_eq_false, or_self, if_false]
      exact admittedEnds ex reg ((coupledListening listening).mp coupled) listening free registered
  · intro e t spec
    obtain ⟨refused, listening, expired, ex, reg⟩ := spec
    refine ⟨reg, ?_, .refused e expired t refused ex⟩
    simp [((coupledListening listening).mp corresponds.coupled).phase]

theorem expiresAgain {h m m' : ServerHandshake} {now expired expired'} (first : Expires h now expired m)
    (second : Expires m now expired' m') : expired' = [] := by
  cases expired' with
  | nil => rfl
  | cons e rest =>
    obtain ⟨held, found, _, late⟩ := second.due e List.mem_cons_self
    exact absurd late (Nat.not_le_of_lt (expiresEarly first found))

theorem completesRule {h m : ServerHandshake} {now expired source id attempt metadata}
    {Q : ServerReport → ServerHandshake → Prop} {E : ServerStateError → ServerHandshake → Prop}
    (first : Expires h now expired m) (reg : Registered m) (owned : Owned m source (bindingOf id source attempt))
    (post : ∀ t, Registered t → t.state = .established ⟨metadata, source, id, attempt, now⟩ →
      Q ⟨[], [.sendServerFinish source id attempt metadata.sessionId, .sessionEstablished source metadata.sessionId]⟩ t) :
    Action.wp (ServerHandshake.handleAuthenticatedClientFinish source id attempt metadata now) Q E m := by
  refine Action.wpMono (finishSpec reg source id attempt metadata now) ?_ (fun _ _ impossible => impossible.elim)
  intro report t spec
  obtain ⟨expired', effects⟩ := report
  obtain ⟨m', again, reg', step, registered⟩ := spec
  cases expiresAgain first again
  have listening : m'.state = .listening := again.state.trans owned.listening
  have still : Owned m' source (bindingOf id source attempt) := by
    refine ⟨listening, ?_, rfl⟩
    rw [again.registry]
    exact owned.entry
  cases step with
  | completed held => exact post _ registered rfl
  | repeated session state _ _ _ =>
    rw [listening] at state
    contradiction
  | refused reason unmatched =>
    cases unmatched with
    | unavailable state =>
      rw [listening] at state
      contradiction
    | active session state =>
      rw [listening] at state
      contradiction
    | absent _ free =>
      obtain ⟨held, found, _⟩ := ownedPending reg' still
      rw [free] at found
      contradiction
    | candidate b other different =>
      cases ownedUnique reg' still other
      exact absurd rfl different
    | attempt b other different =>
      cases ownedUnique reg' still other
      exact absurd rfl different

theorem completedEnds {m : ServerHandshake} {source now expired id attempt context payload plain record out}
    (allowed : Allowed c m source attempt now expired id context)
    (opens : context.transport.read 0 payload clientFinishPayloadLength = some plain)
    (recorded : encodeControl .serverFinish attempt = .ok record)
    (written : context.transport.write 0 record serverFinishPayloadLength = some out.toList) :
    Action.wp (completeFinish (expired.map expiredEvent) source id attempt context.metadata now)
      (Ends (FinishTurn c source attempt payload now)) (Fails (FinishTurn c source attempt payload now))
      {c with
        policy := m
        crypto := (sealing (opening (dropping c.crypto (expiredIds expired)) context payload) context record).confirming
          id context payload out} := by
  simp only [completeFinish, Action.wpBind, wpOnPolicy]
  refine completesRule allowed.expires allowed.registered allowed.owned fun t registered state => ?_
  simp only [ne_eq, not_true_eq_false, if_false, expectedFinishEffects, beq_self_eq_true, Bool.and_self,
    Bool.true_eq_false, Action.wpBind, wpOnCrypto]
  have same := allowed.attempt
  subst same
  refine commitRule ?_
  simp only [prepareFinish, Action.wpBind, Action.wpIte, Action.wpPure]
  have prepared : ServerHandshakeCrypto.prepareServerFinish id context.attempt context.metadata.sessionId
      ((sealing (opening (dropping c.crypto (expiredIds expired)) context payload) context record).committing id
        ⟨context.attempt, context.transport, context.metadata, out⟩) =
      .ok ⟨id, context.attempt, context.metadata.sessionId, out.toList⟩ := preparedFinish
  unfold Action.wp askCrypto
  simp only [prepared, ne_eq, not_true_eq_false, or_self, false_implies, true_and]
  have together : Coupled t
      ((sealing (opening (dropping c.crypto (expiredIds expired)) context payload) context record).committing id
        ⟨context.attempt, context.transport, context.metadata, out⟩) := by
    rw [coupledEstablished state]
    exact ⟨rfl, rfl, rfl, _, rfl, rfl, rfl⟩
  refine fun _ => verifyRule registered together ⟨⟨registered, together⟩, ?_⟩
  exact .established expired m id context plain record out t allowed opens recorded written state

theorem permittedEnds {m : ServerHandshake} {source now expired b attempt payload}
    (corresponds : Corresponds c) (ex : Expires c.policy now expired m) (reg : Registered m) (owned : Owned m source b)
    (same : attempt = b.clientAttemptId) :
    Action.wp (answerFinish (expired.map expiredEvent) source b.candidateId b.clientAttemptId .pendingCandidate
        payload now)
      (Ends (FinishTurn c source attempt payload now)) (Fails (FinishTurn c source attempt payload now))
      (trimmed c m expired) := by
  have binding := ownedIs owned rfl same.symm
  have coupled := (coupledListening owned.listening).mp
    (coupledExpired corresponds.registered corresponds.coupled ex)
  obtain ⟨context, found, agrees, uncached, _⟩ := listedContext coupled owned.entry
  have before : c.crypto.candidates.get b.candidateId = some (.pending context) := by
    rw [getDropping] at found
    split at found <;> try contradiction
    exact found
  rw [binding] at owned
  have allowed : Allowed c m source attempt now expired b.candidateId context :=
    ⟨ex, reg, owned, before, agrees.trans same.symm⟩
  simp only [answerFinish, Action.wpBind, wpOnCrypto]
  rw [← agrees]
  refine Action.wpMono (finishAnswerSpec payload coupled.phase found uncached) ?_ ?_
  · intro outcome q answer
    rcases outcome with authenticated | failure
    · cases answer with
      | confirmed plain record out opens recorded written =>
        rw [allowed.attempt] at recorded ⊢
        simp only [ne_eq, not_true_eq_false, or_self, if_false]
        exact completedEnds allowed opens recorded written
    · cases answer with
      | unconfirmed plain opens =>
        rw [allowed.attempt]
        simp only [ne_eq, not_true_eq_false, or_self, if_false]
        have opened : Listening m (opening (dropping c.crypto (expiredIds expired)) context payload) :=
          ⟨coupled.phase, coupled.uncommitted, coupled.unestablished, coupled.pairs, coupled.pending⟩
        refine abortingRule reg opened owned found allowed.attempt fun after => ⟨after, ?_⟩
        exact .unconfirmed expired m b.candidateId context plain allowed opens
  · intro e q answer
    refine ⟨reg, ?_, .failed expired m _ context e q allowed answer⟩
    cases answer <;> simp [opening, sealing, coupled.phase]

theorem finishEnds (corresponds : Corresponds c) (source message now) :
    Action.wp (finish source message now)
      (Ends (FinishTurn c source message.clientAttemptId message.payload now))
      (Fails (FinishTurn c source message.clientAttemptId message.payload now)) c := by
  simp only [finish, Action.wpBind, wpOnPolicy]
  refine Action.wpMono (precheckSpec corresponds.registered source message.clientAttemptId now) ?_
    (fun _ _ impossible => impossible.elim)
  intro report m spec
  obtain ⟨expired, decided⟩ := report
  obtain ⟨ex, reg, decision⟩ := spec
  refine expiryRule corresponds.registered corresponds.coupled ex ?_
  have coupled := coupledExpired corresponds.registered corresponds.coupled ex
  have quiet : ∀ reason, FinishDecision m source message.clientAttemptId (.drop reason) → Action.wp
      (do
        verifyStable
        pure (dropEvent (expired.map expiredEvent) source reason))
      (Ends (FinishTurn c source message.clientAttemptId message.payload now))
      (Fails (FinishTurn c source message.clientAttemptId message.payload now))
      (trimmed c m expired) := by
    intro reason why
    simp only [Action.wpBind, Action.wpPure]
    exact verifyRule reg coupled ⟨⟨reg, coupled⟩, .dropped expired m reason ex reg why⟩
  cases decision with
  | unavailable closed => exact quiet _ (.unavailable closed)
  | active session state other => exact quiet _ (.active session state other)
  | absent listening free => exact quiet _ (.absent listening free)
  | stale b owned other => exact quiet _ (.stale b owned other)
  | permitted b owned same => exact permittedEnds corresponds ex reg owned same
  | duplicate session state peer same =>
    have before : c.policy.state = .established session := ex.state.symm.trans state
    have agreed := (coupledEstablished before).mp corresponds.coupled
    have outside : c.policy.state ≠ .listening := by simp [before]
    cases expiresOutside corresponds.registered outside ex
    simp only [answerFinish, Action.wpBind, wpOnCrypto]
    refine absentFinishRule (by simp [expiredIds, agreed.phase])
      ((HashMap.lenEqZeroIff _).mp agreed.empty _) ?_
    refine ⟨reg, by simp [expiredIds, agreed.phase], ?_⟩
    exact .duplicate session m before peer same ex

theorem timeoutsEnds (corresponds : Corresponds c) (now) :
    Action.wp (timeouts now)
      (fun r t => Corresponds t ∧ ∃ expired m, Expires c.policy now expired m ∧ r = ⟨[], expired.map expiredEvent⟩ ∧
        t = trimmed c m expired) (fun _ _ => False) c := by
  simp only [timeouts, Action.wpBind, wpOnPolicy]
  refine Action.wpMono (timeoutsSpec corresponds.registered now) ?_ (fun _ _ impossible => impossible.elim)
  intro report m spec
  obtain ⟨expired, effects⟩ := report
  obtain ⟨none, ex, reg⟩ := spec
  simp only at none ex
  simp only [none, ne_eq, not_true_eq_false, if_false, Action.wpBind, Action.wpPure]
  refine expiryRule corresponds.registered corresponds.coupled ex ?_
  have coupled := coupledExpired corresponds.registered corresponds.coupled ex
  exact verifyRule reg coupled ⟨⟨reg, coupled⟩, expired, m, ex, rfl, rfl⟩

def Concluded (Move : Answer S → ServerProvider S → Prop) (result : Result (ServerProvider S)) (t : Server S) : Prop :=
  match result with
  | .ok report => Move (.ok report) t.crypto
  | .error fatal => ∃ q, Move (.error fatal.primary) q ∧ t.crypto = q.shutdown.2 ∧ t.policy.state = .closed

def Returned (Turn : Answer S → Server S → Prop) (result : Result (ServerProvider S)) (t : Server S) : Prop :=
  match result with
  | .ok report => Turn (.ok report) t
  | .error fatal => ∃ s, Turn (.error fatal.primary) s ∧ t = (failClosed fatal.primary s).2

theorem closingEnds {Turn : Answer S → Server S → Prop} {x : Step (ServerProvider S) (Report (ServerProvider S))}
    (ends : Action.wp x (Ends Turn) (Fails Turn) c) :
    Corresponds (closing x c).2 ∧ Returned Turn (closing x c).1 (closing x c).2 := by
  unfold closing
  rcases ran : x c with ⟨primary | report, t⟩
  · obtain ⟨reg, open_, turn⟩ := Action.wpError ends ran
    have closed := shutdownClosed_ t.policy
    refine ⟨⟨shutdownRegistered reg, (coupledClosed closed).mpr (shutdownEnded open_)⟩, ?_⟩
    exact ⟨t, turn, rfl⟩
  · obtain ⟨after, turn⟩ := Action.wpOk ends ran
    exact ⟨after, turn⟩

theorem returnedConcluded {Turn : Answer S → Server S → Prop} {Move : Answer S → ServerProvider S → Prop} {result t}
    (moves : ∀ {answer s}, Turn answer s → Move answer s.crypto) (returned : Returned Turn result t) :
    Concluded Move result t := by
  cases result with
  | ok report => exact moves returned
  | error fatal =>
    obtain ⟨s, turn, rfl⟩ := returned
    exact ⟨s.crypto, moves turn, rfl, shutdownClosed_ s.policy⟩

theorem helloReturns (corresponds : Corresponds c) (source message now) :
    Corresponds (receiveClientHello source message now c).2 ∧
      Returned (HelloTurn c source message.clientAttemptId message.payload now)
        (receiveClientHello source message now c).1 (receiveClientHello source message now c).2 :=
  closingEnds (helloEnds corresponds source message now)

theorem finishReturns (corresponds : Corresponds c) (source message now) :
    Corresponds (receiveClientFinish source message now c).2 ∧
      Returned (FinishTurn c source message.clientAttemptId message.payload now)
        (receiveClientFinish source message now c).1 (receiveClientFinish source message now c).2 :=
  closingEnds (finishEnds corresponds source message now)

theorem helloConcludes (corresponds : Corresponds c) (source message now) :
    Corresponds (receiveClientHello source message now c).2 ∧
      Concluded (HelloMove c.crypto source message.clientAttemptId message.payload)
        (receiveClientHello source message now c).1 (receiveClientHello source message now c).2 := by
  obtain ⟨after, returned⟩ := helloReturns corresponds source message now
  exact ⟨after, returnedConcluded helloTurnMove returned⟩

theorem finishConcludes (corresponds : Corresponds c) (source message now) :
    Corresponds (receiveClientFinish source message now c).2 ∧
      Concluded (FinishMove c source message.clientAttemptId message.payload now)
        (receiveClientFinish source message now c).1 (receiveClientFinish source message now c).2 := by
  obtain ⟨after, returned⟩ := finishReturns corresponds source message now
  exact ⟨after, returnedConcluded finishTurnMove returned⟩

theorem timeoutsReturn (corresponds : Corresponds c) (now) :
    Corresponds (checkTimeouts now c).2 ∧ ∃ expired m, Expires c.policy now expired m ∧
      checkTimeouts now c = (.ok ⟨[], expired.map expiredEvent⟩, trimmed c m expired) := by
  have ends := timeoutsEnds corresponds now
  unfold checkTimeouts closing
  rcases ran : timeouts now c with ⟨primary | report, t⟩
  · exact (Action.wpError ends ran).elim
  · obtain ⟨after, expired, m, ex, rfl, rfl⟩ := Action.wpOk ends ran
    exact ⟨after, expired, m, ex, rfl⟩

theorem timeoutsConclude (corresponds : Corresponds c) (now) :
    Corresponds (checkTimeouts now c).2 ∧
      ∃ report ids, (checkTimeouts now c).1 = .ok report ∧ report.outbound = [] ∧
        (checkTimeouts now c).2.crypto = dropping c.crypto ids := by
  obtain ⟨after, expired, m, ex, ran⟩ := timeoutsReturn corresponds now
  refine ⟨after, _, expiredIds expired, congrArg Prod.fst ran, rfl, ?_⟩
  rw [ran]

theorem shutdownLeaves (c : Server S) :
    (shutdownAll c).2 = ⟨c.policy.shutdown.2, c.crypto.shutdown.2, .closed⟩ := by
  unfold shutdownAll
  simp only
  split
  · rfl
  · split
    · rfl
    · split <;> rfl

theorem shutdownConcludes (corresponds : Corresponds c) :
    Corresponds (shutdownAll c).2 ∧ (shutdownAll c).2.crypto = c.crypto.shutdown.2 ∧
      ∃ report, (shutdownAll c).1 = .ok report := by
  have closed := shutdownClosed_ c.policy
  have registered := shutdownRegistered corresponds.registered
  have coupled : Coupled c.policy.shutdown.2 c.crypto.shutdown.2 :=
    (coupledClosed closed).mpr (coupledShutdown corresponds.coupled)
  have stable : verifyServerStable c.policy.shutdown.2 (ServerHandshakeCrypto.shutdown c.crypto).2 = .ok () :=
    coupledStable registered coupled
  have event : c.policy.shutdown.1.expired = [] ∧
      ∀ cleanup, ∃ event, closedEvent cleanup c.policy.shutdown.1.effects = some event := by
    unfold ServerHandshake.shutdown
    split
    · refine ⟨rfl, fun cleanup => ?_⟩
      simp only [closedEvent]
      split <;> exact ⟨_, rfl⟩
    · exact ⟨rfl, fun cleanup => ⟨_, rfl⟩⟩
  obtain ⟨unexpired, known⟩ := event
  obtain ⟨told, found⟩ := known (ServerHandshakeCrypto.shutdown c.crypto).1
  refine ⟨?_, ?_, ?_⟩
  · rw [shutdownLeaves]
    exact ⟨registered, coupled⟩
  · rw [shutdownLeaves]
  · unfold shutdownAll
    simp only [stable, unexpired, found, ne_eq, not_true_eq_false, if_false]
    exact ⟨_, rfl⟩

theorem stepCorresponds (corresponds : Corresponds c) (call : ServerCall (ServerProvider S)) :
    Corresponds (serverStep c call).2 := by
  cases call with
  | clientHello source message now => exact (helloConcludes corresponds source message now).1
  | clientFinish source message now => exact (finishConcludes corresponds source message now).1
  | checkTimeouts now => exact (timeoutsConclude corresponds now).1
  | shutdown => exact (shutdownConcludes corresponds).1

structure SameKeys (p q : ServerProvider S) : Prop where
  own : q.localPrivateKey = p.localPrivateKey
  allowed : q.allowedClientKeys = p.allowedClientKeys

theorem SameKeys.trans {p q r : ServerProvider S} (first : SameKeys p q) (second : SameKeys q r) : SameKeys p r :=
  ⟨second.own.trans first.own, second.allowed.trans first.allowed⟩

theorem helloKeeps {p q : ServerProvider S} {source attempt payload answer}
    (move : HelloMove p source attempt payload answer q) : SameKeys p q := by
  cases move with
  | refused e limit => exact ⟨rfl, rfl⟩
  | dropped ids events reason => exact ⟨rfl, rfl⟩
  | repeated ids events id context found => exact ⟨rfl, rfl⟩
  | broken ids id e q fresh =>
    cases fresh
    exact ⟨rfl, rfl⟩
  | welcomed ids events id prepared q fresh =>
    cases fresh
    exact ⟨rfl, rfl⟩

theorem finishKeeps {q : ServerProvider S} {source attempt payload now answer}
    (move : FinishMove c source attempt payload now answer q) : SameKeys c.crypto q := by
  cases move with
  | dropped expired m reason ex reg decision => exact ⟨rfl, rfl⟩
  | duplicate session state peer same => exact ⟨rfl, rfl⟩
  | failed expired id context e q permitted answer => cases answer <;> exact ⟨rfl, rfl⟩
  | unconfirmed expired id context plain permitted opens => exact ⟨rfl, rfl⟩
  | established expired id context plain record out permitted opens recorded written => exact ⟨rfl, rfl⟩

theorem shutdownKeeps (p : ServerProvider S) : SameKeys p p.shutdown.2 := by
  unfold ServerProvider.shutdown
  split <;> exact ⟨rfl, rfl⟩

theorem concludedKeeps {Move : Answer S → ServerProvider S → Prop} {p : ServerProvider S} {result t}
    (concluded : Concluded Move result t) (keeps : ∀ {answer q}, Move answer q → SameKeys p q) : SameKeys p t.crypto := by
  cases result with
  | ok report => exact keeps concluded
  | error fatal =>
    obtain ⟨q, move, shut, _⟩ := concluded
    rw [shut]
    exact (keeps move).trans (shutdownKeeps q)

theorem stepKeeps (corresponds : Corresponds c) (call : ServerCall (ServerProvider S)) :
    SameKeys c.crypto (serverStep c call).2.crypto := by
  cases call with
  | clientHello source message now => exact concludedKeeps (helloConcludes corresponds source message now).2 helloKeeps
  | clientFinish source message now =>
    exact concludedKeeps (finishConcludes corresponds source message now).2 finishKeeps
  | checkTimeouts now =>
    obtain ⟨_, expired, m, _, ran⟩ := timeoutsReturn corresponds now
    simp only [serverStep, ran]
    exact ⟨rfl, rfl⟩
  | shutdown =>
    obtain ⟨_, shut, _⟩ := shutdownConcludes corresponds
    simp only [serverStep, shut]
    exact shutdownKeeps c.crypto

/- Errors that would say the two layers, or a layer and itself, disagree. -/
def bookkeeping : CoordinatorPrimaryError → Bool
  | .invariant _ => true
  | .crypto (.attemptIdMismatch _ _) => true
  | .crypto (.candidateIdMismatch _ _) => true
  | _ => false

theorem helloErrors {p q : ServerProvider S} {source attempt payload e}
    (move : HelloMove p source attempt payload (.error e) q) : bookkeeping e = false := by
  cases move with
  | refused e limit => rfl
  | broken ids id e q fresh =>
    cases fresh
    rfl

theorem finishErrors {q : ServerProvider S} {source attempt payload now e}
    (move : FinishMove c source attempt payload now (.error e) q) : bookkeeping e = false := by
  cases move with
  | duplicate session state peer same => rfl
  | failed expired id context e q permitted answer => cases answer <;> rfl

theorem concludedError {Move : Answer S → ServerProvider S → Prop} {result : Result (ServerProvider S)}
    {t : Server S} {fatal} (concluded : Concluded Move result t) (failed : result = .error fatal) :
    ∃ q, Move (.error fatal.primary) q ∧ t.crypto = q.shutdown.2 ∧ t.policy.state = .closed := by
  subst failed
  exact concluded

theorem stepErrors (corresponds : Corresponds c) (call : ServerCall (ServerProvider S)) {fatal}
    (failed : (serverStep c call).1 = .error fatal) : bookkeeping fatal.primary = false := by
  cases call with
  | clientHello source message now =>
    obtain ⟨q, move, _⟩ := concludedError (helloConcludes corresponds source message now).2 failed
    exact helloErrors move
  | clientFinish source message now =>
    obtain ⟨q, move, _⟩ := concludedError (finishConcludes corresponds source message now).2 failed
    exact finishErrors move
  | checkTimeouts now =>
    obtain ⟨_, report, ids, done, _⟩ := timeoutsConclude corresponds now
    exact absurd (done.symm.trans failed) (by simp)
  | shutdown =>
    obtain ⟨_, _, report, done⟩ := shutdownConcludes corresponds
    exact absurd (done.symm.trans failed) (by simp)

def policyPairs (h : ServerHandshake) : Set (CandidateId × ClientAttemptId) :=
  {pair | ∃ b, h.candidateById.get pair.1 = some b ∧ b.clientAttemptId = pair.2}

def providerPairs (p : ServerProvider S) : Set (CandidateId × ClientAttemptId) :=
  {pair | ∃ context, p.candidates.get pair.1 = some context ∧ context.attempt = pair.2}

theorem listeningPairs {h : ServerHandshake} {p : ServerProvider S} (coupled : Listening h p) :
    policyPairs h = providerPairs p := by
  ext ⟨id, attempt⟩
  have pair := coupled.pairs id
  constructor
  · intro spec
    obtain ⟨b, entry, same⟩ := spec
    obtain ⟨held, found, agrees, _⟩ := listedContext coupled entry
    exact ⟨_, found, agrees.trans same⟩
  · intro spec
    obtain ⟨context, found, same⟩ := spec
    rw [ServerProvider.candidateAttempt, found, Option.map_some, eq_comm, Option.map_eq_some_iff] at pair
    obtain ⟨b, entry, agrees⟩ := pair
    exact ⟨b, entry, agrees.trans same⟩

theorem builtCorresponds (policy sources ids localPrivateKey allowedClientKeys hasher rng) :
    ∃ c : Server S, build (ServerHandshake.new policy sources ids)
      (ServerProvider.new localPrivateKey allowedClientKeys hasher rng) = .ok c ∧
      c = ⟨.new policy sources ids, .new localPrivateKey allowedClientKeys hasher rng, .running⟩ ∧ Corresponds c := by
  refine ⟨_, rfl, rfl, newRegistered policy sources ids, ?_⟩
  rw [coupledListening rfl]
  refine ⟨rfl, rfl, rfl, ?_, ?_⟩
  · intro id
    simp [ServerProvider.candidateAttempt, ServerProvider.new, ServerHandshake.new]
  · intro id context found
    simp [ServerProvider.new] at found

theorem candidateCorrespondence (policy sources ids localPrivateKey allowedClientKeys hasher rng) :
    ∃ c : Server S, build (ServerHandshake.new policy sources ids)
      (ServerProvider.new localPrivateKey allowedClientKeys hasher rng) = .ok c ∧
      ∀ calls : List (ServerCall (ServerProvider S)), let past := run serverStep c calls
        (past.2.policy.state = .listening → policyPairs past.2.policy = providerPairs past.2.crypto ∧
          ∀ id context, past.2.crypto.candidates.get id = some context →
            ∃ held, context = .pending held ∧ held.clientFinish = none ∧ held.serverFinish = none) ∧
        (∀ session, past.2.policy.state = .established session → past.2.crypto.candidates.len = 0 ∧
          ∃ held, past.2.crypto.established = some (session.completedCandidateId, .established held) ∧
            held.attempt = session.clientAttemptId ∧ held.metadata = session.metadata) ∧
        ∀ fatal, Except.error fatal ∈ past.1 → bookkeeping fatal.primary = false := by
  obtain ⟨c, built, _, start⟩ := @builtCorresponds S policy sources ids localPrivateKey allowedClientKeys hasher rng
  refine ⟨c, built, ?_⟩
  intro calls past
  have reached : Corresponds past.2 :=
    @runInvariant _ _ _ serverStep Corresponds (fun _ call ok => stepCorresponds ok call) c start calls
  refine ⟨?_, ?_, ?_⟩
  · intro listening
    have held := (coupledListening listening).mp reached.coupled
    exact ⟨listeningPairs held, held.pending⟩
  · intro session established
    have agreed := (coupledEstablished established).mp reached.coupled
    exact ⟨agreed.empty, agreed.context⟩
  · intro fatal member
    have outputs := @runOutputs _ _ _ serverStep Corresponds
      (fun result => ∀ fatal, result = .error fatal → bookkeeping fatal.primary = false)
      (fun _ call ok => stepCorresponds ok call) (fun _ call ok _ failed => stepErrors ok call failed) c start calls
    exact outputs _ member fatal rfl

end
end Crabnet.ServerCorrespondence
