import Crabnet.ServerCorrespondence

/-! One peer's messages and another peer's candidate. A hello or a finish that
establishes nothing leaves every other candidate that is still in time as it was,
in both layers; a message that the policy drops costs the provider only what has
expired; and the client does not move for a message that it does not wait for. -/
namespace Crabnet.CandidateIsolation
open MachineWord SessionTypes Fallible HashTable CryptoBoundary PendingManager ServerPolicy ServerRegistry
open ServerOutcomes HandshakeTypes ServerCoordinator SnowBoundary NoiseServer NoiseServerOutcomes
open ServerCoupling ServerCorrespondence CoordinatorStability

section
variable {S : Snow} {c : Server S}

structure Holds (c : Server S) (source : SocketAddr) (record : PendingCandidate) (attempt : ClientAttemptId)
    (context : PendingContext S) : Prop where
  pending : c.policy.pending.pendingBySource.get source = some record
  entry : c.policy.candidateById.get record.id = some ⟨record.id, source, attempt⟩
  context : c.crypto.candidates.get record.id = some (.pending context)

theorem recordHolds {source record} (corresponds : Corresponds c) (listening : c.policy.state = .listening)
    (found : c.policy.pending.pendingBySource.get source = some record) :
    ∃ attempt context, Holds c source record attempt context ∧ context.attempt = attempt := by
  obtain ⟨attempt, entry⟩ := corresponds.registered.forward source record found
  obtain ⟨context, held, same, _⟩ := listedContext ((coupledListening listening).mp corresponds.coupled) entry
  exact ⟨attempt, context, ⟨found, entry, held⟩, same⟩

theorem expiredExact {h m : ServerHandshake} {now expired} (reg : Registered h) (middle : Registered m)
    (ex : Expires h now expired m) (id : CandidateId) :
    id ∈ expiredIds expired ↔
      ∃ source record, h.pending.pendingBySource.get source = some record ∧ record.id = id ∧ record.deadline ≤ now := by
  constructor
  · intro listed
    obtain ⟨e, member, rfl⟩ := List.mem_map.mp listed
    obtain ⟨record, found, same, late⟩ := ex.due e member
    exact ⟨e.source, record, found, same, late⟩
  · intro spec
    obtain ⟨source, record, found, rfl, late⟩ := spec
    obtain ⟨attempt, entry⟩ := reg.forward source record found
    by_contra unlisted
    -- an entry that was not listed would still have a record
    have kept := (ex.registry record.id).trans (if_neg unlisted)
    rw [entry] at kept
    obtain ⟨_, other, left, _⟩ := middle.backward _ _ kept
    rw [ex.manager, found] at left
    simp [Option.filter, Nat.not_lt_of_le late] at left

section Frames
variable {m : ServerHandshake} {now : Instant} {expired : List ExpiredServerCandidate} {source other : SocketAddr}
  {record : PendingCandidate} {attempt attempt' : ClientAttemptId} {context : PendingContext S}

theorem inTimeUnlisted (reg : Registered c.policy) (ex : Expires c.policy now expired m)
    (holds : Holds c other record attempt context) (early : now < record.deadline) : record.id ∉ expiredIds expired := by
  intro listed
  obtain ⟨e, member, same⟩ := List.mem_map.mp listed
  obtain ⟨late, found, sameId, due⟩ := ex.due e member
  have owner := sourceOfId reg found holds.pending (sameId.trans same)
  rw [owner, holds.pending] at found
  cases Option.some.inj found
  exact Nat.not_le_of_lt early due

theorem holdsTrimmed (reg : Registered c.policy) (ex : Expires c.policy now expired m)
    (holds : Holds c other record attempt context) (early : now < record.deadline) :
    Holds (trimmed c m expired) other record attempt context := by
  have unlisted := inTimeUnlisted reg ex holds early
  refine ⟨?_, ?_, ?_⟩
  · rw [ex.manager, holds.pending]
    simp [Option.filter, early]
  · exact (ex.registry record.id).trans ((if_neg unlisted).trans holds.entry)
  · rw [getDropping, if_neg unlisted]
    exact holds.context

theorem idOther {id} (owned : Owned c.policy source (bindingOf id source attempt')) (different : other ≠ source)
    (holds : Holds c other record attempt context) : record.id ≠ id := by
  intro same
  have entry : c.policy.candidateById.get id = some (bindingOf id source attempt') := owned.entry
  rw [← same, holds.entry] at entry
  exact different (congrArg ServerCandidate.source (Option.some.inj entry))

theorem holdsWithout {id ids} (owned : Owned c.policy source (bindingOf id source attempt')) (different : other ≠ source)
    (holds : Holds c other record attempt context) (only : ∀ i ∈ ids, i = id) :
    Holds {c with policy := without c.policy (bindingOf id source attempt'), crypto := dropping c.crypto ids} other
      record attempt context := by
  have apart := idOther owned different holds
  refine ⟨?_, ?_, ?_⟩
  · simp only [without, bindingOf, HashMap.getRemove, if_neg different]
    exact holds.pending
  · simp only [without, bindingOf, HashMap.getRemove, if_neg apart]
    exact holds.entry
  · rw [getDropping, if_neg fun listed => apart (only _ listed)]
    exact holds.context

theorem holdsAdmitted {now deadline next} (reg : Registered c.policy) (different : other ≠ source)
    (holds : Holds c other record attempt context) {q : ServerProvider S}
    (crypto : ∀ id, id ≠ ⟨c.policy.pending.nextCandidateId⟩ → q.candidates.get id = c.crypto.candidates.get id) :
    Holds {c with policy := admitted c.policy source attempt' now deadline next, crypto := q} other record attempt
      context := by
  have below := reg.below other record holds.pending
  have apart : record.id ≠ ⟨c.policy.pending.nextCandidateId⟩ := by
    intro same
    rw [same] at below
    exact Nat.lt_irrefl _ below
  refine ⟨?_, ?_, ?_⟩
  · rw [admitted, HashMap.getInsert, if_neg different]
    exact holds.pending
  · rw [admitted, HashMap.getInsert, if_neg apart]
    exact holds.entry
  · rw [crypto _ apart]
    exact holds.context

theorem freshElsewhere {p q : ServerProvider S} {id payload prepared}
    (fresh : FreshHello p id attempt payload (.ok (.success prepared)) q) (id') (apart : id' ≠ id) :
    q.candidates.get id' = p.candidates.get id' := by
  cases fresh with
  | welcomed transport hash remote out prologue built allowed derived =>
    rw [ServerProvider.admitting, HashMap.getInsert, if_neg apart]

theorem helloHolds {payload report t} (reg : Registered c.policy)
    (turn : HelloTurn c source attempt' payload now (.ok report) t) (different : other ≠ source)
    (holds : Holds c other record attempt context) (early : now < record.deadline) :
    Holds t other record attempt context := by
  cases turn with
  | dropped expired m reason ex middle step => exact holdsTrimmed reg ex holds early
  | repeated expired m id context' ex middle owned found same => exact holdsTrimmed reg ex holds early
  | conflicting expired m id ex middle owned =>
    have kept := @holdsWithout S (trimmed c m expired) source other record attempt attempt' context id [id] owned
      different (holdsTrimmed reg ex holds early) (by simp)
    rw [droppingMore] at kept
    exact kept
  | rejected expired m deadline next ex middle listening free =>
    have swept := holdsTrimmed reg ex holds early
    have grown := @holdsAdmitted S (trimmed c m expired) source other record attempt attempt' context now deadline
      next middle different swept (dropping c.crypto (expiredIds expired)) (fun _ _ => rfl)
    refine @holdsWithout S _ source other record attempt attempt' context _ [] ?_ different grown (by simp)
    exact ⟨listening, by simp [admitted, bindingOf, HashMap.getInsert], rfl⟩
  | welcomed expired m deadline next prepared q ex middle listening free fresh =>
    exact holdsAdmitted middle different (holdsTrimmed reg ex holds early) (freshElsewhere fresh)

theorem finishHolds {payload report t} (reg : Registered c.policy)
    (turn : FinishTurn c source attempt' payload now (.ok report) t)
    (silent : ∀ peer metadata, ServerCoordinatorEvent.sessionEstablished peer metadata ∉ report.events)
    (different : other ≠ source) (holds : Holds c other record attempt context) (early : now < record.deadline) :
    Holds t other record attempt context := by
  cases turn with
  | dropped expired m reason ex middle decision => exact holdsTrimmed reg ex holds early
  | unconfirmed expired m id context' plain allowed opens =>
    have swept := holdsTrimmed reg allowed.expires holds early
    have read : Holds {trimmed c m expired with
        crypto := opening (dropping c.crypto (expiredIds expired)) context' payload} other record attempt context :=
      ⟨swept.pending, swept.entry, swept.context⟩
    exact holdsWithout allowed.owned different read (by simp)
  | established expired m id context' plain record' out t allowed opens recorded written state =>
    exact absurd (List.mem_append_right _ (List.mem_singleton.mpr rfl)) (silent source context'.metadata)

end Frames

theorem stepDropped {m t : ServerHandshake} {source attempt now effects reason}
    (step : HelloStep m source attempt now effects t) (drops : effects = [.dropped source reason]) : t = m := by
  cases step with
  | unavailable | active | stale | resent | full => rfl
  | admitted deadline next listening free advance timely => simp at drops

theorem helloDrops {source message now report m reason} (corresponds : Corresponds c)
    (ran : ServerHandshake.handleValidClientHello source message.clientAttemptId now c.policy = (.ok report, m))
    (drops : report.effects = [.dropped source reason]) :
    Expires c.policy now report.expired m ∧ Registered m ∧ receiveClientHello source message now c =
      (.ok (dropEvent (report.expired.map expiredEvent) source reason), trimmed c m report.expired) := by
  obtain ⟨m', ex, reg, step, registered⟩ :=
    Action.wpOk (helloSpec corresponds.registered source message.clientAttemptId now) ran
  cases stepDropped step drops
  refine ⟨ex, reg, ?_⟩
  have coupled := coupledExpired corresponds.registered corresponds.coupled ex
  have done : hello source message now c =
      (.ok (dropEvent (report.expired.map expiredEvent) source reason), trimmed c m report.expired) := by
    refine Action.wpOutcome (R := fun outcome => outcome = _) ?_
    simp only [hello, Action.wpBind, wpOnPolicy]
    refine Action.wpOfOk ran ?_
    refine expiryRule corresponds.registered corresponds.coupled ex ?_
    simp only [drops, ne_eq, not_true_eq_false, if_false, Action.wpBind, Action.wpPure]
    exact verifyRule reg coupled rfl
  simp only [receiveClientHello, closing, done]

theorem finishDrops {source message now report m reason} (corresponds : Corresponds c)
    (ran : ServerHandshake.precheckClientFinish source message.clientAttemptId now c.policy = (.ok report, m))
    (drops : report.decision = .drop reason) :
    Expires c.policy now report.expired m ∧ Registered m ∧ receiveClientFinish source message now c =
      (.ok (dropEvent (report.expired.map expiredEvent) source reason), trimmed c m report.expired) := by
  obtain ⟨ex, reg, _⟩ := Action.wpOk (precheckSpec corresponds.registered source message.clientAttemptId now) ran
  refine ⟨ex, reg, ?_⟩
  have coupled := coupledExpired corresponds.registered corresponds.coupled ex
  have done : finish source message now c =
      (.ok (dropEvent (report.expired.map expiredEvent) source reason), trimmed c m report.expired) := by
    refine Action.wpOutcome (R := fun outcome => outcome = _) ?_
    simp only [finish, Action.wpBind, wpOnPolicy]
    refine Action.wpOfOk ran ?_
    refine expiryRule corresponds.registered corresponds.coupled ex ?_
    simp only [drops, Action.wpBind, Action.wpPure]
    exact verifyRule reg coupled rfl
  simp only [receiveClientFinish, closing, done]

def sender : ServerCall (ServerProvider S) → Option (SocketAddr × Instant)
  | .clientHello source _ now | .clientFinish source _ now => some (source, now)
  | .checkTimeouts _ | .shutdown => none

def PolicyDrops (h : ServerHandshake) (reason : ServerDropReason) : ServerCall (ServerProvider S) → Prop
  | .clientHello source message now => ∃ report m,
      ServerHandshake.handleValidClientHello source message.clientAttemptId now h = (.ok report, m) ∧
        report.effects = [.dropped source reason]
  | .clientFinish source message now => ∃ report m,
      ServerHandshake.precheckClientFinish source message.clientAttemptId now h = (.ok report, m) ∧
        report.decision = .drop reason
  | .checkTimeouts _ | .shutdown => False

theorem callDrops {call : ServerCall (ServerProvider S)} {reason source now} (corresponds : Corresponds c)
    (drops : PolicyDrops c.policy reason call) (from_ : sender call = some (source, now)) :
    ∃ expired m, Expires c.policy now expired m ∧ Registered m ∧
      serverStep c call = (.ok (dropEvent (expired.map expiredEvent) source reason), trimmed c m expired) := by
  cases call with
  | clientHello source message now =>
    cases Option.some.inj from_
    obtain ⟨report, m, ran, effects⟩ := drops
    exact ⟨report.expired, m, helloDrops corresponds ran effects⟩
  | clientFinish source message now =>
    cases Option.some.inj from_
    obtain ⟨report, m, ran, decision⟩ := drops
    exact ⟨report.expired, m, finishDrops corresponds ran decision⟩
  | checkTimeouts now => contradiction
  | shutdown => contradiction

theorem callHolds {call : ServerCall (ServerProvider S)} {source now report other record attempt context}
    (corresponds : Corresponds c) (from_ : sender call = some (source, now)) (ok : (serverStep c call).1 = .ok report)
    (silent : ∀ peer metadata, ServerCoordinatorEvent.sessionEstablished peer metadata ∉ report.events)
    (different : other ≠ source) (holds : Holds c other record attempt context) (early : now < record.deadline) :
    Holds (serverStep c call).2 other record attempt context := by
  cases call with
  | clientHello source message now =>
    cases Option.some.inj from_
    have turn := (helloReturns corresponds source message now).2
    unfold serverStep at ok ⊢
    simp only at ok
    rw [ok] at turn
    exact helloHolds corresponds.registered turn different holds early
  | clientFinish source message now =>
    cases Option.some.inj from_
    have turn := (finishReturns corresponds source message now).2
    unfold serverStep at ok ⊢
    simp only at ok
    rw [ok] at turn
    exact finishHolds corresponds.registered turn silent different holds early
  | checkTimeouts now => contradiction
  | shutdown => contradiction

end

section Client
open ClientPolicy ClientCoordinator
variable {C : Type} [ClientHandshakeCrypto C]

/- A message that the client does not wait for: from elsewhere, or, while its phase
lasts, of another kind or for another attempt. -/
def Foreign (h : ClientHandshake) (source : SocketAddr) (attempt : ClientAttemptId) (kind : ClientInboundKind)
    (now : Instant) : Prop :=
  source ≠ h.serverEndpoint ∨ ∀ current deadline expected, h.state.phase = some (current, deadline, expected) →
    now < deadline ∧ (kind ≠ expected ∨ attempt ≠ current)

theorem foreignDropped {h : ClientHandshake} {source attempt kind now}
    (foreign : Foreign h source attempt (ClientHandshake.inboundKind kind) now) :
    ∃ reason, h.precheck source attempt kind now = (.drop reason, h) := by
  unfold ClientHandshake.precheck
  split
  · exact ⟨_, rfl⟩
  · rename_i home
    split
    · exact ⟨_, rfl⟩
    · rename_i current deadline expected pending
      rcases foreign with elsewhere | waiting
      · exact absurd elsewhere home
      obtain ⟨early, other⟩ := waiting current deadline expected pending
      rw [if_neg (Nat.not_le_of_lt early)]
      split
      · exact ⟨_, rfl⟩
      · rename_i same
        rcases other with kind | attempt
        · exact absurd kind same
        · rw [if_pos attempt]
          exact ⟨_, rfl⟩

theorem foreignHello {source message now} (c : ClientHandshakeCoordinator C)
    (foreign : Foreign c.policy source message.clientAttemptId .serverHello now) :
    ∃ reason, receiveServerHello source message now c = (.ok ⟨[], [.dropped reason]⟩, c) := by
  obtain ⟨reason, ran⟩ := @foreignDropped c.policy source message.clientAttemptId .serverHello now foreign
  refine ⟨reason, ?_⟩
  have done : serverHello source message now c = (.ok ⟨[], [.dropped reason]⟩, c) := by
    refine Action.wpOutcome (R := fun outcome => outcome = _) ?_
    simp only [serverHello, askPolicy, Action.wpBind, Action.wpTotal, ran, Action.wpPure]
  simp only [receiveServerHello, ClientCoordinator.closing, done]

theorem foreignFinish {source message now} (c : ClientHandshakeCoordinator C)
    (foreign : Foreign c.policy source message.clientAttemptId .serverFinish now) :
    ∃ reason, receiveServerFinish source message now c = (.ok ⟨[], [.dropped reason]⟩, c) := by
  obtain ⟨reason, ran⟩ := @foreignDropped c.policy source message.clientAttemptId .serverFinish now foreign
  refine ⟨reason, ?_⟩
  have done : serverFinish source message now c = (.ok ⟨[], [.dropped reason]⟩, c) := by
    refine Action.wpOutcome (R := fun outcome => outcome = _) ?_
    simp only [serverFinish, askPolicy, Action.wpBind, Action.wpTotal, ran, Action.wpPure]
  simp only [receiveServerFinish, ClientCoordinator.closing, done]

end Client

theorem candidateIsolation {S : Snow} (policy sources ids localPrivateKey allowedClientKeys hasher rng) :
    (∃ c : Server S, build (ServerHandshake.new policy sources ids)
      (ServerProvider.new localPrivateKey allowedClientKeys hasher rng) = .ok c ∧
      ∀ calls : List (ServerCall (ServerProvider S)), let c := (run serverStep c calls).2
        (c.policy.state = .listening →
          (∀ other record, c.policy.pending.pendingBySource.get other = some record →
            ∃ attempt context, Holds c other record attempt context ∧ context.attempt = attempt) ∧
          ∀ call source now report, sender call = some (source, now) → (serverStep c call).1 = .ok report →
            (∀ peer metadata, ServerCoordinatorEvent.sessionEstablished peer metadata ∉ report.events) →
            ∀ other record attempt context, other ≠ source → now < record.deadline →
              Holds c other record attempt context → Holds (serverStep c call).2 other record attempt context) ∧
        ∀ call source now reason, sender call = some (source, now) → PolicyDrops c.policy reason call →
          ∃ events expired, (serverStep c call).1 = .ok ⟨[], events ++ [.dropped source reason]⟩ ∧
            (serverStep c call).2.crypto = dropping c.crypto expired ∧
            ∀ id, id ∈ expired ↔ ∃ other record, c.policy.pending.pendingBySource.get other = some record ∧
              record.id = id ∧ record.deadline ≤ now) ∧
    ∀ (c : ClientCoordinator.ClientHandshakeCoordinator (NoiseClient.ClientProvider S)) source now,
      (∀ message, Foreign c.policy source message.clientAttemptId .serverHello now →
        (ClientCoordinator.receiveServerHello source message now c).2 = c) ∧
      ∀ message, Foreign c.policy source message.clientAttemptId .serverFinish now →
        (ClientCoordinator.receiveServerFinish source message now c).2 = c := by
  refine ⟨?_, ?_⟩
  · obtain ⟨c, built, _, start⟩ := @builtCorresponds S policy sources ids localPrivateKey allowedClientKeys hasher rng
    refine ⟨c, built, ?_⟩
    intro calls c
    have reached : Corresponds c :=
      @runInvariant _ _ _ serverStep Corresponds (fun _ call ok => stepCorresponds ok call) _ start calls
    refine ⟨?_, ?_⟩
    · intro listening
      refine ⟨fun other record found => recordHolds reached listening found, ?_⟩
      intro call source now report from_ ok silent other record attempt context different early holds
      exact callHolds reached from_ ok silent different holds early
    · intro call source now reason from_ drops
      obtain ⟨expired, m, ex, reg, done⟩ := callDrops reached drops from_
      rw [done]
      exact ⟨expired.map expiredEvent, expiredIds expired, rfl, rfl, expiredExact reached.registered reg ex⟩
  · intro c source now
    refine ⟨?_, ?_⟩
    · intro message foreign
      obtain ⟨reason, done⟩ := foreignHello c foreign
      rw [done]
    · intro message foreign
      obtain ⟨reason, done⟩ := foreignFinish c foreign
      rw [done]

end Crabnet.CandidateIsolation
