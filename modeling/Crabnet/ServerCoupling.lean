import Crabnet.CoordinatorStability
import Crabnet.NoiseServerOutcomes
import Crabnet.ServerOutcomes

/-! The policy and the Noise provider side by side. While the server listens they
hold the same attempts under the same candidate ids; every removal and admission
of one layer, followed by its counterpart in the other, keeps them so. -/
namespace Crabnet.ServerCoupling
open MachineWord SessionTypes Fallible HashTable CryptoBoundary PendingManager ServerPolicy ServerRegistry
open ServerOutcomes HandshakeTypes ServerCoordinator SnowBoundary NoiseServer NoiseServerOutcomes

section
variable {S : Snow}

abbrev Server (S : Snow) := ServerHandshakeCoordinator (ServerProvider S)

structure Listening (h : ServerHandshake) (p : ServerProvider S) : Prop where
  phase : p.phase = .running
  uncommitted : p.pendingCommit = none
  unestablished : p.established = none
  pairs : ∀ id, p.candidateAttempt id = (h.candidateById.get id).map (·.clientAttemptId)
  pending : ∀ id context, p.candidates.get id = some context →
    ∃ held, context = .pending held ∧ held.clientFinish = none ∧ held.serverFinish = none

structure Agreed (session : EstablishedServerSession) (p : ServerProvider S) : Prop where
  phase : p.phase = .established
  uncommitted : p.pendingCommit = none
  empty : p.candidates.len = 0
  context : ∃ held, p.established = some (session.completedCandidateId, .established held) ∧
    held.attempt = session.clientAttemptId ∧ held.metadata = session.metadata

structure Ended (p : ServerProvider S) : Prop where
  phase : p.phase = .closed
  uncommitted : p.pendingCommit = none
  unestablished : p.established = none
  empty : p.candidates.len = 0

def Coupled (h : ServerHandshake) (p : ServerProvider S) : Prop :=
  match h.state with
  | .listening => Listening h p
  | .established session => Agreed session p
  | .closed => Ended p

structure Corresponds (c : Server S) : Prop where
  registered : Registered c.policy
  coupled : Coupled c.policy c.crypto

theorem coupledListening {h : ServerHandshake} {p : ServerProvider S} (listening : h.state = .listening) :
    Coupled h p ↔ Listening h p := by
  simp [Coupled, listening]

theorem coupledEstablished {h : ServerHandshake} {p : ServerProvider S} {session}
    (established : h.state = .established session) : Coupled h p ↔ Agreed session p := by
  simp [Coupled, established]

theorem coupledClosed {h : ServerHandshake} {p : ServerProvider S} (closed : h.state = .closed) :
    Coupled h p ↔ Ended p := by
  simp [Coupled, closed]

theorem closedHeld {h : ServerHandshake} {p : ServerProvider S} {id context} (coupled : Coupled h p)
    (closed : h.state = .closed) (found : p.candidates.get id = some context) : False := by
  rw [(HashMap.lenEqZeroIff _).mp ((coupledClosed closed).mp coupled).empty] at found
  contradiction

theorem coupledPhase {h : ServerHandshake} {p : ServerProvider S} (coupled : Coupled h p) :
    p.phase = expectedPhase h.stateName := by
  unfold ServerHandshake.stateName
  cases state : h.state with
  | listening => exact ((coupledListening state).mp coupled).phase
  | established session => exact ((coupledEstablished state).mp coupled).phase
  | closed => exact ((coupledClosed state).mp coupled).phase

theorem closedPhase {h : ServerHandshake} {p : ServerProvider S} (coupled : Coupled h p) :
    h.state = .closed ↔ p.phase = .closed := by
  rw [coupledPhase coupled]
  cases state : h.state <;> simp [ServerHandshake.stateName, expectedPhase, state]

theorem listedContext {h : ServerHandshake} {p : ServerProvider S} {id b} (coupled : Listening h p)
    (entry : h.candidateById.get id = some b) :
    ∃ held, p.candidates.get id = some (.pending held) ∧ held.attempt = b.clientAttemptId ∧
      held.clientFinish = none ∧ held.serverFinish = none := by
  have pair := coupled.pairs id
  rw [entry, Option.map_some, ServerProvider.candidateAttempt, Option.map_eq_some_iff] at pair
  obtain ⟨context, found, same⟩ := pair
  obtain ⟨held, rfl, unfinished, unanswered⟩ := coupled.pending id context found
  exact ⟨held, found, same, unfinished, unanswered⟩

theorem unlistedContext {h : ServerHandshake} {p : ServerProvider S} {id} (coupled : Listening h p)
    (absent : h.candidateById.get id = none) : p.candidates.get id = none := by
  have pair := coupled.pairs id
  rw [absent, Option.map_none, ServerProvider.candidateAttempt, Option.map_eq_none_iff] at pair
  exact pair

theorem listeningSizes {h : ServerHandshake} {p : ServerProvider S} (coupled : Listening h p) :
    h.candidateById.len = p.candidates.len := by
  apply HashMap.lenEqOfBijection (fun e => e.1)
  · intro a _ b _ same
    exact same
  · intro id
    constructor
    · intro spec
      obtain ⟨e, member, rfl⟩ := spec
      rw [HashMap.memIter] at member
      obtain ⟨held, found, _⟩ := listedContext coupled member
      exact ⟨_, found⟩
    · intro spec
      obtain ⟨context, found⟩ := spec
      cases entry : h.candidateById.get id with
      | none =>
        rw [unlistedContext coupled entry] at found
        contradiction
      | some b => exact ⟨⟨id, b⟩, (HashMap.memIter _ _).mpr entry, rfl⟩

theorem coupledStable {h : ServerHandshake} {p : ServerProvider S} (reg : Registered h) (coupled : Coupled h p) :
    verifyServerStable h p = .ok () := by
  cases state : h.state with
  | listening =>
    have held := (coupledListening state).mp coupled
    have sizes_ : h.pendingCandidateCount = p.candidates.len := (sizes reg).trans (listeningSizes held)
    simp [verifyServerStable, ServerHandshake.stateName, state, ServerHandshakeCrypto.nonSecretStatus,
      ServerProvider.nonSecretStatus, expectedPhase, expectedShape, held.phase, held.uncommitted,
      held.unestablished, sizes_]
  | established session =>
    have held := (coupledEstablished state).mp coupled
    obtain ⟨context, found, _⟩ := held.context
    simp [verifyServerStable, ServerHandshake.stateName, state, ServerHandshakeCrypto.nonSecretStatus,
      ServerProvider.nonSecretStatus, expectedPhase, expectedShape, held.phase, held.uncommitted, held.empty,
      found]
  | closed =>
    have held := (coupledClosed state).mp coupled
    simp [verifyServerStable, ServerHandshake.stateName, state, ServerHandshakeCrypto.nonSecretStatus,
      ServerProvider.nonSecretStatus, expectedPhase, expectedShape, held.phase, held.uncommitted, held.empty,
      held.unestablished]

theorem coupledDropping {h m : ServerHandshake} {p : ServerProvider S} {ids : List CandidateId}
    (coupled : Listening h p)
    (registry : ∀ id, m.candidateById.get id = if id ∈ ids then none else h.candidateById.get id) :
    Listening m (dropping p ids) := by
  refine ⟨coupled.phase, coupled.uncommitted, coupled.unestablished, ?_, ?_⟩
  · intro id
    rw [ServerProvider.candidateAttempt, getDropping, registry]
    split
    · rfl
    · exact coupled.pairs id
  · intro id context found
    rw [getDropping] at found
    split at found <;> try contradiction
    exact coupled.pending id context found

def expiredIds (expired : List ExpiredServerCandidate) : List CandidateId := expired.map (·.candidateId)

theorem expiresOutside {h m : ServerHandshake} {now expired} (reg : Registered h) (outside : h.state ≠ .listening)
    (ex : Expires h now expired m) : expired = [] := by
  cases expired with
  | nil => rfl
  | cons e rest =>
    have listed := ex.listed e List.mem_cons_self
    rw [(HashMap.lenEqZeroIff _).mp (reg.emptyOutside outside).2] at listed
    contradiction

theorem coupledExpired {h m : ServerHandshake} {p : ServerProvider S} {now expired} (reg : Registered h)
    (coupled : Coupled h p) (ex : Expires h now expired m) : Coupled m (dropping p (expiredIds expired)) := by
  by_cases listening : h.state = .listening
  · rw [coupledListening (ex.state.trans listening)]
    exact coupledDropping ((coupledListening listening).mp coupled) ex.registry
  · cases expiresOutside reg listening ex
    unfold Coupled at coupled ⊢
    rw [ex.state]
    cases state : h.state with
    | listening => exact absurd state listening
    | established session =>
      rw [state] at coupled
      exact coupled
    | closed =>
      rw [state] at coupled
      exact coupled

theorem coupledWithout {h : ServerHandshake} {p : ServerProvider S} {b : ServerCandidate} (coupled : Listening h p) :
    Listening (without h b) (dropping p [b.candidateId]) :=
  coupledDropping coupled fun id => by simp [without, HashMap.getRemove]

theorem ownedUnique {h : ServerHandshake} {source b b'} (reg : Registered h) (left : Owned h source b)
    (right : Owned h source b') : b = b' := by
  obtain ⟨c, found, same⟩ := ownedPending reg left
  obtain ⟨c', found', same'⟩ := ownedPending reg right
  cases Option.some.inj (found.symm.trans found')
  have entry := left.entry
  rw [← same, same', right.entry] at entry
  exact (Option.some.inj entry).symm

theorem abortRule {h : ServerHandshake} {source id attempt} {Q : Unit → ServerHandshake → Prop}
    {E : ServerStateError → ServerHandshake → Prop} (reg : Registered h)
    (owned : Owned h source (bindingOf id source attempt))
    (post : Registered (without h (bindingOf id source attempt)) → Q () (without h (bindingOf id source attempt))) :
    Action.wp (ServerHandshake.abortExactCandidate source id attempt) Q E h := by
  refine Action.wpMono (abortSpec reg source id attempt) ?_ ?_
  · intro _ t spec
    obtain ⟨_, rfl, after⟩ := spec
    exact post after
  · intro e t spec
    obtain ⟨refused, _⟩ := spec
    cases refused with
    | missing free =>
      obtain ⟨c, found, _⟩ := ownedPending reg owned
      rw [free] at found
      contradiction
    | candidate b other different =>
      cases ownedUnique reg owned other
      exact absurd rfl different
    | attempt b other different =>
      cases ownedUnique reg owned other
      exact absurd rfl different

variable {c : Server S} {α : Type} {E : CoordinatorPrimaryError → Server S → Prop}

theorem wpOnPolicy {x : ServerHandshake.Step α} {Q : α → Server S → Prop} :
    Action.wp (onPolicy x) Q E c ↔
      Action.wp x (fun a h => Q a {c with policy := h}) (fun e h => E (.serverPolicy e) {c with policy := h}) c.policy := by
  simp only [onPolicy, Action.wpMapError, Action.wpWithin]

theorem verifyRule {Q : Unit → Server S → Prop} (reg : Registered c.policy) (coupled : Coupled c.policy c.crypto)
    (post : Q () c) : Action.wp verifyStable Q E c := by
  unfold Action.wp verifyStable
  rw [coupledStable reg coupled]
  exact post

theorem removalRule {Q : Unit → Server S → Prop} {id attempt context} (open_ : c.crypto.phase ≠ .closed)
    (uncommitted : c.crypto.pendingCommit = none) (found : c.crypto.candidates.get id = some context)
    (same : context.attempt = attempt) (post : Q () {c with crypto := dropping c.crypto [id]}) :
    Action.wp (expectRemoval id attempt .removed) Q E c := by
  simp only [expectRemoval, Action.wpBind, wpOnCrypto]
  exact removeRule open_ uncommitted found same post

theorem absenceRule {Q : Unit → Server S → Prop} {id attempt} (open_ : c.crypto.phase ≠ .closed)
    (absent : c.crypto.candidates.get id = none) (post : Q () c) :
    Action.wp (expectRemoval id attempt .alreadyAbsent) Q E c := by
  simp only [expectRemoval, Action.wpBind, wpOnCrypto]
  exact absentRule open_ absent post

def expiredEvent (e : ExpiredServerCandidate) : ServerCoordinatorEvent :=
  .candidateExpired e.candidateId e.source e.clientAttemptId

theorem reconcileRule {Q : List ServerCoordinatorEvent → Server S → Prop} {expired : List ExpiredServerCandidate}
    (open_ : c.crypto.phase ≠ .closed) (uncommitted : c.crypto.pendingCommit = none)
    (listed : ∀ e ∈ expired, ∃ context, c.crypto.candidates.get e.candidateId = some context ∧
      context.attempt = e.clientAttemptId)
    (distinct : (expiredIds expired).Nodup)
    (post : Q (expired.map expiredEvent) {c with crypto := dropping c.crypto (expiredIds expired)}) :
    Action.wp (reconcileExpired expired) Q E c := by
  induction expired generalizing c Q with
  | nil => exact post
  | cons e rest ih =>
    obtain ⟨context, found, same⟩ := listed e List.mem_cons_self
    obtain ⟨fresh, distinctRest⟩ := List.nodup_cons.mp distinct
    simp only [reconcileExpired, Action.wpBind, Action.wpPure]
    refine removalRule open_ uncommitted found same ?_
    refine ih open_ uncommitted ?_ distinctRest ?_
    · intro e' member
      obtain ⟨context', found', same'⟩ := listed e' (List.mem_cons_of_mem _ member)
      refine ⟨context', ?_, same'⟩
      rw [getDropping, if_neg, found']
      intro shared
      rw [List.mem_singleton] at shared
      exact fresh (List.mem_map.mpr ⟨e', member, shared⟩)
    · rw [droppingMore]
      exact post

theorem expiryRule {Q : List ServerCoordinatorEvent → Server S → Prop} {h m : ServerHandshake} {now expired}
    (reg : Registered h) (coupled : Coupled h c.crypto) (ex : Expires h now expired m)
    (post : Q (expired.map expiredEvent) {c with crypto := dropping c.crypto (expiredIds expired)}) :
    Action.wp (reconcileExpired expired) Q E c := by
  by_cases listening : h.state = .listening
  · have held := (coupledListening listening).mp coupled
    refine reconcileRule (by simp [held.phase]) held.uncommitted ?_ ex.distinct post
    intro e member
    obtain ⟨context, found, same, _⟩ := listedContext held (ex.listed e member)
    exact ⟨_, found, same⟩
  · cases expiresOutside reg listening ex
    exact post

theorem shutdownEnded {p : ServerProvider S} (open_ : p.phase ≠ .closed) : Ended p.shutdown.2 := by
  unfold ServerProvider.shutdown
  rw [if_neg open_]
  exact ⟨rfl, rfl, rfl, rfl⟩

theorem shutdownClosed_ (h : ServerHandshake) : h.shutdown.2.state = .closed := by
  unfold ServerHandshake.shutdown
  split
  · assumption
  · rfl

theorem coupledShutdown {h : ServerHandshake} {p : ServerProvider S} (coupled : Coupled h p) :
    Ended p.shutdown.2 := by
  by_cases closed : h.state = .closed
  · have ended := (coupledClosed closed).mp coupled
    unfold ServerProvider.shutdown
    rw [if_pos ended.phase]
    exact ended
  · exact shutdownEnded fun ended => closed ((closedPhase coupled).mpr ended)

end
end Crabnet.ServerCoupling
