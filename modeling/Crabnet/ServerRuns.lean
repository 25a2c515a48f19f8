import Crabnet.ServerOutcomes

/-! The policy over its whole life: any sequence of its eight operations, with
any arguments, any times and any failures in between. One step lemma says what
an operation keeps; the run lemma follows from it. -/
namespace Crabnet.ServerRuns
open MachineWord SessionTypes HashTable Fallible PendingManager ServerPolicy ServerRegistry ServerOutcomes

inductive ServerOp where
  | validClientHello (source : SocketAddr) (attempt : ClientAttemptId) (now : Instant)
  | precheckClientFinish (source : SocketAddr) (attempt : ClientAttemptId) (now : Instant)
  | authenticatedClientFinish (source : SocketAddr) (candidateId : CandidateId)
      (attempt : ClientAttemptId) (metadata : EstablishedSessionMetadata) (now : Instant)
  | authenticationFailure (source : SocketAddr) (candidateId : CandidateId)
      (attempt : ClientAttemptId) (now : Instant)
  | unexpectedMessage (source : SocketAddr) (observed : ServerInboundKind) (now : Instant)
  | checkTimeouts (now : Instant)
  | abortExactCandidate (source : SocketAddr) (candidateId : CandidateId) (attempt : ClientAttemptId)
  | shutdown

inductive ServerAnswer where
  | report (report : ServerReport)
  | precheck (report : ServerClientFinishPreAuthReport)
  | aborted
  deriving DecidableEq

def reported (x : ServerHandshake.Step ServerReport) : ServerHandshake.Step ServerAnswer := do
  let r ← x
  pure (.report r)

def perform : ServerOp → ServerHandshake.Step ServerAnswer
  | .validClientHello source attempt now =>
    reported (ServerHandshake.handleValidClientHello source attempt now)
  | .precheckClientFinish source attempt now => do
    let r ← ServerHandshake.precheckClientFinish source attempt now
    pure (.precheck r)
  | .authenticatedClientFinish source candidateId attempt metadata now =>
    reported (ServerHandshake.handleAuthenticatedClientFinish source candidateId attempt metadata now)
  | .authenticationFailure source candidateId attempt now =>
    reported (ServerHandshake.handleAuthenticationFailure source candidateId attempt now)
  | .unexpectedMessage source observed now =>
    reported (ServerHandshake.handleUnexpectedMessage source observed now)
  | .checkTimeouts now => reported (ServerHandshake.checkTimeouts now)
  | .abortExactCandidate source candidateId attempt => do
    ServerHandshake.abortExactCandidate source candidateId attempt
    pure .aborted
  | .shutdown => reported (Action.total ServerHandshake.shutdown)

def step (h : ServerHandshake) (op : ServerOp) : Except ServerStateError ServerAnswer × ServerHandshake :=
  perform op h

def newIds (effects : List ServerEffect) : List CandidateId :=
  effects.filterMap fun
    | .sendServerHello _ candidateId _ .newCandidate => some candidateId
    | _ => none

def answerIds : Except ServerStateError ServerAnswer → List CandidateId
  | .ok (.report r) => newIds r.effects
  | _ => []

def handedOut (answers : List (Except ServerStateError ServerAnswer)) : List CandidateId :=
  answers.flatMap answerIds

def registryError : ServerStateError → Bool
  | .candidateRegistryMissing .. | .candidateRegistryOrphaned .. | .candidateSourceMismatch ..
  | .candidateRegistryCountMismatch .. | .pendingManagerClosedWhileListening
  | .pendingCandidatesOutsideListening .. => true
  | _ => false

/- One operation keeps the registry and the policy, and numbers at most one new
candidate, with the counter's value. -/
structure Kept (h : ServerHandshake) (ids : List CandidateId) (t : ServerHandshake) : Prop where
  registered : Registered t
  policy : t.pending.policy = h.pending.policy
  numbered : (ids = [] ∧ t.pending.nextCandidateId = h.pending.nextCandidateId) ∨
    (ids = [⟨h.pending.nextCandidateId⟩] ∧
      t.pending.nextCandidateId.toNat = h.pending.nextCandidateId.toNat + 1)
  listed : ∀ id b, t.candidateById.get id = some b → id ∈ ids ∨ ∃ b', h.candidateById.get id = some b'

theorem keptExpires {h t : ServerHandshake} {now expired} (ex : Expires h now expired t)
    (reg : Registered t) : Kept h [] t := by
  refine ⟨reg, ex.policy, .inl ⟨rfl, ex.next⟩, ?_⟩
  intro id b found
  rw [ex.registry] at found
  split at found <;> try contradiction
  exact .inr ⟨b, found⟩

theorem keptThen {h m t : ServerHandshake} {ids} (first : Kept h [] m) (next : Kept m ids t) :
    Kept h ids t := by
  have counter : m.pending.nextCandidateId = h.pending.nextCandidateId := by
    rcases first.numbered with ⟨_, same⟩ | ⟨impossible, _⟩
    · exact same
    · contradiction
  refine ⟨next.registered, next.policy.trans first.policy, counter ▸ next.numbered, ?_⟩
  intro id b found
  rcases next.listed id b found with new | ⟨b', earlier⟩
  · exact .inl new
  · rcases first.listed id b' earlier with impossible | before
    · exact absurd impossible List.not_mem_nil
    · exact .inr before

theorem keptWithout {m : ServerHandshake} {b} (reg : Registered (without m b)) : Kept m [] (without m b) := by
  refine ⟨reg, rfl, .inl ⟨rfl, rfl⟩, ?_⟩
  intro id b' found
  simp only [without, HashMap.getRemove] at found
  split at found <;> try contradiction
  exact .inr ⟨b', found⟩

theorem keptSelf {m : ServerHandshake} (reg : Registered m) : Kept m [] m :=
  ⟨reg, rfl, .inl ⟨rfl, rfl⟩, fun _ b found => .inr ⟨b, found⟩⟩

theorem keptHello {m t : ServerHandshake} {source attempt now effects} (reg : Registered t)
    (hello : HelloStep m source attempt now effects t) : Kept m (newIds effects) t := by
  cases hello with
  | unavailable | active | stale | resent | full => exact keptSelf reg
  | admitted deadline next listening free advance timely =>
    refine ⟨reg, rfl, .inr ⟨rfl, checkedAddSome advance⟩, ?_⟩
    intro id b found
    simp only [ServerRegistry.admitted, HashMap.getInsert] at found
    split at found
    · rename_i same
      exact .inl (by simp [newIds, same])
    · exact .inr ⟨b, found⟩

theorem keptFinish {m t : ServerHandshake} {source candidateId attempt metadata now effects}
    (after : Registered t) (finish : FinishStep m source candidateId attempt metadata now effects t) :
    Kept m (newIds effects) t := by
  cases finish with
  | refused | repeated => exact keptSelf after
  | completed owned =>
    refine ⟨after, ?_, .inl ⟨rfl, ?_⟩, fun id b found => ?_⟩
    · simp [ServerHandshake.establish, without]
    · simp [ServerHandshake.establish, without]
    · simp [ServerHandshake.establish] at found

theorem keptFailure {m t : ServerHandshake} {source candidateId attempt effects} (after : Registered t)
    (failure : FailureStep m source candidateId attempt effects t) : Kept m (newIds effects) t := by
  cases failure with
  | refused => exact keptSelf after
  | removed => exact keptWithout after

theorem keptShutdown {h : ServerHandshake} (reg : Registered h) :
    Kept h (newIds h.shutdown.1.effects) h.shutdown.2 := by
  have after := shutdownRegistered reg
  revert after
  unfold ServerHandshake.shutdown
  split
  · exact keptSelf
  · intro after
    refine ⟨after, ?_, .inl ⟨rfl, ?_⟩, fun id b found => ?_⟩
    · simp
    · simp
    · simp at found

theorem performKept {h : ServerHandshake} (reg : Registered h) (op : ServerOp) :
    Action.wp (perform op) (fun a t => Kept h (answerIds (.ok a)) t)
      (fun e t => registryError e = false ∧ Kept h [] t) h := by
  cases op with
  | validClientHello source attempt now =>
    simp only [perform, reported, Action.wpBind, Action.wpPure]
    refine Action.wpMono (helloSpec reg source attempt now) ?_ ?_
    · intro r t spec
      obtain ⟨m, ex, registered, hello, after⟩ := spec
      exact keptThen (keptExpires ex registered) (keptHello after hello)
    · intro e t spec
      obtain ⟨refused, _, expired, ex, registered⟩ := spec
      exact ⟨by cases refused <;> rfl, keptExpires ex registered⟩
  | precheckClientFinish source attempt now =>
    simp only [perform, Action.wpBind, Action.wpPure]
    refine Action.wpMono (precheckSpec reg source attempt now) ?_ (fun _ _ => False.elim)
    intro r t spec
    obtain ⟨ex, registered, _⟩ := spec
    exact keptExpires ex registered
  | authenticatedClientFinish source candidateId attempt metadata now =>
    simp only [perform, reported, Action.wpBind, Action.wpPure]
    refine Action.wpMono (finishSpec reg source candidateId attempt metadata now) ?_
      (fun _ _ => False.elim)
    intro r t spec
    obtain ⟨m, ex, registered, finish, after⟩ := spec
    exact keptThen (keptExpires ex registered) (keptFinish after finish)
  | authenticationFailure source candidateId attempt now =>
    simp only [perform, reported, Action.wpBind, Action.wpPure]
    refine Action.wpMono (failureSpec reg source candidateId attempt now) ?_ (fun _ _ => False.elim)
    intro r t spec
    obtain ⟨m, ex, registered, failure, after⟩ := spec
    exact keptThen (keptExpires ex registered) (keptFailure after failure)
  | unexpectedMessage source observed now =>
    simp only [perform, reported, Action.wpBind, Action.wpPure]
    refine Action.wpMono (unexpectedSpec reg source observed now) ?_ (fun _ _ => False.elim)
    intro r t spec
    obtain ⟨ex, registered, reason, effects⟩ := spec
    rw [answerIds, effects]
    exact keptExpires ex registered
  | checkTimeouts now =>
    simp only [perform, reported, Action.wpBind, Action.wpPure]
    refine Action.wpMono (timeoutsSpec reg now) ?_ (fun _ _ => False.elim)
    intro r t spec
    obtain ⟨effects, ex, registered⟩ := spec
    rw [answerIds, effects]
    exact keptExpires ex registered
  | abortExactCandidate source candidateId attempt =>
    simp only [perform, Action.wpBind, Action.wpPure]
    refine Action.wpMono (abortSpec reg source candidateId attempt) ?_ ?_
    · intro _ t spec
      obtain ⟨_, rfl, after⟩ := spec
      exact keptWithout after
    · intro e t spec
      obtain ⟨refused, rfl⟩ := spec
      exact ⟨by cases refused <;> rfl, keptSelf reg⟩
  | shutdown =>
    simp only [perform, reported, Action.wpBind, Action.wpPure, Action.wpTotal]
    exact keptShutdown reg

theorem stepKept {h : ServerHandshake} (reg : Registered h) (op : ServerOp) :
    Kept h (answerIds (step h op).1) (step h op).2 ∧
      ∀ e, (step h op).1 = .error e → registryError e = false := by
  have kept := performKept reg op
  unfold step
  rcases ran : perform op h with ⟨_ | answer, t⟩
  · obtain ⟨allowed, same⟩ := Action.wpError kept ran
    refine ⟨same, ?_⟩
    intro e returned
    cases returned
    exact allowed
  · have after := Action.wpOk kept ran
    refine ⟨after, ?_⟩
    intro e returned
    cases returned

structure Lifetime (policy : SessionPolicy) (past : List (Except ServerStateError ServerAnswer))
    (h : ServerHandshake) : Prop where
  registered : Registered h
  policy : h.pending.policy = policy
  distinct : (handedOut past).Nodup
  below : ∀ id ∈ handedOut past, id.value.toNat < h.pending.nextCandidateId.toNat
  listed : ∀ id b, h.candidateById.get id = some b → id ∈ handedOut past
  lawful : ∀ e, Except.error e ∈ past → registryError e = false

theorem lifetimeStep {policy past h} (life : Lifetime policy past h) (op : ServerOp) :
    Lifetime policy (past ++ [(step h op).1]) (step h op).2 := by
  obtain ⟨kept, allowed⟩ := stepKept life.registered op
  have ids : handedOut (past ++ [(step h op).1]) = handedOut past ++ answerIds (step h op).1 := by
    simp [handedOut]
  constructor
  · exact kept.registered
  · exact kept.policy.trans life.policy
  · rw [ids]
    rcases kept.numbered with ⟨none_, _⟩ | ⟨one, _⟩
    · simpa [none_] using life.distinct
    · rw [one, List.nodup_append]
      refine ⟨life.distinct, List.nodup_singleton _, ?_⟩
      intro id member id' single same
      have counter := life.below id member
      rw [same, List.mem_singleton.mp single] at counter
      exact Nat.lt_irrefl _ counter
  · rw [ids]
    intro id member
    rcases kept.numbered with ⟨none_, same⟩ | ⟨one, grown⟩
    · rw [none_, List.append_nil] at member
      rw [same]
      exact life.below id member
    · rcases List.mem_append.mp member with earlier | new
      · have := life.below id earlier
        omega
      · rw [one, List.mem_singleton] at new
        rw [new, grown]
        exact Nat.lt_succ_self _
  · intro id b found
    rw [ids, List.mem_append]
    rcases kept.listed id b found with new | ⟨b', earlier⟩
    · exact .inr new
    · exact .inl (life.listed id b' earlier)
  · intro e member
    rcases List.mem_append.mp member with earlier | now
    · exact life.lawful e earlier
    · exact allowed e (List.mem_singleton.mp now).symm

theorem lifetimeRun (policy sources ids) (ops : List ServerOp) :
    Lifetime policy (run step (ServerHandshake.new policy sources ids) ops).1
      (run step (ServerHandshake.new policy sources ids) ops).2 := by
  have start : Lifetime policy [] (ServerHandshake.new policy sources ids) := by
    refine ⟨newRegistered policy sources ids, rfl, ?_, ?_, ?_, ?_⟩ <;>
      simp [handedOut, ServerHandshake.new]
  simpa using runHistory (fun past h op life => @lifetimeStep policy past h life op) start ops

theorem registryBijection (policy : SessionPolicy) (sources : Hasher SocketAddr PendingCandidate)
    (ids : Hasher CandidateId ServerCandidate) (ops : List ServerOp) :
    let lifetime := run step (ServerHandshake.new policy sources ids) ops
    Registered lifetime.2 ∧
    lifetime.2.pending.pendingBySource.len ≤ policy.maximumPending ∧
    lifetime.2.candidateById.len ≤ policy.maximumPending ∧
    (handedOut lifetime.1).Nodup ∧
    (∀ id ∈ handedOut lifetime.1, id.value.toNat < lifetime.2.pending.nextCandidateId.toNat) ∧
    (∀ id b, lifetime.2.candidateById.get id = some b → id ∈ handedOut lifetime.1) ∧
    ∀ e, Except.error e ∈ lifetime.1 → registryError e = false := by
  have life := lifetimeRun policy sources ids ops
  have manager := life.registered.bounded
  rw [life.policy] at manager
  have registry := manager
  rw [sizes life.registered] at registry
  exact ⟨life.registered, manager, registry, life.distinct, life.below, life.listed, life.lawful⟩

end Crabnet.ServerRuns
