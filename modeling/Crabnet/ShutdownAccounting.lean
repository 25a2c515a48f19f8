import Crabnet.ServerCorrespondence

/-! What the shutdown of a Noise server reports, from any state that its calls can
reach: the policy counts its candidates, the provider only looks at its phase. -/
namespace Crabnet.ShutdownAccounting
open SessionTypes Fallible HashTable CryptoBoundary ServerPolicy ServerRegistry ServerOutcomes HandshakeTypes ServerCoordinator
open SnowBoundary NoiseServer ServerCoupling ServerCorrespondence CoordinatorStability

section
variable {S : Snow} {c : Server S}

def established : ServerHandshakeState → Bool
  | .established _ => true
  | _ => false

structure Closing (c : Server S) (removedCandidates : Nat) (removedSession : Bool) (cleanup : CryptoShutdownOutcome) : Prop where
  answer : (shutdownAll c).1 = .ok ⟨[], [.closed removedCandidates removedSession cleanup]⟩
  candidates : removedCandidates = c.crypto.candidates.len
  session : removedSession = established c.policy.state
  context : cleanup.removedEstablishedContext = established c.policy.state
  later : ∀ calls, let past := run serverStep (shutdownAll c).2 calls
    shutdownAll past.2 = (.ok ⟨[], [.alreadyClosed]⟩, past.2)

def Accounts (c : Server S) : Prop :=
  ∃ removedCandidates removedSession cleanup, Closing c removedCandidates removedSession cleanup ∧
    cleanup.removedPendingContexts = c.crypto.candidates.len

structure Shut (c : Server S) : Prop where
  corresponds : Corresponds c
  stable : ServerStable c
  closed : c.policy.state = .closed

theorem stepShut (shut : Shut c) (call : ServerCall (ServerProvider S)) : Shut (serverStep c call).2 := by
  have answer := serverStepAnswer shut.stable call
  exact ⟨stepCorresponds shut.corresponds call, answer.stable, (answer.closed shut.closed).1⟩

theorem shutAgain (shut : Shut c) : shutdownAll c = (.ok ⟨[], [.alreadyClosed]⟩, c) := by
  have ended := (coupledClosed shut.closed).mp shut.corresponds.coupled
  have policy : c.policy.shutdown = (⟨[], [.alreadyClosed]⟩, c.policy) := by
    rw [ServerHandshake.shutdown, if_pos shut.closed]
  have crypto : ServerHandshakeCrypto.shutdown c.crypto = (⟨0, false, false, true⟩, c.crypto) := by
    change c.crypto.shutdown = _
    rw [ServerProvider.shutdown, if_pos ended.phase]
  have stable := coupledStable shut.corresponds.registered shut.corresponds.coupled
  have same : (⟨c.policy, c.crypto, .closed⟩ : Server S) = c := by
    rw [← shut.stable.lifecycle.mpr shut.closed]
  simp only [shutdownAll, policy, crypto, stable, closedEvent, ne_eq, not_true_eq_false, if_false, if_true, same]

theorem shutdownShut (corresponds : Corresponds c) (stable : ServerStable c) : Shut (shutdownAll c).2 := by
  refine ⟨(shutdownConcludes corresponds).1, (serverStepAnswer stable .shutdown).stable, ?_⟩
  rw [shutdownLeaves]
  exact shutdownClosed_ c.policy

theorem pendingHeld (corresponds : Corresponds c) : c.policy.pending.pendingCount = c.crypto.candidates.len := by
  by_cases listening : c.policy.state = .listening
  · exact (sizes corresponds.registered).trans (listeningSizes ((coupledListening listening).mp corresponds.coupled))
  · have none := corresponds.registered.emptyOutside listening
    cases state : c.policy.state with
    | listening => exact absurd state listening
    | established session =>
      rw [((coupledEstablished state).mp corresponds.coupled).empty]
      exact none.1
    | closed =>
      rw [((coupledClosed state).mp corresponds.coupled).empty]
      exact none.1

def cleanupOf (c : Server S) : CryptoShutdownOutcome :=
  ⟨if established c.policy.state then 0 else 1, false, established c.policy.state, false⟩

theorem shutdownCloses (corresponds : Corresponds c) (stable : ServerStable c) (open_ : c.policy.state ≠ .closed) :
    Closing c c.crypto.candidates.len (established c.policy.state) (cleanupOf c) := by
  have running : c.crypto.phase ≠ .closed := fun closed => open_ ((closedPhase corresponds.coupled).mpr closed)
  have policy : c.policy.shutdown.1 = ⟨[], [.closed c.crypto.candidates.len (established c.policy.state)]⟩ := by
    rw [ServerHandshake.shutdown, if_neg open_, pendingHeld corresponds]
    cases c.policy.state <;> rfl
  have crypto : (ServerHandshakeCrypto.shutdown c.crypto).1 = cleanupOf c := by
    change c.crypto.shutdown.1 = _
    rw [ServerProvider.shutdown, if_neg running, coupledPhase corresponds.coupled, cleanupOf, ServerHandshake.stateName]
    cases state : c.policy.state with
    | listening | established session => rfl
    | closed => exact absurd state open_
  have verified : verifyServerStable c.policy.shutdown.2 (ServerHandshakeCrypto.shutdown c.crypto).2 = .ok () :=
    coupledStable (shutdownRegistered corresponds.registered)
      ((coupledClosed (shutdownClosed_ c.policy)).mpr (coupledShutdown corresponds.coupled))
  refine ⟨?_, rfl, rfl, rfl, fun calls => ?_⟩
  · simp only [shutdownAll, verified, policy, crypto, closedEvent, ne_eq, not_true_eq_false, if_false]
  · have kept : Shut (run serverStep (shutdownAll c).2 calls).2 :=
      @runInvariant _ _ _ serverStep Shut (fun _ call shut => stepShut shut call) _ (shutdownShut corresponds stable) calls
    exact shutAgain kept

theorem accountsIff (corresponds : Corresponds c) (stable : ServerStable c) (open_ : c.policy.state ≠ .closed) :
    Accounts c ↔ (c.policy.state = .listening → c.crypto.candidates.len = 1) := by
  have closing := shutdownCloses corresponds stable open_
  constructor
  · rintro ⟨removedCandidates, removedSession, cleanup, other, counted⟩ listening
    have same := closing.answer.symm.trans other.answer
    cases same
    rw [← counted, cleanupOf, listening]
    rfl
  · intro single
    refine ⟨_, _, _, closing, ?_⟩
    cases state : c.policy.state with
    | listening =>
      rw [single state, cleanupOf, state]
      rfl
    | established session =>
      rw [((coupledEstablished state).mp corresponds.coupled).empty, cleanupOf, state]
      rfl
    | closed => exact absurd state open_

theorem shutdownAccounting (policy sources ids localPrivateKey allowedClientKeys hasher rng) :
    ∃ c : Server S, build (ServerHandshake.new policy sources ids)
      (ServerProvider.new localPrivateKey allowedClientKeys hasher rng) = .ok c ∧
      ∀ calls : List (ServerCall (ServerProvider S)), let past := (run serverStep c calls).2
        past.policy.state ≠ .closed →
          (∃ cleanup, Closing past past.crypto.candidates.len (established past.policy.state) cleanup) ∧
          (Accounts past ↔ (past.policy.state = .listening → past.crypto.candidates.len = 1)) := by
  obtain ⟨c, built, _, start⟩ := @builtCorresponds S policy sources ids localPrivateKey allowedClientKeys hasher rng
  refine ⟨c, built, ?_⟩
  intro calls past open_
  have corresponds : Corresponds past :=
    @runInvariant _ _ _ serverStep Corresponds (fun _ call ok => stepCorresponds ok call) c start calls
  have stable : ServerStable past :=
    @runInvariant _ _ _ serverStep ServerStable (fun _ call ok => (serverStepAnswer ok call).stable) c
      (serverBuilt built) calls
  exact ⟨⟨_, shutdownCloses corresponds stable open_⟩, accountsIff corresponds stable open_⟩

end

-- A server that nobody has spoken to yet reports one pending context.
theorem freshShutdownMiscounts : ¬ Accounts (run serverStep plainServer []).2 := by
  rintro ⟨removedCandidates, removedSession, cleanup, closing, counted⟩
  have told : (shutdownAll plainServer).1.toOption.map (·.events) = some [.closed 0 false ⟨1, false, false, false⟩] := by
    decide +kernel
  rw [show (shutdownAll plainServer).1 = _ from closing.answer] at told
  cases told
  exact absurd counted (by decide +kernel)

end Crabnet.ShutdownAccounting
