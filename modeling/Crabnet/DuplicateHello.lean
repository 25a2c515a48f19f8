import Crabnet.CandidateIsolation

/-! A hello from a source that has a candidate already. The bytes that created the
candidate get the first reply again, any other bytes cost the candidate, and
another attempt changes nothing; whatever has expired goes in all three cases. -/
namespace Crabnet.DuplicateHello
open MachineWord SessionTypes Fallible HashTable CryptoBoundary PendingManager ServerPolicy ServerRegistry
open ServerOutcomes HandshakeTypes ServerCoordinator SnowBoundary NoiseServer NoiseServerOutcomes
open ServerCoupling ServerCorrespondence CoordinatorStability CandidateIsolation

def ownedEffects (b : ServerCandidate) (source : SocketAddr) (attempt : ClientAttemptId) : List ServerEffect :=
  if b.clientAttemptId ≠ attempt then [.dropped source (.staleClientAttempt b.clientAttemptId attempt)]
  else [.sendServerHello source b.candidateId attempt .existingCandidate]

theorem ownedAdmission {m : ServerHandshake} (reg : Registered m) {now : Instant}
    (early : ∀ source c, m.pending.pendingBySource.get source = some c → now < c.deadline) {source b}
    (owned : Owned m source b) (attempt expired) :
    Action.wp
      (do
        let admission ← Action.mapError (.pendingManager .applyValidClientHello (some source))
          (Action.within ServerHandshake.pending (fun h pending => {h with pending := pending})
            (SessionManager.admitSource source now))
        ServerHandshake.applyAdmission source attempt expired admission.outcome)
      (fun r t => r = ⟨expired, ownedEffects b source attempt⟩ ∧ t = m) (fun _ _ => False) m := by
  have open_ := notClosed reg owned.listening
  obtain ⟨existing, found, same⟩ := ownedPending reg owned
  simp only [SessionManager.admitSource, Action.wpBind, Action.wpMapError, Action.wpWithin,
    Action.wpTotal, expireNothing open_ early, Action.wpRead, open_, if_false, found]
  simp only [Action.wpPure, ServerHandshake.applyAdmission, ServerHandshake.current, Action.wpBind, Action.wpRead,
    Action.wpOfExcept]
  rcases currentCases reg source with ⟨absent, _⟩ | ⟨other, others, current⟩
  · rw [absent] at found
    contradiction
  · cases ownedUnique reg owned others
    simp only [current, Action.wpIte, Action.wpPure, ownedEffects, same]
    refine ⟨fun differs => ?_, fun equal => ?_⟩
    · rw [if_pos differs]
      exact ⟨rfl, trivial⟩
    · rw [if_neg equal]
      exact ⟨rfl, trivial⟩

theorem ownedHello {h : ServerHandshake} (reg : Registered h) (listening : h.state = .listening) {now source record attempt}
    (found : h.pending.pendingBySource.get source = some record)
    (entry : h.candidateById.get record.id = some (bindingOf record.id source attempt)) (early : now < record.deadline)
    (observed : ClientAttemptId) :
    ∃ expired m, Expires h now expired m ∧ Registered m ∧ Owned m source (bindingOf record.id source attempt) ∧
      ServerHandshake.handleValidClientHello source observed now h =
        (.ok ⟨expired, ownedEffects (bindingOf record.id source attempt) source observed⟩, m) := by
  refine Action.wpOutcome (R := fun outcome : Except ServerStateError ServerReport × ServerHandshake =>
    ∃ expired m, Expires h now expired m ∧ Registered m ∧ Owned m source (bindingOf record.id source attempt) ∧
      outcome = (.ok ⟨expired, ownedEffects (bindingOf record.id source attempt) source observed⟩, m)) ?_
  simp only [ServerHandshake.handleValidClientHello, Action.wpBind, Action.wpRead]
  refine Action.wpMono (expireSpec reg now) ?_ (fun _ _ impossible => impossible.elim)
  intro expired m spec
  obtain ⟨ex, registered⟩ := spec
  have state := ex.state.trans listening
  have owned : Owned m source (bindingOf record.id source attempt) := by
    have still : m.pending.pendingBySource.get source = some record := by
      rw [ex.manager, found]
      simp [Option.filter, early]
    obtain ⟨held, kept⟩ := registered.forward source record still
    refine ⟨state, ?_, rfl⟩
    have same := ex.registry record.id
    rw [kept] at same
    split at same
    · contradiction
    · rw [entry] at same
      exact kept.trans same
  rw [state]
  refine Action.wpMono (ownedAdmission registered (fun _ _ held => expiresEarly ex held) owned observed expired) ?_
    (fun _ _ impossible => impossible.elim)
  rintro r t ⟨rfl, rfl⟩
  exact ⟨expired, _, ex, registered, owned, rfl⟩

section
variable {S : Snow} {c : Server S}

theorem ownedRan {source message now expired m b} {Q : Report (ServerProvider S) → Server S → Prop}
    {E : CoordinatorPrimaryError → Server S → Prop} (corresponds : Corresponds c) (ex : Expires c.policy now expired m)
    (ran : ServerHandshake.handleValidClientHello source message.clientAttemptId now c.policy =
      (.ok ⟨expired, ownedEffects b source message.clientAttemptId⟩, m))
    (stale : b.clientAttemptId ≠ message.clientAttemptId → Action.wp (do
        verifyStable
        pure (dropEvent (expired.map expiredEvent) source (.staleClientAttempt b.clientAttemptId message.clientAttemptId)))
      Q E (trimmed c m expired))
    (own : b.clientAttemptId = message.clientAttemptId → Action.wp
      (answerHello (expired.map expiredEvent) source source b.candidateId message.clientAttemptId .existingCandidate
        message.payload) Q E (trimmed c m expired)) :
    Action.wp (hello source message now) Q E c := by
  simp only [hello, Action.wpBind, wpOnPolicy]
  refine Action.wpOfOk ran ?_
  refine expiryRule corresponds.registered corresponds.coupled ex ?_
  by_cases differs : b.clientAttemptId ≠ message.clientAttemptId
  · simp only [ownedEffects, if_pos differs, ne_eq, not_true_eq_false, if_false]
    exact stale differs
  · simp only [ownedEffects, if_neg differs, ne_eq, not_true_eq_false, or_self, if_false]
    exact own (not_not.mp differs)

/- What every answer to a source with a candidate in time leaves: the expired
candidates are gone from both layers, and perhaps the candidate itself. -/
structure Answered (c : Server S) (source : SocketAddr) (record : PendingCandidate) (attempt observed : ClientAttemptId)
    (context : PendingContext S) (now : Instant) (payload : Bytes) (expired : List ExpiredServerCandidate)
    (m : ServerHandshake) : Prop where
  expires : Expires c.policy now expired m
  registered : Registered m
  owned : Owned m source (bindingOf record.id source attempt)
  again : observed = attempt → payload = context.clientHello →
    receiveClientHello source ⟨observed, payload⟩ now c =
      (.ok ⟨[helloOutbound source attempt context.serverHello.toList], expired.map expiredEvent⟩, trimmed c m expired)
  forked : observed = attempt → payload ≠ context.clientHello →
    receiveClientHello source ⟨observed, payload⟩ now c =
      (.ok (dropEvent (expired.map expiredEvent) source .authenticationFailed),
        {c with
          policy := without m (bindingOf record.id source attempt)
          crypto := dropping (dropping c.crypto (expiredIds expired)) [record.id]})
  foreign : observed ≠ attempt →
    receiveClientHello source ⟨observed, payload⟩ now c =
      (.ok (dropEvent (expired.map expiredEvent) source (.staleClientAttempt attempt observed)), trimmed c m expired)

theorem closingOk {x : Step (ServerProvider S) (Report (ServerProvider S))} {r t}
    (done : Action.wp x (fun report after => report = r ∧ after = t) (fun _ _ => False) c) : closing x c = (.ok r, t) := by
  unfold closing
  rcases ran : x c with ⟨primary | report, after⟩
  · exact (Action.wpError done ran).elim
  · obtain ⟨rfl, rfl⟩ := Action.wpOk done ran
    rfl

theorem helloAnswered {source record attempt context now} (corresponds : Corresponds c)
    (listening : c.policy.state = .listening) (holds : Holds c source record attempt context) (early : now < record.deadline)
    (observed payload) : ∃ expired m, Answered c source record attempt observed context now payload expired m := by
  obtain ⟨expired, m, ex, registered, owned, ran⟩ :=
    ownedHello corresponds.registered listening holds.pending holds.entry early observed
  have swept := holdsTrimmed corresponds.registered ex holds early
  have coupled := coupledExpired corresponds.registered corresponds.coupled ex
  have running : Listening m (dropping c.crypto (expiredIds expired)) := (coupledListening owned.listening).mp coupled
  obtain ⟨held, found, same, _⟩ := listedContext running owned.entry
  have context_ : held = context := by
    have both := found.symm.trans swept.context
    exact CandidateContext.pending.inj (Option.some.inj both)
  subst context_
  refine ⟨expired, m, ex, registered, owned, ?_, ?_, ?_⟩
  · rintro rfl rfl
    refine closingOk (ownedRan corresponds ex ran (fun other => absurd rfl other) fun _ => ?_)
    simp only [answerHello, Action.wpBind, wpOnCrypto]
    refine repeatedHelloRule running.phase found same (fun _ => ?_) (fun other => absurd rfl other)
    simp only [bindingOf, ne_eq, not_true_eq_false, or_self, if_false, Action.wpBind, Action.wpPure]
    exact verifyRule registered coupled ⟨rfl, rfl⟩
  · rintro rfl other
    refine closingOk (ownedRan corresponds ex ran (fun other => absurd rfl other) fun _ => ?_)
    simp only [answerHello, Action.wpBind, wpOnCrypto]
    refine repeatedHelloRule running.phase found same (fun again => absurd again.symm other) (fun _ => ?_)
    simp only [ServerProvider.failure, bindingOf, ne_eq, not_true_eq_false, or_self, if_false]
    exact abortingRule registered running owned found same fun _ => ⟨rfl, rfl⟩
  · intro other
    refine closingOk (ownedRan corresponds ex ran (fun _ => ?_) (fun own => absurd own.symm other))
    simp only [Action.wpBind, Action.wpPure]
    exact verifyRule registered coupled ⟨rfl, rfl⟩

theorem trimmedHolds {now expired m other record attempt} {context : PendingContext S} (ex : Expires c.policy now expired m)
    (holds : Holds (trimmed c m expired) other record attempt context) :
    Holds c other record attempt context ∧ now < record.deadline := by
  have pending := holds.pending
  rw [ex.manager, Option.filter_eq_some_iff] at pending
  have entry := holds.entry
  rw [ex.registry] at entry
  split at entry <;> try contradiction
  have found := holds.context
  rw [getDropping] at found
  split at found <;> try contradiction
  exact ⟨⟨pending.1, entry, found⟩, of_decide_eq_true pending.2⟩

theorem withoutHolds {source other id attempt attempt' ids record} {context : PendingContext S}
    (holds : Holds {c with policy := without c.policy (bindingOf id source attempt'), crypto := dropping c.crypto ids} other
      record attempt context) : Holds c other record attempt context ∧ other ≠ source := by
  have pending := holds.pending
  simp only [without, bindingOf, HashMap.getRemove] at pending
  split at pending <;> try contradiction
  rename_i different
  have entry := holds.entry
  simp only [without, bindingOf, HashMap.getRemove] at entry
  split at entry <;> try contradiction
  have found := holds.context
  rw [getDropping] at found
  split at found <;> try contradiction
  exact ⟨⟨pending, entry, found⟩, different⟩

theorem admittedHolds {m : ServerHandshake} {p : ServerProvider S} {source other now deadline next record attempt attempt'}
    {context entering : PendingContext S} {session}
    (holds : Holds {c with
        policy := admitted m source attempt' now deadline next
        crypto := p.admitting ⟨m.pending.nextCandidateId⟩ entering session} other record attempt context) :
    Holds {c with policy := m, crypto := p} other record attempt context ∨
      record.id = ⟨m.pending.nextCandidateId⟩ ∧ other = source ∧ attempt = attempt' ∧ context = entering := by
  obtain ⟨pending, entry, found⟩ := holds
  simp only [admitted, HashMap.getInsert] at pending entry
  simp only [ServerProvider.admitting, HashMap.getInsert] at found
  by_cases new : record.id = ⟨m.pending.nextCandidateId⟩
  · simp only [if_pos new, Option.some.injEq] at entry found
    cases found
    have source_ := congrArg ServerCandidate.source entry
    have attempt_ := congrArg ServerCandidate.clientAttemptId entry
    exact .inr ⟨new, source_.symm, attempt_.symm, rfl⟩
  · simp only [if_neg new] at entry found
    have elsewhere : other ≠ source := by
      rintro rfl
      rw [if_pos rfl] at pending
      cases Option.some.inj pending
      exact new rfl
    rw [if_neg elsewhere] at pending
    exact .inl ⟨pending, entry, found⟩

/- The candidates of the first state that are still in time, and kept, are those of
the second, in both layers; nothing else of the provider moves. -/
structure Remaining (c t : Server S) (now : Instant) (kept : SocketAddr → Prop) : Prop where
  candidates : ∀ other record attempt context,
    Holds t other record attempt context ↔ Holds c other record attempt context ∧ now < record.deadline ∧ kept other
  policyOnly : ∀ other record, t.policy.pending.pendingBySource.get other = some record →
    ∃ attempt context, Holds t other record attempt context
  providerOnly : ∀ id context, t.crypto.candidates.get id = some context →
    ∃ other record attempt held, record.id = id ∧ context = .pending held ∧ Holds t other record attempt held
  provider : t.crypto = {c.crypto with candidates := t.crypto.candidates}
  counter : t.policy.pending.nextCandidateId = c.policy.pending.nextCandidateId
  listening : t.policy.state = .listening

theorem contextHolds {t : Server S} {id context} (corresponds : Corresponds t) (listening : t.policy.state = .listening)
    (found : t.crypto.candidates.get id = some context) :
    ∃ other record attempt held, record.id = id ∧ context = .pending held ∧ Holds t other record attempt held := by
  have coupled := (coupledListening listening).mp corresponds.coupled
  obtain ⟨held, rfl, _⟩ := coupled.pending id context found
  have pair := coupled.pairs id
  rw [ServerProvider.candidateAttempt, found, Option.map_some, eq_comm, Option.map_eq_some_iff] at pair
  obtain ⟨b, entry, _⟩ := pair
  obtain ⟨own, record, pending, same⟩ := corresponds.registered.backward id b entry
  refine ⟨b.source, record, b.clientAttemptId, held, same, rfl, pending, ?_, ?_⟩
  · rw [same, entry, ← own]
  · rw [same]
    exact found

theorem remainingOf {t : Server S} {now} {kept : SocketAddr → Prop} (corresponds : Corresponds t)
    (listening : t.policy.state = .listening)
    (candidates : ∀ other record attempt context,
      Holds t other record attempt context ↔ Holds c other record attempt context ∧ now < record.deadline ∧ kept other)
    (provider : t.crypto = {c.crypto with candidates := t.crypto.candidates})
    (counter : t.policy.pending.nextCandidateId = c.policy.pending.nextCandidateId) : Remaining c t now kept := by
  refine ⟨candidates, ?_, fun id context found => contextHolds corresponds listening found, provider, counter, listening⟩
  intro other record found
  obtain ⟨attempt, context, holds, _⟩ := recordHolds corresponds listening found
  exact ⟨attempt, context, holds⟩

def OnlyExpired (events : List ServerCoordinatorEvent) : Prop :=
  ∀ event ∈ events, ∃ candidateId source attempt, event = .candidateExpired candidateId source attempt

theorem onlyExpired (expired : List ExpiredServerCandidate) : OnlyExpired (expired.map expiredEvent) := by
  intro event member
  obtain ⟨e, _, rfl⟩ := List.mem_map.mp member
  exact ⟨_, _, _, rfl⟩

structure HelloLaw (c : Server S) (source : SocketAddr) (record : PendingCandidate) (attempt : ClientAttemptId)
    (context : PendingContext S) (now : Instant) : Prop where
  again : ∃ events, OnlyExpired events ∧
    (receiveClientHello source ⟨attempt, context.clientHello⟩ now c).1 =
      .ok ⟨[helloOutbound source attempt context.serverHello.toList], events⟩ ∧
    Remaining c (receiveClientHello source ⟨attempt, context.clientHello⟩ now c).2 now (fun _ => True)
  forked : ∀ payload, payload ≠ context.clientHello → ∃ events, OnlyExpired events ∧
    (receiveClientHello source ⟨attempt, payload⟩ now c).1 =
      .ok ⟨[], events ++ [.dropped source .authenticationFailed]⟩ ∧
    Remaining c (receiveClientHello source ⟨attempt, payload⟩ now c).2 now (fun other => other ≠ source)
  foreign : ∀ observed payload, observed ≠ attempt → ∃ events, OnlyExpired events ∧
    (receiveClientHello source ⟨observed, payload⟩ now c).1 =
      .ok ⟨[], events ++ [.dropped source (.staleClientAttempt attempt observed)]⟩ ∧
    Remaining c (receiveClientHello source ⟨observed, payload⟩ now c).2 now (fun _ => True)

theorem trimmedRemaining {now expired m} (corresponds : Corresponds c) (after : Corresponds (trimmed c m expired))
    (ex : Expires c.policy now expired m) (listening : m.state = .listening) :
    Remaining c (trimmed c m expired) now (fun _ => True) := by
  refine remainingOf after listening (fun other record attempt context => ⟨fun holds => ?_, fun spec => ?_⟩) rfl ex.next
  · obtain ⟨before, early⟩ := trimmedHolds ex holds
    exact ⟨before, early, trivial⟩
  · exact holdsTrimmed corresponds.registered ex spec.1 spec.2.1

theorem withoutRemaining {source now expired m id attempt} (corresponds : Corresponds c) (ex : Expires c.policy now expired m)
    (owned : Owned m source (bindingOf id source attempt))
    (after : Corresponds {c with
      policy := without m (bindingOf id source attempt), crypto := dropping (dropping c.crypto (expiredIds expired)) [id]}) :
    Remaining c {c with
      policy := without m (bindingOf id source attempt), crypto := dropping (dropping c.crypto (expiredIds expired)) [id]}
      now (fun other => other ≠ source) := by
  refine remainingOf after owned.listening (fun other record attempt' context => ⟨fun holds => ?_, fun spec => ?_⟩) rfl ex.next
  · obtain ⟨middle, different⟩ := @withoutHolds S (trimmed c m expired) _ _ _ _ _ _ _ _ holds
    obtain ⟨before, early⟩ := trimmedHolds ex middle
    exact ⟨before, early, different⟩
  · obtain ⟨before, early, different⟩ := spec
    exact @holdsWithout S (trimmed c m expired) source other record attempt' attempt context id [id] owned different
      (holdsTrimmed corresponds.registered ex before early) (by simp)

theorem helloLaw {source record attempt context now} (corresponds : Corresponds c) (listening : c.policy.state = .listening)
    (holds : Holds c source record attempt context) (early : now < record.deadline) :
    HelloLaw c source record attempt context now := by
  refine ⟨?_, ?_, ?_⟩
  · obtain ⟨expired, m, answered⟩ := helloAnswered corresponds listening holds early attempt context.clientHello
    have ran := answered.again rfl rfl
    have after := (helloReturns corresponds source ⟨attempt, context.clientHello⟩ now).1
    rw [ran] at after ⊢
    exact ⟨_, onlyExpired expired, rfl, trimmedRemaining corresponds after answered.expires answered.owned.listening⟩
  · intro payload other
    obtain ⟨expired, m, answered⟩ := helloAnswered corresponds listening holds early attempt payload
    have ran := answered.forked rfl other
    have after := (helloReturns corresponds source ⟨attempt, payload⟩ now).1
    rw [ran] at after ⊢
    exact ⟨_, onlyExpired expired, rfl, withoutRemaining corresponds answered.expires answered.owned after⟩
  · intro observed payload other
    obtain ⟨expired, m, answered⟩ := helloAnswered corresponds listening holds early observed payload
    have ran := answered.foreign other
    have after := (helloReturns corresponds source ⟨observed, payload⟩ now).1
    rw [ran] at after ⊢
    exact ⟨_, onlyExpired expired, rfl, trimmedRemaining corresponds after answered.expires answered.owned.listening⟩

def repeats (source : SocketAddr) (attempt : ClientAttemptId) (payload : Bytes) (times : List Instant) :
    List (ServerCall (ServerProvider S)) :=
  times.map fun now => .clientHello source ⟨attempt, payload⟩ now

structure Repeats (c : Server S) (source : SocketAddr) (attempt : ClientAttemptId) (context : PendingContext S)
    (times : List Instant) : Prop where
  answers : ∀ answer ∈ (run serverStep c (repeats source attempt context.clientHello times)).1, ∃ events, OnlyExpired events ∧
    answer = .ok ⟨[helloOutbound source attempt context.serverHello.toList], events⟩
  candidates : ∀ other record attempt' context',
    Holds (run serverStep c (repeats source attempt context.clientHello times)).2 other record attempt' context' ↔
      Holds c other record attempt' context' ∧ ∀ now ∈ times, now < record.deadline

theorem helloRepeats {source record attempt context times} (corresponds : Corresponds c)
    (listening : c.policy.state = .listening) (holds : Holds c source record attempt context)
    (early : ∀ now ∈ times, now < record.deadline) : Repeats c source attempt context times := by
  induction times generalizing c with
  | nil => exact ⟨fun _ impossible => absurd impossible List.not_mem_nil, fun _ _ _ _ => by simp [repeats, run]⟩
  | cons now rest ih =>
    obtain ⟨events, only, answer, remaining⟩ :=
      (helloLaw corresponds listening holds (early now List.mem_cons_self)).again
    have after := (helloReturns corresponds source ⟨attempt, context.clientHello⟩ now).1
    have still := (remaining.candidates source record attempt context).mpr ⟨holds, early now List.mem_cons_self, trivial⟩
    obtain ⟨answers, candidates⟩ := ih after remaining.listening still
      (fun later member => early later (List.mem_cons_of_mem _ member))
    refine ⟨fun other member => ?_, fun other record' attempt' context' => ?_⟩
    · rcases List.mem_cons.mp member with rfl | later
      · exact ⟨events, only, answer⟩
      · exact answers other later
    · have first := remaining.candidates other record' attempt' context'
      refine (candidates other record' attempt' context').trans ?_
      rw [first, List.forall_mem_cons]
      exact ⟨fun spec => ⟨spec.1.1, spec.1.2.1, spec.2⟩, fun spec => ⟨⟨spec.1, spec.2.1, trivial⟩, spec.2.2⟩⟩

/- The call that created a candidate: a hello of its source, answered with the reply
that its context still has. -/
structure Creates (c : Server S) (call : ServerCall (ServerProvider S)) (source : SocketAddr) (record : PendingCandidate)
    (attempt : ClientAttemptId) (context : PendingContext S) : Prop where
  hello : ∃ now, call = .clientHello source ⟨attempt, context.clientHello⟩ now
  absent : c.policy.candidateById.get record.id = none
  reply : ∃ events, OnlyExpired events ∧
    (serverStep c call).1 = .ok ⟨[helloOutbound source attempt context.serverHello.toList], events⟩
  created : Holds (serverStep c call).2 source record attempt context

theorem helloCreates {source other message now record attempt context} (corresponds : Corresponds c)
    (holds : Holds (receiveClientHello source message now c).2 other record attempt context) :
    Holds c other record attempt context ∨ Creates c (.clientHello source message now) other record attempt context := by
  obtain ⟨after, returned⟩ := helloReturns corresponds source message now
  generalize ran : receiveClientHello source message now c = outcome at returned holds after
  obtain ⟨result, t⟩ := outcome
  cases result with
  | error fatal =>
    obtain ⟨s, _, rfl⟩ := returned
    exact (closedHeld after.coupled (shutdownClosed_ s.policy) holds.context).elim
  | ok report =>
    have turn : HelloTurn c source message.clientAttemptId message.payload now (.ok report) t := returned
    cases turn with
    | dropped expired m reason ex reg step => exact .inl (trimmedHolds ex holds).1
    | repeated expired m id context' ex reg owned found same => exact .inl (trimmedHolds ex holds).1
    | conflicting expired m id ex reg owned =>
      rw [← droppingMore] at holds
      obtain ⟨middle, _⟩ := @withoutHolds S (trimmed c m expired) _ _ _ _ _ _ _ _ holds
      exact .inl (trimmedHolds ex middle).1
    | rejected expired m deadline next ex reg listening free =>
      have middle : Holds (trimmed c m expired) other record attempt context := by
        obtain ⟨pending, entry, found⟩ := holds
        simp only [without, bindingOf, admitted, HashMap.getRemove, HashMap.getInsert] at pending entry
        split at pending <;> try contradiction
        split at entry <;> try contradiction
        exact ⟨pending, entry, found⟩
      exact .inl (trimmedHolds ex middle).1
    | welcomed expired m deadline next prepared q ex reg listening free fresh =>
      cases fresh with
      | welcomed transport hash remote out prologue built allowed derived =>
        rcases admittedHolds holds with earlier | ⟨new, rfl, rfl, rfl⟩
        · exact .inl (trimmedHolds ex ⟨earlier.pending, earlier.entry, earlier.context⟩).1
        · have unlisted : c.policy.candidateById.get record.id = none := by
            rw [new, ex.next]
            exact nextUnlisted corresponds.registered
          refine .inr ⟨⟨now, rfl⟩, unlisted, ⟨_, onlyExpired expired, ?_⟩, ?_⟩
          · simp only [serverStep, ran]
            rfl
          · simp only [serverStep, ran]
            exact holds

theorem finishHeld {source message now other record attempt context} (corresponds : Corresponds c)
    (holds : Holds (receiveClientFinish source message now c).2 other record attempt context) :
    Holds c other record attempt context := by
  obtain ⟨after, returned⟩ := finishReturns corresponds source message now
  generalize receiveClientFinish source message now c = outcome at returned holds after
  obtain ⟨result, t⟩ := outcome
  cases result with
  | error fatal =>
    obtain ⟨s, _, rfl⟩ := returned
    exact (closedHeld after.coupled (shutdownClosed_ s.policy) holds.context).elim
  | ok report =>
    have turn : FinishTurn c source message.clientAttemptId message.payload now (.ok report) t := returned
    cases turn with
    | dropped expired m reason ex reg decision => exact (trimmedHolds ex holds).1
    | unconfirmed expired m id context' plain allowed opens =>
      obtain ⟨middle, _⟩ := @withoutHolds S {trimmed c m expired with
        crypto := opening (dropping c.crypto (expiredIds expired)) context' message.payload} _ _ _ _ _ _ _ _ holds
      exact (trimmedHolds allowed.expires ⟨middle.pending, middle.entry, middle.context⟩).1
    | established expired m id context' plain record' out t allowed opens recorded written state =>
      have found := holds.context
      simp [ServerProvider.committing] at found

theorem stepCreates {call : ServerCall (ServerProvider S)} {source record attempt context} (corresponds : Corresponds c)
    (holds : Holds (serverStep c call).2 source record attempt context) :
    Holds c source record attempt context ∨ Creates c call source record attempt context := by
  cases call with
  | clientHello peer message now => exact helloCreates corresponds holds
  | clientFinish peer message now => exact .inl (finishHeld corresponds holds)
  | checkTimeouts now =>
    obtain ⟨_, expired, m, ex, ran⟩ := timeoutsReturn corresponds now
    simp only [serverStep, ran] at holds
    exact .inl (trimmedHolds ex holds).1
  | shutdown =>
    have after := stepCorresponds corresponds .shutdown
    simp only [serverStep, shutdownLeaves] at holds after
    exact (closedHeld after.coupled (shutdownClosed_ c.policy) holds.context).elim

theorem runCreates {calls : List (ServerCall (ServerProvider S))} {source record attempt context} (corresponds : Corresponds c)
    (empty : ∀ source record attempt context, ¬ Holds c source record attempt context)
    (holds : Holds (run serverStep c calls).2 source record attempt context) :
    ∃ before call after, calls = before ++ call :: after ∧
      Creates (run serverStep c before).2 call source record attempt context := by
  induction calls using List.reverseRecOn with
  | nil => exact absurd holds (empty source record attempt context)
  | append_singleton calls last ih =>
    rw [runSnoc] at holds
    have reached : Corresponds (run serverStep c calls).2 :=
      @runInvariant _ _ _ serverStep Corresponds (fun _ call ok => stepCorresponds ok call) c corresponds calls
    rcases stepCreates reached holds with earlier | now
    · obtain ⟨before, call, after, split_, creates⟩ := ih earlier
      exact ⟨before, call, after ++ [last], by simp [split_], creates⟩
    · exact ⟨calls, last, [], rfl, now⟩

theorem duplicateHello (policy sources ids localPrivateKey allowedClientKeys hasher rng) :
    ∃ c : Server S, build (ServerHandshake.new policy sources ids)
      (ServerProvider.new localPrivateKey allowedClientKeys hasher rng) = .ok c ∧
      ∀ calls : List (ServerCall (ServerProvider S)), let past := (run serverStep c calls).2
        past.policy.state = .listening → ∀ source record, past.policy.pending.pendingBySource.get source = some record →
          ∃ attempt context, Holds past source record attempt context ∧
            (∃ before call after, calls = before ++ call :: after ∧
              Creates (run serverStep c before).2 call source record attempt context) ∧
            (∀ now, now < record.deadline → HelloLaw past source record attempt context now) ∧
            ∀ times, (∀ now ∈ times, now < record.deadline) → Repeats past source attempt context times := by
  obtain ⟨c, built, is_, start⟩ := @builtCorresponds S policy sources ids localPrivateKey allowedClientKeys hasher rng
  refine ⟨c, built, ?_⟩
  intro calls past listening source record found
  have reached : Corresponds past :=
    @runInvariant _ _ _ serverStep Corresponds (fun _ call ok => stepCorresponds ok call) c start calls
  obtain ⟨attempt, context, holds, _⟩ := recordHolds reached listening found
  refine ⟨attempt, context, holds, runCreates start ?_ holds, fun now early => helloLaw reached listening holds early,
    fun times early => helloRepeats reached listening holds early⟩
  intro source record attempt context fresh
  have none := fresh.context
  rw [is_] at none
  simp [ServerProvider.new] at none

end

end Crabnet.DuplicateHello
