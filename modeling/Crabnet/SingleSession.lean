import Crabnet.CandidateTiming

/-! The policy holds one session in its life. Its state only moves forward, and
the establishment is justified by the history: an admission of the same source,
attempt and candidate that no operation in between has ended. -/
namespace Crabnet.SingleSession
open MachineWord SessionTypes HashTable Fallible PendingManager ServerPolicy ServerRegistry ServerOutcomes
open ServerRuns ServerTrail CandidateTiming

inductive Advances (op : ServerOp) : ServerHandshakeState → ServerHandshakeState → Prop where
  | same (state) : Advances op state state
  | establish (session) : Advances op .listening (.established session)
  | close (state) (named : op = .shutdown) : Advances op state .closed

theorem moveAdvances {m t : ServerHandshake} {op effects} (move : Move m op effects t) :
    Advances op m.state t.state := by
  cases move with
  | kept quiet => exact .same _
  | admitted listening free advance timely => exact .same _
  | failed owned => exact .same _
  | aborted owned => exact .same _
  | established owned =>
    rw [owned.listening]
    exact .establish _
  | shutdown =>
    rw [shutdownState]
    exact .close _ rfl

theorem stepAdvances {h : ServerHandshake} (reg : Registered h) (op : ServerOp) :
    Advances op h.state (step h op).2.state := by
  have transition := performTransition reg op
  unfold step
  generalize (perform op h).2 = t at transition ⊢
  generalize (perform op h).1 = result at transition
  cases transition with
  | timed time ex middle move =>
    rw [← ex.state]
    exact moveAdvances move
  | untimed time silent move => exact moveAdvances move
  | refused time ex =>
    rw [ex.state]
    exact .same _
  | ignored time => exact .same _

theorem sessionKept {session : EstablishedServerSession} (ops : List ServerOp) {h : ServerHandshake}
    (reg : Registered h) (state : h.state = .established session) (open_ : .shutdown ∉ ops) :
    (reached h ops).state = .established session := by
  induction ops generalizing h with
  | nil => exact state
  | cons op rest ih =>
    have next := stepAdvances reg op
    rw [state] at next
    refine ih (h := (step h op).2) (stepKept reg op).1.registered ?_
      (fun member => open_ (List.mem_cons_of_mem _ member))
    generalize (step h op).2.state = after at next ⊢
    cases next with
    | same => rfl
    | close _ named => exact absurd (named ▸ List.mem_cons_self) open_

def sessionsOf (effects : List ServerEffect) : List (SocketAddr × SessionId) :=
  effects.filterMap fun
    | .sessionEstablished source sessionId => some (source, sessionId)
    | _ => none

def emitted (past : List Moment) : List (SocketAddr × SessionId) :=
  past.flatMap fun x => sessionsOf (effectsOf x.result)

theorem memSessions {effects : List ServerEffect} {source sessionId} :
    (source, sessionId) ∈ sessionsOf effects ↔ ServerEffect.sessionEstablished source sessionId ∈ effects := by
  simp only [sessionsOf, List.mem_filterMap]
  constructor
  · intro ⟨effect, member, same⟩
    cases effect <;> simp_all
  · intro member
    exact ⟨_, member, rfl⟩

structure Establishes (m : ServerHandshake) (op : ServerOp) (source : SocketAddr) (sessionId : SessionId)
    (t : ServerHandshake) (id : CandidateId) (attempt : ClientAttemptId)
    (metadata : EstablishedSessionMetadata) (now : Instant) : Prop where
  op : op = .authenticatedClientFinish source id attempt metadata now
  session : metadata.sessionId = sessionId
  state : t.state = .established ⟨metadata, source, id, attempt, now⟩
  owned : Owned m source (bindingOf id source attempt)

theorem moveEmits {m t : ServerHandshake} {op effects} (move : Move m op effects t) :
    sessionsOf effects = [] ∨ ∃ source sessionId id attempt metadata now,
      sessionsOf effects = [(source, sessionId)] ∧
        Establishes m op source sessionId t id attempt metadata now := by
  cases move with
  | kept quiet =>
    left
    rw [List.eq_nil_iff_forall_not_mem]
    intro pair member
    exact quiet.unestablished pair.1 pair.2 (memSessions.mp member)
  | admitted listening free advance timely => exact .inl rfl
  | failed owned => exact .inl rfl
  | aborted owned => exact .inl rfl
  | established owned => exact .inr ⟨_, _, _, _, _, _, rfl, rfl, rfl, rfl, owned⟩
  | shutdown =>
    left
    unfold ServerHandshake.shutdown
    split <;> rfl

theorem stepEmits {h : ServerHandshake} (reg : Registered h) (op : ServerOp) :
    sessionsOf (effectsOf (step h op).1) = [] ∨ ∃ source sessionId id attempt metadata now m expired,
      sessionsOf (effectsOf (step h op).1) = [(source, sessionId)] ∧ Expires h now expired m ∧ Registered m ∧
        Establishes m op source sessionId (step h op).2 id attempt metadata now := by
  have transition := performTransition reg op
  unfold step
  generalize (perform op h).2 = t at transition ⊢
  generalize (perform op h).1 = result at transition ⊢
  cases transition with
  | refused time ex => exact .inl rfl
  | ignored time => exact .inl rfl
  | untimed time silent move =>
    rcases moveEmits move with nothing | ⟨source, sessionId, id, attempt, metadata, now, _, made⟩
    · exact .inl nothing
    · rw [made.op] at time
      contradiction
  | timed time ex middle move =>
    rcases moveEmits move with nothing | ⟨source, sessionId, id, attempt, metadata, now, only, made⟩
    · exact .inl nothing
    · rw [made.op] at time
      cases Option.some.inj time
      exact .inr ⟨source, sessionId, id, attempt, metadata, _, _, _, only, ex, middle, made⟩

structure Single (past : List Moment) (h : ServerHandshake) : Prop where
  registered : Registered h
  once : (emitted past).length ≤ 1
  unspent : h.state = .listening → emitted past = []

theorem singleStep (past : List Moment) (h : ServerHandshake) (op : ServerOp) (inv : Single past h) :
    Single (past ++ [(observe h op).1]) (observe h op).2 := by
  have grows : emitted (past ++ [(observe h op).1]) = emitted past ++ sessionsOf (effectsOf (step h op).1) := by
    simp [emitted, observe]
  have forward := stepAdvances inv.registered op
  refine ⟨(stepKept inv.registered op).1.registered, ?_, ?_⟩
  · rw [grows]
    rcases stepEmits inv.registered op with nothing | ⟨source, sessionId, _, _, _, _, m, _, only, ex, _, made⟩
    · rw [nothing, List.append_nil]
      exact inv.once
    · -- the finish began in a listening state, where nothing had been emitted
      have listening : h.state = .listening := ex.state.symm.trans made.owned.listening
      rw [only, inv.unspent listening]
      exact Nat.le_refl 1
  · intro listening
    have after : (step h op).2.state = .listening := listening
    rw [grows]
    rcases stepEmits inv.registered op with nothing | ⟨_, _, _, _, _, _, _, _, _, _, _, made⟩
    · rw [nothing, List.append_nil]
      rw [after] at forward
      generalize before : h.state = state at forward
      cases forward with
      | same => exact inv.unspent before
    · rw [made.state] at after
      contradiction

theorem withoutWaits {m : ServerHandshake} {b c deadline} (waits : Waits (without m b) c deadline) :
    Waits m c deadline := by
  have entry := waits.entry
  obtain ⟨p, found, same, late⟩ := waits.record
  simp only [without, HashMap.getRemove] at entry found
  split at entry <;> try contradiction
  split at found <;> try contradiction
  exact ⟨entry, p, found, same, late⟩

theorem admittedOrigin {m : ServerHandshake} {source attempt now expires next c deadline}
    (waits : Waits (admitted m source attempt now expires next) c deadline) :
    Waits m c deadline ∨ (c = ⟨⟨m.pending.nextCandidateId⟩, source, attempt⟩ ∧ deadline = expires) := by
  have entry := waits.entry
  obtain ⟨p, found, same, late⟩ := waits.record
  simp only [admitted, HashMap.getInsert] at entry found
  split at entry
  · cases Option.some.inj entry
    rw [if_pos rfl] at found
    cases Option.some.inj found
    exact .inr ⟨rfl, late.symm⟩
  · rename_i old
    split at found
    · cases Option.some.inj found
      exact absurd same.symm old
    · exact .inl ⟨entry, p, found, same, late⟩

theorem moveOrigin {m t : ServerHandshake} {op effects c deadline} (after : Registered t)
    (waits : Waits t c deadline) (move : Move m op effects t) :
    Waits m c deadline ∨ ∃ now, op = .validClientHello c.source c.clientAttemptId now ∧
      .sendServerHello c.source c.candidateId c.clientAttemptId .newCandidate ∈ effects ∧
      deadline = now + m.pending.policy.handshakeTimeout := by
  cases move with
  | kept quiet => exact .inl waits
  | established owned =>
    exact absurd (outsideGone after (by simp [ServerHandshake.establish]) _) (waitsNotGone waits)
  | shutdown => exact absurd (outsideGone after (by simp [shutdownState]) _) (waitsNotGone waits)
  | failed owned => exact .inl (withoutWaits waits)
  | aborted owned => exact .inl (withoutWaits waits)
  | @admitted source attempt now expires next listening free advance timely =>
    rcases admittedOrigin waits with earlier | ⟨rfl, rfl⟩
    · exact .inl earlier
    · exact .inr ⟨now, rfl, List.mem_singleton.mpr rfl, timelyDeadline timely⟩

theorem stepOrigin {h : ServerHandshake} {op c deadline} (reg : Registered h)
    (waits : Waits (observe h op).1.after c deadline) :
    (Waits h c deadline ∧ ∀ way, ¬ Leaves (observe h op).1 c deadline way) ∨
      ∃ now, Admits (observe h op).1 c now ∧ deadline = now + h.pending.policy.handshakeTimeout := by
  have after := (stepKept reg op).1.registered
  have transition := performTransition reg op
  unfold observe step at waits ⊢
  unfold step at after
  generalize (perform op h).2 = t at after transition waits ⊢
  generalize (perform op h).1 = result at transition ⊢
  cases transition with
  | refused time ex =>
    refine .inl ⟨(expiryBackwards ex waits).1, ?_⟩
    intro way leaves
    cases leaves <;> contradiction
  | ignored time =>
    refine .inl ⟨waits, ?_⟩
    intro way leaves
    cases leaves <;> contradiction
  | untimed time silent move =>
    rcases moveOrigin after waits move with before | ⟨now, named, sent, late⟩
    · refine .inl ⟨before, ?_⟩
      rcases moveFate reg after before move with ⟨_, unmoved⟩ | ⟨gone, _⟩
      · intro way leaves
        cases leaves with
        | expired listed =>
          rw [silent] at listed
          contradiction
        | removed _ _ removal => exact unmoved way removal
      · exact absurd gone (waitsNotGone waits)
    · exact .inr ⟨now, ⟨named, sent⟩, late⟩
  | timed time ex middle move =>
    rcases moveOrigin after waits move with between | ⟨now, named, sent, late⟩
    · obtain ⟨before, early⟩ := expiryBackwards ex between
      refine .inl ⟨before, ?_⟩
      rcases moveFate middle after between move with ⟨_, unmoved⟩ | ⟨gone, _⟩
      · intro way leaves
        cases leaves with
        | expired listed => exact (expiryWaits reg ex before early).1 listed
        | removed _ _ removal => exact unmoved way removal
      · exact absurd gone (waitsNotGone waits)
    · rw [ex.policy] at late
      exact .inr ⟨now, ⟨named, sent⟩, late⟩

structure Provenance (policy : SessionPolicy) (past : List Moment) (c : ServerCandidate) (deadline : Instant)
    (before : List Moment) (hello : Moment) (between : List Moment) (admittedAt : Instant) : Prop where
  split : past = before ++ hello :: between
  admits : Admits hello c admittedAt
  timely : deadline = admittedAt + policy.handshakeTimeout
  waits : Waits hello.after c deadline
  unbroken : ∀ z ∈ between, Waits z.before c deadline ∧ Waits z.after c deadline ∧
    ∀ way, ¬ Leaves z c deadline way

structure Traced (policy : SessionPolicy) (past : List Moment) (h : ServerHandshake) : Prop where
  registered : Registered h
  configured : h.pending.policy = policy
  traced : ∀ c deadline, Waits h c deadline →
    ∃ before hello between admittedAt, Provenance policy past c deadline before hello between admittedAt

theorem tracedStep {policy : SessionPolicy} (past : List Moment) (h : ServerHandshake) (op : ServerOp)
    (inv : Traced policy past h) : Traced policy (past ++ [(observe h op).1]) (observe h op).2 := by
  have kept := (stepKept inv.registered op).1
  refine ⟨kept.registered, kept.policy.trans inv.configured, ?_⟩
  intro c deadline waits
  rcases stepOrigin inv.registered waits with ⟨earlier, unmoved⟩ | ⟨now, admits, late⟩
  · obtain ⟨before, hello, between, admittedAt, known⟩ := inv.traced c deadline earlier
    refine ⟨before, hello, between ++ [(observe h op).1], admittedAt, ?_, known.admits, known.timely,
      known.waits, ?_⟩
    · rw [known.split, List.append_assoc, List.cons_append]
    · intro z member
      rcases List.mem_append.mp member with old | last
      · exact known.unbroken z old
      · rw [List.mem_singleton.mp last]
        exact ⟨earlier, waits, unmoved⟩
  · rw [inv.configured] at late
    refine ⟨past, (observe h op).1, [], now, rfl, admits, late, waits, ?_⟩
    intro z member
    contradiction

theorem singleSession (policy : SessionPolicy) (sources : Hasher SocketAddr PendingCandidate)
    (ids : Hasher CandidateId ServerCandidate) (earlier : List ServerOp) (op : ServerOp) (later : List ServerOp) :
    let past := moments (.new policy sources ids) earlier
    let x := (observe (reached (.new policy sources ids) earlier) op).1
    Advances op x.before.state x.after.state ∧
    (emitted past).length ≤ 1 ∧
    (∀ session, x.before.state = .established session → .shutdown ∉ later →
      (reached x.before later).state = .established session) ∧
    ∀ source sessionId, .sessionEstablished source sessionId ∈ effectsOf x.result →
      ∃ id attempt metadata now, op = .authenticatedClientFinish source id attempt metadata now ∧
        metadata.sessionId = sessionId ∧
        x.after.state = .established ⟨metadata, source, id, attempt, now⟩ ∧
        ∃ deadline, now < deadline ∧ Waits x.before ⟨id, source, attempt⟩ deadline ∧
          ∃ before hello between admittedAt,
            Provenance policy past ⟨id, source, attempt⟩ deadline before hello between admittedAt := by
  have start : Single [] (.new policy sources ids) := ⟨newRegistered policy sources ids, Nat.zero_le 1, fun _ => rfl⟩
  have single : Single (moments (.new policy sources ids) earlier) (reached (.new policy sources ids) earlier) :=
    runHistory singleStep start earlier
  have origin : Traced policy [] (.new policy sources ids) := by
    refine ⟨newRegistered policy sources ids, rfl, ?_⟩
    intro c deadline waits
    have entry := waits.entry
    simp [ServerHandshake.new] at entry
  have traced : Traced policy (moments (.new policy sources ids) earlier)
      (reached (.new policy sources ids) earlier) := runHistory tracedStep origin earlier
  have reg := single.registered
  refine ⟨stepAdvances reg op, single.once, fun session state open_ => sessionKept later reg state open_, ?_⟩
  intro source sessionId member
  have listed : (source, sessionId) ∈ sessionsOf (effectsOf (step _ op).1) := memSessions.mpr member
  rcases stepEmits reg op with nothing | ⟨_, _, id, attempt, metadata, now, m, expired, only, ex, middle, made⟩
  · exact absurd listed (nothing ▸ List.not_mem_nil)
  · rw [only] at listed
    cases List.mem_singleton.mp listed
    obtain ⟨p, found, key⟩ := ownedPending middle made.owned
    have waits : Waits m ⟨id, source, attempt⟩ p.deadline := ⟨made.owned.entry, p, found, key, rfl⟩
    obtain ⟨before, early⟩ := expiryBackwards ex waits
    exact ⟨id, attempt, metadata, now, made.op, made.session, made.state, p.deadline, early, before,
      traced.traced _ _ before⟩

end Crabnet.SingleSession
