import Crabnet.ServerRuns

/-! The policy's runs with every state kept: each operation with its answer,
the state it began in and the state it left. A transition is an expiry at the
operation's time, if it has one, and then one move of the registry. -/
namespace Crabnet.ServerTrail
open MachineWord SessionTypes HashTable Fallible PendingManager ServerPolicy ServerRegistry ServerOutcomes ServerRuns

structure Moment where
  before : ServerHandshake
  op : ServerOp
  result : Except ServerStateError ServerAnswer
  after : ServerHandshake

def observe (h : ServerHandshake) (op : ServerOp) : Moment × ServerHandshake :=
  (⟨h, op, (step h op).1, (step h op).2⟩, (step h op).2)

def moments (h : ServerHandshake) (ops : List ServerOp) : List Moment := (run observe h ops).1
def reached (h : ServerHandshake) (ops : List ServerOp) : ServerHandshake := (run observe h ops).2

def Moment.fine (x : Moment) : Bool :=
  match x.result with
  | .ok _ => true
  | .error _ => false

def expiredOf : Except ServerStateError ServerAnswer → List ExpiredServerCandidate
  | .ok (.report r) => r.expired
  | .ok (.precheck r) => r.expired
  | _ => []

def effectsOf : Except ServerStateError ServerAnswer → List ServerEffect
  | .ok (.report r) => r.effects
  | _ => []

def timeOf : ServerOp → Option Instant
  | .validClientHello _ _ now | .precheckClientFinish _ _ now | .authenticatedClientFinish _ _ _ _ now
  | .authenticationFailure _ _ _ now | .unexpectedMessage _ _ now | .checkTimeouts now => some now
  | .abortExactCandidate .. | .shutdown => none

structure Quiet (op : ServerOp) (effects : List ServerEffect) : Prop where
  unnumbered : newIds effects = []
  unestablished : ∀ source id, ServerEffect.sessionEstablished source id ∉ effects
  unfailed : ∀ source id attempt now, op = .authenticationFailure source id attempt now →
    effects ≠ [.dropped source .authenticationFailed]
  timed : ∃ now, timeOf op = some now

inductive Move (m : ServerHandshake) : ServerOp → List ServerEffect → ServerHandshake → Prop where
  | kept {op effects} (quiet : Quiet op effects) : Move m op effects m
  | admitted {source attempt now deadline next} (listening : m.state = .listening)
      (free : m.pending.pendingBySource.get source = none)
      (advance : checkedAdd m.pending.nextCandidateId 1 = some next)
      (timely : Instant.checkedAdd now m.pending.policy.handshakeTimeout = some deadline) :
      Move m (.validClientHello source attempt now)
        [.sendServerHello source ⟨m.pending.nextCandidateId⟩ attempt .newCandidate]
        (admitted m source attempt now deadline next)
  | failed {source id attempt now} (owned : Owned m source (bindingOf id source attempt)) :
      Move m (.authenticationFailure source id attempt now) [.dropped source .authenticationFailed]
        (without m (bindingOf id source attempt))
  | aborted {source id attempt} (owned : Owned m source (bindingOf id source attempt)) :
      Move m (.abortExactCandidate source id attempt) [] (without m (bindingOf id source attempt))
  | established {source id attempt metadata now} (owned : Owned m source (bindingOf id source attempt)) :
      Move m (.authenticatedClientFinish source id attempt metadata now)
        [.sendServerFinish source id attempt metadata.sessionId, .sessionEstablished source metadata.sessionId]
        (ServerHandshake.establish source id attempt metadata now (without m (bindingOf id source attempt)))
  | shutdown : Move m .shutdown m.shutdown.1.effects m.shutdown.2

inductive Transition (h : ServerHandshake) (op : ServerOp) :
    Except ServerStateError ServerAnswer → ServerHandshake → Prop where
  | timed {now m t answer} (time : timeOf op = some now) (ex : Expires h now (expiredOf (.ok answer)) m)
      (middle : Registered m) (move : Move m op (effectsOf (.ok answer)) t) : Transition h op (.ok answer) t
  | untimed {t answer} (time : timeOf op = none) (silent : expiredOf (.ok answer) = [])
      (move : Move h op (effectsOf (.ok answer)) t) : Transition h op (.ok answer) t
  -- A refused admission has expired what was due, and its report is lost with the error.
  | refused {now expired e t} (time : timeOf op = some now) (ex : Expires h now expired t) :
      Transition h op (.error e) t
  | ignored {e} (time : timeOf op = none) : Transition h op (.error e) h

theorem droppedQuiet {op source reason now} (timed : timeOf op = some now)
    (unfailed : ∀ source' id attempt at_, op = .authenticationFailure source' id attempt at_ →
      reason ≠ .authenticationFailed) : Quiet op [.dropped source reason] := by
  refine ⟨rfl, by simp, ?_, now, timed⟩
  intro source' id attempt at_ named same
  exact unfailed source' id attempt at_ named (by cases same; rfl)

theorem helloMove {m t : ServerHandshake} {source attempt now effects}
    (hello : HelloStep m source attempt now effects t) :
    Move m (.validClientHello source attempt now) effects t := by
  cases hello with
  | admitted deadline next listening free advance timely => exact .admitted listening free advance timely
  | resent b owned same => exact .kept ⟨rfl, by simp, by simp, now, rfl⟩
  | unavailable | active | stale | full => exact .kept (droppedQuiet rfl (by simp))

theorem unmatchedReason {m : ServerHandshake} {source id attempt reason}
    (unmatched : Unmatched m source id attempt reason) : reason ≠ .authenticationFailed := by
  cases unmatched <;> simp

theorem finishMove {m t : ServerHandshake} {source id attempt metadata now effects}
    (finish : FinishStep m source id attempt metadata now effects t) :
    Move m (.authenticatedClientFinish source id attempt metadata now) effects t := by
  cases finish with
  | refused reason unmatched => exact .kept (droppedQuiet rfl (by simp))
  | repeated session state peer sameId same => exact .kept ⟨rfl, by simp, by simp, now, rfl⟩
  | completed owned => exact .established owned

theorem failureMove {m t : ServerHandshake} {source id attempt now effects}
    (failure : FailureStep m source id attempt effects t) :
    Move m (.authenticationFailure source id attempt now) effects t := by
  cases failure with
  | refused reason unmatched =>
    exact .kept (droppedQuiet rfl fun _ _ _ _ _ => unmatchedReason unmatched)
  | removed owned => exact .failed owned

theorem performTransition {h : ServerHandshake} (reg : Registered h) (op : ServerOp) :
    Transition h op (perform op h).1 (perform op h).2 := by
  apply Action.wpOutcome (R := fun outcome => Transition h op outcome.1 outcome.2)
  cases op with
  | validClientHello source attempt now =>
    simp only [perform, reported, Action.wpBind, Action.wpPure]
    refine Action.wpMono (helloSpec reg source attempt now) ?_ ?_
    · intro r t spec
      obtain ⟨m, ex, middle, hello, _⟩ := spec
      exact .timed rfl ex middle (helloMove hello)
    · intro e t spec
      obtain ⟨_, _, expired, ex, _⟩ := spec
      exact .refused rfl ex
  | precheckClientFinish source attempt now =>
    simp only [perform, Action.wpBind, Action.wpPure]
    refine Action.wpMono (precheckSpec reg source attempt now) ?_ (fun _ _ => False.elim)
    intro r t spec
    obtain ⟨ex, middle, _⟩ := spec
    exact .timed rfl ex middle (.kept ⟨rfl, by simp [effectsOf], by simp, now, rfl⟩)
  | authenticatedClientFinish source id attempt metadata now =>
    simp only [perform, reported, Action.wpBind, Action.wpPure]
    refine Action.wpMono (finishSpec reg source id attempt metadata now) ?_ (fun _ _ => False.elim)
    intro r t spec
    obtain ⟨m, ex, middle, finish, _⟩ := spec
    exact .timed rfl ex middle (finishMove finish)
  | authenticationFailure source id attempt now =>
    simp only [perform, reported, Action.wpBind, Action.wpPure]
    refine Action.wpMono (failureSpec reg source id attempt now) ?_ (fun _ _ => False.elim)
    intro r t spec
    obtain ⟨m, ex, middle, failure, _⟩ := spec
    exact .timed rfl ex middle (failureMove failure)
  | unexpectedMessage source observed now =>
    simp only [perform, reported, Action.wpBind, Action.wpPure]
    refine Action.wpMono (unexpectedSpec reg source observed now) ?_ (fun _ _ => False.elim)
    intro r t spec
    obtain ⟨ex, middle, reason, effects⟩ := spec
    refine .timed rfl ex middle ?_
    rw [effectsOf, effects]
    exact .kept (droppedQuiet rfl (by simp))
  | checkTimeouts now =>
    simp only [perform, reported, Action.wpBind, Action.wpPure]
    refine Action.wpMono (timeoutsSpec reg now) ?_ (fun _ _ => False.elim)
    intro r t spec
    obtain ⟨effects, ex, middle⟩ := spec
    refine .timed rfl ex middle ?_
    rw [effectsOf, effects]
    exact .kept ⟨rfl, by simp, by simp, now, rfl⟩
  | abortExactCandidate source id attempt =>
    simp only [perform, Action.wpBind, Action.wpPure]
    refine Action.wpMono (abortSpec reg source id attempt) ?_ ?_
    · intro _ t spec
      obtain ⟨owned, rfl, _⟩ := spec
      exact .untimed rfl rfl (.aborted owned)
    · intro e t spec
      obtain ⟨_, rfl⟩ := spec
      exact .ignored rfl
  | shutdown =>
    simp only [perform, reported, Action.wpBind, Action.wpPure, Action.wpTotal]
    refine .untimed rfl ?_ .shutdown
    simp only [expiredOf, ServerHandshake.shutdown]
    split <;> rfl

theorem reachedStep (h : ServerHandshake) (ops : List ServerOp) : reached h ops = (run step h ops).2 := by
  induction ops generalizing h with
  | nil => rfl
  | cons op rest ih =>
    simp only [reached, run, observe] at ih ⊢
    exact ih _

theorem reachedLifetime (policy sources ids) (ops : List ServerOp) :
    Registered (reached (.new policy sources ids) ops) ∧
      (reached (.new policy sources ids) ops).pending.policy = policy := by
  rw [reachedStep]
  have life := lifetimeRun policy sources ids ops
  exact ⟨life.registered, life.policy⟩

structure Waits (h : ServerHandshake) (c : ServerCandidate) (deadline : Instant) : Prop where
  entry : h.candidateById.get c.candidateId = some c
  record : ∃ p, h.pending.pendingBySource.get c.source = some p ∧ p.id = c.candidateId ∧ p.deadline = deadline

structure Gone (h : ServerHandshake) (id : CandidateId) : Prop where
  registry : h.candidateById.get id = none
  manager : ∀ source p, h.pending.pendingBySource.get source = some p → p.id ≠ id

theorem goneOfRegistry {h : ServerHandshake} {id} (reg : Registered h)
    (absent : h.candidateById.get id = none) : Gone h id := by
  refine ⟨absent, ?_⟩
  intro source p found same
  obtain ⟨attempt, listed⟩ := reg.forward source p found
  rw [same, absent] at listed
  contradiction

theorem waitsBelow {h : ServerHandshake} {c deadline} (reg : Registered h) (waits : Waits h c deadline) :
    c.candidateId.value.toNat < h.pending.nextCandidateId.toNat := by
  obtain ⟨p, found, same, _⟩ := waits.record
  rw [← same]
  exact reg.below c.source p found

theorem waitsNotGone {h : ServerHandshake} {c deadline} (waits : Waits h c deadline) :
    ¬ Gone h c.candidateId := by
  intro gone
  have absent := gone.registry
  rw [waits.entry] at absent
  contradiction

def listing (c : ServerCandidate) : ExpiredServerCandidate := ⟨c.candidateId, c.source, c.clientAttemptId⟩

section Expiry
variable {h m : ServerHandshake} {now : Instant} {expired : List ExpiredServerCandidate}

theorem expiredListed {c : ServerCandidate} (ex : Expires h now expired m)
    (entry : h.candidateById.get c.candidateId = some c) :
    listing c ∈ expired ↔ c.candidateId ∈ expired.map (·.candidateId) := by
  constructor
  · intro listed
    exact List.mem_map.mpr ⟨listing c, listed, rfl⟩
  · intro named
    obtain ⟨e, member, same⟩ := List.mem_map.mp named
    have found := ex.listed e member
    rw [same, entry] at found
    have equal : listing c = e := by
      rw [Option.some.inj found]
      rfl
    exact equal ▸ member

theorem expiredLate {c deadline} (reg : Registered h) (ex : Expires h now expired m)
    (waits : Waits h c deadline) (listed : listing c ∈ expired) : deadline ≤ now := by
  obtain ⟨p, found, same, rfl⟩ := waits.record
  obtain ⟨p', found', same', late⟩ := ex.due (listing c) listed
  have source := sourceOfId reg found' found (same'.trans same.symm)
  rw [source, found] at found'
  cases Option.some.inj found'
  exact late

theorem expiryGone {c deadline} (middle : Registered m) (ex : Expires h now expired m)
    (waits : Waits h c deadline) (late : deadline ≤ now) : listing c ∈ expired ∧ Gone m c.candidateId := by
  obtain ⟨p, found, same, rfl⟩ := waits.record
  have removed : m.pending.pendingBySource.get c.source = none := by
    rw [ex.manager, found]
    simp [Option.filter, late]
  have absent : m.candidateById.get c.candidateId = none := by
    cases entry : m.candidateById.get c.candidateId with
    | none => rfl
    | some b =>
      -- an entry kept by the registry would still be backed by the manager
      have before := entry
      rw [ex.registry] at before
      split at before <;> try contradiction
      cases Option.some.inj (before.symm.trans waits.entry)
      obtain ⟨_, p', found', _⟩ := middle.backward _ _ entry
      rw [removed] at found'
      contradiction
  refine ⟨?_, goneOfRegistry middle absent⟩
  rw [expiredListed ex waits.entry]
  by_contra unlisted
  rw [ex.registry, if_neg unlisted, waits.entry] at absent
  contradiction

theorem expiryWaits {c deadline} (reg : Registered h) (ex : Expires h now expired m)
    (waits : Waits h c deadline) (early : now < deadline) : listing c ∉ expired ∧ Waits m c deadline := by
  have unlisted : listing c ∉ expired :=
    fun listed => Nat.not_le_of_lt early (expiredLate reg ex waits listed)
  obtain ⟨p, found, same, rfl⟩ := waits.record
  refine ⟨unlisted, ?_, p, ?_, same, rfl⟩
  · rw [ex.registry, if_neg, waits.entry]
    rw [← expiredListed ex waits.entry]
    exact unlisted
  · rw [ex.manager, found]
    simp [Option.filter, early]

theorem expiryStaysGone {id} (ex : Expires h now expired m) (gone : Gone h id) :
    id ∉ expired.map (·.candidateId) ∧ Gone m id := by
  refine ⟨?_, ?_, ?_⟩
  · intro named
    obtain ⟨e, member, same⟩ := List.mem_map.mp named
    have found := ex.listed e member
    rw [same, gone.registry] at found
    contradiction
  · rw [ex.registry, gone.registry]
    split <;> rfl
  · intro source p found
    rw [ex.manager] at found
    exact gone.manager source p (Option.filter_eq_some_iff.mp found).1

theorem expiryBackwards {c deadline} (ex : Expires h now expired m) (waits : Waits m c deadline) :
    Waits h c deadline ∧ now < deadline := by
  obtain ⟨p, found, same, rfl⟩ := waits.record
  have early := expiresEarly ex found
  rw [ex.manager] at found
  refine ⟨⟨?_, p, (Option.filter_eq_some_iff.mp found).1, same, rfl⟩, early⟩
  have entry := waits.entry
  rw [ex.registry] at entry
  split at entry <;> try contradiction
  exact entry

end Expiry

inductive Departure where
  | expired | failed | aborted | established | shutdown
  deriving DecidableEq

inductive Removal (c : ServerCandidate) : ServerOp → List ServerEffect → Departure → Prop where
  | failed {now effects} (dropped : effects = [.dropped c.source .authenticationFailed]) :
      Removal c (.authenticationFailure c.source c.candidateId c.clientAttemptId now) effects .failed
  | aborted {effects} :
      Removal c (.abortExactCandidate c.source c.candidateId c.clientAttemptId) effects .aborted
  | established {source id attempt metadata now effects sessionId}
      (emitted : ServerEffect.sessionEstablished source sessionId ∈ effects) :
      Removal c (.authenticatedClientFinish source id attempt metadata now) effects .established
  | shutdown {effects} : Removal c .shutdown effects .shutdown

theorem removalUnique {c op effects way other} (first : Removal c op effects way)
    (second : Removal c op effects other) : other = way := by
  cases first <;> cases second <;> rfl

theorem removalNotExpired {c op effects way} (removal : Removal c op effects way) : way ≠ .expired := by
  cases removal <;> simp

theorem quietStays {op effects} (quiet : Quiet op effects) (c way) : ¬ Removal c op effects way := by
  intro removal
  obtain ⟨now, timed⟩ := quiet.timed
  cases removal with
  | failed dropped => exact quiet.unfailed _ _ _ _ rfl dropped
  | aborted => contradiction
  | established emitted => exact quiet.unestablished _ _ emitted
  | shutdown => contradiction

theorem withoutFate {m : ServerHandshake} {c b deadline} (reg : Registered m) (after : Registered (without m b))
    (entry : m.candidateById.get b.candidateId = some b) (waits : Waits m c deadline) :
    (c ≠ b ∧ Waits (without m b) c deadline) ∨ (c = b ∧ Gone (without m b) c.candidateId) := by
  by_cases same : c.candidateId = b.candidateId
  · have equal : c = b := by
      have found := waits.entry
      rw [same, entry] at found
      exact (Option.some.inj found).symm
    subst equal
    refine .inr ⟨rfl, goneOfRegistry after ?_⟩
    simp [without, HashMap.getRemove]
  · refine .inl ⟨fun equal => same (by rw [equal]), ?_, ?_⟩
    · rw [without, HashMap.getRemove, if_neg same]
      exact waits.entry
    · obtain ⟨p, found, id, late⟩ := waits.record
      obtain ⟨_, p', found', id'⟩ := reg.backward _ _ entry
      refine ⟨p, ?_, id, late⟩
      rw [without, HashMap.getRemove, if_neg]
      · exact found
      · intro shared
        rw [shared, found'] at found
        cases Option.some.inj found
        exact same (id.symm.trans id')

theorem admittedWaits {m : ServerHandshake} {c source attempt now deadline next expires} (reg : Registered m)
    (free : m.pending.pendingBySource.get source = none) (waits : Waits m c deadline) :
    Waits (admitted m source attempt now expires next) c deadline := by
  obtain ⟨p, found, same, late⟩ := waits.record
  have below := waitsBelow reg waits
  refine ⟨?_, p, ?_, same, late⟩
  · rw [admitted, HashMap.getInsert, if_neg]
    · exact waits.entry
    · intro next
      rw [next] at below
      exact Nat.lt_irrefl _ below
  · rw [admitted, HashMap.getInsert, if_neg]
    · exact found
    · intro shared
      rw [shared, free] at found
      contradiction

theorem outsideGone {h : ServerHandshake} (reg : Registered h) (outside : h.state ≠ .listening) (id) : Gone h id :=
  goneOfRegistry reg ((HashMap.lenEqZeroIff _).mp (reg.emptyOutside outside).2 id)

theorem shutdownState (h : ServerHandshake) : h.shutdown.2.state = .closed := by
  unfold ServerHandshake.shutdown
  split <;> simp [*]

theorem moveFate {m t : ServerHandshake} {op effects c deadline} (reg : Registered m) (after : Registered t)
    (waits : Waits m c deadline) (move : Move m op effects t) :
    (Waits t c deadline ∧ ∀ way, ¬ Removal c op effects way) ∨
      (Gone t c.candidateId ∧ ∃ way, Removal c op effects way) := by
  cases move with
  | kept quiet => exact .inl ⟨waits, quietStays quiet c⟩
  | admitted listening free advance timely =>
    exact .inl ⟨admittedWaits reg free waits, fun way removal => by cases removal⟩
  | failed owned =>
    rcases withoutFate reg after owned.entry waits with ⟨other, stays⟩ | ⟨equal, gone⟩
    · refine .inl ⟨stays, ?_⟩
      intro way removal
      cases removal
      exact other rfl
    · subst equal
      exact .inr ⟨gone, .failed, .failed rfl⟩
  | aborted owned =>
    rcases withoutFate reg after owned.entry waits with ⟨other, stays⟩ | ⟨equal, gone⟩
    · refine .inl ⟨stays, ?_⟩
      intro way removal
      cases removal
      exact other rfl
    · subst equal
      exact .inr ⟨gone, .aborted, .aborted⟩
  | established owned =>
    have outside := outsideGone after (by simp [ServerHandshake.establish]) c.candidateId
    exact .inr ⟨outside, .established, .established (List.mem_cons_of_mem _ List.mem_cons_self)⟩
  | shutdown =>
    have outside := outsideGone after (by simp [shutdownState]) c.candidateId
    exact .inr ⟨outside, .shutdown, .shutdown⟩

theorem moveGone {m t : ServerHandshake} {op effects id} (after : Registered t)
    (below : id.value.toNat < m.pending.nextCandidateId.toNat) (gone : Gone m id)
    (move : Move m op effects t) : Gone t id := by
  cases move with
  | kept quiet => exact gone
  | admitted listening free advance timely =>
    refine goneOfRegistry after ?_
    rw [admitted, HashMap.getInsert, if_neg]
    · exact gone.registry
    · intro same
      rw [same] at below
      exact Nat.lt_irrefl _ below
  | failed owned =>
    refine goneOfRegistry after ?_
    rw [without, HashMap.getRemove, gone.registry]
    exact ite_self none
  | aborted owned =>
    refine goneOfRegistry after ?_
    rw [without, HashMap.getRemove, gone.registry]
    exact ite_self none
  | established owned => exact outsideGone after (by simp [ServerHandshake.establish]) id
  | shutdown => exact outsideGone after (by simp [shutdownState]) id

theorem stepGone {h : ServerHandshake} {id} (reg : Registered h)
    (below : id.value.toNat < h.pending.nextCandidateId.toNat) (gone : Gone h id) (op : ServerOp) :
    Gone (step h op).2 id ∧ id ∉ (expiredOf (step h op).1).map (·.candidateId) := by
  have after := (stepKept reg op).1.registered
  have transition := performTransition reg op
  unfold step at after ⊢
  generalize (perform op h).2 = t at after transition ⊢
  generalize (perform op h).1 = result at transition ⊢
  cases transition with
  | timed time ex middle move =>
    have swept := expiryStaysGone ex gone
    rw [← ex.next] at below
    exact ⟨moveGone after below swept.2 move, swept.1⟩
  | untimed time silent move =>
    rw [silent]
    exact ⟨moveGone after below gone move, List.not_mem_nil⟩
  | refused time ex => exact ⟨(expiryStaysGone ex gone).2, List.not_mem_nil⟩
  | ignored time => exact ⟨gone, List.not_mem_nil⟩

theorem stepNumbers {h : ServerHandshake} (reg : Registered h) (op : ServerOp) :
    h.pending.nextCandidateId.toNat ≤ (step h op).2.pending.nextCandidateId.toNat := by
  rcases (stepKept reg op).1.numbered with ⟨_, same⟩ | ⟨_, grown⟩
  · rw [same]
  · omega

end Crabnet.ServerTrail
