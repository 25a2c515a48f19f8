import Crabnet.ServerTrail

/-! The life of an admitted candidate, from its admission to its one way out,
and the deadlines of those that remain. Iteration order of the maps is
arbitrary; nothing here depends on it. -/
namespace Crabnet.CandidateTiming
open MachineWord SessionTypes HashTable Fallible PendingManager ServerPolicy ServerRegistry ServerOutcomes
open ServerRuns ServerTrail

structure Admits (x : Moment) (c : ServerCandidate) (now : Instant) : Prop where
  op : x.op = .validClientHello c.source c.clientAttemptId now
  sent : .sendServerHello c.source c.candidateId c.clientAttemptId .newCandidate ∈ effectsOf x.result

inductive Leaves (x : Moment) (c : ServerCandidate) (deadline : Instant) : Departure → Prop where
  | expired (listed : listing c ∈ expiredOf x.result) : Leaves x c deadline .expired
  | removed {way} (fine : x.fine = true) (early : ∀ now, timeOf x.op = some now → now < deadline)
      (removal : Removal c x.op (effectsOf x.result) way) : Leaves x c deadline way

inductive Life (c : ServerCandidate) (deadline : Instant) : List Moment → Prop where
  | pending : Life c deadline []
  | waits {x rest} (before : Waits x.before c deadline) (after : Waits x.after c deadline)
      (stays : ∀ way, ¬ Leaves x c deadline way)
      (early : ∀ now, timeOf x.op = some now → now < deadline)
      (next : Life c deadline rest) : Life c deadline (x :: rest)
  | leaves {x rest} (way : Departure) (before : Waits x.before c deadline) (out : Leaves x c deadline way)
      (only : ∀ other, Leaves x c deadline other → other = way)
      (timely : way = .expired ↔ ∃ now, timeOf x.op = some now ∧ deadline ≤ now)
      (after : Gone x.after c.candidateId)
      (never : ∀ y ∈ rest, Gone y.after c.candidateId ∧
        c.candidateId ∉ (expiredOf y.result).map (·.candidateId)) : Life c deadline (x :: rest)

structure Remains (x : Moment) (c : ServerCandidate) (deadline : Instant) : Prop where
  after : Waits x.after c deadline
  stays : ∀ way, ¬ Leaves x c deadline way
  early : ∀ now, timeOf x.op = some now → now < deadline

structure Departs (x : Moment) (c : ServerCandidate) (deadline : Instant) (way : Departure) : Prop where
  out : Leaves x c deadline way
  only : ∀ other, Leaves x c deadline other → other = way
  timely : way = .expired ↔ ∃ now, timeOf x.op = some now ∧ deadline ≤ now
  after : Gone x.after c.candidateId

theorem moveEnds {x : Moment} {m : ServerHandshake} {c deadline} (reg : Registered m) (after : Registered x.after)
    (fine : x.fine = true) (early : ∀ now, timeOf x.op = some now → now < deadline)
    (unlisted : listing c ∉ expiredOf x.result) (waits : Waits m c deadline)
    (move : Move m x.op (effectsOf x.result) x.after) :
    Remains x c deadline ∨ ∃ way, Departs x c deadline way := by
  rcases moveFate reg after waits move with ⟨stays, unmoved⟩ | ⟨gone, way, removal⟩
  · refine .inl ⟨stays, ?_, early⟩
    intro way leaves
    cases leaves with
    | expired listed => exact unlisted listed
    | removed _ _ removal => exact unmoved way removal
  · refine .inr ⟨way, .removed fine early removal, ?_, ?_, gone⟩
    · intro other leaves
      cases leaves with
      | expired listed => exact absurd listed unlisted
      | removed _ _ second => exact removalUnique removal second
    · constructor
      · intro expired
        exact absurd expired (removalNotExpired removal)
      · intro ⟨now, time, late⟩
        exact absurd (early now time) (Nat.not_lt_of_le late)

theorem fate {h : ServerHandshake} {c deadline} (reg : Registered h) (waits : Waits h c deadline)
    (op : ServerOp) (fine : (observe h op).1.fine = true) :
    Remains (observe h op).1 c deadline ∨ ∃ way, Departs (observe h op).1 c deadline way := by
  have after := (stepKept reg op).1.registered
  have transition := performTransition reg op
  unfold observe step at fine ⊢
  unfold step at after
  generalize (perform op h).2 = t at after transition fine ⊢
  generalize (perform op h).1 = result at transition fine ⊢
  cases transition with
  | refused time ex => contradiction
  | ignored time => contradiction
  | untimed time silent move =>
    refine moveEnds (m := h) reg after fine ?_ ?_ waits move
    · intro now found
      rw [time] at found
      contradiction
    · rw [silent]
      exact List.not_mem_nil
  | @timed now m _ _ time ex middle move =>
    by_cases late : deadline ≤ now
    · obtain ⟨listed, gone⟩ := expiryGone middle ex waits late
      have below := waitsBelow reg waits
      rw [← ex.next] at below
      refine .inr ⟨.expired, .expired listed, ?_, ⟨fun _ => ⟨now, time, late⟩, fun _ => rfl⟩,
        moveGone after below gone move⟩
      intro other leaves
      cases leaves with
      | expired _ => rfl
      | removed _ early _ => exact absurd (early now time) (Nat.not_lt_of_le late)
    · obtain ⟨unlisted, stays⟩ := expiryWaits reg ex waits (Nat.lt_of_not_le late)
      refine moveEnds (m := m) middle after fine ?_ unlisted stays move
      intro at_ found
      cases Option.some.inj (time.symm.trans found)
      exact Nat.lt_of_not_le late

theorem goneForGood {id : CandidateId} (ops : List ServerOp) {h : ServerHandshake} (reg : Registered h)
    (below : id.value.toNat < h.pending.nextCandidateId.toNat) (gone : Gone h id) :
    ∀ y ∈ moments h ops, Gone y.after id ∧ id ∉ (expiredOf y.result).map (·.candidateId) := by
  induction ops generalizing h with
  | nil => simp [moments, run]
  | cons op rest ih =>
    intro y member
    have next := stepGone reg below gone op
    rcases List.mem_cons.mp member with rfl | later
    · exact next
    · exact ih (stepKept reg op).1.registered (Nat.lt_of_lt_of_le below (stepNumbers reg op)) next.1 y later

theorem lifeRun {c : ServerCandidate} {deadline : Instant} (ops : List ServerOp) {h : ServerHandshake}
    (reg : Registered h) (waits : Waits h c deadline) (fine : ∀ x ∈ moments h ops, x.fine = true) :
    Life c deadline (moments h ops) := by
  induction ops generalizing h with
  | nil => exact .pending
  | cons op rest ih =>
    have after := (stepKept reg op).1.registered
    rcases fate reg waits op (fine _ List.mem_cons_self) with remains | ⟨way, departs⟩
    · exact .waits waits remains.after remains.stays remains.early
        (ih after remains.after fun x member => fine x (List.mem_cons_of_mem _ member))
    · have below := Nat.lt_of_lt_of_le (waitsBelow reg waits) (stepNumbers reg op)
      exact .leaves way waits departs.out departs.only departs.timely departs.after
        (goneForGood rest after below departs.after)

theorem timelyDeadline {now timeout deadline : Nat} (ok : Instant.checkedAdd now timeout = some deadline) :
    deadline = now + timeout := by
  simp only [Instant.checkedAdd] at ok
  split at ok <;> try contradiction
  exact (Option.some.inj ok).symm

theorem newIdsMem {effects : List ServerEffect} {source id attempt}
    (sent : ServerEffect.sendServerHello source id attempt .newCandidate ∈ effects) : id ∈ newIds effects :=
  List.mem_filterMap.mpr ⟨_, sent, rfl⟩

theorem moveAdmits {m t : ServerHandshake} {op effects source id attempt}
    (move : Move m op effects t)
    (sent : ServerEffect.sendServerHello source id attempt .newCandidate ∈ effects) :
    ∃ now, op = .validClientHello source attempt now ∧
      Waits t ⟨id, source, attempt⟩ (now + m.pending.policy.handshakeTimeout) := by
  have numbered := newIdsMem sent
  cases move with
  | kept quiet =>
    rw [quiet.unnumbered] at numbered
    contradiction
  | failed owned => simp at sent
  | aborted owned => simp at sent
  | established owned => simp at sent
  | shutdown =>
    simp only [ServerHandshake.shutdown] at sent
    split at sent <;> simp at sent
  | @admitted _ _ now deadline next listening free advance timely =>
    cases List.mem_singleton.mp sent
    refine ⟨now, rfl, ?_, ⟨⟨m.pending.nextCandidateId⟩, now, deadline⟩, ?_, rfl, timelyDeadline timely⟩
    · simp [admitted, HashMap.getInsert]
    · simp [admitted, HashMap.getInsert]

theorem admission {h : ServerHandshake} {op c now} (reg : Registered h) (admits : Admits (observe h op).1 c now) :
    Waits (observe h op).1.after c (now + h.pending.policy.handshakeTimeout) := by
  obtain ⟨named, sent⟩ := admits
  have transition := performTransition reg op
  unfold observe step at named sent ⊢
  generalize (perform op h).2 = t at transition named sent ⊢
  generalize (perform op h).1 = result at transition named sent ⊢
  cases transition with
  | refused time ex => contradiction
  | ignored time => contradiction
  | untimed time silent move =>
    obtain ⟨at_, same, waits⟩ := moveAdmits move sent
    cases named.symm.trans same
    exact waits
  | timed time ex middle move =>
    obtain ⟨at_, same, waits⟩ := moveAdmits move sent
    cases named.symm.trans same
    rw [← ex.policy]
    exact waits

theorem moveDeadlines {m t : ServerHandshake} {op effects now} (time : timeOf op = some now)
    (early : ∀ source p, m.pending.pendingBySource.get source = some p → now < p.deadline)
    (move : Move m op effects t) (listening : t.state = .listening) :
    ∀ source p, t.pending.pendingBySource.get source = some p → now < p.deadline := by
  intro source p found
  cases move with
  | kept quiet => exact early source p found
  | admitted state free advance timely =>
    simp only [admitted, HashMap.getInsert] at found
    split at found
    · cases Option.some.inj found
      cases Option.some.inj time
      rw [timelyDeadline timely]
      exact Nat.lt_add_of_pos_right (Nat.pos_of_ne_zero m.pending.policy.handshakePositive)
    · exact early source p found
  | failed owned =>
    simp only [without, HashMap.getRemove] at found
    split at found <;> try contradiction
    exact early source p found
  | aborted owned => contradiction
  | established owned => contradiction
  | shutdown => contradiction

theorem deadlinesAfter {h : ServerHandshake} {op now} (reg : Registered h) (time : timeOf op = some now)
    (listening : (step h op).2.state = .listening) :
    ∀ source p, (step h op).2.pending.pendingBySource.get source = some p → now < p.deadline := by
  have transition := performTransition reg op
  unfold step at listening ⊢
  generalize (perform op h).2 = t at transition listening ⊢
  generalize (perform op h).1 = result at transition
  cases transition with
  | untimed untimed => rw [untimed] at time; contradiction
  | ignored untimed => rw [untimed] at time; contradiction
  | refused same ex =>
    cases Option.some.inj (time.symm.trans same)
    exact fun source p found => expiresEarly ex found
  | timed same ex middle move =>
    cases Option.some.inj (time.symm.trans same)
    exact moveDeadlines time (fun source p found => expiresEarly ex found) move listening

theorem nearestNone (m : SessionManager) : m.nearest = none ↔ ∀ source, m.pendingBySource.get source = none := by
  rw [SessionManager.nearest, List.min?_eq_none_iff, List.map_eq_nil_iff, ← List.length_eq_zero_iff,
    HashMap.iterLength, HashMap.lenEqZeroIff]

theorem nearestSome (m : SessionManager) (deadline : Instant) : m.nearest = some deadline ↔
    (∃ source p, m.pendingBySource.get source = some p ∧ p.deadline = deadline) ∧
      ∀ source p, m.pendingBySource.get source = some p → deadline ≤ p.deadline := by
  rw [SessionManager.nearest, List.min?_eq_some_iff]
  constructor
  · intro ⟨member, least⟩
    obtain ⟨e, inside, same⟩ := List.mem_map.mp member
    refine ⟨⟨e.1, e.2, (HashMap.memIter _ e).mp inside, same⟩, ?_⟩
    intro source p found
    exact least p.deadline (List.mem_map.mpr ⟨⟨source, p⟩, (HashMap.memIter _ _).mpr found, rfl⟩)
  · intro ⟨⟨source, p, found, same⟩, least⟩
    refine ⟨List.mem_map.mpr ⟨⟨source, p⟩, (HashMap.memIter _ _).mpr found, same⟩, ?_⟩
    intro other member
    obtain ⟨e, inside, rfl⟩ := List.mem_map.mp member
    exact least e.1 e.2 ((HashMap.memIter _ e).mp inside)

theorem nextDeadlineNearest {h : ServerHandshake} (reg : Registered h) (listening : h.state = .listening) :
    h.nextDeadline = h.pending.nearest := by
  simp only [ServerHandshake.nextDeadline, listening, SessionManager.nextDeadline, notClosed reg listening, if_false]

structure Crowded (h : ServerHandshake) (source : SocketAddr) (now : Instant) (limit : Nat)
    (t : ServerHandshake) : Prop where
  maximum : limit = h.pending.policy.maximumPending
  full : t.pending.pendingBySource.len = limit
  others : ∀ other p, t.pending.pendingBySource.get other = some p → other ≠ source ∧ now < p.deadline

theorem crowdedHello {h : ServerHandshake} {source attempt now limit} (reg : Registered h)
    (refused : .dropped source (.pendingCapacityReached limit) ∈
      effectsOf (step h (.validClientHello source attempt now)).1) :
    Crowded h source now limit (step h (.validClientHello source attempt now)).2 := by
  revert refused
  unfold step
  apply Action.wpOutcome (R := fun outcome : Except ServerStateError ServerAnswer × ServerHandshake =>
    .dropped source (.pendingCapacityReached limit) ∈ effectsOf outcome.1 → Crowded h source now limit outcome.2)
  simp only [perform, reported, Action.wpBind, Action.wpPure]
  refine Action.wpMono (helloSpec reg source attempt now) ?_ (fun _ _ _ impossible => by cases impossible)
  intro r t spec refused
  obtain ⟨m, ex, middle, hello, _⟩ := spec
  obtain ⟨expired, effects⟩ := r
  simp only [effectsOf] at refused hello
  cases hello with
  | full listening free crowded =>
    cases List.mem_singleton.mp refused
    refine ⟨by rw [ex.policy], Nat.le_antisymm middle.bounded crowded, ?_⟩
    intro other p found
    refine ⟨?_, expiresEarly ex found⟩
    intro same
    rw [same, free] at found
    contradiction
  | unavailable | active | stale | resent | admitted => cases List.mem_singleton.mp refused

theorem candidateConservation (policy : SessionPolicy) (sources : Hasher SocketAddr PendingCandidate)
    (ids : Hasher CandidateId ServerCandidate) (earlier : List ServerOp) (op : ServerOp) (later : List ServerOp) :
    let x := (observe (reached (.new policy sources ids) earlier) op).1
    (∀ c now, Admits x c now → (∀ y ∈ moments x.after later, y.fine = true) →
      Waits x.after c (now + policy.handshakeTimeout) ∧
      Life c (now + policy.handshakeTimeout) (moments x.after later)) ∧
    (∀ now, timeOf op = some now → x.after.state = .listening →
      (∀ source p, x.after.pending.pendingBySource.get source = some p → now < p.deadline) ∧
      (x.after.nextDeadline = none ↔ ∀ source, x.after.pending.pendingBySource.get source = none) ∧
      ∀ deadline, x.after.nextDeadline = some deadline ↔
        (∃ source p, x.after.pending.pendingBySource.get source = some p ∧ p.deadline = deadline) ∧
          ∀ source p, x.after.pending.pendingBySource.get source = some p → deadline ≤ p.deadline) ∧
    ∀ source attempt now limit, op = .validClientHello source attempt now →
      .dropped source (.pendingCapacityReached limit) ∈ effectsOf x.result →
        limit = policy.maximumPending ∧ x.after.pending.pendingBySource.len = policy.maximumPending ∧
        ∀ other p, x.after.pending.pendingBySource.get other = some p → other ≠ source ∧ now < p.deadline := by
  obtain ⟨reg, configured⟩ := reachedLifetime policy sources ids earlier
  generalize reached (.new policy sources ids) earlier = h at reg configured
  subst configured
  have after := (stepKept reg op).1.registered
  refine ⟨?_, ?_, ?_⟩
  · intro c now admits fine
    have waits := admission reg admits
    exact ⟨waits, lifeRun later after waits fine⟩
  · intro now time listening
    have nearest := nextDeadlineNearest after listening
    refine ⟨deadlinesAfter reg time listening, ?_, ?_⟩
    · exact (congrArg (· = none) nearest).to_iff.trans (nearestNone _)
    · intro deadline
      exact (congrArg (· = some deadline) nearest).to_iff.trans (nearestSome _ deadline)
  · intro source attempt now limit named refused
    subst named
    have crowded := crowdedHello reg refused
    exact ⟨crowded.maximum, crowded.full.trans crowded.maximum, crowded.others⟩

def narrowPolicy : SessionPolicy := ⟨1, 10, 10, by decide, by decide, by decide⟩
def firstPeer : SocketAddr := .v4 0x7F000001 40001
def secondPeer : SocketAddr := .v4 0x7F000001 40002
def firstCandidate : ServerCandidate := ⟨⟨1⟩, firstPeer, ⟨7⟩⟩

def firstMoment : Moment :=
  (observe (reached (.new narrowPolicy (.listing _ _) (.listing _ _)) [.checkTimeouts 4])
    (.validClientHello firstPeer ⟨7⟩ 5)).1

def laterOps : List ServerOp :=
  [.validClientHello firstPeer ⟨7⟩ 8, .validClientHello secondPeer ⟨9⟩ 9, .checkTimeouts 15, .shutdown]

theorem candidateConservationExpires :
    Admits firstMoment firstCandidate 5 ∧ (∀ y ∈ moments firstMoment.after laterOps, y.fine = true) ∧
      Life firstCandidate 15 (moments firstMoment.after laterOps) := by
  have admits : Admits firstMoment firstCandidate 5 := ⟨rfl, by decide +kernel⟩
  have fine : ∀ y ∈ moments firstMoment.after laterOps, y.fine = true := by decide +kernel
  have conserved := candidateConservation narrowPolicy (.listing _ _) (.listing _ _) [.checkTimeouts 4]
    (.validClientHello firstPeer ⟨7⟩ 5) laterOps
  exact ⟨admits, fine, (conserved.1 firstCandidate 5 admits fine).2⟩

end Crabnet.CandidateTiming
