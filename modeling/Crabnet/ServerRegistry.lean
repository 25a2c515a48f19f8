import Crabnet.ServerPolicy

/-! The two maps of the listening server stay in bijection. Each operation has
one specification from a registered state; the runs below are over every
operation of the policy, with any arguments, times and failures. -/
namespace Crabnet.ServerRegistry
open MachineWord SessionTypes HashTable Fallible PendingManager ServerPolicy

structure Registered (h : ServerHandshake) : Prop where
  forward : ∀ source c, h.pending.pendingBySource.get source = some c →
    ∃ attempt, h.candidateById.get c.id = some ⟨c.id, source, attempt⟩
  backward : ∀ id b, h.candidateById.get id = some b →
    b.candidateId = id ∧ ∃ c, h.pending.pendingBySource.get b.source = some c ∧ c.id = id
  below : ∀ source c, h.pending.pendingBySource.get source = some c →
    c.id.value.toNat < h.pending.nextCandidateId.toNat
  bounded : h.pending.pendingBySource.len ≤ h.pending.policy.maximumPending
  running : h.pending.state = .running ↔ h.state = .listening
  emptyOutside : h.state ≠ .listening → h.pending.pendingBySource.len = 0 ∧ h.candidateById.len = 0

theorem newRegistered (policy sources ids) : Registered (ServerHandshake.new policy sources ids) := by
  constructor <;> simp [ServerHandshake.new, SessionManager.new]

theorem sourceOfId {h : ServerHandshake} (reg : Registered h) {s s' c c'}
    (left : h.pending.pendingBySource.get s = some c) (right : h.pending.pendingBySource.get s' = some c')
    (same : c.id = c'.id) : s = s' := by
  obtain ⟨a, ha⟩ := reg.forward s c left
  obtain ⟨b, hb⟩ := reg.forward s' c' right
  rw [same, hb] at ha
  exact congrArg ServerCandidate.source (Option.some.inj ha).symm

theorem sizes {h : ServerHandshake} (reg : Registered h) :
    h.pending.pendingBySource.len = h.candidateById.len := by
  apply HashMap.lenEqOfBijection (fun e => e.2.id)
  · intro a ha b hb same
    rw [HashMap.memIter] at ha hb
    exact sourceOfId reg ha hb same
  · intro id
    constructor
    · intro spec
      obtain ⟨e, member, rfl⟩ := spec
      rw [HashMap.memIter] at member
      obtain ⟨attempt, found⟩ := reg.forward _ _ member
      exact ⟨_, found⟩
    · intro spec
      obtain ⟨b, found⟩ := spec
      obtain ⟨_, c, hc, rfl⟩ := reg.backward id b found
      exact ⟨⟨b.source, c⟩, (HashMap.memIter _ _).mpr hc, rfl⟩

theorem notClosed {h : ServerHandshake} (reg : Registered h) (listening : h.state = .listening) :
    h.pending.state ≠ .closed := by
  rw [reg.running.mpr listening]
  decide

theorem candidateAny {h : ServerHandshake} (reg : Registered h) (source) :
    h.pending.candidate source = h.pending.pendingBySource.get source := by
  unfold SessionManager.candidate
  split
  · rename_i closed
    have outside : h.state ≠ .listening := fun listening => notClosed reg listening closed
    exact ((HashMap.lenEqZeroIff _).mp (reg.emptyOutside outside).1 source).symm
  · rfl

theorem verifyBindingsOk {h : ServerHandshake} (reg : Registered h)
    {entries : List (Entry CandidateId ServerCandidate)}
    (all : ∀ e ∈ entries, h.candidateById.get e.1 = some e.2) :
    ServerHandshake.verifyBindings h.pending entries = .ok () := by
  induction entries with
  | nil => rfl
  | cons e rest ih =>
    obtain ⟨same, c, found, key⟩ := reg.backward e.1 e.2 (all e List.mem_cons_self)
    have match_ : c.id = e.2.candidateId := key.trans same.symm
    simp only [ServerHandshake.verifyBindings, candidateAny reg, found, match_, ne_eq,
      not_true_eq_false, if_false]
    exact ih fun e member => all e (List.mem_cons_of_mem _ member)

theorem verifyOk {h : ServerHandshake} (reg : Registered h) : h.verifyCandidateMaps = .ok () := by
  have bindings := verifyBindingsOk reg (fun e member => (HashMap.memIter h.candidateById e).mp member)
  have outside : ¬ (h.stateName ≠ .listening ∧ h.candidateById.isEmpty = false) := by
    intro spec
    obtain ⟨name, full⟩ := spec
    have state : h.state ≠ .listening := by
      intro listening
      simp [ServerHandshake.stateName, listening] at name
    simp [HashMap.isEmpty, (reg.emptyOutside state).2] at full
  rw [ServerHandshake.verifyCandidateMaps, if_neg outside, bindings]
  simp [SessionManager.pendingCount, sizes reg]

theorem verifySpec {h : ServerHandshake} (reg : Registered h) {Q : Unit → ServerHandshake → Prop}
    {E : ServerStateError → ServerHandshake → Prop} (post : Q () h) :
    Action.wp ServerHandshake.verify Q E h := by
  simpa [ServerHandshake.verify, verifyOk reg] using post

theorem currentOk {h : ServerHandshake} (reg : Registered h) (source : SocketAddr) :
    (h.pending.pendingBySource.get source = none ∧ h.currentCandidate source = .ok none) ∨
    ∃ b, h.candidateById.get b.candidateId = some b ∧ b.source = source ∧
      h.currentCandidate source = .ok (some b) := by
  unfold ServerHandshake.currentCandidate
  rw [candidateAny reg]
  cases found : h.pending.pendingBySource.get source with
  | none => exact .inl ⟨rfl, rfl⟩
  | some c =>
    obtain ⟨attempt, entry⟩ := reg.forward source c found
    exact .inr ⟨⟨c.id, source, attempt⟩, entry, rfl, by simp [entry]⟩

theorem memDue {m : SessionManager} {now : Instant} {item : ExpiredCandidate} :
    item ∈ m.due now ↔
      ∃ c, m.pendingBySource.get item.source = some c ∧ c.id = item.candidateId ∧ c.deadline ≤ now := by
  simp only [SessionManager.due, List.mem_map, List.mem_filter, decide_eq_true_eq]
  constructor
  · intro spec
    obtain ⟨e, ⟨member, late⟩, rfl⟩ := spec
    exact ⟨e.2, (HashMap.memIter _ e).mp member, rfl, late⟩
  · intro spec
    obtain ⟨c, found, same, late⟩ := spec
    exact ⟨⟨item.source, c⟩, ⟨(HashMap.memIter _ _).mpr found, late⟩, by rw [same]⟩

theorem dueIdsNodup {h : ServerHandshake} (reg : Registered h) (now : Instant) :
    ((h.pending.due now).map (·.candidateId)).Nodup := by
  rw [SessionManager.due, List.map_map]
  refine List.Nodup.map_on ?_ ((List.Nodup.of_map _ (HashMap.iterKeysNodup _)).filter _)
  intro a ha b hb same
  have left := (HashMap.memIter _ a).mp (List.mem_filter.mp ha).1
  have right := (HashMap.memIter _ b).mp (List.mem_filter.mp hb).1
  have keys : a.1 = b.1 := sourceOfId reg left right same
  rw [keys] at left
  exact Sigma.ext keys (heq_of_eq (Option.some.inj (left.symm.trans right)))

def entryOf (e : ExpiredServerCandidate) : ServerCandidate := ⟨e.candidateId, e.source, e.clientAttemptId⟩

structure Expires (h : ServerHandshake) (now : Instant) (expired : List ExpiredServerCandidate)
    (t : ServerHandshake) : Prop where
  state : t.state = h.state
  policy : t.pending.policy = h.pending.policy
  next : t.pending.nextCandidateId = h.pending.nextCandidateId
  manager : ∀ source, t.pending.pendingBySource.get source =
    (h.pending.pendingBySource.get source).filter (fun c => decide (now < c.deadline))
  registry : ∀ id, t.candidateById.get id =
    if id ∈ expired.map (·.candidateId) then none else h.candidateById.get id
  listed : ∀ e ∈ expired, h.candidateById.get e.candidateId = some (entryOf e)
  distinct : (expired.map (·.candidateId)).Nodup
  due : ∀ e ∈ expired, ∃ c, h.pending.pendingBySource.get e.source = some c ∧
    c.id = e.candidateId ∧ c.deadline ≤ now

theorem reconcileSpec {items : List ExpiredCandidate} {h : ServerHandshake}
    (present : ∀ i ∈ items, ∃ attempt,
      h.candidateById.get i.candidateId = some ⟨i.candidateId, i.source, attempt⟩)
    (distinct : (items.map (·.candidateId)).Nodup) :
    Action.wp (ServerHandshake.reconcile items) (fun expired t =>
      t = {h with candidateById := h.candidateById.removeAll (items.map (·.candidateId))} ∧
      expired.map (fun e => ExpiredCandidate.mk e.candidateId e.source) = items ∧
      ∀ e ∈ expired, h.candidateById.get e.candidateId = some (entryOf e)) (fun _ _ => False) h := by
  induction items generalizing h with
  | nil => simp [ServerHandshake.reconcile, HashMap.removeAll]
  | cons item rest ih =>
    obtain ⟨attempt, found⟩ := present item List.mem_cons_self
    obtain ⟨fresh, distinct⟩ := List.nodup_cons.mp distinct
    have kept : ∀ id ∈ rest.map (·.candidateId),
        (h.candidateById.remove item.candidateId).get id = h.candidateById.get id := by
      intro id member
      rw [HashMap.getRemove, if_neg]
      intro same
      subst same
      exact fresh member
    have tail := @ih {h with candidateById := h.candidateById.remove item.candidateId} (by
      intro i member
      simp only [kept _ (List.mem_map.mpr ⟨i, member, rfl⟩)]
      exact present i (List.mem_cons_of_mem _ member)) distinct
    simp only [ServerHandshake.reconcile, Action.wpBind, Action.wpRead, found, Action.wpModify,
      ne_eq, not_true_eq_false, if_false, Action.wpPure]
    refine Action.wpMono tail ?_ (fun _ _ impossible => impossible)
    intro expired t spec
    obtain ⟨rfl, map, entries⟩ := spec
    refine ⟨rfl, by simp [map], ?_⟩
    intro e member
    rcases List.mem_cons.mp member with rfl | later
    · exact found
    · have id : e.candidateId ∈ rest.map (·.candidateId) := by
        rw [← map, List.map_map]
        exact List.mem_map.mpr ⟨e, later, rfl⟩
      rw [← kept _ id]
      exact entries e later

theorem expiresSelf {h : ServerHandshake} (reg : Registered h) (outside : h.state ≠ .listening)
    (now : Instant) : Expires h now [] h := by
  have empty := (HashMap.lenEqZeroIff _).mp (reg.emptyOutside outside).1
  constructor <;> simp [empty]

theorem expiresRegistered {h t : ServerHandshake} {now expired} (reg : Registered h)
    (ex : Expires h now expired t) (running : t.pending.state = h.pending.state)
    (shrinks : t.pending.pendingBySource.len ≤ h.pending.pendingBySource.len)
    (complete : ∀ source c, h.pending.pendingBySource.get source = some c → c.deadline ≤ now →
      c.id ∈ expired.map (·.candidateId))
    (outside : h.state ≠ .listening → t.candidateById.len = 0) : Registered t := by
  have kept : ∀ source c, t.pending.pendingBySource.get source = some c →
      h.pending.pendingBySource.get source = some c ∧ now < c.deadline := by
    intro source c found
    rw [ex.manager] at found
    simpa [Option.filter_eq_some_iff] using found
  constructor
  · intro source c found
    obtain ⟨before, early⟩ := kept source c found
    obtain ⟨attempt, entry⟩ := reg.forward source c before
    refine ⟨attempt, ?_⟩
    rw [ex.registry, if_neg, entry]
    intro gone
    obtain ⟨e, member, same⟩ := List.mem_map.mp gone
    obtain ⟨c', found', key, late⟩ := ex.due e member
    have source' : e.source = source := sourceOfId reg found' before (key.trans same)
    rw [source', before] at found'
    cases Option.some.inj found'
    exact Nat.not_le_of_lt early late
  · intro id b found
    rw [ex.registry] at found
    split at found <;> try contradiction
    rename_i listed
    obtain ⟨key, c, before, same⟩ := reg.backward id b found
    refine ⟨key, c, ?_, same⟩
    have early : now < c.deadline := by
      by_contra late
      exact listed (same ▸ complete _ c before (Nat.le_of_not_lt late))
    rw [ex.manager, before]
    simp [early]
  · intro source c found
    rw [ex.next]
    exact reg.below source c (kept source c found).1
  · rw [ex.policy]
    exact Nat.le_trans shrinks reg.bounded
  · rw [running, ex.state]
    exact reg.running
  · rw [ex.state]
    intro away
    exact ⟨Nat.le_zero.mp ((reg.emptyOutside away).1 ▸ shrinks), outside away⟩

def swept (h : ServerHandshake) (now : Instant) : ServerHandshake :=
  {h with
    pending := {h.pending with pendingBySource :=
      h.pending.pendingBySource.removeAll ((h.pending.due now).map (·.source))}
    candidateById := h.candidateById.removeAll ((h.pending.due now).map (·.candidateId))}

theorem sweptSource (h : ServerHandshake) (now : Instant) (source : SocketAddr) :
    (swept h now).pending.pendingBySource.get source =
      (h.pending.pendingBySource.get source).filter fun c => decide (now < c.deadline) := by
  simp only [swept, HashMap.getRemoveAll, List.mem_map]
  cases found : h.pending.pendingBySource.get source with
  | none => simp
  | some c =>
    have gone : (∃ a, a ∈ h.pending.due now ∧ a.source = source) ↔ c.deadline ≤ now := by
      constructor
      · intro spec
        obtain ⟨a, member, rfl⟩ := spec
        obtain ⟨c', found', _, late⟩ := memDue.mp member
        cases Option.some.inj (found.symm.trans found')
        exact late
      · intro late
        exact ⟨⟨c.id, source⟩, memDue.mpr ⟨c, found, rfl, late⟩, rfl⟩
    by_cases late : c.deadline ≤ now
    · rw [if_pos (gone.mpr late)]
      simp [Option.filter, late]
    · rw [if_neg (fun some => late (gone.mp some))]
      simp [Option.filter, Nat.lt_of_not_le late]

theorem sweptExpires {h : ServerHandshake} {now : Instant} {expired : List ExpiredServerCandidate} (reg : Registered h)
    (listed : expired.map (fun e => ExpiredCandidate.mk e.candidateId e.source) = h.pending.due now)
    (entries : ∀ e ∈ expired, h.candidateById.get e.candidateId = some (entryOf e)) :
    Expires h now expired (swept h now) := by
  have ids : expired.map (·.candidateId) = (h.pending.due now).map (·.candidateId) := by
    rw [← listed, List.map_map]
    rfl
  constructor
  · rfl
  · rfl
  · rfl
  · exact sweptSource h now
  · intro id
    rw [ids]
    exact HashMap.getRemoveAll _ _ _
  · exact entries
  · rw [ids]
    exact dueIdsNodup reg now
  · intro e member
    have item : ExpiredCandidate.mk e.candidateId e.source ∈ h.pending.due now := by
      rw [← listed]
      exact List.mem_map.mpr ⟨e, member, rfl⟩
    exact memDue.mp item

theorem expireListeningSpec {h : ServerHandshake} (reg : Registered h) (listening : h.state = .listening)
    (now : Instant) :
    Action.wp (ServerHandshake.expireListening now)
      (fun expired t => Expires h now expired t ∧ Registered t) (fun _ _ => False) h := by
  have open_ := notClosed reg listening
  have items : ∀ i ∈ h.pending.due now, ∃ attempt,
      h.candidateById.get i.candidateId = some ⟨i.candidateId, i.source, attempt⟩ := by
    intro i member
    obtain ⟨c, found, same, _⟩ := memDue.mp member
    rw [← same]
    exact reg.forward i.source c found
  have loop := @reconcileSpec (h.pending.due now)
    {h with pending := {h.pending with pendingBySource :=
      h.pending.pendingBySource.removeAll ((h.pending.due now).map (·.source))}} items
    (dueIdsNodup reg now)
  simp only [ServerHandshake.expireListening, Action.wpBind, Action.wpTotal,
    SessionManager.expirePending, open_, if_false, Action.wpPure]
  refine Action.wpMono loop ?_ (fun _ _ impossible => impossible)
  intro expired t spec
  obtain ⟨rfl, listed, entries⟩ := spec
  have ex : Expires h now expired (swept h now) := sweptExpires reg listed entries
  have registered := expiresRegistered reg ex rfl (HashMap.lenRemoveAllLe _ _)
    (by
      intro source c found late
      have item : ExpiredCandidate.mk c.id source ∈ h.pending.due now := memDue.mpr ⟨c, found, rfl, late⟩
      rw [← listed, List.mem_map] at item
      obtain ⟨e, member, same⟩ := item
      exact List.mem_map.mpr ⟨e, member, congrArg ExpiredCandidate.candidateId same⟩)
    (fun outside => absurd listening outside)
  exact verifySpec registered ⟨ex, registered⟩

theorem expireSpec {h : ServerHandshake} (reg : Registered h) (now : Instant) :
    Action.wp (ServerHandshake.expireAndReconcile now)
      (fun expired t => Expires h now expired t ∧ Registered t) (fun _ _ => False) h := by
  simp only [ServerHandshake.expireAndReconcile, Action.wpBind, Action.wpRead]
  cases state : h.state with
  | listening => exact expireListeningSpec reg state now
  | established session =>
    have away : h.state ≠ .listening := by simp [state]
    simp [HashMap.isEmpty, (reg.emptyOutside away).2, expiresSelf reg away, reg]
  | closed =>
    have away : h.state ≠ .listening := by simp [state]
    simp [HashMap.isEmpty, (reg.emptyOutside away).2, expiresSelf reg away, reg]

def without (h : ServerHandshake) (b : ServerCandidate) : ServerHandshake :=
  {h with
    pending := {h.pending with pendingBySource := h.pending.pendingBySource.remove b.source}
    candidateById := h.candidateById.remove b.candidateId}

theorem withoutRegistered {h : ServerHandshake} {b : ServerCandidate} (reg : Registered h)
    (listening : h.state = .listening) (entry : h.candidateById.get b.candidateId = some b) :
    Registered (without h b) := by
  obtain ⟨_, owner, owned, ownerId⟩ := reg.backward _ _ entry
  constructor
  · intro source c found
    simp only [without, HashMap.getRemove] at found ⊢
    split at found <;> try contradiction
    rename_i other
    obtain ⟨attempt, listed⟩ := reg.forward source c found
    refine ⟨attempt, ?_⟩
    rw [if_neg, listed]
    intro same
    exact other (sourceOfId reg found owned (same.trans ownerId.symm))
  · intro id b' found
    simp only [without, HashMap.getRemove] at found ⊢
    split at found <;> try contradiction
    rename_i other
    obtain ⟨key, c, held, same⟩ := reg.backward id b' found
    refine ⟨key, c, ?_, same⟩
    rw [if_neg, held]
    intro shared
    rw [shared, owned] at held
    cases Option.some.inj held
    exact other (same.symm.trans ownerId)
  · intro source c found
    simp only [without, HashMap.getRemove] at found
    split at found <;> try contradiction
    exact reg.below source c found
  · exact Nat.le_trans (HashMap.lenRemoveLe _ _) reg.bounded
  · exact reg.running
  · exact fun outside => absurd listening outside

theorem removeExactSpec {h : ServerHandshake} {b : ServerCandidate} (reg : Registered h)
    (listening : h.state = .listening) (entry : h.candidateById.get b.candidateId = some b)
    {Q : Unit → ServerHandshake → Prop} {E : ServerStateError → ServerHandshake → Prop}
    (post : Q () (without h b)) : Action.wp (ServerHandshake.removeExactCandidate b) Q E h := by
  obtain ⟨_, owner, owned, ownerId⟩ := reg.backward _ _ entry
  have removal : h.pending.removeCandidate b.source b.candidateId =
      (.removed, {h.pending with pendingBySource := h.pending.pendingBySource.remove b.source}) := by
    simp [SessionManager.removeCandidate, notClosed reg listening, owned, ownerId]
  simpa [ServerHandshake.removeExactCandidate, removal, entry, without] using post

def admitted (h : ServerHandshake) (source : SocketAddr) (attempt : ClientAttemptId)
    (now deadline : Instant) (next : UInt64) : ServerHandshake :=
  {h with
    pending := {h.pending with
      pendingBySource := h.pending.pendingBySource.insert source ⟨⟨h.pending.nextCandidateId⟩, now, deadline⟩
      nextCandidateId := next}
    candidateById := h.candidateById.insert ⟨h.pending.nextCandidateId⟩
      ⟨⟨h.pending.nextCandidateId⟩, source, attempt⟩}

theorem nextUnlisted {h : ServerHandshake} (reg : Registered h) :
    h.candidateById.get ⟨h.pending.nextCandidateId⟩ = none := by
  cases found : h.candidateById.get ⟨h.pending.nextCandidateId⟩ with
  | none => rfl
  | some b =>
    obtain ⟨_, c, held, same⟩ := reg.backward _ _ found
    have below := reg.below _ _ held
    rw [same] at below
    exact absurd below (Nat.lt_irrefl _)

theorem admittedRegistered {h : ServerHandshake} {source next} (reg : Registered h)
    (listening : h.state = .listening) (free : h.pending.pendingBySource.get source = none)
    (room : h.pending.pendingBySource.len < h.pending.policy.maximumPending)
    (advance : checkedAdd h.pending.nextCandidateId 1 = some next) (attempt now deadline) :
    Registered (admitted h source attempt now deadline next) := by
  have unlisted := nextUnlisted reg
  have grows : next.toNat = h.pending.nextCandidateId.toNat + 1 := checkedAddSome advance
  constructor
  · intro s c found
    simp only [admitted, HashMap.getInsert] at found ⊢
    split at found
    · rename_i same
      cases Option.some.inj found
      exact ⟨attempt, by simp [same]⟩
    · obtain ⟨a, listed⟩ := reg.forward s c found
      refine ⟨a, ?_⟩
      rw [if_neg, listed]
      intro same
      rw [same, unlisted] at listed
      contradiction
  · intro id b found
    simp only [admitted, HashMap.getInsert] at found ⊢
    split at found
    · rename_i same
      cases Option.some.inj found
      exact ⟨same.symm, _, if_pos rfl, same.symm⟩
    · obtain ⟨key, c, held, same⟩ := reg.backward id b found
      refine ⟨key, c, ?_, same⟩
      rw [if_neg, held]
      intro shared
      rw [shared, free] at held
      contradiction
  · intro s c found
    simp only [admitted, HashMap.getInsert] at found ⊢
    split at found
    · cases Option.some.inj found
      change h.pending.nextCandidateId.toNat < next.toNat
      omega
    · have below := reg.below s c found
      omega
  · change (h.pending.pendingBySource.insert source _).len ≤ _
    rw [HashMap.lenInsertFresh free]
    exact room
  · exact reg.running
  · exact fun outside => absurd listening outside

theorem expireNothing {m : SessionManager} {now : Instant} (open_ : m.state ≠ .closed)
    (early : ∀ source c, m.pendingBySource.get source = some c → now < c.deadline) :
    m.expirePending now = (⟨[], m.nearest⟩, m) := by
  have none_ : m.due now = [] := by
    rw [List.eq_nil_iff_forall_not_mem]
    intro item member
    obtain ⟨c, found, _, late⟩ := memDue.mp member
    exact Nat.not_le_of_lt (early item.source c found) late
  simp [SessionManager.expirePending, open_, none_, HashMap.removeAll]

theorem expiresEarly {h t : ServerHandshake} {now expired} (ex : Expires h now expired t) {source c}
    (found : t.pending.pendingBySource.get source = some c) : now < c.deadline := by
  rw [ex.manager] at found
  have pair : h.pending.pendingBySource.get source = some c ∧ now < c.deadline := by
    simpa [Option.filter_eq_some_iff] using found
  exact pair.2

end Crabnet.ServerRegistry
