import Crabnet.ClientLedger
import Crabnet.DataDelivery

/-! The nonces of a transport over its whole life: nonce 0 for the one finish of
its handshake, then the sequences that the data session draws one after another,
each at most once whatever fails after it was drawn. -/
namespace Crabnet.NonceUse
open MachineWord SessionTypes Fallible CryptoBoundary ReplayHistory DataFrame SnowBoundary
open DataSession DataRuntime DataDelivery CoordinatorStability
open NoiseServer NoiseClient

def handshakeNonces (h : NoiseHistory) (handle : Nat) : List UInt64 :=
  (h.writes.filter fun write => write.1 = handle).map fun write => write.2.nonce

theorem nodupOnce {α β : Type} [DecidableEq α] {entries : List (α × β)} (once : (entries.map Prod.fst).Nodup) (key : α) :
    entries.filter (fun entry => entry.1 = key) = [] ∨
      ∃ value, entries.filter (fun entry => entry.1 = key) = [(key, value)] := by
  induction entries with
  | nil => exact .inl rfl
  | cons entry rest ih =>
    obtain ⟨head, value⟩ := entry
    obtain ⟨fresh, tail⟩ := List.nodup_cons.mp once
    by_cases here : head = key
    · subst here
      refine .inr ⟨value, ?_⟩
      have absent : rest.filter (fun entry => entry.1 = head) = [] := by
        rw [List.filter_eq_nil_iff]
        intro entry member same
        exact fresh (List.mem_map.mpr ⟨entry, member, of_decide_eq_true same⟩)
      simp [absent]
    · simp only [List.filter_cons, here, decide_false, Bool.false_eq_true, if_false]
      exact ih tail

theorem loggedNonces {h : NoiseHistory} (logged : Logged h) (handle : Nat) :
    handshakeNonces h handle = [] ∨ handshakeNonces h handle = [0] := by
  unfold handshakeNonces
  rcases nodupOnce logged.once handle with none | ⟨call, one⟩
  · rw [none]
    exact .inl rfl
  · have member : (handle, call) ∈ h.writes := by
      have inside : (handle, call) ∈ h.writes.filter (fun write => write.1 = handle) := by
        rw [one]
        exact List.mem_singleton.mpr rfl
      exact (List.mem_filter.mp inside).1
    rw [one]
    exact .inr (congrArg (fun nonce => [nonce]) (logged.numbered _ member).2)

section
variable {S : Snow}

structure Turn where
  drawn : List UInt64
  effects : List Effect

-- The counter moves only in `allocate_send_sequence`, which returns what it was.
def drawnBetween (s t : EstablishedDataSession S) : List UInt64 :=
  if t.nextSendSequence = s.nextSendSequence then [] else [s.nextSendSequence]

/- One iteration of the loop, taken even if an earlier one has stopped it. -/
def turn (codec : DataFrameCodec) (mtu : Nat) (s : EstablishedDataSession S) (it : Iteration) :
    Turn × EstablishedDataSession S :=
  let live := (body codec mtu it ⟨s, []⟩).2
  (⟨drawnBetween s live.session, live.emitted⟩, live.session)

def drawn (trace : List Turn) : List UInt64 := trace.flatMap Turn.drawn

def dataNonces (trace : List Turn) : List UInt64 :=
  (trace.flatMap fun turn => writes turn.effects).map NoiseCall.nonce

inductive Draw (s : EstablishedDataSession S) (drawn nonces : List UInt64) (t : EstablishedDataSession S) : Prop
  | kept (none : drawn = []) (silent : nonces = []) (same : t.nextSendSequence = s.nextSendSequence)
  | drew (live : s.nextSendSequence ≠ sequenceExhausted) (one : drawn = [s.nextSendSequence])
      (sealed_ : nonces = [] ∨ nonces = [s.nextSendSequence])
      (next : t.nextSendSequence.toNat = s.nextSendSequence.toNat + 1)

theorem advanced {s : EstablishedDataSession S} (live : s.nextSendSequence ≠ sequenceExhausted) (lifetime) :
    drawnBetween s (advance s lifetime) = [s.nextSendSequence] ∧
      (advance s lifetime).nextSendSequence.toNat = s.nextSendSequence.toNat + 1 := by
  have next := allocatedNat live
  refine ⟨?_, next⟩
  unfold drawnBetween
  rw [if_neg]
  intro same
  have still := congrArg UInt64.toNat same
  rw [advance, next] at still
  exact absurd still (Nat.succ_ne_self _)

theorem progressDraws {codec : DataFrameCodec} {s t : EstablishedDataSession S} {effects}
    (progress : Progress codec s effects t) :
    Draw s (drawnBetween s t) ((writes effects).map NoiseCall.nonce) t := by
  cases progress with
  | quiet lifetime => exact .kept (if_pos rfl) rfl rfl
  | probed lifetime call => exact .kept (if_pos rfl) rfl rfl
  | committed lifetime datagram source frame packet authentic => exact .kept (if_pos rfl) rfl rfl
  | delivered lifetime datagram source frame packet authentic => exact .kept (if_pos rfl) rfl rfl
  | refused lifetime live =>
    obtain ⟨one, next⟩ := advanced live lifetime
    exact .drew live one (.inl rfl) next
  | unsent lifetime header packet result live built failed =>
    obtain ⟨one, next⟩ := advanced live lifetime
    exact .drew live one (.inr rfl) next
  | sent lifetime header packet ciphertext frame live built encoded =>
    obtain ⟨one, next⟩ := advanced live lifetime
    exact .drew live one (.inr rfl) next

theorem turnDraws (codec : DataFrameCodec) (mtu : Nat) (s : EstablishedDataSession S) (it : Iteration) :
    Draw s (turn codec mtu s it).1.drawn ((writes (turn codec mtu s it).1.effects).map NoiseCall.nonce)
      (turn codec mtu s it).2 := by
  have spec := bodySpec codec mtu it s
  simp only [turn]
  rcases ran : body codec mtu it ⟨s, []⟩ with ⟨stop | _, live⟩
  · have reached := Action.wpError spec ran
    exact progressDraws reached
  · have reached := Action.wpOk spec ran
    exact progressDraws reached

structure Counted (past : List Turn) (s : EstablishedDataSession S) : Prop where
  numbered : (drawn past).map UInt64.toNat = List.range' 1 (drawn past).length
  next : s.nextSendSequence.toNat = (drawn past).length + 1
  used : (dataNonces past).Sublist (drawn past)

theorem turnCounted {codec : DataFrameCodec} {mtu : Nat} {past : List Turn} {s : EstablishedDataSession S}
    (counted : Counted past s) (it : Iteration) :
    Counted (past ++ [(turn codec mtu s it).1]) (turn codec mtu s it).2 := by
  obtain ⟨numbered, next, used⟩ := counted
  have more : drawn (past ++ [(turn codec mtu s it).1]) = drawn past ++ (turn codec mtu s it).1.drawn := by
    simp [drawn]
  have sealed_ : dataNonces (past ++ [(turn codec mtu s it).1]) =
      dataNonces past ++ (writes (turn codec mtu s it).1.effects).map NoiseCall.nonce := by
    simp [dataNonces]
  cases turnDraws codec mtu s it with
  | kept none silent same =>
    rw [none, List.append_nil] at more
    rw [silent, List.append_nil] at sealed_
    refine ⟨?_, ?_, ?_⟩
    · rw [more]
      exact numbered
    · rw [same, more]
      exact next
    · rw [more, sealed_]
      exact used
  | drew live one wrote later =>
    rw [one] at more
    refine ⟨?_, ?_, ?_⟩
    · rw [more, List.map_append, numbered, List.map_singleton, next, List.length_append, List.length_singleton,
        List.range'_1_concat, Nat.add_comm 1]
    · rw [later, next, more, List.length_append, List.length_singleton]
    · rw [more, sealed_]
      refine List.Sublist.append used ?_
      rcases wrote with quiet | wrote
      · rw [quiet]
        exact List.nil_sublist _
      · rw [wrote]

theorem countedRun (codec : DataFrameCodec) (mtu : Nat) {s : EstablishedDataSession S}
    (fresh : s.nextSendSequence = firstSequence) (its : List Iteration) :
    Counted (run (turn codec mtu) s its).1 (run (turn codec mtu) s its).2 := by
  have start : Counted [] s := by
    refine ⟨rfl, ?_, List.Sublist.refl _⟩
    rw [fresh]
    rfl
  exact @runHistory _ _ _ (turn codec mtu) Counted (fun _ _ it ok => turnCounted ok it) [] s start its

theorem allocationIs (s : EstablishedDataSession S) :
    (EstablishedDataSession.allocateSendSequence s).1 =
      if s.nextSendSequence = sequenceExhausted then .error .sendSequenceExhausted else .ok s.nextSendSequence := by
  unfold EstablishedDataSession.allocateSendSequence
  change (Action.andThen Action.read _ s).1 = _
  simp only [Action.andThen, Action.read]
  split <;> rfl

theorem exhaustedRun (codec : DataFrameCodec) (mtu : Nat) {s : EstablishedDataSession S}
    (exhausted : s.nextSendSequence = sequenceExhausted) (its : List Iteration) :
    drawn (run (turn codec mtu) s its).1 = [] ∧ dataNonces (run (turn codec mtu) s its).1 = [] ∧
      (run (turn codec mtu) s its).2.nextSendSequence = sequenceExhausted := by
  have ceased : ∀ t : EstablishedDataSession S, t.nextSendSequence = sequenceExhausted → ∀ it,
      (turn codec mtu t it).1.drawn = [] ∧ writes (turn codec mtu t it).1.effects = [] ∧
        (turn codec mtu t it).2.nextSendSequence = sequenceExhausted := by
    intro t ended it
    cases turnDraws codec mtu t it with
    | kept none silent same => exact ⟨none, List.map_eq_nil_iff.mp silent, same.trans ended⟩
    | drew live one wrote later => exact absurd ended live
  have last := @runInvariant _ _ _ (turn codec mtu) (fun t : EstablishedDataSession S =>
    t.nextSendSequence = sequenceExhausted) (fun t it ended => (ceased t ended it).2.2) s exhausted its
  have outputs := @runOutputs _ _ _ (turn codec mtu)
    (fun t : EstablishedDataSession S => t.nextSendSequence = sequenceExhausted)
    (fun turn => turn.drawn = [] ∧ writes turn.effects = []) (fun t it ended => (ceased t ended it).2.2)
    (fun t it ended => ⟨(ceased t ended it).1, (ceased t ended it).2.1⟩) s exhausted its
  refine ⟨?_, ?_, last⟩
  · exact List.flatMap_eq_nil_iff.mpr fun turn member => (outputs turn member).1
  · rw [dataNonces, List.flatMap_eq_nil_iff.mpr fun turn member => (outputs turn member).2]
    rfl

/- What is promised of the sends of a session whose transport sealed with `before`
during its handshake. The iterations may go on after one that fails. -/
def SendDiscipline (before : List UInt64) (session : EstablishedDataSession S) : Prop :=
  ∀ (codec : DataFrameCodec) (mtu : Nat) (its : List Iteration),
    let past := run (turn codec mtu) session its
    (before ++ dataNonces past.1).Nodup ∧
    ((dataNonces past.1).map UInt64.toNat).Pairwise (· < ·) ∧
    (dataNonces past.1).Sublist (drawn past.1) ∧
    (drawn past.1).map UInt64.toNat = List.range' 1 (drawn past.1).length ∧
    (drawn past.1).length ≤ maxSequence.toNat ∧
    (EstablishedDataSession.allocateSendSequence past.2).1 =
      (if (drawn past.1).length = maxSequence.toNat then .error .sendSequenceExhausted
        else .ok (UInt64.ofNat ((drawn past.1).length + 1))) ∧
    ((EstablishedDataSession.allocateSendSequence past.2).1 = .error .sendSequenceExhausted →
      ∀ more, let later := run (turn codec mtu) past.2 more
        drawn later.1 = [] ∧ dataNonces later.1 = [] ∧
        (EstablishedDataSession.allocateSendSequence later.2).1 = .error .sendSequenceExhausted)

theorem countedNonces {past : List Turn} {s : EstablishedDataSession S} (counted : Counted past s) :
    ((dataNonces past).map UInt64.toNat).Pairwise (· < ·) ∧ ∀ nonce ∈ dataNonces past, nonce ≠ 0 := by
  have ordered : ((drawn past).map UInt64.toNat).Pairwise (· < ·) := by
    rw [counted.numbered]
    exact List.pairwise_lt_range'
  refine ⟨ordered.sublist (counted.used.map UInt64.toNat), ?_⟩
  intro nonce member same
  subst same
  have inside : (0 : UInt64).toNat ∈ (drawn past).map UInt64.toNat :=
    List.mem_map_of_mem (counted.used.subset member)
  rw [counted.numbered, List.mem_range'_1] at inside
  exact absurd inside.1 (by decide)

theorem sendDisciplined {before : List UInt64} {s : EstablishedDataSession S} (single : before = [] ∨ before = [0])
    (fresh : s.nextSendSequence = firstSequence) : SendDiscipline before s := by
  intro codec mtu its past
  have counted := countedRun codec mtu fresh its
  obtain ⟨ordered, positive⟩ := countedNonces counted
  have top : sequenceExhausted.toNat = maxSequence.toNat + 1 := rfl
  have next := counted.next
  have ended : past.2.nextSendSequence = sequenceExhausted ↔ (drawn past.1).length = maxSequence.toNat := by
    rw [← UInt64.toNat_inj, top]
    change (run (turn codec mtu) s its).2.nextSendSequence.toNat = _ ↔ _
    rw [next]
    exact Nat.succ_inj
  refine ⟨?_, ordered, counted.used, counted.numbered, ?_, ?_, ?_⟩
  · have distinct : (dataNonces past.1).Nodup :=
      List.Nodup.of_map UInt64.toNat (ordered.imp Nat.ne_of_lt)
    rcases single with rfl | rfl
    · exact distinct
    · refine List.nodup_cons.mpr ⟨?_, distinct⟩
      intro zero
      exact positive 0 zero rfl
  · have range := u64Bound past.2.nextSendSequence
    change (run (turn codec mtu) s its).2.nextSendSequence.toNat < _ at range
    rw [next] at range
    exact Nat.le_of_lt_succ (Nat.le_of_lt_succ range)
  · rw [allocationIs]
    split
    · rename_i last
      rw [if_pos (ended.mp last)]
    · rename_i live
      rw [if_neg (fun full => live (ended.mpr full)), ← next]
      exact congrArg Except.ok (UInt64.ofNat_toNat).symm
  · intro refused more later
    rw [allocationIs] at refused
    split at refused <;> try contradiction
    rename_i last
    obtain ⟨none, silent, still⟩ := exhaustedRun codec mtu last more
    refine ⟨none, silent, ?_⟩
    rw [allocationIs, if_pos still]

def NonceDiscipline (h : NoiseHistory) (established : Option (Transport S × EstablishedSessionMetadata))
    (session : EstablishedSessionMetadata → SocketAddr → Transport S → SessionLifetime → EstablishedDataSession S) :
    Prop :=
  (∀ handle, handshakeNonces h handle = [] ∨ handshakeNonces h handle = [0]) ∧
  ∀ transport metadata, established = some (transport, metadata) → ∀ peer lifetime,
    SendDiscipline (handshakeNonces h transport.handle) (session metadata peer transport lifetime)

theorem noncesUnique :
    (∀ policy sources ids localPrivateKey allowedClientKeys hasher rng,
      ∃ c, ServerCoordinator.build (.new policy sources ids)
        (ServerProvider.new localPrivateKey allowedClientKeys hasher rng : ServerProvider S) = .ok c ∧
      ∀ calls, let past := run serverStep c calls
        NonceDiscipline past.2.crypto.history past.2.crypto.intoEstablishedTransport .server) ∧
    (∀ policy localPrivateKey pinnedServerStaticPublic rng c,
      ClientCoordinator.build policy
        (ClientProvider.new localPrivateKey pinnedServerStaticPublic rng : ClientProvider S) = .ok c →
      ∀ calls, let past := run clientStep c calls
        NonceDiscipline past.2.crypto.history past.2.crypto.intoEstablishedTransport .client) := by
  constructor
  · intro policy sources ids localPrivateKey allowedClientKeys hasher rng
    refine ⟨_, rfl, ?_⟩
    intro calls past
    have accounted := @runHistory _ _ _ serverStep (ServerLedger.Accounted allowedClientKeys)
      (fun _ _ call ok => ServerLedger.stepAccounted ok call) [] _
      (ServerLedger.startAccounted policy sources ids localPrivateKey allowedClientKeys hasher rng) calls
    have nonces := loggedNonces accounted.ledger.logged
    exact ⟨nonces, fun transport metadata _ peer lifetime => sendDisciplined (nonces transport.handle) rfl⟩
  · intro policy own pin rng c built calls past
    have accounted := @runInvariant _ _ _ clientStep (ClientLedger.Accounted own pin)
      (fun _ call ok => ClientLedger.stepAccounted ok call) c (ClientLedger.startAccounted built) calls
    have nonces := loggedNonces accounted.ledger.logged
    exact ⟨nonces, fun transport metadata _ peer lifetime => sendDisciplined (nonces transport.handle) rfl⟩

end

def plainLifetime : SessionLifetime := .new 3 plainLimits

theorem plainNoncesUnique :
    (run clientStep plainClient ClientLedger.plainClientCalls).2.crypto.intoEstablishedTransport =
      some (⟨(), 0⟩, ClientLedger.plainMetadata) ∧
    handshakeNonces (run clientStep plainClient ClientLedger.plainClientCalls).2.crypto.history 0 = [0] ∧
    SendDiscipline (S := plainSnow) [0]
      (.client ClientLedger.plainMetadata (CoordinatorStability.plainEndpoint 2000) ⟨(), 0⟩ plainLifetime) := by
  have numbered : (run clientStep plainClient ClientLedger.plainClientCalls).2.crypto.intoEstablishedTransport.map
      (fun handed => (handed.1.handle, handed.2)) = some (0, ClientLedger.plainMetadata) := by decide +kernel
  obtain ⟨⟨⟨state, handle⟩, metadata⟩, handed, same⟩ := Option.map_eq_some_iff.mp numbered
  cases same
  have finish : handshakeNonces (run clientStep plainClient ClientLedger.plainClientCalls).2.crypto.history 0 = [0] := by
    decide +kernel
  obtain ⟨_, sends⟩ := (@noncesUnique plainSnow).2 plainClient.policy _ _ _ plainClient rfl ClientLedger.plainClientCalls
  have disciplined := sends ⟨state, 0⟩ ClientLedger.plainMetadata handed (CoordinatorStability.plainEndpoint 2000)
    plainLifetime
  rw [finish] at disciplined
  exact ⟨handed, finish, disciplined⟩

end Crabnet.NonceUse
