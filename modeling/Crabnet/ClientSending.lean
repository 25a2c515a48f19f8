import Crabnet.ClientLedger
import Crabnet.FrameExchange

/-! What a Noise client's calls report: in every state that calls can reach, its
attempts have numbers other than zero, its messages have the lengths of their
profile, and a session is announced by the call that commits its transport. -/
namespace Crabnet.ClientSending
open MachineWord SessionTypes Fallible CryptoBoundary ClientPolicy HandshakeTypes ClientCoordinator
open NoiseProfile SnowBoundary NoiseClient HandshakeAdapter FrameExchange CoordinatorStability
open ClientLedger (Client)

structure Numbered (h : ClientHandshake) : Prop where
  next : h.state = .idle → h.nextAttemptId ≠ 0
  phase : ∀ current deadline kind, h.state.phase = some (current, deadline, kind) → current.value ≠ 0

theorem closedNumbered {h : ClientHandshake} (closed : h.state = .closed) : Numbered h := by
  constructor
  · intro idle
    rw [closed] at idle
    contradiction
  · intro current deadline kind pending
    rw [closed] at pending
    contradiction

theorem newNumbered {endpoint timeout h} (made : ClientHandshake.new endpoint timeout = .ok h) :
    h.state = .idle ∧ Numbered h := by
  unfold ClientHandshake.new at made
  obtain ⟨_, made⟩ := passed made
  cases Except.ok.inj made
  exact ⟨rfl, fun _ => (by decide : (1 : UInt64) ≠ 0), (fun _ _ _ impossible => by cases impossible)⟩

theorem pendingNumbered {h : ClientHandshake} {id deadline kind} (nonzero : id.value ≠ 0)
    (pending : h.state.phase = some (id, deadline, kind)) : Numbered h := by
  constructor
  · intro idle
    rw [idle] at pending
    contradiction
  · intro other _ _ same
    cases Option.some.inj (pending.symm.trans same)
    exact nonzero

section
variable {S : Snow} {p : ClientProvider S} {c : Client S}

theorem startSized (id) :
    Action.wp (ClientProvider.startAttempt id) (fun r _ => r.payload.length = clientHelloPayloadLength)
      (fun _ _ => True) p := by
  simp only [ClientProvider.startAttempt, Action.wpBind, Action.wpRead, Action.wpIte, Action.wpFail, Action.wpOfOption,
    ClientProvider.draw, Action.wpTotal, ClientProvider.setContext, Action.wpModify, Action.wpPure]
  refine ⟨fun _ => trivial, fun _ => ⟨fun _ => trivial, fun _ => ?_⟩⟩
  split <;> try trivial
  split <;> try trivial
  split <;> try trivial
  split <;> try trivial
  split <;> try trivial
  split <;> try trivial
  rename_i out _
  exact out.sized

theorem finishSized {id prepared} (ok : ClientProvider.prepareClientFinish id p = .ok prepared) :
    prepared.payload.length = clientFinishPayloadLength := by
  unfold ClientProvider.prepareClientFinish at ok
  split at ok <;> try contradiction
  split at ok <;> try contradiction
  rename_i clientFinish _
  cases Except.ok.inj ok
  exact clientFinish.sized

/- How a call leaves the session: announced together with its transport, or not
touched and not announced. -/
inductive Outcome (before : Client S) : Report (ClientProvider S) → Client S → Prop
  | announced (transport metadata t) (committed : t.crypto.intoEstablishedTransport = some (transport, metadata)) :
    Outcome before ⟨[], [.sessionEstablished metadata]⟩ t
  | quiet (r t) (silent : ∀ metadata, ClientCoordinatorEvent.sessionEstablished metadata ∉ r.events)
      (kept : ∀ metadata since, t.policy.state = .established metadata since → t.policy = before.policy) :
    Outcome before r t

structure Sends (before : Client S) (r : Report (ClientProvider S)) (t : Client S) : Prop where
  numbered : Numbered t.policy
  exact : ∀ message ∈ r.outbound, ExactClient message
  outcome : Outcome before r t

variable {before : Client S}

theorem keptSends {events} {t : Client S} (numbered : Numbered before.policy) (same : t.policy = before.policy)
    (silent : ∀ metadata, ClientCoordinatorEvent.sessionEstablished metadata ∉ events) :
    Sends before (⟨[], events⟩ : Report (ClientProvider S)) t :=
  ⟨same ▸ numbered, fun _ impossible => absurd impossible List.not_mem_nil, .quiet _ _ silent fun _ _ _ => same⟩

theorem pendingSends {message} {t : Client S} {id deadline kind} (nonzero : id.value ≠ 0)
    (pending : t.policy.state.phase = some (id, deadline, kind)) (exact_ : ExactClient message) :
    Sends before (⟨[message], []⟩ : Report (ClientProvider S)) t := by
  refine ⟨pendingNumbered nonzero pending, ?_, .quiet _ _ (fun _ => List.not_mem_nil) ?_⟩
  · intro other member
    cases List.mem_singleton.mp member
    exact exact_
  · intro metadata since established
    rw [established] at pending
    contradiction

theorem turnSends {r t} (numbered : Numbered before.policy) (turn : ClientTurn before r t) : Sends before r t := by
  cases turn with
  | begun now id policy prepared crypto started made verified =>
    obtain ⟨idle, next, deadline, same, rfl⟩ := Action.wpOk (startSpec now) started
    cases same
    have sized := Action.wpOk (startSized _) made
    exact pendingSends (numbered.next idle) rfl ⟨numbered.next idle, sized⟩
  | dropped reason => exact keptSends numbered rfl (by simp)
  | answered source attempt now deadline expected payload observed policy prepared crypto pending read accepted made verified =>
    obtain ⟨startedAt, later, rfl⟩ := Action.wpOk (serverHelloSpec source attempt now) accepted _ rfl
    have nonzero := numbered.phase _ _ _ pending
    exact pendingSends nonzero rfl ⟨nonzero, finishSized made⟩
  | established source attempt now deadline expected payload metadata policy middle crypto pending read accepted committed
      verified =>
    have state := Action.wpOk (serverFinishState source attempt metadata now) accepted _ rfl
    obtain ⟨phase, transport, held⟩ := Action.wpOk (ClientLedger.commitHolds attempt metadata) committed
    have holds : crypto.intoEstablishedTransport = some (transport, metadata) := by
      simp [ClientProvider.intoEstablishedTransport, held, phase]
    refine ⟨⟨?_, ?_⟩, (fun _ impossible => absurd impossible List.not_mem_nil), .announced transport metadata _ holds⟩
    · intro idle
      rw [state] at idle
      contradiction
    · intro current deadline kind pending
      rw [state] at pending
      contradiction
  | unchanged open_ verified => exact keptSends numbered rfl (by simp)
  | ended event t shut lifecycle verified quiet =>
    refine ⟨closedNumbered shut, (fun _ impossible => absurd impossible List.not_mem_nil), .quiet _ _ ?_ ?_⟩
    · intro metadata member
      rw [← List.mem_singleton.mp member] at quiet
      contradiction
    · intro metadata since established
      rw [established] at shut
      contradiction

structure Sent (before : Client S) (result : Result (ClientProvider S)) (t : Client S) : Prop where
  numbered : Numbered t.policy
  exact : ∀ report, result = .ok report → ∀ message ∈ report.outbound, ExactClient message
  outcome : ∀ report, result = .ok report → Outcome before report t
  failed : ∀ fatal, result = .error fatal → t.policy.state = .closed

theorem stepSends (numbered : Numbered c.policy) (call : ClientCall (ClientProvider S)) :
    Sent c (clientStep c call).1 (clientStep c call).2 := by
  have returned := clientReturns c call
  generalize clientStep c call = outcome at returned ⊢
  obtain ⟨result, t⟩ := outcome
  cases result with
  | error fatal =>
    obtain ⟨shut, _, _⟩ := returned
    exact ⟨closedNumbered shut, (fun _ impossible => by cases impossible), (fun _ impossible => by cases impossible),
      fun _ _ => shut⟩
  | ok report =>
    obtain ⟨after, exact_, outcome⟩ := turnSends numbered returned
    refine ⟨after, ?_, ?_, (fun _ impossible => by cases impossible)⟩
    · intro other same
      cases same
      exact exact_
    · intro other same
      cases same
      exact outcome

theorem builtNumbered {endpoint timeout policy own pin rng} (configured : ClientHandshake.new endpoint timeout = .ok policy)
    (built : build policy (ClientProvider.new own pin rng) = .ok c) : c.policy.state = .idle ∧ Numbered c.policy := by
  unfold build at built
  obtain ⟨_, built⟩ := passed built
  obtain ⟨_, built⟩ := passed built
  cases Except.ok.inj built
  exact newNumbered configured

end
end Crabnet.ClientSending
