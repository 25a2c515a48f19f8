import Crabnet.ClientLedger
import Crabnet.NoiseServerOutcomes
import Crabnet.ServerRemoteInput

/-! What a failed `commit_session` leaves of either Noise IK provider, from any
state that the operations of its trait can reach. The context is taken before its
attempt and its metadata are compared, so a comparison that fails has lost it. -/
namespace Crabnet.CommitAtomicity
open MachineWord SessionTypes HashTable Fallible CryptoBoundary NoiseProfile SnowBoundary

def ignored {σ ε α : Type} (x : Action σ ε α) : Action σ ε Unit := do
  let _ ← x
  pure ()

theorem ignoredKeeps {C α : Type} {I : C → Prop} {x : Action C CryptoStateError α} (keeps : ClientLedger.Keeps I x) :
    ClientLedger.Keeps I (ignored x) := by
  intro p held
  simp only [ignored, Action.wpBind, Action.wpPure]
  exact keeps p held

section Client
open NoiseClient ClientProvider
open ClientLedger (Keeps)

-- The operations of the trait that take the provider mutably; the others only read it.
inductive ClientCommand where
  | startAttempt (id : ClientAttemptId)
  | authenticateServerHello (id : ClientAttemptId) (payload : Bytes)
  | authenticateServerFinish (id : ClientAttemptId) (payload : Bytes)
  | commitSession (id : ClientAttemptId) (metadata : EstablishedSessionMetadata)
  | rejectAuthenticatedSession (id : ClientAttemptId)
  | closeContext (id : ClientAttemptId)
  | shutdown

variable {S : Snow} {p : ClientProvider S}

def clientCommand : ClientCommand → Op S Unit
  | .startAttempt attempt => ignored (ClientProvider.startAttempt attempt)
  | .authenticateServerHello attempt payload => ignored (ClientProvider.authenticateServerHello attempt payload)
  | .authenticateServerFinish attempt payload => ignored (ClientProvider.authenticateServerFinish attempt payload)
  | .commitSession attempt metadata => ClientProvider.commitSession attempt metadata
  | .rejectAuthenticatedSession attempt => ignored (ClientProvider.rejectAuthenticatedSession attempt)
  | .closeContext attempt => ignored (ClientProvider.closeContext attempt)
  | .shutdown => ignored (Action.total ClientProvider.shutdown)

def clientCommands (p : ClientProvider S) (command : ClientCommand) : Except CryptoStateError Unit × ClientProvider S :=
  clientCommand command p

def Vacant (p : ClientProvider S) : Prop := p.phase = .closed → p.context = none

theorem vacantOpen (open_ : p.phase ≠ .closed) : Vacant p := fun closed => absurd closed open_

theorem startVacant (id) : Keeps Vacant (ClientProvider.startAttempt id : Op S _) := by
  intro p vacant
  simp only [ClientProvider.startAttempt, Action.wpBind, Action.wpRead, Action.wpIte, Action.wpFail, Action.wpOfOption, draw,
    Action.wpTotal, setContext, Action.wpModify, Action.wpPure]
  refine ⟨fun _ => vacant, fun open_ => ⟨fun _ => vacant, fun _ => ?_⟩⟩
  split <;> try exact vacant
  split <;> try exact vacant
  split <;> try exact vacant
  split <;> try exact vacant
  split <;> try exact vacant
  split <;> try exact vacant
  exact vacantOpen (by simp)

theorem refuseVacant {α : Type} {context : Context S} {id reason} (open_ : p.phase ≠ .closed) :
    Action.wp (refuse context id reason : Op S (CryptoOutcome α)) (fun _ => Vacant) (fun _ => Vacant) p := by
  simp only [refuse, restore, Action.wpBind, Action.wpModify, Action.wpPure]
  exact vacantOpen open_

theorem acceptVacant {id contextId hello payload remote} {state : S.HandshakeState} (open_ : p.phase ≠ .closed) :
    Action.wp (accept id contextId hello payload remote state) (fun _ => Vacant) (fun _ => Vacant) p := by
  simp only [accept, Action.wpBind, Action.wpRead, Action.wpOfOption, openTransport, Action.wpTotal, noteWrite, setContext,
    Action.wpModify, Action.wpPure]
  split <;> try exact vacantOpen open_
  split <;> try exact vacantOpen open_
  split <;> try exact vacantOpen open_
  split <;> try exact vacantOpen open_
  split <;> try exact vacantOpen open_
  exact vacantOpen (by simp)

theorem helloVacant (id payload) : Keeps Vacant (ClientProvider.authenticateServerHello id payload : Op S _) := by
  intro p vacant
  simp only [ClientProvider.authenticateServerHello, Action.wpBind]
  refine ClientLedger.attemptChecked (fun _ => ?_) (fun _ => vacant)
  simp only [Action.wpRead, Action.wpIte, Action.wpFail, Action.wpBind, takeContext, Action.wpModify]
  refine ⟨fun _ => vacant, fun waiting => ⟨fun _ => vacant, fun _ => ?_⟩⟩
  have open_ : p.phase ≠ .closed := by
    rw [not_not.mp waiting]
    simp
  split
  · simp only [openHello, Action.wpBind, Action.wpRead]
    split
    · exact refuseVacant open_
    · split
      · exact refuseVacant open_
      · split
        · exact refuseVacant open_
        · split
          · exact refuseVacant open_
          · exact acceptVacant open_
  · exact vacantOpen open_

theorem finishVacant (id payload) : Keeps Vacant (ClientProvider.authenticateServerFinish id payload : Op S _) := by
  intro p vacant
  simp only [ClientProvider.authenticateServerFinish, Action.wpBind]
  refine ClientLedger.attemptChecked (fun _ => ?_) (fun _ => vacant)
  simp only [Action.wpRead, Action.wpIte, Action.wpFail, Action.wpBind, takeContext, Action.wpModify]
  refine ⟨fun _ => vacant, fun waiting => ⟨fun _ => vacant, fun _ => ?_⟩⟩
  have open_ : p.phase ≠ .closed := by
    rw [not_not.mp waiting]
    simp
  split
  · simp only [openFinish, noteRead, setContext, Action.wpBind, Action.wpModify]
    split
    · exact refuseVacant open_
    · split
      · exact refuseVacant open_
      · exact vacantOpen (by simp)
  · exact vacantOpen open_

theorem commitVacant (id metadata) : Keeps Vacant (ClientProvider.commitSession id metadata : Op S _) := by
  intro p vacant
  simp only [ClientProvider.commitSession, Action.wpBind]
  refine ClientLedger.attemptChecked (fun _ => ?_) (fun _ => vacant)
  simp only [Action.wpRead, takeContext, Action.wpModify]
  split
  · simp only [Action.wpIte, Action.wpFail, setContext, Action.wpModify]
    exact ⟨fun _ _ => rfl, fun _ => vacantOpen (by simp)⟩
  · exact fun _ => rfl

theorem closedVacant (p : ClientProvider S) : Vacant (closed p) := fun _ => rfl

theorem rejectVacant (id) : Keeps Vacant (ClientProvider.rejectAuthenticatedSession id : Op S _) := by
  intro p vacant
  simp only [ClientProvider.rejectAuthenticatedSession, Action.wpBind, Action.wpRead, Action.wpIte, Action.wpPure]
  refine ⟨fun _ => vacant, fun _ => ClientLedger.attemptChecked (fun _ => ?_) (fun _ => vacant)⟩
  exact ⟨fun _ => vacant, fun _ => closedVacant p⟩

theorem closeVacant (id) : Keeps Vacant (ClientProvider.closeContext id : Op S _) := by
  intro p vacant
  simp only [ClientProvider.closeContext, Action.wpBind, Action.wpRead, Action.wpIte, Action.wpPure]
  refine ⟨fun _ => vacant, fun _ => ClientLedger.attemptChecked (fun _ => ?_) (fun _ => vacant)⟩
  exact closedVacant p

theorem shutdownVacant (p : ClientProvider S) (vacant : Vacant p) : Vacant (ClientProvider.shutdown p).2 := by
  unfold ClientProvider.shutdown
  split
  · exact vacant
  · exact closedVacant p

theorem commandVacant (command) : Keeps Vacant (clientCommand command : Op S _) := by
  intro p vacant
  cases command with
  | commitSession attempt metadata => exact commitVacant attempt metadata p vacant
  | startAttempt attempt => exact ignoredKeeps (startVacant attempt) p vacant
  | authenticateServerHello attempt payload => exact ignoredKeeps (helloVacant attempt payload) p vacant
  | authenticateServerFinish attempt payload => exact ignoredKeeps (finishVacant attempt payload) p vacant
  | rejectAuthenticatedSession attempt => exact ignoredKeeps (rejectVacant attempt) p vacant
  | closeContext attempt => exact ignoredKeeps (closeVacant attempt) p vacant
  | shutdown => exact shutdownVacant p vacant

def Context.awaits (metadata : EstablishedSessionMetadata) : Context S → Bool
  | .pending _ _ expected _ _ => expected == metadata
  | _ => false

def ClientAtomic (p : ClientProvider S) (attempt : ClientAttemptId) (metadata : EstablishedSessionMetadata) : Prop :=
  ∀ e t, ClientProvider.commitSession attempt metadata p = (.error e, t) →
    t.phase = p.phase ∧ t.context = p.context ∧
    ∀ attempt' metadata', ClientProvider.commitSession attempt' metadata' t = ClientProvider.commitSession attempt' metadata' p

def ClientFits (p : ClientProvider S) (attempt : ClientAttemptId) (metadata : EstablishedSessionMetadata) : Prop :=
  ∀ context, p.context = some context → context.id = attempt → Context.awaits metadata context = true

theorem commitEmpty {attempt metadata} (empty : p.context = none) :
    ∃ e, ClientProvider.commitSession attempt metadata p = (.error e, p) := by
  have same : {p with context := none} = p := by
    rw [← empty]
  refine Action.wpOutcome (R := fun answer => ∃ e, answer = (.error e, p)) ?_
  simp only [ClientProvider.commitSession, Action.wpBind]
  refine ClientLedger.attemptChecked (fun _ => ?_) (fun e => ⟨e, rfl⟩)
  simp only [Action.wpRead, takeContext, Action.wpModify, empty, Action.wpFail, same]
  exact ⟨_, rfl⟩

theorem commitForeign {attempt metadata context} (found : p.context = some context) (other : context.id ≠ attempt) :
    ClientProvider.commitSession attempt metadata p = (.error (.attemptIdMismatch context.id attempt), p) := by
  refine Action.wpOutcome (R := fun answer : Except CryptoStateError Unit × ClientProvider S =>
    answer = (.error (.attemptIdMismatch context.id attempt), p)) ?_
  simp only [ClientProvider.commitSession, Action.wpBind, checked, Action.wpRead, Action.wpOfExcept, check, ClientProvider.id,
    found, Option.map_some, if_pos other]

theorem commitOwn {attempt metadata context} (found : p.context = some context) (own : context.id = attempt)
    (open_ : p.phase ≠ .closed) :
    (Context.awaits metadata context = true ∧ (ClientProvider.commitSession attempt metadata p).1 = .ok ()) ∨
    (Context.awaits metadata context = false ∧
      ∃ e, ClientProvider.commitSession attempt metadata p = (.error e, {p with context := none})) := by
  refine Action.wpOutcome (R := fun answer : Except CryptoStateError Unit × ClientProvider S =>
    (Context.awaits metadata context = true ∧ answer.1 = .ok ()) ∨
    (Context.awaits metadata context = false ∧ ∃ e, answer = (.error e, {p with context := none}))) ?_
  simp only [ClientProvider.commitSession, Action.wpBind, checked, Action.wpRead, Action.wpOfExcept, check, ClientProvider.id,
    found, Option.map_some, own, open_, takeContext, Action.wpModify, ne_eq, not_true_eq_false, if_false]
  cases context with
  | pending _ transport expected _ _ =>
    simp only [Action.wpIte, Action.wpFail, setContext, Action.wpModify, Context.awaits]
    exact ⟨fun other => .inr ⟨beq_eq_false_iff_ne.mpr other, _, rfl⟩,
      fun same => .inl ⟨beq_iff_eq.mpr (not_not.mp same), trivial⟩⟩
  | hello | finish | established => exact .inr ⟨rfl, _, rfl⟩

theorem clientAtomicIff {attempt metadata} (vacant : Vacant p) : ClientAtomic p attempt metadata ↔ ClientFits p attempt metadata := by
  cases found : p.context with
  | none =>
    obtain ⟨e, ran⟩ := @commitEmpty S p attempt metadata found
    refine ⟨fun _ context held => by rw [found] at held; contradiction, fun _ e' t failed => ?_⟩
    cases ran.symm.trans failed
    exact ⟨rfl, rfl, fun _ _ => rfl⟩
  | some context =>
    by_cases own : context.id = attempt
    · have open_ : p.phase ≠ .closed := by
        intro closed
        rw [vacant closed] at found
        contradiction
      rcases @commitOwn S p attempt metadata context found own open_ with ⟨awaited, ran⟩ | ⟨unawaited, e, ran⟩
      · refine ⟨fun _ other held _ => ?_, fun _ e t failed => ?_⟩
        · cases Option.some.inj (found.symm.trans held)
          exact awaited
        · rw [failed] at ran
          contradiction
      · refine ⟨fun atomic => ?_, fun fits => absurd (fits context found own) (by simp [unawaited])⟩
        have kept := (atomic e _ ran).2.1
        rw [found] at kept
        contradiction
    · have ran := @commitForeign S p attempt metadata context found own
      refine ⟨fun _ other held same => ?_, fun _ e t failed => ?_⟩
      · cases Option.some.inj (found.symm.trans held)
        exact absurd same own
      · cases ran.symm.trans failed
        exact ⟨rfl, rfl, fun _ _ => rfl⟩

end Client

section Server
open NoiseServer ServerProvider NoiseServerOutcomes
open ClientLedger (Keeps)

inductive ServerCommand where
  | prepareServerHello (candidate : CandidateId) (attempt : ClientAttemptId) (payload : Bytes)
  | authenticateClientFinish (candidate : CandidateId) (attempt : ClientAttemptId) (payload : Bytes)
  | commitSession (candidate : CandidateId) (attempt : ClientAttemptId) (metadata : EstablishedSessionMetadata)
  | rejectAuthenticatedCandidate (candidate : CandidateId) (attempt : ClientAttemptId)
  | removeCandidate (candidate : CandidateId) (attempt : ClientAttemptId)
  | shutdown

variable {S : Snow} {p : ServerProvider S}

def serverCommand : ServerCommand → Op S Unit
  | .prepareServerHello candidate attempt payload => ignored (ServerProvider.prepareServerHello candidate attempt payload)
  | .authenticateClientFinish candidate attempt payload =>
    ignored (ServerProvider.authenticateClientFinish candidate attempt payload)
  | .commitSession candidate attempt metadata => ServerProvider.commitSession candidate attempt metadata
  | .rejectAuthenticatedCandidate candidate attempt => ignored (ServerProvider.rejectAuthenticatedCandidate candidate attempt)
  | .removeCandidate candidate attempt => ignored (ServerProvider.removeCandidate candidate attempt)
  | .shutdown => ignored (Action.total ServerProvider.shutdown)

def serverCommands (p : ServerProvider S) (command : ServerCommand) : Except CryptoStateError Unit × ServerProvider S :=
  serverCommand command p

def CandidateContext.finished : CandidateContext S → Bool
  | .pending context => context.serverFinish.isSome
  | .established _ => false

def CandidateContext.metadata : CandidateContext S → EstablishedSessionMetadata
  | .pending context => context.metadata
  | .established context => context.metadata

-- The commit is pending in its own phase only, and its candidate, while it is there, has a finish to send.
structure Awaited (p : ServerProvider S) : Prop where
  phase : p.phase = .authenticatedPendingCommit ↔ ∃ candidate, p.pendingCommit = some candidate
  finished : ∀ candidate context, p.pendingCommit = some candidate → p.candidates.get candidate = some context →
    CandidateContext.finished context = true

theorem awaitedNone (phase : p.phase ≠ .authenticatedPendingCommit) (none : p.pendingCommit = none) : Awaited p := by
  refine ⟨⟨fun pending => absurd pending phase, ?_⟩, ?_⟩
  · rintro ⟨candidate, pending⟩
    rw [none] at pending
    contradiction
  · intro candidate context pending
    rw [none] at pending
    contradiction

theorem awaitedRunning (awaited : Awaited p) (running : p.phase = .running) : p.pendingCommit = none := by
  cases pending : p.pendingCommit with
  | none => rfl
  | some candidate =>
    have phase := awaited.phase.mpr ⟨candidate, pending⟩
    rw [running] at phase
    contradiction

theorem awaitedRemove (awaited : Awaited p) (candidate) : Awaited {p with candidates := p.candidates.remove candidate} := by
  refine ⟨awaited.phase, fun other context pending found => ?_⟩
  simp only [HashMap.getRemove] at found
  split at found
  · contradiction
  · exact awaited.finished other context pending found

theorem checkedAwaited {op candidate attempt} {Q : Unit → ServerProvider S → Prop} {E : CryptoStateError → ServerProvider S → Prop}
    (passed : Q () p) (refused : ∀ e, E e p) : Action.wp (checked op candidate attempt) Q E p := by
  simp only [checked, Action.wpBind, Action.wpRead, Action.wpOfExcept]
  split
  · exact passed
  · exact refused _

theorem helloAwaited (candidate attempt payload) :
    Keeps Awaited (ServerProvider.prepareServerHello candidate attempt payload : Op S _) := by
  intro p awaited
  simp only [ServerProvider.prepareServerHello, Action.wpBind]
  refine checkedAwaited ?_ (fun _ => awaited)
  simp only [Action.wpRead, Action.wpIte, Action.wpFail]
  refine ⟨fun _ => awaited, fun running => ?_⟩
  rw [not_not] at running
  have none := awaitedRunning awaited running
  split
  · exact awaited
  · simp only [Action.wpIte, Action.wpFail, Action.wpPure]
    exact ⟨fun _ => awaited, fun _ => ⟨fun _ => awaited, fun _ => awaited⟩⟩
  · simp only [openHello, Action.wpBind, Action.wpIte, Action.wpFail, Action.wpOfOption, Action.wpRead]
    refine ⟨fun _ => awaited, fun _ => ?_⟩
    split <;> try exact awaited
    split <;> try exact awaited
    split <;> try exact awaited
    split <;> try exact awaited
    simp only [Action.wpIte, Action.wpPure]
    refine ⟨fun _ => awaited, fun _ => ?_⟩
    split <;> try exact awaited
    simp only [Action.wpIte, Action.wpPure]
    refine ⟨fun _ => awaited, fun _ => ?_⟩
    have idle : ∀ t : ServerProvider S, t.phase = p.phase → t.pendingCommit = p.pendingCommit → Awaited t := by
      intro t phase pending
      refine awaitedNone ?_ (pending.trans none)
      rw [phase, running]
      simp
    simp only [welcome, Action.wpBind, Action.wpOfOption, draw, Action.wpTotal, Action.wpModify, Action.wpPure]
    split <;> try exact awaited
    split <;> try exact idle _ rfl rfl
    split <;> try exact idle _ rfl rfl
    split <;> try exact idle _ rfl rfl
    split <;> exact idle _ rfl rfl

theorem finishAwaited (candidate attempt payload) :
    Keeps Awaited (ServerProvider.authenticateClientFinish candidate attempt payload : Op S _) := by
  intro p awaited
  simp only [ServerProvider.authenticateClientFinish, Action.wpBind]
  refine checkedAwaited ?_ (fun _ => awaited)
  simp only [Action.wpRead]
  split
  · exact awaited
  · exact awaited
  · simp only [Action.wpIte, Action.wpFail]
    refine ⟨fun _ => awaited, fun _ => ?_⟩
    split
    · simp only [Action.wpIte, Action.wpPure]
      exact ⟨fun _ => awaited, fun _ => awaited⟩
    · have logged : ∀ history, Awaited {p with history := history} := fun _ => ⟨awaited.phase, awaited.finished⟩
      simp only [openFinish, Action.wpBind, Action.wpIte, Action.wpFail, noteRead, Action.wpModify, Action.wpOfOption, Action.wpPure]
      refine ⟨fun _ => awaited, fun _ => ?_⟩
      split <;> try exact logged _
      refine ⟨fun _ => logged _, fun _ => ?_⟩
      simp only [confirm, noteWrite, Action.wpBind, Action.wpOfOption, Action.wpModify, Action.wpPure]
      split <;> try exact logged _
      split <;> try exact logged _
      split <;> try exact logged _
      refine ⟨⟨fun _ => ⟨candidate, rfl⟩, fun _ => rfl⟩, fun other context pending found => ?_⟩
      cases Option.some.inj pending
      simp only [confirming, HashMap.getInsert, if_true] at found
      cases Option.some.inj found
      rfl

theorem commitAwaited (candidate attempt metadata) :
    Keeps Awaited (ServerProvider.commitSession candidate attempt metadata : Op S _) := by
  intro p awaited
  simp only [ServerProvider.commitSession, Action.wpBind, Action.wpRead, Action.wpIte, Action.wpFail, Action.wpModify]
  refine ⟨fun _ => awaited, fun _ => ⟨fun _ => awaited, fun _ => ?_⟩⟩
  split
  · simp only [Action.wpIte, Action.wpFail, Action.wpModify]
    refine ⟨fun _ => awaitedRemove awaited _, fun _ => ⟨fun _ => awaitedRemove awaited _, fun _ => ?_⟩⟩
    exact awaitedNone (fun same => by cases same) rfl
  · exact awaitedRemove awaited _

theorem rejectAwaited (candidate attempt) :
    Keeps Awaited (ServerProvider.rejectAuthenticatedCandidate candidate attempt : Op S _) := by
  intro p awaited
  simp only [ServerProvider.rejectAuthenticatedCandidate, Action.wpBind, Action.wpRead, Action.wpIte, Action.wpPure]
  refine ⟨fun _ => awaited, fun _ => checkedAwaited ⟨fun _ => awaited, fun _ => ?_⟩ (fun _ => awaited)⟩
  exact awaitedNone (fun same => by cases same) rfl

theorem removeAwaited (candidate attempt) :
    Keeps Awaited (ServerProvider.removeCandidate candidate attempt : Op S _) := by
  intro p awaited
  simp only [ServerProvider.removeCandidate, Action.wpBind, Action.wpRead, Action.wpIte, Action.wpPure]
  refine ⟨fun _ => awaited, fun _ => checkedAwaited ?_ (fun _ => awaited)⟩
  split
  · exact awaited
  · simp only [Action.wpBind, Action.wpModify, Action.wpIte, Action.wpPure]
    exact ⟨fun _ => awaitedNone (fun same => by cases same) rfl, fun _ => awaitedRemove awaited _⟩

theorem shutdownAwaited (p : ServerProvider S) (awaited : Awaited p) : Awaited (ServerProvider.shutdown p).2 := by
  unfold ServerProvider.shutdown
  split
  · exact awaited
  · exact awaitedNone (fun same => by cases same) rfl

theorem commandAwaited (command) : Keeps Awaited (serverCommand command : Op S _) := by
  intro p awaited
  cases command with
  | commitSession candidate attempt metadata => exact commitAwaited candidate attempt metadata p awaited
  | prepareServerHello candidate attempt payload => exact ignoredKeeps (helloAwaited candidate attempt payload) p awaited
  | authenticateClientFinish candidate attempt payload => exact ignoredKeeps (finishAwaited candidate attempt payload) p awaited
  | rejectAuthenticatedCandidate candidate attempt => exact ignoredKeeps (rejectAwaited candidate attempt) p awaited
  | removeCandidate candidate attempt => exact ignoredKeeps (removeAwaited candidate attempt) p awaited
  | shutdown => exact shutdownAwaited p awaited

def ServerAtomic (p : ServerProvider S) (candidate : CandidateId) (attempt : ClientAttemptId)
    (metadata : EstablishedSessionMetadata) : Prop :=
  ∀ e t, ServerProvider.commitSession candidate attempt metadata p = (.error e, t) →
    t.phase = p.phase ∧ t.candidates = p.candidates ∧ t.established = p.established ∧ t.pendingCommit = p.pendingCommit ∧
    ∀ candidate' attempt' metadata', ServerProvider.commitSession candidate' attempt' metadata' t =
      ServerProvider.commitSession candidate' attempt' metadata' p

def ServerFits (p : ServerProvider S) (candidate : CandidateId) (attempt : ClientAttemptId)
    (metadata : EstablishedSessionMetadata) : Prop :=
  p.pendingCommit = some candidate → ∀ context, p.candidates.get candidate = some context →
    context.attempt = attempt ∧ CandidateContext.metadata context = metadata

theorem commitUnawaited {candidate attempt metadata} (other : p.pendingCommit ≠ some candidate) :
    ∃ e, ServerProvider.commitSession candidate attempt metadata p = (.error e, p) := by
  refine Action.wpOutcome (R := fun answer => ∃ e, answer = (.error e, p)) ?_
  simp only [ServerProvider.commitSession, Action.wpBind, Action.wpRead, Action.wpIte, Action.wpFail]
  exact ⟨fun _ => ⟨_, rfl⟩, fun _ => ⟨fun _ => ⟨_, rfl⟩, fun same => absurd other same⟩⟩

theorem commitAbsent {candidate attempt metadata} (absent : p.candidates.get candidate = none) :
    ∃ e, ServerProvider.commitSession candidate attempt metadata p = (.error e, p) := by
  refine Action.wpOutcome (R := fun answer => ∃ e, answer = (.error e, p)) ?_
  simp only [ServerProvider.commitSession, Action.wpBind, Action.wpRead, Action.wpIte, Action.wpFail, Action.wpModify, absent,
    HashMap.removeAbsent _ absent]
  exact ⟨fun _ => ⟨_, rfl⟩, fun _ => ⟨fun _ => ⟨_, rfl⟩, fun _ => ⟨_, rfl⟩⟩⟩

theorem commitHeld {candidate attempt metadata context} (awaited : Awaited p) (pending : p.pendingCommit = some candidate)
    (found : p.candidates.get candidate = some context) :
    (context.attempt = attempt ∧ CandidateContext.metadata context = metadata ∧
      (ServerProvider.commitSession candidate attempt metadata p).1 = .ok ()) ∨
    (¬ (context.attempt = attempt ∧ CandidateContext.metadata context = metadata) ∧
      ∃ e, ServerProvider.commitSession candidate attempt metadata p =
        (.error e, {p with candidates := p.candidates.remove candidate})) := by
  refine Action.wpOutcome (R := fun answer : Except CryptoStateError Unit × ServerProvider S =>
    (context.attempt = attempt ∧ CandidateContext.metadata context = metadata ∧ answer.1 = .ok ()) ∨
    (¬ (context.attempt = attempt ∧ CandidateContext.metadata context = metadata) ∧
      ∃ e, answer = (.error e, {p with candidates := p.candidates.remove candidate}))) ?_
  have phase := awaited.phase.mpr ⟨candidate, pending⟩
  have finished := awaited.finished candidate context pending found
  simp only [ServerProvider.commitSession, Action.wpBind, Action.wpRead, phase, pending, ne_eq, not_true_eq_false, if_false,
    Action.wpModify, found]
  cases context with
  | established context => cases finished
  | pending context =>
    obtain ⟨expected, transport, hash, identity, clientHello, serverHello, clientFinish, serverFinish, stored⟩ := context
    cases serverFinish with
    | none => cases finished
    | some finish =>
      simp only [Action.wpIte, Action.wpFail, Action.wpModify, CandidateContext.attempt, CandidateContext.metadata]
      refine ⟨fun other => ?_, fun same => ⟨fun other => ?_, fun stored => ?_⟩⟩
      · exact .inr ⟨fun both => other both.1, _, rfl⟩
      · exact .inr ⟨fun both => other both.2, _, rfl⟩
      · exact .inl ⟨not_not.mp same, not_not.mp stored, trivial⟩

theorem serverAtomicIff {candidate attempt metadata} (awaited : Awaited p) :
    ServerAtomic p candidate attempt metadata ↔ ServerFits p candidate attempt metadata := by
  have still : (∃ e, ServerProvider.commitSession candidate attempt metadata p = (.error e, p)) →
      ServerAtomic p candidate attempt metadata := by
    rintro ⟨e, ran⟩ e' t failed
    cases ran.symm.trans failed
    exact ⟨rfl, rfl, rfl, rfl, fun _ _ _ => rfl⟩
  by_cases pending : p.pendingCommit = some candidate
  · cases found : p.candidates.get candidate with
    | none =>
      refine ⟨fun _ _ context held => ?_, fun _ => still (commitAbsent found)⟩
      rw [found] at held
      contradiction
    | some context =>
      rcases @commitHeld S p candidate attempt metadata context awaited pending found with
        ⟨same, stored, ran⟩ | ⟨unfit, e, ran⟩
      · refine ⟨fun _ _ other held => ?_, fun _ e t failed => ?_⟩
        · cases Option.some.inj (found.symm.trans held)
          exact ⟨same, stored⟩
        · rw [failed] at ran
          contradiction
      · refine ⟨fun atomic => ?_, fun fits => absurd (fits pending context found) unfit⟩
        have kept : p.candidates.remove candidate = p.candidates := (atomic e _ ran).2.1
        have gone := HashMap.getRemove p.candidates candidate candidate
        rw [kept, found, if_pos rfl] at gone
        contradiction
  · exact ⟨fun _ same => absurd same pending, fun _ => still (commitUnawaited pending)⟩

end Server

theorem commitAtomicity (S : Snow) :
    (∀ own pin rng (commands : List ClientCommand) attempt metadata,
      let p := (run clientCommands (NoiseClient.ClientProvider.new (S := S) own pin rng) commands).2
      ClientAtomic p attempt metadata ↔ ClientFits p attempt metadata) ∧
    ∀ own allowed hasher rng (commands : List ServerCommand) candidate attempt metadata,
      let p := (run serverCommands (NoiseServer.ServerProvider.new (S := S) own allowed hasher rng) commands).2
      ServerAtomic p candidate attempt metadata ↔ ServerFits p candidate attempt metadata := by
  constructor
  · intro own pin rng commands attempt metadata
    have start : Vacant (NoiseClient.ClientProvider.new (S := S) own pin rng) := fun _ => rfl
    refine clientAtomicIff (runInvariant (fun p command vacant => ?_) start commands)
    exact Action.wpOutcome (R := fun answer => Vacant answer.2) (commandVacant command p vacant)
  · intro own allowed hasher rng commands candidate attempt metadata
    have start : Awaited (NoiseServer.ServerProvider.new (S := S) own allowed hasher rng) := awaitedNone (fun same => by cases same) rfl
    refine serverAtomicIff (runInvariant (fun p command awaited => ?_) start commands)
    exact Action.wpOutcome (R := fun answer => Awaited answer.2) (commandAwaited command p awaited)

section Plain
open NoiseClient NoiseServer ServerRemoteInput
open ClientLedger (plainServerHello plainServerFinish)

def foreignMetadata : EstablishedSessionMetadata := ⟨⟨.copyFrom 32 [3]⟩, ⟨.copyFrom 32 [4]⟩⟩

def plainAuthenticatedServer : ClientProvider plainSnow :=
  (run clientCommands (ClientProvider.new (List.replicate 32 1) (List.replicate 32 2) (fun _ => ()))
    [.startAttempt plainAttempt, .authenticateServerHello plainAttempt plainServerHello,
      .authenticateServerFinish plainAttempt plainServerFinish]).2

def plainAuthenticatedClient : ServerProvider plainSnow :=
  (run serverCommands (ServerProvider.new plainServerKey [plainClientKey] (.listing _ _) (fun _ => ()))
    [.prepareServerHello ⟨1⟩ plainAttempt plainHello, .authenticateClientFinish ⟨1⟩ plainAttempt plainFinish]).2

theorem failedCommitLosesContext :
    ¬ ClientAtomic plainAuthenticatedServer plainAttempt foreignMetadata ∧
    ¬ ServerAtomic plainAuthenticatedClient ⟨1⟩ plainAttempt foreignMetadata := by
  constructor
  · intro atomic
    have failed : (ClientProvider.commitSession plainAttempt foreignMetadata plainAuthenticatedServer).1 =
        .error .authenticatedMetadataMismatch := by decide +kernel
    have held : plainAuthenticatedServer.context.isSome = true := by decide +kernel
    have lost : (ClientProvider.commitSession plainAttempt foreignMetadata plainAuthenticatedServer).2.context.isSome = false := by
      decide +kernel
    generalize ran : ClientProvider.commitSession plainAttempt foreignMetadata plainAuthenticatedServer = answer at failed lost
    obtain ⟨result, after⟩ := answer
    cases failed
    rw [(atomic _ _ ran).2.1, held] at lost
    exact absurd lost (by decide)
  · intro atomic
    have failed : (ServerProvider.commitSession ⟨1⟩ plainAttempt foreignMetadata plainAuthenticatedClient).1 =
        .error .authenticatedMetadataMismatch := by decide +kernel
    have held : plainAuthenticatedClient.candidates.len = 1 := by decide +kernel
    have lost : (ServerProvider.commitSession ⟨1⟩ plainAttempt foreignMetadata plainAuthenticatedClient).2.candidates.len = 0 := by
      decide +kernel
    generalize ran : ServerProvider.commitSession ⟨1⟩ plainAttempt foreignMetadata plainAuthenticatedClient = answer at failed lost
    obtain ⟨result, after⟩ := answer
    cases failed
    rw [(atomic _ _ ran).2.1, held] at lost
    exact absurd lost (by decide)

end Plain
end Crabnet.CommitAtomicity
