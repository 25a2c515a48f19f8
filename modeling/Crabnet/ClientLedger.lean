import Crabnet.CoordinatorStability
import Crabnet.ServerLedger

/-! What the client's library history says after any sequence of calls: every
transport was new when it sealed its one finish, and an established context was
proven by a finish that its own transport read. -/
namespace Crabnet.ClientLedger
open MachineWord SessionTypes Fallible CryptoBoundary ClientPolicy HandshakeTypes ClientCoordinator
open NoiseProfile SnowBoundary NoiseClient CoordinatorStability
open ServerLedger (Backing)

section Kept
open ClientHandshakeCrypto
variable {C : Type} {I : C → Prop} {α : Type}

def Keeps (I : C → Prop) (x : Action C CryptoStateError α) : Prop :=
  ∀ p, I p → Action.wp x (fun _ t => I t) (fun _ t => I t) p

def Kept (I : C → Prop) (x : Step C α) : Prop :=
  ∀ c : ClientHandshakeCoordinator C, I c.crypto → Action.wp x (fun _ t => I t.crypto) (fun _ t => I t.crypto) c

theorem keptBind {β : Type} {x : Step C β} {f : β → Step C α} (first : Kept I x) (rest : ∀ b, Kept I (f b)) :
    Kept I (x >>= f) := by
  intro c held
  rw [Action.wpBind]
  exact Action.wpMono (first c held) (fun b t still => rest b t still) (fun _ _ still => still)

theorem keptPure (a : α) : Kept I (pure a : Step C α) := fun _ held => held
theorem keptFail (e : CoordinatorPrimaryError) : Kept I (Action.fail e : Step C α) := fun _ held => held

theorem keptCrypto {x : Action C CryptoStateError α} (keeps : Keeps I x) : Kept I (onCrypto x) := by
  intro c held
  simp only [onCrypto, Action.wpMapError, Action.wpWithin]
  exact keeps c.crypto held

theorem keptPolicy (x : ClientHandshake.Step α) : Kept I (onPolicy x : Step C α) := by
  intro c held
  simp only [onPolicy, Action.wpMapError, Action.wpWithin]
  unfold Action.wp
  split <;> exact held

theorem keptAskPolicy (x : ClientHandshake → α × ClientHandshake) : Kept I (askPolicy x : Step C α) :=
  fun _ held => held

theorem keptAsk (x : C → Except CryptoStateError α) : Kept I (askCrypto x) :=
  fun _ held => askRule (fun _ _ => held) (fun _ => held)

theorem keptAttempt (expected observed) : Kept I (expectAttempt expected observed : Step C Unit) := by
  unfold expectAttempt
  split
  · exact keptFail _
  · exact keptPure ()

variable [ClientHandshakeCrypto C]

structure Invariant (I : C → Prop) : Prop where
  startAttempt : ∀ id, Keeps I (startAttempt id)
  authenticateServerHello : ∀ id payload, Keeps I (authenticateServerHello id payload)
  authenticateServerFinish : ∀ id payload, Keeps I (authenticateServerFinish id payload)
  commitSession : ∀ id metadata, Keeps I (commitSession id metadata)
  closeContext : ∀ id, Keeps I (closeContext id)
  shutdown : ∀ p, I p → I (shutdown p).2

theorem keptVerify : Kept I (verifyPhases : Step C Unit) := by
  intro c held
  unfold Action.wp verifyPhases
  cases verifyClientPhases c.policy c.crypto <;> exact held

theorem keptBegin (ops : Invariant I) (now) : Kept I (begin_ now : Step C (Report C)) := by
  refine keptBind (keptPolicy _) fun action => ?_
  split
  · exact keptBind (keptCrypto (ops.startAttempt _)) fun _ => keptBind (keptAttempt _ _) fun _ =>
      keptBind keptVerify fun _ => keptPure _
  · exact keptFail _

theorem keptClose (ops : Invariant I) (attemptId event) : Kept I (closeAttempt attemptId event : Step C (Report C)) := by
  refine keptBind (keptCrypto (ops.closeContext _)) fun removal => ?_
  split
  · exact keptFail _
  · exact keptBind keptVerify fun _ => keptBind (fun _ held => held) fun _ => keptPure _

theorem keptReject (ops : Invariant I) (source expected observed) :
    Kept I (rejectAttempt source expected observed : Step C (Report C)) := by
  refine keptBind (keptAttempt _ _) fun _ => keptBind (keptAskPolicy _) fun action => ?_
  split
  · exact keptFail _
  · exact keptClose ops _ _

theorem keptServerHello (ops : Invariant I) (source message now) :
    Kept I (serverHello source message now : Step C (Report C)) := by
  refine keptBind (keptAskPolicy _) fun decision => ?_
  cases decision with
  | drop reason => exact keptPure _
  | timeout attemptId => exact keptClose ops _ _
  | permit attemptId =>
    refine keptBind (keptCrypto (ops.authenticateServerHello _ _)) fun outcome => ?_
    split
    · refine keptBind (keptAttempt _ _) fun _ => keptBind (keptPolicy _) fun action => ?_
      split
      · exact keptBind (keptAttempt _ _) fun _ => keptBind (keptAsk _) fun _ => keptBind (keptAttempt _ _) fun _ =>
          keptBind keptVerify fun _ => keptPure _
      · exact keptFail _
    · exact keptReject ops _ _ _
    · exact keptFail _

theorem keptServerFinish (ops : Invariant I) (source message now) :
    Kept I (serverFinish source message now : Step C (Report C)) := by
  refine keptBind (keptAskPolicy _) fun decision => ?_
  cases decision with
  | drop reason => exact keptPure _
  | timeout attemptId => exact keptClose ops _ _
  | permit attemptId =>
    refine keptBind (keptCrypto (ops.authenticateServerFinish _ _)) fun outcome => ?_
    split
    · refine keptBind (keptAttempt _ _) fun _ => keptBind (keptPolicy _) fun action => ?_
      split
      · split
        · exact keptFail _
        · exact keptBind (keptCrypto (ops.commitSession _ _)) fun _ => keptBind keptVerify fun _ => keptPure _
      · exact keptFail _
    · exact keptReject ops _ _ _
    · exact keptFail _

theorem keptTimeout (ops : Invariant I) (now) : Kept I (timeout now : Step C (Report C)) := by
  refine keptBind (keptAskPolicy _) fun action => ?_
  split
  · exact keptBind keptVerify fun _ => keptPure _
  · exact keptBind keptVerify fun _ => keptBind (fun _ held => held) fun _ => keptPure _
  · exact keptClose ops _ _
  · exact keptFail _

theorem keptClosing (ops : Invariant I) {x : Step C (Report C)} (kept : Kept I x) {c : ClientHandshakeCoordinator C}
    (held : I c.crypto) : I (closing x c).2.crypto := by
  have ends := kept c held
  unfold closing
  rcases ran : x c with ⟨primary | report, t⟩
  · exact ops.shutdown _ (Action.wpError ends ran)
  · exact Action.wpOk ends ran

theorem keptStep (ops : Invariant I) {c : ClientHandshakeCoordinator C} (held : I c.crypto) (call : ClientCall C) :
    I (clientStep c call).2.crypto := by
  cases call with
  | start now => exact keptClosing ops (keptBegin ops now) held
  | serverHello source message now => exact keptClosing ops (keptServerHello ops source message now) held
  | serverFinish source message now => exact keptClosing ops (keptServerFinish ops source message now) held
  | checkTimeout now => exact keptClosing ops (keptTimeout ops now) held
  | shutdown =>
    have shut := ops.shutdown _ held
    unfold clientStep shutdownAll
    simp only
    split
    · exact shut
    · split <;> exact shut

end Kept

/-! The Noise provider. `own` and `pin` are its private key and the pinned key. -/

section Provider
open ClientProvider
variable {S : Snow} {p : ClientProvider S} {own pin : Bytes} {α : Type}

theorem attemptChecked {op id} {Q : Unit → ClientProvider S → Prop} {E : CryptoStateError → ClientProvider S → Prop}
    (passed : (∀ context, p.context = some context → context.id = id) → Q () p) (refused : ∀ e, E e p) :
    Action.wp (checked op id) Q E p := by
  simp only [checked, Action.wpBind, Action.wpRead, Action.wpOfExcept, check, ClientProvider.id]
  cases held : p.context with
  | none =>
    simp only [Option.map_none]
    split
    · rename_i ok
      exact passed (fun context impossible => by rw [held] at impossible; contradiction)
    · exact refused _
  | some context =>
    simp only [Option.map_some]
    split
    · rename_i ok
      split at ok <;> try contradiction
      rename_i same
      refine passed fun other found => ?_
      cases Option.some.inj (held.symm.trans found)
      exact not_not.mp same
    · exact refused _

def Opened (own pin : Bytes) (h : NoiseHistory) (id : ClientAttemptId) (handle : Nat)
    (metadata : EstablishedSessionMetadata) : Prop :=
  ∃ session, Backing h [pin] handle id metadata session ∧ session.localPrivate = own

def Proven (h : NoiseHistory) (id : ClientAttemptId) (handle : Nat) : Prop :=
  ∃ message plain, (handle, ⟨0, message, some plain⟩) ∈ h.reads ∧ message.length = serverFinishPayloadLength ∧
    controlValid plain .serverFinish id = true

def Held (own pin : Bytes) (h : NoiseHistory) : Context S → Prop
  | .hello attempt _ _ => buildPrologue attempt = .ok (sessionPrologue attempt)
  | .finish attempt transport hash peer _ => Opened own pin h attempt transport.handle ⟨sid hash, peer⟩
  | .pending attempt transport metadata _ _ =>
    Opened own pin h attempt transport.handle metadata ∧ Proven h attempt transport.handle
  | .established attempt transport metadata =>
    Opened own pin h attempt transport.handle metadata ∧ Proven h attempt transport.handle

structure Ledger (own pin : Bytes) (p : ClientProvider S) : Prop where
  key : p.localPrivateKey = own
  pinned : p.pinnedServerStaticPublic = pin
  logged : Logged p.history
  held : ∀ context, p.context = some context → Held own pin p.history context

theorem ledgerEmpty {q : ClientProvider S} (ledger : Ledger own pin p) (keys : q.localPrivateKey = p.localPrivateKey)
    (pinned : q.pinnedServerStaticPublic = p.pinnedServerStaticPublic) (logged : Logged q.history)
    (empty : q.context = none) : Ledger own pin q := by
  refine ⟨keys.trans ledger.key, pinned.trans ledger.pinned, logged, ?_⟩
  intro context found
  rw [empty] at found
  contradiction

theorem ledgerTaken (ledger : Ledger own pin p) : Ledger own pin {p with context := none} :=
  ledgerEmpty ledger rfl rfl ledger.logged rfl

theorem ledgerSet (ledger : Ledger own pin p) {phase : ClientCryptoPhase} {context : Context S} {drawn : Nat}
    (held : Held own pin p.history context) :
    Ledger own pin {p with context := some context, phase := phase, drawn := drawn} := by
  refine ⟨ledger.key, ledger.pinned, ledger.logged, ?_⟩
  intro other found
  cases Option.some.inj found
  exact held

theorem prologueHeld {id prologue} (built : (buildPrologue id).toOption = some prologue) :
    buildPrologue id = .ok (sessionPrologue id) := by
  unfold sessionPrologue
  cases ran : buildPrologue id with
  | error e => simp [ran, Except.toOption] at built
  | ok bytes => rfl

theorem startKept (id) : Keeps (Ledger own pin) (ClientProvider.startAttempt id : Op S _) := by
  intro p ledger
  simp only [ClientProvider.startAttempt, Action.wpBind, Action.wpRead, Action.wpIte, Action.wpFail, Action.wpOfOption, draw,
    Action.wpTotal, setContext, Action.wpModify, Action.wpPure]
  refine ⟨fun _ => ledger, fun _ => ⟨fun _ => ledger, fun _ => ?_⟩⟩
  split <;> try exact ledger
  split <;> try exact ledger
  rename_i prologue built
  split <;> try exact ledger
  split <;> try exact ledger
  have drew : Ledger own pin {p with drawn := p.drawn + 1} := ⟨ledger.key, ledger.pinned, ledger.logged, ledger.held⟩
  split <;> try exact drew
  split <;> try exact drew
  exact ledgerSet ledger (prologueHeld built)

theorem acceptKept {id : ClientAttemptId} {hello : FixedBytes clientHelloPayloadLength} {payload : Bytes}
    {state : S.HandshakeState} (ledger : Ledger own pin p) (empty : p.context = none)
    (built : buildPrologue id = .ok (sessionPrologue id)) :
    Action.wp (accept id id hello payload pin state) (fun _ t => Ledger own pin t) (fun _ t => Ledger own pin t) p := by
  simp only [accept, Action.wpBind, Action.wpRead, Action.wpOfOption, openTransport, Action.wpTotal, noteWrite, setContext,
    Action.wpModify, Action.wpPure]
  split <;> try exact ledger
  rename_i hash hashed
  split <;> try exact ledger
  generalize made : NoiseSession.mk (sessionPrologue id) p.localPrivateKey pin hello.toList payload hash = session
  have opened : Logged (p.history.open_ session) := loggedOpen ledger.logged session
  split
  · rename_i record recorded
    have wrote : ∀ call, call.nonce = 0 → Ledger own pin
        {p with history := (p.history.open_ session).wrote p.history.opened.length call} := fun call zero =>
      ledgerEmpty ledger rfl rfl (loggedWrote opened (unusedNext ledger.logged session) zero) empty
    split <;> try exact wrote _ rfl
    split <;> try exact wrote _ rfl
    refine ledgerSet (wrote _ rfl) ⟨session, ⟨?_, ?_, ?_, ?_⟩, ?_⟩
    · simp [NoiseHistory.open_, NoiseHistory.wrote]
    · rw [← made]
      exact built
    · rw [← made]
      exact List.mem_singleton.mpr rfl
    · rw [← made]
      rfl
    · rw [← made]
      exact ledger.key
  · exact ledgerEmpty ledger rfl rfl opened empty

theorem refuseKept {id reason} {context : Context S} (ledger : Ledger own pin p)
    (held : Held own pin p.history context) :
    Action.wp (refuse context id reason : Op S (CryptoOutcome α)) (fun _ t => Ledger own pin t)
      (fun _ t => Ledger own pin t) p := by
  simp only [refuse, restore, Action.wpBind, Action.wpModify, Action.wpPure]
  exact ledgerSet ledger held

theorem helloKept (id payload) : Keeps (Ledger own pin) (ClientProvider.authenticateServerHello id payload : Op S _) := by
  intro p ledger
  simp only [ClientProvider.authenticateServerHello, Action.wpBind]
  refine attemptChecked (fun same => ?_) (fun _ => ledger)
  simp only [Action.wpRead, Action.wpIte, Action.wpFail, Action.wpBind, takeContext, Action.wpModify]
  refine ⟨fun _ => ledger, fun _ => ⟨fun _ => ledger, fun _ => ?_⟩⟩
  have taken := ledgerTaken ledger
  split
  · rename_i attempt state hello found
    cases same _ found
    have built : Held own pin p.history (Context.hello attempt state hello) := ledger.held _ found
    simp only [openHello, Action.wpBind, Action.wpRead]
    split
    · exact refuseKept taken built
    · split
      · exact refuseKept taken built
      · split
        · exact refuseKept taken built
        · split
          · exact refuseKept taken built
          · rename_i remote _ other
            rw [not_not, ledger.pinned] at other
            rw [other]
            exact acceptKept taken rfl built
  · exact taken

theorem finishKept (id payload) :
    Keeps (Ledger own pin) (ClientProvider.authenticateServerFinish id payload : Op S _) := by
  intro p ledger
  simp only [ClientProvider.authenticateServerFinish, Action.wpBind]
  refine attemptChecked (fun same => ?_) (fun _ => ledger)
  simp only [Action.wpRead, Action.wpIte, Action.wpFail, Action.wpBind, takeContext, Action.wpModify]
  refine ⟨fun _ => ledger, fun _ => ⟨fun _ => ledger, fun sized => ?_⟩⟩
  rw [not_not] at sized
  split
  · rename_i attempt transport hash peer clientFinish found
    cases same _ found
    have opened : Opened own pin p.history attempt transport.handle ⟨sid hash, peer⟩ := ledger.held _ found
    simp only [openFinish, Action.wpBind, noteRead, Action.wpModify]
    generalize reads : transport.read 0 payload serverFinishPayloadLength = result
    have noted : Ledger own pin {p with context := none, history := p.history.read_ transport.handle ⟨0, payload, result⟩} :=
      ledgerEmpty ledger rfl rfl ⟨ledger.logged.numbered, ledger.logged.once⟩ rfl
    have still : Opened own pin (p.history.read_ transport.handle ⟨0, payload, result⟩) attempt transport.handle
        ⟨sid hash, peer⟩ := by
      obtain ⟨session, ⟨opened, prologue, allowed, metadata⟩, key⟩ := opened
      exact ⟨session, ⟨opened, prologue, allowed, metadata⟩, key⟩
    cases result with
    | none => exact refuseKept noted still
    | some plain =>
      simp only
      split
      · exact refuseKept noted still
      · rename_i valid
        rw [not_or, Bool.not_eq_false] at valid
        simp only [setContext, Action.wpBind, Action.wpModify, Action.wpPure]
        refine ledgerSet noted ⟨still, payload, plain, ?_, sized, valid.2⟩
        exact List.mem_append_right _ (List.mem_singleton.mpr rfl)
  · exact ledgerTaken ledger

theorem commitKept (id metadata) : Keeps (Ledger own pin) (ClientProvider.commitSession id metadata : Op S _) := by
  intro p ledger
  simp only [ClientProvider.commitSession, Action.wpBind]
  refine attemptChecked (fun same => ?_) (fun _ => ledger)
  simp only [Action.wpRead, takeContext, Action.wpModify]
  split
  · rename_i attempt transport expected _ _ found
    cases same _ found
    simp only [Action.wpIte, Action.wpFail, setContext, Action.wpModify]
    refine ⟨fun _ => ledgerTaken ledger, fun agreed => ?_⟩
    rw [not_not] at agreed
    subst agreed
    have proven : Held own pin p.history (Context.pending attempt transport expected _ _) := ledger.held _ found
    exact ledgerSet ledger proven
  · exact ledgerTaken ledger

theorem closeKept (id) : Keeps (Ledger own pin) (ClientProvider.closeContext id : Op S _) := by
  intro p ledger
  simp only [ClientProvider.closeContext, Action.wpBind, Action.wpRead, Action.wpIte, Action.wpPure]
  refine ⟨fun _ => ledger, fun _ => attemptChecked (fun _ => ?_) (fun _ => ledger)⟩
  simp only [Action.wpModify, closed]
  exact ledgerEmpty ledger rfl rfl ledger.logged rfl

theorem providerInvariant : Invariant (Ledger (S := S) own pin) where
  startAttempt := startKept
  authenticateServerHello := helloKept
  authenticateServerFinish := finishKept
  commitSession := commitKept
  closeContext := closeKept
  shutdown p ledger := by
    change Ledger own pin (ClientProvider.shutdown p).2
    unfold ClientProvider.shutdown
    split
    · exact ledger
    · exact ledgerEmpty ledger rfl rfl ledger.logged rfl

end Provider

section Linked
variable {S : Snow}

abbrev Client (S : Snow) := ClientHandshakeCoordinator (ClientProvider S)

def Linked (c : Client S) : Prop :=
  ∀ metadata since, c.policy.state = .established metadata since →
    ∃ id transport, c.crypto.context = some (.established id transport metadata)

theorem linkedPending {c : Client S} {p} (pending : c.policy.state.phase = some p) : Linked c := by
  intro metadata since impossible
  rw [impossible] at pending
  contradiction

theorem linkedClosed {c : Client S} (closed : c.policy.state = .closed) : Linked c := by
  intro metadata since impossible
  rw [closed] at impossible
  contradiction

theorem commitHolds {p : ClientProvider S} (id metadata) :
    Action.wp (ClientProvider.commitSession id metadata)
      (fun _ t => t.phase = .established ∧ ∃ transport, t.context = some (.established id transport metadata))
      (fun _ _ => True) p := by
  simp only [ClientProvider.commitSession, Action.wpBind]
  refine attemptChecked (fun _ => ?_) (fun _ => trivial)
  simp only [Action.wpRead, ClientProvider.takeContext, Action.wpModify]
  split
  · rename_i transport expected _ _ found
    simp only [Action.wpIte, Action.wpFail, ClientProvider.setContext, Action.wpModify]
    exact ⟨fun _ => trivial, fun _ => ⟨trivial, transport, rfl⟩⟩
  · trivial

theorem turnLinked {c t : Client S} {r} (linked : Linked c) (turn : ClientTurn c r t) : Linked t := by
  cases turn with
  | begun now id policy prepared crypto started made verified =>
    obtain ⟨_, next, deadline, _, rfl⟩ := Action.wpOk (startSpec now) started
    exact linkedPending rfl
  | dropped reason => exact linked
  | answered source attempt now deadline expected payload observed policy prepared crypto pending read accepted made verified =>
    obtain ⟨startedAt, later, rfl⟩ := Action.wpOk (serverHelloSpec source attempt now) accepted _ rfl
    exact linkedPending rfl
  | established source attempt now deadline expected payload metadata policy middle crypto pending read accepted committed
      verified =>
    intro other since established
    have state := Action.wpOk (serverFinishState source attempt metadata now) accepted _ rfl
    obtain ⟨_, transport, held⟩ := Action.wpOk (commitHolds attempt metadata) committed
    cases established.symm.trans state
    exact ⟨attempt, transport, held⟩
  | unchanged open_ verified => exact linked
  | ended event t shut lifecycle verified quiet => exact linkedClosed shut

theorem stepLinked {c : Client S} (linked : Linked c) (call : ClientCall (ClientProvider S)) :
    Linked (clientStep c call).2 := by
  have returned := clientReturns c call
  generalize clientStep c call = outcome at returned ⊢
  obtain ⟨result, t⟩ := outcome
  cases result with
  | error fatal => exact linkedClosed returned.1
  | ok report => exact turnLinked linked returned

structure Accounted (own pin : Bytes) (c : Client S) : Prop where
  ledger : Ledger own pin c.crypto
  linked : Linked c

theorem stepAccounted {own pin : Bytes} {c : Client S} (accounted : Accounted own pin c)
    (call : ClientCall (ClientProvider S)) : Accounted own pin (clientStep c call).2 :=
  ⟨keptStep providerInvariant accounted.ledger call, stepLinked accounted.linked call⟩

theorem startAccounted {policy : ClientHandshake} {own pin : Bytes} {rng : Nat → S.Entropy} {c : Client S}
    (built : build policy (ClientProvider.new own pin rng) = .ok c) : Accounted own pin c := by
  unfold build at built
  split at built <;> try contradiction
  rename_i idle
  split at built <;> try contradiction
  cases Except.ok.inj built
  refine ⟨⟨rfl, rfl, ⟨?_, List.nodup_nil⟩, ?_⟩, ?_⟩
  · intro write member
    exact absurd member List.not_mem_nil
  · intro context impossible
    cases impossible
  · intro metadata since established
    rw [not_not, ClientHandshake.stateName] at idle
    rw [show policy.state = _ from established] at idle
    contradiction

end Linked

def plainServerHello : Bytes :=
  plainWrite ⟨false, NoiseServer.plainServerKey, none, []⟩ (controlRecord .serverHello ⟨1⟩)

def plainServerFinish : Bytes := plainSeal 0 (controlRecord .serverFinish ⟨1⟩)

def plainClientCalls : List (ClientCall (ClientProvider plainSnow)) :=
  [.start 1, .serverHello (plainEndpoint 2000) ⟨⟨1⟩, plainServerHello⟩ 2,
    .serverFinish (plainEndpoint 2000) ⟨⟨1⟩, plainServerFinish⟩ 3]

def plainMetadata : EstablishedSessionMetadata :=
  ⟨⟨.copyFrom 32 (ClientProvider.sessionPrologue ⟨1⟩)⟩, ClientProvider.identity NoiseServer.plainServerKey⟩

end Crabnet.ClientLedger
