import Crabnet.CommitAtomicity
import Crabnet.PrecheckAgreement
import Crabnet.SessionHandOff

/-! What a datagram from the network can do to a Noise client. Whatever its bytes,
the client answers it, drops it or gives its attempt up; only a deadline past the
end of the clock makes a call fail. -/
namespace Crabnet.ClientRemoteInput
open MachineWord SessionTypes Fallible CryptoBoundary ClientPolicy HandshakeTypes ClientCoordinator
open NoiseProfile SnowBoundary NoiseClient HandshakeCodec HandshakeExact HandshakeAdapter FrameExchange
open CoordinatorStability ClientSending PrecheckAgreement CommitAtomicity SessionHandOff
open ClientLedger (Client Keeps)

section
variable {S : Snow} {own pin : Bytes} {p : ClientProvider S} {c : Client S}

def Initiated (own pin : Bytes) (state : S.HandshakeState) : Prop :=
  ∃ params prologue start entropy record out, S.parse noiseProtocolName = some params ∧
    S.buildInitiator params own pin prologue = some start ∧ S.writeMessage start entropy record = some (out, state)

/- The operations of the library that no remote input decides. -/
structure InitiatorOperations (S : Snow) (own pin : Bytes) : Prop where
  completes : ∀ state payload plain next, Initiated own pin state → S.readMessage state payload = (some plain, next) →
    (S.getHandshakeHash next).length = 32 ∧ ∃ transport, S.intoStatelessTransportMode next = some transport
  seals : ∀ transport record, record.length = controlRecordLength →
    ∃ out, S.transportWrite transport 0 record = some out ∧ out.length = clientFinishPayloadLength

def Awaits (own pin : Bytes) (attempt : ClientAttemptId) : ClientInboundKind → Option (Context S) → Prop
  | .serverHello, some (.hello id state _) => id = attempt ∧ Initiated own pin state
  | .serverFinish, some (.finish id _ _ _ _) => id = attempt
  | _, _ => False

structure Ready (own pin : Bytes) (c : Client S) : Prop where
  stable : ClientStable c
  numbered : Numbered c.policy
  ledger : ClientLedger.Ledger own pin c.crypto
  vacant : Vacant c.crypto
  awaits : ∀ attempt deadline kind, c.policy.state.phase = some (attempt, deadline, kind) →
    Awaits own pin attempt kind c.crypto.context

theorem vacantInvariant : ClientLedger.Invariant (Vacant (S := S)) where
  startAttempt := startVacant
  authenticateServerHello := helloVacant
  authenticateServerFinish := finishVacant
  commitSession := commitVacant
  closeContext := closeVacant
  shutdown := shutdownVacant

theorem startInitiates (id) (key : p.localPrivateKey = own) (pinned : p.pinnedServerStaticPublic = pin) :
    Action.wp (ClientProvider.startAttempt id) (fun _ t => Awaits own pin id .serverHello t.context) (fun _ _ => True) p := by
  simp only [ClientProvider.startAttempt, Action.wpBind, Action.wpRead, Action.wpIte, Action.wpFail, Action.wpOfOption,
    ClientProvider.draw, Action.wpTotal, ClientProvider.setContext, Action.wpModify, Action.wpPure, key, pinned]
  refine ⟨fun _ => trivial, fun _ => ⟨fun _ => trivial, fun _ => ?_⟩⟩
  split <;> try trivial
  rename_i params parsed
  split <;> try trivial
  rename_i prologue _
  split <;> try trivial
  rename_i start built
  split <;> try trivial
  rename_i record _
  split <;> try trivial
  rename_i message written
  split <;> try trivial
  exact ⟨rfl, params, prologue, start, _, record, message.1, parsed, built, written⟩

theorem preparedAwaits {attempt prepared} (made : ClientProvider.prepareClientFinish attempt p = .ok prepared) :
    Awaits own pin attempt .serverFinish p.context := by
  unfold ClientProvider.prepareClientFinish ClientProvider.check ClientProvider.id at made
  cases held : p.context with
  | none =>
    simp only [held, Option.map_none] at made
    split at made <;> contradiction
  | some context =>
    simp only [held, Option.map_some] at made
    split at made <;> try contradiction
    rename_i checked
    split at checked <;> try contradiction
    rename_i same
    cases context with
    | finish id transport hash identity clientFinish => exact not_not.mp same
    | hello | pending | established => contradiction

theorem turnAwaits {r t} (ready : Ready own pin c) (turn : ClientTurn c r t) {attempt deadline kind}
    (pending : t.policy.state.phase = some (attempt, deadline, kind)) : Awaits own pin attempt kind t.crypto.context := by
  cases turn with
  | begun now id policy prepared crypto started made verified =>
    obtain ⟨idle, next, due, same, rfl⟩ := Action.wpOk (startSpec now) started
    cases same
    cases Option.some.inj pending
    have initiated := Action.wpOk (startInitiates _ ready.ledger.key ready.ledger.pinned) made
    exact initiated
  | dropped reason => exact ready.awaits _ _ _ pending
  | answered source current now due expected payload observed policy prepared crypto before read accepted made verified =>
    obtain ⟨startedAt, later, rfl⟩ := Action.wpOk (serverHelloSpec source current now) accepted _ rfl
    cases Option.some.inj pending
    exact preparedAwaits made
  | established source current now due expected payload metadata policy middle crypto before read accepted committed verified =>
    have state := Action.wpOk (serverFinishState source current metadata now) accepted _ rfl
    rw [state] at pending
    contradiction
  | unchanged open_ verified => exact ready.awaits _ _ _ pending
  | ended event t shut lifecycle verified quiet =>
    rw [shut] at pending
    contradiction

theorem stepReady (ready : Ready own pin c) (call : ClientCall (ClientProvider S)) :
    Ready own pin (clientStep c call).2 := by
  refine ⟨(clientStepAnswer ready.stable call).stable, (stepSends ready.numbered call).numbered,
    ClientLedger.keptStep ClientLedger.providerInvariant ready.ledger call,
    ClientLedger.keptStep vacantInvariant ready.vacant call, ?_⟩
  intro attempt deadline kind pending
  have returned := clientReturns c call
  generalize clientStep c call = outcome at returned pending ⊢
  obtain ⟨result, t⟩ := outcome
  cases result with
  | error fatal =>
    obtain ⟨shut, _, _⟩ := returned
    rw [shut] at pending
    contradiction
  | ok report => exact turnAwaits ready returned pending

def observeEach (c : Client S) (input : V2HandshakeCodec × ClientInput) : List ClientCoordinatorEvent × Client S :=
  observeClient input.1 c input.2

theorem observeReady (c : Client S) (input : V2HandshakeCodec × ClientInput) (ready : Ready own pin c) :
    Ready own pin (observeEach c input).2 := by
  obtain ⟨codec, input⟩ := input
  cases input with
  | start now => exact stepReady ready (.start now)
  | checkTimeout now => exact stepReady ready (.checkTimeout now)
  | shutdown => exact stepReady ready .shutdown
  | frame source datagram now =>
    simp only [observeEach, observeClient, clientFrameCall]
    cases clientCallOf codec source datagram now with
    | error e => exact ready
    | ok call => exact stepReady ready call

theorem builtReady {endpoint timeout policy rng} (configured : ClientHandshake.new endpoint timeout = .ok policy)
    (built : build policy (ClientProvider.new own pin rng) = .ok c) : Ready own pin c := by
  obtain ⟨idle, numbered⟩ := builtNumbered configured built
  refine ⟨clientBuilt built, numbered, (ClientLedger.startAccounted built).ledger, ?_, ?_⟩
  · unfold build at built
    obtain ⟨_, built⟩ := passed built
    obtain ⟨_, built⟩ := passed built
    cases Except.ok.inj built
    exact fun _ => rfl
  · intro attempt deadline kind pending
    rw [idle] at pending
    contradiction

def Authentic (p : ClientProvider S) (attempt : ClientAttemptId) (payload : Bytes) : ClientPreAuthKind → Prop
  | .serverHello => ∃ id state hello plain, p.context = some (.hello id state hello) ∧
    fitted serverHelloPayloadLength (S.readMessage state payload).1 = some plain ∧ plain.length = controlRecordLength ∧
    controlValid plain .serverHello attempt = true ∧
    S.getRemoteStatic (S.readMessage state payload).2 = some p.pinnedServerStaticPublic
  | .serverFinish => ∃ id transport hash identity clientFinish plain,
    p.context = some (.finish id transport hash identity clientFinish) ∧
    transport.read 0 payload serverFinishPayloadLength = some plain ∧ plain.length = controlRecordLength ∧
    controlValid plain .serverFinish attempt = true

inductive Authenticates {α : Type} (authentic : Prop) (attempt : ClientAttemptId) (Good : α → ClientProvider S → Prop)
    (p : ClientProvider S) : CryptoOutcome α → ClientProvider S → Prop
  | accepted (value q) (proven : authentic) (good : Good value q) : Authenticates authentic attempt Good p (.success value) q
  | refused (reason q) (forged : ¬ authentic) (phase : q.phase = p.phase) (held : q.id = some attempt) :
    Authenticates authentic attempt Good p (.remoteFailure (.clientAttempt attempt reason)) q

theorem refuses {α : Type} {authentic : Prop} {attempt reason} {Good : α → ClientProvider S → Prop} {q : ClientProvider S}
    {context : Context S} {E} (forged : ¬ authentic) (phase : q.phase = p.phase) (id : context.id = attempt) :
    Action.wp (ClientProvider.refuse context attempt reason) (Authenticates authentic attempt Good p) E q := by
  simp only [ClientProvider.refuse, ClientProvider.restore, Action.wpBind, Action.wpModify, Action.wpPure]
  exact .refused reason _ forged phase (congrArg some id)

theorem checkedPasses {op attempt} {Q : Unit → ClientProvider S → Prop} {E} (held : p.id = some attempt)
    (open_ : p.phase ≠ .closed) (post : Q () p) : Action.wp (ClientProvider.checked op attempt) Q E p := by
  simpa [ClientProvider.checked, ClientProvider.check, Action.wpBind, held, open_] using post

def Sealed (attempt : ClientAttemptId) (observed : AuthenticatedServerHello) (q : ClientProvider S) : Prop :=
  observed = ⟨attempt⟩ ∧ q.phase = .awaitingServerFinish ∧ ∃ transport hash identity clientFinish,
    q.context = some (.finish attempt transport hash identity clientFinish)

theorem acceptSeals (reliable : InitiatorOperations S own pin) {attempt hello payload remote state plain next}
    {q : ClientProvider S} {E} (nonzero : attempt.value ≠ 0) (initiated : Initiated own pin state)
    (read : S.readMessage state payload = (some plain, next)) {authentic : Prop} (proven : authentic) :
    Action.wp (ClientProvider.accept attempt attempt hello payload remote next)
      (Authenticates authentic attempt (Sealed attempt) p) E q := by
  obtain ⟨hashed, made, entered⟩ := reliable.completes state payload plain next initiated read
  obtain ⟨record, encoded, sized⟩ := controlEncoded nonzero (show isHandshakeMessageType .clientFinish = true from rfl)
  obtain ⟨out, written, fits⟩ := reliable.seals made record sized
  have sealed : Transport.write ⟨made, q.history.opened.length⟩ 0 record clientFinishPayloadLength = some out := by
    simp [Transport.write, fitted, written, fits]
  simp only [ClientProvider.accept, Action.wpBind, Action.wpRead, Action.wpOfOption, ClientProvider.openTransport, Action.wpTotal,
    ClientProvider.noteWrite, ClientProvider.setContext, Action.wpModify, Action.wpPure, FixedBytes.ofList?, hashed, fits,
    entered, encoded, Except.toOption, sealed, dif_pos]
  exact .accepted _ _ proven ⟨rfl, rfl, _, _, _, _, rfl⟩

theorem recordRefuted {length expected : Nat} {valid : Bool} (invalid : length ≠ expected ∨ valid = false)
    (sized : length = expected) (validated : valid = true) : False := by
  rcases invalid with long | bad
  · exact long sized
  · rw [validated] at bad
    contradiction

theorem helloAuthenticates (reliable : InitiatorOperations S own pin) {attempt payload E} (nonzero : attempt.value ≠ 0)
    (phase : p.phase = .awaitingServerHello)
    (awaited : Awaits own pin attempt .serverHello p.context) (sized : payload.length = serverHelloPayloadLength) :
    Action.wp (ClientProvider.authenticateServerHello attempt payload)
      (Authenticates (Authentic p attempt payload .serverHello) attempt (Sealed attempt) p) E p := by
  cases held : p.context with
  | none =>
    rw [held] at awaited
    exact awaited.elim
  | some context =>
    rw [held] at awaited
    cases context with
    | finish | pending | established => exact awaited.elim
    | hello id state hello =>
      obtain ⟨rfl, initiated⟩ := awaited
      simp only [ClientProvider.authenticateServerHello, Action.wpBind]
      refine checkedPasses (by simp [ClientProvider.id, held, Context.id]) (by simp [phase]) ?_
      simp only [Action.wpRead, phase, ne_eq, not_true_eq_false, if_false, sized, Action.wpBind, ClientProvider.takeContext,
        Action.wpModify, held, ClientProvider.openHello]
      have read : S.readMessage state payload = ((S.readMessage state payload).1, (S.readMessage state payload).2) := rfl
      cases opened : fitted serverHelloPayloadLength (S.readMessage state payload).1 with
      | none =>
        refine refuses ?_ phase.symm rfl
        rintro ⟨_, _, _, plain, same, found, _⟩
        cases Option.some.inj (held.symm.trans same)
        rw [opened] at found
        contradiction
      | some plain =>
        simp only [Action.wpIte]
        refine ⟨fun invalid => refuses ?_ phase.symm rfl, fun valid => ?_⟩
        · rintro ⟨_, _, _, other, same, found, length, valid, _⟩
          cases Option.some.inj (held.symm.trans same)
          cases Option.some.inj (opened.symm.trans found)
          exact recordRefuted invalid length valid
        · rw [not_or, not_not, Bool.not_eq_false] at valid
          cases remote : S.getRemoteStatic (S.readMessage state payload).2 with
          | none =>
            refine refuses ?_ phase.symm rfl
            rintro ⟨_, _, _, _, same, _, _, _, key⟩
            cases Option.some.inj (held.symm.trans same)
            rw [remote] at key
            contradiction
          | some key =>
            simp only [Action.wpIte]
            refine ⟨fun foreign => refuses ?_ phase.symm rfl, fun same => ?_⟩
            · rintro ⟨_, _, _, _, same, _, _, _, pinned⟩
              cases Option.some.inj (held.symm.trans same)
              exact foreign (Option.some.inj (remote.symm.trans pinned))
            · rw [not_not] at same
              rw [(fittedSome opened).1] at read
              refine acceptSeals reliable nonzero initiated read ?_
              exact ⟨_, _, _, plain, held, opened, valid.1, valid.2, by rw [remote, same]⟩

def Confirmed (attempt : ClientAttemptId) (authenticated : AuthenticatedServerFinish) (q : ClientProvider S) : Prop :=
  authenticated.attemptId = attempt ∧ q.phase = .authenticatedPendingCommit ∧ ∃ transport clientFinish serverFinish,
    q.context = some (.pending attempt transport authenticated.metadata clientFinish serverFinish)

theorem finishAuthenticates {attempt payload E} (phase : p.phase = .awaitingServerFinish)
    (awaited : Awaits own pin attempt .serverFinish p.context) (sized : payload.length = serverFinishPayloadLength) :
    Action.wp (ClientProvider.authenticateServerFinish attempt payload)
      (Authenticates (Authentic p attempt payload .serverFinish) attempt (Confirmed attempt) p) E p := by
  cases held : p.context with
  | none =>
    rw [held] at awaited
    exact awaited.elim
  | some context =>
    rw [held] at awaited
    cases context with
    | hello | pending | established => exact awaited.elim
    | finish id transport hash identity clientFinish =>
      cases awaited
      simp only [ClientProvider.authenticateServerFinish, Action.wpBind]
      refine checkedPasses (by simp [ClientProvider.id, held, Context.id]) (by simp [phase]) ?_
      simp only [Action.wpRead, phase, ne_eq, not_true_eq_false, if_false, sized, Action.wpBind, ClientProvider.takeContext,
        Action.wpModify, held, ClientProvider.openFinish, ClientProvider.noteRead]
      cases opened : transport.read 0 payload serverFinishPayloadLength with
      | none =>
        refine refuses ?_ phase.symm rfl
        rintro ⟨_, _, _, _, _, plain, same, found, _⟩
        cases Option.some.inj (held.symm.trans same)
        rw [opened] at found
        contradiction
      | some plain =>
        simp only [Action.wpIte]
        refine ⟨fun invalid => refuses ?_ phase.symm rfl, fun valid => ?_⟩
        · rintro ⟨_, _, _, _, _, other, same, found, length, valid⟩
          cases Option.some.inj (held.symm.trans same)
          cases Option.some.inj (opened.symm.trans found)
          exact recordRefuted invalid length valid
        · rw [not_or, not_not, Bool.not_eq_false] at valid
          simp only [ClientProvider.setContext, Action.wpBind, Action.wpModify, Action.wpPure]
          exact .accepted _ _ ⟨_, _, _, _, _, plain, held, opened, valid.1, valid.2⟩ ⟨rfl, rfl, _, _, _, rfl⟩

structure Shut (t : Client S) : Prop where
  policy : t.policy.state = .closed
  crypto : t.crypto.phase = .closed
  context : t.crypto.context = none

theorem verifies {Q : Unit → Client S → Prop} {E} (agree : c.crypto.phase = expectedPhase c.policy.stateName)
    (post : Q () c) : Action.wp verifyPhases Q E c := by
  have verified : verifyClientPhases c.policy c.crypto = .ok () := if_neg (not_not.mpr agree)
  simpa only [Action.wp, verifyPhases, verified] using post

theorem closesAttempt {attempt event} {Q : Report (ClientProvider S) → Client S → Prop} {E}
    (shut : c.policy.state = .closed) (held : c.crypto.id = some attempt)
    (open_ : c.crypto.phase = .awaitingServerHello ∨ c.crypto.phase = .awaitingServerFinish)
    (post : ∀ t, Shut t → Q ⟨[], [event]⟩ t) : Action.wp (closeAttempt attempt event) Q E c := by
  have apart : ¬ (c.crypto.phase = .idle ∨ c.crypto.phase = .closed) := by
    rcases open_ with hello | finish
    · simp [hello]
    · simp [finish]
  simp only [closeAttempt, onCrypto, Action.wpBind, Action.wpMapError, Action.wpWithin]
  change Action.wp (ClientProvider.closeContext attempt) _ _ c.crypto
  simp only [ClientProvider.closeContext, Action.wpBind, Action.wpRead, apart, if_false]
  refine checkedPasses held (not_or.mp apart).2 ?_
  simp only [Action.wpModify, Action.wpPure, ne_eq, not_true_eq_false, if_false, Action.wpBind]
  refine verifies ?_ ?_
  · simp [ClientHandshake.stateName, shut, ClientHandshakeState.name, expectedPhase, ClientProvider.closed]
  · simp only [setClosed, Action.wpModify]
    exact post _ ⟨shut, rfl, rfl⟩

theorem awaitsId {attempt kind} (awaited : Awaits own pin attempt kind p.context) : p.id = some attempt := by
  unfold ClientProvider.id
  unfold Awaits at awaited
  split at awaited
  · rename_i held
    rw [held]
    exact congrArg some awaited.1
  · rename_i held
    rw [held]
    exact congrArg some awaited
  · exact awaited.elim

def awaitingPhase : ClientPreAuthKind → ClientCryptoPhase
  | .serverHello => .awaitingServerHello
  | .serverFinish => .awaitingServerFinish

theorem pendingPhase (stable : ClientStable c) {attempt deadline kind}
    (pending : c.policy.state.phase = some (attempt, deadline, kind)) :
    ∃ expected, kind = ClientHandshake.inboundKind expected ∧ c.crypto.phase = awaitingPhase expected := by
  have pair := stable.pair
  change (c.policy.state.name, c.crypto.phase) ∈ clientPairs at pair
  cases state : c.policy.state with
  | idle | established | closed =>
    rw [state] at pending
    contradiction
  | awaitingServerHello current startedAt due =>
    rw [state] at pending pair
    cases Option.some.inj pending
    exact ⟨.serverHello, rfl, by simpa [clientPairs, ClientHandshakeState.name, awaitingPhase] using pair⟩
  | awaitingServerFinish current startedAt phaseStartedAt due =>
    rw [state] at pending pair
    cases Option.some.inj pending
    exact ⟨.serverFinish, rfl, by simpa [clientPairs, ClientHandshakeState.name, awaitingPhase] using pair⟩

theorem awaitingEither (kind : ClientPreAuthKind) :
    awaitingPhase kind = .awaitingServerHello ∨ awaitingPhase kind = .awaitingServerFinish := by
  cases kind with
  | serverHello => exact .inl rfl
  | serverFinish => exact .inr rfl

theorem timeoutPending {h t : ClientHandshake} {source attempt kind now current}
    (late : h.precheck source attempt kind now = (.timeout current, t)) :
    t = {h with state := .closed} ∧ ∃ deadline expected, h.state.phase = some (current, deadline, expected) := by
  unfold ClientHandshake.precheck at late
  split at late
  · cases late
  · split at late
    · cases late
    · rename_i pending
      split at late
      · cases late
        exact ⟨rfl, _, _, pending⟩
      · split at late
        · cases late
        · split at late <;> cases late

def overflowed : CoordinatorPrimaryError → Bool
  | .clientPolicy (.deadlineOverflow _) => true
  | _ => false

def Overflows (forged : Prop) (e : CoordinatorPrimaryError) (_ : Client S) : Prop := overflowed e = true ∧ ¬ forged

structure Handled (forged : Prop) (report : Report (ClientProvider S)) (t : Client S) : Prop where
  sends : ∀ message ∈ report.outbound, ∃ value, message = .clientFinish value
  refused : forged → report = ⟨[], [.dropped .authenticationFailed]⟩ ∧ Shut t

theorem silentHandled {forged : Prop} {events} {t : Client S} (sound : ¬ forged) : Handled forged ⟨[], events⟩ t :=
  ⟨fun _ impossible => absurd impossible List.not_mem_nil, fun fails => absurd fails sound⟩

theorem acceptHelloHandled {source attempt now observed} {q : ClientProvider S} {forged : Prop} (sound : ¬ forged)
    (good : Sealed attempt observed q) (follows : ClientFollows c.policy source attempt .serverHello now) :
    Action.wp (acceptServerHello source attempt observed.attemptId now) (Handled forged)
      (Overflows forged) {c with crypto := q} := by
  obtain ⟨rfl, phase, transport, hash, identity, clientFinish, held⟩ := good
  simp only [acceptServerHello, expectAttempt, Action.wpBind, ne_eq, not_true_eq_false, if_false, Action.wpPure,
    onPolicy, Action.wpMapError, Action.wpWithin]
  have answers := follows.hello rfl
  generalize ran : ClientHandshake.handleAuthenticatedServerHello source attempt now c.policy = answer at answers
  obtain ⟨result, after⟩ := answer
  rcases answers with sent | overflow
  · cases sent
    obtain ⟨startedAt, later, rfl⟩ := Action.wpOk (serverHelloSpec source attempt now) ran _ rfl
    have prepared : ClientProvider.prepareClientFinish attempt q = .ok ⟨attempt, clientFinish.toList⟩ := by
      simp [ClientProvider.prepareClientFinish, ClientProvider.check, ClientProvider.id, held, phase, Context.id]
    refine Action.wpOfOk ran ?_
    simp only [Action.wpBind, not_true_eq_false, if_false, Action.wpPure]
    refine askAnswered prepared ?_
    simp only [not_true_eq_false, if_false, Action.wpPure]
    refine verifies phase ⟨?_, fun fails => absurd fails sound⟩
    intro message member
    exact ⟨_, List.mem_singleton.mp member⟩
  · cases overflow
    simp only [Action.wp, ran]
    exact ⟨rfl, sound⟩

theorem acceptFinishHandled {source attempt now authenticated} {q : ClientProvider S} {forged : Prop} (sound : ¬ forged)
    (good : Confirmed attempt authenticated q) (follows : ClientFollows c.policy source attempt .serverFinish now) :
    Action.wp (acceptServerFinish source attempt authenticated now) (Handled forged)
      (Overflows forged) {c with crypto := q} := by
  obtain ⟨observed, metadata⟩ := authenticated
  obtain ⟨rfl, phase, transport, clientFinish, serverFinish, held⟩ := good
  simp only [acceptServerFinish, expectAttempt, Action.wpBind, ne_eq, not_true_eq_false, if_false, Action.wpPure,
    onPolicy, Action.wpMapError, Action.wpWithin]
  have answers := follows.finish rfl metadata
  generalize ran : ClientHandshake.handleAuthenticatedServerFinish source observed metadata now c.policy = answer at answers
  obtain ⟨result, after⟩ := answer
  cases answers
  have state := Action.wpOk (serverFinishState source observed metadata now) ran _ rfl
  refine Action.wpOfOk ran ?_
  simp only [not_true_eq_false, if_false, onCrypto, Action.wpBind, Action.wpMapError, Action.wpWithin, Action.wpPure]
  change Action.wp (ClientProvider.commitSession observed metadata) _ _ q
  simp only [ClientProvider.commitSession, Action.wpBind]
  refine checkedPasses (by simp [ClientProvider.id, held, Context.id]) (by simp [phase]) ?_
  simp only [Action.wpRead, ClientProvider.takeContext, Action.wpModify, held, ne_eq, not_true_eq_false, if_false,
    ClientProvider.setContext]
  refine verifies ?_ (silentHandled sound)
  simp [ClientHandshake.stateName, state, ClientHandshakeState.name, expectedPhase]

theorem rejectHandled {source attempt kind now} {q : ClientProvider S} {forged : Prop}
    (follows : ClientFollows c.policy source attempt kind now) (held : q.id = some attempt)
    (phase : q.phase = .awaitingServerHello ∨ q.phase = .awaitingServerFinish) :
    Action.wp (rejectAttempt source attempt attempt) (Handled forged) (Overflows forged) {c with crypto := q} := by
  simp only [rejectAttempt, expectAttempt, ne_eq, not_true_eq_false, if_false, askPolicy, Action.wpBind, Action.wpPure,
    Action.wpTotal, follows.failure]
  refine closesAttempt rfl held phase ?_
  intro t shut
  exact ⟨fun _ impossible => absurd impossible List.not_mem_nil, fun _ => ⟨rfl, shut⟩⟩

/- The two messages differ in what follows a success of the provider. -/
theorem permitHandled {source attempt kind now} {authentic : Prop} {α : Type} {Good : α → ClientProvider S → Prop}
    {authenticate : Action (ClientProvider S) CryptoStateError (CryptoOutcome α)}
    {answer : CryptoOutcome α → Step (ClientProvider S) (Report (ClientProvider S))}
    (follows : ClientFollows c.policy source attempt kind now)
    (phase : c.crypto.phase = .awaitingServerHello ∨ c.crypto.phase = .awaitingServerFinish)
    (decides : Action.wp authenticate (Authenticates authentic attempt Good c.crypto) (fun _ _ => False) c.crypto)
    (accepted : ∀ value q, authentic → Good value q → Action.wp (answer (.success value)) (Handled (¬ authentic))
      (Overflows (¬ authentic)) {c with crypto := q})
    (rejected : ∀ observed reason,
      answer (.remoteFailure (.clientAttempt observed reason)) = rejectAttempt source attempt observed) :
    Action.wp (onCrypto authenticate >>= answer) (Handled (¬ authentic)) (Overflows (¬ authentic)) c := by
  simp only [onCrypto, Action.wpBind, Action.wpMapError, Action.wpWithin]
  refine Action.wpMono decides ?_ (fun _ _ impossible => impossible.elim)
  intro outcome q decided
  cases decided with
  | accepted value q proven good => exact accepted value q proven good
  | refused reason q forged same held =>
    rw [rejected]
    exact rejectHandled follows held (by rw [same]; exact phase)

theorem inboundHandled (ready : Ready own pin c) {source attempt kind now} {authentic : Prop}
    {accept : ClientAttemptId → Step (ClientProvider S) (Report (ClientProvider S))}
    (permits : ∀ deadline, Permitted c.policy source attempt kind now deadline → c.crypto.phase = awaitingPhase kind →
      Action.wp (accept attempt) (Handled (¬ authentic)) (Overflows (¬ authentic)) c) :
    Action.wp (do
        match (← askPolicy (ClientHandshake.precheck source attempt kind now)) with
        | .drop reason => pure ⟨[], [.dropped reason]⟩
        | .timeout attemptId => closeAttempt attemptId (.handshakeTimedOut attemptId)
        | .permit attemptId => accept attemptId)
      (Handled ((c.policy.precheck source attempt kind now).1 = .permit attempt ∧ ¬ authentic))
      (Overflows ((c.policy.precheck source attempt kind now).1 = .permit attempt ∧ ¬ authentic)) c := by
  simp only [askPolicy, Action.wpBind, Action.wpTotal]
  generalize checked : c.policy.precheck source attempt kind now = answer
  obtain ⟨decision, after⟩ := answer
  cases decision with
  | drop reason => exact silentHandled fun forged => by cases forged.1
  | timeout current =>
    obtain ⟨rfl, deadline, expected, pending⟩ := timeoutPending checked
    obtain ⟨kind', _, phase⟩ := pendingPhase ready.stable pending
    have open_ : c.crypto.phase = .awaitingServerHello ∨ c.crypto.phase = .awaitingServerFinish := by
      rw [phase]
      exact awaitingEither kind'
    refine closesAttempt rfl (awaitsId (ready.awaits _ _ _ pending)) open_ ?_
    intro t _
    exact silentHandled fun forged => by cases forged.1
  | permit current =>
    obtain ⟨rfl, rfl, deadline, permitted⟩ := permitPermitted checked
    obtain ⟨kind', same, phase⟩ := pendingPhase ready.stable permitted.pending
    have kinds : kind' = kind := by
      cases kind <;> cases kind' <;> first | rfl | contradiction
    rw [kinds] at phase
    refine Action.wpMono (permits deadline permitted phase) ?_ ?_
    · intro report t handled
      exact ⟨handled.sends, fun forged => handled.refused forged.2⟩
    · intro e t fails
      exact ⟨fails.1, fun forged => fails.2 forged.2⟩

def Forged (c : Client S) (source : SocketAddr) (attempt : ClientAttemptId) (payload : Bytes) (now : Instant)
    (kind : ClientPreAuthKind) : Prop :=
  (c.policy.precheck source attempt kind now).1 = .permit attempt ∧ ¬ Authentic c.crypto attempt payload kind

theorem serverHelloHandled (reliable : InitiatorOperations S own pin) (ready : Ready own pin c) {source attempt payload now}
    (sized : payload.length = serverHelloPayloadLength) :
    Action.wp (serverHello source ⟨attempt, payload⟩ now) (Handled (Forged c source attempt payload now .serverHello))
      (Overflows (Forged c source attempt payload now .serverHello)) c := by
  refine inboundHandled ready fun deadline permitted phase => ?_
  have follows := permittedFollows permitted
  have nonzero := ready.numbered.phase _ _ _ permitted.pending
  have awaited := ready.awaits _ _ _ permitted.pending
  refine permitHandled follows (.inl phase) (helloAuthenticates reliable nonzero phase awaited sized) ?_ (fun _ _ => rfl)
  intro observed q proven good
  exact acceptHelloHandled (not_not.mpr proven) good follows

theorem serverFinishHandled (ready : Ready own pin c) {source attempt payload now}
    (sized : payload.length = serverFinishPayloadLength) :
    Action.wp (serverFinish source ⟨attempt, payload⟩ now) (Handled (Forged c source attempt payload now .serverFinish))
      (Overflows (Forged c source attempt payload now .serverFinish)) c := by
  refine inboundHandled ready fun deadline permitted phase => ?_
  have follows := permittedFollows permitted
  have awaited := ready.awaits _ _ _ permitted.pending
  refine permitHandled follows (.inr phase) (finishAuthenticates phase awaited sized) ?_ (fun _ _ => rfl)
  intro authenticated q proven good
  exact acceptFinishHandled (not_not.mpr proven) good follows

def unfatal : Except AdapterError ClientAdapterReport → Bool
  | .ok _ => true
  | .error (.coordinator fatal) => overflowed fatal.primary
  | .error e => isRemoteFrameRejection e

structure Refused (answer : Except AdapterError ClientAdapterReport × Client S) : Prop where
  report : answer.1 = .ok ⟨[], [.dropped .authenticationFailed]⟩
  shut : Shut answer.2

def frameOf : ClientPreAuthKind → DecodedV2HandshakeBody → DecodedV2HandshakeFrame
  | .serverHello => .serverHello
  | .serverFinish => .serverFinish

theorem callHandled {codec : V2HandshakeCodec} {x : Step (ClientProvider S) (Report (ClientProvider S))} {forged : Prop}
    {call : ClientCall (ClientProvider S)} (ready : Ready own pin c)
    (room : clientFinishPayloadLength ≤ codec.maximumOpaquePayload) (calls : clientStep c call = closing x c)
    (handled : Action.wp x (Handled forged) (Overflows forged) c) :
    unfatal (clientReport codec (closing x c).1) = true ∧
      (forged → Refused (clientReport codec (closing x c).1, (closing x c).2)) := by
  have exact_ := (stepSends ready.numbered call).exact
  rw [calls] at exact_
  unfold closing at exact_ ⊢
  rcases ran : x c with ⟨primary | report, t⟩
  · obtain ⟨overflow, sound⟩ := Action.wpError handled ran
    exact ⟨overflow, fun forged => absurd forged sound⟩
  · simp only [ran] at exact_
    have done := Action.wpOk handled ran
    have encoded : ∀ message ∈ report.outbound, ∃ datagram, encodeClient codec message = .ok datagram ∧ True := by
      intro message member
      obtain ⟨value, rfl⟩ := done.sends message member
      obtain ⟨datagram, _, written, _⟩ := @encodeExact codec .clientFinish _ _ room (by decide) (exact_ report rfl _ member)
      exact ⟨datagram, written, trivial⟩
    obtain ⟨datagrams, written, _⟩ := encodeAllRelated encoded
    refine ⟨by simp only [clientReport, written, unfatal], fun forged => ?_⟩
    obtain ⟨rfl, shut⟩ := done.refused forged
    exact ⟨rfl, shut⟩

structure Harmless (codec : V2HandshakeCodec) (c : Client S) (source : SocketAddr) (datagram : Bytes) (now : Instant)
    (answer : Except AdapterError ClientAdapterReport × Client S) : Prop where
  unfatal : unfatal answer.1 = true
  refused : ∀ kind body, codec.decode datagram = .ok (frameOf kind body) →
    body.opaquePayload.length = payloadLength (kindOf (frameOf kind body)) →
    Forged c source body.clientAttemptId body.opaquePayload now kind → Refused answer

theorem unreadHarmless {codec : V2HandshakeCodec} {source datagram now e} (rejection : isRemoteFrameRejection e = true)
    (other : ∀ kind body, codec.decode datagram = .ok (frameOf kind body) →
      body.opaquePayload.length ≠ payloadLength (kindOf (frameOf kind body))) :
    Harmless codec c source datagram now (.error e, c) := by
  refine ⟨?_, fun kind body decoded sized => absurd sized (other kind body decoded)⟩
  cases e with
  | decode | direction | payloadLength => rfl
  | coordinator | encode => contradiction

theorem openedHarmless {codec : V2HandshakeCodec} {source datagram now e body} (kind : ClientPreAuthKind)
    (decoded : codec.decode datagram = .ok (frameOf kind body))
    (failed : bodyPayload body (kindOf (frameOf kind body)) = .error e) :
    Harmless codec c source datagram now (.error e, c) := by
  refine unreadHarmless (payloadRejected failed) ?_
  intro kind' body' decoded'
  have same := Except.ok.inj (decoded.symm.trans decoded')
  rw [← same]
  have bodies : body' = body := by
    cases kind <;> cases kind' <;> first | contradiction | (cases same; rfl)
  subst bodies
  intro sized
  simp [bodyPayload, sized] at failed

theorem calledHarmless {codec : V2HandshakeCodec} {source datagram now body}
    {x : Step (ClientProvider S) (Report (ClientProvider S))} (kind : ClientPreAuthKind) (call : ClientCall (ClientProvider S))
    (ready : Ready own pin c) (decoded : codec.decode datagram = .ok (frameOf kind body))
    (sized : body.opaquePayload.length = payloadLength (kindOf (frameOf kind body)))
    (calls : clientStep c call = closing x c)
    (handled : Action.wp x (Handled (Forged c source body.clientAttemptId body.opaquePayload now kind))
      (Overflows (Forged c source body.clientAttemptId body.opaquePayload now kind)) c) :
    Harmless codec c source datagram now (clientReport codec (closing x c).1, (closing x c).2) := by
  have small := (decodeForm decoded).small
  have room : clientFinishPayloadLength ≤ codec.maximumOpaquePayload := by
    have long : clientFinishPayloadLength ≤ payloadLength (kindOf (frameOf kind body)) := by
      cases kind with
      | serverHello => exact (by decide : clientFinishPayloadLength ≤ serverHelloPayloadLength)
      | serverFinish => exact (by decide : clientFinishPayloadLength ≤ serverFinishPayloadLength)
    have bodies : (frameOf kind body).body = body := by cases kind <;> rfl
    rw [bodies, sized] at small
    exact Nat.le_trans long small
  obtain ⟨harmless, refused⟩ := callHandled ready room calls handled
  refine ⟨harmless, ?_⟩
  intro kind' body' decoded' _ forged
  have same := Except.ok.inj (decoded.symm.trans decoded')
  have equal : kind' = kind ∧ body' = body := by
    cases kind <;> cases kind' <;> first | contradiction | (cases same; exact ⟨rfl, rfl⟩)
  obtain ⟨rfl, rfl⟩ := equal
  exact refused forged

theorem frameHarmless (reliable : InitiatorOperations S own pin) (ready : Ready own pin c) (codec : V2HandshakeCodec)
    (source datagram now) : Harmless codec c source datagram now (receiveClientFrame codec source datagram now c) := by
  unfold receiveClientFrame
  cases decoded : codec.decode datagram with
  | error e =>
    refine unreadHarmless rfl ?_
    intro kind body found
    rw [decoded] at found
    contradiction
  | ok frame =>
    cases frame with
    | clientHello body | clientFinish body =>
      refine unreadHarmless rfl ?_
      intro kind body found
      rw [decoded] at found
      cases kind <;> cases found
    | serverHello body =>
      simp only [classifyForClient]
      cases opened : bodyPayload body .serverHello with
      | error e => exact openedHarmless .serverHello decoded opened
      | ok payload =>
        obtain ⟨rfl, sized⟩ := payloadExact opened
        exact calledHarmless .serverHello (.serverHello source ⟨body.clientAttemptId, _⟩ now) ready decoded sized rfl
          (serverHelloHandled reliable ready sized)
    | serverFinish body =>
      simp only [classifyForClient]
      cases opened : bodyPayload body .serverFinish with
      | error e => exact openedHarmless .serverFinish decoded opened
      | ok payload =>
        obtain ⟨rfl, sized⟩ := payloadExact opened
        exact calledHarmless .serverFinish (.serverFinish source ⟨body.clientAttemptId, _⟩ now) ready decoded sized rfl
          (serverFinishHandled ready sized)

theorem clientDatagramsHarmless (reliable : InitiatorOperations S own pin) {endpoint timeout policy rng} {start : Client S}
    (configured : ClientHandshake.new endpoint timeout = .ok policy)
    (built : build policy (ClientProvider.new own pin rng) = .ok start) (inputs : List (V2HandshakeCodec × ClientInput))
    (codec : V2HandshakeCodec) (source datagram now) : let c := (run observeEach start inputs).2
    Harmless codec c source datagram now (receiveClientFrame codec source datagram now c) := by
  intro c
  have ready : Ready own pin c := runInvariant observeReady (builtReady configured built) inputs
  exact frameHarmless reliable ready codec source datagram now

end

section Plain
open ServerRemoteInput (plainCodec plainDatagram)

theorem plainInitiatorOperations (own pin : Bytes) : InitiatorOperations plainSnow own pin where
  completes state payload plain next _ _ := ⟨(FixedBytes.copyFrom 32 next.prologue).sized, (), rfl⟩
  seals transport record sized := by
    refine ⟨_, rfl, ?_⟩
    simp [plainSeal, plainTag, sized, controlRecordLength, clientFinishPayloadLength]

def forgedServerHello : Bytes := List.replicate 64 7

def plainStarted : Client plainSnow := (run observeEach plainClient [(plainCodec, .start 1)]).2

theorem plainUnread (state : PlainHandshake) (initiator : state.initiator = true) :
    fitted serverHelloPayloadLength (plainRead state forgedServerHello).1 = none := by
  rw [plainRead, if_pos initiator]
  exact (by decide : fitted serverHelloPayloadLength (plainOpen 0 (forgedServerHello.drop 32)) = none)

def initiated : Context plainSnow → Bool
  | .hello _ state _ => PlainHandshake.initiator state
  | _ => false

theorem plainForged : Forged plainStarted (plainEndpoint 2000) ⟨1⟩ forgedServerHello 2 .serverHello := by
  refine ⟨by decide +kernel, ?_⟩
  rintro ⟨id, state, hello, plain, held, opened, _⟩
  have initiator : plainStarted.crypto.context.map initiated = some true := by decide +kernel
  rw [held] at initiator
  have unread := plainUnread state (Option.some.inj initiator)
  exact absurd (unread.symm.trans opened) (Option.some_ne_none plain).symm

theorem forgedHelloHarmless : InitiatorOperations plainSnow (List.replicate 32 1) (List.replicate 32 2) ∧
    Refused (receiveClientFrame plainCodec (plainEndpoint 2000) (plainDatagram .serverHello forgedServerHello) 2
      plainStarted) := by
  have reliable := plainInitiatorOperations (List.replicate 32 1) (List.replicate 32 2)
  have harmless := @clientDatagramsHarmless plainSnow _ _ reliable (plainEndpoint 2000) 10 plainClient.policy (fun _ => ())
    plainClient rfl rfl [(plainCodec, .start 1)] plainCodec (plainEndpoint 2000)
    (plainDatagram .serverHello forgedServerHello) 2
  have decoded : plainCodec.decode (plainDatagram .serverHello forgedServerHello) =
      .ok (.serverHello ⟨⟨1⟩, forgedServerHello⟩) := by decide +kernel
  exact ⟨reliable, harmless.refused .serverHello ⟨⟨1⟩, forgedServerHello⟩ decoded rfl plainForged⟩

end Plain
end Crabnet.ClientRemoteInput
