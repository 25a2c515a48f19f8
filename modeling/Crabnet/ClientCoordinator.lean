import Crabnet.HandshakeTypes

/-! The client coordinator (handshake/client.rs), over any provider, written
like the server's: a step up to the error that ends it, then `closing`. -/
namespace Crabnet.ClientCoordinator
open SessionTypes Fallible CryptoBoundary ClientPolicy HandshakeTypes ClientHandshakeCrypto

abbrev ClientHandshakeCoordinator (C : Type) := HandshakeCoordinator ClientHandshake C

section
variable {C : Type} [ClientHandshakeCrypto C]

abbrev Step (C : Type) (α : Type) := CoordinatorStep ClientHandshake C α

abbrev Report (C : Type) [ClientHandshakeCrypto C] :=
  ClientCoordinatorReport (ClientHelloPayload C) (ClientFinishPayload C)

abbrev Result (C : Type) [ClientHandshakeCrypto C] := Except FatalCoordinatorError (Report C)

def onPolicy {α : Type} (x : ClientHandshake.Step α) : Step C α :=
  Action.mapError .clientPolicy (Action.within (·.policy) (fun c policy => {c with policy := policy}) x)

def askPolicy {α : Type} (x : ClientHandshake → α × ClientHandshake) : Step C α :=
  Action.total fun c => ((x c.policy).1, {c with policy := (x c.policy).2})

def expectedPhase : ClientStateName → ClientCryptoPhase
  | .idle => .idle
  | .awaitingServerHello => .awaitingServerHello
  | .awaitingServerFinish => .awaitingServerFinish
  | .established => .established
  | .closed => .closed

def verifyClientPhases (policy : ClientHandshake) (crypto : C) : Except CoordinatorInvariantError Unit :=
  if phase crypto ≠ expectedPhase policy.stateName then
    .error (.clientPhaseMismatch policy.stateName (phase crypto))
  else .ok ()

def verifyPhases : Step C Unit := fun c =>
  match verifyClientPhases c.policy c.crypto with
  | .ok () => (.ok (), c)
  | .error e => (.error (.invariant e), c)

def setClosed : Step C Unit := Action.modify fun c => {c with lifecycle := .closed}

def failClosed (primary : CoordinatorPrimaryError) (c : ClientHandshakeCoordinator C) :
    FatalCoordinatorError × ClientHandshakeCoordinator C :=
  (⟨primary, .client c.policy.shutdown.1, (shutdown c.crypto).1⟩,
    ⟨c.policy.shutdown.2, (shutdown c.crypto).2, .closed⟩)

def closing (x : Step C (Report C)) (c : ClientHandshakeCoordinator C) :
    Result C × ClientHandshakeCoordinator C :=
  match x c with
  | (.ok report, t) => (.ok report, t)
  | (.error primary, t) => (.error (failClosed primary t).1, (failClosed primary t).2)

def build (policy : ClientHandshake) (crypto : C) :
    Except CoordinatorBuildError (ClientHandshakeCoordinator C) :=
  if policy.stateName ≠ .idle then .error (.unexpectedInitialClientPolicyState policy.stateName)
  else if phase crypto ≠ .idle then .error (.unexpectedInitialClientCryptoPhase (phase crypto))
  else .ok ⟨policy, crypto, .running⟩

def expectAttempt (expected observed : ClientAttemptId) : Step C Unit :=
  if observed ≠ expected then violated (.attemptMismatch expected observed) else pure ()

def begin_ (now : Instant) : Step C (Report C) := do
  match (← onPolicy (ClientHandshake.start now)) with
  | .sendClientHello attemptId => do
    let prepared ← onCrypto (startAttempt attemptId)
    expectAttempt attemptId prepared.attemptId
    verifyPhases
    pure ⟨[.clientHello ⟨attemptId, prepared.payload⟩], []⟩
  | _ => violated .unexpectedClientAction

def start (now : Instant) : ClientHandshakeCoordinator C → Result C × ClientHandshakeCoordinator C :=
  closing (begin_ now)

def closeAttempt (attemptId : ClientAttemptId) (event : ClientCoordinatorEvent) : Step C (Report C) := do
  let removal ← onCrypto (closeContext attemptId)
  if removal ≠ .removed then violated (.clientContextCleanupMismatch attemptId .removed removal)
  else do
    verifyPhases
    setClosed
    pure ⟨[], [event]⟩

def rejectAttempt (source : SocketAddr) (expected observed : ClientAttemptId) : Step C (Report C) := do
  expectAttempt expected observed
  let action ← askPolicy (ClientHandshake.handleAuthenticationFailure source expected)
  if action ≠ .dropped .authenticationFailed then violated .unexpectedClientAction
  else closeAttempt expected (.dropped .authenticationFailed)

def acceptServerHello (source : SocketAddr) (attemptId observed : ClientAttemptId) (now : Instant) :
    Step C (Report C) := do
  expectAttempt attemptId observed
  match (← onPolicy (ClientHandshake.handleAuthenticatedServerHello source attemptId now)) with
  | .sendClientFinish actionAttempt => do
    expectAttempt attemptId actionAttempt
    let prepared ← askCrypto (prepareClientFinish attemptId)
    expectAttempt attemptId prepared.attemptId
    verifyPhases
    pure ⟨[.clientFinish ⟨attemptId, prepared.payload⟩], []⟩
  | _ => violated .unexpectedClientAction

def serverHello (source : SocketAddr) (message : ServerHello (ServerHelloPayload C)) (now : Instant) :
    Step C (Report C) := do
  match (← askPolicy (ClientHandshake.precheck source message.clientAttemptId .serverHello now)) with
  | .drop reason => pure ⟨[], [.dropped reason]⟩
  | .timeout attemptId => closeAttempt attemptId (.handshakeTimedOut attemptId)
  | .permit attemptId =>
    match (← onCrypto (authenticateServerHello attemptId message.payload)) with
    | .success authenticated => acceptServerHello source attemptId authenticated.attemptId now
    | .remoteFailure (.clientAttempt observed _) => rejectAttempt source attemptId observed
    | .remoteFailure (.serverCandidate _ _ _) => violated .cryptoFailureCorrelationMismatch

def receiveServerHello (source : SocketAddr) (message : ServerHello (ServerHelloPayload C)) (now : Instant) :
    ClientHandshakeCoordinator C → Result C × ClientHandshakeCoordinator C :=
  closing (serverHello source message now)

def acceptServerFinish (source : SocketAddr) (attemptId : ClientAttemptId)
    (authenticated : AuthenticatedServerFinish) (now : Instant) : Step C (Report C) := do
  expectAttempt attemptId authenticated.attemptId
  match (← onPolicy (ClientHandshake.handleAuthenticatedServerFinish source authenticated.attemptId
      authenticated.metadata now)) with
  | .sessionEstablished observed =>
    if observed ≠ authenticated.metadata.sessionId then violated .unexpectedClientAction
    else do
      onCrypto (commitSession authenticated.attemptId authenticated.metadata)
      verifyPhases
      pure ⟨[], [.sessionEstablished authenticated.metadata]⟩
  | _ => violated .unexpectedClientAction

def serverFinish (source : SocketAddr) (message : ServerFinish (ServerFinishPayload C)) (now : Instant) :
    Step C (Report C) := do
  match (← askPolicy (ClientHandshake.precheck source message.clientAttemptId .serverFinish now)) with
  | .drop reason => pure ⟨[], [.dropped reason]⟩
  | .timeout attemptId => closeAttempt attemptId (.handshakeTimedOut attemptId)
  | .permit attemptId =>
    match (← onCrypto (authenticateServerFinish attemptId message.payload)) with
    | .success authenticated => acceptServerFinish source attemptId authenticated now
    | .remoteFailure (.clientAttempt observed _) => rejectAttempt source attemptId observed
    | .remoteFailure (.serverCandidate _ _ _) => violated .cryptoFailureCorrelationMismatch

def receiveServerFinish (source : SocketAddr) (message : ServerFinish (ServerFinishPayload C))
    (now : Instant) : ClientHandshakeCoordinator C → Result C × ClientHandshakeCoordinator C :=
  closing (serverFinish source message now)

def timeout (now : Instant) : Step C (Report C) := do
  match (← askPolicy (ClientHandshake.checkTimeout now)) with
  | .unchanged => do
    verifyPhases
    pure ⟨[], []⟩
  | .alreadyClosed => do
    verifyPhases
    setClosed
    pure ⟨[], [.alreadyClosed]⟩
  | .handshakeTimedOut attemptId => closeAttempt attemptId (.handshakeTimedOut attemptId)
  | _ => violated .unexpectedClientAction

def checkTimeout (now : Instant) :
    ClientHandshakeCoordinator C → Result C × ClientHandshakeCoordinator C :=
  closing (timeout now)

def closedEvent (cleanup : CryptoShutdownOutcome) : ClientAction → Option ClientCoordinatorEvent
  | .closed => some (.closed true cleanup)
  | .alreadyClosed => if cleanup.alreadyClosed then some .alreadyClosed else some (.closed false cleanup)
  | _ => none

def shutdownAll (c : ClientHandshakeCoordinator C) : Result C × ClientHandshakeCoordinator C :=
  let action := c.policy.shutdown.1
  let cleanup := (shutdown c.crypto).1
  let t : ClientHandshakeCoordinator C := ⟨c.policy.shutdown.2, (shutdown c.crypto).2, .closed⟩
  let fatal (e : CoordinatorInvariantError) : FatalCoordinatorError :=
    ⟨.invariant e, .client action, cleanup⟩
  match verifyClientPhases t.policy t.crypto with
  | .error e => (.error (fatal e), t)
  | .ok () =>
    match closedEvent cleanup action with
    | some event => (.ok ⟨[], [event]⟩, t)
    | none => (.error (fatal .unexpectedClientAction), t)

end
end Crabnet.ClientCoordinator
