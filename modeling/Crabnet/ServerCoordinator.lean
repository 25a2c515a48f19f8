import Crabnet.HandshakeTypes

/-! The server coordinator (handshake/server.rs), over any provider. A step is
written up to the error that ends it; `closing` then shuts both layers down, as
every early return of the source does. -/
namespace Crabnet.ServerCoordinator
open SessionTypes Fallible CryptoBoundary ServerPolicy HandshakeTypes ServerHandshakeCrypto

abbrev ServerHandshakeCoordinator (C : Type) := HandshakeCoordinator ServerHandshake C

inductive ServerClientFinishMode where
  | pendingCandidate
  | establishedDuplicate (expectedMetadata : EstablishedSessionMetadata)
  deriving DecidableEq

section
variable {C : Type} [ServerHandshakeCrypto C]

abbrev Step (C : Type) (α : Type) := CoordinatorStep ServerHandshake C α

abbrev Report (C : Type) [ServerHandshakeCrypto C] :=
  ServerCoordinatorReport (ServerHelloPayload C) (ServerFinishPayload C)

abbrev Result (C : Type) [ServerHandshakeCrypto C] := Except FatalCoordinatorError (Report C)

def onPolicy {α : Type} (x : ServerHandshake.Step α) : Step C α :=
  Action.mapError .serverPolicy (Action.within (·.policy) (fun c policy => {c with policy := policy}) x)

def expectedPhase : ServerStateName → ServerCryptoPhase
  | .listening => .running
  | .established => .established
  | .closed => .closed

def expectedShape (status : ServerCryptoStatus) : ServerStateName → Bool
  | .listening => !status.hasPendingCommit && !status.hasEstablishedContext
  | .established => status.pendingContexts == 0 && !status.hasPendingCommit && status.hasEstablishedContext
  | .closed => status.pendingContexts == 0 && !status.hasPendingCommit && !status.hasEstablishedContext

def verifyServerStable (policy : ServerHandshake) (crypto : C) : Except CoordinatorInvariantError Unit :=
  let name := policy.stateName
  let status := nonSecretStatus crypto
  if status.phase ≠ expectedPhase name then .error (.serverPhaseMismatch name status.phase)
  else if name = .listening ∧ policy.pendingCandidateCount ≠ status.pendingContexts then
    .error (.serverPendingContextCountMismatch policy.pendingCandidateCount status.pendingContexts)
  else if expectedShape status name = false then .error (.serverCryptoStatusMismatch name status)
  else .ok ()

def verifyStable : Step C Unit := fun c =>
  match verifyServerStable c.policy c.crypto with
  | .ok () => (.ok (), c)
  | .error e => (.error (.invariant e), c)

def failClosed (primary : CoordinatorPrimaryError) (c : ServerHandshakeCoordinator C) :
    FatalCoordinatorError × ServerHandshakeCoordinator C :=
  (⟨primary, .server (some c.policy.shutdown.1) none, (shutdown c.crypto).1⟩,
    ⟨c.policy.shutdown.2, (shutdown c.crypto).2, .closed⟩)

def closing (x : Step C (Report C)) (c : ServerHandshakeCoordinator C) :
    Result C × ServerHandshakeCoordinator C :=
  match x c with
  | (.ok report, t) => (.ok report, t)
  | (.error primary, t) => (.error (failClosed primary t).1, (failClosed primary t).2)

def build (policy : ServerHandshake) (crypto : C) :
    Except CoordinatorBuildError (ServerHandshakeCoordinator C) :=
  if policy.stateName ≠ .listening then .error (.unexpectedInitialServerPolicyState policy.stateName)
  else if (nonSecretStatus crypto).isFresh = false then
    .error (.serverCryptoNotFresh (nonSecretStatus crypto))
  else .ok ⟨policy, crypto, .running⟩

def expectRemoval (candidateId : CandidateId) (attempt : ClientAttemptId)
    (expected : ServerCandidateRemoval) : Step C Unit := do
  let removal ← onCrypto (removeCandidate candidateId attempt)
  if removal ≠ expected then violated (.candidateCleanupMismatch candidateId expected removal)
  else pure ()

def reconcileExpired : List ExpiredServerCandidate → Step C (List ServerCoordinatorEvent)
  | [] => pure []
  | candidate :: rest => do
    expectRemoval candidate.candidateId candidate.clientAttemptId .removed
    let events ← reconcileExpired rest
    pure (.candidateExpired candidate.candidateId candidate.source candidate.clientAttemptId :: events)

def dropEvent (events : List ServerCoordinatorEvent) (source : SocketAddr) (reason : ServerDropReason) :
    Report C := ⟨[], events ++ [.dropped source reason]⟩

def abortCandidate (events : List ServerCoordinatorEvent) (source : SocketAddr) (candidateId : CandidateId)
    (attempt : ClientAttemptId) (expected : ServerCandidateRemoval) : Step C (Report C) := do
  onPolicy (ServerHandshake.abortExactCandidate source candidateId attempt)
  expectRemoval candidateId attempt expected
  verifyStable
  pure (dropEvent events source .authenticationFailed)

def admissionRemoval : ServerHelloAdmission → ServerCandidateRemoval
  | .newCandidate => .alreadyAbsent
  | .existingCandidate => .removed

def answerHello (events : List ServerCoordinatorEvent) (source destination : SocketAddr)
    (candidateId : CandidateId) (attempt : ClientAttemptId) (admission : ServerHelloAdmission)
    (payload : ClientHelloPayload C) : Step C (Report C) := do
  match (← onCrypto (prepareServerHello candidateId attempt payload)) with
  | .remoteFailure (.clientAttempt _ _) => violated .cryptoFailureCorrelationMismatch
  | .remoteFailure (.serverCandidate observedCandidate observedAttempt _) =>
    if observedCandidate ≠ candidateId ∨ observedAttempt ≠ attempt then
      violated .cryptoFailureCorrelationMismatch
    else abortCandidate events source candidateId attempt (admissionRemoval admission)
  | .success prepared =>
    if prepared.candidateId ≠ candidateId ∨ prepared.clientAttemptId ≠ attempt then
      violated .cryptoResultCorrelationMismatch
    else do
      verifyStable
      pure ⟨[⟨destination, .serverHello ⟨attempt, prepared.payload⟩⟩], events⟩

def hello (source : SocketAddr) (message : ClientHello (ClientHelloPayload C)) (now : Instant) :
    Step C (Report C) := do
  let result ← onPolicy (ServerHandshake.handleValidClientHello source message.clientAttemptId now)
  let events ← reconcileExpired result.expired
  match result.effects with
  | [.dropped effectSource reason] =>
    if effectSource ≠ source then violated .unexpectedServerEffect
    else do
      verifyStable
      pure (dropEvent events source reason)
  | [.sendServerHello destination candidateId attempt admission] =>
    if destination ≠ source ∨ attempt ≠ message.clientAttemptId then violated .unexpectedServerEffect
    else answerHello events source destination candidateId attempt admission message.payload
  | _ => violated .unexpectedServerEffect

def receiveClientHello (source : SocketAddr) (message : ClientHello (ClientHelloPayload C)) (now : Instant) :
    ServerHandshakeCoordinator C → Result C × ServerHandshakeCoordinator C :=
  closing (hello source message now)

def prepareFinish (candidateId : CandidateId) (attempt : ClientAttemptId) (sessionId : SessionId) :
    Step C (PreparedServerFinish (ServerFinishPayload C)) := do
  let prepared ← askCrypto (prepareServerFinish candidateId attempt sessionId)
  if prepared.candidateId ≠ candidateId ∨ prepared.clientAttemptId ≠ attempt ∨
      prepared.sessionId ≠ sessionId then violated .cryptoResultCorrelationMismatch
  else pure prepared

def finishOutbound (source : SocketAddr) (attempt : ClientAttemptId) (payload : ServerFinishPayload C) :
    ServerOutbound (ServerHandshakeMessage (ServerHelloPayload C) (ServerFinishPayload C)) :=
  ⟨source, .serverFinish ⟨attempt, payload⟩⟩

def repeatFinish (events : List ServerCoordinatorEvent) (source : SocketAddr) (candidateId : CandidateId)
    (attempt : ClientAttemptId) (expected observed : EstablishedSessionMetadata) : Step C (Report C) :=
  if observed ≠ expected then violated (.sessionMetadataMismatch expected observed)
  else do
    let prepared ← prepareFinish candidateId attempt observed.sessionId
    verifyStable
    pure ⟨[finishOutbound source attempt prepared.payload], events⟩

def expectedFinishEffects (source : SocketAddr) (candidateId : CandidateId) (attempt : ClientAttemptId)
    (sessionId : SessionId) : List ServerEffect → Bool
  | [.sendServerFinish destination effectCandidate effectAttempt effectSession,
      .sessionEstablished effectSource establishedSession] =>
    destination == source && effectSource == source && effectCandidate == candidateId &&
      effectAttempt == attempt && effectSession == sessionId && establishedSession == sessionId
  | _ => false

def completeFinish (events : List ServerCoordinatorEvent) (source : SocketAddr) (candidateId : CandidateId)
    (attempt : ClientAttemptId) (metadata : EstablishedSessionMetadata) (now : Instant) :
    Step C (Report C) := do
  let report ← onPolicy
    (ServerHandshake.handleAuthenticatedClientFinish source candidateId attempt metadata now)
  if report.expired ≠ [] then violated .unexpectedServerReport
  else if expectedFinishEffects source candidateId attempt metadata.sessionId report.effects = false then
    violated .unexpectedServerEffect
  else do
    onCrypto (commitSession candidateId attempt metadata)
    let prepared ← prepareFinish candidateId attempt metadata.sessionId
    verifyStable
    pure ⟨[finishOutbound source attempt prepared.payload], events ++ [.sessionEstablished source metadata]⟩

def answerFinish (events : List ServerCoordinatorEvent) (source : SocketAddr) (candidateId : CandidateId)
    (attempt : ClientAttemptId) (mode : ServerClientFinishMode) (payload : ClientFinishPayload C)
    (now : Instant) : Step C (Report C) := do
  match (← onCrypto (authenticateClientFinish candidateId attempt payload)) with
  | .remoteFailure (.clientAttempt _ _) => violated .cryptoFailureCorrelationMismatch
  | .remoteFailure (.serverCandidate observedCandidate observedAttempt _) =>
    if observedCandidate ≠ candidateId ∨ observedAttempt ≠ attempt then
      violated .cryptoFailureCorrelationMismatch
    else match mode with
      | .establishedDuplicate _ => do
        verifyStable
        pure (dropEvent events source .authenticationFailed)
      | .pendingCandidate => abortCandidate events source candidateId attempt .removed
  | .success authenticated =>
    if authenticated.candidateId ≠ candidateId ∨ authenticated.clientAttemptId ≠ attempt then
      violated .cryptoResultCorrelationMismatch
    else match mode with
      | .establishedDuplicate expected =>
        repeatFinish events source candidateId attempt expected authenticated.metadata
      | .pendingCandidate => completeFinish events source candidateId attempt authenticated.metadata now

def finish (source : SocketAddr) (message : ClientFinish (ClientFinishPayload C)) (now : Instant) :
    Step C (Report C) := do
  let precheck ← onPolicy (ServerHandshake.precheckClientFinish source message.clientAttemptId now)
  let events ← reconcileExpired precheck.expired
  match precheck.decision with
  | .drop reason => do
    verifyStable
    pure (dropEvent events source reason)
  | .permitNew candidateId attempt =>
    answerFinish events source candidateId attempt .pendingCandidate message.payload now
  | .permitDuplicate candidateId attempt metadata =>
    answerFinish events source candidateId attempt (.establishedDuplicate metadata) message.payload now

def receiveClientFinish (source : SocketAddr) (message : ClientFinish (ClientFinishPayload C))
    (now : Instant) : ServerHandshakeCoordinator C → Result C × ServerHandshakeCoordinator C :=
  closing (finish source message now)

def timeouts (now : Instant) : Step C (Report C) := do
  let report ← onPolicy (ServerHandshake.checkTimeouts now)
  if report.effects ≠ [] then violated .unexpectedServerEffect
  else do
    let events ← reconcileExpired report.expired
    verifyStable
    pure ⟨[], events⟩

def checkTimeouts (now : Instant) :
    ServerHandshakeCoordinator C → Result C × ServerHandshakeCoordinator C :=
  closing (timeouts now)

def closedEvent (cleanup : CryptoShutdownOutcome) : List ServerEffect → Option ServerCoordinatorEvent
  | [.closed removedCandidates removedSession] => some (.closed removedCandidates removedSession cleanup)
  | [.alreadyClosed] =>
    if cleanup.alreadyClosed then some .alreadyClosed else some (.closed 0 false cleanup)
  | _ => none

-- A failed shutdown does not shut down again: both layers are closed by then.
def shutdownAll (c : ServerHandshakeCoordinator C) : Result C × ServerHandshakeCoordinator C :=
  let policyReport := c.policy.shutdown.1
  let cleanup := (shutdown c.crypto).1
  let t : ServerHandshakeCoordinator C := ⟨c.policy.shutdown.2, (shutdown c.crypto).2, .closed⟩
  let fatal (e : CoordinatorInvariantError) : FatalCoordinatorError :=
    ⟨.invariant e, .server (some policyReport) none, cleanup⟩
  match verifyServerStable t.policy t.crypto with
  | .error e => (.error (fatal e), t)
  | .ok () =>
    if policyReport.expired ≠ [] then (.error (fatal .unexpectedServerReport), t)
    else match closedEvent cleanup policyReport.effects with
      | some event => (.ok ⟨[], [event]⟩, t)
      | none => (.error (fatal .unexpectedServerEffect), t)

def nextDeadline (c : ServerHandshakeCoordinator C) : Option Instant := c.policy.nextDeadline

end
end Crabnet.ServerCoordinator
