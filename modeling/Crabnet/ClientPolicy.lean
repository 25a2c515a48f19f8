import Crabnet.Fallible
import Crabnet.SessionTypes

/-! The client's session policy (session/client.rs): one attempt, two timed
phases, one established session, one terminal state. -/
namespace Crabnet.ClientPolicy
open MachineWord SessionTypes Fallible

inductive ClientHandshakeState where
  | idle
  | awaitingServerHello (attemptId : ClientAttemptId) (startedAt deadline : Instant)
  | awaitingServerFinish (attemptId : ClientAttemptId) (startedAt phaseStartedAt deadline : Instant)
  | established (metadata : EstablishedSessionMetadata) (establishedAt : Instant)
  | closed
  deriving DecidableEq

inductive ClientStateName where
  | idle | awaitingServerHello | awaitingServerFinish | established | closed
  deriving DecidableEq, Repr

inductive ClientInboundKind where
  | serverHello | serverFinish | data | otherHandshake
  deriving DecidableEq, Repr

inductive ClientPreAuthKind where
  | serverHello | serverFinish
  deriving DecidableEq, Repr

inductive ClientDropReason where
  | unexpectedMessage (expected : Option ClientInboundKind) (observed : ClientInboundKind)
  | unexpectedSource (expected observed : SocketAddr)
  | staleAttempt (expected observed : ClientAttemptId)
  | authenticationFailed
  | preSessionData
  deriving DecidableEq, Repr

inductive ClientAction where
  | sendClientHello (attemptId : ClientAttemptId)
  | sendClientFinish (attemptId : ClientAttemptId)
  | sessionEstablished (sessionId : SessionId)
  | dropped (reason : ClientDropReason)
  | handshakeTimedOut (attemptId : ClientAttemptId)
  | unchanged
  | closed
  | alreadyClosed
  deriving DecidableEq

inductive ClientPreAuthDecision where
  | permit (attemptId : ClientAttemptId)
  | drop (reason : ClientDropReason)
  | timeout (attemptId : ClientAttemptId)
  deriving DecidableEq, Repr

inductive ClientHandshakePhase where
  | serverHello | serverFinish
  deriving DecidableEq, Repr

inductive ClientOperation where
  | start | applyAuthenticatedServerHello | applyAuthenticatedServerFinish
  deriving DecidableEq, Repr

inductive ClientStateError where
  | invalidLocalTransition (operation : ClientOperation) (state : ClientStateName)
  | deadlineOverflow (phase : ClientHandshakePhase)
  | attemptIdExhausted
  deriving DecidableEq, Repr

inductive ClientHandshakeConfigError where
  | handshakeTimeout
  deriving DecidableEq, Repr

namespace ClientHandshakeState

def name : ClientHandshakeState → ClientStateName
  | idle => .idle
  | awaitingServerHello .. => .awaitingServerHello
  | awaitingServerFinish .. => .awaitingServerFinish
  | established .. => .established
  | closed => .closed

def expectedInbound : ClientHandshakeState → Option ClientInboundKind
  | awaitingServerHello .. => some .serverHello
  | awaitingServerFinish .. => some .serverFinish
  | _ => none

def phase : ClientHandshakeState → Option (ClientAttemptId × Instant × ClientInboundKind)
  | awaitingServerHello attemptId _ deadline => some (attemptId, deadline, .serverHello)
  | awaitingServerFinish attemptId _ _ deadline => some (attemptId, deadline, .serverFinish)
  | _ => none

end ClientHandshakeState

theorem phaseOpen {s : ClientHandshakeState} {p} (pending : s.phase = some p) : s ≠ .closed := by
  rintro rfl
  contradiction

structure ClientHandshake where
  serverEndpoint : SocketAddr
  handshakeTimeout : Duration
  state : ClientHandshakeState
  nextAttemptId : UInt64
  deriving DecidableEq

namespace ClientHandshake

abbrev Step (α : Type) := Action ClientHandshake ClientStateError α

def new (serverEndpoint : SocketAddr) (handshakeTimeout : Duration) :
    Except ClientHandshakeConfigError ClientHandshake :=
  if handshakeTimeout = 0 then .error .handshakeTimeout
  else .ok ⟨serverEndpoint, handshakeTimeout, .idle, 1⟩

def stateName (h : ClientHandshake) : ClientStateName := h.state.name

def reserveAttemptId : Step ClientAttemptId := do
  let h ← Action.read
  match checkedAdd h.nextAttemptId 1 with
  | none => Action.fail .attemptIdExhausted
  | some next => do
    Action.modify fun h => {h with nextAttemptId := next}
    pure ⟨h.nextAttemptId⟩

def phaseDeadline (now : Instant) (timeout : Duration) (phase : ClientHandshakePhase) :
    Except ClientStateError Instant :=
  match Instant.checkedAdd now timeout with
  | some deadline => .ok deadline
  | none => .error (.deadlineOverflow phase)

def start (now : Instant) : Step ClientAction := do
  let h ← Action.read
  if h.state ≠ .idle then Action.fail (.invalidLocalTransition .start h.stateName)
  else do
    let deadline ← Action.ofExcept (phaseDeadline now h.handshakeTimeout .serverHello)
    let attemptId ← reserveAttemptId
    Action.modify fun h => {h with state := .awaitingServerHello attemptId now deadline}
    pure (.sendClientHello attemptId)

def inboundKind : ClientPreAuthKind → ClientInboundKind
  | .serverHello => .serverHello
  | .serverFinish => .serverFinish

def precheck (source : SocketAddr) (attempt : ClientAttemptId) (kind : ClientPreAuthKind) (now : Instant)
    (h : ClientHandshake) : ClientPreAuthDecision × ClientHandshake :=
  if source ≠ h.serverEndpoint then (.drop (.unexpectedSource h.serverEndpoint source), h)
  else match h.state.phase with
    | none => (.drop (.unexpectedMessage none (inboundKind kind)), h)
    | some (current, deadline, expected) =>
      if deadline ≤ now then (.timeout current, {h with state := .closed})
      else if inboundKind kind ≠ expected then
        (.drop (.unexpectedMessage (some expected) (inboundKind kind)), h)
      else if attempt ≠ current then (.drop (.staleAttempt current attempt), h)
      else (.permit current, h)

def unexpectedSource (h : ClientHandshake) (observed : SocketAddr) : ClientAction :=
  .dropped (.unexpectedSource h.serverEndpoint observed)

def handleAuthenticatedServerHello (source : SocketAddr) (attemptId : ClientAttemptId) (now : Instant) :
    Step ClientAction := do
  let h ← Action.read
  if source ≠ h.serverEndpoint then pure (h.unexpectedSource source)
  else match h.state with
    | .awaitingServerHello current startedAt deadline =>
      if attemptId ≠ current then pure (.dropped (.staleAttempt current attemptId))
      else if deadline ≤ now then do
        Action.modify fun h => {h with state := .closed}
        pure (.handshakeTimedOut attemptId)
      else do
        let later ← Action.ofExcept (phaseDeadline now h.handshakeTimeout .serverFinish)
        Action.modify fun h => {h with state := .awaitingServerFinish current startedAt now later}
        pure (.sendClientFinish current)
    | _ => Action.fail (.invalidLocalTransition .applyAuthenticatedServerHello h.stateName)

def handleAuthenticatedServerFinish (source : SocketAddr) (attemptId : ClientAttemptId)
    (metadata : EstablishedSessionMetadata) (now : Instant) : Step ClientAction := do
  let h ← Action.read
  if source ≠ h.serverEndpoint then pure (h.unexpectedSource source)
  else match h.state with
    | .awaitingServerFinish current _ _ deadline =>
      if attemptId ≠ current then pure (.dropped (.staleAttempt current attemptId))
      else if deadline ≤ now then do
        Action.modify fun h => {h with state := .closed}
        pure (.handshakeTimedOut attemptId)
      else do
        Action.modify fun h => {h with state := .established metadata now}
        pure (.sessionEstablished metadata.sessionId)
    | _ => Action.fail (.invalidLocalTransition .applyAuthenticatedServerFinish h.stateName)

def handleAuthenticationFailure (source : SocketAddr) (attemptId : ClientAttemptId) (h : ClientHandshake) :
    ClientAction × ClientHandshake :=
  if source ≠ h.serverEndpoint then (h.unexpectedSource source, h)
  else match h.state.phase with
    | none => (.dropped .authenticationFailed, h)
    | some (current, _, _) =>
      if attemptId ≠ current then (.dropped (.staleAttempt current attemptId), h)
      else (.dropped .authenticationFailed, {h with state := .closed})

def handleUnexpectedMessage (source : SocketAddr) (observed : ClientInboundKind) (h : ClientHandshake) :
    ClientAction :=
  if source ≠ h.serverEndpoint then h.unexpectedSource source
  else if observed = .data ∧ h.stateName ≠ .established then .dropped .preSessionData
  else .dropped (.unexpectedMessage h.state.expectedInbound observed)

def checkTimeout (now : Instant) (h : ClientHandshake) : ClientAction × ClientHandshake :=
  match h.state.phase with
  | some (attemptId, deadline, _) =>
    if now < deadline then (.unchanged, h) else (.handshakeTimedOut attemptId, {h with state := .closed})
  | none => if h.state = .closed then (.alreadyClosed, h) else (.unchanged, h)

def nextDeadline (h : ClientHandshake) : Option Instant := h.state.phase.map fun p => p.2.1

def shutdown (h : ClientHandshake) : ClientAction × ClientHandshake :=
  if h.state = .closed then (.alreadyClosed, h) else (.closed, {h with state := .closed})

end ClientHandshake
end Crabnet.ClientPolicy
