import Crabnet.PendingManager

/-! The server's session policy (session/server.rs): one listening registry of
candidates kept beside the pending manager, one established session, one
terminal state. Operations are symbolic; no packet or key is touched here. -/
namespace Crabnet.ServerPolicy
open MachineWord SessionTypes HashTable Fallible PendingManager

structure ServerCandidate where
  candidateId : CandidateId
  source : SocketAddr
  clientAttemptId : ClientAttemptId
  deriving DecidableEq, Repr

structure EstablishedServerSession where
  metadata : EstablishedSessionMetadata
  peerEndpoint : SocketAddr
  completedCandidateId : CandidateId
  clientAttemptId : ClientAttemptId
  establishedAt : Instant
  deriving DecidableEq

inductive ServerHandshakeState where
  | listening
  | established (session : EstablishedServerSession)
  | closed
  deriving DecidableEq

structure ServerHandshake where
  pending : SessionManager
  candidateById : HashMap CandidateId ServerCandidate
  state : ServerHandshakeState

inductive ServerInboundKind where
  | clientHello | clientFinish | data | otherHandshake
  deriving DecidableEq, Repr

inductive ServerHelloAdmission where
  | newCandidate | existingCandidate
  deriving DecidableEq, Repr

inductive ServerDropReason where
  | pendingCapacityReached (maximumPending : Nat)
  | noPendingCandidate
  | staleCandidate (expected observed : CandidateId)
  | staleClientAttempt (expected observed : ClientAttemptId)
  | authenticationFailed
  | unexpectedMessage (expected : Option ServerInboundKind) (observed : ServerInboundKind)
  | preSessionData
  | anotherPeerIsActive (activeSource : SocketAddr)
  | sessionUnavailable
  deriving DecidableEq, Repr

inductive ServerEffect where
  | sendServerHello (destination : SocketAddr) (candidateId : CandidateId)
      (clientAttemptId : ClientAttemptId) (admission : ServerHelloAdmission)
  | sendServerFinish (destination : SocketAddr) (candidateId : CandidateId)
      (clientAttemptId : ClientAttemptId) (sessionId : SessionId)
  | sessionEstablished (source : SocketAddr) (sessionId : SessionId)
  | dropped (source : SocketAddr) (reason : ServerDropReason)
  | closed (removedCandidates : Nat) (removedSession : Bool)
  | alreadyClosed
  deriving DecidableEq

structure ExpiredServerCandidate where
  candidateId : CandidateId
  source : SocketAddr
  clientAttemptId : ClientAttemptId
  deriving DecidableEq, Repr

structure ServerReport where
  expired : List ExpiredServerCandidate
  effects : List ServerEffect
  deriving DecidableEq

inductive ServerStateName where
  | listening | established | closed
  deriving DecidableEq, Repr

inductive ServerOperation where
  | applyValidClientHello | applyAuthenticatedClientFinish | applyAuthenticationFailure
  | applyUnexpectedMessage | checkTimeouts | shutdown
  deriving DecidableEq, Repr

inductive ServerClientFinishDecision where
  | permitNew (candidateId : CandidateId) (clientAttemptId : ClientAttemptId)
  | permitDuplicate (candidateId : CandidateId) (clientAttemptId : ClientAttemptId)
      (expectedMetadata : EstablishedSessionMetadata)
  | drop (reason : ServerDropReason)
  deriving DecidableEq

structure ServerClientFinishPreAuthReport where
  expired : List ExpiredServerCandidate
  decision : ServerClientFinishDecision
  deriving DecidableEq

inductive ServerStateError where
  | pendingManager (operation : ServerOperation) (source : Option SocketAddr)
      (error : SessionManagerError)
  | candidateRegistryMissing (candidateId : CandidateId) (source : SocketAddr)
  | candidateRegistryOrphaned (candidateId : CandidateId) (source : SocketAddr)
  | candidateSourceMismatch (candidateId : CandidateId) (managerSource registrySource : SocketAddr)
  | candidateRegistryCountMismatch (managerCount registryCount : Nat)
  | pendingManagerClosedWhileListening
  | pendingCandidatesOutsideListening (state : ServerStateName) (count : Nat)
  | candidateAbortMissing (source : SocketAddr) (candidateId : CandidateId)
      (clientAttemptId : ClientAttemptId)
  | candidateAbortCandidateMismatch (source : SocketAddr) (expected observed : CandidateId)
  | candidateAbortAttemptMismatch (source : SocketAddr) (candidateId : CandidateId)
      (expected observed : ClientAttemptId)
  deriving DecidableEq, Repr

namespace ServerHandshake

abbrev Step (α : Type) := Action ServerHandshake ServerStateError α

def new (policy : SessionPolicy) (sources : Hasher SocketAddr PendingCandidate)
    (ids : Hasher CandidateId ServerCandidate) : ServerHandshake :=
  ⟨.new policy sources, .new ids, .listening⟩

def stateName (h : ServerHandshake) : ServerStateName :=
  match h.state with
  | .listening => .listening
  | .closed => .closed
  | .established _ => .established

def verifyBindings (pending : SessionManager) : List (Entry CandidateId ServerCandidate) →
    Except ServerStateError Unit
  | [] => .ok ()
  | e :: rest =>
    match pending.candidate e.2.source with
    | none => .error (.candidateRegistryOrphaned e.2.candidateId e.2.source)
    | some snapshot =>
      if snapshot.id ≠ e.2.candidateId then
        .error (.candidateRegistryOrphaned e.2.candidateId e.2.source)
      else verifyBindings pending rest

def verifyCandidateMaps (h : ServerHandshake) : Except ServerStateError Unit :=
  if h.stateName ≠ .listening ∧ h.candidateById.isEmpty = false then
    .error (.pendingCandidatesOutsideListening h.stateName h.candidateById.len)
  else match verifyBindings h.pending h.candidateById.iter with
    | .error e => .error e
    | .ok () =>
      if h.pending.pendingCount ≠ h.candidateById.len then
        .error (.candidateRegistryCountMismatch h.pending.pendingCount h.candidateById.len)
      else .ok ()

def verify : Step Unit := do
  let h ← Action.read
  Action.ofExcept h.verifyCandidateMaps

/- The registry entry goes before its source is compared, as in the source: an
error below leaves the entries seen so far removed. -/
def reconcile : List ExpiredCandidate → Step (List ExpiredServerCandidate)
  | [] => pure []
  | item :: rest => do
    let h ← Action.read
    match h.candidateById.get item.candidateId with
    | none => Action.fail (.candidateRegistryMissing item.candidateId item.source)
    | some binding => do
      Action.modify fun h => {h with candidateById := h.candidateById.remove item.candidateId}
      if binding.source ≠ item.source then
        Action.fail (.candidateSourceMismatch item.candidateId item.source binding.source)
      else do
        let tail ← reconcile rest
        pure (⟨item.candidateId, binding.source, binding.clientAttemptId⟩ :: tail)

def expireListening (now : Instant) : Step (List ExpiredServerCandidate) := do
  let report ← Action.total fun h =>
    let expiration := h.pending.expirePending now
    (expiration.1, {h with pending := expiration.2})
  let expired ← reconcile report.expired
  verify
  pure expired

def expireAndReconcile (now : Instant) : Step (List ExpiredServerCandidate) := do
  let h ← Action.read
  match h.state with
  | .listening => expireListening now
  -- Outside listening the code names every state but Established "Listening".
  | .established _ =>
    if h.candidateById.isEmpty then pure []
    else Action.fail (.pendingCandidatesOutsideListening .established h.candidateById.len)
  | .closed =>
    if h.candidateById.isEmpty then pure []
    else Action.fail (.pendingCandidatesOutsideListening .listening h.candidateById.len)

def currentCandidate (h : ServerHandshake) (source : SocketAddr) :
    Except ServerStateError (Option ServerCandidate) :=
  match h.pending.candidate source with
  | none => .ok none
  | some snapshot =>
    match h.candidateById.get snapshot.id with
    | none => .error (.candidateRegistryMissing snapshot.id source)
    | some binding =>
      if binding.source ≠ source then
        .error (.candidateSourceMismatch snapshot.id source binding.source)
      else .ok (some binding)

def current (source : SocketAddr) : Step (Option ServerCandidate) := do
  let h ← Action.read
  Action.ofExcept (h.currentCandidate source)

def removeExactCandidate (candidate : ServerCandidate) : Step Unit := do
  let outcome ← Action.total fun h =>
    let removal := h.pending.removeCandidate candidate.source candidate.candidateId
    (removal.1, {h with pending := removal.2})
  match outcome with
  | .notFound => Action.fail (.candidateRegistryOrphaned candidate.candidateId candidate.source)
  | .candidateMismatch _ observed => Action.fail (.candidateRegistryOrphaned observed candidate.source)
  | .closed => Action.fail .pendingManagerClosedWhileListening
  | .removed => do
    let h ← Action.read
    match h.candidateById.get candidate.candidateId with
    | none => Action.fail (.candidateRegistryMissing candidate.candidateId candidate.source)
    | some removed => do
      Action.modify fun h => {h with candidateById := h.candidateById.remove candidate.candidateId}
      if removed.source ≠ candidate.source then
        Action.fail (.candidateSourceMismatch candidate.candidateId candidate.source removed.source)
      else pure ()

def droppedReport (expired : List ExpiredServerCandidate) (source : SocketAddr)
    (reason : ServerDropReason) : ServerReport := ⟨expired, [.dropped source reason]⟩

def applyAdmission (source : SocketAddr) (attempt : ClientAttemptId)
    (expired : List ExpiredServerCandidate) : AdmissionOutcome → Step ServerReport
  | .added candidateId _ => do
    Action.modify fun h =>
      {h with candidateById := h.candidateById.insert candidateId ⟨candidateId, source, attempt⟩}
    verify
    pure ⟨expired, [.sendServerHello source candidateId attempt .newCandidate]⟩
  | .alreadyPending candidateId _ => do
    let resend : ServerReport :=
      ⟨expired, [.sendServerHello source candidateId attempt .existingCandidate]⟩
    match (← current source) with
    | some binding =>
      if binding.clientAttemptId ≠ attempt then
        pure (droppedReport expired source (.staleClientAttempt binding.clientAttemptId attempt))
      else pure resend
    | none => pure resend
  | .atCapacity maximumPending =>
    pure (droppedReport expired source (.pendingCapacityReached maximumPending))
  | .closed => Action.fail .pendingManagerClosedWhileListening

def handleValidClientHello (source : SocketAddr) (attempt : ClientAttemptId) (now : Instant) :
    Step ServerReport := do
  let expired ← expireAndReconcile now
  let h ← Action.read
  match h.state with
  | .closed => pure (droppedReport expired source .sessionUnavailable)
  | .established session =>
    pure (droppedReport expired source (.anotherPeerIsActive session.peerEndpoint))
  | .listening => do
    let admission ← Action.mapError (.pendingManager .applyValidClientHello (some source))
      (Action.within ServerHandshake.pending (fun h pending => {h with pending := pending})
        (SessionManager.admitSource source now))
    applyAdmission source attempt expired admission.outcome

def checkTimeouts (now : Instant) : Step ServerReport := do
  let expired ← expireAndReconcile now
  pure ⟨expired, []⟩

def precheckClientFinish (source : SocketAddr) (attempt : ClientAttemptId) (now : Instant) :
    Step ServerClientFinishPreAuthReport := do
  let timeout ← checkTimeouts now
  let h ← Action.read
  match h.state with
  | .closed => pure ⟨timeout.expired, .drop .sessionUnavailable⟩
  | .established session =>
    if source = session.peerEndpoint ∧ attempt = session.clientAttemptId then
      pure ⟨timeout.expired,
        .permitDuplicate session.completedCandidateId session.clientAttemptId session.metadata⟩
    else pure ⟨timeout.expired, .drop (.anotherPeerIsActive session.peerEndpoint)⟩
  | .listening => do
    match (← current source) with
    | none => pure ⟨timeout.expired, .drop .noPendingCandidate⟩
    | some candidate =>
      if attempt ≠ candidate.clientAttemptId then
        pure ⟨timeout.expired, .drop (.staleClientAttempt candidate.clientAttemptId attempt)⟩
      else pure ⟨timeout.expired, .permitNew candidate.candidateId candidate.clientAttemptId⟩

def establish (source : SocketAddr) (candidateId : CandidateId) (attempt : ClientAttemptId)
    (metadata : EstablishedSessionMetadata) (now : Instant) (h : ServerHandshake) : ServerHandshake :=
  {h with
    pending := h.pending.shutdown.2
    candidateById := h.candidateById.clear
    state := .established ⟨metadata, source, candidateId, attempt, now⟩}

def handleAuthenticatedClientFinish (source : SocketAddr) (candidateId : CandidateId)
    (attempt : ClientAttemptId) (metadata : EstablishedSessionMetadata) (now : Instant) :
    Step ServerReport := do
  let expired ← expireAndReconcile now
  let h ← Action.read
  match h.state with
  | .closed => pure (droppedReport expired source .sessionUnavailable)
  | .established session =>
    if source = session.peerEndpoint ∧ candidateId = session.completedCandidateId ∧
        attempt = session.clientAttemptId then
      pure ⟨expired, [.sendServerFinish source candidateId attempt session.metadata.sessionId]⟩
    else pure (droppedReport expired source (.anotherPeerIsActive session.peerEndpoint))
  | .listening => do
    match (← current source) with
    | none => pure (droppedReport expired source .noPendingCandidate)
    | some binding =>
      if binding.candidateId ≠ candidateId then
        pure (droppedReport expired source (.staleCandidate binding.candidateId candidateId))
      else if binding.clientAttemptId ≠ attempt then
        pure (droppedReport expired source (.staleClientAttempt binding.clientAttemptId attempt))
      else do
        removeExactCandidate binding
        Action.modify (establish source candidateId attempt metadata now)
        pure ⟨expired, [.sendServerFinish source candidateId attempt metadata.sessionId,
          .sessionEstablished source metadata.sessionId]⟩

def handleAuthenticationFailure (source : SocketAddr) (candidateId : CandidateId)
    (attempt : ClientAttemptId) (now : Instant) : Step ServerReport := do
  let expired ← expireAndReconcile now
  let h ← Action.read
  match h.state with
  | .closed => pure (droppedReport expired source .sessionUnavailable)
  | .established session =>
    pure (droppedReport expired source (.anotherPeerIsActive session.peerEndpoint))
  | .listening => do
    match (← current source) with
    | none => pure (droppedReport expired source .noPendingCandidate)
    | some binding =>
      if binding.candidateId ≠ candidateId then
        pure (droppedReport expired source (.staleCandidate binding.candidateId candidateId))
      else if binding.clientAttemptId ≠ attempt then
        pure (droppedReport expired source (.staleClientAttempt binding.clientAttemptId attempt))
      else do
        removeExactCandidate binding
        verify
        pure (droppedReport expired source .authenticationFailed)

def handleUnexpectedMessage (source : SocketAddr) (observed : ServerInboundKind) (now : Instant) :
    Step ServerReport := do
  let expired ← expireAndReconcile now
  let h ← Action.read
  match h.state with
  | .closed => pure (droppedReport expired source .sessionUnavailable)
  | .listening =>
    if observed = .data then pure (droppedReport expired source .preSessionData)
    else do
      let expected := match (← current source) with
        | some _ => ServerInboundKind.clientFinish
        | none => ServerInboundKind.clientHello
      pure (droppedReport expired source (.unexpectedMessage (some expected) observed))
  | .established session =>
    if source ≠ session.peerEndpoint then
      pure (droppedReport expired source (.anotherPeerIsActive session.peerEndpoint))
    else pure (droppedReport expired source (.unexpectedMessage (some .data) observed))

def nextDeadline (h : ServerHandshake) : Option Instant :=
  match h.state with
  | .listening => h.pending.nextDeadline
  | _ => none

def shutdown (h : ServerHandshake) : ServerReport × ServerHandshake :=
  if h.state = .closed then (⟨[], [.alreadyClosed]⟩, h)
  else
    let removedSession := match h.state with | .established _ => true | _ => false
    (⟨[], [.closed h.pending.pendingCount removedSession]⟩,
      {h with pending := h.pending.shutdown.2, candidateById := h.candidateById.clear, state := .closed})

def pendingCandidateCount (h : ServerHandshake) : Nat := h.pending.pendingCount

def abortExactCandidate (source : SocketAddr) (candidateId : CandidateId) (attempt : ClientAttemptId) :
    Step Unit := do
  match (← current source) with
  | none => Action.fail (.candidateAbortMissing source candidateId attempt)
  | some candidate =>
    if candidate.candidateId ≠ candidateId then
      Action.fail (.candidateAbortCandidateMismatch source candidate.candidateId candidateId)
    else if candidate.clientAttemptId ≠ attempt then
      Action.fail (.candidateAbortAttemptMismatch source candidateId candidate.clientAttemptId attempt)
    else do
      removeExactCandidate candidate
      verify

end ServerHandshake
end Crabnet.ServerPolicy
