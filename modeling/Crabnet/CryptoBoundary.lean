import Crabnet.Fallible
import Crabnet.SessionTypes

/-! The cryptographic boundary (crypto/types.rs, crypto/client.rs, crypto/server.rs):
what a provider answers to the coordinators. A provider is any type with these
operations; an operation may change its state and then still fail. -/
namespace Crabnet.CryptoBoundary
open SessionTypes Fallible

structure PreparedClientHello (P : Type) where
  attemptId : ClientAttemptId
  payload : P

structure PreparedServerHello (P : Type) where
  candidateId : CandidateId
  clientAttemptId : ClientAttemptId
  payload : P

structure PreparedClientFinish (P : Type) where
  attemptId : ClientAttemptId
  payload : P

structure PreparedServerFinish (P : Type) where
  candidateId : CandidateId
  clientAttemptId : ClientAttemptId
  sessionId : SessionId
  payload : P

structure AuthenticatedServerHello where
  attemptId : ClientAttemptId
  deriving DecidableEq, Repr

structure AuthenticatedClientFinish where
  candidateId : CandidateId
  clientAttemptId : ClientAttemptId
  metadata : EstablishedSessionMetadata
  deriving DecidableEq

structure AuthenticatedServerFinish where
  attemptId : ClientAttemptId
  metadata : EstablishedSessionMetadata
  deriving DecidableEq

inductive AuthenticationFailureReason where
  | invalidCredential | invalidProof | invalidConfirmation | transcriptMismatch | identityMismatch
  deriving DecidableEq, Repr

inductive AuthenticationFailure where
  | clientAttempt (attemptId : ClientAttemptId) (reason : AuthenticationFailureReason)
  | serverCandidate (candidateId : CandidateId) (clientAttemptId : ClientAttemptId)
      (reason : AuthenticationFailureReason)
  deriving DecidableEq, Repr

inductive CryptoOutcome (T : Type) where
  | success (value : T)
  | remoteFailure (failure : AuthenticationFailure)

inductive ClientCryptoOperation where
  | startAttempt | authenticateServerHello | prepareClientFinish | authenticateServerFinish
  | commitSession | rejectAuthenticatedSession
  deriving DecidableEq, Repr

inductive ServerCryptoOperation where
  | prepareServerHello | authenticateClientFinish | commitSession | rejectAuthenticatedCandidate
  | prepareServerFinish | removeCandidate
  deriving DecidableEq, Repr

inductive CryptoOperation where
  | client (operation : ClientCryptoOperation)
  | server (operation : ServerCryptoOperation)
  deriving DecidableEq, Repr

inductive ClientCryptoPhase where
  | idle | awaitingServerHello | awaitingServerFinish | authenticatedPendingCommit | established | closed
  deriving DecidableEq, Repr

inductive ServerCryptoPhase where
  | running | authenticatedPendingCommit | established | closed
  deriving DecidableEq, Repr

inductive CryptoStateError where
  | closed (operation : CryptoOperation)
  | invalidClientState (operation : ClientCryptoOperation) (phase : ClientCryptoPhase)
  | invalidServerState (operation : ServerCryptoOperation) (phase : ServerCryptoPhase)
  | attemptIdMismatch (expected observed : ClientAttemptId)
  | candidateIdMismatch (expected observed : CandidateId)
  | sessionIdMismatch (expected observed : SessionId)
  | authenticatedMetadataMismatch
  | authenticationCommitPending
  | missingServerCandidateContext (candidateId : CandidateId) (clientAttemptId : ClientAttemptId)
  | sessionIdExhausted
  | noiseIkFailure (operation : ClientCryptoOperation)
  | noiseIkServerFailure (operation : ServerCryptoOperation)
  deriving DecidableEq

inductive ClientContextRemoval where
  | removed | alreadyAbsent
  deriving DecidableEq, Repr

inductive ServerCandidateRemoval where
  | removed | alreadyAbsent
  deriving DecidableEq, Repr

structure CryptoShutdownOutcome where
  removedPendingContexts : Nat
  removedPendingCommit : Bool
  removedEstablishedContext : Bool
  alreadyClosed : Bool
  deriving DecidableEq, Repr

structure ServerCryptoStatus where
  phase : ServerCryptoPhase
  pendingContexts : Nat
  hasPendingCommit : Bool
  hasEstablishedContext : Bool
  deriving DecidableEq, Repr

def ServerCryptoStatus.isFresh (s : ServerCryptoStatus) : Bool :=
  s.phase == .running && s.pendingContexts == 0 && !s.hasPendingCommit && !s.hasEstablishedContext

class ClientHandshakeCrypto (C : Type) where
  ClientHelloPayload : Type
  ServerHelloPayload : Type
  ClientFinishPayload : Type
  ServerFinishPayload : Type
  phase : C → ClientCryptoPhase
  startAttempt : ClientAttemptId → Action C CryptoStateError (PreparedClientHello ClientHelloPayload)
  authenticateServerHello : ClientAttemptId → ServerHelloPayload →
    Action C CryptoStateError (CryptoOutcome AuthenticatedServerHello)
  prepareClientFinish : ClientAttemptId → C →
    Except CryptoStateError (PreparedClientFinish ClientFinishPayload)
  authenticateServerFinish : ClientAttemptId → ServerFinishPayload →
    Action C CryptoStateError (CryptoOutcome AuthenticatedServerFinish)
  commitSession : ClientAttemptId → EstablishedSessionMetadata → Action C CryptoStateError Unit
  rejectAuthenticatedSession : ClientAttemptId → Action C CryptoStateError ClientContextRemoval
  closeContext : ClientAttemptId → Action C CryptoStateError ClientContextRemoval
  shutdown : C → CryptoShutdownOutcome × C

class ServerHandshakeCrypto (C : Type) where
  ClientHelloPayload : Type
  ServerHelloPayload : Type
  ClientFinishPayload : Type
  ServerFinishPayload : Type
  phase : C → ServerCryptoPhase
  nonSecretStatus : C → ServerCryptoStatus
  prepareServerHello : CandidateId → ClientAttemptId → ClientHelloPayload →
    Action C CryptoStateError (CryptoOutcome (PreparedServerHello ServerHelloPayload))
  authenticateClientFinish : CandidateId → ClientAttemptId → ClientFinishPayload →
    Action C CryptoStateError (CryptoOutcome AuthenticatedClientFinish)
  commitSession : CandidateId → ClientAttemptId → EstablishedSessionMetadata →
    Action C CryptoStateError Unit
  rejectAuthenticatedCandidate : CandidateId → ClientAttemptId →
    Action C CryptoStateError ServerCandidateRemoval
  prepareServerFinish : CandidateId → ClientAttemptId → SessionId → C →
    Except CryptoStateError (PreparedServerFinish ServerFinishPayload)
  removeCandidate : CandidateId → ClientAttemptId → Action C CryptoStateError ServerCandidateRemoval
  shutdown : C → CryptoShutdownOutcome × C

/- All that the coordinators rely on: shutting down ends in the closed phase, and
the two observers of a server agree on the phase. -/
class LawfulClientCrypto (C : Type) [ClientHandshakeCrypto C] : Prop where
  shutdownPhase : ∀ c : C, ClientHandshakeCrypto.phase (ClientHandshakeCrypto.shutdown c).2 = .closed

class LawfulServerCrypto (C : Type) [ServerHandshakeCrypto C] : Prop where
  statusPhase : ∀ c : C, (ServerHandshakeCrypto.nonSecretStatus c).phase = ServerHandshakeCrypto.phase c
  shutdownPhase : ∀ c : C, ServerHandshakeCrypto.phase (ServerHandshakeCrypto.shutdown c).2 = .closed

end Crabnet.CryptoBoundary
