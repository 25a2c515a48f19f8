import Crabnet.CryptoBoundary
import Crabnet.ServerPolicy
import Crabnet.ClientPolicy

/-! Messages, events, reports and errors of the two coordinators (handshake/types.rs),
and what both are made of: a policy, a provider, and steps on either. -/
namespace Crabnet.HandshakeTypes
open SessionTypes Fallible CryptoBoundary ServerPolicy ClientPolicy

inductive CoordinatorLifecycle where
  | running | closed
  deriving DecidableEq, Repr

structure ClientHello (P : Type) where
  clientAttemptId : ClientAttemptId
  payload : P
  deriving DecidableEq

structure ServerHello (P : Type) where
  clientAttemptId : ClientAttemptId
  payload : P
  deriving DecidableEq

structure ClientFinish (P : Type) where
  clientAttemptId : ClientAttemptId
  payload : P
  deriving DecidableEq

structure ServerFinish (P : Type) where
  clientAttemptId : ClientAttemptId
  payload : P
  deriving DecidableEq

inductive ClientHandshakeMessage (H F : Type) where
  | clientHello (message : ClientHello H)
  | clientFinish (message : ClientFinish F)
  deriving DecidableEq

inductive ServerHandshakeMessage (H F : Type) where
  | serverHello (message : ServerHello H)
  | serverFinish (message : ServerFinish F)
  deriving DecidableEq

structure ServerOutbound (Message : Type) where
  destination : SocketAddr
  message : Message
  deriving DecidableEq

inductive CoordinatorBuildError where
  | unexpectedInitialClientPolicyState (observed : ClientStateName)
  | unexpectedInitialClientCryptoPhase (observed : ClientCryptoPhase)
  | unexpectedInitialServerPolicyState (observed : ServerStateName)
  | serverCryptoNotFresh (observed : ServerCryptoStatus)
  deriving DecidableEq, Repr

inductive ClientCoordinatorEvent where
  | dropped (reason : ClientDropReason)
  | handshakeTimedOut (attemptId : ClientAttemptId)
  | sessionEstablished (metadata : EstablishedSessionMetadata)
  | closed (policyWasActive : Bool) (cryptoCleanup : CryptoShutdownOutcome)
  | alreadyClosed
  deriving DecidableEq

structure ClientCoordinatorReport (H F : Type) where
  outbound : List (ClientHandshakeMessage H F)
  events : List ClientCoordinatorEvent
  deriving DecidableEq

inductive ServerCoordinatorEvent where
  | dropped (source : SocketAddr) (reason : ServerDropReason)
  | candidateExpired (candidateId : CandidateId) (source : SocketAddr) (clientAttemptId : ClientAttemptId)
  | sessionEstablished (source : SocketAddr) (metadata : EstablishedSessionMetadata)
  | closed (policyRemovedCandidates : Nat) (policyRemovedSession : Bool)
      (cryptoCleanup : CryptoShutdownOutcome)
  | alreadyClosed
  deriving DecidableEq

structure ServerCoordinatorReport (H F : Type) where
  outbound : List (ServerOutbound (ServerHandshakeMessage H F))
  events : List ServerCoordinatorEvent
  deriving DecidableEq

inductive CoordinatorInvariantError where
  | unexpectedClientAction
  | unexpectedServerEffect
  | unexpectedServerReport
  | attemptMismatch (expected observed : ClientAttemptId)
  | sessionMetadataMismatch (expected observed : EstablishedSessionMetadata)
  | clientPhaseMismatch (policy : ClientStateName) (crypto : ClientCryptoPhase)
  | serverPhaseMismatch (policy : ServerStateName) (crypto : ServerCryptoPhase)
  | serverPendingContextCountMismatch (policyPending cryptoPending : Nat)
  | serverCryptoStatusMismatch (policy : ServerStateName) (observed : ServerCryptoStatus)
  | candidateCleanupMismatch (candidateId : CandidateId) (expected observed : ServerCandidateRemoval)
  | clientContextCleanupMismatch (attemptId : ClientAttemptId) (expected observed : ClientContextRemoval)
  | cryptoFailureCorrelationMismatch
  | cryptoResultCorrelationMismatch
  deriving DecidableEq

inductive CoordinatorPrimaryError where
  | clientPolicy (error : ClientStateError)
  | serverPolicy (error : ServerStateError)
  | crypto (error : CryptoStateError)
  | invariant (error : CoordinatorInvariantError)
  deriving DecidableEq

inductive CoordinatorPolicyCleanup where
  | client (action : ClientAction)
  | server (report : Option ServerReport) (error : Option ServerStateError)
  deriving DecidableEq

structure FatalCoordinatorError where
  primary : CoordinatorPrimaryError
  policyCleanup : CoordinatorPolicyCleanup
  cryptoCleanup : CryptoShutdownOutcome
  deriving DecidableEq

structure HandshakeCoordinator (P C : Type) where
  policy : P
  crypto : C
  lifecycle : CoordinatorLifecycle

abbrev CoordinatorStep (P C α : Type) := Action (HandshakeCoordinator P C) CoordinatorPrimaryError α

section
variable {P C α : Type}

def onCrypto (x : Action C CryptoStateError α) : CoordinatorStep P C α :=
  Action.mapError .crypto (Action.within (·.crypto) (fun c crypto => {c with crypto := crypto}) x)

def askCrypto (x : C → Except CryptoStateError α) : CoordinatorStep P C α := fun c =>
  match x c.crypto with
  | .ok a => (.ok a, c)
  | .error e => (.error (.crypto e), c)

def violated (e : CoordinatorInvariantError) : CoordinatorStep P C α := Action.fail (.invariant e)

variable {c : HandshakeCoordinator P C} {Q : α → HandshakeCoordinator P C → Prop}
  {E : CoordinatorPrimaryError → HandshakeCoordinator P C → Prop}

theorem wpOnCrypto {x : Action C CryptoStateError α} :
    Action.wp (onCrypto x) Q E c ↔
      Action.wp x (fun a p => Q a {c with crypto := p}) (fun e p => E (.crypto e) {c with crypto := p}) c.crypto := by
  simp only [onCrypto, Action.wpMapError, Action.wpWithin]

theorem callRule {x : Action C CryptoStateError α}
    (post : ∀ a crypto, x c.crypto = (.ok a, crypto) → Q a {c with crypto := crypto})
    (failed : ∀ e crypto, E (.crypto e) {c with crypto := crypto}) : Action.wp (onCrypto x) Q E c := by
  rw [wpOnCrypto]
  unfold Action.wp
  split
  · rename_i a crypto ran
    exact post a crypto ran
  · exact failed _ _

theorem askRule {x : C → Except CryptoStateError α} (post : ∀ a, x c.crypto = .ok a → Q a c)
    (failed : ∀ e, E (.crypto e) c) : Action.wp (askCrypto x) Q E c := by
  unfold Action.wp askCrypto
  cases ran : x c.crypto with
  | ok a => exact post a ran
  | error e => exact failed e

theorem askAnswered {x : C → Except CryptoStateError α} {a} (ran : x c.crypto = .ok a) (post : Q a c) :
    Action.wp (askCrypto x) Q E c := by
  simpa only [Action.wp, askCrypto, ran] using post

end
end Crabnet.HandshakeTypes
