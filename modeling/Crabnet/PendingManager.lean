import Crabnet.Fallible
import Crabnet.HashTable
import Crabnet.SessionTypes

/-! The bounded store of pending handshake attempts (session.rs). Time comes
from the caller; a candidate is owned by one transport source, keeps its first
deadline, and is numbered by a counter that never wraps. -/
namespace Crabnet.PendingManager
open MachineWord SessionTypes HashTable Fallible

structure SessionPolicy where
  maximumPending : Nat
  handshakeTimeout : Duration
  idleTimeout : Duration
  pendingPositive : maximumPending ≠ 0
  handshakePositive : handshakeTimeout ≠ 0
  idlePositive : idleTimeout ≠ 0

inductive SessionConfigError where
  | pendingLimit | handshakeTimeout | idleTimeout
  deriving DecidableEq, Repr

def SessionPolicy.new (maximumPending : Nat) (handshakeTimeout idleTimeout : Duration) :
    Except SessionConfigError SessionPolicy :=
  if pending : maximumPending = 0 then .error .pendingLimit
  else if handshake : handshakeTimeout = 0 then .error .handshakeTimeout
  else if idle : idleTimeout = 0 then .error .idleTimeout
  else .ok ⟨maximumPending, handshakeTimeout, idleTimeout, pending, handshake, idle⟩

structure PendingCandidate where
  id : CandidateId
  createdAt : Instant
  deadline : Instant
  deriving DecidableEq, Repr

inductive ManagerState where
  | running | closed
  deriving DecidableEq, Repr

inductive CandidateRemoval where
  | removed
  | notFound
  | candidateMismatch (expected observed : CandidateId)
  | closed
  deriving DecidableEq, Repr

inductive AdmissionOutcome where
  | added (candidateId : CandidateId) (deadline : Instant)
  | alreadyPending (candidateId : CandidateId) (deadline : Instant)
  | atCapacity (maximumPending : Nat)
  | closed
  deriving DecidableEq, Repr

structure ExpiredCandidate where
  candidateId : CandidateId
  source : SocketAddr
  deriving DecidableEq, Repr

structure AdmissionReport where
  expired : List ExpiredCandidate
  outcome : AdmissionOutcome
  deriving DecidableEq, Repr

structure ExpirationReport where
  expired : List ExpiredCandidate
  nextDeadline : Option Instant
  deriving DecidableEq, Repr

inductive SessionManagerError where
  | deadlineOverflow (source : SocketAddr)
  | candidateIdExhausted
  deriving DecidableEq, Repr

inductive ShutdownOutcome where
  | closed (removedCandidates : Nat)
  | alreadyClosed
  deriving DecidableEq, Repr

structure SessionManager where
  policy : SessionPolicy
  state : ManagerState
  pendingBySource : HashMap SocketAddr PendingCandidate
  nextCandidateId : UInt64

namespace SessionManager

def new (policy : SessionPolicy) (hasher : Hasher SocketAddr PendingCandidate) : SessionManager :=
  ⟨policy, .running, .new hasher, 1⟩

def nearest (m : SessionManager) : Option Instant :=
  (m.pendingBySource.iter.map (fun e => e.2.deadline)).min?

def due (m : SessionManager) (now : Instant) : List ExpiredCandidate :=
  (m.pendingBySource.iter.filter (fun e => decide (e.2.deadline ≤ now))).map (fun e => ⟨e.2.id, e.1⟩)

-- Every candidate at or past its deadline leaves; one that is re-sent keeps its first deadline,
-- so no peer prolongs its stay by repeating itself.
def expirePending (now : Instant) (m : SessionManager) : ExpirationReport × SessionManager :=
  if m.state = .closed then (⟨[], none⟩, m)
  else
    let expired := m.due now
    let kept := {m with pendingBySource := m.pendingBySource.removeAll (expired.map (·.source))}
    (⟨expired, kept.nearest⟩, kept)

def calculateDeadline (now : Instant) (timeout : Duration) (source : SocketAddr) :
    Except SessionManagerError Instant :=
  match Instant.checkedAdd now timeout with
  | some deadline => .ok deadline
  | none => .error (.deadlineOverflow source)

def reserveCandidateId : Action SessionManager SessionManagerError CandidateId := do
  let m ← Action.read
  match checkedAdd m.nextCandidateId 1 with
  | some next => do
    Action.modify fun m => {m with nextCandidateId := next}
    pure ⟨m.nextCandidateId⟩
  | none => Action.fail .candidateIdExhausted

def admitSource (source : SocketAddr) (now : Instant) :
    Action SessionManager SessionManagerError AdmissionReport := do
  let expiration ← Action.total (expirePending now)
  let m ← Action.read
  if m.state = .closed then pure ⟨expiration.expired, .closed⟩
  else match m.pendingBySource.get source with
    | some existing => pure ⟨expiration.expired, .alreadyPending existing.id existing.deadline⟩
    | none =>
      if m.policy.maximumPending ≤ m.pendingBySource.len then
        pure ⟨expiration.expired, .atCapacity m.policy.maximumPending⟩
      else do
        let deadline ← Action.ofExcept (calculateDeadline now m.policy.handshakeTimeout source)
        let candidateId ← reserveCandidateId
        Action.modify fun m =>
          {m with pendingBySource := m.pendingBySource.insert source ⟨candidateId, now, deadline⟩}
        pure ⟨expiration.expired, .added candidateId deadline⟩

def nextDeadline (m : SessionManager) : Option Instant :=
  if m.state = .closed then none else m.nearest

def pendingCount (m : SessionManager) : Nat := m.pendingBySource.len

def shutdown (m : SessionManager) : ShutdownOutcome × SessionManager :=
  if m.state = .closed then (.alreadyClosed, m)
  else (.closed m.pendingBySource.len, {m with pendingBySource := m.pendingBySource.clear, state := .closed})

@[simp] theorem shutdownPolicy (m : SessionManager) : m.shutdown.2.policy = m.policy := by
  unfold shutdown
  split <;> rfl

@[simp] theorem shutdownNext (m : SessionManager) : m.shutdown.2.nextCandidateId = m.nextCandidateId := by
  unfold shutdown
  split <;> rfl

@[simp] theorem shutdownClosed (m : SessionManager) : m.shutdown.2.state = .closed := by
  unfold shutdown
  split <;> simp [*]

def candidate (m : SessionManager) (source : SocketAddr) : Option PendingCandidate :=
  if m.state = .closed then none else m.pendingBySource.get source

def removeCandidate (source : SocketAddr) (observed : CandidateId) (m : SessionManager) :
    CandidateRemoval × SessionManager :=
  if m.state = .closed then (.closed, m)
  else match m.pendingBySource.get source with
    | none => (.notFound, m)
    | some record =>
      if record.id ≠ observed then (.candidateMismatch record.id observed, m)
      else (.removed, {m with pendingBySource := m.pendingBySource.remove source})

end SessionManager
end Crabnet.PendingManager
