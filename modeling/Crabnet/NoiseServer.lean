import Crabnet.CryptoBoundary
import Crabnet.HashTable
import Crabnet.NoiseProfile
import Crabnet.SnowBoundary

/-! The server's Noise IK provider (crypto/noise_ik/server.rs). Beside the fields
of the source it carries the randomness it has yet to draw and the history of its
library calls, which no operation reads and no shutdown forgets. -/
namespace Crabnet.NoiseServer
open MachineWord SessionTypes Fallible HashTable CryptoBoundary NoiseProfile SnowBoundary

structure PendingContext (S : Snow) where
  attempt : ClientAttemptId
  transport : Transport S
  hash : FixedBytes 32
  identity : PeerIdentity
  clientHello : Bytes
  serverHello : FixedBytes serverHelloPayloadLength
  clientFinish : Option Bytes
  serverFinish : Option (FixedBytes serverFinishPayloadLength)
  metadata : EstablishedSessionMetadata

structure EstablishedContext (S : Snow) where
  attempt : ClientAttemptId
  transport : Transport S
  metadata : EstablishedSessionMetadata
  serverFinish : FixedBytes serverFinishPayloadLength

inductive CandidateContext (S : Snow) where
  | pending (context : PendingContext S)
  | established (context : EstablishedContext S)

def CandidateContext.attempt {S : Snow} : CandidateContext S → ClientAttemptId
  | pending context => context.attempt
  | established context => context.attempt

structure ServerProvider (S : Snow) where
  phase : ServerCryptoPhase
  localPrivateKey : Bytes
  allowedClientKeys : List Bytes
  candidates : HashMap CandidateId (CandidateContext S)
  pendingCommit : Option CandidateId
  established : Option (CandidateId × CandidateContext S)
  rng : Nat → S.Entropy
  drawn : Nat
  history : NoiseHistory

namespace ServerProvider
variable {S : Snow}

def new (localPrivateKey : Bytes) (allowedClientKeys : List Bytes)
    (hasher : Hasher CandidateId (CandidateContext S)) (rng : Nat → S.Entropy) : ServerProvider S :=
  ⟨.running, localPrivateKey, allowedClientKeys, .new hasher, none, none, rng, 0, .empty⟩

def intoEstablishedTransport (p : ServerProvider S) : Option (Transport S × EstablishedSessionMetadata) :=
  if p.phase ≠ .established then none
  else match p.established with
    | some (_, .established context) => some (context.transport, context.metadata)
    | some (_, .pending _) => none
    | none => none

abbrev Op (S : Snow) (α : Type) := Action (ServerProvider S) CryptoStateError α

def fail (op : ServerCryptoOperation) : CryptoStateError := .noiseIkServerFailure op

abbrev orFail {α : Type} (op : ServerCryptoOperation) (x : Option α) : Op S α := Action.ofOption (fail op) x

def sid (hash : FixedBytes 32) : SessionId := ⟨hash⟩
def identity (key : Bytes) : PeerIdentity := ⟨.copyFrom 32 key⟩

def failure {α : Type} (candidate : CandidateId) (attempt : ClientAttemptId)
    (reason : AuthenticationFailureReason) : CryptoOutcome α :=
  .remoteFailure (.serverCandidate candidate attempt reason)

def candidateAttempt (p : ServerProvider S) (candidate : CandidateId) : Option ClientAttemptId :=
  (p.candidates.get candidate).map CandidateContext.attempt

def check (p : ServerProvider S) (op : ServerCryptoOperation) (candidate : CandidateId)
    (attempt : ClientAttemptId) : Except CryptoStateError Unit :=
  if p.phase = .closed then .error (.closed (.server op))
  else match p.candidateAttempt candidate with
    | some expected => if expected ≠ attempt then .error (.attemptIdMismatch expected attempt) else .ok ()
    | none => .ok ()

def checked (op : ServerCryptoOperation) (candidate : CandidateId) (attempt : ClientAttemptId) : Op S Unit := do
  let p ← Action.read
  Action.ofExcept (p.check op candidate attempt)

def nonSecretStatus (p : ServerProvider S) : ServerCryptoStatus :=
  ⟨p.phase, p.candidates.len, p.pendingCommit.isSome, p.established.isSome⟩

-- The next value of the generator that the library draws its ephemeral keys from.
def draw : Op S S.Entropy := Action.total fun p => (p.rng p.drawn, {p with drawn := p.drawn + 1})

def pendingOf (attempt : ClientAttemptId) (transport : Transport S) (hash : FixedBytes 32) (remote : Bytes)
    (clientHello : Bytes) (serverHello : FixedBytes serverHelloPayloadLength) : PendingContext S where
  attempt := attempt
  transport := transport
  hash := hash
  identity := identity remote
  clientHello := clientHello
  serverHello := serverHello
  clientFinish := none
  serverFinish := none
  metadata := ⟨sid hash, identity remote⟩

def admitting (p : ServerProvider S) (candidate : CandidateId) (context : PendingContext S)
    (session : NoiseSession) : ServerProvider S :=
  {p with
    candidates := p.candidates.insert candidate (.pending context)
    history := p.history.open_ session}

def welcome (candidate : CandidateId) (attempt : ClientAttemptId) (payload prologue remote : Bytes)
    (state : S.HandshakeState) : Op S (CryptoOutcome (PreparedServerHello Bytes)) := do
  let record ← orFail .prepareServerHello (encodeControl .serverHello attempt).toOption
  let entropy ← draw
  let (raw, state) ← orFail .prepareServerHello (S.writeMessage state entropy record)
  let out ← orFail .prepareServerHello (FixedBytes.ofList? serverHelloPayloadLength raw)
  let hash ← orFail .prepareServerHello (FixedBytes.ofList? 32 (S.getHandshakeHash state))
  let transport ← orFail .prepareServerHello (S.intoStatelessTransportMode state)
  Action.modify fun p => p.admitting candidate
    (pendingOf attempt ⟨transport, p.history.opened.length⟩ hash remote payload out)
    ⟨prologue, p.localPrivateKey, remote, payload, out.toList, hash⟩
  pure (.success ⟨candidate, attempt, out.toList⟩)

def openHello (candidate : CandidateId) (attempt : ClientAttemptId) (payload : Bytes) :
    Op S (CryptoOutcome (PreparedServerHello Bytes)) := do
  if payload.length ≠ clientHelloPayloadLength then Action.fail (fail .prepareServerHello)
  else do
    let params ← orFail .prepareServerHello (S.parse noiseProtocolName)
    let prologue ← orFail .prepareServerHello (buildPrologue attempt).toOption
    let p ← Action.read
    let state ← orFail .prepareServerHello (S.buildResponder params p.localPrivateKey prologue)
    let read := S.readMessage state payload
    match fitted clientHelloPayloadLength read.1 with
    | none => pure (failure candidate attempt .invalidProof)
    | some plain =>
      if plain.length ≠ 16 ∨ controlValid plain .clientHello attempt = false then
        pure (failure candidate attempt .invalidProof)
      else match S.getRemoteStatic read.2 with
        | none => pure (failure candidate attempt .identityMismatch)
        | some remote =>
          if remote ∉ p.allowedClientKeys then pure (failure candidate attempt .identityMismatch)
          else welcome candidate attempt payload prologue remote read.2

def prepareServerHello (candidate : CandidateId) (attempt : ClientAttemptId) (payload : Bytes) :
    Op S (CryptoOutcome (PreparedServerHello Bytes)) := do
  checked .prepareServerHello candidate attempt
  let p ← Action.read
  if p.phase ≠ .running then Action.fail (.invalidServerState .prepareServerHello p.phase)
  else match p.candidates.get candidate with
    | some (.established _) => Action.fail (fail .prepareServerHello)
    | some (.pending existing) =>
      if existing.attempt ≠ attempt then Action.fail (.attemptIdMismatch existing.attempt attempt)
      else if existing.clientHello = payload then
        pure (.success ⟨candidate, attempt, existing.serverHello.toList⟩)
      else pure (failure candidate attempt .transcriptMismatch)
    | none => openHello candidate attempt payload

def noteRead (handle : Nat) (call : NoiseCall) : Op S Unit :=
  Action.modify fun p => {p with history := p.history.read_ handle call}

def noteWrite (handle : Nat) (call : NoiseCall) : Op S Unit :=
  Action.modify fun p => {p with history := p.history.wrote handle call}

def confirming (p : ServerProvider S) (candidate : CandidateId) (context : PendingContext S)
    (payload : Bytes) (out : FixedBytes serverFinishPayloadLength) : ServerProvider S :=
  {p with
    candidates := p.candidates.insert candidate
      (.pending {context with clientFinish := some payload, serverFinish := some out})
    pendingCommit := some candidate
    phase := .authenticatedPendingCommit}

def confirm (candidate : CandidateId) (attempt : ClientAttemptId) (context : PendingContext S)
    (payload : Bytes) : Op S (CryptoOutcome AuthenticatedClientFinish) := do
  let record ← orFail .authenticateClientFinish (encodeControl .serverFinish attempt).toOption
  let written := context.transport.write 0 record serverFinishPayloadLength
  noteWrite context.transport.handle ⟨0, record, written⟩
  let raw ← orFail .authenticateClientFinish written
  let out ← orFail .authenticateClientFinish (FixedBytes.ofList? serverFinishPayloadLength raw)
  Action.modify fun p => p.confirming candidate context payload out
  pure (.success ⟨candidate, attempt, context.metadata⟩)

-- A read that fails here is an error of the operation, not a failure of the peer: the coordinator
-- ends with it, although the design of the provider calls it an expected rejection.
def openFinish (candidate : CandidateId) (attempt : ClientAttemptId) (context : PendingContext S)
    (payload : Bytes) : Op S (CryptoOutcome AuthenticatedClientFinish) := do
  if payload.length ≠ clientFinishPayloadLength then Action.fail (fail .authenticateClientFinish)
  else do
    let read := context.transport.read 0 payload clientFinishPayloadLength
    noteRead context.transport.handle ⟨0, payload, read⟩
    let plain ← orFail .authenticateClientFinish read
    if plain.length ≠ 16 ∨ controlValid plain .clientFinish attempt = false then
      pure (failure candidate attempt .invalidConfirmation)
    else confirm candidate attempt context payload

def authenticateClientFinish (candidate : CandidateId) (attempt : ClientAttemptId) (payload : Bytes) :
    Op S (CryptoOutcome AuthenticatedClientFinish) := do
  checked .authenticateClientFinish candidate attempt
  let p ← Action.read
  match p.candidates.get candidate with
  | none => Action.fail (.missingServerCandidateContext candidate attempt)
  | some (.established _) => Action.fail (.invalidServerState .authenticateClientFinish p.phase)
  | some (.pending context) =>
    if context.attempt ≠ attempt then Action.fail (.attemptIdMismatch context.attempt attempt)
    else match context.clientFinish with
      | some cached =>
        if cached = payload then pure (.success ⟨candidate, attempt, context.metadata⟩)
        else pure (failure candidate attempt .transcriptMismatch)
      | none => openFinish candidate attempt context payload

def committing (p : ServerProvider S) (candidate : CandidateId) (context : EstablishedContext S) :
    ServerProvider S :=
  {p with
    candidates := p.candidates.clear
    established := some (candidate, .established context)
    pendingCommit := none
    phase := .established}

def commitSession (candidate : CandidateId) (attempt : ClientAttemptId)
    (metadata : EstablishedSessionMetadata) : Op S Unit := do
  let p ← Action.read
  if p.phase ≠ .authenticatedPendingCommit then Action.fail (.invalidServerState .commitSession p.phase)
  else if p.pendingCommit ≠ some candidate then Action.fail (.candidateIdMismatch candidate candidate)
  else do
    Action.modify fun p => {p with candidates := p.candidates.remove candidate}
    match p.candidates.get candidate with
    | some (.pending ⟨expected, transport, _, _, _, _, _, some finish, stored⟩) =>
      if expected ≠ attempt then Action.fail (.attemptIdMismatch expected attempt)
      else if stored ≠ metadata then Action.fail .authenticatedMetadataMismatch
      else Action.modify fun p => p.committing candidate ⟨attempt, transport, metadata, finish⟩
    | _ => Action.fail (fail .commitSession)

def rejectAuthenticatedCandidate (candidate : CandidateId) (attempt : ClientAttemptId) :
    Op S ServerCandidateRemoval := do
  let p ← Action.read
  if p.phase = .closed then pure .alreadyAbsent
  else do
    checked .rejectAuthenticatedCandidate candidate attempt
    if p.pendingCommit ≠ some candidate then
      Action.fail (.invalidServerState .rejectAuthenticatedCandidate p.phase)
    else do
      Action.modify fun p => {p with
        candidates := p.candidates.remove candidate
        pendingCommit := none
        phase := .running}
      pure .removed

def prepareServerFinish (candidate : CandidateId) (attempt : ClientAttemptId) (sessionId : SessionId)
    (p : ServerProvider S) : Except CryptoStateError (PreparedServerFinish Bytes) :=
  match p.established with
  | some (expectedCandidate, .established context) =>
    if expectedCandidate ≠ candidate then .error (.candidateIdMismatch expectedCandidate candidate)
    else if context.attempt ≠ attempt then .error (.attemptIdMismatch context.attempt attempt)
    else if context.metadata.sessionId ≠ sessionId then
      .error (.sessionIdMismatch context.metadata.sessionId sessionId)
    else .ok ⟨candidate, attempt, sessionId, context.serverFinish.toList⟩
  | _ => .error (.invalidServerState .prepareServerFinish p.phase)

def removeCandidate (candidate : CandidateId) (attempt : ClientAttemptId) : Op S ServerCandidateRemoval := do
  let p ← Action.read
  if p.phase = .closed then pure .alreadyAbsent
  else do
    checked .removeCandidate candidate attempt
    match p.candidates.get candidate with
    | none => pure .alreadyAbsent
    | some _ => do
      Action.modify fun p => {p with candidates := p.candidates.remove candidate}
      if p.pendingCommit = some candidate then do
        Action.modify fun p => {p with pendingCommit := none, phase := .running}
        pure .removed
      else pure .removed

def shutdown (p : ServerProvider S) : CryptoShutdownOutcome × ServerProvider S :=
  if p.phase = .closed then (⟨0, false, false, true⟩, p)
  else (⟨if p.phase = .running then 1 else 0, p.phase == .authenticatedPendingCommit, p.phase == .established, false⟩,
    {p with candidates := p.candidates.clear, pendingCommit := none, established := none, phase := .closed})

end ServerProvider

instance {S : Snow} : ServerHandshakeCrypto (ServerProvider S) where
  ClientHelloPayload := Bytes
  ServerHelloPayload := Bytes
  ClientFinishPayload := Bytes
  ServerFinishPayload := Bytes
  phase := ServerProvider.phase
  nonSecretStatus := ServerProvider.nonSecretStatus
  prepareServerHello := ServerProvider.prepareServerHello
  authenticateClientFinish := ServerProvider.authenticateClientFinish
  commitSession := ServerProvider.commitSession
  rejectAuthenticatedCandidate := ServerProvider.rejectAuthenticatedCandidate
  prepareServerFinish := ServerProvider.prepareServerFinish
  removeCandidate := ServerProvider.removeCandidate
  shutdown := ServerProvider.shutdown

instance {S : Snow} : LawfulServerCrypto (ServerProvider S) where
  statusPhase _ := rfl
  shutdownPhase p := by
    change (ServerProvider.shutdown p).2.phase = .closed
    unfold ServerProvider.shutdown
    split
    · assumption
    · rfl

def plainClientKey : Bytes := List.replicate 32 1
def plainServerKey : Bytes := List.replicate 32 2

def plainServerProvider : ServerProvider plainSnow :=
  .new plainServerKey [plainClientKey] (.listing _ _) (fun _ => ())

end Crabnet.NoiseServer
