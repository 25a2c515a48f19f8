import Crabnet.CryptoBoundary
import Crabnet.NoiseProfile
import Crabnet.SnowBoundary

/-! The client's Noise IK provider (crypto/noise_ik/client.rs), with the same two
additions as the server's: the randomness it has yet to draw, and the history of
its library calls. -/
namespace Crabnet.NoiseClient
open MachineWord SessionTypes Fallible CryptoBoundary NoiseProfile SnowBoundary

inductive Context (S : Snow) where
  | hello (id : ClientAttemptId) (state : S.HandshakeState) (hello : FixedBytes clientHelloPayloadLength)
  | finish (id : ClientAttemptId) (transport : Transport S) (hash : FixedBytes 32) (identity : PeerIdentity)
      (clientFinish : FixedBytes clientFinishPayloadLength)
  | pending (id : ClientAttemptId) (transport : Transport S) (metadata : EstablishedSessionMetadata)
      (clientFinish : FixedBytes clientFinishPayloadLength) (serverFinish : Bytes)
  | established (id : ClientAttemptId) (transport : Transport S) (metadata : EstablishedSessionMetadata)

def Context.id {S : Snow} : Context S → ClientAttemptId
  | hello id _ _ => id
  | finish id _ _ _ _ => id
  | pending id _ _ _ _ => id
  | established id _ _ => id

structure ClientProvider (S : Snow) where
  phase : ClientCryptoPhase
  localPrivateKey : Bytes
  pinnedServerStaticPublic : Bytes
  context : Option (Context S)
  rng : Nat → S.Entropy
  drawn : Nat
  history : NoiseHistory

namespace ClientProvider
variable {S : Snow}

def new (localPrivateKey pinnedServerStaticPublic : Bytes) (rng : Nat → S.Entropy) : ClientProvider S :=
  ⟨.idle, localPrivateKey, pinnedServerStaticPublic, none, rng, 0, .empty⟩

def intoEstablishedTransport (p : ClientProvider S) : Option (Transport S × EstablishedSessionMetadata) :=
  match p.context with
  | some (.established _ transport metadata) =>
    if p.phase = .established then some (transport, metadata) else none
  | _ => none

abbrev Op (S : Snow) (α : Type) := Action (ClientProvider S) CryptoStateError α

def fail (op : ClientCryptoOperation) : CryptoStateError := .noiseIkFailure op

abbrev orFail {α : Type} (op : ClientCryptoOperation) (x : Option α) : Op S α := Action.ofOption (fail op) x

def sid (hash : FixedBytes 32) : SessionId := ⟨hash⟩
def identity (key : Bytes) : PeerIdentity := ⟨.copyFrom 32 key⟩

def failure {α : Type} (id : ClientAttemptId) (reason : AuthenticationFailureReason) : CryptoOutcome α :=
  .remoteFailure (.clientAttempt id reason)

def id (p : ClientProvider S) : Option ClientAttemptId := p.context.map Context.id

-- The attempt is compared before the phase, unlike in the server.
def check (p : ClientProvider S) (op : ClientCryptoOperation) (id : ClientAttemptId) :
    Except CryptoStateError Unit :=
  match p.id with
  | some expected =>
    if expected ≠ id then .error (.attemptIdMismatch expected id)
    else if p.phase = .closed then .error (.closed (.client op)) else .ok ()
  | none => if p.phase = .closed then .error (.closed (.client op)) else .ok ()

def checked (op : ClientCryptoOperation) (id : ClientAttemptId) : Op S Unit := do
  let p ← Action.read
  Action.ofExcept (p.check op id)

def draw : Op S S.Entropy := Action.total fun p => (p.rng p.drawn, {p with drawn := p.drawn + 1})

def setContext (phase : ClientCryptoPhase) (context : Context S) : Op S Unit :=
  Action.modify fun p => {p with context := some context, phase := phase}

def startAttempt (id : ClientAttemptId) : Op S (PreparedClientHello Bytes) := do
  let p ← Action.read
  if p.phase = .closed then Action.fail (.closed (.client .startAttempt))
  else if p.phase ≠ .idle then Action.fail (.invalidClientState .startAttempt p.phase)
  else do
    let params ← orFail .startAttempt (S.parse noiseProtocolName)
    let prologue ← orFail .startAttempt (buildPrologue id).toOption
    let state ← orFail .startAttempt
      (S.buildInitiator params p.localPrivateKey p.pinnedServerStaticPublic prologue)
    let record ← orFail .startAttempt (encodeControl .clientHello id).toOption
    let entropy ← draw
    let (raw, state) ← orFail .startAttempt (S.writeMessage state entropy record)
    let out ← orFail .startAttempt (FixedBytes.ofList? clientHelloPayloadLength raw)
    setContext .awaitingServerHello (.hello id state out)
    pure ⟨id, out.toList⟩

def noteRead (handle : Nat) (call : NoiseCall) : Op S Unit :=
  Action.modify fun p => {p with history := p.history.read_ handle call}

def noteWrite (handle : Nat) (call : NoiseCall) : Op S Unit :=
  Action.modify fun p => {p with history := p.history.wrote handle call}

def takeContext : Op S Unit := Action.modify fun p => {p with context := none}
def restore (context : Context S) : Op S Unit := Action.modify fun p => {p with context := some context}

def sessionPrologue (id : ClientAttemptId) : Bytes := (buildPrologue id).toOption.getD []

def openTransport (session : NoiseSession) : Op S Nat :=
  Action.total fun p => (p.history.opened.length, {p with history := p.history.open_ session})

def accept (id contextId : ClientAttemptId) (hello : FixedBytes clientHelloPayloadLength) (payload remote : Bytes)
    (state : S.HandshakeState) : Op S (CryptoOutcome AuthenticatedServerHello) := do
  let p ← Action.read
  let hash ← orFail .authenticateServerHello (FixedBytes.ofList? 32 (S.getHandshakeHash state))
  let made ← orFail .authenticateServerHello (S.intoStatelessTransportMode state)
  let handle ← openTransport
    ⟨sessionPrologue contextId, p.localPrivateKey, remote, hello.toList, payload, hash⟩
  let record ← orFail .authenticateServerHello (encodeControl .clientFinish id).toOption
  let written := Transport.write ⟨made, handle⟩ 0 record clientFinishPayloadLength
  noteWrite handle ⟨0, record, written⟩
  let raw ← orFail .authenticateServerHello written
  let out ← orFail .authenticateServerHello (FixedBytes.ofList? clientFinishPayloadLength raw)
  setContext .awaitingServerFinish (.finish id ⟨made, handle⟩ hash (identity remote) out)
  pure (.success ⟨id⟩)

def refuse {α : Type} (context : Context S) (id : ClientAttemptId) (reason : AuthenticationFailureReason) :
    Op S (CryptoOutcome α) := do
  restore context
  pure (failure id reason)

-- The state keeps what the library read even when the message is refused.
def openHello (id contextId : ClientAttemptId) (state : S.HandshakeState)
    (hello : FixedBytes clientHelloPayloadLength) (payload : Bytes) :
    Op S (CryptoOutcome AuthenticatedServerHello) := do
  let p ← Action.read
  let read := S.readMessage state payload
  match fitted serverHelloPayloadLength read.1 with
  | none => refuse (.hello contextId read.2 hello) id .invalidProof
  | some plain =>
    if plain.length ≠ 16 ∨ controlValid plain .serverHello id = false then
      refuse (.hello contextId read.2 hello) id .invalidProof
    else match S.getRemoteStatic read.2 with
      | none => refuse (.hello contextId read.2 hello) id .identityMismatch
      | some remote =>
        if remote ≠ p.pinnedServerStaticPublic then refuse (.hello contextId read.2 hello) id .identityMismatch
        else accept id contextId hello payload remote read.2

def authenticateServerHello (id : ClientAttemptId) (payload : Bytes) :
    Op S (CryptoOutcome AuthenticatedServerHello) := do
  checked .authenticateServerHello id
  let p ← Action.read
  if p.phase ≠ .awaitingServerHello then Action.fail (.invalidClientState .authenticateServerHello p.phase)
  else if payload.length ≠ serverHelloPayloadLength then Action.fail (fail .authenticateServerHello)
  else do
    takeContext
    match p.context with
    | some (.hello contextId state hello) => openHello id contextId state hello payload
    | _ => Action.fail (fail .authenticateServerHello)

def prepareClientFinish (id : ClientAttemptId) (p : ClientProvider S) :
    Except CryptoStateError (PreparedClientFinish Bytes) :=
  match p.check .prepareClientFinish id with
  | .error e => .error e
  | .ok () =>
    match p.context with
    | some (.finish _ _ _ _ clientFinish) => .ok ⟨id, clientFinish.toList⟩
    | _ => .error (.invalidClientState .prepareClientFinish p.phase)

def openFinish (id contextId : ClientAttemptId) (transport : Transport S) (hash : FixedBytes 32)
    (identity : PeerIdentity) (clientFinish : FixedBytes clientFinishPayloadLength) (payload : Bytes) :
    Op S (CryptoOutcome AuthenticatedServerFinish) := do
  let read := transport.read 0 payload serverFinishPayloadLength
  noteRead transport.handle ⟨0, payload, read⟩
  match read with
  | none => refuse (.finish contextId transport hash identity clientFinish) id .invalidConfirmation
  | some plain =>
    if plain.length ≠ 16 ∨ controlValid plain .serverFinish id = false then
      refuse (.finish contextId transport hash identity clientFinish) id .invalidConfirmation
    else do
      setContext .authenticatedPendingCommit (.pending id transport ⟨sid hash, identity⟩ clientFinish payload)
      pure (.success ⟨id, ⟨sid hash, identity⟩⟩)

def authenticateServerFinish (id : ClientAttemptId) (payload : Bytes) :
    Op S (CryptoOutcome AuthenticatedServerFinish) := do
  checked .authenticateServerFinish id
  let p ← Action.read
  if p.phase ≠ .awaitingServerFinish then Action.fail (.invalidClientState .authenticateServerFinish p.phase)
  else if payload.length ≠ serverFinishPayloadLength then Action.fail (fail .authenticateServerFinish)
  else do
    takeContext
    match p.context with
    | some (.finish contextId transport hash identity clientFinish) =>
      openFinish id contextId transport hash identity clientFinish payload
    | _ => Action.fail (fail .authenticateServerFinish)

def commitSession (id : ClientAttemptId) (metadata : EstablishedSessionMetadata) : Op S Unit := do
  checked .commitSession id
  let p ← Action.read
  takeContext
  match p.context with
  | some (.pending _ transport expected _ _) =>
    if expected ≠ metadata then Action.fail .authenticatedMetadataMismatch
    else setContext .established (.established id transport metadata)
  | _ => Action.fail (.invalidClientState .commitSession p.phase)

def closed (p : ClientProvider S) : ClientProvider S := {p with context := none, phase := .closed}

def rejectAuthenticatedSession (id : ClientAttemptId) : Op S ClientContextRemoval := do
  let p ← Action.read
  if p.phase = .closed then pure .alreadyAbsent
  else do
    checked .rejectAuthenticatedSession id
    if p.phase ≠ .authenticatedPendingCommit then
      Action.fail (.invalidClientState .rejectAuthenticatedSession p.phase)
    else do
      Action.modify closed
      pure .removed

def closeContext (id : ClientAttemptId) : Op S ClientContextRemoval := do
  let p ← Action.read
  if p.phase = .idle ∨ p.phase = .closed then pure .alreadyAbsent
  else do
    checked .rejectAuthenticatedSession id
    Action.modify closed
    pure .removed

def shutdown (p : ClientProvider S) : CryptoShutdownOutcome × ClientProvider S :=
  if p.phase = .closed then (⟨0, false, false, true⟩, p)
  else (⟨if p.phase = .awaitingServerHello ∨ p.phase = .awaitingServerFinish then 1 else 0,
      p.phase == .authenticatedPendingCommit, p.phase == .established, false⟩, closed p)

end ClientProvider

instance {S : Snow} : ClientHandshakeCrypto (ClientProvider S) where
  ClientHelloPayload := Bytes
  ServerHelloPayload := Bytes
  ClientFinishPayload := Bytes
  ServerFinishPayload := Bytes
  phase := ClientProvider.phase
  startAttempt := ClientProvider.startAttempt
  authenticateServerHello := ClientProvider.authenticateServerHello
  prepareClientFinish := ClientProvider.prepareClientFinish
  authenticateServerFinish := ClientProvider.authenticateServerFinish
  commitSession := ClientProvider.commitSession
  rejectAuthenticatedSession := ClientProvider.rejectAuthenticatedSession
  closeContext := ClientProvider.closeContext
  shutdown := ClientProvider.shutdown

instance {S : Snow} : LawfulClientCrypto (ClientProvider S) where
  shutdownPhase p := by
    change (ClientProvider.shutdown p).2.phase = .closed
    unfold ClientProvider.shutdown
    split
    · assumption
    · rfl

def plainClientProvider : ClientProvider plainSnow :=
  .new (List.replicate 32 1) (List.replicate 32 2) (fun _ => ())

end Crabnet.NoiseClient
