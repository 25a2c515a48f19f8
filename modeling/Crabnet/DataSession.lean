import Crabnet.DataFrame
import Crabnet.Fallible
import Crabnet.SnowBoundary

/-! One established data session (data_plane/session.rs, data_plane/crypto.rs):
traffic limits and idle time, send sequences that end before the last value of
the counter, the replay window, and the transport that seals header and packet. -/
namespace Crabnet.DataSession
open MachineWord SessionTypes Fallible ReplayHistory DataFrame SnowBoundary

inductive TrafficDirection where
  | outbound | inbound
  deriving DecidableEq, Repr

inductive SessionCloseReason where
  | outboundPacketLimit | outboundByteLimit | inboundPacketLimit | inboundByteLimit
  | idleTimeout | sendSequenceExhausted | localShutdown
  deriving DecidableEq, Repr

inductive SessionDecision where
  | permit
  | close (reason : SessionCloseReason)
  deriving DecidableEq, Repr

inductive SessionLimitField where
  | outboundPackets | outboundPlaintextBytes | inboundPackets | inboundPlaintextBytes | idleTimeout
  deriving DecidableEq, Repr

inductive SessionLimitsConfigError where
  | zeroLimit (field : SessionLimitField)
  deriving DecidableEq, Repr

structure SessionLimits where
  maximumOutboundPackets : UInt64
  maximumOutboundPlaintextBytes : UInt64
  maximumInboundPackets : UInt64
  maximumInboundPlaintextBytes : UInt64
  idleTimeout : Duration
  inboundPacketsPositive : maximumInboundPackets ≠ 0
  inboundBytesPositive : maximumInboundPlaintextBytes ≠ 0
  idlePositive : idleTimeout ≠ 0
  outboundPacketsPositive : maximumOutboundPackets ≠ 0
  outboundBytesPositive : maximumOutboundPlaintextBytes ≠ 0
  deriving DecidableEq

def SessionLimits.new (outboundPackets outboundBytes inboundPackets inboundBytes : UInt64)
    (idle : Duration) : Except SessionLimitsConfigError SessionLimits :=
  if a : inboundPackets = 0 then .error (.zeroLimit .inboundPackets)
  else if b : inboundBytes = 0 then .error (.zeroLimit .inboundPlaintextBytes)
  else if c : idle = 0 then .error (.zeroLimit .idleTimeout)
  else if d : outboundPackets = 0 then .error (.zeroLimit .outboundPackets)
  else if e : outboundBytes = 0 then .error (.zeroLimit .outboundPlaintextBytes)
  else .ok ⟨outboundPackets, outboundBytes, inboundPackets, inboundBytes, idle, a, b, c, d, e⟩

inductive SessionLifetimeError where
  | recordAfterClose (direction : TrafficDirection) (reason : SessionCloseReason)
  | counterOverflow (counter attemptedIncrement : UInt64)
  | deadlineOverflow
  deriving DecidableEq, Repr

inductive SessionLifetimeState where
  | established
  | closed (reason : SessionCloseReason)
  deriving DecidableEq, Repr

structure TrafficCounters where
  packets : UInt64
  bytes : UInt64
  deriving DecidableEq, Repr

def TrafficCounters.next (c : TrafficCounters) (plaintextBytes : UInt64) :
    Except SessionLifetimeError TrafficCounters :=
  match checkedAdd c.packets 1 with
  | none => .error (.counterOverflow c.packets 1)
  | some packets =>
    match checkedAdd c.bytes plaintextBytes with
    | none => .error (.counterOverflow c.bytes plaintextBytes)
    | some bytes => .ok ⟨packets, bytes⟩

structure SessionLifetime where
  limits : SessionLimits
  state : SessionLifetimeState
  outbound : TrafficCounters
  inbound : TrafficCounters
  lastSuccessfulActivity : Instant
  deriving DecidableEq

namespace SessionLifetime

abbrev Step (α : Type) := Action SessionLifetime SessionLifetimeError α

def new (now : Instant) (limits : SessionLimits) : SessionLifetime :=
  ⟨limits, .established, ⟨0, 0⟩, ⟨0, 0⟩, now⟩

def counters (l : SessionLifetime) : TrafficDirection → TrafficCounters
  | .outbound => l.outbound
  | .inbound => l.inbound

def setCounters (l : SessionLifetime) (c : TrafficCounters) : TrafficDirection → SessionLifetime
  | .outbound => {l with outbound := c}
  | .inbound => {l with inbound := c}

def close (reason : SessionCloseReason) : Step SessionDecision := do
  let l ← Action.read
  match l.state with
  | .established => do
    Action.modify fun l => {l with state := .closed reason}
    pure (.close reason)
  | .closed first => pure (.close first)

def idleDeadline (l : SessionLifetime) : Option Instant :=
  Instant.checkedAdd l.lastSuccessfulActivity l.limits.idleTimeout

def expireIfDue (now : Instant) : Step SessionDecision := do
  let l ← Action.read
  match l.state with
  | .closed reason => pure (.close reason)
  | .established =>
    match l.idleDeadline with
    | none => Action.fail .deadlineOverflow
    | some deadline => if deadline ≤ now then close .idleTimeout else pure .permit

def overPackets (limits : SessionLimits) (next : TrafficCounters) : TrafficDirection → Bool
  | .outbound => limits.maximumOutboundPackets < next.packets
  | .inbound => limits.maximumInboundPackets < next.packets

def overBytes (limits : SessionLimits) (next : TrafficCounters) : TrafficDirection → Bool
  | .outbound => limits.maximumOutboundPlaintextBytes < next.bytes
  | .inbound => limits.maximumInboundPlaintextBytes < next.bytes

def packetReason : TrafficDirection → SessionCloseReason
  | .outbound => .outboundPacketLimit
  | .inbound => .inboundPacketLimit

def byteReason : TrafficDirection → SessionCloseReason
  | .outbound => .outboundByteLimit
  | .inbound => .inboundByteLimit

def permit (direction : TrafficDirection) (plaintextBytes : UInt64) (now : Instant) :
    Step SessionDecision := do
  match (← expireIfDue now) with
  | .close reason => pure (.close reason)
  | .permit => do
    let l ← Action.read
    let next ← Action.ofExcept ((l.counters direction).next plaintextBytes)
    if overPackets l.limits next direction then close (packetReason direction)
    else if overBytes l.limits next direction then close (byteReason direction)
    else pure .permit

def recordSuccess (direction : TrafficDirection) (plaintextBytes : UInt64) (now : Instant) :
    Step Unit := do
  let l ← Action.read
  match l.state with
  | .closed reason => Action.fail (.recordAfterClose direction reason)
  | .established => do
    let next ← Action.ofExcept ((l.counters direction).next plaintextBytes)
    Action.modify fun l => {l.setCounters next direction with lastSuccessfulActivity := now}

def nextDeadline (l : SessionLifetime) : Except SessionLifetimeError (Option Instant) :=
  match l.state with
  | .closed _ => .ok none
  | .established =>
    match l.idleDeadline with
    | some deadline => .ok (some deadline)
    | none => .error .deadlineOverflow

end SessionLifetime

inductive DecryptOutcome where
  | plaintext (packet : Bytes)
  | headerBindingFailure
  | authenticationFailure
  deriving DecidableEq

variable {S : Snow}

def sealedPayload (header : DataFrameHeader) (packet : Bytes) : Bytes := headerBindingBytes header ++ packet

def encrypt (t : Transport S) (sequence : UInt64) (header : DataFrameHeader) (packet : Bytes) :
    Option Bytes :=
  t.write sequence (sealedPayload header packet) ((sealedPayload header packet).length + aeadTagLength)

def bound (header : DataFrameHeader) : Option Bytes → DecryptOutcome
  | none => .authenticationFailure
  | some plaintext =>
    if plaintext.length < dataHeaderLength ∨ plaintext.take dataHeaderLength ≠ headerBindingBytes header then
      .headerBindingFailure
    else .plaintext (plaintext.drop dataHeaderLength)

def opened (t : Transport S) (sequence : UInt64) (ciphertext : Bytes) : Option Bytes :=
  t.read sequence ciphertext ciphertext.length

def decrypt (t : Transport S) (sequence : UInt64) (header : DataFrameHeader) (ciphertext : Bytes) :
    DecryptOutcome := bound header (opened t sequence ciphertext)

theorem boundSealed {header result packet} (ok : bound header result = .plaintext packet) :
    result = some (sealedPayload header packet) := by
  cases result with
  | none => contradiction
  | some plaintext =>
    simp only [bound] at ok
    split at ok <;> try contradiction
    rename_i same
    rw [not_or, not_not] at same
    cases ok
    rw [sealedPayload, ← same.2, List.take_append_drop]

def firstSequence : UInt64 := 1
def sequenceExhausted : UInt64 := 0xFFFFFFFFFFFFFFFF

structure EstablishedDataSession (S : Snow) where
  metadata : EstablishedSessionMetadata
  peerEndpoint : SocketAddr
  sendDirection : DataDirection
  receiveDirection : DataDirection
  nextSendSequence : UInt64
  replayWindow : ReplayWindow
  transport : Transport S
  lifetime : SessionLifetime

namespace EstablishedDataSession

def client (metadata : EstablishedSessionMetadata) (peerEndpoint : SocketAddr) (transport : Transport S)
    (lifetime : SessionLifetime) : EstablishedDataSession S :=
  ⟨metadata, peerEndpoint, .clientToServer, .serverToClient, firstSequence, .new, transport, lifetime⟩

def server (metadata : EstablishedSessionMetadata) (peerEndpoint : SocketAddr) (transport : Transport S)
    (lifetime : SessionLifetime) : EstablishedDataSession S :=
  ⟨metadata, peerEndpoint, .serverToClient, .clientToServer, firstSequence, .new, transport, lifetime⟩

def allocateSendSequence : Action (EstablishedDataSession S) DataSessionError UInt64 := do
  let s ← Action.read
  if s.nextSendSequence = sequenceExhausted then Action.fail .sendSequenceExhausted
  else do
    Action.modify fun s => {s with nextSendSequence :=
      if s.nextSendSequence = maxSequence then sequenceExhausted else s.nextSendSequence + 1}
    pure s.nextSendSequence

def lived {α : Type} (x : SessionLifetime.Step α) : Action (EstablishedDataSession S) SessionLifetimeError α :=
  Action.within (·.lifetime) (fun s lifetime => {s with lifetime := lifetime}) x

def permit (direction : TrafficDirection) (plaintextBytes : UInt64) (now : Instant) :
    Action (EstablishedDataSession S) SessionLifetimeError SessionDecision :=
  lived (SessionLifetime.permit direction plaintextBytes now)

def recordSuccess (direction : TrafficDirection) (plaintextBytes : UInt64) (now : Instant) :
    Action (EstablishedDataSession S) SessionLifetimeError Unit :=
  lived (SessionLifetime.recordSuccess direction plaintextBytes now)

def expireIfDue (now : Instant) : Action (EstablishedDataSession S) SessionLifetimeError SessionDecision :=
  lived (SessionLifetime.expireIfDue now)

def nextDeadline (s : EstablishedDataSession S) : Except SessionLifetimeError (Option Instant) :=
  s.lifetime.nextDeadline

end EstablishedDataSession

theorem allocatedNat {s : UInt64} (live : s ≠ sequenceExhausted) :
    (if s = maxSequence then sequenceExhausted else s + 1).toNat = s.toNat + 1 := by
  split
  · rename_i last
    rw [last]
    rfl
  · rename_i inner
    have top : sequenceExhausted.toNat = 2 ^ 64 - 1 := rfl
    have below : s.toNat ≠ 2 ^ 64 - 1 := fun same => live (UInt64.toNat_inj.mp (same.trans top.symm))
    have range := u64Bound s
    have one : (1 : UInt64).toNat = 1 := rfl
    rw [addNat]
    · rw [one]
    · rw [one]
      simp only [u64Limit] at *
      omega

end Crabnet.DataSession
