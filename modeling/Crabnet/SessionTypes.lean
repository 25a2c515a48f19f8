import Crabnet.MachineWord

/-! Identifiers, endpoints, instants and wire discriminators shared by every
layer. An instant is a count of nanoseconds; the platform represents those
below 2^63 seconds, and `checkedAdd` is the only way the code moves one. -/
namespace Crabnet.SessionTypes
open MachineWord

inductive SocketAddr where
  | v4 (ip : BitVec 32) (port : UInt16)
  | v6 (ip : BitVec 128) (port : UInt16) (flowinfo scopeId : UInt32)
  deriving DecidableEq, Repr

abbrev Instant := Nat
abbrev Duration := Nat

def nanosPerSecond : Nat := 1000000000
def instantLimit : Nat := 2 ^ 63 * nanosPerSecond

def Instant.checkedAdd (now : Instant) (d : Duration) : Option Instant :=
  if now + d < instantLimit then some (now + d) else none

structure CandidateId where
  value : UInt64
  deriving DecidableEq, Repr

structure ClientAttemptId where
  value : UInt64
  deriving DecidableEq, Repr

structure SessionId where
  bytes : FixedBytes 32
  deriving DecidableEq

structure PeerIdentity where
  bytes : FixedBytes 32
  deriving DecidableEq

structure EstablishedSessionMetadata where
  sessionId : SessionId
  peerIdentity : PeerIdentity
  deriving DecidableEq

inductive ProtocolVersion where
  | v1 | v2
  deriving DecidableEq, Repr

def ProtocolVersion.wireValue : ProtocolVersion → UInt8
  | .v1 => 1
  | .v2 => 2

inductive MessageType where
  | data | clientHello | serverHello | clientFinish | serverFinish
  deriving DecidableEq, Repr

def MessageType.wireValue : MessageType → UInt8
  | .data => 1
  | .clientHello => 2
  | .serverHello => 3
  | .clientFinish => 4
  | .serverFinish => 5

end Crabnet.SessionTypes
