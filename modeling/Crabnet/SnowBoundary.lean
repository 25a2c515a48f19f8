import Crabnet.MachineWord
import Mathlib.Data.List.Nodup

/-! The Noise library as the code calls it. Its states and its randomness are
opaque; a call either fails, with details the code discards, or gives bytes.
Every transport is numbered when it is made, and its calls are kept in a log. -/
namespace Crabnet.SnowBoundary
open MachineWord

structure Snow where
  Params : Type
  HandshakeState : Type
  TransportState : Type
  Entropy : Type
  parse : String → Option Params
  buildInitiator : Params → (localPrivate remotePublic prologue : Bytes) → Option HandshakeState
  buildResponder : Params → (localPrivate prologue : Bytes) → Option HandshakeState
  writeMessage : HandshakeState → Entropy → Bytes → Option (Bytes × HandshakeState)
  readMessage : HandshakeState → Bytes → Option Bytes × HandshakeState
  getRemoteStatic : HandshakeState → Option Bytes
  getHandshakeHash : HandshakeState → Bytes
  intoStatelessTransportMode : HandshakeState → Option TransportState
  transportWrite : TransportState → UInt64 → Bytes → Option Bytes
  transportRead : TransportState → UInt64 → Bytes → Option Bytes

-- A result that does not fit the caller's buffer is an error of the call.
def fitted (available : Nat) (result : Option Bytes) : Option Bytes :=
  result.filter fun raw => decide (raw.length ≤ available)

theorem fittedSome {available result raw} (ok : fitted available result = some raw) :
    result = some raw ∧ raw.length ≤ available := by
  simpa [fitted, Option.filter_eq_some_iff] using ok

structure Transport (S : Snow) where
  state : S.TransportState
  handle : Nat

namespace Transport
variable {S : Snow}

def write (t : Transport S) (nonce : UInt64) (payload : Bytes) (available : Nat) : Option Bytes :=
  fitted available (S.transportWrite t.state nonce payload)

def read (t : Transport S) (nonce : UInt64) (message : Bytes) (available : Nat) : Option Bytes :=
  fitted available (S.transportRead t.state nonce message)

end Transport

structure NoiseCall where
  nonce : UInt64
  input : Bytes
  result : Option Bytes
  deriving DecidableEq

structure NoiseSession where
  prologue : Bytes
  localPrivate : Bytes
  remoteStatic : Bytes
  clientHello : Bytes
  serverHello : Bytes
  hash : FixedBytes 32
  deriving DecidableEq

/- Everything one end did with the library: its sessions in the order of their
transports' numbers, and each call under the number of its transport. -/
structure NoiseHistory where
  opened : List NoiseSession
  writes : List (Nat × NoiseCall)
  reads : List (Nat × NoiseCall)
  deriving DecidableEq

def NoiseHistory.empty : NoiseHistory := ⟨[], [], []⟩

def NoiseHistory.open_ (h : NoiseHistory) (session : NoiseSession) : NoiseHistory :=
  {h with opened := h.opened ++ [session]}

def NoiseHistory.wrote (h : NoiseHistory) (handle : Nat) (call : NoiseCall) : NoiseHistory :=
  {h with writes := h.writes ++ [(handle, call)]}

def NoiseHistory.read_ (h : NoiseHistory) (handle : Nat) (call : NoiseCall) : NoiseHistory :=
  {h with reads := h.reads ++ [(handle, call)]}

structure Logged (h : NoiseHistory) : Prop where
  numbered : ∀ write ∈ h.writes, write.1 < h.opened.length ∧ write.2.nonce = 0
  once : (h.writes.map Prod.fst).Nodup

structure Unused (h : NoiseHistory) (handle : Nat) : Prop where
  opened : handle < h.opened.length
  unwritten : handle ∉ h.writes.map Prod.fst

theorem loggedOpen {h : NoiseHistory} (logged : Logged h) (session) : Logged (h.open_ session) := by
  refine ⟨?_, logged.once⟩
  intro write member
  obtain ⟨below, zero⟩ := logged.numbered write member
  refine ⟨?_, zero⟩
  simp only [NoiseHistory.open_, List.length_append, List.length_singleton]
  exact Nat.lt_succ_of_lt below

theorem loggedWrote {h : NoiseHistory} {handle call} (logged : Logged h) (unused : Unused h handle)
    (zero : call.nonce = 0) : Logged (h.wrote handle call) := by
  constructor
  · intro write member
    rcases List.mem_append.mp member with old | new
    · exact logged.numbered write old
    · cases List.mem_singleton.mp new
      exact ⟨unused.opened, zero⟩
  · simp only [NoiseHistory.wrote, List.map_append, List.map_cons, List.map_nil]
    refine List.nodup_append.mpr ⟨logged.once, List.nodup_singleton _, ?_⟩
    intro a held b last same
    rw [List.mem_singleton] at last
    rw [same, last] at held
    exact unused.unwritten held

theorem unusedNext {h : NoiseHistory} (logged : Logged h) (session) : Unused (h.open_ session) h.opened.length := by
  refine ⟨by simp [NoiseHistory.open_], ?_⟩
  intro used
  obtain ⟨write, member, same⟩ := List.mem_map.mp used
  have below := (logged.numbered write member).1
  rw [same] at below
  exact absurd below (Nat.lt_irrefl _)

theorem unusedOpen {h : NoiseHistory} {handle} (unused : Unused h handle) (session) :
    Unused (h.open_ session) handle := by
  refine ⟨?_, unused.unwritten⟩
  simp only [NoiseHistory.open_, List.length_append, List.length_singleton]
  exact Nat.lt_succ_of_lt unused.opened

/-! The message layout of the library without its keys: every message and every
length is as the pattern has it, and a tag that only names the nonce stands for
the authenticator. It lets the model be evaluated. -/

def plainTag (nonce : UInt64) : Bytes := be 16 nonce.toNat
def plainSeal (nonce : UInt64) (payload : Bytes) : Bytes := payload ++ plainTag nonce

def plainOpen (nonce : UInt64) (message : Bytes) : Option Bytes :=
  if 16 ≤ message.length ∧ message.drop (message.length - 16) = plainTag nonce then
    some (message.take (message.length - 16))
  else none

structure PlainHandshake where
  initiator : Bool
  localKey : Bytes
  remoteKey : Option Bytes
  prologue : Bytes

def plainWrite (h : PlainHandshake) (payload : Bytes) : Bytes :=
  List.replicate 32 0 ++ (if h.initiator then plainSeal 0 h.localKey else []) ++ plainSeal 0 payload

def plainRead (h : PlainHandshake) (message : Bytes) : Option Bytes × PlainHandshake :=
  if h.initiator then (plainOpen 0 (message.drop 32), h)
  else match plainOpen 0 (slice message 32 80) with
    | none => (none, h)
    | some key => (plainOpen 0 (message.drop 80), {h with remoteKey := some key})

def plainSnow : Snow where
  Params := Unit
  HandshakeState := PlainHandshake
  TransportState := Unit
  Entropy := Unit
  parse _ := some ()
  buildInitiator _ localPrivate remotePublic prologue := some ⟨true, localPrivate, some remotePublic, prologue⟩
  buildResponder _ localPrivate prologue := some ⟨false, localPrivate, none, prologue⟩
  writeMessage h _ payload := some (plainWrite h payload, h)
  readMessage := plainRead
  getRemoteStatic := PlainHandshake.remoteKey
  getHandshakeHash h := (FixedBytes.copyFrom 32 h.prologue).toList
  intoStatelessTransportMode _ := some ()
  transportWrite _ nonce payload := some (plainSeal nonce payload)
  transportRead _ nonce message := plainOpen nonce message

end Crabnet.SnowBoundary
