import Crabnet.DataFrameExact
import Crabnet.HandshakeExact

/-! The version 1 frame (protocol/v1.rs), which carries a raw packet behind the
common header, and the separation of the three formats: version and message type
are read at the same offsets by all of them, so no datagram is in two. -/
namespace Crabnet.PlainFrame
open MachineWord SessionTypes Fallible WireHeader
open DataFrame (usizeCheckedAdd usizeAddSome usizeAddNone magic u16Limit usizeLimit DataFrameCodec)
open HandshakeCodec (V2HandshakeCodec)

def headerLen : Nat := 10

structure DecodedFrame where
  messageType : MessageType
  payload : Bytes
  deriving DecidableEq

inductive CodecConfigError where
  | zeroMtu
  | mtuNotRepresentable (mtu : Nat)
  | datagramLengthOverflow (mtu : Nat)
  deriving DecidableEq, Repr

inductive EncodeError where
  | emptyPayload
  | payloadTooLarge (size mtu : Nat)
  | payloadLengthNotRepresentable (size : Nat)
  | encodedLengthOverflow (payloadSize : Nat)
  | outputBufferTooSmall (required available : Nat)
  deriving DecidableEq, Repr

inductive DecodeError where
  | datagramTooShort (size minimum : Nat)
  | invalidMagic (observed : Bytes)
  | unsupportedVersion (observed : UInt8)
  | unknownMessageType (observed : UInt8)
  | unsupportedFlags (observed : Nat)
  | payloadLengthMismatch (declared actual : Nat)
  | emptyPayload
  | payloadTooLarge (size mtu : Nat)
  deriving DecidableEq, Repr

structure FrameCodec where
  mtu : Nat
  maximumDatagramLen : Nat
  mtuPositive : mtu ≠ 0
  mtuFits : mtu < u16Limit
  datagramIs : maximumDatagramLen = headerLen + mtu

namespace FrameCodec

def new (mtu : Nat) : Except CodecConfigError FrameCodec :=
  if positive : mtu = 0 then .error .zeroMtu
  else if fits : u16Limit ≤ mtu then .error (.mtuNotRepresentable mtu)
  else match datagram : usizeCheckedAdd headerLen mtu with
    | none => .error (.datagramLengthOverflow mtu)
    | some maximumDatagramLen =>
      match usizeCheckedAdd maximumDatagramLen 1 with
      | none => .error (.datagramLengthOverflow mtu)
      | some _ => .ok ⟨mtu, maximumDatagramLen, positive, Nat.lt_of_not_le fits, usizeAddSome datagram⟩

def encodedLen (codec : FrameCodec) (payloadLen : Nat) : Except EncodeError Nat :=
  if payloadLen = 0 then .error .emptyPayload
  else if codec.mtu < payloadLen then .error (.payloadTooLarge payloadLen codec.mtu)
  else match usizeCheckedAdd headerLen payloadLen with
    | none => .error (.encodedLengthOverflow payloadLen)
    | some encodedLen => .ok encodedLen

def frameBytes (payload : Bytes) : Bytes :=
  magic ++ (ProtocolVersion.v1.wireValue :: MessageType.data.wireValue :: be 2 0 ++ be 2 payload.length ++ payload)

-- The buffer is checked before the payload length is narrowed to its field.
def encodeData (codec : FrameCodec) (payload output : Bytes) : Except EncodeError Nat × Bytes :=
  match codec.encodedLen payload.length with
  | .error e => (.error e, output)
  | .ok encodedLen =>
    if output.length < encodedLen then (.error (.outputBufferTooSmall encodedLen output.length), output)
    else if u16Limit ≤ payload.length then (.error (.payloadLengthNotRepresentable payload.length), output)
    else (.ok encodedLen, overwrite output (frameBytes payload))

def decodeVersion (value : UInt8) : Except DecodeError ProtocolVersion :=
  if value = 1 then .ok .v1 else .error (.unsupportedVersion value)

def decodeMessageType (value : UInt8) : Except DecodeError MessageType :=
  if value = 1 then .ok .data else .error (.unknownMessageType value)

def decode (codec : FrameCodec) (datagram : Bytes) : Except DecodeError DecodedFrame :=
  if datagram.length < headerLen then .error (.datagramTooShort datagram.length headerLen)
  else if slice datagram 0 4 ≠ magic then .error (.invalidMagic (slice datagram 0 4))
  else match decodeVersion (byteAt datagram 4) with
    | .error e => .error e
    | .ok _ =>
      match decodeMessageType (byteAt datagram 5) with
      | .error e => .error e
      | .ok messageType =>
        if readBE (slice datagram 6 8) ≠ 0 then .error (.unsupportedFlags (readBE (slice datagram 6 8)))
        else
          let declared := readBE (slice datagram 8 10)
          let actual := datagram.length - headerLen
          if declared ≠ actual then .error (.payloadLengthMismatch declared actual)
          else if actual = 0 then .error .emptyPayload
          else if codec.mtu < actual then .error (.payloadTooLarge actual codec.mtu)
          else .ok ⟨messageType, datagram.drop headerLen⟩

end FrameCodec

theorem newMtu {mtu codec} (ok : FrameCodec.new mtu = .ok codec) : codec.mtu = mtu := by
  unfold FrameCodec.new at ok
  iterate 4 split at ok <;> try contradiction
  cases Except.ok.inj ok
  rfl

theorem frameSplit (payload : Bytes) : FrameCodec.frameBytes payload =
    commonHeader ProtocolVersion.v1.wireValue MessageType.data.wireValue payload.length ++ payload := by
  simp [FrameCodec.frameBytes, commonHeader]

@[simp] theorem frameLength (payload : Bytes) : (FrameCodec.frameBytes payload).length = payload.length + 10 := by
  rw [frameSplit, List.length_append, headerLength, Nat.add_comm]

structure Form (codec : FrameCodec) (datagram : Bytes) (frame : DecodedFrame) : Prop where
  image : datagram = FrameCodec.frameBytes frame.payload
  data : frame.messageType = .data
  positive : 1 ≤ frame.payload.length
  small : frame.payload.length ≤ codec.mtu

theorem decodeForm {codec : FrameCodec} {datagram frame} (ok : codec.decode datagram = .ok frame) :
    Form codec datagram frame := by
  unfold FrameCodec.decode at ok
  obtain ⟨long, ok⟩ := passed ok
  obtain ⟨magical, ok⟩ := passed ok
  split at ok <;> try contradiction
  rename_i version versioned
  split at ok <;> try contradiction
  rename_i kind typed
  obtain ⟨flags, ok⟩ := passed ok
  obtain ⟨declared, ok⟩ := passed ok
  obtain ⟨full, ok⟩ := passed ok
  obtain ⟨small, ok⟩ := passed ok
  cases Except.ok.inj ok
  unfold FrameCodec.decodeVersion at versioned
  unfold FrameCodec.decodeMessageType at typed
  split at versioned <;> try contradiction
  split at typed <;> try contradiction
  rename_i one data
  cases Except.ok.inj typed
  simp only [ne_eq, not_not, headerLen] at *
  have image := headerImage (by omega) magical flags
  refine ⟨?_, rfl, ?_, ?_⟩
  · rw [frameSplit, List.length_drop, ← declared, show ProtocolVersion.v1.wireValue = byteAt datagram 4 from one.symm,
      show MessageType.data.wireValue = byteAt datagram 5 from data.symm]
    exact image
  · rw [List.length_drop]
    omega
  · rw [List.length_drop]
    omega

theorem decodeComplete {codec : FrameCodec} {datagram frame} (form : Form codec datagram frame) :
    codec.decode datagram = .ok frame := by
  obtain ⟨kind, payload⟩ := frame
  obtain ⟨image, data, positive, small⟩ := form
  simp only at image data positive small
  have fits : payload.length < u16Limit := Nat.lt_of_le_of_lt small codec.mtuFits
  have common := headerReads fits ProtocolVersion.v1.wireValue MessageType.data.wireValue payload
  rw [← frameSplit, ← image] at common
  have size := common.size
  have long : ¬ datagram.length < headerLen := by
    simp only [headerLen]
    omega
  have actual : datagram.length - headerLen = payload.length := by
    simp only [headerLen]
    omega
  have rest : datagram.drop headerLen = payload := common.body
  unfold FrameCodec.decode
  rw [if_neg long, if_neg (not_not.mpr common.magical)]
  simp only [common.version, common.kind, FrameCodec.decodeVersion, FrameCodec.decodeMessageType,
    ProtocolVersion.wireValue, MessageType.wireValue, if_true]
  rw [if_neg (not_not.mpr common.flags)]
  simp only [common.declared, actual, rest]
  rw [if_neg (not_not.mpr rfl), if_neg (Nat.ne_of_gt positive), if_neg (Nat.not_lt_of_le small), data]

theorem encodedKnown {codec : FrameCodec} {n : Nat} (positive : 1 ≤ n) (small : n ≤ codec.mtu) :
    codec.encodedLen n = .ok (n + 10) := by
  have fits := codec.mtuFits
  simp only [u16Limit] at fits
  unfold FrameCodec.encodedLen
  rw [if_neg (by omega), if_neg (by omega)]
  split
  · rename_i overflow
    have beyond := usizeAddNone overflow
    simp only [usizeLimit, headerLen] at beyond
    omega
  · rename_i total sum
    rw [usizeAddSome sum, headerLen, Nat.add_comm]

theorem encodeWrites {codec : FrameCodec} {payload output : Bytes} (positive : 1 ≤ payload.length)
    (small : payload.length ≤ codec.mtu) (room : payload.length + 10 ≤ output.length) :
    codec.encodeData payload output =
      (.ok (payload.length + 10), FrameCodec.frameBytes payload ++ output.drop (payload.length + 10)) := by
  have fits : ¬ u16Limit ≤ payload.length := Nat.not_le_of_lt (Nat.lt_of_le_of_lt small codec.mtuFits)
  unfold FrameCodec.encodeData
  rw [encodedKnown positive small]
  simp only [Nat.not_lt_of_le room, fits, if_false, overwrite, frameLength]

theorem encodeRefused {codec : FrameCodec} {payload output e out}
    (failed : codec.encodeData payload output = (.error e, out)) : out = output := by
  unfold FrameCodec.encodeData at failed
  split at failed
  · exact (Prod.mk.inj failed).2.symm
  split at failed
  · exact (Prod.mk.inj failed).2.symm
  split at failed
  · exact (Prod.mk.inj failed).2.symm
  · exact absurd (Prod.mk.inj failed).1 (by simp)

theorem encodeAccepted {codec : FrameCodec} {payload output length out}
    (done : codec.encodeData payload output = (.ok length, out)) :
    1 ≤ payload.length ∧ payload.length ≤ codec.mtu ∧ payload.length + 10 ≤ output.length := by
  unfold FrameCodec.encodeData at done
  split at done
  · exact absurd (Prod.mk.inj done).1 (by simp)
  rename_i total known
  unfold FrameCodec.encodedLen at known
  obtain ⟨full, known⟩ := passed known
  obtain ⟨small, known⟩ := passed known
  split at known <;> try contradiction
  rename_i sum
  cases Except.ok.inj known
  have size := usizeAddSome sum
  simp only [headerLen] at size
  split at done
  · exact absurd (Prod.mk.inj done).1 (by simp)
  · omega

theorem encodedBuffer {codec : FrameCodec} {payload output length out}
    (done : codec.encodeData payload output = (.ok length, out)) :
    out.length = output.length ∧ out.drop length = output.drop length := by
  obtain ⟨positive, small, room⟩ := encodeAccepted done
  have written := (encodeWrites positive small room).symm.trans done
  obtain ⟨lengths, bytes⟩ := Prod.mk.inj written
  cases Except.ok.inj lengths
  rw [← bytes]
  refine ⟨?_, List.drop_left' (frameLength payload)⟩
  rw [List.length_append, frameLength, List.length_drop]
  exact Nat.add_sub_cancel' room

structure Encoding (codec : FrameCodec) (payload datagram : Bytes) : Prop where
  positive : 1 ≤ payload.length
  small : payload.length ≤ codec.mtu
  size : datagram.length = payload.length + 10
  written : ∀ output, payload.length + 10 ≤ output.length → codec.encodeData payload output =
    (.ok (payload.length + 10), datagram ++ output.drop (payload.length + 10))

theorem encodes {codec : FrameCodec} {payload : Bytes} (positive : 1 ≤ payload.length)
    (small : payload.length ≤ codec.mtu) : Encoding codec payload (FrameCodec.frameBytes payload) :=
  ⟨positive, small, frameLength payload, fun _ room => encodeWrites positive small room⟩

theorem encodingForm {codec : FrameCodec} {payload datagram} (encoding : Encoding codec payload datagram) :
    Form codec datagram ⟨.data, payload⟩ := by
  obtain ⟨positive, small, size, written⟩ := encoding
  have here := (written (List.replicate (payload.length + 10) 0) (by simp)).symm.trans
    (encodeWrites positive small (by simp))
  exact ⟨(List.append_inj (Prod.mk.inj here).2 (size.trans (frameLength payload).symm)).1, rfl, positive, small⟩

theorem plainReads {codec : FrameCodec} {datagram frame} (ok : codec.decode datagram = .ok frame) :
    byteAt datagram 4 = ProtocolVersion.v1.wireValue := by
  have form := decodeForm ok
  have fits := Nat.lt_of_le_of_lt form.small codec.mtuFits
  rw [form.image, frameSplit]
  exact (headerReads fits _ _ _).version

theorem handshakeReads {codec : V2HandshakeCodec} {datagram frame} (ok : codec.decode datagram = .ok frame) :
    byteAt datagram 4 = ProtocolVersion.v2.wireValue ∧ byteAt datagram 5 ≠ MessageType.data.wireValue := by
  have form := HandshakeExact.decodeForm ok
  have fits : HandshakeCodec.attemptIdLength + frame.body.opaquePayload.length < u16Limit :=
    Nat.lt_of_le_of_lt (Nat.add_le_add_left form.small _) codec.bodyFits
  rw [form.image, HandshakeExact.frameSplit]
  have common := headerReads fits ProtocolVersion.v2.wireValue (HandshakeExact.kindOf frame).wireValue
    (toBeBytes64 frame.body.clientAttemptId.value ++ frame.body.opaquePayload)
  rw [common.version, common.kind]
  refine ⟨rfl, ?_⟩
  cases frame <;> simp [HandshakeExact.kindOf, MessageType.wireValue]

theorem dataReads {codec : DataFrameCodec} {datagram frame} (ok : codec.decodeData datagram = .ok frame) :
    byteAt datagram 4 = ProtocolVersion.v2.wireValue ∧ byteAt datagram 5 = MessageType.data.wireValue := by
  rw [(DataFrame.decodeWellFormed ok).image, DataFrameExact.headerSplit, List.append_assoc]
  have common := headerReads frame.header.bodyLength.toNat_lt ProtocolVersion.v2.wireValue
    MessageType.data.wireValue (DataFrameExact.headerTail frame.header ++ frame.ciphertext)
  exact ⟨common.version, common.kind⟩

theorem plainFrameFormat :
    (∀ mtu codec, FrameCodec.new mtu = .ok codec →
      (∀ payload output : Bytes, 1 ≤ payload.length → payload.length ≤ mtu → payload.length + 10 ≤ output.length →
        ∃ datagram, codec.encodeData payload output =
            (.ok (payload.length + 10), datagram ++ output.drop (payload.length + 10)) ∧
          datagram.length = payload.length + 10 ∧ codec.decode datagram = .ok ⟨.data, payload⟩) ∧
      (∀ datagram, (∃ frame, codec.decode datagram = .ok frame) ↔ ∃ payload, Encoding codec payload datagram) ∧
      (∀ datagram frame, codec.decode datagram = .ok frame → ∀ output, datagram.length ≤ output.length →
        codec.encodeData frame.payload output = (.ok datagram.length, datagram ++ output.drop datagram.length)) ∧
      (∀ payload output e out, codec.encodeData payload output = (.error e, out) → out = output) ∧
      ∀ payload output length out, codec.encodeData payload output = (.ok length, out) →
        out.length = output.length ∧ out.drop length = output.drop length) ∧
    ∀ (plain : FrameCodec) (handshake : V2HandshakeCodec) (data : DataFrameCodec) (datagram : Bytes),
      ¬ ((∃ frame, plain.decode datagram = .ok frame) ∧ ∃ frame, handshake.decode datagram = .ok frame) ∧
      ¬ ((∃ frame, plain.decode datagram = .ok frame) ∧ ∃ frame, data.decodeData datagram = .ok frame) ∧
      ¬ ((∃ frame, handshake.decode datagram = .ok frame) ∧ ∃ frame, data.decodeData datagram = .ok frame) := by
  refine ⟨?_, ?_⟩
  · intro mtu codec accepted
    rw [← newMtu accepted]
    refine ⟨?_, ?_, ?_, fun _ _ _ _ => encodeRefused, fun _ _ _ _ => encodedBuffer⟩
    · intro payload output positive small room
      have encoding := encodes positive small
      exact ⟨_, encoding.written output room, encoding.size, decodeComplete (encodingForm encoding)⟩
    · intro datagram
      constructor
      · intro ⟨frame, ok⟩
        have form := decodeForm ok
        refine ⟨frame.payload, ?_⟩
        rw [form.image]
        exact encodes form.positive form.small
      · intro ⟨payload, encoding⟩
        exact ⟨_, decodeComplete (encodingForm encoding)⟩
    · intro datagram frame ok output room
      have form := decodeForm ok
      have size : datagram.length = frame.payload.length + 10 := by rw [form.image, frameLength]
      have written := encodeWrites form.positive form.small (size ▸ room)
      rw [← size, ← form.image] at written
      exact written
  · intro plain handshake data datagram
    refine ⟨?_, ?_, ?_⟩
    · intro ⟨⟨_, left⟩, _, right⟩
      exact absurd ((plainReads left).symm.trans (handshakeReads right).1) (by decide)
    · intro ⟨⟨_, left⟩, _, right⟩
      exact absurd ((plainReads left).symm.trans (dataReads right).1) (by decide)
    · intro ⟨⟨_, left⟩, _, right⟩
      exact (handshakeReads left).2 (dataReads right).2

end Crabnet.PlainFrame
