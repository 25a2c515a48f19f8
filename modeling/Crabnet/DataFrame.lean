import Crabnet.ReplayHistory
import Crabnet.SessionTypes

/-! The encrypted data frame (data_plane/frame.rs): a 51-byte header that is
also sealed inside the ciphertext, and a body whose declared length is exact.
Whatever decodes is its own header image followed by its ciphertext. -/
namespace Crabnet.DataFrame
open Fallible MachineWord SessionTypes ReplayHistory

def dataHeaderLength : Nat := 51
def dataBodyFixedLength : Nat := 41
def udpPayloadCeiling : Nat := 65507
def aeadTagLength : Nat := 16
def dataTransportOverhead : Nat := dataHeaderLength + aeadTagLength
def minimumDataCiphertextLength : Nat := dataTransportOverhead + 1
def magic : Bytes := [67, 82, 66, 78]
def usizeLimit : Nat := 2 ^ 64
def u16Limit : Nat := 2 ^ 16

inductive DataFrameCodecConfigError where
  | zeroMaximumPlaintext
  | zeroMaximumCiphertext
  | bodyLengthNotRepresentable (maximumCiphertext maximumBodyLength : Nat)
  | datagramExceedsUdpCeiling (maximumDatagramLength ceiling : Nat)
  | derivedLengthOverflow (maximumCiphertext : Nat)
  deriving DecidableEq, Repr

inductive DataDirection where
  | clientToServer | serverToClient
  deriving DecidableEq, Repr

inductive DataFrameEncodeError where
  | zeroSessionId
  | invalidSequence (observed : UInt64)
  | emptyPlaintext
  | plaintextTooLarge (size maximum : Nat)
  | ciphertextTooLarge (size maximum : Nat)
  | ciphertextLengthMismatch (declared actual : Nat)
  | bodyLengthNotRepresentable (bodyLength : Nat)
  | encodedLengthOverflow (ciphertextLength : Nat)
  | outputBufferTooSmall (required available : Nat)
  deriving DecidableEq, Repr

inductive DataFrameDecodeError where
  | datagramTooShort (size minimum : Nat)
  | datagramTooLarge (size maximum : Nat)
  | invalidMagic
  | unsupportedVersion (observed : UInt8)
  | unsupportedMessageType (observed : UInt8)
  | unsupportedFlags (observed : Nat)
  | bodyLengthMismatch (declared actual : Nat)
  | dataBodyTooShort (size minimum : Nat)
  | zeroSessionId
  | invalidDirection (observed : UInt8)
  | invalidSequence (observed : UInt64)
  deriving DecidableEq, Repr

namespace DataDirection

def wireValue : DataDirection → UInt8
  | clientToServer => 0
  | serverToClient => 1

def fromWireValue (observed : UInt8) : Except DataFrameDecodeError DataDirection :=
  if observed = 0 then .ok clientToServer
  else if observed = 1 then .ok serverToClient
  else .error (.invalidDirection observed)

theorem fromWireSound {observed d} (ok : fromWireValue observed = .ok d) : d.wireValue = observed := by
  simp only [fromWireValue] at ok
  split at ok
  · cases ok
    exact Eq.symm ‹_›
  · split at ok <;> try contradiction
    cases ok
    exact Eq.symm ‹_›

theorem wireInj {a b : DataDirection} (same : a.wireValue = b.wireValue) : a = b := by
  cases a <;> cases b <;> first | rfl | exact absurd same (by decide)

end DataDirection

structure DataFrameHeader where
  bodyLength : UInt16
  sessionId : SessionId
  direction : DataDirection
  sequence : UInt64
  deriving DecidableEq

structure DecodedDataFrame where
  header : DataFrameHeader
  ciphertext : Bytes
  deriving DecidableEq

structure DataFrameCodec where
  maximumPlaintextPayload : Nat
  maximumCiphertext : Nat
  maximumDatagramLength : Nat
  plaintextPositive : maximumPlaintextPayload ≠ 0
  ciphertextIs : maximumCiphertext = maximumPlaintextPayload + dataTransportOverhead
  bodyFits : dataBodyFixedLength + maximumCiphertext < u16Limit
  datagramIs : maximumDatagramLength = dataHeaderLength + maximumCiphertext
  datagramFits : maximumDatagramLength ≤ udpPayloadCeiling
  deriving DecidableEq

def usizeCheckedAdd (a b : Nat) : Option Nat := if a + b < usizeLimit then some (a + b) else none

theorem usizeAddSome {a b c : Nat} (ok : usizeCheckedAdd a b = some c) : c = a + b := by
  simp only [usizeCheckedAdd] at ok
  split at ok <;> try contradiction
  exact (Option.some.inj ok).symm

theorem usizeAddNone {a b : Nat} (failed : usizeCheckedAdd a b = none) : usizeLimit ≤ a + b := by
  simp only [usizeCheckedAdd] at failed
  split at failed <;> try contradiction
  exact Nat.le_of_not_lt ‹_›

theorem usizeAddFits {a b : Nat} (fits : a + b < usizeLimit) : usizeCheckedAdd a b = some (a + b) := by
  simp only [usizeCheckedAdd, fits, if_true]

theorem u16OfNat {n : Nat} (fits : n < u16Limit) : (UInt16.ofNat n).toNat = n := by
  rw [UInt16.toNat_ofNat']
  exact Nat.mod_eq_of_lt fits

def isZero (id : SessionId) : Bool := id.bytes.toList.all (· == 0)

def headerBindingBytes (h : DataFrameHeader) : Bytes :=
  magic ++ (ProtocolVersion.v2.wireValue :: MessageType.data.wireValue :: be 2 0 ++
    be 2 h.bodyLength.toNat ++ h.sessionId.bytes.toList ++ h.direction.wireValue ::
    toBeBytes64 h.sequence)

@[simp] theorem headerBindingLength (h : DataFrameHeader) : (headerBindingBytes h).length = 51 := by
  simp [headerBindingBytes, magic, h.sessionId.bytes.sized, toBeBytes64]

namespace DataFrameCodec

def new (maximumPlaintextPayload : Nat) : Except DataFrameCodecConfigError DataFrameCodec :=
  if positive : maximumPlaintextPayload = 0 then .error .zeroMaximumPlaintext
  else match ciphertext : usizeCheckedAdd maximumPlaintextPayload dataTransportOverhead with
    | none => .error .zeroMaximumCiphertext
    | some maximumCiphertext =>
      match body : usizeCheckedAdd dataBodyFixedLength maximumCiphertext with
      | none => .error (.bodyLengthNotRepresentable maximumCiphertext dataBodyFixedLength)
      | some maximumBodyLength =>
        if fits : u16Limit ≤ maximumBodyLength then
          .error (.bodyLengthNotRepresentable maximumCiphertext dataBodyFixedLength)
        else match datagram : usizeCheckedAdd dataHeaderLength maximumCiphertext with
          | none => .error (.derivedLengthOverflow maximumCiphertext)
          | some maximumDatagramLength =>
            if ceiling : udpPayloadCeiling < maximumDatagramLength then
              .error (.datagramExceedsUdpCeiling maximumDatagramLength udpPayloadCeiling)
            else .ok ⟨maximumPlaintextPayload, maximumCiphertext, maximumDatagramLength, positive,
              usizeAddSome ciphertext, by rw [← usizeAddSome body]; exact Nat.lt_of_not_le fits,
              usizeAddSome datagram, Nat.le_of_not_lt ceiling⟩

def buildDataHeader (codec : DataFrameCodec) (sessionId : SessionId) (direction : DataDirection)
    (sequence : UInt64) (plaintextLength : Nat) : Except DataFrameEncodeError DataFrameHeader :=
  if isZero sessionId then .error .zeroSessionId
  else if sequence = 0 ∨ maxSequence < sequence then .error (.invalidSequence sequence)
  else if plaintextLength = 0 then .error .emptyPlaintext
  else if codec.maximumPlaintextPayload < plaintextLength then
    .error (.plaintextTooLarge plaintextLength codec.maximumPlaintextPayload)
  else match usizeCheckedAdd plaintextLength dataTransportOverhead with
    | none => .error (.encodedLengthOverflow plaintextLength)
    | some ciphertextLength =>
      match usizeCheckedAdd dataBodyFixedLength ciphertextLength with
      | none => .error (.encodedLengthOverflow ciphertextLength)
      | some bodyLength =>
        if u16Limit ≤ bodyLength then .error (.bodyLengthNotRepresentable bodyLength)
        else .ok ⟨UInt16.ofNat bodyLength, sessionId, direction, sequence⟩

-- The length written to the front of `output`, and the buffer after the call.
def encodeData (codec : DataFrameCodec) (header : DataFrameHeader) (ciphertext output : Bytes) :
    Except DataFrameEncodeError Nat × Bytes :=
  if ciphertext.length < minimumDataCiphertextLength then
    (.error (.ciphertextLengthMismatch minimumDataCiphertextLength ciphertext.length), output)
  else if codec.maximumCiphertext < ciphertext.length then
    (.error (.ciphertextTooLarge ciphertext.length codec.maximumCiphertext), output)
  else if ciphertext.length ≠ header.bodyLength.toNat - dataBodyFixedLength then
    (.error (.ciphertextLengthMismatch (header.bodyLength.toNat - dataBodyFixedLength)
      ciphertext.length), output)
  else match usizeCheckedAdd ciphertext.length dataHeaderLength with
    | none => (.error (.encodedLengthOverflow ciphertext.length), output)
    | some encodedLength =>
      if output.length < encodedLength then
        (.error (.outputBufferTooSmall encodedLength output.length), output)
      else (.ok encodedLength, overwrite output (headerBindingBytes header ++ ciphertext))

def decodeData (codec : DataFrameCodec) (datagram : Bytes) :
    Except DataFrameDecodeError DecodedDataFrame :=
  if datagram.length < 10 then .error (.datagramTooShort datagram.length 10)
  else if codec.maximumDatagramLength < datagram.length then
    .error (.datagramTooLarge datagram.length codec.maximumDatagramLength)
  else if slice datagram 0 4 ≠ magic then .error .invalidMagic
  else if byteAt datagram 4 ≠ ProtocolVersion.v2.wireValue then
    .error (.unsupportedVersion (byteAt datagram 4))
  else if byteAt datagram 5 ≠ MessageType.data.wireValue then
    .error (.unsupportedMessageType (byteAt datagram 5))
  else if readBE (slice datagram 6 8) ≠ 0 then
    .error (.unsupportedFlags (readBE (slice datagram 6 8)))
  else
    let declared := readBE (slice datagram 8 10)
    let actual := datagram.length - 10
    if declared ≠ actual then .error (.bodyLengthMismatch declared actual)
    else if actual < dataBodyFixedLength + minimumDataCiphertextLength then
      .error (.dataBodyTooShort actual (dataBodyFixedLength + minimumDataCiphertextLength))
    else
      let sessionId : SessionId := ⟨.copyFrom 32 (slice datagram 10 42)⟩
      if isZero sessionId then .error .zeroSessionId
      else match DataDirection.fromWireValue (byteAt datagram 42) with
        | .error e => .error e
        | .ok direction =>
          let sequence := fromBeBytes64 (slice datagram 43 51)
          if sequence = 0 ∨ maxSequence < sequence then .error (.invalidSequence sequence)
          else .ok ⟨⟨UInt16.ofNat declared, sessionId, direction, sequence⟩, datagram.drop 51⟩

end DataFrameCodec

theorem sequenceInRange {s : UInt64} (ok : ¬ (s = 0 ∨ maxSequence < s)) : inRange s := by
  rw [not_or] at ok
  have top : maxSequence.toNat = 2 ^ 64 - 2 := rfl
  have low : s.toNat ≠ 0 := fun zero => ok.1 (UInt64.toNat_inj.mp zero)
  have high := ok.2
  rw [UInt64.lt_iff_toNat_lt, top] at high
  exact ⟨Nat.one_le_iff_ne_zero.mpr low, Nat.le_of_not_lt high⟩

theorem beBytes {raw : Bytes} {width : Nat} (sized : raw.length = width) : be width (readBE raw) = raw := by
  subst sized
  exact beRead raw

structure WellFormed (codec : DataFrameCodec) (datagram : Bytes) (frame : DecodedDataFrame) : Prop where
  image : datagram = headerBindingBytes frame.header ++ frame.ciphertext
  body : frame.header.bodyLength.toNat = dataBodyFixedLength + frame.ciphertext.length
  ranged : inRange frame.header.sequence
  named : isZero frame.header.sessionId = false
  atLeast : minimumDataCiphertextLength ≤ frame.ciphertext.length
  atMost : frame.ciphertext.length ≤ codec.maximumCiphertext

theorem imageOf {datagram : Bytes} (size : 51 ≤ datagram.length) (magical : slice datagram 0 4 = magic)
    (version : byteAt datagram 4 = ProtocolVersion.v2.wireValue)
    (kind : byteAt datagram 5 = MessageType.data.wireValue) (flags : readBE (slice datagram 6 8) = 0)
    {direction} (way : DataDirection.fromWireValue (byteAt datagram 42) = .ok direction) :
    datagram = headerBindingBytes ⟨UInt16.ofNat (readBE (slice datagram 8 10)),
      ⟨.copyFrom 32 (slice datagram 10 42)⟩, direction, fromBeBytes64 (slice datagram 43 51)⟩ ++
      datagram.drop 51 := by
  have cut : datagram = slice datagram 0 4 ++ (byteAt datagram 4 :: byteAt datagram 5 ::
      slice datagram 6 8 ++ slice datagram 8 10 ++ slice datagram 10 42 ++
      byteAt datagram 42 :: slice datagram 43 51) ++ datagram.drop 51 := by
    conv_lhs => rw [← List.drop_zero (l := datagram)]
    rw [dropSlice datagram (show 0 ≤ 4 by omega), dropByte (show 4 < datagram.length by omega),
      dropByte (show 5 < datagram.length by omega), dropSlice datagram (show 6 ≤ 8 by omega),
      dropSlice datagram (show 8 ≤ 10 by omega), dropSlice datagram (show 10 ≤ 42 by omega),
      dropByte (show 42 < datagram.length by omega), dropSlice datagram (show 43 ≤ 51 by omega)]
    simp
  have flagBytes : slice datagram 6 8 = be 2 0 := by
    rw [← flags]
    exact (beBytes (sliceLength (by omega))).symm
  have lengthSize : (slice datagram 8 10).length = 2 := sliceLength (by omega)
  have lengthRange : readBE (slice datagram 8 10) < u16Limit := by
    have range := readBeRange (slice datagram 8 10)
    rw [lengthSize] at range
    exact range
  have lengthBytes : be 2 (UInt16.ofNat (readBE (slice datagram 8 10))).toNat = slice datagram 8 10 := by
    rw [u16OfNat lengthRange]
    exact beBytes lengthSize
  have idBytes : (FixedBytes.copyFrom 32 (slice datagram 10 42)).toList = slice datagram 10 42 :=
    FixedBytes.copyFromExact (sliceLength (by omega))
  have sequenceBytes : toBeBytes64 (fromBeBytes64 (slice datagram 43 51)) = slice datagram 43 51 :=
    toFromBeBytes64 (sliceLength (by omega))
  rw [headerBindingBytes, lengthBytes, idBytes, sequenceBytes, DataDirection.fromWireSound way,
    ← magical, ← version, ← kind, ← flagBytes]
  exact cut

theorem decodeWellFormed {codec : DataFrameCodec} {datagram frame}
    (ok : codec.decodeData datagram = .ok frame) : WellFormed codec datagram frame := by
  unfold DataFrameCodec.decodeData at ok
  obtain ⟨_, ok⟩ := passed ok
  obtain ⟨fits, ok⟩ := passed ok
  obtain ⟨magical, ok⟩ := passed ok
  obtain ⟨version, ok⟩ := passed ok
  obtain ⟨kind, ok⟩ := passed ok
  obtain ⟨flags, ok⟩ := passed ok
  obtain ⟨exact_, ok⟩ := passed ok
  obtain ⟨long, ok⟩ := passed ok
  obtain ⟨named, ok⟩ := passed ok
  split at ok <;> try contradiction
  rename_i direction way
  obtain ⟨ranged, ok⟩ := passed ok
  cases Except.ok.inj ok
  simp only [ne_eq, not_not] at magical version kind flags exact_
  have size : 119 ≤ datagram.length := by
    simp only [dataBodyFixedLength, minimumDataCiphertextLength, dataTransportOverhead,
      dataHeaderLength, aeadTagLength] at long
    omega
  have range := readBeRange (slice datagram 8 10)
  rw [sliceLength (by omega)] at range
  constructor
  · exact imageOf (by omega) magical version kind flags way
  · simp only [u16OfNat range, List.length_drop, dataBodyFixedLength]
    omega
  · exact sequenceInRange ranged
  · simpa using named
  · simp only [List.length_drop, minimumDataCiphertextLength, dataTransportOverhead,
      dataHeaderLength, aeadTagLength]
    omega
  · have limit := codec.datagramIs
    simp only [List.length_drop, dataHeaderLength] at limit ⊢
    omega

theorem headerBindingInj {a b : DataFrameHeader} (same : headerBindingBytes a = headerBindingBytes b) :
    a = b := by
  obtain ⟨la, ia, da, sa⟩ := a
  obtain ⟨lb, ib, db, sb⟩ := b
  simp only [headerBindingBytes, List.append_assoc, List.cons_append] at same
  have rest := List.append_cancel_left same
  simp only [List.cons.injEq, true_and] at rest
  obtain ⟨lengths, ids⟩ := List.append_inj (List.append_cancel_left rest) (by simp)
  obtain ⟨idBytes, tail⟩ := List.append_inj ids (by rw [ia.bytes.sized, ib.bytes.sized])
  obtain ⟨way, sequences⟩ := List.cons.inj tail
  have bodies : la = lb := by
    have left := readBeBounded (show la.toNat < 256 ^ 2 from la.toNat_lt)
    rw [lengths, readBeBounded (show lb.toNat < 256 ^ 2 from lb.toNat_lt)] at left
    exact UInt16.toNat_inj.mp left.symm
  have identifiers : ia = ib := by
    cases ia
    cases ib
    exact congrArg SessionId.mk (FixedBytes.ext idBytes)
  rw [bodies, identifiers, DataDirection.wireInj way, toBeBytes64Inj sequences]

theorem headerBuilt {codec : DataFrameCodec} {sessionId direction sequence length header}
    (ok : codec.buildDataHeader sessionId direction sequence length = .ok header) :
    header.sessionId = sessionId ∧ header.direction = direction ∧ header.sequence = sequence ∧
      header.bodyLength.toNat = dataBodyFixedLength + (length + dataTransportOverhead) ∧
      isZero sessionId = false ∧ inRange sequence ∧ 0 < length ∧
      length ≤ codec.maximumPlaintextPayload := by
  unfold DataFrameCodec.buildDataHeader at ok
  obtain ⟨named, ok⟩ := passed ok
  obtain ⟨ranged, ok⟩ := passed ok
  obtain ⟨positive, ok⟩ := passed ok
  obtain ⟨small, ok⟩ := passed ok
  split at ok <;> try contradiction
  rename_i ciphertext
  split at ok <;> try contradiction
  rename_i body
  obtain ⟨fits, ok⟩ := passed ok
  cases Except.ok.inj ok
  have total := usizeAddSome body
  rw [usizeAddSome ciphertext] at total
  refine ⟨rfl, rfl, rfl, ?_, by simpa using named, sequenceInRange ranged, by omega, by omega⟩
  rw [u16OfNat (Nat.lt_of_not_le fits), total]

end Crabnet.DataFrame
