import Crabnet.DataFrame

/-! The handshake frame (protocol/v2.rs): a ten-byte header, the attempt it
belongs to, and an opaque payload. A frame that decodes names a non-zero attempt
and carries a payload within the bound; what the code sends always encodes. -/
namespace Crabnet.HandshakeCodec
open MachineWord SessionTypes Fallible
open DataFrame (usizeCheckedAdd usizeAddSome magic udpPayloadCeiling u16Limit usizeLimit)

def commonHeaderLength : Nat := 10
def attemptIdLength : Nat := 8
def minimumBodyLength : Nat := 9

structure DecodedV2HandshakeBody where
  clientAttemptId : ClientAttemptId
  opaquePayload : Bytes
  deriving DecidableEq

inductive DecodedV2HandshakeFrame where
  | clientHello (body : DecodedV2HandshakeBody)
  | serverHello (body : DecodedV2HandshakeBody)
  | clientFinish (body : DecodedV2HandshakeBody)
  | serverFinish (body : DecodedV2HandshakeBody)
  deriving DecidableEq

inductive ClientInboundFrame where
  | serverHello (body : DecodedV2HandshakeBody)
  | serverFinish (body : DecodedV2HandshakeBody)
  deriving DecidableEq

inductive ServerInboundFrame where
  | clientHello (body : DecodedV2HandshakeBody)
  | clientFinish (body : DecodedV2HandshakeBody)
  deriving DecidableEq

inductive V2CodecConfigError where
  | zeroMaximumOpaquePayload
  | bodyLengthNotRepresentable (maximumOpaquePayload maximumBodyLength : Nat)
  | datagramExceedsUdpCeiling (maximumDatagramLength ceiling : Nat)
  | derivedLengthOverflow (maximumOpaquePayload : Nat)
  deriving DecidableEq, Repr

inductive V2EncodeError where
  | unsupportedMessageType (observed : MessageType)
  | zeroClientAttemptId
  | emptyOpaquePayload
  | opaquePayloadTooLarge (size maximum : Nat)
  | bodyLengthNotRepresentable (bodyLength : Nat)
  | encodedLengthOverflow (opaqueLength : Nat)
  | outputBufferTooSmall (required available : Nat)
  deriving DecidableEq, Repr

inductive V2DecodeError where
  | datagramTooShort (size minimum : Nat)
  | invalidMagic (observed : Bytes)
  | unsupportedVersion (observed : UInt8)
  | unsupportedMessageType (observed : UInt8)
  | unsupportedFlags (observed : Nat)
  | bodyLengthMismatch (declared actual : Nat)
  | handshakeBodyTooShort (size minimum : Nat)
  | zeroClientAttemptId
  | opaquePayloadTooLarge (size maximum : Nat)
  deriving DecidableEq, Repr

inductive Receiver where
  | client | server
  deriving DecidableEq, Repr

inductive DirectionError where
  | unexpectedDirection (receiver : Receiver) (observed : MessageType)
  deriving DecidableEq, Repr

structure V2HandshakeCodec where
  maximumOpaquePayload : Nat
  maximumDatagramLength : Nat
  payloadPositive : maximumOpaquePayload ≠ 0
  bodyFits : attemptIdLength + maximumOpaquePayload < u16Limit
  datagramIs : maximumDatagramLength = commonHeaderLength + (attemptIdLength + maximumOpaquePayload)
  datagramFits : maximumDatagramLength ≤ udpPayloadCeiling

namespace V2HandshakeCodec

def new (maximumOpaquePayload : Nat) : Except V2CodecConfigError V2HandshakeCodec :=
  if positive : maximumOpaquePayload = 0 then .error .zeroMaximumOpaquePayload
  else match body : usizeCheckedAdd attemptIdLength maximumOpaquePayload with
    | none => .error (.derivedLengthOverflow maximumOpaquePayload)
    | some maximumBodyLength =>
      if fits : u16Limit ≤ maximumBodyLength then
        .error (.bodyLengthNotRepresentable maximumOpaquePayload maximumBodyLength)
      else match datagram : usizeCheckedAdd commonHeaderLength maximumBodyLength with
        | none => .error (.derivedLengthOverflow maximumOpaquePayload)
        | some maximumDatagramLength =>
          if ceiling : udpPayloadCeiling < maximumDatagramLength then
            .error (.datagramExceedsUdpCeiling maximumDatagramLength udpPayloadCeiling)
          else match usizeCheckedAdd maximumDatagramLength 1 with
            | none => .error (.derivedLengthOverflow maximumOpaquePayload)
            | some _ => .ok ⟨maximumOpaquePayload, maximumDatagramLength, positive,
              by rw [← usizeAddSome body]; exact Nat.lt_of_not_le fits,
              by rw [← usizeAddSome body]; exact usizeAddSome datagram, Nat.le_of_not_lt ceiling⟩

def maxDatagramLen (codec : V2HandshakeCodec) : Nat := codec.maximumDatagramLength

def encodedLengths (codec : V2HandshakeCodec) (opaqueLength : Nat) : Except V2EncodeError (Nat × Nat) :=
  if opaqueLength = 0 then .error .emptyOpaquePayload
  else if codec.maximumOpaquePayload < opaqueLength then
    .error (.opaquePayloadTooLarge opaqueLength codec.maximumOpaquePayload)
  else match usizeCheckedAdd attemptIdLength opaqueLength with
    | none => .error (.encodedLengthOverflow opaqueLength)
    | some bodyLength =>
      if u16Limit ≤ bodyLength then .error (.bodyLengthNotRepresentable bodyLength)
      else match usizeCheckedAdd commonHeaderLength bodyLength with
        | none => .error (.encodedLengthOverflow opaqueLength)
        | some encodedLength => .ok (bodyLength, encodedLength)

def encodedLen (codec : V2HandshakeCodec) (opaqueLength : Nat) : Except V2EncodeError Nat :=
  (codec.encodedLengths opaqueLength).map Prod.snd

def frameBytes (messageType : MessageType) (attemptId : ClientAttemptId) (bodyLength : Nat) (payload : Bytes) :
    Bytes :=
  magic ++ (ProtocolVersion.v2.wireValue :: messageType.wireValue :: be 2 0 ++ be 2 bodyLength ++
    toBeBytes64 attemptId.value ++ payload)

def encode (codec : V2HandshakeCodec) (messageType : MessageType) (attemptId : ClientAttemptId)
    (opaquePayload output : Bytes) : Except V2EncodeError Nat × Bytes :=
  match messageType with
  | .data => (.error (.unsupportedMessageType messageType), output)
  | .clientHello | .clientFinish | .serverHello | .serverFinish =>
    if attemptId.value = 0 then (.error .zeroClientAttemptId, output)
    else match codec.encodedLengths opaquePayload.length with
      | .error e => (.error e, output)
      | .ok (bodyLength, encodedLength) =>
        if output.length < encodedLength then
          (.error (.outputBufferTooSmall encodedLength output.length), output)
        else (.ok encodedLength, overwrite output (frameBytes messageType attemptId bodyLength opaquePayload))

def decodeMessageType (value : UInt8) : Except V2DecodeError MessageType :=
  if value = 2 then .ok .clientHello
  else if value = 3 then .ok .serverHello
  else if value = 4 then .ok .clientFinish
  else if value = 5 then .ok .serverFinish
  else .error (.unsupportedMessageType value)

def decodeBody (messageType : MessageType) (body : DecodedV2HandshakeBody) :
    Except V2DecodeError DecodedV2HandshakeFrame :=
  match messageType with
  | .clientHello => .ok (.clientHello body)
  | .serverHello => .ok (.serverHello body)
  | .clientFinish => .ok (.clientFinish body)
  | .serverFinish => .ok (.serverFinish body)
  | .data => .error (.unsupportedMessageType MessageType.data.wireValue)

def decode (codec : V2HandshakeCodec) (datagram : Bytes) : Except V2DecodeError DecodedV2HandshakeFrame :=
  if datagram.length < commonHeaderLength then .error (.datagramTooShort datagram.length commonHeaderLength)
  else if slice datagram 0 4 ≠ magic then .error (.invalidMagic (slice datagram 0 4))
  else if byteAt datagram 4 ≠ 2 then .error (.unsupportedVersion (byteAt datagram 4))
  else match decodeMessageType (byteAt datagram 5) with
    | .error e => .error e
    | .ok messageType =>
      if readBE (slice datagram 6 8) ≠ 0 then .error (.unsupportedFlags (readBE (slice datagram 6 8)))
      else
        let declared := readBE (slice datagram 8 10)
        let actual := datagram.length - commonHeaderLength
        if declared ≠ actual then .error (.bodyLengthMismatch declared actual)
        else if actual < minimumBodyLength then .error (.handshakeBodyTooShort actual minimumBodyLength)
        else if codec.maximumOpaquePayload < actual - attemptIdLength then
          .error (.opaquePayloadTooLarge (actual - attemptIdLength) codec.maximumOpaquePayload)
        else
          let attempt := fromBeBytes64 (slice datagram 10 18)
          if attempt = 0 then .error .zeroClientAttemptId
          else decodeBody messageType ⟨⟨attempt⟩, datagram.drop 18⟩

end V2HandshakeCodec

def classifyForClient : DecodedV2HandshakeFrame → Except DirectionError ClientInboundFrame
  | .serverHello body => .ok (.serverHello body)
  | .serverFinish body => .ok (.serverFinish body)
  | .clientHello _ => .error (.unexpectedDirection .client .clientHello)
  | .clientFinish _ => .error (.unexpectedDirection .client .clientFinish)

def classifyForServer : DecodedV2HandshakeFrame → Except DirectionError ServerInboundFrame
  | .clientHello body => .ok (.clientHello body)
  | .clientFinish body => .ok (.clientFinish body)
  | .serverHello _ => .error (.unexpectedDirection .server .serverHello)
  | .serverFinish _ => .error (.unexpectedDirection .server .serverFinish)

def DecodedV2HandshakeFrame.body : DecodedV2HandshakeFrame → DecodedV2HandshakeBody
  | clientHello body => body
  | serverHello body => body
  | clientFinish body => body
  | serverFinish body => body

end Crabnet.HandshakeCodec
