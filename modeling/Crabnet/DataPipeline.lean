import Crabnet.DataFrameExact
import Crabnet.DataRuntime

/-! The way of one packet: header for its length, sealing under the header's
image, frame, and back again at the peer. The length that the header declares
before anything is sealed is the length that the library then gives. -/
namespace Crabnet.DataPipeline
open MachineWord SessionTypes Fallible ReplayHistory DataFrame SnowBoundary DataSession DataFrameExact DataRuntime

variable {S : Snow}

def headerBytes (header : DataFrameHeader) : FixedBytes 51 := ⟨headerBindingBytes header, headerBindingLength header⟩

/- The transport as the source declares it: it is given 51 bytes, and nothing says
that they are the image of a header. -/
namespace DirectionalTransport

def encrypt (t : Transport S) (sequence : UInt64) (headerBytes : FixedBytes 51) (plaintext : Bytes) : Option Bytes :=
  let payload := headerBytes.toList ++ plaintext
  t.write sequence payload (payload.length + aeadTagLength)

def decrypt (t : Transport S) (sequence : UInt64) (headerBytes : FixedBytes 51) (ciphertext : Bytes) :
    DecryptOutcome :=
  match t.read sequence ciphertext ciphertext.length with
  | none => .authenticationFailure
  | some plaintext =>
    if plaintext.length < dataHeaderLength ∨ plaintext.take dataHeaderLength ≠ headerBytes.toList then
      .headerBindingFailure
    else .plaintext (plaintext.drop dataHeaderLength)

end DirectionalTransport

theorem encryptBytes (t : Transport S) (sequence header packet) :
    encrypt t sequence header packet = DirectionalTransport.encrypt t sequence (headerBytes header) packet := rfl

theorem decryptBytes (t : Transport S) (sequence header ciphertext) :
    decrypt t sequence header ciphertext =
      DirectionalTransport.decrypt t sequence (headerBytes header) ciphertext := by
  unfold decrypt DirectionalTransport.decrypt opened
  cases t.read sequence ciphertext ciphertext.length with
  | none => rfl
  | some plaintext => rfl

def noisePayloadLimit : Nat := 65519

/- What the code relies on of the library: a message is its payload and a tag, up to
the largest message and but for the last nonce, and the peer's state undoes it. -/
structure Paired (near far : S.TransportState) : Prop where
  writes : ∀ nonce payload, payload.length ≤ noisePayloadLimit → nonce.toNat < 2 ^ 64 - 1 →
    ∃ ciphertext, S.transportWrite near nonce payload = some ciphertext ∧ ciphertext.length = payload.length + 16
  inverts : ∀ nonce payload ciphertext, S.transportWrite near nonce payload = some ciphertext →
    S.transportRead far nonce ciphertext = some payload

theorem fittedKeeps {available raw} (fits : raw.length ≤ available) : fitted available (some raw) = some raw := by
  simp [fitted, fits]

section
variable {near far : Transport S}

theorem encrypts (paired : Paired near.state far.state) {sequence : UInt64} {packet : Bytes} (ranged : inRange sequence)
    (small : packet.length ≤ 65389) (headerBytes : FixedBytes 51) :
    ∃ ciphertext, DirectionalTransport.encrypt near sequence headerBytes packet = some ciphertext ∧
      ciphertext.length = packet.length + 67 ∧
      far.read sequence ciphertext ciphertext.length = some (headerBytes.toList ++ packet) := by
  have length : (headerBytes.toList ++ packet).length = 51 + packet.length := by
    rw [List.length_append, headerBytes.sized]
  have below := ranged.2
  obtain ⟨ciphertext, written, size⟩ := paired.writes sequence (headerBytes.toList ++ packet)
    (by rw [length, noisePayloadLimit]; omega) (by omega)
  refine ⟨ciphertext, ?_, by omega, ?_⟩
  · simp only [DirectionalTransport.encrypt, Transport.write, written]
    exact fittedKeeps (by rw [size, aeadTagLength])
  · simp only [Transport.read, paired.inverts _ _ _ written]
    exact fittedKeeps (by omega)

theorem decryptsOwn {sequence : UInt64} {ciphertext packet} {headerBytes : FixedBytes 51}
    (reads : far.read sequence ciphertext ciphertext.length = some (headerBytes.toList ++ packet)) :
    DirectionalTransport.decrypt far sequence headerBytes ciphertext = .plaintext packet := by
  have sized : headerBytes.toList.length = dataHeaderLength := headerBytes.sized
  simp only [DirectionalTransport.decrypt, reads]
  rw [if_neg (by simp [sized]), List.drop_left' sized]

theorem decryptsOther {sequence : UInt64} {ciphertext packet} {headerBytes other : FixedBytes 51}
    (reads : far.read sequence ciphertext ciphertext.length = some (headerBytes.toList ++ packet))
    (different : other ≠ headerBytes) :
    DirectionalTransport.decrypt far sequence other ciphertext = .headerBindingFailure := by
  have sized : headerBytes.toList.length = dataHeaderLength := headerBytes.sized
  simp only [DirectionalTransport.decrypt, reads]
  rw [if_pos]
  refine .inr ?_
  rw [List.take_left' sized]
  intro same
  exact different (FixedBytes.ext same.symm)

structure Sent (codec : DataFrameCodec) (near far : Transport S) (sessionId : SessionId) (direction : DataDirection)
    (sequence : UInt64) (packet : Bytes) (header : DataFrameHeader) (ciphertext frame : Bytes) : Prop where
  built : codec.buildDataHeader sessionId direction sequence packet.length = .ok header
  encrypted : DirectionalTransport.encrypt near sequence (headerBytes header) packet = some ciphertext
  encoded : codec.encodeData header ciphertext (List.replicate codec.maximumDatagramLength 0) =
    (.ok frame.length, frame ++ List.replicate (codec.maximumDatagramLength - frame.length) 0)
  fits : frame.length ≤ codec.maximumDatagramLength
  form : WellFormed codec frame ⟨header, ciphertext⟩
  reads : far.read sequence ciphertext ciphertext.length = some ((headerBytes header).toList ++ packet)

theorem sends (paired : Paired near.state far.state) {codec : DataFrameCodec} {sessionId direction sequence packet}
    (named : isZero sessionId = false) (ranged : inRange sequence) (positive : 1 ≤ packet.length)
    (small : packet.length ≤ codec.maximumPlaintextPayload) :
    ∃ header ciphertext frame, Sent codec near far sessionId direction sequence packet header ciphertext frame := by
  have short := Nat.le_trans small (payloadLimit codec).2
  obtain ⟨header, built⟩ := @headerBuilds codec sessionId direction sequence packet.length named ranged positive small
  obtain ⟨ciphertext, encrypted, size, reads⟩ := encrypts paired ranged short (headerBytes header)
  obtain ⟨same, frame, encoding⟩ :=
    @encodes codec sessionId direction sequence packet.length ciphertext named ranged positive small size
  cases Except.ok.inj (encoding.built.symm.trans built)
  have longest := codec.ciphertextIs
  have whole := codec.datagramIs
  simp only [dataTransportOverhead, dataHeaderLength, aeadTagLength] at longest whole
  have fits : packet.length + 118 ≤ codec.maximumDatagramLength := by omega
  refine ⟨header, ciphertext, frame, built, encrypted, ?_, ?_, encodingForm encoding, reads⟩
  · rw [encoding.size, encoding.written _ (by simpa using fits), List.drop_replicate]
  · rw [encoding.size]
    exact fits

theorem received {codec peer : DataFrameCodec} {sessionId direction sequence packet header ciphertext frame}
    (sent : Sent codec near far sessionId direction sequence packet header ciphertext frame)
    (mtu : peer.maximumPlaintextPayload = codec.maximumPlaintextPayload) :
    peer.decodeData frame = .ok ⟨header, ciphertext⟩ := by
  obtain ⟨image, body, ranged, named, atLeast, atMost⟩ := sent.form
  refine decodeComplete ⟨image, body, ranged, named, atLeast, ?_⟩
  rw [peer.ciphertextIs, mtu, ← codec.ciphertextIs]
  exact atMost

/- The loop takes a legal packet past every one of its own errors: what stands
between it and the socket is the socket. -/
theorem sealPacketSends (paired : Paired near.state far.state) {codec : DataFrameCodec} {packet}
    {session : EstablishedDataSession S} (emitted) (own : session.transport = near)
    (named : isZero session.metadata.sessionId = false) (ranged : inRange session.nextSendSequence)
    (positive : 1 ≤ packet.length) (small : packet.length ≤ codec.maximumPlaintextPayload) :
    ∃ header ciphertext frame, Sent codec near far session.metadata.sessionId session.sendDirection
        session.nextSendSequence packet header ciphertext frame ∧
      sealPacket codec packet ⟨session, emitted⟩ = (.ok frame.length, ⟨advance session session.lifetime, emitted ++
        [.noiseWrite ⟨session.nextSendSequence, sealedPayload header packet, some ciphertext⟩,
          .sendTo session.nextSendSequence session.peerEndpoint frame packet]⟩) := by
  obtain ⟨header, ciphertext, frame, sent⟩ :=
    @sends S near far paired codec session.metadata.sessionId session.sendDirection session.nextSendSequence packet
      named ranged positive small
  refine ⟨header, ciphertext, frame, sent, ?_⟩
  have live : session.nextSendSequence ≠ sequenceExhausted := by
    intro last
    have high := ranged.2
    rw [last] at high
    exact absurd high (by decide)
  have encrypted := sent.encrypted
  rw [← own, ← encryptBytes] at encrypted
  have framed : encodeFrame codec header ciphertext = .ok frame := by
    simp only [encodeFrame, sent.encoded]
    rw [List.take_left' rfl]
  have built : buildHeader codec (advance session session.lifetime) session.nextSendSequence packet = .ok header := by
    simp only [buildHeader, advance, sent.built]
  simp only [advance] at built
  refine Action.wpOutcome (R := fun outcome => outcome = _) ?_
  simp only [sealPacket, onSession, EstablishedDataSession.allocateSendSequence, Action.wpBind, Action.wpMapError,
    Action.wpWithin, Action.wpRead, Action.wpIte, Action.wpFail, Action.wpModify, Action.wpPure, Action.wpOfExcept, emit]
  refine ⟨fun exhausted => absurd exhausted live, fun _ => ?_⟩
  simp only [built, encrypted, Action.wpBind, Action.wpOfExcept, framed, Action.wpModify, Action.wpPure, advance,
    List.append_assoc, List.cons_append, List.nil_append]

end

theorem pipelineIdentity (near far : Transport S) (paired : Paired near.state far.state) :
    ∀ (codec peer : DataFrameCodec) (sessionId : SessionId) (direction : DataDirection) (sequence : UInt64)
      (packet : Bytes), peer.maximumPlaintextPayload = codec.maximumPlaintextPayload → isZero sessionId = false →
      1 ≤ sequence.toNat → sequence.toNat ≤ 2 ^ 64 - 2 → 1 ≤ packet.length →
      packet.length ≤ codec.maximumPlaintextPayload →
    ∃ header ciphertext frame rest,
      codec.buildDataHeader sessionId direction sequence packet.length = .ok header ∧
      DirectionalTransport.encrypt near sequence (headerBytes header) packet = some ciphertext ∧
      codec.encodeData header ciphertext (List.replicate codec.maximumDatagramLength 0) =
        (.ok frame.length, frame ++ rest) ∧
      frame.length ≤ codec.maximumDatagramLength ∧ codec.maximumDatagramLength ≤ 65507 ∧
      ∃ decoded, peer.decodeData frame = .ok decoded ∧
        DirectionalTransport.decrypt far decoded.header.sequence (headerBytes decoded.header) decoded.ciphertext =
          .plaintext packet ∧
        ∀ other, other ≠ headerBytes decoded.header →
          DirectionalTransport.decrypt far decoded.header.sequence other decoded.ciphertext =
            .headerBindingFailure := by
  intro codec peer sessionId direction sequence packet mtu named low high positive small
  obtain ⟨header, ciphertext, frame, sent⟩ :=
    @sends S near far paired codec sessionId direction sequence packet named ⟨low, high⟩ positive small
  obtain ⟨-, -, same, -⟩ := headerBuilt sent.built
  have reads := sent.reads
  rw [← same] at reads
  exact ⟨header, ciphertext, frame, _, sent.built, sent.encrypted, sent.encoded, sent.fits, codec.datagramFits,
    ⟨header, ciphertext⟩, received sent mtu, decryptsOwn reads, fun other different => decryptsOther reads different⟩

theorem plainPaired : @Paired plainSnow () () := by
  constructor
  · intro nonce payload _ _
    exact ⟨plainSeal nonce payload, rfl, by simp [plainSeal, plainTag]⟩
  · intro nonce payload ciphertext written
    cases Option.some.inj written
    change plainOpen nonce (plainSeal nonce payload) = some payload
    simp [plainOpen, plainSeal, plainTag]

def smallCodec : DataFrameCodec := ⟨2, 69, 120, by decide, rfl, by decide, rfl, by decide⟩

theorem pipelineIdentitySmall :
    ∃ frame decoded, smallCodec.decodeData frame = .ok decoded ∧ frame.length ≤ 120 ∧
      DirectionalTransport.decrypt (⟨(), 0⟩ : Transport plainSnow) decoded.header.sequence
        (headerBytes decoded.header) decoded.ciphertext = .plaintext [69, 0] := by
  obtain ⟨header, ciphertext, frame, rest, -, -, -, fits, -, decoded, accepted, opened, -⟩ :=
    pipelineIdentity (⟨(), 0⟩ : Transport plainSnow) ⟨(), 0⟩ plainPaired smallCodec smallCodec
      ⟨FixedBytes.copyFrom 32 (List.replicate 32 1)⟩ .clientToServer 1 [69, 0] rfl (by decide) (by decide) (by decide)
      (by decide) (by decide)
  exact ⟨frame, decoded, accepted, fits, opened⟩

end Crabnet.DataPipeline
