import Crabnet.WireHeader

/-! The encrypted data frame is exact: the decoder accepts the encodings and
nothing else, the buffer is written up to the frame's end or not at all, and no
byte of the header escapes the image that is sealed with the packet. -/
namespace Crabnet.DataFrameExact
open MachineWord SessionTypes ReplayHistory DataFrame WireHeader

theorem newPayload {m codec} (ok : DataFrameCodec.new m = .ok codec) : codec.maximumPlaintextPayload = m := by
  unfold DataFrameCodec.new at ok
  iterate 6 split at ok <;> try contradiction
  cases Except.ok.inj ok
  rfl

theorem payloadLimit (codec : DataFrameCodec) :
    1 ≤ codec.maximumPlaintextPayload ∧ codec.maximumPlaintextPayload ≤ 65389 := by
  have positive := codec.plaintextPositive
  have limit := codec.datagramFits
  rw [codec.datagramIs, codec.ciphertextIs] at limit
  simp only [udpPayloadCeiling, dataHeaderLength, dataTransportOverhead, aeadTagLength] at limit
  omega

theorem newAccepts {m : Nat} (positive : 1 ≤ m) (small : m ≤ 65389) :
    ∃ codec, DataFrameCodec.new m = .ok codec := by
  unfold DataFrameCodec.new
  split
  · omega
  split
  · rename_i overflow
    have beyond := usizeAddNone overflow
    simp only [usizeLimit, dataTransportOverhead, dataHeaderLength, aeadTagLength] at beyond
    omega
  rename_i ciphertext sum
  have size := usizeAddSome sum
  simp only [dataTransportOverhead, dataHeaderLength, aeadTagLength] at size
  split
  · rename_i overflow
    have beyond := usizeAddNone overflow
    simp only [usizeLimit, dataBodyFixedLength] at beyond
    omega
  rename_i body total
  have length := usizeAddSome total
  simp only [dataBodyFixedLength] at length
  split
  · rename_i large
    simp only [u16Limit] at large
    omega
  split
  · rename_i overflow
    have beyond := usizeAddNone overflow
    simp only [usizeLimit, dataHeaderLength] at beyond
    omega
  rename_i datagram frame
  have whole := usizeAddSome frame
  simp only [dataHeaderLength] at whole
  split
  · rename_i large
    simp only [udpPayloadCeiling] at large
    omega
  exact ⟨_, rfl⟩

theorem wireDirection (direction : DataDirection) :
    DataDirection.fromWireValue direction.wireValue = .ok direction := by
  cases direction <;> rfl

theorem sequenceAccepted {s : UInt64} (ranged : inRange s) : ¬ (s = 0 ∨ maxSequence < s) := by
  have top : maxSequence.toNat = 2 ^ 64 - 2 := rfl
  have low := ranged.1
  have high := ranged.2
  rw [not_or, UInt64.lt_iff_toNat_lt, top]
  refine ⟨?_, Nat.not_lt_of_le high⟩
  intro zero
  rw [zero] at low
  contradiction

def headerTail (h : DataFrameHeader) : Bytes :=
  h.sessionId.bytes.toList ++ h.direction.wireValue :: toBeBytes64 h.sequence

theorem headerSplit (h : DataFrameHeader) : headerBindingBytes h =
    commonHeader ProtocolVersion.v2.wireValue MessageType.data.wireValue h.bodyLength.toNat ++ headerTail h := by
  simp [headerBindingBytes, commonHeader, headerTail]

structure TailReads (datagram : Bytes) (h : DataFrameHeader) (ciphertext : Bytes) : Prop where
  session : slice datagram 10 42 = h.sessionId.bytes.toList
  direction : byteAt datagram 42 = h.direction.wireValue
  sequence : slice datagram 43 51 = toBeBytes64 h.sequence
  rest : datagram.drop 51 = ciphertext

theorem tailReads (h : DataFrameHeader) (ciphertext : Bytes) :
    TailReads (headerBindingBytes h ++ ciphertext) h ciphertext := by
  have sized := h.sessionId.bytes.sized
  have image : headerBindingBytes h ++ ciphertext =
      commonHeader ProtocolVersion.v2.wireValue MessageType.data.wireValue h.bodyLength.toNat ++
        (h.sessionId.bytes.toList ++ h.direction.wireValue :: (toBeBytes64 h.sequence ++ ciphertext)) := by
    simp [headerSplit, headerTail]
  constructor
  · rw [image]
    exact sliceField (by simp) (by rw [sized])
  · rw [image, ← List.append_assoc]
    exact byteField (by simp [sized])
  · rw [image, ← List.append_assoc, List.append_cons]
    exact sliceField (by simp [sized]) (by simp [toBeBytes64])
  · exact List.drop_left' (headerBindingLength h)

theorem decodeComplete {codec : DataFrameCodec} {datagram frame} (form : WellFormed codec datagram frame) :
    codec.decodeData datagram = .ok frame := by
  obtain ⟨header, ciphertext⟩ := frame
  obtain ⟨image, body, ranged, named, atLeast, atMost⟩ := form
  simp only at image body ranged named atLeast atMost
  have tail := tailReads header ciphertext
  have common := headerReads header.bodyLength.toNat_lt ProtocolVersion.v2.wireValue MessageType.data.wireValue
    (headerTail header ++ ciphertext)
  rw [← List.append_assoc, ← headerSplit] at common
  rw [← image] at tail common
  have size : datagram.length = 51 + ciphertext.length := by
    rw [image, List.length_append, headerBindingLength]
  have limit := codec.datagramIs
  simp only [dataHeaderLength] at limit
  have session : FixedBytes.copyFrom 32 (slice datagram 10 42) = header.sessionId.bytes := by
    rw [tail.session]
    exact FixedBytes.ext (FixedBytes.copyFromExact header.sessionId.bytes.sized)
  have sequence : fromBeBytes64 (slice datagram 43 51) = header.sequence := by
    rw [tail.sequence, fromToBeBytes64]
  have declared : header.bodyLength.toNat = datagram.length - 10 := by
    rw [body, size, dataBodyFixedLength]
    omega
  unfold DataFrameCodec.decodeData
  rw [if_neg (by omega), if_neg (by omega), if_neg (by simp [common.magical]),
    if_neg (by simp [common.version]), if_neg (by simp [common.kind]), if_neg (by simp [common.flags])]
  simp only [common.declared, tail.direction, wireDirection, session, sequence, tail.rest]
  rw [if_neg (by simp [declared])]
  rw [if_neg (by simp only [size, dataBodyFixedLength]; omega), if_neg (by simp [named]),
    if_neg (sequenceAccepted ranged), UInt16.ofNat_toNat]

theorem headerBuilds {codec : DataFrameCodec} {sessionId direction sequence n} (named : isZero sessionId = false)
    (ranged : inRange sequence) (positive : 1 ≤ n) (small : n ≤ codec.maximumPlaintextPayload) :
    ∃ header, codec.buildDataHeader sessionId direction sequence n = .ok header := by
  have limit := (payloadLimit codec).2
  unfold DataFrameCodec.buildDataHeader
  have overhead : dataTransportOverhead = 67 := rfl
  have fixed : dataBodyFixedLength = 41 := rfl
  have ciphertext : usizeCheckedAdd n dataTransportOverhead = some (n + 67) :=
    usizeAddFits (by simp only [usizeLimit, overhead]; omega)
  have body : usizeCheckedAdd dataBodyFixedLength (n + 67) = some (41 + (n + 67)) :=
    usizeAddFits (by simp only [usizeLimit, fixed]; omega)
  rw [if_neg (by simp [named]), if_neg (sequenceAccepted ranged), if_neg (by omega), if_neg (by omega), ciphertext]
  simp only [body]
  rw [if_neg (by simp only [u16Limit]; omega)]
  exact ⟨_, rfl⟩

theorem encodeWrites {codec : DataFrameCodec} {header : DataFrameHeader} {ciphertext output : Bytes}
    (body : header.bodyLength.toNat = dataBodyFixedLength + ciphertext.length)
    (atLeast : minimumDataCiphertextLength ≤ ciphertext.length)
    (atMost : ciphertext.length ≤ codec.maximumCiphertext) (room : ciphertext.length + 51 ≤ output.length) :
    codec.encodeData header ciphertext output =
      (.ok (ciphertext.length + 51),
        headerBindingBytes header ++ ciphertext ++ output.drop (ciphertext.length + 51)) := by
  have declared := header.bodyLength.toNat_lt
  unfold DataFrameCodec.encodeData
  rw [if_neg (Nat.not_lt_of_le atLeast), if_neg (Nat.not_lt_of_le atMost), if_neg (by omega)]
  split
  · rename_i overflow
    have beyond := usizeAddNone overflow
    simp only [usizeLimit, dataHeaderLength] at beyond
    omega
  rename_i encoded sum
  have size : encoded = ciphertext.length + 51 := usizeAddSome sum
  rw [if_neg (by omega), size, overwrite, List.length_append, headerBindingLength, Nat.add_comm 51]

theorem encodeKeeps {codec : DataFrameCodec} {header ciphertext output e out}
    (failed : codec.encodeData header ciphertext output = (.error e, out)) : out = output := by
  unfold DataFrameCodec.encodeData at failed
  split at failed
  · exact (Prod.mk.inj failed).2.symm
  split at failed
  · exact (Prod.mk.inj failed).2.symm
  split at failed
  · exact (Prod.mk.inj failed).2.symm
  split at failed
  · exact (Prod.mk.inj failed).2.symm
  split at failed
  · exact (Prod.mk.inj failed).2.symm
  · exact absurd (Prod.mk.inj failed).1 (by simp)

/- The encoding of one packet: the header built for its length and a ciphertext
that is longer by the sealed header and the tag. -/
structure Encoding (codec : DataFrameCodec) (sessionId : SessionId) (direction : DataDirection) (sequence : UInt64)
    (n : Nat) (ciphertext : Bytes) (header : DataFrameHeader) (datagram : Bytes) : Prop where
  named : isZero sessionId = false
  ranged : inRange sequence
  positive : 1 ≤ n
  small : n ≤ codec.maximumPlaintextPayload
  sealed_ : ciphertext.length = n + 67
  built : codec.buildDataHeader sessionId direction sequence n = .ok header
  size : datagram.length = n + 118
  written : ∀ output, n + 118 ≤ output.length →
    codec.encodeData header ciphertext output = (.ok (n + 118), datagram ++ output.drop (n + 118))

theorem encodingForm {codec : DataFrameCodec} {sessionId direction sequence n ciphertext header datagram}
    (encoding : Encoding codec sessionId direction sequence n ciphertext header datagram) :
    WellFormed codec datagram ⟨header, ciphertext⟩ := by
  obtain ⟨named, ranged, positive, small, sealed_, built, size, written⟩ := encoding
  obtain ⟨session, -, same, body, -⟩ := headerBuilt built
  have longest := codec.ciphertextIs
  simp only [dataTransportOverhead, dataHeaderLength, aeadTagLength] at body longest
  have declared : header.bodyLength.toNat = dataBodyFixedLength + ciphertext.length := by
    rw [body, sealed_]
  have atLeast : minimumDataCiphertextLength ≤ ciphertext.length := by
    simp only [minimumDataCiphertextLength, dataTransportOverhead, dataHeaderLength, aeadTagLength]
    omega
  have atMost : ciphertext.length ≤ codec.maximumCiphertext := by omega
  have image : datagram = headerBindingBytes header ++ ciphertext := by
    have here := written (List.replicate (n + 118) 0) (by simp)
    rw [encodeWrites declared atLeast atMost (by rw [sealed_]; simp)] at here
    have bytes := (Prod.mk.inj here).2
    exact (List.append_inj bytes (by simp [size, sealed_]; omega)).1.symm
  exact ⟨image, declared, same ▸ ranged, session ▸ named, atLeast, atMost⟩

theorem encodes {codec : DataFrameCodec} {sessionId direction sequence n ciphertext} (named : isZero sessionId = false)
    (ranged : inRange sequence) (positive : 1 ≤ n) (small : n ≤ codec.maximumPlaintextPayload)
    (sealed_ : ciphertext.length = n + 67) :
    ∃ header datagram, Encoding codec sessionId direction sequence n ciphertext header datagram := by
  obtain ⟨header, built⟩ := @headerBuilds codec sessionId direction sequence n named ranged positive small
  obtain ⟨-, -, -, body, -⟩ := headerBuilt built
  have longest := codec.ciphertextIs
  simp only [dataTransportOverhead, dataHeaderLength, aeadTagLength] at body longest
  refine ⟨header, headerBindingBytes header ++ ciphertext, named, ranged, positive, small, sealed_, built, ?_, ?_⟩
  · rw [List.length_append, headerBindingLength, sealed_]
    omega
  · intro output room
    have length : ciphertext.length + 51 = n + 118 := by omega
    rw [← length]
    refine encodeWrites (by rw [body, sealed_]) ?_ (by omega) (by omega)
    simp only [minimumDataCiphertextLength, dataTransportOverhead, dataHeaderLength, aeadTagLength]
    omega

theorem formEncoding {codec : DataFrameCodec} {datagram frame} (form : WellFormed codec datagram frame) :
    Encoding codec frame.header.sessionId frame.header.direction frame.header.sequence
      (frame.ciphertext.length - 67) frame.ciphertext frame.header datagram := by
  have atLeast := form.atLeast
  have atMost := form.atMost
  simp only [minimumDataCiphertextLength, dataTransportOverhead, dataHeaderLength, aeadTagLength] at atLeast
  rw [codec.ciphertextIs] at atMost
  simp only [dataTransportOverhead, dataHeaderLength, aeadTagLength] at atMost
  obtain ⟨header, datagram', encoding⟩ := @encodes codec frame.header.sessionId frame.header.direction
    frame.header.sequence (frame.ciphertext.length - 67) frame.ciphertext form.named form.ranged (by omega)
    (by omega) (by omega)
  have same : header = frame.header := by
    obtain ⟨session, direction, sequence, body, -⟩ := headerBuilt encoding.built
    have length : header.bodyLength = frame.header.bodyLength := by
      apply UInt16.toNat_inj.mp
      rw [body, form.body]
      simp only [dataTransportOverhead, dataHeaderLength, aeadTagLength]
      omega
    rcases header with ⟨_, _, _, _⟩
    rcases frame with ⟨⟨_, _, _, _⟩, _⟩
    simp_all
  subst same
  have image := (encodingForm encoding).image.trans form.image.symm
  exact image ▸ encoding

theorem dataFrameFormat :
    (∀ m, (∃ codec, DataFrameCodec.new m = .ok codec) ↔ 1 ≤ m ∧ m ≤ 65389) ∧
    ∀ m codec, DataFrameCodec.new m = .ok codec →
      (∀ sessionId direction sequence n (ciphertext output : Bytes), isZero sessionId = false → inRange sequence →
        1 ≤ n → n ≤ m → ciphertext.length = n + 67 → n + 118 ≤ output.length →
        ∃ header datagram, codec.buildDataHeader sessionId direction sequence n = .ok header ∧
          codec.encodeData header ciphertext output = (.ok (n + 118), datagram ++ output.drop (n + 118)) ∧
          datagram.length = n + 118 ∧ codec.decodeData datagram = .ok ⟨header, ciphertext⟩ ∧
          header.sessionId = sessionId ∧ header.direction = direction ∧ header.sequence = sequence ∧
          header.bodyLength.toNat = 41 + ciphertext.length) ∧
      (∀ datagram, (∃ frame, codec.decodeData datagram = .ok frame) ↔
        ∃ sessionId direction sequence n ciphertext header,
          Encoding codec sessionId direction sequence n ciphertext header datagram) ∧
      (∀ datagram frame, codec.decodeData datagram = .ok frame →
        headerBindingBytes frame.header = datagram.take 51 ∧
        ∀ output, datagram.length ≤ output.length → codec.encodeData frame.header frame.ciphertext output =
          (.ok datagram.length, datagram ++ output.drop datagram.length)) ∧
      (∀ header ciphertext output e out,
        codec.encodeData header ciphertext output = (.error e, out) → out = output) ∧
      (∀ sessionId direction sequence n header,
        codec.buildDataHeader sessionId direction sequence n = .ok header → 41 ≤ header.bodyLength.toNat) ∧
      ∀ datagram frame, codec.decodeData datagram = .ok frame → 41 ≤ frame.header.bodyLength.toNat := by
  refine ⟨?_, ?_⟩
  · intro m
    constructor
    · intro ⟨codec, ok⟩
      rw [← newPayload ok]
      exact payloadLimit codec
    · intro range
      exact newAccepts range.1 range.2
  intro m codec ok
  rw [← newPayload ok]
  refine ⟨?_, ?_, ?_, fun _ _ _ _ _ => encodeKeeps, ?_, ?_⟩
  · intro sessionId direction sequence n ciphertext output named ranged positive small sealed_ room
    obtain ⟨header, datagram, encoding⟩ :=
      @encodes codec sessionId direction sequence n ciphertext named ranged positive small sealed_
    have form := encodingForm encoding
    obtain ⟨session, way, same, -⟩ := headerBuilt encoding.built
    exact ⟨header, datagram, encoding.built, encoding.written output room, encoding.size, decodeComplete form,
      session, way, same, form.body⟩
  · intro datagram
    constructor
    · intro ⟨frame, accepted⟩
      exact ⟨_, _, _, _, _, _, formEncoding (decodeWellFormed accepted)⟩
    · intro ⟨sessionId, direction, sequence, n, ciphertext, header, encoding⟩
      exact ⟨⟨header, ciphertext⟩, decodeComplete (encodingForm encoding)⟩
  · intro datagram frame accepted
    have form := decodeWellFormed accepted
    have encoding := formEncoding form
    refine ⟨?_, ?_⟩
    · rw [form.image]
      exact (List.take_left' (headerBindingLength frame.header)).symm
    · intro output room
      rw [encoding.size] at room ⊢
      exact encoding.written output room
  · intro sessionId direction sequence n header built
    obtain ⟨-, -, -, body, -⟩ := headerBuilt built
    rw [body]
    exact Nat.le_add_right _ _
  · intro datagram frame accepted
    rw [(decodeWellFormed accepted).body]
    exact Nat.le_add_right _ _

end Crabnet.DataFrameExact
