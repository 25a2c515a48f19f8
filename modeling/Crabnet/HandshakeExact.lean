import Crabnet.HandshakeCodec
import Crabnet.WireHeader

/-! The handshake frame is exact, for every configured payload size: what decodes
is the encoding of what it decodes to, so a datagram and its frame determine each
other, and a refused encoding leaves its buffer alone. -/
namespace Crabnet.HandshakeExact
open MachineWord SessionTypes Fallible DataFrame HandshakeCodec WireHeader

def kindOf : DecodedV2HandshakeFrame → MessageType
  | .clientHello _ => .clientHello
  | .serverHello _ => .serverHello
  | .clientFinish _ => .clientFinish
  | .serverFinish _ => .serverFinish

theorem kindHandshake (frame : DecodedV2HandshakeFrame) : kindOf frame ≠ .data := by
  cases frame <;> simp [kindOf]

theorem frameKinds {a b : DecodedV2HandshakeFrame} (kinds : kindOf a = kindOf b) (bodies : a.body = b.body) :
    a = b := by
  cases a <;> cases b <;> simp_all [kindOf, DecodedV2HandshakeFrame.body]

theorem bodyFrame {kind : MessageType} (handshake : kind ≠ .data) (body) :
    ∃ frame, V2HandshakeCodec.decodeBody kind body = .ok frame ∧ kindOf frame = kind ∧ frame.body = body := by
  cases kind with
  | data => contradiction
  | clientHello => exact ⟨_, rfl, rfl, rfl⟩
  | serverHello => exact ⟨_, rfl, rfl, rfl⟩
  | clientFinish => exact ⟨_, rfl, rfl, rfl⟩
  | serverFinish => exact ⟨_, rfl, rfl, rfl⟩

theorem frameOfBody {kind body frame} (ok : V2HandshakeCodec.decodeBody kind body = .ok frame) :
    kindOf frame = kind ∧ frame.body = body := by
  cases kind <;> simp only [V2HandshakeCodec.decodeBody] at ok <;> try contradiction
  all_goals
    cases Except.ok.inj ok
    exact ⟨rfl, rfl⟩

theorem typeDecodes {kind : MessageType} (handshake : kind ≠ .data) :
    V2HandshakeCodec.decodeMessageType kind.wireValue = .ok kind := by
  cases kind <;> first | contradiction | rfl

theorem typeDecoded {value kind} (ok : V2HandshakeCodec.decodeMessageType value = .ok kind) :
    value = kind.wireValue ∧ kind ≠ .data := by
  unfold V2HandshakeCodec.decodeMessageType at ok
  split at ok
  · cases Except.ok.inj ok
    exact ⟨‹_›, by decide⟩
  split at ok
  · cases Except.ok.inj ok
    exact ⟨‹_›, by decide⟩
  split at ok
  · cases Except.ok.inj ok
    exact ⟨‹_›, by decide⟩
  split at ok <;> try contradiction
  cases Except.ok.inj ok
  exact ⟨‹_›, by decide⟩

structure Form (codec : V2HandshakeCodec) (datagram : Bytes) (frame : DecodedV2HandshakeFrame) : Prop where
  image : datagram = V2HandshakeCodec.frameBytes (kindOf frame) frame.body.clientAttemptId
    (attemptIdLength + frame.body.opaquePayload.length) frame.body.opaquePayload
  nonzero : frame.body.clientAttemptId.value ≠ 0
  positive : 1 ≤ frame.body.opaquePayload.length
  small : frame.body.opaquePayload.length ≤ codec.maximumOpaquePayload

theorem frameSplit (kind attempt bodyLength payload) : V2HandshakeCodec.frameBytes kind attempt bodyLength payload =
    commonHeader ProtocolVersion.v2.wireValue kind.wireValue bodyLength ++ (toBeBytes64 attempt.value ++ payload) := by
  simp [V2HandshakeCodec.frameBytes, commonHeader]

theorem decodeForm {codec : V2HandshakeCodec} {datagram frame} (ok : codec.decode datagram = .ok frame) :
    Form codec datagram frame := by
  unfold V2HandshakeCodec.decode at ok
  obtain ⟨long, ok⟩ := passed ok
  obtain ⟨magical, ok⟩ := passed ok
  obtain ⟨version, ok⟩ := passed ok
  split at ok <;> try contradiction
  rename_i kind typed
  obtain ⟨flags, ok⟩ := passed ok
  obtain ⟨declared, ok⟩ := passed ok
  obtain ⟨least, ok⟩ := passed ok
  obtain ⟨most, ok⟩ := passed ok
  obtain ⟨nonzero, ok⟩ := passed ok
  obtain ⟨named, body⟩ := frameOfBody ok
  simp only [ne_eq, not_not, commonHeaderLength, minimumBodyLength, attemptIdLength] at *
  have size : 19 ≤ datagram.length := by omega
  have image := headerImage (by omega) magical flags
  have attempt : toBeBytes64 (fromBeBytes64 (slice datagram 10 18)) = slice datagram 10 18 :=
    toFromBeBytes64 (sliceLength (by omega))
  constructor
  · rw [named, body, frameSplit, attempt]
    simp only [List.length_drop]
    have length : attemptIdLength + (datagram.length - 18) = readBE (slice datagram 8 10) := by
      rw [declared, attemptIdLength]
      omega
    rw [length, ← (typeDecoded typed).1, show ProtocolVersion.v2.wireValue = byteAt datagram 4 from version.symm,
      ← dropSlice datagram (show 10 ≤ 18 by omega)]
    exact image
  · rw [body]
    exact nonzero
  · rw [body]
    simp only [List.length_drop]
    omega
  · rw [body]
    simp only [List.length_drop]
    omega

theorem decodeComplete {codec : V2HandshakeCodec} {datagram frame} (form : Form codec datagram frame) :
    codec.decode datagram = .ok frame := by
  obtain ⟨image, nonzero, positive, small⟩ := form
  obtain ⟨frame', decoded, named, same⟩ := bodyFrame (kindHandshake frame) frame.body
  cases frameKinds named same
  have bound := codec.bodyFits
  simp only [attemptIdLength] at image bound
  have fits : 8 + frame.body.opaquePayload.length < u16Limit := by omega
  have common := headerReads fits ProtocolVersion.v2.wireValue (kindOf frame).wireValue
    (toBeBytes64 frame.body.clientAttemptId.value ++ frame.body.opaquePayload)
  rw [← frameSplit, ← image] at common
  have attempt : slice datagram 10 18 = toBeBytes64 frame.body.clientAttemptId.value := by
    rw [image, frameSplit]
    exact sliceField (by simp) (by simp [toBeBytes64])
  have payload : datagram.drop 18 = frame.body.opaquePayload := by
    rw [image, frameSplit, ← List.append_assoc]
    exact List.drop_left' (by simp [toBeBytes64])
  have size := common.size
  simp only [List.length_append, toBeBytes64, beLength] at size
  have version : byteAt datagram 4 = 2 := common.version
  have long : ¬ datagram.length < commonHeaderLength := by
    simp only [commonHeaderLength]
    omega
  have declared : ¬ 8 + frame.body.opaquePayload.length ≠ datagram.length - commonHeaderLength := by
    simp only [commonHeaderLength]
    omega
  have least : ¬ datagram.length - commonHeaderLength < minimumBodyLength := by
    simp only [commonHeaderLength, minimumBodyLength]
    omega
  have most : ¬ codec.maximumOpaquePayload < datagram.length - commonHeaderLength - attemptIdLength := by
    simp only [commonHeaderLength, attemptIdLength]
    omega
  unfold V2HandshakeCodec.decode
  rw [if_neg long, if_neg (not_not.mpr common.magical), if_neg (not_not.mpr version)]
  simp only [common.kind, typeDecodes (kindHandshake frame), common.declared, attempt, fromToBeBytes64, payload]
  rw [if_neg (not_not.mpr common.flags), if_neg declared, if_neg least, if_neg most, if_neg nonzero]
  exact decoded

theorem lengthsKnown {codec : V2HandshakeCodec} {n : Nat} (positive : 1 ≤ n) (small : n ≤ codec.maximumOpaquePayload) :
    codec.encodedLengths n = .ok (attemptIdLength + n, n + 18) := by
  have fits := codec.bodyFits
  simp only [u16Limit, attemptIdLength] at fits
  have body : usizeCheckedAdd attemptIdLength n = some (attemptIdLength + n) :=
    usizeAddFits (by simp only [usizeLimit, attemptIdLength]; omega)
  have frame : usizeCheckedAdd commonHeaderLength (attemptIdLength + n) = some (n + 18) := by
    rw [usizeAddFits (by simp only [usizeLimit, attemptIdLength, commonHeaderLength]; omega)]
    simp only [attemptIdLength, commonHeaderLength]
    exact congrArg some (by omega)
  unfold V2HandshakeCodec.encodedLengths
  rw [if_neg (by omega), if_neg (by omega), body]
  simp only
  rw [if_neg (by simp only [u16Limit, attemptIdLength]; omega), frame]

theorem lengthsBound {codec : V2HandshakeCodec} {n body length}
    (ok : codec.encodedLengths n = .ok (body, length)) :
    1 ≤ n ∧ n ≤ codec.maximumOpaquePayload ∧ body = attemptIdLength + n ∧ length = n + 18 := by
  have known := ok
  unfold V2HandshakeCodec.encodedLengths at ok
  obtain ⟨positive, ok⟩ := passed ok
  obtain ⟨small, ok⟩ := passed ok
  rw [lengthsKnown (by omega) (by omega)] at known
  cases Except.ok.inj known
  exact ⟨by omega, by omega, rfl, rfl⟩

theorem encodeWrites {codec : V2HandshakeCodec} {kind attempt} {payload output : Bytes} (handshake : kind ≠ .data)
    (nonzero : attempt.value ≠ 0) (positive : 1 ≤ payload.length) (small : payload.length ≤ codec.maximumOpaquePayload)
    (room : payload.length + 18 ≤ output.length) :
    codec.encode kind attempt payload output =
      (.ok (payload.length + 18),
        V2HandshakeCodec.frameBytes kind attempt (attemptIdLength + payload.length) payload ++
          output.drop (payload.length + 18)) := by
  have size : (V2HandshakeCodec.frameBytes kind attempt (attemptIdLength + payload.length) payload).length =
      payload.length + 18 := by
    simp only [frameSplit, List.length_append, headerLength, toBeBytes64, beLength]
    omega
  cases kind <;> first
    | contradiction
    | simp only [V2HandshakeCodec.encode, nonzero, if_false, lengthsKnown positive small, Nat.not_lt_of_le room,
        overwrite, size]

theorem encodeRefused {codec : V2HandshakeCodec} {kind attempt payload output e out}
    (failed : codec.encode kind attempt payload output = (.error e, out)) : out = output := by
  cases kind <;> simp only [V2HandshakeCodec.encode] at failed
  case data => exact (Prod.mk.inj failed).2.symm
  all_goals
    split at failed
    · exact (Prod.mk.inj failed).2.symm
    split at failed
    · exact (Prod.mk.inj failed).2.symm
    split at failed
    · exact (Prod.mk.inj failed).2.symm
    · exact absurd (Prod.mk.inj failed).1 (by simp)

theorem encodeLength {codec : V2HandshakeCodec} {kind attempt payload output length out}
    (done : codec.encode kind attempt payload output = (.ok length, out)) :
    codec.encodedLen payload.length = .ok length := by
  cases kind <;> simp only [V2HandshakeCodec.encode] at done
  case data => exact absurd (Prod.mk.inj done).1 (by simp)
  all_goals
    split at done
    · exact absurd (Prod.mk.inj done).1 (by simp)
    split at done
    · exact absurd (Prod.mk.inj done).1 (by simp)
    rename_i body total lengths
    split at done
    · exact absurd (Prod.mk.inj done).1 (by simp)
    · cases Except.ok.inj (Prod.mk.inj done).1
      rw [V2HandshakeCodec.encodedLen, lengths]
      rfl

theorem lengthFits {codec : V2HandshakeCodec} {n length : Nat} (ok : codec.encodedLen n = .ok length) :
    length ≤ codec.maxDatagramLen := by
  unfold V2HandshakeCodec.encodedLen at ok
  cases lengths : codec.encodedLengths n with
  | error e =>
    rw [lengths] at ok
    contradiction
  | ok pair =>
    obtain ⟨body, total⟩ := pair
    rw [lengths] at ok
    cases Except.ok.inj ok
    obtain ⟨_, small, _, rfl⟩ := lengthsBound lengths
    have size := codec.datagramIs
    simp only [commonHeaderLength, attemptIdLength] at size
    rw [V2HandshakeCodec.maxDatagramLen, size]
    change n + 18 ≤ _
    omega

theorem newPayload {k codec} (ok : V2HandshakeCodec.new k = .ok codec) : codec.maximumOpaquePayload = k := by
  unfold V2HandshakeCodec.new at ok
  iterate 6 split at ok <;> try contradiction
  cases Except.ok.inj ok
  rfl

structure Encoding (codec : V2HandshakeCodec) (kind : MessageType) (attempt : ClientAttemptId) (payload : Bytes)
    (datagram : Bytes) : Prop where
  handshake : kind ≠ .data
  nonzero : attempt.value ≠ 0
  positive : 1 ≤ payload.length
  small : payload.length ≤ codec.maximumOpaquePayload
  size : datagram.length = payload.length + 18
  written : ∀ output, payload.length + 18 ≤ output.length → codec.encode kind attempt payload output =
    (.ok (payload.length + 18), datagram ++ output.drop (payload.length + 18))

theorem encodes {codec : V2HandshakeCodec} {kind attempt} {payload : Bytes} (handshake : kind ≠ .data)
    (nonzero : attempt.value ≠ 0) (positive : 1 ≤ payload.length)
    (small : payload.length ≤ codec.maximumOpaquePayload) :
    Encoding codec kind attempt payload
      (V2HandshakeCodec.frameBytes kind attempt (attemptIdLength + payload.length) payload) := by
  refine ⟨handshake, nonzero, positive, small, ?_, ?_⟩
  · simp only [frameSplit, List.length_append, headerLength, toBeBytes64, beLength]
    omega
  · intro output room
    exact encodeWrites handshake nonzero positive small room

theorem encodingImage {codec : V2HandshakeCodec} {kind attempt payload datagram}
    (encoding : Encoding codec kind attempt payload datagram) :
    datagram = V2HandshakeCodec.frameBytes kind attempt (attemptIdLength + payload.length) payload := by
  obtain ⟨handshake, nonzero, positive, small, size, written⟩ := encoding
  have first := encodes handshake nonzero positive small
  have here := (written (List.replicate (payload.length + 18) 0) (by simp)).symm.trans
    (first.written (List.replicate (payload.length + 18) 0) (by simp))
  exact (List.append_inj (Prod.mk.inj here).2 (size.trans first.size.symm)).1

theorem encodingDecodes {codec : V2HandshakeCodec} {kind attempt payload datagram}
    (encoding : Encoding codec kind attempt payload datagram) :
    ∃ frame, codec.decode datagram = .ok frame ∧ kindOf frame = kind ∧ frame.body = ⟨attempt, payload⟩ := by
  obtain ⟨frame, -, named, same⟩ := bodyFrame encoding.handshake ⟨attempt, payload⟩
  refine ⟨frame, decodeComplete ⟨?_, ?_, ?_, ?_⟩, named, same⟩
  · rw [named, same]
    exact encodingImage encoding
  · rw [same]
    exact encoding.nonzero
  · rw [same]
    exact encoding.positive
  · rw [same]
    exact encoding.small

theorem decodedEncoding {codec : V2HandshakeCodec} {datagram frame} (ok : codec.decode datagram = .ok frame) :
    Encoding codec (kindOf frame) frame.body.clientAttemptId frame.body.opaquePayload datagram := by
  have form := decodeForm ok
  rw [form.image]
  exact encodes (kindHandshake frame) form.nonzero form.positive form.small

theorem handshakeFrameFormat {k : Nat} {codec : V2HandshakeCodec} (accepted : V2HandshakeCodec.new k = .ok codec) :
    (∀ kind attempt (payload output : Bytes), kind ≠ .data → attempt.value ≠ 0 → 1 ≤ payload.length →
      payload.length ≤ k → payload.length + 18 ≤ output.length →
      ∃ datagram frame, codec.encode kind attempt payload output =
          (.ok (payload.length + 18), datagram ++ output.drop (payload.length + 18)) ∧
        datagram.length = payload.length + 18 ∧ codec.decode datagram = .ok frame ∧
        kindOf frame = kind ∧ frame.body = ⟨attempt, payload⟩) ∧
    (∀ datagram, (∃ frame, codec.decode datagram = .ok frame) ↔
      ∃ kind attempt payload, Encoding codec kind attempt payload datagram) ∧
    (∀ datagram frame, codec.decode datagram = .ok frame → ∀ output, datagram.length ≤ output.length →
      codec.encode (kindOf frame) frame.body.clientAttemptId frame.body.opaquePayload output =
        (.ok datagram.length, datagram ++ output.drop datagram.length)) ∧
    (∀ datagram other frame, codec.decode datagram = .ok frame → codec.decode other = .ok frame →
      datagram = other) ∧
    (∀ kind attempt payload output e out,
      codec.encode kind attempt payload output = (.error e, out) → out = output) ∧
    (∀ kind attempt payload output length out, codec.encode kind attempt payload output = (.ok length, out) →
      codec.encodedLen payload.length = .ok length) ∧
    (∀ n length, codec.encodedLen n = .ok length → length ≤ codec.maxDatagramLen) ∧
    codec.maxDatagramLen ≤ 65507 := by
  rw [← newPayload accepted]
  refine ⟨?_, ?_, ?_, ?_, fun _ _ _ _ _ _ => encodeRefused, fun _ _ _ _ _ _ => encodeLength,
    fun _ _ => lengthFits, codec.datagramFits⟩
  · intro kind attempt payload output handshake nonzero positive small room
    have encoding := encodes handshake nonzero positive small
    obtain ⟨frame, decoded, named, same⟩ := encodingDecodes encoding
    exact ⟨_, frame, encoding.written output room, encoding.size, decoded, named, same⟩
  · intro datagram
    constructor
    · intro ⟨frame, ok⟩
      exact ⟨_, _, _, decodedEncoding ok⟩
    · intro ⟨kind, attempt, payload, encoding⟩
      obtain ⟨frame, decoded, _⟩ := encodingDecodes encoding
      exact ⟨frame, decoded⟩
  · intro datagram frame ok output room
    have encoding := decodedEncoding ok
    rw [encoding.size] at room ⊢
    exact encoding.written output room
  · intro datagram other frame left right
    rw [(decodeForm left).image, (decodeForm right).image]

theorem handshakeFrameFormatNoise : ∃ codec, V2HandshakeCodec.new 112 = .ok codec ∧
    ∀ output : Bytes, 130 ≤ output.length → ∃ datagram frame,
      codec.encode .clientHello ⟨7⟩ (List.replicate 112 5) output = (.ok 130, datagram ++ output.drop 130) ∧
        codec.decode datagram = .ok frame ∧ frame.body = ⟨⟨7⟩, List.replicate 112 5⟩ := by
  have accepted : V2HandshakeCodec.new 112 = .ok ⟨112, 130, by decide, by decide, by decide, by decide⟩ := rfl
  refine ⟨_, accepted, ?_⟩
  intro output room
  obtain ⟨datagram, frame, written, _, decoded, _, same⟩ := (handshakeFrameFormat accepted).1 .clientHello ⟨7⟩
    (List.replicate 112 5) output (by decide) (by decide) (by decide) (by decide) room
  exact ⟨datagram, frame, written, decoded, same⟩

end Crabnet.HandshakeExact
