import Crabnet.DataRuntime
import Mathlib.Logic.Function.Basic

/-! Two data loops over a network that does what it likes with datagrams. What
one side writes to its TUN is matched, one to one, by what the other side sent:
the window admits a sequence once, and a sealed header names one packet. -/
namespace Crabnet.DataDelivery
open MachineWord SessionTypes Fallible ReplayHistory DataFrame SnowBoundary DataSession DataRuntime

inductive Side where
  | client | server
  deriving DecidableEq, Repr

def Side.other : Side → Side
  | .client => .server
  | .server => .client

section
variable {S : Snow}

abbrev Ends (S : Snow) := Side → DataLoop S

/- The network is in the inputs: any datagram from any source may be received at
any iteration of either side, in any interleaving. -/
def step (ends : Ends S) (input : Side × Iteration) : (Side × List Effect) × Ends S :=
  let turn := (ends input.1).iterate input.2
  ((input.1, turn.1), Function.update ends input.1 turn.2)

def effectsOf (side : Side) (trace : List (Side × List Effect)) : List Effect :=
  trace.flatMap fun turn => if turn.1 = side then turn.2 else []

def writes (effects : List Effect) : List NoiseCall :=
  effects.filterMap fun | .noiseWrite call => some call | _ => none

def reads (effects : List Effect) : List NoiseCall :=
  effects.filterMap fun | .noiseRead call => some call | _ => none

def sent (effects : List Effect) : List (UInt64 × Bytes) :=
  effects.filterMap fun | .sendTo sequence _ _ packet => some (sequence, packet) | _ => none

def delivered (effects : List Effect) : List (UInt64 × Bytes) :=
  effects.filterMap fun | .tunWrite sequence packet => some (sequence, packet) | _ => none

/- A read gives `p` for `(n, c)` only if the other end wrote `p` under `n` and got
`c`. Nothing is asked of nonce 0, which the handshake used before the loops began. -/
def Authentic (trace : List (Side × List Effect)) : Prop :=
  ∀ side, ∀ read ∈ reads (effectsOf side trace), ∀ plaintext, read.result = some plaintext →
    read.nonce = 0 ∨ ∃ write ∈ writes (effectsOf side.other trace),
      write.nonce = read.nonce ∧ write.input = plaintext ∧ write.result = some read.input

structure Sealed (codec : DataFrameCodec) (effects : List Effect) (write : NoiseCall) (header : DataFrameHeader)
    (packet : Bytes) : Prop where
  input : write.input = sealedPayload header packet
  length : header.bodyLength.toNat = dataBodyFixedLength + (packet.length + dataTransportOverhead)
  positive : 0 < packet.length
  small : packet.length ≤ codec.maximumPlaintextPayload
  emitted : ∀ ciphertext frame, write.result = some ciphertext →
    encodeFrame codec header ciphertext = .ok frame → (write.nonce, packet) ∈ sent effects

structure Opened (effects : List Effect) (delivery : UInt64 × Bytes) (header : DataFrameHeader)
    (ciphertext : Bytes) : Prop where
  read : ⟨delivery.1, ciphertext, some (sealedPayload header delivery.2)⟩ ∈ reads effects
  length : header.bodyLength.toNat = dataBodyFixedLength + ciphertext.length
  ranged : inRange delivery.1

structure Sequenced (codec : DataFrameCodec) (effects : List Effect) (s : EstablishedDataSession S) :
    Prop where
  window : ∃ H, Tracks s.replayWindow H ∧ ∀ d ∈ delivered effects, d.1 ∈ H
  once : ((delivered effects).map Prod.fst).Nodup
  sealed_ : ∀ write ∈ writes effects, ∃ header packet, Sealed codec effects write header packet
  opened_ : ∀ d ∈ delivered effects, ∃ header ciphertext, Opened effects d header ciphertext

theorem sealedLater {codec effects write header packet} (more : List Effect)
    (ok : Sealed codec effects write header packet) : Sealed codec (effects ++ more) write header packet := by
  obtain ⟨input, length, positive, small, emitted⟩ := ok
  refine ⟨input, length, positive, small, ?_⟩
  intro ciphertext frame result encoded
  rw [sent, List.filterMap_append]
  exact List.mem_append_left _ (emitted ciphertext frame result encoded)

theorem openedLater {effects d header ciphertext} (more : List Effect)
    (ok : Opened effects d header ciphertext) : Opened (effects ++ more) d header ciphertext := by
  obtain ⟨read, length, ranged⟩ := ok
  refine ⟨?_, length, ranged⟩
  rw [reads, List.filterMap_append]
  exact List.mem_append_left _ read

theorem builtFacts {codec : DataFrameCodec} {s : EstablishedDataSession S} {sequence packet header}
    (built : buildHeader codec s sequence packet = .ok header) :
    header.bodyLength.toNat = dataBodyFixedLength + (packet.length + dataTransportOverhead) ∧
      0 < packet.length ∧ packet.length ≤ codec.maximumPlaintextPayload := by
  unfold buildHeader at built
  split at built <;> try contradiction
  rename_i made
  cases Except.ok.inj built
  obtain ⟨_, _, _, length, _, _, positive, small⟩ := headerBuilt made
  exact ⟨length, positive, small⟩

theorem sequencedQuiet {codec : DataFrameCodec} {effects more : List Effect} {s t : EstablishedDataSession S}
    (ok : Sequenced codec effects s) (window : ∃ H, Tracks t.replayWindow H ∧ ∀ d ∈ delivered effects, d.1 ∈ H)
    (noWrites : writes more = []) (noDeliveries : delivered more = []) :
    Sequenced codec (effects ++ more) t := by
  have same : delivered (effects ++ more) = delivered effects := by
    rw [delivered, List.filterMap_append]
    exact (congrArg _ noDeliveries).trans (List.append_nil _)
  have writesSame : writes (effects ++ more) = writes effects := by
    rw [writes, List.filterMap_append]
    exact (congrArg _ noWrites).trans (List.append_nil _)
  constructor
  · rw [same]
    exact window
  · rw [same]
    exact ok.once
  · rw [writesSame]
    intro write member
    obtain ⟨header, packet, held⟩ := ok.sealed_ write member
    exact ⟨header, packet, sealedLater more held⟩
  · rw [same]
    intro d member
    obtain ⟨header, ciphertext, held⟩ := ok.opened_ d member
    exact ⟨header, ciphertext, openedLater more held⟩

theorem sequencedWrite {codec : DataFrameCodec} {effects more : List Effect} {s t : EstablishedDataSession S}
    {write header packet} (ok : Sequenced codec effects s) (window : t.replayWindow = s.replayWindow)
    (oneWrite : writes more = [write]) (noDeliveries : delivered more = [])
    (held : Sealed codec (effects ++ more) write header packet) : Sequenced codec (effects ++ more) t := by
  have same : delivered (effects ++ more) = delivered effects := by
    rw [delivered, List.filterMap_append]
    exact (congrArg _ noDeliveries).trans (List.append_nil _)
  have writesAll : writes (effects ++ more) = writes effects ++ [write] := by
    rw [writes, List.filterMap_append]
    exact congrArg _ oneWrite
  constructor
  · rw [same, window]
    exact ok.window
  · rw [same]
    exact ok.once
  · rw [writesAll]
    intro w member
    rcases List.mem_append.mp member with earlier | last
    · obtain ⟨h, p, old⟩ := ok.sealed_ w earlier
      exact ⟨h, p, sealedLater more old⟩
    · cases List.mem_singleton.mp last
      exact ⟨header, packet, held⟩
  · rw [same]
    intro d member
    obtain ⟨h, c, old⟩ := ok.opened_ d member
    exact ⟨h, c, openedLater more old⟩

theorem screenedFacts {codec : DataFrameCodec} {s : EstablishedDataSession S} {datagram source frame}
    (screened : screen codec s datagram source = .ok frame) :
    inRange frame.header.sequence ∧
      frame.header.bodyLength.toNat = dataBodyFixedLength + frame.ciphertext.length ∧
      s.replayWindow.mayAttempt frame.header.sequence = .acceptable := by
  obtain ⟨decoded, _, _, _, fresh⟩ := screenedAcceptable screened
  have formed := decodeWellFormed decoded
  exact ⟨formed.ranged, formed.body, fresh⟩

theorem sequencedDelivery {codec : DataFrameCodec} {effects more : List Effect} {s t : EstablishedDataSession S}
    {d : UInt64 × Bytes} {header ciphertext} (ok : Sequenced codec effects s)
    (window : ∃ H, Tracks t.replayWindow (insert d.1 H) ∧ d.1 ∉ H ∧ ∀ e ∈ delivered effects, e.1 ∈ H)
    (noWrites : writes more = []) (oneDelivery : delivered more = [d])
    (held : Opened (effects ++ more) d header ciphertext) : Sequenced codec (effects ++ more) t := by
  obtain ⟨H, tracks, new, before⟩ := window
  have all : delivered (effects ++ more) = delivered effects ++ [d] := by
    rw [delivered, List.filterMap_append]
    exact congrArg _ oneDelivery
  have writesSame : writes (effects ++ more) = writes effects := by
    rw [writes, List.filterMap_append]
    exact (congrArg _ noWrites).trans (List.append_nil _)
  constructor
  · refine ⟨_, tracks, ?_⟩
    rw [all]
    intro e member
    rcases List.mem_append.mp member with earlier | last
    · exact Finset.mem_insert_of_mem (before e earlier)
    · cases List.mem_singleton.mp last
      exact Finset.mem_insert_self _ _
  · rw [all, List.map_append, List.nodup_append]
    refine ⟨ok.once, List.nodup_singleton _, ?_⟩
    intro a earlier b last same
    obtain ⟨e, member, rfl⟩ := List.mem_map.mp earlier
    have is : b = d.1 := List.mem_singleton.mp last
    exact new (is ▸ same ▸ before e member)
  · rw [writesSame]
    intro write member
    obtain ⟨h, p, old⟩ := ok.sealed_ write member
    exact ⟨h, p, sealedLater more old⟩
  · rw [all]
    intro e member
    rcases List.mem_append.mp member with earlier | last
    · obtain ⟨h, c, old⟩ := ok.opened_ e earlier
      exact ⟨h, c, openedLater more old⟩
    · cases List.mem_singleton.mp last
      exact ⟨header, ciphertext, held⟩

theorem sequencedStep {codec : DataFrameCodec} {effects more : List Effect} {s t : EstablishedDataSession S}
    (ok : Sequenced codec effects s) (progress : Progress codec s more t) :
    Sequenced codec (effects ++ more) t := by
  cases progress with
  | quiet lifetime => exact sequencedQuiet ok ok.window rfl rfl
  | refused lifetime live => exact sequencedQuiet ok ok.window rfl rfl
  | probed lifetime call => exact sequencedQuiet ok ok.window rfl rfl
  | unsent lifetime header packet result live built failed =>
    obtain ⟨length, positive, small⟩ := builtFacts built
    refine sequencedWrite ok rfl rfl rfl ⟨rfl, length, positive, small, ?_⟩
    intro ciphertext frame same encoded
    obtain ⟨stop, stopped⟩ := failed ciphertext same
    rw [stopped] at encoded
    contradiction
  | sent lifetime header packet ciphertext frame live built encoded =>
    obtain ⟨length, positive, small⟩ := builtFacts built
    refine sequencedWrite ok rfl rfl rfl ⟨rfl, length, positive, small, ?_⟩
    intro _ _ _ _
    rw [DataDelivery.sent, List.filterMap_append]
    exact List.mem_append_right _ List.mem_cons_self
  | committed lifetime datagram source frame packet authentic =>
    obtain ⟨ranged, _, fresh⟩ := screenedFacts authentic.screened
    obtain ⟨H, tracks, held⟩ := ok.window
    have next := (commitTracks tracks ranged fresh).2
    exact sequencedQuiet ok ⟨_, next, fun d member => Finset.mem_insert_of_mem (held d member)⟩ rfl rfl
  | delivered lifetime datagram source frame packet authentic =>
    obtain ⟨ranged, length, fresh⟩ := screenedFacts authentic.screened
    obtain ⟨H, tracks, held⟩ := ok.window
    have next := (commitTracks tracks ranged fresh).2
    have new := ((acceptableIff tracks).mp fresh).1
    have opened : Opened (effects ++
        [.noiseRead ⟨frame.header.sequence, frame.ciphertext, some (sealedPayload frame.header packet)⟩,
          .tunWrite frame.header.sequence packet]) (frame.header.sequence, packet) frame.header frame.ciphertext := by
      refine ⟨?_, length, ranged⟩
      rw [reads, List.filterMap_append]
      exact List.mem_append_right _ List.mem_cons_self
    exact sequencedDelivery (d := (frame.header.sequence, packet)) ok ⟨H, next, new, held⟩ rfl rfl opened

theorem effectsAppend (side : Side) (trace : List (Side × List Effect)) (turn : Side × List Effect) :
    effectsOf side (trace ++ [turn]) = effectsOf side trace ++ if turn.1 = side then turn.2 else [] := by
  simp [effectsOf]

def Accounted (trace : List (Side × List Effect)) (ends : Ends S) : Prop :=
  ∀ side, Sequenced (ends side).codec (effectsOf side trace) (ends side).session

theorem accountedStep (trace) (ends : Ends S) (input) (ok : Accounted trace ends) :
    Accounted (trace ++ [(step ends input).1]) (step ends input).2 := by
  intro side
  obtain ⟨codec, progress⟩ := iterateSpec (ends input.1) input.2
  rw [effectsAppend]
  by_cases own : input.1 = side
  · subst own
    have next := sequencedStep (ok input.1) progress
    simpa [step, codec] using next
  · have other : Function.update ends input.1 ((ends input.1).iterate input.2).2 side = ends side :=
      Function.update_of_ne (Ne.symm own) _ _
    simpa [step, own, other] using ok side

theorem encodeAccepts {codec : DataFrameCodec} {header : DataFrameHeader} {packet ciphertext : Bytes}
    (length : header.bodyLength.toNat = dataBodyFixedLength + (packet.length + dataTransportOverhead))
    (positive : 0 < packet.length) (small : packet.length ≤ codec.maximumPlaintextPayload)
    (declared : header.bodyLength.toNat = dataBodyFixedLength + ciphertext.length) :
    ∃ frame, encodeFrame codec header ciphertext = .ok frame := by
  have size : ciphertext.length = packet.length + dataTransportOverhead := by omega
  have limit := codec.ciphertextIs
  have datagram := codec.datagramIs
  have ceiling := codec.datagramFits
  have least : ¬ ciphertext.length < minimumDataCiphertextLength := by
    simp only [minimumDataCiphertextLength]
    omega
  have most : ¬ codec.maximumCiphertext < ciphertext.length := by omega
  have body : ¬ ciphertext.length ≠ header.bodyLength.toNat - dataBodyFixedLength := by omega
  have word : usizeCheckedAdd ciphertext.length dataHeaderLength =
      some (ciphertext.length + dataHeaderLength) := by
    rw [usizeCheckedAdd, if_pos]
    simp only [udpPayloadCeiling, usizeLimit] at *
    omega
  have room : ¬ (List.replicate codec.maximumDatagramLength (0 : UInt8)).length <
      ciphertext.length + dataHeaderLength := by
    rw [List.length_replicate]
    omega
  unfold encodeFrame DataFrameCodec.encodeData
  rw [if_neg least, if_neg most, if_neg body, word]
  simp only [if_neg room]
  exact ⟨_, rfl⟩

theorem sealedPayloadInj {a b : DataFrameHeader} {p q : Bytes} (same : sealedPayload a p = sealedPayload b q) :
    a = b ∧ p = q := by
  obtain ⟨headers, packets⟩ := List.append_inj same (by rw [headerBindingLength, headerBindingLength])
  exact ⟨headerBindingInj headers, packets⟩

theorem deliveredWasSent {trace : List (Side × List Effect)} {ends : Ends S} (ok : Accounted trace ends)
    (authentic : Authentic trace) (side : Side) :
    ∀ d ∈ delivered (effectsOf side trace), d ∈ sent (effectsOf side.other trace) := by
  intro d member
  obtain ⟨header, ciphertext, read, declared, ranged⟩ := (ok side).opened_ d member
  rcases authentic side _ read _ rfl with zero | ⟨write, written, nonce, input, result⟩
  · have impossible := ranged.1
    rw [show d.1 = 0 from zero] at impossible
    exact absurd impossible (by decide)
  · obtain ⟨header', packet, payload, length, positive, small, emitted⟩ := (ok side.other).sealed_ write written
    obtain ⟨sameHeader, samePacket⟩ := sealedPayloadInj (payload.symm.trans input)
    subst sameHeader
    subst samePacket
    obtain ⟨frame, encoded⟩ := encodeAccepts length positive small declared
    have emission := emitted ciphertext frame result encoded
    rw [nonce] at emission
    exact emission

theorem injectionOfNodup {α : Type} {xs ys : List α} (distinct : xs.Nodup) (within : ∀ x ∈ xs, x ∈ ys) :
    ∃ f : Fin xs.length → Fin ys.length, Function.Injective f ∧ ∀ i, ys.get (f i) = xs.get i := by
  have place : ∀ i : Fin xs.length, ∃ j : Fin ys.length, ys.get j = xs.get i :=
    fun i => List.mem_iff_get.mp (within _ (List.get_mem xs i))
  choose f found using place
  refine ⟨f, ?_, found⟩
  intro i j same
  have equal : xs.get i = xs.get j := by rw [← found i, ← found j, same]
  exact (List.Nodup.get_inj_iff distinct).mp equal

structure Opening (S : Snow) where
  codec : DataFrameCodec
  metadata : EstablishedSessionMetadata
  peerEndpoint : SocketAddr
  transport : Transport S
  lifetime : SessionLifetime

def Opening.loop (o : Opening S) : Side → DataLoop S
  | .client => ⟨o.codec, _, rfl, .client o.metadata o.peerEndpoint o.transport o.lifetime, none⟩
  | .server => ⟨o.codec, _, rfl, .server o.metadata o.peerEndpoint o.transport o.lifetime, none⟩

theorem accountedStart (opening : Side → Opening S) : Accounted [] fun side => (opening side).loop side := by
  intro side
  cases side <;> exact ⟨⟨∅, tracksNew, by simp [effectsOf, delivered]⟩, List.nodup_nil, by simp [effectsOf, writes],
    by simp [effectsOf, delivered]⟩

theorem exactlyOnceDelivery (opening : Side → Opening S) (inputs : List (Side × Iteration))
    (authentic : Authentic (run step (fun side => (opening side).loop side) inputs).1) :
    let trace := (run step (fun side => (opening side).loop side) inputs).1
    ∀ side : Side, ∃ f : Fin (delivered (effectsOf side trace)).length →
        Fin (sent (effectsOf side.other trace)).length,
      Function.Injective f ∧
      ∀ i, ((sent (effectsOf side.other trace)).get (f i)).2 = ((delivered (effectsOf side trace)).get i).2 := by
  intro trace side
  have ok : Accounted trace (run step (fun side => (opening side).loop side) inputs).2 := by
    have whole := runHistory accountedStep (accountedStart opening) inputs
    simpa using whole
  have distinct : (delivered (effectsOf side trace)).Nodup := List.Nodup.of_map _ (ok side).once
  obtain ⟨f, injective, found⟩ := injectionOfNodup distinct (deliveredWasSent ok authentic side)
  exact ⟨f, injective, fun i => congrArg Prod.snd (found i)⟩

/-! Two packets over the library without keys: the server receives the second frame
first and the other one twice, and writes each packet once. -/

def plainCodec : DataFrameCodec :=
  ⟨1400, 1467, 1518, by decide, by decide, by decide, by decide, by decide⟩

def plainSession : EstablishedSessionMetadata := ⟨⟨.copyFrom 32 [7]⟩, ⟨.copyFrom 32 [9]⟩⟩

def plainLimits : SessionLimits :=
  ⟨100, 100000, 100, 100000, 30, by decide, by decide, by decide, by decide, by decide⟩

def plainEndpoint : Side → SocketAddr
  | .client => .v4 1 5000
  | .server => .v4 2 6000

def plainOpening (side : Side) : Opening plainSnow :=
  ⟨plainCodec, plainSession, plainEndpoint side.other, ⟨(), 0⟩, .new 0 plainLimits⟩

def plainPacket : Bytes := [69, 0, 0, 1]

def plainHeader : DataFrameHeader := ⟨112, plainSession.sessionId, .clientToServer, 1⟩
def plainCiphertext : Bytes := plainSeal 1 (sealedPayload plainHeader plainPacket)
def plainFrame : Bytes := headerBindingBytes plainHeader ++ plainCiphertext

def plainSecond : Bytes := [69, 0, 0, 2]
def plainSecondHeader : DataFrameHeader := {plainHeader with sequence := 2}
def plainSecondCiphertext : Bytes := plainSeal 2 (sealedPayload plainSecondHeader plainSecond)
def plainSecondFrame : Bytes := headerBindingBytes plainSecondHeader ++ plainSecondCiphertext

def plainInputs : List (Side × Iteration) :=
  [(.client, ⟨1, .tunRead (some plainPacket) 1 (some plainFrame.length) 1⟩),
    (.client, ⟨2, .tunRead (some plainSecond) 2 (some plainSecondFrame.length) 2⟩),
    (.server, ⟨3, .received (some (plainSecondFrame, plainEndpoint .client)) 3 (some 4) 3⟩),
    (.server, ⟨4, .received (some (plainFrame, plainEndpoint .client)) 4 (some 4) 4⟩),
    (.server, ⟨5, .received (some (plainFrame, plainEndpoint .client)) 5 (some 4) 5⟩)]

def plainTrace : List (Side × List Effect) :=
  (run step (fun side => (plainOpening side).loop side) plainInputs).1

theorem plainAuthentic : Authentic plainTrace := by
  have written : writes (effectsOf .client plainTrace) =
      [⟨1, sealedPayload plainHeader plainPacket, some plainCiphertext⟩,
        ⟨2, sealedPayload plainSecondHeader plainSecond, some plainSecondCiphertext⟩] := by decide +kernel
  have server : reads (effectsOf .server plainTrace) =
      [⟨2, plainSecondCiphertext, some (sealedPayload plainSecondHeader plainSecond)⟩,
        ⟨1, plainCiphertext, some (sealedPayload plainHeader plainPacket)⟩] := by decide +kernel
  have client : reads (effectsOf .client plainTrace) = [] := by decide +kernel
  intro side read member plaintext result
  cases side with
  | client =>
    rw [client] at member
    exact absurd member List.not_mem_nil
  | server =>
    rw [server] at member
    rw [Side.other, written]
    rcases List.mem_cons.mp member with rfl | last
    · cases Option.some.inj result
      exact .inr ⟨_, List.mem_cons_of_mem _ List.mem_cons_self, rfl, rfl, rfl⟩
    · cases List.mem_singleton.mp last
      cases Option.some.inj result
      exact .inr ⟨_, List.mem_cons_self, rfl, rfl, rfl⟩

theorem plainPacketDelivered :
    Authentic plainTrace ∧ delivered (effectsOf .server plainTrace) = [(2, plainSecond), (1, plainPacket)] ∧
    ∃ f : Fin (delivered (effectsOf .server plainTrace)).length →
        Fin (sent (effectsOf .client plainTrace)).length,
      Function.Injective f ∧ ∀ i, ((sent (effectsOf .client plainTrace)).get (f i)).2 =
        ((delivered (effectsOf .server plainTrace)).get i).2 :=
  ⟨plainAuthentic, by decide +kernel, exactlyOnceDelivery plainOpening plainInputs plainAuthentic .server⟩

end
end Crabnet.DataDelivery
