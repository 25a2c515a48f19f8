import Crabnet.LoopAccounting

/-! What the network must do for nothing to be lost. A frame that reaches a running
loop while no packet more than 1023 ahead of it has been written is written,
whatever else arrives in between; so if each frame arrives so once, the packets
written are those sent, each once. -/
namespace Crabnet.LosslessDelivery
open MachineWord SessionTypes Fallible ReplayHistory DataFrame SnowBoundary DataSession DataRuntime DataDelivery
open LoopTurns LoopAccounting
open DataPipeline (Paired Sent sends encryptBytes decryptBytes decryptsOwn received)

section
variable {S : Snow}

def inputsOf (side : Side) (inputs : List (Side × Iteration)) : List Iteration :=
  inputs.filterMap fun input => if input.1 = side then some input.2 else none

theorem projected (side : Side) (inputs : List (Side × Iteration)) (ends : Side → DataLoop S) :
    effectsOf side (run step ends inputs).1 = effects (run turn (ends side) (inputsOf side inputs)).1 ∧
      (run step ends inputs).2 side = (run turn (ends side) (inputsOf side inputs)).2 := by
  induction inputs generalizing ends with
  | nil => exact ⟨rfl, rfl⟩
  | cons input rest ih =>
    obtain ⟨at_, it⟩ := input
    obtain ⟨before, after⟩ := ih (step ends (at_, it)).2
    by_cases own : at_ = side
    · subst own
      have next : (step ends (at_, it)).2 at_ = ((ends at_).iterate it).2 := Function.update_self ..
      rw [next] at before after
      simp only [inputsOf, List.filterMap_cons, if_true, run, turn] at before after ⊢
      refine ⟨?_, after⟩
      simp only [effectsOf, effects, List.flatMap_cons] at before ⊢
      rw [before]
      simp [step]
    · have other : (step ends (at_, it)).2 side = ends side := Function.update_of_ne (Ne.symm own) _ _
      rw [other] at before after
      simp only [inputsOf, List.filterMap_cons, if_neg own, run] at before after ⊢
      refine ⟨?_, after⟩
      rw [← before]
      simp [effectsOf, step, own]

theorem stoppedStays {l : DataLoop S} {stop : Stop} (stopped : l.outcome = some stop) (inputs : List Iteration) :
    (run turn l inputs).2 = l := by
  induction inputs with
  | nil => rfl
  | cons it rest ih =>
    have same : turn l it = ((it, []), l) := by simp only [turn, DataLoop.iterate, stopped]
    simp only [run, same]
    exact ih

theorem runningBefore {l : DataLoop S} {before after : List Iteration}
    (running : (run turn l (before ++ after)).2.outcome = none) : (run turn l before).2.outcome = none := by
  rw [runAppend] at running
  cases earlier : (run turn l before).2.outcome with
  | none => rfl
  | some stop =>
    rw [stoppedStays earlier, earlier] at running
    contradiction

theorem framedSent {codec : DataFrameCodec} {s : EstablishedDataSession S} {far : Transport S}
    {packet header ciphertext frame} (paired : Paired s.transport.state far.state)
    (framed : Framed codec s packet header ciphertext frame) :
    Sent codec s.transport far s.metadata.sessionId s.sendDirection s.nextSendSequence packet header ciphertext frame := by
  have built : codec.buildDataHeader s.metadata.sessionId s.sendDirection s.nextSendSequence packet.length = .ok header := by
    have made := framed.built
    unfold buildHeader at made
    split at made <;> try contradiction
    rename_i same
    cases Except.ok.inj made
    exact same
  obtain ⟨_, _, _, _, named, ranged, positive, small⟩ := headerBuilt built
  obtain ⟨header', ciphertext', frame', sent⟩ :=
    @sends S s.transport far paired codec _ s.sendDirection _ packet named ranged positive small
  cases Except.ok.inj (sent.built.symm.trans built)
  have encrypted := framed.encrypted
  rw [encryptBytes, sent.encrypted] at encrypted
  cases Option.some.inj encrypted
  have encoded := framed.encoded
  simp only [encodeFrame, sent.encoded, List.take_left' rfl] at encoded
  cases Except.ok.inj encoded
  exact sent

def Void (codec : DataFrameCodec) (effects : List Effect) (sequence : UInt64) : Prop :=
  ∃ header ciphertext packet, ⟨sequence, ciphertext, some (sealedPayload header packet)⟩ ∈ reads effects ∧
    (packet.length = 0 ∨ codec.maximumPlaintextPayload < packet.length)

structure Held (codec : DataFrameCodec) (effects : List Effect) (window : ReplayWindow) (H : Finset UInt64) : Prop where
  tracks : Tracks window H
  known : ∀ sequence ∈ H, inRange sequence ∧
    (sequence ∈ (delivered effects).map Prod.fst ∨ Void codec effects sequence)

structure Streamed (far : Transport S) (first : DataLoop S) (effects : List Effect) (l : DataLoop S) : Prop where
  once : ((sent effects).map Prod.fst).Nodup
  posted : ∀ sequence destination frame packet, .sendTo sequence destination frame packet ∈ effects →
    ∃ header ciphertext, Sent first.codec first.session.transport far first.session.metadata.sessionId
      first.session.sendDirection sequence packet header ciphertext frame
  below : l.outcome = none → ∀ sequence ∈ (sent effects).map Prod.fst, sequence.toNat < l.session.nextSendSequence.toNat
  window : l.outcome = none → ∃ H, Held first.codec effects l.session.replayWindow H

theorem sentAppend (a b : List Effect) : sent (a ++ b) = sent a ++ sent b := by simp [sent]
theorem deliveredAppend (a b : List Effect) : delivered (a ++ b) = delivered a ++ delivered b := by simp [delivered]
theorem readsAppend (a b : List Effect) : reads (a ++ b) = reads a ++ reads b := by simp [reads]

theorem heldLater {codec : DataFrameCodec} {effects : List Effect} {window H} (more : List Effect)
    (held : Held codec effects window H) : Held codec (effects ++ more) window H := by
  refine ⟨held.tracks, ?_⟩
  intro sequence member
  obtain ⟨ranged, why⟩ := held.known sequence member
  refine ⟨ranged, ?_⟩
  rcases why with written | ⟨header, ciphertext, packet, read, size⟩
  · rw [deliveredAppend, List.map_append]
    exact .inl (List.mem_append_left _ written)
  · refine .inr ⟨header, ciphertext, packet, ?_, size⟩
    rw [readsAppend]
    exact List.mem_append_left _ read

theorem heldAccepted {codec : DataFrameCodec} {effects more : List Effect} {s : EstablishedDataSession S} {sequence H} (lifetime : SessionLifetime)
    (held : Held codec effects s.replayWindow H) (ranged : inRange sequence)
    (fresh : s.replayWindow.mayAttempt sequence = .acceptable)
    (why : sequence ∈ (delivered (effects ++ more)).map Prod.fst ∨ Void codec (effects ++ more) sequence) :
    Held codec (effects ++ more) (accepted s sequence lifetime).replayWindow (insert sequence H) := by
  refine ⟨(commitTracks held.tracks ranged fresh).2, ?_⟩
  intro other member
  rcases Finset.mem_insert.mp member with rfl | earlier
  · exact ⟨ranged, why⟩
  · exact (heldLater more held).known other earlier

theorem sentMember {effects : List Effect} {sequence destination frame packet}
    (member : .sendTo sequence destination frame packet ∈ effects) : (sequence, packet) ∈ sent effects :=
  List.mem_filterMap.mpr ⟨_, member, rfl⟩

theorem sentEffect {effects : List Effect} {sequence packet} (member : (sequence, packet) ∈ sent effects) :
    ∃ destination frame, .sendTo sequence destination frame packet ∈ effects := by
  obtain ⟨effect, present, is⟩ := List.mem_filterMap.mp member
  cases effect with
  | sendTo n destination frame p =>
    cases is
    exact ⟨destination, frame, present⟩
  | noiseWrite | noiseRead | tunWrite => contradiction

variable {far : Transport S} {first l next : DataLoop S} {past more : List Effect}

theorem streamedQuiet (streamed : Streamed far first past l) (unsent : sent more = [])
    (same : next.outcome = none → l.outcome = none ∧ next.session.nextSendSequence = l.session.nextSendSequence ∧
      ∃ H, Held first.codec (past ++ more) next.session.replayWindow H) :
    Streamed far first (past ++ more) next := by
  have all : sent (past ++ more) = sent past := by rw [sentAppend, unsent, List.append_nil]
  constructor
  · rw [all]
    exact streamed.once
  · intro sequence destination frame packet member
    rcases List.mem_append.mp member with earlier | last
    · exact streamed.posted sequence destination frame packet earlier
    · have impossible := sentMember last
      rw [unsent] at impossible
      exact absurd impossible List.not_mem_nil
  · intro running
    obtain ⟨before, sequence, -⟩ := same running
    rw [all, sequence]
    exact streamed.below before
  · intro running
    exact (same running).2.2

theorem streamedSent {packet header ciphertext frame} (streamed : Streamed far first past l)
    (running : l.outcome = none) (kin : Kin first.session l.session) (codec : l.codec = first.codec)
    (paired : Paired first.session.transport.state far.state)
    (framed : Framed l.codec l.session packet header ciphertext frame)
    (advanced : next.session.nextSendSequence = (advance l.session l.session.lifetime).nextSendSequence)
    (window : next.session.replayWindow = l.session.replayWindow) :
    Streamed far first (past ++ sendCalls l.session packet header ciphertext frame) next := by
  have all : (sent (past ++ sendCalls l.session packet header ciphertext frame)).map Prod.fst =
      (sent past).map Prod.fst ++ [l.session.nextSendSequence] := by
    rw [sentAppend, List.map_append]
    rfl
  have below := streamed.below running
  have up : next.session.nextSendSequence.toNat = l.session.nextSendSequence.toNat + 1 := by
    rw [advanced]
    exact allocatedNat framed.live
  constructor
  · rw [all, List.nodup_append]
    refine ⟨streamed.once, List.nodup_singleton _, ?_⟩
    intro a earlier b last same
    rw [List.mem_singleton.mp last] at same
    have smaller := below a earlier
    rw [same] at smaller
    exact Nat.lt_irrefl _ smaller
  · intro sequence destination frame' packet' member
    rcases List.mem_append.mp member with earlier | last
    · exact streamed.posted sequence destination frame' packet' earlier
    · have named : Effect.sendTo sequence destination frame' packet' =
          .sendTo l.session.nextSendSequence l.session.peerEndpoint frame packet := by
        simpa [sendCalls] using last
      cases named
      rw [← kin.transport] at paired
      have sent := framedSent paired framed
      rw [kin.transport, kin.metadata, kin.sendDirection, codec] at sent
      exact ⟨header, ciphertext, sent⟩
  · intro _ sequence member
    rw [all] at member
    rcases List.mem_append.mp member with earlier | last
    · have smaller := below sequence earlier
      omega
    · rw [List.mem_singleton.mp last]
      omega
  · intro _
    obtain ⟨H, held⟩ := streamed.window running
    rw [window]
    exact ⟨H, heldLater _ held⟩

theorem streamedStop {stop} (streamed : Streamed far first past l) (unsent : sent more = [])
    (stopped : next.outcome = some stop) : Streamed far first (past ++ more) next := by
  refine streamedQuiet streamed unsent ?_
  intro running
  rw [stopped] at running
  contradiction

theorem streamedPass (streamed : Streamed far first past l) (running : l.outcome = none) (unsent : sent more = [])
    (same : next.session = l.session) : Streamed far first (past ++ more) next := by
  refine streamedQuiet streamed unsent ?_
  intro _
  obtain ⟨H, held⟩ := streamed.window running
  rw [same]
  exact ⟨running, rfl, H, heldLater more held⟩

theorem openedCall {s : EstablishedDataSession S} {frame : DecodedDataFrame} {packet}
    (opens : plaintextOf s frame = .plaintext packet) :
    readCall s frame = .noiseRead ⟨frame.header.sequence, frame.ciphertext, some (sealedPayload frame.header packet)⟩ := by
  rw [readCall, boundSealed opens]

theorem screenedRange {codec : DataFrameCodec} {s : EstablishedDataSession S} {it frame permitAt answer recordAt}
    (arrival : Screened codec s it frame permitAt answer recordAt) :
    inRange frame.header.sequence ∧ s.replayWindow.mayAttempt frame.header.sequence = .acceptable := by
  obtain ⟨raw, source, _, screened⟩ := arrival.wake
  obtain ⟨ranged, _, fresh⟩ := screenedFacts screened
  exact ⟨ranged, fresh⟩

theorem streamedTurn {it : Iteration} (streamed : Streamed far first past l) (running : l.outcome = none)
    (kin : Kin first.session l.session) (codec : l.codec = first.codec)
    (paired : Paired first.session.transport.state far.state)
    (ran : Turn l.codec l.session it more next.session next.outcome) : Streamed far first (past ++ more) next := by
  obtain ⟨H, held⟩ := streamed.window running
  generalize same : next.session = t at ran
  generalize ended : next.outcome = outcome at ran
  cases ran with
  | overflow => exact streamedStop streamed rfl ended
  | idle => exact streamedStop streamed rfl ended
  | interrupted => exact streamedStop streamed rfl ended
  | unread => exact streamedStop streamed rfl ended
  | unreceived => exact streamedStop streamed rfl ended
  | early => exact streamedPass streamed running rfl same
  | unfit => exact streamedPass streamed running rfl same
  | refused => exact streamedStop streamed rfl ended
  | unsealed offer unsent => exact streamedStop streamed unsent ended
  | unsent offer fits framed failed =>
    exact streamedSent streamed running kin codec paired framed (by rw [same]) (by rw [same]; rfl)
  | sent offer fits framed sum =>
    exact streamedSent streamed running kin codec paired framed (by rw [same]; rfl) (by rw [same]; rfl)
  | dropped => exact streamedPass streamed running rfl same
  | probed => exact streamedPass streamed running rfl same
  | @void frame packet _ _ _ arrival opens size =>
    obtain ⟨ranged, fresh⟩ := screenedRange arrival
    have why : Void first.codec (past ++ [readCall l.session frame]) frame.header.sequence := by
      refine ⟨frame.header, frame.ciphertext, packet, ?_, codec ▸ size⟩
      rw [readsAppend, openedCall opens]
      exact List.mem_append_right _ List.mem_cons_self
    have kept := heldAccepted l.session.lifetime held ranged fresh (.inr why)
    exact streamedQuiet streamed rfl (fun _ => ⟨running, by rw [same]; rfl, _, by rw [same]; exact kept⟩)
  | stopped => exact streamedStop streamed rfl ended
  | unwritten => exact streamedStop streamed rfl ended
  | @delivered frame packet _ _ time counters arrival opens positive small fits sum =>
    obtain ⟨ranged, fresh⟩ := screenedRange arrival
    have why : frame.header.sequence ∈
        (delivered (past ++ [readCall l.session frame, .tunWrite frame.header.sequence packet])).map Prod.fst := by
      rw [deliveredAppend, List.map_append]
      exact List.mem_append_right _ List.mem_cons_self
    have kept := heldAccepted l.session.lifetime held ranged fresh (.inl why)
    exact streamedQuiet streamed rfl (fun _ => ⟨running, by rw [same]; rfl, _, by rw [same]; exact kept⟩)

theorem streamedStep {created : Instant} (paired : Paired first.session.transport.state far.state)
    (trace) (l : DataLoop S) (it : Iteration)
    (inv : Metered created first trace l ∧ Streamed far first (effects trace) l) :
    Metered created first (trace ++ [(turn l it).1]) (turn l it).2 ∧
      Streamed far first (effects (trace ++ [(turn l it).1])) (turn l it).2 := by
  obtain ⟨metered, streamed⟩ := inv
  refine ⟨meteredStep trace l it metered, ?_⟩
  rw [turn, effectsSnoc]
  cases running : l.outcome with
  | some stop =>
    have quiet : l.iterate it = ([], l) := by simp only [DataLoop.iterate, running]
    rw [quiet]
    exact streamedStop streamed rfl running
  | none =>
    have ran := iterateTurn it running (metered.open_ running).state
    exact streamedTurn streamed running metered.kin metered.codec paired ran

theorem startStreamed {opening : Opening S} {side : Side} :
    Streamed far (opening.loop side) [] (opening.loop side) := by
  refine ⟨List.nodup_nil, ?_, ?_, ?_⟩
  · intro _ _ _ _ member
    exact absurd member List.not_mem_nil
  · intro _ _ member
    exact absurd member List.not_mem_nil
  · intro _
    refine ⟨∅, ?_, fun _ member => absurd member (Finset.notMem_empty _)⟩
    cases side <;> exact tracksNew

theorem runStreamed {opening : Opening S} {created : Instant} {limits : SessionLimits}
    (fresh : opening.lifetime = .new created limits) (side : Side)
    (paired : Paired opening.transport.state far.state) (inputs : List Iteration) :
    Metered created (opening.loop side) (run turn (opening.loop side) inputs).1 (run turn (opening.loop side) inputs).2 ∧
      Streamed far (opening.loop side) (effects (run turn (opening.loop side) inputs).1)
        (run turn (opening.loop side) inputs).2 := by
  have linked : Paired (opening.loop side).session.transport.state far.state := by
    rw [loopTransport]
    exact paired
  have whole := runHistory (streamedStep linked) ⟨startMetered fresh side, startStreamed⟩ inputs
  simpa using whole

theorem turnWrites {codec : DataFrameCodec} {s t : EstablishedDataSession S} {it : Iteration}
    {raw source permitAt answer recordAt frame packet} (ran : Turn codec s it more t none)
    (wake : it.wake = .received (some (raw, source)) permitAt answer recordAt)
    (screened : screen codec s (raw.take (codec.maximumDatagramLength + 1)) source = .ok frame)
    (opens : plaintextOf s frame = .plaintext packet) (positive : 0 < packet.length)
    (small : packet.length ≤ codec.maximumPlaintextPayload) : (frame.header.sequence, packet) ∈ delivered more := by
  have known : ∀ {frame' permitAt' answer' recordAt'}, Screened codec s it frame' permitAt' answer' recordAt' →
      frame' = frame := by
    intro frame' _ _ _ arrival
    obtain ⟨raw', source', wake', screened'⟩ := arrival.wake
    cases wake.symm.trans wake'
    exact Except.ok.inj (screened'.symm.trans screened)
  cases ran with
  | early other => cases wake.symm.trans other
  | unfit other => cases wake.symm.trans other
  | sent offer =>
    obtain ⟨_, other, _⟩ := offer.wake
    cases wake.symm.trans other
  | dropped other refused =>
    cases wake.symm.trans other
    cases refused.symm.trans screened
  | probed arrival closed =>
    cases known arrival
    exact absurd opens (closed packet)
  | void arrival other size =>
    cases known arrival
    cases opens.symm.trans other
    omega
  | delivered arrival other =>
    cases known arrival
    cases opens.symm.trans other
    exact List.mem_cons_self

structure Joined (opening : Side → Opening S) : Prop where
  paired : ∀ side, Paired (opening side).transport.state (opening side.other).transport.state
  identifier : ∀ side, (opening side.other).metadata.sessionId = (opening side).metadata.sessionId
  mtu : ∀ side, (opening side.other).codec.maximumPlaintextPayload = (opening side).codec.maximumPlaintextPayload
  fresh : ∀ side, ∃ created limits, (opening side).lifetime = .new created limits

theorem otherOther (side : Side) : side.other.other = side := by cases side <;> rfl

theorem datagramSame {a b : DataFrameCodec} (mtu : a.maximumPlaintextPayload = b.maximumPlaintextPayload) :
    a.maximumDatagramLength = b.maximumDatagramLength := by
  rw [a.datagramIs, b.datagramIs, a.ciphertextIs, b.ciphertextIs, mtu]

theorem ownScreened {opening : Side → Opening S} (joined : Joined opening) {side : Side} {l : DataLoop S}
    (kin : Kin ((opening side).loop side).session l.session) (codec : l.codec = (opening side).codec)
    {sequence packet header ciphertext frame}
    (sent : Sent (opening side.other).codec (opening side.other).transport (opening side).transport
      (opening side.other).metadata.sessionId ((opening side.other).loop side.other).session.sendDirection sequence packet
      header ciphertext frame) (fresh : l.session.replayWindow.mayAttempt sequence = .acceptable) :
    header.sequence = sequence ∧ 0 < packet.length ∧ packet.length ≤ l.codec.maximumPlaintextPayload ∧
      screen l.codec l.session (frame.take (l.codec.maximumDatagramLength + 1)) (opening side).peerEndpoint =
        .ok ⟨header, ciphertext⟩ ∧ plaintextOf l.session ⟨header, ciphertext⟩ = .plaintext packet := by
  obtain ⟨identifier, direction, number, _, _, _, positive, small⟩ := headerBuilt sent.built
  have mtu := joined.mtu side
  rw [← codec] at mtu
  have decoded := received sent mtu.symm
  have fits := sent.fits
  rw [datagramSame mtu] at fits
  have whole : frame.take (l.codec.maximumDatagramLength + 1) = frame := List.take_of_length_le (by omega)
  have peer : (opening side).peerEndpoint = l.session.peerEndpoint := by
    rw [kin.peerEndpoint]
    cases side <;> rfl
  have session : header.sessionId = l.session.metadata.sessionId := by
    rw [identifier, joined.identifier side, kin.metadata, loopMetadata]
  have way : header.direction = l.session.receiveDirection := by
    rw [direction, kin.receiveDirection]
    cases side <;> rfl
  have transport : l.session.transport = (opening side).transport := by
    rw [kin.transport, loopTransport]
  refine ⟨number, positive, mtu ▸ small, ?_, ?_⟩
  · rw [whole]
    unfold screen
    rw [if_neg (by omega), decoded]
    simp only [peer, session, way, number, fresh, ne_eq, not_true_eq_false, or_self, if_false]
  · have reads := sent.reads
    rw [← transport, ← number] at reads
    rw [plaintextOf, decryptBytes]
    exact decryptsOwn reads

abbrev both (opening : Side → Opening S) : Side → DataLoop S := fun side => (opening side).loop side

theorem runCodec {opening : Opening S} {created : Instant} {limits : SessionLimits}
    (fresh : opening.lifetime = .new created limits) (side : Side) (inputs : List Iteration) :
    (run turn (opening.loop side) inputs).2.codec = opening.codec :=
  (runMetered fresh side inputs).codec.trans (loopCodec opening side)

/- A legal payload is all that the other side seals, so nothing is taken for another. -/
theorem noVoid {opening : Side → Opening S} (joined : Joined opening) {inputs : List (Side × Iteration)}
    (authentic : Authentic (run step (both opening) inputs).1) {side : Side} {sequence : UInt64} (ranged : inRange sequence) :
    ¬ Void (opening side).codec (effectsOf side (run step (both opening) inputs).1) sequence := by
  intro ⟨header, ciphertext, packet, read, size⟩
  have ok : Accounted (run step (both opening) inputs).1 (run step (both opening) inputs).2 := by
    have whole := runHistory accountedStep (accountedStart opening) inputs
    simpa using whole
  rcases authentic side _ read _ rfl with zero | ⟨write, written, _, input, _⟩
  · have impossible := ranged.1
    rw [show sequence = 0 from zero] at impossible
    exact absurd impossible (by decide)
  · obtain ⟨header', packet', sealed_⟩ := (ok side.other).sealed_ write written
    obtain ⟨_, rfl⟩ := sealedPayloadInj (sealed_.input.symm.trans input)
    obtain ⟨created, limits, fresh⟩ := joined.fresh side.other
    have codec : ((run step (both opening) inputs).2 side.other).codec = (opening side.other).codec := by
      rw [(projected side.other inputs (both opening)).2]
      exact runCodec fresh side.other _
    have positive := sealed_.positive
    have small := sealed_.small
    rw [codec, joined.mtu side] at small
    omega

theorem inputsSplit (side : Side) (before after : List (Side × Iteration)) (it : Iteration) :
    inputsOf side (before ++ (side, it) :: after) = inputsOf side before ++ it :: inputsOf side after := by
  simp [inputsOf, List.filterMap_append]

theorem acceptableHere {codec : DataFrameCodec} {effects : List Effect} {window H} {sequence : UInt64}
    (held : Held codec effects window H) (legal : ∀ n, inRange n → ¬ Void codec effects n)
    (unseen : sequence ∉ (delivered effects).map Prod.fst)
    (recent : ∀ d ∈ delivered effects, d.1.toNat < sequence.toNat + 1024) :
    window.mayAttempt sequence = .acceptable := by
  have written : ∀ n ∈ H, n ∈ (delivered effects).map Prod.fst := by
    intro n member
    obtain ⟨ranged, why⟩ := held.known n member
    exact why.resolve_right (legal n ranged)
  rw [acceptableIff held.tracks]
  refine ⟨fun member => unseen (written sequence member), .inr ?_⟩
  have near : ∀ n ∈ H, rank n < rank sequence + width := by
    intro n member
    obtain ⟨d, there, rfl⟩ := List.mem_map.mp (written n member)
    exact recent d there
  exact (Finset.sup_lt_iff (by simp only [width, Nat.bot_eq_zero]; omega)).mpr near

theorem arrivalHere {opening : Side → Opening S} (joined : Joined opening) {side : Side} {created : Instant} {trace}
    {l : DataLoop S} {it : Iteration} (metered : Metered created ((opening side).loop side) trace l)
    (running : l.outcome = none) (still : (l.iterate it).2.outcome = none)
    {sequence frame packet header ciphertext permitAt answer recordAt}
    (sent : Sent (opening side.other).codec (opening side.other).transport (opening side).transport
      (opening side.other).metadata.sessionId ((opening side.other).loop side.other).session.sendDirection sequence packet
      header ciphertext frame)
    (wake : it.wake = .received (some (frame, (opening side).peerEndpoint)) permitAt answer recordAt)
    (fresh : l.session.replayWindow.mayAttempt sequence = .acceptable) :
    (sequence, packet) ∈ delivered (l.iterate it).1 := by
  have codec : l.codec = (opening side).codec := metered.codec.trans (loopCodec _ side)
  obtain ⟨number, positive, small, screened, opens⟩ := ownScreened joined metered.kin codec sent fresh
  have ran := iterateTurn it running (metered.open_ running).state
  rw [still] at ran
  have written := turnWrites ran wake screened opens positive small
  rw [number] at written
  exact written

theorem voidLater {codec : DataFrameCodec} {effects : List Effect} {sequence} (more : List Effect)
    (void : Void codec effects sequence) : Void codec (effects ++ more) sequence := by
  obtain ⟨header, ciphertext, packet, read, size⟩ := void
  refine ⟨header, ciphertext, packet, ?_, size⟩
  rw [readsAppend]
  exact List.mem_append_left _ read

theorem arrivalWrites {opening : Side → Opening S} (joined : Joined opening) {before after : List (Side × Iteration)}
    {side : Side} {it : Iteration} (authentic : Authentic (run step (both opening) (before ++ (side, it) :: after)).1)
    (running : ((run step (both opening) (before ++ (side, it) :: after)).2 side).outcome = none)
    {sequence destination frame packet permitAt answer recordAt}
    (posted : .sendTo sequence destination frame packet ∈ effectsOf side.other (run step (both opening) before).1)
    (wake : it.wake = .received (some (frame, (opening side).peerEndpoint)) permitAt answer recordAt)
    (recent : ∀ d ∈ delivered (effectsOf side (run step (both opening) before).1), d.1.toNat < sequence.toNat + 1024) :
    sequence ∈ (delivered (effectsOf side (run step (both opening) (before ++ (side, it) :: after)).1)).map Prod.fst := by
  obtain ⟨created, limits, fresh⟩ := joined.fresh side
  obtain ⟨created', limits', fresh'⟩ := joined.fresh side.other
  have pairedThere := joined.paired side.other
  rw [otherOther] at pairedThere
  have there := (runStreamed fresh' side.other pairedThere (inputsOf side.other before)).2
  rw [(projected side.other before (both opening)).1] at posted
  obtain ⟨header, ciphertext, sent⟩ := there.posted _ _ _ _ posted
  obtain ⟨metered, streamed⟩ := runStreamed fresh side (joined.paired side) (inputsOf side before)
  have legal := @noVoid S opening joined _ authentic side
  obtain ⟨whole, end_⟩ := projected side (before ++ (side, it) :: after) (both opening)
  rw [inputsSplit] at whole end_
  rw [end_] at running
  rw [(projected side before (both opening)).1] at recent
  rw [whole] at legal ⊢
  have goes := runningBefore running
  have still : (turn (run turn ((opening side).loop side) (inputsOf side before)).2 it).2.outcome = none := by
    rw [← runSnoc]
    refine @runningBefore S _ _ (inputsOf side after) ?_
    rw [List.append_assoc]
    exact running
  have parts : effects (run turn ((opening side).loop side) (inputsOf side before ++ it :: inputsOf side after)).1 =
      effects (run turn ((opening side).loop side) (inputsOf side before)).1 ++
        (((run turn ((opening side).loop side) (inputsOf side before)).2.iterate it).1 ++
        effects (run turn (turn (run turn ((opening side).loop side) (inputsOf side before)).2 it).2
          (inputsOf side after)).1) := by
    rw [runAppend]
    simp [effects, run, turn]
  rw [parts] at legal ⊢
  rw [deliveredAppend, deliveredAppend, List.map_append, List.map_append]
  by_cases seen : sequence ∈ (delivered (effects (run turn ((opening side).loop side) (inputsOf side before)).1)).map Prod.fst
  · exact List.mem_append_left _ seen
  · obtain ⟨H, held⟩ := streamed.window goes
    rw [loopCodec] at held
    have open_ := acceptableHere held (fun n ranged void => legal ranged (voidLater _ void)) seen recent
    rw [loopCodec, loopTransport, loopMetadata] at sent
    have written := arrivalHere joined metered goes still sent wake open_
    exact List.mem_append_right _ (List.mem_append_left _ (List.mem_map.mpr ⟨_, written, rfl⟩))

/- The other side's frames each reach this side once, early enough: no packet of a
sequence 1024 or more above it has been written before. Copies, forgeries and
datagrams of others may come at any time. -/
def ReachesInWindow (opening : Side → Opening S) (inputs : List (Side × Iteration)) (side : Side) : Prop :=
  ∀ sequence destination frame packet,
    .sendTo sequence destination frame packet ∈ effectsOf side.other (run step (both opening) inputs).1 →
    ∃ before it after permitAt answer recordAt, inputs = before ++ (side, it) :: after ∧
      .sendTo sequence destination frame packet ∈ effectsOf side.other (run step (both opening) before).1 ∧
      it.wake = .received (some (frame, (opening side).peerEndpoint)) permitAt answer recordAt ∧
      ∀ d ∈ delivered (effectsOf side (run step (both opening) before).1), d.1.toNat < sequence.toNat + 1024

theorem losslessDelivery {opening : Side → Opening S} (joined : Joined opening) (inputs : List (Side × Iteration))
    (authentic : Authentic (run step (both opening) inputs).1) {side : Side}
    (running : ((run step (both opening) inputs).2 side).outcome = none)
    (reaches : ReachesInWindow opening inputs side) :
    List.Perm (delivered (effectsOf side (run step (both opening) inputs).1))
      (sent (effectsOf side.other (run step (both opening) inputs).1)) := by
  have ok : Accounted (run step (both opening) inputs).1 (run step (both opening) inputs).2 := by
    have whole := runHistory accountedStep (accountedStart opening) inputs
    simpa using whole
  have within := deliveredWasSent ok authentic side
  obtain ⟨created, limits, fresh⟩ := joined.fresh side.other
  have paired := joined.paired side.other
  rw [otherOther] at paired
  have once := (runStreamed fresh side.other paired (inputsOf side.other inputs)).2.once
  rw [← (projected side.other inputs (both opening)).1] at once
  refine (List.perm_ext_iff_of_nodup (List.Nodup.of_map _ (ok side).once) (List.Nodup.of_map _ once)).mpr ?_
  intro d
  refine ⟨within d, fun member => ?_⟩
  obtain ⟨destination, frame, emitted⟩ := sentEffect member
  obtain ⟨before, it, after, _, _, _, rfl, posted, wake, recent⟩ := reaches _ _ _ _ emitted
  obtain ⟨e, written, same⟩ := List.mem_map.mp (arrivalWrites joined authentic running posted wake recent)
  have equal : e = d := List.inj_on_of_nodup_map once (within e written) member same
  exact equal ▸ written

end

theorem plainJoined : Joined plainOpening where
  paired _ := DataPipeline.plainPaired
  identifier _ := rfl
  mtu _ := rfl
  fresh _ := ⟨0, plainLimits, rfl⟩

theorem plainReaches : ReachesInWindow plainOpening plainInputs .server := by
  have emitted : effectsOf .client (run step (both plainOpening) plainInputs).1 =
      [.noiseWrite ⟨1, sealedPayload plainHeader plainPacket, some plainCiphertext⟩,
        .sendTo 1 (plainEndpoint .server) plainFrame plainPacket,
        .noiseWrite ⟨2, sealedPayload plainSecondHeader plainSecond, some plainSecondCiphertext⟩,
        .sendTo 2 (plainEndpoint .server) plainSecondFrame plainSecond] := by decide +kernel
  have early : effectsOf .client (run step (both plainOpening) (plainInputs.take 2)).1 =
      effectsOf .client (run step (both plainOpening) plainInputs).1 := by decide +kernel
  have late : effectsOf .client (run step (both plainOpening) (plainInputs.take 3)).1 =
      effectsOf .client (run step (both plainOpening) plainInputs).1 := by decide +kernel
  have nothing : delivered (effectsOf .server (run step (both plainOpening) (plainInputs.take 2)).1) = [] := by
    decide +kernel
  have second : delivered (effectsOf .server (run step (both plainOpening) (plainInputs.take 3)).1) = [(2, plainSecond)] := by
    decide +kernel
  intro sequence destination frame packet member
  have member' := member
  rw [Side.other, emitted] at member'
  have named : Effect.sendTo sequence destination frame packet = .sendTo 1 (plainEndpoint .server) plainFrame plainPacket ∨
      Effect.sendTo sequence destination frame packet = .sendTo 2 (plainEndpoint .server) plainSecondFrame plainSecond := by
    simpa using member'
  rcases named with first | last
  · cases first
    refine ⟨plainInputs.take 3, _, _, _, _, _, rfl, late ▸ member, rfl, ?_⟩
    intro d inside
    rw [second, List.mem_singleton] at inside
    rw [inside]
    decide
  · cases last
    refine ⟨plainInputs.take 2, _, _, _, _, _, rfl, early ▸ member, rfl, ?_⟩
    intro d inside
    rw [nothing] at inside
    exact absurd inside List.not_mem_nil

theorem plainLossless :
    delivered (effectsOf .server (run step (both plainOpening) plainInputs).1) = [(2, plainSecond), (1, plainPacket)] ∧
      List.Perm (delivered (effectsOf .server (run step (both plainOpening) plainInputs).1))
        (sent (effectsOf .client (run step (both plainOpening) plainInputs).1)) :=
  ⟨by decide +kernel, @losslessDelivery plainSnow plainOpening plainJoined plainInputs plainAuthentic .server
    (by decide +kernel) plainReaches⟩

end Crabnet.LosslessDelivery
