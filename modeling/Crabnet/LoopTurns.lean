import Crabnet.DataDelivery
import Crabnet.DataPipeline
import Crabnet.SessionBudget

/-! One iteration of the data loop, said once: every way in which it can end, with
what it did to the outside, the session that it leaves and the outcome. -/
namespace Crabnet.LoopTurns
open MachineWord SessionTypes Fallible ReplayHistory DataFrame SnowBoundary DataSession DataRuntime DataDelivery
open SessionBudget (Fits closedBy credited maximumPackets maximumBytes nextNat nextBeyond nextFails overPacketsNat overBytesNat closeWp
  expireCases)

def limitsError : TrafficDirection → SessionLifetimeError → RunError
  | .outbound => .outboundLimits
  | .inbound => .inboundLimits

def recordError : TrafficDirection → SessionLifetimeError → RunError
  | .outbound => .recordOutbound
  | .inbound => .recordInbound

/- Why a permit is refused: the first limit that the next packet would pass. -/
inductive Refusal (l : SessionLifetime) (direction : TrafficDirection) (n : UInt64) (now : Instant) :
    Stop → SessionLifetime → Prop
  | idle {deadline} (due : l.idleDeadline = some deadline) (late : deadline ≤ now) :
    Refusal l direction n now (.close .idleTimeout) (closedBy l .idleTimeout)
  | packets (spent : (maximumPackets l.limits direction).toNat < (l.counters direction).packets.toNat + 1) :
    Refusal l direction n now (.close (SessionLifetime.packetReason direction))
      (closedBy l (SessionLifetime.packetReason direction))
  | bytes (spent : (maximumBytes l.limits direction).toNat < (l.counters direction).bytes.toNat + n.toNat) :
    Refusal l direction n now (.close (SessionLifetime.byteReason direction))
      (closedBy l (SessionLifetime.byteReason direction))
  | beyond {e} (spent : u64Limit ≤ (l.counters direction).packets.toNat + 1 ∨
      u64Limit ≤ (l.counters direction).bytes.toNat + n.toNat) :
    Refusal l direction n now (.fail (limitsError direction e)) l

section
variable {S : Snow}

theorem asked {direction : TrafficDirection} {n : UInt64} {now deadline : Instant} {l : Live S}
    {Q : Live S → Prop} {E : Stop → Live S → Prop} (state : l.session.lifetime.state = .established)
    (idle : l.session.lifetime.idleDeadline = some deadline)
    (granted : now < deadline → Fits l.session.lifetime direction n → Q l)
    (refused : ∀ stop t, Refusal l.session.lifetime direction n now stop t →
      E stop {l with session := {l.session with lifetime := t}}) :
    Action.wp (onSession (.fail ∘ limitsError direction) (EstablishedDataSession.permit direction n now))
      (fun decision t => Action.wp (permitted decision) (fun _ u => Q u) E t) E l := by
  obtain ⟨s, emitted⟩ := l
  simp only [onSession, EstablishedDataSession.permit, EstablishedDataSession.lived, Action.wpMapError, Action.wpWithin,
    SessionLifetime.permit, Action.wpBind]
  have checked := expireCases s.lifetime now
  unfold Action.wp
  generalize SessionLifetime.expireIfDue now s.lifetime = outcome at checked ⊢
  cases checked with
  | closed closed =>
    rw [state] at closed
    contradiction
  | failed _ absent =>
    rw [absent] at idle
    contradiction
  | due _ due late => exact refused _ _ (.idle due late)
  | early _ due before =>
    cases Option.some.inj (idle.symm.trans due)
    change Action.wp _ _ _ s.lifetime
    simp only [Action.wpBind, Action.wpRead, Action.wpOfExcept]
    cases sum : (s.lifetime.counters direction).next n with
    | error e => exact refused _ _ (.beyond (nextBeyond sum))
    | ok next =>
      have value := nextNat sum
      simp only [Action.wpIte, overPacketsNat, overBytesNat, value]
      constructor
      · intro spent
        exact closeWp state (refused _ _ (.packets spent))
      · intro packets
        constructor
        · intro spent
          exact closeWp state (refused _ _ (.bytes spent))
        · intro bytes
          have fits : Fits s.lifetime direction n := ⟨by omega, by omega⟩
          exact granted before fits

theorem credits {l : SessionLifetime} {direction : TrafficDirection} {n : UInt64} (fits : Fits l direction n) :
    ∃ next, (l.counters direction).next n = .ok next := by
  cases sum : (l.counters direction).next n with
  | error e => exact absurd fits (nextFails sum)
  | ok next => exact ⟨next, rfl⟩

theorem recorded {direction : TrafficDirection} {n : UInt64} {now : Instant} {l : Live S} {Q : Live S → Prop}
    {E : Stop → Live S → Prop} (state : l.session.lifetime.state = .established)
    (fits : Fits l.session.lifetime direction n)
    (credit : ∀ next, (l.session.lifetime.counters direction).next n = .ok next →
      Q {l with session := {l.session with lifetime := credited l.session.lifetime direction next now}}) :
    Action.wp (onSession (.fail ∘ recordError direction) (EstablishedDataSession.recordSuccess direction n now))
      (fun _ t => Q t) E l := by
  obtain ⟨s, emitted⟩ := l
  obtain ⟨next, sum⟩ := credits fits
  simp only at state sum
  simp only [onSession, EstablishedDataSession.recordSuccess, EstablishedDataSession.lived, Action.wpMapError,
    Action.wpWithin, SessionLifetime.recordSuccess, Action.wpBind, Action.wpRead, state, Action.wpOfExcept, sum,
    Action.wpModify]
  exact credit next sum

def Iteration.times (it : Iteration) : List Instant :=
  match it.wake with
  | .deadline now => [it.head, now]
  | .ctrlC => [it.head]
  | .tunRead _ permitAt _ _ | .received _ permitAt _ _ => [it.head, permitAt]

structure Offered (codec : DataFrameCodec) (it : Iteration) (packet : Bytes) (permitAt : Instant) (answer : Option Nat)
    (recordAt : Instant) : Prop where
  wake : ∃ raw, it.wake = .tunRead (some raw) permitAt answer recordAt ∧
    packet = raw.take (codec.maximumPlaintextPayload + 1)
  positive : 0 < packet.length
  small : packet.length ≤ codec.maximumPlaintextPayload

structure Screened (codec : DataFrameCodec) (s : EstablishedDataSession S) (it : Iteration) (frame : DecodedDataFrame)
    (permitAt : Instant) (answer : Option Nat) (recordAt : Instant) : Prop where
  wake : ∃ raw source, it.wake = .received (some (raw, source)) permitAt answer recordAt ∧
    screen codec s (raw.take (codec.maximumDatagramLength + 1)) source = .ok frame

def readCall (s : EstablishedDataSession S) (frame : DecodedDataFrame) : Effect :=
  .noiseRead ⟨frame.header.sequence, frame.ciphertext, opened s.transport frame.header.sequence frame.ciphertext⟩

def plaintextOf (s : EstablishedDataSession S) (frame : DecodedDataFrame) : DecryptOutcome :=
  decrypt s.transport frame.header.sequence frame.header frame.ciphertext

def bytesOf (packet : Bytes) : UInt64 := UInt64.ofNat packet.length

structure Framed (codec : DataFrameCodec) (s : EstablishedDataSession S) (packet : Bytes) (header : DataFrameHeader)
    (ciphertext frame : Bytes) : Prop where
  live : s.nextSendSequence ≠ sequenceExhausted
  built : buildHeader codec s s.nextSendSequence packet = .ok header
  encrypted : encrypt s.transport s.nextSendSequence header packet = some ciphertext
  encoded : encodeFrame codec header ciphertext = .ok frame

def sendCalls (s : EstablishedDataSession S) (packet : Bytes) (header : DataFrameHeader) (ciphertext frame : Bytes) :
    List Effect :=
  [.noiseWrite ⟨s.nextSendSequence, sealedPayload header packet, some ciphertext⟩,
    .sendTo s.nextSendSequence s.peerEndpoint frame packet]

inductive Turn (codec : DataFrameCodec) (s : EstablishedDataSession S) (it : Iteration) :
    List Effect → EstablishedDataSession S → Option Stop → Prop
  | overflow (absent : s.lifetime.idleDeadline = none) :
    Turn codec s it [] s (some (.fail (.idleCheck .deadlineOverflow)))
  | idle {deadline now} (due : s.lifetime.idleDeadline = some deadline) (given : now ∈ Iteration.times it)
      (late : deadline ≤ now) :
    Turn codec s it [] {s with lifetime := closedBy s.lifetime .idleTimeout} (some (.close .idleTimeout))
  | interrupted (wake : it.wake = .ctrlC) : Turn codec s it [] s (some (.close .localShutdown))
  | unread {permitAt answer recordAt} (wake : it.wake = .tunRead none permitAt answer recordAt) :
    Turn codec s it [] s (some (.fail .tunRead))
  | unreceived {permitAt answer recordAt} (wake : it.wake = .received none permitAt answer recordAt) :
    Turn codec s it [] s (some (.fail .receive))
  | early {now} (wake : it.wake = .deadline now) : Turn codec s it [] s none
  | unfit {raw permitAt answer recordAt} (wake : it.wake = .tunRead (some raw) permitAt answer recordAt)
      (size : (raw.take (codec.maximumPlaintextPayload + 1)).length = 0 ∨
        codec.maximumPlaintextPayload < (raw.take (codec.maximumPlaintextPayload + 1)).length) :
    Turn codec s it [] s none
  | refused {packet permitAt answer recordAt stop t} (offer : Offered codec it packet permitAt answer recordAt)
      (refusal : Refusal s.lifetime .outbound (bytesOf packet) permitAt stop t) :
    Turn codec s it [] {s with lifetime := t} (some stop)
  | unsealed {packet permitAt answer recordAt stop effects n} (offer : Offered codec it packet permitAt answer recordAt)
      (unsent : sent effects = []) (undelivered : delivered effects = [])
      (ran : sealPacket codec packet ⟨s, []⟩ = (.error stop, ⟨{s with nextSendSequence := n}, effects⟩)) :
    Turn codec s it effects {s with nextSendSequence := n} (some stop)
  | unsent {packet permitAt answer recordAt header ciphertext frame error}
      (offer : Offered codec it packet permitAt answer recordAt) (fits : Fits s.lifetime .outbound (bytesOf packet))
      (framed : Framed codec s packet header ciphertext frame) (failed : sendAnswer frame.length answer = .error error) :
    Turn codec s it (sendCalls s packet header ciphertext frame) (advance s s.lifetime) (some error)
  | sent {packet permitAt answer recordAt header ciphertext frame next}
      (offer : Offered codec it packet permitAt answer recordAt) (fits : Fits s.lifetime .outbound (bytesOf packet))
      (framed : Framed codec s packet header ciphertext frame)
      (sum : (s.lifetime.counters .outbound).next (bytesOf packet) = .ok next) :
    Turn codec s it (sendCalls s packet header ciphertext frame)
      (advance s (credited s.lifetime .outbound next recordAt)) none
  | dropped {raw source permitAt answer recordAt reason}
      (wake : it.wake = .received (some (raw, source)) permitAt answer recordAt)
      (screened : screen codec s (raw.take (codec.maximumDatagramLength + 1)) source = .error reason) :
    Turn codec s it [] s none
  | probed {frame permitAt answer recordAt} (arrival : Screened codec s it frame permitAt answer recordAt)
      (closed : ∀ packet, plaintextOf s frame ≠ .plaintext packet) : Turn codec s it [readCall s frame] s none
  | void {frame packet permitAt answer recordAt} (arrival : Screened codec s it frame permitAt answer recordAt)
      (opens : plaintextOf s frame = .plaintext packet)
      (size : packet.length = 0 ∨ codec.maximumPlaintextPayload < packet.length) :
    Turn codec s it [readCall s frame] (accepted s frame.header.sequence s.lifetime) none
  | stopped {frame packet permitAt answer recordAt stop t} (arrival : Screened codec s it frame permitAt answer recordAt)
      (opens : plaintextOf s frame = .plaintext packet) (positive : 0 < packet.length)
      (small : packet.length ≤ codec.maximumPlaintextPayload)
      (refusal : Refusal s.lifetime .inbound (bytesOf packet) permitAt stop t) :
    Turn codec s it [readCall s frame] (accepted s frame.header.sequence t) (some stop)
  | unwritten {frame packet permitAt answer recordAt error}
      (arrival : Screened codec s it frame permitAt answer recordAt)
      (opens : plaintextOf s frame = .plaintext packet) (positive : 0 < packet.length)
      (small : packet.length ≤ codec.maximumPlaintextPayload)
      (fits : Fits s.lifetime .inbound (bytesOf packet)) (failed : writeAnswer packet.length answer = .error error) :
    Turn codec s it [readCall s frame, .tunWrite frame.header.sequence packet]
      (accepted s frame.header.sequence s.lifetime) (some error)
  | delivered {frame packet permitAt answer recordAt next}
      (arrival : Screened codec s it frame permitAt answer recordAt)
      (opens : plaintextOf s frame = .plaintext packet) (positive : 0 < packet.length)
      (small : packet.length ≤ codec.maximumPlaintextPayload)
      (fits : Fits s.lifetime .inbound (bytesOf packet))
      (sum : (s.lifetime.counters .inbound).next (bytesOf packet) = .ok next) :
    Turn codec s it [readCall s frame, .tunWrite frame.header.sequence packet]
      (accepted s frame.header.sequence (credited s.lifetime .inbound next recordAt)) none

def Ends (codec : DataFrameCodec) (s : EstablishedDataSession S) (it : Iteration) (x : Step S Unit) : Prop :=
  Action.wp x (fun _ t => Turn codec s it t.emitted t.session none)
    (fun stop t => Turn codec s it t.emitted t.session (some stop)) ⟨s, []⟩

theorem sealTurn (codec : DataFrameCodec) (packet : Bytes) (s : EstablishedDataSession S) :
    Action.wp (sealPacket codec packet)
      (fun length t => ∃ header ciphertext frame, length = frame.length ∧ Framed codec s packet header ciphertext frame ∧
        t = ⟨advance s s.lifetime, sendCalls s packet header ciphertext frame⟩)
      (fun _ t => (∃ n, t.session = {s with nextSendSequence := n}) ∧ sent t.emitted = [] ∧ delivered t.emitted = [])
      ⟨s, []⟩ := by
  simp only [sealPacket, onSession, EstablishedDataSession.allocateSendSequence, Action.wpBind, Action.wpMapError,
    Action.wpWithin, Action.wpRead, Action.wpIte, Action.wpFail, Action.wpModify, Action.wpPure, Action.wpOfExcept, emit]
  refine ⟨fun _ => ⟨⟨_, rfl⟩, rfl, rfl⟩, fun live => ?_⟩
  split
  · rename_i header built
    split
    · exact ⟨⟨_, rfl⟩, rfl, rfl⟩
    · rename_i ciphertext encrypted
      simp only [Action.wpBind, Action.wpOfExcept]
      split
      · rename_i frame encoded
        simp only [Action.wpModify, Action.wpPure]
        refine ⟨header, ciphertext, frame, rfl, ⟨live, built, encrypted, encoded⟩, ?_⟩
        simp only [encrypted]
        rfl
      · exact ⟨⟨_, rfl⟩, rfl, rfl⟩
  · exact ⟨⟨_, rfl⟩, rfl, rfl⟩

theorem offeredTurn {codec : DataFrameCodec} {s : EstablishedDataSession S} {it : Iteration} {packet permitAt answer recordAt}
    (offer : Offered codec it packet permitAt answer recordAt) (state : s.lifetime.state = .established) {deadline}
    (idle : s.lifetime.idleDeadline = some deadline) :
    Ends codec s it (forwardTun codec packet permitAt answer recordAt) := by
  have fit : ¬ (packet.length = 0 ∨ codec.maximumPlaintextPayload < packet.length) := by
    have positive := offer.positive
    have small := offer.small
    omega
  rw [Ends, forwardTun, if_neg fit]
  simp only [Action.wpBind]
  refine @asked S .outbound _ _ deadline ⟨s, []⟩ _ _ state idle ?_ (fun stop t refusal => .refused offer refusal)
  intro _ fits
  have sealed_ := sealTurn codec packet s
  rcases ran : sealPacket codec packet ⟨s, []⟩ with ⟨stop | length, ⟨t, effects⟩⟩
  · obtain ⟨⟨n, rfl⟩, unsent, undelivered⟩ := Action.wpError sealed_ ran
    unfold Action.wp
    rw [ran]
    exact .unsealed offer unsent undelivered ran
  · obtain ⟨header, ciphertext, frame, rfl, framed, same⟩ := Action.wpOk sealed_ ran
    cases same
    refine Action.wpOfOk ran ?_
    simp only [Action.wpOfExcept]
    cases failed : sendAnswer frame.length answer with
    | error stop => exact .unsent offer fits framed failed
    | ok _ => exact @recorded S .outbound _ _ _ _ _ state fits (fun next sum => .sent offer fits framed sum)

theorem writtenTurn {codec : DataFrameCodec} {s : EstablishedDataSession S} {it : Iteration} {frame packet permitAt answer recordAt}
    (arrival : Screened codec s it frame permitAt answer recordAt) (opens : plaintextOf s frame = .plaintext packet)
    (state : s.lifetime.state = .established) {deadline} (idle : s.lifetime.idleDeadline = some deadline) :
    Action.wp (deliver codec codec.maximumPlaintextPayload frame.header.sequence packet permitAt answer recordAt)
      (fun _ t => Turn codec s it t.emitted t.session none) (fun stop t => Turn codec s it t.emitted t.session (some stop))
      ⟨s, [readCall s frame]⟩ := by
  obtain ⟨raw, source, wake, screened⟩ := arrival.wake
  simp only [deliver, Action.wpBind]
  apply commitSpec (screenedAcceptable screened).2.2.2.2
  simp only [Action.wpIte, Action.wpPure, Action.wpBind]
  refine ⟨fun size => .void arrival opens size, fun size => ?_⟩
  have positive : 0 < packet.length := by omega
  have small : packet.length ≤ codec.maximumPlaintextPayload := by omega
  refine @asked S .inbound _ _ deadline ⟨accepted s frame.header.sequence s.lifetime, [readCall s frame]⟩ _ _ state idle ?_
    (fun stop t refusal => .stopped arrival opens positive small refusal)
  intro _ fits
  have inside : ¬ codec.maximumPlaintextPayload < packet.length := by omega
  rw [writePacket, if_neg inside]
  simp only [Action.wpBind, emit, Action.wpModify, Action.wpOfExcept]
  cases failed : writeAnswer packet.length answer with
  | error stop => exact .unwritten arrival opens positive small fits failed
  | ok _ => exact @recorded S .inbound _ _ _ _ _ state fits (fun next sum => .delivered arrival opens positive small fits sum)

theorem arrivedTurn {codec : DataFrameCodec} {s : EstablishedDataSession S} {it : Iteration} {raw source permitAt answer recordAt}
    (wake : it.wake = .received (some (raw, source)) permitAt answer recordAt)
    (state : s.lifetime.state = .established) {deadline} (idle : s.lifetime.idleDeadline = some deadline) :
    Ends codec s it (forwardUdp codec codec.maximumPlaintextPayload (raw.take (codec.maximumDatagramLength + 1)) source
      permitAt answer recordAt) := by
  simp only [Ends, forwardUdp, Action.wpBind, Action.wpRead]
  cases screened : screen codec s (raw.take (codec.maximumDatagramLength + 1)) source with
  | error reason => exact .dropped wake screened
  | ok frame =>
    have arrival : Screened codec s it frame permitAt answer recordAt := ⟨raw, source, wake, screened⟩
    simp only [Action.wpBind, emit, Action.wpModify]
    cases opens : plaintextOf s frame with
    | plaintext packet =>
      simp only [plaintextOf] at opens
      rw [opens]
      exact writtenTurn arrival opens state idle
    | authenticationFailure =>
      simp only [plaintextOf] at opens
      rw [opens]
      exact .probed arrival (fun packet => by rw [plaintextOf, opens]; simp)
    | headerBindingFailure =>
      simp only [plaintextOf] at opens
      rw [opens]
      exact .probed arrival (fun packet => by rw [plaintextOf, opens]; simp)

theorem idled {error : SessionLifetimeError → RunError} {now : Instant} {l : Live S} {Q : Live S → Prop}
    {E : Stop → Live S → Prop} (state : l.session.lifetime.state = .established)
    (absent : l.session.lifetime.idleDeadline = none → E (.fail (error .deadlineOverflow)) l)
    (due : ∀ deadline, l.session.lifetime.idleDeadline = some deadline → deadline ≤ now →
      E (.close .idleTimeout) {l with session := {l.session with lifetime := closedBy l.session.lifetime .idleTimeout}})
    (early : ∀ deadline, l.session.lifetime.idleDeadline = some deadline → now < deadline → Q l) :
    Action.wp (idleCheck error now) (fun _ t => Q t) E l := by
  obtain ⟨s, emitted⟩ := l
  simp only [idleCheck, onSession, EstablishedDataSession.expireIfDue, EstablishedDataSession.lived, Action.wpBind,
    Action.wpMapError, Action.wpWithin]
  have checked := expireCases s.lifetime now
  unfold Action.wp
  generalize SessionLifetime.expireIfDue now s.lifetime = outcome at checked ⊢
  cases checked with
  | closed closed =>
    rw [state] at closed
    contradiction
  | failed _ none_ => exact absent none_
  | due _ found late => exact due _ found late
  | early _ found before => exact early _ found before

theorem bodyTurn (codec : DataFrameCodec) (it : Iteration) {s : EstablishedDataSession S}
    (state : s.lifetime.state = .established) : Ends codec s it (body codec codec.maximumPlaintextPayload it) := by
  have given : it.head ∈ Iteration.times it := by
    unfold Iteration.times
    cases it.wake <;> exact List.mem_cons_self
  simp only [Ends, body, Action.wpBind, Action.wpRead, Action.wpOfExcept]
  refine @idled S _ _ ⟨s, []⟩ _ _ state .overflow (fun deadline due late => .idle due given late) ?_
  intro deadline due before
  have waits : awaitDeadline s = .ok deadline := by
    simp only [awaitDeadline, EstablishedDataSession.nextDeadline, SessionLifetime.nextDeadline, state, due]
  simp only [waits]
  cases wake : it.wake with
  | deadline now =>
    have asked : now ∈ Iteration.times it := by simp [Iteration.times, wake]
    refine @idled S _ _ ⟨s, []⟩ _ _ state (fun absent => ?_) (fun deadline due late => .idle due asked late)
      (fun _ _ _ => .early wake)
    rw [absent] at due
    contradiction
  | ctrlC => exact .interrupted wake
  | tunRead packet permitAt answer recordAt =>
    cases packet with
    | none => exact .unread wake
    | some raw =>
      by_cases size : (raw.take (codec.maximumPlaintextPayload + 1)).length = 0 ∨
          codec.maximumPlaintextPayload < (raw.take (codec.maximumPlaintextPayload + 1)).length
      · rw [awake, forwardTun, if_pos size]
        exact .unfit wake size
      · exact offeredTurn ⟨⟨raw, wake, rfl⟩, by omega, by omega⟩ state due
  | received datagram permitAt answer recordAt =>
    cases datagram with
    | none => exact .unreceived wake
    | some datagram => exact arrivedTurn wake state due

theorem iterateTurn {l : DataLoop S} (it : Iteration) (running : l.outcome = none)
    (state : l.session.lifetime.state = .established) :
    Turn l.codec l.session it (l.iterate it).1 (l.iterate it).2.session (l.iterate it).2.outcome := by
  have spec := bodyTurn l.codec it state
  rw [← l.mtuMatches] at spec
  simp only [DataLoop.iterate, running]
  rcases ran : body l.codec l.mtu it ⟨l.session, []⟩ with ⟨stop | _, live⟩
  · have ended := Action.wpError spec ran
    exact ended
  · have ended := Action.wpOk spec ran
    exact ended

theorem framedSize {codec : DataFrameCodec} {s : EstablishedDataSession S} {packet header ciphertext frame}
    (framed : Framed codec s packet header ciphertext frame) : frame.length = packet.length + 118 := by
  obtain ⟨length, positive, small⟩ := builtFacts framed.built
  have encoded := framed.encoded
  unfold encodeFrame at encoded
  split at encoded <;> try contradiction
  rename_i written buffer ran
  cases Except.ok.inj encoded
  unfold DataFrameCodec.encodeData at ran
  split at ran
  · exact absurd (Prod.mk.inj ran).1 (by simp)
  split at ran
  · exact absurd (Prod.mk.inj ran).1 (by simp)
  split at ran
  · exact absurd (Prod.mk.inj ran).1 (by simp)
  rename_i body
  split at ran
  · exact absurd (Prod.mk.inj ran).1 (by simp)
  rename_i total sum
  split at ran
  · exact absurd (Prod.mk.inj ran).1 (by simp)
  rename_i room
  have same := usizeAddSome sum
  cases ran
  simp only [dataBodyFixedLength, dataTransportOverhead, dataHeaderLength, aeadTagLength] at *
  rw [List.length_take, overwrite, List.length_append, List.length_append, headerBindingLength]
  omega

theorem bytesNat {codec : DataFrameCodec} {packet : Bytes} (small : packet.length ≤ codec.maximumPlaintextPayload) :
    (bytesOf packet).toNat = packet.length := by
  have limit := (DataFrameExact.payloadLimit codec).2
  exact UInt64.toNat_ofNat_of_lt' (by simp only [UInt64.size]; omega)

end
end Crabnet.LoopTurns
