import Crabnet.LoopTurns

/-! What a data loop carries and why it stops. The counters of the lifetime are
what went through the socket and the TUN, so its limits are limits on that, and an
outcome names the iteration that gave it. -/
namespace Crabnet.LoopAccounting
open MachineWord SessionTypes Fallible ReplayHistory DataFrame SnowBoundary DataSession DataRuntime DataDelivery LoopTurns
open DataPipeline (Paired sealPacketSends)
open SessionBudget (Fits closedBy credited maximumPackets maximumBytes nextNat)

section
variable {S : Snow}

def turn (l : DataLoop S) (it : Iteration) : (Iteration × List Effect) × DataLoop S :=
  ((it, (l.iterate it).1), (l.iterate it).2)

def effects (trace : List (Iteration × List Effect)) : List Effect := trace.flatMap Prod.snd

def carried (effects : List Effect) : TrafficDirection → List Bytes
  | .outbound => (sent effects).map Prod.snd
  | .inbound => (delivered effects).map Prod.snd

def volume (packets : List Bytes) : Nat := (packets.map List.length).sum

def recordAt (it : Iteration) : Option Instant :=
  match it.wake with
  | .deadline _ | .ctrlC => none
  | .tunRead _ _ _ recordAt | .received _ _ _ recordAt => some recordAt

def activity (created : Instant) (trace : List (Iteration × List Effect)) : Instant :=
  trace.foldl (fun last turn => if carried turn.2 .outbound ++ carried turn.2 .inbound = [] then last
    else (recordAt turn.1).getD last) created

structure Open (created : Instant) (trace : List (Iteration × List Effect)) (s : EstablishedDataSession S) : Prop where
  state : s.lifetime.state = .established
  packets : ∀ direction, (s.lifetime.counters direction).packets.toNat = (carried (effects trace) direction).length
  bytes : ∀ direction, (s.lifetime.counters direction).bytes.toNat = volume (carried (effects trace) direction)
  dense : ∀ direction, (carried (effects trace) direction).length ≤ volume (carried (effects trace) direction)
  active : s.lifetime.lastSuccessfulActivity = activity created trace
  sequence : s.nextSendSequence.toNat = (carried (effects trace) .outbound).length + 1

structure Kin (a b : EstablishedDataSession S) : Prop where
  metadata : b.metadata = a.metadata
  peerEndpoint : b.peerEndpoint = a.peerEndpoint
  sendDirection : b.sendDirection = a.sendDirection
  receiveDirection : b.receiveDirection = a.receiveDirection
  transport : b.transport = a.transport

structure Metered (created : Instant) (first : DataLoop S) (trace : List (Iteration × List Effect)) (l : DataLoop S) :
    Prop where
  codec : l.codec = first.codec
  kin : Kin first.session l.session
  limits : l.session.lifetime.limits = first.session.lifetime.limits
  capped : ∀ direction,
    (carried (effects trace) direction).length ≤ (maximumPackets first.session.lifetime.limits direction).toNat ∧
      volume (carried (effects trace) direction) ≤ (maximumBytes first.session.lifetime.limits direction).toNat
  open_ : l.outcome = none → Open created trace l.session

theorem effectsSnoc (trace : List (Iteration × List Effect)) (it more) :
    effects (trace ++ [(it, more)]) = effects trace ++ more := by
  simp [effects]

theorem carriedAppend (a b : List Effect) (direction) :
    carried (a ++ b) direction = carried a direction ++ carried b direction := by
  cases direction <;> simp [carried, sent, delivered]

theorem volumeSnoc (packets : List Bytes) (packet : Bytes) :
    volume (packets ++ [packet]) = volume packets + packet.length := by
  simp [volume]

structure Still (s : EstablishedDataSession S) (more : List Effect) (t : EstablishedDataSession S) (outcome : Option Stop) :
    Prop where
  nothing : ∀ direction, carried more direction = []
  limits : t.lifetime.limits = s.lifetime.limits
  same : outcome = none → t.lifetime = s.lifetime ∧ t.nextSendSequence = s.nextSendSequence

structure Moved (codec : DataFrameCodec) (s : EstablishedDataSession S) (it : Iteration) (more : List Effect)
    (t : EstablishedDataSession S) (outcome : Option Stop) (direction : TrafficDirection) (packet : Bytes) : Prop where
  positive : 0 < packet.length
  small : packet.length ≤ codec.maximumPlaintextPayload
  fits : Fits s.lifetime direction (bytesOf packet)
  here : carried more direction = [packet]
  there : ∀ other, other ≠ direction → carried more other = []
  limits : t.lifetime.limits = s.lifetime.limits
  credit : outcome = none → ∃ next time, (s.lifetime.counters direction).next (bytesOf packet) = .ok next ∧
    recordAt it = some time ∧ t.lifetime = credited s.lifetime direction next time
  sequence : outcome = none → t.nextSendSequence.toNat =
    s.nextSendSequence.toNat + if direction = .outbound then 1 else 0

theorem refusalLimits {l t : SessionLifetime} {direction n now stop} (refusal : Refusal l direction n now stop t) :
    t.limits = l.limits := by
  cases refusal <;> rfl

theorem stillStop {s t : EstablishedDataSession S} {more : List Effect} {stop : Stop}
    (nothing : ∀ direction, carried more direction = []) (limits : t.lifetime.limits = s.lifetime.limits) :
    Still s more t (some stop) :=
  ⟨nothing, limits, fun impossible => by contradiction⟩

theorem stillGo {s : EstablishedDataSession S} {more : List Effect} (nothing : ∀ direction, carried more direction = []) :
    Still s more s none :=
  ⟨nothing, rfl, fun _ => ⟨rfl, rfl⟩⟩

theorem noneCarried (direction : TrafficDirection) : carried [] direction = [] := by
  cases direction <;> rfl

theorem readCarried (s : EstablishedDataSession S) (frame) (direction : TrafficDirection) :
    carried [readCall s frame] direction = [] := by
  cases direction <;> rfl

theorem outboundOnly {more : List Effect} (undelivered : delivered more = []) :
    ∀ other, other ≠ TrafficDirection.outbound → carried more other = []
  | .outbound, different => absurd rfl different
  | .inbound, _ => congrArg (List.map Prod.snd) undelivered

theorem inboundOnly {more : List Effect} (unsent : sent more = []) :
    ∀ other, other ≠ TrafficDirection.inbound → carried more other = []
  | .inbound, different => absurd rfl different
  | .outbound, _ => congrArg (List.map Prod.snd) unsent

theorem turnMoves {codec : DataFrameCodec} {s t : EstablishedDataSession S} {it : Iteration} {more outcome}
    (ran : Turn codec s it more t outcome) :
    Kin s t ∧ (Still s more t outcome ∨ ∃ direction packet, Moved codec s it more t outcome direction packet) := by
  refine ⟨by cases ran <;> exact ⟨rfl, rfl, rfl, rfl, rfl⟩, ?_⟩
  cases ran with
  | overflow => exact .inl (stillStop noneCarried rfl)
  | idle => exact .inl (stillStop noneCarried rfl)
  | interrupted => exact .inl (stillStop noneCarried rfl)
  | unread => exact .inl (stillStop noneCarried rfl)
  | unreceived => exact .inl (stillStop noneCarried rfl)
  | early => exact .inl (stillGo noneCarried)
  | unfit => exact .inl (stillGo noneCarried)
  | refused offer refusal => exact .inl (stillStop noneCarried (refusalLimits refusal))
  | unsealed offer unsent undelivered =>
    refine .inl (stillStop ?_ rfl)
    intro direction
    cases direction with
    | outbound => exact congrArg (List.map Prod.snd) unsent
    | inbound => exact congrArg (List.map Prod.snd) undelivered
  | @unsent packet _ _ _ _ _ _ _ offer fits framed failed =>
    exact .inr ⟨.outbound, packet, offer.positive, offer.small, fits, rfl, outboundOnly rfl, rfl, fun impossible => by contradiction,
      fun impossible => by contradiction⟩
  | @sent packet _ _ time _ _ _ next offer fits framed sum =>
    obtain ⟨raw, wake, _⟩ := offer.wake
    have given : recordAt it = some time := by simp only [recordAt, wake]
    exact .inr ⟨.outbound, packet, offer.positive, offer.small, fits, rfl, outboundOnly rfl, rfl,
      fun _ => ⟨next, time, sum, given, rfl⟩, fun _ => allocatedNat framed.live⟩
  | dropped => exact .inl (stillGo noneCarried)
  | probed arrival => exact .inl (stillGo (readCarried s _))
  | void arrival => exact .inl ⟨readCarried s _, rfl, fun _ => ⟨rfl, rfl⟩⟩
  | stopped arrival opens positive small refusal => exact .inl (stillStop (readCarried s _) (refusalLimits refusal))
  | @unwritten _ packet _ _ _ _ arrival opens positive small fits failed =>
    exact .inr ⟨.inbound, packet, positive, small, fits, rfl, inboundOnly rfl, rfl, fun impossible => by contradiction,
      fun impossible => by contradiction⟩
  | @delivered _ packet _ _ time next arrival opens positive small fits sum =>
    obtain ⟨raw, source, wake, _⟩ := arrival.wake
    have given : recordAt it = some time := by simp only [recordAt, wake]
    exact .inr ⟨.inbound, packet, positive, small, fits, rfl, inboundOnly rfl, rfl,
      fun _ => ⟨next, time, sum, given, rfl⟩, fun _ => rfl⟩

theorem openStill {created : Instant} {trace} {s t : EstablishedDataSession S} {it : Iteration} {more : List Effect}
    (open_ : Open created trace s) (nothing : ∀ direction, carried more direction = [])
    (lifetime : t.lifetime = s.lifetime) (sequence : t.nextSendSequence = s.nextSendSequence) :
    Open created (trace ++ [(it, more)]) t := by
  have same : ∀ direction, carried (effects (trace ++ [(it, more)])) direction = carried (effects trace) direction := by
    intro direction
    rw [effectsSnoc, carriedAppend, nothing, List.append_nil]
  have quiet : activity created (trace ++ [(it, more)]) = activity created trace := by
    simp [activity, List.foldl_append, nothing]
  constructor
  · rw [lifetime]
    exact open_.state
  · intro direction
    rw [lifetime, same]
    exact open_.packets direction
  · intro direction
    rw [lifetime, same]
    exact open_.bytes direction
  · intro direction
    rw [same]
    exact open_.dense direction
  · rw [lifetime, quiet]
    exact open_.active
  · rw [sequence, same]
    exact open_.sequence

theorem movedHere {s t : EstablishedDataSession S} {it : Iteration} {codec more outcome direction packet}
    (moved : Moved codec s it more t outcome direction packet) (trace : List (Iteration × List Effect)) :
    carried (effects (trace ++ [(it, more)])) direction = carried (effects trace) direction ++ [packet] := by
  rw [effectsSnoc, carriedAppend, moved.here]

theorem movedThere {s t : EstablishedDataSession S} {it : Iteration} {codec more outcome direction packet}
    (moved : Moved codec s it more t outcome direction packet) (trace : List (Iteration × List Effect))
    {other : TrafficDirection} (apart : other ≠ direction) :
    carried (effects (trace ++ [(it, more)])) other = carried (effects trace) other := by
  rw [effectsSnoc, carriedAppend, moved.there other apart, List.append_nil]

theorem activityMoved {created : Instant} {s t : EstablishedDataSession S} {it : Iteration}
    {codec more outcome direction packet time} (moved : Moved codec s it more t outcome direction packet)
    (given : recordAt it = some time) (trace : List (Iteration × List Effect)) :
    activity created (trace ++ [(it, more)]) = time := by
  have some_ : carried more .outbound ++ carried more .inbound ≠ [] := by
    cases direction <;> simp [moved.here]
  rw [activity, List.foldl_append, List.foldl_cons, List.foldl_nil, if_neg some_, given]
  rfl

theorem openMoved {created : Instant} {trace} {s t : EstablishedDataSession S} {it : Iteration} {codec more direction packet}
    (open_ : Open created trace s) (moved : Moved codec s it more t none direction packet) :
    Open created (trace ++ [(it, more)]) t := by
  obtain ⟨next, time, sum, given, lifetime⟩ := moved.credit rfl
  obtain ⟨packets, bytes⟩ := nextNat sum
  have size := bytesNat moved.small
  have sequence := moved.sequence rfl
  constructor
  · rw [lifetime]
    cases direction <;> exact open_.state
  · intro other
    rw [lifetime]
    by_cases same : other = direction
    · subst same
      rw [SessionBudget.creditedSame, packets, open_.packets, movedHere moved, List.length_append, List.length_singleton]
    · rw [SessionBudget.creditedOther s.lifetime next time (Ne.symm same), movedThere moved trace same]
      exact open_.packets other
  · intro other
    rw [lifetime]
    by_cases same : other = direction
    · subst same
      rw [SessionBudget.creditedSame, bytes, open_.bytes, movedHere moved, volumeSnoc, size]
    · rw [SessionBudget.creditedOther s.lifetime next time (Ne.symm same), movedThere moved trace same]
      exact open_.bytes other
  · intro other
    have dense := open_.dense other
    by_cases same : other = direction
    · subst same
      have positive := moved.positive
      rw [movedHere moved, volumeSnoc, List.length_append, List.length_singleton]
      omega
    · rw [movedThere moved trace same]
      exact dense
  · rw [lifetime, activityMoved moved given]
    rfl
  · rw [sequence, open_.sequence]
    cases direction with
    | outbound => rw [movedHere moved, List.length_append, if_pos rfl, List.length_singleton, Nat.add_assoc]
    | inbound =>
      rw [movedThere moved trace (fun impossible => by cases impossible)]
      rfl

theorem cappedMoved {created : Instant} {trace} {s t : EstablishedDataSession S} {it : Iteration}
    {codec more outcome direction packet limits} (open_ : Open created trace s) (limits_ : s.lifetime.limits = limits)
    (moved : Moved codec s it more t outcome direction packet) {other : TrafficDirection}
    (capped : (carried (effects trace) other).length ≤ (maximumPackets limits other).toNat ∧
      volume (carried (effects trace) other) ≤ (maximumBytes limits other).toNat) :
    (carried (effects (trace ++ [(it, more)])) other).length ≤ (maximumPackets limits other).toNat ∧
      volume (carried (effects (trace ++ [(it, more)])) other) ≤ (maximumBytes limits other).toNat := by
  by_cases same : other = direction
  · subst same
    obtain ⟨packets, bytes⟩ := moved.fits
    rw [open_.packets, limits_] at packets
    rw [open_.bytes, limits_, bytesNat moved.small] at bytes
    rw [movedHere moved, volumeSnoc, List.length_append]
    exact ⟨packets, bytes⟩
  · rw [movedThere moved trace same]
    exact capped

theorem meteredStep {created : Instant} {first : DataLoop S} (trace) (l : DataLoop S) (it : Iteration)
    (metered : Metered created first trace l) : Metered created first (trace ++ [(turn l it).1]) (turn l it).2 := by
  cases running : l.outcome with
  | some stop =>
    have quiet : turn l it = ((it, []), l) := by simp only [turn, DataLoop.iterate, running]
    have same : effects (trace ++ [(it, [])]) = effects trace := by rw [effectsSnoc, List.append_nil]
    rw [quiet]
    refine ⟨metered.codec, metered.kin, metered.limits, ?_, ?_⟩
    · rw [same]
      exact metered.capped
    · intro goes
      rw [running] at goes
      contradiction
  | none =>
    have open_ := metered.open_ running
    obtain ⟨kin, account⟩ := turnMoves (iterateTurn it running open_.state)
    have codec : (turn l it).2.codec = first.codec := (iterateSpec l it).1.trans metered.codec
    have kept := metered.kin
    have related : Kin first.session (turn l it).2.session :=
      ⟨kin.metadata.trans kept.metadata, kin.peerEndpoint.trans kept.peerEndpoint,
        kin.sendDirection.trans kept.sendDirection, kin.receiveDirection.trans kept.receiveDirection,
        kin.transport.trans kept.transport⟩
    rcases account with still | ⟨direction, packet, moved⟩
    · refine ⟨codec, related, still.limits.trans metered.limits, ?_, ?_⟩
      · intro direction
        rw [turn, effectsSnoc, carriedAppend, still.nothing, List.append_nil]
        exact metered.capped direction
      · intro goes
        obtain ⟨lifetime, sequence⟩ := still.same goes
        exact openStill open_ still.nothing lifetime sequence
    · refine ⟨codec, related, moved.limits.trans metered.limits, ?_, ?_⟩
      · intro other
        exact cappedMoved open_ metered.limits moved (metered.capped other)
      · intro goes
        have settled : (l.iterate it).2.outcome = none := goes
        rw [settled] at moved
        exact openMoved open_ moved

theorem loopLifetime (opening : Opening S) (side : Side) : (opening.loop side).session.lifetime = opening.lifetime := by
  cases side <;> rfl

theorem loopCodec (opening : Opening S) (side : Side) : (opening.loop side).codec = opening.codec := by
  cases side <;> rfl

theorem loopTransport (opening : Opening S) (side : Side) : (opening.loop side).session.transport = opening.transport := by
  cases side <;> rfl

theorem loopMetadata (opening : Opening S) (side : Side) : (opening.loop side).session.metadata = opening.metadata := by
  cases side <;> rfl

theorem startOpen {opening : Opening S} {created : Instant} {limits : SessionLimits}
    (fresh : opening.lifetime = .new created limits) (side : Side) : Open created [] (opening.loop side).session := by
  have lifetime := (loopLifetime opening side).trans fresh
  constructor
  · rw [lifetime]
    rfl
  · intro direction
    rw [lifetime]
    cases direction <;> rfl
  · intro direction
    rw [lifetime]
    cases direction <;> rfl
  · intro direction
    cases direction <;> exact Nat.le_refl _
  · rw [lifetime]
    rfl
  · cases side <;> rfl

theorem startMetered {opening : Opening S} {created : Instant} {limits : SessionLimits}
    (fresh : opening.lifetime = .new created limits) (side : Side) :
    Metered created (opening.loop side) [] (opening.loop side) := by
  refine ⟨rfl, ⟨rfl, rfl, rfl, rfl, rfl⟩, rfl, ?_, fun _ => startOpen fresh side⟩
  intro direction
  cases direction <;> exact ⟨Nat.zero_le _, Nat.zero_le _⟩

theorem runMetered {opening : Opening S} {created : Instant} {limits : SessionLimits}
    (fresh : opening.lifetime = .new created limits) (side : Side) (inputs : List Iteration) :
    Metered created (opening.loop side) (run turn (opening.loop side) inputs).1 (run turn (opening.loop side) inputs).2 := by
  have whole := runHistory meteredStep (startMetered fresh side) inputs
  simpa using whole

theorem loopLimits {opening : Opening S} {created : Instant} {limits : SessionLimits}
    (fresh : opening.lifetime = .new created limits) (side : Side) :
    (opening.loop side).session.lifetime.limits = limits := by
  rw [loopLifetime, fresh]
  rfl

/- Whatever arrives and whatever the clock says, what goes through the socket and
the TUN stays inside the limits, and while the loop runs the counters say how much it was. -/
theorem loopBudget {opening : Opening S} {created : Instant} {limits : SessionLimits}
    (fresh : opening.lifetime = .new created limits) (side : Side) (inputs : List Iteration) :
    let ran := run turn (opening.loop side) inputs
    ∀ direction,
      (carried (effects ran.1) direction).length ≤ (maximumPackets limits direction).toNat ∧
      volume (carried (effects ran.1) direction) ≤ (maximumBytes limits direction).toNat ∧
      (ran.2.outcome = none →
        (ran.2.session.lifetime.counters direction).packets.toNat = (carried (effects ran.1) direction).length ∧
        (ran.2.session.lifetime.counters direction).bytes.toNat = volume (carried (effects ran.1) direction)) := by
  intro ran direction
  have metered := runMetered fresh side inputs
  have capped := metered.capped direction
  rw [loopLimits fresh side] at capped
  refine ⟨capped.1, capped.2, ?_⟩
  intro running
  have open_ := metered.open_ running
  exact ⟨open_.packets direction, open_.bytes direction⟩

def plainMeteredOpening : Opening plainSnow := {plainOpening .client with lifetime := .new 0 SessionBudget.plainLimits}

def plainTwice : List Iteration :=
  [⟨1, .tunRead (some plainPacket) 1 (some 122) 1⟩, ⟨2, .tunRead (some plainPacket) 2 (some 122) 2⟩]

theorem loopBudgetSpent :
    let ran := run turn (plainMeteredOpening.loop .client) plainTwice
    carried (effects ran.1) .outbound = [plainPacket] ∧
      (carried (effects ran.1) .outbound).length ≤ (maximumPackets SessionBudget.plainLimits .outbound).toNat := by
  have bounded := @loopBudget plainSnow plainMeteredOpening 0 SessionBudget.plainLimits rfl .client plainTwice .outbound
  exact ⟨by decide +kernel, bounded.1⟩

/- The packet that an iteration would carry: one read from the TUN, or the plaintext
of a datagram that passed every check. -/
inductive Brings (codec : DataFrameCodec) (s : EstablishedDataSession S) (it : Iteration) : TrafficDirection → Bytes → Prop
  | outbound {packet permitAt answer recordAt} (offer : Offered codec it packet permitAt answer recordAt) :
    Brings codec s it .outbound packet
  | inbound {frame packet permitAt answer recordAt} (arrival : Screened codec s it frame permitAt answer recordAt)
      (opens : plaintextOf s frame = .plaintext packet) (positive : 0 < packet.length)
      (small : packet.length ≤ codec.maximumPlaintextPayload) : Brings codec s it .inbound packet

inductive Cause (codec : DataFrameCodec) (created : Instant) (limits : SessionLimits)
    (past : List (Iteration × List Effect)) (s : EstablishedDataSession S) (it : Iteration) : Stop → Prop
  | overflow (absent : Instant.checkedAdd (activity created past) limits.idleTimeout = none) :
    Cause codec created limits past s it (.fail (.idleCheck .deadlineOverflow))
  | idle {deadline now} (due : Instant.checkedAdd (activity created past) limits.idleTimeout = some deadline)
      (given : now ∈ Iteration.times it) (late : deadline ≤ now) :
    Cause codec created limits past s it (.close .idleTimeout)
  | interrupt (wake : it.wake = .ctrlC) : Cause codec created limits past s it (.close .localShutdown)
  | unread {permitAt answer recordAt} (wake : it.wake = .tunRead none permitAt answer recordAt) :
    Cause codec created limits past s it (.fail .tunRead)
  | unreceived {permitAt answer recordAt} (wake : it.wake = .received none permitAt answer recordAt) :
    Cause codec created limits past s it (.fail .receive)
  | packets {direction packet} (brings : Brings codec s it direction packet)
      (spent : (carried (effects past) direction).length = (maximumPackets limits direction).toNat) :
    Cause codec created limits past s it (.close (SessionLifetime.packetReason direction))
  | bytes {direction packet} (brings : Brings codec s it direction packet)
      (spent : (maximumBytes limits direction).toNat < volume (carried (effects past) direction) + packet.length) :
    Cause codec created limits past s it (.close (SessionLifetime.byteReason direction))
  | beyond {direction packet e} (brings : Brings codec s it direction packet)
      (spent : u64Limit ≤ volume (carried (effects past) direction) + packet.length) :
    Cause codec created limits past s it (.fail (limitsError direction e))
  | exhausted {packet} (brings : Brings codec s it .outbound packet)
      (spent : (carried (effects past) .outbound).length = 2 ^ 64 - 2) :
    Cause codec created limits past s it (.close .sendSequenceExhausted)
  | unsent {packet permitAt answer recordAt error} (offer : Offered codec it packet permitAt answer recordAt)
      (failed : sendAnswer (packet.length + 118) answer = .error error) : Cause codec created limits past s it error
  | unwritten {frame packet permitAt answer recordAt error} (arrival : Screened codec s it frame permitAt answer recordAt)
      (opens : plaintextOf s frame = .plaintext packet) (positive : 0 < packet.length)
      (small : packet.length ≤ codec.maximumPlaintextPayload) (failed : writeAnswer packet.length answer = .error error) :
    Cause codec created limits past s it error

theorem refusalCause {codec : DataFrameCodec} {created : Instant} {limits : SessionLimits} {past} {it : Iteration}
    {s : EstablishedDataSession S} {direction packet now stop t} (open_ : Open created past s)
    (limits_ : s.lifetime.limits = limits) (brings : Brings codec s it direction packet)
    (given : now ∈ Iteration.times it)
    (capped : (carried (effects past) direction).length ≤ (maximumPackets limits direction).toNat)
    (refusal : Refusal s.lifetime direction (bytesOf packet) now stop t) : Cause codec created limits past s it stop := by
  subst limits_
  have positive : 0 < packet.length := by cases brings with | outbound offer => exact offer.positive | inbound => assumption
  have small : packet.length ≤ codec.maximumPlaintextPayload := by
    cases brings with | outbound offer => exact offer.small | inbound => assumption
  have size := bytesNat small
  cases refusal with
  | idle due late =>
    rw [SessionLifetime.idleDeadline, open_.active] at due
    exact .idle due given late
  | packets spent =>
    rw [open_.packets] at spent
    exact .packets brings (by omega)
  | bytes spent =>
    rw [open_.bytes, size] at spent
    exact .bytes brings spent
  | beyond spent =>
    rw [open_.packets, open_.bytes, size] at spent
    have dense := open_.dense direction
    exact .beyond brings (by omega)

theorem sealExhausted {codec : DataFrameCodec} {s : EstablishedDataSession S} (packet : Bytes)
    (last : s.nextSendSequence = sequenceExhausted) :
    (sealPacket codec packet ⟨s, []⟩).1 = .error (.close .sendSequenceExhausted) := by
  apply Action.wpOutcome (R := fun outcome => outcome.1 = Except.error (Stop.close SessionCloseReason.sendSequenceExhausted))
  simp only [sealPacket, onSession, EstablishedDataSession.allocateSendSequence, Action.wpBind, Action.wpMapError,
    Action.wpWithin, Action.wpRead, Action.wpIte, Action.wpFail, last]
  exact ⟨fun _ => rfl, fun live => absurd trivial live⟩

/- A packet that is not sealed met the last sequence: the library and the codec
have no other error for it. -/
theorem unsealedExhausted {codec : DataFrameCodec} {s t : EstablishedDataSession S} {far : Transport S} {packet effects stop}
    (paired : Paired s.transport.state far.state) (named : isZero s.metadata.sessionId = false)
    (begun : 1 ≤ s.nextSendSequence.toNat) (positive : 0 < packet.length)
    (small : packet.length ≤ codec.maximumPlaintextPayload)
    (ran : sealPacket codec packet ⟨s, []⟩ = (.error stop, ⟨t, effects⟩)) :
    s.nextSendSequence = sequenceExhausted ∧ stop = .close .sendSequenceExhausted := by
  by_cases last : s.nextSendSequence = sequenceExhausted
  · have ends := @sealExhausted S codec s packet last
    rw [ran] at ends
    exact ⟨last, Except.error.inj ends⟩
  · have below : s.nextSendSequence.toNat ≠ 2 ^ 64 - 1 := by
      intro same
      exact last (UInt64.toNat_inj.mp same)
    have range := u64Bound s.nextSendSequence
    have ranged : inRange s.nextSendSequence := by
      simp only [u64Limit] at range
      exact ⟨begun, by omega⟩
    obtain ⟨_, _, _, _, sealed_⟩ := sealPacketSends paired [] rfl named ranged positive small
    rw [ran] at sealed_
    cases (Prod.mk.inj sealed_).1

theorem turnCause {codec : DataFrameCodec} {created : Instant} {limits : SessionLimits} {past} {it : Iteration}
    {s t : EstablishedDataSession S} {far : Transport S} {more stop} (open_ : Open created past s)
    (limits_ : s.lifetime.limits = limits)
    (capped : ∀ direction, (carried (effects past) direction).length ≤ (maximumPackets limits direction).toNat)
    (paired : Paired s.transport.state far.state) (named : isZero s.metadata.sessionId = false)
    (ran : Turn codec s it more t (some stop)) : Cause codec created limits past s it stop := by
  have idle : s.lifetime.idleDeadline = Instant.checkedAdd (activity created past) limits.idleTimeout := by
    rw [SessionLifetime.idleDeadline, open_.active, limits_]
  cases ran with
  | overflow absent => exact .overflow (idle.symm.trans absent)
  | idle due given late => exact .idle (idle.symm.trans due) given late
  | interrupted wake => exact .interrupt wake
  | unread wake => exact .unread wake
  | unreceived wake => exact .unreceived wake
  | refused offer refusal =>
    obtain ⟨raw, wake, _⟩ := offer.wake
    exact refusalCause open_ limits_ (.outbound offer) (by simp [Iteration.times, wake]) (capped .outbound) refusal
  | unsealed offer unsent undelivered ran =>
    have sequence := open_.sequence
    obtain ⟨last, rfl⟩ := unsealedExhausted paired named (by omega) offer.positive offer.small ran
    have top : sequenceExhausted.toNat = 2 ^ 64 - 1 := rfl
    rw [last, top] at sequence
    exact .exhausted (.outbound offer) (by omega)
  | unsent offer fits framed failed =>
    rw [framedSize framed] at failed
    exact .unsent offer failed
  | stopped arrival opens positive small refusal =>
    obtain ⟨raw, source, wake, _⟩ := arrival.wake
    exact refusalCause open_ limits_ (.inbound arrival opens positive small) (by simp [Iteration.times, wake]) (capped .inbound)
      refusal
  | unwritten arrival opens positive small fits failed => exact .unwritten arrival opens positive small failed

/- A loop that has returned met one of the causes at one iteration, after a run
that it had left open. None of them is an error of the program's own: what fails is
the clock's range, a socket or a TUN, or a byte total beyond the counter. -/
theorem stopCauses {opening : Opening S} {created : Instant} {limits : SessionLimits} {far : Transport S}
    (fresh : opening.lifetime = .new created limits) (side : Side) (paired : Paired opening.transport.state far.state)
    (named : isZero opening.metadata.sessionId = false) (inputs : List Iteration) {stop : Stop}
    (stopped : (run turn (opening.loop side) inputs).2.outcome = some stop) :
    ∃ before it after, inputs = before ++ it :: after ∧ (run turn (opening.loop side) before).2.outcome = none ∧
      Cause opening.codec created limits (run turn (opening.loop side) before).1
        (run turn (opening.loop side) before).2.session it stop := by
  induction inputs using List.reverseRecOn with
  | nil => cases side <;> contradiction
  | append_singleton before it ih =>
    rw [runSnoc] at stopped
    cases running : (run turn (opening.loop side) before).2.outcome with
    | some earlier =>
      have same : (turn (run turn (opening.loop side) before).2 it).2.outcome = some earlier := by
        simp only [turn, DataLoop.iterate, running]
      cases Option.some.inj (same.symm.trans stopped)
      obtain ⟨first, at_, after, split, open_, cause⟩ := ih running
      exact ⟨first, at_, after ++ [it], by rw [split, List.append_assoc, List.cons_append], open_, cause⟩
    | none =>
      have metered := runMetered fresh side before
      have open_ := metered.open_ running
      have ran := iterateTurn it running open_.state
      rw [show (DataLoop.iterate (run turn (opening.loop side) before).2 it).2.outcome = some stop from stopped] at ran
      rw [metered.codec, loopCodec] at ran
      rw [← loopTransport opening side, ← metered.kin.transport] at paired
      rw [← loopMetadata opening side, ← metered.kin.metadata] at named
      have capped := metered.capped
      rw [loopLimits fresh side] at capped
      exact ⟨before, it, [], rfl, running,
        turnCause open_ (metered.limits.trans (loopLimits fresh side)) (fun direction => (capped direction).1) paired named ran⟩

theorem stopCausePlain :
    (run turn (plainMeteredOpening.loop .client) plainTwice).2.outcome = some (.close .outboundPacketLimit) ∧
    ∃ before it after, plainTwice = before ++ it :: after ∧
      (run turn (plainMeteredOpening.loop .client) before).2.outcome = none ∧
      Cause plainCodec 0 SessionBudget.plainLimits (run turn (plainMeteredOpening.loop .client) before).1
        (run turn (plainMeteredOpening.loop .client) before).2.session it (.close .outboundPacketLimit) := by
  have stopped : (run turn (plainMeteredOpening.loop .client) plainTwice).2.outcome = some (.close .outboundPacketLimit) := by
    decide +kernel
  exact ⟨stopped, @stopCauses plainSnow plainMeteredOpening 0 SessionBudget.plainLimits ⟨(), 0⟩ rfl .client
    DataPipeline.plainPaired (by decide) plainTwice _ stopped⟩

end
end Crabnet.LoopAccounting
