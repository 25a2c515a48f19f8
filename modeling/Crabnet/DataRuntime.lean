import Crabnet.DataSession

/-! The forwarding loop (data_plane/runtime.rs). One iteration is the idle check
at its head and one wake-up: the idle deadline, an interrupt, a packet read from
the TUN, a datagram received. What it does to the outside is a list of effects. -/
namespace Crabnet.DataRuntime
open MachineWord SessionTypes Fallible ReplayHistory DataFrame SnowBoundary DataSession

/- The sequence, and the packet of a frame, stand beside what goes out so that a
delivery can be told apart from another of the same bytes. -/
inductive Effect where
  | noiseWrite (call : NoiseCall)
  | noiseRead (call : NoiseCall)
  | sendTo (sequence : UInt64) (destination : SocketAddr) (frame packet : Bytes)
  | tunWrite (sequence : UInt64) (packet : Bytes)
  deriving DecidableEq

inductive RunError where
  | mtuMismatch
  | idleCheck (error : SessionLifetimeError)
  | idleDeadline (error : SessionLifetimeError)
  | noIdleDeadline
  | idleExpiry (error : SessionLifetimeError)
  | tunRead
  | outboundLimits (error : SessionLifetimeError)
  | allocate (error : DataSessionError)
  | buildHeader (error : DataFrameEncodeError)
  | encrypt
  | encode (error : DataFrameEncodeError)
  | send
  | partialSend (sent frameLength : Nat)
  | recordOutbound (error : SessionLifetimeError)
  | receive
  | commitReplay (error : DataSessionError)
  | inboundLimits (error : SessionLifetimeError)
  | packetExceedsMtu (size mtu : Nat)
  | tunWrite
  | partialTunWrite (written size : Nat)
  | recordInbound (error : SessionLifetimeError)
  deriving DecidableEq, Repr

inductive Stop where
  | close (reason : SessionCloseReason)
  | fail (error : RunError)
  deriving DecidableEq, Repr

inductive DropReason where
  | oversized
  | malformed (error : DataFrameDecodeError)
  | unknownPeer
  | wrongDirection
  | replayed
  deriving DecidableEq, Repr

inductive Wake where
  | deadline (now : Instant)
  | ctrlC
  | tunRead (packet : Option Bytes) (permitAt : Instant) (sent : Option Nat) (recordAt : Instant)
  | received (datagram : Option (Bytes × SocketAddr)) (permitAt : Instant) (written : Option Nat)
      (recordAt : Instant)
  deriving DecidableEq

structure Iteration where
  head : Instant
  wake : Wake
  deriving DecidableEq

structure Live (S : Snow) where
  session : EstablishedDataSession S
  emitted : List Effect

section
variable {S : Snow}

abbrev Step (S : Snow) (α : Type) := Action (Live S) Stop α

def emit (e : Effect) : Step S Unit := Action.modify fun l => {l with emitted := l.emitted ++ [e]}

def onSession {ε α : Type} (stop : ε → Stop) (x : Action (EstablishedDataSession S) ε α) : Step S α :=
  Action.mapError stop (Action.within Live.session (fun l session => {l with session := session}) x)

def permitted : SessionDecision → Step S Unit
  | .permit => pure ()
  | .close reason => Action.fail (.close reason)

def allocationStop : DataSessionError → Stop
  | .sendSequenceExhausted => .close .sendSequenceExhausted
  | error => .fail (.allocate error)

def buildHeader (codec : DataFrameCodec) (session : EstablishedDataSession S) (sequence : UInt64)
    (packet : Bytes) : Except Stop DataFrameHeader :=
  match codec.buildDataHeader session.metadata.sessionId session.sendDirection sequence packet.length with
  | .ok header => .ok header
  | .error e => .error (.fail (.buildHeader e))

def encodeFrame (codec : DataFrameCodec) (header : DataFrameHeader) (ciphertext : Bytes) :
    Except Stop Bytes :=
  match codec.encodeData header ciphertext (List.replicate codec.maximumDatagramLength 0) with
  | (.ok length, buffer) => .ok (buffer.take length)
  | (.error e, _) => .error (.fail (.encode e))

def sealPacket (codec : DataFrameCodec) (packet : Bytes) : Step S Nat := do
  let sequence ← onSession allocationStop EstablishedDataSession.allocateSendSequence
  let l ← Action.read
  let header ← Action.ofExcept (buildHeader codec l.session sequence packet)
  let sealed_ := encrypt l.session.transport sequence header packet
  emit (.noiseWrite ⟨sequence, sealedPayload header packet, sealed_⟩)
  match sealed_ with
  | none => Action.fail (.fail .encrypt)
  | some ciphertext => do
    let frame ← Action.ofExcept (encodeFrame codec header ciphertext)
    emit (.sendTo sequence l.session.peerEndpoint frame packet)
    pure frame.length

def sendAnswer (frameLength : Nat) : Option Nat → Except Stop Unit
  | none => .error (.fail .send)
  | some sent => if sent ≠ frameLength then .error (.fail (.partialSend sent frameLength)) else .ok ()

def forwardTun (codec : DataFrameCodec) (packet : Bytes) (permitAt : Instant) (sent : Option Nat)
    (recordAt : Instant) : Step S Unit :=
  if packet.length = 0 ∨ codec.maximumPlaintextPayload < packet.length then pure ()
  else do
    let plaintextBytes := UInt64.ofNat packet.length
    let decision ← onSession (.fail ∘ .outboundLimits)
      (EstablishedDataSession.permit .outbound plaintextBytes permitAt)
    permitted decision
    let frameLength ← sealPacket codec packet
    Action.ofExcept (sendAnswer frameLength sent)
    onSession (.fail ∘ .recordOutbound)
      (EstablishedDataSession.recordSuccess .outbound plaintextBytes recordAt)

def screen (codec : DataFrameCodec) (session : EstablishedDataSession S) (datagram : Bytes)
    (source : SocketAddr) : Except DropReason DecodedDataFrame :=
  if codec.maximumDatagramLength < datagram.length then .error .oversized
  else match codec.decodeData datagram with
    | .error e => .error (.malformed e)
    | .ok frame =>
      if source ≠ session.peerEndpoint ∨ frame.header.sessionId ≠ session.metadata.sessionId then
        .error .unknownPeer
      else if frame.header.direction ≠ session.receiveDirection then .error .wrongDirection
      else if session.replayWindow.mayAttempt frame.header.sequence ≠ .acceptable then .error .replayed
      else .ok frame

def commitSequence (sequence : UInt64) : Step S Unit :=
  onSession (.fail ∘ .commitReplay)
    (Action.within (·.replayWindow) (fun s w => {s with replayWindow := w}) (ReplayWindow.commit sequence))

def writeAnswer (size : Nat) : Option Nat → Except Stop Unit
  | none => .error (.fail .tunWrite)
  | some written => if written ≠ size then .error (.fail (.partialTunWrite written size)) else .ok ()

def writePacket (mtu : Nat) (sequence : UInt64) (packet : Bytes) (written : Option Nat) : Step S Unit :=
  if mtu < packet.length then Action.fail (.fail (.packetExceedsMtu packet.length mtu))
  else do
    emit (.tunWrite sequence packet)
    Action.ofExcept (writeAnswer packet.length written)

def deliver (codec : DataFrameCodec) (mtu : Nat) (sequence : UInt64) (packet : Bytes)
    (permitAt : Instant) (written : Option Nat) (recordAt : Instant) : Step S Unit := do
  commitSequence sequence
  if packet.length = 0 ∨ codec.maximumPlaintextPayload < packet.length then pure ()
  else do
    let plaintextBytes := UInt64.ofNat packet.length
    let decision ← onSession (.fail ∘ .inboundLimits)
      (EstablishedDataSession.permit .inbound plaintextBytes permitAt)
    permitted decision
    writePacket mtu sequence packet written
    onSession (.fail ∘ .recordInbound)
      (EstablishedDataSession.recordSuccess .inbound plaintextBytes recordAt)

def forwardUdp (codec : DataFrameCodec) (mtu : Nat) (datagram : Bytes) (source : SocketAddr)
    (permitAt : Instant) (written : Option Nat) (recordAt : Instant) : Step S Unit := do
  let l ← Action.read
  match screen codec l.session datagram source with
  | .error _ => pure ()
  | .ok frame => do
    let sequence := frame.header.sequence
    emit (.noiseRead ⟨sequence, frame.ciphertext, opened l.session.transport sequence frame.ciphertext⟩)
    match decrypt l.session.transport sequence frame.header frame.ciphertext with
    | .plaintext packet => deliver codec mtu sequence packet permitAt written recordAt
    | .authenticationFailure => pure ()
    | .headerBindingFailure => pure ()

def idleCheck (error : SessionLifetimeError → RunError) (now : Instant) : Step S Unit := do
  let decision ← onSession (.fail ∘ error) (EstablishedDataSession.expireIfDue now)
  permitted decision

def awaitDeadline (session : EstablishedDataSession S) : Except Stop Instant :=
  match session.nextDeadline with
  | .error e => .error (.fail (.idleDeadline e))
  | .ok none => .error (.fail .noIdleDeadline)
  | .ok (some deadline) => .ok deadline

-- The buffers hold one byte more than is ever accepted; what is longer is cut there.
def awake (codec : DataFrameCodec) (mtu : Nat) : Wake → Step S Unit
  | .deadline now => idleCheck .idleExpiry now
  | .ctrlC => Action.fail (.close .localShutdown)
  | .tunRead none _ _ _ => Action.fail (.fail .tunRead)
  | .tunRead (some packet) permitAt sent recordAt =>
    forwardTun codec (packet.take (mtu + 1)) permitAt sent recordAt
  | .received none _ _ _ => Action.fail (.fail .receive)
  | .received (some (datagram, source)) permitAt written recordAt =>
    forwardUdp codec mtu (datagram.take (codec.maximumDatagramLength + 1)) source permitAt written recordAt

def body (codec : DataFrameCodec) (mtu : Nat) (it : Iteration) : Step S Unit := do
  idleCheck .idleCheck it.head
  let l ← Action.read
  let _ ← Action.ofExcept (awaitDeadline l.session)
  awake codec mtu it.wake

structure DataLoop (S : Snow) where
  codec : DataFrameCodec
  mtu : Nat
  mtuMatches : mtu = codec.maximumPlaintextPayload
  session : EstablishedDataSession S
  outcome : Option Stop

def DataLoop.start (codec : DataFrameCodec) (mtu : Nat) (session : EstablishedDataSession S) :
    Except RunError (DataLoop S) :=
  if same : mtu = codec.maximumPlaintextPayload then .ok ⟨codec, mtu, same, session, none⟩
  else .error .mtuMismatch

def DataLoop.iterate (l : DataLoop S) (it : Iteration) : List Effect × DataLoop S :=
  match l.outcome with
  | some _ => ([], l)
  | none =>
    match body l.codec l.mtu it ⟨l.session, []⟩ with
    | (.ok (), live) => (live.emitted, {l with session := live.session})
    | (.error stop, live) => (live.emitted, {l with session := live.session, outcome := some stop})

def advance (s : EstablishedDataSession S) (lifetime : SessionLifetime) : EstablishedDataSession S :=
  {s with
    nextSendSequence := if s.nextSendSequence = maxSequence then sequenceExhausted else s.nextSendSequence + 1
    lifetime := lifetime}

def accepted (s : EstablishedDataSession S) (sequence : UInt64) (lifetime : SessionLifetime) :
    EstablishedDataSession S :=
  {s with replayWindow := (ReplayWindow.commit sequence s.replayWindow).2, lifetime := lifetime}

structure Authenticated (codec : DataFrameCodec) (s : EstablishedDataSession S) (datagram : Bytes)
    (source : SocketAddr) (frame : DecodedDataFrame) (packet : Bytes) : Prop where
  screened : screen codec s datagram source = .ok frame
  opens : opened s.transport frame.header.sequence frame.ciphertext = some (sealedPayload frame.header packet)

inductive Progress (codec : DataFrameCodec) (s : EstablishedDataSession S) :
    List Effect → EstablishedDataSession S → Prop
  | quiet (lifetime) : Progress codec s [] {s with lifetime := lifetime}
  | refused (lifetime) (live : s.nextSendSequence ≠ sequenceExhausted) :
    Progress codec s [] (advance s lifetime)
  | unsent (lifetime header packet result) (live : s.nextSendSequence ≠ sequenceExhausted)
      (built : buildHeader codec s s.nextSendSequence packet = .ok header)
      (failed : ∀ ciphertext, result = some ciphertext →
        ∃ stop, encodeFrame codec header ciphertext = .error stop) :
    Progress codec s [.noiseWrite ⟨s.nextSendSequence, sealedPayload header packet, result⟩]
      (advance s lifetime)
  | sent (lifetime header packet ciphertext frame) (live : s.nextSendSequence ≠ sequenceExhausted)
      (built : buildHeader codec s s.nextSendSequence packet = .ok header)
      (encoded : encodeFrame codec header ciphertext = .ok frame) :
    Progress codec s [.noiseWrite ⟨s.nextSendSequence, sealedPayload header packet, some ciphertext⟩,
      .sendTo s.nextSendSequence s.peerEndpoint frame packet] (advance s lifetime)
  | probed (lifetime call) :
    Progress codec s [.noiseRead call] {s with lifetime := lifetime}
  | committed (lifetime datagram source frame packet)
      (authentic : Authenticated codec s datagram source frame packet) :
    Progress codec s [.noiseRead ⟨frame.header.sequence, frame.ciphertext,
      some (sealedPayload frame.header packet)⟩] (accepted s frame.header.sequence lifetime)
  | delivered (lifetime datagram source frame packet)
      (authentic : Authenticated codec s datagram source frame packet) :
    Progress codec s [.noiseRead ⟨frame.header.sequence, frame.ciphertext,
      some (sealedPayload frame.header packet)⟩, .tunWrite frame.header.sequence packet]
      (accepted s frame.header.sequence lifetime)

theorem livedSpec {α : Type} {stop : SessionLifetimeError → Stop} {x : SessionLifetime.Step α}
    {Q : α → Live S → Prop} {E : Stop → Live S → Prop} {l : Live S}
    (ok : ∀ a lifetime, Q a {l with session := {l.session with lifetime := lifetime}})
    (error : ∀ e lifetime, E (stop e) {l with session := {l.session with lifetime := lifetime}}) :
    Action.wp (onSession stop (EstablishedDataSession.lived x)) Q E l := by
  simp only [onSession, EstablishedDataSession.lived, Action.wpMapError, Action.wpWithin]
  unfold Action.wp
  split
  · exact ok _ _
  · exact error _ _

theorem permittedSpec {decision : SessionDecision} {Q : Unit → Live S → Prop} {E : Stop → Live S → Prop}
    {l : Live S} (ok : Q () l) (stopped : ∀ reason, E (.close reason) l) :
    Action.wp (permitted decision) Q E l := by
  cases decision with
  | permit => exact ok
  | close reason => exact stopped reason

def Reached (codec : DataFrameCodec) (s : EstablishedDataSession S) (l : Live S) : Prop :=
  Progress codec s l.emitted l.session

theorem sealSpec (codec : DataFrameCodec) (packet : Bytes) (s : EstablishedDataSession S) (lifetime) :
    Action.wp (sealPacket codec packet)
      (fun _ t => ∀ later, Reached codec s {t with session := {t.session with lifetime := later}})
      (fun _ t => Reached codec s t) ⟨{s with lifetime := lifetime}, []⟩ := by
  simp only [sealPacket, onSession, EstablishedDataSession.allocateSendSequence, Action.wpBind,
    Action.wpMapError, Action.wpWithin, Action.wpRead, Action.wpIte, Action.wpFail, Action.wpModify,
    Action.wpPure, Action.wpOfExcept, emit]
  constructor
  · intro _
    exact .quiet lifetime
  intro live
  cases built : buildHeader codec s s.nextSendSequence packet with
  | error stop =>
    have refused : buildHeader codec (advance s lifetime) s.nextSendSequence packet = .error stop := built
    simp only [advance] at refused
    simp only [refused]
    exact .refused lifetime live
  | ok header =>
    have same : buildHeader codec (advance s lifetime) s.nextSendSequence packet = .ok header := built
    simp only [advance] at same
    simp only [same]
    cases result : encrypt s.transport s.nextSendSequence header packet with
    | none =>
      exact .unsent lifetime header packet none live built (fun _ impossible => by contradiction)
    | some ciphertext =>
      simp only [Action.wpBind, Action.wpOfExcept]
      cases encoded : encodeFrame codec header ciphertext with
      | error stop =>
        refine .unsent lifetime header packet (some ciphertext) live built ?_
        intro c same
        cases Option.some.inj same
        exact ⟨stop, encoded⟩
      | ok frame =>
        intro later
        exact .sent later header packet ciphertext frame live built encoded

theorem forwardTunSpec (codec : DataFrameCodec) (packet permitAt sent recordAt)
    (s : EstablishedDataSession S) (lifetime) :
    Action.wp (forwardTun codec packet permitAt sent recordAt)
      (fun _ t => Reached codec s t) (fun _ t => Reached codec s t) ⟨{s with lifetime := lifetime}, []⟩ := by
  simp only [forwardTun, Action.wpIte, Action.wpPure, Action.wpBind]
  refine ⟨fun _ => .quiet lifetime, fun _ => ?_⟩
  refine livedSpec ?_ (fun _ later => .quiet later)
  intro decision later
  refine permittedSpec ?_ (fun _ => .quiet later)
  refine Action.wpMono (sealSpec codec packet s later) ?_ (fun _ _ => id)
  intro frameLength t reached
  simp only [Action.wpOfExcept]
  cases sendAnswer frameLength sent with
  | error stop => exact reached t.session.lifetime
  | ok _ => exact livedSpec (fun _ last => reached last) (fun _ last => reached last)

theorem screenedAcceptable {codec : DataFrameCodec} {s : EstablishedDataSession S} {datagram source frame}
    (ok : screen codec s datagram source = .ok frame) :
    codec.decodeData datagram = .ok frame ∧ source = s.peerEndpoint ∧
      frame.header.sessionId = s.metadata.sessionId ∧ frame.header.direction = s.receiveDirection ∧
      s.replayWindow.mayAttempt frame.header.sequence = .acceptable := by
  unfold screen at ok
  split at ok <;> try contradiction
  split at ok <;> try contradiction
  rename_i decoded
  split at ok <;> try contradiction
  rename_i peer
  split at ok <;> try contradiction
  rename_i way
  split at ok <;> try contradiction
  rename_i fresh
  cases Except.ok.inj ok
  rw [not_or, not_not, not_not] at peer
  exact ⟨decoded, peer.1, peer.2, not_not.mp way, not_not.mp fresh⟩

theorem commitSpec {s : EstablishedDataSession S} {sequence : UInt64} {emitted}
    (fresh : s.replayWindow.mayAttempt sequence = .acceptable)
    {Q : Unit → Live S → Prop} {E : Stop → Live S → Prop}
    (post : Q () ⟨accepted s sequence s.lifetime, emitted⟩) :
    Action.wp (commitSequence sequence) Q E ⟨s, emitted⟩ := by
  have done := (commitSucceeds s.replayWindow sequence).mpr fresh
  simp only [commitSequence, onSession, Action.wpMapError, Action.wpWithin]
  unfold Action.wp
  rcases ran : ReplayWindow.commit sequence s.replayWindow with ⟨_ | _, w⟩
  · rw [ran] at done
    contradiction
  · simpa only [accepted, ran] using post

theorem deliverSpec {codec : DataFrameCodec} {mtu permitAt written recordAt} {s : EstablishedDataSession S}
    {datagram source frame packet} (authentic : Authenticated codec s datagram source frame packet) :
    Action.wp (deliver codec mtu frame.header.sequence packet permitAt written recordAt)
      (fun _ t => Reached codec s t) (fun _ t => Reached codec s t)
      ⟨s, [.noiseRead ⟨frame.header.sequence, frame.ciphertext, some (sealedPayload frame.header packet)⟩]⟩ := by
  have kept : ∀ lifetime, Reached codec s ⟨accepted s frame.header.sequence lifetime,
      [.noiseRead ⟨frame.header.sequence, frame.ciphertext, some (sealedPayload frame.header packet)⟩]⟩ :=
    fun lifetime => .committed lifetime datagram source frame packet authentic
  have done : ∀ lifetime, Reached codec s ⟨accepted s frame.header.sequence lifetime,
      [.noiseRead ⟨frame.header.sequence, frame.ciphertext, some (sealedPayload frame.header packet)⟩,
        .tunWrite frame.header.sequence packet]⟩ :=
    fun lifetime => .delivered lifetime datagram source frame packet authentic
  simp only [deliver, Action.wpBind]
  apply commitSpec (screenedAcceptable authentic.screened).2.2.2.2
  simp only [Action.wpIte, Action.wpPure, Action.wpBind]
  refine ⟨fun _ => kept s.lifetime, fun _ => ?_⟩
  refine livedSpec ?_ (fun _ lifetime => kept lifetime)
  intro decision lifetime
  refine permittedSpec ?_ (fun _ => kept lifetime)
  simp only [writePacket, Action.wpIte, Action.wpFail, Action.wpBind, emit, Action.wpModify,
    Action.wpOfExcept]
  refine ⟨fun _ => kept lifetime, fun _ => ?_⟩
  cases writeAnswer packet.length written with
  | error stop => exact done lifetime
  | ok _ => exact livedSpec (fun _ last => done last) (fun _ last => done last)

theorem forwardUdpSpec (codec : DataFrameCodec) (mtu datagram source permitAt written recordAt)
    (s : EstablishedDataSession S) :
    Action.wp (forwardUdp codec mtu datagram source permitAt written recordAt)
      (fun _ t => Reached codec s t) (fun _ t => Reached codec s t) ⟨s, []⟩ := by
  simp only [forwardUdp, Action.wpBind, Action.wpRead]
  cases screened : screen codec s datagram source with
  | error reason => exact .quiet s.lifetime
  | ok frame =>
    simp only [Action.wpBind, emit, Action.wpModify, decrypt]
    cases result : bound frame.header (opened s.transport frame.header.sequence frame.ciphertext) with
    | authenticationFailure => exact .probed s.lifetime _
    | headerBindingFailure => exact .probed s.lifetime _
    | plaintext packet =>
      have opens := boundSealed result
      rw [opens]
      exact deliverSpec ⟨screened, opens⟩

theorem progressAfter {codec : DataFrameCodec} {s t : EstablishedDataSession S} {lifetime effects}
    (progress : Progress codec {s with lifetime := lifetime} effects t) : Progress codec s effects t := by
  cases progress with
  | quiet later => exact .quiet later
  | refused later live => exact .refused later live
  | unsent later header packet result live built failed =>
    exact .unsent later header packet result live built failed
  | sent later header packet ciphertext frame live built encoded =>
    exact .sent later header packet ciphertext frame live built encoded
  | probed later call => exact .probed later call
  | committed later datagram source frame packet authentic =>
    exact .committed later datagram source frame packet ⟨authentic.screened, authentic.opens⟩
  | delivered later datagram source frame packet authentic =>
    exact .delivered later datagram source frame packet ⟨authentic.screened, authentic.opens⟩

theorem idleSpec {error : SessionLifetimeError → RunError} {now : Instant} {s : EstablishedDataSession S}
    {lifetime emitted} {Q : Unit → Live S → Prop} {E : Stop → Live S → Prop}
    (ok : ∀ later, Q () ⟨{s with lifetime := later}, emitted⟩)
    (stopped : ∀ stop later, E stop ⟨{s with lifetime := later}, emitted⟩) :
    Action.wp (idleCheck error now) Q E ⟨{s with lifetime := lifetime}, emitted⟩ := by
  simp only [idleCheck, Action.wpBind]
  refine livedSpec ?_ (fun _ later => stopped _ later)
  intro decision later
  exact permittedSpec (ok later) (fun reason => stopped _ later)

theorem bodySpec (codec : DataFrameCodec) (mtu : Nat) (it : Iteration) (s : EstablishedDataSession S) :
    Action.wp (body codec mtu it) (fun _ t => Reached codec s t) (fun _ t => Reached codec s t) ⟨s, []⟩ := by
  simp only [body, Action.wpBind, Action.wpRead, Action.wpOfExcept]
  refine @idleSpec S _ _ s s.lifetime [] _ _ ?_ (fun _ later => .quiet later)
  intro lifetime
  cases awaitDeadline {s with lifetime := lifetime} with
  | error stop => exact .quiet lifetime
  | ok deadline =>
    cases it.wake with
    | deadline now => exact idleSpec (fun later => .quiet later) (fun _ later => .quiet later)
    | ctrlC => exact .quiet lifetime
    | tunRead packet permitAt sent recordAt =>
      cases packet with
      | none => exact .quiet lifetime
      | some packet => exact forwardTunSpec codec _ permitAt sent recordAt s lifetime
    | received datagram permitAt written recordAt =>
      cases datagram with
      | none => exact .quiet lifetime
      | some datagram =>
        obtain ⟨raw, source⟩ := datagram
        refine Action.wpMono (forwardUdpSpec codec mtu _ source permitAt written recordAt _) ?_ ?_
        · exact fun _ _ => progressAfter
        · exact fun _ _ => progressAfter

theorem iterateSpec (l : DataLoop S) (it : Iteration) :
    (l.iterate it).2.codec = l.codec ∧ Progress l.codec l.session (l.iterate it).1 (l.iterate it).2.session := by
  unfold DataLoop.iterate
  split
  · exact ⟨rfl, .quiet l.session.lifetime⟩
  · have spec := bodySpec l.codec l.mtu it l.session
    rcases ran : body l.codec l.mtu it ⟨l.session, []⟩ with ⟨_ | _, live⟩
    · have reached := Action.wpError spec ran
      exact ⟨rfl, reached⟩
    · have reached := Action.wpOk spec ran
      exact ⟨rfl, reached⟩

end
end Crabnet.DataRuntime
