import Crabnet.DataDelivery

/-! Traffic that does not authenticate has no influence on a data loop: an
iteration that drops its datagram changes nothing and shows nothing, so runs
that differ only by such iterations end in one state with one visible history. -/
namespace Crabnet.DataInterference
open MachineWord SessionTypes Fallible ReplayHistory DataFrame SnowBoundary DataSession DataRuntime DataDelivery

section
variable {S : Snow}

def drops (codec : DataFrameCodec) (session : EstablishedDataSession S) (datagram : Bytes)
    (source : SocketAddr) : Bool :=
  match screen codec session datagram source with
  | .error _ => true
  | .ok frame =>
    match decrypt session.transport frame.header.sequence frame.header frame.ciphertext with
    | .plaintext _ => false
    | .authenticationFailure => true
    | .headerBindingFailure => true

def goesOn (l : SessionLifetime) (now : Instant) : Bool :=
  match l.state, l.idleDeadline with
  | .established, some deadline => decide (now < deadline)
  | _, _ => false

def dropsDatagram (l : DataLoop S) (it : Iteration) : Bool :=
  l.outcome.isNone && goesOn l.session.lifetime it.head &&
    match it.wake with
    | .received (some (datagram, source)) _ _ _ =>
      drops l.codec l.session (datagram.take (l.codec.maximumDatagramLength + 1)) source
    | _ => false

def outward (effects : List Effect) : List Effect :=
  effects.filter fun
    | .sendTo .. => true
    | .tunWrite .. => true
    | _ => false

theorem goesOnCases {l : SessionLifetime} {now : Instant} (ok : goesOn l now = true) :
    l.state = .established ∧ ∃ deadline, l.idleDeadline = some deadline ∧ ¬ deadline ≤ now := by
  unfold goesOn at ok
  split at ok <;> try contradiction
  rename_i deadline state found
  exact ⟨state, deadline, found, Nat.not_le_of_lt (of_decide_eq_true ok)⟩

theorem headPermits {s : EstablishedDataSession S} {now error emitted} {Q : Unit → Live S → Prop}
    {E : Stop → Live S → Prop} (ok : goesOn s.lifetime now = true) (post : Q () ⟨s, emitted⟩) :
    Action.wp (idleCheck error now) Q E ⟨s, emitted⟩ := by
  obtain ⟨state, deadline, found, early⟩ := goesOnCases ok
  simp only [idleCheck, onSession, EstablishedDataSession.expireIfDue, EstablishedDataSession.lived,
    SessionLifetime.expireIfDue, Action.wpBind, Action.wpMapError, Action.wpWithin, Action.wpRead, state,
    found, early, if_false, Action.wpPure, permitted]
  exact post

theorem deadlineKnown {s : EstablishedDataSession S} {now} (ok : goesOn s.lifetime now = true) :
    ∃ deadline, awaitDeadline s = .ok deadline := by
  obtain ⟨state, deadline, found, _⟩ := goesOnCases ok
  refine ⟨deadline, ?_⟩
  simp [awaitDeadline, EstablishedDataSession.nextDeadline, SessionLifetime.nextDeadline, state, found]

theorem forwardDrops {codec : DataFrameCodec} {mtu : Nat} {s : EstablishedDataSession S} {datagram source}
    (ok : drops codec s datagram source = true) (permitAt written recordAt) :
    Action.wp (forwardUdp codec mtu datagram source permitAt written recordAt)
      (fun _ t => t.session = s ∧ outward t.emitted = []) (fun _ _ => False) ⟨s, []⟩ := by
  unfold drops at ok
  simp only [forwardUdp, Action.wpBind, Action.wpRead]
  cases screened : screen codec s datagram source with
  | error reason => exact ⟨rfl, rfl⟩
  | ok frame =>
    simp only [Action.wpBind, emit, Action.wpModify]
    cases result : decrypt s.transport frame.header.sequence frame.header frame.ciphertext with
    | plaintext packet =>
      simp only [screened, result] at ok
      contradiction
    | authenticationFailure => exact ⟨rfl, rfl⟩
    | headerBindingFailure => exact ⟨rfl, rfl⟩

theorem dropInert {l : DataLoop S} {it : Iteration} (ok : dropsDatagram l it = true) :
    (l.iterate it).2 = l ∧ outward (l.iterate it).1 = [] := by
  simp only [dropsDatagram, Bool.and_eq_true, Option.isNone_iff_eq_none] at ok
  obtain ⟨⟨running, head⟩, dropped⟩ := ok
  split at dropped <;> try contradiction
  rename_i datagram source permitAt written recordAt wake
  obtain ⟨deadline, known⟩ := deadlineKnown head
  have whole : Action.wp (body l.codec l.mtu it)
      (fun _ t => t.session = l.session ∧ outward t.emitted = []) (fun _ _ => False) ⟨l.session, []⟩ := by
    simp only [body, Action.wpBind, Action.wpRead, Action.wpOfExcept]
    apply headPermits head
    simp only [known, wake, awake]
    exact forwardDrops dropped permitAt written recordAt
  unfold DataLoop.iterate
  rw [running]
  rcases ran : body l.codec l.mtu it ⟨l.session, []⟩ with ⟨_ | _, live⟩
  · exact (Action.wpError whole ran).elim
  · obtain ⟨same, silent⟩ := Action.wpOk whole ran
    refine ⟨?_, silent⟩
    cases l
    simp only at same running ⊢
    rw [same, running]

/- `full` is `base` with iterations put in, each of which drops its datagram in
the state it meets. -/
inductive Inserted : DataLoop S → List Iteration → List Iteration → Prop
  | done (l) : Inserted l [] []
  | kept (l it base full) (rest : Inserted (l.iterate it).2 base full) :
    Inserted l (it :: base) (it :: full)
  | extra (l it base full) (dropped : dropsDatagram l it = true) (rest : Inserted l base full) :
    Inserted l base (it :: full)

def history (l : DataLoop S) (inputs : List Iteration) : List Effect :=
  outward (run DataLoop.iterate l inputs).1.flatten

theorem historyCons (l : DataLoop S) (it : Iteration) (rest : List Iteration) :
    history l (it :: rest) = outward (l.iterate it).1 ++ history (l.iterate it).2 rest := by
  simp [history, run, outward]

theorem insertedInert {l : DataLoop S} {base full} (inserted : Inserted l base full) :
    (run DataLoop.iterate l full).2 = (run DataLoop.iterate l base).2 ∧ history l full = history l base := by
  induction inserted with
  | done l => exact ⟨rfl, rfl⟩
  | kept l it base full rest ih =>
    rw [historyCons, historyCons, ih.2]
    exact ⟨ih.1, rfl⟩
  | extra l it base full dropped rest ih =>
    obtain ⟨same, silent⟩ := dropInert dropped
    rw [historyCons, silent, List.nil_append, same, ← ih.2]
    refine ⟨?_, rfl⟩
    rw [← ih.1]
    change (run DataLoop.iterate (l.iterate it).2 full).2 = _
    rw [same]

def unreachable : Stop → Bool
  | .fail (.commitReplay _) => true
  | .fail (.packetExceedsMtu _ _) => true
  | _ => false

theorem deliverReachable {codec : DataFrameCodec} {mtu : Nat} (matches_ : mtu = codec.maximumPlaintextPayload)
    {s : EstablishedDataSession S} {sequence : UInt64}
    (fresh : s.replayWindow.mayAttempt sequence = .acceptable) (packet permitAt written recordAt emitted) :
    Action.wp (deliver codec mtu sequence packet permitAt written recordAt)
      (fun _ _ => True) (fun stop _ => unreachable stop = false) ⟨s, emitted⟩ := by
  simp only [deliver, Action.wpBind]
  apply commitSpec fresh
  simp only [Action.wpIte, Action.wpPure, Action.wpBind]
  refine ⟨fun _ => trivial, fun size => ?_⟩
  rw [not_or] at size
  refine livedSpec ?_ (fun _ _ => rfl)
  intro decision lifetime
  refine permittedSpec ?_ (fun _ => rfl)
  simp only [writePacket, Action.wpIte, Action.wpFail, Action.wpBind, emit, Action.wpModify, Action.wpOfExcept]
  refine ⟨fun large => absurd (matches_ ▸ large) size.2, fun _ => ?_⟩
  cases answer : writeAnswer packet.length written with
  | error stop =>
    unfold writeAnswer at answer
    split at answer
    · cases answer
      rfl
    · split at answer <;> try contradiction
      cases answer
      rfl
  | ok _ => exact livedSpec (fun _ _ => trivial) (fun _ _ => rfl)

theorem receiveReachable {codec : DataFrameCodec} {mtu : Nat} (matches_ : mtu = codec.maximumPlaintextPayload)
    (datagram source permitAt written recordAt) (live : Live S) :
    Action.wp (forwardUdp codec mtu datagram source permitAt written recordAt)
      (fun _ _ => True) (fun stop _ => unreachable stop = false) live := by
  simp only [forwardUdp, Action.wpBind, Action.wpRead]
  cases screened : screen codec live.session datagram source with
  | error reason => trivial
  | ok frame =>
    have fresh := (screenedAcceptable screened).2.2.2.2
    simp only [Action.wpBind, emit, Action.wpModify]
    cases decrypt live.session.transport frame.header.sequence frame.header frame.ciphertext with
    | authenticationFailure => trivial
    | headerBindingFailure => trivial
    | plaintext packet => exact deliverReachable matches_ fresh packet permitAt written recordAt _

def LengthLaw (S : Snow) : Prop :=
  ∀ state nonce message plaintext, S.transportRead state nonce message = some plaintext →
    plaintext.length + aeadTagLength = message.length

theorem authenticatedLength (law : LengthLaw S) {codec : DataFrameCodec} {s : EstablishedDataSession S}
    {datagram source frame packet} (screened : screen codec s datagram source = .ok frame)
    (ok : decrypt s.transport frame.header.sequence frame.header frame.ciphertext = .plaintext packet) :
    1 ≤ packet.length ∧ packet.length ≤ codec.maximumPlaintextPayload := by
  have formed := decodeWellFormed (screenedAcceptable screened).1
  have read := (fittedSome (boundSealed ok)).1
  have total := law _ _ _ _ read
  have least := formed.atLeast
  have most := formed.atMost
  rw [codec.ciphertextIs] at most
  rw [sealedPayload, List.length_append, headerBindingLength] at total
  simp only [minimumDataCiphertextLength, dataTransportOverhead, dataHeaderLength, aeadTagLength] at *
  omega

theorem unauthenticatedTrafficInert (l : DataLoop S) :
    (∀ base full, Inserted l base full →
      (run DataLoop.iterate l full).2 = (run DataLoop.iterate l base).2 ∧ history l full = history l base) ∧
    (∀ datagram source permitAt written recordAt (live : Live S) stop,
      (forwardUdp l.codec l.mtu datagram source permitAt written recordAt live).1 = .error stop →
      (∀ e, stop ≠ .fail (.commitReplay e)) ∧ ∀ size mtu, stop ≠ .fail (.packetExceedsMtu size mtu)) ∧
    (LengthLaw S → ∀ (s : EstablishedDataSession S) datagram source frame packet,
      screen l.codec s datagram source = .ok frame →
      decrypt s.transport frame.header.sequence frame.header frame.ciphertext = .plaintext packet →
      1 ≤ packet.length ∧ packet.length ≤ l.mtu) := by
  refine ⟨fun base full => insertedInert, ?_, ?_⟩
  · intro datagram source permitAt written recordAt live stop returned
    have reachable := receiveReachable l.mtuMatches datagram source permitAt written recordAt live
    rcases ran : forwardUdp l.codec l.mtu datagram source permitAt written recordAt live with ⟨e | _, t⟩
    · have lawful := Action.wpError reachable ran
      rw [ran] at returned
      cases returned
      constructor
      · intro e same
        subst same
        contradiction
      · intro size mtu same
        subst same
        contradiction
    · rw [ran] at returned
      cases returned
  · intro law s datagram source frame packet screened ok
    rw [l.mtuMatches]
    exact authenticatedLength law screened ok

theorem plainLengthLaw : LengthLaw plainSnow := by
  intro state nonce message plaintext ok
  change plainOpen nonce message = some plaintext at ok
  unfold plainOpen at ok
  split at ok <;> try contradiction
  rename_i long
  cases Option.some.inj ok
  rw [List.length_take]
  simp only [aeadTagLength]
  omega

def plainLoop : DataLoop plainSnow := (plainOpening .server).loop .server

-- Undecodable, then sealed under a nonce that is not its sequence.
def plainNoise (now : Instant) (datagram : Bytes) : Iteration :=
  ⟨now, .received (some (datagram, plainEndpoint .client)) now (some 4) now⟩

def plainForged : Bytes := headerBindingBytes plainHeader ++ plainSeal 2 (sealedPayload plainHeader plainPacket)

theorem plainNoiseInert :
    history plainLoop [plainNoise 1 [0, 1, 2], plainNoise 2 plainForged, plainNoise 3 plainFrame,
      plainNoise 4 plainFrame] = [.tunWrite 1 plainPacket] ∧
    1 ≤ plainPacket.length := by
  have inserted : Inserted plainLoop [plainNoise 3 plainFrame]
      [plainNoise 1 [0, 1, 2], plainNoise 2 plainForged, plainNoise 3 plainFrame, plainNoise 4 plainFrame] :=
    .extra _ _ _ _ (by decide +kernel) (.extra _ _ _ _ (by decide +kernel)
      (.kept _ _ _ _ (.extra _ _ _ _ (by decide +kernel) (.done _))))
  have alone : history plainLoop [plainNoise 3 plainFrame] = [.tunWrite 1 plainPacket] := by decide +kernel
  obtain ⟨inert, _, bounds⟩ := unauthenticatedTrafficInert plainLoop
  refine ⟨(inert _ _ inserted).2.trans alone, ?_⟩
  have size := bounds plainLengthLaw plainLoop.session plainFrame (plainEndpoint .client)
    ⟨plainHeader, plainCiphertext⟩ plainPacket (by decide +kernel) (by decide +kernel)
  exact size.1

end
end Crabnet.DataInterference
