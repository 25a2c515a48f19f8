import Crabnet.LoopTurns
import Crabnet.PlainFrame
import Crabnet.SessionHandOff

/-! A Noise-IK endpoint over its whole life (noise_runtime.rs): the hello of a client,
the handshake loop and the forwarding loop that it hands its session to. -/
namespace Crabnet.NoiseEndpoint
open MachineWord SessionTypes Fallible CryptoBoundary HandshakeTypes SnowBoundary NoiseServer NoiseClient HandshakeCodec
open HandshakeAdapter FrameExchange DataFrame DataSession DataRuntime NoiseRuntime WireHeader PlainFrame
open CoordinatorStability (serverStep clientStep)
open ClientLedger (Client)

inductive Endpoint (S : Snow) where
  | unstarted (coordinator : Client S) (serverAddr : SocketAddr)
  | client (r : ClientRuntime S)
  | server (r : ServerRuntime S)
  | forwarding (l : DataLoop S)
  | refused (error : RunError)

inductive Input where
  | start (now : Instant) (unsent : Option Nat)
  | wake (w : NoiseRuntime.Wake)
  | turn (it : Iteration)

inductive Output where
  | sendTo (destination : SocketAddr) (datagram : Bytes)
  | tunWrite (packet : Bytes)
  deriving DecidableEq

def shown : Effect → Option Output
  | .sendTo _ destination frame _ => some (.sendTo destination frame)
  | .tunWrite _ packet => some (.tunWrite packet)
  | .noiseWrite _ | .noiseRead _ => none

section
variable {S : Snow}

def goOn (settings : Settings) (waiting : Endpoint S) : Status S → Endpoint S
  | .waiting | .failed _ => waiting
  | .forwarding codec session =>
    match DataLoop.start codec settings.mtu session with
    | .ok l => .forwarding l
    | .error e => .refused e

def step (settings : Settings) : Endpoint S → Input → List Output × Endpoint S
  | .unstarted coordinator serverAddr, .start now unsent =>
    let started := ClientRuntime.start settings serverAddr now unsent coordinator
    (started.1.map (.sendTo serverAddr), .client started.2)
  | .client r, .wake w =>
    let next := r.step settings w
    (next.1.map (.sendTo r.serverAddr), goOn settings (.client next.2) next.2.status)
  | .server r, .wake w =>
    let next := r.step settings w
    (next.1.map fun datagram => .sendTo datagram.destination datagram.datagram,
      goOn settings (.server next.2) next.2.status)
  | .forwarding l, .turn it => ((l.iterate it).1.filterMap shown, .forwarding (l.iterate it).2)
  | e, _ => ([], e)

def Input.datagram : Input → Option Bytes
  | .wake (.received datagram _ _ _ _) => some datagram
  | .turn ⟨_, .received (some (datagram, _)) _ _ _⟩ => some datagram
  | _ => none

def version (datagram : Bytes) : UInt8 := byteAt datagram 4

def isV2 (datagram : Bytes) : Prop := version datagram = ProtocolVersion.v2.wireValue

def Output.speaks (v : ProtocolVersion) : Output → Prop
  | .sendTo _ datagram => version datagram = v.wireValue
  | .tunWrite _ => True

theorem headerVersion {bodyLength : Nat} (fits : bodyLength < u16Limit) (version_ kind : UInt8) (body more : Bytes)
    {n : Nat} (long : 10 ≤ n) : version ((commonHeader version_ kind bodyLength ++ body ++ more).take n) = version_ := by
  have reads := (headerReads fits version_ kind (body ++ more)).version
  rw [List.append_assoc]
  unfold version byteAt at reads ⊢
  rw [List.getD_eq_getElem?_getD, List.getElem?_take_of_lt (by omega), ← List.getD_eq_getElem?_getD]
  exact reads

theorem encodedV2 {codec : V2HandshakeCodec} {kind attempt payload datagram} (handshake : kind ≠ .data)
    (ok : encode codec kind attempt payload = .ok datagram) : isV2 datagram := by
  unfold encode at ok
  split at ok <;> try contradiction
  rename_i length output written
  cases Except.ok.inj ok
  have known := HandshakeExact.encodeLength written
  have room := HandshakeExact.lengthFits known
  unfold V2HandshakeCodec.encodedLen at known
  cases lengths : codec.encodedLengths payload.length with
  | error e =>
    rw [lengths] at known
    contradiction
  | ok pair =>
    obtain ⟨bodyLength, total⟩ := pair
    rw [lengths] at known
    cases Except.ok.inj known
    obtain ⟨positive, small, rfl, rfl⟩ := HandshakeExact.lengthsBound lengths
    by_cases nonzero : attempt.value = 0
    · cases kind <;> simp [V2HandshakeCodec.encode, nonzero] at written handshake
    · rw [V2HandshakeCodec.maxDatagramLen] at room
      rw [HandshakeExact.encodeWrites handshake nonzero positive small (by simpa using room)] at written
      cases (Prod.mk.inj written).2
      have bound := codec.bodyFits
      rw [HandshakeExact.frameSplit]
      exact headerVersion (by omega) _ _ _ _ (by omega)

theorem encodedAll {α β : Type} {f : α → Except AdapterError β} {Good : β → Prop} {items : List α} {all}
    (ok : encodeAll f items = .ok all) (each : ∀ a b, f a = .ok b → Good b) : ∀ b ∈ all, Good b := by
  induction items generalizing all with
  | nil =>
    cases Except.ok.inj ok
    exact fun b member => absurd member List.not_mem_nil
  | cons a rest ih =>
    simp only [encodeAll] at ok
    split at ok <;> try contradiction
    rename_i b here
    split at ok <;> try contradiction
    rename_i tail later
    cases Except.ok.inj ok
    intro c member
    rcases List.mem_cons.mp member with rfl | inside
    · exact each a c here
    · exact ih later c inside

theorem clientReportV2 {codec : V2HandshakeCodec} {result : ClientCoordinator.Result (ClientProvider S)} {report}
    (ok : clientReport codec result = .ok report) : ∀ datagram ∈ report.datagrams, isV2 datagram := by
  cases result with
  | error fatal => contradiction
  | ok told =>
    simp only [clientReport] at ok
    split at ok <;> try contradiction
    rename_i datagrams encoded
    cases Except.ok.inj ok
    refine encodedAll encoded fun message datagram made => ?_
    cases message <;> exact encodedV2 (by simp) made

theorem serverReportV2 {codec : V2HandshakeCodec} {result : ServerCoordinator.Result (ServerProvider S)} {report}
    (ok : serverReport codec result = .ok report) : ∀ sent ∈ report.datagrams, isV2 sent.datagram := by
  cases result with
  | error fatal => contradiction
  | ok told =>
    simp only [serverReport] at ok
    split at ok <;> try contradiction
    rename_i datagrams encoded
    cases Except.ok.inj ok
    refine encodedAll encoded fun outbound sent made => ?_
    obtain ⟨destination, message⟩ := outbound
    simp only [encodeServer] at made
    split at made <;> try contradiction
    rename_i datagram written
    cases Except.ok.inj made
    cases message <;> exact encodedV2 (by simp) written

theorem sendAllWithin {α : Type} (unsent : Option Nat) (datagrams : List α) :
    ∀ datagram ∈ (sendAll unsent datagrams).1, datagram ∈ datagrams := by
  intro datagram member
  cases unsent with
  | none => exact member
  | some index => exact List.mem_of_mem_take member

theorem clientStartV2 {settings : Settings} {serverAddr now unsent} {coordinator : Client S} :
    ∀ datagram ∈ (ClientRuntime.start settings serverAddr now unsent coordinator).1, isV2 datagram := by
  unfold ClientRuntime.start startClientFrame
  simp only
  split
  · exact fun datagram member => absurd member List.not_mem_nil
  · rename_i report made
    exact fun datagram member => clientReportV2 made datagram (sendAllWithin unsent report.datagrams datagram member)

theorem clientReportedSent {settings : Settings} {unsent handedAt} {r : ClientRuntime S} {report : ClientAdapterReport} :
    (r.reported settings unsent handedAt report).1 = (sendAll unsent report.datagrams).1 := by
  unfold ClientRuntime.reported
  simp only
  split
  · rfl
  · split <;> rfl

theorem serverReportedSent {settings : Settings} {unsent handedAt} {r : ServerRuntime S} {report : ServerAdapterReport} :
    (r.reported settings unsent handedAt report).1 = (sendAll unsent report.datagrams).1 := by
  unfold ServerRuntime.reported
  simp only
  split
  · rfl
  · split <;> rfl

theorem clientStepV2 {settings : Settings} (r : ClientRuntime S) (w : NoiseRuntime.Wake) :
    ∀ datagram ∈ (r.step settings w).1, isV2 datagram := by
  intro datagram member
  unfold ClientRuntime.step at member
  split at member
  · cases w with
    | timer now => exact absurd member List.not_mem_nil
    | broken => exact absurd member List.not_mem_nil
    | received raw source now unsent handedAt =>
      unfold ClientRuntime.wake at member
      simp only [clientFrameCall] at member
      split at member
      · exact absurd member List.not_mem_nil
      · cases asked : clientCallOf settings.codec r.serverAddr (buffered settings.codec raw) now with
        | error e =>
          rw [asked] at member
          simp only at member
          split at member <;> exact absurd member List.not_mem_nil
        | ok call =>
          simp only [asked] at member
          cases made : clientReport settings.codec (clientStep r.coordinator call).1 with
          | error e =>
            simp only [made] at member
            split at member <;> exact absurd member List.not_mem_nil
          | ok report =>
            simp only [made, clientReportedSent] at member
            exact clientReportV2 made datagram (sendAllWithin unsent report.datagrams datagram member)
  · exact absurd member List.not_mem_nil
  · exact absurd member List.not_mem_nil

theorem serverStepV2 {settings : Settings} (r : ServerRuntime S) (w : NoiseRuntime.Wake) :
    ∀ sent ∈ (r.step settings w).1, isV2 sent.datagram := by
  intro sent member
  unfold ServerRuntime.step at member
  split at member
  · cases w with
    | timer now =>
      unfold ServerRuntime.wake at member
      simp only at member
      split at member
      · exact absurd member List.not_mem_nil
      · split at member <;> exact absurd member List.not_mem_nil
    | broken => exact absurd member List.not_mem_nil
    | received raw source now unsent handedAt =>
      unfold ServerRuntime.wake at member
      simp only [serverFrameCall] at member
      cases asked : serverCallOf settings.codec source (buffered settings.codec raw) now with
      | error e =>
        rw [asked] at member
        simp only at member
        split at member <;> exact absurd member List.not_mem_nil
      | ok call =>
        simp only [asked] at member
        cases made : serverReport settings.codec (serverStep r.coordinator call).1 with
        | error e =>
          simp only [made] at member
          split at member <;> exact absurd member List.not_mem_nil
        | ok report =>
          simp only [made, serverReportedSent] at member
          exact serverReportV2 made sent (sendAllWithin unsent report.datagrams sent member)
  · exact absurd member List.not_mem_nil
  · exact absurd member List.not_mem_nil

theorem framedV2 {codec : DataFrameCodec} {header ciphertext frame} (ok : encodeFrame codec header ciphertext = .ok frame) :
    isV2 frame := by
  unfold encodeFrame at ok
  split at ok <;> try contradiction
  rename_i length buffer written
  cases Except.ok.inj ok
  unfold DataFrameCodec.encodeData at written
  split at written
  · cases (Prod.mk.inj written).1
  split at written
  · cases (Prod.mk.inj written).1
  split at written
  · cases (Prod.mk.inj written).1
  split at written
  · cases (Prod.mk.inj written).1
  rename_i total sum
  split at written
  · cases (Prod.mk.inj written).1
  cases written
  have size := usizeAddSome sum
  simp only [dataHeaderLength] at size
  have reads := headerVersion header.bodyLength.toNat_lt ProtocolVersion.v2.wireValue MessageType.data.wireValue
    (DataFrameExact.headerTail header ++ ciphertext)
    ((List.replicate codec.maximumDatagramLength 0).drop (headerBindingBytes header ++ ciphertext).length)
    (n := length) (by omega)
  rw [← List.append_assoc, ← DataFrameExact.headerSplit] at reads
  exact reads

theorem loopV2 (l : DataLoop S) (it : Iteration) : ∀ o ∈ (l.iterate it).1.filterMap shown, o.speaks .v2 := by
  intro o member
  obtain ⟨effect, inside, seen⟩ := List.mem_filterMap.mp member
  cases effect with
  | noiseWrite call => contradiction
  | noiseRead call => contradiction
  | tunWrite sequence packet =>
    cases Option.some.inj seen
    trivial
  | sendTo sequence destination frame packet =>
    cases Option.some.inj seen
    obtain ⟨_, progress⟩ := iterateSpec l it
    generalize (l.iterate it).1 = effects at inside progress
    generalize (l.iterate it).2.session = next at progress
    cases progress with
    | quiet | refused => exact absurd inside List.not_mem_nil
    | unsent | probed | committed | delivered => simp at inside
    | sent lifetime header packet ciphertext frame live built encoded =>
      simp only [List.mem_cons, reduceCtorEq, List.not_mem_nil, or_false, false_or, Effect.sendTo.injEq] at inside
      obtain ⟨_, _, rfl, _⟩ := inside
      exact framedV2 encoded

theorem stepV2 (settings : Settings) (e : Endpoint S) (i : Input) : ∀ o ∈ (step settings e i).1, o.speaks .v2 := by
  intro o member
  cases e <;> cases i <;> first
    | exact absurd member List.not_mem_nil
    | skip
  case unstarted.start coordinator serverAddr now unsent =>
    obtain ⟨datagram, inside, rfl⟩ := List.mem_map.mp member
    exact clientStartV2 datagram inside
  case client.wake r w =>
    obtain ⟨datagram, inside, rfl⟩ := List.mem_map.mp member
    exact clientStepV2 r w datagram inside
  case server.wake r w =>
    obtain ⟨sent, inside, rfl⟩ := List.mem_map.mp member
    exact serverStepV2 r w sent inside
  case forwarding.turn l it => exact loopV2 l it o member

def Input.isForeign (i : Input) : Bool := i.datagram.any fun datagram => version datagram != ProtocolVersion.v2.wireValue

theorem takenVersion (datagram : Bytes) {n : Nat} (long : 5 ≤ n) : version (datagram.take n) = version datagram := by
  unfold version byteAt
  rw [List.getD_eq_getElem?_getD, List.getElem?_take_of_lt (by omega), ← List.getD_eq_getElem?_getD]

theorem undecoded {codec : V2HandshakeCodec} {datagram : Bytes} (foreign : version datagram ≠ ProtocolVersion.v2.wireValue) :
    ∃ e, codec.decode (buffered codec datagram) = .error e := by
  have size := codec.datagramIs
  simp only [commonHeaderLength, attemptIdLength] at size
  cases decoded : codec.decode (buffered codec datagram) with
  | error e => exact ⟨e, rfl⟩
  | ok frame =>
    have reads : version (buffered codec datagram) = ProtocolVersion.v2.wireValue := (handshakeReads decoded).1
    rw [buffered, takenVersion datagram (by omega)] at reads
    exact absurd reads foreign

theorem clientDeaf {settings : Settings} (r : ClientRuntime S) {datagram source now unsent handedAt}
    (foreign : version datagram ≠ ProtocolVersion.v2.wireValue) :
    r.step settings (.received datagram source now unsent handedAt) = ([], r) := by
  obtain ⟨e, failed⟩ := @undecoded settings.codec datagram foreign
  unfold ClientRuntime.step
  split
  · unfold ClientRuntime.wake receiveClientFrame
    simp only [failed, isRemoteFrameRejection, if_true]
    split <;> rfl
  · rfl
  · rfl

theorem serverDeaf {settings : Settings} (r : ServerRuntime S) {datagram source now unsent handedAt}
    (foreign : version datagram ≠ ProtocolVersion.v2.wireValue) :
    r.step settings (.received datagram source now unsent handedAt) = ([], r) := by
  obtain ⟨e, failed⟩ := @undecoded settings.codec datagram foreign
  unfold ServerRuntime.step
  split
  · unfold ServerRuntime.wake receiveServerFrame
    simp only [failed, isRemoteFrameRejection, if_true]
  · rfl
  · rfl

def handed : Status S → Bool
  | .forwarding _ _ => true
  | .waiting | .failed _ => false

def Sound : Endpoint S → Prop
  | .unstarted _ _ | .refused _ => True
  | .client r => handed r.status = false
  | .server r => handed r.status = false
  | .forwarding l => l.outcome = none → l.session.lifetime.state = .established

def Opens (status : Status S) : Prop :=
  ∀ codec session, status = .forwarding codec session → session.lifetime.state = .established

theorem handOffOpens {mtu metadata committed} {session : Transport S → EstablishedDataSession S}
    (opened : ∀ transport, (session transport).lifetime.state = .established) : Opens (handOff mtu metadata committed session) := by
  intro codec s same
  unfold handOff at same
  split at same <;> try contradiction
  split at same <;> try contradiction
  split at same <;> try contradiction
  cases same
  exact opened _

theorem clientOpens {settings : Settings} {r : ClientRuntime S} (before : handed r.status = false) (w : NoiseRuntime.Wake) :
    Opens (r.step settings w).2.status := by
  have still : Opens r.status := by
    intro codec session same
    rw [same] at before
    contradiction
  unfold ClientRuntime.step
  split
  · cases w with
    | timer now => exact fun _ _ same => by cases same
    | broken => exact fun _ _ same => by cases same
    | received raw source now unsent handedAt =>
      unfold ClientRuntime.wake
      simp only
      split
      · exact still
      · split
        · split
          · exact still
          · exact fun _ _ same => by cases same
        · unfold ClientRuntime.reported
          simp only
          split
          · exact fun _ _ same => by cases same
          · split
            · exact fun _ _ same => by cases same
            · exact handOffOpens fun _ => rfl
  · exact still
  · exact still

theorem serverOpens {settings : Settings} {r : ServerRuntime S} (before : handed r.status = false) (w : NoiseRuntime.Wake) :
    Opens (r.step settings w).2.status := by
  have still : Opens r.status := by
    intro codec session same
    rw [same] at before
    contradiction
  unfold ServerRuntime.step
  split
  · cases w with
    | timer now =>
      unfold ServerRuntime.wake
      simp only
      split
      · exact still
      · split <;> exact fun _ _ same => by cases same
    | broken => exact fun _ _ same => by cases same
    | received raw source now unsent handedAt =>
      unfold ServerRuntime.wake
      simp only
      split
      · split
        · exact still
        · exact fun _ _ same => by cases same
      · unfold ServerRuntime.reported
        simp only
        split
        · exact fun _ _ same => by cases same
        · split
          · exact fun _ _ same => by cases same
          · exact handOffOpens fun _ => rfl
  · exact still
  · exact still

theorem goOnSound {settings : Settings} {waiting : Endpoint S} {status : Status S} (opens : Opens status)
    (stays : handed status = false → Sound waiting) : Sound (goOn settings waiting status) := by
  cases status with
  | waiting => exact stays rfl
  | failed error => exact stays rfl
  | forwarding codec session =>
    simp only [goOn, DataLoop.start]
    split
    · rename_i l started
      split at started <;> try contradiction
      cases Except.ok.inj started
      exact fun _ => opens codec session rfl
    · trivial

theorem turnOpen {codec : DataFrameCodec} {s t : EstablishedDataSession S} {it : Iteration} {effects}
    (state : s.lifetime.state = .established) (ran : LoopTurns.Turn codec s it effects t none) :
    t.lifetime.state = .established := by
  cases ran <;> exact state

theorem stepSound (settings : Settings) (e : Endpoint S) (i : Input) (sound : Sound e) : Sound (step settings e i).2 := by
  cases e <;> cases i <;> first
    | exact sound
    | skip
  case unstarted.start coordinator serverAddr now unsent =>
    simp only [step, Sound, ClientRuntime.start]
    split
    · rfl
    · dsimp only
      split <;> rfl
  case client.wake r w => exact goOnSound (clientOpens sound w) id
  case server.wake r w => exact goOnSound (serverOpens sound w) id
  case forwarding.turn l it =>
    intro still
    cases running : l.outcome with
    | some stop =>
      simp only [DataLoop.iterate, running] at still
      contradiction
    | none =>
      have ran := LoopTurns.iterateTurn it running (sound running)
      rw [still] at ran
      exact turnOpen (sound running) ran

/-! What leaves an endpoint is what would leave it without those datagrams. A loop that
one of them found idle would have stopped at its next turn. -/

def before : Input → Input → Prop
  | .turn x, .turn y => ∀ t ∈ LoopTurns.Iteration.times x, t ≤ y.head
  | _, _ => True

def Clocked (inputs : List Input) : Prop := inputs.Pairwise before

structure Expired (l : DataLoop S) (rest : List Input) : Prop where
  state : l.session.lifetime.state = .established
  due : l.session.lifetime.idleDeadline = none ∨ ∃ deadline, l.session.lifetime.idleDeadline = some deadline ∧
    ∀ it, .turn it ∈ rest → deadline ≤ it.head

theorem expiredStops {l : DataLoop S} {it : Iteration} {rest : List Input} (running : l.outcome = none)
    (expired : Expired l (.turn it :: rest)) : (l.iterate it).1 = [] ∧ (l.iterate it).2.outcome ≠ none := by
  have spec : Action.wp (body l.codec l.mtu it) (fun _ _ => False) (fun _ t => t.emitted = []) ⟨l.session, []⟩ := by
    simp only [body, Action.wpBind]
    refine LoopTurns.idled (l := ⟨l.session, []⟩) expired.state (fun _ => rfl) (fun _ _ _ => rfl) ?_
    intro deadline known early
    rcases expired.due with none_ | ⟨due, same, late⟩
    · rw [none_] at known
      contradiction
    · cases Option.some.inj (same.symm.trans known)
      exact absurd (late it List.mem_cons_self) (Nat.not_le_of_lt early)
  unfold DataLoop.iterate
  rw [running]
  rcases ran : body l.codec l.mtu it ⟨l.session, []⟩ with ⟨_ | _, live⟩
  · have quiet := Action.wpError spec ran
    exact ⟨quiet, Option.some_ne_none _⟩
  · exact (Action.wpOk spec ran).elim

inductive Agree (rest : List Input) : Endpoint S → Endpoint S → Prop
  | same {e} (sound : Sound e) (clocked : Clocked rest) : Agree rest e e
  | stopped {l l' : DataLoop S} (first : l.outcome ≠ none) (second : l'.outcome = none → Expired l' rest) :
    Agree rest (.forwarding l) (.forwarding l')

theorem stoppedQuiet (settings : Settings) {l : DataLoop S} (stopped : l.outcome ≠ none) (i : Input) :
    step settings (.forwarding l) i = ([], .forwarding l) := by
  cases i with
  | start now unsent => rfl
  | wake w => rfl
  | turn it =>
    cases outcome : l.outcome with
    | none => exact absurd outcome stopped
    | some stop => simp only [step, DataLoop.iterate, outcome, List.filterMap_nil]

theorem expiredLater {l : DataLoop S} {i : Input} {rest : List Input} (expired : Expired l (i :: rest)) : Expired l rest := by
  refine ⟨expired.state, expired.due.imp_right ?_⟩
  intro ⟨deadline, known, late⟩
  exact ⟨deadline, known, fun it member => late it (List.mem_cons_of_mem i member)⟩

theorem iterateKeeps (l : DataLoop S) (it : Iteration) :
    (l.iterate it).2 = {l with session := (l.iterate it).2.session, outcome := (l.iterate it).2.outcome} := by
  unfold DataLoop.iterate
  split
  · rfl
  · split <;> rfl

theorem loopDeaf (settings : Settings) {l : DataLoop S} {it : Iteration} {rest : List Input}
    (sound : Sound (.forwarding l)) (clocked : Clocked (.turn it :: rest)) (foreign : (Input.turn it).isForeign = true) :
    (step settings (.forwarding l) (.turn it)).1 = [] ∧
      Agree rest (step settings (.forwarding l) (.turn it)).2 (.forwarding l) := by
  cases running : l.outcome with
  | some stop =>
    have stopped : l.outcome ≠ none := by
      rw [running]
      exact Option.some_ne_none stop
    rw [stoppedQuiet settings stopped]
    exact ⟨rfl, .same sound clocked.of_cons⟩
  | none =>
    obtain ⟨head, wake⟩ := it
    cases wake with
    | deadline now => contradiction
    | ctrlC => contradiction
    | tunRead packet permitAt sent recordAt => contradiction
    | received datagram permitAt answer recordAt =>
      cases datagram with
      | none => contradiction
      | some pair =>
        obtain ⟨raw, source⟩ := pair
        have other : version raw ≠ ProtocolVersion.v2.wireValue := bne_iff_ne.mp foreign
        have dropped : ∀ frame, screen l.codec l.session (raw.take (l.codec.maximumDatagramLength + 1)) source ≠ .ok frame := by
          intro frame accepted
          have reads : version (raw.take (l.codec.maximumDatagramLength + 1)) = ProtocolVersion.v2.wireValue := by
            unfold screen at accepted
            split at accepted <;> try contradiction
            split at accepted <;> try contradiction
            exact (dataReads ‹_›).1
          have size := l.codec.datagramIs
          simp only [dataHeaderLength] at size
          rw [takenVersion raw (by omega)] at reads
          exact other reads
        have never : ∀ {frame permitAt' answer' recordAt'},
            ¬ LoopTurns.Screened l.codec l.session ⟨head, .received (some (raw, source)) permitAt answer recordAt⟩ frame
              permitAt' answer' recordAt' := by
          intro frame _ _ _ arrival
          obtain ⟨raw', source', wake, screened⟩ := arrival.wake
          cases wake
          exact dropped frame screened
        have ran := LoopTurns.iterateTurn ⟨head, .received (some (raw, source)) permitAt answer recordAt⟩ running
          (sound running)
        have kept := iterateKeeps l ⟨head, .received (some (raw, source)) permitAt answer recordAt⟩
        simp only [step]
        generalize l.iterate ⟨head, .received (some (raw, source)) permitAt answer recordAt⟩ = next at ran kept
        obtain ⟨effects, after⟩ := next
        generalize ended : after.outcome = outcome at ran kept
        generalize after.session = session at ran kept
        simp only at ran kept
        have stopped : outcome ≠ none → after.outcome ≠ none := fun other => ended ▸ other
        cases ran with
        | overflow absent => exact ⟨rfl, .stopped (stopped (Option.some_ne_none _)) fun _ => ⟨sound running, .inl absent⟩⟩
        | @idle deadline now due given late =>
          refine ⟨rfl, .stopped (stopped (Option.some_ne_none _)) fun _ => ⟨sound running, .inr ⟨deadline, due, ?_⟩⟩⟩
          intro it member
          exact Nat.le_trans late (List.rel_of_pairwise_cons clocked member now given)
        | dropped wake screened =>
          have same : after = l := by
            rw [kept]
            cases l
            simp only at running
            rw [running]
          rw [same]
          exact ⟨rfl, .same sound clocked.of_cons⟩
        | interrupted wake => contradiction
        | unread wake => contradiction
        | unreceived wake => cases wake
        | early wake => contradiction
        | unfit wake => contradiction
        | refused offer | unsealed offer | unsent offer | sent offer =>
          obtain ⟨_, wake, _⟩ := offer.wake
          contradiction
        | probed arrival | void arrival | stopped arrival | unwritten arrival | delivered arrival =>
          exact (never arrival).elim

theorem agreeDeaf (settings : Settings) {e f : Endpoint S} {i : Input} {rest : List Input} (foreign : i.isForeign = true)
    (agree : Agree (i :: rest) e f) : (step settings e i).1 = [] ∧ Agree rest (step settings e i).2 f := by
  cases agree with
  | stopped first second =>
    rw [stoppedQuiet settings first]
    exact ⟨rfl, .stopped first fun running => expiredLater (second running)⟩
  | same sound clocked =>
    have stays : Agree rest e e := .same sound clocked.of_cons
    cases i with
    | start now unsent => contradiction
    | turn it =>
      cases e with
      | forwarding l => exact loopDeaf settings sound clocked foreign
      | unstarted | client | server | refused => exact ⟨rfl, stays⟩
    | wake w =>
      cases w with
      | timer now => contradiction
      | broken => contradiction
      | received datagram source now unsent handedAt =>
        have other : version datagram ≠ ProtocolVersion.v2.wireValue := bne_iff_ne.mp foreign
        cases e with
        | unstarted | forwarding | refused => exact ⟨rfl, stays⟩
        | client r =>
          simp only [step, clientDeaf r other, List.map_nil]
          refine ⟨trivial, ?_⟩
          cases status : r.status with
          | waiting | failed => exact stays
          | forwarding codec session =>
            rw [Sound, status] at sound
            contradiction
        | server r =>
          simp only [step, serverDeaf r other, List.map_nil]
          refine ⟨trivial, ?_⟩
          cases status : r.status with
          | waiting | failed => exact stays
          | forwarding codec session =>
            rw [Sound, status] at sound
            contradiction

theorem agreeStep (settings : Settings) {e f : Endpoint S} {i : Input} {rest : List Input}
    (agree : Agree (i :: rest) e f) :
    (step settings e i).1 = (step settings f i).1 ∧ Agree rest (step settings e i).2 (step settings f i).2 := by
  cases agree with
  | same sound clocked => exact ⟨rfl, .same (stepSound settings e i sound) clocked.of_cons⟩
  | @stopped l l' first second =>
    rw [stoppedQuiet settings first]
    cases running : l'.outcome with
    | some stop =>
      have stopped : l'.outcome ≠ none := by
        rw [running]
        exact Option.some_ne_none stop
      rw [stoppedQuiet settings stopped]
      exact ⟨rfl, .stopped first fun running => expiredLater (second running)⟩
    | none =>
      have expired := second running
      cases i with
      | start now unsent => exact ⟨rfl, .stopped first fun _ => expiredLater expired⟩
      | wake w => exact ⟨rfl, .stopped first fun _ => expiredLater expired⟩
      | turn it =>
        obtain ⟨quiet, halts⟩ := expiredStops running expired
        simp only [step, quiet, List.filterMap_nil]
        exact ⟨trivial, .stopped first fun still => absurd still halts⟩

theorem endpointApart (settings : Settings) {e : Endpoint S} (sound : Sound e) (inputs : List Input) (clocked : Clocked inputs) :
    (∀ o ∈ (run (step settings) e inputs).1.flatten, o.speaks .v2) ∧
      (run (step settings) e inputs).1.flatten =
        (run (step settings) e (inputs.filter fun i => !i.isForeign)).1.flatten := by
  constructor
  · intro o member
    obtain ⟨outputs, inside, here⟩ := List.mem_flatten.mp member
    have each := @runOutputs _ _ _ (step settings) (fun _ : Endpoint S => True) (fun outputs => ∀ o ∈ outputs, o.speaks .v2)
      (fun _ _ _ => trivial) (fun e i _ => stepV2 settings e i) e trivial inputs
    exact each outputs inside o here
  · exact (@runWithout _ _ _ (step settings) Input.isForeign Agree
      (fun e f i rest foreign agree => agreeDeaf settings foreign agree)
      (fun e f i rest _ agree => agreeStep settings agree) e e inputs (.same sound clocked)).1

end
end Crabnet.NoiseEndpoint
