import Crabnet.HandshakeCompletion
import Crabnet.LosslessDelivery
import Crabnet.SessionHandOff

/-! One client and one server up to their data sessions. The four messages of a
handshake arrive in time; between them the server may hear from anybody else and
the client from any other address. Both loops then forward, over two ends of one
transport. -/
namespace Crabnet.SessionOpening
open MachineWord SessionTypes Fallible HashTable CryptoBoundary ServerPolicy ClientPolicy HandshakeTypes NoiseProfile
open SnowBoundary HandshakeCodec NoiseServer NoiseClient HandshakeAdapter FrameExchange CoordinatorStability
open ServerCoupling ServerCorrespondence CandidateIsolation SessionHandOff NoiseRuntime DataFrame DataSession DataPipeline
open HandshakeCompletion
open ClientLedger (Client)
open DataDelivery (Side Opening)
open LosslessDelivery (Joined)

section
variable {S : Snow} {settings : Settings}

/-! One handshake as the network carries it: when each message arrives, and what
else wakes the loops meanwhile. -/

structure Schedule where
  clientAddr : SocketAddr
  serverAddr : SocketAddr
  startAt : Instant
  helloAt : Instant
  welcomeAt : Instant
  finishAt : Instant
  confirmAt : Instant
  serverHandedAt : Instant
  clientHandedAt : Instant
  others : List Wake
  beforeWelcome : List Wake
  beforeConfirm : List Wake

def serverHears (settings : Settings) (w : Schedule) (now : Instant) (datagrams : List Bytes) (r : ServerRuntime S) :
    List ServerAdapterDatagram × ServerRuntime S :=
  let heard := run (ServerRuntime.step settings) r
    (datagrams.map fun datagram => .received datagram w.clientAddr now none w.serverHandedAt)
  (heard.1.flatten, heard.2)

-- The network brings to the client what the server addressed to it.
def clientHears (settings : Settings) (w : Schedule) (now : Instant) (sent : List ServerAdapterDatagram)
    (r : ClientRuntime S) : List Bytes × ClientRuntime S :=
  let mine := sent.filter fun datagram => decide (datagram.destination = w.clientAddr)
  let heard := run (ClientRuntime.step settings) r
    (mine.map fun datagram => .received datagram.datagram w.serverAddr now none w.clientHandedAt)
  (heard.1.flatten, heard.2)

structure Meeting (S : Snow) where
  client : ClientRuntime S
  server : ServerRuntime S
  sent : List ServerAdapterDatagram

def greet (settings : Settings) (w : Schedule) (client : Client S) (server : ServerRuntime S) : Meeting S :=
  let started := ClientRuntime.start settings w.serverAddr w.startAt none client
  let welcomed := serverHears settings w w.helloAt started.1 server
  ⟨started.2, welcomed.2, welcomed.1⟩

def crowd (settings : Settings) (w : Schedule) (m : Meeting S) : Meeting S :=
  {m with
    client := (run (ClientRuntime.step settings) m.client w.beforeWelcome).2
    server := (run (ServerRuntime.step settings) m.server w.others).2}

def conclude (settings : Settings) (w : Schedule) (m : Meeting S) : Meeting S :=
  let finishing := clientHears settings w w.welcomeAt m.sent m.client
  let established := serverHears settings w w.finishAt finishing.1 m.server
  let waiting := (run (ClientRuntime.step settings) finishing.2 w.beforeConfirm).2
  let confirmed := clientHears settings w w.confirmAt established.1 waiting
  ⟨confirmed.2, established.2, []⟩

theorem decodedWhole {codec : V2HandshakeCodec} {datagram frame} (decoded : codec.decode datagram = .ok frame) :
    buffered codec datagram = datagram := by
  have form := HandshakeExact.decodeForm decoded
  have size := codec.datagramIs
  have small := form.small
  have length := congrArg List.length form.image
  simp only [V2HandshakeCodec.frameBytes, magic, be, toBeBytes64, List.length_append, List.length_cons,
    List.length_nil] at length
  simp only [commonHeaderLength, attemptIdLength] at size
  unfold buffered
  rw [List.take_of_length_le]
  omega

theorem serverStepCall (r : ServerRuntime S) (wake : Wake) :
    (r.step settings wake).2.coordinator = r.coordinator ∨
      ∃ call, (r.step settings wake).2.coordinator = (serverStep r.coordinator call).2 := by
  unfold ServerRuntime.step
  split
  · cases wake with
    | broken => exact .inl rfl
    | timer now =>
      unfold ServerRuntime.wake
      simp only
      split
      · exact .inl rfl
      · refine .inr ⟨.checkTimeouts now, ?_⟩
        split <;> rfl
    | received datagram source now unsent handedAt =>
      unfold ServerRuntime.wake
      simp only [serverFrameCall]
      cases serverCallOf settings.codec source (buffered settings.codec datagram) now with
      | error e =>
        simp only
        split <;> exact .inl rfl
      | ok call =>
        refine .inr ⟨call, ?_⟩
        simp only
        cases serverReport settings.codec (serverStep r.coordinator call).1 with
        | error e =>
          simp only
          split <;> rfl
        | ok report => rw [serverReportedKeeps]
  · exact .inl rfl
  · exact .inl rfl

theorem serverRunKeeps {I : Server S → Prop} (preserved : ∀ c call, I c → I (serverStep c call).2) {r : ServerRuntime S}
    (held : I r.coordinator) (wakes : List Wake) : I (run (ServerRuntime.step settings) r wakes).2.coordinator := by
  refine @runInvariant _ _ _ (ServerRuntime.step settings) (fun r => I r.coordinator) ?_ r held wakes
  intro r wake before
  rcases serverStepCall r wake with same | ⟨call, same⟩
  · rw [same]
    exact before
  · rw [same]
    exact preserved _ call before

-- A wake before `deadline` that is no datagram of `peer` and no fault of the host.
def Wake.stranger (peer : SocketAddr) (deadline : Instant) : Wake → Prop
  | .timer now => now < deadline
  | .broken => False
  | .received _ source now _ _ => source ≠ peer ∧ now < deadline

theorem handOffLeaves {mtu metadata committed} {session : Transport S → EstablishedDataSession S} :
    handOff mtu metadata committed session ≠ .waiting := by
  unfold handOff
  split
  · simp
  · split
    · simp
    · split <;> simp

theorem reportedWaiting {unsent handedAt} {r : ServerRuntime S} {report : ServerAdapterReport}
    (waiting : (r.reported settings unsent handedAt report).2.status = .waiting) :
    ∀ peer metadata, ServerCoordinatorEvent.sessionEstablished peer metadata ∉ report.events := by
  intro peer metadata announced
  unfold ServerRuntime.reported at waiting
  simp only at waiting
  split at waiting
  · contradiction
  · split at waiting
    · rename_i none
      have quiet := List.findSome?_eq_none_iff.mp none _ announced
      contradiction
    · exact handOffLeaves waiting

theorem timeoutsHold {c : Server S} {peer record attempt context now} (corresponds : Corresponds c)
    (holds : Holds c peer record attempt context) (early : now < record.deadline) :
    Holds (ServerCoordinator.checkTimeouts now c).2 peer record attempt context := by
  obtain ⟨_, expired, m, ex, ran⟩ := timeoutsReturn corresponds now
  rw [ran]
  exact holdsTrimmed corresponds.registered ex holds early

theorem frameWhole {codec : V2HandshakeCodec} {source datagram now} {call : ServerCall (ServerProvider S)}
    (stands : serverCallOf codec source datagram now = .ok call) : buffered codec datagram = datagram := by
  rcases serverCallCases stands with ⟨body, decoded, _⟩ | ⟨body, decoded, _⟩ <;> exact decodedWhole decoded

theorem answerWhole {codec : V2HandshakeCodec} {source datagram now} {call : ClientCall (ClientProvider S)}
    (stands : clientCallOf codec source datagram now = .ok call) : buffered codec datagram = datagram := by
  unfold clientCallOf at stands
  cases decoded : codec.decode datagram with
  | error e =>
    rw [decoded] at stands
    contradiction
  | ok frame => exact decodedWhole decoded

theorem clientTakes {r : ClientRuntime S} {datagram now handedAt call report sent t} (waiting : r.status = .waiting)
    (stands : clientCallOf settings.codec r.serverAddr datagram now = .ok call)
    (ran : clientStep r.coordinator call = (.ok report, t))
    (encoded : clientReport settings.codec (.ok report) = .ok sent) :
    r.step settings (.received datagram r.serverAddr now none handedAt) =
      ClientRuntime.reported settings none handedAt {r with coordinator := t} sent := by
  simp only [ClientRuntime.step, waiting, ClientRuntime.wake, ne_eq, not_true_eq_false, if_false, answerWhole stands,
    clientFrameCall, stands, ran, encoded]

theorem serverTakes {r : ServerRuntime S} {datagram source now handedAt call report sent t}
    (waiting : r.status = .waiting) (stands : serverCallOf settings.codec source datagram now = .ok call)
    (ran : serverStep r.coordinator call = (.ok report, t))
    (encoded : serverReport settings.codec (.ok report) = .ok sent) :
    r.step settings (.received datagram source now none handedAt) =
      ServerRuntime.reported settings none handedAt {r with coordinator := t} sent := by
  simp only [ServerRuntime.step, waiting, ServerRuntime.wake, frameWhole stands, serverFrameCall, stands, ran, encoded]

theorem clientSays {r : ClientRuntime S} {datagram now handedAt call message t} (waiting : r.status = .waiting)
    (bounds : settings.codec.maximumOpaquePayload = 112)
    (stands : clientCallOf settings.codec r.serverAddr datagram now = .ok call)
    (ran : clientStep r.coordinator call = (.ok ⟨[message], []⟩, t)) (exact_ : ExactClient message) :
    ∃ reply, CarriesClient settings.codec message reply ∧
      r.step settings (.received datagram r.serverAddr now none handedAt) = ([reply], {r with coordinator := t}) := by
  obtain ⟨reply, encoded, carries⟩ := clientCarried bounds exact_
  refine ⟨reply, carries, ?_⟩
  have report : clientReport settings.codec (.ok ⟨[message], []⟩) = .ok ⟨[reply], []⟩ := by
    simp only [clientReport, encodeAll, encoded]
  rw [clientTakes waiting stands ran report]
  simp only [ClientRuntime.reported, sendAll, List.findSome?_nil, Bool.true_eq_false, if_false, waiting]

theorem serverSays {r : ServerRuntime S} {datagram source now handedAt call outbound events t}
    (waiting : r.status = .waiting) (bounds : settings.codec.maximumOpaquePayload = 112)
    (stands : serverCallOf settings.codec source datagram now = .ok call)
    (ran : serverStep r.coordinator call = (.ok ⟨[outbound], events⟩, t)) (exact_ : ExactServer outbound.message)
    (quiet : events.findSome? ServerRuntime.establishedPeer = none) :
    ∃ reply, CarriesServer settings.codec outbound reply ∧
      r.step settings (.received datagram source now none handedAt) = ([reply], {r with coordinator := t}) := by
  obtain ⟨reply, encoded, carries⟩ := serverCarried bounds exact_
  refine ⟨reply, carries, ?_⟩
  have report : serverReport settings.codec (.ok ⟨[outbound], events⟩) = .ok ⟨[reply], events⟩ := by
    simp only [serverReport, encodeAll, encoded]
  rw [serverTakes waiting stands ran report]
  simp only [ServerRuntime.reported, sendAll, quiet, Bool.true_eq_false, if_false, waiting]

theorem serverForwards {r : ServerRuntime S} {datagram source now handedAt call outbound events t metadata transport codec}
    (waiting : r.status = .waiting) (bounds : settings.codec.maximumOpaquePayload = 112)
    (stands : serverCallOf settings.codec source datagram now = .ok call)
    (ran : serverStep r.coordinator call = (.ok ⟨[outbound], events⟩, t)) (exact_ : ExactServer outbound.message)
    (announced : events.findSome? ServerRuntime.establishedPeer = some (source, metadata))
    (committed : t.crypto.intoEstablishedTransport = some (transport, metadata))
    (framed : DataFrameCodec.new settings.mtu = .ok codec) :
    ∃ reply, CarriesServer settings.codec outbound reply ∧
      r.step settings (.received datagram source now none handedAt) = ([reply], ⟨t, .forwarding codec
        (.server metadata source transport (.new handedAt settings.limits))⟩) := by
  obtain ⟨reply, encoded, carries⟩ := serverCarried bounds exact_
  refine ⟨reply, carries, ?_⟩
  have report : serverReport settings.codec (.ok ⟨[outbound], events⟩) = .ok ⟨[reply], events⟩ := by
    simp only [serverReport, encodeAll, encoded]
  rw [serverTakes waiting stands ran report]
  simp only [ServerRuntime.reported, sendAll, announced, Bool.true_eq_false, if_false, handOff, committed, framed, ne_eq,
    not_true_eq_false]

theorem clientForwards {r : ClientRuntime S} {datagram now handedAt call t metadata transport codec}
    (waiting : r.status = .waiting) (stands : clientCallOf settings.codec r.serverAddr datagram now = .ok call)
    (ran : clientStep r.coordinator call = (.ok ⟨[], [.sessionEstablished metadata]⟩, t))
    (committed : t.crypto.intoEstablishedTransport = some (transport, metadata))
    (framed : DataFrameCodec.new settings.mtu = .ok codec) :
    r.step settings (.received datagram r.serverAddr now none handedAt) = ([], ⟨t, r.serverAddr, .forwarding codec
      (.client metadata r.serverAddr transport (.new handedAt settings.limits))⟩) := by
  have report : clientReport settings.codec (.ok ⟨[], [.sessionEstablished metadata]⟩) =
      .ok ⟨[], [.sessionEstablished metadata]⟩ := by
    simp only [clientReport, encodeAll]
  rw [clientTakes waiting stands ran report]
  simp only [ClientRuntime.reported, sendAll, List.findSome?_cons, ClientRuntime.establishedMetadata, Bool.true_eq_false,
    if_false, handOff, committed, framed, ne_eq, not_true_eq_false]

def Wake.foreign (server : SocketAddr) : Wake → Prop
  | .received _ source _ _ _ => source ≠ server
  | .timer _ | .broken => False

theorem foreignIgnored {r : ClientRuntime S} (waiting : r.status = .waiting) (wakes : List Wake)
    (foreign : ∀ wake ∈ wakes, Wake.foreign r.serverAddr wake) : (run (ClientRuntime.step settings) r wakes).2 = r := by
  induction wakes with
  | nil => rfl
  | cons wake rest ih =>
    have idle : r.step settings wake = ([], r) := by
      have other := foreign wake List.mem_cons_self
      cases wake with
      | timer now => exact other.elim
      | broken => exact other.elim
      | received datagram source now unsent handedAt =>
        simp only [ClientRuntime.step, waiting, ClientRuntime.wake]
        exact if_pos other
    simp only [run, idle]
    exact ih fun wake member => foreign wake (List.mem_cons_of_mem _ member)

theorem expiredQuiet (expired : List ExpiredServerCandidate) :
    (expired.map expiredEvent).findSome? ServerRuntime.establishedPeer = none := by
  rw [List.findSome?_eq_none_iff]
  intro event member
  obtain ⟨e, _, rfl⟩ := List.mem_map.mp member
  rfl

theorem expiredThen (expired : List ExpiredServerCandidate) (source metadata) :
    (expired.map expiredEvent ++ [ServerCoordinatorEvent.sessionEstablished source metadata]).findSome? ServerRuntime.establishedPeer =
      some (source, metadata) := by
  rw [List.findSome?_append, expiredQuiet]
  rfl

variable {clientPrivate clientPublic serverPrivate serverPublic : Bytes}

structure Met (settings : Settings) (w : Schedule) (clientPublic serverPublic : Bytes) (timeout : Duration)
    (closing deadline : Instant) (initiator : S.HandshakeState) (answer : Bytes) (hash : FixedBytes 32)
    (record : PendingManager.PendingCandidate) (context : PendingContext S) (m : Meeting S) : Prop where
  client : m.client.status = .waiting
  addressed : m.client.serverAddr = w.serverAddr
  greeted : Greeted m.client.coordinator w.serverAddr serverPublic timeout ⟨1⟩ closing initiator
  server : m.server.status = .waiting
  corresponds : Corresponds m.server.coordinator
  holds : Holds m.server.coordinator w.clientAddr record ⟨1⟩ context
  until_ : record.deadline = deadline
  candidate : Candidate clientPublic serverPublic ⟨1⟩ initiator answer hash context
  sent : ∃ reply, m.sent = [reply] ∧ CarriesServer settings.codec (helloOutbound w.clientAddr ⟨1⟩ answer) reply

theorem greetMeets (able : Cooperative S clientPrivate clientPublic serverPrivate serverPublic) {w : Schedule}
    (bounds : settings.codec.maximumOpaquePayload = 112) {timeout closing deadline rng policy} {client : Client S}
    {server : ServerRuntime S} (configured : ClientHandshake.new w.serverAddr timeout = .ok policy)
    (built : ClientCoordinator.build policy (ClientProvider.new clientPrivate serverPublic rng) = .ok client)
    (timely : Instant.checkedAdd w.startAt timeout = some closing) (waiting : server.status = .waiting)
    (corresponds : Corresponds server.coordinator) (own : server.coordinator.crypto.localPrivateKey = serverPrivate)
    (allowed : clientPublic ∈ server.coordinator.crypto.allowedClientKeys)
    (ready : Ready server.coordinator.policy w.clientAddr w.helloAt deadline) :
    ∃ initiator answer hash record context, Met (S := S) settings w clientPublic serverPublic timeout closing deadline
      initiator answer hash record context (greet settings w client server) := by
  obtain ⟨hello, initiator, greets, c, started, greeted⟩ := startsClient able configured built timely
  obtain ⟨report, t, ran, answer, hash, record, context, expired, rfl, holds, until_, candidate⟩ :=
    welcomesClient corresponds own allowed ready greets
  obtain ⟨opening, encoded, carries⟩ :=
    @clientCarried settings.codec (.clientHello ⟨⟨1⟩, hello⟩) bounds ⟨greets.nonzero, greets.sized⟩
  obtain ⟨reply, carried, stepped⟩ := @serverSays S settings server opening w.clientAddr w.helloAt w.serverHandedAt _ _ _ _
    waiting bounds (carries S w.clientAddr w.helloAt) ran ⟨greets.nonzero, candidate.welcomes.sized⟩ (expiredQuiet expired)
  have begun : ClientRuntime.start settings w.serverAddr w.startAt none client = ([opening], ⟨c, w.serverAddr, .waiting⟩) := by
    simp only [ClientRuntime.start, startClientFrame, started, clientReport, encodeAll, encoded, sendAll, if_true]
  have after : Corresponds t := by
    have kept := stepCorresponds corresponds (.clientHello w.clientAddr ⟨⟨1⟩, hello⟩ w.helloAt)
    simpa only [serverStep, ran] using kept
  refine ⟨initiator, answer, hash, record, context, ?_⟩
  simp only [greet, begun, serverHears, List.map_cons, List.map_nil, run, stepped, List.flatten_cons, List.flatten_nil,
    List.append_nil]
  exact ⟨rfl, rfl, greeted, waiting, after, holds, until_, candidate, reply, rfl, carried⟩

def openings (settings : Settings) (w : Schedule) (clientPublic serverPublic : Bytes) (codec : DataFrameCodec)
    (hash : FixedBytes 32) (near far : Transport S) : Side → Opening S
  | .client => ⟨codec, clientMetadata serverPublic hash, w.serverAddr, near, .new w.clientHandedAt settings.limits⟩
  | .server => ⟨codec, serverMetadata clientPublic hash, w.clientAddr, far, .new w.serverHandedAt settings.limits⟩

/- Both loops forward, over two ends of one transport and under one session id: what
the one sends the other can read. -/
structure Opened (settings : Settings) (w : Schedule) (clientPublic serverPublic : Bytes) (codec : DataFrameCodec)
    (hash : FixedBytes 32) (near far : Transport S) (m : Meeting S) : Prop where
  client : m.client.status = .forwarding codec
    (.client (clientMetadata serverPublic hash) w.serverAddr near (.new w.clientHandedAt settings.limits))
  server : m.server.status = .forwarding codec
    (.server (serverMetadata clientPublic hash) w.clientAddr far (.new w.serverHandedAt settings.limits))
  joined : Joined (openings settings w clientPublic serverPublic codec hash near far)

theorem openingsJoined (settings : Settings) (w : Schedule) (clientPublic serverPublic : Bytes) (codec : DataFrameCodec)
    (hash : FixedBytes 32) {near far : Transport S} (there : Paired near.state far.state)
    (back : Paired far.state near.state) : Joined (openings settings w clientPublic serverPublic codec hash near far) where
  paired side := by
    cases side with
    | client => exact there
    | server => exact back
  identifier side := by cases side <;> rfl
  mtu side := by cases side <;> rfl
  fresh side := by cases side <;> exact ⟨_, _, rfl⟩

theorem concludeOpens {w : Schedule} {timeout closing deadline later initiator answer hash record context codec}
    {m : Meeting S} (bounds : settings.codec.maximumOpaquePayload = 112)
    (framed : DataFrameCodec.new settings.mtu = .ok codec)
    (met : Met settings w clientPublic serverPublic timeout closing deadline initiator answer hash record context m)
    (welcomeInTime : w.welcomeAt < closing) (finishInTime : w.finishAt < deadline)
    (prolonged : Instant.checkedAdd w.welcomeAt timeout = some later) (confirmInTime : w.confirmAt < later)
    (foreign : ∀ wake ∈ w.beforeConfirm, Wake.foreign w.serverAddr wake) :
    ∃ near, Opened settings w clientPublic serverPublic codec hash near context.transport (conclude settings w m) := by
  obtain ⟨⟨starting, addr, status⟩, answering, mail⟩ := m
  obtain ⟨client, addressed, greeted, server, corresponds, holds, rfl, candidate, reply, sent, carries⟩ := met
  simp only at client addressed greeted server corresponds holds sent
  subst client addressed sent
  have nonzero : (⟨1⟩ : ClientAttemptId).value ≠ 0 := by decide
  obtain ⟨finish, near, c, finished, confirms⟩ :=
    finishesClient nonzero greeted candidate.welcomes welcomeInTime prolonged
  obtain ⟨plain, recorded, opens⟩ := confirms.provider.opens
  obtain ⟨report, t, completed, confirm, expired, proves, rfl, committed⟩ :=
    establishesServer corresponds holds finishInTime candidate nonzero finish.sized
      ⟨plain, recorded, opens context.transport.handle⟩ confirms.provider.back
  obtain ⟨last, established, taken⟩ := establishesClient confirms proves confirmInTime
  obtain ⟨second, carriesFinish, clientStepped⟩ := @clientSays S settings ⟨starting, w.serverAddr, .waiting⟩
    reply.datagram w.welcomeAt w.clientHandedAt _ _ _ rfl bounds (carries.2 S w.serverAddr w.welcomeAt) finished
    ⟨nonzero, finish.sized⟩
  obtain ⟨third, carriesConfirm, serverStepped⟩ := @serverForwards S settings answering second w.clientAddr w.finishAt
    w.serverHandedAt _ _ _ _ _ _ codec server bounds (carriesFinish S w.clientAddr w.finishAt) completed
    ⟨nonzero, proves.sized⟩ (expiredThen expired _ _) committed framed
  have clientForwarding := @clientForwards S settings ⟨c, w.serverAddr, .waiting⟩ third.datagram w.confirmAt
    w.clientHandedAt _ _ _ _ codec rfl (carriesConfirm.2 S w.serverAddr w.confirmAt) established taken framed
  have ignored := @foreignIgnored S settings ⟨c, w.serverAddr, .waiting⟩ rfl w.beforeConfirm foreign
  have mine : reply.destination = w.clientAddr := carries.1
  have yours : third.destination = w.clientAddr := carriesConfirm.1
  refine ⟨near, ?_⟩
  simp only [conclude, clientHears, serverHears, List.filter_cons, List.filter_nil, mine, yours, decide_true,
    if_true, List.map_cons, List.map_nil, run, clientStepped, serverStepped, ignored, clientForwarding, List.flatten_cons,
    List.flatten_nil, List.append_nil]
  exact ⟨rfl, rfl, openingsJoined settings w clientPublic serverPublic codec hash confirms.provider.there
    confirms.provider.back⟩

end

section Plain
open ServerRemoteInput (plainCodec)

def waits : Status plainSnow → Bool
  | .waiting => true
  | .forwarding _ _ | .failed _ => false

theorem waitsWaiting {status : Status plainSnow} (yes : waits status = true) : status = .waiting := by
  cases status with
  | waiting => rfl
  | forwarding | failed => contradiction

def plainOpeningSettings : Settings := ⟨plainCodec, 1300, SessionHandOff.plainSettings.limits⟩

end Plain
end Crabnet.SessionOpening
