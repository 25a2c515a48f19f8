import Crabnet.ClientSending
import Crabnet.ServerCorrespondence

/-! One client and one server, once over datagrams and once over the coordinators'
own messages. Every datagram that either end emits is the message of the direct
run, arrives as that message, and what the network makes up stands for a call or
is turned away before the coordinator sees it. -/
namespace Crabnet.AdapterSimulation
open MachineWord SessionTypes Fallible CryptoBoundary ServerPolicy ClientPolicy HandshakeTypes
open NoiseProfile SnowBoundary HandshakeCodec NoiseServer NoiseClient HandshakeAdapter FrameExchange ClientSending
open CoordinatorStability ServerCoupling ServerCorrespondence
open ClientLedger (Client)

section
variable {S : Snow}

def attemptOf : ServerCall (ServerProvider S) → Option ClientAttemptId
  | .clientHello _ message _ => some message.clientAttemptId
  | .clientFinish _ message _ => some message.clientAttemptId
  | .checkTimeouts _ | .shutdown => none

theorem callAttempt {codec : V2HandshakeCodec} {source datagram now} {call : ServerCall (ServerProvider S)}
    (stands : serverCallOf codec source datagram now = .ok call) : ∀ attempt, attemptOf call = some attempt → attempt.value ≠ 0 := by
  intro attempt same
  rcases serverCallCases stands with ⟨body, decoded, _, rfl⟩ | ⟨body, decoded, _, rfl⟩
  · cases Option.some.inj same
    exact (HandshakeExact.decodeForm decoded).nonzero
  · cases Option.some.inj same
    exact (HandshakeExact.decodeForm decoded).nonzero

theorem helloExact {c t : Server S} {source attempt payload now report} (nonzero : attempt.value ≠ 0)
    (turn : HelloTurn c source attempt payload now (.ok report) t) :
    ∀ outbound ∈ report.outbound, ExactServer outbound.message := by
  intro outbound member
  cases turn with
  | dropped expired m reason ex reg step => exact absurd member List.not_mem_nil
  | repeated expired m id context ex reg owned found same =>
    cases List.mem_singleton.mp member
    exact ⟨nonzero, context.serverHello.sized⟩
  | conflicting expired m id ex reg owned => exact absurd member List.not_mem_nil
  | rejected expired m deadline next ex reg listening free => exact absurd member List.not_mem_nil
  | welcomed expired m deadline next prepared q ex reg listening free fresh =>
    cases fresh with
    | welcomed transport hash remote out prologue built allowed derived =>
      cases List.mem_singleton.mp member
      exact ⟨nonzero, out.sized⟩

theorem finishExact {c t : Server S} {source attempt payload now report} (nonzero : attempt.value ≠ 0)
    (turn : FinishTurn c source attempt payload now (.ok report) t) :
    ∀ outbound ∈ report.outbound, ExactServer outbound.message := by
  intro outbound member
  cases turn with
  | dropped expired m reason ex reg decision => exact absurd member List.not_mem_nil
  | unconfirmed expired m id context plain allowed opens => exact absurd member List.not_mem_nil
  | established expired m id context plain record out t allowed opens recorded written state =>
    cases List.mem_singleton.mp member
    exact ⟨nonzero, out.sized⟩

theorem serverExact {c : Server S} {call : ServerCall (ServerProvider S)} (corresponds : Corresponds c)
    (nonzero : ∀ attempt, attemptOf call = some attempt → attempt.value ≠ 0) :
    ∀ report, (serverStep c call).1 = .ok report → ∀ outbound ∈ report.outbound, ExactServer outbound.message := by
  intro report ok
  cases call with
  | clientHello source message now =>
    have turn := (helloReturns corresponds source message now).2
    simp only [serverStep] at ok
    rw [ok] at turn
    exact helloExact (nonzero _ rfl) turn
  | clientFinish source message now =>
    have turn := (finishReturns corresponds source message now).2
    simp only [serverStep] at ok
    rw [ok] at turn
    exact finishExact (nonzero _ rfl) turn
  | checkTimeouts now =>
    obtain ⟨_, expired, m, _, ran⟩ := timeoutsReturn corresponds now
    simp only [serverStep, ran] at ok
    cases Except.ok.inj ok
    exact fun _ impossible => absurd impossible List.not_mem_nil
  | shutdown =>
    simp only [serverStep, ServerCoordinator.shutdownAll] at ok
    split at ok <;> try contradiction
    split at ok <;> try contradiction
    split at ok <;> try contradiction
    cases Except.ok.inj ok
    exact fun _ impossible => absurd impossible List.not_mem_nil

/- `toServer` and `toClient` deliver one of the messages sent so far, as often and
as late as the network likes; `strangeTo…` delivers any bytes. -/
inductive Event where
  | start (now : Instant)
  | clientTimeout (now : Instant)
  | clientShutdown
  | serverTimeouts (now : Instant)
  | serverShutdown
  | toServer (index : Nat) (source : SocketAddr) (now : Instant)
  | toClient (index : Nat) (source : SocketAddr) (now : Instant)
  | strangeToServer (datagram : Bytes) (source : SocketAddr) (now : Instant)
  | strangeToClient (datagram : Bytes) (source : SocketAddr) (now : Instant)

structure Wire (S : Snow) where
  client : Client S
  server : Server S
  clientSent : List Bytes
  serverSent : List ServerAdapterDatagram

structure Direct (S : Snow) where
  client : Client S
  server : Server S
  clientSent : List (ClientHandshakeMessage Bytes Bytes)
  serverSent : List (ServerOutbound (ServerHandshakeMessage Bytes Bytes))

inductive WireAnswer (S : Snow) where
  | client (result : Except AdapterError ClientAdapterReport)
  | server (result : Except AdapterError ServerAdapterReport)
  | clientLocal (result : ClientCoordinator.Result (ClientProvider S))
  | serverLocal (result : ServerCoordinator.Result (ServerProvider S))
  | nothing

inductive DirectAnswer (S : Snow) where
  | client (result : ClientCoordinator.Result (ClientProvider S))
  | server (result : ServerCoordinator.Result (ServerProvider S))
  | clientLocal (result : ClientCoordinator.Result (ClientProvider S))
  | serverLocal (result : ServerCoordinator.Result (ServerProvider S))
  | clientRejects (error : AdapterError)
  | serverRejects (error : AdapterError)
  | nothing

namespace Wire

def clientAnswers (w : Wire S) (answer : Except AdapterError ClientAdapterReport × Client S) : WireAnswer S × Wire S :=
  (.client answer.1, {w with
    client := answer.2
    clientSent := w.clientSent ++ match answer.1 with | .ok report => report.datagrams | .error _ => []})

def serverAnswers (w : Wire S) (answer : Except AdapterError ServerAdapterReport × Server S) : WireAnswer S × Wire S :=
  (.server answer.1, {w with
    server := answer.2
    serverSent := w.serverSent ++ match answer.1 with | .ok report => report.datagrams | .error _ => []})

def step (codec : V2HandshakeCodec) (w : Wire S) : Event → WireAnswer S × Wire S
  | .start now => w.clientAnswers (startClientFrame codec now w.client)
  | .clientTimeout now =>
    let answer := ClientCoordinator.checkTimeout now w.client
    (.clientLocal answer.1, {w with client := answer.2})
  | .clientShutdown =>
    let answer := ClientCoordinator.shutdownAll w.client
    (.clientLocal answer.1, {w with client := answer.2})
  | .serverTimeouts now =>
    let answer := ServerCoordinator.checkTimeouts now w.server
    (.serverLocal answer.1, {w with server := answer.2})
  | .serverShutdown =>
    let answer := ServerCoordinator.shutdownAll w.server
    (.serverLocal answer.1, {w with server := answer.2})
  | .toServer index source now =>
    match w.clientSent[index]? with
    | none => (.nothing, w)
    | some datagram => w.serverAnswers (receiveServerFrame codec source datagram now w.server)
  | .toClient index source now =>
    match w.serverSent[index]? with
    | none => (.nothing, w)
    | some sent => w.clientAnswers (receiveClientFrame codec source sent.datagram now w.client)
  | .strangeToServer datagram source now =>
    w.serverAnswers (receiveServerFrame codec source datagram now w.server)
  | .strangeToClient datagram source now =>
    w.clientAnswers (receiveClientFrame codec source datagram now w.client)

end Wire

namespace Direct

def clientAnswers (d : Direct S) (call : ClientCall (ClientProvider S)) : DirectAnswer S × Direct S :=
  let answer := clientStep d.client call
  (.client answer.1, {d with
    client := answer.2
    clientSent := d.clientSent ++ match answer.1 with | .ok report => report.outbound | .error _ => []})

def serverAnswers (d : Direct S) (call : ServerCall (ServerProvider S)) : DirectAnswer S × Direct S :=
  let answer := serverStep d.server call
  (.server answer.1, {d with
    server := answer.2
    serverSent := d.serverSent ++ match answer.1 with | .ok report => report.outbound | .error _ => []})

-- Strange bytes are the call they stand for, or nothing at all: the direct system has no frames,
-- and the codec decides which of the two it is.
def step (codec : V2HandshakeCodec) (d : Direct S) : Event → DirectAnswer S × Direct S
  | .start now => d.clientAnswers (.start now)
  | .clientTimeout now =>
    let answer := clientStep d.client (.checkTimeout now)
    (.clientLocal answer.1, {d with client := answer.2})
  | .clientShutdown =>
    let answer := clientStep d.client .shutdown
    (.clientLocal answer.1, {d with client := answer.2})
  | .serverTimeouts now =>
    let answer := serverStep d.server (.checkTimeouts now)
    (.serverLocal answer.1, {d with server := answer.2})
  | .serverShutdown =>
    let answer := serverStep d.server .shutdown
    (.serverLocal answer.1, {d with server := answer.2})
  | .toServer index source now =>
    match d.clientSent[index]? with
    | none => (.nothing, d)
    | some message => d.serverAnswers (clientMessageCall source now message)
  | .toClient index source now =>
    match d.serverSent[index]? with
    | none => (.nothing, d)
    | some outbound => d.clientAnswers (serverMessageCall source now outbound.message)
  | .strangeToServer datagram source now =>
    match serverCallOf codec source datagram now with
    | .error e => (.serverRejects e, d)
    | .ok call => d.serverAnswers call
  | .strangeToClient datagram source now =>
    match clientCallOf codec source datagram now with
    | .error e => (.clientRejects e, d)
    | .ok call => d.clientAnswers call

end Direct

inductive Answers (codec : V2HandshakeCodec) : DirectAnswer S → WireAnswer S → Prop
  | client {direct wire} (encoded : ClientEncoded codec direct wire) : Answers codec (.client direct) (.client wire)
  | server {direct wire} (encoded : ServerEncoded codec direct wire) : Answers codec (.server direct) (.server wire)
  | clientLocal (result) : Answers codec (.clientLocal result) (.clientLocal result)
  | serverLocal (result) : Answers codec (.serverLocal result) (.serverLocal result)
  | clientRejects (e) (rejection : isRemoteFrameRejection e = true) :
    Answers codec (.clientRejects e) (.client (.error e))
  | serverRejects (e) (rejection : isRemoteFrameRejection e = true) :
    Answers codec (.serverRejects e) (.server (.error e))
  | nothing : Answers codec .nothing .nothing

structure Simulates (codec : V2HandshakeCodec) (d : Direct S) (w : Wire S) : Prop where
  client : w.client = d.client
  server : w.server = d.server
  clientSent : List.Forall₂ (CarriesClient codec) d.clientSent w.clientSent
  serverSent : List.Forall₂ (CarriesServer codec) d.serverSent w.serverSent
  numbered : Numbered d.client.policy
  corresponds : Corresponds d.server

def Alike (codec : V2HandshakeCodec) (direct : DirectAnswer S × Direct S) (wire : WireAnswer S × Wire S) : Prop :=
  Answers codec direct.1 wire.1 ∧ Simulates codec direct.2 wire.2

section Steps
variable {codec : V2HandshakeCodec} {d : Direct S} {w : Wire S}

theorem clientAlike (bounds : codec.maximumOpaquePayload = 112) (simulates : Simulates codec d w)
    (call : ClientCall (ClientProvider S)) :
    Alike codec (d.clientAnswers call)
      (w.clientAnswers (clientReport codec (clientStep d.client call).1, (clientStep d.client call).2)) := by
  obtain ⟨client, server, clientSent, serverSent, numbered, corresponds⟩ := simulates
  obtain ⟨after, exact_, _, _⟩ := stepSends numbered call
  have encoded := clientEncodes bounds exact_
  unfold Direct.clientAnswers Wire.clientAnswers
  generalize clientStep d.client call = outcome at after encoded ⊢
  obtain ⟨result, t⟩ := outcome
  generalize clientReport codec result = answer at encoded ⊢
  cases encoded with
  | failed fatal =>
    exact ⟨.client (.failed fatal), rfl, server, by simpa using clientSent, serverSent, after, corresponds⟩
  | reported outbound datagrams events carried =>
    exact ⟨.client (.reported _ _ _ carried), rfl, server, List.rel_append clientSent carried, serverSent, after,
      corresponds⟩

theorem serverAlike (bounds : codec.maximumOpaquePayload = 112) (simulates : Simulates codec d w)
    (call : ServerCall (ServerProvider S)) (nonzero : ∀ attempt, attemptOf call = some attempt → attempt.value ≠ 0) :
    Alike codec (d.serverAnswers call)
      (w.serverAnswers (serverReport codec (serverStep d.server call).1, (serverStep d.server call).2)) := by
  obtain ⟨client, server, clientSent, serverSent, numbered, corresponds⟩ := simulates
  have after := stepCorresponds corresponds call
  have encoded := serverEncodes bounds (serverExact corresponds nonzero)
  unfold Direct.serverAnswers Wire.serverAnswers
  generalize serverStep d.server call = outcome at after encoded ⊢
  obtain ⟨result, t⟩ := outcome
  generalize serverReport codec result = answer at encoded ⊢
  cases encoded with
  | failed fatal =>
    exact ⟨.server (.failed fatal), client, rfl, clientSent, by simpa using serverSent, numbered, after⟩
  | reported outbound datagrams events carried =>
    exact ⟨.server (.reported _ _ _ carried), client, rfl, clientSent, List.rel_append serverSent carried, numbered,
      after⟩

theorem strangeServerAlike (bounds : codec.maximumOpaquePayload = 112) (simulates : Simulates codec d w)
    (source datagram now) :
    Alike codec (d.step codec (.strangeToServer datagram source now)) (w.step codec (.strangeToServer datagram source now)) := by
  simp only [Direct.step, Wire.step, serverFrameCall]
  cases stands : serverCallOf codec source datagram now with
  | error e =>
    refine ⟨.serverRejects e (serverCallRejected stands), ?_⟩
    obtain ⟨client, server, clientSent, serverSent, numbered, corresponds⟩ := simulates
    exact ⟨client, server, clientSent, by simpa [Wire.serverAnswers] using serverSent, numbered, corresponds⟩
  | ok call =>
    simp only [simulates.server]
    exact serverAlike bounds simulates call (callAttempt stands)

theorem strangeClientAlike (bounds : codec.maximumOpaquePayload = 112) (simulates : Simulates codec d w)
    (source datagram now) :
    Alike codec (d.step codec (.strangeToClient datagram source now)) (w.step codec (.strangeToClient datagram source now)) := by
  simp only [Direct.step, Wire.step, clientFrameCall]
  cases stands : clientCallOf codec source datagram now with
  | error e =>
    refine ⟨.clientRejects e (clientCallRejected stands), ?_⟩
    obtain ⟨client, server, clientSent, serverSent, numbered, corresponds⟩ := simulates
    exact ⟨client, server, by simpa [Wire.clientAnswers] using clientSent, serverSent, numbered, corresponds⟩
  | ok call =>
    simp only [simulates.client]
    exact clientAlike bounds simulates call

theorem relatedAt {α β : Type} {R : α → β → Prop} {left : List α} {right : List β} (related : List.Forall₂ R left right)
    (index : Nat) : (left[index]? = none ∧ right[index]? = none) ∨
      ∃ a b, left[index]? = some a ∧ right[index]? = some b ∧ R a b := by
  induction related generalizing index with
  | nil => exact .inl ⟨rfl, rfl⟩
  | cons head tail ih =>
    cases index with
    | zero => exact .inr ⟨_, _, rfl, rfl, head⟩
    | succ index => exact ih index

theorem stepAlike (bounds : codec.maximumOpaquePayload = 112) (simulates : Simulates codec d w) (event : Event) :
    Alike codec (d.step codec event) (w.step codec event) := by
  have alike := simulates
  obtain ⟨client, server, clientSent, serverSent, numbered, corresponds⟩ := simulates
  cases event with
  | start now =>
    simp only [Direct.step, Wire.step, startClientFrame, client]
    exact clientAlike bounds alike (.start now)
  | clientTimeout now =>
    have after := (stepSends numbered (.checkTimeout now)).numbered
    simp only [Direct.step, Wire.step, client]
    exact ⟨.clientLocal _, rfl, server, clientSent, serverSent, after, corresponds⟩
  | clientShutdown =>
    have after := (stepSends numbered .shutdown).numbered
    simp only [Direct.step, Wire.step, client]
    exact ⟨.clientLocal _, rfl, server, clientSent, serverSent, after, corresponds⟩
  | serverTimeouts now =>
    have after := stepCorresponds corresponds (.checkTimeouts now)
    simp only [Direct.step, Wire.step, server]
    exact ⟨.serverLocal _, client, rfl, clientSent, serverSent, numbered, after⟩
  | serverShutdown =>
    have after := stepCorresponds corresponds .shutdown
    simp only [Direct.step, Wire.step, server]
    exact ⟨.serverLocal _, client, rfl, clientSent, serverSent, numbered, after⟩
  | toServer index source now =>
    simp only [Direct.step, Wire.step]
    rcases relatedAt clientSent index with ⟨left, right⟩ | ⟨message, datagram, left, right, carries⟩
    · simp only [left, right]
      exact ⟨.nothing, alike⟩
    · simp only [left, right, serverFrameCall, carries S source now, server]
      exact serverAlike bounds alike _ (callAttempt (carries S source now))
  | toClient index source now =>
    simp only [Direct.step, Wire.step]
    rcases relatedAt serverSent index with ⟨left, right⟩ | ⟨outbound, sent, left, right, _, carries⟩
    · simp only [left, right]
      exact ⟨.nothing, alike⟩
    · simp only [left, right, clientFrameCall, carries S source now, client]
      exact clientAlike bounds alike _
  | strangeToServer datagram source now => exact strangeServerAlike bounds alike source datagram now
  | strangeToClient datagram source now => exact strangeClientAlike bounds alike source datagram now

end Steps

/- A datagram at the server does what its message does there, whatever the server. -/
def ReachesServer (codec : V2HandshakeCodec) (message : ClientHandshakeMessage Bytes Bytes) (datagram : Bytes) : Prop :=
  ∀ source now (c : Server S), receiveServerFrame codec source datagram now c =
    (serverReport codec (serverStep c (clientMessageCall source now message)).1,
      (serverStep c (clientMessageCall source now message)).2)

def ReachesClient (codec : V2HandshakeCodec) (outbound : ServerOutbound (ServerHandshakeMessage Bytes Bytes))
    (sent : ServerAdapterDatagram) : Prop :=
  sent.destination = outbound.destination ∧ ∀ source now (c : Client S),
    receiveClientFrame codec source sent.datagram now c =
      (clientReport codec (clientStep c (serverMessageCall source now outbound.message)).1,
        (clientStep c (serverMessageCall source now outbound.message)).2)

theorem carriesReaches {codec : V2HandshakeCodec} {message datagram} (carries : CarriesClient codec message datagram) :
    ReachesServer (S := S) codec message datagram := by
  intro source now c
  rw [serverFrameCall, carries S source now]

theorem carriesBack {codec : V2HandshakeCodec} {outbound sent} (carries : CarriesServer codec outbound sent) :
    ReachesClient (S := S) codec outbound sent := by
  refine ⟨carries.1, ?_⟩
  intro source now c
  rw [clientFrameCall, carries.2 S source now]

theorem answersEncode {codec : V2HandshakeCodec} {direct : DirectAnswer S} {wire : WireAnswer S}
    (answers : Answers codec direct wire) (e) : wire ≠ .client (.error (.encode e)) ∧ wire ≠ .server (.error (.encode e)) := by
  cases answers with
  | client encoded => cases encoded <;> simp
  | server encoded => cases encoded <;> simp
  | clientLocal result | serverLocal result | nothing => simp
  | clientRejects e' rejection | serverRejects e' rejection =>
    refine ⟨?_, ?_⟩ <;> intro same <;> cases same
    contradiction

theorem relatedRight {α β : Type} {R : α → β → Prop} {left : List α} {right : List β}
    (related : List.Forall₂ R left right) {b} (member : b ∈ right) : ∃ a, R a b := by
  induction related with
  | nil => contradiction
  | cons head tail ih =>
    rcases List.mem_cons.mp member with rfl | later
    · exact ⟨_, head⟩
    · exact ih later

/- The adapters against the coordinators they stand before: one run of both ends over
datagrams beside the same run over messages. -/
structure Faithful (codec : V2HandshakeCodec) (direct : List (DirectAnswer S) × Direct S)
    (wire : List (WireAnswer S) × Wire S) : Prop where
  states : wire.2.client = direct.2.client ∧ wire.2.server = direct.2.server
  clientDatagrams : List.Forall₂ (ReachesServer (S := S) codec) direct.2.clientSent wire.2.clientSent
  serverDatagrams : List.Forall₂ (ReachesClient (S := S) codec) direct.2.serverSent wire.2.serverSent
  answers : List.Forall₂ (Answers codec) direct.1 wire.1
  unencodable : ∀ e, WireAnswer.client (.error (.encode e)) ∉ wire.1 ∧ WireAnswer.server (.error (.encode e)) ∉ wire.1
  serverRejections : ∀ source datagram now e,
    (receiveServerFrame codec source datagram now wire.2.server).1 = .error e → isRemoteFrameRejection e = true →
      (receiveServerFrame codec source datagram now wire.2.server).2 = wire.2.server
  clientRejections : ∀ source datagram now e,
    (receiveClientFrame codec source datagram now wire.2.client).1 = .error e → isRemoteFrameRejection e = true →
      (receiveClientFrame codec source datagram now wire.2.client).2 = wire.2.client

theorem adapterSimulation {codec : V2HandshakeCodec} (made : V2HandshakeCodec.new 112 = .ok codec)
    {endpoint timeout clientPolicy own pin clientRng} {client : Client S}
    (configured : ClientHandshake.new endpoint timeout = .ok clientPolicy)
    (clientBuilt : ClientCoordinator.build clientPolicy (ClientProvider.new own pin clientRng) = .ok client)
    {policy sources ids key allowed hasher rng} {server : Server S}
    (serverBuilt : ServerCoordinator.build (ServerHandshake.new policy sources ids)
      (ServerProvider.new key allowed hasher rng) = .ok server) (events : List Event) :
    Faithful codec (run (Direct.step codec) ⟨client, server, [], []⟩ events)
      (run (Wire.step codec) ⟨client, server, [], []⟩ events) := by
  have bounds := HandshakeExact.newPayload made
  obtain ⟨server', built, _, corresponds⟩ := @builtCorresponds S policy sources ids key allowed hasher rng
  cases Except.ok.inj (built.symm.trans serverBuilt)
  have numbered := (builtNumbered configured clientBuilt).2
  have start : Simulates codec (⟨client, server, [], []⟩ : Direct S) ⟨client, server, [], []⟩ :=
    ⟨rfl, rfl, .nil, .nil, numbered, corresponds⟩
  obtain ⟨answers, simulates⟩ :=
    runRelated (fun _ _ event alike => stepAlike bounds alike event) start events
  refine ⟨⟨simulates.client, simulates.server⟩, simulates.clientSent.imp fun _ _ => carriesReaches,
    simulates.serverSent.imp fun _ _ => carriesBack, answers, ?_, ?_, ?_⟩
  · intro e
    refine ⟨?_, ?_⟩
    · intro member
      obtain ⟨direct, alike⟩ := relatedRight answers member
      exact (answersEncode alike e).1 rfl
    · intro member
      obtain ⟨direct, alike⟩ := relatedRight answers member
      exact (answersEncode alike e).2 rfl
  · intro source datagram now e failed rejection
    exact serverRejectionKeeps failed rejection
  · intro source datagram now e failed rejection
    exact clientRejectionKeeps failed rejection

end

def plainEvents : List Event :=
  [.start 1, .toServer 0 (plainEndpoint 1000) 2, .toClient 0 (plainEndpoint 2000) 3,
    .strangeToServer [1, 2, 3] (plainEndpoint 3000) 3, .toServer 1 (plainEndpoint 1000) 4,
    .toClient 1 (plainEndpoint 2000) 5]

def noiseCodec : V2HandshakeCodec := ⟨112, 130, by decide, by decide, by decide, by decide⟩

def plainWire : List (WireAnswer plainSnow) × Wire plainSnow :=
  run (Wire.step noiseCodec) ⟨plainClient, plainServer, [], []⟩ plainEvents

def plainDirect : List (DirectAnswer plainSnow) × Direct plainSnow :=
  run (Direct.step noiseCodec) ⟨plainClient, plainServer, [], []⟩ plainEvents

theorem adapterSimulationPlain :
    Faithful noiseCodec plainDirect plainWire ∧ plainWire.2.client.policy.stateName = .established ∧
      plainWire.2.server.policy.stateName = .established := by
  refine ⟨?_, by decide +kernel, by decide +kernel⟩
  have configured : ClientHandshake.new (plainEndpoint 2000) 10 = .ok plainClient.policy := rfl
  exact adapterSimulation (S := plainSnow) rfl configured rfl rfl plainEvents

end Crabnet.AdapterSimulation
