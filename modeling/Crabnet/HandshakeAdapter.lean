import Crabnet.HandshakeExact
import Crabnet.NoiseServer
import Crabnet.NoiseClient
import Crabnet.ServerCoordinator
import Crabnet.ClientCoordinator

/-! Datagrams in and out of the coordinators (handshake/adapter.rs): decode,
check the direction and the exact payload length, hand the message over, encode
what comes back. The Noise providers are the ones whose payloads are bytes. -/
namespace Crabnet.HandshakeAdapter
open MachineWord SessionTypes CryptoBoundary HandshakeTypes NoiseProfile HandshakeCodec SnowBoundary
open NoiseServer NoiseClient ServerCoordinator ClientCoordinator

inductive AdapterError where
  | decode (error : V2DecodeError)
  | direction (error : DirectionError)
  | payloadLength (messageType : MessageType) (expected observed : Nat)
  | coordinator (error : FatalCoordinatorError)
  | encode (error : V2EncodeError)
  deriving DecidableEq

structure ClientAdapterReport where
  datagrams : List Bytes
  events : List ClientCoordinatorEvent
  deriving DecidableEq

structure ServerAdapterDatagram where
  destination : SocketAddr
  datagram : Bytes
  deriving DecidableEq

structure ServerAdapterReport where
  datagrams : List ServerAdapterDatagram
  events : List ServerCoordinatorEvent
  deriving DecidableEq

def payloadLength : MessageType → Nat
  | .clientHello => clientHelloPayloadLength
  | .serverHello => serverHelloPayloadLength
  | .clientFinish => clientFinishPayloadLength
  | .serverFinish => serverFinishPayloadLength
  | .data => 0

def bodyPayload (body : DecodedV2HandshakeBody) (messageType : MessageType) : Except AdapterError Bytes :=
  if body.opaquePayload.length ≠ payloadLength messageType then
    .error (.payloadLength messageType (payloadLength messageType) body.opaquePayload.length)
  else .ok body.opaquePayload

def encode (codec : V2HandshakeCodec) (kind : MessageType) (attempt : ClientAttemptId) (payload : Bytes) :
    Except AdapterError Bytes :=
  match codec.encode kind attempt payload (List.replicate codec.maximumDatagramLength 0) with
  | (.ok length, output) => .ok (output.take length)
  | (.error e, _) => .error (.encode e)

def encodeAll {α β : Type} (f : α → Except AdapterError β) : List α → Except AdapterError (List β)
  | [] => .ok []
  | a :: rest =>
    match f a with
    | .error e => .error e
    | .ok b =>
      match encodeAll f rest with
      | .error e => .error e
      | .ok tail => .ok (b :: tail)

def encodeClient (codec : V2HandshakeCodec) : ClientHandshakeMessage Bytes Bytes → Except AdapterError Bytes
  | .clientHello value => encode codec .clientHello value.clientAttemptId value.payload
  | .clientFinish value => encode codec .clientFinish value.clientAttemptId value.payload

def encodeServer (codec : V2HandshakeCodec) (outbound : ServerOutbound (ServerHandshakeMessage Bytes Bytes)) :
    Except AdapterError ServerAdapterDatagram :=
  let encoded := match outbound.message with
    | .serverHello value => encode codec .serverHello value.clientAttemptId value.payload
    | .serverFinish value => encode codec .serverFinish value.clientAttemptId value.payload
  match encoded with
  | .ok datagram => .ok ⟨outbound.destination, datagram⟩
  | .error e => .error e

-- A report is lost when one of its messages cannot be encoded; the coordinator has moved on by then.
def clientReport (codec : V2HandshakeCodec) :
    Except FatalCoordinatorError (ClientCoordinatorReport Bytes Bytes) → Except AdapterError ClientAdapterReport
  | .error fatal => .error (.coordinator fatal)
  | .ok report =>
    match encodeAll (encodeClient codec) report.outbound with
    | .error e => .error e
    | .ok datagrams => .ok ⟨datagrams, report.events⟩

def serverReport (codec : V2HandshakeCodec) :
    Except FatalCoordinatorError (ServerCoordinatorReport Bytes Bytes) → Except AdapterError ServerAdapterReport
  | .error fatal => .error (.coordinator fatal)
  | .ok report =>
    match encodeAll (encodeServer codec) report.outbound with
    | .error e => .error e
    | .ok datagrams => .ok ⟨datagrams, report.events⟩

section
variable {S : Snow}

def startClientFrame (codec : V2HandshakeCodec) (now : Instant) (c : ClientHandshakeCoordinator (ClientProvider S)) :
    Except AdapterError ClientAdapterReport × ClientHandshakeCoordinator (ClientProvider S) :=
  let result := ClientCoordinator.start now c
  (clientReport codec result.1, result.2)

def receiveClientFrame (codec : V2HandshakeCodec) (source : SocketAddr) (datagram : Bytes) (now : Instant)
    (c : ClientHandshakeCoordinator (ClientProvider S)) :
    Except AdapterError ClientAdapterReport × ClientHandshakeCoordinator (ClientProvider S) :=
  match codec.decode datagram with
  | .error e => (.error (.decode e), c)
  | .ok frame =>
    match classifyForClient frame with
    | .error e => (.error (.direction e), c)
    | .ok (.serverHello body) =>
      match bodyPayload body .serverHello with
      | .error e => (.error e, c)
      | .ok payload =>
        let result := receiveServerHello source ⟨body.clientAttemptId, payload⟩ now c
        (clientReport codec result.1, result.2)
    | .ok (.serverFinish body) =>
      match bodyPayload body .serverFinish with
      | .error e => (.error e, c)
      | .ok payload =>
        let result := receiveServerFinish source ⟨body.clientAttemptId, payload⟩ now c
        (clientReport codec result.1, result.2)

def receiveServerFrame (codec : V2HandshakeCodec) (source : SocketAddr) (datagram : Bytes) (now : Instant)
    (c : ServerHandshakeCoordinator (ServerProvider S)) :
    Except AdapterError ServerAdapterReport × ServerHandshakeCoordinator (ServerProvider S) :=
  match codec.decode datagram with
  | .error e => (.error (.decode e), c)
  | .ok frame =>
    match classifyForServer frame with
    | .error e => (.error (.direction e), c)
    | .ok (.clientHello body) =>
      match bodyPayload body .clientHello with
      | .error e => (.error e, c)
      | .ok payload =>
        let result := receiveClientHello source ⟨body.clientAttemptId, payload⟩ now c
        (serverReport codec result.1, result.2)
    | .ok (.clientFinish body) =>
      match bodyPayload body .clientFinish with
      | .error e => (.error e, c)
      | .ok payload =>
        let result := receiveClientFinish source ⟨body.clientAttemptId, payload⟩ now c
        (serverReport codec result.1, result.2)

end

def Sendable (codec : V2HandshakeCodec) (outbound : ServerOutbound (ServerHandshakeMessage Bytes Bytes)) : Prop :=
  match outbound.message with
  | .serverHello value => value.clientAttemptId.value ≠ 0 ∧ 0 < value.payload.length ∧
      value.payload.length ≤ codec.maximumOpaquePayload
  | .serverFinish value => value.clientAttemptId.value ≠ 0 ∧ 0 < value.payload.length ∧
      value.payload.length ≤ codec.maximumOpaquePayload

theorem encodeKnown {codec : V2HandshakeCodec} {kind attempt payload} (handshake : kind ≠ .data)
    (nonzero : attempt.value ≠ 0) (positive : 0 < payload.length) (small : payload.length ≤ codec.maximumOpaquePayload) :
    ∃ datagram, encode codec kind attempt payload = .ok datagram ∧
      HandshakeExact.Encoding codec kind attempt payload datagram := by
  have encoding := HandshakeExact.encodes handshake nonzero positive small
  refine ⟨_, ?_, encoding⟩
  have size := codec.datagramIs
  simp only [commonHeaderLength, attemptIdLength] at size
  have room : payload.length + 18 ≤ (List.replicate codec.maximumDatagramLength (0 : UInt8)).length := by
    simp only [List.length_replicate]
    omega
  simp only [encode, encoding.written _ room]
  rw [List.take_left' encoding.size]

theorem encodeAllSome {α β : Type} {f : α → Except AdapterError β} {items : List α}
    (each : ∀ a ∈ items, ∃ b, f a = .ok b) : ∃ all, encodeAll f items = .ok all := by
  induction items with
  | nil => exact ⟨[], rfl⟩
  | cons a rest ih =>
    obtain ⟨b, done⟩ := each a List.mem_cons_self
    obtain ⟨tail, others⟩ := ih fun a member => each a (List.mem_cons_of_mem _ member)
    exact ⟨b :: tail, by simp only [encodeAll, done, others]⟩

theorem serverReportSome {codec : V2HandshakeCodec} {report : ServerCoordinatorReport Bytes Bytes}
    (sendable : ∀ outbound ∈ report.outbound, Sendable codec outbound) :
    ∃ encoded, serverReport codec (.ok report) = .ok encoded := by
  have each : ∀ outbound ∈ report.outbound, ∃ datagram, encodeServer codec outbound = .ok datagram := by
    intro outbound member
    have able := sendable outbound member
    rcases outbound with ⟨destination, value | value⟩
    · obtain ⟨datagram, done, _⟩ := @encodeKnown codec .serverHello _ _ (by decide) able.1 able.2.1 able.2.2
      exact ⟨_, by simp only [encodeServer, done]; rfl⟩
    · obtain ⟨datagram, done, _⟩ := @encodeKnown codec .serverFinish _ _ (by decide) able.1 able.2.1 able.2.2
      exact ⟨_, by simp only [encodeServer, done]; rfl⟩
  obtain ⟨all, done⟩ := encodeAllSome each
  exact ⟨⟨all, report.events⟩, by simp only [serverReport, done]⟩

end Crabnet.HandshakeAdapter
