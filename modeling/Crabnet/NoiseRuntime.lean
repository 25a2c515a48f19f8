import Crabnet.DataFrame
import Crabnet.DataSession
import Crabnet.FrameExchange

/-! The handshake loops (noise_runtime.rs), for each role up to the data session
that it hands to the forwarding loop. One wake is what one wait of the loop ends
with; the answer to it is the datagrams that the socket took. -/
namespace Crabnet.NoiseRuntime
open MachineWord SessionTypes CryptoBoundary HandshakeTypes SnowBoundary NoiseServer NoiseClient HandshakeCodec
open HandshakeAdapter FrameExchange DataFrame DataSession

inductive RuntimeError where
  | start (error : AdapterError)
  | send
  | timedOut
  | receive
  | expire (error : FatalCoordinatorError)
  | process (error : AdapterError)
  | extractTransport
  | metadataMismatch
  | dataCodec (error : DataFrameCodecConfigError)

inductive Status (S : Snow) where
  | waiting
  | forwarding (codec : DataFrameCodec) (session : EstablishedDataSession S)
  | failed (error : RuntimeError)

/- `unsent` is the index of the first datagram of the answer that the socket does
not take, and `handedAt` the time that the session's lifetime begins. -/
inductive Wake where
  | timer (now : Instant)
  | broken
  | received (datagram : Bytes) (source : SocketAddr) (now : Instant) (unsent : Option Nat) (handedAt : Instant)

structure Settings where
  codec : V2HandshakeCodec
  mtu : Nat
  limits : SessionLimits

def sendAll {α : Type} (unsent : Option Nat) (datagrams : List α) : List α × Bool :=
  match unsent with
  | none => (datagrams, true)
  | some index => (datagrams.take index, decide (datagrams.length ≤ index))

-- A longer datagram is cut at the end of the buffer, one byte more than any frame has.
def buffered (codec : V2HandshakeCodec) (datagram : Bytes) : Bytes :=
  datagram.take (codec.maximumDatagramLength + 1)

section
variable {S : Snow}

def handOff (mtu : Nat) (metadata : EstablishedSessionMetadata)
    (committed : Option (Transport S × EstablishedSessionMetadata))
    (session : Transport S → EstablishedDataSession S) : Status S :=
  match committed with
  | none => .failed .extractTransport
  | some (transport, committedMetadata) =>
    if metadata ≠ committedMetadata then .failed .metadataMismatch
    else match DataFrameCodec.new mtu with
      | .error e => .failed (.dataCodec e)
      | .ok codec => .forwarding codec (session transport)

structure ClientRuntime (S : Snow) where
  coordinator : ClientCoordinator.ClientHandshakeCoordinator (ClientProvider S)
  serverAddr : SocketAddr
  status : Status S

structure ServerRuntime (S : Snow) where
  coordinator : ServerCoordinator.ServerHandshakeCoordinator (ServerProvider S)
  status : Status S

namespace ClientRuntime

def establishedMetadata : ClientCoordinatorEvent → Option EstablishedSessionMetadata
  | .sessionEstablished metadata => some metadata
  | .dropped _ | .handshakeTimedOut _ | .closed _ _ | .alreadyClosed => none

def start (settings : Settings) (serverAddr : SocketAddr) (now : Instant) (unsent : Option Nat)
    (coordinator : ClientCoordinator.ClientHandshakeCoordinator (ClientProvider S)) : List Bytes × ClientRuntime S :=
  let answer := startClientFrame settings.codec now coordinator
  match answer.1 with
  | .error e => ([], ⟨answer.2, serverAddr, .failed (.start e)⟩)
  | .ok report =>
    let sent := sendAll unsent report.datagrams
    (sent.1, ⟨answer.2, serverAddr, if sent.2 then .waiting else .failed .send⟩)

def reported (settings : Settings) (unsent : Option Nat) (handedAt : Instant) (r : ClientRuntime S)
    (report : ClientAdapterReport) : List Bytes × ClientRuntime S :=
  let sent := sendAll unsent report.datagrams
  if sent.2 = false then (sent.1, {r with status := .failed .send})
  else match report.events.findSome? establishedMetadata with
    | none => (sent.1, {r with status := .waiting})
    | some metadata =>
      let session (transport : Transport S) : EstablishedDataSession S :=
        .client metadata r.serverAddr transport (.new handedAt settings.limits)
      (sent.1, {r with
        status := handOff settings.mtu metadata r.coordinator.crypto.intoEstablishedTransport session})

-- `timer` is the deadline of the whole handshake. The sender is only compared with the configured address.
def wake (settings : Settings) (r : ClientRuntime S) : Wake → List Bytes × ClientRuntime S
  | .timer _ => ([], {r with status := .failed .timedOut})
  | .broken => ([], {r with status := .failed .receive})
  | .received datagram source now unsent handedAt =>
    if source ≠ r.serverAddr then ([], r)
    else
      let answer := receiveClientFrame settings.codec r.serverAddr (buffered settings.codec datagram) now r.coordinator
      let next : ClientRuntime S := {r with coordinator := answer.2}
      match answer.1 with
      | .error e =>
        if isRemoteFrameRejection e then ([], next) else ([], {next with status := .failed (.process e)})
      | .ok report => reported settings unsent handedAt next report

def step (settings : Settings) (r : ClientRuntime S) (w : Wake) : List Bytes × ClientRuntime S :=
  match r.status with
  | .waiting => wake settings r w
  | .forwarding _ _ | .failed _ => ([], r)

end ClientRuntime

namespace ServerRuntime

def establishedPeer : ServerCoordinatorEvent → Option (SocketAddr × EstablishedSessionMetadata)
  | .sessionEstablished source metadata => some (source, metadata)
  | .dropped _ _ | .candidateExpired _ _ _ | .closed _ _ _ | .alreadyClosed => none

def reported (settings : Settings) (unsent : Option Nat) (handedAt : Instant) (r : ServerRuntime S)
    (report : ServerAdapterReport) : List ServerAdapterDatagram × ServerRuntime S :=
  let sent := sendAll unsent report.datagrams
  if sent.2 = false then (sent.1, {r with status := .failed .send})
  else match report.events.findSome? establishedPeer with
    | none => (sent.1, {r with status := .waiting})
    | some (peerEndpoint, metadata) =>
      let session (transport : Transport S) : EstablishedDataSession S :=
        .server metadata peerEndpoint transport (.new handedAt settings.limits)
      (sent.1, {r with
        status := handOff settings.mtu metadata r.coordinator.crypto.intoEstablishedTransport session})

-- `timer` is the nearest candidate deadline; without a candidate the loop sets none.
def wake (settings : Settings) (r : ServerRuntime S) : Wake → List ServerAdapterDatagram × ServerRuntime S
  | .timer now =>
    match ServerCoordinator.nextDeadline r.coordinator with
    | none => ([], r)
    | some _ =>
      let answer := ServerCoordinator.checkTimeouts now r.coordinator
      match answer.1 with
      | .error e => ([], ⟨answer.2, .failed (.expire e)⟩)
      | .ok _ => ([], ⟨answer.2, .waiting⟩)
  | .broken => ([], {r with status := .failed .receive})
  | .received datagram source now unsent handedAt =>
    let answer := receiveServerFrame settings.codec source (buffered settings.codec datagram) now r.coordinator
    let next : ServerRuntime S := {r with coordinator := answer.2}
    match answer.1 with
    | .error e =>
      if isRemoteFrameRejection e then ([], next) else ([], {next with status := .failed (.process e)})
    | .ok report => reported settings unsent handedAt next report

def step (settings : Settings) (r : ServerRuntime S) (w : Wake) : List ServerAdapterDatagram × ServerRuntime S :=
  match r.status with
  | .waiting => wake settings r w
  | .forwarding _ _ | .failed _ => ([], r)

end ServerRuntime

def Status.inconsistent : Status S → Bool
  | .failed .extractTransport | .failed .metadataMismatch => true
  | _ => false

theorem handOffConsistent {mtu metadata committed} {session : Transport S → EstablishedDataSession S} {transport}
    (found : committed = some (transport, metadata)) : (handOff mtu metadata committed session).inconsistent = false := by
  subst found
  simp only [handOff, ne_eq, not_true_eq_false, if_false]
  cases DataFrameCodec.new mtu <;> rfl

theorem clientReportedKeeps {settings unsent handedAt} {r : ClientRuntime S} {report : ClientAdapterReport} :
    (r.reported settings unsent handedAt report).2.coordinator = r.coordinator := by
  unfold ClientRuntime.reported
  simp only
  split
  · rfl
  · split <;> rfl

theorem serverReportedKeeps {settings unsent handedAt} {r : ServerRuntime S} {report : ServerAdapterReport} :
    (r.reported settings unsent handedAt report).2.coordinator = r.coordinator := by
  unfold ServerRuntime.reported
  simp only
  split
  · rfl
  · split <;> rfl

theorem clientReportedConsistent {settings unsent handedAt} {r : ClientRuntime S} {report : ClientAdapterReport}
    (committed : ∀ metadata, ClientCoordinatorEvent.sessionEstablished metadata ∈ report.events →
      ∃ transport, r.coordinator.crypto.intoEstablishedTransport = some (transport, metadata)) :
    (r.reported settings unsent handedAt report).2.status.inconsistent = false := by
  unfold ClientRuntime.reported
  simp only
  split
  · rfl
  · split
    · rfl
    · rename_i metadata found
      obtain ⟨event, member, same⟩ := List.exists_of_findSome?_eq_some found
      cases event <;> try contradiction
      cases Option.some.inj same
      obtain ⟨transport, established⟩ := committed _ member
      exact handOffConsistent established

theorem serverReportedConsistent {settings unsent handedAt} {r : ServerRuntime S} {report : ServerAdapterReport}
    (committed : ∀ peer metadata, ServerCoordinatorEvent.sessionEstablished peer metadata ∈ report.events →
      ∃ transport, r.coordinator.crypto.intoEstablishedTransport = some (transport, metadata)) :
    (r.reported settings unsent handedAt report).2.status.inconsistent = false := by
  unfold ServerRuntime.reported
  simp only
  split
  · rfl
  · split
    · rfl
    · rename_i peer metadata found
      obtain ⟨event, member, same⟩ := List.exists_of_findSome?_eq_some found
      cases event <;> try contradiction
      cases Option.some.inj same
      obtain ⟨transport, established⟩ := committed _ _ member
      exact handOffConsistent established

end
end Crabnet.NoiseRuntime
