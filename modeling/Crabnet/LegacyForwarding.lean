import Crabnet.LegacyServer
import Crabnet.NetworkTypes

/-! The client of the legacy mode (client.rs) and the loops that forward packets in
both legacy endpoints. What a branch of the loop completes with is an input; a result
other than `ok` ends the loop, and with it the tunnel. -/
namespace Crabnet.LegacyForwarding
open MachineWord SessionTypes Fallible NetworkTypes PlainFrame LegacyServer

structure ForwardingStats where
  tunToUdpPackets : UInt64
  tunToUdpBytes : UInt64
  udpToTunPackets : UInt64
  udpToTunBytes : UInt64
  oversizedTunPackets : UInt64
  oversizedUdpPackets : UInt64
  invalidUdpFrames : UInt64
  deriving DecidableEq

def ForwardingStats.default : ForwardingStats := ⟨0, 0, 0, 0, 0, 0, 0⟩

inductive PacketDecision where
  | forward | dropOversized
  deriving DecidableEq, Repr

structure ClientState where
  innerMtu : Nat
  maximumFrameLen : Nat
  stats : ForwardingStats
  deriving DecidableEq

namespace ClientState

def new (innerMtu maximumFrameLen : Nat) : ClientState := ⟨innerMtu, maximumFrameLen, .default⟩

def classifyTun (size : Nat) (s : ClientState) : PacketDecision × ClientState :=
  if s.innerMtu < size then
    (.dropOversized, {s with stats := {s.stats with oversizedTunPackets := saturatingAdd s.stats.oversizedTunPackets 1}})
  else (.forward, s)

def classifyUdpFrame (size : Nat) (s : ClientState) : PacketDecision × ClientState :=
  if s.maximumFrameLen < size then
    (.dropOversized, {s with stats := {s.stats with oversizedUdpPackets := saturatingAdd s.stats.oversizedUdpPackets 1}})
  else (.forward, s)

def recordTunToUdp (size : Nat) (s : ClientState) : ClientState :=
  {s with stats := {s.stats with
    tunToUdpPackets := saturatingAdd s.stats.tunToUdpPackets 1
    tunToUdpBytes := saturatingAdd s.stats.tunToUdpBytes (.ofNat size)}}

def recordUdpToTun (size : Nat) (s : ClientState) : ClientState :=
  {s with stats := {s.stats with
    udpToTunPackets := saturatingAdd s.stats.udpToTunPackets 1
    udpToTunBytes := saturatingAdd s.stats.udpToTunBytes (.ofNat size)}}

def recordInvalidUdpFrame (s : ClientState) : ClientState :=
  {s with stats := {s.stats with invalidUdpFrames := saturatingAdd s.stats.invalidUdpFrames 1}}

end ClientState

inductive StopCause where
  | readTun (e : Failure)
  | encode (size : Nat) (error : EncodeError)
  | send (size : Nat) (peer : SocketAddr) (e : Failure)
  | partialSend (peer : SocketAddr) (sent size : Nat)
  | receive (e : Failure)
  | inject (size : Nat) (peer : SocketAddr) (e : Failure)

def encodeErrorDisplay : EncodeError → String
  | .emptyPayload => "cannot encode an empty inner packet"
  | .payloadTooLarge size mtu => "inner packet size " ++ toString size ++ " exceeds TUN MTU " ++ toString mtu
  | .payloadLengthNotRepresentable size =>
    "inner packet size " ++ toString size ++ " cannot be represented by the frame payload-length field"
  | .encodedLengthOverflow payloadSize => "encoded length overflows for payload size " ++ toString payloadSize
  | .outputBufferTooSmall required available =>
    "frame output buffer has " ++ toString available ++ " bytes but " ++ toString required ++ " bytes are required"

inductive Role where
  | client | server
  deriving DecidableEq, Repr

def Role.name : Role → String
  | client => "client"
  | server => "server"

def StopCause.failure [AddressText] (role : Role) (tunName : String) : StopCause → Failure
  | readTun e => e.context ("failed to read packet from " ++ role.name ++ " TUN")
  | encode size error => (Failure.of (encodeErrorDisplay error)).context
      ("failed to encode " ++ toString size ++ "-byte packet from " ++ role.name ++ " TUN " ++ tunName)
  | send size peer e => e.context ("failed to send " ++ toString size ++ "-byte frame to " ++ AddressText.socket peer)
  | partialSend peer sent size => .of ("partial UDP send to " ++ AddressText.socket peer ++ ": sent " ++ toString sent ++
      " of " ++ toString size ++ " framed bytes")
  | receive e => match role with
    | .client => e.context "failed to receive packet from VPN server"
    | .server => e.context "failed to receive UDP packet"
  | inject size peer e => match role with
    | .client => e.context "failed to inject server packet into client TUN"
    | .server => e.context ("failed to inject " ++ toString size ++ "-byte packet from " ++ AddressText.socket peer ++
        " into server TUN")

structure Devices where
  send : Bytes → Except Failure Nat
  inject : Bytes → Except Failure Unit

inductive Ready where
  | tun (read : Except Failure Bytes)
  | udp (received : Except Failure (Bytes × SocketAddr))

def transmit (codec : FrameCodec) (devices : Devices) (peer : SocketAddr) (packet buffer : Bytes) :
    Except StopCause Unit × Bytes :=
  match codec.encodeData packet buffer with
  | (.error error, buffer) => (.error (.encode packet.length error), buffer)
  | (.ok encodedSize, buffer) =>
    match devices.send (buffer.take encodedSize) with
    | .error e => (.error (.send encodedSize peer e), buffer)
    | .ok sent => (if sent ≠ encodedSize then .error (.partialSend peer sent encodedSize) else .ok (), buffer)

structure ClientLoop where
  state : ClientState
  encodedBuffer : Bytes

namespace ClientLoop

def start (codec : FrameCodec) : ClientLoop :=
  ⟨.new codec.mtu codec.maximumDatagramLen, .replicate codec.maximumDatagramLen 0⟩

def forwardTun (codec : FrameCodec) (server : SocketAddr) (devices : Devices) (packet : Bytes) (l : ClientLoop) :
    Except StopCause Unit × ClientLoop :=
  match l.state.classifyTun packet.length with
  | (.dropOversized, state) => (.ok (), {l with state := state})
  | (.forward, state) =>
    match transmit codec devices server packet l.encodedBuffer with
    | (.error cause, buffer) => (.error cause, ⟨state, buffer⟩)
    | (.ok (), buffer) => (.ok (), ⟨state.recordTunToUdp packet.length, buffer⟩)

def forwardUdp (codec : FrameCodec) (server : SocketAddr) (devices : Devices) (datagram : Bytes) (l : ClientLoop) :
    Except StopCause Unit × ClientLoop :=
  match l.state.classifyUdpFrame datagram.length with
  | (.dropOversized, state) => (.ok (), {l with state := state})
  | (.forward, state) =>
    match codec.decode datagram with
    | .error _ => (.ok (), {l with state := state.recordInvalidUdpFrame})
    | .ok decoded =>
      match decoded.messageType with
      | .data =>
        match devices.inject decoded.payload with
        | .error e => (.error (.inject decoded.payload.length server e), {l with state := state})
        | .ok () => (.ok (), {l with state := state.recordUdpToTun decoded.payload.length})
      | _ => (.ok (), {l with state := state.recordInvalidUdpFrame})

-- The socket is connected: what it receives is from the server.
def step (codec : FrameCodec) (server : SocketAddr) (l : ClientLoop) : Ready × Devices → Except StopCause Unit × ClientLoop
  | (.tun (.error e), _) => (.error (.readTun e), l)
  | (.tun (.ok packet), devices) => forwardTun codec server devices packet l
  | (.udp (.error e), _) => (.error (.receive e), l)
  | (.udp (.ok (datagram, _)), devices) => forwardUdp codec server devices datagram l

end ClientLoop

structure ServerLoop where
  state : ServerState
  encodedBuffer : Bytes

namespace ServerLoop

def start (codec : FrameCodec) : ServerLoop := ⟨.new codec.mtu, .replicate codec.maximumDatagramLen 0⟩

def forwardTun (codec : FrameCodec) (devices : Devices) (packet : Bytes) (l : ServerLoop) :
    Except StopCause Unit × ServerLoop :=
  match l.state.classifyTun packet.length with
  | (.dropOversized, state) | (.dropNoPeer, state) => (.ok (), {l with state := state})
  | (.sendToPeer peer, state) =>
    match transmit codec devices peer packet l.encodedBuffer with
    | (.error cause, buffer) => (.error cause, ⟨state, buffer⟩)
    | (.ok (), buffer) => (.ok (), ⟨state.recordTunToUdp packet.length, buffer⟩)

def forwardUdp (codec : FrameCodec) (devices : Devices) (datagram : Bytes) (peer : SocketAddr) (l : ServerLoop) :
    Except StopCause Unit × ServerLoop :=
  match l.state.classifyUdpFrame codec datagram peer with
  | (.forwardToTun payload _, state) =>
    match devices.inject payload with
    | .error e => (.error (.inject payload.length peer e), {l with state := state})
    | .ok () => (.ok (), {l with state := state.recordUdpToTun payload.length})
  | (_, state) => (.ok (), {l with state := state})

def step (codec : FrameCodec) (l : ServerLoop) : Ready × Devices → Except StopCause Unit × ServerLoop
  | (.tun (.error e), _) => (.error (.readTun e), l)
  | (.tun (.ok packet), devices) => forwardTun codec devices packet l
  | (.udp (.error e), _) => (.error (.receive e), l)
  | (.udp (.ok (datagram, peer)), devices) => forwardUdp codec devices datagram peer l

end ServerLoop

def forward {σ : Type} (step : σ → Ready × Devices → Except StopCause Unit × σ) :
    σ → List (Ready × Devices) → Except StopCause Unit × σ
  | s, [] => (.ok (), s)
  | s, i :: rest =>
    match step s i with
    | (.error cause, t) => (.error cause, t)
    | (.ok (), t) => forward step t rest

theorem encodeBuffer (codec : FrameCodec) (packet buffer : Bytes) :
    (codec.encodeData packet buffer).2.length = buffer.length := by
  rcases outcome : codec.encodeData packet buffer with ⟨e | size, out⟩
  · rw [encodeRefused outcome]
  · exact (encodedBuffer outcome).1

theorem encodesIff {codec : FrameCodec} {packet buffer : Bytes} (small : packet.length ≤ codec.mtu)
    (sized : buffer.length = codec.maximumDatagramLen) :
    (∃ size, (codec.encodeData packet buffer).1 = .ok size) ↔ packet ≠ [] := by
  have room : packet.length + 10 ≤ buffer.length := by
    rw [sized, codec.datagramIs, headerLen]
    omega
  constructor
  · rintro ⟨size, done⟩ rfl
    obtain ⟨positive, _⟩ := encodeAccepted (Prod.ext done rfl)
    simp at positive
  · intro full
    have positive : 1 ≤ packet.length := List.length_pos_iff.mpr full
    exact ⟨_, congrArg Prod.fst (encodeWrites positive small room)⟩

theorem clientClassifies (s : ClientState) (size : Nat) : (s.classifyTun size).1 = .forward ↔ size ≤ s.innerMtu := by
  unfold ClientState.classifyTun
  split
  · simp
    omega
  · simp
    omega

theorem serverClassifies (s : ServerState) (size : Nat) (peer : SocketAddr) :
    (s.classifyTun size).1 = .sendToPeer peer ↔ size ≤ s.innerMtu ∧ s.peer.address = some peer := by
  unfold ServerState.classifyTun
  split
  · simp
    omega
  · rename_i small
    cases s.peer.address with
    | none => simp
    | some active => simpa using fun _ => Nat.le_of_not_lt small

def encodeStops : Except StopCause Unit → Bool
  | .error (.encode _ _) => true
  | _ => false

def emptyPacket : Ready → Bool
  | .tun (.ok []) => true
  | _ => false

theorem transmitStops {codec : FrameCodec} {packet buffer : Bytes} (small : packet.length ≤ codec.mtu)
    (sized : buffer.length = codec.maximumDatagramLen) (devices : Devices) (peer : SocketAddr) :
    encodeStops (transmit codec devices peer packet buffer).1 = packet.isEmpty ∧
      (transmit codec devices peer packet buffer).2.length = codec.maximumDatagramLen := by
  have encodes := encodesIff small sized
  have kept := encodeBuffer codec packet buffer
  unfold transmit
  rcases outcome : codec.encodeData packet buffer with ⟨e | size, out⟩
  · rw [outcome] at kept encodes
    have empty : packet = [] := by simpa using encodes
    exact ⟨by simp [encodeStops, empty], kept.trans sized⟩
  · rw [outcome] at kept encodes
    have full : packet ≠ [] := encodes.mp ⟨size, rfl⟩
    have none_ : packet.isEmpty = false := by simpa using full
    simp only [none_]
    cases devices.send (out.take size) with
    | error e => exact ⟨rfl, kept.trans sized⟩
    | ok sent =>
      simp only
      split
      · exact ⟨rfl, kept.trans sized⟩
      · exact ⟨rfl, kept.trans sized⟩

def ClientLoop.Sized (codec : FrameCodec) (l : ClientLoop) : Prop :=
  l.state.innerMtu = codec.mtu ∧ l.encodedBuffer.length = codec.maximumDatagramLen

def ServerLoop.Sized (codec : FrameCodec) (l : ServerLoop) : Prop :=
  l.state.innerMtu = codec.mtu ∧ l.encodedBuffer.length = codec.maximumDatagramLen

theorem clientTunStep {codec : FrameCodec} {l : ClientLoop} (sized : l.Sized codec) (server : SocketAddr) (devices : Devices)
    (packet : Bytes) :
    encodeStops (l.forwardTun codec server devices packet).1 = packet.isEmpty ∧
      (l.forwardTun codec server devices packet).2.Sized codec := by
  unfold ClientLoop.forwardTun ClientState.classifyTun
  by_cases large : l.state.innerMtu < packet.length
  · rw [if_pos large]
    have full : packet ≠ [] := List.length_pos_iff.mp (Nat.zero_lt_of_lt large)
    exact ⟨by simp [encodeStops, full], sized⟩
  · rw [if_neg large]
    have small : packet.length ≤ codec.mtu := sized.1 ▸ Nat.le_of_not_lt large
    obtain ⟨stops, kept⟩ := transmitStops small sized.2 devices server
    revert stops kept
    rcases transmit codec devices server packet l.encodedBuffer with ⟨_ | _, buffer⟩
    · exact fun stops kept => ⟨stops, sized.1, kept⟩
    · exact fun stops kept => ⟨stops, sized.1, kept⟩

theorem clientUdpStep {codec : FrameCodec} {l : ClientLoop} (sized : l.Sized codec) (server : SocketAddr) (devices : Devices)
    (datagram : Bytes) :
    encodeStops (l.forwardUdp codec server devices datagram).1 = false ∧
      (l.forwardUdp codec server devices datagram).2.Sized codec := by
  unfold ClientLoop.forwardUdp ClientState.classifyUdpFrame
  by_cases large : l.state.maximumFrameLen < datagram.length
  · rw [if_pos large]
    exact ⟨rfl, sized⟩
  · rw [if_neg large]
    simp only
    repeat' split
    all_goals exact ⟨rfl, sized⟩

theorem clientStep {codec : FrameCodec} {l : ClientLoop} (sized : l.Sized codec) (server : SocketAddr)
    (i : Ready × Devices) :
    encodeStops (l.step codec server i).1 = emptyPacket i.1 ∧ (l.step codec server i).2.Sized codec := by
  obtain ⟨ready, devices⟩ := i
  match ready with
  | .tun (.error e) => exact ⟨rfl, sized⟩
  | .tun (.ok []) => exact clientTunStep sized server devices []
  | .tun (.ok (b :: rest)) => exact clientTunStep sized server devices (b :: rest)
  | .udp (.error e) => exact ⟨rfl, sized⟩
  | .udp (.ok (datagram, peer)) => exact clientUdpStep sized server devices datagram

theorem serverTunStep {codec : FrameCodec} {l : ServerLoop} (sized : l.Sized codec) (devices : Devices) (packet : Bytes) :
    encodeStops (l.forwardTun codec devices packet).1 = (packet.isEmpty && l.state.peer.address.isSome) ∧
      (l.forwardTun codec devices packet).2.Sized codec := by
  unfold ServerLoop.forwardTun ServerState.classifyTun
  by_cases large : l.state.innerMtu < packet.length
  · rw [if_pos large]
    have full : packet ≠ [] := List.length_pos_iff.mp (Nat.zero_lt_of_lt large)
    exact ⟨by simp [encodeStops, full], sized⟩
  · rw [if_neg large]
    have small : packet.length ≤ codec.mtu := sized.1 ▸ Nat.le_of_not_lt large
    cases active : l.state.peer.address with
    | none => exact ⟨by simp [encodeStops], sized⟩
    | some peer =>
      obtain ⟨stops, kept⟩ := transmitStops small sized.2 devices peer
      simp only [Option.isSome_some, Bool.and_true]
      revert stops kept
      rcases transmit codec devices peer packet l.encodedBuffer with ⟨_ | _, buffer⟩
      · exact fun stops kept => ⟨stops, sized.1, kept⟩
      · exact fun stops kept => ⟨stops, sized.1, kept⟩

theorem serverUdpStep {codec : FrameCodec} {l : ServerLoop} (sized : l.Sized codec) (devices : Devices) (datagram : Bytes)
    (peer : SocketAddr) :
    encodeStops (l.forwardUdp codec devices datagram peer).1 = false ∧
      (l.forwardUdp codec devices datagram peer).2.Sized codec := by
  have kept := classifyUdpFrameMtu codec datagram peer l.state
  unfold ServerLoop.forwardUdp
  revert kept
  rcases l.state.classifyUdpFrame codec datagram peer with ⟨decision, state⟩
  intro kept
  have next : state.innerMtu = codec.mtu := kept.trans sized.1
  cases decision with
  | forwardToTun payload registered =>
    simp only
    cases devices.inject payload with
    | error e => exact ⟨rfl, next, sized.2⟩
    | ok done => exact ⟨rfl, next, sized.2⟩
  | _ => exact ⟨rfl, next, sized.2⟩

theorem serverStep {codec : FrameCodec} {l : ServerLoop} (sized : l.Sized codec) (i : Ready × Devices) :
    encodeStops (l.step codec i).1 = (emptyPacket i.1 && l.state.peer.address.isSome) ∧
      (l.step codec i).2.Sized codec := by
  obtain ⟨ready, devices⟩ := i
  match ready with
  | .tun (.error e) => exact ⟨rfl, sized⟩
  | .tun (.ok []) => exact serverTunStep sized devices []
  | .tun (.ok (b :: rest)) => exact serverTunStep sized devices (b :: rest)
  | .udp (.error e) => exact ⟨rfl, sized⟩
  | .udp (.ok (datagram, peer)) => exact serverUdpStep sized devices datagram peer

/- A run ends in an encoder's error exactly at the input, if any, whose step does. -/
theorem forwardStops {σ : Type} {step : σ → Ready × Devices → Except StopCause Unit × σ} {Inv : σ → Prop}
    (refuses : σ → Ready → Bool) (stops : ∀ s i, Inv s → encodeStops (step s i).1 = refuses s i.1)
    (kept : ∀ s i, Inv s → Inv (step s i).2) {s : σ} (start : Inv s) (inputs : List (Ready × Devices)) :
    encodeStops (forward step s inputs).1 = false ↔ ∀ before i after t, inputs = before ++ i :: after →
      forward step s before = (.ok (), t) → refuses t i.1 = false := by
  induction inputs generalizing s with
  | nil =>
    refine ⟨fun _ before i after t split _ => ?_, fun _ => rfl⟩
    simp at split
  | cons i rest ih =>
    have next := kept s i start
    have now := stops s i start
    simp only [forward]
    rcases outcome : step s i with ⟨cause | _, t⟩
    · rw [outcome] at now
      constructor
      · rintro quiet (_ | ⟨j, before⟩) k after u split reached
        · cases split
          cases reached
          exact now.symm.trans quiet
        · cases split
          rw [forward, outcome] at reached
          cases reached
      · exact fun meets => now.trans (meets [] i rest s rfl rfl)
    · rw [outcome] at now next
      rw [ih next]
      constructor
      · rintro meets (_ | ⟨j, before⟩) k after u split reached
        · cases split
          cases reached
          exact now.symm
        · cases split
          rw [forward, outcome] at reached
          exact meets before k after u rfl reached
      · intro meets before k after u split reached
        refine meets (i :: before) k after u (congrArg (i :: ·) split) ?_
        rw [forward, outcome]
        exact reached

theorem clientStartSized (codec : FrameCodec) : (ClientLoop.start codec).Sized codec := ⟨rfl, List.length_replicate⟩
theorem serverStartSized (codec : FrameCodec) : (ServerLoop.start codec).Sized codec := ⟨rfl, List.length_replicate⟩

theorem clientForwards (codec : FrameCodec) (server : SocketAddr) (inputs : List (Ready × Devices)) :
    encodeStops (forward (ClientLoop.step codec server) (.start codec) inputs).1 = false ↔
      ∀ before i after l, inputs = before ++ i :: after →
        forward (ClientLoop.step codec server) (.start codec) before = (.ok (), l) → emptyPacket i.1 = false := by
  have stops (l : ClientLoop) (i : Ready × Devices) (sized : l.Sized codec) :
      encodeStops (l.step codec server i).1 = emptyPacket i.1 := (clientStep sized server i).1
  have kept (l : ClientLoop) (i : Ready × Devices) (sized : l.Sized codec) : (l.step codec server i).2.Sized codec :=
    (clientStep sized server i).2
  exact forwardStops (fun _ ready => emptyPacket ready) stops kept (clientStartSized codec) inputs

theorem serverForwards (codec : FrameCodec) (inputs : List (Ready × Devices)) :
    encodeStops (forward (ServerLoop.step codec) (.start codec) inputs).1 = false ↔
      ∀ before i after l, inputs = before ++ i :: after →
        forward (ServerLoop.step codec) (.start codec) before = (.ok (), l) →
          (emptyPacket i.1 && l.state.peer.address.isSome) = false := by
  have stops (l : ServerLoop) (i : Ready × Devices) (sized : l.Sized codec) : encodeStops (l.step codec i).1 =
      (emptyPacket i.1 && l.state.peer.address.isSome) := (serverStep sized i).1
  have kept (l : ServerLoop) (i : Ready × Devices) (sized : l.Sized codec) : (l.step codec i).2.Sized codec :=
    (serverStep sized i).2
  exact forwardStops (fun l ready => emptyPacket ready && l.state.peer.address.isSome) stops kept (serverStartSized codec) inputs

theorem clientPacketEncodes {codec : FrameCodec} {s : ClientState} {packet buffer : Bytes} (limit : s.innerMtu = codec.mtu)
    (sized : buffer.length = codec.maximumDatagramLen) :
    ((s.classifyTun packet.length).1 = .forward → ∃ size, (codec.encodeData packet buffer).1 = .ok size) ↔ packet ≠ [] := by
  rw [clientClassifies, limit]
  constructor
  · rintro encodes rfl
    obtain ⟨size, done⟩ := encodes (Nat.zero_le codec.mtu)
    exact (encodesIff (Nat.zero_le _) sized).mp ⟨size, done⟩ rfl
  · exact fun full small => (encodesIff small sized).mpr full

theorem serverPacketEncodes {codec : FrameCodec} {s : ServerState} {packet buffer : Bytes} (limit : s.innerMtu = codec.mtu)
    (sized : buffer.length = codec.maximumDatagramLen) :
    (∀ peer, (s.classifyTun packet.length).1 = .sendToPeer peer →
      ∃ size, (codec.encodeData packet buffer).1 = .ok size) ↔ packet ≠ [] ∨ s.peer.address = none := by
  simp only [serverClassifies, limit]
  constructor
  · intro encodes
    cases active : s.peer.address with
    | none => exact .inr rfl
    | some peer =>
      refine .inl ?_
      rintro rfl
      obtain ⟨size, done⟩ := encodes peer ⟨Nat.zero_le codec.mtu, active⟩
      exact (encodesIff (Nat.zero_le _) sized).mp ⟨size, done⟩ rfl
  · rintro (full | idle) peer ⟨small, active⟩
    · exact (encodesIff small sized).mpr full
    · rw [idle] at active
      cases active

theorem forwardedPacketsEncode {mtu : Nat} {codec : FrameCodec} (made : FrameCodec.new mtu = .ok codec) :
    (∀ (s : ClientState) (packet buffer : Bytes), s.innerMtu = mtu → packet.length ≤ mtu + 1 →
      buffer.length = codec.maximumDatagramLen →
      (((s.classifyTun packet.length).1 = .forward → ∃ size, (codec.encodeData packet buffer).1 = .ok size) ↔
        packet ≠ [])) ∧
    (∀ (s : ServerState) (packet buffer : Bytes), s.innerMtu = mtu → packet.length ≤ mtu + 1 →
      buffer.length = codec.maximumDatagramLen →
      ((∀ peer, (s.classifyTun packet.length).1 = .sendToPeer peer →
          ∃ size, (codec.encodeData packet buffer).1 = .ok size) ↔
        packet ≠ [] ∨ s.peer.address = none)) ∧
    (∀ (server : SocketAddr) (inputs : List (Ready × Devices)),
      encodeStops (forward (ClientLoop.step codec server) (.start codec) inputs).1 = false ↔
        ∀ before i after l, inputs = before ++ i :: after →
          forward (ClientLoop.step codec server) (.start codec) before = (.ok (), l) → emptyPacket i.1 = false) ∧
    (∀ inputs : List (Ready × Devices),
      encodeStops (forward (ServerLoop.step codec) (.start codec) inputs).1 = false ↔
        ∀ before i after l, inputs = before ++ i :: after →
          forward (ServerLoop.step codec) (.start codec) before = (.ok (), l) →
            (emptyPacket i.1 && l.state.peer.address.isSome) = false) := by
  have same : codec.mtu = mtu := newMtu made
  exact ⟨fun s packet buffer limit _ sized => clientPacketEncodes (limit.trans same.symm) sized,
    fun s packet buffer limit _ sized => serverPacketEncodes (limit.trans same.symm) sized, clientForwards codec,
    serverForwards codec⟩

theorem forwardedPacketsEncodeSmall : ∃ codec, FrameCodec.new 4 = .ok codec ∧
    ((ClientState.new 4 14).classifyTun 1).1 = .forward ∧
      ∃ size, (codec.encodeData [69] (.replicate codec.maximumDatagramLen 0)).1 = .ok size := by
  obtain ⟨codec, made⟩ : ∃ codec, FrameCodec.new 4 = .ok codec := ⟨_, rfl⟩
  refine ⟨codec, made, by decide, ?_⟩
  exact ((forwardedPacketsEncode made).1 (.new 4 14) [69] _ rfl (by decide) List.length_replicate).mpr
    (List.cons_ne_nil 69 []) (by decide)

/- An empty read is classified as a packet to send, and ends both loops in the error of
the encoder. The loop of the data plane drops such a read before it seals. -/
theorem emptyPacketStops : ∃ codec, FrameCodec.new 4 = .ok codec ∧
    ((ClientState.new 4 14).classifyTun 0).1 = .forward ∧
    (codec.encodeData [] (.replicate codec.maximumDatagramLen 0)).1 = .error .emptyPayload ∧
    (let devices : Devices := ⟨fun datagram => .ok datagram.length, fun _ => .ok ()⟩
     let hello := FrameCodec.frameBytes [69]
     encodeStops (forward (ClientLoop.step codec (.v4 1 7)) (.start codec) [(.tun (.ok []), devices)]).1 = true ∧
     encodeStops (forward (ServerLoop.step codec) (.start codec)
       [(.udp (.ok (hello, .v4 2 7)), devices), (.tun (.ok []), devices)]).1 = true) := by
  refine ⟨_, rfl, ?_, ?_, ?_⟩ <;> decide

end Crabnet.LegacyForwarding
