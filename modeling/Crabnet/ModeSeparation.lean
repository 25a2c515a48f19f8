import Crabnet.LegacyForwarding
import Crabnet.NoiseEndpoint

/-! The two security modes on one network. A legacy loop speaks version 1 and a Noise-IK
endpoint version 2, and what leaves either of them is what would leave it without any
datagram of another version: endpoints of different modes never exchange a packet. -/
namespace Crabnet.ModeSeparation
open MachineWord SessionTypes Fallible NetworkTypes SnowBoundary NoiseRuntime PlainFrame LegacyForwarding NoiseEndpoint
open LegacyServer (SinglePeer ServerState ServerStats)

def offered (codec : FrameCodec) (peer : SocketAddr) (packet buffer : Bytes) : List Output :=
  match codec.encodeData packet buffer with
  | (.ok encodedSize, buffer) => [.sendTo peer (buffer.take encodedSize)]
  | (.error _, _) => []

def clientAsks (codec : FrameCodec) (server : SocketAddr) (l : ClientLoop) : Ready → List Output
  | .tun (.ok packet) =>
    match (l.state.classifyTun packet.length).1 with
    | .forward => offered codec server packet l.encodedBuffer
    | .dropOversized => []
  | .udp (.ok (datagram, _)) =>
    match (l.state.classifyUdpFrame datagram.length).1, codec.decode datagram with
    | .forward, .ok ⟨.data, payload⟩ => [.tunWrite payload]
    | _, _ => []
  | .tun (.error _) | .udp (.error _) => []

def serverAsks (codec : FrameCodec) (l : ServerLoop) : Ready → List Output
  | .tun (.ok packet) =>
    match (l.state.classifyTun packet.length).1 with
    | .sendToPeer peer => offered codec peer packet l.encodedBuffer
    | .dropOversized | .dropNoPeer => []
  | .udp (.ok (datagram, peer)) =>
    match (l.state.classifyUdpFrame codec datagram peer).1 with
    | .forwardToTun payload _ => [.tunWrite payload]
    | _ => []
  | .tun (.error _) | .udp (.error _) => []

structure AgreeOn (asks : List Output) (d d' : Devices) : Prop where
  send : ∀ peer frame, .sendTo peer frame ∈ asks → d.send frame = d'.send frame
  inject : ∀ packet, .tunWrite packet ∈ asks → d.inject packet = d'.inject packet

theorem transmitAsks {codec : FrameCodec} {d d' : Devices} {peer : SocketAddr} {packet buffer : Bytes}
    (agree : AgreeOn (offered codec peer packet buffer) d d') :
    transmit codec d peer packet buffer = transmit codec d' peer packet buffer := by
  unfold offered at agree
  unfold transmit
  split
  · rfl
  · rename_i encodedSize out written
    rw [written] at agree
    rw [agree.send peer _ List.mem_cons_self]

theorem clientAsked {codec : FrameCodec} {server : SocketAddr} {l : ClientLoop} {ready : Ready} {d d' : Devices}
    (agree : AgreeOn (clientAsks codec server l ready) d d') :
    l.step codec server (ready, d) = l.step codec server (ready, d') := by
  cases ready with
  | tun read =>
    cases read with
    | error e => rfl
    | ok packet =>
      simp only [ClientLoop.step, ClientLoop.forwardTun, clientAsks] at agree ⊢
      split
      · rfl
      · rename_i state classified
        rw [classified] at agree
        rw [transmitAsks agree]
  | udp received =>
    cases received with
    | error e => rfl
    | ok pair =>
      obtain ⟨datagram, source⟩ := pair
      simp only [ClientLoop.step, ClientLoop.forwardUdp, clientAsks] at agree ⊢
      split
      · rfl
      · rename_i state classified
        rw [classified] at agree
        cases decoded : codec.decode datagram with
        | error e => rfl
        | ok frame =>
          obtain ⟨kind, payload⟩ := frame
          cases kind <;> try rfl
          simp only [decoded] at agree
          simp only [agree.inject payload List.mem_cons_self]

theorem serverAsked {codec : FrameCodec} {l : ServerLoop} {ready : Ready} {d d' : Devices}
    (agree : AgreeOn (serverAsks codec l ready) d d') : l.step codec (ready, d) = l.step codec (ready, d') := by
  cases ready with
  | tun read =>
    cases read with
    | error e => rfl
    | ok packet =>
      simp only [ServerLoop.step, ServerLoop.forwardTun, serverAsks] at agree ⊢
      split
      · rfl
      · rfl
      · rename_i peer state classified
        rw [classified] at agree
        rw [transmitAsks agree]
  | udp received =>
    cases received with
    | error e => rfl
    | ok pair =>
      obtain ⟨datagram, source⟩ := pair
      simp only [ServerLoop.step, ServerLoop.forwardUdp, serverAsks] at agree ⊢
      split
      · rename_i payload registered state classified
        rw [classified] at agree
        rw [agree.inject payload List.mem_cons_self]
      · rfl

def turn {σ : Type} (asks : σ → Ready → List Output) (step : σ → Ready × Devices → Except StopCause Unit × σ) :
    Except StopCause Unit × σ → Ready × Devices → List Output × (Except StopCause Unit × σ)
  | (.error cause, l), _ => ([], (.error cause, l))
  | (.ok (), l), i => (asks l i.1, step l i)

theorem turnForwards {σ : Type} (asks : σ → Ready → List Output) (step : σ → Ready × Devices → Except StopCause Unit × σ)
    (l : σ) (inputs : List (Ready × Devices)) : (run (turn asks step) (.ok (), l) inputs).2 = forward step l inputs := by
  have ended (cause : StopCause) (l : σ) (inputs : List (Ready × Devices)) :
      (run (turn asks step) (.error cause, l) inputs).2 = (.error cause, l) := by
    induction inputs with
    | nil => rfl
    | cons i rest ih => exact ih
  induction inputs generalizing l with
  | nil => rfl
  | cons i rest ih =>
    simp only [run, turn, forward]
    rcases step l i with ⟨cause | _, next⟩
    · exact ended cause next rest
    · exact ih next

structure Asking {σ : Type} (asks : σ → Ready → List Output) (step : σ → Ready × Devices → Except StopCause Unit × σ) :
    Prop where
  forwards : ∀ l inputs, (run (turn asks step) (.ok (), l) inputs).2 = forward step l inputs
  asked : ∀ l ready d d', AgreeOn (asks l ready) d d' → step l (ready, d) = step l (ready, d')

def isForeign : Ready × Devices → Bool
  | (.udp (.ok (datagram, _)), _) => version datagram != ProtocolVersion.v1.wireValue
  | _ => false

theorem unread {codec : FrameCodec} {datagram : Bytes} (foreign : version datagram ≠ ProtocolVersion.v1.wireValue) :
    ∃ e, codec.decode datagram = .error e := by
  cases decoded : codec.decode datagram with
  | error e => exact ⟨e, rfl⟩
  | ok frame =>
    have reads : version datagram = ProtocolVersion.v1.wireValue := plainReads decoded
    exact absurd reads foreign

def bareState (s : ClientState) : ClientState := {s with stats := .default}

def bareClient (l : ClientLoop) : ClientLoop := {l with state := bareState l.state}

theorem tunBare (s : ClientState) (size : Nat) :
    (s.classifyTun size).1 = ((bareState s).classifyTun size).1 ∧ bareState (s.classifyTun size).2 = bareState s ∧
      bareState ((bareState s).classifyTun size).2 = bareState s := by
  by_cases large : s.innerMtu < size
  · have here : s.classifyTun size = (.dropOversized, _) := if_pos large
    have bare : (bareState s).classifyTun size = (.dropOversized, _) := if_pos large
    rw [here, bare]
    exact ⟨rfl, rfl, rfl⟩
  · have here : s.classifyTun size = (.forward, s) := if_neg large
    have bare : (bareState s).classifyTun size = (.forward, bareState s) := if_neg large
    rw [here, bare]
    exact ⟨rfl, rfl, rfl⟩

theorem udpBare (s : ClientState) (size : Nat) :
    (s.classifyUdpFrame size).1 = ((bareState s).classifyUdpFrame size).1 ∧
      bareState (s.classifyUdpFrame size).2 = bareState s ∧
      bareState ((bareState s).classifyUdpFrame size).2 = bareState s := by
  by_cases large : s.maximumFrameLen < size
  · have here : s.classifyUdpFrame size = (.dropOversized, _) := if_pos large
    have bare : (bareState s).classifyUdpFrame size = (.dropOversized, _) := if_pos large
    rw [here, bare]
    exact ⟨rfl, rfl, rfl⟩
  · have here : s.classifyUdpFrame size = (.forward, s) := if_neg large
    have bare : (bareState s).classifyUdpFrame size = (.forward, bareState s) := if_neg large
    rw [here, bare]
    exact ⟨rfl, rfl, rfl⟩

theorem clientBare (codec : FrameCodec) (server : SocketAddr) (l : ClientLoop) (i : Ready × Devices) :
    clientAsks codec server l i.1 = clientAsks codec server (bareClient l) i.1 ∧
      (l.step codec server i).1 = ((bareClient l).step codec server i).1 ∧
      bareClient (l.step codec server i).2 = bareClient ((bareClient l).step codec server i).2 := by
  obtain ⟨s, buffer⟩ := l
  obtain ⟨ready, devices⟩ := i
  cases ready with
  | tun read =>
    cases read with
    | error e => exact ⟨rfl, rfl, rfl⟩
    | ok packet =>
      obtain ⟨decisions, kept, bare⟩ := tunBare s packet.length
      simp only [clientAsks, ClientLoop.step, ClientLoop.forwardTun, bareClient]
      generalize s.classifyTun packet.length = first at decisions kept ⊢
      generalize (bareState s).classifyTun packet.length = second at decisions bare ⊢
      obtain ⟨decision, t⟩ := first
      obtain ⟨decision', t'⟩ := second
      obtain rfl : decision = decision' := decisions
      have same : bareState t = bareState t' := kept.trans bare.symm
      cases decision with
      | dropOversized => exact ⟨rfl, rfl, by simp only [same]⟩
      | forward =>
        dsimp only
        rcases transmit codec devices server packet buffer with ⟨cause | _, out⟩
        · exact ⟨rfl, rfl, by simp only [same]⟩
        · refine ⟨rfl, rfl, ?_⟩
          have counted : bareState (t.recordTunToUdp packet.length) = bareState (t'.recordTunToUdp packet.length) := same
          simp only [counted]
  | udp received =>
    cases received with
    | error e => exact ⟨rfl, rfl, rfl⟩
    | ok pair =>
      obtain ⟨datagram, source⟩ := pair
      obtain ⟨decisions, kept, bare⟩ := udpBare s datagram.length
      simp only [clientAsks, ClientLoop.step, ClientLoop.forwardUdp, bareClient]
      generalize s.classifyUdpFrame datagram.length = first at decisions kept ⊢
      generalize (bareState s).classifyUdpFrame datagram.length = second at decisions bare ⊢
      obtain ⟨decision, t⟩ := first
      obtain ⟨decision', t'⟩ := second
      obtain rfl : decision = decision' := decisions
      have same : bareState t = bareState t' := kept.trans bare.symm
      have dropped : bareState t.recordInvalidUdpFrame = bareState t'.recordInvalidUdpFrame := same
      cases decision with
      | dropOversized => exact ⟨rfl, rfl, by simp only [same]⟩
      | forward =>
        dsimp only
        rcases codec.decode datagram with e | ⟨kind, payload⟩
        · exact ⟨rfl, rfl, by simp only [dropped]⟩
        · cases kind <;> dsimp only
          case data =>
            have counted : bareState (t.recordUdpToTun payload.length) = bareState (t'.recordUdpToTun payload.length) := same
            cases devices.inject payload with
            | error e => exact ⟨rfl, rfl, by simp only [same]⟩
            | ok written => exact ⟨rfl, rfl, by simp only [counted]⟩
          all_goals exact ⟨rfl, rfl, by simp only [dropped]⟩

def bareServerState (s : ServerState) : ServerState := {s with stats := .default}

def bareServer (l : ServerLoop) : ServerLoop := {l with state := bareServerState l.state}

theorem serverTunBare (s : ServerState) (size : Nat) :
    (s.classifyTun size).1 = ((bareServerState s).classifyTun size).1 ∧
      bareServerState (s.classifyTun size).2 = bareServerState ((bareServerState s).classifyTun size).2 := by
  by_cases large : s.innerMtu < size
  · have here : s.classifyTun size = (.dropOversized, _) := if_pos large
    have bare : (bareServerState s).classifyTun size = (.dropOversized, _) := if_pos large
    rw [here, bare]
    exact ⟨rfl, rfl⟩
  · obtain ⟨innerMtu, ⟨address⟩, stats⟩ := s
    unfold ServerState.classifyTun bareServerState
    rw [if_neg large, if_neg large]
    cases address <;> exact ⟨rfl, rfl⟩

theorem acceptBare (s : ServerState) (payload : Bytes) (source : SocketAddr) :
    (s.acceptFrame payload source).1 = ((bareServerState s).acceptFrame payload source).1 ∧
      bareServerState (s.acceptFrame payload source).2 = bareServerState ((bareServerState s).acceptFrame payload source).2 := by
  obtain ⟨innerMtu, peer, stats⟩ := s
  simp only [ServerState.acceptFrame, bareServerState]
  rcases peer.observe source with ⟨decision, next⟩
  cases decision <;> exact ⟨rfl, rfl⟩

theorem serverUdpBare (codec : FrameCodec) (s : ServerState) (datagram : Bytes) (source : SocketAddr) :
    (s.classifyUdpFrame codec datagram source).1 = ((bareServerState s).classifyUdpFrame codec datagram source).1 ∧
      bareServerState (s.classifyUdpFrame codec datagram source).2 =
        bareServerState ((bareServerState s).classifyUdpFrame codec datagram source).2 := by
  obtain ⟨innerMtu, peer, stats⟩ := s
  unfold ServerState.classifyUdpFrame bareServerState
  by_cases other : peer.address.any (fun active => active ≠ source) = true
  · rw [if_pos other, if_pos other]
    exact ⟨rfl, rfl⟩
  · rw [if_neg other, if_neg other]
    by_cases empty : datagram = []
    · rw [if_pos empty, if_pos empty]
      exact ⟨rfl, rfl⟩
    · rw [if_neg empty, if_neg empty]
      by_cases large : codec.maximumDatagramLen < datagram.length
      · rw [if_pos large, if_pos large]
        exact ⟨rfl, rfl⟩
      · rw [if_neg large, if_neg large]
        rcases codec.decode datagram with e | ⟨kind, payload⟩
        · exact ⟨rfl, rfl⟩
        · cases kind with
          | data => exact acceptBare ⟨innerMtu, peer, stats⟩ payload source
          | clientHello | serverHello | clientFinish | serverFinish => exact ⟨rfl, rfl⟩

theorem serverBare (codec : FrameCodec) (l : ServerLoop) (i : Ready × Devices) :
    serverAsks codec l i.1 = serverAsks codec (bareServer l) i.1 ∧
      (l.step codec i).1 = ((bareServer l).step codec i).1 ∧
      bareServer (l.step codec i).2 = bareServer ((bareServer l).step codec i).2 := by
  obtain ⟨s, buffer⟩ := l
  obtain ⟨ready, devices⟩ := i
  cases ready with
  | tun read =>
    cases read with
    | error e => exact ⟨rfl, rfl, rfl⟩
    | ok packet =>
      obtain ⟨decisions, same⟩ := serverTunBare s packet.length
      simp only [serverAsks, ServerLoop.step, ServerLoop.forwardTun, bareServer]
      generalize s.classifyTun packet.length = first at decisions same ⊢
      generalize (bareServerState s).classifyTun packet.length = second at decisions same ⊢
      obtain ⟨decision, t⟩ := first
      obtain ⟨decision', t'⟩ := second
      obtain rfl : decision = decision' := decisions
      have kept : bareServerState t = bareServerState t' := same
      cases decision with
      | dropOversized => exact ⟨rfl, rfl, by simp only [kept]⟩
      | dropNoPeer => exact ⟨rfl, rfl, by simp only [kept]⟩
      | sendToPeer peer =>
        dsimp only
        rcases transmit codec devices peer packet buffer with ⟨cause | _, out⟩
        · exact ⟨rfl, rfl, by simp only [kept]⟩
        · have counted : bareServerState (t.recordTunToUdp packet.length) =
              bareServerState (t'.recordTunToUdp packet.length) := kept
          exact ⟨rfl, rfl, by simp only [counted]⟩
  | udp received =>
    cases received with
    | error e => exact ⟨rfl, rfl, rfl⟩
    | ok pair =>
      obtain ⟨datagram, source⟩ := pair
      obtain ⟨decisions, same⟩ := serverUdpBare codec s datagram source
      simp only [serverAsks, ServerLoop.step, ServerLoop.forwardUdp, bareServer]
      generalize s.classifyUdpFrame codec datagram source = first at decisions same ⊢
      generalize (bareServerState s).classifyUdpFrame codec datagram source = second at decisions same ⊢
      obtain ⟨decision, t⟩ := first
      obtain ⟨decision', t'⟩ := second
      obtain rfl : decision = decision' := decisions
      have kept : bareServerState t = bareServerState t' := same
      cases decision with
      | forwardToTun payload registered =>
        have counted : bareServerState (t.recordUdpToTun payload.length) =
            bareServerState (t'.recordUdpToTun payload.length) := kept
        dsimp only
        cases devices.inject payload with
        | error e => exact ⟨rfl, rfl, by simp only [kept]⟩
        | ok written => exact ⟨rfl, rfl, by simp only [counted]⟩
      | dropUnexpectedPeer | dropEmpty | dropOversized | dropInvalid => exact ⟨rfl, rfl, by simp only [kept]⟩

theorem clientDeafTo (codec : FrameCodec) (server : SocketAddr) (l : ClientLoop) (i : Ready × Devices)
    (foreign : isForeign i = true) : clientAsks codec server l i.1 = [] ∧ (l.step codec server i).1 = .ok () ∧
      bareClient (l.step codec server i).2 = bareClient l := by
  obtain ⟨s, buffer⟩ := l
  obtain ⟨ready, devices⟩ := i
  cases ready with
  | tun read => contradiction
  | udp received =>
    cases received with
    | error e => contradiction
    | ok pair =>
      obtain ⟨datagram, source⟩ := pair
      obtain ⟨e, failed⟩ := @unread codec datagram (bne_iff_ne.mp foreign)
      have kept := (udpBare s datagram.length).2.1
      simp only [clientAsks, ClientLoop.step, ClientLoop.forwardUdp, bareClient, failed]
      generalize s.classifyUdpFrame datagram.length = classified at kept ⊢
      obtain ⟨decision, t⟩ := classified
      have same : bareState t = bareState s := kept
      have dropped : bareState t.recordInvalidUdpFrame = bareState s := same
      cases decision with
      | dropOversized => exact ⟨rfl, rfl, by simp only [same]⟩
      | forward => exact ⟨rfl, rfl, by simp only [dropped]⟩

theorem serverDeafTo (codec : FrameCodec) (l : ServerLoop) (i : Ready × Devices) (foreign : isForeign i = true) :
    serverAsks codec l i.1 = [] ∧ (l.step codec i).1 = .ok () ∧ bareServer (l.step codec i).2 = bareServer l := by
  obtain ⟨s, buffer⟩ := l
  obtain ⟨ready, devices⟩ := i
  cases ready with
  | tun read => contradiction
  | udp received =>
    cases received with
    | error e => contradiction
    | ok pair =>
      obtain ⟨datagram, source⟩ := pair
      obtain ⟨e, failed⟩ := @unread codec datagram (bne_iff_ne.mp foreign)
      have classified := LegacyServer.classifyClassified codec datagram source s
      have mtu := LegacyServer.classifyUdpFrameMtu codec datagram source s
      simp only [serverAsks, ServerLoop.step, ServerLoop.forwardUdp, bareServer]
      generalize s.classifyUdpFrame codec datagram source = answer at classified mtu ⊢
      cases classified with
      | forwarded frame decoded known =>
        rw [failed] at decoded
        contradiction
      | dropped decision t silent peer once cause =>
        have same : bareServerState t = bareServerState s := by
          simp only [bareServerState, peer, ServerState.mk.injEq, and_self, and_true]
          exact mtu
        cases decision with
        | forwardToTun payload registered => exact absurd rfl (silent payload registered)
        | dropUnexpectedPeer | dropEmpty | dropOversized | dropInvalid => exact ⟨rfl, rfl, by simp only [same]⟩

theorem offeredV1 {codec : FrameCodec} {peer : SocketAddr} {packet buffer : Bytes} :
    ∀ o ∈ offered codec peer packet buffer, o.speaks .v1 := by
  intro o member
  unfold offered at member
  split at member
  · rename_i encodedSize out written
    obtain ⟨positive, small, room⟩ := encodeAccepted written
    cases (encodeWrites positive small room).symm.trans written
    rw [List.mem_singleton.mp member, frameSplit]
    have fits := Nat.lt_of_le_of_lt small codec.mtuFits
    exact headerVersion fits ProtocolVersion.v1.wireValue MessageType.data.wireValue packet _ (by omega)
  · exact absurd member List.not_mem_nil

theorem clientV1 (codec : FrameCodec) (server : SocketAddr) (l : ClientLoop) (ready : Ready) :
    ∀ o ∈ clientAsks codec server l ready, o.speaks .v1 := by
  intro o member
  unfold clientAsks at member
  split at member
  · split at member
    · exact offeredV1 o member
    · exact absurd member List.not_mem_nil
  · split at member
    · rw [List.mem_singleton.mp member]
      trivial
    · exact absurd member List.not_mem_nil
  · exact absurd member List.not_mem_nil
  · exact absurd member List.not_mem_nil

theorem serverV1 (codec : FrameCodec) (l : ServerLoop) (ready : Ready) : ∀ o ∈ serverAsks codec l ready, o.speaks .v1 := by
  intro o member
  unfold serverAsks at member
  split at member
  · split at member
    · exact offeredV1 o member
    · exact absurd member List.not_mem_nil
    · exact absurd member List.not_mem_nil
  · split at member
    · rw [List.mem_singleton.mp member]
      trivial
    · exact absurd member List.not_mem_nil
  · exact absurd member List.not_mem_nil
  · exact absurd member List.not_mem_nil

-- What left, all of it of one version, is what would have left without the other versions.
structure Separate (v : ProtocolVersion) (all own : List Output) : Prop where
  speaks : ∀ o ∈ all, o.speaks v
  same : all = own

section
variable {σ : Type} {asks : σ → Ready → List Output} {step : σ → Ready × Devices → Except StopCause Unit × σ} {bare : σ → σ}

theorem turnsApart
    (alike : ∀ l i, asks l i.1 = asks (bare l) i.1 ∧ (step l i).1 = (step (bare l) i).1 ∧
      bare (step l i).2 = bare (step (bare l) i).2)
    (deaf : ∀ l i, isForeign i = true → asks l i.1 = [] ∧ (step l i).1 = .ok () ∧ bare (step l i).2 = bare l)
    (speaks : ∀ l ready, ∀ o ∈ asks l ready, o.speaks .v1) (l : σ) (inputs : List (Ready × Devices)) :
    let all := run (turn asks step) (.ok (), l) inputs
    let own := run (turn asks step) (.ok (), l) (inputs.filter fun i => !isForeign i)
    Separate .v1 all.1.flatten own.1.flatten ∧ all.2.1 = own.2.1 ∧ bare all.2.2 = bare own.2.2 := by
  intro all own
  have quiet (s : Except StopCause Unit × σ) (i) (foreign : isForeign i = true) :
      (turn asks step s i).1 = [] ∧ (turn asks step s i).2.1 = s.1 ∧ bare (turn asks step s i).2.2 = bare s.2 := by
    obtain ⟨_ | _, l⟩ := s
    · exact ⟨rfl, rfl, rfl⟩
    · exact deaf l i foreign
  have steady (s t : Except StopCause Unit × σ) (i) (outcome : s.1 = t.1) (same : bare s.2 = bare t.2) :
      (turn asks step s i).1 = (turn asks step t i).1 ∧ (turn asks step s i).2.1 = (turn asks step t i).2.1 ∧
        bare (turn asks step s i).2.2 = bare (turn asks step t i).2.2 := by
    obtain ⟨here, l⟩ := s
    obtain ⟨there, k⟩ := t
    cases outcome
    cases here with
    | error cause => exact ⟨rfl, rfl, same⟩
    | ok done =>
      have first := alike l i
      have second := alike k i
      have equal : bare l = bare k := same
      rw [equal] at first
      exact ⟨first.1.trans second.1.symm, first.2.1.trans second.2.1.symm, first.2.2.trans second.2.2.symm⟩
  obtain ⟨outputs, outcome, kept⟩ := @runWithout _ _ _ (turn asks step) isForeign
    (fun _ s t => s.1 = t.1 ∧ bare s.2 = bare t.2)
    (fun s t i rest foreign before => by
      obtain ⟨silent, outcome, kept⟩ := quiet s i foreign
      exact ⟨silent, outcome.trans before.1, kept.trans before.2⟩)
    (fun s t i rest _ before => steady s t i before.1 before.2) (.ok (), l) (.ok (), l) inputs ⟨rfl, rfl⟩
  refine ⟨⟨?_, outputs⟩, outcome, kept⟩
  intro o member
  obtain ⟨outputs, inside, here⟩ := List.mem_flatten.mp member
  have each := @runOutputs _ _ _ (turn asks step) (fun _ => True) (fun outputs => ∀ o ∈ outputs, o.speaks .v1)
    (fun _ _ _ => trivial) (fun s i _ => by
      obtain ⟨_ | _, l⟩ := s
      · exact fun o member => absurd member List.not_mem_nil
      · exact speaks l i.1) (.ok (), l) trivial inputs
  exact each outputs inside o here

end

theorem modesApart {S : Snow} (settings : Settings) {e : Endpoint S} (sound : Sound e) (inputs : List NoiseEndpoint.Input)
    (clocked : Clocked inputs) (codec : FrameCodec) (server : SocketAddr) (heard : List (Ready × Devices)) :
    Separate .v2 (run (NoiseEndpoint.step settings) e inputs).1.flatten
      (run (NoiseEndpoint.step settings) e (inputs.filter fun i => !i.isForeign)).1.flatten ∧
    Asking (clientAsks codec server) (ClientLoop.step codec server) ∧
    (let all := run (turn (clientAsks codec server) (ClientLoop.step codec server)) (.ok (), .start codec) heard
      let own := run (turn (clientAsks codec server) (ClientLoop.step codec server)) (.ok (), .start codec)
        (heard.filter fun i => !isForeign i)
      Separate .v1 all.1.flatten own.1.flatten ∧ all.2.1 = own.2.1) ∧
    Asking (serverAsks codec) (ServerLoop.step codec) ∧
    (let all := run (turn (serverAsks codec) (ServerLoop.step codec)) (.ok (), .start codec) heard
      let own := run (turn (serverAsks codec) (ServerLoop.step codec)) (.ok (), .start codec)
        (heard.filter fun i => !isForeign i)
      Separate .v1 all.1.flatten own.1.flatten ∧ all.2.1 = own.2.1 ∧ all.2.2.state.peer = own.2.2.state.peer) := by
  have noise := endpointApart settings sound inputs clocked
  have client := turnsApart (clientBare codec server) (clientDeafTo codec server) (clientV1 codec server)
    (ClientLoop.start codec) heard
  have legacy := turnsApart (serverBare codec) (serverDeafTo codec) (serverV1 codec) (ServerLoop.start codec) heard
  refine ⟨⟨noise.1, noise.2⟩, ⟨turnForwards _ _, fun _ _ _ _ => clientAsked⟩, ⟨client.1, client.2.1⟩,
    ⟨turnForwards _ _, fun _ _ _ _ => serverAsked⟩, legacy.1, legacy.2.1, ?_⟩
  exact congrArg (fun l => l.state.peer) legacy.2.2

/-! A handshake into which a packet of the other mode falls, and the hello of one before
a legacy client and a legacy server. -/
section Plain
open ServerRemoteInput SessionHandOff
open CoordinatorStability (plainServer plainEndpoint)

def plainNoise : Endpoint plainSnow := .server ⟨plainServer, .waiting⟩

def plainMixed : List NoiseEndpoint.Input :=
  .wake (.received (FrameCodec.frameBytes [69]) (plainEndpoint 1000) 1 none 1) :: plainWakes.map .wake

def plainDevices : Devices := ⟨fun frame => .ok frame.length, fun _ => .ok ()⟩

def plainHeard : List (Ready × Devices) :=
  [(.udp (.ok (plainDatagram .clientHello plainHello, plainEndpoint 1000)), plainDevices), (.tun (.ok [69]), plainDevices)]

def plainFraming : FrameCodec := (FrameCodec.new 1400).toOption.get rfl

theorem modesApartPlain :
    (run (NoiseEndpoint.step plainSettings) plainNoise plainMixed).1.flatten.length = 2 ∧
    (run (NoiseEndpoint.step plainSettings) plainNoise plainMixed).1.flatten =
      (run (NoiseEndpoint.step plainSettings) plainNoise (plainMixed.filter fun i => !i.isForeign)).1.flatten ∧
    (plainMixed.filter fun i => !i.isForeign).length = 3 ∧
    (run (turn (serverAsks plainFraming) (ServerLoop.step plainFraming)) (.ok (), .start plainFraming)
      plainHeard).2.2.state.peer = ⟨none⟩ := by
  have clocked : Clocked plainMixed := by simp [Clocked, plainMixed, plainWakes, before]
  have sound : Sound plainNoise := rfl
  obtain ⟨noise, _, _, _, legacy⟩ :=
    modesApart plainSettings sound plainMixed clocked plainFraming (plainEndpoint 2000) plainHeard
  refine ⟨by decide +kernel, noise.same, by decide +kernel, legacy.2.2.trans ?_⟩
  decide +kernel

end Plain
end Crabnet.ModeSeparation
