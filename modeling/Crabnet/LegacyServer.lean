import Crabnet.Fallible
import Crabnet.PlainFrame

/-! The single-peer server of the legacy mode (server.rs): the peer is whoever
first sends a complete version 1 frame, for the life of the process. -/
namespace Crabnet.LegacyServer
open MachineWord SessionTypes Fallible PlainFrame

structure SinglePeer where
  address : Option SocketAddr
  deriving DecidableEq

inductive PeerDecision where
  | registered | accepted | rejected
  deriving DecidableEq, Repr

def SinglePeer.observe (candidate : SocketAddr) (p : SinglePeer) : PeerDecision × SinglePeer :=
  match p.address with
  | none => (.registered, ⟨some candidate⟩)
  | some current => if current = candidate then (.accepted, p) else (.rejected, p)

structure ServerStats where
  udpToTunPackets : UInt64
  udpToTunBytes : UInt64
  tunToUdpPackets : UInt64
  tunToUdpBytes : UInt64
  droppedOversizedUdp : UInt64
  droppedOversizedTun : UInt64
  droppedEmptyUdp : UInt64
  droppedInvalidFrames : UInt64
  droppedUnexpectedPeer : UInt64
  droppedBeforePeerRegistration : UInt64
  deriving DecidableEq

def ServerStats.default : ServerStats := ⟨0, 0, 0, 0, 0, 0, 0, 0, 0, 0⟩

inductive UdpFrameDecision where
  | forwardToTun (payload : Bytes) (newlyRegistered : Bool)
  | dropEmpty
  | dropOversized
  | dropUnexpectedPeer
  | dropInvalid (error : DecodeError)
  deriving DecidableEq

inductive TunPacketDecision where
  | sendToPeer (peer : SocketAddr)
  | dropOversized
  | dropNoPeer
  deriving DecidableEq

structure ServerState where
  innerMtu : Nat
  peer : SinglePeer
  stats : ServerStats
  deriving DecidableEq

namespace ServerState

def new (innerMtu : Nat) : ServerState := ⟨innerMtu, ⟨none⟩, .default⟩

def dropUnexpectedPeer (s : ServerState) : UdpFrameDecision × ServerState :=
  (.dropUnexpectedPeer,
    {s with stats := {s.stats with droppedUnexpectedPeer := saturatingAdd s.stats.droppedUnexpectedPeer 1}})

def dropInvalid (error : DecodeError) (s : ServerState) : UdpFrameDecision × ServerState :=
  (.dropInvalid error,
    {s with stats := {s.stats with droppedInvalidFrames := saturatingAdd s.stats.droppedInvalidFrames 1}})

def acceptFrame (payload : Bytes) (candidate : SocketAddr) (s : ServerState) : UdpFrameDecision × ServerState :=
  match s.peer.observe candidate with
  | (.registered, peer) => (.forwardToTun payload true, {s with peer := peer})
  | (.accepted, peer) => (.forwardToTun payload false, {s with peer := peer})
  | (.rejected, peer) => dropUnexpectedPeer {s with peer := peer}

def classifyUdpFrame (codec : FrameCodec) (datagram : Bytes) (candidate : SocketAddr) (s : ServerState) :
    UdpFrameDecision × ServerState :=
  if s.peer.address.any (fun active => active ≠ candidate) then dropUnexpectedPeer s
  else if datagram = [] then
    (.dropEmpty, {s with stats := {s.stats with droppedEmptyUdp := saturatingAdd s.stats.droppedEmptyUdp 1}})
  else if codec.maximumDatagramLen < datagram.length then
    (.dropOversized, {s with stats := {s.stats with droppedOversizedUdp := saturatingAdd s.stats.droppedOversizedUdp 1}})
  else match codec.decode datagram with
    | .error error => dropInvalid error s
    | .ok decoded =>
      match decoded.messageType with
      | .data => acceptFrame decoded.payload candidate s
      | unsupported => dropInvalid (.unknownMessageType unsupported.wireValue) s

def classifyTun (size : Nat) (s : ServerState) : TunPacketDecision × ServerState :=
  if s.innerMtu < size then
    (.dropOversized, {s with stats := {s.stats with droppedOversizedTun := saturatingAdd s.stats.droppedOversizedTun 1}})
  else match s.peer.address with
    | some peer => (.sendToPeer peer, s)
    | none =>
      (.dropNoPeer, {s with stats := {s.stats with
        droppedBeforePeerRegistration := saturatingAdd s.stats.droppedBeforePeerRegistration 1}})

def recordUdpToTun (size : Nat) (s : ServerState) : ServerState :=
  {s with stats := {s.stats with
    udpToTunPackets := saturatingAdd s.stats.udpToTunPackets 1
    udpToTunBytes := saturatingAdd s.stats.udpToTunBytes (.ofNat size)}}

def recordTunToUdp (size : Nat) (s : ServerState) : ServerState :=
  {s with stats := {s.stats with
    tunToUdpPackets := saturatingAdd s.stats.tunToUdpPackets 1
    tunToUdpBytes := saturatingAdd s.stats.tunToUdpBytes (.ofNat size)}}

end ServerState

inductive Input where
  | udp (datagram : Bytes) (source : SocketAddr)
  | tun (size : Nat)
  | recordUdpToTun (size : Nat)
  | recordTunToUdp (size : Nat)

inductive Output where
  | udp (decision : UdpFrameDecision)
  | tun (decision : TunPacketDecision)
  | recorded

def step (codec : FrameCodec) (s : ServerState) : Input → Output × ServerState
  | .udp datagram source =>
    let answer := s.classifyUdpFrame codec datagram source
    (.udp answer.1, answer.2)
  | .tun size =>
    let answer := s.classifyTun size
    (.tun answer.1, answer.2)
  | .recordUdpToTun size => (.recorded, s.recordUdpToTun size)
  | .recordTunToUdp size => (.recorded, s.recordTunToUdp size)

def decodedSource (codec : FrameCodec) : Input → Option SocketAddr
  | .udp datagram source => if (codec.decode datagram).isOk then some source else none
  | _ => none

inductive DropCounter where
  | oversizedUdp | oversizedTun | emptyUdp | invalidFrames | unexpectedPeer | beforePeerRegistration
  deriving DecidableEq, Repr

def ServerStats.dropped (s : ServerStats) : DropCounter → UInt64
  | .oversizedUdp => s.droppedOversizedUdp
  | .oversizedTun => s.droppedOversizedTun
  | .emptyUdp => s.droppedEmptyUdp
  | .invalidFrames => s.droppedInvalidFrames
  | .unexpectedPeer => s.droppedUnexpectedPeer
  | .beforePeerRegistration => s.droppedBeforePeerRegistration

structure DropsOnce (before after : ServerStats) : Prop where
  counted : ∃ counter, ∀ other, after.dropped other =
    if other = counter then saturatingAdd (before.dropped other) 1 else before.dropped other
  udpToTun : after.udpToTunPackets = before.udpToTunPackets ∧ after.udpToTunBytes = before.udpToTunBytes
  tunToUdp : after.tunToUdpPackets = before.tunToUdpPackets ∧ after.tunToUdpBytes = before.tunToUdpBytes

inductive Classified (codec : FrameCodec) (datagram : Bytes) (source : SocketAddr) (s : ServerState) :
    UdpFrameDecision × ServerState → Prop
  | forwarded (frame : DecodedFrame) (decoded : codec.decode datagram = .ok frame)
      (known : s.peer.address = none ∨ s.peer.address = some source) :
      Classified codec datagram source s
        (.forwardToTun frame.payload s.peer.address.isNone, {s with peer := ⟨some source⟩})
  | dropped (decision t) (silent : ∀ payload registered, decision ≠ .forwardToTun payload registered)
      (peer : t.peer = s.peer) (once : DropsOnce s.stats t.stats)
      (cause : (∀ frame, codec.decode datagram ≠ .ok frame) ∨ ∃ active, s.peer.address = some active ∧ active ≠ source) :
      Classified codec datagram source s (decision, t)

-- The datagrams the two length filters stop are ones the codec refuses as well.
theorem decodeSize {codec : FrameCodec} {datagram frame} (ok : codec.decode datagram = .ok frame) :
    datagram ≠ [] ∧ datagram.length ≤ codec.maximumDatagramLen := by
  have form := decodeForm ok
  have size : datagram.length = frame.payload.length + 10 := by rw [form.image, frameLength]
  have maximum := codec.datagramIs
  have small := form.small
  simp only [headerLen] at maximum
  refine ⟨?_, by omega⟩
  rintro rfl
  simp at size

theorem dropUnexpectedOnce (s : ServerState) : DropsOnce s.stats s.dropUnexpectedPeer.2.stats := by
  refine ⟨⟨.unexpectedPeer, fun other => ?_⟩, ⟨rfl, rfl⟩, rfl, rfl⟩
  cases other <;> rfl

theorem dropInvalidOnce (error : DecodeError) (s : ServerState) : DropsOnce s.stats (s.dropInvalid error).2.stats := by
  refine ⟨⟨.invalidFrames, fun other => ?_⟩, ⟨rfl, rfl⟩, rfl, rfl⟩
  cases other <;> rfl

theorem classifyClassified (codec : FrameCodec) (datagram : Bytes) (source : SocketAddr) (s : ServerState) :
    Classified codec datagram source s (s.classifyUdpFrame codec datagram source) := by
  unfold ServerState.classifyUdpFrame
  split
  · rename_i other
    obtain ⟨active, held, differs⟩ := (Option.any_eq_true _ _).mp other
    exact .dropped _ _ nofun rfl (dropUnexpectedOnce s) (.inr ⟨active, held, by simpa using differs⟩)
  · rename_i peer
    have known : s.peer.address = none ∨ s.peer.address = some source := by
      cases held : s.peer.address with
      | none => exact .inl rfl
      | some active => exact .inr (by simpa [held] using peer)
    split
    · rename_i empty
      refine .dropped _ _ nofun rfl ⟨⟨.emptyUdp, fun other => ?_⟩, ⟨rfl, rfl⟩, rfl, rfl⟩ (.inl ?_)
      · cases other <;> rfl
      · intro frame ok
        exact (decodeSize ok).1 empty
    · split
      · rename_i long
        refine .dropped _ _ nofun rfl ⟨⟨.oversizedUdp, fun other => ?_⟩, ⟨rfl, rfl⟩, rfl, rfl⟩ (.inl ?_)
        · cases other <;> rfl
        · intro frame ok
          exact absurd (decodeSize ok).2 (Nat.not_le.mpr long)
      · cases decoded : codec.decode datagram with
        | error error =>
          refine .dropped _ _ nofun rfl (dropInvalidOnce error s) (.inl ?_)
          intro frame ok
          rw [decoded] at ok
          contradiction
        | ok frame =>
          have data := (decodeForm decoded).data
          have forwarded := Classified.forwarded frame decoded known
          simp only [data, ServerState.acceptFrame, SinglePeer.observe]
          rcases known with free | held
          · simpa [free] using forwarded
          · have same : s.peer = ⟨some source⟩ := by
              cases whole : s.peer with
              | mk address => rw [← held, whole]
            simpa [held, ← same] using forwarded

inductive TunClassified (size : Nat) (s : ServerState) : TunPacketDecision × ServerState → Prop
  | sent (peer) (small : size ≤ s.innerMtu) (active : s.peer.address = some peer) :
      TunClassified size s (.sendToPeer peer, s)
  | dropped (decision t) (silent : ∀ peer, decision ≠ .sendToPeer peer) (peer : t.peer = s.peer)
      (once : DropsOnce s.stats t.stats) : TunClassified size s (decision, t)

theorem classifyTunClassified (size : Nat) (s : ServerState) : TunClassified size s (s.classifyTun size) := by
  unfold ServerState.classifyTun
  split
  · refine .dropped _ _ nofun rfl ⟨⟨.oversizedTun, fun other => ?_⟩, ⟨rfl, rfl⟩, rfl, rfl⟩
    cases other <;> rfl
  · rename_i small
    cases active : s.peer.address with
    | some peer => exact .sent peer (Nat.le_of_not_lt small) active
    | none =>
      refine .dropped _ _ nofun rfl ⟨⟨.beforePeerRegistration, fun other => ?_⟩, ⟨rfl, rfl⟩, rfl, rfl⟩
      cases other <;> rfl

def registers : Output → Bool
  | .udp (.forwardToTun _ registered) => registered
  | _ => false

theorem classifyTunMtu (size : Nat) (s : ServerState) : (s.classifyTun size).2.innerMtu = s.innerMtu := by
  unfold ServerState.classifyTun
  split
  · rfl
  · split <;> rfl

theorem classifyUdpFrameMtu (codec : FrameCodec) (datagram : Bytes) (source : SocketAddr) (s : ServerState) :
    (s.classifyUdpFrame codec datagram source).2.innerMtu = s.innerMtu := by
  unfold ServerState.classifyUdpFrame ServerState.acceptFrame
  repeat' split
  all_goals rfl

theorem classifiedPeer {codec : FrameCodec} {s : ServerState} {datagram source answer}
    (classified : Classified codec datagram source s answer) :
    answer.2.peer.address = s.peer.address.or (decodedSource codec (.udp datagram source)) ∧
      registers (.udp answer.1) = (s.peer.address.isNone && (decodedSource codec (.udp datagram source)).isSome) := by
  cases classified with
  | forwarded frame decoded known =>
    have source_ : decodedSource codec (.udp datagram source) = some source := by
      simp [decodedSource, decoded, Except.isOk, Except.toBool]
    rw [source_]
    rcases known with free | held
    · simp [registers, free]
    · simp [registers, held]
  | dropped decision t silent peer once cause =>
    have quiet : registers (.udp decision) = false := by
      cases decision with
      | forwardToTun payload registered => exact absurd rfl (silent payload registered)
      | dropEmpty | dropOversized | dropUnexpectedPeer | dropInvalid => rfl
    rw [quiet, peer]
    rcases cause with undecoded | ⟨active, held, differs⟩
    · have none_ : decodedSource codec (.udp datagram source) = none := by
        cases decoded : codec.decode datagram with
        | error e => simp [decodedSource, decoded, Except.isOk, Except.toBool]
        | ok frame => exact absurd decoded (undecoded frame)
      simp [none_]
    · simp [held]

theorem stepPeer (codec : FrameCodec) (s : ServerState) (input : Input) :
    (step codec s input).2.innerMtu = s.innerMtu ∧
      (step codec s input).2.peer.address = s.peer.address.or (decodedSource codec input) ∧
      registers (step codec s input).1 = (s.peer.address.isNone && (decodedSource codec input).isSome) := by
  cases input with
  | recordUdpToTun size | recordTunToUdp size =>
    simp [step, decodedSource, registers, ServerState.recordUdpToTun, ServerState.recordTunToUdp]
  | tun size =>
    have classified := classifyTunClassified size s
    simp only [step]
    refine ⟨classifyTunMtu size s, ?_⟩
    generalize s.classifyTun size = answer at classified ⊢
    cases classified with
    | sent peer small active => simp [decodedSource, registers]
    | dropped decision t silent peer once => simp [decodedSource, registers, peer]
  | udp datagram source =>
    exact ⟨classifyUdpFrameMtu codec datagram source s, classifiedPeer (classifyClassified codec datagram source s)⟩

theorem runPeer (codec : FrameCodec) (inputs : List Input) (s : ServerState) :
    (run (step codec) s inputs).2.innerMtu = s.innerMtu ∧
      (run (step codec) s inputs).2.peer.address = s.peer.address.or (inputs.findSome? (decodedSource codec)) ∧
      (run (step codec) s inputs).1.countP registers =
        if s.peer.address.isNone && (inputs.findSome? (decodedSource codec)).isSome then 1 else 0 := by
  induction inputs generalizing s with
  | nil => simp [run]
  | cons input rest ih =>
    obtain ⟨mtu, peer, registered⟩ := stepPeer codec s input
    obtain ⟨mtus, peers, count⟩ := ih (step codec s input).2
    rw [peer] at peers count
    simp only [run]
    refine ⟨mtus.trans mtu, ?_, ?_⟩
    · rw [peers, List.findSome?_cons]
      cases s.peer.address with
      | some active => simp
      | none => cases decodedSource codec input <;> simp
    · rw [List.countP_cons, count, registered, List.findSome?_cons]
      cases s.peer.address with
      | some active => simp
      | none => cases decodedSource codec input <;> simp

structure UdpLaw (codec : FrameCodec) (mtu : Nat) (s : ServerState) (datagram : Bytes) (source : SocketAddr)
    (next : UdpFrameDecision × ServerState) : Prop where
  forwards : ∀ payload registered, next.1 = .forwardToTun payload registered ↔
    (∃ frame, codec.decode datagram = .ok frame ∧ payload = frame.payload) ∧
      next.2.peer.address = some source ∧ registered = s.peer.address.isNone
  bounded : ∀ payload registered, next.1 = .forwardToTun payload registered → 1 ≤ payload.length ∧ payload.length ≤ mtu
  uncounted : ∀ payload registered, next.1 = .forwardToTun payload registered → next.2.stats = s.stats
  counted : (∀ payload registered, next.1 ≠ .forwardToTun payload registered) → DropsOnce s.stats next.2.stats
  undecodable : (∀ frame, codec.decode datagram ≠ .ok frame) → next.2.peer = s.peer

structure TunLaw (mtu : Nat) (s : ServerState) (size : Nat) (next : TunPacketDecision × ServerState) : Prop where
  sends : ∀ peer, next.1 = .sendToPeer peer → s.peer.address = some peer ∧ size ≤ mtu ∧ next.2 = s
  counted : (∀ peer, next.1 ≠ .sendToPeer peer) → DropsOnce s.stats next.2.stats
  peer : next.2.peer = s.peer

theorem classifiedLaw {codec : FrameCodec} {datagram source s next} (classified : Classified codec datagram source s next) :
    UdpLaw codec codec.mtu s datagram source next := by
  cases classified with
  | forwarded frame decoded known =>
    refine ⟨fun payload registered => ?_, ?_, fun _ _ _ => rfl, ?_, ?_⟩
    · constructor
      · intro same
        cases same
        exact ⟨⟨frame, decoded, rfl⟩, rfl, rfl⟩
      · rintro ⟨⟨other, again, rfl⟩, -, rfl⟩
        cases Except.ok.inj (decoded.symm.trans again)
        rfl
    · intro payload registered same
      cases same
      have form := decodeForm decoded
      exact ⟨form.positive, form.small⟩
    · intro silent
      exact absurd rfl (silent _ _)
    · intro undecoded
      exact absurd decoded (undecoded frame)
  | dropped decision t silent peer once cause =>
    refine ⟨fun payload registered => ?_, ?_, ?_, fun _ => once, fun _ => peer⟩
    · constructor
      · intro same
        exact absurd same (silent payload registered)
      · rintro ⟨⟨frame, decoded, -⟩, active, -⟩
        rcases cause with undecoded | ⟨other, held, differs⟩
        · exact absurd decoded (undecoded frame)
        · rw [peer, held] at active
          exact absurd (Option.some.inj active) differs
    · intro payload registered same
      exact absurd same (silent payload registered)
    · intro payload registered same
      exact absurd same (silent payload registered)

theorem tunClassifiedLaw {size s next} (classified : TunClassified size s next) : TunLaw s.innerMtu s size next := by
  cases classified with
  | sent peer small active =>
    refine ⟨?_, fun silent => absurd rfl (silent peer), rfl⟩
    intro other same
    cases same
    exact ⟨active, small, rfl⟩
  | dropped decision t silent peer once => exact ⟨fun other same => absurd same (silent other), fun _ => once, peer⟩

theorem singlePeerLaw {mtu : Nat} {codec : FrameCodec} (made : FrameCodec.new mtu = .ok codec) (inputs : List Input) :
    let past := run (step codec) (ServerState.new mtu) inputs
    past.2.peer.address = inputs.findSome? (decodedSource codec) ∧
      (∀ peer, past.2.peer.address = some peer → ∀ later, (run (step codec) past.2 later).2.peer.address = some peer) ∧
      past.1.countP registers = (if past.2.peer.address.isSome then 1 else 0) ∧
      (∀ datagram source, UdpLaw codec mtu past.2 datagram source (past.2.classifyUdpFrame codec datagram source)) ∧
      ∀ size, TunLaw mtu past.2 size (past.2.classifyTun size) := by
  intro past
  obtain ⟨inner, peer, count⟩ := runPeer codec inputs (ServerState.new mtu)
  have first : past.2.peer.address = inputs.findSome? (decodedSource codec) := by
    rw [peer]
    simp [ServerState.new]
  refine ⟨first, ?_, ?_, ?_, ?_⟩
  · intro active held later
    have kept := (runPeer codec later past.2).2.1
    rw [held, Option.some_or] at kept
    exact kept
  · rw [first]
    exact count
  · intro datagram source
    have law := classifiedLaw (classifyClassified codec datagram source past.2)
    rwa [newMtu made] at law
  · intro size
    have law := tunClassifiedLaw (classifyTunClassified size past.2)
    rwa [inner] at law

theorem singlePeerLawSmall : ∃ codec, FrameCodec.new 4 = .ok codec ∧
    let first := FrameCodec.frameBytes [69, 0]
    let inputs := [Input.udp [1] (.v4 1 7), .udp first (.v4 2 7), .udp first (.v4 1 7)]
    (run (step codec) (ServerState.new 4) inputs).2.peer.address = some (.v4 2 7) ∧
      (run (step codec) (ServerState.new 4) inputs).1.countP registers = 1 := by
  have made : FrameCodec.new 4 = .ok ⟨4, 14, by decide, by decide, rfl⟩ := rfl
  refine ⟨_, made, ?_⟩
  intro first inputs
  obtain ⟨peer, -, count, -⟩ := singlePeerLaw made inputs
  have known : inputs.findSome? (decodedSource ⟨4, 14, by decide, by decide, rfl⟩) = some (.v4 2 7) := by decide
  rw [known] at peer
  rw [peer] at count
  exact ⟨peer, count⟩

end Crabnet.LegacyServer
