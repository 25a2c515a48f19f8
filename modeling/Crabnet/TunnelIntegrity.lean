import Crabnet.HandshakeAgreement
import Crabnet.TunnelLife

/-! The tunnel as a whole: one server and any clients, over a network that gives any of
them anything at any time. What an endpoint writes to its TUN its peer read from its own. -/
namespace Crabnet.TunnelIntegrity
open MachineWord SessionTypes Fallible SnowBoundary NoiseServer NoiseClient DataFrame DataSession
open DataDelivery (Sealed delivered sent writes sealedPayloadInj encodeAccepts)
open ServerCoupling (Server)
open ClientLedger (Client)
open NoiseRuntime (Settings)
open NoiseEndpoint (Endpoint Input Output Sound stepSound)
open TunnelLife

structure Turn (ι : Type) where
  party : Option ι
  taken : List Bytes
  outputs : List Output

section
variable {S : Snow} {ι : Type} [DecidableEq ι]

-- `none` is the server.
def step (settings : Option ι → Settings) (lives : Option ι → Life S) (input : Option ι × Input) :
    Turn ι × (Option ι → Life S) :=
  let life := lives input.1
  let next := life.step (settings input.1) input.2
  (⟨input.1, TunnelLife.taken life.endpoint input.2, next.1⟩, Function.update lives input.1 next.2)

def start (clients : ι → Client S) (serverAddr : SocketAddr) (server : Server S) : Option ι → Life S
  | none => ⟨.server ⟨server, .waiting⟩, server.crypto.history, []⟩
  | some i => ⟨.unstarted (clients i) serverAddr, (clients i).crypto.history, []⟩

def offered (party : Option ι) (trace : List (Turn ι)) : List Bytes :=
  trace.flatMap fun turn => if turn.party = party then turn.taken else []

def written (party : Option ι) (trace : List (Turn ι)) : List Bytes :=
  trace.flatMap fun turn => if turn.party = party then turn.outputs.filterMap tunPacket else []

def session (life : Life S) : Option NoiseSession :=
  match life.endpoint with
  | .forwarding l => life.handshake.opened[l.session.transport.handle]?
  | _ => none

def Serves (life : Life S) (key : Bytes) : Prop := ∃ theirs, session life = some theirs ∧ theirs.remoteStatic = key

/- What is assumed of the library. A transport with the key of an endpoint opens only
what that endpoint sealed, on a transport of the same handshake hash; and a hash that
both ends have names the client to the server. -/
def OpensOnlyOf (key : Bytes) (reader writer : NoiseHistory) : Prop :=
  ∀ handle ours read plain, reader.opened[handle]? = some ours → ours.remoteStatic = key →
    (handle, read) ∈ reader.reads → read.result = some plain →
    ∃ peer theirs, writer.opened[peer]? = some theirs ∧ theirs.hash = ours.hash ∧
      (peer, ⟨read.nonce, plain, some read.input⟩) ∈ writer.writes

structure IdealTunnel (publicOf : Bytes → Bytes) (serverPrivate : Bytes) (own : ι → Bytes) (lives : Option ι → Life S) :
    Prop where
  toClient : ∀ i, OpensOnlyOf (publicOf serverPrivate) (lives (some i)).noise (lives none).noise
  toServer : ∀ i, OpensOnlyOf (publicOf (own i)) (lives none).noise (lives (some i)).noise
  bound : ∀ i, ∀ ours ∈ (lives (some i)).noise.opened, ∀ theirs ∈ (lives none).noise.opened, theirs.hash = ours.hash →
    theirs.remoteStatic = publicOf ours.localPrivate

/- Each packet written was read at the other end, and no more often than it was. Nothing
is said of packets that are lost, or of the order. -/
structure Integrity (publicOf : Bytes → Bytes) (own : ι → Bytes) (allowed : List Bytes) (trace : List (Turn ι))
    (lives : Option ι → Life S) : Prop where
  client : ∀ i, (written (some i) trace).Subperm (offered none trace)
  addressed : ∀ i, written (some i) trace ≠ [] → Serves (lives none) (publicOf (own i))
  server : ∀ i, Serves (lives none) (publicOf (own i)) → (written none trace).Subperm (offered (some i) trace)
  admitted : written none trace ≠ [] → ∃ key ∈ allowed, Serves (lives none) key

structure Kept (trusted : NoiseSession → Prop) (ready : Endpoint S → Prop) (offered written : List Bytes) (life : Life S) :
    Prop where
  sound : Sound life.endpoint
  lawful : Lawful trusted ready life.endpoint life.handshake life.effects
  written : written = (delivered life.effects).map Prod.snd
  offered : ((sent life.effects).map Prod.snd).Sublist offered

theorem keptStep {settings : Settings} {trusted ready offered written} {life : Life S} (advances : Advances trusted ready)
    (kept : Kept trusted ready offered written life) (i : Input) :
    Kept trusted ready (offered ++ TunnelLife.taken life.endpoint i)
      (written ++ (life.step settings i).1.filterMap tunPacket) (life.step settings i).2 := by
  obtain ⟨sound, lawful, output, input⟩ := kept
  refine ⟨stepSound settings life.endpoint i sound, lawfulStep advances sound lawful i, ?_, ?_⟩
  · rw [output]
    simp only [Life.step, writtenDelivered, delivered, List.filterMap_append, List.map_append]
  · simp only [Life.step, sent, List.filterMap_append, List.map_append]
    exact input.append (sentTaken sound i)

def Invariant (trusted : Option ι → NoiseSession → Prop) (ready : Option ι → Endpoint S → Prop) (trace : List (Turn ι))
    (lives : Option ι → Life S) : Prop :=
  ∀ party, Kept (trusted party) (ready party) (offered party trace) (written party trace) (lives party)

theorem invariantStep {settings : Option ι → Settings} {trusted ready} (advances : ∀ party, Advances (trusted party) (ready party))
    (past : List (Turn ι)) (lives : Option ι → Life S) (input) (kept : Invariant trusted ready past lives) :
    Invariant trusted ready (past ++ [(step settings lives input).1]) (step settings lives input).2 := by
  intro party
  simp only [offered, written, List.flatMap_append, List.flatMap_singleton, step]
  by_cases own : input.1 = party
  · subst own
    simp only [if_true, Function.update_self]
    exact keptStep (advances input.1) (kept input.1) input.2
  · simp only [if_neg own, List.append_nil, Function.update_of_ne (Ne.symm own)]
    exact kept party

theorem noiseWrites {life : Life S} {write} (member : write ∈ life.noise.writes) :
    write ∈ life.handshake.writes ∨ write.2 ∈ writes life.effects ∧ session life = life.noise.opened[write.1]? := by
  obtain ⟨e, h, effects⟩ := life
  cases e with
  | forwarding l =>
    rcases List.mem_append.mp member with early | late
    · exact .inl early
    · obtain ⟨call, made, rfl⟩ := List.mem_map.mp late
      exact .inr ⟨made, rfl⟩
  | unstarted c serverAddr => exact .inl member
  | client r => exact .inl member
  | server r => exact .inl member
  | refused error => exact .inl member

theorem lawfulSilent {trusted ready e h effects} (lawful : Lawful trusted ready (e : Endpoint S) h effects) :
    TunnelLife.Silent h := by
  cases lawful <;> assumption

-- The handshake seals with nonce 0 only, so the rest was sealed by the loop.
theorem lawfulSealed {trusted ready} {life : Life S} (lawful : Lawful trusted ready life.endpoint life.handshake life.effects)
    {write} (member : write ∈ life.noise.writes) (nonzero : write.2.nonce ≠ 0) :
    session life = life.noise.opened[write.1]? ∧ ∃ codec header packet, Sealed codec life.effects write.2 header packet := by
  rcases noiseWrites member with early | ⟨late, running⟩
  · exact absurd (lawfulSilent lawful write early) nonzero
  · refine ⟨running, ?_⟩
    obtain ⟨e, h, effects⟩ := life
    cases lawful with
    | waiting silent is => exact absurd late List.not_mem_nil
    | refused silent => exact absurd late List.not_mem_nil
    | @forwarding l h effects silent runs sequenced => exact ⟨l.codec, sequenced.sealed_ write.2 late⟩

structure Arrived (trusted : NoiseSession → Prop) (life : Life S) (ours : NoiseSession) (handle : Nat)
    (header : DataFrameHeader) (ciphertext : Bytes) (d : UInt64 × Bytes) : Prop where
  carries : session life = some ours
  trust : trusted ours
  opened : life.noise.opened[handle]? = some ours
  read : (handle, ⟨d.1, ciphertext, some (sealedPayload header d.2)⟩) ∈ life.noise.reads
  length : header.bodyLength.toNat = dataBodyFixedLength + ciphertext.length
  nonzero : d.1 ≠ 0

theorem lawfulOpened {trusted ready} {life : Life S} (lawful : Lawful trusted ready life.endpoint life.handshake life.effects)
    {d} (member : d ∈ delivered life.effects) :
    ∃ ours handle header ciphertext, Arrived trusted life ours handle header ciphertext d := by
  obtain ⟨e, h, effects⟩ := life
  cases lawful with
  | waiting silent is => exact absurd member List.not_mem_nil
  | refused silent => exact absurd member List.not_mem_nil
  | @forwarding l h effects silent runs sequenced =>
    obtain ⟨ours, opened, trust, _⟩ := runs
    obtain ⟨header, ciphertext, read, declared, ranged⟩ := sequenced.opened_ d member
    have nonzero : d.1 ≠ 0 := by
      intro zero
      have impossible := ranged.1
      rw [zero] at impossible
      exact absurd impossible (by decide)
    exact ⟨ours, l.session.transport.handle, header, ciphertext, opened, trust, opened,
      List.mem_append_right _ (List.mem_map_of_mem read), declared, nonzero⟩

theorem conveyed {key trusted trusted' ready ready'} {reader writer : Life S}
    (here : Lawful trusted ready reader.endpoint reader.handshake reader.effects)
    (there : Lawful trusted' ready' writer.endpoint writer.handshake writer.effects)
    (opens : OpensOnlyOf key reader.noise writer.noise) {ours} (carries : session reader = some ours)
    (keyed : ours.remoteStatic = key) {d} (member : d ∈ delivered reader.effects) :
    d ∈ sent writer.effects ∧ ∃ theirs, session writer = some theirs ∧ theirs.hash = ours.hash := by
  obtain ⟨ours', handle, header, ciphertext, arrived⟩ := lawfulOpened here member
  cases Option.some.inj (carries.symm.trans arrived.carries)
  obtain ⟨peer, theirs, opened, hash, wrote⟩ := opens handle ours _ _ arrived.opened keyed arrived.read rfl
  obtain ⟨running, codec, header', packet, sealed_⟩ := lawfulSealed there wrote arrived.nonzero
  obtain ⟨sameHeader, samePacket⟩ := sealedPayloadInj sealed_.input
  subst sameHeader
  subst samePacket
  obtain ⟨frame, encoded⟩ := encodeAccepts sealed_.length sealed_.positive sealed_.small arrived.length
  exact ⟨sealed_.emitted ciphertext frame rfl encoded, theirs, running.trans opened, hash⟩

theorem lawfulOnce {trusted ready e h effects} (lawful : Lawful trusted ready (e : Endpoint S) h effects) :
    (delivered effects).Nodup := by
  cases lawful with
  | waiting silent is => exact List.nodup_nil
  | refused silent => exact List.nodup_nil
  | forwarding silent runs sequenced => exact List.Nodup.of_map _ sequenced.once

theorem conveyedWhole {key trusted trusted' ready ready' offered written offered' written'} {reader writer : Life S}
    (here : Kept trusted ready offered written reader) (there : Kept trusted' ready' offered' written' writer)
    (opens : OpensOnlyOf key reader.noise writer.noise) {ours} (carries : session reader = some ours)
    (keyed : ours.remoteStatic = key) : written.Subperm offered' := by
  have within : ∀ d ∈ delivered reader.effects, d ∈ sent writer.effects :=
    fun d member => (conveyed here.lawful there.lawful opens carries keyed member).1
  obtain ⟨chosen, same, part⟩ := List.subperm_of_subset (lawfulOnce here.lawful) within
  rw [here.written]
  exact ⟨chosen.map Prod.snd, same.map Prod.snd, (part.map Prod.snd).trans there.offered⟩

theorem carried {trusted ready offered written} {life : Life S} (kept : Kept trusted ready offered written life)
    (some_ : written ≠ []) : ∃ ours d, session life = some ours ∧ trusted ours ∧ d ∈ delivered life.effects := by
  have busy : delivered life.effects ≠ [] := by
    intro none_
    rw [kept.written, none_] at some_
    exact some_ rfl
  obtain ⟨d, member⟩ := List.exists_mem_of_ne_nil _ busy
  obtain ⟨ours, _, _, _, arrived⟩ := lawfulOpened kept.lawful member
  exact ⟨ours, d, arrived.carries, arrived.trust, member⟩

theorem sessionOpened {life : Life S} {ours} (carries : session life = some ours) : ours ∈ life.noise.opened := by
  obtain ⟨e, h, effects⟩ := life
  cases e with
  | forwarding l => exact List.mem_of_getElem? carries
  | unstarted c serverAddr => contradiction
  | client r => contradiction
  | server r => contradiction
  | refused error => contradiction

def trusts (own : ι → Bytes) (pin : Bytes) (allowed : List Bytes) : Option ι → NoiseSession → Prop
  | none => serverTrusts allowed
  | some i => clientTrusts (own i) pin

def readies (own : ι → Bytes) (pin : Bytes) (allowed : List Bytes) : Option ι → Endpoint S → Prop
  | none => serverReady allowed
  | some i => clientReady (own i) pin

omit [DecidableEq ι] in
theorem partyAdvances (own : ι → Bytes) (pin : Bytes) (allowed : List Bytes) (party : Option ι) :
    Advances (S := S) (trusts own pin allowed party) (readies own pin allowed party) := by
  cases party with
  | none => exact serverAdvances allowed
  | some i => exact clientAdvances (own i) pin

theorem startKept {clients : ι → Client S} {server : Server S} {own : ι → Bytes} {pin : Bytes} {allowed : List Bytes}
    (clientsKept : ∀ i, ClientLedger.Accounted (own i) pin (clients i)) (serverKept : ServerKept allowed server)
    (serverAddr : SocketAddr) :
    Invariant (trusts own pin allowed) (readies own pin allowed) [] (start clients serverAddr server) := by
  intro party
  cases party with
  | none =>
    have silent : TunnelLife.Silent server.crypto.history := by
      obtain ⟨past, accounted⟩ := serverKept
      exact fun write member => (accounted.ledger.logged.numbered write member).2
    exact ⟨rfl, .waiting silent serverKept, rfl, List.nil_sublist _⟩
  | some i =>
    have silent : TunnelLife.Silent (clients i).crypto.history :=
      fun write member => ((clientsKept i).ledger.logged.numbered write member).2
    exact ⟨trivial, .waiting silent (clientsKept i), rfl, List.nil_sublist _⟩

theorem keptIntegrity {publicOf : Bytes → Bytes} {serverPrivate : Bytes} {own : ι → Bytes} {allowed : List Bytes}
    {trace : List (Turn ι)} {lives : Option ι → Life S}
    (kept : Invariant (trusts own (publicOf serverPrivate) allowed) (readies own (publicOf serverPrivate) allowed) trace lives)
    (ideal : IdealTunnel publicOf serverPrivate own lives) : Integrity publicOf own allowed trace lives := by
  constructor
  · intro i
    by_cases none_ : written (some i) trace = []
    · rw [none_]
      exact List.nil_subperm
    · obtain ⟨ours, d, carries, trust, _⟩ := carried (kept (some i)) none_
      exact conveyedWhole (kept (some i)) (kept none) (ideal.toClient i) carries trust.1
  · intro i some_
    obtain ⟨ours, d, carries, trust, member⟩ := carried (kept (some i)) some_
    obtain ⟨_, theirs, serves, hash⟩ :=
      conveyed (kept (some i)).lawful (kept none).lawful (ideal.toClient i) carries trust.1 member
    have named := ideal.bound i ours (sessionOpened carries) theirs (sessionOpened serves) hash
    rw [trust.2] at named
    exact ⟨theirs, serves, named⟩
  · rintro i ⟨theirs, serves, named⟩
    exact conveyedWhole (kept none) (kept (some i)) (ideal.toServer i) serves named
  · intro some_
    obtain ⟨theirs, d, carries, trust, _⟩ := carried (kept none) some_
    exact ⟨theirs.remoteStatic, trust, theirs, carries, rfl⟩

end

/-! One client and its server, over the library without keys: the data frame that the
client sends comes to the server twice. -/
section Plain
open NoiseProfile ServerRemoteInput SessionHandOff
open CoordinatorStability (plainServer plainClient plainEndpoint)
open HandshakeAgreement (plainEnds)

def plainPacket : Bytes := [69]

def plainHeader : DataFrameHeader :=
  ⟨UInt16.ofNat (dataBodyFixedLength + plainPacket.length + dataTransportOverhead), ClientLedger.plainMetadata.sessionId,
    .clientToServer, 1⟩

def plainCiphertext : Bytes := plainSeal 1 (sealedPayload plainHeader plainPacket)
def plainData : Bytes := headerBindingBytes plainHeader ++ plainCiphertext

def plainInputs : List (Option Unit × Input) :=
  [(some (), .start 1 none),
    (none, .wake (.received (plainDatagram .clientHello plainHello) (plainEndpoint 1000) 1 none 1)),
    (some (), .wake (.received (plainDatagram .serverHello ClientLedger.plainServerHello) (plainEndpoint 2000) 2 none 2)),
    (none, .wake (.received (plainDatagram .clientFinish plainFinish) (plainEndpoint 1000) 2 none 2)),
    (some (), .wake (.received (plainDatagram .serverFinish plainAnswer) (plainEndpoint 2000) 3 none 3)),
    (some (), .turn ⟨4, .tunRead (some plainPacket) 4 (some plainData.length) 4⟩),
    (none, .turn ⟨5, .received (some (plainData, plainEndpoint 1000)) 5 (some plainPacket.length) 5⟩),
    (none, .turn ⟨6, .received (some (plainData, plainEndpoint 1000)) 6 (some plainPacket.length) 6⟩)]

def plainRun : List (Turn Unit) × (Option Unit → Life plainSnow) :=
  run (step fun _ => plainSettings) (start (fun _ => plainClient) (plainEndpoint 2000) plainServer) plainInputs

theorem plainIdeal : IdealTunnel (fun key => key) plainServerKey (fun _ : Unit => plainClientKey) plainRun.2 := by
  have client : (plainRun.2 (some ())).noise = ⟨[plainEnds plainClientKey plainServerKey],
      [(0, ⟨0, controlRecord .clientFinish plainAttempt, some plainFinish⟩),
        (0, ⟨1, sealedPayload plainHeader plainPacket, some plainCiphertext⟩)],
      [(0, ⟨0, plainAnswer, some (controlRecord .serverFinish plainAttempt)⟩)]⟩ := by decide +kernel
  have server : (plainRun.2 none).noise = ⟨[plainEnds plainServerKey plainClientKey],
      [(0, ⟨0, controlRecord .serverFinish plainAttempt, some plainAnswer⟩)],
      [(0, ⟨0, plainFinish, some (controlRecord .clientFinish plainAttempt)⟩),
        (0, ⟨1, plainCiphertext, some (sealedPayload plainHeader plainPacket)⟩)]⟩ := by decide +kernel
  constructor
  · intro party handle ours read plain opened keyed member result
    rw [client] at opened member
    rw [server]
    cases List.mem_singleton.mp member
    cases Option.some.inj result
    cases Option.some.inj opened
    exact ⟨0, _, rfl, rfl, List.mem_singleton.mpr rfl⟩
  · intro party handle ours read plain opened keyed member result
    rw [server] at opened member
    rw [client]
    rcases List.mem_cons.mp member with first | second
    · cases first
      cases Option.some.inj result
      cases Option.some.inj opened
      exact ⟨0, _, rfl, rfl, List.mem_cons_self⟩
    · cases List.mem_singleton.mp second
      cases Option.some.inj result
      cases Option.some.inj opened
      exact ⟨0, _, rfl, rfl, List.mem_cons_of_mem _ List.mem_cons_self⟩
  · intro party ours inside theirs outside _
    rw [client] at inside
    rw [server] at outside
    cases List.mem_singleton.mp inside
    cases List.mem_singleton.mp outside
    rfl

end Plain
end Crabnet.TunnelIntegrity
