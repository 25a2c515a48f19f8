import Crabnet.LoopAccounting
import Crabnet.NoiseEndpoint

/-! The whole life of an endpoint, with what it did with the library and with its TUN
beside it. The loop that forwards runs over a transport of the handshake before it,
seals with nonces that no handshake uses, and writes only what it opened. -/
namespace Crabnet.TunnelLife
open MachineWord SessionTypes Fallible ReplayHistory SnowBoundary NoiseServer NoiseClient DataFrame DataSession
open DataRuntime DataDelivery FrameExchange NoiseServerOutcomes ServerCoupling ServerCorrespondence NoiseRuntime NoiseEndpoint
open ClientLedger (Client)
open LoopAccounting (Kin)

def emitted {S : Snow} : Endpoint S → Input → List Effect
  | .forwarding l, .turn it => (l.iterate it).1
  | _, _ => []

-- A loop that has stopped, or whose session has expired, reads nothing more from its TUN.
def taken {S : Snow} : Endpoint S → Input → List Bytes
  | .forwarding l, .turn ⟨head, .tunRead (some packet) _ _ _⟩ =>
    if l.outcome.isNone && (idleCheck .idleCheck head ⟨l.session, []⟩).1.isOk then [packet] else []
  | _, _ => []

def tunPacket : Output → Option Bytes
  | .tunWrite packet => some packet
  | .sendTo _ _ => none

-- The library's history at the end of a step of the handshake.
def recorded {S : Snow} (settings : Settings) : Endpoint S → Input → NoiseHistory → NoiseHistory
  | .unstarted coordinator serverAddr, .start now unsent, _ =>
    (ClientRuntime.start settings serverAddr now unsent coordinator).2.coordinator.crypto.history
  | .client r, .wake w, _ => (r.step settings w).2.coordinator.crypto.history
  | .server r, .wake w, _ => (r.step settings w).2.coordinator.crypto.history
  | _, _, h => h

structure Life (S : Snow) where
  endpoint : Endpoint S
  handshake : NoiseHistory
  effects : List Effect

section
variable {S : Snow}

def Life.step (settings : Settings) (life : Life S) (i : Input) : List Output × Life S :=
  let next := NoiseEndpoint.step settings life.endpoint i
  (next.1, ⟨next.2, recorded settings life.endpoint i life.handshake, life.effects ++ emitted life.endpoint i⟩)

def Life.noise (life : Life S) : NoiseHistory :=
  match life.endpoint with
  | .forwarding l =>
    ⟨life.handshake.opened, life.handshake.writes ++ (writes life.effects).map (Prod.mk l.session.transport.handle),
      life.handshake.reads ++ (reads life.effects).map (Prod.mk l.session.transport.handle)⟩
  | _ => life.handshake

def Over (trusted : NoiseSession → Prop) (h : NoiseHistory) (s : EstablishedDataSession S) : Prop :=
  ∃ session, h.opened[s.transport.handle]? = some session ∧ trusted session ∧
    s.metadata = ⟨ServerProvider.sid session.hash, ServerProvider.identity session.remoteStatic⟩

structure Introduced (trusted : NoiseSession → Prop) (h : NoiseHistory) (s : EstablishedDataSession S) : Prop where
  session : Over trusted h s
  fresh : s.replayWindow = .new

def Introduces (trusted : NoiseSession → Prop) (h : NoiseHistory) (status : Status S) : Prop :=
  ∀ codec s, status = .forwarding codec s → Introduced trusted h s

theorem handOffTakes {mtu metadata committed} {session : Transport S → EstablishedDataSession S} {codec s}
    (hands : handOff mtu metadata committed session = .forwarding codec s) :
    ∃ transport, committed = some (transport, metadata) ∧ s = session transport := by
  unfold handOff at hands
  split at hands
  · contradiction
  · rename_i transport other
    split at hands
    · contradiction
    · rename_i same
      rw [not_not] at same
      split at hands
      · contradiction
      · cases hands
        exact ⟨transport, by rw [same], rfl⟩

theorem unhanded {trusted h} {status : Status S} (before : handed status = false) : Introduces trusted h status := by
  intro codec s same
  rw [same] at before
  contradiction

def clientTrusts (own pin : Bytes) (session : NoiseSession) : Prop := session.remoteStatic = pin ∧ session.localPrivate = own

theorem clientIntroduces {settings unsent handedAt own pin} {r : ClientRuntime S} {report : HandshakeAdapter.ClientAdapterReport}
    (accounted : ClientLedger.Accounted own pin r.coordinator) :
    Introduces (clientTrusts own pin) r.coordinator.crypto.history (r.reported settings unsent handedAt report).2.status := by
  intro codec s hands
  unfold ClientRuntime.reported at hands
  simp only at hands
  split at hands <;> try contradiction
  split at hands <;> try contradiction
  rename_i metadata told
  obtain ⟨transport, committed, rfl⟩ := handOffTakes hands
  unfold ClientProvider.intoEstablishedTransport at committed
  split at committed <;> try contradiction
  rename_i attempt held known found
  split at committed <;> try contradiction
  cases committed
  obtain ⟨⟨session, backing, key⟩, _⟩ := accounted.ledger.held _ found
  exact ⟨⟨session, backing.opened, ⟨List.mem_singleton.mp backing.allowed, key⟩, backing.metadata⟩, rfl⟩

theorem clientFrame {own pin} {c : Client S} (accounted : ClientLedger.Accounted own pin c) (codec source datagram now) :
    ClientLedger.Accounted own pin (HandshakeAdapter.receiveClientFrame codec source datagram now c).2 := by
  rw [clientFrameCall]
  cases clientCallOf codec source datagram now with
  | error e => exact accounted
  | ok call => exact ClientLedger.stepAccounted accounted call

theorem clientWaked {settings own pin} {r : ClientRuntime S} (accounted : ClientLedger.Accounted own pin r.coordinator)
    (before : handed r.status = false) (w : NoiseRuntime.Wake) :
    ClientLedger.Accounted own pin (r.step settings w).2.coordinator ∧
      Introduces (clientTrusts own pin) (r.step settings w).2.coordinator.crypto.history (r.step settings w).2.status := by
  unfold ClientRuntime.step
  split
  · cases w with
    | timer now => exact ⟨accounted, unhanded rfl⟩
    | broken => exact ⟨accounted, unhanded rfl⟩
    | received datagram source now unsent handedAt =>
      have after := clientFrame accounted settings.codec r.serverAddr (buffered settings.codec datagram) now
      unfold ClientRuntime.wake
      simp only
      split
      · exact ⟨accounted, unhanded before⟩
      · split
        · split
          · exact ⟨after, unhanded before⟩
          · exact ⟨after, unhanded rfl⟩
        · refine ⟨?_, ?_⟩
          · rw [clientReportedKeeps]
            exact after
          · rw [clientReportedKeeps]
            exact clientIntroduces after
  · exact ⟨accounted, unhanded before⟩
  · exact ⟨accounted, unhanded before⟩

theorem clientStarted {settings own pin serverAddr now unsent} {c : Client S} (accounted : ClientLedger.Accounted own pin c) :
    ClientLedger.Accounted own pin (ClientRuntime.start settings serverAddr now unsent c).2.coordinator := by
  have after := ClientLedger.stepAccounted accounted (.start now)
  unfold ClientRuntime.start
  simp only
  split <;> exact after

theorem finishOpened {c : Server S} {q : ServerProvider S} {source attempt payload now answer}
    (move : FinishMove c source attempt payload now answer q) : q.history.opened = c.crypto.history.opened := by
  cases move with
  | dropped expired m reason ex reg decision => rfl
  | duplicate session state peer same => rfl
  | unconfirmed expired id context plain permitted opens => rfl
  | established expired id context plain record out permitted opens recorded written => rfl
  | failed expired id context e q permitted answer => cases answer <;> rfl

theorem stepOpened {c : Server S} (corresponds : Corresponds c) (call : CoordinatorStability.ServerCall (ServerProvider S)) :
    ∃ more, (CoordinatorStability.serverStep c call).2.crypto.history.opened = c.crypto.history.opened ++ more := by
  cases call with
  | clientHello source message now =>
    obtain ⟨_, concluded⟩ := helloConcludes corresponds source message now
    simp only [CoordinatorStability.serverStep]
    generalize ServerCoordinator.receiveClientHello source message now c = outcome at concluded ⊢
    obtain ⟨result, t⟩ := outcome
    cases result with
    | ok report => exact (ServerLedger.helloSilent concluded).opened
    | error fatal =>
      obtain ⟨q, move, shut, _⟩ := concluded
      rw [shut, shutdownHistory]
      exact (ServerLedger.helloSilent move).opened
  | clientFinish source message now =>
    obtain ⟨_, concluded⟩ := finishConcludes corresponds source message now
    simp only [CoordinatorStability.serverStep]
    generalize ServerCoordinator.receiveClientFinish source message now c = outcome at concluded ⊢
    obtain ⟨result, t⟩ := outcome
    refine ⟨[], ?_⟩
    rw [List.append_nil]
    cases result with
    | ok report => exact finishOpened concluded
    | error fatal =>
      obtain ⟨q, move, shut, _⟩ := concluded
      rw [shut, shutdownHistory]
      exact finishOpened move
  | checkTimeouts now =>
    obtain ⟨_, _, ids, _, _, trimmed⟩ := timeoutsConclude corresponds now
    refine ⟨[], ?_⟩
    rw [CoordinatorStability.serverStep, trimmed, List.append_nil]
    rfl
  | shutdown =>
    obtain ⟨_, shut, _⟩ := shutdownConcludes corresponds
    refine ⟨[], ?_⟩
    rw [CoordinatorStability.serverStep, shut, shutdownHistory, List.append_nil]

def serverTrusts (allowed : List Bytes) (session : NoiseSession) : Prop := session.remoteStatic ∈ allowed

def ServerKept (allowed : List Bytes) (c : Server S) : Prop := ∃ past, ServerLedger.Accounted allowed past c

theorem serverCalled {allowed} {c : Server S} (kept : ServerKept allowed c) (call : CoordinatorStability.ServerCall (ServerProvider S)) :
    ServerKept allowed (CoordinatorStability.serverStep c call).2 := by
  obtain ⟨past, accounted⟩ := kept
  exact ⟨_, ServerLedger.stepAccounted accounted call⟩

theorem serverFrame {allowed} {c : Server S} (kept : ServerKept allowed c) (codec source datagram now) :
    let t := (HandshakeAdapter.receiveServerFrame codec source datagram now c).2
    ServerKept allowed t ∧ ∃ more, t.crypto.history.opened = c.crypto.history.opened ++ more := by
  rw [serverFrameCall]
  cases serverCallOf codec source datagram now with
  | error e => exact ⟨kept, [], (List.append_nil _).symm⟩
  | ok call =>
    obtain ⟨past, accounted⟩ := kept
    exact ⟨serverCalled ⟨past, accounted⟩ call, stepOpened accounted.corresponds call⟩

theorem serverIntroduces {settings unsent handedAt allowed codec source} {c : Server S} {r : ServerRuntime S}
    {report : HandshakeAdapter.ServerAdapterReport} (kept : ServerKept allowed c)
    (commits : SessionHandOff.FrameCommits codec c source (.ok report) r.coordinator)
    (opened : ∃ more, r.coordinator.crypto.history.opened = c.crypto.history.opened ++ more) :
    Introduces (serverTrusts allowed) r.coordinator.crypto.history (r.reported settings unsent handedAt report).2.status := by
  intro codec s hands
  unfold ServerRuntime.reported at hands
  simp only at hands
  split at hands <;> try contradiction
  split at hands <;> try contradiction
  rename_i peer metadata told
  obtain ⟨transport, committed, rfl⟩ := handOffTakes hands
  cases commits with
  | committed expired id context t datagram payload entered holds decoded =>
    cases Option.some.inj (holds.symm.trans committed)
    obtain ⟨past, accounted⟩ := kept
    obtain ⟨session, backing⟩ := accounted.ledger.backed id context entered.context
    obtain ⟨more, grown⟩ := opened
    obtain ⟨inside, _⟩ := List.getElem?_eq_some_iff.mp backing.opened
    refine ⟨⟨session, ?_, ?_, backing.metadata⟩, rfl⟩
    · change r.coordinator.crypto.history.opened[context.transport.handle]? = some session
      rw [grown, List.getElem?_append_left inside]
      exact backing.opened
    · rw [serverTrusts, ← accounted.keys]
      exact backing.allowed
  | quiet result t silent same =>
    obtain ⟨event, member, announced⟩ := List.exists_of_findSome?_eq_some told
    have quiet := silent report rfl event member
    cases event <;> contradiction

theorem serverWaked {settings allowed} {r : ServerRuntime S} (kept : ServerKept allowed r.coordinator)
    (before : handed r.status = false) (w : NoiseRuntime.Wake) :
    ServerKept allowed (r.step settings w).2.coordinator ∧
      Introduces (serverTrusts allowed) (r.step settings w).2.coordinator.crypto.history (r.step settings w).2.status := by
  unfold ServerRuntime.step
  split
  · cases w with
    | broken => exact ⟨kept, unhanded rfl⟩
    | timer now =>
      have after := serverCalled kept (.checkTimeouts now)
      unfold ServerRuntime.wake
      simp only
      split
      · exact ⟨kept, unhanded before⟩
      · split <;> exact ⟨after, unhanded rfl⟩
    | received datagram source now unsent handedAt =>
      obtain ⟨after, opened⟩ := serverFrame kept settings.codec source (buffered settings.codec datagram) now
      obtain ⟨past, accounted⟩ := kept
      have commits := SessionHandOff.frameCommits accounted.corresponds settings.codec source
        (buffered settings.codec datagram) now
      unfold ServerRuntime.wake
      simp only
      split
      · split
        · exact ⟨after, unhanded before⟩
        · exact ⟨after, unhanded rfl⟩
      · rename_i report told
        rw [told] at commits
        refine ⟨?_, ?_⟩
        · rw [serverReportedKeeps]
          exact after
        · rw [serverReportedKeeps]
          exact serverIntroduces ⟨past, accounted⟩ commits opened
  · exact ⟨kept, unhanded before⟩
  · exact ⟨kept, unhanded before⟩

def Silent (h : NoiseHistory) : Prop := ∀ write ∈ h.writes, write.2.nonce = 0

inductive Lawful (trusted : NoiseSession → Prop) (ready : Endpoint S → Prop) : Endpoint S → NoiseHistory → List Effect → Prop
  | waiting {e h} (silent : Silent h) (is : ready e) : Lawful trusted ready e h []
  | refused {error h} (silent : Silent h) : Lawful trusted ready (.refused error) h []
  | forwarding {l h effects} (silent : Silent h) (runs : Over trusted h l.session)
      (sequenced : Sequenced l.codec effects l.session) : Lawful trusted ready (.forwarding l) h effects

def clientReady (own pin : Bytes) : Endpoint S → Prop
  | .unstarted c _ => ClientLedger.Accounted own pin c
  | .client r => ClientLedger.Accounted own pin r.coordinator
  | _ => False

def serverReady (allowed : List Bytes) : Endpoint S → Prop
  | .server r => ServerKept allowed r.coordinator
  | _ => False

def Advances (trusted : NoiseSession → Prop) (ready : Endpoint S → Prop) : Prop :=
  ∀ (settings : Settings) e i h, Silent h → ready e → Sound e → emitted e i = [] ∧
    Lawful trusted ready (NoiseEndpoint.step settings e i).2 (recorded settings e i h) []

theorem sequencedFresh {codec : DataFrameCodec} {s : EstablishedDataSession S} (fresh : s.replayWindow = .new) :
    Sequenced codec [] s := by
  constructor
  · refine ⟨∅, ?_, fun d member => absurd member List.not_mem_nil⟩
    rw [fresh]
    exact tracksNew
  · exact List.nodup_nil
  · exact fun write member => absurd member List.not_mem_nil
  · exact fun d member => absurd member List.not_mem_nil

theorem goOnLawful {settings : Settings} {trusted ready} {waiting : Endpoint S} {status h} (silent : Silent h)
    (is : ready waiting) (introduces : Introduces trusted h status) :
    Lawful trusted ready (goOn settings waiting status) h [] := by
  cases status with
  | waiting => exact .waiting silent is
  | failed error => exact .waiting silent is
  | forwarding codec session =>
    obtain ⟨runs, fresh⟩ := introduces codec session rfl
    simp only [goOn]
    cases started : DataLoop.start codec settings.mtu session with
    | error e => exact .refused silent
    | ok l =>
      unfold DataLoop.start at started
      split at started <;> try contradiction
      cases Except.ok.inj started
      exact .forwarding silent runs (sequencedFresh fresh)

theorem clientAdvances (own pin : Bytes) : Advances (S := S) (clientTrusts own pin) (clientReady own pin) := by
  intro settings e i h silent is sound
  cases e with
  | unstarted c serverAddr =>
    cases i with
    | start now unsent =>
      have after : ClientLedger.Accounted own pin (ClientRuntime.start settings serverAddr now unsent c).2.coordinator :=
        clientStarted is
      exact ⟨rfl, .waiting (fun write member => (after.ledger.logged.numbered write member).2) after⟩
    | wake w => exact ⟨rfl, .waiting silent is⟩
    | turn it => exact ⟨rfl, .waiting silent is⟩
  | client r =>
    cases i with
    | start now unsent => exact ⟨rfl, .waiting silent is⟩
    | turn it => exact ⟨rfl, .waiting silent is⟩
    | wake w =>
      obtain ⟨after, introduces⟩ := @clientWaked S settings own pin r is sound w
      exact ⟨rfl, goOnLawful (fun write member => (after.ledger.logged.numbered write member).2) after introduces⟩
  | server r => exact is.elim
  | forwarding l => exact is.elim
  | refused error => exact is.elim

theorem serverAdvances (allowed : List Bytes) : Advances (S := S) (serverTrusts allowed) (serverReady allowed) := by
  intro settings e i h silent is sound
  cases e with
  | server r =>
    cases i with
    | start now unsent => exact ⟨rfl, .waiting silent is⟩
    | turn it => exact ⟨rfl, .waiting silent is⟩
    | wake w =>
      obtain ⟨after, introduces⟩ := @serverWaked S settings allowed r is sound w
      obtain ⟨past, accounted⟩ := id after
      exact ⟨rfl, goOnLawful (fun write member => (accounted.ledger.logged.numbered write member).2) after introduces⟩
  | unstarted c serverAddr => exact is.elim
  | client r => exact is.elim
  | forwarding l => exact is.elim
  | refused error => exact is.elim

theorem progressKin {codec : DataFrameCodec} {s t : EstablishedDataSession S} {effects}
    (progress : Progress codec s effects t) : Kin s t := by
  cases progress <;> exact ⟨rfl, rfl, rfl, rfl, rfl⟩

theorem overKin {trusted h} {s t : EstablishedDataSession S} (runs : Over trusted h s) (kin : Kin s t) : Over trusted h t := by
  obtain ⟨session, opened, trust, metadata⟩ := runs
  refine ⟨session, ?_, trust, kin.metadata.trans metadata⟩
  rw [kin.transport]
  exact opened

theorem lawfulStep {settings : Settings} {trusted ready} {e : Endpoint S} {h effects} (advances : Advances trusted ready)
    (sound : Sound e) (lawful : Lawful trusted ready e h effects) (i : Input) :
    Lawful trusted ready (NoiseEndpoint.step settings e i).2 (recorded settings e i h) (effects ++ emitted e i) := by
  cases lawful with
  | waiting silent is =>
    obtain ⟨quiet, next⟩ := advances settings e i h silent is sound
    rw [quiet]
    exact next
  | @refused error h silent => exact .refused silent
  | @forwarding l h effects silent runs sequenced =>
    have same : Lawful trusted ready (.forwarding l) h (effects ++ []) := by
      rw [List.append_nil]
      exact .forwarding silent runs sequenced
    cases i with
    | start now unsent => exact same
    | wake w => exact same
    | turn it =>
      obtain ⟨codec, progress⟩ := iterateSpec l it
      have next := sequencedStep sequenced progress
      rw [← codec] at next
      exact .forwarding silent (overKin runs (progressKin progress)) next

theorem shownPackets (effects : List Effect) :
    (effects.filterMap shown).filterMap tunPacket = (delivered effects).map Prod.snd := by
  induction effects with
  | nil => rfl
  | cons effect rest ih =>
    cases effect with
    | noiseWrite call => exact ih
    | noiseRead call => exact ih
    | sendTo sequence destination frame packet => exact ih
    | tunWrite sequence packet => exact congrArg (List.cons packet) ih

theorem onlySent {α : Type} (destination : α → SocketAddr) (datagram : α → Bytes) (sends : List α) :
    (sends.map fun send => Output.sendTo (destination send) (datagram send)).filterMap tunPacket = [] := by
  induction sends with
  | nil => rfl
  | cons send rest ih => exact ih

theorem writtenDelivered (settings : Settings) (e : Endpoint S) (i : Input) :
    (NoiseEndpoint.step settings e i).1.filterMap tunPacket = (delivered (emitted e i)).map Prod.snd := by
  cases e with
  | unstarted c serverAddr => cases i <;> first | rfl | exact onlySent _ _ _
  | client r => cases i <;> first | rfl | exact onlySent _ _ _
  | server r => cases i <;> first | rfl | exact onlySent _ _ _
  | forwarding l => cases i <;> first | rfl | exact shownPackets _
  | refused error => cases i <;> rfl

theorem offeredWhole {codec : DataFrameCodec} {it packet permitAt answer recordAt}
    (offer : LoopTurns.Offered codec it packet permitAt answer recordAt) :
    it.wake = .tunRead (some packet) permitAt answer recordAt := by
  obtain ⟨raw, wake, cut⟩ := offer.wake
  have small := offer.small
  rw [cut, List.length_take] at small
  rw [List.take_of_length_le (by omega)] at cut
  rw [cut]
  exact wake

theorem expiredSilent {l : DataLoop S} {it : Iteration} (running : l.outcome = none)
    (expired : (idleCheck .idleCheck it.head ⟨l.session, []⟩).1.isOk = false) : (l.iterate it).1 = [] := by
  have quiet : Action.wp (idleCheck .idleCheck it.head) (fun _ _ => True) (fun _ t => t.emitted = []) ⟨l.session, []⟩ :=
    @idleSpec S .idleCheck it.head l.session l.session.lifetime [] _ _ (fun _ => trivial) (fun _ _ => rfl)
  rcases ran : idleCheck .idleCheck it.head ⟨l.session, []⟩ with ⟨stop | ⟨⟩, t⟩
  · have silent := Action.wpError quiet ran
    have ended : body l.codec l.mtu it ⟨l.session, []⟩ = (.error stop, t) := by
      change Action.andThen _ _ _ = _
      rw [Action.andThen, ran]
    simp only [DataLoop.iterate, running, ended]
    exact silent
  · rw [ran] at expired
    contradiction

theorem turnTaken {l : DataLoop S} {it : Iteration} (running : l.outcome = none)
    (state : l.session.lifetime.state = .established)
    (alive : (idleCheck .idleCheck it.head ⟨l.session, []⟩).1.isOk = true) :
    ((sent (l.iterate it).1).map Prod.snd).Sublist (taken (.forwarding l) (.turn it)) := by
  have ran := LoopTurns.iterateTurn it running state
  obtain ⟨head, wake⟩ := it
  have read packet permitAt answer recordAt :
      taken (.forwarding l) (.turn ⟨head, .tunRead (some packet) permitAt answer recordAt⟩) = [packet] := by
    simp only [taken, running, Option.isNone_none, Bool.true_and]
    exact if_pos alive
  generalize (l.iterate ⟨head, wake⟩).1 = effects at ran
  generalize (l.iterate ⟨head, wake⟩).2.session = s at ran
  generalize (l.iterate ⟨head, wake⟩).2.outcome = outcome at ran
  cases ran with
  | unsent offer fits framed failed =>
    cases offeredWhole offer
    rw [read]
    exact List.Sublist.refl _
  | sent offer fits framed sum =>
    cases offeredWhole offer
    rw [read]
    exact List.Sublist.refl _
  | unsealed offer unsent undelivered stopped =>
    rw [unsent]
    exact List.nil_sublist _
  | _ => exact List.nil_sublist _

theorem sentTaken {e : Endpoint S} (sound : Sound e) (i : Input) :
    ((sent (emitted e i)).map Prod.snd).Sublist (taken e i) := by
  cases e with
  | unstarted c serverAddr => exact List.nil_sublist _
  | client r => exact List.nil_sublist _
  | server r => exact List.nil_sublist _
  | refused error => exact List.nil_sublist _
  | forwarding l =>
    cases i with
    | start now unsent => exact List.nil_sublist _
    | wake w => exact List.nil_sublist _
    | turn it =>
      cases running : l.outcome with
      | some stop =>
        simp only [emitted, DataLoop.iterate, running]
        exact List.nil_sublist _
      | none =>
        cases alive : (idleCheck .idleCheck it.head ⟨l.session, []⟩).1.isOk with
        | true => exact turnTaken running (sound running) alive
        | false =>
          rw [emitted, expiredSilent running alive]
          exact List.nil_sublist _

end
end Crabnet.TunnelLife
