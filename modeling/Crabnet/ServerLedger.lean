import Crabnet.ServerCorrespondence

/-! What the server's library history says after any sequence of calls. Every
pending context has a transport of its own that has not sealed anything; every
transport has sealed at most once, with nonce 0; and a finish that was sealed was
also sent, in a report that announced its session. -/
namespace Crabnet.ServerLedger
open MachineWord SessionTypes Fallible HashTable CryptoBoundary ServerPolicy HandshakeTypes ServerCoordinator
open NoiseProfile SnowBoundary NoiseServer NoiseServerOutcomes ServerCoupling ServerCorrespondence
open CoordinatorStability

section
variable {S : Snow}

structure Backing (h : NoiseHistory) (allowed : List Bytes) (handle : Nat) (attempt : ClientAttemptId)
    (metadata : EstablishedSessionMetadata) (session : NoiseSession) : Prop where
  opened : h.opened[handle]? = some session
  prologue : buildPrologue attempt = .ok session.prologue
  allowed : session.remoteStatic ∈ allowed
  metadata : metadata = ⟨ServerProvider.sid session.hash, ServerProvider.identity session.remoteStatic⟩

structure Ledger (p : ServerProvider S) : Prop where
  logged : Logged p.history
  backed : ∀ id context, p.candidates.get id = some (.pending context) →
    ∃ session, Backing p.history p.allowedClientKeys context.transport.handle context.attempt context.metadata session
  unused : ∀ id context, p.candidates.get id = some (.pending context) → Unused p.history context.transport.handle
  distinct : ∀ id id' context context', p.candidates.get id = some (.pending context) →
    p.candidates.get id' = some (.pending context') → context.transport.handle = context'.transport.handle → id = id'

theorem ledgerEmpty {p : ServerProvider S} (logged : Logged p.history) (empty : p.candidates.len = 0) : Ledger p := by
  have absent := (HashMap.lenEqZeroIff _).mp empty
  constructor
  · exact logged
  · intro id context found
    rw [absent] at found
    contradiction
  · intro id context found
    rw [absent] at found
    contradiction
  · intro id id' context context' found
    rw [absent] at found
    contradiction

theorem ledgerDropping {p : ServerProvider S} (ledger : Ledger p) (ids) : Ledger (dropping p ids) := by
  have held : ∀ {id context}, (dropping p ids).candidates.get id = some (.pending context) →
      p.candidates.get id = some (.pending context) := by
    intro id context found
    rw [getDropping] at found
    split at found <;> try contradiction
    exact found
  exact ⟨ledger.logged, fun id context found => ledger.backed id context (held found),
    fun id context found => ledger.unused id context (held found),
    fun id id' context context' left right => ledger.distinct id id' context context' (held left) (held right)⟩

theorem backingOpen {h : NoiseHistory} {allowed handle attempt metadata session} (more)
    (backing : Backing h allowed handle attempt metadata session) :
    Backing (h.open_ more) allowed handle attempt metadata session := by
  obtain ⟨opened, prologue, listed, derived⟩ := backing
  refine ⟨?_, prologue, listed, derived⟩
  obtain ⟨inside, _⟩ := List.getElem?_eq_some_iff.mp opened
  rw [NoiseHistory.open_, List.getElem?_append_left inside]
  exact opened

theorem ledgerFresh {p q : ServerProvider S} {id attempt payload prepared} (ledger : Ledger p)
    (fresh : FreshHello p id attempt payload (.ok (.success prepared)) q) : Ledger q := by
  cases fresh with
  | welcomed transport hash remote out prologue built allowed =>
    constructor
    · exact loggedOpen ledger.logged _
    · intro id' context found
      simp only [ServerProvider.admitting, HashMap.getInsert] at found
      split at found
      · cases Option.some.inj found
        refine ⟨⟨prologue, p.localPrivateKey, remote, payload, out.toList, hash⟩, ?_, built, allowed, rfl⟩
        simp [ServerProvider.admitting, ServerProvider.pendingOf, NoiseHistory.open_]
      · obtain ⟨session, backing⟩ := ledger.backed id' context found
        exact ⟨session, backingOpen _ backing⟩
    · intro id' context found
      simp only [ServerProvider.admitting, HashMap.getInsert] at found
      split at found
      · cases Option.some.inj found
        exact unusedNext ledger.logged _
      · exact unusedOpen (ledger.unused id' context found) _
    · intro left right context context' foundLeft foundRight same
      simp only [ServerProvider.admitting, HashMap.getInsert] at foundLeft foundRight
      split at foundLeft <;> split at foundRight
      · rename_i here there
        exact here.trans there.symm
      · cases Option.some.inj foundLeft
        have below := (ledger.unused right context' foundRight).opened
        rw [← same] at below
        exact absurd below (Nat.lt_irrefl _)
      · cases Option.some.inj foundRight
        have below := (ledger.unused left context foundLeft).opened
        rw [same] at below
        exact absurd below (Nat.lt_irrefl _)
      · exact ledger.distinct left right context context' foundLeft foundRight same

theorem ledgerOpening {p : ServerProvider S} (ledger : Ledger p) (context payload) :
    Ledger (opening p context payload) :=
  ⟨⟨ledger.logged.numbered, ledger.logged.once⟩, fun id context found => by
    obtain ⟨session, opened, prologue, allowed, metadata⟩ := ledger.backed id context found
    exact ⟨session, opened, prologue, allowed, metadata⟩,
    fun id context found => ⟨(ledger.unused id context found).opened, (ledger.unused id context found).unwritten⟩,
    ledger.distinct⟩

structure Announced (report : Report (ServerProvider S)) (attempt : ClientAttemptId) (out : Bytes)
    (session : NoiseSession) : Prop where
  report : ∃ source, report.outbound = [⟨source, .serverFinish ⟨attempt, out⟩⟩] ∧
    ServerCoordinatorEvent.sessionEstablished source
      ⟨ServerProvider.sid session.hash, ServerProvider.identity session.remoteStatic⟩ ∈ report.events

def Standing (p : ServerProvider S) (attempt : ClientAttemptId) (metadata : EstablishedSessionMetadata) : Prop :=
  p.phase = .closed ∨ ∃ id context, p.established = some (id, .established context) ∧
    context.attempt = attempt ∧ context.metadata = metadata

def Confirmed (past : List (Result (ServerProvider S))) (allowed : List Bytes) (p : ServerProvider S) : Prop :=
  ∀ handle call (out : FixedBytes serverFinishPayloadLength), (handle, call) ∈ p.history.writes →
    call.result = some out.toList → ∃ session attempt report, p.history.opened[handle]? = some session ∧
      buildPrologue attempt = .ok session.prologue ∧ session.remoteStatic ∈ allowed ∧
      Except.ok report ∈ past ∧ Announced report attempt out.toList session ∧
      Standing p attempt ⟨ServerProvider.sid session.hash, ServerProvider.identity session.remoteStatic⟩

/- The history grows by sessions and by reads only, and what was established stands. -/
structure Silent (p q : ServerProvider S) : Prop where
  keys : q.allowedClientKeys = p.allowedClientKeys
  opened : ∃ more, q.history.opened = p.history.opened ++ more
  writes : q.history.writes = p.history.writes
  standing : q.phase = .closed ∨ q.phase = p.phase ∧ q.established = p.established

theorem silentDropping (p : ServerProvider S) (ids) : Silent p (dropping p ids) :=
  ⟨rfl, ⟨[], by simp [dropping]⟩, rfl, .inr ⟨rfl, rfl⟩⟩

theorem silentOpening {p q : ServerProvider S} (silent : Silent p q) (context payload) :
    Silent p (opening q context payload) :=
  ⟨silent.keys, silent.opened, silent.writes, silent.standing⟩

theorem silentShutdown (p : ServerProvider S) : Silent p p.shutdown.2 := by
  refine ⟨?_, ⟨[], ?_⟩, ?_, .inl (LawfulServerCrypto.shutdownPhase p)⟩
  · unfold ServerProvider.shutdown
    split <;> rfl
  · rw [shutdownHistory, List.append_nil]
  · rw [shutdownHistory]

theorem standingSilent {p q : ServerProvider S} {attempt metadata} (standing : Standing p attempt metadata)
    (silent : Silent p q) : Standing q attempt metadata := by
  rcases silent.standing with closed | ⟨phase, established⟩
  · exact .inl closed
  · unfold Standing
    rw [phase, established]
    exact standing

theorem confirmedSilent {past : List (Result (ServerProvider S))} {allowed} {p q : ServerProvider S} (later)
    (confirmed : Confirmed past allowed p) (silent : Silent p q) : Confirmed (past ++ later) allowed q := by
  intro handle call out member sealed_
  rw [silent.writes] at member
  obtain ⟨session, attempt, report, opened, prologue, listed, told, announced, standing⟩ :=
    confirmed handle call out member sealed_
  obtain ⟨more, grown⟩ := silent.opened
  refine ⟨session, attempt, report, ?_, prologue, listed, List.mem_append_left _ told, announced,
    standingSilent standing silent⟩
  obtain ⟨inside, _⟩ := List.getElem?_eq_some_iff.mp opened
  rw [grown, List.getElem?_append_left inside]
  exact opened

theorem helloSilent {p q : ServerProvider S} {source attempt payload answer}
    (move : HelloMove p source attempt payload answer q) : Silent p q := by
  cases move with
  | refused e limit => exact ⟨rfl, ⟨[], by simp⟩, rfl, .inr ⟨rfl, rfl⟩⟩
  | dropped ids events reason => exact silentDropping p ids
  | repeated ids events id context found => exact silentDropping p ids
  | broken ids id e q fresh =>
    cases fresh
    exact ⟨rfl, ⟨[], by simp [dropping]⟩, rfl, .inr ⟨rfl, rfl⟩⟩
  | welcomed ids events id prepared q fresh =>
    cases fresh
    exact ⟨rfl, ⟨_, rfl⟩, rfl, .inr ⟨rfl, rfl⟩⟩

theorem helloLedger {p q : ServerProvider S} {source attempt payload report} (ledger : Ledger p)
    (move : HelloMove p source attempt payload (.ok report) q) : Ledger q := by
  cases move with
  | dropped ids events reason => exact ledgerDropping ledger ids
  | repeated ids events id context found => exact ledgerDropping ledger ids
  | welcomed ids events id prepared q fresh => exact ledgerFresh (ledgerDropping ledger ids) fresh

theorem helloLogged {p q : ServerProvider S} {source attempt payload e} (ledger : Ledger p)
    (move : HelloMove p source attempt payload (.error e) q) : Logged q.history := by
  cases move with
  | refused e limit => exact ledger.logged
  | broken ids id e q fresh =>
    cases fresh
    exact ledger.logged

theorem finishLogged {c : Server S} {q : ServerProvider S} {source attempt payload now answer} (ledger : Ledger c.crypto)
    (move : FinishMove c source attempt payload now answer q) : Logged q.history := by
  have reading : ∀ handle call, Logged (c.crypto.history.read_ handle call) :=
    fun _ _ => ⟨ledger.logged.numbered, ledger.logged.once⟩
  cases move with
  | dropped expired m reason ex reg decision => exact ledger.logged
  | duplicate session state peer same => exact ledger.logged
  | unconfirmed expired id context plain permitted opens => exact reading _ _
  | established expired id context plain record out permitted opens recorded written =>
    have unused := ledger.unused id context permitted.found
    exact loggedWrote (reading _ _) ⟨unused.opened, unused.unwritten⟩ rfl
  | failed expired id context e q permitted answer =>
    cases answer with
    | misfit sized => exact ledger.logged
    | unread sized refused => exact reading _ _
    | unwritten plain record opens recorded short =>
      have unused := ledger.unused id context permitted.found
      exact loggedWrote (reading _ _) ⟨unused.opened, unused.unwritten⟩ rfl

theorem finishLedger {c : Server S} {q : ServerProvider S} {source attempt payload now report} (ledger : Ledger c.crypto)
    (move : FinishMove c source attempt payload now (.ok report) q) : Ledger q := by
  have logged := finishLogged ledger move
  cases move with
  | dropped expired m reason ex reg decision => exact ledgerDropping ledger _
  | unconfirmed expired id context plain permitted opens =>
    exact ledgerDropping (ledgerOpening (ledgerDropping ledger _) _ _) _
  | established expired id context plain record out permitted opens recorded written => exact ledgerEmpty logged rfl

def ServerHolds (server : Server S) (attempt : ClientAttemptId) (metadata : EstablishedSessionMetadata) : Prop :=
  server.policy.state = .closed ∨ ∃ session, server.policy.state = .established session ∧
    session.clientAttemptId = attempt ∧ session.metadata = metadata

theorem standingHolds {server : Server S} {attempt metadata} (corresponds : Corresponds server)
    (standing : Standing server.crypto attempt metadata) : ServerHolds server attempt metadata := by
  cases state : server.policy.state with
  | closed => exact .inl state
  | listening =>
    have held := (coupledListening state).mp corresponds.coupled
    rcases standing with closed | ⟨_, _, established, _⟩
    · rw [held.phase] at closed
      contradiction
    · rw [held.unestablished] at established
      contradiction
  | established session =>
    have held := (coupledEstablished state).mp corresponds.coupled
    rcases standing with closed | ⟨id, context, established, attempt, metadata⟩
    · rw [held.phase] at closed
      contradiction
    · obtain ⟨context', same, attempt', metadata'⟩ := held.context
      cases Option.some.inj (established.symm.trans same)
      exact .inr ⟨session, state, attempt'.symm.trans attempt, metadata'.symm.trans metadata⟩

-- While a candidate can still finish, nothing has been established or shut down.
theorem unconfirmedYet {c : Server S} {past allowed id context} (corresponds : Corresponds c)
    (confirmed : Confirmed past allowed c.crypto) (found : c.crypto.candidates.get id = some context)
    {handle call} {out : FixedBytes serverFinishPayloadLength} (member : (handle, call) ∈ c.crypto.history.writes) :
    call.result ≠ some out.toList := by
  intro sealed_
  obtain ⟨_, _, _, _, _, _, _, _, standing⟩ := confirmed handle call out member sealed_
  have empty : c.crypto.candidates.len = 0 := by
    rcases standingHolds corresponds standing with closed | ⟨session, established, _⟩
    · exact ((coupledClosed closed).mp corresponds.coupled).empty
    · exact ((coupledEstablished established).mp corresponds.coupled).empty
  rw [(HashMap.lenEqZeroIff _).mp empty] at found
  contradiction

theorem finishConfirmed {c : Server S} {q : ServerProvider S} {source attempt payload now} {past result allowed}
    {answer : Answer S} (corresponds : Corresponds c) (ledger : Ledger c.crypto)
    (keys : c.crypto.allowedClientKeys = allowed) (confirmed : Confirmed past allowed c.crypto)
    (move : FinishMove c source attempt payload now answer q)
    (told : ∀ report, answer = .ok report → result = .ok report) : Confirmed (past ++ [result]) allowed q := by
  have quiet : ∀ {t}, Silent c.crypto t → Confirmed (past ++ [result]) allowed t :=
    fun silent => confirmedSilent [result] confirmed silent
  cases move with
  | dropped expired m reason ex reg decision => exact quiet (silentDropping _ _)
  | duplicate session state peer same => exact quiet ⟨rfl, ⟨[], by simp⟩, rfl, .inr ⟨rfl, rfl⟩⟩
  | unconfirmed expired id context plain permitted opens =>
    obtain ⟨_, opened, writes, standing⟩ := silentOpening (silentDropping c.crypto (expiredIds expired)) context payload
    exact quiet ⟨rfl, opened, writes, standing⟩
  | failed expired id context e q permitted answer =>
    cases answer with
    | misfit sized => exact quiet (silentDropping _ _)
    | unread sized refused => exact quiet (silentOpening (silentDropping _ _) context payload)
    | unwritten plain record opens recorded short =>
      intro handle call out member sealed_
      rcases List.mem_append.mp member with old | new
      · exact absurd sealed_ (unconfirmedYet corresponds confirmed permitted.found old)
      · cases List.mem_singleton.mp new
        exact absurd sealed_ (short out)
  | established expired id context plain record out permitted opens recorded written =>
    intro handle call out' member sealed_
    rcases List.mem_append.mp member with old | new
    · exact absurd sealed_ (unconfirmedYet corresponds confirmed permitted.found old)
    · cases List.mem_singleton.mp new
      cases FixedBytes.ext (Option.some.inj (written.symm.trans sealed_))
      obtain ⟨session, opened, prologue, listed, metadata⟩ := ledger.backed id context permitted.found
      rw [permitted.attempt] at prologue
      rw [keys] at listed
      refine ⟨session, attempt, ⟨[⟨source, .serverFinish ⟨attempt, out.toList⟩⟩],
        expired.map expiredEvent ++ [.sessionEstablished source context.metadata]⟩, opened, prologue, listed,
        List.mem_append_right _ ?_, ⟨source, rfl, ?_⟩, .inr ⟨id, _, rfl, rfl, metadata⟩⟩
      · exact List.mem_singleton.mpr (told _ rfl).symm
      · rw [← metadata]
        exact List.mem_append_right _ (List.mem_singleton.mpr rfl)

structure Accounted (allowed : List Bytes) (past : List (Result (ServerProvider S))) (c : Server S) : Prop where
  corresponds : Corresponds c
  ledger : Ledger c.crypto
  keys : c.crypto.allowedClientKeys = allowed
  confirmed : Confirmed past allowed c.crypto

theorem shutdownLedger {p : ServerProvider S} (ended : Ended p.shutdown.2) (logged : Logged p.history) :
    Ledger p.shutdown.2 := by
  refine ledgerEmpty ?_ ended.empty
  rw [shutdownHistory]
  exact logged

theorem shutAccounted {allowed past} {t : Server S} {q : ServerProvider S} (after : Corresponds t)
    (shut : t.crypto = q.shutdown.2) (closed : t.policy.state = .closed) (logged : Logged q.history)
    (keys : q.allowedClientKeys = allowed) (confirmed : Confirmed past allowed q) : Accounted allowed past t := by
  have ended := (coupledClosed closed).mp after.coupled
  rw [shut] at ended
  refine ⟨after, ?_, ?_, ?_⟩
  · rw [shut]
    exact shutdownLedger ended logged
  · rw [shut]
    exact (silentShutdown q).keys.trans keys
  · rw [shut, ← List.append_nil past]
    exact confirmedSilent [] confirmed (silentShutdown q)

theorem helloAccounted {allowed} {past : List (Result (ServerProvider S))} {c : Server S}
    (accounted : Accounted allowed past c) (source message now) :
    Accounted allowed (past ++ [(receiveClientHello source message now c).1])
      (receiveClientHello source message now c).2 := by
  obtain ⟨corresponds, ledger, keys, confirmed⟩ := accounted
  obtain ⟨after, concluded⟩ := helloConcludes corresponds source message now
  generalize receiveClientHello source message now c = outcome at concluded after ⊢
  obtain ⟨result, t⟩ := outcome
  cases result with
  | ok report =>
    have silent := helloSilent concluded
    exact ⟨after, helloLedger ledger concluded, silent.keys.trans keys, confirmedSilent _ confirmed silent⟩
  | error fatal =>
    obtain ⟨q, move, shut, closed⟩ := concluded
    have silent := helloSilent move
    exact shutAccounted after shut closed (helloLogged ledger move) (silent.keys.trans keys)
      (confirmedSilent _ confirmed silent)

theorem finishAccounted {allowed} {past : List (Result (ServerProvider S))} {c : Server S}
    (accounted : Accounted allowed past c) (source message now) :
    Accounted allowed (past ++ [(receiveClientFinish source message now c).1])
      (receiveClientFinish source message now c).2 := by
  obtain ⟨corresponds, ledger, keys, confirmed⟩ := accounted
  obtain ⟨after, concluded⟩ := finishConcludes corresponds source message now
  generalize receiveClientFinish source message now c = outcome at concluded after ⊢
  obtain ⟨result, t⟩ := outcome
  cases result with
  | ok report =>
    exact ⟨after, finishLedger ledger concluded, (finishKeeps concluded).allowed.trans keys,
      finishConfirmed corresponds ledger keys confirmed concluded (fun _ same => by cases same; rfl)⟩
  | error fatal =>
    obtain ⟨q, move, shut, closed⟩ := concluded
    exact shutAccounted after shut closed (finishLogged ledger move) ((finishKeeps move).allowed.trans keys)
      (finishConfirmed corresponds ledger keys confirmed move (fun _ impossible => by cases impossible))

theorem stepAccounted {allowed} {past : List (Result (ServerProvider S))} {c : Server S}
    (accounted : Accounted allowed past c) (call : ServerCall (ServerProvider S)) :
    Accounted allowed (past ++ [(serverStep c call).1]) (serverStep c call).2 := by
  cases call with
  | clientHello source message now => exact helloAccounted accounted source message now
  | clientFinish source message now => exact finishAccounted accounted source message now
  | checkTimeouts now =>
    obtain ⟨after, report, ids, _, _, trimmed⟩ := timeoutsConclude accounted.corresponds now
    change Accounted allowed _ (ServerCoordinator.checkTimeouts now c).2
    refine ⟨after, ?_, ?_, ?_⟩
    · rw [trimmed]
      exact ledgerDropping accounted.ledger ids
    · rw [trimmed]
      exact accounted.keys
    · rw [trimmed]
      exact confirmedSilent _ accounted.confirmed (silentDropping _ _)
  | shutdown =>
    obtain ⟨after, shut, _⟩ := shutdownConcludes accounted.corresponds
    change Accounted allowed _ (shutdownAll c).2
    refine ⟨after, ?_, ?_, ?_⟩
    · rw [shut]
      exact shutdownLedger (coupledShutdown accounted.corresponds.coupled) accounted.ledger.logged
    · rw [shut]
      exact (silentShutdown _).keys.trans accounted.keys
    · rw [shut]
      exact confirmedSilent _ accounted.confirmed (silentShutdown _)

theorem startAccounted (policy sources ids localPrivateKey allowedClientKeys hasher rng) :
    Accounted (S := S) allowedClientKeys []
      ⟨.new policy sources ids, .new localPrivateKey allowedClientKeys hasher rng, .running⟩ := by
  obtain ⟨c, _, rfl, corresponds⟩ :=
    @builtCorresponds S policy sources ids localPrivateKey allowedClientKeys hasher rng
  refine ⟨corresponds, ledgerEmpty ⟨?_, List.nodup_nil⟩ rfl, rfl, ?_⟩
  · intro write member
    exact absurd member List.not_mem_nil
  · intro handle call out member
    exact absurd member List.not_mem_nil

end
end Crabnet.ServerLedger
