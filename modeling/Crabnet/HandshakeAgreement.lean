import Crabnet.ClientLedger
import Crabnet.ServerRemoteInput

/-! One client and one server over a network that does what it likes with their
messages: each may receive anything from anywhere, at any time, in any order. A
client that has established a session has one that the server announced. -/
namespace Crabnet.HandshakeAgreement
open MachineWord SessionTypes Fallible CryptoBoundary ServerPolicy ClientPolicy HandshakeTypes
open NoiseProfile SnowBoundary NoiseServer NoiseClient CoordinatorStability ServerCoupling
open ClientLedger (Client)

section
variable {S : Snow}

structure Parties (S : Snow) where
  client : Client S
  server : Server S

inductive Call (S : Snow) where
  | client (call : ClientCall (ClientProvider S))
  | server (call : ServerCall (ServerProvider S))

inductive Output (S : Snow) where
  | client (result : ClientCoordinator.Result (ClientProvider S))
  | server (result : ServerCoordinator.Result (ServerProvider S))

def step (parties : Parties S) : Call S → Output S × Parties S
  | .client call =>
    let answer := clientStep parties.client call
    (.client answer.1, {parties with client := answer.2})
  | .server call =>
    let answer := serverStep parties.server call
    (.server answer.1, {parties with server := answer.2})

def serverResults (trace : List (Output S)) : List (ServerCoordinator.Result (ServerProvider S)) :=
  trace.filterMap fun | .server result => some result | .client _ => none

/- What is assumed of the library. A client's transport whose remote key is the
server's opens only what the server sealed, on a transport of the same handshake
hash; and a hash that both ends have says the same of both. -/
structure IdealNoise (publicOf : Bytes → Bytes) (serverPrivate : Bytes) (client server : NoiseHistory) : Prop where
  matched : ∀ handle ours read plain, client.opened[handle]? = some ours →
    ours.remoteStatic = publicOf serverPrivate → (handle, read) ∈ client.reads → read.result = some plain →
    ∃ peer theirs, server.opened[peer]? = some theirs ∧ theirs.hash = ours.hash ∧
      (peer, ⟨read.nonce, plain, some read.input⟩) ∈ server.writes
  bound : ∀ ours ∈ client.opened, ∀ theirs ∈ server.opened, theirs.hash = ours.hash →
    theirs.prologue = ours.prologue ∧ theirs.remoteStatic = publicOf ours.localPrivate ∧
    ours.remoteStatic = publicOf theirs.localPrivate ∧ theirs.clientHello = ours.clientHello ∧
    theirs.serverHello = ours.serverHello

structure Accounted (own pin : Bytes) (allowed : List Bytes) (past : List (Output S)) (parties : Parties S) : Prop where
  client : ClientLedger.Accounted own pin parties.client
  server : ServerLedger.Accounted allowed (serverResults past) parties.server

theorem stepAccounted {own pin allowed} {past : List (Output S)} {parties : Parties S}
    (accounted : Accounted own pin allowed past parties) (call : Call S) :
    Accounted own pin allowed (past ++ [(step parties call).1]) (step parties call).2 := by
  obtain ⟨client, server⟩ := accounted
  cases call with
  | client call =>
    refine ⟨ClientLedger.stepAccounted client call, ?_⟩
    have same : serverResults (past ++ [(step parties (.client call)).1]) = serverResults past := by
      simp [serverResults, step]
    rw [same]
    exact server
  | server call =>
    refine ⟨client, ?_⟩
    have more : serverResults (past ++ [(step parties (.server call)).1]) =
        serverResults past ++ [(serverStep parties.server call).1] := by
      simp [serverResults, step]
    rw [more]
    exact ServerLedger.stepAccounted server call

theorem serverMember {trace : List (Output S)} {result} (member : result ∈ serverResults trace) :
    Output.server result ∈ trace := by
  obtain ⟨output, inside, same⟩ := List.mem_filterMap.mp member
  cases output with
  | client _ => contradiction
  | server other =>
    cases Option.some.inj same
    exact inside

structure ServerAgrees (trace : List (Output S)) (server : Server S) (attempt : ClientAttemptId)
    (sessionId : SessionId) (client : Bytes) : Prop where
  reported : ∃ source finish report, Output.server (.ok report) ∈ trace ∧
    report.outbound = [⟨source, .serverFinish ⟨attempt, finish⟩⟩] ∧
    .sessionEstablished source ⟨sessionId, ServerProvider.identity client⟩ ∈ report.events
  recorded : ServerLedger.ServerHolds server attempt ⟨sessionId, ServerProvider.identity client⟩

theorem accountedAgrees {publicOf : Bytes → Bytes} {own serverPrivate : Bytes} {allowed} {past : List (Output S)}
    {parties : Parties S} (accounted : Accounted own (publicOf serverPrivate) allowed past parties)
    (ideal : IdealNoise publicOf serverPrivate parties.client.crypto.history parties.server.crypto.history)
    {metadata since} (established : parties.client.policy.state = .established metadata since) :
    metadata.peerIdentity = ClientProvider.identity (publicOf serverPrivate) ∧ publicOf own ∈ allowed ∧
    ∃ attempt transport, parties.client.crypto.context = some (.established attempt transport metadata) ∧
      ServerAgrees past parties.server attempt metadata.sessionId (publicOf own) := by
  obtain ⟨client, server⟩ := accounted
  obtain ⟨attempt, transport, context⟩ := client.linked metadata since established
  obtain ⟨⟨ours, backing, key⟩, message, plain, read, sized, valid⟩ := client.ledger.held _ context
  have pinned : ours.remoteStatic = publicOf serverPrivate := List.mem_singleton.mp backing.allowed
  obtain ⟨peer, theirs, opened, hash, wrote⟩ := ideal.matched _ ours _ plain backing.opened pinned read rfl
  obtain ⟨theirs', attempt', report, opened', prologue, listed, told, ⟨source, outbound, event⟩, standing⟩ :=
    server.confirmed peer _ ⟨message, sized⟩ wrote rfl
  cases Option.some.inj (opened.symm.trans opened')
  obtain ⟨samePrologue, identified, _⟩ :=
    ideal.bound ours (List.mem_of_getElem? backing.opened) theirs (List.mem_of_getElem? opened) hash
  -- The prologue carries the attempt, so both ends mean the same one.
  rw [samePrologue] at prologue
  cases prologueBinds backing.prologue prologue
  rw [identified, key] at listed event standing
  rw [hash] at event standing
  have derived := backing.metadata
  refine ⟨?_, listed, attempt, transport, context, ?_⟩
  · rw [derived, pinned]
    rfl
  · rw [derived]
    exact ⟨⟨source, message, report, serverMember told, outbound, event⟩,
      ServerLedger.standingHolds server.corresponds standing⟩

theorem handshakeAgreement {publicOf : Bytes → Bytes} {clientPrivate serverPrivate : Bytes} {allowed : List Bytes}
    {clientPolicy : ClientHandshake} {clientRng serverRng : Nat → S.Entropy} {policy sources ids hasher}
    {client : Client S} {server : Server S}
    (builtClient : ClientCoordinator.build clientPolicy
      (ClientProvider.new clientPrivate (publicOf serverPrivate) clientRng) = .ok client)
    (builtServer : ServerCoordinator.build (.new policy sources ids)
      (ServerProvider.new serverPrivate allowed hasher serverRng) = .ok server)
    (calls : List (Call S)) :
    let past := run step ⟨client, server⟩ calls
    IdealNoise publicOf serverPrivate past.2.client.crypto.history past.2.server.crypto.history →
    ∀ metadata since, past.2.client.policy.state = .established metadata since →
      metadata.peerIdentity = ClientProvider.identity (publicOf serverPrivate) ∧ publicOf clientPrivate ∈ allowed ∧
      ∃ attempt transport, past.2.client.crypto.context = some (.established attempt transport metadata) ∧
        ServerAgrees past.1 past.2.server attempt metadata.sessionId (publicOf clientPrivate) := by
  intro past ideal metadata since established
  have start : Accounted clientPrivate (publicOf serverPrivate) allowed [] ⟨client, server⟩ := by
    refine ⟨ClientLedger.startAccounted builtClient, ?_⟩
    cases builtServer
    exact ServerLedger.startAccounted policy sources ids serverPrivate allowed hasher serverRng
  have accounted := @runHistory _ _ _ step (Accounted clientPrivate (publicOf serverPrivate) allowed)
    (fun _ _ call ok => stepAccounted ok call) [] ⟨client, server⟩ start calls
  exact accountedAgrees accounted ideal established

end

/-! One honest run, over the library without keys, where a key is its own public key. -/
section Plain
open ServerRemoteInput

def plainGlobalCalls : List (Call plainSnow) :=
  [.client (.start 1),
    .server (.clientHello (plainEndpoint 1000) ⟨plainAttempt, plainHello⟩ 1),
    .client (.serverHello (plainEndpoint 2000) ⟨plainAttempt, ClientLedger.plainServerHello⟩ 2),
    .server (.clientFinish (plainEndpoint 1000) ⟨plainAttempt, plainFinish⟩ 2),
    .client (.serverFinish (plainEndpoint 2000) ⟨plainAttempt, plainAnswer⟩ 3)]

def plainRun : List (Output plainSnow) × Parties plainSnow := run step ⟨plainClient, plainServer⟩ plainGlobalCalls

def plainEnds (localPrivate remoteStatic : Bytes) : NoiseSession :=
  ⟨ClientProvider.sessionPrologue plainAttempt, localPrivate, remoteStatic, plainHello, ClientLedger.plainServerHello,
    .copyFrom 32 (ClientProvider.sessionPrologue plainAttempt)⟩

theorem plainIdeal : IdealNoise (fun key => key) plainServerKey plainRun.2.client.crypto.history
    plainRun.2.server.crypto.history := by
  have ours : plainRun.2.client.crypto.history.opened = [plainEnds plainClientKey plainServerKey] := by decide +kernel
  have theirs : plainRun.2.server.crypto.history.opened = [plainEnds plainServerKey plainClientKey] := by decide +kernel
  have reads : plainRun.2.client.crypto.history.reads =
      [(0, ⟨0, plainAnswer, some (controlRecord .serverFinish plainAttempt)⟩)] := by decide +kernel
  have writes : plainRun.2.server.crypto.history.writes =
      [(0, ⟨0, controlRecord .serverFinish plainAttempt, some plainAnswer⟩)] := by decide +kernel
  constructor
  · intro handle session read plain opened _ member result
    rw [reads, List.mem_singleton] at member
    cases member
    cases Option.some.inj result
    rw [ours] at opened
    cases Option.some.inj opened
    rw [theirs, writes]
    exact ⟨0, _, rfl, rfl, List.mem_singleton.mpr rfl⟩
  · intro session inside peer outside _
    rw [ours, List.mem_singleton] at inside
    rw [theirs, List.mem_singleton] at outside
    subst inside outside
    exact ⟨rfl, rfl, rfl, rfl, rfl⟩

theorem plainHandshakeAgrees :
    IdealNoise (fun key => key) plainServerKey plainRun.2.client.crypto.history plainRun.2.server.crypto.history ∧
    plainRun.2.client.policy.state = .established ClientLedger.plainMetadata 3 ∧
    ∃ attempt, ServerAgrees plainRun.1 plainRun.2.server attempt ClientLedger.plainMetadata.sessionId plainClientKey := by
  have ideal := plainIdeal
  have established : plainRun.2.client.policy.state = .established ClientLedger.plainMetadata 3 := by decide +kernel
  unfold plainRun at ideal established ⊢
  obtain ⟨_, _, attempt, _, _, agrees⟩ := @handshakeAgreement plainSnow (fun key => key) plainClientKey plainServerKey
    [plainClientKey] plainClient.policy (fun _ => ()) (fun _ => ()) _ _ _ (.listing _ _) plainClient plainServer rfl rfl
    plainGlobalCalls ideal ClientLedger.plainMetadata 3 established
  exact ⟨ideal, established, attempt, agrees⟩

end Plain
end Crabnet.HandshakeAgreement
