import Crabnet.CoordinatorStability
import Crabnet.HandshakeAdapter

/-! What a datagram means at each end: the coordinator's call that it stands for,
or the reason why it stands for none. A message of its exact length is carried by
its encoding to the one call that hands it over. -/
namespace Crabnet.FrameExchange
open MachineWord SessionTypes CryptoBoundary HandshakeTypes NoiseProfile HandshakeCodec HandshakeExact SnowBoundary
open NoiseServer NoiseClient HandshakeAdapter CoordinatorStability

section
variable {S : Snow}

def serverCallOf (codec : V2HandshakeCodec) (source : SocketAddr) (datagram : Bytes) (now : Instant) :
    Except AdapterError (ServerCall (ServerProvider S)) :=
  match codec.decode datagram with
  | .error e => .error (.decode e)
  | .ok frame =>
    match classifyForServer frame with
    | .error e => .error (.direction e)
    | .ok (.clientHello body) =>
      match bodyPayload body .clientHello with
      | .error e => .error e
      | .ok payload => .ok (.clientHello source ⟨body.clientAttemptId, payload⟩ now)
    | .ok (.clientFinish body) =>
      match bodyPayload body .clientFinish with
      | .error e => .error e
      | .ok payload => .ok (.clientFinish source ⟨body.clientAttemptId, payload⟩ now)

def clientCallOf (codec : V2HandshakeCodec) (source : SocketAddr) (datagram : Bytes) (now : Instant) :
    Except AdapterError (ClientCall (ClientProvider S)) :=
  match codec.decode datagram with
  | .error e => .error (.decode e)
  | .ok frame =>
    match classifyForClient frame with
    | .error e => .error (.direction e)
    | .ok (.serverHello body) =>
      match bodyPayload body .serverHello with
      | .error e => .error e
      | .ok payload => .ok (.serverHello source ⟨body.clientAttemptId, payload⟩ now)
    | .ok (.serverFinish body) =>
      match bodyPayload body .serverFinish with
      | .error e => .error e
      | .ok payload => .ok (.serverFinish source ⟨body.clientAttemptId, payload⟩ now)

theorem serverFrameCall (codec : V2HandshakeCodec) (source datagram now)
    (c : ServerCoordinator.ServerHandshakeCoordinator (ServerProvider S)) :
    receiveServerFrame codec source datagram now c =
      match serverCallOf codec source datagram now with
      | .error e => (.error e, c)
      | .ok call => (serverReport codec (serverStep c call).1, (serverStep c call).2) := by
  unfold receiveServerFrame serverCallOf
  cases codec.decode datagram with
  | error e => rfl
  | ok frame =>
    cases frame with
    | serverHello body => rfl
    | serverFinish body => rfl
    | clientHello body =>
      simp only [classifyForServer]
      cases bodyPayload body .clientHello <;> rfl
    | clientFinish body =>
      simp only [classifyForServer]
      cases bodyPayload body .clientFinish <;> rfl

theorem clientFrameCall (codec : V2HandshakeCodec) (source datagram now)
    (c : ClientCoordinator.ClientHandshakeCoordinator (ClientProvider S)) :
    receiveClientFrame codec source datagram now c =
      match clientCallOf codec source datagram now with
      | .error e => (.error e, c)
      | .ok call => (clientReport codec (clientStep c call).1, (clientStep c call).2) := by
  unfold receiveClientFrame clientCallOf
  cases codec.decode datagram with
  | error e => rfl
  | ok frame =>
    cases frame with
    | clientHello body => rfl
    | clientFinish body => rfl
    | serverHello body =>
      simp only [classifyForClient]
      cases bodyPayload body .serverHello <;> rfl
    | serverFinish body =>
      simp only [classifyForClient]
      cases bodyPayload body .serverFinish <;> rfl

def isRemoteFrameRejection : AdapterError → Bool
  | .decode _ | .direction _ | .payloadLength _ _ _ => true
  | .coordinator _ | .encode _ => false

theorem payloadRejected {body kind e} (failed : bodyPayload body kind = .error e) : isRemoteFrameRejection e = true := by
  unfold bodyPayload at failed
  split at failed <;> try contradiction
  cases Except.error.inj failed
  rfl

theorem payloadExact {body kind payload} (ok : bodyPayload body kind = .ok payload) :
    payload = body.opaquePayload ∧ payload.length = payloadLength kind := by
  unfold bodyPayload at ok
  split at ok <;> try contradiction
  rename_i sized
  cases Except.ok.inj ok
  exact ⟨rfl, not_not.mp sized⟩

theorem serverCallCases {codec : V2HandshakeCodec} {source datagram now} {call : ServerCall (ServerProvider S)}
    (stands : serverCallOf codec source datagram now = .ok call) :
    (∃ body, codec.decode datagram = .ok (.clientHello body) ∧ body.opaquePayload.length = clientHelloPayloadLength ∧
      call = .clientHello source ⟨body.clientAttemptId, body.opaquePayload⟩ now) ∨
    ∃ body, codec.decode datagram = .ok (.clientFinish body) ∧ body.opaquePayload.length = clientFinishPayloadLength ∧
      call = .clientFinish source ⟨body.clientAttemptId, body.opaquePayload⟩ now := by
  unfold serverCallOf at stands
  cases decoded : codec.decode datagram with
  | error e =>
    rw [decoded] at stands
    contradiction
  | ok frame =>
    simp only [decoded] at stands
    cases frame with
    | serverHello body | serverFinish body => contradiction
    | clientHello body =>
      simp only [classifyForServer] at stands
      cases opened : bodyPayload body .clientHello with
      | error e =>
        rw [opened] at stands
        contradiction
      | ok payload =>
        rw [opened] at stands
        obtain ⟨rfl, sized⟩ := payloadExact opened
        exact .inl ⟨body, rfl, sized, (Except.ok.inj stands).symm⟩
    | clientFinish body =>
      simp only [classifyForServer] at stands
      cases opened : bodyPayload body .clientFinish with
      | error e =>
        rw [opened] at stands
        contradiction
      | ok payload =>
        rw [opened] at stands
        obtain ⟨rfl, sized⟩ := payloadExact opened
        exact .inr ⟨body, rfl, sized, (Except.ok.inj stands).symm⟩

theorem serverCallRejected {codec : V2HandshakeCodec} {source datagram now e}
    (failed : serverCallOf (S := S) codec source datagram now = .error e) : isRemoteFrameRejection e = true := by
  unfold serverCallOf at failed
  cases decoded : codec.decode datagram with
  | error e =>
    rw [decoded] at failed
    cases Except.error.inj failed
    rfl
  | ok frame =>
    simp only [decoded] at failed
    cases frame with
    | serverHello body | serverFinish body =>
      cases Except.error.inj failed
      rfl
    | clientHello body | clientFinish body =>
      simp only [classifyForServer] at failed
      split at failed <;> try contradiction
      cases Except.error.inj failed
      exact payloadRejected ‹_›

theorem clientCallRejected {codec : V2HandshakeCodec} {source datagram now e}
    (failed : clientCallOf (S := S) codec source datagram now = .error e) : isRemoteFrameRejection e = true := by
  unfold clientCallOf at failed
  cases decoded : codec.decode datagram with
  | error e =>
    rw [decoded] at failed
    cases Except.error.inj failed
    rfl
  | ok frame =>
    simp only [decoded] at failed
    cases frame with
    | clientHello body | clientFinish body =>
      cases Except.error.inj failed
      rfl
    | serverHello body | serverFinish body =>
      simp only [classifyForClient] at failed
      split at failed <;> try contradiction
      cases Except.error.inj failed
      exact payloadRejected ‹_›

theorem encodeFailed {codec : V2HandshakeCodec} {kind attempt payload e}
    (failed : encode codec kind attempt payload = .error e) : isRemoteFrameRejection e = false := by
  unfold encode at failed
  split at failed <;> try contradiction
  cases Except.error.inj failed
  rfl

theorem encodeAllFailed {α β : Type} {f : α → Except AdapterError β} {items : List α} {e}
    (failed : encodeAll f items = .error e) : ∃ a, f a = .error e := by
  induction items with
  | nil => contradiction
  | cons a rest ih =>
    simp only [encodeAll] at failed
    cases head : f a with
    | error e' =>
      rw [head] at failed
      cases Except.error.inj failed
      exact ⟨a, head⟩
    | ok b =>
      simp only [head] at failed
      split at failed <;> try contradiction
      cases Except.error.inj failed
      exact ih ‹_›

theorem clientReportFailed {codec : V2HandshakeCodec} {result : ClientCoordinator.Result (ClientProvider S)} {e}
    (failed : clientReport codec result = .error e) : isRemoteFrameRejection e = false := by
  cases result with
  | error fatal =>
    cases Except.error.inj failed
    rfl
  | ok report =>
    simp only [clientReport] at failed
    split at failed <;> try contradiction
    cases Except.error.inj failed
    obtain ⟨message, encoding⟩ := encodeAllFailed ‹_›
    cases message <;> exact encodeFailed encoding

theorem serverReportFailed {codec : V2HandshakeCodec} {result : ServerCoordinator.Result (ServerProvider S)} {e}
    (failed : serverReport codec result = .error e) : isRemoteFrameRejection e = false := by
  cases result with
  | error fatal =>
    cases Except.error.inj failed
    rfl
  | ok report =>
    simp only [serverReport] at failed
    split at failed <;> try contradiction
    cases Except.error.inj failed
    obtain ⟨⟨destination, message⟩, encoding⟩ := encodeAllFailed ‹_›
    simp only [encodeServer] at encoding
    split at encoding <;> try contradiction
    cases Except.error.inj encoding
    cases message <;> exact encodeFailed ‹_›

theorem serverRejectionKeeps {codec : V2HandshakeCodec} {source datagram now e}
    {c : ServerCoordinator.ServerHandshakeCoordinator (ServerProvider S)}
    (failed : (receiveServerFrame codec source datagram now c).1 = .error e) (rejection : isRemoteFrameRejection e = true) :
    (receiveServerFrame codec source datagram now c).2 = c := by
  rw [serverFrameCall] at failed ⊢
  cases stands : serverCallOf codec source datagram now with
  | error e => rfl
  | ok call =>
    simp only [stands] at failed
    rw [serverReportFailed failed] at rejection
    contradiction

theorem clientRejectionKeeps {codec : V2HandshakeCodec} {source datagram now e}
    {c : ClientCoordinator.ClientHandshakeCoordinator (ClientProvider S)}
    (failed : (receiveClientFrame codec source datagram now c).1 = .error e) (rejection : isRemoteFrameRejection e = true) :
    (receiveClientFrame codec source datagram now c).2 = c := by
  rw [clientFrameCall] at failed ⊢
  cases stands : clientCallOf codec source datagram now with
  | error e => rfl
  | ok call =>
    simp only [stands] at failed
    rw [clientReportFailed failed] at rejection
    contradiction

structure Exact (kind : MessageType) (attempt : ClientAttemptId) (payload : Bytes) : Prop where
  nonzero : attempt.value ≠ 0
  sized : payload.length = payloadLength kind

def ExactClient : ClientHandshakeMessage Bytes Bytes → Prop
  | .clientHello value => Exact .clientHello value.clientAttemptId value.payload
  | .clientFinish value => Exact .clientFinish value.clientAttemptId value.payload

def ExactServer : ServerHandshakeMessage Bytes Bytes → Prop
  | .serverHello value => Exact .serverHello value.clientAttemptId value.payload
  | .serverFinish value => Exact .serverFinish value.clientAttemptId value.payload

def clientMessageCall (source : SocketAddr) (now : Instant) :
    ClientHandshakeMessage Bytes Bytes → ServerCall (ServerProvider S)
  | .clientHello value => .clientHello source value now
  | .clientFinish value => .clientFinish source value now

def serverMessageCall (source : SocketAddr) (now : Instant) :
    ServerHandshakeMessage Bytes Bytes → ClientCall (ClientProvider S)
  | .serverHello value => .serverHello source value now
  | .serverFinish value => .serverFinish source value now

theorem encodeExact {codec : V2HandshakeCodec} {kind attempt payload}
    (fits : payloadLength kind ≤ codec.maximumOpaquePayload) (handshake : kind ≠ .data)
    (exact_ : Exact kind attempt payload) :
    ∃ datagram frame, encode codec kind attempt payload = .ok datagram ∧ codec.decode datagram = .ok frame ∧
      kindOf frame = kind ∧ frame.body = ⟨attempt, payload⟩ ∧ bodyPayload ⟨attempt, payload⟩ kind = .ok payload := by
  obtain ⟨nonzero, sized⟩ := exact_
  have positive : 1 ≤ payload.length := by
    rw [sized]
    cases kind <;> first | contradiction | decide
  obtain ⟨datagram, encoded, encoding⟩ := encodeKnown handshake nonzero positive (sized ▸ fits)
  obtain ⟨frame, decoded, named, body⟩ := encodingDecodes encoding
  exact ⟨datagram, frame, encoded, decoded, named, body, by simp [bodyPayload, sized]⟩

/- A datagram that carries a message: wherever and whenever it arrives, it stands
for the call that hands over this message. -/
def CarriesClient (codec : V2HandshakeCodec) (message : ClientHandshakeMessage Bytes Bytes) (datagram : Bytes) : Prop :=
  ∀ (S : Snow) source now, serverCallOf (S := S) codec source datagram now = .ok (clientMessageCall source now message)

def CarriesServer (codec : V2HandshakeCodec) (outbound : ServerOutbound (ServerHandshakeMessage Bytes Bytes))
    (sent : ServerAdapterDatagram) : Prop :=
  sent.destination = outbound.destination ∧ ∀ (S : Snow) source now,
    clientCallOf (S := S) codec source sent.datagram now = .ok (serverMessageCall source now outbound.message)

theorem clientCarried {codec : V2HandshakeCodec} {message} (bounds : codec.maximumOpaquePayload = 112)
    (exact_ : ExactClient message) : ∃ datagram, encodeClient codec message = .ok datagram ∧
      CarriesClient codec message datagram := by
  cases message with
  | clientHello value =>
    obtain ⟨datagram, frame, encoded, decoded, named, body, payload⟩ :=
      @encodeExact codec .clientHello _ _ (by rw [bounds]; decide) (by decide) exact_
    cases @frameKinds frame (.clientHello ⟨value.clientAttemptId, value.payload⟩) named body
    refine ⟨datagram, encoded, ?_⟩
    intro S source now
    simp only [serverCallOf, decoded, classifyForServer, payload, clientMessageCall]
    rfl
  | clientFinish value =>
    obtain ⟨datagram, frame, encoded, decoded, named, body, payload⟩ :=
      @encodeExact codec .clientFinish _ _ (by rw [bounds]; decide) (by decide) exact_
    cases @frameKinds frame (.clientFinish ⟨value.clientAttemptId, value.payload⟩) named body
    refine ⟨datagram, encoded, ?_⟩
    intro S source now
    simp only [serverCallOf, decoded, classifyForServer, payload, clientMessageCall]
    rfl

theorem serverCarried {codec : V2HandshakeCodec} {outbound} (bounds : codec.maximumOpaquePayload = 112)
    (exact_ : ExactServer outbound.message) : ∃ sent, encodeServer codec outbound = .ok sent ∧
      CarriesServer codec outbound sent := by
  rcases outbound with ⟨destination, value | value⟩
  · obtain ⟨datagram, frame, encoded, decoded, named, body, payload⟩ :=
      @encodeExact codec .serverHello _ _ (by rw [bounds]; decide) (by decide) exact_
    cases @frameKinds frame (.serverHello ⟨value.clientAttemptId, value.payload⟩) named body
    refine ⟨⟨destination, datagram⟩, by simp only [encodeServer, encoded], rfl, ?_⟩
    intro S source now
    simp only [clientCallOf, decoded, classifyForClient, payload, serverMessageCall]
    rfl
  · obtain ⟨datagram, frame, encoded, decoded, named, body, payload⟩ :=
      @encodeExact codec .serverFinish _ _ (by rw [bounds]; decide) (by decide) exact_
    cases @frameKinds frame (.serverFinish ⟨value.clientAttemptId, value.payload⟩) named body
    refine ⟨⟨destination, datagram⟩, by simp only [encodeServer, encoded], rfl, ?_⟩
    intro S source now
    simp only [clientCallOf, decoded, classifyForClient, payload, serverMessageCall]
    rfl

theorem encodeAllRelated {α β : Type} {f : α → Except AdapterError β} {R : α → β → Prop} {items : List α}
    (each : ∀ a ∈ items, ∃ b, f a = .ok b ∧ R a b) : ∃ all, encodeAll f items = .ok all ∧ List.Forall₂ R items all := by
  induction items with
  | nil => exact ⟨[], rfl, .nil⟩
  | cons a rest ih =>
    obtain ⟨b, done, related⟩ := each a List.mem_cons_self
    obtain ⟨tail, others, carried⟩ := ih fun a member => each a (List.mem_cons_of_mem _ member)
    exact ⟨b :: tail, by simp only [encodeAll, done, others], .cons related carried⟩

inductive ClientEncoded (codec : V2HandshakeCodec) : ClientCoordinator.Result (ClientProvider S) →
    Except AdapterError ClientAdapterReport → Prop
  | failed (fatal) : ClientEncoded codec (.error fatal) (.error (.coordinator fatal))
  | reported (outbound datagrams events) (carried : List.Forall₂ (CarriesClient codec) outbound datagrams) :
    ClientEncoded codec (.ok ⟨outbound, events⟩) (.ok ⟨datagrams, events⟩)

inductive ServerEncoded (codec : V2HandshakeCodec) : ServerCoordinator.Result (ServerProvider S) →
    Except AdapterError ServerAdapterReport → Prop
  | failed (fatal) : ServerEncoded codec (.error fatal) (.error (.coordinator fatal))
  | reported (outbound datagrams events) (carried : List.Forall₂ (CarriesServer codec) outbound datagrams) :
    ServerEncoded codec (.ok ⟨outbound, events⟩) (.ok ⟨datagrams, events⟩)

theorem clientEncodes {codec : V2HandshakeCodec} {result : ClientCoordinator.Result (ClientProvider S)}
    (bounds : codec.maximumOpaquePayload = 112)
    (exact_ : ∀ report, result = .ok report → ∀ message ∈ report.outbound, ExactClient message) :
    ClientEncoded codec result (clientReport codec result) := by
  cases result with
  | error fatal => exact .failed fatal
  | ok report =>
    obtain ⟨datagrams, done, carried⟩ := encodeAllRelated fun message member =>
      clientCarried bounds (exact_ report rfl message member)
    simp only [clientReport, done]
    exact .reported _ _ _ carried

theorem serverEncodes {codec : V2HandshakeCodec} {result : ServerCoordinator.Result (ServerProvider S)}
    (bounds : codec.maximumOpaquePayload = 112)
    (exact_ : ∀ report, result = .ok report → ∀ outbound ∈ report.outbound, ExactServer outbound.message) :
    ServerEncoded codec result (serverReport codec result) := by
  cases result with
  | error fatal => exact .failed fatal
  | ok report =>
    obtain ⟨datagrams, done, carried⟩ := encodeAllRelated fun outbound member =>
      serverCarried bounds (exact_ report rfl outbound member)
    simp only [serverReport, done]
    exact .reported _ _ _ carried

end
end Crabnet.FrameExchange
