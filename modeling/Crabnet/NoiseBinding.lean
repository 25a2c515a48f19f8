import Crabnet.KeyText
import Crabnet.NoiseEndpoint

/-! `bind` of the Noise-IK endpoint (noise_runtime.rs): its limits, keys, policy and
coordinator from the security section of a configuration. What the operating system
answers to the socket is an argument. -/
namespace Crabnet.NoiseBinding
open MachineWord SessionTypes HashTable NetworkTypes PendingManager ServerPolicy ClientPolicy HandshakeTypes
open SnowBoundary NoiseServer NoiseClient HandshakeCodec DataSession NoiseRuntime RuntimeConfig AcceptedConfig KeyText
open NoiseEndpoint

def handshakeTimeout : Duration := 10 * nanosPerSecond
def idleTimeout : Duration := 300 * nanosPerSecond
def maxPending : Nat := 1
def opaquePayload : Nat := 112

def serverPolicy : SessionPolicy := ⟨maxPending, handshakeTimeout, idleTimeout, by decide, by decide, by decide⟩

inductive BindError where
  | limitsRequired
  | limits (error : SessionLimitsConfigError)
  | privateKeyPathRequired
  | privateKey (error : Failure)
  | codec (error : V2CodecConfigError)
  | serverKeyRequired
  | serverKey (error : KeyMaterialError)
  | clientPolicy (error : ClientHandshakeConfigError)
  | allowedKey (error : KeyMaterialError)
  | serverPolicy (error : SessionConfigError)
  | coordinator (error : CoordinatorBuildError)
  | socket (error : Failure)

structure Process (S : Snow) where
  rng : Nat → S.Entropy
  sources : Hasher SocketAddr PendingCandidate
  ids : Hasher CandidateId ServerCandidate
  contexts : Hasher CandidateId (CandidateContext S)

def orRefuse {ε α : Type} (refusal : ε → BindError) : Except ε α → Except BindError α
  | .error e => .error (refusal e)
  | .ok a => .ok a

def present {α : Type} (refusal : BindError) : Option α → Except BindError α
  | none => .error refusal
  | some a => .ok a

def decodeAllowed : List String → Except BindError (List (FixedBytes 32))
  | [] => .ok []
  | value :: rest => do
    let key ← orRefuse .allowedKey (keyFromHex value)
    let keys ← decodeAllowed rest
    .ok (key :: keys)

section
variable {S : Snow}

def bindClient (process : Process S) (security : SecurityConfig) (key : FixedBytes 32) (serverAddr : SocketAddr)
    (socket : Except Failure Unit) : Except BindError (Endpoint S) := do
  let encoded ← present .serverKeyRequired security.serverPublicKey
  let serverKey ← orRefuse .serverKey (keyFromHex encoded)
  let policy ← orRefuse .clientPolicy (ClientHandshake.new serverAddr handshakeTimeout)
  let coordinator ← orRefuse .coordinator
    (ClientCoordinator.build policy (ClientProvider.new key.toList serverKey.toList process.rng))
  let _ ← orRefuse .socket socket
  .ok (.unstarted coordinator serverAddr)

def bindServer (process : Process S) (security : SecurityConfig) (key : FixedBytes 32) (socket : Except Failure Unit) :
    Except BindError (Endpoint S) := do
  let allowed ← decodeAllowed security.allowedClientPublicKeys
  let policy ← orRefuse .serverPolicy (SessionPolicy.new maxPending handshakeTimeout idleTimeout)
  let coordinator ← orRefuse .coordinator (ServerCoordinator.build (ServerHandshake.new policy process.sources process.ids)
    (ServerProvider.new key.toList (allowed.map FixedBytes.toList) process.contexts process.rng))
  let _ ← orRefuse .socket socket
  .ok (.server ⟨coordinator, .waiting⟩)

def bindMode (process : Process S) (security : SecurityConfig) (key : FixedBytes 32) (socket : Except Failure Unit) :
    ModeConfig → Except BindError (Endpoint S)
  | .client _ serverAddr => bindClient process security key serverAddr socket
  | .server _ => bindServer process security key socket

-- The codec is the one that `run` makes again; the device has the configured MTU.
def bind [KeyFiles] (process : Process S) (c : Config) (socket : Except Failure Unit) : Except BindError (Settings × Endpoint S) := do
  let configured ← present .limitsRequired c.security.sessionLimits
  let limits ← orRefuse .limits (sessionLimits configured)
  let path ← present .privateKeyPathRequired c.security.privateKeyPath
  let key ← orRefuse .privateKey (loadPrivateKey path)
  let codec ← orRefuse .codec (V2HandshakeCodec.new opaquePayload)
  let endpoint ← bindMode process c.security key socket c.mode
  .ok (⟨codec, c.tun.mtu.toNat, limits⟩, endpoint)

inductive Bound (process : Process S) (security : SecurityConfig) (key : FixedBytes 32) : ModeConfig → Endpoint S → Prop
  | client {bindAddr serverAddr encoded serverKey policy coordinator} (pinned : security.serverPublicKey = some encoded)
      (decoded : keyFromHex encoded = .ok serverKey)
      (configured : ClientHandshake.new serverAddr handshakeTimeout = .ok policy)
      (built : ClientCoordinator.build policy (ClientProvider.new key.toList serverKey.toList process.rng) = .ok coordinator) :
    Bound process security key (.client bindAddr serverAddr) (.unstarted coordinator serverAddr)
  | server {bindAddr allowed policy coordinator} (decodes : Decodes security.allowedClientPublicKeys allowed)
      (built : ServerCoordinator.build (ServerHandshake.new policy process.sources process.ids)
        (ServerProvider.new key.toList (allowed.map FixedBytes.toList) process.contexts process.rng) = .ok coordinator) :
    Bound process security key (.server bindAddr) (.server ⟨coordinator, .waiting⟩)

structure Derived [KeyFiles] (process : Process S) (c : Config) (settings : Settings) (endpoint : Endpoint S) : Prop where
  limits : ∃ configured, c.security.sessionLimits = some configured ∧ sessionLimits configured = .ok settings.limits
  codec : V2HandshakeCodec.new opaquePayload = .ok settings.codec
  mtu : settings.mtu = c.tun.mtu.toNat
  keyed : ∃ path key, c.security.privateKeyPath = some path ∧ loadPrivateKey path = .ok key ∧
    Bound process c.security key c.mode endpoint

theorem refuseBind {ε α β : Type} {refusal : ε → BindError} {x : Except ε α} {f : α → Except BindError β} {b : β}
    (ok : orRefuse refusal x >>= f = .ok b) : ∃ a, x = .ok a ∧ f a = .ok b := by
  cases x with
  | error e => cases ok
  | ok a => exact ⟨a, rfl, ok⟩

theorem presentBind {α β : Type} {refusal : BindError} {x : Option α} {f : α → Except BindError β} {b : β}
    (ok : present refusal x >>= f = .ok b) : ∃ a, x = some a ∧ f a = .ok b := by
  cases x with
  | none => cases ok
  | some a => exact ⟨a, rfl, ok⟩

theorem refuseOk {ε α β : Type} {refusal : ε → BindError} {x : Except ε α} {f : α → Except BindError β} {a : α}
    (given : x = .ok a) : orRefuse refusal x >>= f = f a := by
  rw [given]
  rfl

theorem presentSome {α β : Type} {refusal : BindError} {x : Option α} {f : α → Except BindError β} {a : α}
    (given : x = some a) : present refusal x >>= f = f a := by
  rw [given]
  rfl

theorem allowedBind {β : Type} {values : List String} {f : List (FixedBytes 32) → Except BindError β} {b : β}
    (ok : decodeAllowed values >>= f = .ok b) : ∃ keys, decodeAllowed values = .ok keys ∧ f keys = .ok b := by
  cases decoded : decodeAllowed values with
  | error e =>
    rw [decoded] at ok
    cases ok
  | ok keys =>
    rw [decoded] at ok
    exact ⟨keys, rfl, ok⟩

theorem allowedDecodes {values : List String} {keys} : decodeAllowed values = .ok keys ↔ Decodes values keys := by
  induction values generalizing keys with
  | nil =>
    constructor
    · intro ok
      cases ok
      exact .nil
    · intro decodes
      cases decodes
      rfl
  | cons value rest ih =>
    constructor
    · intro ok
      obtain ⟨key, decoded, ok⟩ := refuseBind ok
      obtain ⟨others, later, ok⟩ := allowedBind ok
      cases ok
      exact .cons decoded (ih.mp later)
    · intro decodes
      cases decodes with
      | cons first later =>
        rw [decodeAllowed, first, ih.mpr later]
        rfl

theorem boundMode {process : Process S} {security : SecurityConfig} {key socket mode endpoint}
    (ok : bindMode process security key socket mode = .ok endpoint) : Bound process security key mode endpoint := by
  cases mode with
  | client bindAddr serverAddr =>
    obtain ⟨encoded, pinned, ok⟩ := presentBind ok
    obtain ⟨serverKey, decoded, ok⟩ := refuseBind ok
    obtain ⟨policy, configured, ok⟩ := refuseBind ok
    obtain ⟨coordinator, built, ok⟩ := refuseBind ok
    obtain ⟨_, _, ok⟩ := refuseBind ok
    cases ok
    exact .client pinned decoded configured built
  | server bindAddr =>
    obtain ⟨allowed, decoded, ok⟩ := allowedBind ok
    obtain ⟨policy, configured, ok⟩ := refuseBind ok
    obtain ⟨coordinator, built, ok⟩ := refuseBind ok
    obtain ⟨_, _, ok⟩ := refuseBind ok
    cases ok
    exact .server (allowedDecodes.mp decoded) built

theorem boundSpec [KeyFiles] {process : Process S} {c : Config} {socket settings endpoint}
    (ok : bind process c socket = .ok (settings, endpoint)) : Derived process c settings endpoint := by
  obtain ⟨configured, found, ok⟩ := presentBind ok
  obtain ⟨limits, made, ok⟩ := refuseBind ok
  obtain ⟨path, given, ok⟩ := presentBind ok
  obtain ⟨key, loaded, ok⟩ := refuseBind ok
  obtain ⟨codec, derived, ok⟩ := refuseBind ok
  cases bound : bindMode process c.security key socket c.mode with
  | error e =>
    rw [bound] at ok
    cases ok
  | ok bare =>
    rw [bound] at ok
    cases ok
    exact ⟨⟨configured, found, made⟩, derived, rfl, path, key, given, loaded, boundMode bound⟩

theorem publicKeyValid {field encoded : String} (valid : validatePublicKey field encoded = .ok ()) :
    ∃ key, keyFromHex encoded = .ok key := by
  unfold validatePublicKey at valid
  cases decoded : keyFromHex encoded with
  | error e =>
    rw [decoded] at valid
    cases valid
  | ok key => exact ⟨key, rfl⟩

theorem modeBinds (process : Process S) {c : Config} (key : FixedBytes 32) (valid : validatePeerKeys c = .ok ()) :
    (∀ e, bindMode process c.security key (.error e) c.mode = .error (.socket e)) ∧
      ∃ endpoint, bindMode process c.security key (.ok ()) c.mode = .ok endpoint := by
  unfold validatePeerKeys at valid
  cases mode : c.mode with
  | client bindAddr serverAddr =>
    rw [mode] at valid
    obtain ⟨encoded, required, valid⟩ := obtained valid
    obtain ⟨serverKey, decoded⟩ := publicKeyValid (checked valid).1
    have shape : ∀ socket, bindMode process c.security key socket (.client bindAddr serverAddr) =
        orRefuse .socket socket >>= fun _ => .ok (.unstarted ⟨⟨serverAddr, handshakeTimeout, .idle, 1⟩,
          .new key.toList serverKey.toList process.rng, .running⟩ serverAddr) := by
      intro socket
      rw [bindMode, bindClient, presentSome (requiredSome required), refuseOk decoded]
      rfl
    exact ⟨fun e => (shape _).trans rfl, _, (shape _).trans rfl⟩
  | server bindAddr =>
    rw [mode] at valid
    obtain ⟨_, allowed, decodes⟩ := allowlistAccepted (checked (checked valid).2).2
    have shape : ∀ socket, bindMode process c.security key socket (.server bindAddr) =
        orRefuse .socket socket >>= fun _ => .ok (.server ⟨⟨.new serverPolicy process.sources process.ids,
          .new key.toList (allowed.map FixedBytes.toList) process.contexts process.rng, .running⟩, .waiting⟩) := by
      intro socket
      rw [bindMode, bindServer, allowedDecodes.mpr decodes]
      rfl
    exact ⟨fun e => (shape _).trans rfl, _, (shape _).trans rfl⟩

theorem acceptedBinds [AddressText] [KeyFiles] (process : Process S) {c : Config} (valid : c.validate = .ok ())
    (noise : c.security.mode = .noiseIk) :
    (∀ e, bind process c (.error e) = .error (.socket e)) ∧
      ∃ settings endpoint, bind process c (.ok ()) = .ok (settings, endpoint) ∧ Derived process c settings endpoint := by
  have security := (checked (checked valid).2).1
  simp only [Config.validateSecurity, noise] at security
  obtain ⟨configured, found, security⟩ := obtained security
  obtain ⟨positive, security⟩ := checked security
  obtain ⟨limits, made, _⟩ := limitsAccepted positive
  obtain ⟨path, given, security⟩ := obtained security
  obtain ⟨key, loaded, peers⟩ := obtained security
  obtain ⟨refuses, endpoint, binds⟩ := modeBinds process key peers
  have codec : V2HandshakeCodec.new opaquePayload = .ok AdapterSimulation.noiseCodec := rfl
  have shape : ∀ socket, bind process c socket =
      (bindMode process c.security key socket c.mode >>= fun endpoint =>
        .ok (⟨AdapterSimulation.noiseCodec, c.tun.mtu.toNat, limits⟩, endpoint)) := by
    intro socket
    rw [bind, presentSome (requiredSome found), refuseOk made, presentSome (requiredSome given), refuseOk loaded,
      refuseOk codec]
  have bound : bind process c (.ok ()) = .ok (⟨AdapterSimulation.noiseCodec, c.tun.mtu.toNat, limits⟩, endpoint) := by
    rw [shape, binds]
    rfl
  refine ⟨fun e => ?_, _, endpoint, bound, boundSpec bound⟩
  rw [shape, refuses]
  rfl

end

def plainProcess : Process plainSnow := ⟨fun _ => (), .listing _ _, .listing _ _, .listing _ _⟩

theorem acceptedBindsDefault : @Config.validate plainText plainKeys (plainNoise 1400 300) = .ok () ∧
    ∃ settings endpoint, @bind plainSnow plainKeys plainProcess (plainNoise 1400 300) (.ok ()) = .ok (settings, endpoint) ∧
      settings.mtu = 1400 ∧ ∃ coordinator serverAddr, endpoint = .unstarted coordinator serverAddr := by
  have valid : @Config.validate plainText plainKeys (plainNoise 1400 300) = .ok () := by decide +kernel
  obtain ⟨_, settings, endpoint, bound, derived⟩ := @acceptedBinds plainSnow plainText plainKeys plainProcess _ valid rfl
  obtain ⟨_, _, mtu, _, _, _, _, made⟩ := derived
  refine ⟨valid, settings, endpoint, bound, mtu, ?_⟩
  cases made with
  | client pinned decoded configured built => exact ⟨_, _, rfl⟩

end Crabnet.NoiseBinding
