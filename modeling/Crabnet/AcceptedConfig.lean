import Crabnet.DataFrameExact
import Crabnet.DataSession
import Crabnet.PlainFrame
import Crabnet.RuntimeConfig

/-! What the runtime derives from a configuration that was accepted
(noise_runtime.rs, client.rs and server.rs): its codec, its limits and the first
deadline of a session. -/
namespace Crabnet.AcceptedConfig
open SessionTypes Fallible NetworkTypes Routing RuntimeConfig DataFrame DataFrameExact DataSession PlainFrame

def fromSecs (seconds : UInt64) : Duration := seconds.toNat * nanosPerSecond

def sessionLimits (c : SessionLimitsConfig) : Except SessionLimitsConfigError SessionLimits :=
  SessionLimits.new c.maxOutboundPackets c.maxOutboundPlaintextBytes c.maxInboundPackets c.maxInboundPlaintextBytes
    (fromSecs c.idleTimeoutSeconds)

-- A session created `now` whose deadline is looked at for the first time at `later`.
def NoiseRunnable (c : Config) (now later : Instant) : Prop :=
  (∃ codec, DataFrameCodec.new c.tun.mtu.toNat = .ok codec) ∧
  ∃ configured limits, c.security.sessionLimits = some configured ∧ sessionLimits configured = .ok limits ∧
    (SessionLifetime.expireIfDue later (SessionLifetime.new now limits)).1 ≠ .error .deadlineOverflow

def LegacyRunnable (c : Config) : Prop :=
  ∃ codec, FrameCodec.new c.tun.mtu.toNat = .ok codec ∧ codec.maximumDatagramLen ≤ udpPayloadCeiling

def Runnable (c : Config) (now later : Instant) : Prop :=
  match c.security.mode with
  | .noiseIk => NoiseRunnable c now later
  | .legacy => LegacyRunnable c

def Fits (c : Config) (now : Instant) : Prop :=
  match c.security.mode with
  | .noiseIk => c.tun.mtu.toNat ≤ 65389 ∧
    ∀ configured, c.security.sessionLimits = some configured →
      now + configured.idleTimeoutSeconds.toNat * nanosPerSecond < 2 ^ 63 * nanosPerSecond
  | .legacy => c.tun.mtu.toNat ≤ 65497

theorem checked {α : Type} {x : Except Failure Unit} {f : Unit → Except Failure α} {a : α} (ok : (x >>= f) = .ok a) :
    x = .ok () ∧ f () = .ok a := by
  cases x with
  | error e => cases ok
  | ok value => exact ⟨rfl, ok⟩

theorem obtained {α β : Type} {x : Except Failure α} {f : α → Except Failure β} {b : β} (ok : (x >>= f) = .ok b) :
    ∃ a, x = .ok a ∧ f a = .ok b := by
  cases x with
  | error e => cases ok
  | ok value => exact ⟨value, rfl, ok⟩

theorem ensured {holds : Bool} {message : String} (ok : ensure holds message = .ok ()) : holds = true := by
  unfold ensure at ok
  split at ok
  · assumption
  · cases ok

theorem requiredSome {α : Type} {value : Option α} {message : String} {a : α} (ok : required value message = .ok a) :
    value = some a := by
  cases value with
  | none => cases ok
  | some b =>
    cases ok
    rfl

theorem tunNetwork {c : TunConfig} (valid : c.validate = .ok ()) :
    ∃ n, IpNet.new c.address c.prefixLen.toNat = some n ∧ n.addr = c.address := by
  have short := (checked (checked valid).2).1
  have fits : c.prefixLen.toNat ≤ c.address.maxPrefixLen := by
    unfold TunConfig.validatePrefix at short
    cases address : c.address with
    | v4 bits | v6 bits =>
      rw [address] at short
      simpa [UInt8.le_iff_toNat_le, IpAddr.maxPrefixLen] using ensured short
  exact ⟨_, dif_pos fits, rfl⟩

theorem tunMtu {c : TunConfig} (valid : c.validate = .ok ()) : 1 ≤ c.mtu.toNat := by
  obtain ⟨_, valid⟩ := checked valid
  obtain ⟨_, valid⟩ := checked valid
  obtain ⟨_, valid⟩ := checked valid
  have nonzero := of_decide_eq_true (ensured valid)
  have other : c.mtu.toNat ≠ 0 := fun zero => nonzero (UInt16.toNat_inj.mp zero)
  omega

theorem positive {value : UInt64} {field : String} (ok : ensurePositive value field = .ok ()) : value ≠ 0 := by
  have above := of_decide_eq_true (ensured ok)
  rintro rfl
  exact absurd above (by decide)

theorem limitsAccepted {c : SessionLimitsConfig} (valid : c.validate = .ok ()) :
    ∃ limits, sessionLimits c = .ok limits ∧ limits.idleTimeout = fromSecs c.idleTimeoutSeconds := by
  obtain ⟨outboundPackets, valid⟩ := checked valid
  obtain ⟨outboundBytes, valid⟩ := checked valid
  obtain ⟨inboundPackets, valid⟩ := checked valid
  obtain ⟨inboundBytes, idle⟩ := checked valid
  have waits : fromSecs c.idleTimeoutSeconds ≠ 0 := by
    intro zero
    rcases Nat.mul_eq_zero.mp zero with none | impossible
    · exact positive idle (UInt64.toNat_inj.mp none)
    · cases impossible
  unfold sessionLimits SessionLimits.new
  rw [dif_neg (positive inboundPackets), dif_neg (positive inboundBytes), dif_neg waits, dif_neg (positive outboundPackets),
    dif_neg (positive outboundBytes)]
  exact ⟨_, rfl, rfl⟩

theorem limitsValid [AddressText] [KeyFiles] {c : Config} (valid : c.validate = .ok ()) (noise : c.security.mode = .noiseIk) :
    ∃ configured, c.security.sessionLimits = some configured ∧ configured.validate = .ok () := by
  obtain ⟨_, valid⟩ := checked valid
  obtain ⟨security, _⟩ := checked valid
  simp only [Config.validateSecurity, noise] at security
  obtain ⟨configured, found, security⟩ := obtained security
  obtain ⟨accepted, _⟩ := checked security
  exact ⟨configured, requiredSome found, accepted⟩

theorem dataCodecIff {mtu : Nat} (nonzero : 1 ≤ mtu) : (∃ codec, DataFrameCodec.new mtu = .ok codec) ↔ mtu ≤ 65389 := by
  constructor
  · rintro ⟨codec, made⟩
    rw [← newPayload made]
    exact (payloadLimit codec).2
  · exact newAccepts nonzero

theorem plainCodec {mtu : Nat} (nonzero : 1 ≤ mtu) (fits : mtu < u16Limit) :
    ∃ codec, FrameCodec.new mtu = .ok codec ∧ codec.maximumDatagramLen = headerLen + mtu := by
  unfold FrameCodec.new
  rw [dif_neg (by omega), dif_neg (by omega)]
  split
  · rename_i overflow
    have beyond := usizeAddNone overflow
    simp only [headerLen, usizeLimit, u16Limit] at beyond fits
    omega
  · rename_i length sum
    have size := usizeAddSome sum
    split
    · rename_i overflow
      have beyond := usizeAddNone overflow
      simp only [headerLen, usizeLimit, u16Limit] at beyond fits size
      omega
    · exact ⟨_, rfl, size⟩

theorem deadlineIff (limits : SessionLimits) (now later : Instant) :
    (SessionLifetime.expireIfDue later (SessionLifetime.new now limits)).1 ≠ .error .deadlineOverflow ↔
      now + limits.idleTimeout < instantLimit := by
  have state : (SessionLifetime.new now limits).state = .established := rfl
  by_cases representable : now + limits.idleTimeout < instantLimit
  · refine ⟨fun _ => representable, fun _ => ?_⟩
    have deadline : (SessionLifetime.new now limits).idleDeadline = some (now + limits.idleTimeout) := if_pos representable
    refine Action.wpOutcome (R := fun answer : Except SessionLifetimeError SessionDecision × SessionLifetime =>
      answer.1 ≠ .error .deadlineOverflow) ?_
    simp only [SessionLifetime.expireIfDue, Action.wpBind, Action.wpRead, state, deadline, Action.wpIte]
    exact ⟨fun _ same => (by cases same), fun _ same => (by cases same)⟩
  · refine ⟨fun avoided => absurd ?_ avoided, fun fits => absurd fits representable⟩
    have deadline : (SessionLifetime.new now limits).idleDeadline = none := if_neg representable
    refine Action.wpOutcome (R := fun answer : Except SessionLifetimeError SessionDecision × SessionLifetime =>
      answer.1 = .error .deadlineOverflow) ?_
    simp only [SessionLifetime.expireIfDue, Action.wpBind, Action.wpRead, state, deadline, Action.wpFail]

theorem noiseRunnableIff [AddressText] [KeyFiles] {c : Config} (valid : c.validate = .ok ())
    (noise : c.security.mode = .noiseIk) (now later) : NoiseRunnable c now later ↔ Fits c now := by
  obtain ⟨configured, found, accepted⟩ := limitsValid valid noise
  obtain ⟨limits, made, idle⟩ := limitsAccepted accepted
  have codec := dataCodecIff (tunMtu (checked valid).1)
  have deadline := deadlineIff limits now later
  rw [idle, fromSecs, instantLimit] at deadline
  simp only [Fits, noise, NoiseRunnable, codec]
  refine and_congr_right fun _ => ⟨?_, ?_⟩
  · rintro ⟨other, derived, same, again, due⟩ third held
    cases Option.some.inj (found.symm.trans held)
    cases Option.some.inj (found.symm.trans same)
    cases Except.ok.inj (made.symm.trans again)
    exact deadline.mp due
  · intro fits
    exact ⟨configured, limits, found, made, deadline.mpr (fits configured found)⟩

theorem legacyRunnableIff [AddressText] [KeyFiles] {c : Config} (valid : c.validate = .ok ())
    (legacy : c.security.mode = .legacy) (now) : LegacyRunnable c ↔ Fits c now := by
  obtain ⟨codec, made, length⟩ := plainCodec (tunMtu (checked valid).1) c.tun.mtu.toNat_lt
  simp only [Fits, legacy]
  constructor
  · rintro ⟨other, again, fits⟩
    cases Except.ok.inj (made.symm.trans again)
    simp only [length, headerLen, udpPayloadCeiling] at fits
    omega
  · intro fits
    refine ⟨codec, made, ?_⟩
    simp only [length, headerLen, udpPayloadCeiling]
    omega

theorem acceptedRunnable [AddressText] [KeyFiles] (c : Config) (now later : Instant) (valid : c.validate = .ok ()) :
    Runnable c now later ↔ Fits c now := by
  unfold Runnable
  cases mode : c.security.mode with
  | noiseIk => exact noiseRunnableIff valid mode now later
  | legacy => exact legacyRunnableIff valid mode now

section Plain

@[reducible] def plainText : AddressText where
  addr _ := ""
  net _ := ""
  socket _ := ""
  parseAddr _ := none
  parseNet _ := none
  quoted s := s

def plainKey : String := .ofList (List.replicate 64 '0')
@[reducible] def plainKeys : KeyFiles := ⟨fun _ => .ok 0o600, fun _ => .ok plainKey⟩

def plainLegacy (mtu : UInt16) : Config :=
  {Config.default with tun := {Config.default.tun with mtu := mtu}}

def plainNoise (mtu : UInt16) (idleTimeoutSeconds : UInt64) : Config :=
  {plainLegacy mtu with security := ⟨.noiseIk, some "key", some plainKey, [], some ⟨1, 1, 1, 1, idleTimeoutSeconds⟩⟩}

theorem acceptedRunnableDefault : @Config.validate plainText plainKeys (plainNoise 1400 300) = .ok () ∧
    Runnable (plainNoise 1400 300) 0 1 := by
  have valid : @Config.validate plainText plainKeys (plainNoise 1400 300) = .ok () := by decide +kernel
  refine ⟨valid, (@acceptedRunnable plainText plainKeys _ 0 1 valid).mpr ⟨by decide, ?_⟩⟩
  intro configured found
  cases Option.some.inj found
  decide

theorem acceptedUnrunnable :
    (@Config.validate plainText plainKeys (plainNoise 65400 300) = .ok () ∧ ¬ Runnable (plainNoise 65400 300) 0 0) ∧
    (@Config.validate plainText plainKeys (plainNoise 1400 0xFFFFFFFFFFFFFFFF) = .ok () ∧
      ¬ Runnable (plainNoise 1400 0xFFFFFFFFFFFFFFFF) 0 0) ∧
    (@Config.validate plainText plainKeys (plainLegacy 65535) = .ok () ∧ ¬ Runnable (plainLegacy 65535) 0 0) := by
  refine ⟨⟨by decide +kernel, ?_⟩, ⟨by decide +kernel, ?_⟩, ⟨by decide +kernel, ?_⟩⟩
  · rintro ⟨codec, _⟩
    exact absurd ((dataCodecIff (by decide)).mp codec) (by decide)
  · rintro ⟨_, configured, limits, found, made, due⟩
    cases Option.some.inj found
    have fits := (deadlineIff limits 0 0).mp due
    obtain ⟨derived, again, idle⟩ :=
      @limitsAccepted ⟨1, 1, 1, 1, 0xFFFFFFFFFFFFFFFF⟩ (by decide +kernel)
    rw [Except.ok.inj (made.symm.trans again), idle] at fits
    exact absurd fits (by decide +kernel)
  · rintro ⟨codec, made, fits⟩
    cases Except.ok.inj made
    exact absurd fits (by decide +kernel)

end Plain
end Crabnet.AcceptedConfig
