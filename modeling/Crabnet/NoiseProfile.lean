import Crabnet.SessionTypes

/-! The Noise IK profile (crypto/noise_ik/profile.rs): the prologue that binds a
session to its attempt, the control record inside every handshake message, and
the exact payload lengths of the four messages. -/
namespace Crabnet.NoiseProfile
open MachineWord SessionTypes

def noiseProtocolName : String := "Noise_IK_25519_ChaChaPoly_BLAKE2s"
def crabnetNoiseProfile : UInt8 := 1
def controlMagic : Bytes := [0x43, 0x4E, 0x49, 0x4B]
def controlRecordLength : Nat := 16
def clientHelloPayloadLength : Nat := 112
def serverHelloPayloadLength : Nat := 64
def clientFinishPayloadLength : Nat := 32
def serverFinishPayloadLength : Nat := 32

def prologuePrefix : Bytes :=
  [0x43, 0x52, 0x42, 0x4E, 0x2D, 0x4E, 0x4F, 0x49, 0x53, 0x45, 0x2D, 0x49, 0x4B]

inductive NoiseIkProfileError where
  | zeroClientAttemptId
  deriving DecidableEq, Repr

inductive ControlEncodeError where
  | unsupportedMessageType (observed : MessageType)
  | zeroClientAttemptId
  deriving DecidableEq, Repr

inductive ValidateControlError where
  | remoteAuthenticationFailure
  | invalidExpectedMessageType (observed : MessageType)
  | zeroExpectedClientAttemptId
  deriving DecidableEq, Repr

def buildPrologue (attemptId : ClientAttemptId) : Except NoiseIkProfileError Bytes :=
  if attemptId.value = 0 then .error .zeroClientAttemptId
  else .ok (prologuePrefix ++ [0, ProtocolVersion.v2.wireValue, crabnetNoiseProfile] ++
    toBeBytes64 attemptId.value)

def controlRecord (kind : MessageType) (attemptId : ClientAttemptId) : Bytes :=
  controlMagic ++ [crabnetNoiseProfile, kind.wireValue] ++ be 2 0 ++ toBeBytes64 attemptId.value

def encodeControl (kind : MessageType) (attemptId : ClientAttemptId) : Except ControlEncodeError Bytes :=
  if attemptId.value = 0 then .error .zeroClientAttemptId
  else match kind with
    | .data => .error (.unsupportedMessageType kind)
    | .clientHello | .serverHello | .clientFinish | .serverFinish => .ok (controlRecord kind attemptId)

def isHandshakeMessageType : MessageType → Bool
  | .clientHello | .serverHello | .clientFinish | .serverFinish => true
  | .data => false

def validateControl (plaintext : Bytes) (expectedKind : MessageType) (expectedAttempt : ClientAttemptId) :
    Except ValidateControlError Unit :=
  if isHandshakeMessageType expectedKind = false then .error (.invalidExpectedMessageType expectedKind)
  else if expectedAttempt.value = 0 then .error .zeroExpectedClientAttemptId
  else if plaintext.length ≠ controlRecordLength ∨ slice plaintext 0 4 ≠ controlMagic ∨
      byteAt plaintext 4 ≠ crabnetNoiseProfile ∨ byteAt plaintext 5 ≠ expectedKind.wireValue ∨
      slice plaintext 6 8 ≠ be 2 0 ∨ slice plaintext 8 16 ≠ toBeBytes64 expectedAttempt.value then
    .error .remoteAuthenticationFailure
  else .ok ()

-- The providers only ask whether a record validates.
def controlValid (plaintext : Bytes) (kind : MessageType) (attemptId : ClientAttemptId) : Bool :=
  decide (validateControl plaintext kind attemptId = .ok ())

theorem prologueBinds {a b : ClientAttemptId} {prologue : Bytes} (left : buildPrologue a = .ok prologue)
    (right : buildPrologue b = .ok prologue) : a = b := by
  unfold buildPrologue at left right
  split at left <;> try contradiction
  split at right <;> try contradiction
  have same := (Except.ok.inj left).trans (Except.ok.inj right).symm
  have values := toBeBytes64Inj (List.append_cancel_left same)
  cases a
  cases b
  cases values
  rfl

theorem prologueBuilt {a : ClientAttemptId} (nonzero : a.value ≠ 0) : ∃ prologue, buildPrologue a = .ok prologue := by
  simp [buildPrologue, nonzero]

theorem controlEncoded {a : ClientAttemptId} {kind : MessageType} (nonzero : a.value ≠ 0)
    (handshake : isHandshakeMessageType kind = true) :
    ∃ record, encodeControl kind a = .ok record ∧ record.length = controlRecordLength := by
  refine ⟨controlRecord kind a, ?_, rfl⟩
  cases kind <;> first | contradiction | simp [encodeControl, nonzero]

theorem validNonzero {plaintext kind} {a : ClientAttemptId} (ok : controlValid plaintext kind a = true) :
    a.value ≠ 0 := by
  intro zero
  have validated := of_decide_eq_true ok
  simp only [validateControl, zero, if_true] at validated
  split at validated <;> contradiction

theorem encodedValid {kind : MessageType} {a : ClientAttemptId} {record : Bytes}
    (ok : encodeControl kind a = .ok record) : controlValid record kind a = true := by
  unfold encodeControl at ok
  split at ok <;> try contradiction
  rename_i nonzero
  have validated : ∀ k, isHandshakeMessageType k = true → validateControl (controlRecord k a) k a = .ok () := by
    intro k handshake
    have tail : slice (controlRecord k a) 8 16 = toBeBytes64 a.value := by
      simp [slice, controlRecord, controlMagic, be, toBeBytes64]
    unfold validateControl
    rw [if_neg (by simp [handshake]), if_neg nonzero, if_neg]
    simp only [tail, ne_eq, not_true_eq_false, or_false, not_or, not_not]
    exact ⟨rfl, rfl, rfl, rfl, rfl⟩
  split at ok <;> try contradiction
  all_goals
    cases Except.ok.inj ok
    exact decide_eq_true (validated _ rfl)

end Crabnet.NoiseProfile
