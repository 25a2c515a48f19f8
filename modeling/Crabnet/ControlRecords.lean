import Crabnet.NoiseProfile

/-! Control records are exact: one byte string validates for a message type and an
attempt, and no other message type or attempt has it (crypto/noise_ik/profile.rs). -/
namespace Crabnet.ControlRecords
open MachineWord SessionTypes NoiseProfile

/-! The validation with its positions; `||` looks no further once an operand holds. -/

def mismatches : List (Option Bool) → Option Bool
  | [] => some false
  | operand :: rest => do
    if ← operand then some true else mismatches rest

def controlMismatch (plaintext : Bytes) (expectedKind : MessageType) (expectedAttempt : ClientAttemptId) : Option Bool :=
  if plaintext.length ≠ controlRecordLength then some true
  else mismatches [
    (checkedSlice plaintext 0 4).map (· ≠ controlMagic),
    plaintext[4]?.map (· ≠ crabnetNoiseProfile),
    plaintext[5]?.map (· ≠ expectedKind.wireValue),
    (checkedSlice plaintext 6 8).map (· ≠ be 2 0),
    (checkedSlice plaintext 8 16).map (· ≠ toBeBytes64 expectedAttempt.value)]

def validateIndexed (plaintext : Bytes) (expectedKind : MessageType) (expectedAttempt : ClientAttemptId) :
    Option (Except ValidateControlError Unit) :=
  if isHandshakeMessageType expectedKind = false then some (.error (.invalidExpectedMessageType expectedKind))
  else if expectedAttempt.value = 0 then some (.error .zeroExpectedClientAttemptId)
  else do
    if ← controlMismatch plaintext expectedKind expectedAttempt then some (.error .remoteAuthenticationFailure)
    else some (.ok ())

theorem mismatchesSome (operands : List Bool) : mismatches (operands.map some) = some (operands.any id) := by
  induction operands with
  | nil => rfl
  | cons operand rest ih =>
    cases operand with
    | true => rfl
    | false => exact ih

theorem mismatchInRange (plaintext : Bytes) (kind : MessageType) (attempt : ClientAttemptId) :
    controlMismatch plaintext kind attempt = some (decide (plaintext.length ≠ controlRecordLength ∨
      slice plaintext 0 4 ≠ controlMagic ∨ byteAt plaintext 4 ≠ crabnetNoiseProfile ∨ byteAt plaintext 5 ≠ kind.wireValue ∨
      slice plaintext 6 8 ≠ be 2 0 ∨ slice plaintext 8 16 ≠ toBeBytes64 attempt.value)) := by
  unfold controlMismatch
  by_cases sized : plaintext.length = controlRecordLength
  · have bound : 16 ≤ plaintext.length := Nat.le_of_eq sized.symm
    have operands := mismatchesSome [decide (slice plaintext 0 4 ≠ controlMagic),
      decide (byteAt plaintext 4 ≠ crabnetNoiseProfile), decide (byteAt plaintext 5 ≠ kind.wireValue),
      decide (slice plaintext 6 8 ≠ be 2 0), decide (slice plaintext 8 16 ≠ toBeBytes64 attempt.value)]
    rw [if_neg (not_not.mpr sized), checkedSliceSome (by omega) (by omega), checkedByteSome (by omega),
      checkedByteSome (by omega), checkedSliceSome (by omega) (by omega), checkedSliceSome (by omega) (by omega)]
    simp only [List.map_cons, List.map_nil] at operands
    simp only [Option.map_some]
    rw [operands]
    simp [sized]
  · simp [sized]

theorem validateInRange (plaintext : Bytes) (kind : MessageType) (attempt : ClientAttemptId) :
    validateIndexed plaintext kind attempt = some (validateControl plaintext kind attempt) := by
  unfold validateIndexed validateControl
  rw [mismatchInRange]
  simp only [Option.bind_eq_bind, Option.bind_some, decide_eq_true_eq]
  split
  · rfl
  · split
    · rfl
    · split <;> rfl

theorem recordValid {plaintext kind} {attempt : ClientAttemptId} (ok : validateControl plaintext kind attempt = .ok ()) :
    plaintext = controlRecord kind attempt := by
  unfold validateControl at ok
  split at ok <;> try contradiction
  split at ok <;> try contradiction
  split at ok <;> try contradiction
  rename_i same
  simp only [not_or, not_not] at same
  obtain ⟨sized, magic, profile, type, reserved, last⟩ := same
  have bound : plaintext.length = 16 := sized
  have layout : plaintext = slice plaintext 0 4 ++ (byteAt plaintext 4 :: byteAt plaintext 5 ::
      (slice plaintext 6 8 ++ slice plaintext 8 16)) := by
    have start := @dropSlice plaintext 0 4 (by decide)
    have middle := @dropSlice plaintext 6 8 (by decide)
    have stop := @dropSlice plaintext 8 16 (by decide)
    have beyond : plaintext.drop 16 = [] := List.drop_eq_nil_of_le (by omega)
    rw [beyond, List.append_nil] at stop
    rw [stop] at middle
    rw [dropByte (i := 4) (by omega), dropByte (i := 5) (by omega), middle] at start
    exact start
  rw [layout, magic, profile, type, reserved, last]
  rfl

theorem validIff {kind} {attempt : ClientAttemptId} (handshake : isHandshakeMessageType kind = true)
    (nonzero : attempt.value ≠ 0) (plaintext : Bytes) :
    validateControl plaintext kind attempt = .ok () ↔ encodeControl kind attempt = .ok plaintext := by
  obtain ⟨record, encoded, _⟩ := controlEncoded nonzero handshake
  have valid := of_decide_eq_true (encodedValid encoded)
  constructor
  · intro ok
    rw [encoded, recordValid ok, recordValid valid]
  · intro same
    cases Except.ok.inj (same.symm.trans encoded)
    exact valid

theorem wireInjective {kind kind' : MessageType} (same : kind.wireValue = kind'.wireValue) : kind = kind' := by
  revert same
  cases kind <;> cases kind' <;> decide

theorem recordInjective {kind kind'} {attempt attempt' : ClientAttemptId}
    (same : controlRecord kind attempt = controlRecord kind' attempt') : kind = kind' ∧ attempt = attempt' := by
  simp only [controlRecord, List.append_assoc, List.append_cancel_left_eq, List.cons_append, List.nil_append,
    List.cons.injEq, true_and] at same
  obtain ⟨types, values⟩ := same
  refine ⟨wireInjective types, ?_⟩
  cases attempt
  cases attempt'
  exact congrArg ClientAttemptId.mk (toBeBytes64Inj values)

theorem encodedRecord {kind} {attempt : ClientAttemptId} {record} (ok : encodeControl kind attempt = .ok record) :
    record = controlRecord kind attempt := recordValid (of_decide_eq_true (encodedValid ok))

theorem controlRecordExactness {kind} {attempt : ClientAttemptId} (handshake : isHandshakeMessageType kind = true)
    (nonzero : attempt.value ≠ 0) :
    (∃ record, encodeControl kind attempt = .ok record ∧ record.length = controlRecordLength ∧
      ∀ plaintext, validateControl plaintext kind attempt = .ok () ↔ plaintext = record) ∧
    (∀ kind' attempt' record, encodeControl kind attempt = .ok record → encodeControl kind' attempt' = .ok record →
      kind = kind' ∧ attempt = attempt') ∧
    (∀ attempt' prologue, buildPrologue attempt = .ok prologue → buildPrologue attempt' = .ok prologue →
      attempt = attempt') ∧
    (∀ plaintext kind' attempt', validateControl plaintext kind attempt = .ok () →
      validateControl plaintext kind' attempt' = .ok () → kind = kind' ∧ attempt = attempt') ∧
    ∀ plaintext kind' attempt', validateIndexed plaintext kind' attempt' = some (validateControl plaintext kind' attempt') := by
  obtain ⟨record, encoded, sized⟩ := controlEncoded nonzero handshake
  refine ⟨⟨record, encoded, sized, fun plaintext => ?_⟩, ?_, fun _ _ => prologueBinds, ?_, validateInRange⟩
  · rw [validIff handshake nonzero, encoded, Except.ok.injEq, eq_comm]
  · intro kind' attempt' record left right
    exact recordInjective ((encodedRecord left).symm.trans (encodedRecord right))
  · intro plaintext kind' attempt' left right
    exact recordInjective ((recordValid left).symm.trans (recordValid right))

theorem controlRecordExactnessFinish :
    isHandshakeMessageType .clientFinish = true ∧ (⟨1⟩ : ClientAttemptId).value ≠ 0 ∧
      ∀ kind attempt, validateControl (controlRecord .clientFinish ⟨1⟩) kind attempt = .ok () →
        MessageType.clientFinish = kind ∧ (⟨1⟩ : ClientAttemptId) = attempt := by
  have nonzero : (⟨1⟩ : ClientAttemptId).value ≠ 0 := by decide
  obtain ⟨_, _, _, exact_, _⟩ := @controlRecordExactness .clientFinish ⟨1⟩ rfl nonzero
  exact ⟨rfl, nonzero, fun kind attempt => exact_ _ kind attempt (by decide)⟩

end Crabnet.ControlRecords
