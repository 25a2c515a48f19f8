import Crabnet.AcceptedConfig

/-! Keys as text. The encoder is the one of the key generator
(bin/generate_noise_keys.rs), the decoder the one of the configuration
(crypto/noise_ik/keys.rs); they meet in lowercase hexadecimal and nowhere else. -/
namespace Crabnet.KeyText
open MachineWord NetworkTypes RuntimeConfig AcceptedConfig

def lowerHex (byte : UInt8) : List Char := [Nat.digitChar (byte.toNat / 16), Nat.digitChar (byte.toNat % 16)]

def encodeHex (bytes : Bytes) : String := .ofList (bytes.flatMap lowerHex)

/-! The decoder with its positions: an index past the end would panic. -/

def decodeFrom (bytes : Bytes) (index : Nat) : Nat → Option (Except KeyMaterialError Bytes)
  | 0 => some (.ok [])
  | remaining + 1 => do
    let first ← bytes[index * 2]?
    match nibble first with
    | none => some (.error (.invalidHex (index * 2)))
    | some high =>
      let second ← bytes[index * 2 + 1]?
      match nibble second with
      | none => some (.error (.invalidHex (index * 2 + 1)))
      | some low =>
        let output ← decodeFrom bytes (index + 1) remaining
        some (output.map fun output => (high <<< 4 ||| low) :: output)

def decodeIndexed (value : String) : Option (Except KeyMaterialError Bytes) :=
  if (utf8 value).length ≠ keyLength * 2 then some (.error (.invalidLength ((utf8 value).length / 2)))
  else decodeFrom (utf8 value) 0 keyLength

theorem pairsIndexed {bytes : Bytes} {index remaining : Nat} (sized : bytes.length = (index + remaining) * 2) :
    decodeFrom bytes index remaining = some (decodePairs index (bytes.drop (index * 2))) := by
  induction remaining generalizing index with
  | zero =>
    have beyond : bytes.drop (index * 2) = [] := List.drop_eq_nil_of_le (by omega)
    rw [beyond]
    rfl
  | succ remaining ih =>
    have first : index * 2 < bytes.length := by omega
    have second : index * 2 + 1 < bytes.length := by omega
    have rest := @ih (index + 1) (by omega)
    have next : (index + 1) * 2 = index * 2 + 1 + 1 := by omega
    rw [next] at rest
    rw [List.drop_eq_getElem_cons first, List.drop_eq_getElem_cons second, decodeFrom, decodePairs,
      List.getElem?_eq_getElem first, List.getElem?_eq_getElem second, rest]
    simp only [Option.bind_eq_bind, Option.bind_some]
    cases nibble bytes[index * 2] with
    | none => rfl
    | some high =>
      cases nibble bytes[index * 2 + 1] with
      | none => rfl
      | some low => cases decodePairs (index + 1) (bytes.drop (index * 2 + 1 + 1)) <;> rfl

theorem decodeInRange (value : String) : decodeIndexed value = some (decodeHex value) := by
  unfold decodeIndexed decodeHex
  split
  · rfl
  · rename_i sized
    exact pairsIndexed (by simpa [keyLength] using sized)

def digitByte (n : Nat) : UInt8 := UInt8.ofNat (Nat.digitChar n).toNat

theorem digitEncoded : ∀ n < 16, String.utf8EncodeChar (Nat.digitChar n) = [digitByte n] := by decide +kernel

theorem nibbleDigit : ∀ n < 16, nibble (digitByte n) = some (.ofNat n) := by decide +kernel

theorem nibbleByte : ∀ i < 256, ∀ n ∈ nibble (.ofNat i), n.toNat < 16 ∧ UInt8.ofNat i = digitByte n.toNat := by
  decide +kernel

theorem nibbleSome {byte n : UInt8} (read : nibble byte = some n) : n.toNat < 16 ∧ byte = digitByte n.toNat := by
  have fact := nibbleByte byte.toNat byte.toNat_lt n
  rw [UInt8.ofNat_toNat] at fact
  exact fact read

theorem nibblesJoined : ∀ high < 16, ∀ low < 16, (UInt8.ofNat high <<< 4 ||| UInt8.ofNat low).toNat = high * 16 + low := by
  decide +kernel

theorem byteJoined {high low : UInt8} (left : high.toNat < 16) (right : low.toNat < 16) :
    (high <<< 4 ||| low).toNat = high.toNat * 16 + low.toNat := by
  have joined := nibblesJoined high.toNat left low.toNat right
  rwa [UInt8.ofNat_toNat, UInt8.ofNat_toNat] at joined

def spelling (bytes : Bytes) : Bytes := bytes.flatMap fun byte => [digitByte (byte.toNat / 16), digitByte (byte.toNat % 16)]

theorem spellingLength (bytes : Bytes) : (spelling bytes).length = bytes.length * 2 := by
  induction bytes with
  | nil => rfl
  | cons byte rest ih =>
    simp only [spelling, List.flatMap_cons, List.length_append, List.length_cons, List.length_nil] at ih ⊢
    omega

theorem encodedBytes (bytes : Bytes) : utf8 (encodeHex bytes) = spelling bytes := by
  unfold utf8 encodeHex
  rw [String.toUTF8_eq_toByteArray, String.toByteArray_ofList, List.utf8Encode]
  simp only [List.data_toByteArray, List.flatMap_assoc]
  refine List.flatMap_congr fun byte _ => ?_
  have bound := byte.toNat_lt
  simp only [lowerHex, List.flatMap_cons, List.flatMap_nil, digitEncoded (byte.toNat / 16) (by omega),
    digitEncoded (byte.toNat % 16) (by omega)]
  rfl

theorem utf8Injective {s t : String} (same : utf8 s = utf8 t) : s = t := by
  unfold utf8 at same
  rw [String.toUTF8_eq_toByteArray, String.toUTF8_eq_toByteArray] at same
  exact String.toByteArray_inj.mp (ByteArray.ext (Array.toList_inj.mp same))

theorem pairsSpelled {index : Nat} {text bytes : Bytes} (even : text.length % 2 = 0)
    (ok : decodePairs index text = .ok bytes) : text = spelling bytes := by
  fun_induction decodePairs index text generalizing bytes with
  | case1 => contradiction
  | case2 => contradiction
  | case3 index high low rest h l right left ih =>
    cases later : decodePairs (index + 1) rest with
    | error e =>
      rw [later] at ok
      cases ok
    | ok output =>
      rw [later] at ok
      cases ok
      obtain ⟨small, rfl⟩ := nibbleSome left
      obtain ⟨small', rfl⟩ := nibbleSome right
      have tail := ih (by simp only [List.length_cons] at even; omega) later
      have joined := byteJoined small small'
      have top : (h <<< 4 ||| l).toNat / 16 = h.toNat := by omega
      have bottom : (h <<< 4 ||| l).toNat % 16 = l.toNat := by omega
      simp only [spelling, List.flatMap_cons, top, bottom, List.cons_append, List.nil_append] at tail ⊢
      rw [tail]
  | case4 text index short =>
    cases ok
    match text with
    | [] => rfl
    | [_] => contradiction
    | high :: low :: rest => exact (short high low rest rfl).elim

theorem spelledPairs (index : Nat) (bytes : Bytes) : decodePairs index (spelling bytes) = .ok bytes := by
  induction bytes generalizing index with
  | nil => rfl
  | cons byte rest ih =>
    have bound := byte.toNat_lt
    have joined := nibblesJoined (byte.toNat / 16) (by omega) (byte.toNat % 16) (by omega)
    have whole : UInt8.ofNat (byte.toNat / 16) <<< 4 ||| UInt8.ofNat (byte.toNat % 16) = byte := by
      apply UInt8.toNat_inj.mp
      omega
    have later := ih (index + 1)
    simp only [spelling] at later
    simp only [spelling, List.flatMap_cons, List.cons_append, List.nil_append, decodePairs,
      nibbleDigit (byte.toNat / 16) (by omega), nibbleDigit (byte.toNat % 16) (by omega), later, whole]
    rfl

/- A string is accepted exactly when it is the spelling of a key, which is then what it
is decoded to. -/
theorem decodeIff (value : String) (bytes : Bytes) :
    decodeHex value = .ok bytes ↔ bytes.length = keyLength ∧ value = encodeHex bytes := by
  constructor
  · intro ok
    unfold decodeHex at ok
    split at ok <;> try contradiction
    rename_i sized
    rw [not_not] at sized
    have spelled := pairsSpelled (by rw [sized]; rfl) ok
    have counted := spellingLength bytes
    rw [← spelled, sized] at counted
    refine ⟨by omega, utf8Injective ?_⟩
    rw [encodedBytes, spelled]
  · rintro ⟨sized, rfl⟩
    have counted := spellingLength bytes
    rw [sized] at counted
    rw [decodeHex, encodedBytes, if_neg (by rw [counted, not_not])]
    exact spelledPairs 0 bytes

theorem decodeInjective {value other : String} {bytes : Bytes} (left : decodeHex value = .ok bytes)
    (right : decodeHex other = .ok bytes) : value = other := by
  rw [((decodeIff value bytes).mp left).2, ((decodeIff other bytes).mp right).2]

theorem keyDecoded {value : String} {key : FixedBytes 32} (ok : keyFromHex value = .ok key) :
    decodeHex value = .ok key.toList := by
  unfold keyFromHex at ok
  cases decoded : decodeHex value with
  | error e =>
    rw [decoded] at ok
    cases ok
  | ok bytes =>
    rw [decoded] at ok
    change fromBytes bytes = .ok key at ok
    unfold fromBytes at ok
    split at ok <;> try contradiction
    rename_i fixed
    cases ok
    rw [FixedBytes.ofListSome fixed]

def Decodes (encoded : List String) (keys : List (FixedBytes 32)) : Prop :=
  List.Forall₂ (fun value key => keyFromHex value = .ok key) encoded keys

theorem decodedFrom {encoded : List String} {keys key} (decodes : Decodes encoded keys) (member : key ∈ keys) :
    ∃ value ∈ encoded, keyFromHex value = .ok key := by
  induction decodes with
  | nil => cases member
  | cons first rest ih =>
    rcases List.mem_cons.mp member with rfl | later
    · exact ⟨_, List.mem_cons_self, first⟩
    · obtain ⟨value, inside, decoded⟩ := ih later
      exact ⟨value, List.mem_cons_of_mem _ inside, decoded⟩

theorem distinctKeys {encoded : List String} {keys} (decodes : Decodes encoded keys) (distinct : encoded.Nodup) :
    keys.Nodup := by
  induction decodes with
  | nil => exact List.nodup_nil
  | cons first rest ih =>
    rename_i value key values keys
    obtain ⟨absent, later⟩ := List.nodup_cons.mp distinct
    refine List.nodup_cons.mpr ⟨fun member => absent ?_, ih later⟩
    obtain ⟨other, inside, same⟩ := decodedFrom rest member
    rw [decodeInjective (keyDecoded first) (keyDecoded same)]
    exact inside

theorem allowlistAccepted {seen encoded : List String} (ok : validateAllowlist seen encoded = .ok ()) :
    (seen.Nodup → (seen ++ encoded).Nodup) ∧ ∃ keys, Decodes encoded keys := by
  induction encoded generalizing seen with
  | nil => exact ⟨by simp, [], .nil⟩
  | cons value rest ih =>
    obtain ⟨fresh, later⟩ := checked ok
    obtain ⟨valid, later⟩ := checked later
    have absent : value ∉ seen := by simpa using ensured fresh
    obtain ⟨distinct, keys, decodes⟩ := ih later
    have key : ∃ key, keyFromHex value = .ok key := by
      unfold validatePublicKey at valid
      cases decoded : keyFromHex value with
      | error e =>
        rw [decoded] at valid
        cases valid
      | ok key => exact ⟨key, rfl⟩
    obtain ⟨key, decoded⟩ := key
    refine ⟨fun once => ?_, key :: keys, .cons decoded decodes⟩
    rw [List.append_cons]
    refine distinct (List.nodup_append.mpr ⟨once, List.nodup_singleton value, ?_⟩)
    intro earlier inside last member same
    rw [same, List.mem_singleton.mp member] at inside
    exact absent inside

theorem keysAccepted [KeyFiles] {c : Config} (valid : c.validateSecurity = .ok ()) :
    c.security.allowedClientPublicKeys.Nodup ∧ ∃ keys, Decodes c.security.allowedClientPublicKeys keys ∧ keys.Nodup := by
  have none_ : c.security.allowedClientPublicKeys.isEmpty = true → c.security.allowedClientPublicKeys.Nodup ∧
      ∃ keys, Decodes c.security.allowedClientPublicKeys keys ∧ keys.Nodup := by
    intro empty
    rw [List.isEmpty_iff.mp empty]
    exact ⟨List.nodup_nil, [], .nil, List.nodup_nil⟩
  unfold Config.validateSecurity at valid
  split at valid
  · exact none_ (ensured (checked (checked (checked valid).2).2).1)
  · obtain ⟨limits, _, valid⟩ := obtained valid
    obtain ⟨path, _, valid⟩ := obtained (checked valid).2
    obtain ⟨_, _, valid⟩ := obtained valid
    unfold validatePeerKeys at valid
    split at valid
    · obtain ⟨encoded, _, valid⟩ := obtained valid
      exact none_ (ensured (checked valid).2)
    · obtain ⟨distinct, keys, decodes⟩ := allowlistAccepted (checked (checked valid).2).2
      exact ⟨distinct List.nodup_nil, keys, decodes, distinctKeys decodes (distinct List.nodup_nil)⟩

theorem keyTextCodec [KeyFiles] :
    (∀ value bytes, decodeHex value = .ok bytes ↔ bytes.length = keyLength ∧ value = encodeHex bytes) ∧
    (∀ value, (∃ bytes, bytes.length = keyLength ∧ value = encodeHex bytes) ∨ ∃ e, decodeHex value = .error e) ∧
    (∀ value, decodeIndexed value = some (decodeHex value)) ∧
    (∀ value other bytes, decodeHex value = .ok bytes → decodeHex other = .ok bytes → value = other) ∧
    ∀ c : Config, c.validateSecurity = .ok () →
      c.security.allowedClientPublicKeys.Nodup ∧
        ∃ keys, Decodes c.security.allowedClientPublicKeys keys ∧ keys.Nodup := by
  refine ⟨decodeIff, ?_, decodeInRange, fun _ _ _ => decodeInjective, fun c valid => keysAccepted valid⟩
  intro value
  cases decoded : decodeHex value with
  | ok bytes => exact .inl ⟨bytes, (decodeIff value bytes).mp decoded⟩
  | error e => exact .inr ⟨e, rfl⟩

example : keyFromHex (encodeHex (List.replicate 31 0 ++ [0xAF])) = .ok (.copyFrom 32 (List.replicate 31 0 ++ [0xAF])) := by
  decide +kernel

end Crabnet.KeyText
