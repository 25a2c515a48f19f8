import Mathlib.Algebra.Group.Nat.Defs
import Mathlib.Data.List.Induction

/-! Fixed-width machine words as a program sees them: checked and saturating
64-bit arithmetic, big-endian byte images, and byte arrays of fixed size.
Every operation has one lemma that gives its value over the naturals. -/
namespace Crabnet.MachineWord

abbrev Bytes := List UInt8

def u64Limit : Nat := 2 ^ 64

theorem u64Bound (a : UInt64) : a.toNat < u64Limit := a.toNat_lt

def checkedAdd (a b : UInt64) : Option UInt64 :=
  if a.toNat + b.toNat < u64Limit then some (a + b) else none

theorem addNat {a b : UInt64} (fits : a.toNat + b.toNat < u64Limit) :
    (a + b).toNat = a.toNat + b.toNat := by
  rw [UInt64.toNat_add]
  exact Nat.mod_eq_of_lt fits

theorem checkedAddSome {a b c : UInt64} (ok : checkedAdd a b = some c) :
    c.toNat = a.toNat + b.toNat := by
  simp only [checkedAdd] at ok
  split at ok <;> try contradiction
  rename_i fits
  cases Option.some.inj ok
  exact addNat fits

theorem checkedAddNone {a b : UInt64} (failed : checkedAdd a b = none) :
    u64Limit ≤ a.toNat + b.toNat := by
  simp only [checkedAdd] at failed
  split at failed <;> try contradiction
  omega

def saturatingAdd (a b : UInt64) : UInt64 := (checkedAdd a b).getD (UInt64.ofNat (u64Limit - 1))

theorem saturatingAddNat (a b : UInt64) :
    (saturatingAdd a b).toNat = min (a.toNat + b.toNat) (u64Limit - 1) := by
  unfold saturatingAdd
  cases sum : checkedAdd a b with
  | none =>
    have beyond := checkedAddNone sum
    simp only [Option.getD_none, u64Limit] at *
    rw [Nat.min_eq_right (by omega)]
    rfl
  | some c =>
    have value := checkedAddSome sum
    have bound := u64Bound c
    simp only [Option.getD_some]
    omega

def saturatingSub (a b : UInt64) : UInt64 := if b ≤ a then a - b else 0

theorem saturatingSubNat (a b : UInt64) : (saturatingSub a b).toNat = a.toNat - b.toNat := by
  unfold saturatingSub
  by_cases order : b ≤ a
  · rw [if_pos order, UInt64.toNat_sub_of_le _ _ order]
  · have below : a.toNat < b.toNat := by simpa [UInt64.le_iff_toNat_le] using order
    rw [if_neg order]
    simp
    omega

def be : Nat → Nat → Bytes
  | 0, _ => []
  | width + 1, value => be width (value / 256) ++ [UInt8.ofNat value]

def readBE (raw : Bytes) : Nat := raw.foldl (fun value byte => value * 256 + byte.toNat) 0

@[simp] theorem beLength (width value : Nat) : (be width value).length = width := by
  induction width generalizing value with
  | zero => rfl
  | succ width ih => simp [be, ih]

theorem readBeSnoc (raw : Bytes) (byte : UInt8) :
    readBE (raw ++ [byte]) = readBE raw * 256 + byte.toNat := by
  simp [readBE]

theorem readBeBounded {width value : Nat} (bound : value < 256 ^ width) :
    readBE (be width value) = value := by
  induction width generalizing value with
  | zero =>
    have zero : value = 0 := by simpa using bound
    simp [be, readBE, zero]
  | succ width ih =>
    have quotient : value / 256 < 256 ^ width := by
      rw [Nat.pow_succ] at bound
      omega
    rw [be, readBeSnoc, ih quotient]
    simp
    omega

theorem readBeRange (raw : Bytes) : readBE raw < 256 ^ raw.length := by
  induction raw using List.reverseRecOn with
  | nil => simp [readBE]
  | append_singleton raw byte ih =>
    have small := byte.toNat_lt
    rw [readBeSnoc, List.length_append, List.length_singleton, Nat.pow_succ]
    omega

theorem beRead (raw : Bytes) : be raw.length (readBE raw) = raw := by
  induction raw using List.reverseRecOn with
  | nil => rfl
  | append_singleton raw byte ih =>
    have small := byte.toNat_lt
    have quotient : (readBE raw * 256 + byte.toNat) / 256 = readBE raw := by omega
    have digit : UInt8.ofNat (readBE raw * 256 + byte.toNat) = byte := by
      apply UInt8.toNat_inj.mp
      simp
    rw [List.length_append, List.length_singleton, be, readBeSnoc, quotient, ih, digit]

def toBeBytes64 (value : UInt64) : Bytes := be 8 value.toNat
def fromBeBytes64 (raw : Bytes) : UInt64 := UInt64.ofNat (readBE raw)

theorem fromToBeBytes64 (value : UInt64) : fromBeBytes64 (toBeBytes64 value) = value := by
  have bound : value.toNat < 256 ^ 8 := u64Bound value
  rw [fromBeBytes64, toBeBytes64, readBeBounded bound, UInt64.ofNat_toNat]

theorem toFromBeBytes64 {raw : Bytes} (size : raw.length = 8) :
    toBeBytes64 (fromBeBytes64 raw) = raw := by
  have range := readBeRange raw
  rw [size] at range
  have value : (fromBeBytes64 raw).toNat = readBE raw := by
    rw [fromBeBytes64, UInt64.toNat_ofNat']
    exact Nat.mod_eq_of_lt range
  rw [toBeBytes64, value, ← size, beRead]

theorem toBeBytes64Inj {a b : UInt64} (same : toBeBytes64 a = toBeBytes64 b) : a = b := by
  rw [← fromToBeBytes64 a, same, fromToBeBytes64]

/-! Positions in a byte string; the callers have checked its length. -/

def slice (raw : Bytes) (first last : Nat) : Bytes := (raw.drop first).take (last - first)
def byteAt (raw : Bytes) (i : Nat) : UInt8 := raw.getD i 0

def overwrite (output raw : Bytes) : Bytes := raw ++ output.drop raw.length

theorem sliceLength {raw : Bytes} {first last : Nat} (fits : last ≤ raw.length) :
    (slice raw first last).length = last - first := by
  rw [slice, List.length_take, List.length_drop]
  omega

theorem dropSlice (raw : Bytes) {first last : Nat} (order : first ≤ last) :
    raw.drop first = slice raw first last ++ raw.drop last := by
  have split := List.take_append_drop (last - first) (raw.drop first)
  rw [List.drop_drop, Nat.add_sub_cancel' order] at split
  exact split.symm

theorem dropByte {raw : Bytes} {i : Nat} (inside : i < raw.length) :
    raw.drop i = byteAt raw i :: raw.drop (i + 1) := by
  have here : byteAt raw i = raw.get ⟨i, inside⟩ := by
    simp [byteAt, inside]
  rw [here]
  exact List.drop_eq_getElem_cons inside

theorem sliceField {before field after : Bytes} {first last : Nat} (start : before.length = first)
    (stop : first + field.length = last) : slice (before ++ (field ++ after)) first last = field := by
  subst start stop
  rw [slice, List.drop_left, Nat.add_sub_cancel_left, List.take_left]

theorem byteField {before after : Bytes} {byte : UInt8} {i : Nat} (start : before.length = i) :
    byteAt (before ++ byte :: after) i = byte := by
  subst start
  simp [byteAt]

-- The same positions where nobody has checked the length; outside of it they have no value.
def checkedSlice (raw : Bytes) (first last : Nat) : Option Bytes :=
  if first ≤ last ∧ last ≤ raw.length then some (slice raw first last) else none

theorem checkedSliceSome {raw : Bytes} {first last : Nat} (order : first ≤ last) (fits : last ≤ raw.length) :
    checkedSlice raw first last = some (slice raw first last) := if_pos ⟨order, fits⟩

theorem checkedByteSome {raw : Bytes} {i : Nat} (inside : i < raw.length) : raw[i]? = some (byteAt raw i) := by
  simp [byteAt, inside]

structure FixedBytes (n : Nat) where
  toList : Bytes
  sized : toList.length = n
  deriving DecidableEq

namespace FixedBytes

@[ext] theorem ext {n : Nat} {a b : FixedBytes n} (same : a.toList = b.toList) : a = b := by
  cases a; cases b; cases same; rfl

def ofList? (n : Nat) (raw : Bytes) : Option (FixedBytes n) :=
  if sized : raw.length = n then some ⟨raw, sized⟩ else none

theorem ofListSome {n raw} {out : FixedBytes n} (ok : ofList? n raw = some out) : out.toList = raw := by
  simp only [ofList?] at ok
  split at ok <;> try contradiction
  cases Option.some.inj ok
  rfl

def copyFrom (n : Nat) (raw : Bytes) : FixedBytes n :=
  ⟨(raw ++ List.replicate n 0).take n, by simp⟩

theorem copyFromExact {n raw} (sized : raw.length = n) : (copyFrom n raw).toList = raw := by
  subst sized
  simp [copyFrom]

end FixedBytes
end Crabnet.MachineWord
