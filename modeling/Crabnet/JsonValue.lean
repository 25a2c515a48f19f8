import Mathlib.Data.List.Basic

/-! JSON documents once they are read, and the derived readers of records: a field
that is optional may be absent or null, and fields that are not asked for are
ignored. -/
namespace Crabnet.JsonValue

/- A number is read as an integer or as a float, and the two are never equal. The
floats of a document are finite, so each is a rational. -/
inductive Number where
  | integer (value : Int)
  | float (value : Rat)
  deriving DecidableEq

inductive Value where
  | null
  | bool (value : Bool)
  | number (value : Number)
  | string (value : String)
  | array (values : List Value)
  | object (fields : List (String × Value))

namespace Value

mutual

def same : Value → Value → Bool
  | null, null => true
  | bool a, bool b => a == b
  | number a, number b => a == b
  | string a, string b => a == b
  | array vs, array ws => sameAll vs ws
  | object fs, object gs => sameFields fs gs
  | _, _ => false

def sameAll : List Value → List Value → Bool
  | [], [] => true
  | v :: vs, w :: ws => same v w && sameAll vs ws
  | _, _ => false

def sameFields : List (String × Value) → List (String × Value) → Bool
  | [], [] => true
  | (k, v) :: fs, (l, w) :: gs => k == l && (same v w && sameFields fs gs)
  | _, _ => false

end

mutual

theorem sameEq : (v w : Value) → same v w = true → v = w
  | null, w, h => by cases w <;> simp_all [same]
  | bool a, w, h => by cases w <;> simp_all [same]
  | number a, w, h => by cases w <;> simp_all [same]
  | string a, w, h => by cases w <;> simp_all [same]
  | array vs, w, h => by
    cases w with
    | array ws =>
      rw [same] at h
      rw [sameAllEq vs ws h]
    | null | bool | number | string | object => simp [same] at h
  | object fs, w, h => by
    cases w with
    | object gs =>
      rw [same] at h
      rw [sameFieldsEq fs gs h]
    | null | bool | number | string | array => simp [same] at h

theorem sameAllEq : (vs ws : List Value) → sameAll vs ws = true → vs = ws
  | [], ws, h => by cases ws <;> simp_all [sameAll]
  | v :: vs, ws, h => by
    cases ws with
    | nil => simp [sameAll] at h
    | cons w ws =>
      simp only [sameAll, Bool.and_eq_true] at h
      rw [sameEq v w h.1, sameAllEq vs ws h.2]

theorem sameFieldsEq : (fs gs : List (String × Value)) → sameFields fs gs = true → fs = gs
  | [], gs, h => by cases gs <;> simp_all [sameFields]
  | (k, v) :: fs, gs, h => by
    cases gs with
    | nil => simp [sameFields] at h
    | cons g gs =>
      obtain ⟨l, w⟩ := g
      simp only [sameFields, Bool.and_eq_true, beq_iff_eq] at h
      rw [h.1, sameEq v w h.2.1, sameFieldsEq fs gs h.2.2]

end

mutual

theorem sameRefl : (v : Value) → same v v = true
  | null => rfl
  | bool _ | number _ | string _ => by simp [same]
  | array vs => by rw [same, sameAllRefl vs]
  | object fs => by rw [same, sameFieldsRefl fs]

theorem sameAllRefl : (vs : List Value) → sameAll vs vs = true
  | [] => rfl
  | v :: vs => by rw [sameAll, sameRefl v, sameAllRefl vs, Bool.and_self]

theorem sameFieldsRefl : (fs : List (String × Value)) → sameFields fs fs = true
  | [] => rfl
  | (k, v) :: fs => by simp [sameFields, sameRefl v, sameFieldsRefl fs]

end

instance : DecidableEq Value := fun v w =>
  if h : same v w = true then isTrue (sameEq v w h) else isFalse fun e => h (e ▸ sameRefl v)

def get (key : String) : Value → Option Value
  | object fields => fields.lookup key
  | _ => none

end Value

/- A derived reader takes the fields of an object, each at most once, or the elements
of an array in the order of the fields. -/
def derived (names : List String) : Value → Option (List (Option Value))
  | .object fields =>
    if names.all fun name => decide ((fields.filter fun field => field.1 == name).length ≤ 1) then
      some (names.map fun name => fields.lookup name)
    else none
  | .array values => if values.length = names.length then some (values.map some) else none
  | .null | .bool _ | .number _ | .string _ => none

theorem derivedApart {fields more : List (String × Value)} {names : List String}
    (apart : ∀ f ∈ more, f.1 ∉ names) : derived names (.object (fields ++ more)) = derived names (.object fields) := by
  have other : ∀ name ∈ names, ∀ f ∈ more, f.1 ≠ name := by
    intro name member f inside same
    exact apart f inside (same ▸ member)
  have counted : ∀ name ∈ names, ((fields ++ more).filter fun field => field.1 == name) =
      fields.filter fun field => field.1 == name := by
    intro name member
    have none : (more.filter fun field => field.1 == name) = [] :=
      List.filter_eq_nil_iff.mpr fun f inside same => other name member f inside (beq_iff_eq.mp same)
    rw [List.filter_append, none, List.append_nil]
  have found : ∀ name ∈ names, (fields ++ more).lookup name = fields.lookup name := by
    intro name member
    have none : more.lookup name = none :=
      List.lookup_eq_none_iff.mpr fun f inside => bne_iff_ne.mpr (other name member f inside).symm
    rw [List.lookup_append, none, Option.or_none]
  have once : (names.all fun name => decide (((fields ++ more).filter fun field => field.1 == name).length ≤ 1)) =
      names.all fun name => decide ((fields.filter fun field => field.1 == name).length ≤ 1) := by
    rw [Bool.eq_iff_iff, List.all_eq_true, List.all_eq_true]
    exact forall₂_congr fun name member => by rw [counted name member]
  simp only [derived, once, List.map_congr_left found]

def optionalString : Option Value → Option (Option String)
  | none | some .null => some none
  | some (.string s) => some (some s)
  | some _ => none

def requiredString : Option Value → Option String
  | some (.string s) => some s
  | _ => none

def readArray {α : Type} (read : Value → Option α) : Option Value → Option (List α)
  | some (.array values) => values.mapM read
  | _ => none

theorem readArrayMap {α β : Type} {read : Value → Option α} {write : β → Value} {view : β → α}
    (reads : ∀ b, read (write b) = some (view b)) (items : List β) :
    readArray read (some (.array (items.map write))) = some (items.map view) := by
  simp only [readArray]
  induction items with
  | nil => rfl
  | cons b rest ih => simp [reads, ih]

end Crabnet.JsonValue
