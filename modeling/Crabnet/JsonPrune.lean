import Crabnet.JsonValue

/-! Deleting parts of a document: each element of an array and each member of an object
goes or stays by its path, innermost step first, and its value. -/
namespace Crabnet.JsonPrune
open JsonValue

inductive Step where
  | element
  | field (key : String)
  deriving DecidableEq

mutual

def prune (doomed : List Step → Value → Bool) (path : List Step) : Value → Value
  | .array values => .array (pruneValues doomed path values)
  | .object fields => .object (pruneFields doomed path fields)
  | v => v

def pruneValues (doomed : List Step → Value → Bool) (path : List Step) : List Value → List Value
  | [] => []
  | v :: rest =>
    if doomed (.element :: path) v then pruneValues doomed path rest
    else prune doomed (.element :: path) v :: pruneValues doomed path rest

def pruneFields (doomed : List Step → Value → Bool) (path : List Step) : List (String × Value) → List (String × Value)
  | [] => []
  | (key, v) :: rest =>
    if doomed (.field key :: path) v then pruneFields doomed path rest
    else (key, prune doomed (.field key :: path) v) :: pruneFields doomed path rest

end

variable {doomed doomed' : List Step → Value → Bool}

/-! Only the paths below a value matter to what is deleted in it. -/

def SameBelow (doomed doomed' : List Step → Value → Bool) (path : List Step) : Prop :=
  ∀ steps step v, doomed (steps ++ step :: path) v = doomed' (steps ++ step :: path) v

theorem SameBelow.here {path} (same : SameBelow doomed doomed' path) (step : Step) (v : Value) :
    doomed (step :: path) v = doomed' (step :: path) v := same [] step v

theorem SameBelow.below {path} (same : SameBelow doomed doomed' path) (step : Step) :
    SameBelow doomed doomed' (step :: path) := by
  intro steps inner v
  have shifted := same (steps ++ [inner]) step v
  simpa using shifted

mutual

theorem pruneSame {path} (same : SameBelow doomed doomed' path) : (v : Value) → prune doomed path v = prune doomed' path v
  | .null | .bool _ | .number _ | .string _ => rfl
  | .array values => by rw [prune, prune, pruneValuesSame (same.here .element) (same.below .element) values]
  | .object fields => by
    rw [prune, prune, pruneFieldsSame (fun key => same.here (.field key)) (fun key => same.below (.field key)) fields]

theorem pruneValuesSame {path} (here : ∀ v, doomed (.element :: path) v = doomed' (.element :: path) v)
    (below : SameBelow doomed doomed' (.element :: path)) :
    (values : List Value) → pruneValues doomed path values = pruneValues doomed' path values
  | [] => rfl
  | v :: rest => by
    rw [pruneValues, pruneValues, here, pruneSame below v, pruneValuesSame here below rest]

theorem pruneFieldsSame {path} (here : ∀ key v, doomed (.field key :: path) v = doomed' (.field key :: path) v)
    (below : ∀ key, SameBelow doomed doomed' (.field key :: path)) :
    (fields : List (String × Value)) → pruneFields doomed path fields = pruneFields doomed' path fields
  | [] => rfl
  | (key, v) :: rest => by
    rw [pruneFields, pruneFields, here, pruneSame (below key) v, pruneFieldsSame here below rest]

end

/-! What is left is left again, where a value that stays would still stay without its
deleted parts. -/

mutual

theorem pruneTwice (stays : ∀ path v, doomed path v = false → doomed path (prune doomed path v) = false)
    (path : List Step) : (v : Value) → prune doomed path (prune doomed path v) = prune doomed path v
  | .null | .bool _ | .number _ | .string _ => rfl
  | .array values => by rw [prune, prune, pruneValuesTwice stays path values]
  | .object fields => by rw [prune, prune, pruneFieldsTwice stays path fields]

theorem pruneValuesTwice (stays : ∀ path v, doomed path v = false → doomed path (prune doomed path v) = false)
    (path : List Step) : (values : List Value) →
    pruneValues doomed path (pruneValues doomed path values) = pruneValues doomed path values
  | [] => rfl
  | v :: rest => by
    rw [pruneValues]
    cases goes : doomed (.element :: path) v with
    | true => exact pruneValuesTwice stays path rest
    | false =>
      simp only [Bool.false_eq_true, if_false]
      rw [pruneValues, stays _ v goes, pruneTwice stays _ v, pruneValuesTwice stays path rest]
      rfl

theorem pruneFieldsTwice (stays : ∀ path v, doomed path v = false → doomed path (prune doomed path v) = false)
    (path : List Step) : (fields : List (String × Value)) →
    pruneFields doomed path (pruneFields doomed path fields) = pruneFields doomed path fields
  | [] => rfl
  | (key, v) :: rest => by
    rw [pruneFields]
    cases goes : doomed (.field key :: path) v with
    | true => exact pruneFieldsTwice stays path rest
    | false =>
      simp only [Bool.false_eq_true, if_false]
      rw [pruneFields, stays _ v goes, pruneTwice stays _ v, pruneFieldsTwice stays path rest]
      rfl

end

theorem lookupPruned {key : String} {fields : List (String × Value)} (absent : fields.lookup key = none)
    (path : List Step) : (pruneFields doomed path fields).lookup key = none := by
  induction fields with
  | nil => rfl
  | cons f rest ih =>
    obtain ⟨name, v⟩ := f
    rw [List.lookup_cons] at absent
    cases named : key == name with
    | true => simp [named] at absent
    | false =>
      simp only [named] at absent
      rw [pruneFields]
      split
      · exact ih absent
      · rw [List.lookup_cons, named]
        exact ih absent

theorem getPruned {key : String} {v : Value} (absent : (v.get key).isSome = false) (path : List Step) :
    ((prune doomed path v).get key).isSome = false := by
  cases v with
  | object fields =>
    have missing : fields.lookup key = none := by simpa [Value.get] using absent
    simp [prune, Value.get, lookupPruned missing]
  | null | bool | number | string | array => rfl

end Crabnet.JsonPrune
