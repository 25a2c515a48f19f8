import Mathlib.Data.List.Basic

/-! Fallible operations on a state, which may have changed by the time they
fail, with a rule of pre- and postconditions for each way of composing them,
and runs of machines that answer every input with an output. -/
namespace Crabnet.Fallible

def Action (σ ε α : Type) : Type := σ → Except ε α × σ

namespace Action
variable {σ τ ε ε' α β : Type}

def andThen (x : Action σ ε α) (f : α → Action σ ε β) : Action σ ε β := fun s =>
  match x s with
  | (.ok a, t) => f a t
  | (.error e, t) => (.error e, t)

instance : Monad (Action σ ε) where
  pure a := fun s => (.ok a, s)
  bind := andThen

def fail (e : ε) : Action σ ε α := fun s => (.error e, s)
def read : Action σ ε σ := fun s => (.ok s, s)
def modify (f : σ → σ) : Action σ ε Unit := fun s => (.ok (), f s)
def total (f : σ → α × σ) : Action σ ε α := fun s => (.ok (f s).1, (f s).2)
def ofExcept (x : Except ε α) : Action σ ε α := fun s => (x, s)

def ofOption (e : ε) : Option α → Action σ ε α
  | some a => pure a
  | none => fail e

def mapError (g : ε → ε') (x : Action σ ε α) : Action σ ε' α := fun s =>
  match x s with
  | (.ok a, t) => (.ok a, t)
  | (.error e, t) => (.error (g e), t)

def within (get : σ → τ) (put : σ → τ → σ) (x : Action τ ε α) : Action σ ε α := fun s =>
  match x (get s) with
  | (r, t) => (r, put s t)

-- From `s` the operation ends with a value in `Q` or with an error in `E`.
def wp (x : Action σ ε α) (Q : α → σ → Prop) (E : ε → σ → Prop) (s : σ) : Prop :=
  match x s with
  | (.ok a, t) => Q a t
  | (.error e, t) => E e t

variable {Q Q' : α → σ → Prop} {E E' : ε → σ → Prop} {s : σ}

theorem wpMono {x : Action σ ε α} (h : wp x Q E s) (ok : ∀ a t, Q a t → Q' a t)
    (error : ∀ e t, E e t → E' e t) : wp x Q' E' s := by
  revert h
  unfold wp
  split
  · exact ok _ _
  · exact error _ _

@[simp] theorem wpPure (a : α) : wp (pure a) Q E s ↔ Q a s := Iff.rfl
@[simp] theorem wpFail (e : ε) : wp (fail e) Q E s ↔ E e s := Iff.rfl
@[simp] theorem wpRead {Q : σ → σ → Prop} : wp read Q E s ↔ Q s s := Iff.rfl
@[simp] theorem wpModify {Q : Unit → σ → Prop} (f : σ → σ) : wp (modify f) Q E s ↔ Q () (f s) := Iff.rfl
@[simp] theorem wpTotal (f : σ → α × σ) : wp (total f) Q E s ↔ Q (f s).1 (f s).2 := Iff.rfl

@[simp] theorem wpOfExcept (x : Except ε α) :
    wp (ofExcept x) Q E s ↔ match x with | .ok a => Q a s | .error e => E e s := by
  cases x <;> rfl

@[simp] theorem wpOfOption (e : ε) (x : Option α) :
    wp (ofOption e x) Q E s ↔ match x with | some a => Q a s | none => E e s := by
  cases x <;> rfl

@[simp] theorem wpBind {x : Action σ ε β} {f : β → Action σ ε α} :
    wp (x >>= f) Q E s ↔ wp x (fun b t => wp (f b) Q E t) E s := by
  change wp (andThen x f) Q E s ↔ _
  simp only [wp, andThen]
  rcases x s with ⟨_ | _, _⟩ <;> rfl

@[simp] theorem wpMapError {E : ε' → σ → Prop} (g : ε → ε') (x : Action σ ε α) :
    wp (mapError g x) Q E s ↔ wp x Q (fun e t => E (g e) t) s := by
  unfold wp mapError
  rcases x s with ⟨_ | _, _⟩ <;> rfl

@[simp] theorem wpWithin (get : σ → τ) (put : σ → τ → σ) (x : Action τ ε α) :
    wp (within get put x) Q E s ↔
      wp x (fun a t => Q a (put s t)) (fun e t => E e (put s t)) (get s) := by
  unfold wp within
  rcases x (get s) with ⟨_ | _, _⟩ <;> rfl

@[simp] theorem wpIte {c : Prop} [Decidable c] {x y : Action σ ε α} :
    wp (if c then x else y) Q E s ↔ (c → wp x Q E s) ∧ (¬ c → wp y Q E s) := by
  split <;> simp [*]

theorem wpOk {x : Action σ ε α} {a t} (h : wp x Q E s) (ran : x s = (.ok a, t)) : Q a t := by
  simpa only [wp, ran] using h

theorem wpError {x : Action σ ε α} {e t} (h : wp x Q E s) (ran : x s = (.error e, t)) : E e t := by
  simpa only [wp, ran] using h

theorem wpOfOk {x : Action σ ε α} {a t} (ran : x s = (.ok a, t)) (post : Q a t) : wp x Q E s := by
  simpa only [wp, ran] using post

theorem wpOutcome {x : Action σ ε α} {R : Except ε α × σ → Prop}
    (h : wp x (fun a t => R (.ok a, t)) (fun e t => R (.error e, t)) s) : R (x s) := by
  revert h
  unfold wp
  split <;> rename_i ran <;> rw [ran] <;> exact id

end Action

theorem passed {ε α : Type} {c : Prop} [Decidable c] {e : ε} {x : Except ε α} {a : α}
    (ok : (if c then .error e else x) = .ok a) : ¬ c ∧ x = .ok a := by
  by_cases failed : c
  · rw [if_pos failed] at ok
    contradiction
  · rw [if_neg failed] at ok
    exact ⟨failed, ok⟩

section Runs
variable {σ ι ο : Type}

def run (step : σ → ι → ο × σ) : σ → List ι → List ο × σ
  | s, [] => ([], s)
  | s, i :: rest =>
    let next := step s i
    let tail := run step next.2 rest
    (next.1 :: tail.1, tail.2)

theorem runHistory {step : σ → ι → ο × σ} {Inv : List ο → σ → Prop}
    (preserved : ∀ past s i, Inv past s → Inv (past ++ [(step s i).1]) (step s i).2)
    {past : List ο} {s : σ} (start : Inv past s) (inputs : List ι) :
    Inv (past ++ (run step s inputs).1) (run step s inputs).2 := by
  induction inputs generalizing past s with
  | nil => simpa [run] using start
  | cons i rest ih =>
    have next := ih (preserved past s i start)
    simpa [run] using next

theorem runInvariant {step : σ → ι → ο × σ} {Inv : σ → Prop}
    (preserved : ∀ s i, Inv s → Inv (step s i).2) {s : σ} (start : Inv s) (inputs : List ι) :
    Inv (run step s inputs).2 :=
  @runHistory σ ι ο step (fun _ => Inv) (fun _ s i => preserved s i) [] s start inputs

theorem runOutputs {step : σ → ι → ο × σ} {Inv : σ → Prop} {Good : ο → Prop}
    (preserved : ∀ s i, Inv s → Inv (step s i).2) (good : ∀ s i, Inv s → Good (step s i).1)
    {s : σ} (start : Inv s) (inputs : List ι) : ∀ o ∈ (run step s inputs).1, Good o := by
  induction inputs generalizing s with
  | nil => simp [run]
  | cons i rest ih =>
    intro o member
    rcases List.mem_cons.mp member with rfl | later
    · exact good s i start
    · exact ih (preserved s i start) o later

theorem runSnoc (step : σ → ι → ο × σ) (s : σ) (inputs : List ι) (last : ι) :
    (run step s (inputs ++ [last])).2 = (step (run step s inputs).2 last).2 := by
  induction inputs generalizing s with
  | nil => rfl
  | cons i rest ih => exact ih (step s i).2

theorem runAppend (step : σ → ι → ο × σ) (s : σ) (first second : List ι) :
    run step s (first ++ second) =
      ((run step s first).1 ++ (run step (run step s first).2 second).1, (run step (run step s first).2 second).2) := by
  induction first generalizing s with
  | nil => rfl
  | cons i rest ih => simp only [List.cons_append, run, ih]

/- Inputs that show nothing and change nothing that counts can be left out of a run.
What counts may depend on the inputs to come. -/
theorem runWithout {step : σ → ι → List ο × σ} {hidden : ι → Bool} {R : List ι → σ → σ → Prop}
    (silent : ∀ s t i rest, hidden i = true → R (i :: rest) s t → (step s i).1 = [] ∧ R rest (step s i).2 t)
    (shown : ∀ s t i rest, hidden i = false → R (i :: rest) s t →
      (step s i).1 = (step t i).1 ∧ R rest (step s i).2 (step t i).2) {s t : σ} (inputs : List ι) (start : R inputs s t) :
    (run step s inputs).1.flatten = (run step t (inputs.filter fun i => !hidden i)).1.flatten ∧
      R [] (run step s inputs).2 (run step t (inputs.filter fun i => !hidden i)).2 := by
  induction inputs generalizing s t with
  | nil => exact ⟨rfl, start⟩
  | cons i rest ih =>
    cases known : hidden i with
    | true =>
      obtain ⟨quiet, next⟩ := silent s t i rest known start
      obtain ⟨same, last⟩ := ih next
      simp only [run, List.filter_cons, known, Bool.not_true, Bool.false_eq_true, if_false, List.flatten_cons, quiet,
        List.nil_append]
      exact ⟨same, last⟩
    | false =>
      obtain ⟨here, next⟩ := shown s t i rest known start
      obtain ⟨same, last⟩ := ih next
      simp only [run, List.filter_cons, known, Bool.not_false, if_true, List.flatten_cons, here, same]
      exact ⟨trivial, last⟩

theorem runRelated {τ ο' : Type} {step : σ → ι → ο × σ} {step' : τ → ι → ο' × τ} {R : σ → τ → Prop} {O : ο → ο' → Prop}
    (related : ∀ s t i, R s t → O (step s i).1 (step' t i).1 ∧ R (step s i).2 (step' t i).2) {s : σ} {t : τ}
    (start : R s t) (inputs : List ι) :
    List.Forall₂ O (run step s inputs).1 (run step' t inputs).1 ∧ R (run step s inputs).2 (run step' t inputs).2 := by
  induction inputs generalizing s t with
  | nil => exact ⟨.nil, start⟩
  | cons i rest ih =>
    obtain ⟨answers, next⟩ := related s t i start
    obtain ⟨tail, last⟩ := ih next
    exact ⟨.cons answers tail, last⟩

end Runs
end Crabnet.Fallible
