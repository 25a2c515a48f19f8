import Crabnet.Fallible

/-! Operations that can be taken back. What a state shows is all that counts of it:
an operation ends without having changed that, or leaves something by which it is
taken back from any state that shows the same. -/
namespace Crabnet.Reversal
open Fallible

section
variable {σ τ ε α β : Type} (view : σ → τ)

def TakesBack (x : Action σ ε Unit) (now before : τ) : Prop :=
  ∀ s, view s = now → Action.wp x (fun _ t => view t = before) (fun _ _ => False) s

-- Taken back one after another, from what a state shows now to what one showed before.
inductive Unwinds (undo : α → Action σ ε Unit) : List α → τ → τ → Prop
  | nil (shown) : Unwinds undo [] shown shown
  | cons {a rest now middle before} (first : TakesBack view (undo a) now middle) (later : Unwinds undo rest middle before) :
    Unwinds undo (a :: rest) now before

def Reversible (undo : α → Action σ ε Unit) (did : β → Option α) (x : Action σ ε β) : Prop :=
  ∀ s, Action.wp x (fun b t => match did b with
    | some a => TakesBack view (undo a) (view t) (view s)
    | none => view t = view s) (fun _ t => view t = view s) s

end

section
variable {σ τ ε α β : Type} {view : σ → τ} {undo : α → Action σ ε Unit}

theorem takesBack {x : Action σ ε Unit} {now before} (back : TakesBack view x now before) {s} (shown : view s = now) :
    ∃ t, x s = (.ok (), t) ∧ view t = before := by
  have ended := back s shown
  unfold Action.wp at ended
  split at ended
  · rename_i t ran
    exact ⟨t, ran, ended⟩
  · exact ended.elim

theorem reversed {did : β → Option α} {x : Action σ ε β} (reversible : Reversible view undo did x) {s b t}
    (ran : x s = (.ok b, t)) : match did b with
      | some a => TakesBack view (undo a) (view t) (view s)
      | none => view t = view s := by
  have ended := Action.wpOk (reversible s) ran
  exact ended

theorem traceless {did : β → Option α} {x : Action σ ε β} (reversible : Reversible view undo did x) {s e t}
    (ran : x s = (.error e, t)) : view t = view s := by
  have ended := Action.wpError (reversible s) ran
  exact ended

end
end Crabnet.Reversal
