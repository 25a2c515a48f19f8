import Crabnet.Reversal
import Crabnet.ServerNat

/-! The two managers over a backend whose operations can be taken back: an
installation that fails leaves no trace, and one that succeeds is taken back by
`restore`. -/
namespace Crabnet.ManagerReversal
open NetworkTypes Fallible Routing ServerNat Reversal

section Routes
variable {B τ : Type} [RouteBackend B] [AddressText] {view : B → τ}

def outcomeApplied : ApplyOutcome → Option AppliedOperation
  | .applied operation => some operation
  | .unchanged => none

abbrev OperationReverses (view : B → τ) (operation : RouteOperation) : Prop :=
  Reversible view RouteBackend.revert outcomeApplied (RouteBackend.apply operation)

abbrev Recorded (view : B → τ) (m : RouteManager B) (origin : τ) : Prop :=
  Unwinds view RouteBackend.revert m.applied.reverse (view m.backend) origin

theorem revertsAll {operations : List AppliedOperation} {now origin}
    (unwinds : Unwinds view RouteBackend.revert operations now origin) {b : B} (shown : view b = now) :
    ∃ t, RouteManager.revertAll operations b = (([], []), t) ∧ view t = origin := by
  induction unwinds generalizing b with
  | nil now => exact ⟨b, rfl, shown⟩
  | cons first later ih =>
    obtain ⟨middle, ran, back⟩ := takesBack first shown
    obtain ⟨t, rest, origin⟩ := ih back
    refine ⟨t, ?_, origin⟩
    rw [RouteManager.revertAll, ran]
    exact rest

theorem restores {m : RouteManager B} {origin} (recorded : Recorded view m origin) :
    ∃ t, m.restore = (.ok (), t) ∧ view t.backend = origin := by
  obtain ⟨t, ran, back⟩ := revertsAll recorded rfl
  exact ⟨⟨t, []⟩, by simp [RouteManager.restore, ran], back⟩

def Ended (view : B → τ) (origin : τ) (outcome : Except Failure Unit × RouteManager B) : Prop :=
  match outcome with
  | (.ok (), m) => Recorded view m origin
  | (.error _, m) => view m.backend = origin

theorem appliesAll {operations : List RouteOperation} (reverses : ∀ operation ∈ operations, OperationReverses view operation)
    {m : RouteManager B} {origin} (recorded : Recorded view m origin) :
    Ended view origin (RouteManager.applyAll operations m) := by
  induction operations generalizing m with
  | nil => exact recorded
  | cons operation rest ih =>
    have first := reverses operation List.mem_cons_self
    have later := fun operation member => reverses operation (List.mem_cons_of_mem _ member)
    rw [RouteManager.applyAll]
    rcases ran : RouteBackend.apply operation m.backend with ⟨installError | outcome, backend⟩
    · have kept := traceless first ran
      have still : Recorded view {m with backend := backend} origin := by
        simpa only [Recorded, kept] using recorded
      obtain ⟨t, restored, back⟩ := restores still
      simp only [RouteManager.rollback, restored]
      exact back
    · have kept := reversed first ran
      cases outcome with
      | applied operation =>
        refine ih later ?_
        simp only [Recorded, List.reverse_append, List.reverse_cons, List.reverse_nil, List.nil_append, List.singleton_append]
        exact .cons kept recorded
      | unchanged =>
        refine ih later ?_
        change view backend = view m.backend at kept
        simpa only [Recorded, kept] using recorded

theorem installs {operations : List RouteOperation} (reverses : ∀ operation ∈ operations, OperationReverses view operation)
    (b : B) : Ended view (view b) (RouteManager.install operations (.new b)) := by
  rw [RouteManager.install, if_pos (show (RouteManager.new b).applied = [] from rfl)]
  exact appliesAll reverses (.nil _)

end Routes

section Nat
variable {B τ : Type} [NatBackend B] {view : B → τ}

abbrev NatReverses (view : B → τ) (spec : NatSpec) : Prop :=
  Reversible view NatBackend.revert some (NatBackend.apply spec)

def Kept (view : B → τ) (applied : Option AppliedNat) (now origin : τ) : Prop :=
  match applied with
  | none => now = origin
  | some applied => TakesBack view (NatBackend.revert applied) now origin

theorem natRestores {m : NatManager B} {origin} (kept : Kept view m.applied (view m.backend) origin) :
    ∃ t, m.restore = (.ok (), t) ∧ view t.backend = origin := by
  unfold NatManager.restore
  cases held : m.applied with
  | none =>
    rw [held] at kept
    exact ⟨m, rfl, kept⟩
  | some applied =>
    rw [held] at kept
    obtain ⟨t, ran, back⟩ := takesBack kept rfl
    exact ⟨⟨t, none⟩, by simp only [ran], back⟩

theorem natInstalls {spec : NatSpec} (reverses : NatReverses view spec) (b : B) :
    match NatManager.install spec (.new b) with
    | (.ok (), m) => Kept view m.applied (view m.backend) (view b)
    | (.error _, m) => view m.backend = view b := by
  simp only [NatManager.install, NatManager.new, Option.isSome_none, Bool.false_eq_true, if_false]
  rcases ran : NatBackend.apply spec b with ⟨e | applied, backend⟩
  · exact traceless reverses ran
  · exact reversed reverses ran

end Nat
end Crabnet.ManagerReversal
