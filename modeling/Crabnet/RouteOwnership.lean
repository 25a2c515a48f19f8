import Crabnet.Custody
import Crabnet.Routing

/-! What the route manager owns, over any backend and any sequence of calls: the
log of the backend's answers keeps a ledger, and the manager's list is what the
ledger still holds. -/
namespace Crabnet.RouteOwnership
open NetworkTypes Fallible Routing Custody

inductive BackendCall where
  | apply (operation : RouteOperation) (answer : Except Failure ApplyOutcome)
  | revert (operation : AppliedOperation) (answer : Except Failure Unit)

structure Logged (B : Type) where
  inner : B
  log : List BackendCall

instance {B : Type} [RouteBackend B] : RouteBackend (Logged B) where
  apply operation b :=
    let answer := RouteBackend.apply operation b.inner
    (answer.1, ⟨answer.2, b.log ++ [.apply operation answer.1]⟩)
  revert operation b :=
    let answer := RouteBackend.revert operation b.inner
    (answer.1, ⟨answer.2, b.log ++ [.revert operation answer.1]⟩)

inductive Call where
  | install (operations : List RouteOperation)
  | restore

structure CallRecord where
  call : Call
  result : Except Failure Unit
  calls : List BackendCall

section
variable {B : Type} [RouteBackend B] [AddressText]

def Call.perform : Call → RouteManager (Logged B) → Except Failure Unit × RouteManager (Logged B)
  | install operations => RouteManager.install operations
  | restore => RouteManager.restore

def observe (m : RouteManager (Logged B)) (call : Call) : CallRecord × RouteManager (Logged B) :=
  let answer := call.perform {m with backend := {m.backend with log := []}}
  (⟨call, answer.1, answer.2.backend.log⟩, answer.2)

end

def acquiredBy : BackendCall → Option AppliedOperation
  | .apply _ (.ok (.applied operation)) => some operation
  | _ => none

def revertOutcome : BackendCall → Option Bool
  | .revert _ answer => some answer.isOk
  | _ => none

def enter (l : Ledger AppliedOperation) (r : CallRecord) : Ledger AppliedOperation :=
  (l.acquire (r.calls.filterMap acquiredBy)).settle (r.calls.filterMap revertOutcome)

def ledger (past : List CallRecord) : Ledger AppliedOperation := past.foldl enter .empty

theorem ledgerSnoc (past : List CallRecord) (r : CallRecord) : ledger (past ++ [r]) = enter (ledger past) r := by
  simp [ledger, List.foldl_append]

abbrev Attempt := AppliedOperation × Except Failure Unit

def reverting (attempts : List Attempt) : List BackendCall := attempts.map fun a => .revert a.1 a.2
def applying (answers : List (RouteOperation × ApplyOutcome)) : List BackendCall :=
  answers.map fun a => .apply a.1 (.ok a.2)

def ownedBy (answers : List (RouteOperation × ApplyOutcome)) : List AppliedOperation :=
  (applying answers).filterMap acquiredBy

def Granted (attempts : List Attempt) : Prop := ∀ attempt ∈ attempts, attempt.2 = .ok ()

def refused (attempts : List Attempt) : List AppliedOperation := (attempts.filter fun a => !a.2.isOk).map Prod.fst

inductive Conduct (owned : List AppliedOperation) : CallRecord → List AppliedOperation → Prop
  | restored (attempts : List Attempt) (result) (order : attempts.map Prod.fst = owned.reverse)
      (complete : result = .ok () ↔ Granted attempts) :
      Conduct owned ⟨.restore, result, reverting attempts⟩ (refused attempts).reverse
  | refused (operations) (busy : owned ≠ []) :
      Conduct owned ⟨.install operations, .error (.of "routing state is already installed"), []⟩ owned
  | installed (answers) (free : owned = []) :
      Conduct owned ⟨.install (answers.map Prod.fst), .ok (), applying answers⟩ (ownedBy answers)
  | rolledBack (answers) (failing : RouteOperation) (later) (installError returned : Failure) (attempts : List Attempt)
      (free : owned = []) (order : attempts.map Prod.fst = (ownedBy answers).reverse)
      (answer : returned = installError ∧ Granted attempts ∨
        ∃ rollbackError : Failure, ¬ Granted attempts ∧ returned =
          installError.context ("route installation rollback also failed: " ++ rollbackError.display)) :
      Conduct owned ⟨.install (answers.map Prod.fst ++ failing :: later), .error returned,
        applying answers ++ .apply failing (.error installError) :: reverting attempts⟩ (refused attempts).reverse

theorem refusedNone {attempts : List Attempt} : refused attempts = [] ↔ Granted attempts := by
  simp only [refused, List.map_eq_nil_iff, List.filter_eq_nil_iff, Granted]
  refine forall_congr' fun attempt => forall_congr' fun _ => ?_
  obtain ⟨operation, answer⟩ := attempt
  cases answer with
  | error e => simp [Except.isOk, Except.toBool]
  | ok u => simp [Except.isOk, Except.toBool]

theorem applyingSettles (answers : List (RouteOperation × ApplyOutcome)) : (applying answers).filterMap revertOutcome = [] := by
  simp [applying, revertOutcome]

theorem revertingAcquires (attempts : List Attempt) : (reverting attempts).filterMap acquiredBy = [] := by
  simp [reverting, acquiredBy]

theorem revertingSettles (attempts : List Attempt) :
    (reverting attempts).filterMap revertOutcome = attempts.map fun a => a.2.isOk := by
  simp [reverting, revertOutcome, Function.comp_def]

-- What a pass leaves to the manager is what it leaves in the ledger.
theorem settleRefused {l : Ledger AppliedOperation} {attempts : List Attempt}
    (order : attempts.map Prod.fst = l.items.reverse) :
    (attempts.map fun a => a.2.isOk).length = l.held.length ∧
      (l.settle (attempts.map fun a => a.2.isOk)).items = (refused attempts).reverse := by
  have size : (attempts.map fun a => a.2.isOk).length = l.held.length := by
    have lengths := congrArg List.length order
    simpa [Ledger.items] using lengths
  refine ⟨size, ?_⟩
  have pairs : ∀ (held : List (AppliedOperation × Nat)) (attempts : List Attempt),
      attempts.map Prod.fst = held.map Prod.fst →
        (((held.zip (attempts.map fun a => a.2.isOk)).filter fun p => !p.2).map Prod.fst).map Prod.fst = refused attempts := by
    intro held attempts same
    induction held generalizing attempts with
    | nil =>
      have none : attempts = [] := by simpa using same
      simp [none, refused]
    | cons e rest ih =>
      obtain _ | ⟨attempt, later⟩ := attempts
      · simp at same
      · simp only [List.map_cons, List.cons.injEq] at same
        have tail := ih later same.2
        simp only [refused] at tail ⊢
        cases granted : attempt.2.isOk with
        | true => simpa [granted] using tail
        | false => simpa [granted, same.1] using tail
  have kept := congrArg (List.map Prod.fst) (l.settleHeld _ size)
  rw [pairs l.held.reverse attempts (by rw [order, Ledger.items, List.map_reverse])] at kept
  rw [← kept, Ledger.items, List.map_reverse, List.reverse_reverse]

section
variable {B : Type} [RouteBackend B] [AddressText]

structure Reverts (operations : List AppliedOperation) (b : Logged B)
    (outcome : (List String × List AppliedOperation) × Logged B) (attempts : List Attempt) : Prop where
  order : attempts.map Prod.fst = operations
  log : outcome.2.log = b.log ++ reverting attempts
  failed : outcome.1.2 = refused attempts
  errors : outcome.1.1 = [] ↔ Granted attempts

theorem revertAllReverts (operations : List AppliedOperation) (b : Logged B) :
    ∃ attempts, Reverts operations b (RouteManager.revertAll operations b) attempts := by
  induction operations generalizing b with
  | nil => exact ⟨[], rfl, by simp [RouteManager.revertAll, reverting], rfl, by simp [RouteManager.revertAll, Granted]⟩
  | cons operation rest ih =>
    obtain ⟨tail, order, log, failed, errors⟩ := ih (RouteBackend.revert operation b).2
    refine ⟨(operation, (RouteBackend.revert operation b).1) :: tail, ?_⟩
    have logged : (RouteBackend.revert operation b).2.log =
        b.log ++ [.revert operation (RouteBackend.revert operation b).1] := rfl
    rw [logged] at log
    unfold RouteManager.revertAll
    generalize RouteBackend.revert operation b = answer at *
    obtain ⟨result, after⟩ := answer
    cases result with
    | ok u =>
      refine ⟨by simp [order], by simp [log, reverting], ?_, ?_⟩
      · simpa [refused, Except.isOk, Except.toBool] using failed
      · simpa [Granted] using errors
    | error e =>
      refine ⟨by simp [order], by simp [log, reverting], ?_, ?_⟩
      · simpa [refused, Except.isOk, Except.toBool] using failed
      · simp [Granted]

structure Restores (m : RouteManager (Logged B)) (answer : Except Failure Unit × RouteManager (Logged B))
    (attempts : List Attempt) : Prop where
  order : attempts.map Prod.fst = m.applied.reverse
  log : answer.2.backend.log = m.backend.log ++ reverting attempts
  kept : answer.2.applied = (refused attempts).reverse
  complete : answer.1 = .ok () ↔ Granted attempts

theorem restoreRestores (m : RouteManager (Logged B)) : ∃ attempts, Restores m m.restore attempts := by
  obtain ⟨attempts, order, log, failed, errors⟩ := revertAllReverts m.applied.reverse m.backend
  refine ⟨attempts, order, log, ?_, ?_⟩
  · simp only [RouteManager.restore, failed]
  · rw [← errors]
    by_cases none : (RouteManager.revertAll m.applied.reverse m.backend).1.1 = []
    · simp [RouteManager.restore, none]
    · simp [RouteManager.restore, none]

inductive Installs (m : RouteManager (Logged B)) :
    List RouteOperation → Except Failure Unit × RouteManager (Logged B) → Prop
  | installed (answers t) (log : t.backend.log = m.backend.log ++ applying answers)
      (applied : t.applied = m.applied ++ ownedBy answers) : Installs m (answers.map Prod.fst) (.ok (), t)
  | rolledBack (answers) (failing : RouteOperation) (later) (installError returned : Failure) (attempts : List Attempt) (t)
      (log : t.backend.log =
        m.backend.log ++ (applying answers ++ .apply failing (.error installError) :: reverting attempts))
      (order : attempts.map Prod.fst = (m.applied ++ ownedBy answers).reverse)
      (kept : t.applied = (refused attempts).reverse)
      (answer : returned = installError ∧ Granted attempts ∨
        ∃ rollbackError : Failure, ¬ Granted attempts ∧ returned =
          installError.context ("route installation rollback also failed: " ++ rollbackError.display)) :
      Installs m (answers.map Prod.fst ++ failing :: later) (.error returned, t)

omit [RouteBackend B] [AddressText] in
theorem installsCons {m : RouteManager (Logged B)} {backend : Logged B} {operation outcome rest answer}
    {applied : List AppliedOperation}
    (logged : backend.log = m.backend.log ++ [.apply operation (.ok outcome)])
    (owned : applied = m.applied ++ ownedBy [(operation, outcome)])
    (tail : Installs ⟨backend, applied⟩ rest answer) : Installs m (operation :: rest) answer := by
  have front : ∀ answers, applied ++ ownedBy answers = m.applied ++ ownedBy ((operation, outcome) :: answers) := by
    intro answers
    rw [owned, List.append_assoc]
    simp only [ownedBy, applying, List.map_cons, List.map_nil, ← List.filterMap_append, List.singleton_append]
  cases tail with
  | installed answers t log kept =>
    refine .installed ((operation, outcome) :: answers) t ?_ (by rw [kept, front])
    rw [log, logged]
    simp [applying]
  | rolledBack answers failing later installError returned attempts t log order kept answer =>
    refine .rolledBack ((operation, outcome) :: answers) failing later installError returned attempts t ?_ ?_ kept answer
    · rw [log, logged]
      simp [applying]
    · rw [order, front]

theorem applyAllInstalls (operations : List RouteOperation) (m : RouteManager (Logged B)) :
    Installs m operations (RouteManager.applyAll operations m) := by
  induction operations generalizing m with
  | nil => exact .installed [] m (by simp [applying]) (by simp [ownedBy, applying])
  | cons operation rest ih =>
    have logged : (RouteBackend.apply operation m.backend).2.log =
        m.backend.log ++ [.apply operation (RouteBackend.apply operation m.backend).1] := rfl
    unfold RouteManager.applyAll
    generalize RouteBackend.apply operation m.backend = answer at logged ⊢
    obtain ⟨result, backend⟩ := answer
    cases result with
    | ok outcome =>
      cases outcome with
      | applied applied => exact installsCons logged rfl (ih _)
      | unchanged => exact installsCons logged (by simp [ownedBy, applying, acquiredBy]) (ih _)
    | error installError =>
      obtain ⟨attempts, order, log, kept, complete⟩ := restoreRestores (⟨backend, m.applied⟩ : RouteManager (Logged B))
      simp only [RouteManager.rollback]
      generalize RouteManager.restore (⟨backend, m.applied⟩ : RouteManager (Logged B)) = answer at log kept complete ⊢
      obtain ⟨result, t⟩ := answer
      have written : t.backend.log = m.backend.log ++
          (applying [] ++ .apply operation (.error installError) :: reverting attempts) := by
        rw [log, logged]
        simp [applying]
      have stack : attempts.map Prod.fst = (m.applied ++ ownedBy []).reverse := by
        simpa [ownedBy, applying] using order
      cases result with
      | ok u => exact .rolledBack [] operation rest installError _ attempts t written stack kept (.inl ⟨rfl, complete.mp rfl⟩)
      | error e =>
        refine .rolledBack [] operation rest installError _ attempts t written stack kept (.inr ⟨e, ?_, rfl⟩)
        intro granted
        exact absurd (complete.mpr granted) (by simp)

structure Accounts (past : List CallRecord) (m : RouteManager (Logged B)) : Prop where
  valid : (ledger past).Valid
  applied : m.applied = (ledger past).items

def Clean (m : RouteManager (Logged B)) : RouteManager (Logged B) := {m with backend := {m.backend with log := []}}

theorem observeConduct (m : RouteManager (Logged B)) (call : Call) :
    Conduct m.applied (observe m call).1 (observe m call).2.applied := by
  cases call with
  | restore =>
    obtain ⟨attempts, order, log, kept, complete⟩ := restoreRestores (Clean m)
    have logged : (observe m .restore).1.calls = reverting attempts := log
    have rest : (observe m .restore).2.applied = (refused attempts).reverse := kept
    have conduct := @Conduct.restored m.applied attempts (observe m .restore).1.result order complete
    rwa [← logged, ← rest] at conduct
  | install operations =>
    by_cases free : m.applied = []
    · have installs := applyAllInstalls operations (Clean m)
      have ran : observe m (.install operations) = (⟨.install operations, (RouteManager.applyAll operations (Clean m)).1,
          (RouteManager.applyAll operations (Clean m)).2.backend.log⟩, (RouteManager.applyAll operations (Clean m)).2) := by
        simp only [observe, Call.perform, RouteManager.install, if_pos free, Clean]
      have nothing : (Clean m).applied = [] := free
      rw [ran]
      generalize RouteManager.applyAll operations (Clean m) = answer at installs ⊢
      cases installs with
      | installed answers t log applied =>
        rw [log, applied, nothing]
        exact .installed answers free
      | rolledBack answers failing later installError returned attempts t log order kept answer =>
        rw [log, kept]
        rw [nothing, List.nil_append] at order
        exact .rolledBack answers failing later installError returned attempts free order answer
    · have ran : observe m (.install operations) =
          (⟨.install operations, .error (.of "routing state is already installed"), []⟩, Clean m) := by
        simp only [observe, Call.perform, RouteManager.install, if_neg free, Clean]
      rw [ran]
      exact .refused operations free

end

theorem conductAccounts {past : List CallRecord} {r : CallRecord} {next : List AppliedOperation} (valid : (ledger past).Valid)
    (conduct : Conduct (ledger past).items r next) :
    (ledger (past ++ [r])).Valid ∧ next = (ledger (past ++ [r])).items := by
  rw [ledgerSnoc]
  generalize ledger past = l at valid conduct ⊢
  cases conduct with
  | restored attempts result order complete =>
    obtain ⟨size, kept⟩ := settleRefused order
    simp only [enter, revertingAcquires, Ledger.acquireNothing, revertingSettles]
    exact ⟨l.settleValid valid _ size, kept.symm⟩
  | refused operations busy => simpa [enter] using valid
  | installed answers free =>
    simp only [enter, applyingSettles, Ledger.settleNothing]
    refine ⟨l.acquireValid valid _, ?_⟩
    rw [l.acquireItems valid, free, List.nil_append]
    rfl
  | rolledBack answers failing later installError returned attempts free order answer =>
    have acquires : (applying answers ++ .apply failing (.error installError) :: reverting attempts).filterMap acquiredBy
        = ownedBy answers := by
      simp only [List.filterMap_append, List.filterMap_cons, acquiredBy, revertingAcquires, List.append_nil, ownedBy]
    have settles : (applying answers ++ .apply failing (.error installError) :: reverting attempts).filterMap revertOutcome
        = attempts.map fun a => a.2.isOk := by
      simp only [List.filterMap_append, List.filterMap_cons, revertOutcome, revertingSettles, applyingSettles, List.nil_append]
    have items : (l.acquire (ownedBy answers)).items = ownedBy answers := by
      rw [l.acquireItems valid, free, List.nil_append]
    obtain ⟨size, kept⟩ := @settleRefused (l.acquire (ownedBy answers)) attempts (by rw [order, items])
    simp only [enter, acquires, settles]
    exact ⟨Ledger.settleValid (l.acquireValid valid _) _ size, kept.symm⟩

theorem observeAccounts {B : Type} [RouteBackend B] [AddressText] (past : List CallRecord) (m : RouteManager (Logged B))
    (call : Call) (inv : Accounts past m) : Accounts (past ++ [(observe m call).1]) (observe m call).2 := by
  have conduct := observeConduct m call
  rw [inv.applied] at conduct
  obtain ⟨valid, applied⟩ := conductAccounts inv.valid conduct
  exact ⟨valid, applied⟩

theorem ownershipConservation {B : Type} [RouteBackend B] [AddressText] (backend : B) (calls : List Call) :
    let past := run observe (RouteManager.new (⟨backend, []⟩ : Logged B)) calls
    let owned := ledger past.1
    past.2.applied = owned.items ∧ owned.released.Nodup ∧
      List.Perm (owned.held.map Prod.snd ++ owned.released) (List.range owned.acquired.length) ∧
      ∀ call, let next := observe past.2 call
        Conduct past.2.applied next.1 next.2.applied ∧
          (call = .restore → (next.1.result = .ok () ↔ next.2.applied = [])) := by
  intro past owned
  have accounts : Accounts past.1 past.2 := by
    have start : Accounts [] (RouteManager.new (⟨backend, []⟩ : Logged B)) := ⟨Ledger.validEmpty, rfl⟩
    have reached := runHistory observeAccounts start calls
    rwa [List.nil_append] at reached
  refine ⟨accounts.applied, accounts.valid.once, Ledger.conserved accounts.valid, ?_⟩
  intro call next
  have conduct := observeConduct past.2 call
  refine ⟨conduct, ?_⟩
  rintro rfl
  have called : next.1.call = .restore := rfl
  change Conduct past.2.applied next.1 next.2.applied at conduct
  generalize next.1 = record at conduct called ⊢
  generalize next.2.applied = rest at conduct ⊢
  cases conduct with
  | restored attempts result order complete =>
    rw [List.reverse_eq_nil_iff, refusedNone]
    exact complete
  | refused | installed | rolledBack => cases called

end Crabnet.RouteOwnership
