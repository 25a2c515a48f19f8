import Mathlib.Data.List.Basic
import Mathlib.Data.List.Nodup
import Mathlib.Data.List.Perm.Basic

/-! Things acquired one after another and released in passes. An acquisition is
numbered by its place; a pass asks for everything still held, last acquired
first, and a request may be refused, in which case the thing stays held. -/
namespace Crabnet.Custody

structure Ledger (α : Type) where
  acquired : List α
  released : List Nat

namespace Ledger
variable {α : Type}

def empty : Ledger α := ⟨[], []⟩

def held (l : Ledger α) : List (α × Nat) := l.acquired.zipIdx.filter fun e => !l.released.contains e.2

def items (l : Ledger α) : List α := l.held.map Prod.fst

def acquire (l : Ledger α) (items : List α) : Ledger α := {l with acquired := l.acquired ++ items}

def settle (l : Ledger α) (outcomes : List Bool) : Ledger α :=
  {l with released := l.released ++ ((l.held.reverse.zip outcomes).filter Prod.snd).map fun p => p.1.2}

structure Valid (l : Ledger α) : Prop where
  known : ∀ n ∈ l.released, n < l.acquired.length
  once : l.released.Nodup

theorem validEmpty : Valid (empty : Ledger α) := ⟨by simp [empty], List.nodup_nil⟩

theorem numbersNodup (l : Ledger α) : (l.held.map Prod.snd).Nodup := by
  have numbers : (l.acquired.zipIdx.map Prod.snd).Nodup := by
    rw [List.zipIdx_map_snd]
    exact List.nodup_range'
  exact numbers.sublist (List.filter_sublist.map _)

theorem heldNumber {l : Ledger α} {e} (member : e ∈ l.held) : e.2 < l.acquired.length ∧ e.2 ∉ l.released := by
  simp only [held, List.mem_filter, Bool.not_eq_true', List.contains_eq_mem, decide_eq_false_iff_not] at member
  have place := List.snd_lt_of_mem_zipIdx member.1
  exact ⟨by simpa using place, member.2⟩

@[simp] theorem settleNothing (l : Ledger α) : l.settle [] = l := by simp [settle]

@[simp] theorem acquireNothing (l : Ledger α) : l.acquire [] = l := by simp [acquire]

theorem acquireItems {l : Ledger α} (valid : Valid l) (items : List α) : (l.acquire items).items = l.items ++ items := by
  have fresh : (items.zipIdx l.acquired.length).filter (fun e => !l.released.contains e.2)
      = items.zipIdx l.acquired.length := by
    refine List.filter_eq_self.mpr ?_
    intro e member
    have above := List.le_snd_of_mem_zipIdx member
    simp only [Bool.not_eq_true', List.contains_eq_mem, decide_eq_false_iff_not]
    intro gone
    exact absurd (valid.known _ gone) (Nat.not_lt.mpr above)
  simp only [Ledger.items, held, acquire, List.zipIdx_append, List.filter_append, Nat.zero_add, List.map_append]
  rw [fresh, List.zipIdx_map_fst]

theorem acquireValid {l : Ledger α} (valid : Valid l) (items : List α) : Valid (l.acquire items) := by
  refine ⟨?_, valid.once⟩
  intro n gone
  simp only [acquire, List.length_append]
  exact Nat.lt_add_right _ (valid.known n gone)

theorem refusedByKey {β : Type} {key : β → Nat} {things : List β} (distinct : (things.map key).Nodup) (outcomes : List Bool)
    (all : outcomes.length = things.length) :
    things.filter (fun b => !(((things.zip outcomes).filter Prod.snd).map fun p => key p.1).contains (key b))
      = ((things.zip outcomes).filter fun p => !p.2).map Prod.fst := by
  induction things generalizing outcomes with
  | nil => simp
  | cons b rest ih =>
    obtain _ | ⟨granted, later⟩ := outcomes
    · simp at all
    · simp only [List.map_cons, List.nodup_cons] at distinct
      obtain ⟨apart, distinct⟩ := distinct
      simp only [List.length_cons, Nat.add_right_cancel_iff] at all
      have tail := ih distinct later all
      -- The first thing's key is no later thing's, so it neither hides one nor is hidden.
      have unseen : key b ∉ ((rest.zip later).filter Prod.snd).map fun p => key p.1 := by
        intro seen
        obtain ⟨p, member, same⟩ := List.mem_map.mp seen
        have inside := (List.of_mem_zip (List.mem_filter.mp member).1).1
        exact apart (List.mem_map.mpr ⟨p.1, inside, same⟩)
      simp only [List.contains_eq_mem] at tail ⊢
      cases granted with
      | false =>
        simp only [List.zip_cons_cons, List.filter_cons, unseen, decide_false, Bool.not_false, if_true, List.map_cons,
          Bool.false_eq_true, if_false]
        rw [tail]
      | true =>
        have others : rest.filter (fun c => !decide (key c ∈ key b :: ((rest.zip later).filter Prod.snd).map fun p => key p.1))
            = rest.filter (fun c => !decide (key c ∈ ((rest.zip later).filter Prod.snd).map fun p => key p.1)) := by
          refine List.filter_congr ?_
          intro c member
          have differs : key c ≠ key b := by
            intro same
            exact apart (List.mem_map.mpr ⟨c, member, same⟩)
          simp [differs]
        simp only [List.zip_cons_cons, List.filter_cons, if_true, List.map_cons, List.mem_cons_self, decide_true,
          Bool.not_true, Bool.false_eq_true, if_false]
        rw [others, tail]

theorem settleHeld (l : Ledger α) (outcomes : List Bool) (all : outcomes.length = l.held.length) :
    (l.settle outcomes).held.reverse = ((l.held.reverse.zip outcomes).filter fun p => !p.2).map Prod.fst := by
  have distinct : (l.held.reverse.map Prod.snd).Nodup := by
    rw [List.map_reverse, List.nodup_reverse]
    exact l.numbersNodup
  have kept := refusedByKey distinct outcomes (by rw [all, List.length_reverse])
  rw [← kept, List.filter_reverse]
  congr 1
  change l.acquired.zipIdx.filter (fun e => !(l.settle outcomes).released.contains e.2) = _
  rw [held, List.filter_filter]
  refine List.filter_congr ?_
  intro e _
  simp only [settle, List.contains_append, Bool.not_or]
  exact Bool.and_comm _ _

theorem settleValid {l : Ledger α} (valid : Valid l) (outcomes : List Bool) (all : outcomes.length = l.held.length) :
    Valid (l.settle outcomes) := by
  have taken : ∀ n ∈ ((l.held.reverse.zip outcomes).filter Prod.snd).map (fun p => p.1.2), ∃ e ∈ l.held, e.2 = n := by
    intro n member
    obtain ⟨p, inside, same⟩ := List.mem_map.mp member
    have origin := (List.of_mem_zip (List.mem_filter.mp inside).1).1
    exact ⟨p.1, List.mem_reverse.mp origin, same⟩
  constructor
  · intro n member
    rcases List.mem_append.mp member with old | new
    · exact valid.known n old
    · obtain ⟨e, inside, rfl⟩ := taken n new
      exact (heldNumber inside).1
  · refine List.nodup_append.mpr ⟨valid.once, ?_, ?_⟩
    · have sub : List.Sublist (((l.held.reverse.zip outcomes).filter Prod.snd).map fun p => p.1.2)
          (l.held.reverse.map Prod.snd) := by
        have whole : (l.held.reverse.zip outcomes).map Prod.fst = l.held.reverse := by
          have same : l.held.reverse.length = outcomes.length := by rw [all, List.length_reverse]
          exact List.map_fst_zip (Nat.le_of_eq same)
        have first : List.Sublist (((l.held.reverse.zip outcomes).filter Prod.snd).map Prod.fst) l.held.reverse := by
          nth_rewrite 2 [← whole]
          exact List.filter_sublist.map _
        have second := first.map Prod.snd
        rwa [List.map_map] at second
      refine List.Nodup.sublist sub ?_
      rw [List.map_reverse, List.nodup_reverse]
      exact l.numbersNodup
    · intro a old b new same
      obtain ⟨e, inside, rfl⟩ := taken b new
      exact (heldNumber inside).2 (same ▸ old)

theorem conserved {l : Ledger α} (valid : Valid l) :
    List.Perm (l.held.map Prod.snd ++ l.released) (List.range l.acquired.length) := by
  refine (List.perm_ext_iff_of_nodup ?_ List.nodup_range).mpr ?_
  · refine List.nodup_append.mpr ⟨l.numbersNodup, valid.once, ?_⟩
    intro a kept b gone same
    obtain ⟨e, inside, rfl⟩ := List.mem_map.mp kept
    exact (heldNumber inside).2 (same ▸ gone)
  · intro n
    simp only [List.mem_append, List.mem_range]
    constructor
    · rintro (kept | gone)
      · obtain ⟨e, inside, rfl⟩ := List.mem_map.mp kept
        exact (heldNumber inside).1
      · exact valid.known n gone
    · intro place
      by_cases gone : n ∈ l.released
      · exact .inr gone
      · refine .inl (List.mem_map.mpr ⟨(l.acquired[n], n), ?_, rfl⟩)
        simp only [held, List.mem_filter, Bool.not_eq_true', List.contains_eq_mem, decide_eq_false_iff_not]
        exact ⟨List.mk_mem_zipIdx_iff_getElem?.mpr (List.getElem?_eq_getElem place), gone⟩

end Ledger
end Crabnet.Custody
