import Mathlib.Data.Finset.Card
import Mathlib.Data.Finset.Lattice.Fold
import Mathlib.Order.Interval.Finset.Nat
import Mathlib.Order.Lattice.Nat

/-! Admission against a whole history, of which only a window below the highest
rank is remembered. An item is recent while no recorded rank is `width` or more
above it; what is recent and not recorded is acceptable. -/
namespace Crabnet.HistoryWindow

section
variable {α : Type} (rank : α → Nat) (width : Nat)

def highest (H : Finset α) : Nat := H.sup rank

def Recent (H : Finset α) (a : α) : Prop := H = ∅ ∨ highest rank H < rank a + width

instance (H : Finset α) (a : α) [DecidableEq α] : Decidable (Recent rank width H a) := by
  unfold Recent
  infer_instance

def Acceptable (H : Finset α) (a : α) : Prop := a ∉ H ∧ Recent rank width H a

def retained [DecidableEq α] (H : Finset α) : Finset α := H.filter (Recent rank width H)

variable {rank width}

theorem rankLeHighest {H : Finset α} {a : α} (member : a ∈ H) : rank a ≤ highest rank H :=
  Finset.le_sup member

theorem recentIff {H : Finset α} {a : α} (some_ : H.Nonempty) :
    Recent rank width H a ↔ highest rank H < rank a + width := by
  unfold Recent
  simp [some_.ne_empty]

theorem acceptableBefore {H H' : Finset α} {a : α} (grows : H ⊆ H')
    (ok : Acceptable rank width H' a) : Acceptable rank width H a := by
  refine ⟨fun member => ok.1 (grows member), ?_⟩
  by_cases empty : H = ∅
  · exact .inl empty
  · have some_ := Finset.nonempty_iff_ne_empty.mpr empty
    have near := (recentIff (some_.mono grows)).mp ok.2
    exact .inr (Nat.lt_of_le_of_lt (Finset.sup_mono grows) near)

variable [DecidableEq α]

theorem highestInsert (H : Finset α) (a : α) :
    highest rank (insert a H) = max (rank a) (highest rank H) := Finset.sup_insert

theorem recentInsert {H : Finset α} {a b : α} :
    Recent rank width (insert a H) b ↔ rank a < rank b + width ∧ Recent rank width H b := by
  rw [recentIff (Finset.insert_nonempty a H), highestInsert, max_lt_iff]
  by_cases empty : H = ∅
  · subst empty
    simp only [Recent, highest, Finset.sup_empty, true_or, and_true]
    constructor
    · exact fun both => both.1
    · exact fun near => ⟨near, Nat.lt_of_le_of_lt (Nat.zero_le _) near⟩
  · rw [recentIff (Finset.nonempty_iff_ne_empty.mpr empty)]

theorem retainedInsert {H : Finset α} {a : α} (ok : Acceptable rank width H a) (positive : 0 < width) :
    retained rank width (insert a H) =
      insert a ((retained rank width H).filter (fun b => rank a < rank b + width)) := by
  have self : Recent rank width (insert a H) a := recentInsert.mpr ⟨by omega, ok.2⟩
  rw [retained, Finset.filter_insert, if_pos self, retained, Finset.filter_filter]
  congr 1
  apply Finset.filter_congr
  intro b _
  rw [recentInsert]
  exact and_comm

theorem retainedCard (injective : Function.Injective rank) (H : Finset α) :
    (retained rank width H).card ≤ width := by
  have range : ∀ a ∈ retained rank width H,
      rank a ∈ Finset.Icc (highest rank H + 1 - width) (highest rank H) := by
    intro a member
    obtain ⟨recorded, recent⟩ := Finset.mem_filter.mp member
    have near := (recentIff ⟨a, recorded⟩).mp recent
    have below : rank a ≤ highest rank H := rankLeHighest recorded
    rw [Finset.mem_Icc]
    omega
  have count := Finset.card_le_card_of_injOn rank range injective.injOn
  rw [Nat.card_Icc] at count
  omega

end
end Crabnet.HistoryWindow
