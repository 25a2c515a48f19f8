import Crabnet.Fallible
import Crabnet.MachineWord
import Crabnet.HistoryWindow

/-! The replay window of an established session (data_plane/session.rs): the
highest accepted sequence and the accepted sequences still within its width.
It answers as the set of every sequence ever committed would. -/
namespace Crabnet.ReplayHistory
open MachineWord Fallible HistoryWindow

def maxSequence : UInt64 := 0xFFFFFFFFFFFFFFFE
def replayWindowWidth : UInt64 := 1024

inductive ReplayDecision where
  | acceptable | duplicate | tooOld
  deriving DecidableEq, Repr

inductive DataSessionError where
  | sendSequenceExhausted
  | replayWindowInvariant (sequence : UInt64)
  deriving DecidableEq, Repr

structure ReplayWindow where
  highestAccepted : Option UInt64
  received : Finset UInt64
  deriving DecidableEq

namespace ReplayWindow

def new : ReplayWindow := ⟨none, ∅⟩

def mayAttempt (w : ReplayWindow) (sequence : UInt64) : ReplayDecision :=
  if sequence ∈ w.received then .duplicate
  else match w.highestAccepted with
    | some highest =>
      if saturatingAdd sequence replayWindowWidth ≤ highest then .tooOld else .acceptable
    | none => .acceptable

def raised (w : ReplayWindow) (sequence : UInt64) : UInt64 :=
  match w.highestAccepted with
  | none => sequence
  | some highest => if sequence ≤ highest then highest else sequence

def commit (sequence : UInt64) : Action ReplayWindow DataSessionError Unit := fun w =>
  if w.mayAttempt sequence ≠ .acceptable then (.error (.replayWindowInvariant sequence), w)
  else
    let lowest := saturatingSub (w.raised sequence) (replayWindowWidth - 1)
    (.ok (), ⟨some (w.raised sequence), insert sequence (w.received.filter (lowest ≤ ·))⟩)

end ReplayWindow

abbrev rank : UInt64 → Nat := UInt64.toNat
abbrev width : Nat := 1024

def inRange (sequence : UInt64) : Prop := 1 ≤ sequence.toNat ∧ sequence.toNat ≤ 2 ^ 64 - 2

structure Tracks (w : ReplayWindow) (H : Finset UInt64) : Prop where
  kept : w.received = retained rank width H
  fresh : w.highestAccepted = none → H = ∅
  top : ∀ highest, w.highestAccepted = some highest → H.Nonempty ∧ HistoryWindow.highest rank H = highest.toNat
  bounded : ∀ s ∈ H, inRange s

theorem tracksNew : Tracks .new ∅ := by
  constructor <;> simp [ReplayWindow.new, retained]

theorem topBounded {w H highest} (tracks : Tracks w H) (top : w.highestAccepted = some highest) :
    highest.toNat ≤ 2 ^ 64 - 2 := by
  obtain ⟨_, sup⟩ := tracks.top highest top
  rw [← sup]
  exact Finset.sup_le fun s member => (tracks.bounded s member).2

theorem tooOldIff {s highest : UInt64} (bounded : highest.toNat ≤ 2 ^ 64 - 2) :
    saturatingAdd s replayWindowWidth ≤ highest ↔ ¬ highest.toNat < s.toNat + width := by
  have eval : replayWindowWidth.toNat = 1024 := rfl
  rw [UInt64.le_iff_toNat_le, saturatingAddNat, eval]
  simp only [u64Limit, width]
  omega

theorem mayAttemptIs {w : ReplayWindow} {H : Finset UInt64} (tracks : Tracks w H) (s : UInt64) :
    w.mayAttempt s =
      if Recent rank width H s then (if s ∈ H then .duplicate else .acceptable) else .tooOld := by
  have retained_ : s ∈ w.received ↔ s ∈ H ∧ Recent rank width H s := by
    rw [tracks.kept, retained, Finset.mem_filter]
  unfold ReplayWindow.mayAttempt
  cases top : w.highestAccepted with
  | none =>
    have empty := tracks.fresh top
    subst empty
    simp [retained_, Recent]
  | some highest =>
    obtain ⟨some_, sup⟩ := tracks.top highest top
    have old : saturatingAdd s replayWindowWidth ≤ highest ↔ ¬ Recent rank width H s := by
      rw [recentIff some_, sup]
      exact tooOldIff (topBounded tracks top)
    by_cases recent : Recent rank width H s <;> by_cases recorded : s ∈ H <;>
      simp [retained_, old, recent, recorded]

theorem acceptableIff {w : ReplayWindow} {H : Finset UInt64} (tracks : Tracks w H) {s : UInt64} :
    w.mayAttempt s = .acceptable ↔ Acceptable rank width H s := by
  rw [mayAttemptIs tracks, Acceptable]
  by_cases recent : Recent rank width H s <;> by_cases recorded : s ∈ H <;> simp [recent, recorded]

theorem duplicateIff {w : ReplayWindow} {H : Finset UInt64} (tracks : Tracks w H) {s : UInt64} :
    w.mayAttempt s = .duplicate ↔ s ∈ H ∧ HistoryWindow.highest rank H < s.toNat + width := by
  rw [mayAttemptIs tracks]
  by_cases recorded : s ∈ H
  · rw [← recentIff ⟨s, recorded⟩]
    by_cases recent : Recent rank width H s <;> simp [recent, recorded]
  · by_cases recent : Recent rank width H s <;> simp [recent, recorded]

theorem staleIff {w : ReplayWindow} {H : Finset UInt64} (tracks : Tracks w H) {s : UInt64} :
    w.mayAttempt s = .tooOld ↔ H ≠ ∅ ∧ s.toNat + width ≤ HistoryWindow.highest rank H := by
  have old : w.mayAttempt s = .tooOld ↔ ¬ Recent rank width H s := by
    rw [mayAttemptIs tracks]
    by_cases recent : Recent rank width H s <;> by_cases recorded : s ∈ H <;> simp [recent, recorded]
  rw [old, Recent, not_or, Nat.not_lt]

theorem raisedIs {w : ReplayWindow} {H : Finset UInt64} (tracks : Tracks w H) (s : UInt64) :
    (w.raised s).toNat = HistoryWindow.highest rank (insert s H) := by
  rw [highestInsert]
  unfold ReplayWindow.raised
  cases top : w.highestAccepted with
  | none =>
    have empty := tracks.fresh top
    subst empty
    simp [HistoryWindow.highest]
  | some highest =>
    obtain ⟨_, sup⟩ := tracks.top highest top
    rw [sup]
    simp only [UInt64.le_iff_toNat_le]
    split
    · exact (max_eq_right ‹_›).symm
    · exact (max_eq_left (Nat.le_of_not_le ‹_›)).symm

theorem commitTracks {w : ReplayWindow} {H : Finset UInt64} (tracks : Tracks w H) {s : UInt64} (ranged : inRange s)
    (ok : w.mayAttempt s = .acceptable) :
    (ReplayWindow.commit s w).1 = .ok () ∧ Tracks (ReplayWindow.commit s w).2 (insert s H) := by
  have accepted := (acceptableIff tracks).mp ok
  have top := raisedIs tracks s
  simp only [ReplayWindow.commit, ok, ne_eq, not_true_eq_false, if_false, true_and]
  constructor
  · change insert s (w.received.filter _) = _
    rw [retainedInsert accepted (by decide), tracks.kept]
    congr 1
    apply Finset.filter_congr
    intro b member
    obtain ⟨recorded, recent⟩ := Finset.mem_filter.mp member
    have near := (recentIff ⟨b, recorded⟩).mp recent
    have shift : (replayWindowWidth - 1).toNat = 1023 := rfl
    rw [highestInsert] at top
    rw [UInt64.le_iff_toNat_le, saturatingSubNat, shift, top]
    simp only [width, rank] at near ⊢
    omega
  · intro impossible
    contradiction
  · intro highest same
    cases Option.some.inj same
    exact ⟨Finset.insert_nonempty s H, top.symm⟩
  · intro b member
    rcases Finset.mem_insert.mp member with rfl | earlier
    · exact ranged
    · exact tracks.bounded b earlier

abbrev Sequence := {s : UInt64 // inRange s}

def attempt (w : ReplayWindow) (s : Sequence) : (Sequence × Except DataSessionError Unit) × ReplayWindow :=
  ((s, (ReplayWindow.commit s.1 w).1), (ReplayWindow.commit s.1 w).2)

def commits (past : List (Sequence × Except DataSessionError Unit)) : List UInt64 :=
  past.filterMap fun
    | (s, .ok ()) => some s.1
    | (_, .error _) => none

def committed (past : List (Sequence × Except DataSessionError Unit)) : Finset UInt64 :=
  (commits past).toFinset

structure Committed (past : List (Sequence × Except DataSessionError Unit)) (w : ReplayWindow) : Prop where
  tracks : Tracks w (committed past)
  once : (commits past).Nodup

theorem commitSucceeds (w : ReplayWindow) (s : UInt64) :
    (ReplayWindow.commit s w).1 = .ok () ↔ w.mayAttempt s = .acceptable := by
  unfold ReplayWindow.commit
  by_cases ok : w.mayAttempt s = .acceptable <;> simp [ok]

theorem commitRefused {w : ReplayWindow} {s : UInt64} (refused : w.mayAttempt s ≠ .acceptable) :
    ReplayWindow.commit s w = (.error (.replayWindowInvariant s), w) := by
  simp [ReplayWindow.commit, refused]

theorem attemptCommitted (past w) (s : Sequence) (history : Committed past w) :
    Committed (past ++ [(attempt w s).1]) (attempt w s).2 := by
  unfold attempt
  by_cases ok : w.mayAttempt s.1 = .acceptable
  · obtain ⟨succeeded, tracks⟩ := commitTracks history.tracks s.2 ok
    have fresh := ((acceptableIff history.tracks).mp ok).1
    have one : commits (past ++ [(s, (ReplayWindow.commit s.1 w).1)]) = commits past ++ [s.1] := by
      simp [commits, succeeded]
    have all : committed (past ++ [(s, (ReplayWindow.commit s.1 w).1)]) = insert s.1 (committed past) := by
      ext b
      simp [committed, one]
    refine ⟨all ▸ tracks, ?_⟩
    rw [one, List.nodup_append]
    refine ⟨history.once, List.nodup_singleton _, ?_⟩
    intro b earlier b' last same
    rw [List.mem_singleton.mp last] at same
    exact fresh (List.mem_toFinset.mpr (same ▸ earlier))
  · have refused := commitRefused ok
    have none_ : commits (past ++ [(s, (ReplayWindow.commit s.1 w).1)]) = commits past := by
      simp [commits, refused]
    refine ⟨?_, none_ ▸ history.once⟩
    rw [committed, none_, refused]
    exact history.tracks

theorem runCommitted {past w} (history : Committed past w) (calls : List Sequence) :
    Committed (past ++ (run attempt w calls).1) (run attempt w calls).2 :=
  runHistory attemptCommitted history calls

theorem historyGrows (past more : List (Sequence × Except DataSessionError Unit)) :
    committed past ⊆ committed (past ++ more) := by
  intro s member
  simp only [committed, commits, List.filterMap_append, List.mem_toFinset, List.mem_append] at member ⊢
  exact .inl member

theorem rejectedForever {past w} (history : Committed past w) {s : UInt64} (more : List Sequence)
    (rejected : w.mayAttempt s ≠ .acceptable) : (run attempt w more).2.mayAttempt s ≠ .acceptable := by
  intro accepted
  have later := runCommitted history more
  have ok := (acceptableIff later.tracks).mp accepted
  exact rejected ((acceptableIff history.tracks).mpr (acceptableBefore (historyGrows past _) ok))

theorem refinesFullHistory (calls : List Sequence) :
    let past := run attempt .new calls
    let H := committed past.1
    let top := HistoryWindow.highest UInt64.toNat H
    (∀ s : Sequence,
      (past.2.mayAttempt s.1 = .acceptable ↔ s.1 ∉ H ∧ (H = ∅ ∨ top < s.1.toNat + 1024)) ∧
      (past.2.mayAttempt s.1 = .duplicate ↔ s.1 ∈ H ∧ top < s.1.toNat + 1024) ∧
      (past.2.mayAttempt s.1 = .tooOld ↔ H ≠ ∅ ∧ s.1.toNat + 1024 ≤ top) ∧
      ((ReplayWindow.commit s.1 past.2).1 = .ok () ↔ past.2.mayAttempt s.1 = .acceptable) ∧
      (past.2.mayAttempt s.1 ≠ .acceptable →
        ∀ more, (run attempt past.2 more).2.mayAttempt s.1 ≠ .acceptable)) ∧
    (commits past.1).Nodup ∧
    past.2.received = H.filter (fun s => top < s.toNat + 1024) ∧
    past.2.received.card ≤ 1024 := by
  intro past H top
  have history : Committed past.1 past.2 := by
    have start : Committed [] .new := ⟨tracksNew, List.nodup_nil⟩
    exact runCommitted start calls
  have kept : past.2.received = retained rank width H := history.tracks.kept
  refine ⟨?_, history.once, ?_, ?_⟩
  · intro s
    refine ⟨acceptableIff history.tracks, duplicateIff history.tracks, staleIff history.tracks,
      commitSucceeds _ _, ?_⟩
    exact fun rejected more => rejectedForever history more rejected
  · rw [kept]
    apply Finset.filter_congr
    intro s member
    exact recentIff ⟨s, member⟩
  · rw [kept]
    exact retainedCard (fun _ _ same => UInt64.toNat_inj.mp same) H

end Crabnet.ReplayHistory
