import Mathlib.Data.List.AList
import Mathlib.Data.List.Perm.Basic

/-! A hash map as its users see it: lookups, insertion and removal on unique
keys, and an iteration order that nothing is known of beyond being a
permutation of the entries. The order is carried by the map, as a hasher is. -/
namespace Crabnet.HashTable

abbrev Entry (K V : Type) := Sigma fun _ : K => V

structure HashMap (K V : Type) where
  table : AList fun _ : K => V
  order : List (Entry K V) → List (Entry K V)
  orderPerm : ∀ entries, (order entries).Perm entries

structure Hasher (K V : Type) where
  order : List (Entry K V) → List (Entry K V)
  orderPerm : ∀ entries, (order entries).Perm entries

def Hasher.listing (K V : Type) : Hasher K V := ⟨id, fun _ => .refl _⟩

namespace HashMap
variable {K V : Type}

def new (hasher : Hasher K V) : HashMap K V := ⟨∅, hasher.order, hasher.orderPerm⟩

def len (m : HashMap K V) : Nat := m.table.entries.length
def isEmpty (m : HashMap K V) : Bool := m.len == 0
def iter (m : HashMap K V) : List (Entry K V) := m.order m.table.entries
def clear (m : HashMap K V) : HashMap K V := {m with table := ∅}

@[simp] theorem lenNew (hasher : Hasher K V) : (new hasher).len = 0 := rfl
@[simp] theorem lenClear (m : HashMap K V) : m.clear.len = 0 := rfl

theorem iterKeysNodup (m : HashMap K V) : (m.iter.map Sigma.fst).Nodup :=
  ((m.orderPerm m.table.entries).map Sigma.fst).nodup_iff.mpr m.table.nodupKeys

theorem iterLength (m : HashMap K V) : m.iter.length = m.len :=
  (m.orderPerm m.table.entries).length_eq

theorem lenKeys (m : HashMap K V) : m.len = m.table.keys.length := by
  simp [len, AList.keys, List.keys]

variable [DecidableEq K]

def get (m : HashMap K V) (k : K) : Option V := m.table.lookup k
def insert (m : HashMap K V) (k : K) (v : V) : HashMap K V := {m with table := m.table.insert k v}
def remove (m : HashMap K V) (k : K) : HashMap K V := {m with table := m.table.erase k}

@[simp] theorem getNew (hasher : Hasher K V) (k : K) : (new hasher).get k = none := AList.lookup_empty k
@[simp] theorem getClear (m : HashMap K V) (k : K) : m.clear.get k = none := AList.lookup_empty k

theorem getInsert (m : HashMap K V) (k k' : K) (v : V) :
    (m.insert k v).get k' = if k' = k then some v else m.get k' := by
  split
  · rename_i same
    subst same
    exact AList.lookup_insert m.table
  · rename_i different
    exact AList.lookup_insert_ne different

theorem getRemove (m : HashMap K V) (k k' : K) :
    (m.remove k).get k' = if k' = k then none else m.get k' := by
  split
  · rename_i same
    subst same
    exact AList.lookup_erase k' m.table
  · rename_i different
    exact AList.lookup_erase_ne different

theorem removeAbsent (m : HashMap K V) {k : K} (absent : m.get k = none) : m.remove k = m := by
  have unlisted : k ∉ m.table.keys := AList.lookup_eq_none.mp absent
  have same : m.table.erase k = m.table := AList.ext (List.kerase_of_notMem_keys unlisted)
  rw [remove, same]

theorem memIter (m : HashMap K V) (e : Entry K V) : e ∈ m.iter ↔ m.get e.1 = some e.2 := by
  obtain ⟨k, v⟩ := e
  rw [iter, (m.orderPerm m.table.entries).mem_iff]
  exact AList.mem_lookup_iff.symm

theorem lenInsertFresh {m : HashMap K V} {k : K} (fresh : m.get k = none) (v : V) :
    (m.insert k v).len = m.len + 1 := by
  have absent : k ∉ m.table := AList.lookup_eq_none.mp fresh
  simp only [len, insert, AList.entries_insert_of_notMem absent, List.length_cons]

theorem lenRemoveLe (m : HashMap K V) (k : K) : (m.remove k).len ≤ m.len := by
  simp only [lenKeys, remove, AList.keys_erase]
  exact List.length_erase_le

theorem lenEqZeroIff (m : HashMap K V) : m.len = 0 ↔ ∀ k, m.get k = none := by
  constructor
  · intro none k
    have empty : m.table = ∅ := AList.ext (List.length_eq_zero_iff.mp none)
    simp [get, empty]
  · intro absent
    rw [← iterLength, List.length_eq_zero_iff, List.eq_nil_iff_forall_not_mem]
    intro e member
    rw [memIter, absent] at member
    contradiction

theorem soleKey {m : HashMap K V} (one : m.len ≤ 1) {k k' : K} {v v' : V} (here : m.get k = some v)
    (there : m.get k' = some v') : k = k' := by
  have first := (memIter m ⟨k, v⟩).mpr here
  have second := (memIter m ⟨k', v'⟩).mpr there
  rw [← iterLength] at one
  match entries : m.iter, one with
  | [], _ =>
    rw [entries] at first
    exact absurd first List.not_mem_nil
  | [e], _ =>
    rw [entries] at first second
    exact congrArg Sigma.fst ((List.mem_singleton.mp first).trans (List.mem_singleton.mp second).symm)

theorem lenEqOfBijection {K' V' : Type} [DecidableEq K'] {m : HashMap K V} {m' : HashMap K' V'}
    (key : Entry K V → K')
    (distinct : ∀ a ∈ m.iter, ∀ b ∈ m.iter, key a = key b → a.1 = b.1)
    (image : ∀ k', (∃ e ∈ m.iter, key e = k') ↔ ∃ v', m'.get k' = some v') : m.len = m'.len := by
  have left : (m.iter.map key).Nodup := by
    refine List.Nodup.map_on ?_ (List.Nodup.of_map _ (iterKeysNodup m))
    intro a ha b hb same
    have keys := distinct a ha b hb same
    rw [memIter] at ha hb
    rw [keys] at ha
    exact Sigma.ext keys (heq_of_eq (Option.some.inj (ha.symm.trans hb)))
  have perm : (m.iter.map key).Perm (m'.iter.map Sigma.fst) := by
    rw [List.perm_ext_iff_of_nodup left (iterKeysNodup m')]
    intro k'
    rw [List.mem_map, image, List.mem_map]
    constructor
    · intro spec
      obtain ⟨v', found⟩ := spec
      exact ⟨⟨k', v'⟩, (memIter m' ⟨k', v'⟩).mpr found, rfl⟩
    · intro spec
      obtain ⟨e, member, rfl⟩ := spec
      exact ⟨e.2, (memIter m' e).mp member⟩
  have sizes := perm.length_eq
  simpa only [List.length_map, iterLength] using sizes

def removeAll (m : HashMap K V) (keys : List K) : HashMap K V := keys.foldl remove m

theorem getRemoveAll (m : HashMap K V) (keys : List K) (k : K) :
    (m.removeAll keys).get k = if k ∈ keys then none else m.get k := by
  induction keys generalizing m with
  | nil => simp [removeAll]
  | cons head tail ih =>
    change ((m.remove head).removeAll tail).get k = _
    rw [ih, getRemove]
    by_cases inTail : k ∈ tail <;> by_cases same : k = head <;> simp [inTail, same]

theorem lenRemoveAllLe (m : HashMap K V) (keys : List K) : (m.removeAll keys).len ≤ m.len := by
  induction keys generalizing m with
  | nil => exact Nat.le_refl _
  | cons head tail ih => exact Nat.le_trans (ih (m.remove head)) (lenRemoveLe m head)

end HashMap
end Crabnet.HashTable
