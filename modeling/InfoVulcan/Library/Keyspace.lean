import InfoVulcan.Library.Bytes

/-!
# Namespaced ordered key-value stores

`Keyspace ν κ α` is one ordered map per namespace, held as a single ordered map over cells
`(namespace, key)`. Two keyspaces with the same bindings are equal (`ext`), `scan` lists one
namespace in ascending key order, and `spaces` lists the namespaces that hold a key.
-/

namespace InfoVulcan

/-- A position of a namespaced store. -/
structure Cell (ν κ : Type) where
  space : ν
  key : κ
  deriving DecidableEq, Repr

namespace Cell

variable {ν κ : Type} [Ord ν] [Ord κ]

/-- Cells are ordered by namespace first and by key within a namespace. -/
instance : Ord (Cell ν κ) :=
  ⟨compareLex (compareOn Cell.space) (compareOn Cell.key)⟩

instance [Std.TransOrd ν] [Std.TransOrd κ] : Std.TransOrd (Cell ν κ) :=
  inferInstanceAs (Std.TransCmp (compareLex (compareOn Cell.space) (compareOn Cell.key)))

instance [Std.LawfulEqOrd ν] [Std.LawfulEqOrd κ] : Std.LawfulEqOrd (Cell ν κ) where
  compare_self {c} := by simp [compare, compareLex, compareOn]
  eq_of_compare {c d} h := by
    simp only [compare, compareLex, compareOn, Ordering.then_eq_eq] at h
    cases c
    cases d
    simpa using h

/-- Within one namespace cells compare as their keys do. -/
theorem compare_same_space [Std.ReflOrd ν] (n : ν) (k l : κ) :
    compare (⟨n, k⟩ : Cell ν κ) ⟨n, l⟩ = compare k l := by
  simp [compare, compareLex, compareOn]

end Cell

/-- A finite map from namespaced keys to values. -/
structure Keyspace (ν κ α : Type) [Ord ν] [Ord κ] where
  map : Std.ExtTreeMap (Cell ν κ) α

namespace Keyspace

variable {ν κ α : Type} [Ord ν] [Ord κ] [Std.TransOrd ν] [Std.TransOrd κ]

/-- The store without bindings. -/
def empty : Keyspace ν κ α := ⟨∅⟩

/-- The value bound to a cell. -/
def at? (s : Keyspace ν κ α) (c : Cell ν κ) : Option α :=
  s.map[c]?

/-- The value bound to `key` in the namespace `space`. -/
def get (s : Keyspace ν κ α) (space : ν) (key : κ) : Option α :=
  s.at? ⟨space, key⟩

/-- Binds a cell, replacing an earlier value. -/
def put (s : Keyspace ν κ α) (c : Cell ν κ) (value : α) : Keyspace ν κ α :=
  ⟨s.map.insert c value⟩

/-- Removes the binding of a cell, if any. -/
def remove (s : Keyspace ν κ α) (c : Cell ν κ) : Keyspace ν κ α :=
  ⟨s.map.erase c⟩

/-- Every binding, in cell order. -/
def bindings (s : Keyspace ν κ α) : List (Cell ν κ × α) :=
  s.map.toList

/-- The bindings of one namespace, in ascending key order. -/
def scan [DecidableEq ν] (s : Keyspace ν κ α) (space : ν) : List (κ × α) :=
  s.bindings.filterMap fun b => if b.1.space = space then some (b.1.key, b.2) else none

/-- The namespaces that hold at least one key, each once. -/
def spaces [DecidableEq ν] (s : Keyspace ν κ α) : List ν :=
  (s.bindings.map fun b => b.1.space).dedup

/-! ## Lookups -/

@[simp] theorem at_empty (c : Cell ν κ) : (empty : Keyspace ν κ α).at? c = none := by
  simp [empty, at?]

@[simp] theorem get_empty (n : ν) (k : κ) : (empty : Keyspace ν κ α).get n k = none :=
  at_empty _

variable [Std.LawfulEqOrd ν] [Std.LawfulEqOrd κ]

/-- Stores with the same bindings are equal. -/
theorem ext {s t : Keyspace ν κ α} (h : ∀ c, s.at? c = t.at? c) : s = t :=
  congrArg Keyspace.mk (Std.ExtTreeMap.ext_getElem? h)

theorem mem_bindings {s : Keyspace ν κ α} {c : Cell ν κ} {v : α} :
    (c, v) ∈ s.bindings ↔ s.at? c = some v :=
  Std.ExtTreeMap.mem_toList_iff_getElem?_eq_some

theorem at_put [DecidableEq ν] [DecidableEq κ] (s : Keyspace ν κ α) (c d : Cell ν κ) (v : α) :
    (s.put c v).at? d = if c = d then some v else s.at? d := by
  simp only [put, at?, Std.ExtTreeMap.getElem?_insert, Std.LawfulEqOrd.compare_eq_iff_eq]

theorem at_remove [DecidableEq ν] [DecidableEq κ] (s : Keyspace ν κ α) (c d : Cell ν κ) :
    (s.remove c).at? d = if c = d then none else s.at? d := by
  simp only [remove, at?, Std.ExtTreeMap.getElem?_erase, Std.LawfulEqOrd.compare_eq_iff_eq]

/-! ## Scans -/

theorem mem_scan [DecidableEq ν] {s : Keyspace ν κ α} {n : ν} {k : κ} {v : α} :
    (k, v) ∈ s.scan n ↔ s.get n k = some v := by
  simp only [scan, List.mem_filterMap, Option.ite_none_right_eq_some, Option.some.injEq,
    Prod.mk.injEq, Prod.exists]
  constructor
  · rintro ⟨⟨space, key⟩, value, hmem, rfl, rfl, rfl⟩
    exact mem_bindings.mp hmem
  · intro h
    exact ⟨⟨n, k⟩, v, mem_bindings.mpr h, rfl, rfl, rfl⟩

omit [Std.LawfulEqOrd κ] in
/-- A scan lists its keys in strictly ascending order. -/
theorem scan_sorted [DecidableEq ν] (s : Keyspace ν κ α) (n : ν) :
    (s.scan n).Pairwise fun a b => compare a.1 b.1 = .lt := by
  have hsorted : s.bindings.Pairwise fun a b => compare a.1 b.1 = .lt :=
    Std.ExtTreeMap.ordered_keys_toList
  refine List.Pairwise.filterMap _ ?_ hsorted
  rintro ⟨⟨n₁, k₁⟩, v₁⟩ ⟨⟨n₂, k₂⟩, v₂⟩ hlt ⟨l₁, w₁⟩ h₁ ⟨l₂, w₂⟩ h₂
  simp only [Option.ite_none_right_eq_some, Option.some.injEq, Prod.mk.injEq] at h₁ h₂
  obtain ⟨rfl, rfl, rfl⟩ := h₁
  obtain ⟨rfl, rfl, rfl⟩ := h₂
  simpa [Cell.compare_same_space] using hlt

/-- A list of the bindings of a namespace, in ascending order of the keys, is its scan. -/
theorem scan_eq [DecidableEq ν] {s : Keyspace ν κ α} {n : ν} {l : List (κ × α)}
    (hsorted : l.Pairwise fun a b => compare a.1 b.1 = .lt)
    (hmem : ∀ k v, (k, v) ∈ l ↔ s.get n k = some v) : s.scan n = l := by
  have hirrefl : Std.Irrefl fun a b : κ × α => compare a.1 b.1 = .lt :=
    ⟨fun a hlt => by simp at hlt⟩
  have hantisymm : Std.Antisymm fun a b : κ × α => compare a.1 b.1 = .lt :=
    ⟨fun a b hab hba => by rw [Std.OrientedCmp.gt_of_lt hab] at hba; cases hba⟩
  refine List.Pairwise.eq_of_mem_iff (s.scan_sorted n) hsorted ?_
  rintro ⟨k, v⟩
  rw [mem_scan, hmem]

/-- A scan of a namespace depends on the bindings in it only. -/
theorem scan_congr [DecidableEq ν] {s t : Keyspace ν κ α} {n : ν}
    (h : ∀ k, s.get n k = t.get n k) : s.scan n = t.scan n :=
  scan_eq (t.scan_sorted n) fun k v => by rw [mem_scan, h]

/-- A key behind all others is bound at the end of the scan. -/
theorem scan_put_last [DecidableEq ν] [DecidableEq κ] {s : Keyspace ν κ α} {n : ν} {k : κ}
    (hlast : ∀ b ∈ s.scan n, compare b.1 k = .lt) (v : α) :
    (s.put ⟨n, k⟩ v).scan n = s.scan n ++ [(k, v)] := by
  refine scan_eq ?_ fun l w => ?_
  · refine List.pairwise_append.mpr ⟨s.scan_sorted n, List.pairwise_singleton _ _, ?_⟩
    intro b hb c hc
    rw [List.mem_singleton.mp hc]
    exact hlast b hb
  · have hput : (s.put ⟨n, k⟩ v).get n l = if k = l then some v else s.get n l := by
      simp only [get, at_put, Cell.mk.injEq, true_and]
    rw [List.mem_append, List.mem_singleton, mem_scan, hput]
    split
    case isTrue heq =>
        subst heq
        have hfree : s.get n k ≠ some w := by
          intro hw
          have hlt := hlast _ (mem_scan.mpr hw)
          simp at hlt
        simp [hfree, eq_comm]
    case isFalse hne => simp [Ne.symm hne]

theorem mem_spaces [DecidableEq ν] {s : Keyspace ν κ α} {n : ν} :
    n ∈ s.spaces ↔ ∃ k v, s.get n k = some v := by
  simp only [spaces, List.mem_dedup, List.mem_map, Prod.exists]
  constructor
  · rintro ⟨⟨n', k⟩, v, hmem, rfl⟩
    exact ⟨k, v, mem_bindings.mp hmem⟩
  · rintro ⟨k, v, h⟩
    exact ⟨⟨n, k⟩, v, mem_bindings.mpr h, rfl⟩

end Keyspace

end InfoVulcan
