import Mathlib

/-!
# Separated groups

A list is split at its separators into groups, and `join` puts groups and separators together again.
Splitting and joining are inverse to each other (`join_splitOnP`, `splitOnP_join`), and splitting
goes through a map (`splitOnP_map`).
-/

namespace InfoVulcan.Separated

variable {α β : Type} {p : α → Bool} {groups : List (List α)} {seps : List α}

/-- Groups with separators between them, one separator less than groups. -/
def join (groups : List (List α)) (seps : List α) : List α :=
  (List.zipWith (· ++ ·) groups (seps.map (fun sep => [sep]) ++ [[]])).flatten

theorem join_singleton (group : List α) : join [group] [] = group := by
  simp [join]

theorem join_cons_cons (group : List α) (groups : List (List α)) (sep : α) (seps : List α) :
    join (group :: groups) (sep :: seps) = group ++ sep :: join groups seps := by
  simp [join]

/-- Groups that are separated by the same element. -/
theorem join_replicate (group : List α) (groups : List (List α)) (sep : α) :
    join (group :: groups) (List.replicate groups.length sep) =
      [sep].intercalate (group :: groups) := by
  induction groups generalizing group with
  | nil => simp [join_singleton, List.intercalate]
  | cons next groups ih =>
      rw [List.length_cons, List.replicate_succ, join_cons_cons, ih]
      simp [List.intercalate]

/-- Joining goes through a map. -/
theorem map_join (f : α → β) (groups : List (List α)) (seps : List α) :
    (join groups seps).map f = join (groups.map (List.map f)) (seps.map f) := by
  induction groups generalizing seps with
  | nil => rfl
  | cons group groups ih =>
      cases seps with
      | nil => simp [join]
      | cons sep seps =>
          rw [join_cons_cons, List.map_append, List.map_cons, ih]
          exact (join_cons_cons _ _ _ _).symm

/-- A list is its groups with its separators between them. -/
theorem join_splitOnP (p : α → Bool) (l : List α) : join (l.splitOnP p) (l.filter p) = l :=
  List.splitOnP_spec l

/-- There is one separator less than there are groups. -/
theorem length_splitOnP (p : α → Bool) (l : List α) :
    (l.splitOnP p).length = (l.filter p).length + 1 := by
  induction l with
  | nil => rfl
  | cons a l ih =>
      rw [List.splitOnP_cons_eq_if_modifyHead]
      cases h : p a with
      | true => simp [h, ih]
      | false => simp [h, ih]

/-- No group has a separator in it. -/
theorem eq_false_of_mem_splitOnP {l group : List α} {a : α} (hgroup : group ∈ l.splitOnP p)
    (ha : a ∈ group) : p a = false := by
  induction l generalizing group with
  | nil =>
      obtain rfl := List.mem_singleton.mp hgroup
      cases ha
  | cons b l ih =>
      rw [List.splitOnP_cons_eq_if_modifyHead] at hgroup
      cases hb : p b with
      | true =>
          rw [hb, if_pos rfl] at hgroup
          rcases List.mem_cons.mp hgroup with rfl | hrest
          · cases ha
          · exact ih hrest ha
      | false =>
          obtain ⟨first, rest, hsplit⟩ := List.exists_cons_of_ne_nil (List.splitOnP_ne_nil p l)
          rw [hb, if_neg Bool.false_ne_true, hsplit, List.modifyHead_cons] at hgroup
          -- The first element joins the first group.
          rcases List.mem_cons.mp hgroup with rfl | hrest
          · rcases List.mem_cons.mp ha with rfl | hfirst
            · exact hb
            · exact ih (hsplit ▸ List.mem_cons_self) hfirst
          · exact ih (hsplit ▸ List.mem_cons_of_mem _ hrest) ha

/-- Groups without separators in them are the groups of the list they are joined to. -/
theorem splitOnP_join (hlength : groups.length = seps.length + 1)
    (hgroups : ∀ group ∈ groups, ∀ a ∈ group, p a = false) (hseps : ∀ sep ∈ seps, p sep = true) :
    (join groups seps).splitOnP p = groups := by
  induction seps generalizing groups with
  | nil =>
      obtain ⟨group, rfl⟩ := List.length_eq_one_iff.mp hlength
      rw [join_singleton]
      exact List.splitOnP_eq_singleton (hgroups group List.mem_cons_self)
  | cons sep seps ih =>
      obtain ⟨group, rest, rfl⟩ := List.exists_cons_of_length_pos (by omega : 0 < groups.length)
      rw [join_cons_cons, List.splitOnP_append_cons_of_forall_mem
        (hgroups group List.mem_cons_self) sep (hseps sep List.mem_cons_self)]
      rw [ih (by simpa using hlength) (fun g hg => hgroups g (List.mem_cons_of_mem _ hg))
        fun s hs => hseps s (List.mem_cons_of_mem _ hs)]

/-- The separators between groups without separators in them are those of the list. -/
theorem filter_join (hlength : groups.length = seps.length + 1)
    (hgroups : ∀ group ∈ groups, ∀ a ∈ group, p a = false) (hseps : ∀ sep ∈ seps, p sep = true) :
    (join groups seps).filter p = seps := by
  induction seps generalizing groups with
  | nil =>
      obtain ⟨group, rfl⟩ := List.length_eq_one_iff.mp hlength
      rw [join_singleton, List.filter_eq_nil_iff]
      intro a ha
      simp [hgroups group List.mem_cons_self a ha]
  | cons sep seps ih =>
      obtain ⟨group, rest, rfl⟩ := List.exists_cons_of_length_pos (by omega : 0 < groups.length)
      have hgroup : group.filter p = [] := by
        rw [List.filter_eq_nil_iff]
        intro a ha
        simp [hgroups group List.mem_cons_self a ha]
      rw [join_cons_cons, List.filter_append, hgroup, List.nil_append,
        List.filter_cons_of_pos (hseps sep List.mem_cons_self)]
      rw [ih (by simpa using hlength) (fun g hg => hgroups g (List.mem_cons_of_mem _ hg))
        fun s hs => hseps s (List.mem_cons_of_mem _ hs)]

/-- Splitting goes through a map. -/
theorem splitOnP_map (f : β → α) (l : List β) :
    (l.map f).splitOnP p = (l.splitOnP (p ∘ f)).map (List.map f) := by
  induction l with
  | nil => rfl
  | cons b l ih =>
      rw [List.map_cons, List.splitOnP_cons_eq_if_modifyHead, List.splitOnP_cons_eq_if_modifyHead,
        ih]
      cases h : p (f b) with
      | true => simp [h]
      | false =>
          -- The first element joins the first group, mapped or not.
          obtain ⟨group, rest, hsplit⟩ :=
            List.exists_cons_of_ne_nil (List.splitOnP_ne_nil (p ∘ f) l)
          simp [h, hsplit]

end InfoVulcan.Separated
