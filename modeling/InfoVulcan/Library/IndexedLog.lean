import Mathlib

/-!
# Indexed logs

A log holds at most one entry at every index. Entries are appended at the index they carry, and
removed from an index onwards or up to one. What a log holds after a list of operations is told by
the operations alone: an entry is there when it was appended and no later operation has overwritten
or removed it (`contents_eq_some_iff`).
-/

namespace InfoVulcan.IndexedLog

variable {ι ε : Type}

/-- An operation on a log. -/
inductive Operation (ι ε : Type) where
  | append (entries : List ε)
  | truncateFrom (first : ι)
  | purgeUpTo (last : ι)

variable [DecidableEq ι] [LE ι] [DecidableLE ι] (index : ε → ι)

/-- Stores an entry at its index. -/
def store (log : ι → Option ε) (e : ε) : ι → Option ε :=
  Function.update log (index e) (some e)

/-- The log after an operation. -/
def perform (log : ι → Option ε) : Operation ι ε → ι → Option ε
  | .append entries => entries.foldl (store index) log
  | .truncateFrom first => fun i => if first ≤ i then none else log i
  | .purgeUpTo last => fun i => if i ≤ last then none else log i

/-- The log after operations on an empty one. -/
def contents (ops : List (Operation ι ε)) : ι → Option ε :=
  ops.foldl (perform index) fun _ => none

omit [DecidableEq ι] [DecidableLE ι] in
/-- The operation stores an entry at the index, or removes what is there. -/
def Operation.Touches (i : ι) : Operation ι ε → Prop
  | .append entries => ∃ e ∈ entries, index e = i
  | .truncateFrom first => first ≤ i
  | .purgeUpTo last => i ≤ last

omit [DecidableEq ι] [DecidableLE ι] in
/-- The entry was appended, no entry after it in the same batch has its index, and no later
operation touches its index. -/
def Survives (ops : List (Operation ι ε)) (e : ε) : Prop :=
  ∃ earlier before after later,
    ops = earlier ++ .append (before ++ e :: after) :: later ∧
      (∀ d ∈ after, index d ≠ index e) ∧ ∀ op ∈ later, ¬ op.Touches index (index e)

variable {index} {log : ι → Option ε}

/-- An element of a list with a last one is the last one, or comes before it. -/
theorem concat_eq_append_cons {α : Type} {xs before after : List α} {x y : α}
    (h : xs ++ [x] = before ++ y :: after) :
    xs = before ∧ x = y ∧ after = [] ∨ ∃ init, after = init ++ [x] ∧ xs = before ++ y :: init := by
  rcases List.eq_nil_or_concat' after with rfl | ⟨init, last, rfl⟩
  · obtain ⟨hxs, hx⟩ := List.append_inj' h rfl
    exact Or.inl ⟨hxs, (List.cons.inj hx).1, rfl⟩
  · rw [← List.cons_append, ← List.append_assoc] at h
    obtain ⟨hxs, hx⟩ := List.append_inj' h rfl
    exact Or.inr ⟨init, by rw [(List.cons.inj hx).1], hxs⟩

omit [LE ι] [DecidableLE ι] in
/-- Of a batch the last entry with an index is stored there. -/
theorem foldl_store_eq_some_iff {entries : List ε} {e : ε} :
    entries.foldl (store index) log (index e) = some e ↔
      (∃ before after, entries = before ++ e :: after ∧ ∀ d ∈ after, index d ≠ index e) ∨
        (∀ d ∈ entries, index d ≠ index e) ∧ log (index e) = some e := by
  induction entries using List.reverseRecOn with
  | nil => simp
  | append_singleton entries last ih =>
      rw [List.foldl_concat, store]
      by_cases hlast : index e = index last
      · -- The last entry decides.
        rw [hlast, Function.update_self, Option.some.injEq, ← hlast]
        constructor
        · rintro rfl
          exact Or.inl ⟨entries, [], rfl, fun d hd => absurd hd List.not_mem_nil⟩
        · rintro (⟨before, after, hsplit, hafter⟩ | ⟨hnone, -⟩)
          · rcases concat_eq_append_cons hsplit with ⟨-, heq, -⟩ | ⟨init, rfl, -⟩
            · exact heq
            · exact absurd hlast.symm (hafter last (by simp))
          · exact absurd hlast.symm (hnone last (by simp))
      · -- The last entry goes elsewhere, and can be added to or taken off what comes after `e`.
        rw [Function.update_of_ne hlast, ih]
        constructor
        · rintro (⟨before, after, rfl, hafter⟩ | ⟨hnone, hlog⟩)
          · refine Or.inl ⟨before, after ++ [last], by simp, fun d hd => ?_⟩
            rcases List.mem_append.mp hd with hd | hd
            · exact hafter d hd
            · rw [List.mem_singleton.mp hd]
              exact Ne.symm hlast
          · refine Or.inr ⟨fun d hd => ?_, hlog⟩
            rcases List.mem_append.mp hd with hd | hd
            · exact hnone d hd
            · rw [List.mem_singleton.mp hd]
              exact Ne.symm hlast
        · rintro (⟨before, after, hsplit, hafter⟩ | ⟨hnone, hlog⟩)
          · rcases concat_eq_append_cons hsplit with ⟨-, heq, -⟩ | ⟨init, rfl, hinit⟩
            · exact absurd (congrArg index heq).symm hlast
            · exact Or.inl ⟨before, init, hinit, fun d hd => hafter d (by simp [hd])⟩
          · exact Or.inr ⟨fun d hd => hnone d (by simp [hd]), hlog⟩

/-- An entry is there after an operation if the operation has put it there, or it was there before
and the operation has not touched its index. -/
theorem perform_eq_some_iff {op : Operation ι ε} {e : ε} :
    perform index log op (index e) = some e ↔
      (∃ before after, op = .append (before ++ e :: after) ∧ ∀ d ∈ after, index d ≠ index e) ∨
        ¬ op.Touches index (index e) ∧ log (index e) = some e := by
  cases op with
  | append entries =>
      refine foldl_store_eq_some_iff.trans (or_congr (by simp) (and_congr_left fun _ => ?_))
      simp [Operation.Touches]
  | truncateFrom first =>
      by_cases h : first ≤ index e <;> simp [perform, Operation.Touches, h]
  | purgeUpTo last =>
      by_cases h : index e ≤ last <;> simp [perform, Operation.Touches, h]

/-- A log holds the entries that survive its operations. -/
theorem contents_eq_some_iff {ops : List (Operation ι ε)} {e : ε} :
    contents index ops (index e) = some e ↔ Survives index ops e := by
  induction ops using List.reverseRecOn with
  | nil => simp [contents, Survives]
  | append_singleton ops op ih =>
      have hstep : contents index (ops ++ [op]) = perform index (contents index ops) op :=
        List.foldl_concat ..
      rw [hstep, perform_eq_some_iff, ih]
      constructor
      · rintro (⟨before, after, rfl, hafter⟩ | ⟨hkeep, earlier, before, after, later, rfl, hafter,
          hlater⟩)
        -- The last operation has appended the entry, or it has been there and is left alone.
        · exact ⟨ops, before, after, [], rfl, hafter, fun d hd => absurd hd List.not_mem_nil⟩
        · refine ⟨earlier, before, after, later ++ [op], by simp, hafter, fun d hd => ?_⟩
          rcases List.mem_append.mp hd with hd | hd
          · exact hlater d hd
          · rw [List.mem_singleton.mp hd]
            exact hkeep
      · rintro ⟨earlier, before, after, later, hsplit, hafter, hlater⟩
        rcases concat_eq_append_cons hsplit with ⟨-, heq, -⟩ | ⟨init, rfl, hinit⟩
        · exact Or.inl ⟨before, after, heq, hafter⟩
        · exact Or.inr ⟨hlater op (by simp), earlier, before, after, init, hinit, hafter,
            fun d hd => hlater d (by simp [hd])⟩

end InfoVulcan.IndexedLog
