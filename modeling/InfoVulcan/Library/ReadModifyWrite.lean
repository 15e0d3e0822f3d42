import InfoVulcan.Library.Machine

/-!
# Read-modify-write on shared cells

A worker reads a cell, works on what it has read, and writes the cell back. `Desk` keeps who is
between read and write and on which cell, and the log of the writes; each carries the number of
writes the cell had received when it was read. A log is `Sequential` when every write was based on
the cell as the write before it left it. Writes that find no other worker on their cell
(`Desk.Alone`) keep a desk `Fresh`; a write that does find one leaves it `Stale`, and no later
step repairs that.
-/

namespace InfoVulcan

variable {ω κ : Type} [DecidableEq ω] [DecidableEq κ]

/-- A log entry: the cell, and the number of writes to it at the time it was read. -/
abbrev BasedWrite (κ : Type) := κ × Nat

/-- The number of writes to a cell. -/
def writesTo (log : List (BasedWrite κ)) (k : κ) : Nat :=
  log.countP (·.1 = k)

/-- Every write was based on all the writes to its cell before it. -/
def Sequential (log : List (BasedWrite κ)) : Prop :=
  ∀ pre w post, log = pre ++ w :: post → w.2 = writesTo pre w.1

@[simp] theorem writesTo_append (log : List (BasedWrite κ)) (w : BasedWrite κ) (k : κ) :
    writesTo (log ++ [w]) k = writesTo log k + if w.1 = k then 1 else 0 := by
  simp [writesTo, List.countP_append, List.countP_singleton]

theorem Sequential.nil : Sequential ([] : List (BasedWrite κ)) := by
  intro pre w post h
  simp at h

theorem sequential_append {log : List (BasedWrite κ)} {w : BasedWrite κ} :
    Sequential (log ++ [w]) ↔ Sequential log ∧ w.2 = writesTo log w.1 := by
  constructor
  · intro h
    refine ⟨fun pre v post hlog => ?_, h log w [] rfl⟩
    exact h pre v (post ++ [w]) (by simp [hlog])
  · rintro ⟨hlog, hw⟩ pre v post h
    rcases List.eq_nil_or_concat post with rfl | ⟨post, u, rfl⟩
    · obtain ⟨rfl, hv⟩ := List.append_inj' h rfl
      obtain rfl : w = v := by simpa using hv
      exact hw
    · rw [List.concat_eq_append, ← List.cons_append, ← List.append_assoc] at h
      exact hlog pre v post (List.append_inj' h rfl).1

/-- Who is between read and write, and the writes so far. -/
structure Desk (ω κ : Type) where
  pending : ω → Option (BasedWrite κ)
  log : List (BasedWrite κ)

namespace Desk

/-- A worker reads a cell. -/
def read (d : Desk ω κ) (i : ω) (k : κ) : Desk ω κ :=
  { d with pending := Function.update d.pending i (some (k, writesTo d.log k)) }

/-- A worker writes the cell it has read. -/
def write (d : Desk ω κ) (i : ω) (w : BasedWrite κ) : Desk ω κ where
  pending := Function.update d.pending i none
  log := d.log ++ [w]

/-- No other worker is between read and write on the cell. -/
def Alone (d : Desk ω κ) (i : ω) (k : κ) : Prop :=
  ∀ j ≠ i, ∀ v, d.pending j = some v → v.1 ≠ k

/-- The writes are sequential, and so would be any pending one. -/
structure Fresh (d : Desk ω κ) : Prop where
  sequential : Sequential d.log
  current : ∀ i w, d.pending i = some w → w.2 = writesTo d.log w.1

/-- A write was lost, or will be once a pending one is done. -/
def Stale (d : Desk ω κ) : Prop :=
  ¬ Sequential d.log ∨ ∃ i w, d.pending i = some w ∧ w.2 < writesTo d.log w.1

variable {d : Desk ω κ} {i : ω} {k : κ} {w : BasedWrite κ}

omit [DecidableEq ω] in
/-- A desk with nothing pending is stale only if a write was lost. -/
theorem Stale.not_sequential (h : d.Stale) (hidle : ∀ i, d.pending i = none) :
    ¬ Sequential d.log := by
  rcases h with h | ⟨i, w, hw, -⟩
  · exact h
  · rw [hidle i] at hw
    cases hw

theorem Fresh.read (h : d.Fresh) : (d.read i k).Fresh where
  sequential := h.sequential
  current j w hw := by
    simp only [Desk.read, Function.update_apply] at hw
    split at hw
    · obtain rfl := Option.some.inj hw
      rfl
    · exact h.current j w hw

theorem Fresh.write (h : d.Fresh) (hi : d.pending i = some w) (halone : d.Alone i w.1) :
    (d.write i w).Fresh where
  sequential := sequential_append.mpr ⟨h.sequential, h.current i w hi⟩
  current j v hv := by
    simp only [Desk.write, Function.update_apply] at hv ⊢
    split at hv
    · cases hv
    · next hj =>
        have hne : w.1 ≠ v.1 := fun heq => halone j hj v hv heq.symm
        rw [writesTo_append, if_neg hne]
        exact h.current j v hv

theorem Stale.read (h : d.Stale) (hi : d.pending i = none) : (d.read i k).Stale := by
  rcases h with h | ⟨j, v, hv, hlt⟩
  · exact .inl h
  · refine .inr ⟨j, v, ?_, hlt⟩
    have hj : j ≠ i := by
      rintro rfl
      rw [hi] at hv
      cases hv
    simpa [Desk.read, hj] using hv

theorem Stale.write (h : d.Stale) (hi : d.pending i = some w) : (d.write i w).Stale := by
  rcases h with h | ⟨j, v, hv, hlt⟩
  · exact .inl fun hseq => h (sequential_append.mp hseq).1
  by_cases hj : j = i
  · subst hj
    obtain rfl : w = v := Option.some.inj (hi.symm.trans hv)
    exact .inl fun hseq => absurd (sequential_append.mp hseq).2 (by omega)
  · refine .inr ⟨j, v, by simpa [Desk.write, hj] using hv, ?_⟩
    simp only [Desk.write, writesTo_append]
    omega

/-- A write next to a pending one leaves that one behind. -/
theorem Fresh.stale_write (h : d.Fresh) (halone : ¬ d.Alone i w.1) : (d.write i w).Stale := by
  simp only [Alone, not_forall, not_not] at halone
  obtain ⟨j, hj, v, hv, hkey⟩ := halone
  refine .inr ⟨j, v, by simpa [Desk.write, hj] using hv, ?_⟩
  simp only [Desk.write, writesTo_append, hkey, if_true, h.current j v hv]
  omega

end Desk

end InfoVulcan
