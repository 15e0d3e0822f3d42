import InfoVulcan.Library.Transaction

/-!
# Secondary indexes kept as postings

A `PostingIndex` says in which cells of a keyspace a row of a table is listed. `Exact rows s`
says that the namespaces of the index hold those postings of the live rows and nothing else.
The one maintenance rule is `Exact.replace`: dropping the postings of the old row, then adding
those of the new row, keeps the index exact for the updated table. It covers insertion
(no old row), deletion (no new row), and update (both).
-/

namespace InfoVulcan

variable {ν κ α ι ρ : Type} [Ord ν] [Ord κ]

/-- Where the rows of a table are listed. Rows with different ids never share a cell. -/
structure PostingIndex (ν κ α ι ρ : Type) where
  trees : List ν
  cells : ι → ρ → List (Cell ν κ)
  mark : ι → α
  disjoint : ∀ {i j r q c}, c ∈ cells i r → c ∈ cells j q → i = j

namespace PostingIndex

/-- The cells of a row that may be absent. -/
def cellsOf (ix : PostingIndex ν κ α ι ρ) (i : ι) : Option ρ → List (Cell ν κ)
  | some r => ix.cells i r
  | none => []

variable [Std.TransOrd ν] [Std.TransOrd κ]

/-- The index namespaces hold exactly the postings of the live rows. -/
def Exact (ix : PostingIndex ν κ α ι ρ) (rows : ι → Option ρ) (s : Keyspace ν κ α) : Prop :=
  ∀ c : Cell ν κ, c.space ∈ ix.trees → ∀ v,
    s.at? c = some v ↔ ∃ i r, rows i = some r ∧ c ∈ ix.cells i r ∧ v = ix.mark i

variable {ix : PostingIndex ν κ α ι ρ} {rows : ι → Option ρ} {s s' : Keyspace ν κ α}

/-- The empty store indexes the empty table. -/
theorem exact_empty : ix.Exact (fun _ => none) Keyspace.empty := by
  intro c _ v
  simp

/-- Re-pointing one row keeps the index exact. -/
theorem Exact.replace [DecidableEq ν] [DecidableEq κ] [DecidableEq ι]
    (h : ix.Exact rows s) (i : ι) (new : Option ρ)
    (hs' : ∀ c : Cell ν κ, c.space ∈ ix.trees →
      s'.at? c = if c ∈ ix.cellsOf i new then some (ix.mark i)
        else if c ∈ ix.cellsOf i (rows i) then none else s.at? c) :
    ix.Exact (Function.update rows i new) s' := by
  -- A cell of row `i` can be claimed by no other row.
  have hown : ∀ {o : Option ρ} {c j r}, c ∈ ix.cellsOf i o → c ∈ ix.cells j r → i = j := by
    intro o c j r ho hj
    cases o with
    | none => cases ho
    | some q => exact ix.disjoint ho hj
  intro c hc v
  rw [hs' c hc]
  by_cases hnew : c ∈ ix.cellsOf i new
  · rw [if_pos hnew]
    constructor
    · intro hv
      cases new with
      | none => cases hnew
      | some r => exact ⟨i, r, by simp, hnew, (Option.some.inj hv).symm⟩
    · rintro ⟨j, r, _, hcell, rfl⟩
      rw [hown hnew hcell]
  · rw [if_neg hnew]
    by_cases hold : c ∈ ix.cellsOf i (rows i)
    · rw [if_pos hold]
      refine ⟨fun hv => (nomatch hv), ?_⟩
      rintro ⟨j, r, hrow, hcell, -⟩
      obtain rfl := hown hold hcell
      rw [Function.update_self] at hrow
      exact absurd (by rw [hrow]; exact hcell) hnew
    · rw [if_neg hold, h c hc v]
      constructor
      · rintro ⟨j, r, hrow, hcell, hv⟩
        have hj : j ≠ i := by
          rintro rfl
          exact hold (by rw [hrow]; exact hcell)
        exact ⟨j, r, by rwa [Function.update_of_ne hj], hcell, hv⟩
      · rintro ⟨j, r, hrow, hcell, hv⟩
        have hj : j ≠ i := by
          rintro rfl
          rw [Function.update_self] at hrow
          exact hnew (by rw [hrow]; exact hcell)
        exact ⟨j, r, by rwa [Function.update_of_ne hj] at hrow, hcell, hv⟩

/-- Writes outside the index namespaces do not disturb it. -/
theorem Exact.congr (h : ix.Exact rows s)
    (hs' : ∀ c : Cell ν κ, c.space ∈ ix.trees → s'.at? c = s.at? c) : ix.Exact rows s' := by
  intro c hc v
  rw [hs' c hc, h c hc v]

end PostingIndex

end InfoVulcan
