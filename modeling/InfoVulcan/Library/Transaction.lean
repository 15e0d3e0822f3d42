import InfoVulcan.Library.Keyspace

/-!
# Transactions on a namespaced store

A `Transaction` reads a fixed list of cells and then performs unconditional writes. Its
outcome and its writes depend on those cells only, which gives four rules:

* `exec_agree`: stores that agree on a set of cells holding the reads still agree on it
  after the transaction, and answer alike;
* `at_exec_of_untouched`: a cell that no write names keeps its value;
* `replay`: a log each of whose reads sees a value the log itself has put there can be run a
  second time on its own result without any effect;
* `repairedAfter_of_reads`: a transaction that stops between two writes is repaired by running it
  again, as long as the writes it has made are not among its reads.
-/

namespace InfoVulcan

variable {ν κ α ρ : Type} [Ord ν] [Ord κ] [Std.TransOrd ν] [Std.TransOrd κ]

/-- An unconditional write of one cell. -/
inductive Write (ν κ α : Type) where
  | put (cell : Cell ν κ) (value : α)
  | remove (cell : Cell ν κ)
  deriving DecidableEq

namespace Write

/-- The cell a write names. -/
def cell : Write ν κ α → Cell ν κ
  | .put c _ => c
  | .remove c => c

/-- What a write leaves in its cell. -/
def value : Write ν κ α → Option α
  | .put _ v => some v
  | .remove _ => none

/-- The store after one write. -/
def apply (s : Keyspace ν κ α) : Write ν κ α → Keyspace ν κ α
  | .put c v => s.put c v
  | .remove c => s.remove c

end Write

namespace Keyspace

/-- The store after a list of writes, performed in order. -/
def applyWrites (s : Keyspace ν κ α) (ws : List (Write ν κ α)) : Keyspace ν κ α :=
  ws.foldl Write.apply s

@[simp] theorem applyWrites_nil (s : Keyspace ν κ α) : s.applyWrites [] = s := rfl

theorem applyWrites_append (s : Keyspace ν κ α) (ws vs : List (Write ν κ α)) :
    s.applyWrites (ws ++ vs) = (s.applyWrites ws).applyWrites vs :=
  List.foldl_append

end Keyspace

section Decidable

variable [DecidableEq ν] [DecidableEq κ]

/-- What a list of writes leaves in a cell: `none` when no write names it. -/
def lastWrite (ws : List (Write ν κ α)) (c : Cell ν κ) : Option (Option α) :=
  ws.foldr (fun w later => later.or (if w.cell = c then some w.value else none)) none

omit [Ord ν] [Ord κ] [Std.TransOrd ν] [Std.TransOrd κ] in
theorem lastWrite_append (ws vs : List (Write ν κ α)) (c : Cell ν κ) :
    lastWrite (ws ++ vs) c = (lastWrite vs c).or (lastWrite ws c) := by
  induction ws with
  | nil => simp [lastWrite]
  | cons w ws ih =>
      simp only [lastWrite, List.cons_append, List.foldr_cons] at ih ⊢
      rw [ih, Option.or_assoc]

omit [Ord ν] [Ord κ] [Std.TransOrd ν] [Std.TransOrd κ] in
/-- A cell is untouched exactly when no write names it. -/
theorem lastWrite_eq_none {ws : List (Write ν κ α)} {c : Cell ν κ} :
    lastWrite ws c = none ↔ ∀ w ∈ ws, w.cell ≠ c := by
  induction ws with
  | nil => simp [lastWrite]
  | cons w ws ih =>
      simp only [lastWrite, List.foldr_cons] at ih ⊢
      simp [ih, and_comm]

omit [Ord ν] [Ord κ] [Std.TransOrd ν] [Std.TransOrd κ] in
/-- Writes that all leave what `f` says. -/
theorem lastWrite_of_content {ws : List (Write ν κ α)} {f : Cell ν κ → Option α}
    (h : ∀ w ∈ ws, w.value = f w.cell) (c : Cell ν κ) :
    lastWrite ws c = if c ∈ ws.map Write.cell then some (f c) else none := by
  induction ws with
  | nil => rfl
  | cons w ws ih =>
      have hw : w.value = f w.cell := h w List.mem_cons_self
      have ih' := ih fun v hv => h v (List.mem_cons_of_mem _ hv)
      show (lastWrite ws c).or (if w.cell = c then some w.value else none) = _
      rw [ih', hw, List.map_cons]
      by_cases hc : c ∈ ws.map Write.cell
      · rw [if_pos hc, if_pos (List.mem_cons_of_mem _ hc), Option.some_or]
      · by_cases hd : w.cell = c
        · rw [if_neg hc, if_pos hd, if_pos (hd ▸ List.mem_cons_self), Option.none_or, hd]
        · rw [if_neg hc, if_neg hd, if_neg (by simp [hc, Ne.symm hd]), Option.none_or]

omit [Ord ν] [Ord κ] [Std.TransOrd ν] [Std.TransOrd κ] in
/-- A batch of puts of one value. -/
theorem lastWrite_map_put (cells : List (Cell ν κ)) (v : α) (c : Cell ν κ) :
    lastWrite (cells.map fun d => .put d v) c = if c ∈ cells then some (some v) else none := by
  rw [lastWrite_of_content (f := fun _ => some v) (by simp [Write.value]), List.map_map]
  simp [Function.comp_def, Write.cell]

omit [Ord ν] [Ord κ] [Std.TransOrd ν] [Std.TransOrd κ] in
/-- A batch of removals. -/
theorem lastWrite_map_remove (cells : List (Cell ν κ)) (c : Cell ν κ) :
    lastWrite (cells.map fun d => (.remove d : Write ν κ α)) c =
      if c ∈ cells then some none else none := by
  rw [lastWrite_of_content (f := fun _ => none) (by simp [Write.value]), List.map_map]
  simp [Function.comp_def, Write.cell]

variable [Std.LawfulEqOrd ν] [Std.LawfulEqOrd κ]

namespace Keyspace

theorem at_write (s : Keyspace ν κ α) (w : Write ν κ α) (c : Cell ν κ) :
    (w.apply s).at? c = if w.cell = c then w.value else s.at? c := by
  cases w with
  | put d v => exact at_put s d c v
  | remove d => exact at_remove s d c

/-- After a list of writes a cell holds what the last write to it left. -/
theorem at_applyWrites (s : Keyspace ν κ α) (ws : List (Write ν κ α)) (c : Cell ν κ) :
    (s.applyWrites ws).at? c = (lastWrite ws c).getD (s.at? c) := by
  induction ws generalizing s with
  | nil => rfl
  | cons w ws ih =>
      have hstep : (s.applyWrites (w :: ws)).at? c = ((w.apply s).applyWrites ws).at? c := rfl
      rw [hstep, ih, at_write]
      show _ = ((lastWrite ws c).or (if w.cell = c then some w.value else none)).getD _
      cases lastWrite ws c <;> by_cases hw : w.cell = c <;> simp [hw]

/-- A cell that no write names keeps its value. -/
theorem at_applyWrites_of_untouched {s : Keyspace ν κ α} {ws : List (Write ν κ α)}
    {c : Cell ν κ} (h : ∀ w ∈ ws, w.cell ≠ c) : (s.applyWrites ws).at? c = s.at? c := by
  rw [at_applyWrites, lastWrite_eq_none.mpr h]
  rfl

/-- Writes that were cut short can be completed by a second list that ends in the same writes,
as long as what this list does before them is written over. -/
theorem applyWrites_resume (s : Keyspace ν κ α) (before redo after : List (Write ν κ α)) (k : Nat)
    (h : ∀ w ∈ redo, ∃ v ∈ after, v.cell = w.cell) :
    (s.applyWrites (before ++ after.take k)).applyWrites (redo ++ after) =
      s.applyWrites (before ++ after) := by
  apply Keyspace.ext
  intro c
  simp only [at_applyWrites, lastWrite_append]
  cases hafter : lastWrite after c with
  | some written => simp
  | none =>
      have hunnamed := lastWrite_eq_none.mp hafter
      have hredo : lastWrite redo c = none := by
        refine lastWrite_eq_none.mpr fun w hw hcell => ?_
        obtain ⟨v, hv, hsame⟩ := h w hw
        exact hunnamed v hv (hsame.trans hcell)
      have htake : lastWrite (after.take k) c = none :=
        lastWrite_eq_none.mpr fun w hw => hunnamed w (List.mem_of_mem_take hw)
      simp [hredo, htake]

/-- Performing all writes over what the first of them have left gives what they leave. -/
theorem applyWrites_take (s : Keyspace ν κ α) (ws : List (Write ν κ α)) (k : Nat) :
    (s.applyWrites (ws.take k)).applyWrites ws = s.applyWrites ws :=
  applyWrites_resume s [] [] ws k fun w hw => by cases hw

end Keyspace

/-- A computation that reads the cells in `reads` and then writes unconditionally. -/
structure Transaction (ν κ α ρ : Type) where
  reads : List (Cell ν κ)
  plan : (Cell ν κ → Option α) → ρ × List (Write ν κ α)
  plan_congr : ∀ f g, (∀ c ∈ reads, f c = g c) → plan f = plan g

namespace Transaction

/-- The outcome of a transaction and the store it leaves. -/
def exec (t : Transaction ν κ α ρ) (s : Keyspace ν κ α) : ρ × Keyspace ν κ α :=
  ((t.plan s.at?).1, s.applyWrites (t.plan s.at?).2)

/-- The store after a log of transactions. -/
def runAll (ts : List (Transaction ν κ α ρ)) (s : Keyspace ν κ α) : Keyspace ν κ α :=
  ts.foldl (fun s t => (t.exec s).2) s

/-- The outcomes of a log of transactions, in order. -/
def outcomes : List (Transaction ν κ α ρ) → Keyspace ν κ α → List ρ
  | [], _ => []
  | t :: ts, s => (t.exec s).1 :: outcomes ts (t.exec s).2

/-! ## Frame and agreement -/

omit [DecidableEq ν] [DecidableEq κ] [Std.LawfulEqOrd ν] [Std.LawfulEqOrd κ] in
/-- Stores that agree on the reads get the same plan. -/
theorem plan_eq {t : Transaction ν κ α ρ} {s u : Keyspace ν κ α}
    (h : ∀ c ∈ t.reads, s.at? c = u.at? c) : t.plan s.at? = t.plan u.at? :=
  t.plan_congr _ _ h

/-- Agreement on a set of cells that holds the reads survives the transaction. -/
theorem exec_agree {t : Transaction ν κ α ρ} {s u : Keyspace ν κ α} {P : Cell ν κ → Prop}
    (hreads : ∀ c ∈ t.reads, P c) (h : ∀ c, P c → s.at? c = u.at? c) :
    (t.exec s).1 = (t.exec u).1 ∧ ∀ c, P c → (t.exec s).2.at? c = (t.exec u).2.at? c := by
  have hplan := plan_eq (t := t) fun c hc => h c (hreads c hc)
  refine ⟨by rw [exec, exec, hplan], fun c hc => ?_⟩
  rw [exec, exec, Keyspace.at_applyWrites, Keyspace.at_applyWrites, hplan, h c hc]

/-! ## Replay -/

/-- Every read made while the log runs from `s` sees a value that differs from the one in
`base`, so the log itself has written it. -/
def ReadsOwnWrites (base : Keyspace ν κ α) :
    List (Transaction ν κ α ρ) → Keyspace ν κ α → Prop
  | [], _ => True
  | t :: ts, s =>
      (∀ c ∈ t.reads, s.at? c ≠ base.at? c) ∧ ReadsOwnWrites base ts (t.exec s).2

/-- The invariant of a second run: each cell of the second run holds either what it held at the
same moment of the first run, or still the final value because the first run has not written
it yet. -/
def CatchingUp (base final s u : Keyspace ν κ α) : Prop :=
  ∀ c, u.at? c = s.at? c ∨ (u.at? c = final.at? c ∧ s.at? c = base.at? c)

theorem CatchingUp.step {base final s u : Keyspace ν κ α} {t : Transaction ν κ α ρ}
    (h : CatchingUp base final s u) (hreads : ∀ c ∈ t.reads, s.at? c ≠ base.at? c) :
    (t.exec u).1 = (t.exec s).1 ∧ CatchingUp base final (t.exec s).2 (t.exec u).2 := by
  have hplan : t.plan u.at? = t.plan s.at? :=
    plan_eq fun c hc => (h c).resolve_right fun hc' => hreads c hc hc'.2
  refine ⟨by rw [exec, exec, hplan], fun c => ?_⟩
  rw [exec, exec, Keyspace.at_applyWrites, Keyspace.at_applyWrites, hplan]
  cases lastWrite (t.plan s.at?).2 c with
  | none => exact h c
  | some written => exact Or.inl rfl

theorem CatchingUp.run {base final s u : Keyspace ν κ α} {ts : List (Transaction ν κ α ρ)}
    (h : CatchingUp base final s u) (hlog : ReadsOwnWrites base ts s)
    (hfinal : runAll ts s = final) : runAll ts u = final ∧ outcomes ts u = outcomes ts s := by
  induction ts generalizing s u with
  | nil =>
      have hs : s = final := hfinal
      refine ⟨Keyspace.ext fun c => ?_, rfl⟩
      rcases h c with hc | hc
      · rw [← hs]; exact hc
      · exact hc.1
  | cons t ts ih =>
      obtain ⟨hreads, hrest⟩ := hlog
      obtain ⟨hout, hnext⟩ := h.step hreads
      obtain ⟨hrun, houts⟩ := ih hnext hrest hfinal
      exact ⟨hrun, by rw [outcomes, outcomes, hout, houts]⟩

/-- Running a log again on its own result changes nothing and answers as before, provided each
of its reads saw a value the log had written. -/
theorem replay {ts : List (Transaction ν κ α ρ)} {s : Keyspace ν κ α}
    (h : ReadsOwnWrites s ts s) :
    runAll ts (runAll ts s) = runAll ts s ∧
      outcomes ts (runAll ts s) = outcomes ts s :=
  CatchingUp.run (fun _ => Or.inr ⟨rfl, rfl⟩) h rfl

/-! ## Interruption -/

/-- The store a transaction leaves when it stops after its first `k` writes. -/
def interrupt (t : Transaction ν κ α ρ) (s : Keyspace ν κ α) (k : Nat) : Keyspace ν κ α :=
  s.applyWrites ((t.plan s.at?).2.take k)

/-- Running the transaction again after it stopped answers, and leaves the store, as one
uninterrupted run does. -/
def RepairedAfter (t : Transaction ν κ α ρ) (s : Keyspace ν κ α) (k : Nat) : Prop :=
  t.exec (t.interrupt s k) = t.exec s

/-- A transaction that plans the second run as the first is repaired. -/
theorem repairedAfter_of_plan {t : Transaction ν κ α ρ} {s : Keyspace ν κ α} {k : Nat}
    (h : t.plan (t.interrupt s k).at? = t.plan s.at?) : t.RepairedAfter s k := by
  unfold RepairedAfter
  rw [exec, exec, h, interrupt, Keyspace.applyWrites_take]

/-- A transaction that finds again what it has read is repaired. -/
theorem repairedAfter_of_reads {t : Transaction ν κ α ρ} {s : Keyspace ν κ α} {k : Nat}
    (h : ∀ c ∈ t.reads, (t.interrupt s k).at? c = s.at? c) : t.RepairedAfter s k :=
  repairedAfter_of_plan (plan_eq h)

end Transaction

end Decidable

end InfoVulcan
