import InfoVulcan.Db.Application

/-!
# State-machine trees

The cells outside Raft's own trees hold the replicated data. Commands read data cells only, so
two stores that agree on them answer a log alike and still agree afterwards
(`agree_applyAll`). Hence the data of a node is determined by the entries it has applied,
whatever else Raft has done to its store in the meantime (`hasApplied_of_run`).
-/

namespace InfoVulcan.Db

open Raft

/-- The cell lies in a state-machine tree. -/
def IsData (c : SledCell) : Prop :=
  c.space ∉ skippedTrees

instance (c : SledCell) : Decidable (IsData c) :=
  inferInstanceAs (Decidable (¬ _))

/-- The data trees are state-machine trees. -/
theorem isData_of_domainTree {c : SledCell} (h : c.space ∈ domainTrees) : IsData c :=
  (by decide : ∀ tree ∈ domainTrees, tree ∉ skippedTrees) c.space h

/-- The databases hold the same replicated data. -/
def AgreeOnData (db db' : Sled) : Prop :=
  ∀ c, IsData c → db.at? c = db'.at? c

theorem AgreeOnData.refl (db : Sled) : AgreeOnData db db := fun _ _ => rfl

theorem AgreeOnData.trans {a b c : Sled} (hab : AgreeOnData a b) (hbc : AgreeOnData b c) :
    AgreeOnData a c :=
  fun d hd => (hab d hd).trans (hbc d hd)

theorem AgreeOnData.symm {a b : Sled} (h : AgreeOnData a b) : AgreeOnData b a :=
  fun d hd => (h d hd).symm

variable [RowFormat]

/-- Commands read data cells only. -/
theorem LogEntry.reads_isData (e : LogEntry) : ∀ c ∈ e.reads, IsData c := by
  intro c hc
  cases e <;> simp only [LogEntry.reads, List.mem_singleton, List.not_mem_nil] at hc <;>
    subst hc <;> simp only [IsData, Table.rowCell, tickets, users, seqCell] <;> decide

/-- A command answers alike on databases with the same data, and leaves the same data. -/
theorem agree_apply {db db' : Sled} (h : AgreeOnData db db') (e : LogEntry) :
    (e.apply db).1 = (e.apply db').1 ∧ AgreeOnData (e.apply db).2 (e.apply db').2 := by
  rw [LogEntry.apply_eq_exec, LogEntry.apply_eq_exec]
  exact Transaction.exec_agree e.reads_isData h

theorem agree_applyAll {db db' : Sled} (h : AgreeOnData db db') (log : List LogEntry) :
    AgreeOnData (applyAll db log) (applyAll db' log) := by
  induction log generalizing db db' with
  | nil => exact h
  | cons e log ih => exact ih (agree_apply h e).2

/-- Whether a log succeeds depends on the data only. -/
theorem agree_succeeds {db db' : Sled} (h : AgreeOnData db db') {log : List LogEntry} :
    Succeeds db log ↔ Succeeds db' log := by
  induction log generalizing db db' with
  | nil => exact Iff.rfl
  | cons e log ih =>
      obtain ⟨hout, hnext⟩ := agree_apply h e
      rw [Succeeds, Succeeds, hout, ih hnext]

/-! ## The data of a node -/

/-- The entries a list of operations applies. -/
def appliedEntries (ops : List Operation) : List DbEntry :=
  ops.flatMap fun
    | .applyToStateMachine entries => entries
    | _ => []

/-- The node has applied exactly these entries since its store was empty. -/
structure HasApplied (store : DbStore) (entries : List DbEntry) : Prop where
  succeeds : Succeeds Keyspace.empty (commands entries)
  data : AgreeOnData store.storage (applyAll Keyspace.empty (commands entries))
  position : store.stateMachine = entries.foldl DbStateMachine.advance .new

namespace HasApplied

variable {store : DbStore} {entries : List DbEntry}

theorem blank : HasApplied DbStore.blank [] where
  succeeds := trivial
  data := .refl _
  position := rfl

/-- The state machine reports the last entry applied. -/
theorem lastAppliedLog (h : HasApplied store entries) :
    store.stateMachine.lastAppliedLog = lastLogIdOf none entries := by
  rw [h.position]
  exact DbStore.blank.advance_lastAppliedLog entries

/-- An answered batch is applied. -/
theorem apply (h : HasApplied store entries) {batch : List DbEntry}
    {responses : List DbResponse} {store' : DbStore}
    (hok : store.applyToStateMachine batch = (.ok responses, store')) :
    HasApplied store' (entries ++ batch) := by
  have hcommands : commands (entries ++ batch) = commands entries ++ commands batch :=
    List.filterMap_append
  obtain rfl := DbStore.store_of_ok hok
  constructor
  · rw [hcommands, succeeds_append]
    exact ⟨h.succeeds, (agree_succeeds h.data).mp (DbStore.succeeds_of_ok hok)⟩
  · rw [hcommands, applyAll_append]
    exact agree_applyAll h.data _
  · rw [DbStore.advance, List.foldl_append, ← h.position]

variable [RaftFormat]

/-- An operation other than applying entries does not disturb the data. -/
theorem perform (h : HasApplied store entries) {op : Operation}
    (hop : ∀ batch, op ≠ .applyToStateMachine batch) : HasApplied (store.perform op) entries where
  succeeds := h.succeeds
  data c hc := by
    rw [at_perform_outside store hop (fun he => hc (by rw [he]; decide))
      (fun he => hc (by rw [he]; decide))]
    exact h.data c hc
  position := by
    rw [← h.position]
    cases op with
    | applyToStateMachine batch => exact absurd rfl (hop batch)
    | _ => rfl

end HasApplied

variable [RaftFormat]

/-- Every batch the operations apply is answered. -/
def AllAnswered (store : DbStore) : List Operation → Prop
  | [] => True
  | op :: ops =>
      (∀ entries, op = .applyToStateMachine entries →
        ∃ responses store', store.applyToStateMachine entries = (.ok responses, store')) ∧
      AllAnswered (store.perform op) ops

/-- A run whose batches are answered has applied the entries of its batches. -/
theorem hasApplied_performAll {store : DbStore} {entries : List DbEntry} {ops : List Operation}
    (h : HasApplied store entries) (hops : AllAnswered store ops) :
    HasApplied (store.performAll ops) (entries ++ appliedEntries ops) := by
  induction ops generalizing store entries with
  | nil => simpa [appliedEntries, DbStore.performAll] using h
  | cons op ops ih =>
      obtain ⟨hop, hrest⟩ := hops
      have hraft : (∀ batch, op ≠ .applyToStateMachine batch) → appliedEntries (op :: ops) =
          appliedEntries ops := by
        intro hne
        cases op with
        | applyToStateMachine batch => exact absurd rfl (hne batch)
        | _ => rfl
      by_cases hne : ∀ batch, op ≠ .applyToStateMachine batch
      · rw [hraft hne]
        exact ih (h.perform hne) hrest
      · simp only [not_forall, not_not] at hne
        obtain ⟨batch, rfl⟩ := hne
        obtain ⟨responses, store', hok⟩ := hop batch rfl
        have hperform : store.perform (.applyToStateMachine batch) = store' := by
          rw [DbStore.perform, hok]
        have hstep := h.apply hok
        rw [← hperform] at hstep
        have := ih hstep hrest
        rwa [List.append_assoc] at this

/-- The data of a node is what its applied entries make of the empty database. -/
theorem hasApplied_of_run {ops : List Operation} (hops : AllAnswered DbStore.blank ops) :
    HasApplied (DbStore.blank.performAll ops) (appliedEntries ops) :=
  hasApplied_performAll .blank hops

/-- A new node answers a batch whose commands succeed. -/
theorem allAnswered_batch {entries : List DbEntry}
    (h : Succeeds Keyspace.empty (commands entries)) :
    AllAnswered DbStore.blank [.applyToStateMachine entries] := by
  refine ⟨fun entries' hentries => ?_, trivial⟩
  obtain rfl := Operation.applyToStateMachine.inj hentries
  obtain ⟨responses, -, hok⟩ := DbStore.blank.applyToStateMachine_ok h
  exact ⟨responses, _, hok⟩

end InfoVulcan.Db
