import InfoVulcan.Db.Snapshot
import InfoVulcan.Library.Machine

/-!
# Taking a snapshot while entries are applied

The snapshot task captures the position of the state machine first, lists the trees later, and
then reads one tree after another, while the node keeps applying entries. The snapshot is the
state at the captured position as long as no entry writes to a tree between the capture and the
reading of that tree (`snapshot_point_in_time`). A node that installs it goes on from there if it
holds no key that this state lacks.
-/

namespace InfoVulcan.Db

open Raft

/-- A node with a snapshot task under way. Before the trees are listed nothing is pending. -/
structure SnapshotTask where
  store : DbStore
  builder : DbSnapshotBuilder
  pending : Option (List String)
  done : List String
  data : SnapshotData

/-- A step of the node or of its snapshot task. -/
inductive SnapshotEvent where
  | perform (op : Operation)
  | listTrees (names : List String)
  | readTree

/-- The task just after the state was captured. -/
def SnapshotTask.begin (store : DbStore) : SnapshotTask where
  store := store
  builder := store.getSnapshotBuilder
  pending := none
  done := []
  data := []

/-- The listing names every state-machine tree with a binding once. It may also name trees that
have been opened and hold nothing, and it is in no particular order. -/
def ListsTrees (db : Sled) (names : List String) : Prop :=
  names.Nodup ∧ dataTreeNames db ⊆ names ∧ ∀ n ∈ names, n ∉ skippedTrees

instance (db : Sled) (names : List String) : Decidable (ListsTrees db names) :=
  inferInstanceAs (Decidable (_ ∧ _ ∧ _))

variable [RowFormat] [RaftFormat]

/-- One step. A node whose state machine reports an error is stopped. -/
def SnapshotTask.step (task : SnapshotTask) : SnapshotEvent → Option SnapshotTask
  | .perform (.applyToStateMachine batch) =>
      match task.store.applyToStateMachine batch with
      | (.ok _, store) => some { task with store }
      | (.error _, _) => none
  | .perform op => some { task with store := task.store.perform op }
  | .listTrees names =>
      if task.pending = none ∧ ListsTrees task.store.storage names then
        some { task with pending := some names }
      else none
  | .readTree =>
      match task.pending with
      | some (name :: names) =>
          some { task with
            pending := some names
            done := task.done ++ [name]
            data := task.data ++ snapshotTree task.store.storage name }
      | _ => none

/-- A batch that is answered changes the store of the node only. -/
theorem SnapshotTask.step_apply {task : SnapshotTask} {batch : List DbEntry}
    {responses : List DbResponse} {store : DbStore}
    (h : task.store.applyToStateMachine batch = (.ok responses, store)) :
    task.step (.perform (.applyToStateMachine batch)) = some { task with store } := by
  rw [SnapshotTask.step, h]

/-- Listing the trees, once. -/
theorem SnapshotTask.step_listTrees {task : SnapshotTask} {names : List String}
    (hpending : task.pending = none) (hnames : ListsTrees task.store.storage names) :
    task.step (.listTrees names) = some { task with pending := some names } :=
  if_pos ⟨hpending, hnames⟩

omit [RowFormat] in
/-- The snapshot of a task that has read every tree. -/
def SnapshotTask.snapshot (task : SnapshotTask) : Snapshot where
  snapshotMeta := task.builder.snapshotMeta
  snapshot := RaftFormat.snapshot.encode task.data

omit [RowFormat] [RaftFormat] in
/-- The step writes to no state-machine tree that the task has still to read. -/
def Undisturbed (task : SnapshotTask) (event : SnapshotEvent) : Prop :=
  ∀ batch, event = .perform (.applyToStateMachine batch) →
    ∀ e ∈ commands batch, ∀ tree ∈ e.trees, tree ∈ task.done ∨ tree ∈ skippedTrees

/-- The invariant of an undisturbed task: what has been read is what the trees held at the capture,
and every tree still to be read holds it yet. -/
structure Capturing (base : Sled) (builder : DbSnapshotBuilder) (task : SnapshotTask) : Prop where
  builder_eq : task.builder = builder
  untouched : ∀ c, IsData c → c.space ∉ task.done → task.store.storage.at? c = base.at? c
  data : ∀ (c : SledCell) v, (c.space, c.key, v) ∈ task.data ↔
    IsData c ∧ c.space ∈ task.done ∧ base.at? c = some v
  start : task.pending = none → task.done = []
  nodup : ∀ names, task.pending = some names → (task.done ++ names).Nodup
  isData : ∀ names, task.pending = some names → ∀ n ∈ names, n ∉ skippedTrees
  covers : ∀ names, task.pending = some names →
    ∀ c, IsData c → (base.at? c).isSome → c.space ∈ task.done ∨ c.space ∈ names

namespace Capturing

variable {base : Sled} {builder : DbSnapshotBuilder} {task task' : SnapshotTask}

omit [RowFormat] [RaftFormat] in
theorem begin (store : DbStore) :
    Capturing store.storage store.getSnapshotBuilder (SnapshotTask.begin store) where
  builder_eq := rfl
  untouched c _ _ := rfl
  data c v := by simp [SnapshotTask.begin]
  start _ := rfl
  nodup names h := by cases h
  isData names h := by cases h
  covers names h := by cases h

omit [RowFormat] [RaftFormat] in
/-- A change of the store that spares the trees still to be read. -/
theorem withStore (h : Capturing base builder task) {store : DbStore}
    (hstore : ∀ c, IsData c → c.space ∉ task.done →
      store.storage.at? c = task.store.storage.at? c) :
    Capturing base builder { task with store } where
  builder_eq := h.builder_eq
  untouched c hc hdone := (hstore c hc hdone).trans (h.untouched c hc hdone)
  data := h.data
  start := h.start
  nodup := h.nodup
  isData := h.isData
  covers := h.covers

omit [RowFormat] [RaftFormat] in
/-- Listing the trees. -/
theorem listTrees (h : Capturing base builder task) {names : List String}
    (hpending : task.pending = none) (hnames : ListsTrees task.store.storage names) :
    Capturing base builder { task with pending := some names } where
  builder_eq := h.builder_eq
  untouched := h.untouched
  data := h.data
  start hnone := by cases hnone
  nodup names' hnames' := by
    cases hnames'
    rw [h.start hpending]
    exact hnames.1
  isData names' hnames' := by
    cases hnames'
    exact hnames.2.2
  covers names' hnames' c hc hsome := by
    cases hnames'
    obtain ⟨v, hv⟩ := Option.isSome_iff_exists.mp hsome
    have hdone : c.space ∉ task.done := by simp [h.start hpending]
    rw [← h.untouched c hc hdone] at hv
    exact .inr (hnames.2.1 (mem_dataTreeNames.mpr ⟨hc, c.key, v, hv⟩))

omit [RowFormat] [RaftFormat] in
/-- Reading one tree. -/
theorem readTree (h : Capturing base builder task) {name : String} {names : List String}
    (hpending : task.pending = some (name :: names)) :
    Capturing base builder { task with
      pending := some names
      done := task.done ++ [name]
      data := task.data ++ snapshotTree task.store.storage name } where
  builder_eq := h.builder_eq
  untouched c hc hdone :=
    h.untouched c hc fun hmem => hdone (List.mem_append_left _ hmem)
  data c v := by
    have hnodup := h.nodup _ hpending
    -- No tree is read twice, so this one is still as it was at the beginning.
    have hfresh : name ∉ task.done := fun hmem =>
      (List.nodup_append.mp hnodup).2.2 name hmem name List.mem_cons_self rfl
    have hname := h.isData _ hpending name List.mem_cons_self
    have hread : (c.space, c.key, v) ∈ snapshotTree task.store.storage name ↔
        IsData c ∧ c.space = name ∧ base.at? c = some v := by
      rw [mem_snapshotTree]
      constructor
      · rintro ⟨rfl, hv⟩
        rw [h.untouched _ hname hfresh] at hv
        exact ⟨hname, rfl, hv⟩
      · rintro ⟨hc, rfl, hv⟩
        refine ⟨rfl, ?_⟩
        rw [h.untouched _ hc hfresh]
        exact hv
    rw [List.mem_append, h.data c v, hread, List.mem_append, List.mem_singleton]
    tauto
  start hnone := by cases hnone
  nodup names' hnames' := by
    cases hnames'
    simpa using h.nodup _ hpending
  isData names' hnames' := by
    cases hnames'
    exact fun n hn => h.isData _ hpending n (List.mem_cons_of_mem _ hn)
  covers names' hnames' c hc hsome := by
    cases hnames'
    rcases h.covers _ hpending c hc hsome with hdone | hmem
    · exact .inl (List.mem_append_left _ hdone)
    · rcases List.mem_cons.mp hmem with rfl | hmem
      · exact .inl (List.mem_append_right _ (List.mem_singleton.mpr rfl))
      · exact .inr hmem

/-- An undisturbed step keeps the invariant. -/
theorem step (h : Capturing base builder task) {event : SnapshotEvent}
    (hok : Undisturbed task event) (hstep : task.step event = some task') :
    Capturing base builder task' := by
  cases event with
  | perform op =>
      -- Only an application of entries writes to the trees of the snapshot.
      by_cases hop : ∀ batch, op ≠ .applyToStateMachine batch
      · have htask : task' = { task with store := task.store.perform op } := by
          cases op with
          | applyToStateMachine batch => exact absurd rfl (hop batch)
          | _ => exact (Option.some.inj hstep).symm
        rw [htask]
        refine h.withStore fun c hc _ => at_perform_outside _ hop ?_ ?_ <;>
          exact fun he => hc (by rw [he]; decide)
      · simp only [not_forall, not_not] at hop
        obtain ⟨batch, rfl⟩ := hop
        rw [SnapshotTask.step] at hstep
        split at hstep
        case h_1 responses store happly =>
            obtain rfl := Option.some.inj hstep
            refine h.withStore fun c hc hdone => ?_
            rw [DbStore.store_of_ok happly]
            refine at_applyAll_outside _ fun e he htree => ?_
            rcases hok batch rfl e he c.space htree with hmem | hmem
            · exact hdone hmem
            · exact hc hmem
        case h_2 => cases hstep
  | listTrees names =>
      rw [SnapshotTask.step] at hstep
      split at hstep
      case isTrue hguard =>
          obtain rfl := Option.some.inj hstep
          exact h.listTrees hguard.1 hguard.2
      case isFalse => cases hstep
  | readTree =>
      rw [SnapshotTask.step] at hstep
      split at hstep
      case h_1 name names hpending =>
          obtain rfl := Option.some.inj hstep
          exact h.readTree hpending
      case h_2 => cases hstep

omit [RowFormat] [RaftFormat] in
/-- A task that has read every tree holds the data of the capture. -/
theorem captures (h : Capturing base builder task) (hdone : task.pending = some []) :
    Captures task.data base := by
  intro c v
  rw [h.data c v]
  constructor
  · rintro ⟨hc, -, hv⟩
    exact ⟨hc, hv⟩
  · rintro ⟨hc, hv⟩
    refine ⟨hc, ?_, hv⟩
    simpa using h.covers [] hdone c hc (by rw [hv]; rfl)

end Capturing

/-- The node installs the snapshot, and whatever entries may follow those up to its position, the
node answers them and has then applied every entry exactly once. -/
def ContinuesFrom (receiver : DbStore) (snapshot : Snapshot) (entries : List DbEntry) : Prop :=
  ∃ installed, receiver.installSnapshot snapshot.snapshotMeta snapshot.snapshot =
      (.ok (), installed) ∧
    ∀ later, Succeeds Keyspace.empty (commands (entries ++ later)) →
      ∃ responses final, installed.applyToStateMachine later = (.ok responses, final) ∧
        HasApplied final (entries ++ later)

omit [RaftFormat] in
/-- A node that has applied some entries goes on from there. -/
theorem HasApplied.continues {node : DbStore} {entries later : List DbEntry}
    (h : HasApplied node entries) (hlater : Succeeds Keyspace.empty (commands (entries ++ later))) :
    ∃ responses final, node.applyToStateMachine later = (.ok responses, final) ∧
      HasApplied final (entries ++ later) := by
  rw [commands, List.filterMap_append, succeeds_append] at hlater
  have hsucceeds : Succeeds node.storage (commands later) := (agree_succeeds h.data).mpr hlater.2
  obtain ⟨responses, -, hok⟩ := DbStore.applyToStateMachine_ok hsucceeds
  exact ⟨responses, _, hok, h.apply hok⟩

/-- A node goes on from a snapshot of the state after some entries exactly when it holds no key in
a state-machine tree that this state lacks. Installing clears nothing. -/
theorem continuesFrom_iff {sender : DbStore} {data : SnapshotData} {entries : List DbEntry}
    (hnode : HasApplied sender entries)
    (hcaptures : Captures data (applyAll Keyspace.empty (commands entries))) (receiver : DbStore) :
    ContinuesFrom receiver
        ⟨sender.getSnapshotBuilder.snapshotMeta, RaftFormat.snapshot.encode data⟩ entries ↔
      ∀ c, IsData c → (receiver.storage.at? c).isSome →
        ((applyAll Keyspace.empty (commands entries)).at? c).isSome := by
  rw [← restore_agrees_iff hcaptures]
  constructor
  case mp =>
    rintro ⟨installed, hinstall, hcontinues⟩
    rw [installSnapshot_encode] at hinstall
    obtain ⟨-, rfl⟩ := Prod.mk.inj hinstall
    -- To go on with no entry at all already shows what the receiver holds.
    obtain ⟨responses, final, hok, hfinal⟩ := hcontinues []
      (by rw [List.append_nil]; exact hnode.succeeds)
    rw [List.append_nil] at hfinal
    rw [DbStore.store_of_ok hok] at hfinal
    exact hfinal.data
  case mpr =>
    intro hagree
    have hinstalled : HasApplied
        { receiver with
          storage := restore receiver.storage data
          stateMachine := ⟨sender.getSnapshotBuilder.snapshotMeta.lastLogId,
            sender.getSnapshotBuilder.snapshotMeta.lastMembership⟩ } entries :=
      { succeeds := hnode.succeeds
        data := hagree
        position := hnode.position }
    exact ⟨_, installSnapshot_encode _ _ _, fun later hlater => hinstalled.continues hlater⟩

/-- If no entry applied while a snapshot is taken writes to a tree that is still to be read, the
finished snapshot is the state at the position in its metadata: its data is what the entries up
to that position make of the empty database. A node that installs it and goes on from there has
applied every entry exactly once, if it held no key that this state lacks, and only then. -/
theorem snapshot_point_in_time {before : List Operation} {events : List SnapshotEvent}
    {task : SnapshotTask} (hbefore : AllAnswered DbStore.blank before)
    (hrun : Run SnapshotTask.step Undisturbed
      (SnapshotTask.begin (DbStore.blank.performAll before)) events task)
    (hdone : task.pending = some []) :
    task.snapshot.snapshotMeta.lastLogId = lastLogIdOf none (appliedEntries before) ∧
      Captures task.data (applyAll Keyspace.empty (commands (appliedEntries before))) ∧
      ∀ receiver, ContinuesFrom receiver task.snapshot (appliedEntries before) ↔
        ∀ c, IsData c → (receiver.storage.at? c).isSome →
          ((applyAll Keyspace.empty (commands (appliedEntries before))).at? c).isSome := by
  have hnode := hasApplied_of_run hbefore
  have hcapturing := hrun.invariant (Capturing.begin _) fun h => h.step
  have hcaptures : Captures task.data
      (applyAll Keyspace.empty (commands (appliedEntries before))) := by
    intro c v
    rw [hcapturing.captures hdone c v]
    exact and_congr_right fun hc => by rw [hnode.data c hc]
  have hsnapshot : task.snapshot =
      ⟨(DbStore.blank.performAll before).getSnapshotBuilder.snapshotMeta,
        RaftFormat.snapshot.encode task.data⟩ := by
    rw [SnapshotTask.snapshot, hcapturing.builder_eq]
  rw [hsnapshot]
  exact ⟨hnode.lastAppliedLog, hcaptures, continuesFrom_iff hnode hcaptures⟩

end InfoVulcan.Db

/-! ## Runs on the JSON formats -/

namespace InfoVulcan.Db

open scoped SerdeJson

/-- A client writes to the first tree again. -/
def putThird : DbEntry :=
  committedAt 3 (.put "c" [2] [3])

/-- The third entry is applied between the reading of the two trees. It is not in the snapshot, and
a node that has applied the first entry only goes on from there. -/
theorem snapshot_point_in_time_between_reads :
    ∃ task, Run SnapshotTask.step Undisturbed
        (SnapshotTask.begin (DbStore.blank.performAll storingTwo))
        [.listTrees ["c", "d"], .readTree, .perform (.applyToStateMachine [putThird]), .readTree]
        task ∧
      task.snapshot.snapshotMeta.lastLogId = some putSecond.logId ∧
      Captures task.data (applyAll Keyspace.empty [.put "c" [1] [1], .put "d" [1] [2]]) ∧
      ContinuesFrom (DbStore.blank.performAll [.applyToStateMachine [putFirst]]) task.snapshot
        [putFirst, putSecond] := by
  have hlists : ListsTrees (DbStore.blank.performAll storingTwo).storage ["c", "d"] := by
    refine ⟨by decide, fun n hn => ?_, by decide⟩
    obtain ⟨-, k, v, hv⟩ := mem_dataTreeNames.mp hn
    rw [at_storingTwo] at hv
    split at hv
    case isTrue hc => simp [← (Cell.mk.inj hc).1]
    case isFalse =>
        split at hv
        case isTrue hc => simp [← (Cell.mk.inj hc).1]
        case isFalse => cases hv
  have hsucceeds : Succeeds (DbStore.blank.performAll storingTwo).storage (commands [putThird]) :=
    ⟨⟨_, rfl⟩, trivial⟩
  obtain ⟨responses, -, hok⟩ := DbStore.applyToStateMachine_ok hsucceeds
  have hlisted : Run SnapshotTask.step Undisturbed
      (SnapshotTask.begin (DbStore.blank.performAll storingTwo)) [.listTrees ["c", "d"]] _ :=
    Run.nil.snoc (fun _ h => by cases h) (SnapshotTask.step_listTrees rfl hlists)
  have hread := hlisted.snoc (e := .readTree) (fun _ h => by cases h) rfl
  have happlied := hread.snoc (e := .perform (.applyToStateMachine [putThird]))
    (fun batch h => by
      cases h
      exact by decide) (SnapshotTask.step_apply hok)
  have hfinished := happlied.snoc (e := .readTree) (fun _ h => by cases h) rfl
  obtain ⟨hposition, hcaptures, hcontinues⟩ :=
    snapshot_point_in_time answered_storingTwo hfinished rfl
  refine ⟨_, hfinished, hposition, hcaptures, (hcontinues _).mpr fun c _ hheld =>
    held_of_putFirst hheld⟩

/-- An entry that is applied after the position was captured and before the trees are read is in
the snapshot, but not up to its position. -/
theorem snapshot_contains_later_entry :
    ∃ task, Run SnapshotTask.step (fun _ _ => True)
        (SnapshotTask.begin (DbStore.blank.performAll []))
        [.perform (.applyToStateMachine [putFirst]), .listTrees ["c"], .readTree] task ∧
      task.pending = some [] ∧
      task.snapshot.snapshotMeta.lastLogId = lastLogIdOf none (appliedEntries []) ∧
      ¬ Captures task.data (applyAll Keyspace.empty (commands (appliedEntries []))) := by
  have hsucceeds : Succeeds DbStore.blank.storage (commands [putFirst]) := ⟨⟨_, rfl⟩, trivial⟩
  obtain ⟨responses, -, hok⟩ := DbStore.applyToStateMachine_ok hsucceeds
  have hat : ∀ c, (DbStore.blank.advance [putFirst]).storage.at? c =
      if ⟨"c", [1]⟩ = c then some [1] else none := at_putFirst
  have hlists : ListsTrees (DbStore.blank.advance [putFirst]).storage ["c"] := by
    refine ⟨by decide, fun n hn => ?_, by decide⟩
    obtain ⟨-, k, v, hv⟩ := mem_dataTreeNames.mp hn
    rw [hat] at hv
    split at hv
    case isTrue hc => exact List.mem_singleton.mpr (Cell.mk.inj hc).1.symm
    case isFalse => cases hv
  have happlied : Run SnapshotTask.step (fun _ _ => True)
      (SnapshotTask.begin (DbStore.blank.performAll []))
      [.perform (.applyToStateMachine [putFirst])] _ :=
    Run.nil.snoc trivial (SnapshotTask.step_apply hok)
  have hlisted := happlied.snoc trivial (SnapshotTask.step_listTrees rfl hlists)
  have hfinished := hlisted.snoc (e := .readTree) trivial rfl
  refine ⟨_, hfinished, rfl, rfl, fun hcaptures => ?_⟩
  have hread : ("c", [1], [1]) ∈ snapshotTree (DbStore.blank.advance [putFirst]).storage "c" :=
    mem_snapshotTree.mpr ⟨rfl, by rw [hat, if_pos rfl]⟩
  have hbase := ((hcaptures ⟨"c", [1]⟩ [1]).mp hread).2
  simp [appliedEntries, commands] at hbase

end InfoVulcan.Db
