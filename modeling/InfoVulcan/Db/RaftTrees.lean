import InfoVulcan.Db.Json
import InfoVulcan.Db.RaftLog
import InfoVulcan.Library.Machine

/-!
# Client commands and Raft's trees

Generic commands name the tree they write to, and nothing keeps that name away from Raft's own
trees. A command leaves those trees alone exactly when it is no generic write to one of them, or
writes what is there already (`raftKept_apply_iff`). In runs that contain such commands only,
Raft reads back what Raft has written.
-/

namespace InfoVulcan.Db

open Raft

/-- Raft's trees are the same in both databases. -/
def RaftKept (db db' : Sled) : Prop :=
  ∀ c : SledCell, c.space ∈ raftTrees → db'.at? c = db.at? c

/-- The command is no generic write to one of Raft's trees, unless it writes what is there. In a
batch the last pair with a key counts. -/
def LogEntry.SparesRaft (db : Sled) : LogEntry → Prop
  | .put collection key value => collection ∈ raftTrees → Db.get db collection key = some value
  | .delete collection key => collection ∈ raftTrees → Db.get db collection key = none
  | .batchPut collection pairs => collection ∈ raftTrees →
      ∀ key value, pairs.reverse.lookup key = some value → Db.get db collection key = some value
  | _ => True

/-- A batch leaves the last value given for a key. -/
theorem lastWrite_pairs (collection : String) (pairs : List (Bytes × Bytes)) (key : Bytes) :
    lastWrite (pairs.map fun kv => (.put ⟨collection, kv.1⟩ kv.2 : SledWrite)) ⟨collection, key⟩ =
      (pairs.reverse.lookup key).map some := by
  induction pairs with
  | nil => rfl
  | cons kv pairs ih =>
      rw [List.map_cons, ← List.singleton_append, lastWrite_append, ih, List.reverse_cons,
        List.lookup_append]
      have hone : lastWrite [(.put ⟨collection, kv.1⟩ kv.2 : SledWrite)] ⟨collection, key⟩ =
          (List.lookup key [kv]).map some := by
        by_cases hkey : key = kv.1
        · subst hkey
          simp [lastWrite, Write.cell, Write.value, List.lookup]
        · have hbeq : (key == kv.1) = false := beq_eq_false_iff_ne.mpr hkey
          simp [lastWrite, Write.cell, List.lookup, hbeq, Ne.symm hkey]
      rw [hone]
      cases List.lookup key pairs.reverse <;> rfl

/-- Domain commands write to no tree of Raft. -/
theorem domain_outside_raft {e : LogEntry} (he : e.genericTarget = none) :
    ∀ tree ∈ e.trees, tree ∉ raftTrees := by
  intro tree htree
  rcases e.trees_cases tree htree with hdomain | hgeneric
  · exact (by decide : ∀ tree ∈ domainTrees, tree ∉ raftTrees) tree hdomain
  · rw [he] at hgeneric
    cases hgeneric

variable [RowFormat]

/-- A command leaves Raft's trees as they are exactly when it spares them. -/
theorem raftKept_apply_iff (db : Sled) (e : LogEntry) :
    RaftKept db (e.apply db).2 ↔ e.SparesRaft db := by
  cases hgen : e.genericTarget with
  | none =>
      refine ⟨fun _ => by cases e <;> simp_all [LogEntry.genericTarget, LogEntry.SparesRaft],
        fun _ c hc => e.at_apply_outside db fun htree => domain_outside_raft hgen _ htree hc⟩
  | some collection =>
      -- Only cells of the named tree can change.
      have hother : ∀ c : SledCell, c.space ≠ collection → (e.apply db).2.at? c = db.at? c := by
        intro c hc
        refine e.at_apply_outside db ?_
        cases e <;> simp_all [LogEntry.genericTarget, LogEntry.trees]
      have hreduce : RaftKept db (e.apply db).2 ↔ (collection ∈ raftTrees →
          ∀ key, (e.apply db).2.at? ⟨collection, key⟩ = db.at? ⟨collection, key⟩) := by
        constructor
        · exact fun h hraft key => h ⟨collection, key⟩ hraft
        · intro h c hc
          by_cases hspace : c.space = collection
          · subst hspace
            exact h hc c.key
          · exact hother c hspace
      rw [hreduce]
      cases e with
      | put coll key value =>
          obtain rfl : coll = collection := Option.some.inj hgen
          refine forall_congr' fun _ => ⟨fun h => ?_, fun h k => ?_⟩
          · refine (h key).symm.trans ?_
            exact (Keyspace.at_put db _ _ _).trans (if_pos rfl)
          · refine (Keyspace.at_put db _ _ _).trans ?_
            split
            case isTrue hcell =>
                obtain rfl := (Cell.mk.inj hcell).2
                exact h.symm
            case isFalse => rfl
      | delete coll key =>
          obtain rfl : coll = collection := Option.some.inj hgen
          refine forall_congr' fun _ => ⟨fun h => ?_, fun h k => ?_⟩
          · refine (h key).symm.trans ?_
            exact (Keyspace.at_remove db _ _).trans (if_pos rfl)
          · refine (Keyspace.at_remove db _ _).trans ?_
            split
            case isTrue hcell =>
                obtain rfl := (Cell.mk.inj hcell).2
                exact h.symm
            case isFalse => rfl
      | batchPut coll pairs =>
          obtain rfl : coll = collection := Option.some.inj hgen
          refine forall_congr' fun _ => ?_
          have hat : ∀ key, ((LogEntry.batchPut coll pairs).apply db).2.at? ⟨coll, key⟩ =
              ((pairs.reverse.lookup key).map some).getD (db.at? ⟨coll, key⟩) := by
            intro key
            show (batchPut db coll pairs).at? _ = _
            rw [batchPut_eq, Keyspace.at_applyWrites, lastWrite_pairs]
          refine ⟨fun h key value hvalue => ?_, fun h key => ?_⟩
          · have := h key
            rw [hat, hvalue] at this
            exact this.symm
          · rw [hat]
            cases hvalue : pairs.reverse.lookup key with
            | none => rfl
            | some value => exact (h key value hvalue).symm
      | _ => cases hgen

/-! ## Runs -/

/-- Every command of a log spares Raft's trees when it is applied. -/
def SparesAll (db : Sled) : List LogEntry → Prop
  | [] => True
  | e :: log => e.SparesRaft db ∧ SparesAll (e.apply db).2 log

/-- Every command an operation applies spares Raft's trees. -/
def SparesStep (store : DbStore) (op : Operation) : Prop :=
  ∀ entries, op = .applyToStateMachine entries → SparesAll store.storage (commands entries)

theorem SparesAll.of_initial {db : Sled} {xs ys : List LogEntry} (h : SparesAll db ys)
    (hpre : xs <+: ys) : SparesAll db xs := by
  induction xs generalizing db ys with
  | nil => trivial
  | cons e xs ih =>
      obtain ⟨rest, rfl⟩ := hpre
      exact ⟨h.1, ih h.2 (List.prefix_append _ _)⟩

/-- Commands that spare Raft's trees leave them as they are. -/
theorem SparesAll.kept {db : Sled} {log : List LogEntry} (h : SparesAll db log) :
    RaftKept db (applyAll db log) := by
  induction log generalizing db with
  | nil => exact fun _ _ => rfl
  | cons e log ih =>
      exact fun c hc => (ih h.2 c hc).trans ((raftKept_apply_iff db e).mpr h.1 c hc)

variable [RaftFormat]

/-- A node takes every operation. -/
def DbStore.step (store : DbStore) (op : Operation) : Option DbStore :=
  some (store.perform op)

/-- A step that spares Raft's trees does to them what it does to Raft's state. -/
theorem Keeps.step {s : RaftState} {store store' : DbStore} {op : Operation} (h : Keeps s store)
    (hspares : SparesStep store op) (hstep : store.step op = some store') :
    Keeps (s.perform op) store' := by
  obtain rfl := Option.some.inj hstep
  by_cases hop : ∀ entries, op ≠ .applyToStateMachine entries
  · exact h.perform hop
  · simp only [not_forall, not_not] at hop
    obtain ⟨entries, rfl⟩ := hop
    obtain ⟨log, hpre, hstorage, hraft⟩ := store.applyLoop_storage [] entries
    have hkept := ((hspares entries rfl).of_initial hpre).kept
    rw [← hstorage] at hkept
    exact ⟨h.holds.congr hkept, hraft.trans h.loaded⟩

/-- What Raft reads from a store is the state `s`. -/
structure ReadsBack (s : RaftState) (store : DbStore) : Prop where
  metadata : RaftMetadata.new store.storage = .ok ⟨s.vote, s.lastPurged⟩
  vote : store.readVote = s.vote
  logState : ∃ lastLogId, store.getLogState = .ok ⟨lastLogId, s.lastPurged⟩ ∧
    IsLast s.log lastLogId
  entries : ∀ start stop, ∃ entries, tryGetLogEntries store.storage start stop = .ok entries ∧
    Ordered entries ∧ ∀ e, e ∈ entries ↔ InRange s.log start stop e

omit [RowFormat] in
theorem Keeps.readsBack {s : RaftState} {store : DbStore} (h : Keeps s store) :
    ReadsBack s store where
  metadata := h.holds.metadata
  vote := by rw [DbStore.readVote, h.loaded]
  logState := h.getLogState
  entries := h.holds.log.tryGetLogEntries

/-- A command leaves Raft's trees unchanged exactly when it is no generic write to one of them that
changes it. In every run whose commands are of that kind, Raft reads back the log, the vote and
the purge marker that its own operations have made. -/
theorem client_commands_spare_raft :
    (∀ (db : Sled) (e : LogEntry),
      RaftKept db (DbStateMachine.apply db e).2 ↔ e.SparesRaft db) ∧
    ∀ ops store, Run DbStore.step SparesStep DbStore.blank ops store →
      ReadsBack (RaftState.initial.performAll ops) store := by
  constructor
  · intro db e
    have hdb : (DbStateMachine.apply db e).2 = (e.apply db).2 := by
      rw [DbStateMachine.apply]
      cases e.apply db with
      | mk outcome storage => cases outcome <;> rfl
    rw [hdb, raftKept_apply_iff]
  · intro ops store hrun
    exact (hrun.simulates keeps_blank fun h hok hstep => h.step hok hstep).readsBack

end InfoVulcan.Db

/-! ## Runs on the JSON formats -/

namespace InfoVulcan.Db

open scoped SerdeJson

/-- A vote is read back after a ticket was created. -/
theorem client_commands_spare_raft_create :
    ReadsBack (RaftState.initial.performAll [.saveVote ⟨⟨1, 1⟩, true⟩,
        .applyToStateMachine [createFirst "a"]])
      (DbStore.blank.performAll [.saveVote ⟨⟨1, 1⟩, true⟩,
        .applyToStateMachine [createFirst "a"]]) := by
  have hsaved : Run DbStore.step SparesStep DbStore.blank [.saveVote ⟨⟨1, 1⟩, true⟩]
      (DbStore.blank.saveVote ⟨⟨1, 1⟩, true⟩) :=
    Run.nil.snoc (fun _ h => by cases h) rfl
  refine client_commands_spare_raft.2 _ _ (hsaved.snoc (fun entries h => ?_) rfl)
  cases h
  exact ⟨trivial, trivial⟩

/-- A client overwrites the saved vote with a generic write. -/
theorem put_overwrites_vote :
    ¬ RaftKept Keyspace.empty
      (DbStateMachine.apply Keyspace.empty (.put TREE_RAFT_METADATA KEY_VOTE [0])).2 := by
  intro hkept
  have hvote := hkept ⟨TREE_RAFT_METADATA, KEY_VOTE⟩ (by decide)
  simp [DbStateMachine.apply, LogEntry.apply, Db.put, Keyspace.at_put] at hvote

end InfoVulcan.Db
