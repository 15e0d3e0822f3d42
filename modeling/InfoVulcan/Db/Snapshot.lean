import InfoVulcan.Db.DataTrees
import InfoVulcan.Db.Json

/-!
# Snapshots and catching up

A snapshot lists every binding of the state-machine trees (`mem_snapshotTrees`), and installing
one adds those bindings to whatever the receiver holds (`at_restore`). Nothing is cleared first,
so a receiver catches up exactly when it holds no key that the sender has dropped
(`catchesUp_iff`).
-/

namespace InfoVulcan.Db

open Raft

/-! ## Reading -/

/-- A snapshot of a tree lists its bindings. -/
theorem mem_snapshotTree {db : Sled} {tree n : String} {k v : Bytes} :
    (n, k, v) ∈ snapshotTree db tree ↔ n = tree ∧ db.at? ⟨tree, k⟩ = some v := by
  rw [snapshotTree, List.mem_map]
  constructor
  · rintro ⟨⟨k', v'⟩, hkv, heq⟩
    obtain ⟨rfl, rfl, rfl⟩ := heq
    exact ⟨rfl, Keyspace.mem_scan.mp hkv⟩
  · rintro ⟨rfl, hkv⟩
    exact ⟨(k, v), Keyspace.mem_scan.mpr hkv, rfl⟩

/-- The trees that are listed include every state-machine tree with a binding. -/
theorem mem_dataTreeNames {db : Sled} {n : String} :
    n ∈ dataTreeNames db ↔ n ∉ skippedTrees ∧ ∃ k v, db.at? ⟨n, k⟩ = some v := by
  rw [dataTreeNames, List.mem_filter, Keyspace.mem_spaces]
  simp [and_comm, Keyspace.get]

/-- A snapshot of all state-machine trees lists all bindings of data cells. -/
theorem mem_snapshotTrees {db : Sled} {c : SledCell} {v : Bytes} :
    (c.space, c.key, v) ∈ snapshotTrees db (dataTreeNames db) ↔
      IsData c ∧ db.at? c = some v := by
  rw [snapshotTrees, List.mem_flatMap]
  constructor
  · rintro ⟨tree, htree, hmem⟩
    obtain ⟨rfl, hv⟩ := mem_snapshotTree.mp hmem
    exact ⟨(mem_dataTreeNames.mp htree).1, hv⟩
  · rintro ⟨hdata, hv⟩
    exact ⟨c.space, mem_dataTreeNames.mpr ⟨hdata, c.key, v, hv⟩, mem_snapshotTree.mpr ⟨rfl, hv⟩⟩

/-! ## Restoring -/

/-- The list holds exactly the data bindings of the database. -/
def Captures (data : SnapshotData) (db : Sled) : Prop :=
  ∀ (c : SledCell) v, (c.space, c.key, v) ∈ data ↔ IsData c ∧ db.at? c = some v

theorem restore_eq (db : Sled) (data : SnapshotData) :
    restore db data = db.applyWrites (data.map fun b => .put ⟨b.1, b.2.1⟩ b.2.2) := by
  rw [restore, Keyspace.applyWrites, List.foldl_map]
  rfl

/-- Restoring a capture sets the cells the sender holds and leaves all others. -/
theorem at_restore {data : SnapshotData} {sender : Sled} (h : Captures data sender) (db : Sled)
    (c : SledCell) :
    (restore db data).at? c =
      if IsData c ∧ (sender.at? c).isSome then sender.at? c else db.at? c := by
  have hcontent : ∀ w ∈ data.map fun b => (.put ⟨b.1, b.2.1⟩ b.2.2 : SledWrite),
      w.value = sender.at? w.cell := by
    intro w hw
    obtain ⟨⟨n, k, v⟩, hb, rfl⟩ := List.mem_map.mp hw
    exact ((h ⟨n, k⟩ v).mp hb).2.symm
  rw [restore_eq, Keyspace.at_applyWrites, lastWrite_of_content hcontent, List.map_map]
  have hmem : c ∈ data.map (Write.cell ∘ fun b => (.put ⟨b.1, b.2.1⟩ b.2.2 : SledWrite)) ↔
      IsData c ∧ (sender.at? c).isSome := by
    rw [List.mem_map]
    constructor
    · rintro ⟨⟨n, k, v⟩, hb, rfl⟩
      obtain ⟨hdata, hv⟩ := (h ⟨n, k⟩ v).mp hb
      exact ⟨hdata, Option.isSome_iff_exists.mpr ⟨v, hv⟩⟩
    · rintro ⟨hdata, hsome⟩
      obtain ⟨v, hv⟩ := Option.isSome_iff_exists.mp hsome
      exact ⟨(c.space, c.key, v), (h c v).mpr ⟨hdata, hv⟩, rfl⟩
  simp only [hmem]
  split <;> rfl

/-- After restoring a capture, the data is the sender's exactly when no key was held that the
sender does not hold. -/
theorem restore_agrees_iff {data : SnapshotData} {sender : Sled} (h : Captures data sender)
    (db : Sled) :
    AgreeOnData (restore db data) sender ↔
      ∀ c, IsData c → (db.at? c).isSome → (sender.at? c).isSome := by
  constructor
  · intro hagree c hc hsome
    by_contra hnone
    have := hagree c hc
    rw [at_restore h, if_neg fun hand => hnone hand.2] at this
    exact hnone (this ▸ hsome)
  · intro hkeys c hc
    rw [at_restore h]
    split
    case isTrue => rfl
    case isFalse hnot =>
        have hsender : sender.at? c = none := by
          simpa [hc] using hnot
        rw [hsender]
        by_contra hdb
        have := hkeys c hc (Option.isSome_iff_ne_none.mpr hdb)
        simp [hsender] at this

variable [RowFormat] [RaftFormat]

omit [RowFormat] in
/-- Installing an encoded capture restores it and moves to its position. -/
theorem installSnapshot_encode (store : DbStore) (snapshotMeta : SnapshotMeta)
    (data : SnapshotData) :
    store.installSnapshot snapshotMeta (RaftFormat.snapshot.encode data) =
      (.ok (), { store with
        storage := restore store.storage data
        stateMachine := ⟨snapshotMeta.lastLogId, snapshotMeta.lastMembership⟩ }) := by
  simp [DbStore.installSnapshot]

omit [RowFormat] in
/-- The receiver installs the sender's snapshot and then holds the sender's data and reports the
log's last entry. -/
def CatchesUp (sender receiver : DbStore) (log : List DbEntry) : Prop :=
  let sent := sender.getSnapshotBuilder.buildSnapshot sender.storage
  ∃ receiver', receiver.installSnapshot sent.snapshotMeta sent.snapshot = (.ok (), receiver') ∧
    AgreeOnData receiver'.storage sender.storage ∧
    receiver'.stateMachine.lastAppliedLog = lastLogIdOf none log

omit [RowFormat] in
/-- Catching up is a matter of the data the restored snapshot leaves. -/
theorem catchesUp_iff_agree {sender receiver : DbStore} {log : List DbEntry}
    (hposition : sender.stateMachine.lastAppliedLog = lastLogIdOf none log) :
    CatchesUp sender receiver log ↔
      AgreeOnData
        (restore receiver.storage (snapshotTrees sender.storage (dataTreeNames sender.storage)))
        sender.storage := by
  simp only [CatchesUp, DbSnapshotBuilder.buildSnapshot, installSnapshot_encode]
  constructor
  · rintro ⟨receiver', hinstall, hagree, -⟩
    obtain ⟨-, rfl⟩ := Prod.mk.inj hinstall
    exact hagree
  · intro hagree
    exact ⟨_, rfl, hagree, hposition⟩

/-- A node catches up by snapshot exactly when it holds no key in a state-machine tree that the
sender does not hold. The node may have applied anything, in particular a prefix of the sender's
log. -/
theorem catchesUp_iff {sent received : List Operation}
    (hsent : AllAnswered DbStore.blank sent) :
    CatchesUp (DbStore.blank.performAll sent) (DbStore.blank.performAll received)
        (appliedEntries sent) ↔
      ∀ c, IsData c → ((DbStore.blank.performAll received).storage.at? c).isSome →
        ((DbStore.blank.performAll sent).storage.at? c).isSome := by
  rw [catchesUp_iff_agree (hasApplied_of_run hsent).lastAppliedLog,
    restore_agrees_iff fun c v => mem_snapshotTrees]

end InfoVulcan.Db

/-! ## Runs on the JSON formats -/

namespace InfoVulcan.Db

open scoped SerdeJson

/-- A client writes a value. -/
def putFirst : DbEntry :=
  committedAt 1 (.put "c" [1] [1])

/-- A client deletes the value. -/
def deleteSecond : DbEntry :=
  committedAt 2 (.delete "c" [1])

theorem answered_put_delete :
    AllAnswered DbStore.blank [.applyToStateMachine [putFirst, deleteSecond]] :=
  allAnswered_batch ⟨⟨_, rfl⟩, ⟨_, rfl⟩, trivial⟩

/-- A client writes to a second tree. -/
def putSecond : DbEntry :=
  committedAt 2 (.put "d" [1] [2])

theorem at_putFirst (c : SledCell) :
    (Keyspace.empty.put ⟨"c", [1]⟩ [1] : Sled).at? c =
      if ⟨"c", [1]⟩ = c then some [1] else none := by
  rw [Keyspace.at_put, Keyspace.at_empty]

/-- A node with two trees. -/
def storingTwo : List Operation :=
  [.applyToStateMachine [putFirst, putSecond]]

theorem at_storingTwo (c : SledCell) :
    (DbStore.blank.performAll storingTwo).storage.at? c =
      if ⟨"d", [1]⟩ = c then some [2] else if ⟨"c", [1]⟩ = c then some [1] else none := by
  show ((Keyspace.empty.put ⟨"c", [1]⟩ [1]).put ⟨"d", [1]⟩ [2] : Sled).at? c = _
  rw [Keyspace.at_put, at_putFirst]

theorem answered_storingTwo : AllAnswered DbStore.blank storingTwo :=
  allAnswered_batch ⟨⟨_, rfl⟩, ⟨_, rfl⟩, trivial⟩

/-- A node that has applied the first entry holds no key that the node with two trees lacks. -/
theorem held_of_putFirst {c : SledCell} (hheld : ((DbStore.blank.performAll
      [.applyToStateMachine [putFirst]]).storage.at? c).isSome) :
    ((DbStore.blank.performAll storingTwo).storage.at? c).isSome := by
  have hfirst : (DbStore.blank.performAll [.applyToStateMachine [putFirst]]).storage.at? c =
      if ⟨"c", [1]⟩ = c then some [1] else none := at_putFirst c
  rw [hfirst] at hheld
  split at hheld
  case isTrue hc =>
      subst hc
      rw [at_storingTwo]
      rfl
  case isFalse => cases hheld

/-- A node that has applied the first of two writes catches up. -/
theorem catchesUp_of_prefix :
    CatchesUp (DbStore.blank.performAll storingTwo)
      (DbStore.blank.performAll [.applyToStateMachine [putFirst]]) [putFirst, putSecond] :=
  (catchesUp_iff answered_storingTwo).mpr fun _ _ hheld => held_of_putFirst hheld

/-- A node that has applied the write, but not the deletion, does not catch up. -/
theorem deleted_key_survives_snapshot :
    ¬ CatchesUp (DbStore.blank.performAll [.applyToStateMachine [putFirst, deleteSecond]])
      (DbStore.blank.performAll [.applyToStateMachine [putFirst]]) [putFirst, deleteSecond] := by
  have hposition := (hasApplied_of_run answered_put_delete).lastAppliedLog
  intro hcatches
  have hkeys := (restore_agrees_iff (fun c v => mem_snapshotTrees) _).mp
    ((catchesUp_iff_agree hposition).mp hcatches)
  have hheld := hkeys ⟨"c", [1]⟩ (by decide)
  simp [DbStore.performAll, DbStore.perform, DbStore.applyToStateMachine, DbStore.applyLoop,
    DbStore.applyEntry, DbStateMachine.apply, putFirst, deleteSecond, committedAt,
    LogEntry.apply, Db.put, Db.delete, Keyspace.at_put, Keyspace.at_remove] at hheld

end InfoVulcan.Db
