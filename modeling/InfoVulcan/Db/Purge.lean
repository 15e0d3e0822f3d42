import InfoVulcan.Db.RaftLog

/-!
# Purges that a crash interrupts

A purge makes two durable writes: it removes entries from the log tree, as one batch, and then it
records the purge point in another tree. A node that is reopened after the first write alone finds a
log that starts later than before, and the old purge point. No entry is missing then only if the
old purge point covers what was removed (`reopensWithoutHole_iff`).
-/

namespace InfoVulcan.Db.LogTree

open Raft

variable {D : Type}

/-! ## Logs without holes -/

/-- The least index of a log. -/
def IsFirst (log : UInt64 → Option (Entry D)) (first : UInt64) : Prop :=
  log first ≠ none ∧ ∀ i, log i ≠ none → first ≤ i

/-- The indexes of a log follow each other. -/
def Contiguous (log : UInt64 → Option (Entry D)) : Prop :=
  ∀ i j k, log i ≠ none → log k ≠ none → i ≤ j → j ≤ k → log j ≠ none

/-- The index is covered by the purge point. -/
def Covers (lastPurged : Option LogId) (i : UInt64) : Prop :=
  ∃ purged, lastPurged = some purged ∧ i ≤ purged.index

/-- A log that was read from disk starts where it did before, or right after the purge point, and
the purge point covers what it has lost. -/
structure NoHole (before after : UInt64 → Option (Entry D)) (lastPurged : Option LogId) :
    Prop where
  starts : ∀ first, IsFirst after first →
    IsFirst before first ∨ ∃ purged, lastPurged = some purged ∧
      first.toNat = purged.index.toNat + 1
  missing : ∀ i, before i ≠ none → after i = none → Covers lastPurged i

/-- The log after a purge. -/
def purged (log : UInt64 → Option (Entry D)) (logId : LogId) : UInt64 → Option (Entry D) :=
  IndexedLog.perform index log (.purgeUpTo logId.index)

theorem purged_apply (log : UInt64 → Option (Entry D)) (logId : LogId) (i : UInt64) :
    purged log logId i = if i ≤ logId.index then none else log i :=
  rfl

/-- Every entry that a purge removes is covered by the purge point recorded before, and the entries
it leaves start right after that point. -/
def CoveredBefore (log : UInt64 → Option (Entry D)) (lastPurged : Option LogId) (logId : LogId) :
    Prop :=
  ∀ i, log i ≠ none → i ≤ logId.index → ∃ old, lastPurged = some old ∧ i ≤ old.index ∧
    ∀ first, IsFirst (purged log logId) first → first.toNat = old.index.toNat + 1

/-- In a log that lies above its purge point, only a purge that removes nothing is covered. -/
theorem coveredBefore_iff_of_above {log : UInt64 → Option (Entry D)} {lastPurged : Option LogId}
    {logId : LogId} (habove : ∀ i, log i ≠ none → ¬ Covers lastPurged i) :
    CoveredBefore log lastPurged logId ↔ ∀ i, i ≤ logId.index → log i = none := by
  constructor
  · intro h i hi
    by_contra hpresent
    obtain ⟨old, hold, hle, -⟩ := h i hpresent hi
    exact habove i hpresent ⟨old, hold, hle⟩
  · intro h i hpresent hi
    exact absurd (h i hi) hpresent

/-- Nothing is lost where nothing has been removed. -/
theorem NoHole.refl (log : UInt64 → Option (Entry D)) (lastPurged : Option LogId) :
    NoHole log log lastPurged where
  starts _ hfirst := Or.inl hfirst
  missing _ hpresent hmissing := absurd hmissing hpresent

/-- The entries that a purge leaves start where the log did, or right after the purge. -/
theorem isFirst_purged {log : UInt64 → Option (Entry D)} (hcontiguous : Contiguous log)
    {logId : LogId} {first : UInt64} (hfirst : IsFirst (purged log logId) first) :
    IsFirst log first ∨ first.toNat = logId.index.toNat + 1 := by
  obtain ⟨hpresent, hleast⟩ := hfirst
  rw [purged_apply] at hpresent
  have hbeyond : ¬ first ≤ logId.index := fun hle => hpresent (if_pos hle)
  rw [if_neg hbeyond] at hpresent
  by_cases hremoved : ∃ i, log i ≠ none ∧ i ≤ logId.index
  · -- The successor of the purge point lies between a removed entry and the first one left.
    obtain ⟨i, hi, hle⟩ := hremoved
    have hlt : logId.index.toNat < first.toNat :=
      Nat.lt_of_not_le fun hc => hbeyond (UInt64.le_iff_toNat_le.mpr hc)
    have hbound := first.toNat_lt
    let next := UInt64.ofNat (logId.index.toNat + 1)
    have hnext : next.toNat = logId.index.toNat + 1 := by
      rw [UInt64.toNat_ofNat']
      exact Nat.mod_eq_of_lt (by omega)
    have hbetween : log next ≠ none := by
      refine hcontiguous i next first hi hpresent ?_ ?_
      · rw [UInt64.le_iff_toNat_le, hnext]
        exact Nat.le_succ_of_le (UInt64.le_iff_toNat_le.mp hle)
      · rw [UInt64.le_iff_toNat_le, hnext]
        exact hlt
    have hkept : purged log logId next ≠ none := by
      rw [purged_apply, if_neg]
      · exact hbetween
      · rw [UInt64.le_iff_toNat_le, hnext]
        omega
    have hle' := UInt64.le_iff_toNat_le.mp (hleast next hkept)
    right
    omega
  · -- The purge removes nothing, and the log starts where it did.
    left
    refine ⟨hpresent, fun i hi => hleast i ?_⟩
    rw [purged_apply, if_neg fun hle => hremoved ⟨i, hi, hle⟩]
    exact hi

/-- With the new purge point recorded, a purge leaves no hole. -/
theorem noHole_purged {log : UInt64 → Option (Entry D)} (hcontiguous : Contiguous log)
    (logId : LogId) : NoHole log (purged log logId) (some logId) where
  starts first hfirst :=
    (isFirst_purged hcontiguous hfirst).imp_right fun h => ⟨logId, rfl, h⟩
  missing i hpresent hmissing := by
    refine ⟨logId, rfl, ?_⟩
    by_contra hbeyond
    rw [purged_apply, if_neg hbeyond] at hmissing
    exact hpresent hmissing

/-- With the old purge point, a purge leaves no hole exactly when that point covers it. -/
theorem noHole_purged_old_iff {log : UInt64 → Option (Entry D)} (lastPurged : Option LogId)
    (logId : LogId) :
    NoHole log (purged log logId) lastPurged ↔ CoveredBefore log lastPurged logId := by
  constructor
  · intro h i hpresent hi
    obtain ⟨old, hold, hle⟩ := h.missing i hpresent (if_pos hi)
    refine ⟨old, hold, hle, fun first hfirst => ?_⟩
    rcases h.starts first hfirst with hbefore | ⟨purged, hpurged, hnext⟩
    · -- The log does not start where it did: its first entry is gone.
      have hgone : ¬ first ≤ logId.index := fun hc => hfirst.1 (if_pos hc)
      exact absurd (UInt64.le_trans (hbefore.2 i hpresent) hi) hgone
    · rw [hold] at hpurged
      rw [Option.some.inj hpurged]
      exact hnext
  · intro h
    constructor
    · intro first hfirst
      by_cases hremoved : ∃ i, log i ≠ none ∧ i ≤ logId.index
      · obtain ⟨i, hpresent, hi⟩ := hremoved
        obtain ⟨old, hold, -, hnext⟩ := h i hpresent hi
        exact Or.inr ⟨old, hold, hnext first hfirst⟩
      · have hsame : purged log logId = log := by
          funext i
          rw [purged_apply]
          split
          next hi => exact (not_not.mp fun hpresent => hremoved ⟨i, hpresent, hi⟩).symm
          next => rfl
        exact Or.inl (hsame ▸ hfirst)
    · intro i hpresent hmissing
      have hi : i ≤ logId.index := by
        by_contra hbeyond
        rw [purged_apply, if_neg hbeyond] at hmissing
        exact hpresent hmissing
      obtain ⟨old, hold, hle, -⟩ := h i hpresent hi
      exact ⟨old, hold, hle⟩

/-! ## Cut points -/

/-- The formats in which a service keeps log, vote and purge point. -/
structure Formats (D : Type) where
  entry : Codec (Entry D)
  vote : Codec Vote
  logId : Codec LogId

/-- The trees of a database hold a log, a vote and a purge point. -/
structure Formats.Holds (formats : Formats D) (log : UInt64 → Option (Entry D))
    (vote : Option Vote) (lastPurged : Option LogId) (db : Sled) : Prop where
  log : LogTree.Holds formats.entry log db
  vote : db.at? (metadataCell KEY_VOTE) = vote.map formats.vote.encode
  lastPurged : db.at? (metadataCell KEY_LAST_PURGED) = lastPurged.map formats.logId.encode

/-- The databases that a crash during a purge can leave: before its durable writes, between them,
and after them. -/
def purgePoints (formats : Formats D) (db : Sled) (logId : LogId) : List Sled :=
  let removed := perform formats.entry db (.purgeUpTo logId.index)
  [db, removed, persistOptional formats.logId removed KEY_LAST_PURGED (some logId)]

/-- The database holds a log and a purge point that can be loaded and that leave no hole. -/
def ReopensWithoutHole (formats : Formats D) (load : Sled → Except String (Option LogId))
    (before : UInt64 → Option (Entry D)) (db : Sled) : Prop :=
  ∃ after lastPurged, LogTree.Holds formats.entry after db ∧ load db = .ok lastPurged ∧
    NoHole before after lastPurged

variable {formats : Formats D} {load : Sled → Except String (Option LogId)}
  {log : UInt64 → Option (Entry D)} {vote : Option Vote} {lastPurged : Option LogId} {db : Sled}

/-- The first durable write of a purge. -/
theorem Formats.Holds.removed (h : formats.Holds log vote lastPurged db) (logId : LogId) :
    formats.Holds (LogTree.purged log logId) vote lastPurged
      (perform formats.entry db (.purgeUpTo logId.index)) where
  log := h.log.perform _
  vote := (at_batchRemove_outside _ _ (by
    simp [metadataCell, TREE_RAFT_METADATA, TREE_RAFT_LOG])).trans h.vote
  lastPurged := (at_batchRemove_outside _ _ (by
    simp [metadataCell, TREE_RAFT_METADATA, TREE_RAFT_LOG])).trans h.lastPurged

/-- The second durable write of a purge. -/
theorem Formats.Holds.recorded (h : formats.Holds log vote lastPurged db) (logId : LogId) :
    formats.Holds log vote (some logId)
      (persistOptional formats.logId db KEY_LAST_PURGED (some logId)) where
  log := h.log.persist _ _ _
  vote := by
    rw [← h.vote]
    exact (Keyspace.at_put db _ _ _).trans (if_neg vote_ne_lastPurged.symm)
  lastPurged := (Keyspace.at_put db _ _ _).trans (if_pos rfl)

/-- A tree holds one log. -/
theorem Holds.unique {format : Codec (Entry D)} {log' : UInt64 → Option (Entry D)}
    (h : LogTree.Holds format log db) (h' : LogTree.Holds format log' db) : log = log' := by
  funext i
  have hsame := (h.entry i).symm.trans (h'.entry i)
  exact Option.map_injective (fun _ _ heq => format.encode_inj.mp heq) hsame

/-- What is loaded from a database that holds a log and a purge point. -/
theorem reopensWithoutHole_iff_noHole
    (hload : ∀ log vote lastPurged db, formats.Holds log vote lastPurged db →
      load db = .ok lastPurged)
    (h : formats.Holds log vote lastPurged db) (before : UInt64 → Option (Entry D)) :
    ReopensWithoutHole formats load before db ↔ NoHole before log lastPurged := by
  constructor
  · rintro ⟨after, loaded, hafter, hloaded, hnohole⟩
    obtain rfl := hafter.unique h.log
    obtain rfl := Except.ok.inj (hloaded.symm.trans (hload _ _ _ _ h))
    exact hnohole
  · exact fun hnohole => ⟨log, lastPurged, h.log, hload _ _ _ _ h, hnohole⟩

/-- Wherever a purge is cut off, the node that is reopened finds no hole, exactly when the old purge
point covers what the purge removes. -/
theorem reopensWithoutHole_iff
    (hload : ∀ log vote lastPurged db, formats.Holds log vote lastPurged db →
      load db = .ok lastPurged)
    (h : formats.Holds log vote lastPurged db) (hcontiguous : Contiguous log) (logId : LogId) :
    (∀ point ∈ purgePoints formats db logId, ReopensWithoutHole formats load log point) ↔
      CoveredBefore log lastPurged logId := by
  have hremoved := h.removed logId
  have hrecorded := hremoved.recorded logId
  unfold purgePoints
  rw [List.forall_mem_cons, List.forall_mem_cons, List.forall_mem_singleton,
    reopensWithoutHole_iff_noHole hload h, reopensWithoutHole_iff_noHole hload hremoved,
    reopensWithoutHole_iff_noHole hload hrecorded, noHole_purged_old_iff]
  constructor
  · exact fun hall => hall.2.1
  · exact fun hcovered => ⟨NoHole.refl _ _, hcovered, noHole_purged hcontiguous logId⟩

end InfoVulcan.Db.LogTree
