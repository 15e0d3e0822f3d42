import InfoVulcan.Db.Application
import InfoVulcan.Library.IndexedLog

/-!
# A log in a tree

Both Raft services keep their log in one tree of the database, under the big-endian bytes of the
index, and differ in the commands of the entries only. `LogTree.Holds` relates the tree to the log
it stands for. Each write does to the tree what it does to the log (`Holds.perform`), and reading a
range gives the entries whose indexes lie between the two bounds as the machine computes them
(`Holds.read`), which are those in the range unless a bound wraps around (`within_iff`).
-/

namespace InfoVulcan.Db

open Raft

/-! ## Indexes -/

/-- The cell of the log entry at an index. -/
def logCell (index : UInt64) : SledCell :=
  ⟨TREE_RAFT_LOG, Bytes.ofU64 index⟩

theorem logCell_inj {i j : UInt64} : logCell i = logCell j ↔ i = j := by
  simp [logCell]

/-- Byte order of keys is the order of indexes. -/
theorem isGE_ofU64 (i j : UInt64) :
    (compare (Bytes.ofU64 i) (Bytes.ofU64 j)).isGE = decide (j ≤ i) := by
  rw [Bytes.compare_ofU64, Bool.eq_iff_iff, Nat.isGE_compare, decide_eq_true_iff,
    UInt64.le_iff_toNat_le]

/-- Byte order of keys is the order of indexes. -/
theorem isLE_ofU64 (i j : UInt64) :
    (compare (Bytes.ofU64 i) (Bytes.ofU64 j)).isLE = decide (i ≤ j) := by
  rw [Bytes.compare_ofU64, Bool.eq_iff_iff, Nat.isLE_compare, decide_eq_true_iff,
    UInt64.le_iff_toNat_le]

/-- The index lies in the range that two bounds denote. -/
def Within (start stop : Bound) (i : UInt64) : Prop :=
  (match start with
    | .included first => first ≤ i
    | .excluded before => before < i
    | .unbounded => True) ∧
  match stop with
  | .included last => i ≤ last
  | .excluded after => i < after
  | .unbounded => True

/-- The index lies in the range that the machine computes from two bounds. -/
def ScannedWithin (start stop : Bound) (i : UInt64) : Prop :=
  startIndex start ≤ i ∧ ∀ last ∈ endIndex stop, i ≤ last

/-- A bound wraps around: the range starts after the largest index, or ends before the least. -/
def Wraps (start stop : Bound) : Prop :=
  start = .excluded 18446744073709551615 ∨ stop = .excluded 0

/-- The range that is computed is the one that is meant, unless a bound wraps around. -/
theorem within_iff {start stop : Bound} (h : ¬ Wraps start stop) (i : UInt64) :
    Within start stop i ↔ ScannedWithin start stop i := by
  unfold Wraps at h
  push Not at h
  refine and_congr ?_ ?_
  · cases start with
    | included first => rfl
    | unbounded => simp [startIndex]
    | excluded before =>
        have hne : before ≠ 18446744073709551615 := fun hc => h.1 (by rw [hc])
        have hnext : (before + 1).toNat = before.toNat + 1 := by
          have hmax : before.toNat ≠ 18446744073709551615 := fun hc =>
            hne (UInt64.toNat_inj.mp hc)
          have hlt := before.toNat_lt
          rw [UInt64.toNat_add]
          exact Nat.mod_eq_of_lt (by simpa using by omega)
        simp only [startIndex, UInt64.lt_iff_toNat_lt, UInt64.le_iff_toNat_le, hnext]
        exact Iff.rfl
  · cases stop with
    | included last => simp [endIndex]
    | unbounded => simp [endIndex]
    | excluded after =>
        have hne : after ≠ 0 := fun hc => h.2 (by rw [hc])
        have hpos : after.toNat ≠ 0 := fun hc => hne (UInt64.toNat_inj.mp hc)
        have hprev : (after - 1).toNat = after.toNat - 1 := by
          rw [UInt64.toNat_sub_of_le]
          · rfl
          · rw [UInt64.le_iff_toNat_le]
            exact Nat.one_le_iff_ne_zero.mpr hpos
        simp only [endIndex, Option.mem_def, Option.some.injEq, forall_eq',
          UInt64.lt_iff_toNat_lt, UInt64.le_iff_toNat_le, hprev]
        omega

/-- Where a bound wraps around, no index is meant. -/
theorem not_within_of_wraps {start stop : Bound} (h : Wraps start stop) (i : UInt64) :
    ¬ Within start stop i := by
  rintro ⟨hstart, hstop⟩
  rcases h with rfl | rfl
  · have hlt : (18446744073709551615 : UInt64).toNat < i.toNat := UInt64.lt_iff_toNat_lt.mp hstart
    have hbound := i.toNat_lt
    have hmax : (18446744073709551615 : UInt64).toNat = 18446744073709551615 := rfl
    omega
  · exact absurd (UInt64.lt_iff_toNat_lt.mp hstop) (Nat.not_lt_zero _)

namespace LogTree

variable {D : Type} (format : Codec (Entry D))

/-! ## Writes -/

/-- The index of an entry. -/
def index (entry : Entry D) : UInt64 :=
  entry.logId.index

/-- The database after an operation on its log. -/
def perform (db : Sled) : IndexedLog.Operation UInt64 (Entry D) → Sled
  | .append entries => batchPut db TREE_RAFT_LOG
      (entries.map fun entry => (Bytes.ofU64 entry.logId.index, format.encode entry))
  | .truncateFrom first => batchRemove db TREE_RAFT_LOG
      ((rangeFrom db TREE_RAFT_LOG (Bytes.ofU64 first)).map Prod.fst)
  | .purgeUpTo last => batchRemove db TREE_RAFT_LOG
      ((rangeUpTo db TREE_RAFT_LOG (Bytes.ofU64 last)).map Prod.fst)

/-- The log tree holds the entries of a log. -/
structure Holds (log : UInt64 → Option (Entry D)) (db : Sled) : Prop where
  entry : ∀ i, db.at? (logCell i) = (log i).map format.encode
  keyed : ∀ key v, db.at? ⟨TREE_RAFT_LOG, key⟩ = some v → ∃ i, key = Bytes.ofU64 i
  index : ∀ i e, log i = some e → e.logId.index = i

namespace Holds

variable {format} {log : UInt64 → Option (Entry D)} {db db' : Sled}

theorem empty : Holds format (fun _ => none) Keyspace.empty where
  entry i := by simp
  keyed key v hv := by simp at hv
  index i e he := by simp at he

/-- Only the log tree matters. -/
theorem congr (h : Holds format log db)
    (hlog : ∀ key, db'.at? ⟨TREE_RAFT_LOG, key⟩ = db.at? ⟨TREE_RAFT_LOG, key⟩) :
    Holds format log db' where
  entry i := (hlog _).trans (h.entry i)
  keyed key v hv := h.keyed key v ((hlog key).symm.trans hv)
  index := h.index

/-- Metadata are outside the log tree. -/
theorem persist (h : Holds format log db) {α : Type} (codec : Codec α) (key : Bytes)
    (o : Option α) : Holds format log (persistOptional codec db key o) :=
  h.congr fun _ => at_persistOptional_outside _ _ _ _
    (by simp [TREE_RAFT_METADATA, TREE_RAFT_LOG])

/-- Storing one entry. -/
theorem put (h : Holds format log db) (e : Entry D) :
    Holds format (IndexedLog.store LogTree.index log e)
      (Db.put db TREE_RAFT_LOG (Bytes.ofU64 e.logId.index) (format.encode e)) where
  entry i := by
    refine (Keyspace.at_put db (logCell e.logId.index) (logCell i) _).trans ?_
    rw [IndexedLog.store, LogTree.index]
    by_cases hi : i = e.logId.index
    · subst hi
      simp
    · rw [if_neg fun hc => hi (logCell_inj.mp hc).symm, Function.update_of_ne hi, h.entry i]
  keyed key v hv := by
    replace hv := (Keyspace.at_put db (logCell e.logId.index) ⟨TREE_RAFT_LOG, key⟩ _).symm.trans hv
    by_cases hkey : key = Bytes.ofU64 e.logId.index
    · exact ⟨_, hkey⟩
    · rw [if_neg (by simpa [logCell, eq_comm] using hkey)] at hv
      exact h.keyed key v hv
  index i d hd := by
    rw [IndexedLog.store, LogTree.index] at hd
    by_cases hi : i = e.logId.index
    · subst hi
      rw [Function.update_self] at hd
      rw [← Option.some.inj hd]
    · rw [Function.update_of_ne hi] at hd
      exact h.index i d hd

/-- Storing a batch of entries. -/
theorem batchPut (h : Holds format log db) (entries : List (Entry D)) :
    Holds format (entries.foldl (IndexedLog.store LogTree.index) log)
      (batchPut db TREE_RAFT_LOG (entries.map fun entry =>
        (Bytes.ofU64 entry.logId.index, format.encode entry))) := by
  induction entries generalizing log db with
  | nil => exact h
  | cons e entries ih => exact ih (h.put e)

/-- Removing the stored keys that satisfy a condition. -/
theorem batchRemove (h : Holds format log db) (p : UInt64 → Bool) (q : Bytes → Bool)
    (hpq : ∀ i, q (Bytes.ofU64 i) = p i) :
    Holds format (fun i => if p i then none else log i)
      (batchRemove db TREE_RAFT_LOG
        (((Keyspace.scan db TREE_RAFT_LOG).filter fun kv => q kv.1).map Prod.fst)) := by
  have hat : ∀ key, (Db.batchRemove db TREE_RAFT_LOG
      (((Keyspace.scan db TREE_RAFT_LOG).filter fun kv => q kv.1).map Prod.fst)).at?
        ⟨TREE_RAFT_LOG, key⟩ = if q key then none else db.at? ⟨TREE_RAFT_LOG, key⟩ := by
    intro key
    have hmap : ∀ keys : List Bytes,
        keys.map (fun key => (.remove ⟨TREE_RAFT_LOG, key⟩ : SledWrite)) =
          (keys.map fun key => (⟨TREE_RAFT_LOG, key⟩ : SledCell)).map .remove :=
      fun keys => by rw [List.map_map]; rfl
    rw [batchRemove_eq, Keyspace.at_applyWrites, hmap, lastWrite_map_remove]
    by_cases hq : q key
    · rw [if_pos hq]
      cases hv : db.at? ⟨TREE_RAFT_LOG, key⟩ with
      | none => split <;> rfl
      | some v =>
          have hscan : (key, v) ∈ Keyspace.scan db TREE_RAFT_LOG := Keyspace.mem_scan.mpr hv
          rw [if_pos]
          · rfl
          · exact List.mem_map.mpr ⟨key, List.mem_map.mpr
              ⟨(key, v), List.mem_filter.mpr ⟨hscan, hq⟩, rfl⟩, rfl⟩
    · rw [if_neg hq, if_neg]
      · rfl
      · rintro hmem
        obtain ⟨key', hkey', heq⟩ := List.mem_map.mp hmem
        obtain ⟨kv, hkv, rfl⟩ := List.mem_map.mp hkey'
        obtain rfl : kv.1 = key := congrArg Cell.key heq
        exact hq (List.mem_filter.mp hkv).2
  constructor
  · intro i
    rw [logCell, hat, hpq, ← logCell, h.entry i]
    split <;> simp
  · intro key v hv
    rw [hat] at hv
    split at hv
    · cases hv
    · exact h.keyed key v hv
  · intro i e he
    split at he
    · cases he
    · exact h.index i e he

/-- An operation does to the tree what it does to the log. -/
theorem perform (h : Holds format log db) (op : IndexedLog.Operation UInt64 (Entry D)) :
    Holds format (IndexedLog.perform LogTree.index log op) (LogTree.perform format db op) := by
  cases op with
  | append entries => exact h.batchPut entries
  | truncateFrom first =>
      have hlog := h.batchRemove (fun i => decide (first ≤ i))
        (fun key => (compare key (Bytes.ofU64 first)).isGE) fun i => isGE_ofU64 i _
      simp only [decide_eq_true_eq] at hlog
      exact hlog
  | purgeUpTo last =>
      have hlog := h.batchRemove (fun i => decide (i ≤ last))
        (fun key => (compare key (Bytes.ofU64 last)).isLE) fun i => isLE_ofU64 i _
      simp only [decide_eq_true_eq] at hlog
      exact hlog

end Holds

/-! ## Reading -/

/-- The binding of an entry. -/
def binding (e : Entry D) : Bytes × Bytes :=
  (Bytes.ofU64 e.logId.index, format.encode e)

/-- Entries in strictly ascending index order. -/
def Ascending (entries : List (Entry D)) : Prop :=
  entries.Pairwise fun a b => a.logId.index < b.logId.index

/-- The log tree lists the entries of the log in index order. -/
theorem Holds.scan {format : Codec (Entry D)} {log : UInt64 → Option (Entry D)} {db : Sled}
    (h : Holds format log db) :
    ∃ entries, Keyspace.scan db TREE_RAFT_LOG = entries.map (binding format) ∧
      Ascending entries ∧ ∀ e, e ∈ entries ↔ log e.logId.index = some e := by
  have hform : ∀ kv ∈ Keyspace.scan db TREE_RAFT_LOG, ∃ e, binding format e = kv := by
    rintro ⟨key, v⟩ hkv
    have hv : db.at? ⟨TREE_RAFT_LOG, key⟩ = some v := Keyspace.mem_scan.mp hkv
    obtain ⟨i, rfl⟩ := h.keyed key v hv
    have hentry := h.entry i
    rw [logCell, hv] at hentry
    obtain ⟨e, he, rfl⟩ := Option.map_eq_some_iff.mp hentry.symm
    exact ⟨e, by rw [binding, h.index i e he]⟩
  obtain ⟨entries, hentries⟩ : ∃ entries : List (Entry D),
      entries.map (binding format) = Keyspace.scan db TREE_RAFT_LOG := by
    have hrange := Set.range_list_map (binding format : Entry D → Bytes × Bytes)
    exact (Set.ext_iff.mp hrange (Keyspace.scan db TREE_RAFT_LOG)).mpr hform
  refine ⟨entries, hentries.symm, ?_, fun e => ?_⟩
  · have hsorted := Keyspace.scan_sorted db TREE_RAFT_LOG
    rw [← hentries, List.pairwise_map] at hsorted
    refine hsorted.imp fun hlt => ?_
    rw [binding, binding, Bytes.compare_ofU64] at hlt
    exact UInt64.lt_iff_toNat_lt.mpr (Nat.compare_eq_lt.mp hlt)
  · have hmem : e ∈ entries ↔ binding format e ∈ Keyspace.scan db TREE_RAFT_LOG := by
      rw [← hentries, List.mem_map]
      refine ⟨fun he => ⟨e, he, rfl⟩, ?_⟩
      rintro ⟨d, hd, heq⟩
      rw [binding, binding, Prod.mk.injEq, Codec.encode_inj] at heq
      exact heq.2 ▸ hd
    have hcell : (Keyspace.get db TREE_RAFT_LOG (Bytes.ofU64 e.logId.index)) =
        (log e.logId.index).map format.encode := h.entry _
    rw [hmem, binding, Keyspace.mem_scan, hcell, Option.map_eq_some_iff]
    constructor
    · rintro ⟨d, hd, heq⟩
      rw [hd, format.encode_inj.mp heq]
    · exact fun he => ⟨e, he, rfl⟩

/-- The reading loop over the bindings of a log tree. -/
def readEntries (last : Option UInt64) :
    List (Bytes × Bytes) → List (Entry D) → Except StorageError (List (Entry D))
  | [], entries => .ok entries
  | (k, v) :: rest, entries =>
      match Bytes.toU64? k with
      | none => .error (logRead "invalid log key format: expected 8 bytes")
      | some index =>
          if last.any fun endIdx => endIdx < index then .ok entries
          else match format.decode v with
            | .error e => .error (logR ⟨⟨0, 0⟩, index⟩ e)
            | .ok entry => readEntries last rest (entries ++ [entry])

/-- The log entries in a range of indexes. -/
def read (db : Sled) (start stop : Bound) : Except StorageError (List (Entry D)) :=
  readEntries format (endIndex stop)
    (rangeFrom db TREE_RAFT_LOG (Bytes.ofU64 (startIndex start))) []

/-- The reading loop returns the entries up to the last index. -/
theorem readEntries_eq (last : Option UInt64) {entries : List (Entry D)}
    (hascending : Ascending entries) (acc : List (Entry D)) :
    readEntries format last (entries.map (binding format)) acc =
      .ok (acc ++ entries.filter fun e => !last.any fun endIdx => endIdx < e.logId.index) := by
  induction entries generalizing acc with
  | nil => simp [readEntries]
  | cons e entries ih =>
      obtain ⟨hfirst, hrest⟩ := List.pairwise_cons.mp hascending
      simp only [List.map_cons, binding, readEntries, Bytes.toU64_ofU64, Codec.decode_encode]
      by_cases hstop : last.any fun endIdx => endIdx < e.logId.index
      · -- Every later entry lies beyond the end as well.
        have hlater : ∀ d ∈ entries, (last.any fun endIdx => endIdx < d.logId.index) := by
          intro d hd
          obtain ⟨endIdx, rfl, hlt⟩ := (Option.any_eq_true _ _).mp hstop
          simp only [decide_eq_true_eq] at hlt
          simpa using UInt64.lt_trans hlt (hfirst d hd)
        have hnone : (e :: entries).filter
            (fun e => !last.any fun endIdx => endIdx < e.logId.index) = [] := by
          refine List.filter_eq_nil_iff.mpr fun d hd => ?_
          rcases List.mem_cons.mp hd with rfl | hd
          · simp [hstop]
          · simp [hlater d hd]
        rw [if_pos hstop, hnone, List.append_nil]
      · rw [if_neg hstop, ih hrest, List.filter_cons_of_pos (by simpa using hstop),
          List.append_assoc, List.singleton_append]

/-- Reading a range gives the entries of the log in the range that is computed. -/
theorem Holds.read {format : Codec (Entry D)} {log : UInt64 → Option (Entry D)} {db : Sled}
    (h : Holds format log db) (start stop : Bound) :
    ∃ entries, LogTree.read format db start stop = .ok entries ∧ Ascending entries ∧
      ∀ e, e ∈ entries ↔
        log e.logId.index = some e ∧ ScannedWithin start stop e.logId.index := by
  obtain ⟨all, hscan, hascending, hmem⟩ := h.scan
  have hrange : rangeFrom db TREE_RAFT_LOG (Bytes.ofU64 (startIndex start)) =
      (all.filter fun e => startIndex start ≤ e.logId.index).map (binding format) := by
    rw [rangeFrom, hscan, List.filter_map]
    congr 1
    exact List.filter_congr fun e _ => isGE_ofU64 _ _
  have hread := readEntries_eq format (endIndex stop)
    (hascending.filter fun e => startIndex start ≤ e.logId.index) []
  rw [← hrange, List.nil_append] at hread
  refine ⟨_, hread, (hascending.filter _).filter _, fun e => ?_⟩
  rw [List.mem_filter, List.mem_filter, hmem, ScannedWithin, and_assoc]
  cases endIndex stop <;> simp

/-! ## What is read after a list of calls -/

/-- A call that writes to the log of a store. -/
inductive Call (D : Type) where
  | appendToLog (entries : List (Entry D))
  | deleteConflictLogsSince (logId : LogId)
  | purgeLogsUpto (logId : LogId)

/-- What a call does to the log. -/
def Call.operation : Call D → IndexedLog.Operation UInt64 (Entry D)
  | .appendToLog entries => .append entries
  | .deleteConflictLogsSince logId => .truncateFrom logId.index
  | .purgeLogsUpto logId => .purgeUpTo logId.index

/-- The purge point that a call records. -/
def Call.purged? : Call D → Option LogId
  | .purgeLogsUpto logId => some logId
  | _ => none

/-- The log after some calls on an empty store. -/
def logAfter (calls : List (Call D)) : UInt64 → Option (Entry D) :=
  IndexedLog.contents index (calls.map Call.operation)

/-- The log tree after calls on an empty store, when each call does to the tree what it does to the
log. -/
theorem Holds.calls {S : Type} (storage : S → Sled) (step : S → Call D → S)
    {format : Codec (Entry D)} {s : S} (h : Holds format (fun _ => none) (storage s))
    (hstep : ∀ log s call, Holds format log (storage s) →
      Holds format (IndexedLog.perform LogTree.index log call.operation) (storage (step s call)))
    (calls : List (Call D)) : Holds format (logAfter calls) (storage (calls.foldl step s)) := by
  induction calls using List.reverseRecOn with
  | nil => exact h
  | append_singleton calls call ih =>
      rw [logAfter, List.map_append, IndexedLog.contents, List.foldl_append, List.foldl_concat]
      exact hstep _ _ call ih

/-- The entry is the last one that was appended at its index, and no later truncation or purge
has removed it. -/
def IsPresent (calls : List (Call D)) (e : Entry D) : Prop :=
  IndexedLog.Survives index (calls.map Call.operation) e

/-- The log after some calls holds the entries that are present. -/
theorem logAfter_eq_some_iff {calls : List (Call D)} {e : Entry D} :
    logAfter calls e.logId.index = some e ↔ IsPresent calls e :=
  IndexedLog.contents_eq_some_iff

/-- The entries that were read are those in the range that are present, in ascending order and
each once. -/
def ReadsPresent (calls : List (Call D)) (start stop : Bound)
    (result : Except StorageError (List (Entry D))) : Prop :=
  ∃ entries, result = .ok entries ∧ Ascending entries ∧
    ∀ e, e ∈ entries ↔ IsPresent calls e ∧ Within start stop e.logId.index

/-- If a bound wraps around, no entry lies in the range that is computed. -/
def WrapsHarmlessly (calls : List (Call D)) (start stop : Bound) : Prop :=
  Wraps start stop → ∀ e, IsPresent calls e → ¬ ScannedWithin start stop e.logId.index

/-- Reading a range gives the entries in it, unless a bound wraps around to a range that holds
entries. -/
theorem Holds.readsPresent_iff {format : Codec (Entry D)} {calls : List (Call D)} {db : Sled}
    (h : Holds format (logAfter calls) db) (start stop : Bound) :
    ReadsPresent calls start stop (LogTree.read format db start stop) ↔
      WrapsHarmlessly calls start stop := by
  obtain ⟨entries, hread, hascending, hmem⟩ := h.read start stop
  simp only [logAfter_eq_some_iff] at hmem
  have hsame : ReadsPresent calls start stop (LogTree.read format db start stop) ↔
      ∀ e, IsPresent calls e →
        (ScannedWithin start stop e.logId.index ↔ Within start stop e.logId.index) := by
    constructor
    · rintro ⟨entries', hread', -, hmem'⟩ e he
      obtain rfl := Except.ok.inj (hread.symm.trans hread')
      have hboth := (hmem e).symm.trans (hmem' e)
      simpa only [he, true_and] using hboth
    · intro hagree
      refine ⟨entries, hread, hascending, fun e => (hmem e).trans ?_⟩
      exact and_congr_right (hagree e)
  rw [hsame, WrapsHarmlessly]
  by_cases hwraps : Wraps start stop
  · simp only [hwraps, true_imp_iff, not_within_of_wraps hwraps, iff_false]
  · simp only [hwraps, false_imp_iff, iff_true]
    exact fun e _ => (within_iff hwraps _).symm

end LogTree

end InfoVulcan.Db
