import InfoVulcan.Db.Json
import InfoVulcan.Db.RaftLog

/-!
# The reported state of the log

Raft asks a store for the last purged log id and the last log id. The purge marker is a cached copy
of a value on disk, the last log id comes from a scan of the log, and both survive reopening the
store. A log without entries is reported to have no last log id, also where a purge has emptied it.
So the report is the one Raft expects as long as a log that has been purged keeps an entry, with a
log id that is not below the purge point (`log_state_reported_iff`).
-/

namespace InfoVulcan.Db

open Raft

variable [RaftFormat]

/-! ## Runs -/

/-- What happens to a store: a call on its log, or that it is opened anew on its database. -/
inductive LogEvent where
  | call (call : LogTree.Call LogEntry)
  | reopen

/-- The calls of a run. -/
def callsOf (events : List LogEvent) : List (LogTree.Call LogEntry) :=
  events.filterMap fun
    | .call call => some call
    | .reopen => none

/-- The purge point of the latest purge, if there has been one. -/
def latestPurge (calls : List (LogTree.Call LogEntry)) : Option LogId :=
  (calls.filterMap LogTree.Call.purged?).getLast?

/-- The store after an event. A store that cannot be opened stays as it is. -/
def DbStore.logEvent (store : DbStore) : LogEvent → DbStore
  | .call call => store.logCall call
  | .reopen =>
      match DbStore.new store.storage with
      | .ok reopened => reopened
      | .error _ => store

/-- The store after a run. -/
def DbStore.logEvents (store : DbStore) (events : List LogEvent) : DbStore :=
  events.foldl logEvent store

/-- A store that keeps a state can be opened, and keeps it then. -/
theorem Keeps.reopen {s : RaftState} {store : DbStore} (h : Keeps s store) :
    ∃ reopened, DbStore.new store.storage = .ok reopened ∧ Keeps s reopened := by
  refine ⟨⟨store.storage, .new, ⟨s.vote, s.lastPurged⟩⟩, ?_, h.holds, rfl⟩
  rw [DbStore.new, h.holds.metadata]

/-- After a run a store keeps the log of its calls, and their latest purge point. -/
theorem keeps_logEvents (events : List LogEvent) :
    ∃ s, Keeps s (DbStore.blank.logEvents events) ∧
      s.log = LogTree.logAfter (callsOf events) ∧ s.lastPurged = latestPurge (callsOf events) := by
  induction events using List.reverseRecOn with
  | nil => exact ⟨.initial, keeps_blank, rfl, rfl⟩
  | append_singleton events event ih =>
      obtain ⟨s, hkeeps, hlog, hpurged⟩ := ih
      rw [DbStore.logEvents, List.foldl_concat]
      cases event with
      | call call =>
          have hcalls : callsOf (events ++ [.call call]) = callsOf events ++ [call] :=
            List.filterMap_append
          refine ⟨s.logCall call, hkeeps.logCall call, ?_, ?_⟩
          · rw [hcalls, LogTree.logAfter, List.map_append, IndexedLog.contents,
              List.foldl_append, RaftState.logCall, hlog]
            rfl
          · rw [hcalls, latestPurge, List.filterMap_append, List.getLast?_append,
              RaftState.logCall, hpurged]
            cases hpoint : call.purged? <;> simp [hpoint, latestPurge]
      | reopen =>
          have hcalls : callsOf (events ++ [.reopen]) = callsOf events := by simp [callsOf]
          obtain ⟨reopened, hnew, hreopened⟩ := hkeeps.reopen
          have hstore : (DbStore.blank.logEvents events).logEvent .reopen = reopened := by
            rw [DbStore.logEvent, hnew]
          rw [hcalls]
          exact ⟨s, hstore ▸ hreopened, hlog, hpurged⟩

/-- In every state of a run the store can be opened. -/
theorem reopens (events : List LogEvent) :
    ∃ reopened, DbStore.new (DbStore.blank.logEvents events).storage = .ok reopened := by
  obtain ⟨s, hkeeps, -⟩ := keeps_logEvents events
  obtain ⟨reopened, hnew, -⟩ := hkeeps.reopen
  exact ⟨reopened, hnew⟩

/-! ## The report -/

omit [RaftFormat] in
/-- The entry is the last one that is present. -/
def IsLastPresent (calls : List (LogTree.Call LogEntry)) (e : DbEntry) : Prop :=
  LogTree.IsPresent calls e ∧ ∀ d, LogTree.IsPresent calls d → d.logId.index ≤ e.logId.index

omit [RaftFormat] in
/-- What Raft expects of the report: the latest purge point; the log id of the last entry that is
present, or the purge point where there is none; and that the former is not above the latter. -/
structure ReportsLog (calls : List (LogTree.Call LogEntry)) (state : LogState) : Prop where
  lastPurged : state.lastPurgedLogId = latestPurge calls
  lastEntry : ∀ e, IsLastPresent calls e → state.lastLogId = some e.logId
  empty : (∀ e, ¬ LogTree.IsPresent calls e) → state.lastLogId = state.lastPurgedLogId
  ordered : AtLeast state.lastLogId state.lastPurgedLogId

omit [RaftFormat] in
/-- If the log has been purged, an entry is left, and the log id of the last one is not below the
purge point. -/
def KeepsEntry (calls : List (LogTree.Call LogEntry)) : Prop :=
  ∀ purged ∈ latestPurge calls, ∃ e, IsLastPresent calls e ∧ purged ≤ e.logId

omit [RaftFormat] in
/-- The last log id of a log is that of the last entry that is present, if there is one. -/
theorem isLast_logAfter {calls : List (LogTree.Call LogEntry)} {lastLogId : Option LogId}
    (h : IsLast (LogTree.logAfter calls) lastLogId) :
    (∀ e, IsLastPresent calls e → lastLogId = some e.logId) ∧
      ∀ logId, lastLogId = some logId → ∃ e, IsLastPresent calls e ∧ e.logId = logId := by
  constructor
  · rintro e ⟨hpresent, hlast⟩
    have he := LogTree.logAfter_eq_some_iff.mpr hpresent
    cases lastLogId with
    | none => rw [h] at he; cases he
    | some logId =>
        obtain ⟨d, hd, rfl, habove⟩ := h
        have hle := habove _ _ he
        have hge := hlast d (LogTree.logAfter_eq_some_iff.mp hd)
        have hsame : e.logId.index = d.logId.index := UInt64.le_antisymm hle hge
        rw [hsame, hd] at he
        rw [Option.some.inj he]
  · rintro logId rfl
    obtain ⟨e, he, rfl, habove⟩ := h
    refine ⟨e, ⟨LogTree.logAfter_eq_some_iff.mp he, fun d hd => ?_⟩, rfl⟩
    exact habove _ d (LogTree.logAfter_eq_some_iff.mpr hd)

/-- The state of the log is reported as Raft expects it after a run exactly when a log that has been
purged has kept an entry. -/
theorem reportsLog_iff (events : List LogEvent) :
    (∃ state, (DbStore.blank.logEvents events).getLogState = .ok state ∧
      ReportsLog (callsOf events) state) ↔ KeepsEntry (callsOf events) := by
  obtain ⟨s, hkeeps, hlog, hpurged⟩ := keeps_logEvents events
  obtain ⟨lastLogId, hstate, hlast⟩ := hkeeps.getLogState
  rw [hlog] at hlast
  obtain ⟨hentry, horigin⟩ := isLast_logAfter hlast
  rw [hstate, hpurged]
  constructor
  · rintro ⟨state, hok, hreports⟩ purged hpoint
    obtain rfl := Except.ok.inj hok
    have hordered := hreports.ordered
    rw [Option.mem_def.mp hpoint] at hordered
    cases lastLogId with
    | some logId =>
        obtain ⟨e, he, rfl⟩ := horigin logId rfl
        exact ⟨e, he, hordered⟩
    | none => exact hordered.elim
  · intro hkeeps
    refine ⟨_, rfl, rfl, hentry, fun hnone => ?_, ?_⟩
    · -- An empty log has not been purged.
      cases hpoint : latestPurge (callsOf events) with
      | some purged =>
          obtain ⟨e, he, -⟩ := hkeeps purged hpoint
          exact absurd he.1 (hnone e)
      | none =>
          cases lastLogId with
          | none => rfl
          | some logId =>
              obtain ⟨e, he, -⟩ := horigin logId rfl
              exact absurd he.1 (hnone e)
    · cases hpoint : latestPurge (callsOf events) with
      | none => cases lastLogId <;> exact trivial
      | some purged =>
          obtain ⟨e, he, hle⟩ := hkeeps purged hpoint
          rw [hentry e he]
          exact hle

/-! ## Log ids in order -/

omit [RaftFormat] in
/-- The call keeps log ids in order: what it appends is not below the purge point, and what a purge
leaves is not below the purge point it records. -/
def KeepsOrder (before : List (LogTree.Call LogEntry)) : LogTree.Call LogEntry → Prop
  | .appendToLog entries => ∀ e ∈ entries, AtLeast (some e.logId) (latestPurge before)
  | .deleteConflictLogsSince _ => True
  | .purgeLogsUpto logId => ∀ e, LogTree.IsPresent before e → logId.index < e.logId.index →
      logId ≤ e.logId

omit [RaftFormat] in
/-- If all calls keep log ids in order, no entry is below the purge point. -/
theorem atLeast_of_keepsOrder {calls : List (LogTree.Call LogEntry)}
    (h : ∀ pre call, pre ++ [call] <+: calls → KeepsOrder pre call) {e : DbEntry}
    (he : LogTree.IsPresent calls e) : AtLeast (some e.logId) (latestPurge calls) := by
  induction calls using List.reverseRecOn with
  | nil => exact trivial
  | append_singleton calls call ih =>
      have hbefore : ∀ pre call, pre ++ [call] <+: calls → KeepsOrder pre call :=
        fun pre d hpre => h pre d (hpre.trans (List.prefix_append _ _))
      have hcall := h calls call List.prefix_rfl
      have hlog := LogTree.logAfter_eq_some_iff.mpr he
      have hstep : IndexedLog.perform LogTree.index (LogTree.logAfter calls) call.operation
          e.logId.index = some e := by
        rw [LogTree.logAfter, List.map_append, IndexedLog.contents, List.foldl_append] at hlog
        exact hlog
      rw [latestPurge, List.filterMap_append, List.getLast?_append]
      rcases IndexedLog.perform_eq_some_iff.mp hstep with ⟨first, rest, hop, -⟩ | ⟨hkept, hold⟩
      · -- The entry has just been appended.
        cases call with
        | appendToLog entries =>
            have hmem : e ∈ entries := by
              rw [IndexedLog.Operation.append.inj hop]
              simp
            exact hcall e hmem
        | deleteConflictLogsSince logId => cases hop
        | purgeLogsUpto logId => cases hop
      · have hpresent := LogTree.logAfter_eq_some_iff.mp hold
        cases call with
        | appendToLog entries => exact ih hbefore hpresent
        | deleteConflictLogsSince logId => exact ih hbefore hpresent
        | purgeLogsUpto logId => exact hcall e hpresent (UInt64.not_le.mp hkept)

/-- If all calls keep log ids in order, a log that has been purged keeps an entry exactly when it is
not empty. -/
theorem keepsEntry_iff_of_keepsOrder {calls : List (LogTree.Call LogEntry)}
    (h : ∀ pre call, pre ++ [call] <+: calls → KeepsOrder pre call) :
    KeepsEntry calls ↔ (latestPurge calls ≠ none → ∃ e, LogTree.IsPresent calls e) := by
  obtain ⟨s, hkeeps, hlog, -⟩ := keeps_logEvents (calls.map LogEvent.call)
  have hcalls : callsOf (calls.map .call) = calls := by
    rw [callsOf, List.filterMap_map]
    exact List.filterMap_some
  obtain ⟨lastLogId, -, hlast⟩ := hkeeps.getLogState
  rw [hlog, hcalls] at hlast
  obtain ⟨-, horigin⟩ := isLast_logAfter hlast
  constructor
  · intro hkeeps hpurged
    obtain ⟨purged, hpoint⟩ := Option.ne_none_iff_exists'.mp hpurged
    obtain ⟨e, he, -⟩ := hkeeps purged hpoint
    exact ⟨e, he.1⟩
  · intro hsome purged hpoint
    obtain ⟨d, hd⟩ := hsome (by rw [Option.mem_def.mp hpoint]; exact Option.some_ne_none _)
    cases lastLogId with
    | none =>
        have hnone := hlast d.logId.index
        rw [LogTree.logAfter_eq_some_iff.mpr hd] at hnone
        cases hnone
    | some logId =>
        obtain ⟨e, he, -⟩ := horigin logId rfl
        have hordered := atLeast_of_keepsOrder h he.1
        rw [Option.mem_def.mp hpoint] at hordered
        exact ⟨e, he, hordered⟩

/-- The state of the log is reported as Raft expects it in every state of a run exactly when a log
that has been purged keeps an entry in every state of the run. -/
theorem log_state_reported_iff (events : List LogEvent) :
    (∀ pre, pre <+: events → ∃ state,
      (DbStore.blank.logEvents pre).getLogState = .ok state ∧ ReportsLog (callsOf pre) state) ↔
      ∀ pre, pre <+: events → KeepsEntry (callsOf pre) :=
  forall₂_congr fun pre _ => reportsLog_iff pre

end InfoVulcan.Db

/-! ## A log that a purge has emptied -/

namespace InfoVulcan.Db

open Raft
open scoped SerdeJson

/-- A log with one entry is purged up to that entry. -/
def purgedEmpty : List LogEvent :=
  [.call (.appendToLog [⟨⟨⟨1, 1⟩, 1⟩, .blank⟩]), .call (.purgeLogsUpto ⟨⟨1, 1⟩, 1⟩)]

/-- The report has no last log id then, though it has a purge point. -/
theorem purged_empty_not_reported :
    ¬ ∃ state, (DbStore.blank.logEvents purgedEmpty).getLogState = .ok state ∧
      ReportsLog (callsOf purgedEmpty) state := by
  rw [reportsLog_iff]
  intro hkeeps
  obtain ⟨e, ⟨he, -⟩, -⟩ := hkeeps ⟨⟨1, 1⟩, 1⟩ rfl
  have hlog := LogTree.logAfter_eq_some_iff.mpr he
  obtain ⟨⟨leader, i⟩, payload⟩ := e
  have hvalue : LogTree.logAfter (callsOf purgedEmpty) i =
      if i ≤ 1 then none else
        if i = 1 then some ⟨⟨⟨1, 1⟩, 1⟩, .blank⟩ else none := by
    rw [← Function.update_apply (fun _ => (none : Option DbEntry))]
    rfl
  rw [hvalue] at hlog
  split at hlog
  · cases hlog
  next hbeyond =>
    have hne : i ≠ 1 := fun hi => hbeyond (UInt64.le_of_eq hi)
    rw [if_neg hne] at hlog
    cases hlog

end InfoVulcan.Db
