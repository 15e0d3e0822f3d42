import InfoVulcan.Db.Json
import InfoVulcan.Raft.Rpc

/-!
# Replication over the wire

An append-entries request reaches the follower with its vote and its entries as they were sent.
The log ids outside the entries arrive under the leader's node id (`received_append`), and so does
the log id of a partial success on the way back (`received_response`). The leader and the follower
therefore agree on a request or an answer exactly when these log ids were written under the leader
itself.
-/

namespace InfoVulcan.Raft

variable {D : Type} {format : Codec (Entry D)}

/-! ## Requests -/

/-- The request a follower rebuilds from what the leader sent. -/
def receivedAppend (format : Codec (Entry D)) (rpc : AppendEntriesRequest D) :
    Except Status (AppendEntriesRequest D) :=
  RaftServiceImpl.appendEntriesFromProto format (DbNetwork.appendEntriesToProto format rpc)

/-- Serialised entries are read back. -/
theorem decodeEntries_map_encode (entries : List (Entry D)) :
    decodeEntries format (entries.map format.encode) = .ok entries := by
  induction entries with
  | nil => rfl
  | cons entry entries ih =>
      rw [List.map_cons, decodeEntries, format.decode_encode]
      simp [ih, Except.map]

/-- A request arrives with the log ids outside its entries under the leader's node id. -/
theorem received_append (rpc : AppendEntriesRequest D) :
    receivedAppend format rpc = .ok { rpc with
      prevLogId := rpc.prevLogId.map (LogId.under · rpc.vote.leaderId.nodeId)
      leaderCommit := rpc.leaderCommit.map (LogId.under · rpc.vote.leaderId.nodeId) } := by
  have hentries : decodeEntries format
      ((DbNetwork.appendEntriesToProto format rpc).entries.map fun entry => entry.data) =
        .ok rpc.entries := by
    simp only [DbNetwork.appendEntriesToProto, List.map_map]
    exact decodeEntries_map_encode rpc.entries
  simp only [receivedAppend, RaftServiceImpl.appendEntriesFromProto, hentries]
  simp only [DbNetwork.appendEntriesToProto, appendRequest, Option.map_map]
  rfl

/-- A request arrives as it was sent exactly when the leader itself wrote the log ids outside its
entries. -/
theorem received_append_eq_iff {rpc : AppendEntriesRequest D} :
    receivedAppend format rpc = .ok rpc ↔
      (∀ l, rpc.prevLogId = some l → l.leaderId.nodeId = rpc.vote.leaderId.nodeId) ∧
      (∀ l, rpc.leaderCommit = some l → l.leaderId.nodeId = rpc.vote.leaderId.nodeId) := by
  rw [received_append, ← LogId.map_under_eq_self, ← LogId.map_under_eq_self]
  rcases rpc with ⟨vote, prevLogId, entries, leaderCommit⟩
  simp

/-! ## Answers -/

/-- The answer the leader with the vote `v` reads off the wire. -/
def receivedResponse (v : Vote) (resp : AppendEntriesResponse) :
    Except WireError AppendEntriesResponse :=
  let wire := classifyAppendResponse resp (voteParts v)
  appendResponseFromWire wire.responseType wire.partialIndex wire.vote

/-- The answer with the log id of a partial success under another node id. -/
def AppendEntriesResponse.under (nodeId : UInt64) : AppendEntriesResponse → AppendEntriesResponse
  | .partialSuccess matching => .partialSuccess (matching.map (LogId.under · nodeId))
  | resp => resp

/-- An answer arrives with the log id of a partial success under the leader's node id. -/
theorem received_response (v : Vote) (resp : AppendEntriesResponse) :
    receivedResponse v resp = .ok (resp.under v.leaderId.nodeId) := by
  cases resp with
  | success | conflict | higherVote higher => rfl
  | partialSuccess matching => cases matching <;> rfl

/-- An answer arrives as it was given exactly when the log id of a partial success was written by
the leader itself. -/
theorem received_response_eq_iff {v : Vote} {resp : AppendEntriesResponse} :
    receivedResponse v resp = .ok resp ↔
      ∀ l, resp = .partialSuccess (some l) → l.leaderId.nodeId = v.leaderId.nodeId := by
  rw [received_response]
  cases resp with
  | success | conflict | higherVote higher => simp [AppendEntriesResponse.under]
  | partialSuccess matching =>
      simp [AppendEntriesResponse.under, LogId.map_under_eq_self]

/-- The leader reads the answer of the follower's handler as `receivedResponse` says. -/
theorem response_of_handler {raftAppend : AppendEntriesRequest D → Except String
    AppendEntriesResponse} {rpc : AppendEntriesRequest D} {resp : AppendEntriesResponse}
    {message : Proto.AppendEntriesResponse}
    (hraft : ∀ req, receivedAppend format rpc = .ok req → raftAppend req = .ok resp)
    (h : RaftServiceImpl.appendEntries format raftAppend
      (DbNetwork.appendEntriesToProto format rpc) = .ok message) :
    DbNetwork.appendEntriesFromProto message = .ok (resp.under rpc.vote.leaderId.nodeId) := by
  have hreceived : receivedAppend format rpc = .ok _ := received_append rpc
  have hresp := hraft _ hreceived
  rw [receivedAppend] at hreceived
  simp only [RaftServiceImpl.appendEntries, hreceived, hresp, Except.ok.injEq] at h
  subst h
  cases resp with
  | success | conflict | higherVote higher => rfl
  | partialSuccess matching => cases matching <;> rfl

/-- Votes and entries survive the wire, and so do the answers other than a partial success. The
other log ids survive it up to their node id, which becomes the leader's. Hence a request, or an
answer, arrives as it was sent exactly when these log ids were written under the leader. -/
theorem append_entries_over_wire :
    (∀ rpc : AppendEntriesRequest D,
      receivedAppend format rpc = .ok { rpc with
        prevLogId := rpc.prevLogId.map (LogId.under · rpc.vote.leaderId.nodeId)
        leaderCommit := rpc.leaderCommit.map (LogId.under · rpc.vote.leaderId.nodeId) } ∧
      (receivedAppend format rpc = .ok rpc ↔
        (∀ l, rpc.prevLogId = some l → l.leaderId.nodeId = rpc.vote.leaderId.nodeId) ∧
        (∀ l, rpc.leaderCommit = some l → l.leaderId.nodeId = rpc.vote.leaderId.nodeId))) ∧
    (∀ (v : Vote) (resp : AppendEntriesResponse),
      receivedResponse v resp = .ok (resp.under v.leaderId.nodeId) ∧
      (receivedResponse v resp = .ok resp ↔
        ∀ l, resp = .partialSuccess (some l) → l.leaderId.nodeId = v.leaderId.nodeId)) :=
  ⟨fun rpc => ⟨received_append rpc, received_append_eq_iff⟩,
    fun v resp => ⟨received_response v resp, received_response_eq_iff⟩⟩

end InfoVulcan.Raft

/-! ## A request on the JSON formats -/

namespace InfoVulcan.Raft

/-- A heartbeat of node 3 in term 3, after an entry `(2, 1, 5)` that node 1 wrote. -/
def heartbeatAfterForeignEntry : AppendEntriesRequest Db.LogEntry where
  vote := { leaderId := { term := 3, nodeId := 3 }, committed := true }
  prevLogId := some { leaderId := { term := 2, nodeId := 1 }, index := 5 }
  entries := []
  leaderCommit := none

/-- The follower takes the preceding entry for one of the new leader, and so does the leader with
the last matching entry of the follower. -/
theorem foreign_log_ids_change_on_wire :
    receivedAppend SerdeJson.dbEntry.codec heartbeatAfterForeignEntry ≠
        .ok heartbeatAfterForeignEntry ∧
      receivedResponse heartbeatAfterForeignEntry.vote
          (.partialSuccess heartbeatAfterForeignEntry.prevLogId) ≠
        .ok (.partialSuccess heartbeatAfterForeignEntry.prevLogId) := by
  rw [received_append, received_response]
  decide

end InfoVulcan.Raft
