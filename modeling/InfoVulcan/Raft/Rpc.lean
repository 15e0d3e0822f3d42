import InfoVulcan.Library.Bytes
import InfoVulcan.Library.Codec
import InfoVulcan.Raft.Types
import InfoVulcan.Shared.Foreign

/-!
# The Raft wire protocol

The conversions of the `raft-rpc` crate between consensus types and wire parts, and the Raft RPCs
of the DB service on both ends: `DbNetwork` puts a request on the wire and reads the answer,
`RaftServiceImpl` rebuilds the request, hands it to its Raft instance and answers. A log id travels
as `(term, index)`; the receiver takes the node id from the vote. Log entries travel in their
serialised form, which is a parameter here.
-/

namespace InfoVulcan.Raft

/-- The request for a vote. -/
structure VoteRequest where
  vote : Vote
  lastLogId : Option LogId
  deriving DecidableEq, Repr

/-- The answer to a request for a vote. -/
structure VoteResponse where
  vote : Vote
  voteGranted : Bool
  lastLogId : Option LogId
  deriving DecidableEq, Repr

/-- The request to append entries to a log. -/
structure AppendEntriesRequest (D : Type) where
  vote : Vote
  prevLogId : Option LogId
  entries : List (Entry D)
  leaderCommit : Option LogId
  deriving DecidableEq, Repr

/-- The answer to a request to append entries. -/
inductive AppendEntriesResponse where
  | success
  | partialSuccess (matching : Option LogId)
  | conflict
  | higherVote (vote : Vote)
  deriving DecidableEq, Repr

/-- The request to install a part of a snapshot. -/
structure InstallSnapshotRequest where
  vote : Vote
  snapshotMeta : SnapshotMeta
  offset : UInt64
  data : Bytes
  done : Bool
  deriving DecidableEq, Repr

/-! ## Wire parts -/

/-- The wire parts of a vote: term, node id, and whether it is committed. -/
abbrev VoteParts := UInt64 × UInt64 × Bool

/-- The wire parts of a log id: term and index. -/
abbrev LogIdParts := UInt64 × UInt64

/-- Builds a vote from its wire parts. -/
def vote (parts : VoteParts) : Vote :=
  let (term, nodeId, committed) := parts
  { leaderId := { term, nodeId }, committed }

/-- The wire parts of a vote. -/
def voteParts (v : Vote) : VoteParts :=
  (v.leaderId.term, v.leaderId.nodeId, v.committed)

/-- Reconstructs a log id from its wire parts, taking the node id from the vote. -/
def logId (parts : LogIdParts) (nodeId : UInt64) : LogId :=
  let (term, index) := parts
  { leaderId := { term, nodeId }, index }

/-- The wire parts of a log id. The node id is not among them. -/
def logIdParts (l : LogId) : LogIdParts :=
  (l.leaderId.term, l.index)

/-- Builds a vote request from wire parts. -/
def voteRequest (v : VoteParts) (lastLogId : Option LogIdParts) : VoteRequest :=
  let (_, nodeId, _) := v
  { vote := vote v, lastLogId := lastLogId.map fun parts => logId parts nodeId }

/-- An append-entries outcome in wire parts. -/
structure AppendWire where
  responseType : UInt32
  partialIndex : Option LogIdParts
  vote : VoteParts
  deriving DecidableEq, Repr

/-- Classifies an answer for the wire. The leader's vote is echoed, except that a higher vote is
reported in its place. -/
def classifyAppendResponse (resp : AppendEntriesResponse) (echoedVote : VoteParts) : AppendWire :=
  match resp with
  | .success => ⟨0, none, echoedVote⟩
  | .partialSuccess matching => ⟨1, matching.map logIdParts, echoedVote⟩
  | .conflict => ⟨2, none, echoedVote⟩
  | .higherVote higher => ⟨3, none, voteParts higher⟩

/-- Errors from decoding the wire protocol. -/
inductive WireError where
  | unknownResponseType (other : UInt32)
  | entryDecode (e : String)
  deriving DecidableEq, Repr

instance : ToString WireError where
  toString
    | .unknownResponseType other => s!"unknown append_entries response_type: {other}"
    | .entryDecode e => s!"invalid entry data: {e}"

/-- Rebuilds an answer from wire parts. -/
def appendResponseFromWire (responseType : UInt32) (partialIndex : Option LogIdParts)
    (responderVote : VoteParts) : Except WireError AppendEntriesResponse :=
  let (_, nodeId, _) := responderVote
  if responseType = 0 then .ok .success
  else if responseType = 1 then
    .ok (.partialSuccess (partialIndex.map fun parts => logId parts nodeId))
  else if responseType = 2 then .ok .conflict
  else if responseType = 3 then .ok (.higherVote (vote responderVote))
  else .error (.unknownResponseType responseType)

/-- Builds an append-entries request from wire parts and decoded entries. -/
def appendRequest {D : Type} (v : VoteParts) (prevLogId : Option LogIdParts)
    (entries : List (Entry D)) (leaderCommit : Option LogIdParts) : AppendEntriesRequest D :=
  let (_, nodeId, _) := v
  { vote := vote v
    prevLogId := prevLogId.map fun parts => logId parts nodeId
    entries
    leaderCommit := leaderCommit.map fun parts => logId parts nodeId }

/-- Builds snapshot metadata from wire parts. The membership is empty, under a log id whose index
is the membership version of the wire. -/
def snapshotMeta (lastLogId : Option LogIdParts) (lastMembership : UInt32) (snapshotId : String)
    (nodeId : UInt64) : SnapshotMeta where
  lastLogId := lastLogId.map fun parts => logId parts nodeId
  lastMembership :=
    { logId := some
        { leaderId := { term := (lastLogId.map Prod.fst).getD 0, nodeId }
          index := lastMembership.toUInt64 }
      membership := { configs := [], nodes := [] } }
  snapshotId

/-- Decodes serialised entries. The first that cannot be read is the error. -/
def decodeEntries {D : Type} (format : Codec (Entry D)) :
    List Bytes → Except WireError (List (Entry D))
  | [] => .ok []
  | bytes :: raw =>
      match format.decode bytes with
      | .error e => .error (.entryDecode e)
      | .ok entry => (decodeEntries format raw).map (entry :: ·)

@[simp] theorem vote_voteParts (v : Vote) : vote (voteParts v) = v := rfl

/-- A log id survives the wire up to its node id. -/
@[simp] theorem logId_logIdParts (l : LogId) (nodeId : UInt64) :
    logId (logIdParts l) nodeId = { l with leaderId := { l.leaderId with nodeId } } := rfl

/-! ## Protobuf messages -/

namespace Proto

structure ProtoVote where
  term : UInt64
  nodeId : UInt64
  committed : Bool
  deriving DecidableEq, Repr

structure ProtoLogId where
  term : UInt64
  index : UInt64
  deriving DecidableEq, Repr

structure VoteRequest where
  vote : Option ProtoVote
  lastLogId : Option ProtoLogId
  deriving DecidableEq, Repr

structure VoteResponse where
  vote : Option ProtoVote
  voteGranted : Bool
  lastLogId : Option ProtoLogId
  deriving DecidableEq, Repr

structure Entry where
  data : Bytes
  deriving DecidableEq, Repr

structure AppendEntriesRequest where
  vote : Option ProtoVote
  prevLogId : Option ProtoLogId
  entries : List Entry
  leaderCommit : Option ProtoLogId
  deriving DecidableEq, Repr

structure AppendEntriesResponse where
  vote : Option ProtoVote
  responseType : UInt32
  partialSuccessIndex : Option ProtoLogId
  deriving DecidableEq, Repr

structure SnapshotMeta where
  lastLogId : Option ProtoLogId
  lastApplied : UInt64
  lastMembership : UInt32
  snapshotId : String
  deriving DecidableEq, Repr

structure InstallSnapshotRequest where
  vote : Option ProtoVote
  snapshotMeta : Option SnapshotMeta
  offset : UInt64
  data : Bytes
  done : Bool
  deriving DecidableEq, Repr

structure InstallSnapshotResponse where
  vote : Option ProtoVote
  deriving DecidableEq, Repr

end Proto

/-- Builds a wire vote from its parts. -/
def toProtoVote (parts : VoteParts) : Proto.ProtoVote :=
  let (term, nodeId, committed) := parts
  { term, nodeId, committed }

/-- Builds a wire log id from its parts. -/
def toProtoLogId (parts : LogIdParts) : Proto.ProtoLogId :=
  let (term, index) := parts
  { term, index }

/-! ## The vote RPC -/

namespace DbNetwork

/-- The message a candidate puts on the wire. -/
def voteToProto (rpc : VoteRequest) : Proto.VoteRequest where
  vote := some
    { term := rpc.vote.leaderId.term
      nodeId := rpc.vote.leaderId.nodeId
      committed := rpc.vote.committed }
  lastLogId := rpc.lastLogId.map fun logId =>
    { term := logId.leaderId.term, index := logId.index }

/-- The answer the candidate reads off the wire. -/
def voteFromProto (resp : Proto.VoteResponse) : Except String VoteResponse :=
  match resp.vote with
  | none => .error "missing vote"
  | some protoVote => .ok
      { vote :=
          { leaderId := { term := protoVote.term, nodeId := protoVote.nodeId }
            committed := protoVote.committed }
        voteGranted := resp.voteGranted
        lastLogId := resp.lastLogId.map fun logId =>
          { leaderId := { term := logId.term, nodeId := protoVote.nodeId }
            index := logId.index } }

end DbNetwork

namespace RaftServiceImpl

/-- The request the voter rebuilds from the wire and hands to its Raft instance. -/
def voteFromProto (req : Proto.VoteRequest) : Except Status VoteRequest :=
  match req.vote with
  | none => .error (.invalidArgument "missing vote")
  | some protoVote => .ok <|
      voteRequest (protoVote.term, protoVote.nodeId, protoVote.committed)
        (req.lastLogId.map fun l => (l.term, l.index))

/-- The voter's handler: `raftVote` is the vote method of its Raft instance. -/
def vote (raftVote : VoteRequest → Except String VoteResponse) (req : Proto.VoteRequest) :
    Except Status Proto.VoteResponse :=
  match voteFromProto req with
  | .error status => .error status
  | .ok voteReq =>
      match raftVote voteReq with
      | .error e => .error (.internal s!"vote failed: {e}")
      | .ok raftResponse => .ok
          { vote := some (toProtoVote (voteParts raftResponse.vote))
            voteGranted := raftResponse.voteGranted
            lastLogId := raftResponse.lastLogId.map fun l => toProtoLogId (logIdParts l) }

end RaftServiceImpl

/-! ## The append-entries RPC -/

section AppendEntries

variable {D : Type} (format : Codec (Entry D))

namespace DbNetwork

/-- The message a leader puts on the wire. -/
def appendEntriesToProto (rpc : AppendEntriesRequest D) : Proto.AppendEntriesRequest where
  vote := some
    { term := rpc.vote.leaderId.term
      nodeId := rpc.vote.leaderId.nodeId
      committed := rpc.vote.committed }
  prevLogId := rpc.prevLogId.map fun logId =>
    { term := logId.leaderId.term, index := logId.index }
  entries := rpc.entries.map fun entry => { data := format.encode entry }
  leaderCommit := rpc.leaderCommit.map fun logId =>
    { term := logId.leaderId.term, index := logId.index }

/-- The answer the leader reads off the wire. -/
def appendEntriesFromProto (resp : Proto.AppendEntriesResponse) :
    Except String AppendEntriesResponse :=
  match resp.vote with
  | none => .error "missing vote"
  | some protoVote =>
      match appendResponseFromWire resp.responseType
          (resp.partialSuccessIndex.map fun l => (l.term, l.index))
          (protoVote.term, protoVote.nodeId, protoVote.committed) with
      | .error e => .error (toString e)
      | .ok response => .ok response

end DbNetwork

namespace RaftServiceImpl

/-- The request the follower rebuilds from the wire and hands to its Raft instance. -/
def appendEntriesFromProto (req : Proto.AppendEntriesRequest) :
    Except Status (AppendEntriesRequest D) :=
  match req.vote with
  | none => .error (.invalidArgument "missing vote")
  | some protoVote =>
      match decodeEntries format (req.entries.map fun entry => entry.data) with
      | .error e => .error (.invalidArgument (toString e))
      | .ok entries => .ok <|
          appendRequest (protoVote.term, protoVote.nodeId, protoVote.committed)
            (req.prevLogId.map fun l => (l.term, l.index)) entries
            (req.leaderCommit.map fun l => (l.term, l.index))

/-- The message the follower answers with, to a leader with the vote `v`. -/
def appendEntriesToProto (raftResponse : AppendEntriesResponse) (v : VoteParts) :
    Proto.AppendEntriesResponse :=
  let wire := classifyAppendResponse raftResponse v
  { vote := some (toProtoVote wire.vote)
    responseType := wire.responseType
    partialSuccessIndex := wire.partialIndex.map toProtoLogId }

/-- The follower's handler: `raftAppend` is the append-entries method of its Raft instance. -/
def appendEntries (raftAppend : AppendEntriesRequest D → Except String AppendEntriesResponse)
    (req : Proto.AppendEntriesRequest) : Except Status Proto.AppendEntriesResponse :=
  match appendEntriesFromProto format req with
  | .error status => .error status
  | .ok appendReq =>
      match raftAppend appendReq with
      | .error e => .error (.internal s!"append_entries failed: {e}")
      | .ok raftResponse => .ok (appendEntriesToProto raftResponse (voteParts appendReq.vote))

end RaftServiceImpl

end AppendEntries

/-! ## The snapshot RPC -/

namespace DbNetwork

/-- A log index as the membership version of the wire. An index that does not fit counts as the
largest version. -/
def membershipVersion (index : UInt64) : UInt32 :=
  if index.toNat < 2 ^ 32 then UInt32.ofNat index.toNat else UInt32.ofNat (2 ^ 32 - 1)

/-- The metadata of a snapshot on the wire. -/
def snapshotMetaToProto (snapshot : SnapshotMeta) : Proto.SnapshotMeta where
  lastLogId := snapshot.lastLogId.map fun logId =>
    { term := logId.leaderId.term, index := logId.index }
  lastApplied := (snapshot.lastLogId.map fun logId => logId.index).getD 0
  lastMembership :=
    membershipVersion ((snapshot.lastMembership.logId.map fun logId => logId.index).getD 0)
  snapshotId := snapshot.snapshotId

/-- The message that carries a whole snapshot. -/
def fullSnapshotToProto (vote : Vote) (snapshot : SnapshotMeta) (data : Bytes) :
    Proto.InstallSnapshotRequest where
  vote := some
    { term := vote.leaderId.term
      nodeId := vote.leaderId.nodeId
      committed := vote.committed }
  snapshotMeta := some (snapshotMetaToProto snapshot)
  offset := 0
  data := data
  done := true

/-- The message that carries a part of a snapshot. -/
def installSnapshotToProto (rpc : InstallSnapshotRequest) : Proto.InstallSnapshotRequest where
  vote := some
    { term := rpc.vote.leaderId.term
      nodeId := rpc.vote.leaderId.nodeId
      committed := rpc.vote.committed }
  snapshotMeta := some (snapshotMetaToProto rpc.snapshotMeta)
  offset := rpc.offset
  data := rpc.data
  done := rpc.done

/-- The vote the sender reads off the answer. The text of the error tells which call it was. -/
def snapshotVoteFromProto (missingVote : String) (resp : Proto.InstallSnapshotResponse) :
    Except String Vote :=
  match resp.vote with
  | none => .error missingVote
  | some protoVote => .ok
      { leaderId := { term := protoVote.term, nodeId := protoVote.nodeId }
        committed := protoVote.committed }

/-- The answer to a whole snapshot. -/
def fullSnapshotFromProto : Proto.InstallSnapshotResponse → Except String Vote :=
  snapshotVoteFromProto "missing vote in snapshot response"

/-- The answer to a part of a snapshot. -/
def installSnapshotFromProto : Proto.InstallSnapshotResponse → Except String Vote :=
  snapshotVoteFromProto "missing vote"

end DbNetwork

namespace RaftServiceImpl

/-- The request the receiver rebuilds from the wire and hands to its Raft instance. -/
def installSnapshotFromProto (req : Proto.InstallSnapshotRequest) :
    Except Status InstallSnapshotRequest :=
  match req.vote with
  | none => .error (.invalidArgument "missing vote")
  | some protoVote =>
      match req.snapshotMeta with
      | none => .error (.invalidArgument "missing snapshot meta")
      | some protoMeta => .ok
          { vote := Raft.vote (protoVote.term, protoVote.nodeId, protoVote.committed)
            snapshotMeta := Raft.snapshotMeta
              (protoMeta.lastLogId.map fun l => (l.term, l.index)) protoMeta.lastMembership
              protoMeta.snapshotId protoVote.nodeId
            offset := req.offset
            data := req.data
            done := req.done }

/-- The receiver's handler: `raftInstall` is the install-snapshot method of its Raft instance, which
answers with a vote. -/
def installSnapshot (raftInstall : InstallSnapshotRequest → Except String Vote)
    (req : Proto.InstallSnapshotRequest) : Except Status Proto.InstallSnapshotResponse :=
  match installSnapshotFromProto req with
  | .error status => .error status
  | .ok installReq =>
      match raftInstall installReq with
      | .error e => .error (.internal s!"install_snapshot failed: {e}")
      | .ok raftVote => .ok { vote := some (toProtoVote (voteParts raftVote)) }

end RaftServiceImpl

end InfoVulcan.Raft
