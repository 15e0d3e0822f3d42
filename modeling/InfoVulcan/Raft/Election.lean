import InfoVulcan.Raft.Rpc

/-!
# The election restriction over the wire

A voter compares the candidate's last log id with its own. The rebuilt request carries the
candidate's last log id with the node id of the vote in place of the one that wrote the entry
(`received_vote`). Across different terms that does not matter; within one term the comparison
is the candidate's own against every voter only when the candidate itself wrote its last entry.
-/

namespace InfoVulcan.Raft

/-- The request a voter rebuilds from what the candidate sent. -/
def receivedVote (rpc : VoteRequest) : Except Status VoteRequest :=
  RaftServiceImpl.voteFromProto (DbNetwork.voteToProto rpc)

/-- The last log id the voter compares with its own: the candidate's, under the candidate's node
id. -/
def comparedLogId (rpc : VoteRequest) : Option LogId :=
  rpc.lastLogId.map fun l =>
    { l with leaderId := { l.leaderId with nodeId := rpc.vote.leaderId.nodeId } }

/-- The vote survives the wire, the last log id only up to its node id. -/
theorem received_vote (rpc : VoteRequest) :
    receivedVote rpc = .ok { vote := rpc.vote, lastLogId := comparedLogId rpc } := by
  rcases rpc with ⟨⟨⟨term, node⟩, committed⟩, _ | ⟨⟨logTerm, logNode⟩, index⟩⟩ <;> rfl

/-- The rebuilt request compares with the voter's last log id `v` as the candidate's own does. -/
def ComparesAlike (rpc : VoteRequest) (v : Option LogId) : Prop :=
  ∃ decoded, receivedVote rpc = .ok decoded ∧
    (AtLeast decoded.lastLogId v ↔ AtLeast rpc.lastLogId v)

theorem compares_alike_iff {rpc : VoteRequest} {v : Option LogId} :
    ComparesAlike rpc v ↔ (AtLeast (comparedLogId rpc) v ↔ AtLeast rpc.lastLogId v) := by
  simp [ComparesAlike, received_vote]

/-- Log ids of different terms compare alike whatever node wrote them. -/
theorem compares_alike_of_term_ne {rpc : VoteRequest} {l v : LogId}
    (hl : rpc.lastLogId = some l) (hterm : l.leaderId.term ≠ v.leaderId.term) :
    ComparesAlike rpc (some v) := by
  have hterm' : v.leaderId.term ≠ l.leaderId.term := Ne.symm hterm
  simp only [compares_alike_iff, comparedLogId, hl, Option.map_some, AtLeast]
  rw [LogId.le_of_term_ne hterm', LogId.le_of_term_ne (by exact hterm')]

/-- A candidate that wrote its own last entry, or has none, is compared as it is. -/
theorem compares_alike_of_own {rpc : VoteRequest}
    (hown : ∀ l, rpc.lastLogId = some l → l.leaderId.nodeId = rpc.vote.leaderId.nodeId)
    (v : Option LogId) : ComparesAlike rpc v := by
  rcases hl : rpc.lastLogId with _ | l
  · simp [compares_alike_iff, comparedLogId, hl]
  · have hnode := hown l hl
    have hsame : comparedLogId rpc = rpc.lastLogId := by
      rcases l with ⟨⟨term, node⟩, index⟩
      simp only [comparedLogId, hl, Option.map_some]
      rw [← hnode]
    rw [compares_alike_iff, hsame]

/-- A candidate whose last entry another node wrote is misjudged by some voter of that term. -/
theorem not_compares_alike_of_foreign {rpc : VoteRequest} {l : LogId}
    (hl : rpc.lastLogId = some l) (hnode : l.leaderId.nodeId ≠ rpc.vote.leaderId.nodeId) :
    ∃ v, ¬ ComparesAlike rpc (some v) := by
  -- The voter's last entry is the candidate's under the larger of the two node ids.
  rcases UInt64.lt_or_lt_of_ne hnode with hlt | hgt
  · refine ⟨{ l with leaderId := { l.leaderId with nodeId := rpc.vote.leaderId.nodeId } }, ?_⟩
    simp only [compares_alike_iff, comparedLogId, hl, Option.map_some, AtLeast]
    intro h
    have hle := h.mp (LogId.le_refl _)
    rw [LogId.le_of_term_eq (by rfl)] at hle
    rcases hle with hle | ⟨heq, -⟩
    · exact UInt64.lt_asymm hlt hle
    · exact hnode heq.symm
  · refine ⟨l, ?_⟩
    simp only [compares_alike_iff, comparedLogId, hl, Option.map_some, AtLeast]
    intro h
    have hle := h.mpr (LogId.le_refl _)
    rw [LogId.le_of_term_eq (by rfl)] at hle
    rcases hle with hle | ⟨heq, -⟩
    · exact UInt64.lt_asymm hgt hle
    · exact hnode heq

/-- The wire keeps the term and index of the candidate's last log id and puts the vote's node id
in place of the writer's. Comparisons across terms, and with an absent log id, are unaffected.
They agree for every voter exactly when the candidate has no log or wrote its last entry itself. -/
theorem election_restriction_over_wire (rpc : VoteRequest) :
    (∃ decoded, receivedVote rpc = .ok decoded ∧ decoded.vote = rpc.vote ∧
      decoded.lastLogId = comparedLogId rpc) ∧
    (∀ l v, rpc.lastLogId = some l → l.leaderId.term ≠ v.leaderId.term →
      ComparesAlike rpc (some v)) ∧
    ComparesAlike rpc none ∧
    ((∀ v, ComparesAlike rpc v) ↔
      ∀ l, rpc.lastLogId = some l → l.leaderId.nodeId = rpc.vote.leaderId.nodeId) := by
  refine ⟨⟨_, received_vote rpc, rfl, rfl⟩, fun l v hl hterm => compares_alike_of_term_ne hl hterm,
    ?_, fun hall l hl => ?_, compares_alike_of_own⟩
  · simp [compares_alike_iff, AtLeast]
  · by_contra hnode
    obtain ⟨v, hv⟩ := not_compares_alike_of_foreign hl hnode
    exact hv (hall (some v))

/-- A request of node 3, whose last log entry `(2, 1, 5)` node 1 wrote. -/
def shorterLogRequest : VoteRequest where
  vote := { leaderId := { term := 3, nodeId := 3 }, committed := false }
  lastLogId := some { leaderId := { term := 2, nodeId := 1 }, index := 5 }

/-- A voter whose log of the same leader reaches `(2, 1, 7)` takes the shorter log of
`shorterLogRequest` for the more up-to-date one. -/
theorem shorter_log_looks_longer :
    ¬ ComparesAlike shorterLogRequest
      (some { leaderId := { term := 2, nodeId := 1 }, index := 7 }) := by
  rw [compares_alike_iff]
  decide

end InfoVulcan.Raft
