import InfoVulcan.Raft.Rpc

/-!
# Snapshot metadata over the wire

The wire carries the version of a membership instead of the membership, so the receiver of a
snapshot rebuilds an empty one (`receivedMeta`), however the snapshot was sent. What arrives is
what was sent in no case but one, that of a membership that was empty before
(`receivedMeta_eq_self_iff`).
-/

namespace InfoVulcan.Raft

/-! ## Membership versions -/

/-- A version that fits is the index. -/
theorem membershipVersion_of_lt {index : UInt64} (h : index.toNat < 2 ^ 32) :
    (DbNetwork.membershipVersion index).toUInt64 = index := by
  rw [DbNetwork.membershipVersion, if_pos h]
  apply UInt64.toNat_inj.mp
  rw [UInt32.toNat_toUInt64, UInt32.toNat_ofNat_of_lt' h]

/-- The version is the index, cut to 32 bits' worth. -/
theorem toNat_membershipVersion (index : UInt64) :
    (DbNetwork.membershipVersion index).toUInt64.toNat = min index.toNat (2 ^ 32 - 1) := by
  by_cases h : index.toNat < 2 ^ 32
  · rw [membershipVersion_of_lt h]
    omega
  · rw [DbNetwork.membershipVersion, if_neg h, UInt32.toNat_toUInt64,
      UInt32.toNat_ofNat_of_lt' (by decide)]
    omega

/-- An index survives as a version exactly when it fits. -/
theorem membershipVersion_eq_iff {index : UInt64} :
    (DbNetwork.membershipVersion index).toUInt64 = index ↔ index.toNat < 2 ^ 32 := by
  rw [← UInt64.toNat_inj, toNat_membershipVersion]
  omega

/-! ## Metadata -/

/-- The log id under which the receiver stores the membership: of the term of the last log id, of
the sender, and with the version as its index. -/
def receivedMembershipLogId (nodeId : UInt64) (sent : SnapshotMeta) : LogId where
  leaderId :=
    { term := (sent.lastLogId.map fun l => l.leaderId.term).getD 0
      nodeId }
  index := (DbNetwork.membershipVersion
    ((sent.lastMembership.logId.map fun l => l.index).getD 0)).toUInt64

/-- The metadata the receiver of a snapshot rebuilds from what a sender with this node id sent. -/
def receivedMeta (nodeId : UInt64) (sent : SnapshotMeta) : SnapshotMeta where
  lastLogId := sent.lastLogId.map (LogId.under · nodeId)
  lastMembership :=
    { logId := some (receivedMembershipLogId nodeId sent)
      membership := { configs := [], nodes := [] } }
  snapshotId := sent.snapshotId

theorem snapshotMeta_snapshotMetaToProto (nodeId : UInt64) (sent : SnapshotMeta) :
    snapshotMeta
        ((DbNetwork.snapshotMetaToProto sent).lastLogId.map fun l => (l.term, l.index))
        (DbNetwork.snapshotMetaToProto sent).lastMembership
        (DbNetwork.snapshotMetaToProto sent).snapshotId nodeId = receivedMeta nodeId sent := by
  rcases sent with ⟨_ | ⟨⟨term, node⟩, index⟩, ⟨logId, membership⟩, snapshotId⟩ <;> rfl

/-- A whole snapshot arrives with its data. -/
theorem received_fullSnapshot (vote : Vote) (sent : SnapshotMeta) (data : Bytes) :
    RaftServiceImpl.installSnapshotFromProto (DbNetwork.fullSnapshotToProto vote sent data) =
      .ok ⟨vote, receivedMeta vote.leaderId.nodeId sent, 0, data, true⟩ := by
  rw [← snapshotMeta_snapshotMetaToProto]
  rfl

/-- A part of a snapshot arrives as it was sent, apart from its metadata. -/
theorem received_installSnapshot (rpc : InstallSnapshotRequest) :
    RaftServiceImpl.installSnapshotFromProto (DbNetwork.installSnapshotToProto rpc) =
      .ok { rpc with
        snapshotMeta := receivedMeta rpc.vote.leaderId.nodeId rpc.snapshotMeta } := by
  rw [← snapshotMeta_snapshotMetaToProto]
  rfl

/-- The metadata arrives as it was sent exactly when the sender wrote the last log id, and its
membership was empty and stored under the log id that the receiver makes up. -/
theorem receivedMeta_eq_self_iff {nodeId : UInt64} {sent : SnapshotMeta} :
    receivedMeta nodeId sent = sent ↔
      (∀ l, sent.lastLogId = some l → l.leaderId.nodeId = nodeId) ∧
      sent.lastMembership.membership = ⟨[], []⟩ ∧
      ∃ l, sent.lastMembership.logId = some l ∧ l.index.toNat < 2 ^ 32 ∧
        l.leaderId.nodeId = nodeId ∧
        l.leaderId.term = (sent.lastLogId.map fun last => last.leaderId.term).getD 0 := by
  rw [← LogId.map_under_eq_self]
  rcases sent with ⟨lastLogId, ⟨logId, membership⟩, snapshotId⟩
  simp only [receivedMeta, SnapshotMeta.mk.injEq, StoredMembership.mk.injEq, and_true]
  refine and_congr_right fun _ => ?_
  rw [and_comm, eq_comm (b := membership)]
  refine and_congr_right fun _ => ?_
  cases logId with
  | none => simp
  | some l =>
      rcases l with ⟨⟨term, node⟩, index⟩
      simp only [Option.some.injEq, receivedMembershipLogId, Option.map_some, Option.getD_some,
        LogId.mk.injEq, LeaderId.mk.injEq, membershipVersion_eq_iff, exists_eq_left']
      constructor
      · rintro ⟨⟨rfl, rfl⟩, hindex⟩
        exact ⟨hindex, rfl, rfl⟩
      · rintro ⟨hindex, rfl, rfl⟩
        exact ⟨⟨rfl, rfl⟩, hindex⟩

/-- However it is sent, the metadata of a snapshot arrives with its snapshot id, with its last log
id under the sender's node id, and with an empty membership under a log id whose index is the one
of the membership cut to 32 bits. Only metadata of that form arrives as it was sent. -/
theorem snapshot_meta_over_wire (sent : SnapshotMeta) :
    (∀ (vote : Vote) (data : Bytes),
      RaftServiceImpl.installSnapshotFromProto (DbNetwork.fullSnapshotToProto vote sent data) =
        .ok ⟨vote, receivedMeta vote.leaderId.nodeId sent, 0, data, true⟩) ∧
    (∀ (vote : Vote) (offset : UInt64) (data : Bytes) (done : Bool),
      RaftServiceImpl.installSnapshotFromProto
          (DbNetwork.installSnapshotToProto ⟨vote, sent, offset, data, done⟩) =
        .ok ⟨vote, receivedMeta vote.leaderId.nodeId sent, offset, data, done⟩) ∧
    (∀ nodeId, (receivedMembershipLogId nodeId sent).index.toNat =
      min ((sent.lastMembership.logId.map fun l => l.index.toNat).getD 0) (2 ^ 32 - 1)) ∧
    (∀ nodeId, receivedMeta nodeId sent = sent ↔
      (∀ l, sent.lastLogId = some l → l.leaderId.nodeId = nodeId) ∧
      sent.lastMembership.membership = ⟨[], []⟩ ∧
      ∃ l, sent.lastMembership.logId = some l ∧ l.index.toNat < 2 ^ 32 ∧
        l.leaderId.nodeId = nodeId ∧
        l.leaderId.term = (sent.lastLogId.map fun last => last.leaderId.term).getD 0) := by
  refine ⟨fun vote data => received_fullSnapshot vote sent data,
    fun vote offset data done => received_installSnapshot ⟨vote, sent, offset, data, done⟩,
    fun nodeId => ?_, fun nodeId => receivedMeta_eq_self_iff⟩
  rw [receivedMembershipLogId, toNat_membershipVersion]
  cases sent.lastMembership.logId <;> rfl

/-- The metadata of a snapshot in a cluster of one node, written by that node. -/
def singleNodeMeta : SnapshotMeta where
  lastLogId := some { leaderId := { term := 1, nodeId := 1 }, index := 5 }
  lastMembership :=
    { logId := some { leaderId := { term := 1, nodeId := 1 }, index := 0 }
      membership := { configs := [[1]], nodes := [(1, "node1:8080")] } }
  snapshotId := "snapshot-1"

/-- The receiver of a snapshot is left without voters. -/
theorem voters_lost_on_wire :
    ∃ received, RaftServiceImpl.installSnapshotFromProto
        (DbNetwork.fullSnapshotToProto ⟨⟨1, 1⟩, true⟩ singleNodeMeta []) = .ok received ∧
      received.snapshotMeta.lastMembership.membership ≠
        singleNodeMeta.lastMembership.membership :=
  ⟨_, received_fullSnapshot _ _ _, by decide⟩

end InfoVulcan.Raft
