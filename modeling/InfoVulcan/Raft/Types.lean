import InfoVulcan.Library.Bytes

/-!
# Consensus types shared by the Raft services

The `openraft` 0.9 types the services pass around, with the order of log ids: term first, then
the id of the node that led the term, then the index. An absent log id is below every other.
-/

namespace InfoVulcan.Raft

/-- A term together with the node that leads it. -/
structure LeaderId where
  term : UInt64
  nodeId : UInt64
  deriving DecidableEq, Repr, Inhabited

/-- The position of a log entry: the leader that wrote it and its index. -/
structure LogId where
  leaderId : LeaderId
  index : UInt64
  deriving DecidableEq, Repr, Inhabited

/-- The log id under another node id. -/
def LogId.under (l : LogId) (nodeId : UInt64) : LogId :=
  { l with leaderId := { l.leaderId with nodeId } }

/-- A vote for a leader. A committed vote has been granted by a quorum. -/
structure Vote where
  leaderId : LeaderId
  committed : Bool
  deriving DecidableEq, Repr, Inhabited

/-- A cluster configuration: the voter sets and the known nodes with their addresses. -/
structure Membership where
  configs : List (List UInt64)
  nodes : List (UInt64 × String)
  deriving DecidableEq, Repr, Inhabited

/-- A configuration with the log id at which it was stored. -/
structure StoredMembership where
  logId : Option LogId
  membership : Membership
  deriving DecidableEq, Repr, Inhabited

/-- What a log entry carries: a leader's blank entry, a command, or a configuration. -/
inductive EntryPayload (D : Type) where
  | blank
  | normal (command : D)
  | membership (config : Membership)
  deriving DecidableEq, Repr

/-- A log entry. -/
structure Entry (D : Type) where
  logId : LogId
  payload : EntryPayload D
  deriving DecidableEq, Repr

/-- The metadata of a snapshot. -/
structure SnapshotMeta where
  lastLogId : Option LogId
  lastMembership : StoredMembership
  snapshotId : String
  deriving DecidableEq, Repr, Inhabited

/-! ## Order of log ids -/

/-- The order of log ids: by term, then by node, then by index. -/
def LogId.Le (a b : LogId) : Prop :=
  a.leaderId.term < b.leaderId.term ∨
    (a.leaderId.term = b.leaderId.term ∧
      (a.leaderId.nodeId < b.leaderId.nodeId ∨
        (a.leaderId.nodeId = b.leaderId.nodeId ∧ a.index ≤ b.index)))

instance : LE LogId := ⟨LogId.Le⟩

instance (a b : LogId) : Decidable (a ≤ b) :=
  inferInstanceAs (Decidable (_ ∨ _))

/-- The last log id `a` is at least as up to date as `b`. An absent log id is lowest. -/
def AtLeast : Option LogId → Option LogId → Prop
  | _, none => True
  | none, some _ => False
  | some a, some b => b ≤ a

instance : (a b : Option LogId) → Decidable (AtLeast a b)
  | _, none => isTrue trivial
  | none, some _ => isFalse id
  | some a, some b => inferInstanceAs (Decidable (b ≤ a))

/-- Every log id is at least itself. -/
theorem LogId.le_refl (a : LogId) : a ≤ a :=
  .inr ⟨rfl, .inr ⟨rfl, UInt64.le_refl _⟩⟩

/-- Log ids of one term compare by node and then by index. -/
theorem LogId.le_of_term_eq {a b : LogId} (h : a.leaderId.term = b.leaderId.term) :
    a ≤ b ↔ a.leaderId.nodeId < b.leaderId.nodeId ∨
      (a.leaderId.nodeId = b.leaderId.nodeId ∧ a.index ≤ b.index) := by
  constructor
  · rintro (hlt | ⟨-, hle⟩)
    · exact absurd (h ▸ hlt) (UInt64.lt_irrefl _)
    · exact hle
  · exact fun hle => .inr ⟨h, hle⟩

/-- Log ids of different terms compare by term alone. -/
theorem LogId.le_of_term_ne {a b : LogId} (h : a.leaderId.term ≠ b.leaderId.term) :
    a ≤ b ↔ a.leaderId.term < b.leaderId.term := by
  constructor
  · rintro (hlt | ⟨heq, -⟩)
    · exact hlt
    · exact absurd heq h
  · exact .inl

/-! ## Node ids of log ids -/

/-- Only its own node id leaves a log id as it is. -/
theorem LogId.under_eq_self {l : LogId} {nodeId : UInt64} :
    l.under nodeId = l ↔ l.leaderId.nodeId = nodeId := by
  rcases l with ⟨⟨term, node⟩, index⟩
  simp [LogId.under, eq_comm]

/-- An absent log id has no node id to lose. -/
theorem LogId.map_under_eq_self {o : Option LogId} {nodeId : UInt64} :
    o.map (LogId.under · nodeId) = o ↔ ∀ l, o = some l → l.leaderId.nodeId = nodeId := by
  cases o with
  | none => simp
  | some l => simp [LogId.under_eq_self]

end InfoVulcan.Raft
