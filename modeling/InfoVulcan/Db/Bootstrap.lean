import InfoVulcan.Db.Peers

/-!
# The start of a cluster

At its start a node reads its id, its address and the peers from the environment. It is the one to
initialize the cluster if it is the first of the peers (`members_iff`), so among nodes that are told
the same peers one id at most does so (`members_unique`), it is not zero, and it knows the address
of every member (`member_reachable`). A node that is told no peers initializes a cluster of its own
unless its id is zero (`members_alone_iff`).
-/

namespace InfoVulcan.Db

/-! ## The network factory -/

/-- The addresses under which other nodes are called. -/
structure DbNetworkFactory where
  peers : Std.HashMap UInt64 String

namespace DbNetworkFactory

/-- A factory that knows no node. -/
def new : DbNetworkFactory where
  peers := ∅

/-- Adds a node, in the place of an earlier one with the same id. -/
def addNode (factory : DbNetworkFactory) (nodeId : UInt64) (address : String) :
    DbNetworkFactory where
  peers := factory.peers.insert nodeId address

/-- The address of a node, if it is known. -/
def getPeerAddress (factory : DbNetworkFactory) (nodeId : UInt64) : Option String :=
  factory.peers[nodeId]?

/-- The address a client of a node calls. A node that is not known is called under the address the
membership has for it. -/
def newClient (factory : DbNetworkFactory) (target : UInt64) (nodeAddr : String) : String :=
  (factory.getPeerAddress target).getD s!"http://{nodeAddr}:8080"

end DbNetworkFactory

/-- The network factory that knows the peers of a text, and the peers. -/
def buildNetworkFactoryAndPeers (peersStr : String) : DbNetworkFactory × List PeerConfig :=
  let peers := parsePeerConfigs peersStr
  (peers.foldl (fun factory peer => factory.addNode peer.nodeId peer.address) .new, peers)

/-! ## The node that initializes the cluster -/

/-- A node initializes the cluster if it is the first of the peers. -/
def shouldInitializeCluster (nodeId : UInt64) (allPeers : List UInt64) : Bool :=
  nodeId == allPeers.head?.getD 1 && !allPeers.isEmpty

/-- The members a node initializes the cluster with, if it does. -/
def initializeClusterIfLeader (nodeId : UInt64) (allPeers : List UInt64) :
    Option (Finset UInt64) :=
  if shouldInitializeCluster nodeId allPeers then some allPeers.toFinset else none

/-! ## The start of a node -/

/-- The variables of the environment, where they are set. -/
structure Environment where
  nodeId : Option String
  listenAddr : Option String
  raftPeers : Option String

/-- What a node starts with. -/
structure Startup where
  nodeId : UInt64
  listenAddr : String
  networkFactory : DbNetworkFactory
  allPeers : List UInt64

/-- The address a node listens on. -/
def Environment.address (env : Environment) : String :=
  env.listenAddr.getD "[::1]:50051"

/-- The peers a node is told. By default it is its only peer. -/
def Environment.peersStr (env : Environment) (nodeId : UInt64) : String :=
  env.raftPeers.getD s!"{nodeId}:{env.address}"

/-- A node starts unless its id is set to what is no number. -/
def startup (env : Environment) : Option Startup := do
  let nodeId ← Decimal.parseU64 (env.nodeId.getD "1")
  let (networkFactory, peers) := buildNetworkFactoryAndPeers (env.peersStr nodeId)
  some {
    nodeId := nodeId
    listenAddr := env.address
    networkFactory := networkFactory
    allPeers := peers.map PeerConfig.nodeId }

/-- The members a node initializes the cluster with at its start, if it does. -/
def Startup.members (node : Startup) : Option (Finset UInt64) :=
  initializeClusterIfLeader node.nodeId node.allPeers

/-! ## Addresses -/

variable {env : Environment} {node : Startup} {members : Finset UInt64}

/-- The address of a node is the last one that is listed for it. -/
theorem getPeerAddress_foldl (peers : List PeerConfig) (factory : DbNetworkFactory)
    (nodeId : UInt64) :
    (peers.foldl (fun factory peer => factory.addNode peer.nodeId peer.address)
        factory).getPeerAddress nodeId =
      ((peers.reverse.find? (·.nodeId = nodeId)).map PeerConfig.address).or
        (factory.getPeerAddress nodeId) := by
  induction peers generalizing factory with
  | nil => rfl
  | cons peer peers ih =>
      rw [List.foldl_cons, ih, List.reverse_cons, List.find?_append]
      by_cases h : peer.nodeId = nodeId <;>
        cases peers.reverse.find? (·.nodeId = nodeId) <;>
          simp [DbNetworkFactory.getPeerAddress, DbNetworkFactory.addNode, h,
            Std.HashMap.getElem?_insert]

theorem getPeerAddress_build (peersStr : String) (nodeId : UInt64) :
    (buildNetworkFactoryAndPeers peersStr).1.getPeerAddress nodeId =
      ((parsePeerConfigs peersStr).reverse.find? (·.nodeId = nodeId)).map PeerConfig.address := by
  rw [buildNetworkFactoryAndPeers, getPeerAddress_foldl]
  simp [DbNetworkFactory.getPeerAddress, DbNetworkFactory.new]

/-- A node that is listed is called under an address that is listed for it. -/
theorem exists_newClient {peersStr : String} {target : UInt64}
    (h : target ∈ (parsePeerConfigs peersStr).map PeerConfig.nodeId) (nodeAddr : String) :
    ∃ peer ∈ parsePeerConfigs peersStr, peer.nodeId = target ∧
      (buildNetworkFactoryAndPeers peersStr).1.newClient target nodeAddr = peer.address := by
  obtain ⟨listed, hlisted, hid⟩ := List.mem_map.mp h
  have hsome : ((parsePeerConfigs peersStr).reverse.find? (·.nodeId = target)).isSome :=
    List.find?_isSome.mpr ⟨listed, List.mem_reverse.mpr hlisted, by simpa using hid⟩
  obtain ⟨peer, hpeer⟩ := Option.isSome_iff_exists.mp hsome
  refine ⟨peer, List.mem_reverse.mp (List.mem_of_find?_eq_some hpeer), ?_, ?_⟩
  · simpa using List.find?_some hpeer
  · rw [DbNetworkFactory.newClient, getPeerAddress_build, hpeer, Option.map_some, Option.getD_some]

/-! ## Who initializes the cluster -/

theorem shouldInitializeCluster_iff {nodeId : UInt64} {allPeers : List UInt64} :
    shouldInitializeCluster nodeId allPeers = true ↔ allPeers.head? = some nodeId := by
  cases allPeers with
  | nil => simp [shouldInitializeCluster]
  | cons first rest => simpa [shouldInitializeCluster] using eq_comm

/-- What a node has read when it starts. -/
theorem startup_eq_some_iff :
    startup env = some node ↔
      Decimal.parseU64 (env.nodeId.getD "1") = some node.nodeId ∧ node.listenAddr = env.address ∧
        node.networkFactory = (buildNetworkFactoryAndPeers (env.peersStr node.nodeId)).1 ∧
        node.allPeers = (parsePeerConfigs (env.peersStr node.nodeId)).map PeerConfig.nodeId := by
  rcases node with ⟨nodeId, listenAddr, networkFactory, allPeers⟩
  dsimp only
  rw [startup, Option.bind_eq_bind, Option.bind_eq_some_iff]
  constructor
  · rintro ⟨read, hread, hnode⟩
    cases hnode
    exact ⟨hread, rfl, rfl, rfl⟩
  · rintro ⟨hread, rfl, rfl, rfl⟩
    exact ⟨nodeId, hread, rfl⟩

/-- A node initializes the cluster if it is the first of the peers, with all of them. -/
theorem members_iff :
    node.members = some members ↔
      node.allPeers.head? = some node.nodeId ∧ members = node.allPeers.toFinset := by
  rw [Startup.members, initializeClusterIfLeader, ← shouldInitializeCluster_iff]
  split
  case isTrue h => simp [h, eq_comm]
  case isFalse h => simp [h]

/-- Of nodes that are told the same peers, those that initialize the cluster have one id, and they
initialize it with the same members. -/
theorem members_unique {env' : Environment} {node' : Startup} {members' : Finset UInt64}
    {peersStr : String} (hpeers : env.raftPeers = some peersStr)
    (hpeers' : env'.raftPeers = some peersStr) (hstart : startup env = some node)
    (hstart' : startup env' = some node') (h : node.members = some members)
    (h' : node'.members = some members') : node.nodeId = node'.nodeId ∧ members = members' := by
  obtain ⟨-, -, -, hall⟩ := startup_eq_some_iff.mp hstart
  obtain ⟨-, -, -, hall'⟩ := startup_eq_some_iff.mp hstart'
  have hsame : node.allPeers = node'.allPeers := by
    rw [hall, hall', Environment.peersStr, Environment.peersStr, hpeers, hpeers']
    rfl
  obtain ⟨hfirst, rfl⟩ := members_iff.mp h
  obtain ⟨hfirst', rfl⟩ := members_iff.mp h'
  rw [hsame] at hfirst
  exact ⟨Option.some.inj (hfirst.symm.trans hfirst'), by rw [hsame]⟩

/-- A node that initializes the cluster has an id that is not zero. -/
theorem nodeId_ne_zero_of_members (hstart : startup env = some node)
    (h : node.members = some members) : node.nodeId ≠ 0 := by
  obtain ⟨-, -, -, hall⟩ := startup_eq_some_iff.mp hstart
  have hmem := List.mem_of_mem_head? (members_iff.mp h).1
  rw [hall] at hmem
  obtain ⟨peer, hpeer, hid⟩ := List.mem_map.mp hmem
  exact hid ▸ nodeId_ne_zero hpeer

/-- A node that initializes the cluster calls every member under an address listed for it. -/
theorem member_reachable (hstart : startup env = some node) (h : node.members = some members)
    {member : UInt64} (hmember : member ∈ members) (nodeAddr : String) :
    ∃ peer ∈ parsePeerConfigs (env.peersStr node.nodeId), peer.nodeId = member ∧
      node.networkFactory.newClient member nodeAddr = peer.address := by
  obtain ⟨-, -, hfactory, hall⟩ := startup_eq_some_iff.mp hstart
  obtain ⟨-, rfl⟩ := members_iff.mp h
  rw [List.mem_toFinset, hall] at hmember
  rw [hfactory]
  exact exists_newClient hmember nodeAddr

/-- Of peers that are written as they can be read, the first one initializes the cluster. -/
theorem members_listed_iff {first : PeerConfig} {rest : List PeerConfig}
    (hwritable : ∀ peer ∈ first :: rest, peer.Writable)
    (hpeers : env.raftPeers = some (render (first :: rest))) (hstart : startup env = some node) :
    (∃ members, node.members = some members) ↔ node.nodeId = first.nodeId := by
  obtain ⟨-, -, -, hall⟩ := startup_eq_some_iff.mp hstart
  rw [Environment.peersStr, hpeers, Option.getD_some, parsePeerConfigs_render hwritable] at hall
  simp only [members_iff, hall, List.map_cons, List.head?_cons, exists_and_left, exists_eq,
    and_true, Option.some.injEq]
  exact eq_comm

/-- The peer that is listed first by default is the node itself, unless its id is zero. -/
theorem head_parsePeerConfigs_default {nodeId : UInt64} (h : nodeId ≠ 0) (listenAddr : String) :
    ((parsePeerConfigs s!"{nodeId}:{listenAddr}").map PeerConfig.nodeId).head? = some nodeId := by
  have hid := Decimal.parseU64_toString nodeId
  have hcomma : ',' ∉ (toString nodeId ++ ":").toList := by
    simpa using not_mem_number hid ',' (by decide)
  obtain ⟨part, parts, -, hsplit⟩ := Text.split_prefix hcomma listenAddr
  obtain ⟨peer, hpeer, hnames⟩ := exists_names hid h part
  have htext : s!"{nodeId}:{listenAddr}" = toString nodeId ++ ":" ++ listenAddr := rfl
  rw [htext, parsePeerConfigs_eq, hsplit, List.filterMap_cons_some (names_iff.mp hnames),
    List.map_cons, List.head?_cons, hpeer]

/-- A node that is told no peers initializes a cluster unless its id is zero. -/
theorem members_alone_iff (hpeers : env.raftPeers = none) (hstart : startup env = some node) :
    (∃ members, node.members = some members) ↔ node.nodeId ≠ 0 := by
  constructor
  · rintro ⟨members, h⟩
    exact nodeId_ne_zero_of_members hstart h
  · intro hne
    obtain ⟨-, -, -, hall⟩ := startup_eq_some_iff.mp hstart
    rw [Environment.peersStr, hpeers, Option.getD_none] at hall
    exact ⟨_, members_iff.mpr ⟨hall ▸ head_parsePeerConfigs_default hne _, rfl⟩⟩

end InfoVulcan.Db
