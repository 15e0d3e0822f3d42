import InfoVulcan.Db.DataTrees
import InfoVulcan.Db.Json
import InfoVulcan.Db.Service

/-!
# Replicas of the DB

Two nodes that have applied the same entries hold the same data, whatever batches the entries came
in and whatever else Raft has done to either store. They have given the same responses and answer
every read alike, so a read shows no more of which node it reached than how far that node is.
-/

namespace InfoVulcan.Db

open Raft

/-! ## Reads depend on the data only -/

section Reads

variable {db db' : Sled} (h : AgreeOnData db db')

include h

/-- Data collections hold the same values under the same keys. -/
theorem AgreeOnData.get_eq {collection : String} (hdata : collection ∉ skippedTrees)
    (key : Bytes) : get db collection key = get db' collection key :=
  h ⟨collection, key⟩ hdata

theorem AgreeOnData.scan_eq {collection : String} (hdata : collection ∉ skippedTrees) :
    Keyspace.scan db collection = Keyspace.scan db' collection :=
  Keyspace.scan_congr (h.get_eq hdata)

theorem AgreeOnData.scanPrefix_eq {collection : String} (hdata : collection ∉ skippedTrees)
    (keyPrefix : Bytes) :
    scanPrefix db collection keyPrefix = scanPrefix db' collection keyPrefix := by
  rw [scanPrefix, scanPrefix, h.scan_eq hdata]

theorem AgreeOnData.list_eq {collection : String} (hdata : collection ∉ skippedTrees)
    (keyPrefix : Bytes) (limit : Option Nat) :
    list db collection keyPrefix limit = list db' collection keyPrefix limit := by
  simp only [list, h.scan_eq hdata, h.scanPrefix_eq hdata]

theorem AgreeOnData.read_eq {ι I : Type} {t : Table ι I} (hdata : t.tree ∉ skippedTrees) (id : ι)
    (includeDeleted : Bool) : t.read db id includeDeleted = t.read db' id includeDeleted := by
  rw [Table.read, Table.read, h.get_eq hdata]

variable [RowFormat]

/-- A query reads data trees only. -/
theorem AgreeOnData.queryTickets_eq (query : TicketQuery) :
    queryTickets db query = queryTickets db' query := by
  have hrows : ∀ id, getTicket db id query.includeDeleted = getTicket db' id query.includeDeleted :=
    fun id => h.read_eq (t := tickets) (by show TREE_TICKETS ∉ _; decide) id _
  have hall : allTicketIds db = allTicketIds db' := by
    rw [allTicketIds, allTicketIds, h.list_eq (by decide)]
  have hindex : ∀ tree ∈ ticketIndexTrees, ∀ value,
      scanIndexIds db tree value = scanIndexIds db' tree value := by
    intro tree htree value
    have hdata : tree ∉ skippedTrees := by revert tree; decide
    rw [scanIndexIds, scanIndexIds, h.scanPrefix_eq hdata]
  have hcandidates : queryCandidates db query = queryCandidates db' query := by
    simp only [queryCandidates, hall, hindex IDX_TICKET_STATUS (by decide),
      hindex IDX_TICKET_ASSIGNEE (by decide), hindex IDX_TICKET_ACCOUNT (by decide),
      hindex IDX_TICKET_PROJECT (by decide)]
  have hloop : ∀ candidates out,
      queryLoop db query candidates out = queryLoop db' query candidates out := by
    intro candidates
    induction candidates with
    | nil => exact fun out => rfl
    | cons id candidates ih => exact fun out => by simp only [queryLoop, hrows, ih]
  rw [queryTickets, queryTickets, hcandidates, hloop]

/-- A request that submits no command is answered alike on the same data, unless it reads from
Raft's own trees. -/
theorem AgreeOnData.answer_eq [FailureText] {req : Request} (hread : req.command? = none)
    (hdata : ∀ collection ∈ req.collection?, collection ∉ skippedTrees) :
    (DatabaseService.answer db req).1 = (DatabaseService.answer db' req).1 := by
  have htickets : ∀ id includeDeleted,
      Db.getTicket db id includeDeleted = Db.getTicket db' id includeDeleted :=
    h.read_eq (t := tickets) (by show TREE_TICKETS ∉ _; decide)
  have husers : ∀ uuid includeDeleted,
      Db.getUser db uuid includeDeleted = Db.getUser db' uuid includeDeleted :=
    h.read_eq (t := users) (by show TREE_USERS ∉ _; decide)
  cases req <;> simp only [Request.command?, ite_eq_left_iff, reduceCtorEq, imp_false,
    not_not] at hread
  case getTicket id includeDeleted =>
    simp only [DatabaseService.answer, DatabaseService.getTicket, htickets]
  case updateTicket id body index =>
    simp only [DatabaseService.answer, DatabaseService.updateTicket, if_pos hread, Prod.map]
  case queryTickets query =>
    simp only [DatabaseService.answer, DatabaseService.queryTickets, h.queryTickets_eq]
  case createUser uuid body index =>
    simp only [DatabaseService.answer, DatabaseService.createUser, if_pos hread, Prod.map]
  case getUser uuid includeDeleted =>
    simp only [DatabaseService.answer, DatabaseService.getUser, husers]
  case updateUser uuid body index =>
    simp only [DatabaseService.answer, DatabaseService.updateUser, if_pos hread, Prod.map]
  case get collection key =>
    simp only [DatabaseService.answer, DatabaseService.get, h.get_eq (hdata collection rfl)]
  case list collection keyPrefix limit =>
    simp only [DatabaseService.answer, DatabaseService.list, h.list_eq (hdata collection rfl)]
  case keyExists collection key =>
    simp only [DatabaseService.answer, DatabaseService.keyExists, Db.keyExists,
      h.get_eq (hdata collection rfl)]

end Reads

/-! ## Responses -/

section Responses

variable [RowFormat]

/-- The response to an entry on a database, if the command of the entry succeeds. -/
def respond? (db : Sled) (entry : DbEntry) : Option DbResponse :=
  match entry.payload with
  | .normal command => (DbStateMachine.apply db command).1.toOption
  | _ => some { success := true, value := none }

/-- The responses to entries that are applied in turn. -/
def responsesTo (db : Sled) : List DbEntry → List DbResponse
  | [] => []
  | entry :: entries =>
      (respond? db entry).toList ++ responsesTo (applyAll db (commands [entry])) entries

theorem responsesTo_append (db : Sled) (xs ys : List DbEntry) :
    responsesTo db (xs ++ ys) =
      responsesTo db xs ++ responsesTo (applyAll db (commands xs)) ys := by
  induction xs generalizing db with
  | nil => rfl
  | cons x xs ih =>
      have hcommands : commands (x :: xs) = commands [x] ++ commands xs := by
        rw [commands, ← List.singleton_append, List.filterMap_append]
        rfl
      rw [List.cons_append, responsesTo, responsesTo, ih, hcommands, applyAll_append,
        List.append_assoc]

/-- A get that is replicated names a data collection. -/
def LogEntry.ReadsData : LogEntry → Prop
  | .get collection _ => collection ∉ skippedTrees
  | _ => True

/-- The response to an entry depends on the data only. -/
theorem AgreeOnData.respond_eq {db db' : Sled} (h : AgreeOnData db db') {entry : DbEntry}
    (hreads : ∀ e ∈ command? entry, e.ReadsData) : respond? db entry = respond? db' entry := by
  rw [respond?, respond?]
  cases hpayload : entry.payload with
  | blank => rfl
  | membership config => rfl
  | normal e =>
      have houtcome := (agree_apply h e).1
      have hgets : ∀ collection key, e = .get collection key →
          get db collection key = get db' collection key := by
        rintro collection key rfl
        have hdata : collection ∉ skippedTrees :=
          hreads (.get collection key) (by rw [command?, hpayload]; rfl)
        exact h.get_eq hdata key
      simp only [DbStateMachine.apply]
      revert houtcome
      cases happly : e.apply db with
      | mk outcome next =>
          cases happly' : e.apply db' with
          | mk outcome' next' =>
              rintro rfl
              cases outcome with
              | error err => rfl
              | ok payload =>
                  cases e with
                  | get collection key =>
                      obtain ⟨-, rfl⟩ := Prod.mk.inj happly
                      obtain ⟨-, rfl⟩ := Prod.mk.inj happly'
                      simp only [hgets collection key rfl]
                  | _ => rfl

theorem AgreeOnData.responsesTo_eq {db db' : Sled} (h : AgreeOnData db db')
    {entries : List DbEntry} (hreads : ∀ e ∈ commands entries, e.ReadsData) :
    responsesTo db entries = responsesTo db' entries := by
  induction entries generalizing db db' with
  | nil => rfl
  | cons entry entries ih =>
      rw [responsesTo, responsesTo, h.respond_eq, ih (agree_applyAll h _)]
      · intro e he
        obtain ⟨d, hd, hde⟩ := List.mem_filterMap.mp he
        exact hreads e (List.mem_filterMap.mpr ⟨d, List.mem_cons_of_mem _ hd, hde⟩)
      · exact fun e he => hreads e (List.mem_filterMap.mpr ⟨entry, List.mem_cons_self, he⟩)

/-- What a batch is answered with is what its entries are responded. -/
theorem DbStore.AnsweredInOrder.eq_responsesTo {store : DbStore} {entries : List DbEntry}
    {responses : List DbResponse} (h : store.AnsweredInOrder entries responses) :
    responses = responsesTo store.storage entries := by
  induction entries generalizing store responses with
  | nil =>
      cases responses with
      | nil => rfl
      | cons response responses => exact h.elim
  | cons entry entries ih =>
      cases responses with
      | nil => exact h.elim
      | cons response responses =>
          obtain ⟨hfirst, hrest⟩ := h
          have hnext : (store.applyEntry entry).2.storage =
              applyAll store.storage (commands [entry]) := by
            rw [(store.applyEntry_spec entry).2, DbStore.advance]
          have hrespond : respond? store.storage entry = some response := by
            obtain ⟨logId, payload⟩ := entry
            cases payload with
            | normal e =>
                simp only [DbStore.applyEntry] at hfirst
                rw [respond?]
                show (DbStateMachine.apply store.storage e).1.toOption = _
                cases happly : DbStateMachine.apply store.storage e with
                | mk outcome storage =>
                    rw [happly] at hfirst
                    cases outcome with
                    | error err => cases hfirst
                    | ok found => exact congrArg some (Except.ok.inj hfirst)
            | _ => exact congrArg some (Except.ok.inj hfirst)
          rw [responsesTo, ← hnext, ← ih hrest, hrespond]
          rfl

end Responses

/-! ## Runs -/

section Runs

variable [RowFormat] [RaftFormat]

/-- What a node answers an operation: the responses to a batch that is applied. -/
def DbStore.respond (store : DbStore) : Operation → List DbResponse
  | .applyToStateMachine entries => (store.applyToStateMachine entries).1.toOption.getD []
  | _ => []

/-- What a node has answered along a run, batch after batch. -/
def DbStore.responses (store : DbStore) : List Operation → List DbResponse
  | [] => []
  | op :: ops => store.respond op ++ (store.perform op).responses ops

omit [RowFormat] [RaftFormat] in
/-- The entries of a run are those of its operations. -/
theorem appliedEntries_cons (op : Operation) (ops : List Operation) :
    appliedEntries (op :: ops) = appliedEntries [op] ++ appliedEntries ops := by
  rw [appliedEntries, ← List.singleton_append, List.flatMap_append]
  rfl

omit [RowFormat] [RaftFormat] in
theorem commands_append (xs ys : List DbEntry) :
    commands (xs ++ ys) = commands xs ++ commands ys :=
  List.filterMap_append

/-- A run is answered in full exactly when the commands of its entries succeed. -/
theorem allAnswered_iff {store : DbStore} {db : Sled} (h : AgreeOnData store.storage db)
    {ops : List Operation} :
    AllAnswered store ops ↔ Succeeds db (commands (appliedEntries ops)) := by
  induction ops generalizing store db with
  | nil => exact ⟨fun _ => trivial, fun _ => trivial⟩
  | cons op ops ih =>
      rw [appliedEntries_cons, commands_append, succeeds_append, AllAnswered]
      by_cases hraft : ∀ batch, op ≠ .applyToStateMachine batch
      · have hentries : appliedEntries [op] = [] := by
          cases op with
          | applyToStateMachine batch => exact absurd rfl (hraft batch)
          | _ => rfl
        have hnext : AgreeOnData (store.perform op).storage db := fun c hc =>
          (at_perform_outside store hraft (fun he => hc (by rw [he]; decide))
            (fun he => hc (by rw [he]; decide))).trans (h c hc)
        rw [hentries]
        exact and_congr ⟨fun _ => trivial, fun _ batch hop => absurd hop (hraft batch)⟩ (ih hnext)
      · simp only [not_forall, not_not] at hraft
        obtain ⟨batch, rfl⟩ := hraft
        have hentries : appliedEntries [.applyToStateMachine batch] = batch :=
          List.append_nil batch
        have hbatch : (∃ responses store',
            store.applyToStateMachine batch = (.ok responses, store')) ↔
            Succeeds db (commands batch) := by
          rw [← agree_succeeds h]
          constructor
          · rintro ⟨responses, store', hok⟩
            exact DbStore.succeeds_of_ok hok
          · intro hsucceeds
            obtain ⟨responses, -, hok⟩ := DbStore.applyToStateMachine_ok hsucceeds
            exact ⟨responses, _, hok⟩
        have hfirst : (∀ entries,
            Operation.applyToStateMachine batch = .applyToStateMachine entries →
            ∃ responses store', store.applyToStateMachine entries = (.ok responses, store')) ↔
            Succeeds db (commands batch) := by
          rw [← hbatch]
          exact ⟨fun hall => hall batch rfl, fun hok entries hop =>
            Operation.applyToStateMachine.inj hop ▸ hok⟩
        rw [hentries, hfirst]
        refine and_congr_right fun hsucceeds => ?_
        obtain ⟨responses, store', hok⟩ := hbatch.mpr hsucceeds
        have hperform : store.perform (.applyToStateMachine batch) = store' := by
          rw [DbStore.perform, hok]
        rw [hperform, DbStore.store_of_ok hok]
        exact ih (agree_applyAll h _)

/-- A run that is answered in full answers as its entries are responded. -/
theorem responses_eq {store : DbStore} {db : Sled} (h : AgreeOnData store.storage db)
    {ops : List Operation} (hops : AllAnswered store ops)
    (hreads : ∀ e ∈ commands (appliedEntries ops), e.ReadsData) :
    store.responses ops = responsesTo db (appliedEntries ops) := by
  induction ops generalizing store db with
  | nil => rfl
  | cons op ops ih =>
      obtain ⟨hanswered, hrest⟩ := hops
      rw [appliedEntries_cons, commands_append] at hreads
      rw [appliedEntries_cons, responsesTo_append, DbStore.responses]
      have hlater : ∀ e ∈ commands (appliedEntries ops), e.ReadsData :=
        fun e he => hreads e (List.mem_append_right _ he)
      cases op with
      | applyToStateMachine batch =>
          obtain ⟨responses, store', hok⟩ := hanswered batch rfl
          obtain ⟨responses', hinOrder, hok'⟩ :=
            DbStore.applyToStateMachine_ok (DbStore.succeeds_of_ok hok)
          have hentries : appliedEntries [.applyToStateMachine batch] = batch :=
            List.append_nil batch
          have hperform : store.perform (.applyToStateMachine batch) = store.advance batch := by
            rw [DbStore.perform, hok']
          rw [hperform] at hrest ⊢
          rw [hentries] at hreads ⊢
          rw [ih (agree_applyAll h _) hrest hlater, DbStore.respond, hok',
            ← h.responsesTo_eq fun e he => hreads e (List.mem_append_left _ he),
            ← hinOrder.eq_responsesTo]
          rfl
      | _ =>
          refine ih (fun c hc => ?_) hrest hlater
          rw [at_perform_outside store (by simp) (fun he => hc (by rw [he]; decide))
            (fun he => hc (by rw [he]; decide))]
          exact h c hc

/-- What two nodes have in common once they have applied the same entries. -/
structure InStep (node other : DbStore) : Prop where
  data : AgreeOnData node.storage other.storage
  position : node.stateMachine = other.stateMachine
  reads : ∀ [FailureText] (req : Request), req.command? = none →
    (∀ collection ∈ req.collection?, collection ∉ skippedTrees) →
    (DatabaseService.answer node.storage req).1 = (DatabaseService.answer other.storage req).1

omit [RaftFormat] in
/-- Nodes that have applied the same entries are in step. -/
theorem HasApplied.inStep {node other : DbStore} {entries : List DbEntry}
    (h : HasApplied node entries) (hother : HasApplied other entries) : InStep node other where
  data := h.data.trans hother.data.symm
  position := h.position.trans hother.position.symm
  reads _ hread hdata := (h.data.trans hother.data.symm).answer_eq hread hdata

/-- A node that lags behind a node which has answered everything has answered everything too, with
the same responses. Once it applies the entries it lacks, it is in step. -/
theorem replicas_converge {ahead behind : List Operation} {rest : List DbEntry}
    (hahead : AllAnswered DbStore.blank ahead)
    (hentries : appliedEntries ahead = appliedEntries behind ++ rest)
    (hreads : ∀ e ∈ commands (appliedEntries ahead), e.ReadsData) :
    AllAnswered DbStore.blank behind ∧
      ∃ responses node, (DbStore.blank.performAll behind).applyToStateMachine rest =
          (.ok responses, node) ∧
        DbStore.blank.responses ahead = DbStore.blank.responses behind ++ responses ∧
        InStep node (DbStore.blank.performAll ahead) := by
  have hsucceeds := (allAnswered_iff (AgreeOnData.refl _)).mp hahead
  have hsplit : commands (appliedEntries ahead) =
      commands (appliedEntries behind) ++ commands rest := by
    rw [hentries, commands_append]
  rw [hsplit, succeeds_append] at hsucceeds
  have hbehind : AllAnswered DbStore.blank behind :=
    (allAnswered_iff (AgreeOnData.refl _)).mpr hsucceeds.1
  have happlied := hasApplied_of_run hbehind
  obtain ⟨responses, hinOrder, hok⟩ :=
    DbStore.applyToStateMachine_ok ((agree_succeeds happlied.data).mpr hsucceeds.2)
  rw [hsplit] at hreads
  refine ⟨hbehind, responses, _, hok, ?_, ?_⟩
  · rw [responses_eq (AgreeOnData.refl _) hahead (hsplit ▸ hreads),
      responses_eq (AgreeOnData.refl _) hbehind fun e he => hreads e (List.mem_append_left _ he),
      hentries, responsesTo_append, hinOrder.eq_responsesTo,
      happlied.data.responsesTo_eq fun e he => hreads e (List.mem_append_right _ he)]
    rfl
  · have hcaught := happlied.apply hok
    rw [← hentries] at hcaught
    exact hcaught.inStep (hasApplied_of_run hahead)

end Runs

end InfoVulcan.Db

/-! ## Runs on the JSON formats -/

namespace InfoVulcan.Db

open Raft
open scoped SerdeJson

/-- The first entry puts a pair. -/
def putNote : DbEntry :=
  committedAt 1 (.put "notes" [1] [2])

/-- The second entry reads the pair back. -/
def getNote : DbEntry :=
  committedAt 2 (.get "notes" [1])

/-- A node that has voted and lacks the second entry. -/
theorem replicas_converge_note :
    AllAnswered DbStore.blank [.saveVote ⟨⟨1, 1⟩, true⟩, .applyToStateMachine [putNote]] ∧
      ∃ responses node,
        (DbStore.blank.performAll [.saveVote ⟨⟨1, 1⟩, true⟩,
            .applyToStateMachine [putNote]]).applyToStateMachine [getNote] =
          (.ok responses, node) ∧
        DbStore.blank.responses [.applyToStateMachine [putNote, getNote]] =
          DbStore.blank.responses [.saveVote ⟨⟨1, 1⟩, true⟩, .applyToStateMachine [putNote]] ++
            responses ∧
        InStep node (DbStore.blank.performAll [.applyToStateMachine [putNote, getNote]]) := by
  refine replicas_converge (allAnswered_batch ⟨⟨_, rfl⟩, ⟨_, rfl⟩, trivial⟩) rfl fun e he => ?_
  rcases List.mem_cons.mp he with rfl | he
  · trivial
  · obtain rfl := List.mem_singleton.mp he
    show "notes" ∉ skippedTrees
    decide

end InfoVulcan.Db
