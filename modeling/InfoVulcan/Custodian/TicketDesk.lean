import InfoVulcan.Custodian.Conversions
import InfoVulcan.Custodian.Lifecycle
import InfoVulcan.Custodian.LockCalls
import InfoVulcan.Db.Clients
import InfoVulcan.Db.QueryFilters

/-!
# What readers of tickets see

`TicketDesk` puts the parts together that serve tickets: update calls that overlap (`System`),
creations, and a DB node that other services store pairs on. `written` lists the messages that
accepted creations and updates were answered with, in the order of their writes, and `sent` the
requests the DB has received; no step depends on them. Whatever the order of the steps,
`tickets_read_back` says that readers see the message written last, and
`ticket_calls_never_stop_node` that the DB node stays up.
-/

namespace InfoVulcan.Custodian

open Db (TicketTable StoredTicket Represents RecordBook DbNode tickets)

variable [Chrono] [Primitives]

/-! ## The desk -/

/-- What serves tickets, with the messages written and the requests sent to the DB so far. -/
structure TicketDesk where
  system : System
  written : List TicketMessage
  sent : List Db.Request

/-- What can happen next: a ticket is created, something happens to the update calls, or another
service has a request to the DB answered. -/
inductive DeskEvent where
  | create (now : Chrono.DateTime) (nowMillis : Int64) (entropy : Primitives.Entropy)
      (req : CreateTicketRequest)
  | call (e : Event)
  | elsewhere (req : Db.Request)

namespace DeskEvent

/-- The event asks for a new ticket. -/
def isCreate : DeskEvent → Bool
  | create .. => true
  | _ => false

/-- A request of another service is about key-value pairs outside the trees of tickets and Raft. -/
def Apart : DeskEvent → Prop
  | elsewhere req => req.collection?.isSome ∧ req.Admissible false
  | _ => True

end DeskEvent

variable [TicketFormat] [UuidParser] [Db.RowFormat] [FailureText]

namespace TicketDesk

/-- A desk before the first request, on an empty DB. -/
def blank (locks : Sled) (now : Chrono.DateTime) : TicketDesk where
  system := System.start locks Keyspace.empty now
  written := []
  sent := []

/-- The message of an update that has been accepted by its write. -/
def accepted (sys : System) : Event → List TicketMessage
  | .writeRow i =>
      match sys.calls[i]? with
      | some (.answered _ (.ok message)) => [message]
      | _ => []
  | _ => []

/-- The requests to the DB that an event makes. -/
def requests (service : CustodianServiceImpl) (sys : System) : DeskEvent → List Db.Request
  | .create now _ entropy req =>
      match CustodianServiceImpl.newTicket req now with
      | .error _ => []
      | .ok ticket =>
          match service.encryptTicket ticket entropy with
          | .error _ => []
          | .ok body =>
              if service.dbClient then [.createTicket body (some (ticketIndex ticket))] else []
  | .call (.readRow i _ _) =>
      match sys.calls[i]? with
      | some (.locked req _) => if service.dbClient then [.getTicket req.ticketId false] else []
      | _ => []
  | .call (.writeRow i) =>
      match sys.calls[i]? with
      | some (.prepared req _ _ write) =>
          [.updateTicket req.ticketId write.body (some write.index)]
      | _ => []
  | .call _ => []
  | .elsewhere req => [req]

/-- One step of the desk. -/
def step [LockFormat] (service : CustodianServiceImpl) (desk : TicketDesk) (e : DeskEvent) :
    Option TicketDesk :=
  let sent := desk.sent ++ requests service desk.system e
  match e with
  | .create now nowMillis entropy req =>
      let (reply, db) := service.createTicket desk.system.db now nowMillis entropy req
      some ⟨{ desk.system with db }, desk.written ++ reply.toOption.toList, sent⟩
  | .call e =>
      (desk.system.step service e).map fun sys => ⟨sys, desk.written ++ accepted sys e, sent⟩
  | .elsewhere req =>
      some ⟨{ desk.system with db := (Db.DatabaseService.answer desk.system.db req).2 },
        desk.written, sent⟩

end TicketDesk

/-- The last message written of a ticket. -/
def latest (written : List TicketMessage) (ticketId : UInt64) : Option TicketMessage :=
  (written.filter fun m => m.ticketId = ticketId).getLast?

namespace QueryTicketsRequest

/-- The message passes every filter that the request sets. -/
def Wants (req : QueryTicketsRequest) (m : TicketMessage) : Prop :=
  (∀ s ∈ req.status, m.status.toInt = s.toNat) ∧
  (∀ a ∈ req.assignedToUuid, m.assignedToUuid = some a) ∧
  (∀ a ∈ req.accountUuid, m.accountUuid = a) ∧
  (∀ p ∈ req.project, m.project = p)

instance (req : QueryTicketsRequest) (m : TicketMessage) : Decidable (req.Wants m) :=
  inferInstanceAs (Decidable (_ ∧ _ ∧ _ ∧ _))

/-- The status the request asks for, if it asks for one, is a byte. -/
def StatusFits (req : QueryTicketsRequest) : Prop :=
  ∀ s ∈ req.status, s.toNat < 256

/-- The request without its status filter. -/
def anyStatus (req : QueryTicketsRequest) : QueryTicketsRequest :=
  { req with status := none }

end QueryTicketsRequest

omit [Chrono] [Primitives] [TicketFormat] [UuidParser] [Db.RowFormat] [FailureText] in
@[simp] theorem latest_concat (written : List TicketMessage) (m : TicketMessage) (id : UInt64) :
    latest (written ++ [m]) id = if m.ticketId = id then some m else latest written id := by
  rw [latest, List.filter_append, List.filter_singleton]
  by_cases h : m.ticketId = id <;> simp [h, latest]

/-! ## What a step keeps -/

section Steps

variable {service : CustodianServiceImpl} {desk : TicketDesk} {book : RecordBook}

/-- What a reader of a row is shown. -/
inductive ShowsRow (service : CustodianServiceImpl) (id : UInt64) :
    Option StoredTicket → Option TicketMessage → Prop where
  | missing : ShowsRow service id none none
  | row {row : StoredTicket} {ticket : Ticket} (hholds : HoldsTicket service id row ticket)
      (hkept : row.deleted = false) : ShowsRow service id (some row) (some (domainToProto ticket))

/-- What holds of the desk after every step: the DB node is up and keeps a book in which every row
shows the message written last. -/
structure Sound (service : CustodianServiceImpl) (desk : TicketDesk) (book : RecordBook) :
    Prop where
  kept : book.Kept false ⟨desk.system.db, none⟩
  rows : ∀ id, ShowsRow service id (book.tickets.rows id) (latest desk.written id)
  recorded : Recorded service desk.system
  node : (serve DbNode.handle .blank desk.sent).2 = ⟨desk.system.db, none⟩

theorem sound_blank (locks : Sled) (now : Chrono.DateTime) :
    Sound service (.blank locks now) .blank where
  kept := RecordBook.kept_blank
  rows _ := .missing
  recorded := recorded_start locks Keyspace.empty now
  node := rfl

omit [FailureText] in
/-- Records stay as long as every ticket that can be read is left alone. -/
theorem Recorded.congr {sys : System} {db : Sled} (h : Recorded service sys)
    (hdb : ∀ id record, Db.DatabaseService.getTicket sys.db id false = .ok record →
      Db.DatabaseService.getTicket db id false = .ok record) :
    Recorded service { sys with db } where
  prepared hcall :=
    have hprepared := h.prepared hcall
    { computed := hprepared.computed
      stored := hprepared.stored.imp fun record hread => hdb _ record hread
      seen_le := hprepared.seen_le
      current := fun hseen => hdb _ _ (hprepared.current hseen)
      ticketId := hprepared.ticketId }
  answered := h.answered
  applied := h.applied
  current := by
    intro ticketId w hlast
    have hleft := h.current hlast
    obtain ⟨pre, post, hsplit⟩ := List.append_of_mem (mem_of_lastOn hlast)
    obtain ⟨record, hrecord, -⟩ := (h.applied hsplit).left
    rw [hrecord] at hleft ⊢
    exact (hdb _ record hleft.symm).symm

omit [Chrono] [Primitives] [TicketFormat] [UuidParser] [FailureText] in
/-- A ticket that can be read still can when its row is left alone. -/
theorem getTicket_of_rows {T T' : TicketTable} {db db' : Sled} (h : Represents T db)
    (h' : Represents T' db') {id : UInt64} {record : Db.TicketRecord}
    (hrows : ∀ row, T.rows id = some row → T'.rows id = some row)
    (hread : Db.DatabaseService.getTicket db id false = .ok record) :
    Db.DatabaseService.getTicket db' id false = .ok record := by
  obtain ⟨bytes, row, hbytes, hdecode, -⟩ := Db.DatabaseService.getTicket_eq_ok.mp hread
  have hrow : T.rows id = some row := h.ticketRowAt.mp ⟨bytes, hbytes, hdecode⟩
  rw [← hread]
  refine Db.DatabaseService.getTicket_congr ?_ false
  rw [h.row, h'.row, hrow, hrows row hrow]

omit [Chrono] [Primitives] [TicketFormat] [UuidParser] [Db.RowFormat] [FailureText] in
/-- A request about tickets uses no tree but theirs. -/
theorem admissible_of_tickets {req : Db.Request} (hcollection : req.collection? = none)
    (huser : req.isUserRequest = false) : req.Admissible false where
  generic collection hmem := by simp [hcollection] at hmem
  users htrue := by simp [huser] at htrue

omit [Chrono] [Primitives] [TicketFormat] [UuidParser] in
/-- A request that fails in no way is handled by a node that is up, and leaves it up. -/
theorem handle_of_present {db : Sled} (h : book.Kept false ⟨db, none⟩) {req : Db.Request}
    (hreq : req.Admissible false)
    (hroom : req.isCreateTicket → book.tickets.issued + 1 < 2 ^ 64)
    (hpresent : ∀ e ∈ req.command?, book.missing e = none) :
    (DbNode.handle ⟨db, none⟩ req).2 = ⟨(Db.DatabaseService.answer db req).2, none⟩ ∧
      (book.after req).Kept false ⟨(Db.DatabaseService.answer db req).2, none⟩ := by
  have hkept : (book.after req).Kept false (DbNode.handle ⟨db, none⟩ req).2 :=
    (h.handle hreq hroom).2
  have hstopped : (book.after req).stopped = none := by
    rw [RecordBook.after]
    split
    next e hcommand _ => exact hpresent e hcommand
    next => exact h.stopped.symm
  have hstorage : (DbNode.handle ⟨db, none⟩ req).2.storage =
      (Db.DatabaseService.answer db req).2 := by
    rw [DbNode.handle]
    cases hcommand : req.command? with
    | none => simp [Db.answer_storage, hcommand]
    | some e => cases happly : (e.apply db).1 <;> simp [happly]
  have hnode : (DbNode.handle ⟨db, none⟩ req).2 =
      ⟨(Db.DatabaseService.answer db req).2, none⟩ :=
    congrArg₂ DbNode.mk hstorage (hkept.stopped.trans hstopped)
  exact ⟨hnode, hnode ▸ hkept⟩

/-- A request that the desk sends keeps it sound when it is handled and the rows still show what is
written. -/
theorem Sound.send (h : Sound service desk book) {req : Db.Request} (hreq : req.Admissible false)
    (hroom : req.isCreateTicket → book.tickets.issued + 1 < 2 ^ 64)
    (hpresent : ∀ e ∈ req.command?, book.missing e = none) {sys : System}
    {written : List TicketMessage}
    (hdb : sys.db = (Db.DatabaseService.answer desk.system.db req).2)
    (hrows : ∀ id, ShowsRow service id ((book.after req).tickets.rows id) (latest written id))
    (hrecorded : Recorded service sys) :
    Sound service ⟨sys, written, desk.sent ++ [req]⟩ (book.after req) := by
  obtain ⟨hnode, hkept⟩ := handle_of_present h.kept hreq hroom hpresent
  refine ⟨hdb ▸ hkept, hrows, hrecorded, ?_⟩
  rw [serve_append, h.node, hdb]
  exact hnode

/-- The desk stays sound when nothing is written. -/
theorem Sound.quiet (h : Sound service desk book) {sys : System} (hdb : sys.db = desk.system.db)
    (hrecorded : Recorded service sys) : Sound service ⟨sys, desk.written, desk.sent⟩ book :=
  ⟨hdb ▸ h.kept, h.rows, hrecorded, hdb ▸ h.node⟩

/-- A request without a command leaves the DB as it is. -/
theorem Sound.send_read (h : Sound service desk book) {req : Db.Request}
    (hreq : req.Admissible false) (hcommand : req.command? = none)
    (hcreate : req.isCreateTicket = false) {sys : System} (hdb : sys.db = desk.system.db)
    (hrecorded : Recorded service sys) :
    Sound service ⟨sys, desk.written, desk.sent ++ [req]⟩ book := by
  have hafter : book.after req = book := by rw [RecordBook.after, hcommand]
  have hsame : (Db.DatabaseService.answer desk.system.db req).2 = desk.system.db := by
    rw [Db.answer_storage, hcommand]
    rfl
  have hsound := h.send hreq (fun htrue => by simp [hcreate] at htrue)
    (fun e he => by simp [hcommand] at he) (hdb.trans hsame.symm) (hafter.symm ▸ h.rows) hrecorded
  rwa [hafter] at hsound

/-- A new ticket gets an id that no row has, and is shown as the creation was answered. -/
theorem Sound.create (h : Sound service desk book) {ticket : Ticket} {entropy : Primitives.Entropy}
    {body : Bytes} (hbody : service.encryptTicket ticket entropy = .ok body)
    (hroom : book.tickets.issued + 1 < 2 ^ 64) {req : Db.Request}
    (hsent : req = .createTicket body (some (ticketIndex ticket))) {id : UInt64}
    (hid : id = UInt64.ofNat (book.tickets.issued + 1)) {db : Sled}
    (hdb : db = (Db.DatabaseService.answer desk.system.db req).2) :
    Sound service ⟨{ desk.system with db },
      desk.written ++ [domainToProto { ticket with ticketId := id }], desk.sent ++ [req]⟩
      (book.after req) := by
  subst hdb
  have hcommand : req.command? =
      some (.createTicket body (Db.ticketIndexFromProto (ticketIndex ticket))) := hsent ▸ rfl
  have hreq : req.Admissible false := hsent ▸ admissible_of_tickets rfl rfl
  have hpresent : ∀ e ∈ req.command?, book.missing e = none := by
    intro e he
    obtain rfl := Option.some.inj (hcommand.symm.trans he)
    rfl
  have hbook : book.after req =
      book.apply (.createTicket body (Db.ticketIndexFromProto (ticketIndex ticket))) := by
    rw [RecordBook.after, hcommand, ← h.kept.stopped]
  -- The id has no row yet, so what was read of other tickets stays as it was.
  have hfree : book.tickets.rows id = none := hid ▸ h.kept.tickets.next_free hroom
  have hrow (j : UInt64) : (book.after req).tickets.rows j =
      if j = id then some (Db.Table.fresh body (Db.ticketIndexFromProto (ticketIndex ticket)))
      else book.tickets.rows j := by
    rw [hbook, hid]
    exact TicketTable.rows_createTicket ..
  refine h.send hreq (fun _ => hroom) hpresent rfl (fun j => ?_) ?_
  · have hticketId : (domainToProto { ticket with ticketId := id }).ticketId = id := rfl
    rw [hrow, latest_concat, hticketId]
    by_cases hj : j = id
    · rw [hj, if_pos rfl, if_pos rfl]
      exact .row ⟨service.decryptTicket_encryptTicket hbody id,
        indexMatches_ticketIndex { ticket with ticketId := id }⟩ rfl
    · rw [if_neg hj, if_neg (Ne.symm hj)]
      exact h.rows j
  · refine h.recorded.congr fun j record hread => ?_
    refine getTicket_of_rows h.kept.tickets
      (handle_of_present h.kept hreq (fun _ => hroom) hpresent).2.tickets (fun row hold => ?_) hread
    rw [hrow, if_neg, hold]
    rintro rfl
    exact absurd (hfree.symm.trans hold) (by simp)

/-- A write of a prepared call is shown as it is answered. -/
theorem Sound.write (h : Sound service desk book) {req : UpdateTicketRequest}
    {base : Db.TicketRecord} {write : CustodianServiceImpl.PreparedWrite}
    (hcomputed : ComputedFrom service req base write) (hbase : base.ticketId = req.ticketId)
    (hstored : ∃ record,
      Db.DatabaseService.getTicket desk.system.db req.ticketId false = .ok record)
    (hid : req.ticketId ≠ 0) {sys : System}
    (hdb : sys.db = (Db.DatabaseService.updateTicket desk.system.db req.ticketId write.body
      write.index).2) (hrecorded : Recorded service sys) :
    let sent : Db.Request := .updateTicket req.ticketId write.body (some write.index)
    Sound service ⟨sys, desk.written ++ [domainToProto write.ticket], desk.sent ++ [sent]⟩
      (book.after sent) := by
  intro sent
  obtain ⟨ticket, -, -, hbody⟩ := hcomputed.spec
  obtain ⟨updater, updatedAt, entropy, hprepare⟩ := hcomputed
  obtain ⟨-, -, -, -, -, -, hindex⟩ := prepareUpdate_inv hprepare
  rw [hbase] at hbody
  obtain ⟨record, hrecord⟩ := hstored
  obtain ⟨bytes, row, hbytes, hdecode, hdeleted, -⟩ := Db.DatabaseService.getTicket_eq_ok.mp hrecord
  have hold : book.tickets.rows req.ticketId = some row :=
    h.kept.tickets.ticketRowAt.mp ⟨bytes, hbytes, hdecode⟩
  -- The row is there, so the update does not fail in Raft.
  have hcommand : sent.command? =
      some (.updateTicket req.ticketId write.body (Db.ticketIndexFromProto write.index)) :=
    if_neg hid
  have hpresent : ∀ e ∈ sent.command?, book.missing e = none := by
    intro e he
    obtain rfl := Option.some.inj (hcommand.symm.trans he)
    simp [RecordBook.missing, Db.LogEntry.target, RecordBook.has, hold]
  have hbook : book.after sent =
      book.apply (.updateTicket req.ticketId write.body (Db.ticketIndexFromProto write.index)) := by
    rw [RecordBook.after, hcommand, ← h.kept.stopped]
  have hreq : sent.Admissible false := admissible_of_tickets rfl rfl
  have hcreate : sent.isCreateTicket = false := rfl
  refine h.send hreq (fun htrue => by simp [hcreate] at htrue) hpresent (hdb.trans ?_)
    (fun j => ?_) hrecorded
  · rfl
  · have hticketId : (domainToProto write.ticket).ticketId = req.ticketId :=
      service.decryptTicket_ticketId hbody
    rw [hbook, latest_concat, hticketId]
    show ShowsRow service j ((book.tickets.change req.ticketId _).rows j) _
    rw [TicketTable.rows_change]
    by_cases hj : j = req.ticketId
    · subst hj
      rw [if_pos rfl, if_pos rfl, hold, hindex]
      exact .row ⟨hbody, indexMatches_ticketIndex write.ticket⟩ hdeleted
    · rw [if_neg hj, if_neg (Ne.symm hj)]
      exact h.rows j

/-- What other services store does not show. -/
theorem Sound.elsewhere (h : Sound service desk book) {req : Db.Request}
    (hcollection : req.collection?.isSome) (hreq : req.Admissible false) :
    Sound service
      ⟨{ desk.system with db := (Db.DatabaseService.answer desk.system.db req).2 }, desk.written,
        desk.sent ++ [req]⟩ (book.after req) ∧ (book.after req).tickets = book.tickets := by
  have hplain : req.isCreateTicket = false ∧
      ∀ e ∈ req.command?, e.target = none ∧ e.isTicketCommand = false := by
    cases req <;> simp_all [Db.Request.collection?, Db.Request.isCreateTicket,
      Db.Request.command?, Db.LogEntry.target, Db.LogEntry.isTicketCommand]
  have hroom : req.isCreateTicket → book.tickets.issued + 1 < 2 ^ 64 := by simp [hplain.1]
  have hpresent : ∀ e ∈ req.command?, book.missing e = none := by
    intro e he
    rw [RecordBook.missing, (hplain.2 e he).1]
    rfl
  have htickets : (book.after req).tickets = book.tickets := by
    rw [RecordBook.after]
    split
    next e hcommand _ => exact book.tickets.apply_of_not_ticketCommand (hplain.2 e hcommand).2
    next => rfl
  refine ⟨h.send hreq hroom hpresent rfl (fun id => htickets.symm ▸ h.rows id) ?_, htickets⟩
  refine h.recorded.congr fun id record hread => ?_
  exact getTicket_of_rows h.kept.tickets (handle_of_present h.kept hreq hroom hpresent).2.tickets
    (fun row hrow => htickets.symm ▸ hrow) hread

variable [LockFormat]

/-- A step of the update calls that writes nothing sends at most a read, or a write that is turned
down. -/
theorem requests_of_quiet {sys sys' : System} {e : Event}
    (hwrite : ∀ i, e = .writeRow i → sys.pending i = none)
    (hstep : sys.step service e = some sys') :
    TicketDesk.accepted sys' e = [] ∧ (TicketDesk.requests service sys (.call e) = [] ∨
      ∃ req, TicketDesk.requests service sys (.call e) = [req] ∧ req.command? = none ∧
        req.isCreateTicket = false ∧ req.Admissible false) := by
  cases e with
  | receive | checkLock | lockCommand | tick => exact ⟨rfl, .inl rfl⟩
  | readRow i =>
      refine ⟨rfl, ?_⟩
      rw [TicketDesk.requests]
      split
      · split
        · exact .inr ⟨_, rfl, rfl, rfl, admissible_of_tickets rfl rfl⟩
        · exact .inl rfl
      · exact .inl rfl
  | writeRow i =>
      simp only [System.step] at hstep
      split at hstep
      · next req base seen write hcall =>
          have hpending := hwrite i rfl
          rw [System.pending, hcall, Option.bind_some, CallState.pending] at hpending
          -- A prepared call has no pending write only for the id zero, which is turned down.
          have hid : req.ticketId = 0 := by
            by_contra hne
            simp [hne] at hpending
          obtain ⟨status, hstatus⟩ := writeTicket_zero sys.db write
          rw [hid, hstatus] at hstep
          cases hstep
          have hlt : i < sys.calls.length := (List.getElem?_eq_some_iff.mp hcall).1
          refine ⟨?_, .inr ⟨.updateTicket req.ticketId write.body (some write.index), ?_, ?_, rfl,
            admissible_of_tickets rfl rfl⟩⟩
          · simp [TicketDesk.accepted, System.setCall, hlt]
          · simp [TicketDesk.requests, hcall]
          · exact if_pos hid
      · cases hstep

/-- A step of the update calls keeps the desk sound. -/
theorem Sound.call (hclient : service.dbClient = true) (h : Sound service desk book) {sys : System}
    {e : Event} (hstep : desk.system.step service e = some sys) :
    ∃ book', Sound service ⟨sys, desk.written ++ TicketDesk.accepted sys e,
        desk.sent ++ TicketDesk.requests service desk.system (.call e)⟩ book' ∧
      book'.tickets.issued ≤ book.tickets.issued := by
  have heffect := h.recorded.effect hstep
  have hrecorded := h.recorded.step heffect
  cases heffect with
  | quiet hwrite hdb =>
      obtain ⟨haccepted, hnone | ⟨req, hreq, hcommand, hcreate, hadmissible⟩⟩ :=
        requests_of_quiet hwrite hstep
      · rw [haccepted, hnone, List.append_nil, List.append_nil]
        exact ⟨book, h.quiet hdb hrecorded, le_rfl⟩
      · rw [haccepted, hreq, List.append_nil]
        exact ⟨book, h.send_read hadmissible hcommand hcreate hdb hrecorded, le_rfl⟩
  | @read i updatedAt entropy req updater base write hcall hfetch hwrite hsys =>
      have hsent : TicketDesk.requests service desk.system (.call (.readRow i updatedAt entropy)) =
          [.getTicket req.ticketId false] := by
        simp [TicketDesk.requests, hcall, hclient]
      have haccepted : TicketDesk.accepted sys (.readRow i updatedAt entropy) = [] := rfl
      rw [hsent, haccepted, List.append_nil]
      exact ⟨book, h.send_read (admissible_of_tickets rfl rfl) rfl rfl (hsys ▸ rfl) hrecorded,
        le_rfl⟩
  | @write i req base seen write db hcall hid hwrite hsys =>
      have hprepared := h.recorded.prepared hcall
      have hlt : i < desk.system.calls.length := (List.getElem?_eq_some_iff.mp hcall).1
      have hsent : TicketDesk.requests service desk.system (.call (.writeRow i)) =
          [.updateTicket req.ticketId write.body (some write.index)] := by
        simp [TicketDesk.requests, hcall]
      have haccepted : TicketDesk.accepted sys (.writeRow i) = [domainToProto write.ticket] := by
        simp [hsys, TicketDesk.accepted, System.setCall, hlt]
      have hdb : sys.db = (Db.DatabaseService.updateTicket desk.system.db req.ticketId write.body
          write.index).2 := by
        rw [← writeTicket_db, hwrite, hsys]
      rw [hsent, haccepted]
      exact ⟨_, h.write hprepared.computed hprepared.ticketId hprepared.stored hid hdb hrecorded,
        RecordBook.issued_after book _⟩

/-- Every step keeps the desk sound, as long as the ids do not run out. -/
theorem Sound.step (hclient : service.dbClient = true) (h : Sound service desk book)
    {e : DeskEvent} (hapart : e.Apart)
    (hroom : e.isCreate → book.tickets.issued + 1 < 2 ^ 64) {desk' : TicketDesk}
    (hstep : desk.step service e = some desk') :
    ∃ book', Sound service desk' book' ∧
      book'.tickets.issued ≤ book.tickets.issued + if e.isCreate then 1 else 0 := by
  cases e with
  | create now nowMillis entropy req =>
      have hidle : Sound service ⟨desk.system, desk.written ++ [], desk.sent ++ []⟩ book := by
        rw [List.append_nil, List.append_nil]
        exact h
      simp only [TicketDesk.step, TicketDesk.requests, CustodianServiceImpl.createTicket] at hstep
      cases hticket : CustodianServiceImpl.newTicket req now with
      | error status =>
          simp only [hticket] at hstep
          cases hstep
          exact ⟨book, hidle, Nat.le_add_right _ _⟩
      | ok ticket =>
          simp only [hticket] at hstep
          cases hbody : service.encryptTicket ticket entropy with
          | error status =>
              simp only [hbody] at hstep
              cases hstep
              exact ⟨book, hidle, Nat.le_add_right _ _⟩
          | ok body =>
              have hnext : Db.nextCounter (desk.system.db.at? Db.seqCell) =
                  UInt64.ofNat (book.tickets.issued + 1) := by
                rw [h.kept.tickets.counter, Db.nextCounter_counterBytes (hroom rfl)]
              simp only [hbody, hclient, if_true, Db.DatabaseService.createTicket_eq,
                hnext] at hstep
              cases hstep
              have hdb : ((Db.LogEntry.createTicket body
                    (Db.ticketIndexFromProto (ticketIndex ticket))).apply desk.system.db).2 =
                  (Db.DatabaseService.answer desk.system.db
                    (.createTicket body (some (ticketIndex ticket)))).2 := by
                rw [Db.answer_storage]
                rfl
              exact ⟨_, h.create hbody (hroom rfl) rfl rfl hdb, RecordBook.issued_after book _⟩
  | call e =>
      obtain ⟨sys, hsys, rfl⟩ := Option.map_eq_some_iff.mp hstep
      exact h.call hclient hsys
  | elsewhere req =>
      cases hstep
      obtain ⟨hsound, htickets⟩ := h.elsewhere hapart.1 hapart.2
      exact ⟨_, hsound, htickets ▸ Nat.le_add_right _ _⟩

end Steps

/-! ## Runs -/

section Runs

variable [LockFormat] {service : CustodianServiceImpl} {desk : TicketDesk}

/-- Whatever happens in whatever order, the desk stays sound. -/
theorem sound_of_run (hclient : service.dbClient = true) {locks : Sled} {now : Chrono.DateTime}
    {events : List DeskEvent}
    (hrun : Run (TicketDesk.step service) (fun _ e => e.Apart) (.blank locks now) events desk)
    (hroom : events.countP DeskEvent.isCreate < 2 ^ 64) :
    ∃ book, Sound service desk book ∧
      book.tickets.issued ≤ events.countP DeskEvent.isCreate := by
  induction hrun with
  | nil => exact ⟨_, sound_blank locks now, le_rfl⟩
  | @snoc events e before after run hapart hstep ih =>
      rw [List.countP_append, List.countP_singleton] at hroom ⊢
      obtain ⟨book, hsound, hissued⟩ := ih (by omega)
      obtain ⟨book', hsound', hissued'⟩ := hsound.step hclient hapart
        (fun hcreate => by rw [if_pos hcreate] at hroom; omega) hstep
      exact ⟨book', hsound', by omega⟩

/-- Update calls go through the same states at a desk as by themselves. -/
theorem run_calls {ok : TicketDesk → DeskEvent → Prop} (hok : ∀ desk e, ok desk (.call e))
    {start : TicketDesk} {before : List DeskEvent}
    (hbefore : Run (TicketDesk.step service) ok start before desk) {calls : List Event}
    {sys : System} (hcalls : Run (System.step service) (fun _ _ => True) desk.system calls sys) :
    ∃ after : TicketDesk, after.system = sys ∧
      Run (TicketDesk.step service) ok start (before ++ calls.map .call) after := by
  induction hcalls with
  | nil => exact ⟨desk, rfl, by rwa [List.map_nil, List.append_nil]⟩
  | @snoc calls e _ sys _ _ hstep ih =>
      obtain ⟨after, rfl, hrun⟩ := ih
      have hnext : after.step service (.call e) = some ⟨sys, after.written ++
          TicketDesk.accepted sys e, after.sent ++ TicketDesk.requests service after.system
            (.call e)⟩ := by
        simp [TicketDesk.step, hstep]
      have hlonger := hrun.snoc (hok after e) hnext
      rw [List.append_assoc] at hlonger
      exact ⟨_, rfl, by rwa [List.map_append]⟩

/-- What readers are shown: of every ticket the message written last, and to a query the messages
that pass its filters, in ascending id order and up to the limit. A status that is not a byte is
ignored. -/
structure ReadBack (service : CustodianServiceImpl) (desk : TicketDesk) : Prop where
  get : ∀ id, service.getTicket desk.system.db id =
    (latest desk.written id).elim (.error (.error (.notFound "ticket not found"))) .ok
  query : ∀ req : QueryTicketsRequest, req.StatusFits → ∃ messages : List TicketMessage,
    messages.Pairwise (fun a b => a.ticketId < b.ticketId) ∧
      (∀ m, m ∈ messages ↔ latest desk.written m.ticketId = some m) ∧
      service.queryTickets desk.system.db req =
        .ok (Db.limited req.limit.toNat (messages.filter fun m => req.Wants m))
  ignored : ∀ req : QueryTicketsRequest, ¬ req.StatusFits →
    service.queryTickets desk.system.db req = service.queryTickets desk.system.db req.anyStatus

omit [LockFormat] [UuidParser] [Db.RowFormat] [FailureText] in
/-- A query wants a row exactly when the request wants the message of its ticket. -/
theorem wants_iff {id : UInt64} {row : StoredTicket} {ticket : Ticket}
    (h : HoldsTicket service id row ticket) (hkept : row.deleted = false)
    {req : QueryTicketsRequest} (hfits : req.StatusFits) :
    (Db.ticketQueryFromProto (CustodianServiceImpl.ticketQuery req)).Wants row ↔
      req.Wants (domainToProto ticket) := by
  have hbyte : (enumInt ticket.status.toU8).toInt = ticket.status.toU8.toNat := toInt_enumInt _
  have hquery : (CustodianServiceImpl.ticketQuery req).StatusFits := hfits
  rw [Db.TicketQueryMessage.wants_fromProto hquery]
  simp [Db.TicketQueryMessage.Wants, QueryTicketsRequest.Wants, CustodianServiceImpl.ticketQuery,
    hkept, h.index.status, h.index.accountUuid, h.index.assignedToUuid, h.index.project,
    domainToProto, hbyte]

omit [UuidParser] [LockFormat] in
/-- A status that is not a byte is ignored by a query. -/
theorem queryTickets_of_not_fits (db : Sled) {req : QueryTicketsRequest} (h : ¬ req.StatusFits) :
    service.queryTickets db req = service.queryTickets db req.anyStatus := by
  have hnone : Db.ticketQueryFromProto (CustodianServiceImpl.ticketQuery req) =
      Db.ticketQueryFromProto (CustodianServiceImpl.ticketQuery req.anyStatus) :=
    Db.TicketQueryMessage.fromProto_of_not_fits h
  rw [CustodianServiceImpl.queryTickets, CustodianServiceImpl.queryTickets,
    Db.DatabaseService.queryTickets, Db.DatabaseService.queryTickets, hnone]

omit [LockFormat] in
/-- A reader of a ticket is shown the message written last. -/
theorem Sound.get {book : RecordBook} (h : Sound service desk book)
    (hclient : service.dbClient = true) (id : UInt64) :
    service.getTicket desk.system.db id =
      (latest desk.written id).elim (.error (.error (.notFound "ticket not found"))) .ok := by
  have hshows := h.rows id
  simp only [CustodianServiceImpl.getTicket, CustodianServiceImpl.fetchRecord, hclient, if_true,
    Db.DatabaseService.getTicket, h.kept.tickets.getTicket_eq id false]
  generalize book.tickets.rows id = row at hshows ⊢
  generalize latest desk.written id = message at hshows ⊢
  cases hshows with
  | missing => rfl
  | row hholds hkept =>
      simp [Option.filter_some, hkept, Db.ticketRecord, hholds.body, Except.map]

omit [LockFormat] in
/-- A query is shown the messages written last that pass its filters. -/
theorem Sound.query {book : RecordBook} (h : Sound service desk book)
    (hclient : service.dbClient = true) {req : QueryTicketsRequest} (hfits : req.StatusFits) :
    ∃ messages : List TicketMessage,
      messages.Pairwise (fun a b => a.ticketId < b.ticketId) ∧
        (∀ m, m ∈ messages ↔ latest desk.written m.ticketId = some m) ∧
        service.queryTickets desk.system.db req =
          .ok (Db.limited req.limit.toNat (messages.filter fun m => req.Wants m)) := by
  obtain ⟨rows, hsorted, hrows⟩ := h.kept.tickets.exists_rows
  have hmessage : ∀ r : UInt64 × StoredTicket, r ∈ rows → ∃ ticket,
      latest desk.written r.1 = some (domainToProto ticket) ∧ HoldsTicket service r.1 r.2 ticket ∧
        r.2.deleted = false := by
    rintro ⟨id, row⟩ hmem
    have hshows := h.rows id
    rw [(hrows id row).mp hmem] at hshows
    generalize latest desk.written id = message at hshows ⊢
    cases hshows with
    | row hholds hkept => exact ⟨_, rfl, hholds, hkept⟩
  have : Nonempty Ticket := ⟨.new 0 "" "" ⟨0⟩ (.fromU8 0) ⟨0⟩ Chrono.default⟩
  -- Every row is the ticket of the message written last under its id.
  choose! ticketOf hlatest hholds hkept using hmessage
  let shown (r : UInt64 × StoredTicket) : TicketMessage := domainToProto (ticketOf r)
  have hid : ∀ r ∈ rows, (shown r).ticketId = r.1 :=
    fun r hr => service.decryptTicket_ticketId (hholds r hr).body
  refine ⟨rows.map shown, ?_, fun m => ?_, ?_⟩
  · refine List.pairwise_map.mpr (hsorted.imp_of_mem fun ha hb hlt => ?_)
    rwa [hid _ ha, hid _ hb]
  -- The messages of the rows are exactly those written last.
  · rw [List.mem_map]
    constructor
    · rintro ⟨r, hr, rfl⟩
      rw [hid r hr]
      exact hlatest r hr
    · intro hm
      have hshows := h.rows m.ticketId
      rw [hm] at hshows
      cases hrow : book.tickets.rows m.ticketId with
      | none =>
          rw [hrow] at hshows
          cases hshows
      | some row =>
          have hr := (hrows m.ticketId row).mpr hrow
          exact ⟨_, hr, Option.some.inj ((hlatest _ hr).symm.trans hm)⟩
  · have hwants : ∀ r ∈ rows,
        ((Db.ticketQueryFromProto (CustodianServiceImpl.ticketQuery req)).Wants r.2 ↔
          req.Wants (shown r)) := fun r hr => wants_iff (hholds r hr) (hkept r hr) hfits
    -- The custodian opens the rows that the DB has selected and limited, in their order.
    simp only [CustodianServiceImpl.queryTickets, hclient, if_true, Db.DatabaseService.queryTickets,
      h.kept.tickets.queryTickets_eq _ hsorted hrows, List.mapM_map]
    refine (mapM_eq_ok (g := shown) fun r hr => ?_).trans ?_
    · have hmem := List.mem_of_mem_filter (Db.mem_of_limited hr)
      simp [Db.ticketRecord, (hholds r hmem).body, Except.map, shown]
    · rw [Db.map_limited, List.filter_map]
      refine congrArg (fun rows => Except.ok (Db.limited req.limit.toNat (List.map shown rows))) ?_
      refine List.filter_congr fun r hr => ?_
      rw [Function.comp_apply, decide_eq_decide]
      exact hwants r hr

/-- Creations, updates that overlap, lock commands and the requests of other services may come in
any order: readers are shown the messages written last. -/
theorem tickets_read_back (hclient : service.dbClient = true) {locks : Sled}
    {now : Chrono.DateTime} {events : List DeskEvent}
    (hrun : Run (TicketDesk.step service) (fun _ e => e.Apart) (.blank locks now) events desk)
    (hroom : events.countP DeskEvent.isCreate < 2 ^ 64) : ReadBack service desk := by
  obtain ⟨book, hsound, -⟩ := sound_of_run hclient hrun hroom
  exact ⟨hsound.get hclient, fun _ => hsound.query hclient, fun _ => queryTickets_of_not_fits _⟩

/-- In no order of these steps does a request stop the DB node: a node that is sent the requests is
up at the end, and stores what the desk works on. -/
theorem ticket_calls_never_stop_node (hclient : service.dbClient = true) {locks : Sled}
    {now : Chrono.DateTime} {events : List DeskEvent}
    (hrun : Run (TicketDesk.step service) (fun _ e => e.Apart) (.blank locks now) events desk)
    (hroom : events.countP DeskEvent.isCreate < 2 ^ 64) :
    (serve DbNode.handle .blank desk.sent).2 = ⟨desk.system.db, none⟩ := by
  obtain ⟨book, hsound, -⟩ := sound_of_run hclient hrun hroom
  exact hsound.node

end Runs

end InfoVulcan.Custodian

/-! ## Runs on the JSON formats -/

namespace InfoVulcan.Custodian

open scoped SerdeJson
open SerdeJson
open Db (DbNode)

/-- Another service stores a pair, a ticket is created, and the holder of its lock sets the title
and the priority in two calls that both read the ticket before either writes. -/
def busyMorning : List DeskEvent :=
  [.elsewhere (.put "users" [1] [2]), .create CivilTime.unixEpoch 0 [] creationRequest] ++
    (crossing (holderRequest (some "new title") none) (holderRequest none (some 1))
      CivilTime.unixEpoch []).map .call

theorem custodian_dbClient : custodian.dbClient = true := by
  rfl

/-- The DB after the pair has been stored and the ticket created. -/
def busyDb : Sled :=
  (creationEntry.apply ((Db.LogEntry.put "users" [1] [2]).apply Keyspace.empty).2).2

theorem fetchRecord_busyDb : custodian.fetchRecord busyDb 1 = .ok (Db.ticketRecord 1 blankRow) := by
  have hput : (Db.Request.put "users" [1] [2]).Admissible false := by decide
  have hstored := Db.Represents.empty.applyAny (Db.Request.command?_admissible hput rfl) nofun
  have hcreated := hstored.apply (e := creationEntry) rfl fun _ => by decide
  exact fetchRecord_of_row hcreated rfl rfl

/-- A creation stores a row, whatever the desk has served before. -/
theorem step_creation (desk : TicketDesk) : ∃ written sent,
    desk.step custodian (.create CivilTime.unixEpoch 0 [] creationRequest) =
      some ⟨{ desk.system with db := (creationEntry.apply desk.system.db).2 }, written, sent⟩ := by
  simp [TicketDesk.step, CustodianServiceImpl.createTicket, newTicket_creationRequest,
    encryptTicket_eq, custodian_dbClient, Db.DatabaseService.createTicket_eq, creationEntry]

/-- Both updates are accepted, and the first is lost. -/
theorem busyMorning_runs : ∃ desk, Run (TicketDesk.step custodian) (fun _ e => e.Apart)
    (.blank firstLocks CivilTime.unixEpoch) busyMorning desk ∧
    ¬ NoLostUpdate desk.system.history := by
  have hread : Reads custodian (Db.ticketRecord 1 blankRow) { blankTicket with ticketId := 1 } :=
    (holdsTicket_blankRow 1).body
  obtain ⟨write₀, hprepare₀⟩ := prepareUpdate_holderRequest (some "new title") none hread
  obtain ⟨write₁, hprepare₁⟩ := prepareUpdate_holderRequest none (some 1) hread
  obtain ⟨sys, hcalls, hlost⟩ : ∃ sys, Run (System.step custodian) (fun _ _ => True)
      (System.start firstLocks busyDb CivilTime.unixEpoch)
      (crossing (holderRequest (some "new title") none) (holderRequest none (some 1))
        CivilTime.unixEpoch []) sys ∧ ¬ NoLostUpdate sys.history :=
    update_lost_of_crossing rfl (by decide) (checkLock_holderRequest _ _)
      (checkLock_holderRequest _ _) fetchRecord_busyDb hprepare₀ hprepare₁
  have hstored : TicketDesk.step custodian (.blank firstLocks CivilTime.unixEpoch)
      (.elsewhere (.put "users" [1] [2])) = some _ := rfl
  obtain ⟨written, sent, hcreated⟩ := step_creation _
  have hopened : Run (TicketDesk.step custodian) (fun _ e => e.Apart)
      (.blank firstLocks CivilTime.unixEpoch)
      [.elsewhere (.put "users" [1] [2]), .create CivilTime.unixEpoch 0 [] creationRequest]
      ⟨System.start firstLocks busyDb CivilTime.unixEpoch, written, sent⟩ :=
    (Run.nil.snoc ⟨rfl, by decide⟩ hstored).snoc trivial hcreated
  obtain ⟨desk, hsystem, hrun⟩ := run_calls (fun _ _ => trivial) hopened hcalls
  exact ⟨desk, hrun, hsystem ▸ hlost⟩

theorem tickets_read_back_busy : ∃ desk, Run (TicketDesk.step custodian) (fun _ e => e.Apart)
    (.blank firstLocks CivilTime.unixEpoch) busyMorning desk ∧
    ¬ NoLostUpdate desk.system.history ∧ ReadBack custodian desk := by
  obtain ⟨desk, hrun, hlost⟩ := busyMorning_runs
  exact ⟨desk, hrun, hlost, tickets_read_back custodian_dbClient hrun (by decide)⟩

theorem ticket_calls_never_stop_node_busy :
    ∃ desk, Run (TicketDesk.step custodian) (fun _ e => e.Apart)
      (.blank firstLocks CivilTime.unixEpoch) busyMorning desk ∧
      ¬ NoLostUpdate desk.system.history ∧
      (serve DbNode.handle .blank desk.sent).2 = ⟨desk.system.db, none⟩ := by
  obtain ⟨desk, hrun, hlost⟩ := busyMorning_runs
  exact ⟨desk, hrun, hlost, ticket_calls_never_stop_node custodian_dbClient hrun (by decide)⟩

end InfoVulcan.Custodian
