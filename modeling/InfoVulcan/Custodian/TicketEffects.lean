import InfoVulcan.Custodian.Conversions
import InfoVulcan.Custodian.LostUpdate
import InfoVulcan.Db.TicketRows

/-!
# What ticket requests leave in the DB

An accepted update stores the ticket that was there with some fields changed, and an accepted
creation stores a ticket under the id it answers. `FullEffect` and `ShownIn` say what a request
asks for, field by field and in the numbers and texts of the request. They hold exactly when the
request asks for nothing the handlers leave out: the update handler reads neither eBond nor
tracking URL, no handler reads network devices, and a number or a time without counterpart is
replaced by a default.
-/

namespace InfoVulcan.Custodian

/-! ## What requests ask for -/

/-- A field holds what the request asks for, or what it held if the request does not set it. -/
def Sets {α β : Type} (denotes : α → β → Prop) (asked : Option α) (old new : β) : Prop :=
  match asked with
  | some value => denotes value new
  | none => new = old

/-- A field that is read from the request is set when the value read is the one asked for. -/
theorem sets_getD_iff {α β : Type} {denotes : α → β → Prop} {read : α → β} {asked : Option α}
    {old : β} :
    Sets denotes asked old ((asked.map read).getD old) ↔ ∀ v ∈ asked, denotes v (read v) := by
  cases asked <;> simp [Sets]

variable [Chrono]

/-- The ticket `new` is `old` with every field the request sets replaced by the request's value,
the updater and the time of the update recorded, and every other field unchanged. -/
structure FullEffect [UuidParser] (req : UpdateTicketRequest) (updatedAt : Chrono.DateTime)
    (old new : Ticket) : Prop where
  title : new.title = req.title.getD old.title
  project : new.project = req.project.getD old.project
  symptom : Sets (fun v s => enumInt s.toU8 = v) req.symptom old.symptom new.symptom
  priority : Sets (fun v p => enumInt p.toU8 = v) req.priority old.priority new.priority
  status : Sets (fun v s => enumInt s.toU8 = v) req.status old.status new.status
  nextAction : Sets Denotes req.nextAction old.nextAction new.nextAction
  resolution : Sets (fun v r => r.map (fun r => enumInt r.toU8) = some v) req.resolution
    old.resolution new.resolution
  assignedTo : Sets (fun text uuid => UuidParser.parseStr text = uuid ∧ uuid.isSome)
    req.assignedToUuid old.assignedTo new.assignedTo
  ebond : Sets (fun text ebond => ebond = some text) req.ebond old.ebond new.ebond
  trackingUrl : Sets (fun text url => url = some text) req.trackingUrl old.trackingUrl
    new.trackingUrl
  networkDevices : new.networkDevices.map mapNetworkDevice =
    if req.networkDevices = [] then old.networkDevices.map mapNetworkDevice
    else req.networkDevices
  updatedBy : req.updatedByUuid.bind UuidParser.parseStr = some new.updatedBy
  updatedAt : new.updatedAt = updatedAt
  ticketId : new.ticketId = old.ticketId
  customerTicketNumber : new.customerTicketNumber = old.customerTicketNumber
  ispTicketNumber : new.ispTicketNumber = old.ispTicketNumber
  otherTicketNumber : new.otherTicketNumber = old.otherTicketNumber
  accountUuid : new.accountUuid = old.accountUuid
  lockedBy : new.lockedBy = old.lockedBy
  createdBy : new.createdBy = old.createdBy
  createdAt : new.createdAt = old.createdAt
  history : new.history = old.history
  schemaVersion : new.schemaVersion = old.schemaVersion

/-- The request asks for nothing that the update handler leaves out: numbers and times have a
counterpart, and eBond, tracking URL and network devices are not set, or set to what is stored. -/
structure CarriedOver (req : UpdateTicketRequest) (old : Ticket) : Prop where
  symptom : ∀ v ∈ req.symptom, ∃ s : Symptom, enumInt s.toU8 = v
  priority : ∀ v ∈ req.priority, ∃ p : TicketPriority, enumInt p.toU8 = v
  status : ∀ v ∈ req.status, ∃ s : TicketStatus, enumInt s.toU8 = v
  nextAction : ∀ message ∈ req.nextAction, Representable message
  resolution : ∀ v ∈ req.resolution, ∃ r : Resolution, enumInt r.toU8 = v
  ebond : ∀ text ∈ req.ebond, old.ebond = some text
  trackingUrl : ∀ text ∈ req.trackingUrl, old.trackingUrl = some text
  networkDevices : req.networkDevices ≠ [] →
    old.networkDevices.map mapNetworkDevice = req.networkDevices

/-- Every field of the request is in the message of the ticket. -/
structure ShownIn [UuidParser] (req : CreateTicketRequest) (shown : TicketMessage) : Prop where
  title : shown.title = req.title
  project : shown.project = req.project
  accountUuid : (UuidParser.parseStr req.accountUuid).map toString = some shown.accountUuid
  symptom : shown.symptom = req.symptom
  priority : shown.priority = req.priority
  createdByUuid : (UuidParser.parseStr req.createdByUuid).map toString = some shown.createdByUuid
  customerTicketNumber : shown.customerTicketNumber = req.customerTicketNumber
  ispTicketNumber : shown.ispTicketNumber = req.ispTicketNumber
  otherTicketNumber : shown.otherTicketNumber = req.otherTicketNumber
  ebond : shown.ebond = req.ebond
  trackingUrl : shown.trackingUrl = req.trackingUrl
  networkDevices : shown.networkDevices = req.networkDevices

/-- The request asks for nothing that the creation handler leaves out: numbers have a counterpart,
and no network devices are given. -/
structure CarriedIn (req : CreateTicketRequest) : Prop where
  symptom : ∃ s : Symptom, enumInt s.toU8 = req.symptom
  priority : ∃ p : TicketPriority, enumInt p.toU8 = req.priority
  networkDevices : req.networkDevices = []

/-! ## Computing a ticket -/

section Computing

variable [UuidParser] {req : UpdateTicketRequest} {old updated : Ticket}

/-- An assignee that is accepted can be parsed. -/
theorem applyAssigned_parsed {ticket ticket' : Ticket} {assigned : Option String}
    (h : CustodianServiceImpl.applyAssigned ticket assigned = .ok ticket') :
    ∀ text ∈ assigned, (UuidParser.parseStr text).isSome := by
  intro text htext
  rw [Option.mem_def] at htext
  subst htext
  simp only [CustodianServiceImpl.applyAssigned] at h
  split at h
  next uuid huuid => simp [huuid]
  next => cases h

/-- The ticket an accepted request leads to. -/
theorem applyUpdates_eq (h : CustodianServiceImpl.applyUpdates req old = .ok updated) :
    updated = { old with
      title := req.title.getD old.title
      project := req.project.getD old.project
      symptom := (req.symptom.map fun v => Symptom.fromU8 (enumByte v)).getD old.symptom
      priority := (req.priority.map fun v => TicketPriority.fromU8 (enumByte v)).getD old.priority
      status := (req.status.map fun v => TicketStatus.fromU8 (enumByte v)).getD old.status
      nextAction := (req.nextAction.map protoToNextAction).getD old.nextAction
      resolution := (req.resolution.map fun v => some (Resolution.fromU8 (enumByte v))).getD
        old.resolution
      assignedTo := (req.assignedToUuid.map UuidParser.parseStr).getD old.assignedTo } ∧
    ∀ text ∈ req.assignedToUuid, (UuidParser.parseStr text).isSome := by
  simp only [CustodianServiceImpl.applyUpdates] at h
  split at h
  · cases h
  next hstatus =>
    refine ⟨?_, applyAssigned_parsed h⟩
    rw [applyAssigned_eq h, applyStatus_eq hstatus]

/-- What an update stores is what the request asks for exactly when the handler leaves nothing
out. -/
theorem fullEffect_iff [LawfulChrono] {updater : Uuid} {updatedAt : Chrono.DateTime}
    (hupdater : req.updatedByUuid.bind UuidParser.parseStr = some updater)
    (h : CustodianServiceImpl.applyUpdates req old = .ok updated) :
    FullEffect req updatedAt old { updated with updatedBy := updater, updatedAt } ↔
      CarriedOver req old := by
  obtain ⟨rfl, hassigned⟩ := applyUpdates_eq h
  constructor
  case mp =>
    intro heffect
    exact
      { symptom := fun v hv => ⟨_, sets_getD_iff.mp heffect.symptom v hv⟩
        priority := fun v hv => ⟨_, sets_getD_iff.mp heffect.priority v hv⟩
        status := fun v hv => ⟨_, sets_getD_iff.mp heffect.status v hv⟩
        nextAction := fun message hmessage => (denotes_protoToNextAction_iff message).mp
          (sets_getD_iff.mp heffect.nextAction message hmessage)
        resolution := fun v hv =>
          ⟨_, Option.some.inj (sets_getD_iff.mp heffect.resolution v hv)⟩
        ebond := fun text htext => by
          have hset := heffect.ebond
          rwa [Option.mem_def.mp htext] at hset
        trackingUrl := fun text htext => by
          have hset := heffect.trackingUrl
          rwa [Option.mem_def.mp htext] at hset
        networkDevices := fun hne => heffect.networkDevices.trans (if_neg hne) }
  case mpr =>
    intro hcarried
    exact
      { title := rfl
        project := rfl
        symptom := sets_getD_iff.mpr fun v hv =>
          (enumInt_fromU8_iff Symptom.fromU8_toU8 v).mpr (hcarried.symptom v hv)
        priority := sets_getD_iff.mpr fun v hv =>
          (enumInt_fromU8_iff TicketPriority.fromU8_toU8 v).mpr (hcarried.priority v hv)
        status := sets_getD_iff.mpr fun v hv =>
          (enumInt_fromU8_iff TicketStatus.fromU8_toU8 v).mpr (hcarried.status v hv)
        nextAction := sets_getD_iff.mpr fun message hmessage =>
          (denotes_protoToNextAction_iff message).mpr (hcarried.nextAction message hmessage)
        resolution := sets_getD_iff.mpr fun v hv => congrArg some
          ((enumInt_fromU8_iff Resolution.fromU8_toU8 v).mpr (hcarried.resolution v hv))
        assignedTo := sets_getD_iff.mpr fun text htext => ⟨rfl, hassigned text htext⟩
        ebond := by
          cases hebond : req.ebond with
          | none => rfl
          | some text => exact hcarried.ebond text hebond
        trackingUrl := by
          cases hurl : req.trackingUrl with
          | none => rfl
          | some text => exact hcarried.trackingUrl text hurl
        networkDevices := by
          by_cases hnone : req.networkDevices = []
          · rw [if_pos hnone]
          · rw [if_neg hnone]
            exact hcarried.networkDevices hnone
        updatedBy := hupdater
        updatedAt := rfl
        ticketId := rfl
        customerTicketNumber := rfl
        ispTicketNumber := rfl
        otherTicketNumber := rfl
        accountUuid := rfl
        lockedBy := rfl
        createdBy := rfl
        createdAt := rfl
        history := rfl
        schemaVersion := rfl }

end Computing

/-! ## Handling a request -/

section Handling

variable [Primitives] [TicketFormat] [UuidParser] [Db.RowFormat] [FailureText]
  {service : CustodianServiceImpl}

/-- The DB has a live row whose body decrypts to the ticket. -/
def Stores (service : CustodianServiceImpl) (db : Sled) (ticketId : UInt64) (ticket : Ticket) :
    Prop :=
  ∃ record, Db.DatabaseService.getTicket db ticketId false = .ok record ∧
    Reads service record ticket

omit [UuidParser] [FailureText] in
/-- One ticket is stored under an id. -/
theorem Stores.unique {db : Sled} {ticketId : UInt64} {ticket other : Ticket}
    (h : Stores service db ticketId ticket) (hother : Stores service db ticketId other) :
    ticket = other := by
  obtain ⟨record, hget, hread⟩ := h
  obtain ⟨record', hget', hread'⟩ := hother
  obtain rfl : record = record' := Except.ok.inj (hget.symm.trans hget')
  exact Except.ok.inj (hread.symm.trans hread')

omit [UuidParser] in
/-- Reading a stored ticket returns its message. -/
theorem Stores.getTicket {db : Sled} {ticketId : UInt64} {ticket : Ticket}
    (h : Stores service db ticketId ticket) (hclient : service.dbClient = true) :
    service.getTicket db ticketId = .ok (domainToProto ticket) := by
  obtain ⟨record, hget, hread⟩ := h
  rw [CustodianServiceImpl.getTicket, CustodianServiceImpl.fetchRecord, if_pos hclient, hget]
  show (service.decryptTicket record.ticketId record.encryptedBody).map domainToProto = _
  rw [hread]
  rfl

omit [Primitives] [TicketFormat] [Db.RowFormat] [FailureText] in
/-- A request that passes the check of the lock names its updater. -/
theorem updater_of_checkLock [LockFormat] {locks : Sled} {now : Chrono.DateTime}
    {req : UpdateTicketRequest} {updater : Uuid}
    (h : CustodianServiceImpl.checkLock locks now req = .ok updater) :
    req.updatedByUuid.bind UuidParser.parseStr = some updater := by
  unfold CustodianServiceImpl.checkLock at h
  cases htext : req.updatedByUuid with
  | none => simp [htext] at h
  | some text =>
      simp only [htext] at h
      cases hparse : UuidParser.parseStr text with
      | none => simp [hparse] at h
      | some uuid =>
          simp only [hparse] at h
          split at h
          · cases h
          · split at h
            · cases h
            · split at h
              · cases h
              · cases h
                exact hparse
          · cases h

/-- How an update ends: it is turned down and changes nothing, or the ticket with the requested
changes takes the place of the one that was read, and every other ticket reads as before. -/
theorem updateTicket_cases_of_stored [LockFormat] (service : CustodianServiceImpl)
    (locks db : Sled) (now updatedAt : Chrono.DateTime) (entropy : Primitives.Entropy)
    (req : UpdateTicketRequest) :
    (∃ stop, service.updateTicket locks db now updatedAt entropy req = (.error stop, db)) ∨
      ∃ updater old updated db', req.updatedByUuid.bind UuidParser.parseStr = some updater ∧
        CustodianServiceImpl.applyUpdates req old = .ok updated ∧
        Stores service db req.ticketId old ∧
        Stores service db' req.ticketId { updated with updatedBy := updater, updatedAt } ∧
        (∀ j, j ≠ req.ticketId → Db.DatabaseService.getTicket db' j false =
          Db.DatabaseService.getTicket db j false) ∧
        service.updateTicket locks db now updatedAt entropy req =
          (.ok (domainToProto { updated with updatedBy := updater, updatedAt }), db') := by
  unfold CustodianServiceImpl.updateTicket
  cases hlock : CustodianServiceImpl.checkLock locks now req with
  | error status => exact .inl ⟨.error status, rfl⟩
  | ok updater =>
      cases hfetch : service.fetchRecord db req.ticketId with
      | error status => exact .inl ⟨.error status, rfl⟩
      | ok record =>
          cases hprepare : service.prepareUpdate req updater updatedAt entropy record with
          | error stop => exact .inl ⟨stop, by simp only [hprepare]⟩
          | ok write =>
              by_cases hid : req.ticketId = 0
              · obtain ⟨status, hwrite⟩ := writeTicket_zero db write
                refine .inl ⟨.error status, ?_⟩
                simp only [hprepare, hid, hwrite]
              · have hget := fetchRecord_eq_ok hfetch
                obtain ⟨db', hwrite, hread, hother⟩ := writeTicket_spec hget hid write
                obtain ⟨old, updated, hold, hupdated, hticket, -⟩ := prepareUpdate_inv hprepare
                have hbody := decryptTicket_prepareUpdate hprepare
                rw [hticket] at hwrite hbody
                refine .inr ⟨updater, old, updated, db', updater_of_checkLock hlock, hupdated,
                  ⟨record, hget, hold⟩, ⟨_, hread, hbody⟩, hother, ?_⟩
                simp only [hprepare, hwrite]

/-- Without a connection to the DB no update is accepted. -/
theorem dbClient_of_accepted [LockFormat] {locks db db' : Sled} {now updatedAt : Chrono.DateTime}
    {entropy : Primitives.Entropy} {req : UpdateTicketRequest} {message : TicketMessage}
    (h : service.updateTicket locks db now updatedAt entropy req = (.ok message, db')) :
    service.dbClient = true := by
  by_contra hnone
  unfold CustodianServiceImpl.updateTicket CustodianServiceImpl.fetchRecord at h
  rw [if_neg hnone] at h
  split at h <;> cases h

/-- A request with a lock on a ticket that can be read is accepted once its new row is computed. -/
theorem updateTicket_eq_ok [LockFormat] {locks db : Sled} {now updatedAt : Chrono.DateTime}
    {entropy : Primitives.Entropy} {req : UpdateTicketRequest} {updater : Uuid}
    {record : Db.TicketRecord} {write : CustodianServiceImpl.PreparedWrite}
    (hlock : CustodianServiceImpl.checkLock locks now req = .ok updater)
    (hfetch : service.fetchRecord db req.ticketId = .ok record)
    (hprepare : service.prepareUpdate req updater updatedAt entropy record = .ok write)
    (hid : req.ticketId ≠ 0) :
    ∃ db', service.updateTicket locks db now updatedAt entropy req =
      (.ok (domainToProto write.ticket), db') := by
  obtain ⟨db', hwrite, -⟩ := writeTicket_spec (fetchRecord_eq_ok hfetch) hid write
  exact ⟨db', by simp only [CustodianServiceImpl.updateTicket, hlock, hfetch, hprepare, hwrite]⟩

/-- How a creation ends: it is turned down and changes nothing, or the ticket is stored under the
id it is answered with, if there is a DB, and every other ticket reads as before. -/
theorem createTicket_cases_of_stored (service : CustodianServiceImpl) (db : Sled)
    (now : Chrono.DateTime) (nowMillis : Int64) (entropy : Primitives.Entropy)
    (req : CreateTicketRequest) :
    (∃ status, service.createTicket db now nowMillis entropy req = (.error status, db)) ∨
      ∃ ticket ticketId db', CustodianServiceImpl.newTicket req now = .ok ticket ∧
        (service.dbClient = true → Stores service db' ticketId { ticket with ticketId }) ∧
        (∀ j, (service.dbClient = true → j ≠ ticketId) →
          Db.DatabaseService.getTicket db' j false = Db.DatabaseService.getTicket db j false) ∧
        service.createTicket db now nowMillis entropy req =
          (.ok (domainToProto { ticket with ticketId }), db') := by
  unfold CustodianServiceImpl.createTicket
  cases hticket : CustodianServiceImpl.newTicket req now with
  | error status => exact .inl ⟨status, rfl⟩
  | ok ticket =>
      cases hbody : service.encryptTicket ticket entropy with
      | error status => exact .inl ⟨status, by simp only [hbody]⟩
      | ok body =>
          by_cases hclient : service.dbClient = true
          case neg =>
            exact .inr ⟨ticket, _, db, rfl, fun h => absurd h hclient, fun _ _ => rfl,
              by simp only [hbody, if_neg hclient]; rfl⟩
          case pos =>
            have hrows := Db.rowCell_createTicket db body
              (Db.ticketIndexFromProto (ticketIndex ticket))
            have hrow := (hrows (Db.nextCounter (db.at? Db.seqCell))).trans (if_pos rfl)
            refine .inr ⟨ticket, _, _, rfl, fun _ => ?_, fun j hj =>
              Db.DatabaseService.getTicket_congr ((hrows j).trans (if_neg (hj hclient))) false, by
              simp only [hbody, if_pos hclient, Db.DatabaseService.createTicket_eq]; rfl⟩
            exact ⟨_, Db.DatabaseService.getTicket_eq_ok.mpr ⟨_, _, hrow, Codec.decode_encode _ _,
              rfl, rfl⟩, service.decryptTicket_encryptTicket hbody _⟩

omit [Primitives] [TicketFormat] [Db.RowFormat] [FailureText] in
/-- What a creation stores shows every field of the request exactly when the handler leaves nothing
out. -/
theorem shownIn_iff {req : CreateTicketRequest} {now : Chrono.DateTime} {ticket : Ticket}
    (h : CustodianServiceImpl.newTicket req now = .ok ticket) (ticketId : UInt64) :
    ShownIn req (domainToProto { ticket with ticketId }) ↔ CarriedIn req := by
  simp only [CustodianServiceImpl.newTicket] at h
  split at h
  · cases h
  split at h
  · cases h
  next accountUuid haccount =>
    split at h
    · cases h
    next createdBy hcreated =>
      cases h
      constructor
      case mp =>
        intro hshown
        exact
          { symptom := ⟨_, hshown.symptom⟩
            priority := ⟨_, hshown.priority⟩
            networkDevices := hshown.networkDevices.symm }
      case mpr =>
        intro hcarried
        exact
          { title := rfl
            project := rfl
            accountUuid := by rw [haccount]; rfl
            symptom := (enumInt_fromU8_iff Symptom.fromU8_toU8 req.symptom).mpr hcarried.symptom
            priority :=
              (enumInt_fromU8_iff TicketPriority.fromU8_toU8 req.priority).mpr hcarried.priority
            createdByUuid := by rw [hcreated]; rfl
            customerTicketNumber := rfl
            ispTicketNumber := rfl
            otherTicketNumber := rfl
            ebond := rfl
            trackingUrl := rfl
            networkDevices := hcarried.networkDevices.symm }

/-- An accepted update has the full effect on the stored ticket exactly when the request asks for
nothing the handler leaves out. An accepted creation can be read back in full exactly when there
is a DB and the request asks for nothing the handler leaves out. A request that is turned down
changes nothing. -/
theorem ticket_requests_take_full_effect_iff [LockFormat] [LawfulChrono]
    (service : CustodianServiceImpl) :
    (∀ {locks db now updatedAt entropy req message db'},
      service.updateTicket locks db now updatedAt entropy req = (.ok message, db') →
        ∃ old new, Stores service db req.ticketId old ∧ Stores service db' req.ticketId new ∧
          (FullEffect req updatedAt old new ↔ CarriedOver req old)) ∧
    (∀ {db now nowMillis entropy req message db'},
      service.createTicket db now nowMillis entropy req = (.ok message, db') →
        ((∃ shown, service.getTicket db' message.ticketId = .ok shown ∧ ShownIn req shown) ↔
          service.dbClient = true ∧ CarriedIn req)) ∧
    (∀ {locks db now updatedAt entropy req stop db'},
      service.updateTicket locks db now updatedAt entropy req = (.error stop, db') → db' = db) ∧
    (∀ {db now nowMillis entropy req status db'},
      service.createTicket db now nowMillis entropy req = (.error status, db') → db' = db) := by
  refine ⟨?_, ?_, ?_, ?_⟩
  · intro locks db now updatedAt entropy req message db' h
    rcases updateTicket_cases_of_stored service locks db now updatedAt entropy req with
      ⟨stop, herror⟩ | ⟨updater, old, updated, db'', hupdater, hupdated, hold, hnew, -, hok⟩
    · rw [herror] at h
      cases h
    · obtain ⟨-, rfl⟩ := Prod.mk.inj (hok.symm.trans h)
      exact ⟨old, _, hold, hnew, fullEffect_iff hupdater hupdated⟩
  · intro db now nowMillis entropy req message db' h
    rcases createTicket_cases_of_stored service db now nowMillis entropy req with
      ⟨status, herror⟩ | ⟨ticket, ticketId, db'', hticket, hstored, -, hok⟩
    · rw [herror] at h
      cases h
    · obtain ⟨hmessage, rfl⟩ := Prod.mk.inj (hok.symm.trans h)
      obtain rfl := Except.ok.inj hmessage
      constructor
      case mp =>
        rintro ⟨shown, hget, hshown⟩
        by_cases hclient : service.dbClient = true
        · have hread := (hstored hclient).getTicket hclient
          obtain rfl : shown = _ := Except.ok.inj (hget.symm.trans hread)
          exact ⟨hclient, (shownIn_iff hticket ticketId).mp hshown⟩
        · rw [CustodianServiceImpl.getTicket, CustodianServiceImpl.fetchRecord,
            if_neg hclient] at hget
          cases hget
      case mpr =>
        rintro ⟨hclient, hcarried⟩
        exact ⟨_, (hstored hclient).getTicket hclient, (shownIn_iff hticket ticketId).mpr hcarried⟩
  · intro locks db now updatedAt entropy req stop db' h
    rcases updateTicket_cases_of_stored service locks db now updatedAt entropy req with
      ⟨stop', herror⟩ | ⟨updater, old, updated, db'', -, -, -, -, -, hok⟩
    · exact (Prod.mk.inj (herror.symm.trans h)).2.symm
    · rw [hok] at h
      cases h
  · intro db now nowMillis entropy req status db' h
    rcases createTicket_cases_of_stored service db now nowMillis entropy req with
      ⟨status', herror⟩ | ⟨ticket, ticketId, db'', -, -, -, hok⟩
    · exact (Prod.mk.inj (herror.symm.trans h)).2.symm
    · rw [hok] at h
      cases h

end Handling

end InfoVulcan.Custodian

/-! ## Runs on the JSON formats -/

namespace InfoVulcan.Custodian

open scoped SerdeJson
open SerdeJson

/-- What the holder of a lock asks for is accepted, as long as the status stays and no assignee is
named. -/
theorem accepted_update (req : UpdateTicketRequest) (hticket : req.ticketId = 1)
    (hupdater : req.updatedByUuid = some (toString holder)) (hstatus : req.status = none)
    (hassigned : req.assignedToUuid = none) :
    ∃ message db', custodian.updateTicket firstLocks firstDb CivilTime.unixEpoch
      CivilTime.unixEpoch [] req = (.ok message, db') := by
  have hlock : CustodianServiceImpl.checkLock firstLocks CivilTime.unixEpoch req = .ok holder :=
    checkLock_acquired hticket hupdater
  have hfetch : custodian.fetchRecord firstDb req.ticketId = .ok firstRecord := by
    rw [hticket]
    exact fetchRecord_firstDb
  have hread : Reads custodian firstRecord firstTicket :=
    custodian.decryptTicket_encryptTicket (encryptTicket_eq firstTicket) 1
  have hupdated : ∃ updated, CustodianServiceImpl.applyUpdates req firstTicket = .ok updated := by
    simp [CustodianServiceImpl.applyUpdates, CustodianServiceImpl.applyStatus,
      CustodianServiceImpl.applyAssigned, hstatus, hassigned]
  obtain ⟨updated, hupdated⟩ := hupdated
  obtain ⟨db', hok⟩ := updateTicket_eq_ok hlock hfetch
    (prepareUpdate_eq_ok hread hupdated (encryptTicket_eq _)) (by rw [hticket]; decide)
  exact ⟨_, db', hok⟩

/-- The holder of a lock sets the title and the priority. -/
theorem ticket_requests_take_full_effect_title :
    ∃ message db' old new, custodian.updateTicket firstLocks firstDb CivilTime.unixEpoch
        CivilTime.unixEpoch [] (holderRequest (some "new title") (some 1)) =
          (.ok message, db') ∧
      Stores custodian firstDb 1 old ∧ Stores custodian db' 1 new ∧
      FullEffect (holderRequest (some "new title") (some 1)) CivilTime.unixEpoch old new := by
  obtain ⟨message, db', hok⟩ :=
    accepted_update (holderRequest (some "new title") (some 1)) rfl rfl rfl rfl
  obtain ⟨old, new, hold, hnew, hiff⟩ := (ticket_requests_take_full_effect_iff custodian).1 hok
  refine ⟨message, db', old, new, hok, hold, hnew, hiff.mpr ?_⟩
  exact
    { symptom := fun v hv => by cases hv
      priority := fun v hv => ⟨.hardDown, by cases hv; decide⟩
      status := fun v hv => by cases hv
      nextAction := fun m hm => by cases hm
      resolution := fun v hv => by cases hv
      ebond := fun text htext => by cases htext
      trackingUrl := fun text htext => by cases htext
      networkDevices := fun hne => absurd rfl hne }

/-- A request of the holder of a lock for an eBond reference. -/
def ebondRequest : UpdateTicketRequest :=
  { holderRequest none none with ebond := some "E-1" }

/-- The request is accepted, and the eBond reference is not stored. -/
theorem ebond_dropped :
    ∃ message db', custodian.updateTicket firstLocks firstDb CivilTime.unixEpoch
        CivilTime.unixEpoch [] ebondRequest = (.ok message, db') ∧
      ∃ old, Stores custodian firstDb 1 old ∧
        ∀ new, Stores custodian db' 1 new → ¬ FullEffect ebondRequest CivilTime.unixEpoch old new := by
  obtain ⟨message, db', hok⟩ := accepted_update ebondRequest rfl rfl rfl rfl
  have hread : Reads custodian firstRecord firstTicket :=
    custodian.decryptTicket_encryptTicket (encryptTicket_eq firstTicket) 1
  have hfirst : Stores custodian firstDb 1 firstTicket :=
    ⟨firstRecord, fetchRecord_eq_ok fetchRecord_firstDb, hread⟩
  refine ⟨message, db', hok, firstTicket, hfirst, fun new hnew heffect => ?_⟩
  rcases updateTicket_cases_of_stored custodian firstLocks firstDb CivilTime.unixEpoch
      CivilTime.unixEpoch [] ebondRequest with
    ⟨stop, herror⟩ | ⟨updater, old, updated, db'', hupdater, hupdated, hold, hstored, -, hok'⟩
  · rw [herror] at hok
    cases hok
  · obtain ⟨-, rfl⟩ := Prod.mk.inj (hok'.symm.trans hok)
    obtain rfl := hfirst.unique hold
    obtain rfl := hnew.unique hstored
    have hcarried := (fullEffect_iff hupdater hupdated).mp heffect
    have hebond := hcarried.ebond "E-1" rfl
    cases hebond

end InfoVulcan.Custodian
