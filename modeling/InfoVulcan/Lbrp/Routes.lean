import InfoVulcan.Custodian.Server
import InfoVulcan.Db.QueryFilters

/-!
# Ticket routes of the reverse proxy

Each handler turns its parameters into a request to the custodian and shows what that answers.
Listing tickets forwards the query parameters to the custodian, and the custodian forwards them to
the DB. Neither changes a filter that is set, and every query the DB can receive comes from some
parameters.
-/

namespace InfoVulcan.Lbrp

open Custodian

/-- The parameters of a listing. -/
structure ListTicketsParams where
  status : Option UInt32
  assignee : Option String
  account : Option String
  project : Option String
  includeDeleted : Option Bool
  limit : Option UInt32
  deriving DecidableEq

/-- The body of a request to create a ticket. -/
structure CreateTicketRequest where
  title : String
  project : String
  accountUuid : String
  symptom : Int32
  priority : Int32
  deriving DecidableEq

/-- The next action a client writes. `none` clears it. -/
inductive ApiNextActionInput where
  | none
  | followUp (seconds : Int64)
  | appointment (seconds : Int64)
  | autoClose (schedule : String)
  deriving DecidableEq

/-- The body of a request to update a ticket. -/
structure UpdateTicketRequest where
  title : Option String
  project : Option String
  priority : Option Int32
  status : Option Int32
  nextAction : Option ApiNextActionInput
  deriving DecidableEq

/-- The next action of a listed ticket. -/
inductive ApiNextAction where
  | followUp (seconds : Int64)
  | appointment (seconds : Int64)
  | autoClose (schedule : String)
  deriving DecidableEq

/-- A ticket as it is listed. -/
structure ApiTicket where
  ticketId : UInt64
  title : String
  project : String
  priority : Int32
  status : Int32
  nextAction : Option ApiNextAction
  deriving DecidableEq

/-- An error of the API: its status number, its code and its text. -/
structure ApiError where
  status : Nat
  code : String
  message : String
  deriving DecidableEq

/-- An internal error of the API. -/
def ApiError.internal (message : String) : ApiError := ⟨500, "internal", message⟩

/-- The error of the API for what does not exist. -/
def ApiError.notFound (message : String) : ApiError := ⟨404, "not_found", message⟩

def mapNextAction (nextAction : NextActionMessage) : Option ApiNextAction :=
  nextAction.kind.map fun
    | .followUp ts => .followUp ts.seconds
    | .appointment ts => .appointment ts.seconds
    | .autoClose value =>
        .autoClose <| match value.toInt with
          | 2 => "hours_24"
          | 3 => "hours_48"
          | 4 => "hours_72"
          | _ => "end_of_day"

/-- The message of a next action that is written. An unknown schedule is the end of the day. -/
def toProtoNextAction (input : ApiNextActionInput) : NextActionMessage where
  kind :=
    match input with
    | .none => none
    | .followUp seconds => some (.followUp ⟨seconds, 0⟩)
    | .appointment seconds => some (.appointment ⟨seconds, 0⟩)
    | .autoClose schedule =>
        some <| .autoClose <| match schedule with
          | "hours_24" => 2
          | "hours_48" => 3
          | "hours_72" => 4
          | _ => 1

/-- The listed form of a ticket. -/
def ApiTicket.ofTicket (ticket : TicketMessage) : ApiTicket where
  ticketId := ticket.ticketId
  title := ticket.title
  project := ticket.project
  priority := ticket.priority
  status := ticket.status
  nextAction := ticket.nextAction.bind mapNextAction

/-- The request to the custodian for a listing. -/
def queryTicketsRequest (params : ListTicketsParams) : QueryTicketsRequest where
  status := params.status
  assignedToUuid := params.assignee
  accountUuid := params.account
  project := params.project
  includeDeleted := params.includeDeleted.getD false
  limit := params.limit.getD 0

/-- The request to the custodian for a new ticket, on behalf of the subject of the token. -/
def createTicketRequest (sub : String) (payload : CreateTicketRequest) :
    Custodian.CreateTicketRequest where
  title := payload.title
  project := payload.project
  accountUuid := payload.accountUuid
  symptom := payload.symptom
  priority := payload.priority
  createdByUuid := sub
  customerTicketNumber := none
  ispTicketNumber := none
  otherTicketNumber := none
  ebond := none
  trackingUrl := none
  networkDevices := []

/-- The request to the custodian for an update, on behalf of the subject of the token. -/
def updateTicketRequest (id : UInt64) (sub : String) (payload : UpdateTicketRequest) :
    Custodian.UpdateTicketRequest where
  ticketId := id
  title := payload.title
  project := payload.project
  symptom := none
  priority := payload.priority
  status := payload.status
  nextAction := payload.nextAction.map toProtoNextAction
  resolution := none
  assignedToUuid := none
  updatedByUuid := some sub
  ebond := none
  trackingUrl := none
  networkDevices := []

/-- The query that reaches the DB for a listing. -/
def forwardedQuery (params : ListTicketsParams) : Db.TicketQueryMessage :=
  CustodianServiceImpl.ticketQuery (queryTicketsRequest params)

/-- Every query of the DB is forwarded for some listing. -/
theorem exists_forwardedQuery (query : Db.TicketQueryMessage) :
    ∃ params, forwardedQuery params = query :=
  ⟨⟨query.status, query.assignedToUuid, query.accountUuid, query.project,
    some query.includeDeleted, some query.limit⟩, rfl⟩

section Handlers

variable [Chrono] [Primitives] [TicketFormat] [Db.RowFormat] [FailureText]

/-- The text of a failed call to the custodian. A panic there fails the call under the text of the
broken connection. -/
def callFailure (broken : String) : Stop Status → String
  | .error status => FailureText.status status
  | .panicked => broken

/-- Creates a ticket. -/
def createTicket [UuidParser] (custodian : CustodianServiceImpl) (db : Sled)
    (now : Chrono.DateTime) (nowMillis : Int64) (entropy : Primitives.Entropy) (sub : String)
    (payload : CreateTicketRequest) : Except ApiError ApiTicket × Sled :=
  match custodian.createTicket db now nowMillis entropy (createTicketRequest sub payload) with
  | (.error status, db) => (.error (.internal (FailureText.status status)), db)
  | (.ok ticket, db) => (.ok (.ofTicket ticket), db)

/-- Reads a ticket. -/
def getTicket (custodian : CustodianServiceImpl) (db : Sled) (broken : String) (id : UInt64) :
    Except ApiError ApiTicket :=
  match custodian.getTicket db id with
  | .error stop => .error (.notFound (callFailure broken stop))
  | .ok ticket => .ok (.ofTicket ticket)

/-- Updates a ticket. -/
def updateTicket [LockFormat] [UuidParser] (custodian : CustodianServiceImpl) (locks db : Sled)
    (now updatedAt : Chrono.DateTime) (entropy : Primitives.Entropy) (broken : String)
    (id : UInt64) (sub : String) (payload : UpdateTicketRequest) :
    Except ApiError ApiTicket × Sled :=
  match custodian.updateTicket locks db now updatedAt entropy
      (updateTicketRequest id sub payload) with
  | (.error stop, db) => (.error (.internal (callFailure broken stop)), db)
  | (.ok ticket, db) => (.ok (.ofTicket ticket), db)

/-- Lists tickets. A panic of the custodian fails the call under the text of the broken
connection. -/
def listTickets (custodian : CustodianServiceImpl) (db : Sled) (broken : String)
    (params : ListTicketsParams) : Except ApiError (List ApiTicket) :=
  match custodian.queryTickets db (queryTicketsRequest params) with
  | .error (.error status) => .error (.internal (FailureText.status status))
  | .error .panicked => .error (.internal broken)
  | .ok tickets => .ok (tickets.map ApiTicket.ofTicket)

end Handlers

end InfoVulcan.Lbrp
