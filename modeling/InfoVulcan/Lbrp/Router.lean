import InfoVulcan.Auth.Accounts
import InfoVulcan.Lbrp.Routes

/-!
# The router of the reverse proxy

A request is matched by path and method. The routes under `/api` stand behind a check of the
session token, but for the creation of users, and what the token says of the user's role is not
looked at. Each handler takes its parameters from the request and makes one call to a service
behind the proxy (`reach`).
-/

namespace InfoVulcan.Lbrp

/-! ## Requests -/

/-- The body of a login. -/
structure LoginRequest where
  username : String
  password : String
  mfaToken : Option String
  deriving DecidableEq

/-- The body of a request to create a user. -/
structure CreateUserRequest where
  username : String
  password : String
  email : String
  displayName : String
  role : Int32
  deriving DecidableEq

/-- The parameters of a listing of users. -/
structure ListUsersParams where
  page : Option UInt32
  pageSize : Option UInt32
  deriving DecidableEq

/-- The body of a request to change a user. -/
structure UpdateUserRequest where
  email : Option String
  displayName : Option String
  role : Option Int32
  active : Option Bool
  password : Option String
  deriving DecidableEq

/-- The method of a request. -/
inductive Method where
  | get
  | head
  | post
  | put
  | delete
  | other (name : String)
  deriving DecidableEq

/-- What the web framework takes from a request: parameters from segments of the path, and from
the rest of the request (its query, body and other headers) the types the handlers ask for. It
turns a request down if it cannot. -/
class Extractors where
  Rest : Type
  Rejection : Type
  pathString : String → Except Rejection String
  pathU64 : String → Except Rejection UInt64
  loginRequest : Rest → Except Rejection LoginRequest
  createUserRequest : Rest → Except Rejection CreateUserRequest
  listUsersParams : Rest → Except Rejection ListUsersParams
  updateUserRequest : Rest → Except Rejection UpdateUserRequest
  createTicketRequest : Rest → Except Rejection CreateTicketRequest
  listTicketsParams : Rest → Except Rejection ListTicketsParams
  updateTicketRequest : Rest → Except Rejection UpdateTicketRequest

/-- A request: its method, the segments of its path, the value of the authorization header, if
there is one that is text, and the rest. -/
structure HttpRequest [Extractors] where
  method : Method
  path : List String
  authorization : Option String
  rest : Extractors.Rest

/-! ## The session token -/

/-- The token of an authorization header. -/
def bearerToken (header : String) : Option String :=
  if "Bearer ".toList.isPrefixOf header.toList then
    some (String.ofList (header.toList.drop 7))
  else none

theorem bearerToken_append (token : String) : bearerToken ("Bearer " ++ token) = some token := by
  have hupto : "Bearer ".toList.isPrefixOf ("Bearer " ++ token).toList = true := by
    rw [String.toList_append]
    exact List.isPrefixOf_iff_prefix.mpr (List.prefix_append _ _)
  have hdrop : ("Bearer " ++ token).toList.drop 7 = token.toList := by
    rw [String.toList_append]
    exact List.drop_left' rfl
  rw [bearerToken, if_pos hupto, hdrop, String.ofList_toList]

variable [Chrono] [Extractors]

/-- The claims of the token a request carries, if it is accepted. -/
def authMiddleware [Jwt] (jwtSecret : Bytes) (now : Chrono.DateTime) (req : HttpRequest) :
    Option Claims :=
  match req.authorization with
  | none => none
  | some header =>
      match bearerToken header with
      | none => none
      | some token => Jwt.decode token jwtSecret now

/-- The token behind the word that introduces it is the one that is decoded. -/
theorem authMiddleware_bearer [Jwt] {jwtSecret : Bytes} {now : Chrono.DateTime} {req : HttpRequest}
    {token : String} (h : req.authorization = some ("Bearer " ++ token)) :
    authMiddleware jwtSecret now req = Jwt.decode token jwtSecret now := by
  simp only [authMiddleware, h, bearerToken_append]

/-! ## Calls to the services -/

/-- A call to a service behind the proxy. -/
inductive UpstreamCall where
  | health
  | authenticate (req : Auth.AuthenticateRequest)
  | createUser (req : Admin.CreateUserRequest)
  | listUsers (page pageSize : UInt32)
  | getUser (id : String)
  | updateUser (req : Admin.UpdateUserRequest)
  | deleteUser (req : Admin.DeleteUserRequest)
  | createTicket (req : Custodian.CreateTicketRequest)
  | getTicket (id : UInt64)
  | updateTicket (req : Custodian.UpdateTicketRequest)
  | queryTickets (req : Custodian.QueryTicketsRequest)

/-- The request to the auth service for a login. -/
def authenticateRequest (payload : LoginRequest) : Auth.AuthenticateRequest where
  username := payload.username
  password := payload.password
  mfaToken := payload.mfaToken.getD ""

/-- The request to the admin service for a new user. -/
def createUserRequest (payload : CreateUserRequest) : Admin.CreateUserRequest where
  username := payload.username
  password := payload.password
  email := payload.email
  displayName := payload.displayName
  role := payload.role

/-- The request to the admin service for a change of a user. -/
def updateUserRequest (id : String) (payload : UpdateUserRequest) : Admin.UpdateUserRequest where
  id := id
  email := payload.email
  displayName := payload.displayName
  role := payload.role
  active := payload.active
  password := payload.password

/-! ## Routes -/

/-- Why the proxy turns a request down before it makes a call. -/
inductive Refusal where
  | notFound
  | methodNotAllowed
  | unauthorized
  | rejected (r : Extractors.Rejection)

/-- The resources behind the session token, with the segment of the path that names one. -/
inductive Resource where
  | tickets
  | ticket (segment : String)
  | users
  | user (segment : String)
  deriving DecidableEq

/-- The resource of a path under `/api`. A segment that names something is not empty. -/
def resource : List String → Option Resource
  | ["tickets"] => some .tickets
  | ["tickets", segment] => if segment = "" then none else some (.ticket segment)
  | ["admin", "users"] => some .users
  | ["admin", "users", segment] => if segment = "" then none else some (.user segment)
  | _ => none

/-- A call with what is taken from the request. -/
def extract {α : Type} (value : Except Extractors.Rejection α) (call : α → UpstreamCall) :
    Except Refusal UpstreamCall :=
  match value with
  | .error r => .error (.rejected r)
  | .ok a => .ok (call a)

/-- A call with a segment of the path and what else is taken from the request. -/
def extractPath {ι α : Type} (segment : Except Extractors.Rejection ι)
    (value : Except Extractors.Rejection α) (call : ι → α → UpstreamCall) :
    Except Refusal UpstreamCall :=
  match segment with
  | .error r => .error (.rejected r)
  | .ok id => extract value (call id)

/-- The call of a route behind the session token. -/
def apiRoutes (claims : Claims) (req : HttpRequest) :
    Resource → Method → Except Refusal UpstreamCall
  | .tickets, .post =>
      extract (Extractors.createTicketRequest req.rest) fun payload =>
        .createTicket (createTicketRequest claims.sub payload)
  | .tickets, .get | .tickets, .head =>
      extract (Extractors.listTicketsParams req.rest) fun params =>
        .queryTickets (queryTicketsRequest params)
  | .ticket segment, .get | .ticket segment, .head =>
      extract (Extractors.pathU64 segment) .getTicket
  | .ticket segment, .put =>
      extractPath (Extractors.pathU64 segment) (Extractors.updateTicketRequest req.rest)
        fun id payload => .updateTicket (updateTicketRequest id claims.sub payload)
  | .users, .get | .users, .head =>
      extract (Extractors.listUsersParams req.rest) fun params =>
        .listUsers (params.page.getD 0) (params.pageSize.getD 0)
  | .user segment, .get | .user segment, .head =>
      extract (Extractors.pathString segment) .getUser
  | .user segment, .put =>
      extractPath (Extractors.pathString segment) (Extractors.updateUserRequest req.rest)
        fun id payload => .updateUser (updateUserRequest id payload)
  | .user segment, .delete =>
      extract (Extractors.pathString segment) fun id => .deleteUser ⟨id⟩
  | _, _ => .error .methodNotAllowed

/-- The call a request leads to. The creation of users is open, so that there can be a first
one. -/
def reach [Jwt] (jwtSecret : Bytes) (now : Chrono.DateTime) (req : HttpRequest) :
    Except Refusal UpstreamCall :=
  match req.path with
  | ["health"] =>
      match req.method with
      | .get | .head => .ok .health
      | _ => .error .methodNotAllowed
  | ["auth", "login"] =>
      match req.method with
      | .post =>
          extract (Extractors.loginRequest req.rest) fun payload =>
            .authenticate (authenticateRequest payload)
      | _ => .error .methodNotAllowed
  | "api" :: segments =>
      match resource segments with
      | none => .error .notFound
      | some found =>
          if found = .users ∧ req.method = .post then
            extract (Extractors.createUserRequest req.rest) fun payload =>
              .createUser (createUserRequest payload)
          else
            match authMiddleware jwtSecret now req with
            | none => .error .unauthorized
            | some claims => apiRoutes claims req found req.method
  | _ => .error .notFound

end InfoVulcan.Lbrp
