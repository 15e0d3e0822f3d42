import InfoVulcan.Auth.Json
import InfoVulcan.Lbrp.Router

/-!
# The JSON formats of request bodies

The bodies are read with all fields present, an absent one as `null`, and queries are taken to be
empty. They are one instance of the parameters of the router.
-/

namespace InfoVulcan.SerdeJson

open JsonFormat Lbrp

/-- Signed 32-bit words. -/
def i32 : JsonFormat Int32 :=
  int.conv Int32.toInt
    (fun z => if -2 ^ 31 ≤ z ∧ z < 2 ^ 31 then some (Int32.ofInt z) else none) fun x => by
      rw [if_pos ⟨x.le_toInt, x.toInt_lt⟩, Int32.ofInt_toInt]

def optionI32 : JsonFormat (Option Int32) :=
  i32.option fun x b text hb => by
    have hrender : int.render x.toInt = b :: text := hb
    simp only [int] at hrender
    split at hrender
    · obtain rfl := (List.cons.inj hrender).1
      decide
    · obtain ⟨b', text', hcons, hdigit⟩ := digitBytes_eq_cons x.toInt.natAbs
      obtain rfl := (List.cons.inj (hcons.symm.trans hrender)).1
      rw [beq_eq_false_iff_ne]
      rintro rfl
      exact absurd hdigit (by decide)

def optionBool : JsonFormat (Option Bool) :=
  bool.option fun a b _ hb => by
    cases a <;> obtain rfl := (List.cons.inj hb).1 <;> decide

def loginRequest : JsonFormat LoginRequest :=
  (object "username" string <| field "password" string <|
    field "mfa_token" optionString endObject).conv
    (fun r => (r.username, r.password, r.mfaToken, ()))
    (fun (username, password, token, _) => some ⟨username, password, token⟩)
    fun _ => rfl

def createUserRequest : JsonFormat Lbrp.CreateUserRequest :=
  (object "username" string <| field "password" string <| field "email" string <|
    field "display_name" string <| field "role" i32 endObject).conv
    (fun r => (r.username, r.password, r.email, r.displayName, r.role, ()))
    (fun (username, password, email, displayName, role, _) =>
      some ⟨username, password, email, displayName, role⟩)
    fun _ => rfl

def updateUserRequest : JsonFormat Lbrp.UpdateUserRequest :=
  (object "email" optionString <| field "display_name" optionString <| field "role" optionI32 <|
    field "active" optionBool <| field "password" optionString endObject).conv
    (fun r => (r.email, r.displayName, r.role, r.active, r.password, ()))
    (fun (email, displayName, role, active, password, _) =>
      some ⟨email, displayName, role, active, password⟩)
    fun _ => rfl

def createTicketRequest : JsonFormat Lbrp.CreateTicketRequest :=
  (object "title" string <| field "project" string <| field "account_uuid" string <|
    field "symptom" i32 <| field "priority" i32 endObject).conv
    (fun r => (r.title, r.project, r.accountUuid, r.symptom, r.priority, ()))
    (fun (title, project, account, symptom, priority, _) =>
      some ⟨title, project, account, symptom, priority⟩)
    fun _ => rfl

/-- The fields of an update of a ticket, without the next action. -/
def updateTicketFields :
    JsonFormat (Option String × Option String × Option Int32 × Option Int32 × Unit) :=
  object "title" optionString <| field "project" optionString <| field "priority" optionI32 <|
    field "status" optionI32 endObject

/-- Reads a body. -/
def readBody {α : Type} (format : JsonFormat α) (body : Bytes) : Except Unit α :=
  (format.codec.decode body).mapError fun _ => ()

theorem readBody_encode {α : Type} (format : JsonFormat α) (a : α) :
    readBody format (format.codec.encode a) = .ok a := by
  rw [readBody, Codec.decode_encode]
  rfl

/-- Reads a segment of a path that has no escapes. -/
def readSegment (segment : String) : Except Unit String :=
  if '%' ∈ segment.toList then .error () else .ok segment

/-- Reads a segment of a path as a number. -/
def readNumber (segment : String) : Except Unit UInt64 :=
  match segment.toNat? with
  | some n => if n < 2 ^ 64 then .ok (UInt64.ofNat n) else .error ()
  | none => .error ()

scoped instance : Extractors where
  Rest := Bytes
  Rejection := Unit
  pathString := readSegment
  pathU64 := readNumber
  loginRequest := readBody loginRequest
  createUserRequest := readBody createUserRequest
  listUsersParams _ := .ok ⟨none, none⟩
  updateUserRequest := readBody updateUserRequest
  createTicketRequest := readBody createTicketRequest
  listTicketsParams _ := .ok ⟨none, none, none, none, none, none⟩
  updateTicketRequest body :=
    (readBody updateTicketFields body).map fun (title, project, priority, status, _) =>
      ⟨title, project, priority, status, none⟩

/-- A token of the stand-in. -/
def sessionToken (claims : Claims) (secret : Bytes) : String :=
  latin1 (signedClaims.codec.encode (claims, secret))

/-- A token is accepted until a minute after it has expired. -/
theorem decode_sessionToken {claims : Claims} {secret : Bytes} {now : CivilTime}
    (h : now.timestamp.toInt ≤ claims.exp + 60) :
    Jwt.decode (sessionToken claims secret) secret now = some claims := by
  simp only [Jwt.decode, sessionToken, ofLatin1_latin1, Codec.decode_encode]
  exact if_pos ⟨trivial, h⟩

end InfoVulcan.SerdeJson
