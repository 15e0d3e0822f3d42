import InfoVulcan.Db.Storage
import InfoVulcan.Library.Text
import InfoVulcan.Shared.User

/-!
# The login and session handlers of the auth service

A login reads the credentials under the username, checks the password and, for an account with an
enrolled secret, a one-time code, and then reads the profile the credentials name. A session token
is checked by itself, and the profile of its user is read. Neither looks at whether the profile is
active.
-/

namespace InfoVulcan.Auth

/-! ## Messages -/

/-- A request to log in. -/
structure AuthenticateRequest where
  username : String
  password : String
  mfaToken : String
  deriving DecidableEq

/-- The message of a user. -/
structure UserInfo where
  userUuid : String
  username : String
  displayName : String
  email : String
  role : String
  lastLogin : Option Timestamp
  deriving DecidableEq

/-- The answer to a login. -/
structure AuthenticateResponse where
  success : Bool
  sessionToken : String
  error : String
  user : Option UserInfo
  deriving DecidableEq

/-- A request to check a session. -/
structure ValidateSessionRequest where
  sessionToken : String
  deriving DecidableEq

/-- The answer to a check of a session. -/
structure ValidateSessionResponse where
  valid : Bool
  user : Option UserInfo
  error : String
  deriving DecidableEq

/-- The answer to a logout. -/
structure LogoutResponse where
  success : Bool
  error : String
  deriving DecidableEq

/-- The answer to a login that is turned down. -/
def AuthenticateResponse.denied (error : String) : AuthenticateResponse where
  success := false
  sessionToken := ""
  error := error
  user := none

/-- The answer to the check of a session that is not valid. -/
def ValidateSessionResponse.invalid (error : String) : ValidateSessionResponse where
  valid := false
  user := none
  error := error

/-! ## The service -/

variable [Chrono] [Primitives] [PasswordHasher] [Totp] [Jwt] [SessionClock] [AccountFormat]

/-- The service: its keys and the secret its tokens are signed with. -/
structure AuthServiceImpl where
  keypair : KeyPair
  jwtSecret : Bytes

/-- What a login finds outside the DB: the clock, and whether MFA is switched off. -/
structure Surroundings where
  now : Chrono.DateTime
  mfaDisabled : Bool

/-- The message of a user. -/
def userInfo (user : User) : UserInfo where
  userUuid := toString user.userId
  username := user.username
  displayName := user.displayName
  email := user.email
  role := user.role.debug
  lastLogin := user.lastLogin.map Chrono.toProto

/-- Verifies a one-time code against an encoded secret. -/
def verifyTotp (secret token : String) (now : Chrono.DateTime) : Except Status Bool :=
  match Totp.secretBytes secret with
  | .error e => .error (.internal s!"invalid MFA secret: {e}")
  | .ok bytes =>
      match Totp.checkCurrent bytes token now with
      | .error e => .error (.internal s!"TOTP check failed: {e}")
      | .ok accepted => .ok accepted

/-- What stands in the way of a login after the password: nothing, or the text of a denial. -/
def checkMfa (mfaSecret : Option String) (mfaToken : String) (around : Surroundings) :
    Except Status (Option String) :=
  match mfaSecret with
  | none => .ok none
  | some secret =>
      if around.mfaDisabled then .ok none
      else if (Text.trim mfaToken).isEmpty then .ok (some "MFA token required")
      else
        match verifyTotp secret (Text.trim mfaToken) around.now with
        | .error status => .error status
        | .ok true => .ok none
        | .ok false => .ok (some "Invalid MFA token")

namespace AuthServiceImpl

variable (service : AuthServiceImpl)

/-- The credentials of a username. -/
def getUserAuth (db : Sled) (username : String) : Except (Stop Status) (Option UserAuth) :=
  match Db.get db "auth" (authKey username) with
  | none => .ok none
  | some value =>
      (service.keypair.openRecord AccountFormat.userAuth "encrypted data" "UserAuth" value).map some

/-- The profile of a user. -/
def getUserProfile (db : Sled) (userId : Uuid) : Except (Stop Status) (Option User) :=
  match Db.get db "users" userId.asBytes with
  | none => .ok none
  | some value =>
      (service.keypair.openRecord AccountFormat.user "encrypted data" "User" value).map some

/-- A session token for a user, which expires in 24 hours. -/
def issueToken (user : User) (now : Chrono.DateTime) : Except Status String :=
  match SessionClock.inADay now with
  | none => .error (.internal "token expiry timestamp overflow")
  | some expiry =>
      let expiration :=
        if 0 ≤ (Chrono.timestamp expiry).toInt then (Chrono.timestamp expiry).toInt.toNat else 0
      let claims : Claims := { sub := toString user.userId, exp := expiration, role := user.role.debug }
      match Jwt.encode claims service.jwtSecret with
      | .error e => .error (.internal s!"Token generation failed: {e}")
      | .ok token => .ok token

/-- Logs a user out. Tokens keep no state that could be cleared. -/
def logout : LogoutResponse where
  success := true
  error := ""

/-- Logs a user in. -/
def authenticate (db : Sled) (around : Surroundings) (req : AuthenticateRequest) :
    Except (Stop Status) AuthenticateResponse :=
  match service.getUserAuth db req.username with
  | .error stop => .error stop
  | .ok none => .ok (.denied "Invalid credentials")
  | .ok (some userAuth) =>
      match PasswordHasher.parse userAuth.passwordHash with
      | .error e => .error (.error (.internal s!"Invalid password hash in DB: {e}"))
      | .ok parsedHash =>
          match PasswordHasher.verifyPassword (Bytes.ofText req.password) parsedHash with
          | .error _ => .ok (.denied "Invalid credentials")
          | .ok () =>
              match checkMfa userAuth.mfaSecret req.mfaToken around with
              | .error status => .error (.error status)
              | .ok (some denial) => .ok (.denied denial)
              | .ok none =>
                  match service.getUserProfile db userAuth.userId with
                  | .error stop => .error stop
                  | .ok none => .error (.error (.internal "User profile missing for valid auth"))
                  | .ok (some user) =>
                      match service.issueToken user around.now with
                      | .error status => .error (.error status)
                      | .ok token =>
                          .ok { success := true, sessionToken := token, error := "",
                                user := some (userInfo user) }

/-- Checks a session. -/
def validateSession [UuidParser] (db : Sled) (now : Chrono.DateTime)
    (req : ValidateSessionRequest) : Except (Stop Status) ValidateSessionResponse :=
  match Jwt.decode req.sessionToken service.jwtSecret now with
  | none => .ok (.invalid "Invalid token")
  | some claims =>
      match UuidParser.parseStr claims.sub with
      | none => .error (.error (.internal "Invalid user_id in token"))
      | some userId =>
          match service.getUserProfile db userId with
          | .error stop => .error stop
          | .ok none => .ok (.invalid "User not found")
          | .ok (some user) => .ok { valid := true, user := some (userInfo user), error := "" }

end AuthServiceImpl

end InfoVulcan.Auth
