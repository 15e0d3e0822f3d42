import InfoVulcan.Auth.Accounts
import InfoVulcan.Custodian.Json

/-!
# JSON formats of accounts

The formats of profiles and credentials, as the derived serialisers write them. The libraries for
passwords, one-time codes and tokens here are stand-ins that hide nothing: a password is accepted
for its hash and a token until it expires.
-/

namespace InfoVulcan.SerdeJson

open JsonFormat Auth Admin

/-! ## Accounts -/

def role : JsonFormat Role :=
  named Role.debug [.admin, .manager, .supervisor, .technician, .ebondPartner, .readOnly]
    fun r => by cases r <;> rfl

def authMethod : JsonFormat AuthMethod :=
  named
    (fun
      | .password => "Password"
      | .webAuthn => "WebAuthn"
      | .u2f => "U2F"
      | .totp => "TOTP"
      | .activeDirectory => "ActiveDirectory")
    [.password, .webAuthn, .u2f, .totp, .activeDirectory] fun m => by cases m <;> rfl

def optionTime : JsonFormat (Option CivilTime) :=
  CivilTime.json.option fun _ b _ hb => by
    obtain rfl := (List.cons.inj hb).1
    decide

def optionMethod : JsonFormat (Option AuthMethod) :=
  authMethod.option fun _ b _ hb => by
    obtain rfl := (List.cons.inj hb).1
    decide

def user : JsonFormat User :=
  (object "user_id" Uuid.json <| field "username" string <| field "display_name" string <|
    field "email" string <| field "role" role <| field "is_active" bool <|
    field "mfa_enabled" bool <| field "last_login" optionTime <|
    field "created_at" CivilTime.json <| field "updated_at" CivilTime.json endObject).conv
    (fun u => (u.userId, u.username, u.displayName, u.email, u.role, u.isActive, u.mfaEnabled,
      u.lastLogin, u.createdAt, u.updatedAt, ()))
    (fun (userId, username, displayName, email, role, active, mfa, lastLogin, created, updated,
        _) =>
      some ⟨userId, username, displayName, email, role, active, mfa, lastLogin, created,
        updated⟩)
    fun _ => rfl

def userAuth : JsonFormat UserAuth :=
  (object "user_id" Uuid.json <| field "password_hash" string <|
    field "mfa_secret" optionString <| field "mfa_method" optionMethod endObject).conv
    (fun a => (a.userId, a.passwordHash, a.mfaSecret, a.mfaMethod, ()))
    (fun (userId, hash, secret, method, _) => some ⟨userId, hash, secret, method⟩)
    fun _ => rfl

scoped instance : AccountFormat where
  user := user.codec
  userAuth := userAuth.codec
  encryptedData := encryptedData.codec

/-! ## Stand-ins -/

/-- A stand-in for the hashing of passwords: the hash is the password, marked as a hash. -/
scoped instance : PasswordHasher where
  Salt := Unit
  ParsedHash := String
  hashPassword password _ := .ok ("$" ++ Bytes.fromUtf8Lossy password)
  parse hash := .ok hash
  verifyPassword password hash :=
    if "$" ++ Bytes.fromUtf8Lossy password = hash then .ok () else .error "password invalid"

/-- A stand-in for one-time codes: the code is the secret. -/
scoped instance : Totp where
  secretBytes secret := .ok (Bytes.ofText secret)
  checkCurrent secret token _ := .ok (decide (Bytes.ofText token = secret))

/-- What a token of the stand-in says: the claims, and the secret it was made with. -/
def signedClaims : JsonFormat (Claims × Bytes) :=
  (object "sub" string <| field "exp" nat <| field "role" string <|
    field "secret" bytes endObject).conv
    (fun c => (c.1.sub, c.1.exp, c.1.role, c.2, ()))
    (fun (sub, exp, role, secret, _) => some (⟨sub, exp, role⟩, secret))
    fun _ => rfl

/-- Bytes as the characters of the same numbers. -/
def latin1 (bytes : Bytes) : String :=
  String.ofList (bytes.map fun b => Char.ofNat b.toNat)

/-- The bytes of such a text. -/
def ofLatin1 (text : String) : Bytes :=
  text.toList.map fun c => UInt8.ofNat c.toNat

theorem ofLatin1_latin1 (bytes : Bytes) : ofLatin1 (latin1 bytes) = bytes := by
  rw [ofLatin1, latin1, String.toList_ofList, List.map_map]
  refine (List.map_congr_left fun b _ => ?_).trans (List.map_id bytes)
  have hvalid : b.toNat.isValidChar := .inl (by have := b.toNat_lt; omega)
  simp [Char.toNat_ofNat, hvalid]

/-- A stand-in for session tokens: the token is the claims themselves, with the secret. -/
scoped instance : Jwt where
  encode claims secret := .ok (latin1 (signedClaims.codec.encode (claims, secret)))
  decode token secret now :=
    match signedClaims.codec.decode (ofLatin1 token) with
    | .ok (claims, secret') =>
        if secret' = secret ∧ now.timestamp.toInt ≤ claims.exp + 60 then some claims else none
    | .error _ => none
  decode_encode {claims secret token} hencode {now decoded} hdecode := by
    cases hencode
    simp only [ofLatin1_latin1, Codec.decode_encode, Option.ite_none_right_eq_some] at hdecode
    exact (Option.some.inj hdecode.2).symm

scoped instance : SessionClock where
  inADay now := CivilTime.fromTimestamp (now.timestamp + 86400) (UInt32.ofNat now.nanos)

/-! ## Samples -/

/-- The services, with the keys of the stand-ins. -/
def accountServices : AccountServices where
  keypair := keypair
  jwtSecret := [1]

/-- Every record can be encrypted. -/
theorem sealRecord_ok {α : Type} (codec : Codec α) (a : α) (entropy : Bytes) :
    ∃ value, keypair.sealRecord codec a entropy = .ok value := by
  have hkey : keypair.publicKey.length = Primitives.publicKeyBytes := List.length_replicate
  simp only [KeyPair.sealRecord, EncryptionService.encryptWithPublicKey, if_neg (not_not.mpr hkey)]
  exact ⟨_, rfl⟩

/-- What the creation of an account with this id draws. -/
def drawsFor (userId : Uuid) : CreateDraws where
  userId := userId
  credentials := ⟨(), []⟩
  entropy := []
  createdAt := CivilTime.unixEpoch
  updatedAt := CivilTime.unixEpoch

/-- What a change of an account draws. -/
def changeDraws : UpdateDraws where
  credentials := ⟨(), []⟩
  entropy := []
  updatedAt := CivilTime.unixEpoch

/-- A request to create an account under a username. -/
def accountRequest (username : String) : CreateUserRequest where
  username := username
  password := "secret"
  email := ""
  displayName := ""
  role := 3

/-- The records of an account can be made. -/
theorem prepareAccount_ok (draws : CreateDraws) (req : CreateUserRequest) :
    ∃ records, accountServices.admin.prepareAccount draws req = .ok records := by
  obtain ⟨authBytes, hauth⟩ := sealRecord_ok AccountFormat.userAuth
    (AdminServiceImpl.newAuth draws.userId ("$" ++ Bytes.fromUtf8Lossy (Bytes.ofText req.password)))
    draws.credentials.entropy
  obtain ⟨userBytes, huser⟩ := sealRecord_ok AccountFormat.user
    (AdminServiceImpl.newUser draws req) draws.entropy
  refine ⟨(userBytes, authBytes), ?_⟩
  simp only [AdminServiceImpl.prepareAccount, AdminServiceImpl.hashPassword,
    PasswordHasher.hashPassword, AdminServiceImpl.encryptUser, AccountServices.admin,
    accountServices, hauth, huser]

/-- The tables after an account has been created. -/
theorem stores_createUser {accounts : Accounts} {db : Sled}
    (h : Stores accountServices.keypair accounts db) (draws : CreateDraws)
    (req : CreateUserRequest) :
    Stores accountServices.keypair
      ((accounts.withProfile (AdminServiceImpl.newUser draws req)).withAuth req.username
        (AdminServiceImpl.newAuth draws.userId ("$" ++ req.password)))
      (perform accountServices db (.createUser draws req)) := by
  obtain ⟨records, hprepare⟩ := prepareAccount_ok draws req
  rcases h.createUser_cases draws req with
    ⟨status, hfail, -⟩ | ⟨_, passwordHash, -, hhash, hstores⟩
  · rw [hprepare] at hfail
    cases hfail
  · have hhash' : "$" ++ req.password = passwordHash := by
      simpa [AdminServiceImpl.hashPassword, PasswordHasher.hashPassword] using hhash
    rw [hhash']
    exact hstores

/-- The tables after an account has been deleted. -/
theorem stores_deleteUser {accounts : Accounts} {db : Sled}
    (h : Stores accountServices.keypair accounts db) (draws : UpdateDraws)
    {req : DeleteUserRequest} {userId : Uuid} {user : User}
    (hparse : UuidParser.parseStr req.id = some userId)
    (hprofile : accounts.profiles userId = some user) :
    Stores accountServices.keypair
      (accounts.withProfile { user with isActive := false, updatedAt := draws.updatedAt })
      (perform accountServices db (.deleteUser draws req)) := by
  have hexisting := h.existingUser.mpr ⟨userId, hparse, hprofile⟩
  obtain ⟨value, hvalue⟩ := sealRecord_ok AccountFormat.user
    { user with isActive := false, updatedAt := draws.updatedAt } draws.entropy
  rw [perform, AdminServiceImpl.deleteUser, hexisting]
  simp only [AdminServiceImpl.storeUser, AdminServiceImpl.encryptUser, AccountServices.admin]
  rw [show accountServices.keypair = keypair from rfl, hvalue]
  exact h.putProfile hvalue

/-- A token can be issued at the beginning of unix time. -/
theorem issueToken_ok (user : User) :
    ∃ token, accountServices.auth.issueToken user CivilTime.unixEpoch = .ok token := by
  have hexpiry : SessionClock.inADay CivilTime.unixEpoch =
      some (⟨1970, 1, 2, 0, 0, 0, 0⟩ : CivilTime) := by
    show CivilTime.fromTimestamp (CivilTime.unixEpoch.timestamp + 86400) (UInt32.ofNat 0) = _
    decide
  simp only [AuthServiceImpl.issueToken, hexpiry]
  exact ⟨_, rfl⟩

end InfoVulcan.SerdeJson
