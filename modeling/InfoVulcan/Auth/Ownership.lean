import InfoVulcan.Auth.Json

/-!
# Whose credentials they are

Profiles are stored by id and credentials by username, and the creation of an account looks up
neither. The credentials stay with their user exactly as long as no account is created under a
username that has credentials (`credentials_belong_iff`): such an account takes the username over,
with a password and a user id of its own, and without the second factor.
-/

namespace InfoVulcan.Auth

open Admin

variable [Chrono] [Primitives] [AccountFormat]

/-! ## Tables -/

namespace Accounts

variable {accounts : Accounts}

omit [Primitives] [AccountFormat]

/-- Every profile has credentials under its username. -/
def Owned (accounts : Accounts) : Prop :=
  ∀ id user, accounts.profiles id = some user →
    ∃ auth, accounts.auths user.username = some auth ∧ auth.userId = id

/-- All credentials are those of a profile. -/
def Linked (accounts : Accounts) : Prop :=
  ∀ username auth, accounts.auths username = some auth → (accounts.profiles auth.userId).isSome

theorem Owned.empty : Owned .empty := fun _ _ h => by cases h

theorem Linked.empty : Linked .empty := fun _ _ h => by cases h

/-- Storing a profile does not unlink any credentials. -/
theorem Linked.withProfile (h : accounts.Linked) (user : User) :
    (accounts.withProfile user).Linked := by
  intro username auth hauth
  rw [profiles_withProfile]
  split
  · rfl
  · exact h username auth hauth

/-- Credentials of a profile may be stored. -/
theorem Linked.withAuth (h : accounts.Linked) (username : String) {auth : UserAuth}
    (hprofile : (accounts.profiles auth.userId).isSome) :
    (accounts.withAuth username auth).Linked := by
  intro username' auth' hauth
  rw [auths_withAuth] at hauth
  split at hauth
  · cases hauth
    exact hprofile
  · exact h username' auth' hauth

/-- A profile may be replaced by one with the same username. -/
theorem Owned.withProfile (h : accounts.Owned) {user user' : User} {id : Uuid}
    (hprofile : accounts.profiles id = some user) (hid : user'.userId = id)
    (hname : user'.username = user.username) : (accounts.withProfile user').Owned := by
  intro id' user'' hprofile'
  rw [profiles_withProfile] at hprofile'
  rw [auths_withProfile]
  split at hprofile'
  case isTrue heq =>
      cases hprofile'
      rw [hname, heq, hid]
      exact h id user hprofile
  case isFalse => exact h id' user'' hprofile'

/-- Credentials may be replaced by others of the same user. -/
theorem Owned.withAuth (h : accounts.Owned) {username : String} {auth auth' : UserAuth}
    (hauth : accounts.auths username = some auth) (hid : auth'.userId = auth.userId) :
    (accounts.withAuth username auth').Owned := by
  intro id user hprofile
  obtain ⟨current, hcurrent, howner⟩ := h id user hprofile
  rw [auths_withAuth]
  split
  case isTrue heq =>
      rw [heq, hauth] at hcurrent
      cases hcurrent
      exact ⟨auth', rfl, hid.trans howner⟩
  case isFalse => exact ⟨current, hcurrent, howner⟩

/-- A new account may be stored under a username that has no credentials. -/
theorem Owned.withAccount (h : accounts.Owned) {user : User} {auth : UserAuth}
    (hfree : accounts.auths user.username = none) (hid : auth.userId = user.userId) :
    ((accounts.withProfile user).withAuth user.username auth).Owned := by
  intro id user' hprofile
  rw [profiles_withAuth, profiles_withProfile] at hprofile
  rw [auths_withAuth, auths_withProfile]
  split at hprofile
  case isTrue heq =>
      cases hprofile
      exact ⟨auth, by rw [if_pos rfl], hid.trans heq.symm⟩
  case isFalse =>
      obtain ⟨current, hcurrent, howner⟩ := h id user' hprofile
      refine ⟨current, ?_, howner⟩
      rw [if_neg, hcurrent]
      intro hname
      rw [hname, hfree] at hcurrent
      cases hcurrent

/-- Credentials stay with their user and keep the second factor. A password changes for the users
in `sets` only. -/
def Keeps (accounts accounts' : Accounts) (sets : Uuid → Prop) : Prop :=
  ∀ username auth, accounts.auths username = some auth →
    ∃ auth', accounts'.auths username = some auth' ∧ auth'.userId = auth.userId ∧
      auth'.mfaSecret = auth.mfaSecret ∧ auth'.mfaMethod = auth.mfaMethod ∧
      (auth'.passwordHash ≠ auth.passwordHash → sets auth.userId)

/-- Nothing happens to credentials that stay as they are. -/
theorem Keeps.of_auths_eq {accounts' : Accounts} (h : ∀ username auth,
      accounts.auths username = some auth → accounts'.auths username = some auth)
    (sets : Uuid → Prop) : accounts.Keeps accounts' sets :=
  fun username auth hauth => ⟨auth, h username auth hauth, rfl, rfl, rfl, fun hne => absurd rfl hne⟩

end Accounts

/-! ## A new password -/

namespace PasswordEffect

variable {accounts accounts' : Accounts} {user : User} {id : Uuid} {password : Option String}

omit [Primitives] [AccountFormat]

/-- The profiles stay as they are. -/
theorem profiles_eq (h : PasswordEffect accounts user password accounts') :
    accounts'.profiles = accounts.profiles := by
  rcases h with rfl | ⟨-, passwordHash, rfl⟩ <;> rfl

theorem linked (h : PasswordEffect accounts user password accounts') (hlinked : accounts.Linked)
    (hprofile : accounts.profiles user.userId = some user) : accounts'.Linked := by
  rcases h with rfl | ⟨-, passwordHash, rfl⟩
  · exact hlinked
  · exact hlinked.withAuth _ (by rw [Accounts.rehashed, hprofile]; rfl)

theorem owned (h : PasswordEffect accounts user password accounts') (howned : accounts.Owned)
    (hprofile : accounts.profiles user.userId = some user) : accounts'.Owned := by
  rcases h with rfl | ⟨-, passwordHash, rfl⟩
  · exact howned
  · obtain ⟨auth, hauth, howner⟩ := howned user.userId user hprofile
    exact howned.withAuth hauth howner.symm

/-- Only the user's own credentials change, in the password alone. -/
theorem keeps (h : PasswordEffect accounts user password accounts') (howned : accounts.Owned)
    (hprofile : accounts.profiles user.userId = some user) :
    accounts.Keeps accounts' fun id => password.isSome ∧ id = user.userId := by
  rcases h with rfl | ⟨hpassword, passwordHash, rfl⟩
  · exact .of_auths_eq (fun _ _ hauth => hauth) _
  · intro username auth hauth
    obtain ⟨current, hcurrent, howner⟩ := howned user.userId user hprofile
    rw [Accounts.auths_withAuth]
    split
    case isTrue heq =>
        rw [← heq, hauth] at hcurrent
        cases hcurrent
        refine ⟨_, rfl, howner.symm, ?_, ?_, fun _ => ⟨hpassword, howner⟩⟩
        · simp only [Accounts.rehashed, ← heq, hauth, Option.elim_some]
        · simp only [Accounts.rehashed, ← heq, hauth, Option.elim_some]
    case isFalse => exact ⟨auth, hauth, rfl, rfl, rfl, fun hne => absurd rfl hne⟩

end PasswordEffect

/-! ## Calls -/

variable [PasswordHasher] [UuidParser]

/-- The call sets a new password for the user. -/
def Call.SetsPasswordOf (userId : Uuid) : Call → Prop
  | .updateUser _ req => req.password.isSome ∧ UuidParser.parseStr req.id = some userId
  | _ => False

section Step

variable {services : AccountServices} {accounts : Accounts} {db : Sled}

/-- Whatever is called, all credentials remain those of a profile. -/
theorem perform_linked (h : Stores services.keypair accounts db) (hlinked : accounts.Linked)
    (call : Call) :
    ∃ accounts', Stores services.keypair accounts' (perform services db call) ∧
      accounts'.Linked := by
  cases call with
  | createUser draws req =>
      rcases h.createUser_cases draws req with
        ⟨status, -, hfail⟩ | ⟨records, passwordHash, -, -, hstores⟩
      · exact ⟨accounts, by rw [perform, hfail]; exact h, hlinked⟩
      · refine ⟨_, hstores, (hlinked.withProfile _).withAuth _ ?_⟩
        simp [Accounts.profiles_withProfile, AdminServiceImpl.newAuth, AdminServiceImpl.newUser]
  | updateUser draws req =>
      rcases h.updateUser_cases draws req with
        ⟨-, hstores⟩ | ⟨userId, user, -, hprofile, accounts', heffect, hresult⟩
      · exact ⟨accounts, hstores, hlinked⟩
      have hlinked' := heffect.linked hlinked (by rwa [h.keyed _ _ hprofile])
      rcases hresult with ⟨-, hstores⟩ | ⟨-, hstores⟩
      · exact ⟨accounts', hstores, hlinked'⟩
      · exact ⟨_, hstores, hlinked'.withProfile _⟩
  | deleteUser draws req =>
      rcases h.deleteUser_cases draws req with ⟨-, hstores⟩ | ⟨userId, user, -, -, -, hstores⟩
      · exact ⟨accounts, hstores, hlinked⟩
      · exact ⟨_, hstores, hlinked.withProfile _⟩
  | authenticate around req => exact ⟨accounts, h, hlinked⟩
  | validateSession now req => exact ⟨accounts, h, hlinked⟩

/-- The call does not create an account under a username that has credentials. -/
def Call.Vacant (services : AccountServices) (accounts : Accounts) : Call → Prop
  | .createUser draws req => ∀ records, services.admin.prepareAccount draws req = .ok records →
      accounts.auths req.username = none
  | _ => True

/-- Unless an account is created under a username that has credentials, the credentials stay with
their users. -/
theorem perform_owned (h : Stores services.keypair accounts db) (howned : accounts.Owned)
    (call : Call) (hvacant : call.Vacant services accounts) :
    ∃ accounts', Stores services.keypair accounts' (perform services db call) ∧
      accounts'.Owned ∧ accounts.Keeps accounts' call.SetsPasswordOf := by
  have hsame : accounts.Keeps accounts call.SetsPasswordOf :=
    .of_auths_eq (fun _ _ hauth => hauth) _
  cases call with
  | createUser draws req =>
      rcases h.createUser_cases draws req with
        ⟨status, -, hfail⟩ | ⟨records, passwordHash, hprepare, -, hstores⟩
      · exact ⟨accounts, by rw [perform, hfail]; exact h, howned, hsame⟩
      -- The username is free, so no credentials that are there are replaced.
      · have hfree := hvacant records hprepare
        refine ⟨_, hstores, howned.withAccount hfree rfl, .of_auths_eq ?_ _⟩
        intro username auth hauth
        rw [Accounts.auths_withAuth, Accounts.auths_withProfile, if_neg, hauth]
        rintro rfl
        rw [hfree] at hauth
        cases hauth
  | updateUser draws req =>
      rcases h.updateUser_cases draws req with
        ⟨-, hstores⟩ | ⟨userId, user, hparse, hprofile, accounts', heffect, hresult⟩
      · exact ⟨accounts, hstores, howned, hsame⟩
      have hid := h.keyed _ _ hprofile
      have hprofile' : accounts.profiles user.userId = some user := by rwa [hid]
      have howned' := heffect.owned howned hprofile'
      have hkeeps : accounts.Keeps accounts' (Call.updateUser draws req).SetsPasswordOf := by
        intro username auth hauth
        obtain ⟨auth', hauth', howner, hsecret, hmethod, hsets⟩ :=
          heffect.keeps howned hprofile' username auth hauth
        refine ⟨auth', hauth', howner, hsecret, hmethod, fun hne => ?_⟩
        obtain ⟨hpassword, huser⟩ := hsets hne
        exact ⟨hpassword, by rw [huser, hid, hparse]⟩
      rcases hresult with ⟨-, hstores⟩ | ⟨-, hstores⟩
      · exact ⟨accounts', hstores, howned', hkeeps⟩
      -- A change of the password leaves the profile, which is stored after it.
      · have hbefore : accounts'.profiles user.userId = some user := by
          rw [heffect.profiles_eq, hprofile']
        exact ⟨_, hstores, howned'.withProfile hbefore rfl rfl, hkeeps⟩
  | deleteUser draws req =>
      rcases h.deleteUser_cases draws req with
        ⟨-, hstores⟩ | ⟨userId, user, -, hprofile, -, hstores⟩
      · exact ⟨accounts, hstores, howned, hsame⟩
      · have hid : user.userId = userId := h.keyed _ _ hprofile
        exact ⟨_, hstores, howned.withProfile hprofile hid rfl, hsame⟩
  | authenticate around req => exact ⟨accounts, h, howned, hsame⟩
  | validateSession now req => exact ⟨accounts, h, howned, hsame⟩

end Step

/-! ## Runs -/

/-- Every profile has credentials under its username that name it, and no two profiles have one
username. -/
def CredentialsOwned (services : AccountServices) (db : Sled) : Prop :=
  (∀ id user, services.auth.getUserProfile db id = .ok (some user) →
    ∃ auth, services.auth.getUserAuth db user.username = .ok (some auth) ∧
      auth.userId = user.userId) ∧
  ∀ id id' user user', services.auth.getUserProfile db id = .ok (some user) →
    services.auth.getUserProfile db id' = .ok (some user') →
    user.username = user'.username → id = id'

/-- The call leaves the user id and the MFA fields of all credentials as they are, and the password
hash too, unless it sets a new password for that very user. -/
def CredentialsKept (services : AccountServices) (db : Sled) (call : Call) : Prop :=
  ∀ username auth, services.auth.getUserAuth db username = .ok (some auth) →
    ∃ auth', services.auth.getUserAuth (perform services db call) username = .ok (some auth') ∧
      auth'.userId = auth.userId ∧ auth'.mfaSecret = auth.mfaSecret ∧
      auth'.mfaMethod = auth.mfaMethod ∧
      (auth'.passwordHash ≠ auth.passwordHash → call.SetsPasswordOf auth.userId)

/-- The ids drawn for new accounts are not those of a profile. -/
def FreshIds (services : AccountServices) (calls : List Call) : Prop :=
  ∀ pre draws req post, calls = pre ++ .createUser draws req :: post →
    services.auth.getUserProfile (performAll services pre) draws.userId = .ok none

/-- No account is created under a username that has credentials. -/
def UsernamesVacant (services : AccountServices) (calls : List Call) : Prop :=
  ∀ pre draws req post records, calls = pre ++ .createUser draws req :: post →
    services.admin.prepareAccount draws req = .ok records →
    services.auth.getUserAuth (performAll services pre) req.username = .ok none

/-- In every state reached the credentials belong to their users, and every call keeps them. -/
def CredentialsBelong (services : AccountServices) (calls : List Call) : Prop :=
  (∀ pre, pre <+: calls → CredentialsOwned services (performAll services pre)) ∧
  ∀ pre call post, calls = pre ++ call :: post →
    CredentialsKept services (performAll services pre) call

omit [PasswordHasher] [UuidParser] in
/-- Owned tables are owned as the auth service reads them. -/
theorem Accounts.Owned.credentialsOwned {services : AccountServices} {accounts : Accounts}
    {db : Sled} (howned : accounts.Owned) (h : Stores services.keypair accounts db) :
    CredentialsOwned services db := by
  constructor
  · intro id user hprofile
    rw [h.getUserProfile] at hprofile
    have hprofile := Except.ok.inj hprofile
    obtain ⟨auth, hauth, howner⟩ := howned id user hprofile
    exact ⟨auth, by rw [h.getUserAuth, hauth], howner.trans (h.keyed id user hprofile).symm⟩
  · intro id id' user user' hprofile hprofile' hname
    rw [h.getUserProfile] at hprofile hprofile'
    obtain ⟨auth, hauth, rfl⟩ := howned id user (Except.ok.inj hprofile)
    obtain ⟨auth', hauth', rfl⟩ := howned id' user' (Except.ok.inj hprofile')
    rw [hname, hauth'] at hauth
    rw [← Option.some.inj hauth]

/-- Usernames are vacant in every part of such a run. -/
theorem UsernamesVacant.of_append {services : AccountServices} {pre post : List Call}
    (h : UsernamesVacant services (pre ++ post)) : UsernamesVacant services pre :=
  fun pre' draws req post' records hpre =>
    h pre' draws req (post' ++ post) records (by rw [hpre, List.append_assoc, List.cons_append])

/-- Every call of such a run finds its username vacant. -/
theorem UsernamesVacant.vacant {services : AccountServices} {pre post : List Call} {call : Call}
    (h : UsernamesVacant services (pre ++ call :: post)) {accounts : Accounts}
    (hstores : Stores services.keypair accounts (performAll services pre)) :
    call.Vacant services accounts := by
  cases call with
  | createUser draws req =>
      intro records hprepare
      have hfree := h pre draws req post records rfl hprepare
      rw [hstores.getUserAuth] at hfree
      exact Except.ok.inj hfree
  | _ => trivial

/-- A run in which usernames are vacant leaves owned tables. -/
theorem performAll_owned {services : AccountServices} {calls : List Call}
    (hvacant : UsernamesVacant services calls) :
    ∃ accounts, Stores services.keypair accounts (performAll services calls) ∧
      accounts.Owned := by
  induction calls using List.reverseRecOn with
  | nil => exact ⟨.empty, .empty, .empty⟩
  | append_singleton calls call ih =>
      obtain ⟨accounts, h, howned⟩ := ih hvacant.of_append
      obtain ⟨accounts', h', howned', -⟩ := perform_owned h howned call (hvacant.vacant h)
      rw [performAll_snoc]
      exact ⟨accounts', h', howned'⟩

/-- A run leaves tables whose credentials are all those of a profile. -/
theorem performAll_linked (services : AccountServices) (calls : List Call) :
    ∃ accounts, Stores services.keypair accounts (performAll services calls) ∧
      accounts.Linked := by
  induction calls using List.reverseRecOn with
  | nil => exact ⟨.empty, .empty, .empty⟩
  | append_singleton calls call ih =>
      obtain ⟨accounts, h, hlinked⟩ := ih
      rw [performAll_snoc]
      exact perform_linked h hlinked call

/-- An account that is created under a username with credentials takes them from their user. -/
theorem taken_over {services : AccountServices} {accounts : Accounts} {db : Sled}
    (h : Stores services.keypair accounts db) (hlinked : accounts.Linked) {draws : CreateDraws}
    {req : CreateUserRequest} {records : Bytes × Bytes} {auth : UserAuth}
    (hprepare : services.admin.prepareAccount draws req = .ok records)
    (hfresh : accounts.profiles draws.userId = none)
    (hauth : accounts.auths req.username = some auth) :
    ¬ CredentialsKept services db (.createUser draws req) := by
  intro hkept
  obtain ⟨auth', hauth', howner, -⟩ := hkept req.username auth (by rw [h.getUserAuth, hauth])
  rcases h.createUser_cases draws req with
    ⟨status, hfail, -⟩ | ⟨_, passwordHash, -, -, hstores⟩
  · rw [hprepare] at hfail
    cases hfail
  · -- The id of the new credentials is fresh, that of the old ones is the id of a profile.
    have hread := hstores.getUserAuth req.username
    rw [Accounts.auths_withAuth, if_pos rfl] at hread
    obtain rfl := Option.some.inj (Except.ok.inj (hread.symm.trans hauth'))
    have hold := hlinked req.username auth hauth
    rw [← howner, AdminServiceImpl.newAuth, hfresh] at hold
    cases hold

/-- The credentials belong to their users in every state, and every call keeps them, exactly when
no account is created under a username that has credentials. -/
theorem credentials_belong_iff {services : AccountServices} {calls : List Call}
    (hfresh : FreshIds services calls) :
    CredentialsBelong services calls ↔ UsernamesVacant services calls := by
  constructor
  · rintro ⟨-, hkept⟩ pre draws req post records hcalls hprepare
    obtain ⟨accounts, h, hlinked⟩ := performAll_linked services pre
    rw [h.getUserAuth]
    cases hauth : accounts.auths req.username with
    | none => rfl
    | some auth =>
        have hid := hfresh pre draws req post hcalls
        rw [h.getUserProfile] at hid
        exact absurd (hkept pre _ post hcalls)
          (taken_over h hlinked hprepare (Except.ok.inj hid) hauth)
  · intro hvacant
    constructor
    · rintro pre ⟨post, rfl⟩
      obtain ⟨accounts, h, howned⟩ := performAll_owned hvacant.of_append
      exact howned.credentialsOwned h
    · rintro pre call post rfl username auth hauth
      obtain ⟨accounts, h, howned⟩ := performAll_owned hvacant.of_append
      obtain ⟨accounts', h', -, hkeeps⟩ := perform_owned h howned call (hvacant.vacant h)
      rw [h.getUserAuth] at hauth
      obtain ⟨auth', hauth', hrest⟩ := hkeeps username auth (Except.ok.inj hauth)
      exact ⟨auth', by rw [h'.getUserAuth, hauth'], hrest⟩

end InfoVulcan.Auth

/-! ## Runs on the JSON formats -/

namespace InfoVulcan.Auth

open scoped SerdeJson

open Admin SerdeJson

/-- An account is created under a username. -/
def createCall (userId : Uuid) (username : String) : Call :=
  .createUser (drawsFor userId) (accountRequest username)

/-- The tables after the first account has been created. -/
def firstAccounts : Accounts :=
  (Accounts.empty.withProfile
    (AdminServiceImpl.newUser (drawsFor ⟨1⟩) (accountRequest "alice"))).withAuth "alice"
      (AdminServiceImpl.newAuth ⟨1⟩ ("$" ++ "secret"))

theorem stores_first : Stores accountServices.keypair firstAccounts
    (performAll accountServices [createCall ⟨1⟩ "alice"]) :=
  stores_createUser .empty (drawsFor ⟨1⟩) (accountRequest "alice")

/-- The user of the first account gets a new password. -/
def passwordCall : Call :=
  .updateUser changeDraws
    { id := toString (⟨1⟩ : Uuid)
      email := none
      displayName := none
      role := none
      active := none
      password := some "new secret" }

/-- Two accounts under usernames of their own, and a new password for the first. -/
def twoAccounts : List Call :=
  [createCall ⟨1⟩ "alice", createCall ⟨2⟩ "bob", passwordCall]

/-- An account is created at the start, or after the first account. -/
theorem createUser_of_twoAccounts {pre post : List Call} {draws : CreateDraws}
    {req : CreateUserRequest} (h : twoAccounts = pre ++ .createUser draws req :: post) :
    pre = [] ∨ pre = [createCall ⟨1⟩ "alice"] ∧ draws.userId = ⟨2⟩ ∧ req.username = "bob" := by
  rcases pre with _ | ⟨first, _ | ⟨second, _ | ⟨third, pre⟩⟩⟩
  · exact .inl rfl
  · obtain ⟨rfl, hrest⟩ := List.cons.inj h
    obtain ⟨hcall, -⟩ := List.cons.inj hrest
    obtain ⟨rfl, rfl⟩ := Call.createUser.inj hcall
    exact .inr ⟨rfl, rfl, rfl⟩
  · simp [twoAccounts, passwordCall] at h
  · simp [twoAccounts] at h

/-- The credentials of two accounts belong to them, also after one has got a new password. -/
theorem credentials_belong_iff_two : CredentialsBelong accountServices twoAccounts := by
  have hfresh : FreshIds accountServices twoAccounts := by
    intro pre draws req post hcalls
    rcases createUser_of_twoAccounts hcalls with rfl | ⟨rfl, hid, -⟩
    · exact Stores.empty.getUserProfile draws.userId
    · rw [hid]
      exact stores_first.getUserProfile ⟨2⟩
  refine (credentials_belong_iff hfresh).mpr ?_
  intro pre draws req post records hcalls _
  rcases createUser_of_twoAccounts hcalls with rfl | ⟨rfl, -, hname⟩
  · exact Stores.empty.getUserAuth req.username
  · rw [hname]
    exact stores_first.getUserAuth "bob"

/-- A second account under a username takes the credentials of the first. -/
theorem second_account_takes_username :
    ¬ CredentialsBelong accountServices [createCall ⟨1⟩ "alice", createCall ⟨2⟩ "alice"] := by
  intro hbelong
  obtain ⟨records, hprepare⟩ := prepareAccount_ok (drawsFor ⟨2⟩) (accountRequest "alice")
  have hlinked : firstAccounts.Linked := (Accounts.Linked.empty.withProfile _).withAuth _ rfl
  have hheld : firstAccounts.auths "alice" =
      some (AdminServiceImpl.newAuth ⟨1⟩ ("$" ++ "secret")) := rfl
  have hfresh : firstAccounts.profiles ⟨2⟩ = none := rfl
  exact taken_over stores_first hlinked hprepare hfresh hheld
    (hbelong.2 [createCall ⟨1⟩ "alice"] _ [] rfl)

end InfoVulcan.Auth
