import InfoVulcan.Auth.Json
import InfoVulcan.Library.Pagination

/-!
# Listing accounts

The admin service reads every profile, leaves out those that cannot be decoded, sorts the rest by
username, and cuts a page out of the result. The offset of the page is a product that saturates,
which happens beyond the end of every list whose length can be counted in 32 bits. The pages of an
unchanged store therefore are the sorted list, cut up (`user_pages_partition`).
-/

namespace InfoVulcan.Admin

/-- The key-value pairs of a collection, as the DB lists them. A limit of `0` means no limit. -/
def listItems (db : Sled) (collection : String) (keyPrefix : Bytes) (limit : UInt32) :
    List (Bytes × Bytes) :=
  Db.list db collection keyPrefix (if limit > 0 then some limit.toNat else none)

/-- Without prefix and limit a collection is listed as a whole. -/
theorem listItems_all (db : Sled) (collection : String) :
    listItems db collection [] 0 = Keyspace.scan db collection :=
  rfl

/-- The largest 32-bit number. -/
def maxU32 : UInt32 := 4294967295

/-- The product of two 32-bit numbers, or the largest one. -/
def saturatingMul (a b : UInt32) : UInt32 :=
  if a.toNat * b.toNat < 2 ^ 32 then a * b else maxU32

/-- A length as a 32-bit number, or the largest one. -/
def countU32 (n : Nat) : UInt32 :=
  if n < 2 ^ 32 then UInt32.ofNat n else maxU32

/-- A request for a page of the accounts. -/
structure ListUsersRequest where
  page : UInt32
  pageSize : UInt32
  deriving DecidableEq

/-- A page of the accounts, with their number. -/
structure ListUsersResponse where
  users : List UserMessage
  totalCount : UInt32
  deriving DecidableEq

/-- The order of accounts: by username, byte by byte. -/
def byUsername (a b : UserMessage) : Bool :=
  (compare (Bytes.ofText a.username) (Bytes.ofText b.username)).isLE

/-- The size of a page. A request for size `0` means fifty. -/
def effectiveSize (pageSize : UInt32) : UInt32 :=
  if pageSize = 0 then 50 else pageSize

namespace AdminServiceImpl

variable [Chrono] [Primitives] [AccountFormat] (service : AdminServiceImpl)

/-- The loop of `listUsers` over the stored rows. A row that cannot be decoded is skipped. -/
def decodeUsers : List (Bytes × Bytes) → List UserMessage → Except (Stop Status) (List UserMessage)
  | [], users => .ok users
  | kv :: items, users =>
      match service.decryptUser kv.2 with
      | .ok user => decodeUsers items (users ++ [userToProto user])
      | .error (.error _) => decodeUsers items users
      | .error .panicked => .error .panicked

/-- A page of the accounts, sorted by username. -/
def listUsers (db : Sled) (req : ListUsersRequest) : Except (Stop Status) ListUsersResponse :=
  match service.decodeUsers (listItems db "users" [] 0) [] with
  | .error stop => .error stop
  | .ok users =>
      let users := users.mergeSort byUsername
      let totalCount := countU32 users.length
      let page := max req.page 1
      let pageSize := effectiveSize req.pageSize
      let start := saturatingMul (page - 1) pageSize
      .ok ⟨(users.drop start.toNat).take pageSize.toNat, totalCount⟩

/-- What the creation of an account stores. -/
theorem createUser_store [PasswordHasher] {service : AdminServiceImpl} {db : Sled}
    {draws : CreateDraws}
    {req : CreateUserRequest} {userBytes authBytes : Bytes}
    (h : service.prepareAccount draws req = .ok (userBytes, authBytes)) :
    (service.createUser db draws req).2 =
      Db.put (Db.put db "users" draws.userId.asBytes userBytes) "auth" (authKey req.username)
        authBytes := by
  simp only [createUser, h]

/-! ## What is listed -/

/-- The accounts whose profile can be decoded, in the order they are stored in. -/
def storedUsers (db : Sled) : List UserMessage :=
  (listItems db "users" [] 0).filterMap fun kv =>
    match service.decryptUser kv.2 with
    | .ok user => some (userToProto user)
    | .error _ => none

/-- Decoding the stored profiles does not panic. -/
def DecodesUsers (db : Sled) : Prop :=
  ∀ kv ∈ listItems db "users" [] 0, service.decryptUser kv.2 ≠ .error .panicked

/-- The loop collects the accounts that can be decoded. -/
theorem decodeUsers_eq {items : List (Bytes × Bytes)} (acc : List UserMessage)
    (h : ∀ kv ∈ items, service.decryptUser kv.2 ≠ .error .panicked) :
    service.decodeUsers items acc = .ok (acc ++ items.filterMap fun kv =>
      match service.decryptUser kv.2 with
      | .ok user => some (userToProto user)
      | .error _ => none) := by
  induction items generalizing acc with
  | nil => simp [decodeUsers]
  | cons kv items ih =>
      have hrest := fun acc => ih acc fun d hd => h d (List.mem_cons_of_mem _ hd)
      rw [decodeUsers, List.filterMap_cons]
      cases hdecrypt : service.decryptUser kv.2 with
      | ok user => simp [hrest]
      | error stop =>
          cases stop with
          | panicked => exact absurd hdecrypt (h kv List.mem_cons_self)
          | error status => simp [hrest]

/-- The accounts in the order in which they are listed. -/
def sortedUsers (db : Sled) : List UserMessage :=
  (service.storedUsers db).mergeSort byUsername

/-- A page of the list of all accounts. -/
theorem listUsers_eq {db : Sled} (hdecodes : service.DecodesUsers db) (page pageSize : UInt32) :
    service.listUsers db ⟨page, pageSize⟩ = .ok
      ⟨((service.sortedUsers db).drop
          (saturatingMul (max page 1 - 1) (effectiveSize pageSize)).toNat).take
          (effectiveSize pageSize).toNat, countU32 (service.sortedUsers db).length⟩ := by
  rw [listUsers, service.decodeUsers_eq [] hdecodes]
  rfl

end AdminServiceImpl

/-! ## Offsets -/

/-- A page has room for an account. -/
theorem effectiveSize_pos (pageSize : UInt32) : 0 < (effectiveSize pageSize).toNat := by
  unfold effectiveSize
  split
  · decide
  next hne => exact Nat.pos_of_ne_zero fun hc => hne (UInt32.toNat_inj.mp hc)

/-- The product of two numbers that saturates is not less than the length of the list. -/
theorem toNat_saturatingMul (a b : UInt32) :
    (saturatingMul a b).toNat = min (a.toNat * b.toNat) 4294967295 := by
  unfold saturatingMul
  split
  next hlt =>
    rw [UInt32.toNat_mul, Nat.mod_eq_of_lt hlt]
    omega
  next hge =>
    have hmax : maxU32.toNat = 4294967295 := rfl
    omega

/-- The number of a page, counted from zero. -/
theorem toNat_page {page : UInt32} (hpage : 1 ≤ page) :
    (max page 1 - 1).toNat = page.toNat - 1 := by
  have hmax : max page 1 = page := by
    rw [UInt32.max_def]
    split
    next hle => exact UInt32.le_antisymm hpage hle
    next => rfl
  rw [hmax, UInt32.toNat_sub_of_le _ _ hpage]
  rfl

/-- Dropping elements up to an offset that saturates is dropping them up to the product, for lists
whose length can be counted. -/
theorem drop_saturating {α : Type} {xs : List α} (hlength : xs.length ≤ 4294967295)
    (a b : UInt32) : xs.drop (saturatingMul a b).toNat = xs.drop (a.toNat * b.toNat) := by
  rw [toNat_saturatingMul]
  rcases Nat.le_total (a.toNat * b.toNat) 4294967295 with hle | hge
  · rw [Nat.min_eq_left hle]
  · rw [Nat.min_eq_right hge, List.drop_eq_nil_of_le hlength,
      List.drop_eq_nil_of_le (Nat.le_trans hlength hge)]

/-- A length that can be counted is. -/
theorem toNat_countU32 {n : Nat} (h : n ≤ 4294967295) : (countU32 n).toNat = n := by
  rw [countU32, if_pos (by omega)]
  exact Nat.mod_eq_of_lt (by omega)

/-- Usernames are in order one way or the other. -/
theorem byUsername_total (a b : UserMessage) : (byUsername a b || byUsername b a) = true := by
  unfold byUsername
  rw [Bool.or_eq_true]
  rcases hcompare : compare (Bytes.ofText a.username) (Bytes.ofText b.username) with _ | _ | _
  · exact Or.inl rfl
  · exact Or.inl rfl
  · exact Or.inr (by rw [Std.OrientedCmp.lt_of_gt hcompare]; rfl)

/-! ## Pages -/

/-- The pages of some accounts: each answer is a page that counts all accounts; the pages up to the
last one are, together, the accounts sorted by username; each of them but the last is full; and all
pages after them are empty. -/
def PagesPartition (users : List UserMessage) (size : Nat)
    (answer : UInt32 → Except (Stop Status) ListUsersResponse) : Prop :=
  ∃ (sorted : List UserMessage) (pages : Nat → List UserMessage) (totalCount : UInt32),
    sorted.Perm users ∧ (sorted.Pairwise fun a b => byUsername a b = true) ∧
    totalCount.toNat = users.length ∧
    (∀ page, 1 ≤ page → answer page = .ok ⟨pages page.toNat, totalCount⟩) ∧
    ((List.range (Pagination.count size users.length)).flatMap fun i => pages (i + 1)) = sorted ∧
    Pagination.count size users.length ≤ 4294967295 ∧
    (∀ i, 1 ≤ i → i < Pagination.count size users.length → (pages i).length = size) ∧
    ∀ i, Pagination.count size users.length < i → pages i = []

variable [Chrono] [Primitives] [AccountFormat]

/-- The pages of an unchanged store partition the accounts whose profiles can be decoded, for every
size of pages, as long as their number fits in 32 bits. -/
theorem user_pages_partition (service : AdminServiceImpl) (db : Sled) (pageSize : UInt32)
    (hdecodes : service.DecodesUsers db)
    (hlength : (service.storedUsers db).length ≤ 4294967295) :
    PagesPartition (service.storedUsers db) (effectiveSize pageSize).toNat fun page =>
      service.listUsers db ⟨page, pageSize⟩ := by
  have hsize := effectiveSize_pos pageSize
  have hsorted : (service.sortedUsers db).length = (service.storedUsers db).length :=
    List.length_mergeSort _
  refine ⟨service.sortedUsers db,
    fun i => Pagination.page (effectiveSize pageSize).toNat (i - 1) (service.sortedUsers db),
    countU32 (service.sortedUsers db).length, List.mergeSort_perm _ _, ?_, ?_, ?_, ?_, ?_, ?_, ?_⟩
  · exact List.pairwise_mergeSort (fun _ _ _ => Std.TransCmp.isLE_trans) byUsername_total _
  · rw [hsorted, toNat_countU32 hlength]
  · intro page hpage
    show service.listUsers db ⟨page, pageSize⟩ = _
    -- The offset may saturate, but only where there is nothing left to drop.
    rw [service.listUsers_eq hdecodes, drop_saturating (hsorted.trans_le hlength),
      toNat_page hpage]
    rfl
  · rw [← hsorted]
    exact Pagination.flatMap_page_count hsize _
  · exact (Pagination.count_le hsize _).trans hlength
  · intro i hi hlt
    refine Pagination.length_page ?_
    rw [hsorted]
    exact Pagination.succ_mul_le_of_lt_count hsize (by omega)
  · intro i hi
    refine Pagination.page_eq_nil ?_
    rw [hsorted]
    have hreach := Pagination.le_count_mul hsize (service.storedUsers db).length
    exact hreach.trans (Nat.mul_le_mul_right _ (by omega))

end InfoVulcan.Admin

/-! ## A store with accounts -/

namespace InfoVulcan.Admin

open scoped SerdeJson
open SerdeJson (accountServices drawsFor accountRequest sealRecord_ok)

/-- The user of an account that is created. -/
def createdUser (account : Uuid × String) : User :=
  AdminServiceImpl.newUser (drawsFor account.1) (accountRequest account.2)

/-- The store after accounts have been created, each with an id and a username. -/
def created (accounts : List (Uuid × String)) : Sled :=
  accounts.foldl (fun db account =>
    (accountServices.admin.createUser db (drawsFor account.1) (accountRequest account.2)).2)
    Keyspace.empty

/-- Ids in ascending order. -/
def AscendingIds (accounts : List (Uuid × String)) : Prop :=
  accounts.Pairwise fun a b => compare a.1.asBytes b.1.asBytes = .lt

/-- The row of the profile of such an account. -/
def profileRow (account : Uuid × String) : Bytes :=
  ((accountServices.admin.prepareAccount (drawsFor account.1)
    (accountRequest account.2)).toOption.map Prod.fst).getD []

/-- The row is stored, and the profile is read back from it. -/
theorem createUser_row (db : Sled) (account : Uuid × String) :
    (∃ authBytes, (accountServices.admin.createUser db (drawsFor account.1)
        (accountRequest account.2)).2 =
      Db.put (Db.put db "users" account.1.asBytes (profileRow account)) "auth"
        (authKey account.2) authBytes) ∧
      accountServices.admin.decryptUser (profileRow account) = .ok (createdUser account) := by
  obtain ⟨authBytes, hauth⟩ := sealRecord_ok AccountFormat.userAuth
    (AdminServiceImpl.newAuth account.1 ("$" ++ Bytes.fromUtf8Lossy (Bytes.ofText "secret"))) []
  obtain ⟨userBytes, huser⟩ := sealRecord_ok AccountFormat.user (createdUser account) []
  have hprepare : accountServices.admin.prepareAccount (drawsFor account.1)
      (accountRequest account.2) = .ok (userBytes, authBytes) := by
    simp only [AdminServiceImpl.prepareAccount, AdminServiceImpl.hashPassword,
      PasswordHasher.hashPassword, AdminServiceImpl.encryptUser, Auth.AccountServices.admin,
      accountServices, accountRequest, drawsFor, createdUser] at huser ⊢
    simp only [hauth, huser]
  have hrow : profileRow account = userBytes := by
    rw [profileRow, hprepare]
    rfl
  rw [hrow]
  exact ⟨⟨authBytes, AdminServiceImpl.createUser_store hprepare⟩,
    KeyPair.openRecord_sealRecord huser _ _⟩

/-- The rows of accounts created with ascending ids, in order. -/
theorem rows_created {accounts : List (Uuid × String)} (hids : AscendingIds accounts) :
    listItems (created accounts) "users" [] 0 =
      accounts.map fun account => (account.1.asBytes, profileRow account) := by
  induction accounts using List.reverseRecOn with
  | nil => exact Keyspace.scan_eq List.Pairwise.nil fun k v => by simp [created]
  | append_singleton accounts account ih =>
      obtain ⟨hbefore, -, hlast⟩ := List.pairwise_append.mp hids
      obtain ⟨⟨authBytes, hstore⟩, -⟩ := createUser_row (created accounts) account
      rw [listItems_all] at ih ⊢
      have hscan : Keyspace.scan (created (accounts ++ [account])) "users" =
          Keyspace.scan (Db.put (created accounts) "users" account.1.asBytes (profileRow account))
            "users" := by
        rw [created, List.foldl_concat, ← created, hstore]
        refine Keyspace.scan_congr fun k => ?_
        exact (Keyspace.at_put _ _ _ _).trans (if_neg (by simp))
      rw [hscan, Db.put, Keyspace.scan_put_last, ih hbefore, List.map_append, List.map_singleton]
      intro row hrow
      rw [ih hbefore] at hrow
      obtain ⟨earlier, hearlier, rfl⟩ := List.mem_map.mp hrow
      exact hlast earlier hearlier account (List.mem_singleton_self _)

/-- Five accounts, two pairs of which have one username. -/
def fiveAccounts : List (Uuid × String) :=
  [(⟨1⟩, "bob"), (⟨2⟩, "alice"), (⟨3⟩, "bob"), (⟨4⟩, "carol"), (⟨5⟩, "alice")]

/-- Three pages of at most two accounts hold the five, sorted by username. -/
theorem user_pages_partition_five :
    (accountServices.admin.storedUsers (created fiveAccounts)).map UserMessage.username =
      ["bob", "alice", "bob", "carol", "alice"] ∧
    PagesPartition (accountServices.admin.storedUsers (created fiveAccounts)) 2 fun page =>
      accountServices.admin.listUsers (created fiveAccounts) ⟨page, 2⟩ := by
  have hids : AscendingIds fiveAccounts := by
    unfold AscendingIds
    decide
  have hstored : accountServices.admin.storedUsers (created fiveAccounts) =
      fiveAccounts.map fun account => userToProto (createdUser account) := by
    rw [AdminServiceImpl.storedUsers, rows_created hids]
    simp [fiveAccounts, (createUser_row Keyspace.empty _).2]
  have hdecodes : accountServices.admin.DecodesUsers (created fiveAccounts) := by
    intro kv hkv hpanic
    rw [rows_created hids] at hkv
    obtain ⟨account, -, rfl⟩ := List.mem_map.mp hkv
    dsimp only at hpanic
    rw [(createUser_row Keyspace.empty account).2] at hpanic
    cases hpanic
  have hlength : (accountServices.admin.storedUsers (created fiveAccounts)).length ≤
      4294967295 := by
    rw [hstored, List.length_map]
    exact (by decide : 5 ≤ 4294967295)
  exact ⟨by rw [hstored]; rfl,
    user_pages_partition accountServices.admin (created fiveAccounts) 2 hdecodes hlength⟩

end InfoVulcan.Admin
