import InfoVulcan.Db.Json
import InfoVulcan.Db.LogEntry
import InfoVulcan.Library.Postings

/-!
# Lookups in the user indexes

A lookup scans the keys that start with `value ++ 0x00` and returns the ids they list, without
looking at the rows. Both halves of a key are texts of the caller's, so a zero character moves the
boundary between them, and creating a user who is there already adds entries without dropping the
old ones. `user_lookups_exact_iff` says that nothing else goes wrong: lookups are exact all along a
run if and only if every step is `Clean`.
-/

namespace InfoVulcan.Db

/-! ## Indexed fields -/

/-- A field of users that is indexed. -/
inductive UserField where
  | username
  | email
  | role
  deriving DecidableEq, Repr

/-- A text without the zero character. -/
def NulFree (s : String) : Prop :=
  '\x00' ∉ s.toList

instance (s : String) : Decidable (NulFree s) :=
  inferInstanceAs (Decidable (¬ _))

namespace UserField

/-- The values of a field. -/
def Value : UserField → Type
  | username | email => String
  | role => UInt8

/-- The value of a field. -/
def get (index : UserIndexFields) : (f : UserField) → f.Value
  | username => index.username
  | email => index.email
  | role => index.role

/-- The index tree of a field. -/
def tree : UserField → String
  | username => IDX_USER_NAME
  | email => IDX_USER_EMAIL
  | role => IDX_USER_ROLE

/-- The bytes a value is listed under. -/
def bytes : (f : UserField) → f.Value → Bytes
  | username, v | email, v => Bytes.ofText v
  | role, v => [v]

/-- The value holds no zero character, where it is a text. -/
def NulFreeAt : (f : UserField) → f.Value → Prop
  | username, v | email, v => NulFree v
  | role, _ => True

theorem tree_inj {f g : UserField} : f.tree = g.tree ↔ f = g := by
  cases f <;> cases g <;> simp [tree, IDX_USER_NAME, IDX_USER_EMAIL, IDX_USER_ROLE]

theorem tree_mem (f : UserField) : f.tree ∈ userIndexTrees := by
  cases f <;> simp [tree, userIndexTrees]

theorem bytes_inj {f : UserField} {v w : f.Value} : f.bytes v = f.bytes w ↔ v = w := by
  cases f with
  | username => exact Bytes.ofText_inj
  | email => exact Bytes.ofText_inj
  | role => exact ⟨fun h => (List.cons.inj h).1, fun h => h ▸ rfl⟩

end UserField

/-- The indexed texts hold no zero character. -/
def UserIndexFields.NulFree (index : UserIndexFields) : Prop :=
  Db.NulFree index.username ∧ Db.NulFree index.email

instance (index : UserIndexFields) : Decidable index.NulFree :=
  inferInstanceAs (Decidable (_ ∧ _))

theorem UserIndexFields.NulFree.at {index : UserIndexFields} (h : index.NulFree) (f : UserField) :
    f.NulFreeAt (f.get index) := by
  cases f with
  | username => exact h.1
  | email => exact h.2
  | role => trivial

/-- Users that agree on every indexed field have the same index fields. -/
theorem UserIndexFields.ext_get {a b : UserIndexFields}
    (h : ∀ f : UserField, f.get a = f.get b) : a = b := by
  cases a
  cases b
  exact congr (congr (congrArg UserIndexFields.mk (h .username)) (h .email)) (h .role)

/-! ## Index keys -/

/-- A key of a field is found by scanning for its own value only. -/
theorem UserField.eq_of_prefix {f : UserField} {v w : f.Value} {uuid : String}
    (hw : f.NulFreeAt w) (huuid : Db.NulFree uuid)
    (h : indexPrefix (f.bytes v) <+: indexKey (f.bytes w) (Bytes.ofText uuid)) : v = w := by
  have htext : ∀ {s t : String}, Db.NulFree t →
      indexPrefix (Bytes.ofText s) <+: indexKey (Bytes.ofText t) (Bytes.ofText uuid) → s = t :=
    fun ht hpre => Bytes.ofText_inj.mp (Bytes.eq_of_separated
      (mt Bytes.zero_mem_ofText.mp ht) (mt Bytes.zero_mem_ofText.mp huuid) hpre)
  cases f with
  | username => exact htext hw h
  | email => exact htext hw h
  | role =>
      obtain ⟨rest, hrest⟩ := h
      exact (List.cons.inj hrest).1

/-- A key of a field determines the value and the user. -/
theorem UserField.indexKey_inj {f : UserField} {v w : f.Value} {a b : String}
    (hw : f.NulFreeAt w) (hb : Db.NulFree b)
    (h : indexKey (f.bytes v) (Bytes.ofText a) = indexKey (f.bytes w) (Bytes.ofText b)) :
    v = w ∧ a = b := by
  have hvalue : v = w := UserField.eq_of_prefix hw hb (h ▸ List.prefix_append ..)
  subst hvalue
  exact ⟨rfl, Bytes.ofText_inj.mp (List.append_cancel_left h)⟩

variable [RowFormat]

/-- The index cells of a user are those of its fields. -/
theorem mem_postings_users {c : SledCell} {uuid : String} {index : UserIndexFields} :
    c ∈ users.postings uuid index ↔
      ∃ f : UserField, c = ⟨f.tree, indexKey (f.bytes (f.get index)) (Bytes.ofText uuid)⟩ := by
  have hpostings : users.postings uuid index =
      [UserField.username, .email, .role].map fun f =>
        ⟨f.tree, indexKey (f.bytes (f.get index)) (Bytes.ofText uuid)⟩ := rfl
  rw [hpostings, List.mem_map]
  constructor
  · rintro ⟨f, -, rfl⟩
    exact ⟨f, rfl⟩
  · rintro ⟨f, rfl⟩
    exact ⟨f, by cases f <;> simp, rfl⟩

/-- The index cells of a stored user. -/
theorem mem_listed_users {c : SledCell} {uuid : String} {row : StoredUser} :
    c ∈ users.listed uuid (some row) ↔ row.deleted = false ∧
      ∃ f : UserField, c = ⟨f.tree, indexKey (f.bytes (f.get row.index)) (Bytes.ofText uuid)⟩ := by
  rw [Table.listed]
  cases row.deleted with
  | true => simp
  | false => simp [mem_postings_users]

/-! ## Exact lookups -/

/-- The user tree holds a row under an id. -/
def UserRowAt (db : Sled) (uuid : String) (row : StoredUser) : Prop :=
  ∃ bytes, get db TREE_USERS (Bytes.ofText uuid) = some bytes ∧
    RowFormat.storedUser.decode bytes = .ok row

/-- Looking up a value of an indexed field returns the users with that value who are not deleted,
each once. -/
def LookupsExact (db : Sled) : Prop :=
  ∀ (f : UserField) (v : f.Value),
    (scanIndexIdsStr db f.tree (f.bytes v)).Nodup ∧
    ∀ uuid, uuid ∈ scanIndexIdsStr db f.tree (f.bytes v) ↔
      ∃ row, UserRowAt db uuid row ∧ row.deleted = false ∧ f.get row.index = v

omit [RowFormat] in
/-- A lookup finds what is listed under a key with the scanned prefix. -/
theorem mem_scanIndexIdsStr {db : Sled} {tree : String} {key value : Bytes} {uuid : String}
    (hat : db.at? ⟨tree, key⟩ = some (Bytes.ofText uuid)) (hpre : indexPrefix value <+: key) :
    uuid ∈ scanIndexIdsStr db tree value := by
  refine List.mem_map.mpr ⟨(key, Bytes.ofText uuid), ?_, Bytes.fromUtf8Lossy_ofText uuid⟩
  exact List.mem_filter.mpr ⟨Keyspace.mem_scan.mpr hat, by simpa using hpre⟩

/-- If lookups are exact, whatever is listed has the value it can be found under. -/
theorem LookupsExact.get_eq {db : Sled} (h : LookupsExact db) {f : UserField} {v : f.Value}
    {key : Bytes} {uuid : String} {row : StoredUser} (hrow : UserRowAt db uuid row)
    (hat : db.at? ⟨f.tree, key⟩ = some (Bytes.ofText uuid))
    (hpre : indexPrefix (f.bytes v) <+: key) : f.get row.index = v := by
  obtain ⟨row', ⟨bytes', hbytes', hdecode'⟩, -, hget⟩ :=
    ((h f v).2 uuid).mp (mem_scanIndexIdsStr hat hpre)
  obtain ⟨bytes, hbytes, hdecode⟩ := hrow
  obtain rfl : bytes = bytes' := Option.some.inj (hbytes.symm.trans hbytes')
  obtain rfl : row = row' := Except.ok.inj (hdecode.symm.trans hdecode')
  exact hget

/-! ## The abstract table -/

/-- The user indexes as a posting index of the users without zero characters. -/
def userIndex : PostingIndex String Bytes Bytes String StoredUser where
  trees := userIndexTrees
  cells uuid row :=
    if NulFree uuid ∧ row.index.NulFree then users.listed uuid (some row) else []
  mark := Bytes.ofText
  disjoint {i j r q c} hi hj := by
    split at hi
    case isFalse => cases hi
    split at hj
    case isFalse => cases hj
    case isTrue hq =>
        obtain ⟨-, f, rfl⟩ := mem_listed_users.mp hi
        obtain ⟨-, g, hg⟩ := mem_listed_users.mp hj
        obtain ⟨htree, hkey⟩ := Cell.mk.inj hg
        obtain rfl := UserField.tree_inj.mp htree
        exact (UserField.indexKey_inj (hq.2.at f) hq.1 hkey).2

/-- The trees of the database hold the users `R`: rows and indexes. The live ones hold no zero
characters. -/
structure RepresentsUsers (R : String → Option StoredUser) (db : Sled) : Prop where
  row : ∀ uuid, db.at? (users.rowCell uuid) = (R uuid).map users.format.encode
  nulFree : ∀ uuid row, R uuid = some row → row.deleted = false →
    NulFree uuid ∧ row.index.NulFree
  exact : userIndex.Exact R db

/-- The cells of a row that holds no zero characters if it is live. -/
theorem userIndex_cellsOf {uuid : String} {o : Option StoredUser}
    (h : ∀ row, o = some row → row.deleted = false → NulFree uuid ∧ row.index.NulFree) :
    userIndex.cellsOf uuid o = users.listed uuid o := by
  cases o with
  | none => rfl
  | some row =>
      show (if _ then _ else _) = _
      split
      case isTrue => rfl
      case isFalse hnul =>
          cases hdel : row.deleted with
          | true => rw [Table.listed, hdel]; rfl
          | false => exact absurd (h row rfl hdel) hnul

namespace RepresentsUsers

variable {R : String → Option StoredUser} {db : Sled}

theorem empty : RepresentsUsers (fun _ => none) Keyspace.empty where
  row uuid := by simp
  nulFree uuid row h := by cases h
  exact := PostingIndex.exact_empty

/-- The row cells of the trees hold the rows of the table. -/
theorem userRowAt (h : RepresentsUsers R db) {uuid : String} {row : StoredUser} :
    UserRowAt db uuid row ↔ R uuid = some row := by
  have hcell : get db TREE_USERS (Bytes.ofText uuid) = (R uuid).map users.format.encode :=
    h.row uuid
  rw [UserRowAt, hcell]
  cases R uuid with
  | none => simp
  | some row' => simp [users]

/-- The cells of a row of the table. -/
theorem cells_eq (h : RepresentsUsers R db) {uuid : String} {row : StoredUser}
    (hrow : R uuid = some row) : userIndex.cells uuid row = users.listed uuid (some row) := by
  refine userIndex_cellsOf (o := some row) fun row' hrow' => ?_
  obtain rfl := Option.some.inj hrow'
  exact h.nulFree uuid row hrow

/-- Lookups in a represented table are exact. -/
theorem lookupsExact (h : RepresentsUsers R db) : LookupsExact db := by
  intro f v
  -- An entry found is the entry of a live row with the value, under the key of that row.
  have hentry : ∀ kv ∈ scanPrefix db f.tree (indexPrefix (f.bytes v)), ∃ uuid row,
      R uuid = some row ∧ row.deleted = false ∧ f.get row.index = v ∧
      kv = (indexKey (f.bytes v) (Bytes.ofText uuid), Bytes.ofText uuid) := by
    rintro ⟨key, value⟩ hkv
    obtain ⟨hscan, hpre⟩ := List.mem_filter.mp hkv
    have hat : db.at? ⟨f.tree, key⟩ = some value := Keyspace.mem_scan.mp hscan
    obtain ⟨uuid, row, hrow, hcell, rfl⟩ := (h.exact _ f.tree_mem value).mp hat
    rw [h.cells_eq hrow] at hcell
    obtain ⟨hlive, g, hg⟩ := mem_listed_users.mp hcell
    obtain ⟨htree, rfl⟩ := Cell.mk.inj hg
    obtain rfl := UserField.tree_inj.mp htree
    obtain ⟨huuid, hindex⟩ := h.nulFree uuid row hrow hlive
    have hvalue := UserField.eq_of_prefix (hindex.at f) huuid (by simpa using hpre)
    exact ⟨uuid, row, hrow, hlive, hvalue.symm, by rw [hvalue]; rfl⟩
  constructor
  · refine List.pairwise_map.mpr (List.Pairwise.imp_of_mem (fun {a b} ha hb hlt heq => ?_)
      ((Keyspace.scan_sorted db f.tree).filter _))
    obtain ⟨uuid, row, -, -, -, rfl⟩ := hentry a ha
    obtain ⟨uuid', row', -, -, -, rfl⟩ := hentry b hb
    simp only [Bytes.fromUtf8Lossy_ofText] at heq
    subst heq
    simp at hlt
  · intro uuid
    constructor
    · intro hmem
      obtain ⟨kv, hkv, rfl⟩ := List.mem_map.mp hmem
      obtain ⟨uuid, row, hrow, hlive, hvalue, rfl⟩ := hentry kv hkv
      simp only [Bytes.fromUtf8Lossy_ofText]
      exact ⟨row, h.userRowAt.mpr hrow, hlive, hvalue⟩
    · rintro ⟨row, hrowAt, hlive, rfl⟩
      have hrow := h.userRowAt.mp hrowAt
      have hcell : db.at? ⟨f.tree, indexKey (f.bytes (f.get row.index)) (Bytes.ofText uuid)⟩ =
          some (Bytes.ofText uuid) := by
        refine (h.exact _ f.tree_mem _).mpr ⟨uuid, row, hrow, ?_, rfl⟩
        rw [h.cells_eq hrow]
        exact mem_listed_users.mpr ⟨hlive, f, rfl⟩
      exact mem_scanIndexIdsStr hcell (List.prefix_append ..)

/-- Rewriting one row of the represented table. Of the cells the new row leaves, those that are
cleared must be those of the row in the table. -/
theorem rewrite (h : RepresentsUsers R db) {uuid : String} (old : Option StoredUser)
    (new : StoredUser)
    (hnul : new.deleted = false → NulFree uuid ∧ new.index.NulFree)
    (hold : ∀ c, c ∉ users.listed uuid (some new) →
      (c ∈ users.listed uuid old ↔ c ∈ users.listed uuid (R uuid))) :
    RepresentsUsers (Function.update R uuid (some new))
      (db.applyWrites (users.rewrite uuid old new)) where
  row j := by
    rw [users.rowCell_rewrite]
    by_cases hj : j = uuid
    · subst hj
      rw [if_pos rfl, Function.update_self]
      rfl
    · rw [if_neg (users_rowCell_inj.not.mpr hj), Function.update_of_ne hj]
      exact h.row j
  nulFree j row hrow hlive := by
    by_cases hj : j = uuid
    · subst hj
      rw [Function.update_self, Option.some_inj] at hrow
      exact hrow ▸ hnul (hrow ▸ hlive)
    · rw [Function.update_of_ne hj] at hrow
      exact h.nulFree j row hrow hlive
  exact := by
    refine h.exact.replace uuid (some new) fun c hc => ?_
    have hrowne : c ≠ users.rowCell uuid := by
      rintro rfl
      exact users.tree_unlisted hc
    rw [Keyspace.at_applyWrites, Table.lastWrite_rewrite, if_neg hrowne,
      userIndex_cellsOf (h.nulFree uuid), userIndex_cellsOf (o := some new) fun row hrow => by
        obtain rfl := Option.some.inj hrow
        exact hnul]
    by_cases hnew : c ∈ users.listed uuid (some new)
    · rw [if_pos hnew, if_pos hnew]
      rfl
    · rw [if_neg hnew, if_neg hnew, if_congr (hold c hnew) rfl rfl]
      split <;> rfl

/-- Changing one row of the represented table. -/
theorem changeRow (h : RepresentsUsers R db) (uuid : String) (f : StoredUser → StoredUser)
    (hnul : ∀ row, R uuid = some row → (f row).deleted = false →
      NulFree uuid ∧ (f row).index.NulFree) :
    RepresentsUsers (Function.update R uuid ((R uuid).map f))
      (db.applyWrites (users.changeRow uuid f (db.at? (users.rowCell uuid))).2) := by
  rw [h.row uuid]
  cases hrow : R uuid with
  | none =>
      have hsame : Function.update R uuid none = R := by rw [← hrow, Function.update_eq_self]
      rw [Option.map_none, hsame]
      exact h
  | some row =>
      simp only [Option.map_some, Table.changeRow, Codec.decode_encode]
      exact h.rewrite _ _ (hnul row hrow) fun c _ => by rw [hrow]

end RepresentsUsers

/-! ## Clean steps -/

/-- Whether a log entry is a command on users. -/
def LogEntry.isUserCommand : LogEntry → Bool
  | .createUser _ _ _ => true
  | .updateUser _ _ _ => true
  | .softDeleteUser _ _ => true
  | _ => false

/-- A command on users that keeps lookups exact: no zero character gets into a live row, and a user
who is there and not deleted is created again with the same index fields only. -/
def Clean (db : Sled) : LogEntry → Prop
  | .createUser uuid _ index =>
      NulFree uuid ∧ index.NulFree ∧
        ∀ row, UserRowAt db uuid row → row.deleted = false → row.index = index
  | .updateUser uuid _ index =>
      (∃ row, UserRowAt db uuid row ∧ row.deleted = false) → index.NulFree
  | _ => True

namespace RepresentsUsers

variable {R : String → Option StoredUser} {db : Sled}

/-- A clean command keeps the table represented. -/
theorem apply (h : RepresentsUsers R db) {e : LogEntry} (he : e.isUserCommand)
    (hclean : Clean db e) : ∃ R', RepresentsUsers R' (e.apply db).2 := by
  rw [LogEntry.apply_eq_exec]
  cases e with
  | createUser uuid body index =>
      obtain ⟨huuid, hindex, hsame⟩ := hclean
      refine ⟨_, h.rewrite none (Table.fresh body index)
        (fun _ => ⟨huuid, hindex⟩) fun c hc => ?_⟩
      refine ⟨fun hmem => absurd hmem List.not_mem_nil, fun hmem => absurd ?_ hc⟩
      cases hrow : R uuid with
      | none =>
          rw [hrow] at hmem
          exact absurd hmem List.not_mem_nil
      | some row =>
          rw [hrow] at hmem
          obtain ⟨hlive, f, rfl⟩ := mem_listed_users.mp hmem
          rw [hsame row (h.userRowAt.mpr hrow) hlive]
          exact mem_listed_users.mpr ⟨rfl, f, rfl⟩
  | updateUser uuid body index =>
      refine ⟨_, h.changeRow uuid (Table.updated · body index) fun row hrow hlive => ?_⟩
      exact ⟨(h.nulFree uuid row hrow hlive).1, hclean ⟨row, h.userRowAt.mpr hrow, hlive⟩⟩
  | softDeleteUser uuid atUnix =>
      exact ⟨_, h.changeRow uuid (Table.retired · atUnix) fun row _ hlive => by cases hlive⟩
  | _ => cases he

end RepresentsUsers

/-! ## Steps that are not clean -/

omit [RowFormat] in
/-- A text with a zero character has something before it and something after it. -/
theorem exists_split_of_not_nulFree {s : String} (h : ¬ NulFree s) :
    ∃ a b : String, s = a ++ "\x00" ++ b := by
  obtain ⟨xs, ys, hs⟩ := List.append_of_mem (not_not.mp h)
  refine ⟨String.ofList xs, String.ofList ys, ?_⟩
  rw [← String.ofList_toList (s := s), hs, ← List.singleton_append, String.ofList_append,
    String.ofList_append, String.append_assoc]

omit [RowFormat] in
/-- What stands before a zero character is a scan prefix. -/
theorem indexPrefix_split (a b : String) :
    indexPrefix (Bytes.ofText a) <+: Bytes.ofText (a ++ "\x00" ++ b) := by
  rw [Bytes.ofText_append, Bytes.ofText_append]
  exact List.prefix_append ..

omit [RowFormat] in
theorem ne_append_split (a b : String) : a ++ "\x00" ++ b ≠ a := by
  intro h
  have hlength := congrArg String.length h
  have hone : "\x00".length = 1 := rfl
  simp only [String.length_append] at hlength
  omega

/-- In a listed row, exact lookups allow no zero character. -/
theorem LookupsExact.nulFree {db : Sled} (h : LookupsExact db) {uuid : String} {row : StoredUser}
    (hrow : UserRowAt db uuid row)
    (hlisted : ∀ f : UserField, db.at?
      ⟨f.tree, indexKey (f.bytes (f.get row.index)) (Bytes.ofText uuid)⟩ =
        some (Bytes.ofText uuid)) :
    NulFree uuid ∧ row.index.NulFree := by
  refine ⟨?_, ?_, ?_⟩
  · by_contra hnul
    obtain ⟨a, b, rfl⟩ := exists_split_of_not_nulFree hnul
    have hpre : indexPrefix (UserField.username.bytes (row.index.username ++ "\x00" ++ a)) <+:
        indexKey (UserField.username.bytes row.index.username)
          (Bytes.ofText (a ++ "\x00" ++ b)) := by
      simp only [UserField.bytes, indexKey, Bytes.ofText_append, indexPrefix, List.append_assoc]
      exact List.prefix_append_right_inj _ |>.mpr <| List.prefix_append_right_inj _ |>.mpr <|
        List.prefix_append_right_inj _ |>.mpr <| List.prefix_append ..
    exact ne_append_split _ _ (h.get_eq hrow (hlisted .username) hpre).symm
  · by_contra hnul
    obtain ⟨a, b, hsplit⟩ := exists_split_of_not_nulFree hnul
    have hpre : indexPrefix (UserField.username.bytes a) <+:
        indexKey (UserField.username.bytes row.index.username) (Bytes.ofText uuid) := by
      rw [hsplit, indexKey, List.append_assoc]
      exact (indexPrefix_split a b).trans (List.prefix_append ..)
    exact ne_append_split a b (hsplit ▸ h.get_eq hrow (hlisted .username) hpre)
  · by_contra hnul
    obtain ⟨a, b, hsplit⟩ := exists_split_of_not_nulFree hnul
    have hpre : indexPrefix (UserField.email.bytes a) <+:
        indexKey (UserField.email.bytes row.index.email) (Bytes.ofText uuid) := by
      rw [hsplit, indexKey, List.append_assoc]
      exact (indexPrefix_split a b).trans (List.prefix_append ..)
    exact ne_append_split a b (hsplit ▸ h.get_eq hrow (hlisted .email) hpre)

/-- A rewritten row is stored. -/
theorem userRowAt_rewrite (db : Sled) (uuid : String) (old : Option StoredUser)
    (new : StoredUser) :
    UserRowAt (db.applyWrites (users.rewrite uuid old new)) uuid new := by
  refine ⟨users.format.encode new, ?_, users.format.decode_encode new⟩
  show (db.applyWrites (users.rewrite uuid old new)).at? (users.rowCell uuid) = _
  rw [users.rowCell_rewrite, if_pos rfl]

/-- A rewritten row is listed if it is live. -/
theorem listed_rewrite (db : Sled) {uuid : String} (old : Option StoredUser) {new : StoredUser}
    (hlive : new.deleted = false) (f : UserField) :
    (db.applyWrites (users.rewrite uuid old new)).at?
      ⟨f.tree, indexKey (f.bytes (f.get new.index)) (Bytes.ofText uuid)⟩ =
        some (Bytes.ofText uuid) := by
  rw [Keyspace.at_applyWrites, Table.lastWrite_rewrite,
    if_pos (mem_listed_users.mpr ⟨hlive, f, rfl⟩)]
  rfl

/-- An entry of a live row that is written over stays, if it is no entry of the new row. -/
theorem RepresentsUsers.stale_entry {R : String → Option StoredUser} {db : Sled}
    (h : RepresentsUsers R db) {uuid : String} {row : StoredUser} (new : StoredUser)
    (hrow : R uuid = some row) (hlive : row.deleted = false) {f : UserField}
    (hne : f.get row.index ≠ f.get new.index) :
    (db.applyWrites (users.rewrite uuid none new)).at?
      ⟨f.tree, indexKey (f.bytes (f.get row.index)) (Bytes.ofText uuid)⟩ =
        some (Bytes.ofText uuid) := by
  have hnew : (⟨f.tree, indexKey (f.bytes (f.get row.index)) (Bytes.ofText uuid)⟩ : SledCell) ∉
      users.listed uuid (some new) := by
    intro hmem
    obtain ⟨-, g, hg⟩ := mem_listed_users.mp hmem
    obtain ⟨htree, hkey⟩ := Cell.mk.inj hg
    obtain rfl := UserField.tree_inj.mp htree
    rw [indexKey, indexKey, List.append_left_inj, List.append_left_inj, UserField.bytes_inj] at hkey
    exact hne hkey
  have hrowne : (⟨f.tree, indexKey (f.bytes (f.get row.index)) (Bytes.ofText uuid)⟩ : SledCell) ≠
      users.rowCell uuid := by
    intro heq
    have htree : f.tree = users.tree := congrArg Cell.space heq
    exact users.tree_unlisted (htree ▸ f.tree_mem)
  rw [Keyspace.at_applyWrites, Table.lastWrite_rewrite, if_neg hnew, if_neg hrowne,
    if_neg (show _ ∉ users.listed uuid none from List.not_mem_nil), Option.getD_none]
  refine (h.exact _ f.tree_mem _).mpr ⟨uuid, row, hrow, ?_, rfl⟩
  rw [h.cells_eq hrow]
  exact mem_listed_users.mpr ⟨hlive, f, rfl⟩

/-- A command that is not clean breaks a lookup. -/
theorem RepresentsUsers.not_lookupsExact {R : String → Option StoredUser} {db : Sled}
    (h : RepresentsUsers R db) {e : LogEntry} (hunclean : ¬ Clean db e) :
    ¬ LookupsExact (e.apply db).2 := by
  rw [LogEntry.apply_eq_exec]
  intro hexact
  cases e with
  | createUser uuid body index =>
      replace hexact : LookupsExact
        (db.applyWrites (users.rewrite uuid none (Table.fresh body index))) := hexact
      have hstored := userRowAt_rewrite db uuid none (Table.fresh body index)
      obtain ⟨huuid, hindex⟩ := hexact.nulFree hstored (listed_rewrite db none rfl)
      refine hunclean ⟨huuid, hindex, fun row hrow hlive => ?_⟩
      refine UserIndexFields.ext_get fun f => ?_
      by_contra hne
      have hstale := h.stale_entry (Table.fresh body index) (h.userRowAt.mp hrow) hlive hne
      exact hne (hexact.get_eq hstored hstale (List.prefix_append ..)).symm
  | updateUser uuid body index =>
      refine hunclean fun ⟨row, hrow, hlive⟩ => ?_
      have hplan : (users.changeRow uuid (Table.updated · body index)
          (db.at? (users.rowCell uuid))).2 =
            users.rewrite uuid (some row) (Table.updated row body index) := by
        rw [h.row uuid, h.userRowAt.mp hrow]
        simp only [Option.map_some, Table.changeRow, Codec.decode_encode]
      replace hexact : LookupsExact (db.applyWrites (users.changeRow uuid
        (Table.updated · body index) (db.at? (users.rowCell uuid))).2) := hexact
      rw [hplan] at hexact
      exact (hexact.nulFree (userRowAt_rewrite db uuid (some row) _)
        (listed_rewrite db (some row) hlive)).2
  | _ => exact hunclean trivial

/-! ## Runs -/

/-- A run of clean commands from the empty store keeps the table represented. -/
theorem exists_representsUsers {log : List LogEntry} (hlog : ∀ e ∈ log, e.isUserCommand)
    (hclean : ∀ pre e post, log = pre ++ e :: post → Clean (applyAll Keyspace.empty pre) e) :
    ∃ R, RepresentsUsers R (applyAll Keyspace.empty log) := by
  induction log using List.reverseRecOn with
  | nil => exact ⟨_, RepresentsUsers.empty⟩
  | append_singleton log e ih =>
      obtain ⟨R, hR⟩ := ih (fun d hd => hlog d (List.mem_append_left _ hd))
        fun pre d post hsplit => hclean pre d (post ++ [e]) (by rw [hsplit]; simp)
      rw [applyAll_append]
      exact hR.apply (hlog e (by simp)) (hclean log e [] rfl)

/-- Lookups are exact in every state of a run of user commands exactly when every command of the
run is clean. -/
theorem user_lookups_exact_iff {log : List LogEntry} (hlog : ∀ e ∈ log, e.isUserCommand) :
    (∀ pre, pre <+: log → LookupsExact (applyAll Keyspace.empty pre)) ↔
      ∀ pre e post, log = pre ++ e :: post → Clean (applyAll Keyspace.empty pre) e := by
  constructor
  · intro hexact
    induction log using List.reverseRecOn with
    | nil =>
        intro pre e post hnil
        exact absurd hnil (by simp)
    | append_singleton log e ih =>
        have hbefore := ih (fun d hd => hlog d (List.mem_append_left _ hd))
          fun pre hpre => hexact pre (hpre.trans (List.prefix_append ..))
        intro pre d post hsplit
        rcases List.eq_nil_or_concat' post with rfl | ⟨post, d', rfl⟩
        · obtain ⟨rfl, heq⟩ := List.append_inj' hsplit rfl
          obtain rfl := List.singleton_inj.mp heq
          obtain ⟨R, hR⟩ := exists_representsUsers
            (fun d hd => hlog d (List.mem_append_left _ hd)) hbefore
          by_contra hunclean
          refine hR.not_lookupsExact hunclean ?_
          have hlast := hexact _ List.prefix_rfl
          rwa [applyAll_append] at hlast
        · rw [← List.cons_append, ← List.append_assoc] at hsplit
          exact hbefore pre d post (List.append_inj' hsplit rfl).1
  · rintro hclean pre ⟨post, rfl⟩
    have hpre : ∀ d ∈ pre, d.isUserCommand := fun d hd => hlog d (List.mem_append_left _ hd)
    obtain ⟨R, hR⟩ := exists_representsUsers hpre
      fun pre' d post' hsplit => hclean pre' d (post' ++ post) (by rw [hsplit]; simp)
    exact hR.lookupsExact

end InfoVulcan.Db

/-! ## Runs on the JSON formats -/

namespace InfoVulcan.Db

open scoped SerdeJson

/-- The index fields of a user with a name. -/
def namedFields (username : String) : UserIndexFields where
  username := username
  email := ""
  role := 0

/-- A user who is created, renamed and deleted. -/
theorem user_lookups_exact_iff_rename :
    (∀ pre, pre <+: [.createUser "u" [] (namedFields "a"), .updateUser "u" [] (namedFields "b"),
        .softDeleteUser "u" 0] → LookupsExact (applyAll Keyspace.empty pre)) ↔
      ∀ pre e post, [.createUser "u" [] (namedFields "a"), .updateUser "u" [] (namedFields "b"),
        .softDeleteUser "u" 0] = pre ++ e :: post → Clean (applyAll Keyspace.empty pre) e :=
  user_lookups_exact_iff (by decide)

/-- A user who is created again under another name can still be looked up by the first one. -/
theorem recreated_user_keeps_old_name :
    ¬ LookupsExact (applyAll Keyspace.empty
      [.createUser "u" [] (namedFields "a"), .createUser "u" [] (namedFields "b")]) := by
  have hclean : Clean Keyspace.empty (.createUser "u" [] (namedFields "a")) := by
    refine ⟨by decide, by decide, fun row hrow => ?_⟩
    obtain ⟨bytes, hbytes, -⟩ := hrow
    simp [get] at hbytes
  obtain ⟨R, hR⟩ := RepresentsUsers.empty.apply rfl hclean
  refine hR.not_lookupsExact fun hunclean => ?_
  have hrow : UserRowAt ((LogEntry.createUser "u" [] (namedFields "a")).apply Keyspace.empty).2
      "u" (Table.fresh [] (namedFields "a")) := by
    rw [LogEntry.apply_eq_exec]
    exact userRowAt_rewrite _ "u" none _
  exact absurd (hunclean.2.2 _ hrow rfl) (by decide)

end InfoVulcan.Db
