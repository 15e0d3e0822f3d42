import InfoVulcan.Library.Decimal
import InfoVulcan.Library.Text

/-!
# The peers of a cluster

A node is told its peers in one text, items `id:address` with commas between them. An item is split
at every colon and put together again behind the first, so an address keeps its own colons, and an
item that names no peer is skipped. A list of peers is read back from the text it is written as
(`parsePeerConfigs_render`), and of any text the peers are those that its items name, in their order
(`names_iff`, `lists_iff`). The first of them is the node that initializes the cluster. The
custodian has the same function for its own cluster.
-/

namespace InfoVulcan.Db

open Text (WhiteSpace isWhiteSpace trim)

/-- A peer: its id and its address. -/
structure PeerConfig where
  nodeId : UInt64
  address : String
  deriving DecidableEq

/-! ## Reading peers -/

/-- The peer an item adds. An item is skipped when it has no colon, and when the part before the
first colon is no number or zero. -/
def peerOf (peerConfig : String) : Option PeerConfig :=
  match Text.split ':' (trim peerConfig) with
  | id :: part :: parts =>
      -- What is no number, or does not fit, counts as zero.
      let peerId := (Decimal.parseU64 id).getD 0
      if peerId = 0 then none
      else some { nodeId := peerId, address := Text.join ':' (part :: parts) }
  | _ => none

/-- Reads the peers from the items between commas, one item after the other. -/
def parsePeerConfigs (peersStr : String) : List PeerConfig :=
  (Text.split ',' peersStr).foldl (fun peers peerConfig => peers ++ (peerOf peerConfig).toList) []

/-! ## What a text lists -/

/-- The address does not end in white space. -/
def PeerConfig.EndsInText (peer : PeerConfig) : Prop :=
  ∀ c ∈ peer.address.toList.getLast?, isWhiteSpace c = false

/-- An item names a peer when it is, between white space, a number that is not zero, a colon and the
address. -/
structure Names (item : String) (peer : PeerConfig) : Prop where
  nodeId : peer.nodeId ≠ 0
  ends : peer.EndsInText
  form : ∃ front id back, WhiteSpace front ∧ WhiteSpace back ∧
    Decimal.parseU64 id = some peer.nodeId ∧ item = front ++ (id ++ ":" ++ peer.address) ++ back

/-- The peers that items name, in the order of the items. -/
inductive Lists : List String → List PeerConfig → Prop where
  | nil : Lists [] []
  | peer {item : String} {peer : PeerConfig} {items : List String} {peers : List PeerConfig} :
      Names item peer → Lists items peers → Lists (item :: items) (peer :: peers)
  | skip {item : String} {items : List String} {peers : List PeerConfig} :
      (∀ peer, ¬ Names item peer) → Lists items peers → Lists (item :: items) peers

/-- The items of a text, between its commas. -/
structure Items (s : String) (items : List String) : Prop where
  nonempty : items ≠ []
  comma : ∀ item ∈ items, ',' ∉ item.toList
  joined : s = Text.join ',' items

/-! ## Writing peers -/

/-- A peer that can be written as an item: its id is a peer's, and its address has no comma and does
not end in white space. -/
structure PeerConfig.Writable (peer : PeerConfig) : Prop where
  nodeId : 1 ≤ peer.nodeId
  comma : ',' ∉ peer.address.toList
  ends : peer.EndsInText

/-- A peer as an item. -/
def PeerConfig.render (peer : PeerConfig) : String :=
  s!"{peer.nodeId}:{peer.address}"

/-- Peers as a text. -/
def render (peers : List PeerConfig) : String :=
  Text.join ',' (peers.map PeerConfig.render)

/-! ## What an item names -/

variable {item s : String} {items : List String} {peer : PeerConfig} {peers : List PeerConfig}

/-- The characters of numbers. -/
theorem toNat_of_number {c : Char} (h : c = '+' ∨ c.isDigit) :
    c.toNat = 43 ∨ 48 ≤ c.toNat ∧ c.toNat ≤ 57 := by
  rcases h with rfl | h
  · exact .inl rfl
  · exact .inr (by simpa [Char.isDigit, UInt32.le_iff_toNat_le] using h)

theorem isWhiteSpace_of_number {c : Char} (h : c = '+' ∨ c.isDigit) : isWhiteSpace c = false := by
  rcases h with rfl | h
  · decide
  · exact Text.isWhiteSpace_of_isDigit h

/-- A number has no separator in it. -/
theorem not_mem_number {id : String} {n : UInt64} (h : Decimal.parseU64 id = some n) (sep : Char)
    (hsep : sep.toNat = 44 ∨ sep.toNat = 58) : sep ∉ id.toList := by
  intro hmem
  have hc := toNat_of_number ((Decimal.chars_of_parseU64 h).2 sep hmem)
  omega

/-- The last character of an item is that of the address, or the colon. -/
theorem getLast_item (id address : String) :
    (id ++ ":" ++ address).toList.getLast? = some (address.toList.getLast?.getD ':') := by
  simp [List.getLast?_cons]

/-- What is between the white space of an item is split behind the number. -/
theorem Names.split_trim (h : Names item peer) :
    ∃ id, Decimal.parseU64 id = some peer.nodeId ∧
      Text.split ':' (trim item) = id :: Text.split ':' peer.address := by
  obtain ⟨front, id, back, hfront, hback, hid, rfl⟩ := h.form
  obtain ⟨hne, hchars⟩ := Decimal.chars_of_parseU64 hid
  refine ⟨id, hid, ?_⟩
  rw [Text.trim_between hfront hback]
  · exact Text.split_append (not_mem_number hid ':' (by decide))
  · intro c hc
    obtain ⟨first, rest, hfirst⟩ := List.exists_cons_of_ne_nil hne
    obtain rfl : first = c := by simpa [hfirst] using hc
    exact isWhiteSpace_of_number (hchars first (hfirst ▸ List.mem_cons_self))
  · intro c hc
    obtain rfl : _ = c := Option.some.inj ((getLast_item id peer.address).symm.trans hc)
    cases hlast : peer.address.toList.getLast? with
    | none => decide
    | some last => exact h.ends last hlast

/-- What a text joined behind a number names. -/
theorem names_of_trim {id : String} (hid : Decimal.parseU64 id = some peer.nodeId)
    (hne : peer.nodeId ≠ 0) (htrim : trim item = id ++ ":" ++ peer.address) : Names item peer := by
  refine ⟨hne, fun c hc => ?_, ?_⟩
  · have hlast := Text.last_trimMatches isWhiteSpace item.toList
    rw [← Text.toList_trim, htrim, getLast_item, Option.mem_def.mp hc] at hlast
    exact hlast c rfl
  · obtain ⟨front, back, hfront, hback, hitem⟩ := Text.exists_trim item
    exact ⟨front, id, back, hfront, hback, hid, htrim ▸ hitem⟩

/-- An item adds the peer it names, and no other. -/
theorem names_iff : Names item peer ↔ peerOf item = some peer := by
  constructor
  · intro h
    obtain ⟨id, hid, hsplit⟩ := h.split_trim
    have hjoin := Text.join_split ':' peer.address
    cases hparts : Text.split ':' peer.address with
    | nil => exact absurd hparts (Text.split_ne_nil _ _)
    | cons part parts =>
        rw [hparts] at hsplit hjoin
        simp [peerOf, hsplit, hid, h.nodeId, hjoin]
  · intro h
    unfold peerOf at h
    split at h
    case h_1 id part parts hsplit =>
        -- The parts behind the first, joined again, are the address with its own colons.
        dsimp only at h
        split at h
        case isTrue => cases h
        case isFalse hne =>
            obtain rfl := Option.some.inj h
            have htrim := Text.join_split ':' (trim item)
            rw [hsplit, Text.join_cons id (List.cons_ne_nil _ _)] at htrim
            refine names_of_trim ?_ hne htrim.symm
            cases hid : Decimal.parseU64 id with
            | none => simp [hid] at hne
            | some n => rfl
    case h_2 => cases h

/-- A number that is not zero with a colon behind it names a peer whatever follows. -/
theorem exists_names {id : String} {n : UInt64} (hid : Decimal.parseU64 id = some n) (hne : n ≠ 0)
    (rest : String) : ∃ peer, peer.nodeId = n ∧ Names (id ++ ":" ++ rest) peer := by
  -- The address is what follows without the white space behind it.
  let address := String.ofList (rest.toList.rdropWhile isWhiteSpace)
  let back := String.ofList (rest.toList.rtakeWhile isWhiteSpace)
  have hrest : rest = address ++ back := by
    rw [← String.toList_inj]
    simp [address, back, List.rdropWhile_append_rtakeWhile]
  refine ⟨⟨n, address⟩, rfl, hne, fun c hc => ?_, "", id, back, Text.whiteSpace_empty,
    fun c hc => ?_,
    hid, ?_⟩
  · exact Text.last_rdropWhile _ _ c (String.toList_ofList ▸ hc)
  · exact List.mem_rtakeWhile_imp (String.toList_ofList ▸ hc)
  · simp only [String.empty_append, String.append_assoc]
    rw [← hrest]

/-! ## What a text lists -/

/-- Every turn of the loop appends the peer of its item. -/
theorem foldl_peerOf (items : List String) (peers : List PeerConfig) :
    items.foldl (fun peers item => peers ++ (peerOf item).toList) peers =
      peers ++ items.filterMap peerOf := by
  induction items generalizing peers with
  | nil => simp
  | cons item items ih =>
      rw [List.foldl_cons, ih]
      cases h : peerOf item <;> simp [h]

theorem parsePeerConfigs_eq (s : String) :
    parsePeerConfigs s = (Text.split ',' s).filterMap peerOf :=
  foldl_peerOf _ []

/-- The peers that items name are the peers they add. -/
theorem lists_iff : Lists items peers ↔ items.filterMap peerOf = peers := by
  constructor
  · intro h
    induction h with
    | nil => rfl
    | peer hitem _ ih => rw [List.filterMap_cons_some (names_iff.mp hitem), ih]
    | @skip item items peers hitem _ ih =>
        have hnone : peerOf item = none :=
          Option.eq_none_iff_forall_ne_some.mpr fun peer h => hitem peer (names_iff.mpr h)
        rw [List.filterMap_cons_none hnone, ih]
  · rintro rfl
    induction items with
    | nil => exact .nil
    | cons item items ih =>
        cases h : peerOf item with
        | none =>
            rw [List.filterMap_cons_none h]
            exact .skip (fun peer hpeer => by simp [names_iff, h] at hpeer) ih
        | some peer =>
            rw [List.filterMap_cons_some h]
            exact .peer (names_iff.mpr h) ih

/-- A text has one list of items. -/
theorem items_iff : Items s items ↔ Text.split ',' s = items := by
  constructor
  · intro h
    rw [h.joined, Text.split_join h.comma h.nonempty]
  · rintro rfl
    exact ⟨Text.split_ne_nil _ _, fun item => Text.not_mem_of_mem_split,
      (Text.join_split _ _).symm⟩

/-- The peers of a text are those that its items name. -/
theorem lists_parsePeerConfigs (h : Items s items) : Lists items (parsePeerConfigs s) := by
  rw [lists_iff, parsePeerConfigs_eq, items_iff.mp h]

example : parsePeerConfigs "1:http://[::1]:50051,invalid, +2:b ,0:http://x,3" =
    [⟨1, "http://[::1]:50051"⟩, ⟨2, "b"⟩] := by
  decide +kernel

/-- The id of a peer that is listed is not zero. -/
theorem nodeId_ne_zero (h : peer ∈ parsePeerConfigs s) : peer.nodeId ≠ 0 := by
  rw [parsePeerConfigs_eq] at h
  obtain ⟨item, -, hitem⟩ := List.mem_filterMap.mp h
  exact (names_iff.mpr hitem).nodeId

/-! ## Reading what is written -/

theorem render_eq (peer : PeerConfig) :
    peer.render = toString peer.nodeId ++ ":" ++ peer.address :=
  rfl

/-- A peer is named by the item it is written as. -/
theorem PeerConfig.Writable.names (h : peer.Writable) : Names peer.render peer where
  nodeId hzero := by
    have hle := h.nodeId
    rw [hzero] at hle
    exact absurd hle (by decide)
  ends := h.ends
  form := ⟨"", toString peer.nodeId, "", Text.whiteSpace_empty, Text.whiteSpace_empty,
    Decimal.parseU64_toString peer.nodeId, by simp [render_eq]⟩

/-- An item that is written has no comma in it. -/
theorem PeerConfig.Writable.comma_render (h : peer.Writable) : ',' ∉ peer.render.toList := by
  have hid := not_mem_number (Decimal.parseU64_toString peer.nodeId) ',' (by decide)
  simpa [render_eq, hid] using h.comma

/-- Peers that can be written are read back as they are. -/
theorem parsePeerConfigs_render (h : ∀ peer ∈ peers, peer.Writable) :
    parsePeerConfigs (render peers) = peers := by
  cases peers with
  | nil => rfl
  | cons first rest =>
      have hitems : Items (render (first :: rest)) ((first :: rest).map PeerConfig.render) := by
        refine ⟨List.cons_ne_nil _ _, fun item hitem => ?_, rfl⟩
        obtain ⟨peer, hpeer, rfl⟩ := List.mem_map.mp hitem
        exact (h peer hpeer).comma_render
      have hread : ∀ peer ∈ first :: rest, (peerOf ∘ PeerConfig.render) peer = some peer := by
        intro peer hpeer
        rw [Function.comp_apply]
        exact names_iff.mp (h peer hpeer).names
      rw [parsePeerConfigs_eq, items_iff.mp hitems, List.filterMap_map,
        List.filterMap_congr hread, List.filterMap_some]

/-- Peers that are written are read back, and of any text the peers are those that its items name,
in their order, none of them with the id zero. -/
theorem peer_lists_parse_back :
    (∀ peers : List PeerConfig, (∀ peer ∈ peers, peer.Writable) →
      parsePeerConfigs (render peers) = peers) ∧
    ∀ s : String, (∀ peer ∈ parsePeerConfigs s, peer.nodeId ≠ 0) ∧
      ∃ items, Items s items ∧ Lists items (parsePeerConfigs s) :=
  ⟨fun _ => parsePeerConfigs_render, fun _ => ⟨fun _ => nodeId_ne_zero, _, items_iff.mpr rfl,
    lists_parsePeerConfigs (items_iff.mpr rfl)⟩⟩

/-- An address with colons of its own, and an empty one. -/
theorem peer_lists_parse_back_two :
    parsePeerConfigs (render [⟨1, "http://[::1]:50051"⟩, ⟨2, ""⟩]) =
      [⟨1, "http://[::1]:50051"⟩, ⟨2, ""⟩] := by
  refine peer_lists_parse_back.1 _ fun peer hpeer => ?_
  rcases List.mem_pair.mp hpeer with rfl | rfl
  · exact ⟨by decide, by decide, fun c hc => by simp at hc; subst hc; decide⟩
  · exact ⟨by decide, by decide, fun c hc => by cases hc⟩

end InfoVulcan.Db
