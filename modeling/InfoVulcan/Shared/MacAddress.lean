import InfoVulcan.Library.Hex
import InfoVulcan.Library.Separated
import InfoVulcan.Shared.Ticket

/-!
# MAC addresses

A MAC address is accepted when its text falls into six groups of two hexadecimal digits, and it is
kept in upper case with colons between the groups. The check makes every dash a colon before it
splits the text, so that it also accepts groups of which some are separated by colons and some by
dashes.
-/

namespace InfoVulcan

/-- MAC address type with validation. -/
structure MacAddress where
  text : String
  deriving DecidableEq, Repr

namespace MacAddress

/-! ## Parsing -/

/-- Makes a dash a colon. -/
def dashToColon (c : Char) : Char :=
  if c = '-' then ':' else c

/-- The text with colons for dashes. -/
def replaceDashes (s : String) : String :=
  String.ofList (s.toList.map dashToColon)

/-- The parts of a text between colons. -/
def splitColons (s : String) : List String :=
  (s.toList.splitOn ':').map String.ofList

/-- The text in upper case, for texts of ASCII characters. -/
def toUppercase (s : String) : String :=
  String.ofList (s.toList.map Char.toUpper)

/-- The error for a text that is not a MAC address. -/
def invalidFormat (mac : String) : InfoVulcanError :=
  .validationError s!"Invalid MAC address format: {mac}"

/-- Creates a new MAC address with validation. -/
def new (mac : String) : Except InfoVulcanError MacAddress :=
  let normalized := replaceDashes mac
  let parts := splitColons normalized
  if parts.length ≠ 6 then .error (invalidFormat mac)
  else if ∃ part ∈ parts, (Bytes.ofText part).length ≠ 2 ∨ ¬ part.toList.all Hex.isHexdigit then
    .error (invalidFormat mac)
  else .ok ⟨toUppercase normalized⟩

/-- Gets the MAC address as a string. -/
def asStr (mac : MacAddress) : String :=
  mac.text

instance : ToString MacAddress :=
  ⟨asStr⟩

/-! ## What a text denotes -/

/-- A character that separates the groups of a MAC address. -/
def isSeparator (c : Char) : Bool :=
  c == ':' || c == '-'

/-- Two hexadecimal digits. -/
def IsOctet (group : List Char) : Prop :=
  group.length = 2 ∧ ∀ c ∈ group, Hex.isHexdigit c = true

/-- Six groups of two hexadecimal digits. -/
structure Octets (groups : List (List Char)) : Prop where
  length : groups.length = 6
  octet : ∀ group ∈ groups, IsOctet group

/-- The documented forms: six groups of two hexadecimal digits, separated all by colons or all by
dashes. -/
def Documented (mac : String) : Prop :=
  ∃ groups sep, Octets groups ∧ (sep = ':' ∨ sep = '-') ∧ mac.toList = [sep].intercalate groups

/-- Six groups of two hexadecimal digits, separated by colons and by dashes. -/
def Mixed (mac : String) : Prop :=
  ∃ groups seps, Octets groups ∧ seps.length = 5 ∧ (∀ sep ∈ seps, sep = ':' ∨ sep = '-') ∧
    ':' ∈ seps ∧ '-' ∈ seps ∧ mac.toList = Separated.join groups seps

/-- The groups of a text between colons and dashes. -/
def groups (mac : String) : List (List Char) :=
  mac.toList.splitOnP isSeparator

/-- The bytes that the groups of a text stand for. -/
def denotedBytes (mac : String) : Bytes :=
  (groups mac).map Hex.byteOf

/-- The upper-case colon form of bytes. -/
def colonForm (bytes : Bytes) : String :=
  String.ofList ([':'].intercalate (bytes.map Hex.digitsOf))

/-- What is claimed of the parsing of a text: it is accepted if it has a documented form, kept in
upper case with colons, parsed again as what is kept, and kept as another text is if that denotes
the same bytes. -/
structure ParsedExactly (s : String) : Prop where
  accepted : (∃ mac, new s = .ok mac) ↔ Documented s
  form : ∀ mac, new s = .ok mac →
    (denotedBytes s).length = 6 ∧ mac.asStr = colonForm (denotedBytes s)
  again : ∀ mac, new s = .ok mac → new mac.asStr = .ok mac
  equal : ∀ t mac mac', new s = .ok mac → new t = .ok mac' →
    (mac = mac' ↔ denotedBytes s = denotedBytes t)

/-! ## Groups -/

variable {mac : String}

/-- Dashes and colons are what becomes a colon. -/
theorem dashToColon_eq_colon_iff (c : Char) : (dashToColon c == ':') = isSeparator c := by
  unfold dashToColon isSeparator
  by_cases h : c = '-'
  · simp [h]
  · simp [h]

theorem dashToColon_of_separator {c : Char} (h : isSeparator c = true) : dashToColon c = ':' :=
  beq_iff_eq.mp ((dashToColon_eq_colon_iff c).trans h)

theorem dashToColon_of_not_separator {c : Char} (h : isSeparator c = false) :
    dashToColon c = c := by
  unfold isSeparator at h
  unfold dashToColon
  simp only [Bool.or_eq_false_iff, beq_eq_false_iff_ne] at h
  exact if_neg h.2

theorem isSeparator_eq_true_iff {c : Char} : isSeparator c = true ↔ c = ':' ∨ c = '-' := by
  simp [isSeparator]

/-- No group has a dash to be replaced. -/
theorem map_dashToColon_groups : (groups mac).map (List.map dashToColon) = groups mac := by
  refine (List.map_congr_left fun group hgroup => ?_).trans (List.map_id _)
  refine (List.map_congr_left fun c hc => ?_).trans (List.map_id _)
  exact dashToColon_of_not_separator (Separated.eq_false_of_mem_splitOnP hgroup hc)

/-- The parts that are checked are the groups. -/
theorem splitColons_replaceDashes :
    splitColons (replaceDashes mac) = (groups mac).map String.ofList := by
  have hcomp : (fun c => c == ':') ∘ dashToColon = isSeparator :=
    funext dashToColon_eq_colon_iff
  unfold splitColons replaceDashes
  rw [String.toList_ofList, List.splitOn_eq_splitOnP, Separated.splitOnP_map, hcomp]
  exact congrArg _ map_dashToColon_groups

/-- A digit is not a separator. -/
theorem isSeparator_of_isHexdigit {c : Char} (h : Hex.isHexdigit c = true) :
    isSeparator c = false :=
  Hex.forall_isHexdigit (P := fun c => isSeparator c = false) (by decide +kernel) h

/-- The check of a part is that of a group. -/
theorem part_ok_iff (group : List Char) :
    ¬ ((Bytes.ofText (String.ofList group)).length ≠ 2 ∨
        ¬ (String.ofList group).toList.all Hex.isHexdigit) ↔ IsOctet group := by
  unfold IsOctet
  rw [not_or, not_not, not_not, String.toList_ofList, List.all_eq_true]
  -- Digits are one byte each, so that a part of digits has as many bytes as characters.
  refine and_congr_left fun hdigits => ?_
  rw [Hex.length_ofText (by rwa [String.toList_ofList]), String.toList_ofList]

/-- Six groups with colons between them. -/
theorem join_groups_replicate {groups : List (List Char)} (h : groups.length = 6) (sep : Char) :
    Separated.join groups (List.replicate 5 sep) = [sep].intercalate groups := by
  obtain ⟨group, rest, rfl⟩ := List.exists_cons_of_length_pos (by omega : 0 < groups.length)
  have hrest : rest.length = 5 := by simpa using h
  rw [← hrest, Separated.join_replicate]

/-- What is kept of an accepted text is its groups in upper case, with colons. -/
theorem toUppercase_replaceDashes (h : Octets (groups mac)) :
    toUppercase (replaceDashes mac) = colonForm (denotedBytes mac) := by
  have hseps : ((mac.toList.filter isSeparator).map dashToColon).map Char.toUpper =
      List.replicate 5 ':' := by
    have hlength : (mac.toList.filter isSeparator).length = 5 := by
      have := Separated.length_splitOnP isSeparator mac.toList
      have := h.length
      unfold groups at this
      omega
    rw [List.map_map, List.eq_replicate_iff, List.length_map]
    refine ⟨hlength, fun c hc => ?_⟩
    obtain ⟨sep, hsep, rfl⟩ := List.mem_map.mp hc
    rw [Function.comp_apply, dashToColon_of_separator (List.mem_filter.mp hsep).2]
    rfl
  have hgroups : (groups mac).map (List.map Char.toUpper) =
      ((groups mac).map Hex.byteOf).map Hex.digitsOf := by
    rw [List.map_map]
    refine List.map_congr_left fun group hgroup => ?_
    exact (Hex.digitsOf_byteOf (h.octet group hgroup).1 (h.octet group hgroup).2).symm
  -- Replacing dashes changes the separators and leaves the groups alone.
  have hcolons : mac.toList.map dashToColon =
      Separated.join (groups mac) ((mac.toList.filter isSeparator).map dashToColon) := by
    conv_lhs => rw [← Separated.join_splitOnP isSeparator mac.toList]
    rw [Separated.map_join]
    exact congrArg (Separated.join · _) map_dashToColon_groups
  unfold toUppercase replaceDashes colonForm denotedBytes
  rw [String.toList_ofList, hcolons, Separated.map_join, hseps, hgroups,
    join_groups_replicate (by simpa using h.length)]

/-- A text is accepted if its groups are octets. -/
theorem new_of_octets (h : Octets (groups mac)) :
    new mac = .ok ⟨colonForm (denotedBytes mac)⟩ := by
  unfold new
  simp only [splitColons_replaceDashes, List.length_map]
  rw [if_neg (not_not_intro h.length), if_neg, toUppercase_replaceDashes h]
  rintro ⟨part, hpart, hbad⟩
  obtain ⟨group, hgroup, rfl⟩ := List.mem_map.mp hpart
  exact (part_ok_iff group).mpr (h.octet group hgroup) hbad

/-- No other text is accepted. -/
theorem new_of_not_octets (h : ¬ Octets (groups mac)) :
    new mac = .error (invalidFormat mac) := by
  unfold new
  simp only [splitColons_replaceDashes, List.length_map]
  by_cases hlength : (groups mac).length ≠ 6
  · rw [if_pos hlength]
  · rw [if_neg hlength, if_pos]
    by_contra hparts
    refine h ⟨not_not.mp hlength, fun group hgroup => ?_⟩
    exact (part_ok_iff group).mp fun hbad =>
      hparts ⟨_, List.mem_map_of_mem hgroup, hbad⟩

/-- The texts that are accepted, and what is kept of them. -/
theorem new_eq_ok_iff {value : MacAddress} :
    new mac = .ok value ↔ Octets (groups mac) ∧ value = ⟨colonForm (denotedBytes mac)⟩ := by
  by_cases h : Octets (groups mac)
  · rw [new_of_octets h, Except.ok.injEq, eq_comm, and_iff_right h]
  · rw [new_of_not_octets h]
    exact iff_of_false (by simp) fun hvalue => h hvalue.1

/-! ## Separators -/

/-- A group has no separator in it. -/
theorem Octets.not_separator {groups : List (List Char)} (h : Octets groups) :
    ∀ group ∈ groups, ∀ c ∈ group, isSeparator c = false :=
  fun group hgroup c hc => isSeparator_of_isHexdigit ((h.octet group hgroup).2 c hc)

/-- The groups and the separators of a text that is joined from them. -/
theorem groups_of_join {parts : List (List Char)} {seps : List Char} (h : Octets parts)
    (hlength : seps.length = 5) (hseps : ∀ sep ∈ seps, sep = ':' ∨ sep = '-')
    (hmac : mac.toList = Separated.join parts seps) :
    groups mac = parts ∧ mac.toList.filter isSeparator = seps := by
  have hcount : parts.length = seps.length + 1 := by
    rw [h.length, hlength]
  have hsep : ∀ sep ∈ seps, isSeparator sep = true :=
    fun sep hsep => isSeparator_eq_true_iff.mpr (hseps sep hsep)
  unfold groups
  rw [hmac]
  exact ⟨Separated.splitOnP_join hcount h.not_separator hsep,
    Separated.filter_join hcount h.not_separator hsep⟩

/-- A text of a documented form is joined from octets by one separator. -/
theorem Documented.groups (h : Documented mac) : Octets (groups mac) ∧
    ∃ sep, mac.toList.filter isSeparator = List.replicate 5 sep := by
  obtain ⟨parts, sep, hparts, hsep, hmac⟩ := h
  rw [← join_groups_replicate hparts.length] at hmac
  obtain ⟨hgroups, hfilter⟩ := groups_of_join hparts List.length_replicate
    (fun c hc => List.eq_of_mem_replicate hc ▸ hsep) hmac
  exact ⟨hgroups ▸ hparts, sep, hfilter⟩

/-- A text with both separators is joined from octets by them. -/
theorem Mixed.groups (h : Mixed mac) : Octets (groups mac) ∧
    ':' ∈ mac.toList.filter isSeparator ∧ '-' ∈ mac.toList.filter isSeparator := by
  obtain ⟨parts, seps, hparts, hlength, hseps, hcolon, hdash, hmac⟩ := h
  obtain ⟨hgroups, hfilter⟩ := groups_of_join hparts hlength hseps hmac
  rw [hgroups, hfilter]
  exact ⟨hparts, hcolon, hdash⟩

/-- A text with both separators has no documented form. -/
theorem Mixed.not_documented (h : Mixed mac) : ¬ Documented mac := by
  intro hdocumented
  obtain ⟨-, sep, hfilter⟩ := hdocumented.groups
  obtain ⟨-, hcolon, hdash⟩ := h.groups
  rw [hfilter] at hcolon hdash
  have hne : ':' = '-' :=
    (List.eq_of_mem_replicate hcolon).trans (List.eq_of_mem_replicate hdash).symm
  revert hne
  decide

/-- A text whose groups are octets has a documented form, or has both separators. -/
theorem documented_or_mixed (h : Octets (groups mac)) : Documented mac ∨ Mixed mac := by
  have hmac : mac.toList = Separated.join (groups mac) (mac.toList.filter isSeparator) :=
    (Separated.join_splitOnP isSeparator mac.toList).symm
  have hlength : (mac.toList.filter isSeparator).length = 5 := by
    have hcount := Separated.length_splitOnP isSeparator mac.toList
    have hsix : (mac.toList.splitOnP isSeparator).length = 6 := h.length
    omega
  have hseps : ∀ sep ∈ mac.toList.filter isSeparator, sep = ':' ∨ sep = '-' :=
    fun sep hsep => isSeparator_eq_true_iff.mp (List.mem_filter.mp hsep).2
  -- If one of the separators is missing, all are the other one.
  have hall : ∀ sep, (sep = ':' ∨ sep = '-') →
      (∀ c ∈ mac.toList.filter isSeparator, c = sep) → Documented mac := by
    intro sep hsep hsame
    refine ⟨groups mac, sep, h, hsep, ?_⟩
    rw [← join_groups_replicate h.length, ← List.eq_replicate_iff.mpr ⟨hlength, hsame⟩]
    exact hmac
  by_cases hcolon : ':' ∈ mac.toList.filter isSeparator
  · by_cases hdash : '-' ∈ mac.toList.filter isSeparator
    · exact .inr ⟨_, _, h, hlength, hseps, hcolon, hdash, hmac⟩
    · refine .inl (hall ':' (.inl rfl) fun c hc => (hseps c hc).resolve_right ?_)
      rintro rfl
      exact hdash hc
  · refine .inl (hall '-' (.inr rfl) fun c hc => (hseps c hc).resolve_left ?_)
    rintro rfl
    exact hcolon hc

/-! ## The colon form -/

/-- The digits of bytes are octets. -/
theorem octets_digitsOf {bytes : Bytes} (h : bytes.length = 6) :
    Octets (bytes.map Hex.digitsOf) where
  length := by rwa [List.length_map]
  octet group hgroup := by
    obtain ⟨b, -, rfl⟩ := List.mem_map.mp hgroup
    exact ⟨rfl, fun c hc => Hex.isHexdigit_of_mem_digitsOf hc⟩

/-- The groups of the colon form are the digits of the bytes. -/
theorem groups_colonForm {bytes : Bytes} (h : bytes.length = 6) :
    groups (colonForm bytes) = bytes.map Hex.digitsOf := by
  have hoctets := octets_digitsOf h
  refine (groups_of_join hoctets (List.length_replicate (a := ':'))
    (fun c hc => .inl (List.eq_of_mem_replicate hc)) ?_).1
  rw [join_groups_replicate hoctets.length]
  exact String.toList_ofList

/-- The colon form denotes the bytes. -/
theorem denotedBytes_colonForm {bytes : Bytes} (h : bytes.length = 6) :
    denotedBytes (colonForm bytes) = bytes := by
  unfold denotedBytes
  rw [groups_colonForm h, List.map_map]
  exact (List.map_congr_left fun b _ => Hex.byteOf_digitsOf b).trans (List.map_id _)

/-- The colon form is parsed as itself. -/
theorem new_colonForm {bytes : Bytes} (h : bytes.length = 6) :
    new (colonForm bytes) = .ok ⟨colonForm bytes⟩ := by
  rw [new_of_octets ((groups_colonForm h).symm ▸ octets_digitsOf h), denotedBytes_colonForm h]

/-- Six bytes are those of one colon form. -/
theorem colonForm_inj {bytes bytes' : Bytes} (h : bytes.length = 6) (h' : bytes'.length = 6) :
    colonForm bytes = colonForm bytes' ↔ bytes = bytes' := by
  constructor
  case mp =>
    intro heq
    rw [← denotedBytes_colonForm h, heq, denotedBytes_colonForm h']
  case mpr => exact congrArg colonForm

/-- An accepted text denotes six bytes. -/
theorem length_denotedBytes (h : Octets (groups mac)) : (denotedBytes mac).length = 6 :=
  (List.length_map _).trans h.length

/-! ## Exactness -/

/-- A text with both separators is accepted without a documented form. -/
theorem Mixed.not_parsedExactly (h : Mixed mac) : ¬ ParsedExactly mac := fun hexact =>
  h.not_documented (hexact.accepted.mp ⟨_, new_of_octets h.groups.1⟩)

/-- A text is parsed as documented exactly when it is not made of octets of which some are separated
by colons and some by dashes. -/
theorem parsedExactly_iff (s : String) : ParsedExactly s ↔ ¬ Mixed s := by
  constructor
  case mp => exact fun hexact hmixed => hmixed.not_parsedExactly hexact
  case mpr =>
    intro hmixed
    refine ⟨?_, fun mac hnew => ?_, fun mac hnew => ?_, fun t mac mac' hnew hnew' => ?_⟩
    · constructor
      case mp =>
        intro ⟨mac, hnew⟩
        exact (documented_or_mixed (new_eq_ok_iff.mp hnew).1).resolve_right hmixed
      case mpr => exact fun hdocumented => ⟨_, new_of_octets hdocumented.groups.1⟩
    · obtain ⟨hoctets, rfl⟩ := new_eq_ok_iff.mp hnew
      exact ⟨length_denotedBytes hoctets, rfl⟩
    · obtain ⟨hoctets, rfl⟩ := new_eq_ok_iff.mp hnew
      exact new_colonForm (length_denotedBytes hoctets)
    · obtain ⟨hoctets, rfl⟩ := new_eq_ok_iff.mp hnew
      obtain ⟨hoctets', rfl⟩ := new_eq_ok_iff.mp hnew'
      rw [mk.injEq]
      exact colonForm_inj (length_denotedBytes hoctets) (length_denotedBytes hoctets')

/-- A text with a dash among the colons is accepted. -/
theorem mixed_separators_accepted : ¬ ParsedExactly "00:1A-2B:3C:4D:5E" := by
  refine Mixed.not_parsedExactly ⟨[['0', '0'], ['1', 'A'], ['2', 'B'], ['3', 'C'], ['4', 'D'],
    ['5', 'E']], [':', '-', ':', ':', ':'], ⟨rfl, ?_⟩, rfl, by simp, by simp, by simp, ?_⟩
  · simp [IsOctet, Hex.isHexdigit]
  · decide +kernel

end MacAddress

end InfoVulcan
