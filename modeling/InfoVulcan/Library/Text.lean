import InfoVulcan.Library.Separated

/-!
# Texts

A text is split at a character into parts, joined from parts with a character between them, and
trimmed at both ends. Splitting and joining are inverse to each other (`join_split`, `split_join`),
and a text is what trimming leaves of it between the white space that trimming removes
(`exists_trim`, `trim_between`).
-/

namespace InfoVulcan.Text

/-! ## Parts -/

variable {sep : Char} {s part : String} {parts : List String}

/-- The parts of a text between the occurrences of a character. -/
def split (sep : Char) (s : String) : List String :=
  (s.toList.splitOn sep).map String.ofList

/-- The parts with a character between them. -/
def join (sep : Char) (parts : List String) : String :=
  (String.singleton sep).intercalate parts

theorem toList_join : (join sep parts).toList = [sep].intercalate (parts.map String.toList) := by
  simp [join]

theorem join_cons (part : String) (h : parts ≠ []) :
    join sep (part :: parts) = part ++ String.singleton sep ++ join sep parts := by
  rw [join, String.intercalate_cons_of_ne_nil h, join]

/-- There is a part. -/
theorem split_ne_nil (sep : Char) (s : String) : split sep s ≠ [] := by
  simp [split]

/-- A text is its parts joined. -/
theorem join_split (sep : Char) (s : String) : join sep (split sep s) = s := by
  rw [← String.toList_inj, toList_join]
  simp [split, Function.comp_def]

/-- Parts without the character in them are the parts of what they are joined to. -/
theorem split_join (hparts : ∀ part ∈ parts, sep ∉ part.toList) (hne : parts ≠ []) :
    split sep (join sep parts) = parts := by
  rw [split, toList_join, List.splitOn_intercalate]
  · simp [Function.comp_def]
  · simpa using hparts
  · simpa using hne

/-- No part has the character in it. -/
theorem not_mem_of_mem_split (h : part ∈ split sep s) : sep ∉ part.toList := by
  obtain ⟨group, hgroup, rfl⟩ := List.mem_map.mp h
  rw [String.toList_ofList]
  intro hsep
  simpa using Separated.eq_false_of_mem_splitOnP hgroup hsep

/-- The first part ends at the first occurrence of the character. -/
theorem split_append (h : sep ∉ part.toList) :
    split sep (part ++ String.singleton sep ++ s) = part :: split sep s := by
  simp [split, List.splitOn_append_cons_self_of_not_mem h]

/-- What is put in front of a text is put in front of its first part. -/
theorem split_prefix {front : String} (h : sep ∉ front.toList) (s : String) :
    ∃ part parts,
      split sep s = part :: parts ∧ split sep (front ++ s) = (front ++ part) :: parts := by
  obtain ⟨part, parts, hs⟩ := List.exists_cons_of_ne_nil (split_ne_nil sep s)
  -- The first part takes what is put in front, and the separators stay where they are.
  have hjoin : front ++ s = join sep ((front ++ part) :: parts) := by
    rw [← join_split sep s, hs]
    cases parts with
    | nil => simp [join]
    | cons next parts =>
        rw [join_cons _ (List.cons_ne_nil _ _), join_cons _ (List.cons_ne_nil _ _)]
        simp only [String.append_assoc]
  refine ⟨part, parts, hs, ?_⟩
  rw [hjoin, split_join _ (List.cons_ne_nil _ _)]
  intro item hitem
  rcases List.mem_cons.mp hitem with rfl | hrest
  · have hpart : sep ∉ part.toList := not_mem_of_mem_split (hs ▸ List.mem_cons_self)
    simp [h, hpart]
  · exact not_mem_of_mem_split (hs ▸ List.mem_cons_of_mem _ hrest)

/-! ## Trimming -/

variable {α : Type} {p : α → Bool} {l front back : List α}

/-- What is left of a list when the elements with a property are removed at both ends. -/
def trimMatches (p : α → Bool) (l : List α) : List α :=
  (l.dropWhile p).rdropWhile p

/-- Trimming removes elements with the property at both ends. -/
theorem exists_trimMatches (p : α → Bool) (l : List α) :
    ∃ front back, (∀ a ∈ front, p a = true) ∧ (∀ a ∈ back, p a = true) ∧
      l = front ++ trimMatches p l ++ back := by
  refine ⟨l.takeWhile p, (l.dropWhile p).rtakeWhile p, fun a => List.mem_takeWhile_imp,
    fun a => List.mem_rtakeWhile_imp, ?_⟩
  rw [trimMatches, List.append_assoc, List.rdropWhile_append_rtakeWhile,
    List.takeWhile_append_dropWhile]

theorem last_rdropWhile (p : α → Bool) (l : List α) :
    ∀ a ∈ (l.rdropWhile p).getLast?, p a = false := by
  intro a ha
  obtain ⟨hne, rfl⟩ := List.mem_getLast?_eq_getLast ha
  exact Bool.eq_false_iff.mpr (List.rdropWhile_last_not _ _ hne)

/-- What is left does not end in an element with the property. -/
theorem last_trimMatches (p : α → Bool) (l : List α) :
    ∀ a ∈ (trimMatches p l).getLast?, p a = false :=
  last_rdropWhile p _

/-- A list that neither begins nor ends in an element with the property is what is left of it
between elements with the property. -/
theorem trimMatches_between (hfront : ∀ a ∈ front, p a = true) (hback : ∀ a ∈ back, p a = true)
    (hhead : ∀ a ∈ l.head?, p a = false) (hlast : ∀ a ∈ l.getLast?, p a = false) :
    trimMatches p (front ++ l ++ back) = l := by
  rw [trimMatches, List.append_assoc, List.dropWhile_append_of_pos hfront]
  cases l with
  | nil => rw [List.nil_append, List.dropWhile_eq_nil_iff.mpr hback, List.rdropWhile_nil]
  | cons a l =>
      have ha : ¬ p a = true := Bool.eq_false_iff.mp (hhead a rfl)
      have hreverse : ∀ a ∈ back.reverse, p a = true := fun a h => hback a (List.mem_reverse.mp h)
      rw [List.cons_append, List.dropWhile_cons_of_neg ha, ← List.cons_append, List.rdropWhile,
        List.reverse_append, List.dropWhile_append_of_pos hreverse, ← List.rdropWhile]
      refine List.rdropWhile_eq_self_iff.mpr fun hne => Bool.eq_false_iff.mp ?_
      exact hlast _ (List.getLast?_eq_some_getLast hne)

/-! ## White space -/

/-- The characters that trimming removes: those Unicode counts as white space. -/
def isWhiteSpace (c : Char) : Bool :=
  (9 ≤ c.toNat && c.toNat ≤ 13) || c.toNat == 0x20 || c.toNat == 0x85 || c.toNat == 0xA0 ||
    c.toNat == 0x1680 || (0x2000 ≤ c.toNat && c.toNat ≤ 0x200A) || c.toNat == 0x2028 ||
    c.toNat == 0x2029 || c.toNat == 0x202F || c.toNat == 0x205F || c.toNat == 0x3000

/-- The text without white space at its ends. -/
def trim (s : String) : String :=
  String.ofList ((s.toList.dropWhile isWhiteSpace).reverse.dropWhile isWhiteSpace).reverse

theorem isWhiteSpace_of_isDigit {c : Char} (h : c.isDigit) : isWhiteSpace c = false := by
  have hrange : 48 ≤ c.toNat ∧ c.toNat ≤ 57 := Char.isDigit_iff_toNat.mp h
  simp only [isWhiteSpace, Bool.or_eq_false_iff, Bool.and_eq_false_iff, decide_eq_false_iff_not,
    beq_eq_false_iff_ne]
  omega

/-- A text of white space. -/
def WhiteSpace (s : String) : Prop :=
  ∀ c ∈ s.toList, isWhiteSpace c = true

theorem whiteSpace_empty : WhiteSpace "" := by
  simp [WhiteSpace]

theorem toList_trim (s : String) : (trim s).toList = trimMatches isWhiteSpace s.toList := by
  rw [trim, String.toList_ofList, trimMatches, List.rdropWhile]

/-- Trimming removes white space at both ends. -/
theorem exists_trim (s : String) :
    ∃ front back, WhiteSpace front ∧ WhiteSpace back ∧ s = front ++ trim s ++ back := by
  obtain ⟨front, back, hfront, hback, hs⟩ := exists_trimMatches isWhiteSpace s.toList
  refine ⟨String.ofList front, String.ofList back, ?_, ?_, ?_⟩
  · simpa [WhiteSpace] using hfront
  · simpa [WhiteSpace] using hback
  · rw [← String.toList_inj, String.toList_append, String.toList_append, toList_trim,
      String.toList_ofList, String.toList_ofList]
    exact hs

/-- A text without white space at its ends is what trimming leaves. -/
theorem trim_between {front s back : String} (hfront : WhiteSpace front) (hback : WhiteSpace back)
    (hhead : ∀ c ∈ s.toList.head?, isWhiteSpace c = false)
    (hlast : ∀ c ∈ s.toList.getLast?, isWhiteSpace c = false) : trim (front ++ s ++ back) = s := by
  rw [← String.toList_inj, toList_trim, String.toList_append, String.toList_append]
  exact trimMatches_between hfront hback hhead hlast

/-- A text without white space is left as it is. -/
theorem trim_eq_self {s : String} (h : ∀ c ∈ s.toList, isWhiteSpace c = false) : trim s = s := by
  have htrim := trim_between whiteSpace_empty whiteSpace_empty
    (fun c hc => h c (List.mem_of_mem_head? hc)) fun c hc => h c (List.mem_of_getLast? hc)
  rwa [String.empty_append, String.append_empty] at htrim

end InfoVulcan.Text
