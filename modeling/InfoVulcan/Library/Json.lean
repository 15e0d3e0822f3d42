import InfoVulcan.Library.Codec

/-!
# JSON formats of data types

A `JsonFormat` says how a value is written as JSON text and how it is read off the front of a
text. Formats are built from those of numbers, strings and booleans by the combinators that a
serialisation of records and enumerations needs (`list`, `tuple`, `object`, `variant`, `option`,
`conv`), each of which carries the proof that what was written is read back. `JsonFormat.codec`
turns a format into a `Codec`.
-/

namespace InfoVulcan

namespace Json

/-! ## Texts -/

/-- The digits of numbers. -/
def IsDigit (b : UInt8) : Prop :=
  48 ≤ b ∧ b ≤ 57

instance (b : UInt8) : Decidable (IsDigit b) :=
  inferInstanceAs (Decidable (_ ∧ _))

/-- A text before which a number ends. -/
def Ends (rest : Bytes) : Prop :=
  ∀ b ∈ rest.head?, ¬ IsDigit b

@[simp] theorem ends_nil : Ends [] := by
  simp [Ends]

theorem ends_cons {b : UInt8} {rest : Bytes} (h : ¬ IsDigit b) : Ends (b :: rest) := by
  simpa [Ends] using h

/-- Reads a fixed text. -/
def expect (text input : Bytes) : Option Bytes :=
  if text.isPrefixOf input then some (input.drop text.length) else none

@[simp] theorem expect_append (text rest : Bytes) : expect text (text ++ rest) = some rest := by
  simp [expect]

end Json

open Json

/-- A JSON format. No value starts with a closing bracket. -/
structure JsonFormat (α : Type) where
  render : α → Bytes
  parse : Bytes → Option (α × Bytes)
  parse_render : ∀ a rest, Ends rest → parse (render a ++ rest) = some (a, rest)
  opens : ∀ a, ∃ b text, render a = b :: text ∧ b ≠ 93

/-- The format of the rest of a record: what follows the separators, up to the closing bracket. -/
structure JsonFields (α : Type) where
  render : α → Bytes
  parse : Bytes → Option (α × Bytes)
  parse_render : ∀ a rest, parse (render a ++ rest) = some (a, rest)
  ends : ∀ a rest, Ends (render a ++ rest)

namespace JsonFormat

variable {α β : Type}

/-- A format as a serialisation format. -/
def codec (f : JsonFormat α) : Codec α where
  encode := f.render
  decode bytes :=
    match f.parse bytes with
    | some (a, []) => .ok a
    | some _ => .error "trailing characters"
    | none => .error "expected value"
  decode_encode a := by
    have h := f.parse_render a [] ends_nil
    rw [List.append_nil] at h
    simp [h]

/-- A type whose values are written as values of another. -/
def conv (f : JsonFormat α) (enc : β → α) (dec : α → Option β)
    (h : ∀ b, dec (enc b) = some b) : JsonFormat β where
  render b := f.render (enc b)
  parse input := (f.parse input).bind fun p => (dec p.1).map fun b => (b, p.2)
  parse_render b rest hrest := by simp [f.parse_render _ _ hrest, h]
  opens b := f.opens (enc b)

/-! ## Numbers -/

/-- The decimal digits of a number. -/
def digitBytes (n : Nat) : Bytes :=
  if n = 0 then [48] else (Nat.digits 10 n).reverse.map fun d => UInt8.ofNat (48 + d)

/-- The number a string of digits denotes. -/
def ofDigitBytes (digits : Bytes) : Nat :=
  Nat.ofDigits 10 (digits.reverse.map fun b => b.toNat - 48)

theorem isDigit_of_mem_digitBytes {n : Nat} {b : UInt8} (h : b ∈ digitBytes n) : IsDigit b := by
  rw [digitBytes] at h
  split at h
  · obtain rfl := List.mem_singleton.mp h
    decide
  · obtain ⟨d, hd, rfl⟩ := List.mem_map.mp h
    have hlt : d < 10 := Nat.digits_lt_base (by decide) (List.mem_reverse.mp hd)
    exact (by decide : ∀ d < 10, IsDigit (UInt8.ofNat (48 + d))) d hlt

theorem ofDigitBytes_digitBytes (n : Nat) : ofDigitBytes (digitBytes n) = n := by
  rw [digitBytes]
  split
  · next h =>
      subst h
      rfl
  · rw [ofDigitBytes, ← List.map_reverse, List.reverse_reverse, List.map_map]
    have hdigits : (Nat.digits 10 n).map
        ((fun b : UInt8 => b.toNat - 48) ∘ fun d => UInt8.ofNat (48 + d)) = Nat.digits 10 n := by
      refine (List.map_congr_left fun d hd => ?_).trans (List.map_id _)
      have hlt : d < 10 := Nat.digits_lt_base (by decide) hd
      exact (by decide : ∀ d < 10, (UInt8.ofNat (48 + d)).toNat - 48 = d) d hlt
    rw [hdigits, Nat.ofDigits_digits]

theorem digitBytes_eq_cons (n : Nat) :
    ∃ b text, digitBytes n = b :: text ∧ IsDigit b := by
  cases hdigits : digitBytes n with
  | nil =>
      rw [digitBytes] at hdigits
      split at hdigits <;> simp_all [Nat.digits_eq_nil_iff_eq_zero]
  | cons b text => exact ⟨b, text, rfl, isDigit_of_mem_digitBytes (hdigits ▸ List.mem_cons_self)⟩

/-- Reads the digits at the front of a text. -/
def readDigits (input : Bytes) : Option (Nat × Bytes) :=
  match input.takeWhile (IsDigit ·) with
  | [] => none
  | digits => some (ofDigitBytes digits, input.dropWhile (IsDigit ·))

theorem readDigits_append {digits rest : Bytes} (hall : ∀ b ∈ digits, IsDigit b)
    (hne : digits ≠ []) (hrest : Ends rest) :
    readDigits (digits ++ rest) = some (ofDigitBytes digits, rest) := by
  have hall' : ∀ b ∈ digits, decide (IsDigit b) = true := fun b hb => decide_eq_true (hall b hb)
  have htake : rest.takeWhile (IsDigit ·) = [] := by
    cases rest with
    | nil => rfl
    | cons b rest => simp [hrest b (by simp)]
  have hdrop : rest.dropWhile (IsDigit ·) = rest := by
    cases rest with
    | nil => rfl
    | cons b rest => simp [hrest b (by simp)]
  rw [readDigits, List.takeWhile_append_of_pos hall', List.dropWhile_append_of_pos hall', htake,
    hdrop, List.append_nil]
  cases digits with
  | nil => exact absurd rfl hne
  | cons b digits => rfl

/-- Natural numbers. -/
def nat : JsonFormat Nat where
  render := digitBytes
  parse := readDigits
  parse_render n rest hrest := by
    obtain ⟨b, text, hcons, -⟩ := digitBytes_eq_cons n
    rw [readDigits_append (fun _ => isDigit_of_mem_digitBytes) (by simp [hcons]) hrest,
      ofDigitBytes_digitBytes]
  opens n := by
    obtain ⟨b, text, hcons, hdigit⟩ := digitBytes_eq_cons n
    refine ⟨b, text, hcons, ?_⟩
    rintro rfl
    exact absurd hdigit (by decide)

/-- Numbers with leading zeros, written with at least `width` digits. -/
def padded (width : Nat) : JsonFormat Nat where
  render n := List.replicate (width - (digitBytes n).length) 48 ++ digitBytes n
  parse := readDigits
  parse_render n rest hrest := by
    obtain ⟨b, text, hcons, -⟩ := digitBytes_eq_cons n
    have hall : ∀ b ∈ List.replicate (width - (digitBytes n).length) 48 ++ digitBytes n,
        IsDigit b := by
      intro b hb
      rcases List.mem_append.mp hb with hb | hb
      · obtain rfl := List.eq_of_mem_replicate hb
        decide
      · exact isDigit_of_mem_digitBytes hb
    have hvalue : ofDigitBytes (List.replicate (width - (digitBytes n).length) 48 ++ digitBytes n) =
        ofDigitBytes (digitBytes n) := by
      simp [ofDigitBytes, Nat.ofDigits_append_replicate_zero]
    rw [readDigits_append hall (by simp [hcons]) hrest, hvalue, ofDigitBytes_digitBytes]
  opens n := by
    obtain ⟨b, text, hcons, hdigit⟩ := digitBytes_eq_cons n
    cases hwidth : width - (digitBytes n).length with
    | zero =>
        refine ⟨b, text, by simp [hcons], ?_⟩
        rintro rfl
        exact absurd hdigit (by decide)
    | succ k => exact ⟨48, _, rfl, by decide⟩

/-- Integers. -/
def int : JsonFormat Int where
  render z := if z < 0 then 45 :: nat.render z.natAbs else nat.render z.natAbs
  parse
    | 45 :: input => (nat.parse input).map fun p => (-(p.1 : Int), p.2)
    | input => (nat.parse input).map fun p => ((p.1 : Int), p.2)
  parse_render z rest hrest := by
    by_cases hneg : z < 0
    · simp only [if_pos hneg, List.cons_append, nat.parse_render _ _ hrest, Option.map_some]
      rw [Int.ofNat_natAbs_of_nonpos (by omega), Int.neg_neg]
    · obtain ⟨b, text, hcons, hdigit⟩ := digitBytes_eq_cons z.natAbs
      have hne : b ≠ 45 := by
        rintro rfl
        exact absurd hdigit (by decide)
      have hparse := nat.parse_render z.natAbs rest hrest
      have hrender : nat.render z.natAbs = b :: text := hcons
      rw [hrender, List.cons_append] at hparse
      rw [if_neg hneg, hrender, List.cons_append]
      split
      · next heq => exact absurd (List.cons.inj heq).1 hne
      · rw [hparse, Option.map_some, Int.natAbs_of_nonneg (by omega)]
  opens z := by
    split
    · exact ⟨45, _, rfl, by decide⟩
    · exact nat.opens _

/-- 64-bit words. -/
def u64 : JsonFormat UInt64 :=
  nat.conv UInt64.toNat (fun n => if n < 2 ^ 64 then some (UInt64.ofNat n) else none) fun x => by
    simp [x.toNat_lt]

/-- 32-bit words. -/
def u32 : JsonFormat UInt32 :=
  nat.conv UInt32.toNat (fun n => if n < 2 ^ 32 then some (UInt32.ofNat n) else none) fun x => by
    simp [x.toNat_lt]

/-- Bytes. -/
def u8 : JsonFormat UInt8 :=
  nat.conv UInt8.toNat (fun n => if n < 2 ^ 8 then some (UInt8.ofNat n) else none) fun x => by
    simp [x.toNat_lt]

/-- Signed 64-bit words. -/
def i64 : JsonFormat Int64 :=
  int.conv Int64.toInt
    (fun z => if -2 ^ 63 ≤ z ∧ z < 2 ^ 63 then some (Int64.ofInt z) else none) fun x => by
      rw [if_pos ⟨x.le_toInt, x.toInt_lt⟩, Int64.ofInt_toInt]

/-! ## Fixed texts and alternatives -/

/-- A fixed text that stands for one value. -/
def constant (b : UInt8) (text : Bytes) (h : b ≠ 93) : JsonFormat Unit where
  render _ := b :: text
  parse input := (expect (b :: text) input).map fun rest => ((), rest)
  parse_render _ rest _ := by rw [expect_append, Option.map_some]
  opens _ := ⟨b, text, rfl, h⟩

/-- No string is mistaken for the end of a list. -/
theorem quote_ne_close : (34 : UInt8) ≠ 93 := by decide

/-- No object is mistaken for the end of a list. -/
theorem brace_ne_close : (123 : UInt8) ≠ 93 := by decide

/-- A fixed text starts with its first byte. -/
theorem beq_of_render_constant {b : UInt8} {text : Bytes} (h : b ≠ 93) (a : Unit) (c : UInt8)
    (rest : Bytes) (hrender : (constant b text h).render a = c :: rest) : (c == b) = true := by
  simpa using (List.cons.inj hrender).1.symm

/-- Values of two types that are told apart by the first byte. -/
def either (p : UInt8 → Bool) (f : JsonFormat α) (g : JsonFormat β)
    (hf : ∀ a b text, f.render a = b :: text → p b = true)
    (hg : ∀ a b text, g.render a = b :: text → p b = false) : JsonFormat (α ⊕ β) where
  render := Sum.elim f.render g.render
  parse input :=
    if input.head?.any p then (f.parse input).map fun r => (.inl r.1, r.2)
    else (g.parse input).map fun r => (.inr r.1, r.2)
  parse_render v rest hrest := by
    cases v with
    | inl a =>
        obtain ⟨b, text, hrender, -⟩ := f.opens a
        have hhead : ((f.render a ++ rest).head?).any p = true := by
          rw [hrender]
          exact hf a b text hrender
        simp only [Sum.elim_inl, hhead, if_true, f.parse_render a rest hrest, Option.map_some]
    | inr a =>
        obtain ⟨b, text, hrender, -⟩ := g.opens a
        have hhead : ((g.render a ++ rest).head?).any p = false := by
          rw [hrender]
          exact hg a b text hrender
        simp only [Sum.elim_inr, hhead, Bool.false_eq_true, if_false, g.parse_render a rest hrest,
          Option.map_some]
  opens
    | .inl a => f.opens a
    | .inr a => g.opens a

/-- Optional values. An absent one is `null`, which no other value may start like. -/
def option (f : JsonFormat α) (h : ∀ a b text, f.render a = b :: text → (b == 110) = false) :
    JsonFormat (Option α) :=
  (either (· == 110) (constant 110 [117, 108, 108] (by decide)) f
    (beq_of_render_constant _) h).conv
    (fun o => o.elim (.inl ()) .inr) (Sum.elim (fun _ => some none) fun a => some (some a))
    fun o => by cases o <;> rfl

/-- Truth values. -/
def bool : JsonFormat Bool :=
  (either (· == 116) (constant 116 [114, 117, 101] (by decide))
    (constant 102 [97, 108, 115, 101] (by decide))
    (fun _ b text hb => by simpa using (List.cons.inj hb).1.symm)
    fun _ b text hb => by
      obtain rfl := (List.cons.inj hb).1
      decide).conv
    (fun b => if b then .inl () else .inr ()) (Sum.elim (fun _ => some true) fun _ => some false)
    fun b => by cases b <;> rfl

/-! ## Strings -/

/-- A lower-case hexadecimal digit. -/
def hexByte (n : Nat) : UInt8 :=
  if n < 10 then UInt8.ofNat (48 + n) else UInt8.ofNat (87 + n)

/-- The value of a lower-case hexadecimal digit. -/
def hexValue (b : UInt8) : Nat :=
  if b.toNat < 58 then b.toNat - 48 else b.toNat - 87

/-- The escape letters with the bytes they stand for. -/
def escapes : List (UInt8 × UInt8) :=
  [(34, 34), (92, 92), (8, 98), (9, 116), (10, 110), (12, 102), (13, 114)]

/-- A byte of a string as it is written. -/
def escapeByte (b : UInt8) : Bytes :=
  match escapes.lookup b with
  | some letter => [92, letter]
  | none => if b < 32 then [92, 117, 48, 48, hexByte (b.toNat / 16), hexByte (b.toNat % 16)]
      else [b]

/-- Reads the bytes of a string up to the closing quote. -/
def readString : Bytes → Option (Bytes × Bytes)
  | 34 :: rest => some ([], rest)
  | 92 :: 117 :: 48 :: 48 :: high :: low :: rest =>
      (readString rest).map fun p =>
        (UInt8.ofNat (16 * hexValue high + hexValue low) :: p.1, p.2)
  | 92 :: letter :: rest =>
      match escapes.find? (·.2 = letter) with
      | some e => (readString rest).map fun p => (e.1 :: p.1, p.2)
      | none => none
  | b :: rest => (readString rest).map fun p => (b :: p.1, p.2)
  | [] => none

/-- Other bytes are written as they are. -/
theorem escapeByte_plain {b : UInt8} (h : ¬ b < 32) (hquote : b ≠ 34) (hslash : b ≠ 92) :
    escapeByte b = [b] := by
  have hcontrol : ∀ c : UInt8, c < 32 → b ≠ c := by
    rintro c hc rfl
    exact h hc
  have hlookup : escapes.lookup b = none := by
    simp [escapes, List.lookup, beq_eq_false_iff_ne.mpr, hquote, hslash, hcontrol 8 (by decide),
      hcontrol 9 (by decide), hcontrol 10 (by decide), hcontrol 12 (by decide),
      hcontrol 13 (by decide)]
  rw [escapeByte, hlookup]
  exact if_neg h

/-- A written byte is read back. -/
theorem readString_escapeByte (b : UInt8) (rest : Bytes) :
    readString (escapeByte b ++ rest) = (readString rest).map fun p => (b :: p.1, p.2) := by
  by_cases hcontrol : b < 32
  · obtain ⟨n, hn, rfl⟩ : ∃ n < 32, b = UInt8.ofNat n :=
      ⟨b.toNat, by simpa [UInt8.lt_iff_toNat_lt] using hcontrol, by simp⟩
    interval_cases n <;> rfl
  by_cases hquote : b = 34
  · subst hquote
    rfl
  by_cases hslash : b = 92
  · subst hslash
    rfl
  rw [escapeByte_plain hcontrol hquote hslash]
  exact readString.eq_4 b rest hquote (fun _ _ _ h _ => hslash h) fun _ _ h _ => hslash h

/-- A written string is read back. -/
theorem readString_escape (bytes rest : Bytes) :
    readString (bytes.flatMap escapeByte ++ 34 :: rest) = some (bytes, rest) := by
  induction bytes with
  | nil => rfl
  | cons b bytes ih =>
      rw [List.flatMap_cons, List.append_assoc, readString_escapeByte, ih, Option.map_some]

/-- The bytes of a quoted string. -/
def quote (bytes : Bytes) : Bytes :=
  34 :: (bytes.flatMap escapeByte ++ [34])

/-- Strings. -/
def string : JsonFormat String where
  render s := quote (Bytes.ofText s)
  parse
    | 34 :: input => (readString input).bind fun p =>
        (String.fromUTF8? ⟨p.1.toArray⟩).map fun s => (s, p.2)
    | _ => none
  parse_render s rest _ := by
    rw [quote, List.cons_append, List.append_assoc, List.singleton_append]
    simp only [readString_escape, Option.bind_some, Bytes.ofText, Array.toArray_toList]
    simp [String.fromUTF8?, s.isValidUTF8]
    rfl
  opens s := ⟨34, _, rfl, by decide⟩

/-- Enumerations, written as the names of their values. -/
def enumeration (name : α → String) (find : String → Option α)
    (h : ∀ a, find (name a) = some a) : JsonFormat α :=
  string.conv name find h

/-! ## Lists -/

/-- The elements after the first, up to the closing bracket `c`. -/
def renderTail (c : UInt8) (f : JsonFormat α) : List α → Bytes
  | [] => [c]
  | a :: as => 44 :: (f.render a ++ renderTail c f as)

/-- Reads at most so many further elements, and the closing bracket. -/
def parseTail (c : UInt8) (f : JsonFormat α) : Nat → Bytes → Option (List α × Bytes)
  | _, [] => none
  | 0, b :: rest => if b = c then some ([], rest) else none
  | fuel + 1, b :: rest =>
      if b = c then some ([], rest)
      else if b = 44 then (f.parse rest).bind fun p =>
        (parseTail c f fuel p.2).map fun q => (p.1 :: q.1, q.2)
      else none

section Elements

variable {c : UInt8} (f : JsonFormat α)

theorem ends_renderTail (hc : ¬ IsDigit c) (as : List α) (rest : Bytes) :
    Ends (f.renderTail c as ++ rest) := by
  cases as with
  | nil => exact ends_cons hc
  | cons a as => exact ends_cons (by decide)

theorem length_renderTail (as : List α) : as.length < (f.renderTail c as).length := by
  induction as with
  | nil => simp [renderTail]
  | cons a as ih =>
      simp only [renderTail, List.length_cons, List.length_append]
      omega

theorem parseTail_renderTail (hc : ¬ IsDigit c) (hcomma : 44 ≠ c) (as : List α) (rest : Bytes)
    {fuel : Nat} (h : as.length ≤ fuel) :
    f.parseTail c fuel (f.renderTail c as ++ rest) = some (as, rest) := by
  induction as generalizing fuel with
  | nil => cases fuel <;> simp [renderTail, parseTail]
  | cons a as ih =>
      cases fuel with
      | zero => simp at h
      | succ fuel =>
          rw [renderTail, List.cons_append, List.append_assoc, parseTail, if_neg hcomma,
            if_pos rfl, f.parse_render _ _ (ends_renderTail f hc as rest), Option.bind_some,
            ih (by simpa using h), Option.map_some]

end Elements

/-- Elements between the brackets `o` and `c`. -/
def elements (o c : UInt8) (f : JsonFormat α) (ho : o ≠ 93) (hc : ¬ IsDigit c) (hcomma : 44 ≠ c)
    (hf : ∀ a b text, f.render a = b :: text → b ≠ c) : JsonFormat (List α) where
  render
    | [] => [o, c]
    | a :: as => o :: (f.render a ++ f.renderTail c as)
  parse input := (expect [o] input).bind fun input =>
    if input.head? = some c then some ([], input.tail)
    else (f.parse input).bind fun p =>
      (f.parseTail c input.length p.2).map fun q => (p.1 :: q.1, q.2)
  parse_render as rest _ := by
    cases as with
    | nil => simp [expect]
    | cons a as =>
        obtain ⟨b, text, hrender, -⟩ := f.opens a
        let input := f.render a ++ (f.renderTail c as ++ rest)
        have hopen : expect [o] (o :: input) = some input := expect_append [o] input
        have hparse : f.parse input = some (a, f.renderTail c as ++ rest) :=
          f.parse_render a _ (ends_renderTail f hc as rest)
        have hfuel : as.length ≤ input.length := by
          have := f.length_renderTail as (c := c)
          simp only [input, List.length_append]
          omega
        have hhead : input.head? ≠ some c := by
          simpa [input, hrender] using hf a b text hrender
        simp only [List.cons_append, List.append_assoc]
        rw [hopen, Option.bind_some, if_neg hhead, hparse, Option.bind_some,
          f.parseTail_renderTail hc hcomma as rest hfuel, Option.map_some]
  opens
    | [] => ⟨o, _, rfl, ho⟩
    | a :: as => ⟨o, _, rfl, ho⟩

/-- Lists. -/
def list (f : JsonFormat α) : JsonFormat (List α) :=
  elements 91 93 f (by decide) (by decide) (by decide) fun a b text h => by
    obtain ⟨_, _, hrender, hb⟩ := f.opens a
    rw [h] at hrender
    rwa [(List.cons.inj hrender).1]

/-! ## Records -/

/-- The end of a record: a fixed text. -/
def close (b : UInt8) (text : Bytes) (h : ¬ IsDigit b) : JsonFields Unit where
  render _ := b :: text
  parse input := (expect (b :: text) input).map fun rest => ((), rest)
  parse_render _ rest := by rw [expect_append, Option.map_some]
  ends _ _ := ends_cons h

/-- The next component of a record, after a fixed text. -/
def next (b : UInt8) (text : Bytes) (h : ¬ IsDigit b) (f : JsonFormat α) (fs : JsonFields β) :
    JsonFields (α × β) where
  render v := b :: (text ++ (f.render v.1 ++ fs.render v.2))
  parse input := (expect (b :: text) input).bind fun input =>
    (f.parse input).bind fun p => (fs.parse p.2).map fun q => ((p.1, q.1), q.2)
  parse_render v rest := by
    rw [← List.cons_append, List.append_assoc, expect_append, Option.bind_some,
      List.append_assoc, f.parse_render _ _ (fs.ends _ _), Option.bind_some, fs.parse_render,
      Option.map_some]
  ends _ _ := ends_cons h

/-- A record that starts with a fixed text. -/
def first (b : UInt8) (text : Bytes) (h : b ≠ 93) (f : JsonFormat α) (fs : JsonFields β) :
    JsonFormat (α × β) where
  render v := b :: (text ++ (f.render v.1 ++ fs.render v.2))
  parse input := (expect (b :: text) input).bind fun input =>
    (f.parse input).bind fun p => (fs.parse p.2).map fun q => ((p.1, q.1), q.2)
  parse_render v rest _ := by
    rw [← List.cons_append, List.append_assoc, expect_append, Option.bind_some,
      List.append_assoc, f.parse_render _ _ (fs.ends _ _), Option.bind_some, fs.parse_render,
      Option.map_some]
  opens _ := ⟨b, _, rfl, h⟩

/-- A key with its colon. -/
def key (name : String) : Bytes :=
  quote (Bytes.ofText name) ++ [58]

/-- Another field of an object. -/
def field (name : String) (f : JsonFormat α) (fs : JsonFields β) : JsonFields (α × β) :=
  next 44 (key name) (by decide) f fs

/-- The end of an object. -/
def endObject : JsonFields Unit :=
  close 125 [] (by decide)

/-- An object, by its first field and the others. -/
def object (name : String) (f : JsonFormat α) (fs : JsonFields β) : JsonFormat (α × β) :=
  first 123 (key name) brace_ne_close f fs

/-- Another component of a tuple. -/
def component (f : JsonFormat α) (fs : JsonFields β) : JsonFields (α × β) :=
  next 44 [] (by decide) f fs

/-- The end of a tuple. -/
def endTuple : JsonFields Unit :=
  close 93 [] (by decide)

/-- A tuple, by its first component and the others. -/
def tuple (f : JsonFormat α) (fs : JsonFields β) : JsonFormat (α × β) :=
  first 91 [] (by decide) f fs

/-! ## Maps -/

/-- A value between quotes. -/
def quoted (f : JsonFormat α) : JsonFormat α where
  render a := 34 :: (f.render a ++ [34])
  parse input := (expect [34] input).bind fun input => (f.parse input).bind fun p =>
    (expect [34] p.2).map fun rest => (p.1, rest)
  parse_render a rest _ := by
    have hopen : expect [34] (34 :: (f.render a ++ 34 :: rest)) = some (f.render a ++ 34 :: rest) :=
      expect_append [34] _
    have hclose : expect [34] (34 :: rest) = some rest := expect_append [34] rest
    simp only [List.cons_append, List.append_assoc, List.nil_append]
    rw [hopen, Option.bind_some, f.parse_render _ _ (ends_cons (by decide)), Option.bind_some,
      hclose, Option.map_some]
  opens a := ⟨34, _, rfl, by decide⟩

/-- An entry of an object whose keys are data. -/
def entry (k : JsonFormat α) (f : JsonFormat β) : JsonFormat (α × β) where
  render v := k.render v.1 ++ 58 :: f.render v.2
  parse input := (k.parse input).bind fun p => (expect [58] p.2).bind fun input =>
    (f.parse input).map fun q => ((p.1, q.1), q.2)
  parse_render v rest hrest := by
    have hcolon : expect [58] (58 :: (f.render v.2 ++ rest)) = some (f.render v.2 ++ rest) :=
      expect_append [58] _
    rw [List.append_assoc, List.cons_append, k.parse_render _ _ (ends_cons (by decide)),
      Option.bind_some, hcolon, Option.bind_some, f.parse_render _ _ hrest, Option.map_some]
  opens v := by
    obtain ⟨b, text, hrender, hb⟩ := k.opens v.1
    exact ⟨b, _, by rw [hrender]; rfl, hb⟩

/-- An object whose keys are data in quotes, by its entries. -/
def map (k : JsonFormat α) (f : JsonFormat β) : JsonFormat (List (α × β)) :=
  elements 123 125 (entry (quoted k) f) (by decide) (by decide) (by decide) fun v b text hb => by
    obtain rfl := (List.cons.inj hb).1
    decide

/-! ## Variants -/

/-- A value of an enumeration with data, as an object whose only key is the name of the
variant. -/
def variant {τ : Type} {P : τ → Type} (name : τ → String) (find : String → Option τ)
    (h : ∀ t, find (name t) = some t) (payload : (t : τ) → JsonFormat (P t)) :
    JsonFormat (Σ t, P t) where
  render v := 123 :: (string.render (name v.1) ++ 58 :: ((payload v.1).render v.2 ++ [125]))
  parse
    | 123 :: input => (string.parse input).bind fun p => (find p.1).bind fun t =>
        (expect [58] p.2).bind fun input => ((payload t).parse input).bind fun q =>
          (expect [125] q.2).map fun rest => (⟨t, q.1⟩, rest)
    | _ => none
  parse_render v rest _ := by
    let value := (payload v.1).render v.2 ++ 125 :: rest
    have hname := string.parse_render (name v.1) (58 :: value) (ends_cons (by decide))
    have hvalue := (payload v.1).parse_render v.2 (125 :: rest) (ends_cons (by decide))
    have hcolon : expect [58] (58 :: value) = some value := expect_append [58] value
    have hclose : expect [125] (125 :: rest) = some rest := expect_append [125] rest
    simp only [List.cons_append, List.append_assoc, List.nil_append]
    rw [hname, Option.bind_some, h, Option.bind_some, hcolon, Option.bind_some, hvalue,
      Option.bind_some, hclose, Option.map_some]
  opens v := ⟨123, _, rfl, by decide⟩

end JsonFormat

end InfoVulcan
