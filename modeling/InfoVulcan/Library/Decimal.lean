import Mathlib

/-!
# Numbers in decimal

How texts are parsed as machine integers: decimal digits, at least one, after an optional sign, and
nothing else. A number that does not fit is not parsed. A number that is written in decimal is
parsed as itself (`parseU64_toString`, `parseI32_toString`, `parseI64_toString`).
-/

namespace InfoVulcan.Decimal

/-- The number that decimal digits stand for. There has to be one digit at least. -/
def parseDigits (digits : List Char) : Option Nat :=
  if digits ≠ [] ∧ digits.all Char.isDigit then
    some (digits.foldl (fun n digit => 10 * n + (digit.toNat - '0'.toNat)) 0)
  else none

/-- An integer as a 32-bit integer, if it is one. -/
def checkedI32 (n : Int) : Option Int32 :=
  if -2 ^ 31 ≤ n ∧ n < 2 ^ 31 then some (Int32.ofInt n) else none

/-- An integer as a 64-bit integer, if it is one. -/
def checkedI64 (n : Int) : Option Int64 :=
  if -2 ^ 63 ≤ n ∧ n < 2 ^ 63 then some (Int64.ofInt n) else none

/-- A number as an unsigned 64-bit integer, if it is one. -/
def checkedU64 (n : Nat) : Option UInt64 :=
  if n < 2 ^ 64 then some (UInt64.ofNat n) else none

/-- Parses an integer in decimal, with or without a sign, if it passes a check. -/
def parseSigned {α : Type} (checked : Int → Option α) (s : String) : Option α :=
  match s.toList with
  | '-' :: digits => (parseDigits digits).bind fun n => checked (-n)
  | '+' :: digits => (parseDigits digits).bind fun n => checked n
  | digits => (parseDigits digits).bind fun n => checked n

/-- Parses a 32-bit integer in decimal, with or without a sign. -/
def parseI32 (s : String) : Option Int32 :=
  parseSigned checkedI32 s

/-- Parses a 64-bit integer in decimal, with or without a sign. -/
def parseI64 (s : String) : Option Int64 :=
  match s.toList with
  | '-' :: digits => (parseDigits digits).bind fun n => checkedI64 (-n)
  | '+' :: digits => (parseDigits digits).bind fun n => checkedI64 n
  | digits => (parseDigits digits).bind fun n => checkedI64 n

/-- Parses an unsigned 64-bit integer in decimal, with or without a plus sign. -/
def parseU64 (s : String) : Option UInt64 :=
  match s.toList with
  | '+' :: digits => (parseDigits digits).bind checkedU64
  | digits => (parseDigits digits).bind checkedU64

/-! ## What is parsed -/

/-- The digits of a number stand for it. -/
theorem parseDigits_toDigits (n : Nat) : parseDigits (Nat.toDigits 10 n) = some n := by
  have hdigits : (Nat.toDigits 10 n).all Char.isDigit :=
    List.all_eq_true.mpr fun c hc => Nat.isDigit_of_mem_toDigits (by decide) (by decide) hc
  rw [parseDigits, if_pos ⟨Nat.toDigits_ne_nil, hdigits⟩]
  exact congrArg some Nat.ofDigitChars_ten_toDigits

theorem checkedU64_toNat (n : UInt64) : checkedU64 n.toNat = some n := by
  rw [checkedU64, if_pos n.toNat_lt, UInt64.ofNat_toNat]

/-- A number is parsed from its decimal form. -/
theorem parseU64_toString (n : UInt64) : parseU64 (toString n) = some n := by
  have htext : (toString n).toList = Nat.toDigits 10 n.toNat := Nat.toList_repr
  have hplus : '+' ∉ Nat.toDigits 10 n.toNat := fun h =>
    absurd (Nat.isDigit_of_mem_toDigits (by decide) (by decide) h) (by decide)
  rw [parseU64, htext]
  split
  case h_1 digits hdigits => exact absurd (hdigits ▸ List.mem_cons_self) hplus
  case h_2 => rw [parseDigits_toDigits, Option.bind_some, checkedU64_toNat]

/-- How an integer is written. -/
theorem toList_toString_int (n : Int) :
    (toString n).toList =
      if n < 0 then '-' :: Nat.toDigits 10 n.natAbs else Nat.toDigits 10 n.natAbs := by
  cases n with
  | ofNat m =>
      rw [if_neg (Int.not_lt.mpr (Int.natCast_nonneg m) : ¬ Int.ofNat m < 0)]
      exact Nat.toList_repr
  | negSucc m =>
      rw [if_pos (Int.negSucc_lt_zero m)]
      show ("-" ++ Nat.repr (m + 1)).toList = _
      rw [String.toList_append, Nat.toList_repr]
      rfl

/-- An integer is parsed from its decimal form, and checked. -/
theorem parseSigned_toString {α : Type} (checked : Int → Option α) (n : Int) :
    parseSigned checked (toString n) = checked n := by
  have hdigits : ∀ c ∈ Nat.toDigits 10 n.natAbs, c.isDigit := fun c hc =>
    Nat.isDigit_of_mem_toDigits (by decide) (by decide) hc
  rw [parseSigned, toList_toString_int]
  by_cases hn : n < 0
  · rw [if_pos hn]
    show (parseDigits (Nat.toDigits 10 n.natAbs)).bind _ = _
    rw [parseDigits_toDigits, Option.bind_some]
    congr 1
    omega
  · rw [if_neg hn]
    split
    case h_1 digits hsign => exact absurd (hdigits '-' (hsign ▸ List.mem_cons_self)) (by decide)
    case h_2 digits hsign => exact absurd (hdigits '+' (hsign ▸ List.mem_cons_self)) (by decide)
    case h_3 =>
      rw [parseDigits_toDigits, Option.bind_some]
      congr 1
      omega

theorem parseI32_toString (n : Int32) : parseI32 (toString n) = some n := by
  have htext : toString n = toString n.toInt := rfl
  rw [parseI32, htext, parseSigned_toString, checkedI32, if_pos ⟨n.le_toInt, n.toInt_lt⟩,
    Int32.ofInt_toInt]

theorem parseI64_toString (n : Int64) : parseI64 (toString n) = some n := by
  have htext : toString n = toString n.toInt := rfl
  have hparse : parseI64 (toString n) = parseSigned checkedI64 (toString n) := rfl
  rw [hparse, htext, parseSigned_toString, checkedI64, if_pos ⟨n.le_toInt, n.toInt_lt⟩,
    Int64.ofInt_toInt]

theorem isDigit_of_parseDigits {digits : List Char} {n : Nat} (h : parseDigits digits = some n) :
    digits ≠ [] ∧ ∀ c ∈ digits, c.isDigit := by
  unfold parseDigits at h
  split at h
  case isTrue hdigits => exact ⟨hdigits.1, List.all_eq_true.mp hdigits.2⟩
  case isFalse => cases h

/-- What is parsed has a character, and no character but digits and a plus sign. -/
theorem chars_of_parseU64 {s : String} {n : UInt64} (h : parseU64 s = some n) :
    s.toList ≠ [] ∧ ∀ c ∈ s.toList, c = '+' ∨ c.isDigit := by
  unfold parseU64 at h
  split at h
  case h_1 digits hs =>
      obtain ⟨m, hm, -⟩ := Option.bind_eq_some_iff.mp h
      have hdigits := isDigit_of_parseDigits hm
      rw [hs]
      exact ⟨List.cons_ne_nil _ _, fun c hc =>
        (List.mem_cons.mp hc).imp id fun hrest => hdigits.2 c hrest⟩
  case h_2 =>
      obtain ⟨m, hm, -⟩ := Option.bind_eq_some_iff.mp h
      have hdigits := isDigit_of_parseDigits hm
      exact ⟨hdigits.1, fun c hc => .inr (hdigits.2 c hc)⟩

end InfoVulcan.Decimal
