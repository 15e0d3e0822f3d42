import InfoVulcan.Library.Bytes

/-!
# Hexadecimal digits

Bytes are written as two upper-case hexadecimal digits, and read from two digits of either case.
Reading what is written gives the byte (`byteOf_digitsOf`), and writing what is read gives the
digits in upper case (`digitsOf_byteOf`).
-/

namespace InfoVulcan.Hex

/-- A hexadecimal digit, of either case. -/
def isHexdigit (c : Char) : Bool :=
  ('0' ≤ c && c ≤ '9') || ('a' ≤ c && c ≤ 'f') || ('A' ≤ c && c ≤ 'F')

/-- The number a digit stands for. -/
def value (c : Char) : Nat :=
  if c ≤ '9' then c.toNat - '0'.toNat
  else if c ≤ 'F' then c.toNat - 'A'.toNat + 10
  else c.toNat - 'a'.toNat + 10

/-- The digit for a number, in upper case. -/
def digit (n : Nat) : Char :=
  if n < 10 then Char.ofNat ('0'.toNat + n) else Char.ofNat ('A'.toNat + n - 10)

/-- The byte that digits stand for. -/
def byteOf (digits : List Char) : UInt8 :=
  UInt8.ofNat (digits.foldl (fun n c => 16 * n + value c) 0)

/-- The two digits of a byte. -/
def digitsOf (b : UInt8) : List Char :=
  [digit (b.toNat / 16), digit (b.toNat % 16)]

/-- What is true of every digit. -/
theorem forall_isHexdigit {P : Char → Prop}
    (h : ∀ n < 103, isHexdigit (Char.ofNat n) → P (Char.ofNat n)) {c : Char} (hc : isHexdigit c) :
    P c := by
  have hlt : c.toNat < 103 := by
    simp only [isHexdigit, Bool.or_eq_true, Bool.and_eq_true, decide_eq_true_eq, Char.le_def,
      UInt32.le_iff_toNat_le] at hc
    rcases hc with (hc | hc) | hc
    all_goals exact Nat.lt_of_le_of_lt hc.2 (by decide)
  rw [← Char.ofNat_toNat c] at hc ⊢
  exact h _ hlt hc

theorem value_lt {c : Char} (h : isHexdigit c) : value c < 16 :=
  forall_isHexdigit (P := fun c => value c < 16) (by decide +kernel) h

/-- A digit in upper case is the one for its number. -/
theorem toUpper_eq {c : Char} (h : isHexdigit c) : c.toUpper = digit (value c) :=
  forall_isHexdigit (P := fun c => c.toUpper = digit (value c)) (by decide +kernel) h

theorem value_digit {n : Nat} (h : n < 16) : value (digit n) = n := by
  revert n
  decide +kernel

theorem isHexdigit_digit {n : Nat} (h : n < 16) : isHexdigit (digit n) := by
  revert n
  decide +kernel

/-- A digit is one byte of a text. -/
theorem utf8Size_eq {c : Char} (h : isHexdigit c) : c.utf8Size = 1 :=
  forall_isHexdigit (P := fun c => c.utf8Size = 1) (by decide +kernel) h

/-- The number of bytes of a text of digits is that of its digits. -/
theorem length_ofText {s : String} (h : ∀ c ∈ s.toList, isHexdigit c) :
    (Bytes.ofText s).length = s.toList.length := by
  rw [Bytes.ofText_eq_flatMap]
  generalize s.toList = l at h
  induction l with
  | nil => rfl
  | cons c l ih =>
      rw [List.flatMap_cons, List.length_append, ih fun d hd => h d (List.mem_cons_of_mem _ hd),
        String.length_utf8EncodeChar, utf8Size_eq (h c List.mem_cons_self), List.length_cons,
        Nat.add_comm]

/-! ## Bytes -/

/-- The digits of a byte are digits. -/
theorem isHexdigit_of_mem_digitsOf {b : UInt8} {c : Char} (h : c ∈ digitsOf b) : isHexdigit c := by
  have hb : b.toNat < 256 := b.toNat_lt
  rcases List.mem_pair.mp h with rfl | rfl
  · exact isHexdigit_digit (by omega)
  · exact isHexdigit_digit (by omega)

/-- A byte is read from its digits. -/
theorem byteOf_digitsOf (b : UInt8) : byteOf (digitsOf b) = b := by
  have hb : b.toNat < 256 := b.toNat_lt
  have hvalue : (digitsOf b).foldl (fun n c => 16 * n + value c) 0 = b.toNat := by
    simp only [digitsOf, List.foldl_cons, List.foldl_nil,
      value_digit (n := b.toNat / 16) (by omega), value_digit (n := b.toNat % 16) (by omega)]
    omega
  rw [byteOf, hvalue, UInt8.ofNat_toNat]

/-- Two digits are, in upper case, those of the byte they stand for. -/
theorem digitsOf_byteOf {group : List Char} (hlength : group.length = 2)
    (h : ∀ c ∈ group, isHexdigit c) : digitsOf (byteOf group) = group.map Char.toUpper := by
  obtain ⟨high, low, rfl⟩ := List.length_eq_two.mp hlength
  have hhigh : isHexdigit high := h high List.mem_cons_self
  have hlow : isHexdigit low := h low (List.mem_cons_of_mem _ List.mem_cons_self)
  have hhighLt : value high < 16 := value_lt hhigh
  have hlowLt : value low < 16 := value_lt hlow
  have hbyte : (byteOf [high, low]).toNat = 16 * value high + value low := by
    simp only [byteOf, List.foldl_cons, List.foldl_nil]
    rw [UInt8.toNat_ofNat']
    omega
  rw [digitsOf, hbyte, List.map_cons, List.map_cons, List.map_nil, toUpper_eq hhigh,
    toUpper_eq hlow]
  rw [show (16 * value high + value low) / 16 = value high by omega,
    show (16 * value high + value low) % 16 = value low by omega]

end InfoVulcan.Hex
