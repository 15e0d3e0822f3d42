import Mathlib

/-!
# Byte strings and big-endian integers

Keys of an ordered byte store are byte strings compared lexicographically. Fixed-width
big-endian integers are the encodings for which that order is the numeric one
(`compare_toBe`), and a common prefix never changes a comparison (`compare_append_left`). Text is
kept as UTF-8, where a zero byte is a zero character, and read back with malformed parts replaced.
-/

namespace InfoVulcan

/-- Byte strings, ordered lexicographically. -/
abbrev Bytes := List UInt8

namespace Bytes

/-! ## Lexicographic comparison -/

/-- Comparison of nonempty byte strings looks at the head first. -/
theorem compare_cons (a b : UInt8) (as bs : Bytes) :
    compare (a :: as) (b :: bs) = (compare a b).then (compare as bs) :=
  List.compareLex_cons_cons

/-- A common prefix does not affect the comparison. -/
theorem compare_append_left (pre a b : Bytes) :
    compare (pre ++ a) (pre ++ b) = compare a b := by
  induction pre with
  | nil => rfl
  | cons x pre ih => rw [List.cons_append, List.cons_append, compare_cons, ih]; simp

/-! ## Big-endian integers -/

/-- The `n` low bytes of `x`, most significant byte first. -/
def toBe : Nat → Nat → Bytes
  | 0, _ => []
  | n + 1, x => UInt8.ofNat (x / 256 ^ n) :: toBe n (x % 256 ^ n)

/-- The number a byte string denotes in base 256. -/
def ofBe (b : Bytes) : Nat :=
  b.foldl (fun acc digit => acc * 256 + digit.toNat) 0

@[simp] theorem length_toBe (n x : Nat) : (toBe n x).length = n := by
  induction n generalizing x with
  | zero => rfl
  | succ n ih => simp [toBe, ih]

/-- The leading digit of an in-range number is a byte. -/
theorem toNat_leading {n x : Nat} (h : x < 256 ^ (n + 1)) :
    (UInt8.ofNat (x / 256 ^ n)).toNat = x / 256 ^ n := by
  have hlt : x / 256 ^ n < 256 := by
    rw [Nat.div_lt_iff_lt_mul (by positivity)]
    simpa [pow_succ, mul_comm] using h
  simpa using hlt

/-- Reading big-endian digits from a nonzero accumulator shifts the accumulator. -/
theorem foldl_toBe {n x : Nat} (acc : Nat) (h : x < 256 ^ n) :
    (toBe n x).foldl (fun acc digit => acc * 256 + digit.toNat) acc = acc * 256 ^ n + x := by
  induction n generalizing x acc with
  | zero =>
      have hx : x = 0 := by simpa using h
      simp [toBe, hx]
  | succ n ih =>
      have hmod : x % 256 ^ n < 256 ^ n := Nat.mod_lt _ (by positivity)
      rw [toBe, List.foldl_cons, toNat_leading h, ih _ hmod]
      calc (acc * 256 + x / 256 ^ n) * 256 ^ n + x % 256 ^ n
          = acc * 256 ^ (n + 1) + (256 ^ n * (x / 256 ^ n) + x % 256 ^ n) := by ring
        _ = acc * 256 ^ (n + 1) + x := by rw [Nat.div_add_mod]

/-- Decoding inverts encoding on numbers that fit. -/
theorem ofBe_toBe {n x : Nat} (h : x < 256 ^ n) : ofBe (toBe n x) = x := by
  rw [ofBe, foldl_toBe 0 h]
  simp

/-- Byte order of fixed-width big-endian encodings is numeric order. -/
theorem compare_toBe {n x y : Nat} (hx : x < 256 ^ n) (hy : y < 256 ^ n) :
    compare (toBe n x) (toBe n y) = compare x y := by
  induction n generalizing x y with
  | zero =>
      have hx0 : x = 0 := by simpa using hx
      have hy0 : y = 0 := by simpa using hy
      simp [hx0, hy0]
  | succ n ih =>
      have hpos : 0 < 256 ^ n := by positivity
      rw [toBe, toBe, compare_cons, ih (Nat.mod_lt _ hpos) (Nat.mod_lt _ hpos)]
      have hlead : compare (UInt8.ofNat (x / 256 ^ n)) (UInt8.ofNat (y / 256 ^ n)) =
          compare (x / 256 ^ n) (y / 256 ^ n) := by
        have hc : ∀ a b : UInt8, compare a b = compare a.toNat b.toNat := by
          intro a b
          simp [compare, compareOfLessAndEq, UInt8.lt_iff_toNat_lt, UInt8.toNat_inj]
        rw [hc, toNat_leading hx, toNat_leading hy]
      rw [hlead]
      have hxd := Nat.div_add_mod x (256 ^ n)
      have hyd := Nat.div_add_mod y (256 ^ n)
      rcases Nat.lt_trichotomy (x / 256 ^ n) (y / 256 ^ n) with hlt | heq | hgt
      · have hxy : x < y := Nat.lt_of_div_lt_div hlt
        rw [Nat.compare_eq_lt.mpr hlt, Nat.compare_eq_lt.mpr hxy]
        rfl
      · rw [Nat.compare_eq_eq.mpr heq, Ordering.eq_then]
        rw [heq] at hxd
        rcases Nat.lt_trichotomy (x % 256 ^ n) (y % 256 ^ n) with h | h | h
        · rw [Nat.compare_eq_lt.mpr h, Nat.compare_eq_lt.mpr (by omega)]
        · rw [Nat.compare_eq_eq.mpr h, Nat.compare_eq_eq.mpr (by omega)]
        · rw [Nat.compare_eq_gt.mpr h, Nat.compare_eq_gt.mpr (by omega)]
      · have hyx : y < x := Nat.lt_of_div_lt_div hgt
        rw [Nat.compare_eq_gt.mpr hgt, Nat.compare_eq_gt.mpr hyx]
        rfl

/-! ## Machine words and text -/

/-- The eight big-endian bytes of a 64-bit word. -/
def ofU64 (x : UInt64) : Bytes := toBe 8 x.toNat

/-- Reads a byte string of length eight as a big-endian 64-bit word. -/
def toU64? (b : Bytes) : Option UInt64 :=
  if b.length = 8 then some (UInt64.ofNat (ofBe b)) else none

/-- The eight big-endian bytes of the two's complement form of a signed word. -/
def ofI64 (x : Int64) : Bytes := ofU64 x.toUInt64

/-- The UTF-8 bytes of a text. -/
def ofText (s : String) : Bytes := s.toUTF8.data.toList

@[simp] theorem length_ofU64 (x : UInt64) : (ofU64 x).length = 8 := length_toBe _ _

@[simp] theorem toU64_ofU64 (x : UInt64) : toU64? (ofU64 x) = some x := by
  rw [toU64?, if_pos (length_ofU64 x), ofU64, ofBe_toBe (by simpa using x.toNat_lt)]
  simp

/-- Distinct words have distinct encodings. -/
@[simp] theorem ofU64_inj {x y : UInt64} : ofU64 x = ofU64 y ↔ x = y := by
  refine ⟨fun h => ?_, fun h => h ▸ rfl⟩
  have := congrArg toU64? h
  simpa using this

/-- Byte order of encoded words is the order of the words. -/
theorem compare_ofU64 (x y : UInt64) : compare (ofU64 x) (ofU64 y) = compare x.toNat y.toNat :=
  compare_toBe (by simpa using x.toNat_lt) (by simpa using y.toNat_lt)

/-- Distinct texts have distinct UTF-8 encodings. -/
@[simp] theorem ofText_inj {s t : String} : ofText s = ofText t ↔ s = t := by
  refine ⟨fun h => ?_, fun h => h ▸ rfl⟩
  have hdata : s.toUTF8.data = t.toUTF8.data := Array.toList_inj.mp h
  exact String.toByteArray_inj.mp (ByteArray.ext hdata)

/-! ## Bytes of a text -/

/-- The bytes of a text are those of its characters. -/
theorem ofText_eq_flatMap (s : String) : ofText s = s.toList.flatMap String.utf8EncodeChar := by
  rw [ofText, String.toUTF8_eq_toByteArray, ← String.utf8Encode_toList, List.utf8Encode,
    List.data_toByteArray]

theorem ofText_append (s t : String) : ofText (s ++ t) = ofText s ++ ofText t := by
  simp [ofText_eq_flatMap]

/-- The zero byte encodes one character, and occurs in the encoding of no other. -/
theorem zero_mem_utf8EncodeChar {c : Char} : 0 ∈ String.utf8EncodeChar c ↔ c = '\x00' := by
  constructor
  · intro h
    have hval : c.val.toNat = 0 := by
      unfold String.utf8EncodeChar at h
      simp only at h
      -- The cases are the lengths of an encoding; a longer one has no byte below 128.
      split at h
      · have hbyte : 0 = c.val.toNat % 256 := congrArg UInt8.toNat (List.mem_singleton.mp h)
        omega
      split at h
      · simp [← UInt8.toNat_inj] at h
        omega
      split at h
      · simp [← UInt8.toNat_inj] at h
        omega
      · simp [← UInt8.toNat_inj] at h
        omega
    exact Char.ext (UInt32.toNat_inj.mp hval)
  · rintro rfl
    decide

theorem zero_mem_ofText {s : String} : 0 ∈ ofText s ↔ '\x00' ∈ s.toList := by
  simp [ofText_eq_flatMap, zero_mem_utf8EncodeChar]

/-! ## Reading text -/

/-- Whether a byte continues a character. -/
def isContinuation (b : UInt8) : Bool :=
  0x80 ≤ b && b ≤ 0xBF

/-- Whether `b` may follow the first byte `a` of a character of three or four bytes. -/
def mayFollow (a b : UInt8) : Bool :=
  (a == 0xE0 && 0xA0 ≤ b && b ≤ 0xBF) ||
  (0xE1 ≤ a && a ≤ 0xEC && isContinuation b) ||
  (a == 0xED && 0x80 ≤ b && b ≤ 0x9F) ||
  (0xEE ≤ a && a ≤ 0xEF && isContinuation b) ||
  (a == 0xF0 && 0x90 ≤ b && b ≤ 0xBF) ||
  (0xF1 ≤ a && a ≤ 0xF3 && isContinuation b) ||
  (a == 0xF4 && 0x80 ≤ b && b ≤ 0x8F)

/-- The length of the malformed part that bytes start with: a character that is cut short, as far
as it goes, or else one byte. -/
def malformedLength : Bytes → Nat
  | a :: b :: rest =>
      if mayFollow a b then
        match rest with
        | c :: _ => if 0xF0 ≤ a ∧ isContinuation c then 3 else 2
        | [] => 2
      else 1
  | _ => 1

/-- The characters of at most `n` bytes, with `U+FFFD` for every malformed part. -/
def lossyChars : Nat → Bytes → List Char
  | 0, _ => []
  | _ + 1, [] => []
  | n + 1, b =>
      match b.toByteArray.utf8DecodeChar? 0 with
      | some c => c :: lossyChars n (b.drop c.utf8Size)
      | none => '\uFFFD' :: lossyChars n (b.drop (malformedLength b))

/-- The text of some bytes. Malformed parts are replaced. -/
def fromUtf8Lossy (b : Bytes) : String :=
  match String.fromUTF8? b.toByteArray with
  | some s => s
  | none => String.ofList (lossyChars b.length b)

/-- The bytes of a text are read back. -/
@[simp] theorem fromUtf8Lossy_ofText (s : String) : fromUtf8Lossy (ofText s) = s := by
  have hbytes : (ofText s).toByteArray = s.toByteArray := by
    apply ByteArray.ext
    rw [List.data_toByteArray, ofText, String.toUTF8_eq_toByteArray]
  rw [fromUtf8Lossy, hbytes, String.fromUTF8?, dif_pos s.isValidUTF8]
  rfl

/-! ## Separators -/

/-- If neither part holds a zero, only the first part can stand before the zero between them. -/
theorem eq_of_separated {v w a : Bytes} (hw : 0 ∉ w) (ha : 0 ∉ a)
    (h : v ++ [0] <+: w ++ [0] ++ a) : v = w := by
  obtain ⟨t, ht⟩ := h
  rw [List.append_assoc, List.append_assoc, List.append_eq_append_iff] at ht
  rcases ht with ⟨m, rfl, hm⟩ | ⟨m, rfl, hm⟩
  · cases m with
    | nil => simp
    | cons x m =>
        obtain ⟨rfl, -⟩ := List.cons.inj hm
        simp at hw
  · cases m with
    | nil => simp
    | cons x m =>
        obtain ⟨rfl, rfl⟩ := List.cons.inj hm
        simp at ha

example : ofU64 258 = [0, 0, 0, 0, 0, 0, 1, 2] := by decide

end Bytes

end InfoVulcan
