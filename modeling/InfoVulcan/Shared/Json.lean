import InfoVulcan.Library.Json
import InfoVulcan.Shared.Foreign

/-!
# UUIDs and timestamps as text

Concrete libraries for the parameters of the development: a reader of hyphenated UUIDs, and the
calendar of the years 0 to 9999. Their JSON formats are those of the real libraries.
-/

namespace InfoVulcan

/-! ## UUIDs -/

namespace Uuid

/-- The value of a lower-case hexadecimal digit. -/
def hexValue (c : Char) : Nat :=
  if c.toNat < 58 then c.toNat - 48 else c.toNat - 87

/-- The number a string of hexadecimal digits denotes. -/
def ofHex (digits : List Char) : Nat :=
  digits.foldl (fun acc c => acc * 16 + hexValue c) 0

/-- The `k` low hexadecimal digits of a number are its digits up to `16 ^ k`. -/
theorem ofHex_digits (k n : Nat) :
    ofHex ((List.range k).map fun i => hexDigit ((n / 16 ^ (k - 1 - i)) % 16)) = n % 16 ^ k := by
  induction k generalizing n with
  | zero => simp [ofHex, Nat.mod_one]
  | succ k ih =>
      have hshift : (List.range k).map (fun i => hexDigit ((n / 16 ^ (k + 1 - 1 - i)) % 16)) =
          (List.range k).map fun i => hexDigit ((n / 16 / 16 ^ (k - 1 - i)) % 16) := by
        refine List.map_congr_left fun i hi => ?_
        have hlt := List.mem_range.mp hi
        rw [Nat.div_div_eq_div_mul, ← pow_succ', show k - 1 - i + 1 = k + 1 - 1 - i by omega]
      have hlast : hexValue (hexDigit (n % 16)) = n % 16 :=
        (by decide : ∀ d < 16, hexValue (hexDigit d) = d) _ (Nat.mod_lt _ (by decide))
      rw [List.range_succ, List.map_append, hshift, ofHex, List.foldl_append]
      show ofHex _ * 16 + hexValue (hexDigit ((n / 16 ^ (k + 1 - 1 - k)) % 16)) = _
      rw [ih, Nat.add_sub_cancel, Nat.sub_self, pow_zero, Nat.div_one, hlast, pow_succ',
        Nat.mod_mul, Nat.mul_comm, Nat.add_comm]

/-- Reads a hyphenated lower-case UUID. -/
def parseHyphenated (s : String) : Option Uuid :=
  let u : Uuid := ⟨BitVec.ofNat 128 (ofHex (s.toList.filter (· ≠ '-')))⟩
  if toString u = s then some u else none

theorem hexDigits_ne_hyphen {u : Uuid} {c : Char} (h : c ∈ u.hexDigits) : c ≠ '-' := by
  obtain ⟨i, -, rfl⟩ := List.mem_map.mp h
  exact (by decide : ∀ d < 16, hexDigit d ≠ '-') _ (Nat.mod_lt _ (by decide))

/-- The digits of the text of a UUID are those of the UUID. -/
theorem filter_toList_toString (u : Uuid) :
    (toString u).toList.filter (· ≠ '-') = u.hexDigits := by
  have hkeep : ∀ l : List Char, (∀ c ∈ l, c ∈ u.hexDigits) →
      l.filter (fun c => decide (c ≠ '-')) = l := fun l hl =>
    List.filter_eq_self.mpr fun c hc => by simpa using hexDigits_ne_hyphen (hl c hc)
  have hskip : ∀ l : List Char, ('-' :: l).filter (fun c => decide (c ≠ '-')) =
      l.filter fun c => decide (c ≠ '-') := fun l => List.filter_cons_of_neg (by decide)
  have hpart : ∀ m n, ∀ c ∈ (u.hexDigits.drop m).take n, c ∈ u.hexDigits := fun m n c hc =>
    List.mem_of_mem_drop (List.mem_of_mem_take hc)
  have hjoin : ∀ m n, (u.hexDigits.drop m).take n ++ u.hexDigits.drop (m + n) =
      u.hexDigits.drop m := fun m n => by rw [← List.drop_drop, List.take_append_drop]
  show (String.ofList (u.hexDigits.take 8 ++ '-' :: (u.hexDigits.drop 8).take 4 ++
    '-' :: (u.hexDigits.drop 12).take 4 ++ '-' :: (u.hexDigits.drop 16).take 4 ++
    '-' :: u.hexDigits.drop 20)).toList.filter (· ≠ '-') = u.hexDigits
  rw [String.toList_ofList]
  simp only [List.filter_append, hskip]
  rw [hkeep _ (fun c => List.mem_of_mem_take), hkeep _ (hpart 8 4), hkeep _ (hpart 12 4),
    hkeep _ (hpart 16 4), hkeep _ (fun c => List.mem_of_mem_drop), List.append_assoc, hjoin 16 4,
    List.append_assoc, hjoin 12 4, List.append_assoc, hjoin 8 4, List.take_append_drop]

@[simp] theorem parseHyphenated_toString (u : Uuid) : parseHyphenated (toString u) = some u := by
  have hvalue : (⟨BitVec.ofNat 128 (ofHex ((toString u).toList.filter (· ≠ '-')))⟩ : Uuid) = u := by
    have hlt : u.bits.toNat < 16 ^ 32 := u.bits.isLt
    rw [filter_toList_toString, hexDigits, ofHex_digits 32, Nat.mod_eq_of_lt hlt]
    simp
  simp only [parseHyphenated, hvalue, if_true]

/-- UUIDs are written as strings. -/
def json : JsonFormat Uuid :=
  JsonFormat.string.conv toString parseHyphenated parseHyphenated_toString

end Uuid

/-! ## The calendar -/

/-- A time of the UTC calendar. -/
structure CivilTime where
  year : Nat
  month : Nat
  day : Nat
  hour : Nat
  minute : Nat
  second : Nat
  nanos : Nat
  deriving DecidableEq

namespace CivilTime

/-- The number of days from the beginning of the year 0, counted from March, to a date. -/
def dayNumber (year month day : Nat) : Nat :=
  let y := if month ≤ 2 then year + 399 else year + 400
  let shifted := (month + 9) % 12
  365 * y + y / 4 - y / 100 + y / 400 + (153 * shifted + 2) / 5 + day - 1

/-- The number of the day on which unix time begins. -/
def epoch : Nat :=
  dayNumber 1970 1 1

/-- The date of a day, by its number. -/
def ofDayNumber (n : Nat) : Nat × Nat × Nat :=
  let era := n / 146097
  let doe := n % 146097
  let yoe := (doe - doe / 1460 + doe / 36524 - doe / 146096) / 365
  let doy := doe - (365 * yoe + yoe / 4 - yoe / 100)
  let shifted := (5 * doy + 2) / 153
  let month := if shifted < 10 then shifted + 3 else shifted - 9
  let year := yoe + 400 * era + if month ≤ 2 then 1 else 0
  (year - 400, month, doy - (153 * shifted + 2) / 5 + 1)

/-- The unix time in whole seconds. -/
def timestamp (t : CivilTime) : Int64 :=
  Int64.ofInt (((dayNumber t.year t.month t.day : Int) - epoch) * 86400 +
    (t.hour * 3600 + t.minute * 60 + t.second : Nat))

/-- The days of unix time at so many seconds, counted as days are. -/
def unixDay (seconds : Int64) : Int :=
  seconds.toInt / 86400 + epoch

/-- The time at so many seconds and nanoseconds of unix time, from the year 0 on. -/
def ofUnix (seconds : Int64) (nanos : UInt32) : CivilTime :=
  let (year, month, day) := ofDayNumber (unixDay seconds).toNat
  let clock := (seconds.toInt % 86400).toNat
  ⟨year, month, day, clock / 3600, clock / 60 % 60, clock % 60, nanos.toNat⟩

/-- The time at so many seconds and nanoseconds of unix time. Years of four digits are in range,
and a time is returned only if it leads back to the seconds. -/
def fromTimestamp (seconds : Int64) (nanos : UInt32) : Option CivilTime :=
  if (dayNumber 0 1 1 ≤ unixDay seconds ∧ unixDay seconds < dayNumber 10000 1 1 ∧
      nanos.toNat < 10 ^ 9) ∧ (ofUnix seconds nanos).timestamp = seconds then
    some (ofUnix seconds nanos)
  else none

/-- A time that is returned leads back to the timestamp it was made from. -/
theorem fromTimestamp_eq_some {seconds : Int64} {nanos : UInt32} {t : CivilTime}
    (h : fromTimestamp seconds nanos = some t) :
    t.timestamp = seconds ∧ t.nanos = nanos.toNat ∧ nanos.toNat < 10 ^ 9 := by
  unfold fromTimestamp at h
  split at h
  next hrange =>
    rw [← Option.some.inj h]
    exact ⟨hrange.2, rfl, hrange.1.2.2⟩
  next => cases h

/-- The beginning of unix time. -/
def unixEpoch : CivilTime := ⟨1970, 1, 1, 0, 0, 0, 0⟩

example : fromTimestamp 1709210096 0 = some ⟨2024, 2, 29, 12, 34, 56, 0⟩ := by decide

example : timestamp ⟨2024, 2, 29, 12, 34, 56, 0⟩ = 1709210096 := by decide

/-- The end of a timestamp: a fraction, if there is one, and the zone. -/
def fraction : JsonFields Nat where
  render n := if n = 0 then [90, 34] else 46 :: ((JsonFormat.padded 9).render n ++ [90, 34])
  parse input :=
    match Json.expect [90, 34] input with
    | some rest => some (0, rest)
    | none => (Json.expect [46] input).bind fun input =>
        ((JsonFormat.padded 9).parse input).bind fun p =>
          (Json.expect [90, 34] p.2).map fun rest => (p.1, rest)
  parse_render n rest := by
    by_cases hn : n = 0
    · rw [if_pos hn, Json.expect_append, hn]
    · let text := (JsonFormat.padded 9).render n ++ ([90, 34] ++ rest)
      have hzone : Json.expect [90, 34] (46 :: text) = none := by
        simp [Json.expect, List.isPrefixOf]
      have hends : Json.Ends ([90, 34] ++ rest) := Json.ends_cons (by decide)
      have hpoint : Json.expect [46] (46 :: text) = some text := Json.expect_append [46] text
      rw [if_neg hn, List.cons_append, List.append_assoc, hzone]
      simp only [text] at hpoint ⊢
      rw [hpoint, Option.bind_some, JsonFormat.parse_render _ _ _ hends, Option.bind_some,
        Json.expect_append, Option.map_some]
  ends n rest := by
    split
    · exact Json.ends_cons (by decide)
    · exact Json.ends_cons (by decide)

/-- Timestamps are written in the form `2024-02-29T12:34:56Z`. -/
def json : JsonFormat CivilTime :=
  open JsonFormat in
  (first 34 [] quote_ne_close (padded 4) <| next 45 [] (by decide) (padded 2) <|
    next 45 [] (by decide) (padded 2) <| next 84 [] (by decide) (padded 2) <|
    next 58 [] (by decide) (padded 2) <| next 58 [] (by decide) (padded 2) fraction).conv
    (fun t => (t.year, t.month, t.day, t.hour, t.minute, t.second, t.nanos))
    (fun (year, month, day, hour, minute, second, nanos) =>
      some ⟨year, month, day, hour, minute, second, nanos⟩)
    fun _ => rfl

end CivilTime

namespace SerdeJson

scoped instance : UuidParser where
  parseStr := Uuid.parseHyphenated

scoped instance : Chrono where
  DateTime := CivilTime
  fromTimestamp := CivilTime.fromTimestamp
  timestamp := CivilTime.timestamp
  toProto t := ⟨t.timestamp, Int32.ofInt t.nanos⟩
  default := CivilTime.unixEpoch

scoped instance : LawfulChrono where
  toProto_fromTimestamp {seconds nanos time} h hnanos := by
    obtain ⟨hseconds, htime, -⟩ := CivilTime.fromTimestamp_eq_some h
    show (⟨CivilTime.timestamp time, Int32.ofInt (CivilTime.nanos time)⟩ : Timestamp) = _
    rw [hseconds, htime]
    rfl
  nanos_toProto {seconds nanos time} h := by
    obtain ⟨-, htime, hnanos⟩ := CivilTime.fromTimestamp_eq_some h
    show 0 ≤ (Int32.ofInt (CivilTime.nanos time)).toInt ∧
      (Int32.ofInt (CivilTime.nanos time)).toInt < 10 ^ 9
    rw [htime, Int32.toInt_ofInt_of_le (by omega) (by omega)]
    omega
  fromTimestamp_zero := (by decide : CivilTime.fromTimestamp 0 0 = some CivilTime.unixEpoch)

scoped instance : FailureText where
  status s := s.message
  raftWrite e := e

/-- Optional strings. -/
def optionString : JsonFormat (Option String) :=
  JsonFormat.string.option fun _ b _ h => by
    obtain rfl := (List.cons.inj h).1
    decide

/-- Byte strings are written as lists of numbers. -/
def bytes : JsonFormat Bytes :=
  .list .u8

end SerdeJson

end InfoVulcan
