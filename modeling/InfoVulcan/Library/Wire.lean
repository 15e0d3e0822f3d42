import InfoVulcan.Library.Bytes

/-!
# The wire format of protobuf messages

A message is written as the sequence of its fields, each one a tag and a payload. A number is
written in groups of seven bits, the lowest first, and text after its length. No field is a prefix
of another one (`prefixFree_encodeField`), so a message says which fields it was written from
(`encode_inj`).
-/

namespace InfoVulcan

/-! ## Prefix-free codes -/

/-- What a word stands for, and where it ends, can be told whatever follows. -/
def PrefixFree {α : Type} (code : α → Bytes) : Prop :=
  ∀ {a b : α} {rest rest' : Bytes}, code a ++ rest = code b ++ rest' → a = b ∧ rest = rest'

namespace PrefixFree

variable {α β : Type} {code : α → Bytes}

/-- Nothing is said by no bytes, if there is something else to say. -/
theorem ne_nil [Nontrivial α] (h : PrefixFree code) (a : α) : code a ≠ [] := by
  intro hnil
  obtain ⟨b, hne⟩ := exists_ne a
  have heq : code a ++ code b = code b ++ [] := by rw [hnil, List.nil_append, List.append_nil]
  exact hne (h heq).1.symm

/-- One word after another. -/
theorem append {code' : β → Bytes} (h : PrefixFree code) (h' : PrefixFree code') :
    PrefixFree fun p : α × β => code p.1 ++ code' p.2 := by
  intro p q rest rest' heq
  simp only [List.append_assoc] at heq
  obtain ⟨hfirst, htail⟩ := h heq
  obtain ⟨hsecond, hrest⟩ := h' htail
  exact ⟨Prod.ext hfirst hsecond, hrest⟩

/-- A sequence of words can be taken apart. -/
theorem flatMap_inj [Nontrivial α] (h : PrefixFree code) {as bs : List α} :
    as.flatMap code = bs.flatMap code ↔ as = bs := by
  refine ⟨fun heq => ?_, fun heq => heq ▸ rfl⟩
  induction as generalizing bs with
  | nil =>
      cases bs with
      | nil => rfl
      | cons b bs =>
          have hnil := (List.append_eq_nil_iff.mp (List.flatMap_cons ▸ heq.symm)).1
          exact absurd hnil (h.ne_nil b)
  | cons a as ih =>
      cases bs with
      | nil =>
          have hnil := (List.append_eq_nil_iff.mp (List.flatMap_cons ▸ heq)).1
          exact absurd hnil (h.ne_nil a)
      | cons b bs =>
          rw [List.flatMap_cons, List.flatMap_cons] at heq
          obtain ⟨rfl, hrest⟩ := h heq
          rw [ih hrest]

end PrefixFree

namespace Wire

/-! ## Numbers and texts -/

/-- A number in groups of seven bits. All bytes but the last have the high bit set. -/
def varint (n : Nat) : Bytes :=
  if n < 128 then [UInt8.ofNat n] else UInt8.ofNat (n % 128 + 128) :: varint (n / 128)
termination_by n
decreasing_by omega

/-- Bytes after their number. -/
def delimited (bytes : Bytes) : Bytes :=
  varint bytes.length ++ bytes

theorem varint_of_lt {n : Nat} (h : n < 128) : varint n = [UInt8.ofNat n] := by
  rw [varint, if_pos h]

theorem varint_of_ge {n : Nat} (h : 128 ≤ n) :
    varint n = UInt8.ofNat (n % 128 + 128) :: varint (n / 128) := by
  rw [varint, if_neg (by omega)]

/-- Whether a number goes on is told by the high bit of a byte. -/
theorem prefixFree_varint : PrefixFree varint := by
  intro a b rest rest' h
  have htoNat : ∀ {n m : Nat}, n < 256 → m < 256 → UInt8.ofNat n = UInt8.ofNat m → n = m := by
    intro n m hn hm heq
    have := congrArg UInt8.toNat heq
    simpa [Nat.mod_eq_of_lt hn, Nat.mod_eq_of_lt hm] using this
  induction a using Nat.strongRecOn generalizing b with
  | ind a ih =>
      by_cases ha : a < 128 <;> by_cases hb : b < 128
      · rw [varint_of_lt ha, varint_of_lt hb] at h
        obtain ⟨hbyte, hrest⟩ := List.cons.inj h
        exact ⟨htoNat (by omega) (by omega) hbyte, hrest⟩
      · rw [varint_of_lt ha, varint_of_ge (n := b) (by omega)] at h
        have hbyte := htoNat (by omega) (by omega) (List.cons.inj h).1
        omega
      · rw [varint_of_ge (n := a) (by omega), varint_of_lt hb] at h
        have hbyte := htoNat (by omega) (by omega) (List.cons.inj h).1
        omega
      · rw [varint_of_ge (n := a) (by omega), varint_of_ge (n := b) (by omega)] at h
        obtain ⟨hbyte, htail⟩ := List.cons.inj h
        have hlow := htoNat (by omega) (by omega) hbyte
        obtain ⟨hhigh, hrest⟩ := ih (a / 128) (by omega) htail
        exact ⟨by omega, hrest⟩

example : varint 300 = [0xAC, 0x02] := by
  rw [varint_of_ge (by omega), varint_of_lt (by omega)]
  rfl

theorem prefixFree_delimited : PrefixFree delimited := by
  intro a b rest rest' h
  unfold delimited at h
  rw [List.append_assoc, List.append_assoc] at h
  obtain ⟨hlength, htail⟩ := prefixFree_varint h
  exact List.append_inj htail hlength

/-! ## Fields -/

/-- What a field holds: a number, or bytes. -/
inductive Payload where
  | varint (n : Nat)
  | bytes (b : Bytes)
  deriving DecidableEq

/-- A field of a message. -/
structure Field where
  number : Nat
  payload : Payload
  deriving DecidableEq

/-- The number of a field and the kind of its payload, as one number. -/
def tag (number wireType : Nat) : Bytes :=
  varint (8 * number + wireType)

/-- A field as it is written. -/
def encodeField (field : Field) : Bytes :=
  match field.payload with
  | .varint n => tag field.number 0 ++ varint n
  | .bytes b => tag field.number 2 ++ delimited b

/-- A message as it is written. -/
def encode (fields : List Field) : Bytes :=
  fields.flatMap encodeField

theorem prefixFree_encodeField : PrefixFree encodeField := by
  rintro ⟨number, payload⟩ ⟨number', payload'⟩ rest rest' h
  cases payload with
  | varint n =>
      cases payload' with
      | varint n' =>
          obtain ⟨hpair, hrest⟩ := prefixFree_varint.append prefixFree_varint
            (a := (8 * number + 0, n)) (b := (8 * number' + 0, n')) h
          obtain ⟨hnumber, rfl⟩ := Prod.mk.inj hpair
          obtain rfl : number = number' := by omega
          exact ⟨rfl, hrest⟩
      | bytes b' =>
          simp only [encodeField, tag, List.append_assoc] at h
          have hnumber := (prefixFree_varint h).1
          omega
  | bytes b =>
      cases payload' with
      | varint n' =>
          simp only [encodeField, tag, List.append_assoc] at h
          have hnumber := (prefixFree_varint h).1
          omega
      | bytes b' =>
          obtain ⟨hpair, hrest⟩ := prefixFree_varint.append prefixFree_delimited
            (a := (8 * number + 2, b)) (b := (8 * number' + 2, b')) h
          obtain ⟨hnumber, rfl⟩ := Prod.mk.inj hpair
          obtain rfl : number = number' := by omega
          exact ⟨rfl, hrest⟩

instance : Nontrivial Field :=
  ⟨⟨1, .varint 0⟩, ⟨2, .varint 0⟩, by decide⟩

/-- A message says which fields it was written from. -/
@[simp] theorem encode_inj {fields fields' : List Field} :
    encode fields = encode fields' ↔ fields = fields' :=
  prefixFree_encodeField.flatMap_inj

/-! ## Fields of messages -/

/-- A signed word. Zero is the default, and not written. -/
def int64 (number : Nat) (x : Int64) : List Field :=
  if x = 0 then [] else [⟨number, .varint x.toUInt64.toNat⟩]

/-- A text. The empty text is the default, and not written. -/
def string (number : Nat) (s : String) : List Field :=
  if s = "" then [] else [⟨number, .bytes (Bytes.ofText s)⟩]

/-- A text that may be absent. -/
def optionalString (number : Nat) (s : Option String) : List Field :=
  s.toList.map fun s => ⟨number, .bytes (Bytes.ofText s)⟩

/-- The fields of one number. -/
def numbered (number : Nat) (fields : List Field) : List Field :=
  fields.filter fun field => field.number = number

@[simp] theorem numbered_append (number : Nat) (fields fields' : List Field) :
    numbered number (fields ++ fields') = numbered number fields ++ numbered number fields' :=
  List.filter_append ..

@[simp] theorem numbered_int64 (number number' : Nat) (x : Int64) :
    numbered number (int64 number' x) = if number' = number then int64 number' x else [] := by
  unfold int64 numbered
  split <;> simp [List.filter_cons]

@[simp] theorem numbered_string (number number' : Nat) (s : String) :
    numbered number (string number' s) = if number' = number then string number' s else [] := by
  unfold string numbered
  split <;> simp [List.filter_cons]

@[simp] theorem numbered_optionalString (number number' : Nat) (s : Option String) :
    numbered number (optionalString number' s) =
      if number' = number then optionalString number' s else [] := by
  unfold optionalString numbered
  cases s <;> simp [List.filter_cons]

@[simp] theorem int64_inj {number : Nat} {x y : Int64} :
    int64 number x = int64 number y ↔ x = y := by
  refine ⟨fun h => ?_, fun h => h ▸ rfl⟩
  unfold int64 at h
  split at h <;> split at h
  · next hx hy => rw [hx, hy]
  · cases h
  · cases h
  · have hnat : x.toUInt64.toNat = y.toUInt64.toNat := by simpa using h
    exact congrArg UInt64.toInt64 (UInt64.toNat_inj.mp hnat)

@[simp] theorem string_inj {number : Nat} {s t : String} :
    string number s = string number t ↔ s = t := by
  refine ⟨fun h => ?_, fun h => h ▸ rfl⟩
  unfold string at h
  split at h <;> split at h
  · next hs ht => rw [hs, ht]
  · cases h
  · cases h
  · simpa using h

@[simp] theorem optionalString_inj {number : Nat} {s t : Option String} :
    optionalString number s = optionalString number t ↔ s = t := by
  cases s <;> cases t <;> simp [optionalString]

end Wire

end InfoVulcan
