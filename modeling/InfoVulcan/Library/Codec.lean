import InfoVulcan.Library.Bytes

/-!
# Serialisation formats

A `Codec` is a serialisation format that reads back what it wrote. Nothing else is assumed of
it: which other byte strings decode, and to what, is left open.
-/

namespace InfoVulcan

/-- A serialisation format for `α`. -/
structure Codec (α : Type) where
  encode : α → Bytes
  decode : Bytes → Except String α
  decode_encode : ∀ a, decode (encode a) = .ok a

attribute [simp] Codec.decode_encode

/-- Distinct values have distinct encodings. -/
@[simp] theorem Codec.encode_inj {α : Type} (codec : Codec α) {a b : α} :
    codec.encode a = codec.encode b ↔ a = b := by
  refine ⟨fun h => ?_, fun h => h ▸ rfl⟩
  have := congrArg codec.decode h
  simpa using this

end InfoVulcan
