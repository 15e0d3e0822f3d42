import InfoVulcan.Custodian.Json
import InfoVulcan.Library.Codec
import InfoVulcan.Shared.Encryption

/-!
# The post-quantum wrap of messages

A message is sealed for the holder of a private key, and travels as an envelope that anybody may
write. Opening checks the key and the encapsulated key, and then hands the nonce of the envelope to
a cipher that takes no other than its own length. An envelope is answered with a plaintext or an
error exactly when it does not get that far, or its nonce has that length
(`opening_never_panics_iff`).
-/

namespace InfoVulcan

open Primitives

namespace EncryptionService

variable [Primitives]

/-- A cipher panics on every nonce but those of its own length. -/
theorem decryptSymmetric_panics_iff {key : Bytes} {encrypted : EncryptedData}
    {algorithm : EncryptionAlgorithm} :
    decryptSymmetric key encrypted algorithm = .error .panicked ↔
      encrypted.nonce.length ≠ nonceBytes := by
  unfold decryptSymmetric
  split
  next hlength => exact iff_of_true rfl hlength
  next hlength =>
    refine iff_of_false ?_ hlength
    intro h
    split at h <;> cases h

/-- Decryption with a private key panics when it gets to a nonce of the wrong length. -/
theorem decryptWithPrivateKey_panics_iff {encrypted : EncryptedData} {privateKey : Bytes} :
    decryptWithPrivateKey encrypted privateKey = .error .panicked ↔
      ∃ kemCiphertext key, encrypted.kemCiphertext = some kemCiphertext ∧
        privateKey.length = secretKeyBytes ∧ decapsulate kemCiphertext privateKey = .ok key ∧
        encrypted.nonce.length ≠ nonceBytes := by
  unfold decryptWithPrivateKey
  cases hkem : encrypted.kemCiphertext with
  | none => simp
  | some kemCiphertext =>
      by_cases hprivate : privateKey.length = secretKeyBytes
      · cases hkey : decapsulate kemCiphertext privateKey with
        | error e => simp [hprivate, hkey]
        | ok key => simp [hprivate, hkey, decryptSymmetric_panics_iff]
      · simp [hprivate]

end EncryptionService

/-- A key encapsulation that checks lengths only: with a ciphertext and a private key of the right
lengths there is always a secret, whoever has made them, and with others there is an error. -/
class KyberSizes [Primitives] where
  ciphertextBytes : Nat
  decapsulate_ok_iff : ∀ {kemCiphertext privateKey : Bytes},
    (∃ key, decapsulate kemCiphertext privateKey = .ok key) ↔
      kemCiphertext.length = ciphertextBytes ∧ privateKey.length = secretKeyBytes

/-- A computation returns when it ends with a result or an error, not with a panic. -/
def Returns {ε α : Type} (result : Except (Stop ε) α) : Prop :=
  (∃ a, result = .ok a) ∨ ∃ e, result = .error (.error e)

theorem returns_iff {ε α : Type} {result : Except (Stop ε) α} :
    Returns result ↔ result ≠ .error .panicked := by
  unfold Returns
  cases result with
  | ok a => simp
  | error stop => cases stop <;> simp

/-! ## Envelopes -/

/-- The JSON format of envelopes. -/
class EnvelopeFormat where
  envelope : Codec EncryptedData

namespace Pqc

variable [Primitives] [EnvelopeFormat]

/-- Seals a plaintext to a public key. -/
def sealEnvelope (plaintext peerPublicKey : Bytes) (entropy : Entropy) : Except String Bytes :=
  match EncryptionService.encryptWithPublicKey plaintext peerPublicKey entropy with
  | .error e => .error s!"pqc seal failed: {e}"
  | .ok envelope => .ok (EnvelopeFormat.envelope.encode envelope)

/-- Opens a sealed envelope with a private key. -/
def openEnvelope (envelope privateKey : Bytes) : Except (Stop String) Bytes :=
  match EnvelopeFormat.envelope.decode envelope with
  | .error _ => .error (.error "deserialize pqc envelope")
  | .ok encrypted =>
      match EncryptionService.decryptWithPrivateKey encrypted privateKey with
      | .error stop => .error (stop.map fun e => s!"pqc open failed: {e}")
      | .ok plaintext => .ok plaintext

/-- Encodes a message, given by its bytes, for a peer. -/
def KyberEncoder.encode (sealTo item : Bytes) (entropy : Entropy) : Except Status Bytes :=
  match sealEnvelope item sealTo entropy with
  | .error e => .error (.internal s!"pqc seal: {e}")
  | .ok sealed => .ok sealed

/-- Decodes the next message of a stream. Where nothing has arrived there is none yet. -/
def KyberDecoder.decode {D : Type} (decodeMessage : Bytes → Except String D)
    (openWith src : Bytes) : Except (Stop Status) (Option D) :=
  if src = [] then .ok none
  else
    match openEnvelope src openWith with
    | .error stop => .error (stop.map fun e => .internal s!"pqc open: {e}")
    | .ok plaintext =>
        match decodeMessage plaintext with
        | .error e => .error (.error (.internal s!"decode: {e}"))
        | .ok message => .ok (some message)

/-- What was sealed to a key pair is opened by it. -/
theorem open_seal (keypair : KeyPair) {plaintext envelope : Bytes} {entropy : Entropy}
    (h : sealEnvelope plaintext keypair.publicKey entropy = .ok envelope) :
    openEnvelope envelope keypair.privateKey = .ok plaintext := by
  unfold sealEnvelope at h
  split at h
  · cases h
  next encrypted hencrypted =>
    obtain rfl := Except.ok.inj h
    simp [openEnvelope, keypair.decrypt_encrypt hencrypted]

/-- A message that was encoded for a key pair is decoded by it. -/
theorem decode_encode {D : Type} {decodeMessage : Bytes → Except String D} (keypair : KeyPair)
    {item src : Bytes} {message : D} {entropy : Entropy}
    (hitem : decodeMessage item = .ok message) (hsrc : src ≠ [])
    (h : KyberEncoder.encode keypair.publicKey item entropy = .ok src) :
    KyberDecoder.decode decodeMessage keypair.privateKey src = .ok (some message) := by
  unfold KyberEncoder.encode at h
  split at h
  · cases h
  next sealed hsealed =>
    obtain rfl := Except.ok.inj h
    simp [KyberDecoder.decode, hsrc, open_seal keypair hsealed, hitem]

/-! ## Panics -/

/-- An envelope gets past the checks to the cipher, with a nonce that is not as long as the nonces
of the cipher. -/
def MisusesNonce [KyberSizes] (envelope privateKey : Bytes) : Prop :=
  ∃ encrypted kemCiphertext, EnvelopeFormat.envelope.decode envelope = .ok encrypted ∧
    encrypted.kemCiphertext = some kemCiphertext ∧
    kemCiphertext.length = KyberSizes.ciphertextBytes ∧
    privateKey.length = secretKeyBytes ∧ encrypted.nonce.length ≠ nonceBytes

/-- Opening panics on these envelopes and on no others. -/
theorem open_panics_iff [KyberSizes] {envelope privateKey : Bytes} :
    openEnvelope envelope privateKey = .error .panicked ↔ MisusesNonce envelope privateKey := by
  -- Opening puts its own words before an error, and lets a panic through.
  have hopen : openEnvelope envelope privateKey = .error .panicked ↔
      ∃ encrypted, EnvelopeFormat.envelope.decode envelope = .ok encrypted ∧
        EncryptionService.decryptWithPrivateKey encrypted privateKey = .error .panicked := by
    unfold openEnvelope
    cases EnvelopeFormat.envelope.decode envelope with
    | error e => simp
    | ok encrypted =>
        cases hdecrypt : EncryptionService.decryptWithPrivateKey encrypted privateKey with
        | ok plaintext => simp [hdecrypt]
        | error stop => cases stop <;> simp [hdecrypt, Stop.map]
  rw [hopen]
  constructor
  · rintro ⟨encrypted, hdecode, hpanic⟩
    obtain ⟨kemCiphertext, key, hkem, hprivate, hkey, hnonce⟩ :=
      EncryptionService.decryptWithPrivateKey_panics_iff.mp hpanic
    have hlength := (KyberSizes.decapsulate_ok_iff.mp ⟨key, hkey⟩).1
    exact ⟨encrypted, kemCiphertext, hdecode, hkem, hlength, hprivate, hnonce⟩
  · rintro ⟨encrypted, kemCiphertext, hdecode, hkem, hlength, hprivate, hnonce⟩
    obtain ⟨key, hkey⟩ := KyberSizes.decapsulate_ok_iff.mpr ⟨hlength, hprivate⟩
    exact ⟨encrypted, hdecode, EncryptionService.decryptWithPrivateKey_panics_iff.mpr
      ⟨kemCiphertext, key, hkem, hprivate, hkey, hnonce⟩⟩

/-- Decoding panics only where opening does. -/
theorem open_panics_of_decode {D : Type} {decodeMessage : Bytes → Except String D}
    {openWith src : Bytes}
    (h : KyberDecoder.decode decodeMessage openWith src = .error .panicked) :
    openEnvelope src openWith = .error .panicked := by
  unfold KyberDecoder.decode at h
  split at h
  · cases h
  cases hopen : openEnvelope src openWith with
  | ok plaintext =>
      simp only [hopen] at h
      cases hmessage : decodeMessage plaintext <;> simp [hmessage] at h
  | error stop =>
      cases stop with
      | panicked => rfl
      | error e => simp [hopen, Stop.map] at h

/-- Opening an envelope and decoding it return, for every private key, exactly when the envelope
does not get past the checks with a nonce of another length. -/
theorem opening_returns_iff [KyberSizes] {D : Type} (decodeMessage : Bytes → Except String D)
    (envelope privateKey : Bytes) :
    (Returns (openEnvelope envelope privateKey) ∧
      Returns (KyberDecoder.decode decodeMessage privateKey envelope)) ↔
      ∀ encrypted kemCiphertext, EnvelopeFormat.envelope.decode envelope = .ok encrypted →
        encrypted.kemCiphertext = some kemCiphertext →
        kemCiphertext.length = KyberSizes.ciphertextBytes →
        privateKey.length = secretKeyBytes → encrypted.nonce.length = nonceBytes := by
  have hopen : Returns (openEnvelope envelope privateKey) ↔ ¬ MisusesNonce envelope privateKey := by
    rw [returns_iff, Ne, open_panics_iff]
  have hdecode : Returns (openEnvelope envelope privateKey) →
      Returns (KyberDecoder.decode decodeMessage privateKey envelope) := by
    intro h
    rw [returns_iff] at h ⊢
    exact fun hpanic => h (open_panics_of_decode hpanic)
  rw [and_iff_left_of_imp hdecode, hopen]
  unfold MisusesNonce
  push Not
  rfl

end Pqc

end InfoVulcan

/-! ## An envelope without a nonce -/

namespace InfoVulcan.Pqc.StandIn

/-- The stand-in seals data as they are. -/
theorem unseal_seal (_ : EncryptionAlgorithm) (_ _ data sealed : Bytes)
    (h : (.ok data : Except String Bytes) = .ok sealed) :
    (.ok sealed : Except String Bytes) = .ok data :=
  h.symm

/-- A stand-in for the cryptographic libraries with their lengths: the secret is all zeros. -/
scoped instance : Primitives where
  Entropy := Unit
  publicKeyBytes := 1184
  secretKeyBytes := 2400
  nonceBytes := 12
  encapsulate publicKey _ :=
    if publicKey.length = 1184 then .ok (List.replicate 1088 0, List.replicate 32 0)
    else .error "InvalidInput"
  decapsulate kemCiphertext privateKey :=
    if kemCiphertext.length = 1088 ∧ privateKey.length = 2400 then .ok (List.replicate 32 0)
    else .error "InvalidInput"
  generateNonce _ _ := List.replicate 12 0
  encrypt _ _ _ data := .ok data
  decrypt _ _ _ sealed := .ok sealed
  length_generateNonce _ _ := by rw [List.length_replicate]
  decrypt_encrypt := unseal_seal

scoped instance : KyberSizes where
  ciphertextBytes := 1088
  decapsulate_ok_iff {kemCiphertext privateKey} := by
    by_cases h : kemCiphertext.length = 1088 ∧ privateKey.length = 2400
    · simp [Primitives.decapsulate, Primitives.secretKeyBytes, h]
    · simp [Primitives.decapsulate, Primitives.secretKeyBytes, h]

scoped instance : EnvelopeFormat where
  envelope := SerdeJson.encryptedData.codec

/-- Encrypted data with an encapsulated key of the right length and an empty nonce. -/
def withoutNonce : EncryptedData :=
  ⟨.default, none, some (List.replicate 1088 0), [], []⟩

/-- Opening it is a panic with every private key of the right length. -/
theorem opening_without_nonce :
    ¬ Returns (openEnvelope (EnvelopeFormat.envelope.encode withoutNonce)
      (List.replicate 2400 0)) := by
  rw [returns_iff, not_not, open_panics_iff]
  have hdecode := EnvelopeFormat.envelope.decode_encode withoutNonce
  have hkem : (List.replicate 1088 (0 : UInt8)).length = 1088 := List.length_replicate
  have hprivate : (List.replicate 2400 (0 : UInt8)).length = 2400 := List.length_replicate
  refine ⟨withoutNonce, List.replicate 1088 0, hdecode, rfl, hkem, hprivate, ?_⟩
  intro hnonce
  cases hnonce

end InfoVulcan.Pqc.StandIn
