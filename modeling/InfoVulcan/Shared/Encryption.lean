import InfoVulcan.Library.Bytes
import InfoVulcan.Shared.Foreign

/-!
# Encryption of ticket bodies

A body is sealed under a fresh symmetric key, and the key is encapsulated for the holder of a
private key. The key encapsulation and the two authenticated ciphers come from libraries
(`Primitives`); all that is assumed of them is that opening inverts sealing under the same key and
nonce. What relates a private to a public key is part of `KeyPair`.
-/

namespace InfoVulcan

/-- Encryption algorithm options. -/
inductive EncryptionAlgorithm where
  | aes256Gcm
  | chaCha20Poly1305
  deriving DecidableEq, Repr

/-- The cryptographic libraries. `Entropy` is what the system's random source yields; errors are
given by their texts. -/
class Primitives where
  Entropy : Type
  publicKeyBytes : Nat
  secretKeyBytes : Nat
  nonceBytes : Nat
  encapsulate : Bytes → Entropy → Except String (Bytes × Bytes)
  decapsulate : Bytes → Bytes → Except String Bytes
  generateNonce : EncryptionAlgorithm → Entropy → Bytes
  encrypt : EncryptionAlgorithm → Bytes → Bytes → Bytes → Except String Bytes
  decrypt : EncryptionAlgorithm → Bytes → Bytes → Bytes → Except String Bytes
  length_generateNonce : ∀ algorithm entropy,
    (generateNonce algorithm entropy).length = nonceBytes
  decrypt_encrypt : ∀ algorithm key nonce data sealed,
    encrypt algorithm key nonce data = .ok sealed → decrypt algorithm key nonce sealed = .ok data

variable [Primitives]

open Primitives

/-- Encrypted data. -/
structure EncryptedData where
  algorithm : EncryptionAlgorithm
  salt : Option Bytes
  kemCiphertext : Option Bytes
  nonce : Bytes
  ciphertext : Bytes
  deriving DecidableEq

/-- Encryption-related errors. -/
inductive EncryptionError where
  | symmetricEncryption (message : String)
  | symmetricDecryption (message : String)
  | keyEncapsulation (message : String)
  | keyDecapsulation (message : String)
  | invalidInput (message : String)
  deriving DecidableEq

instance : ToString EncryptionError where
  toString
    | .symmetricEncryption message => s!"Symmetric encryption failed: {message}"
    | .symmetricDecryption message => s!"Symmetric decryption failed: {message}"
    | .keyEncapsulation message => s!"Key encapsulation failed: {message}"
    | .keyDecapsulation message => s!"Key decapsulation failed: {message}"
    | .invalidInput message => s!"Invalid input: {message}"

namespace EncryptionAlgorithm

/-- The default algorithm. -/
def default : EncryptionAlgorithm := chaCha20Poly1305

/-- The name of the algorithm in error messages. -/
def label : EncryptionAlgorithm → String
  | aes256Gcm => "AES-GCM"
  | chaCha20Poly1305 => "ChaCha20-Poly1305"

end EncryptionAlgorithm

namespace EncryptionService

/-- Encrypts under a symmetric key with a fresh nonce, which is returned first. -/
def encryptSymmetric (key data : Bytes) (algorithm : EncryptionAlgorithm) (entropy : Entropy) :
    Except EncryptionError (Bytes × Bytes) :=
  let nonce := generateNonce algorithm entropy
  match encrypt algorithm key nonce data with
  | .error e => .error (.symmetricEncryption s!"{algorithm.label} encryption failed: {e}")
  | .ok ciphertext => .ok (nonce, ciphertext)

/-- Decrypts under a symmetric key. A nonce of the wrong length is a panic. -/
def decryptSymmetric (key : Bytes) (encrypted : EncryptedData) (algorithm : EncryptionAlgorithm) :
    Except (Stop EncryptionError) Bytes :=
  if encrypted.nonce.length ≠ nonceBytes then .error .panicked
  else
    match decrypt algorithm key encrypted.nonce encrypted.ciphertext with
    | .error e =>
        .error (.error (.symmetricDecryption s!"{algorithm.label} decryption failed: {e}"))
    | .ok data => .ok data

/-- Encrypts data for the holder of the private key. -/
def encryptWithPublicKey (data publicKey : Bytes) (entropy : Entropy) :
    Except EncryptionError EncryptedData :=
  let algorithm := EncryptionAlgorithm.default
  if publicKey.length ≠ publicKeyBytes then
    .error (.invalidInput
      s!"Invalid public key length: expected {publicKeyBytes}, got {publicKey.length}")
  else
    match encapsulate publicKey entropy with
    | .error e => .error (.keyEncapsulation s!"Kyber encapsulation failed: {e}")
    | .ok (kemCiphertext, key) =>
        match encryptSymmetric key data algorithm entropy with
        | .error e => .error e
        | .ok (nonce, ciphertext) =>
            .ok ⟨algorithm, none, some kemCiphertext, nonce, ciphertext⟩

/-- Decrypts data with the private key. -/
def decryptWithPrivateKey (encrypted : EncryptedData) (privateKey : Bytes) :
    Except (Stop EncryptionError) Bytes :=
  match encrypted.kemCiphertext with
  | none => .error (.error (.invalidInput "Missing KEM ciphertext for private key decryption"))
  | some kemCiphertext =>
      if privateKey.length ≠ secretKeyBytes then
        .error (.error (.invalidInput
          s!"Invalid private key length: expected {secretKeyBytes}, got {privateKey.length}"))
      else
        match decapsulate kemCiphertext privateKey with
        | .error e => .error (.error (.keyDecapsulation s!"Kyber decapsulation failed: {e}"))
        | .ok key => decryptSymmetric key encrypted encrypted.algorithm

end EncryptionService

/-! ## Key pairs -/

/-- A public key with its private key. -/
structure KeyPair where
  publicKey : Bytes
  privateKey : Bytes
  length_private : privateKey.length = secretKeyBytes
  decapsulates : ∀ entropy kemCiphertext key,
    encapsulate publicKey entropy = .ok (kemCiphertext, key) →
      decapsulate kemCiphertext privateKey = .ok key

/-- What was encrypted for a key pair is decrypted by it. -/
theorem KeyPair.decrypt_encrypt (keypair : KeyPair) {data : Bytes} {entropy : Entropy}
    {encrypted : EncryptedData}
    (h : EncryptionService.encryptWithPublicKey data keypair.publicKey entropy = .ok encrypted) :
    EncryptionService.decryptWithPrivateKey encrypted keypair.privateKey = .ok data := by
  simp only [EncryptionService.encryptWithPublicKey] at h
  split at h
  · cases h
  split at h
  · cases h
  next kemCiphertext key hkem =>
    simp only [EncryptionService.encryptSymmetric] at h
    cases hseal : encrypt .default key (generateNonce .default entropy) data with
    | error e =>
        rw [hseal] at h
        cases h
    | ok ciphertext =>
        rw [hseal] at h
        cases h
        simp [EncryptionService.decryptWithPrivateKey, EncryptionService.decryptSymmetric,
          keypair.length_private, keypair.decapsulates _ _ _ hkem, length_generateNonce,
          Primitives.decrypt_encrypt _ _ _ _ _ hseal]

end InfoVulcan
