import SsmBridge.Construction.Errors
import Mathlib.Data.Vector.Basic

/-!
# Session encryption

The model of `src/crypto.rs`: the pair of directional AES-256-GCM keys a session negotiates with
KMS, and the frame layout `nonce ‖ ciphertext ‖ tag` of an encrypted payload.

The AEAD itself is the parameter `Aead`.  An `Aes256Gcm` value is determined by its key, so
`SessionCrypto` keeps the two keys.  The random nonce of `encrypt` is an argument, and so is the
answer of `kms:GenerateDataKey`, which `SessionCrypto.negotiate` turns into the key pair.
-/

namespace SsmBridge

/-- Bytes requested from `kms:GenerateDataKey`; split into two AES-256 keys. -/
def dataKeyBytes : ℕ := 64

/-- AES-256-GCM nonce length. -/
def nonceLen : ℕ := 12

/-- AES-256-GCM authentication tag length. -/
def tagLen : ℕ := 16

/-- A fresh nonce. -/
abbrev Nonce := List.Vector UInt8 nonceLen

/-- Authenticated encryption under a key and a nonce; `none` is a failure of the primitive. -/
structure Aead where
  encrypt : Bytes → Bytes → Bytes → Option Bytes
  decrypt : Bytes → Bytes → Bytes → Option Bytes

/-- A negotiated pair of directional keys for one session. -/
structure SessionCrypto where
  /-- Ciphertext blob handed back to the agent so it can derive the same keys. -/
  cipherTextBlob : Bytes
  encryptKey : Bytes
  decryptKey : Bytes
  deriving DecidableEq

/-- What `kms:GenerateDataKey` answers. -/
structure DataKey where
  plaintext : Option Bytes
  ciphertextBlob : Option Bytes
  deriving DecidableEq

namespace SessionCrypto

/-- Build the directional ciphers from raw 64-byte key material: the first half decrypts, the
second half encrypts. -/
def fromKeyMaterial (material cipherTextBlob : Bytes) : Except Error SessionCrypto :=
  if material.length ≠ dataKeyBytes then
    .error (.crypto s!"expected a {dataKeyBytes}-byte data key, got {material.length}")
  else
    let half := material.length / 2
    .ok { cipherTextBlob, encryptKey := material.drop half, decryptKey := material.take half }

/-- Negotiate a data key with KMS for this session. -/
def negotiate (answer : Except Error DataKey) : Except Error SessionCrypto :=
  match answer with
  | .error e => .error e
  | .ok output =>
      match output.plaintext, output.ciphertextBlob with
      | none, _ => .error (.crypto "KMS returned no plaintext data key")
      | some _, none => .error (.crypto "KMS returned no ciphertext blob")
      | some plaintext, some blob => fromKeyMaterial plaintext blob

/-- Encrypt an outbound payload, prepending the nonce. -/
def encrypt (aead : Aead) (nonce : Nonce) (c : SessionCrypto) (plaintext : Bytes) :
    Except Error Bytes :=
  match aead.encrypt c.encryptKey nonce.toList plaintext with
  | none => .error (.crypto "AES-GCM encryption failed")
  | some ciphertext => .ok (nonce.toList ++ ciphertext)

/-- Decrypt an inbound payload whose first 12 bytes are the nonce. -/
def decrypt (aead : Aead) (c : SessionCrypto) (frame : Bytes) : Except Error Bytes :=
  if frame.length < nonceLen + tagLen then
    .error (.crypto
      s!"encrypted frame is {frame.length} bytes, shorter than the {nonceLen + tagLen}-byte minimum")
  else
    match aead.decrypt c.decryptKey (frame.take nonceLen) (frame.drop nonceLen) with
    | none => .error (.crypto "AES-GCM authentication failed: frame corrupt or key mismatch")
    | some plaintext => .ok plaintext

end SessionCrypto

end SsmBridge
