import NestSdk.Encryption.Service
import NestSdk.Lib.Envelope

/-!
# `Encryption.Gcm` — what the service relies on of AES-256-GCM

`Crypto` says nothing of what its functions do. The round trip relies on `Aead`, that a sealed message opens; the
integrity of envelopes on `Ideal` for `Crypto.Opens`, that nothing else does.

`counterMode` is how GCM is built: the message xored with a key stream, and a tag on the ciphertext that
`finish` compares. Its key stream and its tag are parameters, the block cipher being in them. With a tag for every
ciphertext it is `Aead`; with tags only for the ciphertexts on record it is `Ideal`.
-/

namespace NestSdk
namespace Encryption

open Js Lib

/-- What can be opened: a nonce, a ciphertext and a tag. -/
structure Box where
  iv : Bytes
  ciphertext : Bytes
  authTag : Bytes
deriving DecidableEq

section

variable (crypto : Crypto)

/-- What sealing a message gives. -/
def Crypto.sealed (key iv message : Bytes) : Box :=
  let box := crypto.cipher ENCRYPTION_ALGORITHM key iv ENCRYPTION_AUTH_TAG_BYTES message
  { iv, ciphertext := box.ciphertext, authTag := box.authTag }

/-- Opening `box` with `key` succeeds and gives `message`. -/
def Crypto.Opens (key : Bytes) (box : Box) (message : Bytes) : Prop :=
  crypto.opened key box.iv box.ciphertext box.authTag = .ok message

/-- **AES-256-GCM opens what it sealed,** with keys and nonces of its lengths, and its tags have the length asked
    for. -/
structure Crypto.Aead : Prop where
  opens_sealed : ∀ key iv message, key.length = ENCRYPTION_KEY_BYTES → iv.length = ENCRYPTION_IV_BYTES →
    crypto.Opens key (crypto.sealed key iv message) message
  tag_length : ∀ key iv message, key.length = ENCRYPTION_KEY_BYTES → iv.length = ENCRYPTION_IV_BYTES →
    (crypto.sealed key iv message).authTag.length = ENCRYPTION_AUTH_TAG_BYTES

end

/-! ## Counter mode -/

/-- Bytes xored with a key stream. -/
def xorStream (keystream : Nat → UInt8) (bytes : Bytes) : Bytes :=
  bytes.mapIdx fun i b => b ^^^ keystream i

/-- Xoring twice gives the bytes back. -/
theorem xorStream_xorStream (keystream : Nat → UInt8) (bytes : Bytes) :
    xorStream keystream (xorStream keystream bytes) = bytes := by
  apply List.ext_getElem (by simp [xorStream])
  intro i hi hi'
  simp only [xorStream, List.getElem_mapIdx]
  rw [UInt8.xor_assoc, UInt8.xor_self, UInt8.xor_zero]

/-- GCM over a block cipher, which is in the key stream and the tag. A ciphertext without a tag cannot be
    opened. -/
def counterMode (keystream : (key iv : Bytes) → Nat → UInt8)
    (tag : (key iv ciphertext : Bytes) → Option Bytes) : Crypto where
  cipher _ key iv _ message :=
    let ciphertext := xorStream (keystream key iv) message
    { ciphertext, authTag := (tag key iv ciphertext).getD [] }
  createDecipheriv _ key _ _ := if key.length = ENCRYPTION_KEY_BYTES then .ok () else .error .other
  setAuthTag decipher authTag := if authTag.length = decipher.authTagLength then .ok () else .error .other
  update decipher data := .ok (xorStream (keystream decipher.key decipher.iv) data)
  finish decipher :=
    match decipher.authTag, tag decipher.key decipher.iv decipher.data with
    | some given, some expected => if given = expected then .ok [] else .error .other
    -- no tag was set, or the ciphertext has none
    | _, _ => .error .other

section

variable {keystream : (key iv : Bytes) → Nat → UInt8} {tag : (key iv ciphertext : Bytes) → Option Bytes}

/-- **What counter mode opens:** a ciphertext with its own tag, to what the key stream makes of it. -/
theorem counterMode_opens {key : Bytes} {box : Box} {message : Bytes} :
    (counterMode keystream tag).Opens key box message
      ↔ key.length = ENCRYPTION_KEY_BYTES ∧ box.authTag.length = ENCRYPTION_AUTH_TAG_BYTES
        ∧ tag key box.iv box.ciphertext = some box.authTag
        ∧ xorStream (keystream key box.iv) box.ciphertext = message := by
  unfold Crypto.Opens Crypto.opened opening
  simp only [Prog.outcome_bind_eq_ok, outcome_createDecipheriv, outcome_setAuthTag, outcome_update,
    outcome_finish, Prog.outcome_ret, counterMode, created]
  -- in the order of the calls: a key or a tag of the wrong length throws before the tags are compared
  by_cases hkey : key.length = ENCRYPTION_KEY_BYTES
  · by_cases htag : box.authTag.length = ENCRYPTION_AUTH_TAG_BYTES
    · cases hexpected : tag key box.iv box.ciphertext with
      | none => simp [hkey, htag]
      | some expected =>
          by_cases hsame : box.authTag = expected
          · simp [hkey, hsame]
          · simp [hkey, hsame, Ne.symm hsame]
    · simp [hkey, htag]
  · simp [hkey]

/-- **Counter mode with a sixteen-byte tag for every ciphertext opens what it sealed.** -/
theorem counterMode_aead
    (htag : ∀ key iv ciphertext, ∃ t : Bytes,
      tag key iv ciphertext = some t ∧ t.length = ENCRYPTION_AUTH_TAG_BYTES) :
    (counterMode keystream tag).Aead := by
  have hsealed : ∀ key iv message, tag key iv (xorStream (keystream key iv) message)
        = some ((counterMode keystream tag).sealed key iv message).authTag
      ∧ ((counterMode keystream tag).sealed key iv message).authTag.length = ENCRYPTION_AUTH_TAG_BYTES := by
    intro key iv message
    obtain ⟨t, ht, hlength⟩ := htag key iv (xorStream (keystream key iv) message)
    simp only [Crypto.sealed, counterMode, ht, Option.getD_some]
    exact ⟨trivial, hlength⟩
  refine ⟨?_, ?_⟩
  · intro key iv message hkey _
    obtain ⟨htagged, hlength⟩ := hsealed key iv message
    exact counterMode_opens.mpr ⟨hkey, hlength, htagged, xorStream_xorStream (keystream key iv) message⟩
  · intro key iv message _ _
    exact (hsealed key iv message).2

end

/-! ## Sealings on record -/

/-- The key stream under which the sealings on record were made: a message xored with its ciphertext. -/
def recordedKeystream (record : List (Sealing Bytes Box)) (key iv : Bytes) (i : Nat) : UInt8 :=
  match record.find? fun s => s.key = key ∧ s.box.iv = iv with
  | some s => s.message.getD i 0 ^^^ s.box.ciphertext.getD i 0
  | none => 0

/-- The tag of a ciphertext on record. -/
def recordedTag (record : List (Sealing Bytes Box)) (key iv ciphertext : Bytes) : Option Bytes :=
  (record.find? fun s => s.key = key ∧ s.box.iv = iv ∧ s.box.ciphertext = ciphertext).map (·.box.authTag)

theorem mem_of_recordedTag {record : List (Sealing Bytes Box)} {key iv ciphertext authTag : Bytes}
    (h : recordedTag record key iv ciphertext = some authTag) :
    ∃ s ∈ record, s.key = key ∧ s.box = { iv, ciphertext, authTag } := by
  simp only [recordedTag, Option.map_eq_some_iff] at h
  obtain ⟨s, hfind, hauthTag⟩ := h
  have hfields := List.find?_some hfind
  simp only [decide_eq_true_eq] at hfields
  obtain ⟨hkey, hiv, hciphertext⟩ := hfields
  refine ⟨s, List.mem_of_find?_eq_some hfind, hkey, ?_⟩
  rw [← hiv, ← hciphertext, ← hauthTag]

/-- Counter mode as it behaves on the sealings on record, with a tag of zeros for every other ciphertext. -/
def totalMode (record : List (Sealing Bytes Box)) : Crypto :=
  counterMode (recordedKeystream record) fun key iv ciphertext =>
    some ((recordedTag record key iv ciphertext).getD (List.replicate ENCRYPTION_AUTH_TAG_BYTES 0))

theorem totalMode_aead {record : List (Sealing Bytes Box)}
    (hrecord : ∀ s ∈ record, s.box.authTag.length = ENCRYPTION_AUTH_TAG_BYTES) : (totalMode record).Aead := by
  apply counterMode_aead
  intro key iv ciphertext
  refine ⟨_, rfl, ?_⟩
  cases htag : recordedTag record key iv ciphertext with
  | none => exact List.length_replicate
  | some authTag =>
      obtain ⟨s, hs, -, hbox⟩ := mem_of_recordedTag htag
      have hlength := hrecord s hs
      rw [hbox] at hlength
      exact hlength

/-- Counter mode as it behaves on the sealings on record, where no other ciphertext has a tag. -/
def recordedMode (record : List (Sealing Bytes Box)) : Crypto :=
  counterMode (recordedKeystream record) (recordedTag record)

/-- **With tags on record only, nothing else opens.** -/
theorem recordedMode_ideal {record : List (Sealing Bytes Box)}
    (hrecord : ∀ s ∈ record,
      xorStream (recordedKeystream record s.key s.box.iv) s.box.ciphertext = s.message) :
    Ideal {s | s ∈ record} (recordedMode record).Opens := by
  intro key box message hopens
  obtain ⟨-, -, htag, hmessage⟩ := counterMode_opens.mp hopens
  obtain ⟨s, hs, hkey, hbox⟩ := mem_of_recordedTag htag
  have hplain := hrecord s hs
  rw [hkey, hbox] at hplain
  -- the sealing found is the one asked for, its message being what the key stream makes of it
  have hsealing : s = { key, message, box } := by
    obtain ⟨skey, smessage, sbox⟩ := s
    simp only at hkey hbox hplain
    rw [hkey, hbox, ← hplain, hmessage]
  exact hsealing ▸ hs

end Encryption
end NestSdk
