import NestSdk.Encryption.Gcm

/-!
# `Encryption.RoundTrip` — an envelope decrypts to what was encrypted

The fields of the envelope read back, the wrapped key opens to the data key, the payload splits where its tag was
appended, and what opens there is the encoded plaintext.
-/

namespace NestSdk
namespace Encryption

open Js Lib

section

variable {crypto : Crypto} {base64 : Base64} {masterKey : Bytes}

/-- The payload is cut where the tag was appended, whatever the length of the ciphertext. -/
theorem openPayload_encryptFields (haead : crypto.Aead) (draw : Draw) (plaintext : Str) :
    (openPayload draw.dataKey draw.iv (encryptFields crypto masterKey draw plaintext).payload).outcome
        crypto.answer
      = .ok (utf8Decode (utf8Encode plaintext)) := by
  have hlength := haead.tag_length draw.dataKey draw.iv (utf8Encode plaintext) draw.dataKey_length draw.iv_length
  have hopens := haead.opens_sealed draw.dataKey draw.iv (utf8Encode plaintext) draw.dataKey_length draw.iv_length
  generalize hbox : crypto.sealed draw.dataKey draw.iv (utf8Encode plaintext) = box at hlength hopens
  have hpayload : (encryptFields crypto masterKey draw plaintext).payload = box.ciphertext ++ box.authTag := by
    rw [← hbox]
    rfl
  have hiv : box.iv = draw.iv := by
    rw [← hbox]
    rfl
  have hboundary : (box.ciphertext ++ box.authTag).length - ENCRYPTION_AUTH_TAG_BYTES = box.ciphertext.length := by
    rw [List.length_append, hlength, Nat.add_sub_cancel]
  rw [hpayload, openPayload_eq_ok, hboundary, List.take_left, List.drop_left, ← hiv]
  refine ⟨?_, utf8Encode plaintext, hopens, rfl⟩
  rw [List.length_append, hlength]
  exact Nat.le_add_left _ _

/-- **Envelope round trip.** For every master key the constructor accepts, every draw and every string,
    `decrypt` gives back the string as UTF-8 carries it: itself, where it is well formed. -/
theorem decrypt_encrypt (haead : crypto.Aead) {encoded : Str} (hkey : readMasterKey base64 encoded = .ok masterKey)
    (draw : Draw) (p : Str) :
    crypto.decrypt base64 masterKey (encrypt base64 crypto masterKey draw p) = .ok (utf8Decode (utf8Encode p))
      ∧ (isWellFormed p → utf8Decode (utf8Encode p) = p) := by
  refine ⟨?_, utf8Decode_utf8Encode_of_isWellFormed⟩
  refine decrypt_eq_ok.mpr ⟨encryptFields crypto masterKey draw p, draw.dataKey, ?_, ?_, ?_⟩
  · exact readEnvelope_serialize base64 _
  · -- `wrapDataKey` sealed the data key with the master key, whose length the constructor checked
    exact haead.opens_sealed masterKey draw.wrapIv draw.dataKey (length_of_readMasterKey hkey) draw.wrapIv_length
  · exact openPayload_encryptFields haead draw p

end

/-! ## A sample -/

/-- The bytes `n`, `n + 1`, …. -/
def bytesFrom (n k : Nat) : Bytes := (List.range k).map fun i => UInt8.ofNat (n + i)

@[simp] theorem length_bytesFrom (n k : Nat) : (bytesFrom n k).length = k := by
  simp [bytesFrom]

/-- A draw of such bytes. -/
def drawFrom (dataKey iv wrapIv : Nat) : Draw where
  dataKey := bytesFrom dataKey ENCRYPTION_KEY_BYTES
  iv := bytesFrom iv ENCRYPTION_IV_BYTES
  wrapIv := bytesFrom wrapIv ENCRYPTION_IV_BYTES
  dataKey_length := length_bytesFrom dataKey ENCRYPTION_KEY_BYTES
  iv_length := length_bytesFrom iv ENCRYPTION_IV_BYTES
  wrapIv_length := length_bytesFrom wrapIv ENCRYPTION_IV_BYTES

/-- The bytes 0 to 31, in base64. -/
def sampleKey : Str := str "AAECAwQFBgcICQoLDA0ODxAREhMUFRYXGBkaGxwdHh8="

def sampleMasterKey : Bytes := bytesFrom 0 ENCRYPTION_KEY_BYTES

def sampleDraw : Draw := drawFrom 32 1 101

/-- The two sealings of `encrypt("whsec_abc123")` under these keys and nonces, as AES-256-GCM makes them. -/
def sampleRecord : List (Sealing Bytes Box) :=
  [{ key := sampleMasterKey
     message := sampleDraw.dataKey
     box :=
      { iv := sampleDraw.wrapIv
        ciphertext := [55, 100, 116, 143, 232, 191, 201, 42, 2, 146, 20, 236, 17, 52, 54, 50,
          255, 33, 219, 7, 81, 221, 118, 80, 113, 233, 128, 112, 142, 202, 199, 87]
        authTag := [128, 118, 232, 227, 99, 101, 62, 196, 198, 234, 169, 67, 180, 186, 106, 204] } },
   { key := sampleDraw.dataKey
     message := utf8Encode (str "whsec_abc123")
     box :=
      { iv := sampleDraw.iv
        ciphertext := [10, 93, 242, 52, 242, 203, 169, 255, 41, 46, 13, 244]
        authTag := [198, 10, 116, 171, 248, 40, 249, 210, 188, 158, 8, 165, 64, 139, 124, 63] } }]

/-- AES-256-GCM on these sealings. -/
def sampleCrypto : Crypto := totalMode sampleRecord

example : encrypt Base64.standard sampleCrypto sampleMasterKey sampleDraw (str "whsec_abc123")
    = str ("v1.ZWZnaGlqa2xtbm9w.N2R0j+i/ySoCkhTsETQ2Mv8h2wdR3XZQcemAcI7Kx1c=.gHbo42NlPsTG6qlDtLpqzA=="
        ++ ".AQIDBAUGBwgJCgsM.Cl3yNPLLqf8pLg30xgp0q/go+dK8ngilQIt8Pw==") := by
  decide +kernel

/-- The round trip of the envelope above. -/
theorem decrypt_encrypt_sample :
    sampleCrypto.decrypt Base64.standard sampleMasterKey
        (encrypt Base64.standard sampleCrypto sampleMasterKey sampleDraw (str "whsec_abc123"))
      = .ok (str "whsec_abc123") := by
  have haead : sampleCrypto.Aead := totalMode_aead (by decide)
  have hkey : readMasterKey Base64.standard sampleKey = .ok sampleMasterKey := by
    decide +kernel
  obtain ⟨hround, hplain⟩ := decrypt_encrypt haead hkey sampleDraw (str "whsec_abc123")
  rw [hplain (by decide)] at hround
  exact hround

end Encryption
end NestSdk
