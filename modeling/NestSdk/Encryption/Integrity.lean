import NestSdk.Encryption.RoundTrip

/-!
# `Encryption.Integrity` — nothing decrypts but what was encrypted

`encrypt` performs two sealings a call, the layers of an envelope in the sense of `Lib.Envelope`. Whatever string
`decrypt` is given, what it does with the decoded fields is to open the two layers, so that `opened_is_issued`
names the call that made both. The base64 decoder and the cut before the tag come after: the boxes opened are
the decoded fields, put back together.
-/

namespace NestSdk
namespace Encryption

open Js Lib

/-- One call to `encrypt`. -/
structure Issue where
  draw : Draw
  plaintext : Str

section

variable (crypto : Crypto) (masterKey : Bytes)

/-- The layers of the envelope a call makes. -/
def Issue.issued (issue : Issue) : Issued Bytes Box where
  dataKey := issue.draw.dataKey
  wrapped := crypto.sealed masterKey issue.draw.wrapIv issue.draw.dataKey
  message := utf8Encode issue.plaintext
  payload := crypto.sealed issue.draw.dataKey issue.draw.iv (utf8Encode issue.plaintext)

/-- The envelope a call returns. -/
def Issue.envelope (base64 : Base64) (issue : Issue) : Str :=
  encrypt base64 crypto masterKey issue.draw issue.plaintext

end

variable {base64 : Base64} {crypto : Crypto} {masterKey : Bytes}

/-- The decoded fields of an envelope are its boxes, taken apart as `decrypt` takes them. -/
theorem readEnvelope_envelope {issue : Issue} {fields : Fields}
    (hwrapped : (issue.issued crypto masterKey).wrapped
      = { iv := fields.wrapped.iv, ciphertext := fields.wrapped.key, authTag := fields.wrapped.authTag })
    {boundary : Nat} (hpayload : (issue.issued crypto masterKey).payload
      = { iv := fields.iv, ciphertext := fields.payload.take boundary,
          authTag := fields.payload.drop boundary }) :
    readEnvelope base64 (issue.envelope crypto masterKey base64) = some fields := by
  rw [Issue.envelope, encrypt, readEnvelope_serialize]
  simp only [Issue.issued, Crypto.sealed, Box.mk.injEq] at hwrapped hpayload
  obtain ⟨hwrapIv, hkey, hwrapTag⟩ := hwrapped
  obtain ⟨hiv, hciphertext, htag⟩ := hpayload
  obtain ⟨⟨wrapIv, wrappedKey, wrapTag⟩, iv, payload⟩ := fields
  simp only [encryptFields, wrapDataKey, Option.some.injEq, Fields.mk.injEq, WrappedKey.mk.injEq]
  refine ⟨⟨hwrapIv, hkey, hwrapTag⟩, hiv, ?_⟩
  rw [hciphertext, htag, List.take_append_drop]

/-- **Envelope integrity.** Take any envelopes issued under one master key, with an ideal AEAD and keys used as
    the service uses them, and any string at all. If it decrypts, its five decoded fields are those of one of
    the envelopes, and it decrypts to that envelope's plaintext. -/
theorem decrypt_integrity {issues : List Issue} {performed : Set (Sealing Bytes Box)}
    (hideal : Ideal performed crypto.Opens)
    (hkeys : Discipline masterKey (issues.map (Issue.issued crypto masterKey)) performed)
    {s text : Str} (h : crypto.decrypt base64 masterKey s = .ok text) :
    ∃ issue ∈ issues, ∃ fields,
      readEnvelope base64 s = some fields
        ∧ readEnvelope base64 (issue.envelope crypto masterKey base64) = some fields
        ∧ text = utf8Decode (utf8Encode issue.plaintext) := by
  obtain ⟨fields, dataKey, hread, hunwrapped, hbody⟩ := decrypt_eq_ok.mp h
  obtain ⟨-, plaintext, hopened, htext⟩ := openPayload_eq_ok.mp hbody
  -- the two boxes opened, the second as it was cut at the boundary
  have hwrapped : crypto.Opens masterKey
      { iv := fields.wrapped.iv, ciphertext := fields.wrapped.key, authTag := fields.wrapped.authTag } dataKey :=
    hunwrapped
  have hpayload : crypto.Opens dataKey
      { iv := fields.iv
        ciphertext := fields.payload.take (fields.payload.length - ENCRYPTION_AUTH_TAG_BYTES)
        authTag := fields.payload.drop (fields.payload.length - ENCRYPTION_AUTH_TAG_BYTES) } plaintext :=
    hopened
  obtain ⟨e, he, hbox, hbox', hmessage⟩ := opened_is_issued hideal hkeys hwrapped hpayload
  obtain ⟨issue, hissue, rfl⟩ := List.mem_map.mp he
  refine ⟨issue, hissue, fields, hread, readEnvelope_envelope hbox hbox', ?_⟩
  have hencoded : utf8Encode issue.plaintext = plaintext := hmessage
  rw [hencoded, htext]

/-! ## A sample -/

def emptyDraw : Draw := drawFrom 64 1 201

/-- Two calls, the second with the empty string. -/
def sampleIssues : List Issue :=
  [{ draw := sampleDraw, plaintext := str "whsec_abc123" }, { draw := emptyDraw, plaintext := [] }]

/-- The four sealings they perform, as AES-256-GCM makes them. -/
def sampleRecords : List (Sealing Bytes Box) :=
  sampleRecord ++
    [{ key := sampleMasterKey
       message := emptyDraw.dataKey
       box :=
        { iv := emptyDraw.wrapIv
          ciphertext := [103, 24, 219, 116, 227, 108, 42, 29, 231, 242, 130, 198, 160, 1, 171, 188,
            142, 212, 208, 172, 27, 207, 5, 195, 149, 167, 210, 217, 54, 50, 232, 179]
          authTag := [1, 17, 73, 122, 221, 173, 29, 118, 178, 9, 30, 6, 173, 93, 49, 126] } },
     { key := emptyDraw.dataKey
       message := []
       box :=
        { iv := emptyDraw.iv
          ciphertext := []
          authTag := [179, 26, 67, 96, 3, 7, 33, 190, 212, 5, 224, 5, 123, 7, 89, 200] } }]

/-- The first envelope without the padding of its parts. -/
def unpadded : Str :=
  str ("v1.ZWZnaGlqa2xtbm9w.N2R0j+i/ySoCkhTsETQ2Mv8h2wdR3XZQcemAcI7Kx1c.gHbo42NlPsTG6qlDtLpqzA"
    ++ ".AQIDBAUGBwgJCgsM.Cl3yNPLLqf8pLg30xgp0q/go+dK8ngilQIt8Pw")

/-- A string that is no envelope, but decodes to the fields of one. -/
theorem decrypt_integrity_unpadded :
    ∃ issue ∈ sampleIssues, ∃ fields,
      readEnvelope Base64.standard unpadded = some fields
        ∧ readEnvelope Base64.standard
            (issue.envelope (recordedMode sampleRecords) sampleMasterKey Base64.standard) = some fields
        ∧ str "whsec_abc123" = utf8Decode (utf8Encode issue.plaintext) := by
  have hideal : Ideal {s | s ∈ sampleRecords} (recordedMode sampleRecords).Opens :=
    recordedMode_ideal (by decide +kernel)
  have hlayers : (sampleIssues.map (Issue.issued (recordedMode sampleRecords) sampleMasterKey)).flatMap
      (Issued.layers sampleMasterKey) = sampleRecords := by decide +kernel
  have hkeys : Discipline sampleMasterKey
      (sampleIssues.map (Issue.issued (recordedMode sampleRecords) sampleMasterKey))
      {s | s ∈ sampleRecords} :=
    hlayers ▸ discipline_layers (by decide +kernel) (by decide +kernel)
  have hdecrypt : (recordedMode sampleRecords).decrypt Base64.standard sampleMasterKey unpadded
      = .ok (str "whsec_abc123") := by decide +kernel
  exact decrypt_integrity hideal hkeys hdecrypt

end Encryption
end NestSdk
