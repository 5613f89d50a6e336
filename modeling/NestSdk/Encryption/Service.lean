import NestSdk.Js.Base64
import NestSdk.Lib.Prog

/-!
# `Encryption.Service` — `EncryptionService`

`node:crypto` is a parameter, `Crypto`: what sealing gives, and what each call on a decipher returns or throws.
`decrypt` is a program over those calls, so that it can be run against any of their behaviours; a `Decipher` is
what one of them has been given so far, which is all it can act on. Its `final` is `finish` here, since `final`
is a keyword. `encrypt` draws its randomness from a `Draw`
and throws nothing.

* `opening` — the four calls `unwrapDataKey` and `decrypt` both make;
* `readEnvelope` — the five fields of an envelope, decoded; `readEnvelope_serialize` reads back what `serialize`
  wrote;
* `decrypt_eq_ok` — exactly when `decrypt` returns a string.
-/

namespace NestSdk
namespace Encryption

open Js Lib

def ENCRYPTION_ALGORITHM : Str := str "aes-256-gcm"
def ENCRYPTION_KEY_BYTES : Nat := 32
def ENCRYPTION_IV_BYTES : Nat := 12
def ENCRYPTION_AUTH_TAG_BYTES : Nat := 16
def ENVELOPE_VERSION : Str := str "v1"
/-- `.`, one code unit. -/
def ENVELOPE_SEPARATOR : UInt16 := 46

/-! ## The calls to `node:crypto` -/

/-- What is thrown: an `InternalException`, or anything else. -/
inductive Thrown
  | internalException (message : Str)
  | other
deriving DecidableEq

/-- A decipher, by what it has been given. -/
structure Decipher where
  algorithm : Str
  key : Bytes
  iv : Bytes
  authTagLength : Nat
  authTag : Option Bytes
  data : Bytes
deriving DecidableEq

/-- The calls of `decrypt` whose outcome is not its own. -/
inductive Call
  | createDecipheriv (algorithm : Str) (key iv : Bytes) (authTagLength : Nat)
  | setAuthTag (decipher : Decipher) (authTag : Bytes)
  | update (decipher : Decipher) (data : Bytes)
  | finish (decipher : Decipher)
  | fill (buffer : Bytes)

/-- What a call returns. -/
def Call.Reply : Call → Type
  | .createDecipheriv .. => Unit
  | .setAuthTag .. => Unit
  | .update .. => Bytes
  | .finish .. => Bytes
  | .fill .. => Unit

/-- A function that makes these calls. -/
abbrev Calls := Prog Call Call.Reply Thrown

/-- A sealed message: what `update` and `final` gave, and the tag. -/
structure Sealed where
  ciphertext : Bytes
  authTag : Bytes
deriving DecidableEq

/-- `node:crypto`. -/
structure Crypto where
  cipher : (algorithm : Str) → (key iv : Bytes) → (authTagLength : Nat) → Bytes → Sealed
  createDecipheriv : (algorithm : Str) → (key iv : Bytes) → (authTagLength : Nat) → Except Thrown Unit
  setAuthTag : Decipher → Bytes → Except Thrown Unit
  update : Decipher → Bytes → Except Thrown Bytes
  finish : Decipher → Except Thrown Bytes

/-- How each call ends. Filling a buffer never fails. -/
def Crypto.answer (crypto : Crypto) : (c : Call) → Except Thrown c.Reply
  | .createDecipheriv algorithm key iv authTagLength =>
      crypto.createDecipheriv algorithm key iv authTagLength
  | .setAuthTag decipher authTag => crypto.setAuthTag decipher authTag
  | .update decipher data => crypto.update decipher data
  | .finish decipher => crypto.finish decipher
  | .fill _ => .ok ()

def createDecipheriv (key iv : Bytes) : Calls Unit :=
  Prog.ask (Call.createDecipheriv ENCRYPTION_ALGORITHM key iv ENCRYPTION_AUTH_TAG_BYTES)

def Decipher.setAuthTag (decipher : Decipher) (authTag : Bytes) : Calls Unit :=
  Prog.ask (Call.setAuthTag decipher authTag)

def Decipher.update (decipher : Decipher) (data : Bytes) : Calls Bytes :=
  Prog.ask (Call.update decipher data)

def Decipher.finish (decipher : Decipher) : Calls Bytes :=
  Prog.ask (Call.finish decipher)

/-- `buffer.fill(0)`. -/
def fill (buffer : Bytes) : Calls Unit :=
  Prog.ask (Call.fill buffer)

/-- A decipher as `createDecipheriv` makes it. -/
def created (key iv : Bytes) : Decipher :=
  { algorithm := ENCRYPTION_ALGORITHM, key, iv, authTagLength := ENCRYPTION_AUTH_TAG_BYTES,
    authTag := none, data := [] }

/-- `createDecipheriv`, `setAuthTag`, then what `update` and `final` give, concatenated. -/
def opening (key iv ciphertext authTag : Bytes) : Calls Bytes := do
  createDecipheriv key iv
  (created key iv).setAuthTag authTag
  let tagged := { created key iv with authTag := some authTag }
  let head ← tagged.update ciphertext
  let rest ← { tagged with data := ciphertext : Decipher }.finish
  return head ++ rest

section

variable (crypto : Crypto)

@[simp] theorem outcome_createDecipheriv (key iv : Bytes) :
    (createDecipheriv key iv).outcome crypto.answer
      = crypto.createDecipheriv ENCRYPTION_ALGORITHM key iv ENCRYPTION_AUTH_TAG_BYTES :=
  Prog.outcome_ask crypto.answer _

@[simp] theorem outcome_setAuthTag (decipher : Decipher) (authTag : Bytes) :
    (decipher.setAuthTag authTag).outcome crypto.answer = crypto.setAuthTag decipher authTag :=
  Prog.outcome_ask crypto.answer _

@[simp] theorem outcome_update (decipher : Decipher) (data : Bytes) :
    (decipher.update data).outcome crypto.answer = crypto.update decipher data :=
  Prog.outcome_ask crypto.answer _

@[simp] theorem outcome_finish (decipher : Decipher) :
    decipher.finish.outcome crypto.answer = crypto.finish decipher :=
  Prog.outcome_ask crypto.answer _

@[simp] theorem outcome_fill (buffer : Bytes) : (fill buffer).outcome crypto.answer = .ok () :=
  Prog.outcome_ask crypto.answer _

end

/-! ## The master key -/

/-- The message of the error a bad key fails the boot with. -/
def badMasterKey : Str :=
  str "ENCRYPTION_KEY must be exactly 32 base64-encoded bytes. Generate one with: openssl rand -base64 32"

/-- `readMasterKey`: the key has the right length and is spelt as it would be encoded. -/
def readMasterKey (base64 : Base64) (encoded : Str) : Except Str Bytes :=
  let key := base64.decode encoded
  if key.length ≠ ENCRYPTION_KEY_BYTES ∨ base64.encode key ≠ encoded then .error badMasterKey else .ok key

theorem length_of_readMasterKey {base64 : Base64} {encoded : Str} {key : Bytes}
    (h : readMasterKey base64 encoded = .ok key) : key.length = ENCRYPTION_KEY_BYTES := by
  simp only [readMasterKey] at h
  split at h
  · cases h
  · rename_i hkey
    cases h
    exact of_not_not (not_or.mp hkey).1

/-! ## The envelope -/

/-- A data key as it is stored. -/
structure WrappedKey where
  iv : Bytes
  key : Bytes
  authTag : Bytes
deriving DecidableEq

/-- The decoded fields of an envelope. -/
structure Fields where
  wrapped : WrappedKey
  iv : Bytes
  payload : Bytes
deriving DecidableEq

/-- The parts of an envelope, joined. -/
def serialize (base64 : Base64) (fields : Fields) : Str :=
  [ENVELOPE_SEPARATOR].intercalate
    [ENVELOPE_VERSION, base64.encode fields.wrapped.iv, base64.encode fields.wrapped.key,
      base64.encode fields.wrapped.authTag, base64.encode fields.iv, base64.encode fields.payload]

/-- The fields of a string that has the version and five parts after it. -/
def readEnvelope (base64 : Base64) (envelope : Str) : Option Fields :=
  match envelope.splitOn ENVELOPE_SEPARATOR with
  -- `ENVELOPE_FIELD_COUNT` parts after the version
  | [version, wrapIv, wrappedKey, wrapTag, iv, payload] =>
      if version = ENVELOPE_VERSION then
        some {
          wrapped := {
            iv := base64.decode wrapIv
            key := base64.decode wrappedKey
            authTag := base64.decode wrapTag }
          iv := base64.decode iv
          payload := base64.decode payload }
      else none
  | _ => none

/-- **An envelope reads back field for field:** no part has the separator in it, so the split gives the parts
    that were joined. -/
theorem readEnvelope_serialize (base64 : Base64) (fields : Fields) :
    readEnvelope base64 (serialize base64 fields) = some fields := by
  have hdot := base64.dot_notMem_encode
  have hversion : ENVELOPE_SEPARATOR ∉ ENVELOPE_VERSION := by decide
  have hparts : (serialize base64 fields).splitOn ENVELOPE_SEPARATOR
      = [ENVELOPE_VERSION, base64.encode fields.wrapped.iv, base64.encode fields.wrapped.key,
          base64.encode fields.wrapped.authTag, base64.encode fields.iv, base64.encode fields.payload] := by
    refine List.splitOn_intercalate ENVELOPE_SEPARATOR ?_ (List.cons_ne_nil _ _)
    simp only [List.forall_mem_cons]
    exact ⟨hversion, hdot _, hdot _, hdot _, hdot _, hdot _, List.forall_mem_nil _⟩
  simp only [readEnvelope, hparts, if_true, base64.decode_encode]

/-! ## Encrypting -/

/-- The random bytes of one call to `encrypt`. -/
structure Draw where
  dataKey : Bytes
  iv : Bytes
  wrapIv : Bytes
  dataKey_length : dataKey.length = ENCRYPTION_KEY_BYTES
  iv_length : iv.length = ENCRYPTION_IV_BYTES
  wrapIv_length : wrapIv.length = ENCRYPTION_IV_BYTES

section

variable (base64 : Base64) (crypto : Crypto) (masterKey : Bytes)

def wrapDataKey (dataKey iv : Bytes) : WrappedKey :=
  let box := crypto.cipher ENCRYPTION_ALGORITHM masterKey iv ENCRYPTION_AUTH_TAG_BYTES dataKey
  { iv, key := box.ciphertext, authTag := box.authTag }

/-- What `encrypt` stores. It zeroes the data key afterwards, which nothing of this depends on. -/
def encryptFields (draw : Draw) (plaintext : Str) : Fields :=
  let box := crypto.cipher ENCRYPTION_ALGORITHM draw.dataKey draw.iv ENCRYPTION_AUTH_TAG_BYTES
    (utf8Encode plaintext)
  { wrapped := wrapDataKey crypto masterKey draw.dataKey draw.wrapIv
    iv := draw.iv
    payload := box.ciphertext ++ box.authTag }

def encrypt (draw : Draw) (plaintext : Str) : Str :=
  serialize base64 (encryptFields crypto masterKey draw plaintext)

/-! ## Decrypting -/

def couldNotBeDecrypted : Thrown :=
  .internalException (str "Stored secret could not be decrypted — ENCRYPTION_KEY may have changed")

def unwrapDataKey (wrapped : WrappedKey) : Calls Bytes :=
  tryCatch (opening masterKey wrapped.iv wrapped.key wrapped.authTag) fun _ => throw couldNotBeDecrypted

/-- The body of the `try` block of `decrypt`. -/
def openPayload (dataKey iv ciphertextWithTag : Bytes) : Calls Str := do
  if ciphertextWithTag.length < ENCRYPTION_AUTH_TAG_BYTES then
    -- `boundary < 0`: there is no room for a tag
    throw (.internalException (str "Stored secret is truncated"))
  else
    let boundary := ciphertextWithTag.length - ENCRYPTION_AUTH_TAG_BYTES
    let plaintext ← opening dataKey iv (ciphertextWithTag.take boundary) (ciphertextWithTag.drop boundary)
    return utf8Decode plaintext

/-- The `catch` clause of `decrypt`: an `InternalException` is thrown on. -/
def rethrow : Thrown → Calls Str
  | .internalException message => throw (.internalException message)
  | .other => throw couldNotBeDecrypted

def decrypt (envelope : Str) : Calls Str :=
  match readEnvelope base64 envelope with
  | none => throw (.internalException (str "Stored secret is not a recognised encryption envelope"))
  | some fields => do
      let dataKey ← unwrapDataKey masterKey fields.wrapped
      Prog.tryFinally (tryCatch (openPayload dataKey fields.iv fields.payload) rethrow) (fill dataKey)

/-! ## What `decrypt` returns -/

/-- Opening, with the calls carried out. -/
def Crypto.opened (key iv ciphertext authTag : Bytes) : Except Thrown Bytes :=
  (opening key iv ciphertext authTag).outcome crypto.answer

/-- Decrypting, with the calls carried out. -/
def Crypto.decrypt (envelope : Str) : Except Thrown Str :=
  (Encryption.decrypt base64 masterKey envelope).outcome crypto.answer

end

section

variable {base64 : Base64} {crypto : Crypto} {masterKey : Bytes}

theorem unwrapDataKey_eq_ok {wrapped : WrappedKey} {dataKey : Bytes} :
    (unwrapDataKey masterKey wrapped).outcome crypto.answer = .ok dataKey
      ↔ crypto.opened masterKey wrapped.iv wrapped.key wrapped.authTag = .ok dataKey := by
  apply Prog.outcome_tryCatch_eq_ok crypto.answer
  intro e he
  cases he

theorem openPayload_eq_ok {dataKey iv ciphertextWithTag : Bytes} {text : Str} :
    (openPayload dataKey iv ciphertextWithTag).outcome crypto.answer = .ok text
      ↔ ENCRYPTION_AUTH_TAG_BYTES ≤ ciphertextWithTag.length
        ∧ ∃ plaintext,
            crypto.opened dataKey iv
                (ciphertextWithTag.take (ciphertextWithTag.length - ENCRYPTION_AUTH_TAG_BYTES))
                (ciphertextWithTag.drop (ciphertextWithTag.length - ENCRYPTION_AUTH_TAG_BYTES))
              = .ok plaintext
            ∧ utf8Decode plaintext = text := by
  unfold openPayload
  by_cases hshort : ciphertextWithTag.length < ENCRYPTION_AUTH_TAG_BYTES
  · rw [if_pos hshort]
    constructor
    · intro h
      cases h
    · rintro ⟨hlong, -⟩
      exact absurd hshort (not_lt.mpr hlong)
  · rw [if_neg hshort, Prog.outcome_bind_eq_ok]
    simp only [Prog.outcome_ret, Except.ok.injEq]
    exact ⟨fun h => ⟨not_lt.mp hshort, h⟩, fun h => h.2⟩

/-- The `catch` clause throws whatever it is given. -/
theorem rethrow_ne_ok (e : Thrown) (text : Str) : (rethrow e).outcome crypto.answer ≠ .ok text := by
  cases e with
  | internalException message => exact fun h => by cases h
  | other => exact fun h => by cases h

/-- **`decrypt` returns a string** exactly when the envelope reads, its wrapped key opens under the master key,
    and its payload, cut sixteen bytes from its end, opens under what was in there. -/
theorem decrypt_eq_ok {envelope text : Str} :
    crypto.decrypt base64 masterKey envelope = .ok text
      ↔ ∃ fields dataKey, readEnvelope base64 envelope = some fields
        ∧ crypto.opened masterKey fields.wrapped.iv fields.wrapped.key fields.wrapped.authTag = .ok dataKey
        ∧ (openPayload dataKey fields.iv fields.payload).outcome crypto.answer = .ok text := by
  unfold Crypto.decrypt Encryption.decrypt
  cases hread : readEnvelope base64 envelope with
  | none =>
      constructor
      · intro h
        cases h
      · rintro ⟨fields, dataKey, hfields, -⟩
        cases hfields
  | some fields =>
      simp only [Prog.outcome_bind_eq_ok, unwrapDataKey_eq_ok]
      -- neither the `catch` clause nor the `finally` block returns a string of its own
      have hbody : ∀ dataKey : Bytes,
          (Prog.tryFinally (tryCatch (openPayload dataKey fields.iv fields.payload) rethrow)
              (fill dataKey)).outcome crypto.answer = .ok text
            ↔ (openPayload dataKey fields.iv fields.payload).outcome crypto.answer = .ok text := by
        intro dataKey
        rw [Prog.outcome_tryFinally crypto.answer (outcome_fill crypto dataKey)]
        exact Prog.outcome_tryCatch_eq_ok crypto.answer fun e => rethrow_ne_ok e text
      simp only [hbody, Option.some.injEq]
      constructor
      · rintro ⟨dataKey, hkey, htext⟩
        exact ⟨fields, dataKey, rfl, hkey, htext⟩
      · rintro ⟨_, dataKey, rfl, hkey, htext⟩
        exact ⟨dataKey, hkey, htext⟩

end

end Encryption
end NestSdk
