import NestSdk.Encryption.Service

/-!
# `Encryption.OneFailure` — `decrypt` fails in one way only

Whatever the calls on the deciphers return or throw, at whatever point of the run: `decrypt` returns a string or
throws an `InternalException`, and a data key it has unwrapped is zeroed by the last thing it does.
-/

namespace NestSdk
namespace Encryption

open Js Lib

/-- What each call comes back with, after the calls made before it. -/
abbrev Behaviour := List Call → (c : Call) → Except Thrown c.Reply

/-- Filling a buffer never fails; the other calls behave as they please. -/
def Behaviour.reply (behaviour : Behaviour) : Behaviour
  | _, .fill _ => .ok ()
  | past, c => behaviour past c

/-- How the failures of `decrypt` look from outside. -/
def Thrown.IsInternal (e : Thrown) : Prop := ∃ message, e = .internalException message

section

variable {behaviour : Behaviour} {past : List Call}

theorem couldNotBeDecrypted_isInternal : couldNotBeDecrypted.IsInternal := ⟨_, rfl⟩

/-- Unwrapping throws what its `catch` clause throws, whatever was caught. -/
theorem unwrapDataKey_error {masterKey : Bytes} {wrapped : WrappedKey} {e : Thrown}
    (h : ((unwrapDataKey masterKey wrapped).runAfter behaviour.reply past).2 = .error e) : e.IsInternal := by
  obtain ⟨caught, past', hthrown⟩ := Prog.runAfter_tryCatch_error h
  obtain rfl := Except.error.inj hthrown
  apply couldNotBeDecrypted_isInternal

/-- So does the body of `decrypt`: an `InternalException` is thrown on, anything else is replaced by one. -/
theorem openPayload_error {dataKey iv payload : Bytes} {e : Thrown}
    (h : ((tryCatch (openPayload dataKey iv payload) rethrow).runAfter behaviour.reply past).2 = .error e) :
    e.IsInternal := by
  obtain ⟨caught, past', hthrown⟩ := Prog.runAfter_tryCatch_error h
  cases caught with
  | internalException message =>
      obtain rfl := Except.error.inj hthrown
      exact ⟨message, rfl⟩
  | other =>
      obtain rfl := Except.error.inj hthrown
      apply couldNotBeDecrypted_isInternal

theorem runAfter_fill (dataKey : Bytes) :
    (fill dataKey).runAfter behaviour.reply past = ([.fill dataKey], .ok ()) := rfl

/-- Once the data key is unwrapped, zeroing it is the last thing that happens, and what the body threw is
    thrown. -/
theorem runAfter_decryptBody (dataKey iv payload : Bytes) :
    ∃ calls, (Prog.tryFinally (tryCatch (openPayload dataKey iv payload) rethrow) (fill dataKey)).runAfter
        behaviour.reply past
      = (calls ++ [.fill dataKey],
          ((tryCatch (openPayload dataKey iv payload) rethrow).runAfter behaviour.reply past).2) := by
  refine ⟨((tryCatch (openPayload dataKey iv payload) rethrow).runAfter behaviour.reply past).1, ?_⟩
  apply Prog.runAfter_tryFinally
  · rfl
  · apply runAfter_fill

/-- **`decrypt` fails in one way only.** For every string, every master key and every behaviour of the crypto
    primitives it returns a string or throws an `InternalException`; and where the data key was unwrapped, its
    buffer is zeroed at the end. -/
theorem decrypt_fails_one_way (base64 : Base64) (masterKey : Bytes) (behaviour : Behaviour) (envelope : Str) :
    (∀ e, ((decrypt base64 masterKey envelope).runAfter behaviour.reply []).2 = .error e → e.IsInternal) ∧
    ∀ fields dataKey, readEnvelope base64 envelope = some fields →
      ((unwrapDataKey masterKey fields.wrapped).runAfter behaviour.reply []).2 = .ok dataKey →
      ∃ calls, ((decrypt base64 masterKey envelope).runAfter behaviour.reply []).1 = calls ++ [.fill dataKey] := by
  unfold decrypt
  cases hread : readEnvelope base64 envelope with
  | none =>
      constructor
      · intro e h
        obtain rfl := Except.error.inj h
        exact ⟨_, rfl⟩
      · intro fields dataKey hfields
        cases hfields
  | some fields =>
      cases hunwrap : (unwrapDataKey masterKey fields.wrapped).runAfter behaviour.reply [] with
      | mk sent unwrapped =>
          have hresult : ((unwrapDataKey masterKey fields.wrapped).runAfter behaviour.reply []).2 = unwrapped :=
            congrArg Prod.snd hunwrap
          cases unwrapped with
          | error thrown =>
              constructor
              · intro e h
                simp only [Prog.runAfter_bind_error hunwrap] at h
                obtain rfl := Except.error.inj h
                exact unwrapDataKey_error hresult
              · rintro _ dataKey ⟨⟩ hok
                rw [hresult] at hok
                cases hok
          | ok dataKey =>
              have hbody := @runAfter_decryptBody behaviour ([] ++ sent) dataKey fields.iv fields.payload
              obtain ⟨calls, hbody⟩ := hbody
              simp only [Prog.runAfter_bind_ok hunwrap, hbody]
              constructor
              · intro e h
                exact openPayload_error h
              · rintro _ dataKey' ⟨⟩ hok
                obtain rfl := Except.ok.inj (hresult.symm.trans hok)
                exact ⟨sent ++ calls, (List.append_assoc _ _ _).symm⟩

end

end Encryption
end NestSdk
