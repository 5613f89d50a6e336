import NestSdk.Encryption.Service

/-!
# `Encryption.SecretsMatch` — comparing secrets by their bytes

`secretsMatch` compares two strings by their encodings, in constant time where they are of one length. The
encoding replaces every surrogate without a partner, so what is compared is the strings made well formed.
-/

namespace NestSdk
namespace Encryption

open Js

/-- `timingSafeEqual`: the equality of two buffers of one length, and an exception for any others. -/
def timingSafeEqual (left right : Bytes) : Except Thrown Bool :=
  if left.length = right.length then .ok (left = right) else .error .other

/-- Constant-time comparison of two secrets. -/
def secretsMatch (left right : Str) : Except Thrown Bool :=
  let leftBytes := utf8Encode left
  let rightBytes := utf8Encode right
  if leftBytes.length ≠ rightBytes.length then .ok false else timingSafeEqual leftBytes rightBytes

/-- **The comparison never throws,** and is that of the encodings: the guard on the lengths keeps
    `timingSafeEqual` from throwing, and answers what comparing the bytes would. -/
theorem secretsMatch_eq (left right : Str) :
    secretsMatch left right = .ok (decide (utf8Encode left = utf8Encode right)) := by
  unfold secretsMatch
  by_cases hlength : (utf8Encode left).length = (utf8Encode right).length
  · rw [if_neg (not_not.mpr hlength)]
    unfold timingSafeEqual
    rw [if_pos hlength]
  · rw [if_pos hlength]
    have hne : utf8Encode left ≠ utf8Encode right := by
      intro heq
      apply hlength
      rw [heq]
    rw [decide_eq_false hne]

/-- **What matches** are the strings that are the same made well formed. -/
theorem secretsMatch_eq_true {left right : Str} :
    secretsMatch left right = .ok true ↔ toWellFormed left = toWellFormed right := by
  rw [secretsMatch_eq, Except.ok.injEq, decide_eq_true_iff]
  apply utf8Encode_eq_iff

/-- The comparison is equality: it returns, and says whether the strings are the same. -/
def MatchesExactly (left right : Str) : Prop := secretsMatch left right = .ok (decide (left = right))

/-- Strings that stay apart when made well formed are told apart. -/
theorem matchesExactly_of_apart {left right : Str} (h : toWellFormed left = toWellFormed right → left = right) :
    MatchesExactly left right := by
  unfold MatchesExactly
  by_cases heq : left = right
  · rw [secretsMatch_eq_true.mpr (congrArg toWellFormed heq), decide_eq_true heq]
  · rw [secretsMatch_eq, decide_eq_false heq]
    congr 1
    apply decide_eq_false
    intro hbytes
    exact heq (h (utf8Encode_eq_iff.mp hbytes))

/-- No well-formed secrets are confused. -/
theorem matchesExactly_of_isWellFormed {left right : Str} (hleft : isWellFormed left) (hright : isWellFormed right) :
    MatchesExactly left right := by
  apply matchesExactly_of_apart
  intro heq
  rwa [toWellFormed_of_isWellFormed hleft, toWellFormed_of_isWellFormed hright] at heq

/-- **Comparing secrets is comparing strings,** exactly for two strings that are not made equal by replacing
    their lone surrogates. -/
theorem matchesExactly_iff (left right : Str) :
    MatchesExactly left right ↔ (toWellFormed left = toWellFormed right → left = right) := by
  constructor
  · intro h heq
    unfold MatchesExactly at h
    rw [secretsMatch_eq_true.mpr heq, Except.ok.injEq] at h
    exact of_decide_eq_true h.symm
  · exact matchesExactly_of_apart

/-- A surrogate alone and the character that replaces it are taken for one another. -/
theorem lone_surrogate_matches : ¬ MatchesExactly [0xD800] [0xFFFD] := by
  intro h
  have hsame : secretsMatch [0xD800] [0xFFFD] = .ok true := secretsMatch_eq_true.mpr (by decide)
  rw [MatchesExactly, hsame] at h
  exact absurd h (by decide)

end Encryption
end NestSdk
