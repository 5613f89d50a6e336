import NestSdk.Lib.Delimiter
import NestSdk.RateLimit.Service

/-!
# `RateLimit.Key` — which callers share a bucket

A bucket key joins its parts by delimiters it does not escape, `:ratelimit:`, `:{` and `}`, so a part that
carries one of them can read as two. `Imitates` is how; **`key_eq_iff`**: two inputs get one key exactly if
they are the same to the limiter or one imitates the other.
-/

namespace NestSdk
namespace RateLimit

open Js Lib

/-- What `buildRateLimitKey` is told. -/
structure RateLimitKeyDto where
  nameSpace : Str
  scope : Str
  hashTag : Str
  suffix : Option Str
deriving DecidableEq, Repr

section Key

variable (toLowerCase : Str → Str)

def RateLimitKeyDto.key (dto : RateLimitKeyDto) : Str :=
  buildRateLimitKey toLowerCase dto.nameSpace dto.scope dto.hashTag dto.suffix

/-- What the key ends in. -/
def suffixPart : Option Str → Str
  | none | some [] => []
  | some suffix => str ":" ++ suffix

/-- What follows the hash tag's opening brace, and what follows the entity. -/
def RateLimitKeyDto.tagPart (dto : RateLimitKeyDto) : Str :=
  dto.hashTag ++ (str "\x7d" ++ suffixPart dto.suffix)

def RateLimitKeyDto.scopePart (dto : RateLimitKeyDto) : Str :=
  str ":" ++ (toLowerCase dto.scope ++ (str ":\x7b" ++ dto.tagPart))

/-- The same caller: an absent and an empty suffix count as one. -/
structure SameCaller (dto dto' : RateLimitKeyDto) : Prop where
  nameSpace : dto.nameSpace = dto'.nameSpace
  scope : toLowerCase dto.scope = toLowerCase dto'.scope
  hashTag : dto.hashTag = dto'.hashTag
  suffix : dto.suffix.getD [] = dto'.suffix.getD []

/-- `dto'` reads as `dto`: its hash tag, its scope or its namespace goes on with the delimiter that ends the
    other's, and then with whatever the other has there. -/
inductive Imitates (dto dto' : RateLimitKeyDto) : Prop
  | hashTag (rest : Str) (hnameSpace : dto.nameSpace = dto'.nameSpace)
      (hscope : toLowerCase dto.scope = toLowerCase dto'.scope)
      (htag : dto'.hashTag = dto.hashTag ++ (str "\x7d" ++ rest))
      (hrest : suffixPart dto.suffix = rest ++ (str "\x7d" ++ suffixPart dto'.suffix))
  | scope (rest : Str) (hnameSpace : dto.nameSpace = dto'.nameSpace)
      (hscope : toLowerCase dto'.scope = toLowerCase dto.scope ++ (str ":\x7b" ++ rest))
      (hrest : dto.tagPart = rest ++ (str ":\x7b" ++ dto'.tagPart))
  | nameSpace (rest : Str)
      (hnameSpace : dto'.nameSpace = dto.nameSpace ++ (str ":ratelimit" ++ rest))
      (hrest : dto.scopePart toLowerCase = rest ++ (str ":ratelimit" ++ dto'.scopePart toLowerCase))

theorem SameCaller.symm {toLowerCase : Str → Str} {dto dto' : RateLimitKeyDto}
    (h : SameCaller toLowerCase dto dto') : SameCaller toLowerCase dto' dto :=
  ⟨h.nameSpace.symm, h.scope.symm, h.hashTag.symm, h.suffix.symm⟩

theorem key_eq (dto : RateLimitKeyDto) :
    dto.key toLowerCase = dto.nameSpace ++ (str ":ratelimit" ++ dto.scopePart toLowerCase) := by
  have hentity : str ":ratelimit" = str ":" ++ RATE_LIMIT_KEY_ENTITY := by decide
  unfold RateLimitKeyDto.key buildRateLimitKey RateLimitKeyDto.scopePart RateLimitKeyDto.tagPart
  rw [hentity]
  rcases dto.suffix with _ | _ | ⟨unit, suffix⟩
  · simp [suffixPart]
  · simp [suffixPart]
  · simp [suffixPart]

theorem suffixPart_eq_iff {suffix suffix' : Option Str} :
    suffixPart suffix = suffixPart suffix' ↔ suffix.getD [] = suffix'.getD [] := by
  have hcolon : str ":" = [0x3A] := by decide
  rcases suffix with _ | _ | ⟨unit, suffix⟩ <;> rcases suffix' with _ | _ | ⟨unit', suffix'⟩ <;>
    simp [suffixPart, hcolon]

/-- What differs is longer than what it imitates. -/
theorem ne_append_of_ne_nil {a b : Str} (h : b ≠ []) : a ++ b ≠ a := by
  intro hsame
  exact h (List.append_cancel_left (hsame.trans (List.append_nil a).symm))

variable {toLowerCase} {dto dto' : RateLimitKeyDto}

theorem key_of_same (h : SameCaller toLowerCase dto dto') : dto.key toLowerCase = dto'.key toLowerCase := by
  rw [key_eq, key_eq]
  unfold RateLimitKeyDto.scopePart RateLimitKeyDto.tagPart
  rw [h.nameSpace, h.scope, h.hashTag, suffixPart_eq_iff.mpr h.suffix]

theorem key_of_imitates (h : Imitates toLowerCase dto dto') :
    dto.key toLowerCase = dto'.key toLowerCase := by
  rw [key_eq, key_eq]
  cases h with
  | hashTag rest hnameSpace hscope htag hrest =>
      unfold RateLimitKeyDto.scopePart RateLimitKeyDto.tagPart
      rw [hnameSpace, hscope, htag, hrest]
      simp only [List.append_assoc]
  | scope rest hnameSpace hscope hrest =>
      unfold RateLimitKeyDto.scopePart
      rw [hnameSpace, hscope, hrest]
      simp only [List.append_assoc]
  | nameSpace rest hnameSpace hrest =>
      rw [hnameSpace, hrest]
      simp only [List.append_assoc]

/-- Who imitates is another. -/
theorem not_same_of_imitates (h : Imitates toLowerCase dto dto') : ¬ SameCaller toLowerCase dto dto' := by
  intro hsame
  have hlonger : ∀ rest : Str, str "\x7d" ++ rest ≠ [] ∧ str ":\x7b" ++ rest ≠ [] ∧
      str ":ratelimit" ++ rest ≠ [] := by
    intro rest
    refine ⟨?_, ?_, ?_⟩
    · exact List.append_ne_nil_of_left_ne_nil (by decide) rest
    · exact List.append_ne_nil_of_left_ne_nil (by decide) rest
    · exact List.append_ne_nil_of_left_ne_nil (by decide) rest
  cases h with
  | hashTag rest _ _ htag _ =>
      exact ne_append_of_ne_nil (hlonger rest).1 (htag.symm.trans hsame.hashTag.symm)
  | scope rest _ hscope _ =>
      exact ne_append_of_ne_nil (hlonger rest).2.1 (hscope.symm.trans hsame.scope.symm)
  | nameSpace rest hnameSpace _ =>
      exact ne_append_of_ne_nil (hlonger rest).2.2 (hnameSpace.symm.trans hsame.nameSpace.symm)

/-- **Two inputs get one key exactly if they are the same caller or one imitates the other,** delimiter by
    delimiter from the left. -/
theorem key_eq_iff : dto.key toLowerCase = dto'.key toLowerCase ↔
    SameCaller toLowerCase dto dto' ∨ Imitates toLowerCase dto dto' ∨ Imitates toLowerCase dto' dto := by
  have hentity : IsDelimiter (str ":ratelimit") := by decide
  have hscope : IsDelimiter (str ":\x7b") := by decide
  have htag : IsDelimiter (str "\x7d") := by decide
  constructor
  · intro h
    rw [key_eq, key_eq] at h
    rcases (append_delimiter_eq_iff hentity).mp h with
      ⟨hnameSpace, hrest⟩ | ⟨rest, hnameSpace, hrest⟩ | ⟨rest, hnameSpace, hrest⟩
    · rcases (append_delimiter_eq_iff hscope).mp (List.append_cancel_left hrest) with
        ⟨hscope, hrest⟩ | ⟨rest, hscope, hrest⟩ | ⟨rest, hscope, hrest⟩
      · rcases (append_delimiter_eq_iff htag).mp hrest with
          ⟨htag, hrest⟩ | ⟨rest, htag, hrest⟩ | ⟨rest, htag, hrest⟩
        · exact .inl ⟨hnameSpace, hscope, htag, suffixPart_eq_iff.mp hrest⟩
        · exact .inr (.inl (.hashTag rest hnameSpace hscope htag hrest))
        · exact .inr (.inr (.hashTag rest hnameSpace.symm hscope.symm htag hrest))
      · exact .inr (.inl (.scope rest hnameSpace hscope hrest))
      · exact .inr (.inr (.scope rest hnameSpace.symm hscope hrest))
    · exact .inr (.inl (.nameSpace rest hnameSpace hrest))
    · exact .inr (.inr (.nameSpace rest hnameSpace hrest))
  · rintro (hsame | himitates | himitates)
    · exact key_of_same hsame
    · exact key_of_imitates himitates
    · exact (key_of_imitates himitates).symm

/-- Within one scope of one service only a hash tag with a brace of its own imitates another. -/
theorem brace_of_imitates (h : Imitates toLowerCase dto dto') (hnameSpace : dto.nameSpace = dto'.nameSpace)
    (hscope : toLowerCase dto.scope = toLowerCase dto'.scope) : 0x7D ∈ dto'.hashTag := by
  cases h with
  | hashTag rest _ _ htag _ =>
      rw [htag]
      exact List.mem_append_right _ (List.mem_append_left _ (by decide))
  | scope rest _ hother _ =>
      have hlonger : str ":\x7b" ++ rest ≠ [] := List.append_ne_nil_of_left_ne_nil (by decide) rest
      exact absurd (hother.symm.trans hscope.symm) (ne_append_of_ne_nil hlonger)
  | nameSpace rest hother _ =>
      have hlonger : str ":ratelimit" ++ rest ≠ [] := List.append_ne_nil_of_left_ne_nil (by decide) rest
      exact absurd (hother.symm.trans hnameSpace.symm) (ne_append_of_ne_nil hlonger)

/-- **Hash tags without a closing brace, as hashed identifiers are, keep the callers of a scope apart.** -/
theorem separates_of_hashed (hnameSpace : dto.nameSpace = dto'.nameSpace)
    (hscope : toLowerCase dto.scope = toLowerCase dto'.scope) (htag : 0x7D ∉ dto.hashTag)
    (htag' : 0x7D ∉ dto'.hashTag) (hother : ¬ SameCaller toLowerCase dto dto') :
    dto.key toLowerCase ≠ dto'.key toLowerCase := by
  intro hkey
  rcases key_eq_iff.mp hkey with hsame | himitates | himitates
  · exact hother hsame
  · exact htag' (brace_of_imitates himitates hnameSpace hscope)
  · exact htag (brace_of_imitates himitates hnameSpace.symm hscope.symm)

/-- **Different callers never share a bucket, exactly if neither imitates the other.** -/
theorem separates_iff (toLowerCase : Str → Str) (dto dto' : RateLimitKeyDto) :
    (¬ SameCaller toLowerCase dto dto' → dto.key toLowerCase ≠ dto'.key toLowerCase) ↔
      ¬ Imitates toLowerCase dto dto' ∧ ¬ Imitates toLowerCase dto' dto := by
  constructor
  · intro h
    refine ⟨?_, ?_⟩
    · intro himitates
      exact h (not_same_of_imitates himitates) (key_of_imitates himitates)
    · intro himitates
      exact h (fun hsame => not_same_of_imitates himitates hsame.symm) (key_of_imitates himitates).symm
  · rintro ⟨hnot, hnot'⟩ hother hkey
    rcases key_eq_iff.mp hkey with hsame | himitates | himitates
    · exact hother hsame
    · exact hnot himitates
    · exact hnot' himitates

end Key

/-- One tenant's user, and a tenant whose id was chosen to read as both. -/
theorem forged_tag_shares_bucket :
    let user : RateLimitKeyDto := ⟨str "conduit", str "admin", str "a", some (str "b\x7d")⟩
    let forged : RateLimitKeyDto := ⟨str "conduit", str "admin", str "a\x7d:b", none⟩
    ¬ SameCaller id user forged ∧ user.key id = forged.key id := by
  refine ⟨?_, by decide⟩
  intro hsame
  exact absurd hsame.hashTag (by decide)

end RateLimit
end NestSdk
