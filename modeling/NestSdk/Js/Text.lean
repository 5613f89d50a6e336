import Mathlib

/-!
# `Js.Text` — strings as code units

A JavaScript string is a sequence of UTF-16 code units, and `length`, `slice` and the rest count those.
`Str` is that sequence; `str` spells a literal. A separator of one code unit splits a string by
`List.splitOn` and joins one by `List.intercalate`.
-/

namespace NestSdk
namespace Js

/-- A JavaScript string: its UTF-16 code units. -/
abbrev Str := List UInt16

/-- Membership in a list of strings is decided by comparing them. -/
instance : LawfulBEq Str := inferInstance

/-- The UTF-16 encoding of one character. -/
def encodeChar (c : Char) : Str :=
  if c.val < 0x10000 then [c.val.toUInt16]
  else [(0xD800 + (c.val - 0x10000) / 0x400).toUInt16, (0xDC00 + (c.val - 0x10000) % 0x400).toUInt16]

/-- A string literal. -/
def str (s : String) : Str := s.toList.flatMap encodeChar

/-- An identifier (`UUID` of the contracts package): compared, never computed with. -/
abbrev Uuid := Str

/-- White space and line terminators, which `trim` takes off. -/
def isTrimmed (u : UInt16) : Bool :=
  u ∈ ([0x09, 0x0A, 0x0B, 0x0C, 0x0D, 0x20, 0xA0, 0x1680, 0x2000, 0x2001, 0x2002, 0x2003, 0x2004, 0x2005,
    0x2006, 0x2007, 0x2008, 0x2009, 0x200A, 0x2028, 0x2029, 0x202F, 0x205F, 0x3000, 0xFEFF] : List UInt16)

/-- `String.prototype.trim`. -/
def trim (s : Str) : Str := (s.dropWhile isTrimmed).rdropWhile isTrimmed

/-- No white space leads or trails. -/
def Trimmed (s : Str) : Prop :=
  (∀ u ∈ s.head?, isTrimmed u = false) ∧ ∀ u ∈ s.getLast?, isTrimmed u = false

/-- What `trim` leaves is trimmed. -/
theorem trimmed_trim (s : Str) : Trimmed (trim s) := by
  constructor
  · intro u hu
    -- what is taken off at the end leaves the first code unit first
    obtain ⟨rest, hrest⟩ := List.rdropWhile_prefix isTrimmed (l := s.dropWhile isTrimmed)
    have hhead : (s.dropWhile isTrimmed).head? = some u := by
      rw [← hrest, List.head?_append]
      exact Option.or_eq_some_iff.mpr (.inl hu)
    have hnot := List.head?_dropWhile_not isTrimmed s
    rw [hhead] at hnot
    simpa using hnot
  · intro u hu
    obtain ⟨hne, rfl⟩ := List.mem_getLast?_eq_getLast hu
    exact Bool.eq_false_iff.mpr (List.rdropWhile_last_not isTrimmed (s.dropWhile isTrimmed) hne)

/-- `trim` leaves what is trimmed as it is. -/
theorem trim_of_trimmed {s : Str} (h : Trimmed s) : trim s = s := by
  have hdrop : s.dropWhile isTrimmed = s := by
    cases s with
    | nil => rfl
    | cons u units => exact List.dropWhile_cons_of_neg (by simp [h.1 u rfl])
  unfold trim
  rw [hdrop, List.rdropWhile_eq_self_iff]
  intro hne
  simp [h.2 _ (List.getLast?_eq_some_getLast hne)]

end Js
end NestSdk
