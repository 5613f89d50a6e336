import NestSdk.Auth.Request

/-!
# `Context.CorrelationId` — the id of a request

`assignCorrelationId`: the caller's id when it is usable, a fresh one otherwise, written back onto the
request headers. `randomUUID` is what the runtime would answer. The rule finds again what it has written back
(`correlationIdOf_one`).
-/

namespace NestSdk
namespace Context

open Js Auth

/-- The longest correlation id a caller may supply. -/
def MAX_CORRELATION_ID_LENGTH : Nat := 128

/-- The incoming id, trimmed. -/
def candidate : HeaderValue → Option Str
  | .absent => none
  | .one value => some (trim value)
  | .many values => values.head?.map trim

/-- The id the rule settles on. -/
def correlationIdOf (incoming : HeaderValue) (randomUUID : Str) : Str :=
  match candidate incoming with
  | some candidate =>
      if candidate.length > 0 && candidate.length ≤ MAX_CORRELATION_ID_LENGTH then candidate else randomUUID
  | none => randomUUID

/-- The request's correlation id, and its headers with the id written back. -/
def assignCorrelationId (headers : Str → HeaderValue) (randomUUID : Str) : Str × (Str → HeaderValue) :=
  let correlationId := correlationIdOf (headers HeaderKey.CORRELATION_ID) randomUUID
  (correlationId, Function.update headers HeaderKey.CORRELATION_ID (.one correlationId))

/-! ## What the rule settles on -/

/-- The value the rule looks at. -/
def firstIncoming : HeaderValue → Option Str
  | .absent => none
  | .one value => some value
  | .many values => values.head?

/-- An id that can be logged, answered and searched for. -/
structure Usable (id : Str) : Prop where
  nonempty : id ≠ []
  trimmed : Trimmed id
  short : id.length ≤ 128

/-- What `randomUUID` answers: 36 characters, hexadecimal digits and hyphens. -/
def IsUuid (s : Str) : Prop := s.length = 36 ∧ ∀ u ∈ s, u ∈ str "0123456789abcdef-"

/-- A UUID. -/
def nilUuid : Str := str "00000000-0000-4000-8000-000000000000"

theorem nilUuid_isUuid : IsUuid nilUuid := by
  constructor
  · decide +kernel
  · exact List.forall_iff_forall_mem.mp (by decide +kernel)

theorem IsUuid.usable {s : Str} (h : IsUuid s) : Usable s where
  nonempty := by
    rintro rfl
    exact absurd h.1 (by simp)
  trimmed := by
    have hall : (str "0123456789abcdef-").all (fun u => !isTrimmed u) = true := by decide +kernel
    have hnot : ∀ u ∈ str "0123456789abcdef-", isTrimmed u = false := fun u hu =>
      (Bool.not_eq_true' _).mp (List.all_eq_true.mp hall u hu)
    exact ⟨fun u hu => hnot u (h.2 u (List.mem_of_mem_head? hu)),
      fun u hu => hnot u (h.2 u (List.mem_of_mem_getLast? hu))⟩
  short := by
    have hlength := h.1
    omega

/-! ## What a header can hold -/

/-- The characters of a header's value: tab, the printable ones of ASCII, and those up to `ÿ`. Node's parser delivers no
    others, and `setHeader` throws at any other (`ERR_INVALID_CHAR`). -/
def isHeaderChar (u : UInt16) : Bool := u = 0x09 || (0x20 ≤ u && u ≤ 0x7E) || (0x80 ≤ u && u ≤ 0xFF)

/-- The value of a header. -/
def isHeaderText (s : Str) : Bool := s.all isHeaderChar

/-- A UUID can be a header. -/
theorem IsUuid.headerText {s : Str} (h : IsUuid s) : isHeaderText s = true := by
  have hall : (str "0123456789abcdef-").all isHeaderChar = true := by decide +kernel
  exact List.all_eq_true.mpr fun u hu => List.all_eq_true.mp hall u (h.2 u hu)

/-- Trimming takes characters off and puts none in. -/
theorem isHeaderText_trim {s : Str} (h : isHeaderText s = true) : isHeaderText (trim s) = true := by
  have hsub : List.Sublist (trim s) s :=
    (List.rdropWhile_prefix isTrimmed (l := s.dropWhile isTrimmed)).sublist.trans (List.dropWhile_sublist isTrimmed)
  exact List.all_eq_true.mpr fun u hu => List.all_eq_true.mp h u (hsub.subset hu)

theorem candidate_eq (incoming : HeaderValue) : candidate incoming = (firstIncoming incoming).map trim := by
  cases incoming with
  | absent => rfl
  | one value => rfl
  | many values => rfl

/-- A usable incoming value is the id, trimmed. -/
theorem correlationIdOf_incoming {incoming : HeaderValue} {value : Str}
    (hvalue : firstIncoming incoming = some value) (h : Usable (trim value)) (randomUUID : Str) :
    correlationIdOf incoming randomUUID = trim value := by
  have hpositive : 0 < (trim value).length := List.length_pos_iff.mpr h.nonempty
  unfold correlationIdOf
  rw [candidate_eq, hvalue]
  simp [hpositive, MAX_CORRELATION_ID_LENGTH, h.short]

/-- **The rule is idempotent through its own write-back.** -/
theorem correlationIdOf_one {id : Str} (h : Usable id) (randomUUID : Str) :
    correlationIdOf (.one id) randomUUID = id := by
  have htrim := trim_of_trimmed h.trimmed
  have hvalue : firstIncoming (.one id) = some id := rfl
  rw [correlationIdOf_incoming hvalue (htrim.symm ▸ h), htrim]

/-- **Whatever came in, the id is usable.** -/
theorem correlationIdOf_usable {randomUUID : Str} (h : IsUuid randomUUID) (incoming : HeaderValue) :
    Usable (correlationIdOf incoming randomUUID) := by
  unfold correlationIdOf
  rw [candidate_eq]
  cases firstIncoming incoming with
  | none => exact h.usable
  | some value =>
      dsimp only [Option.map_some]
      split
      next husable =>
        obtain ⟨hpositive, hshort⟩ := (Bool.and_eq_true _ _).mp husable
        exact ⟨List.length_pos_iff.mp (of_decide_eq_true hpositive), trimmed_trim value,
          of_decide_eq_true hshort⟩
      next => exact h.usable

/-- What Node delivers of the header it can write, too. -/
def Delivered (incoming : HeaderValue) : Prop :=
  ∀ value, firstIncoming incoming = some value → isHeaderText value = true

/-- **Whatever came in, the id can be answered with.** -/
theorem correlationIdOf_headerText {randomUUID : Str} (h : IsUuid randomUUID) {incoming : HeaderValue}
    (hincoming : Delivered incoming) : isHeaderText (correlationIdOf incoming randomUUID) = true := by
  unfold correlationIdOf
  rw [candidate_eq]
  cases hvalue : firstIncoming incoming with
  | none => exact h.headerText
  | some value =>
      dsimp only [Option.map_some]
      split
      next => exact isHeaderText_trim (hincoming value hvalue)
      next => exact h.headerText

end Context
end NestSdk
