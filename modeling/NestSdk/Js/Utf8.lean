import NestSdk.Js.Text

/-!
# `Js.Utf8` — strings to bytes and back

`Buffer.from(s, 'utf8')` encodes the code points of a string, and `toString('utf8')` decodes a buffer. Both
are total: a surrogate without its partner encodes as U+FFFD, and bytes that are not UTF-8 decode to U+FFFD,
one for each longest start of a character that breaks off.

* `codePoints`, `utf16` — a string as code points and back; what comes back is the string `toWellFormed`;
* `utf8Scalar`, `decodeByte` — one code point as bytes, and the decoder's one step, which is the state machine
  of the encoding standard;
* `utf8Decode_utf8Encode` — the two meet at the code points, so what comes back is the string with its lone
  surrogates replaced.
-/

namespace NestSdk
namespace Js

/-- The contents of a `Buffer`. -/
abbrev Bytes := List UInt8

/-! ## Code points -/

/-- What stands for anything that cannot be encoded or decoded. -/
def replacementCharacter : Nat := 0xFFFD

/-- A leading surrogate. -/
def isHighSurrogate (u : UInt16) : Bool := 0xD800 ≤ u.toNat && u.toNat < 0xDC00

/-- A trailing surrogate. -/
def isLowSurrogate (u : UInt16) : Bool := 0xDC00 ≤ u.toNat && u.toNat < 0xE000

/-- The code point of a surrogate pair. -/
def pairCodePoint (high low : UInt16) : Nat :=
  0x10000 + (high.toNat - 0xD800) * 0x400 + (low.toNat - 0xDC00)

/-- The code point of a unit that no partner goes with. -/
def unitCodePoint (u : UInt16) : Nat :=
  if isHighSurrogate u || isLowSurrogate u then replacementCharacter else u.toNat

/-- The code points of a string. -/
def codePoints : Str → List Nat
  | [] => []
  | [u] => [unitCodePoint u]
  | u :: v :: s =>
      if isHighSurrogate u && isLowSurrogate v then pairCodePoint u v :: codePoints s
      else unitCodePoint u :: codePoints (v :: s)

/-- `String.prototype.isWellFormed`: no surrogate is without its partner. -/
def isWellFormed : Str → Bool
  | [] => true
  | [u] => !(isHighSurrogate u || isLowSurrogate u)
  | u :: v :: s =>
      if isHighSurrogate u && isLowSurrogate v then isWellFormed s
      else !(isHighSurrogate u || isLowSurrogate u) && isWellFormed (v :: s)

/-- The units of one code point. -/
def utf16 (c : Nat) : Str :=
  if c < 0x10000 then [UInt16.ofNat c]
  else [UInt16.ofNat (0xD800 + (c - 0x10000) / 0x400), UInt16.ofNat (0xDC00 + (c - 0x10000) % 0x400)]

/-- A code point that is no surrogate: what UTF-8 can encode. -/
def IsScalar (c : Nat) : Prop := c < 0x110000 ∧ ¬(0xD800 ≤ c ∧ c < 0xE000)

theorem unitCodePoint_isScalar (u : UInt16) : IsScalar (unitCodePoint u) := by
  have hu := u.toNat_lt
  unfold unitCodePoint
  split
  · simp [IsScalar, replacementCharacter]
  · rename_i h
    simp only [isHighSurrogate, isLowSurrogate, Bool.or_eq_true, Bool.and_eq_true,
      decide_eq_true_eq] at h
    refine ⟨by omega, by omega⟩

theorem pairCodePoint_isScalar {u v : UInt16} (hu : isHighSurrogate u) (hv : isLowSurrogate v) :
    IsScalar (pairCodePoint u v) := by
  simp only [isHighSurrogate, isLowSurrogate, Bool.and_eq_true, decide_eq_true_eq] at hu hv
  unfold pairCodePoint IsScalar
  omega

theorem codePoints_isScalar (s : Str) : ∀ c ∈ codePoints s, IsScalar c := by
  induction s using codePoints.induct with
  | case1 => simp [codePoints]
  | case2 u => simp [codePoints, unitCodePoint_isScalar]
  | case3 u v s hpair ih =>
      simp only [codePoints, hpair, if_true, List.forall_mem_cons]
      simp only [Bool.and_eq_true] at hpair
      exact ⟨pairCodePoint_isScalar hpair.1 hpair.2, ih⟩
  | case4 u v s hpair ih =>
      simp only [codePoints, hpair, Bool.false_eq_true, if_false, List.forall_mem_cons]
      exact ⟨unitCodePoint_isScalar u, ih⟩

theorem utf16_unitCodePoint {u : UInt16} (h : (isHighSurrogate u || isLowSurrogate u) = false) :
    utf16 (unitCodePoint u) = [u] := by
  have hu := u.toNat_lt
  rw [unitCodePoint, h, if_neg (by simp), utf16, if_pos hu, UInt16.ofNat_toNat]

theorem utf16_pairCodePoint {u v : UInt16} (hu : isHighSurrogate u) (hv : isLowSurrogate v) :
    utf16 (pairCodePoint u v) = [u, v] := by
  simp only [isHighSurrogate, isLowSurrogate, Bool.and_eq_true, decide_eq_true_eq] at hu hv
  have hhigh : 0xD800 + (pairCodePoint u v - 0x10000) / 0x400 = u.toNat := by
    unfold pairCodePoint; omega
  have hlow : 0xDC00 + (pairCodePoint u v - 0x10000) % 0x400 = v.toNat := by
    unfold pairCodePoint; omega
  have hbig : ¬ pairCodePoint u v < 0x10000 := by unfold pairCodePoint; omega
  rw [utf16, if_neg hbig, hhigh, hlow, UInt16.ofNat_toNat, UInt16.ofNat_toNat]

/-- `String.prototype.toWellFormed`: the surrogates without a partner replaced. -/
def toWellFormed : Str → Str
  | [] => []
  | [u] => [if isHighSurrogate u || isLowSurrogate u then UInt16.ofNat replacementCharacter else u]
  | u :: v :: s =>
      if isHighSurrogate u && isLowSurrogate v then u :: v :: toWellFormed s
      else (if isHighSurrogate u || isLowSurrogate u then UInt16.ofNat replacementCharacter else u) ::
        toWellFormed (v :: s)

theorem toWellFormed_of_isWellFormed {s : Str} (h : isWellFormed s) : toWellFormed s = s := by
  induction s using codePoints.induct with
  | case1 => rfl
  | case2 u =>
      simp only [isWellFormed, Bool.not_eq_true'] at h
      simp only [toWellFormed, h, Bool.false_eq_true, if_false]
  | case3 u v s hpair ih =>
      simp only [isWellFormed, hpair, if_true] at h
      simp only [toWellFormed, hpair, if_true, ih h]
  | case4 u v s hpair ih =>
      simp only [isWellFormed, hpair, Bool.false_eq_true, if_false, Bool.and_eq_true, Bool.not_eq_true'] at h
      simp only [toWellFormed, hpair, h.1, Bool.false_eq_true, if_false, ih h.2]

/-- What a unit without a partner is replaced with. -/
theorem utf16_unitCodePoint_eq (u : UInt16) :
    utf16 (unitCodePoint u)
      = [if isHighSurrogate u || isLowSurrogate u then UInt16.ofNat replacementCharacter else u] := by
  cases h : isHighSurrogate u || isLowSurrogate u with
  | false =>
      rw [utf16_unitCodePoint h]
      rfl
  | true =>
      rw [unitCodePoint, h]
      rfl

/-- **The units of a string's code points** are the string, made well formed. -/
theorem utf16_codePoints_eq (s : Str) : (codePoints s).flatMap utf16 = toWellFormed s := by
  induction s using codePoints.induct with
  | case1 => rfl
  | case2 u => rw [codePoints, List.flatMap_singleton, utf16_unitCodePoint_eq, toWellFormed]
  | case3 u v s hpair ih =>
      simp only [codePoints, toWellFormed, hpair, if_true, List.flatMap_cons, ih]
      simp only [Bool.and_eq_true] at hpair
      rw [utf16_pairCodePoint hpair.1 hpair.2]
      rfl
  | case4 u v s hpair ih =>
      simp only [codePoints, toWellFormed, hpair, Bool.false_eq_true, if_false, List.flatMap_cons, ih]
      rw [utf16_unitCodePoint_eq]
      rfl

/-- **A well-formed string is the units of its code points.** -/
theorem utf16_codePoints {s : Str} (h : isWellFormed s) : (codePoints s).flatMap utf16 = s := by
  rw [utf16_codePoints_eq, toWellFormed_of_isWellFormed h]

/-- A unit that leads no pair is a code point of its own. -/
theorem codePoints_cons {u : UInt16} {s : Str} (h : isHighSurrogate u = false) :
    codePoints (u :: s) = unitCodePoint u :: codePoints s := by
  cases s with
  | nil => rfl
  | cons v s => simp only [codePoints, h, Bool.false_and, Bool.false_eq_true, if_false]

/-- A replaced unit leads no pair, and has the code point it had. -/
theorem codePoints_replaced (u : UInt16) (s : Str) :
    codePoints ((if isHighSurrogate u || isLowSurrogate u then UInt16.ofNat replacementCharacter else u) :: s)
      = unitCodePoint u :: codePoints s := by
  cases h : isHighSurrogate u || isLowSurrogate u with
  | false =>
      simp only [Bool.false_eq_true, if_false]
      apply codePoints_cons
      exact (Bool.or_eq_false_iff.mp h).1
  | true =>
      simp only [if_true]
      rw [codePoints_cons rfl, unitCodePoint, unitCodePoint, h]
      rfl

/-- Replacing lone surrogates leaves the code points as they are. -/
theorem codePoints_toWellFormed (s : Str) : codePoints (toWellFormed s) = codePoints s := by
  induction s using codePoints.induct with
  | case1 => rfl
  | case2 u => rw [toWellFormed, codePoints_replaced, codePoints, codePoints]
  | case3 u v s hpair ih => simp only [toWellFormed, codePoints, hpair, if_true, ih]
  | case4 u v s hpair ih =>
      simp only [toWellFormed, hpair, Bool.false_eq_true, if_false]
      rw [codePoints_replaced, ih]
      simp only [codePoints, hpair, Bool.false_eq_true, if_false]

/-- **Two strings have the same code points** if and only if they are the same made well formed. -/
theorem codePoints_eq_iff {s t : Str} : codePoints s = codePoints t ↔ toWellFormed s = toWellFormed t := by
  constructor
  · intro h
    rw [← utf16_codePoints_eq, h, utf16_codePoints_eq]
  · intro h
    rw [← codePoints_toWellFormed, h, codePoints_toWellFormed]

/-! ## Encoding -/

/-- The bytes of one code point. -/
def utf8Scalar (c : Nat) : Bytes :=
  if c < 0x80 then [UInt8.ofNat c]
  else if c < 0x800 then [UInt8.ofNat (0xC0 + c / 0x40), UInt8.ofNat (0x80 + c % 0x40)]
  else if c < 0x10000 then
    [UInt8.ofNat (0xE0 + c / 0x1000), UInt8.ofNat (0x80 + c / 0x40 % 0x40), UInt8.ofNat (0x80 + c % 0x40)]
  else
    [UInt8.ofNat (0xF0 + c / 0x40000), UInt8.ofNat (0x80 + c / 0x1000 % 0x40),
      UInt8.ofNat (0x80 + c / 0x40 % 0x40), UInt8.ofNat (0x80 + c % 0x40)]

/-- `Buffer.from(s, 'utf8')`. -/
def utf8Encode (s : Str) : Bytes := (codePoints s).flatMap utf8Scalar

/-! ## Decoding -/

/-- What the decoder has of a character: its bits so far, the bytes still needed and the bounds of the
    next one. -/
structure Pending where
  codePoint : Nat
  needed : Nat
  lower : Nat
  upper : Nat

/-- Between characters. -/
def Pending.none : Pending := { codePoint := 0, needed := 0, lower := 0x80, upper := 0xBF }

/-- The first byte of a character. The bounds it sets keep out overlong forms, surrogates and code points
    past the last. -/
def leadByte (b : Nat) : List Nat × Pending :=
  if b < 0x80 then ([b], .none)
  else if 0xC2 ≤ b ∧ b ≤ 0xDF then
    ([], { codePoint := b % 0x20, needed := 1, lower := 0x80, upper := 0xBF })
  else if 0xE0 ≤ b ∧ b ≤ 0xEF then
    ([], { codePoint := b % 0x10, needed := 2,
           lower := if b = 0xE0 then 0xA0 else 0x80, upper := if b = 0xED then 0x9F else 0xBF })
  else if 0xF0 ≤ b ∧ b ≤ 0xF4 then
    ([], { codePoint := b % 0x08, needed := 3,
           lower := if b = 0xF0 then 0x90 else 0x80, upper := if b = 0xF4 then 0x8F else 0xBF })
  else ([replacementCharacter], .none)

/-- One byte: the code points it completes, and what is pending after it. -/
def decodeByte (p : Pending) (b : Nat) : List Nat × Pending :=
  if p.needed = 0 then leadByte b
  else if b < p.lower ∨ p.upper < b then
    -- the character broke off; the byte is read again as the start of another
    (replacementCharacter :: (leadByte b).1, (leadByte b).2)
  else if p.needed = 1 then ([p.codePoint * 0x40 + b % 0x40], .none)
  else
    ([], { codePoint := p.codePoint * 0x40 + b % 0x40, needed := p.needed - 1, lower := 0x80, upper := 0xBF })

/-- The code points of the bytes left. -/
def decodeFrom (p : Pending) : Bytes → List Nat
  | [] => if p.needed = 0 then [] else [replacementCharacter]
  | b :: bs => (decodeByte p b.toNat).1 ++ decodeFrom (decodeByte p b.toNat).2 bs

/-- `buffer.toString('utf8')`. -/
def utf8Decode (bytes : Bytes) : Str := (decodeFrom .none bytes).flatMap utf16

/-! ## Round trip -/

theorem decodeFrom_lead {n : Nat} {bs : Bytes} (h : n < 0x100) :
    decodeFrom .none (UInt8.ofNat n :: bs) = (leadByte n).1 ++ decodeFrom (leadByte n).2 bs := by
  rw [decodeFrom, UInt8.toNat_ofNat_of_lt' h]
  rfl

/-- A byte within its bounds that completes the character. -/
theorem decodeFrom_last {p : Pending} {n : Nat} {bs : Bytes} (hneeded : p.needed = 1) (hn : n < 0x100)
    (hlower : p.lower ≤ n) (hupper : n ≤ p.upper) :
    decodeFrom p (UInt8.ofNat n :: bs) = (p.codePoint * 0x40 + n % 0x40) :: decodeFrom .none bs := by
  have hbyte : decodeByte p n = ([p.codePoint * 0x40 + n % 0x40], .none) := by
    rw [decodeByte, if_neg (by omega), if_neg (by omega), if_pos hneeded]
  rw [decodeFrom, UInt8.toNat_ofNat_of_lt' hn, hbyte]
  rfl

/-- A byte within its bounds with more to come. -/
theorem decodeFrom_next {p : Pending} {n k : Nat} {bs : Bytes} (hneeded : p.needed = k + 2) (hn : n < 0x100)
    (hlower : p.lower ≤ n) (hupper : n ≤ p.upper) :
    decodeFrom p (UInt8.ofNat n :: bs)
      = decodeFrom { codePoint := p.codePoint * 0x40 + n % 0x40, needed := k + 1,
                     lower := 0x80, upper := 0xBF } bs := by
  have hbyte : decodeByte p n = ([], { codePoint := p.codePoint * 0x40 + n % 0x40, needed := k + 1,
                                       lower := 0x80, upper := 0xBF }) := by
    rw [decodeByte, if_neg (by omega), if_neg (by omega), if_neg (by omega), hneeded]
    rfl
  rw [decodeFrom, UInt8.toNat_ofNat_of_lt' hn, hbyte]
  rfl

/-- **The decoder reads one encoded code point back.** One case per length; in each the lead byte sets the
    bounds, which the next byte keeps because `c` is no surrogate and no shorter form would do. -/
theorem decodeFrom_utf8Scalar {c : Nat} (h : IsScalar c) (bs : Bytes) :
    decodeFrom .none (utf8Scalar c ++ bs) = c :: decodeFrom .none bs := by
  obtain ⟨hlast, hsurrogate⟩ := h
  unfold utf8Scalar
  by_cases h1 : c < 0x80
  · -- one byte, which is the code point itself
    rw [if_pos h1, List.singleton_append, decodeFrom_lead (by omega), leadByte, if_pos h1]
    rfl
  rw [if_neg h1]
  by_cases h2 : c < 0x800
  · -- two bytes; the lead byte is C2 or more because `c` does not fit in one
    rw [if_pos h2]
    simp only [List.cons_append, List.nil_append]
    rw [decodeFrom_lead (by omega), leadByte, if_neg (by omega), if_pos (by omega), List.nil_append,
      decodeFrom_last rfl (by omega) (by simp) (by simp; omega)]
    congr 1
    simp only
    omega
  rw [if_neg h2]
  by_cases h3 : c < 0x10000
  · -- three bytes; after E0 and ED the second has bounds of its own
    rw [if_pos h3]
    simp only [List.cons_append, List.nil_append]
    rw [decodeFrom_lead (by omega), leadByte, if_neg (by omega), if_neg (by omega), if_pos (by omega),
      List.nil_append, decodeFrom_next (k := 0) rfl (by omega) (by simp only; split <;> omega)
        (by simp only; split <;> omega),
      decodeFrom_last rfl (by omega) (by simp) (by simp; omega)]
    congr 1
    simp only
    omega
  · -- four bytes; after F0 and F4 the second has bounds of its own
    rw [if_neg h3]
    simp only [List.cons_append, List.nil_append]
    rw [decodeFrom_lead (by omega), leadByte, if_neg (by omega), if_neg (by omega), if_neg (by omega),
      if_pos (by omega), List.nil_append,
      decodeFrom_next (k := 1) rfl (by omega) (by simp only; split <;> omega)
        (by simp only; split <;> omega),
      decodeFrom_next (k := 0) rfl (by omega) (by simp) (by simp; omega),
      decodeFrom_last rfl (by omega) (by simp) (by simp; omega)]
    congr 1
    simp only
    omega

/-- By induction on the code points, each read back before the next. -/
theorem decodeFrom_flatMap {cs : List Nat} (h : ∀ c ∈ cs, IsScalar c) :
    decodeFrom .none (cs.flatMap utf8Scalar) = cs := by
  induction cs with
  | nil => rfl
  | cons c cs ih =>
      rw [List.flatMap_cons, decodeFrom_utf8Scalar (h c (by simp))]
      rw [ih fun c' hc' => h c' (by simp [hc'])]

/-- **Encoding loses only which replacement was a lone surrogate.** -/
theorem utf8Encode_eq_iff {s t : Str} : utf8Encode s = utf8Encode t ↔ toWellFormed s = toWellFormed t := by
  rw [← codePoints_eq_iff]
  constructor
  · intro h
    rw [← decodeFrom_flatMap (codePoints_isScalar s), ← decodeFrom_flatMap (codePoints_isScalar t)]
    exact congrArg (decodeFrom .none) h
  · intro h
    rw [utf8Encode, utf8Encode, h]

/-- **What comes back is the string's code points.** -/
theorem utf8Decode_utf8Encode (s : Str) : utf8Decode (utf8Encode s) = (codePoints s).flatMap utf16 := by
  rw [utf8Decode, utf8Encode, decodeFrom_flatMap (codePoints_isScalar s)]

/-- **A well-formed string comes back as it was.** -/
theorem utf8Decode_utf8Encode_of_isWellFormed {s : Str} (h : isWellFormed s) :
    utf8Decode (utf8Encode s) = s := by
  rw [utf8Decode_utf8Encode, utf16_codePoints h]

end Js
end NestSdk
