import NestSdk.Js.Utf8

/-!
# `Js.Base64` — bytes as text

`buffer.toString('base64')` and `Buffer.from(s, 'base64')`. The decoder is lenient: it takes any string, looks at the
low byte of each code unit, skips what is outside the alphabet, stops at a `=` and reads an unfinished group for the
bytes it holds. `Base64` is what the code relies on and leaves the decoder open on every string no encoder made;
`standard` is one that behaves so.
-/

namespace NestSdk
namespace Js

/-- A base64 codec: text decodes to what it encoded, and has no `.` in it. -/
structure Base64 where
  encode : Bytes → Str
  decode : Str → Bytes
  decode_encode : ∀ bytes, decode (encode bytes) = bytes
  dot_notMem_encode : ∀ bytes, (46 : UInt16) ∉ encode bytes

namespace Base64

/-! ## The standard alphabet -/

/-- `=`, which fills the last group. -/
def padding : UInt16 := 61

/-- The character of six bits. -/
def digit (n : Nat) : UInt16 :=
  if n < 26 then UInt16.ofNat (65 + n)
  else if n < 52 then UInt16.ofNat (71 + n)
  else if n < 62 then UInt16.ofNat (n - 4)
  else if n = 62 then 43
  else 47

/-- The six bits of a character, of this alphabet or the one for URLs. -/
def digitValue (u : UInt16) : Option Nat :=
  if 65 ≤ u.toNat ∧ u.toNat ≤ 90 then some (u.toNat - 65)
  else if 97 ≤ u.toNat ∧ u.toNat ≤ 122 then some (u.toNat - 71)
  else if 48 ≤ u.toNat ∧ u.toNat ≤ 57 then some (u.toNat + 4)
  else if u.toNat = 43 ∨ u.toNat = 45 then some 62
  else if u.toNat = 47 ∨ u.toNat = 95 then some 63
  else none

/-- Three bytes to four characters. -/
def encodeGroups : Bytes → Str
  | [] => []
  | [a] => [digit (a.toNat / 4), digit (a.toNat % 4 * 16), padding, padding]
  | [a, b] =>
      [digit (a.toNat / 4), digit (a.toNat % 4 * 16 + b.toNat / 16), digit (b.toNat % 16 * 4), padding]
  | a :: b :: c :: bytes =>
      digit (a.toNat / 4) :: digit (a.toNat % 4 * 16 + b.toNat / 16) ::
        digit (b.toNat % 16 * 4 + c.toNat / 64) :: digit (c.toNat % 64) :: encodeGroups bytes

/-- Four characters to three bytes. -/
def decodeGroups : List Nat → Bytes
  | w :: x :: y :: z :: digits =>
      UInt8.ofNat (w * 4 + x / 16) :: UInt8.ofNat (x % 16 * 16 + y / 4) ::
        UInt8.ofNat (y % 4 * 64 + z) :: decodeGroups digits
  | [w, x, y] => [UInt8.ofNat (w * 4 + x / 16), UInt8.ofNat (x % 16 * 16 + y / 4)]
  | [w, x] => [UInt8.ofNat (w * 4 + x / 16)]
  | _ => []

/-- Every six bits have their own character. -/
theorem digitValue_digit {n : Nat} (h : n < 64) : digitValue (digit n) = some n := by
  interval_cases n <;> rfl

/-- No digit is a `.`. -/
theorem digit_ne_dot (n : Nat) : (46 : UInt16) ≠ digit n := by
  by_cases h : n < 64
  · interval_cases n <;> decide
  · have hlast : digit n = 47 := by
      rw [digit, if_neg (by omega), if_neg (by omega), if_neg (by omega), if_neg (by omega)]
    rw [hlast]
    decide

/-- The low byte of a code unit. -/
def lowByte (u : UInt16) : UInt16 := UInt16.ofNat (u.toNat % 256)

/-- The digits of a string, up to its first `=`. -/
def digits (s : Str) : List Nat := ((s.map lowByte).takeWhile fun u => u ≠ padding).filterMap digitValue

/-- A digit is its own low byte, and no `=`. -/
theorem lowByte_digit {n : Nat} (h : n < 64) : lowByte (digit n) = digit n ∧ digit n ≠ padding := by
  interval_cases n <;> decide

theorem digits_digit {n : Nat} (h : n < 64) (s : Str) : digits (digit n :: s) = n :: digits s := by
  obtain ⟨hbyte, hdigit⟩ := lowByte_digit h
  unfold digits
  rw [List.map_cons, hbyte, List.takeWhile_cons_of_pos (by simpa using hdigit)]
  exact List.filterMap_cons_some (digitValue_digit h)

/-- What follows the padding is not read. -/
theorem digits_padding (s : Str) : digits (padding :: s) = [] := by
  unfold digits
  rw [List.map_cons, List.takeWhile_cons_of_neg (by decide), List.filterMap_nil]

theorem toNat_ofNat_byte {a : UInt8} {n : Nat} (h : n = a.toNat) : UInt8.ofNat n = a := by
  rw [h, UInt8.ofNat_toNat]

/-- By induction three bytes at a time; the last group has one, two or none. -/
theorem decodeGroups_encodeGroups (bytes : Bytes) :
    decodeGroups (digits (encodeGroups bytes)) = bytes := by
  induction bytes using encodeGroups.induct with
  | case1 => rfl
  | case2 a =>
      have ha := a.toNat_lt
      rw [encodeGroups, digits_digit (by omega), digits_digit (by omega), digits_padding]
      show [UInt8.ofNat (a.toNat / 4 * 4 + a.toNat % 4 * 16 / 16)] = [a]
      rw [toNat_ofNat_byte (a := a) (by omega)]
  | case3 a b =>
      have ha := a.toNat_lt
      have hb := b.toNat_lt
      rw [encodeGroups, digits_digit (by omega), digits_digit (by omega), digits_digit (by omega), digits_padding]
      show decodeGroups [_, _, _] = [a, b]
      rw [decodeGroups, toNat_ofNat_byte (a := a) (by omega), toNat_ofNat_byte (a := b) (by omega)]
  | case4 a b c bytes ih =>
      have ha := a.toNat_lt
      have hb := b.toNat_lt
      have hc := c.toNat_lt
      rw [encodeGroups, digits_digit (by omega), digits_digit (by omega), digits_digit (by omega),
        digits_digit (by omega), decodeGroups, ih, toNat_ofNat_byte (a := a) (by omega),
        toNat_ofNat_byte (a := b) (by omega), toNat_ofNat_byte (a := c) (by omega)]

theorem dot_notMem_encodeGroups (bytes : Bytes) : (46 : UInt16) ∉ encodeGroups bytes := by
  have hpadding : (46 : UInt16) ≠ padding := by decide
  induction bytes using encodeGroups.induct with
  | case1 => simp [encodeGroups]
  | case2 a => simp [encodeGroups, digit_ne_dot, hpadding]
  | case3 a b => simp [encodeGroups, digit_ne_dot, hpadding]
  | case4 a b c bytes ih => simp [encodeGroups, digit_ne_dot, ih]

/-- The standard alphabet with padding. -/
def standard : Base64 where
  encode := encodeGroups
  decode s := decodeGroups (digits s)
  decode_encode := decodeGroups_encodeGroups
  dot_notMem_encode := dot_notMem_encodeGroups

end Base64

end Js
end NestSdk
