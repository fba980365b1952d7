import Mathlib.Data.List.Basic

/-!
# Percent encoding

Bytes in a set are written as `%` and two hexadecimal digits. A decoder takes such a triple for its byte
and leaves every other `%` alone. If the set has neither `%` nor a hexadecimal digit, then encoding is
invisible to a decoder: it reads from the encoded bytes what it would have read from the plain ones.
-/

namespace NastyEngine.Lib

def hexValue (b : UInt8) : Option UInt8 :=
  if 0x30 ≤ b ∧ b ≤ 0x39 then some (b - 0x30)
  else if 0x41 ≤ b ∧ b ≤ 0x46 then some (b - 0x37)
  else if 0x61 ≤ b ∧ b ≤ 0x66 then some (b - 0x57)
  else none

def hexDigit (n : UInt8) : UInt8 := if n < 10 then 0x30 + n else 0x37 + n

def escaped (hi lo : UInt8) : Option UInt8 := (hexValue hi).bind fun h => (hexValue lo).map (16 * h + ·)

def percentDecode : List UInt8 → List UInt8
  | b :: hi :: lo :: rest =>
    if b = 0x25 then
      match escaped hi lo with
      | some byte => byte :: percentDecode rest
      | none => b :: percentDecode (hi :: lo :: rest)
    else b :: percentDecode (hi :: lo :: rest)
  | bytes => bytes

def percentEncodeByte (set : UInt8 → Bool) (b : UInt8) : List UInt8 :=
  if set b then [0x25, hexDigit (b / 16), hexDigit (b % 16)] else [b]

def percentEncode (set : UInt8 → Bool) (bytes : List UInt8) : List UInt8 := bytes.flatMap (percentEncodeByte set)

theorem escaped_hexDigit (b : UInt8) : escaped (hexDigit (b / 16)) (hexDigit (b % 16)) = some b := by
  have all : ∀ n : Fin 256, escaped (hexDigit (.ofFin n / 16)) (hexDigit (.ofFin n % 16)) = some (.ofFin n) := by
    decide +kernel
  exact all b.toFin

theorem escaped_eq_none {hi lo : UInt8} : escaped hi lo = none ↔ hexValue hi = none ∨ hexValue lo = none := by
  unfold escaped
  cases hexValue hi <;> cases hexValue lo <;> simp

theorem percentDecode_cons_of_ne {b : UInt8} (ne : b ≠ 0x25) (rest : List UInt8) :
    percentDecode (b :: rest) = b :: percentDecode rest := by
  match rest with
  | [] | [_] => rfl
  | hi :: lo :: rest => rw [percentDecode, if_neg ne]

theorem percentDecode_escaped {hi lo byte : UInt8} (eq : escaped hi lo = some byte) (rest : List UInt8) :
    percentDecode (0x25 :: hi :: lo :: rest) = byte :: percentDecode rest := by
  rw [percentDecode, if_pos rfl, eq]

theorem percentDecode_percent {rest : List UInt8} (plain : ∀ hi lo more, rest = hi :: lo :: more → escaped hi lo = none) :
    percentDecode (0x25 :: rest) = 0x25 :: percentDecode rest := by
  match rest with
  | [] | [_] => rfl
  | hi :: lo :: more => rw [percentDecode, if_pos rfl, plain hi lo more rfl]

theorem percentDecode_encodeByte {set : UInt8 → Bool} {b : UInt8} (ne : b ≠ 0x25) (rest : List UInt8) :
    percentDecode (percentEncodeByte set b ++ rest) = b :: percentDecode rest := by
  unfold percentEncodeByte
  split
  · exact percentDecode_escaped (escaped_hexDigit b) rest
  · exact percentDecode_cons_of_ne ne rest

theorem percentDecode_eq_nil {bytes : List UInt8} : percentDecode bytes = [] ↔ bytes = [] := by
  constructor
  · intro empty
    unfold percentDecode at empty
    split at empty
    · split at empty
      · split at empty <;> cases empty
      · cases empty
    · exact empty
  · rintro rfl
    rfl

section Set
variable {set : UInt8 → Bool} (safe : ∀ b, set b → b ≠ 0x25 ∧ hexValue b = none)
include safe

theorem percentEncodeByte_of_hex {b : UInt8} (hex : hexValue b ≠ none) : percentEncodeByte set b = [b] :=
  if_neg fun mem => hex (safe b mem).2

omit safe in
theorem percentEncodeByte_head {b c : UInt8} {rest more : List UInt8} (plain : hexValue b = none)
    (eq : percentEncodeByte set b ++ rest = c :: more) : hexValue c = none := by
  unfold percentEncodeByte at eq
  split at eq
  · cases eq
    decide
  · cases eq
    exact plain

theorem escaped_percentEncode {bytes more : List UInt8} {hi lo : UInt8}
    (plain : ∀ hi lo more, bytes = hi :: lo :: more → escaped hi lo = none)
    (eq : percentEncode set bytes = hi :: lo :: more) : escaped hi lo = none := by
  rw [escaped_eq_none]
  match bytes with
  | [] => cases eq
  | first :: bytes =>
    have eq : percentEncodeByte set first ++ percentEncode set bytes = hi :: lo :: more := eq
    by_cases hex : hexValue first = none
    · exact .inl (percentEncodeByte_head hex eq)
    · rw [percentEncodeByte_of_hex safe hex] at eq
      have eq : percentEncode set bytes = lo :: more := (List.cons.inj eq).2
      match bytes with
      | [] => cases eq
      | second :: bytes =>
        have none := (escaped_eq_none.mp (plain first second bytes rfl)).resolve_left hex
        exact .inr (percentEncodeByte_head none eq)

theorem percentDecode_percentEncode (bytes : List UInt8) :
    percentDecode (percentEncode set bytes) = percentDecode bytes := by
  match bytes with
  | [] => rfl
  | b :: rest =>
    have ih := percentDecode_percentEncode rest
    show percentDecode (percentEncodeByte set b ++ percentEncode set rest) = percentDecode (b :: rest)
    by_cases percent : b = 0x25
    · subst percent
      have kept : percentEncodeByte set 0x25 = [0x25] := if_neg fun mem => (safe _ mem).1 rfl
      rw [kept]
      show percentDecode (0x25 :: percentEncode set rest) = percentDecode (0x25 :: rest)
      by_cases triple : ∃ hi lo more byte, rest = hi :: lo :: more ∧ escaped hi lo = some byte
      · obtain ⟨hi, lo, more, byte, rfl, hit⟩ := triple
        have digits : hexValue hi ≠ none ∧ hexValue lo ≠ none := by
          have some : escaped hi lo ≠ none := by simp [hit]
          rw [Ne, escaped_eq_none, not_or] at some
          exact some
        have encoded : percentEncode set (hi :: lo :: more) = hi :: lo :: percentEncode set more := by
          show percentEncodeByte set hi ++ (percentEncodeByte set lo ++ percentEncode set more) = _
          rw [percentEncodeByte_of_hex safe digits.1, percentEncodeByte_of_hex safe digits.2]
          rfl
        rw [encoded, percentDecode_escaped hit, percentDecode_escaped hit, percentDecode_percentEncode more]
      · have plain : ∀ hi lo more, rest = hi :: lo :: more → escaped hi lo = none := by
          intro hi lo more eq
          cases hit : escaped hi lo with
          | none => rfl
          | some byte => exact absurd ⟨hi, lo, more, byte, eq, hit⟩ triple
        rw [percentDecode_percent plain, percentDecode_percent fun _ _ _ => escaped_percentEncode safe plain, ih]
    · rw [percentDecode_encodeByte percent, percentDecode_cons_of_ne percent, ih]
  termination_by bytes.length

end Set

end NastyEngine.Lib
