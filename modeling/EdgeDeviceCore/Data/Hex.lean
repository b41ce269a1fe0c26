import Mathlib

/-!
# Hexadecimal text

Every byte is written as two lower-case digits. Readers take digits of either case.
-/

namespace EdgeDeviceCore.Data

def hexByte (byte : UInt8) : List Char :=
  [Nat.digitChar (byte.toNat / 16), Nat.digitChar (byte.toNat % 16)]

def hexEncode (bytes : List UInt8) : List Char :=
  bytes.flatMap hexByte

def hexValue (digit : Char) : Option ℕ :=
  if digit.isDigit then some (digit.toNat - '0'.toNat)
  else if 'a' ≤ digit ∧ digit ≤ 'f' then some (digit.toNat - 'a'.toNat + 10)
  else if 'A' ≤ digit ∧ digit ≤ 'F' then some (digit.toNat - 'A'.toNat + 10)
  else none

def hexDecode : List Char → Option (List UInt8)
  | [] => some []
  | [_] => none
  | high :: low :: rest => do
      let highValue ← hexValue high
      let lowValue ← hexValue low
      let bytes ← hexDecode rest
      some (UInt8.ofNat (16 * highValue + lowValue) :: bytes)

theorem hexValue_digitChar {value : ℕ} (h : value < 16) :
    hexValue (Nat.digitChar value) = some value := by
  have hall : ∀ value ∈ List.range 16, hexValue (Nat.digitChar value) = some value := by
    decide
  exact hall value (List.mem_range.mpr h)

@[simp]
theorem hexEncode_cons (byte : UInt8) (bytes : List UInt8) :
    hexEncode (byte :: bytes) =
      Nat.digitChar (byte.toNat / 16) :: Nat.digitChar (byte.toNat % 16) :: hexEncode bytes :=
  rfl

/-- Written bytes are read back. -/
theorem hexDecode_hexEncode (bytes : List UInt8) : hexDecode (hexEncode bytes) = some bytes := by
  induction bytes with
  | nil => rfl
  | cons byte rest ih =>
      have hbyte : byte.toNat < 256 := byte.toNat_lt
      have hhigh := hexValue_digitChar (show byte.toNat / 16 < 16 by omega)
      have hlow := hexValue_digitChar (show byte.toNat % 16 < 16 by omega)
      rw [hexEncode_cons, hexDecode, hhigh, hlow, ih]
      simp only [Option.bind_eq_bind, Option.bind_some]
      rw [Nat.div_add_mod, UInt8.ofNat_toNat]

/-- Nothing but hexadecimal digits is written. -/
theorem isSome_hexValue_of_mem {bytes : List UInt8} {digit : Char} (h : digit ∈ hexEncode bytes) :
    (hexValue digit).isSome := by
  obtain ⟨byte, -, hdigit⟩ := List.mem_flatMap.mp h
  have hbyte : byte.toNat < 256 := byte.toNat_lt
  rcases List.mem_pair.mp hdigit with rfl | rfl
  · rw [hexValue_digitChar (by omega)]
    rfl
  · rw [hexValue_digitChar (by omega)]
    rfl

end EdgeDeviceCore.Data
