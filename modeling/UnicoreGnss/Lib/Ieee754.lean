import Mathlib.Data.Nat.Bitwise
import Mathlib.Data.Rat.Defs

/-!
# The numbers of the binary interchange formats

The number a word of the IEEE 754 formats binary32 and binary64 stands for, as an exact rational.
Infinities and NaNs stand for none, and both zeros stand for `0`.
-/

namespace Ieee754

/-- How many bits of the word hold the exponent and the fraction. The sign is the bit above. -/
structure Format where
  exponentBits : ℕ
  fractionBits : ℕ

/-- `float` -/
def binary32 : Format := ⟨8, 23⟩

/-- `double` -/
def binary64 : Format := ⟨11, 52⟩

namespace Format

variable (f : Format) (bits : ℕ)

/-- What is added to the exponent. -/
def bias : ℕ := 2 ^ (f.exponentBits - 1) - 1

/-- The biased exponent. -/
def exponent : ℕ := bits / 2 ^ f.fractionBits % 2 ^ f.exponentBits

/-- The bits below the exponent. -/
def fraction : ℕ := bits % 2 ^ f.fractionBits

/-- The sign bit. -/
def negative : Bool := bits.testBit (f.exponentBits + f.fractionBits)

/-- The number a word stands for. -/
def toRat : Option ℚ :=
  if f.exponent bits = 2 ^ f.exponentBits - 1 then none
  else
    let magnitude : ℚ :=
      if f.exponent bits = 0 then
        f.fraction bits * 2 ^ (1 - (f.bias : ℤ) - f.fractionBits)
      else
        (2 ^ f.fractionBits + f.fraction bits) *
          2 ^ ((f.exponent bits : ℤ) - f.bias - f.fractionBits)
    some (if f.negative bits then -magnitude else magnitude)

/-- The word of all zeros stands for `0`. -/
theorem toRat_zero (h : 1 < f.exponentBits) : f.toRat 0 = some 0 := by
  have hexp : f.exponent 0 = 0 := by simp [exponent]
  have hmax : (0 : ℕ) ≠ 2 ^ f.exponentBits - 1 := by
    have := Nat.pow_lt_pow_right (by decide : 1 < 2) h
    omega
  rw [toRat, hexp, if_neg hmax]
  simp [fraction, negative]

end Format

end Ieee754
