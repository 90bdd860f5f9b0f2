import UnicoreGnss.Lib.WholeText
import UnicoreGnss.Parser.Text

/-!
# Number fields

`parse_int`, `parse_uint32` and `parse_double` hand a field to a C function and accept it if the
number ends where the C string ends. What that means for the field, is said here without the C
functions.

## Main definitions

* `readToNul` — the integer in a field, up to the first NUL

## Main results

* `UnicoreParser.parseInt_eq`, `UnicoreParser.parseUint32_eq`,
  `UnicoreParser.parseDouble_eq_decimalNumber` — what the functions accept
-/

namespace UnicoreGnss

open CNumber Checked

/-! ### What a C function sees of a field -/

/-- The integer that `strtol` or `strtoul` finds in a field, if it gets to the end of the C string.
In an empty string it finds a zero. -/
def readToNul (base : ℕ) (field : Bytes) : Option ℤ :=
  if field = [] then none
  else if cStr field = [] then some 0
  else integerNumber base (cStr field)

theorem readToNul_of_notMem {base : ℕ} {field : Bytes} (h : (0 : UInt8) ∉ field) :
    readToNul base field = integerNumber base field := by
  rw [readToNul, cStr_eq_self h]
  split
  · rename_i hempty
    rw [hempty]
    rfl
  · rfl

/-- The value that `strtol` answers. -/
def toLong (n : ℤ) : ℤ := max (-2 ^ 63) (min (2 ^ 63 - 1) n)

/-- `strtol` in the C string of a field. -/
theorem strtol_cStr {base : ℕ} {field : Bytes} (hne : field ≠ []) :
    (if (strtol base (cStr field)).2 = [] then some (strtol base (cStr field)).1 else none) =
      (readToNul base field).map toLong := by
  rw [readToNul, if_neg hne]
  by_cases hstring : cStr field = []
  · rw [if_pos hstring, hstring]
    rfl
  · rw [if_neg hstring, strtol_eq hstring]
    rfl

/-- `strtoul` in the C string of a field. -/
theorem strtoul_cStr {base : ℕ} {field : Bytes} (hne : field ≠ []) :
    (if (strtoul base (cStr field)).2 = [] then some (strtoul base (cStr field)).1 else none) =
      (readToNul base field).map toUnsignedLong := by
  rw [readToNul, if_neg hne]
  by_cases hstring : cStr field = []
  · rw [if_pos hstring, hstring]
    rfl
  · rw [if_neg hstring, strtoul_eq hstring]

namespace UnicoreParser

/-- **What `parse_int` accepts**: any integer, which it wraps. -/
theorem parseInt_eq (field : Bytes) :
    parseInt field = (readToNul 10 field).map fun n => toInt (toLong n) := by
  by_cases hfield : field = []
  · subst hfield
    rfl
  have hmap : (readToNul 10 field).map (fun n => toInt (toLong n)) =
      ((readToNul 10 field).map toLong).map toInt := (Option.map_map toInt toLong _).symm
  rw [parseInt, hmap, ← strtol_cStr hfield]
  by_cases hrest : (strtol 10 (cStr field)).2 = [] <;> simp [hfield, hrest]

/-- **What `parse_uint32` accepts**: any integer that is small modulo `2 ^ 64`. -/
theorem parseUint32_eq (base : ℕ) (field : Bytes) :
    parseUint32 base field = (((readToNul base field).map toUnsignedLong).filter (· < 2 ^ 32)).map
      UInt32.ofNat := by
  by_cases hfield : field = []
  · subst hfield
    rfl
  rw [parseUint32, ← strtoul_cStr hfield]
  by_cases hrest : (strtoul base (cStr field)).2 = []
  · by_cases hlt : (strtoul base (cStr field)).1 < 2 ^ 32
    · rw [if_neg (by simpa [hfield, hrest] using hlt), if_pos hrest, Option.filter_some,
        if_pos (by simpa using hlt)]
      rfl
    · rw [if_pos (.inr (.inr (Nat.not_lt.mp hlt))), if_pos hrest, Option.filter_some,
        if_neg (by simpa using hlt)]
      rfl
  · rw [if_pos (.inr (.inl hrest)), if_neg hrest]
    rfl

/-- **What `parse_double` accepts**: a decimal number, if the field has no NUL and no hexadecimal
mark. -/
theorem parseDouble_eq_decimalNumber {field : Bytes} (hzero : (0 : UInt8) ∉ field)
    (hmark : ∀ c ∈ field, lower c ≠ 120) : parseDouble field = decimalNumber field := by
  by_cases hne : field = []
  · subst hne
    rfl
  rw [← strtod_eq hne hmark, parseDouble, cStr_eq_self hzero]
  by_cases hrest : (strtod field).2 = []
  · simp [hrest, hne]
  · simp [hrest]

/-- A number that need not be there, as what the field says. -/
theorem fieldIfAny_none {α : Type} (fields : List Bytes) (i : ℕ) (parse : Bytes → Option α) :
    fieldIfAny fields i parse none = value (fields[i]?.bind parse) := by
  rw [fieldIfAny]
  split
  · rename_i h
    rw [get_of_getElem? (List.getElem?_eq_getElem h), List.getElem?_eq_getElem h]
    rfl
  · rename_i h
    rw [List.getElem?_eq_none (Nat.le_of_not_lt h)]
    rfl

end UnicoreParser

end UnicoreGnss
