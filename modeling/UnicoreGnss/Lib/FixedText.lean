import UnicoreGnss.Lib.WholeText
import Mathlib.Algebra.Order.Archimedean.Basic
import Mathlib.Data.Rat.Floor
import Mathlib.Tactic.FieldSimp
import Mathlib.Tactic.Linarith
import Mathlib.Tactic.Positivity
import Mathlib.Tactic.Ring

/-!
# Numbers written with a fixed number of places

`%.4f` and its kind write the nearest multiple of a power of ten, and `%07.4f`, `%03d` put zeros in
front up to a width. What is written so is read back as that multiple, which is never further away
than half a unit of the last place.

## Main definitions

* `unitsOf` — how many units of the last place are written
* `roundTo` — the number that is written

## Main results

* `abs_roundTo_sub_le` — how far it is from the number that was to be written
* `decimalNumber_fixedText` — what is written is read back
* `exists_padded_digits`, `leftpad_append` — zeros in front
-/

namespace CNumber

/-! ### Rounding -/

/-- **The nearest integer** is at most a half away. -/
theorem abs_roundHalfEven_sub_le (q : ℚ) : |(roundHalfEven q : ℚ) - q| ≤ 1 / 2 := by
  have hle : (q.floor : ℚ) ≤ q := Int.floor_le q
  have hlt : q < q.floor + 1 := Int.lt_floor_add_one q
  rw [roundHalfEven, abs_le]
  split
  · rename_i hdown
    have hhalf : q - q.floor ≤ 1 / 2 := by
      rcases hdown with hless | ⟨heq, -⟩
      · exact hless.le
      · exact heq.le
    constructor <;> linarith
  · rename_i hup
    have hhalf : 1 / 2 ≤ q - q.floor := by
      by_contra hless
      exact hup (.inl (not_le.mp hless))
    push_cast
    constructor <;> linarith

theorem roundHalfEven_nonneg {q : ℚ} (h : 0 ≤ q) : 0 ≤ roundHalfEven q := by
  have hfloor : 0 ≤ q.floor := Int.floor_nonneg.mpr h
  rw [roundHalfEven]
  split <;> omega

/-- How many units of the last place are written. -/
def unitsOf (places : ℕ) (q : ℚ) : ℕ := (roundHalfEven (|q| * 10 ^ places)).toNat

theorem unitsOf_cast (places : ℕ) (q : ℚ) :
    (unitsOf places q : ℚ) = roundHalfEven (|q| * 10 ^ places) := by
  have hnonneg : 0 ≤ roundHalfEven (|q| * 10 ^ places) := roundHalfEven_nonneg (by positivity)
  rw [unitsOf, ← Int.cast_natCast, Int.toNat_of_nonneg hnonneg]

/-- The number that is written. -/
def roundTo (places : ℕ) (q : ℚ) : ℚ :=
  if q < 0 then -(unitsOf places q / 10 ^ places) else unitsOf places q / 10 ^ places

theorem abs_unitsOf_div_sub_le (places : ℕ) (q : ℚ) :
    |(unitsOf places q : ℚ) / 10 ^ places - (|q|)| ≤ 1 / (2 * 10 ^ places) := by
  have hpos : (0 : ℚ) < 10 ^ places := by positivity
  have hhalf := abs_roundHalfEven_sub_le (|q| * 10 ^ places)
  have hscale : (unitsOf places q : ℚ) / 10 ^ places - |q| =
      (roundHalfEven (|q| * 10 ^ places) - |q| * 10 ^ places) / 10 ^ places := by
    rw [unitsOf_cast]
    field_simp
  rw [hscale, abs_div, abs_of_pos hpos, div_le_div_iff₀ hpos (by positivity)]
  nlinarith

/-- **What is written** is at most half a unit of the last place away. -/
theorem abs_roundTo_sub_le (places : ℕ) (q : ℚ) :
    |roundTo places q - q| ≤ 1 / (2 * 10 ^ places) := by
  have h := abs_unitsOf_div_sub_le places q
  rw [roundTo]
  split
  · rename_i hneg
    rw [abs_of_neg hneg] at h
    have hflip : -((unitsOf places q : ℚ) / 10 ^ places) - q =
        -((unitsOf places q : ℚ) / 10 ^ places - -q) := by ring
    rwa [hflip, abs_neg]
  · rename_i hnonneg
    rwa [abs_of_nonneg (not_lt.mp hnonneg)] at h

/-- There are no more units than the number has, and a half. -/
theorem unitsOf_le {places : ℕ} {q bound : ℚ} (h : |q| * 10 ^ places ≤ bound) :
    (unitsOf places q : ℚ) ≤ bound + 1 / 2 := by
  have hhalf := (abs_le.mp (abs_roundHalfEven_sub_le (|q| * 10 ^ places))).2
  rw [unitsOf_cast]
  linarith

/-! ### Zeros in front -/

/-- Zeros in front of a text stand in front of its first part. -/
theorem leftpad_append (width : ℕ) (front back : List UInt8) :
    (front ++ back).leftpad (width + back.length) 48 = front.leftpad width 48 ++ back := by
  have hcount : width + back.length - (front ++ back).length = width - front.length := by
    rw [List.length_append]
    omega
  rw [List.leftpad, List.leftpad, hcount, List.append_assoc]

theorem length_decimal_le {width n : ℕ} (hwidth : 0 < width) (h : n < 10 ^ width) :
    (decimal n).length ≤ width := by
  rw [decimal, digitsText, List.length_map]
  exact (Nat.length_toDigits_le_iff (by decide) hwidth).mpr h

/-- **A number with zeros in front** has as many digits as the width says. -/
theorem exists_padded_digits {width n : ℕ} (hwidth : 0 < width) (h : n < 10 ^ width) :
    ∃ ds : List ℕ, ((decimal n).leftpad width 48).map (digit 10) = ds.map some ∧
      Nat.ofDigits 10 ds.reverse = n ∧ ds.length = width := by
  obtain ⟨ds, htext, hvalue, -⟩ := exists_digits (by decide : 1 < 10) (by decide) n
  have hlength : ds.length = (decimal n).length := by
    have := congrArg List.length htext
    rw [List.length_map, List.length_map] at this
    exact this.symm
  refine ⟨List.replicate (width - (decimal n).length) 0 ++ ds, ?_, ?_, ?_⟩
  · rw [List.leftpad, List.map_append, decimal, htext, List.map_replicate, List.map_append,
      List.map_replicate]
    rfl
  · rw [List.reverse_append, List.reverse_replicate, Nat.ofDigits_append_replicate_zero, hvalue]
  · have hle := length_decimal_le hwidth h
    rw [List.length_append, List.length_replicate, hlength]
    omega

/-! ### Reading back -/

theorem fixedText_eq (places : ℕ) (q : ℚ) :
    fixedText places q = (if q < 0 then [45] else []) ++
      (decimal (unitsOf places q / 10 ^ places) ++
        46 :: (decimal (unitsOf places q % 10 ^ places)).leftpad places 48) := by
  rw [fixedText, List.append_assoc]
  rfl

/-- A minus sign negates. -/
theorem decimalNumber_minus {text : List UInt8} {value : ℚ}
    (htake : takeDecimal text = some (value, [])) (hlarge : |value| < 2 ^ 1024 - 2 ^ 970) :
    decimalNumber (45 :: text) = some (-value) := by
  have hsign : takeSign ((45 :: text).dropWhile isSpace) = (true, text) := rfl
  rw [decimalNumber]
  simp only [hsign, htake, if_true, Double.ofRat, abs_neg, if_pos hlarge, Double.toRat]

/-- **What is written is read back**, if it is not too large. -/
theorem decimalNumber_fixedText {places : ℕ} (hplaces : 0 < places) {q : ℚ}
    (hlarge : (unitsOf places q : ℚ) / 10 ^ places < 2 ^ 1024 - 2 ^ 970) :
    decimalNumber (fixedText places q) = some (roundTo places q) := by
  obtain ⟨ds, hwhole, hds, hne⟩ := exists_digits (by decide : 1 < 10) (by decide)
    (unitsOf places q / 10 ^ places)
  obtain ⟨fs, hfraction, hfs, hlength⟩ := exists_padded_digits hplaces
    (Nat.mod_lt (unitsOf places q) (by positivity : 0 < 10 ^ places))
  have hunits : Nat.ofDigits 10 (ds ++ fs).reverse = unitsOf places q := by
    rw [List.reverse_append, Nat.ofDigits_append, hds, hfs, List.length_reverse, hlength]
    exact Nat.mod_add_div _ _
  rw [fixedText_eq, roundTo]
  split
  · have htake := takeDecimal_of_digits hwhole hfraction hne
    rw [hunits, hlength] at htake
    refine decimalNumber_minus htake ?_
    rwa [abs_of_nonneg (by positivity)]
  · have hread := decimalNumber_of_digits hwhole hfraction hne
    rw [hunits, hlength] at hread
    exact hread hlarge

/-- A text of a decimal number consists of its characters and of white space. -/
theorem isSpace_or_isDecimal {text : List UInt8} {q : ℚ} (h : decimalNumber text = some q)
    {c : UInt8} (hc : c ∈ text) : isSpace c = true ∨ IsDecimalCharacter c := by
  rw [← List.takeWhile_append_dropWhile (p := isSpace) (l := text), List.mem_append] at hc
  rcases hc with hc | hc
  · exact .inl (List.mem_takeWhile_imp hc)
  · exact .inr ((isDecimal_of_decimalNumber h).2 c hc)

/-- There is nothing else in it. -/
theorem notMem_of_decimalNumber {text : List UInt8} {q : ℚ} (h : decimalNumber text = some q)
    {c : UInt8} (hspace : isSpace c = false) (hdigit : digit 10 c = none)
    (hmark : c ∉ ([43, 45, 46] : List UInt8)) (hlower : lower c ≠ 101) : c ∉ text := by
  intro hc
  rcases isSpace_or_isDecimal h hc with hspace' | ⟨d, hd⟩ | hmark' | hlower'
  · rw [hspace] at hspace'
    cases hspace'
  · rw [hdigit] at hd
    cases hd
  · exact hmark hmark'
  · exact hlower hlower'

/-- There is no hexadecimal mark in it. -/
theorem lower_ne_mark_of_decimalNumber {text : List UInt8} {q : ℚ}
    (h : decimalNumber text = some q) : ∀ c ∈ text, lower c ≠ 120 := by
  intro c hc hx
  rcases isSpace_or_isDecimal h hc with hspace | hdecimal
  · rcases eq_or_eq_of_lower hx with rfl | rfl <;> exact absurd hspace (by decide)
  · exact hdecimal.lower_ne_mark hx

end CNumber
