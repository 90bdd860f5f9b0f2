import Mathlib.Data.List.Basic
import Mathlib.Data.List.TakeWhile
import Mathlib.Data.Nat.Digits.Lemmas
import UnicoreGnss.Lib.CNumber

/-!
# Numbers that make up a whole text

The C functions read a number at the front of a text. Callers that accept a text only if it has been
read to its end accept a language of their own: white space, a sign, and an integer or a decimal
number up to the end.

## Main definitions

* `integerNumber`, `decimalNumber` — the number a whole text denotes

## Main results

* `strtol_eq`, `strtoul_eq`, `strtod_eq` — what the C functions read to the end of a text
* `isDecimal_of_integerNumber`, `isDecimal_of_decimalNumber` — the characters of such a text
-/

namespace CNumber

/-- White space, a sign and digits up to the end of the text. -/
def integerNumber (base : ℕ) (text : List UInt8) : Option ℤ :=
  match scanInteger base text with
  | some (negative, magnitude, []) => some (if negative then -(magnitude : ℤ) else magnitude)
  | _ => none

/-- White space, a sign and a decimal number up to the end of the text. -/
def decimalNumber (text : List UInt8) : Option ℚ :=
  let signed := takeSign (text.dropWhile isSpace)
  match takeDecimal signed.2 with
  | some (value, []) => (Double.ofRat (if signed.1 then -value else value)).toRat
  | _ => none

/-! ### Characters of numbers -/

theorem lt_of_isSpace {c : UInt8} (h : isSpace c = true) : c < 0x80 := by
  rw [UInt8.lt_iff_toNat_lt]
  change c.toNat < 128
  simp only [isSpace, Bool.or_eq_true, Bool.and_eq_true, decide_eq_true_eq, beq_iff_eq,
    UInt8.le_iff_toNat_le, ← UInt8.toNat_inj] at h
  change 9 ≤ c.toNat ∧ c.toNat ≤ 13 ∨ c.toNat = 32 at h
  omega

theorem lt_of_digit {base : ℕ} {c : UInt8} {d : ℕ} (h : digit base c = some d) : c < 0x80 := by
  have hrange := toNat_of_digitValue (digitValue_of_digit h)
  rw [UInt8.lt_iff_toNat_lt]
  change c.toNat < 128
  omega

/-- A character is in lower case or 32 below it. -/
theorem eq_or_eq_of_lower {c l : UInt8} (h : lower c = l) : c = l ∨ c = l - 32 := by
  rw [lower] at h
  split at h
  · exact .inr (by rw [← h, UInt8.add_sub_cancel])
  · exact .inl h

theorem lt_of_lower {c l : UInt8} (h : lower c = l) (hl : l < 0x80) (hl' : l - 32 < 0x80) :
    c < 0x80 := by
  rcases eq_or_eq_of_lower h with rfl | rfl
  · exact hl
  · exact hl'

theorem takeSign_suffix (text : List UInt8) : (takeSign text).2 <:+ text := by
  cases text with
  | nil => exact List.suffix_rfl
  | cons c cs =>
    rw [takeSign]
    split_ifs
    · exact List.suffix_cons c cs
    · exact List.suffix_cons c cs
    · exact List.suffix_rfl

theorem skipHexMark_suffix (base : ℕ) (text : List UInt8) : skipHexMark base text <:+ text := by
  unfold skipHexMark
  split
  · rename_i x c cs
    split
    · exact ⟨[48, x], rfl⟩
    · exact List.suffix_rfl
  · exact List.suffix_rfl

theorem mem_takeSign {text : List UInt8} {c : UInt8} (h : c ∈ text) :
    c = 45 ∨ c = 43 ∨ c ∈ (takeSign text).2 := by
  cases text with
  | nil => exact absurd h List.not_mem_nil
  | cons c' cs =>
    rw [takeSign]
    rcases List.mem_cons.mp h with rfl | hcs
    · split_ifs with hminus hplus
      · exact .inl hminus
      · exact .inr (.inl hplus)
      · exact .inr (.inr List.mem_cons_self)
    · split_ifs
      · exact .inr (.inr hcs)
      · exact .inr (.inr hcs)
      · exact .inr (.inr (List.mem_cons_of_mem c' hcs))

theorem mem_skipHexMark {base : ℕ} {text : List UInt8} {c : UInt8} (h : c ∈ text) :
    c = 48 ∨ lower c = 120 ∨ c ∈ skipHexMark base text := by
  unfold skipHexMark
  split
  · rename_i x c' cs
    split
    · rename_i hmark
      rcases List.mem_cons.mp h with rfl | h
      · exact .inl rfl
      · rcases List.mem_cons.mp h with rfl | h
        · exact .inr (.inl hmark.2.1)
        · exact .inr (.inr h)
    · exact .inr (.inr h)
  · exact .inr (.inr h)

theorem mem_takeDigits {base : ℕ} {text : List UInt8} {c : UInt8} (h : c ∈ text) :
    (∃ d, digit base c = some d) ∨ c ∈ (takeDigits base text).2 := by
  induction text with
  | nil => exact absurd h List.not_mem_nil
  | cons c' cs ih =>
    rw [takeDigits]
    cases hdigit : digit base c' with
    | none => exact .inr h
    | some d =>
      rcases List.mem_cons.mp h with rfl | h
      · exact .inl ⟨d, hdigit⟩
      · exact ih h

theorem mem_takeMantissa {base : ℕ} {text rest : List UInt8} {mantissa places : ℕ} {c : UInt8}
    (hread : takeMantissa base text = some (mantissa, places, rest)) (h : c ∈ text) :
    (∃ d, digit base c = some d) ∨ c = 46 ∨ c ∈ rest := by
  rw [takeMantissa] at hread
  rw [Option.ite_none_left_eq_some] at hread
  obtain ⟨-, hread⟩ := hread
  simp only [Option.some.injEq, Prod.mk.injEq] at hread
  obtain ⟨-, -, hrest⟩ := hread
  rcases @mem_takeDigits base _ _ h with h | h
  · exact .inl h
  · split at hrest
    · rename_i rest' hpoint
      rw [hpoint] at h
      rcases List.mem_cons.mp h with rfl | h
      · exact .inr (.inl rfl)
      · rcases @mem_takeDigits base _ _ h with h | h
        · exact .inl h
        · exact .inr (.inr (hrest ▸ h))
    · exact .inr (.inr (hrest ▸ h))

theorem mem_takeExponent {marker : UInt8} {text : List UInt8} {c : UInt8} (h : c ∈ text) :
    lower c = marker ∨ c = 45 ∨ c = 43 ∨ (∃ d, digit 10 c = some d) ∨
      c ∈ (takeExponent marker text).2 := by
  cases text with
  | nil => exact absurd h List.not_mem_nil
  | cons c' cs =>
    rw [takeExponent]
    simp only
    split
    · rename_i hmarker
      rcases List.mem_cons.mp h with rfl | h
      · exact .inl hmarker.1
      · rcases mem_takeSign h with rfl | rfl | h
        · exact .inr (.inl rfl)
        · exact .inr (.inr (.inl rfl))
        · rcases @mem_takeDigits 10 _ _ h with h | h
          · exact .inr (.inr (.inr (.inl h)))
          · exact .inr (.inr (.inr (.inr h)))
    · exact .inr (.inr (.inr (.inr h)))

/-- The characters of integers and of decimal numbers. -/
def IsDecimalCharacter (c : UInt8) : Prop :=
  (∃ d, digit 10 c = some d) ∨ c ∈ ([43, 45, 46] : List UInt8) ∨ lower c = 101

namespace IsDecimalCharacter

variable {c : UInt8}

theorem lt (h : IsDecimalCharacter c) : c < 0x80 := by
  rcases h with ⟨d, hd⟩ | h | h
  · exact lt_of_digit hd
  · simp only [List.mem_cons, List.not_mem_nil, or_false] at h
    rcases h with rfl | rfl | rfl <;> decide
  · exact lt_of_lower h (by decide) (by decide)

theorem isSpace_eq_false (h : IsDecimalCharacter c) : isSpace c = false := by
  rcases h with ⟨d, hd⟩ | h | h
  · exact isSpace_of_digit hd
  · simp only [List.mem_cons, List.not_mem_nil, or_false] at h
    rcases h with rfl | rfl | rfl <;> decide
  · rcases eq_or_eq_of_lower h with rfl | rfl <;> decide

theorem ne_underscore (h : IsDecimalCharacter c) : c ≠ 95 := by
  rintro rfl
  rcases h with ⟨d, hd⟩ | h | h
  · exact absurd (digitValue_of_digit hd) (by simp [digitValue])
  · exact absurd h (by decide)
  · exact absurd h (by decide)

theorem lower_ne_mark (h : IsDecimalCharacter c) : lower c ≠ 120 := by
  intro hx
  rcases h with ⟨d, hd⟩ | h | h
  · rw [digit_of_lower_x (by decide) hx] at hd
    cases hd
  · simp only [List.mem_cons, List.not_mem_nil, or_false] at h
    rcases h with rfl | rfl | rfl <;> exact absurd hx (by decide)
  · rw [hx] at h
    exact absurd h (by decide)

end IsDecimalCharacter

section Text

variable {text : List UInt8} (h : ∀ c ∈ text.dropWhile isSpace, IsDecimalCharacter c)
include h

/-- White space in front of such characters is ASCII, too. -/
theorem ascii_of_isDecimal : ∀ c ∈ text, c < 0x80 := by
  intro c hc
  rw [← @List.takeWhile_append_dropWhile _ isSpace text, List.mem_append] at hc
  rcases hc with hc | hc
  · exact lt_of_isSpace (List.mem_takeWhile_imp hc)
  · exact (h c hc).lt

theorem underscore_notMem_of_isDecimal : (95 : UInt8) ∉ text := by
  intro hmem
  rw [← @List.takeWhile_append_dropWhile _ isSpace text, List.mem_append] at hmem
  rcases hmem with hmem | hmem
  · exact absurd (List.mem_takeWhile_imp hmem) (by decide)
  · exact (h 95 hmem).ne_underscore rfl

theorem isSpace_getLast?_of_isDecimal (hne : text.dropWhile isSpace ≠ []) :
    ∀ c ∈ text.getLast?, isSpace c = false := by
  intro c hc
  rw [← @List.takeWhile_append_dropWhile _ isSpace text,
    List.getLast?_append_of_ne_nil _ hne] at hc
  exact (h c (List.mem_of_getLast? hc)).isSpace_eq_false

end Text

/-! ### Integers -/

/-- The digits `strtol` has read. -/
theorem exists_digits_of_scanInteger {base : ℕ} {text : List UInt8} {negative : Bool}
    {magnitude : ℕ} (h : scanInteger base text = some (negative, magnitude, [])) :
    ∃ ds, (skipHexMark base (takeSign (text.dropWhile isSpace)).2).map (digit base) =
        ds.map some ∧ ds ≠ [] ∧ magnitude = Nat.ofDigits base ds.reverse ∧
      negative = (takeSign (text.dropWhile isSpace)).1 := by
  simp only [scanInteger] at h
  split at h
  · cases h
  · rename_i hne
    simp only [Option.some.injEq, Prod.mk.injEq] at h
    obtain ⟨hnegative, hmagnitude, hrest⟩ := h
    exact ⟨_, map_digit_of_takeDigits hrest, hne, hmagnitude.symm, hnegative.symm⟩

/-- The characters of what `strtol` reads to its end. -/
theorem characters_of_scanInteger {base : ℕ} {text : List UInt8} {negative : Bool} {magnitude : ℕ}
    (h : scanInteger base text = some (negative, magnitude, [])) {c : UInt8} (hc : c ∈ text) :
    isSpace c = true ∨ c = 45 ∨ c = 43 ∨ c = 48 ∨ lower c = 120 ∨ ∃ d, digit base c = some d := by
  obtain ⟨ds, hdigits, -⟩ := exists_digits_of_scanInteger h
  rw [← @List.takeWhile_append_dropWhile _ isSpace text, List.mem_append] at hc
  rcases hc with hc | hc
  · exact .inl (List.mem_takeWhile_imp hc)
  rcases mem_takeSign hc with rfl | rfl | hc
  · exact .inr (.inl rfl)
  · exact .inr (.inr (.inl rfl))
  rcases @mem_skipHexMark base _ c hc with rfl | hc | hc
  · exact .inr (.inr (.inr (.inl rfl)))
  · exact .inr (.inr (.inr (.inr (.inl hc))))
  · have hmem : digit base c ∈ ds.map some := hdigits ▸ List.mem_map_of_mem hc
    obtain ⟨d, -, hd⟩ := List.mem_map.mp hmem
    exact .inr (.inr (.inr (.inr (.inr ⟨d, hd.symm⟩))))

/-- What `strtol` reads to its end is ASCII. -/
theorem ascii_of_scanInteger {base : ℕ} {text : List UInt8} {negative : Bool} {magnitude : ℕ}
    (h : scanInteger base text = some (negative, magnitude, [])) : ∀ c ∈ text, c < 0x80 := by
  intro c hc
  rcases characters_of_scanInteger h hc with hc | rfl | rfl | rfl | hc | ⟨d, hc⟩
  · exact lt_of_isSpace hc
  · decide
  · decide
  · decide
  · exact lt_of_lower hc (by decide) (by decide)
  · exact lt_of_digit hc

theorem length_digits_le {base : ℕ} {text : List UInt8} {ds : List ℕ}
    (h : (skipHexMark base (takeSign (text.dropWhile isSpace)).2).map (digit base) =
      ds.map some) : ds.length ≤ text.length := by
  have hsuffix := (skipHexMark_suffix base _).trans
    ((takeSign_suffix (text.dropWhile isSpace)).trans (List.dropWhile_suffix _))
  have hlength := congrArg List.length h
  rw [List.length_map, List.length_map] at hlength
  exact hlength ▸ hsuffix.length_le

/-- A number has no more digits than its text has characters. -/
theorem magnitude_lt {base : ℕ} {text : List UInt8} (hbase : 1 < base) {negative : Bool}
    {magnitude : ℕ} (h : scanInteger base text = some (negative, magnitude, [])) :
    magnitude < base ^ text.length := by
  obtain ⟨ds, hdigits, -, rfl, -⟩ := exists_digits_of_scanInteger h
  have hlt : ∀ d ∈ ds.reverse, d < base := by
    intro d hd
    have hmem : some d ∈ ds.map some := List.mem_map_of_mem (List.mem_reverse.mp hd)
    rw [← hdigits] at hmem
    obtain ⟨c, -, hc⟩ := List.mem_map.mp hmem
    rw [digit, Option.filter_eq_some_iff] at hc
    simpa using hc.2
  calc Nat.ofDigits base ds.reverse < base ^ ds.reverse.length :=
        Nat.ofDigits_lt_base_pow_length hbase hlt
    _ ≤ base ^ text.length := by
        rw [List.length_reverse]
        exact Nat.pow_le_pow_right (by omega) (length_digits_le hdigits)

/-- There is no NUL in an integer. -/
theorem zero_notMem_of_integerNumber {base : ℕ} {text : List UInt8} {n : ℤ}
    (h : integerNumber base text = some n) : (0 : UInt8) ∉ text := by
  intro hmem
  rw [integerNumber] at h
  split at h
  · rename_i hscan
    rcases characters_of_scanInteger hscan hmem with hc | hc | hc | hc | hc | ⟨d, hc⟩
    · exact absurd hc (by decide)
    · exact absurd hc (by decide)
    · exact absurd hc (by decide)
    · exact absurd hc (by decide)
    · exact absurd hc (by decide)
    · have hnone : digitValue 0 = none := by decide
      rw [digitValue_of_digit hc] at hnone
      cases hnone
  · cases h

/-- **An integer** behind its white space. -/
theorem isDecimal_of_integerNumber {text : List UInt8} {n : ℤ}
    (h : integerNumber 10 text = some n) :
    text.dropWhile isSpace ≠ [] ∧ ∀ c ∈ text.dropWhile isSpace, IsDecimalCharacter c := by
  rw [integerNumber] at h
  split at h
  swap
  · cases h
  rename_i negative magnitude hscan
  obtain ⟨ds, hdigits, hne, -⟩ := exists_digits_of_scanInteger hscan
  have hskip : ∀ number, skipHexMark 10 number = number := by
    intro number
    unfold skipHexMark
    split
    · exact if_neg fun h => absurd h.1 (by decide)
    · rfl
  rw [hskip] at hdigits
  constructor
  · intro hnil
    rw [hnil, takeSign, List.map_nil, eq_comm, List.map_eq_nil_iff] at hdigits
    exact hne hdigits
  · intro c hc
    rcases mem_takeSign hc with rfl | rfl | hc
    · exact .inr (.inl (by decide))
    · exact .inr (.inl (by decide))
    · have hmem : digit 10 c ∈ ds.map some := hdigits ▸ List.mem_map_of_mem hc
      obtain ⟨d, -, hd⟩ := List.mem_map.mp hmem
      exact .inl ⟨d, hd.symm⟩

/-- **`strtol` reads an integer** that is in the range of `long`. -/
theorem strtol_eq {base : ℕ} {text : List UInt8} (hne : text ≠ []) :
    (if (strtol base text).2 = [] then some (strtol base text).1 else none) =
      (integerNumber base text).map fun n => max (-2 ^ 63) (min (2 ^ 63 - 1) n) := by
  rw [integerNumber, strtol]
  cases hscan : scanInteger base text with
  | none => exact if_neg hne
  | some read =>
    obtain ⟨negative, magnitude, rest⟩ := read
    cases rest with
    | nil => rfl
    | cons c cs => rfl

/-- What `strtoul` makes of an integer. -/
def toUnsignedLong (n : ℤ) : ℕ := if 2 ^ 64 ≤ n.natAbs then 2 ^ 64 - 1 else (n % 2 ^ 64).toNat

/-- A number that is given by its sign and its magnitude. -/
theorem toUnsignedLong_signed (negative : Bool) (magnitude : ℕ) :
    toUnsignedLong (if negative then -(magnitude : ℤ) else magnitude) =
      if 2 ^ 64 ≤ magnitude then 2 ^ 64 - 1
      else if negative then (2 ^ 64 - magnitude) % 2 ^ 64 else magnitude := by
  rw [toUnsignedLong]
  cases negative with
  | true =>
    simp only [if_true, Int.natAbs_neg, Int.natAbs_natCast]
    split
    · rfl
    · omega
  | false =>
    simp only [Bool.false_eq_true, if_false, Int.natAbs_natCast]
    split
    · rfl
    · omega

/-- **`strtoul` reads an integer**, negative or not. -/
theorem strtoul_eq {base : ℕ} {text : List UInt8} (hne : text ≠ []) :
    (if (strtoul base text).2 = [] then some (strtoul base text).1 else none) =
      (integerNumber base text).map toUnsignedLong := by
  rw [integerNumber, strtoul]
  cases hscan : scanInteger base text with
  | none => exact if_neg hne
  | some read =>
    obtain ⟨negative, magnitude, rest⟩ := read
    cases rest with
    | nil => simp only [if_true, Option.map_some, toUnsignedLong_signed]
    | cons c cs => rfl

/-- A negative number becomes small only next to the end of the range. -/
theorem toUnsignedLong_lt_iff {n : ℤ} : toUnsignedLong n < 2 ^ 32 ↔
    0 ≤ n ∧ n < 2 ^ 32 ∨ -2 ^ 64 < n ∧ n < -2 ^ 64 + 2 ^ 32 := by
  rw [toUnsignedLong]
  split <;> omega

/-! ### Decimal numbers -/

/-- A text that begins with a letter is no decimal number. -/
theorem takeDecimal_of_lower {c l : UInt8} {cs : List UInt8} (h : lower c = l)
    (hl : l ∈ ([105, 110] : List UInt8)) : takeDecimal (c :: cs) = none := by
  have hc : digit 10 c = none ∧ c ≠ 46 := by
    rcases List.mem_cons.mp hl with rfl | hl
    · rcases eq_or_eq_of_lower h with rfl | rfl <;> decide
    · obtain rfl := List.mem_singleton.mp hl
      rcases eq_or_eq_of_lower h with rfl | rfl <;> decide
  obtain ⟨hdigit, hpoint⟩ := hc
  have htake : takeDigits 10 (c :: cs) = ([], c :: cs) := by rw [takeDigits, hdigit]
  have hmantissa : takeMantissa 10 (c :: cs) = none := by
    rw [takeMantissa, htake]
    simp only [true_and]
    split
    · rename_i rest hrest
      exact absurd (List.cons.inj hrest).1 hpoint
    · rfl
  rw [takeDecimal, hmantissa, Option.map_none]

/-- Digits with a point among them are the number without the point, as many places to the right. -/
theorem takeDecimal_of_digits {text fraction : List UInt8} {ds fs : List ℕ}
    (htext : text.map (digit 10) = ds.map some) (hfraction : fraction.map (digit 10) = fs.map some)
    (hne : ds ≠ []) : takeDecimal (text ++ 46 :: fraction) =
      some (((Nat.ofDigits 10 (ds ++ fs).reverse : ℕ) : ℚ) / 10 ^ fs.length, []) := by
  have hwhole : takeDigits 10 (text ++ 46 :: fraction) = (ds, 46 :: fraction) :=
    takeDigits_append _ htext fun c hc => by cases hc; rfl
  have hplaces : takeDigits 10 fraction = (fs, []) := by
    have h := takeDigits_append [] hfraction (by simp)
    rwa [List.append_nil] at h
  have hexponent : takeExponent 101 [] = (0, []) := rfl
  simp only [takeDecimal, takeMantissa, hwhole, hplaces, hne, false_and, if_false, Option.map_some,
    hexponent, zero_sub, zpow_neg, zpow_natCast, div_eq_mul_inv]

/-- **Digits with a point among them** denote a number, if it is not too large. -/
theorem decimalNumber_of_digits {text fraction : List UInt8} {ds fs : List ℕ}
    (htext : text.map (digit 10) = ds.map some) (hfraction : fraction.map (digit 10) = fs.map some)
    (hne : ds ≠ [])
    (hlarge : ((Nat.ofDigits 10 (ds ++ fs).reverse : ℕ) : ℚ) / 10 ^ fs.length <
      2 ^ 1024 - 2 ^ 970) :
    decimalNumber (text ++ 46 :: fraction) =
      some (((Nat.ofDigits 10 (ds ++ fs).reverse : ℕ) : ℚ) / 10 ^ fs.length) := by
  have hpos : (0 : ℚ) ≤ ((Nat.ofDigits 10 (ds ++ fs).reverse : ℕ) : ℚ) / 10 ^ fs.length :=
    div_nonneg (Nat.cast_nonneg _) (pow_nonneg (by decide) _)
  simp only [decimalNumber, takeSign_of_digits (46 :: fraction) htext hne,
    takeDecimal_of_digits htext hfraction hne, Bool.false_eq_true, if_false, Double.ofRat,
    abs_of_nonneg hpos, if_pos hlarge, Double.toRat]

/-- **`strtod` reads a decimal number**, or something that is no number, unless there is a
hexadecimal mark. -/
theorem strtod_eq {text : List UInt8} (hne : text ≠ []) (hmark : ∀ c ∈ text, lower c ≠ 120) :
    (if (strtod text).2 = [] then (strtod text).1.toRat else none) = decimalNumber text := by
  have hsuffix : (takeSign (text.dropWhile isSpace)).2 <:+ text :=
    (takeSign_suffix _).trans (List.dropWhile_suffix _)
  have hhex : takeHexadecimal (takeSign (text.dropWhile isSpace)).2 = none := by
    unfold takeHexadecimal
    split
    · rename_i x cs heq
      rw [heq] at hsuffix
      exact if_neg (hmark x (hsuffix.subset (List.mem_cons_of_mem _ List.mem_cons_self)))
    · rfl
  have hword : ∀ {word l} {ls : List UInt8},
      startsWithWord word (takeSign (text.dropWhile isSpace)).2 → word = l :: ls →
      l ∈ ([105, 110] : List UInt8) →
        takeDecimal (takeSign (text.dropWhile isSpace)).2 = none := by
    intro word l ls h hl hmem
    subst hl
    rw [startsWithWord, beq_iff_eq] at h
    cases hbody : (takeSign (text.dropWhile isSpace)).2 with
    | nil => rfl
    | cons c cs =>
      rw [hbody] at h
      exact takeDecimal_of_lower (List.cons.inj h).1 hmem
  rw [decimalNumber, strtod]
  simp only [hhex]
  split
  · rename_i h
    rw [hword h rfl (by decide)]
    split <;> rfl
  · split
    · rename_i h
      rw [hword h rfl (by decide)]
      split <;> rfl
    · split
      · rename_i h
        rw [hword h rfl (by decide)]
        split <;> rfl
      · cases hdecimal : takeDecimal (takeSign (text.dropWhile isSpace)).2 with
        | none => exact if_neg hne
        | some read =>
          obtain ⟨value, rest⟩ := read
          cases rest with
          | nil => rfl
          | cons c cs => rfl

theorem isDecimal_of_takeDecimal {text : List UInt8} {value : ℚ}
    (h : takeDecimal text = some (value, [])) : ∀ c ∈ text, IsDecimalCharacter c := by
  rw [takeDecimal, Option.map_eq_some_iff] at h
  obtain ⟨⟨mantissa, places, rest⟩, hmantissa, hread⟩ := h
  have hrest : (takeExponent 101 rest).2 = [] := (Prod.mk.inj hread).2
  intro c hc
  rcases mem_takeMantissa hmantissa hc with hdigit | rfl | hc
  · exact .inl hdigit
  · exact .inr (.inl (by decide))
  rcases @mem_takeExponent 101 _ _ hc with hmarker | rfl | rfl | hdigit | hc
  · exact .inr (.inr hmarker)
  · exact .inr (.inl (by decide))
  · exact .inr (.inl (by decide))
  · exact .inl hdigit
  · rw [hrest] at hc
    exact absurd hc List.not_mem_nil

theorem isDecimal_takeSign {text : List UInt8}
    (h : ∀ c ∈ (takeSign text).2, IsDecimalCharacter c) : ∀ c ∈ text, IsDecimalCharacter c := by
  intro c hc
  rcases mem_takeSign hc with rfl | rfl | hc
  · exact .inr (.inl (by decide))
  · exact .inr (.inl (by decide))
  · exact h c hc

/-- **A decimal number** behind its white space. -/
theorem isDecimal_of_decimalNumber {text : List UInt8} {q : ℚ} (h : decimalNumber text = some q) :
    text.dropWhile isSpace ≠ [] ∧ ∀ c ∈ text.dropWhile isSpace, IsDecimalCharacter c := by
  rw [decimalNumber] at h
  split at h
  swap
  · cases h
  rename_i value hdecimal
  refine ⟨fun hnil => ?_, isDecimal_takeSign (isDecimal_of_takeDecimal hdecimal)⟩
  rw [hnil] at hdecimal
  cases hdecimal

end CNumber
