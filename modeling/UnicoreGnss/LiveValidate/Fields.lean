import UnicoreGnss.LiveValidate.Lines
import UnicoreGnss.Parser.Layout
import UnicoreGnss.Parser.Numbers

/-!
# Fields of the validator

What the parsers of `tools/unicore_live_validate.py` use to read the fields of a log, and the
tables of constellations and signals, of which the validator has its own copies.

As in the driver's model an access `fields[i]` is `Checked`: it answers `outside` where Python would
raise an `IndexError`, and the `None` of a parser is `refused`. The `float` of an integer answers
`outside` where it would raise an `OverflowError`.

## Main results

* `parseInt_decimalInt` — a decimal text is read as the number it denotes
* `constellationNameFromSystemId_eq`, `signalBandFromFrequencyId_eq` — the tables are the driver's
-/

namespace UnicoreGnss.LiveValidate

open CNumber Checked

/-- `field_after_semicolon` -/
def fieldAfterSemicolon (text : Text) : Text :=
  match text.idxOf? semicolon with
  | none => text
  | some i => text.drop (i + 1)

/-- `parse_int(fields[i])` where `None` ends the parser. -/
def intAt (fields : List Text) (i : ℕ) : Checked ℤ := do
  ofOption (parseInt (← get fields i) 10)

/-- `parse_float` -/
def parseFloat (text : Text) : Option ℚ :=
  if text = [] then none else (PyNumber.float text).bind Double.toRat

/-- An integer that would be rounded to more than the largest `double`: it is as far up as the
middle between that and the next power of two. -/
def overflowsFloat (n : ℤ) : Bool := 2 ^ 1024 - 2 ^ 970 ≤ n.natAbs

/-- `float(n)` of an integer, which raises an `OverflowError` for too large a one. -/
def floatOfInt (n : ℤ) : Checked ℤ := if overflowsFloat n then outside else value n

/-! ### Tables -/

/-- `PRIMARY_CONSTELLATIONS` -/
def primaryConstellations : List Text :=
  ["GPS", "GLO", "GAL", "BDS", "QZSS", "IRNSS", "SBAS"].map ascii

/-- `PRIMARY_SIGNALS` -/
def primarySignals : List Text :=
  ["L1", "L2", "L3", "L5", "L6", "E1", "E5", "E6", "B1", "B2", "B3"].map ascii

/-- `constellation_name_from_system_id` -/
def constellationNameFromSystemId (systemId : ℤ) : Text :=
  match systemId with
  | 0 => ascii "GPS"
  | 1 => ascii "GLO"
  | 2 => ascii "SBAS"
  | 3 => ascii "GAL"
  | 4 => ascii "BDS"
  | 5 => ascii "QZSS"
  | 6 => ascii "IRNSS"
  | _ => ascii "UNKNOWN"

/-- `signal_band_from_frequency_id` -/
def signalBandFromFrequencyId (constellation : Text) (frequencyId : ℤ) : Text :=
  if constellation = ascii "GPS" ∨ constellation = ascii "QZSS" then
    if frequencyId ∈ [0, 3, 11] then ascii "L1"
    else if frequencyId ∈ [9, 17] then ascii "L2"
    else if frequencyId ∈ [6, 14] then ascii "L5"
    else if constellation = ascii "QZSS" ∧ frequencyId ∈ [18, 22, 24, 25] then ascii "L6"
    else []
  else if constellation = ascii "GLO" then
    if frequencyId = 0 then ascii "L1"
    else if frequencyId = 5 then ascii "L2"
    else if frequencyId ∈ [6, 7] then ascii "L3"
    else []
  else if constellation = ascii "GAL" then
    if frequencyId ∈ [1, 2] then ascii "E1"
    else if frequencyId ∈ [12, 17] then ascii "E5"
    else if frequencyId ∈ [18, 22] then ascii "E6"
    else []
  else if constellation = ascii "BDS" then
    if frequencyId ∈ [0, 4, 8, 23] then ascii "B1"
    else if frequencyId ∈ [5, 12, 13, 17, 28] then ascii "B2"
    else if frequencyId ∈ [6, 21] then ascii "B3"
    else []
  else if constellation = ascii "SBAS" then
    if frequencyId = 0 then ascii "L1"
    else if frequencyId = 6 then ascii "L5"
    else []
  else if constellation = ascii "IRNSS" then
    if frequencyId ∈ [6, 14] then ascii "L5" else []
  else []

/-- The table is the driver's. -/
theorem constellationNameFromSystemId_eq (systemId : ℤ) :
    constellationNameFromSystemId systemId = UnicoreGnss.constellationNameFromSystemId systemId :=
  rfl

/-- The table is the driver's. -/
theorem signalBandFromFrequencyId_eq (constellation : Text) (frequencyId : ℤ) :
    signalBandFromFrequencyId constellation frequencyId =
      UnicoreGnss.signalBandFromFrequencyId constellation frequencyId := by
  have hsecond : frequencyId ∈ [5, 12, 13, 17, 28] ↔ frequencyId ∈ [5, 17, 12, 28, 13] := by
    simp only [List.mem_cons, List.not_mem_nil, or_false]
    omega
  unfold signalBandFromFrequencyId UnicoreGnss.signalBandFromFrequencyId
  simp only [hsecond]

/-! ### Reading fields -/

/-- The two functions of this name agree. -/
theorem fieldAfterSemicolon_eq (text : Text) :
    fieldAfterSemicolon text = UnicoreGnss.fieldAfterSemicolon text := rfl

/-- **A decimal text** is read as the number it denotes. -/
theorem parseInt_decimalInt {n : ℤ} (h : n.natAbs < 2 ^ 32) :
    parseInt (decimalInt n) 10 = some n := by
  have hscan := scanInteger_digitsText (by decide : 1 < 10) (by decide) n.natAbs
  have hdigits : (decimal n.natAbs).length ≤ 10 := by
    rw [decimal, digitsText, List.length_map]
    exact Nat.toDigits_length 10 n.natAbs 10 (by decide) (by omega)
  have hshort : (45 :: digitsText 10 n.natAbs).length ≤ PyNumber.maxStrDigits := by
    rw [decimal] at hdigits
    rw [List.length_cons, PyNumber.maxStrDigits]
    omega
  have hplus := PyNumber.int_of_scanInteger (by decide) hscan.1
    (.inr (Nat.le_trans (Nat.le_succ _) hshort))
  have hminus := PyNumber.int_of_scanInteger (by decide) hscan.2 (.inr hshort)
  rw [parseInt, if_neg (UnicoreParser.decimalInt_ne_nil n), decimalInt, decimal]
  split
  · rw [hminus]
    simp only [if_true]
    congr 1
    omega
  · rw [hplus]
    simp only [Bool.false_eq_true, if_false]
    congr 1
    omega

theorem overflowsFloat_eq_false {n : ℤ} (h : n.natAbs < 2 ^ 64) : overflowsFloat n = false := by
  have hbound : 2 ^ 64 ≤ 2 ^ 1024 - 2 ^ 970 := by decide +kernel
  rw [overflowsFloat, decide_eq_false_iff_not, Nat.not_le]
  exact h.trans_le hbound

/-- An integer of the driver's is a `float`. -/
@[simp] theorem floatOfInt_of_lt {n : ℤ} (h : n.natAbs < 2 ^ 64) : floatOfInt n = value n := by
  rw [floatOfInt, overflowsFloat_eq_false h, if_neg Bool.false_ne_true]

theorem intAt_append (front back : List Text) {piece : List Text} {i : ℕ} {n : ℤ}
    (h : piece[i]? = some (decimalInt n)) (hn : n.natAbs < 2 ^ 32) :
    intAt (front ++ piece ++ back) (front.length + i) = value n := by
  rw [intAt, get_append front back h, value_bind, parseInt_decimalInt hn, ofOption_some]

/-! ### Plain numbers -/

/-- A field that is not a number to only one of the two languages: none to Python if it is loose,
and none to C if it has a hexadecimal mark. -/
structure PlainNumber (field : Bytes) : Prop where
  python : PyNumber.Loose field → parseFloat (decodeAscii field) = none
  driver : 120 ∈ field.map lower → UnicoreParser.parseDouble field = none

/-- A field that is not an integer to only one of the two languages: none to Python if it is loose,
and otherwise in the range of `int` and not too long for Python. -/
structure PlainInt (field : Bytes) : Prop where
  python : PyNumber.Loose field → parseInt (decodeAscii field) 10 = none
  driver : ∀ n ∈ integerNumber 10 field,
    (-2 ^ 31 ≤ n ∧ n < 2 ^ 31) ∧ field.length ≤ PyNumber.maxStrDigits

instance (field : Bytes) : Decidable (PlainNumber field) :=
  decidable_of_iff (_ ∧ _) ⟨fun h => ⟨h.1, h.2⟩, fun h => ⟨h.python, h.driver⟩⟩

instance (field : Bytes) : Decidable (PlainInt field) :=
  decidable_of_iff (_ ∧ _) ⟨fun h => ⟨h.1, h.2⟩, fun h => ⟨h.python, h.driver⟩⟩

section Plain

variable {field : Bytes}

/-- A field that reads like a decoded one is ASCII, and so it is the decoded one. -/
theorem read_decodeAscii {α : Type} {read : Bytes → Option α}
    (hread : ∀ text a, read text = some a → ∀ c ∈ text, c < 0x80) (field : Bytes) :
    read (decodeAscii field) = read field := by
  by_cases hascii : ∀ c ∈ field, c < 0x80
  · rw [decodeAscii_of_ascii hascii]
  · have hfield : read field = none := by
      rw [Option.eq_none_iff_forall_ne_some]
      intro a ha
      exact hascii (hread field a ha)
    have hdecoded : read (decodeAscii field) = none := by
      rw [Option.eq_none_iff_forall_ne_some]
      intro a ha
      push Not at hascii
      obtain ⟨c, hc, hge⟩ := hascii
      have hmem : replacement ∈ decodeAscii field := by
        rw [decodeAscii, List.mem_map]
        exact ⟨c, hc, if_neg hge⟩
      exact absurd (hread _ a ha replacement hmem) (by decide)
    rw [hfield, hdecoded]

/-- An underscore and white space are not lost, and none is gained. -/
theorem loose_decodeAscii : PyNumber.Loose (decodeAscii field) ↔ PyNumber.Loose field := by
  have hunderscore : (95 : UInt8) ∈ decodeAscii field ↔ (95 : UInt8) ∈ field := by
    rw [decodeAscii, List.mem_map]
    constructor
    · rintro ⟨byte, hbyte, h⟩
      rwa [← (decode_eq_iff (by decide) byte).mp h]
    · exact fun h => ⟨95, h, rfl⟩
  rw [PyNumber.Loose, PyNumber.Loose, hunderscore, decodeAscii, List.getLast?_map]
  refine or_congr_right ?_
  cases field.getLast? with
  | none => rfl
  | some c =>
    have hspace : isSpace (if c < 0x80 then c else replacement) = isSpace c := by
      split
      · rfl
      · rename_i hc
        rw [eq_comm, show isSpace replacement = false from rfl, ← Bool.not_eq_true]
        exact fun h => hc (lt_of_isSpace h)
    rw [Option.map_some, Option.any_some, Option.any_some, hspace]

/-- **A plain number** is read by the validator as by the driver. -/
theorem parseFloat_eq (hzero : (0 : UInt8) ∉ field) (h : PlainNumber field) :
    parseFloat (decodeAscii field) = UnicoreParser.parseDouble field := by
  by_cases hne : field = []
  · subst hne
    rfl
  have hdecoded : decodeAscii field ≠ [] := by
    rw [decodeAscii]
    exact fun h => hne (List.map_eq_nil_iff.mp h)
  by_cases hmark : 120 ∈ field.map lower
  · -- A hexadecimal mark leaves Python no number.
    rw [h.driver hmark]
    obtain ⟨x, hx, hmark⟩ := List.mem_map.mp hmark
    have hx' : x ∈ decodeAscii field := by
      refine List.mem_map.mpr ⟨x, hx, if_pos ?_⟩
      rcases eq_or_eq_of_lower hmark with rfl | rfl <;> decide
    rw [parseFloat, if_neg hdecoded, PyNumber.float_of_mark hx' hmark]
  rw [UnicoreParser.parseDouble_eq_decimalNumber hzero
    fun c hc hx => hmark (hx ▸ List.mem_map_of_mem hc)]
  by_cases hloose : PyNumber.Loose field
  · -- C does not read a loose number to its end.
    rw [h.python hloose, eq_comm, Option.eq_none_iff_forall_ne_some]
    intro q hq
    obtain ⟨hne', hdecimal⟩ := isDecimal_of_decimalNumber hq
    exact PyNumber.not_loose_of_isDecimal hne' hdecimal hloose
  · rw [parseFloat, if_neg hdecoded, PyNumber.float_eq (mt loose_decodeAscii.mp hloose)]
    exact read_decodeAscii
      (fun _ _ h => ascii_of_isDecimal (isDecimal_of_decimalNumber h).2) field

/-- **A plain integer** is read by the validator as by the driver. -/
theorem parseInt_eq (hzero : (0 : UInt8) ∉ field) (h : PlainInt field) :
    parseInt (decodeAscii field) 10 = UnicoreParser.parseInt field := by
  by_cases hne : field = []
  · subst hne
    rfl
  have hdecoded : decodeAscii field ≠ [] := by
    rw [decodeAscii]
    exact fun h => hne (List.map_eq_nil_iff.mp h)
  have hread : integerNumber 10 (decodeAscii field) = integerNumber 10 field :=
    read_decodeAscii (fun _ _ h => ascii_of_isDecimal (isDecimal_of_integerNumber h).2) field
  have hdriver : UnicoreParser.parseInt field = integerNumber 10 field := by
    rw [UnicoreParser.parseInt_eq, readToNul_of_notMem hzero]
    cases hnumber : integerNumber 10 field with
    | none => rfl
    | some n =>
      obtain ⟨⟨hlow, hhigh⟩, -⟩ := h.driver n hnumber
      have hlong : toLong n = n := by
        rw [toLong]
        omega
      rw [Option.map_some, hlong, toInt_of_lt hlow hhigh]
  rw [hdriver]
  by_cases hloose : PyNumber.Loose field
  · rw [h.python hloose, eq_comm, Option.eq_none_iff_forall_ne_some]
    intro n hn
    obtain ⟨hne', hdecimal⟩ := isDecimal_of_integerNumber hn
    exact PyNumber.not_loose_of_isDecimal hne' hdecimal hloose
  · rw [parseInt, if_neg hdecoded, PyNumber.int_eq (mt loose_decodeAscii.mp hloose) ?_, hread]
    rw [length_decodeAscii, hread]
    exact fun n hn => (h.driver n hn).2

end Plain

/-! ### Fields of a log -/

variable (header : LogHeader) (first : Text) (data : List Text)

theorem intAt_fields {i : ℕ} {n : ℤ} (h : data[i]? = some (decimalInt n)) (hn : n.natAbs < 2 ^ 32) :
    intAt (header.fields first data) (10 + i) = value n := by
  rw [intAt, UnicoreParser.get_fields header first data h, value_bind, parseInt_decimalInt hn,
    ofOption_some]

/-- The data field behind the last field of the header. -/
theorem fieldAfterSemicolon_header :
    fieldAfterSemicolon (header.last ++ semicolon :: first) = first := by
  rw [fieldAfterSemicolon_eq, UnicoreParser.fieldAfterSemicolon_append header.notMem_last]

end UnicoreGnss.LiveValidate
