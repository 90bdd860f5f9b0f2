import UnicoreGnss.Lib.FixedText
import UnicoreGnss.Node
import UnicoreGnss.Parser.ChecksumGate
import UnicoreGnss.Parser.Coordinates

/-!
# The position that goes to the caster

`format_gga` of `ntrip_client_node/src/ntrip_client_node.cpp` writes a fix as a GGA sentence, with
the degrees cut off and the minutes to four places. The buffer of the sentence has 192 bytes; the
checksum loop runs over as many bytes as `snprintf` had to write, which may be more.

A sentence of a position on the globe fits. It is one that `parse_line` accepts, and it is read back
as the position, the minutes to half of their last place.

The arithmetic is exact: positions are rationals, as they are where `parse_line` reads them. The
bounds are those of the format. With `double` the product by sixty, the quotients and the number
that `strtod` returns are rounded too, so where a bound is attained (latitude 82.0078125, altitude
0.75) the code can be past it by such an error.

## Main definitions

* `formatGga` — the sentence
* `ggaAngle` — a coordinate as the sentence has it

## Main results

* `outside_formatGga_iff` — when the checksum loop leaves the buffer
* `parseLine_formatGga` — the sentence is read back
-/

namespace UnicoreGnss

open CNumber Checked

/-- `std::tm`, as `gmtime_r` fills it in. -/
structure UtcTime where
  hour : ℕ
  minute : ℕ
  second : ℕ
  hour_lt : hour < 24
  minute_lt : minute < 60
  second_le : second ≤ 60

/-- `%0wd` -/
def paddedDecimal (width n : ℕ) : Bytes := (decimal n).leftpad width 48

/-- `%0w.pf` of a number that is not negative. -/
def paddedFixed (width places : ℕ) (q : ℚ) : Bytes := (fixedText places q).leftpad width 48

/-- `static_cast<int>` of a number that is not negative. -/
def castInt (q : ℚ) : Checked ℕ := if q < 2 ^ 31 then value ⌊q⌋.toNat else outside

/-- The quality of a GGA that a status is mapped to. -/
def ggaQuality (status : NavSatStatusCode) : ℕ :=
  if status = .gbasFix then 4 else if status = .sbasFix then 5 else 1

/-- The minutes: `(lat_abs - lat_deg) * 60.0`, without the rounding of the product. -/
def minutesOf (q : ℚ) (degrees : ℕ) : ℚ := (|q| - degrees) * 60

/-- The fields between the commas of the format. -/
def ggaFields (time : UtcTime) (fix : NavSatFix) (latDeg lonDeg : ℕ) : List Bytes :=
  [ascii "GPGGA",
    paddedDecimal 2 time.hour ++ paddedDecimal 2 time.minute ++ paddedDecimal 2 time.second ++
      ascii ".00",
    paddedDecimal 2 latDeg ++ paddedFixed 7 4 (minutesOf fix.latitude latDeg),
    [if 0 ≤ fix.latitude then 0x4E else 0x53],
    paddedDecimal 3 lonDeg ++ paddedFixed 7 4 (minutesOf fix.longitude lonDeg),
    [if 0 ≤ fix.longitude then 0x45 else 0x57],
    decimal (ggaQuality fix.status.status), ascii "10", ascii "1.0", fixedText 1 fix.altitude,
    ascii "M", ascii "0.0", ascii "M", [], []]

/-- What `snprintf` has to write. -/
def ggaText (time : UtcTime) (fix : NavSatFix) (latDeg lonDeg : ℕ) : Bytes :=
  [comma].intercalate (ggaFields time fix latDeg lonDeg)

/-- The end of `format_gga`: the text as far as it fits into `body`, and the loop over as many bytes
as the text has. -/
def sealGga (text : Bytes) : Checked Bytes := do
  let body := text.take 191
  let cs ← foldRange (fun cs i => do return cs ^^^ (← get (body ++ [0]) i)) text.length (0 : UInt8)
  let out := dollar :: body ++ star :: hexText ⟨false, 2, true⟩ cs.toNat
  return out.take 223

/-- `format_gga`; no text without a fix. -/
def formatGga (time : UtcTime) (fix : NavSatFix) : Checked Bytes :=
  if fix.status.status = .noFix then value []
  else do
    let latDeg ← castInt |fix.latitude|
    let lonDeg ← castInt |fix.longitude|
    sealGga (ggaText time fix latDeg lonDeg)

/-! ### Rows of digits -/

/-- A number as a row of digits, the units last. -/
def rowOf : ℕ → ℕ → List (Fin 10)
  | 0, _ => []
  | width + 1, n => rowOf width (n / 10) ++ [⟨n % 10, Nat.mod_lt n (by decide)⟩]

@[simp] theorem length_rowOf (width n : ℕ) : (rowOf width n).length = width := by
  induction width generalizing n with
  | zero => rfl
  | succ width ih => rw [rowOf, List.length_append, ih, List.length_singleton]

theorem rowNumber_rowOf {width n : ℕ} (h : n < 10 ^ width) : rowNumber (rowOf width n) = n := by
  induction width generalizing n with
  | zero =>
    obtain rfl : n = 0 := by simpa using h
    rfl
  | succ width ih =>
    have hdiv : n / 10 < 10 ^ width := by
      rw [Nat.div_lt_iff_lt_mul (by decide)]
      rwa [pow_succ] at h
    have hlast : rowNumber [⟨n % 10, Nat.mod_lt n (by decide)⟩] = n % 10 := by
      simp [rowNumber]
    rw [rowOf, rowNumber_append, ih hdiv, hlast, List.length_singleton, pow_one]
    exact Nat.div_add_mod n 10

theorem digitRow_append (ds es : List (Fin 10)) :
    digitRow (ds ++ es) = digitRow ds ++ digitRow es :=
  List.map_append

/-- A digit as a character. -/
theorem digitChar_eq {d : ℕ} (h : d < 10) :
    UInt8.ofNat (Nat.digitChar d).toNat = UInt8.ofNat (48 + d) := by
  interval_cases d <;> rfl

/-- A row is the number with zeros in front, or zeros only. -/
theorem digitRow_rowOf_aux (width n : ℕ) (h : n < 10 ^ width) :
    digitRow (rowOf width n) = (if n = 0 then [] else decimal n).leftpad width 48 := by
  induction width generalizing n with
  | zero =>
    obtain rfl : n = 0 := by simpa using h
    rfl
  | succ width ih =>
    have hdiv : n / 10 < 10 ^ width := by
      rw [Nat.div_lt_iff_lt_mul (by decide)]
      rwa [pow_succ] at h
    have hlast : digitRow [⟨n % 10, Nat.mod_lt n (by decide)⟩] =
        [UInt8.ofNat (Nat.digitChar (n % 10)).toNat] := by
      rw [digitChar_eq (Nat.mod_lt n (by decide))]
      rfl
    rw [rowOf, digitRow_append, ih _ hdiv, hlast]
    have hpad := leftpad_append width (if n / 10 = 0 then [] else decimal (n / 10))
      [UInt8.ofNat (Nat.digitChar (n % 10)).toNat]
    rw [List.length_singleton] at hpad
    rw [← hpad]
    by_cases hzero : n = 0
    · subst hzero
      rw [if_pos rfl, List.leftpad, List.leftpad, List.nil_append, List.append_nil,
        List.length_singleton, List.length_nil, Nat.add_sub_cancel, Nat.sub_zero,
        List.replicate_succ']
      rfl
    · have hsplit : decimal n = (if n / 10 = 0 then [] else decimal (n / 10)) ++
          [UInt8.ofNat (Nat.digitChar (n % 10)).toNat] := by
        rw [decimal, digitsText_eq (by decide)]
        simp only [Nat.div_eq_zero_iff_lt (by decide : 0 < 10)]
        rfl
      rw [if_neg hzero, hsplit]

/-- **A row** is the number with zeros in front. -/
theorem digitRow_rowOf {width n : ℕ} (hwidth : 0 < width) (h : n < 10 ^ width) :
    digitRow (rowOf width n) = paddedDecimal width n := by
  rw [digitRow_rowOf_aux width n h, paddedDecimal]
  by_cases hzero : n = 0
  · subst hzero
    have hone : decimal 0 = [48] := by decide
    rw [if_pos rfl, hone, List.leftpad, List.leftpad, List.length_nil, List.length_singleton,
      List.append_nil, Nat.sub_zero, ← List.replicate_succ', Nat.sub_add_cancel hwidth]
  · rw [if_neg hzero]

/-! ### A coordinate -/

section Coordinate

variable {axis : Axis} {q : ℚ}

/-- The degrees of a coordinate. -/
def degreesOf (q : ℚ) : ℕ := ⌊|q|⌋.toNat

theorem degreesOf_cast (q : ℚ) : (degreesOf q : ℚ) = ⌊|q|⌋ := by
  have hnonneg : 0 ≤ ⌊|q|⌋ := Int.floor_nonneg.mpr (abs_nonneg q)
  rw [degreesOf, ← Int.cast_natCast, Int.toNat_of_nonneg hnonneg]

theorem degreesOf_lt {bound : ℕ} (h : |q| < bound) : degreesOf q < bound := by
  have hle : (degreesOf q : ℚ) ≤ |q| := by
    rw [degreesOf_cast]
    exact Int.floor_le _
  exact_mod_cast hle.trans_lt h

theorem minutesOf_nonneg (q : ℚ) : 0 ≤ minutesOf q (degreesOf q) := by
  have hle := Int.floor_le |q|
  rw [minutesOf, degreesOf_cast]
  linarith

theorem minutesOf_lt (q : ℚ) : minutesOf q (degreesOf q) < 60 := by
  have hlt := Int.lt_floor_add_one |q|
  rw [minutesOf, degreesOf_cast]
  linarith

/-- The ten thousandths of a minute that are written: up to sixty minutes, after rounding. -/
theorem units_le (q : ℚ) : unitsOf 4 (minutesOf q (degreesOf q)) ≤ 600000 := by
  have hle : |minutesOf q (degreesOf q)| * 10 ^ 4 ≤ 600000 := by
    rw [abs_of_nonneg (minutesOf_nonneg q)]
    linarith [minutesOf_lt q]
  have hunits : (unitsOf 4 (minutesOf q (degreesOf q)) : ℚ) < 600001 := by
    linarith [unitsOf_le hle]
  exact Nat.lt_succ_iff.mp (by exact_mod_cast hunits)

/-- **A coordinate** as the sentence has it. -/
def ggaAngle (axis : Axis) (q : ℚ) : AngleText axis where
  degrees := ⟨(rowOf axis.degreeDigits (degreesOf q)).toArray, by simp⟩
  minutes := ⟨(rowOf 2 (unitsOf 4 (minutesOf q (degreesOf q)) / 10 ^ 4)).toArray, by simp⟩
  decimals := rowOf 4 (unitsOf 4 (minutesOf q (degreesOf q)) % 10 ^ 4)
  hemisphere := match axis with
    | .latitude => if 0 ≤ q then 0x4E else 0x53
    | .longitude => if 0 ≤ q then 0x45 else 0x57
  hemisphere_mem := by
    cases axis <;> dsimp only <;> split <;> decide

/-- Its number is what the format writes. -/
theorem number_ggaAngle (axis : Axis) (h : |q| < 10 ^ axis.degreeDigits) :
    (ggaAngle axis q).number = paddedDecimal axis.degreeDigits (degreesOf q) ++
      paddedFixed 7 4 (minutesOf q (degreesOf q)) := by
  have hdegrees : degreesOf q < 10 ^ axis.degreeDigits := degreesOf_lt (by exact_mod_cast h)
  have hunits := units_le q
  have hwhole : unitsOf 4 (minutesOf q (degreesOf q)) / 10 ^ 4 < 10 ^ 2 := by omega
  have hplaces : unitsOf 4 (minutesOf q (degreesOf q)) % 10 ^ 4 < 10 ^ 4 :=
    Nat.mod_lt _ (by decide)
  have hpos : 0 < axis.degreeDigits := by cases axis <;> decide
  have hback : (46 :: paddedDecimal 4 (unitsOf 4 (minutesOf q (degreesOf q)) % 10 ^ 4)).length
      = 5 := by
    rw [← digitRow_rowOf (by decide) hplaces, List.length_cons, digitRow, List.length_map,
      length_rowOf]
  have hfixed : paddedFixed 7 4 (minutesOf q (degreesOf q)) =
      paddedDecimal 2 (unitsOf 4 (minutesOf q (degreesOf q)) / 10 ^ 4) ++
        46 :: paddedDecimal 4 (unitsOf 4 (minutesOf q (degreesOf q)) % 10 ^ 4) := by
    have hpad := leftpad_append 2 (decimal (unitsOf 4 (minutesOf q (degreesOf q)) / 10 ^ 4))
      (46 :: paddedDecimal 4 (unitsOf 4 (minutesOf q (degreesOf q)) % 10 ^ 4))
    rw [hback] at hpad
    rw [paddedFixed, fixedText_eq, if_neg (not_lt.mpr (minutesOf_nonneg q)), List.nil_append]
    exact hpad
  rw [hfixed, ← digitRow_rowOf hpos hdegrees, ← digitRow_rowOf (by decide) hwhole,
    ← digitRow_rowOf (by decide) hplaces, ← List.append_assoc, ← digitRow_append]
  rfl

/-- **What is read of it** is the coordinate, its minutes to half of the last place. -/
theorem abs_degreesValue_ggaAngle_sub_le (h : |q| < 10 ^ axis.degreeDigits) :
    |(ggaAngle axis q).degreesValue - q| ≤ 1 / 1200000 := by
  have hdegrees : degreesOf q < 10 ^ axis.degreeDigits := degreesOf_lt (by exact_mod_cast h)
  have hunits := units_le q
  set units := unitsOf 4 (minutesOf q (degreesOf q)) with hdef
  have hrow : rowNumber (rowOf 2 (units / 10 ^ 4) ++ rowOf 4 (units % 10 ^ 4)) = units := by
    rw [rowNumber_append, rowNumber_rowOf (by omega), rowNumber_rowOf (Nat.mod_lt _ (by decide)),
      length_rowOf]
    exact Nat.div_add_mod _ _
  have hminutes : (ggaAngle axis q).minutesValue = units / 10 ^ 4 := by
    rw [AngleText.minutesValue]
    change (rowNumber (rowOf 2 (units / 10 ^ 4) ++ rowOf 4 (units % 10 ^ 4)) : ℚ) /
      10 ^ (rowOf 4 (units % 10 ^ 4)).length = _
    rw [hrow, length_rowOf]
  have hwhole : rowNumber (ggaAngle axis q).degrees.toList = degreesOf q := rowNumber_rowOf hdegrees
  have hsign : (if upper (ggaAngle axis q).hemisphere ∈ ([0x53, 0x57] : Bytes) then (-1 : ℚ)
      else 1) = if 0 ≤ q then 1 else -1 := by
    cases axis <;> by_cases hq : 0 ≤ q <;> simp only [ggaAngle, hq, if_true, if_false] <;> rfl
  have hclose := abs_unitsOf_div_sub_le 4 (minutesOf q (degreesOf q))
  rw [abs_of_nonneg (minutesOf_nonneg q), ← hdef] at hclose
  have hexact : minutesOf q (degreesOf q) = (|q| - degreesOf q) * 60 := rfl
  obtain ⟨hlow, hhigh⟩ := abs_le.mp hclose
  rw [AngleText.degreesValue, hsign, hwhole, hminutes, abs_le]
  split
  · rename_i hq
    rw [abs_of_nonneg hq] at hexact
    constructor <;> linarith
  · rename_i hq
    rw [abs_of_neg (not_le.mp hq)] at hexact
    constructor <;> linarith

end Coordinate

/-! ### The buffer -/

/-- A loop over the first bytes of a list reads them if there are as many. -/
theorem foldRange_get {α : Type} {β : Type} (f : β → α → β) (l : List α) (n : ℕ) (s : β) :
    foldRange (fun s i => do return f s (← get l i)) n s =
      if n ≤ l.length then value ((l.take n).foldl f s) else outside := by
  induction n with
  | zero => rfl
  | succ n ih =>
    rw [foldRange] at ih ⊢
    rw [List.range_succ, List.foldlM_append, ih]
    rcases Nat.lt_trichotomy n l.length with hlt | heq | hgt
    · rw [if_pos hlt.le, if_pos (Nat.succ_le_of_lt hlt), value_bind, List.foldlM_cons,
        get_of_getElem? (List.getElem?_eq_getElem hlt), List.take_succ_eq_append_getElem hlt,
        List.foldl_append]
      rfl
    · have hread : get l n = outside := by
        rw [Checked.get, List.getElem?_eq_none heq.ge]
      rw [if_pos heq.le, if_neg (by omega), value_bind, List.foldlM_cons, hread]
      rfl
    · rw [if_neg (by omega), if_neg (by omega), outside_bind]

theorem sealGga_of_le {text : Bytes} (h : text.length ≤ 191) :
    sealGga text = value
      ((dollar :: text ++ star :: hexText ⟨false, 2, true⟩
        (ChecksumKind.nmea.checkValue text)).take 223) := by
  rw [sealGga, List.take_of_length_le h, foldRange_get, if_pos (by simp),
    List.take_left' rfl]
  rfl

/-- The loop strays exactly if `snprintf` had more than 192 bytes to write. -/
theorem inside_sealGga_iff {text : Bytes} : Inside (sealGga text) ↔ text.length ≤ 192 := by
  have hbuffer : text.length ≤ (text.take 191 ++ [0]).length ↔ text.length ≤ 192 := by
    rw [List.length_append, List.length_take, List.length_singleton]
    omega
  rw [sealGga]
  dsimp only
  rw [foldRange_get]
  by_cases h : text.length ≤ 192
  · rw [if_pos (hbuffer.mpr h)]
    exact iff_of_true (inside_value _) h
  · rw [if_neg (mt hbuffer.mp h)]
    exact iff_of_false (fun h' => h') h

/-- **When the checksum loop stays inside the buffer.** -/
theorem inside_formatGga_iff (time : UtcTime) (fix : NavSatFix) :
    Inside (formatGga time fix) ↔ fix.status.status = .noFix ∨
      |fix.latitude| < 2 ^ 31 ∧ |fix.longitude| < 2 ^ 31 ∧
        (ggaText time fix (degreesOf fix.latitude) (degreesOf fix.longitude)).length ≤ 192 := by
  rw [formatGga]
  by_cases hstatus : fix.status.status = .noFix
  · rw [if_pos hstatus]
    exact iff_of_true (inside_value _) (.inl hstatus)
  rw [if_neg hstatus, castInt, castInt]
  by_cases hlat : |fix.latitude| < 2 ^ 31
  · by_cases hlon : |fix.longitude| < 2 ^ 31
    · rw [if_pos hlat, if_pos hlon, value_bind, value_bind, inside_sealGga_iff]
      simp only [hstatus, hlat, hlon, true_and, false_or]
      rfl
    · rw [if_pos hlat, if_neg hlon]
      simp [hstatus, hlon, Inside]
  · rw [if_neg hlat]
    simp [hstatus, hlat, Inside]

/-! ### Sealing -/

/-- **Two capital digits** are the number they are written for. -/
theorem hexDigits_checkField {n : ℕ} (h : n < 256) :
    (hexText ⟨false, 2, true⟩ n).length = 2 ∧ HexDigits (hexText ⟨false, 2, true⟩ n) n := by
  obtain ⟨ds, htext, hvalue, -⟩ := exists_hexDigits ⟨false, 2, true⟩ n
  have hfilter : (hexText ⟨false, 2, true⟩ n).filterMap (digit 16) = ds := by
    have hmap : (hexText ⟨false, 2, true⟩ n).map (digit 16) = ds.map some := htext
    have hid := congrArg (List.filterMap id) hmap
    rwa [List.filterMap_map, List.filterMap_map, Function.id_comp, Function.id_comp,
      List.filterMap_some] at hid
  refine ⟨?_, ?_, ?_⟩
  · have hlength : (digitsText 16 n).length ≤ 2 := by
      rw [digitsText, List.length_map]
      exact (Nat.length_toDigits_le_iff (by decide) (by decide)).mpr h
    change (((digitsText 16 n).map upper).leftpad 2 48).length = 2
    rw [List.length_leftpad, List.length_map, max_eq_left hlength]
  · intro c hc
    obtain ⟨d, -, hd⟩ := List.mem_map.mp (htext ▸ List.mem_map_of_mem hc : digit 16 c ∈ ds.map some)
    rw [← hd]
    exact Option.some_ne_none d
  · rw [hfilter, hvalue]

/-- **A sealed body** comes to its parser. -/
theorem parseLine_sealed (math : MathFunctions) (counters : ParserCounters) {body : Bytes}
    (hne : body ≠ []) (hbody : star ∉ body) :
    UnicoreParser.parseLine math
        (dollar :: body ++ star :: hexText ⟨false, 2, true⟩ (ChecksumKind.nmea.checkValue body))
        counters =
      UnicoreParser.countParsed ((UnicoreParser.splitFields body).head?.bind fun first =>
        UnicoreParser.nmeaParser first (UnicoreParser.splitFields body)) counters := by
  have hsmall : ChecksumKind.nmea.checkValue body < 256 := UInt8.toNat_lt _
  obtain ⟨hlength, hdigits⟩ := hexDigits_checkField hsmall
  have htrim := @ChecksumKind.trim_sealed .nmea body _ hlength hdigits.1
  have hpasses : ChecksumKind.nmea.validate (dollar :: body ++ star ::
      hexText ⟨false, 2, true⟩ (ChecksumKind.nmea.checkValue body)) = value true :=
    (ChecksumKind.validate_eq_true_iff .nmea _).mpr
      (ChecksumKind.passes_of_digits hne hbody hlength hdigits)
  have hfields : UnicoreParser.lineFields (dollar :: body ++ star ::
      hexText ⟨false, 2, true⟩ (ChecksumKind.nmea.checkValue body)) =
        value (UnicoreParser.splitFields body) := by
    have hstar := @ChecksumKind.idxOf_star .nmea body hbody
      (hexText ⟨false, 2, true⟩ (ChecksumKind.nmea.checkValue body))
    change (dollar :: body ++ star :: hexText ⟨false, 2, true⟩
      (ChecksumKind.nmea.checkValue body)).idxOf star = body.length + 1 at hstar
    rw [UnicoreParser.lineFields, hstar, substr, if_pos (by simp), value_bind, List.cons_append,
      List.drop_succ_cons, List.drop_zero, Nat.add_sub_cancel, List.take_left' rfl]
    rfl
  change UnicoreParser.trim (dollar :: body ++ star :: _) = dollar :: body ++ star :: _ at htrim
  rw [@ChecksumKind.parseLine_eq .nmea _ math counters (by rw [htrim]; rfl), htrim, hpasses,
    value_bind, if_pos rfl, hfields, value_bind]
  rfl

/-! ### Reading the sentence back -/

section Sentence

variable {time : UtcTime} {fix : NavSatFix}

/-- The position that is read back. -/
def ggaPosition (fix : NavSatFix) : FixData where
  source := .gga
  validFix := true
  latitudeDeg := (ggaAngle .latitude fix.latitude).degreesValue
  longitudeDeg := (ggaAngle .longitude fix.longitude).degreesValue
  altitudeM := roundTo 1 fix.altitude
  fixQuality := ggaQuality fix.status.status
  satellites := 10
  hdop := .finite 1

/-- The tenths of an altitude. -/
theorem units_altitude_le (h : |fix.altitude| ≤ 10 ^ 60) :
    unitsOf 1 fix.altitude ≤ 10 ^ 61 := by
  have hle : |fix.altitude| * 10 ^ 1 ≤ 10 ^ 61 := by
    rw [pow_succ 10 60, pow_one]
    exact mul_le_mul_of_nonneg_right h (by decide)
  have hlt : (unitsOf 1 fix.altitude : ℚ) < ((10 ^ 61 + 1 : ℕ) : ℚ) := by
    push_cast
    linarith [unitsOf_le hle]
  exact Nat.lt_succ_iff.mp (by exact_mod_cast hlt)

theorem decimalNumber_altitude (h : |fix.altitude| ≤ 10 ^ 60) :
    decimalNumber (fixedText 1 fix.altitude) = some (roundTo 1 fix.altitude) := by
  refine decimalNumber_fixedText (by decide) ?_
  have hunits : (unitsOf 1 fix.altitude : ℚ) ≤ 10 ^ 61 := by
    exact_mod_cast units_altitude_le h
  have hten : (10 : ℚ) ^ 61 / 10 ^ 1 < 2 ^ 200 := by norm_num
  have hlow : (2 : ℚ) ^ 200 ≤ 2 ^ 970 := pow_le_pow_right₀ (by decide) (by decide)
  have hhigh : (2 : ℚ) ^ 970 + 2 ^ 970 ≤ 2 ^ 1024 := by
    rw [← two_mul, ← pow_succ']
    exact pow_le_pow_right₀ (by decide) (by decide)
  calc (unitsOf 1 fix.altitude : ℚ) / 10 ^ 1
      ≤ 10 ^ 61 / 10 ^ 1 := div_le_div_of_nonneg_right hunits (by positivity)
    _ < 2 ^ 200 := hten
    _ ≤ 2 ^ 970 := hlow
    _ ≤ 2 ^ 1024 - 2 ^ 970 := le_sub_iff_add_le.mpr hhigh

theorem length_altitude_le (h : |fix.altitude| ≤ 10 ^ 60) :
    (fixedText 1 fix.altitude).length ≤ 64 := by
  have hunits := units_altitude_le h
  have hwhole : (decimal (unitsOf 1 fix.altitude / 10 ^ 1)).length ≤ 61 := by
    refine length_decimal_le (by decide) ?_
    rw [Nat.div_lt_iff_lt_mul (by decide), ← pow_add]
    exact hunits.trans_lt (Nat.pow_lt_pow_right (by decide) (by decide))
  have hplace : (decimal (unitsOf 1 fix.altitude % 10 ^ 1)).length ≤ 1 :=
    length_decimal_le (by decide) (Nat.mod_lt _ (by decide))
  have hsign : (if fix.altitude < 0 then [45] else ([] : List UInt8)).length ≤ 1 := by
    split <;> decide
  rw [fixedText_eq, List.length_append, List.length_append, List.length_cons, List.length_leftpad,
    max_eq_left hplace]
  omega

theorem number_latitude (h : |fix.latitude| < 100) :
    (ggaAngle .latitude fix.latitude).number = paddedDecimal 2 (degreesOf fix.latitude) ++
      paddedFixed 7 4 (minutesOf fix.latitude (degreesOf fix.latitude)) :=
  number_ggaAngle .latitude (by norm_num [Axis.degreeDigits]; exact h)

theorem number_longitude (h : |fix.longitude| < 1000) :
    (ggaAngle .longitude fix.longitude).number = paddedDecimal 3 (degreesOf fix.longitude) ++
      paddedFixed 7 4 (minutesOf fix.longitude (degreesOf fix.longitude)) :=
  number_ggaAngle .longitude (by norm_num [Axis.degreeDigits]; exact h)

theorem length_paddedDecimal {width n : ℕ} (hwidth : 0 < width) (h : n < 10 ^ width) :
    (paddedDecimal width n).length = width := by
  rw [← digitRow_rowOf hwidth h, digitRow, List.length_map, length_rowOf]

theorem length_number (axis : Axis) (q : ℚ) :
    (ggaAngle axis q).number.length = axis.degreeDigits + 7 := by
  rw [AngleText.number, List.length_append, List.length_cons, digitRow, digitRow, List.length_map,
    List.length_map, List.length_append, Vector.length_toList, Vector.length_toList]
  change axis.degreeDigits + 2 + ((rowOf 4 _).length + 1) = _
  rw [length_rowOf]

/-- No field has a comma or a star in it. -/
theorem plain_ggaFields (time : UtcTime) (hlat : |fix.latitude| < 100)
    (hlon : |fix.longitude| < 1000) (halt : |fix.altitude| ≤ 10 ^ 60) :
    ∀ field ∈ ggaFields time fix (degreesOf fix.latitude) (degreesOf fix.longitude),
      comma ∉ field ∧ star ∉ field := by
  have hrow : ∀ ds : List (Fin 10), comma ∉ digitRow ds ∧ star ∉ digitRow ds := by
    intro ds
    constructor <;> intro h <;> obtain ⟨d, -, hd⟩ := List.mem_map.mp h <;> revert hd <;>
      revert d <;> decide
  have hnumber : ∀ (axis : Axis) (q : ℚ), comma ∉ (ggaAngle axis q).number ∧
      star ∉ (ggaAngle axis q).number := by
    intro axis q
    constructor <;> intro h <;> rcases (ggaAngle axis q).mem_number h with h | ⟨d, h⟩
    · cases h
    · revert d
      decide
    · cases h
    · revert d
      decide
  have htime : ∀ n < 100, comma ∉ paddedDecimal 2 n ∧ star ∉ paddedDecimal 2 n := by
    intro n hn
    rw [← digitRow_rowOf (by decide) (by simpa using hn)]
    exact hrow _
  have hhour := htime time.hour (by linarith [time.hour_lt])
  have hminute := htime time.minute (by linarith [time.minute_lt])
  have hsecond := htime time.second (by linarith [time.second_le])
  have haltitude := decimalNumber_altitude halt
  have hdot : comma ∉ ascii ".00" ∧ star ∉ ascii ".00" := by decide
  intro field hfield
  simp only [ggaFields, ← number_latitude hlat, ← number_longitude hlon, List.mem_cons,
    List.not_mem_nil, or_false] at hfield
  rcases hfield with rfl | rfl | rfl | rfl | rfl | rfl | rfl | rfl | rfl | rfl | rfl | rfl | rfl |
    rfl | rfl
  · decide
  · simp only [List.mem_append, not_or]
    exact ⟨⟨⟨⟨hhour.1, hminute.1⟩, hsecond.1⟩, hdot.1⟩, ⟨⟨⟨hhour.2, hminute.2⟩, hsecond.2⟩, hdot.2⟩⟩
  · exact hnumber _ _
  · split <;> decide
  · exact hnumber _ _
  · split <;> decide
  · cases fix.status.status <;> decide
  · decide
  · decide
  · exact ⟨notMem_of_decimalNumber haltitude (by decide) (by decide) (by decide) (by decide),
      notMem_of_decimalNumber haltitude (by decide) (by decide) (by decide) (by decide)⟩
  all_goals decide

theorem splitFields_ggaText (time : UtcTime) (hlat : |fix.latitude| < 100)
    (hlon : |fix.longitude| < 1000) (halt : |fix.altitude| ≤ 10 ^ 60) :
    UnicoreParser.splitFields
        (ggaText time fix (degreesOf fix.latitude) (degreesOf fix.longitude)) =
      ggaFields time fix (degreesOf fix.latitude) (degreesOf fix.longitude) := by
  have hplain := plain_ggaFields time hlat hlon halt
  exact List.splitOn_intercalate comma (fun field hfield => (hplain field hfield).1)
    (List.cons_ne_nil _ _)

/-- What is not in the fields and is no comma is not in the text. -/
theorem mem_intercalate {c : UInt8} {fields : List Bytes} (h : c ∈ [comma].intercalate fields) :
    c = comma ∨ ∃ field ∈ fields, c ∈ field := by
  induction fields with
  | nil => cases h
  | cons field fields ih =>
    cases fields with
    | nil =>
      rw [List.intercalate_singleton] at h
      exact .inr ⟨field, List.mem_cons_self, h⟩
    | cons field' fields =>
      rw [List.intercalate_cons_cons, List.append_assoc, List.mem_append, List.mem_append,
        List.mem_singleton] at h
      rcases h with h | h | h
      · exact .inr ⟨field, List.mem_cons_self, h⟩
      · exact .inl h
      · rcases ih h with h | ⟨other, hmem, h⟩
        · exact .inl h
        · exact .inr ⟨other, List.mem_cons_of_mem _ hmem, h⟩

theorem star_notMem_ggaText (time : UtcTime) (hlat : |fix.latitude| < 100)
    (hlon : |fix.longitude| < 1000) (halt : |fix.altitude| ≤ 10 ^ 60) :
    star ∉ ggaText time fix (degreesOf fix.latitude) (degreesOf fix.longitude) := by
  intro hmem
  rcases mem_intercalate hmem with hcomma | ⟨field, hfield, hstar⟩
  · cases hcomma
  · exact (plain_ggaFields time hlat hlon halt field hfield).2 hstar

/-- All fields but the altitude have one length. -/
theorem length_ggaText (time : UtcTime) (hlat : |fix.latitude| < 100)
    (hlon : |fix.longitude| < 1000) :
    (ggaText time fix (degreesOf fix.latitude) (degreesOf fix.longitude)).length =
      60 + (fixedText 1 fix.altitude).length := by
  have hhour := length_paddedDecimal (n := time.hour) (by decide : 0 < 2)
    (by linarith [time.hour_lt])
  have hminute := length_paddedDecimal (n := time.minute) (by decide : 0 < 2)
    (by linarith [time.minute_lt])
  have hsecond := length_paddedDecimal (n := time.second) (by decide : 0 < 2)
    (by linarith [time.second_le])
  have hlatitude := length_number .latitude fix.latitude
  have hlongitude := length_number .longitude fix.longitude
  have hquality : (decimal (ggaQuality fix.status.status)).length = 1 := by
    cases fix.status.status <;> rfl
  have hname : (ascii "GPGGA").length = 5 := rfl
  have hdot : (ascii ".00").length = 3 := rfl
  have hten : (ascii "10").length = 2 := rfl
  have hhdop : (ascii "1.0").length = 3 := rfl
  have hunit : (ascii "M").length = 1 := rfl
  have hgeoid : (ascii "0.0").length = 3 := rfl
  rw [ggaText, ggaFields, ← number_latitude hlat, ← number_longitude hlon]
  simp only [List.intercalate_cons_cons, List.intercalate_singleton, List.length_append,
    List.length_singleton, hhour, hminute, hsecond, hlatitude, hlongitude, hquality, hname, hdot,
    hten, hhdop, hunit, hgeoid, Axis.degreeDigits, List.length_nil]
  ring

theorem length_ggaText_le (time : UtcTime) (hlat : |fix.latitude| < 100)
    (hlon : |fix.longitude| < 1000) (halt : |fix.altitude| ≤ 10 ^ 60) :
    (ggaText time fix (degreesOf fix.latitude) (degreesOf fix.longitude)).length ≤ 124 := by
  rw [length_ggaText time hlat hlon]
  exact Nat.add_le_add_left (length_altitude_le halt) 60

/-- The sentence that is written. -/
theorem formatGga_eq (hstatus : fix.status.status ≠ .noFix) (hlat : |fix.latitude| < 100)
    (hlon : |fix.longitude| < 1000) (halt : |fix.altitude| ≤ 10 ^ 60) :
    formatGga time fix = value
      (dollar :: ggaText time fix (degreesOf fix.latitude) (degreesOf fix.longitude) ++
        star :: hexText ⟨false, 2, true⟩ (ChecksumKind.nmea.checkValue
          (ggaText time fix (degreesOf fix.latitude) (degreesOf fix.longitude)))) := by
  have hlength := length_ggaText_le time hlat hlon halt
  have hcast : ∀ q : ℚ, |q| < 1000 → castInt |q| = value (degreesOf q) := by
    intro q hq
    exact if_pos (hq.trans (by norm_num))
  obtain ⟨hfield, -⟩ := hexDigits_checkField (UInt8.toNat_lt ((ggaText time fix
    (degreesOf fix.latitude) (degreesOf fix.longitude)).foldl (· ^^^ ·) 0))
  rw [formatGga, if_neg hstatus, hcast _ (hlat.trans (by norm_num)), value_bind, hcast _ hlon,
    value_bind, sealGga_of_le (by omega), List.take_of_length_le]
  rw [List.length_append, List.length_cons, List.length_cons]
  rw [ChecksumKind.checkValue, hfield]
  omega

/-- The parser of GGA reads the position in the fields. -/
theorem parseGga_ggaFields (hlat : |fix.latitude| < 100) (hlon : |fix.longitude| < 1000)
    (halt : |fix.altitude| ≤ 10 ^ 60) :
    UnicoreParser.parseGga (ggaFields time fix (degreesOf fix.latitude)
        (degreesOf fix.longitude)) =
      value { sentenceType := ascii "GGA", fix := some (ggaPosition fix) } := by
  have hlatitude : UnicoreParser.parseLatlon (ggaAngle .latitude fix.latitude).number
      [if 0 ≤ fix.latitude then 0x4E else 0x53] =
        some (ggaAngle .latitude fix.latitude).degreesValue :=
    UnicoreParser.parseLatlon_eq_some_iff.mpr (ggaAngle .latitude fix.latitude).readsDegrees
  have hlongitude : UnicoreParser.parseLatlon (ggaAngle .longitude fix.longitude).number
      [if 0 ≤ fix.longitude then 0x45 else 0x57] =
        some (ggaAngle .longitude fix.longitude).degreesValue :=
    UnicoreParser.parseLatlon_eq_some_iff.mpr (ggaAngle .longitude fix.longitude).readsDegrees
  have hquality : UnicoreParser.parseInt (decimal (ggaQuality fix.status.status)) =
      some (ggaQuality fix.status.status : ℤ) := by
    cases fix.status.status <;> decide
  have hpositive : 0 < ggaQuality fix.status.status := by
    cases fix.status.status <;> decide
  have hdecimal := decimalNumber_altitude halt
  have haltitude : UnicoreParser.parseDouble (fixedText 1 fix.altitude) =
      some (roundTo 1 fix.altitude) := by
    rw [UnicoreParser.parseDouble_eq_decimalNumber
      (notMem_of_decimalNumber hdecimal (by decide) (by decide) (by decide) (by decide))
      (lower_ne_mark_of_decimalNumber hdecimal), hdecimal]
  have hsatellites : UnicoreParser.parseInt (ascii "10") = some 10 := by decide
  have hhdop : UnicoreParser.parseDouble (ascii "1.0") = some 1 := by decide +kernel
  have hgeoid : UnicoreParser.parseDouble (ascii "0.0") = some 0 := by decide +kernel
  rw [ggaFields, ← number_latitude hlat, ← number_longitude hlon, UnicoreParser.parseGga,
    require_true (by simp)]
  simp only [UnicoreParser.fieldIfAny, Checked.get, List.getElem?_cons_succ,
    List.getElem?_cons_zero, List.length_cons, List.length_nil, value_bind, hlatitude, hlongitude,
    ofOption_some, pure_eq, hquality, haltitude, hsatellites, hhdop, hgeoid]
  simp [ggaPosition, hpositive]

end Sentence

/-- **When the checksum loop leaves the buffer**: of a position on the globe, exactly if the
altitude takes more than 132 characters. -/
theorem outside_formatGga_iff (time : UtcTime) (fix : NavSatFix) (hlat : |fix.latitude| < 100)
    (hlon : |fix.longitude| < 1000) :
    formatGga time fix = outside ↔
      fix.status.status ≠ .noFix ∧ 132 < (fixedText 1 fix.altitude).length := by
  have hinside := inside_formatGga_iff time fix
  rw [length_ggaText time hlat hlon, inside_iff_ne] at hinside
  have hlat' : |fix.latitude| < 2 ^ 31 := hlat.trans (by norm_num)
  have hlon' : |fix.longitude| < 2 ^ 31 := hlon.trans (by norm_num)
  have hlength : 60 + (fixedText 1 fix.altitude).length ≤ 192 ↔
      ¬ 132 < (fixedText 1 fix.altitude).length := by
    omega
  rw [← not_iff_not, ← Ne, hinside, hlength]
  simp only [hlat', hlon', true_and]
  tauto

/-- A quarter past noon. -/
def sampleTime : UtcTime where
  hour := 12
  minute := 15
  second := 7
  hour_lt := by decide
  minute_lt := by decide
  second_le := by decide

/-- An altitude of `10 ^ 140` metres. -/
theorem outside_formatGga_high :
    formatGga sampleTime
      { header := { stamp := 0, frameId := [] }, status := { status := .fix, service := [] }
        latitude := 0, longitude := 0, altitude := 10 ^ 140
        positionCovariance := Vector.replicate 9 0, positionCovarianceType := .unknown } =
      outside :=
  (outside_formatGga_iff sampleTime _ (by decide +kernel) (by decide +kernel)).mpr
    ⟨by decide, by decide +kernel⟩

/-- **The sentence is read back** by the node's own parser: its checksum is right, it is counted as
one sentence and as no error, and its position is the fix, in exact arithmetic to half of the last
places. -/
theorem parseLine_formatGga (math : MathFunctions) (counters : ParserCounters) (time : UtcTime)
    (fix : NavSatFix) (hstatus : fix.status.status ≠ .noFix) (hlat : |fix.latitude| < 100)
    (hlon : |fix.longitude| < 1000) (halt : |fix.altitude| ≤ 10 ^ 60) :
    ∃ gga position,
      formatGga time fix = value gga ∧ gga.length ≤ 128 ∧
      UnicoreParser.parseLine math gga counters =
        value (some { sentenceType := ascii "GGA", fix := some position },
          { counters with parsedSentences := counters.parsedSentences + 1 }) ∧
      |position.latitudeDeg - fix.latitude| ≤ 1 / 1200000 ∧
      |position.longitudeDeg - fix.longitude| ≤ 1 / 1200000 ∧
      |position.altitudeM - fix.altitude| ≤ 1 / 20 ∧
      position.validFix = true ∧ position.fixQuality = ggaQuality fix.status.status := by
  have hsplit := splitFields_ggaText time hlat hlon halt
  have hstar := star_notMem_ggaText time hlat hlon halt
  have hlength := length_ggaText_le time hlat hlon halt
  have hne : ggaText time fix (degreesOf fix.latitude) (degreesOf fix.longitude) ≠ [] := by
    simp [ggaText, ggaFields, ascii]
  refine ⟨_, ggaPosition fix, formatGga_eq hstatus hlat hlon halt, ?_, ?_,
    abs_degreesValue_ggaAngle_sub_le (by norm_num [Axis.degreeDigits]; exact hlat),
    abs_degreesValue_ggaAngle_sub_le (by norm_num [Axis.degreeDigits]; exact hlon), ?_, rfl, rfl⟩
  · obtain ⟨hfield, -⟩ := hexDigits_checkField (UInt8.toNat_lt ((ggaText time fix
      (degreesOf fix.latitude) (degreesOf fix.longitude)).foldl (· ^^^ ·) 0))
    rw [List.length_append, List.length_cons, List.length_cons, ChecksumKind.checkValue, hfield]
    omega
  · have hparser : ((ggaFields time fix (degreesOf fix.latitude)
          (degreesOf fix.longitude)).head?.bind fun first => UnicoreParser.nmeaParser first
            (ggaFields time fix (degreesOf fix.latitude) (degreesOf fix.longitude))) =
        some (UnicoreParser.parseGga (ggaFields time fix (degreesOf fix.latitude)
          (degreesOf fix.longitude))) := rfl
    rw [parseLine_sealed math counters hne hstar, hsplit, hparser, UnicoreParser.countParsed,
      parseGga_ggaFields hlat hlon halt]
    rfl
  · have hclose := abs_roundTo_sub_le 1 fix.altitude
    norm_num at hclose ⊢
    exact hclose

/-- A fix whose minutes of longitude are rounded up to sixty. -/
def sampleFix : NavSatFix where
  header := { stamp := 0, frameId := ascii "gps" }
  status := { status := .gbasFix, service := [] }
  latitude := 47.5
  longitude := -(3 - 1 / 10 ^ 9)
  altitude := -1 / 100
  positionCovariance := Vector.replicate 9 0
  positionCovarianceType := .unknown

theorem parseLine_formatGga_sample :
    formatGga sampleTime sampleFix =
        value (ascii "$GPGGA,121507.00,4730.0000,N,00260.0000,W,4,10,1.0,-0.0,M,0.0,M,,*62") ∧
      ∃ gga position, formatGga sampleTime sampleFix = value gga ∧
        UnicoreParser.parseLine ⟨fun _ => 0, fun _ => 1⟩ gga {} =
          value (some { sentenceType := ascii "GGA", fix := some position },
            { parsedSentences := 1 }) ∧
        |position.longitudeDeg - -(3 - 1 / 10 ^ 9)| ≤ 1 / 1200000 := by
  refine ⟨by decide +kernel, ?_⟩
  obtain ⟨gga, position, hformat, -, hparse, -, hlongitude, -⟩ :=
    parseLine_formatGga ⟨fun _ => 0, fun _ => 1⟩ {} sampleTime sampleFix (by decide)
      (by decide +kernel) (by decide +kernel) (by decide +kernel)
  exact ⟨gga, position, hformat, hparse, hlongitude⟩

end UnicoreGnss
