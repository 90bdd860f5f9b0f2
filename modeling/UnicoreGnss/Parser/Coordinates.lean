import UnicoreGnss.Parser.Numbers
import Mathlib.Tactic.Linarith

/-!
# Coordinates of GGA

A GGA gives each coordinate as degrees and minutes in one number, `dddmm.mmmm`, with a letter for
the hemisphere. `parse_latlon` serves both axes. It takes off the hundreds of the number as degrees
and the rest as minutes, and takes any of the four letters for either axis; that a number is one of
an angle on the globe, is left to the receiver. So a latitude may be east, minutes may be up to a
hundred, and degrees may be of any size. A negative number has its hundreds taken off downwards.

What a receiver writes is read as it should be.

## Main definitions

* `ReadsDegrees` — what is read of a coordinate
* `AngleText` — a coordinate in the format of the sentence

## Main results

* `UnicoreParser.parseLatlon_eq_some_iff` — `parse_latlon`, without `floor`
* `UnicoreParser.exists_parseGga_iff` — which sentences are accepted
* `gga_coordinates` — the coordinates of a fix
-/

namespace UnicoreGnss

open CNumber Checked

/-- A letter and the sign of its hemisphere; no letter is told from its capital. -/
def HemisphereSign (c : UInt8) (sign : ℚ) : Prop :=
  upper c ∈ ([0x4E, 0x45] : Bytes) ∧ sign = 1 ∨ upper c ∈ ([0x53, 0x57] : Bytes) ∧ sign = -1

/-- The first field denotes a number of hundreds and less than a hundred above it, the second is one
of the four letters, and the hundreds are the degrees, the rest the minutes. -/
def ReadsDegrees (valueField hemiField : Bytes) (degrees : ℚ) : Prop :=
  ∃ (c : UInt8) (sign : ℚ) (whole : ℤ) (minutes : ℚ),
    hemiField = [c] ∧ HemisphereSign c sign ∧
    UnicoreParser.parseDouble valueField = some (100 * whole + minutes) ∧
    0 ≤ minutes ∧ minutes < 100 ∧ degrees = sign * (whole + minutes / 60)

/-! ### Hundreds and the rest -/

theorem floor_hundreds {whole : ℤ} {minutes : ℚ} (h : 0 ≤ minutes) (h' : minutes < 100) :
    ⌊(100 * whole + minutes) / 100⌋ = whole := by
  rw [Int.floor_eq_iff]
  constructor <;> linarith

theorem rest_of_hundreds (q : ℚ) : 0 ≤ q - ⌊q / 100⌋ * 100 ∧ q - ⌊q / 100⌋ * 100 < 100 := by
  have hle := Int.floor_le (q / 100)
  have hlt := Int.lt_floor_add_one (q / 100)
  constructor <;> linarith

/-- The two tests of the letter give a degree its sign. -/
theorem signed_eq_some_iff {c : UInt8} {degrees signed : ℚ} :
    (if upper c = 0x4E ∨ upper c = 0x53 ∨ upper c = 0x45 ∨ upper c = 0x57 then
        some (if upper c = 0x53 ∨ upper c = 0x57 then -degrees else degrees)
      else none) = some signed ↔
      ∃ sign, HemisphereSign c sign ∧ signed = sign * degrees := by
  simp only [HemisphereSign, List.mem_cons, List.not_mem_nil, or_false]
  generalize upper c = hemi
  by_cases hnegative : hemi = 0x53 ∨ hemi = 0x57
  · have hpositive : ¬(hemi = 0x4E ∨ hemi = 0x45) := by
      rcases hnegative with rfl | rfl <;> decide
    rw [if_pos (by tauto), if_pos hnegative]
    simp [hpositive, hnegative, eq_comm]
  · by_cases hpositive : hemi = 0x4E ∨ hemi = 0x45
    · rw [if_pos (by tauto), if_neg hnegative]
      simp [hpositive, hnegative, eq_comm]
    · rw [if_neg (by tauto)]
      simp [hpositive, hnegative]

namespace UnicoreParser

/-- **`parse_latlon`** accepts what reads as degrees. -/
theorem parseLatlon_eq_some_iff {valueField hemiField : Bytes} {degrees : ℚ} :
    parseLatlon valueField hemiField = some degrees ↔
      ReadsDegrees valueField hemiField degrees := by
  rw [parseLatlon]
  constructor
  · intro h
    obtain ⟨raw, hraw, h⟩ := Option.bind_eq_some_iff.mp h
    rcases hemiField with _ | ⟨c, _ | ⟨c', cs⟩⟩
    · cases h
    · obtain ⟨sign, hsign, hdegrees⟩ := signed_eq_some_iff.mp h
      obtain ⟨hlow, hhigh⟩ := rest_of_hundreds raw
      refine ⟨c, sign, ⌊raw / 100⌋, raw - ⌊raw / 100⌋ * 100, rfl, hsign, ?_, hlow, hhigh, hdegrees⟩
      rw [hraw]
      congr 1
      ring
    · cases h
  · rintro ⟨c, sign, whole, minutes, rfl, hsign, hraw, hlow, hhigh, hdegrees⟩
    refine Option.bind_eq_some_iff.mpr ⟨_, hraw, signed_eq_some_iff.mpr ⟨sign, hsign, ?_⟩⟩
    rw [floor_hundreds hlow hhigh, hdegrees]
    ring

/-- **Which GGA sentences are accepted**: those with coordinates. Nothing else in them is
refused. -/
theorem exists_parseGga_iff {fields : List Bytes} {latitude longitude : ℚ} :
    (∃ sentence fix, parseGga fields = value sentence ∧ sentence.fix = some fix ∧
        fix.latitudeDeg = latitude ∧ fix.longitudeDeg = longitude) ↔
      10 ≤ fields.length ∧
        parseLatlon (fields.getD 2 []) (fields.getD 3 []) = some latitude ∧
        parseLatlon (fields.getD 4 []) (fields.getD 5 []) = some longitude := by
  by_cases hlength : 10 ≤ fields.length
  · have hget : ∀ i < 10, get fields i = value (fields.getD i []) := by
      intro i hi
      have hlt : i < fields.length := by omega
      rw [get_of_getElem? (List.getElem?_eq_getElem hlt), List.getD_eq_getElem?_getD,
        List.getElem?_eq_getElem hlt, Option.getD_some]
    rw [parseGga, require_true hlength]
    simp (disch := decide) only [hget, value_bind, fieldIfAny_none, hlength, true_and]
    cases parseLatlon (fields.getD 2 []) (fields.getD 3 []) with
    | none => simp
    | some latitude' =>
      cases parseLatlon (fields.getD 4 []) (fields.getD 5 []) with
      | none => simp
      | some longitude' => simp
  · rw [parseGga, require_false hlength]
    simp [hlength]

end UnicoreParser

/-! ### The format of the sentence -/

/-- The two axes of the globe. -/
inductive Axis where
  | latitude
  | longitude
  deriving DecidableEq, Repr

/-- `ddmm.mmmm` and `dddmm.mmmm` -/
def Axis.degreeDigits : Axis → ℕ
  | .latitude => 2
  | .longitude => 3

/-- `N` and `S`, `E` and `W` -/
def Axis.letters : Axis → Bytes
  | .latitude => [0x4E, 0x53]
  | .longitude => [0x45, 0x57]

/-- A coordinate in the format of the sentence: the digits of the degrees, two digits of minutes and
any decimals, and a letter of the axis, small or capital. -/
structure AngleText (axis : Axis) where
  degrees : Vector (Fin 10) axis.degreeDigits
  minutes : Vector (Fin 10) 2
  decimals : List (Fin 10)
  hemisphere : UInt8
  hemisphere_mem : upper hemisphere ∈ axis.letters

/-- A row of digits. -/
def digitRow (ds : List (Fin 10)) : Bytes := ds.map fun d => UInt8.ofNat (48 + d.val)

/-- The number that a row of digits is. -/
def rowNumber (ds : List (Fin 10)) : ℕ := Nat.ofDigits 10 (ds.map Fin.val).reverse

theorem map_digit_digitRow (ds : List (Fin 10)) :
    (digitRow ds).map (digit 10) = (ds.map Fin.val).map some := by
  have hdigit : ∀ d : Fin 10, digit 10 (UInt8.ofNat (48 + d.val)) = some d.val := by decide
  rw [digitRow, List.map_map, List.map_map]
  exact List.map_congr_left fun d _ => hdigit d

theorem rowNumber_append (ds es : List (Fin 10)) :
    rowNumber (ds ++ es) = 10 ^ es.length * rowNumber ds + rowNumber es := by
  rw [rowNumber, List.map_append, List.reverse_append, Nat.ofDigits_append, List.length_reverse,
    List.length_map, add_comm]
  rfl

theorem rowNumber_lt (ds : List (Fin 10)) : rowNumber ds < 10 ^ ds.length := by
  have h := Nat.ofDigits_lt_base_pow_length (b := 10) (l := (ds.map Fin.val).reverse) (by decide)
    (by simp)
  rwa [List.length_reverse, List.length_map] at h

namespace AngleText

variable {axis : Axis} (angle : AngleText axis)

/-- The number as it is written. -/
def number : Bytes :=
  digitRow (angle.degrees.toList ++ angle.minutes.toList) ++ 0x2E :: digitRow angle.decimals

/-- The minutes with their decimals. -/
def minutesValue : ℚ :=
  rowNumber (angle.minutes.toList ++ angle.decimals) / 10 ^ angle.decimals.length

/-- The angle in degrees, negative in the south and in the west. -/
def degreesValue : ℚ :=
  (if upper angle.hemisphere ∈ ([0x53, 0x57] : Bytes) then -1 else 1) *
    (rowNumber angle.degrees.toList + angle.minutesValue / 60)

theorem minutesValue_nonneg : 0 ≤ angle.minutesValue :=
  div_nonneg (Nat.cast_nonneg _) (pow_nonneg (by decide) _)

theorem minutesValue_lt : angle.minutesValue < 100 := by
  have hlt := rowNumber_lt (angle.minutes.toList ++ angle.decimals)
  rw [List.length_append, Vector.length_toList, pow_add] at hlt
  rw [minutesValue, div_lt_iff₀ (by positivity)]
  exact_mod_cast hlt

/-- The number is a hundred times the degrees, and the minutes. -/
theorem rowNumber_div_eq :
    (rowNumber (angle.degrees.toList ++ angle.minutes.toList ++ angle.decimals) : ℚ) /
        10 ^ angle.decimals.length =
      100 * rowNumber angle.degrees.toList + angle.minutesValue := by
  rw [List.append_assoc, rowNumber_append, List.length_append, Vector.length_toList, pow_add,
    minutesValue]
  push_cast
  field_simp

/-- Its characters are digits, but for the point. -/
theorem mem_number {c : UInt8} (h : c ∈ angle.number) :
    c = 0x2E ∨ ∃ d : Fin 10, c = UInt8.ofNat (48 + d.val) := by
  rw [number, List.mem_append, List.mem_cons] at h
  have hrow : ∀ ds : List (Fin 10), c ∈ digitRow ds →
      ∃ d : Fin 10, c = UInt8.ofNat (48 + d.val) := by
    intro ds hc
    obtain ⟨d, -, hd⟩ := List.mem_map.mp hc
    exact ⟨d, hd.symm⟩
  rcases h with h | h | h
  · exact .inr (hrow _ h)
  · exact .inl h
  · exact .inr (hrow _ h)

/-- **What is written is read.** -/
theorem parseDouble_number : UnicoreParser.parseDouble angle.number =
    some (100 * rowNumber angle.degrees.toList + angle.minutesValue) := by
  have hzero : (0 : UInt8) ∉ angle.number := by
    intro h
    rcases angle.mem_number h with h | ⟨d, h⟩
    · cases h
    · revert d
      decide
  have hmark : ∀ c ∈ angle.number, lower c ≠ 120 := by
    intro c hc
    have hdigit : ∀ d : Fin 10, lower (UInt8.ofNat (48 + d.val)) ≠ 120 := by decide
    rcases angle.mem_number hc with rfl | ⟨d, rfl⟩
    · decide
    · exact hdigit d
  have hdegrees : rowNumber angle.degrees.toList < 10 ^ 3 := by
    refine (rowNumber_lt _).trans_le ?_
    rw [Vector.length_toList]
    cases axis <;> decide
  have hlarge : (100 * rowNumber angle.degrees.toList + angle.minutesValue : ℚ) <
      2 ^ 1024 - 2 ^ 970 := by
    have hdegrees' : (rowNumber angle.degrees.toList : ℚ) < 10 ^ 3 := by exact_mod_cast hdegrees
    have hminutes := angle.minutesValue_lt
    have hsmall : (100 * rowNumber angle.degrees.toList + angle.minutesValue : ℚ) < 2 ^ 17 := by
      linarith
    have hlow : (2 : ℚ) ^ 17 ≤ 2 ^ 970 := pow_le_pow_right₀ (by decide) (by decide)
    have hhigh : (2 : ℚ) ^ 970 + 2 ^ 970 ≤ 2 ^ 1024 := by
      rw [← two_mul, ← pow_succ']
      exact pow_le_pow_right₀ (by decide) (by decide)
    exact hsmall.trans_le (hlow.trans (le_sub_iff_add_le.mpr hhigh))
  have hnonempty : (angle.degrees.toList ++ angle.minutes.toList).map Fin.val ≠ [] := by
    intro h
    have hlength := congrArg List.length h
    simp at hlength
  rw [UnicoreParser.parseDouble_eq_decimalNumber hzero hmark, number]
  rw [← angle.rowNumber_div_eq] at hlarge ⊢
  have hread := decimalNumber_of_digits
    (map_digit_digitRow (angle.degrees.toList ++ angle.minutes.toList))
    (map_digit_digitRow angle.decimals) hnonempty
  rw [← List.map_append, List.length_map] at hread
  exact hread hlarge

/-- **A coordinate in the format of the sentence** is read as the angle it is. -/
theorem readsDegrees : ReadsDegrees angle.number [angle.hemisphere] angle.degreesValue := by
  refine ⟨angle.hemisphere, _, rowNumber angle.degrees.toList, angle.minutesValue, rfl, ?_,
    angle.parseDouble_number, angle.minutesValue_nonneg, angle.minutesValue_lt, rfl⟩
  have hletter : upper angle.hemisphere ∈ ([0x4E, 0x45] : Bytes) ∨
      upper angle.hemisphere ∈ ([0x53, 0x57] : Bytes) := by
    have hmem := angle.hemisphere_mem
    cases axis <;> simp only [Axis.letters, List.mem_cons, List.not_mem_nil, or_false] at hmem ⊢ <;>
      tauto
  split
  · next hnegative => exact .inr ⟨hnegative, rfl⟩
  · next hnegative => exact .inl ⟨hletter.resolve_right hnegative, rfl⟩

end AngleText

/-- **GGA coordinates.** The coordinates of a fix are read off the hundreds and the rest of the two
numbers, with the signs of the two letters. Coordinates in the format of the sentence are always
accepted, as the angles they are. -/
theorem gga_coordinates :
    (∀ fields sentence fix, UnicoreParser.parseGga fields = value sentence →
      sentence.fix = some fix →
      ReadsDegrees (fields.getD 2 []) (fields.getD 3 []) fix.latitudeDeg ∧
        ReadsDegrees (fields.getD 4 []) (fields.getD 5 []) fix.longitudeDeg) ∧
    ∀ (latitude : AngleText .latitude) (longitude : AngleText .longitude) (name time : Bytes)
      (rest : List Bytes), 4 ≤ rest.length →
      ∃ sentence fix, UnicoreParser.parseGga (name :: time :: latitude.number ::
          [latitude.hemisphere] :: longitude.number :: [longitude.hemisphere] :: rest) =
            value sentence ∧ sentence.fix = some fix ∧
          fix.latitudeDeg = latitude.degreesValue ∧ fix.longitudeDeg = longitude.degreesValue := by
  constructor
  · intro fields sentence fix hparse hfix
    obtain ⟨-, hlatitude, hlongitude⟩ :=
      UnicoreParser.exists_parseGga_iff.mp ⟨sentence, fix, hparse, hfix, rfl, rfl⟩
    exact ⟨UnicoreParser.parseLatlon_eq_some_iff.mp hlatitude,
      UnicoreParser.parseLatlon_eq_some_iff.mp hlongitude⟩
  · intro latitude longitude name time rest hrest
    refine UnicoreParser.exists_parseGga_iff.mpr ⟨by simpa using hrest, ?_, ?_⟩
    · exact UnicoreParser.parseLatlon_eq_some_iff.mpr latitude.readsDegrees
    · exact UnicoreParser.parseLatlon_eq_some_iff.mpr longitude.readsDegrees

/-- `4807.038` north -/
def sampleLatitude : AngleText .latitude where
  degrees := #v[4, 8]
  minutes := #v[0, 7]
  decimals := [0, 3, 8]
  hemisphere := 0x4E
  hemisphere_mem := by decide

/-- `01131.000` west -/
def sampleLongitude : AngleText .longitude where
  degrees := #v[0, 1, 1]
  minutes := #v[3, 1]
  decimals := [0, 0, 0]
  hemisphere := 0x57
  hemisphere_mem := by decide

theorem gga_coordinates_sample :
    let fields := UnicoreParser.splitFields
      (ascii "GNGGA,123519,4807.038,N,01131.000,W,4,12,0.8,545.4,M,46.9,M,,")
    ∃ sentence fix, UnicoreParser.parseGga fields = value sentence ∧ sentence.fix = some fix ∧
      fix.latitudeDeg = 48 + 7.038 / 60 ∧ fix.longitudeDeg = -(11 + 31 / 60) ∧
      ReadsDegrees (ascii "4807.038") (ascii "N") fix.latitudeDeg ∧
      ReadsDegrees (ascii "01131.000") (ascii "W") fix.longitudeDeg := by
  intro fields
  have hlatitude : sampleLatitude.degreesValue = 48 + 7.038 / 60 := by decide +kernel
  have hlongitude : sampleLongitude.degreesValue = -(11 + 31 / 60) := by decide +kernel
  obtain ⟨sentence, fix, hparse, hfix, hlatitude', hlongitude'⟩ :=
    gga_coordinates.2 sampleLatitude sampleLongitude (ascii "GNGGA") (ascii "123519")
      [ascii "4", ascii "12", ascii "0.8", ascii "545.4", ascii "M", ascii "46.9", ascii "M", [],
        []] (by decide)
  have hfields : UnicoreParser.parseGga fields = value sentence := hparse
  obtain ⟨hreads, hreads'⟩ := gga_coordinates.1 fields sentence fix hfields hfix
  exact ⟨sentence, fix, hfields, hfix, hlatitude'.trans hlatitude, hlongitude'.trans hlongitude,
    hreads, hreads'⟩

/-- **A latitude in the east and a longitude of less than nothing**: 91 degrees and 99.5 minutes
east, and -182 degrees and 90 minutes north. Neither letter is one of its axis, neither angle is one
on the globe, and both have more than sixty minutes. -/
theorem gga_out_of_range :
    (UnicoreParser.parseLine ⟨fun _ => 0, fun _ => 1⟩
      (ascii "$GPGGA,1,9199.5,E,-18110,n,1,8,1,5*6A") {}).toOption.bind
        (fun parsed => parsed.1.bind ParsedSentence.fix) =
    some {
      validFix := true, latitudeDeg := 91 + 99.5 / 60, longitudeDeg := -182 + 90 / 60
      altitudeM := 5, fixQuality := 1, satellites := 8, hdop := .finite 1 } ∧
    UnicoreParser.parseDouble (ascii "9199.5") = some (100 * 91 + 99.5) ∧
    UnicoreParser.parseDouble (ascii "-18110") = some (100 * (-182) + 90) ∧
    (90 : ℚ) < |91 + 99.5 / 60| ∧ (180 : ℚ) < |-182 + 90 / 60| ∧ (60 : ℚ) ≤ 99.5 ∧
    (60 : ℚ) ≤ 90 := by
  decide +kernel

end UnicoreGnss
