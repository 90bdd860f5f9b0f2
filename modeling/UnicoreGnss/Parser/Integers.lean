import UnicoreGnss.Parser.Layout
import UnicoreGnss.Parser.Numbers

/-!
# Integer fields

`parse_int` and `parse_uint32` hand the field to `strtol` and `strtoul` and accept it if the number
ends where the C string ends. `parse_int` then casts the `long` to `int` without a look at its
range. `parse_uint32` tests the range of what `strtoul` answers, but that has already been reduced
modulo `2 ^ 64`, so that a negative number next to `-2 ^ 64` comes out small. And the C string ends
at the first NUL, which need not be the end of the field.

## Main definitions

* `IntMisread`, `Uint32Misread` — the fields that are accepted as another number than they denote
* `ParsedSentence.integers` — the integers of a sentence and the fields they come from

## Main results

* `integer_fields_exact_iff` — exactly the misread fields are neither exact nor refused
-/

namespace UnicoreGnss

open CNumber Checked

/-! ### Exact or refused -/

/-- An `int` that is read is the number the field denotes, and a number that is no `int` is not
read. -/
def IntExact (field : Bytes) : Prop :=
  (∀ v, UnicoreParser.parseInt field = some v → integerNumber 10 field = some v) ∧
    ∀ n, integerNumber 10 field = some n → ¬ (-2 ^ 31 ≤ n ∧ n < 2 ^ 31) →
      UnicoreParser.parseInt field = none

/-- The same for a `uint32_t`. -/
def Uint32Exact (base : ℕ) (field : Bytes) : Prop :=
  (∀ v, UnicoreParser.parseUint32 base field = some v →
      integerNumber base field = some (v.toNat : ℤ)) ∧
    ∀ n, integerNumber base field = some n → ¬ (0 ≤ n ∧ n < 2 ^ 32) →
      UnicoreParser.parseUint32 base field = none

/-- The field denotes a number that is no `int`, or there is a number, or nothing at all, in front
of a NUL. -/
def IntMisread (field : Bytes) : Prop :=
  (∃ n ∈ integerNumber 10 field, n < -2 ^ 31 ∨ 2 ^ 31 ≤ n) ∨
    (0 : UInt8) ∈ field ∧ (readToNul 10 field).isSome

/-- The field denotes a negative number less than `2 ^ 32` above `-2 ^ 64`, or there is a number
that `strtoul` makes small, or nothing at all, in front of a NUL. -/
def Uint32Misread (base : ℕ) (field : Bytes) : Prop :=
  (∃ n ∈ integerNumber base field, -2 ^ 64 < n ∧ n < -2 ^ 64 + 2 ^ 32) ∨
    (0 : UInt8) ∈ field ∧ ∃ n ∈ readToNul base field,
      0 ≤ n ∧ n < 2 ^ 32 ∨ -2 ^ 64 < n ∧ n < -2 ^ 64 + 2 ^ 32

instance (field : Bytes) : Decidable (IntMisread field) := inferInstanceAs (Decidable (_ ∨ _))

instance (base : ℕ) (field : Bytes) : Decidable (Uint32Misread base field) :=
  inferInstanceAs (Decidable (_ ∨ _))

theorem toInt_toLong_eq_iff {n : ℤ} :
    toInt (toLong n) = n ↔ -2 ^ 31 ≤ n ∧ n < 2 ^ 31 := by
  constructor
  · intro h
    rw [← h]
    exact toInt_range _
  · rintro ⟨hlow, hhigh⟩
    have hlong : toLong n = n := by
      rw [toLong]
      omega
    rw [hlong, toInt_of_lt hlow hhigh]

/-- In a field with a NUL there is no number. -/
theorem integerNumber_of_mem_zero {base : ℕ} {field : Bytes} (h : (0 : UInt8) ∈ field) :
    integerNumber base field = none := by
  rw [Option.eq_none_iff_forall_ne_some]
  exact fun n hn => zero_notMem_of_integerNumber hn h

/-- **What `parse_int` reads is what the field denotes**, unless the field is misread. -/
theorem parseInt_denoted_iff (field : Bytes) :
    (∀ v, UnicoreParser.parseInt field = some v → integerNumber 10 field = some v) ↔
      ¬ IntMisread field := by
  by_cases hnul : (0 : UInt8) ∈ field
  · -- Nothing is denoted, so nothing may be read.
    rw [IntMisread, integerNumber_of_mem_zero hnul, UnicoreParser.parseInt_eq]
    cases readToNul 10 field <;> simp [hnul]
  · rw [IntMisread, UnicoreParser.parseInt_eq, readToNul_of_notMem hnul]
    cases integerNumber 10 field with
    | none => simp
    | some n =>
      have hiff : n = toInt (toLong n) ↔ -2 ^ 31 ≤ n ∧ n < 2 ^ 31 := by
        rw [eq_comm, toInt_toLong_eq_iff]
      simp only [Option.map_some, Option.some.injEq, forall_eq', hiff, Option.mem_def,
        exists_eq_left', hnul, false_and, or_false]
      omega

/-- What `parse_uint32` makes of a number. -/
theorem parseUint32_of_denoted {base : ℕ} {field : Bytes} {n : ℤ}
    (h : integerNumber base field = some n) :
    UnicoreParser.parseUint32 base field =
      if toUnsignedLong n < 2 ^ 32 then some (UInt32.ofNat (toUnsignedLong n)) else none := by
  rw [UnicoreParser.parseUint32_eq, readToNul_of_notMem (zero_notMem_of_integerNumber h), h,
    Option.map_some, Option.filter_some]
  simp only [decide_eq_true_eq]
  split <;> rfl

/-- **What `parse_uint32` reads is what the field denotes**, unless the field is misread. -/
theorem parseUint32_denoted_iff (base : ℕ) (field : Bytes) :
    (∀ v, UnicoreParser.parseUint32 base field = some v →
      integerNumber base field = some (v.toNat : ℤ)) ↔ ¬ Uint32Misread base field := by
  by_cases hnul : (0 : UInt8) ∈ field
  · rw [Uint32Misread, integerNumber_of_mem_zero hnul, UnicoreParser.parseUint32_eq]
    simp only [← toUnsignedLong_lt_iff]
    cases readToNul base field <;> simp [hnul]
  · rw [Uint32Misread]
    cases hnumber : integerNumber base field with
    | none => simp [UnicoreParser.parseUint32_eq, readToNul_of_notMem hnul, hnumber, hnul]
    | some n =>
      simp only [parseUint32_of_denoted hnumber, Option.mem_def, Option.some.injEq,
        exists_eq_left', hnul, false_and, or_false]
      by_cases hlt : toUnsignedLong n < 2 ^ 32
      · have hvalue : (UInt32.ofNat (toUnsignedLong n)).toNat = toUnsignedLong n :=
          UInt32.toNat_ofNat_of_lt' hlt
        have hiff : n = toUnsignedLong n ↔ 0 ≤ n := by
          rw [toUnsignedLong_lt_iff] at hlt
          rw [toUnsignedLong]
          split <;> omega
        simp only [if_pos hlt, Option.some.injEq, forall_eq', hvalue, hiff]
        rw [toUnsignedLong_lt_iff] at hlt
        omega
      · simp only [if_neg hlt, reduceCtorEq, false_implies, implies_true, true_iff]
        rw [toUnsignedLong_lt_iff] at hlt
        omega

/-- **`int` fields** are exact or refused unless they are misread. -/
theorem intExact_iff (field : Bytes) : IntExact field ↔ ¬ IntMisread field := by
  rw [IntExact, parseInt_denoted_iff, and_iff_left_iff_imp, ← parseInt_denoted_iff]
  intro hdenoted n hn hrange
  rw [Option.eq_none_iff_forall_ne_some]
  intro v hv
  obtain rfl : n = v := Option.some.inj (hn.symm.trans (hdenoted v hv))
  rw [UnicoreParser.parseInt_eq, Option.map_eq_some_iff] at hv
  obtain ⟨m, -, hm⟩ := hv
  exact hrange (hm ▸ toInt_range _)

/-- **`uint32_t` fields** are exact or refused unless they are misread. -/
theorem uint32Exact_iff (base : ℕ) (field : Bytes) :
    Uint32Exact base field ↔ ¬ Uint32Misread base field := by
  rw [Uint32Exact, parseUint32_denoted_iff, and_iff_left_iff_imp, ← parseUint32_denoted_iff]
  intro hdenoted n hn hrange
  rw [Option.eq_none_iff_forall_ne_some]
  intro v hv
  obtain rfl : n = v.toNat := Option.some.inj (hn.symm.trans (hdenoted v hv))
  have hlt := v.toNat_lt
  omega

/-! ### The integers of a sentence -/

/-- How an integer of a sentence is read. A hexadecimal mask may be stored in an `int`. -/
inductive IntegerReader where
  | int
  | hex
  | hexAsInt
  deriving DecidableEq, Repr

namespace IntegerReader

/-- The base in which the field is written. -/
def base : IntegerReader → ℕ
  | int => 10
  | hex | hexAsInt => 16

/-- The integer that is stored, if the field is accepted. -/
def read : IntegerReader → Bytes → Option ℤ
  | int, text => UnicoreParser.parseInt text
  | hex, text => (UnicoreParser.parseUint32 16 text).map fun v => v.toNat
  | hexAsInt, text => (UnicoreParser.parseUint32 16 text).map fun v => toInt v.toNat

/-- The text is misread, or the number is too large for the `int` in which it is stored. -/
def Misread : IntegerReader → Bytes → Prop
  | int, text => IntMisread text
  | hex, text => Uint32Misread 16 text
  | hexAsInt, text => Uint32Misread 16 text ∨
      ∃ n ∈ integerNumber 16 text, 2 ^ 31 ≤ n ∧ n < 2 ^ 32

instance (reader : IntegerReader) (text : Bytes) : Decidable (reader.Misread text) :=
  match reader with
  | int => inferInstanceAs (Decidable (IntMisread text))
  | hex => inferInstanceAs (Decidable (Uint32Misread 16 text))
  | hexAsInt => inferInstanceAs (Decidable (_ ∨ _))

/-- **What is stored is what the text denotes**, unless the text is misread. -/
theorem denoted_iff (reader : IntegerReader) (text : Bytes) :
    (∀ v, reader.read text = some v → integerNumber reader.base text = some v) ↔
      ¬ reader.Misread text := by
  cases reader with
  | int => exact parseInt_denoted_iff text
  | hex =>
    rw [Misread, ← parseUint32_denoted_iff]
    simp only [read, Option.map_eq_some_iff, forall_exists_index, and_imp, forall_comm (α := ℤ),
      forall_eq', base]
  | hexAsInt =>
    rw [Misread, not_or, ← parseUint32_denoted_iff]
    simp only [read, base]
    cases hnumber : integerNumber 16 text with
    | none => simp
    | some n =>
      rw [parseUint32_of_denoted hnumber]
      have hrange := toInt_range (toUnsignedLong n)
      have hsmall := toInt_toLong_eq_iff (n := toUnsignedLong n)
      by_cases hlt : toUnsignedLong n < 2 ^ 32
      · have hvalue : (UInt32.ofNat (toUnsignedLong n)).toNat = toUnsignedLong n :=
          UInt32.toNat_ofNat_of_lt' hlt
        have hlong : toLong (toUnsignedLong n) = toUnsignedLong n := by
          rw [toLong]
          omega
        rw [hlong] at hsmall
        simp only [if_pos hlt, Option.map_some, Option.some.injEq, forall_eq', hvalue,
          Option.mem_def, exists_eq_left']
        rw [toUnsignedLong_lt_iff] at hlt
        have hunsigned : (toUnsignedLong n : ℤ) = if 0 ≤ n then n else n + 2 ^ 64 := by
          rw [toUnsignedLong]
          split <;> split <;> omega
        rw [hunsigned] at hrange hsmall ⊢
        by_cases hsign : 0 ≤ n
        · simp only [if_pos hsign] at hsmall ⊢
          rw [true_and]
          omega
        · simp only [if_neg hsign] at hrange ⊢
          omega
      · simp only [if_neg hlt, Option.map_none, reduceCtorEq, false_implies, implies_true,
          true_and, true_iff, Option.mem_def, Option.some.injEq, exists_eq_left']
        rw [toUnsignedLong_lt_iff] at hlt
        omega

end IntegerReader

/-- An integer of a sentence: the field it comes from, its value, and what the value is for an
integer in the field. -/
structure CarriedInteger where
  reader : IntegerReader
  text : Bytes
  value : ℤ
  meaning : ℤ → ℤ := id

namespace CarriedInteger

/-- If the field was accepted then it denotes an integer, and the value is the one for this
integer. -/
def Exact (c : CarriedInteger) : Prop :=
  ∀ v, c.reader.read c.text = some v →
    integerNumber c.reader.base c.text = some v ∧ c.value = c.meaning v

/-- The value is the one for the integer that was read. -/
def FromReader (c : CarriedInteger) : Prop :=
  ∀ v, c.reader.read c.text = some v → c.value = c.meaning v

theorem exact_iff {c : CarriedInteger} (h : c.FromReader) :
    c.Exact ↔ ¬ c.reader.Misread c.text := by
  rw [← c.reader.denoted_iff]
  exact forall₂_congr fun v hv => and_iff_left (h v hv)

end CarriedInteger

/-- `fields[i]`, and nothing where there is no such field. -/
def textAt (fields : List Bytes) (i : ℕ) : Bytes := fields.getD i []

/-- `field_after_semicolon(fields[i])` -/
def dataTextAt (fields : List Bytes) (i : ℕ) : Bytes := fieldAfterSemicolon (textAt fields i)

/-- A position type may be given by its number: then its quality is that of the number. -/
def positionTypeInteger (text : Bytes) (fixQuality : ℤ) : CarriedInteger where
  reader := .int
  text := text
  value := fixQuality
  meaning := fun code => UnicoreParser.positionTypeToGgaQuality (decimalInt code)

/-- The satellites of a PVTSLNA are those of the solution, unless that number is not there. -/
def FixData.integers (fix : FixData) (fields : List Bytes) : List CarriedInteger :=
  match fix.source with
  | .gga =>
    [⟨.int, textAt fields 6, fix.fixQuality, id⟩, ⟨.int, textAt fields 7, fix.satellites, id⟩]
  | .pvtslna =>
    [positionTypeInteger (dataTextAt fields 9) fix.fixQuality,
      ⟨.int, if 0 ≤ (UnicoreParser.parseInt (textAt fields 23)).getD (-1) then textAt fields 23
        else textAt fields 22, fix.satellites, id⟩]
  | .pvtslnb => []

/-- The integers of a BESTNAVA. -/
def BestNavData.integers (nav : BestNavData) (fields : List Bytes) : List CarriedInteger :=
  [positionTypeInteger (textAt fields 10) nav.fixQuality,
    ⟨.int, textAt fields 22, nav.satellitesTracked, id⟩,
    ⟨.int, textAt fields 23, nav.satellitesUsed, id⟩,
    ⟨.hexAsInt, textAt fields 27, nav.extendedSolutionStatus, id⟩,
    ⟨.hexAsInt, textAt fields 28, nav.galileoBds3SignalMask, id⟩,
    ⟨.hexAsInt, textAt fields 29, nav.gpsGlonassBds2SignalMask, id⟩]

/-- The integers of an RTKSTATUSA. -/
def RtkStatusData.integers (status : RtkStatusData) (fields : List Bytes) : List CarriedInteger :=
  [⟨.hex, dataTextAt fields 9, status.gpsSourceMask.toNat, id⟩,
    ⟨.hex, textAt fields 11, status.bdsSourceMask1.toNat, id⟩,
    ⟨.hex, textAt fields 12, status.bdsSourceMask2.toNat, id⟩,
    ⟨.hex, textAt fields 14, status.glonassSourceMask.toNat, id⟩,
    ⟨.hex, textAt fields 16, status.galileoSourceMask1.toNat, id⟩,
    ⟨.hex, textAt fields 17, status.galileoSourceMask2.toNat, id⟩,
    ⟨.hex, textAt fields 18, status.qzssSourceMask.toNat, id⟩,
    positionTypeInteger (textAt fields 20) status.fixQuality,
    ⟨.int, textAt fields 21, status.calculateStatus, id⟩,
    ⟨.int, textAt fields 22, status.ionDetected, id⟩,
    ⟨.int, textAt fields 23, status.dualRtkFlag, id⟩,
    ⟨.int, textAt fields 24, status.adrObservationCount, id⟩]

/-- The integers of an RTCMSTATUSA. -/
def RtcmStatusData.integers (status : RtcmStatusData) (fields : List Bytes) :
    List CarriedInteger :=
  [⟨.int, dataTextAt fields 9, status.messageId, id⟩,
    ⟨.int, textAt fields 10, status.messageCount, id⟩,
    ⟨.int, textAt fields 11, status.baseStationId, id⟩,
    ⟨.int, textAt fields 12, status.satelliteCount, id⟩] ++
  status.observableCount.mapIdx fun i count => ⟨.int, textAt fields (13 + i), count, id⟩

/-- The integers of an AGCA. -/
def AgcData.integers (agc : AgcData) (fields : List Bytes) : List CarriedInteger :=
  [⟨.int, dataTextAt fields 9, agc.antenna1[0], id⟩, ⟨.int, textAt fields 10, agc.antenna1[1], id⟩,
    ⟨.int, textAt fields 11, agc.antenna1[2], id⟩, ⟨.int, textAt fields 14, agc.antenna2[0], id⟩,
    ⟨.int, textAt fields 15, agc.antenna2[1], id⟩, ⟨.int, textAt fields 16, agc.antenna2[2], id⟩]

/-- The integers of an HWSTATUSA. -/
def HwStatusData.integers (status : HwStatusData) (fields : List Bytes) : List CarriedInteger :=
  [⟨.int, textAt fields 13, status.clockFlag, id⟩, ⟨.hexAsInt, textAt fields 16, status.hwFlag, id⟩,
    ⟨.hexAsInt, textAt fields 18, status.pllLock, id⟩]

/-- The integers of a JAMSTATUSA. -/
def JamStatusData.integers (status : JamStatusData) (fields : List Bytes) : List CarriedInteger :=
  [⟨.int, textAt fields 10, status.cwRatio, id⟩, ⟨.int, textAt fields 11, status.cwFlag, id⟩]

/-- The integers of a FREQJAMSTATUSA. -/
def FreqJamStatusData.integers (status : FreqJamStatusData) (fields : List Bytes) :
    List CarriedInteger :=
  [⟨.int, textAt fields 10, status.cwRatio[0], id⟩, ⟨.int, textAt fields 11, status.cwFlag[0], id⟩,
    ⟨.int, textAt fields 12, status.cwRatio[1], id⟩, ⟨.int, textAt fields 13, status.cwFlag[1], id⟩,
    ⟨.int, textAt fields 14, status.cwRatio[2], id⟩, ⟨.int, textAt fields 15, status.cwFlag[2], id⟩]

/-- The integers in the header of a SATSINFOA. -/
def SatsInfoData.integers (info : SatsInfoData) (fields : List Bytes) : List CarriedInteger :=
  [⟨.int, dataTextAt fields 9, info.satelliteCount, id⟩, ⟨.int, textAt fields 10, info.version, id⟩,
    ⟨.int, textAt fields 14, info.frequencyFlag, id⟩]

/-- The integers of a text sentence, but for those in the entries of its lists. -/
def ParsedSentence.integers (sentence : ParsedSentence) (fields : List Bytes) :
    List CarriedInteger :=
  sentence.fix.elim [] (·.integers fields) ++
    sentence.bestnav.elim [] (·.integers fields) ++
    sentence.rtkStatus.elim [] (·.integers fields) ++
    sentence.rtcmStatus.elim [] (·.integers fields) ++
    sentence.bestsat.elim [] (fun list => [⟨.int, dataTextAt fields 9, list.entryCount, id⟩]) ++
    sentence.satsinfo.elim [] (·.integers fields) ++
    sentence.agc.elim [] (·.integers fields) ++
    sentence.hwStatus.elim [] (·.integers fields) ++
    sentence.jamStatus.elim [] (·.integers fields) ++
    sentence.freqJamStatus.elim [] (·.integers fields) ++
    sentence.gsv.elim [] (fun view => [⟨.int, textAt fields 3, view.satellitesInView, id⟩])

/-! ### The values of a sentence are those that were read -/

namespace UnicoreParser

open CarriedInteger

variable {fields : List Bytes} {i : ℕ}

theorem textAt_of_get {text : Bytes} (h : get fields i = value text) : textAt fields i = text := by
  rw [textAt, List.getD_eq_getElem?_getD, getElem?_of_get h, Option.getD_some]

theorem fromReader_of_read {reader : IntegerReader} {text : Bytes} {v : ℤ}
    (h : reader.read text = some v) : FromReader ⟨reader, text, v, id⟩ := by
  intro w hw
  exact Option.some.inj (h.symm.trans hw)

/-- An optional integer has its default only where nothing was read. -/
theorem fromReader_getD (text : Bytes) (default : ℤ) :
    FromReader ⟨.int, text, (parseInt text).getD default, id⟩ := by
  intro v hv
  change parseInt text = some v at hv
  rw [hv]
  rfl

theorem fromReader_intAt {v : ℤ} (h : intAt fields i = value v) :
    FromReader ⟨.int, textAt fields i, v, id⟩ := by
  obtain ⟨text, htext, hread⟩ := bind_eq_value.mp h
  rw [textAt_of_get htext]
  exact fromReader_of_read (ofOption_eq_value.mp hread)

theorem fromReader_dataIntAt {v : ℤ} (h : dataIntAt fields i = value v) :
    FromReader ⟨.int, dataTextAt fields i, v, id⟩ := by
  obtain ⟨text, htext, hread⟩ := bind_eq_value.mp h
  rw [dataTextAt, textAt_of_get htext]
  exact fromReader_of_read (ofOption_eq_value.mp hread)

theorem fromReader_hex {text : Bytes} {v : UInt32}
    (h : parseUint32 16 text = some v) :
    FromReader ⟨.hex, text, v.toNat, id⟩ ∧ FromReader ⟨.hexAsInt, text, toInt v.toNat, id⟩ := by
  constructor
  · exact fromReader_of_read (by rw [IntegerReader.read, h, Option.map_some])
  · exact fromReader_of_read (by rw [IntegerReader.read, h, Option.map_some])

theorem fromReader_hexGetD (text : Bytes) :
    FromReader ⟨.hexAsInt, text, toInt ((parseUint32 16 text).getD 0).toNat, id⟩ := by
  intro v hv
  obtain ⟨word, hword, hv⟩ := Option.map_eq_some_iff.mp hv
  simp only [hword, Option.getD_some, id, hv]

theorem fromReader_hexAt {v : UInt32} (h : hexAt fields i = value v) :
    FromReader ⟨.hex, textAt fields i, v.toNat, id⟩ ∧
      FromReader ⟨.hexAsInt, textAt fields i, toInt v.toNat, id⟩ := by
  obtain ⟨text, htext, hread⟩ := bind_eq_value.mp h
  rw [textAt_of_get htext]
  exact fromReader_hex (ofOption_eq_value.mp hread)

/-- A number in place of a position type has the quality of this number, however it is written. -/
theorem exists_quality_of_code (code : ℤ) :
    ∃ quality, ∀ text, parseInt text = some code → positionTypeToGgaQuality text = quality := by
  apply Exists.intro
  intro text h
  have hname : ∀ name, parseInt name = none → text ≠ name := by
    rintro name hnone rfl
    rw [h] at hnone
    cases hnone
  have hnames : ∀ names : List Bytes, (∀ name ∈ names, parseInt name = none) → text ∉ names :=
    fun names hall hmem => hname text (hall text hmem) rfl
  -- The text is none of the names.
  rw [positionTypeToGgaQuality, if_neg (hname _ (by decide)), if_neg (hnames _ (by decide)),
    if_neg (hname _ (by decide)), if_neg (hnames _ (by decide)), if_neg (hnames _ (by decide)),
    if_neg (hnames _ (by decide)), if_neg (hnames _ (by decide)), if_neg (hname _ (by decide)),
    if_neg (hname _ (by decide)), if_neg (hname _ (by decide)), if_neg (hname _ (by decide)),
    if_neg (hname _ (by decide)), if_neg (hnames _ (by decide)), h]

theorem fromReader_positionType (text : Bytes) :
    (positionTypeInteger text (positionTypeToGgaQuality text)).FromReader := by
  intro code hcode
  change parseInt text = some code at hcode
  have hrange : -2 ^ 31 ≤ code ∧ code < 2 ^ 31 := by
    rw [parseInt_eq, Option.map_eq_some_iff] at hcode
    obtain ⟨n, -, rfl⟩ := hcode
    exact toInt_range _
  obtain ⟨quality, hquality⟩ := exists_quality_of_code code
  exact (hquality text hcode).trans
    (hquality _ (parseInt_decimalInt hrange.1 hrange.2)).symm

variable (math : MathFunctions) (fields : List Bytes)

/-- All integers of a sentence are those that were read in the fields. -/
def IntegersFromReader (sentence : ParsedSentence) : Prop :=
  ∀ c ∈ sentence.integers fields, c.FromReader

theorem fieldIfAny_eq_value {α : Type} {i : ℕ} {parse : Bytes → α} {absent a : α}
    (h : fieldIfAny fields i parse absent = value a) (habsent : parse [] = absent) :
    parse (textAt fields i) = a := by
  rw [fieldIfAny] at h
  split at h
  · obtain ⟨text, htext, hparse⟩ := bind_eq_value.mp h
    rw [textAt_of_get htext]
    exact value.inj hparse
  · rename_i hlen
    rw [textAt, List.getD_eq_default _ _ (Nat.not_lt.mp hlen), habsent]
    exact value.inj h

/-- It is enough to look at the integers one by one. -/
theorem ensures_integers {sentence : ParsedSentence}
    (h : (sentence.integers fields).Forall FromReader) :
    Ensures (IntegersFromReader fields) (pure sentence) :=
  List.forall_iff_forall_mem.mp h

theorem parseGga_integers : Ensures (IntegersFromReader fields) (parseGga fields) := by
  rw [parseGga]
  repeat refine Ensures.bind_of_value fun _ _ => ?_
  have hquality := textAt_of_get ‹Checked.get fields 6 = _›
  have hsatellites := fieldIfAny_eq_value fields ‹fieldIfAny fields 7 parseInt none = _› rfl
  rw [← hquality, ← hsatellites]
  exact ensures_integers fields ⟨fromReader_getD _ 0, fromReader_getD _ (-1)⟩

theorem parsePvtslna_integers : Ensures (IntegersFromReader fields) (parsePvtslna fields) := by
  rw [parsePvtslna]
  repeat refine Ensures.bind_of_value fun _ _ => ?_
  have hposition := textAt_of_get ‹Checked.get fields 9 = _›
  have htracked := fieldIfAny_eq_value fields
    ‹fieldIfAny fields 22 (fun field => (parseInt field).getD (-1)) (-1) = _› rfl
  have hsolution := fieldIfAny_eq_value fields
    ‹fieldIfAny fields 23 (fun field => (parseInt field).getD (-1)) (-1) = _› rfl
  rw [← hposition, ← htracked, ← hsolution]
  refine ensures_integers fields ⟨fromReader_positionType _, ?_⟩
  simp only [ge_iff_le]
  split
  · exact fromReader_getD _ (-1)
  · exact fromReader_getD _ (-1)

theorem parseBestnava_integers :
    Ensures (IntegersFromReader fields) (parseBestnava math fields) := by
  rw [parseBestnava]
  split
  · repeat refine Ensures.bind_of_value fun _ _ => ?_
    exact ensures_integers fields trivial
  · repeat refine Ensures.bind_of_value fun _ _ => ?_
    have hposition := textAt_of_get ‹Checked.get fields 10 = _›
    have hgalileo := textAt_of_get ‹Checked.get fields 28 = _›
    have hgps := textAt_of_get ‹Checked.get fields 29 = _›
    rw [← hposition, ← hgalileo, ← hgps]
    apply ensures_integers
    simp only [ParsedSentence.integers, BestNavData.integers, Option.elim_none, Option.elim_some,
      List.nil_append, List.append_nil, List.forall_cons]
    exact ⟨fromReader_positionType _, fromReader_intAt ‹_›, fromReader_intAt ‹_›,
      (fromReader_hexAt ‹_›).2, fromReader_hexGetD _, fromReader_hexGetD _, trivial⟩

theorem parseRtkstatusa_integers :
    Ensures (IntegersFromReader fields) (parseRtkstatusa fields) := by
  rw [parseRtkstatusa]
  repeat refine Ensures.bind_of_value fun _ _ => ?_
  have hgps := textAt_of_get ‹Checked.get fields 9 = _›
  have hgpsMask := ofOption_eq_value.mp ‹ofOption (parseUint32 16 (fieldAfterSemicolon _)) = _›
  have hposition := textAt_of_get ‹Checked.get fields 20 = _›
  rw [← hgps] at hgpsMask
  rw [← hposition]
  exact ensures_integers fields ⟨(fromReader_hex hgpsMask).1, (fromReader_hexAt ‹_›).1,
    (fromReader_hexAt ‹_›).1, (fromReader_hexAt ‹_›).1, (fromReader_hexAt ‹_›).1,
    (fromReader_hexAt ‹_›).1, (fromReader_hexAt ‹_›).1, fromReader_positionType _,
    fromReader_intAt ‹_›, fromReader_intAt ‹_›, fromReader_intAt ‹_›, fromReader_intAt ‹_›⟩

theorem parseRtcmstatusa_integers :
    Ensures (IntegersFromReader fields) (parseRtcmstatusa fields) := by
  rw [parseRtcmstatusa]
  repeat refine Ensures.bind_of_value fun _ _ => ?_
  obtain ⟨-, hcounts⟩ := getElem?_of_forRange ‹forRange _ 6 = _›
  apply ensures_integers
  simp only [ParsedSentence.integers, RtcmStatusData.integers, Option.elim_none, Option.elim_some,
    List.nil_append, List.append_nil, List.cons_append, List.forall_cons]
  refine ⟨fromReader_dataIntAt ‹_›, fromReader_intAt ‹_›, fromReader_intAt ‹_›,
    fromReader_intAt ‹_›, List.forall_iff_forall_mem.mpr fun c hc => ?_⟩
  obtain ⟨i, hi, rfl⟩ := List.mem_mapIdx.mp hc
  exact fromReader_intAt (hcounts i _ (List.getElem?_eq_getElem hi))

theorem parseBestsata_integers : Ensures (IntegersFromReader fields) (parseBestsata fields) := by
  rw [parseBestsata]
  repeat refine Ensures.bind_of_value fun _ _ => ?_
  exact ensures_integers fields (fromReader_dataIntAt ‹_›)

theorem parseAgca_integers : Ensures (IntegersFromReader fields) (parseAgca fields) := by
  rw [parseAgca]
  repeat refine Ensures.bind_of_value fun _ _ => ?_
  exact ensures_integers fields ⟨fromReader_dataIntAt ‹_›, fromReader_intAt ‹_›,
    fromReader_intAt ‹_›, fromReader_intAt ‹_›, fromReader_intAt ‹_›, fromReader_intAt ‹_›⟩

theorem parseHwstatusa_integers : Ensures (IntegersFromReader fields) (parseHwstatusa fields) := by
  rw [parseHwstatusa]
  repeat refine Ensures.bind_of_value fun _ _ => ?_
  apply ensures_integers
  simp only [ParsedSentence.integers, HwStatusData.integers, Option.elim_none, Option.elim_some,
    List.nil_append, List.append_nil, List.forall_cons]
  exact ⟨fromReader_intAt ‹_›, (fromReader_hexAt ‹_›).2, (fromReader_hexAt ‹_›).2, trivial⟩

theorem parseJamstatusa_integers :
    Ensures (IntegersFromReader fields) (parseJamstatusa fields) := by
  rw [parseJamstatusa]
  repeat refine Ensures.bind_of_value fun _ _ => ?_
  exact ensures_integers fields ⟨fromReader_intAt ‹_›, fromReader_intAt ‹_›⟩

theorem parseFreqjamstatusa_integers :
    Ensures (IntegersFromReader fields) (parseFreqjamstatusa fields) := by
  rw [parseFreqjamstatusa]
  repeat refine Ensures.bind_of_value fun _ _ => ?_
  exact ensures_integers fields ⟨fromReader_intAt ‹_›, fromReader_intAt ‹_›, fromReader_intAt ‹_›,
    fromReader_intAt ‹_›, fromReader_intAt ‹_›, fromReader_intAt ‹_›⟩

theorem parseGsv_integers (talker : Bytes) :
    Ensures (IntegersFromReader fields) (parseGsv talker fields) := by
  rw [parseGsv]
  repeat refine Ensures.bind_of_value fun _ _ => ?_
  exact ensures_integers fields (fromReader_intAt ‹_›)

theorem parseSatsinfoa_integers : Ensures (IntegersFromReader fields) (parseSatsinfoa fields) := by
  rw [parseSatsinfoa]
  repeat refine Ensures.bind_of_value fun _ _ => ?_
  exact ensures_integers fields ⟨fromReader_dataIntAt ‹_›, fromReader_intAt ‹_›,
    fromReader_intAt ‹_›⟩

variable {first : Bytes} {parsed : Checked ParsedSentence}

/-- **The integers of `$` sentences.** -/
theorem nmeaParser_integers (h : nmeaParser first fields = some parsed) :
    Ensures (IntegersFromReader fields) parsed := by
  cases nmeaSentence_of_nmeaParser h with
  | gga => exact parseGga_integers fields
  | gsv talker => exact parseGsv_integers fields talker
  | hdt | hpr =>
    simp only [parseHdt, parseHpr]
    repeat refine Ensures.bind fun _ => ?_
    exact ensures_integers fields trivial

/-- **The integers of `#` logs.** -/
theorem unicoreParser_integers (h : unicoreParser math first fields = some parsed) :
    Ensures (IntegersFromReader fields) parsed := by
  cases unicoreLog_of_unicoreParser h with
  | pvtslna => exact parsePvtslna_integers fields
  | bestnava => exact parseBestnava_integers math fields
  | rtkstatusa => exact parseRtkstatusa_integers fields
  | rtcmstatusa => exact parseRtcmstatusa_integers fields
  | bestsata => exact parseBestsata_integers fields
  | satsinfoa => exact parseSatsinfoa_integers fields
  | agca => exact parseAgca_integers fields
  | hwstatusa => exact parseHwstatusa_integers fields
  | jamstatusa => exact parseJamstatusa_integers fields
  | freqjamstatusa => exact parseFreqjamstatusa_integers fields

/-! ### Lines -/

/-- A sentence that was counted is what the chosen parser made of the fields. -/
theorem eq_value_of_countParsed {parsed : Option (Checked ParsedSentence)}
    {counters counters' : ParserCounters} {sentence : ParsedSentence}
    (h : countParsed parsed counters = Checked.value (some sentence, counters')) :
    parsed = some (Checked.value sentence) := by
  rcases parsed with _ | ⟨sentence' | _ | _⟩
  · cases h
  · cases h
    rfl
  · cases h
  · cases h

/-- **A sentence of a line** was made from the fields of the line. -/
theorem exists_parser_of_parseLine {line : Bytes} {counters counters' : ParserCounters}
    {sentence : ParsedSentence}
    (h : parseLine math line counters = Checked.value (some sentence, counters')) :
    ∃ fields first, lineFields (trim line) = Checked.value fields ∧ fields.head? = some first ∧
      (nmeaParser first fields = some (Checked.value sentence) ∨
        unicoreParser math first fields = some (Checked.value sentence)) := by
  rw [parseLine] at h
  split at h
  · obtain ⟨valid, -, h⟩ := bind_eq_value.mp h
    cases valid with
    | false => cases h
    | true =>
      obtain ⟨fields, hfields, h⟩ := bind_eq_value.mp h
      obtain ⟨first, hfirst, hparser⟩ :=
        Option.bind_eq_some_iff.mp (eq_value_of_countParsed h)
      exact ⟨fields, first, hfields, hfirst, .inl hparser⟩
  · split at h
    · obtain ⟨valid, -, h⟩ := bind_eq_value.mp h
      cases valid with
      | false => cases h
      | true =>
        obtain ⟨fields, hfields, h⟩ := bind_eq_value.mp h
        obtain ⟨first, hfirst, hparser⟩ :=
          Option.bind_eq_some_iff.mp (eq_value_of_countParsed h)
        exact ⟨fields, first, hfields, hfirst, .inr hparser⟩
    · cases h

end UnicoreParser

/-- **Integer fields are exact or refused** unless they are misread: an `int` that is too large is
wrapped, `strtoul` makes a few negative numbers small, and a NUL ends the number before the field
ends. An accepted sentence carries exactly the integers that its fields denote, unless one of these
fields is misread. -/
theorem integer_fields_exact_iff (math : MathFunctions) :
    (∀ field, IntExact field ↔ ¬ IntMisread field) ∧
    (∀ base field, Uint32Exact base field ↔ ¬ Uint32Misread base field) ∧
    ∀ line counters sentence counters' fields,
      UnicoreParser.parseLine math line counters = value (some sentence, counters') →
      UnicoreParser.lineFields (UnicoreParser.trim line) = value fields →
      ((∀ c ∈ sentence.integers fields, c.Exact) ↔
        ∀ c ∈ sentence.integers fields, ¬ c.reader.Misread c.text) := by
  refine ⟨intExact_iff, uint32Exact_iff, ?_⟩
  intro line counters sentence counters' fields hparsed hfields
  obtain ⟨fields', first, hfields', -, hparser⟩ :=
    UnicoreParser.exists_parser_of_parseLine math hparsed
  obtain rfl : fields = fields' := value.inj (hfields.symm.trans hfields')
  have hreader : UnicoreParser.IntegersFromReader fields sentence := by
    rcases hparser with hparser | hparser
    · exact UnicoreParser.nmeaParser_integers fields hparser
    · exact UnicoreParser.unicoreParser_integers math fields hparser
  exact forall₂_congr fun c hc => CarriedInteger.exact_iff (hreader c hc)

/-- A GGA sentence. -/
def plainGga : Bytes := ascii "$GPGGA,1,1,N,1,E,1,8,1,5*4D"

/-- Its integers are exact. -/
theorem integer_fields_exact_plain :
    let fields := UnicoreParser.splitFields (ascii "GPGGA,1,1,N,1,E,1,8,1,5")
    let sentence : ParsedSentence := {
      sentenceType := ascii "GGA"
      fix := some {
        validFix := true, latitudeDeg := 1 / 60, longitudeDeg := 1 / 60, altitudeM := 5,
        fixQuality := 1, satellites := 8, hdop := .finite 1 } }
    UnicoreParser.parseLine ⟨fun _ => 0, fun _ => 1⟩ plainGga {} =
        value (some sentence, { parsedSentences := 1 }) ∧
      ∀ c ∈ sentence.integers fields, c.Exact := by
  intro fields sentence
  have hparsed : UnicoreParser.parseLine ⟨fun _ => 0, fun _ => 1⟩ plainGga {} =
      value (some sentence, { parsedSentences := 1 }) := by decide +kernel
  exact ⟨hparsed, ((integer_fields_exact_iff _).2.2 plainGga {} sentence _ fields hparsed
    (by decide +kernel)).mpr (by decide +kernel)⟩

/-- **Too large for an `int`**: the quality 4294967297 of a GGA sentence becomes 1. And
`parse_uint32` takes `-FFFFFFFFFFFFFFFF` for 1. -/
theorem wide_quality_wrapped :
    ¬ IntExact (ascii "4294967297") ∧ ¬ Uint32Exact 16 (ascii "-FFFFFFFFFFFFFFFF") ∧
    integerNumber 10 (ascii "4294967297") = some 4294967297 ∧
    (((UnicoreParser.parseLine ⟨fun _ => 0, fun _ => 1⟩
      (ascii "$GPGGA,1,1,N,1,E,4294967297,1,1,1*7E") {}).toOption.bind Prod.fst).bind
        ParsedSentence.fix).map FixData.fixQuality = some 1 := by
  rw [intExact_iff, uint32Exact_iff, not_not, not_not]
  decide +kernel

end UnicoreGnss
