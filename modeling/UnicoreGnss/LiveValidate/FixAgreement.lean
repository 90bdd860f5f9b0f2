import UnicoreGnss.LiveValidate.Checksum
import UnicoreGnss.LiveValidate.Fixes
import UnicoreGnss.Node

/-!
# Fixes of the driver and of the validator

A GGA sentence or a PVTSLNA log that passes the checksum of both programs reaches both parsers with
the same fields. They do not keep the same lines: the validator stores a GGA sentence whose
coordinates it cannot read, with `nan` for them, and it stores a PVTSLNA log only with forty fields,
where sixteen are enough for the driver. Of a line that both keep, they report the same quality and
position, and but for two defaults the same altitude and the same satellites:

* without an altitude a GGA sentence has the altitude zero for the driver and the geoid separation
  for the validator;
* `or -1` turns zero satellites into the mark for an unknown number.

## Main definitions

* `GgaAgrees`, `PvtslnaAgrees` — what agrees

## Main results

* `fixes_agree` — it agrees of every line without a field that is a number to only one language
-/

namespace UnicoreGnss.LiveValidate

open CNumber Checked

/-! ### Fields of a line -/

/-- The fields between the first character and the first `*`. -/
def fieldsOf (line : Bytes) : List Bytes := (bodyOf line).splitOn comma

theorem splitOn_decodeAscii (text : Bytes) :
    (decodeAscii text).splitOn comma = (text.splitOn comma).map decodeAscii := by
  induction text with
  | nil => rfl
  | cons byte text ih =>
    have hcomma : ((if byte < 0x80 then byte else replacement) == comma) = (byte == comma) := by
      rw [Bool.eq_iff_iff, beq_iff_eq, beq_iff_eq]
      exact decode_eq_iff (by decide) byte
    rw [List.splitOn, List.splitOn] at ih ⊢
    rw [decodeAscii_cons, List.splitOnP_cons_eq_if_modifyHead,
      List.splitOnP_cons_eq_if_modifyHead, hcomma, ih]
    split
    · rfl
    · cases hsplit : text.splitOnP (· == comma) with
      | nil => rfl
      | cons field fields => rfl

/-- A field is part of the text. -/
theorem subset_of_mem_splitOn {text field : Bytes} (h : field ∈ text.splitOn comma) :
    field ⊆ text := by
  induction text generalizing field with
  | nil =>
    rw [List.splitOn_nil, List.mem_singleton] at h
    rw [h]
    exact List.nil_subset _
  | cons byte text ih =>
    rw [List.splitOn] at h ih
    rw [List.splitOnP_cons_eq_if_modifyHead] at h
    split at h
    · rcases List.mem_cons.mp h with rfl | h
      · exact List.nil_subset _
      · exact List.Subset.trans (ih h) (List.subset_cons_self byte text)
    · obtain ⟨first, rest, hsplit⟩ : ∃ first rest, text.splitOnP (· == comma) = first :: rest :=
        List.exists_cons_of_ne_nil (List.splitOnP_ne_nil _ _)
      rw [hsplit] at h ih
      rcases List.mem_cons.mp h with rfl | h
      · exact List.cons_subset_cons byte (ih List.mem_cons_self)
      · exact List.Subset.trans (ih (List.mem_cons_of_mem first h))
          (List.subset_cons_self byte text)

/-- The validator's fields are the decoded ones. -/
theorem lineFields_decodeAscii {line : Bytes} {i : ℕ} (hstar : line.idxOf? star = some i) :
    lineFields (decodeAscii line) = (fieldsOf line).map decodeAscii := by
  have hidx : (decodeAscii line).idxOf star = i := by
    have h := (idxOf?_decodeAscii (by decide : star < 0x80) line).trans hstar
    exact (idxOf?_eq_some_iff_idxOf.mp h).2
  rw [lineFields, hidx, ← decodeAscii_slice, splitOn_decodeAscii, fieldsOf, bodyOf, hstar]
  rfl

/-- The driver's fields. -/
theorem lineFields_trim {line : Bytes} {i : ℕ} (hstar : line.idxOf? star = some i) :
    UnicoreParser.lineFields line = value (fieldsOf line) := by
  have hlt := lt_length_of_star hstar
  have hidx : line.idxOf star = i := (idxOf?_eq_some_iff_idxOf.mp hstar).2
  rw [UnicoreParser.lineFields, substr, if_pos (by omega), value_bind, hidx, ← bodyOf_eq hstar]
  rfl

/-! ### Sentences -/

/-- The driver's fix of a line. -/
def driverFix (math : MathFunctions) (line : Bytes) : Option FixData :=
  (parsedLine math line).bind ParsedSentence.fix

/-- The fix and the snapshot have the same values. -/
def SameFix (fix : FixData) (snapshot : FixSnapshot) : Prop :=
  snapshot.fixQuality = fix.fixQuality ∧ snapshot.latitudeDeg = some fix.latitudeDeg ∧
    snapshot.longitudeDeg = some fix.longitudeDeg ∧ snapshot.altitudeM = fix.altitudeM ∧
      snapshot.satellites = fix.satellites

/-- A line that both count as a valid GGA sentence. -/
structure IsGga (line : Bytes) : Prop where
  start : line.head? = some dollar
  notGarbage : looksBinaryGarbage line = false
  validator : validateNmea (decodeAscii line) = true
  driver : UnicoreParser.validateNmeaChecksum (UnicoreParser.trim line) = value true
  suffix : UnicoreGnss.sentenceSuffix ((fieldsOf line).headD []) = ascii "GGA"

/-- A line that both count as a valid PVTSLNA log. -/
structure IsPvtslna (line : Bytes) : Prop where
  start : line.head? = some hash
  notGarbage : looksBinaryGarbage line = false
  validator : validateUnicoreAscii (decodeAscii line) = true
  driver : UnicoreParser.validateUnicoreCrc (UnicoreParser.trim line) = value true
  type : (fieldsOf line).headD [] = ascii "PVTSLNA"

/-- The fields that are read as numbers are plain. -/
structure PlainGga (fields : List Bytes) : Prop where
  numbers : ∀ i ∈ [2, 4, 9, 11], ∀ field ∈ fields[i]?, PlainNumber field
  integers : ∀ i ∈ [6, 7], ∀ field ∈ fields[i]?, PlainInt field

/-- The fields that are read as numbers and the position type are plain. -/
structure PlainPvtslna (fields : List Bytes) : Prop where
  numbers : ∀ i ∈ [10, 11, 12, 13, 14, 15, 21], ∀ field ∈ fields[i]?, PlainNumber field
  integers : ∀ i ∈ [22, 23], ∀ field ∈ fields[i]?, PlainInt field
  positionType : ∀ field ∈ fields[9]?, PlainPositionType (UnicoreGnss.fieldAfterSemicolon field)

instance (fields : List Bytes) : Decidable (PlainGga fields) :=
  decidable_of_iff (_ ∧ _) ⟨fun h => ⟨h.1, h.2⟩, fun h => ⟨h.numbers, h.integers⟩⟩

instance (fields : List Bytes) : Decidable (PlainPvtslna fields) :=
  decidable_of_iff (_ ∧ _ ∧ _)
    ⟨fun h => ⟨h.1, h.2.1, h.2.2⟩, fun h => ⟨h.numbers, h.integers, h.positionType⟩⟩

theorem orDefault_zero {α : Type} [Zero α] [DecidableEq α] (number : Option α) :
    orDefault number 0 = number.getD 0 := by
  cases number with
  | none => rfl
  | some a =>
    rw [orDefault, Option.getD_some]
    split
    · rename_i h
      exact h.symm
    · rfl

/-- What the driver reads as an `int` is no number that `float` cannot hold. -/
theorem natAbs_of_parseInt {field : Bytes} {n : ℤ} (h : UnicoreParser.parseInt field = some n) :
    n.natAbs < 2 ^ 64 := by
  rw [UnicoreParser.parseInt] at h
  split_ifs at h
  obtain rfl := Option.some.inj h
  have := toInt_range (CNumber.strtol 10 (cStr field)).1
  omega

theorem natAbs_orDefault {number : Option ℤ} {default : ℤ} (hdefault : default.natAbs < 2 ^ 64)
    (h : ∀ n, number = some n → n.natAbs < 2 ^ 64) :
    (orDefault number default).natAbs < 2 ^ 64 := by
  cases number with
  | none => exact hdefault
  | some n =>
    rw [orDefault]
    split_ifs
    · exact hdefault
    · exact h n rfl

/-- Fields there are are read. -/
theorem exists_field {fields : List Bytes} {n : ℕ} (h : n ≤ fields.length) (i : ℕ)
    (hi : i < n := by omega) :
    ∃ field, fields[i]? = some field ∧ get fields i = value field ∧
      get (fields.map decodeAscii) i = value (decodeAscii field) := by
  have hlt : i < fields.length := by omega
  refine ⟨fields[i], List.getElem?_eq_getElem hlt, get_of_getElem? (List.getElem?_eq_getElem hlt),
    get_of_getElem? ?_⟩
  rw [List.getElem?_map, List.getElem?_eq_getElem hlt, Option.map_some]

/-- What the driver reads in a field, if it is there. -/
def numberAt (fields : List Bytes) (i : ℕ) : Option ℚ := fields[i]?.bind UnicoreParser.parseDouble

/-- A count as the driver reads it, if there is a field at the position. -/
def countAt (fields : List Bytes) (i : ℕ) : Option ℤ := fields[i]?.bind UnicoreParser.parseInt

/-- An optional number of the validator. -/
theorem bind_parseFloat {fields : List Bytes} (hzero : ∀ field ∈ fields, (0 : UInt8) ∉ field)
    {i : ℕ} (h : ∀ field ∈ fields[i]?, PlainNumber field) :
    (fields.map decodeAscii)[i]?.bind parseFloat = numberAt fields i := by
  rw [List.getElem?_map, numberAt]
  cases hfield : fields[i]? with
  | none => rfl
  | some field => exact parseFloat_eq (hzero field (List.mem_of_getElem? hfield)) (h field hfield)

/-- **The line reaches both parsers** with the same fields. -/
theorem fields_of_accepts {kind : ChecksumKind} {line : Bytes}
    (hhead : line.head? = some kind.first)
    (hdriver : DriverAccepts (validatorKind kind) (UnicoreParser.trim line)) :
    UnicoreParser.lineFields (UnicoreParser.trim line) = value (fieldsOf line) ∧
      lineFields (decodeAscii line) = (fieldsOf line).map decodeAscii := by
  obtain ⟨⟨tail, htail⟩, -⟩ := trim_prefix hhead ChecksumKind.isSpace_first
  cases hfield : checkField (validatorKind kind) (UnicoreParser.trim line) with
  | none => exact absurd hdriver (not_driverAccepts hfield)
  | some field =>
    obtain ⟨hfield', hbody⟩ := checkField_append hfield tail
    rw [htail] at hfield' hbody
    refine ⟨?_, lineFields_decodeAscii (idxOf?_of_mem (of_checkField hfield').1)⟩
    rw [lineFields_trim (idxOf?_of_mem (of_checkField hfield).1), fieldsOf, fieldsOf, hbody]

theorem notMem_zero_fieldsOf {line : Bytes} (h : looksBinaryGarbage line = false) :
    ∀ field ∈ fieldsOf line, (0 : UInt8) ∉ field := fun _ hfield hmem =>
  notMem_zero h (List.mem_of_mem_drop (List.mem_of_mem_take (subset_of_mem_splitOn hfield hmem)))

/-- There is a first field. -/
theorem head?_fieldsOf (line : Bytes) :
    (fieldsOf line).head? = some ((fieldsOf line).headD []) := by
  obtain ⟨first, rest, hfields⟩ : ∃ first rest, fieldsOf line = first :: rest :=
    List.exists_cons_of_ne_nil (List.splitOnP_ne_nil _ _)
  rw [hfields, List.head?_cons, List.headD_cons]

theorem headD_map_decodeAscii (fields : List Bytes) :
    (fields.map decodeAscii).headD [] = decodeAscii (fields.headD []) := by
  cases fields with
  | nil => rfl
  | cons first rest => rfl

/-- What both parsers take from a line that passes the driver's test. -/
theorem fields_of_validate {kind : ChecksumKind} {line : Bytes}
    (hhead : line.head? = some kind.first) (hgarbage : looksBinaryGarbage line = false)
    (hdriver : kind.validate (UnicoreParser.trim line) = value true) :
    UnicoreParser.lineFields (UnicoreParser.trim line) = value (fieldsOf line) ∧
      lineFields (decodeAscii line) = (fieldsOf line).map decodeAscii := by
  obtain ⟨verdict, htest, hverdict⟩ :=
    validate_iff_driverAccepts kind (notMem_zero_trim (notMem_zero hgarbage))
  rw [hdriver, value.injEq] at htest
  exact fields_of_accepts hhead (hverdict.mp htest.symm)

/-- **The driver's fix** of a line that passes the driver's test. -/
theorem driverFix_of_validate {kind : ChecksumKind} (math : MathFunctions) {line : Bytes}
    (hhead : line.head? = some kind.first) (hgarbage : looksBinaryGarbage line = false)
    (hdriver : kind.validate (UnicoreParser.trim line) = value true) :
    driverFix math line =
      ((kind.parser math (fieldsOf line)).bind Checked.toOption).bind ParsedSentence.fix := by
  obtain ⟨-, hhead'⟩ := trim_prefix hhead ChecksumKind.isSpace_first
  rw [driverFix, parsedLine, ChecksumKind.parseLine_eq math {} hhead', checkedLine_toOption,
    hdriver, (fields_of_validate hhead hgarbage hdriver).1]
  rfl

section Gga

variable {math : MathFunctions} {line : Bytes}

theorem IsGga.fields (h : IsGga line) :
    UnicoreParser.lineFields (UnicoreParser.trim line) = value (fieldsOf line) ∧
      lineFields (decodeAscii line) = (fieldsOf line).map decodeAscii :=
  @fields_of_validate .nmea line h.start h.notGarbage h.driver

/-- The driver hands the fields to `parse_gga`. -/
theorem IsGga.driverFix_eq (h : IsGga line) :
    driverFix math line =
      (UnicoreParser.parseGga (fieldsOf line)).toOption.bind ParsedSentence.fix := by
  rw [@driverFix_of_validate .nmea math line h.start h.notGarbage h.driver, ChecksumKind.parser,
    head?_fieldsOf, Option.bind_some, UnicoreParser.nmeaParser]
  simp only [h.suffix, if_true, Option.bind_some]

/-- The validator keeps a snapshot of ten fields or more. -/
theorem IsGga.storedFix_eq (h : IsGga line) :
    storedFix line = if 10 ≤ (fieldsOf line).length then do
      return some (← ggaSnapshot ((fieldsOf line).map decodeAscii)) else value none := by
  have hfirst : sentenceSuffix (((fieldsOf line).map decodeAscii).headD []) = ascii "GGA" := by
    have hsuffix := h.suffix
    rw [headD_map_decodeAscii, sentenceSuffix, length_decodeAscii]
    rw [UnicoreGnss.sentenceSuffix] at hsuffix
    split
    · rename_i hlong
      rw [if_neg (by omega)] at hsuffix
      rw [decodeAscii, ← List.map_drop, hsuffix]
      rfl
    · rename_i hshort
      rw [if_pos (by omega)] at hsuffix
      rw [hsuffix]
      rfl
  rw [storedFix, if_neg (by rw [h.notGarbage]; exact Bool.false_ne_true)]
  simp only [if_pos ((head?_decodeAscii_eq_iff (by decide)).mpr h.start), fixOfNmeaLine,
    h.validator, if_true, h.fields.2, hfirst, List.length_map, true_and]
  rw [if_neg (fun h => h.1 (by decide))]

/-- **What agrees** of a GGA sentence. The validator keeps every sentence of ten fields, also one
whose coordinates it cannot read, and takes a missing altitude for zero, where the driver leaves out
the geoid separation as well. -/
structure GgaAgrees (math : MathFunctions) (line : Bytes) (stored : Option FixSnapshot) : Prop where
  stored_iff : stored.isSome ↔ 10 ≤ (fieldsOf line).length
  fix_iff : (driverFix math line).isSome ↔
    ∃ s ∈ stored, s.latitudeDeg.isSome ∧ s.longitudeDeg.isSome
  position : ∀ f ∈ driverFix math line, ∀ s ∈ stored, s.fixQuality = f.fixQuality ∧
    s.latitudeDeg = some f.latitudeDeg ∧ s.longitudeDeg = some f.longitudeDeg
  altitude : ∀ f ∈ driverFix math line, ∀ s ∈ stored,
    if (numberAt (fieldsOf line) 9).isSome then s.altitudeM = f.altitudeM
    else f.altitudeM = 0 ∧ s.altitudeM = (numberAt (fieldsOf line) 11).getD 0
  satellites : ∀ f ∈ driverFix math line, ∀ s ∈ stored,
    f.satellites ≠ 0 → s.satellites = f.satellites

/-- What the driver makes of ten fields or more. -/
theorem parseGga_toOption {fields : List Bytes} (hlength : 10 ≤ fields.length) {f2 f3 f4 f5 : Bytes}
    (h2 : fields[2]? = some f2) (h3 : fields[3]? = some f3) (h4 : fields[4]? = some f4)
    (h5 : fields[5]? = some f5) :
    ∃ valid hdop, (UnicoreParser.parseGga fields).toOption.bind ParsedSentence.fix =
      (UnicoreParser.parseLatlon f2 f3).bind fun latitude =>
        (UnicoreParser.parseLatlon f4 f5).map fun longitude => {
          source := .gga
          validFix := valid
          latitudeDeg := latitude
          longitudeDeg := longitude
          altitudeM := (numberAt fields 9).elim 0 fun a => a + (numberAt fields 11).getD 0
          fixQuality := (countAt fields 6).getD 0
          satellites := (countAt fields 7).getD (-1)
          hdop := hdop
          hasCovariance := false } := by
  obtain ⟨f6, h6, hget6, -⟩ := exists_field hlength 6
  obtain ⟨f9, h9, hget9, -⟩ := exists_field hlength 9
  refine ⟨(UnicoreParser.parseInt f6).elim false fun q => decide (q > 0),
    .finite ((numberAt fields 8).getD (-1)), ?_⟩
  rw [UnicoreParser.parseGga, require_true hlength, value_bind, get_of_getElem? h2, value_bind,
    get_of_getElem? h3, value_bind, get_of_getElem? h4, get_of_getElem? h5, hget6, hget9]
  simp only [UnicoreParser.fieldIfAny_none, value_bind]
  cases UnicoreParser.parseLatlon f2 f3 with
  | none => rfl
  | some latitude =>
    cases UnicoreParser.parseLatlon f4 f5 with
    | none => rfl
    | some longitude =>
      simp only [ofOption_some, value_bind, pure_eq, toOption_value, Option.bind_some,
        Option.map_some, numberAt, countAt, h6, h9]
      cases UnicoreParser.parseInt f6 <;> cases UnicoreParser.parseDouble f9 <;> rfl

/-- What the validator makes of ten fields or more. -/
theorem ggaSnapshot_eq {fields : List Bytes} (hzero : ∀ field ∈ fields, (0 : UInt8) ∉ field)
    (hlength : 10 ≤ fields.length) (h : PlainGga fields) {f2 f3 f4 f5 : Bytes}
    (h2 : fields[2]? = some f2) (h3 : fields[3]? = some f3)
    (h4 : fields[4]? = some f4) (h5 : fields[5]? = some f5) :
    ∃ hdop, ggaSnapshot (fields.map decodeAscii) = value {
      fixQuality := (countAt fields 6).getD 0
      latitudeDeg := UnicoreParser.parseLatlon f2 f3
      longitudeDeg := UnicoreParser.parseLatlon f4 f5
      altitudeM := (numberAt fields 9).getD 0 + (numberAt fields 11).getD 0
      satellites := orDefault (countAt fields 7) (-1)
      hdop := hdop } := by
  have hget : ∀ {i field}, fields[i]? = some field →
      get (fields.map decodeAscii) i = value (decodeAscii field) := by
    intro i field hfield
    exact get_of_getElem? (by rw [List.getElem?_map, hfield, Option.map_some])
  have hnul : ∀ {i field}, fields[i]? = some field → (0 : UInt8) ∉ field :=
    fun hfield => hzero _ (List.mem_of_getElem? hfield)
  obtain ⟨f6, h6, -, hget6⟩ := exists_field hlength 6
  obtain ⟨f7, h7, -, hget7⟩ := exists_field hlength 7
  obtain ⟨f8, -, -, hget8⟩ := exists_field hlength 8
  obtain ⟨f9, h9, -, hget9⟩ := exists_field hlength 9
  refine ⟨parseFloat (decodeAscii f8), ?_⟩
  rw [ggaSnapshot, hget h2, hget h3, hget h4, hget h5, hget6, hget7, hget8, hget9]
  simp only [value_bind, UnicoreParser.fieldIfAny_none, orDefault_zero, pure_eq,
    bind_parseFloat hzero (h.numbers 11 (by simp)),
    parseLatlon_eq (hnul h2) (h.numbers 2 (by simp) f2 h2),
    parseLatlon_eq (hnul h4) (h.numbers 4 (by simp) f4 h4),
    parseFloat_eq (hnul h9) (h.numbers 9 (by simp) f9 h9),
    parseInt_eq (hnul h6) (h.integers 6 (by simp) f6 h6),
    parseInt_eq (hnul h7) (h.integers 7 (by simp) f7 h7)]
  have hquality : ((UnicoreParser.parseInt f6).getD 0).natAbs < 2 ^ 64 := by
    rw [← orDefault_zero]
    exact natAbs_orDefault (by decide) fun n => natAbs_of_parseInt
  have hsatellites : (orDefault (UnicoreParser.parseInt f7) (-1)).natAbs < 2 ^ 64 :=
    natAbs_orDefault (by decide) fun n => natAbs_of_parseInt
  rw [floatOfInt_of_lt hquality, value_bind, floatOfInt_of_lt hsatellites, value_bind]
  simp only [numberAt, countAt, h6, h7, h9, Option.bind_some]

/-- A sentence of fewer fields is refused by the driver. -/
theorem parseGga_short {fields : List Bytes} (h : ¬ 10 ≤ fields.length) :
    UnicoreParser.parseGga fields = refused := by
  rw [UnicoreParser.parseGga, require_false h, refused_bind]

/-- **GGA sentences** are read alike where their numbers are plain. -/
theorem IsGga.agrees (math : MathFunctions) {line : Bytes} (h : IsGga line)
    (hplain : PlainGga (fieldsOf line)) :
    ∃ stored, storedFix line = value stored ∧ GgaAgrees math line stored := by
  by_cases hlength : 10 ≤ (fieldsOf line).length
  swap
  · have hfix : driverFix math line = none := by
      rw [h.driverFix_eq, parseGga_short hlength]
      rfl
    refine ⟨none, by rw [h.storedFix_eq, if_neg hlength], ?_⟩
    constructor
    · simp [hlength]
    · simp [hfix]
    · simp
    · simp
    · simp
  obtain ⟨f2, h2, -⟩ := exists_field hlength 2
  obtain ⟨f3, h3, -⟩ := exists_field hlength 3
  obtain ⟨f4, h4, -⟩ := exists_field hlength 4
  obtain ⟨f5, h5, -⟩ := exists_field hlength 5
  obtain ⟨valid, hdop, hdriver⟩ := parseGga_toOption hlength h2 h3 h4 h5
  obtain ⟨hdop', hsnapshot⟩ :=
    ggaSnapshot_eq (notMem_zero_fieldsOf h.notGarbage) hlength hplain h2 h3 h4 h5
  rw [← @IsGga.driverFix_eq math line h] at hdriver
  refine ⟨_, by rw [h.storedFix_eq, if_pos hlength, hsnapshot, value_bind, pure_eq], ?_⟩
  constructor
  · simp [hlength]
  · rw [hdriver]
    cases UnicoreParser.parseLatlon f2 f3 <;> cases UnicoreParser.parseLatlon f4 f5 <;> simp
  all_goals
    intro f hf s hs
    rw [hdriver, Option.mem_def, Option.bind_eq_some_iff] at hf
    obtain ⟨latitude, hlatitude, hf⟩ := hf
    obtain ⟨longitude, hlongitude, rfl⟩ := Option.map_eq_some_iff.mp hf
    obtain rfl := Option.some.inj hs
  · exact ⟨rfl, hlatitude, hlongitude⟩
  · cases numberAt (fieldsOf line) 9 with
    | none => simp
    | some a => simp
  · intro hne
    cases hcount : countAt (fieldsOf line) 7 with
    | none => rfl
    | some n =>
      simp only [hcount, Option.getD_some] at hne ⊢
      rw [orDefault, if_neg hne]

end Gga

section Pvtslna

variable {math : MathFunctions} {line : Bytes}

theorem IsPvtslna.fields (h : IsPvtslna line) :
    UnicoreParser.lineFields (UnicoreParser.trim line) = value (fieldsOf line) ∧
      lineFields (decodeAscii line) = (fieldsOf line).map decodeAscii :=
  @fields_of_validate .unicore line h.start h.notGarbage h.driver

/-- The driver hands the fields to `parse_pvtslna`. -/
theorem IsPvtslna.driverFix_eq (h : IsPvtslna line) :
    driverFix math line =
      (UnicoreParser.parsePvtslna (fieldsOf line)).toOption.bind ParsedSentence.fix := by
  rw [@driverFix_of_validate .unicore math line h.start h.notGarbage h.driver, ChecksumKind.parser,
    head?_fieldsOf, Option.bind_some, UnicoreParser.unicoreParser, if_pos h.type, Option.bind_some]

/-- The validator keeps what its parser makes of the fields. -/
theorem IsPvtslna.storedFix_eq (h : IsPvtslna line) :
    storedFix line = do
      return (← attempt (parsePvtslna ((fieldsOf line).map decodeAscii))).map
        PvtslnaSnapshot.toFixSnapshot := by
  have hfirst : ((fieldsOf line).map decodeAscii).headD [] = ascii "PVTSLNA" := by
    rw [headD_map_decodeAscii, h.type]
    rfl
  have hnotNmea : (decodeAscii line).head? ≠ some dollar := by
    rw [ne_eq, head?_decodeAscii_eq_iff (by decide), h.start]
    decide
  rw [storedFix, if_neg (by rw [h.notGarbage]; exact Bool.false_ne_true)]
  simp only [if_neg hnotNmea, if_pos ((head?_decodeAscii_eq_iff (by decide)).mpr h.start),
    fixOfUnicoreAsciiLine, h.validator, if_true, h.fields.2, hfirst]

/-- **What agrees** of a PVTSLNA log. The validator keeps only logs of forty fields. -/
structure PvtslnaAgrees (math : MathFunctions) (line : Bytes) (stored : Option FixSnapshot) :
    Prop where
  fix_iff : (driverFix math line).isSome ↔ 15 < (fieldsOf line).length ∧
    ∀ i ∈ [10, 11, 12, 13, 14, 15], (numberAt (fieldsOf line) i).isSome
  stored_iff : stored.isSome ↔ (driverFix math line).isSome ∧ 39 < (fieldsOf line).length
  position : ∀ f ∈ driverFix math line, ∀ s ∈ stored, s.fixQuality = f.fixQuality ∧
    s.latitudeDeg = some f.latitudeDeg ∧ s.longitudeDeg = some f.longitudeDeg ∧
      s.altitudeM = f.altitudeM
  satellites : ∀ f ∈ driverFix math line, ∀ s ∈ stored,
    f.satellites ≠ 0 ∨ countAt (fieldsOf line) 23 = some 0 → s.satellites = f.satellites

/-- The satellites that the driver reports, from the two counts of a log. -/
def driverSatellites (solution tracked : Option ℤ) : ℤ :=
  if solution.getD (-1) ≥ 0 then solution.getD (-1) else tracked.getD (-1)

theorem natAbs_snapshotSatellites {solution tracked : Option ℤ}
    (hsolution : ∀ n, solution = some n → n.natAbs < 2 ^ 64)
    (htracked : ∀ n, tracked = some n → n.natAbs < 2 ^ 64) :
    (snapshotSatellites solution tracked).natAbs < 2 ^ 64 := by
  have hstandIn : (orDefault tracked (-1)).natAbs < 2 ^ 64 := natAbs_orDefault (by decide) htracked
  cases solution with
  | none => exact hstandIn
  | some n =>
    rw [snapshotSatellites]
    split_ifs
    · exact hsolution n rfl
    · exact hstandIn

/-- They differ only if no tracked satellites stand in for the solution. -/
theorem snapshotSatellites_eq {solution tracked : Option ℤ}
    (h : driverSatellites solution tracked ≠ 0 ∨ solution = some 0) :
    snapshotSatellites solution tracked = driverSatellites solution tracked := by
  have htracked : tracked ≠ some 0 → orDefault tracked (-1) = tracked.getD (-1) := by
    intro hne
    cases tracked with
    | none => rfl
    | some n => rw [orDefault, if_neg fun hn => hne (congrArg some hn), Option.getD_some]
  rw [driverSatellites] at h ⊢
  cases solution with
  | none =>
    refine htracked ?_
    rintro rfl
    rcases h with h | h
    · exact h rfl
    · cases h
  | some m =>
    rw [snapshotSatellites]
    simp only [Option.getD_some, ge_iff_le] at h ⊢
    by_cases hm : 0 ≤ m
    · rw [if_pos hm, if_pos hm]
    · rw [if_neg hm] at h ⊢
      rw [if_neg hm]
      refine htracked ?_
      rintro rfl
      rcases h with h | h
      · exact h rfl
      · exact hm (Option.some.inj h).ge

/-- The six numbers without which there is no fix. -/
def pvtslnaNumbers (fields : List Bytes) : Option (ℚ × ℚ × ℚ × ℚ × ℚ × ℚ) := do
  let altitude ← numberAt fields 10
  let latitude ← numberAt fields 11
  let longitude ← numberAt fields 12
  let altitudeStd ← numberAt fields 13
  let latitudeStd ← numberAt fields 14
  let longitudeStd ← numberAt fields 15
  return (altitude, latitude, longitude, altitudeStd, latitudeStd, longitudeStd)

theorem isSome_pvtslnaNumbers_iff (fields : List Bytes) : (pvtslnaNumbers fields).isSome ↔
    ∀ i ∈ [10, 11, 12, 13, 14, 15], (numberAt fields i).isSome := by
  rw [pvtslnaNumbers, Option.isSome_iff_exists]
  simp only [Option.bind_eq_bind, Option.bind_eq_some_iff, List.forall_mem_cons,
    Option.isSome_iff_exists, List.not_mem_nil, false_imp_iff, implies_true, and_true]
  constructor
  · rintro ⟨numbers, a, ha, b, hb, c, hc, d, hd, e, he, f, hf, -⟩
    exact ⟨⟨a, ha⟩, ⟨b, hb⟩, ⟨c, hc⟩, ⟨d, hd⟩, ⟨e, he⟩, f, hf⟩
  · rintro ⟨⟨a, ha⟩, ⟨b, hb⟩, ⟨c, hc⟩, ⟨d, hd⟩, ⟨e, he⟩, f, hf⟩
    exact ⟨_, a, ha, b, hb, c, hc, d, hd, e, he, f, hf, rfl⟩

/-- A parser that goes on with the six numbers. -/
theorem bind_pvtslnaNumbers {β : Type} (fields : List Bytes)
    (go : ℚ → ℚ → ℚ → ℚ → ℚ → ℚ → Checked β) :
    (do
      let altitude ← ofOption (numberAt fields 10)
      let latitude ← ofOption (numberAt fields 11)
      let longitude ← ofOption (numberAt fields 12)
      let altitudeStd ← ofOption (numberAt fields 13)
      let latitudeStd ← ofOption (numberAt fields 14)
      let longitudeStd ← ofOption (numberAt fields 15)
      go altitude latitude longitude altitudeStd latitudeStd longitudeStd) =
    match pvtslnaNumbers fields with
    | some (altitude, latitude, longitude, altitudeStd, latitudeStd, longitudeStd) =>
      go altitude latitude longitude altitudeStd latitudeStd longitudeStd
    | none => refused := by
  rw [pvtslnaNumbers]
  cases numberAt fields 10 with
  | none => rfl
  | some altitude =>
    cases numberAt fields 11 with
    | none => rfl
    | some latitude =>
      cases numberAt fields 12 with
      | none => rfl
      | some longitude =>
        cases numberAt fields 13 with
        | none => rfl
        | some altitudeStd =>
          cases numberAt fields 14 with
          | none => rfl
          | some latitudeStd => cases numberAt fields 15 <;> rfl

theorem doubleAt_eq {fields : List Bytes} {i : ℕ} (h : i < fields.length) :
    UnicoreParser.doubleAt fields i = ofOption (numberAt fields i) := by
  rw [UnicoreParser.doubleAt, get_of_getElem? (List.getElem?_eq_getElem h), value_bind, numberAt,
    List.getElem?_eq_getElem h, Option.bind_some]

theorem floatAt_eq {fields : List Bytes} (hzero : ∀ field ∈ fields, (0 : UInt8) ∉ field) {i : ℕ}
    (h : i < fields.length) (hplain : ∀ field ∈ fields[i]?, PlainNumber field) :
    floatAt (fields.map decodeAscii) i = ofOption (numberAt fields i) := by
  have hfield := bind_parseFloat hzero hplain
  have hmap : (fields.map decodeAscii)[i]? = some (decodeAscii fields[i]) := by
    rw [List.getElem?_map, List.getElem?_eq_getElem h, Option.map_some]
  rw [hmap, Option.bind_some] at hfield
  rw [floatAt, get_of_getElem? hmap, value_bind, hfield]

/-- What the driver makes of sixteen fields or more. -/
theorem parsePvtslna_toOption {fields : List Bytes} (hlength : 15 < fields.length) {f9 : Bytes}
    (h9 : fields[9]? = some f9) :
    ∃ hdop, (UnicoreParser.parsePvtslna fields).toOption.bind ParsedSentence.fix =
      (pvtslnaNumbers fields).map fun
        (altitude, latitude, longitude, altitudeStd, latitudeStd, longitudeStd) => {
          source := .pvtslna
          validFix :=
            UnicoreParser.positionTypeToGgaQuality (UnicoreGnss.fieldAfterSemicolon f9) > 0
          fixQuality := UnicoreParser.positionTypeToGgaQuality (UnicoreGnss.fieldAfterSemicolon f9)
          latitudeDeg := latitude
          longitudeDeg := longitude
          altitudeM := altitude + (numberAt fields 21).getD 0
          satellites := driverSatellites (countAt fields 23) (countAt fields 22)
          hdop := hdop
          hasCovariance := true
          covariance := diagonalCovariance longitudeStd latitudeStd altitudeStd } := by
  have hcount : ∀ i, UnicoreParser.fieldIfAny fields i
      (fun field => (UnicoreParser.parseInt field).getD (-1)) (-1) =
        value ((countAt fields i).getD (-1)) := by
    intro i
    rw [UnicoreParser.fieldIfAny, countAt]
    split
    · rename_i h
      rw [get_of_getElem? (List.getElem?_eq_getElem h), List.getElem?_eq_getElem h]
      rfl
    · rename_i h
      rw [List.getElem?_eq_none (Nat.le_of_not_lt h)]
      rfl
  obtain ⟨hdop, hhdop⟩ : ∃ hdop, UnicoreParser.fieldIfAny fields 39
      (fun field => UnicoreParser.parseDoubleInto field (.finite (-1))) (.finite (-1)) =
        value hdop := by
    rw [UnicoreParser.fieldIfAny]
    split
    · rename_i h
      exact ⟨_, by rw [get_of_getElem? (List.getElem?_eq_getElem h), value_bind, pure_eq]⟩
    · exact ⟨_, rfl⟩
  refine ⟨hdop, ?_⟩
  rw [UnicoreParser.parsePvtslna, require_true hlength, value_bind, doubleAt_eq (by omega),
    doubleAt_eq (by omega), doubleAt_eq (by omega), doubleAt_eq (by omega), doubleAt_eq (by omega),
    doubleAt_eq (by omega), get_of_getElem? h9, bind_pvtslnaNumbers]
  simp only [hcount, hhdop, UnicoreParser.fieldIfAny_none, value_bind, pure_eq]
  cases pvtslnaNumbers fields <;> rfl

/-- What the validator makes of forty fields or more. -/
theorem parsePvtslna_eq {fields : List Bytes} (hzero : ∀ field ∈ fields, (0 : UInt8) ∉ field)
    (hlength : 39 < fields.length) (h : PlainPvtslna fields) {f9 : Bytes}
    (h9 : fields[9]? = some f9) :
    ∃ hdop, parsePvtslna (fields.map decodeAscii) = ofOption ((pvtslnaNumbers fields).map fun
      (altitude, latitude, longitude, altitudeStd, latitudeStd, longitudeStd) => {
        fixQuality := UnicoreParser.positionTypeToGgaQuality (UnicoreGnss.fieldAfterSemicolon f9)
        latitudeDeg := latitude
        longitudeDeg := longitude
        altitudeM := altitude + (numberAt fields 21).getD 0
        altitudeStdM := altitudeStd
        latitudeStdM := latitudeStd
        longitudeStdM := longitudeStd
        satellites := snapshotSatellites (countAt fields 23) (countAt fields 22)
        hdop := hdop
        positionType := decodeAscii (UnicoreGnss.fieldAfterSemicolon f9) }) := by
  have hsemicolon : fieldAfterSemicolon (decodeAscii f9) =
      decodeAscii (UnicoreGnss.fieldAfterSemicolon f9) := by
    rw [fieldAfterSemicolon, idxOf?_decodeAscii (by decide), UnicoreGnss.fieldAfterSemicolon]
    cases f9.idxOf? semicolon with
    | none => rfl
    | some i => exact List.map_drop.symm
  obtain ⟨f21, h21, -, hget21⟩ := exists_field (Nat.succ_le_of_lt hlength) 21
  obtain ⟨f22, h22, -, hget22⟩ := exists_field (Nat.succ_le_of_lt hlength) 22
  obtain ⟨f23, h23, -, hget23⟩ := exists_field (Nat.succ_le_of_lt hlength) 23
  obtain ⟨f39, -, -, hget39⟩ := exists_field (Nat.succ_le_of_lt hlength) 39
  have hget9 : get (fields.map decodeAscii) 9 = value (decodeAscii f9) :=
    get_of_getElem? (by rw [List.getElem?_map, h9, Option.map_some])
  have hnumber : ∀ i ∈ [10, 11, 12, 13, 14, 15],
      floatAt (fields.map decodeAscii) i = ofOption (numberAt fields i) := by
    intro i hi
    have hi' : i < fields.length := by
      simp only [List.mem_cons, List.not_mem_nil, or_false] at hi
      omega
    refine floatAt_eq hzero hi' (h.numbers i ?_)
    simp only [List.mem_cons, List.not_mem_nil, or_false] at hi ⊢
    omega
  have hnul : ∀ {i field}, fields[i]? = some field → (0 : UInt8) ∉ field :=
    fun hfield => hzero _ (List.mem_of_getElem? hfield)
  have hnul9 : (0 : UInt8) ∉ UnicoreGnss.fieldAfterSemicolon f9 := by
    rw [UnicoreGnss.fieldAfterSemicolon]
    split
    · exact hnul h9
    · exact fun hmem => hnul h9 (List.mem_of_mem_drop hmem)
  refine ⟨parseFloat (decodeAscii f39), ?_⟩
  rw [parsePvtslna, require_true (by rwa [List.length_map]), value_bind, hget9, value_bind,
    hnumber 10 (by simp), hnumber 11 (by simp), hnumber 12 (by simp), hnumber 13 (by simp),
    hnumber 14 (by simp), hnumber 15 (by simp), hget21, hget22, hget23, hget39,
    bind_pvtslnaNumbers]
  simp only [value_bind, hsemicolon, positionTypeToQuality_eq hnul9 (h.positionType f9 h9),
    orDefault_zero, pure_eq, parseFloat_eq (hnul h21) (h.numbers 21 (by simp) f21 h21),
    parseInt_eq (hnul h22) (h.integers 22 (by simp) f22 h22),
    parseInt_eq (hnul h23) (h.integers 23 (by simp) f23 h23)]
  have hsatellites :
      (snapshotSatellites (UnicoreParser.parseInt f23) (UnicoreParser.parseInt f22)).natAbs <
        2 ^ 64 :=
    natAbs_snapshotSatellites (fun n => natAbs_of_parseInt) fun n => natAbs_of_parseInt
  simp only [floatOfInt_of_lt hsatellites, value_bind, numberAt, countAt, h21, h22, h23,
    Option.bind_some]
  cases pvtslnaNumbers fields <;> rfl

/-- **PVTSLNA logs** are read alike where their numbers and the position type are plain. -/
theorem IsPvtslna.agrees (math : MathFunctions) {line : Bytes} (h : IsPvtslna line)
    (hplain : PlainPvtslna (fieldsOf line)) :
    ∃ stored, storedFix line = value stored ∧ PvtslnaAgrees math line stored := by
  by_cases hshort : 15 < (fieldsOf line).length
  swap
  · have hfix : driverFix math line = none := by
      rw [h.driverFix_eq, UnicoreParser.parsePvtslna, require_false hshort]
      rfl
    have hnothing : parsePvtslna ((fieldsOf line).map decodeAscii) = refused := by
      rw [parsePvtslna, require_false (by rw [List.length_map]; omega), refused_bind]
    refine ⟨none, by rw [h.storedFix_eq, hnothing]; rfl, ?_⟩
    constructor
    · simp [hfix, hshort]
    · simp [hfix]
    · simp
    · simp
  have hfield : (fieldsOf line)[9]? = some (fieldsOf line)[9] :=
    List.getElem?_eq_getElem (by omega)
  obtain ⟨hdop, hdriver⟩ := parsePvtslna_toOption hshort hfield
  rw [← @IsPvtslna.driverFix_eq math line h] at hdriver
  have hfix_iff : (driverFix math line).isSome ↔ 15 < (fieldsOf line).length ∧
      ∀ i ∈ [10, 11, 12, 13, 14, 15], (numberAt (fieldsOf line) i).isSome := by
    rw [hdriver, Option.isSome_map, isSome_pvtslnaNumbers_iff, and_iff_right hshort]
  by_cases hlength : 39 < (fieldsOf line).length
  swap
  · have hnothing : parsePvtslna ((fieldsOf line).map decodeAscii) = refused := by
      rw [parsePvtslna, require_false (by rwa [List.length_map]), refused_bind]
    refine ⟨none, by rw [h.storedFix_eq, hnothing]; rfl, hfix_iff, ?_, ?_, ?_⟩
    · simp [hlength]
    · simp
    · simp
  obtain ⟨hdop', hvalidator⟩ :=
    parsePvtslna_eq (notMem_zero_fieldsOf h.notGarbage) hlength hplain hfield
  rw [h.storedFix_eq, hvalidator]
  cases hnumbers : pvtslnaNumbers (fieldsOf line) with
  | none =>
    rw [hnumbers, Option.map_none] at hdriver
    refine ⟨none, rfl, hfix_iff, ?_, ?_, ?_⟩
    · simp [hdriver]
    · simp
    · simp
  | some numbers =>
    rw [hnumbers, Option.map_some] at hdriver
    refine ⟨_, rfl, hfix_iff, ?_, ?_, ?_⟩
    · simp [hdriver, hlength]
    · intro f hf s hs
      rw [hdriver, Option.mem_def] at hf
      obtain rfl := Option.some.inj hf
      obtain rfl := Option.some.inj hs
      exact ⟨rfl, rfl, rfl, rfl⟩
    · intro f hf s hs hsatellites
      rw [hdriver, Option.mem_def] at hf
      obtain rfl := Option.some.inj hf
      obtain rfl := Option.some.inj hs
      exact snapshotSatellites_eq hsatellites

end Pvtslna

/-- **GGA sentences and PVTSLNA logs** that both count as valid are read alike, as far as no field
is a number to only one of the two languages. -/
theorem fixes_agree (math : MathFunctions) (line : Bytes) :
    (IsGga line → PlainGga (fieldsOf line) →
      ∃ stored, storedFix line = value stored ∧ GgaAgrees math line stored) ∧
    (IsPvtslna line → PlainPvtslna (fieldsOf line) →
      ∃ stored, storedFix line = value stored ∧ PvtslnaAgrees math line stored) :=
  ⟨IsGga.agrees math, IsPvtslna.agrees math⟩

/-- A sentence with all that both read, and a log of sixteen fields. -/
theorem fixes_agree_plain :
    (∃ stored,
      storedFix (ascii "$GNGGA,,4807.038,N,01131,E,4,12,0.8,545.4,M,46.9*24") = value stored ∧
      GgaAgrees ⟨fun _ => 0, fun _ => 1⟩
        (ascii "$GNGGA,,4807.038,N,01131,E,4,12,0.8,545.4,M,46.9*24") stored) ∧
    ∃ stored, storedFix (ascii "#PVTSLNA,,,,,,,,,PPP,1,2,3,4,5,6*81c5b1af") = value stored ∧
      PvtslnaAgrees ⟨fun _ => 0, fun _ => 1⟩
        (ascii "#PVTSLNA,,,,,,,,,PPP,1,2,3,4,5,6*81c5b1af") stored := by
  constructor
  · exact (fixes_agree ⟨fun _ => 0, fun _ => 1⟩ _).1
      ⟨by decide, by decide, by decide, by decide, by decide⟩ (by decide)
  · exact (fixes_agree ⟨fun _ => 0, fun _ => 1⟩ _).2
      ⟨by decide, by decide, by decide +kernel, by decide +kernel, by decide⟩ (by decide)

/-- A sentence of ten fields without coordinates: the validator stores it, and the driver has no fix
of it. -/
theorem fixes_differ_without_coordinates :
    ¬ ∀ (math : MathFunctions) (line : Bytes), IsGga line ∨ IsPvtslna line →
      ∃ stored, storedFix line = value stored ∧
        ((driverFix math line).isSome ↔ stored.isSome) ∧
        ∀ f ∈ driverFix math line, ∀ s ∈ stored, SameFix f s := by
  intro h
  have hline : IsGga (ascii "$GPGGA,,,,,,,,,*7A") :=
    ⟨by decide, by decide, by decide, by decide, by decide⟩
  obtain ⟨stored, hstored, hiff, -⟩ := h ⟨fun _ => 0, fun _ => 1⟩ _ (.inl hline)
  have hfix : driverFix ⟨fun _ => 0, fun _ => 1⟩ (ascii "$GPGGA,,,,,,,,,*7A") = none := by
    rw [hline.driverFix_eq]
    rfl
  obtain ⟨stored', hstored', hagrees⟩ :=
    hline.agrees ⟨fun _ => 0, fun _ => 1⟩ (by decide)
  rw [hstored, value.injEq] at hstored'
  subst hstored'
  have hsome := hagrees.stored_iff.mpr (by decide)
  rw [← hiff, hfix] at hsome
  cases hsome

end UnicoreGnss.LiveValidate
