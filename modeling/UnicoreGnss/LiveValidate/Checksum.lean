import UnicoreGnss.LiveValidate.Lines
import UnicoreGnss.Parser.ChecksumGate

/-!
# When the two checksum tests agree

The driver tests the bytes of a line, the validator the text they are decoded to. For a line of
ASCII characters with a plain hexadecimal check field they agree. They differ in two ways.

* The validator leaves bytes that are not ASCII out of the check value.
* The validator reads the check field with `int` and the driver, after trimming the line, with
  `strtoul`: a blank behind the digits or an underscore between them is refused by the driver, and a
  minus sign makes a number of the driver's field that the validator never finds.

`Misjudged` says when such a difference decides the test. It speaks of the check value of the body
and of what stands in the check field.

## Main results

* `reads_of_driverReads` — what the driver reads in the check field, the validator reads
* `checksum_agrees_iff` — when the two agree
-/

namespace UnicoreGnss.LiveValidate

open CNumber Checked

/-- The bytes between the first character and the first `*`. -/
def bodyOf (line : Bytes) : Bytes := slice line 1 ((line.idxOf? star).getD line.length)

/-- What the validator sees of them. -/
def asciiBodyOf (line : Bytes) : Bytes := encodeAscii (bodyOf line)

/-- The check field: so many characters behind the first `*`, if the line is long enough. -/
def checkField (kind : CheckKind) (line : Bytes) : Option Bytes :=
  if line.length < kind.minLength then none
  else
    match line.idxOf? star with
    | none => none
    | some i =>
      if line.length ≤ i + kind.width then none
      else some (slice line (i + 1) (i + 1 + kind.width))

/-- What `int` reads in the check field of the line. -/
def validatorReads (kind : CheckKind) (line : Bytes) : Option ℤ :=
  (checkField kind line).bind fun field => parseInt (decodeAscii field) 16

/-- What `strtoul` reads in the check field, if it reads it to its end: whether there is a minus
sign, and the magnitude. -/
def strtoulReads (kind : CheckKind) (line : Bytes) : Option (Bool × ℕ) :=
  (checkField kind line).bind fun field =>
    match scanInteger 16 field with
    | some (negative, magnitude, []) => some (negative, magnitude)
    | _ => none

/-- The driver trims the line before it looks for the check field. -/
def driverReads (kind : CheckKind) (line : Bytes) : Option (Bool × ℕ) :=
  strtoulReads kind (UnicoreParser.trim line)

/-- The number `strtoul` makes of it, cut down to the width of the check value. -/
def driverValue (kind : CheckKind) (negative : Bool) (magnitude : ℕ) : ℕ :=
  (if negative then (2 ^ 64 - magnitude) % 2 ^ 64 else magnitude) % 16 ^ kind.width

/-- The line is judged differently. Either its field, read by `int`, is the check value of the ASCII
part of its body, although the driver cannot read the field or the other bytes change the check
value. Or its field, read by `strtoul`, is the check value of the whole body, although the field is
a negative number or the bytes that are not ASCII change the check value. -/
def Misjudged (kind : CheckKind) (line : Bytes) : Prop :=
  (validatorReads kind line = some (kind.checkValue (asciiBodyOf line) : ℤ) ∧
    (driverReads kind line = none ∨
      kind.checkValue (bodyOf line) ≠ kind.checkValue (asciiBodyOf line))) ∨
  ∃ read ∈ driverReads kind line,
    kind.checkValue (bodyOf line) = driverValue kind read.1 read.2 ∧
      (read.1 = true ∧ 0 < read.2 ∨
        kind.checkValue (bodyOf line) ≠ kind.checkValue (asciiBodyOf line))

instance (kind : CheckKind) (line : Bytes) : Decidable (Misjudged kind line) := by
  unfold Misjudged
  infer_instance

/-! ### The validator's test -/

/-- **The validator's test** of the text of a line. -/
theorem validate_decodeAscii_iff {kind : CheckKind} (hfirst : kind.first < 0x80) (line : Bytes) :
    validate kind (decodeAscii line) = true ↔
      line.head? = some kind.first ∧
        validatorReads kind line = some (kind.checkValue (asciiBodyOf line) : ℤ) := by
  rw [validate, validatorReads, checkField, length_decodeAscii, idxOf?_decodeAscii (by decide)]
  by_cases hhead : line.head? = some kind.first
  swap
  · rw [if_pos (.inr fun h => hhead ((head?_decodeAscii_eq_iff hfirst).mp h))]
    simp [hhead]
  by_cases hlength : line.length < kind.minLength
  · rw [if_pos (.inl hlength), if_pos hlength]
    simp
  rw [if_neg (by simp [hlength, (head?_decodeAscii_eq_iff hfirst).mpr hhead]), if_neg hlength]
  cases hstar : line.idxOf? star with
  | none => simp
  | some i =>
    have hbody : encodeAscii (decodeAscii (slice line 1 i)) = asciiBodyOf line := by
      rw [encodeAscii_decodeAscii, asciiBodyOf, bodyOf, hstar]
      rfl
    by_cases hend : line.length ≤ i + kind.width
    · simp [hend]
    · simp only [if_neg hend, Option.bind_some, ← decodeAscii_slice, hbody, hhead, true_and]
      cases parseInt (decodeAscii (slice line (i + 1) (i + 1 + kind.width))) 16 with
      | none => simp
      | some expected => simp [eq_comm]

/-! ### The driver's test -/

/-- The XOR of bytes is that of their codes. -/
theorem toNat_foldl_xor (body : Bytes) :
    (body.foldl (· ^^^ ·) 0).toNat = nmeaChecksum body := by
  suffices h : ∀ value : UInt8, (body.foldl (· ^^^ ·) value).toNat =
      body.foldl (fun value byte => value ^^^ byte.toNat) value.toNat from h 0
  induction body with
  | nil => intro value; rfl
  | cons byte body ih =>
    intro value
    rw [List.foldl_cons, List.foldl_cons, ih, UInt8.toNat_xor]

/-- The validator's parameters of a test of the driver. -/
def validatorKind : ChecksumKind → CheckKind
  | .nmea => nmeaKind
  | .unicore => unicoreKind

section ValidatorKind

variable (kind : ChecksumKind)

theorem first_validatorKind : (validatorKind kind).first = kind.first := by cases kind <;> rfl

theorem minLength_validatorKind : (validatorKind kind).minLength = kind.minLength := by
  cases kind <;> rfl

theorem width_validatorKind : (validatorKind kind).width = kind.width := by cases kind <;> rfl

theorem checkValue_validatorKind (body : Bytes) :
    (validatorKind kind).checkValue body = kind.checkValue body := by
  cases kind with
  | nmea => exact (toNat_foldl_xor body).symm
  | unicore => exact crc32Unicore_eq body

end ValidatorKind

/-- What the driver's tests accept. -/
def DriverAccepts (kind : CheckKind) (line : Bytes) : Prop :=
  line.head? = some kind.first ∧
    ∃ negative magnitude, strtoulReads kind line = some (negative, magnitude) ∧
      kind.checkValue (bodyOf line) = driverValue kind negative magnitude

/-- A line without a check field is not accepted. -/
theorem not_driverAccepts {kind : CheckKind} {line : Bytes} (h : checkField kind line = none) :
    ¬ DriverAccepts kind line := by
  rintro ⟨-, negative, magnitude, hreads, -⟩
  rw [strtoulReads, h] at hreads
  exact absurd hreads nofun

theorem bodyOf_eq {line : Bytes} {i : ℕ} (hstar : line.idxOf? star = some i) :
    bodyOf line = (line.drop 1).take (i - 1) := by
  rw [bodyOf, hstar]
  rfl

theorem lt_length_of_star {line : Bytes} {i : ℕ} (hstar : line.idxOf? star = some i) :
    i < line.length :=
  (List.idxOf?_eq_some_iff.mp hstar).1

/-- The check field is as wide as it should be. -/
theorem length_of_checkField {kind : CheckKind} {line field : Bytes}
    (h : checkField kind line = some field) : field.length = kind.width := by
  rw [checkField] at h
  split at h
  · exact absurd h nofun
  · split at h
    · exact absurd h nofun
    · split at h
      · exact absurd h nofun
      · obtain rfl := Option.some.inj h
        rw [slice, List.length_take, List.length_drop]
        omega

section Passing

variable {kind : ChecksumKind} {line : Bytes}

/-- **The check field** of a line that is long enough for it. -/
theorem checkField_validatorKind (hstar : star ∈ line) (hlength : kind.minLength ≤ line.length)
    (hwide : (sealField kind.width line).length = kind.width) :
    checkField (validatorKind kind) line = some (sealField kind.width line) := by
  have hpos := kind.width_pos
  rw [sealField, List.length_take, List.length_drop] at hwide
  rw [checkField, minLength_validatorKind, width_validatorKind, if_neg (by omega),
    idxOf?_of_mem hstar]
  simp only
  rw [if_neg (by omega), slice, Nat.add_sub_cancel_left, sealField]

/-- A line with a check field has a `*` and is long enough. -/
theorem of_checkField {field : Bytes} (h : checkField (validatorKind kind) line = some field) :
    star ∈ line ∧ kind.minLength ≤ line.length ∧
      (sealField kind.width line).length = kind.width := by
  rw [checkField, minLength_validatorKind, width_validatorKind] at h
  by_cases hstar : star ∈ line
  · rw [idxOf?_of_mem hstar] at h
    rw [sealField, List.length_take, List.length_drop]
    split at h
    · cases h
    · simp only [Option.ite_none_left_eq_some] at h
      exact ⟨hstar, by omega, by omega⟩
  · rw [List.idxOf?_eq_none_iff.mpr hstar, ite_self] at h
    cases h

theorem bodyOf_eq_sealedBody (hstar : star ∈ line) : bodyOf line = sealedBody line := by
  rw [bodyOf_eq (idxOf?_of_mem hstar), sealedBody, List.drop_take]

/-- **What `strtoul` reads**, as a sign and a magnitude. -/
theorem reads_iff_strtoulReads (hnul : (0 : UInt8) ∉ line) (hstar : star ∈ line)
    (hfield : checkField (validatorKind kind) line = some (sealField kind.width line)) :
    kind.Reads line ↔ ∃ negative magnitude,
      strtoulReads (validatorKind kind) line = some (negative, magnitude) ∧
        (validatorKind kind).checkValue (bodyOf line) =
          driverValue (validatorKind kind) negative magnitude := by
  have hwide := length_of_checkField hfield
  have hnul' : (0 : UInt8) ∉ sealField kind.width line := fun h =>
    hnul (List.mem_of_mem_drop (List.mem_of_mem_take h))
  rw [ChecksumKind.Reads, readToNul_of_notMem hnul', strtoulReads, hfield, Option.bind_some,
    checkValue_validatorKind, bodyOf_eq_sealedBody hstar, integerNumber]
  rw [width_validatorKind] at hwide
  cases hscan : scanInteger 16 (sealField kind.width line) with
  | none => simp
  | some read =>
    obtain ⟨negative, magnitude, _ | ⟨c, rest⟩⟩ := read
    · have hlt := magnitude_lt (by decide) hscan
      have hpow : 16 ^ kind.width ≤ 16 ^ 8 := Nat.pow_le_pow_right (by decide) kind.width_le
      rw [hwide] at hlt
      have hsmall : ¬ 2 ^ 64 ≤ magnitude := by omega
      have hlong := toUnsignedLong_signed negative magnitude
      rw [if_neg hsmall] at hlong
      simp only [Option.mem_def, Option.some.injEq, exists_eq_left', hlong, Prod.mk.injEq,
        and_assoc, driverValue, width_validatorKind]
      constructor
      · intro hvalue
        exact ⟨negative, magnitude, rfl, rfl, hvalue.symm⟩
      · rintro ⟨_, _, rfl, rfl, hvalue⟩
        exact hvalue.symm
    · simp

/-- **The driver accepts** what passes. -/
theorem passes_iff_driverAccepts (hnul : (0 : UInt8) ∉ line) :
    kind.Passes line ↔ DriverAccepts (validatorKind kind) line := by
  cases hfield : checkField (validatorKind kind) line with
  | none =>
    refine iff_of_false ?_ (not_driverAccepts hfield)
    rintro ⟨⟨-, hstar, hwide⟩, hlength, -⟩
    rw [checkField_validatorKind hstar hlength hwide] at hfield
    exact absurd hfield nofun
  | some field =>
    obtain ⟨hstar, hlength, hwide⟩ := of_checkField hfield
    have hreads := reads_iff_strtoulReads hnul hstar
      (checkField_validatorKind hstar hlength hwide)
    rw [DriverAccepts, first_validatorKind, ← hreads]
    constructor
    · rintro ⟨⟨hhead, -, -⟩, -, hread⟩
      exact ⟨hhead, hread⟩
    · rintro ⟨hhead, hread⟩
      exact ⟨⟨hhead, hstar, hwide⟩, hlength, hread⟩

/-- **The driver's test.** -/
theorem validate_iff_driverAccepts (kind : ChecksumKind) (hnul : (0 : UInt8) ∉ line) :
    ∃ verdict, kind.validate line = value verdict ∧
      (verdict = true ↔ DriverAccepts (validatorKind kind) line) := by
  rw [← passes_iff_driverAccepts hnul]
  exact kind.validate_iff line

end Passing

/-! ### Trimming -/

section Trimming

variable {kind : CheckKind} {line : Bytes}

/-- Trimming a sentence takes white space off its end. -/
theorem trim_prefix {c : UInt8} (hhead : line.head? = some c) (hc : isSpace c = false) :
    UnicoreParser.trim line <+: line ∧ (UnicoreParser.trim line).head? = some c := by
  obtain ⟨rest, rfl⟩ : ∃ rest, line = c :: rest := by
    cases line with
    | nil => exact absurd hhead nofun
    | cons c' rest => exact ⟨rest, by rw [Option.some.inj hhead]⟩
  have hfront : (c :: rest).dropWhile isSpace = c :: rest :=
    List.dropWhile_cons_of_neg (by simp [hc])
  rw [UnicoreParser.trim, hfront]
  refine ⟨List.rdropWhile_prefix _ _, ?_⟩
  -- The first character is no white space, so something is left.
  obtain ⟨tail, htail⟩ := List.rdropWhile_prefix isSpace (c :: rest)
  cases hleft : (c :: rest).rdropWhile isSpace with
  | nil =>
    rw [List.rdropWhile_eq_nil_iff] at hleft
    exact absurd (hleft c List.mem_cons_self) (by simp [hc])
  | cons c' left =>
    rw [hleft, List.cons_append, List.cons.injEq] at htail
    rw [List.head?_cons, htail.1]

theorem idxOf?_append {c : UInt8} {i : ℕ} (h : line.idxOf? c = some i) (tail : Bytes) :
    (line ++ tail).idxOf? c = some i := by
  rw [List.idxOf?, List.findIdx?_append, ← List.idxOf?, h]
  rfl

/-- A check field stays where it is when something follows the line. -/
theorem checkField_append {field : Bytes} (h : checkField kind line = some field) (tail : Bytes) :
    checkField kind (line ++ tail) = some field ∧ bodyOf (line ++ tail) = bodyOf line := by
  rw [checkField] at h
  split at h
  · exact absurd h nofun
  · rename_i hlength
    split at h
    · exact absurd h nofun
    · rename_i i hstar
      split at h
      · exact absurd h nofun
      · rename_i hend
        have hlt := lt_length_of_star hstar
        have hstar' := idxOf?_append hstar tail
        constructor
        · rw [checkField, if_neg (by rw [List.length_append]; omega), hstar']
          simp only [List.length_append]
          rw [if_neg (by omega), ← h, slice, slice, List.drop_append_of_le_length (by omega),
            List.take_append_of_le_length (by rw [List.length_drop]; omega)]
        · rw [bodyOf_eq hstar', bodyOf_eq hstar, List.drop_append_of_le_length (by omega),
            List.take_append_of_le_length (by rw [List.length_drop]; omega)]

/-- **What the driver reads in the check field, the validator reads**, but for the sign. -/
theorem reads_of_driverReads (hwidth : 0 < kind.width)
    (htrim : UnicoreParser.trim line <+: line) {negative : Bool} {magnitude : ℕ}
    (h : driverReads kind line = some (negative, magnitude)) :
    validatorReads kind line = some (if negative then -(magnitude : ℤ) else magnitude) ∧
      bodyOf (UnicoreParser.trim line) = bodyOf line ∧ magnitude < 16 ^ kind.width := by
  obtain ⟨tail, htail⟩ := htrim
  rw [driverReads, strtoulReads, Option.bind_eq_some_iff] at h
  obtain ⟨field, hfield, hread⟩ := h
  obtain ⟨hfield', hbody⟩ := checkField_append hfield tail
  rw [htail] at hfield' hbody
  have hwide := length_of_checkField hfield
  have hscan : scanInteger 16 field = some (negative, magnitude, []) := by
    split at hread
    · rename_i negative' magnitude' hscan
      obtain ⟨rfl, rfl⟩ : negative' = negative ∧ magnitude' = magnitude := by simpa using hread
      exact hscan
    · exact absurd hread nofun
  refine ⟨?_, hbody.symm, hwide ▸ magnitude_lt (by decide) hscan⟩
  rw [validatorReads, hfield', Option.bind_some,
    decodeAscii_of_ascii (ascii_of_scanInteger hscan), parseInt,
    if_neg (List.ne_nil_of_length_pos (by omega))]
  exact PyNumber.int_of_scanInteger le_rfl hscan (.inl (by decide))

end Trimming

/-! ### The verdicts -/

/-- **The two tests of a sentence** agree unless it is misjudged. -/
theorem tests_agree_iff {kind : CheckKind} {line : Bytes} (hhead : line.head? = some kind.first)
    (hfirst : kind.first < 0x80) (hspace : isSpace kind.first = false) (hwidth : 0 < kind.width) :
    (validate kind (decodeAscii line) = true ↔ DriverAccepts kind (UnicoreParser.trim line)) ↔
      ¬ Misjudged kind line := by
  obtain ⟨htrim, hhead'⟩ := trim_prefix hhead hspace
  rw [validate_decodeAscii_iff hfirst, and_iff_right hhead, DriverAccepts, and_iff_right hhead',
    Misjudged]
  cases hread : driverReads kind line with
  | none =>
    rw [driverReads] at hread
    simp [hread]
  | some read =>
    obtain ⟨negative, magnitude⟩ := read
    obtain ⟨hvalidator, hbody, hlt⟩ := reads_of_driverReads hwidth htrim hread
    rw [driverReads] at hread
    have hdriver : (∃ negative' magnitude',
        some (negative, magnitude) = some (negative', magnitude') ∧
          kind.checkValue (bodyOf line) = driverValue kind negative' magnitude') ↔
          kind.checkValue (bodyOf line) = driverValue kind negative magnitude := by
      constructor
      · rintro ⟨_, _, ⟨⟩, h⟩
        exact h
      · exact fun h => ⟨negative, magnitude, rfl, h⟩
    rw [hread, hvalidator, hbody, hdriver]
    simp only [Option.some.injEq, Option.mem_def, exists_eq_left', reduceCtorEq, false_or]
    generalize kind.checkValue (bodyOf line) = whole
    generalize kind.checkValue (asciiBodyOf line) = ascii
    by_cases hminus : negative = true ∧ 0 < magnitude
    · -- No check value is negative.
      obtain ⟨rfl, hpos⟩ := hminus
      simp only [if_true, true_and]
      generalize driverValue kind true magnitude = value
      omega
    · have hzero : negative = true → magnitude = 0 := by
        intro h
        by_contra hne
        exact hminus ⟨h, Nat.pos_of_ne_zero hne⟩
      have hvalue : driverValue kind negative magnitude = magnitude := by
        cases negative with
        | false => exact Nat.mod_eq_of_lt hlt
        | true =>
          obtain rfl := hzero rfl
          exact Nat.zero_mod _
      have hsign : (if negative then -(magnitude : ℤ) else magnitude) = magnitude := by
        cases negative with
        | false => rfl
        | true =>
          obtain rfl := hzero rfl
          rfl
      simp only [hvalue, hsign, hminus, false_or]
      omega

/-! ### Counting -/

/-- The validator counts the line as good. -/
def CountsOk (s : CaptureState) (line : Bytes) : Prop :=
  s.nmeaChecksumOk < (s.handleLine line).nmeaChecksumOk ∨
    s.unicoreAsciiCrcOk < (s.handleLine line).unicoreAsciiCrcOk

/-- The driver counts an error of the checksum or of the CRC. -/
def CountsError (math : MathFunctions) (counters : ParserCounters) (line : Bytes) : Prop :=
  ∃ parsed counters', UnicoreParser.parseLine math line counters = value (parsed, counters') ∧
    (counters.nmeaChecksumErrors < counters'.nmeaChecksumErrors ∨
      counters.unicoreCrcErrors < counters'.unicoreCrcErrors)

/-- The checksum by which a line is tested. -/
def kindOf (line : Bytes) : CheckKind := if line.head? = some dollar then nmeaKind else unicoreKind

theorem notMem_zero_trim {line : Bytes} (h : (0 : UInt8) ∉ line) :
    (0 : UInt8) ∉ UnicoreParser.trim line := fun hmem =>
  h ((List.dropWhile_sublist _).subset ((List.rdropWhile_prefix _ _).subset hmem))

/-- Parsing counts no checksum errors. -/
theorem countParsed_errors (parsed : Option (Checked ParsedSentence)) (counters : ParserCounters) :
    Ensures (fun result => result.2.nmeaChecksumErrors = counters.nmeaChecksumErrors ∧
      result.2.unicoreCrcErrors = counters.unicoreCrcErrors)
      (UnicoreParser.countParsed parsed counters) := by
  rcases parsed with _ | ⟨sentence | _ | _⟩
  · exact ⟨rfl, rfl⟩
  · exact ⟨rfl, rfl⟩
  · exact ⟨rfl, rfl⟩
  · trivial

/-- A line that passes its test counts no error. -/
theorem not_countsError_of_passes {fields : Checked (List Bytes)} {counters : ParserCounters}
    {parser : List Bytes → Option (Checked ParsedSentence)} {parsed : Option ParsedSentence}
    {counters' : ParserCounters}
    (h : (do
      let fields ← fields
      UnicoreParser.countParsed (parser fields) counters) = value (parsed, counters')) :
    ¬ (counters.nmeaChecksumErrors < counters'.nmeaChecksumErrors ∨
      counters.unicoreCrcErrors < counters'.unicoreCrcErrors) := by
  obtain ⟨hnmea, hunicore⟩ : counters'.nmeaChecksumErrors = counters.nmeaChecksumErrors ∧
      counters'.unicoreCrcErrors = counters.unicoreCrcErrors :=
    ensures_iff.mp (Ensures.bind fun fields => countParsed_errors (parser fields) counters)
      (parsed, counters') h
  omega

/-- **The driver's count** of a line of either kind. -/
theorem countsError_iff_of_head (math : MathFunctions) (counters : ParserCounters)
    {kind : ChecksumKind} {line : Bytes} (hhead : line.head? = some kind.first)
    (hnul : (0 : UInt8) ∉ line) :
    CountsError math counters line ↔
      ¬ DriverAccepts (validatorKind kind) (UnicoreParser.trim line) := by
  obtain ⟨-, hhead'⟩ := trim_prefix hhead ChecksumKind.isSpace_first
  obtain ⟨verdict, htest, hverdict⟩ := validate_iff_driverAccepts kind (notMem_zero_trim hnul)
  rw [← hverdict, CountsError, ChecksumKind.parseLine_eq math counters hhead', htest, value_bind]
  cases verdict with
  | true =>
    refine iff_of_false ?_ (fun h => h rfl)
    rintro ⟨parsed, counters', h, hcount⟩
    exact not_countsError_of_passes h hcount
  | false =>
    refine iff_of_true ⟨none, kind.countError counters, rfl, ?_⟩ Bool.false_ne_true
    cases kind with
    | nmea => exact .inl (Nat.lt_succ_self _)
    | unicore => exact .inr (Nat.lt_succ_self _)

/-- **The driver's count** of a sentence. -/
theorem countsError_iff (math : MathFunctions) (counters : ParserCounters) {line : Bytes}
    (hstart : line.head? = some dollar ∨ line.head? = some hash) (hnul : (0 : UInt8) ∉ line) :
    CountsError math counters line ↔ ¬ DriverAccepts (kindOf line) (UnicoreParser.trim line) := by
  rcases hstart with hhead | hhead
  · rw [kindOf, if_pos hhead]
    exact @countsError_iff_of_head math counters .nmea line hhead hnul
  · rw [kindOf, if_neg (by rw [hhead]; decide)]
    exact @countsError_iff_of_head math counters .unicore line hhead hnul

/-- **The validator's count** of a sentence. -/
theorem countsOk_iff (s : CaptureState) {line : Bytes}
    (hstart : line.head? = some dollar ∨ line.head? = some hash)
    (hgarbage : looksBinaryGarbage line = false) :
    CountsOk s line ↔ validate (kindOf line) (decodeAscii line) = true := by
  rw [CountsOk, CaptureState.handleLine]
  simp only [hgarbage, Bool.false_eq_true, if_false]
  rcases hstart with hhead | hhead
  · rw [kindOf, if_pos hhead, if_pos ((head?_decodeAscii_eq_iff (by decide)).mpr hhead),
      CaptureState.handleNmeaLine, validateNmea]
    cases validate nmeaKind (decodeAscii line) <;> simp
  · have hhead₀ : line.head? ≠ some dollar := by
      rw [hhead]
      decide
    rw [kindOf, if_neg hhead₀,
      if_neg (fun h => hhead₀ ((head?_decodeAscii_eq_iff (by decide)).mp h)),
      if_pos ((head?_decodeAscii_eq_iff (by decide)).mpr hhead),
      CaptureState.handleUnicoreAsciiLine, validateUnicoreAscii]
    cases validate unicoreKind (decodeAscii line) <;> simp

/-- **The validator counts a line as good** exactly if the driver counts no error of it, unless the
line is misjudged. -/
theorem checksum_agrees_iff (math : MathFunctions) (s : CaptureState) (counters : ParserCounters)
    (line : Bytes) (hstart : line.head? = some dollar ∨ line.head? = some hash)
    (hgarbage : looksBinaryGarbage line = false) :
    (CountsOk s line ↔ ¬ CountsError math counters line) ↔ ¬ Misjudged (kindOf line) line := by
  rw [countsOk_iff s hstart hgarbage,
    countsError_iff math counters hstart (notMem_zero hgarbage), not_not]
  rcases hstart with hhead | hhead
  · rw [kindOf, if_pos hhead]
    exact tests_agree_iff hhead (by decide) (by decide) (by decide)
  · rw [kindOf, if_neg (by rw [hhead]; decide)]
    exact tests_agree_iff hhead (by decide) (by decide) (by decide)

/-- `$A*41` -/
theorem checksum_agrees_plain :
    CountsOk {} [0x24, 0x41, 0x2A, 0x34, 0x31] ↔
      ¬ CountsError ⟨fun _ => 0, fun _ => 1⟩ {} [0x24, 0x41, 0x2A, 0x34, 0x31] :=
  (checksum_agrees_iff ⟨fun _ => 0, fun _ => 1⟩ {} {} [0x24, 0x41, 0x2A, 0x34, 0x31]
    (.inl rfl) (by decide)).mpr (by decide)

/-- In `$AAAAAAAA` with a byte `0x80` behind it and a checksum of zero, the validator sees eight `A`
and counts the line as good. The driver sees the byte, too, and counts an error. -/
theorem checksum_disagrees_high_byte :
    ¬ ∀ (math : MathFunctions) (s : CaptureState) (counters : ParserCounters) (line : Bytes),
      line.head? = some dollar ∨ line.head? = some hash → looksBinaryGarbage line = false →
        (CountsOk s line ↔ ¬ CountsError math counters line) := by
  intro h
  have hline := h ⟨fun _ => 0, fun _ => 1⟩ {} {}
    (0x24 :: List.replicate 8 0x41 ++ [0x80, 0x2A, 0x30, 0x30]) (.inl rfl) (by decide)
  refine hline.mp (.inl (by decide))
    ⟨none, { nmeaChecksumErrors := 1 }, by decide, .inl (by decide)⟩

end UnicoreGnss.LiveValidate
