import UnicoreGnss.Lib.Slices
import UnicoreGnss.Parser.ChecksumGate

/-!
# The text parser with every look at a text tested

`UnicoreParser` takes texts apart with functions on lists, where the source moves positions and
cuts out slices. This is `parse_line` and its helpers a second time, as the source has them: every
`text[i]`, `front()` and `back()` is tested, every range of a `substr` has to lie within its text
with its whole length, and what `find` answers is used only if it has found something.

The two are equal for every text, so none of these tests ever fails.

## Main results

* `BoundsChecked.parseLine_eq` — the tested `parse_line` is `parse_line`
-/

namespace UnicoreGnss

open CNumber Checked Slices

namespace BoundsChecked

/-! ### Texts -/

/-- `sentence_suffix`, by `substr`. -/
def sentenceSuffix (type : Bytes) : Checked Bytes :=
  if type.length ≤ 3 then return type else slice type (type.length - 3) 3

theorem sentenceSuffix_eq (type : Bytes) :
    sentenceSuffix type = value (UnicoreGnss.sentenceSuffix type) := by
  rw [sentenceSuffix, UnicoreGnss.sentenceSuffix]
  split
  · rfl
  · have hrest : (type.drop (type.length - 3)).length ≤ 3 := by
      rw [List.length_drop]
      omega
    rw [slice_of_le (by omega), List.take_of_length_le hrest]

/-- `field.substr(semi + 1)` goes to the end of the field. -/
def fieldAfterSemicolon (field : Bytes) : Checked Bytes :=
  (field.idxOf? semicolon).elim (return field) fun semi =>
    slice field (semi + 1) (field.length - (semi + 1))

theorem fieldAfterSemicolon_eq (field : Bytes) :
    fieldAfterSemicolon field = value (UnicoreGnss.fieldAfterSemicolon field) := by
  rw [fieldAfterSemicolon, UnicoreGnss.fieldAfterSemicolon]
  cases hsemi : field.idxOf? semicolon with
  | none => rfl
  | some semi =>
    obtain ⟨hlt, -⟩ := List.idxOf?_eq_some_iff.mp hsemi
    rw [Option.elim_some, slice_of_le (by omega), ← List.length_drop, List.take_length]

/-- `trim_ascii_quotes`, by `front`, `back` and `substr`. -/
def trimAsciiQuotes (text : Bytes) : Checked Bytes :=
  if 2 ≤ text.length then do
    let front ← get text 0
    let back ← get text (text.length - 1)
    if front = 0x22 ∧ back = 0x22 then slice text 1 (text.length - 2) else return text
  else return text

theorem trimAsciiQuotes_eq (text : Bytes) :
    trimAsciiQuotes text = value (UnicoreGnss.trimAsciiQuotes text) := by
  rw [trimAsciiQuotes, UnicoreGnss.trimAsciiQuotes]
  by_cases hlen : 2 ≤ text.length
  · have hfront : text[0]? = some text[0] := List.getElem?_eq_getElem _
    have hback : text[text.length - 1]? = some text[text.length - 1] := List.getElem?_eq_getElem _
    rw [if_pos hlen, get_of_getElem? hfront, value_bind, get_of_getElem? hback, value_bind,
      slice_of_le (by omega), List.head?_eq_getElem?, List.getLast?_eq_getElem?, hfront, hback]
    simp only [hlen, true_and, Option.some.injEq]
    split <;> rfl
  · rw [if_neg hlen, if_neg fun h => hlen h.1]
    rfl

/-- The hemisphere is the one character of its field. -/
def parseLatlon (valueField hemiField : Bytes) : Checked (Option ℚ) :=
  if UnicoreParser.parseDouble valueField = none ∨ hemiField.length ≠ 1 then return none
  else do
    let c ← get hemiField 0
    return UnicoreParser.parseLatlon valueField [c]

theorem parseLatlon_eq (valueField hemiField : Bytes) :
    parseLatlon valueField hemiField = value (UnicoreParser.parseLatlon valueField hemiField) := by
  rw [parseLatlon]
  by_cases hnone : UnicoreParser.parseDouble valueField = none
  · rw [if_pos (.inl hnone), UnicoreParser.parseLatlon, hnone]
    rfl
  by_cases hlen : hemiField.length = 1
  · obtain ⟨c, rfl⟩ := List.length_eq_one_iff.mp hlen
    rw [if_neg (by simp [hnone])]
    rfl
  · obtain ⟨raw, hraw⟩ := Option.ne_none_iff_exists'.mp hnone
    rw [if_pos (.inr hlen), UnicoreParser.parseLatlon, hraw]
    split
    · simp at hlen
    · rfl

/-- `trim`, a character at a time from either end. -/
def trim (text : Bytes) : Checked Bytes := stripped isSpace text

theorem trim_eq (text : Bytes) : trim text = value (UnicoreParser.trim text) :=
  stripped_eq isSpace text

/-- `split_fields`, from one comma to the next. -/
def splitFields (payload : Bytes) : Checked (List Bytes) := splitFrom comma payload 0

theorem splitFields_eq (payload : Bytes) :
    splitFields payload = value (UnicoreParser.splitFields payload) :=
  splitFrom_zero comma payload

/-! ### Checksums -/

/-- The characters between the first one and position `i`, in the order of the loop. -/
def checksumUpTo (line : Bytes) (i : ℕ) : Checked UInt8 :=
  foldRange (fun checksum k => do return checksum ^^^ (← get line (1 + k))) (i - 1) 0

theorem checksumUpTo_eq {line : Bytes} {i : ℕ} (h : i ≤ line.length) :
    checksumUpTo line i = value (((line.take i).drop 1).foldl (· ^^^ ·) 0) := by
  have hlen : ((line.take i).drop 1).length = i - 1 := by
    rw [List.length_drop, List.length_take, Nat.min_eq_left h]
  rw [checksumUpTo, ← hlen]
  refine foldRange_of_getElem? (fun checksum k c hc => ?_) 0
  have hk : k < i - 1 := hlen ▸ (List.getElem?_eq_some_iff.mp hc).1
  rw [List.getElem?_drop, List.getElem?_take_of_lt (by omega)] at hc
  rw [get_of_getElem? hc, value_bind, pure_eq]

/-- `validate_nmea_checksum`, a character at a time. -/
def validateNmeaChecksum (line : Bytes) : Checked Bool :=
  if line.length < 4 then return false
  else do
    let front ← get line 0
    if front ≠ dollar then return false
    else
      (line.idxOf? star).elim (return false) fun i =>
        if line.length ≤ i + 2 then return false
        else do
          let checksum ← checksumUpTo line i
          let received := strtoul 16 (cStr (← slice line (i + 1) 2))
          return received.2 = [] ∧ checksum = UInt8.ofNat received.1

/-- `validate_unicore_crc`, with each access checked. -/
def validateUnicoreCrc (line : Bytes) : Checked Bool :=
  if line.length < 11 then return false
  else do
    let front ← get line 0
    if front ≠ hash then return false
    else
      (line.idxOf? star).elim (return false) fun i =>
        if line.length ≤ i + 8 then return false
        else do
          let calculated := crc32Unicore (← slice line 1 (i - 1))
          let received := strtoul 16 (cStr (← slice line (i + 1) 8))
          return received.2 = [] ∧ calculated = UInt32.ofNat received.1

/-- What both tests do before they look behind the `*`. -/
theorem testBehindStar_eq (kind : ChecksumKind) {atStar atStar' : ℕ → Checked Bool} {line : Bytes}
    (h : ∀ i, i + kind.width < line.length → atStar i = atStar' i) :
    (if line.length < kind.minLength then return false
      else do
        let front ← get line 0
        if front ≠ kind.first then return false
        else
          (line.idxOf? star).elim (return false) fun i =>
            if line.length ≤ i + kind.width then return false else atStar i) =
      kind.testBehindStar atStar' line := by
  have hmin : 0 < kind.minLength := by cases kind <;> decide
  rw [ChecksumKind.testBehindStar]
  by_cases hlen : line.length < kind.minLength
  · rw [if_pos hlen, if_pos (.inl hlen)]
    rfl
  obtain ⟨front, rest, rfl⟩ := List.exists_cons_of_length_pos (by omega : 0 < line.length)
  rw [if_neg hlen, get_of_getElem? List.getElem?_cons_zero, value_bind]
  by_cases hfront : front = kind.first
  · have hgood : ¬ ((front :: rest).length < kind.minLength ∨
        (front :: rest).head? ≠ some kind.first) := by
      rw [not_or, not_not, hfront]
      exact ⟨hlen, rfl⟩
    rw [if_neg (not_not.mpr hfront), if_neg hgood]
    cases hstar : (front :: rest).idxOf? star with
    | none => rfl
    | some i =>
      by_cases hend : (front :: rest).length ≤ i + kind.width
      · simp only [Option.elim_some, if_pos hend, pure_eq]
      · simp only [Option.elim_some, if_neg hend, h i (Nat.not_le.mp hend)]
  · rw [if_pos hfront, if_pos (.inr (by simp [hfront]))]
    rfl

theorem validateNmeaChecksum_eq (line : Bytes) :
    validateNmeaChecksum line = UnicoreParser.validateNmeaChecksum line := by
  refine testBehindStar_eq .nmea fun i hi => ?_
  have hi : i + 2 < line.length := hi
  rw [checksumUpTo_eq (by omega), slice_of_le (by omega), substr, if_pos (by omega)]
  rfl

theorem validateUnicoreCrc_eq (line : Bytes) :
    validateUnicoreCrc line = UnicoreParser.validateUnicoreCrc line := by
  refine testBehindStar_eq .unicore fun i hi => ?_
  have hi : i + 8 < line.length := hi
  rw [slice_of_le (by omega), slice_of_le (by omega), substr, if_pos (by omega), substr,
    if_pos (by omega)]

/-! ### Lines -/

/-- The first `*` has been found when this is called; without one, the range would not be one. -/
def lineFields (trimmed : Bytes) : Checked (List Bytes) :=
  (trimmed.idxOf? star).elim outside fun i => do splitFields (← slice trimmed 1 (i - 1))

theorem lineFields_eq {trimmed : Bytes} (h : star ∈ trimmed) :
    lineFields trimmed = UnicoreParser.lineFields trimmed := by
  have hlt : trimmed.idxOf star < trimmed.length := List.idxOf_lt_length_iff.mpr h
  rw [lineFields, UnicoreParser.lineFields, idxOf?_of_mem h, Option.elim_some,
    slice_of_le (by omega), substr, if_pos (by omega), value_bind, value_bind, splitFields_eq]
  rfl

/-- The talker of a `GSV` sentence. -/
def talker (first : Bytes) : Checked Bytes :=
  if 5 ≤ first.length then slice first 0 2 else return ascii "GN"

theorem talker_eq (first : Bytes) :
    talker first = value (if 5 ≤ first.length then first.take 2 else ascii "GN") := by
  rw [talker]
  split
  · exact slice_of_le (by omega)
  · rfl

/-- The parser of a `$` line by its first field, which is looked up. -/
def nmeaParser (fields : List Bytes) : Checked (Option (Checked ParsedSentence)) := do
  let first ← get fields 0
  let suffix ← sentenceSuffix first
  if suffix = ascii "GGA" then return some (UnicoreParser.parseGga fields)
  else if suffix = ascii "HDT" then return some (UnicoreParser.parseHdt fields)
  else if suffix = ascii "HPR" then return some (UnicoreParser.parseHpr fields)
  else if suffix = ascii "GSV" then
    return some (UnicoreParser.parseGsv (← talker first) fields)
  else return none

theorem nmeaParser_cons (first : Bytes) (rest : List Bytes) :
    nmeaParser (first :: rest) = value (UnicoreParser.nmeaParser first (first :: rest)) := by
  rw [nmeaParser, get_of_getElem? List.getElem?_cons_zero, value_bind, sentenceSuffix_eq,
    value_bind, talker_eq, UnicoreParser.nmeaParser]
  split_ifs <;> rfl

/-- The parser of a `#` line by its first field, which is looked up. -/
def unicoreParser (math : MathFunctions) (fields : List Bytes) :
    Checked (Option (Checked ParsedSentence)) := do
  return UnicoreParser.unicoreParser math (← get fields 0) fields

/-- What `parse_line` does with the fields of a line that has passed its test. -/
def parseFields (parser : List Bytes → Checked (Option (Checked ParsedSentence)))
    (fields : List Bytes) (counters : ParserCounters) :
    Checked (Option ParsedSentence × ParserCounters) :=
  if fields = [] then return (none, counters)
  else do UnicoreParser.countParsed (← parser fields) counters

/-- `parse_line`, with each access checked. -/
def parseLine (math : MathFunctions) (line : Bytes) (counters : ParserCounters) :
    Checked (Option ParsedSentence × ParserCounters) := do
  let trimmed ← trim line
  if trimmed = [] then return (none, counters)
  else
    let front ← get trimmed 0
    if front = dollar then
      if ← validateNmeaChecksum trimmed then
        parseFields nmeaParser (← lineFields trimmed) counters
      else
        return (none, { counters with nmeaChecksumErrors := counters.nmeaChecksumErrors + 1 })
    else if front = hash then
      if ← validateUnicoreCrc trimmed then
        parseFields (unicoreParser math) (← lineFields trimmed) counters
      else
        return (none, { counters with unicoreCrcErrors := counters.unicoreCrcErrors + 1 })
    else return (none, counters)

theorem parseFields_eq {parser : List Bytes → Checked (Option (Checked ParsedSentence))}
    {choose : Bytes → List Bytes → Option (Checked ParsedSentence)}
    (h : ∀ first rest, parser (first :: rest) = value (choose first (first :: rest)))
    (fields : List Bytes) (counters : ParserCounters) :
    parseFields parser fields counters =
      UnicoreParser.countParsed (fields.head?.bind fun first => choose first fields) counters := by
  cases fields with
  | nil => rfl
  | cons first rest =>
    rw [parseFields, if_neg (List.cons_ne_nil _ _), h, value_bind]
    rfl

/-- A line that has passed its test has a `*`. -/
theorem lineFields_eq_of_validate (kind : ChecksumKind) {trimmed : Bytes}
    (h : kind.validate trimmed = value true) :
    lineFields trimmed = UnicoreParser.lineFields trimmed :=
  lineFields_eq ((kind.validate_eq_true_iff trimmed).mp h).1.star_mem

/-- What comes behind the test of a line may use that the line has passed. -/
theorem validate_bind_congr {β : Type} {verdict : Checked Bool} {f g : Checked β} {no : Checked β}
    (h : verdict = value true → f = g) :
    (do if ← verdict then f else no) = (do if ← verdict then g else no) := by
  cases verdict with
  | value passed =>
    cases passed with
    | true => exact h rfl
    | false => rfl
  | refused => rfl
  | outside => rfl

/-- **The tested `parse_line`** is `parse_line`. -/
theorem parseLine_eq (math : MathFunctions) (line : Bytes) (counters : ParserCounters) :
    parseLine math line counters = UnicoreParser.parseLine math line counters := by
  rw [parseLine, trim_eq, value_bind, UnicoreParser.parseLine]
  cases htrim : UnicoreParser.trim line with
  | nil => rfl
  | cons front rest =>
    rw [if_neg (List.cons_ne_nil _ _), get_of_getElem? List.getElem?_cons_zero, value_bind,
      List.head?_cons]
    by_cases hdollar : front = dollar
    · rw [if_pos hdollar, if_pos (congrArg some hdollar), validateNmeaChecksum_eq]
      refine validate_bind_congr fun hpass => ?_
      rw [lineFields_eq_of_validate .nmea hpass]
      simp only [parseFields_eq nmeaParser_cons]
    · rw [if_neg hdollar, if_neg fun h => hdollar (Option.some.inj h)]
      by_cases hhash : front = hash
      · rw [if_pos hhash, if_pos (congrArg some hhash), validateUnicoreCrc_eq]
        refine validate_bind_congr fun hpass => ?_
        rw [lineFields_eq_of_validate .unicore hpass]
        have hparser : ∀ first rest, unicoreParser math (first :: rest) =
            value (UnicoreParser.unicoreParser math first (first :: rest)) := fun _ _ => rfl
        simp only [parseFields_eq hparser]
      · rw [if_neg hhash, if_neg fun h => hhash (Option.some.inj h)]

end BoundsChecked

end UnicoreGnss
