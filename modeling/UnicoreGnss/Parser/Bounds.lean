import UnicoreGnss.Parser.BoundsChecked
import UnicoreGnss.Parser.Binary

/-!
# No parser reads outside its input

Each parser has its own test of how much there is, written beside constants for the places that it
reads. Here every one of these tests is held against the reads behind it: a text parser reads
`fields[i]` only below the number of fields it has asked for, a loop whose cursor comes from the
input asks again in each pass or has asked for all of its passes before, and the bits that
`read_bits_le` takes through a raw pointer lie in the 24 bytes of a record.

Positions and sizes are natural numbers. A `size_t` of 64 bits holds the sizes that are computed
from a count in the input, as the count is at most 32 bits wide.

## Main results

* `UnicoreParser.exists_parseLine_eq` — every line gets an answer
* `UnicoreBinaryNavParser.inside_parse` — no message is read outside its payload
* `reads_inside` — both, with the slices of a line inside their texts
-/

namespace UnicoreGnss

open Checked Cursor

namespace UnicoreParser

/-! ### Fields -/

section Fields

variable {fields : List Bytes} {i : ℕ}

/-- A field that is read and has to denote something. -/
theorem inside_readAt {α : Type} (parse : Bytes → Option α) (h : i < fields.length) :
    Inside (get fields i >>= fun field => ofOption (parse field)) :=
  (inside_get h).bind fun _ => inside_ofOption _

@[simp] theorem inside_doubleAt (h : i < fields.length) : Inside (doubleAt fields i) :=
  inside_readAt _ h

@[simp] theorem inside_intAt (h : i < fields.length) : Inside (intAt fields i) :=
  inside_readAt _ h

@[simp] theorem inside_hexAt (h : i < fields.length) : Inside (hexAt fields i) :=
  inside_readAt _ h

@[simp] theorem inside_dataIntAt (h : i < fields.length) : Inside (dataIntAt fields i) :=
  inside_readAt _ h

/-- A field that need not be there is read only if it is. -/
@[simp] theorem inside_fieldIfAny {α : Type} (parse : Bytes → α) (absent : α) :
    Inside (fieldIfAny fields i parse absent) := by
  rw [fieldIfAny]
  split
  · rename_i h
    exact (inside_get h).bind fun _ => inside_value _
  · exact inside_value _

end Fields

/-! ### Text parsers

Each of them tests the number of its fields first. What has been tested bounds every index that
follows. -/

section TextParsers

variable (fields : List Bytes)

theorem inside_parseGga : Inside (parseGga fields) := by
  apply inside_require_bind
  intro h
  simp (disch := omega) [inside_bind_iff, inside_get]

theorem inside_parseHdt : Inside (parseHdt fields) := by
  apply inside_require_bind
  intro h
  simp (disch := omega) [inside_bind_iff]

theorem inside_parseHpr : Inside (parseHpr fields) := by
  apply inside_require_bind
  intro h
  simp (disch := omega) [inside_bind_iff]

theorem inside_parseGsv (talker : Bytes) : Inside (parseGsv talker fields) := by
  apply inside_require_bind
  intro h
  simp (disch := omega) [inside_bind_iff]

theorem inside_parsePvtslna : Inside (parsePvtslna fields) := by
  apply inside_require_bind
  intro h
  simp (disch := omega) [inside_bind_iff, inside_get]

/-- The last five fields are there because there are at least six. -/
theorem inside_parseBestnava (math : MathFunctions) : Inside (parseBestnava math fields) := by
  rw [parseBestnava]
  split
  · refine inside_require_bind fun h => ?_
    simp (disch := omega) [inside_bind_iff]
  · simp (disch := omega) [inside_bind_iff, inside_get]

theorem inside_parseRtkstatusa : Inside (parseRtkstatusa fields) := by
  apply inside_require_bind
  intro h
  simp (disch := omega) [inside_bind_iff, inside_get]

theorem inside_parseRtcmstatusa : Inside (parseRtcmstatusa fields) := by
  apply inside_require_bind
  intro h
  have hcounts : Inside (forRange (fun i => intAt fields (13 + i)) 6) :=
    Inside.forRange fun i hi => inside_intAt (by omega)
  simp (disch := omega) [inside_bind_iff, hcounts]

theorem inside_parseAgca : Inside (parseAgca fields) := by
  apply inside_require_bind
  intro h
  simp (disch := omega) [inside_bind_iff]

theorem inside_parseHwstatusa : Inside (parseHwstatusa fields) := by
  apply inside_require_bind
  intro h
  simp (disch := omega) [inside_bind_iff]

theorem inside_parseJamstatusa : Inside (parseJamstatusa fields) := by
  apply inside_require_bind
  intro h
  simp (disch := omega) [inside_bind_iff, inside_get]

theorem inside_parseFreqjamstatusa : Inside (parseFreqjamstatusa fields) := by
  apply inside_require_bind
  intro h
  simp (disch := omega) [inside_bind_iff, inside_get]

/-- An entry reads four fields from its cursor on. -/
theorem inside_bestsataEntry {cursor : ℕ} (h : cursor + 4 ≤ fields.length) :
    Inside (bestsataEntry fields cursor) := by
  rw [bestsataEntry]
  simp (disch := omega) [inside_bind_iff, inside_get]

/-- The number of entries comes from the input. The fields they need are counted before the loop
begins. -/
theorem inside_parseBestsata : Inside (parseBestsata fields) := by
  refine inside_require_bind fun h => (inside_dataIntAt h).bind fun entryCount => ?_
  refine inside_require_bind fun _ => inside_require_bind fun hfields => ?_
  refine Inside.bind (Inside.forRange fun i hi => ?_) fun entries => inside_value _
  exact inside_bestsataEntry fields (by omega)

/-- A further frequency tests that its four fields are there. -/
theorem inside_satsinfoaExtraSignal (cursor : ℕ) : Inside (satsinfoaExtraSignal fields cursor) := by
  apply inside_require_bind
  intro h
  simp (disch := omega) [inside_bind_iff]

/-- So does a satellite with its seven fields. -/
theorem inside_satsinfoaSatellite (cursor : ℕ) : Inside (satsinfoaSatellite fields cursor) := by
  have hextra := inside_readMany (inside_satsinfoaExtraSignal fields)
  apply inside_require_bind
  intro h
  simp (disch := omega) [inside_bind_iff, hextra]

/-- Both loops advance their cursor by what the input says, and test it again in each pass. -/
theorem inside_parseSatsinfoa : Inside (parseSatsinfoa fields) := by
  have hsatellites := inside_readMany (inside_satsinfoaSatellite fields)
  apply inside_require_bind
  intro h
  simp (disch := omega) [inside_bind_iff, hsatellites]

end TextParsers

/-! ### Lines -/

theorem inside_nmeaParser {first : Bytes} {fields : List Bytes} {parsed : Checked ParsedSentence}
    (h : nmeaParser first fields = some parsed) : Inside parsed := by
  cases nmeaSentence_of_nmeaParser h with
  | gga => exact inside_parseGga fields
  | hdt => exact inside_parseHdt fields
  | hpr => exact inside_parseHpr fields
  | gsv talker => exact inside_parseGsv fields talker

theorem inside_unicoreParser {math : MathFunctions} {first : Bytes} {fields : List Bytes}
    {parsed : Checked ParsedSentence} (h : unicoreParser math first fields = some parsed) :
    Inside parsed := by
  cases unicoreLog_of_unicoreParser h with
  | pvtslna => exact inside_parsePvtslna fields
  | bestnava => exact inside_parseBestnava fields math
  | rtkstatusa => exact inside_parseRtkstatusa fields
  | rtcmstatusa => exact inside_parseRtcmstatusa fields
  | bestsata => exact inside_parseBestsata fields
  | satsinfoa => exact inside_parseSatsinfoa fields
  | agca => exact inside_parseAgca fields
  | hwstatusa => exact inside_parseHwstatusa fields
  | jamstatusa => exact inside_parseJamstatusa fields
  | freqjamstatusa => exact inside_parseFreqjamstatusa fields

/-- A parser that reads inside its fields has a counted answer. -/
theorem exists_countParsed_eq {parsed : Option (Checked ParsedSentence)}
    (h : ∀ p, parsed = some p → Inside p) (counters : ParserCounters) :
    ∃ answer, countParsed parsed counters = value answer := by
  cases parsed with
  | none => exact ⟨_, rfl⟩
  | some p =>
    obtain ⟨sentence, hsentence⟩ := (h p rfl).exists_attempt
    rw [countParsed, hsentence]
    cases sentence <;> exact ⟨_, rfl⟩

/-- A line of either kind gets an answer. -/
theorem exists_parseLine_eq_of_kind (kind : ChecksumKind) (math : MathFunctions) {line : Bytes}
    (counters : ParserCounters) (hhead : (trim line).head? = some kind.first) :
    ∃ answer, parseLine math line counters = value answer := by
  have hlen : 1 ≤ (trim line).length := by
    refine List.length_pos_of_ne_nil fun hnil => ?_
    rw [hnil] at hhead
    cases hhead
  obtain ⟨verdict, hverdict, -⟩ := kind.validate_iff (trim line)
  rw [kind.parseLine_eq math counters hhead, hverdict, value_bind]
  cases verdict with
  | false => exact ⟨_, rfl⟩
  | true =>
    rw [lineFields, substr, if_pos hlen]
    refine exists_countParsed_eq (fun parsed hparsed => ?_) counters
    cases kind with
    | nmea =>
      obtain ⟨first, -, h⟩ := Option.bind_eq_some_iff.mp hparsed
      exact inside_nmeaParser h
    | unicore =>
      obtain ⟨first, -, h⟩ := Option.bind_eq_some_iff.mp hparsed
      exact inside_unicoreParser h

/-- **Every line** gets an answer, whatever it consists of. -/
theorem exists_parseLine_eq (math : MathFunctions) (line : Bytes) (counters : ParserCounters) :
    ∃ answer, parseLine math line counters = value answer := by
  by_cases hdollar : (trim line).head? = some dollar
  · exact exists_parseLine_eq_of_kind .nmea math counters hdollar
  by_cases hhash : (trim line).head? = some hash
  · exact exists_parseLine_eq_of_kind .unicore math counters hhash
  · rw [parseLine, if_neg hdollar, if_neg hhash]
    exact ⟨_, rfl⟩

end UnicoreParser

/-! ### Payloads -/

namespace UnicoreBinaryNavParser

variable (payload : Bytes)

/-- A field of a payload is read only if all of its bytes are there. -/
@[simp] theorem inside_fieldBytes (offset size : ℕ) : Inside (fieldBytes payload offset size) := by
  refine inside_require_bind fun h => Inside.forRange fun i hi => inside_get ?_
  have hoffset := h.1
  have hsize := h.2
  omega

@[simp] theorem inside_readU8 (offset : ℕ) : Inside (readU8 payload offset) :=
  (inside_fieldBytes payload offset 1).bind fun _ => inside_value _

@[simp] theorem inside_readU16 (offset : ℕ) : Inside (readU16 payload offset) :=
  (inside_fieldBytes payload offset 2).bind fun _ => inside_value _

@[simp] theorem inside_readU32 (offset : ℕ) : Inside (readU32 payload offset) :=
  (inside_fieldBytes payload offset 4).bind fun _ => inside_value _

@[simp] theorem inside_readI16 (offset : ℕ) : Inside (readI16 payload offset) :=
  (inside_readU16 payload offset).bind fun _ => inside_value _

@[simp] theorem inside_readFloat32 (offset : ℕ) : Inside (readFloat32 payload offset) :=
  (inside_readU32 payload offset).bind fun _ => inside_ofOption _

@[simp] theorem inside_readFloat64 (offset : ℕ) : Inside (readFloat64 payload offset) :=
  (inside_fieldBytes payload offset 8).bind fun _ => inside_ofOption _

@[simp] theorem inside_readCharArray (offset size : ℕ) :
    Inside (readCharArray payload offset size) := by
  rw [readCharArray]
  split
  · rename_i h
    have hoffset := h.1
    have hsize := h.2
    refine Inside.bind (Inside.forRange fun i hi => inside_get ?_) fun _ => inside_value _
    omega
  · exact inside_value _

/-- **The raw pointer.** Bits are read inside the payload if the last of them is in a byte of it. -/
theorem inside_readBitsLe {record bitOffset bits : ℕ}
    (h : bitOffset + bits ≤ (payload.length - record) * 8) :
    Inside (readBitsLe payload record bitOffset bits) := by
  induction bits with
  | zero => trivial
  | succ bit ih =>
    have hbyte : record + (bitOffset + bit) / 8 < payload.length := by omega
    exact (ih (by omega)).bind fun _ => (inside_get hbyte).bind fun _ => inside_value _

/-- A record is tested once. Its 24 bytes hold the last bit that is read of it, number 175. -/
theorem inside_obsvmcmpbEntry (offset : ℕ) : Inside (obsvmcmpbEntry payload offset) := by
  apply inside_require_bind
  intro h
  have hsize : 24 ≤ payload.length - offset := h.2
  have hbits {bitOffset bits : ℕ} (hlast : bitOffset + bits ≤ 176) :
      Inside (readBitsLe payload offset bitOffset bits) :=
    inside_readBitsLe payload (by omega)
  simp (disch := omega) [inside_bind_iff, hbits]

theorem inside_parseObsvmcmpb : Inside (parseObsvmcmpb payload) := by
  refine inside_require_bind fun _ => (inside_readU32 payload 0).bind fun observationCount => ?_
  refine inside_require_bind fun _ => Inside.bind ?_ fun entries => inside_value _
  exact Inside.forRange fun i _ => inside_obsvmcmpbEntry payload _

theorem inside_parseAgcb : Inside (parseAgcb payload) := by
  simp [parseAgcb, inside_bind_iff]

theorem inside_bestsatbEntry (cursor : ℕ) : Inside (bestsatbEntry payload cursor) := by
  simp [bestsatbEntry, inside_bind_iff]

theorem inside_parseBestsatb : Inside (parseBestsatb payload) := by
  have hloop (n : ℕ) : Inside (forRange (fun i => bestsatbEntry payload (4 + i * 16)) n) :=
    Inside.forRange fun i _ => inside_bestsatbEntry payload _
  simp [parseBestsatb, inside_bind_iff, hloop]

theorem inside_parseBestnavb (math : MathFunctions) : Inside (parseBestnavb math payload) := by
  simp [parseBestnavb, inside_bind_iff]

theorem inside_parsePvtslnb : Inside (parsePvtslnb payload) := by
  simp [parsePvtslnb, inside_bind_iff]

theorem inside_parseFreqjamstatusb : Inside (parseFreqjamstatusb payload) := by
  simp [parseFreqjamstatusb, inside_bind_iff]

theorem inside_parseHwstatusb : Inside (parseHwstatusb payload) := by
  simp [parseHwstatusb, inside_bind_iff]

theorem inside_parseJamstatusb : Inside (parseJamstatusb payload) := by
  simp [parseJamstatusb, inside_bind_iff]

theorem inside_parseRtkstatusb : Inside (parseRtkstatusb payload) := by
  simp [parseRtkstatusb, inside_bind_iff]

theorem inside_parseRtcmstatusb : Inside (parseRtcmstatusb payload) := by
  have hcounts : Inside (forRange (fun i => readU8 payload (16 + i)) 6) :=
    Inside.forRange fun i _ => inside_readU8 payload _
  simp [parseRtcmstatusb, inside_bind_iff, hcounts]

theorem inside_satsinfobSignal (signalOffset : ℕ) :
    Inside (satsinfobSignal payload signalOffset) := by
  simp [satsinfobSignal, inside_bind_iff]

theorem inside_satsinfobSatellite (cursor : ℕ) : Inside (satsinfobSatellite payload cursor) := by
  have hsignals (n : ℕ) :
      Inside (forRange (fun i => satsinfobSignal payload (cursor + 4 + i * 4)) n) :=
    Inside.forRange fun i _ => inside_satsinfobSignal payload _
  simp [satsinfobSatellite, inside_bind_iff, hsignals]

theorem inside_parseSatsinfob : Inside (parseSatsinfob payload) := by
  have hsatellites := inside_readMany (inside_satsinfobSatellite payload)
  simp [parseSatsinfob, inside_bind_iff, hsatellites]

/-- **Every message**, whatever its id and its payload. -/
theorem inside_parse (math : MathFunctions) (frame : UnicoreBinaryFrame) :
    Inside (parse math frame) := by
  have hmessage := binaryMessage_parse math frame
  generalize parse math frame = parsed at hmessage ⊢
  cases hmessage with
  | obsvmcmpb => exact inside_parseObsvmcmpb _
  | agcb => exact inside_parseAgcb _
  | rtkstatusb => exact inside_parseRtkstatusb _
  | jamstatusb => exact inside_parseJamstatusb _
  | freqjamstatusb => exact inside_parseFreqjamstatusb _
  | pvtslnb => exact inside_parsePvtslnb _
  | bestsatb => exact inside_parseBestsatb _
  | bestnavb => exact inside_parseBestnavb _ math
  | satsinfob => exact inside_parseSatsinfob _
  | rtcmstatusb => exact inside_parseRtcmstatusb _
  | hwstatusb => exact inside_parseHwstatusb _
  | unknown => exact inside_refused

end UnicoreBinaryNavParser

/-! ### All reads -/

/-- **No parser reads outside its input.** Every line gets an answer from the parser that tests each
of its looks at the line, and so do the helpers that take a field apart; no message is read outside
its payload; and the sizes that are computed from a count of the input do not wrap around. -/
theorem reads_inside :
    (∀ math line counters, ∃ answer,
      BoundsChecked.parseLine math line counters = value answer ∧
        UnicoreParser.parseLine math line counters = value answer) ∧
    (∀ field, BoundsChecked.fieldAfterSemicolon field = value (fieldAfterSemicolon field)) ∧
    (∀ text, BoundsChecked.trimAsciiQuotes text = value (trimAsciiQuotes text)) ∧
    (∀ valueField hemiField, BoundsChecked.parseLatlon valueField hemiField =
      value (UnicoreParser.parseLatlon valueField hemiField)) ∧
    (∀ math frame, UnicoreBinaryNavParser.parse math frame ≠ outside) ∧
    (∀ field count, UnicoreParser.parseInt field = some count → 10 + count.toNat * 4 < 2 ^ 64) ∧
    ∀ count : UInt32, 4 + count.toNat * 24 < 2 ^ 64 := by
  refine ⟨fun math line counters => ?_, BoundsChecked.fieldAfterSemicolon_eq,
    BoundsChecked.trimAsciiQuotes_eq, BoundsChecked.parseLatlon_eq, fun math frame => ?_,
    fun field count hcount => ?_, fun count => ?_⟩
  · obtain ⟨answer, hanswer⟩ := UnicoreParser.exists_parseLine_eq math line counters
    exact ⟨answer, (BoundsChecked.parseLine_eq math line counters).trans hanswer, hanswer⟩
  · exact inside_iff_ne.mp (UnicoreBinaryNavParser.inside_parse math frame)
  · rw [UnicoreParser.parseInt_eq, Option.map_eq_some_iff] at hcount
    obtain ⟨n, -, rfl⟩ := hcount
    have hrange := toInt_range (toLong n)
    omega
  · have hcount := count.toNat_lt
    omega

end UnicoreGnss
