import UnicoreGnss.Lib.Requesting
import UnicoreGnss.Parser.Binary
import UnicoreGnss.Parser.Text

/-!
# Declared counts and memory

Five parsers read a count and reserve room for as many entries. BESTSATA, BESTSATB and OBSVMCMPB
first compare the count with the size of what they were given, and the count of a SATSINFOB is a
byte. SATSINFOA has only looked at the sign when it reserves: a count that the fields cannot back
comes out in the loop behind, where the first satellite that is not there ends the parser.

`WithReserve` holds these parsers with their calls of `reserve`.

## Main definitions

* `UnicoreParser.WithReserve.parseLine`, `UnicoreBinaryNavParser.WithReserve.parse` — with the
  capacities asked for
* `UnicoreParser.DeclaresSatellites` — the lines whose count is reserved

## Main results

* `UnicoreParser.WithReserve.outcome_parseLine`, `UnicoreBinaryNavParser.WithReserve.outcome_parse`
  — the same parsers, but for the requests
* `capacity_requests_iff` — which lines and which frames are safe
-/

namespace UnicoreGnss

open Checked Cursor Requesting

namespace UnicoreParser

namespace WithReserve

/-- `parse_bestsata`, with what it reserves. -/
def parseBestsata (fields : List Bytes) : Requesting ℕ ParsedSentence := do
  require (9 < fields.length)
  let entryCount ← dataIntAt fields 9
  require (0 ≤ entryCount)
  require (10 + entryCount.toNat * 4 ≤ fields.length)
  request entryCount.toNat
  let entries ← forRange (fun i => bestsataEntry fields (10 + i * 4)) entryCount.toNat
  return {
    sentenceType := ascii "BESTSATA"
    bestsat := some { entryCount, entries } }

/-- `parse_satsinfoa`, with what it reserves. -/
def parseSatsinfoa (fields : List Bytes) : Requesting ℕ ParsedSentence := do
  require (14 < fields.length)
  let satelliteCount ← dataIntAt fields 9
  let version ← intAt fields 10
  let frequencyFlag ← intAt fields 14
  require (0 ≤ satelliteCount)
  request satelliteCount.toNat
  let (entries, _) ← readMany satsinfoaSatellite satelliteCount.toNat fields 15
  return {
    sentenceType := ascii "SATSINFOA"
    satsinfo := some { satelliteCount, version, frequencyFlag, entries } }

theorem outcome_parseBestsata (fields : List Bytes) :
    (parseBestsata fields).outcome = UnicoreParser.parseBestsata fields := by
  simp [parseBestsata, UnicoreParser.parseBestsata]

theorem outcome_parseSatsinfoa (fields : List Bytes) :
    (parseSatsinfoa fields).outcome = UnicoreParser.parseSatsinfoa fields := by
  simp [parseSatsinfoa, UnicoreParser.parseSatsinfoa]

/-- BESTSATA reserves what its fields can back. -/
theorem mem_requests_parseBestsata_iff {fields : List Bytes} {n : ℕ} :
    n ∈ (parseBestsata fields).requests ↔ 9 < fields.length ∧
      ∃ count, dataIntAt fields 9 = value count ∧ 0 ≤ count ∧
        10 + count.toNat * 4 ≤ fields.length ∧ n = count.toNat := by
  simp [parseBestsata]

/-- SATSINFOA reserves what it is told. -/
theorem mem_requests_parseSatsinfoa_iff {fields : List Bytes} {n : ℕ} :
    n ∈ (parseSatsinfoa fields).requests ↔ 14 < fields.length ∧
      ∃ count, dataIntAt fields 9 = value count ∧ (∃ version, intAt fields 10 = value version) ∧
        (∃ flag, intAt fields 14 = value flag) ∧ 0 ≤ count ∧ n = count.toNat := by
  simp [parseSatsinfoa]

/-- The parser of a `#` log, by its first field. Only two of them reserve anything. -/
def unicoreParser (math : MathFunctions) (first : Bytes) (fields : List Bytes) :
    Option (Requesting ℕ ParsedSentence) :=
  if first = ascii "BESTSATA" then some (parseBestsata fields)
  else if first = ascii "SATSINFOA" then some (parseSatsinfoa fields)
  else (UnicoreParser.unicoreParser math first fields).map liftM

/-- The counters after a sentence, with what its parser has reserved. -/
def countParsed (parsed : Option (Requesting ℕ ParsedSentence)) (counters : ParserCounters) :
    Requesting ℕ (Option ParsedSentence × ParserCounters) where
  requests := parsed.elim [] requests
  outcome := UnicoreParser.countParsed (parsed.map outcome) counters

/-- `parse_line`. The sentences of `$` lines reserve nothing. -/
def parseLine (math : MathFunctions) (line : Bytes) (counters : ParserCounters) :
    Requesting ℕ (Option ParsedSentence × ParserCounters) := do
  let trimmed := trim line
  if trimmed.head? = some dollar then UnicoreParser.parseLine math line counters
  else if trimmed.head? = some hash then
    if ← validateUnicoreCrc trimmed then
      let fields ← lineFields trimmed
      countParsed (fields.head?.bind fun first => unicoreParser math first fields) counters
    else
      return (none, { counters with unicoreCrcErrors := counters.unicoreCrcErrors + 1 })
  else return (none, counters)

/-! ### The same parsers -/

theorem outcome_unicoreParser (math : MathFunctions) (first : Bytes) (fields : List Bytes) :
    (unicoreParser math first fields).map outcome =
      UnicoreParser.unicoreParser math first fields := by
  rw [unicoreParser]
  split_ifs with hbestsata hsatsinfoa
  · subst hbestsata
    rw [Option.map_some, outcome_parseBestsata]
    rfl
  · subst hsatsinfoa
    rw [Option.map_some, outcome_parseSatsinfoa]
    rfl
  · rw [Option.map_map]
    exact congrFun Option.map_id _

/-- **`parse_line`**, but for the requests. -/
theorem outcome_parseLine (math : MathFunctions) (line : Bytes) (counters : ParserCounters) :
    (parseLine math line counters).outcome = UnicoreParser.parseLine math line counters := by
  have hcount : ∀ fields : List Bytes,
      (countParsed (fields.head?.bind fun first => unicoreParser math first fields)
        counters).outcome =
      UnicoreParser.countParsed (fields.head?.bind fun first =>
        UnicoreParser.unicoreParser math first fields) counters := by
    intro fields
    simp only [countParsed, Option.map_bind, Function.comp_def, outcome_unicoreParser]
  rw [parseLine]
  split
  · rfl
  next hdollar =>
    rw [UnicoreParser.parseLine, if_neg hdollar]
    split
    · rw [outcome_bind, outcome_liftM]
      congr 1
      funext valid
      cases valid with
      | false => rfl
      | true =>
        change (liftM (lineFields (trim line)) >>= fun fields => countParsed _ _).outcome = _
        rw [outcome_bind, outcome_liftM]
        simp only [hcount]
        rfl
    · rfl

/-! ### The requests -/

theorem mem_requests_unicoreParser_iff {math : MathFunctions} {first : Bytes} {fields : List Bytes}
    {n : ℕ} :
    n ∈ (unicoreParser math first fields).elim [] requests ↔
      first = ascii "BESTSATA" ∧ n ∈ (parseBestsata fields).requests ∨
      first = ascii "SATSINFOA" ∧ n ∈ (parseSatsinfoa fields).requests := by
  have hne : ascii "BESTSATA" ≠ ascii "SATSINFOA" := by decide
  rw [unicoreParser]
  split_ifs with hbestsata hsatsinfoa
  · simp [hbestsata, hne]
  · simp [hsatsinfoa, hne.symm]
  · simp only [hbestsata, hsatsinfoa, false_and, or_false, iff_false]
    cases UnicoreParser.unicoreParser math first fields <;> simp

/-- A `#` line asks for what the parser of its first field asks for. -/
theorem mem_requests_parseLine_iff {math : MathFunctions} {line : Bytes}
    {counters : ParserCounters} {fields : List Bytes} {n : ℕ}
    (hfields : lineFields (trim line) = value fields) :
    n ∈ (parseLine math line counters).requests ↔
      (trim line).head? = some hash ∧ validateUnicoreCrc (trim line) = value true ∧
        ∃ first, fields.head? = some first ∧
          (first = ascii "BESTSATA" ∧ n ∈ (parseBestsata fields).requests ∨
            first = ascii "SATSINFOA" ∧ n ∈ (parseSatsinfoa fields).requests) := by
  rw [parseLine]
  split_ifs with hdollar hhash
  · rw [hdollar]
    exact iff_of_false List.not_mem_nil fun h => absurd h.1 (by decide)
  · have hcount : n ∈ (countParsed (fields.head?.bind fun first => unicoreParser math first fields)
        counters).requests ↔ ∃ first, fields.head? = some first ∧
          n ∈ (unicoreParser math first fields).elim [] requests := by
      rw [countParsed]
      cases fields.head? <;> simp
    simp only [mem_requests_bind_iff, requests_liftM, outcome_liftM, List.not_mem_nil, false_or]
    rw [and_iff_right hhash]
    simp only [← @mem_requests_unicoreParser_iff math, ← hcount]
    constructor
    · rintro ⟨valid, hvalid, h⟩
      cases valid with
      | false => cases h
      | true =>
        simp only [if_true, mem_requests_bind_iff, requests_liftM, outcome_liftM, hfields,
          List.not_mem_nil, false_or, value.injEq, exists_eq_left'] at h
        exact ⟨hvalid, h⟩
    · rintro ⟨hvalid, h⟩
      refine ⟨true, hvalid, ?_⟩
      simpa [hfields] using h
  · simp [hhash]

end WithReserve

/-- A `#` line with a valid CRC is a SATSINFOA log that declares so many satellites, and the
integers before the satellites can be read. -/
structure DeclaresSatellites (line : Bytes) (fields : List Bytes) (count : ℤ) : Prop where
  head : (trim line).head? = some hash
  crc : validateUnicoreCrc (trim line) = value true
  name : fields.head? = some (ascii "SATSINFOA")
  length : 14 < fields.length
  count : dataIntAt fields 9 = value count
  version : ∃ version, intAt fields 10 = value version
  frequencyFlag : ∃ flag, intAt fields 14 = value flag

/-- **What a line asks for** is within a bound that is no less than the number of its fields exactly
if the number of satellites that it declares is. -/
theorem requests_le_iff {math : MathFunctions} {line : Bytes} {counters : ParserCounters}
    {fields : List Bytes} {bound : ℕ} (hfields : lineFields (trim line) = value fields)
    (hbound : fields.length ≤ bound) :
    (∀ n ∈ (WithReserve.parseLine math line counters).requests, n ≤ bound) ↔
      ∀ count, DeclaresSatellites line fields count → count ≤ bound := by
  simp only [WithReserve.mem_requests_parseLine_iff hfields]
  constructor
  · rintro h count ⟨hhead, hcrc, hname, hlength, hcount, hversion, hflag⟩
    rcases Int.lt_or_le count 0 with hneg | hpos
    · omega
    · have hle := h count.toNat ⟨hhead, hcrc, _, hname, .inr ⟨rfl,
        WithReserve.mem_requests_parseSatsinfoa_iff.mpr
          ⟨hlength, count, hcount, hversion, hflag, hpos, rfl⟩⟩⟩
      omega
  · rintro h n ⟨hhead, hcrc, first, hfirst, ⟨rfl, hn⟩ | ⟨rfl, hn⟩⟩
    · -- BESTSATA has compared the count with the number of fields.
      obtain ⟨-, count, -, -, hle, rfl⟩ := WithReserve.mem_requests_parseBestsata_iff.mp hn
      omega
    · obtain ⟨hlength, count, hcount, hversion, hflag, -, rfl⟩ :=
        WithReserve.mem_requests_parseSatsinfoa_iff.mp hn
      have hle := h count ⟨hhead, hcrc, hfirst, hlength, hcount, hversion, hflag⟩
      omega

end UnicoreParser

namespace UnicoreBinaryNavParser

namespace WithReserve

/-- `parse_bestsatb`, with what it reserves. -/
def parseBestsatb (payload : Bytes) : Requesting ℕ ParsedSentence := do
  let entryCount ← readU32 payload 0
  require (4 + entryCount.toNat * 16 ≤ payload.length)
  request entryCount.toNat
  let entries ← forRange (fun i => bestsatbEntry payload (4 + i * 16)) entryCount.toNat
  return {
    sentenceType := ascii "BESTSATB"
    bestsat := some { entryCount := toInt entryCount.toNat, entries } }

/-- `parse_obsvmcmpb`, with what it reserves. -/
def parseObsvmcmpb (payload : Bytes) : Requesting ℕ ParsedSentence := do
  require (4 ≤ payload.length)
  let observationCount ← readU32 payload 0
  require (4 + observationCount.toNat * 24 ≤ payload.length)
  request observationCount.toNat
  let entries ← forRange (fun i => obsvmcmpbEntry payload (4 + i * 24)) observationCount.toNat
  return {
    sentenceType := ascii "OBSVMCMPB"
    rawObservations := some { observationCount := toInt observationCount.toNat, entries } }

/-- `parse_satsinfob`, with what it reserves. -/
def parseSatsinfob (payload : Bytes) : Requesting ℕ ParsedSentence := do
  require (6 ≤ payload.length)
  let satelliteCount ← readU8 payload 0
  let version ← readU8 payload 1
  let frequencyFlag ← readU8 payload 5
  request satelliteCount.toNat
  let (entries, _) ← readMany satsinfobSatellite satelliteCount.toNat payload 6
  return {
    sentenceType := ascii "SATSINFOB"
    satsinfo := some {
      satelliteCount := satelliteCount.toNat
      version := version.toNat
      frequencyFlag := frequencyFlag.toNat
      entries } }

/-- `parse`. Only three of the parsers reserve anything. -/
def parse (math : MathFunctions) (frame : UnicoreBinaryFrame) : Requesting ℕ ParsedSentence :=
  match frame.messageId.toNat with
  | 138 => parseObsvmcmpb frame.payload
  | 1041 => parseBestsatb frame.payload
  | 2124 => parseSatsinfob frame.payload
  | _ => liftM (UnicoreBinaryNavParser.parse math frame)

/-- **`parse`**, but for the requests. -/
theorem outcome_parse (math : MathFunctions) (frame : UnicoreBinaryFrame) :
    (parse math frame).outcome = UnicoreBinaryNavParser.parse math frame := by
  rw [parse]
  split
  next hid => simp [UnicoreBinaryNavParser.parse, hid, parseObsvmcmpb,
    UnicoreBinaryNavParser.parseObsvmcmpb]
  next hid => simp [UnicoreBinaryNavParser.parse, hid, parseBestsatb,
    UnicoreBinaryNavParser.parseBestsatb]
  next hid => simp [UnicoreBinaryNavParser.parse, hid, parseSatsinfob,
    UnicoreBinaryNavParser.parseSatsinfob]
  next => rfl

end WithReserve

/-- **What a frame asks for** is backed by its payload, or is the value of a byte. -/
theorem requests_le {math : MathFunctions} {frame : UnicoreBinaryFrame} {n : ℕ}
    (h : n ∈ (WithReserve.parse math frame).requests) : n ≤ max 255 frame.payload.length := by
  rw [WithReserve.parse] at h
  split at h
  · simp only [WithReserve.parseObsvmcmpb, mem_requests_bind_iff, requests_liftM, outcome_liftM,
      requests_request, requests_pure, require_eq_value, List.not_mem_nil, false_or, or_false,
      and_false, exists_false, List.mem_singleton] at h
    obtain ⟨-, -, count, -, -, hle, rfl⟩ := h
    omega
  · simp only [WithReserve.parseBestsatb, mem_requests_bind_iff, requests_liftM, outcome_liftM,
      requests_request, requests_pure, require_eq_value, List.not_mem_nil, false_or, or_false,
      and_false, exists_false, List.mem_singleton] at h
    obtain ⟨count, -, -, hle, rfl⟩ := h
    omega
  · simp only [WithReserve.parseSatsinfob, mem_requests_bind_iff, requests_liftM, outcome_liftM,
      requests_request, requests_pure, require_eq_value, List.not_mem_nil, false_or, or_false,
      and_false, exists_false, List.mem_singleton] at h
    obtain ⟨-, -, count, -, version, -, flag, -, rfl⟩ := h
    have := count.toNat_lt
    omega
  · exact absurd h List.not_mem_nil

end UnicoreBinaryNavParser

/-- **Declared counts and memory.** A line asks for no more than its fields can back, or 255,
exactly if it is not a SATSINFOA log that declares more satellites than that. If it is none, and the
surroundings grant so much, `parse_line` ends as if it asked for nothing. A binary frame never asks
for more than its payload can back, or 255. -/
theorem capacity_requests_iff (math : MathFunctions) :
    (∀ line counters fields, UnicoreParser.lineFields (UnicoreParser.trim line) = value fields →
      ((∀ n ∈ (UnicoreParser.WithReserve.parseLine math line counters).requests,
          n ≤ max 255 fields.length) ↔
        ∀ count, UnicoreParser.DeclaresSatellites line fields count →
          count ≤ max 255 fields.length) ∧
      ((∀ count, UnicoreParser.DeclaresSatellites line fields count →
          count ≤ max 255 fields.length) →
        ∀ grants : ℕ → Bool, (∀ n ≤ max 255 fields.length, grants n = true) →
          run grants (UnicoreParser.WithReserve.parseLine math line counters) =
            some (UnicoreParser.parseLine math line counters))) ∧
    ∀ frame, (∀ n ∈ (UnicoreBinaryNavParser.WithReserve.parse math frame).requests,
        n ≤ max 255 frame.payload.length) ∧
      ∀ grants : ℕ → Bool, (∀ n ≤ max 255 frame.payload.length, grants n = true) →
        run grants (UnicoreBinaryNavParser.WithReserve.parse math frame) =
          some (UnicoreBinaryNavParser.parse math frame) := by
  refine ⟨fun line counters fields hfields => ?_, fun frame => ?_⟩
  · have hiff := @UnicoreParser.requests_le_iff math line counters fields _ hfields
      (le_max_right 255 _)
    refine ⟨by simpa using hiff, fun hdeclared grants hgrants => ?_⟩
    have hrun := run_of_grants fun n hn => hgrants n (hiff.mpr (by simpa using hdeclared) n hn)
    rwa [UnicoreParser.WithReserve.outcome_parseLine] at hrun
  · refine ⟨fun n => UnicoreBinaryNavParser.requests_le, fun grants hgrants => ?_⟩
    have hrun := run_of_grants fun n hn =>
      hgrants n (@UnicoreBinaryNavParser.requests_le math frame n hn)
    rwa [UnicoreBinaryNavParser.WithReserve.outcome_parse] at hrun

/-- A SATSINFOA log that declares a satellite it has. -/
def oneSatelliteLine : Bytes :=
  ascii "#SATSINFOA,0,0,0,0,0,0,0,0,0;1,0,0,0,0,0,7,0,0,0,40,0,1*d751f913"

/-- Its parser asks for room for one, and ends as if it had not asked. -/
theorem capacity_requests_oneSatellite :
    let math : MathFunctions := ⟨fun _ => 0, fun _ => 1⟩
    (∀ n ∈ (UnicoreParser.WithReserve.parseLine math oneSatelliteLine {}).requests, n ≤ 255) ∧
    run (fun n => n ≤ 255) (UnicoreParser.WithReserve.parseLine math oneSatelliteLine {}) =
      some (UnicoreParser.parseLine math oneSatelliteLine {}) := by
  intro math
  have hfields : UnicoreParser.lineFields (UnicoreParser.trim oneSatelliteLine) =
      value (UnicoreParser.splitFields
        (ascii "SATSINFOA,0,0,0,0,0,0,0,0,0;1,0,0,0,0,0,7,0,0,0,40,0,1")) := by decide +kernel
  obtain ⟨hiff, hrun⟩ := (capacity_requests_iff math).1 oneSatelliteLine {} _ hfields
  have hdeclared : ∀ count, UnicoreParser.DeclaresSatellites oneSatelliteLine
      (UnicoreParser.splitFields (ascii "SATSINFOA,0,0,0,0,0,0,0,0,0;1,0,0,0,0,0,7,0,0,0,40,0,1"))
      count → count ≤ 255 := by
    intro count h
    have hone : value count = (value 1 : Checked ℤ) :=
      h.count.symm.trans (by decide +kernel)
    rw [value.inj hone]
    decide
  exact ⟨hiff.mpr hdeclared, hrun hdeclared _ fun n hn => decide_eq_true hn⟩

/-- A SATSINFOA log that declares 2147483647 satellites and has none. -/
def manySatellitesLine : Bytes :=
  ascii "#SATSINFOA,0,0,0,0,0,0,0,0,0;2147483647,0,0,0,0,0*cf21bcad"

/-- **Room for 2147483647 satellites** is asked for by a line of 58 bytes. It is refused later, and
where there is no room for so many it ends in an exception. -/
theorem manySatellitesLine_asks :
    let math : MathFunctions := ⟨fun _ => 0, fun _ => 1⟩
    (UnicoreParser.WithReserve.parseLine math manySatellitesLine {}).requests = [2147483647] ∧
    (UnicoreParser.lineFields (UnicoreParser.trim manySatellitesLine)).toOption.map List.length =
      some 15 ∧
    run (fun n => n ≤ 10 ^ 9)
      (UnicoreParser.WithReserve.parseLine math manySatellitesLine {}) = none ∧
    UnicoreParser.parseLine math manySatellitesLine {} = value (none, { parseErrors := 1 }) := by
  decide +kernel

end UnicoreGnss
