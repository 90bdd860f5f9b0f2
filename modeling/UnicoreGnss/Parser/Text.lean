import UnicoreGnss.Lib.Cursor
import UnicoreGnss.Parser.Data
import Mathlib.Data.List.DropRight
import Mathlib.Data.Rat.Floor

/-!
# The text parser

`src/unicore_parser.cpp`. A line is trimmed, its checksum is tested, and the text between its first
character and its first `*` is cut at the commas. The first field decides which parser gets the
fields.

Every access `fields[i]` and every `substr` is a `Checked` operation that answers `outside` where
the source would leave its data; `std::nullopt` is `refused`. Output parameters that a failing
call leaves alone are modelled by its result; the one that it overwrites, the `double` of
`parse_double`, also by `parseDoubleInto`.

## Main definitions

* `UnicoreParser.parseLine` — one received line
-/

namespace UnicoreGnss

open CNumber Checked Cursor

/-- `'*'` -/
def star : UInt8 := 0x2A

/-- `','` -/
def comma : UInt8 := 0x2C

/-- `';'` -/
def semicolon : UInt8 := 0x3B

/-- `text.substr(pos, count)`, which throws beyond the end of the text. -/
def substr (text : Bytes) (pos count : ℕ) : Checked Bytes :=
  if pos ≤ text.length then value ((text.drop pos).take count) else outside

/-- **What `find` answers** is the place of the first such character. -/
theorem idxOf?_eq_some_iff_idxOf {c : UInt8} {text : Bytes} {i : ℕ} :
    text.idxOf? c = some i ↔ c ∈ text ∧ text.idxOf c = i := by
  rw [List.idxOf?, List.findIdx?_eq_some_iff_findIdx_eq]
  refine and_congr_left ?_
  rintro rfl
  exact List.idxOf_lt_length_iff

theorem idxOf?_of_mem {c : UInt8} {text : Bytes} (h : c ∈ text) :
    text.idxOf? c = some (text.idxOf c) :=
  idxOf?_eq_some_iff_idxOf.mpr ⟨h, rfl⟩

/-- The text a C function sees: up to the first NUL. -/
def cStr (text : Bytes) : Bytes := text.takeWhile (· ≠ 0)

theorem cStr_eq_self {text : Bytes} (h : (0 : UInt8) ∉ text) : cStr text = text := by
  rw [cStr, List.takeWhile_eq_self_iff]
  intro c hc
  have : c ≠ 0 := fun h0 => h (h0 ▸ hc)
  simpa using this

/-- `crc32_unicore` -/
def crc32Unicore (text : Bytes) : UInt32 := text.foldl crcByte 0

/-- `sentence_suffix`: the last three characters. -/
def sentenceSuffix (type : Bytes) : Bytes :=
  if type.length ≤ 3 then type else type.drop (type.length - 3)

/-- What follows the header of a log in the field that has both. -/
def fieldAfterSemicolon (field : Bytes) : Bytes :=
  match field.idxOf? semicolon with
  | none => field
  | some semi => field.drop (semi + 1)

/-- The text without a pair of quotes around it. -/
def trimAsciiQuotes (text : Bytes) : Bytes :=
  if 2 ≤ text.length ∧ text.head? = some 0x22 ∧ text.getLast? = some 0x22 then
    (text.drop 1).take (text.length - 2)
  else text

/-- The short name of a constellation; a name that is not known stays. -/
def normalizeConstellationName (text : Bytes) : Bytes :=
  if text = ascii "GPS" then ascii "GPS"
  else if text = ascii "GLONASS" ∨ text = ascii "GLO" then ascii "GLO"
  else if text = ascii "GALILEO" ∨ text = ascii "GAL" then ascii "GAL"
  else if text = ascii "BEIDOU" ∨ text = ascii "BDS" then ascii "BDS"
  else if text = ascii "QZSS" then ascii "QZSS"
  else if text = ascii "IRNSS" ∨ text = ascii "NAVIC" then ascii "IRNSS"
  else if text = ascii "SBAS" then ascii "SBAS"
  else text

namespace UnicoreParser

/-! ### Checksums, fields and numbers -/

/-- `validate_nmea_checksum` -/
def validateNmeaChecksum (line : Bytes) : Checked Bool :=
  if line.length < 4 ∨ line.head? ≠ some dollar then value false
  else
    match line.idxOf? star with
    | none => value false
    | some i =>
      if line.length ≤ i + 2 then value false
      else do
        let checksum := ((line.take i).drop 1).foldl (· ^^^ ·) 0
        let received := strtoul 16 (cStr (← substr line (i + 1) 2))
        pure (received.2 = [] ∧ checksum = UInt8.ofNat received.1)

/-- `validate_unicore_crc` -/
def validateUnicoreCrc (line : Bytes) : Checked Bool :=
  if line.length < 11 ∨ line.head? ≠ some hash then value false
  else
    match line.idxOf? star with
    | none => value false
    | some i =>
      if line.length ≤ i + 8 then value false
      else do
        let calculated := crc32Unicore (← substr line 1 (i - 1))
        let received := strtoul 16 (cStr (← substr line (i + 1) 8))
        pure (received.2 = [] ∧ calculated = UInt32.ofNat received.1)

/-- `split_fields` -/
def splitFields (payload : Bytes) : List Bytes := payload.splitOn comma

/-- `trim` -/
def trim (text : Bytes) : Bytes := (text.dropWhile isSpace).rdropWhile isSpace

/-- What `parse_double` leaves in its output parameter. -/
def parseDoubleInto (field : Bytes) (value : Double) : Double :=
  if field = [] then value else (strtod (cStr field)).1

/-- `parse_double`: only a finite number is accepted. -/
def parseDouble (field : Bytes) : Option ℚ :=
  let parsed := strtod (cStr field)
  if field = [] ∨ parsed.2 ≠ [] then none else parsed.1.toRat

/-- `parse_int`, which narrows the `long` to an `int`. -/
def parseInt (field : Bytes) : Option ℤ :=
  let parsed := strtol 10 (cStr field)
  if field = [] ∨ parsed.2 ≠ [] then none else some (toInt parsed.1)

/-- `parse_uint32` -/
def parseUint32 (base : ℕ) (field : Bytes) : Option UInt32 :=
  let parsed := strtoul base (cStr field)
  if field = [] ∨ parsed.2 ≠ [] ∨ 2 ^ 32 ≤ parsed.1 then none else some (UInt32.ofNat parsed.1)

/-- The divisor of the source is 100 for both axes, so its flag `is_latitude` has no effect. -/
def parseLatlon (valueField hemiField : Bytes) : Option ℚ := do
  let raw ← parseDouble valueField
  match hemiField with
  | [c] =>
    let whole : ℚ := ⌊raw / 100⌋
    let minutes := raw - whole * 100
    let degrees := whole + minutes / 60
    let hemi := if 0x61 ≤ c ∧ c ≤ 0x7A then c - 32 else c
    let degrees := if hemi = 0x53 ∨ hemi = 0x57 then -degrees else degrees
    if hemi = 0x4E ∨ hemi = 0x53 ∨ hemi = 0x45 ∨ hemi = 0x57 then some degrees else none
  | _ => none

/-- `parse_double(fields[i], …)` where a failure ends the parser. -/
def doubleAt (fields : List Bytes) (i : ℕ) : Checked ℚ := do ofOption (parseDouble (← get fields i))

/-- `parse_int(fields[i], …)` where a failure ends the parser. -/
def intAt (fields : List Bytes) (i : ℕ) : Checked ℤ := do ofOption (parseInt (← get fields i))

/-- `parse_uint32(fields[i], 16, …)` where a failure ends the parser. -/
def hexAt (fields : List Bytes) (i : ℕ) : Checked UInt32 := do
  ofOption (parseUint32 16 (← get fields i))

/-- `parse_int(field_after_semicolon(fields[i]), …)` where a failure ends the parser. -/
def dataIntAt (fields : List Bytes) (i : ℕ) : Checked ℤ := do
  ofOption (parseInt (fieldAfterSemicolon (← get fields i)))

/-- `fields.size() > i ? parse(fields[i]) : …`, for a parser whose failure ends nothing. -/
def fieldIfAny {α : Type} (fields : List Bytes) (i : ℕ) (parse : Bytes → α) (absent : α) :
    Checked α :=
  if i < fields.length then do return parse (← get fields i) else return absent

/-! ### Position types -/

/-- The GGA quality of the name of a position type. -/
def positionTypeToGgaQuality (text : Bytes) : ℤ :=
  if text = ascii "NONE" then 0
  else if text ∈ [ascii "FIXEDPOS", ascii "FIXEDHEIGHT"] then 1
  else if text = ascii "SINGLE" then 1
  else if text ∈ [ascii "PSRDIFF", ascii "DGPS"] then 2
  else if text ∈ [ascii "WAAS", ascii "SBAS"] then 9
  else if text ∈ [ascii "L1_FLOAT", ascii "IONOFREE_FLOAT", ascii "NARROW_FLOAT",
      ascii "RTK_FLOAT"] then 5
  else if text ∈ [ascii "L1_INT", ascii "WIDE_INT", ascii "NARROW_INT", ascii "RTK_FIXED"] then 4
  else if text = ascii "INS" then 1
  else if text = ascii "INS_PSRSP" then 1
  else if text = ascii "INS_PSRDIFF" then 2
  else if text = ascii "INS_RTKFLOAT" then 5
  else if text = ascii "INS_RTKFIXED" then 4
  else if text ∈ [ascii "PPP_CONVERGING", ascii "PPP"] then 1
  else
    match parseInt text with
    | none => 0
    | some code =>
      if code = 0 then 0
      else if code ∈ [1, 2] then 1
      else if code = 16 then 1
      else if code = 17 then 2
      else if code = 18 then 9
      else if code ∈ [32, 33, 34] then 5
      else if code ∈ [48, 49, 50] then 4
      else if code = 52 then 1
      else if code = 53 then 1
      else if code = 54 then 2
      else if code = 55 then 5
      else if code = 56 then 4
      else if code ∈ [68, 69] then 1
      else 0

/-! ### Sentences -/

/-- `parse_gga` -/
def parseGga (fields : List Bytes) : Checked ParsedSentence := do
  require (10 ≤ fields.length)
  let latitude ← ofOption (parseLatlon (← get fields 2) (← get fields 3))
  let longitude ← ofOption (parseLatlon (← get fields 4) (← get fields 5))
  let quality := parseInt (← get fields 6)
  let satellites ← fieldIfAny fields 7 parseInt none
  let hdop ← fieldIfAny fields 8 parseDouble none
  let altitudeMsl := parseDouble (← get fields 9)
  let geoidSeparation ← fieldIfAny fields 11 parseDouble none
  return {
    sentenceType := ascii "GGA"
    fix := some {
      source := .gga
      validFix := match quality with
        | some q => q > 0
        | none => false
      latitudeDeg := latitude
      longitudeDeg := longitude
      altitudeM := match altitudeMsl with
        | some a => a + geoidSeparation.getD 0
        | none => 0
      fixQuality := quality.getD 0
      satellites := satellites.getD (-1)
      hdop := .finite (hdop.getD (-1))
      hasCovariance := false } }

/-- `parse_hdt` -/
def parseHdt (fields : List Bytes) : Checked ParsedSentence := do
  require (2 ≤ fields.length)
  let heading ← doubleAt fields 1
  return {
    sentenceType := ascii "HDT"
    heading := some { source := .hdt, headingDeg := heading, varianceDeg2 := 0 } }

/-- `parse_hpr` -/
def parseHpr (fields : List Bytes) : Checked ParsedSentence := do
  require (5 ≤ fields.length)
  let heading ← doubleAt fields 2
  let pitch ← doubleAt fields 3
  let roll ← doubleAt fields 4
  return {
    sentenceType := ascii "HPR"
    heading := some {
      source := .hpr
      headingDeg := heading
      pitchDeg := some pitch
      rollDeg := some roll
      varianceDeg2 := 0 } }

/-- The position type is glued to the last field of the header by a semicolon. The `hdop` is what
`parse_double` leaves behind, whether it succeeds or not. -/
def parsePvtslna (fields : List Bytes) : Checked ParsedSentence := do
  require (15 < fields.length)
  let bestposHeightMsl ← doubleAt fields 10
  let latitude ← doubleAt fields 11
  let longitude ← doubleAt fields 12
  let altitudeStd ← doubleAt fields 13
  let latitudeStd ← doubleAt fields 14
  let longitudeStd ← doubleAt fields 15
  let quality := positionTypeToGgaQuality (fieldAfterSemicolon (← get fields 9))
  let undulation ← fieldIfAny fields 21 parseDouble none
  let trackedSatellites ← fieldIfAny fields 22 (fun field => (parseInt field).getD (-1)) (-1)
  let solutionSatellites ← fieldIfAny fields 23 (fun field => (parseInt field).getD (-1)) (-1)
  let hdop ← fieldIfAny fields 39 (fun field => parseDoubleInto field (.finite (-1))) (.finite (-1))
  return {
    sentenceType := ascii "PVTSLNA"
    fix := some {
      source := .pvtslna
      validFix := quality > 0
      fixQuality := quality
      latitudeDeg := latitude
      longitudeDeg := longitude
      altitudeM := bestposHeightMsl + undulation.getD 0
      satellites := if solutionSatellites ≥ 0 then solutionSatellites else trackedSatellites
      hdop := hdop
      hasCovariance := true
      covariance := diagonalCovariance longitudeStd latitudeStd altitudeStd } }

/-- With too few fields for the documented layout, the last five are a velocity. -/
def parseBestnava (math : MathFunctions) (fields : List Bytes) : Checked ParsedSentence := do
  if fields.length ≤ 38 then
    require (6 ≤ fields.length)
    let horizontalSpeed ← doubleAt fields (fields.length - 5)
    let trackDeg ← doubleAt fields (fields.length - 4)
    let upSpeed ← doubleAt fields (fields.length - 3)
    let verticalStd ← doubleAt fields (fields.length - 2)
    let horizontalStd ← doubleAt fields (fields.length - 1)
    return {
      sentenceType := ascii "BESTNAVA"
      velocity := some
        (velocityFromTrack math horizontalSpeed trackDeg upSpeed horizontalStd verticalStd) }
  else
    let latitude ← doubleAt fields 11
    let longitude ← doubleAt fields 12
    let heightMsl ← doubleAt fields 13
    let undulation ← doubleAt fields 14
    let latitudeStd ← doubleAt fields 16
    let longitudeStd ← doubleAt fields 17
    let heightStd ← doubleAt fields 18
    let diffAge ← doubleAt fields 20
    let solAge ← doubleAt fields 21
    let trackedSatellites ← intAt fields 22
    let solutionSatellites ← intAt fields 23
    let extendedSolutionStatus ← hexAt fields 27
    let velocityLatency ← doubleAt fields 32
    let velocityAge ← doubleAt fields 33
    let horizontalSpeed ← doubleAt fields 34
    let trackDeg ← doubleAt fields 35
    let verticalSpeed ← doubleAt fields 36
    let verticalStd ← doubleAt fields 37
    let horizontalStd ← doubleAt fields 38
    let positionSolutionStatus := fieldAfterSemicolon (← get fields 9)
    let positionType ← get fields 10
    let velocitySolutionStatus ← get fields 30
    let velocityType ← get fields 31
    let galileoBds3SignalMask := (parseUint32 16 (← get fields 28)).getD 0
    let gpsGlonassBds2SignalMask := (parseUint32 16 (← get fields 29)).getD 0
    let baseStationId := trimAsciiQuotes (← get fields 19)
    return {
      sentenceType := ascii "BESTNAVA"
      bestnav := some {
        solutionStatus := positionSolutionStatus
        positionType := positionType
        fixQuality := positionTypeToGgaQuality positionType
        latitudeDeg := latitude
        longitudeDeg := longitude
        heightMslM := heightMsl
        undulationM := undulation
        latitudeStdM := latitudeStd
        longitudeStdM := longitudeStd
        heightStdM := heightStd
        baseStationId := baseStationId
        diffAgeSec := diffAge
        solAgeSec := solAge
        satellitesTracked := trackedSatellites
        satellitesUsed := solutionSatellites
        extendedSolutionStatus := toInt extendedSolutionStatus.toNat
        galileoBds3SignalMask := toInt galileoBds3SignalMask.toNat
        gpsGlonassBds2SignalMask := toInt gpsGlonassBds2SignalMask.toNat
        velocitySolutionStatus := velocitySolutionStatus
        velocityType := velocityType
        velocityLatencySec := velocityLatency
        velocityAgeSec := velocityAge
        horizontalSpeedMps := horizontalSpeed
        trackOverGroundDeg := trackDeg
        verticalSpeedMps := verticalSpeed
        verticalSpeedStdMps := verticalStd
        horizontalSpeedStdMps := horizontalStd }
      velocity := some
        (velocityFromTrack math horizontalSpeed trackDeg verticalSpeed horizontalStd verticalStd) }

/-- `parse_rtkstatusa` -/
def parseRtkstatusa (fields : List Bytes) : Checked ParsedSentence := do
  require (24 < fields.length)
  let gpsSourceMask ← ofOption (parseUint32 16 (fieldAfterSemicolon (← get fields 9)))
  let bdsSourceMask1 ← hexAt fields 11
  let bdsSourceMask2 ← hexAt fields 12
  let glonassSourceMask ← hexAt fields 14
  let galileoSourceMask1 ← hexAt fields 16
  let galileoSourceMask2 ← hexAt fields 17
  let qzssSourceMask ← hexAt fields 18
  let calculateStatus ← intAt fields 21
  let ionDetected ← intAt fields 22
  let dualRtkFlag ← intAt fields 23
  let adrObservationCount ← intAt fields 24
  let positionType ← get fields 20
  return {
    sentenceType := ascii "RTKSTATUSA"
    rtkStatus := some {
      gpsSourceMask, bdsSourceMask1, bdsSourceMask2, glonassSourceMask, galileoSourceMask1,
      galileoSourceMask2, qzssSourceMask, positionType,
      fixQuality := positionTypeToGgaQuality positionType,
      calculateStatus, ionDetected, dualRtkFlag, adrObservationCount } }

/-- `parse_rtcmstatusa` -/
def parseRtcmstatusa (fields : List Bytes) : Checked ParsedSentence := do
  require (18 < fields.length)
  let messageId ← dataIntAt fields 9
  let messageCount ← intAt fields 10
  let baseStationId ← intAt fields 11
  let satelliteCount ← intAt fields 12
  let observableCount ← forRange (fun i => intAt fields (13 + i)) 6
  return {
    sentenceType := ascii "RTCMSTATUSA"
    rtcmStatus := some { messageId, messageCount, baseStationId, satelliteCount, observableCount } }

/-- The body of the loop of `parse_bestsata`. -/
def bestsataEntry (fields : List Bytes) (cursor : ℕ) : Checked BestSatEntry := do
  let signalMask ← hexAt fields (cursor + 3)
  let constellation := normalizeConstellationName (← get fields cursor)
  return {
    constellation := constellation
    satelliteId := ← get fields (cursor + 1)
    status := ← get fields (cursor + 2)
    signalMask := toInt signalMask.toNat
    commonView := signalMask &&& 0x10 ≠ 0
    usedSignalBands := bestsatSignalBands constellation signalMask }

/-- `parse_bestsata` -/
def parseBestsata (fields : List Bytes) : Checked ParsedSentence := do
  require (9 < fields.length)
  let entryCount ← dataIntAt fields 9
  require (0 ≤ entryCount)
  require (10 + entryCount.toNat * 4 ≤ fields.length)
  let entries ← forRange (fun i => bestsataEntry fields (10 + i * 4)) entryCount.toNat
  return {
    sentenceType := ascii "BESTSATA"
    bestsat := some { entryCount, entries } }

/-- `parse_agca` -/
def parseAgca (fields : List Bytes) : Checked ParsedSentence := do
  require (16 < fields.length)
  let ant1L1 ← dataIntAt fields 9
  let ant1L2 ← intAt fields 10
  let ant1L5 ← intAt fields 11
  let ant2L1 ← intAt fields 14
  let ant2L2 ← intAt fields 15
  let ant2L5 ← intAt fields 16
  return {
    sentenceType := ascii "AGCA"
    agc := some {
      antenna1 := triple ant1L1 ant1L2 ant1L5
      antenna2 := triple ant2L1 ant2L2 ant2L5 } }

/-- `parse_hwstatusa` -/
def parseHwstatusa (fields : List Bytes) : Checked ParsedSentence := do
  require (18 < fields.length)
  let dc09V ← doubleAt fields 10
  let dc10V ← doubleAt fields 11
  let dc18V ← doubleAt fields 12
  let clockFlag ← intAt fields 13
  let clockDriftMps ← doubleAt fields 14
  let hwFlag ← hexAt fields 16
  let pllLock ← hexAt fields 18
  return {
    sentenceType := ascii "HWSTATUSA"
    hwStatus := some {
      dc09V, dc10V, dc18V, clockFlag, clockDriftMps,
      hwFlag := toInt hwFlag.toNat
      pllLock := toInt pllLock.toNat } }

/-- `parse_jamstatusa` -/
def parseJamstatusa (fields : List Bytes) : Checked ParsedSentence := do
  require (11 < fields.length)
  let cwRatio ← intAt fields 10
  let cwFlag ← intAt fields 11
  let positionType := fieldAfterSemicolon (← get fields 9)
  return {
    sentenceType := ascii "JAMSTATUSA"
    jamStatus := some { positionType, cwRatio, cwFlag } }

/-- `parse_freqjamstatusa` -/
def parseFreqjamstatusa (fields : List Bytes) : Checked ParsedSentence := do
  require (15 < fields.length)
  let positionType := fieldAfterSemicolon (← get fields 9)
  let l1Ratio ← intAt fields 10
  let l1Flag ← intAt fields 11
  let l2Ratio ← intAt fields 12
  let l2Flag ← intAt fields 13
  let l5Ratio ← intAt fields 14
  let l5Flag ← intAt fields 15
  return {
    sentenceType := ascii "FREQJAMSTATUSA"
    freqJamStatus := some {
      positionType
      cwRatio := triple l1Ratio l2Ratio l5Ratio
      cwFlag := triple l1Flag l2Flag l5Flag } }

/-- `parse_gsv` -/
def parseGsv (talker : Bytes) (fields : List Bytes) : Checked ParsedSentence := do
  require (4 ≤ fields.length)
  let totalInView ← intAt fields 3
  return {
    sentenceType := ascii "GSV"
    gsv := some { talker, satellitesInView := totalInView } }

/-- What `parse_satsinfoa` makes of the three numbers of a signal. -/
def satsinfoaSignal (systemId cn0 frequencyId : ℤ) : SatsInfoSignal where
  constellation := constellationNameFromSystemId systemId
  band := signalBandFromFrequencyId (constellationNameFromSystemId systemId) frequencyId
  systemId := systemId
  frequencyId := frequencyId
  cn0DbHz := cn0

/-- The body of the inner loop of `parse_satsinfoa`: a further frequency of a satellite. -/
def satsinfoaExtraSignal (fields : List Bytes) (cursor : ℕ) : Checked (SatsInfoSignal × ℕ) := do
  require (cursor + 3 < fields.length)
  let systemId ← intAt fields cursor
  let cn0 ← intAt fields (cursor + 1)
  let frequencyId ← intAt fields (cursor + 2)
  let _repeatedFrequencyCount ← intAt fields (cursor + 3)
  return (satsinfoaSignal systemId cn0 frequencyId, cursor + 4)

/-- The body of the outer loop of `parse_satsinfoa`: a satellite with its first frequency. -/
def satsinfoaSatellite (fields : List Bytes) (cursor : ℕ) : Checked (SatsInfoEntry × ℕ) := do
  require (cursor + 6 < fields.length)
  let prn ← intAt fields cursor
  let azimuth ← intAt fields (cursor + 1)
  let elevation ← intAt fields (cursor + 2)
  let systemId ← intAt fields (cursor + 3)
  let cn0 ← intAt fields (cursor + 4)
  let frequencyId ← intAt fields (cursor + 5)
  let frequencyCount ← intAt fields (cursor + 6)
  require (0 < frequencyCount)
  let (extraSignals, cursor) ←
    readMany satsinfoaExtraSignal (frequencyCount - 1).toNat fields (cursor + 7)
  return ({
    constellation := constellationNameFromSystemId systemId
    prn := prn
    azimuthDeg := azimuth
    elevationDeg := elevation
    signals := satsinfoaSignal systemId cn0 frequencyId :: extraSignals }, cursor)

/-- `parse_satsinfoa` -/
def parseSatsinfoa (fields : List Bytes) : Checked ParsedSentence := do
  require (14 < fields.length)
  let satelliteCount ← dataIntAt fields 9
  let version ← intAt fields 10
  let frequencyFlag ← intAt fields 14
  require (0 ≤ satelliteCount)
  let (entries, _) ← readMany satsinfoaSatellite satelliteCount.toNat fields 15
  return {
    sentenceType := ascii "SATSINFOA"
    satsinfo := some { satelliteCount, version, frequencyFlag, entries } }

/-! ### Lines -/

/-- The parser of a `$` sentence, by the last three characters of its first field. -/
def nmeaParser (first : Bytes) (fields : List Bytes) : Option (Checked ParsedSentence) :=
  let suffix := sentenceSuffix first
  if suffix = ascii "GGA" then some (parseGga fields)
  else if suffix = ascii "HDT" then some (parseHdt fields)
  else if suffix = ascii "HPR" then some (parseHpr fields)
  else if suffix = ascii "GSV" then
    some (parseGsv (if 5 ≤ first.length then first.take 2 else ascii "GN") fields)
  else none

/-- The parser of a `#` log, by its first field. -/
def unicoreParser (math : MathFunctions) (first : Bytes) (fields : List Bytes) :
    Option (Checked ParsedSentence) :=
  if first = ascii "PVTSLNA" then some (parsePvtslna fields)
  else if first = ascii "BESTNAVA" then some (parseBestnava math fields)
  else if first = ascii "RTKSTATUSA" then some (parseRtkstatusa fields)
  else if first = ascii "RTCMSTATUSA" then some (parseRtcmstatusa fields)
  else if first = ascii "BESTSATA" then some (parseBestsata fields)
  else if first = ascii "SATSINFOA" then some (parseSatsinfoa fields)
  else if first = ascii "AGCA" then some (parseAgca fields)
  else if first = ascii "HWSTATUSA" then some (parseHwstatusa fields)
  else if first = ascii "JAMSTATUSA" then some (parseJamstatusa fields)
  else if first = ascii "FREQJAMSTATUSA" then some (parseFreqjamstatusa fields)
  else none

/-- What a chain of alternatives answers is one of them. -/
theorem eq_or_of_ite_eq_some {α : Type} {p : Prop} [Decidable p] {a b : α} {rest : Option α}
    (h : (if p then some a else rest) = some b) : a = b ∨ rest = some b := by
  split at h
  · exact .inl (Option.some.inj h)
  · exact .inr h

/-- What one of the parsers of `$` sentences makes of the fields. -/
inductive NmeaSentence (fields : List Bytes) : Checked ParsedSentence → Prop
  | gga : NmeaSentence fields (parseGga fields)
  | hdt : NmeaSentence fields (parseHdt fields)
  | hpr : NmeaSentence fields (parseHpr fields)
  | gsv (talker : Bytes) : NmeaSentence fields (parseGsv talker fields)

/-- What one of the parsers of `#` logs makes of the fields. -/
inductive UnicoreLog (math : MathFunctions) (fields : List Bytes) : Checked ParsedSentence → Prop
  | pvtslna : UnicoreLog math fields (parsePvtslna fields)
  | bestnava : UnicoreLog math fields (parseBestnava math fields)
  | rtkstatusa : UnicoreLog math fields (parseRtkstatusa fields)
  | rtcmstatusa : UnicoreLog math fields (parseRtcmstatusa fields)
  | bestsata : UnicoreLog math fields (parseBestsata fields)
  | satsinfoa : UnicoreLog math fields (parseSatsinfoa fields)
  | agca : UnicoreLog math fields (parseAgca fields)
  | hwstatusa : UnicoreLog math fields (parseHwstatusa fields)
  | jamstatusa : UnicoreLog math fields (parseJamstatusa fields)
  | freqjamstatusa : UnicoreLog math fields (parseFreqjamstatusa fields)

section Chosen

variable {math : MathFunctions} {first : Bytes} {fields : List Bytes}
  {parsed : Checked ParsedSentence}

theorem nmeaSentence_of_nmeaParser (h : nmeaParser first fields = some parsed) :
    NmeaSentence fields parsed := by
  rcases eq_or_of_ite_eq_some h with rfl | h
  · exact .gga
  rcases eq_or_of_ite_eq_some h with rfl | h
  · exact .hdt
  rcases eq_or_of_ite_eq_some h with rfl | h
  · exact .hpr
  rcases eq_or_of_ite_eq_some h with rfl | h
  · exact .gsv _
  · cases h

theorem unicoreLog_of_unicoreParser (h : unicoreParser math first fields = some parsed) :
    UnicoreLog math fields parsed := by
  rcases eq_or_of_ite_eq_some h with rfl | h
  · exact .pvtslna
  rcases eq_or_of_ite_eq_some h with rfl | h
  · exact .bestnava
  rcases eq_or_of_ite_eq_some h with rfl | h
  · exact .rtkstatusa
  rcases eq_or_of_ite_eq_some h with rfl | h
  · exact .rtcmstatusa
  rcases eq_or_of_ite_eq_some h with rfl | h
  · exact .bestsata
  rcases eq_or_of_ite_eq_some h with rfl | h
  · exact .satsinfoa
  rcases eq_or_of_ite_eq_some h with rfl | h
  · exact .agca
  rcases eq_or_of_ite_eq_some h with rfl | h
  · exact .hwstatusa
  rcases eq_or_of_ite_eq_some h with rfl | h
  · exact .jamstatusa
  rcases eq_or_of_ite_eq_some h with rfl | h
  · exact .freqjamstatusa
  · cases h

end Chosen

/-- What a chosen parser made of the fields, counted as a sentence or as an error. -/
def countParsed (parsed : Option (Checked ParsedSentence)) (counters : ParserCounters) :
    Checked (Option ParsedSentence × ParserCounters) :=
  match parsed with
  | none => value (none, counters)
  | some parsed => do
    match ← attempt parsed with
    | some sentence =>
      return (some sentence, { counters with parsedSentences := counters.parsedSentences + 1 })
    | none => return (none, { counters with parseErrors := counters.parseErrors + 1 })

/-- The fields between the first character and the first `*`. -/
def lineFields (trimmed : Bytes) : Checked (List Bytes) := do
  return splitFields (← substr trimmed 1 (trimmed.idxOf star - 1))

/-- `parse_line`. The source keeps the counters in a mutable member. -/
def parseLine (math : MathFunctions) (line : Bytes) (counters : ParserCounters) :
    Checked (Option ParsedSentence × ParserCounters) := do
  let trimmed := trim line
  if trimmed.head? = some dollar then
    if ← validateNmeaChecksum trimmed then
      let fields ← lineFields trimmed
      countParsed (fields.head?.bind fun first => nmeaParser first fields) counters
    else
      return (none, { counters with nmeaChecksumErrors := counters.nmeaChecksumErrors + 1 })
  else if trimmed.head? = some hash then
    if ← validateUnicoreCrc trimmed then
      let fields ← lineFields trimmed
      countParsed (fields.head?.bind fun first => unicoreParser math first fields) counters
    else
      return (none, { counters with unicoreCrcErrors := counters.unicoreCrcErrors + 1 })
  else return (none, counters)

end UnicoreParser

end UnicoreGnss
