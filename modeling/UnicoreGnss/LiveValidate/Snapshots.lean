import Mathlib.Data.Int.Bitwise
import UnicoreGnss.Lib.Ieee754
import UnicoreGnss.LiveValidate.Fixes
import UnicoreGnss.LiveValidate.Satsinfo

/-!
# The validator's snapshots

What `tools/unicore_live_validate.py` keeps of a log: one parser for each text log and one for each
binary frame. GGA, PVTSLNA and the two SATSINFO parsers have modules of their own.

A parser `refuses` where the source returns `None`. It answers `outside` where Python would raise
an exception: `fields[i]` out of range, `float(None)`, and `float` of too large an integer, which a
text can hold, but no frame. The numbers of a snapshot are exact, and `none` is its `nan`. Where the
text has a name and the frame has a code, the type of the two is a parameter.

## Main definitions

* `parseBestnava`, `parseRtkstatusa`, ... — the text logs
* `parseBestnavb`, `parseRtkstatusb`, ... — the binary frames
* `parseFrame` — the parser of a message id
-/

namespace UnicoreGnss.LiveValidate

open CNumber Checked Ieee754 LittleEndian Summaries

/-! ### Snapshots -/

/-- What the summary has of a BESTNAV. The texts are codes in a binary one. -/
structure BestnavSnapshot (τ : Type) where
  solutionStatus : τ
  positionType : τ
  fixQuality : ℤ
  latitudeDeg : ℚ
  longitudeDeg : ℚ
  heightMslM : ℚ
  undulationM : ℚ
  altitudeM : ℚ
  latitudeStdM : ℚ
  longitudeStdM : ℚ
  heightStdM : ℚ
  diffAgeSec : ℚ
  solAgeSec : ℚ
  satellitesTracked : ℤ
  satellitesUsed : ℤ
  extendedSolutionStatus : ℤ
  galileoBds3SignalMask : ℤ
  gpsGlonassBds2SignalMask : ℤ
  deriving DecidableEq, Repr

/-- The velocity of a BESTNAV. -/
structure VelocitySnapshot (τ : Type) where
  velocitySolutionStatus : τ
  velocityType : τ
  velocityLatencySec : ℚ
  velocityAgeSec : ℚ
  horizontalSpeedMps : ℚ
  trackOverGroundDeg : ℚ
  verticalSpeedMps : ℚ
  verticalSpeedStdMps : ℚ
  horizontalSpeedStdMps : ℚ
  deriving DecidableEq, Repr

/-- What the summary has of a PVTSLNB. -/
structure PvtslnbSnapshot where
  bestposTypeCode : ℕ
  fixQuality : ℤ
  latitudeDeg : ℚ
  longitudeDeg : ℚ
  altitudeM : ℚ
  altitudeStdM : ℚ
  latitudeStdM : ℚ
  longitudeStdM : ℚ
  undulationM : ℚ
  satellites : ℤ
  hdop : ℚ
  deriving DecidableEq, Repr

/-- What the summary has of an RTKSTATUS. -/
structure RtkstatusSnapshot (τ : Type) where
  gpsSourceMask : ℤ
  bdsSourceMask1 : ℤ
  bdsSourceMask2 : ℤ
  glonassSourceMask : ℤ
  galileoSourceMask1 : ℤ
  galileoSourceMask2 : ℤ
  qzssSourceMask : ℤ
  positionType : τ
  fixQuality : ℤ
  calculateStatus : ℤ
  ionDetected : ℤ
  dualRtkFlag : ℤ
  adrObservationCount : ℤ
  deriving DecidableEq, Repr

/-- What the summary has of an RTCMSTATUS. -/
structure RtcmstatusSnapshot where
  messageId : ℤ
  messageCount : ℤ
  baseStationId : ℤ
  satelliteCount : ℤ
  /-- `l1` to `l6` -/
  observables : List ℤ
  deriving DecidableEq, Repr

/-- Used satellites by constellation and signals by band. -/
structure BestsatSnapshot where
  entryCount : ℤ
  usedTotal : ℤ
  used : Table Text
  signal : Table Text

/-- The mean gains of the two antennas. -/
structure AgcSnapshot where
  agcMainMean : Option ℚ
  agcAuxMean : Option ℚ
  deriving DecidableEq, Repr

/-- What the summary has of an HWSTATUS. -/
structure HwstatusSnapshot where
  dc09V : ℚ
  dc10V : ℚ
  dc18V : ℚ
  clockFlag : ℤ
  clockDriftMps : ℚ
  hwFlag : ℤ
  pllLock : ℤ
  deriving DecidableEq, Repr

/-- Only the frame's snapshot has a fix quality. -/
structure JamstatusSnapshot (τ : Type) where
  positionType : τ
  fixQuality : Option ℤ := none
  cwRatio : ℤ
  cwFlag : ℤ
  deriving DecidableEq, Repr

/-- What the summary has of a FREQJAMSTATUS. -/
structure FreqjamstatusSnapshot (τ : Type) where
  positionType : τ
  /-- The ratios and the flags of `l1`, `l2` and `l5`, in turn. -/
  bands : List ℤ
  deriving DecidableEq, Repr

/-- What the summary has of an OBSVMCMPB. -/
structure ObsvmcmpSnapshot where
  observationCount : ℤ
  rawCn0MeanDbHz : Option ℚ
  rawCn0MaxDbHz : Option ℚ
  rawConstellation : Table Text
  rawSignal : Table Text

/-! ### Text logs -/

/-- `parse_int(fields[i], 16)` where `None` ends the parser. -/
def hexAt (fields : List Text) (i : ℕ) : Checked ℤ := do
  ofOption (parseInt (← get fields i) 16)

/-- `parse_int(field_after_semicolon(fields[9]), base)` where `None` ends the parser. -/
def firstIntAt (fields : List Text) (base : ℕ) : Checked ℤ := do
  ofOption (parseInt (fieldAfterSemicolon (← get fields 9)) base)

/-- `float(number)`, which raises a `TypeError` for `None`. -/
def floatOf (number : Option ℚ) : Checked ℚ := number.elim outside value

/-- `_parse_bestnava`. The latency and the age of the velocity are not among the fields that must
not be `None`. -/
def parseBestnava (fields : List Text) :
    Checked (BestnavSnapshot Text × VelocitySnapshot Text) := do
  require (38 < fields.length)
  let solutionStatus := fieldAfterSemicolon (← get fields 9)
  let positionType ← get fields 10
  let latitude ← floatAt fields 11
  let longitude ← floatAt fields 12
  let heightMsl ← floatAt fields 13
  let undulation ← floatAt fields 14
  let latitudeStd ← floatAt fields 16
  let longitudeStd ← floatAt fields 17
  let heightStd ← floatAt fields 18
  let diffAge ← floatAt fields 20
  let solAge ← floatAt fields 21
  let tracked := parseInt (← get fields 22) 10
  let used := parseInt (← get fields 23) 10
  let extStatus := parseInt (← get fields 27) 16
  let galBds3Mask := parseInt (← get fields 28) 16
  let gpsGloBds2Mask := parseInt (← get fields 29) 16
  let velocityStatus ← get fields 30
  let velocityType ← get fields 31
  let velocityLatency := parseFloat (← get fields 32)
  let velocityAge := parseFloat (← get fields 33)
  let horizontalSpeed ← floatAt fields 34
  let trackDeg ← floatAt fields 35
  let verticalSpeed ← floatAt fields 36
  let verticalStd ← floatAt fields 37
  let horizontalStd ← floatAt fields 38
  let satellitesTracked ← floatOfInt (tracked.getD (-1))
  let satellitesUsed ← floatOfInt (used.getD (-1))
  let extendedSolutionStatus ← floatOfInt (extStatus.getD (-1))
  let galileoBds3SignalMask ← floatOfInt (galBds3Mask.getD (-1))
  let gpsGlonassBds2SignalMask ← floatOfInt (gpsGloBds2Mask.getD (-1))
  let velocityLatency ← floatOf velocityLatency
  let velocityAge ← floatOf velocityAge
  return ({
    solutionStatus, positionType
    fixQuality := positionTypeToQuality positionType
    latitudeDeg := latitude
    longitudeDeg := longitude
    heightMslM := heightMsl
    undulationM := undulation
    altitudeM := heightMsl + undulation
    latitudeStdM := latitudeStd
    longitudeStdM := longitudeStd
    heightStdM := heightStd
    diffAgeSec := diffAge
    solAgeSec := solAge
    satellitesTracked, satellitesUsed, extendedSolutionStatus, galileoBds3SignalMask,
    gpsGlonassBds2SignalMask }, {
    velocitySolutionStatus := velocityStatus
    velocityType
    velocityLatencySec := velocityLatency
    velocityAgeSec := velocityAge
    horizontalSpeedMps := horizontalSpeed
    trackOverGroundDeg := trackDeg
    verticalSpeedMps := verticalSpeed
    verticalSpeedStdMps := verticalStd
    horizontalSpeedStdMps := horizontalStd })

/-- `_parse_rtkstatusa` -/
def parseRtkstatusa (fields : List Text) : Checked (RtkstatusSnapshot Text) := do
  require (24 < fields.length)
  let gpsSourceMask ← firstIntAt fields 16
  let bdsSourceMask1 ← hexAt fields 11
  let bdsSourceMask2 ← hexAt fields 12
  let glonassSourceMask ← hexAt fields 14
  let galileoSourceMask1 ← hexAt fields 16
  let galileoSourceMask2 ← hexAt fields 17
  let qzssSourceMask ← hexAt fields 18
  let positionType ← get fields 20
  let calculateStatus ← intAt fields 21
  let ionDetected ← intAt fields 22
  let dualRtkFlag ← intAt fields 23
  let adrObservationCount ← intAt fields 24
  return {
    gpsSourceMask := ← floatOfInt gpsSourceMask
    bdsSourceMask1 := ← floatOfInt bdsSourceMask1
    bdsSourceMask2 := ← floatOfInt bdsSourceMask2
    glonassSourceMask := ← floatOfInt glonassSourceMask
    galileoSourceMask1 := ← floatOfInt galileoSourceMask1
    galileoSourceMask2 := ← floatOfInt galileoSourceMask2
    qzssSourceMask := ← floatOfInt qzssSourceMask
    positionType
    fixQuality := positionTypeToQuality positionType
    calculateStatus := ← floatOfInt calculateStatus
    ionDetected := ← floatOfInt ionDetected
    dualRtkFlag := ← floatOfInt dualRtkFlag
    adrObservationCount := ← floatOfInt adrObservationCount }

/-- `_parse_rtcmstatusa` -/
def parseRtcmstatusa (fields : List Text) : Checked RtcmstatusSnapshot := do
  require (18 < fields.length)
  let messageId ← firstIntAt fields 10
  let messageCount ← intAt fields 10
  let baseStationId ← intAt fields 11
  let satelliteCount ← intAt fields 12
  let observables ← forRange (fun i => intAt fields (13 + i)) 6
  return {
    messageId := ← floatOfInt messageId
    messageCount := ← floatOfInt messageCount
    baseStationId := ← floatOfInt baseStationId
    satelliteCount := ← floatOfInt satelliteCount
    observables := ← observables.mapM floatOfInt }

/-- `normalize_constellation_name`, which is the driver's. -/
def normalizeConstellationName (text : Text) : Text :=
  if text = ascii "GPS" then ascii "GPS"
  else if text = ascii "GLONASS" ∨ text = ascii "GLO" then ascii "GLO"
  else if text = ascii "GALILEO" ∨ text = ascii "GAL" then ascii "GAL"
  else if text = ascii "BEIDOU" ∨ text = ascii "BDS" then ascii "BDS"
  else if text = ascii "QZSS" then ascii "QZSS"
  else if text = ascii "IRNSS" ∨ text = ascii "NAVIC" then ascii "IRNSS"
  else if text = ascii "SBAS" then ascii "SBAS"
  else text

/-- `bestsat_signal_bands`. Bit `i` is tested by `signal_mask & (1 << i)`. -/
def bestsatSignalBands (constellation : Text) (signalMask : ℤ) : List Text :=
  let band (i : ℕ) (name : Text) : List Text := if signalMask.testBit i then [name] else []
  if constellation = ascii "GPS" then
    band 0 (ascii "L1") ++ band 1 (ascii "L2") ++ band 2 (ascii "L5")
  else if constellation = ascii "GLO" then
    band 0 (ascii "L1") ++ band 1 (ascii "L2") ++ band 2 (ascii "L3")
  else if constellation = ascii "BDS" then
    band 0 (ascii "B1") ++ band 1 (ascii "B2") ++ band 2 (ascii "B3")
  else if constellation = ascii "GAL" then
    band 0 (ascii "E1") ++ band 1 (ascii "E5") ++ band 2 (ascii "E5") ++ band 3 (ascii "E6")
  else []

/-- An entry is counted by either parser of BESTSAT. -/
def countUsed (constellation : Text) (signalMask : ℤ) (tables : Table Text × Table Text) :
    Table Text × Table Text :=
  (add tables.1 constellation, addAll tables.2 (bestsatSignalBands constellation signalMask))

/-- The snapshot of either parser of BESTSAT. -/
def bestsatSnapshot (entryCount : ℤ) (tables : Table Text × Table Text) : BestsatSnapshot where
  entryCount := entryCount
  usedTotal := entryCount
  used := tables.1
  signal := tables.2

/-- `_parse_bestsata` -/
def parseBestsata (fields : List Text) : Checked BestsatSnapshot := do
  require (9 < fields.length)
  let entryCount ← firstIntAt fields 10
  require (0 ≤ entryCount)
  require (10 + entryCount * 4 ≤ fields.length)
  let tables ← foldRange (fun tables i => do
    let constellation := normalizeConstellationName (← get fields (10 + i * 4))
    let signalMask ← hexAt fields (10 + i * 4 + 3)
    return countUsed constellation signalMask tables) entryCount.toNat
      (zeros primaryConstellations, zeros primarySignals)
  return bestsatSnapshot (← floatOfInt entryCount) tables

/-- The mean of the gains that are valid. -/
def validMean (gains : List ℤ) : Option ℚ :=
  mean ((gains.filter (0 ≤ ·)).map fun gain => (gain : ℚ))

/-- The same for the gains of a text. The quotient of two integers raises an `OverflowError` for the
same numbers as `float`. -/
def validMeanOfInts (gains : List ℤ) : Checked (Option ℚ) :=
  if (validMean gains).any (2 ^ 1024 - 2 ^ 970 ≤ ·) then outside else value (validMean gains)

/-- `_parse_agca` -/
def parseAgca (fields : List Text) : Checked AgcSnapshot := do
  require (16 < fields.length)
  let ant1L1 ← firstIntAt fields 10
  let ant1L2 ← intAt fields 10
  let ant1L5 ← intAt fields 11
  let ant2L1 ← intAt fields 14
  let ant2L2 ← intAt fields 15
  let ant2L5 ← intAt fields 16
  return {
    agcMainMean := ← validMeanOfInts [ant1L1, ant1L2, ant1L5]
    agcAuxMean := ← validMeanOfInts [ant2L1, ant2L2, ant2L5] }

/-- `_parse_hwstatusa` -/
def parseHwstatusa (fields : List Text) : Checked HwstatusSnapshot := do
  require (18 < fields.length)
  let dc09V ← floatAt fields 10
  let dc10V ← floatAt fields 11
  let dc18V ← floatAt fields 12
  let clockFlag ← intAt fields 13
  let clockDriftMps ← floatAt fields 14
  let hwFlag ← hexAt fields 16
  let pllLock ← hexAt fields 18
  return {
    dc09V, dc10V, dc18V
    clockFlag := ← floatOfInt clockFlag
    clockDriftMps
    hwFlag := ← floatOfInt hwFlag
    pllLock := ← floatOfInt pllLock }

/-- `_parse_jamstatusa` -/
def parseJamstatusa (fields : List Text) : Checked (JamstatusSnapshot Text) := do
  require (11 < fields.length)
  let positionType := fieldAfterSemicolon (← get fields 9)
  let cwRatio ← intAt fields 10
  let cwFlag ← intAt fields 11
  return { positionType, cwRatio := ← floatOfInt cwRatio, cwFlag := ← floatOfInt cwFlag }

/-- `_parse_freqjamstatusa` -/
def parseFreqjamstatusa (fields : List Text) : Checked (FreqjamstatusSnapshot Text) := do
  require (15 < fields.length)
  let positionType := fieldAfterSemicolon (← get fields 9)
  let bands ← forRange (fun i => intAt fields (10 + i)) 6
  return { positionType, bands := ← bands.mapM floatOfInt }

/-! ### Binary frames -/

/-- `int.from_bytes(payload[offset:offset + size], "little")` -/
def fromBytes (payload : Bytes) (offset size : ℕ) : ℕ :=
  leNat (slice payload offset (offset + size))

/-- `_read_i16` -/
def readI16 (payload : Bytes) (offset : ℕ) : Option ℤ :=
  if payload.length < offset + 2 then none
  else some ((fromBytes payload offset 2 : ℤ).bmod (2 ^ 16))

/-- `_read_f32`, with `_unpack_float` -/
def readF32 (payload : Bytes) (offset : ℕ) : Option ℚ :=
  if payload.length < offset + 4 then none else binary32.toRat (fromBytes payload offset 4)

/-- `_read_f64`, with `_unpack_float` -/
def readF64 (payload : Bytes) (offset : ℕ) : Option ℚ :=
  if payload.length < offset + 8 then none else binary64.toRat (fromBytes payload offset 8)

/-- `_position_code_to_quality` -/
def positionCodeToQuality (code : ℕ) : ℤ := (numericMap.lookup (code : ℤ)).getD 0

/-- `_parse_bestnavb` -/
def parseBestnavb (payload : Bytes) : Checked (BestnavSnapshot ℕ × VelocitySnapshot ℕ) := do
  require (116 ≤ payload.length)
  let solutionStatusCode := fromBytes payload 0 4
  let positionTypeCode := fromBytes payload 4 4
  let latitude ← ofOption (readF64 payload 8)
  let longitude ← ofOption (readF64 payload 16)
  let heightMsl ← ofOption (readF64 payload 24)
  let undulation ← ofOption (readF32 payload 32)
  let latitudeStd ← ofOption (readF32 payload 40)
  let longitudeStd ← ofOption (readF32 payload 44)
  let heightStd ← ofOption (readF32 payload 48)
  let diffAge ← ofOption (readF32 payload 56)
  let solAge ← ofOption (readF32 payload 60)
  let satellitesTracked ← get payload 64
  let satellitesUsed ← get payload 65
  let extStatus ← get payload 69
  let galBds3Mask ← get payload 70
  let gpsGloBds2Mask ← get payload 71
  let velocitySolutionStatus := fromBytes payload 72 4
  let velocityTypeCode := fromBytes payload 76 4
  let velocityLatency ← ofOption (readF32 payload 80)
  let velocityAge ← ofOption (readF32 payload 84)
  let horizontalSpeed ← ofOption (readF64 payload 88)
  let trackDeg ← ofOption (readF64 payload 96)
  let verticalSpeed ← ofOption (readF32 payload 104)
  let verticalStd ← ofOption (readF32 payload 108)
  let horizontalStd ← ofOption (readF32 payload 112)
  return ({
    solutionStatus := solutionStatusCode
    positionType := positionTypeCode
    fixQuality := positionCodeToQuality positionTypeCode
    latitudeDeg := latitude
    longitudeDeg := longitude
    heightMslM := heightMsl
    undulationM := undulation
    altitudeM := heightMsl + undulation
    latitudeStdM := latitudeStd
    longitudeStdM := longitudeStd
    heightStdM := heightStd
    diffAgeSec := diffAge
    solAgeSec := solAge
    satellitesTracked := satellitesTracked.toNat
    satellitesUsed := satellitesUsed.toNat
    extendedSolutionStatus := extStatus.toNat
    galileoBds3SignalMask := galBds3Mask.toNat
    gpsGlonassBds2SignalMask := gpsGloBds2Mask.toNat }, {
    velocitySolutionStatus
    velocityType := velocityTypeCode
    velocityLatencySec := velocityLatency
    velocityAgeSec := velocityAge
    horizontalSpeedMps := horizontalSpeed
    trackOverGroundDeg := trackDeg
    verticalSpeedMps := verticalSpeed
    verticalSpeedStdMps := verticalStd
    horizontalSpeedStdMps := horizontalStd })

/-- `_parse_pvtslnb` -/
def parsePvtslnb (payload : Bytes) : Checked PvtslnbSnapshot := do
  require (140 ≤ payload.length)
  let bestposTypeCode := fromBytes payload 0 4
  let bestposHeightMsl ← ofOption (readF32 payload 4)
  let latitude ← ofOption (readF64 payload 8)
  let longitude ← ofOption (readF64 payload 16)
  let altitudeStd ← ofOption (readF32 payload 24)
  let latitudeStd ← ofOption (readF32 payload 28)
  let longitudeStd ← ofOption (readF32 payload 32)
  let undulation ← ofOption (readF32 payload 64)
  let bestposSvs ← get payload 68
  let bestposSolnsvs ← get payload 69
  let hdop ← ofOption (readF32 payload 124)
  return {
    bestposTypeCode
    fixQuality := positionCodeToQuality bestposTypeCode
    latitudeDeg := latitude
    longitudeDeg := longitude
    altitudeM := bestposHeightMsl + undulation
    altitudeStdM := altitudeStd
    latitudeStdM := latitudeStd
    longitudeStdM := longitudeStd
    undulationM := undulation
    satellites := (if 0 < bestposSolnsvs then bestposSolnsvs else bestposSvs).toNat
    hdop }

/-- `bestsat_constellation_name_from_system_id` -/
def bestsatConstellationNameFromSystemId (systemId : ℕ) : Text :=
  if systemId = 0 then ascii "GPS"
  else if systemId = 1 then ascii "GLO"
  else if systemId = 2 then ascii "SBAS"
  else if systemId = 5 then ascii "GAL"
  else if systemId = 6 then ascii "BDS"
  else if systemId = 7 then ascii "QZSS"
  else if systemId = 9 then ascii "IRNSS"
  else ascii "UNKNOWN"

/-- `_parse_bestsatb` -/
def parseBestsatb (payload : Bytes) : Checked BestsatSnapshot := do
  require (4 ≤ payload.length)
  let entryCount := fromBytes payload 0 4
  require (4 + entryCount * 16 ≤ payload.length)
  let tables ← foldRange (fun tables i => do
    let systemId := fromBytes payload (4 + i * 16) 4
    let signalMask := fromBytes payload (4 + i * 16 + 12) 4
    return countUsed (bestsatConstellationNameFromSystemId systemId) signalMask tables) entryCount
      (zeros primaryConstellations, zeros primarySignals)
  return bestsatSnapshot entryCount tables

/-- `_parse_rtcmstatusb` -/
def parseRtcmstatusb (payload : Bytes) : Checked RtcmstatusSnapshot := do
  require (22 ≤ payload.length)
  let observables ← forRange (fun i => get payload (16 + i)) 6
  return {
    messageId := fromBytes payload 0 4
    messageCount := fromBytes payload 4 4
    baseStationId := fromBytes payload 8 4
    satelliteCount := fromBytes payload 12 4
    observables := observables.map fun count => (count.toNat : ℤ) }

/-- `_parse_rtkstatusb` -/
def parseRtkstatusb (payload : Bytes) : Checked (RtkstatusSnapshot ℕ) := do
  require (56 ≤ payload.length)
  let positionTypeCode := fromBytes payload 44 4
  let ionDetected ← get payload 52
  let dualRtkFlag ← get payload 53
  let adrObservationCount ← get payload 54
  return {
    gpsSourceMask := fromBytes payload 0 4
    bdsSourceMask1 := fromBytes payload 8 4
    bdsSourceMask2 := fromBytes payload 12 4
    glonassSourceMask := fromBytes payload 20 4
    galileoSourceMask1 := fromBytes payload 28 4
    galileoSourceMask2 := fromBytes payload 32 4
    qzssSourceMask := fromBytes payload 36 4
    positionType := positionTypeCode
    fixQuality := positionCodeToQuality positionTypeCode
    calculateStatus := fromBytes payload 48 4
    ionDetected := ionDetected.toNat
    dualRtkFlag := dualRtkFlag.toNat
    adrObservationCount := adrObservationCount.toNat }

/-- `_parse_agcb` -/
def parseAgcb (payload : Bytes) : Checked AgcSnapshot := do
  require (20 ≤ payload.length)
  let ant1 ← [0, 2, 4].mapM fun offset => ofOption (readI16 payload offset)
  let ant2 ← [10, 12, 14].mapM fun offset => ofOption (readI16 payload offset)
  return { agcMainMean := validMean ant1, agcAuxMean := validMean ant2 }

/-- `_parse_hwstatusb` -/
def parseHwstatusb (payload : Bytes) : Checked HwstatusSnapshot := do
  require (40 ≤ payload.length)
  let dc09V ← ofOption (readF32 payload 4)
  let dc10V ← ofOption (readF32 payload 8)
  let dc18V ← ofOption (readF32 payload 12)
  let clockDriftMps ← ofOption (readF32 payload 20)
  let hwFlag ← get payload 28
  return {
    dc09V, dc10V, dc18V
    clockFlag := fromBytes payload 16 4
    clockDriftMps
    hwFlag := hwFlag.toNat
    pllLock := fromBytes payload 30 2 }

/-- `_parse_jamstatusb` -/
def parseJamstatusb (payload : Bytes) : Checked (JamstatusSnapshot ℕ) := do
  require (8 ≤ payload.length)
  let positionTypeCode := fromBytes payload 0 4
  let cwRatio ← get payload 4
  let cwFlag ← get payload 5
  return {
    positionType := positionTypeCode
    fixQuality := some (positionCodeToQuality positionTypeCode)
    cwRatio := cwRatio.toNat
    cwFlag := cwFlag.toNat }

/-- `_parse_freqjamstatusb` -/
def parseFreqjamstatusb (payload : Bytes) : Checked (FreqjamstatusSnapshot ℕ) := do
  require (12 ≤ payload.length)
  let bands ← forRange (fun i => get payload (4 + i)) 6
  return {
    positionType := fromBytes payload 0 4
    bands := bands.map fun band => (band.toNat : ℤ) }

/-- `read_bits_le` -/
def readBitsLe (data : Bytes) (bitOffset : ℕ) : ℕ → Checked ℕ
  | 0 => value 0
  | bit + 1 => do
    let bits ← readBitsLe data bitOffset bit
    let byte ← get data ((bitOffset + bit) / 8)
    return if (byte.toNat >>> ((bitOffset + bit) % 8)) &&& 1 ≠ 0 then bits ||| 1 <<< bit else bits

/-- `obsvmcmp_system_id` -/
def obsvmcmpSystemId (trackingStatus : ℕ) : ℕ := (trackingStatus >>> 16) &&& 0x07

/-- `obsvmcmp_signal_type` -/
def obsvmcmpSignalType (trackingStatus : ℕ) : ℕ := (trackingStatus >>> 21) &&& 0x1F

/-- `obsvmcmp_l2c_flag` -/
def obsvmcmpL2cFlag (trackingStatus : ℕ) : Bool := (trackingStatus >>> 26) &&& 0x01 != 0

/-- `obsvmcmp_signal_band`. The flag has no effect. -/
def obsvmcmpSignalBand (constellation : Text) (signalType : ℕ) (_l2cFlag : Bool) : Text :=
  if constellation = ascii "GPS" ∨ constellation = ascii "QZSS" then
    if signalType ≤ 3 then ascii "L1"
    else if signalType ≤ 8 then ascii "L2"
    else if signalType ≤ 15 then ascii "L5"
    else if constellation = ascii "QZSS" then ascii "L6"
    else []
  else if constellation = ascii "GLO" then
    if signalType ≤ 1 then ascii "L1" else if signalType ≤ 4 then ascii "L2" else ascii "L3"
  else if constellation = ascii "GAL" then
    if signalType ≤ 2 then ascii "E1" else if signalType ≤ 5 then ascii "E5" else ascii "E6"
  else if constellation = ascii "BDS" then
    if signalType ≤ 2 then ascii "B1" else if signalType ≤ 5 then ascii "B2" else ascii "B3"
  else if constellation = ascii "SBAS" then
    if signalType ≤ 1 then ascii "L1" else ascii "L5"
  else if constellation = ascii "IRNSS" then ascii "L5"
  else []

/-- The variables in which `_parse_obsvmcmpb` counts. -/
structure ObsvmcmpTotals where
  rawByConstellation : Table Text := zeros primaryConstellations
  rawBySignal : Table Text := zeros primarySignals
  cn0Values : List ℚ := []

/-- The body of the loop of `_parse_obsvmcmpb`. -/
def obsvmcmpbRecord (payload : Bytes) (totals : ObsvmcmpTotals) (i : ℕ) :
    Checked ObsvmcmpTotals := do
  let record := slice payload (4 + i * 24) (4 + i * 24 + 24)
  let trackingStatus ← readBitsLe record 0 32
  let constellation := constellationNameFromSystemId (obsvmcmpSystemId trackingStatus)
  let signalBand := obsvmcmpSignalBand constellation (obsvmcmpSignalType trackingStatus)
    (obsvmcmpL2cFlag trackingStatus)
  let cn0Code ← readBitsLe record 165 5
  return {
    rawByConstellation := add totals.rawByConstellation constellation
    rawBySignal :=
      if signalBand ≠ [] then add totals.rawBySignal signalBand else totals.rawBySignal
    cn0Values :=
      if 0 < cn0Code then totals.cn0Values ++ [20 + (cn0Code : ℚ)] else totals.cn0Values }

/-- `_parse_obsvmcmpb` -/
def parseObsvmcmpb (payload : Bytes) : Checked ObsvmcmpSnapshot := do
  require (4 ≤ payload.length)
  let observationCount := fromBytes payload 0 4
  require (4 + observationCount * 24 ≤ payload.length)
  let totals ← foldRange (obsvmcmpbRecord payload) observationCount {}
  return {
    observationCount
    rawCn0MeanDbHz := mean totals.cn0Values
    rawCn0MaxDbHz := totals.cn0Values.max?
    rawConstellation := totals.rawByConstellation
    rawSignal := totals.rawBySignal }

/-- What a frame of a known id leaves. -/
inductive BinarySnapshot where
  | pvtslnb (snapshot : PvtslnbSnapshot)
  | bestnavb (bestnav : BestnavSnapshot ℕ) (velocity : VelocitySnapshot ℕ)
  | bestsatb (snapshot : BestsatSnapshot)
  | satsinfob (snapshot : SatsinfoSnapshot)
  | rtcmstatusb (snapshot : RtcmstatusSnapshot)
  | rtkstatusb (snapshot : RtkstatusSnapshot ℕ)
  | agcb (snapshot : AgcSnapshot)
  | hwstatusb (snapshot : HwstatusSnapshot)
  | jamstatusb (snapshot : JamstatusSnapshot ℕ)
  | freqjamstatusb (snapshot : FreqjamstatusSnapshot ℕ)
  | obsvmcmpb (snapshot : ObsvmcmpSnapshot)

/-- The parser that `_handle_binary_frame` calls for a message id. It has none for `UNIHEADINGB`,
although it knows the id. -/
def parseFrame (messageId : ℕ) (payload : Bytes) : Checked BinarySnapshot :=
  if messageId = 1021 then do return .pvtslnb (← parsePvtslnb payload)
  else if messageId = 2118 then do
    let snapshots ← parseBestnavb payload
    return .bestnavb snapshots.1 snapshots.2
  else if messageId = 1041 then do return .bestsatb (← parseBestsatb payload)
  else if messageId = 2124 then do return .satsinfob (← parseSatsinfob payload)
  else if messageId = 2125 then do return .rtcmstatusb (← parseRtcmstatusb payload)
  else if messageId = 509 then do return .rtkstatusb (← parseRtkstatusb payload)
  else if messageId = 220 then do return .agcb (← parseAgcb payload)
  else if messageId = 218 then do return .hwstatusb (← parseHwstatusb payload)
  else if messageId = 511 then do return .jamstatusb (← parseJamstatusb payload)
  else if messageId = 519 then do return .freqjamstatusb (← parseFreqjamstatusb payload)
  else if messageId = 138 then do return .obsvmcmpb (← parseObsvmcmpb payload)
  else refused

end UnicoreGnss.LiveValidate
