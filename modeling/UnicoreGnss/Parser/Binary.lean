import UnicoreGnss.Lib.BitField
import UnicoreGnss.Lib.Cursor
import UnicoreGnss.Lib.Ieee754
import UnicoreGnss.Parser.Data

/-!
# The binary parser

`src/unicore_binary_nav.cpp`. The message id of a frame decides which parser gets its payload. The
helpers that read a field test its range first; the raw pointer of `read_bits_le` does not. Both
kinds of access are `Checked` operations on the payload.

## Main definitions

* `UnicoreBinaryNavParser.parse` — one received frame
-/

namespace UnicoreGnss

open BitField Checked CNumber Cursor Ieee754 LittleEndian

namespace UnicoreBinaryNavParser

/-! ### Reading fields -/

/-- `has_range`: the bytes are in the payload, without an overflow of the sum. -/
def HasRange (payload : Bytes) (offset size : ℕ) : Prop :=
  offset ≤ payload.length ∧ size ≤ payload.length - offset

instance (payload : Bytes) (offset size : ℕ) : Decidable (HasRange payload offset size) :=
  inferInstanceAs (Decidable (_ ∧ _))

/-- The bytes of a field, after the test of its range. -/
def fieldBytes (payload : Bytes) (offset size : ℕ) : Checked Bytes := do
  require (HasRange payload offset size)
  forRange (fun i => get payload (offset + i)) size

/-- `read_u8` -/
def readU8 (payload : Bytes) (offset : ℕ) : Checked UInt8 := do
  return byteAt (← fieldBytes payload offset 1) 0

/-- `read_u16` -/
def readU16 (payload : Bytes) (offset : ℕ) : Checked UInt16 := do
  return readLe16 (← fieldBytes payload offset 2)

/-- `read_u32` -/
def readU32 (payload : Bytes) (offset : ℕ) : Checked UInt32 := do
  return readLe32 (← fieldBytes payload offset 4)

/-- `read_i16` -/
def readI16 (payload : Bytes) (offset : ℕ) : Checked ℤ := do
  return ((← readU16 payload offset).toNat : ℤ).bmod (2 ^ 16)

/-- `read_float32`: only a finite number is accepted. -/
def readFloat32 (payload : Bytes) (offset : ℕ) : Checked ℚ := do
  ofOption (binary32.toRat (← readU32 payload offset).toNat)

/-- The eight bytes are put together in a loop. -/
def readFloat64 (payload : Bytes) (offset : ℕ) : Checked ℚ := do
  ofOption (binary64.toRat (leNat (← fieldBytes payload offset 8)))

/-- The bytes up to the first NUL; none at all if the range does not fit. -/
def readCharArray (payload : Bytes) (offset size : ℕ) : Checked Bytes :=
  if HasRange payload offset size then do
    let bytes ← forRange (fun i => get payload (offset + i)) size
    return bytes.takeWhile (· ≠ 0)
  else return []

/-! ### Names and codes -/

/-- The constellation of a system id in a BESTSATB. -/
def bestsatConstellationNameFromSystemId (systemId : UInt32) : Bytes :=
  if systemId = 0 then ascii "GPS"
  else if systemId = 1 then ascii "GLO"
  else if systemId = 2 then ascii "SBAS"
  else if systemId = 5 then ascii "GAL"
  else if systemId = 6 then ascii "BDS"
  else if systemId = 7 then ascii "QZSS"
  else if systemId = 9 then ascii "IRNSS"
  else ascii "UNKNOWN"

/-- The constellation of a system id in a SATSINFOB. -/
def satsinfoConstellationNameFromSystemId (systemId : ℕ) : Bytes :=
  constellationNameFromSystemId systemId

/-- The name of a solution status. -/
def solutionStatusName (code : UInt32) : Bytes :=
  if code = 0 then ascii "SOL_COMPUTED"
  else if code = 1 then ascii "INSUFFICIENT_OBS"
  else if code = 2 then ascii "NO_CONVERGENCE"
  else if code = 4 then ascii "COV_TRACE"
  else ascii "UNKNOWN_" ++ decimal code.toNat

/-- The position types that have a name. -/
def positionTypeNames : List (UInt32 × Bytes) :=
  [(0, ascii "NONE"), (1, ascii "FIXEDPOS"), (2, ascii "FIXEDHEIGHT"),
    (8, ascii "DOPPLER_VELOCITY"), (16, ascii "SINGLE"), (17, ascii "PSRDIFF"),
    (18, ascii "SBAS"), (32, ascii "L1_FLOAT"), (33, ascii "IONOFREE_FLOAT"),
    (34, ascii "NARROW_FLOAT"), (48, ascii "L1_INT"), (49, ascii "WIDE_INT"),
    (50, ascii "NARROW_INT"), (52, ascii "INS"), (53, ascii "INS_PSRSP"),
    (54, ascii "INS_PSRDIFF"), (55, ascii "INS_RTKFLOAT"), (56, ascii "INS_RTKFIXED"),
    (68, ascii "PPP_CONVERGING"), (69, ascii "PPP")]

/-- The name of a position type. -/
def positionTypeName (code : UInt32) : Bytes :=
  (positionTypeNames.lookup code).getD (ascii "UNKNOWN_" ++ decimal code.toNat)

/-- The GGA quality of a position type. -/
def positionTypeToGgaQuality (code : UInt32) : ℤ :=
  if code = 0 then 0
  else if code ∈ [1, 2, 16, 52, 53, 68, 69] then 1
  else if code ∈ [17, 54] then 2
  else if code = 18 then 9
  else if code ∈ [32, 33, 34, 55] then 5
  else if code ∈ [48, 49, 50, 56] then 4
  else 0

/-- The text of a satellite's id, which for GLONASS has the channel unless that is zero. -/
def bestsatSatelliteId (systemId rawSatelliteId : UInt32) : Bytes :=
  let identifier := (rawSatelliteId &&& 0xFFFF).toNat
  let gloChannel : ℤ := (((rawSatelliteId >>> 16) &&& 0xFFFF).toNat : ℤ).bmod (2 ^ 16)
  if systemId = 1 ∧ gloChannel ≠ 0 then
    decimal identifier ++ (if gloChannel > 0 then ascii "+" else []) ++ decimalInt gloChannel
  else decimal identifier

/-- The name of a status in a BESTSATB. -/
def bestsatStatusName (statusCode : UInt32) : Bytes :=
  if statusCode = 0 then ascii "GOOD" else ascii "STATUS_" ++ decimal statusCode.toNat

/-! ### Bit fields -/

/-- The lowest bits of a 64-bit word. -/
def bitMask (bitCount : ℕ) : ℕ := if 64 ≤ bitCount then 2 ^ 64 - 1 else 1 <<< bitCount - 1

/-- `read_bits_le(payload.data() + record, bit_offset, bit_count)`: the bits are collected one by
one, the lowest first, and no access is tested. -/
def readBitsLe (payload : Bytes) (record bitOffset : ℕ) : ℕ → Checked ℕ
  | 0 => value 0
  | bit + 1 => do
    let bits ← readBitsLe payload record bitOffset bit
    let byte ← get payload (record + (bitOffset + bit) / 8)
    return if (byte >>> UInt8.ofNat ((bitOffset + bit) % 8)) &&& 1 != 0 then bits ||| 1 <<< bit
      else bits

/-- Unsigned arithmetic is modulo `2 ^ 64`. -/
def signExtend (bits bitCount : ℕ) : ℤ :=
  if bitCount = 0 ∨ 64 ≤ bitCount then (bits : ℤ).bmod (2 ^ 64)
  else
    let truncated : ℕ := bits &&& bitMask bitCount
    let signBit : ℕ := 1 <<< (bitCount - 1)
    if truncated &&& signBit = 0 then truncated
    else
      let magnitude : ℕ := ((2 ^ 64 - 1 - truncated) + 1) % 2 ^ 64 &&& bitMask bitCount
      (-magnitude : ℤ)

/-- `kPsrStdLookup` -/
def psrStdLookup : List ℚ :=
  [0.050, 0.075, 0.113, 0.169, 0.253, 0.380, 0.570, 0.854,
    1.281, 2.375, 4.750, 9.500, 19.000, 38.000, 76.000, 152.000]

/-- The standard deviation of a pseudorange, from the table. -/
def obsvmcmpPsrStdM (index : ℕ) : ℚ := psrStdLookup.getD (index &&& 0x0F) 0

/-- Bits 16 to 18 of the tracking status. -/
def obsvmcmpSystemId (trackingStatus : UInt32) : UInt32 := (trackingStatus >>> 16) &&& 0x07

/-- Bits 21 to 25. -/
def obsvmcmpSignalType (trackingStatus : UInt32) : UInt32 := (trackingStatus >>> 21) &&& 0x1F

/-- Bit 26. -/
def obsvmcmpL2cFlag (trackingStatus : UInt32) : Bool := (trackingStatus >>> 26) &&& 0x01 != 0

/-- Bit 19. -/
def obsvmcmpCarrierPhaseValid (trackingStatus : UInt32) : Bool :=
  (trackingStatus >>> 19) &&& 0x01 != 0

/-- Bit 20. -/
def obsvmcmpPseudorangeValid (trackingStatus : UInt32) : Bool :=
  (trackingStatus >>> 20) &&& 0x01 != 0

/-- The L2C flag is passed and not used. -/
def obsvmcmpSignalBand (constellation : Bytes) (signalType : UInt32) (_l2cFlag : Bool) : Bytes :=
  if constellation = ascii "GPS" ∨ constellation = ascii "QZSS" then
    if signalType ≤ 3 then ascii "L1"
    else if signalType ≤ 8 then ascii "L2"
    else if signalType ≤ 15 then ascii "L5"
    else if constellation = ascii "QZSS" then ascii "L6"
    else []
  else if constellation = ascii "GLO" then
    if signalType ≤ 1 then ascii "L1" else if signalType ≤ 4 then ascii "L2" else ascii "L3"
  else if constellation = ascii "GAL" then
    if signalType ≤ 2 then ascii "E1" else if signalType ≤ 5 then ascii "E5" else ascii "E6"
  else if constellation = ascii "BDS" then
    if signalType ≤ 2 then ascii "B1" else if signalType ≤ 5 then ascii "B2" else ascii "B3"
  else if constellation = ascii "SBAS" then
    if signalType ≤ 1 then ascii "L1" else ascii "L5"
  else if constellation = ascii "IRNSS" then ascii "L5"
  else []

/-- The text of a satellite's id, which for GLONASS has the channel unless that is `-1`. -/
def obsvmcmpSatelliteId (constellation : Bytes) (prn : ℕ) (glonassFrequencyChannel : ℤ) : Bytes :=
  if constellation = ascii "GLO" ∧ glonassFrequencyChannel ≠ -1 then
    decimal prn ++ (if glonassFrequencyChannel > 0 then ascii "+" else []) ++
      decimalInt glonassFrequencyChannel
  else decimal prn

/-! ### Messages -/

/-- `parse_agcb` -/
def parseAgcb (payload : Bytes) : Checked ParsedSentence := do
  require (20 ≤ payload.length)
  let ant1L1 ← readI16 payload 0
  let ant1L2 ← readI16 payload 2
  let ant1L5 ← readI16 payload 4
  let ant2L1 ← readI16 payload 10
  let ant2L2 ← readI16 payload 12
  let ant2L5 ← readI16 payload 14
  return {
    sentenceType := ascii "AGCB"
    agc := some {
      antenna1 := triple ant1L1 ant1L2 ant1L5
      antenna2 := triple ant2L1 ant2L2 ant2L5 } }

/-- The body of the loop of `parse_bestsatb`. -/
def bestsatbEntry (payload : Bytes) (cursor : ℕ) : Checked BestSatEntry := do
  let systemId ← readU32 payload cursor
  let satelliteId ← readU32 payload (cursor + 4)
  let statusCode ← readU32 payload (cursor + 8)
  let signalMask ← readU32 payload (cursor + 12)
  let constellation := bestsatConstellationNameFromSystemId systemId
  return {
    constellation := constellation
    satelliteId := bestsatSatelliteId systemId satelliteId
    status := bestsatStatusName statusCode
    signalMask := toInt signalMask.toNat
    commonView := signalMask &&& 0x10 ≠ 0
    usedSignalBands := bestsatSignalBands constellation signalMask }

/-- `parse_bestsatb` -/
def parseBestsatb (payload : Bytes) : Checked ParsedSentence := do
  let entryCount ← readU32 payload 0
  require (4 + entryCount.toNat * 16 ≤ payload.length)
  let entries ← forRange (fun i => bestsatbEntry payload (4 + i * 16)) entryCount.toNat
  return {
    sentenceType := ascii "BESTSATB"
    bestsat := some { entryCount := toInt entryCount.toNat, entries } }

/-- `parse_bestnavb` -/
def parseBestnavb (math : MathFunctions) (payload : Bytes) : Checked ParsedSentence := do
  require (116 ≤ payload.length)
  let solutionStatusCode ← readU32 payload 0
  let positionTypeCode ← readU32 payload 4
  let latitude ← readFloat64 payload 8
  let longitude ← readFloat64 payload 16
  let heightMsl ← readFloat64 payload 24
  let undulation ← readFloat32 payload 32
  let latitudeStd ← readFloat32 payload 40
  let longitudeStd ← readFloat32 payload 44
  let heightStd ← readFloat32 payload 48
  let diffAge ← readFloat32 payload 56
  let solAge ← readFloat32 payload 60
  let satellitesTracked ← readU8 payload 64
  let satellitesUsed ← readU8 payload 65
  let extendedSolutionStatus ← readU8 payload 69
  let galileoBds3SignalMask ← readU8 payload 70
  let gpsGloBds2SignalMask ← readU8 payload 71
  let velocitySolutionStatusCode ← readU32 payload 72
  let velocityTypeCode ← readU32 payload 76
  let velocityLatency ← readFloat32 payload 80
  let velocityAge ← readFloat32 payload 84
  let horizontalSpeed ← readFloat64 payload 88
  let trackDeg ← readFloat64 payload 96
  let verticalSpeed ← readFloat32 payload 104
  let verticalSpeedStd ← readFloat32 payload 108
  let horizontalSpeedStd ← readFloat32 payload 112
  let baseStationId ← readCharArray payload 52 4
  return {
    sentenceType := ascii "BESTNAVB"
    bestnav := some {
      solutionStatus := solutionStatusName solutionStatusCode
      positionType := positionTypeName positionTypeCode
      fixQuality := positionTypeToGgaQuality positionTypeCode
      latitudeDeg := latitude
      longitudeDeg := longitude
      heightMslM := heightMsl
      undulationM := undulation
      latitudeStdM := latitudeStd
      longitudeStdM := longitudeStd
      heightStdM := heightStd
      baseStationId := baseStationId
      diffAgeSec := diffAge
      solAgeSec := solAge
      satellitesTracked := satellitesTracked.toNat
      satellitesUsed := satellitesUsed.toNat
      extendedSolutionStatus := extendedSolutionStatus.toNat
      galileoBds3SignalMask := galileoBds3SignalMask.toNat
      gpsGlonassBds2SignalMask := gpsGloBds2SignalMask.toNat
      velocitySolutionStatus := solutionStatusName velocitySolutionStatusCode
      velocityType := positionTypeName velocityTypeCode
      velocityLatencySec := velocityLatency
      velocityAgeSec := velocityAge
      horizontalSpeedMps := horizontalSpeed
      trackOverGroundDeg := trackDeg
      verticalSpeedMps := verticalSpeed
      verticalSpeedStdMps := verticalSpeedStd
      horizontalSpeedStdMps := horizontalSpeedStd }
    velocity := some (velocityFromTrack math horizontalSpeed trackDeg verticalSpeed
      horizontalSpeedStd verticalSpeedStd) }

/-- The fields whose names begin with an underscore are read, and so must be finite where they are
floats, but are not used. -/
def parsePvtslnb (payload : Bytes) : Checked ParsedSentence := do
  require (140 ≤ payload.length)
  let bestposTypeCode ← readU32 payload 0
  let bestposHeightMsl ← readFloat32 payload 4
  let latitude ← readFloat64 payload 8
  let longitude ← readFloat64 payload 16
  let altitudeStd ← readFloat32 payload 24
  let latitudeStd ← readFloat32 payload 28
  let longitudeStd ← readFloat32 payload 32
  let _diffAge ← readFloat32 payload 36
  let _psrposTypeCode ← readU32 payload 40
  let undulation ← readFloat32 payload 64
  let bestposSvs ← readU8 payload 68
  let bestposSolnsvs ← readU8 payload 69
  let _psrvelNorth ← readFloat64 payload 72
  let _psrvelEast ← readFloat64 payload 80
  let _psrvelGround ← readFloat64 payload 88
  let headingTypeCode ← readU32 payload 96
  let headingLength ← readFloat32 payload 100
  let headingDegree ← readFloat32 payload 104
  let headingPitch ← readFloat32 payload 108
  let _headingTrackedsvs ← readU8 payload 112
  let _headingSolnsvs ← readU8 payload 113
  let hdop ← readFloat32 payload 124
  let fixQuality := positionTypeToGgaQuality bestposTypeCode
  return {
    sentenceType := ascii "PVTSLNB"
    fix := some {
      source := .pvtslnb
      validFix := fixQuality > 0
      latitudeDeg := latitude
      longitudeDeg := longitude
      altitudeM := bestposHeightMsl + undulation
      fixQuality := fixQuality
      satellites := (if bestposSolnsvs > 0 then bestposSolnsvs else bestposSvs).toNat
      hdop := .finite hdop
      hasCovariance := true
      covariance := diagonalCovariance longitudeStd latitudeStd altitudeStd }
    heading :=
      if headingTypeCode = 0 ∨ headingLength > 0 then
        some {
          source := .pvtslnb
          headingDeg := headingDegree
          pitchDeg := some headingPitch
          baselineM := some headingLength
          varianceDeg2 := 0 }
      else none }

/-- `parse_freqjamstatusb` -/
def parseFreqjamstatusb (payload : Bytes) : Checked ParsedSentence := do
  require (12 ≤ payload.length)
  let positionTypeCode ← readU32 payload 0
  let ratio0 ← readU8 payload 4
  let flag0 ← readU8 payload 5
  let ratio1 ← readU8 payload 6
  let flag1 ← readU8 payload 7
  let ratio2 ← readU8 payload 8
  let flag2 ← readU8 payload 9
  return {
    sentenceType := ascii "FREQJAMSTATUSB"
    freqJamStatus := some {
      positionType := positionTypeName positionTypeCode
      cwRatio := triple ratio0.toNat ratio1.toNat ratio2.toNat
      cwFlag := triple flag0.toNat flag1.toNat flag2.toNat } }

/-- `parse_hwstatusb` -/
def parseHwstatusb (payload : Bytes) : Checked ParsedSentence := do
  require (40 ≤ payload.length)
  let dc09V ← readFloat32 payload 4
  let dc10V ← readFloat32 payload 8
  let dc18V ← readFloat32 payload 12
  let clockFlag ← readU32 payload 16
  let clockDriftMps ← readFloat32 payload 20
  let hwFlag ← readU8 payload 28
  let pllLock ← readU16 payload 30
  return {
    sentenceType := ascii "HWSTATUSB"
    hwStatus := some {
      dc09V, dc10V, dc18V,
      clockFlag := toInt clockFlag.toNat
      clockDriftMps
      hwFlag := hwFlag.toNat
      pllLock := pllLock.toNat } }

/-- `parse_jamstatusb` -/
def parseJamstatusb (payload : Bytes) : Checked ParsedSentence := do
  require (8 ≤ payload.length)
  let positionTypeCode ← readU32 payload 0
  let cwRatio ← readU8 payload 4
  let cwFlag ← readU8 payload 5
  return {
    sentenceType := ascii "JAMSTATUSB"
    jamStatus := some {
      positionType := positionTypeName positionTypeCode
      cwRatio := cwRatio.toNat
      cwFlag := cwFlag.toNat } }

/-- The body of the loop of `parse_obsvmcmpb`. -/
def obsvmcmpbEntry (payload : Bytes) (offset : ℕ) : Checked RawObservationEntry := do
  require (HasRange payload offset 24)
  let trackingStatus := UInt32.ofNat (← readBitsLe payload offset 0 32)
  let dopplerRaw := signExtend (← readBitsLe payload offset 32 28) 28
  let pseudorangeRaw ← readBitsLe payload offset 60 36
  let carrierPhaseRaw := signExtend (← readBitsLe payload offset 96 32) 32
  let pseudorangeStdIndex ← readBitsLe payload offset 128 4
  let carrierPhaseStdIndex ← readBitsLe payload offset 132 4
  let prn ← readBitsLe payload offset 136 8
  let lockTimeRaw ← readBitsLe payload offset 144 21
  let cn0Raw ← readBitsLe payload offset 165 5
  let glonassFrequencyNumber ← readBitsLe payload offset 170 6
  let systemId := obsvmcmpSystemId trackingStatus
  let signalType := obsvmcmpSignalType trackingStatus
  let constellation := satsinfoConstellationNameFromSystemId systemId.toNat
  let glonassFrequencyChannel : ℤ :=
    if constellation = ascii "GLO" ∧ glonassFrequencyNumber > 0 then glonassFrequencyNumber - 7
    else -1
  let pseudorangeValid := obsvmcmpPseudorangeValid trackingStatus
  let carrierPhaseValid := obsvmcmpCarrierPhaseValid trackingStatus
  return {
    constellation := constellation
    satelliteId := obsvmcmpSatelliteId constellation prn glonassFrequencyChannel
    signalBand := obsvmcmpSignalBand constellation signalType (obsvmcmpL2cFlag trackingStatus)
    systemId := systemId.toNat
    signalType := signalType.toNat
    glonassFrequencyChannel := glonassFrequencyChannel
    trackingStatus := trackingStatus
    pseudorangeValid := pseudorangeValid
    carrierPhaseValid := carrierPhaseValid
    pseudorangeM := if pseudorangeValid then pseudorangeRaw / 128 else -1
    carrierPhaseCycles := if carrierPhaseValid then carrierPhaseRaw / 256 else -1
    dopplerHz := dopplerRaw / 256
    cn0DbHz := if cn0Raw = 0 then 0 else 20 + cn0Raw
    lockTimeSec := lockTimeRaw / 32
    pseudorangeStdM := if pseudorangeValid then obsvmcmpPsrStdM pseudorangeStdIndex else -1
    carrierPhaseStdCycles :=
      if carrierPhaseValid then (carrierPhaseStdIndex + 1) / 512 else -1 }

/-- `parse_obsvmcmpb` -/
def parseObsvmcmpb (payload : Bytes) : Checked ParsedSentence := do
  require (4 ≤ payload.length)
  let observationCount ← readU32 payload 0
  require (4 + observationCount.toNat * 24 ≤ payload.length)
  let entries ← forRange (fun i => obsvmcmpbEntry payload (4 + i * 24)) observationCount.toNat
  return {
    sentenceType := ascii "OBSVMCMPB"
    rawObservations := some { observationCount := toInt observationCount.toNat, entries } }

/-- `parse_rtkstatusb` -/
def parseRtkstatusb (payload : Bytes) : Checked ParsedSentence := do
  require (56 ≤ payload.length)
  let gpsSourceMask ← readU32 payload 0
  let bdsSourceMask1 ← readU32 payload 8
  let bdsSourceMask2 ← readU32 payload 12
  let glonassSourceMask ← readU32 payload 20
  let galileoSourceMask1 ← readU32 payload 28
  let galileoSourceMask2 ← readU32 payload 32
  let qzssSourceMask ← readU32 payload 36
  let positionTypeCode ← readU32 payload 44
  let calculateStatus ← readU32 payload 48
  let ionDetected ← readU8 payload 52
  let dualRtkFlag ← readU8 payload 53
  let adrObservationCount ← readU8 payload 54
  return {
    sentenceType := ascii "RTKSTATUSB"
    rtkStatus := some {
      gpsSourceMask, bdsSourceMask1, bdsSourceMask2, glonassSourceMask, galileoSourceMask1,
      galileoSourceMask2, qzssSourceMask,
      positionType := positionTypeName positionTypeCode
      fixQuality := positionTypeToGgaQuality positionTypeCode
      calculateStatus := toInt calculateStatus.toNat
      ionDetected := ionDetected.toNat
      dualRtkFlag := dualRtkFlag.toNat
      adrObservationCount := adrObservationCount.toNat } }

/-- `parse_rtcmstatusb` -/
def parseRtcmstatusb (payload : Bytes) : Checked ParsedSentence := do
  require (22 ≤ payload.length)
  let messageId ← readU32 payload 0
  let messageCount ← readU32 payload 4
  let baseStationId ← readU32 payload 8
  let satelliteCount ← readU32 payload 12
  let observableCount ← forRange (fun i => readU8 payload (16 + i)) 6
  return {
    sentenceType := ascii "RTCMSTATUSB"
    rtcmStatus := some {
      messageId := toInt messageId.toNat
      messageCount := toInt messageCount.toNat
      baseStationId := toInt baseStationId.toNat
      satelliteCount := toInt satelliteCount.toNat
      observableCount := observableCount.map fun count => (count.toNat : ℤ) } }

/-- The body of the inner loop of `parse_satsinfob`. -/
def satsinfobSignal (payload : Bytes) (signalOffset : ℕ) : Checked SatsInfoSignal := do
  let systemId ← readU8 payload signalOffset
  let cn0 ← readU8 payload (signalOffset + 1)
  let frequencyId ← readU8 payload (signalOffset + 2)
  let _repeatedFrequencyCount ← readU8 payload (signalOffset + 3)
  let constellation := satsinfoConstellationNameFromSystemId systemId.toNat
  return {
    constellation := constellation
    band := signalBandFromFrequencyId constellation frequencyId.toNat
    systemId := systemId.toNat
    frequencyId := frequencyId.toNat
    cn0DbHz := cn0.toNat }

/-- The body of the outer loop of `parse_satsinfob`. -/
def satsinfobSatellite (payload : Bytes) (cursor : ℕ) : Checked (SatsInfoEntry × ℕ) := do
  require (HasRange payload cursor 8)
  let prn ← readU8 payload cursor
  let azimuth ← readI16 payload (cursor + 1)
  let elevation ← readU8 payload (cursor + 3)
  let systemId ← readU8 payload (cursor + 4)
  let _cn0 ← readU8 payload (cursor + 5)
  let _frequencyId ← readU8 payload (cursor + 6)
  let frequencyCount ← readU8 payload (cursor + 7)
  require (frequencyCount ≠ 0)
  let satelliteRecordSize := 4 + frequencyCount.toNat * 4
  require (HasRange payload cursor satelliteRecordSize)
  let signals ←
    forRange (fun i => satsinfobSignal payload (cursor + 4 + i * 4)) frequencyCount.toNat
  return ({
    constellation := satsinfoConstellationNameFromSystemId systemId.toNat
    prn := prn.toNat
    azimuthDeg := azimuth
    elevationDeg := elevation.toNat
    signals := signals }, cursor + satelliteRecordSize)

/-- `parse_satsinfob` -/
def parseSatsinfob (payload : Bytes) : Checked ParsedSentence := do
  require (6 ≤ payload.length)
  let satelliteCount ← readU8 payload 0
  let version ← readU8 payload 1
  let frequencyFlag ← readU8 payload 5
  let (entries, _) ← readMany satsinfobSatellite satelliteCount.toNat payload 6
  return {
    sentenceType := ascii "SATSINFOB"
    satsinfo := some {
      satelliteCount := satelliteCount.toNat
      version := version.toNat
      frequencyFlag := frequencyFlag.toNat
      entries } }

/-- `parse` -/
def parse (math : MathFunctions) (frame : UnicoreBinaryFrame) : Checked ParsedSentence :=
  match frame.messageId.toNat with
  | 138 => parseObsvmcmpb frame.payload
  | 220 => parseAgcb frame.payload
  | 509 => parseRtkstatusb frame.payload
  | 511 => parseJamstatusb frame.payload
  | 519 => parseFreqjamstatusb frame.payload
  | 1021 => parsePvtslnb frame.payload
  | 1041 => parseBestsatb frame.payload
  | 2118 => parseBestnavb math frame.payload
  | 2124 => parseSatsinfob frame.payload
  | 2125 => parseRtcmstatusb frame.payload
  | 218 => parseHwstatusb frame.payload
  | _ => refused

/-- What one of the parsers makes of the payload, with the message id that chooses it. -/
inductive BinaryMessage (math : MathFunctions) (frame : UnicoreBinaryFrame) :
    Checked ParsedSentence → Prop
  | obsvmcmpb (h : frame.messageId.toNat = 138) :
    BinaryMessage math frame (parseObsvmcmpb frame.payload)
  | agcb (h : frame.messageId.toNat = 220) : BinaryMessage math frame (parseAgcb frame.payload)
  | rtkstatusb (h : frame.messageId.toNat = 509) :
    BinaryMessage math frame (parseRtkstatusb frame.payload)
  | jamstatusb (h : frame.messageId.toNat = 511) :
    BinaryMessage math frame (parseJamstatusb frame.payload)
  | freqjamstatusb (h : frame.messageId.toNat = 519) :
    BinaryMessage math frame (parseFreqjamstatusb frame.payload)
  | pvtslnb (h : frame.messageId.toNat = 1021) :
    BinaryMessage math frame (parsePvtslnb frame.payload)
  | bestsatb (h : frame.messageId.toNat = 1041) :
    BinaryMessage math frame (parseBestsatb frame.payload)
  | bestnavb (h : frame.messageId.toNat = 2118) :
    BinaryMessage math frame (parseBestnavb math frame.payload)
  | satsinfob (h : frame.messageId.toNat = 2124) :
    BinaryMessage math frame (parseSatsinfob frame.payload)
  | rtcmstatusb (h : frame.messageId.toNat = 2125) :
    BinaryMessage math frame (parseRtcmstatusb frame.payload)
  | hwstatusb (h : frame.messageId.toNat = 218) :
    BinaryMessage math frame (parseHwstatusb frame.payload)
  | unknown : BinaryMessage math frame refused

theorem binaryMessage_parse (math : MathFunctions) (frame : UnicoreBinaryFrame) :
    BinaryMessage math frame (parse math frame) := by
  rw [parse]
  split
  case h_1 hid => exact .obsvmcmpb hid
  case h_2 hid => exact .agcb hid
  case h_3 hid => exact .rtkstatusb hid
  case h_4 hid => exact .jamstatusb hid
  case h_5 hid => exact .freqjamstatusb hid
  case h_6 hid => exact .pvtslnb hid
  case h_7 hid => exact .bestsatb hid
  case h_8 hid => exact .bestnavb hid
  case h_9 hid => exact .satsinfob hid
  case h_10 hid => exact .rtcmstatusb hid
  case h_11 hid => exact .hwstatusb hid
  case h_12 => exact .unknown

end UnicoreBinaryNavParser

end UnicoreGnss
