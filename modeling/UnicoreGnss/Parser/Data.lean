import UnicoreGnss.Lib.CNumber
import UnicoreGnss.Transport

/-!
# What the parsers hand out

`include/mowgli_unicore_gnss/unicore_parser.hpp`. Both parsers, the one for text lines and the one
for binary frames, hand out the same records.

A `std::string` is its bytes, an `int` is an integer in the range of `int`, and a `double` is the
exact rational it holds. The one `double` member that can hold an infinity or a NaN is `hdop`.
-/

namespace UnicoreGnss

open CNumber

/-- The bytes of a string literal. -/
def ascii (s : String) : Bytes := s.toList.map fun c => UInt8.ofNat c.toNat

/-- `static_cast<int>` of a wider or unsigned integer. -/
def toInt (n : ℤ) : ℤ := n.bmod (2 ^ 32)

theorem toInt_of_lt {n : ℤ} (h : -2 ^ 31 ≤ n) (h' : n < 2 ^ 31) : toInt n = n := by
  rw [toInt, Int.bmod_def]
  split <;> omega

theorem toInt_range (n : ℤ) : -2 ^ 31 ≤ toInt n ∧ toInt n < 2 ^ 31 := by
  rw [toInt, Int.bmod_def]
  split <;> omega

theorem toInt_byte (b : UInt8) : toInt b.toNat = b.toNat := by
  have := b.toNat_lt
  exact toInt_of_lt (by omega) (by omega)

theorem toInt_halfword (v : UInt16) : toInt v.toNat = v.toNat := by
  have := v.toNat_lt
  exact toInt_of_lt (by omega) (by omega)

/-- The log or sentence that a fix is from. -/
inductive FixSource where
  | gga
  | pvtslna
  | pvtslnb
  deriving DecidableEq, Repr

/-- The log or sentence that a heading is from. -/
inductive HeadingSource where
  | hdt
  | hpr
  | pvtslnb
  deriving DecidableEq, Repr

/-- The position of a sentence or frame. -/
structure FixData where
  source : FixSource := .gga
  validFix : Bool := false
  latitudeDeg : ℚ := 0
  longitudeDeg : ℚ := 0
  altitudeM : ℚ := 0
  fixQuality : ℤ := 0
  satellites : ℤ := -1
  hdop : Double := .finite (-1)
  hasCovariance : Bool := false
  covariance : Vector ℚ 9 := Vector.replicate 9 0
  deriving DecidableEq, Repr

/-- The heading of a sentence or frame. -/
structure HeadingData where
  source : HeadingSource := .hdt
  headingDeg : ℚ := 0
  pitchDeg : Option ℚ := none
  rollDeg : Option ℚ := none
  baselineM : Option ℚ := none
  varianceDeg2 : ℚ := 0
  deriving DecidableEq, Repr

/-- The velocity of a log. -/
structure VelocityData where
  eastMps : ℚ := 0
  northMps : ℚ := 0
  upMps : ℚ := 0
  horizontalStdMps : ℚ := 0
  verticalStdMps : ℚ := 0
  deriving DecidableEq, Repr

/-- The data of a BESTNAV. -/
structure BestNavData where
  solutionStatus : Bytes := []
  positionType : Bytes := []
  fixQuality : ℤ := 0
  latitudeDeg : ℚ := 0
  longitudeDeg : ℚ := 0
  heightMslM : ℚ := 0
  undulationM : ℚ := 0
  latitudeStdM : ℚ := -1
  longitudeStdM : ℚ := -1
  heightStdM : ℚ := -1
  baseStationId : Bytes := []
  diffAgeSec : ℚ := -1
  solAgeSec : ℚ := -1
  satellitesTracked : ℤ := -1
  satellitesUsed : ℤ := -1
  extendedSolutionStatus : ℤ := -1
  galileoBds3SignalMask : ℤ := -1
  gpsGlonassBds2SignalMask : ℤ := -1
  velocitySolutionStatus : Bytes := []
  velocityType : Bytes := []
  velocityLatencySec : ℚ := -1
  velocityAgeSec : ℚ := -1
  horizontalSpeedMps : ℚ := 0
  trackOverGroundDeg : ℚ := 0
  verticalSpeedMps : ℚ := 0
  verticalSpeedStdMps : ℚ := -1
  horizontalSpeedStdMps : ℚ := -1
  deriving DecidableEq, Repr

/-- The data of an RTKSTATUS. -/
structure RtkStatusData where
  gpsSourceMask : UInt32 := 0
  bdsSourceMask1 : UInt32 := 0
  bdsSourceMask2 : UInt32 := 0
  glonassSourceMask : UInt32 := 0
  galileoSourceMask1 : UInt32 := 0
  galileoSourceMask2 : UInt32 := 0
  qzssSourceMask : UInt32 := 0
  positionType : Bytes := []
  fixQuality : ℤ := 0
  calculateStatus : ℤ := -1
  ionDetected : ℤ := -1
  dualRtkFlag : ℤ := -1
  adrObservationCount : ℤ := -1
  deriving DecidableEq, Repr

/-- The data of an RTCMSTATUS. -/
structure RtcmStatusData where
  messageId : ℤ := -1
  messageCount : ℤ := -1
  baseStationId : ℤ := -1
  satelliteCount : ℤ := -1
  observableCount : List ℤ := List.replicate 6 (-1)
  deriving DecidableEq, Repr

/-- A satellite of a BESTSAT. -/
structure BestSatEntry where
  constellation : Bytes := []
  satelliteId : Bytes := []
  status : Bytes := []
  signalMask : ℤ := -1
  commonView : Bool := false
  usedSignalBands : List Bytes := []
  deriving DecidableEq, Repr

/-- The data of a BESTSAT. -/
structure BestSatData where
  entryCount : ℤ := -1
  entries : List BestSatEntry := []
  deriving DecidableEq, Repr

/-- A signal of a SATSINFO. -/
structure SatsInfoSignal where
  constellation : Bytes := []
  band : Bytes := []
  systemId : ℤ := -1
  frequencyId : ℤ := -1
  cn0DbHz : ℚ := -1
  deriving DecidableEq, Repr

/-- A satellite of a SATSINFO. -/
structure SatsInfoEntry where
  constellation : Bytes := []
  prn : ℤ := -1
  azimuthDeg : ℤ := -1
  elevationDeg : ℤ := -1
  signals : List SatsInfoSignal := []
  deriving DecidableEq, Repr

/-- The data of a SATSINFO. -/
structure SatsInfoData where
  satelliteCount : ℤ := -1
  version : ℤ := -1
  frequencyFlag : ℤ := -1
  entries : List SatsInfoEntry := []
  deriving DecidableEq, Repr

/-- An observation of an OBSVMCMP. -/
structure RawObservationEntry where
  constellation : Bytes := []
  satelliteId : Bytes := []
  signalBand : Bytes := []
  systemId : ℤ := -1
  signalType : ℤ := -1
  glonassFrequencyChannel : ℤ := -1
  trackingStatus : UInt32 := 0
  pseudorangeValid : Bool := false
  carrierPhaseValid : Bool := false
  pseudorangeM : ℚ := -1
  carrierPhaseCycles : ℚ := -1
  dopplerHz : ℚ := -1
  cn0DbHz : ℚ := -1
  lockTimeSec : ℚ := -1
  pseudorangeStdM : ℚ := -1
  carrierPhaseStdCycles : ℚ := -1
  deriving DecidableEq, Repr

/-- The data of an OBSVMCMP. -/
structure RawObservationData where
  observationCount : ℤ := -1
  entries : List RawObservationEntry := []
  deriving DecidableEq, Repr

/-- The gains of both antennas, by bands. -/
structure AgcData where
  antenna1 : Vector ℤ 3 := Vector.replicate 3 (-1)
  antenna2 : Vector ℤ 3 := Vector.replicate 3 (-1)
  deriving DecidableEq, Repr

/-- The data of an HWSTATUS. -/
structure HwStatusData where
  dc09V : ℚ := -1
  dc10V : ℚ := -1
  dc18V : ℚ := -1
  clockFlag : ℤ := -1
  clockDriftMps : ℚ := -1
  hwFlag : ℤ := -1
  pllLock : ℤ := -1
  deriving DecidableEq, Repr

/-- The data of a JAMSTATUS. -/
structure JamStatusData where
  positionType : Bytes := []
  cwRatio : ℤ := -1
  cwFlag : ℤ := -1
  deriving DecidableEq, Repr

/-- The data of a FREQJAMSTATUS, by bands. -/
structure FreqJamStatusData where
  positionType : Bytes := []
  cwRatio : Vector ℤ 3 := Vector.replicate 3 (-1)
  cwFlag : Vector ℤ 3 := Vector.replicate 3 (-1)
  deriving DecidableEq, Repr

/-- The satellites in view, by the talker of the GSV. -/
structure GsvData where
  talker : Bytes := []
  satellitesInView : ℤ := 0
  deriving DecidableEq, Repr

/-- How many lines have been parsed, and how many have not. -/
structure ParserCounters where
  parsedSentences : ℕ := 0
  parseErrors : ℕ := 0
  nmeaChecksumErrors : ℕ := 0
  unicoreCrcErrors : ℕ := 0
  deriving DecidableEq, Repr

/-- What a line or frame says: the data of its kind are there, the others are not. -/
structure ParsedSentence where
  sentenceType : Bytes := []
  fix : Option FixData := none
  heading : Option HeadingData := none
  velocity : Option VelocityData := none
  bestnav : Option BestNavData := none
  rtkStatus : Option RtkStatusData := none
  rtcmStatus : Option RtcmStatusData := none
  bestsat : Option BestSatData := none
  satsinfo : Option SatsInfoData := none
  rawObservations : Option RawObservationData := none
  agc : Option AgcData := none
  hwStatus : Option HwStatusData := none
  jamStatus : Option JamStatusData := none
  freqJamStatus : Option FreqJamStatusData := none
  gsv : Option GsvData := none
  deriving DecidableEq, Repr

/-- The three elements of a `std::array<int, 3>`. -/
def triple (a b c : ℤ) : Vector ℤ 3 := #v[a, b, c]

/-- The covariance of a fix: the variances on the diagonal, east first, and zeros elsewhere. -/
def diagonalCovariance (longitudeStd latitudeStd altitudeStd : ℚ) : Vector ℚ 9 :=
  #v[longitudeStd * longitudeStd, 0, 0, 0, latitudeStd * latitudeStd, 0, 0, 0,
    altitudeStd * altitudeStd]

/-- `std::sin`, `std::cos` -/
structure MathFunctions where
  sin : ℚ → ℚ
  cos : ℚ → ℚ

/-- `M_PI`, the nearest double. -/
def pi : ℚ := 884279719003555 / 281474976710656

/-- The velocity both BESTNAV parsers derive from the speed and the track over ground. -/
def velocityFromTrack (math : MathFunctions)
    (horizontalSpeed trackDeg up horizontalStd verticalStd : ℚ) : VelocityData :=
  let trackRad := trackDeg * pi / 180
  { eastMps := horizontalSpeed * math.sin trackRad
    northMps := horizontalSpeed * math.cos trackRad
    upMps := up
    horizontalStdMps := horizontalStd
    verticalStdMps := verticalStd }

/-! ### Tables both parsers carry a copy of -/

/-- The bands of a signal mask, which depend on the constellation. -/
def bestsatSignalBands (constellation : Bytes) (signalMask : UInt32) : List Bytes :=
  let band (mask : UInt32) (name : Bytes) : List Bytes :=
    if signalMask &&& mask ≠ 0 then [name] else []
  if constellation = ascii "GPS" then
    band 0x01 (ascii "L1") ++ band 0x02 (ascii "L2") ++ band 0x04 (ascii "L5")
  else if constellation = ascii "GLO" then
    band 0x01 (ascii "L1") ++ band 0x02 (ascii "L2") ++ band 0x04 (ascii "L3")
  else if constellation = ascii "BDS" then
    band 0x01 (ascii "B1") ++ band 0x02 (ascii "B2") ++ band 0x04 (ascii "B3")
  else if constellation = ascii "GAL" then
    band 0x01 (ascii "E1") ++ band 0x02 (ascii "E5") ++ band 0x04 (ascii "E5") ++
      band 0x08 (ascii "E6")
  else []

/-- The band of a frequency id, which depends on the constellation; empty if there is none. -/
def signalBandFromFrequencyId (constellation : Bytes) (frequencyId : ℤ) : Bytes :=
  if constellation = ascii "GPS" ∨ constellation = ascii "QZSS" then
    if frequencyId ∈ [0, 3, 11] then ascii "L1"
    else if frequencyId ∈ [9, 17] then ascii "L2"
    else if frequencyId ∈ [6, 14] then ascii "L5"
    else if constellation = ascii "QZSS" ∧ frequencyId ∈ [18, 22, 24, 25] then ascii "L6"
    else []
  else if constellation = ascii "GLO" then
    if frequencyId = 0 then ascii "L1"
    else if frequencyId = 5 then ascii "L2"
    else if frequencyId ∈ [6, 7] then ascii "L3"
    else []
  else if constellation = ascii "GAL" then
    if frequencyId ∈ [1, 2] then ascii "E1"
    else if frequencyId ∈ [12, 17] then ascii "E5"
    else if frequencyId ∈ [18, 22] then ascii "E6"
    else []
  else if constellation = ascii "BDS" then
    if frequencyId ∈ [0, 4, 8, 23] then ascii "B1"
    else if frequencyId ∈ [5, 17, 12, 28, 13] then ascii "B2"
    else if frequencyId ∈ [6, 21] then ascii "B3"
    else []
  else if constellation = ascii "SBAS" then
    if frequencyId = 0 then ascii "L1"
    else if frequencyId = 6 then ascii "L5"
    else []
  else if constellation = ascii "IRNSS" then
    if frequencyId ∈ [6, 14] then ascii "L5" else []
  else []

/-- `constellation_name_from_system_id` of the text parser,
`satsinfo_constellation_name_from_system_id` of the binary one. -/
def constellationNameFromSystemId (systemId : ℤ) : Bytes :=
  match systemId with
  | 0 => ascii "GPS"
  | 1 => ascii "GLO"
  | 2 => ascii "SBAS"
  | 3 => ascii "GAL"
  | 4 => ascii "BDS"
  | 5 => ascii "QZSS"
  | 6 => ascii "IRNSS"
  | _ => ascii "UNKNOWN"

end UnicoreGnss
