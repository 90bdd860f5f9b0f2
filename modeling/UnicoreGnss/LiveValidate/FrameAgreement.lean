import UnicoreGnss.Lib.Lockstep
import UnicoreGnss.LiveValidate.Snapshots
import UnicoreGnss.Parser.Layout
import UnicoreGnss.Parser.Obsvmcmp

/-!
# Frames read by both

The validator has its own parsers of the binary frames, one for each parser of the driver. They keep
codes where the driver keeps names, and counts where it keeps entries. But they take the same frames
and read the same numbers, and so what the validator calls a frame that it could not parse is one
that the driver has dropped. There is one exception: of a PVTSLNB the driver also reads the heading
and three velocities, and drops the frame if one of these is not finite.

## Main definitions

* `BinarySnapshot.SummaryOf` — a snapshot is that of what the driver has read
* `ReadsHeading` — what the driver asks of a PVTSLNB and the validator does not

## Main results

* `frames_agree` — both take the same frames, and read the same from them
-/

namespace UnicoreGnss.LiveValidate

open BitField Checked Cursor Ieee754 LittleEndian Summaries
open UnicoreBinaryNavParser (positionTypeName positionTypeToGgaQuality solutionStatusName)

/-! ### What a snapshot says -/

namespace BinarySnapshot

/-- The totals of satellites of these constellations and of these signals. -/
def tally (constellations : List Text) (signals : List SatsInfoSignal) : SatsinfoTotals where
  visibleByConstellation := addAll (zeros primaryConstellations) constellations
  signalCountByBand :=
    addAll (zeros primarySignals) ((signals.map SatsInfoSignal.band).filter (· ≠ []))
  cn0Values := (signals.map SatsInfoSignal.cn0DbHz).filter (0 < ·)

/-- The totals of a report of the driver, in which the first signal of a satellite counts twice. -/
def countEntries (entries : List SatsInfoEntry) : SatsinfoTotals :=
  tally (entries.map SatsInfoEntry.constellation)
    (entries.flatMap fun entry => entry.signals.take 1 ++ entry.signals)

/-- The snapshot is that of what the driver has read. An unsigned word of the frame is an `int` to
the driver. -/
def SummaryOf : BinarySnapshot → ParsedSentence → Prop
  | pvtslnb s, sentence => ∃ fix, sentence.fix = some fix ∧
      s = { s with
        fixQuality := fix.fixQuality
        latitudeDeg := fix.latitudeDeg
        longitudeDeg := fix.longitudeDeg
        altitudeM := fix.altitudeM
        satellites := fix.satellites } ∧
      fix.hdop = .finite s.hdop ∧
      fix.covariance = diagonalCovariance s.longitudeStdM s.latitudeStdM s.altitudeStdM
  | bestnavb s v, sentence => ∃ bestnav, sentence.bestnav = some bestnav ∧
      bestnav.solutionStatus = solutionStatusName (.ofNat s.solutionStatus) ∧
      bestnav.positionType = positionTypeName (.ofNat s.positionType) ∧
      s = {
        solutionStatus := s.solutionStatus
        positionType := s.positionType
        fixQuality := bestnav.fixQuality
        latitudeDeg := bestnav.latitudeDeg
        longitudeDeg := bestnav.longitudeDeg
        heightMslM := bestnav.heightMslM
        undulationM := bestnav.undulationM
        altitudeM := bestnav.heightMslM + bestnav.undulationM
        latitudeStdM := bestnav.latitudeStdM
        longitudeStdM := bestnav.longitudeStdM
        heightStdM := bestnav.heightStdM
        diffAgeSec := bestnav.diffAgeSec
        solAgeSec := bestnav.solAgeSec
        satellitesTracked := bestnav.satellitesTracked
        satellitesUsed := bestnav.satellitesUsed
        extendedSolutionStatus := bestnav.extendedSolutionStatus
        galileoBds3SignalMask := bestnav.galileoBds3SignalMask
        gpsGlonassBds2SignalMask := bestnav.gpsGlonassBds2SignalMask } ∧
      bestnav.velocitySolutionStatus = solutionStatusName (.ofNat v.velocitySolutionStatus) ∧
      bestnav.velocityType = positionTypeName (.ofNat v.velocityType) ∧
      v = {
        velocitySolutionStatus := v.velocitySolutionStatus
        velocityType := v.velocityType
        velocityLatencySec := bestnav.velocityLatencySec
        velocityAgeSec := bestnav.velocityAgeSec
        horizontalSpeedMps := bestnav.horizontalSpeedMps
        trackOverGroundDeg := bestnav.trackOverGroundDeg
        verticalSpeedMps := bestnav.verticalSpeedMps
        verticalSpeedStdMps := bestnav.verticalSpeedStdMps
        horizontalSpeedStdMps := bestnav.horizontalSpeedStdMps }
  | bestsatb s, sentence => ∃ bestsat, sentence.bestsat = some bestsat ∧
      bestsat.entryCount = toInt s.entryCount ∧ s.usedTotal = s.entryCount ∧
      s.used = addAll (zeros primaryConstellations)
        (bestsat.entries.map BestSatEntry.constellation) ∧
      s.signal = addAll (zeros primarySignals)
        (bestsat.entries.flatMap BestSatEntry.usedSignalBands)
  | satsinfob s, sentence => ∃ satsinfo, sentence.satsinfo = some satsinfo ∧
      s = (countEntries satsinfo.entries).snapshot satsinfo.satelliteCount satsinfo.version
        satsinfo.frequencyFlag
  | rtcmstatusb s, sentence => sentence.rtcmStatus = some {
      messageId := toInt s.messageId
      messageCount := toInt s.messageCount
      baseStationId := toInt s.baseStationId
      satelliteCount := toInt s.satelliteCount
      observableCount := s.observables }
  | rtkstatusb s, sentence => ∃ rtkStatus, sentence.rtkStatus = some rtkStatus ∧
      rtkStatus.positionType = positionTypeName (.ofNat s.positionType) ∧
      rtkStatus.calculateStatus = toInt s.calculateStatus ∧
      s = {
        gpsSourceMask := rtkStatus.gpsSourceMask.toNat
        bdsSourceMask1 := rtkStatus.bdsSourceMask1.toNat
        bdsSourceMask2 := rtkStatus.bdsSourceMask2.toNat
        glonassSourceMask := rtkStatus.glonassSourceMask.toNat
        galileoSourceMask1 := rtkStatus.galileoSourceMask1.toNat
        galileoSourceMask2 := rtkStatus.galileoSourceMask2.toNat
        qzssSourceMask := rtkStatus.qzssSourceMask.toNat
        positionType := s.positionType
        fixQuality := rtkStatus.fixQuality
        calculateStatus := s.calculateStatus
        ionDetected := rtkStatus.ionDetected
        dualRtkFlag := rtkStatus.dualRtkFlag
        adrObservationCount := rtkStatus.adrObservationCount }
  | agcb s, sentence => ∃ agc, sentence.agc = some agc ∧
      s = {
        agcMainMean := validMean agc.antenna1.toList
        agcAuxMean := validMean agc.antenna2.toList }
  | hwstatusb s, sentence => sentence.hwStatus = some {
      dc09V := s.dc09V
      dc10V := s.dc10V
      dc18V := s.dc18V
      clockFlag := toInt s.clockFlag
      clockDriftMps := s.clockDriftMps
      hwFlag := s.hwFlag
      pllLock := s.pllLock }
  | jamstatusb s, sentence => sentence.jamStatus = some {
      positionType := positionTypeName (.ofNat s.positionType)
      cwRatio := s.cwRatio
      cwFlag := s.cwFlag }
  | freqjamstatusb s, sentence => ∃ freqJam, sentence.freqJamStatus = some freqJam ∧
      freqJam.positionType = positionTypeName (.ofNat s.positionType) ∧
      s.bands = (freqJam.cwRatio.toList.zip freqJam.cwFlag.toList).flatMap
        fun band => [band.1, band.2]
  | obsvmcmpb s, sentence => ∃ raw, sentence.rawObservations = some raw ∧
      raw.observationCount = toInt s.observationCount ∧
      s = {
        observationCount := s.observationCount
        rawCn0MeanDbHz := mean ((raw.entries.map RawObservationEntry.cn0DbHz).filter (0 < ·))
        rawCn0MaxDbHz := ((raw.entries.map RawObservationEntry.cn0DbHz).filter (0 < ·)).max?
        rawConstellation := addAll (zeros primaryConstellations)
          (raw.entries.map RawObservationEntry.constellation)
        rawSignal := addAll (zeros primarySignals)
          ((raw.entries.map RawObservationEntry.signalBand).filter (· ≠ [])) }

end BinarySnapshot

/-- The floats of a PVTSLNB that only the driver reads are finite: the age of the corrections, the
baseline, the heading and the pitch, and the three velocities. -/
def ReadsHeading (payload : Bytes) : Prop :=
  (∀ offset ∈ [36, 100, 104, 108], (readF32 payload offset).isSome) ∧
    ∀ offset ∈ [72, 80, 88], (readF64 payload offset).isSome

instance (payload : Bytes) : Decidable (ReadsHeading payload) :=
  inferInstanceAs (Decidable (_ ∧ _))

/-! ### Reading fields -/

section Read

variable {payload : Bytes} {offset : ℕ}

theorem get_of_lt (h : offset < payload.length) :
    get payload offset = value (byteAt payload offset) := by
  apply get_of_getElem?
  rw [List.getElem?_eq_getElem h, byteAt, List.getD_eq_getElem _ _ h]

theorem fromBytes_two (payload : Bytes) (offset : ℕ) :
    fromBytes payload offset 2 = (readLe16 (payload.drop offset)).toNat := leNat_slice_two _ _

theorem fromBytes_four (payload : Bytes) (offset : ℕ) :
    fromBytes payload offset 4 = (readLe32 (payload.drop offset)).toNat := leNat_slice_four _ _

theorem readF32_of_le (h : offset + 4 ≤ payload.length) :
    readF32 payload offset = binary32.toRat (readLe32 (payload.drop offset)).toNat := by
  rw [readF32, if_neg (by omega), fromBytes_four]

theorem readF64_of_le (h : offset + 8 ≤ payload.length) :
    readF64 payload offset = binary64.toRat (leNat ((payload.drop offset).take 8)) := by
  rw [readF64, if_neg (by omega), fromBytes, slice, Nat.add_sub_cancel_left]

theorem readI16_of_le (h : offset + 2 ≤ payload.length) :
    readI16 payload offset =
      some (((readLe16 (payload.drop offset)).toNat : ℤ).bmod (2 ^ 16)) := by
  rw [readI16, if_neg (by omega), fromBytes_two]

/-- The driver reads it as well. -/
theorem driver_readU16_of_le (h : offset + 2 ≤ payload.length) :
    UnicoreBinaryNavParser.readU16 payload offset = value (readLe16 (payload.drop offset)) := by
  have hle : readLe16 ((payload.drop offset).take 2) = readLe16 (payload.drop offset) := by
    rw [readLe16, readLe16, byteAt_take Nat.zero_lt_two, byteAt_take Nat.one_lt_two]
  rw [UnicoreBinaryNavParser.readU16, UnicoreBinaryNavParser.fieldBytes_of_le h, value_bind, hle]
  rfl

theorem driver_readI16_of_le (h : offset + 2 ≤ payload.length) :
    UnicoreBinaryNavParser.readI16 payload offset =
      value (((readLe16 (payload.drop offset)).toNat : ℤ).bmod (2 ^ 16)) := by
  rw [UnicoreBinaryNavParser.readI16, driver_readU16_of_le h]
  rfl

/-- The base station is read as well, whatever its name is. -/
theorem exists_readCharArray {size : ℕ} (h : offset + size ≤ payload.length) :
    ∃ text, UnicoreBinaryNavParser.readCharArray payload offset size = value text := by
  have hrange : UnicoreBinaryNavParser.HasRange payload offset size := by
    rw [UnicoreBinaryNavParser.HasRange]
    omega
  have hbytes := UnicoreBinaryNavParser.fieldBytes_of_le h
  rw [UnicoreBinaryNavParser.fieldBytes, require_true hrange, value_bind] at hbytes
  exact ⟨_, by rw [UnicoreBinaryNavParser.readCharArray, if_pos hrange, hbytes]; rfl⟩

end Read

/-! ### Codes and names -/

/-- The two tables of position types are the same. -/
theorem positionCodeToQuality_eq (code : UInt32) :
    positionCodeToQuality code.toNat = positionTypeToGgaQuality code := by
  have hsmall : ∀ n < 70, positionCodeToQuality n = positionTypeToGgaQuality (.ofNat n) := by
    decide
  rcases Nat.lt_or_ge code.toNat 70 with h | h
  · rw [hsmall _ h, UInt32.ofNat_toNat]
  · have hother : ∀ other : UInt32, other.toNat < 70 → code ≠ other := by
      rintro other hlt rfl
      omega
    have hnone : numericMap.lookup (code.toNat : ℤ) = none := by
      rw [List.lookup_eq_none_iff]
      have hkeys : ∀ entry ∈ numericMap, entry.1 < 70 := by decide
      intro entry hentry
      have hkey := hkeys entry hentry
      rw [bne_iff_ne]
      omega
    rw [positionCodeToQuality, hnone, positionTypeToGgaQuality]
    simp [hother]

theorem bestsatConstellationNameFromSystemId_eq (systemId : UInt32) :
    bestsatConstellationNameFromSystemId systemId.toNat =
      UnicoreBinaryNavParser.bestsatConstellationNameFromSystemId systemId := by
  rw [bestsatConstellationNameFromSystemId,
    UnicoreBinaryNavParser.bestsatConstellationNameFromSystemId]
  simp only [← UInt32.toNat_inj]
  rfl

/-- A bit of a word, as the two languages test it. -/
theorem testBit_toNat (word : UInt32) {i : ℕ} (hi : i < 32) :
    (word.toNat : ℤ).testBit i = true ↔ word &&& .ofNat (2 ^ i) ≠ 0 := by
  have hpow : (2 ^ i : ℕ) < 2 ^ 32 := Nat.pow_lt_pow_right (by decide) hi
  rw [ne_eq, ← UInt32.toNat_inj, UInt32.toNat_and, UInt32.toNat_ofNat_of_lt' hpow,
    Nat.and_two_pow]
  show Nat.testBit _ _ = true ↔ _
  cases word.toNat.testBit i <;> simp

theorem bestsatSignalBands_eq (constellation : Bytes) (signalMask : UInt32) :
    bestsatSignalBands constellation signalMask.toNat =
      UnicoreGnss.bestsatSignalBands constellation signalMask := by
  rw [bestsatSignalBands, UnicoreGnss.bestsatSignalBands]
  simp only [testBit_toNat signalMask (by decide : 0 < 32),
    testBit_toNat signalMask (by decide : 1 < 32), testBit_toNat signalMask (by decide : 2 < 32),
    testBit_toNat signalMask (by decide : 3 < 32)]
  rfl

/-! ### The bits of an observation -/

section Bits

variable {payload : Bytes} {start : ℕ}

theorem readBitsLe_slice (hstart : start + 24 ≤ payload.length) {bitOffset count : ℕ}
    (h : bitOffset + count ≤ 192) :
    readBitsLe (slice payload start (start + 24)) bitOffset count =
      UnicoreBinaryNavParser.readBitsLe payload start bitOffset count := by
  induction count with
  | zero => rfl
  | succ bit ih =>
    have hbyte : (bitOffset + bit) / 8 < 24 := by omega
    have hslice : (slice payload start (start + 24)).length = 24 := by
      rw [slice, List.length_take, List.length_drop]
      omega
    have hget : get (slice payload start (start + 24)) ((bitOffset + bit) / 8) =
        value (byteAt payload (start + (bitOffset + bit) / 8)) := by
      rw [get_of_lt (by omega), slice, byteAt_take (by omega), byteAt_drop]
    have hbit (byte : UInt8) : ((byte.toNat >>> ((bitOffset + bit) % 8)) &&& 1 ≠ 0) ↔
        ((byte >>> UInt8.ofNat ((bitOffset + bit) % 8)) &&& 1 != 0) = true := by
      rw [shiftRight_and_one byte (Nat.mod_lt _ (by decide)), Nat.testBit, Nat.land_comm 1,
        bne_iff_ne]
    rw [readBitsLe, UnicoreBinaryNavParser.readBitsLe, ih (by omega), hget,
      get_of_lt (by omega : start + (bitOffset + bit) / 8 < payload.length)]
    simp only [hbit]

/-- The driver's reads of a record. -/
theorem driver_readBitsLe (hstart : start + 24 ≤ payload.length) {bitOffset count : ℕ}
    (h : bitOffset + count ≤ 192) :
    UnicoreBinaryNavParser.readBitsLe payload start bitOffset count =
      value (UnicoreBinaryNavParser.bitsOf (slice payload start (start + 24)) bitOffset count) := by
  have hlen : (slice payload start (start + 24)).length = 24 := by
    rw [slice, List.length_take, List.length_drop]
    omega
  have hfront : (payload.take start).length = start := by
    rw [List.length_take]
    omega
  have hsplit : payload.take start ++ slice payload start (start + 24) ++
      (payload.drop start).drop 24 = payload := by
    rw [slice, Nat.add_sub_cancel_left, List.append_assoc, List.take_append_drop,
      List.take_append_drop]
  have hread := UnicoreBinaryNavParser.readBitsLe_append (payload.take start)
    (slice payload start (start + 24)) ((payload.drop start).drop 24)
    (by omega : bitOffset + count ≤ 8 * (slice payload start (start + 24)).length)
  rwa [hsplit, hfront] at hread

end Bits

section Status

variable {trackingStatus : ℕ}

theorem obsvmcmpSystemId_eq (h : trackingStatus < 2 ^ 32) : obsvmcmpSystemId trackingStatus =
    (UnicoreBinaryNavParser.obsvmcmpSystemId (.ofNat trackingStatus)).toNat := by
  rw [obsvmcmpSystemId, UnicoreBinaryNavParser.obsvmcmpSystemId, UInt32.toNat_and,
    UInt32.toNat_shiftRight, UInt32.toNat_ofNat_of_lt' h]
  rfl

theorem obsvmcmpSignalType_eq (h : trackingStatus < 2 ^ 32) : obsvmcmpSignalType trackingStatus =
    (UnicoreBinaryNavParser.obsvmcmpSignalType (.ofNat trackingStatus)).toNat := by
  rw [obsvmcmpSignalType, UnicoreBinaryNavParser.obsvmcmpSignalType, UInt32.toNat_and,
    UInt32.toNat_shiftRight, UInt32.toNat_ofNat_of_lt' h]
  rfl

/-- The flag has no effect in either. -/
theorem obsvmcmpSignalBand_eq (constellation : Bytes) (signalType : UInt32)
    (l2cFlag l2cFlag' : Bool) :
    obsvmcmpSignalBand constellation signalType.toNat l2cFlag =
      UnicoreBinaryNavParser.obsvmcmpSignalBand constellation signalType l2cFlag' := by
  rw [obsvmcmpSignalBand, UnicoreBinaryNavParser.obsvmcmpSignalBand]
  simp only [UInt32.le_iff_toNat_le]
  rfl

end Status

/-! ### Counting with filters -/

theorem addAll_filter_append (table : Table Text) (names : List Text) (name : Text) :
    addAll table ((names ++ [name]).filter (· ≠ [])) =
      if name ≠ [] then add (addAll table (names.filter (· ≠ []))) name
      else addAll table (names.filter (· ≠ [])) := by
  rw [List.filter_append, addAll_append]
  split_ifs with hname
  · rw [List.filter_cons_of_pos (by simpa using hname)]
    rfl
  · rw [List.filter_cons_of_neg (by simpa using hname)]
    rfl

theorem filter_pos_append (numbers : List ℚ) (number : ℚ) :
    (numbers ++ [number]).filter (0 < ·) =
      if 0 < number then numbers.filter (0 < ·) ++ [number] else numbers.filter (0 < ·) := by
  rw [List.filter_append]
  split_ifs with hnumber
  · rw [List.filter_cons_of_pos (by simpa using hnumber), List.filter_nil]
  · rw [List.filter_cons_of_neg (by simpa using hnumber), List.filter_nil, List.append_nil]

/-! ### Message by message -/

section Messages

variable {payload : Bytes}

open BinarySnapshot (SummaryOf)

theorem lockstep_hwstatusb : Lockstep (fun s => SummaryOf (.hwstatusb s)) (parseHwstatusb payload)
    (UnicoreBinaryNavParser.parseHwstatusb payload) := by
  refine Lockstep.require_bind Iff.rfl fun hlen => ?_
  simp (disch := omega) only [readF32_of_le, fromBytes_four, fromBytes_two, get_of_lt,
    UnicoreBinaryNavParser.readFloat32_of_le, UnicoreBinaryNavParser.readU32_of_le,
    driver_readU16_of_le, UnicoreBinaryNavParser.readU8_of_lt, value_bind]
  repeat refine Lockstep.ofOption_bind fun _ => ?_
  exact .value rfl

theorem lockstep_jamstatusb : Lockstep (fun s => SummaryOf (.jamstatusb s))
    (parseJamstatusb payload) (UnicoreBinaryNavParser.parseJamstatusb payload) := by
  refine Lockstep.require_bind Iff.rfl fun hlen => ?_
  simp (disch := omega) only [fromBytes_four, get_of_lt, UnicoreBinaryNavParser.readU32_of_le,
    UnicoreBinaryNavParser.readU8_of_lt, value_bind]
  refine .value ?_
  rw [SummaryOf, UInt32.ofNat_toNat]

theorem lockstep_rtkstatusb : Lockstep (fun s => SummaryOf (.rtkstatusb s))
    (parseRtkstatusb payload) (UnicoreBinaryNavParser.parseRtkstatusb payload) := by
  refine Lockstep.require_bind Iff.rfl fun hlen => ?_
  simp (disch := omega) only [fromBytes_four, get_of_lt, UnicoreBinaryNavParser.readU32_of_le,
    UnicoreBinaryNavParser.readU8_of_lt, value_bind]
  refine .value ?_
  rw [SummaryOf]
  refine ⟨_, rfl, ?_, ?_, ?_⟩
  · rw [UInt32.ofNat_toNat]
  · dsimp only
  · rw [positionCodeToQuality_eq]

theorem lockstep_bestnavb (math : MathFunctions) :
    Lockstep (fun s => SummaryOf (.bestnavb s.1 s.2)) (parseBestnavb payload)
      (UnicoreBinaryNavParser.parseBestnavb math payload) := by
  refine Lockstep.require_bind Iff.rfl fun hlen => ?_
  simp (disch := omega) only [readF32_of_le, readF64_of_le, fromBytes_four, get_of_lt,
    UnicoreBinaryNavParser.readFloat32_of_le, UnicoreBinaryNavParser.readFloat64_of_le,
    UnicoreBinaryNavParser.readU32_of_le, UnicoreBinaryNavParser.readU8_of_lt, value_bind]
  repeat refine Lockstep.ofOption_bind fun _ => ?_
  obtain ⟨baseStationId, hread⟩ := exists_readCharArray (by omega : 52 + 4 ≤ payload.length)
  rw [hread]
  refine .value ?_
  rw [SummaryOf]
  refine ⟨_, rfl, ?_, ?_, ?_, ?_, ?_, ?_⟩
  · rw [UInt32.ofNat_toNat]
  · rw [UInt32.ofNat_toNat]
  · rw [positionCodeToQuality_eq]
  · rw [UInt32.ofNat_toNat]
  · rw [UInt32.ofNat_toNat]
  · rfl

/-- Bytes in a row. -/
theorem forRange_get {offset n : ℕ} (h : offset + n ≤ payload.length) :
    forRange (fun i => get payload (offset + i)) n =
      value ((List.range n).map fun i => byteAt payload (offset + i)) :=
  forRange_of_lt fun i hi => get_of_lt (by omega)

/-- The driver reads the same bytes. -/
theorem forRange_readU8 {offset n : ℕ} (h : offset + n ≤ payload.length) :
    forRange (fun i => UnicoreBinaryNavParser.readU8 payload (offset + i)) n =
      value ((List.range n).map fun i => byteAt payload (offset + i)) :=
  forRange_of_lt fun i hi => UnicoreBinaryNavParser.readU8_of_lt (by omega)

theorem lockstep_rtcmstatusb : Lockstep (fun s => SummaryOf (.rtcmstatusb s))
    (parseRtcmstatusb payload) (UnicoreBinaryNavParser.parseRtcmstatusb payload) := by
  refine Lockstep.require_bind Iff.rfl fun hlen => ?_
  rw [forRange_get (by omega), forRange_readU8 (by omega)]
  simp (disch := omega) only [fromBytes_four, UnicoreBinaryNavParser.readU32_of_le, value_bind]
  exact .value rfl

theorem lockstep_agcb : Lockstep (fun s => SummaryOf (.agcb s)) (parseAgcb payload)
    (UnicoreBinaryNavParser.parseAgcb payload) := by
  refine Lockstep.require_bind Iff.rfl fun hlen => ?_
  simp (disch := omega) only [List.mapM_cons, List.mapM_nil, readI16_of_le, driver_readI16_of_le,
    ofOption_some, pure_eq, value_bind]
  exact .value ⟨_, rfl, rfl⟩

theorem lockstep_freqjamstatusb : Lockstep (fun s => SummaryOf (.freqjamstatusb s))
    (parseFreqjamstatusb payload) (UnicoreBinaryNavParser.parseFreqjamstatusb payload) := by
  refine Lockstep.require_bind Iff.rfl fun hlen => ?_
  rw [forRange_get (by omega)]
  simp (disch := omega) only [fromBytes_four, UnicoreBinaryNavParser.readU32_of_le,
    UnicoreBinaryNavParser.readU8_of_lt, value_bind]
  refine .value ⟨_, rfl, ?_, rfl⟩
  rw [UInt32.ofNat_toNat]

/-- The tables of a BESTSAT are those of the driver's entries. -/
def BestsatTables (tables : Table Text × Table Text) (entries : List BestSatEntry) : Prop :=
  tables.1 = addAll (zeros primaryConstellations) (entries.map BestSatEntry.constellation) ∧
    tables.2 = addAll (zeros primarySignals) (entries.flatMap BestSatEntry.usedSignalBands)

theorem lockstep_bestsatb : Lockstep (fun s => SummaryOf (.bestsatb s)) (parseBestsatb payload)
    (UnicoreBinaryNavParser.parseBestsatb payload) := by
  rw [parseBestsatb, UnicoreBinaryNavParser.parseBestsatb]
  by_cases hlen : 4 ≤ payload.length
  · rw [require_true hlen, UnicoreBinaryNavParser.readU32_of_le (by omega), fromBytes_four]
    refine Lockstep.require_bind Iff.rfl fun hentries => ?_
    refine Lockstep.bind (R := BestsatTables) ?_ ?_
    · refine Lockstep.foldRange_forRange ?_ ⟨rfl, rfl⟩
      rintro i hi tables entries ⟨hused, hsignal⟩
      rw [UnicoreBinaryNavParser.bestsatbEntry]
      simp (disch := omega) only [fromBytes_four, UnicoreBinaryNavParser.readU32_of_le, value_bind]
      refine .value ⟨?_, ?_⟩
      · rw [countUsed, hused, bestsatConstellationNameFromSystemId_eq, List.map_append,
          addAll_append]
        rfl
      · rw [countUsed, hsignal, bestsatConstellationNameFromSystemId_eq, bestsatSignalBands_eq,
          List.flatMap_append, addAll_append, List.flatMap_singleton]
    · rintro tables entries ⟨hused, hsignal⟩
      refine .value ?_
      rw [SummaryOf, bestsatSnapshot]
      refine ⟨_, rfl, ?_, rfl, hused, hsignal⟩
      dsimp only
  · have hrange : ¬ UnicoreBinaryNavParser.HasRange payload 0 4 := by
      rw [UnicoreBinaryNavParser.HasRange]
      omega
    rw [require_false hlen, UnicoreBinaryNavParser.readU32, UnicoreBinaryNavParser.fieldBytes,
      require_false hrange]
    exact .refused

/-- The totals of an OBSVMCMP are those of the driver's entries. -/
structure ObsvmcmpTallies (totals : ObsvmcmpTotals) (entries : List RawObservationEntry) :
    Prop where
  constellation : totals.rawByConstellation =
    addAll (zeros primaryConstellations) (entries.map RawObservationEntry.constellation)
  signal : totals.rawBySignal = addAll (zeros primarySignals)
    ((entries.map RawObservationEntry.signalBand).filter (· ≠ []))
  cn0 : totals.cn0Values = (entries.map RawObservationEntry.cn0DbHz).filter (0 < ·)

/-- What the driver reads of a record that the validator reads as well. -/
theorem exists_obsvmcmpbEntry {start : ℕ} (h : start + 24 ≤ payload.length) {record : Bytes}
    (hrecord : slice payload start (start + 24) = record) {status cn0 : ℕ}
    (hstatus : UnicoreBinaryNavParser.bitsOf record 0 32 = status)
    (hcn0 : UnicoreBinaryNavParser.bitsOf record 165 5 = cn0) :
    ∃ entry, UnicoreBinaryNavParser.obsvmcmpbEntry payload start = value entry ∧
      entry.constellation = constellationNameFromSystemId (obsvmcmpSystemId status) ∧
      entry.signalBand = obsvmcmpSignalBand entry.constellation (obsvmcmpSignalType status)
        (obsvmcmpL2cFlag status) ∧
      entry.cn0DbHz = if cn0 = 0 then 0 else 20 + (cn0 : ℚ) := by
  have hlt : status < 2 ^ 32 := by
    rw [← hstatus]
    exact gather_lt _ _
  have hrange : UnicoreBinaryNavParser.HasRange payload start 24 := by
    rw [UnicoreBinaryNavParser.HasRange]
    omega
  rw [UnicoreBinaryNavParser.obsvmcmpbEntry, require_true hrange]
  simp (disch := omega) only [driver_readBitsLe h, hrecord, hstatus, hcn0, value_bind]
  refine ⟨_, rfl, ?_, ?_, rfl⟩
  · rw [obsvmcmpSystemId_eq hlt]
    rfl
  · rw [obsvmcmpSignalType_eq hlt]
    exact (obsvmcmpSignalBand_eq _ _ _
      (UnicoreBinaryNavParser.obsvmcmpL2cFlag (.ofNat status))).symm

/-- **One more observation** is counted. -/
theorem lockstep_obsvmcmpbRecord {i : ℕ} (h : 4 + i * 24 + 24 ≤ payload.length)
    {totals : ObsvmcmpTotals} {entries : List RawObservationEntry}
    (htallies : ObsvmcmpTallies totals entries) :
    Lockstep (fun totals' entry => ObsvmcmpTallies totals' (entries ++ [entry]))
      (obsvmcmpbRecord payload totals i)
      (UnicoreBinaryNavParser.obsvmcmpbEntry payload (4 + i * 24)) := by
  rw [obsvmcmpbRecord]
  simp (disch := omega) only [readBitsLe_slice h, driver_readBitsLe h, value_bind]
  generalize hrecord : slice payload (4 + i * 24) (4 + i * 24 + 24) = record
  generalize hstatus : UnicoreBinaryNavParser.bitsOf record 0 32 = status
  generalize hcn0 : UnicoreBinaryNavParser.bitsOf record 165 5 = cn0
  obtain ⟨entry, hentry, hconstellation, hband, hratio⟩ :=
    exists_obsvmcmpbEntry h hrecord hstatus hcn0
  rw [hentry, ← hconstellation, ← hband]
  refine .value ⟨?_, ?_, ?_⟩
  · rw [List.map_append, addAll_append, htallies.constellation]
    rfl
  · rw [List.map_append, List.map_singleton, addAll_filter_append, htallies.signal]
  · have hpos : 0 < entry.cn0DbHz ↔ 0 < cn0 := by
      rw [hratio, Nat.pos_iff_ne_zero]
      split_ifs with hzero
      · exact iff_of_false (lt_irrefl _) (not_not_intro hzero)
      · exact iff_of_true (by positivity) hzero
    rw [List.map_append, List.map_singleton, filter_pos_append, htallies.cn0]
    simp only [hpos]
    split_ifs with hcode
    · rw [hratio, if_neg hcode.ne']
    · rfl

theorem lockstep_obsvmcmpb : Lockstep (fun s => SummaryOf (.obsvmcmpb s)) (parseObsvmcmpb payload)
    (UnicoreBinaryNavParser.parseObsvmcmpb payload) := by
  refine Lockstep.require_bind Iff.rfl fun hlen => ?_
  rw [UnicoreBinaryNavParser.readU32_of_le (by omega), fromBytes_four]
  refine Lockstep.require_bind Iff.rfl fun hrecords => ?_
  refine Lockstep.bind (R := ObsvmcmpTallies) ?_ ?_
  · refine Lockstep.foldRange_forRange ?_ ⟨rfl, rfl, rfl⟩
    intro i hi totals entries htallies
    exact lockstep_obsvmcmpbRecord (by omega) htallies
  · rintro totals entries ⟨hconstellation, hsignal, hcn0⟩
    refine .value ?_
    rw [SummaryOf]
    refine ⟨_, rfl, ?_, ?_⟩
    · dsimp only
    · rw [hconstellation, hsignal, hcn0]

/-- The signal of a SATSINFOB that the driver reads there. -/
def signalAt (payload : Bytes) (offset : ℕ) : SatsInfoSignal where
  constellation := constellationNameFromSystemId (byteAt payload offset).toNat
  band := signalBandFromFrequencyId (constellationNameFromSystemId (byteAt payload offset).toNat)
    (byteAt payload (offset + 2)).toNat
  systemId := (byteAt payload offset).toNat
  frequencyId := (byteAt payload (offset + 2)).toNat
  cn0DbHz := (byteAt payload (offset + 1)).toNat

theorem driver_satsinfobSignal {offset : ℕ} (h : offset + 4 ≤ payload.length) :
    UnicoreBinaryNavParser.satsinfobSignal payload offset = value (signalAt payload offset) := by
  rw [UnicoreBinaryNavParser.satsinfobSignal]
  simp (disch := omega) only [UnicoreBinaryNavParser.readU8_of_lt, value_bind]
  rw [signalAt, signalBandFromFrequencyId_eq]
  rfl

/-- **A signal** is counted. -/
theorem countSignal_tally (constellations : List Text) (signals : List SatsInfoSignal)
    (offset : ℕ) :
    (BinarySnapshot.tally constellations signals).countSignal
      (constellationNameFromSystemId (byteAt payload offset).toNat)
      (byteAt payload (offset + 1)).toNat (byteAt payload (offset + 2)).toNat =
    BinarySnapshot.tally constellations (signals ++ [signalAt payload offset]) := by
  have hcn0 : (0 : ℤ) < (byteAt payload (offset + 1)).toNat ↔
      0 < (signalAt payload offset).cn0DbHz := by
    show _ ↔ (0 : ℚ) < ((byteAt payload (offset + 1)).toNat : ℚ)
    rw [Nat.cast_pos, Nat.cast_pos]
  rw [BinarySnapshot.tally, BinarySnapshot.tally, SatsinfoTotals.countSignal, List.map_append,
    List.map_append, List.map_singleton, List.map_singleton, addAll_filter_append,
    filter_pos_append]
  simp only [hcn0]
  rfl

/-- **All signals** of a satellite are counted. -/
theorem lockstep_satsinfobSignals {cursor n : ℕ} (h : cursor + (4 + n * 4) ≤ payload.length)
    (constellations : List Text) (signals : List SatsInfoSignal) :
    Lockstep (fun totals more => totals = BinarySnapshot.tally constellations (signals ++ more))
      (foldRange (satsinfobSignal payload cursor) n
        (BinarySnapshot.tally constellations signals))
      (forRange (fun i => UnicoreBinaryNavParser.satsinfobSignal payload (cursor + 4 + i * 4))
        n) := by
  refine Lockstep.foldRange_forRange ?_ (by rw [List.append_nil])
  rintro i hi totals more rfl
  rw [driver_satsinfobSignal (by omega), satsinfobSignal]
  simp (disch := omega) only [get_of_lt, value_bind]
  refine .value ?_
  rw [countSignal_tally, List.append_assoc]

/-- **A satellite** is counted with its signals, and once more with the first of them. -/
theorem lockstep_satsinfobSatellite (cursor : ℕ) (totals : SatsinfoTotals)
    (entries : List SatsInfoEntry) (htotals : totals = BinarySnapshot.countEntries entries) :
    Lockstep (fun p q => p.1 = BinarySnapshot.countEntries (entries ++ [q.1]) ∧ p.2 = q.2)
      (satsinfobSatellite totals payload cursor)
      (UnicoreBinaryNavParser.satsinfobSatellite payload cursor) := by
  have hhead : cursor + 7 < payload.length ↔ UnicoreBinaryNavParser.HasRange payload cursor 8 := by
    rw [UnicoreBinaryNavParser.HasRange]
    omega
  refine Lockstep.require_bind hhead fun hlen => ?_
  simp (disch := omega) only [get_of_lt, UnicoreBinaryNavParser.readU8_of_lt,
    driver_readI16_of_le, value_bind]
  refine Lockstep.require_bind Iff.rfl fun hcount => ?_
  refine Lockstep.require_bind ?_ fun hrecord => ?_
  · rw [UnicoreBinaryNavParser.HasRange]
    omega
  generalize hn : (byteAt payload (cursor + 7)).toNat = n at hrecord ⊢
  have hpos : n ≠ 0 := by
    rintro rfl
    exact hcount (UInt8.toNat_inj.mp hn)
  set constellation := constellationNameFromSystemId (byteAt payload (cursor + 4)).toNat
  have hfirst : (totals.countSatellite constellation).countSignal constellation
      (byteAt payload (cursor + 5)).toNat (byteAt payload (cursor + 6)).toNat =
      BinarySnapshot.tally (entries.map SatsInfoEntry.constellation ++ [constellation])
        ((entries.flatMap fun entry => entry.signals.take 1 ++ entry.signals) ++
          [signalAt payload (cursor + 4)]) := by
    rw [← countSignal_tally, htotals]
    congr 1
    rw [BinarySnapshot.tally, addAll_append]
    rfl
  have hloop := lockstep_satsinfobSignals hrecord
    (entries.map SatsInfoEntry.constellation ++ [constellation])
    ((entries.flatMap fun entry => entry.signals.take 1 ++ entry.signals) ++
      [signalAt payload (cursor + 4)])
  have hsignals : forRange
      (fun i => UnicoreBinaryNavParser.satsinfobSignal payload (cursor + 4 + i * 4)) n =
      value ((List.range n).map fun i => signalAt payload (cursor + 4 + i * 4)) :=
    forRange_of_lt fun i hi => driver_satsinfobSignal (by omega)
  rw [hsignals] at hloop ⊢
  rw [hfirst]
  obtain ⟨totals', hfold, htotals'⟩ := hloop.exists_of_value_right
  rw [hfold]
  refine .value ⟨?_, rfl⟩
  have htake : ((List.range n).map fun i => signalAt payload (cursor + 4 + i * 4)).take 1 =
      [signalAt payload (cursor + 4)] := by
    obtain ⟨m, rfl⟩ := Nat.exists_eq_succ_of_ne_zero hpos
    rw [List.range_succ_eq_map]
    rfl
  rw [htotals', BinarySnapshot.countEntries, List.map_append, List.flatMap_append,
    List.flatMap_singleton, htake, List.append_assoc]
  rfl

theorem lockstep_satsinfob : Lockstep (fun s => SummaryOf (.satsinfob s)) (parseSatsinfob payload)
    (UnicoreBinaryNavParser.parseSatsinfob payload) := by
  refine Lockstep.require_bind Iff.rfl fun hlen => ?_
  simp (disch := omega) only [get_of_lt, UnicoreBinaryNavParser.readU8_of_lt, value_bind]
  have hall : Lockstep (fun p q => p.1 = BinarySnapshot.countEntries ([] ++ q.1) ∧ p.2 = q.2)
      (gatherMany satsinfobSatellite (byteAt payload 0).toNat {} payload 6)
      (readMany UnicoreBinaryNavParser.satsinfobSatellite (byteAt payload 0).toNat payload 6) :=
    Lockstep.gatherMany_readMany lockstep_satsinfobSatellite _ _ rfl
  refine hall.bind ?_
  rintro ⟨totals, cursor⟩ ⟨entries, cursor'⟩ ⟨htotals, -⟩
  refine .value ?_
  rw [SummaryOf]
  exact ⟨_, rfl, by rw [htotals]; rfl⟩

theorem lockstep_pvtslnb (hheading : 140 ≤ payload.length → ReadsHeading payload) :
    Lockstep (fun s => SummaryOf (.pvtslnb s)) (parsePvtslnb payload)
      (UnicoreBinaryNavParser.parsePvtslnb payload) := by
  refine Lockstep.require_bind Iff.rfl fun hlen => ?_
  obtain ⟨hfloats, hdoubles⟩ := hheading hlen
  have hread32 : ∀ {offset}, offset ∈ [36, 100, 104, 108] → offset + 4 ≤ payload.length →
      ∃ x, UnicoreBinaryNavParser.readFloat32 payload offset = value x := by
    intro offset hmem hle
    have hsome := hfloats offset hmem
    rw [readF32_of_le hle, Option.isSome_iff_exists] at hsome
    obtain ⟨x, hx⟩ := hsome
    exact ⟨x, by rw [UnicoreBinaryNavParser.readFloat32_of_le hle, hx, ofOption_some]⟩
  have hread64 : ∀ {offset}, offset ∈ [72, 80, 88] → offset + 8 ≤ payload.length →
      ∃ x, UnicoreBinaryNavParser.readFloat64 payload offset = value x := by
    intro offset hmem hle
    have hsome := hdoubles offset hmem
    rw [readF64_of_le hle, Option.isSome_iff_exists] at hsome
    obtain ⟨x, hx⟩ := hsome
    exact ⟨x, by rw [UnicoreBinaryNavParser.readFloat64_of_le hle, hx, ofOption_some]⟩
  obtain ⟨age, hage⟩ := hread32 (by decide : 36 ∈ _) (by omega)
  obtain ⟨length, hlength⟩ := hread32 (by decide : 100 ∈ _) (by omega)
  obtain ⟨degree, hdegree⟩ := hread32 (by decide : 104 ∈ _) (by omega)
  obtain ⟨pitch, hpitch⟩ := hread32 (by decide : 108 ∈ _) (by omega)
  obtain ⟨north, hnorth⟩ := hread64 (by decide : 72 ∈ _) (by omega)
  obtain ⟨east, heast⟩ := hread64 (by decide : 80 ∈ _) (by omega)
  obtain ⟨ground, hground⟩ := hread64 (by decide : 88 ∈ _) (by omega)
  simp only [hage, hlength, hdegree, hpitch, hnorth, heast, hground, value_bind]
  simp (disch := omega) only [readF32_of_le, readF64_of_le, fromBytes_four, get_of_lt,
    UnicoreBinaryNavParser.readFloat32_of_le, UnicoreBinaryNavParser.readFloat64_of_le,
    UnicoreBinaryNavParser.readU32_of_le, UnicoreBinaryNavParser.readU8_of_lt, value_bind]
  repeat refine Lockstep.ofOption_bind fun _ => ?_
  refine .value ?_
  rw [SummaryOf]
  refine ⟨_, rfl, ?_, rfl, rfl⟩
  rw [positionCodeToQuality_eq]

/-- Without the heading the driver drops the frame. -/
theorem parsePvtslnb_of_not_readsHeading (hlen : 140 ≤ payload.length)
    (h : ¬ ReadsHeading payload) : UnicoreBinaryNavParser.parsePvtslnb payload = refused := by
  rw [UnicoreBinaryNavParser.parsePvtslnb, require_true hlen]
  simp (disch := omega) only [UnicoreBinaryNavParser.readFloat32_of_le,
    UnicoreBinaryNavParser.readFloat64_of_le, UnicoreBinaryNavParser.readU32_of_le,
    UnicoreBinaryNavParser.readU8_of_lt, value_bind]
  repeat refine ofOption_bind_eq_refused fun _ _ => ?_
  refine absurd ?_ h
  rw [ReadsHeading]
  simp (disch := omega) only [List.forall_mem_cons, List.not_mem_nil, false_imp_iff,
    implies_true, readF32_of_le, readF64_of_le, *, Option.isSome_some, and_self]

end Messages

/-- The driver refuses the PVTSLNB frames without a heading. -/
theorem parse_of_not_readsHeading {math : MathFunctions} {frame : UnicoreBinaryFrame}
    (h : frame.messageId.toNat = 1021 ∧ 140 ≤ frame.payload.length ∧ ¬ ReadsHeading frame.payload) :
    UnicoreBinaryNavParser.parse math frame = refused := by
  obtain ⟨hid, hlen, hheading⟩ := h
  rw [UnicoreBinaryNavParser.parse, hid]
  exact parsePvtslnb_of_not_readsHeading hlen hheading

/-- Any other frame is read alike. -/
theorem lockstep_parse {math : MathFunctions} {frame : UnicoreBinaryFrame}
    (h : ¬ (frame.messageId.toNat = 1021 ∧ 140 ≤ frame.payload.length ∧
      ¬ ReadsHeading frame.payload)) :
    Lockstep BinarySnapshot.SummaryOf (parseFrame frame.messageId.toNat frame.payload)
      (UnicoreBinaryNavParser.parse math frame) := by
  rw [UnicoreBinaryNavParser.parse]
  split
  case h_1 hid => rw [hid]; exact lockstep_obsvmcmpb.map_left
  case h_2 hid => rw [hid]; exact lockstep_agcb.map_left
  case h_3 hid => rw [hid]; exact lockstep_rtkstatusb.map_left
  case h_4 hid => rw [hid]; exact lockstep_jamstatusb.map_left
  case h_5 hid => rw [hid]; exact lockstep_freqjamstatusb.map_left
  case h_6 hid =>
    rw [hid]
    exact (lockstep_pvtslnb fun hlen =>
      not_not.mp fun hheading => h ⟨hid, hlen, hheading⟩).map_left
  case h_7 hid => rw [hid]; exact lockstep_bestsatb.map_left
  case h_8 hid => rw [hid]; exact (lockstep_bestnavb math).map_left
  case h_9 hid => rw [hid]; exact lockstep_satsinfob.map_left
  case h_10 hid => rw [hid]; exact lockstep_rtcmstatusb.map_left
  case h_11 hid => rw [hid]; exact lockstep_hwstatusb.map_left
  case h_12 =>
    have hunknown : parseFrame frame.messageId.toNat frame.payload = refused := by
      rw [parseFrame]
      repeat rw [if_neg (by assumption)]
    rw [hunknown]
    exact .refused

/-- **The two read the same frames**, and a snapshot is that of what the driver reads: for every
message id, known or not, and every payload, of whatever length. The one exception is a PVTSLNB long
enough for both in which a float that only the driver reads is not finite: the driver drops it. -/
theorem frames_agree (math : MathFunctions) (frame : UnicoreBinaryFrame) :
    if frame.messageId.toNat = 1021 ∧ 140 ≤ frame.payload.length ∧
        ¬ ReadsHeading frame.payload then
      UnicoreBinaryNavParser.parse math frame = refused
    else Lockstep BinarySnapshot.SummaryOf (parseFrame frame.messageId.toNat frame.payload)
      (UnicoreBinaryNavParser.parse math frame) := by
  split_ifs with hdropped
  · exact parse_of_not_readsHeading hdropped
  · exact lockstep_parse hdropped

end UnicoreGnss.LiveValidate
