import UnicoreGnss.Node.ActiveData

/-!
# Five of the diagnostics

`gps_rtk_status`, `gps_ntrip_status`, `gps_rf_status`, `gps_hardware_status` and
`gps_jamming_status` of `src/unicore_node.cpp`. Each chooses the data it is about, says how old it
is, shows it, compares the two formats if it is told to, and sums up with a level and a message.

The comparisons subtract `int`s, which need not be defined, so a status is an `Option`.

The five summaries decide in the same way: is it disabled, is there fresh data, is it good? What an
`ok` needs is said of each right after it.

## Main definitions

* `NodeState.gpsRtkStatus`, `gpsNtripStatus`, `gpsRfStatus`, `gpsHardwareStatus`,
  `gpsJammingStatus`

## Main results

* `NodeState.gpsRtkSummary_eq_ok_iff` and the like — when a status is `ok`
-/

namespace UnicoreGnss

open CNumber

/-- What all the statuses have in common. -/
def diagnosticStatus (name : String) (summary : DiagnosticLevel × Bytes) (values : List KeyValue) :
    DiagnosticStatus where
  level := summary.1
  name := ascii name
  message := summary.2
  hardwareId := ascii "unicore_n4"
  values

/-- `kv("feed_state", diagnostic_feed_state_name(…))` -/
def feedState (key : String) (enabled freshDataAvailable : Bool) : KeyValue :=
  kv key (diagnosticFeedStateName (diagnosticFeedState enabled freshDataAvailable))

/-- The status of a group that is switched off. -/
def disabledStatus (name message : String) : DiagnosticStatus :=
  diagnosticStatus name (.ok, ascii message)
    [feedState "feed_state" false false, kv "status_enabled" (boolText false)]

namespace NodeState

variable (config : NodeParameters) (s : NodeState) (now : SteadyTime)

/-- The age of the data in use, of the binary frames if that is what is in use. -/
def ageInUse {α : Type} (useBinary : Bool) (binary : Option α) (binaryAge asciiAge : Option ℚ) :
    Option ℚ :=
  if useBinary && binary.isSome then binaryAge else asciiAge

/-! ### RTK -/

/-- The quality of the BESTNAV, or else of the RTKSTATUS. -/
def rtkQuality : ℤ :=
  (s.activeBestnav config.toDiagnosticsConfig now).elim
    ((s.activeRtkStatus config now).elim 0 RtkStatusData.fixQuality) BestNavData.fixQuality

/-- The values that are always there. -/
def rtkFeedValues : List KeyValue :=
  let bestnav := s.activeBestnav config.toDiagnosticsConfig now
  let binaryRtkStatus := s.activeBinaryRtkStatus config now
  let binaryRtkstatusAge := timedAge s.latestBinaryRtkStatus now
  let bestnavAge :=
    (if config.useBinaryNav then timedAge s.latestBinaryBestnav now else none).or
      (timedAge s.latestBestnav now)
  let rtkstatusAge := ageInUse config.useBinaryRtkDiag binaryRtkStatus binaryRtkstatusAge
    (s.lastRtkstatusTime.map (ageSeconds now))
  [feedState "feed_state" true bestnav.isSome,
    feedState "bestnav_state" true bestnav.isSome,
    feedState "rtkstatus_state" true (s.activeRtkStatus config now).isSome,
    kv "status_enabled" (boolText true),
    kv "binary_bestnav_available"
      (boolText (s.activeBinaryBestnav config.toDiagnosticsConfig now).isSome),
    kv "binary_pvtsln_available" (boolText (s.activeBinaryFix config.toNodeConfig now).isSome),
    kv "binary_rtkstatus_available" (boolText binaryRtkStatus.isSome),
    kv "binary_nav_enabled" (boolText config.enableUnicoreBinary),
    kv "use_binary_nav" (boolText config.useBinaryNav),
    kv "use_binary_rtk_diag" (boolText config.useBinaryRtkDiag),
    kv "binary_nav_age_s" (ageText (s.binaryNavAge now)),
    kv "binary_rtkstatus_age_s" (ageText binaryRtkstatusAge),
    kv "last_bestnav_age_s" (ageText bestnavAge),
    kv "last_rtkstatus_age_s" (ageText rtkstatusAge),
    kv "fix_type" (fixTypeFromQuality (s.rtkQuality config now))]

/-- What is reported of the BESTNAV. -/
def rtkBestnavValues (bestnav : BestNavData) : List KeyValue :=
  [kv "solution_status" bestnav.solutionStatus,
    kv "position_type" bestnav.positionType,
    kv "diff_age_s" (toStringOrNan bestnav.diffAgeSec),
    kv "sol_age_s" (toStringOrNan bestnav.solAgeSec),
    kv "tracked_svs" (decimalInt bestnav.satellitesTracked),
    kv "soln_svs" (decimalInt bestnav.satellitesUsed),
    kv "signal_mask_gal_bds3" (toHexByte bestnav.galileoBds3SignalMask),
    kv "signal_mask_gps_glo_bds2" (toHexByte bestnav.gpsGlonassBds2SignalMask),
    kv "signals_used_gal_bds3" (describeGalileoBds3SignalMask bestnav.galileoBds3SignalMask),
    kv "signals_used_gps_glo_bds2"
      (describeGpsGloBds2SignalMask bestnav.gpsGlonassBds2SignalMask),
    kv "ext_solution_status" (toHexByte bestnav.extendedSolutionStatus),
    kv "ext_solution_detail" (describeExtSolutionStatus bestnav.extendedSolutionStatus)]

/-- What is reported of the RTKSTATUS. -/
def rtkStatusValues (status : RtkStatusData) : List KeyValue :=
  [kv "rtkstatus_position_type" status.positionType,
    kv "rtk_calculate_status" (describeRtkCalculateStatus status.calculateStatus),
    kv "adr_observations" (decimalInt status.adrObservationCount),
    kv "ion_detected" (decimalInt status.ionDetected),
    kv "dual_rtk_flag" (describeDualRtkFlag status.dualRtkFlag),
    kv "gps_corr_sats" (decimal (countBits status.gpsSourceMask)),
    kv "bds_corr_sats"
      (decimal (countBits status.bdsSourceMask1 + countBits status.bdsSourceMask2)),
    kv "glo_corr_sats" (decimal (countBits status.glonassSourceMask)),
    kv "gal_corr_sats"
      (decimal (countBits status.galileoSourceMask1 + countBits status.galileoSourceMask2)),
    kv "qzss_corr_sats" (decimal (countBits status.qzssSourceMask)),
    kv "gps_source_mask" (toHexWord status.gpsSourceMask),
    kv "bds_source_mask_1" (toHexWord status.bdsSourceMask1),
    kv "bds_source_mask_2" (toHexWord status.bdsSourceMask2),
    kv "glonass_source_mask" (toHexWord status.glonassSourceMask),
    kv "galileo_source_mask_1" (toHexWord status.galileoSourceMask1),
    kv "galileo_source_mask_2" (toHexWord status.galileoSourceMask2),
    kv "qzss_source_mask" (toHexWord status.qzssSourceMask)]

/-- The level and the message. -/
def gpsRtkSummary : DiagnosticLevel × Bytes :=
  let quality := s.rtkQuality config now
  (s.activeBestnav config.toDiagnosticsConfig now).elim
    (.error, if config.useBinaryNav then ascii "BESTNAVB stale or missing"
      else ascii "BESTNAVA stale or missing")
    fun bestnav =>
      if config.useBinaryRtkDiag && (s.activeBinaryRtkStatus config now).isNone then
        (.warn, ascii "RTKSTATUSB stale or missing")
      else if (s.activeRtkStatus config now).isNone then
        (.warn, ascii "RTKSTATUSA stale or missing")
      else if bestnav.solutionStatus ≠ ascii "SOL_COMPUTED" then
        (.error, ascii "solution not computed")
      else if ageExceeds (some bestnav.diffAgeSec) config.maxDiffAgeSec then
        (.warn, ascii "RTCM corrections too old")
      else if quality = 4 then (.ok, ascii "RTK fixed")
      else if quality = 5 then (.warn, ascii "RTK float")
      else if quality > 0 then (.warn, ascii "non-RTK solution")
      else (.error, ascii "no valid RTK solution")

/-- `gps_rtk_status` -/
def gpsRtkStatus : Option DiagnosticStatus :=
  if !config.enableRtkStatus then some (disabledStatus "GPS: RTK" "RTK diagnostics disabled")
  else
    let comparison :=
      if config.binaryCompareAscii then
        rtkComparison (s.activeAsciiRtkStatus config now) (s.activeBinaryRtkStatus config now)
      else some []
    comparison.map fun comparison => diagnosticStatus "GPS: RTK" (s.gpsRtkSummary config now)
      (s.rtkFeedValues config now ++
        (s.activeBestnav config.toDiagnosticsConfig now).elim [] rtkBestnavValues ++
        (s.activeRtkStatus config now).elim [] rtkStatusValues ++ comparison)

/-! ### RTCM injection -/

/-- What is older than the window of `gps_ntrip_status`, five seconds. -/
def outsideWindow (now stamp : SteadyTime) : Bool := 5 < ageSeconds now stamp

/-- The ids under `recent_rtcm_types`. -/
def recentTypes (ids : List ℤ) : Bytes :=
  if ids = [] then notAvailable else joinStrings (ids.map decimalInt)

/-- What is reported of the RTCMSTATUS. -/
def rtcmStatusValues (status : RtcmStatusData) : List KeyValue :=
  [kv "last_rtcm_msg_id" (decimalInt status.messageId),
    kv "last_rtcm_counter" (decimalInt status.messageCount),
    kv "last_rtcm_base_id" (decimalInt status.baseStationId),
    kv "last_rtcm_satellites" (decimalInt status.satelliteCount),
    kv "last_rtcm_l1" (decimalInt (status.observableCount.getD 0 (-1))),
    kv "last_rtcm_l2" (decimalInt (status.observableCount.getD 1 (-1))),
    kv "last_rtcm_l3" (decimalInt (status.observableCount.getD 2 (-1))),
    kv "last_rtcm_l4" (decimalInt (status.observableCount.getD 3 (-1))),
    kv "last_rtcm_l5" (decimalInt (status.observableCount.getD 4 (-1))),
    kv "last_rtcm_l6" (decimalInt (status.observableCount.getD 5 (-1)))]

/-- The age of the RTCMSTATUS in use. -/
def rtcmReceiverAge : Option ℚ :=
  ageInUse config.useBinaryRtcmDiag (s.activeBinaryRtcmStatus config now)
    (timedAge s.latestBinaryRtcmStatus now) (s.lastRtcmstatusTime.map (ageSeconds now))

/-- The rate of the injection: the writes in the window by its length. -/
def injectionRate (history : List SteadyTime) : ℚ := history.length / 5

/-- The age of the last injection. -/
def injectionAge (history : List SteadyTime) : Option ℚ := history.getLast?.map (ageSeconds now)

/-- The level and the message, with the writes in the window. -/
def gpsNtripSummary (history : List SteadyTime) : DiagnosticLevel × Bytes :=
  let label := if config.useBinaryRtcmDiag then ascii "RTCMSTATUSB" else ascii "RTCMSTATUSA"
  if history = [] then (.error, ascii "no RTCM in last 5 s")
  else if ageExceeds (injectionAge now history) config.rtcmTimeoutSec then
    (.warn, ascii "RTCM injection stale")
  else if config.enableRtcmStatus && config.useBinaryRtcmDiag &&
      (s.activeBinaryRtcmStatus config now).isNone then
    (.warn, ascii "waiting for " ++ label)
  else if config.enableRtcmStatus && (s.activeRtcmStatus config now).isNone then
    (.warn, ascii "waiting for " ++ label)
  else if config.enableRtcmStatus &&
      ageExceeds (s.rtcmReceiverAge config now) config.rtcmTimeoutSec then
    (.warn, label ++ ascii " stale")
  else
    (.ok, toStringOrNan (injectionRate history) ++ ascii " msg/s, last injection " ++
      ageText (injectionAge now history) ++ ascii " s ago")

/-- `gps_ntrip_status`, once the history is cleared. -/
def gpsNtripStatus (rtcmMessageCount rtcmByteCount : ℕ) (history : List SteadyTime) :
    Option DiagnosticStatus :=
  let comparison :=
    if config.binaryCompareAscii then
      rtcmComparison (s.activeAsciiRtcmStatus config now) (s.activeBinaryRtcmStatus config now)
    else some []
  comparison.map fun comparison =>
    diagnosticStatus "GPS: NTRIP/RTCM" (s.gpsNtripSummary config now history)
      ([kv "msgs_per_sec" (toStringOrNan (injectionRate history)),
        kv "age_of_last_injected_corr_s" (ageText (injectionAge now history)),
        kv "age_of_last_rtcmstatus_s" (ageText (s.rtcmReceiverAge config now)),
        kv "rtcm_messages_total" (decimal rtcmMessageCount),
        kv "rtcm_bytes_total" (decimal rtcmByteCount),
        kv "rtcm_status_enabled" (boolText config.enableRtcmStatus),
        kv "use_binary_rtcm_diag" (boolText config.useBinaryRtcmDiag),
        kv "binary_rtcmstatus_available"
          (boolText (s.activeBinaryRtcmStatus config now).isSome),
        kv "binary_rtcm_age_s" (ageText (timedAge s.latestBinaryRtcmStatus now)),
        kv "recent_rtcm_types" (recentTypes (if config.useBinaryRtcmDiag then
          s.recentBinaryRtcmMessageIds else s.recentRtcmMessageIds))] ++
        (s.activeRtcmStatus config now).elim [] rtcmStatusValues ++ comparison)

/-! ### Gains -/

/-- The mean gain of the antennas, if there is one. -/
def agcMean (agc : Option AgcData) (antenna : AgcData → Vector ℤ 3) : Option ℚ :=
  agc.bind fun agc => meanValidAgc (antenna agc)

/-- The mean gain of the main antenna is high. -/
def rfSignalLow (agc : Option AgcData) : Bool :=
  (agcMean agc AgcData.antenna1).elim false fun mean => 80 ≤ mean

/-- A gain of the main antenna is close to zero. -/
def rfSaturationSuspected (agc : Option AgcData) : Bool :=
  let mainMin := agc.elim (-1) fun agc => minValidAgc agc.antenna1
  0 ≤ mainMin ∧ mainMin ≤ 10

/-- The difference of two mean gains. -/
def agcMeanDelta (ascii binary : Option AgcData) (antenna : AgcData → Vector ℤ 3) : Bytes :=
  ofBoth (agcMean ascii antenna) (agcMean binary antenna) notAvailable fun asciiMean binaryMean =>
    toStringOrNan (binaryMean - asciiMean)

/-- The gains, each under its key. -/
def agcValues (agc : AgcData) : List KeyValue :=
  ["agc_main_l1", "agc_main_l2", "agc_main_l5", "agc_aux_l1", "agc_aux_l2", "agc_aux_l5"].zipWith
    (fun key value => kv key (decimalInt value)) (agc.antenna1.toList ++ agc.antenna2.toList)

/-- The level and the message. -/
def gpsRfSummary : DiagnosticLevel × Bytes :=
  let agc := s.activeAgc config now
  if agc.isNone then
    (.warn, if config.useBinaryRfDiag then ascii "AGCB/AGCA stale or missing"
      else ascii "AGCA stale or missing")
  else if config.useBinaryRfDiag && (s.activeBinaryAgc config now).isNone then
    (.warn, ascii "AGCB stale or missing")
  else if rfSaturationSuspected agc then (.warn, ascii "RF saturation/interference suspected")
  else if rfSignalLow agc then (.warn, ascii "RF signal weak or antenna gain high")
  else (.ok, ascii "RF gain nominal")

/-- `gps_rf_status` -/
def gpsRfStatus : DiagnosticStatus :=
  if !config.enableRfStatus then disabledStatus "GPS: rf" "RF diagnostics disabled"
  else
    let asciiAgc := s.activeAsciiAgc config now
    let binaryAgc := s.activeBinaryAgc config now
    let agc := s.activeAgc config now
    let binaryAge := timedAge s.latestBinaryAgc now
    diagnosticStatus "GPS: rf" (s.gpsRfSummary config now)
      ([feedState "feed_state" true agc.isSome,
        kv "status_enabled" (boolText true),
        kv "agc_available" (boolText agc.isSome),
        kv "binary_rf_available" (boolText binaryAgc.isSome),
        kv "use_binary_rf_diag" (boolText config.useBinaryRfDiag),
        kv "last_agc_age_s"
          (ageText (ageInUse config.useBinaryRfDiag binaryAgc binaryAge
            (timedAge s.latestAgc now))),
        kv "binary_rf_age_s" (ageText binaryAge),
        kv "agc_main" (agc.elim notAvailable fun agc => describeAgcValues agc.antenna1),
        kv "agc_aux" (agc.elim notAvailable fun agc => describeAgcValues agc.antenna2),
        kv "agc_main_mean" ((agcMean agc AgcData.antenna1).elim notAvailable toStringOrNan),
        kv "agc_aux_mean" ((agcMean agc AgcData.antenna2).elim notAvailable toStringOrNan),
        kv "rf_signal_low" (boolText (rfSignalLow agc)),
        kv "rf_saturation_suspected" (boolText (rfSaturationSuspected agc))] ++
        (if config.binaryCompareAscii then
          [kv "binary_ascii_agc_main_mean_delta"
              (agcMeanDelta asciiAgc binaryAgc AgcData.antenna1),
            kv "binary_ascii_agc_aux_mean_delta"
              (agcMeanDelta asciiAgc binaryAgc AgcData.antenna2)]
        else []) ++ agc.elim [] agcValues)

/-! ### Hardware -/

/-- The three voltages are in range. -/
def voltagesOk (hw : HwStatusData) : Bool :=
  voltageInRange hw.dc09V (85 / 100) 1 && voltageInRange hw.dc10V (95 / 100) (110 / 100) &&
    0 < hw.dc18V

/-- The clock is valid. -/
def clockOk (hw : HwStatusData) : Bool := hw.clockFlag = 1

/-- Some PLL is locked. -/
def pllOk (hw : HwStatusData) : Bool := hw.pllLock ≠ 0

/-- What is reported of the HWSTATUS. -/
def hwValues (hw : HwStatusData) : List KeyValue :=
  [kv "dc09_v" (toStringOrNan hw.dc09V),
    kv "dc10_v" (toStringOrNan hw.dc10V),
    kv "dc18_v" (toStringOrNan hw.dc18V),
    kv "clock_drift_mps" (toStringOrNan hw.clockDriftMps),
    kv "hw_flags" (toHexByte hw.hwFlag),
    kv "hw_flags_detail" (describeHwFlagBits hw.hwFlag),
    kv "clock_status" (describeClockStatus hw.clockFlag hw.hwFlag),
    kv "pll_status" (describePllStatus hw.pllLock),
    kv "pll_lock_mask" (toHexWord (toUint32 hw.pllLock))]

/-- The level and the message. -/
def gpsHardwareSummary : DiagnosticLevel × Bytes :=
  (s.activeHwStatus config now).elim
    (.warn, if config.useBinaryHwDiag then ascii "HWSTATUSB/HWSTATUSA stale or missing"
      else ascii "HWSTATUSA stale or missing")
    fun hw =>
      if config.useBinaryHwDiag && (s.activeBinaryHwStatus config now).isNone then
        (.warn, ascii "HWSTATUSB stale or missing")
      else if !voltagesOk hw then (.error, ascii "supply rail out of range")
      else if !clockOk hw then (.warn, ascii "clock drift invalid")
      else if !pllOk hw then (.warn, ascii "PLL lock missing")
      else (.ok, ascii "hardware healthy")

/-- `gps_hardware_status` -/
def gpsHardwareStatus : DiagnosticStatus :=
  if !config.enableHwStatus then disabledStatus "GPS: hardware" "hardware diagnostics disabled"
  else
    let asciiHw := s.activeAsciiHwStatus config now
    let binaryHw := s.activeBinaryHwStatus config now
    let hw := s.activeHwStatus config now
    let binaryAge := timedAge s.latestBinaryHwStatus now
    diagnosticStatus "GPS: hardware" (s.gpsHardwareSummary config now)
      ([feedState "feed_state" true hw.isSome,
        kv "status_enabled" (boolText true),
        kv "hwstatus_available" (boolText hw.isSome),
        kv "binary_hwstatus_available" (boolText binaryHw.isSome),
        kv "use_binary_hw_diag" (boolText config.useBinaryHwDiag),
        kv "last_hwstatus_age_s"
          (ageText (ageInUse config.useBinaryHwDiag binaryHw binaryAge
            (timedAge s.latestHwStatus now))),
        kv "binary_hwstatus_age_s" (ageText binaryAge),
        kv "hardware_ok"
          (boolText (hw.elim false fun hw => voltagesOk hw && clockOk hw && pllOk hw)),
        kv "antenna_status" (describeAntennaStatus (s.activeAgc config now))] ++
        hw.elim
          [kv "hw_flags" notAvailable, kv "clock_status" notAvailable,
            kv "pll_status" notAvailable]
          hwValues ++
        (if config.binaryCompareAscii then
          [kv "binary_ascii_clock_drift_delta_mps"
              (ofBoth asciiHw binaryHw notAvailable fun asciiHw binaryHw =>
                toStringOrNan (binaryHw.clockDriftMps - asciiHw.clockDriftMps)),
            kv "binary_ascii_hw_flag_match" (matchText asciiHw binaryHw HwStatusData.hwFlag)]
        else []))

/-! ### Jamming -/

/-- The three bands, with their ratios and flags. -/
def jamBands (freqJam : FreqJamStatusData) : List (Bytes × ℤ × ℤ) :=
  threeBands.zip (freqJam.cwRatio.toList.zip freqJam.cwFlag.toList)

/-- The strongest flag of the JAMSTATUS and of the bands. -/
def strongestFlag (jam : Option JamStatusData) (freqJam : Option FreqJamStatusData) : ℤ :=
  ((freqJam.elim [] jamBands).map fun band => band.2.2).foldl max
    (jam.elim (-1) JamStatusData.cwFlag)

/-- The largest ratio of the JAMSTATUS and of the bands. -/
def strongestRatio (jam : Option JamStatusData) (freqJam : Option FreqJamStatusData) : ℤ :=
  ((freqJam.elim [] jamBands).map fun band => band.2.1).foldl max
    (jam.elim (-1) JamStatusData.cwRatio)

/-- The bands that have a flag. -/
def jammedFrequencyText (freqJam : Option FreqJamStatusData) : Bytes :=
  freqJam.elim notAvailable fun freqJam =>
    let jammedFrequencies := ((jamBands freqJam).filter fun band => 0 < band.2.2).map Prod.fst
    if jammedFrequencies = [] then ascii "none" else joinStrings jammedFrequencies

/-- What is reported of the JAMSTATUS. -/
def jamValues (jam : JamStatusData) : List KeyValue :=
  [kv "global_position_type" jam.positionType,
    kv "global_cw_ratio" (decimalInt jam.cwRatio),
    kv "global_cw_flag" (describeJamFlag jam.cwFlag)]

/-- What is reported of the bands of the FREQJAMSTATUS. -/
def freqJamValues (freqJam : FreqJamStatusData) : List KeyValue :=
  (["l1", "l2", "l5"].zip (freqJam.cwRatio.toList.zip freqJam.cwFlag.toList)).flatMap fun band =>
    [kv ("jam_" ++ band.1 ++ "_ratio") (decimalInt band.2.1),
      kv ("jam_" ++ band.1 ++ "_flag") (describeJamFlag band.2.2)]

/-- The level and the message. -/
def gpsJammingSummary : DiagnosticLevel × Bytes :=
  let jam := s.activeJamStatus config now
  let freqJam := s.activeFreqJamStatus config now
  if jam.isNone && freqJam.isNone then
    (.warn, if config.useBinaryJammingDiag then ascii "JAMSTATUSB/FREQJAMSTATUSB stale or missing"
      else ascii "JAMSTATUSA/FREQJAMSTATUSA stale or missing")
  else if config.useBinaryJammingDiag && (s.activeBinaryJamStatus config now).isNone &&
      (s.activeBinaryFreqJamStatus config now).isNone then
    (.warn, ascii "JAMSTATUSB/FREQJAMSTATUSB stale or missing")
  else if 2 ≤ strongestFlag jam freqJam then (.error, ascii "strong jamming detected")
  else if strongestFlag jam freqJam = 1 then (.warn, ascii "jamming detected")
  else (.ok, ascii "no jamming detected")

/-- `gps_jamming_status` -/
def gpsJammingStatus : Option DiagnosticStatus :=
  if !config.enableJammingStatus then
    some (disabledStatus "GPS: jamming" "jamming diagnostics disabled")
  else
    let binaryJam := s.activeBinaryJamStatus config now
    let jam := s.activeJamStatus config now
    let binaryFreqJam := s.activeBinaryFreqJamStatus config now
    let freqJam := s.activeFreqJamStatus config now
    let binaryJamAge := timedAge s.latestBinaryJamStatus now
    let binaryFreqAge := timedAge s.latestBinaryFreqJamStatus now
    let comparison :=
      if config.binaryCompareAscii then
        jammingComparison (s.activeAsciiJamStatus config now) binaryJam
          (s.activeAsciiFreqJamStatus config now) binaryFreqJam
      else some []
    comparison.map fun comparison =>
      diagnosticStatus "GPS: jamming" (s.gpsJammingSummary config now)
      ([feedState "feed_state" true (jam.isSome || freqJam.isSome),
        kv "status_enabled" (boolText true),
        kv "jamstatus_available" (boolText jam.isSome),
        kv "freqjamstatus_available" (boolText freqJam.isSome),
        kv "binary_jamming_available" (boolText (binaryJam.isSome || binaryFreqJam.isSome)),
        kv "binary_jamstatus_available" (boolText binaryJam.isSome),
        kv "binary_freqjamstatus_available" (boolText binaryFreqJam.isSome),
        kv "use_binary_jamming_diag" (boolText config.useBinaryJammingDiag),
        kv "last_jamstatus_age_s"
          (ageText (ageInUse config.useBinaryJammingDiag binaryJam binaryJamAge
            (timedAge s.latestJamStatus now))),
        kv "last_freqjamstatus_age_s"
          (ageText (ageInUse config.useBinaryJammingDiag binaryFreqJam binaryFreqAge
            (timedAge s.latestFreqJamStatus now))),
        kv "binary_jamming_age_s" (ageText (minAge binaryJamAge binaryFreqAge)),
        kv "binary_jamstatus_age_s" (ageText binaryJamAge),
        kv "binary_freqjamstatus_age_s" (ageText binaryFreqAge),
        kv "jamming_detected" (boolText (0 < strongestFlag jam freqJam)),
        kv "jam_level" (describeJamFlag (strongestFlag jam freqJam)),
        kv "jam_ratio_max"
          (if 0 ≤ strongestRatio jam freqJam then decimalInt (strongestRatio jam freqJam)
          else notAvailable),
        kv "jammed_frequencies" (jammedFrequencyText freqJam)] ++
        jam.elim [] jamValues ++ freqJam.elim [] freqJamValues ++ comparison)

/-! ### When all is well -/

variable {config s now}

/-- **RTK is well** with a fresh BESTNAV that is fixed and not too old, and a fresh RTKSTATUS. -/
theorem gpsRtkSummary_eq_ok_iff :
    (s.gpsRtkSummary config now).1 = .ok ↔
      ∃ bestnav, s.activeBestnav config.toDiagnosticsConfig now = some bestnav ∧
        (s.activeRtkStatus config now).isSome = true ∧
        (config.useBinaryRtkDiag = true → (s.activeBinaryRtkStatus config now).isSome = true) ∧
        bestnav.solutionStatus = ascii "SOL_COMPUTED" ∧
        ageExceeds (some bestnav.diffAgeSec) config.maxDiffAgeSec = false ∧
        bestnav.fixQuality = 4 := by
  rcases hbestnav : s.activeBestnav config.toDiagnosticsConfig now with _ | bestnav
  · simp [gpsRtkSummary, hbestnav]
  · have hquality : s.rtkQuality config now = bestnav.fixQuality := by
      rw [rtkQuality, hbestnav]
      rfl
    rw [gpsRtkSummary, hbestnav, hquality]
    simp only [Option.elim_some, Option.some.injEq, exists_eq_left']
    split_ifs <;> simp_all [Option.isNone_iff_eq_none, Option.isSome_iff_ne_none]

/-- **The injection is well** with a recent write and, if it is looked at, a fresh RTCMSTATUS. -/
theorem gpsNtripSummary_eq_ok_iff {history : List SteadyTime} :
    (s.gpsNtripSummary config now history).1 = .ok ↔
      history ≠ [] ∧ ageExceeds (injectionAge now history) config.rtcmTimeoutSec = false ∧
        (config.enableRtcmStatus = true → (s.activeRtcmStatus config now).isSome = true ∧
          (config.useBinaryRtcmDiag = true →
            (s.activeBinaryRtcmStatus config now).isSome = true) ∧
          ageExceeds (s.rtcmReceiverAge config now) config.rtcmTimeoutSec = false) := by
  rw [gpsNtripSummary]
  split_ifs <;> simp_all [Option.isNone_iff_eq_none, Option.isSome_iff_ne_none]

/-- **The gains are well** with a fresh AGC that is neither too small nor too large. -/
theorem gpsRfSummary_eq_ok_iff :
    (s.gpsRfSummary config now).1 = .ok ↔
      (s.activeAgc config now).isSome = true ∧
        (config.useBinaryRfDiag = true → (s.activeBinaryAgc config now).isSome = true) ∧
        rfSaturationSuspected (s.activeAgc config now) = false ∧
        rfSignalLow (s.activeAgc config now) = false := by
  rw [gpsRfSummary]
  split_ifs <;> simp_all [Option.isNone_iff_eq_none, Option.isSome_iff_ne_none]

/-- **The hardware is well** with a fresh HWSTATUS that says so. -/
theorem gpsHardwareSummary_eq_ok_iff :
    (s.gpsHardwareSummary config now).1 = .ok ↔
      ∃ hw, s.activeHwStatus config now = some hw ∧
        (config.useBinaryHwDiag = true → (s.activeBinaryHwStatus config now).isSome = true) ∧
        voltagesOk hw = true ∧ clockOk hw = true ∧ pllOk hw = true := by
  rcases hhw : s.activeHwStatus config now with _ | hw
  · simp [gpsHardwareSummary, hhw]
  · rw [gpsHardwareSummary, hhw]
    simp only [Option.elim_some, Option.some.injEq, exists_eq_left']
    split_ifs <;> simp_all [Option.isNone_iff_eq_none, Option.isSome_iff_ne_none]

/-- **There is no jamming** if fresh data says so. -/
theorem gpsJammingSummary_eq_ok_iff :
    (s.gpsJammingSummary config now).1 = .ok ↔
      ((s.activeJamStatus config now).isSome = true ∨
        (s.activeFreqJamStatus config now).isSome = true) ∧
        (config.useBinaryJammingDiag = true → (s.activeBinaryJamStatus config now).isSome = true ∨
          (s.activeBinaryFreqJamStatus config now).isSome = true) ∧
        strongestFlag (s.activeJamStatus config now) (s.activeFreqJamStatus config now) < 1 := by
  rw [gpsJammingSummary]
  have hflag : ∀ flag : ℤ, flag < 1 ↔ ¬ 2 ≤ flag ∧ ¬ flag = 1 := by
    intro flag
    omega
  rw [hflag]
  split_ifs <;>
    simp_all [Option.isNone_iff_eq_none, Option.isSome_iff_ne_none, or_iff_not_imp_left]

end NodeState

end UnicoreGnss
