import UnicoreGnss.Node.Statuses

/-!
# Counting satellites and observations

`gps_satellites_status` and `gps_raw_observation_status` of `src/unicore_node.cpp`. Visible
satellites are counted from a fresh SATSINFO and, without one, from the totals of the GSV sentences,
of which there is one for each talker. Both functions count in hash tables, and hand on the order in
which these list their keys. The keys are therefore an argument here.

## Main definitions

* `NodeState.gpsSatellitesStatus`
* `NodeState.gpsRawObservationStatus`

## Main results

* `NodeState.gpsSatellitesSummary_eq_ok_iff`, `gpsRawObservationSummary_eq_ok_iff`
* `NodeState.gpsRawObservationStatus_perm` — the raw observations do not depend on that order
-/

namespace UnicoreGnss

open CNumber Summaries

/-- `a + b` on `int`, or nothing where it overflows. -/
def intAdd (a b : ℤ) : Option ℤ :=
  if -2 ^ 31 ≤ a + b ∧ a + b < 2 ^ 31 then some (a + b) else none

/-- `kPrimaryConstellations` -/
def primaryConstellations : List Bytes :=
  [ascii "GPS", ascii "GLO", ascii "GAL", ascii "BDS", ascii "QZSS"]

/-- `kTrackedBands` -/
def trackedBands : List Bytes :=
  [ascii "L1", ascii "L2", ascii "L5", ascii "E1", ascii "E5", ascii "B1", ascii "B2", ascii "B3"]

/-- `kTalkerNames` -/
def talkerNames : List (Bytes × Bytes) :=
  [(ascii "GP", ascii "GPS"), (ascii "GL", ascii "GLO"), (ascii "GA", ascii "GAL"),
    (ascii "GB", ascii "BDS"), (ascii "GQ", ascii "QZSS"), (ascii "GI", ascii "IRNSS"),
    (ascii "GN", ascii "GNSS")]

/-- The constellation of a talker, if it is in the table. -/
def talkerLabel (talker : Bytes) : Bytes := (talkerNames.lookup talker).getD talker

/-- The signals of all satellites. -/
def SatsInfoData.signals (satsinfo : SatsInfoData) : List SatsInfoSignal :=
  satsinfo.entries.flatMap SatsInfoEntry.signals

/-- `cn0_accumulator_from_satsinfo` -/
def cn0AccumulatorFromSatsinfo (satsinfo : Option SatsInfoData) : Cn0Accumulator :=
  .addAll ((satsinfo.elim [] SatsInfoData.signals).map SatsInfoSignal.cn0DbHz)

/-- A difference of two `int`s, of which the first need not be there. -/
def optionalDeltaText (binary : Option ℤ) (ascii : ℤ) : Option Bytes :=
  binary.elim (some notAvailable) fun binary => (intSub binary ascii).map decimalInt

namespace NodeState

variable (config : NodeParameters) (s : NodeState) (now : SteadyTime)

/-! ### GSV -/

/-- The satellites in view by the last GSV sentence of a talker; none if that is stale. -/
def gsvCount (talker : Bytes) : ℤ :=
  (s.gsvCounts talker).elim 0 fun timed =>
    if isFresh now timed.receivedAt config.dataTimeoutSec then timed.data else 0

/-- Their sum. -/
def gsvTotal (talkers : List Bytes) : Option ℤ :=
  talkers.foldlM (fun total talker => intAdd total (s.gsvCount config now talker)) 0

/-- The table of constellations after the talkers. -/
def gsvVisible (talkers : List Bytes) : Bytes → ℤ :=
  talkers.foldl (fun visible talker =>
    Function.update visible (talkerLabel talker) (s.gsvCount config now talker)) fun _ => 0

/-! ### Counts -/

/-- The SATSINFO that the counts are from. -/
def countedSatsinfo : Option SatsInfoData :=
  if config.enableSatsinfo then s.activeSatsinfo config now else none

/-- `visible_total`: the satellites of SATSINFO, or else those that GSV reports. -/
def visibleTotal (total : ℤ) : ℤ :=
  (s.countedSatsinfo config now).elim total fun satsinfo => satsinfo.entries.length

/-- The visible satellites of a constellation. -/
def visibleByConstellation (talkers : List Bytes) : Bytes → ℤ :=
  (s.countedSatsinfo config now).elim (s.gsvVisible config now talkers) fun satsinfo name =>
    (satsinfo.entries.map SatsInfoEntry.constellation).count name

/-- The C/N0 of the signals of a constellation. -/
def cn0ByConstellation (name : Bytes) : Cn0Accumulator :=
  .addAll ((((s.countedSatsinfo config now).elim [] SatsInfoData.signals).filter
    fun signal => signal.constellation = name).map SatsInfoSignal.cn0DbHz)

/-- The signals in a band that have a C/N0. -/
def signalCountByBand (band : Bytes) : ℕ :=
  ((s.countedSatsinfo config now).elim [] SatsInfoData.signals).countP fun signal =>
    signal.band = band ∧ signal.band ≠ [] ∧ 0 < signal.cn0DbHz

/-- `used_total`: the satellites of BESTSAT, or else of BESTNAV, or else of GGA. -/
def usedTotal (total : ℤ) : ℤ :=
  (s.activeBestsat config now).elim
    ((s.activeBestnav config.toDiagnosticsConfig now).elim total BestNavData.satellitesUsed)
    fun bestsat => toInt bestsat.entries.length

/-- The used satellites of a constellation. -/
def usedByConstellation (name : Bytes) : ℤ :=
  (s.activeBestsat config now).elim 0 fun bestsat =>
    (bestsat.entries.map BestSatEntry.constellation).count name

/-- `constellation_summary`: `name=visible/used` for each constellation that has any. -/
def constellationSummary (talkers : List Bytes) : Bytes :=
  primaryConstellations.foldl (fun summary name =>
    let visibleCount := s.visibleByConstellation config now talkers name
    let usedCount := s.usedByConstellation config now name
    if visibleCount ≤ 0 ∧ usedCount ≤ 0 then summary
    else
      (if summary = [] then [] else summary ++ ascii ", ") ++ name ++ ascii "=" ++
        decimalInt visibleCount ++ ascii "/" ++ decimalInt usedCount) []

/-! ### The comparison of the two formats -/

/-- The visible satellites that the text lines report. -/
def asciiVisibleTotal (total : ℤ) : ℤ :=
  (s.activeAsciiSatsinfo config now).elim total fun satsinfo => toInt satsinfo.entries.length

/-- The used satellites that the text lines report. -/
def asciiUsedTotal (total : ℤ) : ℤ :=
  (s.activeAsciiBestsat config now).elim
    ((s.activeAsciiBestnav config.toDiagnosticsConfig now).elim total BestNavData.satellitesUsed)
    fun bestsat => toInt bestsat.entries.length

/-- The visible satellites that the binary frames report. -/
def binaryVisibleTotal : Option ℤ :=
  (s.activeBinarySatsinfo config now).map fun satsinfo => toInt satsinfo.entries.length

/-- The used satellites that the binary frames report. -/
def binaryUsedTotal : Option ℤ :=
  ((s.activeBinaryBestsat config now).map fun bestsat => toInt bestsat.entries.length).or
    ((s.activeBinaryBestnav config.toDiagnosticsConfig now).map BestNavData.satellitesUsed)

/-- The comparison of both formats; `none` if a difference does not fit into an `int`. -/
def satelliteComparison (total : ℤ) : Option (List KeyValue) := do
  let visibleDelta ← optionalDeltaText (s.binaryVisibleTotal config now)
    (s.asciiVisibleTotal config now total)
  let usedDelta ← optionalDeltaText (s.binaryUsedTotal config now)
    (s.asciiUsedTotal config now total)
  return [
    kv "binary_ascii_visible_satellites_delta" visibleDelta,
    kv "binary_ascii_used_satellites_delta" usedDelta,
    kv "binary_ascii_cn0_mean_delta_db_hz"
      (ofBoth (cn0AccumulatorFromSatsinfo (s.activeAsciiSatsinfo config now)).mean
        (cn0AccumulatorFromSatsinfo (s.activeBinarySatsinfo config now)).mean notAvailable
        fun asciiMean binaryMean => toStringOrNan (binaryMean - asciiMean))]

/-! ### The satellites -/

/-- The level and the message. That the group is switched on has been asked before. -/
def gpsSatellitesSummary (talkers : List Bytes) (total : ℤ) : DiagnosticLevel × Bytes :=
  let satsinfo := s.activeSatsinfo config now
  let bestsat := s.activeBestsat config now
  let visibleTotal := s.visibleTotal config now total
  let usedTotal := s.usedTotal config now total
  let bestsatLabel :=
    if config.useBinarySatelliteDiag then ascii "BESTSATB" else ascii "BESTSATA"
  let satsinfoLabel :=
    if config.useBinarySatelliteDiag then ascii "SATSINFOB" else ascii "SATSINFOA"
  if config.enableSatsinfo && satsinfo.isNone && talkers.isEmpty then
    (.error, satsinfoLabel ++ ascii " missing and no GSV fallback")
  else if config.useBinarySatelliteDiag && config.enableSatsinfo &&
      (s.activeBinarySatsinfo config now).isNone then
    (.warn, satsinfoLabel ++ ascii " stale or missing")
  else if config.enableSatsinfo && satsinfo.isNone then
    (.warn, satsinfoLabel ++ ascii " stale or missing")
  else if visibleTotal = 0 then (.error, ascii "no visible satellites")
  else if config.useBinarySatelliteDiag && (s.activeBinaryBestsat config now).isNone then
    (.warn, bestsatLabel ++ ascii " stale or missing")
  else if bestsat.isNone then (.warn, bestsatLabel ++ ascii " stale or missing")
  else if usedTotal = 0 then (.warn, ascii "satellites visible but none used")
  else if visibleTotal < 6 then
    -- The dash is U+2014.
    (.warn, decimalInt visibleTotal ++ ascii " visible sats " ++ [0xE2, 0x80, 0x94] ++
      ascii " weak sky view")
  else (.ok, decimalInt visibleTotal ++ ascii " visible / " ++ decimalInt usedTotal ++
    ascii " used")

/-- The values in front, one for each talker. -/
def talkerValues (talkers : List Bytes) : List KeyValue :=
  talkers.map fun talker =>
    { key := ascii "sats_" ++ talker, value := decimalInt (s.gsvCount config now talker) }

/-- The values that are always there. -/
def satelliteValues (talkers : List Bytes) (total : ℤ) : List KeyValue :=
  let bestnav := s.activeBestnav config.toDiagnosticsConfig now
  let satsinfo := s.activeSatsinfo config now
  let binaryBestsatAge := timedAge s.latestBinaryBestsat now
  let binarySatsinfoAge := timedAge s.latestBinarySatsinfo now
  let cn0All := cn0AccumulatorFromSatsinfo (s.countedSatsinfo config now)
  let summary := s.constellationSummary config now talkers
  [feedState "feed_state" true (satsinfo.isSome || !config.enableSatsinfo),
    kv "satellite_status_enabled" (boolText true),
    kv "satsinfo_enabled" (boolText config.enableSatsinfo),
    kv "bestsat_available" (boolText (s.activeBestsat config now).isSome),
    kv "satsinfo_available" (boolText satsinfo.isSome),
    kv "use_binary_satellite_diag" (boolText config.useBinarySatelliteDiag),
    kv "binary_bestsat_available" (boolText (s.activeBinaryBestsat config now).isSome),
    kv "binary_satsinfo_available" (boolText (s.activeBinarySatsinfo config now).isSome),
    kv "last_bestsat_age_s"
      (ageText (if config.useBinarySatelliteDiag then binaryBestsatAge
        else timedAge s.latestBestsat now)),
    kv "last_satsinfo_age_s"
      (ageText (if config.useBinarySatelliteDiag then binarySatsinfoAge
        else timedAge s.latestSatsinfo now)),
    kv "binary_satellite_age_s" (ageText (minAge binaryBestsatAge binarySatsinfoAge)),
    kv "visible" (decimalInt (s.visibleTotal config now total)),
    kv "tracked"
      (decimalInt (bestnav.elim (s.visibleTotal config now total)
        BestNavData.satellitesTracked)),
    kv "used" (decimalInt (s.usedTotal config now total)),
    kv "binary_visible_satellites"
      ((s.binaryVisibleTotal config now).elim notAvailable decimalInt),
    kv "binary_used_satellites" ((s.binaryUsedTotal config now).elim notAvailable decimalInt),
    kv "constellations_used" (if summary = [] then notAvailable else summary),
    kv "cn0_mean_db_hz" cn0All.meanText,
    kv "cn0_max_db_hz" cn0All.maxText,
    kv "binary_cn0_mean_db_hz"
      (cn0AccumulatorFromSatsinfo (s.activeBinarySatsinfo config now)).meanText]

/-- The values of each constellation and of each band. -/
def constellationValues (talkers : List Bytes) : List KeyValue :=
  (primaryConstellations.flatMap fun name =>
    [{ key := ascii "visible_" ++ name,
        value := decimalInt (s.visibleByConstellation config now talkers name) },
      { key := ascii "used_" ++ name, value := decimalInt (s.usedByConstellation config now name) },
      { key := ascii "cn0_mean_" ++ name ++ ascii "_db_hz",
        value := (s.cn0ByConstellation config now name).meanText }]) ++
  trackedBands.map fun band =>
    { key := ascii "tracked_signals_" ++ band,
      value := decimal (s.signalCountByBand config now band) }

/-- `gps_satellites_status`, where `talkers` are the keys of `gsv_counts_`. -/
def gpsSatellitesStatus (talkers : List Bytes) : Option DiagnosticStatus :=
  if !config.enableSatelliteStatus then
    some (diagnosticStatus "GPS: satellites" (.ok, ascii "satellite diagnostics disabled")
      [feedState "feed_state" false false,
        kv "satellite_status_enabled" (boolText false),
        kv "satsinfo_enabled" (boolText config.enableSatsinfo)])
  else (s.gsvTotal config now talkers).bind fun total =>
    let comparison :=
      if config.binaryCompareAscii then s.satelliteComparison config now total else some []
    comparison.map fun comparison =>
      diagnosticStatus "GPS: satellites" (s.gpsSatellitesSummary config now talkers total)
        (s.talkerValues config now talkers ++ s.satelliteValues config now talkers total ++
          comparison ++ s.constellationValues config now talkers)

/-! ### Raw observations -/

/-- The key under which an observation's signal is counted. -/
def signalKey (entry : RawObservationEntry) : Bytes :=
  if entry.signalBand = [] then ascii "SIG" ++ decimalInt entry.signalType else entry.signalBand

/-- `++table[key]` for each of the keys, from an empty table. -/
def countKeys (keys : List Bytes) : Table Bytes := addAll (fun _ => none) keys

/-- How many observations there are of each constellation. -/
def countByConstellation (raw : Option RawObservationData) : Table Bytes :=
  countKeys ((raw.elim [] RawObservationData.entries).map RawObservationEntry.constellation)

/-- How many observations there are of each signal. -/
def countBySignal (raw : Option RawObservationData) : Table Bytes :=
  countKeys ((raw.elim [] RawObservationData.entries).map signalKey)

/-- `kConstellationOrder` -/
def constellationOrder : List Bytes := primaryConstellations

/-- `kSignalOrder` -/
def signalOrder : List Bytes :=
  [ascii "L1", ascii "L2", ascii "L3", ascii "L5", ascii "L6", ascii "E1", ascii "E5", ascii "E6",
    ascii "B1", ascii "B2", ascii "B3"]

/-- The observations that are shown one by one. -/
def rawEntryValues (raw : RawObservationData) : List KeyValue :=
  let entryLimit := min (max 0 config.rawObservationMaxDebugEntries) (toInt raw.entries.length)
  (raw.entries.take entryLimit.toNat).zipIdx.map fun (entry, index) =>
    { key := ascii "raw_obs_" ++ decimal index
      value := entry.constellation ++ entry.satelliteId ++ ascii "/" ++ signalKey entry ++
        ascii " doppler=" ++ toStringOrNan entry.dopplerHz ++
        ascii " cn0=" ++ toStringOrNan entry.cn0DbHz ++
        ascii " lock=" ++ toStringOrNan entry.lockTimeSec }

/-- The level and the message. -/
def gpsRawObservationSummary : DiagnosticLevel × Bytes :=
  if !config.useBinaryRawObservations then
    (.ok, ascii "binary raw observation backend disabled")
  else
    (s.activeBinaryRawObservations config now).elim (.warn, ascii "OBSVMCMPB stale or missing")
      fun raw =>
        if raw.observationCount ≤ 0 then (.warn, ascii "no compressed observations")
        else (.ok, decimalInt raw.observationCount ++ ascii " compressed observations")

/-- `gps_raw_observation_status`, with the keys `constellations` and `signals` of its tables. -/
def gpsRawObservationStatus (constellations signals : List Bytes) : DiagnosticStatus :=
  if !config.enableRawObservationDiag then
    diagnosticStatus "GPS: raw observations" (.ok, ascii "raw observation diagnostics disabled")
      [feedState "feed_state" false false,
        kv "status_enabled" (boolText false),
        kv "use_binary_raw_observations" (boolText false)]
  else
    let raw := s.activeRawObservations config now
    let cn0All := Cn0Accumulator.addAll
      ((raw.elim [] RawObservationData.entries).map RawObservationEntry.cn0DbHz)
    diagnosticStatus "GPS: raw observations" (s.gpsRawObservationSummary config now)
      ([feedState "feed_state" config.useBinaryRawObservations raw.isSome,
        kv "status_enabled" (boolText true),
        kv "use_binary_raw_observations" (boolText config.useBinaryRawObservations),
        kv "obsvmcmp_available" (boolText raw.isSome),
        kv "binary_obsvmcmp_available"
          (boolText (s.activeBinaryRawObservations config now).isSome),
        kv "obsvmcmp_age_s" (ageText (timedAge s.latestBinaryRawObservations now)),
        kv "raw_observations_count"
          (raw.elim notAvailable fun raw => decimalInt raw.observationCount),
        kv "raw_observations_by_constellation"
          (describeOrderedCounts (countByConstellation raw) constellations constellationOrder),
        kv "raw_observations_by_signal"
          (describeOrderedCounts (countBySignal raw) signals signalOrder),
        kv "raw_cn0_mean_db_hz" cn0All.meanText,
        kv "raw_cn0_max_db_hz" cn0All.maxText] ++
        raw.elim [] (rawEntryValues config))

/-! ### When all is well -/

variable {config s now}

/-- **The satellites are well** with fresh data of those visible and of those used, with at least
six of the former and any of the latter. -/
theorem gpsSatellitesSummary_eq_ok_iff {talkers : List Bytes} {total : ℤ} :
    (s.gpsSatellitesSummary config now talkers total).1 = .ok ↔
      (config.enableSatsinfo = true → (s.activeSatsinfo config now).isSome = true ∧
        (config.useBinarySatelliteDiag = true →
          (s.activeBinarySatsinfo config now).isSome = true)) ∧
      (s.activeBestsat config now).isSome = true ∧
      (config.useBinarySatelliteDiag = true →
        (s.activeBinaryBestsat config now).isSome = true) ∧
      6 ≤ s.visibleTotal config now total ∧ s.usedTotal config now total ≠ 0 := by
  have hvisible : ∀ n : ℤ, 6 ≤ n ↔ ¬ n = 0 ∧ ¬ n < 6 := by
    intro n
    omega
  rw [gpsSatellitesSummary, hvisible]
  split_ifs <;> simp_all [Option.isNone_iff_eq_none, Option.isSome_iff_ne_none]

/-- **The raw observations are well** if there are some, or if nobody asks for them. -/
theorem gpsRawObservationSummary_eq_ok_iff :
    (s.gpsRawObservationSummary config now).1 = .ok ↔
      (config.useBinaryRawObservations = true →
        ∃ raw, s.activeBinaryRawObservations config now = some raw ∧ 0 < raw.observationCount) := by
  rw [gpsRawObservationSummary]
  rcases s.activeBinaryRawObservations config now with _ | raw
  · cases config.useBinaryRawObservations <;> simp
  · cases config.useBinaryRawObservations
    · simp
    · simp only [Bool.not_true, Bool.false_eq_true, if_false, Option.elim_some, Option.some.injEq,
        exists_eq_left', forall_const]
      split_ifs <;> simp_all

/-- **The raw observations** are reported alike whatever order the tables have. -/
theorem gpsRawObservationStatus_perm {constellations constellations' signals signals' : List Bytes}
    (hconstellations : constellations.Perm constellations') (hsignals : signals.Perm signals') :
    s.gpsRawObservationStatus config now constellations signals =
      s.gpsRawObservationStatus config now constellations' signals' := by
  rw [gpsRawObservationStatus, gpsRawObservationStatus]
  split
  · rfl
  · simp only [describeOrderedCounts_perm _ hconstellations,
      describeOrderedCounts_perm _ hsignals]

end NodeState

end UnicoreGnss
