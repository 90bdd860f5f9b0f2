import UnicoreGnss.Node.Validity

/-!
# The `GPS: fix` diagnostics

`gps_fix_status` of `src/unicore_node.cpp`: quality and age of the active fix, the receiver's own
account of it, and how far the fix of the binary frames is from that of the text lines.

The comparison takes the binary fix from PVTSLNB, and from BESTNAVB if there is none. The fix of a
PVTSLNB is taken only if it is valid; what stands in for it is taken as it is.

## Main definitions

* `NodeState.activeBinaryFixForComparison` — the binary fix of the comparison
* `NodeState.hybridDeltaValues` — the comparison
* `NodeState.gpsFixStatus` — the whole status

## Main results

* `NodeState.reportsDelta_gpsFixStatus_iff` — when the comparison is made
-/

namespace UnicoreGnss

open CNumber

/-- The parameters that the diagnostics need besides those of the publication. -/
structure DiagnosticsConfig extends NodeConfig where
  rtcmTimeoutSec : Double := .finite 5
  binaryCompareAscii : Bool := true

/-- `std::sqrt`, besides the functions of the parsers. -/
structure DiagnosticsMath extends MathFunctions where
  sqrt : ℚ → ℚ

/-- The levels of `diagnostic_msgs/DiagnosticStatus` that the node uses. -/
inductive DiagnosticLevel where
  | ok
  | warn
  | error
  deriving DecidableEq, Repr

/-- `diagnostic_msgs/KeyValue` -/
structure KeyValue where
  key : Bytes
  value : Bytes
  deriving DecidableEq, Repr

/-- `diagnostic_msgs/DiagnosticStatus` -/
structure DiagnosticStatus where
  level : DiagnosticLevel
  name : Bytes
  message : Bytes
  hardwareId : Bytes
  values : List KeyValue
  deriving DecidableEq, Repr

/-! ### Texts -/

/-- `kv`, for the keys that are written in the source. -/
def kv (key : String) (value : Bytes) : KeyValue := { key := ascii key, value }

/-- The text of a value that there is none of. -/
def notAvailable : Bytes := ascii "n/a"

/-- `b ? "True" : "False"` -/
def boolText (b : Bool) : Bytes := if b then ascii "True" else ascii "False"

/-- `to_string_or_nan` of a finite number, which has no sign if it is zero. -/
def toStringOrNan (q : ℚ) : Bytes := fixedText 3 q

/-- A number is there: its text has a point. -/
theorem toStringOrNan_ne_notAvailable (q : ℚ) : toStringOrNan q ≠ notAvailable := by
  intro h
  have hpoint : 46 ∈ toStringOrNan q := point_mem_fixedText 3 q
  rw [h] at hpoint
  exact absurd hpoint (by decide)

/-- `to_hex_byte`: `0x` and two digits, of a byte that is not missing. -/
def toHexByte (n : ℤ) : Bytes :=
  if n < 0 then notAvailable
  else hexText { marked := true, width := 2, capitals := true } n.toNat

/-- The name of the log or sentence that a fix is from. -/
def fixSourceName : FixSource → Bytes
  | .gga => ascii "GGA"
  | .pvtslna => ascii "PVTSLNA"
  | .pvtslnb => ascii "PVTSLNB"

/-- The words for a GGA quality. -/
def fixTypeFromQuality (quality : ℤ) : Bytes :=
  if quality = 4 then ascii "3D-RTK-Fixed"
  else if quality = 5 then ascii "3D-RTK-Float"
  else if quality = 2 ∨ quality = 9 then ascii "3D-DGPS"
  else if quality = 1 then ascii "3D"
  else ascii "no-fix"

/-- The words for the carrier phase solution of a GGA quality. -/
def carrierSolutionFromQuality (quality : ℤ) : Bytes :=
  if quality = 4 then ascii "fixed"
  else if quality = 5 then ascii "float"
  else ascii "none"

/-- The lowest bit and the three bits above it, in words. -/
def describeExtSolutionStatus (n : ℤ) : Bytes :=
  if n < 0 then notAvailable
  else
    let ionoText :=
      match n.toNat / 2 % 8 with
      | 1 => ascii "klobuchar"
      | 2 => ascii "sbas_grid"
      | 3 => ascii "multi_freq"
      | 4 => ascii "pseudorange_diff"
      | _ => ascii "unknown"
    ascii "rtk_checked=" ++ (if n.toNat % 2 ≠ 0 then ascii "true" else ascii "false") ++
      ascii ", iono=" ++ ionoText

/-! ### Two fixes compared -/

/-- The distance of two fixes over ground, on a sphere. -/
def horizontalPositionDeltaM (math : DiagnosticsMath) (lhs rhs : FixData) : ℚ :=
  let earthRadiusM := 6378137
  let degToRad := pi / 180
  let avgLatRad := (lhs.latitudeDeg + rhs.latitudeDeg) * (1 / 2) * degToRad
  let dLat := (rhs.latitudeDeg - lhs.latitudeDeg) * degToRad
  let dLon := (rhs.longitudeDeg - lhs.longitudeDeg) * degToRad
  let north := dLat * earthRadiusM
  let east := dLon * earthRadiusM * math.cos avgLatRad
  math.sqrt (north * north + east * east)

/-- `covariance_stddev`; no number is `none`. -/
def covarianceStddev (math : DiagnosticsMath) (fix : FixData) (index : ℕ) : Option ℚ :=
  if fix.hasCovariance then
    fix.covariance[index]?.bind fun variance =>
      if variance < 0 then none else some (math.sqrt variance)
  else none

/-- The difference of two standard deviations. -/
def stdDeltaText (ascii binary : Option ℚ) : Bytes :=
  match ascii, binary with
  | some ascii, some binary => toStringOrNan |binary - ascii|
  | _, _ => notAvailable

/-- The differences between the fix of the text lines and that of the binary frames. -/
def hybridDeltaValues (math : DiagnosticsMath) (asciiFix binaryFix : Option FixData) :
    List KeyValue :=
  match asciiFix, binaryFix with
  | some asciiFix, some binaryFix =>
    [kv "binary_ascii_position_delta_m"
        (toStringOrNan (horizontalPositionDeltaM math asciiFix binaryFix)),
      kv "binary_ascii_altitude_delta_m"
        (toStringOrNan |binaryFix.altitudeM - asciiFix.altitudeM|),
      kv "binary_ascii_latitude_delta_deg"
        (toStringOrNan (binaryFix.latitudeDeg - asciiFix.latitudeDeg)),
      kv "binary_ascii_longitude_delta_deg"
        (toStringOrNan (binaryFix.longitudeDeg - asciiFix.longitudeDeg)),
      kv "binary_ascii_lon_std_delta_m"
        (stdDeltaText (covarianceStddev math asciiFix 0) (covarianceStddev math binaryFix 0)),
      kv "binary_ascii_lat_std_delta_m"
        (stdDeltaText (covarianceStddev math asciiFix 4) (covarianceStddev math binaryFix 4)),
      kv "binary_ascii_alt_std_delta_m"
        (stdDeltaText (covarianceStddev math asciiFix 8) (covarianceStddev math binaryFix 8))]
  | _, _ =>
    [kv "binary_ascii_position_delta_m" notAvailable,
      kv "binary_ascii_altitude_delta_m" notAvailable,
      kv "binary_ascii_latitude_delta_deg" notAvailable,
      kv "binary_ascii_longitude_delta_deg" notAvailable,
      kv "binary_ascii_lon_std_delta_m" notAvailable,
      kv "binary_ascii_lat_std_delta_m" notAvailable,
      kv "binary_ascii_alt_std_delta_m" notAvailable]

/-- The keys of these values. -/
def hybridDeltaKeys : List Bytes :=
  [ascii "binary_ascii_position_delta_m", ascii "binary_ascii_altitude_delta_m",
    ascii "binary_ascii_latitude_delta_deg", ascii "binary_ascii_longitude_delta_deg",
    ascii "binary_ascii_lon_std_delta_m", ascii "binary_ascii_lat_std_delta_m",
    ascii "binary_ascii_alt_std_delta_m"]

theorem map_key_hybridDeltaValues (math : DiagnosticsMath) (asciiFix binaryFix : Option FixData) :
    (hybridDeltaValues math asciiFix binaryFix).map KeyValue.key = hybridDeltaKeys := by
  rcases asciiFix with _ | asciiFix
  · rfl
  · rcases binaryFix with _ | binaryFix
    · rfl
    · rfl

/-- The quality of a fix, or of the BESTNAV in place of one that has none. -/
def comparedQuality (fix : Option FixData) (bestnav : Option BestNavData) : ℤ :=
  ((fix.map FixData.fixQuality).filter (0 < ·)).getD
    ((bestnav.map BestNavData.fixQuality).getD 0)

/-- Do the two qualities agree? -/
def fixTypeMatch (asciiQuality binaryQuality : ℤ) : Bytes :=
  if asciiQuality > 0 ∧ binaryQuality > 0 then boolText (asciiQuality = binaryQuality)
  else notAvailable

/-- `std::max(2.0, timeout)` -/
def atLeastTwo : Double → Double
  | .finite q => if 2 < q then .finite q else .finite 2
  | .infinite negative => if negative then .finite 2 else .infinite negative
  | .nan => .finite 2

/-- The fix that stands in for that of a PVTSLNB. -/
def BestNavData.fixForComparison (bestnav : BestNavData) : FixData :=
  let hasCovariance :=
    bestnav.latitudeStdM ≥ 0 ∧ bestnav.longitudeStdM ≥ 0 ∧ bestnav.heightStdM ≥ 0
  { source := .pvtslnb
    validFix := bestnav.fixQuality > 0
    latitudeDeg := bestnav.latitudeDeg
    longitudeDeg := bestnav.longitudeDeg
    altitudeM := bestnav.heightMslM + bestnav.undulationM
    fixQuality := bestnav.fixQuality
    satellites := bestnav.satellitesUsed
    hasCovariance
    covariance :=
      if hasCovariance then
        diagonalCovariance bestnav.longitudeStdM bestnav.latitudeStdM bestnav.heightStdM
      else Vector.replicate 9 0 }

namespace NodeState

variable (math : DiagnosticsMath) (config : DiagnosticsConfig) (s : NodeState)

/-! ### Selection -/

/-- `age_seconds` -/
def ageSeconds (now stamp : SteadyTime) : ℚ := ((now - stamp : ℤ) : ℚ) / 10 ^ 9

/-- The BESTNAV of the text lines, if it is fresh. -/
def activeAsciiBestnav (now : SteadyTime) : Option BestNavData :=
  freshIf s.latestBestnav (fun _ => true) now (atLeastTwo config.rtcmTimeoutSec)

/-- The BESTNAV of the binary frames, if it is fresh. -/
def activeBinaryBestnav (now : SteadyTime) : Option BestNavData :=
  freshIf s.latestBinaryBestnav (fun _ => true) now config.binaryNavTimeoutSec

/-- The BESTNAV in use: the binary one first if binary navigation is on. -/
def activeBestnav (now : SteadyTime) : Option BestNavData :=
  if config.useBinaryNav then
    (s.activeBinaryBestnav config now).or (s.activeAsciiBestnav config now)
  else s.activeAsciiBestnav config now

/-- The fix of PVTSLNB, or else one made of the binary BESTNAV. -/
def activeBinaryFixForComparison (now : SteadyTime) : Option FixData :=
  (s.activeBinaryFix config.toNodeConfig now).or
    ((s.activeBinaryBestnav config now).map BestNavData.fixForComparison)

/-! ### The status -/

/-- The quality of the fix, or of the BESTNAV in place of one that has none. -/
def gpsFixQuality (fix : Option FixData) (now : SteadyTime) : ℤ :=
  let rawQuality := (fix.map FixData.fixQuality).getD 0
  if rawQuality > 0 then rawQuality
  else ((s.activeBestnav config now).map BestNavData.fixQuality).getD 0

/-- The age of the binary navigation data; there may be none. -/
def binaryNavAge (now : SteadyTime) : Option ℚ :=
  (s.latestBinaryPvtslnFix.map fun sample => ageSeconds now sample.receivedAt).or
    (s.latestBinaryBestnav.map fun sample => ageSeconds now sample.receivedAt)

/-- The horizontal standard deviation, `-1` without a covariance. -/
def sigmaXyMm (fix : Option FixData) : ℚ :=
  fix.elim (-1) fun fix =>
    if fix.hasCovariance then
      math.sqrt (max 0 (fix.covariance[0] + fix.covariance[4])) * 1000
    else -1

/-- The values that are always there. -/
def qualityValues (fix : Option FixData) (now : SteadyTime) : List KeyValue :=
  let q := s.gpsFixQuality config fix now
  let sigmaXyMm := sigmaXyMm math fix
  [kv "carr_soln" (carrierSolutionFromQuality q),
    kv "fix_type" (fixTypeFromQuality q),
    kv "gps_fix_ok" (boolText (q > 0)),
    kv "diff_corr" (boolText (q ≥ 2)),
    kv "fix_quality" (decimalInt q),
    kv "use_binary_nav" (boolText config.useBinaryNav),
    kv "binary_compare_ascii" (boolText config.binaryCompareAscii),
    kv "binary_bestnav_available" (boolText (s.activeBinaryBestnav config now).isSome),
    kv "binary_pvtsln_available"
      (boolText (s.activeBinaryFix config.toNodeConfig now).isSome),
    kv "binary_nav_age_s" ((s.binaryNavAge now).elim (ascii "inf") toStringOrNan),
    kv "sigma_xy_mm" (if sigmaXyMm ≥ 0 then toStringOrNan sigmaXyMm else notAvailable)]

/-- What is reported of the fix. -/
def fixValues (fix : FixData) : List KeyValue :=
  [kv "latitude_deg" (toStringOrNan fix.latitudeDeg),
    kv "longitude_deg" (toStringOrNan fix.longitudeDeg),
    kv "altitude_m" (toStringOrNan fix.altitudeM),
    kv "fix_source" (fixSourceName fix.source)]

/-- What is reported of the BESTNAV. -/
def bestnavValues (bestnav : BestNavData) : List KeyValue :=
  [kv "solution_status" bestnav.solutionStatus,
    kv "position_type" bestnav.positionType,
    kv "diff_age_s" (toStringOrNan bestnav.diffAgeSec),
    kv "sol_age_s" (toStringOrNan bestnav.solAgeSec),
    kv "tracked_svs" (decimalInt bestnav.satellitesTracked),
    kv "soln_svs" (decimalInt bestnav.satellitesUsed),
    kv "ext_solution_status" (toHexByte bestnav.extendedSolutionStatus),
    kv "ext_solution_detail" (describeExtSolutionStatus bestnav.extendedSolutionStatus)]

/-- The comparison of the two formats. -/
def comparisonValues (now : SteadyTime) : List KeyValue :=
  let asciiFix := s.activeAsciiFix config.toNodeConfig now
  let binaryFix := s.activeBinaryFixForComparison config now
  hybridDeltaValues math asciiFix binaryFix ++
    [kv "binary_ascii_fix_type_match"
      (fixTypeMatch (comparedQuality asciiFix (s.activeAsciiBestnav config now))
        (comparedQuality binaryFix (s.activeBinaryBestnav config now)))]

/-- The level and the message of the status. -/
def gpsFixSummary (fix : Option FixData) (serialOpen : Bool) (now : SteadyTime) :
    DiagnosticLevel × Bytes :=
  let q := s.gpsFixQuality config fix now
  if !serialOpen then (.error, ascii "serial disconnected")
  else if fix.isNone ∨ q ≤ 0 then (.error, ascii "no fix")
  else if q = 4 then (.ok, ascii "RTK Fixed")
  -- The dash is U+2014.
  else if q = 5 then
    (.warn, ascii "RTK Float " ++ [0xE2, 0x80, 0x94] ++ ascii " converging, not yet validated")
  else (.warn, fixTypeFromQuality q ++ ascii " fix, no RTK")

/-- `gps_fix_status` -/
def gpsFixStatus (fix : Option FixData) (serialOpen : Bool) (now : SteadyTime) :
    DiagnosticStatus where
  level := (s.gpsFixSummary config fix serialOpen now).1
  name := ascii "GPS: fix"
  message := (s.gpsFixSummary config fix serialOpen now).2
  hardwareId := ascii "unicore_n4"
  values :=
    s.qualityValues math config fix now ++ fix.elim [] fixValues ++
      (s.activeBestnav config now).elim [] bestnavValues ++
      if config.binaryCompareAscii then s.comparisonValues math config now else []

end NodeState

/-! ### What is reported -/

/-- The status has a value for one of the differences. -/
def DiagnosticStatus.ReportsDelta (status : DiagnosticStatus) : Prop :=
  ∃ item ∈ status.values, item.key ∈ hybridDeltaKeys ∧ item.value ≠ notAvailable

/-- There is a value for one of the differences exactly if there are two fixes. -/
theorem exists_mem_hybridDeltaValues_iff (math : DiagnosticsMath)
    (asciiFix binaryFix : Option FixData) :
    (∃ item ∈ hybridDeltaValues math asciiFix binaryFix, item.value ≠ notAvailable) ↔
      asciiFix.isSome = true ∧ binaryFix.isSome = true := by
  rcases asciiFix with _ | asciiFix
  · simp [hybridDeltaValues, kv]
  · rcases binaryFix with _ | binaryFix
    · simp [hybridDeltaValues, kv]
    · simp [hybridDeltaValues, kv, toStringOrNan_ne_notAvailable]

namespace NodeState

variable (math : DiagnosticsMath) (config : DiagnosticsConfig) (s : NodeState)

/-- The other values have other keys. -/
theorem filter_hybridDeltaKeys_gpsFixStatus (fix : Option FixData) (serialOpen : Bool)
    (now : SteadyTime) :
    (s.gpsFixStatus math config fix serialOpen now).values.filter (·.key ∈ hybridDeltaKeys) =
      if config.binaryCompareAscii then
        hybridDeltaValues math (s.activeAsciiFix config.toNodeConfig now)
          (s.activeBinaryFixForComparison config now)
      else [] := by
  have hquality : (s.qualityValues math config fix now).filter (·.key ∈ hybridDeltaKeys) = [] := rfl
  have hfix : (fix.elim [] fixValues).filter (·.key ∈ hybridDeltaKeys) = [] := by
    cases fix <;> rfl
  have hbestnav : ((s.activeBestnav config now).elim [] bestnavValues).filter
      (·.key ∈ hybridDeltaKeys) = [] := by
    cases s.activeBestnav config now <;> rfl
  simp only [gpsFixStatus, List.filter_append, hquality, hfix, hbestnav, List.nil_append]
  split
  · have hmatch : ∀ value, [kv "binary_ascii_fix_type_match" value].filter
        (·.key ∈ hybridDeltaKeys) = [] := fun _ => rfl
    rw [comparisonValues, List.filter_append, hmatch, List.append_nil, List.filter_eq_self]
    intro item hitem
    have hkey := List.mem_map_of_mem (f := KeyValue.key) hitem
    rw [map_key_hybridDeltaValues] at hkey
    exact decide_eq_true hkey
  · rfl

/-- **When a difference is reported**: the comparison is on, and both formats have a fix for it. -/
theorem reportsDelta_gpsFixStatus_iff (fix : Option FixData) (serialOpen : Bool)
    (now : SteadyTime) :
    (s.gpsFixStatus math config fix serialOpen now).ReportsDelta ↔
      config.binaryCompareAscii = true ∧
      (s.activeAsciiFix config.toNodeConfig now).isSome = true ∧
      (s.activeBinaryFixForComparison config now).isSome = true := by
  have hfilter : (s.gpsFixStatus math config fix serialOpen now).ReportsDelta ↔
      ∃ item ∈ (s.gpsFixStatus math config fix serialOpen now).values.filter
        (·.key ∈ hybridDeltaKeys), item.value ≠ notAvailable := by
    simp only [DiagnosticStatus.ReportsDelta, List.mem_filter, decide_eq_true_eq, and_assoc]
  rw [hfilter, filter_hybridDeltaKeys_gpsFixStatus]
  split
  · next hcompare => rw [exists_mem_hybridDeltaValues_iff, and_iff_right hcompare]
  · next hcompare => simp [hcompare]

end NodeState

end UnicoreGnss
