import UnicoreGnss.Node.Diagnostics

/-!
# Hybrid deltas and the fixes they compare

With `binary_compare_ascii` the diagnostics tell how far the binary fix is from the text fix. The
text fix is a valid one, and so is that of a PVTSLNB. If there is no such PVTSLNB, the latest
BESTNAVB stands in for it, and nobody asks whether it has a fix: `active_binary_fix_for_comparison`
notes `valid_fix = bestnav->fix_quality > 0`, which nothing reads. A receiver without a solution
sends zeros, and the differences are then those to the point at latitude and longitude zero. The key
next to them, `binary_ascii_fix_type_match`, does ask for the quality of both.

## Main definitions

* `NodeState.NoFixStandsIn` — a BESTNAVB without a fix is compared

## Main results

* `Run.hybrid_deltas_iff` — in every state of every run, this is the one way in which differences to
  no fix are reported
* `NodeState.fixTypeMatch_of_noFixStandsIn` — what the key next to them says then
-/

namespace UnicoreGnss

open CNumber LatestSample

namespace NodeState

variable {math : DiagnosticsMath} {config : DiagnosticsConfig} {s : NodeState}
  {now : SteadyTime}

/-- The differences are reported although the binary fix is that of a BESTNAVB without a fix: the
comparison is on, there is a valid and fresh fix of the text lines and none of a PVTSLNB, and the
latest BESTNAVB is fresh. -/
structure NoFixStandsIn (config : DiagnosticsConfig) (s : NodeState) (now : SteadyTime) :
    Prop where
  compared : config.binaryCompareAscii = true
  ascii : ∃ source ∈ [FixSource.pvtslna, .gga], ∃ sample, s.fixes source = some sample ∧
    usableFix config.toNodeConfig now source sample = true
  pvtslnb : ∀ sample, s.latestBinaryPvtslnFix = some sample →
    usableFix config.toNodeConfig now .pvtslnb sample = false
  bestnavb : ∃ sample, s.latestBinaryBestnav = some sample ∧
    isFresh now sample.receivedAt config.binaryNavTimeoutSec = true ∧ sample.data.fixQuality ≤ 0

theorem freshIf_eq_some_iff {α : Type} {latest : Option (TimedData α)} {usable : α → Bool}
    {timeoutSec : Double} {data : α} :
    freshIf latest usable now timeoutSec = some data ↔
      ∃ sample, latest = some sample ∧
        (usable sample.data && isFresh now sample.receivedAt timeoutSec) = true ∧
        sample.data = data := by
  simp only [freshIf_eq, Option.map_eq_some_iff, Option.filter_eq_some_iff, and_assoc]

/-! ### The fixes compared -/

/-- The fix of the text lines is a usable one. -/
theorem exists_usable_of_activeAsciiFix {fix : FixData}
    (h : s.activeAsciiFix config.toNodeConfig now = some fix) :
    ∃ source ∈ [FixSource.pvtslna, .gga], ∃ sample, s.fixes source = some sample ∧
      usableFix config.toNodeConfig now source sample = true ∧ sample.data = fix := by
  rw [activeAsciiFix, Option.or_eq_some_iff] at h
  rcases h with h | ⟨-, h⟩
  · exact ⟨.pvtslna, by simp, freshIf_eq_some_iff.mp h⟩
  · exact ⟨.gga, by simp, freshIf_eq_some_iff.mp h⟩

theorem isSome_activeAsciiFix_iff :
    (s.activeAsciiFix config.toNodeConfig now).isSome = true ↔
      ∃ source ∈ [FixSource.pvtslna, .gga], ∃ sample, s.fixes source = some sample ∧
        usableFix config.toNodeConfig now source sample = true := by
  constructor
  · intro h
    obtain ⟨fix, hfix⟩ := Option.isSome_iff_exists.mp h
    obtain ⟨source, hsource, sample, hslot, husable, -⟩ := exists_usable_of_activeAsciiFix hfix
    exact ⟨source, hsource, sample, hslot, husable⟩
  · rintro ⟨source, hsource, sample, hslot, husable⟩
    rw [activeAsciiFix, Option.isSome_or, Bool.or_eq_true]
    simp only [List.mem_cons, List.not_mem_nil, or_false] at hsource
    rcases hsource with rfl | rfl
    · refine .inl (Option.isSome_iff_exists.mpr ?_)
      exact ⟨_, freshIf_eq_some_iff.mpr ⟨_, hslot, husable, rfl⟩⟩
    · refine .inr (Option.isSome_iff_exists.mpr ?_)
      exact ⟨_, freshIf_eq_some_iff.mpr ⟨_, hslot, husable, rfl⟩⟩

theorem activeBinaryFix_eq_none_iff :
    s.activeBinaryFix config.toNodeConfig now = none ↔
      ∀ sample, s.latestBinaryPvtslnFix = some sample →
        usableFix config.toNodeConfig now .pvtslnb sample = false := by
  rw [activeBinaryFix, freshIf_eq, Option.map_eq_none_iff, Option.filter_eq_none_iff]
  simp only [Bool.not_eq_true]
  rfl

/-- The fix that stands in is the latest BESTNAVB, if that is fresh. -/
theorem activeBinaryFixForComparison_eq_some_iff {fix : FixData}
    (hnone : s.activeBinaryFix config.toNodeConfig now = none) :
    s.activeBinaryFixForComparison config now = some fix ↔
      ∃ sample, s.latestBinaryBestnav = some sample ∧
        isFresh now sample.receivedAt config.binaryNavTimeoutSec = true ∧
        sample.data.fixForComparison = fix := by
  rw [activeBinaryFixForComparison, hnone, Option.none_or, Option.map_eq_some_iff]
  simp only [activeBinaryBestnav, freshIf_eq_some_iff, Bool.true_and]
  constructor
  · rintro ⟨_, ⟨sample, hlatest, hfresh, rfl⟩, hfix⟩
    exact ⟨sample, hlatest, hfresh, hfix⟩
  · rintro ⟨sample, hlatest, hfresh, hfix⟩
    exact ⟨sample.data, ⟨sample, hlatest, hfresh, rfl⟩, hfix⟩

/-- **The key next to the differences**: that the types of the two fixes agree or disagree is not
said when one of them is none. -/
theorem fixTypeMatch_of_noFixStandsIn (h : s.NoFixStandsIn config now) (fix : Option FixData)
    (serialOpen : Bool) :
    kv "binary_ascii_fix_type_match" notAvailable ∈
      (s.gpsFixStatus math config fix serialOpen now).values := by
  obtain ⟨sample, hlatest, hfresh, hquality⟩ := h.bestnavb
  have hbinary : s.activeBinaryFixForComparison config now = some sample.data.fixForComparison :=
    (activeBinaryFixForComparison_eq_some_iff (activeBinaryFix_eq_none_iff.mpr h.pvtslnb)).mpr
      ⟨sample, hlatest, hfresh, rfl⟩
  have hbestnav : s.activeBinaryBestnav config now = some sample.data :=
    freshIf_eq_some_iff.mpr ⟨sample, hlatest, by rw [hfresh]; rfl, rfl⟩
  have hcompared : comparedQuality (s.activeBinaryFixForComparison config now)
      (s.activeBinaryBestnav config now) = sample.data.fixQuality := by
    have hnot : ¬ 0 < sample.data.fixForComparison.fixQuality := not_lt.mpr hquality
    rw [comparedQuality, hbinary, hbestnav, Option.map_some, Option.filter_some,
      if_neg (by simpa using hnot)]
    rfl
  have hmatch : ∀ asciiQuality, fixTypeMatch asciiQuality sample.data.fixQuality = notAvailable :=
    fun _ => if_neg fun hpos => absurd hpos.2 (not_lt.mpr hquality)
  simp only [gpsFixStatus, h.compared, if_true, comparisonValues, hcompared, hmatch,
    List.mem_append, List.mem_singleton, or_true]

end NodeState

namespace Run

variable (math : DiagnosticsMath) (config : DiagnosticsConfig) (events : List NodeEvent)

/-- **The slots hold sound fixes** of their sources. -/
theorem sound_of_fixes {source : FixSource} {sample : TimedData FixData}
    (h : (state math.toMathFunctions config.toNodeConfig events).fixes source = some sample) :
    sample.data.Sound source := by
  rw [state_fixes, slots_eq, Option.map_eq_some_iff] at h
  obtain ⟨⟨i, sample⟩, hlast, rfl⟩ := h
  have harrival := getElem?_of_lastArrival hlast
  rw [List.getElem?_map, Option.map_eq_some_iff] at harrival
  obtain ⟨event, -, harrival⟩ := harrival
  exact (fixArrival_sound harrival).1

/-- A usable fix has a positive quality. -/
theorem fixQuality_pos_of_usable {source : FixSource} {sample : TimedData FixData}
    {now : SteadyTime}
    (h : (state math.toMathFunctions config.toNodeConfig events).fixes source = some sample)
    (husable : NodeState.usableFix config.toNodeConfig now source sample = true) :
    0 < sample.data.fixQuality := by
  rw [NodeState.usableFix, Bool.and_eq_true, (sound_of_fixes math config events h).validFix_eq,
    decide_eq_true_eq] at husable
  exact husable.1

/-- **Hybrid deltas.** In every state of a run, and at any time, the two fixes whose differences are
reported have positive qualities, unless a BESTNAVB without a fix stands in for a PVTSLNB. -/
theorem hybrid_deltas_iff (fix : Option FixData) (serialOpen : Bool) (now : SteadyTime) :
    let s := state math.toMathFunctions config.toNodeConfig events
    ((s.gpsFixStatus math config fix serialOpen now).ReportsDelta →
      ∃ asciiFix binaryFix, s.activeAsciiFix config.toNodeConfig now = some asciiFix ∧
        s.activeBinaryFixForComparison config now = some binaryFix ∧
        asciiFix.fixQuality > 0 ∧ binaryFix.fixQuality > 0) ↔
      ¬ s.NoFixStandsIn config now := by
  intro s
  rw [NodeState.reportsDelta_gpsFixStatus_iff]
  constructor
  · rintro hreal ⟨hcompared, hascii, hpvtslnb, sample, hlatest, hfresh, hquality⟩
    have hbinary := (NodeState.activeBinaryFixForComparison_eq_some_iff
      (NodeState.activeBinaryFix_eq_none_iff.mpr hpvtslnb)).mpr ⟨sample, hlatest, hfresh, rfl⟩
    obtain ⟨_, binaryFix, -, hsome, -, hpos⟩ := hreal ⟨hcompared,
      NodeState.isSome_activeAsciiFix_iff.mpr hascii, Option.isSome_iff_exists.mpr ⟨_, hbinary⟩⟩
    rw [hbinary, Option.some.injEq] at hsome
    rw [← hsome] at hpos
    exact absurd hpos (not_lt.mpr hquality)
  · rintro hnot ⟨hcompared, hascii, hbinary⟩
    obtain ⟨asciiFix, hasciiFix⟩ := Option.isSome_iff_exists.mp hascii
    obtain ⟨binaryFix, hbinaryFix⟩ := Option.isSome_iff_exists.mp hbinary
    refine ⟨asciiFix, binaryFix, hasciiFix, hbinaryFix, ?_, ?_⟩
    · obtain ⟨source, -, sample, hslot, husable, rfl⟩ :=
        NodeState.exists_usable_of_activeAsciiFix hasciiFix
      exact fixQuality_pos_of_usable math config events hslot husable
    · cases hpvtslnb : s.activeBinaryFix config.toNodeConfig now with
      | some pvtslnbFix =>
        -- A PVTSLNB is there.
        rw [NodeState.activeBinaryFixForComparison, hpvtslnb, Option.some_or,
          Option.some.injEq] at hbinaryFix
        obtain ⟨sample, hlatest, husable, hdata⟩ := NodeState.freshIf_eq_some_iff.mp hpvtslnb
        have hslot : s.fixes .pvtslnb = some sample := hlatest
        rw [← hbinaryFix, ← hdata]
        exact fixQuality_pos_of_usable math config events hslot husable
      | none =>
        -- A BESTNAVB stands in.
        obtain ⟨sample, hlatest, hfresh, rfl⟩ :=
          (NodeState.activeBinaryFixForComparison_eq_some_iff hpvtslnb).mp hbinaryFix
        by_contra hquality
        exact hnot ⟨hcompared, NodeState.isSome_activeAsciiFix_iff.mp hascii,
          NodeState.activeBinaryFix_eq_none_iff.mp hpvtslnb, sample, hlatest, hfresh,
          not_lt.mp hquality⟩

/-- A fixed GGA solution on the equator, one degree east of the zero meridian, and 100 ms later a
BESTNAVB of a receiver without a solution: all zeros. -/
def hybridEvents : List NodeEvent :=
  [{ input := .asciiLine (ascii "$GPGGA,1,0,N,100,E,4,8,1,5*49"), receivedAt := 0, stamp := 0 },
    { input := .binaryFrame { messageId := 2118, payload := List.replicate 116 0 },
      receivedAt := 10 ^ 8, stamp := 10 ^ 8 }]

/-- The length of a degree on the equator, in metres. -/
def degreeM : ℚ := pi / 180 * 6378137

/-- The functions at what they are asked for there. -/
def mathOnEquator : DiagnosticsMath where
  toMathFunctions := mathAtZero
  sqrt q := if q = degreeM * degreeM then degreeM else 0

/-- **A position delta to no fix**: that of the point at latitude and longitude zero is reported. -/
theorem position_delta_to_no_fix :
    let s := state mathAtZero {} hybridEvents
    kv "binary_ascii_position_delta_m" (ascii "111319.491") ∈
      (s.gpsFixStatus mathOnEquator {} (s.activeFix {} (10 ^ 8)) true (10 ^ 8)).values ∧
    (s.activeAsciiFix {} (10 ^ 8)).map FixData.fixQuality = some 4 ∧
    (s.activeBinaryFixForComparison {} (10 ^ 8)).map FixData.fixQuality = some 0 ∧
    s.latestBinaryBestnav.map (fun sample => sample.data.positionType) = some (ascii "NONE") := by
  decide +kernel

end Run

end UnicoreGnss
