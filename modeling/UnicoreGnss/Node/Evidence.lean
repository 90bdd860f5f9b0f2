import UnicoreGnss.Node.HybridDeltas
import UnicoreGnss.Node.Injection

/-!
# No status is well without evidence

What the diagnostics call well they have been told, and not long ago. A status that is switched on
and `ok` rests on data that has been received within its timeout, in the format that it is asked to
look at, and that is good; the status of the injection rests on a write. So a receiver that has
fallen silent, or a port that is closed, does not go unnoticed for longer than the timeouts.

## Main definitions

* `Run.ReceivedLately` — data that an event has brought
* `MonitoredNode.Evidence` — what each of the statuses rests on

## Main results

* `MonitoredNode.evidence_of_ok` — a status that is well has its evidence
* `MonitoredNode.not_ok_of_silence` — after a silence none is well
-/

namespace UnicoreGnss

open CNumber LatestSample

/-! ### Data received -/

namespace Run

variable (math : MathFunctions) (events : List NodeEvent) (now : SteadyTime)

/-- An event of the one format or the other has brought the data, and is not too old. -/
def ReceivedLately {α : Type} (binary : Bool) (get : ParsedSentence → Option α)
    (timeoutSec : Double) (data : α) : Prop :=
  ∃ event ∈ events, event.isBinary = binary ∧ (event.sentence math).bind get = some data ∧
    AgeAtMost now event.receivedAt timeoutSec

variable {math events now} {config : NodeConfig}

/-- Data of a slot that is in use. -/
theorem receivedLately_of_slot {α : Type} (slot : StatusSlot α) {timeoutSec : Double} {data : α}
    (h : activeData (slot.latest (state math config events)) now timeoutSec = some data) :
    ReceivedLately math events now slot.binary slot.data timeoutSec data := by
  obtain ⟨event, hevent, hbinary, hdata, hfresh⟩ :=
    slot.exists_event_of_activeData math config h
  exact ⟨event, hevent, hbinary, hdata, isFresh_iff.mp hfresh⟩

/-- Data of a pair of slots, where that of the binary frames is there if it is asked for. -/
theorem receivedLately_of_preferBinary {α : Type} (asciiSlot binarySlot : StatusSlot α)
    (hascii : asciiSlot.binary = false) (hbinary : binarySlot.binary = true)
    (hget : asciiSlot.data = binarySlot.data) {useBinary : Bool} {timeoutSec : Double} {data : α}
    (hfresh : useBinary = true →
      (activeData (binarySlot.latest (state math config events)) now timeoutSec).isSome = true)
    (h : preferBinary useBinary
      (activeData (binarySlot.latest (state math config events)) now timeoutSec)
      (activeData (asciiSlot.latest (state math config events)) now timeoutSec) = some data) :
    ReceivedLately math events now useBinary asciiSlot.data timeoutSec data := by
  cases useBinary with
  | false =>
    rw [preferBinary, if_neg (by decide)] at h
    rw [← hascii]
    exact receivedLately_of_slot asciiSlot h
  | true =>
    obtain ⟨data', hdata'⟩ := Option.isSome_iff_exists.mp (hfresh rfl)
    rw [preferBinary, if_pos rfl, hdata', Option.some_or, Option.some.injEq] at h
    subst h
    rw [← hbinary, hget]
    exact receivedLately_of_slot binarySlot hdata'

/-- The active fix has a quality, and an event has brought it. -/
theorem exists_event_of_activeFix {fix : FixData}
    (h : (state math config events).activeFix config now = some fix) :
    0 < fix.fixQuality ∧ ∃ source ∈ NodeState.fixPriority config, ∃ event ∈ events, ∃ sample,
      fixArrival math event = some (source, sample) ∧ sample.data = fix ∧
        AgeAtMost now event.receivedAt (NodeState.fixTimeout config source) := by
  rw [NodeState.activeFix_eq, state_fixes, firstUsable_slots, Option.map_map,
    Option.map_eq_some_iff] at h
  obtain ⟨⟨i, source, sample⟩, hselected, rfl⟩ := h
  obtain ⟨hmem, husable⟩ := usable_of_firstUsableArrival hselected
  have harrival := getElem?_of_lastArrival (lastArrival_of_firstUsableArrival hselected)
  rw [List.getElem?_map, Option.map_eq_some_iff] at harrival
  obtain ⟨event, hevent, harrival⟩ := harrival
  obtain ⟨hsound, hreceived⟩ := fixArrival_sound harrival
  rw [NodeState.usableFix, Bool.and_eq_true, isFresh_iff, hreceived, hsound.validFix_eq,
    decide_eq_true_eq] at husable
  exact ⟨husable.1, source, hmem, event, List.mem_of_getElem? hevent, sample, harrival, rfl,
    husable.2⟩

end Run

/-! ### What a status rests on -/

/-- Is the group of the status switched on? The raw observations come in binary frames only. -/
def StatusName.enabled (config : NodeParameters) : StatusName → Bool
  | fix => true
  | satellites => config.enableSatelliteStatus
  | rtk => config.enableRtkStatus
  | ntrip => true
  | rf => config.enableRfStatus
  | hardware => config.enableHwStatus
  | jamming => config.enableJammingStatus
  | rawObservations => config.enableRawObservationDiag && config.useBinaryRawObservations
  | parser => true

/-- The timeout of a BESTNAV. -/
def DiagnosticsConfig.bestnavTimeout (config : DiagnosticsConfig) (binary : Bool) : Double :=
  if binary then config.binaryNavTimeoutSec else atLeastTwo config.rtcmTimeoutSec

namespace MonitoredNode

variable (math : DiagnosticsMath) (config : NodeParameters) (callbacks : List NodeCallback)
  (now : SteadyTime)

/-- When the writes have returned without an error. -/
def written : List SteadyTime := TimeWindow.noted (windowOps math config callbacks)

/-- Data that the node has received in the run, not long ago. -/
def Lately {α : Type} (binary : Bool) (get : ParsedSentence → Option α) (timeoutSec : Double)
    (data : α) : Prop :=
  Run.ReceivedLately math.toMathFunctions (handled math config callbacks) now binary get timeoutSec
    data

/-- What a status rests on if it is well. -/
def Evidence : StatusName → Prop
  | .fix =>
    (run math config callbacks).2.node.serial.isOpen = true ∧
    ∃ source ∈ NodeState.fixPriority config.toNodeConfig, ∃ event ∈ handled math config callbacks,
      ∃ sample, fixArrival math.toMathFunctions event = some (source, sample) ∧
        sample.data.fixQuality = 4 ∧
        AgeAtMost now event.receivedAt (NodeState.fixTimeout config.toNodeConfig source)
  | .satellites =>
    (∃ bestsat, Lately math config callbacks now config.useBinarySatelliteDiag (·.bestsat)
      config.satelliteDiagTimeoutSec bestsat ∧ bestsat.entries ≠ []) ∧
    (config.enableSatsinfo = true →
      ∃ satsinfo, Lately math config callbacks now config.useBinarySatelliteDiag (·.satsinfo)
        config.satelliteDiagTimeoutSec satsinfo ∧ 6 ≤ satsinfo.entries.length)
  | .rtk =>
    (∃ bestnav binary, Lately math config callbacks now binary (·.bestnav)
        (config.bestnavTimeout binary) bestnav ∧
      (binary = true → config.useBinaryNav = true) ∧
      bestnav.solutionStatus = ascii "SOL_COMPUTED" ∧ bestnav.fixQuality = 4 ∧
      ageExceeds (some bestnav.diffAgeSec) config.maxDiffAgeSec = false) ∧
    ∃ status, Lately math config callbacks now config.useBinaryRtkDiag (·.rtkStatus)
      config.rtcmTimeoutSec status
  | .ntrip =>
    (∃ t ∈ written math config callbacks, AgeAtMost now t (.finite 5)) ∧
    (∃ t ∈ written math config callbacks,
      ageExceeds (some (NodeState.ageSeconds now t)) config.rtcmTimeoutSec = false) ∧
    (config.enableRtcmStatus = true →
      ∃ status, Lately math config callbacks now config.useBinaryRtcmDiag (·.rtcmStatus)
        config.rtcmTimeoutSec status)
  | .rf =>
    ∃ agc, Lately math config callbacks now config.useBinaryRfDiag (·.agc) config.rfDiagTimeoutSec
        agc ∧
      NodeState.rfSaturationSuspected (some agc) = false ∧
      NodeState.rfSignalLow (some agc) = false
  | .hardware =>
    ∃ hw, Lately math config callbacks now config.useBinaryHwDiag (·.hwStatus)
        config.rfDiagTimeoutSec hw ∧
      NodeState.voltagesOk hw = true ∧ NodeState.clockOk hw = true ∧ NodeState.pllOk hw = true
  | .jamming =>
    (∃ jam, Lately math config callbacks now config.useBinaryJammingDiag (·.jamStatus)
      config.rfDiagTimeoutSec jam ∧ jam.cwFlag < 1) ∨
    ∃ freqJam, Lately math config callbacks now config.useBinaryJammingDiag (·.freqJamStatus)
      config.rfDiagTimeoutSec freqJam ∧ ∀ band ∈ NodeState.jamBands freqJam, band.2.2 < 1
  | .rawObservations =>
    ∃ raw, Lately math config callbacks now true (·.rawObservations)
      config.rawObservationTimeoutSec raw ∧ 0 < raw.observationCount
  | .parser => ∀ anomaly, (run math config callbacks).2.delta anomaly = 0

/-! ### Each of them -/

section Evidence

variable {math config callbacks now} {keys : TableKeys} {status : DiagnosticStatus}

/-- The data of the node, after a run. -/
theorem lately_of_preferBinary {α : Type} (asciiSlot binarySlot : StatusSlot α)
    (hascii : asciiSlot.binary = false) (hbinary : binarySlot.binary = true)
    (hget : asciiSlot.data = binarySlot.data) {useBinary : Bool} {timeoutSec : Double} {data : α}
    (hfresh : useBinary = true →
      (activeData (binarySlot.latest (run math config callbacks).2.node.data) now
        timeoutSec).isSome = true)
    (h : preferBinary useBinary
      (activeData (binarySlot.latest (run math config callbacks).2.node.data) now timeoutSec)
      (activeData (asciiSlot.latest (run math config callbacks).2.node.data) now timeoutSec) =
        some data) :
    Lately math config callbacks now useBinary asciiSlot.data timeoutSec data := by
  rw [data_run] at hfresh h
  exact Run.receivedLately_of_preferBinary asciiSlot binarySlot hascii hbinary hget hfresh h

theorem lately_of_slot {α : Type} (slot : StatusSlot α) {timeoutSec : Double} {data : α}
    (h : activeData (slot.latest (run math config callbacks).2.node.data) now timeoutSec =
      some data) :
    Lately math config callbacks now slot.binary slot.data timeoutSec data := by
  rw [data_run] at h
  exact Run.receivedLately_of_slot slot h

theorem evidence_rf
    (h : ((run math config callbacks).2.node.data.gpsRfSummary config now).1 = .ok) :
    Evidence math config callbacks now .rf := by
  obtain ⟨hactive, hbinary, hsaturation, hlow⟩ := NodeState.gpsRfSummary_eq_ok_iff.mp h
  obtain ⟨agc, hagc⟩ := Option.isSome_iff_exists.mp hactive
  rw [hagc] at hsaturation hlow
  exact ⟨agc, lately_of_preferBinary .agc .binaryAgc rfl rfl rfl
    hbinary hagc, hsaturation, hlow⟩

theorem evidence_hardware
    (h : ((run math config callbacks).2.node.data.gpsHardwareSummary config now).1 = .ok) :
    Evidence math config callbacks now .hardware := by
  obtain ⟨hw, hhw, hbinary, hgood⟩ := NodeState.gpsHardwareSummary_eq_ok_iff.mp h
  exact ⟨hw, lately_of_preferBinary .hwStatus .binaryHwStatus rfl rfl rfl hbinary hhw, hgood⟩

theorem evidence_rawObservations (huse : config.useBinaryRawObservations = true)
    (h : ((run math config callbacks).2.node.data.gpsRawObservationSummary config now).1 = .ok) :
    Evidence math config callbacks now .rawObservations := by
  obtain ⟨raw, hraw, hcount⟩ := NodeState.gpsRawObservationSummary_eq_ok_iff.mp h huse
  exact ⟨raw, lately_of_slot .binaryRawObservations hraw, hcount⟩

theorem foldl_max_lt_iff {ns : List ℤ} {a b : ℤ} :
    ns.foldl max a < b ↔ a < b ∧ ∀ n ∈ ns, n < b := by
  induction ns generalizing a with
  | nil => simp
  | cons n ns ih => rw [List.foldl_cons, ih, max_lt_iff, List.forall_mem_cons, and_assoc]

/-- The strongest flag is that of the JAMSTATUS or of a band. -/
theorem flags_lt_of_strongestFlag_lt {jam : Option JamStatusData}
    {freqJam : Option FreqJamStatusData} (h : NodeState.strongestFlag jam freqJam < 1) :
    (∀ status ∈ jam, status.cwFlag < 1) ∧
      ∀ status ∈ freqJam, ∀ band ∈ NodeState.jamBands status, band.2.2 < 1 := by
  constructor
  · rintro status hstatus
    obtain rfl : jam = some status := hstatus
    exact (foldl_max_lt_iff.mp h).1
  · rintro status hstatus band hband
    obtain rfl : freqJam = some status := hstatus
    exact (foldl_max_lt_iff.mp h).2 _ (List.mem_map_of_mem hband)

theorem evidence_jamming
    (h : ((run math config callbacks).2.node.data.gpsJammingSummary config now).1 = .ok) :
    Evidence math config callbacks now .jamming := by
  obtain ⟨hactive, hbinary, hflag⟩ := NodeState.gpsJammingSummary_eq_ok_iff.mp h
  obtain ⟨hjamFlag, hfreqJamFlag⟩ := flags_lt_of_strongestFlag_lt hflag
  -- the format that is asked for has brought one of the two
  have hboth : ((run math config callbacks).2.node.data.activeJamStatus config now).isSome = true ∧
        (config.useBinaryJammingDiag = true →
          ((run math config callbacks).2.node.data.activeBinaryJamStatus config now).isSome =
            true) ∨
      ((run math config callbacks).2.node.data.activeFreqJamStatus config now).isSome = true ∧
        (config.useBinaryJammingDiag = true →
          ((run math config callbacks).2.node.data.activeBinaryFreqJamStatus config
            now).isSome = true) := by
    cases huse : config.useBinaryJammingDiag with
    | false => simpa using hactive
    | true =>
      rw [NodeState.activeJamStatus, NodeState.activeFreqJamStatus, preferBinary, preferBinary,
        huse, if_pos rfl, if_pos rfl, Option.isSome_or, Option.isSome_or]
      rcases hbinary huse with hjam | hfreqJam
      · exact .inl ⟨by rw [hjam]; rfl, fun _ => hjam⟩
      · exact .inr ⟨by rw [hfreqJam]; rfl, fun _ => hfreqJam⟩
  rcases hboth with ⟨hactive, hfresh⟩ | ⟨hactive, hfresh⟩
  · obtain ⟨jam, hjam⟩ := Option.isSome_iff_exists.mp hactive
    exact .inl ⟨jam, lately_of_preferBinary .jamStatus .binaryJamStatus rfl rfl rfl hfresh hjam,
      hjamFlag jam hjam⟩
  · obtain ⟨freqJam, hfreqJam⟩ := Option.isSome_iff_exists.mp hactive
    exact .inr ⟨freqJam, lately_of_preferBinary .freqJamStatus .binaryFreqJamStatus rfl rfl rfl
      hfresh hfreqJam, hfreqJamFlag freqJam hfreqJam⟩

theorem evidence_satellites {talkers : List Bytes} {total : ℤ}
    (h : ((run math config callbacks).2.node.data.gpsSatellitesSummary config now talkers total).1 =
      .ok) :
    Evidence math config callbacks now .satellites := by
  obtain ⟨hsatsinfo, hactive, hbinary, hvisible, hused⟩ :=
    NodeState.gpsSatellitesSummary_eq_ok_iff.mp h
  refine ⟨?_, ?_⟩
  · obtain ⟨bestsat, hbestsat⟩ := Option.isSome_iff_exists.mp hactive
    refine ⟨bestsat, lately_of_preferBinary .bestsat .binaryBestsat rfl rfl rfl hbinary hbestsat,
      ?_⟩
    intro hnone
    rw [NodeState.usedTotal, hbestsat, Option.elim_some, hnone] at hused
    exact hused rfl
  · intro henabled
    obtain ⟨hactive, hbinary⟩ := hsatsinfo henabled
    obtain ⟨satsinfo, hdata⟩ := Option.isSome_iff_exists.mp hactive
    refine ⟨satsinfo, lately_of_preferBinary .satsinfo .binarySatsinfo rfl rfl rfl hbinary hdata,
      ?_⟩
    rw [NodeState.visibleTotal, NodeState.countedSatsinfo, if_pos henabled, hdata,
      Option.elim_some] at hvisible
    exact_mod_cast hvisible

theorem evidence_rtk
    (h : ((run math config callbacks).2.node.data.gpsRtkSummary config now).1 = .ok) :
    Evidence math config callbacks now .rtk := by
  obtain ⟨bestnav, hbestnav, hactive, hbinary, hsolution, hdiffAge, hquality⟩ :=
    NodeState.gpsRtkSummary_eq_ok_iff.mp h
  obtain ⟨status, hstatus⟩ := Option.isSome_iff_exists.mp hactive
  refine ⟨?_, status, lately_of_preferBinary .rtkStatus .binaryRtkStatus rfl rfl rfl hbinary
    hstatus⟩
  -- a BESTNAV of either format
  rw [NodeState.activeBestnav] at hbestnav
  split_ifs at hbestnav with huse
  · rw [Option.or_eq_some_iff] at hbestnav
    rcases hbestnav with hbestnav | ⟨-, hbestnav⟩
    · exact ⟨bestnav, true, lately_of_slot .binaryBestnav hbestnav, fun _ => huse, hsolution,
        hquality, hdiffAge⟩
    · exact ⟨bestnav, false, lately_of_slot .bestnav hbestnav, by simp, hsolution, hquality,
        hdiffAge⟩
  · exact ⟨bestnav, false, lately_of_slot .bestnav hbestnav, by simp, hsolution, hquality,
      hdiffAge⟩

/-- The history has what has been written. -/
theorem mem_written {t : SteadyTime}
    (h : t ∈ ((run math config callbacks).2.pruneHistory now).node.rtcmHistory) :
    t ∈ written math config callbacks := by
  have hmem : t ∈ (run math config callbacks).2.node.rtcmHistory :=
    (List.dropWhile_sublist _).subset h
  rw [(run_node math config callbacks).1] at hmem
  exact TimeWindow.run_sublist.subset hmem

theorem evidence_ntrip
    (h : ((run math config callbacks).2.node.data.gpsNtripSummary config now
      ((run math config callbacks).2.pruneHistory now).node.rtcmHistory).1 = .ok) :
    Evidence math config callbacks now .ntrip := by
  obtain ⟨hne, hage, hreceiver⟩ := NodeState.gpsNtripSummary_eq_ok_iff.mp h
  refine ⟨?_, ?_, fun henabled => ?_⟩
  · refine ⟨_, mem_written (List.head_mem hne), ?_⟩
    have hhead := List.head_dropWhile_not (p := NodeState.outsideWindow now) hne
    rw [NodeState.outsideWindow, decide_eq_false_iff_not, not_lt] at hhead
    exact hhead
  · refine ⟨_, mem_written (List.getLast_mem hne), ?_⟩
    rw [NodeState.injectionAge, List.getLast?_eq_some_getLast hne, Option.map_some] at hage
    exact hage
  · obtain ⟨hactive, hbinary, -⟩ := hreceiver henabled
    obtain ⟨status, hstatus⟩ := Option.isSome_iff_exists.mp hactive
    exact ⟨status, lately_of_preferBinary .rtcmStatus .binaryRtcmStatus rfl rfl rfl hbinary
      hstatus⟩

theorem evidence_fix
    (h : ((run math config callbacks).2.node.data.gpsFixSummary config.toDiagnosticsConfig
      ((run math config callbacks).2.node.data.activeFix config.toNodeConfig now)
      (run math config callbacks).2.node.serial.isOpen now).1 = .ok) :
    Evidence math config callbacks now .fix := by
  rw [NodeState.gpsFixSummary] at h
  split_ifs at h with hclosed hnone hquality
  rw [Bool.not_eq_true', Bool.not_eq_false] at hclosed
  rw [not_or, Bool.not_eq_true, Option.isNone_eq_false_iff] at hnone
  obtain ⟨fix, hfix⟩ := Option.isSome_iff_exists.mp hnone.1
  have hactive := hfix
  rw [data_run] at hactive
  obtain ⟨hpos, source, hsource, event, hevent, sample, harrival, rfl, hage⟩ :=
    Run.exists_event_of_activeFix hactive
  rw [NodeState.gpsFixQuality, hfix, Option.map_some, Option.getD_some, if_pos hpos] at hquality
  exact ⟨hclosed, source, hsource, event, hevent, sample, harrival, hquality, hage⟩

theorem evidence_parserStatus (h : ((run math config callbacks).2.gpsParserSummary).1 = .ok) :
    Evidence math config callbacks now .parser := by
  intro anomaly
  rw [gpsParserSummary] at h
  split_ifs at h with hany
  rw [Bool.not_eq_true, List.any_eq_false] at hany
  have hzero := hany anomaly anomaly.mem_all
  simpa using hzero

/-- Whichever status it is. -/
theorem evidence_of_status {name : StatusName}
    (hstatus : (run math config callbacks).2.status math config now keys name = some status)
    (henabled : name.enabled config = true) (hok : status.level = .ok) :
    Evidence math config callbacks now name := by
  have hnot {on : Bool} (h : on = true) : ¬ (!on) = true := by
    rw [h]
    decide
  cases name with
  | fix =>
    obtain rfl := Option.some.inj hstatus
    exact evidence_fix hok
  | satellites =>
    have hon : config.enableSatelliteStatus = true := henabled
    rw [MonitoredNode.status, NodeState.gpsSatellitesStatus, if_neg (hnot hon)] at hstatus
    obtain ⟨total, -, hstatus⟩ := Option.bind_eq_some_iff.mp hstatus
    obtain ⟨comparison, -, rfl⟩ := Option.map_eq_some_iff.mp hstatus
    exact evidence_satellites hok
  | rtk =>
    have hon : config.enableRtkStatus = true := henabled
    rw [MonitoredNode.status, NodeState.gpsRtkStatus, if_neg (hnot hon)] at hstatus
    obtain ⟨comparison, -, rfl⟩ := Option.map_eq_some_iff.mp hstatus
    exact evidence_rtk hok
  | ntrip =>
    obtain ⟨comparison, -, rfl⟩ := Option.map_eq_some_iff.mp hstatus
    exact evidence_ntrip hok
  | rf =>
    obtain rfl := Option.some.inj hstatus
    have hon : config.enableRfStatus = true := henabled
    rw [NodeState.gpsRfStatus, if_neg (hnot hon)] at hok
    exact evidence_rf hok
  | hardware =>
    obtain rfl := Option.some.inj hstatus
    have hon : config.enableHwStatus = true := henabled
    rw [NodeState.gpsHardwareStatus, if_neg (hnot hon)] at hok
    exact evidence_hardware hok
  | jamming =>
    have hon : config.enableJammingStatus = true := henabled
    rw [MonitoredNode.status, NodeState.gpsJammingStatus, if_neg (hnot hon)] at hstatus
    obtain ⟨comparison, -, rfl⟩ := Option.map_eq_some_iff.mp hstatus
    exact evidence_jamming hok
  | rawObservations =>
    obtain ⟨henabled, huse⟩ := Bool.and_eq_true_iff.mp henabled
    obtain rfl := Option.some.inj hstatus
    rw [NodeState.gpsRawObservationStatus, if_neg (hnot henabled)] at hok
    exact evidence_rawObservations huse hok
  | parser =>
    obtain rfl := Option.some.inj hstatus
    exact evidence_parserStatus hok

end Evidence

/-- **No status is well without evidence**: one that is switched on and `ok`, in what is published
after any run, rests on good data that has been received within its timeout, or on a recent write.
The data are in the format that is asked for, but for the fix (any source of the fallback order)
and the BESTNAV (a binary one only where it is asked for, a text one always). -/
theorem evidence_of_ok (stamp : RosTime) (keys : TableKeys) (name : StatusName)
    (status : DiagnosticStatus)
    (hstatus : ((run math config callbacks).2.publishDiagnostics math config now stamp keys).1.find?
      name = some status)
    (henabled : name.enabled config = true) (hok : status.level = .ok) :
    Evidence math config callbacks now name := by
  rw [find?_publishDiagnostics] at hstatus
  exact evidence_of_status hstatus henabled hok

/-- The injection is well two seconds after a message has gone out, and the jamming status one
nanosecond after a JAMSTATUS without a flag. -/
theorem evidence_of_ok_ntrip_jamming :
    let math : DiagnosticsMath := ⟨⟨fun _ => 0, fun _ => 1⟩, fun x => x⟩
    let handled : List NodeCallback :=
      [.serial (.handleRtcm 0 ⟨3, 0, 0⟩ [0xD3, 0] [⟨2, .again, []⟩] 10000000)]
    let polled : List NodeCallback :=
      [.serial (.pollSerial 0 ⟨3, 0, 0⟩
        [(.bytes (ascii "#JAMSTATUSA,,,,,,,,,,1,0*b2770d0e" ++ [lf]), fun _ => (0, 0)),
          (.failed .again, fun _ => (0, 0))])]
    Evidence math { enableRtcmStatus := false } handled 2010000000 .ntrip ∧
      Evidence math {} polled 1 .jamming := by
  intro math handled polled
  have hntrip := find?_publishDiagnostics math { enableRtcmStatus := false }
    (run math { enableRtcmStatus := false } handled).2 2010000000 0 {} .ntrip
  have hjamming := find?_publishDiagnostics math {} (run math {} polled).2 1 0 {} .jamming
  have hlevel : ((run math {} polled).2.status math {} 1 {} .jamming).map (·.level) = some .ok := by
    decide +kernel
  obtain ⟨status, hstatus, hok⟩ := Option.map_eq_some_iff.mp hlevel
  constructor
  · exact evidence_of_ok math { enableRtcmStatus := false } handled 2010000000 0 {} .ntrip _
      (hntrip.trans rfl) rfl (by decide +kernel)
  · exact evidence_of_ok math {} polled 1 0 {} .jamming status (hjamming.trans hstatus) rfl hok

/-- The timeouts of the data. -/
def timeouts (config : NodeParameters) : List Double :=
  [config.dataTimeoutSec, config.binaryNavTimeoutSec, config.rtcmTimeoutSec,
    config.satelliteDiagTimeoutSec, config.rfDiagTimeoutSec,
    config.rawObservationTimeoutSec]

/-- **After a silence** that is longer than the timeouts no status that is switched on is well, but
for that of the parser. -/
theorem not_ok_of_silence (stamp : RosTime) (keys : TableKeys) (name : StatusName)
    (status : DiagnosticStatus)
    (hstatus : ((run math config callbacks).2.publishDiagnostics math config now stamp keys).1.find?
      name = some status)
    (henabled : name.enabled config = true) (hparser : name ≠ .parser)
    (hevents : ∀ event ∈ handled math config callbacks, ∀ timeoutSec ∈ timeouts config,
      ¬ AgeAtMost now event.receivedAt timeoutSec)
    (hwrites : ∀ t ∈ written math config callbacks, ¬ AgeAtMost now t (.finite 5)) :
    status.level ≠ .ok := by
  intro hok
  rw [find?_publishDiagnostics] at hstatus
  have hevidence := evidence_of_status hstatus henabled hok
  have hlately : ∀ {α : Type} {binary : Bool} {get : ParsedSentence → Option α}
      {timeoutSec : Double} {data : α}, timeoutSec ∈ timeouts config →
      ¬ Lately math config callbacks now binary get timeoutSec data := by
    rintro α binary get timeoutSec data htimeout ⟨event, hevent, -, -, hage⟩
    exact hevents event hevent timeoutSec htimeout hage
  cases name with
  | fix =>
    obtain ⟨-, source, -, event, hevent, -, -, -, hage⟩ := hevidence
    refine hevents event hevent _ ?_ hage
    cases source <;> simp [timeouts, NodeState.fixTimeout]
  | satellites =>
    obtain ⟨⟨bestsat, hbestsat, -⟩, -⟩ := hevidence
    exact hlately (by simp [timeouts]) hbestsat
  | rtk =>
    obtain ⟨-, status, hrtk⟩ := hevidence
    exact hlately (by simp [timeouts]) hrtk
  | ntrip =>
    obtain ⟨⟨t, ht, hage⟩, -⟩ := hevidence
    exact hwrites t ht hage
  | rf =>
    obtain ⟨agc, hagc, -⟩ := hevidence
    exact hlately (by simp [timeouts]) hagc
  | hardware =>
    obtain ⟨hw, hhw, -⟩ := hevidence
    exact hlately (by simp [timeouts]) hhw
  | jamming =>
    rcases hevidence with ⟨jam, hjam, -⟩ | ⟨freqJam, hfreqJam, -⟩
    · exact hlately (by simp [timeouts]) hjam
    · exact hlately (by simp [timeouts]) hfreqJam
  | rawObservations =>
    obtain ⟨raw, hraw, -⟩ := hevidence
    exact hlately (by simp [timeouts]) hraw
  | parser => exact hparser rfl

end MonitoredNode

end UnicoreGnss
