import UnicoreGnss.Lib.BoundedHistory
import UnicoreGnss.Node.Separation
import UnicoreGnss.Node.SerialPort
import UnicoreGnss.Node.StatusTexts

/-!
# What the diagnostics are about

The diagnostics of `src/unicore_node.cpp` report data that has been received, as long as it is
fresh. There is a slot for the text lines and one for the binary frames of almost every kind of
data, and a parameter for each group of kinds that says whether the binary one is preferred.

`StatusSlot` is such a slot: a member of the node's state that one of the two handlers overwrites
whenever a sentence has data of the kind, and that nothing else touches. These facts are members of
the structure, so what holds of a slot after a run is proved once for all of them.

## Main definitions

* `NodeParameters` — all the parameters the node looks at
* `NodeState.activeRtkStatus` and the like — the selection
* `StatusSlot` — a slot of the state, with its kind of data

## Main results

* `StatusSlot.latest_state` — after a run, a slot holds the last data of its kind
* `recentMessageIds_state` — the last eight message ids
-/

namespace UnicoreGnss

open BoundedHistory CNumber

/-- The parameters of the node, but for the device and the names of the topics. -/
structure NodeParameters extends DiagnosticsConfig, UnicoreNodeConfig where
  maxDiffAgeSec : Double := .finite 5
  enableRtkStatus : Bool := true
  enableRtcmStatus : Bool := true
  enableSatelliteStatus : Bool := true
  enableSatsinfo : Bool := true
  satelliteDiagTimeoutSec : Double := .finite 5
  enableRfStatus : Bool := true
  enableHwStatus : Bool := true
  enableJammingStatus : Bool := true
  rfDiagTimeoutSec : Double := .finite 5
  enableRawObservationDiag : Bool := false
  useBinaryRawObservations : Bool := false
  rawObservationTimeoutSec : Double := .finite 5
  /-- As declared, before it is raised to at least 0. -/
  rawObservationMaxDebugEntries : ℤ := 0
  useBinaryRtkDiag : Bool := false
  useBinarySatelliteDiag : Bool := false
  useBinaryRtcmDiag : Bool := false
  useBinaryRfDiag : Bool := false
  useBinaryHwDiag : Bool := false
  useBinaryJammingDiag : Bool := false

/-- The data of a slot, as long as it is fresh. -/
def activeData {α : Type} (latest : Option (TimedData α)) (now : SteadyTime)
    (timeoutSec : Double) : Option α :=
  freshIf latest (fun _ => true) now timeoutSec

/-- The data of the binary frames if they are preferred and there is some, and otherwise that of the
text lines. -/
def preferBinary {α : Type} (useBinary : Bool) (binary ascii : Option α) : Option α :=
  if useBinary then binary.or ascii else ascii

/-- The age of the data in a slot. -/
def timedAge {α : Type} (latest : Option (TimedData α)) (now : SteadyTime) : Option ℚ :=
  latest.map fun sample => NodeState.ageSeconds now sample.receivedAt

namespace NodeState

variable (config : NodeParameters) (s : NodeState) (now : SteadyTime)

/-! ### Selection -/

/-- The RTKSTATUS of the text lines, if it is fresh. -/
def activeAsciiRtkStatus : Option RtkStatusData :=
  activeData s.latestRtkStatus now config.rtcmTimeoutSec

/-- The RTKSTATUS of the binary frames, if it is fresh. -/
def activeBinaryRtkStatus : Option RtkStatusData :=
  activeData s.latestBinaryRtkStatus now config.rtcmTimeoutSec

/-- The RTKSTATUS in use. -/
def activeRtkStatus : Option RtkStatusData :=
  preferBinary config.useBinaryRtkDiag (s.activeBinaryRtkStatus config now)
    (s.activeAsciiRtkStatus config now)

/-- The RTCMSTATUS of the text lines, if it is fresh. -/
def activeAsciiRtcmStatus : Option RtcmStatusData :=
  activeData s.latestRtcmStatus now config.rtcmTimeoutSec

/-- The RTCMSTATUS of the binary frames, if it is fresh. -/
def activeBinaryRtcmStatus : Option RtcmStatusData :=
  activeData s.latestBinaryRtcmStatus now config.rtcmTimeoutSec

/-- The RTCMSTATUS in use. -/
def activeRtcmStatus : Option RtcmStatusData :=
  preferBinary config.useBinaryRtcmDiag (s.activeBinaryRtcmStatus config now)
    (s.activeAsciiRtcmStatus config now)

/-- The BESTSAT of the text lines, if it is fresh. -/
def activeAsciiBestsat : Option BestSatData :=
  activeData s.latestBestsat now config.satelliteDiagTimeoutSec

/-- The BESTSAT of the binary frames, if it is fresh. -/
def activeBinaryBestsat : Option BestSatData :=
  activeData s.latestBinaryBestsat now config.satelliteDiagTimeoutSec

/-- The BESTSAT in use. -/
def activeBestsat : Option BestSatData :=
  preferBinary config.useBinarySatelliteDiag (s.activeBinaryBestsat config now)
    (s.activeAsciiBestsat config now)

/-- The SATSINFO of the text lines, if it is fresh. -/
def activeAsciiSatsinfo : Option SatsInfoData :=
  activeData s.latestSatsinfo now config.satelliteDiagTimeoutSec

/-- The SATSINFO of the binary frames, if it is fresh. -/
def activeBinarySatsinfo : Option SatsInfoData :=
  activeData s.latestBinarySatsinfo now config.satelliteDiagTimeoutSec

/-- The SATSINFO in use. -/
def activeSatsinfo : Option SatsInfoData :=
  preferBinary config.useBinarySatelliteDiag (s.activeBinarySatsinfo config now)
    (s.activeAsciiSatsinfo config now)

/-- The AGC of the text lines, if it is fresh. -/
def activeAsciiAgc : Option AgcData := activeData s.latestAgc now config.rfDiagTimeoutSec

/-- The AGC of the binary frames, if it is fresh. -/
def activeBinaryAgc : Option AgcData := activeData s.latestBinaryAgc now config.rfDiagTimeoutSec

/-- The AGC in use. -/
def activeAgc : Option AgcData :=
  preferBinary config.useBinaryRfDiag (s.activeBinaryAgc config now) (s.activeAsciiAgc config now)

/-- The HWSTATUS of the text lines, if it is fresh. -/
def activeAsciiHwStatus : Option HwStatusData :=
  activeData s.latestHwStatus now config.rfDiagTimeoutSec

/-- The HWSTATUS of the binary frames, if it is fresh. -/
def activeBinaryHwStatus : Option HwStatusData :=
  activeData s.latestBinaryHwStatus now config.rfDiagTimeoutSec

/-- The HWSTATUS in use. -/
def activeHwStatus : Option HwStatusData :=
  preferBinary config.useBinaryHwDiag (s.activeBinaryHwStatus config now)
    (s.activeAsciiHwStatus config now)

/-- The JAMSTATUS of the text lines, if it is fresh. -/
def activeAsciiJamStatus : Option JamStatusData :=
  activeData s.latestJamStatus now config.rfDiagTimeoutSec

/-- The JAMSTATUS of the binary frames, if it is fresh. -/
def activeBinaryJamStatus : Option JamStatusData :=
  activeData s.latestBinaryJamStatus now config.rfDiagTimeoutSec

/-- The JAMSTATUS in use. -/
def activeJamStatus : Option JamStatusData :=
  preferBinary config.useBinaryJammingDiag (s.activeBinaryJamStatus config now)
    (s.activeAsciiJamStatus config now)

/-- The FREQJAMSTATUS of the text lines, if it is fresh. -/
def activeAsciiFreqJamStatus : Option FreqJamStatusData :=
  activeData s.latestFreqJamStatus now config.rfDiagTimeoutSec

/-- The FREQJAMSTATUS of the binary frames, if it is fresh. -/
def activeBinaryFreqJamStatus : Option FreqJamStatusData :=
  activeData s.latestBinaryFreqJamStatus now config.rfDiagTimeoutSec

/-- The FREQJAMSTATUS in use. -/
def activeFreqJamStatus : Option FreqJamStatusData :=
  preferBinary config.useBinaryJammingDiag (s.activeBinaryFreqJamStatus config now)
    (s.activeAsciiFreqJamStatus config now)

/-- The raw observations, if they are fresh. They come in binary frames only. -/
def activeBinaryRawObservations : Option RawObservationData :=
  activeData s.latestBinaryRawObservations now config.rawObservationTimeoutSec

/-- The raw observations in use; none if the node does not look at them. -/
def activeRawObservations : Option RawObservationData :=
  if !config.useBinaryRawObservations then none else s.activeBinaryRawObservations config now

end NodeState

/-! ### Slots -/

/-- The members of the state that only the diagnostics use; the others are as in a fresh node. -/
def NodeState.statuses (s : NodeState) : NodeState :=
  { s with
    parserCounters := {}
    dispatchCounters := {}
    latestGgaFix := none
    latestPvtslnaFix := none
    latestHdtHeading := none
    latestHprHeading := none
    latestBinaryPvtslnFix := none
    latestBinaryHeading := none
    lastBinaryFrameTime := none
    lastBinaryMsgId := none
    sentenceCounts := fun _ => 0 }

/-- The slot of a kind of data. Only one of the two handlers writes to it, which it does whenever a
sentence has data of the kind. -/
structure StatusSlot (α : Type) where
  latest : NodeState → Option (TimedData α)
  data : ParsedSentence → Option α
  /-- Is it a slot for binary frames? -/
  binary : Bool
  latest_fresh : latest {} = none
  latest_statuses : ∀ s, latest s.statuses = latest s
  latest_storeAsciiStatus : ∀ s parsed receivedAt,
    latest (s.storeAsciiStatus parsed receivedAt) =
      if binary then latest s else refresh (latest s) (data parsed) receivedAt
  latest_storeBinaryStatus : ∀ s parsed receivedAt,
    latest (s.storeBinaryStatus parsed receivedAt) =
      if binary then refresh (latest s) (data parsed) receivedAt else latest s

namespace StatusSlot

/-- `latest_bestnav_` -/
def bestnav : StatusSlot BestNavData :=
  ⟨(·.latestBestnav), (·.bestnav), false, rfl, fun _ => rfl, fun _ _ _ => rfl,
    fun _ _ _ => rfl⟩

/-- `latest_binary_bestnav_` -/
def binaryBestnav : StatusSlot BestNavData :=
  ⟨(·.latestBinaryBestnav), (·.bestnav), true, rfl, fun _ => rfl, fun _ _ _ => rfl,
    fun _ _ _ => rfl⟩

/-- `latest_rtk_status_` -/
def rtkStatus : StatusSlot RtkStatusData :=
  ⟨(·.latestRtkStatus), (·.rtkStatus), false, rfl, fun _ => rfl, fun _ _ _ => rfl,
    fun _ _ _ => rfl⟩

/-- `latest_binary_rtk_status_` -/
def binaryRtkStatus : StatusSlot RtkStatusData :=
  ⟨(·.latestBinaryRtkStatus), (·.rtkStatus), true, rfl, fun _ => rfl, fun _ _ _ => rfl,
    fun _ _ _ => rfl⟩

/-- `latest_rtcm_status_` -/
def rtcmStatus : StatusSlot RtcmStatusData :=
  ⟨(·.latestRtcmStatus), (·.rtcmStatus), false, rfl, fun _ => rfl, fun _ _ _ => rfl,
    fun _ _ _ => rfl⟩

/-- `latest_binary_rtcm_status_` -/
def binaryRtcmStatus : StatusSlot RtcmStatusData :=
  ⟨(·.latestBinaryRtcmStatus), (·.rtcmStatus), true, rfl, fun _ => rfl, fun _ _ _ => rfl,
    fun _ _ _ => rfl⟩

/-- `latest_bestsat_` -/
def bestsat : StatusSlot BestSatData :=
  ⟨(·.latestBestsat), (·.bestsat), false, rfl, fun _ => rfl, fun _ _ _ => rfl,
    fun _ _ _ => rfl⟩

/-- `latest_binary_bestsat_` -/
def binaryBestsat : StatusSlot BestSatData :=
  ⟨(·.latestBinaryBestsat), (·.bestsat), true, rfl, fun _ => rfl, fun _ _ _ => rfl,
    fun _ _ _ => rfl⟩

/-- `latest_satsinfo_` -/
def satsinfo : StatusSlot SatsInfoData :=
  ⟨(·.latestSatsinfo), (·.satsinfo), false, rfl, fun _ => rfl, fun _ _ _ => rfl,
    fun _ _ _ => rfl⟩

/-- `latest_binary_satsinfo_` -/
def binarySatsinfo : StatusSlot SatsInfoData :=
  ⟨(·.latestBinarySatsinfo), (·.satsinfo), true, rfl, fun _ => rfl, fun _ _ _ => rfl,
    fun _ _ _ => rfl⟩

/-- `latest_agc_` -/
def agc : StatusSlot AgcData :=
  ⟨(·.latestAgc), (·.agc), false, rfl, fun _ => rfl, fun _ _ _ => rfl,
    fun _ _ _ => rfl⟩

/-- `latest_binary_agc_` -/
def binaryAgc : StatusSlot AgcData :=
  ⟨(·.latestBinaryAgc), (·.agc), true, rfl, fun _ => rfl, fun _ _ _ => rfl,
    fun _ _ _ => rfl⟩

/-- `latest_hw_status_` -/
def hwStatus : StatusSlot HwStatusData :=
  ⟨(·.latestHwStatus), (·.hwStatus), false, rfl, fun _ => rfl, fun _ _ _ => rfl,
    fun _ _ _ => rfl⟩

/-- `latest_binary_hw_status_` -/
def binaryHwStatus : StatusSlot HwStatusData :=
  ⟨(·.latestBinaryHwStatus), (·.hwStatus), true, rfl, fun _ => rfl, fun _ _ _ => rfl,
    fun _ _ _ => rfl⟩

/-- `latest_jam_status_` -/
def jamStatus : StatusSlot JamStatusData :=
  ⟨(·.latestJamStatus), (·.jamStatus), false, rfl, fun _ => rfl, fun _ _ _ => rfl,
    fun _ _ _ => rfl⟩

/-- How many observations there are of each constellation. -/
def binaryJamStatus : StatusSlot JamStatusData :=
  ⟨(·.latestBinaryJamStatus), (·.jamStatus), true, rfl, fun _ => rfl, fun _ _ _ => rfl,
    fun _ _ _ => rfl⟩

/-- `latest_freq_jam_status_` -/
def freqJamStatus : StatusSlot FreqJamStatusData :=
  ⟨(·.latestFreqJamStatus), (·.freqJamStatus), false, rfl, fun _ => rfl, fun _ _ _ => rfl,
    fun _ _ _ => rfl⟩

/-- `latest_binary_freq_jam_status_` -/
def binaryFreqJamStatus : StatusSlot FreqJamStatusData :=
  ⟨(·.latestBinaryFreqJamStatus), (·.freqJamStatus), true, rfl, fun _ => rfl, fun _ _ _ => rfl,
    fun _ _ _ => rfl⟩

/-- `latest_binary_raw_observations_` -/
def binaryRawObservations : StatusSlot RawObservationData :=
  ⟨(·.latestBinaryRawObservations), (·.rawObservations), true, rfl, fun _ => rfl, fun _ _ _ => rfl,
    fun _ _ _ => rfl⟩

end StatusSlot

/-! ### What an event does to the slots -/

namespace NodeState

variable (math : MathFunctions) (config : NodeConfig) (s : NodeState)

/-- What the handler of an event stores for the diagnostics. -/
def storeStatus (event : NodeEvent) : NodeState :=
  (event.sentence math).elim s fun parsed =>
    if event.isBinary then s.storeBinaryStatus parsed event.receivedAt
    else s.storeAsciiStatus parsed event.receivedAt

theorem statuses_takeFix (slot : FixData → FixSource) (publishes : Bool) (fix : Option FixData)
    (now : SteadyTime) (stamp : RosTime) :
    (s.takeFix config slot publishes fix now stamp).1.statuses = s.statuses := by
  cases fix with
  | none => rfl
  | some fix =>
    show (s.setFix (slot fix) ⟨fix, now⟩).statuses = s.statuses
    cases slot fix <;> rfl

theorem statuses_takeHeading (slot : HeadingData → HeadingSource) (publishes : Bool)
    (heading : Option HeadingData) (now : SteadyTime) (stamp : RosTime) :
    (s.takeHeading config slot publishes heading now stamp).1.statuses = s.statuses := by
  cases heading with
  | none => rfl
  | some heading =>
    show (s.setHeading (slot heading) ⟨heading, now⟩).statuses = s.statuses
    cases slot heading <;> rfl

/-- What is stored depends on the slots alone. -/
theorem statuses_storeAsciiStatus_congr {s s' : NodeState} (h : s.statuses = s'.statuses)
    (parsed : ParsedSentence) (now : SteadyTime) :
    (s.storeAsciiStatus parsed now).statuses = (s'.storeAsciiStatus parsed now).statuses := by
  show (s.statuses.storeAsciiStatus parsed now).statuses =
    (s'.statuses.storeAsciiStatus parsed now).statuses
  rw [h]

theorem statuses_storeBinaryStatus_congr {s s' : NodeState} (h : s.statuses = s'.statuses)
    (parsed : ParsedSentence) (now : SteadyTime) :
    (s.storeBinaryStatus parsed now).statuses = (s'.storeBinaryStatus parsed now).statuses := by
  show (s.statuses.storeBinaryStatus parsed now).statuses =
    (s'.statuses.storeBinaryStatus parsed now).statuses
  rw [h]

theorem statuses_processLine (line : Bytes) (now : SteadyTime) (stamp : RosTime) :
    (s.processLine config math line now stamp).1.statuses =
      (s.storeStatus math ⟨.asciiLine line, now, stamp⟩).statuses := by
  show _ = ((parsedLine math line).elim s fun parsed => s.storeAsciiStatus parsed now).statuses
  rw [← parsedLine_eq math line s.parserCounters, processLine]
  rcases UnicoreParser.parseLine math line s.parserCounters with ⟨_ | parsed, counters⟩ | _ | _
  · rfl
  · refine statuses_storeAsciiStatus_congr ?_ parsed now
    exact ((NodeState.statuses_takeHeading config _ _ _ _ _ _).trans
      (NodeState.statuses_takeFix config _ _ _ _ _ _))
  · rfl
  · rfl

theorem statuses_processBinaryFrame (frame : UnicoreBinaryFrame) (now : SteadyTime)
    (stamp : RosTime) :
    (s.processBinaryFrame config math frame now stamp).1.statuses =
      (s.storeStatus math ⟨.binaryFrame frame, now, stamp⟩).statuses := by
  show _ = ((UnicoreBinaryNavParser.parse math frame).toOption.elim s fun parsed =>
    s.storeBinaryStatus parsed now).statuses
  rw [processBinaryFrame]
  rcases UnicoreBinaryNavParser.parse math frame with parsed | _ | _
  · refine statuses_storeBinaryStatus_congr ?_ parsed now
    exact ((NodeState.statuses_takeHeading config _ _ _ _ _ _).trans
      (NodeState.statuses_takeFix config _ _ _ _ _ _))
  · rfl
  · rfl

/-- **One event**, for the diagnostics. -/
theorem statuses_step (event : NodeEvent) :
    (s.step math config event).1.statuses = (s.storeStatus math event).statuses := by
  obtain ⟨line | frame, receivedAt, stamp⟩ := event
  · cases line with
    | nil => rfl
    | cons c line => exact s.statuses_processLine math config (c :: line) receivedAt stamp
  · exact s.statuses_processBinaryFrame math config frame receivedAt stamp

end NodeState

namespace StatusSlot

variable {α : Type} (slot : StatusSlot α) (math : MathFunctions) (config : NodeConfig)

/-- The data that an event brings for the slot. -/
def arrival (event : NodeEvent) : Option (TimedData α) :=
  if event.isBinary = slot.binary then
    ((event.sentence math).bind slot.data).map fun data =>
      { data, receivedAt := event.receivedAt }
  else none

theorem latest_step (s : NodeState) (event : NodeEvent) :
    slot.latest (s.step math config event).1 = (slot.arrival math event).or (slot.latest s) := by
  rw [← slot.latest_statuses, s.statuses_step, slot.latest_statuses, NodeState.storeStatus,
    arrival]
  rcases event.sentence math with _ | parsed
  · simp
  · simp only [Option.elim_some, Option.bind_some]
    cases hevent : event.isBinary <;> cases hslot : slot.binary
    all_goals
      simp only [hslot, slot.latest_storeAsciiStatus, slot.latest_storeBinaryStatus, if_true,
        if_false, Bool.false_eq_true, Bool.true_eq_false, refresh, Option.none_or]
    · cases slot.data parsed <;> rfl
    · cases slot.data parsed <;> rfl

/-- **After a run** a slot holds the data that was received last. -/
theorem latest_state (events : List NodeEvent) :
    slot.latest (Run.state math config events) = events.reverse.findSome? (slot.arrival math) := by
  induction events using List.reverseRecOn with
  | nil => exact slot.latest_fresh
  | append_singleton events event ih =>
    rw [Run.state_concat, slot.latest_step, ih, List.reverse_append, List.reverse_singleton,
      List.singleton_append, List.findSome?_cons]
    cases slot.arrival math event <;> rfl

/-- The data of a slot that is in use has been received by an event that was not long ago. -/
theorem exists_event_of_activeData {events : List NodeEvent} {now : SteadyTime}
    {timeoutSec : Double} {data : α}
    (h : activeData (slot.latest (Run.state math config events)) now timeoutSec = some data) :
    ∃ event ∈ events, event.isBinary = slot.binary ∧
      (event.sentence math).bind slot.data = some data ∧
      isFresh now event.receivedAt timeoutSec = true := by
  rw [activeData, NodeState.freshIf_eq, Option.map_eq_some_iff] at h
  obtain ⟨sample, hsample, rfl⟩ := h
  rw [Option.filter_eq_some_iff, latest_state] at hsample
  obtain ⟨hlatest, hfresh⟩ := hsample
  obtain ⟨event, hevent, harrival⟩ := List.exists_of_findSome?_eq_some hlatest
  rw [arrival, Option.ite_none_right_eq_some, Option.map_eq_some_iff] at harrival
  obtain ⟨hbinary, data, hdata, rfl⟩ := harrival
  exact ⟨event, List.mem_reverse.mp hevent, hbinary, hdata, hfresh⟩

end StatusSlot

/-! ### What else is kept of the messages -/

/-- The RTCM status in an event of the one format or the other. -/
def NodeEvent.rtcmStatus (math : MathFunctions) (binary : Bool) (event : NodeEvent) :
    Option RtcmStatusData :=
  if event.isBinary = binary then (event.sentence math).bind ParsedSentence.rtcmStatus else none

/-- Its message id, if it has one. -/
def NodeEvent.messageIds (math : MathFunctions) (binary : Bool) (event : NodeEvent) : List ℤ :=
  ((event.rtcmStatus math binary).toList.map RtcmStatusData.messageId).filter (0 ≤ ·)

/-- The list of ids keeps the last eight. -/
theorem pushMessageId_keep (ids : List ℤ) (status : Option RtcmStatusData) :
    NodeState.pushMessageId (keep 8 ids) status =
      keep 8 (ids ++ (status.toList.map RtcmStatusData.messageId).filter (0 ≤ ·)) := by
  cases status with
  | none => simp [NodeState.pushMessageId]
  | some status =>
    rw [NodeState.pushMessageId]
    by_cases hid : 0 ≤ status.messageId
    · have hnew : ((some status).toList.map RtcmStatusData.messageId).filter (0 ≤ ·) =
          [status.messageId] := by
        simp [hid]
      have hlen : (keep 8 ids).length ≤ 8 := by
        rw [length_keep]
        exact Nat.min_le_right _ _
      rw [hnew, ← keep_keep_append, if_pos hid]
      exact tail_eq_keep hlen status.messageId
    · have hnone : ((some status).toList.map RtcmStatusData.messageId).filter (0 ≤ ·) = [] := by
        simp [hid]
      rw [if_neg hid, hnone, List.append_nil]

namespace NodeState

variable (math : MathFunctions) (config : NodeConfig) (s : NodeState) (event : NodeEvent)

theorem recentMessageIds_step :
    (s.step math config event).1.recentRtcmMessageIds =
        pushMessageId s.recentRtcmMessageIds (event.rtcmStatus math false) ∧
      (s.step math config event).1.recentBinaryRtcmMessageIds =
        pushMessageId s.recentBinaryRtcmMessageIds (event.rtcmStatus math true) := by
  show (s.step math config event).1.statuses.recentRtcmMessageIds = _ ∧
    (s.step math config event).1.statuses.recentBinaryRtcmMessageIds = _
  rw [statuses_step, storeStatus, NodeEvent.rtcmStatus, NodeEvent.rtcmStatus]
  rcases event.sentence math with _ | parsed
  · cases event.isBinary <;> exact ⟨rfl, rfl⟩
  · cases event.isBinary <;> exact ⟨rfl, rfl⟩

/-- The two members that hold the time of a slot. -/
theorem lastTimes_step (h : s.lastRtkstatusTime = s.latestRtkStatus.map TimedData.receivedAt ∧
      s.lastRtcmstatusTime = s.latestRtcmStatus.map TimedData.receivedAt) :
    let s' := (s.step math config event).1
    s'.lastRtkstatusTime = s'.latestRtkStatus.map TimedData.receivedAt ∧
      s'.lastRtcmstatusTime = s'.latestRtcmStatus.map TimedData.receivedAt := by
  intro s'
  have hstatuses : s'.statuses = (s.storeStatus math event).statuses :=
    s.statuses_step math config event
  show s'.statuses.lastRtkstatusTime = s'.statuses.latestRtkStatus.map TimedData.receivedAt ∧
    s'.statuses.lastRtcmstatusTime = s'.statuses.latestRtcmStatus.map TimedData.receivedAt
  rw [hstatuses, storeStatus]
  rcases event.sentence math with _ | parsed
  · exact h
  · cases event.isBinary with
    | true => exact h
    | false =>
      obtain ⟨hrtk, hrtcm⟩ := h
      constructor
      · show (if parsed.rtkStatus.isSome then some event.receivedAt else s.lastRtkstatusTime) =
          (refresh s.latestRtkStatus parsed.rtkStatus event.receivedAt).map TimedData.receivedAt
        cases parsed.rtkStatus with
        | none => exact hrtk
        | some status => rfl
      · show (if parsed.rtcmStatus.isSome then some event.receivedAt else s.lastRtcmstatusTime) =
          (refresh s.latestRtcmStatus parsed.rtcmStatus event.receivedAt).map TimedData.receivedAt
        cases parsed.rtcmStatus with
        | none => exact hrtcm
        | some status => rfl

end NodeState

namespace Run

variable (math : MathFunctions) (config : NodeConfig) (events : List NodeEvent)

/-- **The recent message ids** are the last eight that have been received, in either format. -/
theorem recentMessageIds_state :
    (state math config events).recentRtcmMessageIds =
        keep 8 (events.flatMap (NodeEvent.messageIds math false)) ∧
      (state math config events).recentBinaryRtcmMessageIds =
        keep 8 (events.flatMap (NodeEvent.messageIds math true)) := by
  induction events using List.reverseRecOn with
  | nil => exact ⟨rfl, rfl⟩
  | append_singleton events event ih =>
    obtain ⟨hascii, hbinary⟩ := (state math config events).recentMessageIds_step math config event
    rw [state_concat, List.flatMap_append, List.flatMap_append, List.flatMap_singleton,
      List.flatMap_singleton, hascii, hbinary, ih.1, ih.2]
    exact ⟨pushMessageId_keep _ _, pushMessageId_keep _ _⟩

/-- The two members that hold the time of a slot are right in every run. -/
theorem lastTimes_state :
    (state math config events).lastRtkstatusTime =
        (state math config events).latestRtkStatus.map TimedData.receivedAt ∧
      (state math config events).lastRtcmstatusTime =
        (state math config events).latestRtcmStatus.map TimedData.receivedAt := by
  induction events using List.reverseRecOn with
  | nil => exact ⟨rfl, rfl⟩
  | append_singleton events event ih =>
    rw [state_concat]
    exact (state math config events).lastTimes_step math config event ih

end Run

end UnicoreGnss
