import UnicoreGnss.Node.Reports

/-!
# What the diagnostics say of the injection

`gps_ntrip_status` counts the RTCM messages of the last five seconds. `handle_rtcm` notes when each
write has returned, in a list of at most 1024 times, and each status drops from its front what is
older than five seconds. The clock being steady, the status is right all the same: what it says is
about the messages that have gone out as a whole within the window, be there not more than 1024.

It may also say that the data of the receiver is stale. That branch is never taken: the data is not
in use any more by then.

## Main definitions

* `MonitoredNode.timedWrites` — the writes of a run, with the times of their ends
* `MonitoredNode.injected` — when the messages have gone out as a whole
* `MonitoredNode.recentlyInjected` — those of the last five seconds

## Main results

* `MonitoredNode.rtcmHistory_pruneHistory` — the history is that of the window
* `MonitoredNode.injection_reported` — the values and the levels of the status
-/

namespace UnicoreGnss

open CNumber

/-! ### The window -/

/-- Older than five seconds is older than five seconds later on, and so is what is older still. -/
theorem ageing_outsideWindow : TimeWindow.Ageing NodeState.outsideWindow where
  later {now now' t} hle h := by
    rw [NodeState.outsideWindow, decide_eq_true_eq, NodeState.ageSeconds] at h ⊢
    refine lt_of_lt_of_le h ?_
    gcongr
  earlier {now t t'} hle h := by
    rw [NodeState.outsideWindow, decide_eq_true_eq, NodeState.ageSeconds] at h ⊢
    refine lt_of_lt_of_le h ?_
    gcongr

/-! ### Writes and when they end -/

/-- The clock at the end of a callback. -/
def Callback.endedAt : Callback → SteadyTime
  | pollSerial now _ _ => now
  | handleRtcm _ _ _ _ writtenAt => writtenAt

/-- When a callback is done. -/
def NodeCallback.endedAt : NodeCallback → SteadyTime
  | serial callback => callback.endedAt
  | publishDiagnostics now _ _ => now

/-- The write of a callback, with the time of its end. -/
def Callback.timedWrites (config : UnicoreNodeConfig) (node : UnicoreNode) (callback : Callback) :
    List (RtcmWrite × SteadyTime) :=
  (callback.writes config node).map fun write => (write, callback.endedAt)

/-- What is noted in the history are the messages that have gone out as a whole. -/
theorem Callback.injectedAt_eq {config : UnicoreNodeConfig} {node : UnicoreNode}
    {callback : Callback} (hsound : ∀ write ∈ callback.writes config node, write.Sound) :
    (callback.injectedAt config node).toList =
      ((callback.timedWrites config node).filter (·.1.complete)).map Prod.snd := by
  cases callback with
  | pollSerial now opening reads => rfl
  | handleRtcm now opening message outcomes writtenAt =>
    rw [Callback.injectedAt, Callback.timedWrites]
    rw [Callback.writes] at hsound ⊢
    generalize (node.ensureSerialOpen config now opening).2.serial = port at hsound ⊢
    by_cases hidle : (!port.isOpen) = true ∨ message = []
    · simp only [if_pos hidle]
      rfl
    simp only [if_neg hidle] at hsound ⊢
    rw [List.forall_mem_singleton] at hsound
    have hopen : port.isOpen = true := by
      rw [not_or, Bool.not_eq_true', Bool.not_eq_false] at hidle
      exact hidle.1
    obtain ⟨hwhole, hpart⟩ := UnicoreNode.returned_of_isOpen hopen hsound rfl
    cases hcomplete : RtcmWrite.complete ⟨message, (port.writeTrace message outcomes).1,
        port.write message.length outcomes⟩ with
    | true =>
      have hresult : port.write message.length outcomes = some (message.length : ℤ) :=
        hwhole hcomplete
      have hsent : ¬ (message.length : ℤ) < 0 := by omega
      rw [List.map_singleton, List.filter_singleton, hcomplete, hresult, Option.bind_some,
        if_neg hsent]
      rfl
    | false =>
      rw [List.map_singleton, List.filter_singleton, hcomplete]
      rcases hpart hcomplete with hresult | hresult <;> dsimp only at hresult
      · rw [hresult]
        rfl
      · rw [hresult]
        rfl

/-- What is noted is the time of the end. -/
theorem Callback.eq_endedAt_of_injectedAt {config : UnicoreNodeConfig} {node : UnicoreNode}
    {callback : Callback} {t : SteadyTime} (h : callback.injectedAt config node = some t) :
    t = callback.endedAt := by
  cases callback with
  | pollSerial now opening reads => cases h
  | handleRtcm now opening message outcomes writtenAt =>
    rw [Callback.injectedAt, Option.ite_none_left_eq_some, Option.bind_eq_some_iff] at h
    obtain ⟨-, written, -, h⟩ := h
    rw [Option.ite_none_left_eq_some] at h
    exact (Option.some.inj h.2).symm

namespace MonitoredNode

variable (math : DiagnosticsMath) (config : NodeParameters) (callbacks : List NodeCallback)

/-- The write of a callback after others. -/
def nextWrites (past : List NodeCallback) : NodeCallback → List (RtcmWrite × SteadyTime)
  | .serial callback =>
    callback.timedWrites config.toUnicoreNodeConfig (serialRun math config past).2
  | .publishDiagnostics _ _ _ => []

/-- The writes of a run, with the times of their ends. -/
def timedWrites : List (RtcmWrite × SteadyTime) :=
  PartialRun.outputs (nextWrites math config) callbacks

/-- The messages that have gone out as a whole. -/
def injected : List (RtcmWrite × SteadyTime) :=
  (timedWrites math config callbacks).filter (·.1.complete)

/-- When those of the last five seconds have gone out. -/
def recentlyInjected (now : SteadyTime) : List SteadyTime :=
  ((injected math config callbacks).map Prod.snd).filter fun t => !NodeState.outsideWindow now t

theorem map_fst_timedWrites :
    (timedWrites math config callbacks).map Prod.fst =
      rtcmWrites math.toMathFunctions config.toUnicoreNodeConfig (serialCallbacks callbacks) := by
  induction callbacks using List.reverseRecOn with
  | nil => rfl
  | append_singleton callbacks callback ih =>
    rw [timedWrites, PartialRun.outputs_concat, ← timedWrites, List.map_append, ih]
    cases callback with
    | serial callback =>
      rw [serialCallbacks_concat_serial, rtcmWrites_concat, nextWrites, Callback.timedWrites,
        List.map_map]
      congr 1
      exact List.map_id _
    | publishDiagnostics now stamp keys =>
      rw [serialCallbacks_concat_publishDiagnostics]
      exact List.append_nil _

/-- Every write of a run has taken no more than it was given. -/
def SoundWrites : Prop :=
  ∀ write ∈ rtcmWrites math.toMathFunctions config.toUnicoreNodeConfig (serialCallbacks callbacks),
    write.Sound

/-- **What is noted in a run** are the messages that have gone out as a whole. -/
theorem noted_windowOps (hsound : SoundWrites math config callbacks) :
    TimeWindow.noted (windowOps math config callbacks) =
      (injected math config callbacks).map Prod.snd := by
  induction callbacks using List.reverseRecOn with
  | nil => rfl
  | append_singleton callbacks callback ih =>
    rw [injected, timedWrites, PartialRun.outputs_concat, ← timedWrites, List.filter_append,
      List.map_append, ← injected, windowOps_concat, TimeWindow.noted, List.flatMap_append,
      ← TimeWindow.noted]
    cases callback with
    | serial callback =>
      rw [SoundWrites, serialCallbacks_concat_serial, rtcmWrites_concat,
        List.forall_mem_append] at hsound
      rw [ih hsound.1, nextWrites, windowOp, serialRun, ← Callback.injectedAt_eq hsound.2]
      congr 1
      rcases callback.injectedAt config.toUnicoreNodeConfig _ with _ | writtenAt <;> rfl
    | publishDiagnostics now stamp keys =>
      rw [SoundWrites, serialCallbacks_concat_publishDiagnostics] at hsound
      rw [ih hsound]
      rfl

/-- The operations on the window are timed by the clock. -/
theorem times_windowOps :
    ((windowOps math config callbacks).map TimeWindow.Op.time).Sublist
      (callbacks.map NodeCallback.endedAt) := by
  induction callbacks using List.reverseRecOn with
  | nil => exact List.Sublist.refl _
  | append_singleton callbacks callback ih =>
    rw [windowOps_concat, List.map_append, List.map_append]
    refine ih.append ?_
    cases callback with
    | serial callback =>
      rw [windowOp]
      cases hinjected : callback.injectedAt config.toUnicoreNodeConfig
        (serialRun math config callbacks).2 with
      | none => exact List.nil_sublist _
      | some t =>
        obtain rfl := Callback.eq_endedAt_of_injectedAt hinjected
        exact List.Sublist.refl _
    | publishDiagnostics now stamp keys => exact List.Sublist.refl _

/-! ### What is reported -/

variable {math config callbacks} {now : SteadyTime} {stamp : RosTime} {keys : TableKeys}

/-- The clock does not go back, up to a publication. -/
def Steady (callbacks : List NodeCallback) (now : SteadyTime) : Prop :=
  (callbacks.map NodeCallback.endedAt ++ [now]).Pairwise (· ≤ ·)

/-- **The history** that is counted is that of the window. -/
theorem rtcmHistory_pruneHistory (hsound : SoundWrites math config callbacks)
    (hclock : Steady callbacks now) :
    ((run math config callbacks).2.pruneHistory now).node.rtcmHistory =
      BoundedHistory.keep 1024 (recentlyInjected math config callbacks now) := by
  have htimes : ((windowOps math config callbacks ++ [TimeWindow.Op.prune now]).map
      TimeWindow.Op.time).Pairwise (· ≤ ·) := by
    refine List.Pairwise.sublist ?_ hclock
    rw [List.map_append]
    exact (times_windowOps math config callbacks).append (List.Sublist.refl _)
  have hpruned := TimeWindow.run_concat_prune 1024 ageing_outsideWindow htimes
  rw [noted_windowOps math config callbacks hsound, TimeWindow.run_concat] at hpruned
  rw [recentlyInjected, ← hpruned]
  show (run math config callbacks).2.node.rtcmHistory.dropWhile _ = _
  rw [(run_node math config callbacks).1]
  rfl

end MonitoredNode

/-! ### The data of the receiver -/

/-- What is fresh has not timed out. -/
theorem ageExceeds_of_isFresh {now t : SteadyTime} {timeoutSec : Double}
    (h : isFresh now t timeoutSec = true) :
    ageExceeds (some (NodeState.ageSeconds now t)) timeoutSec = false := by
  cases timeoutSec with
  | finite q => exact decide_eq_false (not_lt.mpr (of_decide_eq_true h))
  | infinite negative => exact (Bool.not_eq_true' negative).mp h
  | nan => cases h

/-- Data in use is not too old. -/
theorem ageExceeds_of_activeData {α : Type} {latest : Option (TimedData α)} {now : SteadyTime}
    {timeoutSec : Double} (h : (activeData latest now timeoutSec).isSome = true) :
    ageExceeds (timedAge latest now) timeoutSec = false := by
  cases latest with
  | none => cases h
  | some sample =>
    refine ageExceeds_of_isFresh ?_
    rw [activeData, NodeState.freshIf_eq, Option.isSome_map, Option.isSome_filter] at h
    exact h

/-- **The branch that is never taken**: once it is too old the RTCMSTATUS is not in use. -/
theorem Run.ageExceeds_rtcmReceiverAge {math : MathFunctions} {nodeConfig : NodeConfig}
    {config : NodeParameters} {events : List NodeEvent} {now : SteadyTime}
    (h : ((Run.state math nodeConfig events).activeRtcmStatus config now).isSome = true)
    (hbinary : config.useBinaryRtcmDiag = true →
      ((Run.state math nodeConfig events).activeBinaryRtcmStatus config now).isSome = true) :
    ageExceeds ((Run.state math nodeConfig events).rtcmReceiverAge config now)
      config.rtcmTimeoutSec = false := by
  rw [NodeState.rtcmReceiverAge, NodeState.ageInUse]
  cases huse : config.useBinaryRtcmDiag with
  | true =>
    rw [Bool.true_and, hbinary huse, if_pos rfl]
    exact ageExceeds_of_activeData (hbinary huse)
  | false =>
    rw [Bool.false_and, if_neg (by decide), (Run.lastTimes_state math nodeConfig events).2,
      Option.map_map]
    rw [NodeState.activeRtcmStatus, preferBinary, huse, if_neg (by decide)] at h
    exact ageExceeds_of_activeData h

namespace MonitoredNode

variable (math : DiagnosticsMath) (config : NodeParameters) (callbacks : List NodeCallback)
  (now : SteadyTime)

/-- When the status is an error, and when all is well. -/
theorem gpsNtripSummary_run (history : List SteadyTime) :
    let data := (run math config callbacks).2.node.data
    ((data.gpsNtripSummary config now history).1 = .error ↔ history = []) ∧
      ((data.gpsNtripSummary config now history).1 = .ok ↔
        history ≠ [] ∧
        ageExceeds (NodeState.injectionAge now history) config.rtcmTimeoutSec = false ∧
        (config.enableRtcmStatus = true → (data.activeRtcmStatus config now).isSome = true ∧
          (config.useBinaryRtcmDiag = true →
            (data.activeBinaryRtcmStatus config now).isSome = true))) := by
  intro data
  refine ⟨?_, ?_⟩
  · rw [NodeState.gpsNtripSummary]
    split_ifs <;> simp_all
  · rw [NodeState.gpsNtripSummary_eq_ok_iff]
    refine and_congr_right fun _ => and_congr_right fun _ => forall_congr' fun _ => ?_
    refine and_congr_right fun hactive => and_iff_left_of_imp fun hbinary => ?_
    have hdata : data = Run.state math.toMathFunctions config.toNodeConfig
        (handled math config callbacks) := data_run math config callbacks
    rw [hdata] at hactive hbinary ⊢
    exact Run.ageExceeds_rtcmReceiverAge hactive hbinary

variable {math config callbacks} in
/-- The counters of the injection in a run. -/
theorem rtcmCounts_run (hsound : SoundWrites math config callbacks) :
    (run math config callbacks).2.node.rtcmCounts =
      let whole := (injected math config callbacks).map fun entry => entry.1.message.length
      (whole.length, whole.sum) := by
  have hnode : (run math config callbacks).2.node.rtcmCounts =
      (serialRun math config callbacks).2.rtcmCounts := by
    rw [(run_node math config callbacks).1]
    rfl
  rw [hnode, serialRun, UnicoreNode.rtcm_counts_run _ _ _ hsound, ← map_fst_timedWrites,
    UnicoreNode.rtcmTotals, List.countP_map, List.filter_map, List.map_map,
    List.countP_eq_length_filter]
  simp only [injected, List.length_map]
  rfl

variable (stamp : RosTime) (keys : TableKeys)

/-- **The injection is reported as it is.** With a steady clock, whatever has been published before:
the status counts the messages that have gone out as a whole in the last five seconds, says when the
last of them has, counts all of them and their bytes, and lists the last eight ids that the receiver
has reported. It is an error exactly if there is none in the window, and it is well exactly if the
last one is recent enough and, where that is asked for, there is fresh data of the receiver. -/
theorem injection_reported (hsound : SoundWrites math config callbacks)
    (hclock : Steady callbacks now) {status : DiagnosticStatus}
    (hstatus : ((run math config callbacks).2.publishDiagnostics math config now stamp keys).1.find?
      .ntrip = some status) :
    let recent := recentlyInjected math config callbacks now
    let whole := (injected math config callbacks).map fun entry => entry.1.message.length
    let data := (run math config callbacks).2.node.data
    let age := NodeState.injectionAge now recent
    (status.value? (ascii "msgs_per_sec") =
        some (toStringOrNan ((min recent.length 1024 : ℕ) / 5)) ∧
      status.value? (ascii "age_of_last_injected_corr_s") = some (ageText age) ∧
      status.value? (ascii "rtcm_messages_total") = some (decimal whole.length) ∧
      status.value? (ascii "rtcm_bytes_total") = some (decimal whole.sum) ∧
      status.value? (ascii "recent_rtcm_types") = some (NodeState.recentTypes
        (BoundedHistory.keep 8 ((handled math config callbacks).flatMap
          (NodeEvent.messageIds math.toMathFunctions config.useBinaryRtcmDiag))))) ∧
    (status.level = .error ↔ recent = []) ∧
    (status.level = .ok ↔
      recent ≠ [] ∧ ageExceeds age config.rtcmTimeoutSec = false ∧
        (config.enableRtcmStatus = true → (data.activeRtcmStatus config now).isSome = true ∧
          (config.useBinaryRtcmDiag = true →
            (data.activeBinaryRtcmStatus config now).isSome = true))) := by
  intro recent whole data age
  rw [find?_publishDiagnostics] at hstatus
  obtain ⟨comparison, -, rfl⟩ := Option.map_eq_some_iff.mp hstatus
  have hhistory : ((run math config callbacks).2.pruneHistory now).node.rtcmHistory =
      BoundedHistory.keep 1024 recent := rtcmHistory_pruneHistory hsound hclock
  have hlen := BoundedHistory.length_keep 1024 recent
  have hlast := BoundedHistory.getLast?_keep (by decide : 0 < 1024) recent
  generalize BoundedHistory.keep 1024 recent = history at hhistory hlen hlast
  have hage : NodeState.injectionAge now history = age := by
    rw [NodeState.injectionAge, hlast]
    rfl
  have hempty : history = [] ↔ recent = [] := by
    rw [← List.getLast?_eq_none_iff, hlast, List.getLast?_eq_none_iff]
  obtain ⟨hcount, hbytes⟩ := Prod.mk.inj (rtcmCounts_run hsound)
  have hids := Run.recentMessageIds_state math.toMathFunctions config.toNodeConfig
    (handled math config callbacks)
  rw [← data_run] at hids
  obtain ⟨herror, hok⟩ := gpsNtripSummary_run math config callbacks now history
  rw [hhistory]
  refine ⟨⟨?_, ?_, ?_, ?_, ?_⟩, ?_, ?_⟩
  · show some (toStringOrNan (history.length / 5)) = _
    rw [hlen]
  · show some (ageText (NodeState.injectionAge now history)) = _
    rw [hage]
  · show some (decimal (run math config callbacks).2.node.rtcmMessageCount) = _
    rw [hcount]
  · show some (decimal (run math config callbacks).2.node.rtcmByteCount) = _
    rw [hbytes]
  · show some (NodeState.recentTypes (if config.useBinaryRtcmDiag then
      data.recentBinaryRtcmMessageIds else data.recentRtcmMessageIds)) = _
    cases huse : config.useBinaryRtcmDiag with
    | true => rw [if_pos rfl, hids.2]
    | false => rw [if_neg (by decide), hids.1]
  · exact herror.trans hempty
  · rw [Ne, hempty, hage] at hok
    exact hok

/-- One message has gone out two seconds ago, and the first half of another one ten milliseconds
ago. The port has been closed upon that, and all the same the injection is well. -/
theorem injection_reported_half :
    let math : DiagnosticsMath := ⟨⟨fun _ => 0, fun _ => 1⟩, fun x => x⟩
    let config : NodeParameters := { enableRtcmStatus := false }
    let callbacks : List NodeCallback :=
      [.serial (.handleRtcm 0 ⟨3, 0, 0⟩ [0xD3, 0] [⟨2, .again, []⟩] 10000000),
        .serial (.handleRtcm 2000000000 ⟨3, 0, 0⟩ [0xD3, 1] [⟨1, .again, []⟩, ⟨-1, .badFd, []⟩]
          2000000000)]
    ∃ status, ((run math config callbacks).2.publishDiagnostics math config 2010000000 0 {}).1.find?
        .ntrip = some status ∧
      status.value? (ascii "msgs_per_sec") = some (ascii "0.200") ∧
      status.value? (ascii "age_of_last_injected_corr_s") = some (ascii "2.000") ∧
      status.level = .ok := by
  intro math config callbacks
  have hsound : SoundWrites math config callbacks := by
    show ∀ write ∈ rtcmWrites _ _ (serialCallbacks callbacks), write.Sound
    decide
  have hclock : Steady callbacks 2010000000 := by
    show List.Pairwise (· ≤ ·) ([10000000, 2000000000, 2010000000] : List SteadyTime)
    decide
  have hstatus := find?_publishDiagnostics math config (run math config callbacks).2 2010000000 0 {}
    .ntrip
  obtain ⟨⟨hrate, hage, -⟩, -, hlevel⟩ := injection_reported math config callbacks 2010000000 0 {}
    hsound hclock (hstatus.trans rfl)
  have hrecent : recentlyInjected math config callbacks 2010000000 = [10000000] := by
    decide +kernel
  rw [hrecent] at hrate hage hlevel
  refine ⟨_, hstatus.trans rfl, hrate.trans (by decide +kernel), hage.trans (by decide +kernel),
    hlevel.mpr ⟨by simp, by decide +kernel, fun h => ?_⟩⟩
  cases h

end MonitoredNode

end UnicoreGnss
