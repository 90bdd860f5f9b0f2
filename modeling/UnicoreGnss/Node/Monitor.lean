import UnicoreGnss.Lib.PartialRuns
import UnicoreGnss.Lib.TimeWindow
import UnicoreGnss.Node.RtcmWrites
import UnicoreGnss.Node.Satellites

/-!
# The node with its diagnostics

`gps_parser_status` and `publish_diagnostics` of `src/unicore_node.cpp`, and with them the whole
node: a timer publishes nine statuses in between the two callbacks of the serial port. Two of them
are not mere views of the state. The parser status says what has been counted since the last one, so
it keeps a snapshot of the counters, and the status of the injection drops old times from the
history.

Neither is of any concern to the other two callbacks. `run_node` says so: but for the history, the
node is where it would be without the diagnostics.

A status whose text is left undefined, because an `int` overflows in it, is missing here.

## Main definitions

* `Anomaly` — what the parser status warns of
* `MonitoredNode` — the node with the snapshots
* `MonitoredNode.publishDiagnostics`
* `MonitoredNode.run` — runs, with what they publish

## Main results

* `MonitoredNode.run_node` — the diagnostics leave the node alone
* `MonitoredNode.data_run` — what the node has received in a run
-/

namespace UnicoreGnss

open CNumber

/-- What `gps_parser_status` warns of. -/
inductive Anomaly where
  | parseError
  | nmeaChecksumError
  | unicoreCrcError
  | binaryCrcError
  | binaryResync
  | binaryUnknownFrame
  deriving DecidableEq, Repr

namespace Anomaly

/-- Every kind of anomaly. -/
def all : List Anomaly :=
  [parseError, nmeaChecksumError, unicoreCrcError, binaryCrcError, binaryResync, binaryUnknownFrame]

theorem mem_all (anomaly : Anomaly) : anomaly ∈ all := by cases anomaly <;> decide

/-- The key under which it is reported. -/
def deltaKey : Anomaly → Bytes
  | parseError => ascii "parse_errors_delta"
  | nmeaChecksumError => ascii "nmea_checksum_errors_delta"
  | unicoreCrcError => ascii "unicore_crc_errors_delta"
  | binaryCrcError => ascii "binary_crc_errors_delta"
  | binaryResync => ascii "binary_resync_delta"
  | binaryUnknownFrame => ascii "binary_unknown_frames_delta"

end Anomaly

/-- `diagnostic_msgs/DiagnosticArray` -/
structure DiagnosticArray where
  stamp : RosTime
  /-- In order; those whose text is undefined are missing. -/
  status : List (Option DiagnosticStatus)
  deriving DecidableEq, Repr

/-- The keys of the hash tables that `publish_diagnostics` goes through, in the order in which the
tables list them: `gsv_counts_` and the two tables of `gps_raw_observation_status`. -/
structure TableKeys where
  talkers : List Bytes := []
  constellations : List Bytes := []
  signals : List Bytes := []
  deriving DecidableEq, Repr

/-- The node, with what the parser status remembers of the counters. -/
structure MonitoredNode where
  node : UnicoreNode
  parserCountersSnapshot : ParserCounters := {}
  binaryCountersSnapshot : UnicoreBinaryTransportCounters := {}
  binaryUnknownFramesSnapshot : ℕ := 0

/-- A callback of the port, or the timer of the diagnostics with the clocks. -/
inductive NodeCallback where
  | serial (callback : Callback)
  | publishDiagnostics (now : SteadyTime) (stamp : RosTime) (keys : TableKeys)

/-- What has been counted so far. -/
def UnicoreNode.counted (node : UnicoreNode) : Anomaly → ℕ
  | .parseError => node.data.parserCounters.parseErrors
  | .nmeaChecksumError => node.data.parserCounters.nmeaChecksumErrors
  | .unicoreCrcError => node.data.parserCounters.unicoreCrcErrors
  | .binaryCrcError => node.transport.binaryCounters.crcErrors
  | .binaryResync => node.transport.binaryCounters.resyncCount
  | .binaryUnknownFrame => node.data.dispatchCounters.unknownFrames

namespace MonitoredNode

variable (math : DiagnosticsMath) (config : NodeParameters) (m : MonitoredNode)

/-- The node after its constructor. -/
def fresh : MonitoredNode where
  node := .fresh config.toUnicoreNodeConfig

/-! ### The parser status -/

/-- What had been counted at the last status. -/
def snapshot : Anomaly → ℕ
  | .parseError => m.parserCountersSnapshot.parseErrors
  | .nmeaChecksumError => m.parserCountersSnapshot.nmeaChecksumErrors
  | .unicoreCrcError => m.parserCountersSnapshot.unicoreCrcErrors
  | .binaryCrcError => m.binaryCountersSnapshot.crcErrors
  | .binaryResync => m.binaryCountersSnapshot.resyncCount
  | .binaryUnknownFrame => m.binaryUnknownFramesSnapshot

/-- The difference. The counters only grow, so it is none of numbers below zero. -/
def delta (anomaly : Anomaly) : ℕ := m.node.counted anomaly - m.snapshot anomaly

/-- A value for the difference. -/
def deltaValue (anomaly : Anomaly) : KeyValue :=
  { key := anomaly.deltaKey, value := decimal (m.delta anomaly) }

/-- The level and the message. -/
def gpsParserSummary : DiagnosticLevel × Bytes :=
  if Anomaly.all.any fun anomaly => 0 < m.delta anomaly then
    (.warn, ascii "new parser or binary transport anomalies observed")
  else (.ok, ascii "parser healthy")

/-- `gps_parser_status`, but for its effect. -/
def gpsParserStatus (now : SteadyTime) : DiagnosticStatus :=
  let current := m.node.data.parserCounters
  let binaryCurrent := m.node.transport.binaryCounters
  let binaryDispatch := m.node.data.dispatchCounters
  let binaryAge := m.node.data.lastBinaryFrameTime.map (NodeState.ageSeconds now)
  diagnosticStatus "GPS: parser" m.gpsParserSummary
    [kv "parsed_sentences_total" (decimal current.parsedSentences),
      kv "parse_errors_total" (decimal current.parseErrors),
      kv "nmea_checksum_errors_total" (decimal current.nmeaChecksumErrors),
      kv "unicore_crc_errors_total" (decimal current.unicoreCrcErrors),
      m.deltaValue .parseError,
      m.deltaValue .nmeaChecksumError,
      m.deltaValue .unicoreCrcError,
      kv "binary_enabled" (boolText config.enableUnicoreBinary),
      kv "binary_frames_total" (decimal binaryCurrent.framesTotal),
      kv "binary_crc_errors" (decimal binaryCurrent.crcErrors),
      kv "binary_resync_count" (decimal binaryCurrent.resyncCount),
      kv "binary_sync_candidates" (decimal binaryCurrent.syncCandidates),
      kv "binary_header_len"
        (binaryCurrent.lastHeaderLength.elim notAvailable fun n => decimal n.toNat),
      kv "binary_payload_len"
        (binaryCurrent.lastPayloadLength.elim notAvailable fun n => decimal n.toNat),
      kv "binary_frame_parse_errors_by_reason"
        (describeParseErrorCounts binaryCurrent.frameParseErrorsByReason),
      kv "binary_unknown_frames_total" (decimal binaryDispatch.unknownFrames),
      kv "binary_unknown_msg_ids" (joinMessageIds binaryDispatch.recentUnknownMessageIds),
      kv "binary_last_msg_id"
        (binaryDispatch.lastMessageId.elim notAvailable fun id => decimal id.toNat),
      kv "binary_last_frame_age_s" (ageText binaryAge),
      m.deltaValue .binaryCrcError,
      m.deltaValue .binaryResync,
      m.deltaValue .binaryUnknownFrame]

/-- Its effect: the snapshots are taken. -/
def takeSnapshot : MonitoredNode :=
  { m with
    parserCountersSnapshot := m.node.data.parserCounters
    binaryCountersSnapshot := m.node.transport.binaryCounters
    binaryUnknownFramesSnapshot := m.node.data.dispatchCounters.unknownFrames }

/-! ### Publication -/

/-- What `gps_ntrip_status` does first: old times are dropped from the history. -/
def pruneHistory (now : SteadyTime) : MonitoredNode :=
  { m with node := { m.node with
    rtcmHistory := m.node.rtcmHistory.dropWhile (NodeState.outsideWindow now) } }

/-- The nine statuses. -/
def statuses (now : SteadyTime) (keys : TableKeys) : List (Option DiagnosticStatus) :=
  let data := m.node.data
  [some (data.gpsFixStatus math config.toDiagnosticsConfig
      (data.activeFix config.toNodeConfig now) m.node.serial.isOpen now),
    data.gpsSatellitesStatus config now keys.talkers,
    data.gpsRtkStatus config now,
    data.gpsNtripStatus config now m.node.rtcmMessageCount m.node.rtcmByteCount
      (m.pruneHistory now).node.rtcmHistory,
    some (data.gpsRfStatus config now),
    some (data.gpsHardwareStatus config now),
    data.gpsJammingStatus config now,
    some (data.gpsRawObservationStatus config now keys.constellations keys.signals),
    some (m.gpsParserStatus config now)]

/-- `publish_diagnostics` -/
def publishDiagnostics (now : SteadyTime) (stamp : RosTime) (keys : TableKeys) :
    DiagnosticArray × MonitoredNode :=
  ({ stamp, status := m.statuses math config now keys }, (m.pruneHistory now).takeSnapshot)

/-! ### Runs -/

/-- One callback, with what it publishes. -/
def call (m : MonitoredNode) : NodeCallback → List DiagnosticArray × MonitoredNode
  | .serial callback =>
    ([], { m with
      node := (m.node.call math.toMathFunctions config.toUnicoreNodeConfig callback).2 })
  | .publishDiagnostics now stamp keys =>
    let (array, m) := m.publishDiagnostics math config now stamp keys
    ([array], m)

/-- A run of a fresh node: what it publishes and where it ends. -/
def run (callbacks : List NodeCallback) : List DiagnosticArray × MonitoredNode :=
  callbacks.foldl
    (fun (arrays, m) callback =>
      let (arrays', m) := m.call math config callback
      (arrays ++ arrays', m))
    ([], fresh config)

theorem run_concat (callbacks : List NodeCallback) (callback : NodeCallback) :
    run math config (callbacks ++ [callback]) =
      ((run math config callbacks).1 ++
          ((run math config callbacks).2.call math config callback).1,
        ((run math config callbacks).2.call math config callback).2) := by
  rw [run, List.foldl_append]
  rfl

end MonitoredNode

/-! ### The callbacks of the port -/

/-- The callbacks of the port in a run. -/
def serialCallbacks (callbacks : List NodeCallback) : List Callback :=
  callbacks.filterMap fun callback =>
    match callback with
    | .serial callback => some callback
    | .publishDiagnostics _ _ _ => none

theorem serialCallbacks_concat_serial (callbacks : List NodeCallback) (callback : Callback) :
    serialCallbacks (callbacks ++ [.serial callback]) =
      serialCallbacks callbacks ++ [callback] := by
  rw [serialCallbacks, List.filterMap_append]
  rfl

theorem serialCallbacks_concat_publishDiagnostics (callbacks : List NodeCallback)
    (now : SteadyTime) (stamp : RosTime) (keys : TableKeys) :
    serialCallbacks (callbacks ++ [.publishDiagnostics now stamp keys]) =
      serialCallbacks callbacks := by
  rw [serialCallbacks, List.filterMap_append]
  exact List.append_nil _

namespace UnicoreNode

variable (math : MathFunctions) (config : UnicoreNodeConfig) (node : UnicoreNode)
  (history : List SteadyTime)

/-- The node with another history of injections. -/
def withHistory : UnicoreNode := { node with rtcmHistory := history }

theorem ensureSerialOpen_withHistory (now : SteadyTime) (opening : OpenOutcome) :
    (node.withHistory history).ensureSerialOpen config now opening =
      ((node.ensureSerialOpen config now opening).1,
        (node.ensureSerialOpen config now opening).2.withHistory history) := by
  rw [ensureSerialOpen, ensureSerialOpen]
  by_cases hopen : node.serial.isOpen = true
  · have hopen' : (node.withHistory history).serial.isOpen = true := hopen
    rw [if_pos hopen, if_pos hopen']
  have hopen' : ¬ (node.withHistory history).serial.isOpen = true := hopen
  rw [if_neg hopen, if_neg hopen']
  by_cases hrecent : attemptedRecently now node.lastOpenAttempt config.reconnectIntervalSec = true
  · have hrecent' : attemptedRecently now (node.withHistory history).lastOpenAttempt
        config.reconnectIntervalSec = true := hrecent
    rw [if_pos hrecent, if_pos hrecent']
  have hrecent' : ¬ attemptedRecently now (node.withHistory history).lastOpenAttempt
      config.reconnectIntervalSec = true := hrecent
  have hserial : (node.withHistory history).serial.openPort opening =
      node.serial.openPort opening := rfl
  rw [if_neg hrecent, if_neg hrecent', hserial]
  rcases node.serial.openPort opening with ⟨_ | _, serial⟩ <;> rfl

theorem readLoop_withHistory (reads : List (ReadOutcome × Clocks)) :
    readLoop math config reads (node.withHistory history) =
      ((readLoop math config reads node).1, (readLoop math config reads node).2.1,
        (readLoop math config reads node).2.2.withHistory history) := by
  induction reads generalizing node with
  | nil => rfl
  | cons read reads ih =>
    have hserial : (node.withHistory history).serial.read 1024 read.1 =
        node.serial.read 1024 read.1 := rfl
    rw [readLoop, readLoop, hserial]
    rcases node.serial.read 1024 read.1 with (_ | ⟨byte, bytes⟩) | errno
    · rfl
    · have hreceive : (node.withHistory history).receive math config (byte :: bytes) read.2 =
          ((node.receive math config (byte :: bytes) read.2).1,
            (node.receive math config (byte :: bytes) read.2).2.withHistory history) := rfl
      simp only [hreceive, ih]
    · by_cases hagain : errno = .again
      · simp only [hagain, if_true]
      · simp only [hagain, if_false]
        rfl

theorem pollSerial_withHistory (now : SteadyTime) (opening : OpenOutcome)
    (reads : List (ReadOutcome × Clocks)) :
    (node.withHistory history).pollSerial math config now opening reads =
      ((node.pollSerial math config now opening reads).1,
        (node.pollSerial math config now opening reads).2.withHistory history) := by
  rw [pollSerial, pollSerial, ensureSerialOpen_withHistory]
  generalize node.ensureSerialOpen config now opening = ensured
  obtain ⟨opened, node'⟩ := ensured
  dsimp only
  have hserial : (node'.withHistory history).serial = node'.serial := rfl
  rw [hserial, readLoop_withHistory]
  by_cases hidle : (!node'.serial.isOpen) = true
  · rw [if_pos hidle, if_pos hidle]
  rw [if_neg hidle, if_neg hidle]
  dsimp only
  generalize (readLoop math config reads node').2.2 = node''
  have hdrop : (node''.withHistory history).dropOversized config =
      (node''.dropOversized config).withHistory history := by
    rw [dropOversized, dropOversized]
    show (if max 8192 (config.maxFrameSize * 2) < node''.transport.bufferedBytes then _ else _) = _
    split_ifs <;> rfl
  rw [hdrop]
  cases (readLoop math config reads node').1 <;> rfl

end UnicoreNode

/-! ### Injections -/

/-- The time that a callback notes in the history, if its write has returned without an error. -/
def Callback.injectedAt (config : UnicoreNodeConfig) (node : UnicoreNode) :
    Callback → Option SteadyTime
  | pollSerial _ _ _ => none
  | handleRtcm now opening message outcomes writtenAt =>
    let serial := (node.ensureSerialOpen config now opening).2.serial
    if !serial.isOpen ∨ message = [] then none
    else (serial.write message.length outcomes).bind fun written =>
      if written < 0 then none else some writtenAt

namespace UnicoreNode

variable (math : MathFunctions) (config : UnicoreNodeConfig) (node : UnicoreNode)
  (history : List SteadyTime)

/-- **A callback** does the same whatever the history, and adds what it notes. -/
theorem call_withHistory (callback : Callback) (hlen : history.length ≤ 1024) :
    (node.withHistory history).call math config callback =
      ((node.call math config callback).1,
        (node.call math config callback).2.withHistory
          (BoundedHistory.keep 1024 (history ++ (callback.injectedAt config node).toList))) := by
  cases callback with
  | pollSerial now opening reads =>
    rw [call, call, pollSerial_withHistory, Callback.injectedAt, Option.toList_none,
      List.append_nil, BoundedHistory.keep_of_le hlen]
  | handleRtcm now opening message outcomes writtenAt =>
    rw [call, call, handleRtcm, handleRtcm, Callback.injectedAt, ensureSerialOpen_withHistory]
    generalize node.ensureSerialOpen config now opening = ensured
    obtain ⟨opened, node'⟩ := ensured
    have hserial : (node'.withHistory history).serial = node'.serial := rfl
    have hkeep : BoundedHistory.keep 1024 (history ++ (none : Option SteadyTime).toList) =
        history := by
      rw [Option.toList_none, List.append_nil, BoundedHistory.keep_of_le hlen]
    dsimp only
    rw [hserial]
    by_cases hidle : (!node'.serial.isOpen) = true
    · rw [if_pos hidle, if_pos hidle, if_pos (.inl hidle), hkeep]
    by_cases hmessage : message = []
    · rw [if_neg hidle, if_neg hidle, if_pos hmessage, if_pos hmessage, if_pos (.inr hmessage),
        hkeep]
    have hbusy : ¬ ((!node'.serial.isOpen) = true ∨ message = []) := fun h =>
      h.elim hidle hmessage
    rw [if_neg hidle, if_neg hidle, if_neg hmessage, if_neg hmessage, if_neg hbusy]
    rcases node'.serial.write message.length outcomes with _ | written
    · rw [Option.bind_none, hkeep]
    rw [Option.bind_some]
    by_cases hfailed : written < 0
    · simp only [hfailed, if_true, hkeep]
      rfl
    · simp only [hfailed, if_false]
      rw [Option.toList_some, ← BoundedHistory.tail_eq_keep hlen]
      rfl

end UnicoreNode

namespace MonitoredNode

variable (math : DiagnosticsMath) (config : NodeParameters)

/-- The node of the port alone, with the same callbacks. -/
def serialRun (callbacks : List NodeCallback) : List SerialEvent × UnicoreNode :=
  UnicoreNode.run math.toMathFunctions config.toUnicoreNodeConfig (serialCallbacks callbacks)

/-- What a callback does to the history of injections. -/
def windowOp (past : List NodeCallback) : NodeCallback → List (TimeWindow.Op SteadyTime)
  | .serial callback =>
    (callback.injectedAt config.toUnicoreNodeConfig
      (serialRun math config past).2).toList.map .push
  | .publishDiagnostics now _ _ => [.prune now]

/-- What a run does to it. -/
def windowOps (callbacks : List NodeCallback) : List (TimeWindow.Op SteadyTime) :=
  PartialRun.outputs (windowOp math config) callbacks

theorem windowOps_concat (callbacks : List NodeCallback) (callback : NodeCallback) :
    windowOps math config (callbacks ++ [callback]) =
      windowOps math config callbacks ++ windowOp math config callbacks callback :=
  PartialRun.outputs_concat _ _ _

/-- **The diagnostics leave the node alone**, but for the history of injections. That is a window
of times, which the statuses clear. -/
theorem run_node (callbacks : List NodeCallback) :
    (run math config callbacks).2.node = (serialRun math config callbacks).2.withHistory
        (TimeWindow.run 1024 NodeState.outsideWindow (windowOps math config callbacks)) ∧
      (TimeWindow.run 1024 NodeState.outsideWindow (windowOps math config callbacks)).length ≤
        1024 := by
  induction callbacks using List.reverseRecOn with
  | nil => exact ⟨rfl, Nat.zero_le _⟩
  | append_singleton callbacks callback ih =>
    obtain ⟨hnode, hlen⟩ := ih
    rw [run_concat, windowOps_concat]
    generalize hpast :
      TimeWindow.run 1024 NodeState.outsideWindow (windowOps math config callbacks) = history
      at hnode hlen
    cases callback with
    | serial callback =>
      have hrun : (serialRun math config (callbacks ++ [.serial callback])).2 =
          ((serialRun math config callbacks).2.call math.toMathFunctions
            config.toUnicoreNodeConfig callback).2 := by
        rw [serialRun, serialCallbacks_concat_serial, UnicoreNode.run_concat, ← serialRun]
      have hhistory : TimeWindow.run 1024 NodeState.outsideWindow
          (windowOps math config callbacks ++
            windowOp math config callbacks (.serial callback)) =
          BoundedHistory.keep 1024 (history ++
            (callback.injectedAt config.toUnicoreNodeConfig
              (serialRun math config callbacks).2).toList) := by
        rw [TimeWindow.run_append, hpast, windowOp]
        rcases callback.injectedAt config.toUnicoreNodeConfig
          (serialRun math config callbacks).2 with _ | writtenAt
        · rw [Option.toList_none, List.append_nil, BoundedHistory.keep_of_le hlen, List.map_nil,
            List.foldl_nil]
        · simp only [Option.toList_some, List.map_cons, List.map_nil, List.foldl_cons,
            List.foldl_nil, TimeWindow.apply]
      rw [hhistory, hrun]
      refine ⟨?_, ?_⟩
      · show (((run math config callbacks).2.node).call math.toMathFunctions
          config.toUnicoreNodeConfig callback).2 = _
        rw [hnode, UnicoreNode.call_withHistory _ _ _ _ callback hlen]
      · rw [BoundedHistory.length_keep]
        exact Nat.min_le_right _ _
    | publishDiagnostics now stamp keys =>
      have hrun : serialRun math config (callbacks ++ [.publishDiagnostics now stamp keys]) =
          serialRun math config callbacks := by
        rw [serialRun, serialCallbacks_concat_publishDiagnostics, ← serialRun]
      rw [hrun, windowOp, TimeWindow.run_concat, hpast]
      refine ⟨?_, Nat.le_trans (List.dropWhile_sublist _).length_le hlen⟩
      show { (run math config callbacks).2.node with
        rtcmHistory := (run math config callbacks).2.node.rtcmHistory.dropWhile
          (NodeState.outsideWindow now) } = _
      rw [hnode]
      rfl

/-- The events that have been handled in a run. -/
def handled (callbacks : List NodeCallback) : List NodeEvent :=
  (serialRun math config callbacks).1.flatMap SerialEvent.nodeEvents

/-- **What the node has received** in a run with diagnostics. -/
theorem data_run (callbacks : List NodeCallback) :
    (run math config callbacks).2.node.data =
      Run.state math.toMathFunctions config.toNodeConfig (handled math config callbacks) := by
  rw [(run_node math config callbacks).1]
  exact UnicoreNode.data_run math.toMathFunctions config.toUnicoreNodeConfig
    (serialCallbacks callbacks)

end MonitoredNode

end UnicoreGnss
