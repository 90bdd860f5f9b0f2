import UnicoreGnss.Node.DispatchHistory
import UnicoreGnss.Node.Reports
import UnicoreGnss.Parser.ChecksumGate

/-!
# Every anomaly is reported once

`gps_parser_status` reports how many anomalies are new, which is the difference to a snapshot it
takes each time. The counters outlive a connection: `clear` leaves those of the transport alone. So
no difference is below zero, and a subscriber who reads all the arrays and adds up the reports gets
what has gone wrong so far, whatever has happened to the port meanwhile.

What goes wrong with a line or a frame that has been handled is one thing at most, and whether it
does depends on the line or the frame alone.

## Main definitions

* `NodeEvent.anomaly` — what is wrong with a line or a frame
* `DiagnosticArray.reported` — the number that a subscriber reads

## Main results

* `UnicoreNode.counted_le_call` — the counters only grow
* `MonitoredNode.counted_run` — what is counted of lines and frames
* `MonitoredNode.anomalies_reported` — the reports add up
-/

namespace UnicoreGnss

open CNumber Checked

/-! ### The counters of the transport -/

namespace UnicoreBinaryTransportCounters

/-- The errors and the resyncs. -/
def anomalies (counters : UnicoreBinaryTransportCounters) : ℕ × ℕ :=
  (counters.crcErrors, counters.resyncCount)

end UnicoreBinaryTransportCounters

namespace UnicoreTransport

variable {t t' : UnicoreTransport}

theorem anomalies_countSyncCandidate :
    t.countSyncCandidate.binaryCounters.anomalies = t.binaryCounters.anomalies := by
  rw [countSyncCandidate]
  split <;> rfl

theorem anomalies_le_discard (n : ℕ) :
    t.binaryCounters.anomalies ≤ (t.discard n).binaryCounters.anomalies :=
  ⟨Nat.le_refl _, Nat.le_succ _⟩

theorem anomalies_le_countCrcError :
    t.binaryCounters.anomalies ≤ t.countCrcError.binaryCounters.anomalies :=
  ⟨Nat.le_succ _, Nat.le_refl _⟩

/-- **A pass** counts on. -/
theorem anomalies_le_next {out : List UnicoreTransportEvent} (h : t.drainPass = .next out t') :
    t.binaryCounters.anomalies ≤ t'.binaryCounters.anomalies := by
  have hcase := passCase_drainPass t
  rw [h] at hcase
  have hsync : t.binaryCounters.anomalies ≤ t.countSyncCandidate.binaryCounters.anomalies :=
    anomalies_countSyncCandidate.ge
  cases hcase with
  | asciiLine => exact le_rfl
  | tooLarge => exact hsync.trans (anomalies_le_discard 1)
  | crcReject => exact (hsync.trans anomalies_le_countCrcError).trans (anomalies_le_discard 1)
  | frame => exact hsync
  | frameLenient => exact hsync.trans anomalies_le_countCrcError
  | line => exact le_rfl
  | skip sync => exact anomalies_le_discard sync
  | drop => exact anomalies_le_discard 1

theorem anomalies_le_stop (h : t.drainPass = .stop t') :
    t.binaryCounters.anomalies ≤ t'.binaryCounters.anomalies := by
  have hcase := passCase_drainPass t
  rw [h] at hcase
  cases hcase with
  | empty => exact le_rfl
  | asciiWait => exact le_rfl
  | await => exact anomalies_countSyncCandidate.ge
  | hold => exact le_rfl

/-- **A drain** counts on. -/
theorem anomalies_le_drain (t : UnicoreTransport) :
    t.binaryCounters.anomalies ≤ t.drain.2.binaryCounters.anomalies :=
  reader.drain_induction
    (motive := fun t result => t.binaryCounters.anomalies ≤ result.2.binaryCounters.anomalies)
    (fun _ _ h => anomalies_le_stop h) (fun _ _ _ h ih => (anomalies_le_next h).trans ih) t

end UnicoreTransport

/-! ### What is wrong with an event -/

namespace ChecksumKind

/-- What is counted of a line whose checksum is wrong. -/
def anomaly : ChecksumKind → Anomaly
  | nmea => .nmeaChecksumError
  | unicore => .unicoreCrcError

/-- What is wrong with a line of the kind. -/
def lineAnomaly (kind : ChecksumKind) (math : MathFunctions) (line : Bytes) : Option Anomaly :=
  if kind.validate (UnicoreParser.trim line) = value true then
    let refused := (UnicoreParser.lineFields (UnicoreParser.trim line)).toOption.any fun fields =>
      (kind.parser math fields).any fun parsed => decide (attempt parsed = value none)
    if refused then some .parseError else none
  else some kind.anomaly

end ChecksumKind

/-- What is wrong with a line. -/
def lineAnomaly (math : MathFunctions) (line : Bytes) : Option Anomaly :=
  if (UnicoreParser.trim line).head? = some dollar then ChecksumKind.nmea.lineAnomaly math line
  else if (UnicoreParser.trim line).head? = some hash then
    ChecksumKind.unicore.lineAnomaly math line
  else none

/-- What is wrong with what the transport hands out. -/
def NodeEvent.anomaly (math : MathFunctions) (event : NodeEvent) : Option Anomaly :=
  match event.input with
  | .asciiLine line => lineAnomaly math line
  | .binaryFrame frame =>
    if UnicoreBinaryDispatcher.isKnown frame.messageId then none else some .binaryUnknownFrame

/-- One if it is this one. -/
def Anomaly.once (anomaly : Anomaly) (found : Option Anomaly) : ℕ :=
  if found = some anomaly then 1 else 0

/-! ### Lines -/

/-- What the parser has counted. -/
def ParserCounters.anomalies (counters : ParserCounters) : Anomaly → ℕ
  | .parseError => counters.parseErrors
  | .nmeaChecksumError => counters.nmeaChecksumErrors
  | .unicoreCrcError => counters.unicoreCrcErrors
  | _ => 0

section Lines

variable (math : MathFunctions) (line : Bytes) (counters : ParserCounters) (anomaly : Anomaly)

theorem anomalies_countError (kind : ChecksumKind) :
    (kind.countError counters).anomalies anomaly =
      counters.anomalies anomaly + anomaly.once (some kind.anomaly) := by
  cases kind <;> cases anomaly <;> rfl

theorem anomalies_countParsed (parsed : Option (Checked ParsedSentence)) :
    ((UnicoreParser.countParsed parsed counters).toOption.elim counters Prod.snd).anomalies
        anomaly =
      counters.anomalies anomaly + anomaly.once
        (if parsed.any fun parsed => decide (attempt parsed = value none) then some .parseError
          else none) := by
  rcases parsed with _ | ⟨sentence | _ | _⟩ <;> cases anomaly <;> rfl

/-- A line of either kind. -/
theorem anomalies_parseLine_kind (kind : ChecksumKind)
    (hhead : (UnicoreParser.trim line).head? = some kind.first) :
    ((UnicoreParser.parseLine math line counters).toOption.elim counters Prod.snd).anomalies
        anomaly =
      counters.anomalies anomaly + anomaly.once (kind.lineAnomaly math line) := by
  obtain ⟨verdict, hvalidate, -⟩ := kind.validate_iff (UnicoreParser.trim line)
  rw [ChecksumKind.parseLine_eq math counters hhead, ChecksumKind.lineAnomaly, hvalidate,
    value_bind]
  cases verdict with
  | false =>
    rw [if_neg (by decide), if_neg (by decide)]
    exact anomalies_countError counters anomaly kind
  | true =>
    rw [if_pos rfl, if_pos rfl]
    rcases UnicoreParser.lineFields (UnicoreParser.trim line) with fields | _ | _
    · exact anomalies_countParsed counters anomaly (kind.parser math fields)
    · cases anomaly <;> rfl
    · cases anomaly <;> rfl

/-- **A line** counts as what is wrong with it, whatever was counted before. -/
theorem anomalies_parseLine :
    ((UnicoreParser.parseLine math line counters).toOption.elim counters Prod.snd).anomalies
        anomaly =
      counters.anomalies anomaly + anomaly.once (lineAnomaly math line) := by
  rw [lineAnomaly]
  by_cases hnmea : (UnicoreParser.trim line).head? = some dollar
  · rw [if_pos hnmea]
    exact anomalies_parseLine_kind math line counters anomaly .nmea hnmea
  rw [if_neg hnmea]
  by_cases hunicore : (UnicoreParser.trim line).head? = some hash
  · rw [if_pos hunicore]
    exact anomalies_parseLine_kind math line counters anomaly .unicore hunicore
  · rw [if_neg hunicore, UnicoreParser.parseLine]
    simp only [if_neg hnmea, if_neg hunicore]
    rfl

end Lines

/-! ### Events -/

namespace NodeState

variable (math : MathFunctions) (config : NodeConfig) (s : NodeState) (anomaly : Anomaly)

/-- The counters of the parser and of the dispatcher. -/
def counters : ParserCounters × UnicoreBinaryDispatchCounters :=
  (s.parserCounters, s.dispatchCounters)

/-- What has been counted of lines and frames. -/
def counted : Anomaly → ℕ
  | .binaryUnknownFrame => s.counters.2.unknownFrames
  | anomaly => s.counters.1.anomalies anomaly

theorem counted_eq (s : NodeState) (anomaly : Anomaly) :
    s.counted anomaly = if anomaly = .binaryUnknownFrame then s.counters.2.unknownFrames
      else s.counters.1.anomalies anomaly := by
  cases anomaly <;> rfl

theorem counters_takeFix (slot : FixData → FixSource) (publishes : Bool) (fix : Option FixData)
    (now : SteadyTime) (stamp : RosTime) :
    (s.takeFix config slot publishes fix now stamp).1.counters = s.counters := by
  cases fix with
  | none => rfl
  | some fix =>
    show (s.setFix (slot fix) ⟨fix, now⟩).counters = s.counters
    cases slot fix <;> rfl

theorem counters_takeHeading (slot : HeadingData → HeadingSource) (publishes : Bool)
    (heading : Option HeadingData) (now : SteadyTime) (stamp : RosTime) :
    (s.takeHeading config slot publishes heading now stamp).1.counters = s.counters := by
  cases heading with
  | none => rfl
  | some heading =>
    show (s.setHeading (slot heading) ⟨heading, now⟩).counters = s.counters
    cases slot heading <;> rfl

theorem counters_processLine (line : Bytes) (now : SteadyTime) (stamp : RosTime) :
    (s.processLine config math line now stamp).1.counters =
      ((UnicoreParser.parseLine math line s.parserCounters).toOption.elim s.parserCounters
        Prod.snd, s.dispatchCounters) := by
  rw [processLine]
  rcases UnicoreParser.parseLine math line s.parserCounters with ⟨_ | parsed, counters⟩ | _ | _
  · rfl
  · exact (counters_takeHeading config _ _ _ _ _ _).trans (counters_takeFix config _ _ _ _ _ _)
  · rfl
  · rfl

theorem counters_processBinaryFrame (frame : UnicoreBinaryFrame) (now : SteadyTime)
    (stamp : RosTime) :
    (s.processBinaryFrame config math frame now stamp).1.counters =
      (s.parserCounters, (UnicoreBinaryDispatcher.dispatch s.dispatchCounters frame).2) := by
  rw [processBinaryFrame]
  rcases UnicoreBinaryNavParser.parse math frame with parsed | _ | _
  · exact (counters_takeHeading config _ _ _ _ _ _).trans (counters_takeFix config _ _ _ _ _ _)
  · rfl
  · rfl

/-- **One event** counts as what is wrong with it. -/
theorem counted_step (event : NodeEvent) :
    (s.step math config event).1.counted anomaly =
      s.counted anomaly + anomaly.once (event.anomaly math) := by
  obtain ⟨line | frame, receivedAt, stamp⟩ := event
  · have hcounts : (s.processLine config math line receivedAt stamp).1.counted anomaly =
        s.counted anomaly + anomaly.once (lineAnomaly math line) := by
      have hparsed := anomalies_parseLine math line s.parserCounters anomaly
      have hcounters := s.counters_processLine math config line receivedAt stamp
      rw [counted_eq, hcounters]
      cases anomaly with
      | binaryUnknownFrame =>
        -- the parser counts none of these
        have hnone : 0 = 0 + Anomaly.once .binaryUnknownFrame (lineAnomaly math line) := hparsed
        show s.dispatchCounters.unknownFrames = s.dispatchCounters.unknownFrames + _
        omega
      | _ => exact hparsed
    cases line with
    | nil => rfl
    | cons c line => exact hcounts
  · show (s.processBinaryFrame config math frame receivedAt stamp).1.counted anomaly =
      s.counted anomaly + anomaly.once
        (if UnicoreBinaryDispatcher.isKnown frame.messageId then none
          else some .binaryUnknownFrame)
    rw [counted_eq, s.counters_processBinaryFrame math config frame receivedAt stamp]
    cases hknown : UnicoreBinaryDispatcher.isKnown frame.messageId with
    | true =>
      rw [UnicoreBinaryDispatcher.dispatch_known _ hknown]
      cases anomaly <;> rfl
    | false =>
      rw [UnicoreBinaryDispatcher.dispatch_unknown _ hknown]
      cases anomaly <;> rfl

/-- **Some events** count as those of them that are wrong. -/
theorem counted_foldl (events : List NodeEvent) :
    (events.foldl (fun s event => (s.step math config event).1) s).counted anomaly =
      s.counted anomaly + events.countP fun event => event.anomaly math = some anomaly := by
  induction events generalizing s with
  | nil => rfl
  | cons event events ih =>
    rw [List.foldl_cons, ih, counted_step, List.countP_cons, Nat.add_assoc,
      Nat.add_comm (events.countP _)]
    simp only [Anomaly.once, decide_eq_true_eq]

end NodeState

/-! ### The node -/

namespace Anomaly

/-- Is it about what the transport hands out, and not about what it throws away? -/
def ofEvent : Anomaly → Bool
  | binaryCrcError => false
  | binaryResync => false
  | _ => true

end Anomaly

namespace UnicoreNode

variable (math : MathFunctions) (config : UnicoreNodeConfig) (node : UnicoreNode)

theorem counted_ofEvent {anomaly : Anomaly} (h : anomaly.ofEvent = true) :
    node.counted anomaly = node.data.counted anomaly := by
  cases anomaly with
  | binaryCrcError => cases h
  | binaryResync => cases h
  | _ => rfl

/-- The errors and the resyncs of the transport. -/
def transportAnomalies : ℕ × ℕ := node.transport.binaryCounters.anomalies

/-- Opening the port clears the buffer, not the counters. -/
theorem transportAnomalies_ensureSerialOpen (now : SteadyTime) (opening : OpenOutcome) :
    (node.ensureSerialOpen config now opening).2.transportAnomalies =
      node.transportAnomalies := by
  rw [ensureSerialOpen]
  split_ifs
  · rfl
  · rfl
  · rcases node.serial.openPort opening with ⟨_ | _, serial⟩ <;> rfl

theorem transportAnomalies_le_readLoop (reads : List (ReadOutcome × Clocks)) :
    node.transportAnomalies ≤ (readLoop math config reads node).2.2.transportAnomalies := by
  induction reads generalizing node with
  | nil => exact le_rfl
  | cons read reads ih =>
    rw [readLoop]
    rcases node.serial.read 1024 read.1 with (_ | ⟨byte, bytes⟩) | errno
    · exact le_rfl
    · refine le_trans ?_ (ih _)
      exact UnicoreTransport.anomalies_le_drain (node.transport.append (byte :: bytes))
    · by_cases hagain : errno = .again
      · simp only [hagain, if_true]
        exact le_rfl
      · simp only [hagain, if_false]
        exact le_rfl

theorem transportAnomalies_dropOversized :
    (node.dropOversized config).transportAnomalies = node.transportAnomalies := by
  rw [dropOversized]
  split_ifs <;> rfl

theorem transportAnomalies_le_call (callback : Callback) :
    node.transportAnomalies ≤ (node.call math config callback).2.transportAnomalies := by
  cases callback with
  | pollSerial now opening reads =>
    rw [call, pollSerial, ← node.transportAnomalies_ensureSerialOpen config now opening]
    generalize node.ensureSerialOpen config now opening = ensured
    obtain ⟨opened, node'⟩ := ensured
    have hloop := node'.transportAnomalies_le_readLoop math config reads
    dsimp only
    split_ifs
    · exact le_rfl
    · rwa [transportAnomalies_dropOversized]
    · exact hloop
  | handleRtcm now opening message writes writtenAt =>
    rw [call, handleRtcm, ← node.transportAnomalies_ensureSerialOpen config now opening]
    generalize node.ensureSerialOpen config now opening = ensured
    obtain ⟨opened, node'⟩ := ensured
    dsimp only
    by_cases hidle : (!node'.serial.isOpen) = true
    · rw [if_pos hidle]
    by_cases hmessage : message = []
    · rw [if_neg hidle, if_pos hmessage]
    rw [if_neg hidle, if_neg hmessage]
    rcases node'.serial.write message.length writes with _ | written
    · exact le_rfl
    · by_cases hfailed : written < 0
      · simp only [hfailed, if_true]
        exact le_rfl
      · simp only [hfailed, if_false]
        exact le_rfl

/-- **The counters only grow**, whatever the port does. -/
theorem counted_le_call (callback : Callback) (anomaly : Anomaly) :
    node.counted anomaly ≤ (node.call math config callback).2.counted anomaly := by
  obtain ⟨hcrc, hresync⟩ := node.transportAnomalies_le_call math config callback
  cases h : anomaly.ofEvent with
  | true =>
    have hdata : (node.call math config callback).2.data = _ :=
      node.data_call math config callback
    rw [counted_ofEvent _ h, counted_ofEvent _ h, hdata, NodeState.counted_foldl]
    exact Nat.le_add_right _ _
  | false =>
    cases anomaly with
    | binaryCrcError => exact hcrc
    | binaryResync => exact hresync
    | _ => cases h

end UnicoreNode

/-! ### What is reported -/

/-- The number that a subscriber reads. -/
def DiagnosticArray.reported (array : DiagnosticArray) (anomaly : Anomaly) : Option ℕ :=
  ((array.find? .parser).bind fun status => status.value? anomaly.deltaKey).bind readDecimal

namespace MonitoredNode

variable (math : DiagnosticsMath) (config : NodeParameters) (m : MonitoredNode)

theorem value?_gpsParserStatus (now : SteadyTime) (anomaly : Anomaly) :
    (m.gpsParserStatus config now).value? anomaly.deltaKey =
      some (decimal (m.delta anomaly)) := by
  cases anomaly <;> rfl

theorem reported_publishDiagnostics (now : SteadyTime) (stamp : RosTime) (keys : TableKeys)
    (anomaly : Anomaly) :
    (m.publishDiagnostics math config now stamp keys).1.reported anomaly =
      some (m.delta anomaly) := by
  rw [DiagnosticArray.reported, find?_publishDiagnostics]
  show ((m.gpsParserStatus config now).value? anomaly.deltaKey).bind readDecimal = _
  rw [value?_gpsParserStatus, Option.bind_some, readDecimal_decimal]

/-- A status that warns reports an anomaly, and conversely. -/
theorem level_gpsParserStatus (now : SteadyTime) :
    (m.gpsParserStatus config now).level = .warn ↔ ∃ anomaly, 0 < m.delta anomaly := by
  show m.gpsParserSummary.1 = .warn ↔ _
  rw [gpsParserSummary]
  split_ifs with hany
  · obtain ⟨anomaly, -, hpos⟩ := List.any_eq_true.mp hany
    exact iff_of_true rfl ⟨anomaly, of_decide_eq_true hpos⟩
  · refine iff_of_false (fun h => by cases h) ?_
    rintro ⟨anomaly, hpos⟩
    exact hany (List.any_eq_true.mpr ⟨anomaly, anomaly.mem_all, decide_eq_true hpos⟩)

/-- What has been reported of an anomaly adds up to the snapshot, and the counter is not below. -/
def Reported (arrays : List DiagnosticArray) (m : MonitoredNode) (anomaly : Anomaly) : Prop :=
  ∃ deltas : List ℕ, arrays.map (fun array => array.reported anomaly) = deltas.map some ∧
    deltas.sum = m.snapshot anomaly ∧ m.snapshot anomaly ≤ m.node.counted anomaly

/-- One more report: the snapshot is the counter now. -/
theorem Reported.publishDiagnostics {arrays : List DiagnosticArray} {m : MonitoredNode}
    {anomaly : Anomaly} (h : Reported arrays m anomaly) (now : SteadyTime) (stamp : RosTime)
    (keys : TableKeys) :
    Reported (arrays ++ [(m.publishDiagnostics math config now stamp keys).1])
        (m.publishDiagnostics math config now stamp keys).2 anomaly ∧
      (m.publishDiagnostics math config now stamp keys).2.snapshot anomaly =
        (m.publishDiagnostics math config now stamp keys).2.node.counted anomaly := by
  obtain ⟨deltas, hread, hsum, hle⟩ := h
  have hsnapshot : (m.publishDiagnostics math config now stamp keys).2.snapshot anomaly =
      m.node.counted anomaly := by cases anomaly <;> rfl
  have hcounted : (m.publishDiagnostics math config now stamp keys).2.node.counted anomaly =
      m.node.counted anomaly := rfl
  refine ⟨⟨deltas ++ [m.delta anomaly], ?_, ?_, ?_⟩, ?_⟩
  · rw [List.map_append, List.map_append, hread, List.map_singleton, List.map_singleton,
      reported_publishDiagnostics]
  · rw [List.sum_append, List.sum_singleton, hsum, hsnapshot, delta]
    exact Nat.add_sub_cancel' hle
  · rw [hsnapshot, hcounted]
  · rw [hsnapshot, hcounted]

/-- **In every run** the reports add up to the snapshot. -/
theorem reported_run (callbacks : List NodeCallback) (anomaly : Anomaly) :
    Reported (run math config callbacks).1 (run math config callbacks).2 anomaly := by
  induction callbacks using List.reverseRecOn with
  | nil => exact ⟨[], rfl, by cases anomaly <;> rfl, by cases anomaly <;> exact Nat.zero_le _⟩
  | append_singleton callbacks callback ih =>
    rw [run_concat]
    cases callback with
    | serial callback =>
      obtain ⟨deltas, hread, hsum, hle⟩ := ih
      refine ⟨deltas, ?_, hsum, hle.trans (UnicoreNode.counted_le_call _ _ _ callback anomaly)⟩
      show ((run math config callbacks).1 ++ []).map _ = _
      rw [List.append_nil, hread]
    | publishDiagnostics now stamp keys =>
      exact (ih.publishDiagnostics math config now stamp keys).1

/-- **What is counted of lines and frames** in a run: those of the events handled that are wrong. -/
theorem counted_run (callbacks : List NodeCallback) {anomaly : Anomaly}
    (h : anomaly.ofEvent = true) :
    (run math config callbacks).2.node.counted anomaly =
      (handled math config callbacks).countP fun event =>
        event.anomaly math.toMathFunctions = some anomaly := by
  rw [UnicoreNode.counted_ofEvent _ h, data_run, Run.state, NodeState.counted_foldl]
  cases anomaly <;> exact Nat.zero_add _

/-- Every array has a parser status, which warns exactly if it reports an anomaly. -/
theorem parser_status_run {callbacks : List NodeCallback} {array : DiagnosticArray}
    (h : array ∈ (run math config callbacks).1) :
    ∃ status, array.find? .parser = some status ∧
      (status.level = .warn ↔ ∃ anomaly n, array.reported anomaly = some n ∧ 0 < n) := by
  induction callbacks using List.reverseRecOn with
  | nil => cases h
  | append_singleton callbacks callback ih =>
    rw [run_concat, List.mem_append] at h
    rcases h with h | h
    · exact ih h
    · cases callback with
      | serial callback => cases h
      | publishDiagnostics now stamp keys =>
        have harray : array = ((run math config callbacks).2.publishDiagnostics math config now
            stamp keys).1 := List.mem_singleton.mp h
        rw [harray]
        refine ⟨_, find?_publishDiagnostics _ _ _ _ _ _ _, ?_⟩
        rw [level_gpsParserStatus]
        simp only [reported_publishDiagnostics, Option.some.injEq, exists_eq_left']

/-- **Every anomaly is reported once.** When the diagnostics have just been published, the numbers
in all the arrays so far add up to what has been counted, which for lines and frames is the number
of those handled that are wrong in this way. And a parser status warns exactly if its array reports
something. -/
theorem anomalies_reported (callbacks : List NodeCallback) (now : SteadyTime) (stamp : RosTime)
    (keys : TableKeys) :
    let callbacks := callbacks ++ [.publishDiagnostics now stamp keys]
    let arrays := (run math config callbacks).1
    let node := (run math config callbacks).2.node
    (∀ anomaly, ∃ deltas : List ℕ,
        arrays.map (fun array => array.reported anomaly) = deltas.map some ∧
        deltas.sum = node.counted anomaly ∧
        (anomaly.ofEvent = true →
          deltas.sum = (handled math config callbacks).countP fun event =>
            event.anomaly math.toMathFunctions = some anomaly)) ∧
      ∀ array ∈ arrays, ∃ status, array.find? .parser = some status ∧
        (status.level = .warn ↔ ∃ anomaly n, array.reported anomaly = some n ∧ 0 < n) := by
  intro callbacks' arrays node
  refine ⟨?_, fun array harray => parser_status_run math config harray⟩
  intro anomaly
  have hall := reported_run math config callbacks' anomaly
  have hnow := ((reported_run math config callbacks anomaly).publishDiagnostics math config now
    stamp keys).2
  have hlast : (run math config callbacks').2 =
      ((run math config callbacks).2.publishDiagnostics math config now stamp keys).2 := by
    rw [run_concat]
    rfl
  obtain ⟨deltas, hread, hsum, -⟩ := hall
  have htotal : deltas.sum = node.counted anomaly := by
    rw [hsum, hlast, hnow, ← hlast]
  exact ⟨deltas, hread, htotal, fun h => htotal.trans (counted_run math config callbacks' h)⟩

end MonitoredNode

end UnicoreGnss
