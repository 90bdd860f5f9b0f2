import UnicoreGnss.Node.Dispatcher
import UnicoreGnss.Parser.Binary
import UnicoreGnss.Parser.Text

/-!
# The node

`src/unicore_node.cpp`: what the node keeps of the sentences and frames it receives, and which fix
and heading it publishes when one arrives.

The clocks are read once for each event. `SteadyTime` counts the nanoseconds of `steady_clock`,
`RosTime` those of `now()`. A timeout is a `double` and may be infinite or no number.

## Main definitions

* `NodeState` — the latest data of each kind, from text and from binary frames
* `NodeState.activeFix`, `activeHeading` — the selection
* `NodeState.processLine`, `processBinaryFrame` — the two handlers
* `NodeState.step` — what `drain_transport` does with one event
* `Run.state`, `Run.published` — runs of the node

## Main results

* `parsedLine_eq` — a line is parsed to the same sentence whatever was counted before
-/

namespace UnicoreGnss

open CNumber Checked

/-- Nanoseconds of `steady_clock`. -/
abbrev SteadyTime := ℤ

/-- Nanoseconds of the node's clock. -/
abbrev RosTime := ℤ

/-- Data, and when they were received. -/
structure TimedData (α : Type) where
  data : α
  receivedAt : SteadyTime
  deriving DecidableEq, Repr

/-- The parameters that decide what is published. -/
structure NodeConfig where
  frameId : Bytes := ascii "gps"
  dataTimeoutSec : Double := .finite 1
  useBinaryNav : Bool := false
  binaryNavTimeoutSec : Double := .finite 2

/-- What the node has received. -/
structure NodeState where
  parserCounters : ParserCounters := {}
  dispatchCounters : UnicoreBinaryDispatchCounters := {}
  latestGgaFix : Option (TimedData FixData) := none
  latestPvtslnaFix : Option (TimedData FixData) := none
  latestBestnav : Option (TimedData BestNavData) := none
  latestHdtHeading : Option (TimedData HeadingData) := none
  latestHprHeading : Option (TimedData HeadingData) := none
  latestVelocity : Option (TimedData VelocityData) := none
  latestRtkStatus : Option (TimedData RtkStatusData) := none
  latestRtcmStatus : Option (TimedData RtcmStatusData) := none
  latestBestsat : Option (TimedData BestSatData) := none
  latestSatsinfo : Option (TimedData SatsInfoData) := none
  latestAgc : Option (TimedData AgcData) := none
  latestHwStatus : Option (TimedData HwStatusData) := none
  latestJamStatus : Option (TimedData JamStatusData) := none
  latestFreqJamStatus : Option (TimedData FreqJamStatusData) := none
  latestBinaryPvtslnFix : Option (TimedData FixData) := none
  latestBinaryHeading : Option (TimedData HeadingData) := none
  latestBinaryVelocity : Option (TimedData VelocityData) := none
  latestBinaryBestnav : Option (TimedData BestNavData) := none
  latestBinaryRtkStatus : Option (TimedData RtkStatusData) := none
  latestBinaryRtcmStatus : Option (TimedData RtcmStatusData) := none
  latestBinaryBestsat : Option (TimedData BestSatData) := none
  latestBinarySatsinfo : Option (TimedData SatsInfoData) := none
  latestBinaryRawObservations : Option (TimedData RawObservationData) := none
  latestBinaryAgc : Option (TimedData AgcData) := none
  latestBinaryHwStatus : Option (TimedData HwStatusData) := none
  latestBinaryJamStatus : Option (TimedData JamStatusData) := none
  latestBinaryFreqJamStatus : Option (TimedData FreqJamStatusData) := none
  lastRtkstatusTime : Option SteadyTime := none
  lastRtcmstatusTime : Option SteadyTime := none
  lastBinaryFrameTime : Option SteadyTime := none
  lastBinaryMsgId : Option UInt16 := none
  sentenceCounts : Bytes → ℕ := fun _ => 0
  gsvCounts : Bytes → Option (TimedData ℤ) := fun _ => none
  recentRtcmMessageIds : List ℤ := []
  recentBinaryRtcmMessageIds : List ℤ := []

/-! ### Messages -/

/-- `std_msgs/Header` -/
structure Header where
  stamp : RosTime
  frameId : Bytes
  deriving DecidableEq, Repr

/-- The `SERVICE_` bits. -/
inductive NavSatService where
  | gps
  | glonass
  | compass
  | galileo
  deriving DecidableEq, Repr

/-- The `STATUS_` codes. -/
inductive NavSatStatusCode where
  | noFix
  | fix
  | sbasFix
  | gbasFix
  deriving DecidableEq, Repr

/-- `sensor_msgs/NavSatStatus` -/
structure NavSatStatus where
  status : NavSatStatusCode
  service : List NavSatService
  deriving DecidableEq, Repr

/-- The `COVARIANCE_TYPE_` codes the node uses. -/
inductive CovarianceType where
  | unknown
  | diagonalKnown
  deriving DecidableEq, Repr

/-- `sensor_msgs/NavSatFix` -/
structure NavSatFix where
  header : Header
  status : NavSatStatus
  latitude : ℚ
  longitude : ℚ
  altitude : ℚ
  positionCovariance : Vector ℚ 9
  positionCovarianceType : CovarianceType
  deriving DecidableEq, Repr

/-- The `UNIT_` codes of `compass_msgs/msg/Azimuth.msg`. -/
inductive AzimuthUnit where
  | rad
  | deg
  deriving DecidableEq, Repr

/-- The `ORIENTATION_` codes. -/
inductive AzimuthOrientation where
  | enu
  | ned
  deriving DecidableEq, Repr

/-- The `REFERENCE_` codes. -/
inductive AzimuthReference where
  | magnetic
  | geographic
  | utm
  deriving DecidableEq, Repr

/-- `compass_msgs/Azimuth` -/
structure Azimuth where
  header : Header
  azimuth : ℚ
  variance : ℚ
  unit : AzimuthUnit
  orientation : AzimuthOrientation
  reference : AzimuthReference
  deriving DecidableEq, Repr

/-- A message on one of the two navigation topics. -/
inductive Publication where
  | fix (msg : NavSatFix)
  | heading (msg : Azimuth)
  deriving DecidableEq, Repr

/-! ### Freshness -/

/-- `is_fresh` at the time `now`. -/
def isFresh (now stamp : SteadyTime) (timeoutSec : Double) : Bool :=
  match timeoutSec with
  | .finite q => ((now - stamp : ℤ) : ℚ) / 10 ^ 9 ≤ q
  | .infinite negative => !negative
  | .nan => false

/-- The data of a slot that passes the test. -/
def freshIf {α : Type} (latest : Option (TimedData α)) (usable : α → Bool) (now : SteadyTime)
    (timeoutSec : Double) : Option α :=
  match latest with
  | some sample =>
    if usable sample.data && isFresh now sample.receivedAt timeoutSec then some sample.data
    else none
  | none => none

/-- `if (parsed->x.has_value()) { latest_x_ = TimedData<X>{*parsed->x, received_at}; }` -/
def refresh {α : Type} (latest : Option (TimedData α)) (data : Option α)
    (receivedAt : SteadyTime) : Option (TimedData α) :=
  match data with
  | some data => some { data, receivedAt }
  | none => latest

namespace NodeState

variable (config : NodeConfig) (s : NodeState)

/-! ### Selection -/

/-- The fix of the text logs: that of PVTSLNA, or else that of GGA. -/
def activeAsciiFix (now : SteadyTime) : Option FixData :=
  (freshIf s.latestPvtslnaFix FixData.validFix now config.dataTimeoutSec).or
    (freshIf s.latestGgaFix FixData.validFix now config.dataTimeoutSec)

/-- The fix of PVTSLNB. -/
def activeBinaryFix (now : SteadyTime) : Option FixData :=
  freshIf s.latestBinaryPvtslnFix FixData.validFix now config.binaryNavTimeoutSec

/-- The fix in use: the binary one first if it is asked for, and then that of the text logs. -/
def activeFix (now : SteadyTime) : Option FixData :=
  if config.useBinaryNav then (s.activeBinaryFix config now).or (s.activeAsciiFix config now)
  else s.activeAsciiFix config now

/-- The heading of the text logs: that of HPR, or else that of HDT. -/
def activeAsciiHeading (now : SteadyTime) : Option HeadingData :=
  (freshIf s.latestHprHeading (fun _ => true) now config.dataTimeoutSec).or
    (freshIf s.latestHdtHeading (fun _ => true) now config.dataTimeoutSec)

/-- The heading in use: the binary one first if it is asked for, and then that of the text logs. -/
def activeHeading (now : SteadyTime) : Option HeadingData :=
  if config.useBinaryNav then
    (freshIf s.latestBinaryHeading (fun _ => true) now config.binaryNavTimeoutSec).or
      (s.activeAsciiHeading config now)
  else s.activeAsciiHeading config now

/-! ### Publication -/

/-- The status of the message. A fix without a quality takes that of the last GGA, if it is fresh.
-/
def buildNavStatus (fix : FixData) (now : SteadyTime) : NavSatStatus :=
  let quality :=
    if fix.fixQuality ≤ 0 then
      ((freshIf s.latestGgaFix (fun _ => true) now config.dataTimeoutSec).map
        FixData.fixQuality).getD fix.fixQuality
    else fix.fixQuality
  { service := [.gps, .glonass, .compass, .galileo]
    status :=
      if quality = 0 then .noFix
      else if quality = 1 then .fix
      else if quality = 2 ∨ quality = 9 then .sbasFix
      else if quality = 4 ∨ quality = 5 then .gbasFix
      else .fix }

/-- The message of `publish_active_fix`. -/
def navSatFix (fix : FixData) (now : SteadyTime) (stamp : RosTime) : NavSatFix where
  header := { stamp, frameId := config.frameId }
  status := s.buildNavStatus config fix now
  latitude := fix.latitudeDeg
  longitude := fix.longitudeDeg
  altitude := fix.altitudeM
  positionCovariance := if fix.hasCovariance then fix.covariance else Vector.replicate 9 0
  positionCovarianceType := if fix.hasCovariance then .diagonalKnown else .unknown

/-- The message of `publish_active_heading`. -/
def azimuthMsg (heading : HeadingData) (stamp : RosTime) : Azimuth where
  header := { stamp, frameId := config.frameId }
  azimuth := heading.headingDeg
  variance := heading.varianceDeg2
  unit := .deg
  orientation := .ned
  reference := .geographic

/-- The fix in use, if there is one. -/
def publishActiveFix (now : SteadyTime) (stamp : RosTime) : List Publication :=
  match s.activeFix config now with
  | some fix => [.fix (s.navSatFix config fix now stamp)]
  | none => []

/-- The heading in use, if there is one. -/
def publishActiveHeading (now : SteadyTime) (stamp : RosTime) : List Publication :=
  match s.activeHeading config now with
  | some heading => [.heading (azimuthMsg config heading stamp)]
  | none => []

/-! ### Arrivals -/

/-- The slot of a source's latest fix is overwritten. -/
def setFix (source : FixSource) (sample : TimedData FixData) : NodeState :=
  match source with
  | .gga => { s with latestGgaFix := some sample }
  | .pvtslna => { s with latestPvtslnaFix := some sample }
  | .pvtslnb => { s with latestBinaryPvtslnFix := some sample }

/-- The slot of a source's latest heading is overwritten. -/
def setHeading (source : HeadingSource) (sample : TimedData HeadingData) : NodeState :=
  match source with
  | .hdt => { s with latestHdtHeading := some sample }
  | .hpr => { s with latestHprHeading := some sample }
  | .pvtslnb => { s with latestBinaryHeading := some sample }

/-- What both handlers do with the fix of a sentence. They differ in the slot and in whether they
publish. -/
def takeFix (slot : FixData → FixSource) (publishes : Bool) (fix : Option FixData)
    (now : SteadyTime) (stamp : RosTime) : NodeState × List Publication :=
  match fix with
  | some fix =>
    let s := s.setFix (slot fix) { data := fix, receivedAt := now }
    (s, if publishes then s.publishActiveFix config now stamp else [])
  | none => (s, [])

/-- What both handlers do with the heading of a sentence. -/
def takeHeading (slot : HeadingData → HeadingSource) (publishes : Bool)
    (heading : Option HeadingData) (now : SteadyTime) (stamp : RosTime) :
    NodeState × List Publication :=
  match heading with
  | some heading =>
    let s := s.setHeading (slot heading) { data := heading, receivedAt := now }
    (s, if publishes then s.publishActiveHeading config now stamp else [])
  | none => (s, [])

/-! ### Text lines -/

/-- `process_line` has a slot for PVTSLNA and one for all other fixes. -/
def asciiFixSlot (fix : FixData) : FixSource := if fix.source = .pvtslna then .pvtslna else .gga

/-- `process_line` has a slot for HPR and one for all other headings. -/
def asciiHeadingSlot (heading : HeadingData) : HeadingSource :=
  if heading.source = .hpr then .hpr else .hdt

/-- `++sentence_counts_[parsed->sentence_type]` -/
def countSentence (sentenceType : Bytes) : NodeState :=
  { s with sentenceCounts := fun sentenceType' =>
    if sentenceType' = sentenceType then s.sentenceCounts sentenceType' + 1
    else s.sentenceCounts sentenceType' }

/-- The recent RTCM message ids: at most eight, the eldest goes first. -/
def pushMessageId (ids : List ℤ) (status : Option RtcmStatusData) : List ℤ :=
  match status with
  | some status =>
    if status.messageId ≥ 0 then
      if (ids ++ [status.messageId]).length > 8 then (ids ++ [status.messageId]).tail
      else ids ++ [status.messageId]
    else ids
  | none => ids

/-- The data of a text line that only the diagnostics use. -/
def storeAsciiStatus (parsed : ParsedSentence) (receivedAt : SteadyTime) : NodeState :=
  { s with
    latestVelocity := refresh s.latestVelocity parsed.velocity receivedAt
    latestBestnav := refresh s.latestBestnav parsed.bestnav receivedAt
    latestRtkStatus := refresh s.latestRtkStatus parsed.rtkStatus receivedAt
    lastRtkstatusTime :=
      if parsed.rtkStatus.isSome then some receivedAt else s.lastRtkstatusTime
    latestRtcmStatus := refresh s.latestRtcmStatus parsed.rtcmStatus receivedAt
    lastRtcmstatusTime :=
      if parsed.rtcmStatus.isSome then some receivedAt else s.lastRtcmstatusTime
    recentRtcmMessageIds := pushMessageId s.recentRtcmMessageIds parsed.rtcmStatus
    latestBestsat := refresh s.latestBestsat parsed.bestsat receivedAt
    latestSatsinfo := refresh s.latestSatsinfo parsed.satsinfo receivedAt
    latestAgc := refresh s.latestAgc parsed.agc receivedAt
    latestHwStatus := refresh s.latestHwStatus parsed.hwStatus receivedAt
    latestJamStatus := refresh s.latestJamStatus parsed.jamStatus receivedAt
    latestFreqJamStatus := refresh s.latestFreqJamStatus parsed.freqJamStatus receivedAt
    gsvCounts :=
      match parsed.gsv with
      | some gsv => fun talker =>
        if talker = gsv.talker then some { data := gsv.satellitesInView, receivedAt }
        else s.gsvCounts talker
      | none => s.gsvCounts }

/-- What `process_line` does with a parsed sentence. -/
def processSentence (parsed : ParsedSentence) (now : SteadyTime) (stamp : RosTime) :
    NodeState × List Publication :=
  let s := s.countSentence parsed.sentenceType
  let (s, fixes) := s.takeFix config asciiFixSlot true parsed.fix now stamp
  let (s, headings) := s.takeHeading config asciiHeadingSlot true parsed.heading now stamp
  (s.storeAsciiStatus parsed now, fixes ++ headings)

/-- `process_line`. Reads outside the line have no meaning; here they change nothing. -/
def processLine (math : MathFunctions) (line : Bytes) (now : SteadyTime) (stamp : RosTime) :
    NodeState × List Publication :=
  match UnicoreParser.parseLine math line s.parserCounters with
  | value (some parsed, parserCounters) =>
    ({ s with parserCounters } : NodeState).processSentence config parsed now stamp
  | value (none, parserCounters) => ({ s with parserCounters }, [])
  | refused | outside => (s, [])

/-! ### Binary frames -/

/-- `process_binary_frame` has one slot for fixes. -/
def binaryFixSlot (_ : FixData) : FixSource := .pvtslnb

/-- `process_binary_frame` has one slot for headings. -/
def binaryHeadingSlot (_ : HeadingData) : HeadingSource := .pvtslnb

/-- The data of a binary frame that only the diagnostics use. -/
def storeBinaryStatus (parsed : ParsedSentence) (receivedAt : SteadyTime) : NodeState :=
  { s with
    latestBinaryVelocity := refresh s.latestBinaryVelocity parsed.velocity receivedAt
    latestBinaryBestnav := refresh s.latestBinaryBestnav parsed.bestnav receivedAt
    latestBinaryRtkStatus := refresh s.latestBinaryRtkStatus parsed.rtkStatus receivedAt
    latestBinaryRtcmStatus := refresh s.latestBinaryRtcmStatus parsed.rtcmStatus receivedAt
    recentBinaryRtcmMessageIds := pushMessageId s.recentBinaryRtcmMessageIds parsed.rtcmStatus
    latestBinaryBestsat := refresh s.latestBinaryBestsat parsed.bestsat receivedAt
    latestBinarySatsinfo := refresh s.latestBinarySatsinfo parsed.satsinfo receivedAt
    latestBinaryRawObservations :=
      refresh s.latestBinaryRawObservations parsed.rawObservations receivedAt
    latestBinaryAgc := refresh s.latestBinaryAgc parsed.agc receivedAt
    latestBinaryHwStatus := refresh s.latestBinaryHwStatus parsed.hwStatus receivedAt
    latestBinaryJamStatus := refresh s.latestBinaryJamStatus parsed.jamStatus receivedAt
    latestBinaryFreqJamStatus :=
      refresh s.latestBinaryFreqJamStatus parsed.freqJamStatus receivedAt }

/-- What `process_binary_frame` does with a parsed frame. -/
def processBinarySentence (parsed : ParsedSentence) (now : SteadyTime) (stamp : RosTime) :
    NodeState × List Publication :=
  let (s, fixes) := s.takeFix config binaryFixSlot config.useBinaryNav parsed.fix now stamp
  let (s, headings) :=
    s.takeHeading config binaryHeadingSlot config.useBinaryNav parsed.heading now stamp
  (s.storeBinaryStatus parsed now, fixes ++ headings)

/-- What `process_binary_frame` notes of any frame. -/
def noteBinaryFrame (frame : UnicoreBinaryFrame) (now : SteadyTime) : NodeState :=
  let dispatchCounters := (UnicoreBinaryDispatcher.dispatch s.dispatchCounters frame).2
  { s with
    lastBinaryFrameTime := some now
    dispatchCounters
    lastBinaryMsgId := dispatchCounters.lastMessageId.or s.lastBinaryMsgId }

/-- `process_binary_frame`, but for its log message. -/
def processBinaryFrame (math : MathFunctions) (frame : UnicoreBinaryFrame) (now : SteadyTime)
    (stamp : RosTime) : NodeState × List Publication :=
  let s := s.noteBinaryFrame frame now
  match UnicoreBinaryNavParser.parse math frame with
  | value parsed => s.processBinarySentence config parsed now stamp
  | refused | outside => (s, [])

end NodeState

/-! ### Runs -/

/-- An event of the transport, with the clocks at its arrival. -/
structure NodeEvent where
  input : UnicoreTransportEvent
  receivedAt : SteadyTime
  stamp : RosTime

/-- What `drain_transport` does with one event. -/
def NodeState.step (math : MathFunctions) (config : NodeConfig) (s : NodeState)
    (event : NodeEvent) : NodeState × List Publication :=
  match event.input with
  | .binaryFrame frame => s.processBinaryFrame config math frame event.receivedAt event.stamp
  | .asciiLine [] => (s, [])
  | .asciiLine line => s.processLine config math line event.receivedAt event.stamp

namespace Run

variable (math : MathFunctions) (config : NodeConfig) (events : List NodeEvent)

/-- The state of a fresh node after a list of events. -/
def state : NodeState := events.foldl (fun s event => (s.step math config event).1) {}

/-- What the node publishes at event `n`. -/
def published (n : ℕ) : List Publication :=
  match events[n]? with
  | some event => ((state math config (events.take n)).step math config event).2
  | none => []

theorem state_concat (event : NodeEvent) :
    state math config (events ++ [event]) =
      ((state math config events).step math config event).1 := by
  rw [state, List.foldl_append]
  rfl

end Run

/-! ### Sentences -/

/-- The sentence of a line. -/
def parsedLine (math : MathFunctions) (line : Bytes) : Option ParsedSentence :=
  (UnicoreParser.parseLine math line {}).toOption.bind Prod.fst

theorem countParsed_toOption (parsed : Option (Checked ParsedSentence))
    (counters : ParserCounters) :
    (UnicoreParser.countParsed parsed counters).toOption.bind Prod.fst =
      parsed.bind Checked.toOption := by
  rcases parsed with _ | ⟨sentence | _ | _⟩ <;> rfl

/-- What comes through the checksum test, whatever is counted on the way. -/
theorem checkedLine_toOption (valid : Checked Bool) (fields : Checked (List Bytes))
    (parser : List Bytes → Option (Checked ParsedSentence)) (counters failed : ParserCounters) :
    (do
      if ← valid then
        let fields ← fields
        UnicoreParser.countParsed (parser fields) counters
      else return (none, failed) : Checked (Option ParsedSentence × ParserCounters)).toOption.bind
        Prod.fst =
      valid.toOption.bind fun valid =>
        if valid then fields.toOption.bind fun fields => (parser fields).bind Checked.toOption
        else none := by
  rcases valid with valid | _ | _
  · cases valid with
    | false => rfl
    | true =>
      rcases fields with fields | _ | _
      · exact countParsed_toOption (parser fields) counters
      · rfl
      · rfl
  · rfl
  · rfl

/-- **A line is parsed to the same sentence** whatever was counted before. -/
theorem parsedLine_eq (math : MathFunctions) (line : Bytes) (counters : ParserCounters) :
    (UnicoreParser.parseLine math line counters).toOption.bind Prod.fst =
      parsedLine math line := by
  rw [parsedLine, UnicoreParser.parseLine, UnicoreParser.parseLine]
  split
  · rw [checkedLine_toOption, checkedLine_toOption]
  · split
    · rw [checkedLine_toOption, checkedLine_toOption]
    · rfl

end UnicoreGnss
