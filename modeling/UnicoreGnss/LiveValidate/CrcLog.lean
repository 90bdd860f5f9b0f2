import UnicoreGnss.Lib.BoundedHistory
import UnicoreGnss.LiveValidate.FramerAgreement
import UnicoreGnss.LiveValidate.Lines
import UnicoreGnss.Transport.Counters

/-!
# The log of CRC failures

The parser keeps the last 512 frames with a wrong CRC, and after each chunk `_process_bytes` writes
those it has not written yet to the text log. It remembers how many it has written and uses this
number as a position in the parser's list. Once the parser drops failures from the front of its list
the position is at the end for good: from the 513th failure on nothing more is written, and if the
512th and the 513th fall into one chunk then failures are left out in between.

## Main definitions

* `LiveValidator.processBytes` — what is done with a chunk, up to the handling of its events
* `TransportParser.detectedIn` — the failures that the parser detects in a chunk
* `detections` — those of a sequence of chunks

## Main results

* `crcLines_captured` — the log is that of a reader of a bounded history
* `crc_log_iff` — when all failures are in the log
-/

namespace UnicoreGnss.LiveValidate

open CNumber BoundedHistory FirstMatch LittleEndian

/-! ### The code -/

/-- The members of `CaptureState` that `_process_bytes` copies. -/
structure BinaryCaptureState where
  binaryCrcErrors : ℕ := 0
  binaryResyncCount : ℕ := 0
  binarySyncCandidates : ℕ := 0
  binaryLastHeaderLength : Option ℕ := none
  binaryLastPayloadLength : Option ℕ := none
  binaryFrameParseErrorsByReason : BinaryParseReason → ℕ := fun _ => 0
  binaryCrcFailuresRecent : List BinaryCrcFailure := []

/-- The members of the validator that the log of CRC failures depends on. -/
structure LiveValidator where
  transport : TransportParser
  state : BinaryCaptureState := {}
  reportedCrcFailures : ℕ := 0
  /-- The `[BIN-CRC]` lines of the text log with their time stamps, if a text log is open. -/
  crcLines : Option (List (ℚ × Text))

/-- `header_hex`: two digits for each byte. -/
def hexOfBytes (bytes : Bytes) : Text :=
  bytes.flatMap fun byte => hexText ⟨false, 2, false⟩ byte.toNat

/-- The text of a `[BIN-CRC]` line. -/
def crcFailureText (failure : BinaryCrcFailure) : Text :=
  ascii "[BIN-CRC] id=" ++ decimal failure.messageId ++
    ascii " len=" ++ decimal failure.payloadLength ++
    ascii " header=" ++ hexOfBytes failure.header ++
    ascii " expected_crc=0x" ++ hexText ⟨false, 8, false⟩ failure.expectedCrc ++
    ascii " computed_crc=0x" ++ hexText ⟨false, 8, false⟩ failure.computedCrc ++
    ascii " crc_offset=" ++ decimal failure.crcOffset ++
    ascii " frame_len=" ++ decimal failure.frameLength

/-- What is copied from the parser. -/
def TransportParser.captureState (p : TransportParser) : BinaryCaptureState where
  binaryCrcErrors := p.binaryCrcErrors
  binaryResyncCount := p.resyncCount
  binarySyncCandidates := p.syncCandidates
  binaryLastHeaderLength := p.lastHeaderLength
  binaryLastPayloadLength := p.lastPayloadLength
  binaryFrameParseErrorsByReason := p.frameParseErrorsByReason
  binaryCrcFailuresRecent := p.recentCrcFailures

namespace LiveValidator

/-- `__init__`, and the text log that `run` opens. -/
def init (binaryMaxFrameSize : ℕ) : LiveValidator where
  transport := .init binaryMaxFrameSize
  crcLines := some []

/-- `_write_text_log` -/
def writeTextLog (v : LiveValidator) (ts : ℚ) (text : Text) : LiveValidator :=
  { v with crcLines := v.crcLines.map (· ++ [(ts, text)]) }

/-- The loop `while self._reported_crc_failures < len(self.transport.recent_crc_failures)`. -/
def reportCrcFailures (v : LiveValidator) (ts : ℚ) : LiveValidator :=
  if h : v.reportedCrcFailures < v.transport.recentCrcFailures.length then
    reportCrcFailures
      { v.writeTextLog ts (crcFailureText v.transport.recentCrcFailures[v.reportedCrcFailures]) with
        reportedCrcFailures := v.reportedCrcFailures + 1 } ts
  else v
termination_by v.transport.recentCrcFailures.length - v.reportedCrcFailures
decreasing_by
  simp only [writeTextLog]
  omega

/-- `_process_bytes`. The events are handed out: how they are handled concerns neither the parser
nor these lines. -/
def processBytes (v : LiveValidator) (chunk : Bytes) (ts : ℚ) :
    List (ℚ × TransportEvent) × LiveValidator :=
  let (events, transport) := v.transport.feed chunk ts
  (events,
    ({ v with transport, state := transport.captureState } : LiveValidator).reportCrcFailures ts)

/-- A sequence of calls of `_process_bytes`. -/
def processAll (chunks : List (Bytes × ℚ)) (v : LiveValidator) : LiveValidator :=
  chunks.foldl (fun v (chunk, ts) => (v.processBytes chunk ts).2) v

/-- **The loop** writes the kept failures from the position on. -/
theorem reportCrcFailures_eq (v : LiveValidator) (ts : ℚ) :
    v.reportCrcFailures ts =
      { v with
        reportedCrcFailures := max v.reportedCrcFailures v.transport.recentCrcFailures.length
        crcLines := v.crcLines.map fun lines => lines ++
          (v.transport.recentCrcFailures.drop v.reportedCrcFailures).map fun failure =>
            (ts, crcFailureText failure) } := by
  induction hn : v.transport.recentCrcFailures.length - v.reportedCrcFailures generalizing v with
  | zero =>
    rw [reportCrcFailures, dif_neg (by omega), max_eq_left (by omega),
      List.drop_eq_nil_of_le (by omega)]
    simp
  | succ n ih =>
    have h : v.reportedCrcFailures < v.transport.recentCrcFailures.length := by omega
    rw [reportCrcFailures, dif_pos h, ih _ (by simp only [writeTextLog]; omega)]
    simp only [writeTextLog, Option.map_map]
    rw [max_eq_right (by omega), max_eq_right (by omega), List.drop_eq_getElem_cons h]
    simp only [Function.comp_def, List.map_cons, List.append_assoc, List.singleton_append]

end LiveValidator

/-! ### What the parser detects -/

namespace TransportParser

variable {p p' : TransportParser} {out : List TransportEvent}

/-- The failures that a pass of the loop has detected. -/
def detected (p : TransportParser) (_ : List TransportEvent) (p' : TransportParser) :
    List BinaryCrcFailure :=
  if p'.binaryCrcErrors = p.binaryCrcErrors then [] else p'.recentCrcFailures.getLast?.toList

/-- The parser, handing out the failures it detects. -/
def failures : BufferedReader UInt8 TransportParser (List BinaryCrcFailure) := reader.label detected

/-- The failures detected in a chunk. -/
def detectedIn (p : TransportParser) (data : Bytes) : List BinaryCrcFailure :=
  (failures.drain (reader.push data p)).1.flatten

/-- From one state to the other the parser has detected these failures. -/
structure Detects (p p' : TransportParser) (failed : List BinaryCrcFailure) : Prop where
  recent : p'.recentCrcFailures = keep maxBinaryCrcFailureHistory (p.recentCrcFailures ++ failed)
  errors : p'.binaryCrcErrors = p.binaryCrcErrors + failed.length

/-- The parser keeps no more failures than it should. -/
def Bounded (p : TransportParser) : Prop := p.recentCrcFailures.length ≤ maxBinaryCrcFailureHistory

namespace Detects

variable {p'' : TransportParser} {failed failed' : List BinaryCrcFailure}

theorem bounded (h : Detects p p' failed) : p'.Bounded := by
  rw [Bounded, h.recent, length_keep]
  exact Nat.min_le_right _ _

/-- Nothing is detected where both members stay as they are. -/
theorem nothing (hp : p.Bounded) (hrecent : p'.recentCrcFailures = p.recentCrcFailures)
    (herrors : p'.binaryCrcErrors = p.binaryCrcErrors) : Detects p p' [] where
  recent := by rw [hrecent, List.append_nil, keep_of_le hp]
  errors := herrors

theorem trans (h : Detects p p' failed) (h' : Detects p' p'' failed') :
    Detects p p'' (failed ++ failed') where
  recent := by rw [h'.recent, h.recent, keep_keep_append, List.append_assoc]
  errors := by rw [h'.errors, h.errors, List.length_append, Nat.add_assoc]

end Detects

/-- What is recorded of the bytes of a frame. -/
def crcFailureOf (frameBytes : Bytes) : BinaryCrcFailure where
  messageId := leNat (slice frameBytes 4 6)
  payloadLength := leNat (slice frameBytes 6 8)
  header := frameBytes.take binaryHeaderLength
  expectedCrc := expectedCrc frameBytes
  computedCrc := actualCrc frameBytes
  crcOffset := frameBytes.length - 4
  frameLength := frameBytes.length

theorem recentCrcFailures_recordCrcFailure (frameBytes : Bytes) :
    (p.recordCrcFailure frameBytes).recentCrcFailures =
      keep maxBinaryCrcFailureHistory (p.recentCrcFailures ++ [crcFailureOf frameBytes]) := by
  simp only [recordCrcFailure, crcFailureOf, keep]

/-- The books of two parsers are the same. -/
def SameBooks (p p' : TransportParser) : Prop :=
  p'.recentCrcFailures = p.recentCrcFailures ∧ p'.binaryCrcErrors = p.binaryCrcErrors

theorem sameBooks_countSyncCandidate : SameBooks p p.countSyncCandidate := by
  rw [countSyncCandidate]
  split <;> exact ⟨rfl, rfl⟩

/-- **The parser at a sync** leaves the books as they are or records one failure. -/
theorem books_of_tryExtractBinary {frame : Option BinaryFrame}
    (h : p.tryExtractBinary = some (frame, p')) :
    SameBooks p p' ∨ ∃ frameBytes, SameBooks (p.recordCrcFailure frameBytes) p' := by
  have hreject : ∀ (q : TransportParser) n reason,
      SameBooks q ((q.discard n).recordParseReason reason) := fun _ _ _ => ⟨rfl, rfl⟩
  rw [tryExtractBinary] at h
  split at h
  · cases h
  dsimp only at h
  split at h
  · cases h
    exact .inl (hreject _ _ _)
  split at h
  · cases h
  split at h
  · cases h
    exact .inr ⟨_, hreject _ _ _⟩
  · cases h
    exact .inl ⟨rfl, rfl⟩

/-- The same for a pass of the loop. -/
theorem books_of_feedPass (h : p.feedPass = .next out p') :
    SameBooks p p' ∨ ∃ frameBytes, SameBooks (p.recordCrcFailure frameBytes) p' := by
  have hdelete : ∀ n, SameBooks p (p.delete n) := fun n => ⟨rfl, rfl⟩
  have hdiscard : ∀ n, SameBooks p (p.discard n) := fun n => ⟨rfl, rfl⟩
  rw [feedPass] at h
  split at h
  · cases h
  split at h
  · -- a sync at the front
    obtain ⟨hrecent, herrors⟩ := sameBooks_countSyncCandidate (p := p)
    have hbooks : ∀ {frame}, p.countSyncCandidate.tryExtractBinary = some (frame, p') →
        SameBooks p p' ∨ ∃ frameBytes, SameBooks (p.recordCrcFailure frameBytes) p' := by
      intro frame htry
      rcases books_of_tryExtractBinary htry with hsame | ⟨frameBytes, hsame⟩
      · exact .inl ⟨hsame.1.trans hrecent, hsame.2.trans herrors⟩
      · refine .inr ⟨frameBytes, ?_, hsame.2.trans (congrArg (· + 1) herrors)⟩
        rw [hsame.1, recentCrcFailures_recordCrcFailure, hrecent,
          recentCrcFailures_recordCrcFailure]
    split at h
    · cases h
    · next htry =>
      cases h
      exact hbooks htry
    · next htry =>
      cases h
      exact hbooks htry
  · cases h
    exact .inl (hdelete _)
  · split at h
    · cases h
      exact .inl (hdelete _)
    · cases h
      exact .inl (hdiscard _)
  · cases h
    exact .inl (hdiscard _)
  · split at h
    · cases h
    split at h
    · cases h
    · cases h
      exact .inl (hdiscard _)

/-- A pass that ends the loop leaves the books as they are. -/
theorem sameBooks_of_stop (h : p.feedPass = .stop p') : SameBooks p p' := by
  rw [feedPass] at h
  split at h
  · cases h
    exact ⟨rfl, rfl⟩
  split at h
  · split at h
    · cases h
      exact sameBooks_countSyncCandidate
    · cases h
    · cases h
  · cases h
  · split at h <;> cases h
  · cases h
  · split at h
    · cases h
      exact ⟨rfl, rfl⟩
    split at h
    · cases h
      exact ⟨rfl, rfl⟩
    · cases h

/-- **One pass.** -/
theorem detects_of_feedPass (hp : p.Bounded) (h : p.feedPass = .next out p') :
    Detects p p' (detected p out p') := by
  rw [detected]
  rcases books_of_feedPass h with ⟨hrecent, herrors⟩ | ⟨frameBytes, hrecent, herrors⟩
  · rw [if_pos herrors]
    exact Detects.nothing hp hrecent herrors
  · have hcount : p'.binaryCrcErrors = p.binaryCrcErrors + 1 := herrors
    rw [if_neg (by omega)]
    rw [recentCrcFailures_recordCrcFailure] at hrecent
    rw [hrecent, getLast?_keep_concat (by decide)]
    exact ⟨hrecent, hcount⟩

/-- **A whole chunk.** -/
theorem detects_feed (hp : p.Bounded) (data : Bytes) (ts : ℚ) :
    Detects p (p.feed data ts).2 (p.detectedIn data) := by
  have hdrain : ∀ q : TransportParser, q.Bounded →
      Detects q (reader.drain q).2 (failures.drain q).1.flatten := by
    intro q
    refine reader.drain_induction (motive := fun q r => q.Bounded →
      Detects q r.2 (failures.drain q).1.flatten) ?_ ?_ q
    · intro q q' hpass hq
      have hsame := sameBooks_of_stop hpass
      rw [failures, BufferedReader.drain_stop _ (reader.label_stop.mpr hpass)]
      exact Detects.nothing hq hsame.1 hsame.2
    · intro q out q' hpass ih hq
      have hone := detects_of_feedPass hq hpass
      have hrest := ih hone.bounded
      rw [failures, BufferedReader.drain_next _ (reader.label_next hpass), ← failures]
      simpa using hone.trans hrest
  have h := hdrain (reader.push data p) hp
  exact ⟨h.recent, h.errors⟩

end TransportParser

/-- The failures detected in a sequence of chunks, those of each chunk with its time. -/
def detections : List (Bytes × ℚ) → TransportParser → List (ℚ × List BinaryCrcFailure)
  | [], _ => []
  | (chunk, ts) :: chunks, p => (ts, p.detectedIn chunk) :: detections chunks (p.feed chunk ts).2

/-! ### The validator as a reader of the parser's history -/

/-- The `[BIN-CRC]` line of a failure, with its time. -/
def crcLine (entry : ℚ × BinaryCrcFailure) : ℚ × Text := (entry.1, crcFailureText entry.2)

namespace LiveValidator

/-- The validator reports what the reader reports. -/
structure Follows (v : LiveValidator) (r : Reader BinaryCrcFailure ℚ) : Prop where
  recent : v.transport.recentCrcFailures = r.recent
  seen : v.reportedCrcFailures = r.seen
  lines : v.crcLines = some (r.reported.map crcLine)

/-- **One chunk** is one round of the reader. -/
theorem follows_processBytes {v : LiveValidator} {r : Reader BinaryCrcFailure ℚ} (h : Follows v r)
    (hv : v.transport.Bounded) (chunk : Bytes) (ts : ℚ) :
    Follows (v.processBytes chunk ts).2
      (r.round maxBinaryCrcFailureHistory ts (v.transport.detectedIn chunk)) := by
  have hrecent := (TransportParser.detects_feed hv chunk ts).recent
  rw [h.recent] at hrecent
  rw [LiveValidator.processBytes]
  dsimp only
  rw [reportCrcFailures_eq]
  refine ⟨?_, ?_, ?_⟩
  · rw [Reader.recent_round, ← hrecent]
  · rw [Reader.seen_round, ← hrecent, ← h.seen]
  · rw [Reader.reported_round, ← hrecent, h.lines, ← h.seen, Option.map_some, List.map_append,
      List.map_map]
    simp only [Function.comp_def, crcLine]

theorem transport_processBytes (v : LiveValidator) (chunk : Bytes) (ts : ℚ) :
    (v.processBytes chunk ts).2.transport = (v.transport.feed chunk ts).2 ∧
      (v.processBytes chunk ts).2.state = (v.transport.feed chunk ts).2.captureState := by
  rw [LiveValidator.processBytes]
  dsimp only
  rw [reportCrcFailures_eq]
  exact ⟨rfl, rfl⟩

theorem processAll_cons (v : LiveValidator) (chunk : Bytes) (ts : ℚ) (chunks : List (Bytes × ℚ)) :
    v.processAll ((chunk, ts) :: chunks) = (v.processBytes chunk ts).2.processAll chunks := rfl

/-- **A sequence of chunks** is a sequence of rounds. -/
theorem follows_processAll (chunks : List (Bytes × ℚ)) {v : LiveValidator}
    {r : Reader BinaryCrcFailure ℚ} (h : Follows v r) (hv : v.transport.Bounded) :
    Follows (v.processAll chunks)
      (r.rounds maxBinaryCrcFailureHistory (detections chunks v.transport)) := by
  induction chunks generalizing v r with
  | nil => exact h
  | cons chunk chunks ih =>
    obtain ⟨chunk, ts⟩ := chunk
    have htransport := (transport_processBytes v chunk ts).1
    have hbounded := (TransportParser.detects_feed hv chunk ts).bounded
    have hrest := ih (follows_processBytes h hv chunk ts) (by rw [htransport]; exact hbounded)
    rw [htransport] at hrest
    rw [processAll_cons, detections, Reader.rounds_cons]
    exact hrest

/-- The validator's count of failures is that of its parser, which is fed all chunks. -/
theorem binaryCrcErrors_processAll (chunks : List (Bytes × ℚ)) {v : LiveValidator}
    (h : v.state.binaryCrcErrors = v.transport.binaryCrcErrors) :
    (v.processAll chunks).state.binaryCrcErrors =
      (v.transport.feedAll chunks).2.binaryCrcErrors := by
  induction chunks generalizing v with
  | nil => exact h
  | cons chunk chunks ih =>
    obtain ⟨chunk, ts⟩ := chunk
    obtain ⟨htransport, hcopied⟩ := transport_processBytes v chunk ts
    rw [processAll_cons, ih (by rw [hcopied, htransport]; rfl), htransport]
    rfl

end LiveValidator

/-! ### The failures of a stream -/

/-- Each failure counts once. -/
theorem length_written_detections (chunks : List (Bytes × ℚ)) {p : TransportParser}
    (hp : p.Bounded) : (p.feedAll chunks).2.binaryCrcErrors =
      p.binaryCrcErrors + (written (detections chunks p)).length := by
  induction chunks generalizing p with
  | nil => rfl
  | cons chunk chunks ih =>
    obtain ⟨chunk, ts⟩ := chunk
    have hone := TransportParser.detects_feed hp chunk ts
    rw [detections, written_cons, List.length_append, ← Nat.add_assoc, ← hone.errors,
      ← ih hone.bounded]
    rfl

/-- The bytes of a sequence of chunks. -/
def bytesOf (chunks : List (Bytes × ℚ)) : Bytes := chunks.flatMap Prod.fst

/-- The parser never takes a limit below 256. -/
theorem TransportParser.init_max (maxFrameSize : ℕ) :
    TransportParser.init maxFrameSize = .init (max 256 maxFrameSize) := by
  rw [TransportParser.init, TransportParser.init, ← max_assoc, max_self]

/-- **The parser's count of failures** is that of the syncs refused for their CRC. -/
theorem binaryCrcErrors_feedAll (maxFrameSize : ℕ) (chunks : List (Bytes × ℚ)) :
    ((TransportParser.init maxFrameSize).feedAll chunks).2.binaryCrcErrors =
      (verdicts (binaryOptions true (max 256 maxFrameSize)) (bytesOf chunks)).count .refused := by
  have hreceived : ∀ cs : List (Bytes × ℚ),
      Call.received (feeding (cs.map Prod.fst)) = bytesOf cs := by
    intro cs
    induction cs with
    | nil => rfl
    | cons c cs ih => rw [bytesOf, List.flatMap_cons, ← bytesOf, ← ih]; rfl
  rw [TransportParser.init_max, (counters_agree (le_max_left _ _) chunks).crcErrors,
    ← crcErrors_verdicts rfl]
  rcases List.eq_nil_or_concat chunks with rfl | ⟨before, last, rfl⟩
  · rw [bytesOf, List.flatMap_nil, verdicts_none rfl]
    rfl
  · -- the last call is a `drain`
    have hcalls : feeding ((before ++ [last]).map Prod.fst) =
        (feeding (before.map Prod.fst) ++ [.push last.1]) ++ [.drain] := by
      simp [feeding]
    rw [List.concat_eq_append, ← hreceived, hcalls, driverRun, hcalls, binaryCounters_run]
    simp

/-! ### When the log is complete -/

/-- The validator after these chunks. -/
def captured (maxFrameSize : ℕ) (chunks : List (Bytes × ℚ)) : LiveValidator :=
  (LiveValidator.init maxFrameSize).processAll chunks

/-- The lines that should be in the log: one for each failure that the parser has detected, in
order, with the time of the chunk. -/
def dueLines (maxFrameSize : ℕ) (chunks : List (Bytes × ℚ)) : List (ℚ × Text) :=
  (labelled (detections chunks (.init maxFrameSize))).map crcLine

section Complete

variable (maxFrameSize : ℕ) (chunks : List (Bytes × ℚ))

/-- The number of failures: as many as there should be lines, and as many as there are syncs refused
for their CRC. -/
theorem binaryCrcErrors_captured :
    (dueLines maxFrameSize chunks).length =
      (captured maxFrameSize chunks).state.binaryCrcErrors ∧
    (captured maxFrameSize chunks).state.binaryCrcErrors =
      (verdicts (binaryOptions true (max 256 maxFrameSize)) (bytesOf chunks)).count .refused := by
  have herrors : (captured maxFrameSize chunks).state.binaryCrcErrors =
      ((TransportParser.init maxFrameSize).feedAll chunks).2.binaryCrcErrors :=
    LiveValidator.binaryCrcErrors_processAll (v := .init maxFrameSize) chunks rfl
  have hcount := length_written_detections chunks (p := .init maxFrameSize) (Nat.zero_le _)
  refine ⟨?_, herrors.trans (binaryCrcErrors_feedAll maxFrameSize chunks)⟩
  rw [herrors, hcount, dueLines, List.length_map, length_labelled]
  exact (Nat.zero_add _).symm

/-- **The lines in the log** are those that a reader of the bounded history reports. -/
theorem crcLines_captured :
    (captured maxFrameSize chunks).crcLines = some ((Reader.rounds maxBinaryCrcFailureHistory {}
      (detections chunks (.init maxFrameSize))).reported.map crcLine) := by
  have hfresh : LiveValidator.Follows (LiveValidator.init maxFrameSize) {} := ⟨rfl, rfl, rfl⟩
  exact (LiveValidator.follows_processAll chunks hfresh (Nat.zero_le _)).lines

/-- All lines are there exactly if there are at most 512 failures. -/
theorem crcLines_eq_iff :
    (captured maxFrameSize chunks).crcLines = some (dueLines maxFrameSize chunks) ↔
      (verdicts (binaryOptions true (max 256 maxFrameSize)) (bytesOf chunks)).count .refused ≤
        maxBinaryCrcFailureHistory := by
  obtain ⟨hdue, herrors⟩ := binaryCrcErrors_captured maxFrameSize chunks
  have hlength : (written (detections chunks (.init maxFrameSize))).length =
      (dueLines maxFrameSize chunks).length := by
    rw [dueLines, List.length_map, length_labelled]
  rw [crcLines_captured, Option.some.injEq, dueLines, Reader.map_reported_eq_iff, hlength, hdue,
    herrors]

/-- **The log of CRC failures** has one line for each failure, in order, exactly if at most 512
syncs of the received bytes are refused for their CRC. -/
theorem crc_log_iff :
    ((captured maxFrameSize chunks).crcLines = some (dueLines maxFrameSize chunks) ∧
      (dueLines maxFrameSize chunks).length =
        (captured maxFrameSize chunks).state.binaryCrcErrors) ↔
      (verdicts (binaryOptions true (max 256 maxFrameSize)) (bytesOf chunks)).count .refused ≤
        maxBinaryCrcFailureHistory := by
  rw [crcLines_eq_iff, and_iff_left (binaryCrcErrors_captured maxFrameSize chunks).1]

end Complete

/-- A frame of 28 bytes with a wrong CRC. -/
def badFrame : Bytes := binarySync ++ List.replicate 21 0 ++ [1, 0, 0, 0]

/-- A bad frame in front is refused, and no other sync starts in it. -/
theorem verdicts_badFrame {o : UnicoreTransportOptions} (hstrict : o.strictBinaryCrc = true)
    (hmax : 28 ≤ o.binaryMaxFrameSize) (r : Bytes) :
    verdicts o (badFrame ++ r) = .refused :: verdicts o r := by
  have hsize : frameSize badFrame = 28 := by decide
  have hcrc : crcOk badFrame = false := by decide +kernel
  have hsize' : frameSize (badFrame ++ r) = 28 := by
    rw [frameSize_append (by decide), hsize]
  have hsync : findBinarySync (badFrame ++ r) = some 0 := by
    rw [findBinarySync, firstMatch_eq_zero_iff (by simp [badFrame])]
    rfl
  have hlen : (badFrame ++ r).length = 28 + r.length := by
    rw [List.length_append]
    rfl
  have hone : ∀ b ∈ badFrame.drop 1, b ≠ 0xAA := by decide +kernel
  have hquiet : ∀ j < 27, startsWithSync (((badFrame ++ r).drop 1).drop j) = false := by
    intro j hj
    rw [← Bool.not_eq_true]
    intro h
    obtain ⟨hfirst, -, -⟩ := getElem?_of_startsWithSync h
    rw [List.drop_append_of_le_length (by decide),
      List.getElem?_append_left (show j < (badFrame.drop 1).length from hj)] at hfirst
    exact hone _ (List.mem_of_getElem? hfirst) rfl
  rw [verdicts_refused hsync (by rw [hsize']; exact hmax) (by rw [hsize', hlen]; omega)
    (by rw [(decode_append (Nat.le_of_eq hsize) r).1, hcrc]) hstrict,
    verdicts_skip (by rw [List.length_drop, hlen]; omega) hquiet, List.drop_drop]
  rfl

/-- Each bad frame is refused once. -/
theorem count_refused_badFrames {o : UnicoreTransportOptions} (hstrict : o.strictBinaryCrc = true)
    (hmax : 28 ≤ o.binaryMaxFrameSize) (n : ℕ) :
    (verdicts o (List.replicate n badFrame).flatten).count .refused = n := by
  induction n with
  | zero =>
    rw [List.replicate_zero, List.flatten_nil, verdicts_none rfl]
    rfl
  | succ n ih =>
    rw [List.replicate_succ, List.flatten_cons, verdicts_badFrame hstrict hmax,
      List.count_cons_self, ih]

/-- Of 513 bad frames in one chunk only 512 lines are written. -/
theorem crc_log_incomplete :
    (captured 4096 [((List.replicate 513 badFrame).flatten, 0)]).state.binaryCrcErrors = 513 ∧
    (captured 4096 [((List.replicate 513 badFrame).flatten, 0)]).crcLines ≠
      some (dueLines 4096 [((List.replicate 513 badFrame).flatten, 0)]) := by
  have hbytes : bytesOf [((List.replicate 513 badFrame).flatten, 0)] =
      (List.replicate 513 badFrame).flatten := List.flatMap_singleton _ _
  have hcount := count_refused_badFrames (o := binaryOptions true (max 256 4096)) rfl
    (by decide) 513
  rw [(binaryCrcErrors_captured _ _).2, Ne, crcLines_eq_iff, hbytes, hcount]
  exact ⟨rfl, by decide⟩

end UnicoreGnss.LiveValidate
