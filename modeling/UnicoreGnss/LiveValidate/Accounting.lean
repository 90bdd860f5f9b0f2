import UnicoreGnss.LiveValidate.Capture

/-!
# The books of a capture

Every count of a capture can be read off the lines and the frames that the framer has cut out. One
event is entered by `Counts.countEvent`, which does what the handlers do to the counts, without what
they store; the counts after a capture are then those of its events, whatever was stored on the way.

## Main definitions

* `Counts.countLine`, `Counts.countFrame` — what one line or one frame adds
* `Counts.ofEvents` — the books for a list of events
* `HasRead` — a validator that has read some chunks

## Main results

* `Capture.toCounts_handleLine`, `Capture.toCounts_handleBinaryFrame` — the handlers
* `HasRead.run` — a whole capture
-/

namespace UnicoreGnss.LiveValidate

open Checked Summaries BufferedReader

namespace Counts

variable (s : Counts) (ts : ℚ)

/-- What is counted for a line. -/
def countLine (rawLine : Bytes) : Counts :=
  { s with
    toCaptureState := s.toCaptureState.handleLine rawLine
    messageCounters := accumulate MessageCounter.add s.messageCounters
      ((kindOfLine rawLine).messages.map fun name => (name, ts))
    unknownAsciiTypes := s.unknownAsciiTypes.addAll (kindOfLine rawLine).unknown }

end Counts

namespace Capture

variable (c : Capture) (ts : ℚ)

theorem toCounts_updateGsv (sentenceType : Text) (fields : List Text) :
    (c.updateGsv sentenceType fields).toCounts = c.toCounts := by
  rw [updateGsv]
  cases (fields[3]?.bind fun field => parseInt field 10) <;> rfl

/-- What a sentence leaves is not counted, but an exception ends the capture. -/
theorem toCounts_updateNmea (fields : List Text) :
    (c.updateNmea (fields.headD []) fields).map toCounts =
      if (LineKind.nmea fields).raises then none else some c.toCounts := by
  rw [updateNmea, LineKind.raises]
  by_cases hgga : sentenceSuffix (fields.headD []) = ascii "GGA" ∧ 10 ≤ fields.length
  · have hraises := isSome_ggaSnapshot hgga.2
    rw [if_pos hgga, Option.map_map]
    cases hsnapshot : (ggaSnapshot fields).toOption with
    | none =>
      rw [hsnapshot, Option.isSome_none, eq_comm, Bool.not_eq_false', Bool.or_eq_true] at hraises
      rw [if_pos (decide_eq_true ⟨hgga.1, hgga.2, hraises⟩), Option.map_none]
    | some snapshot =>
      rw [hsnapshot, Option.isSome_some, eq_comm, Bool.not_eq_true', ← Bool.not_eq_true,
        Bool.or_eq_true] at hraises
      rw [if_neg fun h => hraises (of_decide_eq_true h).2.2, Option.map_some]
      rfl
  · have hquiet : ¬ decide (sentenceSuffix (fields.headD []) = ascii "GGA" ∧
        10 ≤ fields.length ∧
          ((fields[6]?.bind fun field => parseInt field 10).any overflowsFloat ∨
            (fields[7]?.bind fun field => parseInt field 10).any overflowsFloat)) = true := by
      rw [decide_eq_true_iff]
      exact fun h => hgga ⟨h.1, h.2.1⟩
    rw [if_neg hgga, if_neg hquiet]
    split_ifs
    · rw [Option.map_some, toCounts_updateGsv]
    · rfl

/-- A sentence that raises an exception is of a known type. -/
theorem known_of_raises {fields : List Text}
    (h : (LineKind.nmea fields).raises = true) :
    knownNmeaSuffixes.contains (sentenceSuffix (fields.headD [])) = true := by
  rw [LineKind.raises, decide_eq_true_iff] at h
  rw [h.1]
  decide

theorem toCounts_updateAscii (snapshot : AsciiSnapshot) :
    (c.updateAscii ts snapshot).toCounts = c.toCounts := by
  cases snapshot <;> rfl

theorem toCounts_updateBinary (snapshot : BinarySnapshot) :
    (c.updateBinary ts snapshot).toCounts = c.toCounts := by
  cases snapshot <;> rfl

theorem toCounts_handleNmeaLine (line : Text) :
    (c.handleNmeaLine ts line).map toCounts =
      let kind : LineKind :=
        if validateNmea line then .nmea (lineFields line) else .badNmea (lineToken line)
      if kind.raises then none
      else some { c.toCounts with
        toCaptureState := c.toCaptureState.handleNmeaLine line
        messageCounters := accumulate MessageCounter.add c.messageCounters
          (kind.messages.map fun name => (name, ts))
        unknownAsciiTypes := c.unknownAsciiTypes.addAll kind.unknown } := by
  rw [handleNmeaLine, CaptureState.handleNmeaLine]
  by_cases hvalid : validateNmea line = true
  · simp only [if_pos hvalid, LineKind.messages, LineKind.unknown]
    by_cases hknown :
        knownNmeaSuffixes.contains (sentenceSuffix ((lineFields line).headD [])) = true ∨
          knownNmeaTypes.contains ((lineFields line).headD []) = true
    · rw [if_neg (by tauto), if_pos hknown, toCounts_updateNmea]
      rfl
    · have hquiet : ¬ (LineKind.nmea (lineFields line)).raises = true :=
        fun hraises => hknown (.inl (known_of_raises hraises))
      rw [if_pos (by tauto), if_neg hknown, if_neg hquiet]
      rfl
  · simp only [if_neg hvalid, LineKind.messages, LineKind.unknown, LineKind.raises,
      Bool.false_eq_true, if_false]
    by_cases htoken : lineToken line = []
    · rw [if_neg (not_not_intro htoken), if_pos htoken]
      rfl
    · rw [if_pos htoken, if_neg htoken]
      rfl

theorem toCounts_storeLog (sentenceType : Text) (parsed : Checked AsciiSnapshot) :
    (c.storeLog ts sentenceType parsed).toCounts =
      { c.toCounts with
        unknownAsciiTypes :=
          c.unknownAsciiTypes.addAll (if Inside parsed then [] else [sentenceType]) } := by
  cases parsed with
  | value snapshot => exact toCounts_updateAscii c ts snapshot
  | refused => rfl
  | outside => rfl

theorem toCounts_handleUnicoreAsciiLine {line : Text} (hhead : line.head? = some hash) :
    (c.handleUnicoreAsciiLine ts line).toCounts =
      let kind : LineKind :=
        if validateUnicoreAscii line then .unicore (lineFields line)
        else .badUnicore (lineToken line)
      { c.toCounts with
        toCaptureState := c.toCaptureState.handleUnicoreAsciiLine line
        messageCounters := accumulate MessageCounter.add c.messageCounters
          (kind.messages.map fun name => (name, ts))
        unknownAsciiTypes := c.unknownAsciiTypes.addAll kind.unknown } := by
  have hempty : knownUnicoreAsciiTypes.contains ([] : Text) = false := by decide
  rw [handleUnicoreAsciiLine, CaptureState.handleUnicoreAsciiLine]
  by_cases hvalid : validateUnicoreAscii line = true
  · simp only [if_pos hvalid, LineKind.messages, LineKind.unknown, lineToken_eq (.inr hhead)]
    generalize (lineFields line).headD [] = sentenceType
    by_cases hknown : knownUnicoreAsciiTypes.contains sentenceType = true
    · have hne : sentenceType ≠ [] := by
        rintro rfl
        exact Bool.noConfusion (hempty.symm.trans hknown)
      simp only [hknown, hne, ne_eq, not_false_eq_true, and_self, if_true, not_true_eq_false,
        and_false, if_false, true_and, toCounts_storeLog]
      rfl
    · rw [Bool.not_eq_true] at hknown
      by_cases hne : sentenceType = []
      · simp only [hne, ne_eq, not_true_eq_false, false_and, if_false, if_true]
        rfl
      · simp only [hknown, hne, ne_eq, not_false_eq_true, Bool.false_eq_true, and_false, false_and,
          if_false, and_self, if_true]
        rfl
  · simp only [if_neg hvalid, LineKind.messages, LineKind.unknown]
    by_cases hknown : knownUnicoreAsciiTypes.contains (lineToken line) = true
    · have hne : lineToken line ≠ [] := by
        intro hnil
        rw [hnil, hempty] at hknown
        exact Bool.noConfusion hknown
      simp only [hknown, hne, ne_eq, not_false_eq_true, and_self, if_true, not_true_eq_false,
        and_false, if_false, or_true]
      rfl
    · rw [Bool.not_eq_true] at hknown
      by_cases hne : lineToken line = []
      · simp only [hne, ne_eq, not_true_eq_false, false_and, if_false, true_or, if_true]
        rfl
      · simp only [hknown, hne, ne_eq, not_false_eq_true, Bool.false_eq_true, and_false, or_self,
          if_false, and_self, if_true]
        rfl

/-- **A line** is counted by its kind, unless it raises an exception. -/
theorem toCounts_handleLine (rawLine : Bytes) :
    (c.handleLine ts rawLine).map toCounts =
      if (kindOfLine rawLine).raises then none else some (c.toCounts.countLine ts rawLine) := by
  rw [handleLine, Counts.countLine, kindOfLine, CaptureState.handleLine]
  by_cases hgarbage : looksBinaryGarbage rawLine = true
  · simp only [if_pos hgarbage]
    rfl
  · simp only [if_neg hgarbage]
    by_cases hdollar : (decodeAscii rawLine).head? = some dollar
    · simp only [if_pos hdollar]
      exact toCounts_handleNmeaLine _ _ _
    · simp only [if_neg hdollar]
      by_cases hhash : (decodeAscii rawLine).head? = some hash
      · simp only [if_pos hhash]
        have hquiet : (if validateUnicoreAscii (decodeAscii rawLine) = true then
            LineKind.unicore (lineFields (decodeAscii rawLine))
              else LineKind.badUnicore (lineToken (decodeAscii rawLine))).raises = false := by
          split_ifs <;> rfl
        rw [hquiet, if_neg Bool.false_ne_true, Option.map_some]
        exact congrArg some (toCounts_handleUnicoreAsciiLine _ _ hhash)
      · simp only [if_neg hhash]
        rfl

end Capture

/-! ### Frames -/

/-- The id is one that the validator knows. -/
def IsKnownFrame (frame : BinaryFrame) : Prop :=
  (knownBinaryIds.lookup frame.messageId).isSome

instance (frame : BinaryFrame) : Decidable (IsKnownFrame frame) :=
  inferInstanceAs (Decidable (_ = true))

/-- The frame leaves a snapshot. -/
def IsParsedFrame (frame : BinaryFrame) : Prop :=
  (parseFrame frame.messageId frame.payload).toOption.isSome

instance (frame : BinaryFrame) : Decidable (IsParsedFrame frame) :=
  inferInstanceAs (Decidable (_ = true))

/-- What is counted for a frame. -/
def Counts.countFrame (s : Counts) (ts : ℚ) (frame : BinaryFrame) : Counts :=
  { s with
    binaryFramesTotal := s.binaryFramesTotal + 1
    messageCounters := accumulate MessageCounter.add s.messageCounters
      [(frameName frame.messageId, ts)]
    unknownBinaryIds :=
      s.unknownBinaryIds.addAll (if IsKnownFrame frame then [] else [frame.messageId])
    binaryKnownButUnparsed := s.binaryKnownButUnparsed +
      if IsKnownFrame frame ∧ ¬ IsParsedFrame frame then 1 else 0 }

/-- **A frame** is counted. -/
theorem Capture.toCounts_handleBinaryFrame (c : Capture) (ts : ℚ) (frame : BinaryFrame) :
    (c.handleBinaryFrame ts frame).toCounts = c.toCounts.countFrame ts frame := by
  rw [handleBinaryFrame, Counts.countFrame]
  by_cases hknown : IsKnownFrame frame
  · have hnone : (knownBinaryIds.lookup frame.messageId).isNone ≠ true := by
      rw [ne_eq, Option.isNone_iff_eq_none]
      exact Option.isSome_iff_ne_none.mp hknown
    simp only [if_neg hnone, hknown, true_and, if_true]
    by_cases hparsed : IsParsedFrame frame
    · obtain ⟨snapshot, hsnapshot⟩ := Option.isSome_iff_exists.mp hparsed
      simp only [hsnapshot, Option.elim_some, if_neg (not_not_intro hparsed),
        toCounts_updateBinary]
      rfl
    · have hnone' : (parseFrame frame.messageId frame.payload).toOption = none := by
        rw [← Option.not_isSome_iff_eq_none]
        exact hparsed
      simp only [hnone', Option.elim_none, if_pos hparsed]
      rfl
  · have hnone : (knownBinaryIds.lookup frame.messageId).isNone = true := by
      rw [Option.isNone_iff_eq_none, ← Option.not_isSome_iff_eq_none]
      exact hknown
    simp only [if_pos hnone, hknown, false_and, if_false]
    rfl

/-! ### Runs -/

/-- The text of a line. -/
def TransportEvent.line? : TransportEvent → Option Bytes
  | .line rawLine => some rawLine
  | .binary _ => none

/-- The frame. -/
def TransportEvent.frame? : TransportEvent → Option BinaryFrame
  | .line _ => none
  | .binary frame => some frame

/-- The lines among the events. -/
def linesOf (events : List (ℚ × TransportEvent)) : List Bytes :=
  events.filterMap fun event => event.2.line?

/-- The frames. -/
def framesOf (events : List (ℚ × TransportEvent)) : List BinaryFrame :=
  events.filterMap fun event => event.2.frame?

/-- What is counted for an event. -/
def Counts.countEvent (s : Counts) (event : ℚ × TransportEvent) : Counts :=
  match event.2 with
  | .line rawLine => s.countLine event.1 rawLine
  | .binary frame => s.countFrame event.1 frame

/-- An exception leaves the handler of the event. -/
def TransportEvent.raises : TransportEvent → Bool
  | .line rawLine => (kindOfLine rawLine).raises
  | .binary _ => false

theorem Capture.toCounts_handleEvent (c : Capture) (event : ℚ × TransportEvent) :
    (c.handleEvent event).map toCounts =
      if event.2.raises then none else some (c.toCounts.countEvent event) := by
  obtain ⟨ts, event⟩ := event
  cases event with
  | line rawLine => exact c.toCounts_handleLine ts rawLine
  | binary frame => exact congrArg some (c.toCounts_handleBinaryFrame ts frame)

/-- **The events of a chunk** are counted, unless one raises an exception. -/
theorem Capture.toCounts_run (c : Capture) (events : List (ℚ × TransportEvent)) :
    (PartialRun.run handleEvent c events).map toCounts =
      if events.any fun event => event.2.raises then none
      else some (events.foldl Counts.countEvent c.toCounts) :=
  PartialRun.map_run toCounts _ Counts.countEvent toCounts_handleEvent c events

namespace LineKind

/-- Is the line an NMEA sentence with a good checksum? -/
def isNmea : LineKind → Bool
  | nmea _ => true
  | _ => false

/-- Is the line an NMEA sentence with a bad checksum? -/
def isBadNmea : LineKind → Bool
  | badNmea _ => true
  | _ => false

/-- Is the line a Unicore log with a good CRC? -/
def isUnicore : LineKind → Bool
  | unicore _ => true
  | _ => false

/-- Is the line a Unicore log with a bad CRC? -/
def isBadUnicore : LineKind → Bool
  | badUnicore _ => true
  | _ => false

end LineKind

/-- The counts of the lines, by their kinds. -/
theorem CaptureState.handleLine_eq (s : CaptureState) (rawLine : Bytes) :
    s.handleLine rawLine = {
      asciiLinesTotal := s.asciiLinesTotal + 1
      nmeaChecksumOk := s.nmeaChecksumOk + if (kindOfLine rawLine).isNmea then 1 else 0
      nmeaChecksumBad := s.nmeaChecksumBad + if (kindOfLine rawLine).isBadNmea then 1 else 0
      unicoreAsciiCrcOk := s.unicoreAsciiCrcOk + if (kindOfLine rawLine).isUnicore then 1 else 0
      unicoreAsciiCrcBad :=
        s.unicoreAsciiCrcBad + if (kindOfLine rawLine).isBadUnicore then 1 else 0 } := by
  rw [handleLine, kindOfLine]
  by_cases hgarbage : looksBinaryGarbage rawLine = true
  · simp only [if_pos hgarbage]
    rfl
  · simp only [if_neg hgarbage]
    by_cases hdollar : (decodeAscii rawLine).head? = some dollar
    · simp only [if_pos hdollar, handleNmeaLine]
      by_cases hvalid : validateNmea (decodeAscii rawLine) = true
      · simp only [if_pos hvalid]
        rfl
      · simp only [if_neg hvalid]
        rfl
    · simp only [if_neg hdollar]
      by_cases hhash : (decodeAscii rawLine).head? = some hash
      · simp only [if_pos hhash, handleUnicoreAsciiLine]
        by_cases hvalid : validateUnicoreAscii (decodeAscii rawLine) = true
        · simp only [if_pos hvalid]
          rfl
        · simp only [if_neg hvalid]
          rfl
      · simp only [if_neg hhash]
        rfl

/-- The messages that are counted for an event. -/
def TransportEvent.messages : TransportEvent → List Text
  | .line rawLine => (kindOfLine rawLine).messages
  | .binary frame => [frameName frame.messageId]

/-- Each with the time of the event. -/
def recordsOf (event : ℚ × TransportEvent) : List (Text × ℚ) :=
  event.2.messages.map fun name => (name, event.1)

/-- The books for some bytes and the events cut out of them. -/
def Counts.ofEvents (totalBytes : ℕ) (events : List (ℚ × TransportEvent)) : Counts where
  asciiLinesTotal := (linesOf events).length
  nmeaChecksumOk := (linesOf events).countP fun rawLine => (kindOfLine rawLine).isNmea
  nmeaChecksumBad := (linesOf events).countP fun rawLine => (kindOfLine rawLine).isBadNmea
  unicoreAsciiCrcOk := (linesOf events).countP fun rawLine => (kindOfLine rawLine).isUnicore
  unicoreAsciiCrcBad := (linesOf events).countP fun rawLine => (kindOfLine rawLine).isBadUnicore
  totalBytes := totalBytes
  binaryFramesTotal := (framesOf events).length
  binaryKnownButUnparsed :=
    (framesOf events).countP fun frame => IsKnownFrame frame ∧ ¬ IsParsedFrame frame
  messageCounters := LiveValidate.messageCounters (events.flatMap recordsOf)
  unknownAsciiTypes :=
    Tally.addAll ∅ ((linesOf events).flatMap fun rawLine => (kindOfLine rawLine).unknown)
  unknownBinaryIds := Tally.addAll ∅ ((framesOf events).flatMap fun frame =>
    if IsKnownFrame frame then [] else [frame.messageId])

theorem linesOf_append (events more : List (ℚ × TransportEvent)) :
    linesOf (events ++ more) = linesOf events ++ linesOf more := List.filterMap_append

theorem framesOf_append (events more : List (ℚ × TransportEvent)) :
    framesOf (events ++ more) = framesOf events ++ framesOf more := List.filterMap_append

theorem messageCounters_append (records more : List (Text × ℚ)) :
    messageCounters (records ++ more) =
      accumulate MessageCounter.add (messageCounters records) more := List.foldl_append

/-- One more event. -/
theorem Counts.ofEvents_concat (totalBytes : ℕ) (events : List (ℚ × TransportEvent))
    (event : ℚ × TransportEvent) :
    ofEvents totalBytes (events ++ [event]) = (ofEvents totalBytes events).countEvent event := by
  obtain ⟨ts, event⟩ := event
  cases event with
  | line rawLine =>
    have hlines : linesOf [(ts, TransportEvent.line rawLine)] = [rawLine] := rfl
    have hframes : framesOf [(ts, TransportEvent.line rawLine)] = [] := rfl
    show _ = (ofEvents totalBytes events).countLine ts rawLine
    rw [countLine, CaptureState.handleLine_eq]
    simp only [ofEvents, linesOf_append, framesOf_append, hlines, hframes, List.flatMap_append,
      List.flatMap_singleton, List.countP_append, List.countP_singleton, List.length_append,
      List.length_singleton, List.append_nil, messageCounters_append, Tally.addAll_append]
    rfl
  | binary frame =>
    have hlines : linesOf [(ts, TransportEvent.binary frame)] = [] := rfl
    have hframes : framesOf [(ts, TransportEvent.binary frame)] = [frame] := rfl
    show _ = (ofEvents totalBytes events).countFrame ts frame
    rw [countFrame]
    simp only [ofEvents, linesOf_append, framesOf_append, hlines, hframes, List.flatMap_append,
      List.flatMap_singleton, List.countP_append, List.countP_singleton, List.length_append,
      List.length_singleton, List.append_nil, messageCounters_append, Tally.addAll_append]
    rw [if_congr (decide_eq_true_iff (p := IsKnownFrame frame ∧ ¬ IsParsedFrame frame)) rfl rfl]
    rfl

/-- **Further events.** -/
theorem Counts.foldl_ofEvents (totalBytes : ℕ) (events more : List (ℚ × TransportEvent)) :
    more.foldl countEvent (ofEvents totalBytes events) = ofEvents totalBytes (events ++ more) := by
  induction more using List.reverseRecOn with
  | nil => rw [List.foldl_nil, List.append_nil]
  | append_singleton more event ih =>
    rw [List.foldl_append, ih, ← List.append_assoc, ofEvents_concat]
    rfl

/-- The chunks that are processed. A read that has timed out brings none. -/
def received (chunks : List (Bytes × ℚ)) : List (Bytes × ℚ) :=
  chunks.filter fun chunk => chunk.1 ≠ []

/-- The events of a capture. -/
def capturedEvents (maxFrameSize : ℕ) (chunks : List (Bytes × ℚ)) : List (ℚ × TransportEvent) :=
  ((TransportParser.init maxFrameSize).feedAll (received chunks)).1

theorem TransportParser.feedAll_cons (chunk : Bytes × ℚ) (chunks : List (Bytes × ℚ))
    (p : TransportParser) :
    p.feedAll (chunk :: chunks) =
      ((p.feed chunk.1 chunk.2).1 ++ ((p.feed chunk.1 chunk.2).2.feedAll chunks).1,
        ((p.feed chunk.1 chunk.2).2.feedAll chunks).2) := rfl

theorem TransportParser.feedAll_concat (chunks : List (Bytes × ℚ)) (chunk : Bytes × ℚ)
    (p : TransportParser) :
    p.feedAll (chunks ++ [chunk]) =
      ((p.feedAll chunks).1 ++ ((p.feedAll chunks).2.feed chunk.1 chunk.2).1,
        ((p.feedAll chunks).2.feed chunk.1 chunk.2).2) := by
  induction chunks generalizing p with
  | nil =>
    rw [List.nil_append, feedAll_cons]
    exact congrArg (·, _) (List.append_nil _)
  | cons first chunks ih =>
    rw [List.cons_append, feedAll_cons, feedAll_cons, ih, List.append_assoc]

theorem received_concat {chunk : Bytes × ℚ} (hchunk : chunk.1 ≠ []) (chunks : List (Bytes × ℚ)) :
    received (chunks ++ [chunk]) = received chunks ++ [chunk] := by
  rw [received, List.filter_append, List.filter_cons_of_pos (by simpa using hchunk)]
  rfl

theorem received_concat_nil {chunk : Bytes × ℚ} (hchunk : chunk.1 = [])
    (chunks : List (Bytes × ℚ)) : received (chunks ++ [chunk]) = received chunks := by
  rw [received, List.filter_append, List.filter_cons_of_neg (by simpa using hchunk)]
  exact List.append_nil _

/-- One more chunk takes back no event. -/
theorem capturedEvents_subset_concat (maxFrameSize : ℕ) (chunks : List (Bytes × ℚ))
    (chunk : Bytes × ℚ) :
    capturedEvents maxFrameSize chunks ⊆ capturedEvents maxFrameSize (chunks ++ [chunk]) := by
  rw [capturedEvents, capturedEvents]
  by_cases hchunk : chunk.1 = []
  · rw [received_concat_nil hchunk]
    exact List.Subset.refl _
  · rw [received_concat hchunk, TransportParser.feedAll_concat]
    exact List.subset_append_left _ _

/-- The events of one more chunk. -/
def Validator.newEvents (v : Validator) (chunk : Bytes × ℚ) : List (ℚ × TransportEvent) :=
  if chunk.1 = [] then [] else (v.processBytes chunk.1 chunk.2).1

/-- A validator that has read some chunks: what it shows is what the framer has made of them. -/
structure HasRead (maxFrameSize : ℕ) (chunks : List (Bytes × ℚ)) (v : Validator) : Prop where
  transport : v.transport = ((TransportParser.init maxFrameSize).feedAll (received chunks)).2
  state : v.state = v.transport.captureState
  counts : v.capture.toCounts =
    .ofEvents (bytesOf chunks).length (capturedEvents maxFrameSize chunks)

namespace HasRead

variable {maxFrameSize : ℕ} {chunks : List (Bytes × ℚ)} {v : Validator} {chunk : Bytes × ℚ}

theorem init : HasRead maxFrameSize [] (.init maxFrameSize) := ⟨rfl, rfl, rfl⟩

/-- The framer after one more chunk. -/
theorem feedAll_concat (h : HasRead maxFrameSize chunks v) (hchunk : chunk.1 ≠ []) :
    (TransportParser.init maxFrameSize).feedAll (received (chunks ++ [chunk])) =
      (capturedEvents maxFrameSize chunks ++ (v.transport.feed chunk.1 chunk.2).1,
        (v.transport.feed chunk.1 chunk.2).2) := by
  rw [received_concat hchunk, TransportParser.feedAll_concat, ← h.transport]
  rfl

theorem capturedEvents_concat (h : HasRead maxFrameSize chunks v) :
    capturedEvents maxFrameSize (chunks ++ [chunk]) =
      capturedEvents maxFrameSize chunks ++ v.newEvents chunk := by
  rw [Validator.newEvents]
  by_cases hchunk : chunk.1 = []
  · rw [capturedEvents, received_concat_nil hchunk, if_pos hchunk, List.append_nil]
    rfl
  · rw [capturedEvents, h.feedAll_concat hchunk, if_neg hchunk]
    rfl

/-- **One turn** of the loop. -/
theorem processChunk {next : Validator} (h : HasRead maxFrameSize chunks v)
    (hnext : v.processChunk chunk = some next) : HasRead maxFrameSize (chunks ++ [chunk]) next := by
  have hevents : capturedEvents maxFrameSize (chunks ++ [chunk]) =
      capturedEvents maxFrameSize chunks ++ v.newEvents chunk := h.capturedEvents_concat
  have hbytes : (bytesOf (chunks ++ [chunk])).length =
      (bytesOf chunks).length + chunk.1.length := by
    rw [bytesOf, List.flatMap_append, List.flatMap_singleton, List.length_append]
    rfl
  rw [Validator.processChunk] at hnext
  rw [Validator.newEvents] at hevents
  by_cases hchunk : chunk.1 = []
  · rw [if_pos hchunk] at hnext hevents
    obtain rfl := Option.some.inj hnext
    refine ⟨?_, h.state, ?_⟩
    · rw [received_concat_nil hchunk]
      exact h.transport
    · rw [hbytes, hevents, hchunk, List.append_nil]
      exact h.counts
  · have hprocessed := LiveValidator.transport_processBytes v.toLiveValidator chunk.1 chunk.2
    rw [if_neg hchunk] at hnext hevents
    obtain ⟨capture, hcapture, rfl⟩ := Option.map_eq_some_iff.mp hnext
    refine ⟨?_, ?_, ?_⟩
    · rw [h.feedAll_concat hchunk]
      exact hprocessed.1
    · show (v.processBytes chunk.1 chunk.2).2.state =
        (v.processBytes chunk.1 chunk.2).2.transport.captureState
      rw [hprocessed.1]
      exact hprocessed.2
    · have hcounts := Capture.toCounts_run
        { v.capture with totalBytes := v.capture.totalBytes + chunk.1.length }
        (v.processBytes chunk.1 chunk.2).1
      rw [hcapture, Option.map_some] at hcounts
      split_ifs at hcounts
      rw [hbytes, hevents]
      refine (Option.some.inj hcounts).trans ?_
      show List.foldl _ { v.capture.toCounts with
        totalBytes := v.capture.toCounts.totalBytes + chunk.1.length } _ = _
      rw [h.counts]
      exact Counts.foldl_ofEvents _ _ _

/-- **A capture** that has come to its end: every event is in the books, and nothing else is. -/
theorem run (h : (Validator.init maxFrameSize).run chunks = some v) :
    HasRead maxFrameSize chunks v :=
  PartialRun.invariant init (fun _ _ _ _ _ hread hnext => hread.processChunk hnext) h

end HasRead

/-- One turn ends in an exception exactly if an event of the chunk raises one. -/
theorem Validator.isSome_processChunk (v : Validator) (chunk : Bytes × ℚ) :
    (v.processChunk chunk).isSome = !(v.newEvents chunk).any fun event => event.2.raises := by
  rw [processChunk, newEvents]
  split_ifs with hchunk
  · rfl
  · have hcounts := congrArg Option.isSome (Capture.toCounts_run
      { v.capture with totalBytes := v.capture.totalBytes + chunk.1.length }
      (v.processBytes chunk.1 chunk.2).1)
    rw [Option.isSome_map] at hcounts ⊢
    rw [hcounts]
    cases (v.processBytes chunk.1 chunk.2).1.any fun event => event.2.raises <;> rfl

/-- **A capture comes to its end** exactly if no event raises an exception. -/
theorem Validator.isSome_run (maxFrameSize : ℕ) (chunks : List (Bytes × ℚ)) :
    ((Validator.init maxFrameSize).run chunks).isSome =
      !(capturedEvents maxFrameSize chunks).any fun event => event.2.raises := by
  induction chunks using List.reverseRecOn with
  | nil => rfl
  | append_singleton chunks chunk ih =>
    rw [Validator.run, PartialRun.run_concat, ← Validator.run]
    cases hrun : (Validator.init maxFrameSize).run chunks with
    | none =>
      rw [hrun, Option.isSome_none, eq_comm, Bool.not_eq_false'] at ih
      obtain ⟨event, hevent, hraises⟩ := List.any_eq_true.mp ih
      have hlater := capturedEvents_subset_concat maxFrameSize chunks chunk hevent
      rw [Option.bind_none, Option.isSome_none, eq_comm, Bool.not_eq_false']
      exact List.any_eq_true.mpr ⟨event, hlater, hraises⟩
    | some v =>
      rw [hrun, Option.isSome_some, eq_comm, Bool.not_eq_true'] at ih
      rw [Option.bind_some, isSome_processChunk, (HasRead.run hrun).capturedEvents_concat,
        List.any_append, ih, Bool.false_or]

end UnicoreGnss.LiveValidate
