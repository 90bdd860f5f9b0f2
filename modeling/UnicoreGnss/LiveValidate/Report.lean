import UnicoreGnss.LiveValidate.Accounting
import UnicoreGnss.LiveValidate.FrameAgreement
import UnicoreGnss.LiveValidate.FramerAgreement
import UnicoreGnss.Transport.Noise

/-!
# What a report without warnings says

At the end of a capture `tools/unicore_live_validate.py` warns of what was wrong with the stream. A
report without such a warning says that nothing was thrown away and that every line and frame is one
the validator knows. Since the driver cuts the same bytes at the same places and reads the same
frames, it says something about the driver too, which has not seen the stream. A capture that an
exception has ended makes no report.

## Main definitions

* `Validator.streamWarnings` — the warnings, as `_build_summary` collects them
* `TransportEvent.IsClean` — a line or a frame of which nothing is reported

## Main results

* `streamWarnings_run_eq` — what the warnings say
* `streamWarnings_eq_nil_iff` — when there is none
* `driver_reads_of_streamWarnings_eq_nil` — what this says about the driver
-/

namespace UnicoreGnss

open FirstMatch

namespace UnicoreTransport

variable {t t' : UnicoreTransport}

theorem errors_countSyncCandidate :
    t.countSyncCandidate.binaryCounters.crcErrors = t.binaryCounters.crcErrors ∧
      t.countSyncCandidate.binaryCounters.resyncCount = t.binaryCounters.resyncCount := by
  unfold UnicoreTransport.countSyncCandidate
  split <;> exact ⟨rfl, rfl⟩

/-- The transport is strict and has skipped a byte for every wrong CRC. -/
def Skips (t : UnicoreTransport) : Prop :=
  (t.options.enableBinary = true ∧ t.options.strictBinaryCrc = true) ∧
    t.binaryCounters.crcErrors ≤ t.binaryCounters.resyncCount

theorem Skips.countSyncCandidate (h : t.Skips) : t.countSyncCandidate.Skips := by
  rw [Skips, options_countSyncCandidate, errors_countSyncCandidate.1, errors_countSyncCandidate.2]
  exact h

theorem Skips.discard (h : t.Skips) (n : ℕ) : (t.discard n).Skips := ⟨h.1, Nat.le_succ_of_le h.2⟩

theorem Skips.stop (h : t.Skips) (hpass : t.drainPass = .stop t') : t'.Skips := by
  have hcase := passCase_drainPass t
  rw [hpass] at hcase
  cases hcase with
  | empty _ => exact h
  | asciiWait _ _ => exact h
  | await _ _ _ => exact h.countSyncCandidate
  | hold _ _ _ _ => exact h

theorem Skips.next {seg : Segment} (h : t.Skips) (hseg : SegmentCase t seg t') : t'.Skips := by
  cases hseg with
  | tooLarge _ _ _ => exact h.countSyncCandidate.discard 1
  | crcReject _ _ _ _ _ =>
    have hcounted := h.countSyncCandidate
    exact ⟨hcounted.1, Nat.succ_le_succ hcounted.2⟩
  | frame _ _ _ _ => exact h.countSyncCandidate
  | frameLenient _ _ _ _ hstrict => exact absurd (hstrict.symm.trans h.1.2) Bool.false_ne_true
  | line _ _ _ => exact h
  | skip sync _ _ _ => exact h.discard sync
  | drop _ _ _ _ _ => exact h.discard 1

/-- **Every wrong CRC** costs the strict transport a byte. -/
theorem skips_run (maxFrameSize : ℕ) (calls : List (Call UInt8)) :
    (run calls (fresh (binaryOptions true maxFrameSize))).2.Skips := by
  rw [run_eq_history]
  refine history_induction (P := fun t _ _ => t.Skips) (fun _ _ _ _ h => h)
    (fun _ _ _ _ hstop h => h.stop hstop) ?_ calls (fresh (binaryOptions true maxFrameSize)) [] []
    ⟨⟨rfl, rfl⟩, le_rfl⟩
  intro t out t' u segs hnext h
  exact h.next (segmentCase_of_next h.1.1 hnext).1

end UnicoreTransport

namespace LiveValidate

open Checked Summaries CNumber

/-! ### The warnings -/

/-- A warning that ends in a number, unless the number is 0. -/
def countWarning (text : Text) (n : ℕ) : List Text := if 0 < n then [text ++ decimal n] else []

/-- A warning that ends in a list, unless the list is empty. -/
def listWarning (text : Text) (items : List Text) : List Text :=
  if items = [] then [] else [text ++ (ascii ", ").intercalate items]

/-- The items of a dictionary, without some keys, in the order of the others. -/
def itemTexts {κ : Type} [DecidableEq κ] [LE κ] [DecidableLE κ] (keyText : κ → Text)
    (exempt : List κ) (t : Tally κ) : List Text :=
  ((t.keys.filter fun key => key ∉ exempt).mergeSort fun a b => a ≤ b).map fun key =>
    keyText key ++ ascii "x" ++ decimal (t.count key)

/-- The warnings of `_build_summary` about what was wrong with the stream, in its order. Those that
have to do with the commands or the command line are left out, and so is what is done with the
positions afterwards. -/
def Validator.streamWarnings (v : Validator) : List Text :=
  countWarning (ascii "Binary CRC errors observed: ") v.state.binaryCrcErrors ++
    countWarning (ascii "NMEA checksum errors observed: ") v.capture.nmeaChecksumBad ++
    countWarning (ascii "Unicore ASCII CRC errors observed: ") v.capture.unicoreAsciiCrcBad ++
    countWarning (ascii "Binary transport resynchronizations observed: ")
      v.state.binaryResyncCount ++
    countWarning (ascii "Known binary frames seen but not fully parsed: ")
      v.capture.binaryKnownButUnparsed ++
    listWarning (ascii "Unknown binary message IDs: ")
      (itemTexts decimal [] v.capture.unknownBinaryIds) ++
    listWarning (ascii "Unknown ASCII/NMEA logs: ")
      (itemTexts id [ascii "VERSIONA"] v.capture.unknownAsciiTypes)

theorem countWarning_eq_nil_iff (text : Text) (n : ℕ) : countWarning text n = [] ↔ n = 0 := by
  rw [countWarning]
  split_ifs <;> simp <;> omega

theorem listWarning_eq_nil_iff (text : Text) (items : List Text) :
    listWarning text items = [] ↔ items = [] := by
  rw [listWarning]
  split_ifs with h <;> simp [h]

theorem itemTexts_eq_nil_iff {κ : Type} [DecidableEq κ] [LE κ] [DecidableLE κ]
    (keyText : κ → Text) (exempt : List κ) (t : Tally κ) :
    itemTexts keyText exempt t = [] ↔ t.OnlyIn exempt := by
  rw [itemTexts, List.map_eq_nil_iff, ← List.length_eq_zero_iff, List.length_mergeSort,
    List.length_eq_zero_iff, List.filter_eq_nil_iff, Tally.OnlyIn]
  simp only [decide_eq_true_eq, not_not]

/-- Keys that have come up, with how often they have, without some of them and in the order of the
others. -/
def tallyTexts {κ : Type} [DecidableEq κ] [LE κ] [DecidableLE κ] (keyText : κ → Text)
    (exempt keys : List κ) : List Text :=
  ((keys.dedup.filter fun key => key ∉ exempt).mergeSort fun a b => a ≤ b).map fun key =>
    keyText key ++ ascii "x" ++ decimal (keys.count key)

/-- The order in which the keys have come up does not show. -/
theorem itemTexts_addAll {κ : Type} [DecidableEq κ] [LE κ] [DecidableLE κ]
    [Std.Total (α := κ) (· ≤ ·)] [IsTrans κ (· ≤ ·)] [Std.Antisymm (α := κ) (· ≤ ·)]
    (keyText : κ → Text) (exempt keys : List κ) :
    itemTexts keyText exempt (Tally.addAll ∅ keys) = tallyTexts keyText exempt keys := by
  have hcount : ∀ key, (Tally.addAll ∅ keys).count key = keys.count key := by
    intro key
    rw [Tally.count_addAll]
    exact Nat.zero_add _
  rw [itemTexts, tallyTexts, Tally.mergeSort_keys_addAll (· ≤ ·)]
  simp only [hcount]

/-- When there is no warning, counter by counter. -/
theorem streamWarnings_eq_nil (v : Validator) :
    v.streamWarnings = [] ↔
      (v.state.binaryCrcErrors = 0 ∧ v.state.binaryResyncCount = 0) ∧
        (v.capture.nmeaChecksumBad = 0 ∧ v.capture.unicoreAsciiCrcBad = 0 ∧
          v.capture.unknownAsciiTypes.OnlyIn [ascii "VERSIONA"]) ∧
        v.capture.binaryKnownButUnparsed = 0 ∧ v.capture.unknownBinaryIds.OnlyIn [] := by
  simp only [Validator.streamWarnings, List.append_eq_nil_iff, countWarning_eq_nil_iff,
    listWarning_eq_nil_iff, itemTexts_eq_nil_iff]
  tauto

/-! ### Clean lines and frames -/

/-- Nothing about the line is reported, nor does it keep the report from being made. -/
def LineKind.IsClean : LineKind → Prop
  | garbage => True
  | nmea fields =>
    (nmea fields).raises = false ∧
      (knownNmeaSuffixes.contains (sentenceSuffix (fields.headD [])) ∨
        knownNmeaTypes.contains (fields.headD []) ∨ fields.headD [] = ascii "VERSIONA")
  | badNmea _ => False
  | unicore fields =>
    knownUnicoreAsciiTypes.contains (fields.headD []) ∧ Inside (parseLog (fields.headD []) fields)
  | badUnicore _ => False
  | other token => token = ascii "VERSIONA"

instance : DecidablePred LineKind.IsClean
  | .garbage => inferInstanceAs (Decidable True)
  | .nmea _ => inferInstanceAs (Decidable (_ ∧ (_ ∨ _ ∨ _)))
  | .badNmea _ => inferInstanceAs (Decidable False)
  | .unicore _ => inferInstanceAs (Decidable (_ ∧ Inside _))
  | .badUnicore _ => inferInstanceAs (Decidable False)
  | .other _ => inferInstanceAs (Decidable (_ = _))

/-- A type without a parser. -/
theorem parseLog_versiona (fields : List Text) : parseLog (ascii "VERSIONA") fields = refused := by
  rw [parseLog]
  repeat rw [if_neg (by decide)]

/-- A clean line adds to no count that is reported and raises no exception. -/
theorem LineKind.isClean_iff (kind : LineKind) :
    kind.IsClean ↔ kind.raises = false ∧ kind.isBadNmea = false ∧ kind.isBadUnicore = false ∧
      ∀ name ∈ kind.unknown, name ∈ [ascii "VERSIONA"] := by
  cases kind with
  | garbage => simp [IsClean, raises, isBadNmea, isBadUnicore, unknown]
  | nmea fields =>
    simp only [IsClean, isBadNmea, isBadUnicore, unknown, true_and]
    refine and_congr_right fun _ => ?_
    split_ifs with hknown
    · simp only [List.not_mem_nil, false_imp_iff, implies_true, iff_true]
      tauto
    · simp only [List.mem_singleton, forall_eq]
      tauto
  | badNmea token => simp [IsClean, isBadNmea]
  | unicore fields =>
    simp only [IsClean, raises, isBadNmea, isBadUnicore, unknown, true_and]
    split_ifs with hknown
    · simp only [List.not_mem_nil, false_imp_iff, implies_true, iff_true]
      exact hknown
    · simp only [List.mem_singleton, forall_eq]
      refine iff_of_false hknown fun hversion => hknown ?_
      rw [hversion, parseLog_versiona]
      exact ⟨by decide, trivial⟩
  | badUnicore token => simp [IsClean, isBadUnicore]
  | other token => simp [IsClean, raises, isBadNmea, isBadUnicore, unknown]

/-- Nothing about the event is reported. -/
def TransportEvent.IsClean : TransportEvent → Prop
  | .line rawLine => (kindOfLine rawLine).IsClean
  | .binary frame => IsKnownFrame frame ∧ IsParsedFrame frame

instance : DecidablePred TransportEvent.IsClean
  | .line rawLine => inferInstanceAs (Decidable (kindOfLine rawLine).IsClean)
  | .binary _ => inferInstanceAs (Decidable (_ ∧ _))

/-- The lines and the frames of some events are clean if the events are. -/
theorem forall_isClean_iff (events : List (ℚ × TransportEvent)) :
    (∀ event ∈ events, event.2.IsClean) ↔
      (∀ rawLine ∈ linesOf events, (kindOfLine rawLine).IsClean) ∧
        ∀ frame ∈ framesOf events, IsKnownFrame frame ∧ IsParsedFrame frame := by
  induction events with
  | nil => simp [linesOf, framesOf]
  | cons event events ih =>
    obtain ⟨ts, event⟩ := event
    rw [List.forall_mem_cons, ih]
    cases event with
    | line rawLine =>
      have hlines : linesOf ((ts, .line rawLine) :: events) = rawLine :: linesOf events := rfl
      have hframes : framesOf ((ts, .line rawLine) :: events) = framesOf events := rfl
      rw [hlines, hframes, List.forall_mem_cons, TransportEvent.IsClean, and_assoc]
    | binary frame =>
      have hlines : linesOf ((ts, .binary frame) :: events) = linesOf events := rfl
      have hframes : framesOf ((ts, .binary frame) :: events) = frame :: framesOf events := rfl
      rw [hlines, hframes, List.forall_mem_cons, TransportEvent.IsClean]
      tauto

/-- A clean event lets the capture go on. -/
theorem TransportEvent.IsClean.raises_eq_false {event : TransportEvent} (h : event.IsClean) :
    event.raises = false := by
  cases event with
  | line rawLine => exact ((kindOfLine rawLine).isClean_iff.mp h).1
  | binary frame => rfl

/-- **The books** of a capture that came to its end show nothing exactly if every event is clean. -/
theorem counts_ofEvents_iff {s : Counts} {totalBytes : ℕ} {events : List (ℚ × TransportEvent)}
    (hs : s = .ofEvents totalBytes events)
    (hquiet : ∀ rawLine ∈ linesOf events, (kindOfLine rawLine).raises = false) :
    ((s.nmeaChecksumBad = 0 ∧ s.unicoreAsciiCrcBad = 0 ∧
        s.unknownAsciiTypes.OnlyIn [ascii "VERSIONA"]) ∧
      s.binaryKnownButUnparsed = 0 ∧ s.unknownBinaryIds.OnlyIn []) ↔
      ∀ event ∈ events, event.2.IsClean := by
  rw [forall_isClean_iff, hs]
  refine and_congr ?_ ?_
  · simp only [Counts.ofEvents, List.countP_eq_zero, Tally.onlyIn_addAll_iff, List.mem_flatMap,
      LineKind.isClean_iff, Bool.not_eq_true]
    constructor
    · rintro ⟨hnmea, hunicore, hunknown⟩ rawLine hline
      exact ⟨hquiet rawLine hline, hnmea rawLine hline, hunicore rawLine hline,
        fun name hname => hunknown name ⟨rawLine, hline, hname⟩⟩
    · intro h
      refine ⟨fun rawLine hline => (h rawLine hline).2.1,
        fun rawLine hline => (h rawLine hline).2.2.1, ?_⟩
      rintro name ⟨rawLine, hline, hname⟩
      exact (h rawLine hline).2.2.2 name hname
  · simp only [Counts.ofEvents, List.countP_eq_zero, Tally.onlyIn_addAll_iff, List.mem_flatMap,
      decide_eq_true_eq, not_and, not_not]
    constructor
    · rintro ⟨hparsed, hunknown⟩ frame hframe
      have hknown : IsKnownFrame frame := by
        by_contra hnot
        refine absurd (hunknown frame.messageId ⟨frame, hframe, ?_⟩) List.not_mem_nil
        rw [if_neg hnot]
        exact List.mem_singleton_self _
      exact ⟨hknown, hparsed frame hframe hknown⟩
    · intro h
      refine ⟨fun frame hframe _ => (h frame hframe).2, ?_⟩
      rintro name ⟨frame, hframe, hname⟩
      rwa [if_pos (h frame hframe).1] at hname

/-! ### Silent captures -/

/-- How the driver's transport cuts the bytes of some chunks. -/
def cutOf (maxFrameSize : ℕ) (chunks : List (Bytes × ℚ)) : List Segment :=
  (UnicoreTransport.history.run (feeding ((received chunks).map Prod.fst))
    (.fresh (binaryOptions true maxFrameSize))).1

section Silent

variable {maxFrameSize : ℕ}

/-- The driver's transport, fed with what the validator has read, skips as often. -/
theorem resyncCount_driverRun (maxFrameSize : ℕ) (chunks : List (Bytes × ℚ)) :
    (driverRun maxFrameSize ((received chunks).map Prod.fst)).2.binaryCounters.resyncCount =
      (cutOf maxFrameSize chunks).countP Segment.isDiscarded := by
  obtain ⟨-, -, done, -, hcounters⟩ := counted_run
    (o := binaryOptions true maxFrameSize) rfl (feeding ((received chunks).map Prod.fst)) []
  rw [driverRun, UnicoreTransport.run_eq_history, hcounters]
  rfl

/-- Reads that brought nothing leave no trace in what was received. -/
theorem bytesOf_received (chunks : List (Bytes × ℚ)) :
    bytesOf (received chunks) = bytesOf chunks := by
  induction chunks with
  | nil => rfl
  | cons chunk chunks ih =>
    have hcons : bytesOf (chunk :: chunks) = chunk.1 ++ bytesOf chunks := rfl
    rw [hcons, ← ih, received, List.filter_cons]
    split_ifs with hchunk
    · rfl
    · have hempty : chunk.1 = [] := by simpa using hchunk
      rw [hempty]
      rfl

/-- **There is a report** exactly if no line raises an exception. -/
theorem isSome_run_iff (maxFrameSize : ℕ) (chunks : List (Bytes × ℚ)) :
    ((Validator.init maxFrameSize).run chunks).isSome = true ↔
      ∀ rawLine ∈ linesOf (capturedEvents maxFrameSize chunks),
        (kindOfLine rawLine).raises = false := by
  rw [Validator.isSome_run, Bool.not_eq_true', List.any_eq_false]
  simp only [Bool.not_eq_true, linesOf, List.mem_filterMap]
  constructor
  · rintro h rawLine ⟨⟨ts, event⟩, hevent, hline⟩
    cases event with
    | line text => exact Option.some.inj hline ▸ h _ hevent
    | binary frame => cases hline
  · rintro h ⟨ts, event⟩ hevent
    cases event with
    | line text => exact h text ⟨_, hevent, rfl⟩
    | binary frame => rfl

/-- **What the warnings say**: the CRC errors are the syncs of the received bytes that are refused,
whatever chunks the bytes came in, and everything else is counted line by line and frame by frame.
There are none if a line has raised an exception. -/
theorem streamWarnings_run_eq (maxFrameSize : ℕ) (chunks : List (Bytes × ℚ)) :
    let lines := linesOf (capturedEvents maxFrameSize chunks)
    let frames := framesOf (capturedEvents maxFrameSize chunks)
    let limit := max 256 maxFrameSize
    (((Validator.init maxFrameSize).run chunks).isSome = true ↔
        ∀ rawLine ∈ lines, (kindOfLine rawLine).raises = false) ∧
      ∀ v, (Validator.init maxFrameSize).run chunks = some v → v.streamWarnings =
        countWarning (ascii "Binary CRC errors observed: ")
            ((verdicts (binaryOptions true limit) (bytesOf chunks)).count .refused) ++
          countWarning (ascii "NMEA checksum errors observed: ")
            (lines.countP fun rawLine => (kindOfLine rawLine).isBadNmea) ++
          countWarning (ascii "Unicore ASCII CRC errors observed: ")
            (lines.countP fun rawLine => (kindOfLine rawLine).isBadUnicore) ++
          countWarning (ascii "Binary transport resynchronizations observed: ")
            ((cutOf limit chunks).countP Segment.isDiscarded) ++
          countWarning (ascii "Known binary frames seen but not fully parsed: ")
            (frames.countP fun frame => IsKnownFrame frame ∧ ¬ IsParsedFrame frame) ++
          listWarning (ascii "Unknown binary message IDs: ")
            (tallyTexts decimal [] (frames.flatMap fun frame =>
              if IsKnownFrame frame then [] else [frame.messageId])) ++
          listWarning (ascii "Unknown ASCII/NMEA logs: ")
            (tallyTexts id [ascii "VERSIONA"]
              (lines.flatMap fun rawLine => (kindOfLine rawLine).unknown)) := by
  intro lines frames limit
  refine ⟨isSome_run_iff maxFrameSize chunks, fun v hrun => ?_⟩
  have hread := HasRead.run hrun
  have hagree := counters_agree (le_max_left 256 maxFrameSize) (received chunks)
  have hcrc : v.state.binaryCrcErrors =
      (verdicts (binaryOptions true limit) (bytesOf chunks)).count .refused := by
    rw [hread.state, hread.transport, ← bytesOf_received, ← binaryCrcErrors_feedAll]
    rfl
  have hresync : v.state.binaryResyncCount = (cutOf limit chunks).countP Segment.isDiscarded := by
    rw [← resyncCount_driverRun, ← hagree.resyncCount, hread.state, hread.transport,
      TransportParser.init_max]
    rfl
  rw [Validator.streamWarnings, hcrc, hresync, hread.counts]
  simp only [Counts.ofEvents, itemTexts_addAll]
  rfl

/-- A capture without warnings, in terms of the driver's transport. -/
theorem streamWarnings_run (h : 256 ≤ maxFrameSize) {chunks : List (Bytes × ℚ)} {v : Validator}
    (hrun : (Validator.init maxFrameSize).run chunks = some v) :
    v.streamWarnings = [] ↔
      (driverRun maxFrameSize ((received chunks).map Prod.fst)).2.binaryCounters.resyncCount = 0 ∧
        ∀ event ∈ capturedEvents maxFrameSize chunks, event.2.IsClean := by
  have hread := HasRead.run hrun
  have hquiet := (isSome_run_iff maxFrameSize chunks).mp (Option.isSome_iff_exists.mpr ⟨v, hrun⟩)
  have hagree := counters_agree h (received chunks)
  have hskips := UnicoreTransport.skips_run maxFrameSize (feeding ((received chunks).map Prod.fst))
  rw [streamWarnings_eq_nil, hread.state, hread.transport,
    ← counts_ofEvents_iff hread.counts hquiet]
  refine and_congr ?_ Iff.rfl
  show _ = 0 ∧ _ = 0 ↔ _
  rw [TransportParser.captureState]
  dsimp only
  rw [hagree.crcErrors, hagree.resyncCount]
  -- every CRC error is a resync as well
  have hle := hskips.2
  rw [← driverRun] at hle
  omega

/-- **There is a report without a warning** exactly if nothing was thrown away and every line and
frame is clean. -/
theorem streamWarnings_eq_nil_iff (h : 256 ≤ maxFrameSize) (chunks : List (Bytes × ℚ)) :
    (∃ v, (Validator.init maxFrameSize).run chunks = some v ∧ v.streamWarnings = []) ↔
      (∀ seg ∈ cutOf maxFrameSize chunks, seg.isDiscarded = false) ∧
        ∀ event ∈ capturedEvents maxFrameSize chunks, event.2.IsClean := by
  have hdiscarded : (∀ seg ∈ cutOf maxFrameSize chunks, seg.isDiscarded = false) ↔
      (driverRun maxFrameSize ((received chunks).map Prod.fst)).2.binaryCounters.resyncCount =
        0 := by
    rw [resyncCount_driverRun, List.countP_eq_zero]
    simp only [Bool.not_eq_true]
  rw [hdiscarded]
  constructor
  · rintro ⟨v, hrun, hsilent⟩
    exact (streamWarnings_run h hrun).mp hsilent
  · rintro ⟨hresync, hclean⟩
    have hsome : ((Validator.init maxFrameSize).run chunks).isSome = true := by
      rw [Validator.isSome_run, Bool.not_eq_true', List.any_eq_false]
      intro event hevent
      rw [(hclean event hevent).raises_eq_false]
      exact Bool.false_ne_true
    obtain ⟨v, hrun⟩ := Option.isSome_iff_exists.mp hsome
    exact ⟨v, hrun, (streamWarnings_run h hrun).mpr ⟨hresync, hclean⟩⟩

/-- The payload of a BESTSATB with one entry, of GPS satellite 7 and its first two signals. -/
def bestsatbPayload : Bytes := [1, 0, 0, 0, 0, 0, 0, 0, 7, 0, 0, 0, 0, 0, 0, 0, 3, 0, 0, 0]

/-- A whole frame around the payload. -/
def bestsatbFrame : Bytes :=
  [0xAA, 0x44, 0xB5, 0, 0x11, 0x04, 20, 0] ++ List.replicate 16 0 ++ bestsatbPayload ++
    [0xF3, 0x4A, 0xD2, 0xE4]

/-- Half of it in one chunk, half of it in the next, and nothing in between. -/
theorem streamWarnings_eq_nil_bestsatb :
    ∃ v, (Validator.init 256).run
      [(bestsatbFrame.take 16, 0), ([], 1), (bestsatbFrame.drop 16, 2)] = some v ∧
        v.streamWarnings = [] :=
  (streamWarnings_eq_nil_iff le_rfl _).mpr ⟨by decide +kernel, by decide +kernel⟩

/-- A frame that the driver hands out is one that the validator has looked at. -/
theorem exists_frame_of_driverRun (h : 256 ≤ maxFrameSize) (chunks : List (Bytes × ℚ))
    {frame : UnicoreBinaryFrame}
    (hframe : .binaryFrame frame ∈ (driverRun maxFrameSize ((received chunks).map Prod.fst)).1) :
    ∃ seen : BinaryFrame, seen.messageId = frame.messageId.toNat ∧ seen.payload = frame.payload ∧
      ∃ ts, (ts, .binary seen) ∈ capturedEvents maxFrameSize chunks := by
  have hline : ∀ text, .binaryFrame frame ∉ UnicoreGnss.lineEvents text := by
    intro text hmem
    rw [lineEvents_eq] at hmem
    split_ifs at hmem
    · exact List.not_mem_nil hmem
    · exact absurd (List.mem_singleton.mp hmem) nofun
  rw [driverRun, UnicoreTransport.run_eq_history] at hframe
  obtain ⟨seg, hseg, hevent⟩ := List.mem_flatMap.mp hframe
  cases seg with
  | discarded bytes => exact absurd hevent List.not_mem_nil
  | line text => exact absurd hevent (hline text)
  | frame bytes =>
    have hsize := frameSize_of_mem_history true maxFrameSize _ hseg
    have hsame := sameEvents_frame hsize.le
    rw [hsize, List.take_length] at hsame
    have hobserved := List.singleton_inj.mp hsame
    rw [← List.mem_singleton.mp hevent, observe, observeDriver, Observed.frame.injEq] at hobserved
    refine ⟨TransportParser.frameOf bytes, hobserved.1, hobserved.2.1, ?_⟩
    have hseen : .binary (TransportParser.frameOf bytes) ∈
        (capturedEvents maxFrameSize chunks).map Prod.snd := by
      rw [capturedEvents, (feedAll_eq_history h (received chunks)).1]
      exact List.mem_flatMap.mpr ⟨_, hseg, List.mem_singleton_self _⟩
    obtain ⟨⟨ts, event⟩, hmem, rfl⟩ := List.mem_map.mp hseen
    exact ⟨ts, hmem⟩

/-- **What the validator's silence says about the driver**: it skips nothing, and it reads every
frame that it hands out, but for a PVTSLNB in which a float that only the driver reads is not
finite. -/
theorem driver_reads_of_streamWarnings_eq_nil (math : MathFunctions) (h : 256 ≤ maxFrameSize)
    {chunks : List (Bytes × ℚ)} {v : Validator}
    (hrun : (Validator.init maxFrameSize).run chunks = some v) (hsilent : v.streamWarnings = []) :
    let driver := driverRun maxFrameSize ((received chunks).map Prod.fst)
    driver.2.binaryCounters.crcErrors = 0 ∧ driver.2.binaryCounters.resyncCount = 0 ∧
      ∀ frame : UnicoreBinaryFrame, .binaryFrame frame ∈ driver.1 →
        if frame.messageId.toNat = 1021 ∧ 140 ≤ frame.payload.length ∧
            ¬ ReadsHeading frame.payload then
          UnicoreBinaryNavParser.parse math frame = refused
        else ∃ snapshot message, parseFrame frame.messageId.toNat frame.payload = value snapshot ∧
          UnicoreBinaryNavParser.parse math frame = value message ∧
          BinarySnapshot.SummaryOf snapshot message := by
  intro driver
  obtain ⟨hresync, hclean⟩ := (streamWarnings_run h hrun).mp hsilent
  have hskips := UnicoreTransport.skips_run maxFrameSize (feeding ((received chunks).map Prod.fst))
  refine ⟨Nat.le_zero.mp (hskips.2.trans hresync.le), hresync, ?_⟩
  intro frame hframe
  split_ifs with hdropped
  · exact parse_of_not_readsHeading hdropped
  · obtain ⟨seen, hid, hpayload, ts, hevent⟩ := exists_frame_of_driverRun h chunks hframe
    obtain ⟨snapshot, hparsed⟩ := Option.isSome_iff_exists.mp (hclean _ hevent).2
    rw [hid, hpayload, toOption_eq_some_iff] at hparsed
    have hagree : Lockstep BinarySnapshot.SummaryOf _ (UnicoreBinaryNavParser.parse math frame) :=
      lockstep_parse hdropped
    rw [hparsed] at hagree
    obtain ⟨message, hmessage, hsummary⟩ := hagree.exists_of_value_left
    exact ⟨snapshot, message, hparsed, hmessage, hsummary⟩

/-- The driver reads the frame of which the validator has not complained, and its entry. -/
theorem driver_reads_bestsatb :
    ∃ snapshot message, parseFrame 1041 bestsatbPayload = value snapshot ∧
      UnicoreBinaryNavParser.parse ⟨fun _ => 0, fun _ => 1⟩ (decodeFrame bestsatbFrame) =
        value message ∧ BinarySnapshot.SummaryOf snapshot message ∧
      (message.bestsat.map fun bestsat => bestsat.entries.length) = some 1 := by
  have hsome : ((Validator.init 256).run [(bestsatbFrame, 0)]).isSome = true := by
    rw [Validator.isSome_run]
    decide +kernel
  obtain ⟨v, hrun⟩ := Option.isSome_iff_exists.mp hsome
  have hsilent : v.streamWarnings = [] :=
    (streamWarnings_run le_rfl hrun).mpr ⟨by decide +kernel, by decide +kernel⟩
  have hread := (driver_reads_of_streamWarnings_eq_nil ⟨fun _ => 0, fun _ => 1⟩ le_rfl hrun
    hsilent).2.2 (decodeFrame bestsatbFrame) (by decide +kernel)
  rw [if_neg (by decide)] at hread
  obtain ⟨snapshot, message, hsnapshot, hmessage, hsummary⟩ := hread
  refine ⟨snapshot, message, hsnapshot, hmessage, hsummary, ?_⟩
  have hentries : ((UnicoreBinaryNavParser.parse ⟨fun _ => 0, fun _ => 1⟩
      (decodeFrame bestsatbFrame)).toOption.bind fun message =>
        message.bestsat.map fun bestsat => bestsat.entries.length) = some 1 := by
    decide +kernel
  rwa [hmessage, toOption_value, Option.bind_some] at hentries

end Silent

end LiveValidate

end UnicoreGnss
