import UnicoreGnss.LiveValidate.Basic
import UnicoreGnss.Transport.History

/-!
# The validator's framer

`TransportParser` of `tools/unicore_live_validate.py`: a second hand-written copy of the transport,
in Python. It always takes binary frames and refuses a wrong CRC.

Pass by pass it does what the driver's loop does, on the same buffer, with one difference: of a line
the driver drops one CR at the end and the validator drops all of them. So the two hand out the same
events exactly as long as no line ends in two.

## Main definitions

* `TransportParser`, `TransportParser.feed` — the framer
* `Agrees` — a parser and a transport in the same state
* `UnicoreTransport.TakesDoubleCr` — the next thing taken is a line that ends in two CRs

## Main results

* `translates_history` — the parser hands out a translation of what the transport takes
* `feed_agrees_iff` — when the two agree
-/

namespace UnicoreGnss.LiveValidate

open FirstMatch LittleEndian BufferedReader

/-- A frame that has been taken out of the buffer, with the fields of its header. -/
structure BinaryFrame where
  messageId : ℕ
  payload : Bytes
  crcValid : Bool
  headerLength : ℕ
  payloadLength : ℕ
  week : ℕ
  milliseconds : ℕ
  version : ℕ
  deriving DecidableEq, Repr

/-- What is kept of a frame whose CRC is wrong. -/
structure BinaryCrcFailure where
  messageId : ℕ
  payloadLength : ℕ
  /-- The header, which the source keeps as its hexadecimal text. -/
  header : Bytes
  expectedCrc : ℕ
  computedCrc : ℕ
  crcOffset : ℕ
  frameLength : ℕ
  deriving DecidableEq, Repr

/-- What `feed` hands out, without its time stamp. -/
inductive TransportEvent where
  /-- `"line"` -/
  | line (line : Bytes)
  /-- `"binary"` -/
  | binary (frame : BinaryFrame)
  deriving DecidableEq, Repr

/-- The state of the parser: the buffer, the counters and the recent CRC failures. -/
structure TransportParser where
  buffer : Bytes := []
  binaryMaxFrameSize : ℕ
  binaryCrcErrors : ℕ := 0
  resyncCount : ℕ := 0
  syncCandidates : ℕ := 0
  lastHeaderLength : Option ℕ := none
  lastPayloadLength : Option ℕ := none
  frameParseErrorsByReason : BinaryParseReason → ℕ := fun _ => 0
  recentCrcFailures : List BinaryCrcFailure := []
  countedSyncCandidate : Bool := false

/-- `UNICORE_BINARY_HEADER_LENGTH` -/
def binaryHeaderLength : ℕ := 24

/-- `MAX_BINARY_CRC_FAILURE_HISTORY` -/
def maxBinaryCrcFailureHistory : ℕ := 512

/-- `line.rstrip(b"\r")` -/
def rstripCr (line : Bytes) : Bytes := (line.reverse.dropWhile (· = cr)).reverse

namespace TransportParser

/-- `__init__` -/
def init (binaryMaxFrameSize : ℕ) : TransportParser where
  binaryMaxFrameSize := max 256 binaryMaxFrameSize

variable (p : TransportParser)

/-! ### Looking at the buffer -/

/-- `_find_sync`. The source's `-1` is `none`. -/
def findSync : Option ℕ :=
  if p.buffer.length < binarySync.length then none
  else (List.range (p.buffer.length - binarySync.length + 1)).find? fun index =>
    slice p.buffer index (index + 3) == binarySync

/-- `_find_newline` -/
def findNewline : Option ℕ := p.buffer.idxOf? lf

/-- `_begins_with_binary_sync_prefix` -/
def beginsWithBinarySyncPrefix : Bool :=
  let count := min p.buffer.length (binarySync.length - 1)
  0 < count && p.buffer.take count == binarySync.take count

/-! ### Keeping the books -/

/-- `del self.buffer[:n]`, and a new candidate may be counted. -/
def delete (n : ℕ) : TransportParser :=
  { p with buffer := p.buffer.drop n, countedSyncCandidate := false }

/-- Bytes are thrown away. -/
def discard (n : ℕ) : TransportParser := { p.delete n with resyncCount := p.resyncCount + 1 }

/-- `_record_parse_reason` -/
def recordParseReason (reason : BinaryParseReason) : TransportParser :=
  { p with
    frameParseErrorsByReason := Function.update p.frameParseErrorsByReason reason
      (p.frameParseErrorsByReason reason + 1) }

/-- `expected_crc` of the bytes of a frame. -/
def expectedCrc (frameBytes : Bytes) : ℕ := leNat (frameBytes.drop (frameBytes.length - 4))

/-- `actual_crc` -/
def actualCrc (frameBytes : Bytes) : ℕ :=
  crc32Unicore (frameBytes.take (frameBytes.length - 4))

/-- A wrong CRC is counted and `_record_crc_failure` keeps it: the eldest failures go first. -/
def recordCrcFailure (frameBytes : Bytes) : TransportParser :=
  let failures := p.recentCrcFailures ++
    [{ messageId := leNat (slice frameBytes 4 6)
       payloadLength := leNat (slice frameBytes 6 8)
       header := frameBytes.take binaryHeaderLength
       expectedCrc := expectedCrc frameBytes
       computedCrc := actualCrc frameBytes
       crcOffset := frameBytes.length - 4
       frameLength := frameBytes.length }]
  { p with
    binaryCrcErrors := p.binaryCrcErrors + 1
    recentCrcFailures := failures.drop (failures.length - maxBinaryCrcFailureHistory) }

/-- The first look at a sync counts it. -/
def countSyncCandidate : TransportParser :=
  if p.countedSyncCandidate then p
  else { p with syncCandidates := p.syncCandidates + 1, countedSyncCandidate := true }

/-! ### The loop -/

/-- The frame of its bytes. -/
def frameOf (frameBytes : Bytes) : BinaryFrame where
  messageId := leNat (slice frameBytes 4 6)
  payload := slice frameBytes binaryHeaderLength (frameBytes.length - 4)
  crcValid := true
  headerLength := binaryHeaderLength
  payloadLength := leNat (slice frameBytes 6 8)
  week := leNat (slice frameBytes 10 12)
  milliseconds := leNat (slice frameBytes 12 16)
  version := leNat (slice frameBytes 16 20)

/-- `_try_extract_binary`. The source's `None` leaves the state as it was and is `none`; its `False`
is no frame. -/
def tryExtractBinary : Option (Option BinaryFrame × TransportParser) :=
  if p.buffer.length < binaryHeaderLength + 4 then none
  else
    let payloadLength := leNat (slice p.buffer 6 8)
    let frameSize := binaryHeaderLength + payloadLength + 4
    if p.binaryMaxFrameSize < frameSize then
      some (none, (p.discard 1).recordParseReason .frameTooLarge)
    else if p.buffer.length < frameSize then none
    else
      let frameBytes := p.buffer.take frameSize
      if expectedCrc frameBytes ≠ actualCrc frameBytes then
        some (none, ((p.recordCrcFailure frameBytes).discard 1).recordParseReason .crcMismatch)
      else
        some (some (frameOf frameBytes),
          { p.delete frameSize with
            lastHeaderLength := some binaryHeaderLength
            lastPayloadLength := some payloadLength })

/-- The event of a line. -/
def lineEvents (line : Bytes) : List TransportEvent :=
  let line := rstripCr line
  if line = [] then [] else [.line line]

/-- One pass of the loop of `feed`. -/
def feedPass : Pass TransportParser TransportEvent :=
  if p.buffer = [] then .stop p
  else
    match p.findSync, p.findNewline with
    | some 0, _ =>
      match p.countSyncCandidate.tryExtractBinary with
      | none => .stop p.countSyncCandidate
      | some (none, p') => .next [] p'
      | some (some frame, p') => .next [.binary frame] p'
    | none, some newline =>
      .next (lineEvents (p.buffer.take newline)) (p.delete (newline + 1))
    | some (sync + 1), some newline =>
      if newline < sync + 1 then
        .next (lineEvents (p.buffer.take newline)) (p.delete (newline + 1))
      else .next [] (p.discard (sync + 1))
    | some (sync + 1), none => .next [] (p.discard (sync + 1))
    | none, none =>
      if startsSentence p.buffer then .stop p
      else if p.beginsWithBinarySyncPrefix then .stop p
      else .next [] (p.discard 1)

end TransportParser

/-! ### The same looks -/

section Looks

variable (p : TransportParser)

/-- A sync that is found by comparing slices. -/
theorem slice_eq_sync_iff (b : Bytes) (i : ℕ) :
    (slice b i (i + 3) == binarySync) = startsWithSync (b.drop i) := by
  rw [slice, Nat.add_sub_cancel_left, startsWithSync, Bool.eq_iff_iff, beq_iff_eq,
    List.isPrefixOf_iff_prefix, List.prefix_iff_eq_take]
  exact eq_comm

theorem findSync_eq : p.findSync = findBinarySync p.buffer := by
  rw [TransportParser.findSync, findBinarySync, isWindow_startsWithSync.firstMatch_eq_find?]
  simp only [slice_eq_sync_iff]
  rfl

theorem findNewline_eq : p.findNewline = UnicoreGnss.findNewline p.buffer := by
  rw [TransportParser.findNewline, UnicoreGnss.findNewline]
  induction p.buffer with
  | nil => rfl
  | cons byte b ih =>
    have hfront : startsWithLf (byte :: b) = (byte == lf) := by
      rw [Bool.eq_iff_iff, beq_iff_eq, startsWithLf_iff]
      simp
    rw [List.idxOf?_cons, firstMatch, hfront, ih]

theorem beginsWithBinarySyncPrefix_eq :
    p.beginsWithBinarySyncPrefix = UnicoreGnss.beginsWithBinarySyncPrefix p.buffer := by
  rw [TransportParser.beginsWithBinarySyncPrefix, UnicoreGnss.beginsWithBinarySyncPrefix]
  congr 1
  rw [Bool.eq_iff_iff, decide_eq_true_iff, decide_eq_true_iff, Nat.pos_iff_ne_zero]

end Looks

/-! ### Frames -/

/-- The bytes of a whole frame at the front of a buffer, as the parser cuts them. -/
theorem length_take_frameSize {b : Bytes} (h : frameSize b ≤ b.length) :
    (b.take (frameSize b)).length = frameSize b := by
  rw [List.length_take, Nat.min_eq_left h]

/-- `frame_size` -/
theorem frameSize_eq (b : Bytes) :
    binaryHeaderLength + leNat (slice b 6 8) + 4 = frameSize b := by
  rw [leNat_slice_two b 6]
  rfl

theorem expectedCrc_take {b : Bytes} (h : frameSize b ≤ b.length) :
    TransportParser.expectedCrc (b.take (frameSize b)) = (expectedCrc b).toNat := by
  have hmin := le_frameSize b
  rw [TransportParser.expectedCrc, length_take_frameSize h, List.drop_take, expectedCrc,
    unicoreBinaryCrcSize, show frameSize b - (frameSize b - 4) = 4 by omega, leNat_take_four]

theorem actualCrc_take {b : Bytes} (h : frameSize b ≤ b.length) :
    TransportParser.actualCrc (b.take (frameSize b)) =
      (crc32UnicoreBinary (b.take (frameSize b - 4))).toNat := by
  rw [TransportParser.actualCrc, length_take_frameSize h, List.take_take,
    Nat.min_eq_left (by omega), crc32Unicore_eq]

/-- **The parser's test of the CRC** is the transport's. -/
theorem crc_ne_iff {b : Bytes} (h : frameSize b ≤ b.length) :
    TransportParser.expectedCrc (b.take (frameSize b)) ≠
        TransportParser.actualCrc (b.take (frameSize b)) ↔ crcOk b = false := by
  rw [expectedCrc_take h, actualCrc_take h, crcOk, beq_eq_false_iff_ne, ne_eq, ne_eq,
    UInt32.toNat_inj]
  rfl

/-! ### States that agree -/

/-- A transport and a parser with the same buffer, the same limit and the same counts. -/
structure Agrees (t : UnicoreTransport) (p : TransportParser) : Prop where
  options : t.options = binaryOptions true p.binaryMaxFrameSize
  buffer : p.buffer = t.buffer
  counted : p.countedSyncCandidate = t.countedSyncCandidate
  crcErrors : p.binaryCrcErrors = t.binaryCounters.crcErrors
  resyncCount : p.resyncCount = t.binaryCounters.resyncCount
  syncCandidates : p.syncCandidates = t.binaryCounters.syncCandidates
  reasons : p.frameParseErrorsByReason = t.binaryCounters.frameParseErrorsByReason

namespace Agrees

variable {t : UnicoreTransport} {p : TransportParser}

theorem countSyncCandidate (h : Agrees t p) :
    Agrees t.countSyncCandidate p.countSyncCandidate := by
  rw [UnicoreTransport.countSyncCandidate, TransportParser.countSyncCandidate, h.counted]
  split
  · exact h
  · exact ⟨h.options, h.buffer, rfl, h.crcErrors, h.resyncCount,
      congrArg (· + 1) h.syncCandidates, h.reasons⟩

theorem discard (h : Agrees t p) (n : ℕ) : Agrees (t.discard n) (p.discard n) :=
  ⟨h.options, congrArg (List.drop n) h.buffer, rfl, h.crcErrors,
    congrArg (· + 1) h.resyncCount, h.syncCandidates, h.reasons⟩

theorem takeLine (h : Agrees t p) (newline : ℕ) :
    Agrees (t.takeLine newline) (p.delete (newline + 1)) :=
  ⟨h.options, congrArg (List.drop (newline + 1)) h.buffer, rfl, h.crcErrors, h.resyncCount,
    h.syncCandidates, h.reasons⟩

theorem recordParseReason (h : Agrees t p) (reason : BinaryParseReason) :
    Agrees (t.countBinaryParseReason reason) (p.recordParseReason reason) :=
  ⟨h.options, h.buffer, h.counted, h.crcErrors, h.resyncCount, h.syncCandidates, by
    rw [TransportParser.recordParseReason, h.reasons]
    rfl⟩

theorem crcReject (h : Agrees t p) (frameBytes : Bytes) :
    Agrees (t.countCrcError.discard 1)
      (((p.recordCrcFailure frameBytes).discard 1).recordParseReason .crcMismatch) :=
  ⟨h.options, congrArg (List.drop 1) h.buffer, rfl, congrArg (· + 1) h.crcErrors,
    congrArg (· + 1) h.resyncCount, h.syncCandidates, by
    rw [TransportParser.recordParseReason]
    change Function.update p.frameParseErrorsByReason _ (p.frameParseErrorsByReason _ + 1) = _
    rw [h.reasons]
    rfl⟩

theorem takeFrame (h : Agrees t p) (lastHeaderLength lastPayloadLength : Option ℕ) :
    Agrees t.takeFrame
      { p.delete (frameSize t.buffer) with lastHeaderLength, lastPayloadLength } :=
  ⟨h.options, congrArg (List.drop (frameSize t.buffer)) h.buffer, rfl, h.crcErrors,
    h.resyncCount, h.syncCandidates, h.reasons⟩

/-- Both are constructed in the same state. -/
theorem init {maxFrameSize : ℕ} (h : 256 ≤ maxFrameSize) :
    Agrees (.fresh (binaryOptions true maxFrameSize)) (.init maxFrameSize) :=
  ⟨by rw [TransportParser.init, max_eq_right h]; rfl, rfl, rfl, rfl, rfl, rfl, rfl⟩

/-- Some transport is in the state of any given parser. -/
theorem exists_transport (p : TransportParser) : ∃ t, Agrees t p :=
  ⟨{ options := binaryOptions true p.binaryMaxFrameSize
     buffer := p.buffer
     binaryCounters :=
      { crcErrors := p.binaryCrcErrors
        resyncCount := p.resyncCount
        syncCandidates := p.syncCandidates
        frameParseErrorsByReason := p.frameParseErrorsByReason }
     countedSyncCandidate := p.countedSyncCandidate }, rfl, rfl, rfl, rfl, rfl, rfl, rfl⟩

/-! ### One pass -/

/-- The parser at a sync, by what the transport finds there. -/
theorem tryExtractBinary_eq (h : Agrees t p) :
    p.tryExtractBinary =
      if t.buffer.length < 28 then none
      else if t.options.binaryMaxFrameSize < frameSize t.buffer then
        some (none, (p.discard 1).recordParseReason .frameTooLarge)
      else if t.buffer.length < frameSize t.buffer then none
      else
        let frameBytes := t.buffer.take (frameSize t.buffer)
        if TransportParser.expectedCrc frameBytes ≠ TransportParser.actualCrc frameBytes then
          some (none, ((p.recordCrcFailure frameBytes).discard 1).recordParseReason .crcMismatch)
        else
          some (some (TransportParser.frameOf frameBytes),
            { p.delete (frameSize t.buffer) with
              lastHeaderLength := some binaryHeaderLength
              lastPayloadLength := some (leNat (slice t.buffer 6 8)) }) := by
  rw [TransportParser.tryExtractBinary]
  simp only [frameSize_eq, h.buffer, h.options]
  rfl

end Agrees

/-! ### The translation -/

/-- What the parser hands out for what the transport takes. -/
def parserEvents : Segment → List TransportEvent
  | .discarded _ => []
  | .line text => TransportParser.lineEvents text
  | .frame bytes => [.binary (TransportParser.frameOf bytes)]

section Passes

variable {t t' : UnicoreTransport} {p : TransportParser}

theorem buffer_ne_nil_of_sync {sync : ℕ} (hsync : findBinarySync t.buffer = some sync) :
    t.buffer ≠ [] := by
  have hlt := firstMatch_lt hsync
  exact List.ne_nil_of_length_pos (by omega)

/-- The parser at a sync. -/
theorem feedPass_sync (h : Agrees t p) (hsync : findBinarySync t.buffer = some 0) :
    p.feedPass =
      match p.countSyncCandidate.tryExtractBinary with
      | none => .stop p.countSyncCandidate
      | some (none, p') => .next [] p'
      | some (some frame, p') => .next [.binary frame] p' := by
  rw [TransportParser.feedPass, h.buffer, if_neg (buffer_ne_nil_of_sync hsync), findSync_eq,
    h.buffer, hsync]

/-- The parser stops where the transport does. -/
theorem feedPass_stop (h : Agrees t p) (hpass : t.drainPass = .stop t') :
    ∃ p', p.feedPass = .stop p' ∧ Agrees t' p' := by
  have hcase := UnicoreTransport.passCase_drainPass t
  rw [hpass] at hcase
  cases hcase with
  | empty hbuf =>
    refine ⟨p, ?_, h⟩
    rw [TransportParser.feedPass, h.buffer, if_pos hbuf]
  | asciiWait hbin =>
    rw [h.options] at hbin
    exact absurd hbin Bool.noConfusion
  | await _ hsync hwait =>
    refine ⟨p.countSyncCandidate, ?_, h.countSyncCandidate⟩
    rw [feedPass_sync h hsync, h.countSyncCandidate.tryExtractBinary_eq]
    simp only [UnicoreTransport.buffer_countSyncCandidate,
      UnicoreTransport.options_countSyncCandidate]
    rcases hwait with hshort | ⟨hsize, hlen⟩
    · rw [if_pos hshort]
    · by_cases hshort : t.buffer.length < 28
      · rw [if_pos hshort]
      · rw [if_neg hshort, if_neg (by omega), if_pos hlen]
  | hold _ hsync hnl hfront =>
    refine ⟨p, ?_, h⟩
    rw [TransportParser.feedPass, findSync_eq, findNewline_eq, beginsWithBinarySyncPrefix_eq,
      h.buffer, hsync, hnl]
    rcases hfront with hsentence | hmark
    · simp [hsentence]
    · simp [hmark]

/-- Where the transport takes something, the parser takes the same. -/
theorem feedPass_next {out : List UnicoreTransportEvent} (h : Agrees t p)
    (hpass : t.drainPass = .next out t') :
    ∃ p', p.feedPass = .next (parserEvents (UnicoreTransport.segment t out t')) p' ∧
      Agrees t' p' := by
  have hbin : t.options.enableBinary = true := by rw [h.options]; rfl
  have hcase := (UnicoreTransport.segmentCase_of_next hbin hpass).1
  have hmin := le_frameSize t.buffer
  generalize UnicoreTransport.segment t out t' = seg at hcase
  cases hcase with
  | tooLarge hsync hlen hsize =>
    refine ⟨_, ?_, (h.countSyncCandidate.discard 1).recordParseReason .frameTooLarge⟩
    rw [feedPass_sync h hsync, h.countSyncCandidate.tryExtractBinary_eq]
    simp only [UnicoreTransport.buffer_countSyncCandidate,
      UnicoreTransport.options_countSyncCandidate]
    rw [if_neg (by omega), if_pos hsize]
    rfl
  | crcReject hsync hsize hlen hcrc _ =>
    refine ⟨_, ?_, h.countSyncCandidate.crcReject (t.buffer.take (frameSize t.buffer))⟩
    rw [feedPass_sync h hsync, h.countSyncCandidate.tryExtractBinary_eq]
    simp only [UnicoreTransport.buffer_countSyncCandidate,
      UnicoreTransport.options_countSyncCandidate]
    rw [if_neg (by omega), if_neg (by omega), if_neg (by omega),
      if_pos ((crc_ne_iff hlen).mpr hcrc)]
    rfl
  | frame hsync hsize hlen hcrc =>
    have htake := h.countSyncCandidate.takeFrame (some binaryHeaderLength)
      (some (leNat (slice t.buffer 6 8)))
    rw [UnicoreTransport.buffer_countSyncCandidate] at htake
    refine ⟨_, ?_, htake⟩
    rw [feedPass_sync h hsync, h.countSyncCandidate.tryExtractBinary_eq]
    simp only [UnicoreTransport.buffer_countSyncCandidate,
      UnicoreTransport.options_countSyncCandidate]
    rw [if_neg (by omega), if_neg (by omega), if_neg (by omega),
      if_neg (fun hne => Bool.noConfusion (hcrc.symm.trans ((crc_ne_iff hlen).mp hne)))]
    rfl
  | frameLenient _ _ _ _ hstrict =>
    rw [h.options] at hstrict
    exact absurd hstrict Bool.noConfusion
  | line newline hnl hfirst =>
    refine ⟨_, ?_, h.takeLine newline⟩
    rw [TransportParser.feedPass, findSync_eq, findNewline_eq, h.buffer, hnl,
      if_neg (List.ne_nil_of_length_pos (Nat.zero_lt_of_lt (firstMatch_lt hnl)))]
    rcases hsync : findBinarySync t.buffer with _ | _ | sync
    · rfl
    · exact absurd (hfirst 0 hsync) (Nat.not_lt_zero newline)
    · simp only [if_pos (hfirst (sync + 1) hsync)]
      rfl
  | skip sync hpos hsync hfirst =>
    refine ⟨_, ?_, h.discard sync⟩
    rw [TransportParser.feedPass, findSync_eq, findNewline_eq, h.buffer, hsync,
      if_neg (buffer_ne_nil_of_sync hsync)]
    obtain ⟨sync, rfl⟩ : ∃ i, sync = i + 1 := ⟨sync - 1, by omega⟩
    rcases hnl : findNewline t.buffer with _ | newline
    · rfl
    · simp only [if_neg (Nat.not_lt.mpr (hfirst newline hnl))]
      rfl
  | drop hbuf hsync hnl hsentence hfront =>
    refine ⟨_, ?_, h.discard 1⟩
    rw [TransportParser.feedPass, findSync_eq, findNewline_eq, beginsWithBinarySyncPrefix_eq,
      h.buffer, if_neg hbuf, hsync, hnl]
    simp [hsentence, hfront, parserEvents]

end Passes

/-! ### Runs -/

namespace TransportParser

/-- The parser as a reader of bytes. -/
def reader : BufferedReader UInt8 TransportParser TransportEvent where
  buffer := TransportParser.buffer
  push data p := { p with buffer := p.buffer ++ data }
  pass := feedPass
  buffer_push data p := rfl
  shrink := by
    intro p out p' hpass
    obtain ⟨t, h⟩ := Agrees.exists_transport p
    cases ht : t.drainPass with
    | stop t' =>
      obtain ⟨p₁, hstop, -⟩ := feedPass_stop h ht
      rw [hstop] at hpass
      exact absurd hpass nofun
    | next taken t' =>
      obtain ⟨p₁, hnext, h'⟩ := feedPass_next h ht
      obtain rfl : p₁ = p' := (Pass.next.inj (hnext.symm.trans hpass)).2
      rw [h.buffer, h'.buffer]
      exact UnicoreTransport.reader.shrink ht

/-- `feed`, for data received at the time `ts`. -/
def feed (p : TransportParser) (data : Bytes) (ts : ℚ) :
    List (ℚ × TransportEvent) × TransportParser :=
  let (events, p) := reader.drain (reader.push data p)
  (events.map fun event => (ts, event), p)

/-- A sequence of calls of `feed`. -/
def feedAll : List (Bytes × ℚ) → TransportParser → List (ℚ × TransportEvent) × TransportParser
  | [], p => ([], p)
  | (data, ts) :: chunks, p =>
    let (events, p) := p.feed data ts
    let (events', p) := feedAll chunks p
    (events ++ events', p)

end TransportParser

/-- The driver's calls for a sequence of chunks: `append` and `drain` for each. -/
def feeding (chunks : List Bytes) : List (Call UInt8) :=
  chunks.flatMap fun chunk => [.push chunk, .drain]

/-- A sequence of calls of `feed` is a run. -/
theorem feedAll_eq_run (chunks : List (Bytes × ℚ)) (p : TransportParser) :
    ((TransportParser.feedAll chunks p).1.map Prod.snd, (TransportParser.feedAll chunks p).2) =
      TransportParser.reader.run (feeding (chunks.map Prod.fst)) p := by
  induction chunks generalizing p with
  | nil => rfl
  | cons chunk chunks ih =>
    have hcalls : feeding ((chunk :: chunks).map Prod.fst) =
        .push chunk.1 :: .drain :: feeding (chunks.map Prod.fst) := rfl
    rw [hcalls, run_push, run_drain, ← ih]
    simp [TransportParser.feedAll, TransportParser.feed, Function.comp_def]

/-- **The parser hands out a translation** of what the transport takes. -/
theorem translates_history :
    Translates UnicoreTransport.history TransportParser.reader parserEvents Agrees where
  push data t p h :=
    ⟨h.options, congrArg (· ++ data) h.buffer, h.counted, h.crcErrors, h.resyncCount,
      h.syncCandidates, h.reasons⟩
  stop h hpass := feedPass_stop h (UnicoreTransport.reader.label_stop.mp hpass)
  next h hpass := by
    obtain ⟨out, hnext, rfl⟩ := UnicoreTransport.reader.exists_of_label_next hpass
    rw [List.flatMap_singleton]
    exact feedPass_next h hnext

end UnicoreGnss.LiveValidate
