import UnicoreGnss.Lib.BufferedReader
import UnicoreGnss.Lib.FirstMatch
import Mathlib.Logic.Function.Iterate

/-!
# The receive transport

`src/unicore_transport.cpp`. The transport owns one receive buffer in which text lines and binary
frames arrive interleaved, and `drain` cuts events off the front of it. A binary frame is

```
AA 44 B5 | header, 24 bytes in all | payload | CRC32 of everything before, little-endian
```

with the payload length in bytes 6 and 7. A line ends in LF; a CR before it is dropped.

The loop of `drain` is `drainPass`, one case per branch of the source in the order of the source.
`npos` is `none`, `continue` is `Pass.next` and `break` is `Pass.stop`. Counters are natural
numbers: a `size_t` counter of a serial line does not wrap.

## Main definitions

* `UnicoreTransport` and its operations `append`, `drain`, `clear`
* `UnicoreTransport.reader` — the transport as a `BufferedReader`

## Main results

* `UnicoreTransport.passCase_drainPass` — the inversion lemma: all that one pass can do
-/

namespace UnicoreGnss

open FirstMatch

/-- A string of bytes: `std::string`, `std::vector<uint8_t>` and the views of them. -/
abbrev Bytes := List UInt8

/-- `'\n'` -/
def lf : UInt8 := 0x0A

/-- `'\r'` -/
def cr : UInt8 := 0x0D

/-- `'$'` -/
def dollar : UInt8 := 0x24

/-- `'#'` -/
def hash : UInt8 := 0x23

/-- `kBinarySync` -/
def binarySync : Bytes := [0xAA, 0x44, 0xB5]

/-- `kUnicoreBinaryHeaderSize` -/
def unicoreBinaryHeaderSize : ℕ := 24

/-- `kUnicoreBinaryCrcSize` -/
def unicoreBinaryCrcSize : ℕ := 4

/-- A decoded binary frame. -/
structure UnicoreBinaryFrame where
  headerLength : UInt8 := 24
  cpuIdle : UInt8 := 0
  messageId : UInt16 := 0
  payloadLength : UInt16 := 0
  timeRef : UInt8 := 0
  timeStatus : UInt8 := 0
  week : UInt16 := 0
  milliseconds : UInt32 := 0
  version : UInt32 := 0
  leapSeconds : UInt8 := 0
  delayMs : UInt16 := 0
  crcValid : Bool := false
  crc32 : UInt32 := 0
  payload : Bytes := []
  deriving DecidableEq, Repr

/-- What `drain` hands out. The source has one record with a kind, a line and an optional frame;
only these two combinations are ever built. -/
inductive UnicoreTransportEvent where
  /-- `kAsciiLine` -/
  | asciiLine (line : Bytes)
  /-- `kBinaryFrame` -/
  | binaryFrame (frame : UnicoreBinaryFrame)
  deriving DecidableEq, Repr

/-- The options that a transport is constructed with. -/
structure UnicoreTransportOptions where
  enableBinary : Bool := false
  strictBinaryCrc : Bool := true
  binaryMaxFrameSize : ℕ := 4096
  deriving DecidableEq, Repr

/-- The keys of `frame_parse_errors_by_reason`. -/
inductive BinaryParseReason where
  /-- `"frame_too_large"` -/
  | frameTooLarge
  /-- `"crc_mismatch"` -/
  | crcMismatch
  deriving DecidableEq, Repr

/-- The health counters. A reason with count `0` has no entry in the source's map, which only ever
increments. -/
structure UnicoreBinaryTransportCounters where
  framesTotal : ℕ := 0
  crcErrors : ℕ := 0
  resyncCount : ℕ := 0
  syncCandidates : ℕ := 0
  lastHeaderLength : Option UInt8 := none
  lastPayloadLength : Option UInt16 := none
  frameParseErrorsByReason : BinaryParseReason → ℕ := fun _ => 0

/-- The members of the transport: what it has not extracted yet, and what it has counted. -/
structure UnicoreTransport where
  options : UnicoreTransportOptions := {}
  buffer : Bytes := []
  binaryCounters : UnicoreBinaryTransportCounters := {}
  countedSyncCandidate : Bool := false

/-- The options of a transport that takes binary frames. -/
def binaryOptions (strict : Bool) (maxFrameSize : ℕ) : UnicoreTransportOptions where
  enableBinary := true
  strictBinaryCrc := strict
  binaryMaxFrameSize := maxFrameSize

/-! ### Reading the buffer -/

/-- `raw[i]`, where the caller has checked the length. -/
def byteAt (raw : Bytes) (i : ℕ) : UInt8 := raw.getD i 0

/-- `read_le16` -/
def readLe16 (data : Bytes) : UInt16 :=
  (byteAt data 0).toUInt16 ||| ((byteAt data 1).toUInt16 <<< 8)

/-- `read_le32` -/
def readLe32 (data : Bytes) : UInt32 :=
  (byteAt data 0).toUInt32 ||| ((byteAt data 1).toUInt32 <<< 8) |||
    ((byteAt data 2).toUInt32 <<< 16) ||| ((byteAt data 3).toUInt32 <<< 24)

/-- The body of the bit loop of the CRC. -/
def crcBit (crc : UInt32) : UInt32 :=
  if crc &&& 1 ≠ 0 then (crc >>> 1) ^^^ 0xEDB88320 else crc >>> 1

/-- The body of the byte loop of the CRC. -/
def crcByte (crc : UInt32) (byte : UInt8) : UInt32 := crcBit^[8] (crc ^^^ byte.toUInt32)

/-- `crc32_unicore_binary` -/
def crc32UnicoreBinary (data : Bytes) : UInt32 := data.foldl crcByte 0

/-- Does the buffer start with the sync? -/
def startsWithSync (buffer : Bytes) : Bool := binarySync.isPrefixOf buffer

/-- `find_binary_sync` -/
def findBinarySync (buffer : Bytes) : Option ℕ := firstMatch startsWithSync buffer

/-- Does the buffer start with LF? -/
def startsWithLf (buffer : Bytes) : Bool := [lf].isPrefixOf buffer

/-- `buffer_.find('\n')` -/
def findNewline (buffer : Bytes) : Option ℕ := firstMatch startsWithLf buffer

/-- The comparison is over the first `min (size) 2` bytes, although the sync has three. -/
def beginsWithBinarySyncPrefix (buffer : Bytes) : Bool :=
  let count := min buffer.length (binarySync.length - 1)
  count ≠ 0 && buffer.take count == binarySync.take count

/-- Is the first byte `'$'` or `'#'`? -/
def startsSentence (buffer : Bytes) : Bool :=
  buffer.head? == some dollar || buffer.head? == some hash

/-- The size announced by a header: `kUnicoreBinaryHeaderSize + payload_length +
kUnicoreBinaryCrcSize`. -/
def frameSize (raw : Bytes) : ℕ :=
  unicoreBinaryHeaderSize + (readLe16 (raw.drop 6)).toNat + unicoreBinaryCrcSize

/-- `expected_crc` of a frame of the announced size. -/
def expectedCrc (raw : Bytes) : UInt32 := readLe32 (raw.drop (frameSize raw - unicoreBinaryCrcSize))

/-- `crc_ok` -/
def crcOk (raw : Bytes) : Bool :=
  expectedCrc raw == crc32UnicoreBinary (raw.take (frameSize raw - unicoreBinaryCrcSize))

/-- The frame at the front of the buffer. Fields are little-endian, at their documented offsets. -/
def decodeFrame (raw : Bytes) : UnicoreBinaryFrame where
  headerLength := UInt8.ofNat unicoreBinaryHeaderSize
  cpuIdle := byteAt raw 3
  messageId := readLe16 (raw.drop 4)
  payloadLength := readLe16 (raw.drop 6)
  timeRef := byteAt raw 8
  timeStatus := byteAt raw 9
  week := readLe16 (raw.drop 10)
  milliseconds := readLe32 (raw.drop 12)
  version := readLe32 (raw.drop 16)
  leapSeconds := byteAt raw 21
  delayMs := readLe16 (raw.drop 22)
  crcValid := crcOk raw
  crc32 := expectedCrc raw
  payload := (raw.drop unicoreBinaryHeaderSize).take
    (frameSize raw - unicoreBinaryCrcSize - unicoreBinaryHeaderSize)

/-- The event of a received line: a trailing CR goes, and an empty line is no event. -/
def lineEvents (line : Bytes) : List UnicoreTransportEvent :=
  let line := if line.getLast? = some cr then line.dropLast else line
  if line = [] then [] else [.asciiLine line]

namespace UnicoreTransport

variable {t : UnicoreTransport}

/-! ### Operations on the state -/

/-- `buffer_.erase(0, n)` -/
def erase (t : UnicoreTransport) (n : ℕ) : UnicoreTransport := { t with buffer := t.buffer.drop n }

/-- What every path that throws bytes away does: erase, count a resync, forget the candidate. -/
def discard (t : UnicoreTransport) (n : ℕ) : UnicoreTransport :=
  { t.erase n with
    binaryCounters := { t.binaryCounters with resyncCount := t.binaryCounters.resyncCount + 1 }
    countedSyncCandidate := false }

/-- A sync at the front is counted as a candidate once, however often it is looked at. -/
def countSyncCandidate (t : UnicoreTransport) : UnicoreTransport :=
  if t.countedSyncCandidate then t
  else
    { t with
      binaryCounters :=
        { t.binaryCounters with syncCandidates := t.binaryCounters.syncCandidates + 1 }
      countedSyncCandidate := true }

/-- One more frame that could not be parsed, by its reason. -/
def countBinaryParseReason (t : UnicoreTransport) (reason : BinaryParseReason) :
    UnicoreTransport :=
  { t with
    binaryCounters :=
      { t.binaryCounters with
        frameParseErrorsByReason := Function.update t.binaryCounters.frameParseErrorsByReason
          reason (t.binaryCounters.frameParseErrorsByReason reason + 1) } }

/-- The first two effects of a CRC mismatch, in strict mode and out of it. -/
def countCrcError (t : UnicoreTransport) : UnicoreTransport :=
  { t with
    binaryCounters := { t.binaryCounters with crcErrors := t.binaryCounters.crcErrors + 1 } }
    |>.countBinaryParseReason .crcMismatch

/-- A line is taken off the buffer together with its LF. -/
def takeLine (t : UnicoreTransport) (newline : ℕ) : UnicoreTransport :=
  { t.erase (newline + 1) with countedSyncCandidate := false }

/-- A frame is taken off the buffer and counted. -/
def takeFrame (t : UnicoreTransport) : UnicoreTransport :=
  { t.erase (frameSize t.buffer) with
    binaryCounters :=
      { t.binaryCounters with
        framesTotal := t.binaryCounters.framesTotal + 1
        lastHeaderLength := some (UInt8.ofNat unicoreBinaryHeaderSize)
        lastPayloadLength := some (readLe16 (t.buffer.drop 6)) }
    countedSyncCandidate := false }

/-- The source's `true` is `some`, with the events it appended; `false` leaves the state as it
was and is `none`. -/
def tryExtractBinaryFrame (t : UnicoreTransport) :
    Option (List UnicoreTransportEvent × UnicoreTransport) :=
  if t.buffer.length < unicoreBinaryHeaderSize + unicoreBinaryCrcSize then none
  else if t.options.binaryMaxFrameSize < frameSize t.buffer then
    some ([], (t.discard 1).countBinaryParseReason .frameTooLarge)
  else if t.buffer.length < frameSize t.buffer then none
  else if crcOk t.buffer then some ([.binaryFrame (decodeFrame t.buffer)], t.takeFrame)
  else if t.options.strictBinaryCrc then some ([], t.countCrcError.discard 1)
  else some ([.binaryFrame (decodeFrame t.buffer)], t.countCrcError.takeFrame)

/-- One pass of the loop of `drain`. -/
def drainPass (t : UnicoreTransport) : Pass UnicoreTransport UnicoreTransportEvent :=
  if t.buffer = [] then .stop t
  else if t.options.enableBinary = false then
    match findNewline t.buffer with
    | none => .stop t
    | some newline => .next (lineEvents (t.buffer.take newline)) (t.erase (newline + 1))
  else
    match findBinarySync t.buffer, findNewline t.buffer with
    | some 0, _ =>
      match t.countSyncCandidate.tryExtractBinaryFrame with
      | some (events, t') => .next events t'
      | none => .stop t.countSyncCandidate
    | none, some newline => .next (lineEvents (t.buffer.take newline)) (t.takeLine newline)
    | some (sync + 1), some newline =>
      if newline < sync + 1 then
        .next (lineEvents (t.buffer.take newline)) (t.takeLine newline)
      else .next [] (t.discard (sync + 1))
    | some (sync + 1), none => .next [] (t.discard (sync + 1))
    | none, none =>
      if startsSentence t.buffer then .stop t
      else if beginsWithBinarySyncPrefix t.buffer then .stop t
      else .next [] (t.discard 1)

/-- `append` -/
def append (data : Bytes) (t : UnicoreTransport) : UnicoreTransport :=
  { t with buffer := t.buffer ++ data }

/-- `clear`, which leaves the counters as they are. -/
def clear (t : UnicoreTransport) : UnicoreTransport :=
  { t with buffer := [], countedSyncCandidate := false }

/-- `buffered_bytes` -/
def bufferedBytes (t : UnicoreTransport) : ℕ := t.buffer.length

/-! ### What the operations leave alone -/

@[simp] theorem buffer_erase (n : ℕ) : (t.erase n).buffer = t.buffer.drop n := rfl

@[simp] theorem options_erase (n : ℕ) : (t.erase n).options = t.options := rfl

@[simp] theorem buffer_discard (n : ℕ) : (t.discard n).buffer = t.buffer.drop n := rfl

@[simp] theorem options_discard (n : ℕ) : (t.discard n).options = t.options := rfl

@[simp] theorem buffer_countSyncCandidate : t.countSyncCandidate.buffer = t.buffer := by
  unfold countSyncCandidate
  split <;> rfl

@[simp] theorem options_countSyncCandidate : t.countSyncCandidate.options = t.options := by
  unfold countSyncCandidate
  split <;> rfl

@[simp] theorem buffer_countBinaryParseReason (r : BinaryParseReason) :
    (t.countBinaryParseReason r).buffer = t.buffer := rfl

@[simp] theorem options_countBinaryParseReason (r : BinaryParseReason) :
    (t.countBinaryParseReason r).options = t.options := rfl

@[simp] theorem buffer_countCrcError : t.countCrcError.buffer = t.buffer := rfl

@[simp] theorem options_countCrcError : t.countCrcError.options = t.options := rfl

@[simp] theorem buffer_takeLine (n : ℕ) : (t.takeLine n).buffer = t.buffer.drop (n + 1) := rfl

@[simp] theorem options_takeLine (n : ℕ) : (t.takeLine n).options = t.options := rfl

@[simp] theorem buffer_takeFrame : t.takeFrame.buffer = t.buffer.drop (frameSize t.buffer) := rfl

@[simp] theorem options_takeFrame : t.takeFrame.options = t.options := rfl

@[simp] theorem buffer_append (c : Bytes) : (t.append c).buffer = t.buffer ++ c := rfl

@[simp] theorem options_append (c : Bytes) : (t.append c).options = t.options := rfl

@[simp] theorem buffer_clear : t.clear.buffer = [] := rfl

@[simp] theorem options_clear : t.clear.options = t.options := rfl

end UnicoreTransport

/-! ### Patterns -/

theorem le_frameSize (raw : Bytes) : 28 ≤ frameSize raw := by
  simp only [frameSize, unicoreBinaryHeaderSize, unicoreBinaryCrcSize]
  omega

theorem isWindow_isPrefixOf (pattern : Bytes) (hpos : pattern ≠ []) :
    IsWindow pattern.length pattern.isPrefixOf where
  pos := List.length_pos_iff.mpr hpos
  le_length h := (List.isPrefixOf_iff_prefix.mp h).length_le
  append u h := by
    rw [Bool.eq_iff_iff, List.isPrefixOf_iff_prefix, List.isPrefixOf_iff_prefix]
    exact ⟨fun hp => List.prefix_of_prefix_length_le hp (List.prefix_append _ _) h,
      fun hp => hp.trans (List.prefix_append _ _)⟩

theorem isWindow_startsWithSync : IsWindow 3 startsWithSync :=
  isWindow_isPrefixOf binarySync (by decide)

theorem isWindow_startsWithLf : IsWindow 1 startsWithLf :=
  isWindow_isPrefixOf [lf] (by decide)

namespace UnicoreTransport

variable {t : UnicoreTransport}

/-! ### The inversion lemma -/

/-- All that one pass can do, with what it has checked on the way. -/
inductive PassCase (t : UnicoreTransport) : Pass UnicoreTransport UnicoreTransportEvent → Prop
  /-- The buffer is empty. -/
  | empty (hbuf : t.buffer = []) : PassCase t (.stop t)
  /-- Text only: no LF yet. -/
  | asciiWait (hbin : t.options.enableBinary = false) (hnl : findNewline t.buffer = none) :
      PassCase t (.stop t)
  /-- Text only: a line. -/
  | asciiLine (newline : ℕ) (hbin : t.options.enableBinary = false)
      (hnl : findNewline t.buffer = some newline) :
      PassCase t (.next (lineEvents (t.buffer.take newline)) (t.erase (newline + 1)))
  /-- A sync at the front, and not yet all of its frame. -/
  | await (hbin : t.options.enableBinary = true) (hsync : findBinarySync t.buffer = some 0)
      (hwait : t.buffer.length < 28 ∨
        frameSize t.buffer ≤ t.options.binaryMaxFrameSize ∧ t.buffer.length < frameSize t.buffer) :
      PassCase t (.stop t.countSyncCandidate)
  /-- A sync at the front announcing too large a frame. -/
  | tooLarge (hbin : t.options.enableBinary = true) (hsync : findBinarySync t.buffer = some 0)
      (hlen : 28 ≤ t.buffer.length)
      (hsize : t.options.binaryMaxFrameSize < frameSize t.buffer) :
      PassCase t
        (.next [] ((t.countSyncCandidate.discard 1).countBinaryParseReason .frameTooLarge))
  /-- A sync at the front of a frame with a wrong CRC, refused. -/
  | crcReject (hbin : t.options.enableBinary = true) (hsync : findBinarySync t.buffer = some 0)
      (hsize : frameSize t.buffer ≤ t.options.binaryMaxFrameSize)
      (hlen : frameSize t.buffer ≤ t.buffer.length) (hcrc : crcOk t.buffer = false)
      (hstrict : t.options.strictBinaryCrc = true) :
      PassCase t (.next [] (t.countSyncCandidate.countCrcError.discard 1))
  /-- A frame with a matching CRC. -/
  | frame (hbin : t.options.enableBinary = true) (hsync : findBinarySync t.buffer = some 0)
      (hsize : frameSize t.buffer ≤ t.options.binaryMaxFrameSize)
      (hlen : frameSize t.buffer ≤ t.buffer.length) (hcrc : crcOk t.buffer = true) :
      PassCase t (.next [.binaryFrame (decodeFrame t.buffer)] t.countSyncCandidate.takeFrame)
  /-- A frame with a wrong CRC, let through. -/
  | frameLenient (hbin : t.options.enableBinary = true)
      (hsync : findBinarySync t.buffer = some 0)
      (hsize : frameSize t.buffer ≤ t.options.binaryMaxFrameSize)
      (hlen : frameSize t.buffer ≤ t.buffer.length) (hcrc : crcOk t.buffer = false)
      (hstrict : t.options.strictBinaryCrc = false) :
      PassCase t (.next [.binaryFrame (decodeFrame t.buffer)]
        t.countSyncCandidate.countCrcError.takeFrame)
  /-- A line that ends before any sync. -/
  | line (newline : ℕ) (hbin : t.options.enableBinary = true)
      (hnl : findNewline t.buffer = some newline)
      (hfirst : ∀ sync, findBinarySync t.buffer = some sync → newline < sync) :
      PassCase t (.next (lineEvents (t.buffer.take newline)) (t.takeLine newline))
  /-- Noise in front of a sync, with no line in it. -/
  | skip (sync : ℕ) (hbin : t.options.enableBinary = true) (hpos : 0 < sync)
      (hsync : findBinarySync t.buffer = some sync)
      (hfirst : ∀ newline, findNewline t.buffer = some newline → sync ≤ newline) :
      PassCase t (.next [] (t.discard sync))
  /-- Neither a line nor a sync, and the front may still become one. -/
  | hold (hbin : t.options.enableBinary = true) (hsync : findBinarySync t.buffer = none)
      (hnl : findNewline t.buffer = none)
      (hfront : startsSentence t.buffer = true ∨ beginsWithBinarySyncPrefix t.buffer = true) :
      PassCase t (.stop t)
  /-- Neither a line nor a sync, and the first byte is given up. -/
  | drop (hbin : t.options.enableBinary = true) (hbuf : t.buffer ≠ [])
      (hsync : findBinarySync t.buffer = none) (hnl : findNewline t.buffer = none)
      (hsentence : startsSentence t.buffer = false)
      (hfront : beginsWithBinarySyncPrefix t.buffer = false) :
      PassCase t (.next [] (t.discard 1))

/-- The branch for a sync at the front. -/
theorem passCase_tryExtractBinaryFrame (hbin : t.options.enableBinary = true)
    (hsync : findBinarySync t.buffer = some 0) :
    PassCase t
      (match t.countSyncCandidate.tryExtractBinaryFrame with
      | some (events, t') => .next events t'
      | none => .stop t.countSyncCandidate) := by
  have hmin := le_frameSize t.buffer
  unfold tryExtractBinaryFrame
  simp only [buffer_countSyncCandidate, options_countSyncCandidate, unicoreBinaryHeaderSize,
    unicoreBinaryCrcSize]
  by_cases hshort : t.buffer.length < 24 + 4
  · rw [if_pos hshort]
    exact .await hbin hsync (.inl (by omega))
  rw [if_neg hshort]
  by_cases hsize : t.options.binaryMaxFrameSize < frameSize t.buffer
  · rw [if_pos hsize]
    exact .tooLarge hbin hsync (by omega) hsize
  rw [if_neg hsize]
  have hsize : frameSize t.buffer ≤ t.options.binaryMaxFrameSize := by omega
  by_cases hlen : t.buffer.length < frameSize t.buffer
  · rw [if_pos hlen]
    exact .await hbin hsync (.inr ⟨hsize, hlen⟩)
  rw [if_neg hlen]
  have hlen : frameSize t.buffer ≤ t.buffer.length := by omega
  cases hcrc : crcOk t.buffer with
  | true => exact .frame hbin hsync hsize hlen hcrc
  | false =>
    cases hstrict : t.options.strictBinaryCrc with
    | true => exact .crcReject hbin hsync hsize hlen hcrc hstrict
    | false => exact .frameLenient hbin hsync hsize hlen hcrc hstrict

/-- **The inversion lemma.** Everything proved about the transport goes through these cases. -/
theorem passCase_drainPass (t : UnicoreTransport) : PassCase t t.drainPass := by
  unfold drainPass
  by_cases hbuf : t.buffer = []
  · rw [if_pos hbuf]
    exact .empty hbuf
  rw [if_neg hbuf]
  by_cases hbin : t.options.enableBinary = false
  · rw [if_pos hbin]
    cases hnl : findNewline t.buffer with
    | none => exact .asciiWait hbin hnl
    | some newline => exact .asciiLine newline hbin hnl
  rw [if_neg hbin]
  have hbin : t.options.enableBinary = true := by simpa using hbin
  rcases hsync : findBinarySync t.buffer with _ | _ | sync <;>
    rcases hnl : findNewline t.buffer with _ | newline <;> simp only
  · cases hs : startsSentence t.buffer with
    | true => simpa using PassCase.hold hbin hsync hnl (.inl hs)
    | false =>
      cases hp : beginsWithBinarySyncPrefix t.buffer with
      | true => simpa using PassCase.hold hbin hsync hnl (.inr hp)
      | false => simpa using PassCase.drop hbin hbuf hsync hnl hs hp
  · exact .line newline hbin hnl (by simp [hsync])
  · exact passCase_tryExtractBinaryFrame hbin hsync
  · exact passCase_tryExtractBinaryFrame hbin hsync
  · exact .skip (sync + 1) hbin (Nat.succ_pos _) hsync (by simp [hnl])
  · split
    case isTrue hlt =>
      exact .line newline hbin hnl fun j hj => by
        obtain rfl : sync + 1 = j := by simpa [hsync] using hj
        exact hlt
    case isFalse hge =>
      exact .skip (sync + 1) hbin (Nat.succ_pos _) hsync fun j hj => by
        obtain rfl : newline = j := by simpa [hnl] using hj
        omega

/-- A pass that stops leaves the buffer as it is. -/
theorem buffer_of_stop {t' : UnicoreTransport} (h : t.drainPass = .stop t') :
    t'.options = t.options ∧ t'.buffer = t.buffer := by
  have hcase := passCase_drainPass t
  rw [h] at hcase
  cases hcase <;> simp

/-! ### The transport as a reader -/

/-- A pass that goes on takes at least one byte, and only from the front. -/
theorem buffer_of_next {out : List UnicoreTransportEvent} {t' : UnicoreTransport}
    (h : t.drainPass = .next out t') :
    t'.options = t.options ∧ ∃ n, 0 < n ∧ n ≤ t.buffer.length ∧ t'.buffer = t.buffer.drop n := by
  have hcase := passCase_drainPass t
  have hmin := le_frameSize t.buffer
  rw [h] at hcase
  cases hcase with
  | asciiLine newline _ hnl =>
    exact ⟨rfl, newline + 1, by omega, firstMatch_lt hnl, rfl⟩
  | tooLarge _ _ hlen _ => exact ⟨by simp, 1, by omega, by omega, by simp⟩
  | crcReject _ _ _ hlen _ _ => exact ⟨by simp, 1, by omega, by omega, by simp⟩
  | frame _ _ _ hlen _ => exact ⟨by simp, frameSize t.buffer, by omega, hlen, by simp⟩
  | frameLenient _ _ _ hlen _ _ => exact ⟨by simp, frameSize t.buffer, by omega, hlen, by simp⟩
  | line newline _ hnl _ => exact ⟨rfl, newline + 1, by omega, firstMatch_lt hnl, rfl⟩
  | skip sync _ hpos hsync _ => exact ⟨rfl, sync, hpos, Nat.le_of_lt (firstMatch_lt hsync), rfl⟩
  | drop _ hbuf _ _ _ _ => exact ⟨rfl, 1, by omega, List.length_pos_iff.mpr hbuf, rfl⟩

/-- The transport as a reader of bytes. -/
def reader : BufferedReader UInt8 UnicoreTransport UnicoreTransportEvent where
  buffer := UnicoreTransport.buffer
  push := append
  pass := drainPass
  buffer_push c t := rfl
  shrink h := by
    obtain ⟨-, n, hpos, hle, hbuf⟩ := buffer_of_next h
    rw [hbuf, List.length_drop]
    omega

/-- `drain`, with the events it returns. -/
def drain (t : UnicoreTransport) : List UnicoreTransportEvent × UnicoreTransport := reader.drain t

/-- A transport that has just been constructed. -/
def fresh (options : UnicoreTransportOptions) : UnicoreTransport := { options := options }

/-- A run of `append` and `drain` calls. -/
abbrev run (calls : List (Call UInt8)) (t : UnicoreTransport) :
    List UnicoreTransportEvent × UnicoreTransport := reader.run calls t

@[simp] theorem reader_buffer : reader.buffer t = t.buffer := rfl

@[simp] theorem reader_push (c : Bytes) : reader.push c t = t.append c := rfl

@[simp] theorem reader_pass : reader.pass t = t.drainPass := rfl

@[simp] theorem buffer_fresh (o : UnicoreTransportOptions) : (fresh o).buffer = [] := rfl

@[simp] theorem options_fresh (o : UnicoreTransportOptions) : (fresh o).options = o := rfl

example : (run [.push [0x41, 0x0D, 0x0A, 0x78], .drain] (fresh { enableBinary := true })).1 =
    [.asciiLine [0x41]] := by decide

end UnicoreTransport

end UnicoreGnss
