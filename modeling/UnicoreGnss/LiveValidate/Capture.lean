import UnicoreGnss.Lib.PartialRuns
import UnicoreGnss.Lib.Tally
import UnicoreGnss.LiveValidate.CrcLog
import UnicoreGnss.LiveValidate.Frequency
import UnicoreGnss.LiveValidate.Snapshots

/-!
# The capture

What `tools/unicore_live_validate.py` does with the bytes that it reads: the framer cuts them into
lines and frames, and a handler enters each of these into the books, where the summary will find
them. Only the text log is left out.

A line is of one of six kinds, and its kind decides what is entered, although the handlers test and
parse and count by turns. They also count a line under a type that they read twice, once from the
line and once from its fields.

The parsers of the `#` logs run inside a `try`, but the branch for GGA does not: if the quality or
the number of satellites is too large for a `float`, an exception leaves `run`, and there is no
summary. From there on a handler has nothing to answer, and `none` stands for that.

## Main definitions

* `Counts`, `Capture` — the books, with the handlers
* `Validator.processChunk`, `Validator.run` — the loop of `run`
* `LineKind`, `kindOfLine` — what a line is

## Main results

* `lineToken_eq` — the two readings of a line's type agree
-/

namespace UnicoreGnss.LiveValidate

open Checked CNumber

/-! ### Names -/

/-- `KNOWN_UNICORE_ASCII_TYPES` -/
def knownUnicoreAsciiTypes : List Text :=
  ["AGCA", "BESTNAVA", "BESTSATA", "FREQJAMSTATUSA", "HWSTATUSA", "JAMSTATUSA", "PVTSLNA",
    "RTCMSTATUSA", "RTKSTATUSA", "SATSINFOA", "VERSIONA"].map ascii

/-- `KNOWN_BINARY_IDS` -/
def knownBinaryIds : List (ℕ × Text) :=
  [(138, ascii "OBSVMCMPB"), (218, ascii "HWSTATUSB"), (220, ascii "AGCB"),
    (509, ascii "RTKSTATUSB"), (511, ascii "JAMSTATUSB"), (519, ascii "FREQJAMSTATUSB"),
    (972, ascii "UNIHEADINGB"), (1021, ascii "PVTSLNB"), (1041, ascii "BESTSATB"),
    (2118, ascii "BESTNAVB"), (2124, ascii "SATSINFOB"), (2125, ascii "RTCMSTATUSB")]

/-- The name under which a frame is counted. -/
def frameName (messageId : ℕ) : Text :=
  (knownBinaryIds.lookup messageId).getD (ascii "ID_" ++ decimal messageId)

/-- `text.split(",", 1)[0]` -/
def beforeComma (text : Text) : Text := text.takeWhile (· ≠ comma)

/-- `_line_token` -/
def lineToken (line : Text) : Text :=
  let body := if line.head? = some dollar ∨ line.head? = some hash then line.drop 1 else line
  beforeComma (body.takeWhile (· ≠ star))

/-! ### Snapshots -/

/-- What a text log of a known type leaves. -/
inductive AsciiSnapshot where
  | pvtslna (snapshot : PvtslnaSnapshot)
  | bestnava (bestnav : BestnavSnapshot Text) (velocity : VelocitySnapshot Text)
  | bestsata (snapshot : BestsatSnapshot)
  | satsinfoa (snapshot : SatsinfoSnapshot)
  | rtkstatusa (snapshot : RtkstatusSnapshot Text)
  | rtcmstatusa (snapshot : RtcmstatusSnapshot)
  | agca (snapshot : AgcSnapshot)
  | hwstatusa (snapshot : HwstatusSnapshot)
  | jamstatusa (snapshot : JamstatusSnapshot Text)
  | freqjamstatusa (snapshot : FreqjamstatusSnapshot Text)

/-- The parser that `_handle_unicore_ascii_line` calls for a sentence type. It has none for
`VERSIONA`, although it knows the type. -/
def parseLog (sentenceType : Text) (fields : List Text) : Checked AsciiSnapshot :=
  if sentenceType = ascii "PVTSLNA" then do return .pvtslna (← parsePvtslna fields)
  else if sentenceType = ascii "BESTNAVA" then do
    let snapshots ← parseBestnava fields
    return .bestnava snapshots.1 snapshots.2
  else if sentenceType = ascii "BESTSATA" then do return .bestsata (← parseBestsata fields)
  else if sentenceType = ascii "SATSINFOA" then do return .satsinfoa (← parseSatsinfoa fields)
  else if sentenceType = ascii "RTKSTATUSA" then do return .rtkstatusa (← parseRtkstatusa fields)
  else if sentenceType = ascii "RTCMSTATUSA" then do return .rtcmstatusa (← parseRtcmstatusa fields)
  else if sentenceType = ascii "AGCA" then do return .agca (← parseAgca fields)
  else if sentenceType = ascii "HWSTATUSA" then do return .hwstatusa (← parseHwstatusa fields)
  else if sentenceType = ascii "JAMSTATUSA" then do return .jamstatusa (← parseJamstatusa fields)
  else if sentenceType = ascii "FREQJAMSTATUSA" then do
    return .freqjamstatusa (← parseFreqjamstatusa fields)
  else refused

/-- `nav_ascii` -/
structure NavAscii where
  gga : Option FixSnapshot := none
  pvtslna : Option PvtslnaSnapshot := none
  bestnava : Option (BestnavSnapshot Text) := none
  bestnavaVelocity : Option (VelocitySnapshot Text) := none
  bestsata : Option BestsatSnapshot := none
  satsinfoa : Option SatsinfoSnapshot := none
  rtkstatusa : Option (RtkstatusSnapshot Text) := none
  rtcmstatusa : Option RtcmstatusSnapshot := none
  agca : Option AgcSnapshot := none
  hwstatusa : Option HwstatusSnapshot := none
  jamstatusa : Option (JamstatusSnapshot Text) := none
  freqjamstatusa : Option (FreqjamstatusSnapshot Text) := none

/-- `update_ascii_snapshot` -/
def NavAscii.update (nav : NavAscii) : AsciiSnapshot → NavAscii
  | .pvtslna snapshot => { nav with pvtslna := some snapshot }
  | .bestnava bestnav velocity =>
    { nav with bestnava := some bestnav, bestnavaVelocity := some velocity }
  | .bestsata snapshot => { nav with bestsata := some snapshot }
  | .satsinfoa snapshot => { nav with satsinfoa := some snapshot }
  | .rtkstatusa snapshot => { nav with rtkstatusa := some snapshot }
  | .rtcmstatusa snapshot => { nav with rtcmstatusa := some snapshot }
  | .agca snapshot => { nav with agca := some snapshot }
  | .hwstatusa snapshot => { nav with hwstatusa := some snapshot }
  | .jamstatusa snapshot => { nav with jamstatusa := some snapshot }
  | .freqjamstatusa snapshot => { nav with freqjamstatusa := some snapshot }

/-- `nav_binary` -/
structure NavBinary where
  pvtslnb : Option PvtslnbSnapshot := none
  bestnavb : Option (BestnavSnapshot ℕ) := none
  bestnavbVelocity : Option (VelocitySnapshot ℕ) := none
  bestsatb : Option BestsatSnapshot := none
  satsinfob : Option SatsinfoSnapshot := none
  rtcmstatusb : Option RtcmstatusSnapshot := none
  rtkstatusb : Option (RtkstatusSnapshot ℕ) := none
  agcb : Option AgcSnapshot := none
  hwstatusb : Option HwstatusSnapshot := none
  jamstatusb : Option (JamstatusSnapshot ℕ) := none
  freqjamstatusb : Option (FreqjamstatusSnapshot ℕ) := none
  obsvmcmpb : Option ObsvmcmpSnapshot := none

/-- `update_binary_snapshot` -/
def NavBinary.update (nav : NavBinary) : BinarySnapshot → NavBinary
  | .pvtslnb snapshot => { nav with pvtslnb := some snapshot }
  | .bestnavb bestnav velocity =>
    { nav with bestnavb := some bestnav, bestnavbVelocity := some velocity }
  | .bestsatb snapshot => { nav with bestsatb := some snapshot }
  | .satsinfob snapshot => { nav with satsinfob := some snapshot }
  | .rtcmstatusb snapshot => { nav with rtcmstatusb := some snapshot }
  | .rtkstatusb snapshot => { nav with rtkstatusb := some snapshot }
  | .agcb snapshot => { nav with agcb := some snapshot }
  | .hwstatusb snapshot => { nav with hwstatusb := some snapshot }
  | .jamstatusb snapshot => { nav with jamstatusb := some snapshot }
  | .freqjamstatusb snapshot => { nav with freqjamstatusb := some snapshot }
  | .obsvmcmpb snapshot => { nav with obsvmcmpb := some snapshot }

/-! ### The books -/

/-- The members of `CaptureState` that count, but for those that are copied from the framer. -/
structure Counts extends CaptureState where
  totalBytes : ℕ := 0
  binaryFramesTotal : ℕ := 0
  binaryKnownButUnparsed : ℕ := 0
  messageCounters : Text → MessageCounter := fun _ => {}
  unknownAsciiTypes : Tally Text := ∅
  unknownBinaryIds : Tally ℕ := ∅

/-- The members of `CaptureState` that the capture changes: what is counted, and what the last log
of each kind has said. -/
structure Capture extends Counts where
  navAscii : NavAscii := {}
  navBinary : NavBinary := {}
  gsvCounts : Text → Option ℤ := fun _ => none
  latestRtcmAsciiTs : Option ℚ := none
  latestRtcmBinaryTs : Option ℚ := none

namespace Capture

variable (c : Capture)

/-- `record_message` -/
def recordMessage (name : Text) (ts : ℚ) : Capture :=
  { c with
    messageCounters := Function.update c.messageCounters name
      ((c.messageCounters name).add ts) }

/-- `record_unknown_ascii` -/
def recordUnknownAscii (name : Text) : Capture :=
  { c with unknownAsciiTypes := c.unknownAsciiTypes.add name }

/-- `record_unknown_binary` -/
def recordUnknownBinary (messageId : ℕ) : Capture :=
  { c with unknownBinaryIds := c.unknownBinaryIds.add messageId }

/-- A GSV sentence leaves how many satellites it says are in view. -/
def updateGsv (sentenceType : Text) (fields : List Text) : Capture :=
  (fields[3]?.bind fun field => parseInt field 10).elim c fun totalInView =>
    { c with gsvCounts := Function.update c.gsvCounts (sentenceType.take 2) (some totalInView) }

/-- A GGA or GSV sentence leaves what it says. Of a GGA this can raise an exception. -/
def updateNmea (sentenceType : Text) (fields : List Text) : Option Capture :=
  if sentenceSuffix sentenceType = ascii "GGA" ∧ 10 ≤ fields.length then
    (ggaSnapshot fields).toOption.map fun snapshot =>
      { c with navAscii := { c.navAscii with gga := some snapshot } }
  else if sentenceSuffix sentenceType = ascii "GSV" ∧ 4 ≤ fields.length then
    some (c.updateGsv sentenceType fields)
  else some c

/-- `_handle_nmea_line` -/
def handleNmeaLine (ts : ℚ) (line : Text) : Option Capture :=
  if validateNmea line then
    let c := { c with nmeaChecksumOk := c.nmeaChecksumOk + 1 }
    let fields := lineFields line
    let sentenceType := fields.headD []
    let c := c.recordMessage sentenceType ts
    if ¬ knownNmeaSuffixes.contains (sentenceSuffix sentenceType) ∧
        ¬ knownNmeaTypes.contains sentenceType then
      some (c.recordUnknownAscii sentenceType)
    else c.updateNmea sentenceType fields
  else
    let c := { c with nmeaChecksumBad := c.nmeaChecksumBad + 1 }
    let token := lineToken line
    some (if token ≠ [] then c.recordUnknownAscii token else c)

/-- A parsed log is stored, and of an RTCMSTATUSA the time as well. -/
def updateAscii (ts : ℚ) (snapshot : AsciiSnapshot) : Capture :=
  let c := { c with navAscii := c.navAscii.update snapshot }
  match snapshot with
  | .rtcmstatusa _ => { c with latestRtcmAsciiTs := some ts }
  | _ => c

/-- The `try` block: what is refused is passed over, and an exception makes the type unknown. -/
def storeLog (ts : ℚ) (sentenceType : Text) (parsed : Checked AsciiSnapshot) : Capture :=
  match parsed with
  | value snapshot => c.updateAscii ts snapshot
  | refused => c
  | outside => c.recordUnknownAscii sentenceType

/-- `_handle_unicore_ascii_line` -/
def handleUnicoreAsciiLine (ts : ℚ) (line : Text) : Capture :=
  let token := lineToken line
  let knownHeader := knownUnicoreAsciiTypes.contains token
  let c := if token ≠ [] ∧ knownHeader then c.recordMessage token ts else c
  if validateUnicoreAscii line then
    let c := { c with unicoreAsciiCrcOk := c.unicoreAsciiCrcOk + 1 }
    let fields := lineFields line
    let sentenceType := fields.headD []
    let c := if sentenceType ≠ [] ∧ ¬ knownHeader then c.recordMessage sentenceType ts else c
    if ¬ knownUnicoreAsciiTypes.contains sentenceType then c.recordUnknownAscii sentenceType
    else c.storeLog ts sentenceType (parseLog sentenceType fields)
  else
    let c := { c with unicoreAsciiCrcBad := c.unicoreAsciiCrcBad + 1 }
    if token ≠ [] ∧ ¬ knownHeader then c.recordUnknownAscii token else c

/-- `_handle_line` -/
def handleLine (ts : ℚ) (rawLine : Bytes) : Option Capture :=
  let c := { c with asciiLinesTotal := c.asciiLinesTotal + 1 }
  if looksBinaryGarbage rawLine then some c
  else
    let text := decodeAscii rawLine
    if text.head? = some dollar then c.handleNmeaLine ts text
    else if text.head? = some hash then some (c.handleUnicoreAsciiLine ts text)
    else some (c.recordUnknownAscii (beforeComma text))

/-- A parsed frame is stored, and of an RTCMSTATUSB the time as well. -/
def updateBinary (ts : ℚ) (snapshot : BinarySnapshot) : Capture :=
  let c := { c with navBinary := c.navBinary.update snapshot }
  match snapshot with
  | .rtcmstatusb _ => { c with latestRtcmBinaryTs := some ts }
  | _ => c

/-- `_handle_binary_frame` -/
def handleBinaryFrame (ts : ℚ) (frame : BinaryFrame) : Capture :=
  let c := { c with binaryFramesTotal := c.binaryFramesTotal + 1 }
  let c := c.recordMessage (frameName frame.messageId) ts
  if (knownBinaryIds.lookup frame.messageId).isNone then c.recordUnknownBinary frame.messageId
  else (parseFrame frame.messageId frame.payload).toOption.elim
    { c with binaryKnownButUnparsed := c.binaryKnownButUnparsed + 1 } (c.updateBinary ts)

/-- One turn of the loop over the events. -/
def handleEvent (event : ℚ × TransportEvent) : Option Capture :=
  match event.2 with
  | .line rawLine => c.handleLine event.1 rawLine
  | .binary frame => some (c.handleBinaryFrame event.1 frame)

end Capture

/-- The validator while it captures. -/
structure Validator extends LiveValidator where
  capture : Capture := {}

namespace Validator

/-- `__init__`, and the text log that `run` opens. -/
def init (binaryMaxFrameSize : ℕ) : Validator where
  toLiveValidator := .init binaryMaxFrameSize

/-- One turn of the loop of `run`: a chunk has been read, or nothing. -/
def processChunk (v : Validator) (chunk : Bytes × ℚ) : Option Validator :=
  if chunk.1 = [] then some v
  else
    let processed := v.processBytes chunk.1 chunk.2
    let capture := { v.capture with totalBytes := v.capture.totalBytes + chunk.1.length }
    (PartialRun.run Capture.handleEvent capture processed.1).map fun capture =>
      { toLiveValidator := processed.2, capture }

/-- The loop of `run`, for the chunks that are read and their times. -/
def run (chunks : List (Bytes × ℚ)) (v : Validator) : Option Validator :=
  PartialRun.run processChunk v chunks

end Validator

/-! ### Kinds of lines -/

/-- What a line is. -/
inductive LineKind where
  /-- Neither decoded nor looked at. -/
  | garbage
  /-- A `$` line with a matching checksum. -/
  | nmea (fields : List Text)
  | badNmea (token : Text)
  /-- A `#` line with a matching CRC. -/
  | unicore (fields : List Text)
  | badUnicore (token : Text)
  | other (token : Text)
  deriving DecidableEq

/-- What `_handle_line` takes the bytes of a line for, by the first character and the check value.
-/
def kindOfLine (rawLine : Bytes) : LineKind :=
  let text := decodeAscii rawLine
  if looksBinaryGarbage rawLine then .garbage
  else if text.head? = some dollar then
    if validateNmea text then .nmea (lineFields text) else .badNmea (lineToken text)
  else if text.head? = some hash then
    if validateUnicoreAscii text then .unicore (lineFields text) else .badUnicore (lineToken text)
  else .other (beforeComma text)

namespace LineKind

/-- The message that is counted. Of a `#` line with a wrong CRC a known type counts as well. -/
def messages : LineKind → List Text
  | garbage => []
  | nmea fields => [fields.headD []]
  | badNmea _ => []
  | unicore fields => if fields.headD [] = [] then [] else [fields.headD []]
  | badUnicore token => if knownUnicoreAsciiTypes.contains token then [token] else []
  | other _ => []

/-- The type that is counted as unknown. -/
def unknown : LineKind → List Text
  | garbage => []
  | nmea fields =>
    if knownNmeaSuffixes.contains (sentenceSuffix (fields.headD [])) ∨
      knownNmeaTypes.contains (fields.headD []) then [] else [fields.headD []]
  | badNmea token => if token = [] then [] else [token]
  | unicore fields =>
    if knownUnicoreAsciiTypes.contains (fields.headD []) ∧
      Inside (parseLog (fields.headD []) fields) then [] else [fields.headD []]
  | badUnicore token =>
    if token = [] ∨ knownUnicoreAsciiTypes.contains token then [] else [token]
  | other token => [token]

/-- An exception leaves the handler: a GGA whose quality or number of satellites is an integer that
`float` cannot hold. -/
def raises : LineKind → Bool
  | nmea fields => sentenceSuffix (fields.headD []) = ascii "GGA" ∧ 10 ≤ fields.length ∧
      ((fields[6]?.bind fun field => parseInt field 10).any overflowsFloat ∨
        (fields[7]?.bind fun field => parseInt field 10).any overflowsFloat)
  | _ => false

end LineKind

/-- The head of the fields is what stands before the first comma. -/
theorem headD_splitOn (text : Text) : (text.splitOn comma).headD [] = beforeComma text := by
  induction text with
  | nil => rfl
  | cons c text ih =>
    rw [List.splitOn] at ih ⊢
    rw [List.splitOnP_cons_eq_if_modifyHead, beforeComma]
    by_cases hc : c = comma
    · rw [if_pos (beq_iff_eq.mpr hc), List.takeWhile_cons_of_neg (by simpa using hc)]
      rfl
    · rw [if_neg (by simpa using hc), List.takeWhile_cons_of_pos (by simpa using hc)]
      cases hsplit : text.splitOnP (· == comma) with
      | nil => exact absurd hsplit (List.splitOnP_ne_nil _ _)
      | cons field fields =>
        rw [hsplit] at ih
        exact congrArg (c :: ·) ih

theorem take_idxOf (c : UInt8) (text : Text) :
    text.take (text.idxOf c) = text.takeWhile (· ≠ c) := by
  induction text with
  | nil => rfl
  | cons d text ih =>
    by_cases hd : d = c
    · rw [hd, List.idxOf_cons_self, List.takeWhile_cons_of_neg (by simp)]
      rfl
    · rw [List.idxOf_cons_ne _ hd, List.takeWhile_cons_of_pos (by simpa using hd),
        List.take_succ_cons, ih]

/-- A sealed line is counted under the type that its fields begin with. -/
theorem lineToken_eq {line : Text} (hhead : line.head? = some dollar ∨ line.head? = some hash) :
    lineToken line = (lineFields line).headD [] := by
  rw [lineToken, if_pos hhead, lineFields, headD_splitOn, slice]
  obtain ⟨first, rest, rfl⟩ : ∃ first rest, line = first :: rest := by
    cases line with
    | nil => simp at hhead
    | cons first rest => exact ⟨first, rest, rfl⟩
  have hfirst : first ≠ star := by
    rintro rfl
    rw [List.head?_cons, Option.some.injEq, Option.some.injEq] at hhead
    exact absurd hhead (by decide)
  have hindex : (first :: rest).idxOf star - 1 = rest.idxOf star := by
    rw [List.idxOf_cons_ne _ hfirst]
    rfl
  rw [hindex, List.drop_one, List.tail_cons, take_idxOf]

end UnicoreGnss.LiveValidate
