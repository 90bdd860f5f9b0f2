import UnicoreGnss.Node.Diagnostics
import UnicoreGnss.Parser.Integers

/-!
# Differences of `int`

With `binary_compare_ascii` on, three of the diagnostics compare a record of the text lines with one
of the binary frames: `gps_rtk_status`, `gps_ntrip_status` and `gps_jamming_status`. The differences
are taken on `int`, and that of two counters need not be one. The frame has unsigned words, which
are cast to `int`; the line has a decimal text of any length, which `parse_int` casts as well. From
`2 ^ 31` on a counter is stored as a negative number, and not until both counters have got there are
the two stored numbers as far apart as the counters.

An `int` that overflows is left undefined by the language. Here such a difference is `none`.

## Main definitions

* `intSub` — subtraction of `int`s
* `rtkComparison`, `rtcmComparison`, `jammingComparison` — what the diagnostics add
* `IntDelta`, `intDeltas` — the subtractions, with what was transmitted

## Main results

* `IntDelta.exact_iff` — when a subtraction gives the difference of what was transmitted
* `int_deltas_iff` — the same for all that is accepted by the parsers
-/

namespace UnicoreGnss

open CNumber Checked

/-! ### What the diagnostics add -/

/-- `a - b` on `int`, or nothing where it overflows. -/
def intSub (a b : ℤ) : Option ℤ :=
  if -2 ^ 31 ≤ a - b ∧ a - b < 2 ^ 31 then some (a - b) else none

/-- What is said of the record of a line and that of a frame, if both are there. -/
def ofBoth {α : Type} {β : Type} (ascii binary : Option α) (absent : β) (say : α → α → β) : β :=
  ascii.elim absent fun ascii => binary.elim absent fun binary => say ascii binary

/-- `std::to_string` of a difference, which may be undefined. -/
def intDeltaText {α : Type} (ascii binary : Option α) (field : α → ℤ) : Option Bytes :=
  ofBoth ascii binary (some notAvailable) fun ascii binary =>
    (intSub (field binary) (field ascii)).map decimalInt

/-- Is a field the same? -/
def matchText {α β : Type} [DecidableEq β] (ascii binary : Option α) (field : α → β) : Bytes :=
  ofBoth ascii binary notAvailable fun ascii binary => boolText (field ascii = field binary)

/-- What `gps_rtk_status` adds. -/
def rtkComparison (asciiRtkStatus binaryRtkStatus : Option RtkStatusData) :
    Option (List KeyValue) := do
  let calculateStatusDelta ← intDeltaText asciiRtkStatus binaryRtkStatus (·.calculateStatus)
  let adrObservationsDelta ← intDeltaText asciiRtkStatus binaryRtkStatus (·.adrObservationCount)
  return [
    kv "binary_ascii_rtk_position_type_match"
      (matchText asciiRtkStatus binaryRtkStatus (·.positionType)),
    kv "binary_ascii_rtk_calculate_status_delta" calculateStatusDelta,
    kv "binary_ascii_adr_observations_delta" adrObservationsDelta]

/-- What `gps_ntrip_status` adds. The counters are compared if both are about one message. -/
def rtcmComparison (asciiRtcmStatus binaryRtcmStatus : Option RtcmStatusData) :
    Option (List KeyValue) := do
  let messageIdMatch : Bool := ofBoth asciiRtcmStatus binaryRtcmStatus false fun ascii binary =>
    ascii.messageId = binary.messageId
  let counterDelta ←
    if messageIdMatch then intDeltaText asciiRtcmStatus binaryRtcmStatus (·.messageCount)
    else some notAvailable
  let satelliteDelta ← intDeltaText asciiRtcmStatus binaryRtcmStatus (·.satelliteCount)
  return [
    kv "binary_ascii_rtcm_msg_id_match" (boolText messageIdMatch),
    kv "binary_ascii_rtcm_counter_delta" counterDelta,
    kv "binary_ascii_rtcm_satellite_delta" satelliteDelta]

/-- What `gps_jamming_status` adds. -/
def jammingComparison (asciiJam binaryJam : Option JamStatusData)
    (asciiFreqJam binaryFreqJam : Option FreqJamStatusData) : Option (List KeyValue) := do
  let jamRatioDelta ← intDeltaText asciiJam binaryJam (·.cwRatio)
  return [
    kv "binary_ascii_jam_flag_match" (matchText asciiJam binaryJam (·.cwFlag)),
    kv "binary_ascii_jam_ratio_delta" jamRatioDelta,
    kv "binary_ascii_l1_jam_flag_match" (matchText asciiFreqJam binaryFreqJam (·.cwFlag.get 0))]

/-! ### One subtraction -/

/-- A subtraction of two `int`s: the operands, the number that the frame has transmitted for the
first one and the text that the line has transmitted for the second one. -/
structure IntDelta where
  binary : ℤ
  ascii : ℤ
  transmitted : ℕ
  text : Bytes
  deriving DecidableEq, Repr

/-- The counters are on the same side of `2 ^ 31` and not too far apart: `u` is what the frame
says and `m` what the line says. -/
def SameSide (u m : ℤ) : Prop :=
  u < 2 ^ 31 ∧ u - 2 ^ 31 < m ∧ m < 2 ^ 31 ∨ 2 ^ 31 ≤ u ∧ 2 ^ 31 ≤ m ∧ m ≤ u + 2 ^ 31

instance (u m : ℤ) : Decidable (SameSide u m) := inferInstanceAs (Decidable (_ ∨ _))

theorem intSub_eq_some_iff {a b d : ℤ} :
    intSub a b = some d ↔ a - b = d ∧ -2 ^ 31 ≤ d ∧ d < 2 ^ 31 := by
  rw [intSub]
  split
  case isTrue hrange =>
    rw [Option.some_inj]
    constructor
    · rintro rfl
      exact ⟨rfl, hrange⟩
    · exact fun h => h.1
  case isFalse hrange =>
    simp only [reduceCtorEq, false_iff]
    rintro ⟨rfl, h⟩
    exact hrange h

/-- **Subtraction of what is stored** gives the difference of what it stands for exactly if both are
on the same side. -/
theorem intSub_toInt_iff {u m : ℤ} (hlow : 0 ≤ u) (hhigh : u < 2 ^ 32) :
    intSub (toInt u) (toInt (toLong m)) = some (u - m) ↔ SameSide u m := by
  have hu : toInt u = if u < 2 ^ 31 then u else u - 2 ^ 32 := by
    rw [toInt, Int.bmod_def]
    split <;> split <;> omega
  rw [intSub_eq_some_iff, hu, SameSide]
  by_cases hlong : -2 ^ 63 ≤ m ∧ m < 2 ^ 63
  · have hm : toLong m = m := by
      rw [toLong]
      omega
    rw [hm, toInt, Int.bmod_def]
    split <;> split <;> omega
  · -- then the text is no `long` and the difference no `int`
    have hrange := toInt_range (toLong m)
    omega

namespace IntDelta

/-- The text denotes an integer, and the difference is that of what was transmitted. -/
def Exact (d : IntDelta) : Prop :=
  ∃ m ∈ integerNumber 10 d.text, intSub d.binary d.ascii = some (d.transmitted - m)

/-- The text denotes an integer on the same side as what the frame says. -/
def Fits (d : IntDelta) : Prop := ∃ m ∈ integerNumber 10 d.text, SameSide d.transmitted m

/-- The operands are what the parsers have made of what was transmitted. -/
structure Carried (d : IntDelta) : Prop where
  ascii : UnicoreParser.parseInt d.text = some d.ascii
  binary : d.binary = toInt d.transmitted
  transmitted : d.transmitted < 2 ^ 32

instance (d : IntDelta) : Decidable d.Exact :=
  inferInstanceAs (Decidable (∃ m ∈ integerNumber 10 d.text, _ = _))

instance (d : IntDelta) : Decidable d.Fits :=
  inferInstanceAs (Decidable (∃ m ∈ integerNumber 10 d.text, SameSide _ _))

/-- **One subtraction** is exact if and only if what was transmitted fits. -/
theorem exact_iff {d : IntDelta} (h : d.Carried) : d.Exact ↔ d.Fits := by
  have hbinary := h.binary
  have hhigh := h.transmitted
  refine exists_congr fun m => and_congr_right fun hm => ?_
  have hascii : d.ascii = toInt (toLong m) := by
    have hread := h.ascii
    rw [UnicoreParser.parseInt_eq, readToNul_of_notMem (zero_notMem_of_integerNumber hm), hm]
      at hread
    exact (Option.some.inj hread).symm
  rw [hbinary, hascii]
  exact intSub_toInt_iff (by omega) (by omega)

end IntDelta

/-! ### The subtractions of two sentences -/

/-- The subtractions of `rtkComparison`. -/
def rtkIntDeltas (ascii binary : RtkStatusData) (fields : List Bytes) (payload : Bytes) :
    List IntDelta :=
  [⟨binary.calculateStatus, ascii.calculateStatus, (readLe32 (payload.drop 48)).toNat,
      textAt fields 21⟩,
    ⟨binary.adrObservationCount, ascii.adrObservationCount, (byteAt payload 54).toNat,
      textAt fields 24⟩]

/-- The subtractions of `rtcmComparison`. -/
def rtcmIntDeltas (ascii binary : RtcmStatusData) (fields : List Bytes) (payload : Bytes) :
    List IntDelta :=
  (if ascii.messageId = binary.messageId then
    [⟨binary.messageCount, ascii.messageCount, (readLe32 (payload.drop 4)).toNat,
      textAt fields 10⟩]
  else []) ++
  [⟨binary.satelliteCount, ascii.satelliteCount, (readLe32 (payload.drop 12)).toNat,
    textAt fields 12⟩]

/-- The subtractions of `jammingComparison`. -/
def jammingIntDeltas (ascii binary : JamStatusData) (fields : List Bytes) (payload : Bytes) :
    List IntDelta :=
  [⟨binary.cwRatio, ascii.cwRatio, (byteAt payload 4).toNat, textAt fields 10⟩]

/-- The subtractions for a sentence of a line and one of a frame. -/
def intDeltas (ascii binary : ParsedSentence) (fields : List Bytes) (payload : Bytes) :
    List IntDelta :=
  (ofBoth ascii.rtkStatus binary.rtkStatus [] fun ascii binary =>
    rtkIntDeltas ascii binary fields payload) ++
  (ofBoth ascii.rtcmStatus binary.rtcmStatus [] fun ascii binary =>
    rtcmIntDeltas ascii binary fields payload) ++
  (ofBoth ascii.jamStatus binary.jamStatus [] fun ascii binary =>
    jammingIntDeltas ascii binary fields payload)

/-- Does it overflow? -/
def IntDelta.Defined (d : IntDelta) : Prop := (intSub d.binary d.ascii).isSome = true

theorem rtkComparison_isSome_iff (ascii binary : Option RtkStatusData) (fields : List Bytes)
    (payload : Bytes) :
    (rtkComparison ascii binary).isSome = true ↔
      ∀ d ∈ ofBoth ascii binary [] (rtkIntDeltas · · fields payload), d.Defined := by
  rcases ascii with _ | ascii <;> rcases binary with _ | binary
  iterate 3 simp [rtkComparison, intDeltaText, ofBoth]
  simp only [rtkComparison, intDeltaText, ofBoth, Option.elim_some, rtkIntDeltas,
    List.forall_mem_cons, IntDelta.Defined]
  cases intSub binary.calculateStatus ascii.calculateStatus <;>
    cases intSub binary.adrObservationCount ascii.adrObservationCount <;> simp

theorem rtcmComparison_isSome_iff (ascii binary : Option RtcmStatusData) (fields : List Bytes)
    (payload : Bytes) :
    (rtcmComparison ascii binary).isSome = true ↔
      ∀ d ∈ ofBoth ascii binary [] (rtcmIntDeltas · · fields payload), d.Defined := by
  rcases ascii with _ | ascii <;> rcases binary with _ | binary
  iterate 3 simp [rtcmComparison, intDeltaText, ofBoth]
  by_cases hid : ascii.messageId = binary.messageId
  all_goals
    simp only [rtcmComparison, intDeltaText, ofBoth, Option.elim_some, rtcmIntDeltas, hid, if_true,
      if_false, decide_true, decide_false, Bool.false_eq_true, List.forall_mem_append,
      List.forall_mem_cons, IntDelta.Defined]
    cases intSub binary.messageCount ascii.messageCount <;>
      cases intSub binary.satelliteCount ascii.satelliteCount <;> simp

theorem jammingComparison_isSome_iff (ascii binary : Option JamStatusData)
    (asciiFreq binaryFreq : Option FreqJamStatusData) (fields : List Bytes) (payload : Bytes) :
    (jammingComparison ascii binary asciiFreq binaryFreq).isSome = true ↔
      ∀ d ∈ ofBoth ascii binary [] (jammingIntDeltas · · fields payload), d.Defined := by
  rcases ascii with _ | ascii <;> rcases binary with _ | binary
  iterate 3 simp [jammingComparison, intDeltaText, ofBoth]
  simp only [jammingComparison, intDeltaText, ofBoth, Option.elim_some, jammingIntDeltas,
    List.forall_mem_cons, IntDelta.Defined]
  cases intSub binary.cwRatio ascii.cwRatio <;> simp

/-- **What the diagnostics add is defined** exactly if all the subtractions are. -/
theorem comparisons_isSome_iff (ascii binary : ParsedSentence) (fields : List Bytes)
    (payload : Bytes) :
    ((rtkComparison ascii.rtkStatus binary.rtkStatus).isSome = true ∧
      (rtcmComparison ascii.rtcmStatus binary.rtcmStatus).isSome = true ∧
      (jammingComparison ascii.jamStatus binary.jamStatus ascii.freqJamStatus
        binary.freqJamStatus).isSome = true) ↔
      ∀ d ∈ intDeltas ascii binary fields payload, d.Defined := by
  rw [intDeltas, List.forall_mem_append, List.forall_mem_append, and_assoc,
    rtkComparison_isSome_iff _ _ fields payload, rtcmComparison_isSome_iff _ _ fields payload,
    jammingComparison_isSome_iff _ _ _ _ fields payload]

/-! ### What the parsers have read -/

theorem forall_mem_none {α : Type} {P : α → Prop} : ∀ a ∈ (none : Option α), P a := by
  simp

/-- The texts of the fields that are compared are those of the numbers of the sentence. -/
structure ComparedFields (fields : List Bytes) (sentence : ParsedSentence) : Prop where
  rtkStatus : ∀ status ∈ sentence.rtkStatus,
    UnicoreParser.parseInt (textAt fields 21) = some status.calculateStatus ∧
    UnicoreParser.parseInt (textAt fields 24) = some status.adrObservationCount
  rtcmStatus : ∀ status ∈ sentence.rtcmStatus,
    UnicoreParser.parseInt (textAt fields 10) = some status.messageCount ∧
    UnicoreParser.parseInt (textAt fields 12) = some status.satelliteCount
  jamStatus : ∀ status ∈ sentence.jamStatus,
    UnicoreParser.parseInt (textAt fields 10) = some status.cwRatio

/-- The words and bytes of a payload that are compared are those of the numbers of the sentence. -/
structure ComparedBytes (payload : Bytes) (sentence : ParsedSentence) : Prop where
  rtkStatus : ∀ status ∈ sentence.rtkStatus,
    status.calculateStatus = toInt (readLe32 (payload.drop 48)).toNat ∧
    status.adrObservationCount = toInt (byteAt payload 54).toNat
  rtcmStatus : ∀ status ∈ sentence.rtcmStatus,
    status.messageCount = toInt (readLe32 (payload.drop 4)).toNat ∧
    status.satelliteCount = toInt (readLe32 (payload.drop 12)).toNat
  jamStatus : ∀ status ∈ sentence.jamStatus,
    status.cwRatio = toInt (byteAt payload 4).toNat

namespace UnicoreParser

variable (math : MathFunctions) (fields : List Bytes)

theorem parseInt_of_intAt {fields : List Bytes} {i : ℕ} {v : ℤ} (h : intAt fields i = value v) :
    parseInt (textAt fields i) = some v := by
  obtain ⟨text, htext, hread⟩ := bind_eq_value.mp h
  rw [textAt_of_get htext]
  exact ofOption_eq_value.mp hread

theorem parseRtkstatusa_compared : Ensures (ComparedFields fields) (parseRtkstatusa fields) := by
  rw [parseRtkstatusa]
  repeat refine Ensures.bind_of_value fun _ _ => ?_
  refine ⟨?_, forall_mem_none, forall_mem_none⟩
  rintro status ⟨⟩
  exact ⟨parseInt_of_intAt ‹_›, parseInt_of_intAt ‹_›⟩

theorem parseRtcmstatusa_compared :
    Ensures (ComparedFields fields) (parseRtcmstatusa fields) := by
  rw [parseRtcmstatusa]
  repeat refine Ensures.bind_of_value fun _ _ => ?_
  refine ⟨forall_mem_none, ?_, forall_mem_none⟩
  rintro status ⟨⟩
  exact ⟨parseInt_of_intAt ‹_›, parseInt_of_intAt ‹_›⟩

theorem parseJamstatusa_compared : Ensures (ComparedFields fields) (parseJamstatusa fields) := by
  rw [parseJamstatusa]
  repeat refine Ensures.bind_of_value fun _ _ => ?_
  refine ⟨forall_mem_none, forall_mem_none, ?_⟩
  rintro status ⟨⟩
  exact parseInt_of_intAt ‹_›

/-- The other parsers hand out none of the three records. -/
theorem comparedFields_of_none {sentence : ParsedSentence} (hrtk : sentence.rtkStatus = none)
    (hrtcm : sentence.rtcmStatus = none) (hjam : sentence.jamStatus = none) :
    ComparedFields fields sentence := by
  constructor
  · rw [hrtk]
    exact forall_mem_none
  · rw [hrtcm]
    exact forall_mem_none
  · rw [hjam]
    exact forall_mem_none

variable {first : Bytes} {parsed : Checked ParsedSentence}

theorem nmeaParser_compared (h : nmeaParser first fields = some parsed) :
    Ensures (ComparedFields fields) parsed := by
  cases nmeaSentence_of_nmeaParser h
  all_goals
    simp only [parseGga, parseHdt, parseHpr, parseGsv]
    repeat refine Ensures.bind fun _ => ?_
    exact comparedFields_of_none fields rfl rfl rfl

theorem unicoreParser_compared (h : unicoreParser math first fields = some parsed) :
    Ensures (ComparedFields fields) parsed := by
  cases unicoreLog_of_unicoreParser h with
  | rtkstatusa => exact parseRtkstatusa_compared fields
  | rtcmstatusa => exact parseRtcmstatusa_compared fields
  | jamstatusa => exact parseJamstatusa_compared fields
  | bestnava =>
    rw [parseBestnava]
    split
    all_goals
      repeat refine Ensures.bind fun _ => ?_
      exact comparedFields_of_none fields rfl rfl rfl
  | _ =>
    simp only [parsePvtslna, parseBestsata, parseSatsinfoa, parseAgca, parseHwstatusa,
      parseFreqjamstatusa]
    repeat refine Ensures.bind fun _ => ?_
    exact comparedFields_of_none fields rfl rfl rfl

end UnicoreParser

namespace UnicoreBinaryNavParser

variable {payload : Bytes} {offset : ℕ}

/-- A word that has been read is the word at its place. -/
theorem eq_of_readU32 {v : UInt32} (h : readU32 payload offset = value v) :
    v = readLe32 (payload.drop offset) := by
  obtain ⟨bytes, hbytes, -⟩ := bind_eq_value.mp h
  obtain ⟨⟨⟩, hrange, -⟩ := bind_eq_value.mp hbytes
  obtain ⟨hoffset, hsize⟩ := require_eq_value.mp hrange
  rw [readU32_of_le (by omega)] at h
  exact (value.inj h).symm

/-- A byte that has been read is the byte at its place. -/
theorem eq_of_readU8 {b : UInt8} (h : readU8 payload offset = value b) :
    b = byteAt payload offset := by
  obtain ⟨bytes, hbytes, -⟩ := bind_eq_value.mp h
  obtain ⟨⟨⟩, hrange, -⟩ := bind_eq_value.mp hbytes
  obtain ⟨hoffset, hsize⟩ := require_eq_value.mp hrange
  rw [readU8_of_lt (by omega)] at h
  exact (value.inj h).symm

variable (payload)

theorem parseRtkstatusb_compared :
    Ensures (ComparedBytes payload) (parseRtkstatusb payload) := by
  rw [parseRtkstatusb]
  iterate 9 refine Ensures.bind fun _ => ?_
  refine Ensures.bind_of_value fun calculateStatus hcalculate => ?_
  iterate 2 refine Ensures.bind fun _ => ?_
  refine Ensures.bind_of_value fun adrObservationCount hobservations => ?_
  rw [eq_of_readU32 hcalculate, eq_of_readU8 hobservations]
  refine ⟨?_, forall_mem_none, forall_mem_none⟩
  rintro status ⟨⟩
  exact ⟨by dsimp only, (toInt_byte _).symm⟩

theorem parseRtcmstatusb_compared :
    Ensures (ComparedBytes payload) (parseRtcmstatusb payload) := by
  rw [parseRtcmstatusb]
  iterate 2 refine Ensures.bind fun _ => ?_
  refine Ensures.bind_of_value fun messageCount hcount => ?_
  refine Ensures.bind fun _ => ?_
  refine Ensures.bind_of_value fun satelliteCount hsatellites => ?_
  refine Ensures.bind fun _ => ?_
  rw [eq_of_readU32 hcount, eq_of_readU32 hsatellites]
  refine ⟨forall_mem_none, fun status hstatus => ?_, forall_mem_none⟩
  rw [← Option.some.inj hstatus]
  exact ⟨by dsimp only, by dsimp only⟩

theorem parseJamstatusb_compared :
    Ensures (ComparedBytes payload) (parseJamstatusb payload) := by
  rw [parseJamstatusb]
  iterate 2 refine Ensures.bind fun _ => ?_
  refine Ensures.bind_of_value fun cwRatio hratio => ?_
  refine Ensures.bind fun _ => ?_
  rw [eq_of_readU8 hratio]
  refine ⟨forall_mem_none, forall_mem_none, ?_⟩
  rintro status ⟨⟩
  exact (toInt_byte _).symm

theorem comparedBytes_of_none {sentence : ParsedSentence} (hrtk : sentence.rtkStatus = none)
    (hrtcm : sentence.rtcmStatus = none) (hjam : sentence.jamStatus = none) :
    ComparedBytes payload sentence := by
  constructor
  · rw [hrtk]
    exact forall_mem_none
  · rw [hrtcm]
    exact forall_mem_none
  · rw [hjam]
    exact forall_mem_none

/-- **The messages of binary frames.** -/
theorem parse_compared (math : MathFunctions) (frame : UnicoreBinaryFrame) :
    Ensures (ComparedBytes frame.payload) (parse math frame) := by
  have hmessage := binaryMessage_parse math frame
  generalize parse math frame = parsed at hmessage ⊢
  cases hmessage with
  | rtkstatusb => exact parseRtkstatusb_compared frame.payload
  | jamstatusb => exact parseJamstatusb_compared frame.payload
  | rtcmstatusb => exact parseRtcmstatusb_compared frame.payload
  | unknown => trivial
  | _ =>
    simp only [parseObsvmcmpb, parseAgcb, parseFreqjamstatusb, parsePvtslnb, parseBestsatb,
      parseBestnavb, parseSatsinfob, parseHwstatusb]
    repeat refine Ensures.bind fun _ => ?_
    exact comparedBytes_of_none frame.payload rfl rfl rfl

end UnicoreBinaryNavParser

/-! ### All that is accepted -/

section Accepted

variable {ascii binary : ParsedSentence} {fields : List Bytes} {payload : Bytes}

/-- The operands of the subtractions are what the parsers have made of what was transmitted. -/
theorem carried_of_mem_intDeltas (hascii : ComparedFields fields ascii)
    (hbinary : ComparedBytes payload binary) :
    ∀ d ∈ intDeltas ascii binary fields payload, d.Carried := by
  have hword : ∀ v : UInt32, v.toNat < 2 ^ 32 := UInt32.toNat_lt
  have hbyte : ∀ b : UInt8, b.toNat < 2 ^ 32 := fun b => b.toNat_lt.trans (by decide)
  rw [intDeltas, List.forall_mem_append, List.forall_mem_append]
  refine ⟨⟨?_, ?_⟩, ?_⟩
  · rcases hstatus : ascii.rtkStatus with _ | status
    · exact List.forall_mem_nil _
    rcases hstatus' : binary.rtkStatus with _ | status'
    · exact List.forall_mem_nil _
    obtain ⟨hcalculate, hobservations⟩ := hascii.rtkStatus status hstatus
    obtain ⟨hcalculate', hobservations'⟩ := hbinary.rtkStatus status' hstatus'
    refine List.forall_mem_cons.mpr ⟨?_, List.forall_mem_singleton.mpr ?_⟩
    · exact ⟨hcalculate, hcalculate', hword _⟩
    · exact ⟨hobservations, hobservations', hbyte _⟩
  · rcases hstatus : ascii.rtcmStatus with _ | status
    · exact List.forall_mem_nil _
    rcases hstatus' : binary.rtcmStatus with _ | status'
    · exact List.forall_mem_nil _
    obtain ⟨hcount, hsatellites⟩ := hascii.rtcmStatus status hstatus
    obtain ⟨hcount', hsatellites'⟩ := hbinary.rtcmStatus status' hstatus'
    refine List.forall_mem_append.mpr ⟨?_, List.forall_mem_singleton.mpr ?_⟩
    · split
      · exact List.forall_mem_singleton.mpr ⟨hcount, hcount', hword _⟩
      · exact List.forall_mem_nil _
    · exact ⟨hsatellites, hsatellites', hword _⟩
  · rcases hstatus : ascii.jamStatus with _ | status
    · exact List.forall_mem_nil _
    rcases hstatus' : binary.jamStatus with _ | status'
    · exact List.forall_mem_nil _
    exact List.forall_mem_singleton.mpr
      ⟨hascii.jamStatus status hstatus, hbinary.jamStatus status' hstatus', hbyte _⟩

end Accepted

/-- What is exact does not overflow. -/
theorem IntDelta.Exact.defined {d : IntDelta} (h : d.Exact) : d.Defined := by
  obtain ⟨m, -, hm⟩ := h
  rw [Defined, hm]
  rfl

/-- **The differences of `int`** of everything that the two parsers accept. Each is that of what was
transmitted if and only if what was transmitted fits, and what the diagnostics add is defined if and
only if no difference overflows. -/
theorem int_deltas_iff (math : MathFunctions) {line : Bytes} {counters counters' : ParserCounters}
    {ascii binary : ParsedSentence} {fields : List Bytes} {frame : UnicoreBinaryFrame}
    (hline : UnicoreParser.parseLine math line counters = value (some ascii, counters'))
    (hfields : UnicoreParser.lineFields (UnicoreParser.trim line) = value fields)
    (hframe : UnicoreBinaryNavParser.parse math frame = value binary) :
    let deltas := intDeltas ascii binary fields frame.payload
    let comparisonsDefined := (rtkComparison ascii.rtkStatus binary.rtkStatus).isSome = true ∧
      (rtcmComparison ascii.rtcmStatus binary.rtcmStatus).isSome = true ∧
      (jammingComparison ascii.jamStatus binary.jamStatus ascii.freqJamStatus
        binary.freqJamStatus).isSome = true
    ((comparisonsDefined ∧ ∀ d ∈ deltas, d.Exact) ↔ ∀ d ∈ deltas, d.Fits) ∧
    (∀ d ∈ deltas, (d.Exact ↔ d.Fits)) ∧
    (comparisonsDefined ↔ ∀ d ∈ deltas, d.Defined) := by
  intro deltas comparisonsDefined
  obtain ⟨fields', first, hfields', -, hparser⟩ :=
    UnicoreParser.exists_parser_of_parseLine math hline
  obtain rfl : fields = fields' := value.inj (hfields.symm.trans hfields')
  have hascii : ComparedFields fields ascii := by
    rcases hparser with hparser | hparser
    · exact UnicoreParser.nmeaParser_compared fields hparser
    · exact UnicoreParser.unicoreParser_compared math fields hparser
  have hbinary : ComparedBytes frame.payload binary :=
    ensures_iff.mp (UnicoreBinaryNavParser.parse_compared math frame) binary hframe
  have hexact : ∀ d ∈ deltas, (d.Exact ↔ d.Fits) := fun d hd =>
    IntDelta.exact_iff (carried_of_mem_intDeltas hascii hbinary d hd)
  have hdefined : comparisonsDefined ↔ ∀ d ∈ deltas, d.Defined :=
    comparisons_isSome_iff ascii binary fields frame.payload
  refine ⟨?_, hexact, hdefined⟩
  rw [← forall₂_congr hexact]
  exact and_iff_right_of_imp fun h => hdefined.mpr fun d hd => (h d hd).defined

/-! ### A counter that passes `2 ^ 31` -/

/-- An RTCMSTATUSA about message 1005, of which there have been as many as an `int` can count. -/
def lastIntLine : Bytes :=
  ascii "#RTCMSTATUSA,,,,,,,,,;1005,2147483647,0,4,0,0,0,0,0,0*4c53eb8a"

/-- An RTCMSTATUSB about the same message. -/
def rtcmFrame (messageCount : UInt32) : UnicoreBinaryFrame where
  messageId := 2125
  payload := le32 1005 ++ le32 messageCount ++ le32 0 ++ le32 4 ++ [0, 0, 0, 0, 0, 0]

/-- What the parser hands out for one of these messages. -/
def rtcmSentence (sentenceType : Bytes) (messageCount : ℤ) : ParsedSentence where
  sentenceType := sentenceType
  rtcmStatus := some {
    messageId := 1005, messageCount, baseStationId := 0, satelliteCount := 4
    observableCount := [0, 0, 0, 0, 0, 0] }

theorem parse_lastIntLine : UnicoreParser.parseLine ⟨fun _ => 0, fun _ => 1⟩ lastIntLine {} =
    value (some (rtcmSentence (ascii "RTCMSTATUSA") 2147483647), { parsedSentences := 1 }) := by
  decide +kernel

theorem parse_rtcmFrame : UnicoreBinaryNavParser.parse ⟨fun _ => 0, fun _ => 1⟩
    (rtcmFrame 2147483647) = value (rtcmSentence (ascii "RTCMSTATUSB") 2147483647) := by
  decide +kernel

/-- The fields of `lastIntLine`. -/
def lastIntFields : List Bytes := UnicoreParser.splitFields
  (ascii "RTCMSTATUSA,,,,,,,,,;1005,2147483647,0,4,0,0,0,0,0,0")

theorem lineFields_lastIntLine :
    UnicoreParser.lineFields (UnicoreParser.trim lastIntLine) = value lastIntFields := by
  decide +kernel

/-- With equal counters all is exact. -/
theorem int_deltas_equal_counters :
    (intDeltas (rtcmSentence (ascii "RTCMSTATUSA") 2147483647)
      (rtcmSentence (ascii "RTCMSTATUSB") 2147483647) lastIntFields
      (rtcmFrame 2147483647).payload).length = 2 ∧
    ∀ d ∈ intDeltas (rtcmSentence (ascii "RTCMSTATUSA") 2147483647)
      (rtcmSentence (ascii "RTCMSTATUSB") 2147483647) lastIntFields
      (rtcmFrame 2147483647).payload, d.Exact := by
  have hfits : ∀ d ∈ intDeltas (rtcmSentence (ascii "RTCMSTATUSA") 2147483647)
      (rtcmSentence (ascii "RTCMSTATUSB") 2147483647) lastIntFields
      (rtcmFrame 2147483647).payload, d.Fits := by decide +kernel
  have hall := int_deltas_iff _ parse_lastIntLine lineFields_lastIntLine parse_rtcmFrame
  exact ⟨rfl, (hall.1.mpr hfits).2⟩

/-- **One message more in the frame than in the line**: its counter is stored as `-2 ^ 31`, and the
difference overflows. -/
theorem counter_delta_overflows :
    let math : MathFunctions := ⟨fun _ => 0, fun _ => 1⟩
    let ascii := rtcmSentence (ascii "RTCMSTATUSA") 2147483647
    let binary := rtcmSentence (UnicoreGnss.ascii "RTCMSTATUSB") (-2147483648)
    UnicoreParser.parseLine math lastIntLine {} = value (some ascii, { parsedSentences := 1 }) ∧
    UnicoreBinaryNavParser.parse math (rtcmFrame 2147483648) = value binary ∧
    rtcmComparison ascii.rtcmStatus binary.rtcmStatus = none ∧
    ¬ ∀ d ∈ intDeltas ascii binary lastIntFields (rtcmFrame 2147483648).payload, d.Exact := by
  refine ⟨parse_lastIntLine, ?_⟩
  decide +kernel

end UnicoreGnss
