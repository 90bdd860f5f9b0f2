import UnicoreGnss.Node.Validity
import UnicoreGnss.Parser.Layout

/-!
# The heading gate of PVTSLNB

A PVTSLNB carries a heading block: a solution type, a baseline length, two angles and two satellite
counts. `parse_pvtslnb` hands out a heading only if the solution is valid, "so hybrid mode does not
override ASCII heading with the zeroed NONE startup state", says the comment above the gate. The
gate itself is `heading_type_code == 0U || heading_length > 0.0`, and type `0` is NONE. So the state
that was to be kept out is the one state that always comes through.

What the gate does keep out is a block with another type and no positive length. A payload with a
zeroed heading block yields a heading whenever the payload is read at all, and in a run of the node
such headings take precedence over the text headings for as long as the last of them is fresh.

## Main definitions

* `ZeroHeadingBlock` — the startup state of the block
* `PvtslnbReadable` — the payloads that `parse_pvtslnb` does not refuse

## Main results

* `UnicoreBinaryNavParser.parsePvtslnb_heading` — the gate
* `heading_gate_iff` — which frames and which runs keep the startup state out
-/

namespace UnicoreGnss

open CNumber Checked LatestSample Ieee754 LittleEndian

/-- The heading block of a PVTSLNB payload is all zeros: the type in bytes 96 to 99, length, degree
and pitch in bytes 100 to 111, the satellite counts in bytes 112 and 113. -/
def ZeroHeadingBlock (payload : Bytes) : Prop := ∀ i < 18, byteAt payload (96 + i) = 0

instance (payload : Bytes) : Decidable (ZeroHeadingBlock payload) :=
  inferInstanceAs (Decidable (∀ i < 18, byteAt payload (96 + i) = 0))

/-- Where the floats of a PVTSLNB payload stand. -/
def pvtslnbFloats : List ℕ := [4, 24, 28, 32, 36, 64, 100, 104, 108, 124]

/-- Where the doubles stand. -/
def pvtslnbDoubles : List ℕ := [8, 16, 72, 80, 88]

/-- A PVTSLNB payload that is long enough and whose floating point numbers are finite. -/
def PvtslnbReadable (payload : Bytes) : Prop :=
  140 ≤ payload.length ∧
  (∀ offset ∈ pvtslnbFloats,
    (binary32.toRat (readLe32 (payload.drop offset)).toNat).isSome = true) ∧
  ∀ offset ∈ pvtslnbDoubles,
    (binary64.toRat (leNat ((payload.drop offset).take 8))).isSome = true

instance (payload : Bytes) : Decidable (PvtslnbReadable payload) :=
  inferInstanceAs (Decidable (_ ∧ _ ∧ _))

namespace UnicoreBinaryNavParser

variable {payload : Bytes}

/-! ### The gate -/

theorem length_of_parsePvtslnb {sentence : ParsedSentence}
    (h : parsePvtslnb payload = value sentence) : 140 ≤ payload.length := by
  by_contra hshort
  rw [parsePvtslnb, require_false hshort] at h
  cases h

/-- **Which payloads are read.** -/
theorem exists_parsePvtslnb_iff :
    (∃ sentence, parsePvtslnb payload = value sentence) ↔ PvtslnbReadable payload := by
  simp only [PvtslnbReadable, pvtslnbFloats, pvtslnbDoubles, List.forall_mem_cons,
    List.not_mem_nil, false_implies, implies_true, and_true, Option.isSome_iff_exists]
  constructor
  · rintro ⟨sentence, hread⟩
    have hlen := length_of_parsePvtslnb hread
    rw [parsePvtslnb, require_true hlen] at hread
    simp (disch := omega) only [value_bind, readU8_of_lt, readU32_of_le, readFloat32_of_le,
      readFloat64_of_le, ofOption_bind_eq_value] at hread
    obtain ⟨q4, h4, q8, h8, q16, h16, q24, h24, q28, h28, q32, h32, q36, h36, q64, h64, q72, h72,
      q80, h80, q88, h88, q100, h100, q104, h104, q108, h108, q124, h124, -⟩ := hread
    exact ⟨hlen, ⟨⟨q4, h4⟩, ⟨q24, h24⟩, ⟨q28, h28⟩, ⟨q32, h32⟩, ⟨q36, h36⟩, ⟨q64, h64⟩,
      ⟨q100, h100⟩, ⟨q104, h104⟩, ⟨q108, h108⟩, ⟨q124, h124⟩⟩, ⟨q8, h8⟩, ⟨q16, h16⟩, ⟨q72, h72⟩,
      ⟨q80, h80⟩, ⟨q88, h88⟩⟩
  · rintro ⟨hlen, ⟨⟨q4, h4⟩, ⟨q24, h24⟩, ⟨q28, h28⟩, ⟨q32, h32⟩, ⟨q36, h36⟩, ⟨q64, h64⟩,
      ⟨q100, h100⟩, ⟨q104, h104⟩, ⟨q108, h108⟩, ⟨q124, h124⟩⟩, ⟨q8, h8⟩, ⟨q16, h16⟩, ⟨q72, h72⟩,
      ⟨q80, h80⟩, ⟨q88, h88⟩⟩
    rw [parsePvtslnb, require_true hlen]
    simp (disch := omega) only [value_bind, readU8_of_lt, readU32_of_le, readFloat32_of_le,
      readFloat64_of_le, h4, h8, h16, h24, h28, h32, h36, h64, h72, h80, h88, h100, h104, h108,
      h124, ofOption_some, pure_eq, value.injEq, exists_eq']

/-- **The gate**: type NONE, or a positive length. -/
theorem parsePvtslnb_heading {sentence : ParsedSentence}
    (h : parsePvtslnb payload = value sentence) :
    sentence.heading.isSome = true ↔ readLe32 (payload.drop 96) = 0 ∨
      ∃ length, binary32.toRat (readLe32 (payload.drop 100)).toNat = some length ∧
        0 < length := by
  have hlen := length_of_parsePvtslnb h
  rw [parsePvtslnb, require_true hlen] at h
  simp (disch := omega) only [value_bind, readU8_of_lt, readU32_of_le, readFloat32_of_le,
    readFloat64_of_le, ofOption_bind_eq_value] at h
  obtain ⟨_, -, _, -, _, -, _, -, _, -, _, -, _, -, _, -, _, -, _, -, _, -, length, h100, _, -, _,
    -, _, -, h⟩ := h
  cases h
  rw [h100]
  simp only [Option.some.injEq, exists_eq_left', gt_iff_lt]
  split
  · next hopen => exact iff_of_true rfl hopen
  · next hshut => exact iff_of_false Bool.false_ne_true hshut

/-- The zeroed block is of type NONE, which the gate lets through. -/
theorem heading_of_zeroHeadingBlock {sentence : ParsedSentence} (hzero : ZeroHeadingBlock payload)
    (h : parsePvtslnb payload = value sentence) : sentence.heading.isSome = true := by
  have htype : readLe32 (payload.drop 96) = readLe32 [] := readLe32_congr fun i hi => by
    rw [byteAt_drop, hzero i (by omega)]
    rfl
  rw [parsePvtslnb_heading h, htype]
  exact .inl rfl

theorem parse_pvtslnb (math : MathFunctions) {frame : UnicoreBinaryFrame}
    (h : frame.messageId = 1021) : parse math frame = parsePvtslnb frame.payload := by
  rw [parse, h]
  rfl

/-- No other message has a heading. -/
theorem parse_heading_of_ne (math : MathFunctions) {frame : UnicoreBinaryFrame}
    (h : frame.messageId ≠ 1021) :
    Ensures (fun sentence => sentence.heading = none) (parse math frame) := by
  have hmessage := binaryMessage_parse math frame
  generalize parse math frame = parsed at hmessage ⊢
  cases hmessage with
  | pvtslnb hid => exact absurd (UInt16.toNat_inj.mp hid) h
  | unknown => trivial
  | _ =>
    simp only [parseObsvmcmpb, parseAgcb, parseRtkstatusb, parseJamstatusb, parseFreqjamstatusb,
      parseBestsatb, parseBestnavb, parseSatsinfob, parseRtcmstatusb, parseHwstatusb]
    repeat refine Ensures.bind fun _ => ?_
    rfl

theorem parsePvtslnb_headingFrom : Ensures
    (fun sentence => ∀ heading ∈ sentence.heading, heading.source = .pvtslnb)
    (parsePvtslnb payload) := by
  rw [parsePvtslnb]
  repeat refine Ensures.bind fun _ => ?_
  intro heading hheading
  rw [Option.mem_def, Option.ite_none_right_eq_some] at hheading
  obtain ⟨-, heq⟩ := hheading
  cases heq
  rfl

end UnicoreBinaryNavParser

/-! ### Headings of text lines -/

namespace UnicoreParser

variable {math : MathFunctions} {fields : List Bytes} {first : Bytes}
  {parsed : Checked ParsedSentence}

theorem nmeaParser_heading (h : nmeaParser first fields = some parsed) : Ensures
    (fun sentence => ∀ heading ∈ sentence.heading, heading.source ≠ .pvtslnb) parsed := by
  cases nmeaSentence_of_nmeaParser h
  all_goals
    simp only [parseGga, parseHdt, parseHpr, parseGsv]
    repeat refine Ensures.bind fun _ => ?_
    rintro heading ⟨⟩ <;> rintro ⟨⟩

theorem unicoreParser_heading (h : unicoreParser math first fields = some parsed) :
    Ensures (fun sentence => sentence.heading = none) parsed := by
  cases unicoreLog_of_unicoreParser h with
  | bestnava =>
    simp only [parseBestnava]
    split
    all_goals
      repeat refine Ensures.bind fun _ => ?_
      rfl
  | _ =>
    simp only [parsePvtslna, parseRtkstatusa, parseRtcmstatusa, parseBestsata, parseSatsinfoa,
      parseAgca, parseHwstatusa, parseJamstatusa, parseFreqjamstatusa]
    repeat refine Ensures.bind fun _ => ?_
    rfl

end UnicoreParser

/-- **The heading of a text line** is not one of PVTSLNB. -/
theorem parsedLine_heading {math : MathFunctions} {line : Bytes} {sentence : ParsedSentence}
    (h : parsedLine math line = some sentence) :
    ∀ heading ∈ sentence.heading, heading.source ≠ .pvtslnb := by
  rw [parsedLine, UnicoreParser.parseLine] at h
  split_ifs at h
  · obtain ⟨fields, hfields⟩ := exists_fields_of_checkedLine h
    obtain ⟨first, -, hparser⟩ := Option.bind_eq_some_iff.mp hfields
    exact UnicoreParser.nmeaParser_heading hparser
  · obtain ⟨fields, hfields⟩ := exists_fields_of_checkedLine h
    obtain ⟨first, -, hparser⟩ := Option.bind_eq_some_iff.mp hfields
    have hnone : sentence.heading = none := UnicoreParser.unicoreParser_heading hparser
    rw [hnone]
    rintro heading ⟨⟩
  · cases h

/-! ### Runs -/

/-- Is the event a PVTSLNB frame that is read? -/
def NodeEvent.readablePvtslnb (event : NodeEvent) : Bool :=
  match event.input with
  | .asciiLine _ => false
  | .binaryFrame frame => frame.messageId = 1021 && decide (PvtslnbReadable frame.payload)

/-- If the event is a PVTSLNB frame then its heading block is zeroed. -/
def NodeEvent.ZeroHeading (event : NodeEvent) : Prop :=
  ∀ frame, event.input = .binaryFrame frame → frame.messageId = 1021 →
    ZeroHeadingBlock frame.payload

/-- When the last PVTSLNB frame that is read was received. -/
def lastPvtslnb (events : List NodeEvent) : Option SteadyTime :=
  (events.reverse.find? NodeEvent.readablePvtslnb).map NodeEvent.receivedAt

section Arrivals

variable {math : MathFunctions} {event : NodeEvent} {events : List NodeEvent}

theorem headingArrival_asciiLine {line : Bytes} {receivedAt : SteadyTime} {stamp : RosTime} :
    sampleOf .pvtslnb (headingArrival math ⟨.asciiLine line, receivedAt, stamp⟩) = none := by
  rw [← Option.not_isSome_iff_eq_none, Option.isSome_iff_exists]
  rintro ⟨sample, hsample⟩
  rw [sampleOf_eq_some, headingArrival, Option.map_eq_some_iff] at hsample
  obtain ⟨heading, -, hslot⟩ := hsample
  have hslot : NodeState.asciiHeadingSlot heading = .pvtslnb := congrArg Prod.fst hslot
  rw [NodeState.asciiHeadingSlot] at hslot
  split at hslot <;> cases hslot

/-- **What a frame brings to the binary slot**: the heading of its message. -/
theorem sampleOf_binaryFrame {frame : UnicoreBinaryFrame} {receivedAt : SteadyTime}
    {stamp : RosTime} :
    sampleOf .pvtslnb (headingArrival math ⟨.binaryFrame frame, receivedAt, stamp⟩) =
      ((UnicoreBinaryNavParser.parse math frame).toOption.bind ParsedSentence.heading).map
        fun heading => { data := heading, receivedAt := receivedAt } := by
  have harrival : headingArrival math ⟨.binaryFrame frame, receivedAt, stamp⟩ =
      ((UnicoreBinaryNavParser.parse math frame).toOption.bind ParsedSentence.heading).map
        fun heading => (HeadingSource.pvtslnb, { data := heading, receivedAt := receivedAt }) := rfl
  rw [harrival]
  cases (UnicoreBinaryNavParser.parse math frame).toOption.bind ParsedSentence.heading <;> rfl

/-- **When the binary slot is filled**, if the blocks are zeroed: by a PVTSLNB frame that is
read. -/
theorem receivedAt_headingArrival (hzero : event.ZeroHeading) :
    (sampleOf .pvtslnb (headingArrival math event)).map TimedData.receivedAt =
      if event.readablePvtslnb then some event.receivedAt else none := by
  obtain ⟨line | frame, receivedAt, stamp⟩ := event
  · rw [headingArrival_asciiLine]
    rfl
  · rw [sampleOf_binaryFrame, NodeEvent.readablePvtslnb]
    by_cases hid : frame.messageId = 1021
    · rw [UnicoreBinaryNavParser.parse_pvtslnb math hid]
      cases hread : UnicoreBinaryNavParser.parsePvtslnb frame.payload with
      | value sentence =>
        have hreadable : PvtslnbReadable frame.payload :=
          UnicoreBinaryNavParser.exists_parsePvtslnb_iff.mp ⟨sentence, hread⟩
        obtain ⟨heading, hheading⟩ := Option.isSome_iff_exists.mp
          (UnicoreBinaryNavParser.heading_of_zeroHeadingBlock (hzero frame rfl hid) hread)
        simp [hid, hreadable, hheading]
      | _ =>
        have hrefused : ¬PvtslnbReadable frame.payload := by
          rw [← UnicoreBinaryNavParser.exists_parsePvtslnb_iff, hread]
          rintro ⟨sentence, h⟩
          cases h
        simp [hrefused, toOption]
    · have hnone := UnicoreBinaryNavParser.parse_heading_of_ne math hid
      cases hread : UnicoreBinaryNavParser.parse math frame with
      | value sentence =>
        rw [hread] at hnone
        simp [hid, show sentence.heading = none from hnone]
      | _ => simp [hid, toOption]

/-- The heading in a slot is of a source that says whether the slot is the binary one. -/
theorem source_headingArrival {source : HeadingSource} {sample : TimedData HeadingData}
    (h : headingArrival math event = some (source, sample)) :
    sample.data.source = .pvtslnb ↔ source = .pvtslnb := by
  rw [headingArrival, Option.map_eq_some_iff] at h
  obtain ⟨heading, hheading, hpair⟩ := h
  rw [Option.bind_eq_some_iff] at hheading
  obtain ⟨sentence, hsentence, hheading⟩ := hheading
  cases hpair
  obtain ⟨line | frame, receivedAt, stamp⟩ := event
  · have hne : heading.source ≠ .pvtslnb := parsedLine_heading hsentence heading hheading
    refine iff_of_false hne ?_
    change NodeState.asciiHeadingSlot heading ≠ .pvtslnb
    rw [NodeState.asciiHeadingSlot]
    split <;> nofun
  · refine iff_of_true ?_ rfl
    change (UnicoreBinaryNavParser.parse math frame).toOption = some sentence at hsentence
    cases hread : UnicoreBinaryNavParser.parse math frame with
    | value sentence' =>
      rw [hread, toOption_value, Option.some.injEq] at hsentence
      subst hsentence
      have hid : frame.messageId = 1021 := by
        by_contra hid
        have hnone := UnicoreBinaryNavParser.parse_heading_of_ne math hid
        rw [hread] at hnone
        rw [show sentence'.heading = none from hnone] at hheading
        cases hheading
      have hfrom := @UnicoreBinaryNavParser.parsePvtslnb_headingFrom frame.payload
      rw [← UnicoreBinaryNavParser.parse_pvtslnb math hid, hread] at hfrom
      exact hfrom heading hheading
    | _ => rw [hread] at hsentence; cases hsentence

end Arrivals

namespace Run

variable (math : MathFunctions) (config : NodeConfig) {events : List NodeEvent}

/-- The binary slot after a run with zeroed blocks: filled by the last PVTSLNB frame that was
read. -/
theorem receivedAt_latestBinaryHeading (hzero : ∀ event ∈ events, event.ZeroHeading) :
    (state math config events).latestBinaryHeading.map TimedData.receivedAt =
      lastPvtslnb events := by
  have hslot : (state math config events).latestBinaryHeading =
      slots (events.map (headingArrival math)) .pvtslnb :=
    congrFun (state_headings math config events) .pvtslnb
  have hfind : ∀ l : List NodeEvent, (∀ event ∈ l, event.ZeroHeading) →
      ((l.map (headingArrival math)).findSome? (sampleOf .pvtslnb)).map TimedData.receivedAt =
        (l.find? NodeEvent.readablePvtslnb).map NodeEvent.receivedAt := by
    intro l
    induction l with
    | nil => intro _; rfl
    | cons event l ih =>
      intro hl
      have harrival := @receivedAt_headingArrival math _ (hl event List.mem_cons_self)
      have hrest := ih fun event' h => hl event' (List.mem_cons_of_mem _ h)
      rw [List.map_cons, List.findSome?_cons, List.find?_cons]
      cases hread : event.readablePvtslnb with
      | false =>
        rw [hread, if_neg Bool.false_ne_true, Option.map_eq_none_iff] at harrival
        rw [harrival]
        exact hrest
      | true =>
        rw [hread, if_pos rfl, Option.map_eq_some_iff] at harrival
        obtain ⟨sample, hsample, hreceived⟩ := harrival
        rw [hsample]
        exact congrArg some hreceived
  rw [hslot, slots_eq_findSome?, ← List.map_reverse, lastPvtslnb]
  exact hfind events.reverse fun event h => hzero event (List.mem_reverse.mp h)

/-- What is in a slot of the headings says whether it is the binary one. -/
theorem source_of_headings {source : HeadingSource} {sample : TimedData HeadingData}
    (h : (state math config events).headings source = some sample) :
    sample.data.source = .pvtslnb ↔ source = .pvtslnb := by
  rw [state_headings, slots_eq, Option.map_eq_some_iff] at h
  obtain ⟨⟨j, sample'⟩, hlast, rfl⟩ := h
  have harrival := getElem?_of_lastArrival hlast
  rw [List.getElem?_map, Option.map_eq_some_iff] at harrival
  obtain ⟨event, -, harrival⟩ := harrival
  exact source_headingArrival harrival

/-- The active text heading is not one of PVTSLNB. -/
theorem source_of_activeAsciiHeading {now : SteadyTime} {heading : HeadingData}
    (h : (state math config events).activeAsciiHeading config now = some heading) :
    heading.source ≠ .pvtslnb := by
  have hslot : ∀ (source : HeadingSource) {latest : Option (TimedData HeadingData)},
      (state math config events).headings source = latest → source ≠ .pvtslnb →
      freshIf latest (fun _ => true) now config.dataTimeoutSec = some heading →
      heading.source ≠ .pvtslnb := by
    intro source latest hlatest hne hfresh
    cases latest with
    | none => cases hfresh
    | some sample =>
      rw [freshIf, Option.ite_none_right_eq_some, Option.some.injEq] at hfresh
      rw [← hfresh.2]
      exact fun hsource => hne ((source_of_headings math config hlatest).mp hsource)
  rcases Option.or_eq_some_iff.mp h with hhpr | ⟨-, hhdt⟩
  · exact hslot .hpr rfl (by decide) hhpr
  · exact hslot .hdt rfl (by decide) hhdt

end Run

/-- **The heading gate.** A frame with a zeroed heading block yields no heading exactly if its
payload is refused altogether. In a run with binary navigation in which all PVTSLNB frames have a
zeroed block, while there is a fresh text heading, the active heading is another than that of a
PVTSLNB exactly if the last PVTSLNB that was read is no longer fresh. -/
theorem heading_gate_iff (math : MathFunctions) :
    (∀ frame : UnicoreBinaryFrame, frame.messageId = 1021 → ZeroHeadingBlock frame.payload →
      ((∀ sentence, UnicoreBinaryNavParser.parse math frame = value sentence →
        sentence.heading = none) ↔ ¬PvtslnbReadable frame.payload)) ∧
    ∀ (config : NodeConfig) (events : List NodeEvent) (now : SteadyTime),
      config.useBinaryNav = true → (∀ event ∈ events, event.ZeroHeading) →
      ((Run.state math config events).activeAsciiHeading config now).isSome = true →
      ((∀ heading, (Run.state math config events).activeHeading config now = some heading →
          heading.source ≠ .pvtslnb) ↔
        ∀ receivedAt, lastPvtslnb events = some receivedAt →
          isFresh now receivedAt config.binaryNavTimeoutSec = false) := by
  constructor
  · intro frame hid hzero
    rw [UnicoreBinaryNavParser.parse_pvtslnb math hid,
      ← UnicoreBinaryNavParser.exists_parsePvtslnb_iff]
    constructor
    · rintro hnone ⟨sentence, hread⟩
      have hsome := UnicoreBinaryNavParser.heading_of_zeroHeadingBlock hzero hread
      rw [hnone sentence hread] at hsome
      exact Bool.false_ne_true hsome
    · intro hrefused sentence hread
      exact absurd ⟨sentence, hread⟩ hrefused
  · intro config events now hbinary hzero hascii
    rw [← Run.receivedAt_latestBinaryHeading math config hzero, NodeState.activeHeading,
      if_pos hbinary]
    obtain ⟨asciiHeading, hascii⟩ := Option.isSome_iff_exists.mp hascii
    have hsource := Run.source_of_activeAsciiHeading math config hascii
    rw [hascii]
    cases hslot : (Run.state math config events).latestBinaryHeading with
    | none => simpa [freshIf] using hsource
    | some sample =>
      have hbinarySource : sample.data.source = .pvtslnb :=
        (@Run.source_of_headings math config _ .pvtslnb sample hslot).mpr rfl
      cases hfresh : isFresh now sample.receivedAt config.binaryNavTimeoutSec with
      | true => simp [freshIf, hfresh, hbinarySource]
      | false => simpa [freshIf, hfresh] using hsource

/-- A PVTSLNB of the startup state: all zeros. -/
def startupFrame : UnicoreBinaryFrame := { messageId := 1021, payload := List.replicate 140 0 }

/-- An HPR sentence and, 100 ms later, a PVTSLNB of the startup state. -/
def startupEvents : List NodeEvent :=
  [{ input := .asciiLine (ascii "$GNHPR,1,90,1,2*78"), receivedAt := 0, stamp := 0 },
    { input := .binaryFrame startupFrame, receivedAt := 10 ^ 8, stamp := 10 ^ 8 }]

theorem zeroHeading_startupEvents : ∀ event ∈ startupEvents, event.ZeroHeading := by
  intro event hevent frame hframe _
  simp only [startupEvents, List.mem_cons, List.not_mem_nil, or_false] at hevent
  rcases hevent with rfl | rfl
  · cases hframe
  · cases hframe
    decide +kernel

/-- **The startup state comes through**: it yields a heading, and this heading displaces the one of
the HPR sentence. -/
theorem startup_heading_displaces :
    ZeroHeadingBlock startupFrame.payload ∧
    (∃ sentence, UnicoreBinaryNavParser.parse Run.mathAtZero startupFrame = value sentence ∧
      sentence.heading.isSome = true) ∧
    (∀ event ∈ startupEvents, event.ZeroHeading) ∧
    ((Run.state Run.mathAtZero { useBinaryNav := true } startupEvents).activeAsciiHeading
      { useBinaryNav := true } (10 ^ 8)).map HeadingData.headingDeg = some 90 ∧
    ((Run.state Run.mathAtZero { useBinaryNav := true } startupEvents).activeHeading
      { useBinaryNav := true } (10 ^ 8)).map
        (fun heading => (heading.source, heading.headingDeg)) = some (.pvtslnb, 0) := by
  have hzero : ZeroHeadingBlock startupFrame.payload := by decide +kernel
  obtain ⟨sentence, hread⟩ := UnicoreBinaryNavParser.exists_parsePvtslnb_iff.mpr
    (show PvtslnbReadable startupFrame.payload by decide +kernel)
  exact ⟨hzero, ⟨sentence, (UnicoreBinaryNavParser.parse_pvtslnb _ rfl).trans hread,
    UnicoreBinaryNavParser.heading_of_zeroHeadingBlock hzero hread⟩, zeroHeading_startupEvents,
    by decide +kernel, by decide +kernel⟩

/-- A frame without a payload is refused; and two and a half seconds after the startup state the
heading of the HPR sentence is back, if text data may be five seconds old. -/
theorem heading_gate_startup :
    let config : NodeConfig := { useBinaryNav := true, dataTimeoutSec := .finite 5 }
    (∀ sentence, UnicoreBinaryNavParser.parse Run.mathAtZero { messageId := 1021 } =
        value sentence → sentence.heading = none) ∧
    ∀ heading, (Run.state Run.mathAtZero config startupEvents).activeHeading config (26 * 10 ^ 8) =
      some heading → heading.source ≠ .pvtslnb := by
  intro config
  obtain ⟨hframes, hruns⟩ := heading_gate_iff Run.mathAtZero
  refine ⟨(hframes { messageId := 1021 } rfl (by decide)).mpr (by decide),
    (hruns config startupEvents (26 * 10 ^ 8) rfl zeroHeading_startupEvents
      (by decide +kernel)).mpr ?_⟩
  have hlast : lastPvtslnb startupEvents = some (10 ^ 8) := by decide +kernel
  intro receivedAt hreceived
  rw [hlast, Option.some.injEq] at hreceived
  rw [← hreceived]
  decide +kernel

end UnicoreGnss
