import UnicoreGnss.Node.Publication

/-!
# Published fixes are valid and fresh

Three parsers make fixes, and each of them calls a fix valid exactly if its quality is positive. The
slots of the node hold what arrived last, valid or not; the selection passes over what is invalid or
too old. The status of a message has a fallback on the quality of the latest GGA, which a valid fix
never needs.

## Main definitions

* `FixData.Sound` — what every parsed fix satisfies
* `NavSatStatusCode.ofQuality` — the status of a quality
* `PublishedFrom` — how a message is made from one received sample

## Main results

* `fixArrival_sound` — every fix that arrives is sound, and in the slot of its source
* `Run.published_valid` — every published fix is made from one valid and fresh sample
-/

namespace UnicoreGnss

open CNumber Checked LatestSample

/-! ### Fixes of the parsers -/

/-- A fix of the given source is valid if its quality is positive, and only then. Without a
covariance it has zeros in its place. -/
structure FixData.Sound (source : FixSource) (fix : FixData) : Prop where
  source_eq : fix.source = source
  validFix_eq : fix.validFix = decide (fix.fixQuality > 0)
  covariance_eq : fix.hasCovariance = false → fix.covariance = Vector.replicate 9 0

/-- What a sentence of a parser may hold: a sound fix of one of the sources. -/
def ParsedSentence.FixFrom (sources : List FixSource) (sentence : ParsedSentence) : Prop :=
  ∀ fix, sentence.fix = some fix → ∃ source ∈ sources, fix.Sound source

theorem ParsedSentence.fixFrom_of_none {sources : List FixSource} {sentence : ParsedSentence}
    (h : sentence.fix = none) : sentence.FixFrom sources := by
  intro fix hfix
  rw [h] at hfix
  exact absurd hfix nofun

namespace UnicoreParser

variable (math : MathFunctions) (fields : List Bytes)

/-- **GGA fixes** may have any quality. -/
theorem parseGga_fixFrom : Ensures (ParsedSentence.FixFrom [.gga]) (parseGga fields) := by
  rw [parseGga]
  repeat refine Ensures.bind fun _ => ?_
  rintro fix ⟨⟩
  refine ⟨.gga, List.mem_singleton_self _, rfl, ?_, fun _ => rfl⟩
  cases parseInt _ with
  | none => rfl
  | some quality => rfl

theorem parsePvtslna_fixFrom :
    Ensures (ParsedSentence.FixFrom [.pvtslna]) (parsePvtslna fields) := by
  rw [parsePvtslna]
  repeat refine Ensures.bind fun _ => ?_
  rintro fix ⟨⟩
  exact ⟨.pvtslna, List.mem_singleton_self _, rfl, rfl, nofun⟩

theorem parseBestnava_fixFrom (sources : List FixSource) :
    Ensures (ParsedSentence.FixFrom sources) (parseBestnava math fields) := by
  rw [parseBestnava]
  split
  · repeat refine Ensures.bind fun _ => ?_
    exact ParsedSentence.fixFrom_of_none rfl
  · repeat refine Ensures.bind fun _ => ?_
    exact ParsedSentence.fixFrom_of_none rfl

variable {first : Bytes} {parsed : Checked ParsedSentence}

/-- **The sentences of `$` lines**: only GGA has a fix. -/
theorem nmeaParser_fixFrom (h : nmeaParser first fields = some parsed) :
    Ensures (ParsedSentence.FixFrom [.gga]) parsed := by
  cases nmeaSentence_of_nmeaParser h with
  | gga => exact parseGga_fixFrom fields
  | _ =>
    simp only [parseHdt, parseHpr, parseGsv]
    repeat refine Ensures.bind fun _ => ?_
    exact ParsedSentence.fixFrom_of_none rfl

/-- **The logs of `#` lines**: only PVTSLNA has a fix. -/
theorem unicoreParser_fixFrom (h : unicoreParser math first fields = some parsed) :
    Ensures (ParsedSentence.FixFrom [.pvtslna]) parsed := by
  cases unicoreLog_of_unicoreParser h with
  | pvtslna => exact parsePvtslna_fixFrom fields
  | bestnava => exact parseBestnava_fixFrom math fields [.pvtslna]
  | _ =>
    simp only [parseRtkstatusa, parseRtcmstatusa, parseBestsata, parseSatsinfoa, parseAgca,
      parseHwstatusa, parseJamstatusa, parseFreqjamstatusa]
    repeat refine Ensures.bind fun _ => ?_
    exact ParsedSentence.fixFrom_of_none rfl

end UnicoreParser

/-- A sentence of a line comes from the parser chosen by the first of its fields. -/
theorem exists_fields_of_checkedLine {valid : Checked Bool} {fields : Checked (List Bytes)}
    {parser : List Bytes → Option (Checked ParsedSentence)} {counters failed : ParserCounters}
    {sentence : ParsedSentence}
    (h : (do
      if ← valid then
        let fields ← fields
        UnicoreParser.countParsed (parser fields) counters
      else return (none, failed) : Checked (Option ParsedSentence × ParserCounters)).toOption.bind
        Prod.fst = some sentence) :
    ∃ fields, parser fields = some (value sentence) := by
  rw [checkedLine_toOption, Option.bind_eq_some_iff] at h
  obtain ⟨valid, -, h⟩ := h
  rw [Option.ite_none_right_eq_some, Option.bind_eq_some_iff] at h
  obtain ⟨-, fields, -, h⟩ := h
  rw [Option.bind_eq_some_iff] at h
  obtain ⟨parsed, hparser, hvalue⟩ := h
  refine ⟨fields, ?_⟩
  cases parsed with
  | value sentence' =>
    rw [toOption_value, Option.some.injEq] at hvalue
    rw [hparser, hvalue]
  | refused => exact absurd hvalue nofun
  | outside => exact absurd hvalue nofun

theorem ParsedSentence.FixFrom.mono {sources sources' : List FixSource} {sentence : ParsedSentence}
    (h : sentence.FixFrom sources) (hsub : sources ⊆ sources') : sentence.FixFrom sources' := by
  intro fix hfix
  obtain ⟨source, hsource, hsound⟩ := h fix hfix
  exact ⟨source, hsub hsource, hsound⟩

/-- **The fix of a text line** is one of GGA or of PVTSLNA. -/
theorem parsedLine_fixFrom {math : MathFunctions} {line : Bytes} {sentence : ParsedSentence}
    (h : parsedLine math line = some sentence) : sentence.FixFrom [.gga, .pvtslna] := by
  rw [parsedLine, UnicoreParser.parseLine] at h
  split_ifs at h
  · obtain ⟨fields, hfields⟩ := exists_fields_of_checkedLine h
    obtain ⟨first, -, hparser⟩ := Option.bind_eq_some_iff.mp hfields
    have hfix : sentence.FixFrom [.gga] := UnicoreParser.nmeaParser_fixFrom fields hparser
    exact hfix.mono (by simp)
  · obtain ⟨fields, hfields⟩ := exists_fields_of_checkedLine h
    obtain ⟨first, -, hparser⟩ := Option.bind_eq_some_iff.mp hfields
    have hfix : sentence.FixFrom [.pvtslna] :=
      UnicoreParser.unicoreParser_fixFrom math fields hparser
    exact hfix.mono (by simp)
  · cases h

namespace UnicoreBinaryNavParser

variable (payload : Bytes)

theorem parsePvtslnb_fixFrom :
    Ensures (ParsedSentence.FixFrom [.pvtslnb]) (parsePvtslnb payload) := by
  rw [parsePvtslnb]
  repeat refine Ensures.bind fun _ => ?_
  rintro fix ⟨⟩
  exact ⟨.pvtslnb, List.mem_singleton_self _, rfl, rfl, nofun⟩

/-- **The messages of binary frames**: only PVTSLNB has a fix. -/
theorem parse_fixFrom (math : MathFunctions) (frame : UnicoreBinaryFrame) :
    Ensures (ParsedSentence.FixFrom [.pvtslnb]) (parse math frame) := by
  have hmessage := binaryMessage_parse math frame
  generalize parse math frame = parsed at hmessage ⊢
  cases hmessage with
  | pvtslnb => exact parsePvtslnb_fixFrom frame.payload
  | unknown => trivial
  | _ =>
    simp only [parseObsvmcmpb, parseAgcb, parseRtkstatusb, parseJamstatusb, parseFreqjamstatusb,
      parseBestsatb, parseBestnavb, parseSatsinfob, parseRtcmstatusb, parseHwstatusb]
    repeat refine Ensures.bind fun _ => ?_
    exact ParsedSentence.fixFrom_of_none rfl

end UnicoreBinaryNavParser

/-! ### Arrivals -/

/-- **A fix that arrives** is sound, and goes to the slot of its source. -/
theorem fixArrival_sound {math : MathFunctions} {event : NodeEvent} {source : FixSource}
    {sample : TimedData FixData} (h : fixArrival math event = some (source, sample)) :
    sample.data.Sound source ∧ sample.receivedAt = event.receivedAt := by
  rw [fixArrival, Option.map_eq_some_iff] at h
  obtain ⟨fix, hfix, hpair⟩ := h
  rw [Option.bind_eq_some_iff] at hfix
  obtain ⟨sentence, hsentence, hfix⟩ := hfix
  cases hpair
  refine ⟨?_, rfl⟩
  obtain ⟨line | frame, receivedAt, stamp⟩ := event
  · obtain ⟨source, hmem, hsound⟩ := parsedLine_fixFrom hsentence fix hfix
    have hslot : NodeState.asciiFixSlot fix = source := by
      rw [NodeState.asciiFixSlot, hsound.source_eq]
      simp only [List.mem_cons, List.not_mem_nil, or_false] at hmem
      rcases hmem with rfl | rfl <;> rfl
    change fix.Sound (NodeState.asciiFixSlot fix)
    rwa [hslot]
  · have hensures := ensures_iff.mp (UnicoreBinaryNavParser.parse_fixFrom math frame)
    have hvalue : UnicoreBinaryNavParser.parse math frame = value sentence := by
      change (UnicoreBinaryNavParser.parse math frame).toOption = some sentence at hsentence
      cases hparsed : UnicoreBinaryNavParser.parse math frame with
      | value sentence' =>
        rw [hparsed, toOption_value, Option.some.injEq] at hsentence
        rw [hsentence]
      | refused => simp [hparsed] at hsentence
      | outside => simp [hparsed, toOption] at hsentence
    obtain ⟨source, hmem, hsound⟩ := hensures sentence hvalue fix hfix
    rw [List.mem_singleton] at hmem
    change fix.Sound .pvtslnb
    rwa [← hmem]

/-! ### Messages -/

/-- The time since the receipt is at most the timeout, which may be infinite or no number. -/
def AgeAtMost (now receivedAt : SteadyTime) : Double → Prop
  | .finite seconds => ((now - receivedAt : ℤ) : ℚ) / 10 ^ 9 ≤ seconds
  | .infinite negative => negative = false
  | .nan => False

theorem isFresh_iff {now receivedAt : SteadyTime} {timeoutSec : Double} :
    isFresh now receivedAt timeoutSec = true ↔ AgeAtMost now receivedAt timeoutSec := by
  cases timeoutSec <;> simp [isFresh, AgeAtMost]

/-- The status of a quality. -/
def NavSatStatusCode.ofQuality (quality : ℤ) : NavSatStatusCode :=
  if quality = 0 then .noFix
  else if quality ∈ [2, 9] then .sbasFix
  else if quality ∈ [4, 5] then .gbasFix
  else .fix

/-- A message made from one received sample, and when it may be. -/
structure PublishedFrom (config : NodeConfig) (now : SteadyTime) (source : FixSource)
    (sample : TimedData FixData) (msg : NavSatFix) : Prop where
  source_eq : sample.data.source = source
  quality_pos : 0 < sample.data.fixQuality
  age : AgeAtMost now sample.receivedAt (NodeState.fixTimeout config source)
  binary_enabled : source = .pvtslnb → config.useBinaryNav = true
  latitude : msg.latitude = sample.data.latitudeDeg
  longitude : msg.longitude = sample.data.longitudeDeg
  altitude : msg.altitude = sample.data.altitudeM
  covariance : msg.positionCovariance = sample.data.covariance
  status : msg.status.status = .ofQuality sample.data.fixQuality
  status_ne : msg.status.status ≠ .noFix

theorem NodeState.mem_fixPriority {config : NodeConfig} {source : FixSource}
    (h : source ∈ fixPriority config) : source = .pvtslnb → config.useBinaryNav = true := by
  rintro rfl
  rw [fixPriority] at h
  split at h
  · assumption
  · simp at h

/-- The status of a fix of positive quality is that of its quality, whatever GGA says. -/
theorem NodeState.buildNavStatus_of_pos (s : NodeState) (config : NodeConfig) {fix : FixData}
    (h : 0 < fix.fixQuality) (now : SteadyTime) :
    (s.buildNavStatus config fix now).status = .ofQuality fix.fixQuality := by
  have hnot : ¬ fix.fixQuality ≤ 0 := by omega
  simp only [buildNavStatus, if_neg hnot, NavSatStatusCode.ofQuality, List.mem_cons,
    List.not_mem_nil, or_false]
  split_ifs <;> first | rfl | omega

theorem NavSatStatusCode.ofQuality_ne_noFix {quality : ℤ} (h : 0 < quality) :
    ofQuality quality ≠ .noFix := by
  rw [ofQuality, if_neg (by omega)]
  split_ifs <;> nofun

namespace Run

variable {math : MathFunctions} {config : NodeConfig} {events : List NodeEvent} {n : ℕ}
  {msg : NavSatFix}

/-- A published fix is the active one, after the event. -/
theorem exists_active_of_published (h : .fix msg ∈ published math config events n) :
    ∃ event fix, events[n]? = some event ∧
      (state math config (events.take (n + 1))).activeFix config event.receivedAt = some fix ∧
      msg = (state math config (events.take (n + 1))).navSatFix config fix event.receivedAt
        event.stamp := by
  cases hevent : events[n]? with
  | none =>
    rw [published, hevent] at h
    exact absurd h List.not_mem_nil
  | some event =>
    rw [published_eq math config hevent, List.mem_append] at h
    rcases h with h | h
    · rw [List.mem_ite_nil_right] at h
      obtain ⟨-, h⟩ := h
      rw [NodeState.publishActiveFix] at h
      split at h
      · rename_i fix hfix
        rw [List.mem_singleton, Publication.fix.injEq] at h
        exact ⟨event, fix, rfl, hfix, h⟩
      · exact absurd h List.not_mem_nil
    · -- Headings are not fixes.
      rw [List.mem_ite_nil_right] at h
      obtain ⟨-, h⟩ := h
      rw [NodeState.publishActiveHeading] at h
      split at h
      · rw [List.mem_singleton] at h
        cases h
      · exact absurd h List.not_mem_nil

/-- **Published fixes are valid and fresh**: each is made from one sample that an event up to then
has brought. -/
theorem published_valid (h : .fix msg ∈ published math config events n) :
    ∃ event i arriving source sample, events[n]? = some event ∧ i ≤ n ∧
      events[i]? = some arriving ∧ fixArrival math arriving = some (source, sample) ∧
      sample.receivedAt = arriving.receivedAt ∧
      PublishedFrom config event.receivedAt source sample msg := by
  obtain ⟨event, fix, hevent, hactive, rfl⟩ := exists_active_of_published h
  rw [NodeState.activeFix_eq, state_fixes, firstUsable_slots, Option.map_map,
    Option.map_eq_some_iff] at hactive
  obtain ⟨⟨i, source, sample⟩, hselected, rfl⟩ := hactive
  obtain ⟨hmem, husable⟩ := usable_of_firstUsableArrival hselected
  have harrival := getElem?_of_lastArrival (lastArrival_of_firstUsableArrival hselected)
  rw [List.getElem?_map, Option.map_eq_some_iff] at harrival
  obtain ⟨arriving, harriving, harrival⟩ := harrival
  have hle : i ≤ n := by
    have hi := (List.getElem?_eq_some_iff.mp harriving).1
    rw [List.length_take] at hi
    omega
  rw [List.getElem?_take_of_lt (by omega)] at harriving
  obtain ⟨hsound, hreceived⟩ := fixArrival_sound harrival
  rw [NodeState.usableFix, Bool.and_eq_true, isFresh_iff] at husable
  obtain ⟨hvalid, hage⟩ := husable
  have hpos : 0 < sample.data.fixQuality := by
    rw [hsound.validFix_eq, decide_eq_true_eq] at hvalid
    exact hvalid
  refine ⟨event, i, arriving, source, sample, hevent, hle, harriving, harrival, hreceived,
    hsound.source_eq, hpos, hage, NodeState.mem_fixPriority hmem, rfl, rfl, rfl, ?_,
    NodeState.buildNavStatus_of_pos _ config hpos _, ?_⟩
  · change (if sample.data.hasCovariance then sample.data.covariance
      else Vector.replicate 9 0) = sample.data.covariance
    split
    · rfl
    · rename_i hnone
      exact (hsound.covariance_eq (Bool.eq_false_of_not_eq_true hnone)).symm
  · change ((state math config (events.take (n + 1))).buildNavStatus config sample.data
      event.receivedAt).status ≠ .noFix
    rw [NodeState.buildNavStatus_of_pos _ config hpos]
    exact NavSatStatusCode.ofQuality_ne_noFix hpos

/-- A GGA sentence of quality 1, at the origin. -/
def ggaEvent : NodeEvent where
  input := .asciiLine (ascii "$GGA,,0,N,0,E,1,,,0*67")
  receivedAt := 0
  stamp := 0

/-- The message made from it. -/
def ggaMessage : NavSatFix where
  header := { stamp := 0, frameId := ascii "gps" }
  status := { status := .fix, service := [.gps, .glonass, .compass, .galileo] }
  latitude := 0
  longitude := 0
  altitude := 0
  positionCovariance := Vector.replicate 9 0
  positionCovarianceType := .unknown

theorem published_valid_gga : Publication.fix ggaMessage ∈ published mathAtZero {} [ggaEvent] 0 ∧
    ∃ source sample, PublishedFrom {} ggaEvent.receivedAt source sample ggaMessage := by
  have hmem : Publication.fix ggaMessage ∈ published mathAtZero {} [ggaEvent] 0 := by
    decide +kernel
  obtain ⟨event, i, arriving, source, sample, hevent, -, -, -, -, hfrom⟩ := published_valid hmem
  cases hevent
  exact ⟨hmem, source, sample, hfrom⟩

end Run

end UnicoreGnss
