import UnicoreGnss.Lib.LatestSample
import UnicoreGnss.Node

/-!
# What the node publishes

The node publishes a fix whenever one arrives, and chooses it among the latest fixes of up to three
sources. The one it publishes need not be the one that arrived: while a source of higher priority is
fresh, arrivals from the others publish its latest fix again. Headings are published in the same
way.

## Main definitions

* `fixArrival`, `headingArrival` — what an event brings
* `NodeState.Handles` — what handling an event comes to, for the fixes and the headings
* `Run.carriedFix`, `Run.carriedHeading` — the sample a publication carries
* `Run.OrderOfReceipt` — what holds of the order in which samples are published

## Main results

* `NodeState.activeFix_eq`, `activeHeading_eq` — the selection is by priority
* `NodeState.step_handles` — one event
* `Run.state_fixes`, `state_headings` — after a run, the slots hold the latest arrivals
* `Run.publication_order` — the order of what a run publishes
-/

namespace UnicoreGnss

open CNumber Checked LatestSample

/-! ### Arrivals -/

/-- The sentence in an event. -/
def NodeEvent.sentence (math : MathFunctions) (event : NodeEvent) : Option ParsedSentence :=
  match event.input with
  | .asciiLine line => parsedLine math line
  | .binaryFrame frame => (UnicoreBinaryNavParser.parse math frame).toOption

/-- The slot of the fixes in an event. -/
def NodeEvent.fixSlot (event : NodeEvent) : FixData → FixSource :=
  match event.input with
  | .asciiLine _ => NodeState.asciiFixSlot
  | .binaryFrame _ => NodeState.binaryFixSlot

/-- The slot of the headings in an event. -/
def NodeEvent.headingSlot (event : NodeEvent) : HeadingData → HeadingSource :=
  match event.input with
  | .asciiLine _ => NodeState.asciiHeadingSlot
  | .binaryFrame _ => NodeState.binaryHeadingSlot

/-- Arrivals are published at once, binary ones only if binary navigation is on. -/
def NodeEvent.publishes (config : NodeConfig) (event : NodeEvent) : Bool :=
  match event.input with
  | .asciiLine _ => true
  | .binaryFrame _ => config.useBinaryNav

/-- The fix that an event brings, with its slot and its time. -/
def fixArrival (math : MathFunctions) (event : NodeEvent) :
    Option (FixSource × TimedData FixData) :=
  ((event.sentence math).bind ParsedSentence.fix).map fun fix =>
    (event.fixSlot fix, { data := fix, receivedAt := event.receivedAt })

/-- The heading that an event brings, with its slot and its time. -/
def headingArrival (math : MathFunctions) (event : NodeEvent) :
    Option (HeadingSource × TimedData HeadingData) :=
  ((event.sentence math).bind ParsedSentence.heading).map fun heading =>
    (event.headingSlot heading, { data := heading, receivedAt := event.receivedAt })

namespace NodeState

variable (math : MathFunctions) (config : NodeConfig) (s : NodeState)

/-- The slots of the fixes. -/
def fixes : FixSource → Option (TimedData FixData)
  | .gga => s.latestGgaFix
  | .pvtslna => s.latestPvtslnaFix
  | .pvtslnb => s.latestBinaryPvtslnFix

/-- The slots of the headings. -/
def headings : HeadingSource → Option (TimedData HeadingData)
  | .hdt => s.latestHdtHeading
  | .hpr => s.latestHprHeading
  | .pvtslnb => s.latestBinaryHeading

/-! ### Selection by priority -/

/-- The sources of fixes, the preferred one first. -/
def fixPriority : List FixSource :=
  if config.useBinaryNav then [.pvtslnb, .pvtslna, .gga] else [.pvtslna, .gga]

/-- The sources of headings, the preferred one first. -/
def headingPriority : List HeadingSource :=
  if config.useBinaryNav then [.pvtslnb, .hpr, .hdt] else [.hpr, .hdt]

/-- How long a fix of the source is fresh. -/
def fixTimeout : FixSource → Double
  | .pvtslnb => config.binaryNavTimeoutSec
  | .gga | .pvtslna => config.dataTimeoutSec

/-- How long a heading of the source is fresh. -/
def headingTimeout : HeadingSource → Double
  | .pvtslnb => config.binaryNavTimeoutSec
  | .hdt | .hpr => config.dataTimeoutSec

/-- A fix can be published if it is valid and fresh. -/
def usableFix (now : SteadyTime) (source : FixSource) (sample : TimedData FixData) : Bool :=
  sample.data.validFix && isFresh now sample.receivedAt (fixTimeout config source)

/-- A heading can be published if it is fresh. -/
def usableHeading (now : SteadyTime) (source : HeadingSource) (sample : TimedData HeadingData) :
    Bool :=
  isFresh now sample.receivedAt (headingTimeout config source)

theorem freshIf_eq {α : Type} (latest : Option (TimedData α)) (usable : α → Bool)
    (now : SteadyTime) (timeoutSec : Double) :
    freshIf latest usable now timeoutSec =
      (latest.filter fun sample =>
        usable sample.data && isFresh now sample.receivedAt timeoutSec).map TimedData.data := by
  rcases latest with _ | sample
  · rfl
  · rw [freshIf, Option.filter_some]
    split <;> rfl

/-- **The active fix** is the first usable one. -/
theorem activeFix_eq (now : SteadyTime) :
    s.activeFix config now =
      (firstUsable (fixPriority config) (usableFix config now) s.fixes).map TimedData.data := by
  rw [activeFix, fixPriority]
  split
  · simp only [activeBinaryFix, activeAsciiFix, freshIf_eq, firstUsable_cons, firstUsable_nil,
      Option.or_none, Option.map_or]
    rfl
  · simp only [activeAsciiFix, freshIf_eq, firstUsable_cons, firstUsable_nil, Option.or_none,
      Option.map_or]
    rfl

/-- **The active heading** is the first usable one. -/
theorem activeHeading_eq (now : SteadyTime) :
    s.activeHeading config now =
      (firstUsable (headingPriority config) (usableHeading config now) s.headings).map
        TimedData.data := by
  rw [activeHeading, headingPriority]
  split
  · simp only [activeAsciiHeading, freshIf_eq, firstUsable_cons, firstUsable_nil, Option.or_none,
      Option.map_or, Bool.true_and]
    rfl
  · simp only [activeAsciiHeading, freshIf_eq, firstUsable_cons, firstUsable_nil, Option.or_none,
      Option.map_or, Bool.true_and]
    rfl

/-- A fix message says nothing but what is in the slots of the fixes. -/
theorem publishActiveFix_congr {s s' : NodeState} (h : s'.fixes = s.fixes) (now : SteadyTime)
    (stamp : RosTime) :
    s'.publishActiveFix config now stamp = s.publishActiveFix config now stamp := by
  have hgga : s'.latestGgaFix = s.latestGgaFix := congrFun h .gga
  simp only [publishActiveFix, activeFix_eq, h, navSatFix, buildNavStatus, hgga]

/-- A heading message says nothing but what is in the slots of the headings. -/
theorem publishActiveHeading_congr {s s' : NodeState} (h : s'.headings = s.headings)
    (now : SteadyTime) (stamp : RosTime) :
    s'.publishActiveHeading config now stamp = s.publishActiveHeading config now stamp := by
  simp only [publishActiveHeading, activeHeading_eq, h]

/-! ### The slots after a sentence -/

variable (parsed : ParsedSentence) (now : SteadyTime) (stamp : RosTime)

theorem setFix_fixes (source : FixSource) (sample : TimedData FixData) :
    (s.setFix source sample).fixes = store s.fixes (some (source, sample)) := by
  funext source'
  cases source <;> cases source' <;> rfl

theorem setFix_headings (source : FixSource) (sample : TimedData FixData) :
    (s.setFix source sample).headings = s.headings := by
  funext source'
  cases source <;> cases source' <;> rfl

theorem setHeading_fixes (source : HeadingSource) (sample : TimedData HeadingData) :
    (s.setHeading source sample).fixes = s.fixes := by
  funext source'
  cases source <;> cases source' <;> rfl

theorem setHeading_headings (source : HeadingSource) (sample : TimedData HeadingData) :
    (s.setHeading source sample).headings = store s.headings (some (source, sample)) := by
  funext source'
  cases source <;> cases source' <;> rfl

/-- The slots of the fixes and headings are the same. -/
def SameSlots (s s' : NodeState) : Prop := s'.fixes = s.fixes ∧ s'.headings = s.headings

/-- States that differ in other members only. -/
theorem sameSlots_of_eq {s s' : NodeState} (hgga : s'.latestGgaFix = s.latestGgaFix)
    (hpvtslna : s'.latestPvtslnaFix = s.latestPvtslnaFix)
    (hpvtslnb : s'.latestBinaryPvtslnFix = s.latestBinaryPvtslnFix)
    (hhdt : s'.latestHdtHeading = s.latestHdtHeading)
    (hhpr : s'.latestHprHeading = s.latestHprHeading)
    (hbinary : s'.latestBinaryHeading = s.latestBinaryHeading) : SameSlots s s' := by
  constructor
  · funext source
    cases source with
    | gga => exact hgga
    | pvtslna => exact hpvtslna
    | pvtslnb => exact hpvtslnb
  · funext source
    cases source with
    | hdt => exact hhdt
    | hpr => exact hhpr
    | pvtslnb => exact hbinary

theorem sameSlots_countSentence (sentenceType : Bytes) :
    SameSlots s (s.countSentence sentenceType) :=
  sameSlots_of_eq rfl rfl rfl rfl rfl rfl

theorem sameSlots_storeAsciiStatus : SameSlots s (s.storeAsciiStatus parsed now) :=
  sameSlots_of_eq rfl rfl rfl rfl rfl rfl

theorem sameSlots_storeBinaryStatus : SameSlots s (s.storeBinaryStatus parsed now) :=
  sameSlots_of_eq rfl rfl rfl rfl rfl rfl

/-! ### One event -/

/-- What handling a sentence comes to: the samples go to their slots, and each makes the node
publish, from the slots as they are afterwards. -/
structure Handles (publishes : Bool) (fix : Option (FixSource × TimedData FixData))
    (heading : Option (HeadingSource × TimedData HeadingData))
    (result : NodeState × List Publication) : Prop where
  fixes : result.1.fixes = store s.fixes fix
  headings : result.1.headings = store s.headings heading
  published : result.2 =
    (if fix.isSome && publishes then result.1.publishActiveFix config now stamp else []) ++
    (if heading.isSome && publishes then result.1.publishActiveHeading config now stamp else [])

variable (fixSlot : FixData → FixSource) (headingSlot : HeadingData → HeadingSource)
  (publishes : Bool)

/-- A sentence without a fix or a heading. -/
theorem Handles.nothing {s' : NodeState} (h : SameSlots s s') :
    Handles config s now stamp publishes none none (s', []) :=
  ⟨h.1, h.2, rfl⟩

theorem takeFix_handles (fix : Option FixData) :
    Handles config s now stamp publishes (fix.map fun fix => (fixSlot fix, ⟨fix, now⟩)) none
      (s.takeFix config fixSlot publishes fix now stamp) := by
  cases fix with
  | none => exact Handles.nothing config s now stamp publishes ⟨rfl, rfl⟩
  | some fix => exact ⟨s.setFix_fixes _ _, s.setFix_headings _ _, by simp [takeFix]⟩

theorem takeHeading_handles (heading : Option HeadingData) :
    Handles config s now stamp publishes none
      (heading.map fun heading => (headingSlot heading, ⟨heading, now⟩))
      (s.takeHeading config headingSlot publishes heading now stamp) := by
  cases heading with
  | none => exact Handles.nothing config s now stamp publishes ⟨rfl, rfl⟩
  | some heading => exact ⟨s.setHeading_fixes _ _, s.setHeading_headings _ _, by simp [takeHeading]⟩

variable {config s now stamp publishes}

/-- A fix is handled, then a heading, then the rest of the sentence, which concerns neither. -/
theorem Handles.both {fix : Option (FixSource × TimedData FixData)}
    {heading : Option (HeadingSource × TimedData HeadingData)} {s₁ s₂ s₃ : NodeState}
    {fixes headings : List Publication}
    (hfix : Handles config s now stamp publishes fix none (s₁, fixes))
    (hheading : Handles config s₁ now stamp publishes none heading (s₂, headings))
    (hrest : SameSlots s₂ s₃) :
    Handles config s now stamp publishes fix heading (s₃, fixes ++ headings) := by
  have hfixes : s₃.fixes = s₁.fixes := hrest.1.trans hheading.fixes
  have hpublished := hfix.published
  have hpublished' := hheading.published
  simp only [Option.isSome_none, Bool.false_and, Bool.false_eq_true, if_false, List.append_nil,
    List.nil_append] at hpublished hpublished'
  refine ⟨hfixes.trans hfix.fixes, ?_, ?_⟩
  · rw [hrest.2, hheading.headings, hfix.headings]
    rfl
  · rw [publishActiveFix_congr config hfixes, publishActiveHeading_congr config hrest.2,
      hpublished, hpublished']

/-- Only the slots of the state before matter. -/
theorem Handles.of_sameSlots {s' : NodeState} {fix : Option (FixSource × TimedData FixData)}
    {heading : Option (HeadingSource × TimedData HeadingData)}
    {result : NodeState × List Publication}
    (hresult : Handles config s' now stamp publishes fix heading result) (h : SameSlots s s') :
    Handles config s now stamp publishes fix heading result :=
  ⟨by rw [hresult.fixes, h.1], by rw [hresult.headings, h.2], hresult.published⟩

variable (config s now stamp)

theorem processSentence_handles :
    Handles config s now stamp true
      (parsed.fix.map fun fix => (asciiFixSlot fix, ⟨fix, now⟩))
      (parsed.heading.map fun heading => (asciiHeadingSlot heading, ⟨heading, now⟩))
      (s.processSentence config parsed now stamp) :=
  ((takeFix_handles config _ now stamp asciiFixSlot true parsed.fix).both
    (takeHeading_handles config _ now stamp asciiHeadingSlot true parsed.heading)
    (sameSlots_storeAsciiStatus _ parsed now)).of_sameSlots
      (s.sameSlots_countSentence parsed.sentenceType)

theorem processBinarySentence_handles :
    Handles config s now stamp config.useBinaryNav
      (parsed.fix.map fun fix => (binaryFixSlot fix, ⟨fix, now⟩))
      (parsed.heading.map fun heading => (binaryHeadingSlot heading, ⟨heading, now⟩))
      (s.processBinarySentence config parsed now stamp) :=
  (takeFix_handles config s now stamp binaryFixSlot config.useBinaryNav parsed.fix).both
    (takeHeading_handles config _ now stamp binaryHeadingSlot config.useBinaryNav parsed.heading)
    (sameSlots_storeBinaryStatus _ parsed now)

theorem processLine_handles (math : MathFunctions) (line : Bytes) :
    Handles config s now stamp true
      (((parsedLine math line).bind ParsedSentence.fix).map fun fix =>
        (asciiFixSlot fix, ⟨fix, now⟩))
      (((parsedLine math line).bind ParsedSentence.heading).map fun heading =>
        (asciiHeadingSlot heading, ⟨heading, now⟩))
      (s.processLine config math line now stamp) := by
  rw [← parsedLine_eq math line s.parserCounters, processLine]
  rcases UnicoreParser.parseLine math line s.parserCounters with ⟨_ | parsed, counters⟩ | _ | _
  · exact Handles.nothing config s now stamp true (sameSlots_of_eq rfl rfl rfl rfl rfl rfl)
  · exact (processSentence_handles config _ parsed now stamp).of_sameSlots
      (sameSlots_of_eq rfl rfl rfl rfl rfl rfl)
  · exact Handles.nothing config s now stamp true ⟨rfl, rfl⟩
  · exact Handles.nothing config s now stamp true ⟨rfl, rfl⟩

theorem processBinaryFrame_handles (math : MathFunctions) (frame : UnicoreBinaryFrame) :
    Handles config s now stamp config.useBinaryNav
      (((UnicoreBinaryNavParser.parse math frame).toOption.bind ParsedSentence.fix).map fun fix =>
        (binaryFixSlot fix, ⟨fix, now⟩))
      (((UnicoreBinaryNavParser.parse math frame).toOption.bind ParsedSentence.heading).map
        fun heading => (binaryHeadingSlot heading, ⟨heading, now⟩))
      (s.processBinaryFrame config math frame now stamp) := by
  have hnote : SameSlots s (s.noteBinaryFrame frame now) :=
    sameSlots_of_eq rfl rfl rfl rfl rfl rfl
  rw [processBinaryFrame]
  rcases UnicoreBinaryNavParser.parse math frame with parsed | _ | _
  · exact (processBinarySentence_handles config _ parsed now stamp).of_sameSlots hnote
  · exact Handles.nothing config s now stamp config.useBinaryNav hnote
  · exact Handles.nothing config s now stamp config.useBinaryNav hnote

/-- **One event**: what it brings is stored, and published from the slots as they are then. -/
theorem step_handles (math : MathFunctions) (event : NodeEvent) :
    Handles config s event.receivedAt event.stamp (event.publishes config)
      (fixArrival math event) (headingArrival math event) (s.step math config event) := by
  obtain ⟨line | frame, receivedAt, stamp⟩ := event
  · cases line with
    | nil => exact Handles.nothing config s receivedAt stamp true ⟨rfl, rfl⟩
    | cons c line => exact processLine_handles config s receivedAt stamp math (c :: line)
  · exact processBinaryFrame_handles config s receivedAt stamp math frame

end NodeState

/-! ### Runs -/

/-- The message on the fix topic, if it is one. -/
def Publication.fix? : Publication → Option NavSatFix
  | .fix msg => some msg
  | .heading _ => none

/-- The message on the heading topic, if it is one. -/
def Publication.heading? : Publication → Option Azimuth
  | .fix _ => none
  | .heading msg => some msg

namespace NodeState

variable (config : NodeConfig) (s : NodeState) (now : SteadyTime) (stamp : RosTime)

theorem findSome?_fix?_publishActiveFix :
    (s.publishActiveFix config now stamp).findSome? Publication.fix? =
      (s.activeFix config now).map fun fix => s.navSatFix config fix now stamp := by
  rw [publishActiveFix]
  cases s.activeFix config now <;> rfl

theorem findSome?_heading?_publishActiveFix :
    (s.publishActiveFix config now stamp).findSome? Publication.heading? = none := by
  rw [publishActiveFix]
  cases s.activeFix config now <;> rfl

theorem findSome?_fix?_publishActiveHeading :
    (s.publishActiveHeading config now stamp).findSome? Publication.fix? = none := by
  rw [publishActiveHeading]
  cases s.activeHeading config now <;> rfl

theorem findSome?_heading?_publishActiveHeading :
    (s.publishActiveHeading config now stamp).findSome? Publication.heading? =
      (s.activeHeading config now).map fun heading => azimuthMsg config heading stamp := by
  rw [publishActiveHeading]
  cases s.activeHeading config now <;> rfl

end NodeState

namespace Run

variable (math : MathFunctions) (config : NodeConfig) (events : List NodeEvent)

/-- The slots of the fixes hold the latest arrivals. -/
theorem state_fixes :
    (state math config events).fixes = slots (events.map (fixArrival math)) := by
  induction events using List.reverseRecOn with
  | nil => funext source; cases source <;> rfl
  | append_singleton events event ih =>
    rw [state_concat, ((state math config events).step_handles config math event).fixes, ih,
      List.map_append, List.map_singleton, slots_concat]

/-- The slots of the headings hold the latest arrivals. -/
theorem state_headings :
    (state math config events).headings = slots (events.map (headingArrival math)) := by
  induction events using List.reverseRecOn with
  | nil => funext source; cases source <;> rfl
  | append_singleton events event ih =>
    rw [state_concat, ((state math config events).step_handles config math event).headings, ih,
      List.map_append, List.map_singleton, slots_concat]

/-- The fix published at event `n`. -/
def publishedFix (n : ℕ) : Option NavSatFix :=
  (published math config events n).findSome? Publication.fix?

/-- The heading published at event `n`. -/
def publishedHeading (n : ℕ) : Option Azimuth :=
  (published math config events n).findSome? Publication.heading?

/-- The sample carried by what is published at event `n`: the position of the event that brought
it, its source and the sample itself. -/
def carried {Source α : Type} [DecidableEq Source]
    (arrival : NodeEvent → Option (Source × TimedData α)) (priority : List Source)
    (usable : SteadyTime → Source → TimedData α → Bool) (n : ℕ) :
    Option (ℕ × Source × TimedData α) :=
  events[n]?.bind fun event =>
    if (arrival event).isSome && event.publishes config then
      firstUsableArrival priority (usable event.receivedAt) ((events.map arrival).take (n + 1))
    else none

/-- The fix carried by what is published at event `n`. -/
def carriedFix : ℕ → Option (ℕ × FixSource × TimedData FixData) :=
  carried config events (fixArrival math) (NodeState.fixPriority config)
    (NodeState.usableFix config)

/-- The heading carried by what is published at event `n`. -/
def carriedHeading : ℕ → Option (ℕ × HeadingSource × TimedData HeadingData) :=
  carried config events (headingArrival math) (NodeState.headingPriority config)
    (NodeState.usableHeading config)

variable {events} {n : ℕ} {event : NodeEvent}

theorem state_take_succ (h : events[n]? = some event) :
    state math config (events.take (n + 1)) =
      ((state math config (events.take n)).step math config event).1 := by
  rw [List.take_add_one, h, Option.toList_some, state_concat]

/-- What is published at an event, from the slots after the event. -/
theorem published_eq (h : events[n]? = some event) :
    published math config events n =
      (if (fixArrival math event).isSome && event.publishes config then
        (state math config (events.take (n + 1))).publishActiveFix config event.receivedAt
          event.stamp
      else []) ++
      (if (headingArrival math event).isSome && event.publishes config then
        (state math config (events.take (n + 1))).publishActiveHeading config event.receivedAt
          event.stamp
      else []) := by
  rw [published, h, state_take_succ math config h]
  exact ((state math config (events.take n)).step_handles config math event).published

/-- **A published fix** is the message of the fix it carries. -/
theorem publishedFix_eq (h : events[n]? = some event) :
    publishedFix math config events n = (carriedFix math config events n).map
      fun (_, _, sample) => (state math config (events.take (n + 1))).navSatFix config sample.data
        event.receivedAt event.stamp := by
  have hother : ∀ s : NodeState, (if (headingArrival math event).isSome && event.publishes config
      then s.publishActiveHeading config event.receivedAt event.stamp else []).findSome?
        Publication.fix? = none := by
    intro s
    split
    · exact s.findSome?_fix?_publishActiveHeading config event.receivedAt event.stamp
    · rfl
  rw [publishedFix, published_eq math config h, carriedFix, carried, h, Option.bind_some,
    List.findSome?_append, hother, Option.or_none]
  split
  · rw [NodeState.findSome?_fix?_publishActiveFix, NodeState.activeFix_eq, state_fixes,
      List.map_take, firstUsable_slots, Option.map_map, Option.map_map]
    rfl
  · rfl

/-- **A published heading** is the message of the heading it carries. -/
theorem publishedHeading_eq (h : events[n]? = some event) :
    publishedHeading math config events n = (carriedHeading math config events n).map
      fun (_, _, sample) => NodeState.azimuthMsg config sample.data event.stamp := by
  have hother : ∀ s : NodeState, (if (fixArrival math event).isSome && event.publishes config
      then s.publishActiveFix config event.receivedAt event.stamp else []).findSome?
        Publication.heading? = none := by
    intro s
    split
    · exact s.findSome?_heading?_publishActiveFix config event.receivedAt event.stamp
    · rfl
  rw [publishedHeading, published_eq math config h, carriedHeading, carried, h, Option.bind_some,
    List.findSome?_append, hother, Option.none_or]
  split
  · rw [NodeState.findSome?_heading?_publishActiveHeading, NodeState.activeHeading_eq,
      state_headings, List.map_take, firstUsable_slots, Option.map_map, Option.map_map]
    rfl
  · rfl

/-! ### The order of receipt -/

/-- What holds of the order of receipt of the published samples. -/
structure OrderOfReceipt {Source α : Type} (arrivals : List (Option (Source × TimedData α)))
    (carried : ℕ → Option (ℕ × Source × TimedData α)) : Prop where
  /-- Something is published only when a sample arrives. -/
  on_arrival : ∀ n c, carried n = some c →
    ∃ source sample, arrivals[n]? = some (some (source, sample))
  /-- It carries the latest sample of some source. -/
  latest : ReadsLatest arrivals carried
  /-- What is published of one source never goes back. -/
  same_source : ∀ m n i j source sample sample', m ≤ n →
    carried m = some (i, source, sample) → carried n = some (j, source, sample') → i ≤ j
  /-- If it is of the source of the arriving sample, it is the arriving sample, which no earlier
  publication is as new as. -/
  arriving_source : ∀ n j source sample arriving, carried n = some (j, source, sample) →
    arrivals[n]? = some (some (source, arriving)) →
      j = n ∧ ∀ m i source' earlier, m < n → carried m = some (i, source', earlier) → i < n

theorem orderOfReceipt_carried {Source α : Type} [DecidableEq Source]
    (arrival : NodeEvent → Option (Source × TimedData α)) (priority : List Source)
    (usable : SteadyTime → Source → TimedData α → Bool) (events : List NodeEvent) :
    OrderOfReceipt (events.map arrival) (carried config events arrival priority usable) := by
  have hlatest :
      ReadsLatest (events.map arrival) (carried config events arrival priority usable) := by
    refine readsLatest_of_lastArrival fun n j source sample hread => ?_
    rw [carried, Option.bind_eq_some_iff] at hread
    obtain ⟨event, -, hif⟩ := hread
    rw [Option.ite_none_right_eq_some] at hif
    exact lastArrival_of_firstUsableArrival hif.2
  refine ⟨fun n c hc => ?_, hlatest, ?_, ?_⟩
  · rw [carried, Option.bind_eq_some_iff] at hc
    obtain ⟨event, hevent, hif⟩ := hc
    rw [Option.ite_none_right_eq_some, Bool.and_eq_true, Option.isSome_iff_exists] at hif
    obtain ⟨⟨⟨⟨source, sample⟩, harrival⟩, -⟩, -⟩ := hif
    exact ⟨source, sample, by rw [List.getElem?_map, hevent, Option.map_some, harrival]⟩
  · intro m n i j source sample sample' hmn hm hn
    exact hlatest.le_of_le hmn hm hn
  · intro n j source sample arriving hn harrival
    exact ⟨hlatest.eq_of_arrival hn harrival,
      fun m i source' earlier hmn hm => hlatest.lt_of_lt hmn hm⟩

variable (events)

/-- **The order of publication.** What is published is made from the sample it carries, and the
samples are carried in the order of receipt but for repetitions and steps back at arrivals whose
own source is not the selected one. -/
theorem publication_order :
    (∀ n event, events[n]? = some event →
      publishedFix math config events n = (carriedFix math config events n).map
        (fun (_, _, sample) => (state math config (events.take (n + 1))).navSatFix config
          sample.data event.receivedAt event.stamp) ∧
      publishedHeading math config events n = (carriedHeading math config events n).map
        (fun (_, _, sample) => NodeState.azimuthMsg config sample.data event.stamp)) ∧
    OrderOfReceipt (events.map (fixArrival math)) (carriedFix math config events) ∧
    OrderOfReceipt (events.map (headingArrival math)) (carriedHeading math config events) :=
  ⟨fun _ _ h => ⟨publishedFix_eq math config h, publishedHeading_eq math config h⟩,
    orderOfReceipt_carried config (fixArrival math) _ _ events,
    orderOfReceipt_carried config (headingArrival math) _ _ events⟩

/-- Every published sample was received after all that were published before. -/
def StrictlyLater {Source α : Type} (carried : ℕ → Option (ℕ × Source × TimedData α)) : Prop :=
  ∀ m n i j source source' sample sample', m < n → carried m = some (i, source, sample) →
    carried n = some (j, source', sample') → sample.receivedAt < sample'.receivedAt

/-- Sine and cosine, right at zero. -/
def mathAtZero : MathFunctions := ⟨fun _ => 0, fun _ => 1⟩

/-- An HPR sentence and, 100 ms later, an HDT sentence. -/
def headingEvents : List NodeEvent :=
  [{ input := .asciiLine (ascii "$GNHPR,1,90,1,2*78"), receivedAt := 0, stamp := 0 },
    { input := .asciiLine (ascii "$GNHDT,80,T*0D"), receivedAt := 10 ^ 8, stamp := 10 ^ 8 }]

/-- The HPR heading is published again, under the time of the HDT sentence. -/
theorem not_strictlyLater_headingEvents :
    headingEvents.Pairwise (fun event later => event.receivedAt ≤ later.receivedAt) ∧
    (publishedHeading mathAtZero {} headingEvents 0).map
      (fun msg => (msg.header.stamp, msg.azimuth)) = some (0, 90) ∧
    (publishedHeading mathAtZero {} headingEvents 1).map
      (fun msg => (msg.header.stamp, msg.azimuth)) = some (10 ^ 8, 90) ∧
    ¬ StrictlyLater (carriedHeading mathAtZero {} headingEvents) := by
  have h0 : carriedHeading mathAtZero {} headingEvents 0 =
      some (0, .hpr, ⟨⟨.hpr, 90, some 1, some 2, none, 0⟩, 0⟩) := by decide +kernel
  have h1 : carriedHeading mathAtZero {} headingEvents 1 =
      some (0, .hpr, ⟨⟨.hpr, 90, some 1, some 2, none, 0⟩, 0⟩) := by decide +kernel
  refine ⟨by decide, by decide +kernel, by decide +kernel, fun h => ?_⟩
  exact absurd (h 0 1 _ _ _ _ _ _ one_pos h0 h1) (by decide)

end Run

end UnicoreGnss
