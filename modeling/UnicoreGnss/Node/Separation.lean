import UnicoreGnss.Lib.HiddenInputs
import UnicoreGnss.Node.Publication

/-!
# Binary diagnostics and the navigation topics

Without binary navigation the node still parses every binary frame, for the diagnostics, and keeps
what it finds in the same state as the data of the text lines. None of it gets into what the node
publishes as a fix or a heading: binary frames fill slots of their own, and the selection passes
over these slots.

## Main results

* `NodeState.publishActiveFix_of_sameTextSlots`, `publishActiveHeading_of_sameTextSlots` — what is
  published depends on the slots of the text sources
* `NodeState.unwinding` — one event
* `Run.publications_eq` — runs with the same text lines publish the same
-/

namespace UnicoreGnss

open Checked HiddenInputs LatestSample

/-- Is it a binary frame? -/
def NodeEvent.isBinary (event : NodeEvent) : Bool :=
  match event.input with
  | .asciiLine _ => false
  | .binaryFrame _ => true

namespace NodeState

variable (math : MathFunctions) {config : NodeConfig} {s t : NodeState}

/-- The slots of the text sources are the same. -/
structure SameTextSlots (s t : NodeState) : Prop where
  fixes : ∀ source, source ≠ .pvtslnb → s.fixes source = t.fixes source
  headings : ∀ source, source ≠ .pvtslnb → s.headings source = t.headings source

/-! ### Publication -/

/-- Without binary navigation the selection looks at the text sources only. -/
theorem activeFix_of_sameTextSlots (hconfig : config.useBinaryNav = false)
    (h : SameTextSlots s t) (now : SteadyTime) :
    s.activeFix config now = t.activeFix config now := by
  have hgga : s.fixes .gga = t.fixes .gga := h.fixes .gga nofun
  have hpvtslna : s.fixes .pvtslna = t.fixes .pvtslna := h.fixes .pvtslna nofun
  have hpriority : fixPriority config = [.pvtslna, .gga] := by
    rw [fixPriority, hconfig]
    rfl
  rw [activeFix_eq, activeFix_eq, hpriority]
  simp only [firstUsable_cons, firstUsable_nil, hgga, hpvtslna]

theorem activeHeading_of_sameTextSlots (hconfig : config.useBinaryNav = false)
    (h : SameTextSlots s t) (now : SteadyTime) :
    s.activeHeading config now = t.activeHeading config now := by
  have hhdt : s.headings .hdt = t.headings .hdt := h.headings .hdt nofun
  have hhpr : s.headings .hpr = t.headings .hpr := h.headings .hpr nofun
  have hpriority : headingPriority config = [.hpr, .hdt] := by
    rw [headingPriority, hconfig]
    rfl
  rw [activeHeading_eq, activeHeading_eq, hpriority]
  simp only [firstUsable_cons, firstUsable_nil, hhdt, hhpr]

/-- The status of a fix may fall back on GGA, which is a text source. -/
theorem publishActiveFix_of_sameTextSlots (hconfig : config.useBinaryNav = false)
    (h : SameTextSlots s t) (now : SteadyTime) (stamp : RosTime) :
    s.publishActiveFix config now stamp = t.publishActiveFix config now stamp := by
  have hgga : s.latestGgaFix = t.latestGgaFix := h.fixes .gga nofun
  simp only [publishActiveFix, activeFix_of_sameTextSlots hconfig h, navSatFix, buildNavStatus,
    hgga]

theorem publishActiveHeading_of_sameTextSlots (hconfig : config.useBinaryNav = false)
    (h : SameTextSlots s t) (now : SteadyTime) (stamp : RosTime) :
    s.publishActiveHeading config now stamp = t.publishActiveHeading config now stamp := by
  simp only [publishActiveHeading, activeHeading_of_sameTextSlots hconfig h]

/-! ### One event -/

/-- What arrives in the slot of one source leaves those of the others alone. -/
theorem store_of_ne {Source Sample : Type} [DecidableEq Source] (slots : Source → Option Sample)
    {arrival : Option (Source × Sample)} {source own : Source}
    (h : ∀ p ∈ arrival, p.1 = own) (hne : source ≠ own) :
    store slots arrival source = slots source := by
  cases arrival with
  | none => rfl
  | some p =>
    have hown : p.1 = own := h p rfl
    rw [store, hown, Function.update_of_ne hne]

/-- The same arrival in slots that are the same. -/
theorem store_congr {Source Sample : Type} [DecidableEq Source]
    {slots slots' : Source → Option Sample} {source : Source} (h : slots source = slots' source)
    (arrival : Option (Source × Sample)) :
    store slots arrival source = store slots' arrival source := by
  cases arrival with
  | none => exact h
  | some p =>
    by_cases hsource : source = p.1
    · rw [store, store, hsource, Function.update_self, Function.update_self]
    · rw [store, store, Function.update_of_ne hsource, Function.update_of_ne hsource, h]

/-- **A binary frame** changes no slot of a text source, and nothing is published. -/
theorem step_binary (hconfig : config.useBinaryNav = false) {event : NodeEvent}
    (hevent : event.isBinary = true) (h : SameTextSlots s t) :
    SameTextSlots (s.step math config event).1 t ∧ (s.step math config event).2 = [] := by
  obtain ⟨line | frame, receivedAt, stamp⟩ := event
  · exact absurd hevent nofun
  · have hhandles := step_handles config s math ⟨.binaryFrame frame, receivedAt, stamp⟩
    refine ⟨⟨fun source hsource => ?_, fun source hsource => ?_⟩, ?_⟩
    · rw [hhandles.fixes, store_of_ne _ (fun p hp => ?_) hsource, h.fixes source hsource]
      rw [fixArrival, Option.mem_map] at hp
      obtain ⟨fix, -, rfl⟩ := hp
      rfl
    · rw [hhandles.headings, store_of_ne _ (fun p hp => ?_) hsource, h.headings source hsource]
      rw [headingArrival, Option.mem_map] at hp
      obtain ⟨heading, -, rfl⟩ := hp
      rfl
    · rw [hhandles.published]
      simp [NodeEvent.publishes, hconfig]

/-- **A text line** does the same to both states. -/
theorem step_text (hconfig : config.useBinaryNav = false) (event : NodeEvent)
    (h : SameTextSlots s t) :
    SameTextSlots (s.step math config event).1 (t.step math config event).1 ∧
      (s.step math config event).2 = (t.step math config event).2 := by
  have hs := step_handles config s math event
  have ht := step_handles config t math event
  have hslots : SameTextSlots (s.step math config event).1 (t.step math config event).1 := by
    constructor
    · intro source hsource
      rw [hs.fixes, ht.fixes, store_congr (h.fixes source hsource)]
    · intro source hsource
      rw [hs.headings, ht.headings, store_congr (h.headings source hsource)]
  refine ⟨hslots, ?_⟩
  rw [hs.published, ht.published, publishActiveFix_of_sameTextSlots hconfig hslots,
    publishActiveHeading_of_sameTextSlots hconfig hslots]

/-- **Binary frames are hidden** by the slots of the text sources. -/
theorem unwinding (hconfig : config.useBinaryNav = false) :
    Unwinding (step math config) NodeEvent.isBinary SameTextSlots where
  refl _ := ⟨fun _ _ => rfl, fun _ _ => rfl⟩
  hidden_step _ _ _ hevent h := step_binary math hconfig hevent h
  visible_step _ _ event _ h := step_text math hconfig event h

end NodeState

/-! ### Runs -/

namespace Run

variable (math : MathFunctions) (config : NodeConfig)

/-- All that a fresh node publishes in a run, in order. -/
def publications (events : List NodeEvent) : List Publication :=
  outputs (NodeState.step math config) {} events

variable {config}

/-- **Binary diagnostics do not get into the navigation topics**: two runs with the same text lines
at the same times publish the same, whatever the binary frames. -/
theorem publications_eq (hconfig : config.useBinaryNav = false) {events events' : List NodeEvent}
    (h : events.filter (fun event => !event.isBinary) =
      events'.filter fun event => !event.isBinary) :
    publications math config events = publications math config events' :=
  (NodeState.unwinding math hconfig).outputs_eq {} h

/-- A PVTSLNB frame before two text lines. -/
theorem publications_eq_headingEvents :
    publications mathAtZero {}
        ({ input := .binaryFrame { messageId := 1021 }, receivedAt := 0, stamp := 0 } ::
          headingEvents) =
      publications mathAtZero {} headingEvents :=
  publications_eq mathAtZero rfl rfl

end Run

end UnicoreGnss
