import Mathlib.Data.List.Induction
import UnicoreGnss.LiveValidate.Framer

/-!
# When the two framers agree

The counters of the parser and of the transport agree in every run. The events do not: a line
`A CR CR LF` is `A CR` to the driver and `A` to the validator. They agree if and only if that never
happens, which is a condition on the states in which a run makes a pass of its loop.

## Main results

* `counters_agree` — the counters, in every run
* `feed_agrees_iff` — the events
-/

namespace UnicoreGnss

open FirstMatch

/-- The next thing the transport takes is a line with two CRs before its LF. -/
def UnicoreTransport.TakesDoubleCr (t : UnicoreTransport) : Prop :=
  ∃ newline ∈ findNewline t.buffer,
    (t.options.enableBinary = true → ∀ sync ∈ findBinarySync t.buffer, newline < sync) ∧
      [cr, cr] <:+ t.buffer.take newline

instance (t : UnicoreTransport) : Decidable t.TakesDoubleCr := by
  unfold UnicoreTransport.TakesDoubleCr
  infer_instance

namespace LiveValidate

open BufferedReader

/-! ### What is compared -/

/-- An event, as far as it is compared. -/
inductive Observed where
  | line (text : Bytes)
  | frame (messageId : ℕ) (payload : Bytes) (week milliseconds version : ℕ)
  deriving DecidableEq, Repr

/-- An event of the driver. -/
def observeDriver : UnicoreTransportEvent → Observed
  | .asciiLine text => .line text
  | .binaryFrame frame =>
    .frame frame.messageId.toNat frame.payload frame.week.toNat frame.milliseconds.toNat
      frame.version.toNat

/-- An event of the validator. -/
def observe : TransportEvent → Observed
  | .line text => .line text
  | .binary frame =>
    .frame frame.messageId frame.payload frame.week frame.milliseconds frame.version

/-- The driver, fed with some chunks. -/
def driverRun (maxFrameSize : ℕ) (chunks : List Bytes) :
    List UnicoreTransportEvent × UnicoreTransport :=
  UnicoreTransport.run (feeding chunks) (.fresh (binaryOptions true maxFrameSize))

/-- The states in which the driver makes a pass of its loop and goes on. -/
def passStates (maxFrameSize : ℕ) (chunks : List Bytes) : List UnicoreTransport :=
  ((UnicoreTransport.reader.label fun t _ _ => t).run (feeding chunks)
    (.fresh (binaryOptions true maxFrameSize))).1

/-- Fed with the same chunks, the two hand out the same events and end with the same counters. -/
structure SameFraming (maxFrameSize : ℕ) (chunks : List (Bytes × ℚ)) : Prop where
  events : (TransportParser.feedAll chunks (.init maxFrameSize)).1.map (observe ∘ Prod.snd) =
    (driverRun maxFrameSize (chunks.map Prod.fst)).1.map observeDriver
  crcErrors : (TransportParser.feedAll chunks (.init maxFrameSize)).2.binaryCrcErrors =
    (driverRun maxFrameSize (chunks.map Prod.fst)).2.binaryCounters.crcErrors
  resyncCount : (TransportParser.feedAll chunks (.init maxFrameSize)).2.resyncCount =
    (driverRun maxFrameSize (chunks.map Prod.fst)).2.binaryCounters.resyncCount
  syncCandidates : (TransportParser.feedAll chunks (.init maxFrameSize)).2.syncCandidates =
    (driverRun maxFrameSize (chunks.map Prod.fst)).2.binaryCounters.syncCandidates
  reasons : (TransportParser.feedAll chunks (.init maxFrameSize)).2.frameParseErrorsByReason =
    (driverRun maxFrameSize (chunks.map Prod.fst)).2.binaryCounters.frameParseErrorsByReason

/-! ### Lines -/

section Lines

variable {text : Bytes}

theorem rstripCr_concat_cr (text : Bytes) : rstripCr (text ++ [cr]) = rstripCr text := by
  simp [rstripCr]

theorem rstripCr_of_getLast? (h : text.getLast? ≠ some cr) : rstripCr text = text := by
  rcases List.eq_nil_or_concat text with rfl | ⟨init, last, rfl⟩
  · rfl
  · have hlast : last ≠ cr := by simpa using h
    simp [rstripCr, hlast]

/-- Stripping leaves no CR at the end. -/
theorem getLast?_rstripCr (text : Bytes) : (rstripCr text).getLast? ≠ some cr := by
  induction text using List.reverseRecOn with
  | nil => exact nofun
  | append_singleton text last ih =>
    by_cases hlast : last = cr
    · rw [hlast, rstripCr_concat_cr]
      exact ih
    · rw [rstripCr_of_getLast? (by simpa using hlast)]
      simpa using hlast

/-- What the driver leaves of a line. -/
def dropCr (text : Bytes) : Bytes := if text.getLast? = some cr then text.dropLast else text

/-- **The two make the same of a line** unless it ends in two CRs. -/
theorem rstripCr_eq_dropCr_iff (text : Bytes) :
    rstripCr text = dropCr text ↔ ¬ [cr, cr] <:+ text := by
  rcases List.eq_nil_or_concat text with rfl | ⟨init, last, rfl⟩
  · simp [rstripCr, dropCr]
  rw [List.concat_eq_append]
  by_cases hlast : last = cr
  · subst hlast
    have hdouble : [cr, cr] <:+ init ++ [cr] ↔ init.getLast? = some cr := by
      rw [List.getLast?_eq_some_iff]
      constructor
      · rintro ⟨front, hfront⟩
        exact ⟨front, (List.append_inj' (by simpa using hfront) rfl).1.symm⟩
      · rintro ⟨front, rfl⟩
        exact ⟨front, by simp⟩
    rw [rstripCr_concat_cr, dropCr, if_pos (by simp), List.dropLast_concat, hdouble]
    constructor
    · intro h
      rw [← h]
      exact getLast?_rstripCr init
    · exact rstripCr_of_getLast?
  · have hsuffix : ¬ [cr, cr] <:+ init ++ [last] := by
      rintro ⟨front, hfront⟩
      have := congrArg List.getLast? hfront
      simp only [List.getLast?_append] at this
      exact hlast (by simpa using this.symm)
    rw [rstripCr_of_getLast? (by simpa using hlast), dropCr, if_neg (by simpa using hlast)]
    exact iff_of_true rfl hsuffix

theorem lineEvents_eq (text : Bytes) :
    UnicoreGnss.lineEvents text = if dropCr text = [] then [] else [.asciiLine (dropCr text)] :=
  rfl

/-- The events of a line are the same exactly if what is left of it is. -/
theorem lineEvents_eq_iff (text : Bytes) :
    (TransportParser.lineEvents text).map observe =
        (UnicoreGnss.lineEvents text).map observeDriver ↔ ¬ [cr, cr] <:+ text := by
  rw [← rstripCr_eq_dropCr_iff, TransportParser.lineEvents, lineEvents_eq]
  by_cases hv : rstripCr text = [] <;> by_cases hd : dropCr text = [] <;>
    simp [hv, hd, observe, observeDriver, eq_comm]

end Lines

/-! ### Segments -/

/-- What the parser makes of a segment is what the driver makes of it. -/
def SameEvents (seg : Segment) : Prop :=
  (parserEvents seg).map observe = seg.events.map observeDriver

/-- The parser never hands out more than the driver. -/
theorem length_parserEvents_le (seg : Segment) :
    (parserEvents seg).length ≤ seg.events.length := by
  cases seg with
  | discarded bytes => exact le_rfl
  | line text =>
    by_cases hd : dropCr text = []
    · have hshort : text.length ≤ 1 := by
        rw [dropCr] at hd
        split at hd
        · have := congrArg List.length hd
          rw [List.length_dropLast, List.length_nil] at this
          omega
        · simp [hd]
      have hv : rstripCr text = [] := by
        rw [(rstripCr_eq_dropCr_iff text).mpr fun h => by have := h.length_le; simp at this; omega]
        exact hd
      simp [parserEvents, TransportParser.lineEvents, hv]
    · rw [parserEvents, TransportParser.lineEvents, Segment.events, lineEvents_eq, if_neg hd]
      split <;> simp
  | frame bytes => exact le_rfl

/-- Frames are decoded alike. -/
theorem sameEvents_frame {b : Bytes} (h : frameSize b ≤ b.length) :
    SameEvents (.frame (b.take (frameSize b))) := by
  have hsize : (b.take (frameSize b)).length = frameSize (b.take (frameSize b)) := by
    rw [(decode_take b).1, length_take_frameSize h]
  generalize b.take (frameSize b) = raw at hsize
  have hmessageId := leNat_slice_two raw 4
  have hweek := leNat_slice_two raw 10
  have hmilliseconds := leNat_slice_four raw 12
  have hversion := leNat_slice_four raw 16
  have hpayload : slice raw binaryHeaderLength (raw.length - 4) = (decodeFrame raw).payload := by
    rw [slice, hsize]
    rfl
  simp only [SameEvents, parserEvents, Segment.events, List.map_cons, List.map_nil, observe,
    observeDriver, TransportParser.frameOf, hmessageId, hweek, hmilliseconds, hversion, hpayload]
  rfl

/-- **A pass goes the same way in both**, unless it takes a line that ends in two CRs. -/
theorem sameEvents_iff {t t' : UnicoreTransport} {out : List UnicoreTransportEvent}
    (hpass : t.drainPass = .next out t') :
    SameEvents (UnicoreTransport.segment t out t') ↔ ¬ t.TakesDoubleCr := by
  have hnone : ∀ {sync : ℕ}, findBinarySync t.buffer = some sync →
      t.options.enableBinary = true →
      (∀ newline, findNewline t.buffer = some newline → sync ≤ newline) → ¬ t.TakesDoubleCr := by
    rintro sync hsync hbin hfirst ⟨newline, hnl, hbefore, -⟩
    have hlt := hbefore hbin sync hsync
    have hle := hfirst newline hnl
    omega
  have hline : ∀ {newline : ℕ}, findNewline t.buffer = some newline →
      (t.options.enableBinary = true →
        ∀ sync, findBinarySync t.buffer = some sync → newline < sync) →
      (SameEvents (.line (t.buffer.take newline)) ↔ ¬ t.TakesDoubleCr) := by
    intro newline hnl hfirst
    refine (lineEvents_eq_iff _).trans (not_congr ⟨fun h => ⟨newline, hnl, hfirst, h⟩, ?_⟩)
    rintro ⟨newline', hnl', -, h⟩
    obtain rfl : newline' = newline := Option.some.inj (hnl'.symm.trans hnl)
    exact h
  cases hbin : t.options.enableBinary with
  | false =>
    obtain ⟨newline, hnl, rfl, rfl⟩ := UnicoreTransport.asciiLine_of_next hbin hpass
    rw [UnicoreTransport.segment_line hnl (by simp)]
    exact hline hnl fun h => absurd (hbin.symm.trans h) nofun
  | true =>
    have hcase := (UnicoreTransport.segmentCase_of_next hbin hpass).1
    generalize UnicoreTransport.segment t out t' = seg at hcase
    cases hcase with
    | tooLarge hsync => exact iff_of_true rfl (hnone hsync hbin fun _ _ => Nat.zero_le _)
    | crcReject hsync => exact iff_of_true rfl (hnone hsync hbin fun _ _ => Nat.zero_le _)
    | frame hsync _ hlen _ =>
      exact iff_of_true (sameEvents_frame hlen) (hnone hsync hbin fun _ _ => Nat.zero_le _)
    | frameLenient hsync _ hlen _ _ =>
      exact iff_of_true (sameEvents_frame hlen) (hnone hsync hbin fun _ _ => Nat.zero_le _)
    | line newline hnl hfirst => exact hline hnl fun _ => hfirst
    | skip sync _ hsync hfirst => exact iff_of_true rfl (hnone hsync hbin hfirst)
    | drop _ _ hnl _ _ =>
      refine iff_of_true rfl ?_
      rintro ⟨newline, hnl', -⟩
      rw [hnl] at hnl'
      exact absurd hnl' nofun

/-! ### Runs -/

/-- Where one list never has more for an element than another, the two are put together to the same
list only if they have the same for each element. -/
theorem flatMap_eq_flatMap_iff {α β : Type} {f g : α → List β} (l : List α)
    (hle : ∀ a, (f a).length ≤ (g a).length) :
    l.flatMap f = l.flatMap g ↔ ∀ a ∈ l, f a = g a := by
  have hlength : ∀ l : List α, (l.flatMap f).length ≤ (l.flatMap g).length := by
    intro l
    induction l with
    | nil => exact le_rfl
    | cons a l ih =>
      have ha := hle a
      rw [List.flatMap_cons, List.flatMap_cons, List.length_append, List.length_append]
      omega
  induction l with
  | nil => simp
  | cons a l ih =>
    rw [List.flatMap_cons, List.flatMap_cons, List.forall_mem_cons]
    constructor
    · intro h
      have ha := hle a
      have hl := hlength l
      have htotal := congrArg List.length h
      rw [List.length_append, List.length_append] at htotal
      obtain ⟨hfront, hrest⟩ := List.append_inj h (by omega)
      exact ⟨hfront, ih.mp hrest⟩
    · rintro ⟨hfront, hrest⟩
      rw [hfront, ih.mpr hrest]

section Runs

variable {maxFrameSize : ℕ}

/-- The parser's run against the history of the driver's. -/
theorem feedAll_eq_history (h : 256 ≤ maxFrameSize) (chunks : List (Bytes × ℚ)) :
    let history := UnicoreTransport.history.run (feeding (chunks.map Prod.fst))
      (.fresh (binaryOptions true maxFrameSize))
    let parsed := TransportParser.feedAll chunks (.init maxFrameSize)
    parsed.1.map Prod.snd = history.1.flatMap parserEvents ∧ Agrees history.2 parsed.2 := by
  have hrun := feedAll_eq_run chunks (.init maxFrameSize)
  obtain ⟨hevents, hstate⟩ :=
    translates_history.run (feeding (chunks.map Prod.fst)) (Agrees.init h)
  rw [← hrun] at hevents hstate
  exact ⟨hevents, hstate⟩

/-- **The counters agree** in every run. -/
theorem counters_agree (h : 256 ≤ maxFrameSize) (chunks : List (Bytes × ℚ)) :
    Agrees (driverRun maxFrameSize (chunks.map Prod.fst)).2
      (TransportParser.feedAll chunks (.init maxFrameSize)).2 := by
  rw [driverRun, UnicoreTransport.run_eq_history]
  exact (feedAll_eq_history h chunks).2

/-- The events agree if what is made of each segment does. -/
theorem events_eq_iff (h : 256 ≤ maxFrameSize) (chunks : List (Bytes × ℚ)) :
    (TransportParser.feedAll chunks (.init maxFrameSize)).1.map (observe ∘ Prod.snd) =
        (driverRun maxFrameSize (chunks.map Prod.fst)).1.map observeDriver ↔
      ∀ seg ∈ (UnicoreTransport.history.run (feeding (chunks.map Prod.fst))
        (.fresh (binaryOptions true maxFrameSize))).1, SameEvents seg := by
  rw [← List.map_map, (feedAll_eq_history h chunks).1, driverRun, UnicoreTransport.run_eq_history,
    List.map_flatMap, List.map_flatMap, flatMap_eq_flatMap_iff]
  · rfl
  · intro seg
    rw [List.length_map, List.length_map]
    exact length_parserEvents_le seg

/-- **The two framers agree** on a run if and only if no pass of it takes a line that ends in two
CRs. -/
theorem feed_agrees_iff (maxFrameSize : ℕ) (h : 256 ≤ maxFrameSize)
    (chunks : List (Bytes × ℚ)) :
    SameFraming maxFrameSize chunks ↔
      ∀ t ∈ passStates maxFrameSize (chunks.map Prod.fst), ¬ t.TakesDoubleCr := by
  have hpasses : (∀ seg ∈ (UnicoreTransport.history.run (feeding (chunks.map Prod.fst))
        (.fresh (binaryOptions true maxFrameSize))).1, SameEvents seg) ↔
      ∀ t ∈ passStates maxFrameSize (chunks.map Prod.fst), ¬ t.TakesDoubleCr := by
    refine UnicoreTransport.reader.forall_label_iff ?_ _ _
    intro t out t' hpass
    exact sameEvents_iff hpass
  have hcounters := counters_agree h chunks
  constructor
  · intro hsame
    exact hpasses.mp ((events_eq_iff h chunks).mp hsame.events)
  · intro hclean
    exact ⟨(events_eq_iff h chunks).mpr (hpasses.mpr hclean), hcounters.crcErrors,
      hcounters.resyncCount, hcounters.syncCandidates, hcounters.reasons⟩

/-- A line and a frame's sync in two chunks. -/
theorem feed_agrees_line : SameFraming 256 [([0x41, 0x0D], 0), ([0x0A, 0xAA, 0x44], 1)] :=
  (feed_agrees_iff 256 le_rfl _).mpr (by decide)

/-- `A CR CR LF` is `A` to the validator and `A CR` to the driver. -/
theorem feed_disagrees_double_cr :
    ¬ ∀ maxFrameSize : ℕ, 256 ≤ maxFrameSize → ∀ chunks : List (Bytes × ℚ),
      SameFraming maxFrameSize chunks := by
  intro h
  have hevents := (h 256 le_rfl [([0x41, 0x0D, 0x0D, 0x0A], 0)]).events
  exact absurd hevents (by decide)

end Runs

end LiveValidate

end UnicoreGnss
