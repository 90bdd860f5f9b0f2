import UnicoreGnss.Lib.RecentDistinct
import UnicoreGnss.Node.Dispatcher

/-!
# What the dispatcher remembers

The counters of the dispatcher are about all the frames it has been given, and its recent unknown
ids are a bounded list of distinct items: `dispatchAll_eq` says which ids were pushed.
Repeats are not moved to the end, so the list is not that of the last eight distinct ids.

## Main definitions

* `UnicoreBinaryDispatcher.dispatchAll` — the counters after a list of frames

## Main results

* `dispatchAll_history` — what they say
-/

namespace UnicoreGnss

namespace UnicoreBinaryDispatcher

/-- The counters after the frames, from those of a new dispatcher. -/
def dispatchAll (frames : List UnicoreBinaryFrame) : UnicoreBinaryDispatchCounters :=
  frames.foldl (fun counters frame => (dispatch counters frame).2) {}

/-- Is the id in the table? -/
def isKnown (messageId : UInt16) : Bool := (knownMessageIds.map Prod.fst).contains messageId

/-- The ids of the frames that are not in the table, in order. -/
def unknownIds (frames : List UnicoreBinaryFrame) : List UInt16 :=
  (frames.map (·.messageId)).filter fun messageId => !isKnown messageId

variable {frames : List UnicoreBinaryFrame} {frame : UnicoreBinaryFrame}

/-! ### The table -/

/-- No name in the table is empty, so an empty name is that of an id that is not in it. -/
theorem knownMessageName_eq_nil_iff (messageId : UInt16) :
    knownMessageName messageId = [] ↔ isKnown messageId = false := by
  have hnames : ∀ entry ∈ knownMessageIds, entry.2 ≠ [] := by decide
  rw [knownMessageName, isKnown]
  generalize knownMessageIds = table at hnames ⊢
  induction table with
  | nil => simp
  | cons entry table ih =>
    obtain ⟨id, name⟩ := entry
    have hname : name ≠ [] := hnames (id, name) List.mem_cons_self
    have hrest := ih fun entry hentry => hnames entry (List.mem_cons_of_mem _ hentry)
    rw [List.lookup_cons, List.map_cons, List.contains_cons]
    cases heq : messageId == id with
    | true => simpa using hname
    | false => simpa using hrest

/-! ### The step -/

theorem dispatchAll_concat (frames : List UnicoreBinaryFrame) (frame : UnicoreBinaryFrame) :
    dispatchAll (frames ++ [frame]) = (dispatch (dispatchAll frames) frame).2 := by
  rw [dispatchAll, List.foldl_append]
  rfl

/-- A frame with a known id. -/
theorem dispatch_known (counters : UnicoreBinaryDispatchCounters)
    (h : isKnown frame.messageId = true) :
    (dispatch counters frame).2 = { counters with
      dispatchedFrames := counters.dispatchedFrames + 1
      lastMessageId := some frame.messageId } := by
  have hname : knownMessageName frame.messageId ≠ [] := by
    rw [Ne, knownMessageName_eq_nil_iff, h]
    simp
  exact if_pos hname

/-- A frame with an unknown id. -/
theorem dispatch_unknown (counters : UnicoreBinaryDispatchCounters)
    (h : isKnown frame.messageId = false) :
    (dispatch counters frame).2 = { counters with
      dispatchedFrames := counters.dispatchedFrames + 1
      lastMessageId := some frame.messageId
      unknownFrames := counters.unknownFrames + 1
      recentUnknownMessageIds :=
        pushUnknown counters.recentUnknownMessageIds frame.messageId } := by
  have hname := (knownMessageName_eq_nil_iff frame.messageId).mpr h
  exact if_neg (by rw [hname]; simp)

theorem unknownIds_concat (frames : List UnicoreBinaryFrame) (frame : UnicoreBinaryFrame) :
    unknownIds (frames ++ [frame]) =
      unknownIds frames ++ if isKnown frame.messageId then [] else [frame.messageId] := by
  rw [unknownIds, List.map_append, List.filter_append, unknownIds]
  cases h : isKnown frame.messageId <;> simp [h]

/-! ### Histories -/

/-- **The counters of every history.** The recent ids are what is left of pushing the unknown
ones. -/
theorem dispatchAll_eq (frames : List UnicoreBinaryFrame) :
    dispatchAll frames =
      { dispatchedFrames := frames.length
        unknownFrames := (unknownIds frames).length
        lastMessageId := frames.getLast?.map (·.messageId)
        recentUnknownMessageIds := (RecentDistinct.pushAll
          (RecentDistinct.empty : RecentDistinct UInt16 recentUnknownIdsLimit)
          (unknownIds frames)).items } := by
  induction frames using List.reverseRecOn with
  | nil => rfl
  | append_singleton frames frame ih =>
    rw [dispatchAll_concat, unknownIds_concat, List.getLast?_concat, List.length_append,
      List.length_singleton]
    cases h : isKnown frame.messageId with
    | true =>
      rw [dispatch_known _ h, ih]
      simp
    | false =>
      rw [dispatch_unknown _ h, ih]
      simp [RecentDistinct.pushAll_concat, pushUnknown, RecentDistinct.pushed]

/-- **What the dispatcher remembers of any frames.** -/
theorem dispatchAll_history (frames : List UnicoreBinaryFrame) :
    let counters := dispatchAll frames
    let recent := counters.recentUnknownMessageIds
    recent.length ≤ 8 ∧
    recent.Nodup ∧
    (∀ messageId ∈ recent,
      messageId ∈ frames.map (·.messageId) ∧ messageId ∉ knownMessageIds.map Prod.fst) ∧
    (∀ messageId, (unknownIds frames).getLast? = some messageId → messageId ∈ recent) ∧
    ((unknownIds frames).toFinset.card < 9 →
      ∀ messageId ∈ unknownIds frames, messageId ∈ recent) ∧
    counters.dispatchedFrames = frames.length ∧
    counters.unknownFrames = frames.countP (fun frame => !isKnown frame.messageId) ∧
    counters.lastMessageId = frames.getLast?.map (·.messageId) := by
  intro counters recent
  have hcounters : counters = _ := dispatchAll_eq frames
  let kept : RecentDistinct UInt16 recentUnknownIdsLimit := RecentDistinct.empty.pushAll
    (unknownIds frames)
  have hrecent : recent = kept.items := congrArg (·.recentUnknownMessageIds) hcounters
  have hcount : (unknownIds frames).length =
      frames.countP (fun frame => !isKnown frame.messageId) := by
    rw [unknownIds, ← List.countP_eq_length_filter, List.countP_map]
    rfl
  rw [hrecent, hcounters]
  refine ⟨kept.length_le, kept.nodup, ?_, ?_, ?_, rfl, hcount, rfl⟩
  · intro messageId hmem
    obtain ⟨hframe, hunknown⟩ := List.mem_filter.mp (RecentDistinct.mem_of_mem_pushAll hmem)
    exact ⟨hframe, by simpa [isKnown] using hunknown⟩
  · intro messageId hlast
    exact RecentDistinct.mem_pushAll_of_getLast? (by decide) hlast
  · intro hcard messageId hmem
    exact (RecentDistinct.mem_pushAll_iff (Nat.le_of_lt_succ hcard)).mpr hmem

end UnicoreBinaryDispatcher

end UnicoreGnss
