import UnicoreGnss.Lib.Summaries
import UnicoreGnss.LiveValidate.Lines

/-!
# Message rates

What the validator counts of each message and when it calls a log slower than requested. The rate
is the number of messages divided by the time between the first and the last of them. But `n`
messages that arrive with a period `T` are `n - 1` periods apart, so the rate is `n / (n - 1)` times
`1 / T`: too high for every `n`, and twice the true rate for two messages. A log is reported as slow
only if it is slower by that factor than the threshold says.

Times are exact rationals.

## Main definitions

* `MessageCounter` — the counter of one message, its `add` and its `hz`
* `frequencyNote` — the check that `_build_summary` makes for one expected log

## Main results

* `MessageCounter.hz_steady` — the rate of a steady log
* `steady_rate` — it is never the true one, and which steady logs are reported as slow
-/

namespace UnicoreGnss.LiveValidate

open Summaries

/-! ### Counters -/

/-- How often a message has come, and when it came first and last. -/
structure MessageCounter where
  count : ℕ := 0
  firstTs : Option ℚ := none
  lastTs : Option ℚ := none
  deriving DecidableEq, Repr

namespace MessageCounter

/-- The counter after one more message. -/
def add (counter : MessageCounter) (ts : ℚ) : MessageCounter where
  count := counter.count + 1
  firstTs := some (counter.firstTs.getD ts)
  lastTs := some ts

/-- `hz`. The inner test of the window repeats the outer one. -/
def hz (counter : MessageCounter) (captureDurationSec : ℚ) : ℚ :=
  if counter.count ≤ 0 then 0
  else
    match counter.firstTs, counter.lastTs with
    | some first, some last =>
      if first < last then
        let window := last - first
        if 0 < window then counter.count / window else counter.count
      else counter.count / max captureDurationSec (1 / 10 ^ 9)
    | _, _ => counter.count / max captureDurationSec (1 / 10 ^ 9)

/-- The counter after messages at these times. -/
def ofTimes (times : List ℚ) : MessageCounter := times.foldl add {}

end MessageCounter

/-- `message_counters` after calls of `record_message`. A message without a counter is as good as
one with a fresh counter. -/
def messageCounters (records : List (Text × ℚ)) : Text → MessageCounter :=
  accumulate MessageCounter.add (fun _ => {}) records

/-! ### The check of the summary -/

/-- `LOW_FREQUENCY_RATIO` -/
def lowFrequencyRatio : ℚ := 7 / 10

/-- The names that a message goes by, and the rate that is expected of it. -/
structure ExpectedMessagePlan where
  observedNames : List Text
  expectedHz : Option ℚ
  required : Bool := true

/-- The expected logs, in the order of their names, no name twice. -/
structure ProfilePlan where
  expectedMessages : List (Text × ExpectedMessagePlan)
  nodup_names : (expectedMessages.map Prod.fst).Nodup

/-- What `_build_summary` says about an expected log, with the numbers it prints. -/
inductive SummaryNote where
  /-- `"Expected nav log {name} not observed"`, a failure -/
  | navLogNotObserved (name : Text)
  /-- `"Expected log {name} not observed"`, a warning -/
  | logNotObserved (name : Text)
  /-- `"Log {name} is slower than requested ({observed_hz} Hz < {expected_hz} Hz)"`, a warning -/
  | slowerThanRequested (name : Text) (observedHz expectedHz : ℚ)
  deriving DecidableEq, Repr

section Check

variable (counters : Text → MessageCounter) (durationSec : ℚ)

/-- `observed_count` -/
def observedCount (spec : ExpectedMessagePlan) : ℕ :=
  (spec.observedNames.map fun name => (counters name).count).sum

/-- `observed_hz` -/
def observedHz (spec : ExpectedMessagePlan) : ℚ :=
  (spec.observedNames.map fun name => (counters name).hz durationSec).sum

/-- The names whose absence is a failure. -/
def navLogs : List Text := ["PVTSLNA", "PVTSLNB", "BESTNAVA", "BESTNAVB"].map ascii

/-- The body of the loop over the expected logs, but for the table of frequencies. -/
def frequencyNote (discoveryOnly : Bool) (name : Text) (spec : ExpectedMessagePlan) :
    Option SummaryNote :=
  if discoveryOnly then none
  else if spec.required ∧ observedCount counters spec = 0 then
    some (if navLogs.contains name then .navLogNotObserved name else .logNotObserved name)
  else
    spec.expectedHz.bind fun expectedHz =>
      if 0 < expectedHz ∧ observedHz counters durationSec spec < expectedHz * lowFrequencyRatio then
        some (.slowerThanRequested name (observedHz counters durationSec spec) expectedHz)
      else none

/-- The loop. -/
def frequencyNotes (discoveryOnly : Bool) (plan : ProfilePlan) : List SummaryNote :=
  plan.expectedMessages.filterMap fun (name, spec) =>
    frequencyNote counters durationSec discoveryOnly name spec

end Check

/-! ### Steady logs -/

/-- The times of `n` messages that arrive with a period, the first of them at `start`. -/
def steadyTimes (start period : ℚ) (n : ℕ) : List ℚ :=
  (List.range n).map fun k : ℕ => start + k * period

namespace MessageCounter

/-- **A counter** knows how many messages there were, and the first and the last time. -/
theorem ofTimes_eq (times : List ℚ) :
    ofTimes times = ⟨times.length, times.head?, times.getLast?⟩ := by
  induction times using List.reverseRecOn with
  | nil => rfl
  | append_singleton times ts ih =>
    rw [ofTimes, List.foldl_append, ← ofTimes, ih]
    cases times with
    | nil => rfl
    | cons first times =>
      rw [List.getLast?_concat, List.length_append]
      rfl

variable {start period durationSec : ℚ} {n : ℕ}

/-- **The rate of a steady log**: one message too many in the window. -/
theorem hz_steady (hn : 2 ≤ n) (hperiod : 0 < period) :
    (ofTimes (steadyTimes start period n)).hz durationSec = n / ((n - 1) * period) := by
  obtain ⟨m, rfl⟩ : ∃ m, n = m + 2 := ⟨n - 2, by omega⟩
  have hhead : (steadyTimes start period (m + 2)).head? = some start := by
    simp [steadyTimes, List.range_succ_eq_map]
  have hlast : (steadyTimes start period (m + 2)).getLast? =
      some (start + (m + 1 : ℕ) * period) := by
    rw [steadyTimes, List.range_succ, List.map_append, List.map_singleton, List.getLast?_concat]
  have hwindow : 0 < ((m + 1 : ℕ) : ℚ) * period := by positivity
  have hcount : (steadyTimes start period (m + 2)).length = m + 2 := by simp [steadyTimes]
  rw [ofTimes_eq, hhead, hlast, hcount, hz, if_neg (by simp)]
  simp only [lt_add_iff_pos_right, hwindow, if_true, add_sub_cancel_left]
  congr 2
  push_cast
  ring

end MessageCounter

/-! ### Which steady logs are slow -/

section Steady

variable {records : List (Text × ℚ)} {durationSec : ℚ}

theorem messageCounters_apply (name : Text) :
    messageCounters records name = .ofTimes (valuesAt name records) :=
  accumulate_apply _ _ _ _

/-- A log that arrives under one of its names has the rate of that name. -/
theorem observedHz_of_one_name {spec : ExpectedMessagePlan} {name : Text}
    {before after : List Text} (hnames : spec.observedNames = before ++ name :: after)
    (hothers : ∀ other ∈ before ++ after, valuesAt other records = []) :
    observedHz (messageCounters records) durationSec spec =
      (MessageCounter.ofTimes (valuesAt name records)).hz durationSec := by
  have hzero : ∀ names : List Text, (∀ other ∈ names, valuesAt other records = []) →
      (names.map fun other => (messageCounters records other).hz durationSec).sum = 0 := by
    intro names hnone
    refine List.sum_eq_zero fun hz hmem => ?_
    obtain ⟨other, hother, rfl⟩ := List.mem_map.mp hmem
    rw [messageCounters_apply, hnone other hother]
    rfl
  rw [observedHz, hnames, List.map_append, List.map_cons, List.sum_append, List.sum_cons,
    hzero before fun other h => hothers other (List.mem_append_left _ h),
    hzero after fun other h => hothers other (List.mem_append_right _ h), messageCounters_apply,
    zero_add, add_zero]

theorem observedCount_ne_zero {spec : ExpectedMessagePlan} {name : Text}
    {before after : List Text} (hnames : spec.observedNames = before ++ name :: after)
    (hsome : valuesAt name records ≠ []) :
    observedCount (messageCounters records) spec ≠ 0 := by
  have hpos := List.length_pos_iff.mpr hsome
  rw [observedCount, hnames, List.map_append, List.map_cons, List.sum_append, List.sum_cons,
    messageCounters_apply, MessageCounter.ofTimes_eq]
  dsimp only
  omega

theorem frequencyNote_eq_slower_iff {counters : Text → MessageCounter} {name name' : Text}
    {spec : ExpectedMessagePlan} {observed expected : ℚ} :
    frequencyNote counters durationSec false name spec =
        some (.slowerThanRequested name' observed expected) ↔
      ¬(spec.required = true ∧ observedCount counters spec = 0) ∧
        spec.expectedHz = some expected ∧ 0 < expected ∧
        observedHz counters durationSec spec < expected * lowFrequencyRatio ∧
        name = name' ∧ observedHz counters durationSec spec = observed := by
  rw [frequencyNote, if_neg Bool.false_ne_true]
  split
  · next hmissing =>
    refine iff_of_false ?_ fun h => h.1 hmissing
    split <;> nofun
  · next hthere =>
    cases hexpected : spec.expectedHz with
    | none => exact iff_of_false nofun fun h => nomatch h.2.1
    | some expected' =>
      rw [Option.bind_some, Option.ite_none_right_eq_some, Option.some.injEq, Option.some.injEq,
        SummaryNote.slowerThanRequested.injEq]
      constructor
      · rintro ⟨⟨hpos, hslow⟩, hname, hobserved, rfl⟩
        exact ⟨hthere, rfl, hpos, hslow, hname, hobserved⟩
      · rintro ⟨-, rfl, hpos, hslow, hname, hobserved⟩
        exact ⟨⟨hpos, hslow⟩, hname, hobserved, rfl⟩

/-- **What is said about an expected log** is said about it under its own name. -/
theorem slower_mem_frequencyNotes_iff {counters : Text → MessageCounter} {plan : ProfilePlan}
    {name : Text} {spec : ExpectedMessagePlan} (hspec : (name, spec) ∈ plan.expectedMessages)
    (observed expected : ℚ) :
    .slowerThanRequested name observed expected ∈
        frequencyNotes counters durationSec false plan ↔
      frequencyNote counters durationSec false name spec =
        some (.slowerThanRequested name observed expected) := by
  rw [frequencyNotes, List.mem_filterMap]
  constructor
  · rintro ⟨⟨name', spec'⟩, hspec', hnote⟩
    obtain ⟨-, -, -, -, hname, -⟩ := frequencyNote_eq_slower_iff.mp hnote
    have hsame := List.inj_on_of_nodup_map plan.nodup_names hspec hspec' hname.symm
    cases hsame
    exact hnote
  · intro hnote
    exact ⟨(name, spec), hspec, hnote⟩

end Steady

/-- An expected log that arrives steadily: `n` messages under one of its names, and none under the
others. -/
def ArrivesSteadily (spec : ExpectedMessagePlan) (records : List (Text × ℚ)) (start period : ℚ)
    (n : ℕ) : Prop :=
  ∃ before name after, spec.observedNames = before ++ name :: after ∧
    valuesAt name records = steadyTimes start period n ∧
    ∀ other ∈ before ++ after, valuesAt other records = []

/-- **The rate of a steady log is never the true one**, whatever the number of messages and the
period. An expected log that arrives steadily is reported as slow exactly if `n / (n - 1)` times its
rate is below the threshold. -/
theorem steady_rate {n : ℕ} {period : ℚ} (hn : 2 ≤ n) (hperiod : 0 < period) (start : ℚ) :
    (∀ durationSec, (MessageCounter.ofTimes (steadyTimes start period n)).hz durationSec ≠
      1 / period) ∧
    (∀ durationSec, (MessageCounter.ofTimes (steadyTimes start period n)).hz durationSec =
      n / ((n - 1) * period)) ∧
    ∀ plan name spec expected records durationSec, (name, spec) ∈ plan.expectedMessages →
      spec.expectedHz = some expected → 0 < expected →
      ArrivesSteadily spec records start period n →
      ((∃ observed, .slowerThanRequested name observed expected ∈
          frequencyNotes (messageCounters records) durationSec false plan) ↔
        n / ((n - 1) * period) < expected * lowFrequencyRatio) := by
  have hrate : ∀ durationSec, (MessageCounter.ofTimes (steadyTimes start period n)).hz
      durationSec = n / ((n - 1) * period) := fun _ => MessageCounter.hz_steady hn hperiod
  refine ⟨fun durationSec htrue => ?_, hrate, ?_⟩
  · -- the true rate has one message fewer in the window
    have hcast : (2 : ℚ) ≤ n := by exact_mod_cast hn
    have hwindow : (n - 1 : ℚ) * period ≠ 0 := (mul_pos (by linarith) hperiod).ne'
    rw [hrate, div_eq_div_iff hwindow hperiod.ne', one_mul] at htrue
    have := mul_right_cancel₀ hperiod.ne' htrue
    linarith
  · rintro plan name spec expected records durationSec hspec hexpected hpos
      ⟨before, observedName, after, hnames, htimes, hothers⟩
    have hhz : observedHz (messageCounters records) durationSec spec = n / ((n - 1) * period) := by
      rw [observedHz_of_one_name hnames hothers, htimes, hrate]
    have hsome : valuesAt observedName records ≠ [] := by
      rw [htimes, Ne, steadyTimes, List.map_eq_nil_iff, List.range_eq_nil]
      omega
    have hcount := observedCount_ne_zero hnames hsome
    simp only [slower_mem_frequencyNotes_iff hspec, frequencyNote_eq_slower_iff, hexpected, hhz,
      true_and]
    constructor
    · rintro ⟨observed, -, -, hslow, -⟩
      exact hslow
    · intro hslow
      exact ⟨_, fun h => hcount h.2, hpos, hslow, rfl⟩

/-- A log requested once a second. -/
def onceASecond : ProfilePlan where
  expectedMessages := [(ascii "AGCA", { observedNames := [ascii "AGCA"], expectedHz := some 1 })]
  nodup_names := by decide

/-- Two messages two seconds apart have a rate of one a second, so that nothing is reported of a log
at half the requested rate. -/
theorem slow_log_not_reported :
    let records : List (Text × ℚ) := [(ascii "AGCA", 0), (ascii "AGCA", 2)]
    ArrivesSteadily { observedNames := [ascii "AGCA"], expectedHz := some 1 } records 0 2 2 ∧
    (1 : ℚ) / 2 < 1 * lowFrequencyRatio ∧
    (messageCounters records (ascii "AGCA")).hz 3 = 1 ∧ (1 : ℚ) ≠ 1 / 2 ∧
    frequencyNotes (messageCounters records) 3 false onceASecond = [] := by
  intro records
  exact ⟨⟨[], ascii "AGCA", [], rfl, by decide +kernel, nofun⟩, by decide +kernel,
    by decide +kernel, by decide +kernel, by decide +kernel⟩

/-- Eleven messages two seconds apart. -/
theorem steady_rate_eleven :
    (MessageCounter.ofTimes (steadyTimes 0 2 11)).hz 20 ≠ 1 / 2 ∧
    ∃ observed, .slowerThanRequested (ascii "AGCA") observed 1 ∈ frequencyNotes
      (messageCounters ((steadyTimes 0 2 11).map fun ts => (ascii "AGCA", ts))) 20 false
        onceASecond := by
  obtain ⟨hne, -, hslow⟩ := @steady_rate 11 2 (by decide) (by decide +kernel) 0
  refine ⟨hne 20, (hslow onceASecond (ascii "AGCA") _ 1 _ 20 List.mem_cons_self rfl one_pos
    ⟨[], ascii "AGCA", [], rfl, by decide +kernel, nofun⟩).mpr (by decide +kernel)⟩

end UnicoreGnss.LiveValidate
