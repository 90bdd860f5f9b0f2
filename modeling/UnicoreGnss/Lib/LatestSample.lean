import Mathlib.Data.List.Induction
import Mathlib.Logic.Function.Basic

/-!
# Slots that keep the latest sample

Several sources deliver samples one after the other, and a slot for each source keeps its latest
one. Whoever reads the slots may choose among the sources as it likes. What it gets is then the
sample of the source's last arrival, so a question about the order of what it reads is a question
about positions in the list of arrivals.

An arrival is an event, which brings a sample of one source or nothing.

## Main definitions

* `LatestSample.slots` — the slots after a list of arrivals
* `LatestSample.lastArrival` — the last arrival of a source, with its position
* `LatestSample.ReadsLatest` — all that is read is the latest of its source

## Main results

* `LatestSample.slots_eq` — a slot holds the sample of the last arrival
* `LatestSample.ReadsLatest.le_of_le` — of one source, what is read never goes back
* `LatestSample.ReadsLatest.eq_of_arrival` — of the arriving source, the arriving sample is read
* `LatestSample.ReadsLatest.lt_of_lt` — which is newer than all that was read before
-/

universe u v

namespace LatestSample

variable {Source : Type u} {Sample : Type v}

/-! ### The order of what is read -/

/-- All that is read is the latest sample of some source: `read n` is what is read once arrival
`n` is stored, with the position at which it arrived. -/
def ReadsLatest (arrivals : List (Option (Source × Sample)))
    (read : ℕ → Option (ℕ × Source × Sample)) : Prop :=
  ∀ n j source sample, read n = some (j, source, sample) →
    j ≤ n ∧ arrivals[j]? = some (some (source, sample)) ∧
      ∀ i, j < i → i ≤ n → ∀ later, arrivals[i]? ≠ some (some (source, later))

variable {arrivals : List (Option (Source × Sample))}
  {read : ℕ → Option (ℕ × Source × Sample)} {m n i j : ℕ} {source : Source}
  {sample sample' : Sample}

/-- **Of one source**, what is read never goes back. -/
theorem ReadsLatest.le_of_le (h : ReadsLatest arrivals read) (hmn : m ≤ n)
    (hm : read m = some (i, source, sample)) (hn : read n = some (j, source, sample')) : i ≤ j := by
  obtain ⟨him, hi, -⟩ := h m i source sample hm
  obtain ⟨-, -, hlater⟩ := h n j source sample' hn
  by_contra hlt
  exact hlater i (by omega) (by omega) sample hi

/-- **Of the arriving source**, the arriving sample is read. -/
theorem ReadsLatest.eq_of_arrival (h : ReadsLatest arrivals read)
    (hn : read n = some (j, source, sample))
    (harrival : arrivals[n]? = some (some (source, sample'))) : j = n := by
  obtain ⟨hle, -, hlater⟩ := h n j source sample hn
  by_contra hne
  exact hlater n (by omega) n.le_refl sample' harrival

/-- **The arriving sample** is newer than all that was read before. -/
theorem ReadsLatest.lt_of_lt (h : ReadsLatest arrivals read) (hmn : m < n)
    (hm : read m = some (i, source, sample)) : i < n :=
  Nat.lt_of_le_of_lt (h m i source sample hm).1 hmn

/-! ### Selection by priority -/

/-- The first usable sample, the sources in order of priority. -/
def firstUsable (priority : List Source) (usable : Source → Sample → Bool)
    (slots : Source → Option Sample) : Option Sample :=
  priority.findSome? fun source => (slots source).filter (usable source)

variable {priority : List Source} {usable : Source → Sample → Bool}

@[simp] theorem firstUsable_nil {slots : Source → Option Sample} :
    firstUsable [] usable slots = none :=
  rfl

@[simp] theorem firstUsable_cons {slots : Source → Option Sample} :
    firstUsable (source :: priority) usable slots =
      ((slots source).filter (usable source)).or (firstUsable priority usable slots) := by
  rw [firstUsable, firstUsable, List.findSome?_cons]
  cases (slots source).filter (usable source) <;> rfl

/-! ### Slots -/

variable [DecidableEq Source]

/-- A new sample takes the place of the previous one of its source. -/
def store (slots : Source → Option Sample) (arrival : Option (Source × Sample)) :
    Source → Option Sample :=
  match arrival with
  | some (source, sample) => Function.update slots source (some sample)
  | none => slots

/-- The slots after a list of arrivals. -/
def slots (arrivals : List (Option (Source × Sample))) : Source → Option Sample :=
  arrivals.foldl store fun _ => none

/-- The sample of the source that an arrival brings. -/
def sampleOf (source : Source) (arrival : Option (Source × Sample)) : Option Sample :=
  arrival.bind fun (source', sample) => if source' = source then some sample else none

/-- The last arrival of the source: its position and its sample. -/
def lastArrival (source : Source) (arrivals : List (Option (Source × Sample))) :
    Option (ℕ × Sample) :=
  arrivals.zipIdx.reverse.findSome? fun (arrival, j) =>
    (sampleOf source arrival).map fun sample => (j, sample)

theorem sampleOf_eq_some {arrival : Option (Source × Sample)} :
    sampleOf source arrival = some sample ↔ arrival = some (source, sample) := by
  rcases arrival with _ | ⟨source', sample'⟩
  · simp [sampleOf]
  · simp only [sampleOf, Option.bind_some, Option.some.injEq, Prod.mk.injEq]
    split <;> simp_all

/-! ### One more arrival -/

theorem slots_concat (arrival : Option (Source × Sample)) :
    slots (arrivals ++ [arrival]) = store (slots arrivals) arrival := by
  rw [slots, List.foldl_append]
  rfl

theorem lastArrival_concat (arrival : Option (Source × Sample)) :
    lastArrival source (arrivals ++ [arrival]) =
      ((sampleOf source arrival).map fun sample => (arrivals.length, sample)).or
        (lastArrival source arrivals) := by
  rw [lastArrival, lastArrival, List.zipIdx_append, List.reverse_append, List.findSome?_append]
  simp

/-! ### The sample in a slot -/

/-- **A slot holds the sample of the last arrival** of its source. -/
theorem slots_eq (source : Source) :
    slots arrivals source = (lastArrival source arrivals).map Prod.snd := by
  induction arrivals using List.reverseRecOn with
  | nil => rfl
  | append_singleton arrivals arrival ih =>
    rw [slots_concat, lastArrival_concat]
    rcases arrival with _ | ⟨source', sample⟩
    · exact ih
    · by_cases h : source' = source
      · subst h
        simp [store, sampleOf]
      · rw [store, Function.update_of_ne (Ne.symm h), ih]
        simp [sampleOf, h]

/-- The same, read off the arrivals from the end. -/
theorem slots_eq_findSome? (source : Source) :
    slots arrivals source = arrivals.reverse.findSome? (sampleOf source) := by
  induction arrivals using List.reverseRecOn with
  | nil => rfl
  | append_singleton arrivals arrival ih =>
    rw [slots_concat, List.reverse_append, List.reverse_singleton, List.singleton_append,
      List.findSome?_cons, ← ih]
    rcases arrival with _ | ⟨source', sample⟩
    · rfl
    · by_cases h : source' = source
      · subst h
        simp [store, sampleOf]
      · rw [store, Function.update_of_ne (Ne.symm h)]
        simp [sampleOf, h]

/-- The last arrival stands where it says. -/
theorem getElem?_of_lastArrival {j : ℕ} (h : lastArrival source arrivals = some (j, sample)) :
    arrivals[j]? = some (some (source, sample)) := by
  induction arrivals using List.reverseRecOn with
  | nil => simp [lastArrival] at h
  | append_singleton arrivals arrival ih =>
    rw [lastArrival_concat] at h
    cases hsample : sampleOf source arrival with
    | none =>
      rw [hsample, Option.map_none, Option.none_or] at h
      have hj := ih h
      rwa [List.getElem?_append_left (List.getElem?_eq_some_iff.mp hj).1]
    | some sample' =>
      rw [hsample, Option.map_some, Option.some_or, Option.some.injEq, Prod.mk.injEq] at h
      obtain ⟨rfl, rfl⟩ := h
      rw [List.getElem?_concat_length, sampleOf_eq_some.mp hsample]

/-- No later arrival is of the source. -/
theorem sampleOf_eq_none_of_lastArrival {i j : ℕ} {arrival : Option (Source × Sample)}
    (h : lastArrival source arrivals = some (j, sample)) (hlt : j < i)
    (hi : arrivals[i]? = some arrival) : sampleOf source arrival = none := by
  induction arrivals using List.reverseRecOn with
  | nil => simp at hi
  | append_singleton arrivals last ih =>
    rw [lastArrival_concat] at h
    cases hsample : sampleOf source last with
    | none =>
      rw [hsample, Option.map_none, Option.none_or] at h
      rcases Nat.lt_or_ge i arrivals.length with hold | hnew
      · rw [List.getElem?_append_left hold] at hi
        exact ih h hi
      · rw [List.getElem?_append_right hnew, List.getElem?_singleton] at hi
        split at hi
        · rw [← Option.some.inj hi, hsample]
        · exact absurd hi nofun
    | some sample' =>
      rw [hsample, Option.map_some, Option.some_or, Option.some.injEq, Prod.mk.injEq] at h
      have hlen := (List.getElem?_eq_some_iff.mp hi).1
      rw [List.length_append, List.length_singleton] at hlen
      omega

/-! ### Reading -/

/-- **Reading last arrivals**, of whatever source. -/
theorem readsLatest_of_lastArrival
    (h : ∀ n j source sample, read n = some (j, source, sample) →
      lastArrival source (arrivals.take (n + 1)) = some (j, sample)) :
    ReadsLatest arrivals read := by
  intro n j source sample hread
  have hlast := h n j source sample hread
  have hj := getElem?_of_lastArrival hlast
  have hle : j ≤ n := by
    have := (List.getElem?_eq_some_iff.mp hj).1
    rw [List.length_take] at this
    omega
  refine ⟨hle, by rwa [List.getElem?_take_of_lt (by omega)] at hj, fun i hlt hi later hlater => ?_⟩
  rw [← List.getElem?_take_of_lt (Nat.lt_succ_of_le hi)] at hlater
  have hnone := sampleOf_eq_none_of_lastArrival hlast hlt hlater
  rw [sampleOf_eq_some.mpr rfl] at hnone
  exact absurd hnone nofun

/-! ### Selection from the arrivals -/

/-- The first usable sample with its position and its source. -/
def firstUsableArrival (priority : List Source) (usable : Source → Sample → Bool)
    (arrivals : List (Option (Source × Sample))) : Option (ℕ × Source × Sample) :=
  priority.findSome? fun source => (lastArrival source arrivals).bind fun (j, sample) =>
    if usable source sample then some (j, source, sample) else none

theorem lastArrival_of_firstUsableArrival
    (h : firstUsableArrival priority usable arrivals = some (j, source, sample)) :
    lastArrival source arrivals = some (j, sample) := by
  obtain ⟨source', -, hsource⟩ := List.exists_of_findSome?_eq_some h
  rw [Option.bind_eq_some_iff] at hsource
  obtain ⟨⟨j', sample'⟩, hlast, hif⟩ := hsource
  rw [Option.ite_none_right_eq_some, Option.some.injEq, Prod.mk.injEq, Prod.mk.injEq] at hif
  obtain ⟨-, rfl, rfl, rfl⟩ := hif
  exact hlast

/-- What is selected is usable, and of one of the sources. -/
theorem usable_of_firstUsableArrival
    (h : firstUsableArrival priority usable arrivals = some (j, source, sample)) :
    source ∈ priority ∧ usable source sample = true := by
  obtain ⟨source', hmem, hsource⟩ := List.exists_of_findSome?_eq_some h
  rw [Option.bind_eq_some_iff] at hsource
  obtain ⟨⟨j', sample'⟩, -, hif⟩ := hsource
  rw [Option.ite_none_right_eq_some, Option.some.injEq, Prod.mk.injEq, Prod.mk.injEq] at hif
  obtain ⟨husable, -, rfl, rfl⟩ := hif
  exact ⟨hmem, husable⟩

/-- **What is selected from the slots** is the sample of an arrival. -/
theorem firstUsable_slots :
    firstUsable priority usable (slots arrivals) =
      (firstUsableArrival priority usable arrivals).map fun (_, _, sample) => sample := by
  rw [firstUsable, firstUsableArrival, List.map_findSome?]
  congr 1
  funext source
  rw [slots_eq, Function.comp_apply]
  rcases lastArrival source arrivals with _ | ⟨j, sample⟩
  · rfl
  · simp only [Option.map_some, Option.bind_some, Option.filter_some]
    split <;> rfl

end LatestSample
