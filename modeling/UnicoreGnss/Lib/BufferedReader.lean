import Mathlib.Data.List.Basic

/-!
# Readers with an input buffer

A *buffered reader* is a loop over a buffer that is filled from outside. New input is appended to
the buffer; a call of `drain` repeats one pass of the loop until a pass stops, and every pass that
goes on hands out results and takes something from the buffer. That last requirement is a field of
the structure, so `drain` needs no fuel argument and always comes to an end.

What is asked about such a reader is nearly always asked about a whole *run*: any interleaving of
appends and drains. `BufferedReader.run_induction` is the one induction over runs. Its invariant
relates the state, the input still to come and the results handed out so far, because a fact such
as "the results are a function of the stream" has to mention all three; a decision the reader takes
on the input received must be compatible with *every* continuation.

`BufferedReader.label` replaces the results of each pass by a tag computed from the pass itself.
A ghost history of what a run did is a labelled run, and it goes through the same states.

## Main definitions

* `Pass`, `BufferedReader` — one pass of the loop, and the reader
* `BufferedReader.drain`, `Call`, `BufferedReader.run` — the loop, and runs of it
* `BufferedReader.label` — the same reader with other results
* `BufferedReader.ofNext` — the reader whose state is its buffer

## Main results

* `BufferedReader.drain_next`, `drain_stop` — unfolding one pass of the loop
* `BufferedReader.drain_stopped` — a drain ends in a pass that stops
* `BufferedReader.run_induction` — invariants of runs
* `BufferedReader.run_label` — a labelled run against the run it labels
* `BufferedReader.forall_label_iff` — two labels of one run
* `BufferedReader.Translates.run` — a reader that hands out a translation of another's results
* `BufferedReader.Simulates.run` — runs of related readers hand out the same results
-/

/-- What one pass of a loop does: leave the loop in some state, or hand out results and go on. -/
inductive Pass (σ ω : Type*) where
  /-- Leave the loop. -/
  | stop (s : σ)
  /-- Hand out `out` and repeat the loop from `s`. -/
  | next (out : List ω) (s : σ)
  deriving DecidableEq

/-- A loop over an input buffer. -/
structure BufferedReader (α σ ω : Type*) where
  /-- The input received and not yet taken. -/
  buffer : σ → List α
  /-- Receive more input. -/
  push : List α → σ → σ
  /-- One pass of the loop. -/
  pass : σ → Pass σ ω
  /-- Input is appended at the end. -/
  buffer_push : ∀ c s, buffer (push c s) = buffer s ++ c
  /-- A pass that goes on takes something from the buffer. -/
  shrink : ∀ {s out s'}, pass s = .next out s' → (buffer s').length < (buffer s).length

/-- What the outside does to a reader. -/
inductive Call (α : Type*) where
  /-- Append a chunk of input. -/
  | push (c : List α)
  /-- Run the loop until it stops. -/
  | drain

/-- The input delivered by a sequence of calls. -/
def Call.received {α : Type*} : List (Call α) → List α
  | [] => []
  | .push c :: calls => c ++ received calls
  | .drain :: calls => received calls

namespace BufferedReader

variable {α σ ω κ : Type*} (R : BufferedReader α σ ω)

/-! ### The loop -/

/-- At most `n` passes of the loop. -/
def drainLoop : ℕ → σ → List ω × σ
  | 0, s => ([], s)
  | n + 1, s =>
    match R.pass s with
    | .stop s' => ([], s')
    | .next out s' => (out ++ (drainLoop n s').1, (drainLoop n s').2)

/-- The loop. Each pass but the last takes something from the buffer, so its length bounds the
number of passes. -/
def drain (s : σ) : List ω × σ := R.drainLoop ((R.buffer s).length + 1) s

/-- More passes than the buffer has elements make no difference. -/
theorem drainLoop_eq_drain {n : ℕ} {s : σ} (hn : (R.buffer s).length < n) :
    R.drainLoop n s = R.drain s := by
  suffices h : ∀ m n s, (R.buffer s).length < m → (R.buffer s).length < n →
      R.drainLoop m s = R.drainLoop n s from h _ _ _ hn (Nat.lt_succ_self _)
  intro m
  induction m with
  | zero => intro n s hm; omega
  | succ m ih =>
    intro n s hm hn
    obtain ⟨n, rfl⟩ : ∃ n', n = n' + 1 := ⟨n - 1, by omega⟩
    rw [drainLoop, drainLoop]
    cases hp : R.pass s with
    | stop s' => rfl
    | next out s' =>
      have hlt := R.shrink hp
      simp only [ih n s' (by omega) (by omega)]

theorem drain_stop {s s' : σ} (h : R.pass s = .stop s') : R.drain s = ([], s') := by
  rw [drain, drainLoop, h]

/-- **One pass of the loop, unfolded.** -/
theorem drain_next {s s' : σ} {out : List ω} (h : R.pass s = .next out s') :
    R.drain s = (out ++ (R.drain s').1, (R.drain s').2) := by
  rw [drain, drainLoop, h]
  simp only [R.drainLoop_eq_drain (R.shrink h)]

/-- **Induction along a drain.** -/
theorem drain_induction {motive : σ → List ω × σ → Prop}
    (stop : ∀ s s', R.pass s = .stop s' → motive s ([], s'))
    (next : ∀ s out s', R.pass s = .next out s' → motive s' (R.drain s') →
      motive s (out ++ (R.drain s').1, (R.drain s').2)) (s : σ) : motive s (R.drain s) := by
  induction hn : (R.buffer s).length using Nat.strongRecOn generalizing s with
  | ind n ih =>
    cases hp : R.pass s with
    | stop s' => rw [R.drain_stop hp]; exact stop s s' hp
    | next out s' =>
      rw [R.drain_next hp]
      exact next s out s' hp (ih _ (hn ▸ R.shrink hp) s' rfl)

/-- A drain ends in a pass that stops. -/
theorem drain_stopped (s : σ) : ∃ s₀, R.pass s₀ = .stop (R.drain s).2 := by
  refine R.drain_induction (motive := fun _ r => ∃ s₀, R.pass s₀ = .stop r.2)
    (fun s s' h => ⟨s, h⟩) (fun s out s' _ ih => ih) s

/-! ### Runs -/

/-- One call, with the results it hands out. -/
def step (s : σ) : Call α → List ω × σ
  | .push c => ([], R.push c s)
  | .drain => R.drain s

/-- A sequence of calls, with all the results in order. -/
def run : List (Call α) → σ → List ω × σ
  | [], s => ([], s)
  | c :: calls, s => ((R.step s c).1 ++ (run calls (R.step s c).2).1, (run calls (R.step s c).2).2)

@[simp] theorem run_nil (s : σ) : R.run [] s = ([], s) := rfl

@[simp] theorem run_push (c : List α) (calls : List (Call α)) (s : σ) :
    R.run (.push c :: calls) s = R.run calls (R.push c s) := by
  simp [run, step]

@[simp] theorem run_drain (calls : List (Call α)) (s : σ) :
    R.run (.drain :: calls) s =
      ((R.drain s).1 ++ (R.run calls (R.drain s).2).1, (R.run calls (R.drain s).2).2) := rfl

theorem run_append (calls calls' : List (Call α)) (s : σ) :
    R.run (calls ++ calls') s =
      ((R.run calls s).1 ++ (R.run calls' (R.run calls s).2).1,
        (R.run calls' (R.run calls s).2).2) := by
  induction calls generalizing s with
  | nil => simp
  | cons c calls ih => simp [run, ih]

end BufferedReader

namespace Call

variable {α : Type*}

@[simp] theorem received_nil : received ([] : List (Call α)) = [] := rfl

@[simp] theorem received_push (c : List α) (calls : List (Call α)) :
    received (.push c :: calls) = c ++ received calls := rfl

@[simp] theorem received_drain (calls : List (Call α)) :
    received (.drain :: calls) = received calls := rfl

@[simp] theorem received_append (calls calls' : List (Call α)) :
    received (calls ++ calls') = received calls ++ received calls' := by
  induction calls with
  | nil => rfl
  | cons c calls ih => cases c <;> simp [ih]

end Call

namespace BufferedReader

variable {α σ ω κ : Type*} (R : BufferedReader α σ ω)

/-- **Invariants of runs.** `P s u os` is about the state, the input still to come and the results
handed out so far. It has to survive the arrival of input, a pass that goes on and a pass that
stops. -/
theorem run_induction {P : σ → List α → List ω → Prop}
    (push : ∀ s c u os, P s (c ++ u) os → P (R.push c s) u os)
    (stop : ∀ s s' u os, R.pass s = .stop s' → P s u os → P s' u os)
    (next : ∀ s out s' u os, R.pass s = .next out s' → P s u os → P s' u (os ++ out))
    (calls : List (Call α)) (s : σ) (u : List α) (os : List ω)
    (h : P s (Call.received calls ++ u) os) :
    P (R.run calls s).2 u (os ++ (R.run calls s).1) := by
  have drain : ∀ s u os, P s u os → P (R.drain s).2 u (os ++ (R.drain s).1) := by
    intro s
    refine R.drain_induction (motive := fun s r => ∀ u os, P s u os → P r.2 u (os ++ r.1))
      ?_ ?_ s
    · intro s s' hp u os hs
      simpa using stop s s' u os hp hs
    · intro s out s' hp ih u os hs
      simpa using ih u (os ++ out) (next s out s' u os hp hs)
  induction calls generalizing s os with
  | nil => simpa using h
  | cons c calls ih =>
    cases c with
    | push c =>
      rw [run_push]
      exact ih _ _ (push s c _ os (by simpa using h))
    | drain =>
      rw [run_drain]
      simpa using ih _ _ (drain s _ os h)

/-- A run that ends in a drain: the invariant holds at the end, of a state its last pass left. -/
theorem run_drain_induction {P : σ → List α → List ω → Prop}
    (push : ∀ s c u os, P s (c ++ u) os → P (R.push c s) u os)
    (stop : ∀ s s' u os, R.pass s = .stop s' → P s u os → P s' u os)
    (next : ∀ s out s' u os, R.pass s = .next out s' → P s u os → P s' u (os ++ out))
    (calls : List (Call α)) (s : σ) (h : P s (Call.received calls) []) :
    P (R.run (calls ++ [.drain]) s).2 [] (R.run (calls ++ [.drain]) s).1 ∧
      ∃ s₀, R.pass s₀ = .stop (R.run (calls ++ [.drain]) s).2 := by
  refine ⟨?_, ?_⟩
  · simpa using R.run_induction push stop next (calls ++ [.drain]) s [] [] (by simpa using h)
  · rw [run_append, run_drain]
    exact R.drain_stopped _

/-! ### Labels -/

/-- The same reader, each of whose passes hands out one tag computed from the state before, the
results and the state after. -/
def label (tag : σ → List ω → σ → κ) : BufferedReader α σ κ where
  buffer := R.buffer
  push := R.push
  pass s :=
    match R.pass s with
    | .stop s' => .stop s'
    | .next out s' => .next [tag s out s'] s'
  buffer_push := R.buffer_push
  shrink := by
    intro s out s' h
    cases hp : R.pass s with
    | stop s₁ => simp [hp] at h
    | next out₁ s₁ =>
      simp only [hp, Pass.next.injEq] at h
      exact h.2 ▸ R.shrink hp

variable {tag : σ → List ω → σ → κ}

theorem label_stop {s s' : σ} : (R.label tag).pass s = .stop s' ↔ R.pass s = .stop s' := by
  simp only [label]
  cases R.pass s <;> simp

theorem label_next {s s' : σ} {out : List ω} (h : R.pass s = .next out s') :
    (R.label tag).pass s = .next [tag s out s'] s' := by
  simp [label, h]

theorem exists_of_label_next {s s' : σ} {ts : List κ} (h : (R.label tag).pass s = .next ts s') :
    ∃ out, R.pass s = .next out s' ∧ ts = [tag s out s'] := by
  simp only [label] at h
  cases hp : R.pass s with
  | stop s₁ => simp [hp] at h
  | next out s₁ =>
    simp only [hp, Pass.next.injEq] at h
    obtain ⟨rfl, rfl⟩ := h
    exact ⟨out, rfl, rfl⟩

/-- A labelled drain passes through the same states, and where the tags determine the results, its
tags determine the results of the drain. -/
theorem drain_label (read : κ → List ω)
    (hread : ∀ {s out s'}, R.pass s = .next out s' → read (tag s out s') = out) (s : σ) :
    R.drain s = (((R.label tag).drain s).1.flatMap read, ((R.label tag).drain s).2) := by
  refine R.drain_induction (motive := fun s r =>
    r = (((R.label tag).drain s).1.flatMap read, ((R.label tag).drain s).2)) ?_ ?_ s
  · intro s s' h
    rw [drain_stop _ ((R.label_stop).mpr h)]
    rfl
  · intro s out s' h ih
    rw [drain_next _ (R.label_next h), ih]
    simp [hread h]

/-- **A labelled run against the run it labels.** -/
theorem run_label (read : κ → List ω)
    (hread : ∀ {s out s'}, R.pass s = .next out s' → read (tag s out s') = out)
    (calls : List (Call α)) (s : σ) :
    R.run calls s =
      (((R.label tag).run calls s).1.flatMap read, ((R.label tag).run calls s).2) := by
  induction calls generalizing s with
  | nil => rfl
  | cons c calls ih =>
    cases c with
    | push c => rw [run_push, run_push, ih]; rfl
    | drain => rw [run_drain, run_drain, R.drain_label read hread s, ih]; simp

/-- A labelled drain ends where the drain does. -/
theorem drain_label_state (s : σ) : ((R.label tag).drain s).2 = (R.drain s).2 := by
  refine R.drain_induction (motive := fun s r => ((R.label tag).drain s).2 = r.2) ?_ ?_ s
  · intro s s' h
    rw [drain_stop _ ((R.label_stop).mpr h)]
  · intro s out s' h ih
    rw [drain_next _ (R.label_next h), ih]

/-- **Two labels of one run.** What holds of all tags of the one holds of all tags of the other, if
it comes to the same pass by pass. -/
theorem forall_label_iff {κ' : Type*} {tag' : σ → List ω → σ → κ'} {P : κ → Prop}
    {P' : κ' → Prop}
    (h : ∀ {s out s'}, R.pass s = .next out s' → (P (tag s out s') ↔ P' (tag' s out s')))
    (calls : List (Call α)) (s : σ) :
    (∀ k ∈ ((R.label tag).run calls s).1, P k) ↔
      ∀ k ∈ ((R.label tag').run calls s).1, P' k := by
  have hdrain : ∀ s, (∀ k ∈ ((R.label tag).drain s).1, P k) ↔
      ∀ k ∈ ((R.label tag').drain s).1, P' k := by
    intro s
    refine R.drain_induction (motive := fun s _ => (∀ k ∈ ((R.label tag).drain s).1, P k) ↔
      ∀ k ∈ ((R.label tag').drain s).1, P' k) ?_ ?_ s
    · intro s s' hp
      rw [drain_stop _ ((R.label_stop).mpr hp), drain_stop _ ((R.label_stop).mpr hp)]
      simp
    · intro s out s' hp ih
      rw [drain_next _ (R.label_next hp), drain_next _ (R.label_next hp)]
      rw [List.forall_mem_append, List.forall_mem_append, List.forall_mem_singleton,
        List.forall_mem_singleton, h hp, ih]
  induction calls generalizing s with
  | nil => simp
  | cons c calls ih =>
    cases c with
    | push c =>
      rw [run_push, run_push]
      exact ih _
    | drain =>
      rw [run_drain, run_drain, List.forall_mem_append, List.forall_mem_append,
        drain_label_state, drain_label_state]
      exact and_congr (hdrain s) (ih _)

/-! ### Translation -/

section Translation

variable {τ : Type*} {R} {R' : BufferedReader α τ κ} {f : ω → List κ} {rel : σ → τ → Prop}

/-- A reader that goes through related states and hands out a translation of the results. -/
structure Translates (R : BufferedReader α σ ω) (R' : BufferedReader α τ κ) (f : ω → List κ)
    (rel : σ → τ → Prop) : Prop where
  /-- Input keeps states related. -/
  push : ∀ c {s t}, rel s t → rel (R.push c s) (R'.push c t)
  /-- The second reader stops where the first does. -/
  stop : ∀ {s t s'}, rel s t → R.pass s = .stop s' → ∃ t', R'.pass t = .stop t' ∧ rel s' t'
  /-- The second reader goes on where the first does, with the translated results. -/
  next : ∀ {s t out s'}, rel s t → R.pass s = .next out s' →
    ∃ t', R'.pass t = .next (out.flatMap f) t' ∧ rel s' t'

theorem Translates.drain (h : Translates R R' f rel) (s : σ) :
    ∀ t, rel s t → (R'.drain t).1 = (R.drain s).1.flatMap f ∧
      rel (R.drain s).2 (R'.drain t).2 := by
  refine R.drain_induction (motive := fun s r =>
    ∀ t, rel s t → (R'.drain t).1 = r.1.flatMap f ∧ rel r.2 (R'.drain t).2) ?_ ?_ s
  · intro s s' hp t hst
    obtain ⟨t', hp', hst'⟩ := h.stop hst hp
    rw [R'.drain_stop hp']
    exact ⟨rfl, hst'⟩
  · intro s out s' hp ih t hst
    obtain ⟨t', hp', hst'⟩ := h.next hst hp
    obtain ⟨hout, hend⟩ := ih t' hst'
    rw [R'.drain_next hp', List.flatMap_append, hout]
    exact ⟨rfl, hend⟩

/-- **A run of the second reader is a translation** of the run of the first. -/
theorem Translates.run (h : Translates R R' f rel) (calls : List (Call α)) {s : σ} {t : τ}
    (hst : rel s t) :
    (R'.run calls t).1 = (R.run calls s).1.flatMap f ∧
      rel (R.run calls s).2 (R'.run calls t).2 := by
  induction calls generalizing s t with
  | nil => exact ⟨rfl, hst⟩
  | cons c calls ih =>
    cases c with
    | push c =>
      rw [run_push, run_push]
      exact ih (h.push c hst)
    | drain =>
      obtain ⟨hout, hend⟩ := h.drain s t hst
      obtain ⟨hout', hend'⟩ := ih hend
      rw [run_drain, run_drain, List.flatMap_append, hout, hout']
      exact ⟨rfl, hend'⟩

end Translation

/-! ### Simulation -/

section Simulation

variable {τ : Type*} {R} {R' : BufferedReader α τ ω} {rel : σ → τ → Prop}

/-- Two readers that go through related states and hand out the same results. -/
structure Simulates (R : BufferedReader α σ ω) (R' : BufferedReader α τ ω) (rel : σ → τ → Prop) :
    Prop where
  /-- Input keeps states related. -/
  push : ∀ c {s t}, rel s t → rel (R.push c s) (R'.push c t)
  /-- The second reader stops where the first does. -/
  stop : ∀ {s t s'}, rel s t → R.pass s = .stop s' → ∃ t', R'.pass t = .stop t' ∧ rel s' t'
  /-- The second reader goes on where the first does, with the same results. -/
  next : ∀ {s t out s'}, rel s t → R.pass s = .next out s' →
    ∃ t', R'.pass t = .next out t' ∧ rel s' t'

/-- A simulation is a translation that changes nothing. -/
theorem Simulates.translates (h : Simulates R R' rel) :
    Translates R R' (fun result => [result]) rel where
  push := h.push
  stop := h.stop
  next hst hp := by
    rw [List.flatMap_singleton']
    exact h.next hst hp

/-- **Runs of related readers hand out the same results.** -/
theorem Simulates.run (h : Simulates R R' rel) (calls : List (Call α)) {s : σ} {t : τ}
    (hst : rel s t) :
    (R.run calls s).1 = (R'.run calls t).1 ∧ rel (R.run calls s).2 (R'.run calls t).2 := by
  obtain ⟨hout, hend⟩ := h.translates.run calls hst
  rw [List.flatMap_singleton'] at hout
  exact ⟨hout.symm, hend⟩

end Simulation

/-! ### Readers of lists -/

/-- The reader whose state is its buffer. A pass takes from the front what `next` finds there. -/
def ofNext (next : List α → Option ω) (size : ω → ℕ)
    (h : ∀ b seg, next b = some seg → 0 < size seg ∧ size seg ≤ b.length) :
    BufferedReader α (List α) ω where
  buffer b := b
  push c b := b ++ c
  pass b :=
    match next b with
    | none => .stop b
    | some seg => .next [seg] (b.drop (size seg))
  buffer_push _ _ := rfl
  shrink := by
    intro b out b' hpass
    cases hnext : next b with
    | none => rw [hnext] at hpass; exact absurd hpass (by simp)
    | some seg =>
      obtain ⟨hpos, hle⟩ := h b seg hnext
      simp only [hnext, Pass.next.injEq] at hpass
      rw [← hpass.2, List.length_drop]
      omega

variable {next : List α → Option ω} {size : ω → ℕ}
  {h : ∀ b seg, next b = some seg → 0 < size seg ∧ size seg ≤ b.length} {b : List α} {seg : ω}

theorem ofNext_stop (hnext : next b = none) : (ofNext next size h).pass b = .stop b := by
  simp only [ofNext, hnext]

theorem ofNext_next (hnext : next b = some seg) :
    (ofNext next size h).pass b = .next [seg] (b.drop (size seg)) := by
  simp only [ofNext, hnext]

end BufferedReader
