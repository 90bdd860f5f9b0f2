import Mathlib.Data.List.Basic
import Mathlib.Data.List.Induction

/-!
# Runs of a machine that may refuse a step

A machine takes an action or refuses it. A run is a list of actions that are all taken. When several
parties share the state, an action says which party moves, and the runs are all their interleavings.

## Main definitions

* `PartialRun.run` — where a list of actions leads
* `PartialRun.outputs` — what is put out on the way

## Main results

* `PartialRun.invariant` — what every step keeps holds in every run
* `PartialRun.run_simulated` — what every step of one machine can be matched with by another, every
  run can
* `PartialRun.map_run` — what is seen of a machine that refuses some actions in every state
-/

namespace PartialRun

universe u v

variable {σ : Type u} {α : Type u}

/-- Where the actions lead, if they are all taken. -/
def run (step : σ → α → Option σ) (s : σ) (actions : List α) : Option σ := actions.foldlM step s

variable {step : σ → α → Option σ} {s t : σ} {actions more : List α} {action : α}

@[simp] theorem run_nil : run step s [] = some s := rfl

theorem run_append_eq_some : run step s (actions ++ more) = some t ↔
    ∃ middle, run step s actions = some middle ∧ run step middle more = some t := by
  rw [run, List.foldlM_append]
  exact Option.bind_eq_some_iff

theorem run_cons_eq_some : run step s (action :: actions) = some t ↔
    ∃ middle, step s action = some middle ∧ run step middle actions = some t := by
  rw [run, List.foldlM_cons]
  exact Option.bind_eq_some_iff

theorem run_concat : run step s (actions ++ [action]) =
    (run step s actions).bind fun middle => step middle action := by
  rw [run, List.foldlM_append]
  simp only [List.foldlM_cons, List.foldlM_nil, bind_pure]
  rfl

theorem run_concat_eq_some : run step s (actions ++ [action]) = some t ↔
    ∃ middle, run step s actions = some middle ∧ step middle action = some t := by
  rw [run_append_eq_some]
  refine exists_congr fun middle => and_congr_right fun _ => ?_
  rw [run_cons_eq_some]
  constructor
  · rintro ⟨last, hstep, hlast⟩
    rwa [Option.some.inj hlast] at hstep
  · intro hstep
    exact ⟨t, hstep, rfl⟩

/-- **The invariant rule.** The invariant may speak of the actions taken so far. -/
theorem invariant {I : List α → σ → Prop} (hstart : I [] s)
    (hstep : ∀ past middle action after, run step s past = some middle → I past middle →
      step middle action = some after → I (past ++ [action]) after)
    (h : run step s actions = some t) : I actions t := by
  induction actions using List.reverseRecOn generalizing t with
  | nil =>
    obtain rfl : s = t := Option.some.inj h
    exact hstart
  | append_singleton past action ih =>
    obtain ⟨middle, hpast, hlast⟩ := run_concat_eq_some.mp h
    exact hstep past middle action t hpast (ih hpast) hlast

/-- **Simulation.** Each step is matched by some steps of the other machine, with the same
commands. -/
theorem run_simulated {τ β κ : Type u} {step' : τ → β → Option τ} {R : σ → τ → Prop}
    {commands : α → List κ} {commands' : β → List κ}
    (hstep : ∀ s action t s', R s s' → step s action = some t →
      ∃ events t', run step' s' events = some t' ∧ R t t' ∧
        events.flatMap commands' = commands action)
    {s' : τ} (hstart : R s s') (h : run step s actions = some t) :
    ∃ events t', run step' s' events = some t' ∧ R t t' ∧
      events.flatMap commands' = actions.flatMap commands := by
  induction actions generalizing s s' with
  | nil =>
    obtain rfl : s = t := Option.some.inj h
    exact ⟨[], s', rfl, hstart, rfl⟩
  | cons action actions ih =>
    obtain ⟨middle, hfirst, hrest⟩ := run_cons_eq_some.mp h
    obtain ⟨events, middle', hevents, hmiddle, hcommands⟩ := hstep s action middle s' hstart hfirst
    obtain ⟨later, t', hlater, ht, hcommands'⟩ := ih hmiddle hrest
    refine ⟨events ++ later, t', run_append_eq_some.mpr ⟨middle', hevents, hlater⟩, ht, ?_⟩
    rw [List.flatMap_append, hcommands, hcommands', List.flatMap_cons]

/-- **A machine that is watched.** If an action is refused whatever the state, or changes what is
seen of the state as `change` does, then a run is refused if one of its actions is, and otherwise
what is seen goes through all the changes. -/
theorem map_run {τ : Type u} (view : σ → τ) (refuses : α → Bool) (change : τ → α → τ)
    (hstep : ∀ s action, (step s action).map view =
      if refuses action then none else some (change (view s) action)) (s : σ) (actions : List α) :
    (run step s actions).map view =
      if actions.any refuses then none else some (actions.foldl change (view s)) := by
  induction actions generalizing s with
  | nil => rfl
  | cons action actions ih =>
    have hfirst := hstep s action
    rw [run, List.foldlM_cons, List.any_cons, List.foldl_cons]
    cases hnext : step s action with
    | none =>
      rw [hnext, Option.map_none] at hfirst
      cases hrefuses : refuses action with
      | true => rfl
      | false => rw [hrefuses] at hfirst; cases hfirst
    | some t =>
      rw [hnext, Option.map_some] at hfirst
      cases hrefuses : refuses action with
      | true => rw [hrefuses] at hfirst; cases hfirst
      | false =>
        rw [hrefuses] at hfirst
        rw [Bool.false_or, ← Option.some.inj hfirst]
        exact ih t

/-! ### Outputs -/

section Outputs

variable {α : Type u} {β : Type v}

/-- What is put out along a list of actions, where the output of each may depend on the past. -/
def outputs (output : List α → α → List β) (actions : List α) : List β :=
  (List.range actions.length).flatMap fun n => actions[n]?.elim [] (output (actions.take n))

@[simp] theorem outputs_nil (output : List α → α → List β) : outputs output [] = [] := rfl

theorem outputs_concat (output : List α → α → List β) (actions : List α) (action : α) :
    outputs output (actions ++ [action]) = outputs output actions ++ output actions action := by
  rw [outputs, List.length_append, List.length_singleton, List.range_succ, List.flatMap_append,
    List.flatMap_singleton, List.getElem?_concat_length, List.take_left, outputs]
  congr 1
  refine List.flatMap_congr fun n hn => ?_
  have hlt : n < actions.length := List.mem_range.mp hn
  rw [List.getElem?_append_left hlt, List.take_append_of_le_length (Nat.le_of_lt hlt)]

end Outputs

end PartialRun
