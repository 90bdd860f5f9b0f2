import Mathlib.Data.List.Basic

/-!
# Inputs that leave no trace in the outputs

A machine handles one input after another and hands out a list of outputs for each. Some inputs are
hidden: they are to make no difference to the outputs, neither at once nor later.

To see that, it is enough to look at single steps. An `Unwinding` is a relation between states that
hidden inputs cannot leave and that makes the other inputs hand out the same. Two runs whose inputs
differ in hidden ones only have the same outputs.

## Main results

* `Unwinding.outputs_filter` — the hidden inputs can be taken away
* `Unwinding.outputs_eq` — two runs with the same inputs but for the hidden ones
-/

namespace HiddenInputs

variable {State Input Output : Type}

/-- The outputs of a run, in order. -/
def outputs (step : State → Input → State × List Output) : State → List Input → List Output
  | _, [] => []
  | s, input :: inputs => (step s input).2 ++ outputs step (step s input).1 inputs

variable {step : State → Input → State × List Output}

/-- One more input adds its outputs. -/
theorem outputs_concat (s : State) (inputs : List Input) (input : Input) :
    outputs step s (inputs ++ [input]) = outputs step s inputs ++
      (step (inputs.foldl (fun s input => (step s input).1) s) input).2 := by
  induction inputs generalizing s with
  | nil => exact List.append_nil _
  | cons first inputs ih =>
    rw [List.cons_append, outputs, outputs, ih, List.append_assoc]
    rfl

/-- What has to be looked at of single steps. -/
structure Unwinding (step : State → Input → State × List Output) (hidden : Input → Bool)
    (Related : State → State → Prop) : Prop where
  refl : ∀ s, Related s s
  /-- A hidden input changes one of the states to a related one, and hands out nothing. -/
  hidden_step : ∀ s t input, hidden input = true → Related s t →
    Related (step s input).1 t ∧ (step s input).2 = []
  /-- Any other input changes both states to related ones, and hands out the same. -/
  visible_step : ∀ s t input, hidden input = false → Related s t →
    Related (step s input).1 (step t input).1 ∧ (step s input).2 = (step t input).2

variable {hidden : Input → Bool} {Related : State → State → Prop}

/-- **The hidden inputs can be taken away**, and the state be replaced by a related one. -/
theorem Unwinding.outputs_filter (h : Unwinding step hidden Related) (inputs : List Input) :
    ∀ s t, Related s t →
      outputs step s inputs = outputs step t (inputs.filter fun input => !hidden input) := by
  induction inputs with
  | nil => intro s t _; rfl
  | cons input inputs ih =>
    intro s t hrelated
    cases hinput : hidden input with
    | true =>
      obtain ⟨hstep, hnothing⟩ := h.hidden_step s t input hinput hrelated
      rw [List.filter_cons_of_neg (by simp [hinput]), outputs, hnothing, List.nil_append]
      exact ih _ t hstep
    | false =>
      obtain ⟨hstep, hsame⟩ := h.visible_step s t input hinput hrelated
      rw [List.filter_cons_of_pos (by simp [hinput]), outputs, outputs, hsame, ih _ _ hstep]

/-- **Two runs** with the same inputs but for the hidden ones have the same outputs. -/
theorem Unwinding.outputs_eq (h : Unwinding step hidden Related) (s : State)
    {inputs inputs' : List Input}
    (heq : inputs.filter (fun input => !hidden input) =
      inputs'.filter fun input => !hidden input) :
    outputs step s inputs = outputs step s inputs' := by
  rw [h.outputs_filter inputs s s (h.refl s), heq, ← h.outputs_filter inputs' s s (h.refl s)]

end HiddenInputs
