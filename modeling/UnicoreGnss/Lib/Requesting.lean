import UnicoreGnss.Lib.Checked

/-!
# Code that makes requests on its way

A function may ask its surroundings for something, say for memory, before it knows that it can use
it. What it has asked for stays asked for, whatever comes of the function, so the requests stand
beside the outcome and not inside it. The surroundings may deny a request; then the function is
over, and has no outcome.

## Main definitions

* `Requesting` — an outcome, and the requests made on the way to it
* `Requesting.run` — the outcome, if all requests are granted

## Main results

* `Requesting.outcome_bind` — without its requests, a chain is a chain of outcomes
* `Requesting.mem_requests_bind_iff` — a chain makes the requests of its links, as far as it gets
-/

/-- A checked computation with the requests it makes on its way. -/
structure Requesting (ρ α : Type) where
  requests : List ρ
  outcome : Checked α

namespace Requesting

variable {ρ α β : Type}

open Checked

/-- After a refusal or a stray read nothing more is asked for. -/
protected def bind (x : Requesting ρ α) (f : α → Requesting ρ β) : Requesting ρ β :=
  match x.outcome with
  | value a => { requests := x.requests ++ (f a).requests, outcome := (f a).outcome }
  | refused => { requests := x.requests, outcome := refused }
  | outside => { requests := x.requests, outcome := outside }

instance : Monad (Requesting ρ) where
  pure a := { requests := [], outcome := value a }
  bind := Requesting.bind

/-- A computation that asks for nothing. -/
instance : MonadLift Checked (Requesting ρ) where
  monadLift x := { requests := [], outcome := x }

/-- Ask for something. -/
def request (r : ρ) : Requesting ρ Unit := { requests := [r], outcome := value () }

/-- The outcome if all requests are granted. -/
def run (grants : ρ → Bool) (x : Requesting ρ α) : Option (Checked α) :=
  if x.requests.all grants then some x.outcome else none

/-! ### Outcomes -/

@[simp] theorem outcome_pure (a : α) : (pure a : Requesting ρ α).outcome = value a := rfl

@[simp] theorem outcome_liftM (x : Checked α) : (liftM x : Requesting ρ α).outcome = x := rfl

@[simp] theorem outcome_request (r : ρ) : (request r).outcome = value () := rfl

/-- **Without its requests**, a chain is a chain of outcomes. -/
@[simp] theorem outcome_bind (x : Requesting ρ α) (f : α → Requesting ρ β) :
    (x >>= f).outcome = x.outcome >>= fun a => (f a).outcome := by
  change (Requesting.bind x f).outcome = _
  rw [Requesting.bind]
  cases x.outcome <;> rfl

/-! ### Requests -/

@[simp] theorem requests_pure (a : α) : (pure a : Requesting ρ α).requests = [] := rfl

@[simp] theorem requests_liftM (x : Checked α) : (liftM x : Requesting ρ α).requests = [] := rfl

@[simp] theorem requests_request (r : ρ) : (request r).requests = [r] := rfl

/-- **A chain makes the requests of its links**, as far as it gets. -/
@[simp] theorem mem_requests_bind_iff {x : Requesting ρ α} {f : α → Requesting ρ β} {r : ρ} :
    r ∈ (x >>= f).requests ↔
      r ∈ x.requests ∨ ∃ a, x.outcome = value a ∧ r ∈ (f a).requests := by
  change r ∈ (Requesting.bind x f).requests ↔ _
  rw [Requesting.bind]
  cases x.outcome <;> simp

theorem run_of_grants {grants : ρ → Bool} {x : Requesting ρ α}
    (h : ∀ r ∈ x.requests, grants r = true) : run grants x = some x.outcome := by
  rw [run, if_pos (List.all_eq_true.mpr h)]

end Requesting
