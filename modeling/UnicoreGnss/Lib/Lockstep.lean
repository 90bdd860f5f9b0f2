import UnicoreGnss.Lib.Cursor

/-!
# Two codes in lockstep

Two codes that read the same data may do so for different ends: one hands out all it has read, the
other keeps a summary. That they take the same inputs, and that the summary is that of what the
other hands out, is shown step by step. `Lockstep R` says that two computations end alike, and that
values are related by `R`. The rules follow the constructions from which the codes are built.

## Main results

* `Lockstep.bind` — chains in lockstep
* `Lockstep.foldRange_forRange` — a loop that counts and a loop that collects
* `Lockstep.gatherMany_readMany` — the same for items that are read one after another
-/

namespace Checked

open Cursor

variable {α β α' β' : Type} {R : α → β → Prop} {S : α' → β' → Prop}

/-- Both hand out values, and these are related, or both refuse, or both stray. -/
inductive Lockstep (R : α → β → Prop) : Checked α → Checked β → Prop
  | value {a : α} {b : β} (h : R a b) : Lockstep R (.value a) (.value b)
  | refused : Lockstep R .refused .refused
  | outside : Lockstep R .outside .outside

namespace Lockstep

theorem exists_of_value_left {a : α} {y : Checked β} (h : Lockstep R (.value a) y) :
    ∃ b, y = .value b ∧ R a b := by
  cases h with
  | value h => exact ⟨_, rfl, h⟩

theorem exists_of_value_right {x : Checked α} {b : β} (h : Lockstep R x (.value b)) :
    ∃ a, x = .value a ∧ R a b := by
  cases h with
  | value h => exact ⟨_, rfl, h⟩

/-- **Chains** are in lockstep if their links are. -/
theorem bind {x : Checked α} {y : Checked β} {f : α → Checked α'} {g : β → Checked β'}
    (h : Lockstep R x y) (hfg : ∀ a b, R a b → Lockstep S (f a) (g b)) :
    Lockstep S (x >>= f) (y >>= g) := by
  cases h with
  | value h => exact hfg _ _ h
  | refused => exact .refused
  | outside => exact .outside

/-- One of the two puts its value into another form. -/
theorem map_left {R : α' → β → Prop} {x : Checked α} {y : Checked β} {f : α → α'}
    (h : Lockstep (fun a => R (f a)) x y) : Lockstep R (x >>= fun a => .value (f a)) y := by
  cases h with
  | value h => exact .value h
  | refused => exact .refused
  | outside => exact .outside

/-- The two make the same test. -/
theorem require_bind {p q : Prop} [Decidable p] [Decidable q] {f : PUnit → Checked α'}
    {g : PUnit → Checked β'} (hpq : p ↔ q) (h : p → Lockstep S (f ⟨⟩) (g ⟨⟩)) :
    Lockstep S (require p >>= f) (require q >>= g) := by
  by_cases hp : p
  · rw [require_true hp, require_true (hpq.mp hp)]
    exact h hp
  · rw [require_false hp, require_false fun hq => hp (hpq.mpr hq)]
    exact .refused

/-- The two need the same value. -/
theorem ofOption_bind {γ : Type} {o : Option γ} {f : γ → Checked α'} {g : γ → Checked β'}
    (h : ∀ c, Lockstep S (f c) (g c)) : Lockstep S (ofOption o >>= f) (ofOption o >>= g) := by
  cases o with
  | none => exact .refused
  | some c => exact h c

/-- **Counting and collecting.** A loop changes a state with each item that another one collects. -/
theorem foldRange_forRange {σ : Type} {R : σ → List β → Prop} {body : σ → ℕ → Checked σ}
    {read : ℕ → Checked β} {n : ℕ}
    (h : ∀ i < n, ∀ s l, R s l → Lockstep (fun s' b => R s' (l ++ [b])) (body s i) (read i))
    {s : σ} (hs : R s []) : Lockstep R (foldRange body n s) (forRange read n) := by
  induction n with
  | zero => exact .value hs
  | succ n ih =>
    have hinit : Lockstep R (foldRange body n s) (forRange read n) :=
      ih fun i hi => h i (Nat.lt_succ_of_lt hi)
    rw [foldRange, List.range_succ, List.foldlM_append, forRange, List.range_succ, List.mapM_append]
    refine hinit.bind fun s l hl => ?_
    have hlast := h n n.lt_succ_self s l hl
    simp only [List.foldlM_cons, List.foldlM_nil, List.mapM_cons, List.mapM_nil, bind_assoc,
      pure_bind, bind_pure]
    rw [← bind_pure (body s n)]
    exact hlast.bind fun s' b hb => .value hb

/-- Items that are read one after another, where one code gathers what the other hands out. -/
theorem gatherMany_readMany {τ σ : Type} {R : σ → List β → Prop} {gather : Gatherer τ σ}
    {read : ItemReader τ β} {input : List τ}
    (h : ∀ cursor s l, R s l → Lockstep (fun p q => R p.1 (l ++ [q.1]) ∧ p.2 = q.2)
      (gather s input cursor) (read input cursor))
    (n cursor : ℕ) {s : σ} {l : List β} (hs : R s l) :
    Lockstep (fun p q => R p.1 (l ++ q.1) ∧ p.2 = q.2) (gatherMany gather n s input cursor)
      (readMany read n input cursor) := by
  induction n generalizing cursor s l with
  | zero => exact .value ⟨by rwa [List.append_nil], rfl⟩
  | succ n ih =>
    refine (h cursor s l hs).bind ?_
    rintro ⟨s', cursor'⟩ ⟨item, cursor''⟩ ⟨hs', hcursor⟩
    obtain rfl : cursor' = cursor'' := hcursor
    show Lockstep _ (gatherMany gather n s' input cursor') _
    rw [← bind_pure (gatherMany gather n s' input cursor')]
    refine (ih cursor' hs').bind ?_
    rintro ⟨s₂, cursor₂⟩ ⟨items, cursor₂'⟩ ⟨hs₂, hcursor₂⟩
    refine .value ⟨?_, hcursor₂⟩
    rwa [List.append_assoc] at hs₂

end Lockstep

end Checked
