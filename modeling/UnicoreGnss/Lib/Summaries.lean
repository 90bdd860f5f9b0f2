import Mathlib.Algebra.BigOperators.Group.List.Basic
import Mathlib.Data.Rat.Cast.CharZero
import Mathlib.Data.List.Perm.Basic
import Mathlib.Order.Lattice

/-!
# Summaries of lists

A table of counts, the mean and the largest value of a list. None of them depends on the order of
the list. The results say what more values have to be like for a summary to stay as it is.

## Main results

* `addAll_eq_self_iff` — a table stays as it is only if nothing is counted
* `accumulate_apply` — what is accumulated under a key
* `mean_append_eq_iff` — a mean stays as it is if the further values have the same mean
* `max?_congr` — the largest value depends on what occurs in the list
-/

namespace Summaries

/-! ### Tables of counts -/

section Tables

variable {κ : Type} [DecidableEq κ]

/-- A table of counts: what stands under a key, if the key is there. -/
abbrev Table (κ : Type) := κ → Option ℕ

/-- The table with a zero under each of these keys. -/
def zeros (keys : List κ) : Table κ := fun key => if key ∈ keys then some 0 else none

/-- One more under a key, which is entered if it is not there. -/
def add (table : Table κ) (key : κ) : Table κ :=
  Function.update table key (some ((table key).getD 0 + 1))

/-- The table after all the keys have been counted. -/
def addAll (table : Table κ) (keys : List κ) : Table κ := keys.foldl add table

variable (table : Table κ)

theorem addAll_append (keys more : List κ) :
    addAll table (keys ++ more) = addAll (addAll table keys) more :=
  List.foldl_append

/-- **What a table shows** under a key after counting. -/
theorem addAll_apply (keys : List κ) (key : κ) :
    addAll table keys key =
      if key ∈ keys then some ((table key).getD 0 + keys.count key) else table key := by
  induction keys generalizing table with
  | nil => rfl
  | cons first keys ih =>
    rw [addAll, List.foldl_cons, ← addAll, ih, add]
    by_cases hfirst : key = first
    · subst hfirst
      rw [Function.update_self, if_pos List.mem_cons_self, List.count_cons_self]
      by_cases hkeys : key ∈ keys
      · rw [if_pos hkeys, Option.getD_some]
        congr 1
        omega
      · rw [if_neg hkeys, List.count_eq_zero_of_not_mem hkeys]
    · rw [Function.update_of_ne hfirst, List.count_cons_of_ne (Ne.symm hfirst)]
      simp only [List.mem_cons, hfirst, false_or]

/-- The order of counting does not matter. -/
theorem addAll_perm {keys keys' : List κ} (h : keys.Perm keys') :
    addAll table keys = addAll table keys' := by
  funext key
  rw [addAll_apply, addAll_apply, h.count_eq]
  simp only [h.mem_iff]

/-- **A table changes** whenever something is counted. -/
theorem addAll_eq_self_iff (keys : List κ) : addAll table keys = table ↔ keys = [] := by
  constructor
  · intro h
    cases keys with
    | nil => rfl
    | cons key keys =>
      -- The count under the first of the keys has gone up.
      have hkey := congrFun h key
      rw [addAll_apply, if_pos List.mem_cons_self, List.count_cons_self] at hkey
      rw [← hkey, Option.getD_some] at hkey
      have hcount := Option.some.inj hkey
      omega
  · rintro rfl
    rfl

end Tables

/-! ### Tables of accumulators -/

section Accumulators

variable {κ α σ : Type} [DecidableEq κ]

/-- The values entered under a key, in order. -/
def valuesAt (key : κ) (entries : List (κ × α)) : List α :=
  (entries.filter fun entry => entry.1 = key).map Prod.snd

/-- A state for each key, changed by the values entered under it. -/
def accumulate (change : σ → α → σ) (states : κ → σ) (entries : List (κ × α)) : κ → σ :=
  entries.foldl (fun states entry =>
    Function.update states entry.1 (change (states entry.1) entry.2)) states

/-- **The state under a key** is what the values entered under that key make of it. -/
theorem accumulate_apply (change : σ → α → σ) (states : κ → σ) (entries : List (κ × α))
    (key : κ) :
    accumulate change states entries key = (valuesAt key entries).foldl change (states key) := by
  induction entries generalizing states with
  | nil => rfl
  | cons entry entries ih =>
    obtain ⟨key', a⟩ := entry
    have hvalues : valuesAt key ((key', a) :: entries) =
        if key' = key then a :: valuesAt key entries else valuesAt key entries := by
      simp only [valuesAt, List.filter_cons, decide_eq_true_eq]
      split <;> rfl
    rw [accumulate, List.foldl_cons, ← accumulate, ih, hvalues]
    dsimp only
    by_cases h : key' = key
    · subst h
      rw [Function.update_self, if_pos rfl, List.foldl_cons]
    · rw [Function.update_of_ne (Ne.symm h), if_neg h]

end Accumulators

/-! ### Means -/

section Means

variable {α : Type} [Field α]

/-- The mean of a list, if there are values in it. -/
def mean : List α → Option α
  | [] => none
  | x :: xs => some ((x :: xs).sum / (x :: xs).length)

theorem mean_of_ne_nil {xs : List α} (h : xs ≠ []) : mean xs = some (xs.sum / xs.length) := by
  obtain ⟨x, xs, rfl⟩ := List.exists_cons_of_ne_nil h
  rfl

theorem mean_perm {xs ys : List α} (h : xs.Perm ys) : mean xs = mean ys := by
  by_cases hxs : xs = []
  · subst hxs
    rw [h.nil_eq]
  · have hys : ys ≠ [] := fun hys => hxs (by rwa [hys, List.perm_nil] at h)
    rw [mean_of_ne_nil hxs, mean_of_ne_nil hys, h.sum_eq, h.length_eq]

/-- **Further values leave a mean as it is** if they have the same mean. -/
theorem mean_append_eq_iff [CharZero α] (xs ys : List α) :
    mean (xs ++ ys) = mean xs ↔ ys = [] ∨ mean ys = mean xs := by
  by_cases hys : ys = []
  · simp [hys]
  by_cases hxs : xs = []
  · simp [hxs, hys]
  have hlength : ∀ {zs : List α}, zs ≠ [] → (zs.length : α) ≠ 0 := fun hzs =>
    Nat.cast_ne_zero.mpr fun h => hzs (List.length_eq_zero_iff.mp h)
  have hboth : ((xs.length : α) + ys.length) ≠ 0 := by
    rw [← Nat.cast_add, ← List.length_append]
    exact hlength (by simp [hxs])
  rw [mean_of_ne_nil (by simp [hxs]), mean_of_ne_nil hxs, mean_of_ne_nil hys, Option.some.injEq,
    Option.some.injEq, List.sum_append, List.length_append, Nat.cast_add, or_iff_right hys,
    div_eq_div_iff hboth (hlength hxs), div_eq_div_iff (hlength hys) (hlength hxs), add_mul,
    mul_add, add_right_inj]

end Means

/-! ### Largest values -/

/-- **The largest value** of a list depends on what occurs in it. -/
theorem max?_congr {α : Type} [LinearOrder α] {xs ys : List α} (h : ∀ x, x ∈ xs ↔ x ∈ ys) :
    xs.max? = ys.max? := by
  cases hys : ys.max? with
  | none =>
    rw [List.max?_eq_none_iff] at hys ⊢
    rw [List.eq_nil_iff_forall_not_mem]
    intro x hx
    rw [h, hys] at hx
    exact absurd hx List.not_mem_nil
  | some x =>
    rw [List.max?_eq_some_iff] at hys ⊢
    exact ⟨(h x).mpr hys.1, fun y hy => hys.2 y ((h y).mp hy)⟩

end Summaries
