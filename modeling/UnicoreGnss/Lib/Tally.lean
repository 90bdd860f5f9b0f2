import Mathlib.Data.List.AList
import Mathlib.Data.List.Dedup
import Mathlib.Data.List.Sort

/-!
# Dictionaries of counts

A dictionary that counts how often each key has come up. A key that has never come up is not in it,
so that the dictionary also tells which keys there were.

## Main results

* `Tally.count_addAll`, `Tally.mem_addAll_iff` — what a dictionary shows after counting
* `Tally.mergeSort_keys_addAll` — its keys in order
* `Tally.onlyIn_addAll_iff` — when no key has come up but some that are exempt
-/

/-- A dictionary of counts. -/
abbrev Tally (κ : Type) [DecidableEq κ] := AList fun _ : κ => ℕ

namespace Tally

variable {κ : Type} [DecidableEq κ] (t : Tally κ)

/-- `d.get(key, 0)` -/
def count (key : κ) : ℕ := (t.lookup key).getD 0

/-- `d[key] = d.get(key, 0) + 1` -/
def add (key : κ) : Tally κ := t.insert key (t.count key + 1)

/-- The tally after all the keys have been counted. -/
def addAll (keys : List κ) : Tally κ := keys.foldl add t

/-- No key is in the dictionary but these. -/
def OnlyIn (exempt : List κ) : Prop := ∀ key ∈ t.keys, key ∈ exempt

instance (exempt : List κ) : Decidable (t.OnlyIn exempt) :=
  inferInstanceAs (Decidable (∀ _ ∈ _, _))

@[simp] theorem addAll_nil : t.addAll [] = t := rfl

theorem addAll_append (keys more : List κ) :
    t.addAll (keys ++ more) = (t.addAll keys).addAll more := List.foldl_append

theorem count_add (key other : κ) :
    (t.add key).count other = t.count other + if key = other then 1 else 0 := by
  rw [count, add]
  by_cases h : key = other
  · subst h
    rw [AList.lookup_insert, if_pos rfl]
    rfl
  · rw [AList.lookup_insert_ne (Ne.symm h), if_neg h]
    rfl

/-- **A count** goes up by one whenever its key comes up. -/
theorem count_addAll (keys : List κ) (key : κ) :
    (t.addAll keys).count key = t.count key + keys.count key := by
  induction keys generalizing t with
  | nil => rfl
  | cons first keys ih =>
    rw [addAll, List.foldl_cons, ← addAll, ih, count_add, List.count_cons]
    simp only [beq_iff_eq]
    omega

/-- **The keys** are those that have come up. -/
theorem mem_addAll_iff (keys : List κ) (key : κ) :
    key ∈ t.addAll keys ↔ key ∈ t ∨ key ∈ keys := by
  induction keys generalizing t with
  | nil => simp
  | cons first keys ih =>
    rw [addAll, List.foldl_cons, ← addAll, ih, add, AList.mem_insert, List.mem_cons]
    tauto

/-- **Nothing but exempt keys** is in a dictionary if nothing else has come up. -/
theorem onlyIn_addAll_iff (keys exempt : List κ) :
    (addAll ∅ keys).OnlyIn exempt ↔ ∀ key ∈ keys, key ∈ exempt := by
  have hkeys : ∀ key, key ∈ (addAll ∅ keys).keys ↔ key ∈ keys := by
    intro key
    rw [← AList.mem_keys, mem_addAll_iff, or_iff_right (AList.notMem_empty key)]
  simp only [OnlyIn, hkeys]

/-- **Every key** that has come up is in the dictionary once. -/
theorem keys_addAll_perm (keys : List κ) : (addAll ∅ keys).keys.Perm keys.dedup := by
  rw [List.perm_ext_iff_of_nodup (AList.keys_nodup _) keys.nodup_dedup]
  intro key
  rw [← AList.mem_keys, mem_addAll_iff, or_iff_right (AList.notMem_empty key), List.mem_dedup]

/-- The keys in order, whatever order they have come up in. -/
theorem mergeSort_keys_addAll (r : κ → κ → Prop) [DecidableRel r] [Std.Total r] [IsTrans κ r]
    [Std.Antisymm r] (p : κ → Bool) (keys : List κ) :
    ((addAll ∅ keys).keys.filter p).mergeSort (r · ·) =
      (keys.dedup.filter p).mergeSort (r · ·) := by
  refine List.Perm.eq_of_pairwise' (List.pairwise_mergeSort' r _) (List.pairwise_mergeSort' r _) ?_
  have hperm := (keys_addAll_perm keys).filter p
  exact (List.mergeSort_perm _ _).trans (hperm.trans (List.mergeSort_perm _ _).symm)

end Tally
