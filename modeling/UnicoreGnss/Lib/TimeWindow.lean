import UnicoreGnss.Lib.BoundedHistory
import Mathlib.Data.List.TakeWhile
import Mathlib.Order.Lattice

/-!
# Counting what is recent

To say how many things have happened lately one may keep their times in a list, drop the eldest when
the list is too long, and before counting drop from its front what is too old by then. What has been
dropped at one count is not there at the next. As long as the clock does not go back it would not
have counted there either, so every count is right, up to the capacity of the list.

Times are of any linear order. `old now t` says that at the time `now` the time `t` is too old.

## Main definitions

* `Op`, `apply`, `run` — noting a time and dropping what is too old
* `noted` — the times that have been noted, none of them dropped

## Main results

* `exists_dropped` — what has been dropped was too old when it was dropped
* `run_concat_prune` — the list after dropping is what a list that never drops would show
-/

namespace TimeWindow

open BoundedHistory

universe u

variable {τ : Type u}

/-- A time is noted at the end of the list, or the front of the list is cleared. -/
inductive Op (τ : Type u) where
  | push (t : τ)
  | prune (now : τ)
  deriving DecidableEq, Repr

namespace Op

/-- The time of the clock at the operation. -/
def time : Op τ → τ
  | push t => t
  | prune now => now

/-- The time it notes. -/
def noted : Op τ → List τ
  | push t => [t]
  | prune _ => []

end Op

/-- Nothing that is too old becomes recent again, and nothing older than it is recent. -/
structure Ageing [LE τ] (old : τ → τ → Bool) : Prop where
  later : ∀ {now now' t : τ}, now ≤ now' → old now t = true → old now' t = true
  earlier : ∀ {now t t' : τ}, t' ≤ t → old now t = true → old now t' = true

/-- What an operation makes of the list. -/
def apply (cap : ℕ) (old : τ → τ → Bool) (kept : List τ) : Op τ → List τ
  | .push t => keep cap (kept ++ [t])
  | .prune now => kept.dropWhile (old now)

/-- The times that are left after some operations on an empty window. -/
def run (cap : ℕ) (old : τ → τ → Bool) (ops : List (Op τ)) : List τ :=
  ops.foldl (apply cap old) []

/-- All that has been noted. -/
def noted (ops : List (Op τ)) : List τ := ops.flatMap Op.noted

variable {cap : ℕ} {old : τ → τ → Bool} {ops : List (Op τ)} {op : Op τ} {now : τ}

theorem run_append {more : List (Op τ)} :
    run cap old (ops ++ more) = more.foldl (apply cap old) (run cap old ops) :=
  List.foldl_append

theorem run_concat : run cap old (ops ++ [op]) = apply cap old (run cap old ops) op := by
  rw [run_append]
  rfl

theorem noted_concat : noted (ops ++ [op]) = noted ops ++ op.noted := by
  rw [noted, List.flatMap_append, List.flatMap_singleton, ← noted]

/-- What is noted is a time of the clock. -/
theorem noted_sublist : (noted ops).Sublist (ops.map Op.time) := by
  induction ops with
  | nil => exact List.Sublist.refl _
  | cons op ops ih =>
    cases op with
    | push t => exact ih.cons_cons t
    | prune now => exact ih.cons now

/-- What is in the list has been noted. -/
theorem run_sublist : (run cap old ops).Sublist (noted ops) := by
  induction ops using List.reverseRecOn with
  | nil => exact List.Sublist.refl _
  | append_singleton ops op ih =>
    rw [run_concat, noted_concat]
    cases op with
    | push t => exact (List.drop_sublist _ _).trans (ih.append (List.Sublist.refl _))
    | prune now =>
      rw [Op.noted, List.append_nil]
      exact (List.dropWhile_sublist _).trans ih

/-! ### The invariant -/

/-- The list is what is left of the last times noted once some of them have been dropped, and these
were too old at the time `now`. -/
def Dropped (cap : ℕ) (old : τ → τ → Bool) (ops : List (Op τ)) (now : τ) (kept : List τ) : Prop :=
  ∃ dropped, keep cap (noted ops) = dropped ++ kept ∧ ∀ t ∈ dropped, old now t = true

/-- One more time. The capacity takes its toll of what has been dropped first. -/
theorem Dropped.push {kept : List τ} {t : τ} (h : Dropped cap old ops now kept) :
    Dropped cap old (ops ++ [.push t]) now (keep cap (kept ++ [t])) := by
  obtain ⟨dropped, hkeep, hold⟩ := h
  have hnoted : keep cap (noted (ops ++ [.push t])) = keep cap (dropped ++ (kept ++ [t])) := by
    rw [noted_concat, Op.noted, ← keep_keep_append, hkeep, List.append_assoc]
  have hlen : dropped.length + kept.length ≤ cap := by
    have hcap := length_keep cap (noted ops)
    rw [hkeep, List.length_append] at hcap
    omega
  rw [Dropped, hnoted]
  cases dropped with
  | nil => exact ⟨[], rfl, List.forall_mem_nil _⟩
  | cons first dropped =>
    have hfits : (kept ++ [t]).length ≤ cap := by
      rw [List.length_append, List.length_singleton]
      rw [List.length_cons] at hlen
      omega
    refine ⟨(first :: dropped).drop (((first :: dropped) ++ (kept ++ [t])).length - cap), ?_,
      fun x hx => hold x (List.mem_of_mem_drop hx)⟩
    rw [keep_of_le hfits, keep, List.drop_append_of_le_length]
    rw [List.length_append]
    omega

/-- The front of the list is cleared. -/
theorem Dropped.prune {kept : List τ} (h : Dropped cap old ops now kept) :
    Dropped cap old (ops ++ [.prune now]) now (kept.dropWhile (old now)) := by
  obtain ⟨dropped, hkeep, hold⟩ := h
  refine ⟨dropped ++ kept.takeWhile (old now), ?_, ?_⟩
  · rw [noted_concat, Op.noted, List.append_nil, hkeep, List.append_assoc,
      List.takeWhile_append_dropWhile]
  · intro t ht
    rcases List.mem_append.mp ht with ht | ht
    · exact hold t ht
    · exact List.mem_takeWhile_imp ht

variable [LinearOrder τ]

/-- **What has been dropped** is too old, at any time from the last operation on. -/
theorem exists_dropped (hold : Ageing old) (hclock : (ops.map Op.time).Pairwise (· ≤ ·))
    (hnow : ∀ op ∈ ops, op.time ≤ now) : Dropped cap old ops now (run cap old ops) := by
  induction ops using List.reverseRecOn generalizing now with
  | nil => exact ⟨[], keep_of_le (Nat.zero_le cap), List.forall_mem_nil _⟩
  | append_singleton ops op ih =>
    rw [List.map_append, List.map_singleton, List.pairwise_append] at hclock
    obtain ⟨hbefore, -, hlast⟩ := hclock
    have hle : ∀ earlier ∈ ops, earlier.time ≤ op.time := fun earlier h =>
      hlast _ (List.mem_map_of_mem h) _ List.mem_cons_self
    have hop : op.time ≤ now := hnow op (List.mem_append_right _ List.mem_cons_self)
    -- at the time of the operation
    have hthen : Dropped cap old (ops ++ [op]) op.time (run cap old (ops ++ [op])) := by
      rw [run_concat]
      cases op with
      | push t => exact (ih hbefore hle).push
      | prune now => exact (ih hbefore hle).prune
    obtain ⟨dropped, hkeep, hdropped⟩ := hthen
    exact ⟨dropped, hkeep, fun t ht => hold.later hop (hdropped t ht)⟩

/-! ### Counting -/

/-- Of times in order, those at the front are the old ones. -/
theorem dropWhile_eq_filter {ts : List τ} (hold : Ageing old) (hsorted : ts.Pairwise (· ≤ ·)) :
    ts.dropWhile (old now) = ts.filter fun t => !old now t := by
  induction ts with
  | nil => rfl
  | cons t ts ih =>
    rw [List.pairwise_cons] at hsorted
    obtain ⟨hfirst, hrest⟩ := hsorted
    cases ht : old now t with
    | true =>
      rw [List.dropWhile_cons_of_pos ht, List.filter_cons_of_neg (by rw [ht]; simp)]
      exact ih hrest
    | false =>
      have hrecent : ∀ t' ∈ t :: ts, (!old now t') = true := by
        intro t' ht'
        rw [Bool.not_eq_true', ← Bool.not_eq_true]
        intro hold'
        rcases List.mem_cons.mp ht' with rfl | ht'
        · rw [ht] at hold'
          cases hold'
        · rw [hold.earlier (hfirst t' ht') hold'] at ht
          cases ht
      rw [List.dropWhile_cons_of_neg (by rw [ht]; simp), List.filter_eq_self.mpr hrecent]

/-- The recent ones are the last ones, so it is all the same whether the capacity or the age is
looked at first. -/
theorem keep_filter {ts : List τ} (hold : Ageing old) (hsorted : ts.Pairwise (· ≤ ·)) :
    keep cap (ts.filter fun t => !old now t) = (keep cap ts).filter fun t => !old now t := by
  have hsplit : ts = ts.take (ts.length - cap) ++ keep cap ts := (List.take_append_drop _ ts).symm
  have hfits : (keep cap ts).length ≤ cap := by
    rw [length_keep]
    exact Nat.min_le_right _ _
  by_cases hfront : ∀ t ∈ ts.take (ts.length - cap), old now t = true
  · -- what exceeds the capacity is old
    have hnone : (ts.take (ts.length - cap)).filter (fun t => !old now t) = [] := by
      rw [List.filter_eq_nil_iff]
      intro t ht
      rw [hfront t ht]
      simp
    rw [hsplit, List.filter_append, hnone, List.nil_append, ← hsplit]
    exact keep_of_le (Nat.le_trans (List.length_filter_le _ _) hfits)
  · -- then all that is within the capacity is recent
    simp only [not_forall] at hfront
    obtain ⟨t, ht, hrecent⟩ := hfront
    have hlen : 0 < ts.length - cap := by
      by_contra hzero
      rw [Nat.eq_zero_of_not_pos hzero] at ht
      cases ht
    have hfull : (keep cap ts).length = cap := by
      rw [length_keep]
      omega
    have hall : (keep cap ts).filter (fun t => !old now t) = keep cap ts := by
      rw [List.filter_eq_self]
      intro t' ht'
      rw [hsplit, List.pairwise_append] at hsorted
      rw [Bool.not_eq_true', ← Bool.not_eq_true]
      intro hold'
      exact hrecent (hold.earlier (hsorted.2.2 t ht t' ht') hold')
    rw [hall]
    conv_lhs => rw [hsplit]
    rw [List.filter_append, hall, keep, List.length_append, hfull, Nat.add_sub_cancel,
      List.drop_left]

/-- **What is left after clearing** is the last of all the recent times ever noted, as many as the
list may hold. -/
theorem run_concat_prune (cap : ℕ) (hold : Ageing old)
    (hclock : ((ops ++ [Op.prune now]).map Op.time).Pairwise (· ≤ ·)) :
    run cap old (ops ++ [.prune now]) = keep cap ((noted ops).filter fun t => !old now t) := by
  rw [List.map_append, List.map_singleton, List.pairwise_append] at hclock
  obtain ⟨hbefore, -, hlast⟩ := hclock
  have hle : ∀ op ∈ ops, op.time ≤ now := fun op h =>
    hlast _ (List.mem_map_of_mem h) _ List.mem_cons_self
  have hsorted : (noted ops).Pairwise (· ≤ ·) := hbefore.sublist noted_sublist
  have hgone : Dropped cap old ops now (run cap old ops) := exists_dropped hold hbefore hle
  obtain ⟨dropped, hkeep, hdropped⟩ := hgone
  have hkept : (run cap old ops).Pairwise (· ≤ ·) := by
    have hall : (keep cap (noted ops)).Pairwise (· ≤ ·) := hsorted.sublist (List.drop_sublist _ _)
    rw [hkeep] at hall
    exact (List.pairwise_append.mp hall).2.1
  have hgone : dropped.filter (fun t => !old now t) = [] := by
    rw [List.filter_eq_nil_iff]
    intro t ht
    rw [hdropped t ht]
    simp
  rw [run_concat]
  show (run cap old ops).dropWhile (old now) = _
  rw [dropWhile_eq_filter hold hkept, keep_filter hold hsorted, hkeep,
    List.filter_append, hgone, List.nil_append]

end TimeWindow
