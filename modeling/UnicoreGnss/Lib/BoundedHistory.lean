import Mathlib.Data.List.Induction

/-!
# A bounded history with a reader

A writer appends items to a list and keeps the last `cap` of them, and a reader reports what it has
not reported yet: it remembers how many items it has seen and takes the list from there on. As long
as nothing has been dropped the number seen is a position in the list. Once items are dropped from
the front it is not: the list stops growing, and the reader sees nothing new any more.

A round is a label, such as a time, with the items that are written before the reader looks. What
the reader reports in a round gets the label of the round.

## Main definitions

* `keep` — the last `cap` items
* `Reader`, `Reader.round`, `Reader.rounds` — writing and reporting
* `labelled` — what should be reported

## Main results

* `Reader.rounds_invariant` — what is kept, and how many items are seen and reported
* `Reader.map_reported_eq_iff` — everything is reported exactly if there are at most `cap` items
-/

universe u v

namespace BoundedHistory

variable {α : Type u} {τ : Type v}

/-- The last `cap` items. -/
def keep (cap : ℕ) (items : List α) : List α := items.drop (items.length - cap)

theorem length_keep (cap : ℕ) (items : List α) :
    (keep cap items).length = min items.length cap := by
  rw [keep, List.length_drop]
  omega

theorem keep_of_le {cap : ℕ} {items : List α} (h : items.length ≤ cap) :
    keep cap items = items := by
  rw [keep, Nat.sub_eq_zero_of_le h, List.drop_zero]

/-- The item written last is kept. -/
theorem getLast?_keep_concat {cap : ℕ} (h : 0 < cap) (items : List α) (item : α) :
    (keep cap (items ++ [item])).getLast? = some item := by
  rw [keep, List.drop_append_of_le_length (by
    rw [List.length_append, List.length_singleton]; omega), List.getLast?_concat]

theorem getLast?_keep {cap : ℕ} (h : 0 < cap) (items : List α) :
    (keep cap items).getLast? = items.getLast? := by
  induction items using List.reverseRecOn with
  | nil => rw [keep_of_le (Nat.zero_le cap)]
  | append_singleton items item => rw [getLast?_keep_concat h, List.getLast?_concat]

/-- What was dropped before makes no difference. -/
theorem keep_keep_append (cap : ℕ) (items more : List α) :
    keep cap (keep cap items ++ more) = keep cap (items ++ more) := by
  have hdrop : keep cap items ++ more = (items ++ more).drop (items.length - cap) := by
    rw [keep, List.drop_append_of_le_length (Nat.sub_le _ _)]
  rw [hdrop, keep, keep, List.drop_drop, List.length_drop, List.length_append]
  congr 1
  omega

/-- To keep the last items of a list that grows one by one, it is enough to drop the eldest when the
list is too long. -/
theorem tail_eq_keep {cap : ℕ} {items : List α} (h : items.length ≤ cap) (item : α) :
    (if cap < (items ++ [item]).length then (items ++ [item]).tail else items ++ [item]) =
      keep cap (items ++ [item]) := by
  rw [keep, List.length_append, List.length_singleton]
  split
  · next hfull =>
    have hone : items.length + 1 - cap = 1 := by omega
    rw [hone, List.drop_one]
  · next hfits =>
    rw [Nat.sub_eq_zero_of_le (Nat.le_of_not_gt hfits), List.drop_zero]

/-- The kept items, how many of them the reader has seen, and what it has reported. -/
structure Reader (α : Type u) (τ : Type v) where
  recent : List α := []
  seen : ℕ := 0
  reported : List (τ × α) := []

/-- The items of the rounds, each with the label of its round. -/
def labelled (rounds : List (τ × List α)) : List (τ × α) :=
  rounds.flatMap fun (label, items) => items.map fun item => (label, item)

/-- All items of the rounds. -/
def written (rounds : List (τ × List α)) : List α := rounds.flatMap Prod.snd

theorem written_cons (label : τ) (items : List α) (rounds : List (τ × List α)) :
    written ((label, items) :: rounds) = items ++ written rounds := List.flatMap_cons

theorem length_labelled (rounds : List (τ × List α)) :
    (labelled rounds).length = (written rounds).length := by
  simp [labelled, written, List.length_flatMap]

namespace Reader

/-- Items are written, and the reader reports the kept ones from the position it has got to. -/
def round (cap : ℕ) (r : Reader α τ) (label : τ) (items : List α) : Reader α τ :=
  let recent := keep cap (r.recent ++ items)
  { recent
    seen := max r.seen recent.length
    reported := r.reported ++ (recent.drop r.seen).map fun item => (label, item) }

/-- The reader after some rounds, each with the label of its items. -/
def rounds (cap : ℕ) (r : Reader α τ) (rounds : List (τ × List α)) : Reader α τ :=
  rounds.foldl (fun r (label, items) => r.round cap label items) r

@[simp] theorem recent_round (cap : ℕ) (r : Reader α τ) (label : τ) (items : List α) :
    (r.round cap label items).recent = keep cap (r.recent ++ items) := rfl

@[simp] theorem seen_round (cap : ℕ) (r : Reader α τ) (label : τ) (items : List α) :
    (r.round cap label items).seen = max r.seen (keep cap (r.recent ++ items)).length := rfl

@[simp] theorem reported_round (cap : ℕ) (r : Reader α τ) (label : τ) (items : List α) :
    (r.round cap label items).reported = r.reported ++
      ((keep cap (r.recent ++ items)).drop r.seen).map fun item => (label, item) := rfl

theorem rounds_cons (cap : ℕ) (r : Reader α τ) (label : τ) (items : List α)
    (rs : List (τ × List α)) :
    r.rounds cap ((label, items) :: rs) = (r.round cap label items).rounds cap rs := rfl

theorem rounds_concat (cap : ℕ) (r : Reader α τ) (rs : List (τ × List α)) (label : τ)
    (items : List α) :
    r.rounds cap (rs ++ [(label, items)]) = (r.rounds cap rs).round cap label items := by
  rw [rounds, List.foldl_append]
  rfl

theorem written_concat (rs : List (τ × List α)) (label : τ) (items : List α) :
    written (rs ++ [(label, items)]) = written rs ++ items := by
  simp [written]

/-- **After any rounds** the kept items are the last ones, and the reader has seen and reported as
many as there are. -/
theorem rounds_invariant (cap : ℕ) (rs : List (τ × List α)) :
    (rounds cap {} rs).recent = keep cap (written rs) ∧
      (rounds cap {} rs).seen = min (written rs).length cap ∧
      (rounds cap {} rs).reported.length = min (written rs).length cap := by
  induction rs using List.reverseRecOn with
  | nil => exact ⟨(keep_of_le (Nat.zero_le cap)).symm, (Nat.zero_min cap).symm,
      (Nat.zero_min cap).symm⟩
  | append_singleton rs last ih =>
    obtain ⟨label, items⟩ := last
    obtain ⟨hrecent, hseen, hreported⟩ := ih
    have hkeep : keep cap ((rounds cap {} rs).recent ++ items) =
        keep cap (written rs ++ items) := by
      rw [hrecent, keep_keep_append]
    have hlen : (keep cap (written rs ++ items)).length =
        min ((written rs).length + items.length) cap := by
      rw [length_keep, List.length_append]
    rw [rounds_concat, recent_round, seen_round, reported_round, written_concat, hkeep,
      List.length_append, hlen, hseen]
    refine ⟨rfl, by omega, ?_⟩
    rw [List.length_append, List.length_map, List.length_drop, hlen, hreported]
    omega

/-- As long as nothing is dropped, everything is reported. -/
theorem reported_eq_labelled (cap : ℕ) (rs : List (τ × List α))
    (h : (written rs).length ≤ cap) : (Reader.rounds cap {} rs).reported = labelled rs := by
  induction rs using List.reverseRecOn with
  | nil => rfl
  | append_singleton rs last ih =>
    obtain ⟨label, items⟩ := last
    rw [written_concat, List.length_append] at h
    obtain ⟨hrecent, hseen, -⟩ := rounds_invariant cap rs
    rw [rounds_concat, reported_round, ih (by omega), hrecent, keep_keep_append, keep_of_le (by
      rw [List.length_append]; omega), hseen, Nat.min_eq_left (by omega), List.drop_left]
    simp [labelled]

/-- **The reader reports everything** exactly if there are at most `cap` items, in whatever form the
reports are written. -/
theorem map_reported_eq_iff {β : Type*} (cap : ℕ) (rs : List (τ × List α)) (form : τ × α → β) :
    (Reader.rounds cap {} rs).reported.map form = (labelled rs).map form ↔
      (written rs).length ≤ cap := by
  constructor
  · intro h
    have hlen := congrArg List.length h
    rw [List.length_map, List.length_map, (rounds_invariant cap rs).2.2, length_labelled] at hlen
    omega
  · intro h
    rw [reported_eq_labelled cap rs h]

end Reader

end BoundedHistory
