import Mathlib.Data.Finset.Card
import Mathlib.Data.List.Induction

/-!
# A bounded list of the recent distinct items

Items are pushed one after the other. One that is in the list already changes nothing, and a new one
is put at the end, with the first one going if that makes the list too long. The list of a value of
`RecentDistinct` is short enough and has no duplicates by construction.

Because a repeated item is not moved to the end, what is in the list after a push is not a function
of the last few items. What can be said is that nothing is in it that was not pushed, that the item
pushed last is, and that all are as long as no more distinct items have come than there is room for.

## Main definitions

* `RecentDistinct`, `RecentDistinct.push`, `RecentDistinct.pushAll`

## Main results

* `RecentDistinct.mem_of_mem_pushAll` — only what was pushed
* `RecentDistinct.mem_pushAll_of_getLast?` — what was pushed last
* `RecentDistinct.mem_pushAll_iff` — all that was pushed, while there is room
-/

universe u

/-- At most `cap` distinct items. -/
structure RecentDistinct (α : Type u) (cap : ℕ) where
  items : List α
  length_le : items.length ≤ cap
  nodup : items.Nodup

namespace RecentDistinct

variable {α : Type u} [DecidableEq α] {cap : ℕ} {r : RecentDistinct α cap} {items : List α}
  {item x : α}

/-- Nothing has been pushed. -/
def empty : RecentDistinct α cap where
  items := []
  length_le := Nat.zero_le cap
  nodup := List.nodup_nil

/-- The list once `item` is pushed: the first one makes room for it. -/
def pushed (cap : ℕ) (items : List α) (item : α) : List α :=
  if item ∈ items then items
  else if (items ++ [item]).length > cap then (items ++ [item]).tail
  else items ++ [item]

example : pushed 2 [1, 2] 1 = [1, 2] ∧ pushed 2 [1, 2] 3 = [2, 3] := by decide

theorem length_pushed_le (h : items.length ≤ cap) : (pushed cap items item).length ≤ cap := by
  unfold pushed
  split
  · exact h
  split
  · rw [List.length_tail, List.length_append, List.length_singleton]
    omega
  · omega

theorem nodup_pushed (h : items.Nodup) : (pushed cap items item).Nodup := by
  unfold pushed
  split
  case isTrue => exact h
  case isFalse hnew =>
    have hconcat : (items ++ [item]).Nodup := by
      rw [← List.concat_eq_append]
      exact h.concat hnew
    split
    · exact hconcat.sublist (List.tail_sublist _)
    · exact hconcat

/-- The list after an item has come in. A repeat changes nothing. -/
def push (r : RecentDistinct α cap) (item : α) : RecentDistinct α cap where
  items := pushed cap r.items item
  length_le := length_pushed_le r.length_le
  nodup := nodup_pushed r.nodup

@[simp] theorem items_push : (r.push item).items = pushed cap r.items item := rfl

/-- A push adds nothing else. -/
theorem mem_of_mem_push (h : x ∈ (r.push item).items) : x ∈ r.items ∨ x = item := by
  have hconcat : x ∈ r.items ++ [item] → x ∈ r.items ∨ x = item := by simp
  rw [items_push, pushed] at h
  split at h
  · exact .inl h
  split at h
  · exact hconcat (List.mem_of_mem_tail h)
  · exact hconcat h

/-- The item that is pushed is in the list. -/
theorem mem_push_self (hcap : 0 < cap) : item ∈ (r.push item).items := by
  rw [items_push, pushed]
  split
  case isTrue hmem => exact hmem
  case isFalse =>
    split
    case isTrue hfull =>
      rw [List.length_append, List.length_singleton] at hfull
      obtain ⟨first, rest, hitems⟩ := List.exists_cons_of_length_pos (l := r.items) (by omega)
      simp [hitems]
    case isFalse => simp

/-- As long as there is room, a push takes nothing away. -/
theorem mem_push_of_mem (hroom : r.items.length < cap) (h : x ∈ r.items) :
    x ∈ (r.push item).items := by
  rw [items_push, pushed]
  split
  · exact h
  rw [if_neg (by rw [List.length_append, List.length_singleton]; omega)]
  exact List.mem_append_left _ h

/-! ### Many pushes -/

/-- The items are pushed one after the other. -/
def pushAll (r : RecentDistinct α cap) (xs : List α) : RecentDistinct α cap := xs.foldl push r

theorem pushAll_concat (xs : List α) (item : α) :
    r.pushAll (xs ++ [item]) = (r.pushAll xs).push item := by
  rw [pushAll, List.foldl_append]
  rfl

variable {xs : List α}

/-- **Only what was pushed** is in the list. -/
theorem mem_of_mem_pushAll (h : x ∈ (pushAll (empty : RecentDistinct α cap) xs).items) :
    x ∈ xs := by
  induction xs using List.reverseRecOn with
  | nil => exact h
  | append_singleton xs item ih =>
    rw [pushAll_concat] at h
    rw [List.mem_append, List.mem_singleton]
    exact (mem_of_mem_push h).imp ih id

/-- **The item pushed last** is in the list. -/
theorem mem_pushAll_of_getLast? (hcap : 0 < cap) (h : xs.getLast? = some item) :
    item ∈ (r.pushAll xs).items := by
  obtain ⟨front, rfl⟩ := List.getLast?_eq_some_iff.mp h
  rw [pushAll_concat]
  exact mem_push_self hcap

/-- **As long as there is room** for all the distinct items, all of them are in the list. -/
theorem mem_pushAll_iff (hcard : xs.toFinset.card ≤ cap) :
    x ∈ (pushAll (empty : RecentDistinct α cap) xs).items ↔ x ∈ xs := by
  induction xs using List.reverseRecOn generalizing x with
  | nil => rfl
  | append_singleton xs item ih =>
    have hinsert : (xs ++ [item]).toFinset = insert item xs.toFinset := by
      ext y
      simp
    rw [hinsert] at hcard
    have hle : xs.toFinset.card ≤ cap :=
      (Finset.card_le_card (Finset.subset_insert _ _)).trans hcard
    rw [pushAll_concat, List.mem_append, List.mem_singleton]
    constructor
    · intro h
      exact (mem_of_mem_push h).imp mem_of_mem_pushAll id
    by_cases hold : item ∈ (pushAll (empty : RecentDistinct α cap) xs).items
    · -- a repeated item changes nothing
      have hsame : ((pushAll (empty : RecentDistinct α cap) xs).push item).items =
          (pushAll (empty : RecentDistinct α cap) xs).items := if_pos hold
      rw [hsame]
      rintro (h | rfl)
      · exact (ih hle).mpr h
      · exact hold
    · -- a new one has room, because the list has as many items as have come
      have hnew : item ∉ xs.toFinset := by
        rw [List.mem_toFinset]
        exact fun h => hold ((ih hle).mpr h)
      have hsame : (pushAll (empty : RecentDistinct α cap) xs).items.toFinset = xs.toFinset := by
        ext y
        rw [List.mem_toFinset, List.mem_toFinset, ih hle]
      have hroom : (pushAll (empty : RecentDistinct α cap) xs).items.length < cap := by
        rw [← List.toFinset_card_of_nodup (pushAll _ xs).nodup, hsame]
        rw [Finset.card_insert_of_notMem hnew] at hcard
        omega
      rintro (h | rfl)
      · exact mem_push_of_mem hroom ((ih hle).mpr h)
      · exact mem_push_self (by omega)

end RecentDistinct
