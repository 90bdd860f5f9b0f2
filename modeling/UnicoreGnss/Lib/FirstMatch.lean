import Mathlib.Data.List.Basic

/-!
# The first place where a pattern matches

`firstMatch p l` is the index of the first non-empty suffix of `l` that satisfies `p`. Searching a
list for one element and searching it for a fixed sequence are both of this form.

The predicates of interest look at a bounded number of leading elements. `IsWindow k p` says so:
a match needs `k` elements, and once `k` elements are there nothing that follows can change the
answer. That is what makes a search on a prefix of a stream say something about the whole stream,
and it is the only property of the patterns that the lemmas below use.

## Main results

* `firstMatch_eq_some_iff`, `firstMatch_eq_none_iff` — what an answer means
* `IsWindow.firstMatch_append` — an answer found on a prefix is the answer on the whole list
* `IsWindow.length_lt_of_append` — an answer missed on a prefix reaches past its end
* `firstMatch_of_quiet` — the search may start after any stretch without a match
-/

namespace FirstMatch

variable {α : Type*} {p : List α → Bool} {l u : List α} {i j k : ℕ}

/-- The index of the first suffix of a list that satisfies `p`; the empty suffix is not tried. -/
def firstMatch (p : List α → Bool) : List α → Option ℕ
  | [] => none
  | a :: l => if p (a :: l) then some 0 else (firstMatch p l).map (· + 1)

/-! ### What an answer means -/

theorem firstMatch_eq_some_iff :
    firstMatch p l = some i ↔
      i < l.length ∧ p (l.drop i) = true ∧ ∀ j < i, p (l.drop j) = false := by
  induction l generalizing i with
  | nil => simp [firstMatch]
  | cons a l ih =>
    by_cases hp : p (a :: l) = true
    · rw [firstMatch, if_pos hp]
      constructor
      · rintro h
        obtain rfl : 0 = i := Option.some.inj h
        exact ⟨by simp, hp, by simp⟩
      · rintro ⟨-, -, hfirst⟩
        rcases Nat.eq_zero_or_pos i with rfl | hi
        · rfl
        · exact absurd (hfirst 0 hi) (by simp [hp])
    · rw [firstMatch, if_neg hp]
      cases i with
      | zero => simp [hp]
      | succ i =>
        have hmap : (firstMatch p l).map (· + 1) = some (i + 1) ↔ firstMatch p l = some i := by
          cases firstMatch p l <;> simp
        rw [hmap, ih]
        constructor
        · rintro ⟨hlt, hi, hfirst⟩
          refine ⟨by simpa using hlt, hi, fun j hj => ?_⟩
          cases j with
          | zero => simpa using hp
          | succ j => exact hfirst j (by omega)
        · rintro ⟨hlt, hi, hfirst⟩
          exact ⟨by simpa using hlt, hi, fun j hj => hfirst (j + 1) (by omega)⟩

theorem firstMatch_eq_none_iff :
    firstMatch p l = none ↔ ∀ i < l.length, p (l.drop i) = false := by
  induction l with
  | nil => simp [firstMatch]
  | cons a l ih =>
    by_cases hp : p (a :: l) = true
    · rw [firstMatch, if_pos hp]
      refine ⟨fun h => by simp at h, fun h => ?_⟩
      exact absurd (h 0 (by simp)) (by simp [hp])
    · rw [firstMatch, if_neg hp, Option.map_eq_none_iff, ih]
      constructor
      · intro h i hi
        cases i with
        | zero => simpa using hp
        | succ i => exact h i (by simpa using hi)
      · intro h i hi
        exact h (i + 1) (by simpa using hi)

theorem firstMatch_lt (h : firstMatch p l = some i) : i < l.length :=
  (firstMatch_eq_some_iff.mp h).1

theorem firstMatch_holds (h : firstMatch p l = some i) : p (l.drop i) = true :=
  (firstMatch_eq_some_iff.mp h).2.1

theorem firstMatch_first (h : firstMatch p l = some i) (hj : j < i) : p (l.drop j) = false :=
  (firstMatch_eq_some_iff.mp h).2.2 j hj

theorem firstMatch_eq_zero_iff (hl : l ≠ []) : firstMatch p l = some 0 ↔ p l = true := by
  rw [firstMatch_eq_some_iff]
  simp [List.length_pos_iff.mpr hl]

/-- A match is not missed: the first one is no later than any given one. -/
theorem firstMatch_le (hi : i < l.length) (hp : p (l.drop i) = true) :
    ∃ j ≤ i, firstMatch p l = some j := by
  cases h : firstMatch p l with
  | none => exact absurd (firstMatch_eq_none_iff.mp h i hi) (by simp [hp])
  | some j =>
    refine ⟨j, ?_, rfl⟩
    by_contra hlt
    exact absurd (firstMatch_first h (Nat.lt_of_not_le hlt)) (by simp [hp])

/-! ### Starting the search later -/

/-- **The search may skip any stretch in which nothing matches.** -/
theorem firstMatch_of_quiet (hk : k ≤ l.length) (hquiet : ∀ j < k, p (l.drop j) = false) :
    firstMatch p l = (firstMatch p (l.drop k)).map (· + k) := by
  induction k generalizing l with
  | zero => simp
  | succ k ih =>
    cases l with
    | nil => simp at hk
    | cons a l =>
      have hhead : p (a :: l) = false := by simpa using hquiet 0 (Nat.succ_pos k)
      have hrest : firstMatch p l = (firstMatch p (l.drop k)).map (· + k) :=
        ih (by simpa using hk) fun j hj => hquiet (j + 1) (by omega)
      rw [firstMatch, hhead, if_neg Bool.false_ne_true, hrest, List.drop_succ_cons, Option.map_map]
      rfl

theorem firstMatch_drop (h : firstMatch p l = some i) (hk : k ≤ i) :
    firstMatch p (l.drop k) = some (i - k) := by
  have hlt := firstMatch_lt h
  have := firstMatch_of_quiet (p := p) (by omega : k ≤ l.length)
    fun j hj => firstMatch_first h (by omega)
  rw [h] at this
  cases hd : firstMatch p (l.drop k) with
  | none => simp [hd] at this
  | some m =>
    have hm : i = m + k := by simpa [hd] using this
    rw [hm, Nat.add_sub_cancel]

theorem firstMatch_drop_none (h : firstMatch p l = none) (k : ℕ) :
    firstMatch p (l.drop k) = none := by
  rw [firstMatch_eq_none_iff] at h ⊢
  intro i hi
  rw [List.drop_drop]
  exact h (k + i) (by simp at hi; omega)

/-! ### Windows -/

/-- `p` looks at the first `k` elements: a match needs that many, and given that many, what
follows them is irrelevant. -/
structure IsWindow (k : ℕ) (p : List α → Bool) : Prop where
  /-- The window is not empty. -/
  pos : 0 < k
  /-- A match is at least as long as the window. -/
  le_length : ∀ {l : List α}, p l = true → k ≤ l.length
  /-- Elements after the window do not matter. -/
  append : ∀ {l : List α} (u : List α), k ≤ l.length → p (l ++ u) = p l

theorem IsWindow.add_le (hp : IsWindow k p) (h : firstMatch p l = some i) :
    i + k ≤ l.length := by
  have hle := hp.le_length (firstMatch_holds h)
  have hlt := firstMatch_lt h
  rw [List.length_drop] at hle
  omega

/-- The search as a loop over the places where the window fits. -/
theorem IsWindow.firstMatch_eq_find? (hp : IsWindow k p) (l : List α) :
    firstMatch p l =
      if l.length < k then none
      else (List.range (l.length - k + 1)).find? fun i => p (l.drop i) := by
  have hpos := hp.pos
  cases h : firstMatch p l with
  | none =>
    rw [firstMatch_eq_none_iff] at h
    split
    · rfl
    · refine (List.find?_range_eq_none.mpr fun i hi => ?_).symm
      simp [h i (by omega)]
  | some i =>
    have hle := hp.add_le h
    rw [if_neg (by omega)]
    refine (List.find?_range_eq_some.mpr ⟨firstMatch_holds h, ?_, fun j hj => ?_⟩).symm
    · rw [List.mem_range]
      omega
    · simp [firstMatch_first h hj]

/-- **An answer found on a prefix is final.** -/
theorem IsWindow.firstMatch_append (hp : IsWindow k p) (h : firstMatch p l = some i)
    (u : List α) : firstMatch p (l ++ u) = some i := by
  have hle := hp.add_le h
  have hdrop : ∀ j ≤ i, p ((l ++ u).drop j) = p (l.drop j) := by
    intro j hj
    rw [List.drop_append_of_le_length (by omega)]
    exact hp.append u (by rw [List.length_drop]; omega)
  refine firstMatch_eq_some_iff.mpr ⟨?_, ?_, fun j hj => ?_⟩
  · rw [List.length_append]
    have := hp.pos
    omega
  · rw [hdrop i (Nat.le_refl i)]
    exact firstMatch_holds h
  · rw [hdrop j (Nat.le_of_lt hj)]
    exact firstMatch_first h hj

/-- An answer that fits inside a prefix is found there. -/
theorem IsWindow.firstMatch_of_append (hp : IsWindow k p) (h : firstMatch p (l ++ u) = some i)
    (hle : i + k ≤ l.length) : firstMatch p l = some i := by
  have hdrop : ∀ j ≤ i, p ((l ++ u).drop j) = p (l.drop j) := by
    intro j hj
    rw [List.drop_append_of_le_length (by omega)]
    exact hp.append u (by rw [List.length_drop]; omega)
  have hpos := hp.pos
  refine firstMatch_eq_some_iff.mpr ⟨by omega, ?_, fun j hj => ?_⟩
  · rw [← hdrop i (Nat.le_refl i)]
    exact firstMatch_holds h
  · rw [← hdrop j (Nat.le_of_lt hj)]
    exact firstMatch_first h hj

/-- **An answer missed on a prefix reaches past its end.** -/
theorem IsWindow.length_lt_of_append (hp : IsWindow k p) (hnone : firstMatch p l = none)
    (h : firstMatch p (l ++ u) = some i) : l.length < i + k := by
  by_contra hle
  rw [hp.firstMatch_of_append h (Nat.le_of_not_lt hle)] at hnone
  exact absurd hnone (by simp)

theorem IsWindow.firstMatch_none_of_append (hp : IsWindow k p)
    (h : firstMatch p (l ++ u) = none) : firstMatch p l = none := by
  cases hl : firstMatch p l with
  | none => rfl
  | some i => rw [hp.firstMatch_append hl] at h; exact h

end FirstMatch
