import Mathlib.Data.List.Induction

/-!
# Code that refuses and code that strays

`Checked α` is the result of a function that reads a list by index: it hands out a value, or it
refuses its input, or an index lay outside the list. The last outcome is what a language without
bounds checks leaves undefined. Keeping it apart from a refusal makes it possible to say that it
never happens.

## Main definitions

* `Checked.get` — reading a list by index
* `Checked.forRange`, `Checked.foldRange` — a counting loop that collects what its body hands out
  or that changes a state

## Main results

* `Checked.forRange_of_getElem?`, `Checked.forRange_map` — a loop whose body always hands out
* `Checked.foldRange_of_getElem?` — a loop whose body always goes on
* `Checked.inside_bind_iff`, `Checked.Inside.forRange` — when no read of a chain or of a loop lies
  outside the list
-/

universe u v

/-- A value, a refusal, or a read outside the data. -/
inductive Checked (α : Type u) where
  | value (a : α)
  | refused
  | outside
  deriving DecidableEq, Repr

namespace Checked

variable {α : Type u} {β : Type v}

/-- Refusals and reads outside the data end the computation. -/
protected def bind (x : Checked α) (f : α → Checked β) : Checked β :=
  match x with
  | value a => f a
  | refused => refused
  | outside => outside

instance : Monad Checked where
  pure := value
  bind := Checked.bind

/-- What is missing is refused. -/
def ofOption : Option α → Checked α
  | some a => value a
  | none => refused

/-- The value, where there is one. -/
def toOption : Checked α → Option α
  | value a => some a
  | refused => none
  | outside => none

/-- A refusal becomes an answer. -/
def attempt : Checked α → Checked (Option α)
  | value a => value (some a)
  | refused => value none
  | outside => outside

/-- Go on if the condition holds. -/
def require (p : Prop) [Decidable p] : Checked PUnit := if p then value ⟨⟩ else refused

/-- Element `i` of a list. -/
def get (l : List α) (i : ℕ) : Checked α :=
  match l[i]? with
  | some a => value a
  | none => outside

/-- `for (i = 0; i < n; ++i)`, collecting the results of the body. -/
def forRange (body : ℕ → Checked β) (n : ℕ) : Checked (List β) := (List.range n).mapM body

/-- `for i in range(n)`, where the body changes a state. -/
def foldRange (body : β → ℕ → Checked β) (n : ℕ) (s : β) : Checked β :=
  (List.range n).foldlM body s

/-! ### The outcomes in a chain -/

@[simp] theorem pure_eq (a : α) : (pure a : Checked α) = value a := rfl

@[simp] theorem value_bind {α β : Type u} (a : α) (f : α → Checked β) : value a >>= f = f a := rfl

@[simp] theorem refused_bind {α β : Type u} (f : α → Checked β) :
    (refused : Checked α) >>= f = refused := rfl

@[simp] theorem outside_bind {α β : Type u} (f : α → Checked β) :
    (outside : Checked α) >>= f = outside := rfl

@[simp] theorem ofOption_some (a : α) : ofOption (some a) = value a := rfl

@[simp] theorem ofOption_none : ofOption (none : Option α) = refused := rfl

@[simp] theorem toOption_value (a : α) : toOption (value a) = some a := rfl

@[simp] theorem toOption_refused : toOption (refused : Checked α) = none := rfl

theorem toOption_eq_some_iff {x : Checked α} {a : α} : x.toOption = some a ↔ x = value a := by
  cases x <;> simp [toOption]

@[simp] theorem require_true {p : Prop} [Decidable p] (h : p) : require p = value ⟨⟩ := if_pos h

@[simp] theorem require_false {p : Prop} [Decidable p] (h : ¬ p) : require p = refused := if_neg h

@[simp] theorem require_eq_value {p : Prop} [Decidable p] {a : PUnit} :
    require p = value a ↔ p := by
  by_cases h : p <;> simp [require, h]

theorem bind_eq_value {α β : Type u} {x : Checked α} {f : α → Checked β} {b : β} :
    x >>= f = value b ↔ ∃ a, x = value a ∧ f a = value b := by
  cases x <;> simp

theorem ofOption_eq_value {o : Option α} {a : α} : ofOption o = value a ↔ o = some a := by
  cases o <;> simp [ofOption]

theorem ofOption_bind_eq_value {α β : Type u} {o : Option α} {f : α → Checked β} {b : β} :
    ofOption o >>= f = value b ↔ ∃ a, o = some a ∧ f a = value b := by
  cases o <;> simp

theorem ofOption_bind_eq_refused {α β : Type u} {o : Option α} {f : α → Checked β}
    (h : ∀ a, o = some a → f a = refused) : ofOption o >>= f = refused := by
  cases o with
  | none => rfl
  | some a => exact h a rfl

/-! ### What holds of every value -/

/-- Whatever value comes out has the property. -/
def Ensures (P : α → Prop) : Checked α → Prop
  | value a => P a
  | refused => True
  | outside => True

theorem ensures_iff {P : α → Prop} {x : Checked α} : Ensures P x ↔ ∀ a, x = value a → P a := by
  cases x <;> simp [Ensures]

/-- A chain ensures what its last link ensures of the values of the first one. -/
theorem Ensures.bind_of_value {α β : Type u} {P : β → Prop} {x : Checked α} {f : α → Checked β}
    (h : ∀ a, x = value a → Ensures P (f a)) : Ensures P (x >>= f) := by
  cases x with
  | value a => exact h a rfl
  | refused => trivial
  | outside => trivial

/-- A chain ensures what its last link ensures. -/
theorem Ensures.bind {α β : Type u} {P : β → Prop} {x : Checked α} {f : α → Checked β}
    (h : ∀ a, Ensures P (f a)) : Ensures P (x >>= f) :=
  Ensures.bind_of_value fun a _ => h a

instance : LawfulMonad Checked :=
  LawfulMonad.mk' Checked
    (fun x => by cases x <;> rfl) (fun _ _ => rfl) (fun x _ _ => by cases x <;> rfl)

/-! ### Reads inside the data -/

/-- No read lay outside the data. -/
def Inside : Checked α → Prop
  | value _ => True
  | refused => True
  | outside => False

instance (x : Checked α) : Decidable (Inside x) :=
  match x with
  | value _ => isTrue trivial
  | refused => isTrue trivial
  | outside => isFalse id

theorem inside_iff_ne {x : Checked α} : Inside x ↔ x ≠ outside := by
  cases x <;> simp [Inside]

@[simp] theorem inside_value (a : α) : Inside (value a) := trivial

@[simp] theorem inside_refused : Inside (refused : Checked α) := trivial

@[simp] theorem inside_ofOption (o : Option α) : Inside (ofOption o) := by
  cases o <;> trivial

@[simp] theorem inside_require (p : Prop) [Decidable p] : Inside (require p) := by
  by_cases h : p <;> simp [h]

/-- **A read by index** lies inside the list exactly if the index does. -/
theorem inside_get_iff {l : List α} {i : ℕ} : Inside (get l i) ↔ i < l.length := by
  rcases Nat.lt_or_ge i l.length with h | h
  · simp [get, h]
  · simp [get, Nat.not_lt.mpr h, Inside]

theorem inside_get {l : List α} {i : ℕ} (h : i < l.length) : Inside (get l i) :=
  inside_get_iff.mpr h

/-- **A chain** stays inside if its first link does and, after each value of the first link, the
rest of the chain. -/
theorem inside_bind_iff {α β : Type u} {x : Checked α} {f : α → Checked β} :
    Inside (x >>= f) ↔ Inside x ∧ ∀ a, x = value a → Inside (f a) := by
  cases x <;> simp [Inside]

theorem Inside.bind {α β : Type u} {x : Checked α} {f : α → Checked β} (hx : Inside x)
    (hf : ∀ a, Inside (f a)) : Inside (x >>= f) :=
  inside_bind_iff.mpr ⟨hx, fun a _ => hf a⟩

/-- What comes behind a test may use what has been tested. -/
theorem inside_require_bind {β : Type} {p : Prop} [Decidable p] {f : PUnit → Checked β}
    (h : p → Inside (f ⟨⟩)) : Inside (require p >>= f) := by
  by_cases hp : p
  · simpa [hp] using h hp
  · simp [hp]

/-- Where no read lies outside, there is an answer. -/
theorem Inside.exists_attempt {x : Checked α} (h : Inside x) : ∃ o, attempt x = value o := by
  cases x with
  | value a => exact ⟨some a, rfl⟩
  | refused => exact ⟨none, rfl⟩
  | outside => exact h.elim

/-! ### Reading by index -/

theorem get_of_getElem? {l : List α} {i : ℕ} {a : α} (h : l[i]? = some a) :
    get l i = value a := by
  rw [get, h]

theorem getElem?_of_get {l : List α} {i : ℕ} {a : α} (h : get l i = value a) :
    l[i]? = some a := by
  rw [get] at h
  split at h
  · rename_i hread
    rw [hread, value.inj h]
  · cases h

/-- An element of a piece is read where the piece stands. -/
theorem get_append (front back : List α) {piece : List α} {i : ℕ} {a : α} (h : piece[i]? = some a) :
    get (front ++ piece ++ back) (front.length + i) = value a := by
  apply get_of_getElem?
  rw [List.append_assoc, List.getElem?_append_right (Nat.le_add_right _ _),
    Nat.add_sub_cancel_left, List.getElem?_append_left (List.getElem?_eq_some_iff.mp h).1, h]

/-! ### Counting loops -/

/-- **A loop whose body always hands out** collects what it hands out. -/
theorem forRange_of_getElem? {β : Type u} {body : ℕ → Checked β} {l : List β}
    (h : ∀ i b, l[i]? = some b → body i = value b) : forRange body l.length = value l := by
  induction l using List.reverseRecOn with
  | nil => rfl
  | append_singleton l b ih =>
    have hinit : (List.range l.length).mapM body = value l := by
      refine ih fun i c hc => h i c ?_
      rw [List.getElem?_append_left (List.getElem?_eq_some_iff.mp hc).1, hc]
    have hlast : body l.length = value b := h l.length b List.getElem?_concat_length
    rw [forRange, List.length_append, List.length_singleton, List.range_succ, List.mapM_append,
      hinit]
    simp [hlast]

/-- What a loop has collected is what its body has handed out. -/
theorem getElem?_of_forRange {β : Type u} {body : ℕ → Checked β} {n : ℕ} {l : List β}
    (h : forRange body n = value l) :
    l.length = n ∧ ∀ i b, l[i]? = some b → body i = value b := by
  induction n generalizing l with
  | zero =>
    obtain rfl : [] = l := value.inj h
    exact ⟨rfl, fun i b hb => nomatch hb⟩
  | succ n ih =>
    rw [forRange, List.range_succ, List.mapM_append, bind_eq_value] at h
    obtain ⟨init, hinit, h⟩ := h
    obtain ⟨hlen, hbody⟩ := ih hinit
    rw [bind_eq_value] at h
    obtain ⟨last, hlast, h⟩ := h
    obtain rfl : init ++ last = l := value.inj h
    rw [List.mapM_cons, bind_eq_value] at hlast
    obtain ⟨b', hb', hlast⟩ := hlast
    obtain rfl : [b'] = last := value.inj hlast
    refine ⟨by rw [List.length_append, hlen]; rfl, fun i b hb => ?_⟩
    rcases Nat.lt_or_ge i init.length with hi | hi
    · rw [List.getElem?_append_left hi] at hb
      exact hbody i b hb
    · rw [List.getElem?_append_right hi, List.getElem?_singleton] at hb
      split at hb
      · obtain rfl : i = n := by omega
        rw [hb', Option.some.inj hb]
      · cases hb

/-- **A loop** stays inside if its body does at each position. -/
theorem Inside.forRange {β : Type u} {body : ℕ → Checked β} {n : ℕ}
    (h : ∀ i < n, Inside (body i)) : Inside (Checked.forRange body n) := by
  induction n with
  | zero => trivial
  | succ n ih =>
    have hinit : Inside (Checked.forRange body n) := ih fun i hi => h i (Nat.lt_succ_of_lt hi)
    have hlast : Inside (body n) := h n (Nat.lt_succ_self n)
    rw [Checked.forRange, List.range_succ, List.mapM_append]
    refine hinit.bind fun init => Inside.bind ?_ fun last => inside_value _
    rw [List.mapM_cons]
    exact hlast.bind fun b => inside_value _

/-- The same for a loop over the positions of a list. -/
theorem forRange_map {α : Type} {β : Type u} {body : ℕ → Checked β} {f : α → β} (l : List α)
    (h : ∀ i a, l[i]? = some a → body i = value (f a)) :
    forRange body l.length = value (l.map f) := by
  have hloop : forRange body (l.map f).length = value (l.map f) := by
    refine forRange_of_getElem? fun i b hb => ?_
    rw [List.getElem?_map, Option.map_eq_some_iff] at hb
    obtain ⟨a, ha, rfl⟩ := hb
    exact h i a ha
  rwa [List.length_map] at hloop

/-- The same for a loop over numbers. -/
theorem forRange_of_lt {β : Type u} {body : ℕ → Checked β} {f : ℕ → β} {n : ℕ}
    (h : ∀ i < n, body i = value (f i)) : forRange body n = value ((List.range n).map f) := by
  have hloop : forRange body ((List.range n).map f).length = value ((List.range n).map f) := by
    refine forRange_of_getElem? fun i b hb => ?_
    obtain ⟨hi, rfl⟩ := List.getElem?_eq_some_iff.mp hb
    rw [List.length_map, List.length_range] at hi
    rw [List.getElem_map, List.getElem_range, h i hi]
  rwa [List.length_map, List.length_range] at hloop

/-- **A loop whose body always goes on** changes the state once for each position. -/
theorem foldRange_of_getElem? {α : Type} {β : Type u} {body : β → ℕ → Checked β}
    {change : β → α → β} {l : List α}
    (h : ∀ s i a, l[i]? = some a → body s i = value (change s a)) (s : β) :
    foldRange body l.length s = value (l.foldl change s) := by
  induction l using List.reverseRecOn with
  | nil => rfl
  | append_singleton l a ih =>
    have hinit : (List.range l.length).foldlM body s = value (l.foldl change s) := by
      refine ih fun s i b hb => h s i b ?_
      rw [List.getElem?_append_left (List.getElem?_eq_some_iff.mp hb).1, hb]
    have hlast : body (l.foldl change s) l.length = value (change (l.foldl change s) a) :=
      h _ l.length a List.getElem?_concat_length
    rw [foldRange, List.length_append, List.length_singleton, List.range_succ, List.foldlM_append,
      hinit, value_bind, List.foldlM_cons, hlast, List.foldl_append]
    rfl

end Checked
