import UnicoreGnss.Lib.Checked
import Mathlib.Data.List.Forall2

/-!
# Reading items one after another

A reader of items looks at a list of tokens from a cursor on and hands out an item together with
the cursor behind it. `readMany` reads a number of items, each from where the previous one ended.

What the encoding of an item has to do with its reader is `Reads`: inside any surroundings the
encoding is read as the item and the cursor comes to stand behind it, and an input that ends inside
the encoding is refused. Both carry over to sequences of items.

A reader may also change what has been gathered so far instead of handing out an item. `Gathers`
says that an encoding makes it change that in a given way, and carries over as well.

## Main results

* `Reads.readMany`, `Reads.readMany_map` — the encodings of items in a row are read as these items
* `Gathers.gatherMany` — the encodings of items in a row are gathered one after another
* `exists_split_flatMap` — where the records of one size stand
* `inside_readMany` — items in a row are read inside the input if each of them is
-/

universe u

namespace Cursor

open Checked

variable {τ : Type} {β : Type}

/-- A reader of items. -/
abbrev ItemReader (τ β : Type) := List τ → ℕ → Checked (β × ℕ)

/-- `n` items, each read from where the previous one ended. -/
def readMany (read : ItemReader τ β) : ℕ → ItemReader τ (List β)
  | 0, _, cursor => value ([], cursor)
  | n + 1, input, cursor => do
    let (item, cursor) ← read input cursor
    let (items, cursor) ← readMany read n input cursor
    return (item :: items, cursor)

/-- The tokens `code` are an encoding of `item` for this reader. -/
structure Reads (read : ItemReader τ β) (code : List τ) (item : β) : Prop where
  /-- In any surroundings the encoding is read. -/
  whole : ∀ front back,
    read (front ++ code ++ back) front.length = value (item, (front ++ code).length)
  /-- An input that ends inside the encoding is refused. -/
  cut : ∀ front part, part <+: code → part ≠ code → read (front ++ part) front.length = refused

variable {read : ItemReader τ β}

/-- **A reader that stays inside** its input, wherever it starts, still does so when it reads items
in a row. -/
theorem inside_readMany {input : List τ} (h : ∀ cursor, Inside (read input cursor)) (n cursor : ℕ) :
    Inside (readMany read n input cursor) := by
  induction n generalizing cursor with
  | zero => trivial
  | succ n ih => exact (h cursor).bind fun item => (ih item.2).bind fun items => inside_value _

/-- What begins two strings in a row either ends inside the first or goes through it. -/
theorem prefix_append_cases {part a b : List τ} (h : part <+: a ++ b) :
    part <+: a ∧ part ≠ a ∨ ∃ part', part = a ++ part' ∧ part' <+: b := by
  rcases List.prefix_or_prefix_of_prefix h (List.prefix_append a b) with h' | ⟨part', rfl⟩
  · by_cases heq : part = a
    · exact .inr ⟨[], by simpa using heq, List.nil_prefix⟩
    · exact .inl ⟨h', heq⟩
  · exact .inr ⟨part', rfl, (List.prefix_append_right_inj a).mp h⟩

/-- **Encodings in a row** are read as the items in a row. -/
theorem Reads.readMany {codes : List (List τ)} {items : List β}
    (h : List.Forall₂ (Reads read) codes items) :
    Reads (Cursor.readMany read items.length) codes.flatten items := by
  induction h with
  | nil =>
    refine ⟨fun front back => ?_, fun front part hpart hne => ?_⟩
    · simp [Cursor.readMany]
    · exact absurd (List.prefix_nil.mp hpart) hne
  | @cons code item codes items hread _ ih =>
    refine ⟨fun front back => ?_, fun front part hpart hne => ?_⟩
    · have hfirst := hread.whole front (codes.flatten ++ back)
      have hrest := ih.whole (front ++ code) back
      simp only [List.append_assoc, List.length_append] at hfirst hrest
      simp [Cursor.readMany, hfirst, hrest]
    · rw [List.flatten_cons] at hpart hne
      rcases prefix_append_cases hpart with ⟨hcut, hcut'⟩ | ⟨part', rfl, hpart'⟩
      · simp [Cursor.readMany, hread.cut front part hcut hcut']
      · have hfirst := hread.whole front part'
        have hrest := ih.cut (front ++ code) part' hpart' (by simpa using hne)
        simp only [List.append_assoc, List.length_append] at hfirst hrest
        simp [Cursor.readMany, hfirst, hrest]

/-- The same for items that are encoded one by one. -/
theorem Reads.readMany_map {α : Type} {code : α → List τ} {item : α → β}
    (h : ∀ a, Reads read (code a) (item a)) (l : List α) :
    Reads (Cursor.readMany read l.length) (l.map code).flatten (l.map item) := by
  have hmany : Reads (Cursor.readMany read (l.map item).length) (l.map code).flatten
      (l.map item) := by
    refine Reads.readMany ?_
    rw [List.forall₂_map_left_iff, List.forall₂_map_right_iff, List.forall₂_same]
    exact fun a _ => h a
  rwa [List.length_map] at hmany

/-! ### Gathering -/

section Gathering

variable {σ : Type}

/-- A reader that changes what has been gathered so far. -/
abbrev Gatherer (τ σ : Type) := σ → ItemReader τ σ

/-- `n` items, each read from where the previous one ended. -/
def gatherMany (read : Gatherer τ σ) : ℕ → Gatherer τ σ
  | 0, s, _, cursor => value (s, cursor)
  | n + 1, s, input, cursor => do
    let (s, cursor) ← read s input cursor
    gatherMany read n s input cursor

/-- In any surroundings the tokens `code` make the reader change what has been gathered so far in
this way. -/
def Gathers (read : Gatherer τ σ) (code : List τ) (change : σ → σ) : Prop :=
  ∀ s front back,
    read s (front ++ code ++ back) front.length = value (change s, (front ++ code).length)

/-- **Encodings in a row** are gathered one after another. -/
theorem Gathers.gatherMany {α : Type} {gather : Gatherer τ σ} {code : α → List τ}
    {change : σ → α → σ} (h : ∀ a, Gathers gather (code a) fun s => change s a) (l : List α) :
    Gathers (Cursor.gatherMany gather l.length) (l.map code).flatten fun s => l.foldl change s := by
  induction l with
  | nil =>
    intro s front back
    simp [Cursor.gatherMany]
  | cons a l ih =>
    intro s front back
    have hfirst := h a s front ((l.map code).flatten ++ back)
    have hrest := ih (change s a) (front ++ code a) back
    simp only [List.append_assoc, List.length_append] at hfirst hrest
    simp [Cursor.gatherMany, hfirst, hrest]

end Gathering

/-- **Records of one size** stand at the multiples of that size. -/
theorem exists_split_flatMap {α : Type} (f : α → List τ) (size : ℕ) (hf : ∀ a, (f a).length = size)
    {l : List α} {i : ℕ} {a : α} (h : l[i]? = some a) :
    ∃ front back, l.flatMap f = front ++ f a ++ back ∧ front.length = i * size := by
  have hlen : ∀ l' : List α, (l'.flatMap f).length = l'.length * size := by
    intro l'
    simp only [List.length_flatMap, hf, List.map_const', List.sum_replicate_nat]
  obtain ⟨hi, rfl⟩ := List.getElem?_eq_some_iff.mp h
  refine ⟨(l.take i).flatMap f, (l.drop (i + 1)).flatMap f, ?_, ?_⟩
  · conv_lhs => rw [← List.take_append_drop i l, List.drop_eq_getElem_cons hi]
    rw [List.flatMap_append, List.flatMap_cons, List.append_assoc]
  · rw [hlen, List.length_take, Nat.min_eq_left (Nat.le_of_lt hi)]

end Cursor
