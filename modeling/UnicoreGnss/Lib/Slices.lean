import UnicoreGnss.Lib.Checked
import Mathlib.Data.List.DropRight

/-!
# Reading a text by positions

Code in a language without bounds checks looks at a text through positions: it moves one of them
while the token there has a property, and cuts out what lies between two of them. Here every such
look is a `Checked` operation, and a slice has to lie within the text with its whole length.

The loops are compared with the functions on lists that say what they are for. That a loop is equal
to such a function means that none of its looks lies outside the text.

## Main definitions

* `Slices.slice` — the tokens from a position on, so many of them
* `Slices.skipFront`, `Slices.skipBack` — loops that move the ends of a text towards each other
* `Slices.splitFrom` — the loop that cuts a text at a separator

## Main results

* `Slices.stripped_eq` — moving both ends drops what has the property from both ends
* `Slices.splitFrom_zero` — the loop cuts the whole text as `List.splitOn` does
-/

namespace Slices

open Checked

variable {τ : Type}

/-- The `count` tokens from `pos` on. All of them have to be there. -/
def slice (text : List τ) (pos count : ℕ) : Checked (List τ) :=
  if pos + count ≤ text.length then value ((text.drop pos).take count) else outside

theorem slice_of_le {text : List τ} {pos count : ℕ} (h : pos + count ≤ text.length) :
    slice text pos count = value ((text.drop pos).take count) :=
  if_pos h

/-- A piece is cut out where it stands. -/
theorem slice_append (front piece back : List τ) :
    slice (front ++ piece ++ back) front.length piece.length = value piece := by
  have hle : front.length + piece.length ≤ (front ++ piece ++ back).length := by
    simp only [List.length_append]
    omega
  rw [slice_of_le hle, List.append_assoc, List.drop_left, List.take_left]

/-! ### Moving the ends -/

section Ends

variable (p : τ → Bool)

/-- `while (start < end && p(text[start])) ++start;` with so many tokens between the two. -/
def skipFront (text : List τ) : ℕ → ℕ → Checked ℕ
  | 0, start => value start
  | n + 1, start => do
    let c ← get text start
    if p c then skipFront text n (start + 1) else return start

/-- `while (end > start && p(text[end - 1])) --end;` with so many tokens between the two. The
result is how many are left. -/
def skipBack (text : List τ) (start : ℕ) : ℕ → Checked ℕ
  | 0 => value 0
  | n + 1 => do
    let c ← get text (start + n)
    if p c then skipBack text start n else return n + 1

/-- What is left between the ends after both loops. -/
def stripped (text : List τ) : Checked (List τ) := do
  let start ← skipFront p text text.length 0
  let n ← skipBack p text start (text.length - start)
  slice text start n

/-- The front stops behind the tokens that have the property. -/
theorem skipFront_append (front rest : List τ) :
    skipFront p (front ++ rest) rest.length front.length =
      value (front.length + (rest.takeWhile p).length) := by
  induction rest generalizing front with
  | nil => rfl
  | cons c rest ih =>
    have hget : get (front ++ c :: rest) front.length = value c := get_of_getElem? (by simp)
    have hrest := ih (front ++ [c])
    rw [List.length_append, List.length_singleton, List.append_assoc, List.singleton_append]
      at hrest
    rw [List.length_cons, skipFront, hget, value_bind]
    by_cases hc : p c
    · rw [if_pos hc, hrest, List.takeWhile_cons_of_pos hc, List.length_cons]
      congr 1
      omega
    · rw [if_neg hc, List.takeWhile_cons_of_neg hc]
      rfl

/-- The back stops in front of the tokens that have the property. -/
theorem skipBack_append (front l back : List τ) :
    skipBack p (front ++ l ++ back) front.length l.length =
      value (l.rdropWhile p).length := by
  induction l using List.reverseRecOn generalizing back with
  | nil => rfl
  | append_singleton l c ih =>
    have hget : get (front ++ (l ++ [c]) ++ back) (front.length + l.length) = value c :=
      get_append front back List.getElem?_concat_length
    have hrest := ih (c :: back)
    rw [List.length_append, List.length_singleton, skipBack, hget, value_bind]
    by_cases hc : p c
    · rw [if_pos hc, List.rdropWhile_concat_pos p l c hc, ← hrest]
      simp
    · rw [if_neg hc, List.rdropWhile_concat_neg p l c hc, List.length_append]
      rfl

/-- **Moving both ends** drops what has the property from both ends. -/
theorem stripped_eq (text : List τ) :
    stripped p text = value ((text.dropWhile p).rdropWhile p) := by
  have hsplit : text = text.takeWhile p ++ text.dropWhile p := List.takeWhile_append_dropWhile.symm
  have hfront := skipFront_append p [] text
  have hback := skipBack_append p (text.takeWhile p) (text.dropWhile p) []
  obtain ⟨back, hrest⟩ := List.rdropWhile_prefix p (text.dropWhile p)
  have hslice := slice_append (text.takeWhile p) ((text.dropWhile p).rdropWhile p) back
  have hlen : text.length - (text.takeWhile p).length = (text.dropWhile p).length := by
    have h := congrArg List.length hsplit
    rw [List.length_append] at h
    omega
  rw [List.append_nil, ← hsplit] at hback
  rw [List.append_assoc, hrest, ← hsplit] at hslice
  rw [List.nil_append, List.length_nil, Nat.zero_add] at hfront
  rw [stripped, hfront, value_bind, hlen, hback, value_bind, hslice]

end Ends

/-! ### Looking for a token -/

section Separator

variable [BEq τ] [LawfulBEq τ] (sep : τ)

/-- The first separator stands behind what contains none. -/
theorem idxOf?_append_cons {piece : List τ} (h : sep ∉ piece) (back : List τ) :
    (piece ++ sep :: back).idxOf? sep = some piece.length := by
  rw [List.idxOf?_eq_some_iff]
  refine ⟨by simp, by simp, fun j hj heq => h ?_⟩
  rw [List.getElem_append_left hj] at heq
  exact heq ▸ List.getElem_mem hj

/-- The loop that looks for a separator from a position on, cuts out what stands before it, and
goes on behind it. -/
def splitFrom (text : List τ) (start : ℕ) : Checked (List (List τ)) :=
  if start ≤ text.length then
    ((text.drop start).idxOf? sep).elim
      (do return [← slice text start (text.length - start)])
      fun n => do
        let piece ← slice text start n
        let pieces ← splitFrom text (start + n + 1)
        return piece :: pieces
  else return []
termination_by text.length + 1 - start

/-- From a position on, the loop cuts what is still to come. -/
theorem splitFrom_append (front rest : List τ) :
    splitFrom sep (front ++ rest) front.length = value (rest.splitOn sep) := by
  induction hlen : rest.length using Nat.strong_induction_on generalizing front rest with
  | _ k ih =>
    rw [splitFrom, if_pos (by simp), List.drop_left]
    by_cases hsep : sep ∈ rest
    · obtain ⟨piece, back, rfl, hpiece⟩ := List.eq_append_cons_of_mem hsep
      have hslice := slice_append front piece (sep :: back)
      have hless : back.length < k := by
        simp only [← hlen, List.length_append, List.length_cons]
        omega
      have hback := ih back.length hless (front ++ piece ++ [sep]) back rfl
      simp only [List.append_assoc, List.singleton_append, List.length_append,
        List.length_singleton, ← Nat.add_assoc] at hslice hback
      rw [idxOf?_append_cons sep hpiece, Option.elim_some, hslice, value_bind, hback, value_bind,
        List.splitOn_append_cons_self_of_not_mem hpiece]
      rfl
    · have hslice := slice_append front rest []
      have hleft : (front ++ rest).length - front.length = rest.length := by simp
      rw [List.append_nil] at hslice
      rw [List.idxOf?_eq_none_iff.mpr hsep, Option.elim_none, hleft, hslice, value_bind,
        List.splitOn_eq_singleton hsep]
      rfl

/-- **The loop** cuts the whole text at its separators. -/
theorem splitFrom_zero (text : List τ) : splitFrom sep text 0 = value (text.splitOn sep) :=
  splitFrom_append sep [] text

end Separator

end Slices
