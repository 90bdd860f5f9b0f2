import Mathlib.Data.List.GetD
import Mathlib.Logic.Function.Iterate

/-!
# Shift registers with feedback

A register of `w` bits that is shifted towards its low end: the bit that falls out decides whether
the feedback word is added. A bit string is fed in at the low end, one bit before each shift. This
is how a reflected CRC is computed, with the message as the bit string and the feedback word as the
generator, its leading coefficient left out and the others from the low end down.

Addition is exclusive or, and everything here is linear in it. So what a corrupted message does to
the register is what the error alone does to a register that starts empty, and the questions about
error detection become questions about a single bit string.

If the top bit of the feedback word is set then a shift loses nothing: it is injective. That is all
that is needed to see a burst no wider than the register: such a burst reaches the register as a
word (`feedAll_eq_iterate`), which is not `0`, and shifts do not make it `0`.

## Main definitions

* `step`, `feed`, `feedAll` — a shift, a bit, a bit string
* `pack` — a bit string as a word, first bit lowest

## Main results

* `feedAll_xor` — linearity
* `feedAll_eq_iterate` — a bit string no longer than the register
* `feedAll_burst_ne_zero` — a burst no wider than the register is seen
-/

namespace ShiftRegister

variable {w : ℕ} {poly : BitVec w}

/-- A shift of the register. -/
def step (poly s : BitVec w) : BitVec w :=
  if s.getLsbD 0 then (s >>> 1) ^^^ poly else s >>> 1

/-- A bit at the low end of a word. -/
def lowBit (w : ℕ) (b : Bool) : BitVec w := if b then 1#w else 0#w

/-- A bit is fed in. -/
def feed (poly s : BitVec w) (b : Bool) : BitVec w := step poly (s ^^^ lowBit w b)

/-- A bit string is fed in, first bit first. -/
def feedAll (poly s : BitVec w) (bits : List Bool) : BitVec w := bits.foldl (feed poly) s

/-- A bit string as a word, first bit lowest. -/
def pack (w : ℕ) : List Bool → BitVec w
  | [] => 0#w
  | b :: bs => lowBit w b ^^^ (pack w bs <<< 1)

/-- The bits of a word, lowest first. -/
def bits (s : BitVec w) : List Bool := (List.range w).map s.getLsbD

@[simp] theorem feedAll_nil (s : BitVec w) : feedAll poly s [] = s := rfl

@[simp] theorem feedAll_cons (s : BitVec w) (b : Bool) (bs : List Bool) :
    feedAll poly s (b :: bs) = feedAll poly (feed poly s b) bs := rfl

theorem feedAll_append (s : BitVec w) (bs bs' : List Bool) :
    feedAll poly s (bs ++ bs') = feedAll poly (feedAll poly s bs) bs' := List.foldl_append

@[simp] theorem length_bits (s : BitVec w) : (bits s).length = w := by simp [bits]

/-! ### A shift is linear -/

@[simp] theorem step_zero : step poly 0#w = 0#w := by simp [step]

/-- **A shift is linear.** -/
theorem step_xor (s t : BitVec w) : step poly (s ^^^ t) = step poly s ^^^ step poly t := by
  have hcancel : ∀ a b : BitVec w, a ^^^ b = (a ^^^ poly) ^^^ (b ^^^ poly) := by
    intro a b
    rw [BitVec.xor_assoc, BitVec.xor_comm b, ← BitVec.xor_assoc poly, BitVec.xor_self,
      BitVec.zero_xor]
  simp only [step, BitVec.getLsbD_xor, BitVec.ushiftRight_xor_distrib]
  cases hs : s.getLsbD 0 <;> cases ht : t.getLsbD 0
  · rfl
  · simp only [Bool.false_bne, if_true, Bool.false_eq_true, if_false]
    rw [BitVec.xor_assoc]
  · simp only [Bool.bne_false, if_true, Bool.false_eq_true, if_false]
    rw [BitVec.xor_assoc, BitVec.xor_comm (t >>> 1), ← BitVec.xor_assoc]
  · simp only [bne_self_eq_false, if_true, Bool.false_eq_true, if_false]
    exact hcancel _ _

theorem lowBit_xor (b c : Bool) : lowBit w (b ^^ c) = lowBit w b ^^^ lowBit w c := by
  cases b <;> cases c <;> simp [lowBit]

theorem feed_xor (s t : BitVec w) (b c : Bool) :
    feed poly (s ^^^ t) (b ^^ c) = feed poly s b ^^^ feed poly t c := by
  rw [feed, feed, feed, ← step_xor, lowBit_xor]
  congr 1
  ac_rfl

/-- **Feeding is linear**: an error added to the bit string changes the register by what the error
alone leaves in an empty one. -/
theorem feedAll_xor {bs cs : List Bool} (h : bs.length = cs.length) (s t : BitVec w) :
    feedAll poly (s ^^^ t) (List.zipWith xor bs cs) =
      feedAll poly s bs ^^^ feedAll poly t cs := by
  induction bs generalizing cs s t with
  | nil =>
    obtain rfl : cs = [] := List.length_eq_zero_iff.mp h.symm
    rfl
  | cons b bs ih =>
    cases cs with
    | nil => cases h
    | cons c cs =>
      rw [List.zipWith_cons_cons, feedAll_cons, feedAll_cons, feedAll_cons, feed_xor]
      exact ih (Nat.succ.inj h) _ _

/-! ### Feeding a word -/

/-- Feeding zeros is shifting. -/
theorem feedAll_quiet {bs : List Bool} (h : ∀ b ∈ bs, b = false) (s : BitVec w) :
    feedAll poly s bs = (step poly)^[bs.length] s := by
  induction bs generalizing s with
  | nil => rfl
  | cons b bs ih =>
    obtain rfl := h b List.mem_cons_self
    rw [feedAll_cons, ih fun b hb => h b (List.mem_cons_of_mem _ hb), List.length_cons,
      Function.iterate_succ_apply]
    simp [feed, lowBit]

/-- A bit string shorter than `i` has no bit `i`. -/
theorem getLsbD_pack (bs : List Bool) {i : ℕ} (hi : i < w) :
    (pack w bs).getLsbD i = bs.getD i false := by
  induction bs generalizing i with
  | nil => simp [pack]
  | cons b bs ih =>
    rw [pack, BitVec.getLsbD_xor, BitVec.getLsbD_shiftLeft]
    cases i with
    | zero => cases b <;> simp [lowBit, hi]
    | succ i =>
      have hlow : (lowBit w b).getLsbD (i + 1) = false := by
        cases b <;> simp [lowBit, BitVec.getLsbD_one]
      rw [hlow, Nat.add_sub_cancel, ih (by omega)]
      simp [hi]

theorem getD_bits (s : BitVec w) (i : ℕ) : (bits s).getD i false = s.getLsbD i := by
  rw [bits, List.getD_eq_getElem?_getD, List.getElem?_map]
  rcases Nat.lt_or_ge i w with hi | hi
  · rw [List.getElem?_range hi]
    rfl
  · rw [List.getElem?_eq_none (by simpa using hi), BitVec.getLsbD_of_ge _ _ hi]
    rfl

theorem bits_xor (s t : BitVec w) : bits (s ^^^ t) = List.zipWith xor (bits s) (bits t) := by
  simp [bits, List.zipWith_map]

/-- A word with room at its top is shifted back down. -/
theorem step_shiftLeft {s : BitVec w} (h : s.getLsbD (w - 1) = false) :
    step poly (s <<< 1) = s := by
  have hlow : (s <<< 1).getLsbD 0 = false := by simp
  rw [step, hlow, if_neg Bool.false_ne_true]
  apply BitVec.eq_of_getLsbD_eq
  intro i hi
  rw [BitVec.getLsbD_ushiftRight, BitVec.getLsbD_shiftLeft]
  rcases Nat.lt_or_ge (1 + i) w with hlt | hge
  · simp [hlt]
  · obtain rfl : i = w - 1 := by omega
    simp [h, Nat.not_lt.mpr hge]

/-- **A bit string no longer than the register** may as well be added to it at once. -/
theorem feedAll_eq_iterate {bs : List Bool} (h : bs.length ≤ w) (s : BitVec w) :
    feedAll poly s bs = (step poly)^[bs.length] (s ^^^ pack w bs) := by
  induction bs generalizing s with
  | nil => simp [pack]
  | cons b bs ih =>
    rw [List.length_cons] at h
    have hroom : (pack w bs).getLsbD (w - 1) = false := by
      rw [getLsbD_pack _ (by omega), List.getD_eq_getElem?_getD,
        List.getElem?_eq_none (by omega)]
      rfl
    have hstep : step poly (s ^^^ pack w (b :: bs)) = feed poly s b ^^^ pack w bs := by
      rw [pack, ← BitVec.xor_assoc, step_xor, step_shiftLeft hroom, feed]
    rw [feedAll_cons, ih (by omega), List.length_cons, Function.iterate_succ_apply, hstep]

theorem iterate_step_zero (n : ℕ) : (step poly)^[n] 0#w = 0#w :=
  Function.iterate_fixed step_zero n

/-! ### Bursts -/

theorem forall_mem_of_getD {bs : List Bool}
    (h : ∀ i < bs.length, bs.getD i false = false) : ∀ b ∈ bs, b = false := by
  intro b hb
  obtain ⟨i, hi, rfl⟩ := List.mem_iff_getElem.mp hb
  rw [← List.getD_eq_getElem bs false hi]
  exact h i hi

section Burst

variable (htop : poly.getLsbD (w - 1) = true)
include htop

/-- A shift does not empty the register. -/
theorem eq_zero_of_step {s : BitVec w} (h : step poly s = 0#w) : s = 0#w := by
  have hw : 0 < w := by
    by_contra hw
    rw [BitVec.getLsbD_of_ge _ _ (by omega)] at htop
    exact Bool.false_ne_true htop
  rw [step] at h
  split at h
  · -- the top bit comes from the feedback word alone
    have htop' : ((s >>> 1) ^^^ poly).getLsbD (w - 1) = true := by
      rw [BitVec.getLsbD_xor, BitVec.getLsbD_ushiftRight, BitVec.getLsbD_of_ge _ _ (by omega),
        htop]
      rfl
    rw [h, BitVec.getLsbD_zero] at htop'
    exact absurd htop' Bool.false_ne_true
  · next hlow =>
    apply BitVec.eq_of_getLsbD_eq
    intro i hi
    cases i with
    | zero => simpa using hlow
    | succ i =>
      have hbit : (s >>> 1).getLsbD i = s.getLsbD (i + 1) := by
        rw [BitVec.getLsbD_ushiftRight, Nat.add_comm]
      rw [← hbit, h, BitVec.getLsbD_zero, BitVec.getLsbD_zero]

theorem eq_zero_of_iterate_step {s : BitVec w} {n : ℕ} (h : (step poly)^[n] s = 0#w) :
    s = 0#w := by
  induction n generalizing s with
  | zero => exact h
  | succ n ih => exact eq_zero_of_step htop (ih h)

/-- **A burst no wider than the register is seen**: a bit string with a set bit, all of whose set
bits lie in a window of `w` positions, does not leave the register empty. -/
theorem feedAll_burst_ne_zero {bs : List Bool} {k : ℕ} (hset : true ∈ bs)
    (hwindow : ∀ i, bs.getD i false = true → k ≤ i ∧ i < k + w) :
    feedAll poly 0#w bs ≠ 0#w := by
  have hquiet : ∀ i, (i < k ∨ k + w ≤ i) → bs.getD i false = false := by
    intro i hi
    rw [← Bool.not_eq_true]
    intro h
    have := hwindow i h
    omega
  have hbefore : ∀ b ∈ bs.take k, b = false := forall_mem_of_getD fun i hi => by
    rw [List.length_take] at hi
    rw [List.getD_eq_getElem?_getD, List.getElem?_take_of_lt (by omega),
      ← List.getD_eq_getElem?_getD]
    exact hquiet i (.inl (by omega))
  have hbehind : ∀ b ∈ (bs.drop k).drop w, b = false := forall_mem_of_getD fun i _ => by
    rw [List.getD_eq_getElem?_getD, List.getElem?_drop, List.getElem?_drop,
      ← List.getD_eq_getElem?_getD]
    exact hquiet _ (.inr (by omega))
  have hlen : ((bs.drop k).take w).length ≤ w := List.length_take_le _ _
  have hsplit : bs = bs.take k ++ ((bs.drop k).take w ++ (bs.drop k).drop w) := by
    rw [List.take_append_drop, List.take_append_drop]
  intro hzero
  -- the register holds the burst as a word, and shifting has not emptied it
  rw [hsplit, feedAll_append, feedAll_append, feedAll_quiet hbefore, iterate_step_zero,
    feedAll_eq_iterate hlen, feedAll_quiet hbehind, BitVec.zero_xor] at hzero
  have hword := eq_zero_of_iterate_step htop (eq_zero_of_iterate_step htop hzero)
  obtain ⟨i, hi, hbit⟩ := List.mem_iff_getElem.mp hset
  have hgetD : bs.getD i false = true := by rw [List.getD_eq_getElem bs false hi, hbit]
  obtain ⟨hki, hik⟩ := hwindow i hgetD
  have hpacked := getLsbD_pack (w := w) ((bs.drop k).take w) (i := i - k) (by omega)
  rw [hword, BitVec.getLsbD_zero, List.getD_eq_getElem?_getD, List.getElem?_take_of_lt (by omega),
    List.getElem?_drop, Nat.add_sub_cancel' hki, ← List.getD_eq_getElem?_getD, hgetD] at hpacked
  exact Bool.false_ne_true hpacked

end Burst

end ShiftRegister
