import UnicoreGnss.Lib.LittleEndian

/-!
# Fields of bits in a string of bytes

Bit `i` of a string of bytes is bit `i % 8` of byte `i / 8`, bit `0` of a byte being the least
significant one. A field is a run of consecutive bits, and its first bit is its least significant
one, so that a field that straddles bytes is a little-endian number at an odd position.

Loops that take a field apart or put it together one bit at a time are `gather` and `putBits`.

## Main results

* `testBit_gather` — what a loop over the bits of a field has collected
* `gather_bitAt_putBits_same`, `gather_bitAt_putBits_disjoint` — reading a field after writing it,
  or after writing a disjoint one
-/

namespace BitField

open LittleEndian

/-- Bit `i` of a string of bytes. Behind its end all bits are clear. -/
def bitAt (bs : List UInt8) (i : ℕ) : Bool := (bs.getD (i / 8) 0).toNat.testBit (i % 8)

/-- `value |= 1 << bit` for every bit below `n` that is set. -/
def gather (f : ℕ → Bool) : ℕ → ℕ
  | 0 => 0
  | n + 1 => if f n then gather f n ||| 1 <<< n else gather f n

/-- Bit `k` of a byte, set or cleared. -/
def putByteBit (k : ℕ) (v : Bool) (b : UInt8) : UInt8 :=
  if v then b ||| (1 <<< UInt8.ofNat k) else b &&& ~~~(1 <<< UInt8.ofNat k)

/-- Bit `i` of a string of bytes, set or cleared. -/
def putBit (bs : List UInt8) (i : ℕ) (v : Bool) : List UInt8 :=
  bs.modify (i / 8) (putByteBit (i % 8) v)

/-- The `n` bits from `offset` on, set or cleared one after another. -/
def putBits (bs : List UInt8) (offset : ℕ) (f : ℕ → Bool) : ℕ → List UInt8
  | 0 => bs
  | n + 1 => putBit (putBits bs offset f n) (offset + n) (f n)

/-! ### Collecting bits -/

/-- **What the loop has collected.** -/
theorem testBit_gather (f : ℕ → Bool) (n i : ℕ) :
    (gather f n).testBit i = (decide (i < n) && f i) := by
  induction n with
  | zero => simp [gather]
  | succ n ih =>
    have hone : (1 <<< n : ℕ).testBit i = decide (n = i) := by
      rw [Nat.one_shiftLeft, Nat.testBit_two_pow]
    rw [gather]
    split
    · rename_i hn
      rw [Nat.testBit_or, ih, hone]
      rcases lt_trichotomy i n with hlt | rfl | hgt
      · simp [hlt, Nat.lt_succ_of_lt hlt, hlt.ne']
      · simp [hn]
      · simp [hgt.ne, Nat.not_lt_of_lt hgt, show ¬ i < n + 1 by omega]
    · rename_i hn
      rw [ih]
      rcases lt_trichotomy i n with hlt | rfl | hgt
      · simp [hlt, Nat.lt_succ_of_lt hlt]
      · simp [hn]
      · simp [Nat.not_lt_of_lt hgt, show ¬ i < n + 1 by omega]

/-- The number has no more bits than have been collected. -/
theorem gather_lt (f : ℕ → Bool) (n : ℕ) : gather f n < 2 ^ n := by
  apply Nat.lt_pow_two_of_testBit
  intro i hi
  rw [testBit_gather, decide_eq_false (Nat.not_lt.mpr hi), Bool.false_and]

theorem gather_congr {f g : ℕ → Bool} {n : ℕ} (h : ∀ i < n, f i = g i) :
    gather f n = gather g n := by
  apply Nat.eq_of_testBit_eq
  intro i
  rw [testBit_gather, testBit_gather]
  by_cases hi : i < n
  · rw [h i hi]
  · simp [hi]

/-- The bits of a number, collected again, are its lowest bits. -/
theorem gather_testBit (m n : ℕ) : gather m.testBit n = m % 2 ^ n := by
  apply Nat.eq_of_testBit_eq
  intro i
  rw [testBit_gather, Nat.testBit_mod_two_pow]

theorem gather_testBit_of_lt {m n : ℕ} (h : m < 2 ^ n) : gather m.testBit n = m := by
  rw [gather_testBit, Nat.mod_eq_of_lt h]

/-! ### One bit of a byte -/

theorem shiftRight_and_one (b : UInt8) {k : ℕ} (hk : k < 8) :
    ((b >>> UInt8.ofNat k) &&& 1 != 0) = b.toNat.testBit k := by
  have hmod : (UInt8.ofNat k).toNat % 8 = k := by
    rw [UInt8.toNat_ofNat']
    omega
  have hval : ((b >>> UInt8.ofNat k) &&& 1).toNat = 1 &&& b.toNat >>> k := by
    rw [UInt8.toNat_and, UInt8.toNat_shiftRight, hmod, Nat.land_comm]
    rfl
  rw [Nat.testBit, ← hval, Bool.eq_iff_iff, bne_iff_ne, bne_iff_ne, ne_eq, ne_eq,
    ← UInt8.toNat_inj]
  rfl

theorem testBit_putByteBit (b : UInt8) {k : ℕ} (v : Bool) {j : ℕ} (hk : k < 8) (hj : j < 8) :
    (putByteBit k v b).toNat.testBit j = if j = k then v else b.toNat.testBit j := by
  have hmod : (UInt8.ofNat k).toNat % 8 = k := by
    rw [UInt8.toNat_ofNat']
    omega
  have hmask : ((1 : UInt8) <<< UInt8.ofNat k).toNat = 2 ^ k := by
    have hlt : 2 ^ k < 2 ^ 8 := Nat.pow_lt_pow_right (by decide) hk
    rw [UInt8.toNat_shiftLeft, hmod, show UInt8.toNat 1 = 1 from rfl, Nat.one_shiftLeft,
      Nat.mod_eq_of_lt hlt]
  have hnot : (~~~((1 : UInt8) <<< UInt8.ofNat k)).toNat.testBit j = !decide (k = j) := by
    have h := Nat.testBit_two_pow_sub_succ (Nat.pow_lt_pow_right (by decide : 1 < 2) hk) j
    rw [UInt8.toNat_not, hmask, show UInt8.size - 1 - 2 ^ k = 2 ^ 8 - (2 ^ k + 1) by
      rw [show UInt8.size = 2 ^ 8 from rfl]; omega, h, Nat.testBit_two_pow]
    simp [hj]
  rw [putByteBit]
  cases v with
  | true =>
    rw [if_pos rfl, UInt8.toNat_or, Nat.testBit_or, hmask, Nat.testBit_two_pow]
    by_cases hjk : j = k
    · simp [hjk]
    · simp [hjk, Ne.symm hjk]
  | false =>
    rw [if_neg Bool.false_ne_true, UInt8.toNat_and, Nat.testBit_and, hnot]
    by_cases hjk : j = k
    · simp [hjk]
    · simp [hjk, Ne.symm hjk]

/-! ### One bit of a string -/

@[simp] theorem length_putBit (bs : List UInt8) (i : ℕ) (v : Bool) :
    (putBit bs i v).length = bs.length := List.length_modify ..

theorem bitAt_putBit {bs : List UInt8} {i : ℕ} (v : Bool) (j : ℕ) (hi : i / 8 < bs.length) :
    bitAt (putBit bs i v) j = if j = i then v else bitAt bs j := by
  have hi8 : i % 8 < 8 := Nat.mod_lt _ (by decide)
  have hj8 : j % 8 < 8 := Nat.mod_lt _ (by decide)
  by_cases hbyte : i / 8 = j / 8
  · have hlook : (putBit bs i v).getD (j / 8) 0 =
        putByteBit (i % 8) v (bs.getD (j / 8) 0) := by
      rw [putBit, List.getD_eq_getElem?_getD, List.getD_eq_getElem?_getD, ← hbyte,
        List.getElem?_modify_eq, List.getElem?_eq_getElem hi]
      rfl
    rw [bitAt, bitAt, hlook, testBit_putByteBit _ v hi8 hj8]
    have hiff : j % 8 = i % 8 ↔ j = i := by omega
    simp only [hiff]
  · have hlook : (putBit bs i v).getD (j / 8) 0 = bs.getD (j / 8) 0 := by
      rw [putBit, List.getD_eq_getElem?_getD, List.getD_eq_getElem?_getD,
        List.getElem?_modify_ne _ _ hbyte]
    have hne : j ≠ i := by
      rintro rfl
      exact hbyte rfl
    rw [bitAt, bitAt, hlook, if_neg hne]

/-! ### Fields -/

variable {bs : List UInt8} {offset n : ℕ} {f : ℕ → Bool}

@[simp] theorem length_putBits (bs : List UInt8) (offset : ℕ) (f : ℕ → Bool) (n : ℕ) :
    (putBits bs offset f n).length = bs.length := by
  induction n with
  | zero => rfl
  | succ n ih => rw [putBits, length_putBit, ih]

theorem bitAt_putBits (h : offset + n ≤ 8 * bs.length) (j : ℕ) :
    bitAt (putBits bs offset f n) j =
      if offset ≤ j ∧ j < offset + n then f (j - offset) else bitAt bs j := by
  induction n with
  | zero => rw [if_neg (by omega), putBits]
  | succ n ih =>
    have hi : (offset + n) / 8 < (putBits bs offset f n).length := by
      rw [length_putBits]
      omega
    rw [putBits, bitAt_putBit _ _ hi, ih (by omega)]
    by_cases hj : j = offset + n
    · rw [if_pos hj, if_pos (by omega), hj, Nat.add_sub_cancel_left]
    · rw [if_neg hj]
      by_cases hin : offset ≤ j ∧ j < offset + n
      · rw [if_pos hin, if_pos (by omega)]
      · rw [if_neg hin, if_neg (by omega)]

/-- **A field reads back** as it was written. -/
theorem gather_bitAt_putBits_same (h : offset + n ≤ 8 * bs.length) :
    gather (fun i => bitAt (putBits bs offset f n) (offset + i)) n = gather f n := by
  refine gather_congr fun i hi => ?_
  rw [bitAt_putBits h, if_pos (by omega), Nat.add_sub_cancel_left]

/-- **A disjoint field** reads as before. -/
theorem gather_bitAt_putBits_disjoint (h : offset + n ≤ 8 * bs.length) {offset' n' : ℕ}
    (hd : offset' + n' ≤ offset ∨ offset + n ≤ offset') :
    gather (fun i => bitAt (putBits bs offset f n) (offset' + i)) n' =
      gather (fun i => bitAt bs (offset' + i)) n' := by
  refine gather_congr fun i hi => ?_
  rw [bitAt_putBits h, if_neg (by omega)]

end BitField
