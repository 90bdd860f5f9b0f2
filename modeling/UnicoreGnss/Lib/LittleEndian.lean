import Mathlib.Data.Nat.Bitwise
import Mathlib.Tactic.Ring

/-!
# Little-endian numbers

A list of bytes read as a number, least significant byte first, and the bytes of a number at a
fixed width. Shifts and disjunctions of bytes, which is how such numbers are usually put together
in code, are brought to this form by `or_shiftLeft`.

## Main results

* `leNat_leBytes` — reading back what was written
* `or_shiftLeft` — a disjunction of disjoint pieces is a sum
-/

namespace LittleEndian

/-- The number with the given bytes, least significant first. -/
def leNat : List UInt8 → ℕ
  | [] => 0
  | b :: bs => b.toNat + 256 * leNat bs

/-- The `w` lowest bytes of `n`, least significant first. -/
def leBytes : ℕ → ℕ → List UInt8
  | 0, _ => []
  | w + 1, n => UInt8.ofNat n :: leBytes w (n / 256)

@[simp] theorem leNat_nil : leNat [] = 0 := rfl

@[simp] theorem leNat_cons (b : UInt8) (bs : List UInt8) :
    leNat (b :: bs) = b.toNat + 256 * leNat bs := rfl

@[simp] theorem leBytes_zero (n : ℕ) : leBytes 0 n = [] := rfl

theorem leBytes_succ (w n : ℕ) : leBytes (w + 1) n = UInt8.ofNat n :: leBytes w (n / 256) := rfl

@[simp] theorem length_leBytes (w n : ℕ) : (leBytes w n).length = w := by
  induction w generalizing n with
  | zero => rfl
  | succ w ih => rw [leBytes_succ, List.length_cons, ih]

/-- **Reading back what was written.** -/
theorem leNat_leBytes (w n : ℕ) : leNat (leBytes w n) = n % 256 ^ w := by
  induction w generalizing n with
  | zero => simp [Nat.mod_one]
  | succ w ih =>
    have hbyte : (UInt8.ofNat n).toNat = n % 256 := by simp
    rw [leBytes_succ, leNat_cons, ih, hbyte, pow_succ', Nat.mod_mul]

theorem leNat_leBytes_of_lt {w n : ℕ} (h : n < 256 ^ w) : leNat (leBytes w n) = n := by
  rw [leNat_leBytes, Nat.mod_eq_of_lt h]

/-- A disjunction of disjoint pieces is a sum. -/
theorem or_shiftLeft {a n : ℕ} (b : ℕ) (ha : a < 2 ^ n) : a ||| b <<< n = a + 2 ^ n * b := by
  rw [Nat.lor_comm, ← Nat.shiftLeft_add_eq_or_of_lt ha, Nat.shiftLeft_eq]
  ring

end LittleEndian
