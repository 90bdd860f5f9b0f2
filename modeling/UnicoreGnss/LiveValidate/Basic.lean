import UnicoreGnss.Transport.MakeFrame

/-!
# Byte strings of the live validator

What the functions of `tools/unicore_live_validate.py` use of Python's `bytes`, and the CRC as that
file computes it. Python's integers have no width, so they are natural numbers here, and the CRC is
cut down to 32 bits by a mask.

## Main results

* `leNat_slice_two`, `leNat_slice_four` — `int.from_bytes` against the driver's `read_le16` and
  `read_le32`
* `crc32Unicore_eq` — the two CRCs
-/

namespace UnicoreGnss.LiveValidate

open LittleEndian

/-- `raw[start:stop]` -/
def slice {α : Type} (raw : List α) (start stop : ℕ) : List α :=
  (raw.drop start).take (stop - start)

/-! ### Fields -/

theorem leNat_take_two (d : Bytes) : leNat (d.take 2) = (readLe16 d).toNat := by
  rw [toNat_readLe16]
  match d with
  | [] => rfl
  | [a] => simp [byteAt]
  | a :: b :: r => simp [byteAt]

theorem leNat_take_four (d : Bytes) : leNat (d.take 4) = (readLe32 d).toNat := by
  rw [toNat_readLe32]
  match d with
  | [] => rfl
  | [a] => simp [byteAt]
  | [a, b] => simp [byteAt]
  | [a, b, c] =>
    simp [byteAt]
    omega
  | a :: b :: c :: e :: r =>
    simp [byteAt]
    omega

/-- `int.from_bytes(raw[i:i + 2], byteorder="little", signed=False)` -/
theorem leNat_slice_two (raw : Bytes) (i : ℕ) :
    leNat (slice raw i (i + 2)) = (readLe16 (raw.drop i)).toNat := by
  rw [slice, Nat.add_sub_cancel_left, leNat_take_two]

/-- `int.from_bytes(raw[i:i + 4], byteorder="little", signed=False)` -/
theorem leNat_slice_four (raw : Bytes) (i : ℕ) :
    leNat (slice raw i (i + 4)) = (readLe32 (raw.drop i)).toNat := by
  rw [slice, Nat.add_sub_cancel_left, leNat_take_four]

/-! ### The CRC -/

/-- The body of the bit loop of `crc32_unicore`. -/
def crcStep (crc : ℕ) : ℕ :=
  let lsb := crc &&& 1
  let crc := crc >>> 1
  if lsb ≠ 0 then crc ^^^ 0xEDB88320 else crc

/-- `crc32_unicore` -/
def crc32Unicore (text : Bytes) : ℕ :=
  text.foldl (fun crc byte => crcStep^[8] (crc ^^^ byte.toNat) &&& 0xFFFFFFFF) 0

/-- One bit, in a word and in an integer. -/
theorem toNat_crcBit (crc : UInt32) : (crcBit crc).toNat = crcStep crc.toNat := by
  have hlsb : crc &&& 1 ≠ 0 ↔ crc.toNat &&& 1 ≠ 0 := by
    rw [ne_eq, ne_eq, ← UInt32.toNat_inj, UInt32.toNat_and]
    rfl
  rw [crcBit, crcStep]
  by_cases h : crc &&& 1 ≠ 0
  · rw [if_pos h, if_pos (hlsb.mp h), UInt32.toNat_xor, UInt32.toNat_shiftRight]
    rfl
  · rw [if_neg h, if_neg (fun h' => h (hlsb.mpr h')), UInt32.toNat_shiftRight]
    rfl

theorem toNat_iterate_crcBit (n : ℕ) (crc : UInt32) :
    (crcBit^[n] crc).toNat = crcStep^[n] crc.toNat := by
  induction n generalizing crc with
  | zero => rfl
  | succ n ih => rw [Function.iterate_succ_apply, Function.iterate_succ_apply, ih, toNat_crcBit]

/-- The mask takes nothing away. -/
theorem mask_toNat (crc : UInt32) : crc.toNat &&& 0xFFFFFFFF = crc.toNat := by
  have hlt : crc.toNat < 2 ^ 32 := crc.toNat_lt
  rw [Nat.and_two_pow_sub_one_eq_mod crc.toNat 32, Nat.mod_eq_of_lt hlt]

/-- **The validator's CRC is the driver's.** -/
theorem crc32Unicore_eq (text : Bytes) : crc32Unicore text = (crc32UnicoreBinary text).toNat := by
  suffices h : ∀ crc : UInt32,
      text.foldl (fun crc byte => crcStep^[8] (crc ^^^ byte.toNat) &&& 0xFFFFFFFF) crc.toNat =
        (text.foldl crcByte crc).toNat from h 0
  induction text with
  | nil => intro crc; rfl
  | cons byte text ih =>
    intro crc
    have hbyte : crcStep^[8] (crc.toNat ^^^ byte.toNat) &&& 0xFFFFFFFF =
        (crcByte crc byte).toNat := by
      have hxor : crc.toNat ^^^ byte.toNat = (crc ^^^ byte.toUInt32).toNat := by
        rw [UInt32.toNat_xor, UInt8.toNat_toUInt32]
      rw [hxor, ← toNat_iterate_crcBit, mask_toNat, crcByte]
    rw [List.foldl_cons, List.foldl_cons, hbyte]
    exact ih (crcByte crc byte)

end UnicoreGnss.LiveValidate
