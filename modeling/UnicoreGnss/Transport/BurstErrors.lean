import UnicoreGnss.Lib.ShiftRegister
import UnicoreGnss.Transport.Counters
import UnicoreGnss.Transport.MakeFrame

/-!
# What the CRC of a frame detects

`crc32_unicore_binary` is a shift register that starts empty and is fed the bits of its input,
bytes in order and the least significant bit of each first (`toBitVec_foldl_crcByte`). So the laws
of `ShiftRegister` apply: the CRC is linear, a message followed by its own CRC has CRC `0`, which
rests on the CRC being stored least significant byte first, and a burst error of at most 32 bits
changes the CRC of the whole frame.

In terms of the transport: a valid frame hit by such a burst is not handed out, wherever in the
stream it stands, and is counted as a CRC error.

## Main definitions

* `bitString`, `corrupt` — the bits of a byte string, and a byte string with an error added to it
* `BurstError` — an error that leaves the sync and the length alone and is 32 bits wide at most

## Main results

* `crc32UnicoreBinary_append_le32` — the residue law
* `crcOk_corrupt` — a burst breaks the CRC
* `burst_detected` — what a strict transport makes of a frame hit by a burst
-/

namespace UnicoreGnss

open FirstMatch UnicoreTransport ShiftRegister

/-! ### The CRC as a shift register -/

/-- `0xEDB88320`, the generator. -/
def crcGenerator : BitVec 32 := 0xEDB88320#32

/-- The bits of a byte, least significant first. -/
def byteBits (byte : UInt8) : List Bool := bits byte.toBitVec

/-- The bits of a byte string, least significant first within each byte. -/
def bitString (data : Bytes) : List Bool := data.flatMap byteBits

@[simp] theorem length_byteBits (byte : UInt8) : (byteBits byte).length = 8 := length_bits _

@[simp] theorem bitString_nil : bitString [] = [] := rfl

@[simp] theorem bitString_cons (byte : UInt8) (data : Bytes) :
    bitString (byte :: data) = byteBits byte ++ bitString data := rfl

theorem toBitVec_crcBit (crc : UInt32) :
    (crcBit crc).toBitVec = step crcGenerator crc.toBitVec := by
  have hlow : crc &&& 1 ≠ 0 ↔ crc.toBitVec.getLsbD 0 = true := by
    rw [Ne, ← UInt32.toBitVec_inj, UInt32.toBitVec_and, show (1 : UInt32).toBitVec = 1#32 from rfl,
      BitVec.and_one_eq_setWidth_ofBool_getLsbD]
    cases crc.toBitVec.getLsbD 0 <;> decide
  rw [crcBit, step]
  by_cases h : crc &&& 1 ≠ 0
  · rw [if_pos h, if_pos (hlow.mp h), UInt32.toBitVec_xor]
    rfl
  · rw [if_neg h, if_neg (mt hlow.mpr h)]
    rfl

/-- A byte as a word. -/
theorem pack_byteBits (byte : UInt8) : pack 32 (byteBits byte) = byte.toUInt32.toBitVec := by
  apply BitVec.eq_of_getLsbD_eq
  intro i hi
  have hword : byte.toUInt32.toBitVec = byte.toBitVec.setWidth 32 := rfl
  rw [getLsbD_pack _ hi, hword, BitVec.getLsbD_setWidth, decide_eq_true hi, Bool.true_and,
    ← getD_bits]
  rfl

/-- A byte of the loop is the eight bits of that byte. -/
theorem toBitVec_crcByte (crc : UInt32) (byte : UInt8) :
    (crcByte crc byte).toBitVec = feedAll crcGenerator crc.toBitVec (byteBits byte) := by
  have hiter : ∀ n (c : UInt32), (crcBit^[n] c).toBitVec = (step crcGenerator)^[n] c.toBitVec := by
    intro n
    induction n with
    | zero => intro c; rfl
    | succ n ih => intro c; rw [Function.iterate_succ_apply, ih, toBitVec_crcBit]; rfl
  rw [feedAll_eq_iterate (by simp), pack_byteBits, length_byteBits, crcByte, hiter,
    UInt32.toBitVec_xor]

/-- **The CRC loop is the shift register**, fed the bits of the message. -/
theorem toBitVec_foldl_crcByte (data : Bytes) (crc : UInt32) :
    (data.foldl crcByte crc).toBitVec = feedAll crcGenerator crc.toBitVec (bitString data) := by
  induction data generalizing crc with
  | nil => rfl
  | cons byte data ih =>
    rw [List.foldl_cons, ih, toBitVec_crcByte, bitString_cons, feedAll_append]

/-! ### The residue law -/

theorem getD_bitString_cons (byte : UInt8) (data : Bytes) (i : ℕ) :
    (bitString (byte :: data)).getD i false =
      (byte.toBitVec.getLsbD i || !decide (i < 8) && (bitString data).getD (i - 8) false) := by
  rw [bitString_cons]
  rcases Nat.lt_or_ge i 8 with hi | hi
  · rw [List.getD_append _ _ _ _ (by simpa using hi), byteBits, getD_bits]
    simp [hi]
  · rw [List.getD_append_right _ _ _ _ (by simpa using hi), length_byteBits,
      BitVec.getLsbD_of_ge _ _ hi]
    simp [Nat.not_lt.mpr hi]

/-- Four bytes as a word, least significant byte first. -/
theorem pack_bitString_word (a b c d : UInt8) :
    pack 32 (bitString [a, b, c, d]) = (readLe32 [a, b, c, d]).toBitVec := by
  have hread : (readLe32 [a, b, c, d]).toBitVec = a.toBitVec.setWidth 32 |||
      (b.toBitVec.setWidth 32 <<< 8) ||| (c.toBitVec.setWidth 32 <<< 16) |||
        (d.toBitVec.setWidth 32 <<< 24) := rfl
  apply BitVec.eq_of_getLsbD_eq
  intro i hi
  have h16 : i - 8 < 8 ↔ i < 16 := by omega
  have h24 : i - 16 < 8 ↔ i < 24 := by omega
  have hin : ∀ n, i - n < 32 := fun n => by omega
  rw [hread, getLsbD_pack _ hi]
  simp only [getD_bitString_cons, bitString_nil, List.getD_nil, BitVec.getLsbD_or,
    BitVec.getLsbD_shiftLeft, BitVec.getLsbD_setWidth, hi, hin, Nat.sub_sub, Nat.reduceAdd, h16,
    h24, decide_true, Bool.true_and, Bool.and_false, Bool.or_false]
  -- the conditions on the positions are nested on one side and not on the other
  by_cases h8 : i < 8
  · simp [h8, show i < 16 by omega, show i < 24 by omega]
  · by_cases h16 : i < 16
    · simp [h8, h16, show i < 24 by omega]
    · simp [h8, h16, Bool.or_assoc]

/-- What four more bytes do to the CRC: they cancel it if they are it. -/
theorem foldl_crcByte_word_eq_zero_iff {word : Bytes} (h : word.length = 4) (crc : UInt32) :
    word.foldl crcByte crc = 0 ↔ readLe32 word = crc := by
  obtain ⟨a, b, c, d, rfl⟩ : ∃ a b c d, word = [a, b, c, d] := by
    match word, h with
    | [a, b, c, d], _ => exact ⟨a, b, c, d, rfl⟩
  rw [← UInt32.toBitVec_inj, toBitVec_foldl_crcByte, feedAll_eq_iterate (by simp),
    pack_bitString_word]
  constructor
  · intro h
    have := eq_zero_of_iterate_step (by decide) h
    rw [BitVec.xor_eq_zero_iff, UInt32.toBitVec_inj] at this
    exact this.symm
  · rintro rfl
    rw [BitVec.xor_self, iterate_step_zero]
    rfl

/-- **The residue law.** A message followed by its own CRC has CRC `0`. -/
theorem crc32UnicoreBinary_append_le32 (data : Bytes) :
    crc32UnicoreBinary (data ++ le32 (crc32UnicoreBinary data)) = 0 := by
  have hread := readLe32_le32 (crc32UnicoreBinary data) []
  rw [List.append_nil] at hread
  rw [crc32UnicoreBinary, List.foldl_append, foldl_crcByte_word_eq_zero_iff rfl]
  exact hread

/-- The CRC of a whole frame is that of its message with its own CRC behind it. -/
theorem crcOk_iff {raw : Bytes} (h : frameSize raw = raw.length) :
    crcOk raw = true ↔ crc32UnicoreBinary raw = 0 := by
  have hmin := le_frameSize raw
  have hword : (raw.drop (raw.length - 4)).length = 4 := by
    rw [List.length_drop]
    omega
  have hsplit : crc32UnicoreBinary raw = (raw.drop (raw.length - 4)).foldl crcByte
      (crc32UnicoreBinary (raw.take (raw.length - 4))) := by
    rw [crc32UnicoreBinary, crc32UnicoreBinary, ← List.foldl_append, List.take_append_drop]
  rw [hsplit, foldl_crcByte_word_eq_zero_iff hword, crcOk, beq_iff_eq, expectedCrc, h]
  rfl

/-! ### Errors -/

/-- The bytes `f` with the error `e` added to them. -/
def corrupt (f e : Bytes) : Bytes := List.zipWith (· ^^^ ·) f e

/-- An error of a frame `f` that leaves its sync and its length alone, and whose bits lie in a
window of 32. -/
structure BurstError (f e : Bytes) : Prop where
  /-- It is as long as the frame. -/
  length_eq : e.length = f.length
  /-- It leaves bytes 0 to 2 alone. -/
  sync : ∀ i < 3, byteAt e i = 0
  /-- It leaves bytes 6 and 7 alone. -/
  size : byteAt e 6 = 0 ∧ byteAt e 7 = 0
  /-- It is an error. -/
  nonzero : ∃ byte ∈ e, byte ≠ 0
  /-- It is a burst. -/
  window : ∃ k, ∀ i, (bitString e).getD i false = true → k ≤ i ∧ i < k + 32

section Corrupt

variable {f e : Bytes}

theorem length_corrupt (h : e.length = f.length) : (corrupt f e).length = f.length := by
  rw [corrupt, List.length_zipWith, h, Nat.min_self]

theorem byteAt_corrupt (h : e.length = f.length) (i : ℕ) :
    byteAt (corrupt f e) i = byteAt f i ^^^ byteAt e i := by
  rw [byteAt, byteAt, byteAt, corrupt, List.getD_eq_getElem?_getD, List.getD_eq_getElem?_getD,
    List.getD_eq_getElem?_getD, List.getElem?_zipWith]
  rcases Nat.lt_or_ge i f.length with hi | hi
  · rw [List.getElem?_eq_getElem hi, List.getElem?_eq_getElem (h ▸ hi)]
    rfl
  · rw [List.getElem?_eq_none hi, List.getElem?_eq_none (h ▸ hi)]
    rfl

theorem bitString_corrupt (h : e.length = f.length) :
    bitString (corrupt f e) = List.zipWith xor (bitString f) (bitString e) := by
  induction f generalizing e with
  | nil => rfl
  | cons byte f ih =>
    cases e with
    | nil => cases h
    | cons error e =>
      have hbyte : byteBits (byte ^^^ error) = List.zipWith xor (byteBits byte) (byteBits error) :=
        bits_xor _ _
      rw [corrupt, List.zipWith_cons_cons, bitString_cons, bitString_cons, bitString_cons,
        List.zipWith_append (by simp), hbyte, ← ih (Nat.succ.inj h), corrupt]

theorem length_bitString (data : Bytes) : (bitString data).length = 8 * data.length := by
  induction data with
  | nil => rfl
  | cons byte data ih =>
    rw [bitString_cons, List.length_append, length_byteBits, ih, List.length_cons]
    omega

/-- **The CRC is linear.** -/
theorem crc32UnicoreBinary_corrupt (h : e.length = f.length) :
    crc32UnicoreBinary (corrupt f e) = crc32UnicoreBinary f ^^^ crc32UnicoreBinary e := by
  have hlen : (bitString f).length = (bitString e).length := by
    rw [length_bitString, length_bitString, h]
  have hlinear := @feedAll_xor _ crcGenerator _ _ hlen 0#32 0#32
  rw [BitVec.xor_zero, ← bitString_corrupt h] at hlinear
  rw [← UInt32.toBitVec_inj, UInt32.toBitVec_xor, crc32UnicoreBinary, crc32UnicoreBinary,
    crc32UnicoreBinary, toBitVec_foldl_crcByte, toBitVec_foldl_crcByte, toBitVec_foldl_crcByte]
  exact hlinear

/-- A byte that is not `0` has a set bit. -/
theorem true_mem_byteBits {byte : UInt8} (h : byte ≠ 0) : true ∈ byteBits byte := by
  by_contra hnone
  refine h (UInt8.toBitVec_inj.mp (BitVec.eq_of_getLsbD_eq fun i hi => ?_))
  have hlen : i < (byteBits byte).length := by simpa using hi
  have hbit : (byteBits byte)[i] = false := by
    rw [← Bool.not_eq_true]
    intro hset
    exact hnone (List.mem_iff_getElem.mpr ⟨i, hlen, hset⟩)
  rw [← getD_bits, show bits byte.toBitVec = byteBits byte from rfl,
    List.getD_eq_getElem _ _ hlen, hbit]
  exact (BitVec.getLsbD_zero).symm

/-- A burst on its own has a CRC other than `0`. -/
theorem BurstError.crc_ne_zero (he : BurstError f e) : crc32UnicoreBinary e ≠ 0 := by
  obtain ⟨byte, hmem, hbyte⟩ := he.nonzero
  obtain ⟨k, hwindow⟩ := he.window
  have hset : true ∈ bitString e := List.mem_flatMap.mpr ⟨byte, hmem, true_mem_byteBits hbyte⟩
  have hburst := @feedAll_burst_ne_zero _ crcGenerator (by decide) _ _ hset hwindow
  rw [Ne, ← UInt32.toBitVec_inj, crc32UnicoreBinary, toBitVec_foldl_crcByte]
  exact hburst

/-- The sync and the announced size survive. -/
theorem BurstError.front (he : BurstError f e) (hf : ValidFrame f) :
    startsWithSync (corrupt f e) = true ∧ frameSize (corrupt f e) = (corrupt f e).length := by
  have hmin := hf.size ▸ le_frameSize f
  have hlen := length_corrupt he.length_eq
  constructor
  · obtain ⟨r, rfl⟩ := startsWithSync_iff.mp hf.sync
    obtain ⟨a, b, c, e', rfl⟩ : ∃ a b c e', e = a :: b :: c :: e' := by
      match e, he.length_eq with
      | a :: b :: c :: e', _ => exact ⟨a, b, c, e', rfl⟩
    obtain rfl : a = 0 := he.sync 0 (by decide)
    obtain rfl : b = 0 := he.sync 1 (by decide)
    obtain rfl : c = 0 := he.sync 2 (by decide)
    exact startsWithSync_iff.mpr ⟨corrupt r e', rfl⟩
  · have hread : readLe16 ((corrupt f e).drop 6) = readLe16 (f.drop 6) := by
      refine readLe16_congr fun i hi => ?_
      have hzero : byteAt e (6 + i) = 0 := by
        match i, hi with
        | 0, _ => exact he.size.1
        | 1, _ => exact he.size.2
      rw [byteAt_drop, byteAt_drop, byteAt_corrupt he.length_eq, hzero, UInt8.xor_zero]
    rw [frameSize, hread, ← frameSize, hf.size, hlen]

/-- **A burst breaks the CRC.** -/
theorem crcOk_corrupt (hf : ValidFrame f) (he : BurstError f e) : crcOk (corrupt f e) = false := by
  rw [← Bool.not_eq_true, crcOk_iff (he.front hf).2, crc32UnicoreBinary_corrupt he.length_eq,
    (crcOk_iff hf.size).mp hf.crc, UInt32.zero_xor]
  exact he.crc_ne_zero

end Corrupt

/-! ### What the transport makes of it -/

/-- A strict scanner hands out frames with a matching CRC. -/
theorem crcOk_of_mem_scan {o : UnicoreTransportOptions} (hstrict : o.strictBinaryCrc = true)
    {S : Bytes} {i j : ℕ} {g : UnicoreBinaryFrame} (h : (i, g) ∈ scan o S j) :
    crcOk (S.drop i) = true := by
  induction hn : S.length - j using Nat.strongRecOn generalizing j with
  | ind n ih =>
    rw [scan] at h
    split at h
    · exact absurd h List.not_mem_nil
    · next k hk =>
      have hlt := firstMatch_lt hk
      have hmin := le_frameSize (S.drop (j + k))
      rw [List.length_drop] at hlt
      simp only at h
      split at h
      · exact absurd h List.not_mem_nil
      split at h
      · exact ih _ (by omega) h rfl
      split at h
      · exact absurd h List.not_mem_nil
      split at h
      · exact ih _ (by omega) h rfl
      · next hok =>
        rcases List.mem_cons.mp h with heq | htail
        · rw [(Prod.mk.inj heq).1]
          cases hc : crcOk (S.drop (j + k)) with
          | true => rfl
          | false => exact absurd ⟨hc, hstrict⟩ hok
        · exact ih _ (by omega) htail rfl

/-- **Errors that the CRC of a frame detects.** A message followed by its own CRC has CRC `0`. And
a valid frame hit by a burst of at most 32 bits that spares its sync and its length is not handed
out by a strict transport, whatever was received before it and follows it and however the stream
was cut into reads; if the buffer was empty when it came in, it is counted as one CRC error, next
to those of the syncs behind its own. -/
theorem burst_detected :
    (∀ data : Bytes, crc32UnicoreBinary (data ++ le32 (crc32UnicoreBinary data)) = 0) ∧
    ∀ (max : ℕ) (f e rest : Bytes) (before calls : List (Call UInt8)),
      ValidFrame f → f.length ≤ max → BurstError f e →
      Call.received calls = corrupt f e ++ rest →
      let o := binaryOptions true max
      let t := (run before (fresh o)).2
      (∀ g, ((Call.received before).length, g) ∉
        framesAt 0 (history.run (before ++ calls ++ [.drain]) (fresh o)).1) ∧
      (t.buffer = [] →
        (run (calls ++ [.drain]) t).2.binaryCounters.crcErrors =
          t.binaryCounters.crcErrors + 1 +
            (tally (verdicts o ((corrupt f e ++ rest).drop 1))).crcErrors) := by
  refine ⟨crc32UnicoreBinary_append_le32, ?_⟩
  intro max f e rest before calls hf hmax he hcalls o t
  have hcrc := crcOk_corrupt hf he
  have hlen := length_corrupt he.length_eq
  obtain ⟨hsync, hsize⟩ := he.front hf
  have hmin := le_frameSize (corrupt f e)
  have hcrc' : crcOk (corrupt f e ++ rest) = false := by
    rw [(decode_append (Nat.le_of_eq hsize) rest).1, hcrc]
  have hsize' : frameSize (corrupt f e ++ rest) = f.length := by
    rw [frameSize_append (by omega), hsize, hlen]
  constructor
  · intro g hmem
    rw [framesAt_history_eq_scan] at hmem
    have hok := crcOk_of_mem_scan rfl hmem
    rw [Call.received_append, List.drop_left, hcalls, hcrc'] at hok
    exact Bool.false_ne_true hok
  · intro hempty
    have hfind : findBinarySync (corrupt f e ++ rest) = some 0 := by
      rw [findBinarySync, firstMatch_eq_zero_iff (by
        rw [Ne, ← List.length_eq_zero_iff, List.length_append]; omega),
        isWindow_startsWithSync.append rest (isWindow_startsWithSync.le_length hsync), hsync]
    have hverdict := verdicts_refused (o := o) hfind (by rw [hsize']; exact hmax)
      (by rw [hsize', List.length_append]; omega) hcrc' rfl
    rw [crcErrors_run_of_empty true max before calls hempty, hcalls, hverdict,
      ← List.singleton_append, crcErrors_tally_append, Nat.add_assoc]
    rfl

/-- A frame with the last bit of its header and the first of its CRC flipped. -/
theorem burst_detected_header_crc :
    let f := makeBinaryFrame 2118 []
    let e : Bytes := List.replicate 23 0 ++ [0x80, 0x01, 0, 0, 0]
    let o := binaryOptions true 4096
    (∀ g, (0, g) ∉
      framesAt 0 (history.run ([] ++ [.push (corrupt f e ++ [])] ++ [.drain]) (fresh o)).1) ∧
    ((fresh o).buffer = [] →
      (run ([.push (corrupt f e ++ [])] ++ [.drain]) (fresh o)).2.binaryCounters.crcErrors =
        (fresh o).binaryCounters.crcErrors + 1 +
          (tally (verdicts o ((corrupt f e ++ []).drop 1))).crcErrors) := by
  intro f e o
  have hburst : BurstError f e := by
    have hlength : e.length = f.length := by
      rw [length_makeBinaryFrame]
      rfl
    refine ⟨hlength, by decide, by decide, ⟨0x80, by decide, by decide⟩,
      ⟨191, fun i hi => ?_⟩⟩
    have hall : ∀ i < 224, (bitString e).getD i false = true → 191 ≤ i ∧ i < 191 + 32 := by
      decide +kernel
    rcases Nat.lt_or_ge i 224 with hlt | hge
    · exact hall i hlt hi
    · rw [List.getD_eq_default _ _ (by rw [length_bitString]; exact hge)] at hi
      exact absurd hi Bool.false_ne_true
  exact burst_detected.2 4096 f e [] [] [.push (corrupt f e ++ [])]
    (validFrame_makeBinaryFrame (by decide)) (by decide +kernel) hburst (by simp)

end UnicoreGnss
