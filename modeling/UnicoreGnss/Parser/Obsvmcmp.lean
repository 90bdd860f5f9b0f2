import UnicoreGnss.Parser.Layout

/-!
# Compressed observations

An OBSVMCMPB payload is a count followed by records of 24 bytes, each a string of ten bit fields
without regard to byte boundaries. `ObsvmcmpRecord` is what a record says,
`appendObsvmcmpRecord` is the encoder of `test/test_unicore_binary_nav.cpp`, and `observation` is
what the entry of the parser has to be.

## Main results

* `parseObsvmcmpb_encode` — the payload of a list of records is parsed to their observations
* `parseObsvmcmpb_part` — every proper beginning of it is refused
-/

namespace UnicoreGnss

open BitField Checked CNumber LittleEndian

namespace UnicoreBinaryNavParser

/-! ### Bit fields of a record -/

/-- The number in a bit field. -/
def bitsOf (record : Bytes) (offset count : ℕ) : ℕ :=
  gather (fun i => bitAt record (offset + i)) count

/-- **The unchecked reads stay inside a record**, and read its bit field. -/
theorem readBitsLe_append (front record back : Bytes) {offset count : ℕ}
    (h : offset + count ≤ 8 * record.length) :
    readBitsLe (front ++ record ++ back) front.length offset count =
      value (bitsOf record offset count) := by
  induction count with
  | zero => rfl
  | succ n ih =>
    have hbyte : (offset + n) / 8 < record.length := by omega
    have hget : get (front ++ record ++ back) (front.length + (offset + n) / 8) =
        value (record.getD ((offset + n) / 8) 0) := by
      apply get_append
      rw [List.getElem?_eq_getElem hbyte, List.getD_eq_getElem _ _ hbyte]
    have hbit := shiftRight_and_one (record.getD ((offset + n) / 8) 0)
      (Nat.mod_lt (offset + n) (by decide : 0 < 8))
    rw [readBitsLe, ih (by omega), value_bind, hget, value_bind, hbit]
    rfl

/-- `set_bits_le` -/
def setBitsLe (out : Bytes) (bitOffset bitCount bits : ℕ) : Bytes :=
  putBits out bitOffset bits.testBit bitCount

@[simp] theorem length_setBitsLe (out : Bytes) (bitOffset bitCount bits : ℕ) :
    (setBitsLe out bitOffset bitCount bits).length = out.length := length_putBits ..

/-- A written bit field reads back. -/
theorem bitsOf_setBitsLe_same {out : Bytes} {offset count bits : ℕ}
    (h : offset + count ≤ 8 * out.length) (hbits : bits < 2 ^ count) :
    bitsOf (setBitsLe out offset count bits) offset count = bits := by
  rw [bitsOf, setBitsLe, gather_bitAt_putBits_same h, gather_testBit_of_lt hbits]

/-- A bit field keeps its number when a disjoint one is written. -/
theorem bitsOf_setBitsLe_disjoint {out : Bytes} {offset count bits offset' count' : ℕ}
    (h : offset + count ≤ 8 * out.length)
    (hd : offset' + count' ≤ offset ∨ offset + count ≤ offset') :
    bitsOf (setBitsLe out offset count bits) offset' count' = bitsOf out offset' count' := by
  rw [bitsOf, setBitsLe, gather_bitAt_putBits_disjoint h hd]
  rfl

/-- The two's complement of a positive number below `2 ^ w`, taken in 64 bits and cut to `w`. -/
theorem negate_mod {n w : ℕ} (hw : w ≤ 64) (hn : 0 < n) (hlt : n < 2 ^ w) :
    ((2 ^ 64 - 1 - n) + 1) % 2 ^ 64 % 2 ^ w = 2 ^ w - n := by
  have hle : 2 ^ w ≤ 2 ^ 64 := Nat.pow_le_pow_right (by decide) hw
  have hsplit : 2 ^ 64 - n = 2 ^ w - n + 2 ^ w * (2 ^ (64 - w) - 1) := by
    have h64 : 2 ^ w * 2 ^ (64 - w) = 2 ^ 64 := by
      rw [← pow_add, Nat.add_sub_cancel' hw]
    rw [Nat.mul_sub, h64]
    omega
  rw [show (2 ^ 64 - 1 - n) + 1 = 2 ^ 64 - n by omega,
    Nat.mod_eq_of_lt (show 2 ^ 64 - n < 2 ^ 64 by omega), hsplit, Nat.add_mul_mod_self_left,
    Nat.mod_eq_of_lt (by omega)]

/-- **The sign extension** of a word is its two's complement value. -/
theorem signExtend_toNat {w : ℕ} (hw : 0 < w) (hw' : w < 64) (v : BitVec w) :
    signExtend v.toNat w = v.toInt := by
  have hlt : v.toNat < 2 ^ w := v.isLt
  have hhalf : 2 ^ w = 2 * 2 ^ (w - 1) := by rw [← pow_succ', Nat.sub_add_cancel hw]
  have hmask : bitMask w = 2 ^ w - 1 := by
    rw [bitMask, if_neg (by omega), Nat.one_shiftLeft]
  have htrunc : v.toNat &&& bitMask w = v.toNat := by
    rw [hmask, Nat.and_two_pow_sub_one_eq_mod, Nat.mod_eq_of_lt hlt]
  have hsign : v.toNat &&& 1 <<< (w - 1) = 0 ↔ 2 * v.toNat < 2 ^ w := by
    have hbit : v.toNat.testBit (w - 1) = decide (2 ^ (w - 1) ≤ v.toNat) := BitVec.getLsbD_last v
    rw [Nat.one_shiftLeft, Nat.and_two_pow, hbit]
    by_cases hle : 2 ^ (w - 1) ≤ v.toNat
    · simp [hle]
      omega
    · simp [hle]
      omega
  rw [signExtend, if_neg (by omega), htrunc, BitVec.toInt_eq_toNat_cond]
  by_cases hpos : 2 * v.toNat < 2 ^ w
  · rw [if_pos hpos]
    exact if_pos (hsign.mpr hpos)
  · have hmagnitude := negate_mod hw'.le (by omega) hlt
    rw [if_neg hpos]
    refine (if_neg fun h => hpos (hsign.mp h)).trans ?_
    rw [hmask, Nat.and_two_pow_sub_one_eq_mod, hmagnitude]
    push_cast [hlt.le]
    ring

/-! ### Records -/

/-- What a record says. The two signed fields are words in two's complement. -/
structure ObsvmcmpRecord where
  trackingStatus : UInt32
  doppler : BitVec 28
  pseudorange : BitVec 36
  carrierPhase : BitVec 32
  pseudorangeStdIndex : BitVec 4
  carrierPhaseStdIndex : BitVec 4
  prn : BitVec 8
  lockTime : BitVec 21
  cn0Code : BitVec 5
  glonassFrequencyNumber : BitVec 6

/-- `append_obsvmcmp_record`: the 24 bytes it appends. -/
def appendObsvmcmpRecord (r : ObsvmcmpRecord) : Bytes :=
  let record := List.replicate 24 0
  let record := setBitsLe record 0 32 r.trackingStatus.toNat
  let record := setBitsLe record 32 28 r.doppler.toNat
  let record := setBitsLe record 60 36 r.pseudorange.toNat
  let record := setBitsLe record 96 32 r.carrierPhase.toNat
  let record := setBitsLe record 128 4 r.pseudorangeStdIndex.toNat
  let record := setBitsLe record 132 4 r.carrierPhaseStdIndex.toNat
  let record := setBitsLe record 136 8 r.prn.toNat
  let record := setBitsLe record 144 21 r.lockTime.toNat
  let record := setBitsLe record 165 5 r.cn0Code.toNat
  setBitsLe record 170 6 r.glonassFrequencyNumber.toNat

@[simp] theorem length_appendObsvmcmpRecord (r : ObsvmcmpRecord) :
    (appendObsvmcmpRecord r).length = 24 := by
  simp [appendObsvmcmpRecord]

/-- **All ten fields of a record** read back. -/
theorem bitsOf_appendObsvmcmpRecord (r : ObsvmcmpRecord) :
    bitsOf (appendObsvmcmpRecord r) 0 32 = r.trackingStatus.toNat ∧
    bitsOf (appendObsvmcmpRecord r) 32 28 = r.doppler.toNat ∧
    bitsOf (appendObsvmcmpRecord r) 60 36 = r.pseudorange.toNat ∧
    bitsOf (appendObsvmcmpRecord r) 96 32 = r.carrierPhase.toNat ∧
    bitsOf (appendObsvmcmpRecord r) 128 4 = r.pseudorangeStdIndex.toNat ∧
    bitsOf (appendObsvmcmpRecord r) 132 4 = r.carrierPhaseStdIndex.toNat ∧
    bitsOf (appendObsvmcmpRecord r) 136 8 = r.prn.toNat ∧
    bitsOf (appendObsvmcmpRecord r) 144 21 = r.lockTime.toNat ∧
    bitsOf (appendObsvmcmpRecord r) 165 5 = r.cn0Code.toNat ∧
    bitsOf (appendObsvmcmpRecord r) 170 6 = r.glonassFrequencyNumber.toNat := by
  have hsame : ∀ {out : Bytes} {offset count bits : ℕ}, out.length = 24 →
      offset + count ≤ 192 → bits < 2 ^ count →
      bitsOf (setBitsLe out offset count bits) offset count = bits :=
    fun hlen h hbits => bitsOf_setBitsLe_same (by omega) hbits
  have hdisjoint : ∀ {out : Bytes} {offset count bits offset' count' : ℕ}, out.length = 24 →
      offset + count ≤ 192 → offset' + count' ≤ offset →
      bitsOf (setBitsLe out offset count bits) offset' count' = bitsOf out offset' count' :=
    fun hlen h hd => bitsOf_setBitsLe_disjoint (by omega) (.inl hd)
  refine ⟨?_, ?_, ?_, ?_, ?_, ?_, ?_, ?_, ?_, ?_⟩
  all_goals
    simp (disch := first | omega | simp) only [appendObsvmcmpRecord, hdisjoint]
    exact hsame (by simp) (by omega) (BitVec.isLt _)

/-! ### Observations -/

/-- The observation a record stands for. -/
def observation (r : ObsvmcmpRecord) : RawObservationEntry :=
  let status := r.trackingStatus.toNat
  let systemId : ℕ := status / 2 ^ 16 % 2 ^ 3
  let signalType : ℕ := status / 2 ^ 21 % 2 ^ 5
  let constellation := constellationNameFromSystemId systemId
  let channel : ℤ :=
    if systemId = 1 ∧ r.glonassFrequencyNumber.toNat ≠ 0 then r.glonassFrequencyNumber.toNat - 7
    else -1
  let pseudorangeValid := status.testBit 20
  let carrierPhaseValid := status.testBit 19
  { trackingStatus := r.trackingStatus
    systemId := systemId
    signalType := signalType
    constellation := constellation
    signalBand :=
      obsvmcmpSignalBand constellation (UInt32.ofNat signalType) (status.testBit 26)
    glonassFrequencyChannel := channel
    satelliteId := obsvmcmpSatelliteId constellation r.prn.toNat channel
    pseudorangeValid := pseudorangeValid
    carrierPhaseValid := carrierPhaseValid
    dopplerHz := r.doppler.toInt / 256
    pseudorangeM := if pseudorangeValid then r.pseudorange.toNat / 128 else -1
    carrierPhaseCycles := if carrierPhaseValid then r.carrierPhase.toInt / 256 else -1
    pseudorangeStdM :=
      if pseudorangeValid then psrStdLookup.getD r.pseudorangeStdIndex.toNat 0 else -1
    carrierPhaseStdCycles :=
      if carrierPhaseValid then (r.carrierPhaseStdIndex.toNat + 1) / 512 else -1
    lockTimeSec := r.lockTime.toNat / 32
    cn0DbHz := if r.cn0Code = 0 then 0 else 20 + r.cn0Code.toNat }

/-- A bit field of a status word. -/
theorem toNat_shiftRight_and (status : UInt32) {shift mask : UInt32} {k n : ℕ}
    (hshift : shift.toNat = k) (hk : k < 32) (hmask : mask.toNat = 2 ^ n - 1) :
    ((status >>> shift) &&& mask).toNat = status.toNat / 2 ^ k % 2 ^ n := by
  rw [UInt32.toNat_and, UInt32.toNat_shiftRight, hshift, Nat.mod_eq_of_lt hk,
    Nat.shiftRight_eq_div_pow, hmask, Nat.and_two_pow_sub_one_eq_mod]

/-- One bit of a status word. -/
theorem shiftRight_and_one_status (status : UInt32) {shift : UInt32} {k : ℕ}
    (hshift : shift.toNat = k) (hk : k < 32) :
    ((status >>> shift) &&& 1 != 0) = status.toNat.testBit k := by
  have hval : ((status >>> shift) &&& 1).toNat = status.toNat / 2 ^ k % 2 ^ 1 :=
    toNat_shiftRight_and status hshift hk rfl
  rw [Nat.testBit_eq_decide_div_mod_eq, Bool.eq_iff_iff, bne_iff_ne, decide_eq_true_iff, ne_eq,
    ← UInt32.toNat_inj, hval, UInt32.toNat_zero]
  omega

/-- GLONASS is the one system with this name. -/
theorem constellationName_eq_glo (n : ℕ) :
    constellationNameFromSystemId n = ascii "GLO" ↔ n = 1 := by
  constructor
  · intro h
    unfold constellationNameFromSystemId at h
    split at h
    case h_2 heq => exact_mod_cast heq
    all_goals exact absurd h (by decide)
  · rintro rfl
    rfl

/-- **One record** is read as the observation it stands for. -/
theorem obsvmcmpbEntry_append (front back : Bytes) (r : ObsvmcmpRecord) :
    obsvmcmpbEntry (front ++ appendObsvmcmpRecord r ++ back) front.length =
      value (observation r) := by
  have hlen := length_appendObsvmcmpRecord r
  have hrange : HasRange (front ++ appendObsvmcmpRecord r ++ back) front.length 24 := by
    simp only [HasRange, List.length_append, hlen]
    omega
  have hread : ∀ {offset count}, offset + count ≤ 192 →
      readBitsLe (front ++ appendObsvmcmpRecord r ++ back) front.length offset count =
        value (bitsOf (appendObsvmcmpRecord r) offset count) :=
    fun h => readBitsLe_append front _ back (by omega)
  obtain ⟨hts, hdop, hpsr, hadr, hpsrStd, hadrStd, hprn, hlock, hcn0, hglo⟩ :=
    bitsOf_appendObsvmcmpRecord r
  have hstatus : UInt32.ofNat r.trackingStatus.toNat = r.trackingStatus := UInt32.ofNat_toNat
  have hdoppler := signExtend_toNat (by decide) (by decide) r.doppler
  have hcarrier := signExtend_toNat (by decide) (by decide) r.carrierPhase
  have hsystem : (obsvmcmpSystemId r.trackingStatus).toNat =
      r.trackingStatus.toNat / 2 ^ 16 % 2 ^ 3 :=
    toNat_shiftRight_and r.trackingStatus rfl (by decide) rfl
  have htype : (obsvmcmpSignalType r.trackingStatus).toNat =
      r.trackingStatus.toNat / 2 ^ 21 % 2 ^ 5 :=
    toNat_shiftRight_and r.trackingStatus rfl (by decide) rfl
  have htypeWord : obsvmcmpSignalType r.trackingStatus =
      UInt32.ofNat (r.trackingStatus.toNat / 2 ^ 21 % 2 ^ 5) := by
    rw [← htype, UInt32.ofNat_toNat]
  rw [htypeWord] at htype
  have hpsrValid : obsvmcmpPseudorangeValid r.trackingStatus =
      r.trackingStatus.toNat.testBit 20 :=
    shiftRight_and_one_status r.trackingStatus rfl (by decide)
  have hcarrierValid : obsvmcmpCarrierPhaseValid r.trackingStatus =
      r.trackingStatus.toNat.testBit 19 :=
    shiftRight_and_one_status r.trackingStatus rfl (by decide)
  have hl2c : obsvmcmpL2cFlag r.trackingStatus = r.trackingStatus.toNat.testBit 26 :=
    shiftRight_and_one_status r.trackingStatus rfl (by decide)
  have hindex : ∀ i : BitVec 4, obsvmcmpPsrStdM i.toNat = psrStdLookup.getD i.toNat 0 := by
    intro i
    rw [obsvmcmpPsrStdM, show i.toNat &&& 0x0F = i.toNat from by
      rw [show 0x0F = 2 ^ 4 - 1 from rfl, Nat.and_two_pow_sub_one_eq_mod,
        Nat.mod_eq_of_lt i.isLt]]
  have hcode : r.cn0Code.toNat = 0 ↔ r.cn0Code = 0 := by
    rw [← BitVec.toNat_inj]
    rfl
  rw [obsvmcmpbEntry, require_true hrange]
  simp (disch := omega) only [value_bind, hread, pure_eq, hts, hdop, hpsr, hadr, hpsrStd, hadrStd,
    hprn, hlock, hcn0, hglo, hstatus, hdoppler, hcarrier, hsystem, htypeWord, htype, hpsrValid,
    hcarrierValid, hl2c, hindex, hcode, observation, satsinfoConstellationNameFromSystemId,
    constellationName_eq_glo, Nat.pos_iff_ne_zero, gt_iff_lt]

/-! ### Payloads -/

/-- The payload with these records. -/
def obsvmcmpPayload (records : List ObsvmcmpRecord) : Bytes :=
  le32 (UInt32.ofNat records.length) ++ records.flatMap appendObsvmcmpRecord

theorem length_obsvmcmpPayload (records : List ObsvmcmpRecord) :
    (obsvmcmpPayload records).length = 4 + records.length * 24 := by
  simp [obsvmcmpPayload, le32, List.length_flatMap]
  omega

variable {records : List ObsvmcmpRecord}

/-- Record `i` of a payload is read where it stands. -/
theorem obsvmcmpbEntry_payload {i : ℕ} {r : ObsvmcmpRecord} (h : records[i]? = some r) :
    obsvmcmpbEntry (obsvmcmpPayload records) (4 + i * 24) = value (observation r) := by
  obtain ⟨front, back, hsplit, hfront⟩ :=
    Cursor.exists_split_flatMap appendObsvmcmpRecord 24 length_appendObsvmcmpRecord h
  have hoffset : (le32 (UInt32.ofNat records.length) ++ front).length = 4 + i * 24 := by
    rw [List.length_append, hfront]
    rfl
  rw [obsvmcmpPayload, hsplit, ← List.append_assoc, ← List.append_assoc, ← hoffset,
    obsvmcmpbEntry_append]

/-- **The payload of a list of records** is parsed to their observations. -/
theorem parseObsvmcmpb_encode (h : records.length < 2 ^ 31) :
    parseObsvmcmpb (obsvmcmpPayload records) = value {
      sentenceType := ascii "OBSVMCMPB"
      rawObservations := some {
        observationCount := records.length
        entries := records.map observation } } := by
  have hlen := length_obsvmcmpPayload records
  have hcount : (UInt32.ofNat records.length).toNat = records.length := by
    rw [UInt32.toNat_ofNat', Nat.mod_eq_of_lt (by omega)]
  have hread : readU32 (obsvmcmpPayload records) 0 = value (UInt32.ofNat records.length) :=
    readU32_le32 [] (records.flatMap appendObsvmcmpRecord) (UInt32.ofNat records.length)
  have hloop : forRange (fun i => obsvmcmpbEntry (obsvmcmpPayload records) (4 + i * 24))
      records.length = value (records.map observation) :=
    forRange_map records fun _ _ hr => obsvmcmpbEntry_payload hr
  have hint : toInt records.length = records.length := toInt_of_lt (by omega) (by omega)
  rw [parseObsvmcmpb, require_true (by omega), value_bind, hread, value_bind, hcount,
    require_true (by omega), value_bind, hloop, value_bind, hint, pure_eq]

/-- **Every proper beginning of it** is refused. -/
theorem parseObsvmcmpb_part (h : records.length < 2 ^ 31) {part : Bytes}
    (hpart : part <+: obsvmcmpPayload records) (hne : part ≠ obsvmcmpPayload records) :
    parseObsvmcmpb part = refused := by
  have hlen := length_obsvmcmpPayload records
  have hshort : part.length < 4 + records.length * 24 := by
    rw [← hlen]
    exact lt_of_le_of_ne hpart.length_le fun heq => hne (hpart.eq_of_length heq)
  by_cases hfour : 4 ≤ part.length
  · have hcount : (UInt32.ofNat records.length).toNat = records.length := by
      rw [UInt32.toNat_ofNat', Nat.mod_eq_of_lt (by omega)]
    obtain ⟨rest, rfl⟩ : ∃ rest, part = le32 (UInt32.ofNat records.length) ++ rest := by
      rcases Cursor.prefix_append_cases hpart with ⟨hcut, hcut'⟩ | ⟨rest, rfl, -⟩
      · exact absurd (hcut.eq_of_length_le hfour) hcut'
      · exact ⟨rest, rfl⟩
    have hread : readU32 (le32 (UInt32.ofNat records.length) ++ rest) 0 =
        value (UInt32.ofNat records.length) := readU32_le32 [] rest (UInt32.ofNat records.length)
    rw [parseObsvmcmpb, require_true hfour, value_bind, hread, value_bind, hcount,
      require_false (by omega), refused_bind]
  · rw [parseObsvmcmpb, require_false hfour, refused_bind]

/-- **OBSVMCMPB frames**: with fewer than `2 ^ 31` records every frame that carries their payload
is parsed to their observations, and none that carries a proper beginning of it is. -/
theorem parse_obsvmcmpb (math : MathFunctions) (frame : UnicoreBinaryFrame)
    (hid : frame.messageId = 138) (h : records.length < 2 ^ 31) :
    (frame.payload = obsvmcmpPayload records →
      parse math frame = value {
        sentenceType := ascii "OBSVMCMPB"
        rawObservations := some {
          observationCount := records.length
          entries := records.map observation } }) ∧
    (frame.payload <+: obsvmcmpPayload records → frame.payload ≠ obsvmcmpPayload records →
      parse math frame = refused) := by
  have hparse : parse math frame = parseObsvmcmpb frame.payload := by
    rw [parse, hid]
    rfl
  refine ⟨fun hpayload => ?_, fun hpart hne => ?_⟩
  · rw [hparse, hpayload, parseObsvmcmpb_encode h]
  · rw [hparse, parseObsvmcmpb_part h hpart hne]

/-- A record of a GLONASS satellite on channel `-2`, with a Doppler of `-1/2` Hz. -/
def sampleRecord : ObsvmcmpRecord where
  trackingStatus := 0x00190000
  doppler := -128
  pseudorange := 0x9A5E2B3C1
  carrierPhase := -1
  pseudorangeStdIndex := 15
  carrierPhaseStdIndex := 3
  prn := 45
  lockTime := 0x1FFFFF
  cn0Code := 0
  glonassFrequencyNumber := 5

/-- Its payload, and the payload without its last byte. -/
theorem parse_obsvmcmpb_sampleRecord :
    parse ⟨id, id⟩ { messageId := 138, payload := obsvmcmpPayload [sampleRecord] } = value {
      sentenceType := ascii "OBSVMCMPB"
      rawObservations := some { observationCount := 1, entries := [observation sampleRecord] } } ∧
    parse ⟨id, id⟩ { messageId := 138, payload := (obsvmcmpPayload [sampleRecord]).take 27 } =
      refused :=
  ⟨(parse_obsvmcmpb _ _ rfl (by decide : [sampleRecord].length < 2 ^ 31)).1 rfl,
    (parse_obsvmcmpb _ _ rfl (by decide : [sampleRecord].length < 2 ^ 31)).2
      (List.take_prefix _ _)
      fun h => absurd (congrArg List.length h) (by simp [length_obsvmcmpPayload])⟩

end UnicoreBinaryNavParser

end UnicoreGnss
