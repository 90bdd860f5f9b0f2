import UnicoreGnss.Parser.Bestnav

/-!
# Logs of a fixed layout

BESTNAV, RTKSTATUS, RTCMSTATUS, AGC, HWSTATUS, JAMSTATUS and FREQJAMSTATUS have a fixed number of
fields. `FixedLog` is a record of one of these logs, with values as wide as the binary layout has
them. Masks and flag words are written in hexadecimal, counts in decimal, and codes by their names.

## Main results

* `parseRtkstatusa_fields`, `parseRtkstatusb_payload`, … — what each parser makes of a record
* `fixedLog_parsers` — both parsers, chosen by the name and by the message id of the log, hand out
  the data of the record
-/

namespace UnicoreGnss

open CNumber Checked Ieee754

variable (math : MathFunctions) (around : Surroundings)

/-! ### RTKSTATUS -/

/-- The fields that both formats of an RTKSTATUS have. -/
structure RtkstatusRecord where
  gpsSourceMask : UInt32
  bdsSourceMask1 : UInt32
  bdsSourceMask2 : UInt32
  glonassSourceMask : UInt32
  galileoSourceMask1 : UInt32
  galileoSourceMask2 : UInt32
  qzssSourceMask : UInt32
  positionType : UInt32
  calculateStatus : UInt32
  ionDetected : UInt8
  dualRtkFlag : UInt8
  adrObservationCount : UInt8

namespace RtkstatusRecord

variable (r : RtkstatusRecord)

/-- What the parsers are to say. -/
def data : RtkStatusData where
  gpsSourceMask := r.gpsSourceMask
  bdsSourceMask1 := r.bdsSourceMask1
  bdsSourceMask2 := r.bdsSourceMask2
  glonassSourceMask := r.glonassSourceMask
  galileoSourceMask1 := r.galileoSourceMask1
  galileoSourceMask2 := r.galileoSourceMask2
  qzssSourceMask := r.qzssSourceMask
  positionType := UnicoreBinaryNavParser.positionTypeName r.positionType
  fixQuality := UnicoreBinaryNavParser.positionTypeToGgaQuality r.positionType
  calculateStatus := toInt r.calculateStatus.toNat
  ionDetected := r.ionDetected.toNat
  dualRtkFlag := r.dualRtkFlag.toNat
  adrObservationCount := r.adrObservationCount.toNat

/-- The data fields from index 10 on. -/
def asciiData : List Bytes :=
  [around.field 10, hexText (around.format 11) r.bdsSourceMask1.toNat,
    hexText (around.format 12) r.bdsSourceMask2.toNat, around.field 13,
    hexText (around.format 14) r.glonassSourceMask.toNat, around.field 15,
    hexText (around.format 16) r.galileoSourceMask1.toNat,
    hexText (around.format 17) r.galileoSourceMask2.toNat,
    hexText (around.format 18) r.qzssSourceMask.toNat, around.field 19,
    UnicoreBinaryNavParser.positionTypeName r.positionType, decimal r.calculateStatus.toNat,
    decimal r.ionDetected.toNat, decimal r.dualRtkFlag.toNat,
    decimal r.adrObservationCount.toNat] ++ around.fieldsBehind

/-- The fields of an RTKSTATUSA with the record. -/
def asciiFields : List Bytes :=
  (around.named (ascii "RTKSTATUSA")).fields (hexText (around.format 9) r.gpsSourceMask.toNat)
    (r.asciiData around)

/-- The payload, piece by piece. -/
def pieces : List Bytes :=
  [le32 r.gpsSourceMask, around.bytes 4 4, le32 r.bdsSourceMask1, le32 r.bdsSourceMask2,
    around.bytes 16 4, le32 r.glonassSourceMask, around.bytes 24 4, le32 r.galileoSourceMask1,
    le32 r.galileoSourceMask2, le32 r.qzssSourceMask, around.bytes 40 4, le32 r.positionType,
    le32 r.calculateStatus, [r.ionDetected, r.dualRtkFlag, r.adrObservationCount],
    around.bytes 55 1, around.bytesBehind]

end RtkstatusRecord

/-- **The text parser** on RTKSTATUSA. -/
theorem parseRtkstatusa_fields (r : RtkstatusRecord) :
    UnicoreParser.parseRtkstatusa (r.asciiFields around) = value {
      sentenceType := ascii "RTKSTATUSA"
      rtkStatus := some r.data } := by
  have hlen : 24 < (r.asciiFields around).length := by
    rw [RtkstatusRecord.asciiFields, UnicoreParser.length_fields]
    simp [RtkstatusRecord.asciiData]
    omega
  have hhex : ∀ {i format} {v : UInt32}, (r.asciiData around)[i]? = some (hexText format v.toNat) →
      UnicoreParser.hexAt (r.asciiFields around) (10 + i) = value v :=
    fun h => UnicoreParser.hexAt_fields _ _ _ h
  have hbyte : ∀ {i} {b : UInt8}, (r.asciiData around)[i]? = some (decimal b.toNat) →
      UnicoreParser.intAt (r.asciiFields around) (10 + i) =
        value (b.toNat : ℤ) :=
    fun h => UnicoreParser.intAt_fields_byte _ _ _ h
  have h9 : get (r.asciiFields around) 9 = value (around.header.last ++ semicolon ::
      hexText (around.format 9) r.gpsSourceMask.toNat) := UnicoreParser.get_fields_nine _ _ _
  have h11 := hhex (i := 1) (v := r.bdsSourceMask1) rfl
  have h12 := hhex (i := 2) (v := r.bdsSourceMask2) rfl
  have h14 := hhex (i := 4) (v := r.glonassSourceMask) rfl
  have h16 := hhex (i := 6) (v := r.galileoSourceMask1) rfl
  have h17 := hhex (i := 7) (v := r.galileoSourceMask2) rfl
  have h18 := hhex (i := 8) (v := r.qzssSourceMask) rfl
  have h20 : get (r.asciiFields around) (10 + 10) =
      value (UnicoreBinaryNavParser.positionTypeName r.positionType) :=
    UnicoreParser.get_fields _ _ _ rfl
  have h21 : UnicoreParser.intAt (r.asciiFields around) (10 + 11) =
      value (toInt r.calculateStatus.toNat) := UnicoreParser.intAt_fields_word _ _ _ rfl
  have h22 := hbyte (i := 12) (b := r.ionDetected) rfl
  have h23 := hbyte (i := 13) (b := r.dualRtkFlag) rfl
  have h24 := hbyte (i := 14) (b := r.adrObservationCount) rfl
  rw [UnicoreParser.parseRtkstatusa, require_true hlen]
  simp only [value_bind, h9, h11, h12, h14, h16, h17, h18, h20, h21, h22, h23, h24,
    UnicoreParser.fieldAfterSemicolon_append around.header.notMem_last, ofOption_some,
    UnicoreParser.parseUint32_hexText, positionTypeToGgaQuality_name]
  rfl

/-- **The binary parser** on RTKSTATUSB. -/
theorem parseRtkstatusb_payload (r : RtkstatusRecord) :
    UnicoreBinaryNavParser.parseRtkstatusb (r.pieces around).flatten = value {
      sentenceType := ascii "RTKSTATUSB"
      rtkStatus := some r.data } := by
  have hsizes : (r.pieces around).map List.length =
      [4, 4, 4, 4, 4, 4, 4, 4, 4, 4, 4, 4, 4, 3, 1, around.bytesBehind.length] := by
    simp only [RtkstatusRecord.pieces, List.map_cons, List.map_nil, Surroundings.length_bytes]
    rfl
  have hmin : 56 ≤ (r.pieces around).flatten.length := by
    rw [List.length_flatten, hsizes]
    simp
    omega
  have h0 := UnicoreBinaryNavParser.readU32_flatten hsizes 0 0 rfl (by simp)
  have h8 := UnicoreBinaryNavParser.readU32_flatten hsizes 2 8 rfl (by simp)
  have h12 := UnicoreBinaryNavParser.readU32_flatten hsizes 3 12 rfl (by simp)
  have h20 := UnicoreBinaryNavParser.readU32_flatten hsizes 5 20 rfl (by simp)
  have h28 := UnicoreBinaryNavParser.readU32_flatten hsizes 7 28 rfl (by simp)
  have h32 := UnicoreBinaryNavParser.readU32_flatten hsizes 8 32 rfl (by simp)
  have h36 := UnicoreBinaryNavParser.readU32_flatten hsizes 9 36 rfl (by simp)
  have h44 := UnicoreBinaryNavParser.readU32_flatten hsizes 11 44 rfl (by simp)
  have h48 := UnicoreBinaryNavParser.readU32_flatten hsizes 12 48 rfl (by simp)
  have h52 := UnicoreBinaryNavParser.readU8_flatten hsizes 13 0 52 rfl rfl (by simp)
  have h53 := UnicoreBinaryNavParser.readU8_flatten hsizes 13 1 53 rfl rfl (by simp)
  have h54 := UnicoreBinaryNavParser.readU8_flatten hsizes 13 2 54 rfl rfl (by simp)
  rw [UnicoreBinaryNavParser.parseRtkstatusb, require_true hmin]
  simp only [value_bind, h0, h8, h12, h20, h28, h32, h36, h44, h48, h52, h53, h54]
  rfl

/-! ### RTCMSTATUS -/

/-- The fields that both formats of an RTCMSTATUS have. -/
structure RtcmstatusRecord where
  messageId : UInt32
  messageCount : UInt32
  baseStationId : UInt32
  satelliteCount : UInt32
  observableCount : Vector UInt8 6

namespace RtcmstatusRecord

variable (r : RtcmstatusRecord)

/-- What the parsers are to say. -/
def data : RtcmStatusData where
  messageId := toInt r.messageId.toNat
  messageCount := toInt r.messageCount.toNat
  baseStationId := toInt r.baseStationId.toNat
  satelliteCount := toInt r.satelliteCount.toNat
  observableCount := r.observableCount.toList.map fun count => (count.toNat : ℤ)

/-- The data fields from index 10 on. -/
def asciiData : List Bytes :=
  [decimal r.messageCount.toNat, decimal r.baseStationId.toNat, decimal r.satelliteCount.toNat] ++
    r.observableCount.toList.map (fun count => decimal count.toNat) ++ around.fieldsBehind

/-- The fields of an RTCMSTATUSA with the record. -/
def asciiFields : List Bytes :=
  (around.named (ascii "RTCMSTATUSA")).fields (decimal r.messageId.toNat) (r.asciiData around)

/-- The payload, piece by piece. -/
def pieces : List Bytes :=
  [le32 r.messageId, le32 r.messageCount, le32 r.baseStationId, le32 r.satelliteCount,
    r.observableCount.toList, around.bytesBehind]

end RtcmstatusRecord

/-- **The text parser** on RTCMSTATUSA. -/
theorem parseRtcmstatusa_fields (r : RtcmstatusRecord) :
    UnicoreParser.parseRtcmstatusa (r.asciiFields around) = value {
      sentenceType := ascii "RTCMSTATUSA"
      rtcmStatus := some r.data } := by
  have hlen : 18 < (r.asciiFields around).length := by
    rw [RtcmstatusRecord.asciiFields, UnicoreParser.length_fields]
    simp [RtcmstatusRecord.asciiData]
    omega
  have hword : ∀ {i} {v : UInt32}, (r.asciiData around)[i]? = some (decimal v.toNat) →
      UnicoreParser.intAt (r.asciiFields around) (10 + i) = value (toInt v.toNat) :=
    fun h => UnicoreParser.intAt_fields_word _ _ _ h
  have hid := r.messageId.toNat_lt
  have h9 : UnicoreParser.dataIntAt (r.asciiFields around) 9 = value (toInt r.messageId.toNat) :=
    UnicoreParser.dataIntAt_fields_decimal _ _ (by omega)
  have h10 := hword (i := 0) (v := r.messageCount) rfl
  have h11 := hword (i := 1) (v := r.baseStationId) rfl
  have h12 := hword (i := 2) (v := r.satelliteCount) rfl
  -- The six counts stand behind the first three fields.
  have hcount : ∀ i b, r.observableCount.toList[i]? = some b →
      UnicoreParser.intAt (r.asciiFields around) (13 + i) = value (b.toNat : ℤ) := by
    intro i b hb
    have hget : (r.asciiData around)[3 + i]? = some (decimal b.toNat) := by
      have hi := (List.getElem?_eq_some_iff.mp hb).1
      rw [RtcmstatusRecord.asciiData, List.append_assoc,
        List.getElem?_append_right (Nat.le_add_right 3 i)]
      change (_ ++ _)[3 + i - 3]? = _
      rw [Nat.add_sub_cancel_left, List.getElem?_append_left (by rwa [List.length_map]),
        List.getElem?_map, hb, Option.map_some]
    have hread : UnicoreParser.intAt (r.asciiFields around) (10 + (3 + i)) =
        value (b.toNat : ℤ) := UnicoreParser.intAt_fields_byte _ _ _ hget
    rwa [← Nat.add_assoc] at hread
  have hloop := forRange_map r.observableCount.toList hcount
  rw [Vector.length_toList] at hloop
  rw [UnicoreParser.parseRtcmstatusa, require_true hlen]
  simp only [value_bind, h9, h10, h11, h12, hloop]
  rfl

/-- **The binary parser** on RTCMSTATUSB. -/
theorem parseRtcmstatusb_payload (r : RtcmstatusRecord) :
    UnicoreBinaryNavParser.parseRtcmstatusb (r.pieces around).flatten = value {
      sentenceType := ascii "RTCMSTATUSB"
      rtcmStatus := some r.data } := by
  have hsizes : (r.pieces around).map List.length =
      [4, 4, 4, 4, 6, around.bytesBehind.length] := by
    simp only [RtcmstatusRecord.pieces, List.map_cons, List.map_nil, Vector.length_toList]
    rfl
  have hmin : 22 ≤ (r.pieces around).flatten.length := by
    rw [List.length_flatten, hsizes]
    simp
    omega
  have h0 := UnicoreBinaryNavParser.readU32_flatten hsizes 0 0 rfl (by simp)
  have h4 := UnicoreBinaryNavParser.readU32_flatten hsizes 1 4 rfl (by simp)
  have h8 := UnicoreBinaryNavParser.readU32_flatten hsizes 2 8 rfl (by simp)
  have h12 := UnicoreBinaryNavParser.readU32_flatten hsizes 3 12 rfl (by simp)
  have h16 := UnicoreBinaryNavParser.forRange_readU8_flatten hsizes 4 16 (n := 6) rfl (by simp)
  rw [UnicoreBinaryNavParser.parseRtcmstatusb, require_true hmin]
  simp only [value_bind, h0, h4, h8, h12, h16]
  rfl

/-! ### AGC -/

/-- The fields that both formats of an AGC have. -/
structure AgcRecord where
  ant1L1 : Int16
  ant1L2 : Int16
  ant1L5 : Int16
  ant2L1 : Int16
  ant2L2 : Int16
  ant2L5 : Int16

namespace AgcRecord

variable (r : AgcRecord)

/-- What the parsers are to say. -/
def data : AgcData where
  antenna1 := triple r.ant1L1.toInt r.ant1L2.toInt r.ant1L5.toInt
  antenna2 := triple r.ant2L1.toInt r.ant2L2.toInt r.ant2L5.toInt

/-- The data fields from index 10 on. -/
def asciiData : List Bytes :=
  [decimalInt r.ant1L2.toInt, decimalInt r.ant1L5.toInt, around.field 12, around.field 13,
    decimalInt r.ant2L1.toInt, decimalInt r.ant2L2.toInt, decimalInt r.ant2L5.toInt] ++
    around.fieldsBehind

/-- The fields of an AGCA with the record. -/
def asciiFields : List Bytes :=
  (around.named (ascii "AGCA")).fields (decimalInt r.ant1L1.toInt) (r.asciiData around)

/-- The payload, piece by piece. -/
def pieces : List Bytes :=
  [leI16 r.ant1L1.toInt, leI16 r.ant1L2.toInt, leI16 r.ant1L5.toInt, around.bytes 6 4,
    leI16 r.ant2L1.toInt, leI16 r.ant2L2.toInt, leI16 r.ant2L5.toInt, around.bytes 16 4,
    around.bytesBehind]

end AgcRecord

/-- **The text parser** on AGCA. -/
theorem parseAgca_fields (r : AgcRecord) :
    UnicoreParser.parseAgca (r.asciiFields around) = value {
      sentenceType := ascii "AGCA"
      agc := some r.data } := by
  have hlen : 16 < (r.asciiFields around).length := by
    rw [AgcRecord.asciiFields, UnicoreParser.length_fields]
    simp [AgcRecord.asciiData]
    omega
  have hint : ∀ {i} {n : Int16}, (r.asciiData around)[i]? = some (decimalInt n.toInt) →
      UnicoreParser.intAt (r.asciiFields around) (10 + i) = value n.toInt :=
    fun h => UnicoreParser.intAt_fields_int16 _ _ _ h
  have hle := r.ant1L1.le_toInt
  have hlt := r.ant1L1.toInt_lt
  have h9 : UnicoreParser.dataIntAt (r.asciiFields around) 9 = value r.ant1L1.toInt :=
    UnicoreParser.dataIntAt_fields_nine _ _ (by omega) (by omega)
  have h10 := hint (i := 0) (n := r.ant1L2) rfl
  have h11 := hint (i := 1) (n := r.ant1L5) rfl
  have h14 := hint (i := 4) (n := r.ant2L1) rfl
  have h15 := hint (i := 5) (n := r.ant2L2) rfl
  have h16 := hint (i := 6) (n := r.ant2L5) rfl
  rw [UnicoreParser.parseAgca, require_true hlen]
  simp only [value_bind, h9, h10, h11, h14, h15, h16]
  rfl

/-- **The binary parser** on AGCB. -/
theorem parseAgcb_payload (r : AgcRecord) :
    UnicoreBinaryNavParser.parseAgcb (r.pieces around).flatten = value {
      sentenceType := ascii "AGCB"
      agc := some r.data } := by
  have hsizes : (r.pieces around).map List.length =
      [2, 2, 2, 4, 2, 2, 2, 4, around.bytesBehind.length] := by
    simp only [AgcRecord.pieces, List.map_cons, List.map_nil, Surroundings.length_bytes]
    rfl
  have hmin : 20 ≤ (r.pieces around).flatten.length := by
    rw [List.length_flatten, hsizes]
    simp
    omega
  have h0 := UnicoreBinaryNavParser.readI16_flatten hsizes 0 0 rfl (by simp)
  have h2 := UnicoreBinaryNavParser.readI16_flatten hsizes 1 2 rfl (by simp)
  have h4 := UnicoreBinaryNavParser.readI16_flatten hsizes 2 4 rfl (by simp)
  have h10 := UnicoreBinaryNavParser.readI16_flatten hsizes 4 10 rfl (by simp)
  have h12 := UnicoreBinaryNavParser.readI16_flatten hsizes 5 12 rfl (by simp)
  have h14 := UnicoreBinaryNavParser.readI16_flatten hsizes 6 14 rfl (by simp)
  rw [UnicoreBinaryNavParser.parseAgcb, require_true hmin]
  simp only [value_bind, h0, h2, h4, h10, h12, h14]
  rfl

/-! ### HWSTATUS -/

/-- The fields that both formats of an HWSTATUS have. -/
structure HwstatusRecord where
  dc09 : SharedFloat
  dc10 : SharedFloat
  dc18 : SharedFloat
  clockFlag : UInt32
  clockDrift : SharedFloat
  hwFlag : UInt8
  pllLock : UInt16

namespace HwstatusRecord

variable (r : HwstatusRecord)

/-- What the parsers are to say. -/
def data : HwStatusData where
  dc09V := r.dc09.number
  dc10V := r.dc10.number
  dc18V := r.dc18.number
  clockFlag := toInt r.clockFlag.toNat
  clockDriftMps := r.clockDrift.number
  hwFlag := r.hwFlag.toNat
  pllLock := r.pllLock.toNat

/-- The data fields from index 10 on. -/
def asciiData : List Bytes :=
  [r.dc09.text, r.dc10.text, r.dc18.text, decimal r.clockFlag.toNat, r.clockDrift.text,
    around.field 15, hexText (around.format 16) r.hwFlag.toUInt32.toNat, around.field 17,
    hexText (around.format 18) r.pllLock.toUInt32.toNat] ++ around.fieldsBehind

/-- The fields of an HWSTATUSA with the record. -/
def asciiFields : List Bytes :=
  (around.named (ascii "HWSTATUSA")).fields (around.field 9) (r.asciiData around)

/-- The payload, piece by piece. -/
def pieces : List Bytes :=
  [around.bytes 0 4, le32 r.dc09.bits, le32 r.dc10.bits, le32 r.dc18.bits, le32 r.clockFlag,
    le32 r.clockDrift.bits, around.bytes 24 4, [r.hwFlag], around.bytes 29 1, le16 r.pllLock,
    around.bytes 32 8, around.bytesBehind]

end HwstatusRecord

/-- **The text parser** on HWSTATUSA. -/
theorem parseHwstatusa_fields (r : HwstatusRecord) :
    UnicoreParser.parseHwstatusa (r.asciiFields around) = value {
      sentenceType := ascii "HWSTATUSA"
      hwStatus := some r.data } := by
  have hlen : 18 < (r.asciiFields around).length := by
    rw [HwstatusRecord.asciiFields, UnicoreParser.length_fields]
    simp [HwstatusRecord.asciiData]
    omega
  have hdouble : ∀ {i text q}, (r.asciiData around)[i]? = some text →
      UnicoreParser.parseDouble text = some q →
      UnicoreParser.doubleAt (r.asciiFields around) (10 + i) = value q :=
    fun h hq => UnicoreParser.doubleAt_fields _ _ _ h hq
  have h10 := hdouble (i := 0) rfl r.dc09.parseDouble_text
  have h11 := hdouble (i := 1) rfl r.dc10.parseDouble_text
  have h12 := hdouble (i := 2) rfl r.dc18.parseDouble_text
  have h13 : UnicoreParser.intAt (r.asciiFields around) (10 + 3) =
      value (toInt r.clockFlag.toNat) := UnicoreParser.intAt_fields_word _ _ _ rfl
  have h14 := hdouble (i := 4) rfl r.clockDrift.parseDouble_text
  have h16 : UnicoreParser.hexAt (r.asciiFields around) (10 + 6) = value r.hwFlag.toUInt32 :=
    UnicoreParser.hexAt_fields _ _ _ rfl
  have h18 : UnicoreParser.hexAt (r.asciiFields around) (10 + 8) = value r.pllLock.toUInt32 :=
    UnicoreParser.hexAt_fields _ _ _ rfl
  rw [UnicoreParser.parseHwstatusa, require_true hlen]
  simp only [value_bind, h10, h11, h12, h13, h14, h16, h18, UInt8.toNat_toUInt32,
    UInt16.toNat_toUInt32, toInt_byte, toInt_halfword]
  rfl

/-- **The binary parser** on HWSTATUSB. -/
theorem parseHwstatusb_payload (r : HwstatusRecord) :
    UnicoreBinaryNavParser.parseHwstatusb (r.pieces around).flatten = value {
      sentenceType := ascii "HWSTATUSB"
      hwStatus := some r.data } := by
  have hsizes : (r.pieces around).map List.length =
      [4, 4, 4, 4, 4, 4, 4, 1, 1, 2, 8, around.bytesBehind.length] := by
    simp only [HwstatusRecord.pieces, List.map_cons, List.map_nil, Surroundings.length_bytes]
    rfl
  have hmin : 40 ≤ (r.pieces around).flatten.length := by
    rw [List.length_flatten, hsizes]
    simp
    omega
  have h4 := UnicoreBinaryNavParser.readSharedFloat_flatten hsizes 1 4 rfl (by simp)
  have h8 := UnicoreBinaryNavParser.readSharedFloat_flatten hsizes 2 8 rfl (by simp)
  have h12 := UnicoreBinaryNavParser.readSharedFloat_flatten hsizes 3 12 rfl (by simp)
  have h16 := UnicoreBinaryNavParser.readU32_flatten hsizes 4 16 rfl (by simp)
  have h20 := UnicoreBinaryNavParser.readSharedFloat_flatten hsizes 5 20 rfl (by simp)
  have h28 := UnicoreBinaryNavParser.readU8_flatten hsizes 7 0 28 rfl rfl (by simp)
  have h30 := UnicoreBinaryNavParser.readU16_flatten hsizes 9 30 rfl (by simp)
  rw [UnicoreBinaryNavParser.parseHwstatusb, require_true hmin]
  simp only [value_bind, h4, h8, h12, h16, h20, h28, h30]
  rfl

/-! ### JAMSTATUS -/

/-- The fields that both formats of a JAMSTATUS have. -/
structure JamstatusRecord where
  positionType : UInt32
  cwRatio : UInt8
  cwFlag : UInt8

namespace JamstatusRecord

variable (r : JamstatusRecord)

/-- What the parsers are to say. -/
def data : JamStatusData where
  positionType := UnicoreBinaryNavParser.positionTypeName r.positionType
  cwRatio := r.cwRatio.toNat
  cwFlag := r.cwFlag.toNat

/-- The data fields from index 10 on. -/
def asciiData : List Bytes :=
  [decimal r.cwRatio.toNat, decimal r.cwFlag.toNat] ++ around.fieldsBehind

/-- The fields of a JAMSTATUSA with the record. -/
def asciiFields : List Bytes :=
  (around.named (ascii "JAMSTATUSA")).fields
    (UnicoreBinaryNavParser.positionTypeName r.positionType) (r.asciiData around)

/-- The payload, piece by piece. -/
def pieces : List Bytes :=
  [le32 r.positionType, [r.cwRatio, r.cwFlag], around.bytes 6 2, around.bytesBehind]

end JamstatusRecord

/-- **The text parser** on JAMSTATUSA. -/
theorem parseJamstatusa_fields (r : JamstatusRecord) :
    UnicoreParser.parseJamstatusa (r.asciiFields around) = value {
      sentenceType := ascii "JAMSTATUSA"
      jamStatus := some r.data } := by
  have hlen : 11 < (r.asciiFields around).length := by
    rw [JamstatusRecord.asciiFields, UnicoreParser.length_fields]
    simp [JamstatusRecord.asciiData]
    omega
  have hbyte : ∀ {i} {b : UInt8}, (r.asciiData around)[i]? = some (decimal b.toNat) →
      UnicoreParser.intAt (r.asciiFields around) (10 + i) = value (b.toNat : ℤ) :=
    fun h => UnicoreParser.intAt_fields_byte _ _ _ h
  have h9 : get (r.asciiFields around) 9 = value (around.header.last ++ semicolon ::
      UnicoreBinaryNavParser.positionTypeName r.positionType) :=
    UnicoreParser.get_fields_nine _ _ _
  have h10 := hbyte (i := 0) (b := r.cwRatio) rfl
  have h11 := hbyte (i := 1) (b := r.cwFlag) rfl
  rw [UnicoreParser.parseJamstatusa, require_true hlen]
  simp only [value_bind, h9, h10, h11,
    UnicoreParser.fieldAfterSemicolon_append around.header.notMem_last]
  rfl

/-- **The binary parser** on JAMSTATUSB. -/
theorem parseJamstatusb_payload (r : JamstatusRecord) :
    UnicoreBinaryNavParser.parseJamstatusb (r.pieces around).flatten = value {
      sentenceType := ascii "JAMSTATUSB"
      jamStatus := some r.data } := by
  have hsizes : (r.pieces around).map List.length = [4, 2, 2, around.bytesBehind.length] := by
    simp only [JamstatusRecord.pieces, List.map_cons, List.map_nil, Surroundings.length_bytes]
    rfl
  have hmin : 8 ≤ (r.pieces around).flatten.length := by
    rw [List.length_flatten, hsizes]
    simp
    omega
  have h0 := UnicoreBinaryNavParser.readU32_flatten hsizes 0 0 rfl (by simp)
  have h4 := UnicoreBinaryNavParser.readU8_flatten hsizes 1 0 4 rfl rfl (by simp)
  have h5 := UnicoreBinaryNavParser.readU8_flatten hsizes 1 1 5 rfl rfl (by simp)
  rw [UnicoreBinaryNavParser.parseJamstatusb, require_true hmin]
  simp only [value_bind, h0, h4, h5]
  rfl

/-! ### FREQJAMSTATUS -/

/-- The fields that both formats of a FREQJAMSTATUS have. -/
structure FreqjamstatusRecord where
  positionType : UInt32
  l1Ratio : UInt8
  l1Flag : UInt8
  l2Ratio : UInt8
  l2Flag : UInt8
  l5Ratio : UInt8
  l5Flag : UInt8

namespace FreqjamstatusRecord

variable (r : FreqjamstatusRecord)

/-- What the parsers are to say. -/
def data : FreqJamStatusData where
  positionType := UnicoreBinaryNavParser.positionTypeName r.positionType
  cwRatio := triple r.l1Ratio.toNat r.l2Ratio.toNat r.l5Ratio.toNat
  cwFlag := triple r.l1Flag.toNat r.l2Flag.toNat r.l5Flag.toNat

/-- The data fields from index 10 on. -/
def asciiData : List Bytes :=
  [decimal r.l1Ratio.toNat, decimal r.l1Flag.toNat, decimal r.l2Ratio.toNat,
    decimal r.l2Flag.toNat, decimal r.l5Ratio.toNat, decimal r.l5Flag.toNat] ++
    around.fieldsBehind

/-- The fields of a FREQJAMSTATUSA with the record. -/
def asciiFields : List Bytes :=
  (around.named (ascii "FREQJAMSTATUSA")).fields
    (UnicoreBinaryNavParser.positionTypeName r.positionType) (r.asciiData around)

/-- The payload, piece by piece. -/
def pieces : List Bytes :=
  [le32 r.positionType, [r.l1Ratio, r.l1Flag, r.l2Ratio, r.l2Flag, r.l5Ratio, r.l5Flag],
    around.bytes 10 2, around.bytesBehind]

end FreqjamstatusRecord

/-- **The text parser** on FREQJAMSTATUSA. -/
theorem parseFreqjamstatusa_fields (r : FreqjamstatusRecord) :
    UnicoreParser.parseFreqjamstatusa (r.asciiFields around) = value {
      sentenceType := ascii "FREQJAMSTATUSA"
      freqJamStatus := some r.data } := by
  have hlen : 15 < (r.asciiFields around).length := by
    rw [FreqjamstatusRecord.asciiFields, UnicoreParser.length_fields]
    simp [FreqjamstatusRecord.asciiData]
    omega
  have hbyte : ∀ {i} {b : UInt8}, (r.asciiData around)[i]? = some (decimal b.toNat) →
      UnicoreParser.intAt (r.asciiFields around) (10 + i) = value (b.toNat : ℤ) :=
    fun h => UnicoreParser.intAt_fields_byte _ _ _ h
  have h9 : get (r.asciiFields around) 9 = value (around.header.last ++ semicolon ::
      UnicoreBinaryNavParser.positionTypeName r.positionType) :=
    UnicoreParser.get_fields_nine _ _ _
  have h10 := hbyte (i := 0) (b := r.l1Ratio) rfl
  have h11 := hbyte (i := 1) (b := r.l1Flag) rfl
  have h12 := hbyte (i := 2) (b := r.l2Ratio) rfl
  have h13 := hbyte (i := 3) (b := r.l2Flag) rfl
  have h14 := hbyte (i := 4) (b := r.l5Ratio) rfl
  have h15 := hbyte (i := 5) (b := r.l5Flag) rfl
  rw [UnicoreParser.parseFreqjamstatusa, require_true hlen]
  simp only [value_bind, h9, h10, h11, h12, h13, h14, h15,
    UnicoreParser.fieldAfterSemicolon_append around.header.notMem_last]
  rfl

/-- **The binary parser** on FREQJAMSTATUSB. -/
theorem parseFreqjamstatusb_payload (r : FreqjamstatusRecord) :
    UnicoreBinaryNavParser.parseFreqjamstatusb (r.pieces around).flatten = value {
      sentenceType := ascii "FREQJAMSTATUSB"
      freqJamStatus := some r.data } := by
  have hsizes : (r.pieces around).map List.length = [4, 6, 2, around.bytesBehind.length] := by
    simp only [FreqjamstatusRecord.pieces, List.map_cons, List.map_nil, Surroundings.length_bytes]
    rfl
  have hmin : 12 ≤ (r.pieces around).flatten.length := by
    rw [List.length_flatten, hsizes]
    simp
    omega
  have h0 := UnicoreBinaryNavParser.readU32_flatten hsizes 0 0 rfl (by simp)
  have h4 := UnicoreBinaryNavParser.readU8_flatten hsizes 1 0 4 rfl rfl (by simp)
  have h5 := UnicoreBinaryNavParser.readU8_flatten hsizes 1 1 5 rfl rfl (by simp)
  have h6 := UnicoreBinaryNavParser.readU8_flatten hsizes 1 2 6 rfl rfl (by simp)
  have h7 := UnicoreBinaryNavParser.readU8_flatten hsizes 1 3 7 rfl rfl (by simp)
  have h8 := UnicoreBinaryNavParser.readU8_flatten hsizes 1 4 8 rfl rfl (by simp)
  have h9 := UnicoreBinaryNavParser.readU8_flatten hsizes 1 5 9 rfl rfl (by simp)
  rw [UnicoreBinaryNavParser.parseFreqjamstatusb, require_true hmin]
  simp only [value_bind, h0, h4, h5, h6, h7, h8, h9]
  rfl

/-! ### All of them -/

/-- A record of one of the seven logs. -/
inductive FixedLog where
  | bestnav (r : BestnavRecord)
  | rtkstatus (r : RtkstatusRecord)
  | rtcmstatus (r : RtcmstatusRecord)
  | agc (r : AgcRecord)
  | hwstatus (r : HwstatusRecord)
  | jamstatus (r : JamstatusRecord)
  | freqjamstatus (r : FreqjamstatusRecord)

namespace FixedLog

/-- The name of the text log. -/
def asciiName : FixedLog → Bytes
  | bestnav _ => ascii "BESTNAVA"
  | rtkstatus _ => ascii "RTKSTATUSA"
  | rtcmstatus _ => ascii "RTCMSTATUSA"
  | agc _ => ascii "AGCA"
  | hwstatus _ => ascii "HWSTATUSA"
  | jamstatus _ => ascii "JAMSTATUSA"
  | freqjamstatus _ => ascii "FREQJAMSTATUSA"

/-- The name of the binary log. -/
def binaryName : FixedLog → Bytes
  | bestnav _ => ascii "BESTNAVB"
  | rtkstatus _ => ascii "RTKSTATUSB"
  | rtcmstatus _ => ascii "RTCMSTATUSB"
  | agc _ => ascii "AGCB"
  | hwstatus _ => ascii "HWSTATUSB"
  | jamstatus _ => ascii "JAMSTATUSB"
  | freqjamstatus _ => ascii "FREQJAMSTATUSB"

/-- The message id of the binary log. -/
def messageId : FixedLog → UInt16
  | bestnav _ => 2118
  | rtkstatus _ => 509
  | rtcmstatus _ => 2125
  | agc _ => 220
  | hwstatus _ => 218
  | jamstatus _ => 511
  | freqjamstatus _ => 519

/-- The fields of the text log. -/
def asciiFields : FixedLog → List Bytes
  | bestnav r => r.asciiFields around
  | rtkstatus r => r.asciiFields around
  | rtcmstatus r => r.asciiFields around
  | agc r => r.asciiFields around
  | hwstatus r => r.asciiFields around
  | jamstatus r => r.asciiFields around
  | freqjamstatus r => r.asciiFields around

/-- The payload of the binary log. -/
def payload : FixedLog → Bytes
  | bestnav r => (r.pieces around).flatten
  | rtkstatus r => (r.pieces around).flatten
  | rtcmstatus r => (r.pieces around).flatten
  | agc r => (r.pieces around).flatten
  | hwstatus r => (r.pieces around).flatten
  | jamstatus r => (r.pieces around).flatten
  | freqjamstatus r => (r.pieces around).flatten

/-- What a parser is to hand out, under the name of its log. -/
def sentence (name : Bytes) : FixedLog → ParsedSentence
  | bestnav r =>
    { sentenceType := name, bestnav := some r.data, velocity := some (r.velocity math) }
  | rtkstatus r => { sentenceType := name, rtkStatus := some r.data }
  | rtcmstatus r => { sentenceType := name, rtcmStatus := some r.data }
  | agc r => { sentenceType := name, agc := some r.data }
  | hwstatus r => { sentenceType := name, hwStatus := some r.data }
  | jamstatus r => { sentenceType := name, jamStatus := some r.data }
  | freqjamstatus r => { sentenceType := name, freqJamStatus := some r.data }

variable (log : FixedLog)

/-- The first field of the text log is its name. -/
theorem head?_asciiFields : (log.asciiFields around).head? = some log.asciiName := by
  cases log <;> rfl

end FixedLog

/-- **The parsers of a fixed log**, chosen by its name and by its message id, hand out its data,
and differ in nothing but the names they give it. -/
theorem fixedLog_parsers (log : FixedLog) (frame : UnicoreBinaryFrame) :
    ((log.asciiFields around).head?.bind fun first =>
        UnicoreParser.unicoreParser math first (log.asciiFields around)) =
      some (value (log.sentence math log.asciiName)) ∧
    UnicoreBinaryNavParser.parse math
        { frame with messageId := log.messageId, payload := log.payload around } =
      value (log.sentence math log.binaryName) := by
  rw [log.head?_asciiFields, Option.bind_some]
  cases log with
  | bestnav r =>
    exact ⟨congrArg some (parseBestnava_fields math around r), parseBestnavb_payload math around r⟩
  | rtkstatus r =>
    exact ⟨congrArg some (parseRtkstatusa_fields around r), parseRtkstatusb_payload around r⟩
  | rtcmstatus r =>
    exact ⟨congrArg some (parseRtcmstatusa_fields around r), parseRtcmstatusb_payload around r⟩
  | agc r => exact ⟨congrArg some (parseAgca_fields around r), parseAgcb_payload around r⟩
  | hwstatus r =>
    exact ⟨congrArg some (parseHwstatusa_fields around r), parseHwstatusb_payload around r⟩
  | jamstatus r =>
    exact ⟨congrArg some (parseJamstatusa_fields around r), parseJamstatusb_payload around r⟩
  | freqjamstatus r =>
    exact ⟨congrArg some (parseFreqjamstatusa_fields around r),
      parseFreqjamstatusb_payload around r⟩

end UnicoreGnss
