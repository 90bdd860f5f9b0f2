import UnicoreGnss.Parser.Pvtsln

/-!
# The position and velocity of BESTNAV

BESTNAV is the log with the most fields: positions, velocities, masks, names of codes and the text
of a base station. The text parser finds a field by its index among the commas, the binary parser
by its offset in the payload, and both pass over reserved fields.

`BestnavRecord` is what a log says, with values as wide as the binary layout has them.
`Surroundings` is everything that both formats of a log leave open; it serves the other logs of a
fixed layout as well.

## Main results

* `parseBestnava_fields`, `parseBestnavb_payload` — what the two parsers make of a record
-/

namespace UnicoreGnss

open CNumber Checked Ieee754

/-! ### What the formats leave open -/

/-- What the formats leave open: how the hexadecimal field at an index is written, what the fields
and bytes contain that no parser reads, and what follows behind the last one that is read. -/
structure Surroundings where
  header : LogHeader
  format : ℕ → HexFormat
  field : ℕ → Bytes
  byte : ℕ → UInt8
  fieldsBehind : List Bytes
  bytesBehind : Bytes

/-- The header of a log with the given name, which is the first field. -/
def Surroundings.named (around : Surroundings) (name : Bytes) : LogHeader where
  front := name :: around.header.front.tail
  last := around.header.last
  length_front := by rw [List.length_cons, List.length_tail, around.header.length_front]
  notMem_last := around.header.notMem_last

/-- The bytes of a reserved part of the payload. -/
def Surroundings.bytes (around : Surroundings) (offset size : ℕ) : Bytes :=
  (List.range size).map fun i => around.byte (offset + i)

@[simp] theorem Surroundings.length_bytes (around : Surroundings) (offset size : ℕ) :
    (around.bytes offset size).length = size := by
  rw [bytes, List.length_map, List.length_range]

/-! ### Records -/

/-- The four bytes of a base station: a text of at most four characters. -/
structure BaseStationId where
  text : Bytes
  length_text : text.length ≤ 4
  notMem_text : (0 : UInt8) ∉ text

theorem BaseStationId.length_padded (id : BaseStationId) :
    (id.text ++ List.replicate (4 - id.text.length) (0 : UInt8)).length = 4 := by
  have := id.length_text
  rw [List.length_append, List.length_replicate]
  omega

/-- The padding of a base station's text is not part of it. -/
theorem BaseStationId.takeWhile_padded (id : BaseStationId) :
    (id.text ++ List.replicate (4 - id.text.length) (0 : UInt8)).takeWhile (· ≠ 0) = id.text := by
  have hne : ∀ c ∈ id.text, decide (c ≠ 0) = true := by
    intro c hc
    have : c ≠ 0 := fun h => id.notMem_text (h ▸ hc)
    simpa using this
  rw [List.takeWhile_append_of_pos hne, List.takeWhile_replicate]
  simp

/-- The fields that both formats of a BESTNAV have. -/
structure BestnavRecord where
  solutionStatus : UInt32
  positionType : UInt32
  latitude : SharedDouble
  longitude : SharedDouble
  height : SharedDouble
  undulation : SharedFloat
  latitudeStd : SharedFloat
  longitudeStd : SharedFloat
  heightStd : SharedFloat
  baseStationId : BaseStationId
  diffAge : SharedFloat
  solAge : SharedFloat
  satellitesTracked : UInt8
  satellitesUsed : UInt8
  extendedSolutionStatus : UInt8
  galileoBds3SignalMask : UInt8
  gpsGlonassBds2SignalMask : UInt8
  velocitySolutionStatus : UInt32
  velocityType : UInt32
  velocityLatency : SharedFloat
  velocityAge : SharedFloat
  horizontalSpeed : SharedDouble
  track : SharedDouble
  verticalSpeed : SharedFloat
  verticalSpeedStd : SharedFloat
  horizontalSpeedStd : SharedFloat

variable (math : MathFunctions) (around : Surroundings)

/-! ### Both encodings -/

namespace BestnavRecord

variable (r : BestnavRecord)

/-- What the parsers are to say. -/
def data : BestNavData where
  solutionStatus := UnicoreBinaryNavParser.solutionStatusName r.solutionStatus
  positionType := UnicoreBinaryNavParser.positionTypeName r.positionType
  fixQuality := UnicoreBinaryNavParser.positionTypeToGgaQuality r.positionType
  latitudeDeg := r.latitude.number
  longitudeDeg := r.longitude.number
  heightMslM := r.height.number
  undulationM := r.undulation.number
  latitudeStdM := r.latitudeStd.number
  longitudeStdM := r.longitudeStd.number
  heightStdM := r.heightStd.number
  baseStationId := r.baseStationId.text
  diffAgeSec := r.diffAge.number
  solAgeSec := r.solAge.number
  satellitesTracked := r.satellitesTracked.toNat
  satellitesUsed := r.satellitesUsed.toNat
  extendedSolutionStatus := r.extendedSolutionStatus.toNat
  galileoBds3SignalMask := r.galileoBds3SignalMask.toNat
  gpsGlonassBds2SignalMask := r.gpsGlonassBds2SignalMask.toNat
  velocitySolutionStatus := UnicoreBinaryNavParser.solutionStatusName r.velocitySolutionStatus
  velocityType := UnicoreBinaryNavParser.positionTypeName r.velocityType
  velocityLatencySec := r.velocityLatency.number
  velocityAgeSec := r.velocityAge.number
  horizontalSpeedMps := r.horizontalSpeed.number
  trackOverGroundDeg := r.track.number
  verticalSpeedMps := r.verticalSpeed.number
  verticalSpeedStdMps := r.verticalSpeedStd.number
  horizontalSpeedStdMps := r.horizontalSpeedStd.number

/-- The velocity the parsers are to derive. -/
def velocity : VelocityData :=
  velocityFromTrack math r.horizontalSpeed.number r.track.number r.verticalSpeed.number
    r.horizontalSpeedStd.number r.verticalSpeedStd.number

/-- The data fields from index 10 on. -/
def asciiData : List Bytes :=
  [UnicoreBinaryNavParser.positionTypeName r.positionType, r.latitude.text, r.longitude.text,
    r.height.text, r.undulation.text, around.field 15, r.latitudeStd.text, r.longitudeStd.text,
    r.heightStd.text, 0x22 :: (r.baseStationId.text ++ [0x22]), r.diffAge.text, r.solAge.text,
    decimal r.satellitesTracked.toNat, decimal r.satellitesUsed.toNat, around.field 24,
    around.field 25, around.field 26,
    hexText (around.format 27) r.extendedSolutionStatus.toUInt32.toNat,
    hexText (around.format 28) r.galileoBds3SignalMask.toUInt32.toNat,
    hexText (around.format 29) r.gpsGlonassBds2SignalMask.toUInt32.toNat,
    UnicoreBinaryNavParser.solutionStatusName r.velocitySolutionStatus,
    UnicoreBinaryNavParser.positionTypeName r.velocityType, r.velocityLatency.text,
    r.velocityAge.text, r.horizontalSpeed.text, r.track.text, r.verticalSpeed.text,
    r.verticalSpeedStd.text, r.horizontalSpeedStd.text] ++ around.fieldsBehind

/-- The fields of a BESTNAVA with the record. -/
def asciiFields : List Bytes :=
  (around.named (ascii "BESTNAVA")).fields
    (UnicoreBinaryNavParser.solutionStatusName r.solutionStatus) (r.asciiData around)

/-- The payload, piece by piece. -/
def pieces : List Bytes :=
  [le32 r.solutionStatus, le32 r.positionType, le64 r.latitude.bits, le64 r.longitude.bits,
    le64 r.height.bits, le32 r.undulation.bits, around.bytes 36 4, le32 r.latitudeStd.bits,
    le32 r.longitudeStd.bits, le32 r.heightStd.bits,
    r.baseStationId.text ++ List.replicate (4 - r.baseStationId.text.length) 0,
    le32 r.diffAge.bits, le32 r.solAge.bits, [r.satellitesTracked, r.satellitesUsed],
    around.bytes 66 3, [r.extendedSolutionStatus, r.galileoBds3SignalMask,
      r.gpsGlonassBds2SignalMask], le32 r.velocitySolutionStatus, le32 r.velocityType,
    le32 r.velocityLatency.bits, le32 r.velocityAge.bits, le64 r.horizontalSpeed.bits,
    le64 r.track.bits, le32 r.verticalSpeed.bits, le32 r.verticalSpeedStd.bits,
    le32 r.horizontalSpeedStd.bits, around.bytesBehind]

end BestnavRecord

/-- **The text parser** on BESTNAVA. -/
theorem parseBestnava_fields (r : BestnavRecord) :
    UnicoreParser.parseBestnava math (r.asciiFields around) = value {
      sentenceType := ascii "BESTNAVA"
      bestnav := some r.data
      velocity := some (r.velocity math) } := by
  have hlen : ¬ (r.asciiFields around).length ≤ 38 := by
    rw [BestnavRecord.asciiFields, UnicoreParser.length_fields]
    simp [BestnavRecord.asciiData]
    omega
  have hdouble : ∀ {i text q}, (r.asciiData around)[i]? = some text →
      UnicoreParser.parseDouble text = some q →
      UnicoreParser.doubleAt (r.asciiFields around) (10 + i) = value q :=
    fun h hq => UnicoreParser.doubleAt_fields _ _ _ h hq
  have hbyte : ∀ {i} {b : UInt8}, (r.asciiData around)[i]? = some (decimal b.toNat) →
      UnicoreParser.intAt (r.asciiFields around) (10 + i) =
        value (b.toNat : ℤ) :=
    fun h => UnicoreParser.intAt_fields_byte _ _ _ h
  have hget : ∀ {i text}, (r.asciiData around)[i]? = some text →
      get (r.asciiFields around) (10 + i) = value text :=
    fun h => UnicoreParser.get_fields _ _ _ h
  have h9 : get (r.asciiFields around) 9 = value (around.header.last ++ semicolon ::
      UnicoreBinaryNavParser.solutionStatusName r.solutionStatus) :=
    UnicoreParser.get_fields_nine _ _ _
  have h10 := hget (i := 0) rfl
  have h11 := hdouble (i := 1) rfl r.latitude.parseDouble_text
  have h12 := hdouble (i := 2) rfl r.longitude.parseDouble_text
  have h13 := hdouble (i := 3) rfl r.height.parseDouble_text
  have h14 := hdouble (i := 4) rfl r.undulation.parseDouble_text
  have h16 := hdouble (i := 6) rfl r.latitudeStd.parseDouble_text
  have h17 := hdouble (i := 7) rfl r.longitudeStd.parseDouble_text
  have h18 := hdouble (i := 8) rfl r.heightStd.parseDouble_text
  have h19 := hget (i := 9) rfl
  have h20 := hdouble (i := 10) rfl r.diffAge.parseDouble_text
  have h21 := hdouble (i := 11) rfl r.solAge.parseDouble_text
  have h22 := hbyte (i := 12) (b := r.satellitesTracked) rfl
  have h23 := hbyte (i := 13) (b := r.satellitesUsed) rfl
  have h27 : UnicoreParser.hexAt (r.asciiFields around) (10 + 17) =
      value r.extendedSolutionStatus.toUInt32 := UnicoreParser.hexAt_fields _ _ _ rfl
  have h28 := hget (i := 18) rfl
  have h29 := hget (i := 19) rfl
  have h30 := hget (i := 20) rfl
  have h31 := hget (i := 21) rfl
  have h32 := hdouble (i := 22) rfl r.velocityLatency.parseDouble_text
  have h33 := hdouble (i := 23) rfl r.velocityAge.parseDouble_text
  have h34 := hdouble (i := 24) rfl r.horizontalSpeed.parseDouble_text
  have h35 := hdouble (i := 25) rfl r.track.parseDouble_text
  have h36 := hdouble (i := 26) rfl r.verticalSpeed.parseDouble_text
  have h37 := hdouble (i := 27) rfl r.verticalSpeedStd.parseDouble_text
  have h38 := hdouble (i := 28) rfl r.horizontalSpeedStd.parseDouble_text
  rw [UnicoreParser.parseBestnava, if_neg hlen]
  simp only [value_bind, h9, h10, h11, h12, h13, h14, h16, h17, h18, h19, h20, h21, h22, h23, h27,
    h28, h29, h30, h31, h32, h33, h34, h35, h36, h37, h38,
    UnicoreParser.fieldAfterSemicolon_append around.header.notMem_last,
    positionTypeToGgaQuality_name, UnicoreParser.parseUint32_hexText,
    UnicoreParser.trimAsciiQuotes_quoted, Option.getD_some]
  simp only [UInt8.toNat_toUInt32, toInt_byte]
  rfl

/-- **The binary parser** on BESTNAVB. -/
theorem parseBestnavb_payload (r : BestnavRecord) :
    UnicoreBinaryNavParser.parseBestnavb math (r.pieces around).flatten = value {
      sentenceType := ascii "BESTNAVB"
      bestnav := some r.data
      velocity := some (r.velocity math) } := by
  have hsizes : (r.pieces around).map List.length =
      [4, 4, 8, 8, 8, 4, 4, 4, 4, 4, 4, 4, 4, 2, 3, 3, 4, 4, 4, 4, 8, 8, 4, 4, 4,
        around.bytesBehind.length] := by
    have hid := r.baseStationId.length_padded
    simp only [BestnavRecord.pieces, List.map_cons, List.map_nil, hid, length_le64,
      Surroundings.length_bytes]
    rfl
  have hmin : 116 ≤ (r.pieces around).flatten.length := by
    rw [List.length_flatten, hsizes]
    simp
    omega
  have h0 := UnicoreBinaryNavParser.readU32_flatten hsizes 0 0 rfl (by simp)
  have h4 := UnicoreBinaryNavParser.readU32_flatten hsizes 1 4 rfl (by simp)
  have h8 := UnicoreBinaryNavParser.readSharedDouble_flatten hsizes 2 8 rfl (by simp)
  have h16 := UnicoreBinaryNavParser.readSharedDouble_flatten hsizes 3 16 rfl (by simp)
  have h24 := UnicoreBinaryNavParser.readSharedDouble_flatten hsizes 4 24 rfl (by simp)
  have h32 := UnicoreBinaryNavParser.readSharedFloat_flatten hsizes 5 32 rfl (by simp)
  have h40 := UnicoreBinaryNavParser.readSharedFloat_flatten hsizes 7 40 rfl (by simp)
  have h44 := UnicoreBinaryNavParser.readSharedFloat_flatten hsizes 8 44 rfl (by simp)
  have h48 := UnicoreBinaryNavParser.readSharedFloat_flatten hsizes 9 48 rfl (by simp)
  have h52 := UnicoreBinaryNavParser.readCharArray_flatten hsizes 10 52 4 rfl
    r.baseStationId.length_padded (by simp)
  have h56 := UnicoreBinaryNavParser.readSharedFloat_flatten hsizes 11 56 rfl (by simp)
  have h60 := UnicoreBinaryNavParser.readSharedFloat_flatten hsizes 12 60 rfl (by simp)
  have h64 := UnicoreBinaryNavParser.readU8_flatten hsizes 13 0 64 rfl rfl (by simp)
  have h65 := UnicoreBinaryNavParser.readU8_flatten hsizes 13 1 65 rfl rfl (by simp)
  have h69 := UnicoreBinaryNavParser.readU8_flatten hsizes 15 0 69 rfl rfl (by simp)
  have h70 := UnicoreBinaryNavParser.readU8_flatten hsizes 15 1 70 rfl rfl (by simp)
  have h71 := UnicoreBinaryNavParser.readU8_flatten hsizes 15 2 71 rfl rfl (by simp)
  have h72 := UnicoreBinaryNavParser.readU32_flatten hsizes 16 72 rfl (by simp)
  have h76 := UnicoreBinaryNavParser.readU32_flatten hsizes 17 76 rfl (by simp)
  have h80 := UnicoreBinaryNavParser.readSharedFloat_flatten hsizes 18 80 rfl (by simp)
  have h84 := UnicoreBinaryNavParser.readSharedFloat_flatten hsizes 19 84 rfl (by simp)
  have h88 := UnicoreBinaryNavParser.readSharedDouble_flatten hsizes 20 88 rfl (by simp)
  have h96 := UnicoreBinaryNavParser.readSharedDouble_flatten hsizes 21 96 rfl (by simp)
  have h104 := UnicoreBinaryNavParser.readSharedFloat_flatten hsizes 22 104 rfl (by simp)
  have h108 := UnicoreBinaryNavParser.readSharedFloat_flatten hsizes 23 108 rfl (by simp)
  have h112 := UnicoreBinaryNavParser.readSharedFloat_flatten hsizes 24 112 rfl (by simp)
  rw [r.baseStationId.takeWhile_padded] at h52
  rw [UnicoreBinaryNavParser.parseBestnavb, require_true hmin]
  simp only [value_bind, h0, h4, h8, h16, h24, h32, h40, h44, h48, h52, h56, h60, h64, h65, h69,
    h70, h71, h72, h76, h80, h84, h88, h96, h104, h108, h112]
  rfl

end UnicoreGnss
