import UnicoreGnss.Lib.LittleEndian
import UnicoreGnss.Transport.Scan

/-!
# Laying out a frame

`make_binary_frame` of `test/test_unicore_transport.cpp`, the encoder the transport's tests are
written with, and the proof that what it lays out is read back: `validFrame_makeBinaryFrame` and
`decodeFrame_makeBinaryFrame`.
-/

namespace UnicoreGnss

open FirstMatch LittleEndian

/-! ### Reading little-endian fields -/

theorem toNat_readLe16 (d : Bytes) :
    (readLe16 d).toNat = (byteAt d 0).toNat + 2 ^ 8 * (byteAt d 1).toNat := by
  have h0 : (byteAt d 0).toNat < 2 ^ 8 := UInt8.toNat_lt _
  have h1 : (byteAt d 1).toNat < 2 ^ 8 := UInt8.toNat_lt _
  have hshift : ((byteAt d 1).toUInt16 <<< 8).toNat = (byteAt d 1).toNat <<< 8 := by
    simp only [UInt16.toNat_shiftLeft, UInt8.toNat_toUInt16, Nat.shiftLeft_eq,
      show UInt16.toNat 8 % 16 = 8 from rfl]
    omega
  rw [readLe16, UInt16.toNat_or, hshift, UInt8.toNat_toUInt16, or_shiftLeft _ h0]

/-- A byte moved up inside a word. -/
theorem toNat_shiftLeft_byte (b : UInt8) {k : UInt32} (hk : k.toNat ≤ 24) :
    (b.toUInt32 <<< k).toNat = b.toNat <<< k.toNat := by
  have hb : b.toNat < 2 ^ 8 := UInt8.toNat_lt _
  have hlt : b.toNat * 2 ^ k.toNat < 2 ^ 32 := by
    calc b.toNat * 2 ^ k.toNat ≤ b.toNat * 2 ^ 24 :=
          Nat.mul_le_mul_left _ (Nat.pow_le_pow_right (by decide) hk)
      _ < 2 ^ 32 := by omega
  rw [UInt32.toNat_shiftLeft, UInt8.toNat_toUInt32, Nat.mod_eq_of_lt (by omega : k.toNat < 32),
    Nat.shiftLeft_eq, Nat.mod_eq_of_lt hlt]

theorem toNat_readLe32 (d : Bytes) :
    (readLe32 d).toNat = (byteAt d 0).toNat + 2 ^ 8 * (byteAt d 1).toNat +
      2 ^ 16 * (byteAt d 2).toNat + 2 ^ 24 * (byteAt d 3).toNat := by
  have h0 : (byteAt d 0).toNat < 2 ^ 8 := UInt8.toNat_lt _
  have h1 : (byteAt d 1).toNat < 2 ^ 8 := UInt8.toNat_lt _
  have h2 : (byteAt d 2).toNat < 2 ^ 8 := UInt8.toNat_lt _
  have h01 := or_shiftLeft (byteAt d 1).toNat h0
  have h012 := or_shiftLeft (n := 16) (byteAt d 2).toNat
    (by omega : (byteAt d 0).toNat + 2 ^ 8 * (byteAt d 1).toNat < 2 ^ 16)
  have h0123 := or_shiftLeft (n := 24) (byteAt d 3).toNat
    (by omega : (byteAt d 0).toNat + 2 ^ 8 * (byteAt d 1).toNat + 2 ^ 16 * (byteAt d 2).toNat <
      2 ^ 24)
  rw [readLe32, UInt32.toNat_or, UInt32.toNat_or, UInt32.toNat_or,
    toNat_shiftLeft_byte _ (by decide), toNat_shiftLeft_byte _ (by decide),
    toNat_shiftLeft_byte _ (by decide), UInt8.toNat_toUInt32]
  simp only [show UInt32.toNat 8 = 8 from rfl, show UInt32.toNat 16 = 16 from rfl,
    show UInt32.toNat 24 = 24 from rfl, h01, h012, h0123]

/-! ### Laying out little-endian fields -/

/-- `append_le16`: the two bytes it appends. -/
def le16 (value : UInt16) : Bytes := [(value &&& 0xFF).toUInt8, ((value >>> 8) &&& 0xFF).toUInt8]

/-- `append_le32`: the four bytes it appends. -/
def le32 (value : UInt32) : Bytes :=
  [(value &&& 0xFF).toUInt8, ((value >>> 8) &&& 0xFF).toUInt8,
    ((value >>> 16) &&& 0xFF).toUInt8, ((value >>> 24) &&& 0xFF).toUInt8]

/-- A byte cut out of a word. -/
theorem toNat_byte16 (value : UInt16) : (value &&& 0xFF).toUInt8.toNat = value.toNat % 2 ^ 8 := by
  rw [UInt16.toNat_toUInt8, UInt16.toNat_and]
  simp [Nat.and_two_pow_sub_one_eq_mod _ 8]

theorem toNat_byte32 (value : UInt32) : (value &&& 0xFF).toUInt8.toNat = value.toNat % 2 ^ 8 := by
  rw [UInt32.toNat_toUInt8, UInt32.toNat_and]
  simp [Nat.and_two_pow_sub_one_eq_mod _ 8]

theorem readLe16_le16 (value : UInt16) (r : Bytes) : readLe16 (le16 value ++ r) = value := by
  have hlt : value.toNat < 2 ^ 16 := value.toNat_lt
  have h0 : (byteAt (le16 value ++ r) 0).toNat = value.toNat % 2 ^ 8 := toNat_byte16 value
  have h1 : (byteAt (le16 value ++ r) 1).toNat = value.toNat / 2 ^ 8 % 2 ^ 8 := by
    rw [← Nat.shiftRight_eq_div_pow]
    exact toNat_byte16 (value >>> 8)
  apply UInt16.toNat_inj.mp
  rw [toNat_readLe16, h0, h1]
  omega

theorem readLe32_le32 (value : UInt32) (r : Bytes) : readLe32 (le32 value ++ r) = value := by
  have hlt : value.toNat < 2 ^ 32 := value.toNat_lt
  have h0 : (byteAt (le32 value ++ r) 0).toNat = value.toNat % 2 ^ 8 := toNat_byte32 value
  have h1 : (byteAt (le32 value ++ r) 1).toNat = value.toNat / 2 ^ 8 % 2 ^ 8 := by
    rw [← Nat.shiftRight_eq_div_pow]
    exact toNat_byte32 (value >>> 8)
  have h2 : (byteAt (le32 value ++ r) 2).toNat = value.toNat / 2 ^ 16 % 2 ^ 8 := by
    rw [← Nat.shiftRight_eq_div_pow]
    exact toNat_byte32 (value >>> 16)
  have h3 : (byteAt (le32 value ++ r) 3).toNat = value.toNat / 2 ^ 24 % 2 ^ 8 := by
    rw [← Nat.shiftRight_eq_div_pow]
    exact toNat_byte32 (value >>> 24)
  apply UInt32.toNat_inj.mp
  rw [toNat_readLe32, h0, h1, h2, h3]
  omega

/-! ### Laying out a frame -/

/-- The header fields the payload does not determine. -/
structure BinaryHeaderOverrides where
  cpuIdle : UInt8 := 17
  timeRef : UInt8 := 1
  timeStatus : UInt8 := 2
  week : UInt16 := 2294
  milliseconds : UInt32 := 472312000
  version : UInt32 := 16
  reserved : UInt8 := 0
  leapSeconds : UInt8 := 18
  delayMs : UInt16 := 97
  deriving DecidableEq, Repr

/-- The first 24 bytes of a frame. -/
def frameHeader (messageId payloadLength : UInt16) (header : BinaryHeaderOverrides) : Bytes :=
  binarySync ++ [header.cpuIdle] ++ le16 messageId ++ le16 payloadLength ++
    [header.timeRef, header.timeStatus] ++ le16 header.week ++ le32 header.milliseconds ++
    le32 header.version ++ [header.reserved, header.leapSeconds] ++ le16 header.delayMs

/-- `make_binary_frame` -/
def makeBinaryFrame (messageId : UInt16) (payload : Bytes) (validCrc : Bool := true)
    (header : BinaryHeaderOverrides := {}) : Bytes :=
  let frame := frameHeader messageId (UInt16.ofNat payload.length) header ++ payload
  let crc := crc32UnicoreBinary frame
  frame ++ le32 (if validCrc then crc else crc ^^^ 0xFFFFFFFF)

/-- A byte string that is one whole frame with a matching CRC. -/
structure ValidFrame (f : Bytes) : Prop where
  /-- It starts with the sync. -/
  sync : startsWithSync f = true
  /-- It is as long as it announces. -/
  size : frameSize f = f.length
  /-- Its CRC matches. -/
  crc : crcOk f = true

/-- What is read back from a header, whatever follows it. -/
theorem frameHeader_fields (messageId payloadLength : UInt16) (header : BinaryHeaderOverrides)
    (r : Bytes) :
    let raw := frameHeader messageId payloadLength header ++ r
    startsWithSync raw = true ∧ raw.length = 24 + r.length ∧ raw.drop 24 = r ∧
      byteAt raw 3 = header.cpuIdle ∧ readLe16 (raw.drop 4) = messageId ∧
      readLe16 (raw.drop 6) = payloadLength ∧ byteAt raw 8 = header.timeRef ∧
      byteAt raw 9 = header.timeStatus ∧ readLe16 (raw.drop 10) = header.week ∧
      readLe32 (raw.drop 12) = header.milliseconds ∧ readLe32 (raw.drop 16) = header.version ∧
      byteAt raw 21 = header.leapSeconds ∧ readLe16 (raw.drop 22) = header.delayMs := by
  refine ⟨startsWithSync_iff.mpr ⟨_, rfl⟩, ?_, rfl, rfl, readLe16_le16 messageId _,
    readLe16_le16 payloadLength _, rfl, rfl, readLe16_le16 header.week _,
    readLe32_le32 header.milliseconds _, readLe32_le32 header.version _, rfl,
    readLe16_le16 header.delayMs _⟩
  rw [List.length_append]
  rfl

theorem frameSize_frameHeader (messageId payloadLength : UInt16) (header : BinaryHeaderOverrides)
    (r : Bytes) : frameSize (frameHeader messageId payloadLength header ++ r) =
      28 + payloadLength.toNat := by
  obtain ⟨-, -, -, -, -, hlen, -⟩ := frameHeader_fields messageId payloadLength header r
  rw [frameSize, hlen, unicoreBinaryHeaderSize, unicoreBinaryCrcSize]
  omega

section MakeFrame

variable {messageId : UInt16} {payload : Bytes} {header : BinaryHeaderOverrides}

/-- The CRC of a frame. -/
def frameCrc (messageId : UInt16) (payload : Bytes) (header : BinaryHeaderOverrides) : UInt32 :=
  crc32UnicoreBinary (frameHeader messageId (UInt16.ofNat payload.length) header ++ payload)

theorem makeBinaryFrame_eq (messageId : UInt16) (payload : Bytes)
    (header : BinaryHeaderOverrides) :
    makeBinaryFrame messageId payload true header =
      frameHeader messageId (UInt16.ofNat payload.length) header ++
        (payload ++ le32 (frameCrc messageId payload header)) := by
  simp [makeBinaryFrame, frameCrc]

theorem length_makeBinaryFrame :
    (makeBinaryFrame messageId payload true header).length = 28 + payload.length := by
  rw [makeBinaryFrame_eq, List.length_append, List.length_append, show
    (frameHeader messageId (UInt16.ofNat payload.length) header).length = 24 from rfl, show
    (le32 (frameCrc messageId payload header)).length = 4 from rfl]
  omega

theorem frameSize_makeBinaryFrame (hlen : payload.length < 2 ^ 16) :
    frameSize (makeBinaryFrame messageId payload true header) = 28 + payload.length := by
  rw [makeBinaryFrame_eq, frameSize_frameHeader, UInt16.toNat_ofNat_of_lt' hlen]

theorem take_makeBinaryFrame :
    (makeBinaryFrame messageId payload true header).take (24 + payload.length) =
      frameHeader messageId (UInt16.ofNat payload.length) header ++ payload := by
  rw [makeBinaryFrame_eq, ← List.append_assoc, List.take_left']
  rw [List.length_append]
  rfl

theorem expectedCrc_makeBinaryFrame (hlen : payload.length < 2 ^ 16) :
    expectedCrc (makeBinaryFrame messageId payload true header) =
      frameCrc messageId payload header := by
  have hdrop : (makeBinaryFrame messageId payload true header).drop (24 + payload.length) =
      le32 (frameCrc messageId payload header) ++ [] := by
    rw [makeBinaryFrame_eq, ← List.append_assoc, List.drop_left', List.append_nil]
    rw [List.length_append]
    rfl
  rw [expectedCrc, frameSize_makeBinaryFrame hlen, show
    28 + payload.length - unicoreBinaryCrcSize = 24 + payload.length by
      rw [unicoreBinaryCrcSize]; omega, hdrop, readLe32_le32]

/-- **What the encoder lays out is a valid frame.** -/
theorem validFrame_makeBinaryFrame (hlen : payload.length < 2 ^ 16) :
    ValidFrame (makeBinaryFrame messageId payload true header) where
  sync := by
    rw [makeBinaryFrame_eq]
    exact (frameHeader_fields messageId _ header _).1
  size := by rw [frameSize_makeBinaryFrame hlen, length_makeBinaryFrame]
  crc := by
    rw [crcOk, expectedCrc_makeBinaryFrame hlen, frameSize_makeBinaryFrame hlen, show
      28 + payload.length - unicoreBinaryCrcSize = 24 + payload.length by
        rw [unicoreBinaryCrcSize]; omega, take_makeBinaryFrame, frameCrc, beq_self_eq_true]

/-- The frame the encoder means. -/
def sentFrame (messageId : UInt16) (payload : Bytes) (header : BinaryHeaderOverrides) :
    UnicoreBinaryFrame where
  headerLength := 24
  cpuIdle := header.cpuIdle
  messageId := messageId
  payloadLength := UInt16.ofNat payload.length
  timeRef := header.timeRef
  timeStatus := header.timeStatus
  week := header.week
  milliseconds := header.milliseconds
  version := header.version
  leapSeconds := header.leapSeconds
  delayMs := header.delayMs
  crcValid := true
  crc32 := frameCrc messageId payload header
  payload := payload

/-- **What the encoder lays out is read back.** -/
theorem decodeFrame_makeBinaryFrame (hlen : payload.length < 2 ^ 16) :
    decodeFrame (makeBinaryFrame messageId payload true header) =
      sentFrame messageId payload header := by
  have hpayload : ((makeBinaryFrame messageId payload true header).drop
      unicoreBinaryHeaderSize).take (28 + payload.length - unicoreBinaryCrcSize -
        unicoreBinaryHeaderSize) = payload := by
    rw [makeBinaryFrame_eq, unicoreBinaryHeaderSize,
      (frameHeader_fields messageId _ header _).2.2.1, List.take_left']
    rw [unicoreBinaryCrcSize]
    omega
  obtain ⟨-, -, -, hcpu, hid, hsize, href, hstatus, hweek, hms, hversion, hleap, hdelay⟩ :=
    frameHeader_fields messageId (UInt16.ofNat payload.length) header
      (payload ++ le32 (frameCrc messageId payload header))
  rw [← makeBinaryFrame_eq] at hcpu hid hsize href hstatus hweek hms hversion hleap hdelay
  simp only [decodeFrame, sentFrame, hcpu, hid, hsize, href, hstatus, hweek, hms, hversion, hleap,
    hdelay, (validFrame_makeBinaryFrame hlen).crc, expectedCrc_makeBinaryFrame hlen,
    frameSize_makeBinaryFrame hlen, hpayload]
  rfl

end MakeFrame

end UnicoreGnss
