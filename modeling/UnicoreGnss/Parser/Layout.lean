import UnicoreGnss.Lib.Slices
import UnicoreGnss.Parser.Binary
import UnicoreGnss.Parser.Text
import UnicoreGnss.Transport.MakeFrame

/-!
# Fields inside their surroundings

What each field reader makes of the field it is meant for: a little-endian word, an IEEE word, a
written number, wherever it stands in a payload or in a list of fields. The `append_…` helpers of
`test/test_unicore_binary_nav.cpp` lay out the words; `le16` and `le32` are among them.

## Main results

* `fieldBytes_append` — a field of a payload is read where it stands
* `readU32_le32`, `readI16_leI16`, `readFloat32_le32`, `readFloat64_le64` — the word readers
* `parseInt_decimalInt` — a decimal text is read as the `int` it denotes
-/

namespace UnicoreGnss

open CNumber Checked LittleEndian Ieee754

/-- `append_i16`: the two bytes it appends. -/
def leI16 (n : ℤ) : Bytes := le16 (UInt16.ofInt n)

/-- `append_float64`, given the bits: the eight bytes it appends. -/
def le64 (bits : UInt64) : Bytes := leBytes 8 bits.toNat

theorem length_le64 (bits : UInt64) : (le64 bits).length = 8 := length_leBytes 8 _

namespace UnicoreBinaryNavParser

/-! ### Words of a payload -/

/-- **A field of a payload** is read where it stands. -/
theorem fieldBytes_append (front field back : Bytes) :
    fieldBytes (front ++ field ++ back) front.length field.length = value field := by
  have hrange : HasRange (front ++ field ++ back) front.length field.length := by
    simp only [HasRange, List.length_append]
    omega
  have hloop : forRange (fun i => get (front ++ field ++ back) (front.length + i)) field.length =
      value field := forRange_of_getElem? fun i b hb => get_append front back hb
  rw [fieldBytes, require_true hrange, value_bind, hloop]

variable (front back : Bytes)

theorem readU8_append {piece : Bytes} {i : ℕ} {b : UInt8} (h : piece[i]? = some b) :
    readU8 (front ++ piece ++ back) (front.length + i) = value b := by
  have hrange : HasRange (front ++ piece ++ back) (front.length + i) 1 := by
    have := (List.getElem?_eq_some_iff.mp h).1
    simp only [HasRange, List.length_append]
    omega
  have hloop : forRange (fun j => get (front ++ piece ++ back) (front.length + i + j)) 1 =
      value [b] := by
    refine forRange_of_getElem? (l := [b]) fun j c hc => ?_
    obtain ⟨rfl, rfl⟩ : j = 0 ∧ b = c := by
      cases j with
      | zero => exact ⟨rfl, by simpa using hc⟩
      | succ j => simp at hc
    exact get_append front back h
  rw [readU8, fieldBytes, require_true hrange, value_bind, hloop]
  rfl

theorem readU16_le16 (v : UInt16) : readU16 (front ++ le16 v ++ back) front.length = value v := by
  have h := fieldBytes_append front (le16 v) back
  have hread := readLe16_le16 v []
  rw [List.append_nil] at hread
  rw [show (le16 v).length = 2 from rfl] at h
  rw [readU16, h, value_bind, hread, pure_eq]

theorem readU32_le32 (v : UInt32) : readU32 (front ++ le32 v ++ back) front.length = value v := by
  have h := fieldBytes_append front (le32 v) back
  have hread := readLe32_le32 v []
  rw [List.append_nil] at hread
  rw [show (le32 v).length = 4 from rfl] at h
  rw [readU32, h, value_bind, hread, pure_eq]

theorem readI16_leI16 {n : ℤ} (h : -2 ^ 15 ≤ n) (h' : n < 2 ^ 15) :
    readI16 (front ++ leI16 n ++ back) front.length = value n := by
  have hword : ((UInt16.ofInt n).toNat : ℤ).bmod (2 ^ 16) = n := by
    have hmod : ((UInt16.ofInt n).toNat : ℤ) = n % 2 ^ 16 := by
      simp [UInt16.ofInt]
      omega
    rw [hmod, Int.bmod_def]
    split <;> omega
  rw [readI16, leI16, readU16_le16, value_bind, hword, pure_eq]

/-- `append_float32` appends the bits of the number as `append_le32` does. -/
theorem readFloat32_le32 (bits : UInt32) :
    readFloat32 (front ++ le32 bits ++ back) front.length =
      ofOption (binary32.toRat bits.toNat) := by
  rw [readFloat32, readU32_le32, value_bind]

theorem readFloat64_le64 (bits : UInt64) :
    readFloat64 (front ++ le64 bits ++ back) front.length =
      ofOption (binary64.toRat bits.toNat) := by
  have h := fieldBytes_append front (le64 bits) back
  have hread : leNat (le64 bits) = bits.toNat := leNat_leBytes_of_lt bits.toNat_lt
  rw [length_le64] at h
  rw [readFloat64, h, value_bind, hread]

/-! ### Payloads that are long enough -/

section Read

variable {payload : Bytes} {offset size : ℕ}


theorem fieldBytes_of_le (h : offset + size ≤ payload.length) :
    fieldBytes payload offset size = value ((payload.drop offset).take size) := by
  have hread := fieldBytes_append (payload.take offset) ((payload.drop offset).take size)
    ((payload.drop offset).drop size)
  rwa [List.append_assoc, List.take_append_drop, List.take_append_drop, List.length_take,
    List.length_take, List.length_drop, Nat.min_eq_left (by omega),
    Nat.min_eq_left (by omega)] at hread

theorem readU8_of_lt (h : offset < payload.length) :
    readU8 payload offset = value (byteAt payload offset) := by
  rw [readU8, fieldBytes_of_le h, value_bind, byteAt_take Nat.one_pos, byteAt_drop]
  rfl

theorem readU32_of_le (h : offset + 4 ≤ payload.length) :
    readU32 payload offset = value (readLe32 (payload.drop offset)) := by
  rw [readU32, fieldBytes_of_le h, value_bind, readLe32_congr fun i hi => byteAt_take hi, pure_eq]

theorem readFloat32_of_le (h : offset + 4 ≤ payload.length) :
    readFloat32 payload offset =
      ofOption (binary32.toRat (readLe32 (payload.drop offset)).toNat) := by
  rw [readFloat32, readU32_of_le h, value_bind]

theorem readFloat64_of_le (h : offset + 8 ≤ payload.length) :
    readFloat64 payload offset =
      ofOption (binary64.toRat (leNat ((payload.drop offset).take 8))) := by
  rw [readFloat64, fieldBytes_of_le h, value_bind]

end Read

/-! ### Payloads of a fixed layout -/

variable {pieces : List Bytes} {sizes : List ℕ}

/-- A payload that is laid out piece by piece, seen from one of the pieces. -/
theorem flatten_split (hsizes : pieces.map List.length = sizes) {k : ℕ} {piece : Bytes}
    (h : pieces[k]? = some piece) :
    ∃ front back, pieces.flatten = front ++ piece ++ back ∧ front.length = (sizes.take k).sum := by
  obtain ⟨hk, rfl⟩ := List.getElem?_eq_some_iff.mp h
  refine ⟨(pieces.take k).flatten, (pieces.drop (k + 1)).flatten, ?_, ?_⟩
  · conv_lhs => rw [← List.take_append_drop k pieces, List.drop_eq_getElem_cons hk]
    rw [List.flatten_append, List.flatten_cons, List.append_assoc]
  · rw [List.length_flatten, List.map_take, hsizes]

theorem readU8_flatten (hsizes : pieces.map List.length = sizes) (k i offset : ℕ) {piece : Bytes}
    {b : UInt8} (h : pieces[k]? = some piece) (hb : piece[i]? = some b)
    (hoffset : (sizes.take k).sum + i = offset) : readU8 pieces.flatten offset = value b := by
  obtain ⟨front, back, hsplit, hfront⟩ := flatten_split hsizes h
  rw [hsplit, ← hoffset, ← hfront, readU8_append _ _ hb]

theorem readU32_flatten (hsizes : pieces.map List.length = sizes) (k offset : ℕ) {v : UInt32}
    (h : pieces[k]? = some (le32 v)) (hoffset : (sizes.take k).sum = offset) :
    readU32 pieces.flatten offset = value v := by
  obtain ⟨front, back, hsplit, hfront⟩ := flatten_split hsizes h
  rw [hsplit, ← hoffset, ← hfront, readU32_le32]

theorem readU16_flatten (hsizes : pieces.map List.length = sizes) (k offset : ℕ) {v : UInt16}
    (h : pieces[k]? = some (le16 v)) (hoffset : (sizes.take k).sum = offset) :
    readU16 pieces.flatten offset = value v := by
  obtain ⟨front, back, hsplit, hfront⟩ := flatten_split hsizes h
  rw [hsplit, ← hoffset, ← hfront, readU16_le16]

theorem readI16_flatten (hsizes : pieces.map List.length = sizes) (k offset : ℕ) {v : Int16}
    (h : pieces[k]? = some (leI16 v.toInt)) (hoffset : (sizes.take k).sum = offset) :
    readI16 pieces.flatten offset = value v.toInt := by
  obtain ⟨front, back, hsplit, hfront⟩ := flatten_split hsizes h
  rw [hsplit, ← hoffset, ← hfront, readI16_leI16 _ _ v.le_toInt v.toInt_lt]

/-- The bytes of a row of bytes are read one by one. -/
theorem forRange_readU8_flatten (hsizes : pieces.map List.length = sizes) (k offset : ℕ) {n : ℕ}
    {bytes : Vector UInt8 n} (h : pieces[k]? = some bytes.toList)
    (hoffset : (sizes.take k).sum = offset) :
    forRange (fun i => readU8 pieces.flatten (offset + i)) n = value bytes.toList := by
  have hbytes : ∀ i b, bytes.toList[i]? = some b →
      readU8 pieces.flatten (offset + i) = value b := by
    intro i b hb
    exact readU8_flatten hsizes k i (offset + i) h hb (by rw [hoffset])
  have hloop := forRange_of_getElem? hbytes
  rwa [Vector.length_toList] at hloop

/-- A row of bytes is a text up to its first NUL. -/
theorem readCharArray_flatten (hsizes : pieces.map List.length = sizes) (k offset size : ℕ)
    {piece : Bytes} (h : pieces[k]? = some piece) (hsize : piece.length = size)
    (hoffset : (sizes.take k).sum = offset) :
    readCharArray pieces.flatten offset size = value (piece.takeWhile (· ≠ 0)) := by
  obtain ⟨front, back, hsplit, hfront⟩ := flatten_split hsizes h
  have hrange : HasRange (front ++ piece ++ back) front.length piece.length := by
    simp only [HasRange, List.length_append]
    omega
  have hloop : forRange (fun i => get (front ++ piece ++ back) (front.length + i)) piece.length =
      value piece := forRange_of_getElem? fun i b hb => get_append front back hb
  rw [hsplit, ← hoffset, ← hfront, ← hsize, readCharArray, if_pos hrange, hloop, value_bind,
    pure_eq]

theorem readFloat32_flatten (hsizes : pieces.map List.length = sizes) (k offset : ℕ) {bits : UInt32}
    (h : pieces[k]? = some (le32 bits)) (hoffset : (sizes.take k).sum = offset) :
    readFloat32 pieces.flatten offset = ofOption (binary32.toRat bits.toNat) := by
  obtain ⟨front, back, hsplit, hfront⟩ := flatten_split hsizes h
  rw [hsplit, ← hoffset, ← hfront, readFloat32_le32]

theorem readFloat64_flatten (hsizes : pieces.map List.length = sizes) (k offset : ℕ) {bits : UInt64}
    (h : pieces[k]? = some (le64 bits)) (hoffset : (sizes.take k).sum = offset) :
    readFloat64 pieces.flatten offset = ofOption (binary64.toRat bits.toNat) := by
  obtain ⟨front, back, hsplit, hfront⟩ := flatten_split hsizes h
  rw [hsplit, ← hoffset, ← hfront, readFloat64_le64]

end UnicoreBinaryNavParser

/-! ### Numbers in both encodings -/

/-- A number denoted by a text and by the word of a `float`. -/
structure SharedFloat where
  text : Bytes
  bits : UInt32
  number : ℚ
  parseDouble_text : UnicoreParser.parseDouble text = some number
  toRat_bits : binary32.toRat bits.toNat = some number

/-- A number denoted by a text and by the word of a `double`. -/
structure SharedDouble where
  text : Bytes
  bits : UInt64
  number : ℚ
  parseDouble_text : UnicoreParser.parseDouble text = some number
  toRat_bits : binary64.toRat bits.toNat = some number

namespace UnicoreBinaryNavParser

variable {pieces : List Bytes} {sizes : List ℕ}

theorem readSharedFloat_flatten (hsizes : pieces.map List.length = sizes) (k offset : ℕ)
    {x : SharedFloat} (h : pieces[k]? = some (le32 x.bits))
    (hoffset : (sizes.take k).sum = offset) :
    readFloat32 pieces.flatten offset = value x.number := by
  rw [readFloat32_flatten hsizes k offset h hoffset, x.toRat_bits, ofOption_some]

theorem readSharedDouble_flatten (hsizes : pieces.map List.length = sizes) (k offset : ℕ)
    {x : SharedDouble} (h : pieces[k]? = some (le64 x.bits))
    (hoffset : (sizes.take k).sum = offset) :
    readFloat64 pieces.flatten offset = value x.number := by
  rw [readFloat64_flatten hsizes k offset h hoffset, x.toRat_bits, ofOption_some]

end UnicoreBinaryNavParser

/-! ### Texts of a field list -/

/-- What comes before the first data field of a log. The text between the first nine commas is
free; the tenth field is glued to the first data field by a semicolon. -/
structure LogHeader where
  front : List Bytes
  last : Bytes
  length_front : front.length = 9
  notMem_last : semicolon ∉ last

/-- The fields of a log with the given data fields. -/
def LogHeader.fields (header : LogHeader) (first : Bytes) (data : List Bytes) : List Bytes :=
  header.front ++ [header.last ++ semicolon :: first] ++ data

namespace UnicoreParser

theorem notMem_decimalInt {c : UInt8} (hc : digitValue c = none) (h45 : c ≠ 45) (n : ℤ) :
    c ∉ decimalInt n := by
  have hdigits : c ∉ decimal n.natAbs := notMem_digitsText (by decide) (by decide) hc
  rw [decimalInt]
  split
  · simpa [h45] using hdigits
  · exact hdigits

theorem decimalInt_ne_nil (n : ℤ) : decimalInt n ≠ [] := by
  rw [decimalInt]
  split
  · exact List.cons_ne_nil _ _
  · exact digitsText_ne_nil (by decide) _

/-- **A decimal text** is read as the `int` it denotes. -/
theorem parseInt_decimalInt {n : ℤ} (h : -2 ^ 31 ≤ n) (h' : n < 2 ^ 31) :
    parseInt (decimalInt n) = some n := by
  have hzero : (0 : UInt8) ∉ decimalInt n := notMem_decimalInt (by decide) (by decide) n
  have hread := strtol_decimalInt (n := n) (by omega) (by omega)
  rw [parseInt, cStr_eq_self hzero, hread]
  simp [decimalInt_ne_nil n, toInt_of_lt h h']

theorem decimalInt_natCast (n : ℕ) : decimalInt n = decimal n := by
  rw [decimalInt, if_neg (by omega), Int.natAbs_natCast]

theorem parseInt_decimal {n : ℕ} (h : n < 2 ^ 31) : parseInt (decimal n) = some (n : ℤ) := by
  rw [← decimalInt_natCast, parseInt_decimalInt (by omega) (by omega)]

/-- The `int` of a longer number wraps around. -/
theorem parseInt_decimal_toInt {n : ℕ} (h : n < 2 ^ 63) :
    parseInt (decimal n) = some (toInt n) := by
  have hzero : (0 : UInt8) ∉ decimal n := notMem_digitsText (by decide) (by decide) (by decide)
  have hread := strtol_decimalInt (n := n) (by omega) (by omega)
  rw [decimalInt_natCast] at hread
  rw [parseInt, cStr_eq_self hzero, hread]
  simp [decimal, digitsText_ne_nil (by decide : 1 < 10) n]

theorem hexText_ne_nil (format : HexFormat) (n : ℕ) : hexText format n ≠ [] := by
  rw [hexText, hexDigits, List.leftpad]
  have hne : digitsText 16 n ≠ [] := digitsText_ne_nil (by decide) n
  split <;> split <;> simp [hne]

/-- **A hexadecimal text** is read as the word it denotes. -/
theorem parseUint32_hexText (format : HexFormat) (v : UInt32) :
    parseUint32 16 (hexText format v.toNat) = some v := by
  have hlt := v.toNat_lt
  have hzero : (0 : UInt8) ∉ hexText format v.toNat := fun h =>
    absurd (by decide : digitValue 0 = none) (digitValue_of_mem_hexText h)
  have hread := strtoul_hexText format (show v.toNat < 2 ^ 64 by omega)
  rw [parseUint32, cStr_eq_self hzero, hread, if_neg, UInt32.ofNat_toNat]
  rintro (h | h | h)
  · exact hexText_ne_nil format v.toNat h
  · exact h rfl
  · exact absurd hlt (Nat.not_lt.mpr h)

theorem intAt_append (front back : List Bytes) {piece : List Bytes} {i : ℕ} {n : ℤ}
    (h : piece[i]? = some (decimalInt n)) (hn : -2 ^ 31 ≤ n) (hn' : n < 2 ^ 31) :
    intAt (front ++ piece ++ back) (front.length + i) = value n := by
  rw [intAt, get_append front back h, value_bind, parseInt_decimalInt hn hn', ofOption_some]

/-- The data field behind the header's last field. -/
theorem fieldAfterSemicolon_append {head : Bytes} (h : semicolon ∉ head) (data : Bytes) :
    fieldAfterSemicolon (head ++ semicolon :: data) = data := by
  rw [fieldAfterSemicolon, Slices.idxOf?_append_cons semicolon h]
  simp

variable (header : LogHeader) (first : Bytes) (data : List Bytes)

theorem length_logHeader :
    (header.front ++ [header.last ++ semicolon :: first]).length = 10 := by
  rw [List.length_append, header.length_front]
  rfl

theorem length_fields : (header.fields first data).length = 10 + data.length := by
  rw [LogHeader.fields, List.length_append, length_logHeader]

theorem get_fields_nine :
    get (header.fields first data) 9 = value (header.last ++ semicolon :: first) := by
  have h : get (header.fields first data) (header.front.length + 0) =
      value (header.last ++ semicolon :: first) := get_append header.front data rfl
  rwa [header.length_front] at h

theorem dataIntAt_fields_nine {n : ℤ} (hn : -2 ^ 31 ≤ n) (hn' : n < 2 ^ 31) :
    dataIntAt (header.fields (decimalInt n) data) 9 = value n := by
  rw [dataIntAt, get_fields_nine, value_bind, fieldAfterSemicolon_append header.notMem_last,
    parseInt_decimalInt hn hn', ofOption_some]

theorem dataIntAt_fields_decimal {n : ℕ} (hn : n < 2 ^ 63) :
    dataIntAt (header.fields (decimal n) data) 9 = value (toInt n) := by
  rw [dataIntAt, get_fields_nine, value_bind, fieldAfterSemicolon_append header.notMem_last,
    parseInt_decimal_toInt hn, ofOption_some]

/-- Data fields stand from index 10 on. -/
theorem get_fields {i : ℕ} {text : Bytes} (h : data[i]? = some text) :
    get (header.fields first data) (10 + i) = value text := by
  have h := get_append (header.front ++ [header.last ++ semicolon :: first]) [] h
  rwa [List.append_nil, length_logHeader] at h

theorem intAt_fields {i : ℕ} {n : ℤ} (h : data[i]? = some (decimalInt n)) (hn : -2 ^ 31 ≤ n)
    (hn' : n < 2 ^ 31) : intAt (header.fields first data) (10 + i) = value n := by
  rw [intAt, get_fields header first data h, value_bind, parseInt_decimalInt hn hn', ofOption_some]

/-- A count of any width below the one of `long` wraps around. -/
theorem intAt_fields_decimal {i n : ℕ} (h : data[i]? = some (decimal n)) (hn : n < 2 ^ 63) :
    intAt (header.fields first data) (10 + i) = value (toInt n) := by
  rw [intAt, get_fields header first data h, value_bind, parseInt_decimal_toInt hn, ofOption_some]

theorem intAt_fields_byte {i : ℕ} {b : UInt8} (h : data[i]? = some (decimal b.toNat)) :
    intAt (header.fields first data) (10 + i) = value (b.toNat : ℤ) := by
  have := b.toNat_lt
  rw [intAt_fields_decimal header first data h (by omega), toInt_byte]

theorem intAt_fields_word {i : ℕ} {v : UInt32} (h : data[i]? = some (decimal v.toNat)) :
    intAt (header.fields first data) (10 + i) = value (toInt v.toNat) := by
  have := v.toNat_lt
  exact intAt_fields_decimal header first data h (by omega)

theorem intAt_fields_int16 {i : ℕ} {n : Int16} (h : data[i]? = some (decimalInt n.toInt)) :
    intAt (header.fields first data) (10 + i) = value n.toInt := by
  have := n.le_toInt
  have := n.toInt_lt
  exact intAt_fields header first data h (by omega) (by omega)

theorem trimAsciiQuotes_quoted (text : Bytes) :
    trimAsciiQuotes (0x22 :: (text ++ [0x22])) = text := by
  have hlast : (0x22 :: (text ++ [0x22]) : Bytes).getLast? = some 0x22 := by
    rw [← List.cons_append, List.getLast?_append]
    rfl
  rw [trimAsciiQuotes, if_pos ⟨by simp, rfl, hlast⟩]
  simp

theorem hexAt_append (front back : List Bytes) {piece : List Bytes} {i : ℕ} {format : HexFormat}
    {v : UInt32} (h : piece[i]? = some (hexText format v.toNat)) :
    hexAt (front ++ piece ++ back) (front.length + i) = value v := by
  rw [hexAt, get_append front back h, value_bind, parseUint32_hexText, ofOption_some]

theorem hexAt_fields {i : ℕ} {format : HexFormat} {v : UInt32}
    (h : data[i]? = some (hexText format v.toNat)) :
    hexAt (header.fields first data) (10 + i) = value v := by
  rw [hexAt, get_fields header first data h, value_bind, parseUint32_hexText, ofOption_some]

theorem doubleAt_fields {i : ℕ} {text : Bytes} {q : ℚ} (h : data[i]? = some text)
    (hq : parseDouble text = some q) : doubleAt (header.fields first data) (10 + i) = value q := by
  rw [doubleAt, get_fields header first data h, value_bind, hq, ofOption_some]

theorem fieldIfAny_fields {α : Type} {i : ℕ} {text : Bytes} (parse : Bytes → α) (absent : α)
    (h : data[i]? = some text) :
    fieldIfAny (header.fields first data) (10 + i) parse absent = value (parse text) := by
  have hlen : 10 + i < (header.fields first data).length := by
    have := (List.getElem?_eq_some_iff.mp h).1
    rw [LogHeader.fields, List.length_append, length_logHeader]
    omega
  rw [fieldIfAny, if_pos hlen, get_fields header first data h, value_bind, pure_eq]

/-- A text that denotes a number leaves that number in the output parameter. -/
theorem parseDoubleInto_of_parseDouble {text : Bytes} {q : ℚ} (h : parseDouble text = some q)
    (before : Double) : parseDoubleInto text before = .finite q := by
  rw [parseDouble] at h
  split at h
  · simp at h
  · rename_i hne
    rw [not_or] at hne
    rw [parseDoubleInto, if_neg hne.1]
    cases hd : (strtod (cStr text)).1 with
    | finite q' =>
      rw [hd, Double.toRat, Option.some.injEq] at h
      rw [h]
    | infinite negative => simp [hd, Double.toRat] at h
    | nan => simp [hd, Double.toRat] at h

end UnicoreParser

end UnicoreGnss
