import UnicoreGnss.Lib.PyNumber
import UnicoreGnss.LiveValidate.Basic
import UnicoreGnss.Parser.Text

/-!
# The validator's text lines

A received line is decoded to a text in which every byte that is not ASCII has become U+FFFD, and
for a checksum the text is encoded again without those characters. So a checksum never sees them,
where the driver counts every byte.

A decoded text is a list of ASCII codes in which `0xFF` stands for U+FFFD.

## Main definitions

* `decodeAscii`, `encodeAscii` — from bytes to a text and back
* `validateNmea`, `validateUnicoreAscii` — the two checksum tests

## Main results

* `encodeAscii_decodeAscii` — encoding leaves out what decoding has replaced
-/

namespace UnicoreGnss.LiveValidate

/-- A decoded text. -/
abbrev Text := Bytes

/-- U+FFFD -/
def replacement : UInt8 := 0xFF

/-- `raw.decode("ascii", errors="replace")` -/
def decodeAscii (raw : Bytes) : Text :=
  raw.map fun byte => if byte < 0x80 then byte else replacement

/-- `text.encode("ascii", errors="ignore")` -/
def encodeAscii (text : Text) : Bytes := text.filter (· < 0x80)

/-- `parse_int` -/
def parseInt (text : Text) (base : ℕ) : Option ℤ :=
  if text = [] then none else PyNumber.int base text

/-- `nmea_checksum` -/
def nmeaChecksum (body : Bytes) : ℕ := body.foldl (fun value byte => value ^^^ byte.toNat) 0

/-- `_looks_binary_garbage`. The share of `0.85` is exact here. -/
def looksBinaryGarbage (rawLine : Bytes) : Bool :=
  if rawLine = [] then false
  else if (0 : UInt8) ∈ rawLine then true
  else
    let printable := rawLine.countP fun byte =>
      byte ∈ ([0x09, 0x0D, 0x20] : Bytes) || (0x21 ≤ byte && byte ≤ 0x7E)
    printable < max 1 (rawLine.length * 85 / 100)

/-- What is not binary garbage has no NUL in it. -/
theorem notMem_zero {rawLine : Bytes} (h : looksBinaryGarbage rawLine = false) :
    (0 : UInt8) ∉ rawLine := by
  intro hmem
  rw [looksBinaryGarbage, if_neg (List.ne_nil_of_mem hmem), if_pos hmem] at h
  cases h

/-! ### Decoding -/

section Decoding

variable {line : Bytes}

theorem decodeAscii_cons (byte : UInt8) (line : Bytes) :
    decodeAscii (byte :: line) =
      (if byte < 0x80 then byte else replacement) :: decodeAscii line := rfl

@[simp] theorem length_decodeAscii (line : Bytes) : (decodeAscii line).length = line.length :=
  List.length_map _

theorem decodeAscii_slice (line : Bytes) (start stop : ℕ) :
    decodeAscii (slice line start stop) = slice (decodeAscii line) start stop := by
  rw [slice, slice, decodeAscii, decodeAscii, List.map_take, List.map_drop]

/-- A character is read as itself if it is ASCII, and only then. -/
theorem decode_eq_iff {c : UInt8} (hc : c < 0x80) (byte : UInt8) :
    (if byte < 0x80 then byte else replacement) = c ↔ byte = c := by
  split
  · rfl
  · rename_i hbyte
    constructor
    · rintro rfl
      exact absurd hc (by decide)
    · rintro rfl
      exact absurd hc hbyte

theorem head?_decodeAscii_eq_iff {c : UInt8} (hc : c < 0x80) :
    (decodeAscii line).head? = some c ↔ line.head? = some c := by
  cases line with
  | nil => rfl
  | cons byte line =>
    rw [decodeAscii_cons, List.head?_cons, List.head?_cons, Option.some.injEq, Option.some.injEq,
      decode_eq_iff hc]

theorem idxOf?_decodeAscii {c : UInt8} (hc : c < 0x80) (line : Bytes) :
    (decodeAscii line).idxOf? c = line.idxOf? c := by
  induction line with
  | nil => rfl
  | cons byte line ih =>
    have hbyte : ((if byte < 0x80 then byte else replacement) == c) = (byte == c) := by
      rw [Bool.eq_iff_iff, beq_iff_eq, beq_iff_eq]
      exact decode_eq_iff hc byte
    rw [decodeAscii_cons, List.idxOf?_cons, List.idxOf?_cons, hbyte, ih]

/-- Encoding leaves out what decoding has replaced. -/
theorem encodeAscii_decodeAscii (line : Bytes) :
    encodeAscii (decodeAscii line) = encodeAscii line := by
  induction line with
  | nil => rfl
  | cons byte line ih =>
    rw [decodeAscii_cons, encodeAscii, encodeAscii]
    by_cases hbyte : byte < 0x80
    · rw [if_pos hbyte, List.filter_cons_of_pos (by simpa using hbyte),
        List.filter_cons_of_pos (by simpa using hbyte)]
      exact congrArg _ ih
    · rw [if_neg hbyte, List.filter_cons_of_neg (by decide),
        List.filter_cons_of_neg (by simpa using hbyte)]
      exact ih

/-- ASCII characters are decoded to themselves. -/
theorem decodeAscii_of_ascii (h : ∀ byte ∈ line, byte < 0x80) : decodeAscii line = line := by
  conv_rhs => rw [← List.map_id line]
  exact List.map_congr_left fun byte hbyte => if_pos (h byte hbyte)

end Decoding

/-! ### The two checksums -/

/-- A checksum: what a sentence begins with, how long it is at least, how many digits the check
field has and what it holds for a body. -/
structure CheckKind where
  first : UInt8
  minLength : ℕ
  width : ℕ
  checkValue : Bytes → ℕ

/-- `validate_nmea`: two digits behind `*`, of the exclusive or. -/
def nmeaKind : CheckKind where
  first := dollar
  minLength := 4
  width := 2
  checkValue := nmeaChecksum

/-- `validate_unicore_ascii`: eight digits behind `*`, of the CRC. -/
def unicoreKind : CheckKind where
  first := hash
  minLength := 11
  width := 8
  checkValue := crc32Unicore

/-- What the two tests do. -/
def validate (kind : CheckKind) (line : Text) : Bool :=
  if line.length < kind.minLength ∨ line.head? ≠ some kind.first then false
  else
    match line.idxOf? star with
    | none => false
    | some i =>
      if line.length ≤ i + kind.width then false
      else
        match parseInt (slice line (i + 1) (i + 1 + kind.width)) 16 with
        | none => false
        | some expected => (kind.checkValue (encodeAscii (slice line 1 i)) : ℤ) = expected

/-- `_validate_nmea` -/
def validateNmea : Text → Bool := validate nmeaKind

/-- `_validate_unicore_ascii` -/
def validateUnicoreAscii : Text → Bool := validate unicoreKind

/-! ### Counting -/

/-- What is counted of the lines. -/
structure CaptureState where
  asciiLinesTotal : ℕ := 0
  nmeaChecksumOk : ℕ := 0
  nmeaChecksumBad : ℕ := 0
  unicoreAsciiCrcOk : ℕ := 0
  unicoreAsciiCrcBad : ℕ := 0
  deriving DecidableEq, Repr

namespace CaptureState

variable (s : CaptureState)

/-- `_handle_nmea_line`, as far as it counts. -/
def handleNmeaLine (line : Text) : CaptureState :=
  if validateNmea line then { s with nmeaChecksumOk := s.nmeaChecksumOk + 1 }
  else { s with nmeaChecksumBad := s.nmeaChecksumBad + 1 }

/-- `_handle_unicore_ascii_line`, as far as it counts. -/
def handleUnicoreAsciiLine (line : Text) : CaptureState :=
  if validateUnicoreAscii line then { s with unicoreAsciiCrcOk := s.unicoreAsciiCrcOk + 1 }
  else { s with unicoreAsciiCrcBad := s.unicoreAsciiCrcBad + 1 }

/-- `_handle_line` -/
def handleLine (rawLine : Bytes) : CaptureState :=
  let s := { s with asciiLinesTotal := s.asciiLinesTotal + 1 }
  if looksBinaryGarbage rawLine then s
  else
    let text := decodeAscii rawLine
    if text.head? = some dollar then s.handleNmeaLine text
    else if text.head? = some hash then s.handleUnicoreAsciiLine text
    else s

end CaptureState

end UnicoreGnss.LiveValidate
