import UnicoreGnss.LiveValidate.Fields

/-!
# The validator's fixes

What the validator keeps of a GGA sentence and of a PVTSLNA log. It is laxer than the driver with
the one and stricter with the other: a GGA sentence is kept with ten fields, whether its coordinates
can be read or not, and a PVTSLNA log only with forty.

The numbers of a snapshot are exact here, and `none` is its `nan`. `x or y` is `y` also where `x` is
zero.

## Main definitions

* `storedFix` — what is stored of a received line under the key `GGA` or `PVTSLNA`
* `PlainPositionType` — a position type that both languages read alike

## Main results

* `parseLatlon_eq`, `positionTypeToQuality_eq` — plain coordinates and position types are read as in
  the driver
-/

namespace UnicoreGnss.LiveValidate

open CNumber Checked

/-- `number or default` -/
def orDefault {α : Type} [Zero α] [DecidableEq α] (number : Option α) (default : α) : α :=
  match number with
  | none => default
  | some a => if a = 0 then default else a

/-- `sentence_suffix` -/
def sentenceSuffix (sentenceType : Text) : Text :=
  if 3 < sentenceType.length then sentenceType.drop (sentenceType.length - 3) else sentenceType

/-- `KNOWN_NMEA_SUFFIXES` -/
def knownNmeaSuffixes : List Text := ["GGA", "GSV", "HDT", "HPR"].map ascii

/-- `KNOWN_NMEA_TYPES` -/
def knownNmeaTypes : List Text := ["GNHPR2", "GPHPR2", "GPGGAH", "GNGGAH"].map ascii

/-- `parse_float(fields[i])` where `None` ends the parser. -/
def floatAt (fields : List Text) (i : ℕ) : Checked ℚ := do ofOption (parseFloat (← get fields i))

/-- `parse_latlon`. As in the driver the flag `is_latitude` has no effect. -/
def parseLatlon (valueText hemisphere : Text) : Option ℚ := do
  let raw ← parseFloat valueText
  match hemisphere with
  | [c] =>
    let whole : ℚ := ⌊raw / 100⌋
    let minutes := raw - whole * 100
    let degrees := whole + minutes / 60
    let hemi := upper c
    let degrees := if hemi ∈ ([0x53, 0x57] : Bytes) then -degrees else degrees
    if hemi ∉ ([0x4E, 0x53, 0x45, 0x57] : Bytes) then none else some degrees
  | _ => none

/-! ### Tables of position types -/

/-- `str.isspace`: also the separators from FS to US. -/
def isBlank (c : UInt8) : Bool := isSpace c || (28 ≤ c && c ≤ 31)

/-- `text.strip()` -/
def stripBlanks (text : Text) : Text := (text.dropWhile isBlank).rdropWhile isBlank

/-- `text.strip('"')` -/
def stripQuotes (text : Text) : Text := (text.dropWhile (· == 0x22)).rdropWhile (· == 0x22)

/-- The `string_map` of `position_type_to_quality`. -/
def stringMap : List (Text × ℤ) :=
  [(ascii "NONE", 0), (ascii "FIXEDPOS", 1), (ascii "FIXEDHEIGHT", 1), (ascii "SINGLE", 1),
    (ascii "PSRDIFF", 2), (ascii "DGPS", 2), (ascii "WAAS", 9), (ascii "SBAS", 9),
    (ascii "L1_FLOAT", 5), (ascii "IONOFREE_FLOAT", 5), (ascii "NARROW_FLOAT", 5),
    (ascii "RTK_FLOAT", 5), (ascii "L1_INT", 4), (ascii "WIDE_INT", 4), (ascii "NARROW_INT", 4),
    (ascii "RTK_FIXED", 4), (ascii "INS", 1), (ascii "INS_PSRSP", 1), (ascii "INS_PSRDIFF", 2),
    (ascii "INS_RTKFLOAT", 5), (ascii "INS_RTKFIXED", 4), (ascii "PPP_CONVERGING", 1),
    (ascii "PPP", 1)]

/-- The `numeric_map` of `position_type_to_quality`. -/
def numericMap : List (ℤ × ℤ) :=
  [(0, 0), (1, 1), (2, 1), (16, 1), (17, 2), (18, 9), (32, 5), (33, 5), (34, 5), (48, 4), (49, 4),
    (50, 4), (52, 1), (53, 1), (54, 2), (55, 5), (56, 4), (68, 1), (69, 1)]

/-- `position_type_to_quality` -/
def positionTypeToQuality (value : Text) : ℤ :=
  let text := stripQuotes (stripBlanks value)
  match stringMap.lookup text with
  | some quality => quality
  | none =>
    match PyNumber.int 10 text with
    | none => 0
    | some code => (numericMap.lookup code).getD 0

/-! ### Snapshots -/

/-- The snapshot of a GGA sentence. -/
structure FixSnapshot where
  fixQuality : ℤ
  latitudeDeg : Option ℚ
  longitudeDeg : Option ℚ
  altitudeM : ℚ
  satellites : ℤ
  hdop : Option ℚ
  deriving DecidableEq, Repr

/-- `parse_pvtslna`: what the summary has of a PVTSLNA. -/
structure PvtslnaSnapshot extends FixSnapshot where
  altitudeStdM : ℚ
  latitudeStdM : ℚ
  longitudeStdM : ℚ
  positionType : Text
  deriving DecidableEq, Repr

/-- The branch of `_handle_nmea_line` for GGA. -/
def ggaSnapshot (fields : List Text) : Checked FixSnapshot := do
  let latitude := parseLatlon (← get fields 2) (← get fields 3)
  let longitude := parseLatlon (← get fields 4) (← get fields 5)
  let quality := orDefault (parseInt (← get fields 6) 10) 0
  let satellites := orDefault (parseInt (← get fields 7) 10) (-1)
  let hdop := parseFloat (← get fields 8)
  let altitudeMsl := parseFloat (← get fields 9)
  let geoid ← UnicoreParser.fieldIfAny fields 11 parseFloat none
  let fixQuality ← floatOfInt quality
  let satellites ← floatOfInt satellites
  return {
    fixQuality := fixQuality
    latitudeDeg := latitude
    longitudeDeg := longitude
    altitudeM := orDefault altitudeMsl 0 + orDefault geoid 0
    satellites := satellites
    hdop := hdop }

/-- The satellites of a PVTSLNA: those in the solution, or else those tracked. -/
def snapshotSatellites (solution tracked : Option ℤ) : ℤ :=
  match solution with
  | some n => if 0 ≤ n then n else orDefault tracked (-1)
  | none => orDefault tracked (-1)

/-- `_parse_pvtslna` -/
def parsePvtslna (fields : List Text) : Checked PvtslnaSnapshot := do
  require (39 < fields.length)
  let posType := fieldAfterSemicolon (← get fields 9)
  let quality := positionTypeToQuality posType
  let altitudeMsl ← floatAt fields 10
  let latitude ← floatAt fields 11
  let longitude ← floatAt fields 12
  let altitudeStd ← floatAt fields 13
  let latitudeStd ← floatAt fields 14
  let longitudeStd ← floatAt fields 15
  let undulation := parseFloat (← get fields 21)
  let tracked := parseInt (← get fields 22) 10
  let solution := parseInt (← get fields 23) 10
  let hdop := parseFloat (← get fields 39)
  let satellites ← floatOfInt (snapshotSatellites solution tracked)
  return {
    fixQuality := quality
    latitudeDeg := latitude
    longitudeDeg := longitude
    altitudeM := altitudeMsl + orDefault undulation 0
    altitudeStdM := altitudeStd
    latitudeStdM := latitudeStd
    longitudeStdM := longitudeStd
    satellites := satellites
    hdop := hdop
    positionType := posType }

/-! ### When a GGA raises an exception -/

theorem overflowsFloat_orDefault (number : Option ℤ) {default : ℤ}
    (hdefault : default.natAbs < 2 ^ 64) :
    overflowsFloat (orDefault number default) = number.any overflowsFloat := by
  cases number with
  | none => exact overflowsFloat_eq_false hdefault
  | some n =>
    rw [orDefault, Option.any_some]
    split_ifs with hzero
    · rw [overflowsFloat_eq_false hdefault, hzero, overflowsFloat_eq_false (by decide)]
    · rfl

/-- **When the GGA branch raises** an exception. -/
theorem isSome_ggaSnapshot {fields : List Text} (h : 10 ≤ fields.length) :
    (ggaSnapshot fields).toOption.isSome =
      !((fields[6]?.bind fun field => parseInt field 10).any overflowsFloat ||
        (fields[7]?.bind fun field => parseInt field 10).any overflowsFloat) := by
  have hget : ∀ i, i < 10 → ∃ field, fields[i]? = some field := by
    intro i hi
    exact ⟨fields[i], List.getElem?_eq_getElem (by omega)⟩
  obtain ⟨f2, h2⟩ := hget 2 (by decide)
  obtain ⟨f3, h3⟩ := hget 3 (by decide)
  obtain ⟨f4, h4⟩ := hget 4 (by decide)
  obtain ⟨f5, h5⟩ := hget 5 (by decide)
  obtain ⟨f6, h6⟩ := hget 6 (by decide)
  obtain ⟨f7, h7⟩ := hget 7 (by decide)
  obtain ⟨f8, h8⟩ := hget 8 (by decide)
  obtain ⟨f9, h9⟩ := hget 9 (by decide)
  rw [ggaSnapshot]
  simp only [get_of_getElem? h2, get_of_getElem? h3, get_of_getElem? h4, get_of_getElem? h5,
    get_of_getElem? h6, get_of_getElem? h7, get_of_getElem? h8, get_of_getElem? h9, value_bind,
    UnicoreParser.fieldIfAny_none, h6, h7, Option.bind_some, floatOfInt,
    overflowsFloat_orDefault _ (by decide : (0 : ℤ).natAbs < 2 ^ 64),
    overflowsFloat_orDefault _ (by decide : (-1 : ℤ).natAbs < 2 ^ 64)]
  cases (parseInt f6 10).any overflowsFloat with
  | true => rfl
  | false => cases (parseInt f7 10).any overflowsFloat <;> rfl

/-! ### Lines -/

/-- `line[1:line.find("*")].split(",")`, for a line with a `*` in it. -/
def lineFields (line : Text) : List Text := (slice line 1 (line.idxOf star)).splitOn comma

/-- What `_handle_nmea_line` stores under `GGA`. -/
def fixOfNmeaLine (line : Text) : Checked (Option FixSnapshot) :=
  if validateNmea line then
    let fields := lineFields line
    let sentenceType := fields.headD []
    let suffix := sentenceSuffix sentenceType
    if ¬ knownNmeaSuffixes.any (suffix = ·) ∧ ¬ knownNmeaTypes.any (sentenceType = ·) then
      value none
    else if suffix = ascii "GGA" ∧ 10 ≤ fields.length then do return some (← ggaSnapshot fields)
    else value none
  else value none

/-- What `_handle_unicore_ascii_line` stores under `PVTSLNA`. -/
def fixOfUnicoreAsciiLine (line : Text) : Checked (Option PvtslnaSnapshot) :=
  if validateUnicoreAscii line then
    let fields := lineFields line
    if fields.headD [] = ascii "PVTSLNA" then attempt (parsePvtslna fields) else value none
  else value none

/-- What `_handle_line` stores under `GGA` or `PVTSLNA`. -/
def storedFix (rawLine : Bytes) : Checked (Option FixSnapshot) :=
  if looksBinaryGarbage rawLine then value none
  else
    let text := decodeAscii rawLine
    if text.head? = some dollar then fixOfNmeaLine text
    else if text.head? = some hash then do
      return (← fixOfUnicoreAsciiLine text).map PvtslnaSnapshot.toFixSnapshot
    else value none

/-! ### Coordinates -/

/-- **A coordinate** is read by the validator as by the driver. -/
theorem parseLatlon_eq {valueField : Bytes} (hzero : (0 : UInt8) ∉ valueField)
    (h : PlainNumber valueField) (hemiField : Bytes) :
    parseLatlon (decodeAscii valueField) (decodeAscii hemiField) =
      UnicoreParser.parseLatlon valueField hemiField := by
  rw [parseLatlon, UnicoreParser.parseLatlon, parseFloat_eq hzero h]
  refine congrArg _ (funext fun raw => ?_)
  match hemiField with
  | [] => rfl
  | [c] =>
    rw [decodeAscii_cons]
    simp only [decodeAscii, List.map_nil, List.mem_cons, List.not_mem_nil, or_false]
    by_cases hc : c < 0x80
    · simp only [if_pos hc]
      rw [ite_not]
      rfl
    · -- A character that is not ASCII is no hemisphere to either.
      rw [if_neg hc]
      have hlarge : ¬ (0x61 ≤ c ∧ c ≤ 0x7A) := fun h =>
        hc (UInt8.lt_of_le_of_lt h.2 (by decide : (0x7A : UInt8) < 0x80))
      have hother : ∀ d : UInt8, d < 0x80 → c ≠ d := fun d hd h => hc (h ▸ hd)
      simp only [if_neg hlarge]
      rw [if_pos (by decide), if_neg]
      rintro (h | h | h | h)
      · exact hother _ (by decide) h
      · exact hother _ (by decide) h
      · exact hother _ (by decide) h
      · exact hother _ (by decide) h
  | c :: c' :: cs => rfl

/-! ### Position types -/

/-- A character that only Python takes off the ends of a position type. -/
def isPadding (c : UInt8) : Bool := isBlank c || c == 0x22

/-- The field has white space at an end, which `float` and `int` of Python leave out. -/
def Padded (field : Bytes) : Prop :=
  field.head?.any isPadding = true ∨ field.getLast?.any isPadding = true

/-- A position type that is a name in the table, or else is not an integer to only one of the two
languages and, if it is padded, is neither a name nor an integer with or without its padding. -/
def PlainPositionType (field : Bytes) : Prop :=
  (stringMap.lookup field).isSome ∨ PlainInt field ∧ (Padded field →
    ∀ text ∈ [decodeAscii field, stripQuotes (stripBlanks (decodeAscii field))],
      stringMap.lookup text = none ∧ parseInt text 10 = none)

instance (field : Bytes) : Decidable (PlainPositionType field) := by
  unfold PlainPositionType Padded
  infer_instance

/-- Nothing is stripped off a text that neither begins nor ends with such a character. -/
theorem strip_eq_self {p : UInt8 → Bool} {text : Text} (hhead : ∀ c ∈ text.head?, p c = false)
    (hlast : ∀ c ∈ text.getLast?, p c = false) : (text.dropWhile p).rdropWhile p = text := by
  have hfront : text.dropWhile p = text := by
    cases text with
    | nil => rfl
    | cons c cs => exact List.dropWhile_cons_of_neg (by simp [hhead c rfl])
  rw [hfront, List.rdropWhile_eq_self_iff]
  intro hne
  rw [hlast _ (List.getLast?_eq_getLast_of_ne_nil hne)]
  exact Bool.false_ne_true

theorem strip_decodeAscii {field : Bytes} (h : ¬ Padded field) :
    stripQuotes (stripBlanks (decodeAscii field)) = decodeAscii field := by
  have hdecode : ∀ byte : UInt8, isPadding byte ≠ true →
      isBlank (if byte < 0x80 then byte else replacement) = false ∧
        (if byte < 0x80 then byte else replacement) ≠ 0x22 := by
    intro byte hbyte
    split
    · rwa [isPadding, ne_eq, Bool.or_eq_true, beq_iff_eq, not_or, Bool.not_eq_true] at hbyte
    · decide
  have hhead : ∀ c ∈ (decodeAscii field).head?, isBlank c = false ∧ c ≠ 0x22 := by
    intro c hc
    rw [decodeAscii, List.head?_map, Option.mem_def, Option.map_eq_some_iff] at hc
    obtain ⟨byte, hbyte, rfl⟩ := hc
    exact hdecode byte fun hpad => h (.inl (by rw [hbyte, Option.any_some, hpad]))
  have hlast : ∀ c ∈ (decodeAscii field).getLast?, isBlank c = false ∧ c ≠ 0x22 := by
    intro c hc
    rw [decodeAscii, List.getLast?_map, Option.mem_def, Option.map_eq_some_iff] at hc
    obtain ⟨byte, hbyte, rfl⟩ := hc
    exact hdecode byte fun hpad => h (.inr (by rw [hbyte, Option.any_some, hpad]))
  rw [stripBlanks, strip_eq_self (fun c hc => (hhead c hc).1) fun c hc => (hlast c hc).1,
    stripQuotes, strip_eq_self (fun c hc => by simpa using (hhead c hc).2)
      fun c hc => by simpa using (hlast c hc).2]

/-- The names are ASCII, and nothing is stripped off them. -/
theorem name_of_lookup {text : Bytes} {quality : ℤ} (h : stringMap.lookup text = some quality) :
    (∀ c ∈ text, c < 0x80) ∧ stripQuotes (stripBlanks text) = text := by
  have hnames : ∀ entry ∈ stringMap,
      entry.1.all (· < 0x80) = true ∧ stripQuotes (stripBlanks entry.1) = entry.1 := by decide
  obtain ⟨front, back, hmap, -⟩ := List.lookup_eq_some_iff.mp h
  obtain ⟨hascii, hstrip⟩ := hnames (text, quality) (by rw [hmap]; simp)
  exact ⟨by simpa using hascii, hstrip⟩

/-- What is no key of a table is not found in it. -/
theorem lookup_eq_none {κ β : Type} [BEq κ] [LawfulBEq κ] {table : List (κ × β)} {key : κ}
    (h : key ∉ table.map Prod.fst) : table.lookup key = none := by
  rw [List.lookup_eq_none_iff]
  intro entry hentry
  rw [bne_iff_ne]
  exact fun heq => h (heq ▸ List.mem_map_of_mem hentry)

/-- The driver's chain of comparisons looks the name up, and then the number. -/
theorem positionTypeToGgaQuality_eq (field : Bytes) :
    UnicoreParser.positionTypeToGgaQuality field =
      (stringMap.lookup field).getD
        ((UnicoreParser.parseInt field).elim 0 fun code => (numericMap.lookup code).getD 0) := by
  have hcode : ∀ code : ℤ, (numericMap.lookup code).getD 0 =
      if code = 0 then 0
      else if code ∈ [1, 2] then 1
      else if code = 16 then 1
      else if code = 17 then 2
      else if code = 18 then 9
      else if code ∈ [32, 33, 34] then 5
      else if code ∈ [48, 49, 50] then 4
      else if code = 52 then 1
      else if code = 53 then 1
      else if code = 54 then 2
      else if code = 55 then 5
      else if code = 56 then 4
      else if code ∈ [68, 69] then 1
      else 0 := by
    intro code
    by_cases hmem : code ∈ numericMap.map Prod.fst
    · simp only [numericMap, List.map_cons, List.map_nil, List.mem_cons, List.not_mem_nil,
        or_false] at hmem
      rcases hmem with rfl | rfl | rfl | rfl | rfl | rfl | rfl | rfl | rfl | rfl | rfl | rfl | rfl |
        rfl | rfl | rfl | rfl | rfl | rfl <;> rfl
    · rw [lookup_eq_none hmem, Option.getD_none]
      simp only [numericMap, List.map_cons, List.map_nil, List.mem_cons, List.not_mem_nil,
        or_false, not_or] at hmem
      simp [hmem]
  rw [UnicoreParser.positionTypeToGgaQuality]
  by_cases hmem : field ∈ stringMap.map Prod.fst
  · simp only [stringMap, List.map_cons, List.map_nil, List.mem_cons, List.not_mem_nil,
      or_false] at hmem
    rcases hmem with rfl | rfl | rfl | rfl | rfl | rfl | rfl | rfl | rfl | rfl | rfl | rfl | rfl |
      rfl | rfl | rfl | rfl | rfl | rfl | rfl | rfl | rfl | rfl <;> rfl
  · rw [lookup_eq_none hmem]
    simp only [stringMap, List.map_cons, List.map_nil, List.mem_cons, List.not_mem_nil,
      or_false, not_or] at hmem
    simp only [List.mem_cons, List.not_mem_nil, or_false, hmem, if_false, hcode, Option.getD_none]
    cases UnicoreParser.parseInt field <;> rfl

/-- **A plain position type** has the same quality for both. -/
theorem positionTypeToQuality_eq {field : Bytes} (hzero : (0 : UInt8) ∉ field)
    (h : PlainPositionType field) :
    positionTypeToQuality (decodeAscii field) = UnicoreParser.positionTypeToGgaQuality field := by
  have hlookup : stringMap.lookup (decodeAscii field) = stringMap.lookup field :=
    read_decodeAscii (fun _ _ h => (name_of_lookup h).1) field
  have hint : ∀ {text}, parseInt text 10 = PyNumber.int 10 text := by
    intro text
    rw [parseInt, ite_eq_right_iff]
    rintro rfl
    rfl
  rw [positionTypeToQuality, positionTypeToGgaQuality_eq]
  cases hname : stringMap.lookup field with
  | some quality =>
    obtain ⟨hascii, hstrip⟩ := name_of_lookup hname
    simp only [decodeAscii_of_ascii hascii, hstrip, hname, Option.getD_some]
  | none =>
    rw [PlainPositionType, hname] at h
    obtain ⟨hplain, hpadded⟩ := h.resolve_left Bool.false_ne_true
    by_cases hpad : Padded field
    · obtain ⟨-, hfield⟩ := hpadded hpad (decodeAscii field) (by simp)
      obtain ⟨hnoName, hnoInt⟩ :=
        hpadded hpad (stripQuotes (stripBlanks (decodeAscii field))) (by simp)
      rw [hint] at hnoInt
      simp only [hnoName, hnoInt, ← parseInt_eq hzero hplain, hfield, Option.getD_none,
        Option.elim_none]
    · simp only [strip_decodeAscii hpad, hlookup, hname, ← hint, parseInt_eq hzero hplain,
        Option.getD_none]
      cases UnicoreParser.parseInt field <;> rfl

end UnicoreGnss.LiveValidate
