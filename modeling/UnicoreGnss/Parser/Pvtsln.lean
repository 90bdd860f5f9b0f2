import UnicoreGnss.Parser.Layout

/-!
# The fix of PVTSLN

PVTSLN carries the best position in both formats: PVTSLNA as some forty fields, PVTSLNB as a
payload of at least 140 bytes. `PvtslnRecord` is what both say about the fix; `PvtslnSkipped` is
what stands in the places neither fix is made of.

The two parsers make the same fix of a record but for one member. PVTSLNA reports the satellites
in the solution, whatever their number, while PVTSLNB falls back on the tracked ones if there are
none in the solution.

## Main results

* `positionTypeToGgaQuality_name` — the two quality tables agree on every position type
* `pvtsln_agree_iff` — the two parsers agree on a record exactly if there are satellites in the
  solution or none tracked, and the numbers the binary parser reads in passing are finite
-/

namespace UnicoreGnss

open CNumber Checked Ieee754

/-! ### The quality tables -/

/-- The text parser finds no quality in the name of a type without a name. -/
theorem quality_unknown (rest : Bytes) :
    UnicoreParser.positionTypeToGgaQuality (ascii "UNKNOWN_" ++ rest) = 0 := by
  have hne : ∀ name : Bytes, name.head? ≠ some 85 → ascii "UNKNOWN_" ++ rest ≠ name := by
    rintro name hname rfl
    exact hname rfl
  have hint : UnicoreParser.parseInt (ascii "UNKNOWN_" ++ rest) = none := rfl
  simp (disch := decide) only [UnicoreParser.positionTypeToGgaQuality, List.mem_cons,
    List.not_mem_nil, hne, hint, or_false, if_false]

/-- **The quality tables agree** on every position type. -/
theorem positionTypeToGgaQuality_name (code : UInt32) :
    UnicoreParser.positionTypeToGgaQuality (UnicoreBinaryNavParser.positionTypeName code) =
      UnicoreBinaryNavParser.positionTypeToGgaQuality code := by
  by_cases hmem : code ∈ UnicoreBinaryNavParser.positionTypeNames.map Prod.fst
  · have htable : (UnicoreBinaryNavParser.positionTypeNames.map Prod.fst).all (fun c =>
        UnicoreParser.positionTypeToGgaQuality (UnicoreBinaryNavParser.positionTypeName c) =
          UnicoreBinaryNavParser.positionTypeToGgaQuality c) = true := by decide
    exact of_decide_eq_true (List.all_eq_true.mp htable code hmem)
  · have hname : UnicoreBinaryNavParser.positionTypeNames.lookup code = none := by
      rw [List.lookup_eq_none_iff]
      intro p hp
      have : code ≠ p.1 := fun h => hmem (h ▸ List.mem_map_of_mem hp)
      simpa using this
    rw [UnicoreBinaryNavParser.positionTypeName, hname, Option.getD_none, quality_unknown]
    simp only [UnicoreBinaryNavParser.positionTypeNames, List.map_cons, List.map_nil,
      List.mem_cons, List.not_mem_nil, or_false, not_or] at hmem
    simp only [UnicoreBinaryNavParser.positionTypeToGgaQuality, List.mem_cons, List.not_mem_nil,
      hmem, or_false, if_false]

/-! ### Records -/

/-- What a PVTSLN log says about the fix, in numbers both formats can denote. -/
structure PvtslnRecord where
  positionType : UInt32
  height : SharedFloat
  latitude : SharedDouble
  longitude : SharedDouble
  heightStd : SharedFloat
  latitudeStd : SharedFloat
  longitudeStd : SharedFloat
  undulation : SharedFloat
  trackedSatellites : UInt8
  solutionSatellites : UInt8
  hdop : SharedFloat

/-- What stands in the other places of both formats. In a payload some of them are words. -/
structure PvtslnSkipped where
  asciiPsrpos : Vector Bytes 5
  asciiVelocityHeading : Vector Bytes 15
  asciiTail : List Bytes
  diffAge : UInt32
  psrposType : UInt32
  psrpos : Vector UInt8 20
  reserved : Vector UInt8 2
  psrvelNorth : UInt64
  psrvelEast : UInt64
  psrvelGround : UInt64
  headingType : UInt32
  headingLength : UInt32
  headingDegree : UInt32
  headingPitch : UInt32
  headingTrackedSatellites : UInt8
  headingSolutionSatellites : UInt8
  headingReserved : Vector UInt8 10
  binaryTail : Bytes
  length_binaryTail : 12 ≤ binaryTail.length

/-- The numbers the binary parser reads in passing are finite. -/
def PvtslnSkipped.Finite (skipped : PvtslnSkipped) : Prop :=
  (binary32.toRat skipped.diffAge.toNat).isSome ∧
  (binary64.toRat skipped.psrvelNorth.toNat).isSome ∧
  (binary64.toRat skipped.psrvelEast.toNat).isSome ∧
  (binary64.toRat skipped.psrvelGround.toNat).isSome ∧
  (binary32.toRat skipped.headingLength.toNat).isSome ∧
  (binary32.toRat skipped.headingDegree.toNat).isSome ∧
  (binary32.toRat skipped.headingPitch.toNat).isSome

variable (header : LogHeader) (r : PvtslnRecord) (skipped : PvtslnSkipped)

/-- The fields of PVTSLNA from the height on. -/
def pvtslnaData : List Bytes :=
  [r.height.text, r.latitude.text, r.longitude.text, r.heightStd.text, r.latitudeStd.text,
    r.longitudeStd.text] ++ skipped.asciiPsrpos.toList ++
  [r.undulation.text, decimal r.trackedSatellites.toNat, decimal r.solutionSatellites.toNat] ++
  skipped.asciiVelocityHeading.toList ++ [r.hdop.text] ++ skipped.asciiTail

/-- The fields of PVTSLNA. The position type is glued to the header. -/
def pvtslnaFields : List Bytes :=
  header.fields (UnicoreBinaryNavParser.positionTypeName r.positionType) (pvtslnaData r skipped)

/-- The payload of PVTSLNB, word by word. -/
def pvtslnbPieces : List Bytes :=
  [le32 r.positionType, le32 r.height.bits, le64 r.latitude.bits, le64 r.longitude.bits,
    le32 r.heightStd.bits, le32 r.latitudeStd.bits, le32 r.longitudeStd.bits, le32 skipped.diffAge,
    le32 skipped.psrposType, skipped.psrpos.toList, le32 r.undulation.bits,
    [r.trackedSatellites, r.solutionSatellites], skipped.reserved.toList,
    le64 skipped.psrvelNorth, le64 skipped.psrvelEast, le64 skipped.psrvelGround,
    le32 skipped.headingType, le32 skipped.headingLength, le32 skipped.headingDegree,
    le32 skipped.headingPitch,
    [skipped.headingTrackedSatellites, skipped.headingSolutionSatellites],
    skipped.headingReserved.toList, le32 r.hdop.bits, skipped.binaryTail]

/-- The payload of PVTSLNB. -/
def pvtslnbPayload : Bytes := (pvtslnbPieces r skipped).flatten

/-- The fix of a record, with the satellites that a parser reports. -/
def PvtslnRecord.fix (source : FixSource) (satellites : ℤ) : FixData where
  source := source
  validFix := UnicoreBinaryNavParser.positionTypeToGgaQuality r.positionType > 0
  fixQuality := UnicoreBinaryNavParser.positionTypeToGgaQuality r.positionType
  latitudeDeg := r.latitude.number
  longitudeDeg := r.longitude.number
  altitudeM := r.height.number + r.undulation.number
  satellites := satellites
  hdop := .finite r.hdop.number
  hasCovariance := true
  covariance :=
    diagonalCovariance r.longitudeStd.number r.latitudeStd.number r.heightStd.number

/-! ### What the parsers make of a record -/

/-- **The fix of the text parser**: the satellites in the solution. -/
theorem parsePvtslna_pvtslnaFields :
    UnicoreParser.parsePvtslna (pvtslnaFields header r skipped) = value {
      sentenceType := ascii "PVTSLNA"
      fix := some (r.fix .pvtslna r.solutionSatellites.toNat) } := by
  have hdouble : ∀ {i text q}, (pvtslnaData r skipped)[i]? = some text →
      UnicoreParser.parseDouble text = some q →
      UnicoreParser.doubleAt (pvtslnaFields header r skipped) (10 + i) = value q :=
    fun h hq => UnicoreParser.doubleAt_fields header _ _ h hq
  have hany : ∀ {α : Type} (i : ℕ) (text : Bytes) (parse : Bytes → α) (absent : α),
      (pvtslnaData r skipped)[i]? = some text →
      UnicoreParser.fieldIfAny (pvtslnaFields header r skipped) (10 + i) parse absent =
        value (parse text) :=
    fun _ _ parse absent h => UnicoreParser.fieldIfAny_fields header _ _ parse absent h
  have h9 : get (pvtslnaFields header r skipped) 9 = value (header.last ++
      semicolon :: UnicoreBinaryNavParser.positionTypeName r.positionType) :=
    UnicoreParser.get_fields_nine header _ _
  have hlen : 15 < (pvtslnaFields header r skipped).length := by
    rw [pvtslnaFields, LogHeader.fields, List.length_append, UnicoreParser.length_logHeader]
    simp [pvtslnaData]
    omega
  have h10 := hdouble (i := 0) rfl r.height.parseDouble_text
  have h11 := hdouble (i := 1) rfl r.latitude.parseDouble_text
  have h12 := hdouble (i := 2) rfl r.longitude.parseDouble_text
  have h13 := hdouble (i := 3) rfl r.heightStd.parseDouble_text
  have h14 := hdouble (i := 4) rfl r.latitudeStd.parseDouble_text
  have h15 := hdouble (i := 5) rfl r.longitudeStd.parseDouble_text
  have h21 := hany 11 r.undulation.text UnicoreParser.parseDouble none
    (by simp [pvtslnaData])
  have h22 := hany 12 (decimal r.trackedSatellites.toNat)
    (fun field => (UnicoreParser.parseInt field).getD (-1)) (-1)
    (by simp [pvtslnaData, List.getElem?_append])
  have h23 := hany 13 (decimal r.solutionSatellites.toNat)
    (fun field => (UnicoreParser.parseInt field).getD (-1)) (-1)
    (by simp [pvtslnaData, List.getElem?_append])
  have h39 := hany 29 r.hdop.text
    (fun field => UnicoreParser.parseDoubleInto field (.finite (-1))) (.finite (-1))
    (by simp [pvtslnaData, List.getElem?_append])
  have htracked := r.trackedSatellites.toNat_lt
  have hsolution := r.solutionSatellites.toNat_lt
  rw [r.undulation.parseDouble_text] at h21
  rw [UnicoreParser.parseInt_decimal (by omega), Option.getD_some] at h22 h23
  rw [UnicoreParser.parseDoubleInto_of_parseDouble r.hdop.parseDouble_text] at h39
  rw [UnicoreParser.parsePvtslna, require_true hlen]
  simp only [value_bind, h9, h10, h11, h12, h13, h14, h15, h21, h22, h23, h39,
    UnicoreParser.fieldAfterSemicolon_append header.notMem_last, positionTypeToGgaQuality_name]
  simp [PvtslnRecord.fix]

namespace UnicoreBinaryNavParser

/-- What the binary parser makes of a payload: nothing but the numbers read in passing can stop
it. -/
theorem parsePvtslnb_pvtslnbPayload :
    parsePvtslnb (pvtslnbPayload r skipped) = (do
      let _ ← ofOption (binary32.toRat skipped.diffAge.toNat)
      let _ ← ofOption (binary64.toRat skipped.psrvelNorth.toNat)
      let _ ← ofOption (binary64.toRat skipped.psrvelEast.toNat)
      let _ ← ofOption (binary64.toRat skipped.psrvelGround.toNat)
      let headingLength ← ofOption (binary32.toRat skipped.headingLength.toNat)
      let headingDegree ← ofOption (binary32.toRat skipped.headingDegree.toNat)
      let headingPitch ← ofOption (binary32.toRat skipped.headingPitch.toNat)
      return {
        sentenceType := ascii "PVTSLNB"
        fix := some (r.fix .pvtslnb
          (if r.solutionSatellites > 0 then r.solutionSatellites
            else r.trackedSatellites).toNat)
        heading :=
          if skipped.headingType = 0 ∨ headingLength > 0 then
            some {
              source := .pvtslnb
              headingDeg := headingDegree
              pitchDeg := some headingPitch
              baselineM := some headingLength
              varianceDeg2 := 0 }
          else none }) := by
  have htail := skipped.length_binaryTail
  have hsizes : (pvtslnbPieces r skipped).map List.length =
      [4, 4, 8, 8, 4, 4, 4, 4, 4, 20, 4, 2, 2, 8, 8, 8, 4, 4, 4, 4, 2, 10, 4,
        skipped.binaryTail.length] := by
    simp [pvtslnbPieces, length_le64, le32]
  have hmin : 140 ≤ (pvtslnbPieces r skipped).flatten.length := by
    rw [List.length_flatten, hsizes]
    simp
    omega
  have h0 := readU32_flatten hsizes 0 0 rfl (by simp)
  have h4 := readSharedFloat_flatten hsizes 1 4 rfl (by simp)
  have h8 := readSharedDouble_flatten hsizes 2 8 rfl (by simp)
  have h16 := readSharedDouble_flatten hsizes 3 16 rfl (by simp)
  have h24 := readSharedFloat_flatten hsizes 4 24 rfl (by simp)
  have h28 := readSharedFloat_flatten hsizes 5 28 rfl (by simp)
  have h32 := readSharedFloat_flatten hsizes 6 32 rfl (by simp)
  have h36 := readFloat32_flatten hsizes 7 36 rfl (by simp)
  have h40 := readU32_flatten hsizes 8 40 rfl (by simp)
  have h64 := readSharedFloat_flatten hsizes 10 64 rfl (by simp)
  have h68 := readU8_flatten hsizes 11 0 68 rfl rfl (by simp)
  have h69 := readU8_flatten hsizes 11 1 69 rfl rfl (by simp)
  have h72 := readFloat64_flatten hsizes 13 72 rfl (by simp)
  have h80 := readFloat64_flatten hsizes 14 80 rfl (by simp)
  have h88 := readFloat64_flatten hsizes 15 88 rfl (by simp)
  have h96 := readU32_flatten hsizes 16 96 rfl (by simp)
  have h100 := readFloat32_flatten hsizes 17 100 rfl (by simp)
  have h104 := readFloat32_flatten hsizes 18 104 rfl (by simp)
  have h108 := readFloat32_flatten hsizes 19 108 rfl (by simp)
  have h112 := readU8_flatten hsizes 20 0 112 rfl rfl (by simp)
  have h113 := readU8_flatten hsizes 20 1 113 rfl rfl (by simp)
  have h124 := readSharedFloat_flatten hsizes 22 124 rfl (by simp)
  rw [parsePvtslnb, pvtslnbPayload, require_true hmin]
  simp only [value_bind, h0, h4, h8, h16, h24, h28, h32, h36, h40, h64, h68, h69,
    h72, h80, h88, h96, h100, h104, h108, h112, h113, h124]
  simp only [PvtslnRecord.fix, pure_eq]

end UnicoreBinaryNavParser

/-! ### Agreement -/

/-- The fix that a parser has made, if it has. -/
def HasFix (parsed : Checked ParsedSentence) (f : FixData) : Prop :=
  ∃ sentence, parsed = value sentence ∧ sentence.fix = some f

/-- The fixes of one position in two formats: equal in all members but their sources. -/
def FixData.Matches (f g : FixData) : Prop :=
  f.validFix = g.validFix ∧ f.fixQuality = g.fixQuality ∧ f.latitudeDeg = g.latitudeDeg ∧
    f.longitudeDeg = g.longitudeDeg ∧ f.altitudeM = g.altitudeM ∧ f.satellites = g.satellites ∧
    f.hdop = g.hdop ∧ f.covariance = g.covariance

/-- Both parsers have made a fix, and the fixes match. -/
def ParsersAgree (text binary : Checked ParsedSentence) : Prop :=
  ∃ f g, HasFix text f ∧ HasFix binary g ∧ f.Matches g

theorem hasFix_pvtslna_iff {f : FixData} :
    HasFix (UnicoreParser.parsePvtslna (pvtslnaFields header r skipped)) f ↔
      r.fix .pvtslna r.solutionSatellites.toNat = f := by
  rw [parsePvtslna_pvtslnaFields, HasFix]
  constructor
  · rintro ⟨sentence, hvalue, hfix⟩
    cases hvalue
    exact Option.some.inj hfix
  · rintro rfl
    exact ⟨_, rfl, rfl⟩

/-- The satellites that the binary parser reports. -/
def PvtslnRecord.reportedSatellites : UInt8 :=
  if r.solutionSatellites > 0 then r.solutionSatellites else r.trackedSatellites

theorem hasFix_pvtslnb_iff {g : FixData} :
    HasFix (UnicoreBinaryNavParser.parsePvtslnb (pvtslnbPayload r skipped)) g ↔
      skipped.Finite ∧ r.fix .pvtslnb r.reportedSatellites.toNat = g := by
  rw [UnicoreBinaryNavParser.parsePvtslnb_pvtslnbPayload, HasFix]
  simp only [ofOption_bind_eq_value]
  constructor
  · rintro ⟨sentence, ⟨_, h36, _, h72, _, h80, _, h88, _, h100, _, h104, _, h108, hvalue⟩, hfix⟩
    cases hvalue
    refine ⟨?_, Option.some.inj hfix⟩
    simp only [PvtslnSkipped.Finite, h36, h72, h80, h88, h100, h104, h108, Option.isSome_some,
      and_self]
  · rintro ⟨⟨h36, h72, h80, h88, h100, h104, h108⟩, rfl⟩
    rw [Option.isSome_iff_exists] at h36 h72 h80 h88 h100 h104 h108
    obtain ⟨diffAge, h36⟩ := h36
    obtain ⟨north, h72⟩ := h72
    obtain ⟨east, h80⟩ := h80
    obtain ⟨ground, h88⟩ := h88
    obtain ⟨length, h100⟩ := h100
    obtain ⟨degree, h104⟩ := h104
    obtain ⟨pitch, h108⟩ := h108
    exact ⟨_, ⟨diffAge, h36, north, h72, east, h80, ground, h88, length, h100, degree, h104,
      pitch, h108, rfl⟩, rfl⟩

/-- The binary parser reports the satellites in the solution, as the text parser does, unless
there are none and tracked ones take their place. -/
theorem PvtslnRecord.reportedSatellites_eq_iff :
    r.solutionSatellites = r.reportedSatellites ↔
      0 < r.solutionSatellites ∨ r.trackedSatellites = 0 := by
  rw [PvtslnRecord.reportedSatellites]
  split
  · rename_i hpos
    exact iff_of_true rfl (Or.inl hpos)
  · rename_i hpos
    have hzero : r.solutionSatellites = 0 := by
      rw [gt_iff_lt, UInt8.lt_iff_toNat_lt, UInt8.toNat_zero] at hpos
      exact UInt8.toNat_inj.mp (by rw [UInt8.toNat_zero]; omega)
    rw [hzero]
    simp [eq_comm]

/-- Fixes of a record match if they report the same satellites. -/
theorem PvtslnRecord.matches_fix_iff {source source' : FixSource} {n m : UInt8} :
    (r.fix source n.toNat).Matches (r.fix source' m.toNat) ↔ n = m := by
  simp [FixData.Matches, PvtslnRecord.fix, UInt8.toNat_inj]

/-- **Agreement of the parsers**: on a record with satellites in the solution or none tracked, if
the numbers that only the binary parser reads are finite, and on no other. -/
theorem pvtsln_agree_iff :
    ParsersAgree (UnicoreParser.parsePvtslna (pvtslnaFields header r skipped))
        (UnicoreBinaryNavParser.parsePvtslnb (pvtslnbPayload r skipped)) ↔
      (0 < r.solutionSatellites ∨ r.trackedSatellites = 0) ∧ skipped.Finite := by
  simp only [ParsersAgree, hasFix_pvtslna_iff, hasFix_pvtslnb_iff]
  constructor
  · rintro ⟨f, g, rfl, ⟨hfinite, rfl⟩, hmatch⟩
    rw [r.matches_fix_iff, r.reportedSatellites_eq_iff] at hmatch
    exact ⟨hmatch, hfinite⟩
  · rintro ⟨hsatellites, hfinite⟩
    rw [← r.reportedSatellites_eq_iff, ← r.matches_fix_iff] at hsatellites
    exact ⟨_, _, rfl, ⟨hfinite, rfl⟩, hsatellites⟩

/-- The number zero in both encodings. -/
def SharedFloat.zero : SharedFloat :=
  ⟨ascii "0", 0, 0, by decide +kernel, binary32.toRat_zero (by decide)⟩

/-- The number zero in both encodings. -/
def SharedDouble.zero : SharedDouble :=
  ⟨ascii "0", 0, 0, by decide +kernel, binary64.toRat_zero (by decide)⟩

/-- A record with twelve satellites tracked and none in the solution. -/
def trackedRecord : PvtslnRecord where
  positionType := 0
  height := .zero
  latitude := .zero
  longitude := .zero
  heightStd := .zero
  latitudeStd := .zero
  longitudeStd := .zero
  undulation := .zero
  trackedSatellites := 12
  solutionSatellites := 0
  hdop := .zero

/-- Zeros and empty texts in the other places. -/
def trackedSkipped : PvtslnSkipped where
  asciiPsrpos := .replicate 5 []
  asciiVelocityHeading := .replicate 15 []
  asciiTail := []
  diffAge := 0
  psrposType := 0
  psrpos := .replicate 20 0
  reserved := .replicate 2 0
  psrvelNorth := 0
  psrvelEast := 0
  psrvelGround := 0
  headingType := 0
  headingLength := 0
  headingDegree := 0
  headingPitch := 0
  headingTrackedSatellites := 0
  headingSolutionSatellites := 0
  headingReserved := .replicate 10 0
  binaryTail := List.replicate 12 0
  length_binaryTail := by decide

/-- Nine empty texts and a last field without a semicolon. -/
def emptyHeader : LogHeader := ⟨List.replicate 9 [], [], rfl, List.not_mem_nil⟩

/-- The parsers disagree on the record: no satellites in one fix, twelve in the other. -/
theorem not_pvtsln_agree_tracked :
    ¬ ParsersAgree
        (UnicoreParser.parsePvtslna (pvtslnaFields emptyHeader trackedRecord trackedSkipped))
        (UnicoreBinaryNavParser.parsePvtslnb (pvtslnbPayload trackedRecord trackedSkipped)) := by
  rintro ⟨f, g, hf, hg, -, -, -, -, -, hsatellites, -⟩
  rw [hasFix_pvtslna_iff] at hf
  rw [hasFix_pvtslnb_iff] at hg
  rw [← hf, ← hg.2] at hsatellites
  exact absurd hsatellites (by decide)

end UnicoreGnss
