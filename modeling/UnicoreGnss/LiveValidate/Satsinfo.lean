import UnicoreGnss.Lib.Summaries
import UnicoreGnss.LiveValidate.Fields
import UnicoreGnss.Parser.Satsinfo

/-!
# The validator's summaries of the satellites in view

Of a SATSINFO report the validator keeps a summary only: how many satellites of each constellation
are in view, how many signals of each band are tracked, and the mean and the largest C/N0. Both its
parsers go through the satellites with a cursor, and count while they go.

The parser of the text log counts the first signal of a satellite at the head of its record and the
further signals behind it. The parser of the binary frame counts the first signal at the head as
well, and then once more: its loop goes over all signals of the record, the first one included.

The numbers of a snapshot are exact here, and `none` is its `nan`.

## Main results

* `parseSatsinfoa_asciiFields`, `parseSatsinfob_satsinfoPayload` — what each parser makes of its
  encoding of a report
* `satsinfo_summaries_iff` — when both make the same of it
-/

namespace UnicoreGnss.LiveValidate

open CNumber Checked Cursor Summaries

/-! ### Counting -/

/-- The variables in which both parsers count. -/
structure SatsinfoTotals where
  visibleByConstellation : Table Text := zeros primaryConstellations
  signalCountByBand : Table Text := zeros primarySignals
  cn0Values : List ℚ := []

/-- What is kept of a report. -/
structure SatsinfoSnapshot where
  satelliteCount : ℤ
  version : ℤ
  frequencyFlag : ℤ
  visibleTotal : ℤ
  cn0MeanDbHz : Option ℚ
  cn0MaxDbHz : Option ℚ
  visible : Table Text
  signal : Table Text

namespace SatsinfoTotals

variable (totals : SatsinfoTotals)

/-- A satellite is counted. -/
def countSatellite (constellation : Text) : SatsinfoTotals :=
  { totals with visibleByConstellation := add totals.visibleByConstellation constellation }

/-- A signal is counted, if it has a band, and its C/N0 is kept, if it is positive. -/
def countSignal (constellation : Text) (cn0 frequencyId : ℤ) : SatsinfoTotals :=
  let band := signalBandFromFrequencyId constellation frequencyId
  { totals with
    signalCountByBand :=
      if band ≠ [] then add totals.signalCountByBand band else totals.signalCountByBand
    cn0Values := if 0 < cn0 then totals.cn0Values ++ [(cn0 : ℚ)] else totals.cn0Values }

/-- The snapshot of the totals and of the counts in the header. -/
def snapshot (satelliteCount version frequencyFlag : ℤ) : SatsinfoSnapshot where
  satelliteCount := satelliteCount
  version := version
  frequencyFlag := frequencyFlag
  visibleTotal := satelliteCount
  cn0MeanDbHz := mean totals.cn0Values
  cn0MaxDbHz := totals.cn0Values.max?
  visible := totals.visibleByConstellation
  signal := totals.signalCountByBand

end SatsinfoTotals

/-! ### The two parsers -/

/-- A C/N0 of the text log, of which the `float` is taken if it is positive. -/
def cn0OfInt (cn0 : ℤ) : Checked ℤ := if 0 < cn0 then floatOfInt cn0 else value cn0

/-- The body of the inner loop of `_parse_satsinfoa`. -/
def satsinfoaExtraSignal : Gatherer Text SatsinfoTotals := fun totals fields cursor => do
  require (cursor + 3 < fields.length)
  let extraSystemId ← intAt fields cursor
  let extraCn0 ← intAt fields (cursor + 1)
  let extraFrequencyId ← intAt fields (cursor + 2)
  let _repeatedCount ← intAt fields (cursor + 3)
  let extraConstellation := constellationNameFromSystemId extraSystemId
  let extraCn0 ← cn0OfInt extraCn0
  return (totals.countSignal extraConstellation extraCn0 extraFrequencyId, cursor + 4)

/-- The body of the outer loop of `_parse_satsinfoa`. -/
def satsinfoaSatellite : Gatherer Text SatsinfoTotals := fun totals fields cursor => do
  require (cursor + 6 < fields.length)
  let _prn ← intAt fields cursor
  let _azimuth ← intAt fields (cursor + 1)
  let _elevation ← intAt fields (cursor + 2)
  let systemId ← intAt fields (cursor + 3)
  let cn0 ← intAt fields (cursor + 4)
  let frequencyId ← intAt fields (cursor + 5)
  let frequencyCount ← intAt fields (cursor + 6)
  let constellation := constellationNameFromSystemId systemId
  let cn0 ← cn0OfInt cn0
  let totals := (totals.countSatellite constellation).countSignal constellation cn0 frequencyId
  gatherMany satsinfoaExtraSignal (max frequencyCount 0 - 1).toNat totals fields (cursor + 7)

/-- `_parse_satsinfoa` -/
def parseSatsinfoa (fields : List Text) : Checked SatsinfoSnapshot := do
  require (14 < fields.length)
  let satelliteCount ← ofOption (parseInt (fieldAfterSemicolon (← get fields 9)) 10)
  let version ← intAt fields 10
  let frequencyFlag ← intAt fields 14
  require (0 ≤ satelliteCount)
  let (totals, _) ← gatherMany satsinfoaSatellite satelliteCount.toNat {} fields 15
  let satelliteCount ← floatOfInt satelliteCount
  let version ← floatOfInt version
  let frequencyFlag ← floatOfInt frequencyFlag
  return totals.snapshot satelliteCount version frequencyFlag

/-- The body of the inner loop of `_parse_satsinfob`. -/
def satsinfobSignal (payload : Bytes) (cursor : ℕ) (totals : SatsinfoTotals) (freqIndex : ℕ) :
    Checked SatsinfoTotals := do
  let offset := cursor + 4 + freqIndex * 4
  let signalSystemId ← get payload offset
  let signalCn0 ← get payload (offset + 1)
  let signalFrequencyId ← get payload (offset + 2)
  let signalConstellation := constellationNameFromSystemId signalSystemId.toNat
  return totals.countSignal signalConstellation signalCn0.toNat signalFrequencyId.toNat

/-- The body of the outer loop of `_parse_satsinfob`. The azimuth, a slice that cannot fail, is
dropped by the source. -/
def satsinfobSatellite : Gatherer UInt8 SatsinfoTotals := fun totals payload cursor => do
  require (cursor + 7 < payload.length)
  let _prn ← get payload cursor
  let _elevation ← get payload (cursor + 3)
  let systemId ← get payload (cursor + 4)
  let cn0 ← get payload (cursor + 5)
  let frequencyId ← get payload (cursor + 6)
  let frequencyCount ← get payload (cursor + 7)
  require (frequencyCount ≠ 0)
  let constellation := constellationNameFromSystemId systemId.toNat
  let totals :=
    (totals.countSatellite constellation).countSignal constellation cn0.toNat frequencyId.toNat
  let recordSize := 4 + frequencyCount.toNat * 4
  require (cursor + recordSize ≤ payload.length)
  -- The first signal, which has just been counted, has the index 0.
  let totals ← foldRange (satsinfobSignal payload cursor) frequencyCount.toNat totals
  return (totals, cursor + recordSize)

/-- `_parse_satsinfob` -/
def parseSatsinfob (payload : Bytes) : Checked SatsinfoSnapshot := do
  require (6 ≤ payload.length)
  let satelliteCount ← get payload 0
  let version ← get payload 1
  let frequencyFlag ← get payload 5
  let (totals, _) ← gatherMany satsinfobSatellite satelliteCount.toNat {} payload 6
  return totals.snapshot satelliteCount.toNat version.toNat frequencyFlag.toNat

/-! ### What has been counted -/

/-- The bands of signals, where they have one. -/
def bandsOf (signals : List SatelliteSignal) : List Text :=
  (signals.map fun signal => signal.info.band).filter (· ≠ [])

/-- The C/N0 of signals, where it is positive. -/
def cn0sOf (signals : List SatelliteSignal) : List ℚ :=
  (signals.map fun signal => signal.info.cn0DbHz).filter (0 < ·)

/-- The totals after these satellites and these signals have been counted. -/
def totalsOf (satellites : List Satellite) (signals : List SatelliteSignal) : SatsinfoTotals where
  visibleByConstellation :=
    addAll (zeros primaryConstellations) (satellites.map fun s => s.entry.constellation)
  signalCountByBand := addAll (zeros primarySignals) (bandsOf signals)
  cn0Values := cn0sOf signals

/-- The totals after one more signal of a list. -/
def SatsinfoTotals.count (totals : SatsinfoTotals) (signal : SatelliteSignal) : SatsinfoTotals :=
  totals.countSignal (constellationNameFromSystemId signal.systemId.toNat) signal.cn0.toNat
    signal.frequencyId.toNat

/-- One more satellite, of which these signals are counted. -/
def countRecord (counted : Satellite → List SatelliteSignal) (totals : SatsinfoTotals)
    (s : Satellite) : SatsinfoTotals :=
  (counted s).foldl SatsinfoTotals.count (totals.countSatellite
    (constellationNameFromSystemId s.firstSignal.systemId.toNat))

/-- The signals of a satellite with the first one twice. -/
def firstTwice (s : Satellite) : List SatelliteSignal := s.firstSignal :: s.signals

section Counted

variable (satellites : List Satellite) (signals : List SatelliteSignal)

theorem bandsOf_append (more : List SatelliteSignal) :
    bandsOf (signals ++ more) = bandsOf signals ++ bandsOf more := by
  rw [bandsOf, List.map_append, List.filter_append]
  rfl

theorem cn0sOf_append (more : List SatelliteSignal) :
    cn0sOf (signals ++ more) = cn0sOf signals ++ cn0sOf more := by
  rw [cn0sOf, List.map_append, List.filter_append]
  rfl

/-- One more signal. -/
theorem count_totalsOf (signal : SatelliteSignal) :
    (totalsOf satellites signals).count signal = totalsOf satellites (signals ++ [signal]) := by
  have hband : signalBandFromFrequencyId (constellationNameFromSystemId signal.systemId.toNat)
      signal.frequencyId.toNat = signal.info.band := by
    rw [signalBandFromFrequencyId_eq, constellationNameFromSystemId_eq]
    rfl
  have hcn0 : (0 : ℤ) < signal.cn0.toNat ↔ 0 < signal.info.cn0DbHz := by
    change _ ↔ (0 : ℚ) < (signal.cn0.toNat : ℚ)
    rw [Nat.cast_pos, Nat.cast_pos]
  have hbands : (if signal.info.band ≠ [] then
      add (addAll (zeros primarySignals) (bandsOf signals)) signal.info.band
        else addAll (zeros primarySignals) (bandsOf signals)) =
      addAll (zeros primarySignals) (bandsOf (signals ++ [signal])) := by
    rw [bandsOf_append, addAll_append, bandsOf, bandsOf, List.map_singleton]
    split
    · rename_i hne
      rw [List.filter_cons_of_pos (by simpa using hne)]
      rfl
    · rename_i heq
      rw [List.filter_cons_of_neg (by simpa using heq)]
      rfl
  have hvalues : (if (0 : ℤ) < signal.cn0.toNat then
      cn0sOf signals ++ [((signal.cn0.toNat : ℤ) : ℚ)] else cn0sOf signals) =
      cn0sOf (signals ++ [signal]) := by
    rw [cn0sOf_append, cn0sOf, cn0sOf, List.map_singleton]
    split
    · rename_i hpos
      rw [List.filter_cons_of_pos (by simpa using hcn0.mp hpos), Int.cast_natCast]
      rfl
    · rename_i hzero
      rw [List.filter_cons_of_neg (by simpa using fun h => hzero (hcn0.mpr h)), List.filter_nil,
        List.append_nil]
  rw [SatsinfoTotals.count, SatsinfoTotals.countSignal]
  simp only [hband]
  rw [totalsOf, totalsOf, ← hbands, ← hvalues]

theorem foldl_count_totalsOf (more : List SatelliteSignal) :
    more.foldl SatsinfoTotals.count (totalsOf satellites signals) =
      totalsOf satellites (signals ++ more) := by
  induction more generalizing signals with
  | nil => rw [List.append_nil, List.foldl_nil]
  | cons signal more ih =>
    rw [List.foldl_cons, count_totalsOf, ih, List.append_assoc, List.singleton_append]

/-- One more satellite. -/
theorem countSatellite_totalsOf (s : Satellite) :
    (totalsOf satellites signals).countSatellite
      (constellationNameFromSystemId s.firstSignal.systemId.toNat) =
        totalsOf (satellites ++ [s]) signals := by
  rw [SatsinfoTotals.countSatellite, totalsOf, totalsOf, List.map_append, addAll_append,
    constellationNameFromSystemId_eq]
  rfl

/-- **The totals of a report** are those of its satellites and of the signals that are counted. -/
theorem foldl_countRecord (counted : Satellite → List SatelliteSignal) (more : List Satellite) :
    more.foldl (countRecord counted) (totalsOf satellites signals) =
      totalsOf (satellites ++ more) (signals ++ more.flatMap counted) := by
  induction more generalizing satellites signals with
  | nil => rw [List.foldl_nil, List.flatMap_nil, List.append_nil, List.append_nil]
  | cons s more ih =>
    rw [List.foldl_cons, countRecord, countSatellite_totalsOf, foldl_count_totalsOf, ih,
      List.flatMap_cons, List.append_assoc, List.append_assoc, List.singleton_append]

end Counted

/-! ### The text encoding -/

section Text

theorem natAbs_byte (b : UInt8) : (b.toNat : ℤ).natAbs < 2 ^ 32 := by
  have := b.toNat_lt
  omega

theorem floatOfInt_byte (b : UInt8) : floatOfInt b.toNat = value (b.toNat : ℤ) :=
  floatOfInt_of_lt ((natAbs_byte b).trans (by decide))

theorem cn0OfInt_byte (b : UInt8) : cn0OfInt b.toNat = value (b.toNat : ℤ) := by
  rw [cn0OfInt, floatOfInt_byte, ite_self]

/-- **A further signal** is counted. -/
theorem gathers_asciiSignal {count : ℕ} (hcount : count < 256) (signal : SatelliteSignal) :
    Gathers satsinfoaExtraSignal (UnicoreParser.asciiSignal count signal)
      fun totals => totals.count signal := by
  intro totals front back
  have hlen : front.length + 3 <
      (front ++ UnicoreParser.asciiSignal count signal ++ back).length := by
    simp [UnicoreParser.asciiSignal]
  have hread : ∀ {i n}, (UnicoreParser.asciiSignal count signal)[i]? = some (decimalInt n) →
      n.natAbs < 2 ^ 32 →
      intAt (front ++ UnicoreParser.asciiSignal count signal ++ back) (front.length + i) =
        value n := fun h hn => intAt_append front back h hn
  have h0 := hread (i := 0) rfl (natAbs_byte signal.systemId)
  have h1 := hread (i := 1) rfl (natAbs_byte signal.cn0)
  have h2 := hread (i := 2) rfl (natAbs_byte signal.frequencyId)
  have h3 := hread (i := 3) (n := count) rfl (by omega)
  rw [Nat.add_zero] at h0
  rw [satsinfoaExtraSignal, require_true hlen]
  simp only [value_bind, h0, h1, h2, h3, cn0OfInt_byte, pure_eq]
  simp [UnicoreParser.asciiSignal, SatsinfoTotals.count]

/-- **A satellite** is counted with each of its signals. -/
theorem gathers_asciiSatellite (s : Satellite) :
    Gathers satsinfoaSatellite (UnicoreParser.asciiSatellite s)
      fun totals => countRecord Satellite.signals totals s := by
  intro totals front back
  have hcount : s.signalCount < 256 := Nat.succ_lt_succ s.length_furtherSignals
  have hfurther := Gathers.gatherMany (gathers_asciiSignal hcount) s.furtherSignals
  set head := UnicoreParser.asciiSatelliteHead s with hhead
  set further := (s.furtherSignals.map (UnicoreParser.asciiSignal s.signalCount)).flatten
  have hfields : front ++ UnicoreParser.asciiSatellite s ++ back =
      front ++ head ++ (further ++ back) := by
    rw [UnicoreParser.asciiSatellite, List.append_assoc, List.append_assoc, List.append_assoc]
  have hlen : front.length + 6 < (front ++ head ++ (further ++ back)).length := by
    simp [hhead, UnicoreParser.asciiSatelliteHead, UnicoreParser.asciiSignal]
  have hread : ∀ {i n}, head[i]? = some (decimalInt n) → n.natAbs < 2 ^ 32 →
      intAt (front ++ head ++ (further ++ back)) (front.length + i) = value n :=
    fun h hn => intAt_append front _ h hn
  have hazimuth := s.azimuth_range
  have h0 := hread (i := 0) rfl (natAbs_byte s.prn)
  have h1 := hread (i := 1) (n := s.azimuth.toInt) rfl (by omega)
  have h2 := hread (i := 2) rfl (natAbs_byte s.elevation)
  have h3 := hread (i := 3) rfl (natAbs_byte s.firstSignal.systemId)
  have h4 := hread (i := 4) rfl (natAbs_byte s.firstSignal.cn0)
  have h5 := hread (i := 5) rfl (natAbs_byte s.firstSignal.frequencyId)
  have h6 := hread (i := 6) (n := s.signalCount) rfl (by omega)
  have hrest : (max (s.signalCount : ℤ) 0 - 1).toNat = s.furtherSignals.length := by
    rw [Satellite.signalCount]
    omega
  have hcursor : front.length + 7 = (front ++ head).length := by
    simp [hhead, UnicoreParser.asciiSatelliteHead, UnicoreParser.asciiSignal]
  rw [Nat.add_zero] at h0
  rw [hfields, satsinfoaSatellite, require_true hlen]
  simp only [value_bind, h0, h1, h2, h3, h4, h5, h6, hrest, hcursor, cn0OfInt_byte]
  rw [← List.append_assoc, hfurther, UnicoreParser.asciiSatellite, ← List.append_assoc]
  rfl

variable (header : LogHeader) (reserved : Bytes × Bytes × Bytes) (info : SatsInfo)

/-- **The text encoding** of a report is summed up with each signal counted once. -/
theorem parseSatsinfoa_asciiFields :
    parseSatsinfoa (UnicoreParser.asciiFields header reserved info) = value
      ((totalsOf info.satellites (info.satellites.flatMap Satellite.signals)).snapshot
        info.satellites.length info.version.toNat info.frequencyFlag.toNat) := by
  have hsatellites := info.length_satellites
  have hlen := UnicoreParser.length_asciiHead header reserved info
  have hgather := Gathers.gatherMany gathers_asciiSatellite info.satellites {}
    (UnicoreParser.asciiHead header reserved info) []
  rw [List.append_nil, hlen, ← UnicoreParser.asciiFields_eq] at hgather
  set fields := UnicoreParser.asciiFields header reserved info with hfields
  have hmin : 14 < fields.length := by
    rw [hfields, UnicoreParser.asciiFields_eq, List.length_append, hlen]
    omega
  have h9 : get fields 9 = value (header.last ++ semicolon :: decimalInt info.satellites.length) :=
    UnicoreParser.get_fields_nine header _ _
  have h10 : intAt fields 10 = value (info.version.toNat : ℤ) :=
    intAt_fields header _ _ (i := 0) rfl (natAbs_byte info.version)
  have h14 : intAt fields 14 = value (info.frequencyFlag.toNat : ℤ) :=
    intAt_fields header _ _ (i := 4) rfl (natAbs_byte info.frequencyFlag)
  have hpos : (0 : ℤ) ≤ info.satellites.length := Int.natCast_nonneg _
  rw [parseSatsinfoa, require_true hmin, value_bind, h9, value_bind, fieldAfterSemicolon_header,
    parseInt_decimalInt (by omega), ofOption_some, value_bind, h10, value_bind, h14, value_bind,
    require_true hpos, value_bind, Int.toNat_natCast, hgather, value_bind]
  have htotals : info.satellites.foldl (countRecord Satellite.signals) {} =
      totalsOf info.satellites (info.satellites.flatMap Satellite.signals) :=
    foldl_countRecord [] [] Satellite.signals info.satellites
  have hcount : floatOfInt (info.satellites.length : ℤ) = value (info.satellites.length : ℤ) :=
    floatOfInt_of_lt (by omega)
  simp only [htotals, hcount, floatOfInt_byte, value_bind, pure_eq]

end Text

/-! ### The binary encoding -/

section Binary

open UnicoreBinaryNavParser

/-- The loop over the signals of a satellite counts each of them. -/
theorem foldRange_satsinfobSignal (front back : Bytes) (s : Satellite) (totals : SatsinfoTotals) :
    foldRange (satsinfobSignal (front ++ binarySatellite s ++ back) front.length) s.signalCount
      totals = value (s.signals.foldl SatsinfoTotals.count totals) := by
  show foldRange _ s.signals.length totals = _
  refine foldRange_of_getElem? (fun totals i signal hsignal => ?_) totals
  obtain ⟨before, after, hsplit, hbefore⟩ :=
    exists_split_flatMap (binarySignal s.signalCount) 4 (fun _ => rfl) hsignal
  set front' := front ++ ([s.prn] ++ leI16 s.azimuth.toInt ++ [s.elevation]) ++ before
    with hfront'
  have hoffset : front'.length = front.length + 4 + i * 4 := by
    rw [hfront', List.length_append, List.length_append, hbefore]
    rfl
  have hpayload : front ++ binarySatellite s ++ back =
      front' ++ binarySignal s.signalCount signal ++ (after ++ back) := by
    rw [binarySatellite_eq, hsplit, hfront']
    simp only [List.append_assoc]
  have hread : ∀ {j b}, (binarySignal s.signalCount signal)[j]? = some b →
      get (front' ++ binarySignal s.signalCount signal ++ (after ++ back)) (front'.length + j) =
        value b := fun h => get_append front' _ h
  have h0 := hread (j := 0) rfl
  have h1 := hread (j := 1) rfl
  have h2 := hread (j := 2) rfl
  rw [Nat.add_zero] at h0
  rw [satsinfobSignal, hpayload]
  simp only [← hoffset, h0, h1, h2, value_bind, pure_eq]
  rfl

/-- **A satellite** is counted with each of its signals and with the first one again. -/
theorem gathers_binarySatellite (s : Satellite) :
    Gathers satsinfobSatellite (binarySatellite s) fun totals =>
      countRecord firstTwice totals s := by
  intro totals front back
  have hlen := length_binarySatellite s
  have hcount : s.signalCount < 256 := Nat.succ_lt_succ s.length_furtherSignals
  have hpos : 0 < s.signalCount := Nat.succ_pos _
  set payload := front ++ binarySatellite s ++ back with hpayload
  have hlength : payload.length = front.length + (4 + s.signalCount * 4) + back.length := by
    rw [hpayload, List.length_append, List.length_append, hlen]
  have hmin : front.length + 7 < payload.length := by omega
  have hrecord : front.length + (4 + s.signalCount * 4) ≤ payload.length := by omega
  have hread : ∀ {i b}, (binarySatelliteHead s)[i]? = some b →
      get payload (front.length + i) = value b := by
    intro i b h
    rw [hpayload, binarySatellite, ← List.append_assoc, List.append_assoc _ _ back]
    exact get_append front _ h
  have h0 := hread (i := 0) rfl
  have h3 := hread (i := 3) rfl
  have h4 := hread (i := 4) rfl
  have h5 := hread (i := 5) rfl
  have h6 := hread (i := 6) rfl
  have h7 := hread (i := 7) rfl
  have hword : (UInt8.ofNat s.signalCount).toNat = s.signalCount := by
    rw [UInt8.toNat_ofNat', Nat.mod_eq_of_lt hcount]
  have hne : UInt8.ofNat s.signalCount ≠ 0 := by
    intro h
    rw [← UInt8.toNat_inj, hword] at h
    exact hpos.ne' h
  rw [Nat.add_zero] at h0
  rw [satsinfobSatellite, require_true hmin]
  simp only [value_bind, h0, h3, h4, h5, h6, h7, require_true hne, hword, require_true hrecord,
    pure_eq]
  rw [hpayload, foldRange_satsinfobSignal, value_bind, List.length_append, hlen]
  rfl

variable (reserved : UInt8 × UInt8 × UInt8) (info : SatsInfo)

/-- **The binary encoding** of a report is summed up with each signal counted once and the first
signal of each satellite once more. -/
theorem parseSatsinfob_satsinfoPayload :
    parseSatsinfob (satsinfoPayload reserved info) = value
      ((totalsOf info.satellites (info.satellites.flatMap firstTwice)).snapshot
        info.satellites.length info.version.toNat info.frequencyFlag.toNat) := by
  have hgather := Gathers.gatherMany gathers_binarySatellite info.satellites {}
    (binaryHead reserved info) []
  rw [List.append_nil, ← satsinfoPayload] at hgather
  have hmin : 6 ≤ (satsinfoPayload reserved info).length := by
    simp [satsinfoPayload, binaryHead]
  have hread : ∀ {i b}, (binaryHead reserved info)[i]? = some b →
      get (satsinfoPayload reserved info) i = value b := by
    intro i b h
    have h := get_append [] (info.satellites.map binarySatellite).flatten h
    rwa [List.nil_append, List.length_nil, Nat.zero_add, ← satsinfoPayload] at h
  have h0 := hread (i := 0) rfl
  have h1 := hread (i := 1) rfl
  have h5 := hread (i := 5) rfl
  have hcount : (UInt8.ofNat info.satellites.length).toNat = info.satellites.length := by
    rw [UInt8.toNat_ofNat', Nat.mod_eq_of_lt info.length_satellites]
  have htotals : info.satellites.foldl (countRecord firstTwice) {} =
      totalsOf info.satellites (info.satellites.flatMap firstTwice) :=
    foldl_countRecord [] [] firstTwice info.satellites
  have hhead : (binaryHead reserved info).length = 6 := rfl
  rw [hhead] at hgather
  rw [parseSatsinfob, require_true hmin, value_bind, h0, value_bind, h1, value_bind, h5,
    value_bind, hcount, hgather, value_bind]
  simp only [htotals, pure_eq]

end Binary

/-! ### When the summaries agree -/

section Agreement

variable (info : SatsInfo)

/-- All the signals of a list, in order. -/
def allSignals : List SatelliteSignal := info.satellites.flatMap Satellite.signals

/-- The first signal of each satellite of a list. -/
def firstSignals : List SatelliteSignal := info.satellites.map Satellite.firstSignal

/-- The summary of a report, in which each signal counts once. -/
def summary : SatsinfoSnapshot :=
  (totalsOf info.satellites (allSignals info)).snapshot info.satellites.length info.version.toNat
    info.frequencyFlag.toNat

/-- The first signals of the satellites leave no trace when they are counted again. -/
structure FirstSignalsUnnoticed : Prop where
  /-- None of them has a band. -/
  noBand : ∀ s ∈ info.satellites, s.firstSignal.info.band = []
  /-- Those with a positive C/N0, if any, have the mean of all signals with one. -/
  sameMean : cn0sOf (firstSignals info) = [] ∨
    mean (cn0sOf (firstSignals info)) = mean (cn0sOf (allSignals info))

/-- What the binary parser counts, in another order. -/
theorem flatMap_firstTwice_perm :
    (info.satellites.flatMap firstTwice).Perm (allSignals info ++ firstSignals info) := by
  have hpair : info.satellites.flatMap firstTwice =
      info.satellites.flatMap fun s => [s.firstSignal] ++ s.signals := rfl
  have hfirst : firstSignals info = info.satellites.flatMap fun s => [s.firstSignal] :=
    List.map_eq_flatMap
  rw [hpair, hfirst, allSignals]
  exact (List.flatMap_append_perm info.satellites _ _).symm.trans List.perm_append_comm

/-- The first signals are among the signals. -/
theorem firstSignals_subset : firstSignals info ⊆ allSignals info := by
  intro signal hsignal
  obtain ⟨s, hs, rfl⟩ := List.mem_map.mp hsignal
  exact List.mem_flatMap.mpr ⟨s, hs, List.mem_cons_self⟩

theorem bandsOf_firstSignals_eq_nil_iff :
    bandsOf (firstSignals info) = [] ↔ ∀ s ∈ info.satellites, s.firstSignal.info.band = [] := by
  simp [bandsOf, firstSignals]

/-- **The table of bands** shows the second counting of a band. -/
theorem bandTable_eq_iff :
    addAll (zeros primarySignals) (bandsOf (info.satellites.flatMap firstTwice)) =
        addAll (zeros primarySignals) (bandsOf (allSignals info)) ↔
      ∀ s ∈ info.satellites, s.firstSignal.info.band = [] := by
  have hperm : (bandsOf (info.satellites.flatMap firstTwice)).Perm
      (bandsOf (allSignals info) ++ bandsOf (firstSignals info)) := by
    rw [← bandsOf_append]
    exact ((flatMap_firstTwice_perm info).map _).filter _
  rw [addAll_perm _ hperm, addAll_append, addAll_eq_self_iff, bandsOf_firstSignals_eq_nil_iff]

theorem cn0sOf_firstTwice_perm : (cn0sOf (info.satellites.flatMap firstTwice)).Perm
    (cn0sOf (allSignals info) ++ cn0sOf (firstSignals info)) := by
  rw [← cn0sOf_append]
  exact ((flatMap_firstTwice_perm info).map _).filter _

/-- **The mean** shows the second counting of a C/N0 that is not in the mean. -/
theorem cn0Mean_eq_iff :
    mean (cn0sOf (info.satellites.flatMap firstTwice)) = mean (cn0sOf (allSignals info)) ↔
      cn0sOf (firstSignals info) = [] ∨
        mean (cn0sOf (firstSignals info)) = mean (cn0sOf (allSignals info)) := by
  rw [mean_perm (cn0sOf_firstTwice_perm info), mean_append_eq_iff]

/-- **The largest C/N0** never shows it. -/
theorem cn0Max_eq :
    (cn0sOf (info.satellites.flatMap firstTwice)).max? = (cn0sOf (allSignals info)).max? := by
  refine max?_congr fun x => ?_
  rw [(cn0sOf_firstTwice_perm info).mem_iff, List.mem_append, or_iff_left_iff_imp]
  intro hx
  rw [cn0sOf, List.mem_filter, List.mem_map] at hx ⊢
  obtain ⟨⟨signal, hsignal, rfl⟩, hpos⟩ := hx
  exact ⟨⟨signal, firstSignals_subset info hsignal, rfl⟩, hpos⟩

/-- **Both parsers sum up a report** with each signal counted once exactly if the first signals
leave no trace when they are counted again. -/
theorem satsinfo_summaries_iff (header : LogHeader) (asciiReserved : Bytes × Bytes × Bytes)
    (binaryReserved : UInt8 × UInt8 × UInt8) :
    (parseSatsinfoa (UnicoreParser.asciiFields header asciiReserved info) = value (summary info) ∧
      parseSatsinfob (UnicoreBinaryNavParser.satsinfoPayload binaryReserved info) =
        value (summary info)) ↔ FirstSignalsUnnoticed info := by
  rw [parseSatsinfoa_asciiFields, parseSatsinfob_satsinfoPayload, ← allSignals, ← summary,
    and_iff_right rfl, value.injEq, summary]
  simp only [SatsinfoTotals.snapshot, totalsOf, SatsinfoSnapshot.mk.injEq, cn0Max_eq,
    bandTable_eq_iff, cn0Mean_eq_iff, true_and]
  constructor
  · rintro ⟨hmean, hband⟩
    exact ⟨hband, hmean⟩
  · rintro ⟨hband, hmean⟩
    exact ⟨hmean, hband⟩

/-- A GPS satellite with a signal on L1 and a weaker one on L2: the binary parser counts two signals
on L1. -/
theorem satsinfo_summaries_differ :
    ¬ ∀ (header : LogHeader) (asciiReserved : Bytes × Bytes × Bytes)
      (binaryReserved : UInt8 × UInt8 × UInt8) (info : SatsInfo),
        parseSatsinfoa (UnicoreParser.asciiFields header asciiReserved info) =
            value (summary info) ∧
          parseSatsinfob (UnicoreBinaryNavParser.satsinfoPayload binaryReserved info) =
            value (summary info) := by
  intro h
  have hb := (h ⟨List.replicate 9 [], [], rfl, List.not_mem_nil⟩ ([], [], []) (0, 0, 0)
    ⟨1, 0, [⟨7, 120, 45, ⟨0, 40, 0⟩, [⟨0, 20, 9⟩], by decide⟩], by decide⟩).2
  rw [parseSatsinfob_satsinfoPayload, value.injEq] at hb
  have hl1 := congrFun (congrArg SatsinfoSnapshot.signal hb) (ascii "L1")
  exact absurd hl1 (by decide)

end Agreement

end UnicoreGnss.LiveValidate
