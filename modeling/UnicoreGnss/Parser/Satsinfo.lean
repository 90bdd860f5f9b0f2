import UnicoreGnss.Parser.Layout

/-!
# Satellites in view

SATSINFO reports the satellites in view, each with the signals tracked from it: in a text log as
fields, in a binary frame as bytes. Both lists are nested, and both parsers walk them with a cursor
that moves by what the input itself announces. `SatsInfo` is what a report says; `asciiFields` and
`payload` are its two encodings.

The numbers of a satellite come with those of its first signal. The last number of a signal is the
number of signals of its satellite, which only counts where the first signal states it.

## Main results

* `reads_asciiSatellite`, `reads_binarySatellite` — one satellite in either encoding
* `satsinfo_encodings` — both encodings are parsed to the same data, and refused when cut short
-/

namespace UnicoreGnss

open CNumber Checked Cursor

/-! ### Reports -/

/-- A signal: its system, its C/N0 in whole dB-Hz and its frequency. -/
structure SatelliteSignal where
  systemId : UInt8
  cn0 : UInt8
  frequencyId : UInt8

/-- A satellite with at least one and at most 255 signals. -/
structure Satellite where
  prn : UInt8
  azimuth : Int16
  elevation : UInt8
  firstSignal : SatelliteSignal
  furtherSignals : List SatelliteSignal
  length_furtherSignals : furtherSignals.length < 255

/-- A report of at most 255 satellites. -/
structure SatsInfo where
  version : UInt8
  frequencyFlag : UInt8
  satellites : List Satellite
  length_satellites : satellites.length < 256

/-- What the parsers are to say about a signal. -/
def SatelliteSignal.info (signal : SatelliteSignal) : SatsInfoSignal where
  constellation := constellationNameFromSystemId signal.systemId.toNat
  band := signalBandFromFrequencyId (constellationNameFromSystemId signal.systemId.toNat)
    signal.frequencyId.toNat
  systemId := signal.systemId.toNat
  frequencyId := signal.frequencyId.toNat
  cn0DbHz := signal.cn0.toNat

namespace Satellite

variable (s : Satellite)

/-- All signals of the satellite; there is at least one. -/
def signals : List SatelliteSignal := s.firstSignal :: s.furtherSignals

/-- How many there are. -/
def signalCount : ℕ := s.furtherSignals.length + 1

/-- What the parsers are to say about a satellite. -/
def entry : SatsInfoEntry where
  constellation := constellationNameFromSystemId s.firstSignal.systemId.toNat
  prn := s.prn.toNat
  azimuthDeg := s.azimuth.toInt
  elevationDeg := s.elevation.toNat
  signals := s.signals.map SatelliteSignal.info

/-- Azimuths are written as the `int` they are, which is in the range of 16 bits. -/
theorem azimuth_range : -2 ^ 15 ≤ s.azimuth.toInt ∧ s.azimuth.toInt < 2 ^ 15 :=
  ⟨s.azimuth.le_toInt, s.azimuth.toInt_lt⟩

end Satellite

/-- What the parsers are to say about a report. -/
def SatsInfo.data (info : SatsInfo) : SatsInfoData where
  satelliteCount := info.satellites.length
  version := info.version.toNat
  frequencyFlag := info.frequencyFlag.toNat
  entries := info.satellites.map Satellite.entry

/-! ### The text encoding -/

namespace UnicoreParser

/-- The fields of a further signal, the last one being the number of signals of its satellite. -/
def asciiSignal (count : ℕ) (signal : SatelliteSignal) : List Bytes :=
  [decimalInt signal.systemId.toNat, decimalInt signal.cn0.toNat,
    decimalInt signal.frequencyId.toNat, decimalInt count]

/-- The fields of a satellite with its first signal. -/
def asciiSatelliteHead (s : Satellite) : List Bytes :=
  [decimalInt s.prn.toNat, decimalInt s.azimuth.toInt, decimalInt s.elevation.toNat] ++
    asciiSignal s.signalCount s.firstSignal

/-- The fields of a satellite and of its further signals. -/
def asciiSatellite (s : Satellite) : List Bytes :=
  asciiSatelliteHead s ++ (s.furtherSignals.map (asciiSignal s.signalCount)).flatten

theorem byte_range (b : UInt8) : -2 ^ 31 ≤ (b.toNat : ℤ) ∧ (b.toNat : ℤ) < 2 ^ 31 := by
  have := b.toNat_lt
  omega

/-- **A further signal** is read as such. -/
theorem reads_asciiSignal {count : ℕ} (hcount : count < 256) (signal : SatelliteSignal) :
    Reads satsinfoaExtraSignal (asciiSignal count signal) signal.info := by
  refine ⟨fun front back => ?_, fun front part hpart hne => ?_⟩
  · have hlen : front.length + 3 < (front ++ asciiSignal count signal ++ back).length := by
      simp [asciiSignal]
    have hread : ∀ {i n}, (asciiSignal count signal)[i]? = some (decimalInt n) →
        -2 ^ 31 ≤ n ∧ n < 2 ^ 31 →
        intAt (front ++ asciiSignal count signal ++ back) (front.length + i) = value n :=
      fun h hn => intAt_append front back h hn.1 hn.2
    have h0 := hread (i := 0) rfl (byte_range signal.systemId)
    have h1 := hread (i := 1) rfl (byte_range signal.cn0)
    have h2 := hread (i := 2) rfl (byte_range signal.frequencyId)
    have h3 := hread (i := 3) (n := count) rfl (by omega)
    rw [Nat.add_zero] at h0
    rw [satsinfoaExtraSignal, require_true hlen]
    simp only [value_bind, h0, h1, h2, h3, pure_eq, satsinfoaSignal]
    simp [SatelliteSignal.info, asciiSignal]
  · have hshort : part.length < 4 :=
      lt_of_le_of_ne hpart.length_le fun heq => hne (hpart.eq_of_length heq)
    rw [satsinfoaExtraSignal, require_false (by rw [List.length_append]; omega), refused_bind]

/-- **A satellite** is read as such. -/
theorem reads_asciiSatellite (s : Satellite) :
    Reads satsinfoaSatellite (asciiSatellite s) s.entry := by
  have hcount : s.signalCount < 256 := Nat.succ_lt_succ s.length_furtherSignals
  have hfurther : Reads (readMany satsinfoaExtraSignal s.furtherSignals.length)
      (s.furtherSignals.map (asciiSignal s.signalCount)).flatten
      (s.furtherSignals.map SatelliteSignal.info) :=
    Reads.readMany_map (reads_asciiSignal hcount) s.furtherSignals
  -- The seven fields of the head are there, and lead to the reading of the further signals.
  have hhead : ∀ front rest,
      satsinfoaSatellite (front ++ asciiSatelliteHead s ++ rest) front.length =
        readMany satsinfoaExtraSignal s.furtherSignals.length
          (front ++ asciiSatelliteHead s ++ rest) (front ++ asciiSatelliteHead s).length >>=
        fun signals => value ({ s.entry with
          signals := s.firstSignal.info :: signals.1 }, signals.2) := by
    intro front rest
    have hlen : front.length + 6 < (front ++ asciiSatelliteHead s ++ rest).length := by
      simp [asciiSatelliteHead, asciiSignal]
    have hread : ∀ {i n}, (asciiSatelliteHead s)[i]? = some (decimalInt n) →
        -2 ^ 31 ≤ n ∧ n < 2 ^ 31 →
        intAt (front ++ asciiSatelliteHead s ++ rest) (front.length + i) = value n :=
      fun h hn => intAt_append front rest h hn.1 hn.2
    have hazimuth := s.azimuth_range
    have h0 := hread (i := 0) rfl (byte_range s.prn)
    have h1 := hread (i := 1) (n := s.azimuth.toInt) rfl (by omega)
    have h2 := hread (i := 2) rfl (byte_range s.elevation)
    have h3 := hread (i := 3) rfl (byte_range s.firstSignal.systemId)
    have h4 := hread (i := 4) rfl (byte_range s.firstSignal.cn0)
    have h5 := hread (i := 5) rfl (byte_range s.firstSignal.frequencyId)
    have h6 := hread (i := 6) (n := s.signalCount) rfl (by omega)
    have hpos : (0 : ℤ) < s.signalCount := by
      rw [Satellite.signalCount]
      omega
    have hrest : ((s.signalCount : ℤ) - 1).toNat = s.furtherSignals.length := by
      rw [Satellite.signalCount]
      omega
    have hcursor : front.length + 7 = (front ++ asciiSatelliteHead s).length := by
      simp [asciiSatelliteHead, asciiSignal]
    rw [Nat.add_zero] at h0
    rw [satsinfoaSatellite, require_true hlen]
    simp only [value_bind, h0, h1, h2, h3, h4, h5, h6, require_true hpos, hrest, hcursor,
      satsinfoaSignal, pure_eq]
    rfl
  refine ⟨fun front back => ?_, fun front part hpart hne => ?_⟩
  · have hwhole := hfurther.whole (front ++ asciiSatelliteHead s) back
    rw [asciiSatellite, ← List.append_assoc, List.append_assoc (front ++ asciiSatelliteHead s),
      hhead, ← List.append_assoc, hwhole, value_bind]
    rfl
  · rcases prefix_append_cases hpart with ⟨hcut, hcut'⟩ | ⟨part', rfl, hpart'⟩
    · have hshort : part.length < 7 :=
        lt_of_le_of_ne hcut.length_le fun heq => hcut' (hcut.eq_of_length heq)
      rw [satsinfoaSatellite, require_false (by rw [List.length_append]; omega), refused_bind]
    · have hcut := hfurther.cut (front ++ asciiSatelliteHead s) part' hpart'
        fun h => hne (by rw [asciiSatellite, h])
      rw [← List.append_assoc, hhead, hcut, refused_bind]

/-- The fields of a report. The three fields between the version and the frequency flag are
free. -/
def asciiFields (header : LogHeader) (reserved : Bytes × Bytes × Bytes) (info : SatsInfo) :
    List Bytes :=
  header.fields (decimalInt info.satellites.length)
    ([decimalInt info.version.toNat, reserved.1, reserved.2.1, reserved.2.2,
      decimalInt info.frequencyFlag.toNat] ++ (info.satellites.map asciiSatellite).flatten)

theorem reads_asciiSatellites (info : SatsInfo) :
    Reads (readMany satsinfoaSatellite info.satellites.length)
      (info.satellites.map asciiSatellite).flatten (info.satellites.map Satellite.entry) :=
  Reads.readMany_map reads_asciiSatellite info.satellites

variable (header : LogHeader) (reserved : Bytes × Bytes × Bytes) (info : SatsInfo)

/-- The fields before the first satellite. -/
def asciiHead : List Bytes :=
  header.fields (decimalInt info.satellites.length)
    [decimalInt info.version.toNat, reserved.1, reserved.2.1, reserved.2.2,
      decimalInt info.frequencyFlag.toNat]

theorem asciiFields_eq : asciiFields header reserved info =
    asciiHead header reserved info ++ (info.satellites.map asciiSatellite).flatten :=
  (List.append_assoc _ _ _).symm

theorem length_asciiHead : (asciiHead header reserved info).length = 15 := by
  rw [asciiHead, LogHeader.fields, List.length_append, length_logHeader]
  rfl

/-- The numbers before the first satellite are read, and lead to the satellites. -/
theorem parseSatsinfoa_head (rest : List Bytes) :
    parseSatsinfoa (asciiHead header reserved info ++ rest) =
      readMany satsinfoaSatellite info.satellites.length (asciiHead header reserved info ++ rest)
        (asciiHead header reserved info).length >>=
      fun entries => value {
        sentenceType := ascii "SATSINFOA"
        satsinfo := some { info.data with entries := entries.1 } } := by
  have hsatellites := info.length_satellites
  have hlen := length_asciiHead header reserved info
  have hfields : asciiHead header reserved info ++ rest =
      header.fields (decimalInt info.satellites.length) ([decimalInt info.version.toNat,
        reserved.1, reserved.2.1, reserved.2.2, decimalInt info.frequencyFlag.toNat] ++ rest) :=
    List.append_assoc _ _ _
  have hmin : 14 < (asciiHead header reserved info ++ rest).length := by
    rw [List.length_append, hlen]
    omega
  have h9 := dataIntAt_fields_nine header ([decimalInt info.version.toNat, reserved.1,
    reserved.2.1, reserved.2.2, decimalInt info.frequencyFlag.toNat] ++ rest)
    (n := info.satellites.length) (by omega) (by omega)
  have h10 := intAt_fields header (decimalInt info.satellites.length)
    ([decimalInt info.version.toNat, reserved.1, reserved.2.1, reserved.2.2,
      decimalInt info.frequencyFlag.toNat] ++ rest) (i := 0) rfl (byte_range info.version).1
    (byte_range info.version).2
  have h14 := intAt_fields header (decimalInt info.satellites.length)
    ([decimalInt info.version.toNat, reserved.1, reserved.2.1, reserved.2.2,
      decimalInt info.frequencyFlag.toNat] ++ rest) (i := 4) rfl
    (byte_range info.frequencyFlag).1 (byte_range info.frequencyFlag).2
  rw [← hfields] at h9 h10 h14
  have hpos : (0 : ℤ) ≤ info.satellites.length := Int.natCast_nonneg _
  rw [parseSatsinfoa, require_true hmin, value_bind, h9, value_bind, h10, value_bind, h14,
    value_bind, require_true hpos, value_bind, Int.toNat_natCast, hlen]
  rfl

/-- **The text encoding is parsed** to the data of the report. -/
theorem parseSatsinfoa_asciiFields :
    parseSatsinfoa (asciiFields header reserved info) = value {
      sentenceType := ascii "SATSINFOA"
      satsinfo := some info.data } := by
  have h := (reads_asciiSatellites info).whole (asciiHead header reserved info) []
  rw [List.append_nil] at h
  rw [asciiFields_eq, parseSatsinfoa_head, h, value_bind]
  rfl

/-- **Every proper beginning** of the text encoding is refused. -/
theorem parseSatsinfoa_part {part : List Bytes} (hpart : part <+: asciiFields header reserved info)
    (hne : part ≠ asciiFields header reserved info) : parseSatsinfoa part = refused := by
  rw [asciiFields_eq] at hpart hne
  rcases prefix_append_cases hpart with ⟨hcut, hcut'⟩ | ⟨part', rfl, hpart'⟩
  · have hshort : part.length < 15 := by
      rw [← length_asciiHead header reserved info]
      exact lt_of_le_of_ne hcut.length_le fun heq => hcut' (hcut.eq_of_length heq)
    rw [parseSatsinfoa, require_false (by omega), refused_bind]
  · have h := (reads_asciiSatellites info).cut (asciiHead header reserved info) part' hpart'
      fun h => hne (by rw [h])
    rw [parseSatsinfoa_head, h, refused_bind]

end UnicoreParser

/-! ### The binary encoding -/

namespace UnicoreBinaryNavParser

/-- The bytes of a signal, the last one being the number of signals of its satellite. -/
def binarySignal (count : ℕ) (signal : SatelliteSignal) : Bytes :=
  [signal.systemId, signal.cn0, signal.frequencyId, UInt8.ofNat count]

/-- The bytes of a satellite with its first signal. -/
def binarySatelliteHead (s : Satellite) : Bytes :=
  [s.prn] ++ leI16 s.azimuth.toInt ++ [s.elevation] ++ binarySignal s.signalCount s.firstSignal

/-- The bytes of a satellite and of its further signals. -/
def binarySatellite (s : Satellite) : Bytes :=
  binarySatelliteHead s ++ s.furtherSignals.flatMap (binarySignal s.signalCount)

theorem length_binarySatelliteHead (s : Satellite) : (binarySatelliteHead s).length = 8 := rfl

theorem length_binarySatellite (s : Satellite) :
    (binarySatellite s).length = 4 + s.signalCount * 4 := by
  rw [binarySatellite, List.length_append, length_binarySatelliteHead, List.length_flatMap,
    Satellite.signalCount]
  simp [binarySignal]
  omega

/-- The signals of a satellite stand in a row behind its first four bytes. -/
theorem binarySatellite_eq (s : Satellite) :
    binarySatellite s = [s.prn] ++ leI16 s.azimuth.toInt ++ [s.elevation] ++
      s.signals.flatMap (binarySignal s.signalCount) := by
  rw [binarySatellite, binarySatelliteHead, List.append_assoc, Satellite.signals,
    List.flatMap_cons]

/-- **A signal** is read where it stands. -/
theorem satsinfobSignal_append (front back : Bytes) (count : ℕ) (signal : SatelliteSignal) :
    satsinfobSignal (front ++ binarySignal count signal ++ back) front.length =
      value signal.info := by
  have hread : ∀ {i b}, (binarySignal count signal)[i]? = some b →
      readU8 (front ++ binarySignal count signal ++ back) (front.length + i) = value b :=
    fun h => readU8_append front back h
  have h0 := hread (i := 0) rfl
  have h1 := hread (i := 1) rfl
  have h2 := hread (i := 2) rfl
  have h3 := hread (i := 3) rfl
  rw [Nat.add_zero] at h0
  rw [satsinfobSignal, h0, value_bind, h1, value_bind, h2, value_bind, h3]
  rfl

/-- The loop over the signals of a satellite. -/
theorem forRange_satsinfobSignal (front back : Bytes) (s : Satellite) :
    forRange (fun i => satsinfobSignal (front ++ binarySatellite s ++ back)
        (front.length + 4 + i * 4)) s.signalCount =
      value (s.signals.map SatelliteSignal.info) := by
  refine forRange_map s.signals fun i signal hsignal => ?_
  obtain ⟨before, after, hsplit, hbefore⟩ :=
    exists_split_flatMap (binarySignal s.signalCount) 4 (fun _ => rfl) hsignal
  have hoffset : (front ++ ([s.prn] ++ leI16 s.azimuth.toInt ++ [s.elevation]) ++
      before).length = front.length + 4 + i * 4 := by
    rw [List.length_append, List.length_append, hbefore]
    rfl
  have hpayload : front ++ binarySatellite s ++ back =
      (front ++ ([s.prn] ++ leI16 s.azimuth.toInt ++ [s.elevation]) ++ before) ++
        binarySignal s.signalCount signal ++ (after ++ back) := by
    rw [binarySatellite_eq, hsplit]
    simp only [List.append_assoc]
  rw [hpayload, ← hoffset, satsinfobSignal_append]

/-- The head of a satellite is there, and leads to the test of the whole record. -/
theorem satsinfobSatellite_head (front rest : Bytes) (s : Satellite) :
    satsinfobSatellite (front ++ binarySatelliteHead s ++ rest) front.length =
      require (HasRange (front ++ binarySatelliteHead s ++ rest) front.length
        (4 + s.signalCount * 4)) >>= fun _ =>
      forRange (fun i => satsinfobSignal (front ++ binarySatelliteHead s ++ rest)
        (front.length + 4 + i * 4)) s.signalCount >>= fun signals =>
      value ({ s.entry with signals := signals }, front.length + (4 + s.signalCount * 4)) := by
  have hlen := length_binarySatelliteHead s
  have hcount : s.signalCount < 256 := Nat.succ_lt_succ s.length_furtherSignals
  have hpos : 0 < s.signalCount := Nat.succ_pos _
  have hrange : HasRange (front ++ binarySatelliteHead s ++ rest) front.length 8 := by
    simp only [HasRange, List.length_append, hlen]
    omega
  have hread : ∀ {i b}, (binarySatelliteHead s)[i]? = some b →
      readU8 (front ++ binarySatelliteHead s ++ rest) (front.length + i) = value b :=
    fun h => readU8_append front rest h
  have h0 := hread (i := 0) rfl
  have h3 := hread (i := 3) rfl
  have h4 := hread (i := 4) rfl
  have h5 := hread (i := 5) rfl
  have h6 := hread (i := 6) rfl
  have h7 := hread (i := 7) rfl
  have h1 : readI16 (front ++ binarySatelliteHead s ++ rest) (front.length + 1) =
      value s.azimuth.toInt := by
    have h := readI16_leI16 (front ++ [s.prn]) ([s.elevation] ++
      binarySignal s.signalCount s.firstSignal ++ rest) s.azimuth_range.1 s.azimuth_range.2
    rw [List.length_append, List.length_singleton] at h
    rw [← h, binarySatelliteHead]
    simp only [List.append_assoc]
  have hword : (UInt8.ofNat s.signalCount).toNat = s.signalCount := by
    rw [UInt8.toNat_ofNat', Nat.mod_eq_of_lt hcount]
  have hne : UInt8.ofNat s.signalCount ≠ 0 := by
    intro h
    rw [← UInt8.toNat_inj, hword] at h
    exact hpos.ne' h
  rw [Nat.add_zero] at h0
  rw [satsinfobSatellite, require_true hrange]
  simp only [value_bind, h0, h1, h3, h4, h5, h6, h7, require_true hne, hword, pure_eq]
  rfl

/-- **A satellite** is read as such. -/
theorem reads_binarySatellite (s : Satellite) :
    Reads satsinfobSatellite (binarySatellite s) s.entry := by
  have hlen := length_binarySatellite s
  refine ⟨fun front back => ?_, fun front part hpart hne => ?_⟩
  · have hrange : HasRange (front ++ binarySatellite s ++ back) front.length
        (4 + s.signalCount * 4) := by
      simp only [HasRange, List.length_append, hlen]
      omega
    have hhead := satsinfobSatellite_head front
      (s.furtherSignals.flatMap (binarySignal s.signalCount) ++ back) s
    have hpayload : front ++ binarySatelliteHead s ++
        (s.furtherSignals.flatMap (binarySignal s.signalCount) ++ back) =
          front ++ binarySatellite s ++ back := by
      rw [binarySatellite]
      simp only [List.append_assoc]
    rw [hpayload] at hhead
    rw [hhead, require_true hrange, value_bind, forRange_satsinfobSignal, value_bind,
      List.length_append, hlen]
    rfl
  · have hshort : part.length < 4 + s.signalCount * 4 := by
      rw [← hlen]
      exact lt_of_le_of_ne hpart.length_le fun heq => hne (hpart.eq_of_length heq)
    rcases prefix_append_cases hpart with ⟨hcut, hcut'⟩ | ⟨part', rfl, -⟩
    · have height : part.length < 8 :=
        lt_of_le_of_ne hcut.length_le fun heq => hcut' (hcut.eq_of_length heq)
      have hrange : ¬ HasRange (front ++ part) front.length 8 := by
        simp only [HasRange, List.length_append]
        omega
      rw [satsinfobSatellite, require_false hrange, refused_bind]
    · have hrange : ¬ HasRange (front ++ binarySatelliteHead s ++ part') front.length
          (4 + s.signalCount * 4) := by
        rw [List.append_assoc]
        simp only [HasRange, List.length_append] at hshort ⊢
        omega
      rw [← List.append_assoc, satsinfobSatellite_head, require_false hrange, refused_bind]

theorem reads_binarySatellites (info : SatsInfo) :
    Reads (readMany satsinfobSatellite info.satellites.length)
      (info.satellites.map binarySatellite).flatten (info.satellites.map Satellite.entry) :=
  Reads.readMany_map reads_binarySatellite info.satellites

/-- The bytes before the first satellite. Three of them are free. -/
def binaryHead (reserved : UInt8 × UInt8 × UInt8) (info : SatsInfo) : Bytes :=
  [UInt8.ofNat info.satellites.length, info.version, reserved.1, reserved.2.1, reserved.2.2,
    info.frequencyFlag]

/-- The payload of a report. -/
def satsinfoPayload (reserved : UInt8 × UInt8 × UInt8) (info : SatsInfo) : Bytes :=
  binaryHead reserved info ++ (info.satellites.map binarySatellite).flatten

variable (reserved : UInt8 × UInt8 × UInt8) (info : SatsInfo)

/-- The numbers before the first satellite are read, and lead to the satellites. -/
theorem parseSatsinfob_head (rest : Bytes) :
    parseSatsinfob (binaryHead reserved info ++ rest) =
      readMany satsinfobSatellite info.satellites.length (binaryHead reserved info ++ rest)
        (binaryHead reserved info).length >>=
      fun entries => value {
        sentenceType := ascii "SATSINFOB"
        satsinfo := some { info.data with entries := entries.1 } } := by
  have hsatellites := info.length_satellites
  have hmin : 6 ≤ (binaryHead reserved info ++ rest).length := by
    simp [binaryHead]
  have hread : ∀ {i b}, (binaryHead reserved info)[i]? = some b →
      readU8 (binaryHead reserved info ++ rest) i = value b := by
    intro i b h
    have h := readU8_append [] rest h
    rwa [List.nil_append, List.length_nil, Nat.zero_add] at h
  have h0 := hread (i := 0) rfl
  have h1 := hread (i := 1) rfl
  have h5 := hread (i := 5) rfl
  have hcount : (UInt8.ofNat info.satellites.length).toNat = info.satellites.length := by
    rw [UInt8.toNat_ofNat', Nat.mod_eq_of_lt hsatellites]
  rw [parseSatsinfob, require_true hmin, value_bind, h0, value_bind, h1, value_bind, h5,
    value_bind, hcount]
  rfl

/-- **The binary encoding is parsed** to the data of the report. -/
theorem parseSatsinfob_satsinfoPayload :
    parseSatsinfob (satsinfoPayload reserved info) = value {
      sentenceType := ascii "SATSINFOB"
      satsinfo := some info.data } := by
  have h := (reads_binarySatellites info).whole (binaryHead reserved info) []
  rw [List.append_nil] at h
  rw [satsinfoPayload, parseSatsinfob_head, h, value_bind]
  rfl

/-- **Every proper beginning** of the binary encoding is refused. -/
theorem parseSatsinfob_part {part : Bytes} (hpart : part <+: satsinfoPayload reserved info)
    (hne : part ≠ satsinfoPayload reserved info) : parseSatsinfob part = refused := by
  rcases prefix_append_cases hpart with ⟨hcut, hcut'⟩ | ⟨part', rfl, hpart'⟩
  · have hshort : part.length < 6 :=
      lt_of_le_of_ne hcut.length_le fun heq => hcut' (hcut.eq_of_length heq)
    rw [parseSatsinfob, require_false (by omega), refused_bind]
  · have h := (reads_binarySatellites info).cut (binaryHead reserved info) part' hpart'
      fun h => hne (by rw [satsinfoPayload, h])
    rw [parseSatsinfob_head, h, refused_bind]

end UnicoreBinaryNavParser

/-- **Both encodings of a report** are parsed to its data, and every proper beginning of either is
refused. -/
theorem satsinfo_encodings (header : LogHeader) (asciiReserved : Bytes × Bytes × Bytes)
    (binaryReserved : UInt8 × UInt8 × UInt8) (info : SatsInfo) :
    UnicoreParser.parseSatsinfoa (UnicoreParser.asciiFields header asciiReserved info) = value {
      sentenceType := ascii "SATSINFOA"
      satsinfo := some info.data } ∧
    UnicoreBinaryNavParser.parseSatsinfob
        (UnicoreBinaryNavParser.satsinfoPayload binaryReserved info) = value {
      sentenceType := ascii "SATSINFOB"
      satsinfo := some info.data } ∧
    (∀ part, part <+: UnicoreParser.asciiFields header asciiReserved info →
      part ≠ UnicoreParser.asciiFields header asciiReserved info →
        UnicoreParser.parseSatsinfoa part = refused) ∧
    (∀ part, part <+: UnicoreBinaryNavParser.satsinfoPayload binaryReserved info →
      part ≠ UnicoreBinaryNavParser.satsinfoPayload binaryReserved info →
        UnicoreBinaryNavParser.parseSatsinfob part = refused) :=
  ⟨UnicoreParser.parseSatsinfoa_asciiFields header asciiReserved info,
    UnicoreBinaryNavParser.parseSatsinfob_satsinfoPayload binaryReserved info,
    fun _ => UnicoreParser.parseSatsinfoa_part header asciiReserved info,
    fun _ => UnicoreBinaryNavParser.parseSatsinfob_part binaryReserved info⟩

end UnicoreGnss
