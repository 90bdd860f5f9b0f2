import UnicoreGnss.Parser.Layout

/-!
# Satellites in use

BESTSAT lists the satellites of a position: in a text log as four fields each, in a binary frame as
four words each. Both parsers test the size of the list before they read it. `BestSat` is what a
list says; `bestsataFields` and `bestsatbPayload` are its two encodings.

A text log names the constellation and writes the satellite with the frequency channel of GLONASS
behind its number; a payload has a number for the constellation and keeps the channel in the upper
half of the word of the satellite.

## Main results

* `bestsatSatelliteId_rawId` — the word of a satellite is turned into the text of the text log
* `bestsat_encodings` — both encodings are parsed to the same data, and refused when cut short
-/

namespace UnicoreGnss

open CNumber Checked Cursor

/-! ### Lists -/

/-- The constellations that both formats of a BESTSAT name. -/
inductive Constellation where
  | gps
  | glonass
  | sbas
  | galileo
  | beidou
  | qzss
  | irnss
  deriving DecidableEq, Repr

namespace Constellation

/-- The name in a BESTSATA log. -/
def logName : Constellation → Bytes
  | gps => ascii "GPS"
  | glonass => ascii "GLONASS"
  | sbas => ascii "SBAS"
  | galileo => ascii "GALILEO"
  | beidou => ascii "BEIDOU"
  | qzss => ascii "QZSS"
  | irnss => ascii "IRNSS"

/-- The system id in a BESTSATB payload. -/
def systemId : Constellation → UInt32
  | gps => 0
  | glonass => 1
  | sbas => 2
  | galileo => 5
  | beidou => 6
  | qzss => 7
  | irnss => 9

/-- The name the parsers hand out. -/
def shortName : Constellation → Bytes
  | gps => ascii "GPS"
  | glonass => ascii "GLO"
  | sbas => ascii "SBAS"
  | galileo => ascii "GAL"
  | beidou => ascii "BDS"
  | qzss => ascii "QZSS"
  | irnss => ascii "IRNSS"

theorem normalizeConstellationName_logName (c : Constellation) :
    normalizeConstellationName c.logName = c.shortName := by
  cases c <;> decide

theorem bestsatConstellationNameFromSystemId_systemId (c : Constellation) :
    UnicoreBinaryNavParser.bestsatConstellationNameFromSystemId c.systemId = c.shortName := by
  cases c <;> decide

end Constellation

/-- A satellite in use. Only GLONASS satellites have a frequency channel. -/
structure UsedSatellite where
  constellation : Constellation
  identifier : UInt16
  channel : Int16
  signalMask : UInt32
  channel_eq_zero : constellation ≠ .glonass → channel = 0

/-- A list of fewer than `2 ^ 31` satellites in use. -/
structure BestSat where
  satellites : List UsedSatellite
  length_satellites : satellites.length < 2 ^ 31

namespace UsedSatellite

variable (s : UsedSatellite)

/-- The number of a satellite, with the sign and the channel behind it if there is one. -/
def idText : Bytes :=
  if s.channel = 0 then decimal s.identifier.toNat
  else decimal s.identifier.toNat ++
    (if 0 < s.channel.toInt then 43 else 45) :: decimal s.channel.toInt.natAbs

/-- What the parsers are to say about a satellite. -/
def entry : BestSatEntry where
  constellation := s.constellation.shortName
  satelliteId := s.idText
  status := ascii "GOOD"
  signalMask := toInt s.signalMask.toNat
  commonView := s.signalMask &&& 0x10 ≠ 0
  usedSignalBands := bestsatSignalBands s.constellation.shortName s.signalMask

/-- The four fields of a satellite. -/
def asciiFields (format : HexFormat) : List Bytes :=
  [s.constellation.logName, s.idText, ascii "GOOD", hexText format s.signalMask.toNat]

/-- The word of a satellite, with the channel in the upper half. -/
def rawId : UInt32 := UInt32.ofNat (s.identifier.toNat + s.channel.toUInt16.toNat * 2 ^ 16)

/-- The four words of a satellite. -/
def payload : Bytes :=
  [le32 s.constellation.systemId, le32 s.rawId, le32 0, le32 s.signalMask].flatten

theorem length_payload : s.payload.length = 16 := rfl

/-! ### The word of a satellite -/

theorem toNat_rawId : s.rawId.toNat = s.identifier.toNat + s.channel.toUInt16.toNat * 2 ^ 16 := by
  have hid := s.identifier.toNat_lt
  have hchannel := s.channel.toUInt16.toNat_lt
  rw [rawId, UInt32.toNat_ofNat', Nat.mod_eq_of_lt (by omega)]

theorem toNat_identifier : (s.rawId &&& 0xFFFF).toNat = s.identifier.toNat := by
  have hid := s.identifier.toNat_lt
  rw [UInt32.toNat_and, toNat_rawId]
  change _ &&& (2 ^ 16 - 1) = _
  rw [Nat.and_two_pow_sub_one_eq_mod]
  omega

theorem toInt_channel :
    (((s.rawId >>> 16) &&& 0xFFFF).toNat : ℤ).bmod (2 ^ 16) = s.channel.toInt := by
  have hid := s.identifier.toNat_lt
  have hchannel := s.channel.toUInt16.toNat_lt
  have hupper : ((s.rawId >>> 16) &&& 0xFFFF).toNat = s.channel.toUInt16.toNat := by
    rw [UInt32.toNat_and, UInt32.toNat_shiftRight, toNat_rawId]
    change (_ >>> 16) &&& (2 ^ 16 - 1) = _
    rw [Nat.and_two_pow_sub_one_eq_mod, Nat.shiftRight_eq_div_pow]
    omega
  rw [hupper]
  exact (BitVec.toInt_eq_toNat_bmod s.channel.toBitVec).symm

/-- **The word of a satellite** is turned into the text of the text log. -/
theorem bestsatSatelliteId_rawId :
    UnicoreBinaryNavParser.bestsatSatelliteId s.constellation.systemId s.rawId = s.idText := by
  have hzero : s.channel = 0 ↔ s.channel.toInt = 0 := Int16.toInt_inj.symm
  rw [UnicoreBinaryNavParser.bestsatSatelliteId, idText, toNat_identifier, toInt_channel]
  by_cases h : s.channel = 0
  · rw [if_neg (fun h' => h'.2 (hzero.mp h)), if_pos h]
  · have hglonass : s.constellation = .glonass := by
      by_contra hne
      exact h (s.channel_eq_zero hne)
    have hsystem : s.constellation.systemId = 1 := by
      rw [hglonass]
      rfl
    have hne : s.channel.toInt ≠ 0 := fun h' => h (hzero.mpr h')
    rw [if_pos ⟨hsystem, hne⟩, if_neg h, List.append_assoc, decimalInt]
    by_cases hpos : 0 < s.channel.toInt
    · rw [if_pos hpos, if_pos hpos, if_neg (by omega)]
      rfl
    · rw [if_neg hpos, if_neg hpos, if_pos (by omega)]
      rfl

end UsedSatellite

/-- What the parsers are to say about a list. -/
def BestSat.data (list : BestSat) : BestSatData where
  entryCount := list.satellites.length
  entries := list.satellites.map UsedSatellite.entry

/-! ### The text encoding -/

namespace UnicoreParser

variable (header : LogHeader) (format : HexFormat) (list : BestSat)

/-- The fields of a list. -/
def bestsataFields : List Bytes :=
  header.fields (decimalInt list.satellites.length)
    (list.satellites.flatMap fun s => s.asciiFields format)

/-- The fields before the first satellite. -/
def bestsataHead : List Bytes := header.fields (decimalInt list.satellites.length) []

theorem bestsataFields_eq : bestsataFields header format list =
    bestsataHead header list ++ list.satellites.flatMap fun s => s.asciiFields format := by
  simp only [bestsataFields, bestsataHead, LogHeader.fields, List.append_nil]

theorem length_bestsataHead : (bestsataHead header list).length = 10 := by
  rw [bestsataHead, LogHeader.fields, List.append_nil, length_logHeader]

/-- **A satellite** is read where it stands. -/
theorem bestsataEntry_append (front back : List Bytes) (s : UsedSatellite) :
    bestsataEntry (front ++ s.asciiFields format ++ back) front.length = value s.entry := by
  have hget : ∀ {i text}, (s.asciiFields format)[i]? = some text →
      get (front ++ s.asciiFields format ++ back) (front.length + i) = value text :=
    fun h => get_append front back h
  have h0 := hget (i := 0) rfl
  have h1 := hget (i := 1) rfl
  have h2 := hget (i := 2) rfl
  have h3 : hexAt (front ++ s.asciiFields format ++ back) (front.length + 3) =
      value s.signalMask := hexAt_append front back rfl
  rw [Nat.add_zero] at h0
  rw [bestsataEntry, h3, value_bind, h0, value_bind, h1, value_bind, h2, value_bind,
    s.constellation.normalizeConstellationName_logName]
  rfl

/-- What comes behind the first fields only has to be long enough, until it is read. -/
theorem parseBestsata_head (rest : List Bytes) :
    parseBestsata (bestsataHead header list ++ rest) =
      require (10 + list.satellites.length * 4 ≤ (bestsataHead header list ++ rest).length) >>=
      fun _ => forRange (fun i => bestsataEntry (bestsataHead header list ++ rest) (10 + i * 4))
        list.satellites.length >>=
      fun entries => value {
        sentenceType := ascii "BESTSATA"
        bestsat := some { list.data with entries } } := by
  have hsatellites := list.length_satellites
  have hmin : 9 < (bestsataHead header list ++ rest).length := by
    rw [List.length_append, length_bestsataHead]
    omega
  have hfields : bestsataHead header list ++ rest =
      header.fields (decimalInt list.satellites.length) rest := by
    simp only [bestsataHead, LogHeader.fields, List.append_nil]
  have h9 := dataIntAt_fields_nine header rest (n := list.satellites.length) (by omega) (by omega)
  rw [← hfields] at h9
  have hpos : (0 : ℤ) ≤ list.satellites.length := Int.natCast_nonneg _
  rw [parseBestsata, require_true hmin, value_bind, h9, value_bind, require_true hpos, value_bind,
    Int.toNat_natCast]
  rfl

/-- The loop over the satellites. -/
theorem forRange_bestsataEntry :
    forRange (fun i => bestsataEntry (bestsataFields header format list) (10 + i * 4))
        list.satellites.length = value (list.satellites.map UsedSatellite.entry) := by
  refine forRange_map list.satellites fun i s hs => ?_
  obtain ⟨before, after, hsplit, hbefore⟩ :=
    exists_split_flatMap (fun s : UsedSatellite => s.asciiFields format) 4 (fun _ => rfl) hs
  have hfields : bestsataFields header format list =
      (bestsataHead header list ++ before) ++ s.asciiFields format ++ after := by
    rw [bestsataFields_eq, hsplit]
    simp only [List.append_assoc]
  have hoffset : (bestsataHead header list ++ before).length = 10 + i * 4 := by
    rw [List.length_append, length_bestsataHead, hbefore]
  rw [hfields, ← hoffset, bestsataEntry_append]

theorem length_asciiFields_satellites :
    (list.satellites.flatMap fun s => s.asciiFields format).length =
      list.satellites.length * 4 := by
  simp [List.length_flatMap, UsedSatellite.asciiFields]

/-- **The text encoding is parsed** to the data of the list. -/
theorem parseBestsata_bestsataFields :
    parseBestsata (bestsataFields header format list) = value {
      sentenceType := ascii "BESTSATA"
      bestsat := some list.data } := by
  have hlen : 10 + list.satellites.length * 4 ≤ (bestsataFields header format list).length := by
    rw [bestsataFields_eq, List.length_append, length_bestsataHead, length_asciiFields_satellites]
  have hloop := forRange_bestsataEntry header format list
  rw [bestsataFields_eq] at hlen hloop ⊢
  rw [parseBestsata_head, require_true hlen, value_bind, hloop, value_bind]
  rfl

/-- **Every proper beginning** of the text encoding is refused. -/
theorem parseBestsata_part {part : List Bytes}
    (hpart : part <+: bestsataFields header format list)
    (hne : part ≠ bestsataFields header format list) : parseBestsata part = refused := by
  have hlen := length_bestsataHead header list
  rw [bestsataFields_eq] at hpart hne
  rcases prefix_append_cases hpart with ⟨hcut, hcut'⟩ | ⟨part', rfl, hpart'⟩
  · have hshort : part.length < 10 := by
      rw [← hlen]
      exact lt_of_le_of_ne hcut.length_le fun heq => hcut' (hcut.eq_of_length heq)
    rw [parseBestsata, require_false (by omega), refused_bind]
  · have hshort : part'.length < list.satellites.length * 4 := by
      rw [← length_asciiFields_satellites format]
      exact lt_of_le_of_ne hpart'.length_le
        fun heq => hne (by rw [hpart'.eq_of_length heq])
    rw [parseBestsata_head, require_false (by rw [List.length_append]; omega), refused_bind]

end UnicoreParser

/-! ### The binary encoding -/

namespace UnicoreBinaryNavParser

variable (list : BestSat)

/-- The word before the first satellite. -/
def bestsatbHead : Bytes := le32 (UInt32.ofNat list.satellites.length)

/-- The payload of a list. -/
def bestsatbPayload : Bytes := bestsatbHead list ++ list.satellites.flatMap UsedSatellite.payload

theorem length_bestsatbHead : (bestsatbHead list).length = 4 := rfl

theorem length_payload_satellites :
    (list.satellites.flatMap UsedSatellite.payload).length = list.satellites.length * 16 := by
  simp [List.length_flatMap, UsedSatellite.length_payload]

/-- **A satellite** is read where it stands. -/
theorem bestsatbEntry_append (front back : Bytes) (s : UsedSatellite) :
    bestsatbEntry (front ++ s.payload ++ back) front.length = value s.entry := by
  have hpieces : front ++ s.payload ++ back = [front, le32 s.constellation.systemId, le32 s.rawId,
      le32 0, le32 s.signalMask, back].flatten := by
    simp [UsedSatellite.payload]
  have hsizes : [front, le32 s.constellation.systemId, le32 s.rawId, le32 0, le32 s.signalMask,
      back].map List.length = [front.length, 4, 4, 4, 4, back.length] := rfl
  have h0 := readU32_flatten hsizes 1 front.length rfl (by simp)
  have h4 := readU32_flatten hsizes 2 (front.length + 4) rfl (by simp)
  have h8 := readU32_flatten hsizes 3 (front.length + 8) rfl (by simp)
  have h12 := readU32_flatten hsizes 4 (front.length + 12) rfl (by simp)
  rw [hpieces, bestsatbEntry, h0, value_bind, h4, value_bind, h8, value_bind, h12, value_bind,
    s.bestsatSatelliteId_rawId, s.constellation.bestsatConstellationNameFromSystemId_systemId]
  rfl

/-- What comes behind the count only has to be long enough, until it is read. -/
theorem parseBestsatb_head (rest : Bytes) :
    parseBestsatb (bestsatbHead list ++ rest) =
      require (4 + list.satellites.length * 16 ≤ (bestsatbHead list ++ rest).length) >>=
      fun _ => forRange (fun i => bestsatbEntry (bestsatbHead list ++ rest) (4 + i * 16))
        list.satellites.length >>=
      fun entries => value {
        sentenceType := ascii "BESTSATB"
        bestsat := some { list.data with entries } } := by
  have hsatellites := list.length_satellites
  have hread := readU32_le32 [] rest (UInt32.ofNat list.satellites.length)
  rw [List.nil_append, List.length_nil] at hread
  have hcount : (UInt32.ofNat list.satellites.length).toNat = list.satellites.length := by
    rw [UInt32.toNat_ofNat', Nat.mod_eq_of_lt (by omega)]
  have hint : toInt list.satellites.length = list.satellites.length :=
    toInt_of_lt (by omega) (by omega)
  rw [parseBestsatb, bestsatbHead, hread, value_bind, hcount, hint]
  rfl

/-- The loop over the satellites. -/
theorem forRange_bestsatbEntry :
    forRange (fun i => bestsatbEntry (bestsatbPayload list) (4 + i * 16))
        list.satellites.length = value (list.satellites.map UsedSatellite.entry) := by
  refine forRange_map list.satellites fun i s hs => ?_
  obtain ⟨before, after, hsplit, hbefore⟩ :=
    exists_split_flatMap UsedSatellite.payload 16 UsedSatellite.length_payload hs
  have hpayload : bestsatbPayload list =
      (bestsatbHead list ++ before) ++ s.payload ++ after := by
    rw [bestsatbPayload, hsplit]
    simp only [List.append_assoc]
  have hoffset : (bestsatbHead list ++ before).length = 4 + i * 16 := by
    rw [List.length_append, length_bestsatbHead, hbefore]
  rw [hpayload, ← hoffset, bestsatbEntry_append]

/-- **The binary encoding is parsed** to the data of the list. -/
theorem parseBestsatb_bestsatbPayload :
    parseBestsatb (bestsatbPayload list) = value {
      sentenceType := ascii "BESTSATB"
      bestsat := some list.data } := by
  have hlen : 4 + list.satellites.length * 16 ≤ (bestsatbPayload list).length := by
    rw [bestsatbPayload, List.length_append, length_bestsatbHead, length_payload_satellites]
  have hloop := forRange_bestsatbEntry list
  rw [bestsatbPayload] at hlen hloop ⊢
  rw [parseBestsatb_head, require_true hlen, value_bind, hloop, value_bind]
  rfl

/-- **Every proper beginning** of the binary encoding is refused. -/
theorem parseBestsatb_part {part : Bytes} (hpart : part <+: bestsatbPayload list)
    (hne : part ≠ bestsatbPayload list) : parseBestsatb part = refused := by
  have hlen := length_bestsatbHead list
  rw [bestsatbPayload] at hpart hne
  rcases prefix_append_cases hpart with ⟨hcut, hcut'⟩ | ⟨part', rfl, hpart'⟩
  · have hshort : part.length < 4 := by
      rw [← hlen]
      exact lt_of_le_of_ne hcut.length_le fun heq => hcut' (hcut.eq_of_length heq)
    have hrange : ¬ HasRange part 0 4 := by
      simp only [HasRange]
      omega
    rw [parseBestsatb, readU32, fieldBytes, require_false hrange, refused_bind, refused_bind,
      refused_bind]
  · have hshort : part'.length < list.satellites.length * 16 := by
      rw [← length_payload_satellites]
      exact lt_of_le_of_ne hpart'.length_le
        fun heq => hne (by rw [hpart'.eq_of_length heq])
    rw [parseBestsatb_head, require_false (by rw [List.length_append]; omega), refused_bind]

end UnicoreBinaryNavParser

/-- **Both encodings of a list** are parsed to its data, and every proper beginning of either is
refused. -/
theorem bestsat_encodings (header : LogHeader) (format : HexFormat) (list : BestSat) :
    UnicoreParser.parseBestsata (UnicoreParser.bestsataFields header format list) = value {
      sentenceType := ascii "BESTSATA"
      bestsat := some list.data } ∧
    UnicoreBinaryNavParser.parseBestsatb (UnicoreBinaryNavParser.bestsatbPayload list) = value {
      sentenceType := ascii "BESTSATB"
      bestsat := some list.data } ∧
    (∀ part, part <+: UnicoreParser.bestsataFields header format list →
      part ≠ UnicoreParser.bestsataFields header format list →
        UnicoreParser.parseBestsata part = refused) ∧
    (∀ part, part <+: UnicoreBinaryNavParser.bestsatbPayload list →
      part ≠ UnicoreBinaryNavParser.bestsatbPayload list →
        UnicoreBinaryNavParser.parseBestsatb part = refused) :=
  ⟨UnicoreParser.parseBestsata_bestsataFields header format list,
    UnicoreBinaryNavParser.parseBestsatb_bestsatbPayload list,
    fun _ => UnicoreParser.parseBestsata_part header format list,
    fun _ => UnicoreBinaryNavParser.parseBestsatb_part list⟩

end UnicoreGnss
