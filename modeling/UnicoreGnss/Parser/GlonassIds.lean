import UnicoreGnss.Parser.Bestsat
import UnicoreGnss.Parser.Obsvmcmp

/-!
# Identities of GLONASS satellites

GLONASS satellites are told apart by their number and their frequency channel, from -6 to 56 in a
raw observation, and both parsers write the channel behind the number, with its sign. The parser of
raw observations uses the channel -1 for "no channel", which is one of the channels, and puts a
plain `0` behind the number for channel 0, where the parser of satellites in use leaves it out. So
satellite 50 on channel -1 and satellite 5 on channel 0 are both called `50`.

## Main results

* `obsvmcmpSatelliteId_eq_iff` — when two satellites have the same name
* `glonass_ids_iff` — the payloads whose names are unambiguous, and the channels on which both
  parsers use the same name
-/

namespace UnicoreGnss

open CNumber Checked

namespace UnicoreBinaryNavParser

/-! ### Names -/

/-- What stands behind the number of a satellite on a channel that is written. -/
def channelText (channel : ℤ) : Bytes :=
  (if channel > 0 then ascii "+" else []) ++ decimalInt channel

theorem obsvmcmpSatelliteId_glo (prn : ℕ) (channel : ℤ) :
    obsvmcmpSatelliteId (ascii "GLO") prn channel =
      decimal prn ++ if channel = -1 then [] else channelText channel := by
  rw [obsvmcmpSatelliteId]
  by_cases h : channel = -1
  · rw [if_neg (fun h' => h'.2 h), if_pos h, List.append_nil]
  · rw [if_pos ⟨rfl, h⟩, if_neg h, channelText, List.append_assoc]

/-- A channel other than 0 begins with its sign. -/
theorem channelText_eq {channel : ℤ} (h : channel ≠ 0) :
    channelText channel = (if channel > 0 then 43 else 45) :: decimal channel.natAbs := by
  rw [channelText, decimalInt]
  by_cases hpos : channel > 0
  · rw [if_pos hpos, if_pos hpos, if_neg (by omega)]
    rfl
  · rw [if_neg hpos, if_neg hpos, if_pos (by omega)]
    rfl

/-- Signed channels can be told apart, and from no channel at all. -/
theorem eq_of_channelText {k l : ℤ} (hk : k ≠ 0) (hl : l ≠ 0)
    (h : (if k = -1 then [] else channelText k) = if l = -1 then [] else channelText l) :
    k = l := by
  rw [channelText_eq hk, channelText_eq hl] at h
  by_cases hk' : k = -1
  · by_cases hl' : l = -1
    · rw [hk', hl']
    · rw [if_pos hk', if_neg hl'] at h
      cases h
  · by_cases hl' : l = -1
    · rw [if_neg hk', if_pos hl'] at h
      cases h
    · rw [if_neg hk', if_neg hl', List.cons.injEq] at h
      obtain ⟨hsign, hnumber⟩ := h
      have happend : decimal k.natAbs ++ [] = decimal l.natAbs ++ [] := by rw [hnumber]
      obtain ⟨habs, -⟩ := eq_of_decimal_append (by simp) (by simp) happend
      by_cases hpos : k > 0
      · by_cases hpos' : l > 0
        · omega
        · rw [if_pos hpos, if_neg hpos'] at hsign
          exact absurd hsign (by decide)
      · by_cases hpos' : l > 0
        · rw [if_neg hpos, if_pos hpos'] at hsign
          exact absurd hsign (by decide)
        · omega

/-- What stands behind the number does not begin with a digit, but for channel 0. -/
theorem digit_head_channelText {k : ℤ} (hk : k ≠ 0) :
    ∀ c ∈ (if k = -1 then [] else channelText k).head?, digit 10 c = none := by
  intro c hc
  rw [channelText_eq hk] at hc
  split at hc
  · cases hc
  · rw [List.head?_cons, Option.mem_def, Option.some.injEq] at hc
    subst hc
    split <;> rfl

/-- The name of a satellite on channel 0 is also a number. -/
theorem eq_of_channel_zero {p q : ℕ} {l : ℤ} (hl : l ≠ 0)
    (h : decimal p ++ [48] = decimal q ++ if l = -1 then [] else channelText l) :
    0 < p ∧ q = 10 * p ∧ l = -1 := by
  have hnone : (if l = -1 then [] else channelText l) = [] := by
    cases hsuffix : if l = -1 then [] else channelText l with
    | nil => rfl
    | cons c rest =>
      have hdigit : digit 10 c = none :=
        digit_head_channelText hl c (by rw [hsuffix]; rfl)
      have hmem : c ∈ decimal p ++ [48] := by
        rw [h, hsuffix]
        simp
      rcases List.mem_append.mp hmem with hmem | hmem
      · obtain ⟨d, -, hd⟩ := isDigit_of_mem_digitsText (by decide) (by decide) hmem
        rw [hd] at hdigit
        cases hdigit
      · rw [List.mem_singleton.mp hmem] at hdigit
        exact absurd hdigit (by decide)
  rw [hnone, List.append_nil] at h
  obtain ⟨hp, hq⟩ := eq_mul_ten_of_decimal h.symm
  refine ⟨hp, hq, ?_⟩
  by_contra hne
  rw [if_neg hne, channelText_eq hl] at hnone
  cases hnone

/-- **Two satellites have the same name** if they are the same, or if one of them is on channel 0,
the other on channel -1, and the number of the latter is ten times the number of the former. -/
theorem obsvmcmpSatelliteId_eq_iff {p q : ℕ} {k l : ℤ} :
    obsvmcmpSatelliteId (ascii "GLO") p k = obsvmcmpSatelliteId (ascii "GLO") q l ↔
      p = q ∧ k = l ∨
      (0 < q ∧ p = 10 * q ∧ k = -1 ∧ l = 0) ∨ (0 < p ∧ q = 10 * p ∧ k = 0 ∧ l = -1) := by
  rw [obsvmcmpSatelliteId_glo, obsvmcmpSatelliteId_glo]
  constructor
  · intro h
    by_cases hk : k = 0
    · subst hk
      by_cases hl : l = 0
      · subst hl
        have happend : decimal p ++ [] = decimal q ++ [] := by
          rw [List.append_nil, List.append_nil, List.append_cancel_right h]
        exact .inl ⟨(eq_of_decimal_append (by simp) (by simp) happend).1, rfl⟩
      · obtain ⟨hp, hq, hl'⟩ := eq_of_channel_zero hl h
        exact .inr (.inr ⟨hp, hq, rfl, hl'⟩)
    · by_cases hl : l = 0
      · subst hl
        obtain ⟨hq, hp, hk'⟩ := eq_of_channel_zero hk h.symm
        exact .inr (.inl ⟨hq, hp, hk', rfl⟩)
      · obtain ⟨hpq, hchannel⟩ :=
          eq_of_decimal_append (digit_head_channelText hk) (digit_head_channelText hl) h
        exact .inl ⟨hpq, eq_of_channelText hk hl hchannel⟩
  · rintro (⟨rfl, rfl⟩ | ⟨hq, rfl, rfl, rfl⟩ | ⟨hp, rfl, rfl, rfl⟩)
    · rfl
    · rw [decimal_mul_ten hq]
      exact List.append_nil _
    · rw [decimal_mul_ten hp]
      exact (List.append_nil _).symm

/-! ### Entries of a payload -/

/-- The channel of an encoded frequency number. -/
def channelOf (number : ℕ) : ℤ := if number > 0 then number - 7 else -1

/-- Entry `i` is one of GLONASS, and these are its number and its encoded frequency number, which is
not zero. -/
structure GlonassEntry (payload : Bytes) (observations : RawObservationData) (i : ℕ)
    (e : RawObservationEntry) (prn number : ℕ) : Prop where
  entry : observations.entries[i]? = some e
  constellation : e.constellation = ascii "GLO"
  prn_eq : readBitsLe payload (4 + i * 24) 136 8 = value prn
  number_eq : readBitsLe payload (4 + i * 24) 170 6 = value number
  number_ne : number ≠ 0

/-- Record `i` of the payload is one of GLONASS with this number and encoded frequency number. -/
structure GlonassRecord (payload : Bytes) (i prn number : ℕ) : Prop where
  index : ∃ count, readU32 payload 0 = value count ∧ i < count.toNat
  system : ∃ status, readBitsLe payload (4 + i * 24) 0 32 = value status ∧
    obsvmcmpSystemId (UInt32.ofNat status) = 1
  prn_eq : readBitsLe payload (4 + i * 24) 136 8 = value prn
  number_eq : readBitsLe payload (4 + i * 24) 170 6 = value number

/-- What the loop takes from a record for the name of the satellite. -/
theorem obsvmcmpbEntry_id (payload : Bytes) (offset : ℕ) :
    Ensures (fun e => ∃ status prn number, readBitsLe payload offset 0 32 = value status ∧
      readBitsLe payload offset 136 8 = value prn ∧
      readBitsLe payload offset 170 6 = value number ∧
      (e.constellation = ascii "GLO" ↔ obsvmcmpSystemId (UInt32.ofNat status) = 1) ∧
      (e.constellation = ascii "GLO" →
        e.satelliteId = obsvmcmpSatelliteId (ascii "GLO") prn (channelOf number)))
      (obsvmcmpbEntry payload offset) := by
  rw [obsvmcmpbEntry]
  repeat refine Ensures.bind_of_value fun _ _ => ?_
  refine ⟨_, _, _, ‹readBitsLe payload offset 0 32 = _›, ‹readBitsLe payload offset 136 8 = _›,
    ‹readBitsLe payload offset 170 6 = _›, ?_, fun hglo => ?_⟩
  · refine (constellationName_eq_glo _).trans ?_
    rw [← UInt32.toNat_inj]
    rfl
  · have hname : satsinfoConstellationNameFromSystemId _ = ascii "GLO" := hglo
    simp only [channelOf, hname, true_and]

/-- What is read of a payload: as many entries as are declared, each from its record. -/
theorem entries_of_parseObsvmcmpb {payload : Bytes} {sentence : ParsedSentence}
    (h : parseObsvmcmpb payload = value sentence) :
    ∃ count entries, readU32 payload 0 = value count ∧
      sentence.rawObservations =
        some { observationCount := toInt count.toNat, entries } ∧
      entries.length = count.toNat ∧
      ∀ i e, entries[i]? = some e → obsvmcmpbEntry payload (4 + i * 24) = value e := by
  rw [parseObsvmcmpb] at h
  obtain ⟨-, -, h⟩ := bind_eq_value.mp h
  obtain ⟨count, hcount, h⟩ := bind_eq_value.mp h
  obtain ⟨-, -, h⟩ := bind_eq_value.mp h
  obtain ⟨entries, hentries, h⟩ := bind_eq_value.mp h
  obtain ⟨hlength, hentry⟩ := getElem?_of_forRange hentries
  obtain rfl := value.inj h
  exact ⟨count, entries, hcount, rfl, hlength, hentry⟩

theorem channelOf_eq_iff {m n : ℕ} (hm : m ≠ 0) (hn : n ≠ 0) :
    channelOf m = channelOf n ↔ m = n := by
  rw [channelOf, channelOf, if_pos (Nat.pos_of_ne_zero hm), if_pos (Nat.pos_of_ne_zero hn)]
  omega

section Parsed

variable {payload : Bytes} {sentence : ParsedSentence} {observations : RawObservationData}
  (hparsed : parseObsvmcmpb payload = value sentence)
  (hobservations : sentence.rawObservations = some observations)
include hparsed hobservations

/-- An entry of GLONASS comes from a record of GLONASS, and has its name. -/
theorem GlonassEntry.record {i prn number : ℕ} {e : RawObservationEntry}
    (h : GlonassEntry payload observations i e prn number) :
    GlonassRecord payload i prn number ∧
      e.satelliteId = obsvmcmpSatelliteId (ascii "GLO") prn (channelOf number) := by
  obtain ⟨count, entries, hcount, hentries, hlength, hentry⟩ := entries_of_parseObsvmcmpb hparsed
  obtain rfl := Option.some.inj (hobservations.symm.trans hentries)
  obtain ⟨status, prn', number', hstatus, hprn, hnumber, hglo, hid⟩ :=
    ensures_iff.mp (obsvmcmpbEntry_id payload (4 + i * 24)) e (hentry i e h.entry)
  obtain rfl : prn' = prn := value.inj (hprn.symm.trans h.prn_eq)
  obtain rfl : number' = number := value.inj (hnumber.symm.trans h.number_eq)
  have hindex : i < entries.length := (List.getElem?_eq_some_iff.mp h.entry).1
  exact ⟨⟨⟨count, hcount, hlength ▸ hindex⟩, ⟨status, hstatus, hglo.mp h.constellation⟩, hprn,
    hnumber⟩, hid h.constellation⟩

theorem GlonassRecord.exists_entry {i prn number : ℕ} (h : GlonassRecord payload i prn number)
    (hne : number ≠ 0) : ∃ e, GlonassEntry payload observations i e prn number := by
  obtain ⟨count, entries, hcount, hentries, hlength, hentry⟩ := entries_of_parseObsvmcmpb hparsed
  obtain rfl := Option.some.inj (hobservations.symm.trans hentries)
  obtain ⟨count', hcount', hindex⟩ := h.index
  obtain ⟨status, hstatus, hsystem⟩ := h.system
  obtain rfl : count' = count := value.inj (hcount'.symm.trans hcount)
  have hsome := List.getElem?_eq_getElem (l := entries) (hlength ▸ hindex)
  obtain ⟨status', -, -, hstatus', -, -, hglo, -⟩ :=
    ensures_iff.mp (obsvmcmpbEntry_id payload (4 + i * 24)) _ (hentry i _ hsome)
  obtain rfl : status' = status := value.inj (hstatus'.symm.trans hstatus)
  exact ⟨_, hsome, hglo.mpr hsystem, h.prn_eq, h.number_eq, hne⟩

/-- **The names of a payload** tell its satellites apart, unless two of its satellites share one. -/
theorem ids_unambiguous_iff :
    (∀ i j e e' prn prn' number number', GlonassEntry payload observations i e prn number →
        GlonassEntry payload observations j e' prn' number' →
        e.satelliteId = e'.satelliteId → prn = prn' ∧ number = number') ↔
      ¬ ∃ i j prn, 0 < prn ∧ GlonassRecord payload i (10 * prn) 6 ∧
        GlonassRecord payload j prn 7 := by
  have hseven : channelOf 7 = 0 := rfl
  have hsix : channelOf 6 = -1 := rfl
  constructor
  · rintro h ⟨i, j, prn, hprn, hi, hj⟩
    obtain ⟨e, he⟩ := hi.exists_entry hparsed hobservations (by decide)
    obtain ⟨e', he'⟩ := hj.exists_entry hparsed hobservations (by decide)
    have hname : e.satelliteId = e'.satelliteId := by
      rw [(he.record hparsed hobservations).2, (he'.record hparsed hobservations).2,
        obsvmcmpSatelliteId_eq_iff]
      exact .inr (.inl ⟨hprn, rfl, hsix, hseven⟩)
    exact absurd (h i j e e' _ _ _ _ he he' hname).2 (by decide)
  · intro h i j e e' prn prn' number number' he he' hname
    obtain ⟨hrecord, hid⟩ := he.record hparsed hobservations
    obtain ⟨hrecord', hid'⟩ := he'.record hparsed hobservations
    rw [hid, hid', obsvmcmpSatelliteId_eq_iff] at hname
    rcases hname with ⟨hprn, hchannel⟩ | ⟨hpos, rfl, hk, hl⟩ | ⟨hpos, rfl, hk, hl⟩
    · exact ⟨hprn, (channelOf_eq_iff he.number_ne he'.number_ne).mp hchannel⟩
    · obtain rfl := (channelOf_eq_iff he.number_ne (by decide)).mp (hk.trans hsix.symm)
      obtain rfl := (channelOf_eq_iff he'.number_ne (by decide)).mp (hl.trans hseven.symm)
      exact absurd ⟨i, j, prn', hpos, hrecord, hrecord'⟩ h
    · obtain rfl := (channelOf_eq_iff he.number_ne (by decide)).mp (hk.trans hseven.symm)
      obtain rfl := (channelOf_eq_iff he'.number_ne (by decide)).mp (hl.trans hsix.symm)
      exact absurd ⟨j, i, prn, hpos, hrecord', hrecord⟩ h

end Parsed

/-- **The two parsers** use the same name on channels that are neither -1 nor 0. -/
theorem obsvmcmpSatelliteId_eq_bestsatSatelliteId_iff (number : ℕ) {rawSatelliteId : UInt32}
    (hchannel : (((rawSatelliteId >>> 16) &&& 0xFFFF).toNat : ℤ).bmod (2 ^ 16) = number - 7) :
    obsvmcmpSatelliteId (ascii "GLO") (rawSatelliteId &&& 0xFFFF).toNat (channelOf number) =
        bestsatSatelliteId 1 rawSatelliteId ↔
      number ≠ 0 ∧ number ≠ 6 ∧ number ≠ 7 := by
  have hbestsat : bestsatSatelliteId 1 rawSatelliteId =
      decimal (rawSatelliteId &&& 0xFFFF).toNat ++
        if (number : ℤ) - 7 = 0 then [] else channelText (number - 7) := by
    rw [bestsatSatelliteId, hchannel]
    by_cases hzero : (number : ℤ) - 7 = 0
    · rw [if_neg (fun h => h.2 hzero), if_pos hzero, List.append_nil]
    · rw [if_pos ⟨rfl, hzero⟩, if_neg hzero, channelText, List.append_assoc]
  rw [obsvmcmpSatelliteId_glo, hbestsat, List.append_cancel_left_eq]
  by_cases hzero : number = 0
  · subst hzero
    exact iff_of_false (by decide) (fun h => h.1 rfl)
  by_cases hsix : number = 6
  · subst hsix
    exact iff_of_false (by decide) (fun h => h.2.1 rfl)
  by_cases hseven : number = 7
  · subst hseven
    exact iff_of_false (by decide) (fun h => h.2.2 rfl)
  refine iff_of_true ?_ ⟨hzero, hsix, hseven⟩
  rw [channelOf, if_pos (Nat.pos_of_ne_zero hzero), if_neg (by omega), if_neg (by omega)]

/-- **GLONASS names.** Two entries of GLONASS with the same name are those of one satellite on one
channel, unless the payload has a satellite on channel -1 whose number is ten times that of a
satellite on channel 0. The name is that of the log of satellites in use, unless the channel is -1,
0 or not there. -/
theorem glonass_ids_iff (payload : Bytes) :
    (∀ sentence observations, parseObsvmcmpb payload = value sentence →
      sentence.rawObservations = some observations →
      ((∀ i j e e' prn prn' number number',
          GlonassEntry payload observations i e prn number →
          GlonassEntry payload observations j e' prn' number' →
          e.satelliteId = e'.satelliteId → prn = prn' ∧ number = number') ↔
        ¬ ∃ i j prn, 0 < prn ∧ GlonassRecord payload i (10 * prn) 6 ∧
          GlonassRecord payload j prn 7)) ∧
    ∀ (prn number : ℕ) (rawSatelliteId : UInt32),
      (rawSatelliteId &&& 0xFFFF).toNat = prn →
      (((rawSatelliteId >>> 16) &&& 0xFFFF).toNat : ℤ).bmod (2 ^ 16) = number - 7 →
      (obsvmcmpSatelliteId (ascii "GLO") prn (channelOf number) =
          bestsatSatelliteId 1 rawSatelliteId ↔
        number ≠ 0 ∧ number ≠ 6 ∧ number ≠ 7) := by
  constructor
  · exact fun sentence observations => ids_unambiguous_iff
  · rintro prn number rawSatelliteId rfl
    exact obsvmcmpSatelliteId_eq_bestsatSatelliteId_iff number

/-- Satellite 50 on channel -1. -/
def fiftyOnMinusOne : ObsvmcmpRecord :=
  { sampleRecord with prn := 50, glonassFrequencyNumber := 6 }

/-- Satellite 5 on channel 0. -/
def fiveOnZero : ObsvmcmpRecord := { sampleRecord with prn := 5, glonassFrequencyNumber := 7 }

/-- **Two satellites called `50`.** -/
theorem two_satellites_called_fifty :
    parseObsvmcmpb (obsvmcmpPayload [fiftyOnMinusOne, fiveOnZero]) = value {
      sentenceType := ascii "OBSVMCMPB"
      rawObservations := some {
        observationCount := 2
        entries := [observation fiftyOnMinusOne, observation fiveOnZero] } } ∧
    (observation fiftyOnMinusOne).constellation = ascii "GLO" ∧
    (observation fiveOnZero).constellation = ascii "GLO" ∧
    (observation fiftyOnMinusOne).satelliteId = ascii "50" ∧
    (observation fiveOnZero).satelliteId = ascii "50" ∧
    bestsatSatelliteId 1 0xFFFF0032 = ascii "50-1" ∧ bestsatSatelliteId 1 5 = ascii "5" :=
  ⟨parseObsvmcmpb_encode (by decide), by decide +kernel, by decide +kernel, by decide +kernel,
    by decide +kernel, by decide +kernel, by decide +kernel⟩

/-- Satellite 57 on channel 9 and satellite 5 on channel 0. -/
def nineAndZero : List ObsvmcmpRecord :=
  [{ sampleRecord with prn := 57, glonassFrequencyNumber := 16 }, fiveOnZero]

/-- A payload of two satellites of GLONASS without such a pair, and a channel that both parsers
write in the same way. -/
theorem glonass_ids_nineAndZero :
    (∀ i j e e' prn prn' number number',
      GlonassEntry (obsvmcmpPayload nineAndZero)
        { observationCount := 2, entries := nineAndZero.map observation } i e prn number →
      GlonassEntry (obsvmcmpPayload nineAndZero)
        { observationCount := 2, entries := nineAndZero.map observation } j e' prn' number' →
      e.satelliteId = e'.satelliteId → prn = prn' ∧ number = number') ∧
    nineAndZero.map (fun r => (observation r).constellation) = [ascii "GLO", ascii "GLO"] ∧
    nineAndZero.map (fun r => (observation r).satelliteId) = [ascii "57+9", ascii "50"] ∧
    obsvmcmpSatelliteId (ascii "GLO") 57 (channelOf 16) = bestsatSatelliteId 1 0x00090039 := by
  obtain ⟨hids, hagree⟩ := glonass_ids_iff (obsvmcmpPayload nineAndZero)
  refine ⟨(hids _ _ (@parseObsvmcmpb_encode nineAndZero (by decide)) rfl).mpr ?_,
    by decide +kernel, by decide +kernel,
    (hagree 57 16 0x00090039 (by decide) (by decide)).mpr (by decide)⟩
  rintro ⟨i, j, prn, -, hi, -⟩
  obtain ⟨count, hcount, hindex⟩ := hi.index
  have htwo : readU32 (obsvmcmpPayload nineAndZero) 0 = value 2 := by decide +kernel
  obtain rfl : count = 2 := value.inj (hcount.symm.trans htwo)
  have hfirst : readBitsLe (obsvmcmpPayload nineAndZero) (4 + 0 * 24) 170 6 = value 16 := by
    decide +kernel
  have hsecond : readBitsLe (obsvmcmpPayload nineAndZero) (4 + 1 * 24) 170 6 = value 7 := by
    decide +kernel
  have hnumber := hi.number_eq
  -- neither record has the frequency number 6
  obtain rfl | rfl : i = 0 ∨ i = 1 := Nat.le_one_iff_eq_zero_or_eq_one.mp (Nat.le_of_lt_succ hindex)
  · exact absurd (value.inj (hnumber.symm.trans hfirst)) (by decide)
  · exact absurd (value.inj (hnumber.symm.trans hsecond)) (by decide)

end UnicoreBinaryNavParser

end UnicoreGnss
