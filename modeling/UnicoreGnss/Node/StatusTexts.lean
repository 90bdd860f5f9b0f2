import UnicoreGnss.Lib.Summaries
import UnicoreGnss.Node.HybridIntegers

/-!
# The texts of the diagnostics

The helper functions at the head of `src/unicore_node.cpp` and
`include/mowgli_unicore_gnss/diagnostic_state.hpp`: what the diagnostics say of masks, flags, gains,
counts and ages.

An age may be infinite, because nothing has been received yet. Here it is then `none`.

## Main definitions

* `joinStrings` — lists of texts
* `describeOrderedCounts` — a table of counts, whose order in memory is left open by the language
* `Cn0Accumulator` — the mean and the largest C/N0

## Main results

* `describeOrderedCounts_perm` — the order of the table makes no difference
-/

namespace UnicoreGnss

open CNumber Summaries

/-! ### States of a feed -/

/-- Whether a kind of data is asked for, and whether it comes. -/
inductive DiagnosticFeedState where
  | disabled
  | stale
  | live
  deriving DecidableEq, Repr

/-- `diagnostic_feed_state` -/
def diagnosticFeedState (enabled freshDataAvailable : Bool) : DiagnosticFeedState :=
  if !enabled then .disabled else if freshDataAvailable then .live else .stale

/-- The word for the state of a feed. -/
def diagnosticFeedStateName : DiagnosticFeedState → Bytes
  | .disabled => ascii "disabled"
  | .stale => ascii "stale"
  | .live => ascii "live"

/-! ### Ages -/

/-- `isfinite(age) ? to_string_or_nan(age) : "inf"` -/
def ageText (age : Option ℚ) : Bytes := age.elim (ascii "inf") toStringOrNan

/-- `std::min` of two ages. -/
def minAge (a b : Option ℚ) : Option ℚ := a.elim b fun a => some (b.elim a (min a))

/-- `age > timeout` -/
def ageExceeds (age : Option ℚ) : Double → Bool
  | .finite timeout => age.elim true fun age => timeout < age
  | .infinite negative => negative
  | .nan => false

/-! ### Lists of texts -/

/-- `join_strings`: what is empty is left out. -/
def joinStrings (values : List Bytes) : Bytes :=
  let joined := values.foldl (fun joined value =>
    if value = [] then joined
    else if joined = [] then value
    else joined ++ ascii ", " ++ value) []
  if joined = [] then notAvailable else joined

/-- `join_message_ids` -/
def joinMessageIds (values : List UInt16) : Bytes :=
  if values = [] then ascii "none" else joinStrings (values.map fun value => decimal value.toNat)

/-- The text of `frame_parse_errors_by_reason`. A `std::map` is in the order of its keys, and this
one has the keys that have been counted. -/
def describeParseErrorCounts (counts : BinaryParseReason → ℕ) : Bytes :=
  let entry (reason : BinaryParseReason) (name : Bytes) : List Bytes :=
    if counts reason = 0 then [] else [name ++ ascii "=" ++ decimal (counts reason)]
  let parts := entry .crcMismatch (ascii "crc_mismatch") ++
    entry .frameTooLarge (ascii "frame_too_large")
  if parts = [] then ascii "none" else joinStrings parts

/-! ### Masks and flags -/

/-- `(value & (1 << bit)) != 0` of a number that is not negative. -/
def hasBit (value : ℤ) (bit : ℕ) : Bool := value.toNat.testBit bit

/-- The names of the bits that are set. -/
def describeBits (mask : ℤ) (names : List (ℕ × String)) : Bytes :=
  if mask < 0 then notAvailable
  else joinStrings ((names.filter fun entry => hasBit mask entry.1).map fun entry => ascii entry.2)

/-- The signals in the mask of GPS, GLONASS and BeiDou 2. -/
def describeGpsGloBds2SignalMask (mask : ℤ) : Bytes :=
  describeBits mask [(0, "GPS L1"), (1, "GPS L2"), (2, "GPS L5"), (3, "BDS2 B3I"), (4, "GLO L1"),
    (5, "GLO L2"), (6, "BDS2 B1I"), (7, "BDS2 B2I")]

/-- The signals in the mask of Galileo and BeiDou 3. -/
def describeGalileoBds3SignalMask (mask : ℤ) : Bytes :=
  describeBits mask [(0, "GAL E1"), (1, "GAL E5b"), (2, "GAL E5a"), (4, "BDS3 B1I"),
    (5, "BDS3 B3I"), (6, "BDS3 B2a"), (7, "BDS3 B1C")]

/-- The words for the RTK status of an RTKSTATUS. -/
def describeRtkCalculateStatus (value : ℤ) : Bytes :=
  if value = 0 then ascii "no differential data"
  else if value = 1 then ascii "base insufficient obs"
  else if value = 2 then ascii "high differential latency"
  else if value = 3 then ascii "active ionosphere"
  else if value = 4 then ascii "rover insufficient obs"
  else if value = 5 then ascii "rtk solution available"
  else ascii "unknown"

/-- The words for the state of the baseline. -/
def describeDualRtkFlag (value : ℤ) : Bytes :=
  if value = 0 then ascii "baseline unsolved"
  else if value = 1 then ascii "within limit"
  else if value = 2 then ascii "out of limit"
  else if value = 255 then ascii "baseline length not configured"
  else ascii "unknown"

/-- The words for a jamming flag. -/
def describeJamFlag (flag : ℤ) : Bytes :=
  if flag = 0 then ascii "none"
  else if flag = 1 then ascii "cw_jam"
  else if flag = 2 then ascii "strong_cw_jam"
  else ascii "unknown"

/-- `0x` and as many digits as it takes. -/
def toHexWord (value : UInt32) : Bytes :=
  hexText { marked := true, width := 0, capitals := true } value.toNat

/-- The hardware flags in words. -/
def describeHwFlagBits (hwFlag : ℤ) : Bytes :=
  if hwFlag < 0 then notAvailable
  else
    joinStrings [
      if hasBit hwFlag 0 then ascii "crystal" else ascii "oscillator",
      if hasBit hwFlag 1 then ascii "tcxo" else ascii "vcxo",
      if hasBit hwFlag 2 then ascii "20mhz" else ascii "26mhz",
      if hasBit hwFlag 3 then ascii "osc+crystal" else ascii "osc-only",
      if hasBit hwFlag 4 then ascii "external_clock" else ascii "internal_clock",
      if hasBit hwFlag 7 then ascii "flag_valid" else ascii "flag_unknown"]

/-- The state of the clock, and whether it is an external one if the flags are known. -/
def describeClockStatus (clockFlag hwFlag : ℤ) : Bytes :=
  if clockFlag < 0 then notAvailable
  else
    let status := if clockFlag = 1 then ascii "valid" else ascii "invalid"
    if hwFlag ≥ 0 then
      status ++ ascii ", " ++ if hasBit hwFlag 4 then ascii "external" else ascii "internal"
    else status

/-- `static_cast<uint32_t>` of an `int`. -/
def toUint32 (n : ℤ) : UInt32 := UInt32.ofNat (n % 2 ^ 32).toNat

/-- The mask of the PLLs that are locked. -/
def describePllStatus (pllLock : ℤ) : Bytes :=
  if pllLock < 0 then notAvailable
  else if pllLock = 0 then ascii "unlocked"
  else ascii "lock-mask=" ++ toHexWord (toUint32 pllLock)

/-! ### Bits of a word -/

/-- `count_bits` -/
def countBits (value : UInt32) : ℕ :=
  if value = 0 then 0 else (value &&& 1).toNat + countBits (value >>> 1)
termination_by value.toNat
decreasing_by
  rename_i hvalue
  have hpos : value.toNat ≠ 0 := fun h => hvalue (UInt32.toNat_inj.mp h)
  have hshift : (value >>> 1).toNat = value.toNat / 2 := by
    rw [UInt32.toNat_shiftRight]
    exact Nat.shiftRight_eq_div_pow _ 1
  omega

/-! ### Gains -/

/-- The channels that have a gain. -/
def validAgc (values : Vector ℤ 3) : List ℤ := values.toList.filter (0 ≤ ·)

/-- `count_valid_agc_channels` -/
def countValidAgcChannels (values : Vector ℤ 3) : ℕ := (validAgc values).length

/-- `mean_valid_agc`; no number is `none`. -/
def meanValidAgc (values : Vector ℤ 3) : Option ℚ :=
  if validAgc values = [] then none
  else some (((validAgc values).sum : ℚ) / (validAgc values).length)

/-- `min_valid_agc`; without a gain it is `-1`. -/
def minValidAgc (values : Vector ℤ 3) : ℤ :=
  let minValue := (validAgc values).foldl min (2 ^ 31 - 1)
  if validAgc values = [] then -1 else minValue

/-- `kBands`, and `kJamBands` -/
def threeBands : List Bytes := ["L1", "L2", "L5"].map ascii

/-- The gains of an antenna that are there, by their bands. -/
def describeAgcValues (values : Vector ℤ 3) : Bytes :=
  joinStrings ((threeBands.zip values.toList).filterMap fun part =>
    if 0 ≤ part.2 then some (part.1 ++ ascii "=" ++ decimalInt part.2) else none)

/-- Which antennas have a gain. -/
def describeAntennaStatus (agc : Option AgcData) : Bytes :=
  agc.elim (ascii "unknown") fun agc =>
    if countValidAgcChannels agc.antenna1 = 0 then ascii "main invalid"
    else if countValidAgcChannels agc.antenna2 = 0 then ascii "main ok, aux unavailable"
    else ascii "main ok, aux ok"

/-- `voltage_in_range` of a finite voltage. -/
def voltageInRange (value minValue maxValue : ℚ) : Bool := minValue ≤ value && value ≤ maxValue

/-! ### C/N0 -/

/-- `Cn0Accumulator`: the sum, the largest and the number of the positive samples. -/
structure Cn0Accumulator where
  sumDbHz : ℚ := 0
  maxDbHz : ℚ := -1
  sampleCount : ℕ := 0
  deriving DecidableEq, Repr

namespace Cn0Accumulator

/-- `add_cn0_sample` of a finite number. -/
def add (acc : Cn0Accumulator) (cn0DbHz : ℚ) : Cn0Accumulator :=
  if cn0DbHz ≤ 0 then acc
  else
    { sumDbHz := acc.sumDbHz + cn0DbHz
      maxDbHz := max acc.maxDbHz cn0DbHz
      sampleCount := acc.sampleCount + 1 }

/-- `mean_cn0_value` -/
def mean (acc : Cn0Accumulator) : Option ℚ :=
  if acc.sampleCount = 0 then none else some (acc.sumDbHz / acc.sampleCount)

/-- The largest sample, if there are any. -/
def max? (acc : Cn0Accumulator) : Option ℚ :=
  if acc.sampleCount = 0 then none else some acc.maxDbHz

/-- `mean_cn0_or_na` -/
def meanText (acc : Cn0Accumulator) : Bytes := acc.mean.elim notAvailable toStringOrNan

/-- `max_cn0_or_na` -/
def maxText (acc : Cn0Accumulator) : Bytes := acc.max?.elim notAvailable toStringOrNan

/-- The accumulator after all the samples. -/
def addAll (samples : List ℚ) : Cn0Accumulator := samples.foldl add {}

end Cn0Accumulator

/-! ### Tables of counts -/

/-- The keys of a hash table, in the order in which it hands them out. -/
def Enumerates {α : Type} (keys : List Bytes) (table : Bytes → Option α) : Prop :=
  keys.Nodup ∧ ∀ key, key ∈ keys ↔ (table key).isSome = true

/-- The language says no more than that about the order. -/
theorem Enumerates.perm {α : Type} {keys keys' : List Bytes} {table : Bytes → Option α}
    (h : Enumerates keys table) (h' : Enumerates keys' table) : keys.Perm keys' := by
  rw [List.perm_ext_iff_of_nodup h.1 h'.1]
  intro key
  rw [h.2, h'.2]

/-- The order of `std::string`. -/
def bytesLe (a b : Bytes) : Bool := a ≤ b

/-- `key + "=" + std::to_string(count)`, if the key is there with a count. -/
def countText (counts : Table Bytes) (key : Bytes) : Option Bytes :=
  ((counts key).filter (0 < ·)).map fun count => key ++ ascii "=" ++ decimal count

/-- `describe_ordered_counts`: first the preferred keys in their order, then the others in the order
of their texts. `keys` are those of the table. -/
def describeOrderedCounts (counts : Table Bytes) (keys preferredOrder : List Bytes) : Bytes :=
  let parts := preferredOrder.filterMap (countText counts)
  let extras := (keys.filter fun key => !preferredOrder.contains key).filterMap (countText counts)
  joinStrings (parts ++ extras.mergeSort bytesLe)

/-- Sorting forgets the order. -/
theorem mergeSort_bytesLe_perm {texts texts' : List Bytes} (h : texts.Perm texts') :
    texts.mergeSort bytesLe = texts'.mergeSort bytesLe := by
  have htrans : ∀ a b c : Bytes, bytesLe a b = true → bytesLe b c = true →
      bytesLe a c = true := by
    intro a b c hab hbc
    rw [bytesLe, decide_eq_true_eq] at hab hbc ⊢
    exact List.le_trans hab hbc
  have htotal : ∀ a b : Bytes, (bytesLe a b || bytesLe b a) = true := by
    intro a b
    simpa [bytesLe] using List.le_total a b
  refine List.Perm.eq_of_pairwise ?_ (List.pairwise_mergeSort htrans htotal texts)
    (List.pairwise_mergeSort htrans htotal texts') ?_
  · intro a b _ _ hab hba
    rw [bytesLe, decide_eq_true_eq] at hab hba
    exact List.le_antisymm hab hba
  · exact ((List.mergeSort_perm texts _).trans h).trans (List.mergeSort_perm texts' _).symm

/-- **The order of the table** makes no difference to its text. -/
theorem describeOrderedCounts_perm (counts : Table Bytes) {keys keys' : List Bytes}
    (h : keys.Perm keys') (preferredOrder : List Bytes) :
    describeOrderedCounts counts keys preferredOrder =
      describeOrderedCounts counts keys' preferredOrder := by
  have hextras := (h.filter fun key => !preferredOrder.contains key).filterMap (countText counts)
  rw [describeOrderedCounts, describeOrderedCounts, mergeSort_bytesLe_perm hextras]

end UnicoreGnss
