import UnicoreGnss.Transport
import Mathlib.Order.Basic
import Mathlib.Tactic.Cases

/-!
# Patterns in the buffer

Everything the transport decides is decided by looking for the sync and for LF and by reading a
header. The lemmas here say what such a look at the bytes received so far, `b`, says about the
stream `b ++ u` for an unknown continuation `u`: a header or a whole frame does not change when
more arrives, and no sync begins in front of an LF and ends behind it.
-/

namespace UnicoreGnss

open FirstMatch

variable {b u : Bytes} {i j n : ℕ}

/-! ### The sync and LF -/

theorem startsWithSync_iff : startsWithSync b = true ↔ ∃ r, b = 0xAA :: 0x44 :: 0xB5 :: r := by
  rw [startsWithSync, List.isPrefixOf_iff_prefix]
  constructor
  · rintro ⟨r, rfl⟩
    exact ⟨r, rfl⟩
  · rintro ⟨r, rfl⟩
    exact ⟨r, rfl⟩

theorem startsWithLf_iff : startsWithLf b = true ↔ ∃ r, b = lf :: r := by
  rw [startsWithLf, List.isPrefixOf_iff_prefix]
  constructor
  · rintro ⟨r, rfl⟩
    exact ⟨r, rfl⟩
  · rintro ⟨r, rfl⟩
    exact ⟨r, rfl⟩

/-- The three bytes of a sync, by position. -/
theorem getElem?_of_startsWithSync (h : startsWithSync (b.drop j) = true) :
    b[j]? = some 0xAA ∧ b[j + 1]? = some 0x44 ∧ b[j + 2]? = some 0xB5 := by
  obtain ⟨r, hr⟩ := startsWithSync_iff.mp h
  have hget : ∀ k, b[j + k]? = (0xAA :: 0x44 :: 0xB5 :: r)[k]? := by
    intro k
    rw [← hr, List.getElem?_drop]
  exact ⟨hget 0, hget 1, hget 2⟩

theorem getElem?_of_startsWithLf (h : startsWithLf (b.drop j) = true) : b[j]? = some lf := by
  obtain ⟨r, hr⟩ := startsWithLf_iff.mp h
  rw [← Nat.add_zero j, ← List.getElem?_drop, hr]
  rfl

/-- A sync is not interrupted by an LF. -/
theorem startsWithSync_of_lf (hlf : b[n]? = some lf) (hj : j ≤ n) (hn : n < j + 3) :
    startsWithSync (b.drop j) = false := by
  rw [← Bool.not_eq_true]
  intro h
  obtain ⟨h0, h1, h2⟩ := getElem?_of_startsWithSync h
  obtain rfl | rfl | rfl : n = j ∨ n = j + 1 ∨ n = j + 2 := by omega
  · rw [h0] at hlf; exact absurd hlf (by decide)
  · rw [h1] at hlf; exact absurd hlf (by decide)
  · rw [h2] at hlf; exact absurd hlf (by decide)

theorem getElem?_newline (h : findNewline b = some n) : b[n]? = some lf :=
  getElem?_of_startsWithLf (firstMatch_holds h)

theorem ne_lf_of_lt_newline (h : findNewline b = some n) (hj : j < n) : b[j]? ≠ some lf := by
  intro hlf
  have hfirst := firstMatch_first h hj
  rw [← Bool.not_eq_true] at hfirst
  refine hfirst (startsWithLf_iff.mpr ⟨b.drop (j + 1), ?_⟩)
  obtain ⟨hlt, hget⟩ := List.getElem?_eq_some_iff.mp hlf
  rw [List.drop_eq_getElem_cons hlt, hget]

theorem findNewline_eq_none_iff : findNewline b = none ↔ lf ∉ b := by
  constructor
  · intro h hmem
    obtain ⟨j, hlt, hj⟩ := List.getElem_of_mem hmem
    have hquiet := firstMatch_eq_none_iff.mp h j hlt
    rw [← Bool.not_eq_true] at hquiet
    exact hquiet (startsWithLf_iff.mpr ⟨b.drop (j + 1), by rw [List.drop_eq_getElem_cons hlt, hj]⟩)
  · intro h
    refine firstMatch_eq_none_iff.mpr fun i _ => ?_
    rw [← Bool.not_eq_true]
    intro hi
    exact h (List.mem_of_getElem? (getElem?_of_startsWithLf hi))

/-- What a text begins with does not change when more arrives. -/
theorem startsSentence_append (h : b ≠ []) (u : Bytes) :
    startsSentence (b ++ u) = startsSentence b := by
  rw [startsSentence, startsSentence, List.head?_append_of_ne_nil _ h]

/-- **No sync starts in a line that is complete and holds none**, whatever follows. -/
theorem quiet_of_line (hnl : findNewline b = some n)
    (hfirst : ∀ sync, findBinarySync b = some sync → n < sync) (hj : j < n + 1) :
    startsWithSync ((b ++ u).drop j) = false := by
  cases hs : findBinarySync b with
  | some sync =>
    have := hfirst sync hs
    exact firstMatch_first (isWindow_startsWithSync.firstMatch_append hs u) (by omega)
  | none =>
    have hn := firstMatch_lt hnl
    rw [← Bool.not_eq_true]
    intro h
    obtain ⟨m, hm, hfound⟩ := firstMatch_le (p := startsWithSync) (l := b ++ u)
      (by rw [List.length_append]; omega) h
    have hpast := isWindow_startsWithSync.length_lt_of_append hs hfound
    rw [startsWithSync_of_lf (n := n) ?_ (by omega) (by omega)] at h
    · exact Bool.false_ne_true h
    · rw [List.getElem?_append_left hn, getElem?_newline hnl]

/-- **A byte that is given up starts no sync**, whatever follows. -/
theorem quiet_of_drop (hsync : findBinarySync b = none) (hbuf : b ≠ [])
    (hfront : beginsWithBinarySyncPrefix b = false) : startsWithSync (b ++ u) = false := by
  rw [← Bool.not_eq_true]
  intro h
  obtain ⟨r, hr⟩ := startsWithSync_iff.mp h
  match b, hbuf, hr with
  | [x], _, hr =>
    obtain ⟨rfl, -⟩ : x = 0xAA ∧ _ := by simpa using hr
    exact absurd hfront (by decide)
  | [x, y], _, hr =>
    obtain ⟨rfl, rfl, -⟩ : x = 0xAA ∧ y = 0x44 ∧ _ := by simpa using hr
    exact absurd hfront (by decide)
  | x :: y :: z :: b, _, hr =>
    obtain ⟨rfl, rfl, rfl, -⟩ : x = 0xAA ∧ y = 0x44 ∧ z = 0xB5 ∧ _ := by simpa using hr
    have hzero : startsWithSync (0xAA :: 0x44 :: 0xB5 :: b) = true :=
      startsWithSync_iff.mpr ⟨b, rfl⟩
    rw [findBinarySync, (firstMatch_eq_zero_iff (by simp)).mpr hzero] at hsync
    exact absurd hsync (by simp)

/-! ### Headers and frames -/

theorem byteAt_append (h : i < b.length) : byteAt (b ++ u) i = byteAt b i := by
  simp [byteAt, List.getD_eq_getElem?_getD, List.getElem?_append_left h]

theorem byteAt_drop (b : Bytes) (i n : ℕ) : byteAt (b.drop n) i = byteAt b (n + i) := by
  simp [byteAt, List.getD_eq_getElem?_getD]

theorem byteAt_take (h : i < n) : byteAt (b.take n) i = byteAt b i := by
  simp [byteAt, List.getD_eq_getElem?_getD, h]

theorem readLe16_congr {d d' : Bytes} (h : ∀ i < 2, byteAt d i = byteAt d' i) :
    readLe16 d = readLe16 d' := by
  simp only [readLe16, h 0 (by omega), h 1 (by omega)]

theorem readLe32_congr {d d' : Bytes} (h : ∀ i < 4, byteAt d i = byteAt d' i) :
    readLe32 d = readLe32 d' := by
  simp only [readLe32, h 0 (by omega), h 1 (by omega), h 2 (by omega), h 3 (by omega)]

/-- `d` and `d'` agree on the frame at the front of `d`. -/
theorem decode_congr {d d' : Bytes} (h : ∀ i < frameSize d, byteAt d i = byteAt d' i)
    (htake : ∀ n ≤ frameSize d, d.take n = d'.take n) :
    frameSize d' = frameSize d ∧ crcOk d' = crcOk d ∧ decodeFrame d' = decodeFrame d := by
  have hmin := le_frameSize d
  have h16 : ∀ n, n + 2 ≤ frameSize d → readLe16 (d'.drop n) = readLe16 (d.drop n) := by
    intro n hn
    refine readLe16_congr fun i hi => ?_
    rw [byteAt_drop, byteAt_drop, h _ (by omega)]
  have h32 : ∀ n, n + 4 ≤ frameSize d → readLe32 (d'.drop n) = readLe32 (d.drop n) := by
    intro n hn
    refine readLe32_congr fun i hi => ?_
    rw [byteAt_drop, byteAt_drop, h _ (by omega)]
  have hsize : frameSize d' = frameSize d := by
    rw [frameSize, frameSize, h16 6 (by omega)]
  have hcrcSize : unicoreBinaryCrcSize = 4 := rfl
  have hexp : expectedCrc d' = expectedCrc d := by
    rw [expectedCrc, expectedCrc, hsize]
    exact h32 _ (by omega)
  have hcrc : crcOk d' = crcOk d := by
    rw [crcOk, crcOk, hexp, hsize, htake _ (by omega)]
  refine ⟨hsize, hcrc, ?_⟩
  have hpayload : (d'.drop unicoreBinaryHeaderSize).take
      (frameSize d - unicoreBinaryCrcSize - unicoreBinaryHeaderSize) =
      (d.drop unicoreBinaryHeaderSize).take
        (frameSize d - unicoreBinaryCrcSize - unicoreBinaryHeaderSize) := by
    rw [List.take_drop, List.take_drop, htake _ (by simp only [unicoreBinaryHeaderSize]; omega)]
  simp only [decodeFrame, hsize, hcrc, hexp, hpayload, h16 4 (by omega), h16 6 (by omega),
    h16 10 (by omega), h16 22 (by omega), h32 12 (by omega), h32 16 (by omega),
    h 3 (by omega), h 8 (by omega), h 9 (by omega), h 21 (by omega)]

/-- A header that is there does not change when more arrives. -/
theorem frameSize_append (h : 8 ≤ b.length) (u : Bytes) : frameSize (b ++ u) = frameSize b := by
  rw [frameSize, frameSize, readLe16_congr fun i hi => ?_]
  rw [byteAt_drop, byteAt_drop, byteAt_append (by omega)]

/-- **A frame that is there does not change when more arrives.** -/
theorem decode_append (h : frameSize b ≤ b.length) (u : Bytes) :
    crcOk (b ++ u) = crcOk b ∧ decodeFrame (b ++ u) = decodeFrame b :=
  (decode_congr (fun _ hi => (byteAt_append (by omega)).symm)
    fun _ hn => (List.take_append_of_le_length (by omega)).symm).2

/-- A frame is read off its own bytes. -/
theorem decode_take (b : Bytes) : frameSize (b.take (frameSize b)) = frameSize b ∧
    crcOk (b.take (frameSize b)) = crcOk b ∧
      decodeFrame (b.take (frameSize b)) = decodeFrame b :=
  decode_congr (fun _ hi => (byteAt_take hi).symm) fun n hn => by
    rw [List.take_take, Nat.min_eq_left hn]

end UnicoreGnss
