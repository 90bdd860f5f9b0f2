import UnicoreGnss.Transport.History

/-!
# Byte conservation

Whatever the options, a transport only takes bytes off the front of its buffer. What it has
received is therefore cut into pieces: bytes it has thrown away, lines and frames, and at the end
the bytes it still holds. The events are the lines that are not empty and the frames, in the order
of the pieces, and each is read off its own piece. So no byte is part of two events, and no event is
put together from bytes that did not arrive in a row.

A `Piece` says more than a `Segment` of the history: a line is seen without its CR, and what lines
and frames look like is stated of the bytes alone.

## Main results

* `UnicoreTransport.wellFormed_of_next` — the piece of a single pass
* `UnicoreTransport.exists_pieces` — every run, from any state, with binary frames or without
* `UnicoreTransport.byte_conservation` — every run of a fresh transport
-/

namespace UnicoreGnss

open FirstMatch

/-- What became of some bytes in a row. -/
inductive Piece where
  | discarded (bytes : Bytes)
  /-- A line with its LF, and with a CR before it or without. -/
  | line (text : Bytes) (hasCr : Bool)
  | frame (raw : Bytes)
  deriving DecidableEq, Repr

namespace Piece

/-- The bytes received. -/
def bytes : Piece → Bytes
  | discarded bytes => bytes
  | line text hasCr => text ++ (if hasCr then [cr] else []) ++ [lf]
  | frame raw => raw

/-- The events handed out: the text of a line, if there is any, and the contents of a frame. -/
def events : Piece → List UnicoreTransportEvent
  | discarded _ => []
  | line text _ => if text = [] then [] else [.asciiLine text]
  | frame raw => [.binaryFrame (decodeFrame raw)]

/-- What the bytes look like. The length of the payload stands in bytes 6 and 7. -/
def WellFormed : Piece → Prop
  | discarded bytes => bytes ≠ []
  | line text hasCr => lf ∉ text ∧ (hasCr = false → text.getLast? ≠ some cr)
  | frame raw => binarySync <+: raw ∧ raw.length = 28 + (readLe16 (raw.drop 6)).toNat

end Piece

namespace Segment

/-- The piece of a segment. -/
def piece : Segment → Piece
  | discarded bytes => .discarded bytes
  | line text =>
    if text.getLast? = some cr then .line text.dropLast true else .line text false
  | frame bytes => .frame bytes

theorem bytes_piece (seg : Segment) : seg.piece.bytes = seg.bytes := by
  cases seg with
  | discarded bytes => rfl
  | line text =>
    rw [piece]
    split
    · rename_i hcr
      change text.dropLast ++ [cr] ++ [lf] = text ++ [lf]
      rw [List.dropLast_append_getLast? cr hcr]
    · change text ++ [] ++ [lf] = text ++ [lf]
      rw [List.append_nil]
  | frame bytes => rfl

theorem events_piece (seg : Segment) : seg.piece.events = seg.events := by
  cases seg with
  | discarded bytes => rfl
  | line text =>
    rw [piece, events, lineEvents]
    split <;> rfl
  | frame bytes => rfl

/-- A line without an LF in it makes a well-formed piece. -/
theorem wellFormed_piece_line {text : Bytes} (h : lf ∉ text) : (line text).piece.WellFormed := by
  rw [piece]
  split
  · exact ⟨fun hmem => h ((List.dropLast_sublist text).subset hmem), nofun⟩
  · rename_i hcr
    exact ⟨h, fun _ => hcr⟩

end Segment

namespace UnicoreTransport

variable {t t' : UnicoreTransport} {out : List UnicoreTransportEvent}

/-- There is no LF before the first one. -/
theorem notMem_take_newline {b : Bytes} {newline : ℕ} (h : findNewline b = some newline) :
    lf ∉ b.take newline := by
  intro hmem
  obtain ⟨i, hi⟩ := List.mem_iff_getElem?.mp hmem
  have hlt : i < newline := by
    have := (List.getElem?_eq_some_iff.mp hi).1
    rw [List.length_take] at this
    omega
  rw [List.getElem?_take_of_lt hlt] at hi
  exact ne_lf_of_lt_newline h hlt hi

/-- A whole frame at the front of the buffer makes a well-formed piece. -/
theorem wellFormed_piece_frame (hsync : findBinarySync t.buffer = some 0)
    (hlen : frameSize t.buffer ≤ t.buffer.length) :
    (Segment.frame (t.buffer.take (frameSize t.buffer))).piece.WellFormed := by
  have hmin := le_frameSize t.buffer
  have hprefix : binarySync <+: t.buffer := List.isPrefixOf_iff_prefix.mp (firstMatch_holds hsync)
  refine ⟨?_, ?_⟩
  · exact List.prefix_of_prefix_length_le hprefix (List.take_prefix _ _)
      (by rw [List.length_take, Nat.min_eq_left hlen]; change 3 ≤ _; omega)
  · have hsize : frameSize (t.buffer.take (frameSize t.buffer)) = frameSize t.buffer :=
      (decode_take t.buffer).1
    rw [List.length_take, Nat.min_eq_left hlen]
    refine hsize.symm.trans ?_
    rw [frameSize]
    change 24 + _ + 4 = 28 + _
    omega

/-- **The piece of a pass** is well formed. -/
theorem wellFormed_of_next (h : t.drainPass = .next out t') :
    (segment t out t').piece.WellFormed := by
  cases hbin : t.options.enableBinary with
  | false =>
    obtain ⟨newline, hnl, rfl, rfl⟩ := asciiLine_of_next hbin h
    rw [segment_line hnl (by simp)]
    exact Segment.wellFormed_piece_line (notMem_take_newline hnl)
  | true =>
    -- Something is taken, so what is thrown away is not nothing.
    have hne : (segment t out t').bytes ≠ [] := by
      obtain ⟨-, n, hpos, hle, hbuf⟩ := buffer_of_next h
      have hbytes := congrArg List.length (buffer_eq_segment h).1
      rw [hbuf, List.length_append, List.length_drop] at hbytes
      intro hnil
      rw [hnil, List.length_nil] at hbytes
      omega
    have hcase := (segmentCase_of_next hbin h).1
    generalize segment t out t' = seg at hcase hne
    cases hcase with
    | tooLarge => exact hne
    | crcReject => exact hne
    | frame hsync _ hlen _ => exact wellFormed_piece_frame hsync hlen
    | frameLenient hsync _ hlen _ _ => exact wellFormed_piece_frame hsync hlen
    | line newline hnl _ => exact Segment.wellFormed_piece_line (notMem_take_newline hnl)
    | skip => exact hne
    | drop => exact hne

/-- The pieces of a run are well formed. -/
theorem wellFormed_history (calls : List (Call UInt8)) (t : UnicoreTransport) :
    ∀ seg ∈ (history.run calls t).1, seg.piece.WellFormed := by
  have key := history_induction (P := fun _ _ segs => ∀ seg ∈ segs, seg.piece.WellFormed)
    (by intro t c u segs h; exact h)
    (by intro t t' u segs _ h; exact h)
    (by
      intro t out t' u segs hnext h seg hseg
      rw [List.mem_append, List.mem_singleton] at hseg
      rcases hseg with hseg | rfl
      · exact h seg hseg
      · exact wellFormed_of_next hnext)
    calls t [] [] nofun
  rwa [List.nil_append] at key

/-- A run cuts what it finds in the buffer and what it receives into well-formed pieces in a row and
then the buffer it leaves, and its events are those of the pieces. -/
theorem exists_pieces (calls : List (Call UInt8)) (t : UnicoreTransport) :
    ∃ pieces : List Piece, (∀ piece ∈ pieces, piece.WellFormed) ∧
      t.buffer ++ Call.received calls = pieces.flatMap Piece.bytes ++ (run calls t).2.buffer ∧
      (run calls t).1 = pieces.flatMap Piece.events := by
  refine ⟨(history.run calls t).1.map Segment.piece, ?_, ?_, ?_⟩
  · rw [List.forall_mem_map]
    exact wellFormed_history calls t
  · rw [run_eq_history, List.flatMap_map]
    simp only [Segment.bytes_piece]
    exact buffer_append_received calls t
  · rw [run_eq_history, List.flatMap_map]
    simp only [Segment.events_piece]

/-- **Byte conservation.** What a fresh transport receives in a run is well-formed pieces in a row
and then its buffer, and its events are those of the pieces. -/
theorem byte_conservation (options : UnicoreTransportOptions) (calls : List (Call UInt8)) :
    ∃ pieces : List Piece, (∀ piece ∈ pieces, piece.WellFormed) ∧
      Call.received calls =
        pieces.flatMap Piece.bytes ++ (run calls (fresh options)).2.buffer ∧
      (run calls (fresh options)).1 = pieces.flatMap Piece.events :=
  exists_pieces calls (fresh options)

end UnicoreTransport

end UnicoreGnss
