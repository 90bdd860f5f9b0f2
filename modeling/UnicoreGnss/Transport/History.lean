import UnicoreGnss.Transport.Patterns

/-!
# What became of every byte

Each pass of the loop takes bytes off the front of the buffer and either throws them away or turns
them into a line or a frame. `Segment` names the three fates, and `UnicoreTransport.history` is the
transport labelled with them: the same states, but a pass hands out the segment it has taken.

The label is computed from the state before, the events and the state after, so it adds nothing to
the code. `segmentCase_of_next` turns the inversion lemma into statements about segments, and
`received_eq_segments` is byte conservation: what was received is the segments of the history, in
order, and then the buffer.
-/

namespace UnicoreGnss

open FirstMatch

/-- What a pass of the loop has taken off the buffer. -/
inductive Segment where
  /-- Bytes thrown away. -/
  | discarded (bytes : Bytes)
  /-- A line, without its LF. -/
  | line (text : Bytes)
  /-- A whole frame. -/
  | frame (bytes : Bytes)
  deriving DecidableEq, Repr

namespace Segment

/-- The bytes taken. -/
def bytes : Segment → Bytes
  | discarded bytes => bytes
  | line text => text ++ [lf]
  | frame bytes => bytes

/-- The events handed out for them. -/
def events : Segment → List UnicoreTransportEvent
  | discarded _ => []
  | line text => lineEvents text
  | frame bytes => [.binaryFrame (decodeFrame bytes)]

/-- Was it thrown away? -/
def isDiscarded : Segment → Bool
  | discarded _ => true
  | _ => false

@[simp] theorem bytes_discarded (b : Bytes) : (discarded b).bytes = b := rfl
@[simp] theorem bytes_line (b : Bytes) : (line b).bytes = b ++ [lf] := rfl
@[simp] theorem bytes_frame (b : Bytes) : (frame b).bytes = b := rfl
@[simp] theorem isDiscarded_discarded (b : Bytes) : (discarded b).isDiscarded = true := rfl
@[simp] theorem isDiscarded_line (b : Bytes) : (line b).isDiscarded = false := rfl
@[simp] theorem isDiscarded_frame (b : Bytes) : (frame b).isDiscarded = false := rfl

/-- The bytes of a history. -/
def taken (segs : List Segment) : Bytes := segs.flatMap bytes

@[simp] theorem taken_nil : taken [] = [] := rfl

@[simp] theorem taken_append (segs segs' : List Segment) :
    taken (segs ++ segs') = taken segs ++ taken segs' := by simp [taken]

@[simp] theorem taken_singleton (seg : Segment) : taken [seg] = seg.bytes := by simp [taken]

end Segment

namespace UnicoreTransport

variable {t t' : UnicoreTransport} {out : List UnicoreTransportEvent}

/-- The segment of a pass from `t` to `t'` that handed out `out`. -/
def segment (t : UnicoreTransport) (out : List UnicoreTransportEvent) (t' : UnicoreTransport) :
    Segment :=
  let bytes := t.buffer.take (t.buffer.length - t'.buffer.length)
  match out with
  | .binaryFrame _ :: _ => .frame bytes
  | _ => if bytes.getLast? = some lf then .line bytes.dropLast else .discarded bytes

/-- The transport, handing out segments. -/
def history : BufferedReader UInt8 UnicoreTransport Segment := reader.label segment

@[simp] theorem history_buffer : history.buffer t = t.buffer := rfl

@[simp] theorem history_push (c : Bytes) : history.push c t = t.append c := rfl

/-- The passes of the binary mode that go on, by the segment they take. -/
inductive SegmentCase (t : UnicoreTransport) : Segment → UnicoreTransport → Prop
  /-- A refused sync: too large a frame. -/
  | tooLarge (hsync : findBinarySync t.buffer = some 0) (hlen : 28 ≤ t.buffer.length)
      (hsize : t.options.binaryMaxFrameSize < frameSize t.buffer) :
      SegmentCase t (.discarded (t.buffer.take 1))
        ((t.countSyncCandidate.discard 1).countBinaryParseReason .frameTooLarge)
  /-- A refused sync: a wrong CRC. -/
  | crcReject (hsync : findBinarySync t.buffer = some 0)
      (hsize : frameSize t.buffer ≤ t.options.binaryMaxFrameSize)
      (hlen : frameSize t.buffer ≤ t.buffer.length) (hcrc : crcOk t.buffer = false)
      (hstrict : t.options.strictBinaryCrc = true) :
      SegmentCase t (.discarded (t.buffer.take 1)) (t.countSyncCandidate.countCrcError.discard 1)
  /-- A frame with a matching CRC. -/
  | frame (hsync : findBinarySync t.buffer = some 0)
      (hsize : frameSize t.buffer ≤ t.options.binaryMaxFrameSize)
      (hlen : frameSize t.buffer ≤ t.buffer.length) (hcrc : crcOk t.buffer = true) :
      SegmentCase t (.frame (t.buffer.take (frameSize t.buffer))) t.countSyncCandidate.takeFrame
  /-- A frame with a wrong CRC, let through. -/
  | frameLenient (hsync : findBinarySync t.buffer = some 0)
      (hsize : frameSize t.buffer ≤ t.options.binaryMaxFrameSize)
      (hlen : frameSize t.buffer ≤ t.buffer.length) (hcrc : crcOk t.buffer = false)
      (hstrict : t.options.strictBinaryCrc = false) :
      SegmentCase t (.frame (t.buffer.take (frameSize t.buffer)))
        t.countSyncCandidate.countCrcError.takeFrame
  /-- A line that ends before any sync. -/
  | line (newline : ℕ) (hnl : findNewline t.buffer = some newline)
      (hfirst : ∀ sync, findBinarySync t.buffer = some sync → newline < sync) :
      SegmentCase t (.line (t.buffer.take newline)) (t.takeLine newline)
  /-- Noise in front of a sync, with no line in it. -/
  | skip (sync : ℕ) (hpos : 0 < sync) (hsync : findBinarySync t.buffer = some sync)
      (hfirst : ∀ newline, findNewline t.buffer = some newline → sync ≤ newline) :
      SegmentCase t (.discarded (t.buffer.take sync)) (t.discard sync)
  /-- One byte of a buffer with neither a line nor a sync. -/
  | drop (hbuf : t.buffer ≠ []) (hsync : findBinarySync t.buffer = none)
      (hnl : findNewline t.buffer = none) (hsentence : startsSentence t.buffer = false)
      (hfront : beginsWithBinarySyncPrefix t.buffer = false) :
      SegmentCase t (.discarded (t.buffer.take 1)) (t.discard 1)

theorem take_succ_newline {b : Bytes} {n : ℕ} (h : findNewline b = some n) :
    b.take (n + 1) = b.take n ++ [lf] := by
  rw [List.take_add_one, getElem?_newline h]
  rfl

/-- The label of a pass that took no frame and no LF. -/
theorem segment_discarded {n : ℕ} (hbuf : t'.buffer = t.buffer.drop n) (hle : n ≤ t.buffer.length)
    (hlast : ∀ j, j + 1 = n → t.buffer[j]? ≠ some lf) :
    segment t [] t' = .discarded (t.buffer.take n) := by
  have hn : t.buffer.length - t'.buffer.length = n := by
    rw [hbuf, List.length_drop]
    omega
  have hlf : (t.buffer.take n).getLast? ≠ some lf := by
    cases n with
    | zero => simp
    | succ n =>
      rw [List.getLast?_eq_getElem?, List.length_take, Nat.min_eq_left hle,
        List.getElem?_take_of_lt (by omega)]
      exact hlast n rfl
  simp only [segment, hn, if_neg hlf]

theorem segment_line {newline : ℕ} (hnl : findNewline t.buffer = some newline)
    (hbuf : t'.buffer = t.buffer.drop (newline + 1)) (text : Bytes) :
    segment t (lineEvents text) t' = .line (t.buffer.take newline) := by
  have hlt := firstMatch_lt hnl
  have hn : t.buffer.length - t'.buffer.length = newline + 1 := by
    rw [hbuf, List.length_drop]
    omega
  have hseg : ∀ l : List UnicoreTransportEvent, (l = [] ∨ ∃ line, l = [.asciiLine line]) →
      segment t l t' = .line (t.buffer.take newline) := by
    rintro l (rfl | ⟨line, rfl⟩) <;> simp [segment, hn, take_succ_newline hnl]
  refine hseg _ ?_
  simp only [lineEvents]
  split
  · split <;> simp
  · split <;> simp

theorem segment_frame (hbuf : t'.buffer = t.buffer.drop (frameSize t.buffer))
    (hlen : frameSize t.buffer ≤ t.buffer.length) (f : UnicoreBinaryFrame) :
    segment t [.binaryFrame f] t' = .frame (t.buffer.take (frameSize t.buffer)) := by
  have hn : t.buffer.length - t'.buffer.length = frameSize t.buffer := by
    rw [hbuf, List.length_drop]
    omega
  simp only [segment, hn]

/-- A sync at the front: the front byte is not an LF. -/
theorem getElem?_zero_of_sync {b : Bytes} (h : findBinarySync b = some 0) : b[0]? ≠ some lf := by
  obtain ⟨h0, -, -⟩ := getElem?_of_startsWithSync (firstMatch_holds h)
  rw [h0]
  decide

theorem events_frame (b : Bytes) :
    (Segment.frame (b.take (frameSize b))).events = [.binaryFrame (decodeFrame b)] := by
  rw [Segment.events, (decode_take b).2.2]

/-- **The inversion lemma, for the history.** -/
theorem segmentCase_of_next (hbin : t.options.enableBinary = true)
    (h : t.drainPass = .next out t') :
    SegmentCase t (segment t out t') t' ∧ (segment t out t').events = out := by
  have hcase := passCase_drainPass t
  have hmin := le_frameSize t.buffer
  rw [h] at hcase
  cases hcase with
  | asciiLine _ hascii _ => rw [hbin] at hascii; exact absurd hascii (by simp)
  | tooLarge _ hsync hlen hsize =>
    rw [segment_discarded (n := 1) (by simp) (by omega) ?_]
    · exact ⟨.tooLarge hsync hlen hsize, rfl⟩
    · rintro j hj
      obtain rfl : j = 0 := by omega
      exact getElem?_zero_of_sync hsync
  | crcReject _ hsync hsize hlen hcrc hstrict =>
    rw [segment_discarded (n := 1) (by simp) (by omega) ?_]
    · exact ⟨.crcReject hsync hsize hlen hcrc hstrict, rfl⟩
    · rintro j hj
      obtain rfl : j = 0 := by omega
      exact getElem?_zero_of_sync hsync
  | frame _ hsync hsize hlen hcrc =>
    rw [segment_frame (by simp) hlen]
    exact ⟨.frame hsync hsize hlen hcrc, events_frame _⟩
  | frameLenient _ hsync hsize hlen hcrc hstrict =>
    rw [segment_frame (by simp) hlen]
    exact ⟨.frameLenient hsync hsize hlen hcrc hstrict, events_frame _⟩
  | line newline _ hnl hfirst =>
    rw [segment_line hnl (by simp)]
    exact ⟨.line newline hnl hfirst, rfl⟩
  | skip sync _ hpos hsync hfirst =>
    rw [segment_discarded (n := sync) (by simp) (Nat.le_of_lt (firstMatch_lt hsync)) ?_]
    · exact ⟨.skip sync hpos hsync hfirst, rfl⟩
    · rintro j rfl hlf
      cases hnl : findNewline t.buffer with
      | none => exact findNewline_eq_none_iff.mp hnl (List.mem_of_getElem? hlf)
      | some newline => exact ne_lf_of_lt_newline hnl (hfirst newline hnl) hlf
  | drop _ hbuf hsync hnl hsentence hfront =>
    rw [segment_discarded (n := 1) (by simp) (List.length_pos_iff.mpr hbuf) ?_]
    · exact ⟨.drop hbuf hsync hnl hsentence hfront, rfl⟩
    · intro j _ hlf
      exact findNewline_eq_none_iff.mp hnl (List.mem_of_getElem? hlf)

/-- What a segment says about the buffers before and after. -/
theorem SegmentCase.buffer_eq {seg : Segment} (h : SegmentCase t seg t') :
    t.buffer = seg.bytes ++ t'.buffer ∧ t'.options = t.options := by
  cases h with
  | line newline hnl _ =>
    rw [Segment.bytes_line, ← take_succ_newline hnl, buffer_takeLine, List.take_append_drop]
    exact ⟨rfl, rfl⟩
  | _ => simp [-List.drop_one]

/-- The text mode takes lines only. -/
theorem asciiLine_of_next (hbin : t.options.enableBinary = false)
    (h : t.drainPass = .next out t') :
    ∃ newline, findNewline t.buffer = some newline ∧ t' = t.erase (newline + 1) ∧
      out = lineEvents (t.buffer.take newline) := by
  have hcase := passCase_drainPass t
  rw [h] at hcase
  cases hcase with
  | asciiLine newline _ hnl => exact ⟨newline, hnl, rfl, rfl⟩
  | _ => simp_all

/-- A pass takes its segment off the front of the buffer and hands out its events. -/
theorem buffer_eq_segment (h : t.drainPass = .next out t') :
    t.buffer = (segment t out t').bytes ++ t'.buffer ∧ (segment t out t').events = out := by
  cases hbin : t.options.enableBinary with
  | false =>
    obtain ⟨newline, hnl, rfl, rfl⟩ := asciiLine_of_next hbin h
    rw [segment_line hnl (by simp), Segment.bytes_line, ← take_succ_newline hnl, buffer_erase,
      List.take_append_drop]
    exact ⟨rfl, rfl⟩
  | true =>
    obtain ⟨hcase, hout⟩ := segmentCase_of_next hbin h
    exact ⟨hcase.buffer_eq.1, hout⟩

/-! ### Histories of runs -/

/-- **The events of a run are those of its history**, and both end in the same state. -/
theorem run_eq_history (calls : List (Call UInt8)) (t : UnicoreTransport) :
    run calls t = ((history.run calls t).1.flatMap Segment.events, (history.run calls t).2) :=
  reader.run_label Segment.events (fun h => (buffer_eq_segment h).2) calls t

theorem drain_eq_history (t : UnicoreTransport) : t.drain.2 = (history.drain t).2 :=
  congrArg Prod.snd (run_eq_history [.drain] t)

/-- **Invariants of histories**, in terms of the passes of the transport. -/
theorem history_induction {P : UnicoreTransport → Bytes → List Segment → Prop}
    (push : ∀ t c u segs, P t (c ++ u) segs → P (t.append c) u segs)
    (stop : ∀ t t' u segs, t.drainPass = .stop t' → P t u segs → P t' u segs)
    (next : ∀ t out t' u segs, t.drainPass = .next out t' → P t u segs →
      P t' u (segs ++ [segment t out t']))
    (calls : List (Call UInt8)) (t : UnicoreTransport) (u : Bytes) (segs : List Segment)
    (h : P t (Call.received calls ++ u) segs) :
    P (history.run calls t).2 u (segs ++ (history.run calls t).1) := by
  refine history.run_induction push (fun t t' u segs h => stop t t' u segs ?_) ?_ calls t u segs h
  · exact reader.label_stop.mp h
  · intro t out t' u segs h ht
    obtain ⟨out, hnext, rfl⟩ := reader.exists_of_label_next h
    exact next t out t' u segs hnext ht

/-- The pass that ends a run that ends in a drain. -/
theorem exists_stop_of_run_drain (calls : List (Call UInt8)) (t : UnicoreTransport) :
    ∃ t₀ : UnicoreTransport, t₀.drainPass = .stop (history.run (calls ++ [.drain]) t).2 := by
  rw [BufferedReader.run_append, BufferedReader.run_drain]
  obtain ⟨t₀, hstop⟩ := history.drain_stopped (history.run calls t).2
  exact ⟨t₀, reader.label_stop.mp hstop⟩

/-- The same for a run that ends in a drain, with the pass that ends it. -/
theorem history_drain_induction {P : UnicoreTransport → Bytes → List Segment → Prop}
    (push : ∀ t c u segs, P t (c ++ u) segs → P (t.append c) u segs)
    (stop : ∀ t t' u segs, t.drainPass = .stop t' → P t u segs → P t' u segs)
    (next : ∀ t out t' u segs, t.drainPass = .next out t' → P t u segs →
      P t' u (segs ++ [segment t out t']))
    (calls : List (Call UInt8)) (t : UnicoreTransport) (h : P t (Call.received calls) []) :
    P (history.run (calls ++ [.drain]) t).2 [] (history.run (calls ++ [.drain]) t).1 ∧
      ∃ t₀ : UnicoreTransport,
        t₀.drainPass = .stop (history.run (calls ++ [.drain]) t).2 := by
  exact ⟨history_induction push stop next (calls ++ [.drain]) t [] [] (by simpa using h),
    exists_stop_of_run_drain calls t⟩

/-- **Byte conservation**, from any state: what was in the buffer and what was received is what
became of it, in order, and the buffer. -/
theorem buffer_append_received (calls : List (Call UInt8)) (t : UnicoreTransport) :
    t.buffer ++ Call.received calls =
      Segment.taken (history.run calls t).1 ++ (history.run calls t).2.buffer := by
  have key := history_induction
    (P := fun t' u segs => t.buffer ++ Call.received calls = Segment.taken segs ++ t'.buffer ++ u)
    (by intro t c u segs h; simpa using h)
    (by
      intro t t' u segs h ht
      rwa [(buffer_of_stop h).2])
    (by
      intro t out t' u segs h ht
      rw [ht, (buffer_eq_segment h).1]
      simp)
    calls t [] [] (by simp)
  simpa using key

/-- What a fresh transport has received. -/
theorem received_eq_segments (o : UnicoreTransportOptions) (calls : List (Call UInt8)) :
    Call.received calls =
      Segment.taken (history.run calls (fresh o)).1 ++ (history.run calls (fresh o)).2.buffer :=
  buffer_append_received calls (fresh o)

/-- Options are never touched. -/
theorem options_run (calls : List (Call UInt8)) (t : UnicoreTransport) :
    (history.run calls t).2.options = t.options := by
  refine history_induction (P := fun t' _ _ => t'.options = t.options) ?_ ?_ ?_
    calls t [] [] rfl
  · intro s c u segs h
    exact h
  · intro s s' u segs h hs
    rw [(buffer_of_stop h).1, hs]
  · intro s out s' u segs h hs
    rw [(buffer_of_next h).1, hs]

end UnicoreTransport

end UnicoreGnss
