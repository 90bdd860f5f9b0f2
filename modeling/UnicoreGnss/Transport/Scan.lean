import UnicoreGnss.Transport.History

/-!
# Which frames are emitted

`scan` reads the frames off a stream that is there as a whole: from the first sync on, a frame that
is complete, not too large and, in strict mode, has the right CRC is emitted and reading goes on
behind it; any other sync is passed over by one byte. Nothing in it mentions lines, noise or
reads.

The transport takes its decisions on whatever has arrived. `scan_of_segment` is what makes that
harmless: a pass that goes on changes what remains to be scanned by exactly the frame it emits,
*whatever arrives later*. So the frames of a run are those of the scanner, with their positions,
however the stream was cut into reads.

## Main results

* `framesAt_history_eq_scan` — frames and positions of a run are those of `scan`
* `binaryFrames_run_eq_scan` — the events of a run against `scan`
-/

namespace UnicoreGnss

open FirstMatch UnicoreTransport

/-! ### The scanner -/

/-- The frames of the stream `S` from position `i` on, each with its position. -/
def scan (o : UnicoreTransportOptions) (S : Bytes) (i : ℕ) : List (ℕ × UnicoreBinaryFrame) :=
  match findBinarySync (S.drop i) with
  | none => []
  | some k =>
    let rest := S.drop (i + k)
    if rest.length < 28 then []
    else if o.binaryMaxFrameSize < frameSize rest then scan o S (i + k + 1)
    else if rest.length < frameSize rest then []
    else if crcOk rest = false ∧ o.strictBinaryCrc = true then scan o S (i + k + 1)
    else (i + k, decodeFrame rest) :: scan o S (i + k + frameSize rest)
termination_by S.length - i
decreasing_by
  all_goals
    have hmin := le_frameSize rest
    have hsame : frameSize rest = frameSize (S.drop (i + k)) := rfl
    have hlen : rest.length = S.length - (i + k) := List.length_drop
    omega

section Scan

variable {o : UnicoreTransportOptions} {S : Bytes} {i n : ℕ}

theorem scan_none (h : findBinarySync (S.drop i) = none) : scan o S i = [] := by
  rw [scan, h]

/-- **Bytes that start no sync are passed over.** -/
theorem scan_skip (hn : n ≤ (S.drop i).length)
    (hquiet : ∀ j < n, startsWithSync ((S.drop i).drop j) = false) :
    scan o S i = scan o S (i + n) := by
  have hfind : findBinarySync (S.drop i) = (findBinarySync (S.drop (i + n))).map (· + n) := by
    rw [← List.drop_drop]
    exact firstMatch_of_quiet hn hquiet
  rw [scan, scan, hfind]
  cases findBinarySync (S.drop (i + n)) with
  | none => rfl
  | some k =>
    have hpos : i + (k + n) = i + n + k := by omega
    simp only [Option.map_some, hpos]

/-- A frame that is not all there ends the scan. -/
theorem scan_await (hsync : findBinarySync (S.drop i) = some 0)
    (hwait : (S.drop i).length < 28 ∨ frameSize (S.drop i) ≤ o.binaryMaxFrameSize ∧
      (S.drop i).length < frameSize (S.drop i)) : scan o S i = [] := by
  rw [scan, hsync]
  simp only [Nat.add_zero]
  rcases hwait with h | ⟨hsize, h⟩
  · rw [if_pos h]
  · rw [if_neg (Nat.not_lt.mpr hsize), if_pos h, ite_self]

/-- A refused sync is passed over by one byte. -/
theorem scan_reject (hsync : findBinarySync (S.drop i) = some 0) (hlen : 28 ≤ (S.drop i).length)
    (href : o.binaryMaxFrameSize < frameSize (S.drop i) ∨
      frameSize (S.drop i) ≤ (S.drop i).length ∧ crcOk (S.drop i) = false ∧
        o.strictBinaryCrc = true) : scan o S i = scan o S (i + 1) := by
  rw [scan, hsync]
  simp only [Nat.add_zero]
  rw [if_neg (by omega)]
  split
  · rfl
  · rcases href with h | ⟨hle, hcrc⟩
    · contradiction
    · rw [if_neg (by omega), if_pos hcrc]

/-- A good frame is emitted, and the scan goes on behind it. -/
theorem scan_frame (hsync : findBinarySync (S.drop i) = some 0)
    (hsize : frameSize (S.drop i) ≤ o.binaryMaxFrameSize)
    (hlen : frameSize (S.drop i) ≤ (S.drop i).length)
    (hcrc : crcOk (S.drop i) = true ∨ o.strictBinaryCrc = false) :
    scan o S i = (i, decodeFrame (S.drop i)) :: scan o S (i + frameSize (S.drop i)) := by
  have hmin := le_frameSize (S.drop i)
  rw [scan, hsync]
  simp only [Nat.add_zero]
  rw [if_neg (by omega), if_neg (by omega), if_neg (by omega), if_neg]
  rintro ⟨hbad, hstrict⟩
  rcases hcrc with h | h
  · rw [h] at hbad; exact absurd hbad (by simp)
  · rw [h] at hstrict; exact absurd hstrict (by simp)

end Scan

/-! ### Frames of a history -/

/-- The frames of a history whose first byte is at position `off`, with their positions. -/
def framesAt : ℕ → List Segment → List (ℕ × UnicoreBinaryFrame)
  | _, [] => []
  | off, .discarded bytes :: segs => framesAt (off + bytes.length) segs
  | off, .line text :: segs => framesAt (off + (text.length + 1)) segs
  | off, .frame bytes :: segs => (off, decodeFrame bytes) :: framesAt (off + bytes.length) segs

/-- The frames among the events. -/
def binaryFrames (events : List UnicoreTransportEvent) : List UnicoreBinaryFrame :=
  events.filterMap fun
    | .asciiLine _ => none
    | .binaryFrame frame => some frame

theorem framesAt_append (off : ℕ) (segs segs' : List Segment) :
    framesAt off (segs ++ segs') =
      framesAt off segs ++ framesAt (off + (Segment.taken segs).length) segs' := by
  induction segs generalizing off with
  | nil => simp [framesAt]
  | cons seg segs ih =>
    cases seg <;> simp [framesAt, ih, Segment.taken, Nat.add_assoc, Nat.add_comm 1]

theorem binaryFrames_append (events events' : List UnicoreTransportEvent) :
    binaryFrames (events ++ events') = binaryFrames events ++ binaryFrames events' :=
  List.filterMap_append

theorem binaryFrames_lineEvents (text : Bytes) : binaryFrames (lineEvents text) = [] := by
  simp only [lineEvents]
  split
  · split <;> rfl
  · split <;> rfl

/-- The frames of a history are those among its events. -/
theorem binaryFrames_events (segs : List Segment) (off : ℕ) :
    binaryFrames (segs.flatMap Segment.events) = (framesAt off segs).map Prod.snd := by
  induction segs generalizing off with
  | nil => rfl
  | cons seg segs ih =>
    rw [List.flatMap_cons, binaryFrames_append]
    cases seg with
    | discarded bytes => simpa [framesAt, binaryFrames, Segment.events] using ih _
    | line text => simpa [framesAt, Segment.events, binaryFrames_lineEvents] using ih _
    | frame bytes =>
      rw [framesAt, List.map_cons, ← ih]
      rfl

/-! ### One pass -/

section Pass

variable {t t' : UnicoreTransport} {S u : Bytes} {p : ℕ} {seg : Segment}

/-- The bytes a discarding pass takes from `t` start no sync, or are a refused one. -/
theorem scan_of_discarded {n : ℕ} (hn : n ≤ t.buffer.length)
    (hscan : scan t.options S p = scan t.options S (p + n)) :
    scan t.options S p = framesAt p [.discarded (t.buffer.take n)] ++
      scan t.options S (p + (Segment.discarded (t.buffer.take n)).bytes.length) := by
  simpa [framesAt, Nat.min_eq_left hn] using hscan

theorem scan_of_frame (hrest : S.drop p = t.buffer ++ u)
    (hsync : findBinarySync t.buffer = some 0)
    (hsize : frameSize t.buffer ≤ t.options.binaryMaxFrameSize)
    (hlen : frameSize t.buffer ≤ t.buffer.length)
    (hcrc : crcOk t.buffer = true ∨ t.options.strictBinaryCrc = false) :
    scan t.options S p = framesAt p [.frame (t.buffer.take (frameSize t.buffer))] ++
      scan t.options S
        (p + (Segment.frame (t.buffer.take (frameSize t.buffer))).bytes.length) := by
  have hmin := le_frameSize t.buffer
  have hsync' := isWindow_startsWithSync.firstMatch_append hsync u
  have hfs := frameSize_append (by omega : 8 ≤ t.buffer.length) u
  obtain ⟨hcrc', hdec⟩ := decode_append hlen u
  rw [scan_frame (by rw [hrest]; exact hsync') (by rw [hrest, hfs]; exact hsize)
    (by rw [hrest, hfs, List.length_append]; omega) (by rw [hrest, hcrc']; exact hcrc)]
  simp [framesAt, hrest, hfs, hdec, (decode_take t.buffer).2.2, Nat.min_eq_left hlen]

/-- **A pass changes what remains to be scanned by the frame it emits**, whatever arrives later. -/
theorem scan_of_segment (hseg : SegmentCase t seg t') (hrest : S.drop p = t.buffer ++ u) :
    scan t.options S p =
      framesAt p [seg] ++ scan t.options S (p + seg.bytes.length) := by
  have hmin := le_frameSize t.buffer
  have hlong : t.buffer.length ≤ (S.drop p).length := by
    rw [hrest, List.length_append]
    omega
  cases hseg with
  | tooLarge hsync hlen hsize =>
    have hsync' := isWindow_startsWithSync.firstMatch_append hsync u
    have hfs := frameSize_append (by omega : 8 ≤ t.buffer.length) u
    refine scan_of_discarded (by omega) (scan_reject (by rw [hrest]; exact hsync')
      (by omega) (.inl ?_))
    rw [hrest, hfs]
    exact hsize
  | crcReject hsync hsize hlen hcrc hstrict =>
    have hsync' := isWindow_startsWithSync.firstMatch_append hsync u
    have hfs := frameSize_append (by omega : 8 ≤ t.buffer.length) u
    refine scan_of_discarded (by omega) (scan_reject (by rw [hrest]; exact hsync')
      (by omega) (.inr ⟨?_, ?_, hstrict⟩))
    · rw [hrest, hfs, List.length_append]
      omega
    · rw [hrest, (decode_append hlen u).1]
      exact hcrc
  | frame hsync hsize hlen hcrc => exact scan_of_frame hrest hsync hsize hlen (.inl hcrc)
  | frameLenient hsync hsize hlen _ hstrict =>
    exact scan_of_frame hrest hsync hsize hlen (.inr hstrict)
  | line newline hnl hfirst =>
    have hlt := firstMatch_lt hnl
    have hskip : scan t.options S p = scan t.options S (p + (newline + 1)) :=
      scan_skip (by omega) fun j hj => by rw [hrest]; exact quiet_of_line hnl hfirst hj
    simpa [framesAt, Nat.min_eq_left (Nat.le_of_lt hlt)] using hskip
  | skip sync _ hsync _ =>
    have hlt := firstMatch_lt hsync
    refine scan_of_discarded (by omega) (scan_skip (by omega) fun j hj => ?_)
    rw [hrest]
    exact firstMatch_first (isWindow_startsWithSync.firstMatch_append hsync u) hj
  | drop hbuf hsync _ _ hfront =>
    have hpos := List.length_pos_iff.mpr hbuf
    refine scan_of_discarded hpos (scan_skip (by omega) fun j hj => ?_)
    obtain rfl : j = 0 := by omega
    rw [hrest, List.drop_zero]
    exact quiet_of_drop hsync hbuf hfront

/-- A pass that stops leaves nothing to be scanned in what has arrived. -/
theorem scan_of_stop (hbin : t.options.enableBinary = true) (h : t.drainPass = .stop t')
    (hrest : S.drop p = t.buffer) : scan t.options S p = [] := by
  have hcase := passCase_drainPass t
  rw [h] at hcase
  cases hcase with
  | empty hbuf => exact scan_none (by rw [hrest, hbuf]; rfl)
  | asciiWait hascii _ => rw [hbin] at hascii; exact absurd hascii (by simp)
  | await _ hsync hwait =>
    exact scan_await (by rw [hrest]; exact hsync) (by rw [hrest]; exact hwait)
  | hold _ hsync _ _ => exact scan_none (by rw [hrest]; exact hsync)

end Pass

/-! ### Runs -/

/-- **The frames of a run, with their positions in the stream, are those of the scanner.** -/
theorem framesAt_history_eq_scan (strict : Bool) (max : ℕ) (calls : List (Call UInt8)) :
    framesAt 0 (history.run (calls ++ [.drain]) (fresh (binaryOptions strict max))).1 =
      scan (binaryOptions strict max) (Call.received calls) 0 := by
  obtain ⟨⟨ho, hrest, hscan⟩, t₀, hstop⟩ := history_drain_induction
    (P := fun t u segs => t.options = binaryOptions strict max ∧
      Call.received calls = Segment.taken segs ++ (t.buffer ++ u) ∧
      scan (binaryOptions strict max) (Call.received calls) 0 = framesAt 0 segs ++
        scan (binaryOptions strict max) (Call.received calls) (Segment.taken segs).length)
    (fun t c u segs ⟨ho, hrest, hscan⟩ => ⟨ho, by simpa using hrest, hscan⟩)
    (fun t t' u segs hstop ⟨ho, hrest, hscan⟩ => by
      obtain ⟨ho', hbuf⟩ := buffer_of_stop hstop
      exact ⟨by rw [ho', ho], by rw [hbuf]; exact hrest, hscan⟩)
    (fun t out t' u segs hnext ⟨ho, hrest, hscan⟩ => by
      obtain ⟨hseg, -⟩ := segmentCase_of_next (by rw [ho]; rfl) hnext
      obtain ⟨hbuf, ho'⟩ := hseg.buffer_eq
      refine ⟨by rw [ho', ho], ?_, ?_⟩
      · rw [hrest, hbuf]
        simp
      · have hdrop : (Call.received calls).drop (Segment.taken segs).length = t.buffer ++ u := by
          rw [hrest, List.drop_left]
        have hpass := scan_of_segment hseg hdrop
        rw [ho] at hpass
        rw [hscan, hpass, framesAt_append]
        simp)
    calls (fresh (binaryOptions strict max)) ⟨rfl, by simp, by simp [framesAt]⟩
  obtain ⟨ho₀, hbuf₀⟩ := buffer_of_stop hstop
  have hend := scan_of_stop (S := Call.received calls) (by rw [← ho₀, ho]; rfl) hstop
    (by rw [hrest, List.drop_left, hbuf₀, List.append_nil])
  rw [← ho₀, ho] at hend
  rw [hscan, hend, List.append_nil]

/-- **Chunking does not matter to frames.** The frames handed out by a run that ends in a drain are
those that the scanner reads off the stream. -/
theorem binaryFrames_run_eq_scan (strict : Bool) (max : ℕ) (calls : List (Call UInt8)) :
    binaryFrames (run (calls ++ [.drain]) (fresh (binaryOptions strict max))).1 =
      (scan (binaryOptions strict max) (Call.received calls) 0).map Prod.snd := by
  rw [run_eq_history, binaryFrames_events _ 0, framesAt_history_eq_scan]

end UnicoreGnss
