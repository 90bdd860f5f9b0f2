import UnicoreGnss.Transport.Noise

/-!
# Encode and deliver

A sender lays out messages one after the other: frames as `makeBinaryFrame` does, and text lines
ended by LF or CRLF. `run_encode` says that however the bytes are cut into reads, the transport
hands out these messages and nothing else, and its health counters stay clean.

The invariant `Delivering` splits the messages into those handed out and those to come. The bytes
in the buffer and the bytes still to arrive are together the encoding of the messages to come, so a
pass always looks at a beginning of the next message; `passFrame` and `passLine` say that it then
takes that message whole or waits for more of it.

## Main definitions

* `Message`, `Message.encode`, `Message.event` — messages, their bytes and their events

## Main results

* `Message.pass` — one pass at the beginning of a message
* `run_encode` — the round trip
-/

namespace UnicoreGnss

open FirstMatch UnicoreTransport

/-- What a sender can send. -/
inductive Message where
  /-- A binary frame. -/
  | frame (messageId : UInt16) (payload : Bytes) (header : BinaryHeaderOverrides)
  /-- A text line and whether it ends in CRLF. -/
  | line (text : Bytes) (crlf : Bool)
  deriving DecidableEq, Repr

namespace Message

/-- The part of a line's encoding in front of the LF. -/
def lineBody (text : Bytes) (crlf : Bool) : Bytes := text ++ if crlf then [cr] else []

/-- The bytes of a message. -/
def encode : Message → Bytes
  | frame messageId payload header => makeBinaryFrame messageId payload true header
  | line text crlf => lineBody text crlf ++ [lf]

/-- The event of a message. -/
def event : Message → UnicoreTransportEvent
  | frame messageId payload header => .binaryFrame (sentFrame messageId payload header)
  | line text _ => .asciiLine text

/-- A frame that fits, or a line that is a sentence and holds neither an LF nor a sync. -/
def WellFormed (max : ℕ) : Message → Prop
  | frame _ payload _ => 28 + payload.length ≤ min max 65563
  | line text _ => startsSentence text = true ∧ lf ∉ text ∧ findBinarySync text = none ∧
      text.getLast? ≠ some cr

instance (max : ℕ) : (m : Message) → Decidable (m.WellFormed max)
  | frame _ _ _ => inferInstanceAs (Decidable (_ ≤ _))
  | line _ _ => inferInstanceAs (Decidable (_ ∧ _))

/-- The number of frames among messages. -/
def frameCount (ms : List Message) : ℕ :=
  ms.countP fun
    | frame _ _ _ => true
    | line _ _ => false

/-- The bytes of messages sent one after the other. -/
def encodeAll (ms : List Message) : Bytes := ms.flatMap encode

/-! ### Lines -/

section Line

variable {text u : Bytes} {crlf : Bool} {max : ℕ}

theorem lf_notMem_lineBody (crlf : Bool) (h : lf ∉ text) : lf ∉ lineBody text crlf := by
  have hcr : lf ∉ (if crlf then [cr] else []) := by cases crlf <;> decide
  rw [lineBody, List.mem_append, not_or]
  exact ⟨h, hcr⟩

/-- The first LF of a line and what follows it. -/
theorem findNewline_encode_line (h : lf ∉ text) :
    findNewline (lineBody text crlf ++ lf :: u) = some (lineBody text crlf).length := by
  have hbody := findNewline_eq_none_iff.mpr (lf_notMem_lineBody crlf h)
  refine firstMatch_eq_some_iff.mpr ⟨by simp, by rw [List.drop_left]; rfl, fun j hj => ?_⟩
  rw [List.drop_append_of_le_length (Nat.le_of_lt hj), isWindow_startsWithLf.append _ (by
    rw [List.length_drop]; omega)]
  exact firstMatch_eq_none_iff.mp hbody j hj

/-- **No sync starts in a line**, not even one that would end behind it. -/
theorem quiet_encode_line (hlf : lf ∉ text) (hsync : findBinarySync text = none) {j : ℕ}
    (hj : j ≤ (lineBody text crlf).length) :
    startsWithSync ((lineBody text crlf ++ lf :: u).drop j) = false := by
  rw [← Bool.not_eq_true]
  intro h
  obtain ⟨-, -, h2⟩ := getElem?_of_startsWithSync h
  have hnl : (lineBody text crlf ++ lf :: u)[(lineBody text crlf).length]? = some lf :=
    getElem?_newline (findNewline_encode_line hlf)
  -- the sync ends in front of the LF
  have hbefore : j + 3 ≤ (lineBody text crlf).length := by
    by_contra hpast
    rw [startsWithSync_of_lf hnl hj (by omega)] at h
    exact Bool.false_ne_true h
  -- and in front of the CR
  have hinside : j + 3 ≤ text.length := by
    by_contra hpast
    cases crlf with
    | false => simp [lineBody] at hbefore; omega
    | true =>
      have hj2 : j + 2 = text.length := by simp [lineBody] at hbefore; omega
      rw [hj2, List.getElem?_append_left (by simp [lineBody])] at h2
      simp [lineBody, cr] at h2
  have hsplit : lineBody text crlf ++ lf :: u =
      text ++ ((if crlf then [cr] else []) ++ lf :: u) := by
    rw [lineBody, List.append_assoc]
  rw [hsplit, List.drop_append_of_le_length (by omega),
    isWindow_startsWithSync.append _ (by rw [List.length_drop]; omega),
    firstMatch_eq_none_iff.mp hsync j (by omega)] at h
  exact Bool.false_ne_true h

theorem findBinarySync_encode_line (hlf : lf ∉ text) (hsync : findBinarySync text = none) {j : ℕ}
    (h : findBinarySync (lineBody text crlf ++ lf :: u) = some j) :
    (lineBody text crlf).length < j := by
  by_contra hle
  have hat := firstMatch_holds h
  rw [quiet_encode_line hlf hsync (Nat.le_of_not_lt hle)] at hat
  exact Bool.false_ne_true hat

theorem ne_nil_of_startsSentence (h : startsSentence text = true) : text ≠ [] := by
  rintro rfl
  simp [startsSentence] at h

/-- The event of a line is its text. -/
theorem lineEvents_lineBody (hne : text ≠ []) (hlast : text.getLast? ≠ some cr) :
    lineEvents (lineBody text crlf) = [.asciiLine text] := by
  cases crlf <;> simp [lineEvents, lineBody, hne, hlast]

end Line

/-! ### One pass at the beginning of a message -/

/-- What a pass at the beginning of `m` does: it waits for more of it, or hands it out. -/
inductive Delivers (m : Message) (t : UnicoreTransport) (u tail : Bytes) :
    Pass UnicoreTransport UnicoreTransportEvent → Prop
  /-- Not all of the message is there. -/
  | wait (hlen : t.buffer.length < m.encode.length) : Delivers m t u tail (.stop t)
  /-- Not all of the message is there, but its sync is. -/
  | waitSync (hlen : t.buffer.length < m.encode.length)
      (hsync : startsWithSync t.buffer = true) : Delivers m t u tail (.stop t.countSyncCandidate)
  /-- The message is a frame. -/
  | frame (hframe : frameCount [m] = 1) (hsync : startsWithSync t.buffer = true)
      (htail : t.takeFrame.buffer ++ u = tail) :
      Delivers m t u tail (.next [m.event] t.countSyncCandidate.takeFrame)
  /-- The message is a line. -/
  | line (n : ℕ) (hline : frameCount [m] = 0) (hsync : startsWithSync t.buffer = false)
      (htail : (t.takeLine n).buffer ++ u = tail) :
      Delivers m t u tail (.next [m.event] (t.takeLine n))

section Pass

variable {max : ℕ} {t : UnicoreTransport} {u tail : Bytes}

/-- One pass at the beginning of a frame. -/
theorem passFrame {messageId : UInt16} {payload : Bytes} {header : BinaryHeaderOverrides}
    (hwf : (Message.frame messageId payload header).WellFormed max)
    (hbin : t.options.enableBinary = true) (hmax : t.options.binaryMaxFrameSize = max)
    (hrest : t.buffer ++ u = (Message.frame messageId payload header).encode ++ tail) :
    Delivers (.frame messageId payload header) t u tail t.drainPass := by
  obtain ⟨hfit, h16⟩ : 28 + payload.length ≤ max ∧ payload.length < 2 ^ 16 := by
    simp only [WellFormed] at hwf
    omega
  have hlenEnc : (Message.frame messageId payload header).encode.length = 28 + payload.length :=
    length_makeBinaryFrame
  have hvalid : ValidFrame (makeBinaryFrame messageId payload true header) :=
    validFrame_makeBinaryFrame h16
  obtain ⟨hsyncS, hsizeS, hcrcS, hdecS⟩ := hvalid.append tail
  rw [decodeFrame_makeBinaryFrame h16] at hdecS
  rw [length_makeBinaryFrame, ← encode, ← hrest] at hsizeS
  rw [← encode, ← hrest] at hsyncS hcrcS hdecS
  have hzero : startsWithSync (t.buffer ++ u) = true := by simpa using firstMatch_holds hsyncS
  have hsize : 8 ≤ t.buffer.length → frameSize t.buffer = 28 + payload.length := fun h => by
    rw [← hsizeS, frameSize_append h]
  have hcase := passCase_drainPass t
  generalize t.drainPass = pass at hcase ⊢
  cases hcase with
  | empty hbuf => exact .wait (by rw [hbuf, hlenEnc, List.length_nil]; omega)
  | asciiWait hascii => rw [hbin] at hascii; exact absurd hascii (by simp)
  | asciiLine _ hascii => rw [hbin] at hascii; exact absurd hascii (by simp)
  | await _ hsync hwait =>
    have hthree := isWindow_startsWithSync.le_length (firstMatch_holds hsync)
    refine .waitSync ?_ (by simpa using firstMatch_holds hsync)
    rcases hwait with h | ⟨-, h⟩
    · omega
    · by_cases h8 : 8 ≤ t.buffer.length
      · rw [hsize h8] at h; omega
      · omega
  | tooLarge _ _ hlen hlarge => rw [hsize (by omega)] at hlarge; omega
  | crcReject _ _ _ hlen hcrc =>
    rw [(decode_append hlen u).1, hcrc] at hcrcS
    exact absurd hcrcS (by simp)
  | frame _ hsync _ hlen _ =>
    have hmin := le_frameSize t.buffer
    have hfs := hsize (by omega)
    rw [show decodeFrame t.buffer = sentFrame messageId payload header by
      rw [← (decode_append hlen u).2, hdecS]]
    refine .frame rfl (by simpa using firstMatch_holds hsync) ?_
    rw [buffer_takeFrame, ← List.drop_append_of_le_length hlen, hrest, hfs, ← hlenEnc,
      List.drop_left]
  | frameLenient _ _ _ hlen hcrc _ =>
    rw [(decode_append hlen u).1, hcrc] at hcrcS
    exact absurd hcrcS (by simp)
  | line newline _ hnl hfirst =>
    have hquiet := quiet_of_line (u := u) hnl hfirst (Nat.succ_pos _)
    rw [List.drop_zero, hzero] at hquiet
    exact absurd hquiet (by simp)
  | skip sync _ hpos hsync =>
    have hsame := isWindow_startsWithSync.firstMatch_append hsync u
    rw [← findBinarySync, hsyncS] at hsame
    exact absurd (Option.some.inj hsame) (by omega)
  | hold _ hsync =>
    refine .wait ?_
    have hpast := isWindow_startsWithSync.length_lt_of_append hsync hsyncS
    omega
  | drop _ hbuf hsync _ _ hfront =>
    rw [quiet_of_drop hsync hbuf hfront] at hzero
    exact absurd hzero (by simp)

/-- One pass at the beginning of a line. -/
theorem passLine {text : Bytes} {crlf : Bool} (hwf : (Message.line text crlf).WellFormed max)
    (hbin : t.options.enableBinary = true)
    (hrest : t.buffer ++ u = (Message.line text crlf).encode ++ tail) :
    Delivers (.line text crlf) t u tail t.drainPass := by
  obtain ⟨hsentence, hlf, hnosync, hlast⟩ := hwf
  have hne := ne_nil_of_startsSentence hsentence
  have hrest : t.buffer ++ u = lineBody text crlf ++ lf :: tail := by
    simpa [encode] using hrest
  have hlenEnc : (Message.line text crlf).encode.length = (lineBody text crlf).length + 1 := by
    simp [encode]
  have hnlS : findNewline (t.buffer ++ u) = some (lineBody text crlf).length := by
    rw [hrest, findNewline_encode_line hlf]
  have hfar : ∀ {sync}, findBinarySync t.buffer = some sync →
      (lineBody text crlf).length < sync := fun hsync =>
    findBinarySync_encode_line (u := tail) hlf hnosync
      (by rw [← hrest]; exact isWindow_startsWithSync.firstMatch_append hsync u)
  have hzero : ¬findBinarySync t.buffer = some 0 := fun h => absurd (hfar h) (by omega)
  have hcase := passCase_drainPass t
  generalize t.drainPass = pass at hcase ⊢
  cases hcase with
  | empty hbuf => exact .wait (by rw [hbuf, hlenEnc, List.length_nil]; omega)
  | asciiWait hascii => rw [hbin] at hascii; exact absurd hascii (by simp)
  | asciiLine _ hascii => rw [hbin] at hascii; exact absurd hascii (by simp)
  | await _ hsync => exact absurd hsync hzero
  | tooLarge _ hsync => exact absurd hsync hzero
  | crcReject _ hsync => exact absurd hsync hzero
  | frame _ hsync => exact absurd hsync hzero
  | frameLenient _ hsync => exact absurd hsync hzero
  | line newline _ hnl _ =>
    have hsame := isWindow_startsWithLf.firstMatch_append hnl u
    obtain rfl : (lineBody text crlf).length = newline := by
      rw [← findNewline, hnlS] at hsame
      exact Option.some.inj hsame
    have hlt := firstMatch_lt hnl
    have htake : t.buffer.take (lineBody text crlf).length = lineBody text crlf := by
      have happend : (t.buffer ++ u).take (lineBody text crlf).length =
          t.buffer.take (lineBody text crlf).length :=
        List.take_append_of_le_length (Nat.le_of_lt hlt)
      rw [← happend, hrest, List.take_left]
    rw [htake, lineEvents_lineBody hne hlast]
    refine .line _ rfl ?_ ?_
    · rw [← Bool.not_eq_true]
      intro h
      exact hzero ((firstMatch_eq_zero_iff (List.length_pos_iff.mp (by omega))).mpr h)
    · rw [buffer_takeLine, ← List.drop_append_of_le_length hlt, hrest,
        Nat.succ_eq_add_one, ← List.drop_drop, List.drop_left]
      rfl
  | skip sync _ _ hsync hfirst =>
    have hadd := isWindow_startsWithSync.add_le hsync
    have hpast := hfar hsync
    have hnl := isWindow_startsWithLf.firstMatch_of_append hnlS (by omega)
    exact absurd (hfirst _ hnl) (by omega)
  | hold _ _ hnl =>
    have hpast := isWindow_startsWithLf.length_lt_of_append hnl hnlS
    exact .wait (by omega)
  | drop _ hbuf _ _ hstart =>
    have hbodyne : lineBody text crlf ≠ [] := by simp [lineBody, hne]
    rw [← startsSentence_append hbuf u, hrest, startsSentence_append hbodyne, lineBody,
      startsSentence_append hne, hsentence] at hstart
    exact absurd hstart (by simp)

/-- **One pass at the beginning of a message.** -/
theorem pass {m : Message} (hwf : m.WellFormed max) (hbin : t.options.enableBinary = true)
    (hmax : t.options.binaryMaxFrameSize = max) (hrest : t.buffer ++ u = m.encode ++ tail) :
    Delivers m t u tail t.drainPass := by
  cases m with
  | frame messageId payload header => exact passFrame hwf hbin hmax hrest
  | line text crlf => exact passLine hwf hbin hrest

end Pass

end Message

/-! ### Runs -/

section Run

variable {strict : Bool} {max : ℕ}

/-- The transport in the middle of a transmission: `sent` has been handed out, `rest` has not. -/
structure Delivering (strict : Bool) (max : ℕ) (sent rest : List Message) (t : UnicoreTransport)
    (u : Bytes) (os : List UnicoreTransportEvent) : Prop where
  /-- Options are fixed. -/
  options : t.options = binaryOptions strict max
  /-- What is buffered and what is to come are the messages not yet handed out. -/
  bytes : t.buffer ++ u = Message.encodeAll rest
  /-- The events are those of the messages handed out. -/
  events : os = sent.map Message.event
  /-- Nothing was refused. -/
  crcErrors : t.binaryCounters.crcErrors = 0
  /-- Nothing was thrown away. -/
  resyncCount : t.binaryCounters.resyncCount = 0
  /-- No reason was counted. -/
  reasons : t.binaryCounters.frameParseErrorsByReason = fun _ => 0
  /-- Every frame was counted. -/
  frames : t.binaryCounters.framesTotal = Message.frameCount sent
  /-- Every sync was counted, that of a frame not yet complete included. -/
  candidates : t.binaryCounters.syncCandidates =
    Message.frameCount sent + t.countedSyncCandidate.toNat
  /-- Only a sync at the front is counted ahead of its frame. -/
  counted : t.countedSyncCandidate = true → startsWithSync t.buffer = true

/-- The beginning of the transmission. -/
theorem delivering_fresh {ms : List Message} :
    Delivering strict max [] ms (fresh (binaryOptions strict max)) (Message.encodeAll ms) [] where
  options := rfl
  bytes := rfl
  events := rfl
  crcErrors := rfl
  resyncCount := rfl
  reasons := rfl
  frames := rfl
  candidates := rfl
  counted h := absurd h (by simp [fresh])

section Step

variable {sent rest : List Message} {m : Message} {t t' : UnicoreTransport} {u c : Bytes}
  {os out : List UnicoreTransportEvent}

/-- The arrival of input. -/
theorem Delivering.push (h : Delivering strict max sent rest t (c ++ u) os) :
    Delivering strict max sent rest (t.append c) u os where
  options := h.options
  bytes := by rw [buffer_append, List.append_assoc, h.bytes]
  events := h.events
  crcErrors := h.crcErrors
  resyncCount := h.resyncCount
  reasons := h.reasons
  frames := h.frames
  candidates := h.candidates
  counted hc := by
    have hsync := h.counted hc
    rw [buffer_append, isWindow_startsWithSync.append c (isWindow_startsWithSync.le_length hsync),
      hsync]

/-- Counting the sync at the front. -/
theorem Delivering.countSyncCandidate (h : Delivering strict max sent rest t u os)
    (hsync : startsWithSync t.buffer = true) :
    Delivering strict max sent rest t.countSyncCandidate u os ∧
      t.countSyncCandidate.countedSyncCandidate = true := by
  cases hc : t.countedSyncCandidate with
  | true => simpa [UnicoreTransport.countSyncCandidate, hc] using h
  | false =>
    have hcand := h.candidates
    rw [hc] at hcand
    rw [UnicoreTransport.countSyncCandidate, hc, if_neg Bool.false_ne_true]
    exact ⟨{ h with candidates := by rw [hcand]; rfl, counted := fun _ => hsync }, rfl⟩

theorem Message.frameCount_append (ms ms' : List Message) :
    Message.frameCount (ms ++ ms') = Message.frameCount ms + Message.frameCount ms' :=
  List.countP_append

/-- A pass that stops. -/
theorem Delivering.stop (hwf : ∀ m ∈ rest, m.WellFormed max)
    (h : Delivering strict max sent rest t u os) (hpass : t.drainPass = .stop t') :
    Delivering strict max sent rest t' u os := by
  cases rest with
  | nil =>
    have hbuf : t.buffer = [] := (List.append_eq_nil_iff.mp h.bytes).1
    rw [drainPass, if_pos hbuf] at hpass
    cases hpass
    exact h
  | cons m rest =>
    have hd := Message.pass (hwf m List.mem_cons_self) (by rw [h.options]; rfl)
      (by rw [h.options]; rfl) h.bytes
    rw [hpass] at hd
    cases hd with
    | wait => exact h
    | waitSync _ hsync => exact (h.countSyncCandidate hsync).1

/-- A pass that goes on hands out the next message. -/
theorem Delivering.next (hwf : ∀ m ∈ rest, m.WellFormed max)
    (h : Delivering strict max sent rest t u os) (hpass : t.drainPass = .next out t') :
    ∃ m rest', rest = m :: rest' ∧ Delivering strict max (sent ++ [m]) rest' t' u (os ++ out) := by
  cases rest with
  | nil =>
    have hbuf : t.buffer = [] := (List.append_eq_nil_iff.mp h.bytes).1
    rw [drainPass, if_pos hbuf] at hpass
    cases hpass
  | cons m rest =>
    refine ⟨m, rest, rfl, ?_⟩
    have hd := Message.pass (hwf m List.mem_cons_self) (by rw [h.options]; rfl)
      (by rw [h.options]; rfl) h.bytes
    rw [hpass] at hd
    cases hd with
    | frame hframe hsync htail =>
      obtain ⟨h₁, hcounted⟩ := h.countSyncCandidate hsync
      exact { h₁ with
        bytes := by rw [buffer_takeFrame, buffer_countSyncCandidate]; exact htail
        events := by rw [h₁.events, List.map_append, List.map_singleton]
        frames := by rw [Message.frameCount_append, hframe, ← h₁.frames]; rfl
        candidates := by
          rw [Message.frameCount_append, hframe]
          exact h₁.candidates.trans (by rw [hcounted]; rfl)
        counted := fun hc => absurd hc (by simp [takeFrame]) }
    | line n hline hsync htail =>
      have hcounted : t.countedSyncCandidate = false := by
        rw [← Bool.not_eq_true]
        intro hc
        rw [h.counted hc] at hsync
        exact absurd hsync (by simp)
      exact { h with
        bytes := htail
        events := by rw [h.events, List.map_append, List.map_singleton]
        frames := by rw [Message.frameCount_append, hline, ← h.frames]; rfl
        candidates := by
          rw [Message.frameCount_append, hline]
          exact h.candidates.trans (by rw [hcounted]; rfl)
        counted := fun hc => absurd hc (by simp [takeLine]) }

/-- A pass that stops on all there is to come leaves nothing to hand out. -/
theorem Delivering.rest_eq_nil (hwf : ∀ m ∈ rest, m.WellFormed max)
    (h : Delivering strict max sent rest t' [] os) (hpass : t.drainPass = .stop t') :
    rest = [] := by
  cases rest with
  | nil => rfl
  | cons m rest =>
    obtain ⟨ho, hbuf⟩ := buffer_of_stop hpass
    have ho : t.options = binaryOptions strict max := by rw [← ho, h.options]
    have hbytes : t.buffer ++ [] = m.encode ++ Message.encodeAll rest := by
      rw [← hbuf, h.bytes, Message.encodeAll, Message.encodeAll, List.flatMap_cons]
    have hd := Message.pass (hwf m List.mem_cons_self) (by rw [ho]; rfl) (by rw [ho]; rfl) hbytes
    have hle : m.encode.length ≤ t.buffer.length := by
      rw [← List.append_nil t.buffer, hbytes, List.length_append]
      omega
    rw [hpass] at hd
    cases hd with
    | wait hlen => omega
    | waitSync hlen _ => omega

end Step

/-- **The round trip.** However the encodings of messages are cut into reads, the transport hands
out exactly these messages, keeps nothing back and counts nothing but their frames. -/
theorem run_encode {ms : List Message} (hwf : ∀ m ∈ ms, m.WellFormed max)
    {calls : List (Call UInt8)} (hcalls : Call.received calls = Message.encodeAll ms) :
    let r := run (calls ++ [.drain]) (fresh (binaryOptions strict max))
    r.1 = ms.map Message.event ∧ r.2.buffer = [] ∧
      r.2.binaryCounters.crcErrors = 0 ∧ r.2.binaryCounters.resyncCount = 0 ∧
      (r.2.binaryCounters.frameParseErrorsByReason = fun _ => 0) ∧
      r.2.binaryCounters.framesTotal = Message.frameCount ms ∧
      r.2.binaryCounters.syncCandidates = Message.frameCount ms := by
  intro r
  have hsub : ∀ {sent rest : List Message}, ms = sent ++ rest → ∀ m ∈ rest, m.WellFormed max :=
    fun heq m hm => hwf m (heq ▸ List.mem_append_right _ hm)
  obtain ⟨⟨sent, rest, hms, hend⟩, t₀, hstop⟩ := reader.run_drain_induction
    (P := fun t u os => ∃ sent rest, ms = sent ++ rest ∧ Delivering strict max sent rest t u os)
    (fun t c u os ⟨sent, rest, hms, h⟩ => ⟨sent, rest, hms, h.push⟩)
    (fun t t' u os hpass ⟨sent, rest, hms, h⟩ => ⟨sent, rest, hms, h.stop (hsub hms) hpass⟩)
    (fun t out t' u os hpass ⟨sent, rest, hms, h⟩ => by
      obtain ⟨m, rest', rfl, h'⟩ := h.next (hsub hms) hpass
      exact ⟨sent ++ [m], rest', by simpa using hms, h'⟩)
    calls (fresh (binaryOptions strict max)) ⟨[], ms, rfl, hcalls ▸ delivering_fresh⟩
  have hrest := hend.rest_eq_nil (hsub hms) hstop
  subst hrest
  obtain rfl : ms = sent := by simpa using hms
  have hbuf : r.2.buffer = [] := (List.append_eq_nil_iff.mp hend.bytes).1
  have hcounted : r.2.countedSyncCandidate = false := by
    rw [← Bool.not_eq_true]
    intro hc
    have hsync := hend.counted hc
    rw [hbuf] at hsync
    exact absurd hsync (by decide)
  refine ⟨hend.events, hbuf, hend.crcErrors, hend.resyncCount, hend.reasons, hend.frames, ?_⟩
  have hcand := hend.candidates
  rw [hcounted] at hcand
  exact hcand

/-- A frame whose payload holds an LF and a sync, between two sentences. -/
theorem run_encode_hybrid :
    let ms : List Message :=
      [.line [dollar, 0x41] true, .frame 1021 [lf, 0xAA, 0x44, 0xB5, dollar] {}, .line [hash] false]
    let r := run ([.push (Message.encodeAll ms)] ++ [.drain]) (fresh (binaryOptions true 4096))
    r.1 = ms.map Message.event ∧ r.2.buffer = [] ∧
      r.2.binaryCounters.crcErrors = 0 ∧ r.2.binaryCounters.resyncCount = 0 ∧
      (r.2.binaryCounters.frameParseErrorsByReason = fun _ => 0) ∧
      r.2.binaryCounters.framesTotal = Message.frameCount ms ∧
      r.2.binaryCounters.syncCandidates = Message.frameCount ms :=
  run_encode (by decide) (by simp)

end Run

end UnicoreGnss
