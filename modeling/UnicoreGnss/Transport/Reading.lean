import UnicoreGnss.Transport.History

/-!
# Reading a byte string

What the loop does in binary mode depends on the buffer alone. `readSegment` is the segment that a
byte string determines, with the number of bytes needed to determine it; where there is none, a
byte that can begin neither a sentence nor a sync may be given up. `bytesReader` is the transport
reduced to this: its state is the buffer, and `history_run_eq` says that its runs are the histories
of the transport.

The `need` of a segment is what makes it a statement about a stream that arrives in pieces: with
fewer bytes the segment is not taken, with that many it is, whatever follows (`ReadCase.append`,
`ReadCase.of_append`).

## Main definitions

* `readSegment`, `givesUp`, `passSegment` — one pass, on a byte string
* `bytesReader` — the reader whose state is the buffer

## Main results

* `readCase_iff` — the inversion lemma of `readSegment`
* `history_run_eq` — histories of the transport are runs of `bytesReader`
-/

namespace UnicoreGnss

open FirstMatch UnicoreTransport

/-! ### One pass on a byte string -/

/-- The segment at the front of `r`, with the number of bytes that determine it. -/
def readSegment (o : UnicoreTransportOptions) (r : Bytes) : Option (ℕ × Segment) :=
  match findBinarySync r, findNewline r with
  | some 0, _ =>
    if r.length < 28 then none
    else if o.binaryMaxFrameSize < frameSize r then some (28, .discarded (r.take 1))
    else if r.length < frameSize r then none
    else if crcOk r = false ∧ o.strictBinaryCrc = true then
      some (frameSize r, .discarded (r.take 1))
    else some (frameSize r, .frame (r.take (frameSize r)))
  | none, none => none
  | none, some newline => some (newline + 1, .line (r.take newline))
  | some (sync + 1), none => some (sync + 1 + 3, .discarded (r.take (sync + 1)))
  | some (sync + 1), some newline =>
    if newline < sync + 1 then some (newline + 1, .line (r.take newline))
    else some (sync + 1 + 3, .discarded (r.take (sync + 1)))

/-- Can the first byte begin neither a sentence nor a sync? -/
def givesUp (b : Bytes) : Bool :=
  b ≠ [] && !startsSentence b && !beginsWithBinarySyncPrefix b

/-- The segment taken by a pass whose buffer is `b`. -/
def passSegment (o : UnicoreTransportOptions) (b : Bytes) : Option Segment :=
  match readSegment o b with
  | some (_, seg) => some seg
  | none => if givesUp b then some (.discarded (b.take 1)) else none

/-- The ways in which a byte string determines a segment. -/
inductive ReadCase (o : UnicoreTransportOptions) (r : Bytes) : ℕ → Segment → Prop
  /-- A refused sync: too large a frame. -/
  | tooLarge (hsync : findBinarySync r = some 0) (hlen : 28 ≤ r.length)
      (hsize : o.binaryMaxFrameSize < frameSize r) : ReadCase o r 28 (.discarded (r.take 1))
  /-- A refused sync: a wrong CRC. -/
  | crcReject (hsync : findBinarySync r = some 0) (hsize : frameSize r ≤ o.binaryMaxFrameSize)
      (hlen : frameSize r ≤ r.length) (hcrc : crcOk r = false)
      (hstrict : o.strictBinaryCrc = true) :
      ReadCase o r (frameSize r) (.discarded (r.take 1))
  /-- A frame. -/
  | frame (hsync : findBinarySync r = some 0) (hsize : frameSize r ≤ o.binaryMaxFrameSize)
      (hlen : frameSize r ≤ r.length) (hcrc : crcOk r = true ∨ o.strictBinaryCrc = false) :
      ReadCase o r (frameSize r) (.frame (r.take (frameSize r)))
  /-- A line that ends before any sync. -/
  | line (newline : ℕ) (hnl : findNewline r = some newline)
      (hfirst : ∀ sync, findBinarySync r = some sync → newline < sync) :
      ReadCase o r (newline + 1) (.line (r.take newline))
  /-- Noise in front of a sync, with no line in it. -/
  | skip (sync : ℕ) (hpos : 0 < sync) (hsync : findBinarySync r = some sync)
      (hfirst : ∀ newline, findNewline r = some newline → sync ≤ newline) :
      ReadCase o r (sync + 3) (.discarded (r.take sync))

section Read

variable {o : UnicoreTransportOptions} {b r u : Bytes} {need : ℕ} {seg : Segment}

theorem readSegment_of_readCase (h : ReadCase o r need seg) :
    readSegment o r = some (need, seg) := by
  have hmin := le_frameSize r
  cases h with
  | tooLarge hsync hlen hsize =>
    simp only [readSegment, hsync]
    rw [if_neg (by omega), if_pos hsize]
  | crcReject hsync hsize hlen hcrc hstrict =>
    simp only [readSegment, hsync]
    rw [if_neg (by omega), if_neg (by omega), if_neg (by omega), if_pos ⟨hcrc, hstrict⟩]
  | frame hsync hsize hlen hcrc =>
    simp only [readSegment, hsync]
    rw [if_neg (by omega), if_neg (by omega), if_neg (by omega), if_neg]
    rintro ⟨hbad, hstrict⟩
    rcases hcrc with h | h
    · rw [h] at hbad; exact absurd hbad (by simp)
    · rw [h] at hstrict; exact absurd hstrict (by simp)
  | line newline hnl hfirst =>
    cases hsync : findBinarySync r with
    | none => simp only [readSegment, hsync, hnl]
    | some sync =>
      have hlt := hfirst sync hsync
      obtain ⟨sync, rfl⟩ : ∃ sync', sync = sync' + 1 := ⟨sync - 1, by omega⟩
      simp only [readSegment, hsync, hnl]
      rw [if_pos hlt]
  | skip sync hpos hsync hfirst =>
    obtain ⟨sync, rfl⟩ : ∃ sync', sync = sync' + 1 := ⟨sync - 1, by omega⟩
    cases hnl : findNewline r with
    | none => simp only [readSegment, hsync, hnl]
    | some newline =>
      have hle := hfirst newline hnl
      simp only [readSegment, hsync, hnl]
      rw [if_neg (by omega)]

/-- A sync at the front, and not yet all of its frame. -/
def Awaits (o : UnicoreTransportOptions) (r : Bytes) : Prop :=
  findBinarySync r = some 0 ∧
    (r.length < 28 ∨ frameSize r ≤ o.binaryMaxFrameSize ∧ r.length < frameSize r)

/-- Neither a sync nor a line. -/
def Silent (r : Bytes) : Prop := findBinarySync r = none ∧ findNewline r = none

theorem readSegment_of_awaits (h : Awaits o r) : readSegment o r = none := by
  obtain ⟨hsync, hwait⟩ := h
  simp only [readSegment, hsync]
  rcases hwait with h | ⟨hsize, h⟩
  · rw [if_pos h]
  · rw [if_neg (Nat.not_lt.mpr hsize), if_pos h, ite_self]

theorem readSegment_of_silent (h : Silent r) : readSegment o r = none := by
  obtain ⟨hsync, hnl⟩ := h
  simp only [readSegment, hsync, hnl]

/-- A byte string determines a segment, or waits at a sync, or holds neither sync nor line. -/
theorem readCase_total (o : UnicoreTransportOptions) (r : Bytes) :
    (∃ need seg, ReadCase o r need seg) ∨ Awaits o r ∨ Silent r := by
  rcases hsync : findBinarySync r with _ | _ | sync
  · cases hnl : findNewline r with
    | none => exact .inr (.inr ⟨hsync, hnl⟩)
    | some newline => exact .inl ⟨_, _, .line newline hnl (by simp [hsync])⟩
  · rcases Nat.lt_or_ge r.length 28 with hshort | hlen
    · exact .inr (.inl ⟨hsync, .inl hshort⟩)
    rcases Nat.lt_or_ge o.binaryMaxFrameSize (frameSize r) with hlarge | hsize
    · exact .inl ⟨_, _, .tooLarge hsync hlen hlarge⟩
    rcases Nat.lt_or_ge r.length (frameSize r) with hshort | hlen
    · exact .inr (.inl ⟨hsync, .inr ⟨hsize, hshort⟩⟩)
    cases hcrc : crcOk r with
    | true => exact .inl ⟨_, _, .frame hsync hsize hlen (.inl hcrc)⟩
    | false =>
      cases hstrict : o.strictBinaryCrc with
      | true => exact .inl ⟨_, _, .crcReject hsync hsize hlen hcrc hstrict⟩
      | false => exact .inl ⟨_, _, .frame hsync hsize hlen (.inr hstrict)⟩
  · by_cases hline : ∃ newline, findNewline r = some newline ∧ newline < sync + 1
    · obtain ⟨newline, hnl, hlt⟩ := hline
      refine .inl ⟨_, _, .line newline hnl fun j hj => ?_⟩
      obtain rfl : sync + 1 = j := by simpa [hsync] using hj
      exact hlt
    · refine .inl ⟨_, _, .skip (sync + 1) (Nat.succ_pos _) hsync fun newline hnl => ?_⟩
      by_contra hlt
      exact hline ⟨newline, hnl, by omega⟩

/-- **The inversion lemma** of `readSegment`. -/
theorem readCase_iff : readSegment o r = some (need, seg) ↔ ReadCase o r need seg := by
  refine ⟨fun h => ?_, readSegment_of_readCase⟩
  rcases readCase_total o r with ⟨need', seg', hcase⟩ | hawait | hsilent
  · rw [readSegment_of_readCase hcase] at h
    obtain ⟨rfl, rfl⟩ := Prod.mk.inj (Option.some.inj h)
    exact hcase
  · rw [readSegment_of_awaits hawait] at h
    exact absurd h (by simp)
  · rw [readSegment_of_silent hsilent] at h
    exact absurd h (by simp)

theorem readSegment_eq_none_iff : readSegment o r = none ↔ Awaits o r ∨ Silent r := by
  constructor
  · intro h
    rcases readCase_total o r with ⟨need, seg, hcase⟩ | hrest
    · rw [readSegment_of_readCase hcase] at h
      exact absurd h (by simp)
    · exact hrest
  · rintro (h | h)
    · exact readSegment_of_awaits h
    · exact readSegment_of_silent h

/-- A segment is a piece of the front, and is determined by what is there. -/
theorem ReadCase.bytes_eq (h : ReadCase o r need seg) :
    seg.bytes = r.take seg.bytes.length ∧ 0 < seg.bytes.length ∧ seg.bytes.length ≤ need ∧
      need ≤ r.length := by
  have hmin := le_frameSize r
  cases h with
  | tooLarge _ hlen _ => simp; omega
  | crcReject _ _ hlen _ _ => simp; omega
  | frame _ _ hlen _ => simp; omega
  | line newline hnl _ =>
    have hlt := firstMatch_lt hnl
    rw [Segment.bytes_line, ← take_succ_newline hnl, List.length_take, Nat.min_eq_left hlt]
    exact ⟨rfl, by omega, by omega, hlt⟩
  | skip sync hpos hsync _ =>
    have hadd := isWindow_startsWithSync.add_le hsync
    rw [Segment.bytes_discarded, List.length_take, Nat.min_eq_left (by omega)]
    exact ⟨rfl, hpos, by omega, hadd⟩

/-! ### Prefixes of a stream -/

theorem newline_lt_append {newline : ℕ} (hnl : findNewline b = some newline)
    (hfirst : ∀ sync, findBinarySync b = some sync → newline < sync) (u : Bytes) :
    ∀ sync, findBinarySync (b ++ u) = some sync → newline < sync := by
  intro sync hsync
  by_contra hle
  have hat := firstMatch_holds hsync
  rw [quiet_of_line hnl hfirst (by omega)] at hat
  exact Bool.false_ne_true hat

theorem sync_le_append {sync : ℕ} (hsync : findBinarySync b = some sync)
    (hfirst : ∀ newline, findNewline b = some newline → sync ≤ newline) (u : Bytes) :
    ∀ newline, findNewline (b ++ u) = some newline → sync ≤ newline := by
  intro newline hnl
  have hadd := isWindow_startsWithSync.add_le hsync
  by_contra hlt
  exact hlt (hfirst newline (isWindow_startsWithLf.firstMatch_of_append hnl (by omega)))

/-- **A segment that is determined stays what it is**, whatever follows. -/
theorem ReadCase.append (h : ReadCase o b need seg) (u : Bytes) :
    ReadCase o (b ++ u) need seg := by
  have hmin := le_frameSize b
  have hsame : ∀ n ≤ b.length, b.take n = (b ++ u).take n := fun n hn =>
    (List.take_append_of_le_length hn).symm
  cases h with
  | tooLarge hsync hlen hsize =>
    have hfs := frameSize_append (by omega : 8 ≤ b.length) u
    rw [hsame 1 (by omega)]
    exact .tooLarge (isWindow_startsWithSync.firstMatch_append hsync u)
      (by rw [List.length_append]; omega) (by rw [hfs]; exact hsize)
  | crcReject hsync hsize hlen hcrc hstrict =>
    have hfs := frameSize_append (by omega : 8 ≤ b.length) u
    rw [hsame 1 (by omega), ← hfs]
    exact .crcReject (isWindow_startsWithSync.firstMatch_append hsync u) (by rw [hfs]; exact hsize)
      (by rw [hfs, List.length_append]; omega) (by rw [(decode_append hlen u).1, hcrc]) hstrict
  | frame hsync hsize hlen hcrc =>
    have hfs := frameSize_append (by omega : 8 ≤ b.length) u
    rw [hsame _ hlen, ← hfs]
    exact .frame (isWindow_startsWithSync.firstMatch_append hsync u) (by rw [hfs]; exact hsize)
      (by rw [hfs, List.length_append]; omega) (by rw [(decode_append hlen u).1]; exact hcrc)
  | line newline hnl hfirst =>
    rw [hsame _ (Nat.le_of_lt (firstMatch_lt hnl))]
    exact .line newline (isWindow_startsWithLf.firstMatch_append hnl u)
      (newline_lt_append hnl hfirst u)
  | skip sync hpos hsync hfirst =>
    rw [hsame _ (Nat.le_of_lt (firstMatch_lt hsync))]
    exact .skip sync hpos (isWindow_startsWithSync.firstMatch_append hsync u)
      (sync_le_append hsync hfirst u)

/-- **A segment that is determined by what has arrived is taken**, whatever is still to come. -/
theorem ReadCase.of_append (h : ReadCase o (b ++ u) need seg) (hneed : need ≤ b.length) :
    ReadCase o b need seg := by
  rcases readCase_total o b with ⟨need', seg', hcase⟩ | ⟨hsync, hwait⟩ | ⟨hsync, hnl⟩
  · have hagain := readSegment_of_readCase (hcase.append u)
    rw [readSegment_of_readCase h] at hagain
    obtain ⟨rfl, rfl⟩ := Prod.mk.inj (Option.some.inj hagain)
    exact hcase
  · -- more is needed than has arrived of the frame
    exfalso
    have hsame := isWindow_startsWithSync.firstMatch_append hsync u
    have hmin := le_frameSize (b ++ u)
    have hfs : 28 ≤ b.length → frameSize (b ++ u) = frameSize b :=
      fun h => frameSize_append (by omega) u
    cases h with
    | tooLarge _ _ hsize =>
      rw [hfs hneed] at hsize
      omega
    | crcReject _ _ _ _ _ =>
      have := hfs (by omega)
      omega
    | frame _ _ _ _ =>
      have := hfs (by omega)
      omega
    | line newline _ hfirst => exact absurd (hfirst 0 hsame) (by omega)
    | skip sync hpos hsync' _ =>
      rw [findBinarySync, hsame] at hsync'
      exact absurd (Option.some.inj hsync') (by omega)
  · exfalso
    have hmin := le_frameSize (b ++ u)
    cases h with
    | tooLarge hsync' _ _ =>
      have := isWindow_startsWithSync.length_lt_of_append hsync hsync'
      omega
    | crcReject hsync' _ _ _ _ =>
      have := isWindow_startsWithSync.length_lt_of_append hsync hsync'
      omega
    | frame hsync' _ _ _ =>
      have := isWindow_startsWithSync.length_lt_of_append hsync hsync'
      omega
    | line newline hnl' _ =>
      have := isWindow_startsWithLf.length_lt_of_append hnl hnl'
      omega
    | skip sync _ hsync' _ =>
      have := isWindow_startsWithSync.length_lt_of_append hsync hsync'
      omega

/-! ### Giving bytes up -/

theorem givesUp_iff : givesUp b = true ↔
    b ≠ [] ∧ startsSentence b = false ∧ beginsWithBinarySyncPrefix b = false := by
  simp [givesUp, and_assoc]

/-- A byte that begins nothing begins nothing when more arrives. -/
theorem givesUp_append (h : givesUp b = true) (u : Bytes) : givesUp (b ++ u) = true := by
  obtain ⟨hne, hstart, hfront⟩ := givesUp_iff.mp h
  match b, hne with
  | [x], _ =>
    have hx : x ≠ 0xAA := by rintro rfl; exact absurd hfront (by decide)
    refine givesUp_iff.mpr ⟨by simp, by simpa [startsSentence] using hstart, ?_⟩
    cases u with
    | nil => exact hfront
    | cons y u => simp [beginsWithBinarySyncPrefix, binarySync, hx]
  | x :: y :: b, _ =>
    refine givesUp_iff.mpr ⟨by simp, by simpa [startsSentence] using hstart, ?_⟩
    simpa [beginsWithBinarySyncPrefix, binarySync] using hfront

end Read

/-! ### The reader whose state is the buffer -/

section Reader

variable {o : UnicoreTransportOptions} {b : Bytes} {seg : Segment}
  {t t' : UnicoreTransport} {out : List UnicoreTransportEvent}

/-- A pass takes a non-empty piece off the front. -/
theorem passSegment_bytes (h : passSegment o b = some seg) :
    seg.bytes = b.take seg.bytes.length ∧ 0 < seg.bytes.length ∧ seg.bytes.length ≤ b.length := by
  unfold passSegment at h
  cases hread : readSegment o b with
  | some p =>
    obtain ⟨need, seg'⟩ := p
    rw [hread] at h
    obtain rfl : seg' = seg := Option.some.inj h
    obtain ⟨hbytes, hpos, hle, hneed⟩ := (readCase_iff.mp hread).bytes_eq
    exact ⟨hbytes, hpos, by omega⟩
  | none =>
    rw [hread] at h
    simp only [Option.ite_none_right_eq_some, Option.some.injEq] at h
    obtain ⟨hgives, rfl⟩ := h
    have hpos := List.length_pos_iff.mpr (givesUp_iff.mp hgives).1
    rw [Segment.bytes_discarded, List.length_take, Nat.min_eq_left hpos]
    exact ⟨rfl, by omega, hpos⟩

/-- The transport reduced to its buffer. -/
def bytesReader (o : UnicoreTransportOptions) : BufferedReader UInt8 Bytes Segment :=
  .ofNext (passSegment o) (fun seg => seg.bytes.length) fun _ _ h => (passSegment_bytes h).2

theorem bytesReader_stop (h : passSegment o b = none) : (bytesReader o).pass b = .stop b :=
  BufferedReader.ofNext_stop h

theorem bytesReader_next (h : passSegment o b = some seg) :
    (bytesReader o).pass b = .next [seg] (b.drop seg.bytes.length) :=
  BufferedReader.ofNext_next h

/-- **Invariants of runs on the buffer**, with how a run that ends in a drain stops. -/
theorem bytesReader_run_induction {P : Bytes → Bytes → List Segment → Prop}
    (push : ∀ b c u segs, P b (c ++ u) segs → P (b ++ c) u segs)
    (next : ∀ b seg u segs, passSegment o b = some seg → P b u segs →
      P (b.drop seg.bytes.length) u (segs ++ [seg]))
    (calls : List (Call UInt8)) (h : P [] (Call.received calls) []) :
    P ((bytesReader o).run (calls ++ [.drain]) []).2 []
        ((bytesReader o).run (calls ++ [.drain]) []).1 ∧
      passSegment o ((bytesReader o).run (calls ++ [.drain]) []).2 = none := by
  have hstop : ∀ b b', (bytesReader o).pass b = .stop b' → b' = b ∧ passSegment o b = none := by
    intro b b' hpass
    cases hseg : passSegment o b with
    | none => rw [bytesReader_stop hseg] at hpass; cases hpass; exact ⟨rfl, rfl⟩
    | some seg => rw [bytesReader_next hseg] at hpass; cases hpass
  obtain ⟨hend, b, hlast⟩ := (bytesReader o).run_drain_induction (P := P) push
    (fun b b' u segs hpass hP => by
      obtain ⟨rfl, -⟩ := hstop b b' hpass
      exact hP)
    (fun b out b' u segs hpass hP => by
      cases hseg : passSegment o b with
      | none => rw [bytesReader_stop hseg] at hpass; cases hpass
      | some seg =>
        rw [bytesReader_next hseg] at hpass
        cases hpass
        exact next b seg u segs hseg hP)
    calls [] h
  obtain ⟨hb, hnone⟩ := hstop _ _ hlast
  exact ⟨hend, hb ▸ hnone⟩

@[simp] theorem bytesReader_push (c : Bytes) : (bytesReader o).push c b = b ++ c := rfl

/-- The segment of a pass of the transport. -/
theorem passSegment_of_next (hbin : t.options.enableBinary = true)
    (h : t.drainPass = .next out t') :
    passSegment t.options t.buffer = some (segment t out t') := by
  obtain ⟨hseg, -⟩ := segmentCase_of_next hbin h
  have hread : ∀ {need}, ReadCase t.options t.buffer need (segment t out t') →
      passSegment t.options t.buffer = some (segment t out t') := by
    intro need hcase
    rw [passSegment, readSegment_of_readCase hcase]
  generalize segment t out t' = seg at hseg hread
  cases hseg with
  | tooLarge hsync hlen hsize => exact hread (.tooLarge hsync hlen hsize)
  | crcReject hsync hsize hlen hcrc hstrict =>
    exact hread (.crcReject hsync hsize hlen hcrc hstrict)
  | frame hsync hsize hlen hcrc => exact hread (.frame hsync hsize hlen (.inl hcrc))
  | frameLenient hsync hsize hlen _ hstrict =>
    exact hread (.frame hsync hsize hlen (.inr hstrict))
  | line newline hnl hfirst => exact hread (.line newline hnl hfirst)
  | skip sync hpos hsync hfirst => exact hread (.skip sync hpos hsync hfirst)
  | drop hbuf hsync hnl hstart hfront =>
    rw [passSegment, readSegment_of_silent ⟨hsync, hnl⟩]
    exact if_pos (givesUp_iff.mpr ⟨hbuf, hstart, hfront⟩)

theorem beginsWithBinarySyncPrefix_of_sync (h : findBinarySync b = some 0) :
    beginsWithBinarySyncPrefix b = true := by
  obtain ⟨r, hr⟩ := startsWithSync_iff.mp (firstMatch_holds h)
  rw [List.drop_zero] at hr
  simp [hr, beginsWithBinarySyncPrefix, binarySync]

theorem passSegment_of_stop (hbin : t.options.enableBinary = true)
    (h : t.drainPass = .stop t') : passSegment t.options t.buffer = none := by
  have hcase := passCase_drainPass t
  rw [h] at hcase
  cases hcase with
  | empty hbuf =>
    rw [passSegment, hbuf, readSegment_of_silent ⟨rfl, rfl⟩]
    rfl
  | asciiWait hascii _ => rw [hbin] at hascii; exact absurd hascii (by simp)
  | await _ hsync hwait =>
    rw [passSegment, readSegment_of_awaits ⟨hsync, hwait⟩]
    exact if_neg (by simp [givesUp, beginsWithBinarySyncPrefix_of_sync hsync])
  | hold _ hsync hnl hfront =>
    rw [passSegment, readSegment_of_silent ⟨hsync, hnl⟩]
    refine if_neg ?_
    rcases hfront with h | h <;> simp [givesUp, h]

/-- The transport and its buffer go through the same passes. -/
theorem simulates_bytesReader (hbin : o.enableBinary = true) :
    history.Simulates (bytesReader o) fun t b => t.options = o ∧ t.buffer = b where
  push c := by
    rintro t b ⟨ho, hbuf⟩
    exact ⟨ho, by rw [history_push, buffer_append, hbuf, bytesReader_push]⟩
  stop := by
    rintro t b t' ⟨ho, hbuf⟩ h
    have hpass := reader.label_stop.mp h
    obtain ⟨ho', hbuf'⟩ := buffer_of_stop hpass
    subst ho hbuf
    exact ⟨t.buffer, bytesReader_stop (passSegment_of_stop hbin hpass), ho', hbuf'⟩
  next := by
    rintro t b segs t' ⟨ho, hbuf⟩ h
    obtain ⟨out, hpass, rfl⟩ := reader.exists_of_label_next h
    subst ho hbuf
    obtain ⟨hbytes, ho'⟩ := (segmentCase_of_next hbin hpass).1.buffer_eq
    exact ⟨_, bytesReader_next (passSegment_of_next hbin hpass), ho', by
      rw [hbytes, List.drop_left]⟩

/-- **Histories of the transport are runs on its buffer.** -/
theorem history_run_eq (hbin : o.enableBinary = true) (calls : List (Call UInt8))
    (t : UnicoreTransport) (ho : t.options = o) :
    (history.run calls t).1 = ((bytesReader o).run calls t.buffer).1 ∧
      (history.run calls t).2.buffer = ((bytesReader o).run calls t.buffer).2 := by
  obtain ⟨hout, -, hbuf⟩ := (simulates_bytesReader hbin).run calls ⟨ho, rfl⟩
  exact ⟨hout, hbuf⟩

end Reader

end UnicoreGnss
