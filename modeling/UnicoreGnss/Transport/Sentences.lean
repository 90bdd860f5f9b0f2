import UnicoreGnss.Transport.Cuts

/-!
# Which sentences are delivered

The parser takes the lines that begin with `$` or `#`. Lines are cut off at the LF, so noise in
front of a sentence is part of its line, unless it was given up before: in front of a `$` or `#`
the loop stops giving up. Whether it had the chance depends on the reads. `Place.Glued` is a line
that does not begin a sentence, but would with what can be given up gone; these are the only streams
on which the sentences delivered depend on the reads.

That a sentence behind noise is delivered as exactly that sentence is more. Some noise is never
given up, such as the first two bytes of a sync, and what is left of a refused frame can begin with
`$` or `#` itself. `Place.Noisy` is a line in which anything of this kind stands in front of a
sentence, and `DeliversSentences` fails on the streams with such a line.

## Main definitions

* `sentences` — the events the parser takes as sentences
* `Place.Glued`, `Place.Noisy` — noise and a sentence in one line
* `DeliversSentences` — every sentence is a line of its own, where it stands

## Main results

* `sentences_run_iff` — when the sentences do not depend on the reads, and when none is lost
-/

namespace UnicoreGnss

open FirstMatch UnicoreTransport

/-- Is the event a line that begins with `$` or `#`? -/
def isSentence : UnicoreTransportEvent → Bool
  | .asciiLine line => startsSentence line
  | .binaryFrame _ => false

/-- The lines that begin with `$` or `#`. -/
def sentences (events : List UnicoreTransportEvent) : List UnicoreTransportEvent :=
  events.filter isSentence

/-- The sentences of a history. -/
def Segment.sentences (segs : List Segment) : List UnicoreTransportEvent :=
  UnicoreGnss.sentences (segs.flatMap Segment.events)

/-- The sentence that a segment is. -/
def Segment.sentence? : Segment → Option Bytes
  | .line text => if startsSentence text then some text else none
  | _ => none

/-- The sentences of a history whose first byte is at position `off`, with their positions. -/
def sentencesAt : ℕ → List Segment → List (ℕ × Bytes)
  | _, [] => []
  | off, seg :: segs =>
    (seg.sentence?.map fun text => (off, text)).toList ++ sentencesAt (off + seg.bytes.length) segs

namespace Place

/-- Behind `x` there is a line that begins with bytes that can be given up, and then with `$` or
`#`. -/
def Glued (o : UnicoreTransportOptions) (x : Place) : Prop :=
  ∃ need text, readSegment o x.rest = some (need, .line text) ∧
    ∃ c k, 0 < k ∧ x.Drops c k ∧ startsSentence (x.rest.drop k) = true

/-- What follows is a sync whose frame is there and is refused for its CRC. -/
def Refused (o : UnicoreTransportOptions) (x : Place) : Prop :=
  findBinarySync x.rest = some 0 ∧ frameSize x.rest ≤ o.binaryMaxFrameSize ∧
    frameSize x.rest ≤ x.rest.length ∧ crcOk x.rest = false ∧ o.strictBinaryCrc = true

/-- The first `m` bytes behind `x` are left of a refused frame that begins at `y`. -/
def Remains (o : UnicoreTransportOptions) (y x : Place) (m : ℕ) : Prop :=
  y.Refused o ∧ Reaches o y x ∧ m + y.rest.length ≤ x.rest.length + frameSize y.rest

/-- The bytes `noise` behind the place `x` of the stream `S` are noise: first what is left of a
refused frame, if anything is, then no `$` and no `#`. -/
def IsNoise (o : UnicoreTransportOptions) (S : Bytes) (x : Place) (noise : Bytes) : Prop :=
  ∃ m, (m = 0 ∨ ∃ y, Reaches o (start S) y ∧ Remains o y x m) ∧
    ∀ byte ∈ noise.drop m, byte ≠ dollar ∧ byte ≠ hash

/-- Behind `x` there is a line in which noise stands in front of a sentence. -/
def Noisy (o : UnicoreTransportOptions) (S : Bytes) (x : Place) : Prop :=
  ∃ need noise sentence, readSegment o x.rest = some (need, .line (noise ++ sentence)) ∧
    noise ≠ [] ∧ x.IsNoise o S noise ∧ startsSentence sentence = true

end Place

/-- The run hands out `text` as a line of its own, with `rest` beginning where the line does. -/
def HandsOut (o : UnicoreTransportOptions) (S : Bytes) (calls : List (Call UInt8))
    (text rest : Bytes) : Prop :=
  ∃ before after, (history.run calls (fresh o)).1 = before ++ .line text :: after ∧
    S = Segment.taken before ++ rest ∧
    (run calls (fresh o)).1 =
      before.flatMap Segment.events ++ lineEvents text ++ after.flatMap Segment.events

/-- **Every complete sentence** of the stream `S`, with noise in front of it or without, is handed
out by every run as exactly that sentence, where it stands. -/
def DeliversSentences (o : UnicoreTransportOptions) (S : Bytes) : Prop :=
  ∀ x, Place.Reaches o (Place.start S) x → ∀ need noise sentence,
    readSegment o x.rest = some (need, .line (noise ++ sentence)) → x.IsNoise o S noise →
      startsSentence sentence = true → ∀ calls, Call.received calls = S →
        HandsOut o S (calls ++ [.drain]) sentence (x.rest.drop noise.length)

section Sentences

variable {o : UnicoreTransportOptions} {S b u text noise sentence : Bytes} {x y : Place}
  {i k need off : ℕ} {segs : List Segment} {seg : Segment}

/-! ### The sentences of a history -/

theorem Segment.sentences_append (segs segs' : List Segment) :
    Segment.sentences (segs ++ segs') = Segment.sentences segs ++ Segment.sentences segs' := by
  simp [Segment.sentences, UnicoreGnss.sentences]

theorem Segment.sentences_cons (seg : Segment) (segs : List Segment) :
    Segment.sentences (seg :: segs) = Segment.sentences [seg] ++ Segment.sentences segs :=
  Segment.sentences_append [seg] segs

theorem Segment.sentence?_line (h : startsSentence text = true) :
    (Segment.line text).sentence? = some text := if_pos h

theorem Segment.sentence?_line_eq_none (h : startsSentence text = false) :
    (Segment.line text).sentence? = none := if_neg (by rw [h]; exact Bool.false_ne_true)

/-- A line that begins with `$` or `#` is handed out as one that does. -/
theorem exists_lineEvents_eq (h : startsSentence text = true) :
    ∃ line, startsSentence line = true ∧ lineEvents text = [.asciiLine line] := by
  have hne : text ≠ [] := by
    rintro rfl
    exact absurd h (by decide)
  have hcr : text.getLast? = some cr →
      text.dropLast ≠ [] ∧ startsSentence text.dropLast = true := by
    intro hlast
    match text, hne with
    | [a], _ =>
      obtain rfl : a = cr := by simpa using hlast
      exact absurd h (by decide)
    | a :: b :: text, _ => exact ⟨by simp, h⟩
  by_cases hlast : text.getLast? = some cr
  · obtain ⟨hne', hstart⟩ := hcr hlast
    exact ⟨text.dropLast, hstart, by simp [lineEvents, hlast, hne']⟩
  · exact ⟨text, h, by simp [lineEvents, hlast, hne]⟩

/-- What is handed out for a segment that is no sentence is none. -/
theorem Segment.sentences_eq_nil (h : seg.sentence? = none) : Segment.sentences [seg] = [] := by
  cases seg with
  | discarded bytes => rfl
  | frame bytes => rfl
  | line text =>
    have hstart : startsSentence text = false := by
      by_contra hstart
      rw [Segment.sentence?_line (by simpa using hstart)] at h
      exact absurd h nofun
    have hdrop : startsSentence text.dropLast = false := by
      match text with
      | [] => rfl
      | [a] => rfl
      | a :: b :: text => exact hstart
    simp only [Segment.sentences, UnicoreGnss.sentences, List.flatMap_cons, List.flatMap_nil,
      List.append_nil, Segment.events, lineEvents]
    split
    · split
      · rfl
      · simp [isSentence, hdrop]
    · split
      · rfl
      · simp [isSentence, hstart]

/-- What is handed out for a sentence is one. -/
theorem Segment.sentences_eq (h : seg.sentence? = some text) :
    Segment.sentences [seg] = lineEvents text := by
  cases seg with
  | discarded bytes => exact absurd h nofun
  | frame bytes => exact absurd h nofun
  | line text' =>
    obtain ⟨hstart, rfl⟩ : startsSentence text' = true ∧ text' = text := by
      simpa [Segment.sentence?] using h
    obtain ⟨line, hline, hevents⟩ := exists_lineEvents_eq hstart
    simp [Segment.sentences, UnicoreGnss.sentences, Segment.events, hevents, isSentence, hline]

theorem sentencesAt_append (off : ℕ) (segs segs' : List Segment) :
    sentencesAt off (segs ++ segs') =
      sentencesAt off segs ++ sentencesAt (off + (Segment.taken segs).length) segs' := by
  induction segs generalizing off with
  | nil => rfl
  | cons seg segs ih =>
    have htaken : Segment.taken (seg :: segs) = seg.bytes ++ Segment.taken segs := rfl
    rw [List.cons_append, sentencesAt, sentencesAt, ih, htaken, List.length_append,
      List.append_assoc, Nat.add_assoc]

/-- A segment that is no sentence. -/
theorem sentencesAt_cons_of_none (h : seg.sentence? = none) (segs : List Segment) :
    sentencesAt off (seg :: segs) = sentencesAt (off + seg.bytes.length) segs := by
  rw [sentencesAt, h]
  rfl

/-- One more segment that is no sentence. -/
theorem sentencesAt_concat_of_none (h : seg.sentence? = none) (segs : List Segment) :
    sentencesAt off (segs ++ [seg]) = sentencesAt off segs := by
  rw [sentencesAt_append, sentencesAt_cons_of_none h]
  exact List.append_nil _

/-- **The sentences among the events**, without their positions. -/
theorem sentences_eq_flatMap (segs : List Segment) (off : ℕ) :
    Segment.sentences segs = (sentencesAt off segs).flatMap fun p => lineEvents p.2 := by
  induction segs generalizing off with
  | nil => rfl
  | cons seg segs ih =>
    rw [sentencesAt, List.flatMap_append, ← ih, ← List.singleton_append,
      Segment.sentences_append]
    congr 1
    cases hseg : seg.sentence? with
    | none => exact Segment.sentences_eq_nil hseg
    | some text => exact (Segment.sentences_eq hseg).trans (List.append_nil _).symm

/-- A sentence of a history splits it at its position. -/
theorem exists_split_of_mem_sentencesAt (h : (i, text) ∈ sentencesAt off segs) :
    ∃ before after, segs = before ++ .line text :: after ∧
      off + (Segment.taken before).length = i := by
  induction segs generalizing off with
  | nil => exact absurd h List.not_mem_nil
  | cons seg segs ih =>
    rcases List.mem_append.mp h with hhead | htail
    · cases seg with
      | line text' =>
        by_cases hstart : startsSentence text' = true
        · rw [Segment.sentence?_line hstart] at hhead
          obtain ⟨rfl, rfl⟩ : i = off ∧ text = text' := by simpa using hhead
          exact ⟨[], segs, rfl, rfl⟩
        · rw [Segment.sentence?_line_eq_none (by simpa using hstart)] at hhead
          exact absurd hhead List.not_mem_nil
      | discarded bytes => exact absurd hhead List.not_mem_nil
      | frame bytes => exact absurd hhead List.not_mem_nil
    · obtain ⟨before, after, rfl, hoff⟩ := ih htail
      refine ⟨seg :: before, after, rfl, ?_⟩
      rw [← hoff, ← List.singleton_append, Segment.taken_append, List.length_append,
        Segment.taken_singleton, Nat.add_assoc]

theorem sentencesAt_singles (l : Bytes) (off : ℕ) : sentencesAt off (singles l) = [] := by
  induction l generalizing off with
  | nil => rfl
  | cons a l ih =>
    rw [singles, List.map_cons, sentencesAt_cons_of_none rfl]
    exact ih _

/-! ### Without glued lines -/

/-- What a run has delivered and what is still to be read are the sentences of the stream, at their
positions. -/
def Faithful (o : UnicoreTransportOptions) (S b u : Bytes) (segs : List Segment) : Prop :=
  ∃ x k off, At o S x k b u ∧ (Segment.taken segs).length = off + k ∧
    sentencesAt 0 segs ++ sentencesAt off (readAll o x.rest) = sentencesAt 0 (readAll o S)

/-- A segment taken at a place is that of the whole stream. -/
theorem faithful_read (hat : At o S x 0 b u) (hread : ReadCase o b need seg)
    (htaken : (Segment.taken segs).length = off)
    (hsent : sentencesAt 0 segs ++ sentencesAt off (readAll o x.rest) =
      sentencesAt 0 (readAll o S)) :
    Faithful o S (b.drop seg.bytes.length) u (segs ++ [seg]) := by
  obtain ⟨hnext, hat'⟩ := hat.read hread
  refine ⟨_, 0, off + seg.bytes.length, hat', ?_, ?_⟩
  · rw [Segment.taken_append, List.length_append, Segment.taken_singleton, htaken, Nat.add_zero]
  · rw [readAll_some hnext, ← List.singleton_append, sentencesAt_append, ← List.append_assoc,
      Segment.taken_singleton] at hsent
    rw [sentencesAt_append, Nat.zero_add, htaken]
    exact hsent

/-- What is left of a line is no sentence, and neither is the whole line. -/
theorem sentences_of_resumed {need' : ℕ} (hk : 0 < k) (hat : At o S x k b u)
    (hno : ¬x.Glued o)
    (hnext : readSegment o x.rest = some (need', .line (x.rest.take k ++ text))) :
    startsSentence text = false ∧ startsSentence (x.rest.take k ++ text) = false := by
  obtain ⟨c, -, hdrops⟩ := hat.exists_drops hk
  have hklen : k ≤ x.rest.length := length_le_of_gives fun _ hi => hdrops.gives_rest hi
  have hne : x.rest.take k ≠ [] := by
    rw [← List.length_pos_iff, List.length_take]
    omega
  have hhead := (givesUp_iff.mp (hdrops.gives_rest hk)).2.1
  rw [List.drop_zero, ← List.take_append_drop k x.rest, startsSentence_append hne] at hhead
  refine ⟨?_, by rwa [startsSentence_append hne]⟩
  by_contra hstart
  rw [Bool.not_eq_false] at hstart
  have hdrop : x.rest.drop k = text ++ lf :: x.rest.drop ((x.rest.take k ++ text).length + 1) := by
    conv_lhs => rw [rest_eq_of_line hnext, List.append_assoc]
    rw [List.drop_left']
    rw [List.length_take, Nat.min_eq_left hklen]
  refine hno ⟨_, _, hnext, c, k, hk, hdrops, ?_⟩
  rw [hdrop, startsSentence_append]
  · exact hstart
  · rintro rfl
    exact absurd hstart (by decide)

/-- **One pass.** -/
theorem Faithful.next (hno : ∀ x, Place.Reaches o (Place.start S) x → ¬x.Glued o)
    (h : Faithful o S b u segs) (hpass : passSegment o b = some seg) :
    Faithful o S (b.drop seg.bytes.length) u (segs ++ [seg]) := by
  obtain ⟨x, k, off, hat, htaken, hsent⟩ := h
  have htaken' : (Segment.taken (segs ++ [seg])).length = off + k + seg.bytes.length := by
    rw [Segment.taken_append, List.length_append, Segment.taken_singleton, htaken]
  unfold passSegment at hpass
  cases hread : readSegment o b with
  | none =>
    -- a byte is given up
    rw [hread] at hpass
    simp only [Option.ite_none_right_eq_some, Option.some.injEq] at hpass
    obtain ⟨hgives, rfl⟩ := hpass
    have hpos := List.length_pos_iff.mpr (givesUp_iff.mp hgives).1
    have hone : (Segment.discarded (b.take 1)).bytes.length = 1 := by
      rw [Segment.bytes_discarded, List.length_take, Nat.min_eq_left hpos]
    rw [hone] at htaken' ⊢
    refine ⟨x, k + 1, off, (hat.drop hread hgives).1, htaken', ?_⟩
    rw [sentencesAt_concat_of_none rfl]
    exact hsent
  | some p =>
    obtain ⟨need, seg'⟩ := p
    rw [hread] at hpass
    obtain rfl : seg' = seg := Option.some.inj hpass
    have hcase := readCase_iff.mp hread
    rcases Nat.eq_zero_or_pos k with rfl | hk
    · exact faithful_read hat hcase htaken hsent
    · have hklen : (x.rest.take k).length = k := by
        obtain ⟨c, -, hdrops⟩ := hat.exists_drops hk
        rw [List.length_take,
          Nat.min_eq_left (length_le_of_gives fun _ hi => hdrops.gives_rest hi)]
      cases hat.resume hk hcase with
      | line text hnext hat' =>
        obtain ⟨hleft, hwhole⟩ := sentences_of_resumed hk hat (hno x hat.reaches) hnext
        refine ⟨_, 0, off + (Segment.line (x.rest.take k ++ text)).bytes.length, hat', ?_, ?_⟩
        · rw [htaken', Segment.bytes_line, Segment.bytes_line, List.append_assoc,
            @List.length_append _ (x.rest.take k), hklen]
          omega
        · rw [readAll_some hnext,
            sentencesAt_cons_of_none (Segment.sentence?_line_eq_none hwhole)] at hsent
          rw [sentencesAt_concat_of_none (Segment.sentence?_line_eq_none hleft)]
          exact hsent
      | skip j _ hj hnext hat' =>
        refine ⟨_, 0, off + (Segment.discarded (x.rest.take (k + j))).bytes.length, hat', ?_, ?_⟩
        · rw [htaken', Segment.bytes_discarded, Segment.bytes_discarded, List.take_add, hat.rest,
            List.take_append_of_le_length hj, List.length_append, hklen]
          omega
        · rw [readAll_some hnext, sentencesAt_cons_of_none rfl] at hsent
          rw [sentencesAt_concat_of_none rfl]
          exact hsent
      | sync _ hsync hnext hat' =>
        rw [readAll_some hnext, sentencesAt_cons_of_none rfl] at hsent
        refine faithful_read hat' hcase ?_ hsent
        rw [htaken, Segment.bytes_discarded, hklen]

/-- A run that has received everything and stops has delivered everything. -/
theorem Faithful.sentences_eq (h : Faithful o S b [] segs) (hpass : passSegment o b = none) :
    sentencesAt 0 segs = sentencesAt 0 (readAll o S) := by
  obtain ⟨x, k, off, hat, -, hsent⟩ := h
  have hread : readSegment o b = none := by
    unfold passSegment at hpass
    cases hread : readSegment o b with
    | none => rfl
    | some p => rw [hread] at hpass; exact absurd hpass (by simp)
  have hrest : x.rest.drop k = b := by rw [hat.rest, List.append_nil]
  suffices hnone : sentencesAt off (readAll o x.rest) = [] by
    rw [hnone, List.append_nil] at hsent
    exact hsent
  rcases Nat.eq_zero_or_pos k with rfl | hk
  · rw [List.drop_zero] at hrest
    rw [readAll_none (hrest ▸ hread)]
    rfl
  rcases readSegment_eq_none_iff.mp hread with ⟨hsync, hwait⟩ | hsilent
  · obtain ⟨hnext, hat'⟩ := hat.sync hk hsync
    have hb : x.rest.drop (Segment.discarded (x.rest.take k)).bytes.length = b := by
      have hrest' := hat'.rest
      rwa [List.drop_zero, List.append_nil] at hrest'
    rw [readAll_some hnext, hb, readAll_none hread]
    rfl
  · obtain ⟨c, -, hdrops⟩ := hat.exists_drops hk
    have hnl := hdrops.findNewline_rest
    have hsyncs := hdrops.findBinarySync_rest
    rw [hrest, hsilent.2] at hnl
    rw [hrest, hsilent.1] at hsyncs
    rw [readAll_none (readSegment_of_silent ⟨hsyncs, hnl⟩)]
    rfl

/-- The events of a run are those of the run on its buffer. -/
theorem run_events (hbin : o.enableBinary = true) (calls : List (Call UInt8)) :
    (run calls (fresh o)).1 = ((bytesReader o).run calls []).1.flatMap Segment.events := by
  rw [run_eq_history, (history_run_eq hbin calls (fresh o) rfl).1]
  rfl

/-- **Without glued lines the sentences are those of the stream**, where they stand in it. -/
theorem sentencesAt_of_not_glued (hno : ∀ x, Place.Reaches o (Place.start S) x → ¬x.Glued o)
    {calls : List (Call UInt8)} (hcalls : Call.received calls = S) :
    sentencesAt 0 ((bytesReader o).run (calls ++ [.drain]) []).1 =
      sentencesAt 0 (readAll o S) := by
  obtain ⟨hend, hstop⟩ := bytesReader_run_induction (P := Faithful o S)
    (fun b c u segs ⟨x, k, off, hat, hrest⟩ => ⟨x, k, off, hat.push, hrest⟩)
    (fun b seg u segs hpass hf => hf.next hno hpass)
    calls ⟨Place.start S, 0, 0, hcalls ▸ at_start, rfl, rfl⟩
  exact hend.sentences_eq hstop

/-! ### With a glued line -/

/-- **A glued line is a sentence in one run and none in another.** -/
theorem exists_run_of_glued (hx : Place.Reaches o (Place.start S) x) (hglued : x.Glued o) :
    ∃ calls, Call.received calls = S ∧
      (Segment.sentences ((bytesReader o).run (calls ++ [.drain]) []).1).length ≠
        (Segment.sentences ((bytesReader o).run ([.push S] ++ [.drain]) []).1).length := by
  obtain ⟨need, text, hnext, c, k, hk, hdrops, hstart⟩ := hglued
  obtain ⟨path, hpath⟩ := drain_of_reaches hx
  obtain ⟨need', sentence, hcase, hafter⟩ := hdrops.readCase_line hnext
  have hsentence : startsSentence sentence = true := by
    have hbytes := rest_eq_of_line (readSegment_of_readCase hcase)
    rw [hbytes] at hstart
    rcases eq_or_ne sentence [] with rfl | hne
    · exact absurd hstart (by simp [startsSentence, lf, dollar, hash])
    · rwa [startsSentence_append hne] at hstart
  have hle := length_le_of_gives hdrops.gives
  -- the second part of what is left when `k` bytes have been given up
  have hsplit : (x.rest.take c).drop k ++ x.rest.drop c = x.rest.drop k := by
    rw [← List.drop_append_of_le_length hle, List.take_append_drop]
  have hend : givesUp ((x.rest.take c).drop k) = false := by
    rcases eq_or_ne ((x.rest.take c).drop k) [] with hnil | hne
    · rw [hnil]
      rfl
    · rw [← hsplit, startsSentence_append hne] at hstart
      simp [givesUp, hstart]
  have hwhole : startsSentence text = false := by
    have hhead := (givesUp_iff.mp (hdrops.gives_rest hk)).2.1
    rw [List.drop_zero, rest_eq_of_line hnext] at hhead
    rcases eq_or_ne text [] with rfl | hne
    · rfl
    · rwa [startsSentence_append hne] at hhead
  obtain ⟨hreceived, hrun⟩ := hpath.run_cut hdrops.seen (drain_of_drops (o := o) hdrops hend)
  refine ⟨_, hreceived, ?_⟩
  obtain ⟨line, -, hline⟩ := exists_lineEvents_eq hsentence
  rw [hrun, hpath.run_once (seen_le_of_reaches hx), hsplit, drain_of_readCase hcase,
    drain_of_readCase (readCase_iff.mp hnext), hafter]
  rw [Segment.sentences_append, Segment.sentences_append, Segment.sentences_append,
    sentences_eq_flatMap (singles _) 0, sentencesAt_singles, List.flatMap_nil,
    Segment.sentences_cons, Segment.sentences_cons (.line text),
    Segment.sentences_eq (Segment.sentence?_line hsentence),
    Segment.sentences_eq_nil (Segment.sentence?_line_eq_none hwhole), hline]
  simp only [List.length_append, List.length_nil, List.length_singleton]
  omega

/-! ### With noise in front of a sentence -/

/-- A text with a `$` or `#` in it, but not at its front, falls into noise and a sentence. -/
theorem exists_noise_of_mem {byte : UInt8} (hmem : byte ∈ text)
    (hmark : byte = dollar ∨ byte = hash) (hstart : startsSentence text = false) :
    ∃ noise sentence, text = noise ++ sentence ∧ noise ≠ [] ∧
      (∀ byte ∈ noise, byte ≠ dollar ∧ byte ≠ hash) ∧ startsSentence sentence = true := by
  induction text with
  | nil => exact absurd hmem List.not_mem_nil
  | cons first text ih =>
    have hfirst : first ≠ dollar ∧ first ≠ hash := by simpa [startsSentence] using hstart
    cases htext : startsSentence text with
    | true => exact ⟨[first], text, rfl, by simp, by simpa using hfirst, htext⟩
    | false =>
      have hmem' : byte ∈ text := by
        rcases List.mem_cons.mp hmem with rfl | hmem'
        · exact absurd hmark (by tauto)
        · exact hmem'
      obtain ⟨noise, sentence, rfl, -, hnoise, hsentence⟩ := ih hmem' htext
      exact ⟨first :: noise, sentence, rfl, by simp, List.forall_mem_cons.mpr ⟨hfirst, hnoise⟩,
        hsentence⟩

/-- Bytes are given up in front of a sentence only if they are noise. -/
theorem noisy_of_glued (h : x.Glued o) : x.Noisy o S := by
  obtain ⟨need, text, hnext, c, k, hk, hdrops, hstart⟩ := h
  have hrest := rest_eq_of_line hnext
  have hhead := (givesUp_iff.mp (hdrops.gives_rest hk)).2.1
  have hle : k ≤ text.length := by
    by_contra hlt
    have hk' := length_le_of_gives hdrops.gives
    refine findNewline_eq_none_iff.mp hdrops.silent.2 (List.mem_of_getElem? (i := text.length) ?_)
    rw [List.length_take] at hk'
    rw [List.getElem?_take_of_lt (by omega), hrest]
    simp
  -- the sentence begins in the line, so there is a `$` or `#` in it
  have hdrop : x.rest.drop k = text.drop k ++ lf :: x.rest.drop (text.length + 1) := by
    conv_lhs => rw [hrest, List.drop_append_of_le_length hle]
  rw [hdrop] at hstart
  cases htext : text.drop k with
  | nil =>
    rw [htext] at hstart
    exact absurd hstart (by simp [startsSentence, lf, dollar, hash])
  | cons byte sentence =>
    have hmark : byte = dollar ∨ byte = hash := by
      rw [htext] at hstart
      simpa [startsSentence] using hstart
    have hmem : byte ∈ text := List.mem_of_mem_drop (by rw [htext]; exact List.mem_cons_self)
    have hne : text ≠ [] := List.ne_nil_of_mem hmem
    rw [List.drop_zero, hrest, startsSentence_append hne] at hhead
    obtain ⟨noise, sentence, rfl, hnoise, hnone, hsentence⟩ := exists_noise_of_mem hmem hmark hhead
    exact ⟨need, noise, sentence, hnext, hnoise, ⟨0, .inl rfl, hnone⟩, hsentence⟩

/-- Two segments at one place of a stream. -/
theorem length_taken_of_append_eq {path before segs' after : List Segment} {seg' : Segment}
    (h : path ++ seg :: segs' = before ++ seg' :: after)
    (hlt : (Segment.taken path).length < (Segment.taken before).length) :
    (Segment.taken path).length + seg.bytes.length ≤ (Segment.taken before).length := by
  rcases List.append_eq_append_iff.mp h with ⟨mid, rfl, hmid⟩ | ⟨mid, rfl, -⟩
  · cases mid with
    | nil => rw [List.append_nil] at hlt; exact absurd hlt (Nat.lt_irrefl _)
    | cons first mid =>
      obtain ⟨rfl, -⟩ := List.cons.inj hmid
      rw [Segment.taken_append, List.length_append, ← List.singleton_append, Segment.taken_append,
        List.length_append, Segment.taken_singleton]
      omega
  · rw [Segment.taken_append, List.length_append] at hlt
    omega

/-- **A sentence behind noise is not handed out** when all of the stream comes in one read. -/
theorem not_delivers_of_noisy (hbin : o.enableBinary = true)
    (hx : Place.Reaches o (Place.start S) x) (hnoisy : x.Noisy o S) : ¬DeliversSentences o S := by
  intro hdelivers
  obtain ⟨need, noise, sentence, hnext, hne, hnoise, hstart⟩ := hnoisy
  obtain ⟨before, after, hhistory, hS, -⟩ :=
    hdelivers x hx need noise sentence hnext hnoise hstart [.push S] (by simp)
  obtain ⟨path, hpath⟩ := drain_of_reaches hx
  have hrest : S = Segment.taken path ++ x.rest := hpath.rest
  have honce : (history.run ([.push S] ++ [.drain]) (fresh o)).1 =
      path ++ .line (noise ++ sentence) :: ((bytesReader o).drain
        (x.rest.drop (Segment.line (noise ++ sentence)).bytes.length)).1 := by
    rw [(history_run_eq hbin _ (fresh o) rfl).1, buffer_fresh,
      hpath.run_once (seen_le_of_reaches hx), drain_of_readCase (readCase_iff.mp hnext)]
  have hlength := congrArg List.length hrest
  rw [List.length_append] at hlength
  have hline := congrArg List.length (rest_eq_of_line hnext)
  rw [List.length_append, List.length_append, List.length_cons] at hline
  have hbefore := congrArg List.length hS
  rw [List.length_append, List.length_drop] at hbefore
  have hpos := List.length_pos_iff.mpr hne
  have hle := length_taken_of_append_eq (honce.symm.trans hhistory) (by omega)
  rw [Segment.bytes_line, List.length_append, List.length_append, List.length_singleton] at hle
  omega

/-- **Every sentence is handed out** if there is noise in front of none. -/
theorem delivers_of_not_noisy (hbin : o.enableBinary = true)
    (hno : ∀ x, Place.Reaches o (Place.start S) x → ¬x.Noisy o S) : DeliversSentences o S := by
  intro x hx need noise sentence hnext hnoise hstart calls hcalls
  obtain rfl : noise = [] := by
    by_contra hne
    exact hno x hx ⟨need, noise, sentence, hnext, hne, hnoise, hstart⟩
  obtain ⟨path, hpath⟩ := drain_of_reaches hx
  have hrest : S = Segment.taken path ++ x.rest := hpath.rest
  have hmem : ((Segment.taken path).length, sentence) ∈
      sentencesAt 0 ((bytesReader o).run (calls ++ [.drain]) []).1 := by
    rw [sentencesAt_of_not_glued (fun y hy hglued => hno y hy (noisy_of_glued hglued)) hcalls]
    have hreadAll : readAll o S = path ++ readAll o x.rest := hpath.readAll
    rw [hreadAll, sentencesAt_append, readAll_some hnext, sentencesAt, List.nil_append,
      Segment.sentence?_line hstart, Nat.zero_add]
    exact List.mem_append_right _ (List.mem_append_left _ (List.mem_singleton_self _))
  obtain ⟨before, after, hsegs, hlength⟩ := exists_split_of_mem_sentencesAt hmem
  rw [← buffer_fresh o, ← (history_run_eq hbin _ (fresh o) rfl).1] at hsegs
  refine ⟨before, after, hsegs, ?_, ?_⟩
  · -- by byte conservation what is in front of the line is as long as what is in front of `x`
    have hbytes := received_eq_segments o (calls ++ [.drain])
    rw [hsegs, Segment.taken_append, List.append_assoc, Call.received_append, hcalls,
      Call.received_drain, Call.received_nil, List.append_nil] at hbytes
    rw [Nat.zero_add] at hlength
    rw [(List.append_inj (hrest.symm.trans hbytes) hlength.symm).1] at hrest
    exact hrest
  · rw [run_eq_history, hsegs, List.flatMap_append, List.flatMap_cons, List.append_assoc]
    rfl

end Sentences

/-- **When the sentences do not depend on the reads, and when none is lost.** All runs over a stream
deliver the same sentences if and only if the stream has no place with a glued line. They do so and
deliver every sentence as exactly that sentence if and only if it has no place with a noisy line. -/
theorem sentences_run_iff (strict : Bool) (max : ℕ) (S : Bytes) :
    let o := binaryOptions strict max
    let same := ∀ calls calls', Call.received calls = S → Call.received calls' = S →
      sentences (run (calls ++ [.drain]) (fresh o)).1 =
        sentences (run (calls' ++ [.drain]) (fresh o)).1
    (same ↔ ∀ x, Place.Reaches o (Place.start S) x → ¬x.Glued o) ∧
      (same ∧ DeliversSentences o S ↔ ∀ x, Place.Reaches o (Place.start S) x → ¬x.Noisy o S) := by
  intro o same
  have hevents : ∀ calls, sentences (run calls (fresh o)).1 =
      Segment.sentences ((bytesReader o).run calls []).1 := by
    intro calls
    rw [run_events rfl]
    rfl
  have hsame : same ↔ ∀ x, Place.Reaches o (Place.start S) x → ¬x.Glued o := by
    simp only [same, hevents]
    constructor
    · intro hsame x hx hglued
      obtain ⟨calls, hcalls, hne⟩ := exists_run_of_glued hx hglued
      exact hne (congrArg List.length (hsame calls [.push S] hcalls (by simp)))
    · intro hno calls calls' hcalls hcalls'
      rw [sentences_eq_flatMap _ 0, sentencesAt_of_not_glued hno hcalls, sentences_eq_flatMap _ 0,
        sentencesAt_of_not_glued hno hcalls']
  refine ⟨hsame, ?_⟩
  constructor
  · rintro ⟨-, hdelivers⟩ x hx hnoisy
    exact not_delivers_of_noisy rfl hx hnoisy hdelivers
  · intro hno
    exact ⟨hsame.mpr fun x hx hglued => hno x hx (noisy_of_glued hglued),
      delivers_of_not_noisy rfl hno⟩

/-- Noise and a sentence, in one read and in two. -/
theorem sentences_run_noise :
    let o := binaryOptions true 4096
    let once : List (Call UInt8) := [.push [0x78, dollar, 0x41, lf]]
    let twice : List (Call UInt8) := [.push [0x78], .drain, .push [dollar, 0x41, lf]]
    Call.received once = Call.received twice ∧
      sentences (run (once ++ [.drain]) (fresh o)).1 = [] ∧
      sentences (run (twice ++ [.drain]) (fresh o)).1 = [.asciiLine [dollar, 0x41]] := by
  decide

end UnicoreGnss
