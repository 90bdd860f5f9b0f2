import UnicoreGnss.Transport.Counters
import UnicoreGnss.Transport.Cuts

/-!
# Whether the health counters describe the stream

By `binaryCounters_run` only `resync_count` can depend on the reads. It is bumped once for each
pass that throws bytes away, and passes throw away one byte, or all bytes in front of a sync,
depending on what has arrived. So it is the number of maximal runs of discarded bytes only if no
two such passes follow each other, and it is the same for all reads only if nothing can be given up
in a line. `Place.Miscounts` collects the places where this fails, and `describesStream_iff` says
that they are the only ones.

## Main definitions

* `discardedRuns` — the number of maximal runs of discarded bytes of a history
* `Place.Miscounts` — where `resync_count` goes wrong
* `DescribesStream` — what the counters should be

## Main results

* `discardedRuns_eq_iff` — when the discarding passes are the runs
* `describesStream_iff` — when the counters describe the stream
-/

namespace UnicoreGnss

open FirstMatch UnicoreTransport

/-! ### Runs of discarded bytes -/

/-- For every byte of a history, was it thrown away? -/
def marks (segs : List Segment) : List Bool :=
  segs.flatMap fun seg => List.replicate seg.bytes.length seg.isDiscarded

/-- The number of maximal runs of `true`, behind an element `prev`. -/
def runsOfTrue : Bool → List Bool → ℕ
  | _, [] => 0
  | prev, b :: l => (if b && !prev then 1 else 0) + runsOfTrue b l

/-- The number of maximal runs of consecutive discarded bytes. -/
def discardedRuns (segs : List Segment) : ℕ := runsOfTrue false (marks segs)

/-- No two discarded segments follow each other, the first one behind a segment discarded if
`prev`. -/
def Spaced : Bool → List Segment → Prop
  | _, [] => True
  | prev, seg :: segs => ¬(prev = true ∧ seg.isDiscarded = true) ∧ Spaced seg.isDiscarded segs

section Runs

variable {segs segs' : List Segment} {seg : Segment} {prev b : Bool} {l : List Bool} {n : ℕ}

theorem runsOfTrue_replicate (hn : 0 < n) :
    runsOfTrue prev (List.replicate n b ++ l) =
      (if b && !prev then 1 else 0) + runsOfTrue b l := by
  have hmore : ∀ n, runsOfTrue b (List.replicate n b ++ l) = runsOfTrue b l := by
    intro n
    induction n with
    | zero => rfl
    | succ n ih =>
      rw [List.replicate_succ, List.cons_append, runsOfTrue, ih]
      cases b <;> simp
  obtain ⟨n, rfl⟩ : ∃ m, n = m + 1 := ⟨n - 1, by omega⟩
  rw [List.replicate_succ, List.cons_append, runsOfTrue, hmore]

/-- The runs are at most the discarded segments, and all of them exactly when these are spaced. -/
theorem runsOfTrue_marks (hpos : ∀ seg ∈ segs, 0 < seg.bytes.length) :
    runsOfTrue prev (marks segs) ≤ segs.countP Segment.isDiscarded ∧
      (runsOfTrue prev (marks segs) = segs.countP Segment.isDiscarded ↔ Spaced prev segs) := by
  induction segs generalizing prev with
  | nil => exact ⟨Nat.le_refl _, by simp [marks, runsOfTrue, Spaced]⟩
  | cons seg segs ih =>
    obtain ⟨hle, hiff⟩ := ih fun s hs => hpos s (List.mem_cons_of_mem _ hs)
    have hmarks : marks (seg :: segs) =
        List.replicate seg.bytes.length seg.isDiscarded ++ marks segs := rfl
    rw [hmarks, runsOfTrue_replicate (hpos seg List.mem_cons_self), List.countP_cons, Spaced,
      ← hiff]
    generalize seg.isDiscarded = d at hle ⊢
    cases d <;> cases prev <;> simp <;> omega

/-- **When the discarding passes are the runs.** -/
theorem discardedRuns_eq_iff (hpos : ∀ seg ∈ segs, 0 < seg.bytes.length) :
    segs.countP Segment.isDiscarded = discardedRuns segs ↔ Spaced false segs := by
  rw [← (runsOfTrue_marks hpos).2]
  exact eq_comm

theorem spaced_append : Spaced prev (segs ++ segs') ↔
    Spaced prev segs ∧ Spaced (endsDiscarded prev segs) segs' := by
  induction segs generalizing prev with
  | nil => simp [Spaced]
  | cons seg segs ih => simp [Spaced, ih, and_assoc]

theorem countP_singles (l : Bytes) : (singles l).countP Segment.isDiscarded = l.length := by
  induction l with
  | nil => rfl
  | cons a l ih =>
    rw [singles, List.map_cons, List.countP_cons, List.length_cons, ← ih]
    rfl

theorem endsDiscarded_singles {l : Bytes} (h : 0 < l.length) :
    endsDiscarded prev (singles l) = true := by
  have hmore : ∀ l : Bytes, endsDiscarded true (singles l) = true := by
    intro l
    induction l with
    | nil => rfl
    | cons a l ih => exact ih
  match l with
  | a :: l => exact hmore l

theorem not_spaced_singles {l : Bytes} (h : prev = true ∧ 0 < l.length ∨ 1 < l.length) :
    ¬Spaced prev (singles l) := by
  match l with
  | [] => simp at h
  | [a] =>
    obtain rfl : prev = true := by simpa using h
    simp [singles, Spaced]
  | a :: b :: l => simp [singles, Spaced]

end Runs

/-! ### Where the count goes wrong -/

/-- Bytes can be given up in a line; or bytes are discarded behind a discarded segment, or in more
than one pass. -/
def Place.Miscounts (o : UnicoreTransportOptions) (x : Place) : Prop :=
  match readSegment o x.rest with
  | some (_, .line _) => ∃ c, x.Drops c 1
  | some (_, .discarded bytes) =>
    x.discarded = true ∨ 1 < bytes.length ∧ ∃ c, x.Drops c 1
  | some (_, .frame _) => False
  | none => ∃ c, x.Drops c 1 ∧ (x.discarded = true ∨ x.Drops c 2)

/-- The number of discarding passes over a byte string without a miscount. -/
def discards (o : UnicoreTransportOptions) (r : Bytes) : ℕ :=
  (readAll o r).countP Segment.isDiscarded +
    if givesUp ((wholeReader o).drain r).2 then 1 else 0

section Miscounts

variable {o : UnicoreTransportOptions} {S b u r bytes text : Bytes} {x : Place} {c k need : ℕ}
  {seg : Segment} {segs path : List Segment}

theorem discards_none (h : readSegment o r = none) :
    discards o r = if givesUp r then 1 else 0 := by
  rw [discards, readAll_none h, (wholeReader o).drain_stop (wholeReader_stop h)]
  simp

theorem discards_some (h : readSegment o r = some (need, seg)) :
    discards o r = (if seg.isDiscarded then 1 else 0) + discards o (r.drop seg.bytes.length) := by
  rw [discards, readAll_some h, (wholeReader o).drain_next (wholeReader_next h), List.countP_cons,
    discards]
  dsimp only
  omega

/-- Where something is given up there is no sync at the front. -/
theorem Place.Drops.ne_sync (h : x.Drops c (k + 1)) {i : ℕ} (hi : i < k + 1) :
    startsWithSync (x.rest.drop i) = false :=
  startsWithSync_of_givesUp (h.gives_rest hi)

/-- What is discarded at a place where something can be given up is noise in front of a sync. -/
theorem Place.Drops.skip (h : x.Drops c (k + 1))
    (hnext : readSegment o x.rest = some (need, .discarded bytes)) :
    0 < bytes.length ∧ findBinarySync x.rest = some bytes.length ∧
      ∀ newline, findNewline x.rest = some newline → bytes.length ≤ newline := by
  have hzero : findBinarySync x.rest ≠ some 0 := by
    intro hsync
    have hquiet := h.ne_sync (Nat.succ_pos k)
    rw [firstMatch_holds hsync] at hquiet
    exact absurd hquiet (by simp)
  cases readCase_iff.mp hnext with
  | tooLarge hsync _ _ => exact absurd hsync hzero
  | crcReject hsync _ _ _ _ => exact absurd hsync hzero
  | skip sync hpos hsync hfirst =>
    have hlt := firstMatch_lt hsync
    rw [List.length_take, Nat.min_eq_left (Nat.le_of_lt hlt)]
    exact ⟨hpos, hsync, hfirst⟩

/-- Without a miscount at most one byte is given up at a place, and not behind a discarded one. -/
theorem eq_zero_of_not_miscounts (hno : ¬x.Miscounts o) (h : x.Drops c (k + 1)) :
    k = 0 ∧ x.discarded = false := by
  unfold Place.Miscounts at hno
  have hone : x.Drops c 1 := h.mono (by omega)
  split at hno
  case h_1 => exact absurd ⟨c, hone⟩ hno
  case h_2 need bytes hnext =>
    obtain ⟨hfront, hshort⟩ := not_or.mp hno
    obtain ⟨hpos, hsync, -⟩ := h.skip hnext
    have hlen : bytes.length = 1 := by
      by_contra hne
      exact hshort ⟨by omega, c, hone⟩
    refine ⟨?_, by simpa using hfront⟩
    -- the sync right behind the first byte is not given up
    by_contra hk
    have hquiet := h.ne_sync (show 1 < k + 1 by omega)
    rw [hlen] at hsync
    rw [firstMatch_holds hsync] at hquiet
    exact absurd hquiet (by simp)
  case h_3 need raw hnext =>
    exfalso
    cases readCase_iff.mp hnext with
    | frame hsync _ _ _ =>
      have hquiet := h.ne_sync (Nat.succ_pos k)
      rw [firstMatch_holds hsync] at hquiet
      exact absurd hquiet (by simp)
  case h_4 =>
    have hfront : ¬x.discarded = true := fun hd => hno ⟨c, hone, .inl hd⟩
    refine ⟨?_, by simpa using hfront⟩
    by_contra hk
    exact hno ⟨c, hone, .inr (h.mono (by omega))⟩

/-- A discarded segment that is no miscount follows one that is not discarded. -/
theorem discarded_of_not_miscounts (hno : ¬x.Miscounts o)
    (hnext : readSegment o x.rest = some (need, seg)) (hd : seg.isDiscarded = true) :
    x.discarded = false := by
  cases seg with
  | discarded bytes =>
    simp only [Place.Miscounts, hnext, not_or] at hno
    simpa using hno.1
  | line text => exact absurd hd (by simp)
  | frame raw => exact absurd hd (by simp)

/-! ### Without miscounts -/

/-- The discarding passes of a run so far are those of the stream, and spaced. -/
def WellCounted (o : UnicoreTransportOptions) (S b u : Bytes) (segs : List Segment) : Prop :=
  Spaced false segs ∧ ∃ x k, At o S x k b u ∧
    segs.countP Segment.isDiscarded + discards o x.rest = discards o S + k ∧
    (k = 0 → endsDiscarded false segs = x.discarded) ∧ (0 < k → endsDiscarded false segs = true)

/-- A segment taken at a place is that of the whole stream. -/
theorem wellCounted_read (hno : ¬x.Miscounts o) (hat : At o S x 0 b u)
    (hread : ReadCase o b need seg) (hspaced : Spaced false segs)
    (hcount : segs.countP Segment.isDiscarded + discards o x.rest = discards o S)
    (hends : endsDiscarded false segs = x.discarded) :
    WellCounted o S (b.drop seg.bytes.length) u (segs ++ [seg]) := by
  obtain ⟨hnext, hat'⟩ := hat.read hread
  refine ⟨spaced_append.mpr ⟨hspaced, ?_, trivial⟩, _, 0, hat', ?_, fun _ => by simp [Place.next],
    fun h => absurd h (by omega)⟩
  · rintro ⟨hprev, hd⟩
    rw [hends, discarded_of_not_miscounts hno hnext hd] at hprev
    exact Bool.false_ne_true hprev
  · rw [discards_some hnext] at hcount
    rw [List.countP_append, List.countP_singleton]
    simp only [Place.next]
    omega

/-- **One pass.** -/
theorem WellCounted.next (hno : ∀ x, Place.Reaches o (Place.start S) x → ¬x.Miscounts o)
    (h : WellCounted o S b u segs) (hpass : passSegment o b = some seg) :
    WellCounted o S (b.drop seg.bytes.length) u (segs ++ [seg]) := by
  obtain ⟨hspaced, x, k, hat, hcount, hends, hends'⟩ := h
  have hnox := hno x hat.reaches
  unfold passSegment at hpass
  cases hread : readSegment o b with
  | none =>
    -- a byte is given up, the first one at this place
    rw [hread] at hpass
    simp only [Option.ite_none_right_eq_some, Option.some.injEq] at hpass
    obtain ⟨hgives, rfl⟩ := hpass
    have hpos := List.length_pos_iff.mpr (givesUp_iff.mp hgives).1
    have hone : (Segment.discarded (b.take 1)).bytes.length = 1 := by
      rw [Segment.bytes_discarded, List.length_take, Nat.min_eq_left hpos]
    obtain ⟨hat', hdrops⟩ := hat.drop hread hgives
    obtain ⟨rfl, hfront⟩ := eq_zero_of_not_miscounts hnox hdrops
    rw [hone]
    refine ⟨spaced_append.mpr ⟨hspaced, ?_, trivial⟩, x, 1, hat', ?_, fun h => absurd h (by omega),
      fun _ => by simp⟩
    · rintro ⟨hprev, -⟩
      rw [hends rfl, hfront] at hprev
      exact Bool.false_ne_true hprev
    · rw [List.countP_append, List.countP_singleton, Segment.isDiscarded_discarded, if_pos rfl]
      omega
  | some p =>
    obtain ⟨need, seg'⟩ := p
    rw [hread] at hpass
    obtain rfl : seg' = seg := Option.some.inj hpass
    have hcase := readCase_iff.mp hread
    rcases Nat.eq_zero_or_pos k with rfl | hk
    · exact wellCounted_read hnox hat hcase hspaced hcount (hends rfl)
    obtain ⟨k, rfl⟩ : ∃ k', k = k' + 1 := ⟨k - 1, by omega⟩
    obtain ⟨c, -, hdrops⟩ := hat.exists_drops hk
    obtain ⟨rfl, -⟩ := eq_zero_of_not_miscounts hnox hdrops
    cases hat.resume hk hcase with
    | line text hnext _ =>
      simp only [Place.Miscounts, hnext] at hnox
      exact absurd ⟨c, hdrops⟩ hnox
    | skip j hpos hj hnext _ =>
      simp only [Place.Miscounts, hnext, not_or] at hnox
      have hlen : x.rest.length - 1 = b.length + u.length := by
        rw [← List.length_append, ← hat.rest, List.length_drop]
      refine absurd ⟨?_, c, hdrops⟩ hnox.2
      rw [List.length_take]
      omega
    | sync _ hsync hnext hat' =>
      -- the byte given up was all the noise in front of the sync
      refine wellCounted_read (hno _ hat'.reaches) hat' hcase hspaced ?_ ?_
      · rw [discards_some hnext, Segment.isDiscarded_discarded, if_pos rfl] at hcount
        simp only [Place.next]
        omega
      · exact hends' hk

/-- A run that has received everything and stops has all the discarding passes of the stream. -/
theorem WellCounted.countP_eq (hno : ∀ x, Place.Reaches o (Place.start S) x → ¬x.Miscounts o)
    (h : WellCounted o S b [] segs) (hpass : passSegment o b = none) :
    segs.countP Segment.isDiscarded = discards o S := by
  obtain ⟨-, x, k, hat, hcount, -⟩ := h
  obtain ⟨hread, hgives⟩ : readSegment o b = none ∧ givesUp b = false := by
    unfold passSegment at hpass
    cases hread : readSegment o b with
    | none => rw [hread] at hpass; simpa using hpass
    | some p => rw [hread] at hpass; exact absurd hpass (by simp)
  have hrest : x.rest.drop k = b := by rw [hat.rest, List.append_nil]
  suffices hk : discards o x.rest = k by omega
  rcases Nat.eq_zero_or_pos k with rfl | hk
  · rw [List.drop_zero] at hrest
    rw [hrest, discards_none hread, hgives, if_neg Bool.false_ne_true]
  obtain ⟨k, rfl⟩ : ∃ k', k = k' + 1 := ⟨k - 1, by omega⟩
  obtain ⟨c, -, hdrops⟩ := hat.exists_drops hk
  obtain ⟨rfl, -⟩ := eq_zero_of_not_miscounts (hno x hat.reaches) hdrops
  rcases readSegment_eq_none_iff.mp hread with ⟨hsync, -⟩ | hsilent
  · obtain ⟨hnext, hat'⟩ := hat.sync hk hsync
    have hb : x.rest.drop (Segment.discarded (x.rest.take (0 + 1))).bytes.length = b := by
      have hrest' := hat'.rest
      rwa [List.drop_zero, List.append_nil] at hrest'
    rw [discards_some hnext, hb, discards_none hread, hgives, Segment.isDiscarded_discarded]
    rfl
  · have hnl := hdrops.findNewline_rest
    have hsyncs := hdrops.findBinarySync_rest
    rw [hrest, hsilent.2] at hnl
    rw [hrest, hsilent.1] at hsyncs
    have hfirst := hdrops.gives_rest (Nat.succ_pos 0)
    rw [List.drop_zero] at hfirst
    rw [discards_none (readSegment_of_silent ⟨hsyncs, hnl⟩), hfirst, if_pos rfl]

/-- **Without miscounts** the discarding passes of every run are those of the stream, and spaced. -/
theorem counts_of_not_miscounts (hno : ∀ x, Place.Reaches o (Place.start S) x → ¬x.Miscounts o)
    {calls : List (Call UInt8)} (hcalls : Call.received calls = S) :
    (((bytesReader o).run (calls ++ [.drain]) []).1.countP Segment.isDiscarded = discards o S) ∧
      Spaced false ((bytesReader o).run (calls ++ [.drain]) []).1 := by
  obtain ⟨hend, hstop⟩ := bytesReader_run_induction (P := WellCounted o S)
    (fun b c u segs ⟨hspaced, x, k, hat, hrest⟩ => ⟨hspaced, x, k, hat.push, hrest⟩)
    (fun b seg u segs hpass hw => hw.next hno hpass)
    calls ⟨trivial, Place.start S, 0, hcalls ▸ at_start, by simp [Place.start], fun _ => rfl,
      fun h => absurd h (by omega)⟩
  exact ⟨hend.countP_eq hno hstop, hend.1⟩

/-! ### With a miscount -/

/-- A run over `S` whose discarding passes are not spaced, or two with different numbers of them. -/
def Disagrees (o : UnicoreTransportOptions) (S : Bytes) : Prop :=
  ∃ calls, Call.received calls = S ∧
    (¬Spaced false ((bytesReader o).run (calls ++ [.drain]) []).1 ∨
      ((bytesReader o).run (calls ++ [.drain]) []).1.countP Segment.isDiscarded ≠
        ((bytesReader o).run ([.push S] ++ [.drain]) []).1.countP Segment.isDiscarded)

/-- The run that receives everything at once. -/
theorem run_once (hpath : Path o (Place.start S) x path) (hx : Place.Reaches o (Place.start S) x) :
    ((bytesReader o).run ([.push S] ++ [.drain]) []).1 =
      path ++ ((bytesReader o).drain x.rest).1 := by
  have hdrain : (bytesReader o).drain S = _ := hpath.drain_rest (seen_le_of_reaches hx)
  simp [hdrain]

/-- A run that gives up something at a place. -/
theorem exists_run_of_drops (hpath : Path o (Place.start S) x path) (h : x.Drops c 1) :
    ∃ calls m, Call.received calls = S ∧ 0 < m ∧ m ≤ x.rest.length ∧ x.Drops c m ∧
      ((bytesReader o).run (calls ++ [.drain]) []).1 =
        path ++ singles (x.rest.take m) ++ ((bytesReader o).drain (x.rest.drop m)).1 := by
  obtain ⟨m, hall, hend, hdrain⟩ := drain_of_silent (o := o) h.silent
  have hle := length_le_of_gives hall
  have hm : 0 < m := by
    by_contra hzero
    obtain rfl : m = 0 := by omega
    rw [h.gives 0 Nat.one_pos] at hend
    exact absurd hend (by simp)
  have hdrops : x.Drops c m := ⟨h.seen, h.silent, hall⟩
  obtain ⟨hreceived, hrun⟩ := hpath.run_cut h.seen hdrain
  rw [List.length_take] at hle
  refine ⟨_, m, hreceived, hm, by omega, hdrops, ?_⟩
  rw [hrun, List.take_take, Nat.min_eq_left (by omega), ← List.drop_append_of_le_length
    (by rw [List.length_take]; omega), List.take_append_drop]

/-- **A miscount shows** in some run. -/
theorem disagrees_of_miscounts (hx : Place.Reaches o (Place.start S) x) (h : x.Miscounts o) :
    Disagrees o S := by
  obtain ⟨path, hpath⟩ := drain_of_reaches hx
  have honce := run_once hpath hx
  have hends : x.discarded = endsDiscarded false path := hpath.discarded
  unfold Place.Miscounts at h
  split at h
  case h_1 need text hnext =>
    -- the line loses a byte when the cut is in it
    obtain ⟨c, hdrops⟩ := h
    obtain ⟨calls, m, hreceived, hm, hle, hdrops, hrun⟩ := exists_run_of_drops hpath hdrops
    obtain ⟨need', text', hcase, hafter⟩ := hdrops.readCase_line hnext
    refine ⟨calls, hreceived, .inr ?_⟩
    rw [hrun, honce, drain_of_readCase hcase, drain_of_readCase (readCase_iff.mp hnext), hafter]
    simp only [List.countP_append, List.countP_cons, countP_singles, Segment.isDiscarded_line,
      List.length_take, Nat.min_eq_left hle]
    simp
    omega
  case h_2 need bytes hnext =>
    rcases h with hd | ⟨hlen, c, hdrops⟩
    · refine ⟨[.push S], by simp, .inl ?_⟩
      rw [honce, drain_of_readCase (readCase_iff.mp hnext), spaced_append, ← hends, hd]
      simp [Spaced]
    · obtain ⟨calls, m, hreceived, hm, hle, hdrops, hrun⟩ := exists_run_of_drops hpath hdrops
      refine ⟨calls, hreceived, .inl ?_⟩
      rw [hrun]
      rcases Nat.lt_or_ge 1 m with htwo | hone
      · rw [spaced_append, spaced_append]
        exact fun hs => not_spaced_singles
          (.inr (by rw [List.length_take, Nat.min_eq_left hle]; exact htwo)) hs.1.2
      · -- the rest of the noise goes in one more pass
        obtain rfl : m = 1 := by omega
        obtain ⟨-, hsync, hfirst⟩ := hdrops.skip hnext
        have hnls := hdrops.findNewline_rest
        have hcase : ReadCase o (x.rest.drop 1) (bytes.length - 1 + 3)
            (.discarded ((x.rest.drop 1).take (bytes.length - 1))) := by
          refine .skip _ (by omega) (firstMatch_drop hsync (by omega)) fun newline hnl => ?_
          have := hfirst (newline + 1) (by rw [hnls, hnl]; rfl)
          omega
        rw [drain_of_readCase hcase, spaced_append, endsDiscarded_append,
          endsDiscarded_singles (by rw [List.length_take]; omega)]
        simp [Spaced]
  case h_3 => exact absurd h id
  case h_4 hnext =>
    obtain ⟨c, hdrops, hmore⟩ := h
    have hgives := hdrops.gives_rest Nat.one_pos
    rw [List.drop_zero] at hgives
    obtain ⟨m, hall, hend, hdrain⟩ := drain_of_silent (o := o) (silent_of_givesUp hnext hgives)
    have hle := length_le_of_gives hall
    have hm : ∀ {k}, x.Drops c k → k ≤ m := by
      intro k hk
      by_contra hlt
      rw [hk.gives_rest (by omega)] at hend
      exact absurd hend (by simp)
    have hone := hm hdrops
    refine ⟨[.push S], by simp, .inl ?_⟩
    rw [honce, hdrain, spaced_append, ← hends]
    refine fun hs => not_spaced_singles ?_ hs.2
    rw [List.length_take, Nat.min_eq_left hle]
    exact hmore.imp (fun hd => ⟨hd, hone⟩) fun hk => hm hk

/-- The segments of a run are not empty. -/
theorem bytes_pos_of_mem_run (calls : List (Call UInt8)) :
    ∀ seg ∈ ((bytesReader o).run (calls ++ [.drain]) []).1, 0 < seg.bytes.length := by
  refine (bytesReader_run_induction (o := o)
    (P := fun _ _ segs => ∀ seg ∈ segs, 0 < seg.bytes.length) (fun b c u segs h => h)
    (fun b seg u segs hpass h s hs => ?_) calls (by simp)).1
  rcases List.mem_append.mp hs with hold | hnew
  · exact h s hold
  · rw [List.eq_of_mem_singleton hnew]
    exact (passSegment_bytes hpass).2.1

end Miscounts

/-! ### When the counters describe the stream -/

/-- What the health counters should be: the same for all reads, with one resynchronisation for each
maximal run of discarded bytes. -/
def DescribesStream (o : UnicoreTransportOptions) (S : Bytes) : Prop :=
  (∀ calls calls', Call.received calls = S → Call.received calls' = S →
    (run (calls ++ [.drain]) (fresh o)).2.binaryCounters =
      (run (calls' ++ [.drain]) (fresh o)).2.binaryCounters) ∧
  ∀ calls, Call.received calls = S →
    (run (calls ++ [.drain]) (fresh o)).2.binaryCounters.resyncCount =
      discardedRuns (history.run (calls ++ [.drain]) (fresh o)).1

/-- **When the counters describe the stream.** They do if and only if no place of the stream
miscounts. -/
theorem describesStream_iff (strict : Bool) (max : ℕ) (S : Bytes) :
    let o := binaryOptions strict max
    DescribesStream o S ↔ ∀ x, Place.Reaches o (Place.start S) x → ¬x.Miscounts o := by
  intro o
  have hhist : ∀ calls, (history.run (calls ++ [.drain]) (fresh o)).1 =
      ((bytesReader o).run (calls ++ [.drain]) []).1 := fun calls =>
    (history_run_eq rfl (calls ++ [.drain]) (fresh o) rfl).1
  have hcounters : ∀ calls, Call.received calls = S →
      (run (calls ++ [.drain]) (fresh o)).2.binaryCounters =
        { tally (verdicts o S) with
          resyncCount :=
            ((bytesReader o).run (calls ++ [.drain]) []).1.countP Segment.isDiscarded } := by
    intro calls hcalls
    rw [← hhist, ← hcalls]
    exact binaryCounters_run strict max calls
  have hruns : ∀ calls, ((bytesReader o).run (calls ++ [.drain]) []).1.countP Segment.isDiscarded =
      discardedRuns ((bytesReader o).run (calls ++ [.drain]) []).1 ↔
        Spaced false ((bytesReader o).run (calls ++ [.drain]) []).1 := fun calls =>
    discardedRuns_eq_iff (bytes_pos_of_mem_run calls)
  constructor
  · rintro ⟨hsame, hresync⟩ x hx hmis
    obtain ⟨calls, hcalls, hspaced | hcount⟩ := disagrees_of_miscounts hx hmis
    · have hr := hresync calls hcalls
      rw [hcounters calls hcalls, hhist, hruns] at hr
      exact hspaced hr
    · have hs := hsame calls [.push S] hcalls (by simp)
      rw [hcounters calls hcalls, hcounters [.push S] (by simp)] at hs
      exact hcount (congrArg UnicoreBinaryTransportCounters.resyncCount hs)
  · intro hno
    refine ⟨fun calls calls' hcalls hcalls' => ?_, fun calls hcalls => ?_⟩
    · rw [hcounters calls hcalls, hcounters calls' hcalls',
        (counts_of_not_miscounts hno hcalls).1, (counts_of_not_miscounts hno hcalls').1]
    · rw [hcounters calls hcalls, hhist]
      exact (hruns calls).mpr (counts_of_not_miscounts hno hcalls).2

/-- Two bytes of noise are one run of discarded bytes and two resynchronisations. -/
theorem not_describesStream_noise :
    ¬DescribesStream (binaryOptions true 4096) [0x78, 0x78] := by
  rintro ⟨-, hresync⟩
  have hcount := hresync [.push [0x78, 0x78]] rfl
  revert hcount
  decide

end UnicoreGnss
