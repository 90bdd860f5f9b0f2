import Mathlib.Data.List.Induction
import UnicoreGnss.Transport.History

/-!
# What the health counters count

Every counter but `resync_count` is about the syncs the loop has looked at: each is waited for,
refused or becomes a frame, and `verdicts` lists these outcomes for a stream that is there as a
whole. `binaryCounters_run` says that after a run that ends in a drain the counters are the tally
of this list, so they do not depend on the reads; and that `resync_count` is the number of times a
run has thrown bytes away, which is a matter of its history.

A sync at the front is counted as a candidate as soon as it is seen and only once, which is what
`counted_sync_candidate` is for: the flag is set exactly while the verdict on a counted candidate
is outstanding.

## Main definitions

* `Verdict`, `verdicts`, `tally` — the syncs of a stream and what is counted for them

## Main results

* `binaryCounters_run` — the counters after a run
-/

namespace UnicoreGnss

open FirstMatch UnicoreTransport

/-- What became of a sync. -/
inductive Verdict where
  /-- Not all of its frame has arrived. -/
  | awaited
  /-- Its frame is too large. -/
  | tooLarge
  /-- Its frame has a wrong CRC and was refused. -/
  | refused
  /-- Its frame was handed out. -/
  | frame (raw : Bytes)
  deriving DecidableEq, Repr

/-- The syncs of a byte string, in order, with what becomes of them. -/
def verdicts (o : UnicoreTransportOptions) (r : Bytes) : List Verdict :=
  match findBinarySync r with
  | none => []
  | some k =>
    let rest := r.drop k
    if rest.length < 28 then [.awaited]
    else if o.binaryMaxFrameSize < frameSize rest then .tooLarge :: verdicts o (rest.drop 1)
    else if rest.length < frameSize rest then [.awaited]
    else if crcOk rest = false ∧ o.strictBinaryCrc = true then
      .refused :: verdicts o (rest.drop 1)
    else .frame (rest.take (frameSize rest)) :: verdicts o (rest.drop (frameSize rest))
termination_by r.length
decreasing_by
  all_goals
    have hmin := le_frameSize rest
    have hsame : frameSize rest = frameSize (r.drop k) := rfl
    have hlen : rest.length = r.length - k := List.length_drop
    have hlen' : rest.length = (r.drop k).length := rfl
    simp only [List.length_drop] at *
    omega

/-- What is counted for one sync. -/
def Verdict.count (c : UnicoreBinaryTransportCounters) (v : Verdict) :
    UnicoreBinaryTransportCounters :=
  let c := { c with syncCandidates := c.syncCandidates + 1 }
  let mismatch := { c with
    crcErrors := c.crcErrors + 1
    frameParseErrorsByReason := Function.update c.frameParseErrorsByReason .crcMismatch
      (c.frameParseErrorsByReason .crcMismatch + 1) }
  match v with
  | awaited => c
  | tooLarge =>
    { c with
      frameParseErrorsByReason := Function.update c.frameParseErrorsByReason .frameTooLarge
        (c.frameParseErrorsByReason .frameTooLarge + 1) }
  | refused => mismatch
  | frame raw =>
    { (if crcOk raw then c else mismatch) with
      framesTotal := c.framesTotal + 1
      lastHeaderLength := some (UInt8.ofNat unicoreBinaryHeaderSize)
      lastPayloadLength := some (readLe16 (raw.drop 6)) }

/-- What is counted for a list of syncs. -/
def tally (vs : List Verdict) : UnicoreBinaryTransportCounters := vs.foldl Verdict.count {}

theorem tally_append (vs : List Verdict) (v : Verdict) :
    tally (vs ++ [v]) = Verdict.count (tally vs) v := List.foldl_append

theorem Verdict.crcErrors_count (c : UnicoreBinaryTransportCounters) (v : Verdict) :
    (v.count c).crcErrors = c.crcErrors + (tally [v]).crcErrors := by
  cases v with
  | frame raw =>
    simp only [tally, List.foldl_cons, List.foldl_nil, Verdict.count]
    split <;> simp
  | _ => simp [tally, Verdict.count]

/-- CRC errors are counted sync by sync. -/
theorem crcErrors_tally_append (vs ws : List Verdict) :
    (tally (vs ++ ws)).crcErrors = (tally vs).crcErrors + (tally ws).crcErrors := by
  induction ws using List.reverseRecOn with
  | nil => rw [List.append_nil]; rfl
  | append_singleton ws w ih =>
    rw [← List.append_assoc, tally_append, tally_append, Verdict.crcErrors_count,
      Verdict.crcErrors_count, ih, Nat.add_assoc]

/-! ### Verdicts -/

section Verdicts

variable {o : UnicoreTransportOptions} {r : Bytes} {n : ℕ}

theorem verdicts_none (h : findBinarySync r = none) : verdicts o r = [] := by
  rw [verdicts, h]

/-- Bytes that start no sync are passed over. -/
theorem verdicts_skip (hn : n ≤ r.length) (hquiet : ∀ j < n, startsWithSync (r.drop j) = false) :
    verdicts o r = verdicts o (r.drop n) := by
  have hfind : findBinarySync r = (findBinarySync (r.drop n)).map (· + n) :=
    firstMatch_of_quiet hn hquiet
  rw [verdicts, verdicts, hfind]
  cases findBinarySync (r.drop n) with
  | none => rfl
  | some k =>
    have hdrop : r.drop (k + n) = (r.drop n).drop k := by rw [List.drop_drop, Nat.add_comm]
    simp only [Option.map_some, hdrop]

theorem verdicts_awaited (hsync : findBinarySync r = some 0)
    (hwait : r.length < 28 ∨ frameSize r ≤ o.binaryMaxFrameSize ∧ r.length < frameSize r) :
    verdicts o r = [.awaited] := by
  rw [verdicts, hsync]
  simp only [List.drop_zero]
  rcases hwait with h | ⟨hsize, h⟩
  · rw [if_pos h]
  · rw [if_neg (Nat.not_lt.mpr hsize), if_pos h, ite_self]

theorem verdicts_tooLarge (hsync : findBinarySync r = some 0) (hlen : 28 ≤ r.length)
    (hsize : o.binaryMaxFrameSize < frameSize r) :
    verdicts o r = .tooLarge :: verdicts o (r.drop 1) := by
  rw [verdicts, hsync]
  simp only [List.drop_zero]
  rw [if_neg (by omega), if_pos hsize]

theorem verdicts_refused (hsync : findBinarySync r = some 0)
    (hsize : frameSize r ≤ o.binaryMaxFrameSize) (hlen : frameSize r ≤ r.length)
    (hcrc : crcOk r = false) (hstrict : o.strictBinaryCrc = true) :
    verdicts o r = .refused :: verdicts o (r.drop 1) := by
  have hmin := le_frameSize r
  rw [verdicts, hsync]
  simp only [List.drop_zero]
  rw [if_neg (by omega), if_neg (by omega), if_neg (by omega), if_pos ⟨hcrc, hstrict⟩]

theorem verdicts_frame (hsync : findBinarySync r = some 0)
    (hsize : frameSize r ≤ o.binaryMaxFrameSize) (hlen : frameSize r ≤ r.length)
    (hcrc : crcOk r = true ∨ o.strictBinaryCrc = false) :
    verdicts o r = .frame (r.take (frameSize r)) :: verdicts o (r.drop (frameSize r)) := by
  have hmin := le_frameSize r
  rw [verdicts, hsync]
  simp only [List.drop_zero]
  rw [if_neg (by omega), if_neg (by omega), if_neg (by omega), if_neg]
  rintro ⟨hbad, hstrict⟩
  rcases hcrc with h | h
  · rw [h] at hbad; exact absurd hbad (by simp)
  · rw [h] at hstrict; exact absurd hstrict (by simp)

end Verdicts

/-- **The CRC errors of a strict transport** are the syncs refused for their CRC. -/
theorem crcErrors_verdicts (hstrict : o.strictBinaryCrc = true) (r : Bytes) :
    (tally (verdicts o r)).crcErrors = (verdicts o r).count .refused := by
  have hcons : ∀ (v : Verdict) (vs : List Verdict),
      (tally (v :: vs)).crcErrors = (tally [v]).crcErrors + (tally vs).crcErrors := fun v vs =>
    crcErrors_tally_append [v] vs
  induction hn : r.length using Nat.strongRecOn generalizing r with
  | ind n ih =>
    rw [verdicts]
    split
    · rfl
    · next k hk =>
      have hlt := firstMatch_lt hk
      have hmin := le_frameSize (r.drop k)
      dsimp only
      split
      · rfl
      split
      · rw [hcons, ih _ (by simp; omega) _ rfl, List.count_cons_of_ne (by nofun)]
        exact Nat.zero_add _
      split
      · rfl
      split
      · rw [hcons, ih _ (by simp; omega) _ rfl, List.count_cons_self, Nat.add_comm]
        rfl
      · next hok =>
        have hcrc : crcOk ((r.drop k).take (frameSize (r.drop k))) = true := by
          rw [(decode_take (r.drop k)).2.1, ← Bool.not_eq_false]
          exact fun hbad => hok ⟨hbad, hstrict⟩
        have hone : (tally [.frame ((r.drop k).take (frameSize (r.drop k)))]).crcErrors = 0 := by
          simp [tally, Verdict.count, hcrc]
        rw [hcons, ih _ (by simp; omega) _ rfl, List.count_cons_of_ne (by nofun), hone,
          Nat.zero_add]

/-! ### Counting along a run -/

section Counted

variable {t t' : UnicoreTransport} {S u : Bytes} {segs : List Segment} {seg : Segment}

/-- The counters of `t` count the syncs of `S` up to the buffer, a candidate at its front that was
looked at already included, and the discarding passes of the history. -/
def Counted (S : Bytes) (t : UnicoreTransport) (u : Bytes) (segs : List Segment) : Prop :=
  (t.countedSyncCandidate = true → startsWithSync t.buffer = true) ∧
    ∃ done, verdicts t.options S = done ++ verdicts t.options (t.buffer ++ u) ∧
      t.binaryCounters =
        { tally (done ++ if t.countedSyncCandidate then [.awaited] else []) with
          resyncCount := segs.countP Segment.isDiscarded }

/-- Counting the sync at the front. -/
theorem Counted.countSyncCandidate (h : Counted S t u segs) :
    ∃ done, verdicts t.options S = done ++ verdicts t.options (t.buffer ++ u) ∧
      t.countSyncCandidate.countedSyncCandidate = true ∧
      t.countSyncCandidate.binaryCounters =
        { tally (done ++ [.awaited]) with resyncCount := segs.countP Segment.isDiscarded } := by
  obtain ⟨-, done, hdone, hcounters⟩ := h
  refine ⟨done, hdone, ?_⟩
  cases hc : t.countedSyncCandidate with
  | true =>
    rw [UnicoreTransport.countSyncCandidate, if_pos hc]
    rw [hc] at hcounters
    exact ⟨hc, hcounters⟩
  | false =>
    rw [hc, if_neg Bool.false_ne_true, List.append_nil] at hcounters
    rw [UnicoreTransport.countSyncCandidate, hc, if_neg Bool.false_ne_true]
    refine ⟨rfl, ?_⟩
    simp only [hcounters, tally_append, Verdict.count]

/-- A pass on a buffer with no sync at the front. -/
theorem Counted.of_quiet {n m : ℕ} (h : Counted S t u segs) (hn : n ≤ t.buffer.length)
    (hpos : 0 < n) (hquiet : ∀ j < n, startsWithSync ((t.buffer ++ u).drop j) = false)
    (hbuf : t'.buffer = t.buffer.drop n) (ho : t'.options = t.options)
    (hflag : t'.countedSyncCandidate = false)
    (hcounters : t'.binaryCounters =
      { t.binaryCounters with resyncCount := t.binaryCounters.resyncCount + m })
    (hm : m = [seg].countP Segment.isDiscarded) : Counted S t' u (segs ++ [seg]) := by
  obtain ⟨hfront, done, hdone, hold⟩ := h
  have hnot : t.countedSyncCandidate = false := by
    rw [← Bool.not_eq_true]
    intro hc
    have hsync := hfront hc
    rw [← isWindow_startsWithSync.append u (isWindow_startsWithSync.le_length hsync)] at hsync
    exact Bool.false_ne_true ((hquiet 0 hpos).symm.trans hsync)
  refine ⟨fun hc => absurd hc (by simp [hflag]), done, ?_, ?_⟩
  · rw [ho, hdone, verdicts_skip (by rw [List.length_append]; omega) hquiet,
      List.drop_append_of_le_length hn, hbuf]
  · rw [hnot] at hold
    rw [hcounters, hold, hflag, List.countP_append, ← hm]

/-- A pass on a buffer with a sync at the front, on which it gives its verdict. -/
theorem Counted.of_sync {v : Verdict} (h : Counted S t u segs)
    (hv : verdicts t.options (t.buffer ++ u) = v :: verdicts t.options (t'.buffer ++ u))
    (ho : t'.options = t.options) (hflag : t'.countedSyncCandidate = false)
    (hcounters : ∀ done, t.countSyncCandidate.binaryCounters =
        { tally (done ++ [.awaited]) with resyncCount := segs.countP Segment.isDiscarded } →
      t'.binaryCounters =
        { tally (done ++ [v]) with
          resyncCount := (segs ++ [seg]).countP Segment.isDiscarded }) :
    Counted S t' u (segs ++ [seg]) := by
  obtain ⟨done, hdone, -, hcount⟩ := h.countSyncCandidate
  refine ⟨fun hc => absurd hc (by simp [hflag]), done ++ [v], ?_, ?_⟩
  · rw [ho, hdone, hv, List.append_assoc, List.singleton_append]
  · rw [hcounters done hcount, hflag, if_neg Bool.false_ne_true, List.append_nil]

theorem readLe16_take_frame (b : Bytes) :
    readLe16 ((b.take (frameSize b)).drop 6) = readLe16 (b.drop 6) :=
  congrArg UnicoreBinaryFrame.payloadLength (decode_take b).2.2

/-- **One pass.** -/
theorem Counted.next (h : Counted S t u segs) (hseg : SegmentCase t seg t') :
    Counted S t' u (segs ++ [seg]) := by
  have hmin := le_frameSize t.buffer
  have happ : ∀ n ≤ t.buffer.length, (t.buffer ++ u).drop n = t.buffer.drop n ++ u := fun n hn =>
    List.drop_append_of_le_length hn
  have htake : ∀ n ≤ t.buffer.length, (t.buffer ++ u).take n = t.buffer.take n := fun n hn =>
    List.take_append_of_le_length hn
  have hlen : ∀ n ≤ t.buffer.length, n ≤ (t.buffer ++ u).length := fun n hn => by
    rw [List.length_append]
    omega
  cases hseg with
  | tooLarge hsync hlong hsize =>
    have hfs := frameSize_append (by omega : 8 ≤ t.buffer.length) u
    refine h.of_sync (v := .tooLarge) ?_ (by simp) rfl fun done hcount => ?_
    · rw [verdicts_tooLarge (isWindow_startsWithSync.firstMatch_append hsync u) (hlen 28 hlong)
        (by rw [hfs]; exact hsize), happ 1 (by omega)]
      simp
    · simp [countBinaryParseReason, UnicoreTransport.discard, UnicoreTransport.erase, hcount,
        tally_append, Verdict.count, List.countP_append]
  | crcReject hsync hsize hlong hcrc hstrict =>
    have hfs := frameSize_append (by omega : 8 ≤ t.buffer.length) u
    refine h.of_sync (v := .refused) ?_ (by simp) rfl fun done hcount => ?_
    · rw [verdicts_refused (isWindow_startsWithSync.firstMatch_append hsync u)
        (by rw [hfs]; exact hsize) (by rw [hfs]; exact hlen _ hlong)
        (by rw [(decode_append hlong u).1]; exact hcrc) hstrict, happ 1 (by omega)]
      simp
    · simp [countCrcError, countBinaryParseReason, UnicoreTransport.discard,
        UnicoreTransport.erase, hcount, tally_append, Verdict.count, List.countP_append]
  | frame hsync hsize hlong hcrc =>
    have hfs := frameSize_append (by omega : 8 ≤ t.buffer.length) u
    refine h.of_sync (v := .frame (t.buffer.take (frameSize t.buffer))) ?_ (by simp) rfl
      fun done hcount => ?_
    · rw [verdicts_frame (isWindow_startsWithSync.firstMatch_append hsync u)
        (by rw [hfs]; exact hsize) (by rw [hfs]; exact hlen _ hlong)
        (.inl (by rw [(decode_append hlong u).1]; exact hcrc)), hfs, happ _ hlong, htake _ hlong]
      simp
    · simp [takeFrame, UnicoreTransport.erase, hcount, tally_append, Verdict.count,
        List.countP_append, (decode_take t.buffer).2.1, hcrc, readLe16_take_frame]
  | frameLenient hsync hsize hlong hcrc hstrict =>
    have hfs := frameSize_append (by omega : 8 ≤ t.buffer.length) u
    refine h.of_sync (v := .frame (t.buffer.take (frameSize t.buffer))) ?_ (by simp) rfl
      fun done hcount => ?_
    · rw [verdicts_frame (isWindow_startsWithSync.firstMatch_append hsync u)
        (by rw [hfs]; exact hsize) (by rw [hfs]; exact hlen _ hlong) (.inr hstrict), hfs,
        happ _ hlong, htake _ hlong]
      simp
    · simp [takeFrame, countCrcError, countBinaryParseReason, UnicoreTransport.erase, hcount,
        tally_append, Verdict.count, List.countP_append, (decode_take t.buffer).2.1, hcrc,
        readLe16_take_frame]
  | line newline hnl hfirst =>
    exact h.of_quiet (n := newline + 1) (m := 0) (firstMatch_lt hnl) (Nat.succ_pos _)
      (fun j hj => quiet_of_line hnl hfirst hj) rfl rfl rfl rfl rfl
  | skip sync hpos hsync _ =>
    exact h.of_quiet (n := sync) (m := 1) (Nat.le_of_lt (firstMatch_lt hsync)) hpos
      (fun j hj => firstMatch_first (isWindow_startsWithSync.firstMatch_append hsync u) hj)
      rfl rfl rfl rfl rfl
  | drop hbuf hsync _ _ hfront =>
    refine h.of_quiet (n := 1) (m := 1) (List.length_pos_iff.mpr hbuf) Nat.one_pos
      (fun j hj => ?_) rfl rfl rfl rfl rfl
    obtain rfl : j = 0 := by omega
    exact quiet_of_drop hsync hbuf hfront

theorem countedSyncCandidate_countSyncCandidate (t : UnicoreTransport) :
    t.countSyncCandidate.countedSyncCandidate = true := by
  cases hc : t.countedSyncCandidate <;> simp [UnicoreTransport.countSyncCandidate, hc]

/-- A pass that stops. -/
theorem Counted.stop (hbin : t.options.enableBinary = true) (h : Counted S t u segs)
    (hpass : t.drainPass = .stop t') : Counted S t' u segs := by
  have hcase := passCase_drainPass t
  rw [hpass] at hcase
  cases hcase with
  | empty _ => exact h
  | asciiWait hascii _ => rw [hbin] at hascii; exact absurd hascii (by simp)
  | await _ hsync _ =>
    obtain ⟨done, hdone, hflag, hcount⟩ := h.countSyncCandidate
    refine ⟨fun _ => by simpa using firstMatch_holds hsync, done, by simpa using hdone, ?_⟩
    rw [hcount, hflag, if_pos rfl]
  | hold _ _ _ _ => exact h

/-- When a pass has stopped, the only sync left is a counted candidate. -/
theorem verdicts_of_stop (hbin : t.options.enableBinary = true)
    (hfront : t'.countedSyncCandidate = true → startsWithSync t'.buffer = true)
    (hpass : t.drainPass = .stop t') :
    verdicts t'.options t'.buffer = if t'.countedSyncCandidate then [.awaited] else [] := by
  have hnone : ∀ {s : UnicoreTransport}, findBinarySync s.buffer = none →
      (s.countedSyncCandidate = true → startsWithSync s.buffer = true) →
      verdicts s.options s.buffer = if s.countedSyncCandidate then [.awaited] else [] := by
    intro s hsync hfront
    have hnot : s.countedSyncCandidate = false := by
      rw [← Bool.not_eq_true]
      intro hc
      have hstart := hfront hc
      have hlen := isWindow_startsWithSync.le_length hstart
      rw [findBinarySync, (firstMatch_eq_zero_iff (List.length_pos_iff.mp (by omega))).mpr
        hstart] at hsync
      exact absurd hsync (by simp)
    rw [verdicts_none hsync, hnot, if_neg Bool.false_ne_true]
  have hcase := passCase_drainPass t
  rw [hpass] at hcase
  cases hcase with
  | empty hbuf => exact hnone (by rw [hbuf]; rfl) hfront
  | asciiWait hascii _ => rw [hbin] at hascii; exact absurd hascii (by simp)
  | await _ hsync hwait =>
    rw [countedSyncCandidate_countSyncCandidate, if_pos rfl, buffer_countSyncCandidate,
      options_countSyncCandidate, verdicts_awaited hsync hwait]
  | hold _ hsync _ _ => exact hnone hsync hfront

/-- **The counters along a run**, whatever is received after it. -/
theorem counted_run {o : UnicoreTransportOptions} (hbin : o.enableBinary = true)
    (calls : List (Call UInt8)) (u : Bytes) :
    (history.run calls (fresh o)).2.options = o ∧
      Counted (Call.received calls ++ u) (history.run calls (fresh o)).2 u
        (history.run calls (fresh o)).1 := by
  have key := history_induction
    (P := fun t v segs => t.options = o ∧ Counted (Call.received calls ++ u) t v segs)
    (fun t c v segs ⟨ho, hfront, done, hdone, hcounters⟩ => by
      refine ⟨ho, fun hc => ?_, done, by simpa using hdone, hcounters⟩
      have hsync := hfront hc
      rwa [buffer_append, isWindow_startsWithSync.append c
        (isWindow_startsWithSync.le_length hsync)])
    (fun t t' v segs hstop ⟨ho, hcounted⟩ =>
      ⟨(buffer_of_stop hstop).1.trans ho, hcounted.stop (by rw [ho]; exact hbin) hstop⟩)
    (fun t out t' v segs hnext ⟨ho, hcounted⟩ => by
      obtain ⟨hseg, -⟩ := segmentCase_of_next (by rw [ho]; exact hbin) hnext
      exact ⟨hseg.buffer_eq.2.trans ho, hcounted.next hseg⟩)
    calls (fresh o) u [] ⟨rfl, fun hc => absurd hc (by simp [fresh]), [], by simp, rfl⟩
  simpa using key

/-- **The counters after a run** that ends in a drain. -/
theorem binaryCounters_run (strict : Bool) (max : ℕ) (calls : List (Call UInt8)) :
    let o := binaryOptions strict max
    (run (calls ++ [.drain]) (fresh o)).2.binaryCounters =
      { tally (verdicts o (Call.received calls)) with
        resyncCount :=
          (history.run (calls ++ [.drain]) (fresh o)).1.countP Segment.isDiscarded } := by
  intro o
  obtain ⟨ho, hfront, done, hdone, hcounters⟩ :=
    counted_run (o := o) rfl (calls ++ [.drain]) []
  obtain ⟨t₀, hstop⟩ := exists_stop_of_run_drain calls (fresh o)
  have hlast := verdicts_of_stop (by rw [← (buffer_of_stop hstop).1, ho]; rfl) hfront hstop
  rw [List.append_nil, List.append_nil, hlast, Call.received_append, Call.received_drain,
    Call.received_nil, List.append_nil] at hdone
  rw [run_eq_history, hcounters, ← hdone, ho]

/-- **CRC errors from an empty buffer on** are those of the syncs received from there on. -/
theorem crcErrors_run_of_empty (strict : Bool) (max : ℕ) (before calls : List (Call UInt8)) :
    let o := binaryOptions strict max
    let t := (run before (fresh o)).2
    t.buffer = [] →
      (run (calls ++ [.drain]) t).2.binaryCounters.crcErrors =
        t.binaryCounters.crcErrors + (tally (verdicts o (Call.received calls))).crcErrors := by
  intro o t hempty
  have ht : (history.run before (fresh o)).2 = t :=
    (congrArg Prod.snd (run_eq_history before (fresh o))).symm
  obtain ⟨ho, hfront, done, hdone, hcounters⟩ :=
    counted_run (o := o) rfl before (Call.received calls)
  rw [ht] at ho hfront hdone hcounters
  -- no candidate is pending, for there is nothing in the buffer
  have hflag : t.countedSyncCandidate = false := by
    rw [← Bool.not_eq_true]
    intro hc
    have hstart := hfront hc
    rw [hempty] at hstart
    exact absurd hstart (by decide)
  rw [hflag, if_neg Bool.false_ne_true, List.append_nil] at hcounters
  rw [ho, hempty, List.nil_append] at hdone
  calc (run (calls ++ [.drain]) t).2.binaryCounters.crcErrors
      = (run (before ++ calls ++ [.drain]) (fresh o)).2.binaryCounters.crcErrors := by
        rw [List.append_assoc]
        exact (congrArg (fun r => r.2.binaryCounters.crcErrors)
          (reader.run_append before (calls ++ [.drain]) (fresh o))).symm
    _ = (tally (verdicts o (Call.received (before ++ calls)))).crcErrors := by
        rw [binaryCounters_run]
    _ = t.binaryCounters.crcErrors + (tally (verdicts o (Call.received calls))).crcErrors := by
        rw [Call.received_append, hdone, crcErrors_tally_append, hcounters]

end Counted

end UnicoreGnss
