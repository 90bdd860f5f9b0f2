import UnicoreGnss.Transport.Residue
import UnicoreGnss.Transport.Scan
import Mathlib.Data.List.DropRight

/-!
# The books of the sync candidates

A sync at the front of the buffer is counted as a candidate when it is first looked at, and may
then wait for the rest of its frame over many drains. In the end it is handed out as a frame, is
refused, or is thrown away by a `clear`. `Books` says that the counters agree with this at any time:
every candidate has one of these ends or is the one at the front. It is
`counted_sync_candidate` that keeps a waiting candidate from being counted again, and its meaning is
part of the invariant: it is set only while the buffer starts with a sync, and after a drain exactly
then.

Outside the strict mode a frame with a wrong CRC is a CRC error and a frame, so there the errors are
among the frames.

## Main definitions

* `emitted` — what a run of `append`, `drain` and `clear` hands out
* `leavesCandidate`, `lostCandidates` — the candidates that a `clear` throws away
* `Books` — the invariant

## Main results

* `counters_runOps_drain` — the counters after every drain of every run
-/

namespace UnicoreGnss

open FirstMatch UnicoreTransport

/-- The events of one operation. -/
def Op.events (t : UnicoreTransport) : Op → List UnicoreTransportEvent
  | append _ => []
  | drain => t.drain.1
  | clear => []

/-- The events of a run of operations. -/
def emitted : List Op → UnicoreTransport → List UnicoreTransportEvent
  | [], _ => []
  | op :: ops, t => op.events t ++ emitted ops (op.apply t)

/-- Is it an `append`? -/
def Op.isAppend : Op → Bool
  | append _ => true
  | _ => false

/-- Has the last `drain`, with no `clear` behind it, left a buffer that starts with a sync? -/
def leavesCandidate (o : UnicoreTransportOptions) (before : List Op) : Bool :=
  let upTo := before.rdropWhile Op.isAppend
  upTo.getLast? == some .drain && startsWithSync (runOps upTo (fresh o)).buffer

/-- How many calls of `clear` have thrown a candidate away. -/
def lostCandidates (o : UnicoreTransportOptions) (ops : List Op) : ℕ :=
  (List.range ops.length).countP fun n =>
    ops[n]? == some .clear && leavesCandidate o (ops.take n)

/-! ### Runs, from the end -/

section Runs

variable {o : UnicoreTransportOptions} {ops : List Op} {op : Op} {t : UnicoreTransport}

theorem runOps_concat (ops : List Op) (op : Op) (t : UnicoreTransport) :
    runOps (ops ++ [op]) t = op.apply (runOps ops t) := by
  rw [runOps, List.foldl_append]
  rfl

theorem emitted_concat (ops : List Op) (op : Op) (t : UnicoreTransport) :
    emitted (ops ++ [op]) t = emitted ops t ++ op.events (runOps ops t) := by
  induction ops generalizing t with
  | nil => simp [emitted, runOps]
  | cons first ops ih =>
    rw [List.cons_append, emitted, emitted, ih, List.append_assoc]
    rfl

theorem leavesCandidate_append (data : Bytes) :
    leavesCandidate o (ops ++ [.append data]) = leavesCandidate o ops := by
  rw [leavesCandidate, List.rdropWhile_concat_pos _ _ _ rfl, leavesCandidate]

/-- Behind anything but an `append`, only the last operation matters. -/
theorem leavesCandidate_concat (h : op.isAppend = false) :
    leavesCandidate o (ops ++ [op]) =
      (op == .drain && startsWithSync (runOps (ops ++ [op]) (fresh o)).buffer) := by
  rw [leavesCandidate, List.rdropWhile_concat_neg _ _ _ (by simp [h]), List.getLast?_concat]
  rfl

theorem lostCandidates_concat :
    lostCandidates o (ops ++ [op]) =
      lostCandidates o ops + if op = .clear ∧ leavesCandidate o ops = true then 1 else 0 := by
  have hbefore : ∀ n ∈ List.range ops.length,
      ((ops ++ [op])[n]? == some .clear && leavesCandidate o ((ops ++ [op]).take n)) =
        (ops[n]? == some .clear && leavesCandidate o (ops.take n)) := by
    intro n hn
    have hlt := List.mem_range.mp hn
    rw [List.getElem?_append_left hlt, List.take_append_of_le_length (Nat.le_of_lt hlt)]
  rw [lostCandidates, List.length_append, List.length_singleton, List.range_succ,
    List.countP_append, List.countP_singleton, List.getElem?_concat_length,
    List.take_left, lostCandidates]
  congr 1
  · exact List.countP_congr fun n hn => by rw [hbefore n hn]
  · simp

end Runs

namespace UnicoreTransport

/-! ### The invariant -/

/-- The books of a transport that has handed out `frames` frames and lost `lost` candidates to
`clear`. -/
structure Books (strict : Bool) (t : UnicoreTransport) (frames lost : ℕ) : Prop where
  enableBinary : t.options.enableBinary = true
  strictBinaryCrc : t.options.strictBinaryCrc = strict
  /-- The flag is about the sync at the front. -/
  flag : t.countedSyncCandidate = true → startsWithSync t.buffer = true
  framesTotal : t.binaryCounters.framesTotal = frames
  crcErrors : t.binaryCounters.crcErrors =
    t.binaryCounters.frameParseErrorsByReason .crcMismatch
  /-- Every candidate has been handed out, refused or lost, or is waiting. -/
  syncCandidates : t.binaryCounters.syncCandidates =
    t.binaryCounters.framesTotal + t.binaryCounters.frameParseErrorsByReason .frameTooLarge +
      (if strict then t.binaryCounters.crcErrors else 0) +
      (if t.countedSyncCandidate then 1 else 0) + lost
  lenient : strict = false → t.binaryCounters.crcErrors ≤ t.binaryCounters.framesTotal

variable {strict : Bool} {t t' : UnicoreTransport} {out : List UnicoreTransportEvent}
  {frames lost : ℕ}

theorem books_fresh (strict : Bool) (max : ℕ) :
    Books strict (fresh (binaryOptions strict max)) 0 0 :=
  ⟨rfl, rfl, by simp [fresh], rfl, rfl, by simp [fresh], fun _ => Nat.le_refl 0⟩

/-- A candidate is counted when the flag is set. -/
theorem Books.countSyncCandidate (h : Books strict t frames lost)
    (hsync : startsWithSync t.buffer = true) :
    Books strict t.countSyncCandidate frames lost ∧
      t.countSyncCandidate.countedSyncCandidate = true := by
  unfold UnicoreTransport.countSyncCandidate
  by_cases hflag : t.countedSyncCandidate = true
  · rw [if_pos hflag]
    exact ⟨h, hflag⟩
  rw [if_neg hflag]
  have hcount := h.syncCandidates
  rw [if_neg hflag] at hcount
  refine ⟨{ h with flag := fun _ => hsync, syncCandidates := ?_ }, rfl⟩
  simp only [if_true]
  omega

/-! ### What a pass does to the books -/

theorem startsWithSync_eq_false {b : Bytes} (h : findBinarySync b ≠ some 0) :
    startsWithSync b = false := by
  rcases eq_or_ne b [] with rfl | hne
  · rfl
  · rwa [← Bool.not_eq_true, ← firstMatch_eq_zero_iff hne]

/-- No candidate is waiting while something else is at the front. -/
theorem Books.flag_eq_false (h : Books strict t frames lost)
    (hsync : startsWithSync t.buffer = false) : t.countedSyncCandidate = false := by
  rw [← Bool.not_eq_true]
  intro hflag
  rw [h.flag hflag] at hsync
  cases hsync

theorem Books.discard (h : Books strict t frames lost) (hflag : t.countedSyncCandidate = false)
    (n : ℕ) : Books strict (t.discard n) frames lost := by
  have hcount := h.syncCandidates
  rw [hflag] at hcount
  exact { h with flag := by simp [UnicoreTransport.discard], syncCandidates := hcount }

theorem Books.takeLine (h : Books strict t frames lost) (hflag : t.countedSyncCandidate = false)
    (n : ℕ) : Books strict (t.takeLine n) frames lost := by
  have hcount := h.syncCandidates
  rw [hflag] at hcount
  exact { h with flag := by simp [UnicoreTransport.takeLine], syncCandidates := hcount }

theorem Books.tooLarge (h : Books strict t frames lost) (hflag : t.countedSyncCandidate = true) :
    Books strict ((t.discard 1).countBinaryParseReason .frameTooLarge) frames lost := by
  have hcount := h.syncCandidates
  rw [if_pos hflag] at hcount
  refine { h with flag := ?_, crcErrors := ?_, syncCandidates := ?_ }
  · simp [UnicoreTransport.discard, countBinaryParseReason]
  · simpa [UnicoreTransport.discard, countBinaryParseReason] using h.crcErrors
  · simp only [UnicoreTransport.discard, countBinaryParseReason, Function.update_self,
      Bool.false_eq_true, if_false, erase]
    omega

theorem Books.crcReject (h : Books true t frames lost) (hflag : t.countedSyncCandidate = true) :
    Books true (t.countCrcError.discard 1) frames lost := by
  have hcount := h.syncCandidates
  have herrors := h.crcErrors
  rw [if_pos hflag] at hcount
  refine { h with flag := ?_, crcErrors := ?_, syncCandidates := ?_, lenient := ?_ }
  · simp [UnicoreTransport.discard]
  · simp only [UnicoreTransport.discard, erase, countCrcError, countBinaryParseReason,
      Function.update_self]
    omega
  · simp only [UnicoreTransport.discard, erase, countCrcError, countBinaryParseReason,
      Bool.false_eq_true, if_false, if_true, ne_eq, reduceCtorEq, not_false_eq_true,
      Function.update_of_ne] at hcount ⊢
    omega
  · rintro ⟨⟩

theorem Books.takeFrame (h : Books strict t frames lost) (hflag : t.countedSyncCandidate = true) :
    Books strict t.takeFrame (frames + 1) lost := by
  have hcount := h.syncCandidates
  have hframes := h.framesTotal
  rw [if_pos hflag] at hcount
  refine { h with flag := ?_, framesTotal := ?_, syncCandidates := ?_, lenient := ?_ }
  · simp [UnicoreTransport.takeFrame]
  · simpa [UnicoreTransport.takeFrame, erase] using hframes
  · simp only [UnicoreTransport.takeFrame, erase, Bool.false_eq_true, if_false]
    omega
  · intro hstrict
    have hle := h.lenient hstrict
    simp only [UnicoreTransport.takeFrame, erase]
    omega

/-- A frame with a wrong CRC that is let through is an error and a frame. -/
theorem Books.takeFrame_crcError (h : Books false t frames lost)
    (hflag : t.countedSyncCandidate = true) :
    Books false t.countCrcError.takeFrame (frames + 1) lost := by
  have hcount := h.syncCandidates
  have hframes := h.framesTotal
  have herrors := h.crcErrors
  have hle := h.lenient rfl
  rw [if_pos hflag] at hcount
  refine { h with
    flag := ?_, framesTotal := ?_, crcErrors := ?_, syncCandidates := ?_, lenient := ?_ }
  · simp [UnicoreTransport.takeFrame]
  · simpa [UnicoreTransport.takeFrame, erase, countCrcError, countBinaryParseReason] using hframes
  · simp only [UnicoreTransport.takeFrame, erase, countCrcError, countBinaryParseReason,
      Function.update_self]
    omega
  · simp only [UnicoreTransport.takeFrame, erase, countCrcError, countBinaryParseReason,
      Bool.false_eq_true, if_false, ne_eq, reduceCtorEq, not_false_eq_true,
      Function.update_of_ne] at hcount ⊢
    omega
  · intro _
    simp only [UnicoreTransport.takeFrame, erase, countCrcError, countBinaryParseReason]
    omega

/-- What one pass that goes on does to the books. -/
theorem Books.next (h : Books strict t frames lost) (hpass : t.drainPass = .next out t') :
    Books strict t' (frames + (binaryFrames out).length) lost := by
  have hcase := passCase_drainPass t
  rw [hpass] at hcase
  -- at a sync the candidate is counted first, elsewhere none is waiting
  have hfront : findBinarySync t.buffer = some 0 → Books strict t.countSyncCandidate frames lost ∧
      t.countSyncCandidate.countedSyncCandidate = true := fun hsync =>
    h.countSyncCandidate (firstMatch_holds hsync)
  have hback : findBinarySync t.buffer ≠ some 0 → t.countedSyncCandidate = false := fun hsync =>
    h.flag_eq_false (startsWithSync_eq_false hsync)
  cases hcase with
  | asciiLine _ hascii _ =>
    rw [h.enableBinary] at hascii
    cases hascii
  | tooLarge _ hsync _ _ =>
    obtain ⟨hbooks, hflag⟩ := hfront hsync
    exact hbooks.tooLarge hflag
  | crcReject _ hsync _ _ _ hstrict =>
    obtain ⟨hbooks, hflag⟩ := hfront hsync
    rw [h.strictBinaryCrc] at hstrict
    subst hstrict
    exact hbooks.crcReject hflag
  | frame _ hsync _ _ _ =>
    obtain ⟨hbooks, hflag⟩ := hfront hsync
    exact hbooks.takeFrame hflag
  | frameLenient _ hsync _ _ _ hstrict =>
    obtain ⟨hbooks, hflag⟩ := hfront hsync
    rw [h.strictBinaryCrc] at hstrict
    subst hstrict
    exact hbooks.takeFrame_crcError hflag
  | line newline _ hnl hfirst =>
    rw [binaryFrames_lineEvents]
    exact h.takeLine (hback fun hsync => absurd (hfirst 0 hsync) (Nat.not_lt_zero _)) newline
  | skip sync _ hpos hsync _ =>
    refine h.discard (hback fun hzero => ?_) sync
    rw [hsync, Option.some_inj] at hzero
    omega
  | drop _ hbuf hsync _ _ _ => exact h.discard (hback (by rw [hsync]; simp)) 1

/-- What the pass that ends a drain does to the books. Now the flag says what is at the front. -/
theorem Books.stop (h : Books strict t frames lost) (hpass : t.drainPass = .stop t') :
    Books strict t' frames lost ∧ t'.countedSyncCandidate = startsWithSync t'.buffer := by
  have hcase := passCase_drainPass t
  rw [hpass] at hcase
  cases hcase with
  | empty hbuf =>
    have hsync : startsWithSync t.buffer = false := by rw [hbuf]; rfl
    exact ⟨h, by rw [hsync, h.flag_eq_false hsync]⟩
  | asciiWait hascii _ =>
    rw [h.enableBinary] at hascii
    cases hascii
  | await _ hfind _ =>
    have hsync : startsWithSync t.buffer = true := firstMatch_holds hfind
    obtain ⟨hbooks, hflag⟩ := h.countSyncCandidate hsync
    exact ⟨hbooks, by rw [hflag, buffer_countSyncCandidate, hsync]⟩
  | hold _ hfind _ _ =>
    have hsync : startsWithSync t.buffer = false := startsWithSync_eq_false (by rw [hfind]; simp)
    exact ⟨h, by rw [hsync, h.flag_eq_false hsync]⟩

/-- A whole drain. -/
theorem Books.drain (h : Books strict t frames lost) :
    Books strict t.drain.2 (frames + (binaryFrames t.drain.1).length) lost ∧
      t.drain.2.countedSyncCandidate = startsWithSync t.drain.2.buffer := by
  suffices hall : ∀ frames, Books strict t frames lost →
      Books strict (reader.drain t).2 (frames + (binaryFrames (reader.drain t).1).length) lost ∧
        (reader.drain t).2.countedSyncCandidate = startsWithSync (reader.drain t).2.buffer from
    hall frames h
  refine reader.drain_induction (motive := fun t r => ∀ frames, Books strict t frames lost →
    Books strict r.2 (frames + (binaryFrames r.1).length) lost ∧
      r.2.countedSyncCandidate = startsWithSync r.2.buffer) ?_ ?_ t
  · intro t t' hpass frames h
    exact h.stop hpass
  · intro t out t' hpass ih frames h
    rw [binaryFrames_append, List.length_append, ← Nat.add_assoc]
    exact ih _ (h.next hpass)

theorem Books.append (h : Books strict t frames lost) (data : Bytes) :
    Books strict (t.append data) frames lost := by
  refine { h with flag := fun hflag => ?_ }
  have hsync := h.flag hflag
  rwa [buffer_append,
    isWindow_startsWithSync.append data (isWindow_startsWithSync.le_length hsync)]

/-- A `clear` loses the candidate that is waiting. -/
theorem Books.clear (h : Books strict t frames lost) :
    Books strict t.clear frames (lost + if t.countedSyncCandidate then 1 else 0) := by
  have hcount := h.syncCandidates
  refine { h with flag := by simp [UnicoreTransport.clear], syncCandidates := ?_ }
  simp only [UnicoreTransport.clear, Bool.false_eq_true, if_false]
  omega

end UnicoreTransport

/-! ### Runs -/

/-- **The books of every run.** The flag of the transport is what the run says about the last
drain. -/
theorem books_runOps (strict : Bool) (max : ℕ) (ops : List Op) :
    let o := binaryOptions strict max
    Books strict (runOps ops (fresh o)) (binaryFrames (emitted ops (fresh o))).length
      (lostCandidates o ops) ∧
    (runOps ops (fresh o)).countedSyncCandidate = leavesCandidate o ops := by
  intro o
  induction ops using List.reverseRecOn with
  | nil => exact ⟨books_fresh strict max, rfl⟩
  | append_singleton ops op ih =>
    obtain ⟨hbooks, hflag⟩ := ih
    rw [emitted_concat, binaryFrames_append, List.length_append, lostCandidates_concat,
      runOps_concat]
    cases op with
    | append data =>
      rw [leavesCandidate_append, if_neg (by simp)]
      exact ⟨hbooks.append data, hflag⟩
    | drain =>
      obtain ⟨hdrain, hsync⟩ := hbooks.drain
      rw [leavesCandidate_concat rfl, runOps_concat, if_neg (by simp)]
      exact ⟨hdrain, hsync⟩
    | clear =>
      have hclear := hbooks.clear
      rw [hflag] at hclear
      rw [leavesCandidate_concat rfl]
      refine ⟨?_, rfl⟩
      simpa [Op.apply, Op.events, binaryFrames] using hclear

/-- **The counters after every drain of every run.** A candidate has become a frame, was refused,
was thrown away by a `clear`, or is at the front of the buffer. -/
theorem counters_runOps_drain (strict : Bool) (max : ℕ) (ops : List Op) :
    let o := binaryOptions strict max
    let t := runOps (ops ++ [.drain]) (fresh o)
    let counters := t.binaryCounters
    let waiting := if startsWithSync t.buffer then 1 else 0
    let lost := lostCandidates o ops
    counters.framesTotal = (binaryFrames (emitted (ops ++ [.drain]) (fresh o))).length ∧
    counters.crcErrors = counters.frameParseErrorsByReason .crcMismatch ∧
    (strict = true → counters.syncCandidates =
      counters.framesTotal + counters.frameParseErrorsByReason .frameTooLarge +
        counters.crcErrors + waiting + lost) ∧
    (strict = false → counters.syncCandidates =
      counters.framesTotal + counters.frameParseErrorsByReason .frameTooLarge + waiting + lost ∧
      counters.crcErrors ≤ counters.framesTotal) := by
  intro o t counters waiting lost
  obtain ⟨hbooks, hflag⟩ := books_runOps strict max (ops ++ [.drain])
  have hlost : lostCandidates o (ops ++ [.drain]) = lost := by
    rw [lostCandidates_concat, if_neg (by simp), Nat.add_zero]
  have hwaiting : t.countedSyncCandidate = startsWithSync t.buffer := by
    rw [leavesCandidate_concat rfl] at hflag
    exact hflag
  have hcount : counters.syncCandidates =
      counters.framesTotal + counters.frameParseErrorsByReason .frameTooLarge +
        (if strict then counters.crcErrors else 0) + waiting + lost := by
    have hcandidates := hbooks.syncCandidates
    rwa [hlost, hwaiting] at hcandidates
  refine ⟨hbooks.framesTotal, hbooks.crcErrors, ?_, ?_⟩
  · rintro rfl
    exact hcount
  · rintro rfl
    exact ⟨hcount, hbooks.lenient rfl⟩

/-- A sync that waits over two drains and is thrown away is one candidate. -/
example :
    let o := binaryOptions true 4096
    let ops : List Op := [.append binarySync, .drain, .append [0], .drain, .append [1], .clear]
    (runOps (ops ++ [.drain]) (fresh o)).binaryCounters.syncCandidates = 1 ∧
      lostCandidates o ops = 1 := by
  decide

end UnicoreGnss
