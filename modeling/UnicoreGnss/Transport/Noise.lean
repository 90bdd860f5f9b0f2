import UnicoreGnss.Transport.MakeFrame

/-!
# A frame behind noise

A false sync in the noise in front of a frame can announce a length that reaches into the frame or
past it, and the transport waits for those bytes and checks a CRC over them. In strict mode a false
sync whose CRC does not match gives up one byte only, so what is scanned next is the same stream
from the next position on. By induction over the candidates the scan arrives at the frame, and
`framesAt_history_eq_scan` brings this back to the runs of the transport.

## Main results

* `mem_scan_of_noise` — the scan arrives at the frame
* `frame_mem_run_of_noise` — the frame is emitted, at its position
-/

namespace UnicoreGnss

open FirstMatch UnicoreTransport

/-! ### The scan arrives at the frame -/

section Noise

variable {max : ℕ} {p f q : Bytes}

/-- A frame read off its own bytes, with more bytes behind it. -/
theorem ValidFrame.append (hf : ValidFrame f) (q : Bytes) :
    findBinarySync (f ++ q) = some 0 ∧ frameSize (f ++ q) = f.length ∧ crcOk (f ++ q) = true ∧
      decodeFrame (f ++ q) = decodeFrame f := by
  have hsize := hf.size
  have hmin := le_frameSize f
  have hne : f ++ q ≠ [] := by
    rw [Ne, ← List.length_eq_zero_iff, List.length_append]
    omega
  obtain ⟨hcrc, hdec⟩ := decode_append (Nat.le_of_eq hsize) q
  refine ⟨?_, ?_, by rw [hcrc, hf.crc], hdec⟩
  · rw [findBinarySync, firstMatch_eq_zero_iff hne,
      isWindow_startsWithSync.append q (by omega), hf.sync]
  · rw [frameSize_append (by omega), hsize]

/-- A sync that begins in front of a frame ends there too. -/
theorem startsWithSync_of_noise (hf : ValidFrame f) {j : ℕ} (hj : j < p.length)
    (h : startsWithSync ((p ++ f ++ q).drop j) = true) : startsWithSync (p.drop j) = true := by
  obtain ⟨r, hr⟩ := startsWithSync_iff.mp hf.sync
  rw [hr, List.append_assoc, List.drop_append_of_le_length (by omega)] at h
  have hpos : 0 < (p.drop j).length := by rw [List.length_drop]; omega
  -- were the sync cut by the end of `p`, its second or third byte would be `0xAA`
  match hd : p.drop j with
  | [] => rw [hd] at hpos; exact absurd hpos (by simp)
  | [x] => rw [hd] at h; simp [startsWithSync, binarySync] at h
  | [x, y] => rw [hd] at h; simp [startsWithSync, binarySync] at h
  | x :: y :: z :: l =>
    rw [hd] at h
    rw [← h]
    exact (isWindow_startsWithSync.append _ (by simp)).symm

/-- **The scan arrives at the frame** from anywhere in the noise. -/
theorem mem_scan_of_noise (hf : ValidFrame f) (hmax : f.length ≤ max) (hq : max ≤ q.length)
    (hfalse : ∀ j, startsWithSync (p.drop j) = true → frameSize ((p ++ f ++ q).drop j) ≤ max →
      p.length < j + frameSize ((p ++ f ++ q).drop j) → crcOk ((p ++ f ++ q).drop j) = false)
    {i : ℕ} (hi : i ≤ p.length) :
    (p.length, decodeFrame f) ∈ scan (binaryOptions true max) (p ++ f ++ q) i := by
  have hmin := hf.size ▸ le_frameSize f
  have hrest : (p ++ f ++ q).drop p.length = f ++ q := by rw [List.append_assoc, List.drop_left]
  obtain ⟨hsync, hsize, hcrc, hdec⟩ := hf.append q
  induction hn : p.length - i using Nat.strongRecOn generalizing i with
  | ind n ih =>
    have hdrop : ∀ j, ((p ++ f ++ q).drop j).length = p.length + f.length + q.length - j := by
      intro j
      simp
      omega
    -- the next sync, at the latest that of the frame
    obtain ⟨k, hk, hfirst⟩ := firstMatch_le (p := startsWithSync) (l := (p ++ f ++ q).drop i)
      (i := p.length - i) (by rw [hdrop]; omega) (by
        rw [List.drop_drop, Nat.add_sub_cancel' hi, hrest]
        simpa using firstMatch_holds hsync)
    rw [scan_skip (n := k) (by rw [hdrop]; omega) fun j hj => firstMatch_first hfirst hj]
    have hat : findBinarySync ((p ++ f ++ q).drop (i + k)) = some 0 := by
      rw [← List.drop_drop, findBinarySync, firstMatch_drop hfirst (Nat.le_refl k), Nat.sub_self]
    have hlen := hdrop (i + k)
    rcases Nat.lt_or_ge (i + k) p.length with hlt | hge
    · have hinside := startsWithSync_of_noise (q := q) hf hlt
        (by simpa using firstMatch_holds hat)
      -- a refused sync gives up one byte
      have hreject : (binaryOptions true max).binaryMaxFrameSize <
            frameSize ((p ++ f ++ q).drop (i + k)) ∨
          frameSize ((p ++ f ++ q).drop (i + k)) ≤ ((p ++ f ++ q).drop (i + k)).length ∧
            crcOk ((p ++ f ++ q).drop (i + k)) = false ∧
              (binaryOptions true max).strictBinaryCrc = true →
          (p.length, decodeFrame f) ∈ scan (binaryOptions true max) (p ++ f ++ q) (i + k) := by
        intro href
        rw [scan_reject hat (by omega) href]
        exact ih (p.length - (i + k + 1)) (by omega) (by omega) rfl
      rcases Nat.lt_or_ge max (frameSize ((p ++ f ++ q).drop (i + k))) with hbig | hfits
      · exact hreject (.inl hbig)
      cases hok : crcOk ((p ++ f ++ q).drop (i + k)) with
      | false => exact hreject (.inr ⟨by omega, hok, rfl⟩)
      | true =>
        -- a whole frame in the noise, which ends there
        have hend : i + k + frameSize ((p ++ f ++ q).drop (i + k)) ≤ p.length := by
          by_contra hpast
          rw [hfalse _ hinside hfits (by omega)] at hok
          exact Bool.false_ne_true hok
        have hpos := le_frameSize ((p ++ f ++ q).drop (i + k))
        rw [scan_frame hat hfits (by omega) (.inl hok)]
        exact List.mem_cons_of_mem _
          (ih (p.length - (i + k + frameSize ((p ++ f ++ q).drop (i + k)))) (by omega) hend rfl)
    · obtain hik : i + k = p.length := by omega
      rw [hik] at hat ⊢
      rw [hrest] at hat
      rw [scan_frame (by rw [hrest]; exact hat) (by rw [hrest, hsize]; exact hmax)
        (by rw [hrest, hsize, List.length_append]; omega) (by rw [hrest]; exact .inl hcrc),
        hrest, hdec]
      exact List.mem_cons_self

/-! ### The frame is emitted -/

/-- The frames of a history are as long as they announce. -/
theorem frameSize_of_mem_history (strict : Bool) (max : ℕ) (calls : List (Call UInt8)) {b : Bytes}
    (h : .frame b ∈ (history.run calls (fresh (binaryOptions strict max))).1) :
    frameSize b = b.length := by
  have key := history_induction
    (P := fun t _ segs => t.options = binaryOptions strict max ∧
      ∀ b, Segment.frame b ∈ segs → frameSize b = b.length)
    (fun t c u segs h => h)
    (fun t t' u segs hstop ⟨ho, hall⟩ => ⟨(buffer_of_stop hstop).1.trans ho, hall⟩)
    (fun t out t' u segs hnext ⟨ho, hall⟩ => by
      obtain ⟨hseg, -⟩ := segmentCase_of_next (by rw [ho]; rfl) hnext
      refine ⟨hseg.buffer_eq.2.trans ho, fun b hb => ?_⟩
      rcases List.mem_append.mp hb with hold | hnew
      · exact hall b hold
      · rw [← List.eq_of_mem_singleton hnew] at hseg
        cases hseg with
        | frame _ _ hlen _ => rw [(decode_take t.buffer).1, List.length_take, Nat.min_eq_left hlen]
        | frameLenient _ _ hlen _ _ =>
          rw [(decode_take t.buffer).1, List.length_take, Nat.min_eq_left hlen])
    calls (fresh (binaryOptions strict max)) [] [] ⟨rfl, by simp⟩
  exact key.2 b (by simpa using h)

/-- A frame of a history splits it at its position. -/
theorem exists_split_of_mem_framesAt {segs : List Segment} {off i : ℕ} {g : UnicoreBinaryFrame}
    (h : (i, g) ∈ framesAt off segs) :
    ∃ before b after, segs = before ++ .frame b :: after ∧
      off + (Segment.taken before).length = i := by
  induction segs generalizing off with
  | nil => simp [framesAt] at h
  | cons seg segs ih =>
    rw [← List.singleton_append, framesAt_append] at h
    rcases List.mem_append.mp h with hhead | htail
    · cases seg with
      | frame bytes =>
        obtain ⟨rfl, -⟩ : i = off ∧ g = decodeFrame bytes := by simpa [framesAt] using hhead
        exact ⟨[], bytes, segs, rfl, rfl⟩
      | _ => simp [framesAt] at hhead
    · obtain ⟨before, b, after, rfl, hoff⟩ := ih htail
      refine ⟨seg :: before, b, after, rfl, ?_⟩
      rw [← hoff, ← List.singleton_append, Segment.taken_append, List.length_append, Nat.add_assoc]

/-- **Noise does not swallow a frame.** In strict mode, with as many bytes behind a valid frame as
the largest frame has, the frame is emitted at its position, unless a sync in the noise announces a
frame that reaches into it and has a matching CRC. -/
theorem frame_mem_run_of_noise {calls : List (Call UInt8)}
    (hcalls : Call.received calls = p ++ f ++ q) (hf : ValidFrame f) (hmax : f.length ≤ max)
    (hq : max ≤ q.length)
    (hfalse : ∀ j, startsWithSync (p.drop j) = true → frameSize ((p ++ f ++ q).drop j) ≤ max →
      p.length < j + frameSize ((p ++ f ++ q).drop j) → crcOk ((p ++ f ++ q).drop j) = false) :
    ∃ before after,
      (history.run (calls ++ [.drain]) (fresh (binaryOptions true max))).1 =
        before ++ .frame f :: after ∧
      Segment.taken before = p ∧
      (run (calls ++ [.drain]) (fresh (binaryOptions true max))).1 =
        before.flatMap Segment.events ++
          .binaryFrame (decodeFrame f) :: after.flatMap Segment.events := by
  have hscan := mem_scan_of_noise hf hmax hq hfalse (Nat.zero_le _)
  rw [← hcalls, ← framesAt_history_eq_scan] at hscan
  obtain ⟨before, b, after, hsplit, hpos⟩ := exists_split_of_mem_framesAt hscan
  have hsize : frameSize b = b.length :=
    frameSize_of_mem_history true max (calls ++ [.drain]) (by rw [hsplit]; simp)
  -- by byte conservation the segments in front are the noise, and this one is the frame
  have hbytes := received_eq_segments (binaryOptions true max) (calls ++ [.drain])
  rw [hsplit, Call.received_append, hcalls] at hbytes
  have hbytes : p ++ (f ++ q) = Segment.taken before ++ (b ++ (Segment.taken after ++
      (history.run (calls ++ [.drain]) (fresh (binaryOptions true max))).2.buffer)) := by
    simpa [Segment.taken] using hbytes
  obtain ⟨hbefore, hframe⟩ := List.append_inj hbytes (by omega)
  have hbf : b = f := by
    have hmin := le_frameSize b
    have hlen : b.length = f.length := by
      rw [← hsize, ← (hf.append q).2.1, hframe, frameSize_append (by omega)]
    exact (List.append_inj hframe hlen.symm).1.symm
  subst hbf
  refine ⟨before, after, hsplit, hbefore.symm, ?_⟩
  rw [run_eq_history, hsplit]
  simp [Segment.events]

end Noise

/-- A false sync right in front of a frame, announcing 45 bytes where 28 are allowed. -/
theorem frame_mem_run_of_false_sync :
    let f := makeBinaryFrame 2118 []
    let q : Bytes := List.replicate 28 0
    ∃ before after,
      (history.run ([.push binarySync, .drain, .push (f ++ q)] ++ [.drain])
        (fresh (binaryOptions true 28))).1 = before ++ .frame f :: after ∧
      Segment.taken before = binarySync ∧
      (run ([.push binarySync, .drain, .push (f ++ q)] ++ [.drain])
        (fresh (binaryOptions true 28))).1 =
        before.flatMap Segment.events ++
          .binaryFrame (decodeFrame f) :: after.flatMap Segment.events := by
  refine frame_mem_run_of_noise (q := List.replicate 28 0) (by simp)
    (validFrame_makeBinaryFrame (by decide)) (by decide) (by decide) ?_
  intro j hj hfits _
  obtain rfl : j = 0 := by
    have hlen := isWindow_startsWithSync.le_length hj
    rw [List.length_drop, show binarySync.length = 3 from rfl] at hlen
    omega
  exact absurd hfits (by decide)

end UnicoreGnss
