import UnicoreGnss.Transport.Places

/-!
# Drains that start at the beginning of a stream

A drain of the first bytes of a stream passes through the places of the stream, as far as these
bytes reach (`drain_of_reaches`), and what it does at the last of them is explicit: it gives up
what begins nothing (`drain_of_silent`) or waits. So a stream cut in two at a suitable point has a
run whose every segment is known, which is how it is shown that a deviation from the reading of
the whole stream does occur.

## Main results

* `drain_of_reaches`, `drain_of_silent` — a drain from the beginning and at a place
* `exists_last_place` — every stream has a last place
* `run_cut`, `Path.run_once` — the runs over a stream cut in two and in one read
-/

namespace UnicoreGnss

open FirstMatch UnicoreTransport

variable {o : UnicoreTransportOptions} {b l S : Bytes} {x : Place} {need : ℕ} {seg : Segment}

/-! ### Reading a byte string as a whole -/

/-- The reader that never gives a byte up. -/
def wholeReader (o : UnicoreTransportOptions) : BufferedReader UInt8 Bytes Segment :=
  .ofNext (fun b => (readSegment o b).map Prod.snd) (fun seg => seg.bytes.length) fun b _ h => by
    obtain ⟨⟨need, seg⟩, hread, rfl⟩ := Option.map_eq_some_iff.mp h
    obtain ⟨-, hpos, hle, hneed⟩ := (readCase_iff.mp hread).bytes_eq
    exact ⟨hpos, Nat.le_trans hle hneed⟩

/-- The segments of a byte string read as a whole. -/
def readAll (o : UnicoreTransportOptions) (r : Bytes) : List Segment := ((wholeReader o).drain r).1

theorem wholeReader_stop (h : readSegment o b = none) : (wholeReader o).pass b = .stop b :=
  BufferedReader.ofNext_stop (by rw [h, Option.map_none])

theorem wholeReader_next (h : readSegment o b = some (need, seg)) :
    (wholeReader o).pass b = .next [seg] (b.drop seg.bytes.length) :=
  BufferedReader.ofNext_next (by rw [h, Option.map_some])

theorem readAll_none (h : readSegment o b = none) : readAll o b = [] := by
  rw [readAll, (wholeReader o).drain_stop (wholeReader_stop h)]

theorem readAll_some (h : readSegment o b = some (need, seg)) :
    readAll o b = seg :: readAll o (b.drop seg.bytes.length) := by
  rw [readAll, (wholeReader o).drain_next (wholeReader_next h)]
  rfl

/-! ### Drains -/

theorem drain_of_readCase (h : ReadCase o b need seg) :
    (bytesReader o).drain b = (seg :: ((bytesReader o).drain (b.drop seg.bytes.length)).1,
      ((bytesReader o).drain (b.drop seg.bytes.length)).2) := by
  rw [(bytesReader o).drain_next (bytesReader_next (by
    rw [passSegment, readSegment_of_readCase h]))]
  rfl

theorem drain_of_waiting (hread : readSegment o b = none) (hgives : givesUp b = false) :
    (bytesReader o).drain b = ([], b) :=
  (bytesReader o).drain_stop (bytesReader_stop (by rw [passSegment, hread]; simp [hgives]))

/-- The segments of bytes given up one by one. -/
def singles (l : Bytes) : List Segment := l.map fun byte => .discarded [byte]

/-- **A drain with neither a sync nor a line** gives up what begins nothing. -/
theorem drain_of_silent (h : Silent l) :
    ∃ m, (∀ i < m, givesUp (l.drop i) = true) ∧ givesUp (l.drop m) = false ∧
      (bytesReader o).drain l = (singles (l.take m), l.drop m) := by
  induction l with
  | nil =>
    exact ⟨0, by omega, rfl, drain_of_waiting (readSegment_of_silent h) rfl⟩
  | cons a l ih =>
    cases hgives : givesUp (a :: l) with
    | false =>
      exact ⟨0, by omega, by rwa [List.drop_zero],
        drain_of_waiting (readSegment_of_silent h) hgives⟩
    | true =>
      obtain ⟨m, hall, hend, hdrain⟩ := ih (h.drop 1)
      have hpass : passSegment o (a :: l) = some (.discarded [a]) := by
        rw [passSegment, readSegment_of_silent h]
        exact if_pos hgives
      refine ⟨m + 1, fun i hi => ?_, hend, ?_⟩
      · cases i with
        | zero => exact hgives
        | succ i => exact hall i (by omega)
      · have hrest : (a :: l).drop (Segment.discarded [a]).bytes.length = l := rfl
        rw [(bytesReader o).drain_next (bytesReader_next hpass), hrest, hdrain]
        rfl

/-- The number of bytes given up is determined. -/
theorem gives_unique {k m : ℕ} (hk : ∀ i < k, givesUp (l.drop i) = true)
    (hkend : givesUp (l.drop k) = false) (hm : ∀ i < m, givesUp (l.drop i) = true)
    (hmend : givesUp (l.drop m) = false) : k = m := by
  rcases Nat.lt_trichotomy k m with hlt | heq | hlt
  · rw [hm k hlt] at hkend; exact absurd hkend (by simp)
  · exact heq
  · rw [hk m hlt] at hmend; exact absurd hmend (by simp)

/-- A drain that gives up all it can at a place. -/
theorem drain_of_drops {c k : ℕ} (h : x.Drops c k)
    (hend : givesUp ((x.rest.take c).drop k) = false) :
    (bytesReader o).drain (x.rest.take c) =
      (singles ((x.rest.take c).take k), (x.rest.take c).drop k) := by
  obtain ⟨m, hall, hend', hdrain⟩ := drain_of_silent (o := o) h.silent
  obtain rfl := gives_unique h.gives hend hall hend'
  exact hdrain

/-- The bytes of a line. -/
theorem rest_eq_of_line {r text : Bytes} (h : readSegment o r = some (need, .line text)) :
    r = text ++ lf :: r.drop (text.length + 1) := by
  obtain ⟨hbytes, -⟩ := (readCase_iff.mp h).bytes_eq
  rw [Segment.bytes_line, List.length_append, List.length_singleton] at hbytes
  conv_lhs => rw [← List.take_append_drop (text.length + 1) r, ← hbytes]
  rw [List.append_assoc]
  rfl

/-- What is left of a line when bytes have been given up is a line. -/
theorem Place.Drops.readCase_line {c k : ℕ} {text : Bytes} (h : x.Drops c k)
    (hnext : readSegment o x.rest = some (need, .line text)) :
    ∃ need' text', ReadCase o (x.rest.drop k) need' (.line text') ∧
      (x.rest.drop k).drop (Segment.line text').bytes.length =
        x.rest.drop (Segment.line text).bytes.length := by
  have hnls := h.findNewline_rest
  have hsyncs := h.findBinarySync_rest
  cases readCase_iff.mp hnext with
  | line newline hnl hfirst =>
    have hlt := firstMatch_lt hnl
    rw [hnl] at hnls
    obtain ⟨m, hm, rfl⟩ := Option.map_eq_some_iff.mp hnls.symm
    have hmlt := firstMatch_lt hm
    refine ⟨_, _, .line m hm fun sync hsync => ?_, ?_⟩
    · have := hfirst (sync + k) (by rw [hsyncs, hsync]; rfl)
      omega
    · simp only [Segment.bytes_line, List.length_append, List.length_take, List.length_singleton,
        List.drop_drop]
      congr 1
      omega

/-- Was the last segment thrown away, if there is one, and otherwise `d`? -/
def endsDiscarded (d : Bool) (segs : List Segment) : Bool :=
  segs.foldl (fun _ seg => seg.isDiscarded) d

@[simp] theorem endsDiscarded_nil (d : Bool) : endsDiscarded d [] = d := rfl

@[simp] theorem endsDiscarded_cons (d : Bool) (segs : List Segment) :
    endsDiscarded d (seg :: segs) = endsDiscarded seg.isDiscarded segs := rfl

@[simp] theorem endsDiscarded_append (d : Bool) (segs segs' : List Segment) :
    endsDiscarded d (segs ++ segs') = endsDiscarded (endsDiscarded d segs) segs' :=
  List.foldl_append

/-- The way from one place to another: the segments between them. -/
structure Path (o : UnicoreTransportOptions) (a x : Place) (path : List Segment) : Prop where
  /-- The segments are the bytes between the places. -/
  rest : a.rest = Segment.taken path ++ x.rest
  /-- They are the segments of the stream read as a whole. -/
  readAll : readAll o a.rest = path ++ readAll o x.rest
  /-- What was seen at the first place is seen at the second. -/
  seen : a.seen ≤ (Segment.taken path).length + x.seen
  /-- What is remembered of the segment in front. -/
  discarded : x.discarded = endsDiscarded a.discarded path
  /-- A drain of what has certainly arrived goes this way. -/
  drain : ∀ c, x.seen ≤ c → (bytesReader o).drain (Segment.taken path ++ x.rest.take c) =
    (path ++ ((bytesReader o).drain (x.rest.take c)).1, ((bytesReader o).drain (x.rest.take c)).2)

/-- **A drain from the beginning** passes through every place that what has arrived reaches. -/
theorem drain_of_reaches {a x : Place} (h : Place.Reaches o a x) : ∃ path, Path o a x path := by
  induction h using Relation.ReflTransGen.head_induction_on with
  | refl => exact ⟨[], ⟨rfl, rfl, by simp, rfl, fun c _ => rfl⟩⟩
  | @head a a' hstep _ ih =>
    obtain ⟨need, seg, hread, rfl⟩ := hstep
    obtain ⟨path, hpath⟩ := ih
    have hcase := readCase_iff.mp hread
    obtain ⟨hbytes, -, hle, hneed⟩ := hcase.bytes_eq
    have hrest : a.rest = seg.bytes ++ (Segment.taken path ++ x.rest) := by
      rw [← hpath.rest, Place.next]
      conv_lhs => rw [← List.take_append_drop seg.bytes.length a.rest, ← hbytes]
    have hseen : max a.seen need - seg.bytes.length ≤ (Segment.taken path).length + x.seen :=
      hpath.seen
    have htaken : Segment.taken (seg :: path) = seg.bytes ++ Segment.taken path := rfl
    refine ⟨seg :: path, ⟨?_, ?_, ?_, hpath.discarded, fun c hc => ?_⟩⟩
    · rw [htaken, List.append_assoc, ← hrest]
    · rw [readAll_some hread, List.cons_append, ← hpath.readAll]
      rfl
    · rw [htaken, List.length_append]
      omega
    · -- what is needed for the next segment has arrived
      have hsplit : a.rest = (seg.bytes ++ (Segment.taken path ++ x.rest.take c)) ++
          x.rest.drop c := by
        rw [hrest]
        simp
      have hlen : a.rest.length =
          seg.bytes.length + ((Segment.taken path).length + x.rest.length) := by
        rw [hrest, List.length_append, List.length_append]
      rw [hsplit] at hcase
      have hcase := hcase.of_append (by
        rw [List.length_append, List.length_append, List.length_take]
        omega)
      rw [htaken, List.append_assoc, drain_of_readCase hcase, List.drop_left, hpath.drain c hc]
      rfl

theorem Path.drain_rest {a : Place} {path : List Segment} (h : Path o a x path)
    (hseen : x.seen ≤ x.rest.length) : (bytesReader o).drain a.rest =
      (path ++ ((bytesReader o).drain x.rest).1, ((bytesReader o).drain x.rest).2) := by
  have := h.drain x.rest.length hseen
  rwa [List.take_length, ← h.rest] at this

/-- What has certainly arrived at a place is part of the stream. -/
theorem seen_le_of_reaches (h : Place.Reaches o (Place.start S) x) : x.seen ≤ x.rest.length := by
  induction h with
  | refl => exact Nat.zero_le _
  | tail _ hstep ih =>
    obtain ⟨need, seg, hread, rfl⟩ := hstep
    obtain ⟨-, -, -, hneed⟩ := (readCase_iff.mp hread).bytes_eq
    rw [Place.next, List.length_drop]
    show max _ need - _ ≤ _
    omega

/-- **Every stream has a last place.** -/
theorem exists_last_place (o : UnicoreTransportOptions) (S : Bytes) :
    ∃ x, Place.Reaches o (Place.start S) x ∧ readSegment o x.rest = none := by
  suffices h : ∀ n (a : Place), a.rest.length = n →
      ∃ x, Place.Reaches o a x ∧ readSegment o x.rest = none from h _ _ rfl
  intro n
  induction n using Nat.strongRecOn with
  | ind n ih =>
    intro a hn
    cases hread : readSegment o a.rest with
    | none => exact ⟨a, .refl, hread⟩
    | some p =>
      obtain ⟨need, seg⟩ := p
      obtain ⟨-, hpos, hle, hneed⟩ := (readCase_iff.mp hread).bytes_eq
      obtain ⟨x, hx, hlast⟩ := ih ((a.next need seg).rest.length)
        (by rw [Place.next, List.length_drop]; omega) _ rfl
      exact ⟨x, .head ⟨need, seg, hread, rfl⟩ hx, hlast⟩

/-! ### A stream cut in two -/

/-- The stream `l ++ r` in two reads. -/
def cut (l r : Bytes) : List (Call UInt8) := [.push l, .drain, .push r]

@[simp] theorem received_cut (l r : Bytes) : Call.received (cut l r) = l ++ r := by simp [cut]

theorem run_cut (o : UnicoreTransportOptions) (l r : Bytes) :
    (bytesReader o).run (cut l r ++ [.drain]) [] =
      (((bytesReader o).drain l).1 ++ ((bytesReader o).drain
        (((bytesReader o).drain l).2 ++ r)).1,
        ((bytesReader o).drain (((bytesReader o).drain l).2 ++ r)).2) := by
  simp [cut]

/-- **A stream cut at a place.** The first read goes to the place and does what it does there with
`c` bytes, the second goes on from that. -/
theorem Path.run_cut {path : List Segment} (h : Path o (Place.start S) x path) {c : ℕ}
    (hc : x.seen ≤ c) {out : List Segment} {b : Bytes}
    (hdrain : (bytesReader o).drain (x.rest.take c) = (out, b)) :
    Call.received (cut (Segment.taken path ++ x.rest.take c) (x.rest.drop c)) = S ∧
      ((bytesReader o).run (cut (Segment.taken path ++ x.rest.take c) (x.rest.drop c) ++ [.drain])
        []).1 = path ++ out ++ ((bytesReader o).drain (b ++ x.rest.drop c)).1 := by
  constructor
  · rw [received_cut, List.append_assoc, List.take_append_drop, ← h.rest]
    rfl
  · rw [UnicoreGnss.run_cut, h.drain c hc, hdrain]

/-- **A stream in one read**, at a place. -/
theorem Path.run_once {path : List Segment} (h : Path o (Place.start S) x path)
    (hseen : x.seen ≤ x.rest.length) :
    ((bytesReader o).run ([.push S] ++ [.drain]) []).1 =
      path ++ ((bytesReader o).drain x.rest).1 := by
  have hdrain : (bytesReader o).drain S = _ := h.drain_rest hseen
  simp [hdrain]

end UnicoreGnss
