import UnicoreGnss.Transport.History
import Mathlib.Data.List.DropRight

/-!
# A transport for text only

With `enable_binary` off, the loop of `drain` does one thing: it looks for an LF, takes what is in
front of it as a line, and stops when there is none. Whatever the bytes are, the lines handed out
are those of the stream, wherever it was cut into reads.

The lines of a stream are defined without the loop, by splitting the whole stream at its LFs.
`Reads` is the invariant of a run: the lines handed out so far and the lines of what is still to be
read make up the lines of the stream.

## Main definitions

* `textLines`, `afterLastLf` — what the stream says
* `UnicoreTransport.Reads` — the invariant

## Main results

* `run_asciiOptions` — every run that ends in a drain
-/

namespace UnicoreGnss

open FirstMatch

/-- The options of a transport that takes no binary frames. -/
def asciiOptions (strict : Bool) (maxFrameSize : ℕ) : UnicoreTransportOptions where
  enableBinary := false
  strictBinaryCrc := strict
  binaryMaxFrameSize := maxFrameSize

/-! ### The lines of a stream -/

/-- The segments that end with an LF, without it. What is behind the last LF is none. -/
def lfSegments (stream : Bytes) : List Bytes := (stream.splitOn lf).dropLast

/-- One trailing CR goes. -/
def withoutCr (segment : Bytes) : Bytes :=
  if segment.getLast? = some cr then segment.dropLast else segment

/-- The lines of a stream. Empty ones are skipped. -/
def textLines (stream : Bytes) : List Bytes :=
  ((lfSegments stream).map withoutCr).filter (· ≠ [])

/-- The part of a stream after its last LF. -/
def afterLastLf (stream : Bytes) : Bytes := stream.rtakeWhile (· ≠ lf)

variable {b s text : Bytes} {newline : ℕ}

theorem lfSegments_line (h : lf ∉ text) : lfSegments (text ++ lf :: s) = text :: lfSegments s := by
  rw [lfSegments, List.splitOn_append_cons_self_of_not_mem h,
    List.dropLast_cons_of_ne_nil (List.splitOn_ne_nil _ _), lfSegments]

theorem lfSegments_of_notMem (h : lf ∉ s) : lfSegments s = [] := by
  rw [lfSegments, List.splitOn_eq_singleton h]
  rfl

/-- The event of a line is the line, unless it is empty. -/
theorem lineEvents_eq_map (text : Bytes) :
    lineEvents text = (([text].map withoutCr).filter (· ≠ [])).map .asciiLine := by
  simp only [lineEvents, List.map_singleton, withoutCr]
  generalize (if text.getLast? = some cr then text.dropLast else text) = line
  cases line <;> rfl

/-- **One line.** The events of a stream are those of its first line and then those of the rest. -/
theorem textLines_line (h : lf ∉ text) :
    (textLines (text ++ lf :: s)).map UnicoreTransportEvent.asciiLine =
      lineEvents text ++ (textLines s).map .asciiLine := by
  rw [lineEvents_eq_map, ← List.map_append, textLines, textLines, ← List.filter_append,
    ← List.map_append, lfSegments_line h, List.singleton_append]

theorem textLines_of_notMem (h : lf ∉ s) : textLines s = [] := by
  rw [textLines, lfSegments_of_notMem h]
  rfl

theorem afterLastLf_append_cons (text s : Bytes) :
    afterLastLf (text ++ lf :: s) = afterLastLf s := by
  have hlf : ∀ r : Bytes, (lf :: r).takeWhile (· ≠ lf) = [] := by simp
  rw [afterLastLf, List.rtakeWhile, List.reverse_append, List.reverse_cons, List.append_assoc,
    List.singleton_append, List.takeWhile_append, hlf, List.append_nil]
  split
  case isTrue hall =>
    rw [afterLastLf, List.rtakeWhile,
      (List.takeWhile_prefix _).eq_of_length hall]
  case isFalse => rfl

theorem afterLastLf_of_notMem (h : lf ∉ s) : afterLastLf s = s := by
  rw [afterLastLf, List.rtakeWhile_eq_self_iff]
  intro byte hbyte
  simpa using fun heq : byte = lf => h (heq ▸ hbyte)

/-- A buffer with an LF begins with a line. -/
theorem eq_line_of_newline (h : findNewline b = some newline) :
    b = b.take newline ++ lf :: b.drop (newline + 1) ∧ lf ∉ b.take newline := by
  constructor
  · rw [← List.singleton_append, ← List.append_assoc, ← UnicoreTransport.take_succ_newline h,
      List.take_append_drop]
  · intro hmem
    obtain ⟨j, hj⟩ := List.mem_iff_getElem?.mp hmem
    have hlt : j < newline := by
      by_contra hge
      rw [List.getElem?_take, if_neg hge] at hj
      cases hj
    rw [List.getElem?_take_of_lt hlt] at hj
    exact ne_lf_of_lt_newline h hlt hj

namespace UnicoreTransport

/-! ### Runs -/

/-- The invariant of a run on the stream `stream`, when `u` is still to come and `events` have been
handed out. -/
structure Reads (o : UnicoreTransportOptions) (stream : Bytes) (t : UnicoreTransport) (u : Bytes)
    (events : List UnicoreTransportEvent) : Prop where
  options : t.options = o
  lines : (textLines stream).map .asciiLine =
    events ++ (textLines (t.buffer ++ u)).map .asciiLine
  rest : afterLastLf stream = afterLastLf (t.buffer ++ u)
  binaryCounters : t.binaryCounters = {}

variable {o : UnicoreTransportOptions} {stream u : Bytes} {t t' : UnicoreTransport}
  {events out : List UnicoreTransportEvent}

theorem Reads.append {c : Bytes} (h : Reads o stream t (c ++ u) events) :
    Reads o stream (t.append c) u events where
  options := h.options
  lines := by rw [h.lines, buffer_append, List.append_assoc]
  rest := by rw [h.rest, buffer_append, List.append_assoc]
  binaryCounters := h.binaryCounters

/-- The passes that stop leave a text-only transport as it is. -/
theorem eq_of_stop (hbin : t.options.enableBinary = false) (h : t.drainPass = .stop t') :
    t' = t ∧ findNewline t.buffer = none := by
  have hcase := passCase_drainPass t
  rw [h] at hcase
  cases hcase with
  | empty hbuf => exact ⟨rfl, by rw [hbuf]; rfl⟩
  | asciiWait _ hnl => exact ⟨rfl, hnl⟩
  | _ => simp_all

/-- The passes that go on take one line. -/
theorem Reads.next (hbin : o.enableBinary = false) (hpass : t.drainPass = .next out t')
    (h : Reads o stream t u events) : Reads o stream t' u (events ++ out) := by
  obtain ⟨newline, hnl, rfl, rfl⟩ := asciiLine_of_next (h.options ▸ hbin) hpass
  obtain ⟨hbuf, hline⟩ := eq_line_of_newline hnl
  have hfront : t.buffer ++ u =
      t.buffer.take newline ++ lf :: (t.buffer.drop (newline + 1) ++ u) := by
    rw [← List.cons_append, ← List.append_assoc, ← hbuf]
  exact {
    options := h.options
    lines := by rw [h.lines, hfront, textLines_line hline, buffer_erase, List.append_assoc]
    rest := by rw [h.rest, hfront, afterLastLf_append_cons, buffer_erase]
    binaryCounters := h.binaryCounters }

/-- The invariant of every run of a fresh transport. -/
theorem reads_run (hbin : o.enableBinary = false) (calls : List (Call UInt8)) :
    Reads o (Call.received calls) (run calls (fresh o)).2 [] (run calls (fresh o)).1 := by
  refine reader.run_induction (P := Reads o (Call.received calls)) ?_ ?_ ?_
    calls (fresh o) [] [] ?_
  · intro t c u events h
    exact h.append
  · intro t t' u events hpass h
    obtain ⟨rfl, -⟩ := eq_of_stop (h.options ▸ hbin) hpass
    exact h
  · intro t out t' u events hpass h
    exact h.next hbin hpass
  · exact ⟨rfl, by simp, by simp, rfl⟩

/-- After a drain there is no LF left. -/
theorem lf_notMem_of_run_drain (hbin : o.enableBinary = false) (calls : List (Call UInt8)) :
    lf ∉ (run (calls ++ [.drain]) (fresh o)).2.buffer := by
  obtain ⟨t, hstop⟩ : ∃ t : UnicoreTransport,
      t.drainPass = .stop (run (calls ++ [.drain]) (fresh o)).2 := by
    rw [run, BufferedReader.run_append, BufferedReader.run_drain]
    exact reader.drain_stopped _
  have hoptions := (reads_run hbin (calls ++ [.drain])).options
  rw [(buffer_of_stop hstop).1] at hoptions
  obtain ⟨heq, hnl⟩ := eq_of_stop (hoptions ▸ hbin) hstop
  rw [heq]
  exact findNewline_eq_none_iff.mp hnl

/-- **Every run of a text-only transport that ends in a drain.** Its events are the lines of the
stream, its buffer is what is behind the last LF, and no call has moved the binary counters. -/
theorem run_asciiOptions (strict : Bool) (max : ℕ) (calls : List (Call UInt8)) :
    let stream := Call.received calls
    let r := run (calls ++ [.drain]) (fresh (asciiOptions strict max))
    r.1 = (textLines stream).map .asciiLine ∧
    r.2.buffer = afterLastLf stream ∧
    ∀ k, (run ((calls ++ [Call.drain]).take k)
      (fresh (asciiOptions strict max))).2.binaryCounters = {} := by
  intro stream r
  have hreads : Reads (asciiOptions strict max) (Call.received (calls ++ [.drain])) r.2 [] r.1 :=
    reads_run rfl (calls ++ [.drain])
  have hrest : lf ∉ r.2.buffer := lf_notMem_of_run_drain rfl calls
  have hstream : Call.received (calls ++ [.drain]) = stream := by simp [stream]
  have hlines := hreads.lines
  have hafter := hreads.rest
  rw [hstream, List.append_nil] at hlines hafter
  rw [textLines_of_notMem hrest, List.map_nil, List.append_nil] at hlines
  rw [afterLastLf_of_notMem hrest] at hafter
  exact ⟨hlines.symm, hafter.symm, fun k => (reads_run rfl _).binaryCounters⟩

/-- A sync is text like any other, and a CR may come in another read than its LF. -/
example : run [.push [0xAA, 0x44, 0xB5, 0x0D], .drain, .push [0x0A, 0x0A, 0x78], .drain]
    (fresh (asciiOptions true 4096)) =
      ([.asciiLine [0xAA, 0x44, 0xB5]],
        { options := asciiOptions true 4096, buffer := [0x78] }) := by rfl

end UnicoreTransport

end UnicoreGnss
