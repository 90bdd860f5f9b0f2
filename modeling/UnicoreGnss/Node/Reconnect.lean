import UnicoreGnss.Lib.Sessions
import UnicoreGnss.Node.SerialPort
import UnicoreGnss.Transport.Conservation

/-!
# Reconnecting

The transport outlives the connection: the port is closed after a failed read or a failed write, and
what is then in the buffer stays there. The next time the port is opened, by either callback, the
buffer is emptied first. So whatever is handled has been read since the port was last opened.

`Conserved` is byte conservation for one connection: what has been read since the port was opened is
pieces in a row, then bytes that have come to nothing yet, and the events handled since are those of
the pieces. It holds whenever the port is open, and it is all that `Isolated` asks for when an event
is handled.

## Main results

* `UnicoreNode.isolation_call` — a callback keeps the invariant
* `UnicoreNode.reconnect_isolation` — in every run, each event is put together from bytes of the
  current connection
-/

namespace UnicoreGnss

open CNumber

namespace SerialEvent

/-- The bytes read. -/
def bytes : SerialEvent → Bytes
  | received data => data
  | _ => []

/-- The events handled. -/
def inputs : SerialEvent → List UnicoreTransportEvent
  | handled event => [event.input]
  | _ => []

/-- The port has been opened. -/
def IsOpened : SerialEvent → Prop
  | opened => True
  | _ => False

/-- The port has been closed. -/
def IsClosed : SerialEvent → Prop
  | closed => True
  | _ => False

end SerialEvent

/-- What has happened since the port was opened, if it has not been closed since. -/
abbrev CurrentConnection (trace session : List SerialEvent) : Prop :=
  CurrentSession SerialEvent.IsOpened SerialEvent.IsClosed trace session

/-- The bytes read in a session are well-formed pieces in a row and then `rest`, and the events
handled in it are those of the pieces. -/
def Conserved (session : List SerialEvent) (rest : Bytes) : Prop :=
  ∃ pieces : List Piece, (∀ piece ∈ pieces, piece.WellFormed) ∧
    session.flatMap SerialEvent.bytes = pieces.flatMap Piece.bytes ++ rest ∧
    session.flatMap SerialEvent.inputs = pieces.flatMap Piece.events

/-- Every event that is handled is handled while the port is open, and is one of the pieces of what
has been read since the port was opened. -/
def Isolated (trace : List SerialEvent) : Prop :=
  Justified (fun before last => ∀ event, last = .handled event →
    ∃ session rest, CurrentConnection before session ∧
      Conserved (session ++ [.handled event]) rest) trace

/-! ### Pieces -/

namespace Piece

/-- A piece has one event or none. -/
theorem length_events_le (piece : Piece) : piece.events.length ≤ 1 := by
  cases piece with
  | discarded bytes => exact Nat.zero_le 1
  | line text hasCr =>
    rw [events]
    split <;> simp
  | frame raw => exact le_rfl

/-- The first events of a list of pieces are those of the first pieces. -/
theorem exists_front {pieces : List Piece} {first later : List UnicoreTransportEvent}
    (h : pieces.flatMap events = first ++ later) :
    ∃ front back, pieces = front ++ back ∧ front.flatMap events = first := by
  induction pieces generalizing first with
  | nil =>
    obtain ⟨rfl, -⟩ : first = [] ∧ later = [] := by simpa using h.symm
    exact ⟨[], [], rfl, rfl⟩
  | cons piece pieces ih =>
    cases first with
    | nil => exact ⟨[], piece :: pieces, rfl, rfl⟩
    | cons event first =>
      have hlen := piece.length_events_le
      rw [List.flatMap_cons] at h
      -- The front piece has the first event, or none at all.
      rcases hevents : piece.events with _ | ⟨event', _ | _⟩
      · rw [hevents, List.nil_append] at h
        obtain ⟨front, back, rfl, hfront⟩ := ih h
        exact ⟨piece :: front, back, rfl, by rw [List.flatMap_cons, hevents, hfront]; rfl⟩
      · rw [hevents] at h
        obtain ⟨rfl, htail⟩ : event' = event ∧ pieces.flatMap events = first ++ later := by
          simpa using h
        obtain ⟨front, back, rfl, hfront⟩ := ih htail
        exact ⟨piece :: front, back, rfl, by rw [List.flatMap_cons, hevents, hfront]; rfl⟩
      · rw [hevents] at hlen
        simp at hlen

end Piece

/-! ### One connection -/

namespace Conserved

variable {session : List SerialEvent} {rest : Bytes}

/-- A connection begins with nothing. -/
theorem nil : Conserved [] [] := ⟨[], nofun, rfl, rfl⟩

/-- Bytes that are read come after what is there. -/
theorem concat_received (h : Conserved session rest) (data : Bytes) :
    Conserved (session ++ [.received data]) (rest ++ data) := by
  obtain ⟨pieces, hwf, hbytes, hevents⟩ := h
  refine ⟨pieces, hwf, ?_, ?_⟩
  · rw [List.flatMap_append, hbytes, List.append_assoc]
    simp [SerialEvent.bytes]
  · rw [List.flatMap_append, hevents]
    simp [SerialEvent.inputs]

/-- What is dropped is one more piece. -/
theorem drop (h : Conserved session rest) : Conserved session [] := by
  obtain ⟨pieces, hwf, hbytes, hevents⟩ := h
  by_cases hrest : rest = []
  · exact ⟨pieces, hwf, by rw [hbytes, hrest], hevents⟩
  · refine ⟨pieces ++ [.discarded rest], ?_, ?_, ?_⟩
    · exact List.forall_mem_append.mpr ⟨hwf, List.forall_mem_singleton.mpr hrest⟩
    · rw [hbytes, List.flatMap_append]
      simp [Piece.bytes]
    · rw [hevents, List.flatMap_append]
      simp [Piece.events]

theorem flatMap_bytes_handled (events : List NodeEvent) :
    (events.map SerialEvent.handled).flatMap SerialEvent.bytes = [] := by
  induction events with
  | nil => rfl
  | cons event events ih => rw [List.map_cons, List.flatMap_cons, ih]; rfl

theorem flatMap_inputs_handled (events : List NodeEvent) :
    (events.map SerialEvent.handled).flatMap SerialEvent.inputs = events.map NodeEvent.input := by
  induction events with
  | nil => rfl
  | cons event events ih => rw [List.map_cons, List.flatMap_cons, ih]; rfl

/-- A drain cuts more pieces off the bytes that are there, and their events are handled. -/
theorem append_handled (h : Conserved session rest) {pieces : List Piece} {rest' : Bytes}
    {events : List NodeEvent} (hwf : ∀ piece ∈ pieces, piece.WellFormed)
    (hbytes : rest = pieces.flatMap Piece.bytes ++ rest')
    (hevents : events.map NodeEvent.input = pieces.flatMap Piece.events) :
    Conserved (session ++ events.map .handled) rest' := by
  obtain ⟨earlier, hwf', hbytes', hevents'⟩ := h
  refine ⟨earlier ++ pieces, List.forall_mem_append.mpr ⟨hwf', hwf⟩, ?_, ?_⟩
  · rw [List.flatMap_append, List.flatMap_append, flatMap_bytes_handled, hbytes', hbytes,
      List.append_nil, List.append_assoc]
  · rw [List.flatMap_append, List.flatMap_append, flatMap_inputs_handled, hevents', hevents]

/-- Some of the events of a drain are handled, and not yet the later ones. -/
theorem of_append_handled {event : NodeEvent} {later : List NodeEvent}
    (h : Conserved (session ++ SerialEvent.handled event :: later.map .handled) rest) :
    ∃ rest', Conserved (session ++ [.handled event]) rest' := by
  obtain ⟨pieces, hwf, hbytes, hevents⟩ := h
  rw [List.append_cons] at hbytes hevents
  rw [List.flatMap_append, flatMap_inputs_handled] at hevents
  rw [List.flatMap_append, flatMap_bytes_handled, List.append_nil] at hbytes
  obtain ⟨front, back, rfl, hfront⟩ := Piece.exists_front hevents.symm
  refine ⟨back.flatMap Piece.bytes ++ rest, front, ?_, ?_, hfront.symm⟩
  · intro piece hpiece
    exact hwf piece (List.mem_append_left _ hpiece)
  · rw [hbytes, List.flatMap_append, List.append_assoc]

end Conserved

/-- Events that are handled one after the other, all of them pieces of what has been read. -/
theorem Isolated.append_handled (events : List NodeEvent) {trace session : List SerialEvent}
    {rest : Bytes} (htrace : Isolated trace) (hsession : CurrentConnection trace session)
    (h : Conserved (session ++ events.map .handled) rest) :
    Isolated (trace ++ events.map .handled) ∧
      CurrentConnection (trace ++ events.map .handled) (session ++ events.map .handled) := by
  induction events generalizing trace session with
  | nil =>
    rw [List.map_nil, List.append_nil, List.append_nil]
    exact ⟨htrace, hsession⟩
  | cons event events ih =>
    obtain ⟨rest', hevent⟩ := Conserved.of_append_handled h
    rw [List.map_cons, List.append_cons trace, List.append_cons session]
    rw [List.map_cons, List.append_cons] at h
    refine ih ?_ (hsession.concat nofun nofun) h
    refine justified_concat_iff.mpr ⟨htrace, ?_⟩
    rintro _ ⟨⟩
    exact ⟨session, rest', hsession, hevent⟩

/-- Anything but an event of the transport. -/
theorem Isolated.concat {trace : List SerialEvent} (h : Isolated trace) {last : SerialEvent}
    (hlast : ∀ event, last ≠ .handled event) : Isolated (trace ++ [last]) :=
  justified_concat_iff.mpr ⟨h, fun event he => absurd he (hlast event)⟩

/-! ### The events of a drain -/

/-- The events that are passed on, without their clocks. -/
theorem map_input_handledEvents (clocks : Clocks) (events : List UnicoreTransportEvent) :
    (handledEvents clocks events).map NodeEvent.input =
      events.filter fun input => input ≠ .asciiLine [] := by
  rw [handledEvents, List.map_map]
  change List.map Prod.fst _ = _
  conv_rhs => rw [← List.zipIdx_map_fst 0 events, List.filter_map]
  rfl

/-- No piece has an empty line for an event. -/
theorem filter_events (pieces : List Piece) :
    (pieces.flatMap Piece.events).filter (fun input => input ≠ .asciiLine []) =
      pieces.flatMap Piece.events := by
  rw [List.filter_eq_self]
  intro input hinput
  obtain ⟨piece, -, hpiece⟩ := List.mem_flatMap.mp hinput
  cases piece with
  | discarded bytes => simp [Piece.events] at hpiece
  | line text hasCr =>
    by_cases htext : text = []
    · simp [Piece.events, htext] at hpiece
    · simp [Piece.events, htext] at hpiece
      simp [hpiece, htext]
  | frame raw =>
    simp [Piece.events] at hpiece
    simp [hpiece]

namespace UnicoreNode

variable (math : MathFunctions) (config : UnicoreNodeConfig) {trace : List SerialEvent}
  {node : UnicoreNode}

/-- The invariant: every event so far was isolated, and while the port is open, what has been read
since it was opened is accounted for. -/
structure Isolation (trace : List SerialEvent) (node : UnicoreNode) : Prop where
  isolated : Isolated trace
  conserved : node.serial.isOpen = true →
    ∃ session, CurrentConnection trace session ∧ Conserved session node.transport.buffer

/-! ### One step -/

theorem isolation_fresh : Isolation [] (fresh config) where
  isolated := justified_nil _
  conserved h := absurd h Bool.false_ne_true

/-- The buffer may be emptied at any time. -/
theorem Isolation.clear (h : Isolation trace node) :
    Isolation trace { node with transport := node.transport.clear } where
  isolated := h.isolated
  conserved hopen := by
    obtain ⟨session, hsession, hconserved⟩ := h.conserved hopen
    exact ⟨session, hsession, hconserved.drop⟩

theorem Isolation.closeSerial (h : Isolation trace node) :
    Isolation (trace ++ node.closeSerial.1) node.closeSerial.2 where
  isolated := h.isolated.concat nofun
  conserved hopen := by
    change node.serial.close.isOpen = true at hopen
    rw [SerialPort.isOpen_close] at hopen
    exact absurd hopen (by decide)

/-- Opening the port empties the buffer. -/
theorem Isolation.ensureSerialOpen (h : Isolation trace node) (now : SteadyTime)
    (opening : OpenOutcome) :
    Isolation (trace ++ (node.ensureSerialOpen config now opening).1)
      (node.ensureSerialOpen config now opening).2 := by
  have hport := node.serial.isOpen_openPort opening
  unfold UnicoreNode.ensureSerialOpen
  cases hopen : node.serial.isOpen with
  | true => simpa [hopen] using h
  | false =>
    cases hrecent : attemptedRecently now node.lastOpenAttempt config.reconnectIntervalSec with
    | true => simpa using h
    | false =>
      simp only [Bool.false_eq_true, if_false]
      cases hopened : (node.serial.openPort opening).1 with
      | true =>
        simp only [if_true]
        exact ⟨h.isolated.concat nofun, fun _ => ⟨[], .start trace trivial, .nil⟩⟩
      | false =>
        rw [hopened] at hport
        simp only [Bool.false_eq_true, if_false, List.append_nil]
        exact ⟨h.isolated, fun hopen' => absurd (hport.symm.trans hopen') (by decide)⟩

/-- **Bytes that are read and the events they complete.** -/
theorem Isolation.receive (h : Isolation trace node) (hopen : node.serial.isOpen = true)
    (bytes : Bytes) (clocks : Clocks) :
    Isolation (trace ++ (node.receive math config bytes clocks).1)
      (node.receive math config bytes clocks).2 := by
  obtain ⟨session, hsession, hconserved⟩ := h.conserved hopen
  have hread := hconserved.concat_received bytes
  obtain ⟨pieces, hwf, hbytes, hevents⟩ :=
    UnicoreTransport.exists_pieces [.drain] (node.transport.append bytes)
  rw [Call.received_drain, Call.received_nil, List.append_nil] at hbytes
  set events := handledEvents clocks (node.transport.append bytes).drain.1 with hdef
  have hinputs : events.map NodeEvent.input = pieces.flatMap Piece.events := by
    rw [hdef, map_input_handledEvents, ← filter_events, ← hevents]
    simp [UnicoreTransport.run, UnicoreTransport.drain]
  have hdrained := hread.append_handled hwf hbytes hinputs
  have hreceived : Isolated (trace ++ [.received bytes]) := h.isolated.concat nofun
  obtain ⟨hisolated, hcurrent⟩ :=
    Isolated.append_handled events hreceived (hsession.concat nofun nofun) hdrained
  rw [← List.append_cons] at hisolated hcurrent
  exact ⟨hisolated, fun _ => ⟨_, hcurrent, hdrained⟩⟩

/-- **The loop of `poll_serial`**, however often it has been run. -/
theorem Isolation.readLoop (reads : List (ReadOutcome × Clocks)) (h : Isolation trace node)
    (hopen : node.serial.isOpen = true) :
    Isolation (trace ++ (readLoop math config reads node).2.1)
      (readLoop math config reads node).2.2 := by
  induction reads generalizing trace node with
  | nil => simpa [UnicoreNode.readLoop] using h
  | cons read reads ih =>
    obtain ⟨outcome, clocks⟩ := read
    rw [UnicoreNode.readLoop]
    rcases node.serial.read 1024 outcome with (_ | ⟨byte, bytes⟩) | errno
    · simpa using h
    · have hrest := ih (h.receive math config hopen (byte :: bytes) clocks) hopen
      rwa [List.append_assoc] at hrest
    · by_cases hagain : errno = .again
      · simpa [hagain] using h
      · simp only [hagain, if_false]
        exact h.closeSerial

/-! ### Callbacks -/

theorem Isolation.dropOversized (h : Isolation trace node) :
    Isolation trace (node.dropOversized config) := by
  unfold UnicoreNode.dropOversized
  split
  · exact h.clear
  · exact h

theorem Isolation.pollSerial (h : Isolation trace node) (now : SteadyTime)
    (opening : OpenOutcome) (reads : List (ReadOutcome × Clocks)) :
    Isolation (trace ++ (node.pollSerial math config now opening reads).1)
      (node.pollSerial math config now opening reads).2 := by
  have hensured := h.ensureSerialOpen config now opening
  unfold UnicoreNode.pollSerial
  generalize node.ensureSerialOpen config now opening = ensured at hensured
  obtain ⟨opened, node⟩ := ensured
  cases hopen : node.serial.isOpen with
  | false => simpa [hopen] using hensured
  | true =>
    have hloop := hensured.readLoop math config reads hopen
    simp only [hopen, Bool.not_true, Bool.false_eq_true, if_false]
    rw [List.append_assoc] at hloop
    split
    · exact hloop.dropOversized config
    · exact hloop

/-- `handle_rtcm` may open the port and may close it, and reads nothing. -/
theorem Isolation.handleRtcm (h : Isolation trace node) (now : SteadyTime)
    (opening : OpenOutcome) (message : Bytes) (writes : List WriteOutcome)
    (writtenAt : SteadyTime) :
    Isolation (trace ++ (node.handleRtcm config now opening message writes writtenAt).1)
      (node.handleRtcm config now opening message writes writtenAt).2 := by
  have hensured := h.ensureSerialOpen config now opening
  unfold UnicoreNode.handleRtcm
  generalize node.ensureSerialOpen config now opening = ensured at hensured
  obtain ⟨opened, node⟩ := ensured
  cases hopen : node.serial.isOpen with
  | false => simpa [hopen] using hensured
  | true =>
    simp only [hopen, Bool.not_true, Bool.false_eq_true, if_false]
    by_cases hmessage : message = []
    · simpa only [hmessage, if_true] using hensured
    · simp only [hmessage, if_false]
      cases node.serial.write message.length writes with
      | none => exact hensured
      | some written =>
        by_cases hfailed : written < 0
        · have hclosed := hensured.closeSerial
          rw [List.append_assoc] at hclosed
          simpa only [hfailed, if_true] using hclosed
        · simp only [hfailed, if_false]
          exact ⟨hensured.isolated, hensured.conserved⟩

/-- **A callback keeps the invariant.** -/
theorem isolation_call (h : Isolation trace node) (callback : Callback) :
    Isolation (trace ++ (node.call math config callback).1)
      (node.call math config callback).2 := by
  cases callback with
  | pollSerial now opening reads => exact h.pollSerial math config now opening reads
  | handleRtcm now opening message writes writtenAt =>
    exact h.handleRtcm config now opening message writes writtenAt

/-- A run keeps it, by induction over its callbacks. -/
theorem isolation_run (callbacks : List Callback) :
    Isolation (run math config callbacks).1 (run math config callbacks).2 := by
  induction callbacks using List.reverseRecOn with
  | nil => exact isolation_fresh config
  | append_singleton callbacks callback ih =>
    rw [run_concat]
    exact isolation_call math config ih callback

/-- **Reconnect isolation.** Whatever the callbacks and whatever the operating system answers, every
event that is handled is put together from bytes read since the port was last opened. -/
theorem reconnect_isolation (callbacks : List Callback) :
    Isolated (run math config callbacks).1 :=
  (isolation_run math config callbacks).isolated

end UnicoreNode

end UnicoreGnss
