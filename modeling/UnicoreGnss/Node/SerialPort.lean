import UnicoreGnss.Node

/-!
# The serial port and its two callbacks

`src/serial_port.cpp`, and of `src/unicore_node.cpp` what opens, reads, writes and closes the port:
`poll_serial` on a timer and `handle_rtcm` on a subscription. One thread runs both, so a run is a
list of callbacks in any order.

What the operating system answers is an input of each callback: a list with one outcome for every
call it makes in a loop. A list that ends before the loop does stands for a callback that is still
under way, so the runs here are all runs and all their beginnings, also where the system goes on
delivering bytes for ever.

A run hands out a trace, in which the port is opened and closed, bytes are read and events of the
transport are handled.

## Main definitions

* `SerialPort` — the descriptor, with `open`, `close`, `read` and `write`
* `UnicoreNode` — the port, the transport and what the node has received
* `UnicoreNode.pollSerial`, `handleRtcm` — the callbacks
* `UnicoreNode.run` — runs, with their traces

## Main results

* `UnicoreNode.data_run` — what the node has received is a `Run` over the events of the trace
-/

namespace UnicoreGnss

open CNumber

/-! ### The operating system -/

/-- `errno`, as far as it is looked at. `EAGAIN` and `EWOULDBLOCK` are asked for together. -/
inductive Errno where
  | again
  | interrupted
  | badFd
  | other (code : ℤ)
  deriving DecidableEq, Repr

/-- What `open` is told: the descriptor of `::open`, and what `tcgetattr` and `tcsetattr` return. -/
structure OpenOutcome where
  fd : ℤ
  tcgetattr : ℤ
  tcsetattr : ℤ
  deriving DecidableEq, Repr

/-- What a `::read` comes to. -/
inductive ReadOutcome where
  /-- The bytes at hand. -/
  | bytes (data : Bytes)
  | failed (errno : Errno)
  deriving DecidableEq, Repr

/-- What a `::poll` comes to. -/
structure PollOutcome where
  rc : ℤ
  writable : Bool
  errno : Errno
  deriving DecidableEq, Repr

/-- What a `::write` comes to, and the polls of the wait that follows it. -/
structure WriteOutcome where
  rc : ℤ
  errno : Errno
  polls : List PollOutcome
  deriving DecidableEq, Repr

/-! ### The port -/

/-- `to_termios_baud` knows the rate. -/
def knownBaud (baudrate : ℤ) : Bool :=
  baudrate ∈ ([9600, 19200, 38400, 57600, 115200, 230400, 460800, 921600] : List ℤ)

/-- The members of the port: its rate, and its file descriptor, which is below zero if it is closed.
-/
structure SerialPort where
  baudrate : ℤ
  fd : ℤ := -1
  deriving DecidableEq, Repr

namespace SerialPort

variable (port : SerialPort)

/-- `is_open` -/
def isOpen : Bool := 0 ≤ port.fd

/-- `close` -/
def close : SerialPort := if 0 ≤ port.fd then { port with fd := -1 } else port

/-- `open`: does the port stand open now? -/
def openPort (outcome : OpenOutcome) : Bool × SerialPort :=
  if 0 ≤ port.fd then (true, port)
  else if outcome.fd < 0 then (false, { port with fd := outcome.fd })
  else if outcome.tcgetattr ≠ 0 then (false, { port with fd := -1 })
  else if !knownBaud port.baudrate then (false, { port with fd := -1 })
  else if outcome.tcsetattr ≠ 0 then (false, { port with fd := -1 })
  else (true, { port with fd := outcome.fd })

/-- `read`. The system hands out no more than it is asked for. -/
def read (maxLen : ℕ) (outcome : ReadOutcome) : ReadOutcome :=
  if port.fd < 0 then .failed .badFd
  else
    match outcome with
    | .bytes data => .bytes (data.take maxLen)
    | .failed errno => .failed errno

/-- `wait_writable`, or nothing while it waits. -/
def waitWritable : List PollOutcome → Option Bool
  | [] => none
  | outcome :: rest =>
    if port.fd < 0 then some false
    else if 0 < outcome.rc then some outcome.writable
    else if outcome.rc = 0 then some false
    else if outcome.errno = .interrupted then waitWritable rest
    else some false

/-- The loop of `write`, or nothing while it runs. -/
def writeLoop (len totalWritten : ℕ) : List WriteOutcome → Option ℤ
  | [] => if totalWritten < len then none else some totalWritten
  | outcome :: rest =>
    if totalWritten < len then
      if 0 < outcome.rc then writeLoop len (totalWritten + outcome.rc.toNat) rest
      else if outcome.rc < 0 ∧ outcome.errno = .interrupted then writeLoop len totalWritten rest
      else if outcome.rc < 0 ∧ outcome.errno = .again then
        match port.waitWritable outcome.polls with
        | none => none
        | some false => some (-1)
        | some true => writeLoop len totalWritten rest
      else some (-1)
    else some totalWritten

/-- `write`: what it returns for `len` bytes, or nothing while it runs. -/
def write (len : ℕ) (outcomes : List WriteOutcome) : Option ℤ :=
  if port.fd < 0 then some (-1) else port.writeLoop len 0 outcomes

theorem isOpen_close : port.close.isOpen = false := by
  rw [close]
  split
  · rfl
  · rename_i h
    rw [isOpen, decide_eq_false h]

/-- **`open` says whether the port is open.** -/
theorem isOpen_openPort (outcome : OpenOutcome) :
    (port.openPort outcome).2.isOpen = (port.openPort outcome).1 := by
  rw [openPort]
  split_ifs with hopen hfd <;> simp_all [isOpen]

end SerialPort

/-! ### The node -/

/-- The parameters of the node that matter here. -/
structure UnicoreNodeConfig extends NodeConfig where
  baudrate : ℤ := 921600
  reconnectIntervalSec : Double := .finite 1
  enableUnicoreBinary : Bool := false
  binaryParserStrictCrc : Bool := true
  /-- As declared, before it is raised to at least 256. -/
  binaryMaxFrameSize : ℤ := 4096

/-- `binary_max_frame_size_` -/
def UnicoreNodeConfig.maxFrameSize (config : UnicoreNodeConfig) : ℕ :=
  (max 256 config.binaryMaxFrameSize).toNat

/-- The node: its connection, and what it has received. -/
structure UnicoreNode where
  serial : SerialPort
  transport : UnicoreTransport
  lastOpenAttempt : Option SteadyTime := none
  data : NodeState := {}
  rtcmMessageCount : ℕ := 0
  rtcmByteCount : ℕ := 0
  rtcmHistory : List SteadyTime := []

/-- What is seen of a run. -/
inductive SerialEvent where
  /-- The port has been opened. -/
  | opened
  | closed
  /-- Bytes have been read. -/
  | received (data : Bytes)
  /-- An event of the transport goes to `process_line` or `process_binary_frame`. -/
  | handled (event : NodeEvent)

/-- `steady_clock::now() - last_open_attempt_` is less than `reconnect_interval_sec_`. -/
def attemptedRecently (now : SteadyTime) (lastOpenAttempt : Option SteadyTime)
    (intervalSec : Double) : Bool :=
  match lastOpenAttempt, intervalSec with
  | none, _ => false
  | some attempt, .finite q => ((now - attempt : ℤ) : ℚ) / 10 ^ 9 < q
  | some _, .infinite negative => !negative
  | some _, .nan => false

/-- The clocks when the events of one drain are handled, by the position of the event. -/
abbrev Clocks := ℕ → SteadyTime × RosTime

/-- The events of a drain that `drain_transport` passes on. -/
def handledEvents (clocks : Clocks) (events : List UnicoreTransportEvent) : List NodeEvent :=
  (events.zipIdx.filter fun entry => entry.1 ≠ .asciiLine []).map fun (input, i) =>
    { input, receivedAt := (clocks i).1, stamp := (clocks i).2 }

namespace UnicoreNode

variable (math : MathFunctions) (config : UnicoreNodeConfig) (node : UnicoreNode)

/-- The node after its constructor. -/
def fresh : UnicoreNode where
  serial := { baudrate := config.baudrate }
  transport := .fresh
    { enableBinary := config.enableUnicoreBinary
      strictBinaryCrc := config.binaryParserStrictCrc
      binaryMaxFrameSize := config.maxFrameSize }

/-- The node closes its port. -/
def closeSerial : List SerialEvent × UnicoreNode :=
  ([.closed], { node with serial := node.serial.close })

/-- `ensure_serial_open` -/
def ensureSerialOpen (now : SteadyTime) (opening : OpenOutcome) : List SerialEvent × UnicoreNode :=
  if node.serial.isOpen then ([], node)
  else if attemptedRecently now node.lastOpenAttempt config.reconnectIntervalSec then ([], node)
  else
    let (opened, serial) := node.serial.openPort opening
    let node := { node with serial, lastOpenAttempt := some now }
    if opened then ([.opened], { node with transport := node.transport.clear })
    else ([], node)

/-- `drain_transport` -/
def drainTransport (clocks : Clocks) : List SerialEvent × UnicoreNode :=
  let (events, transport) := node.transport.drain
  let events := handledEvents clocks events
  (events.map .handled,
    { node with
      transport
      data := events.foldl (fun data event => (data.step math config.toNodeConfig event).1)
        node.data })

/-- What `poll_serial` does with bytes it has read. -/
def receive (bytes : Bytes) (clocks : Clocks) : List SerialEvent × UnicoreNode :=
  let node := { node with transport := node.transport.append bytes }
  let (trace, node) := node.drainTransport math config clocks
  (.received bytes :: trace, node)

/-- The loop of `poll_serial`. Has it come to its end? -/
def readLoop : List (ReadOutcome × Clocks) → UnicoreNode → Bool × List SerialEvent × UnicoreNode
  | [], node => (false, [], node)
  | (outcome, clocks) :: rest, node =>
    match node.serial.read 1024 outcome with
    | .bytes [] => (true, [], node)
    | .bytes (byte :: bytes) =>
      let (trace, node) := node.receive math config (byte :: bytes) clocks
      let (finished, trace', node) := readLoop rest node
      (finished, trace ++ trace', node)
    | .failed errno =>
      if errno = .again then (true, [], node)
      else (true, node.closeSerial)

/-- The end of `poll_serial`: too large a buffer is dropped. -/
def dropOversized : UnicoreNode :=
  if max 8192 (config.maxFrameSize * 2) < node.transport.bufferedBytes then
    { node with transport := node.transport.clear }
  else node

/-- `poll_serial` -/
def pollSerial (now : SteadyTime) (opening : OpenOutcome) (reads : List (ReadOutcome × Clocks)) :
    List SerialEvent × UnicoreNode :=
  let (trace, node) := node.ensureSerialOpen config now opening
  if !node.serial.isOpen then (trace, node)
  else
    let (finished, trace', node) := readLoop math config reads node
    (trace ++ trace', if finished then node.dropOversized config else node)

/-- `handle_rtcm`. The history is kept to 1024 entries. -/
def handleRtcm (now : SteadyTime) (opening : OpenOutcome) (message : Bytes)
    (writes : List WriteOutcome) (writtenAt : SteadyTime) : List SerialEvent × UnicoreNode :=
  let (trace, node) := node.ensureSerialOpen config now opening
  if !node.serial.isOpen then (trace, node)
  else if message = [] then (trace, node)
  else
    match node.serial.write message.length writes with
    | none => (trace, node)
    | some written =>
      if written < 0 then
        let (trace', node) := node.closeSerial
        (trace ++ trace', node)
      else
        let history := node.rtcmHistory ++ [writtenAt]
        (trace,
          { node with
            rtcmMessageCount := node.rtcmMessageCount + 1
            rtcmByteCount := node.rtcmByteCount + written.toNat
            rtcmHistory := if 1024 < history.length then history.tail else history })

end UnicoreNode

/-! ### Runs -/

/-- A callback, with the clock and what the operating system answers. -/
inductive Callback where
  | pollSerial (now : SteadyTime) (opening : OpenOutcome) (reads : List (ReadOutcome × Clocks))
  | handleRtcm (now : SteadyTime) (opening : OpenOutcome) (message : Bytes)
      (writes : List WriteOutcome) (writtenAt : SteadyTime)

namespace UnicoreNode

variable (math : MathFunctions) (config : UnicoreNodeConfig)

/-- One callback. -/
def call (node : UnicoreNode) : Callback → List SerialEvent × UnicoreNode
  | .pollSerial now opening reads => node.pollSerial math config now opening reads
  | .handleRtcm now opening message writes writtenAt =>
    node.handleRtcm config now opening message writes writtenAt

/-- A run of a fresh node: its trace and where it ends. -/
def run (callbacks : List Callback) : List SerialEvent × UnicoreNode :=
  callbacks.foldl
    (fun (trace, node) callback =>
      let (trace', node) := node.call math config callback
      (trace ++ trace', node))
    ([], fresh config)

theorem run_concat (callbacks : List Callback) (callback : Callback) :
    run math config (callbacks ++ [callback]) =
      ((run math config callbacks).1 ++
          ((run math config callbacks).2.call math config callback).1,
        ((run math config callbacks).2.call math config callback).2) := by
  rw [run, List.foldl_append]
  rfl

end UnicoreNode

/-! ### What has been handled -/

namespace SerialEvent

/-- The events handled, with their clocks. -/
def nodeEvents : SerialEvent → List NodeEvent
  | handled event => [event]
  | _ => []

theorem flatMap_nodeEvents_handled (events : List NodeEvent) :
    (events.map handled).flatMap nodeEvents = events := by
  rw [List.flatMap_map]
  exact List.flatMap_singleton' events

end SerialEvent

namespace UnicoreNode

variable (math : MathFunctions) (config : UnicoreNodeConfig) (node : UnicoreNode)

/-- The data of a node and a trace that follows: the trace is what has been done with it. -/
def DataAfter (data : NodeState) (after : List SerialEvent × UnicoreNode) : Prop :=
  after.2.data = (after.1.flatMap SerialEvent.nodeEvents).foldl
    (fun data event => (data.step math config.toNodeConfig event).1) data

theorem DataAfter.append {math : MathFunctions} {config : UnicoreNodeConfig} {data : NodeState}
    {first later : List SerialEvent × UnicoreNode} (h : DataAfter math config data first)
    (h' : DataAfter math config first.2.data later) :
    DataAfter math config data (first.1 ++ later.1, later.2) := by
  rw [DataAfter, List.flatMap_append, List.foldl_append, ← h]
  exact h'

theorem data_ensureSerialOpen (now : SteadyTime) (opening : OpenOutcome) :
    DataAfter math config node.data (node.ensureSerialOpen config now opening) := by
  unfold ensureSerialOpen
  split_ifs
  · rfl
  · rfl
  · rcases node.serial.openPort opening with ⟨_ | _, serial⟩ <;> rfl

theorem data_closeSerial : DataAfter math config node.data node.closeSerial := rfl

theorem data_receive (bytes : Bytes) (clocks : Clocks) :
    DataAfter math config node.data (node.receive math config bytes clocks) := by
  simp only [DataAfter, receive, drainTransport, List.flatMap_cons,
    SerialEvent.flatMap_nodeEvents_handled]
  rfl

theorem data_readLoop (reads : List (ReadOutcome × Clocks)) :
    DataAfter math config node.data (readLoop math config reads node).2 := by
  induction reads generalizing node with
  | nil => rfl
  | cons read reads ih =>
    rw [readLoop]
    rcases node.serial.read 1024 read.1 with (_ | ⟨byte, bytes⟩) | errno
    · rfl
    · exact (data_receive math config node (byte :: bytes) read.2).append (ih _)
    · by_cases hagain : errno = .again
      · simp only [hagain, if_true]
        rfl
      · simp only [hagain, if_false]
        rfl

theorem data_call (callback : Callback) :
    DataAfter math config node.data (node.call math config callback) := by
  cases callback with
  | pollSerial now opening reads =>
    have hensured := node.data_ensureSerialOpen math config now opening
    rw [call, pollSerial]
    generalize node.ensureSerialOpen config now opening = ensured at hensured
    obtain ⟨opened, node'⟩ := ensured
    have hloop := hensured.append (data_readLoop math config node' reads)
    dsimp only
    split_ifs
    · exact hensured
    · rw [dropOversized]
      split_ifs <;> exact hloop
    · exact hloop
  | handleRtcm now opening message writes writtenAt =>
    have hensured := node.data_ensureSerialOpen math config now opening
    rw [call, handleRtcm]
    generalize node.ensureSerialOpen config now opening = ensured at hensured
    obtain ⟨opened, node'⟩ := ensured
    dsimp only
    by_cases hidle : (!node'.serial.isOpen) = true
    · rwa [if_pos hidle]
    by_cases hmessage : message = []
    · rwa [if_neg hidle, if_pos hmessage]
    rw [if_neg hidle, if_neg hmessage]
    rcases node'.serial.write message.length writes with _ | written
    · exact hensured
    · by_cases hfailed : written < 0
      · simp only [hfailed, if_true]
        exact hensured.append (data_closeSerial math config node')
      · simp only [hfailed, if_false]
        exact hensured

/-- **What the node has received** is what its handlers have made of the events of the trace. -/
theorem data_run (callbacks : List Callback) :
    (run math config callbacks).2.data =
      Run.state math config.toNodeConfig
        ((run math config callbacks).1.flatMap SerialEvent.nodeEvents) := by
  induction callbacks using List.reverseRecOn with
  | nil => rfl
  | append_singleton callbacks callback ih =>
    have hrun : DataAfter math config {} (run math config callbacks) := ih
    rw [run_concat]
    exact hrun.append (data_call math config (run math config callbacks).2 callback)

end UnicoreNode

end UnicoreGnss
