import UnicoreGnss.Lib.PartialRuns
import UnicoreGnss.Ntrip.Gga

/-!
# The NTRIP client

`ntrip_client_node/src/ntrip_client_node.cpp`. Two threads share the node. The executor runs the
callbacks: `on_fix`, a timer, and the callback for parameters. The streaming thread runs
`do_streaming`, which connects to the caster again and again, and applies pending parameters in
between. libcurl calls `write_callback` on the streaming thread.

A step is what one party does between two points where another one can get in. The mutexes make
these steps: nobody but the streaming thread reads what the parameters are applied to, so applying
them is one step up to the lock for the GGA, and one from there to the store to the flag. A callback
for parameters cannot run while the streaming thread has the mutex. `on_fix` gives its mutex back
before it raises the flag. Any number of callbacks may be at that point.

Of libcurl it is taken that it calls `write_callback` only while a request is performed, and that it
gives the request up with an error after a chunk that was not taken. What `write_callback` finds in
its `desired_count` once it has asked for `CURLINFO_PRIVATE` is left open: libcurl stores a pointer
there, of eight bytes, and the variable is an `int`. A run ends where `format_gga` leaves its
buffer.

## Main definitions

* `NTRIPClientNode` — the node; `streaming` is where its streaming thread stands
* `NTRIPClientNode.step` — the steps of all parties
* `NTRIPClientNode.run` — the interleavings

## Main results

* `NTRIPClientNode.stepCase_of_step` — the inversion lemma
-/

namespace UnicoreGnss

open Checked

/-! ### Parameters -/

/-- The parameters of the connection. -/
structure ConnectionParams where
  useHttps : Bool := true
  host : Bytes := ascii "ntrip.data.gnss.ga.gov.au"
  port : ℤ := 443
  mountpoint : Bytes := ascii "MBCH00AUS0"
  username : Bytes := ascii "noname"
  password : Bytes := ascii "password"
  logLevel : Bytes := ascii "INFO"
  maxageConn : ℤ := 30
  deriving DecidableEq, Repr

/-- A parameter that is set. It has the type it was declared with: `rclcpp` sees to that. -/
inductive Parameter where
  | useHttps (value : Bool)
  | host (value : Bytes)
  | port (value : ℤ)
  | mountpoint (value : Bytes)
  | username (value : Bytes)
  | password (value : Bytes)
  | logLevel (value : Bytes)
  | maxageConn (value : ℤ)
  | other (name : Bytes)
  deriving DecidableEq, Repr

namespace Parameter

/-- The reason a parameter is refused for. -/
def refusal : Parameter → Option Bytes
  | host text => if text = [] then some (ascii "host cannot be empty") else none
  | port n => if n < 1 ∨ n > 65535 then some (ascii "port must be between 1 and 65535") else none
  | mountpoint text => if text = [] then some (ascii "mountpoint cannot be empty") else none
  | _ => none

/-- The pending parameters with this one stored. -/
def store (pending : ConnectionParams) : Parameter → ConnectionParams
  | useHttps flag => { pending with useHttps := flag }
  | host text => { pending with host := text }
  | port n => { pending with port := toInt n }
  | mountpoint text => { pending with mountpoint := text }
  | username text => { pending with username := text }
  | password text => { pending with password := text }
  | logLevel text => { pending with logLevel := text }
  | maxageConn n => { pending with maxageConn := n }
  | other _ => pending

end Parameter

/-- `rcl_interfaces/SetParametersResult` -/
structure SetParametersResult where
  successful : Bool
  reason : Bytes
  deriving DecidableEq, Repr

/-- The loop of `on_set_parameters_callback`. It returns at the first parameter it refuses. -/
def setPending (pending : ConnectionParams) :
    List Parameter → SetParametersResult × ConnectionParams
  | [] => ({ successful := true, reason := [] }, pending)
  | parameter :: parameters =>
    parameter.refusal.elim (setPending (parameter.store pending) parameters) fun reason =>
      ({ successful := false, reason }, pending)

/-! ### Requests -/

/-- The URL that a connection with the parameters asks for. -/
def connectionUrl (params : ConnectionParams) : Bytes :=
  (if params.useHttps then ascii "https://" else ascii "http://") ++ params.host ++ ascii ":" ++
    CNumber.decimalInt params.port ++ ascii "/" ++ params.mountpoint

/-- The options of the handle that `apply_curl_options` sets. -/
structure CurlOptions where
  url : Bytes
  userpwd : Bytes
  verbose : Bool
  maxageConn : ℤ
  httpHeader : List Bytes
  deriving DecidableEq, Repr

/-- `apply_curl_options` -/
def curlOptions (params : ConnectionParams) (latestGga : Bytes) : CurlOptions where
  url := cStr (connectionUrl params)
  userpwd := cStr (params.username ++ ascii ":" ++ params.password)
  verbose := params.logLevel ≠ ascii "INFO"
  maxageConn := params.maxageConn
  httpHeader := ascii "Ntrip-Version: Ntrip/2.0" ::
    if latestGga = [] then [] else [cStr (ascii "Ntrip-GGA: " ++ latestGga)]

/-- `rtcm_msgs/msg/Message` -/
structure RtcmMessage where
  header : Header
  message : Bytes
  deriving DecidableEq, Repr

/-- What is seen of the node. -/
inductive ClientEvent where
  /-- `curl_easy_perform` is called. -/
  | connects (options : CurlOptions)
  /-- A chunk is published, and libcurl is told how much of it was taken. -/
  | published (message : RtcmMessage) (taken : ℕ)
  | reconfigured (url : Bytes)
  /-- The request failed, and this is logged. -/
  | failed (url : Bytes)
  | pauses (milliseconds : ℕ)
  deriving DecidableEq, Repr

/-- Where the streaming thread stands. -/
inductive Streaming where
  /-- Before it asks whether to exit. -/
  | top
  /-- In `curl_easy_perform`. -/
  | performing
  /-- Before it asks for the flag. -/
  | performed (ok : Bool)
  | pausing
  /-- It has seen the flag. -/
  | entering
  /-- It has the mutex of the parameters and has copied them. -/
  | copied
  /-- It has set the options and is about to lower the flag. -/
  | built
  | finished
  deriving DecidableEq, Repr

/-- The streaming thread has the mutex of the parameters. -/
def Streaming.holdsParams : Streaming → Bool
  | copied => true
  | built => true
  | _ => false

/-! ### The node -/

/-- The members of the node that its threads share, and the place of the streaming thread. -/
structure NTRIPClientNode where
  pending : ConnectionParams
  applied : ConnectionParams
  reconfigureNeeded : Bool := false
  latestGga : Bytes := []
  /-- The options of the handle. -/
  options : CurlOptions
  desiredCountReached : Bool := false
  recordCount : ℕ := 0
  streamingExit : Bool := false
  streaming : Streaming := .top
  /-- How many calls of `on_fix` have stored a first GGA but not yet raised the flag. -/
  firstFixes : ℕ := 0
  /-- What has been seen of the node. -/
  trace : List ClientEvent := []
  deriving DecidableEq, Repr

/-- What a thread of the node does next. -/
inductive ClientAction where
  /-- `on_fix`, up to the end of its lock. -/
  | onFix (time : UtcTime) (fix : NavSatFix)
  /-- The end of an `on_fix` that stored the first GGA. -/
  | raiseForFirstFix
  /-- The timer of five minutes. -/
  | refresh
  | setParameters (parameters : List Parameter)
  /-- The destructor asks the streaming thread to exit. -/
  | exit
  /-- The streaming thread goes on from `top`. -/
  | begin
  /-- libcurl hands over a chunk; `desiredCount` is what `curl_easy_getinfo` leaves in the `int`. -/
  | writeCallback (stamp : RosTime) (data : Bytes) (desiredCount : ℤ)
  | performReturns (ok : Bool)
  /-- It asks for the flag. -/
  | checkReconfigure
  /-- It wakes from its sleep. -/
  | wake
  /-- It takes the mutex and copies the parameters. -/
  | copyParams
  /-- It sets the options, with the GGA there is now. -/
  | applyCurlOptions
  /-- It lowers the flag and gives the mutex back. -/
  | lowerFlag

namespace NTRIPClientNode

/-- The node after its constructor. -/
def fresh (declared : ConnectionParams) : NTRIPClientNode where
  pending := { declared with port := toInt declared.port }
  applied := { declared with port := toInt declared.port }
  options := curlOptions { declared with port := toInt declared.port } []

/-- `desired_count` of the constructor, which is handed to libcurl with `CURLOPT_PRIVATE`. -/
def desiredCount : ℕ := 10

/-- `size * nmemb - 1`, in `size_t`. -/
def oneLess (size : ℕ) : ℕ := (size + (2 ^ 64 - 1)) % 2 ^ 64

variable (node : NTRIPClientNode)

/-- The node after it has been seen to do something. -/
def emit (events : List ClientEvent) : NTRIPClientNode :=
  { node with trace := node.trace ++ events }

/-- `on_fix`, up to the end of its lock. -/
def onFix (time : UtcTime) (fix : NavSatFix) : Option NTRIPClientNode :=
  (formatGga time fix).toOption.map fun gga =>
    if gga = [] then node
    else
      { node with
        latestGga := gga
        firstFixes := if node.latestGga = [] then node.firstFixes + 1 else node.firstFixes }

/-- The parameters callback, which has the mutex all the time. -/
def onSetParametersCallback (parameters : List Parameter) : NTRIPClientNode :=
  { node with
    pending := (setPending node.pending parameters).2
    reconfigureNeeded :=
      node.reconfigureNeeded || (setPending node.pending parameters).1.successful }

/-- The record count is reached with the chunk that is being written. As `desired_count` is an
`int`, the count goes back to zero before it leaves one. -/
def reachesCount (desiredCount : ℤ) : Bool := desiredCount ≤ node.recordCount + 1

/-- `write_callback`, with what `curl_easy_getinfo` leaves in `desired_count`. -/
def writeCallback (stamp : RosTime) (data : Bytes) (desiredCount : ℤ) : NTRIPClientNode :=
  { node with
    trace := node.trace ++
      [.published { header := { stamp, frameId := node.applied.mountpoint }, message := data }
        (if node.reachesCount desiredCount then oneLess data.length else data.length)]
    recordCount := if node.reachesCount desiredCount then 0 else node.recordCount + 1
    desiredCountReached :=
      if node.reachesCount desiredCount then true else node.desiredCountReached }

/-- The loop of `do_streaming` behind a request, as far as the flag or the sleep. -/
def checkReconfigure (ok : Bool) : NTRIPClientNode :=
  if node.reconfigureNeeded then { node with streaming := .entering }
  else if ok then { node with streaming := .top }
  else if node.desiredCountReached then
    { node.emit [.pauses 100] with streaming := .pausing }
  else
    { node.emit [.failed node.options.url, .pauses 1000] with streaming := .pausing }

/-- One step of one party. -/
def step : ClientAction → Option NTRIPClientNode
  | .onFix time fix => node.onFix time fix
  | .raiseForFirstFix =>
    if 0 < node.firstFixes then
      some { node with firstFixes := node.firstFixes - 1, reconfigureNeeded := true }
    else none
  | .refresh =>
    some { node with reconfigureNeeded := node.reconfigureNeeded || node.latestGga ≠ [] }
  | .setParameters parameters =>
    if node.streaming.holdsParams then none else some (node.onSetParametersCallback parameters)
  | .exit => some { node with streamingExit := true }
  | .begin =>
    if node.streaming = .top then
      if node.streamingExit then some { node with streaming := .finished }
      else
        some { node.emit [.connects node.options] with
          desiredCountReached := false, streaming := .performing }
    else none
  | .writeCallback stamp data desiredCount =>
    if node.streaming = .performing ∧ node.desiredCountReached = false then
      some (node.writeCallback stamp data desiredCount)
    else none
  | .performReturns ok =>
    if node.streaming = .performing ∧ (node.desiredCountReached = true → ok = false) then
      some { node with streaming := .performed ok }
    else none
  | .checkReconfigure =>
    if node.streaming = .performed true then some (node.checkReconfigure true)
    else if node.streaming = .performed false then some (node.checkReconfigure false)
    else none
  | .wake => if node.streaming = .pausing then some { node with streaming := .top } else none
  | .copyParams =>
    if node.streaming = .entering then
      some { node with applied := node.pending, streaming := .copied }
    else none
  | .applyCurlOptions =>
    if node.streaming = .copied then
      some { node with options := curlOptions node.applied node.latestGga, streaming := .built }
    else none
  | .lowerFlag =>
    if node.streaming = .built then
      some { node.emit [.reconfigured (connectionUrl node.applied)] with
        reconfigureNeeded := false, streaming := .top }
    else none

/-- Where a list of steps leads from a fresh node. -/
def run (declared : ConnectionParams) (actions : List ClientAction) : Option NTRIPClientNode :=
  PartialRun.run step (fresh declared) actions

/-! ### All that a step can do -/

/-- The cases of a step. The flag can only be lowered in the last one. -/
inductive StepCase (node : NTRIPClientNode) : ClientAction → NTRIPClientNode → Prop
  | noFix {time fix} (hgga : formatGga time fix = value []) : StepCase node (.onFix time fix) node
  | firstFix {time fix gga} (hgga : formatGga time fix = value gga) (hne : gga ≠ [])
      (hfirst : node.latestGga = []) :
      StepCase node (.onFix time fix)
        { node with latestGga := gga, firstFixes := node.firstFixes + 1 }
  | laterFix {time fix gga} (hgga : formatGga time fix = value gga) (hne : gga ≠ [])
      (hlater : node.latestGga ≠ []) :
      StepCase node (.onFix time fix) { node with latestGga := gga }
  | raiseForFirstFix (hdue : 0 < node.firstFixes) :
      StepCase node .raiseForFirstFix
        { node with firstFixes := node.firstFixes - 1, reconfigureNeeded := true }
  | refresh (hgga : node.latestGga ≠ []) :
      StepCase node .refresh { node with reconfigureNeeded := true }
  | refreshNothing (hgga : node.latestGga = []) : StepCase node .refresh node
  | setParameters {parameters} (hfree : node.streaming.holdsParams = false) :
      StepCase node (.setParameters parameters) (node.onSetParametersCallback parameters)
  | exit : StepCase node .exit { node with streamingExit := true }
  | finish (htop : node.streaming = .top) (hexit : node.streamingExit = true) :
      StepCase node .begin { node with streaming := .finished }
  | connect (htop : node.streaming = .top) (hexit : node.streamingExit = false) :
      StepCase node .begin
        { node.emit [.connects node.options] with
          desiredCountReached := false, streaming := .performing }
  | writeCallback {stamp data desiredCount} (hperforming : node.streaming = .performing)
      (hcount : node.desiredCountReached = false) :
      StepCase node (.writeCallback stamp data desiredCount)
        (node.writeCallback stamp data desiredCount)
  | performReturns {ok} (hperforming : node.streaming = .performing)
      (hok : node.desiredCountReached = true → ok = false) :
      StepCase node (.performReturns ok) { node with streaming := .performed ok }
  | notice {ok} (hperformed : node.streaming = .performed ok)
      (hraised : node.reconfigureNeeded = true) :
      StepCase node .checkReconfigure { node with streaming := .entering }
  | again (hperformed : node.streaming = .performed true) (hdown : node.reconfigureNeeded = false) :
      StepCase node .checkReconfigure { node with streaming := .top }
  | countReached (hperformed : node.streaming = .performed false)
      (hdown : node.reconfigureNeeded = false) (hcount : node.desiredCountReached = true) :
      StepCase node .checkReconfigure { node.emit [.pauses 100] with streaming := .pausing }
  | failed (hperformed : node.streaming = .performed false)
      (hdown : node.reconfigureNeeded = false) (hcount : node.desiredCountReached = false) :
      StepCase node .checkReconfigure
        { node.emit [.failed node.options.url, .pauses 1000] with streaming := .pausing }
  | wake (hpausing : node.streaming = .pausing) :
      StepCase node .wake { node with streaming := .top }
  | copyParams (hentering : node.streaming = .entering) :
      StepCase node .copyParams { node with applied := node.pending, streaming := .copied }
  | applyCurlOptions (hcopied : node.streaming = .copied) :
      StepCase node .applyCurlOptions
        { node with options := curlOptions node.applied node.latestGga, streaming := .built }
  | lowerFlag (hbuilt : node.streaming = .built) :
      StepCase node .lowerFlag
        { node.emit [.reconfigured (connectionUrl node.applied)] with
          reconfigureNeeded := false, streaming := .top }

/-- **The inversion lemma.** -/
theorem stepCase_of_step {node after : NTRIPClientNode} {action : ClientAction}
    (h : node.step action = some after) : StepCase node action after := by
  cases action with
  | onFix time fix =>
    rw [step, onFix] at h
    obtain ⟨gga, hgga, rfl⟩ := Option.map_eq_some_iff.mp h
    have hformat : formatGga time fix = value gga := by
      cases hvalue : formatGga time fix with
      | value gga' =>
        rw [hvalue, toOption_value] at hgga
        rw [Option.some.inj hgga]
      | refused => rw [hvalue] at hgga; cases hgga
      | outside => rw [hvalue] at hgga; cases hgga
    by_cases hne : gga = []
    · rw [if_pos hne]
      exact .noFix (hne ▸ hformat)
    rw [if_neg hne]
    by_cases hfirst : node.latestGga = []
    · rw [if_pos hfirst]
      exact .firstFix hformat hne hfirst
    · rw [if_neg hfirst]
      exact .laterFix hformat hne hfirst
  | raiseForFirstFix =>
    obtain ⟨hdue, hafter⟩ := Option.ite_none_right_eq_some.mp h
    exact Option.some.inj hafter ▸ .raiseForFirstFix hdue
  | refresh =>
    obtain rfl := Option.some.inj h
    by_cases hgga : node.latestGga = []
    · have hkept : (node.reconfigureNeeded || decide (node.latestGga ≠ [])) =
          node.reconfigureNeeded := by
        simp [hgga]
      rw [hkept]
      exact .refreshNothing hgga
    · have hraised : (node.reconfigureNeeded || decide (node.latestGga ≠ [])) = true := by
        simp [hgga]
      rw [hraised]
      exact .refresh hgga
  | setParameters parameters =>
    rw [step] at h
    by_cases hheld : node.streaming.holdsParams = true
    · rw [if_pos hheld] at h
      cases h
    · rw [if_neg hheld] at h
      exact Option.some.inj h ▸ .setParameters (by simpa using hheld)
  | exit => exact Option.some.inj h ▸ .exit
  | begin =>
    obtain ⟨htop, hafter⟩ := Option.ite_none_right_eq_some.mp h
    by_cases hexit : node.streamingExit = true
    · rw [if_pos hexit] at hafter
      exact Option.some.inj hafter ▸ .finish htop hexit
    · rw [if_neg hexit] at hafter
      exact Option.some.inj hafter ▸ .connect htop (by simpa using hexit)
  | writeCallback stamp data desiredCount =>
    obtain ⟨⟨hperforming, hcount⟩, hafter⟩ := Option.ite_none_right_eq_some.mp h
    exact Option.some.inj hafter ▸ .writeCallback hperforming hcount
  | performReturns ok =>
    obtain ⟨⟨hperforming, hok⟩, hafter⟩ := Option.ite_none_right_eq_some.mp h
    exact Option.some.inj hafter ▸ .performReturns hperforming hok
  | checkReconfigure =>
    have hcheck : ∃ ok, node.streaming = .performed ok ∧ node.checkReconfigure ok = after := by
      rw [step] at h
      by_cases htrue : node.streaming = .performed true
      · rw [if_pos htrue] at h
        exact ⟨true, htrue, Option.some.inj h⟩
      · rw [if_neg htrue] at h
        obtain ⟨hfalse, hafter⟩ := Option.ite_none_right_eq_some.mp h
        exact ⟨false, hfalse, Option.some.inj hafter⟩
    obtain ⟨ok, hperformed, rfl⟩ := hcheck
    rw [NTRIPClientNode.checkReconfigure]
    by_cases hraised : node.reconfigureNeeded = true
    · rw [if_pos hraised]
      exact .notice hperformed hraised
    rw [if_neg hraised]
    have hdown : node.reconfigureNeeded = false := by simpa using hraised
    cases ok with
    | true => exact .again hperformed hdown
    | false =>
      rw [if_neg Bool.false_ne_true]
      by_cases hcount : node.desiredCountReached = true
      · rw [if_pos hcount]
        exact .countReached hperformed hdown hcount
      · rw [if_neg hcount]
        exact .failed hperformed hdown (by simpa using hcount)
  | wake =>
    obtain ⟨hpausing, hafter⟩ := Option.ite_none_right_eq_some.mp h
    exact Option.some.inj hafter ▸ .wake hpausing
  | copyParams =>
    obtain ⟨hentering, hafter⟩ := Option.ite_none_right_eq_some.mp h
    exact Option.some.inj hafter ▸ .copyParams hentering
  | applyCurlOptions =>
    obtain ⟨hcopied, hafter⟩ := Option.ite_none_right_eq_some.mp h
    exact Option.some.inj hafter ▸ .applyCurlOptions hcopied
  | lowerFlag =>
    obtain ⟨hbuilt, hafter⟩ := Option.ite_none_right_eq_some.mp h
    exact Option.some.inj hafter ▸ .lowerFlag hbuilt

end NTRIPClientNode

end UnicoreGnss
