import UnicoreGnss.Lib.Sessions
import UnicoreGnss.Node.RtcmWrites
import UnicoreGnss.Ntrip.Reconfigure

/-!
# From the caster to the receiver

libcurl hands the body of a response to `write_callback` in chunks. Every chunk is published, also
the one the callback then says it has not wholly taken. Which one that is rests on
`curl_easy_getinfo`. If it leaves in the `int` the ten that the constructor stored, requests end
with every tenth chunk of the node's life, wherever in a request that is: the record count goes on
from one request to the next. The rest of such a response never comes to the node.

The receiver node writes each message it gets to the serial port, and what the port takes is a
beginning of the message. Whatever the topic between the nodes loses, the receiver gets pieces of
the chunks in their order, and all their bytes if nothing is lost and every write is complete.

## Main definitions

* `chunks` — what libcurl has handed over
* `publications` — what has been published, and what libcurl was told
* `ReadsPrivate` — what is taken of `curl_easy_getinfo`
* `Opened` — the connection that is open

## Main results

* `chunks_accounted` — every chunk is published, and every tenth ends its request
* `frame_of_connection` — messages carry the mountpoint their connection was opened for
* `rtcm_reaches_receiver` — what the receiver gets
-/

namespace UnicoreGnss

open Checked

/-- What a step of libcurl hands over. -/
def ClientAction.chunk : ClientAction → List (RosTime × Bytes)
  | writeCallback stamp data _ => [(stamp, data)]
  | _ => []

/-- What libcurl has handed over, with the clock. -/
def chunks (actions : List ClientAction) : List (RosTime × Bytes) :=
  actions.flatMap ClientAction.chunk

/-- The message an event publishes, with how much libcurl was told of it. -/
def ClientEvent.publication : ClientEvent → List (RtcmMessage × ℕ)
  | published message taken => [(message, taken)]
  | _ => []

/-- What has been published. -/
def publications (trace : List ClientEvent) : List (RtcmMessage × ℕ) :=
  trace.flatMap ClientEvent.publication

/-- What the `k`th chunk is answered with if every tenth ends its request. -/
def answerTo (k : ℕ) (data : Bytes) : ℕ :=
  if (k + 1) % NTRIPClientNode.desiredCount = 0 then NTRIPClientNode.oneLess data.length
  else data.length

theorem publications_append (trace events : List ClientEvent) :
    publications (trace ++ events) = publications trace ++ publications events :=
  List.flatMap_append

namespace NTRIPClientNode

variable {declared : ConnectionParams} {actions past : List ClientAction}
  {node after : NTRIPClientNode} {action : ClientAction}

/-! ### Every chunk is published -/

/-- Each time, the `int` of `write_callback` reads back what the constructor has stored: the low
half of the pointer, on a machine with the low byte first. -/
def ReadsPrivate (actions : List ClientAction) : Prop :=
  ∀ stamp data (count : ℤ), .writeCallback stamp data count ∈ actions → count = desiredCount

theorem ReadsPrivate.of_append {more : List ClientAction} (h : ReadsPrivate (actions ++ more)) :
    ReadsPrivate actions := by
  intro stamp data count hmem
  exact h stamp data count (List.mem_append_left more hmem)

/-- What a run keeps of the chunks. -/
structure Accounted (actions : List ClientAction) (node : NTRIPClientNode) : Prop where
  messages : (publications node.trace).map (fun p => (p.1.header.stamp, p.1.message)) =
    chunks actions
  count : ReadsPrivate actions → node.recordCount = (chunks actions).length % desiredCount
  answers : ReadsPrivate actions →
    ∀ k p, (publications node.trace)[k]? = some p → p.2 = answerTo k p.1.message

/-- A step that hands nothing over. -/
theorem Accounted.of_silent (h : Accounted past node) (haction : action.chunk = [])
    (htrace : publications after.trace = publications node.trace)
    (hcount : after.recordCount = node.recordCount) : Accounted (past ++ [action]) after := by
  have hchunks : chunks (past ++ [action]) = chunks past := by
    rw [chunks, List.flatMap_append, List.flatMap_singleton, haction, List.append_nil]
    rfl
  refine ⟨?_, fun hreads => ?_, fun hreads => ?_⟩
  · rw [htrace, hchunks]
    exact h.messages
  · rw [hcount, hchunks]
    exact h.count hreads.of_append
  · rw [htrace]
    exact h.answers hreads.of_append

theorem publications_emit {events : List ClientEvent} (h : publications events = []) :
    publications (node.emit events).trace = publications node.trace := by
  rw [emit, publications_append, h, List.append_nil]

/-- If the `int` reads back what was stored, every tenth message reaches the count. -/
theorem Accounted.reachesCount_iff (h : Accounted past node) {stamp : RosTime} {data : Bytes}
    {count : ℤ} (hreads : ReadsPrivate (past ++ [.writeCallback stamp data count])) :
    node.reachesCount count = true ↔ ((publications node.trace).length + 1) % desiredCount = 0 := by
  have hcount := h.count hreads.of_append
  have hlength : (publications node.trace).length = (chunks past).length := by
    rw [← h.messages, List.length_map]
  rw [reachesCount, decide_eq_true_iff, hcount, hlength,
    hreads stamp data count (List.mem_append_right past (List.mem_singleton.mpr rfl)), desiredCount]
  omega

/-- A chunk is published, and counted. -/
theorem Accounted.writeCallback (h : Accounted past node) (stamp : RosTime) (data : Bytes)
    (count : ℤ) : Accounted (past ++ [.writeCallback stamp data count])
      (node.writeCallback stamp data count) := by
  have hchunks : chunks (past ++ [.writeCallback stamp data count]) =
      chunks past ++ [(stamp, data)] :=
    List.flatMap_append
  have hlength : (publications node.trace).length = (chunks past).length := by
    rw [← h.messages, List.length_map]
  have hpublications : publications (node.writeCallback stamp data count).trace =
      publications node.trace ++ [(⟨⟨stamp, node.applied.mountpoint⟩, data⟩,
        if node.reachesCount count then oneLess data.length else data.length)] :=
    publications_append node.trace _
  constructor
  case messages =>
    rw [hpublications, hchunks, List.map_append, h.messages]
    rfl
  case count =>
    intro hreads
    have hcount := h.count hreads.of_append
    show (if node.reachesCount count = true then 0 else node.recordCount + 1) = _
    rw [hchunks, List.length_append, List.length_singleton, ← hlength]
    rw [← hlength] at hcount
    simp only [h.reachesCount_iff hreads, hcount, desiredCount]
    split <;> omega
  case answers =>
    intro hreads k p hp
    rw [hpublications] at hp
    rcases Nat.lt_or_ge k (publications node.trace).length with hlt | hge
    · rw [List.getElem?_append_left hlt] at hp
      exact h.answers hreads.of_append k p hp
    · rw [List.getElem?_append_right hge, List.getElem?_singleton] at hp
      split at hp
      · obtain rfl : (publications node.trace).length = k := by omega
        obtain rfl := Option.some.inj hp
        simp only [answerTo, h.reachesCount_iff hreads]
      · cases hp

theorem Accounted.step (h : Accounted past node) (hstep : node.step action = some after) :
    Accounted (past ++ [action]) after := by
  cases stepCase_of_step hstep with
  | connect => exact h.of_silent rfl (publications_emit rfl) rfl
  | countReached => exact h.of_silent rfl (publications_emit rfl) rfl
  | failed => exact h.of_silent rfl (publications_emit rfl) rfl
  | lowerFlag => exact h.of_silent rfl (publications_emit rfl) rfl
  | @writeCallback stamp data count => exact h.writeCallback stamp data count
  | _ => exact h.of_silent rfl rfl rfl

theorem Accounted.of_run (h : run declared actions = some node) : Accounted actions node := by
  refine PartialRun.invariant ?_ (fun _ _ _ _ _ hkept hstep => hkept.step hstep) h
  refine ⟨rfl, fun _ => rfl, ?_⟩
  intro _ k p hp
  cases hp

/-- **Every chunk is published**, once and in order. If `curl_easy_getinfo` reads back what was
stored, libcurl is told that a chunk was not wholly taken exactly for every tenth one of the node's
life. -/
theorem chunks_accounted (h : run declared actions = some node) :
    (publications node.trace).map (fun p => (p.1.header.stamp, p.1.message)) = chunks actions ∧
      (ReadsPrivate actions →
        (∀ k p, (publications node.trace)[k]? = some p → p.2 = answerTo k p.1.message) ∧
          node.recordCount = (chunks actions).length % desiredCount) := by
  have hkept := Accounted.of_run h
  exact ⟨hkept.messages, fun hreads => ⟨hkept.answers hreads, hkept.count hreads⟩⟩

/-- The tenth chunk is published too, and ends the request. -/
theorem chunks_accounted_tenth :
    ∃ node, run {} (.begin :: List.replicate 10 (.writeCallback 0 [1, 2] 10)) = some node ∧
      (publications node.trace).map (fun p => (p.1.header.stamp, p.1.message)) =
        List.replicate 10 (0, [1, 2]) ∧
      (∀ k p, (publications node.trace)[k]? = some p → p.2 = answerTo k p.1.message) ∧
      (publications node.trace).map Prod.snd = List.replicate 9 2 ++ [1] ∧
      node.recordCount = 0 := by
  obtain ⟨node, hrun⟩ : ∃ node, run {}
      (.begin :: List.replicate 10 (.writeCallback 0 [1, 2] 10)) = some node :=
    Option.isSome_iff_exists.mp (by decide +kernel)
  have hreads : ReadsPrivate (.begin :: List.replicate 10 (.writeCallback 0 [1, 2] 10)) := by
    intro stamp data count hmem
    simp only [List.mem_cons, reduceCtorEq, false_or, List.mem_replicate] at hmem
    obtain ⟨-, hwrite⟩ := hmem
    exact (ClientAction.writeCallback.inj hwrite).2.2
  obtain ⟨hmessages, hcounted⟩ := chunks_accounted hrun
  obtain ⟨hanswers, hcount⟩ := hcounted hreads
  refine ⟨node, hrun, hmessages, hanswers, ?_, hcount⟩
  have hvalues : (run {} (.begin :: List.replicate 10 (.writeCallback 0 [1, 2] 10))).map
      (fun node => (publications node.trace).map Prod.snd) = some (List.replicate 9 2 ++ [1]) := by
    decide +kernel
  rw [hrun] at hvalues
  exact Option.some.inj hvalues

end NTRIPClientNode

/-! ### The mountpoint of a message -/

/-- An event that opens a connection. -/
def ClientEvent.isConnects : ClientEvent → Bool
  | connects _ => true
  | _ => false

/-- With this trace the connection is open that was opened after `past`, with the node `opened`. -/
structure Opened (declared : ConnectionParams) (past : List ClientAction) (trace : List ClientEvent)
    (opened : NTRIPClientNode) : Prop where
  run : NTRIPClientNode.run declared past = some opened
  trace : ∃ since, trace = opened.trace ++ .connects opened.options :: since ∧
    since.all (fun event => !event.isConnects) = true
  options : ∃ gga, opened.options = curlOptions opened.applied gga

/-- Events that open no connection leave it as it is. -/
theorem Opened.append {declared : ConnectionParams} {past : List ClientAction}
    {trace events : List ClientEvent} {opened : NTRIPClientNode}
    (h : Opened declared past trace opened)
    (hevents : events.all (fun event => !event.isConnects) = true) :
    Opened declared past (trace ++ events) opened := by
  obtain ⟨since, rfl, hsince⟩ := h.trace
  refine ⟨h.run, ⟨since ++ events, ?_, ?_⟩, h.options⟩
  · rw [List.append_assoc, List.cons_append]
  · rw [List.all_append, hsince, hevents]
    rfl

/-- A message carries the mountpoint that its connection was opened for. -/
def FromConnection (declared : ConnectionParams) (actions : List ClientAction)
    (before : List ClientEvent) (event : ClientEvent) : Prop :=
  ∀ message taken, event = .published message taken → ∃ past opened,
    past ++ [.begin] <+: actions ∧ Opened declared past before opened ∧
      message.header.frameId = opened.applied.mountpoint

/-- Events that are no messages need no connection. -/
theorem justified_append {declared : ConnectionParams} {actions : List ClientAction}
    {trace events : List ClientEvent} (h : Justified (FromConnection declared actions) trace)
    (hother : publications events = []) :
    Justified (FromConnection declared actions) (trace ++ events) := by
  induction events generalizing trace with
  | nil => rwa [List.append_nil]
  | cons event events ih =>
    have hsplit : publications (event :: events) = event.publication ++ publications events := rfl
    rw [hsplit, List.append_eq_nil_iff] at hother
    rw [List.append_cons]
    refine ih (justified_concat_iff.mpr ⟨h, ?_⟩) hother.2
    rintro message taken rfl
    cases hother.1

/-- A message keeps its connection as the run goes on. -/
theorem justified_concat_action {declared : ConnectionParams} {past : List ClientAction}
    {trace : List ClientEvent} (action : ClientAction)
    (h : Justified (FromConnection declared past) trace) :
    Justified (FromConnection declared (past ++ [action])) trace := by
  intro before event later htrace message taken hmessage
  obtain ⟨opening, opened, hprefix, hopened, hframe⟩ :=
    h before event later htrace message taken hmessage
  exact ⟨opening, opened, hprefix.trans (List.prefix_append past _), hopened, hframe⟩

namespace NTRIPClientNode

variable {declared : ConnectionParams} {actions past : List ClientAction}
  {node after : NTRIPClientNode} {action : ClientAction}

/-- What a run keeps of the connection. While a request is performed, the parameters that are
applied are those its connection was opened with. -/
structure Framed (declared : ConnectionParams) (actions : List ClientAction)
    (node : NTRIPClientNode) : Prop where
  connection : node.streaming = .performing → ∃ past opened, past ++ [.begin] <+: actions ∧
    Opened declared past node.trace opened ∧ node.applied = opened.applied
  options : node.streaming ≠ .copied → ∃ gga, node.options = curlOptions node.applied gga
  trace : Justified (FromConnection declared actions) node.trace

/-- A step that leaves the connection, the options and the trace as they are. -/
theorem Framed.of_same (h : Framed declared past node)
    (hstreaming : after.streaming = node.streaming)
    (happlied : after.applied = node.applied) (hoptions : after.options = node.options)
    (htrace : after.trace = node.trace) : Framed declared (past ++ [action]) after := by
  refine ⟨fun hperforming => ?_, fun hcopied => ?_, ?_⟩
  · obtain ⟨opening, opened, hprefix, hopened, hsame⟩ :=
      h.connection (hstreaming ▸ hperforming)
    rw [htrace, happlied]
    exact ⟨opening, opened, hprefix.trans (List.prefix_append past _), hopened, hsame⟩
  · rw [hoptions, happlied]
    exact h.options (hstreaming ▸ hcopied)
  · rw [htrace]
    exact justified_concat_action action h.trace

/-- A step of the streaming thread that ends no request and applies no parameters. -/
theorem Framed.of_idle (h : Framed declared past node) (hfrom : node.streaming ≠ .copied)
    (hto : after.streaming ≠ .performing) (happlied : after.applied = node.applied)
    (hoptions : after.options = node.options) {events : List ClientEvent}
    (htrace : after.trace = node.trace ++ events) (hevents : publications events = []) :
    Framed declared (past ++ [action]) after := by
  refine ⟨fun hperforming => absurd hperforming hto, fun _ => ?_, ?_⟩
  · rw [hoptions, happlied]
    exact h.options hfrom
  · rw [htrace]
    exact justified_append (justified_concat_action action h.trace) hevents

theorem Framed.step (hrun : run declared past = some node) (h : Framed declared past node)
    (hstep : node.step action = some after) : Framed declared (past ++ [action]) after := by
  cases stepCase_of_step hstep with
  | connect htop =>
    have hoptions := h.options (by simp [htop])
    refine ⟨fun _ => ⟨past, node, List.prefix_refl _, ⟨hrun, ⟨[], rfl, rfl⟩, hoptions⟩, rfl⟩,
      fun _ => hoptions, ?_⟩
    exact justified_append (justified_concat_action _ h.trace) rfl
  | @writeCallback stamp data count hperforming =>
    obtain ⟨opening, opened, hprefix, hopened, hsame⟩ := h.connection hperforming
    have hlonger := hprefix.trans (List.prefix_append past [.writeCallback stamp data count])
    refine ⟨fun _ => ⟨opening, opened, hlonger, hopened.append rfl, hsame⟩,
      fun _ => h.options (by simp [hperforming]),
      justified_concat_iff.mpr ⟨justified_concat_action _ h.trace, ?_⟩⟩
    intro message taken hmessage
    obtain ⟨rfl, -⟩ := ClientEvent.published.inj hmessage
    exact ⟨opening, opened, hlonger, hopened, congrArg ConnectionParams.mountpoint hsame⟩
  | finish htop =>
    exact h.of_idle (by simp [htop]) (by simp) rfl rfl (List.append_nil _).symm rfl
  | performReturns hperforming =>
    exact h.of_idle (by simp [hperforming]) (by simp) rfl rfl (List.append_nil _).symm rfl
  | notice hperformed =>
    exact h.of_idle (by simp [hperformed]) (by simp) rfl rfl (List.append_nil _).symm rfl
  | again hperformed =>
    exact h.of_idle (by simp [hperformed]) (by simp) rfl rfl (List.append_nil _).symm rfl
  | countReached hperformed => exact h.of_idle (by simp [hperformed]) (by simp) rfl rfl rfl rfl
  | failed hperformed => exact h.of_idle (by simp [hperformed]) (by simp) rfl rfl rfl rfl
  | wake hpausing =>
    exact h.of_idle (by simp [hpausing]) (by simp) rfl rfl (List.append_nil _).symm rfl
  | copyParams =>
    exact ⟨by simp, fun hcopied => absurd rfl hcopied, justified_concat_action _ h.trace⟩
  | applyCurlOptions =>
    exact ⟨by simp, fun _ => ⟨node.latestGga, rfl⟩, justified_concat_action _ h.trace⟩
  | lowerFlag hbuilt => exact h.of_idle (by simp [hbuilt]) (by simp) rfl rfl rfl rfl
  | _ => exact h.of_same rfl rfl rfl rfl

/-- **Messages carry the mountpoint they came from.** The connection open at the time was opened, at
some earlier point of the run, with the parameters applied then; the message carries the mountpoint
of these, whatever has been updated since. -/
theorem frame_of_connection (h : run declared actions = some node) :
    ∀ before message taken later, node.trace = before ++ .published message taken :: later →
      ∃ past opened, past ++ [.begin] <+: actions ∧ Opened declared past before opened ∧
        message.header.frameId = opened.applied.mountpoint := by
  have hkept : Framed declared actions node :=
    PartialRun.invariant ⟨by simp [fresh], fun _ => ⟨[], rfl⟩, justified_nil _⟩
      (fun _ _ _ _ hrun hkept hstep => hkept.step hrun hstep) h
  intro before message taken later htrace
  exact hkept.trace before _ later htrace message taken rfl

/-- A message that comes in after the mountpoint was changed, but before the change is in force. -/
theorem frame_of_connection_changed :
    ∃ node, run {} [.begin, .setParameters [.mountpoint (ascii "B")], .writeCallback 5 [1] 10] =
        some node ∧
      node.pending.mountpoint = ascii "B" ∧
      ∃ past opened, past ++ [.begin] <+:
          [.begin, .setParameters [.mountpoint (ascii "B")], .writeCallback 5 [1] 10] ∧
        Opened {} past [.connects (curlOptions {} [])] opened ∧
        opened.applied.mountpoint = ascii "MBCH00AUS0" := by
  obtain ⟨node, hrun⟩ : ∃ node, run {} [.begin, .setParameters [.mountpoint (ascii "B")],
      .writeCallback 5 [1] 10] = some node := Option.isSome_iff_exists.mp (by decide +kernel)
  have hseen : (run {} [.begin, .setParameters [.mountpoint (ascii "B")],
      .writeCallback 5 [1] 10]).map (fun node => (node.trace, node.pending.mountpoint)) =
        some ([.connects (curlOptions {} []), .published ⟨⟨5, ascii "MBCH00AUS0"⟩, [1]⟩ 1],
          ascii "B") := by
    decide +kernel
  rw [hrun] at hseen
  obtain ⟨htrace, hpending⟩ := Prod.mk.inj (Option.some.inj hseen)
  obtain ⟨past, opened, hprefix, hopened, hframe⟩ := frame_of_connection hrun
    [.connects (curlOptions {} [])] ⟨⟨5, ascii "MBCH00AUS0"⟩, [1]⟩ 1 [] htrace
  exact ⟨node, hrun, hpending, past, opened, hprefix, hopened, hframe.symm⟩

end NTRIPClientNode

/-! ### The receiver -/

/-- The RTCM messages that a callback of the receiver node is handed. -/
def Callback.rtcm : Callback → List Bytes
  | handleRtcm _ _ message _ _ => [message]
  | pollSerial _ _ _ => []

/-- The messages the node has been handed. -/
def rtcmHanded (callbacks : List Callback) : List Bytes := callbacks.flatMap Callback.rtcm

section Receiver

variable {math : MathFunctions} {config : UnicoreNodeConfig} {callbacks : List Callback}

theorem Callback.map_message_writes (node : UnicoreNode) (callback : Callback) :
    ((callback.writes config node).map RtcmWrite.message).Sublist
      (callback.rtcm.filter (· ≠ [])) := by
  cases callback with
  | pollSerial now opening reads => exact List.Sublist.refl []
  | handleRtcm now opening message outcomes writtenAt =>
    rw [Callback.writes, Callback.rtcm]
    split_ifs with hidle
    · exact List.nil_sublist _
    · have hne : message ≠ [] := fun hmessage => hidle (.inr hmessage)
      rw [List.filter_cons_of_pos (by simpa using hne)]
      exact List.Sublist.refl _

/-- What is written are messages that have been handed over, in their order. -/
theorem map_message_rtcmWrites (math : MathFunctions) (config : UnicoreNodeConfig)
    (callbacks : List Callback) : ((rtcmWrites math config callbacks).map RtcmWrite.message).Sublist
      ((rtcmHanded callbacks).filter (· ≠ [])) := by
  induction callbacks using List.reverseRecOn with
  | nil => exact List.nil_sublist _
  | append_singleton callbacks callback ih =>
    have hhanded :
        rtcmHanded (callbacks ++ [callback]) = rtcmHanded callbacks ++ callback.rtcm := by
      rw [rtcmHanded, List.flatMap_append, List.flatMap_singleton]
      rfl
    rw [rtcmWrites_concat, List.map_append, hhanded, List.filter_append]
    exact ih.append (callback.map_message_writes _)

/-- What a write hands over is a beginning of its message. -/
theorem taken_prefix_of_mem {write : RtcmWrite} (h : write ∈ rtcmWrites math config callbacks)
    (hsound : write.Sound) : taken write.calls <+: write.message := by
  obtain ⟨n, -, hwrite⟩ := List.mem_flatMap.mp h
  cases hcallback : callbacks[n]? with
  | none =>
    rw [hcallback] at hwrite
    cases hwrite
  | some callback =>
    rw [hcallback, Option.elim_some] at hwrite
    cases callback with
    | pollSerial now opening reads => cases hwrite
    | handleRtcm now opening message outcomes writtenAt =>
      rw [Callback.writes] at hwrite
      split_ifs at hwrite with hidle
      · cases hwrite
      · obtain rfl := List.mem_singleton.mp hwrite
        exact (SerialPort.write_taken _ message outcomes hsound).1

/-- Complete writes hand over their messages. -/
theorem flatMap_taken_of_complete {writes : List RtcmWrite}
    (h : ∀ write ∈ writes, write.complete = true) :
    writes.flatMap (fun write => taken write.calls) = (writes.map RtcmWrite.message).flatten := by
  rw [List.flatMap_def]
  congr 1
  refine List.map_congr_left fun write hwrite => ?_
  have hcomplete := h write hwrite
  rwa [RtcmWrite.complete, beq_iff_eq] at hcomplete

theorem flatten_filter_ne_nil (messages : List Bytes) :
    (messages.filter (· ≠ [])).flatten = messages.flatten := by
  induction messages with
  | nil => rfl
  | cons message messages ih =>
    by_cases hne : message = []
    · rw [List.filter_cons_of_neg (by simp [hne]), ih, hne, List.flatten_cons, List.nil_append]
    · rw [List.filter_cons_of_pos (by simp [hne]), List.flatten_cons, List.flatten_cons, ih]

/-- **What the receiver gets.** The client and the receiver node may run in any interleaving, and
the topic between them may lose messages. Then each write is one of a chunk that libcurl has handed
over, in the order of the chunks, and hands over a beginning of it. If nothing is lost, no message
finds the port closed and every write is complete, the receiver has got the bytes of these chunks,
however they were cut. -/
theorem rtcm_reaches_receiver {declared : ConnectionParams} {actions : List ClientAction}
    {client : NTRIPClientNode} (hclient : NTRIPClientNode.run declared actions = some client)
    (hsound : ∀ write ∈ rtcmWrites math config callbacks, write.Sound)
    (htopic : (rtcmHanded callbacks).Sublist
      ((publications client.trace).map fun p => p.1.message)) :
    let handed := (chunks actions).map Prod.snd
    let writes := rtcmWrites math config callbacks
    (writes.map RtcmWrite.message).Sublist handed ∧
      (∀ write ∈ writes, taken write.calls <+: write.message) ∧
      ((rtcmHanded callbacks).length = handed.length →
        writes.length = ((rtcmHanded callbacks).filter (· ≠ [])).length →
        (∀ write ∈ writes, write.complete = true) →
        writes.flatMap (fun write => taken write.calls) = handed.flatten) := by
  intro handed writes
  have hhanded : (publications client.trace).map (fun p => p.1.message) = handed := by
    have hmessages := (NTRIPClientNode.Accounted.of_run hclient).messages
    have hsecond := congrArg (List.map Prod.snd) hmessages
    rwa [List.map_map] at hsecond
  rw [hhanded] at htopic
  have hwrites := map_message_rtcmWrites math config callbacks
  refine ⟨(hwrites.trans List.filter_sublist).trans htopic,
    fun write hwrite => taken_prefix_of_mem hwrite (hsound write hwrite), ?_⟩
  intro hlossless hopen hcomplete
  have hall : writes.map RtcmWrite.message = (rtcmHanded callbacks).filter (· ≠ []) :=
    hwrites.eq_of_length (by rw [List.length_map]; exact hopen)
  rw [flatMap_taken_of_complete hcomplete, hall, flatten_filter_ne_nil,
    htopic.eq_of_length hlossless]

/-- Two chunks that are written in three pieces. -/
theorem rtcm_reaches_receiver_two_chunks :
    (rtcmWrites ⟨fun _ => 0, fun _ => 1⟩ {}
      [.handleRtcm 0 ⟨3, 0, 0⟩ [1, 2, 3] [⟨1, .again, []⟩, ⟨2, .again, []⟩] 0,
        .handleRtcm 1 ⟨3, 0, 0⟩ [4] [⟨1, .again, []⟩] 1]).flatMap (fun write => taken write.calls) =
      [1, 2, 3, 4] := by
  obtain ⟨client, hclient⟩ : ∃ client, NTRIPClientNode.run {}
      [.begin, .writeCallback 0 [1, 2, 3] 10, .writeCallback 1 [4] 10] = some client :=
    Option.isSome_iff_exists.mp (by decide +kernel)
  have hpublished : (NTRIPClientNode.run {}
      [.begin, .writeCallback 0 [1, 2, 3] 10, .writeCallback 1 [4] 10]).map
        (fun client => (publications client.trace).map fun p => p.1.message) =
      some [[1, 2, 3], [4]] := by
    decide +kernel
  rw [hclient, Option.map_some] at hpublished
  refine (rtcm_reaches_receiver hclient (by decide +kernel) ?_).2.2 (by decide) (by decide +kernel)
    (by decide +kernel)
  exact Option.some.inj hpublished ▸ List.Sublist.refl [[1, 2, 3], [4]]

end Receiver

end UnicoreGnss
