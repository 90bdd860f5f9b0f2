import UnicoreGnss.Node.SerialPort
import Mathlib.Algebra.Group.Prod

/-!
# What goes out of an RTCM message

`SerialPort::write` hands a buffer to the system piece by piece. After a part of it has been taken
it goes on from there, an interrupted call and a full queue are tried again, and anything else gives
up. Here the loop is written with the calls it makes, and `writeLoopTrace_result` says that it is
the loop of the port. Every call offers what has not been taken, so what has been taken is always a
beginning of the buffer: `Written` is this invariant, from any position in the buffer.

All that is asked of the system is that a call takes no more than it is offered.

In a run of the node `rtcm_byte_count_` and `rtcm_message_count_` are about the messages that have
gone out as a whole. After any other the port is closed, so nothing follows half a message.

## Main definitions

* `WriteCall`, `taken` — the calls of a write, and the bytes they have handed over
* `SerialPort.writeLoopTrace`, `writeTrace` — the loop and the whole of `write`, with its calls
* `RtcmWrite`, `rtcmWrites` — the messages that a run of the node has begun to write

## Main results

* `SerialPort.write_taken` — one write
* `UnicoreNode.rtcm_counts_run` — the counters of every run
* `UnicoreNode.rtcm_writes` — both, and the state of the port
-/

namespace UnicoreGnss

/-! ### The calls of a write -/

/-- One `::write`: the bytes it is given and what it returns. -/
structure WriteCall where
  offered : Bytes
  rc : ℤ
  deriving DecidableEq, Repr

namespace WriteCall

/-- The bytes it has taken. -/
def taken (call : WriteCall) : Bytes := call.offered.take call.rc.toNat

/-- No more than it is given. -/
def Sound (call : WriteCall) : Prop := call.rc ≤ call.offered.length

instance (call : WriteCall) : Decidable call.Sound := inferInstanceAs (Decidable (_ ≤ _))

end WriteCall

/-- What has been handed over, in the order of the calls. -/
def taken (calls : List WriteCall) : Bytes := calls.flatMap WriteCall.taken

@[simp] theorem taken_nil : taken [] = [] := rfl

@[simp] theorem taken_cons (call : WriteCall) (calls : List WriteCall) :
    taken (call :: calls) = call.taken ++ taken calls := rfl

namespace SerialPort

variable (port : SerialPort)

/-- The loop of `write` from position `totalWritten`, with its calls. -/
def writeLoopTrace (buffer : Bytes) (totalWritten : ℕ) :
    List WriteOutcome → List WriteCall × Option ℤ
  | [] => ([], if totalWritten < buffer.length then none else some totalWritten)
  | outcome :: rest =>
    if totalWritten < buffer.length then
      let call : WriteCall := { offered := buffer.drop totalWritten, rc := outcome.rc }
      if 0 < outcome.rc then
        (writeLoopTrace buffer (totalWritten + outcome.rc.toNat) rest).map (call :: ·) id
      else if outcome.rc < 0 ∧ outcome.errno = .interrupted then
        (writeLoopTrace buffer totalWritten rest).map (call :: ·) id
      else if outcome.rc < 0 ∧ outcome.errno = .again then
        (port.waitWritable outcome.polls).elim ([call], none) fun writable =>
          if writable then (writeLoopTrace buffer totalWritten rest).map (call :: ·) id
          else ([call], some (-1))
      else ([call], some (-1))
    else ([], some totalWritten)

/-- `write`, with its calls. -/
def writeTrace (buffer : Bytes) (outcomes : List WriteOutcome) : List WriteCall × Option ℤ :=
  if port.fd < 0 then ([], some (-1)) else port.writeLoopTrace buffer 0 outcomes

/-- **The loop with its calls is the loop of the port.** -/
theorem writeLoopTrace_result (buffer : Bytes) (totalWritten : ℕ) (outcomes : List WriteOutcome) :
    (port.writeLoopTrace buffer totalWritten outcomes).2 =
      port.writeLoop buffer.length totalWritten outcomes := by
  induction outcomes generalizing totalWritten with
  | nil => rfl
  | cons outcome rest ih =>
    rw [writeLoopTrace, writeLoop]
    by_cases hmore : totalWritten < buffer.length
    swap
    · rw [if_neg hmore, if_neg hmore]
    rw [if_pos hmore, if_pos hmore]
    by_cases hpart : 0 < outcome.rc
    · rw [if_pos hpart, if_pos hpart]
      exact ih _
    rw [if_neg hpart, if_neg hpart]
    by_cases hinterrupted : outcome.rc < 0 ∧ outcome.errno = .interrupted
    · rw [if_pos hinterrupted, if_pos hinterrupted]
      exact ih _
    rw [if_neg hinterrupted, if_neg hinterrupted]
    by_cases hagain : outcome.rc < 0 ∧ outcome.errno = .again
    · rw [if_pos hagain, if_pos hagain]
      rcases port.waitWritable outcome.polls with _ | _ | _
      · rfl
      · rfl
      · exact ih _
    · rw [if_neg hagain, if_neg hagain]

theorem writeTrace_result (buffer : Bytes) (outcomes : List WriteOutcome) :
    (port.writeTrace buffer outcomes).2 = port.write buffer.length outcomes := by
  rw [writeTrace, write]
  split
  · rfl
  · exact port.writeLoopTrace_result buffer 0 outcomes

end SerialPort

/-! ### What has been written -/

/-- The calls of a loop that has started at position `totalWritten`, and what it has returned. -/
structure Written (buffer : Bytes) (totalWritten : ℕ) (calls : List WriteCall)
    (returned : Option ℤ) : Prop where
  /-- What has been handed over lies at this position of the buffer. -/
  taken_prefix : taken calls <+: buffer.drop totalWritten
  /-- Every call offers what has not been handed over. -/
  offered : ∀ before call after, calls = before ++ call :: after →
    call.offered = buffer.drop (totalWritten + (taken before).length)
  /-- The loop is left with the whole length, or with `-1`. -/
  result : ∀ r, returned = some r →
    r = if totalWritten + (taken calls).length = buffer.length then (buffer.length : ℤ) else -1
  /-- As long as it runs, something is missing. -/
  running : returned = none → totalWritten + (taken calls).length < buffer.length

namespace Written

variable {buffer : Bytes} {totalWritten : ℕ} {call : WriteCall} {calls : List WriteCall}
  {returned : Option ℤ}

/-- No call, because the buffer has been written or because the system has not answered. -/
theorem nil (hle : totalWritten ≤ buffer.length) :
    Written buffer totalWritten []
      (if totalWritten < buffer.length then none else some (totalWritten : ℤ)) where
  taken_prefix := List.nil_prefix
  offered := by simp
  result r hr := by
    split at hr
    · cases hr
    · obtain rfl : (totalWritten : ℤ) = r := by simpa using hr
      have hall : totalWritten = buffer.length := by omega
      simp [hall]
  running hr := by
    split at hr
    case isTrue hlt => simpa using hlt
    case isFalse => cases hr

theorem taken_of_nonpos (hrc : call.rc ≤ 0) : call.taken = [] := by
  rw [WriteCall.taken, Int.toNat_of_nonpos hrc, List.take_zero]

/-- A call that ends the loop, or after which the loop waits. -/
theorem last (hmore : totalWritten < buffer.length) (hrc : call.rc ≤ 0)
    (hoffered : call.offered = buffer.drop totalWritten)
    (hreturned : returned = none ∨ returned = some (-1)) :
    Written buffer totalWritten [call] returned where
  taken_prefix := by simp [taken_of_nonpos hrc]
  offered before call' after h := by
    obtain ⟨rfl, rfl, rfl⟩ : before = [] ∧ call' = call ∧ after = [] := by
      cases before with
      | nil => simpa [eq_comm] using h
      | cons first before => simp at h
    simpa using hoffered
  result r hr := by
    have hnot : totalWritten ≠ buffer.length := by omega
    rcases hreturned with rfl | rfl
    · cases hr
    · obtain rfl : -1 = r := by simpa using hr
      simp [taken_of_nonpos hrc, hnot]
  running _ := by simpa [taken_of_nonpos hrc] using hmore

/-- **One call and the rest of the loop.** The rest goes on from behind what the call has taken. -/
theorem cons (hoffered : call.offered = buffer.drop totalWritten) (hsound : call.Sound)
    (h : Written buffer (totalWritten + call.rc.toNat) calls returned) :
    Written buffer totalWritten (call :: calls) returned := by
  have htaken : call.taken = (buffer.drop totalWritten).take call.rc.toNat := by
    rw [WriteCall.taken, hoffered]
  have hlen : call.taken.length = call.rc.toNat := by
    have hle : call.rc ≤ (buffer.drop totalWritten).length := hoffered ▸ hsound
    rw [htaken, List.length_take]
    omega
  have hsum : totalWritten + (taken (call :: calls)).length =
      totalWritten + call.rc.toNat + (taken calls).length := by
    rw [taken_cons, List.length_append, hlen, Nat.add_assoc]
  exact {
    taken_prefix := by
      obtain ⟨rest, hrest⟩ := h.taken_prefix
      refine ⟨rest, ?_⟩
      rw [taken_cons, List.append_assoc, hrest, htaken, ← List.drop_drop, List.take_append_drop]
    offered := by
      intro before call' after hcalls
      cases before with
      | nil =>
        obtain ⟨rfl, rfl⟩ : call = call' ∧ calls = after := by simpa using hcalls
        simpa using hoffered
      | cons first before =>
        obtain ⟨rfl, hrest⟩ : call = first ∧ calls = before ++ call' :: after := by
          simpa using hcalls
        rw [h.offered before call' after hrest, taken_cons, List.length_append, hlen,
          Nat.add_assoc]
    result := by
      intro r hr
      rw [hsum]
      exact h.result r hr
    running := by
      intro hr
      rw [hsum]
      exact h.running hr }

/-- A call that is tried again has taken nothing. -/
theorem retry (hrc : call.rc ≤ 0) (hoffered : call.offered = buffer.drop totalWritten)
    (h : Written buffer totalWritten calls returned) :
    Written buffer totalWritten (call :: calls) returned := by
  have hsound : call.rc ≤ call.offered.length := by omega
  refine .cons hoffered hsound ?_
  rwa [Int.toNat_of_nonpos hrc, Nat.add_zero]

end Written

namespace SerialPort

variable (port : SerialPort) {buffer : Bytes}

/-- The loop, from any position. -/
theorem written_writeLoopTrace {totalWritten : ℕ} (hle : totalWritten ≤ buffer.length)
    (outcomes : List WriteOutcome)
    (hsound : ∀ call ∈ (port.writeLoopTrace buffer totalWritten outcomes).1, call.Sound) :
    Written buffer totalWritten (port.writeLoopTrace buffer totalWritten outcomes).1
      (port.writeLoopTrace buffer totalWritten outcomes).2 := by
  induction outcomes generalizing totalWritten with
  | nil => exact Written.nil hle
  | cons outcome rest ih =>
    rw [writeLoopTrace] at hsound ⊢
    by_cases hmore : totalWritten < buffer.length
    swap
    · have hnil := Written.nil hle
      rw [if_neg hmore] at hnil ⊢
      exact hnil
    rw [if_pos hmore] at hsound ⊢
    by_cases hpart : 0 < outcome.rc
    · rw [if_pos hpart] at hsound ⊢
      obtain ⟨hcall, hrest⟩ := List.forall_mem_cons.mp hsound
      have hfits : outcome.rc ≤ (buffer.drop totalWritten).length := hcall
      rw [List.length_drop] at hfits
      have hnext : totalWritten + outcome.rc.toNat ≤ buffer.length := by omega
      exact .cons rfl hcall (ih hnext hrest)
    rw [if_neg hpart] at hsound ⊢
    have hrc : outcome.rc ≤ 0 := by omega
    split_ifs at hsound ⊢ with hinterrupted hfull
    · exact .retry hrc rfl (ih hle (List.forall_mem_cons.mp hsound).2)
    · rcases hwait : port.waitWritable outcome.polls with _ | _ | _
      · exact .last hmore hrc rfl (.inl rfl)
      · exact .last hmore hrc rfl (.inr rfl)
      · rw [hwait] at hsound
        exact .retry hrc rfl (ih hle (List.forall_mem_cons.mp hsound).2)
    · exact .last hmore hrc rfl (.inr rfl)

/-- The loop runs only as long as the system owes it the outcome of a call or of a poll. -/
theorem length_writeLoopTrace_of_none (totalWritten : ℕ) (outcomes : List WriteOutcome)
    (h : (port.writeLoopTrace buffer totalWritten outcomes).2 = none) :
    (port.writeLoopTrace buffer totalWritten outcomes).1.length = outcomes.length ∨
      ∃ outcome ∈ outcomes, port.waitWritable outcome.polls = none := by
  induction outcomes generalizing totalWritten with
  | nil => exact .inl rfl
  | cons outcome rest ih =>
    have hrest : ∀ (call : WriteCall) (n : ℕ),
        (port.writeLoopTrace buffer n rest).2 = none →
        ((port.writeLoopTrace buffer n rest).map (call :: ·) id).1.length =
            (outcome :: rest).length ∨
          ∃ outcome' ∈ outcome :: rest, port.waitWritable outcome'.polls = none := by
      intro call n hn
      refine (ih n hn).imp (fun hlen => congrArg (· + 1) hlen) ?_
      rintro ⟨outcome', hmem, hwait⟩
      exact ⟨outcome', List.mem_cons_of_mem _ hmem, hwait⟩
    rw [writeLoopTrace] at h ⊢
    split_ifs at h ⊢ with hmore hpart hinterrupted hagain
    · exact hrest _ _ h
    · exact hrest _ _ h
    · rcases hwait : port.waitWritable outcome.polls with _ | _ | _
      · exact .inr ⟨outcome, List.mem_cons_self, hwait⟩
      · rw [hwait] at h
        cases h
      · rw [hwait] at h
        exact hrest _ _ h

/-- **One write.** What the system has taken is a beginning of the buffer, put together in order
from what each call has taken. The length is returned exactly if the port was open and all of it has
been taken, and otherwise `-1`. -/
theorem write_taken (buffer : Bytes) (outcomes : List WriteOutcome)
    (hsound : ∀ call ∈ (port.writeTrace buffer outcomes).1, call.Sound) :
    let calls := (port.writeTrace buffer outcomes).1
    taken calls <+: buffer ∧
    (∀ before call after, calls = before ++ call :: after →
      call.offered = buffer.drop (taken before).length) ∧
    (∀ r, port.write buffer.length outcomes = some r →
      r = if port.isOpen ∧ taken calls = buffer then (buffer.length : ℤ) else -1) ∧
    (port.write buffer.length outcomes = none → taken calls ≠ buffer ∧
      (calls.length = outcomes.length ∨
        ∃ outcome ∈ outcomes, port.waitWritable outcome.polls = none)) := by
  intro calls
  have hcalls : calls = (port.writeTrace buffer outcomes).1 := rfl
  rw [← writeTrace_result]
  clear_value calls
  by_cases hclosed : port.fd < 0
  · have hopen : port.isOpen = false := by rw [isOpen, decide_eq_false (by omega)]
    rw [writeTrace, if_pos hclosed] at hcalls ⊢
    subst hcalls
    refine ⟨List.nil_prefix, by simp, ?_, by simp⟩
    rintro r ⟨⟩
    simp [hopen]
  have hopen : port.isOpen = true := by rw [isOpen, decide_eq_true (by omega)]
  rw [writeTrace, if_neg hclosed] at hcalls hsound ⊢
  have hwritten := port.written_writeLoopTrace (Nat.zero_le _) outcomes hsound
  rw [← hcalls] at hwritten
  have htaken : taken calls <+: buffer := hwritten.taken_prefix
  have hall : taken calls = buffer ↔ 0 + (taken calls).length = buffer.length := by
    rw [Nat.zero_add]
    exact ⟨congrArg List.length, htaken.eq_of_length⟩
  refine ⟨htaken, ?_, ?_, ?_⟩
  · intro before call after h
    simpa using hwritten.offered before call after h
  · intro r hr
    rw [hwritten.result r hr]
    simp only [hopen, hall, true_and]
  · intro hnone
    refine ⟨fun heq => ?_, hcalls ▸ port.length_writeLoopTrace_of_none 0 outcomes hnone⟩
    have hlt := hwritten.running hnone
    rw [heq, Nat.zero_add] at hlt
    exact Nat.lt_irrefl _ hlt

end SerialPort

/-! ### The writes of a run -/

/-- A message that the node has begun to write, with the calls and what the write has returned. -/
structure RtcmWrite where
  message : Bytes
  calls : List WriteCall
  returned : Option ℤ
  deriving DecidableEq, Repr

namespace RtcmWrite

/-- Has the whole message been handed over? -/
def complete (write : RtcmWrite) : Bool := taken write.calls == write.message

/-- No call has taken more than it was given. -/
def Sound (write : RtcmWrite) : Prop := ∀ call ∈ write.calls, call.Sound

instance (write : RtcmWrite) : Decidable write.Sound :=
  inferInstanceAs (Decidable (∀ call ∈ write.calls, call.Sound))

end RtcmWrite

/-- The write that a callback begins, if it begins one. -/
def Callback.writes (config : UnicoreNodeConfig) (node : UnicoreNode) : Callback → List RtcmWrite
  | pollSerial _ _ _ => []
  | handleRtcm now opening message outcomes _ =>
    let serial := (node.ensureSerialOpen config now opening).2.serial
    if !serial.isOpen ∨ message = [] then []
    else
      [{ message
         calls := (serial.writeTrace message outcomes).1
         returned := serial.write message.length outcomes }]

theorem Callback.message_ne_nil {config : UnicoreNodeConfig} {node : UnicoreNode}
    {callback : Callback} {write : RtcmWrite} (h : write ∈ callback.writes config node) :
    write.message ≠ [] := by
  cases callback with
  | pollSerial now opening reads => cases h
  | handleRtcm now opening message outcomes writtenAt =>
    rw [Callback.writes] at h
    split_ifs at h with hidle
    · cases h
    · obtain rfl := List.mem_singleton.mp h
      exact fun hmessage => hidle (.inr hmessage)

/-- The writes of a run. -/
def rtcmWrites (math : MathFunctions) (config : UnicoreNodeConfig) (callbacks : List Callback) :
    List RtcmWrite :=
  (List.range callbacks.length).flatMap fun n =>
    callbacks[n]?.elim [] (·.writes config (UnicoreNode.run math config (callbacks.take n)).2)

theorem rtcmWrites_concat (math : MathFunctions) (config : UnicoreNodeConfig)
    (callbacks : List Callback) (callback : Callback) :
    rtcmWrites math config (callbacks ++ [callback]) =
      rtcmWrites math config callbacks ++
        callback.writes config (UnicoreNode.run math config callbacks).2 := by
  rw [rtcmWrites, List.length_append, List.length_singleton, List.range_succ,
    List.flatMap_append, List.flatMap_singleton, List.getElem?_concat_length, List.take_left,
    rtcmWrites]
  congr 1
  refine List.flatMap_congr fun n hn => ?_
  have hlt := List.mem_range.mp hn
  rw [List.getElem?_append_left hlt, List.take_append_of_le_length (Nat.le_of_lt hlt)]

namespace UnicoreNode

/-! ### What the callbacks do to the counters -/

section Counters

variable (math : MathFunctions) (config : UnicoreNodeConfig) (node : UnicoreNode)

/-- The two counters. -/
def rtcmCounts : ℕ × ℕ := (node.rtcmMessageCount, node.rtcmByteCount)

@[simp] theorem rtcmCounts_ensureSerialOpen (now : SteadyTime) (opening : OpenOutcome) :
    (node.ensureSerialOpen config now opening).2.rtcmCounts = node.rtcmCounts := by
  unfold ensureSerialOpen
  split_ifs
  · rfl
  · rfl
  · rcases node.serial.openPort opening with ⟨_ | _, serial⟩ <;> rfl

theorem rtcmCounts_readLoop (reads : List (ReadOutcome × Clocks)) :
    (readLoop math config reads node).2.2.rtcmCounts = node.rtcmCounts := by
  induction reads generalizing node with
  | nil => rfl
  | cons read reads ih =>
    rw [readLoop]
    rcases node.serial.read 1024 read.1 with (_ | ⟨byte, bytes⟩) | errno
    · rfl
    · exact (ih _).trans rfl
    · by_cases hagain : errno = .again
      · simp only [hagain, if_true]
      · simp only [hagain, if_false]
        rfl

/-- A poll has nothing to do with them. -/
theorem rtcmCounts_pollSerial (now : SteadyTime) (opening : OpenOutcome)
    (reads : List (ReadOutcome × Clocks)) :
    (node.pollSerial math config now opening reads).2.rtcmCounts = node.rtcmCounts := by
  rw [pollSerial]
  have hensured := node.rtcmCounts_ensureSerialOpen config now opening
  generalize node.ensureSerialOpen config now opening = ensured at hensured
  obtain ⟨opened, node'⟩ := ensured
  have hloop := (rtcmCounts_readLoop math config node' reads).trans hensured
  dsimp only
  split_ifs
  · exact hensured
  · rw [dropOversized]
    split_ifs <;> exact hloop
  · exact hloop

/-- What the counters should say: how many messages have gone out as a whole, and their size. -/
def rtcmTotals (writes : List RtcmWrite) : ℕ × ℕ :=
  (writes.countP (·.complete), ((writes.filter (·.complete)).map (·.message.length)).sum)

theorem rtcmTotals_append (writes writes' : List RtcmWrite) :
    rtcmTotals (writes ++ writes') = rtcmTotals writes + rtcmTotals writes' := by
  simp [rtcmTotals]

theorem rtcmTotals_singleton (write : RtcmWrite) :
    rtcmTotals [write] = if write.complete then (1, write.message.length) else 0 := by
  cases h : write.complete <;> simp [rtcmTotals, h]

/-- What a write on an open port has returned says whether its message is complete. -/
theorem returned_of_isOpen {port : SerialPort} {message : Bytes} {outcomes : List WriteOutcome}
    {write : RtcmWrite} (hopen : port.isOpen = true) (hsound : write.Sound)
    (hwrite : write = ⟨message, (port.writeTrace message outcomes).1,
      port.write message.length outcomes⟩) :
    (write.complete = true → write.returned = some (message.length : ℤ)) ∧
      (write.complete = false → write.returned = none ∨ write.returned = some (-1)) := by
  subst hwrite
  obtain ⟨-, -, hreturned, hrunning⟩ := port.write_taken message outcomes hsound
  simp only [RtcmWrite.complete, beq_iff_eq, beq_eq_false_iff_ne]
  constructor
  · intro hall
    rcases hresult : port.write message.length outcomes with _ | written
    · exact absurd hall (hrunning hresult).1
    · rw [hreturned written hresult, if_pos ⟨hopen, hall⟩]
  · intro hmissing
    rcases hresult : port.write message.length outcomes with _ | written
    · exact .inl rfl
    · rw [hreturned written hresult, if_neg fun h => hmissing h.2]
      exact .inr rfl

/-- **One callback.** The counters take in the message it has written as a whole, and a write that
has returned with less leaves the port closed. -/
theorem rtcmCounts_call (callback : Callback)
    (hsound : ∀ write ∈ callback.writes config node, write.Sound) :
    (node.call math config callback).2.rtcmCounts =
        node.rtcmCounts + rtcmTotals (callback.writes config node) ∧
      ∀ write ∈ callback.writes config node, write.returned.isSome = true →
        write.complete = false → (node.call math config callback).2.serial.isOpen = false := by
  cases callback with
  | pollSerial now opening reads =>
    rw [call, rtcmCounts_pollSerial, Callback.writes]
    exact ⟨rfl, List.forall_mem_nil _⟩
  | handleRtcm now opening message outcomes writtenAt =>
    have hensured := node.rtcmCounts_ensureSerialOpen config now opening
    rw [call, handleRtcm]
    rw [Callback.writes] at hsound ⊢
    generalize node.ensureSerialOpen config now opening = ensured at hensured hsound ⊢
    obtain ⟨opened, node'⟩ := ensured
    dsimp only at hensured hsound ⊢
    by_cases hopen : node'.serial.isOpen = true
    swap
    · rw [Bool.not_eq_true] at hopen
      simp only [hopen, Bool.not_false, if_true, true_or]
      exact ⟨hensured, List.forall_mem_nil _⟩
    by_cases hmessage : message = []
    · simp only [hopen, hmessage, Bool.not_true, Bool.false_eq_true, if_false, if_true, or_true]
      exact ⟨hensured, List.forall_mem_nil _⟩
    simp only [hopen, hmessage, Bool.not_true, Bool.false_eq_true, if_false, or_self] at hsound ⊢
    rw [List.forall_mem_singleton] at hsound ⊢
    obtain ⟨hwhole, hpart⟩ := returned_of_isOpen hopen hsound rfl
    rw [rtcmTotals_singleton]
    cases hcomplete : RtcmWrite.complete ⟨message, (node'.serial.writeTrace message outcomes).1,
        node'.serial.write message.length outcomes⟩ with
    | true =>
      have hsent : ¬ (message.length : ℤ) < 0 := by omega
      have hresult : node'.serial.write message.length outcomes = some (message.length : ℤ) :=
        hwhole hcomplete
      simp only [hresult, hsent, if_false, if_true, ← hensured]
      exact ⟨rfl, by simp⟩
    | false =>
      simp only [Bool.false_eq_true, if_false, add_zero]
      rcases hpart hcomplete with hresult | hresult <;> dsimp only at hresult
      · -- the write is under way
        simp only [hresult]
        exact ⟨hensured, by simp⟩
      · have hfailed : (-1 : ℤ) < 0 := by omega
        simp only [hresult, hfailed, if_true]
        exact ⟨hensured, fun _ _ => node'.serial.isOpen_close⟩

end Counters

/-! ### Runs -/

section Runs

variable (math : MathFunctions) (config : UnicoreNodeConfig)

/-- **The counters of every run** are about the messages that have gone out as a whole. -/
theorem rtcm_counts_run (callbacks : List Callback)
    (hsound : ∀ write ∈ rtcmWrites math config callbacks, write.Sound) :
    (run math config callbacks).2.rtcmCounts = rtcmTotals (rtcmWrites math config callbacks) := by
  induction callbacks using List.reverseRecOn with
  | nil => rfl
  | append_singleton callbacks callback ih =>
    rw [rtcmWrites_concat] at hsound ⊢
    obtain ⟨hbefore, hlast⟩ := List.forall_mem_append.mp hsound
    rw [run_concat, (rtcmCounts_call math config _ callback hlast).1, ih hbefore,
      rtcmTotals_append]

/-- The writes of a callback are writes of every run it is part of. -/
theorem mem_rtcmWrites {before after : List Callback} {callback : Callback} {write : RtcmWrite}
    (h : write ∈ callback.writes config (run math config before).2) :
    write ∈ rtcmWrites math config (before ++ callback :: after) := by
  induction after using List.reverseRecOn with
  | nil =>
    rw [rtcmWrites_concat]
    exact List.mem_append_right _ h
  | append_singleton after last ih =>
    rw [← List.cons_append, ← List.append_assoc, rtcmWrites_concat]
    exact List.mem_append_left _ ih

/-- **RTCM injection.** What a write hands over is a beginning of its buffer, and it returns the
whole length or `-1`. In every run the counters are about the messages that have been written as a
whole, and once a write of anything less has returned, the port is closed. -/
theorem rtcm_writes (port : SerialPort) (buffer : Bytes) (outcomes : List WriteOutcome)
    (callbacks : List Callback)
    (hport : ∀ call ∈ (port.writeTrace buffer outcomes).1, call.Sound)
    (hnode : ∀ write ∈ rtcmWrites math config callbacks, write.Sound) :
    let calls := (port.writeTrace buffer outcomes).1
    let node := (run math config callbacks).2
    let whole := (rtcmWrites math config callbacks).filter (·.complete)
    taken calls <+: buffer ∧
    (∀ before call after, calls = before ++ call :: after →
      call.offered = buffer.drop (taken before).length) ∧
    (∀ r, port.write buffer.length outcomes = some r →
      r = if port.isOpen ∧ taken calls = buffer then (buffer.length : ℤ) else -1) ∧
    (port.write buffer.length outcomes = none → taken calls ≠ buffer ∧
      (calls.length = outcomes.length ∨
        ∃ outcome ∈ outcomes, port.waitWritable outcome.polls = none)) ∧
    node.rtcmByteCount = (whole.map (·.message.length)).sum ∧
    node.rtcmMessageCount = whole.length ∧
    ∀ before callback after, callbacks = before ++ callback :: after →
      ∀ write ∈ callback.writes config (run math config before).2,
        write.message ≠ [] ∧
        (write.returned.isSome = true → taken write.calls ≠ write.message →
          (run math config (before ++ [callback])).2.serial.isOpen = false) := by
  intro calls node whole
  obtain ⟨htaken, hoffered, hreturned, hrunning⟩ := port.write_taken buffer outcomes hport
  have hcounts := rtcm_counts_run math config callbacks hnode
  have hmessages : node.rtcmMessageCount = whole.length := by
    rw [← List.countP_eq_length_filter]
    exact congrArg Prod.fst hcounts
  refine ⟨htaken, hoffered, hreturned, hrunning, congrArg Prod.snd hcounts, hmessages, ?_⟩
  rintro before callback after rfl write hwrite
  have hsound : ∀ write ∈ callback.writes config (run math config before).2, write.Sound :=
    fun write h => hnode write (mem_rtcmWrites math config h)
  refine ⟨Callback.message_ne_nil hwrite, fun hreturned hpart => ?_⟩
  rw [run_concat]
  refine (rtcmCounts_call math config _ callback hsound).2 write hwrite hreturned ?_
  simpa [RtcmWrite.complete] using hpart

/-- A message in two parts, with an interruption and a full queue between them, and one that fails
after its first byte. -/
theorem rtcm_writes_two_messages :
    (run ⟨fun _ => 0, fun _ => 1⟩ {}
      [.handleRtcm 0 ⟨3, 0, 0⟩ [1, 2, 3] [⟨1, .again, []⟩, ⟨-1, .interrupted, []⟩,
        ⟨-1, .again, [⟨-1, true, .interrupted⟩, ⟨1, true, .again⟩]⟩, ⟨2, .again, []⟩] 0,
      .handleRtcm 1 ⟨3, 0, 0⟩ [4, 5] [⟨1, .again, []⟩, ⟨0, .again, []⟩] 1]).2.rtcmByteCount = 3 :=
  (rtcm_writes ⟨fun _ => 0, fun _ => 1⟩ {} { baudrate := 921600, fd := 3 } [1, 2, 3]
    [⟨1, .again, []⟩, ⟨2, .again, []⟩]
    [.handleRtcm 0 ⟨3, 0, 0⟩ [1, 2, 3] [⟨1, .again, []⟩, ⟨-1, .interrupted, []⟩,
        ⟨-1, .again, [⟨-1, true, .interrupted⟩, ⟨1, true, .again⟩]⟩, ⟨2, .again, []⟩] 0,
      .handleRtcm 1 ⟨3, 0, 0⟩ [4, 5] [⟨1, .again, []⟩, ⟨0, .again, []⟩] 1]
    (by decide) (by decide)).2.2.2.2.1

end Runs

end UnicoreNode

end UnicoreGnss
