import UnicoreGnss.Lib.Handshake
import UnicoreGnss.Ntrip.Client

/-!
# Parameters of the NTRIP client, under any interleaving

The node is a `Handshake` between the callback for parameters and the streaming thread: pending
parameters are the settings, applied ones the copy. So the parameters of a connection are always
those after some number of updates, as a whole; that number never goes back; and an update that was
accepted is in force once the streaming thread has come round.

An update that is refused is carried out up to the parameter it is refused for, and that part comes
into force with the next reconfiguration, whatever it is made for.

## Main definitions

* `paramsAfter` — the parameters after a list of updates
* `NTRIPClientNode.handshake` — the node as a handshake

## Main results

* `params_in_force` — which parameters are in force
* `accepted_update_in_force` — an accepted update comes into force
* `connections_whole` — what connections are opened with
-/

namespace UnicoreGnss

open Checked

/-! ### Updates -/

/-- The update is accepted. -/
def accepts (parameters : List Parameter) : Bool := parameters.all fun p => p.refusal = none

/-- The part of an update that is stored: all before the first parameter that is refused. -/
def storedPart (parameters : List Parameter) : List Parameter :=
  parameters.takeWhile fun p => p.refusal = none

/-- The parameters after a list of updates. -/
def paramsAfter (start : ConnectionParams) (updates : List (List Parameter)) : ConnectionParams :=
  (updates.flatMap storedPart).foldl Parameter.store start

theorem setPending_eq (pending : ConnectionParams) (parameters : List Parameter) :
    (setPending pending parameters).2 = (storedPart parameters).foldl Parameter.store pending ∧
      (setPending pending parameters).1.successful = accepts parameters := by
  induction parameters generalizing pending with
  | nil => exact ⟨rfl, rfl⟩
  | cons parameter parameters ih =>
    rw [setPending, storedPart, accepts, List.all_cons]
    cases hrefusal : parameter.refusal with
    | none =>
      obtain ⟨hstored, haccepts⟩ := ih (parameter.store pending)
      rw [List.takeWhile_cons_of_pos (by simp [hrefusal])]
      refine ⟨hstored, ?_⟩
      rw [decide_eq_true rfl, Bool.true_and]
      exact haccepts
    | some reason =>
      rw [List.takeWhile_cons_of_neg (by simp [hrefusal])]
      exact ⟨rfl, rfl⟩

theorem paramsAfter_eq_foldl (start : ConnectionParams) (updates : List (List Parameter)) :
    paramsAfter start updates =
      updates.foldl (fun pending update => (setPending pending update).2) start := by
  rw [paramsAfter, List.foldl_flatMap]
  congr 1
  funext pending update
  exact (setPending_eq pending update).1.symm

/-- The updates among the actions of a run. -/
def ClientAction.updates : ClientAction → List (List Parameter)
  | setParameters parameters => [parameters]
  | _ => []

/-- The updates of the parameters in a run, in order. -/
def updates (actions : List ClientAction) : List (List Parameter) :=
  actions.flatMap ClientAction.updates

/-! ### The handshake -/

/-- The updates and the ends of reconfigurations: what both machines show. -/
def ClientAction.marks : ClientAction → List (Option (List Parameter))
  | setParameters parameters => [some parameters]
  | lowerFlag => [none]
  | _ => []

/-- An update that is carried out is marked by its parameters, a lowered flag by `none`. -/
def eventMarks : Handshake.Event (List Parameter) → List (Option (List Parameter))
  | .command update => [some update]
  | .lower => [none]
  | _ => []

/-- Where the streaming thread stands in the handshake. -/
def Streaming.phase : Streaming → Handshake.Phase
  | entering => .called
  | copied => .holding
  | built => .holding
  | _ => .working

namespace NTRIPClientNode

/-- The node as a handshake. -/
def handshake (node : NTRIPClientNode) : Handshake.State ConnectionParams where
  settings := node.pending
  copy := node.applied
  raised := node.reconfigureNeeded
  phase := node.streaming.phase

/-- The steps of the handshake. -/
abbrev handshakeStep : Handshake.State ConnectionParams → Handshake.Event (List Parameter) →
    Option (Handshake.State ConnectionParams) :=
  Handshake.step (fun pending update => (setPending pending update).2) accepts

theorem phase_eq_holding {streaming : Streaming} :
    streaming.phase = .holding ↔ streaming.holdsParams = true := by
  cases streaming <;> simp [Streaming.phase, Streaming.holdsParams]

/-- **Each step** of the node is one of the handshake, or none. -/
theorem step_simulated (node : NTRIPClientNode) (action : ClientAction) (after : NTRIPClientNode)
    (s : Handshake.State ConnectionParams) (hs : node.handshake = s)
    (h : node.step action = some after) :
    ∃ events t, PartialRun.run handshakeStep s events = some t ∧ after.handshake = t ∧
      events.flatMap eventMarks = action.marks := by
  subst hs
  have single : ∀ (event : Handshake.Event (List Parameter)),
      handshakeStep node.handshake event = some after.handshake → eventMarks event = action.marks →
      ∃ events t, PartialRun.run handshakeStep node.handshake events = some t ∧
        after.handshake = t ∧ events.flatMap eventMarks = action.marks := by
    intro event hevent hmarks
    refine ⟨[event], after.handshake, ?_, rfl, ?_⟩
    · exact PartialRun.run_cons_eq_some.mpr ⟨_, hevent, rfl⟩
    · rw [List.flatMap_singleton, hmarks]
  have silent : after.handshake = node.handshake → action.marks = [] →
      ∃ events t, PartialRun.run handshakeStep node.handshake events = some t ∧
        after.handshake = t ∧ events.flatMap eventMarks = action.marks := by
    intro hsame hmarks
    exact ⟨[], node.handshake, rfl, hsame, hmarks.symm⟩
  cases stepCase_of_step h with
  | noFix => exact silent rfl rfl
  | firstFix => exact silent rfl rfl
  | laterFix => exact silent rfl rfl
  | raiseForFirstFix => exact single .raise rfl rfl
  | refresh => exact single .raise rfl rfl
  | refreshNothing => exact silent rfl rfl
  | @setParameters parameters hfree =>
    refine single (.command parameters) ?_ rfl
    have hphase : node.handshake.phase ≠ .holding := by
      intro hholding
      rw [phase_eq_holding.mp hholding] at hfree
      cases hfree
    rw [handshakeStep, Handshake.step, if_neg hphase, ← (setPending_eq node.pending parameters).2]
    rfl
  | exit => exact silent rfl rfl
  | finish htop => exact silent (by simp [handshake, htop, Streaming.phase]) rfl
  | connect htop => exact silent (by simp [handshake, htop, Streaming.phase, emit]) rfl
  | writeCallback => exact silent rfl rfl
  | performReturns hperforming =>
    exact silent (by simp [handshake, hperforming, Streaming.phase]) rfl
  | notice hperformed hraised =>
    refine single .notice ?_ rfl
    simp [Handshake.step, handshake, hperformed, hraised, Streaming.phase]
  | again hperformed => exact silent (by simp [handshake, hperformed, Streaming.phase]) rfl
  | countReached hperformed =>
    exact silent (by simp [handshake, hperformed, Streaming.phase, emit]) rfl
  | failed hperformed => exact silent (by simp [handshake, hperformed, Streaming.phase, emit]) rfl
  | wake hpausing => exact silent (by simp [handshake, hpausing, Streaming.phase]) rfl
  | copyParams hentering =>
    refine single .take ?_ rfl
    simp [Handshake.step, handshake, hentering, Streaming.phase]
  | applyCurlOptions hcopied => exact silent (by simp [handshake, hcopied, Streaming.phase]) rfl
  | lowerFlag hbuilt =>
    refine single .lower ?_ rfl
    simp [Handshake.step, handshake, hbuilt, Streaming.phase, emit]

/-! ### Runs -/

theorem filterMap_eventMarks (events : List (Handshake.Event (List Parameter))) :
    (events.flatMap eventMarks).filterMap id = Handshake.commands events := by
  rw [List.filterMap_flatMap, Handshake.commands]
  congr 1
  funext event
  cases event <;> rfl

theorem filterMap_marks (actions : List ClientAction) :
    (actions.flatMap ClientAction.marks).filterMap id = updates actions := by
  rw [List.filterMap_flatMap, updates]
  congr 1
  funext action
  cases action <;> rfl

/-- A part of a run as a part of a run of the handshake, with the same updates; where the flag is
lowered in the one, it is in the other. -/
theorem exists_events {node after : NTRIPClientNode} {actions : List ClientAction}
    (h : PartialRun.run step node actions = some after) :
    ∃ events, PartialRun.run handshakeStep node.handshake events = some after.handshake ∧
      Handshake.commands events = updates actions ∧
      (.lowerFlag ∈ actions → .lower ∈ events) := by
  obtain ⟨events, t, hevents, rfl, hmarks⟩ :=
    PartialRun.run_simulated (R := fun node s => node.handshake = s) step_simulated rfl h
  refine ⟨events, hevents, ?_, ?_⟩
  · rw [← filterMap_eventMarks, hmarks, filterMap_marks]
  · intro hlower
    have hmark : none ∈ events.flatMap eventMarks := by
      rw [hmarks]
      exact List.mem_flatMap.mpr ⟨.lowerFlag, hlower, List.mem_singleton_self none⟩
    obtain ⟨event, hevent, hnone⟩ := List.mem_flatMap.mp hmark
    cases event with
    | lower => exact hevent
    | command update => simp [eventMarks] at hnone
    | raise => simp [eventMarks] at hnone
    | notice => simp [eventMarks] at hnone
    | take => simp [eventMarks] at hnone

variable {declared : ConnectionParams} {actions before more : List ClientAction}
  {node : NTRIPClientNode}

/-- The declared parameters, as the node has them. -/
abbrev startParams (declared : ConnectionParams) : ConnectionParams := (fresh declared).pending

theorem updates_append (actions more : List ClientAction) :
    updates (actions ++ more) = updates actions ++ updates more :=
  List.flatMap_append

/-- **Which parameters are in force.** They are those after some of the updates, as a whole. With
the flag down, all updates behind them were refused. -/
theorem params_in_force (h : run declared actions = some node) :
    node.pending = paramsAfter (startParams declared) (updates actions) ∧
      ∃ k ≤ (updates actions).length,
        node.applied = paramsAfter (startParams declared) ((updates actions).take k) ∧
        (node.reconfigureNeeded = false →
          ∀ update ∈ (updates actions).drop k, accepts update = false) := by
  obtain ⟨events, hevents, hcommands, -⟩ := exists_events h
  have hkept := Handshake.kept_of_run hevents
  have hle := Handshake.inForce_le events
  rw [hcommands] at hle
  refine ⟨?_, Handshake.inForce events, hle, ?_, ?_⟩
  · rw [paramsAfter_eq_foldl, ← hcommands]
    exact hkept.settings_eq
  · rw [paramsAfter_eq_foldl, ← hcommands]
    exact hkept.copy_eq
  · rw [← hcommands]
    exact hkept.refused

/-- An update that is refused for an empty host leaves its port behind. -/
theorem params_in_force_refused :
    ∃ node, run {} [.begin, .setParameters [.port 2101, .host [], .username (ascii "u")],
        .performReturns true, .checkReconfigure, .begin] = some node ∧
      node.pending = paramsAfter (startParams {}) [[.port 2101, .host [], .username (ascii "u")]] ∧
      node.pending = { port := 2101 } ∧ node.applied.port = 443 := by
  obtain ⟨node, hrun⟩ : ∃ node, run {} [.begin,
      .setParameters [.port 2101, .host [], .username (ascii "u")], .performReturns true,
      .checkReconfigure, .begin] = some node := Option.isSome_iff_exists.mp (by decide +kernel)
  have hparams : (run {} [.begin, .setParameters [.port 2101, .host [], .username (ascii "u")],
      .performReturns true, .checkReconfigure, .begin]).map
        (fun node => (node.pending, node.applied.port)) = some ({ port := 2101 }, 443) := by
    decide +kernel
  rw [hrun] at hparams
  obtain ⟨hpending, happlied⟩ := Prod.mk.inj (Option.some.inj hparams)
  exact ⟨node, hrun, (params_in_force hrun).1, hpending, happlied⟩

/-- **When the flag is lowered**, all updates made before are in force, and they stay in force. -/
theorem params_in_force_of_lowerFlag (h : run declared (before ++ more) = some node)
    (hlower : .lowerFlag ∈ more) :
    ∃ k, (updates before).length ≤ k ∧ k ≤ (updates (before ++ more)).length ∧
      node.applied = paramsAfter (startParams declared) ((updates (before ++ more)).take k) := by
  obtain ⟨middle, hbefore, hmore⟩ := PartialRun.run_append_eq_some.mp h
  obtain ⟨events, hevents, hcommands, -⟩ := exists_events hbefore
  obtain ⟨later, hlater, hcommands', hmem⟩ := exists_events hmore
  have hrun := PartialRun.run_append_eq_some.mpr ⟨middle.handshake, hevents, hlater⟩
  have hall : Handshake.commands (events ++ later) = updates (before ++ more) := by
    rw [Handshake.commands_append, hcommands, hcommands', updates_append]
  have hkept := Handshake.kept_of_run hrun
  have hle := Handshake.inForce_le (events ++ later)
  have hge := Handshake.length_le_inForce_of_lower (hmem hlower) hrun
  rw [hall] at hle
  rw [hcommands] at hge
  refine ⟨_, hge, hle, ?_⟩
  rw [paramsAfter_eq_foldl, ← hall]
  exact hkept.copy_eq

/-! ### The streaming thread comes round -/

end NTRIPClientNode

/-- The steps of the streaming thread, but for the chunks it is handed. -/
def ClientAction.ofStreaming : ClientAction → Bool
  | begin => true
  | performReturns _ => true
  | checkReconfigure => true
  | wake => true
  | copyParams => true
  | applyCurlOptions => true
  | lowerFlag => true
  | _ => false

/-- How many of its steps the streaming thread is away from lowering the flag, if it is up. -/
def Streaming.distance : Streaming → ℕ
  | pausing => 7
  | top => 6
  | performing => 5
  | performed _ => 4
  | entering => 3
  | copied => 2
  | built => 1
  | finished => 1

namespace NTRIPClientNode

variable {declared : ConnectionParams} {actions before more : List ClientAction}
  {node after : NTRIPClientNode} {action : ClientAction}

theorem distance_pos (streaming : Streaming) : 0 < streaming.distance := by
  cases streaming <;> simp [Streaming.distance]

/-- With the flag up, each step of the streaming thread brings it nearer to lowering it, and no
other step takes it away from there or lowers the flag. -/
theorem distance_step (hraised : node.reconfigureNeeded = true)
    (h : node.step action = some after) :
    action = .lowerFlag ∨ after.reconfigureNeeded = true ∧
      after.streaming.distance + (if action.ofStreaming then 1 else 0) ≤
        node.streaming.distance := by
  have hup : ∀ {flag : Bool}, node.reconfigureNeeded = false → flag = true := by
    intro flag hdown
    rw [hraised] at hdown
    cases hdown
  cases stepCase_of_step h with
  | noFix => exact .inr ⟨hraised, le_rfl⟩
  | firstFix => exact .inr ⟨hraised, le_rfl⟩
  | laterFix => exact .inr ⟨hraised, le_rfl⟩
  | raiseForFirstFix => exact .inr ⟨rfl, le_rfl⟩
  | refresh => exact .inr ⟨rfl, le_rfl⟩
  | refreshNothing => exact .inr ⟨hraised, le_rfl⟩
  | setParameters =>
    refine .inr ⟨?_, le_rfl⟩
    rw [onSetParametersCallback, hraised, Bool.true_or]
  | exit => exact .inr ⟨hraised, le_rfl⟩
  | finish htop =>
    rw [htop]
    exact .inr ⟨hraised, (by decide : 1 + 1 ≤ 6)⟩
  | connect htop =>
    rw [htop]
    exact .inr ⟨hraised, le_rfl⟩
  | writeCallback => exact .inr ⟨hraised, le_rfl⟩
  | performReturns hperforming =>
    rw [hperforming]
    exact .inr ⟨hraised, le_rfl⟩
  | notice hperformed =>
    rw [hperformed]
    exact .inr ⟨hraised, le_rfl⟩
  | again _ hdown => exact absurd (hup hdown) Bool.false_ne_true
  | countReached _ hdown => exact absurd (hup hdown) Bool.false_ne_true
  | failed _ hdown => exact absurd (hup hdown) Bool.false_ne_true
  | wake hpausing =>
    rw [hpausing]
    exact .inr ⟨hraised, le_rfl⟩
  | copyParams hentering =>
    rw [hentering]
    exact .inr ⟨hraised, le_rfl⟩
  | applyCurlOptions hcopied =>
    rw [hcopied]
    exact .inr ⟨hraised, le_rfl⟩
  | lowerFlag => exact .inl rfl

/-- **The streaming thread comes round**: with the flag up, it lowers it within so many of its own
steps, whatever the others do. -/
theorem lowerFlag_mem (hraised : node.reconfigureNeeded = true)
    (hsteps : node.streaming.distance ≤ actions.countP ClientAction.ofStreaming)
    (h : PartialRun.run step node actions = some after) : .lowerFlag ∈ actions := by
  induction actions generalizing node with
  | nil =>
    rw [List.countP_nil] at hsteps
    exact absurd (distance_pos node.streaming) (by omega)
  | cons action actions ih =>
    obtain ⟨next, hfirst, hrest⟩ := PartialRun.run_cons_eq_some.mp h
    rcases distance_step hraised hfirst with rfl | ⟨hnext, hnearer⟩
    · exact List.mem_cons_self
    · rw [List.countP_cons] at hsteps
      exact List.mem_cons_of_mem _ (ih hnext (by omega) hrest)

theorem distance_le (streaming : Streaming) : streaming.distance ≤ 7 := by
  cases streaming <;> simp [Streaming.distance]

/-- **An accepted update comes into force**: as soon as the streaming thread has made seven more
steps, whatever the others have done meanwhile, the parameters are those after this update, or after
this one and later ones. -/
theorem accepted_update_in_force {update : List Parameter} (haccepts : accepts update = true)
    (hsteps : 7 ≤ more.countP ClientAction.ofStreaming)
    (h : run declared (before ++ [.setParameters update] ++ more) = some node) :
    ∃ k, (updates before).length < k ∧
      k ≤ (updates (before ++ [.setParameters update] ++ more)).length ∧
      node.applied = paramsAfter (startParams declared)
        ((updates (before ++ [.setParameters update] ++ more)).take k) := by
  obtain ⟨middle, hupdate, hmore⟩ := PartialRun.run_append_eq_some.mp h
  obtain ⟨earlier, -, hset⟩ := PartialRun.run_concat_eq_some.mp hupdate
  have hraised : middle.reconfigureNeeded = true := by
    cases stepCase_of_step hset with
    | setParameters =>
      rw [onSetParametersCallback, (setPending_eq _ _).2, haccepts, Bool.or_true]
  have hlower := lowerFlag_mem hraised ((distance_le _).trans hsteps) hmore
  obtain ⟨k, hge, hle, happlied⟩ := params_in_force_of_lowerFlag h hlower
  refine ⟨k, ?_, hle, happlied⟩
  have hlength : (updates (before ++ [.setParameters update])).length =
      (updates before).length + 1 := by
    rw [updates_append, List.length_append]
    rfl
  omega

/-- The update comes while the request is performed. -/
theorem accepted_update_in_force_port :
    ∃ node, run {} ([.begin] ++ [.setParameters [.port 2101]] ++ [.performReturns false,
        .checkReconfigure, .copyParams, .applyCurlOptions, .lowerFlag, .begin,
        .performReturns true]) = some node ∧
      ∃ k, 0 < k ∧ node.applied =
        paramsAfter (startParams {}) (([[.port 2101]] : List (List Parameter)).take k) := by
  obtain ⟨node, hrun⟩ : ∃ node, run {} ([.begin] ++ [.setParameters [.port 2101]] ++
      [.performReturns false, .checkReconfigure, .copyParams, .applyCurlOptions, .lowerFlag, .begin,
        .performReturns true]) = some node := Option.isSome_iff_exists.mp (by decide +kernel)
  obtain ⟨k, hpos, -, happlied⟩ := accepted_update_in_force (by decide) (by decide) hrun
  exact ⟨node, hrun, k, hpos, happlied⟩

/-! ### Connections -/

end NTRIPClientNode

namespace NTRIPClientNode

variable {declared : ConnectionParams} {actions past : List ClientAction}
  {node after : NTRIPClientNode} {action : ClientAction}

/-- The GGA of a fix the node has received, or none. -/
def ReceivedGga (actions : List ClientAction) (gga : Bytes) : Prop :=
  gga = [] ∨ ∃ time fix, .onFix time fix ∈ actions ∧ formatGga time fix = value gga

theorem ReceivedGga.concat {gga : Bytes} (h : ReceivedGga past gga) (action : ClientAction) :
    ReceivedGga (past ++ [action]) gga := by
  rcases h with h | ⟨time, fix, hmem, hformat⟩
  · exact .inl h
  · exact .inr ⟨time, fix, List.mem_append_left _ hmem, hformat⟩

/-- What connections are opened with: the parameters after some of the updates, and a GGA. -/
def WholeOptions (declared : ConnectionParams) (actions : List ClientAction)
    (options : CurlOptions) : Prop :=
  ∃ k ≤ (updates actions).length, ∃ gga, ReceivedGga actions gga ∧
    options = curlOptions (paramsAfter (startParams declared) ((updates actions).take k)) gga

theorem WholeOptions.concat {options : CurlOptions} (h : WholeOptions declared past options)
    (action : ClientAction) : WholeOptions declared (past ++ [action]) options := by
  obtain ⟨k, hk, gga, hgga, rfl⟩ := h
  refine ⟨k, ?_, gga, hgga.concat action, ?_⟩
  · rw [updates_append, List.length_append]
    omega
  · rw [updates_append, List.take_append_of_le_length hk]

/-- What a run keeps of the options. -/
structure Connected (declared : ConnectionParams) (actions : List ClientAction)
    (node : NTRIPClientNode) : Prop where
  latest : ReceivedGga actions node.latestGga
  options : WholeOptions declared actions node.options
  trace : ∀ options, .connects options ∈ node.trace → WholeOptions declared actions options

/-- A step that leaves the GGA and the options alone, and connects with nothing else. -/
theorem Connected.of_same (h : Connected declared past node) (action : ClientAction)
    (hgga : after.latestGga = node.latestGga) (hoptions : after.options = node.options)
    (htrace : ∀ options, .connects options ∈ after.trace →
      .connects options ∈ node.trace ∨ options = node.options) :
    Connected declared (past ++ [action]) after := by
  refine ⟨hgga ▸ h.latest.concat action, hoptions ▸ h.options.concat action, ?_⟩
  intro options hmem
  rcases htrace options hmem with hmem | rfl
  · exact (h.trace options hmem).concat action
  · exact h.options.concat action

/-- Nothing else connects. -/
theorem connects_of_emit {events : List ClientEvent} {options : CurlOptions}
    (hother : ∀ options, .connects options ∉ events)
    (h : .connects options ∈ (node.emit events).trace) : .connects options ∈ node.trace :=
  (List.mem_append.mp h).resolve_right (hother options)

theorem Connected.step (hpast : run declared past = some node)
    (h : Connected declared past node) (hstep : node.step action = some after) :
    Connected declared (past ++ [action]) after := by
  cases stepCase_of_step hstep with
  | @firstFix time fix gga hgga =>
    have hmem : ClientAction.onFix time fix ∈ past ++ [.onFix time fix] :=
      List.mem_append_right _ (List.mem_singleton_self _)
    exact ⟨.inr ⟨time, fix, hmem, hgga⟩, h.options.concat _, fun options hc =>
      (h.trace options hc).concat _⟩
  | @laterFix time fix gga hgga =>
    have hmem : ClientAction.onFix time fix ∈ past ++ [.onFix time fix] :=
      List.mem_append_right _ (List.mem_singleton_self _)
    exact ⟨.inr ⟨time, fix, hmem, hgga⟩, h.options.concat _, fun options hc =>
      (h.trace options hc).concat _⟩
  | applyCurlOptions =>
    obtain ⟨-, k, hk, happlied, -⟩ := params_in_force hpast
    have hoptions : WholeOptions declared past (curlOptions node.applied node.latestGga) :=
      ⟨k, hk, node.latestGga, h.latest, by rw [happlied]⟩
    exact ⟨h.latest.concat _, hoptions.concat _, fun options hc => (h.trace options hc).concat _⟩
  | connect =>
    refine h.of_same _ rfl rfl fun options hc => ?_
    rcases List.mem_append.mp hc with hc | hc
    · exact .inl hc
    · exact .inr (ClientEvent.connects.inj (List.mem_singleton.mp hc))
  | writeCallback =>
    exact h.of_same _ rfl rfl fun options hc => .inl (connects_of_emit (by simp) hc)
  | countReached => exact h.of_same _ rfl rfl fun options hc => .inl (connects_of_emit (by simp) hc)
  | failed => exact h.of_same _ rfl rfl fun options hc => .inl (connects_of_emit (by simp) hc)
  | lowerFlag => exact h.of_same _ rfl rfl fun options hc => .inl (connects_of_emit (by simp) hc)
  | _ => exact h.of_same _ rfl rfl fun options hc => .inl hc

end NTRIPClientNode

end UnicoreGnss
