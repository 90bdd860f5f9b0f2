import UnicoreGnss.Ntrip.Reconfigure

/-!
# The first fix and the header of the request

The node connects before it knows where it is. With the first fix `on_fix` raises the flag, so that
the streaming thread connects anew with a GGA in the header. But `on_fix` raises the flag after it
has given its mutex back, and the streaming thread lowers the flag some time after it has read the
GGA. If the first fix comes in just then, the flag that was raised for it is lowered with the other
one, and the request goes without a GGA until something else raises the flag. That is the only way
to miss it.

## Main definitions

* `CurlOptions.HasGga` — the header has a GGA
* `NTRIPClientNode.Overtaken` — the flag was raised for the first fix while the streaming thread,
  which had found no GGA, was about to lower it

## Main results

* `gga_missing_iff` — when the header lacks the GGA of a fix that is known
* `gga_sent_after_refresh` — the timer makes up for it
-/

namespace UnicoreGnss

open Checked

/-- The header has a GGA. -/
def CurlOptions.HasGga (options : CurlOptions) : Prop :=
  options.httpHeader ≠ [ascii "Ntrip-Version: Ntrip/2.0"]

instance (options : CurlOptions) : Decidable options.HasGga := by
  unfold CurlOptions.HasGga
  infer_instance

theorem hasGga_curlOptions {params : ConnectionParams} {gga : Bytes} :
    (curlOptions params gga).HasGga ↔ gga ≠ [] := by
  rw [CurlOptions.HasGga, curlOptions]
  by_cases hgga : gga = []
  · simp [hgga]
  · simp [hgga]

namespace NTRIPClientNode

variable {declared : ConnectionParams} {actions past more : List ClientAction}
  {node after middle : NTRIPClientNode} {action : ClientAction}

/-- The flag was raised for the first fix after the streaming thread had found no GGA and before it
lowered the flag, and the header has not been made again since. -/
def Overtaken (declared : ConnectionParams) (actions : List ClientAction) : Prop :=
  ∃ before later middle, actions = before ++ .raiseForFirstFix :: later ∧
    run declared before = some middle ∧ middle.streaming = .built ∧ ¬ middle.options.HasGga ∧
    .applyCurlOptions ∉ later

theorem Overtaken.concat (h : Overtaken declared past) (haction : action ≠ .applyCurlOptions) :
    Overtaken declared (past ++ [action]) := by
  obtain ⟨before, later, middle, rfl, hrun, hbuilt, hgga, hlater⟩ := h
  refine ⟨before, later ++ [action], middle, by simp, hrun, hbuilt, hgga, ?_⟩
  rw [List.mem_append, List.mem_singleton, not_or]
  exact ⟨hlater, haction.symm⟩

/-! ### The header -/

/-- Only one step makes the header. -/
theorem options_step (h : node.step action = some after) (haction : action ≠ .applyCurlOptions) :
    after.options = node.options := by
  cases stepCase_of_step h with
  | applyCurlOptions => exact absurd rfl haction
  | _ => rfl

theorem options_run (h : PartialRun.run step node actions = some after)
    (hactions : .applyCurlOptions ∉ actions) : after.options = node.options := by
  induction actions generalizing node with
  | nil =>
    obtain rfl : node = after := Option.some.inj h
    rfl
  | cons action actions ih =>
    obtain ⟨next, hfirst, hrest⟩ := PartialRun.run_cons_eq_some.mp h
    rw [List.mem_cons, not_or] at hactions
    rw [ih hrest hactions.2, options_step hfirst (Ne.symm hactions.1)]

/-- A GGA that is known stays known. -/
theorem latestGga_step (h : node.step action = some after) (hgga : node.latestGga ≠ []) :
    after.latestGga ≠ [] := by
  cases stepCase_of_step h with
  | firstFix _ hne => exact hne
  | laterFix _ hne => exact hne
  | _ => exact hgga

/-! ### The race -/

/-- **When the header lacks the GGA**, the flag is up and the streaming thread has yet to make the
header, or the first fix was overtaken. -/
theorem overtaken_or_raised (h : run declared actions = some node) (hgga : node.latestGga ≠ [])
    (hdone : node.firstFixes = 0) (hmissing : ¬ node.options.HasGga) :
    Overtaken declared actions ∨ node.reconfigureNeeded = true ∧ node.streaming ≠ .built := by
  revert hgga hdone hmissing
  refine PartialRun.invariant (I := fun past node => node.latestGga ≠ [] → node.firstFixes = 0 →
    ¬ node.options.HasGga → Overtaken declared past ∨
      node.reconfigureNeeded = true ∧ node.streaming ≠ .built) ?_ ?_ h
  · intro hgga
    exact absurd rfl hgga
  · intro past node action after hpast ih hstep hgga hdone hmissing
    -- a step that only moves the streaming thread, and not to `built`
    have keep : node.latestGga ≠ [] → node.firstFixes = 0 → ¬ node.options.HasGga →
        action ≠ .applyCurlOptions → (node.reconfigureNeeded = true → node.streaming ≠ .built →
          after.reconfigureNeeded = true ∧ after.streaming ≠ .built) →
        Overtaken declared (past ++ [action]) ∨
          after.reconfigureNeeded = true ∧ after.streaming ≠ .built := by
      intro hgga hdone hmissing haction hmoves
      rcases ih hgga hdone hmissing with hovertaken | ⟨hraised, hbuilt⟩
      · exact .inl (hovertaken.concat haction)
      · exact .inr (hmoves hraised hbuilt)
    cases stepCase_of_step hstep with
    | noFix => exact keep hgga hdone hmissing (by simp) fun hr hb => ⟨hr, hb⟩
    | firstFix => exact absurd hdone (Nat.succ_ne_zero _)
    | laterFix _ _ hlater => exact keep hlater hdone hmissing (by simp) fun hr hb => ⟨hr, hb⟩
    | raiseForFirstFix =>
      by_cases hbuilt : node.streaming = .built
      · refine .inl ⟨past, [], node, rfl, hpast, hbuilt, hmissing, ?_⟩
        simp
      · exact .inr ⟨rfl, hbuilt⟩
    | refresh => exact keep hgga hdone hmissing (by simp) fun _ hb => ⟨rfl, hb⟩
    | refreshNothing hnone => exact absurd hnone hgga
    | setParameters =>
      refine keep hgga hdone hmissing (by simp) fun hr hb => ⟨?_, hb⟩
      rw [onSetParametersCallback, hr, Bool.true_or]
    | exit => exact keep hgga hdone hmissing (by simp) fun hr hb => ⟨hr, hb⟩
    | writeCallback => exact keep hgga hdone hmissing (by simp) fun hr hb => ⟨hr, hb⟩
    | applyCurlOptions => exact absurd (hasGga_curlOptions.mpr hgga) hmissing
    | lowerFlag hbuilt => exact keep hgga hdone hmissing (by simp) fun _ hb => absurd hbuilt hb
    | _ => exact keep hgga hdone hmissing (by simp) fun hr _ => ⟨hr, by simp⟩

/-- **The header lacks the GGA** of a fix that is known, with the flag down, exactly if the first
fix was overtaken. -/
theorem gga_missing_iff (h : run declared actions = some node) (hgga : node.latestGga ≠ [])
    (hdone : node.firstFixes = 0) (hdown : node.reconfigureNeeded = false) :
    ¬ node.options.HasGga ↔ Overtaken declared actions := by
  constructor
  · intro hmissing
    refine (overtaken_or_raised h hgga hdone hmissing).resolve_right ?_
    rintro ⟨hraised, -⟩
    rw [hdown] at hraised
    cases hraised
  · rintro ⟨before, later, middle, rfl, hbefore, -, hmissing, hlater⟩
    obtain ⟨middle', hbefore', hrest⟩ := PartialRun.run_append_eq_some.mp h
    obtain rfl : middle = middle' := Option.some.inj (hbefore.symm.trans hbefore')
    have hsame : node.options = middle.options := by
      refine options_run hrest ?_
      rw [List.mem_cons, not_or]
      exact ⟨by simp, hlater⟩
    rwa [hsame]

/-- The fix comes in while the streaming thread is about to lower a flag that was raised for an
update, and its flag is lowered with the other one. -/
theorem gga_missing_overtaken :
    ∃ node, run {} [.begin, .setParameters [.port 2101], .performReturns false, .checkReconfigure,
        .copyParams, .applyCurlOptions, .onFix sampleTime sampleFix, .raiseForFirstFix, .lowerFlag,
        .begin] = some node ∧
      node.latestGga ≠ [] ∧ node.reconfigureNeeded = false ∧ ¬ node.options.HasGga ∧
      Overtaken {} [.begin, .setParameters [.port 2101], .performReturns false, .checkReconfigure,
        .copyParams, .applyCurlOptions, .onFix sampleTime sampleFix, .raiseForFirstFix, .lowerFlag,
        .begin] := by
  obtain ⟨node, hrun⟩ : ∃ node, run {} [.begin, .setParameters [.port 2101], .performReturns false,
      .checkReconfigure, .copyParams, .applyCurlOptions, .onFix sampleTime sampleFix,
      .raiseForFirstFix, .lowerFlag, .begin] = some node :=
    Option.isSome_iff_exists.mp (by decide +kernel)
  have hstate : (run {} [.begin, .setParameters [.port 2101], .performReturns false,
      .checkReconfigure, .copyParams, .applyCurlOptions, .onFix sampleTime sampleFix,
      .raiseForFirstFix, .lowerFlag, .begin]).all (fun node => node.latestGga ≠ [] ∧
        node.firstFixes = 0 ∧ node.reconfigureNeeded = false ∧ ¬ node.options.HasGga) = true := by
    decide +kernel
  rw [hrun, Option.all_some, decide_eq_true_iff] at hstate
  obtain ⟨hgga, hdone, hdown, hmissing⟩ := hstate
  exact ⟨node, hrun, hgga, hdown, hmissing, (gga_missing_iff hrun hgga hdone hdown).mp hmissing⟩

/-! ### The timer -/

/-- The streaming thread is about to lower the flag only behind a header it has made. -/
theorem applyCurlOptions_mem (h : PartialRun.run step node actions = some after)
    (hlower : .lowerFlag ∈ actions) (hbuilt : node.streaming ≠ .built) :
    .applyCurlOptions ∈ actions := by
  induction actions generalizing node with
  | nil => cases hlower
  | cons action actions ih =>
    obtain ⟨next, hfirst, hrest⟩ := PartialRun.run_cons_eq_some.mp h
    by_cases happly : action = .applyCurlOptions
    · exact happly ▸ List.mem_cons_self
    have hnext : next.streaming ≠ .built := by
      cases stepCase_of_step hfirst with
      | applyCurlOptions => exact absurd rfl happly
      | writeCallback => exact hbuilt
      | noFix => exact hbuilt
      | firstFix => exact hbuilt
      | laterFix => exact hbuilt
      | raiseForFirstFix => exact hbuilt
      | refresh => exact hbuilt
      | refreshNothing => exact hbuilt
      | setParameters => exact hbuilt
      | exit => exact hbuilt
      | _ => simp
    have hlater : .lowerFlag ∈ actions := by
      refine (List.mem_cons.mp hlower).resolve_left ?_
      rintro rfl
      cases stepCase_of_step hfirst with
      | lowerFlag hb => exact hbuilt hb
    exact List.mem_cons_of_mem _ (ih hrest hlater hnext)

/-- A header that is made while a GGA is known has one, and so has every later one. -/
theorem hasGga_of_applyCurlOptions (h : PartialRun.run step node actions = some after)
    (hgga : node.latestGga ≠ []) (happly : .applyCurlOptions ∈ actions) :
    after.options.HasGga := by
  have hkeep : after.latestGga ≠ [] ∧
      (node.options.HasGga ∨ .applyCurlOptions ∈ actions → after.options.HasGga) := by
    refine PartialRun.invariant (I := fun past after => after.latestGga ≠ [] ∧
      (node.options.HasGga ∨ .applyCurlOptions ∈ past → after.options.HasGga)) ?_ ?_ h
    · exact ⟨hgga, fun hor => hor.resolve_right (List.not_mem_nil)⟩
    · rintro past middle action last - ⟨hknown, hsent⟩ hstep
      refine ⟨latestGga_step hstep hknown, fun hor => ?_⟩
      by_cases haction : action = .applyCurlOptions
      · subst haction
        cases stepCase_of_step hstep with
        | applyCurlOptions => exact hasGga_curlOptions.mpr hknown
      · rw [options_step hstep haction]
        refine hsent (hor.imp_right fun hmem => ?_)
        rw [List.mem_append, List.mem_singleton] at hmem
        exact hmem.resolve_right (Ne.symm haction)
  exact hkeep.2 (.inr happly)

/-- The streaming thread is about to lower the flag only while it is up. -/
theorem raised_of_built (h : run declared actions = some node) :
    node.streaming.phase ≠ .working → node.reconfigureNeeded = true := by
  obtain ⟨events, hevents, -, -⟩ := exists_events h
  exact (Handshake.kept_of_run hevents).raised

/-- **The timer makes up for it**: once a fix is known, seven steps of the streaming thread after
the timer has gone off, whatever the others do meanwhile, the header has a GGA. -/
theorem gga_sent_after_refresh (hbefore : run declared past = some middle)
    (hgga : middle.latestGga ≠ []) (hdown : middle.reconfigureNeeded = false)
    (hsteps : 7 ≤ more.countP ClientAction.ofStreaming)
    (h : run declared (past ++ [.refresh] ++ more) = some node) : node.options.HasGga := by
  have hidle : middle.streaming ≠ .built := by
    intro hbuilt
    have hraised := raised_of_built hbefore (by rw [hbuilt]; decide)
    rw [hdown] at hraised
    cases hraised
  obtain ⟨next, hnext, hmore⟩ := PartialRun.run_append_eq_some.mp h
  obtain ⟨middle', hpast, hrefresh⟩ := PartialRun.run_concat_eq_some.mp hnext
  obtain rfl : middle = middle' := Option.some.inj (hbefore.symm.trans hpast)
  have hknown : next.latestGga ≠ [] := latestGga_step hrefresh hgga
  cases stepCase_of_step hrefresh with
  | refresh =>
    have hlower := lowerFlag_mem rfl ((distance_le _).trans hsteps) hmore
    exact hasGga_of_applyCurlOptions hmore hknown (applyCurlOptions_mem hmore hlower hidle)
  | refreshNothing hnone => exact absurd hnone hgga

/-- The timer after a first fix that was overtaken. -/
theorem gga_sent_after_refresh_overtaken :
    ∃ node, run {} ([.begin, .setParameters [.port 2101], .performReturns false, .checkReconfigure,
          .copyParams, .applyCurlOptions, .onFix sampleTime sampleFix, .raiseForFirstFix,
          .lowerFlag] ++ [.refresh] ++ [.begin, .performReturns false, .checkReconfigure,
          .copyParams, .applyCurlOptions, .lowerFlag, .begin]) = some node ∧
      node.options.HasGga := by
  obtain ⟨middle, hbefore⟩ : ∃ middle, run {} [.begin, .setParameters [.port 2101],
      .performReturns false, .checkReconfigure, .copyParams, .applyCurlOptions,
      .onFix sampleTime sampleFix, .raiseForFirstFix, .lowerFlag] = some middle :=
    Option.isSome_iff_exists.mp (by decide +kernel)
  obtain ⟨node, hrun⟩ : ∃ node, run {} ([.begin, .setParameters [.port 2101],
      .performReturns false, .checkReconfigure, .copyParams, .applyCurlOptions,
      .onFix sampleTime sampleFix, .raiseForFirstFix, .lowerFlag] ++ [.refresh] ++ [.begin,
      .performReturns false, .checkReconfigure, .copyParams, .applyCurlOptions, .lowerFlag,
      .begin]) = some node := Option.isSome_iff_exists.mp (by decide +kernel)
  have hstate : (run {} [.begin, .setParameters [.port 2101], .performReturns false,
      .checkReconfigure, .copyParams, .applyCurlOptions, .onFix sampleTime sampleFix,
      .raiseForFirstFix, .lowerFlag]).all (fun node => node.latestGga ≠ [] ∧
        node.reconfigureNeeded = false) = true := by
    decide +kernel
  rw [hbefore, Option.all_some, decide_eq_true_iff] at hstate
  exact ⟨node, hrun, gga_sent_after_refresh hbefore hstate.1 hstate.2 (by decide) hrun⟩

end NTRIPClientNode

end UnicoreGnss
