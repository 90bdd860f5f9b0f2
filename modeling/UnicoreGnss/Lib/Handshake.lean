import UnicoreGnss.Lib.PartialRuns
import Mathlib.Order.Nat

/-!
# Settings that one party changes and another puts in force

Commands change shared settings under a lock and raise a flag if they are accepted; others may raise
the flag too. One party works with a copy of its own. When it finds the flag raised, it takes the
lock, copies the settings, and lowers the flag before it gives the lock back. Between finding the
flag raised and taking the lock anything may happen.

The copy is always what the settings were after some number of the commands. That number never goes
back, and as long as the flag is down, no command behind it has been accepted.

## Main definitions

* `Handshake.State`, `Handshake.step` — the parties and their steps
* `Handshake.inForce` — how many commands are in force after a list of events

## Main results

* `Handshake.kept_of_run` — the copy is a whole past state of the settings, and the last one if the
  flag is down, up to refused commands
* `Handshake.inForce_le_append` — the number of commands in force never goes back
* `Handshake.length_le_inForce_of_lower` — when the flag is lowered, all commands are in force
-/

namespace Handshake

open PartialRun

variable {σ κ : Type}

/-- Where the working party stands. -/
inductive Phase where
  | working
  /-- It has found the flag raised. -/
  | called
  /-- It has the lock and a copy. -/
  | holding
  deriving DecidableEq, Repr

/-- The shared settings and the flag, and the working party's copy and phase. -/
structure State (σ : Type) where
  settings : σ
  copy : σ
  raised : Bool
  phase : Phase
  deriving DecidableEq, Repr

/-- What either party does to the shared state. -/
inductive Event (κ : Type) where
  /-- A command is carried out under the lock. -/
  | command (c : κ)
  | raise
  /-- The working party finds the flag raised. -/
  | notice
  /-- It takes the lock and copies the settings. -/
  | take
  /-- It lowers the flag and gives the lock back. -/
  | lower
  deriving DecidableEq, Repr

/-- Nothing has been changed yet, and the copy is that of the settings. -/
def State.start (settings : σ) : State σ where
  settings := settings
  copy := settings
  raised := false
  phase := .working

section Machine

variable (change : σ → κ → σ) (accepts : κ → Bool)

/-- Where an event leads; `none` if the party cannot do that in its phase or the lock is taken. -/
def step (s : State σ) : Event κ → Option (State σ)
  | .command c =>
    if s.phase = .holding then none
    else some { s with settings := change s.settings c, raised := s.raised || accepts c }
  | .raise => some { s with raised := true }
  | .notice =>
    if s.phase = .working ∧ s.raised = true then some { s with phase := .called } else none
  | .take =>
    if s.phase = .called then some { s with copy := s.settings, phase := .holding } else none
  | .lower =>
    if s.phase = .holding then some { s with raised := false, phase := .working } else none

/-- The command that an event carries out. -/
def Event.commands : Event κ → List κ
  | command c => [c]
  | _ => []

/-- The commands that have been carried out, in order. -/
def commands (events : List (Event κ)) : List κ := events.flatMap Event.commands

/-- How many commands there have been, and how many of them are in force. -/
def count (n : ℕ × ℕ) : Event κ → ℕ × ℕ
  | .command _ => (n.1 + 1, n.2)
  | .take => (n.1, n.1)
  | _ => n

/-- How many commands are in force: those before the last copy. -/
def inForce (events : List (Event κ)) : ℕ := (events.foldl count (0, 0)).2

/-! ### Counting commands -/

theorem foldl_count_fst (events : List (Event κ)) (n : ℕ × ℕ) :
    (events.foldl count n).1 = n.1 + (commands events).length := by
  induction events generalizing n with
  | nil => rfl
  | cons event events ih =>
    have hcommands : commands (event :: events) = event.commands ++ commands events :=
      List.flatMap_cons
    rw [List.foldl_cons, ih, hcommands, List.length_append, ← Nat.add_assoc]
    cases event <;> rfl

theorem count_le {n : ℕ × ℕ} (h : n.2 ≤ n.1) (event : Event κ) :
    (count n event).2 ≤ (count n event).1 ∧ n.2 ≤ (count n event).2 := by
  cases event with
  | command c => exact ⟨Nat.le_succ_of_le h, Nat.le_refl n.2⟩
  | take => exact ⟨Nat.le_refl n.1, h⟩
  | _ => exact ⟨h, Nat.le_refl n.2⟩

theorem foldl_count_le {n : ℕ × ℕ} (h : n.2 ≤ n.1) (events : List (Event κ)) :
    (events.foldl count n).2 ≤ (events.foldl count n).1 ∧ n.2 ≤ (events.foldl count n).2 := by
  induction events generalizing n with
  | nil => exact ⟨h, le_rfl⟩
  | cons event events ih =>
    obtain ⟨hkeep, hmono⟩ := count_le h event
    obtain ⟨hle, hlater⟩ := ih hkeep
    exact ⟨hle, hmono.trans hlater⟩

theorem inForce_le (events : List (Event κ)) : inForce events ≤ (commands events).length := by
  have h := (foldl_count_le (n := (0, 0)) (Nat.le_refl 0) events).1
  rwa [foldl_count_fst, Nat.zero_add] at h

/-- **The commands in force** stay in force. -/
theorem inForce_le_append (events more : List (Event κ)) :
    inForce events ≤ inForce (events ++ more) := by
  rw [inForce, inForce, List.foldl_append]
  exact (foldl_count_le (foldl_count_le (Nat.le_refl 0) events).1 more).2

theorem commands_append (events more : List (Event κ)) :
    commands (events ++ more) = commands events ++ commands more :=
  List.flatMap_append

/-- A copy puts all commands in force. -/
theorem inForce_concat_take (events : List (Event κ)) :
    inForce (events ++ [.take]) = (commands events).length := by
  have hfst := foldl_count_fst events (0, 0)
  rw [Nat.zero_add] at hfst
  rw [inForce, List.foldl_append, ← hfst]
  rfl

/-- Any other event leaves those in force that are. -/
theorem inForce_concat_of_ne (events : List (Event κ)) {event : Event κ} (h : event ≠ .take) :
    inForce (events ++ [event]) = inForce events := by
  rw [inForce, List.foldl_append, List.foldl_cons, List.foldl_nil]
  cases event with
  | take => exact absurd rfl h
  | _ => rfl

/-! ### Runs -/

/-- What a run keeps: the settings are what the commands have made of them, the copy is what the
first ones have made of them, and with the flag down none of the others has been accepted. -/
structure Kept (start : σ) (events : List (Event κ)) (s : State σ) : Prop where
  settings_eq : s.settings = (commands events).foldl change start
  copy_eq : s.copy = ((commands events).take (inForce events)).foldl change start
  refused : s.raised = false → ∀ c ∈ (commands events).drop (inForce events), accepts c = false
  raised : s.phase ≠ .working → s.raised = true
  all : s.phase = .holding → inForce events = (commands events).length

theorem kept_start (start : σ) : Kept change accepts start [] (State.start start) where
  settings_eq := rfl
  copy_eq := rfl
  refused := by
    intro _ c hc
    cases hc
  raised := by
    intro h
    exact absurd rfl h
  all := by
    intro h
    cases h

variable {change accepts} {start : σ} {events : List (Event κ)} {s t : State σ}

/-- An event that neither carries out a command nor copies leaves the counts alone. -/
theorem Kept.of_silent (h : Kept change accepts start events s) {event : Event κ}
    (hsilent : event.commands = []) (htake : event ≠ .take) (hsettings : t.settings = s.settings)
    (hcopy : t.copy = s.copy)
    (hrefused : t.raised = false →
      ∀ c ∈ (commands events).drop (inForce events), accepts c = false)
    (hraised : t.phase ≠ .working → t.raised = true)
    (hall : t.phase = .holding → inForce events = (commands events).length) :
    Kept change accepts start (events ++ [event]) t := by
  have hcommands : commands (events ++ [event]) = commands events := by
    rw [commands_append, commands, commands, List.flatMap_singleton, hsilent, List.append_nil]
  have hforce : inForce (events ++ [event]) = inForce events := inForce_concat_of_ne events htake
  refine ⟨?_, ?_, ?_, hraised, ?_⟩
  · rw [hcommands, hsettings, h.settings_eq]
  · rw [hcommands, hforce, hcopy, h.copy_eq]
  · rwa [hcommands, hforce]
  · rwa [hcommands, hforce]

theorem Kept.step (h : Kept change accepts start events s) {event : Event κ}
    (hstep : step change accepts s event = some t) :
    Kept change accepts start (events ++ [event]) t := by
  cases event with
  | command c =>
    rw [Handshake.step] at hstep
    by_cases hphase : s.phase = .holding
    · rw [if_pos hphase] at hstep
      cases hstep
    rw [if_neg hphase] at hstep
    obtain rfl := Option.some.inj hstep
    have hcommands : commands (events ++ [.command c]) = commands events ++ [c] :=
      commands_append events [.command c]
    have htake : Event.command c ≠ .take := by simp
    have hforce : inForce (events ++ [.command c]) = inForce events :=
      inForce_concat_of_ne events htake
    have hle := inForce_le events
    refine ⟨?_, ?_, ?_, ?_, fun hholding => absurd hholding hphase⟩
    · rw [hcommands, List.foldl_append, ← h.settings_eq]
      rfl
    · rw [hcommands, hforce, List.take_append_of_le_length hle, ← h.copy_eq]
    · intro hraised c' hc'
      obtain ⟨hdown, hrefuses⟩ := Bool.or_eq_false_iff.mp hraised
      rw [hcommands, hforce, List.drop_append_of_le_length hle, List.mem_append,
        List.mem_singleton] at hc'
      rcases hc' with hc' | rfl
      · exact h.refused hdown c' hc'
      · exact hrefuses
    · intro hworking
      change (s.raised || accepts c) = true
      rw [h.raised hworking, Bool.true_or]
  | raise =>
    obtain rfl := Option.some.inj hstep
    exact h.of_silent rfl (by simp) rfl rfl (by simp) (fun _ => rfl) h.all
  | notice =>
    rw [Handshake.step] at hstep
    by_cases hfound : s.phase = .working ∧ s.raised = true
    · rw [if_pos hfound] at hstep
      obtain rfl := Option.some.inj hstep
      exact h.of_silent rfl (by simp) rfl rfl h.refused (fun _ => hfound.2) (by simp)
    · rw [if_neg hfound] at hstep
      cases hstep
  | take =>
    rw [Handshake.step] at hstep
    by_cases hphase : s.phase = .called
    · rw [if_pos hphase] at hstep
      obtain rfl := Option.some.inj hstep
      have hcommands : commands (events ++ [.take]) = commands events := by
        rw [commands_append]
        exact List.append_nil _
      have hforce : inForce (events ++ [.take]) = (commands events).length :=
        inForce_concat_take events
      refine ⟨?_, ?_, ?_, ?_, ?_⟩
      · rw [hcommands, ← h.settings_eq]
      · rw [hcommands, hforce, List.take_length, ← h.settings_eq]
      · intro _ c hc
        rw [hcommands, hforce, List.drop_length] at hc
        cases hc
      · intro _
        exact h.raised (by rw [hphase]; decide)
      · intro _
        rw [hcommands, hforce]
    · rw [if_neg hphase] at hstep
      cases hstep
  | lower =>
    rw [Handshake.step] at hstep
    by_cases hphase : s.phase = .holding
    · rw [if_pos hphase] at hstep
      obtain rfl := Option.some.inj hstep
      refine h.of_silent rfl (by simp) rfl rfl ?_ (fun hworking => absurd rfl hworking) (by simp)
      intro _ c hc
      rw [h.all hphase, List.drop_length] at hc
      cases hc
    · rw [if_neg hphase] at hstep
      cases hstep

/-- **What every run keeps.** -/
theorem kept_of_run (h : run (step change accepts) (State.start start) events = some t) :
    Kept change accepts start events t :=
  invariant (kept_start change accepts start)
    (fun _ _ _ _ _ hkept hlast => hkept.step hlast) h

/-- **When the flag is lowered**, all commands so far are in force. -/
theorem length_le_inForce_of_lower {more : List (Event κ)} (hlower : .lower ∈ more)
    (h : run (step change accepts) (State.start start) (events ++ more) = some t) :
    (commands events).length ≤ inForce (events ++ more) := by
  obtain ⟨before, after, rfl⟩ := List.append_of_mem hlower
  have hsplit : events ++ (before ++ .lower :: after) =
      events ++ before ++ ([.lower] ++ after) := by simp
  rw [hsplit] at h ⊢
  obtain ⟨middle, hbefore, hrest⟩ := run_append_eq_some.mp h
  obtain ⟨next, hnext, -⟩ := run_cons_eq_some.mp hrest
  have hholding : middle.phase = .holding := by
    by_contra hphase
    rw [Handshake.step, if_neg hphase] at hnext
    cases hnext
  calc (commands events).length
      ≤ (commands (events ++ before)).length := by
        rw [commands_append, List.length_append]
        exact Nat.le_add_right _ _
    _ = inForce (events ++ before) := ((kept_of_run hbefore).all hholding).symm
    _ ≤ inForce (events ++ before ++ ([.lower] ++ after)) := inForce_le_append _ _

end Machine

end Handshake
