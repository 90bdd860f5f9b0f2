import Mathlib.Data.List.Basic

/-!
# Traces and sessions

A *trace* is what a system has done, in order. Two things are said of traces here. An event can be
*justified* by the events before it; that every event of a trace is justified is a safety property,
and it is kept event by event. And a trace has a *current session*: what follows the last event that
starts one, provided nothing has ended it since.

## Main definitions

* `Justified` — every event of a trace is justified by its past
* `CurrentSession` — what has happened since the session was started

## Main results

* `justified_concat_iff` — one more event
* `CurrentSession.concat` — the session goes on
-/

variable {ε : Type*}

/-- Every event of the trace is justified by the events before it. -/
def Justified (P : List ε → ε → Prop) (trace : List ε) : Prop :=
  ∀ before event after, trace = before ++ event :: after → P before event

theorem justified_nil (P : List ε → ε → Prop) : Justified P [] := by
  intro before event after h
  exact absurd h (by simp)

/-- **One more event** needs no more than its own justification. -/
theorem justified_concat_iff {P : List ε → ε → Prop} {trace : List ε} {last : ε} :
    Justified P (trace ++ [last]) ↔ Justified P trace ∧ P trace last := by
  constructor
  · intro h
    refine ⟨?_, h trace last [] rfl⟩
    rintro before event after rfl
    exact h before event (after ++ [last]) (by simp)
  · rintro ⟨htrace, hlast⟩ before event after h
    rcases List.eq_nil_or_concat after with rfl | ⟨after, last', rfl⟩
    · obtain ⟨rfl, rfl⟩ : trace = before ∧ last = event := by simpa using h
      exact hlast
    · rw [List.concat_eq_append, ← List.cons_append, ← List.append_assoc] at h
      exact htrace before event after (List.append_inj' h rfl).1

/-- What has happened since the last start, if nothing has ended the session. -/
def CurrentSession (starts ends : ε → Prop) (trace session : List ε) : Prop :=
  ∃ earlier start, starts start ∧ trace = earlier ++ start :: session ∧
    ∀ event ∈ session, ¬ starts event ∧ ¬ ends event

namespace CurrentSession

variable {starts ends : ε → Prop} {trace session : List ε}

/-- A start opens an empty session. -/
theorem start (trace : List ε) {event : ε} (h : starts event) :
    CurrentSession starts ends (trace ++ [event]) [] :=
  ⟨trace, event, h, rfl, nofun⟩

/-- **The session goes on** with an event that neither starts nor ends one. -/
theorem concat (h : CurrentSession starts ends trace session) {event : ε}
    (hstart : ¬ starts event) (hend : ¬ ends event) :
    CurrentSession starts ends (trace ++ [event]) (session ++ [event]) := by
  obtain ⟨earlier, first, hfirst, rfl, hsession⟩ := h
  refine ⟨earlier, first, hfirst, by simp, ?_⟩
  intro e he
  rw [List.mem_append, List.mem_singleton] at he
  rcases he with he | rfl
  · exact hsession e he
  · exact ⟨hstart, hend⟩

end CurrentSession
