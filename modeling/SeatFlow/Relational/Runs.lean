import Mathlib.Logic.Relation

/-!
# Runs

A system is a step function on states: an action either leads to a next state or
is not possible now. A run is any finite sequence of steps; `ok` is a condition
on the steps it may take, on the state before each of them.
-/

namespace Relational

variable {σ α : Type*}

/-- `t` is reached from `s` by steps that all meet `ok`. -/
def Reaches (step : σ → α → Option σ) (ok : σ → α → Prop) (s t : σ) : Prop :=
  Relation.ReflTransGen (fun s t => ∃ a, ok s a ∧ step s a = some t) s t

/-- Execute a list of actions. -/
def execute (step : σ → α → Option σ) (actions : List α) (s : σ) : Option σ :=
  actions.foldlM step s

variable {step : σ → α → Option σ} {ok : σ → α → Prop} {s t : σ}

theorem Reaches.refl : Reaches step ok s s :=
  Relation.ReflTransGen.refl

/-- **Invariants of runs.** What the steps preserve holds of all that is
reached. -/
theorem Reaches.invariant {I : σ → Prop} (hreach : Reaches step ok s t) (hs : I s)
    (hstep : ∀ s a t, ok s a → step s a = some t → I s → I t) : I t := by
  induction hreach with
  | refl => exact hs
  | tail _ hlast ih =>
      obtain ⟨a, hok, ha⟩ := hlast
      exact hstep _ a _ hok ha ih

theorem Reaches.mono {ok' : σ → α → Prop} (hreach : Reaches step ok s t)
    (himp : ∀ s a, ok s a → ok' s a) : Reaches step ok' s t := by
  refine Relation.ReflTransGen.mono ?_ _ _ hreach
  rintro s t ⟨a, hok, ha⟩
  exact ⟨a, himp s a hok, ha⟩

/-- An executed list of actions is a run. -/
theorem reaches_of_execute {actions : List α} (h : execute step actions s = some t)
    (hok : ∀ s, ∀ a ∈ actions, ok s a) : Reaches step ok s t := by
  induction actions generalizing s with
  | nil =>
      cases h
      exact .refl
  | cons a actions ih =>
      rw [execute, List.foldlM_cons] at h
      obtain ⟨u, hstep, hrest⟩ := Option.bind_eq_some_iff.mp h
      exact .head ⟨a, hok s a (by simp), hstep⟩
        (ih hrest fun s b hb => hok s b (List.mem_cons_of_mem a hb))

/-- The two sessions of a race. -/
def firstSession : Fin 2 := 0

def secondSession : Fin 2 := 1

/-- Steps that check the condition first. -/
def guarded (step : σ → α → Option σ) (ok : σ → α → Bool) (s : σ) (a : α) : Option σ :=
  if ok s a then step s a else none

/-- A run of guarded steps is a run that meets the condition. -/
theorem reaches_of_guarded {ok : σ → α → Bool} {actions : List α}
    (h : execute (guarded step ok) actions s = some t) :
    Reaches step (fun s a => ok s a = true) s t := by
  have hreach : Reaches (guarded step ok) (fun _ _ => True) s t :=
    reaches_of_execute h fun _ _ _ => trivial
  refine hreach.invariant .refl ?_
  intro u a v _ hstep hu
  unfold guarded at hstep
  split at hstep
  · rename_i hok
    exact hu.tail ⟨a, hok, hstep⟩
  · cases hstep

/-- Where an entry stands in a log that has grown by one entry: it is the last one, or it
was there before. -/
theorem split_log {ε : Type*} {log before after : List ε} {event last : ε}
    (h : log ++ [last] = before ++ event :: after) :
    (after = [] ∧ event = last ∧ before = log) ∨
      ∃ after', after = after' ++ [last] ∧ log = before ++ event :: after' := by
  rcases List.eq_nil_or_concat after with rfl | ⟨after', x, rfl⟩
  · obtain ⟨hlog, hlast⟩ := List.append_inj' h rfl
    exact .inl ⟨rfl, (List.singleton_inj.mp hlast).symm, hlog.symm⟩
  · have hsplit : log ++ [last] = (before ++ event :: after') ++ [x] := by
      rw [h]
      simp
    obtain ⟨hlog, hlast⟩ := List.append_inj' hsplit rfl
    cases List.singleton_inj.mp hlast
    exact .inr ⟨after', List.concat_eq_append, hlog⟩

end Relational
