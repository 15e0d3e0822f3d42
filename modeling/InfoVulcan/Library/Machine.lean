import Mathlib

/-!
# Runs of a machine

A machine is a partial step function on states, driven by events. `Run step ok s events t` is a run
from `s` to `t` each of whose steps meets the side condition `ok` in the state where it is taken.
`Run.invariant` packages the induction over runs, `Run.simulates` the one that relates a run to
that of an abstract machine, and `Run.dichotomy` the one that finds the step where a run leaves its
side condition. `Everywhere` is a property of every state that a run goes through, and
`Run.and_of_everywhere` reads a side condition off it. For a total machine, whose runs are folds,
`always_iff_throughout` finds the side condition under which a property holds in every state of a
run.
-/

namespace InfoVulcan

variable {σ ε : Type}

/-- A run whose steps all meet a side condition. -/
inductive Run (step : σ → ε → Option σ) (ok : σ → ε → Prop) (s : σ) : List ε → σ → Prop where
  | nil : Run step ok s [] s
  | snoc {events : List ε} {e : ε} {t u : σ} (run : Run step ok s events t) (hok : ok t e)
      (hstep : step t e = some u) : Run step ok s (events ++ [e]) u

namespace Run

variable {step : σ → ε → Option σ} {ok : σ → ε → Prop} {s t : σ} {events : List ε}

/-- A run under a side condition is a run under any weaker one. -/
theorem imp {ok' : σ → ε → Prop} (h : Run step ok s events t) (himp : ∀ t e, ok t e → ok' t e) :
    Run step ok' s events t := by
  induction h with
  | nil => exact .nil
  | snoc run hok hstep ih => exact ih.snoc (himp _ _ hok) hstep

/-- What holds at the start and is preserved by every step holds at the end. -/
theorem invariant {I : σ → Prop} (h : Run step ok s events t) (hstart : I s)
    (hpres : ∀ {t e u}, I t → ok t e → step t e = some u → I u) : I t := by
  induction h with
  | nil => exact hstart
  | snoc run hok hstep ih => exact hpres ih hok hstep

/-- A run is simulated by a total machine on abstract states when each of its steps is. -/
theorem simulates {α : Type} {abs : α → ε → α} {R : α → σ → Prop} {a : α}
    (h : Run step ok s events t) (hstart : R a s)
    (hstep : ∀ {b t e u}, R b t → ok t e → step t e = some u → R (abs b e) u) :
    R (events.foldl abs a) t := by
  induction h with
  | nil => exact hstart
  | snoc run hok hnext ih =>
      rw [List.foldl_append]
      exact hstep ih hok hnext

/-- If leaving the side condition does lasting harm, an unharmed run has never left it. -/
theorem dichotomy {G B : σ → Prop} (h : Run step (fun _ _ => True) s events t)
    (hstart : G s) (hkeep : ∀ {t e u}, G t → ok t e → step t e = some u → G u)
    (hbreak : ∀ {t e u}, G t → ¬ ok t e → step t e = some u → B u)
    (hstay : ∀ {t e u}, B t → step t e = some u → B u) :
    Run step ok s events t ∧ G t ∨ B t := by
  induction h with
  | nil => exact .inl ⟨.nil, hstart⟩
  | @snoc events e t u run _ hstep ih =>
      rcases ih with ⟨hrun, hgood⟩ | hbad
      · by_cases hok : ok t e
        · exact .inl ⟨hrun.snoc hok hstep, hkeep hgood hok hstep⟩
        · exact .inr (hbreak hgood hok hstep)
      · exact .inr (hstay hbad hstep)

/-- A run has a run for every prefix of its events. -/
theorem of_prefix {pre : List ε} (h : Run step ok s events t) (hpre : pre <+: events) :
    ∃ u, Run step ok s pre u := by
  induction h with
  | nil => exact ⟨s, List.prefix_nil.mp hpre ▸ .nil⟩
  | @snoc events e t u run hok hstep ih =>
      rcases List.prefix_concat_iff.mp hpre with rfl | hshort
      · exact ⟨u, run.snoc hok hstep⟩
      · exact ih hshort

/-- A run ends where the steps lead. -/
theorem foldlM_eq (h : Run step ok s events t) : events.foldlM step s = some t := by
  induction h with
  | nil => rfl
  | snoc run hok hstep ih => simp [List.foldlM_append, ih, hstep]

/-- The events determine where a run ends. -/
theorem unique {ok' : σ → ε → Prop} {u : σ} (h : Run step ok s events t)
    (h' : Run step ok' s events u) : t = u :=
  Option.some.inj (h.foldlM_eq.symm.trans h'.foldlM_eq)

end Run

/-- The property holds in every state that the run goes through. -/
def Everywhere (step : σ → ε → Option σ) (P : σ → Prop) (s : σ) (events : List ε) : Prop :=
  ∀ pre t, pre <+: events → Run step (fun _ _ => True) s pre t → P t

/-- A property that runs under a side condition end with holds everywhere in them. -/
theorem Run.everywhere {step : σ → ε → Option σ} {ok : σ → ε → Prop} {P : σ → Prop} {s t : σ}
    {events : List ε} (h : Run step ok s events t)
    (hends : ∀ {pre u}, Run step ok s pre u → P u) : Everywhere step P s events := by
  intro pre u hpre hrun
  obtain ⟨u', hrun'⟩ := h.of_prefix hpre
  exact hrun'.unique hrun ▸ hends hrun'

/-- If a step from a state with the property to one with the property meets a side condition, a run
that has the property everywhere meets it as well. -/
theorem Run.and_of_everywhere {step : σ → ε → Option σ} {ok ok' : σ → ε → Prop} {P : σ → Prop}
    {s t : σ} {events : List ε} (h : Run step ok s events t) (hP : Everywhere step P s events)
    (hstep : ∀ {t e u}, P t → P u → step t e = some u → ok' t e) :
    Run step (fun t e => ok t e ∧ ok' t e) s events t := by
  induction h with
  | nil => exact .nil
  | @snoc events e t u run hok hnext ih =>
      have hinit : Everywhere step P s events := fun pre v hpre =>
        hP pre v (hpre.trans (List.prefix_append _ _))
      have hrun : Run step (fun _ _ => True) s events t := run.imp fun _ _ _ => trivial
      have hbefore : P t := hinit events t List.prefix_rfl hrun
      have hafter : P u := hP _ u List.prefix_rfl (hrun.snoc trivial hnext)
      exact (ih hinit).snoc ⟨hok, hstep hbefore hafter hnext⟩ hnext

/-! ## Total machines -/

/-- The property holds in every state of the run. -/
def Always (step : σ → ε → σ) (P : σ → Prop) (s : σ) (events : List ε) : Prop :=
  ∀ pre, pre <+: events → P (pre.foldl step s)

/-- Every event meets the side condition in the state where it happens. -/
def Throughout (step : σ → ε → σ) (ok : σ → ε → Prop) (s : σ) (events : List ε) : Prop :=
  ∀ pre e, pre ++ [e] <+: events → ok (pre.foldl step s) e

theorem throughout_nil {step : σ → ε → σ} {ok : σ → ε → Prop} {s : σ} :
    Throughout step ok s [] := by
  intro pre e hpre
  have hlength := hpre.length_le
  simp at hlength

/-- The side condition is met throughout when the first event meets it and so do the rest. -/
theorem throughout_cons {step : σ → ε → σ} {ok : σ → ε → Prop} {s : σ} {e : ε} {events : List ε} :
    Throughout step ok s (e :: events) ↔ ok s e ∧ Throughout step ok (step s e) events := by
  constructor
  case mp =>
    intro h
    refine ⟨h [] e (by simp), fun pre e' hpre => ?_⟩
    exact h (e :: pre) e' (List.cons_prefix_cons.mpr ⟨rfl, hpre⟩)
  case mpr =>
    rintro ⟨he, hrest⟩ pre e' hpre
    cases pre with
    | nil =>
        obtain rfl := (List.cons_prefix_cons.mp hpre).1
        exact he
    | cons e₁ pre =>
        obtain ⟨rfl, hpre'⟩ := List.cons_prefix_cons.mp hpre
        exact hrest pre e' hpre'

/-- What holds at the start and is preserved by every event that meets the side condition holds at
the end. -/
theorem Throughout.invariant {step : σ → ε → σ} {ok : σ → ε → Prop} {s : σ} {events : List ε}
    {I : σ → Prop} (h : Throughout step ok s events) (hstart : I s)
    (hpres : ∀ t, ∀ e ∈ events, I t → ok t e → I (step t e)) : I (events.foldl step s) := by
  have hupto : ∀ pre, pre <+: events → I (pre.foldl step s) := by
    intro pre
    induction pre using List.reverseRecOn with
    | nil => exact fun _ => hstart
    | append_singleton pre e ih =>
        intro hpre
        rw [List.foldl_concat]
        have he : e ∈ events := hpre.subset (by simp)
        exact hpres _ e he (ih ((List.prefix_append _ _).trans hpre)) (h pre e hpre)
  exact hupto events List.prefix_rfl

/-- If the side condition says of each event whether it keeps the property, the property always
holds exactly when the side condition is met throughout. -/
theorem always_iff_throughout {step : σ → ε → σ} {P : σ → Prop} {ok : σ → ε → Prop} {s : σ}
    {events : List ε} (hstart : P s)
    (hstep : ∀ pre e, pre ++ [e] <+: events → P (pre.foldl step s) →
      (P (step (pre.foldl step s) e) ↔ ok (pre.foldl step s) e)) :
    Always step P s events ↔ Throughout step ok s events := by
  constructor
  case mp =>
    intro halways pre e hupto
    have hafter := halways _ hupto
    rw [List.foldl_concat] at hafter
    exact (hstep pre e hupto (halways pre ((List.prefix_append _ _).trans hupto))).mp hafter
  case mpr =>
    intro hthroughout pre
    induction pre using List.reverseRecOn with
    | nil => exact fun _ => hstart
    | append_singleton pre e ih =>
        intro hupto
        rw [List.foldl_concat]
        have hbefore := ih ((List.prefix_append _ _).trans hupto)
        exact (hstep pre e hupto hbefore).mpr (hthroughout pre e hupto)

end InfoVulcan
