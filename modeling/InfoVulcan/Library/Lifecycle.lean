import Mathlib

/-!
# Lifecycles

A record is created once and then moves from status to status. `Lifecycle.Follows` says that along
a run of a machine the status of a record, seen through a view of the state, only takes the steps
of a lifecycle. A record that has reached a terminal status then keeps it, whatever the rest of the
run does (`Follows.terminal`).
-/

namespace InfoVulcan

/-- The status a record starts in, and the moves it may make. -/
structure Lifecycle (S : Type) where
  initial : S
  allowed : S → S → Prop

namespace Lifecycle

variable {S σ ε : Type}

/-- What one step may do to the status of a record, which is absent at first. -/
inductive Step (L : Lifecycle S) : Option S → Option S → Prop where
  | absent : L.Step none none
  | created : L.Step none (some L.initial)
  | stays (s : S) : L.Step (some s) (some s)
  | moves {s t : S} (h : L.allowed s t) : L.Step (some s) (some t)

/-- A status without moves. -/
def Terminal (L : Lifecycle S) (s : S) : Prop :=
  ∀ t, ¬ L.allowed s t

variable {L : Lifecycle S}

/-- Nothing has to happen. -/
theorem Step.refl (status : Option S) : L.Step status status := by
  cases status with
  | none => exact .absent
  | some s => exact .stays s

/-- A terminal status is kept. -/
theorem Step.eq_of_terminal {s : S} {status : Option S} (h : L.Step (some s) status)
    (hs : L.Terminal s) : status = some s := by
  cases h with
  | stays => rfl
  | moves hmove => exact absurd hmove (hs _)

/-- Along the run, seen through `view`, every step is one of the lifecycle. -/
def Follows (L : Lifecycle S) (step : σ → ε → σ) (view : σ → Option S) (start : σ)
    (events : List ε) : Prop :=
  ∀ pre e post, events = pre ++ e :: post →
    L.Step (view (pre.foldl step start)) (view (step (pre.foldl step start) e))

/-- A terminal status is kept for the rest of the run. -/
theorem Follows.terminal {step : σ → ε → σ} {view : σ → Option S} {start : σ}
    {pre mid post : List ε} (h : L.Follows step view start (pre ++ mid ++ post)) {s : S}
    (hs : L.Terminal s) (hview : view (pre.foldl step start) = some s) :
    view ((pre ++ mid).foldl step start) = some s := by
  induction mid using List.reverseRecOn generalizing post with
  | nil => rwa [List.append_nil]
  | append_singleton mid e ih =>
      have hbefore : L.Follows step view start (pre ++ mid ++ e :: post) := by simpa using h
      have hmid : view ((pre ++ mid).foldl step start) = some s := ih hbefore
      have hstep := h (pre ++ mid) e post (by simp)
      rw [hmid] at hstep
      rw [← List.append_assoc, List.foldl_concat]
      exact hstep.eq_of_terminal hs

end Lifecycle

end InfoVulcan
