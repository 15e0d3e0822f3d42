import Mathlib

/-!
# Machines that keep their keys apart

A machine answers events one by one. Every event is about a key, and a view shows of a state what
belongs to a key. If an event is answered by the view of its own key alone, changes that view by
itself alone and leaves the views of all other keys as they are (`KeepsApart`), then what happens to
a key in a run is what happens to it in the run of its own events (`KeepsApart.project`). The order
of events with different keys is then not observable (`KeepsApart.reorder`).
-/

namespace InfoVulcan.Projection

variable {σ ε ο κ β : Type}

/-- The state after a list of events. -/
def final (step : σ → ε → ο × σ) (s : σ) (events : List ε) : σ :=
  events.foldl (fun t e => (step t e).2) s

/-- The events with their answers. -/
def answered (step : σ → ε → ο × σ) : σ → List ε → List (ε × ο)
  | _, [] => []
  | s, e :: events => (e, (step s e).1) :: answered step (step s e).2 events

/-- An event depends on the view of its own key alone, and no other view depends on it. -/
structure KeepsApart (step : σ → ε → ο × σ) (key : ε → κ) (view : σ → κ → β) : Prop where
  determined : ∀ {s t : σ} {e : ε}, view s (key e) = view t (key e) →
    (step s e).1 = (step t e).1 ∧ view (step s e).2 (key e) = view (step t e).2 (key e)
  frame : ∀ {s : σ} {e : ε} {k : κ}, key e ≠ k → view (step s e).2 k = view s k

namespace KeepsApart

variable [DecidableEq κ] {step : σ → ε → ο × σ} {key : ε → κ} {view : σ → κ → β}

/-- What belongs to a key at the end of a run, and the answers to its events, are those of the run
of its own events. -/
theorem project (h : KeepsApart step key view) {s t : σ} {k : κ} (hstart : view s k = view t k)
    (events : List ε) :
    view (final step s events) k =
        view (final step t (events.filter fun e => key e = k)) k ∧
      (answered step s events).filter (fun a => key a.1 = k) =
        answered step t (events.filter fun e => key e = k) := by
  induction events generalizing s t with
  | nil => exact ⟨hstart, rfl⟩
  | cons e events ih =>
      by_cases hk : key e = k
      · -- Both runs take the event, from states that look alike to it.
        subst hk
        obtain ⟨hanswer, hnext⟩ := h.determined hstart
        obtain ⟨hview, hrest⟩ := ih hnext
        rw [List.filter_cons_of_pos (by simp)]
        refine ⟨hview, ?_⟩
        rw [answered, answered, List.filter_cons_of_pos (by simp), hanswer, hrest]
      · -- Only the whole run takes the event, which the key does not see.
        obtain ⟨hview, hrest⟩ := ih ((h.frame hk).trans hstart)
        rw [List.filter_cons_of_neg (by simpa using hk)]
        refine ⟨hview, ?_⟩
        rw [answered, List.filter_cons_of_neg (by simpa using hk)]
        exact hrest

/-- Two runs in which every key has the same events in the same order end alike and answer these
events alike. -/
theorem reorder (h : KeepsApart step key view) (s : σ) {events events' : List ε}
    (horder : ∀ k, events.filter (fun e => key e = k) = events'.filter fun e => key e = k) :
    (∀ k, view (final step s events) k = view (final step s events') k) ∧
      ∀ k, (answered step s events).filter (fun a => key a.1 = k) =
        (answered step s events').filter fun a => key a.1 = k := by
  constructor
  · intro k
    rw [(h.project rfl events).1, (h.project rfl events').1, horder]
  · intro k
    rw [(h.project rfl events).2, (h.project rfl events').2, horder]

end KeepsApart

end InfoVulcan.Projection
