import Mathlib

/-!
# Reconcilers

A reconciler keeps targets pointed at desired values. It attempts to move a target when the value it
believes the target to have differs from the desired one, and it believes after a round that every
target has its desired value. Its beliefs stay `InStep` with the targets in a round exactly when
every attempt of the round succeeds: a target whose attempt fails is left behind.
-/

namespace InfoVulcan

/-- The value each target is believed to have, and the one it has. -/
structure Reconciler (κ V : Type) where
  believed : κ → V
  actual : κ → V

namespace Reconciler

variable {κ V : Type} {s : Reconciler κ V} {desired : κ → V} {succeeds : κ → Prop}

/-- The beliefs are true. -/
def InStep (s : Reconciler κ V) : Prop :=
  ∀ k, s.believed k = s.actual k

/-- Every attempt that is made succeeds. -/
def Succeeds (s : Reconciler κ V) (desired : κ → V) (succeeds : κ → Prop) : Prop :=
  ∀ k, s.believed k ≠ desired k → succeeds k

/-- The reconciler that a round leaves: everything is believed to be as desired, and the targets
that were believed not to be have moved if the attempt has succeeded. -/
structure Round (s : Reconciler κ V) (desired : κ → V) (succeeds : κ → Prop)
    (t : Reconciler κ V) : Prop where
  believed : ∀ k, t.believed k = desired k
  moved : ∀ k, s.believed k ≠ desired k → succeeds k → t.actual k = desired k
  stayed : ∀ k, s.believed k ≠ desired k → ¬ succeeds k → t.actual k = s.actual k
  kept : ∀ k, s.believed k = desired k → t.actual k = s.actual k

/-- A round keeps the beliefs true exactly when every attempt succeeds. -/
theorem Round.inStep_iff {t : Reconciler κ V} (hround : s.Round desired succeeds t)
    (h : s.InStep) : t.InStep ↔ s.Succeeds desired succeeds := by
  constructor
  case mp =>
    intro hafter k hne
    by_contra hfails
    -- A target that is left behind has the value it was believed to have before.
    have hbehind : t.actual k = s.believed k := (hround.stayed k hne hfails).trans (h k).symm
    exact hne ((hbehind.symm.trans (hafter k).symm).trans (hround.believed k))
  case mpr =>
    intro hsucceeds k
    rw [hround.believed k]
    by_cases hne : s.believed k = desired k
    · rw [hround.kept k hne, ← h k, hne]
    · exact (hround.moved k hne (hsucceeds k hne)).symm

end Reconciler

end InfoVulcan
