import Mathlib

/-!
# A shared cell

Clients publish values in a cell and adopt values, their own or the one they find there. They
`Agree` while everyone who has adopted a value has adopted the one in the cell. Adopting what is in
the cell keeps the agreement; publishing keeps it exactly when everyone so far has adopted the
value that is published.
-/

namespace InfoVulcan

/-- The value in the cell, and the value each client has adopted. -/
structure SharedCell (ι V : Type) where
  cell : Option V
  adopted : ι → Option V

namespace SharedCell

variable {ι V : Type} {s : SharedCell ι V} {i : ι} {v : V}

/-- A value is put in the cell. -/
def publish (s : SharedCell ι V) (v : V) : SharedCell ι V :=
  { s with cell := some v }

/-- A client adopts a value. -/
def adopt [DecidableEq ι] (s : SharedCell ι V) (i : ι) (v : V) : SharedCell ι V :=
  { s with adopted := Function.update s.adopted i (some v) }

/-- Everyone who has adopted a value has adopted the one in the cell. -/
def Agree (s : SharedCell ι V) : Prop :=
  ∀ i v, s.adopted i = some v → s.cell = some v

/-- Everyone who has adopted a value has adopted this one. -/
def Unanimous (s : SharedCell ι V) (v : V) : Prop :=
  ∀ i w, s.adopted i = some w → w = v

/-- Clients that agree have adopted the same value. -/
theorem Agree.eq (h : s.Agree) {i j : ι} {v w : V} (hi : s.adopted i = some v)
    (hj : s.adopted j = some w) : v = w :=
  Option.some.inj ((h i v hi).symm.trans (h j w hj))

/-- Clients still agree after a value has been published exactly when they have adopted it. -/
theorem agree_publish_iff : (s.publish v).Agree ↔ s.Unanimous v := by
  constructor
  case mp => exact fun h j w hw => (Option.some.inj (h j w hw)).symm
  case mpr => exact fun h j w hw => congrArg some (h j w hw).symm

variable [DecidableEq ι]

/-- A client that adopts the value in the cell keeps the agreement, and does not make one. -/
theorem agree_adopt_iff (hcell : s.cell = some v) (hi : s.adopted i = none) :
    (s.adopt i v).Agree ↔ s.Agree := by
  constructor
  case mp =>
    intro h j w hw
    refine h j w ?_
    have hj : j ≠ i := by
      rintro rfl
      rw [hi] at hw
      cases hw
    simpa [adopt, hj] using hw
  case mpr =>
    intro h j w hw
    simp only [adopt, Function.update_apply] at hw
    split at hw
    · rw [← hw]
      exact hcell
    · exact h j w hw

end SharedCell

end InfoVulcan
