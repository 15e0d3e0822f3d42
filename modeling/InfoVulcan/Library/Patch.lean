import Mathlib

/-!
# Patches of records

A record has a value for each field, and a patch sets some of the fields. `lastSet` is what a
sequence of patches has set a field to last, and a record is `Kept` by the sequence when every field
that was set still has that value. A patch that is applied to an outdated copy of the record keeps
it exactly when the copy agrees with the record on the fields that the patch leaves alone.
-/

namespace InfoVulcan

variable {φ : Type} {V : φ → Type}

/-- The fields that are set, with their values. -/
abbrev Patch (V : φ → Type) : Type :=
  (f : φ) → Option (V f)

namespace Patch

/-- What a sequence of patches has set a field to last. -/
def lastSet (log : List (Patch V)) (f : φ) : Option (V f) :=
  log.foldl (fun last p => (p f).or last) none

/-- Every field that was set has the value it was set to last. -/
def Kept (log : List (Patch V)) (r : (f : φ) → V f) : Prop :=
  ∀ f v, lastSet log f = some v → r f = v

variable {log : List (Patch V)} {p : Patch V} {r r' : (f : φ) → V f}

@[simp] theorem lastSet_nil (f : φ) : lastSet ([] : List (Patch V)) f = none := rfl

@[simp] theorem lastSet_concat (f : φ) : lastSet (log ++ [p]) f = (p f).or (lastSet log f) :=
  List.foldl_concat ..

/-- A field that no later patch sets to another value keeps the value it was set to. -/
theorem lastSet_eq_of_unchanged {pre post : List (Patch V)} {f : φ} {v : V f} (hp : p f = some v)
    (hpost : ∀ q ∈ post, ∀ w, q f = some w → w = v) :
    lastSet (pre ++ p :: post) f = some v := by
  induction post using List.reverseRecOn with
  | nil => rw [lastSet_concat, hp, Option.some_or]
  | append_singleton post q ih =>
      rw [← List.cons_append, ← List.append_assoc, lastSet_concat,
        ih fun q' hq' => hpost q' (List.mem_append_left _ hq')]
      cases hq : q f with
      | none => rfl
      | some w => rw [hpost q (by simp) w hq, Option.some_or]

/-- A record that has been patched on the basis of an outdated copy is kept exactly when the copy
agrees with the record on the fields the patch leaves alone. -/
theorem kept_concat_iff (h : Kept log r) (hset : ∀ f v, p f = some v → r' f = v)
    (hframe : ∀ f, p f = none → lastSet log f = none → r' f = r f) :
    Kept (log ++ [p]) r' ↔ ∀ f, p f = none → r' f = r f := by
  constructor
  case mp =>
    intro hkept f hp
    cases hlast : lastSet log f with
    | none => exact hframe f hp hlast
    | some v =>
        have hset' : lastSet (log ++ [p]) f = some v := by
          rw [lastSet_concat, hp, Option.none_or, hlast]
        rw [hkept f v hset', h f v hlast]
  case mpr =>
    intro hcurrent f v hlast
    rw [lastSet_concat] at hlast
    cases hp : p f with
    | none =>
        rw [hp, Option.none_or] at hlast
        rw [hcurrent f hp, h f v hlast]
    | some w =>
        rw [hp, Option.some_or] at hlast
        rw [hset f w hp, Option.some.inj hlast]

end Patch

end InfoVulcan
