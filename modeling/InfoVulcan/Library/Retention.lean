import Mathlib

/-!
# Retention

A record with soft delete is created, updated and deleted, and a deletion only sets a flag. The
record is seen through a view of the state of a machine, and each event acts on it in some way
(`RecordAction`). Deletions are permanent along a run, and the record keeps what was last written
to it, exactly when no event creates the record while it is deleted (`deletionsPermanent_iff`).
-/

namespace InfoVulcan

/-- What one event does to a record. -/
inductive RecordAction (C : Type) where
  | create (content : C)
  | update (content : C)
  | delete
  | other

/-- A record, live or deleted. -/
structure SoftRecord (C : Type) where
  content : C
  deleted : Bool

namespace RecordAction

variable {C : Type}

/-- The record after an action. -/
def apply (action : RecordAction C) (record : Option (SoftRecord C)) : Option (SoftRecord C) :=
  match action with
  | .create content => some { content, deleted := false }
  | .update content => record.map ({ · with content := content })
  | .delete => record.map ({ · with deleted := true })
  | .other => record

/-- The content an action writes. -/
def content? : RecordAction C → Option C
  | .create content => some content
  | .update content => some content
  | .delete => none
  | .other => none

/-- An action that does not create a deleted record leaves it deleted. -/
theorem apply_deleted {action : RecordAction C} (h : ∀ content, action ≠ .create content)
    (content : C) :
    action.apply (some ⟨content, true⟩) = some ⟨action.content?.getD content, true⟩ := by
  cases action with
  | create content => exact absurd rfl (h content)
  | update content => rfl
  | delete => rfl
  | other => rfl

end RecordAction

namespace Retention

variable {σ ε C : Type} (step : σ → ε → σ) (action : σ → ε → RecordAction C)
  (view : σ → Option (SoftRecord C)) (start : σ)

/-- The content last written to the record along a run. -/
def lastContent (s : σ) : List ε → Option C
  | [] => none
  | e :: events => (lastContent (step s e) events).or (action s e).content?

/-- The record is absent at first, and each event acts on it as `action` says. -/
structure Tracks (events : List ε) : Prop where
  absent : view start = none
  acts : ∀ pre e, pre ++ [e] <+: events →
    view (step (pre.foldl step start) e) =
      (action (pre.foldl step start) e).apply (view (pre.foldl step start))

/-- Every deletion that finds the record lasts: from then on the record is there, deleted, with
the content last written to it. -/
def DeletionsPermanent (events : List ε) : Prop :=
  ∀ pre e mid, pre ++ e :: mid <+: events →
    action (pre.foldl step start) e = .delete → (view (pre.foldl step start)).isSome →
      ∃ content, lastContent step action start (pre ++ e :: mid) = some content ∧
        view ((pre ++ e :: mid).foldl step start) = some ⟨content, true⟩

/-- No event creates the record while it is deleted. -/
def NeverRecreated (events : List ε) : Prop :=
  ∀ pre e, pre ++ [e] <+: events → ∀ content, action (pre.foldl step start) e = .create content →
    ∀ record, view (pre.foldl step start) = some record → record.deleted = false

variable {step action view start}

theorem lastContent_concat (s : σ) (events : List ε) (e : ε) :
    lastContent step action s (events ++ [e]) =
      (action (events.foldl step s) e).content?.or (lastContent step action s events) := by
  induction events generalizing s with
  | nil => simp [lastContent]
  | cons d events ih => rw [List.cons_append, lastContent, ih, lastContent, List.foldl_cons,
      Option.or_assoc]

variable {events : List ε}

namespace Tracks

theorem of_prefix {pre : List ε} (h : Tracks step action view start events)
    (hpre : pre <+: events) : Tracks step action view start pre where
  absent := h.absent
  acts pre' e hupto := h.acts pre' e (hupto.trans hpre)

theorem view_start (h : Tracks step action view start events) (record : SoftRecord C) :
    view start ≠ some record := by
  rw [h.absent]
  exact fun hview => by cases hview

/-- Where a record that is there after an event comes from. -/
theorem view_concat {e : ε} (h : Tracks step action view start (events ++ [e]))
    {record : SoftRecord C} (hview : view ((events ++ [e]).foldl step start) = some record) :
    (∃ content, action (events.foldl step start) e = .create content ∧
      record = ⟨content, false⟩) ∨
    ∃ old, view (events.foldl step start) = some old ∧
      (action (events.foldl step start) e).content?.or (some old.content) = some record.content ∧
      (record.deleted = old.deleted ∨ action (events.foldl step start) e = .delete) := by
  have hact := h.acts events e List.prefix_rfl
  rw [← List.foldl_concat step start e, hview] at hact
  cases haction : action (events.foldl step start) e with
  | create content =>
      rw [haction] at hact
      cases hact
      exact .inl ⟨content, rfl, rfl⟩
  | update content =>
      rw [haction, RecordAction.apply, eq_comm, Option.map_eq_some_iff] at hact
      obtain ⟨old, hold, rfl⟩ := hact
      exact .inr ⟨old, hold, rfl, .inl rfl⟩
  | delete =>
      rw [haction, RecordAction.apply, eq_comm, Option.map_eq_some_iff] at hact
      obtain ⟨old, hold, rfl⟩ := hact
      exact .inr ⟨old, hold, rfl, .inr rfl⟩
  | other =>
      rw [haction] at hact
      exact .inr ⟨record, hact.symm, rfl, .inl rfl⟩

/-- A record that is there has the content last written to it. -/
theorem lastContent_eq (h : Tracks step action view start events) {record : SoftRecord C}
    (hview : view (events.foldl step start) = some record) :
    lastContent step action start events = some record.content := by
  induction events using List.reverseRecOn generalizing record with
  | nil => exact absurd hview (h.view_start record)
  | append_singleton events e ih =>
      rw [lastContent_concat]
      rcases h.view_concat hview with ⟨content, hcreate, rfl⟩ | ⟨old, hold, hcontent, -⟩
      · rw [hcreate]
        rfl
      · rw [ih (h.of_prefix (List.prefix_append _ _)) hold, hcontent]

/-- A record is deleted only because an event has deleted it. -/
theorem exists_deletion (h : Tracks step action view start events) {record : SoftRecord C}
    (hview : view (events.foldl step start) = some record) (hdeleted : record.deleted = true) :
    ∃ pre e mid, events = pre ++ e :: mid ∧ action (pre.foldl step start) e = .delete ∧
      (view (pre.foldl step start)).isSome := by
  induction events using List.reverseRecOn generalizing record with
  | nil => exact absurd hview (h.view_start record)
  | append_singleton events e ih =>
      rcases h.view_concat hview with ⟨content, -, rfl⟩ | ⟨old, hold, -, hsame | hdelete⟩
      · cases hdeleted
      · obtain ⟨pre, d, mid, hsplit, hdelete, hpresent⟩ :=
          ih (h.of_prefix (List.prefix_append _ _)) hold (hsame.symm.trans hdeleted)
        exact ⟨pre, d, mid ++ [e], by rw [hsplit]; simp, hdelete, hpresent⟩
      · exact ⟨events, e, [], rfl, hdelete, by rw [hold]; rfl⟩

/-- A deleted record stays deleted as long as nothing creates it. -/
theorem stays_deleted {pre : List ε} {e : ε} {mid : List ε}
    (h : Tracks step action view start (pre ++ e :: mid))
    (hnever : NeverRecreated step action view start (pre ++ e :: mid))
    (hdelete : action (pre.foldl step start) e = .delete)
    (hpresent : (view (pre.foldl step start)).isSome) :
    ∃ content, view ((pre ++ e :: mid).foldl step start) = some ⟨content, true⟩ := by
  induction mid using List.reverseRecOn with
  | nil =>
      obtain ⟨old, hold⟩ := Option.isSome_iff_exists.mp hpresent
      refine ⟨old.content, ?_⟩
      rw [List.foldl_concat, h.acts pre e List.prefix_rfl, hdelete, hold]
      rfl
  | append_singleton mid d ih =>
      rw [← List.cons_append, ← List.append_assoc] at h hnever ⊢
      have hupto : pre ++ e :: mid <+: pre ++ e :: mid ++ [d] := List.prefix_append _ _
      obtain ⟨content, hcontent⟩ := ih (h.of_prefix hupto)
        fun pre' d' hpre' => hnever pre' d' (hpre'.trans hupto)
      refine ⟨(action ((pre ++ e :: mid).foldl step start) d).content?.getD content, ?_⟩
      rw [List.foldl_concat, h.acts _ d List.prefix_rfl, hcontent]
      refine RecordAction.apply_deleted (fun created hcreate => ?_) content
      cases hnever _ d List.prefix_rfl created hcreate _ hcontent

end Tracks

/-- Deletions are permanent along a run exactly when no event of it creates the record while it is
deleted. -/
theorem deletionsPermanent_iff (h : Tracks step action view start events) :
    DeletionsPermanent step action view start events ↔
      NeverRecreated step action view start events := by
  constructor
  case mp =>
    intro hpermanent pre e hupto content hcreate record hrecord
    by_contra hdeleted
    have hpre : pre <+: events := (List.prefix_append _ _).trans hupto
    obtain ⟨pre', d, mid, rfl, hdelete, hpresent⟩ :=
      (h.of_prefix hpre).exists_deletion hrecord (by simpa using hdeleted)
    obtain ⟨kept, -, hkept⟩ := hpermanent pre' d (mid ++ [e])
      (by simpa using hupto) hdelete hpresent
    have hcreated := h.acts _ e hupto
    rw [← List.foldl_concat step start e, List.append_assoc, List.cons_append, hkept,
      hcreate] at hcreated
    cases hcreated
  case mpr =>
    intro hnever pre e mid hupto hdelete hpresent
    have htracks := h.of_prefix hupto
    obtain ⟨content, hcontent⟩ := htracks.stays_deleted
      (fun pre' d hpre' => hnever pre' d (hpre'.trans hupto)) hdelete hpresent
    exact ⟨content, htracks.lastContent_eq hcontent, hcontent⟩

end Retention

end InfoVulcan
