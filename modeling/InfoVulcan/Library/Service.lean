import InfoVulcan.Library.Machine

/-!
# Services and their specifications

A service answers requests one after another and changes its state on the way. A `Specification`
says on states of its own which replies to a request are right and which state comes next.
`Specification.explains_serve` packages the induction that a service whose every step is right
answers every list of requests rightly.
-/

namespace InfoVulcan

variable {σ β ρ α : Type}

/-- The replies of a service to a list of requests, in order, and the state it is left in. -/
def serve (handle : σ → ρ → α × σ) (s : σ) : List ρ → List α × σ
  | [] => ([], s)
  | req :: reqs =>
      let answered := handle s req
      let others := serve handle answered.2 reqs
      (answered.1 :: others.1, others.2)

/-- Requests that come after others are answered in the state those leave. -/
theorem serve_append (handle : σ → ρ → α × σ) (s : σ) (xs ys : List ρ) :
    serve handle s (xs ++ ys) =
      ((serve handle s xs).1 ++ (serve handle (serve handle s xs).2 ys).1,
        (serve handle (serve handle s xs).2 ys).2) := by
  induction xs generalizing s with
  | nil => rfl
  | cons x xs ih =>
      simp only [List.cons_append, serve, ih]

/-- What a service is for: the replies to a request that are right in a state, and the state after
the request. -/
structure Specification (β ρ α : Type) where
  permits : β → ρ → α → Prop
  after : β → ρ → β

namespace Specification

variable (spec : Specification β ρ α)

/-- There is one reply to each request, and it is right in the state the earlier requests leave. -/
def Explains (b : β) : List ρ → List α → Prop
  | [], [] => True
  | req :: reqs, reply :: replies =>
      spec.permits b req reply ∧ Explains (spec.after b req) reqs replies
  | _, _ => False

end Specification

/-- A side condition that is met throughout is met at the first event and throughout the others. -/
theorem Throughout.cons_iff {step : σ → ρ → σ} {ok : σ → ρ → Prop} {s : σ} {e : ρ}
    {events : List ρ} :
    Throughout step ok s (e :: events) ↔ ok s e ∧ Throughout step ok (step s e) events := by
  constructor
  case mp =>
    intro h
    refine ⟨h [] e (by simp), fun pre d hpre => ?_⟩
    exact h (e :: pre) d (List.cons_prefix_cons.mpr ⟨rfl, hpre⟩)
  case mpr =>
    rintro ⟨hfirst, hrest⟩ pre d hpre
    cases pre with
    | nil =>
        obtain ⟨rfl, -⟩ := List.cons_prefix_cons.mp hpre
        exact hfirst
    | cons c pre =>
        obtain ⟨rfl, htail⟩ := List.cons_prefix_cons.mp hpre
        exact hrest pre d htail

/-- A service each of whose steps is right answers every list of requests rightly. -/
theorem Specification.explains_serve {spec : Specification β ρ α} {handle : σ → ρ → α × σ}
    {R : β → σ → Prop} (ok : β → ρ → Prop)
    (hstep : ∀ {b s req}, R b s → ok b req →
      spec.permits b req (handle s req).1 ∧ R (spec.after b req) (handle s req).2)
    {b : β} {s : σ} {reqs : List ρ} (hstart : R b s) (hok : Throughout spec.after ok b reqs) :
    spec.Explains b reqs (serve handle s reqs).1 ∧
      R (reqs.foldl spec.after b) (serve handle s reqs).2 := by
  induction reqs generalizing b s with
  | nil => exact ⟨trivial, hstart⟩
  | cons req reqs ih =>
      obtain ⟨hfirst, hrest⟩ := Throughout.cons_iff.mp hok
      obtain ⟨hpermits, hnext⟩ := hstep hstart hfirst
      obtain ⟨hexplains, hend⟩ := ih hnext hrest
      exact ⟨⟨hpermits, hexplains⟩, hend⟩

end InfoVulcan
