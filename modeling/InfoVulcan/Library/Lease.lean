import Mathlib

/-!
# Exclusive leases

A table of leases maps a resource to the grant recorded for it. `acquire` is refused while
somebody else's unexpired grant stands; `release` is refused to anyone but the holder.
`closes p r g` collects the commands that may end the grant `g` on `r`: the holder's own commands
and, once `g` has expired at the command's time, an acquisition by anybody. The two results about
runs are

* `run_keeps`: while no command closes a grant, the grant stands and every other command on the
  resource is refused, and
* `held_origin`: a grant found in the table was put there by a successful acquisition that nothing
  has closed since.

Time is any type; no order of timestamps is assumed between commands.
-/

namespace InfoVulcan.Lease

variable {ρ υ α τ : Type}

/-- How a grant names its holder and when it has expired. -/
structure Policy (υ α τ : Type) where
  holder : α → υ
  expired : α → τ → Bool

/-- A request to take a resource with the given grant, or to give it back. -/
inductive Command (ρ υ α τ : Type) where
  | acquire (resource : ρ) (grant : α) (now : τ)
  | release (resource : ρ) (user : υ)

/-- The grants on record. -/
abbrev Table (ρ α : Type) := ρ → Option α

namespace Command

/-- The resource a command is about. -/
def resource : Command ρ υ α τ → ρ
  | .acquire r _ _ => r
  | .release r _ => r

/-- The user who issues a command. -/
def user (p : Policy υ α τ) : Command ρ υ α τ → υ
  | .acquire _ g _ => p.holder g
  | .release _ u => u

/-- What a command records when it succeeds. -/
def grant : Command ρ υ α τ → Option α
  | .acquire _ g _ => some g
  | .release _ _ => none

end Command

variable [DecidableEq ρ] [DecidableEq υ]

/-- One command: whether it succeeds, and the table it leaves. -/
def step (p : Policy υ α τ) (table : Table ρ α) : Command ρ υ α τ → Bool × Table ρ α
  | .acquire r grant now =>
      match table r with
      | some held =>
          if p.holder held ≠ p.holder grant ∧ p.expired held now = false then (false, table)
          else (true, Function.update table r (some grant))
      | none => (true, Function.update table r (some grant))
  | .release r user =>
      match table r with
      | some held =>
          if p.holder held ≠ user then (false, table)
          else (true, Function.update table r none)
      | none => (true, Function.update table r none)

/-- The table after a list of commands. -/
def run (p : Policy υ α τ) (table : Table ρ α) (log : List (Command ρ υ α τ)) : Table ρ α :=
  log.foldl (fun t c => (step p t c).2) table

/-- The commands that may end the grant `g` on `r`. -/
def closes (p : Policy υ α τ) (r : ρ) (g : α) : Command ρ υ α τ → Prop
  | .acquire r' g' now => r' = r ∧ (p.holder g' = p.holder g ∨ p.expired g now = true)
  | .release r' user => r' = r ∧ user = p.holder g

theorem run_cons (p : Policy υ α τ) (table : Table ρ α) (c : Command ρ υ α τ)
    (log : List (Command ρ υ α τ)) : run p table (c :: log) = run p (step p table c).2 log := rfl

variable {p : Policy υ α τ} {table : Table ρ α} {r : ρ} {g : α}

/-- What a command can do: be refused by a standing grant of somebody else and change nothing, or
succeed and rewrite its own resource. -/
theorem step_cases (p : Policy υ α τ) (table : Table ρ α) (c : Command ρ υ α τ) :
    (step p table c = (false, table) ∧ ∃ held, table c.resource = some held ∧
        p.holder held ≠ c.user p ∧ ¬ closes p c.resource held c) ∨
      ((step p table c).1 = true ∧
        (∀ held, table c.resource = some held → closes p c.resource held c) ∧
        ∃ grant, (step p table c).2 = Function.update table c.resource grant ∧
          (∀ g, grant = some g → ∃ now, c = .acquire c.resource g now)) := by
  cases c with
  | acquire r grant now =>
      cases hr : table r with
      | none =>
          refine .inr ⟨by simp [step, hr], ?_, some grant, by simp [step, hr, Command.resource],
            ?_⟩
          · intro held hheld
            rw [Command.resource, hr] at hheld
            cases hheld
          · rintro g ⟨⟩
            exact ⟨now, rfl⟩
      | some held =>
          by_cases hrefuse : p.holder held ≠ p.holder grant ∧ p.expired held now = false
          · refine .inl ⟨by simp [step, hr, hrefuse], held, hr, hrefuse.1, ?_⟩
            rintro ⟨-, hc | hc⟩
            · exact hrefuse.1 hc.symm
            · simp [hrefuse.2] at hc
          · refine .inr ⟨by simp only [step, hr, if_neg hrefuse], ?_, some grant,
              by simp only [step, hr, if_neg hrefuse]; rfl, ?_⟩
            · intro held' hheld
              obtain rfl : held = held' := Option.some.inj (hr.symm.trans hheld)
              refine ⟨rfl, ?_⟩
              by_cases hh : p.holder held = p.holder grant
              · exact .inl hh.symm
              · exact .inr (by simpa using fun he => hrefuse ⟨hh, he⟩)
            · rintro g ⟨⟩
              exact ⟨now, rfl⟩
  | release r user =>
      cases hr : table r with
      | none =>
          refine .inr ⟨by simp [step, hr], ?_, none, by simp [step, hr, Command.resource], ?_⟩
          · intro held hheld
            rw [Command.resource, hr] at hheld
            cases hheld
          · rintro g ⟨⟩
      | some held =>
          by_cases hrefuse : p.holder held ≠ user
          · refine .inl ⟨by simp [step, hr, hrefuse], held, hr, hrefuse, ?_⟩
            rintro ⟨-, hc⟩
            exact hrefuse hc.symm
          · refine .inr ⟨by simp only [step, hr, if_neg hrefuse], ?_, none,
              by simp only [step, hr, if_neg hrefuse]; rfl, ?_⟩
            · intro held' hheld
              obtain rfl : held = held' := Option.some.inj (hr.symm.trans hheld)
              exact ⟨rfl, (not_not.mp hrefuse).symm⟩
            · rintro g ⟨⟩

/-- A successful acquisition is on record. -/
theorem step_granted {now : τ} (h : (step p table (.acquire r g now)).1 = true) :
    (step p table (.acquire r g now)).2 r = some g := by
  cases hr : table r with
  | none => simp [step, hr]
  | some held =>
      simp only [step, hr] at h ⊢
      split at h
      case isTrue => cases h
      case isFalse hnot =>
          rw [if_neg hnot]
          exact Function.update_self r _ table

/-- A command that does not close a standing grant leaves it in place, and is refused when it is
about the same resource. -/
theorem step_keeps (hheld : table r = some g) {c : Command ρ υ α τ} (hc : ¬ closes p r g c) :
    (step p table c).2 r = some g ∧ (c.resource = r → (step p table c).1 = false) := by
  rcases step_cases p table c with ⟨hstep, -⟩ | ⟨-, hcloses, grant, hnext, -⟩
  · rw [hstep]
    exact ⟨hheld, fun _ => rfl⟩
  · have hne : c.resource ≠ r := by
      rintro rfl
      exact hc (hcloses g hheld)
    rw [hnext, Function.update_of_ne hne.symm]
    exact ⟨hheld, fun h => absurd h hne⟩

/-- A grant stands as long as no command closes it. -/
theorem run_keeps {log : List (Command ρ υ α τ)} (hheld : table r = some g)
    (hlog : ∀ c ∈ log, ¬ closes p r g c) : run p table log r = some g := by
  induction log generalizing table with
  | nil => exact hheld
  | cons c log ih =>
      exact ih (step_keeps hheld (hlog c List.mem_cons_self)).1
        fun d hd => hlog d (List.mem_cons_of_mem _ hd)

theorem run_append (p : Policy υ α τ) (table : Table ρ α) (xs ys : List (Command ρ υ α τ)) :
    run p table (xs ++ ys) = run p (run p table xs) ys :=
  List.foldl_append

/-- A grant in the table was put there by a successful acquisition that nothing closed since. -/
theorem held_origin {log : List (Command ρ υ α τ)} (h : run p (fun _ => none) log r = some g) :
    ∃ pre now mid, log = pre ++ .acquire r g now :: mid ∧
      (step p (run p (fun _ => none) pre) (.acquire r g now)).1 = true ∧
      ∀ c ∈ mid, ¬ closes p r g c := by
  induction log using List.reverseRecOn with
  | nil => cases h
  | append_singleton log c ih =>
      rw [run_append] at h
      change (step p (run p (fun _ => none) log) c).2 r = some g at h
      -- Either the last command is the acquisition, or the grant stood before it already.
      have hkept : run p (fun _ => none) log r = some g → ¬ closes p r g c →
          ∃ pre now mid, log ++ [c] = pre ++ .acquire r g now :: mid ∧
            (step p (run p (fun _ => none) pre) (.acquire r g now)).1 = true ∧
            ∀ d ∈ mid, ¬ closes p r g d := by
        intro hbefore hc
        obtain ⟨pre, now, mid, rfl, hsucc, hmid⟩ := ih hbefore
        refine ⟨pre, now, mid ++ [c], by simp, hsucc, fun d hd => ?_⟩
        rcases List.mem_append.mp hd with hd | hd
        · exact hmid d hd
        · rw [List.mem_singleton.mp hd]
          exact hc
      rcases step_cases p (run p (fun _ => none) log) c with
        ⟨hstep, held, hheld, -, hc⟩ | ⟨hsucc, -, grant, hnext, hgrant⟩
      · rw [hstep] at h
        refine hkept h fun hclose => ?_
        have hr : c.resource = r := by cases c <;> exact hclose.1
        obtain rfl : held = g := Option.some.inj (hheld.symm.trans (hr ▸ h))
        exact hc (hr ▸ hclose)
      · by_cases hr : c.resource = r
        · rw [hnext, hr, Function.update_self] at h
          obtain ⟨now, hacq⟩ := hgrant g h
          rw [hr] at hacq
          exact ⟨log, now, [], by rw [hacq], hacq ▸ hsucc, by simp⟩
        · rw [hnext, Function.update_of_ne (Ne.symm hr)] at h
          refine hkept h fun hclose => hr ?_
          cases c <;> exact hclose.1

/-- A refused command is about a resource on which somebody else's grant stands, which it does
not close. -/
theorem refused_cause {c : Command ρ υ α τ} (h : (step p table c).1 = false) :
    ∃ held, table c.resource = some held ∧ p.holder held ≠ c.user p ∧
      ¬ closes p c.resource held c := by
  rcases step_cases p table c with ⟨-, hheld⟩ | ⟨hsucc, -⟩
  · exact hheld
  · rw [hsucc] at h
    cases h

/-! ## Two tables -/

/-- The grant that stands in the way of a command, if it is refused. -/
def refusal (p : Policy υ α τ) (table : Table ρ α) (c : Command ρ υ α τ) : Option α :=
  if (step p table c).1 then none else table c.resource

/-- The refusals of a list of commands. -/
def refusals (p : Policy υ α τ) (table : Table ρ α) :
    List (Command ρ υ α τ) → List (Option α)
  | [] => []
  | c :: log => refusal p table c :: refusals p (step p table c).2 log

/-- The resource of a command is free, or under a grant that the command may end. -/
def Permits (p : Policy υ α τ) (table : Table ρ α) (c : Command ρ υ α τ) : Prop :=
  ∀ held, table c.resource = some held → closes p c.resource held c

/-- A command succeeds when nothing stands in its way. -/
theorem step_accepted_iff {c : Command ρ υ α τ} :
    (step p table c).1 = true ↔ Permits p table c := by
  rcases step_cases p table c with ⟨hstep, held, hheld, -, hc⟩ | ⟨hsucc, hcloses, -⟩
  · rw [hstep]
    exact ⟨fun h => absurd h Bool.false_ne_true, fun h => absurd (h held hheld) hc⟩
  · exact ⟨fun _ => hcloses, fun _ => hsucc⟩

/-- A permitted command rewrites its own resource. -/
theorem step_of_permits {c : Command ρ υ α τ} (h : Permits p table c) :
    step p table c = (true, Function.update table c.resource c.grant) := by
  cases c with
  | acquire r grant now =>
      simp only [step]
      cases hr : table r with
      | none => rfl
      | some held =>
          refine if_neg fun hrefuse => ?_
          rcases (h held hr).2 with hholder | hexpired
          · exact hrefuse.1 hholder.symm
          · rw [hrefuse.2] at hexpired
            cases hexpired
  | release r user =>
      simp only [step]
      cases hr : table r with
      | none => rfl
      | some held => exact if_neg fun hrefuse => hrefuse (h held hr).2.symm

/-- A permitted command is not refused. -/
theorem refusal_eq_none {c : Command ρ υ α τ} (h : Permits p table c) :
    refusal p table c = none :=
  if_pos (step_accepted_iff.mpr h)

/-- Only a permitted command is not refused. -/
theorem permits_of_refusal {c : Command ρ υ α τ} (h : (refusal p table c).isNone) :
    Permits p table c := by
  by_contra hnot
  obtain ⟨held, hheld, -⟩ := not_forall₂.mp hnot
  have hflag := mt step_accepted_iff.mp hnot
  rw [refusal, if_neg hflag, hheld] at h
  cases h

/-- A command does not touch other resources. -/
theorem step_of_ne {c : Command ρ υ α τ} (h : c.resource ≠ r) :
    (step p table c).2 r = table r := by
  rcases step_cases p table c with ⟨hstep, -⟩ | ⟨-, -, grant, hnext, -⟩
  · rw [hstep]
  · rw [hnext, Function.update_of_ne h.symm]

/-- What a command does to its resource depends on the grant recorded there alone. -/
theorem step_congr {table' : Table ρ α} {c : Command ρ υ α τ}
    (h : table c.resource = table' c.resource) :
    (step p table c).1 = (step p table' c).1 ∧
      (step p table c).2 c.resource = (step p table' c).2 c.resource := by
  cases c with
  | acquire r grant now =>
      simp only [Command.resource] at h ⊢
      simp only [step, ← h]
      cases hr : table r with
      | none => simp
      | some held =>
          by_cases hrefuse : p.holder held ≠ p.holder grant ∧ p.expired held now = false
          · simp only [if_pos hrefuse, ← h, and_self]
          · simp only [if_neg hrefuse, Function.update_self, and_self]
  | release r user =>
      simp only [Command.resource] at h ⊢
      simp only [step, ← h]
      cases hr : table r with
      | none => simp
      | some held =>
          by_cases hrefuse : p.holder held ≠ user
          · simp only [if_pos hrefuse, ← h, and_self]
          · simp only [if_neg hrefuse, Function.update_self, and_self]

/-- A log does to a resource what the grant recorded there at the start decides. -/
theorem run_congr {table' : Table ρ α} (h : table r = table' r) (log : List (Command ρ υ α τ)) :
    run p table log r = run p table' log r := by
  induction log generalizing table table' with
  | nil => exact h
  | cons c log ih =>
      refine ih ?_
      show (step p table c).2 r = (step p table' c).2 r
      by_cases hc : c.resource = r
      · subst hc
        exact (step_congr h).2
      · rw [step_of_ne hc, step_of_ne hc, h]

/-- A grant in the table was there at the start or has been asked for. -/
theorem run_origin {log : List (Command ρ υ α τ)} (h : run p table log r = some g) :
    table r = some g ∨ ∃ now, .acquire r g now ∈ log := by
  induction log generalizing table with
  | nil => exact .inl h
  | cons c log ih =>
      rcases ih h with hbefore | ⟨now, hmem⟩
      · change (step p table c).2 r = some g at hbefore
        rcases step_cases p table c with ⟨hstep, -⟩ | ⟨-, -, grant, hnext, hgrant⟩
        · rw [hstep] at hbefore
          exact .inl hbefore
        · by_cases hr : c.resource = r
          · rw [hnext, hr, Function.update_self] at hbefore
            obtain ⟨now, hacquire⟩ := hgrant g hbefore
            exact .inr ⟨now, by rw [← hr, ← hacquire]; exact List.mem_cons_self⟩
          · rw [hnext, Function.update_of_ne (Ne.symm hr)] at hbefore
            exact .inl hbefore
      · exact .inr ⟨now, List.mem_cons_of_mem _ hmem⟩

/-! ## A second run of a log on its own result -/

/-- The acquisition after `pre` is the one whose grant is on record after the log. -/
structure Grants (p : Policy υ α τ) (log pre : List (Command ρ υ α τ)) (r : ρ) (g : α) (now : τ) :
    Prop where
  split : ∃ post, log = pre ++ .acquire r g now :: post ∧ ∀ c ∈ post, ¬ closes p r g c
  held : run p (fun _ => none) log r = some g

/-- Every grant on record after the log is given again when the log runs on that record. -/
def Regranted (p : Policy υ α τ) (log : List (Command ρ υ α τ)) : Prop :=
  ∀ pre r g now, Grants p log pre r g now →
    Permits p (run p (run p (fun _ => none) log) pre) (.acquire r g now)

/-- Every grant on record has an acquisition that gave it. -/
theorem exists_grants {log : List (Command ρ υ α τ)} (h : run p (fun _ => none) log r = some g) :
    ∃ pre now, Grants p log pre r g now := by
  obtain ⟨pre, now, post, hlog, -, hpost⟩ := held_origin h
  exact ⟨pre, now, ⟨post, hlog, hpost⟩, h⟩

/-- A grant that is given again stands at the end of the second run too. -/
theorem Grants.run_eq {log pre : List (Command ρ υ α τ)} {now : τ} (h : Grants p log pre r g now)
    (hpermits : Permits p (run p table pre) (.acquire r g now)) :
    run p table log r = some g := by
  obtain ⟨post, rfl, hpost⟩ := h.split
  rw [run_append, run_cons]
  exact run_keeps (step_granted (step_accepted_iff.mpr hpermits)) hpost

/-- A grant that is not given again leaves the resource to somebody else. -/
theorem Grants.holder_ne {log pre : List (Command ρ υ α τ)} {now : τ}
    (h : Grants p log pre r g now)
    (hrefused : ¬ Permits p (run p table pre) (.acquire r g now)) {g' : α}
    (hafter : run p table log r = some g') : p.holder g' ≠ p.holder g := by
  obtain ⟨post, rfl, hpost⟩ := h.split
  rw [run_append, run_cons] at hafter
  rcases step_cases p (run p table pre) (.acquire r g now) with
    ⟨hstep, held, hheld, huser, -⟩ | ⟨hsucc, -⟩
  · rw [hstep] at hafter
    rcases run_origin hafter with hsame | ⟨now', hmem⟩
    · obtain rfl := Option.some.inj (hheld.symm.trans hsame)
      exact huser
    · exact fun heq => hpost _ hmem ⟨rfl, .inl heq⟩
  · exact absurd (step_accepted_iff.mp hsucc) hrefused

/-- A log whose grants are given again changes nothing on its own result. -/
theorem Regranted.run_eq {log : List (Command ρ υ α τ)} (h : Regranted p log) :
    run p (run p (fun _ => none) log) log = run p (fun _ => none) log := by
  funext r
  cases hr : run p (fun _ => none) log r with
  | none =>
      have hfree : run p (fun _ => none) log r = (fun _ : ρ => (none : Option α)) r := hr
      exact (run_congr hfree log).trans hr
  | some g =>
      obtain ⟨pre, now, hgrants⟩ := exists_grants hr
      exact hgrants.run_eq (h pre r g now hgrants)

/-- Only a log whose grants are given again leaves every resource to the same holder. -/
theorem regranted_of_holders {log : List (Command ρ υ α τ)}
    (h : ∀ r, (run p (run p (fun _ => none) log) log r).map p.holder =
      (run p (fun _ => none) log r).map p.holder) : Regranted p log := by
  intro pre r g now hgrants
  by_contra hrefused
  have hsame := h r
  rw [hgrants.held, Option.map_some, Option.map_eq_some_iff] at hsame
  obtain ⟨g', hafter, hholder⟩ := hsame
  exact hgrants.holder_ne hrefused hafter hholder

/-! ## A table with stale grants -/

/-- The first command on each resource with a stale grant may end that grant. -/
def StaleEnded (p : Policy υ α τ) (current stale : Table ρ α) (log : List (Command ρ υ α τ)) :
    Prop :=
  ∀ r g, current r = none → stale r = some g →
    ∃ c, log.find? (fun c => decide (c.resource = r)) = some c ∧ closes p r g c

variable {current stale : Table ρ α} {c : Command ρ υ α τ} {log : List (Command ρ υ α τ)}

omit [DecidableEq ρ] in
/-- On a table that has every current grant, the resource of a command is up to date, or free with
a stale grant on it. -/
theorem current_or_stale (hstale : ∀ r g, current r = some g → stale r = some g) (r : ρ) :
    stale r = current r ∨ current r = none ∧ ∃ g, stale r = some g := by
  cases hcurrent : current r with
  | some g => exact .inl (hstale r g hcurrent)
  | none =>
      cases stale r with
      | none => exact .inl rfl
      | some g => exact .inr ⟨rfl, g, rfl⟩

/-- A command that is permitted on both tables, or finds the same grant on both, is answered alike
and leaves the same grant. -/
theorem step_catches_up (hc : stale c.resource = current c.resource ∨
      Permits p current c ∧ Permits p stale c) :
    refusal p stale c = refusal p current c ∧
      (step p stale c).2 c.resource = (step p current c).2 c.resource := by
  rcases hc with hsame | ⟨hcurrent, hpermits⟩
  · obtain ⟨hflag, hnext⟩ := step_congr (p := p) hsame
    rw [refusal, refusal, hflag, hsame]
    exact ⟨rfl, hnext⟩
  · rw [refusal_eq_none hcurrent, refusal_eq_none hpermits, step_of_permits hcurrent,
      step_of_permits hpermits]
    simp

/-- A step that puts its own resource right leaves the stale grants on the others. -/
theorem staleEnded_cons
    (hc : stale c.resource = current c.resource ∨ Permits p stale c)
    (hnext : (step p stale c).2 c.resource = (step p current c).2 c.resource) :
    StaleEnded p current stale (c :: log) ↔
      StaleEnded p (step p current c).2 (step p stale c).2 log := by
  refine forall₂_congr fun r g => ?_
  by_cases hr : c.resource = r
  · subst hr
    constructor
    · intro _ hnone hsome
      rw [hnext, hnone] at hsome
      cases hsome
    · intro _ hnone hsome
      refine ⟨c, List.find?_cons_of_pos (by simp), ?_⟩
      rcases hc with hsame | hpermits
      · rw [hsame, hnone] at hsome
        cases hsome
      · exact hpermits g hsome
  · rw [step_of_ne hr, step_of_ne hr, List.find?_cons_of_neg (by simpa using hr)]

/-- Every current grant is still on the table after a step that puts its own resource right. -/
theorem stale_step (hstale : ∀ r g, current r = some g → stale r = some g)
    (hnext : (step p stale c).2 c.resource = (step p current c).2 c.resource) (r : ρ) (g : α)
    (h : (step p current c).2 r = some g) : (step p stale c).2 r = some g := by
  by_cases hr : c.resource = r
  · subst hr
    rw [hnext, h]
  · rw [step_of_ne hr] at h ⊢
    exact hstale r g h

/-- Once the first commands have ended the stale grants, the tables and the answers agree. -/
theorem agree_of_staleEnded (hstale : ∀ r g, current r = some g → stale r = some g)
    (hended : StaleEnded p current stale log) :
    refusals p stale log = refusals p current log ∧ run p stale log = run p current log := by
  induction log generalizing current stale with
  | nil =>
      refine ⟨rfl, funext fun r => ?_⟩
      rcases current_or_stale hstale r with hsame | ⟨hnone, g, hsome⟩
      · exact hsame
      · obtain ⟨c, hfind, -⟩ := hended r g hnone hsome
        cases hfind
  | cons c log ih =>
      have hc : stale c.resource = current c.resource ∨
          Permits p current c ∧ Permits p stale c := by
        refine (current_or_stale hstale c.resource).imp_right ?_
        rintro ⟨hnone, g, hsome⟩
        obtain ⟨c', hfind, hcloses⟩ := hended c.resource g hnone hsome
        rw [List.find?_cons_of_pos (by simp)] at hfind
        obtain rfl := Option.some.inj hfind
        refine ⟨fun held hheld => ?_, fun held hheld => ?_⟩
        · rw [hnone] at hheld
          cases hheld
        · obtain rfl := Option.some.inj (hsome.symm.trans hheld)
          exact hcloses
      obtain ⟨hrefusal, hnext⟩ := step_catches_up hc
      obtain ⟨hrest, hrun⟩ := ih (stale_step hstale hnext)
        ((staleEnded_cons (hc.imp_right And.right) hnext).mp hended)
      exact ⟨by rw [refusals, refusals, hrefusal, hrest], hrun⟩

/-- Tables on which the same commands are refused, and which end up the same, had their stale
grants ended by the first commands. -/
theorem staleEnded_of_agree (hstale : ∀ r g, current r = some g → stale r = some g)
    (hrefused : (refusals p stale log).map Option.isSome =
      (refusals p current log).map Option.isSome)
    (hrun : run p stale log = run p current log) : StaleEnded p current stale log := by
  induction log generalizing current stale with
  | nil =>
      intro r g hnone hsome
      have hsame : stale r = current r := congrFun hrun r
      rw [hsame, hnone] at hsome
      cases hsome
  | cons c log ih =>
      obtain ⟨hfirst, hrest⟩ := List.cons.inj hrefused
      have hc : stale c.resource = current c.resource ∨
          Permits p current c ∧ Permits p stale c := by
        refine (current_or_stale hstale c.resource).imp_right ?_
        rintro ⟨hnone, -⟩
        have hcurrent : Permits p current c := fun held hheld => by
          rw [hnone] at hheld
          cases hheld
        rw [refusal_eq_none hcurrent] at hfirst
        exact ⟨hcurrent, permits_of_refusal (Option.isSome_eq_false_iff.mp hfirst)⟩
      obtain ⟨-, hnext⟩ := step_catches_up hc
      exact (staleEnded_cons (hc.imp_right And.right) hnext).mpr
        (ih (stale_step hstale hnext) hrest hrun)

end InfoVulcan.Lease
