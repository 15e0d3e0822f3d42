import InfoVulcan.Chaos.Service

/-!
# What becomes of a scenario

The names of scenarios and the end of each, over every order of the parts of calls, of the tasks and
of the stops. A name is made from the number of the call, so it is given once as long as the numbers
do not wrap around (`Accepted.unique`). A listed scenario stays listed as it is until its own task
removes it, at the end of its duration, or a request with the token stops it
(`scenario_stays_until_over`), and a scenario that is off the list after its call has returned is
never listed again (`scenario_never_returns`).
-/

namespace InfoVulcan.Chaos

/-! ## Names -/

/-- The name of a scenario. -/
def scenarioName (scenarioType : String) (seq : UInt64) : String :=
  s!"{scenarioType}_{seq}"

/-- Numbers are written without an underscore. -/
theorem underscore_notMem_toString (n : UInt64) : '_' ∉ (toString n).toList := by
  intro hmem
  rcases (Decimal.chars_of_parseU64 (Decimal.parseU64_toString n)).2 '_' hmem with h | h
  · cases h
  · exact absurd h (by decide)

/-- What follows the last separator is determined. -/
theorem eq_of_append_separator {α : Type} {x : α} {l l' r r' : List α} (hr : x ∉ r) (hr' : x ∉ r')
    (h : l ++ x :: r = l' ++ x :: r') : r = r' := by
  rcases List.append_eq_append_iff.mp h with ⟨m, rfl, hm⟩ | ⟨m, rfl, hm⟩
  · cases m with
    | nil => exact (List.cons.inj hm).2
    | cons y m =>
        obtain ⟨-, rfl⟩ := List.cons.inj hm
        exact absurd (by simp) hr
  · cases m with
    | nil => exact (List.cons.inj hm).2.symm
    | cons y m =>
        obtain ⟨-, rfl⟩ := List.cons.inj hm
        exact absurd (by simp) hr'

/-- The number of a scenario is read off its name. -/
theorem seq_of_scenarioName {a b : String} {m n : UInt64}
    (h : scenarioName a m = scenarioName b n) : m = n := by
  have hlist : a.toList ++ '_' :: (toString m).toList = b.toList ++ '_' :: (toString n).toList := by
    have htext := congrArg String.toList h
    simp only [scenarioName, String.toList_append, List.append_assoc] at htext
    exact htext
  have hdigits : toString m = toString n := String.toList_injective
    (eq_of_append_separator (underscore_notMem_toString m) (underscore_notMem_toString n) hlist)
  have hparsed := Decimal.parseU64_toString m
  rw [hdigits, Decimal.parseU64_toString] at hparsed
  exact (Option.some.inj hparsed).symm

variable {ι : Type}

/-- The event is the first part of a call. -/
def ChaosEvent.isInject : ChaosEvent ι → Bool
  | inject _ _ => true
  | _ => false

namespace ChaosServiceImpl

variable [DecidableEq ι] [FloatParser] (expected : Option String)

/-- The service after some events. -/
def run (events : List (ChaosEvent ι)) : ChaosServiceImpl ι :=
  events.foldl (step expected) default

@[simp] theorem run_concat (events : List (ChaosEvent ι)) (e : ChaosEvent ι) :
    run expected (events ++ [e]) = (run expected events).step expected e :=
  List.foldl_concat ..

/-- The call has been made with the token, for a scenario that got its name and the time at which it
expires then. -/
def Accepted (events : List (ChaosEvent ι)) (call : ι) (scenario : ChaosScenario) (id : String)
    (due : Nat) : Prop :=
  ∃ pre request post, events = pre ++ .inject call request :: post ∧
    (run expected pre).calls call = .started ∧ checkScenario expected request = .ok scenario ∧
    id = scenarioName request.message.scenarioType (run expected pre).nextId ∧
    due = (run expected pre).clock + scenario.durationMs.toNat

variable {expected} {events : List (ChaosEvent ι)} {s t : ChaosServiceImpl ι} {e : ChaosEvent ι}
  {call : ι} {scenario : ChaosScenario} {id : String} {due : Nat}

/-- What has been accepted stays accepted. -/
theorem Accepted.concat (h : Accepted expected events call scenario id due) (e : ChaosEvent ι) :
    Accepted expected (events ++ [e]) call scenario id due := by
  obtain ⟨pre, request, post, rfl, hspawn⟩ := h
  exact ⟨pre, request, post ++ [e], by simp, hspawn⟩

/-- A call that has spawned its task has been accepted. -/
theorem accepted_spawn {request : Request ChaosRequest}
    (hcall : (run expected events).calls call = .started)
    (hcheck : checkScenario expected request = .ok scenario) :
    Accepted expected (events ++ [.inject call request]) call scenario
      ((run expected events).newTask request.message.scenarioType scenario).scenarioId
      ((run expected events).newTask request.message.scenarioType scenario).due :=
  ⟨events, request, [], rfl, hcall, hcheck, rfl, rfl⟩

/-! ### Numbers of calls -/

omit [DecidableEq ι] [FloatParser] in
theorem toNat_add_one {n : UInt64} (h : n.toNat + 1 < 2 ^ 64) : (n + 1).toNat = n.toNat + 1 := by
  rw [UInt64.toNat_add, UInt64.toNat_one, Nat.mod_eq_of_lt h]

/-- A number is drawn by the first part of a call at most. -/
theorem Moves.nextId (hmoves : s.Moves expected e t) :
    t.nextId = s.nextId ∨ e.isInject ∧ t.nextId = s.nextId + 1 := by
  cases hmoves with
  | spawn => exact .inr ⟨rfl, rfl⟩
  | nothing | tick | refuse | insert | wake | expire | stop | cancel => exact .inl rfl

/-- No more numbers are drawn than there are calls. -/
theorem nextId_le (events : List (ChaosEvent ι)) :
    (run expected events).nextId.toNat ≤ events.countP ChaosEvent.isInject := by
  induction events using List.reverseRecOn with
  | nil => exact le_rfl
  | append_singleton events e ih =>
      rw [run_concat, List.countP_append, List.countP_singleton]
      rcases (step_moves expected (run expected events) e).nextId with hsame | ⟨he, hnext⟩
      · rw [hsame]
        exact Nat.le_add_right_of_le ih
      · rw [hnext, if_pos he, UInt64.toNat_add]
        exact (Nat.mod_le _ _).trans (Nat.add_le_add_right ih 1)

/-- Numbers grow as long as they do not wrap around. -/
theorem nextId_le_append (pre post : List (ChaosEvent ι))
    (hroom : (pre ++ post).countP ChaosEvent.isInject < 2 ^ 64) :
    (run expected pre).nextId.toNat ≤ (run expected (pre ++ post)).nextId.toNat := by
  induction post using List.reverseRecOn with
  | nil => rw [List.append_nil]
  | append_singleton post e ih =>
      rw [← List.append_assoc] at hroom ⊢
      rw [List.countP_append, List.countP_singleton] at hroom
      refine (ih (by omega)).trans ?_
      rw [run_concat]
      rcases (step_moves expected (run expected (pre ++ post)) e).nextId with hsame | ⟨he, hnext⟩
      · rw [hsame]
      · have hle : (run expected (pre ++ post)).nextId.toNat ≤ _ := nextId_le (pre ++ post)
        rw [if_pos he] at hroom
        rw [hnext, toNat_add_one (by omega)]
        exact Nat.le_add_right _ _

/-- An accepted call draws the number it finds, and later calls draw greater ones. -/
theorem nextId_lt_of_spawn {pre post : List (ChaosEvent ι)} {request : Request ChaosRequest}
    (hcall : (run expected pre).calls call = .started)
    (hcheck : checkScenario expected request = .ok scenario)
    (hroom : (pre ++ .inject call request :: post).countP ChaosEvent.isInject < 2 ^ 64) :
    (run expected pre).nextId.toNat <
      (run expected (pre ++ .inject call request :: post)).nextId.toNat := by
  have hle : (run expected pre).nextId.toNat ≤ _ := nextId_le pre
  have hnext : (run expected (pre ++ [.inject call request])).nextId =
      (run expected pre).nextId + 1 := by
    rw [run_concat]
    simp [step, hcall, spawnExpiry, hcheck, spawnTask]
  have hlater : (run expected (pre ++ [.inject call request])).nextId.toNat ≤
      (run expected (pre ++ [.inject call request] ++ post)).nextId.toNat :=
    nextId_le_append (pre ++ [.inject call request]) post (by simpa using hroom)
  rw [List.countP_append, List.countP_cons_of_pos rfl] at hroom
  rw [List.append_assoc, List.singleton_append, hnext,
    toNat_add_one (by omega)] at hlater
  exact hlater

/-- Two accepted calls of one name are one call. -/
theorem Accepted.unique (hroom : events.countP ChaosEvent.isInject < 2 ^ 64) {call' : ι}
    {scenario' : ChaosScenario} {due' : Nat} (h : Accepted expected events call scenario id due)
    (h' : Accepted expected events call' scenario' id due') :
    call = call' ∧ scenario = scenario' ∧ due = due' := by
  obtain ⟨pre, request, post, hevents, hcall, hcheck, hid, rfl⟩ := h
  obtain ⟨pre', request', post', hevents', hcall', hcheck', hid', rfl⟩ := h'
  have hsplit := hevents.symm.trans hevents'
  have hnumber : (run expected pre).nextId.toNat = (run expected pre').nextId.toNat :=
    congrArg UInt64.toNat (seq_of_scenarioName (hid.symm.trans hid'))
  have hbound : ∀ pre post, events = pre ++ post → pre.countP ChaosEvent.isInject < 2 ^ 64 := by
    rintro pre post rfl
    exact lt_of_le_of_lt (List.sublist_append_left pre post).countP_le hroom
  have hpre : pre = pre' := by
    -- If one of the calls came before the other, it would have drawn a smaller number.
    rcases List.append_eq_append_iff.mp hsplit with ⟨m, rfl, hm⟩ | ⟨m, rfl, hm⟩
    · cases m with
      | nil => rw [List.append_nil]
      | cons e m =>
          obtain ⟨rfl, -⟩ := List.cons.inj hm
          exact absurd hnumber (nextId_lt_of_spawn hcall hcheck (hbound _ _ hevents')).ne
    · cases m with
      | nil => rw [List.append_nil]
      | cons e m =>
          obtain ⟨rfl, -⟩ := List.cons.inj hm
          exact absurd hnumber (nextId_lt_of_spawn hcall' hcheck' (hbound _ _ hevents)).ne'
  subst hpre
  obtain ⟨heq, -⟩ := List.cons.inj (List.append_cancel_left hsplit)
  obtain ⟨rfl, rfl⟩ := ChaosEvent.inject.inj heq
  obtain rfl := Except.ok.inj (hcheck.symm.trans hcheck')
  exact ⟨rfl, rfl, rfl⟩

/-! ### Where tasks and scenarios come from -/

/-- Every task, every call that goes on and every scenario that is listed comes from an accepted
call. -/
structure Sourced (expected : Option String) (events : List (ChaosEvent ι))
    (s : ChaosServiceImpl ι) : Prop where
  task : ∀ call task, s.tasks call = some task →
    ∃ scenario, Accepted expected events call scenario task.scenarioId task.due
  spawned : ∀ call scenarioType id scenario, s.calls call = .spawned scenarioType id scenario →
    ∃ due, Accepted expected events call scenario id due
  returned : ∀ call ack, s.calls call = .returned (.ok ack) →
    ∃ scenario due, Accepted expected events call scenario ack.scenarioId due
  listed : ∀ (id : String) (active : ActiveScenario ι), s.activeScenarios[id]? = some active →
    ∃ due, Accepted expected events active.expiryTask active.scenario id due

/-- What comes from accepted calls does so after another event. -/
theorem Sourced.concat (h : Sourced expected events s) (e : ChaosEvent ι) :
    Sourced expected (events ++ [e]) s where
  task call task htask := (h.task call task htask).imp fun _ haccepted => haccepted.concat e
  spawned call _ _ _ hcall := (h.spawned call _ _ _ hcall).imp fun _ haccepted => haccepted.concat e
  returned call ack hcall := by
    obtain ⟨scenario, due, haccepted⟩ := h.returned call ack hcall
    exact ⟨scenario, due, haccepted.concat e⟩
  listed id active hactive := (h.listed id active hactive).imp fun _ haccepted => haccepted.concat e

/-- Scenarios may be removed. -/
theorem Sourced.erase (h : Sourced expected events s) (removed : String) :
    Sourced expected events { s with activeScenarios := s.activeScenarios.erase removed } where
  task := h.task
  spawned := h.spawned
  returned := h.returned
  listed id active hactive := h.listed id active (of_getElem_erase hactive).2

/-- Tasks may move on. -/
theorem Sourced.moveTask (h : Sourced expected events s) {task : ExpiryTask}
    (htask : s.tasks call = some task) (state : TaskState) :
    Sourced expected events (s.moveTask call task state) where
  task other moved hmoved := by
    by_cases hother : other = call
    · subst hother
      rw [tasks_moveTask_self] at hmoved
      obtain rfl := Option.some.inj hmoved
      exact h.task other task htask
    · rw [tasks_moveTask_of_ne hother] at hmoved
      exact h.task other moved hmoved
  spawned := h.spawned
  returned := h.returned
  listed := h.listed

/-- A call may return an error. -/
theorem Sourced.refuse (h : Sourced expected events s) (call : ι) (status : Status) :
    Sourced expected events (s.answer call (.error status)) where
  task := h.task
  spawned other scenarioType id scenario hother := by
    by_cases hcall : other = call
    · subst hcall
      simp [ChaosServiceImpl.answer] at hother
    · exact h.spawned other _ _ _ (by simpa [ChaosServiceImpl.answer, hcall] using hother)
  returned other ack hother := by
    by_cases hcall : other = call
    · subst hcall
      simp [ChaosServiceImpl.answer] at hother
    · exact h.returned other ack (by simpa [ChaosServiceImpl.answer, hcall] using hother)
  listed := h.listed

/-- A call may spawn its task when it is accepted. -/
theorem Sourced.spawnTask (h : Sourced expected events s) {scenarioType : String}
    (haccepted : Accepted expected events call scenario (s.newTask scenarioType scenario).scenarioId
      (s.newTask scenarioType scenario).due) :
    Sourced expected events (s.spawnTask call scenarioType scenario) where
  task other task hother := by
    by_cases hcall : other = call
    · subst hcall
      rw [tasks_spawnTask_self] at hother
      obtain rfl := Option.some.inj hother
      exact ⟨scenario, haccepted⟩
    · rw [tasks_spawnTask_of_ne hcall] at hother
      exact h.task other task hother
  spawned other _ _ _ hother := by
    by_cases hcall : other = call
    · subst hcall
      rw [calls_spawnTask_self] at hother
      obtain ⟨-, rfl, rfl⟩ := InjectPhase.spawned.inj hother
      exact ⟨_, haccepted⟩
    · rw [calls_spawnTask_of_ne hcall] at hother
      exact h.spawned other _ _ _ hother
  returned other ack hother := by
    by_cases hcall : other = call
    · subst hcall
      rw [calls_spawnTask_self] at hother
      cases hother
    · rw [calls_spawnTask_of_ne hcall] at hother
      exact h.returned other ack hother
  listed := h.listed

/-- A call lists the scenario it has been accepted for, and returns its name. -/
theorem Sourced.insertScenario (h : Sourced expected events s) {scenarioType : String}
    (hspawned : s.calls call = .spawned scenarioType id scenario) :
    Sourced expected events (s.insertScenario call scenarioType id scenario) where
  task := h.task
  spawned other _ _ _ hother := by
    by_cases hcall : other = call
    · subst hcall
      simp [ChaosServiceImpl.insertScenario, ChaosServiceImpl.answer] at hother
    · exact h.spawned other _ _ _
        (by simpa [ChaosServiceImpl.insertScenario, ChaosServiceImpl.answer, hcall] using hother)
  returned other ack hother := by
    by_cases hcall : other = call
    · subst hcall
      obtain ⟨due, haccepted⟩ := h.spawned other _ _ _ hspawned
      simp only [ChaosServiceImpl.insertScenario, ChaosServiceImpl.answer, Function.update_self,
        InjectPhase.returned.injEq, Except.ok.injEq] at hother
      exact ⟨scenario, due, hother ▸ haccepted⟩
    · exact h.returned other ack
        (by simpa [ChaosServiceImpl.insertScenario, ChaosServiceImpl.answer, hcall] using hother)
  listed id' active hactive := by
    have hinsert : (s.activeScenarios.insert id ⟨scenario, call⟩)[id']? = some active := hactive
    rw [Std.ExtTreeMap.getElem?_insert] at hinsert
    split at hinsert
    next heq =>
      obtain rfl := Option.some.inj hinsert
      rw [← Std.compare_eq_iff_eq.mp heq]
      exact h.spawned call _ _ _ hspawned
    next => exact h.listed id' active hinsert

/-- In every run tasks and scenarios come from accepted calls. -/
theorem sourced_run (events : List (ChaosEvent ι)) :
    Sourced expected events (run expected events) := by
  induction events using List.reverseRecOn with
  -- At the start there is nothing that could come from anywhere.
  | nil =>
      refine ⟨fun _ _ htask => ?_, fun _ _ _ _ hcall => ?_, fun _ _ hcall => ?_,
        fun id active hactive => ?_⟩
      · cases htask
      · cases hcall
      · cases hcall
      · simp [run, default] at hactive
  | append_singleton events e ih =>
      have hmoves := step_moves expected (run expected events) e
      have hkept := ih.concat e
      rw [run_concat]
      generalize hnext : (run expected events).step expected e = next at hmoves
      cases hmoves with
      | nothing | tick => exact ⟨hkept.task, hkept.spawned, hkept.returned, hkept.listed⟩
      | refuse => exact hkept.refuse _ _
      | spawn hcall hcheck => exact hkept.spawnTask (accepted_spawn hcall hcheck)
      | insert hcall => exact hkept.insertScenario hcall
      | wake htask => exact hkept.moveTask htask _
      | expire htask => exact (hkept.erase _).moveTask htask _
      | stop => exact hkept.erase _
      | cancel _ htask => exact (hkept.erase _).moveTask htask _

/-! ### The end of a scenario -/

omit [DecidableEq ι] [FloatParser] in
/-- A scenario of another name stays when one is removed. -/
theorem getElem_erase_of_ne {m : Std.ExtTreeMap String (ActiveScenario ι)} {removed : String}
    (hne : removed ≠ id) : (m.erase removed)[id]? = m[id]? := by
  rw [Std.ExtTreeMap.getElem?_erase, if_neg (mt Std.compare_eq_iff_eq.mp hne)]

/-- A call lists its scenario under a name that no scenario of another call has. -/
theorem listed_insertScenario (hroom : events.countP ChaosEvent.isInject < 2 ^ 64)
    (hsourced : Sourced expected events s) {active : ActiveScenario ι}
    (hlisted : s.activeScenarios[id]? = some active) {scenarioType id' : String}
    (hspawned : s.calls call = .spawned scenarioType id' scenario) :
    (s.insertScenario call scenarioType id' scenario).activeScenarios[id]? = some active := by
  show (s.activeScenarios.insert id' ⟨scenario, call⟩)[id]? = some active
  rw [Std.ExtTreeMap.getElem?_insert]
  split
  next heq =>
    obtain rfl : id' = id := Std.compare_eq_iff_eq.mp heq
    obtain ⟨due, haccepted⟩ := hsourced.spawned call _ _ _ hspawned
    obtain ⟨due', haccepted'⟩ := hsourced.listed id' active hlisted
    obtain ⟨rfl, rfl, -⟩ := haccepted.unique hroom haccepted'
    rfl
  next => exact hlisted

/-- A listed scenario has been asked for by a call with the token. After an event it is still listed
as it was, unless a request with the token stops it, or its own task removes it when its duration is
over. -/
theorem scenario_stays_until_over (hroom : events.countP ChaosEvent.isInject < 2 ^ 64)
    {active : ActiveScenario ι} (hlisted : (run expected events).activeScenarios[id]? = some active)
    (e : ChaosEvent ι) :
    ∃ due, Accepted expected events active.expiryTask active.scenario id due ∧
      ((run expected (events ++ [e])).activeScenarios[id]? = some active ∨
        (∃ request reached, e = .stop request reached ∧ checkAuth expected request = .ok () ∧
          request.message.scenarioId = id) ∨
        e = .expire active.expiryTask ∧ due ≤ (run expected events).clock) := by
  have hsourced : Sourced expected events (run expected events) := sourced_run events
  obtain ⟨due, haccepted⟩ := hsourced.listed id active hlisted
  refine ⟨due, haccepted, ?_⟩
  have hmoves := step_moves expected (run expected events) e
  rw [run_concat]
  generalize hnext : (run expected events).step expected e = next at hmoves
  cases hmoves with
  | nothing | tick | refuse | spawn | wake => exact .inl hlisted
  | insert hspawned => exact .inl (listed_insertScenario hroom hsourced hlisted hspawned)
  | @expire call task htask hawake =>
      -- A task that removes the scenario has its name, so it is the task of the same call.
      by_cases hid : task.scenarioId = id
      · obtain ⟨scenario, haccepted'⟩ := hsourced.task call task htask
        rw [hid] at haccepted'
        obtain ⟨rfl, -, rfl⟩ := haccepted.unique hroom haccepted'
        exact .inr (.inr ⟨rfl, due_run expected events _ task htask (.inl hawake)⟩)
      · exact .inl ((getElem_erase_of_ne hid).trans hlisted)
  | @stop request reached hauth =>
      by_cases hid : request.message.scenarioId = id
      · exact .inr (.inl ⟨request, reached, rfl, hauth, hid⟩)
      · exact .inl ((getElem_erase_of_ne hid).trans hlisted)
  | @cancel request reached _ _ hauth =>
      by_cases hid : request.message.scenarioId = id
      · exact .inr (.inl ⟨request, reached, rfl, hauth, hid⟩)
      · exact .inl ((getElem_erase_of_ne hid).trans hlisted)

/-! ### No scenario comes back -/

/-- A call that has returned stays so. -/
theorem Moves.returned (hmoves : s.Moves expected e t) {result : Except Status ChaosAck}
    (hreturned : s.calls call = .returned result) : t.calls call = .returned result := by
  have hother {other : ι} {phase : InjectPhase} (hcall : s.calls other = phase)
      (hphase : phase ≠ .returned result) : call ≠ other := by
    rintro rfl
    exact hphase (hcall.symm.trans hreturned)
  cases hmoves with
  | nothing | tick | wake | expire | stop | cancel => exact hreturned
  | refuse hcall => exact (Function.update_of_ne (hother hcall nofun) _ _).trans hreturned
  | spawn hcall => exact (Function.update_of_ne (hother hcall nofun) _ _).trans hreturned
  | insert hcall => exact (Function.update_of_ne (hother hcall nofun) _ _).trans hreturned

/-- Once the call of a scenario has returned and the scenario is not listed any more, it never is
again. -/
theorem scenario_never_returns {ack : ChaosAck}
    (hreturned : (run expected events).calls call = .returned (.ok ack))
    (hgone : (run expected events).activeScenarios[ack.scenarioId]? = none)
    (later : List (ChaosEvent ι))
    (hroom : (events ++ later).countP ChaosEvent.isInject < 2 ^ 64) :
    (run expected (events ++ later)).activeScenarios[ack.scenarioId]? = none := by
  suffices h : (run expected (events ++ later)).calls call = .returned (.ok ack) ∧
      (run expected (events ++ later)).activeScenarios[ack.scenarioId]? = none from h.2
  induction later using List.reverseRecOn with
  | nil => rw [List.append_nil]; exact ⟨hreturned, hgone⟩
  | append_singleton later e ih =>
      rw [← List.append_assoc] at hroom ⊢
      have hbefore : (events ++ later).countP ChaosEvent.isInject < 2 ^ 64 :=
        lt_of_le_of_lt (List.sublist_append_left _ _).countP_le hroom
      obtain ⟨hcall, habsent⟩ := ih hbefore
      have hsourced : Sourced expected (events ++ later) (run expected (events ++ later)) :=
        sourced_run _
      have hmoves := step_moves expected (run expected (events ++ later)) e
      have hstays := hmoves.returned hcall
      rw [run_concat]
      refine ⟨hstays, ?_⟩
      generalize hnext : (run expected (events ++ later)).step expected e = next at hmoves
      have herase (removed : String) : ((run expected (events ++ later)).activeScenarios.erase
          removed)[ack.scenarioId]? = none := by
        rw [Std.ExtTreeMap.getElem?_erase]
        split <;> [rfl; exact habsent]
      cases hmoves with
      | nothing | tick | refuse | spawn | wake => exact habsent
      | @insert other _ id scenario hspawned =>
          show ((run expected (events ++ later)).activeScenarios.insert id
            ⟨scenario, other⟩)[ack.scenarioId]? = none
          rw [Std.ExtTreeMap.getElem?_insert]
          split
          next heq =>
            -- The name would be that of another call.
            obtain rfl : id = ack.scenarioId := Std.compare_eq_iff_eq.mp heq
            obtain ⟨scenario', due, haccepted⟩ := hsourced.returned call ack hcall
            obtain ⟨due', haccepted'⟩ := hsourced.spawned other _ _ _ hspawned
            obtain ⟨rfl, -, -⟩ := haccepted.unique hbefore haccepted'
            rw [hcall] at hspawned
            cases hspawned
          next => exact habsent
      | expire | stop | cancel => exact herase _

end ChaosServiceImpl

end InfoVulcan.Chaos

/-! ## Runs -/

namespace InfoVulcan.Chaos.ChaosServiceImpl

/-- A scenario that lasts a millisecond. -/
def briefLatency : Request ChaosRequest where
  token := none
  message :=
    { scenarioType := "network_latency"
      parameters := fun key => if key = "duration_ms" then some "1" else none }

/-- Two scenarios are listed, and the task of the first wakes up. -/
def twoLatencies : List (ChaosEvent Nat) :=
  [.inject 0 briefLatency, .inject 1 briefLatency, .insert 1, .insert 0, .tick, .wake 0]

/-- The task removes the first scenario, whose duration is over. -/
theorem scenario_stays_until_over_expired :
    (@run Nat _ noFloats none (twoLatencies ++ [.expire 0])).activeScenarios["network_latency_0"]? =
        none ∧
      ∃ due, @Accepted Nat _ noFloats none twoLatencies 0 (.networkLatency "all" 100 1)
          "network_latency_0" due ∧
        due ≤ (@run Nat _ noFloats none twoLatencies).clock := by
  have hlisted : (@run Nat _ noFloats none twoLatencies).activeScenarios["network_latency_0"]? =
      some ⟨.networkLatency "all" 100 1, 0⟩ := rfl
  have hgone : (@run Nat _ noFloats none
      (twoLatencies ++ [.expire 0])).activeScenarios["network_latency_0"]? = none := rfl
  obtain ⟨due, haccepted, hends⟩ :=
    @scenario_stays_until_over Nat _ noFloats none _ _ (by decide) _ hlisted (.expire 0)
  refine ⟨hgone, due, haccepted, ?_⟩
  rcases hends with hstill | ⟨_, _, hstop, -⟩ | ⟨-, hover⟩
  · cases hgone.symm.trans hstill
  · cases hstop
  · exact hover

/-- Another call lists its scenario under another name. -/
theorem scenario_never_returns_next :
    (@run Nat _ noFloats none (twoLatencies ++ [.expire 0] ++
        [.inject 2 briefLatency, .insert 2])).activeScenarios["network_latency_2"]? =
          some ⟨.networkLatency "all" 100 1, 2⟩ ∧
      (@run Nat _ noFloats none (twoLatencies ++ [.expire 0] ++
        [.inject 2 briefLatency, .insert 2])).activeScenarios["network_latency_0"]? = none := by
  have hreturned : (@run Nat _ noFloats none (twoLatencies ++ [.expire 0])).calls 0 =
      .returned (.ok ⟨"network_latency_0", "injected",
        "Chaos scenario network_latency injected successfully"⟩) := rfl
  exact ⟨rfl, @scenario_never_returns Nat _ noFloats none _ _ _ hreturned rfl _ (by decide)⟩

end InfoVulcan.Chaos.ChaosServiceImpl
