import InfoVulcan.Library.Decimal
import InfoVulcan.Library.Machine
import InfoVulcan.Shared.Foreign

/-!
# Chaos scenarios

How the chaos service injects scenarios, expires them and stops them. A call that injects a scenario
starts the task that expires it, and lists the scenario after that. The task removes the scenario
once. If it runs before the scenario is listed, it removes nothing, and the scenario stays listed.
-/

namespace InfoVulcan.Chaos

/-! ## Scenarios -/

/-- A floating point number, by its bits. -/
structure F64 where
  bits : UInt64
  deriving DecidableEq, Repr

/-- How a text is parsed as a floating point number. -/
class FloatParser where
  parseF64 : String → Option F64

/-- Chaos scenario types. -/
inductive ChaosScenario where
  | networkLatency (targetService : String) (delayMs durationMs : UInt64)
  | serviceCrash (targetService : String) (crashProbability : F64) (durationMs : UInt64)
  | diskIODelay (targetService : String) (delayMs durationMs : UInt64)
  | raftLeaderFailure (nodeId durationMs : UInt64)
  | networkPartition (partitionGroups : List (List String)) (durationMs : UInt64)
  deriving DecidableEq, Repr

/-- How long this scenario stays active before it auto-expires. -/
def ChaosScenario.durationMs : ChaosScenario → UInt64
  | .networkLatency _ _ durationMs => durationMs
  | .serviceCrash _ _ durationMs => durationMs
  | .diskIODelay _ _ durationMs => durationMs
  | .raftLeaderFailure _ durationMs => durationMs
  | .networkPartition _ durationMs => durationMs

/-! ## Requests -/

structure ChaosRequest where
  scenarioType : String
  parameters : String → Option String

structure StopRequest where
  scenarioId : String

/-- A message with the `x-chaos-token` header, if it has one that is a text. -/
structure Request (T : Type) where
  token : Option String
  message : T

structure ChaosAck where
  scenarioId : String
  status : String
  message : String
  deriving DecidableEq, Repr

structure ScenarioCatalog where
  scenarioIds : List String
  availableTypes : List String

/-- Pure authorization decision: open when no token is configured, otherwise the provided token
must match exactly. -/
def authorize (expected provided : Option String) : Except Status Unit :=
  match expected with
  | none => .ok ()
  | some token =>
      if provided = some token then .ok ()
      else .error (.permissionDenied "chaos: missing or invalid admin token")

/-- Admin authentication for mutating operations, where `expected` is `CHAOS_AUTH_TOKEN`. -/
def checkAuth {T : Type} (expected : Option String) (request : Request T) : Except Status Unit :=
  authorize expected request.token

/-- A parameter that is a number. -/
def ChaosRequest.number (req : ChaosRequest) (key : String) (default : UInt64) : UInt64 :=
  ((req.parameters key).bind Decimal.parseU64).getD default

/-- A parameter that is a text. -/
def ChaosRequest.text (req : ChaosRequest) (key : String) (default : String) : String :=
  (req.parameters key).getD default

/-- Parses a request into a typed scenario. -/
def parseScenario [FloatParser] (req : ChaosRequest) : Except Status ChaosScenario :=
  let durationMs := req.number "duration_ms"
  match req.scenarioType with
  | "network_latency" =>
      .ok (.networkLatency (req.text "target_service" "all") (req.number "delay_ms" 100)
        (durationMs 30000))
  | "service_crash" =>
      -- The bits are those of 0.1.
      .ok (.serviceCrash (req.text "target_service" "random")
        (((req.parameters "crash_probability").bind FloatParser.parseF64).getD
          ⟨0x3FB999999999999A⟩)
        (durationMs 30000))
  | "disk_io_delay" =>
      .ok (.diskIODelay (req.text "target_service" "db") (req.number "delay_ms" 50)
        (durationMs 30000))
  | "raft_leader_failure" =>
      .ok (.raftLeaderFailure (req.number "node_id" 1) (durationMs 10000))
  | "network_partition" =>
      .ok (.networkPartition [["node-1", "node-2"], ["node-3", "node-4", "node-5"]]
        (durationMs 15000))
  | unknown => .error (.invalidArgument s!"Unknown scenario type: {unknown}")

/-! ## The service -/

/-- Where a spawned task stands: in its sleep, after it and before the removal, or at its end. -/
inductive TaskState where
  | sleeping
  | awake
  | finished
  | aborted
  deriving DecidableEq, Repr

/-- The task that expires a scenario, and when its sleep is over. -/
structure ExpiryTask where
  scenarioId : String
  due : Nat
  state : TaskState
  deriving DecidableEq, Repr

/-- A scenario that is listed as active, and the call whose task expires it. -/
structure ActiveScenario (ι : Type) where
  scenario : ChaosScenario
  expiryTask : ι
  deriving DecidableEq, Repr

/-- Where a call to `inject_scenario` stands. -/
inductive InjectPhase where
  | started
  | spawned (scenarioType scenarioId : String) (scenario : ChaosScenario)
  | returned (result : Except Status ChaosAck)

/-- The service, with the time in milliseconds, its calls and the tasks they have spawned. -/
structure ChaosServiceImpl (ι : Type) where
  clock : Nat
  nextId : UInt64
  activeScenarios : Std.ExtTreeMap String (ActiveScenario ι)
  tasks : ι → Option ExpiryTask
  calls : ι → InjectPhase

namespace ChaosServiceImpl

variable {ι : Type}

/-- The service before its first call. -/
def default : ChaosServiceImpl ι where
  clock := 0
  nextId := 0
  activeScenarios := ∅
  tasks _ := none
  calls _ := .started

/-- The scenarios that are listed, and the types there are. -/
def listScenarios (s : ChaosServiceImpl ι) : ScenarioCatalog where
  scenarioIds := s.activeScenarios.keys
  availableTypes := ["network_latency", "service_crash", "disk_io_delay", "raft_leader_failure",
    "network_partition"]

variable [DecidableEq ι]

/-- The result of a call. -/
def answer (s : ChaosServiceImpl ι) (call : ι) (result : Except Status ChaosAck) :
    ChaosServiceImpl ι :=
  { s with calls := Function.update s.calls call (.returned result) }

/-- A task moves on. -/
def moveTask (s : ChaosServiceImpl ι) (call : ι) (task : ExpiryTask) (state : TaskState) :
    ChaosServiceImpl ι :=
  { s with tasks := Function.update s.tasks call (some { task with state }) }

/-- The scenario of a request, if the request is authorized and has one. -/
def checkScenario [FloatParser] (expected : Option String) (request : Request ChaosRequest) :
    Except Status ChaosScenario := do
  checkAuth expected request
  parseScenario request.message

/-- The task that expires the next scenario. -/
def newTask (s : ChaosServiceImpl ι) (scenarioType : String) (scenario : ChaosScenario) :
    ExpiryTask where
  scenarioId := s!"{scenarioType}_{s.nextId}"
  due := s.clock + scenario.durationMs.toNat
  state := .sleeping

/-- Draws the name of a scenario, and spawns the task that expires it. -/
def spawnTask (s : ChaosServiceImpl ι) (call : ι) (scenarioType : String)
    (scenario : ChaosScenario) : ChaosServiceImpl ι :=
  let task := s.newTask scenarioType scenario
  { s with
    nextId := s.nextId + 1
    tasks := Function.update s.tasks call (some task)
    calls := Function.update s.calls call (.spawned scenarioType task.scenarioId scenario) }

/-- The first part of `inject_scenario`: the request is checked, and the task is spawned. -/
def spawnExpiry [FloatParser] (expected : Option String) (s : ChaosServiceImpl ι) (call : ι)
    (request : Request ChaosRequest) : ChaosServiceImpl ι :=
  match checkScenario expected request with
  | .error status => s.answer call (.error status)
  | .ok scenario => s.spawnTask call request.message.scenarioType scenario

/-- The second part of `inject_scenario`: the scenario is listed, and the call returns. -/
def insertScenario (s : ChaosServiceImpl ι) (call : ι) (scenarioType scenarioId : String)
    (scenario : ChaosScenario) : ChaosServiceImpl ι :=
  { s with activeScenarios := s.activeScenarios.insert scenarioId ⟨scenario, call⟩ }.answer call
    (.ok ⟨scenarioId, "injected", s!"Chaos scenario {scenarioType} injected successfully"⟩)

/-- A task removes the scenario it is for. -/
def removeScenario (s : ChaosServiceImpl ι) (call : ι) (task : ExpiryTask) : ChaosServiceImpl ι :=
  { s with activeScenarios := s.activeScenarios.erase task.scenarioId }.moveTask call task .finished

/-- Cancels a task that is not at its end, if the cancellation reaches it before its next step. -/
def abortTask (s : ChaosServiceImpl ι) (call : ι) (reached : Bool) : ChaosServiceImpl ι :=
  match s.tasks call with
  | some task =>
      if reached ∧ task.state ≠ .finished then s.moveTask call task .aborted else s
  | none => s

/-- Removes a scenario and cancels the task that expires it. -/
def stopScenario (expected : Option String) (s : ChaosServiceImpl ι) (request : Request StopRequest)
    (reached : Bool) : Except Status ChaosAck × ChaosServiceImpl ι :=
  match checkAuth expected request with
  | .error status => (.error status, s)
  | .ok () =>
      let id := request.message.scenarioId
      match s.activeScenarios[id]? with
      | some active =>
          (.ok ⟨id, "stopped", "Chaos scenario stopped successfully"⟩,
            { s with activeScenarios := s.activeScenarios.erase id }.abortTask active.expiryTask
              reached)
      | none => (.error (.notFound s!"Scenario {id} not found"), s)

end ChaosServiceImpl

/-! ## Runs -/

/-- What happens next: a millisecond passes, a call takes its first or its second part, a task wakes
or removes its scenario, or a scenario is stopped. -/
inductive ChaosEvent (ι : Type) where
  | tick
  | inject (call : ι) (request : Request ChaosRequest)
  | insert (call : ι)
  | wake (call : ι)
  | expire (call : ι)
  | stop (request : Request StopRequest) (reached : Bool)

namespace ChaosServiceImpl

variable {ι : Type} [DecidableEq ι] [FloatParser] (expected : Option String)

/-- The event happens. A call or a task that is not there yet, or past it, does nothing. -/
def step (s : ChaosServiceImpl ι) : ChaosEvent ι → ChaosServiceImpl ι
  | .tick => { s with clock := s.clock + 1 }
  | .inject call request =>
      match s.calls call with
      | .started => s.spawnExpiry expected call request
      | _ => s
  | .insert call =>
      match s.calls call with
      | .spawned scenarioType scenarioId scenario =>
          s.insertScenario call scenarioType scenarioId scenario
      | _ => s
  | .wake call =>
      match s.tasks call with
      | some task =>
          if task.state = .sleeping ∧ task.due ≤ s.clock then s.moveTask call task .awake else s
      | none => s
  | .expire call =>
      match s.tasks call with
      | some task => if task.state = .awake then s.removeScenario call task else s
      | none => s
  | .stop request reached => (s.stopScenario expected request reached).2

end ChaosServiceImpl

/-! ## Scenarios that stay listed -/

namespace ChaosServiceImpl

variable {ι : Type}

/-- The scenario that the task of a call is for, if the call has spawned one. -/
def taskScenario (s : ChaosServiceImpl ι) (call : ι) : Option String :=
  (s.tasks call).map ExpiryTask.scenarioId

/-- The task of a call has run. -/
def Ran (s : ChaosServiceImpl ι) (call : ι) : Prop :=
  ∃ task, s.tasks call = some task ∧ task.state = .finished

/-- A scenario is listed whose task has run. -/
def Lingers (s : ChaosServiceImpl ι) : Prop :=
  ∃ (id : String) (active : ActiveScenario ι),
    s.activeScenarios[id]? = some active ∧ s.Ran active.expiryTask

/-- If the event lists a scenario, the task that is to remove it has not run yet. -/
def InsertsInTime (s : ChaosServiceImpl ι) (e : ChaosEvent ι) : Prop :=
  ∀ call scenarioType id scenario, e = .insert call →
    s.calls call = .spawned scenarioType id scenario → ¬ s.Ran call

/-- Calls at their start have no task, and the scenario of a call is listed under the name that its
task knows. -/
structure Registered (s : ChaosServiceImpl ι) : Prop where
  started : ∀ call, s.calls call = .started → s.taskScenario call = none
  spawned : ∀ call scenarioType id scenario, s.calls call = .spawned scenarioType id scenario →
    s.taskScenario call = some id
  listed : ∀ (id : String) (active : ActiveScenario ι), s.activeScenarios[id]? = some active →
    s.taskScenario active.expiryTask = some id

variable {s t : ChaosServiceImpl ι} {call : ι} {task : ExpiryTask}

/-- A step that spawns and lists nothing keeps the scenarios registered. -/
theorem Registered.mono (h : s.Registered) (hcalls : t.calls = s.calls)
    (htasks : t.taskScenario = s.taskScenario)
    (hlisted : ∀ (id : String) (active : ActiveScenario ι), t.activeScenarios[id]? = some active →
      s.activeScenarios[id]? = some active) : t.Registered where
  started call hcall := by
    rw [htasks]
    exact h.started call (hcalls ▸ hcall)
  spawned call scenarioType id scenario hcall := by
    rw [htasks]
    exact h.spawned call scenarioType id scenario (hcalls ▸ hcall)
  listed id active hactive := by
    rw [htasks]
    exact h.listed id active (hlisted id active hactive)

/-- A scenario that is removed is not listed, and the others are as before. -/
theorem of_getElem_erase {m : Std.ExtTreeMap String (ActiveScenario ι)} {id removed : String}
    {active : ActiveScenario ι} (h : (m.erase removed)[id]? = some active) :
    id ≠ removed ∧ m[id]? = some active := by
  rw [Std.ExtTreeMap.getElem?_erase] at h
  split at h
  next => cases h
  next hne => exact ⟨fun heq => hne (by rw [heq, Std.compare_self]), h⟩

/-- A scenario may be removed. -/
theorem Registered.erase (h : s.Registered) (id : String) :
    { s with activeScenarios := s.activeScenarios.erase id }.Registered :=
  h.mono rfl rfl fun _ _ hactive => (of_getElem_erase hactive).2

/-- A call that has no task is not the one that expires a listed scenario. -/
theorem Registered.ne_of_started (h : s.Registered) (hcall : s.calls call = .started) {id : String}
    {active : ActiveScenario ι} (hactive : s.activeScenarios[id]? = some active) :
    active.expiryTask ≠ call := by
  rintro rfl
  have htask := h.listed id active hactive
  rw [h.started _ hcall] at htask
  cases htask

/-- An event that lists nothing, and that ends no task that is to remove a listed scenario, leaves
no scenario lingering. -/
theorem not_lingers_iff_of_mono {e : ChaosEvent ι} (h : ¬ s.Lingers) (he : ∀ call, e ≠ .insert call)
    (hlisted : ∀ (id : String) (active : ActiveScenario ι), t.activeScenarios[id]? = some active →
      s.activeScenarios[id]? = some active ∧ (t.Ran active.expiryTask → s.Ran active.expiryTask)) :
    ¬ t.Lingers ↔ s.InsertsInTime e := by
  refine iff_of_true ?_ fun call _ _ _ heq _ => absurd heq (he call)
  intro ⟨id, active, hactive, hran⟩
  obtain ⟨hbefore, hranBefore⟩ := hlisted id active hactive
  exact h ⟨id, active, hbefore, hranBefore hran⟩

variable [DecidableEq ι]

@[simp] theorem tasks_moveTask_self (state : TaskState) :
    (s.moveTask call task state).tasks call = some { task with state } :=
  Function.update_self _ _ _

/-- The other tasks are as before. -/
theorem tasks_moveTask_of_ne {other : ι} (hother : other ≠ call) (state : TaskState) :
    (s.moveTask call task state).tasks other = s.tasks other :=
  Function.update_of_ne hother _ _

/-- A task that moves on is for the same scenario. -/
theorem taskScenario_moveTask (htask : s.tasks call = some task) (state : TaskState) :
    (s.moveTask call task state).taskScenario = s.taskScenario := by
  funext other
  unfold taskScenario
  by_cases hother : other = call
  · subst hother
    simp [htask]
  · rw [tasks_moveTask_of_ne hother]

/-- A task that moves on has run if that is its end. -/
theorem ran_moveTask_self {state : TaskState} :
    (s.moveTask call task state).Ran call ↔ state = .finished := by
  simp [Ran]

/-- Where the other tasks stand does not change. -/
theorem ran_moveTask_of_ne {other : ι} (hother : other ≠ call) {state : TaskState} :
    (s.moveTask call task state).Ran other ↔ s.Ran other := by
  unfold Ran
  rw [tasks_moveTask_of_ne hother]

/-- If a task moves on, but not to its end, no other task has run for that. -/
theorem ran_of_ran_moveTask {other : ι} {state : TaskState} (hstate : state ≠ .finished)
    (h : (s.moveTask call task state).Ran other) : s.Ran other := by
  by_cases hother : other = call
  · subst hother
    exact absurd (ran_moveTask_self.mp h) hstate
  · exact (ran_moveTask_of_ne hother).mp h

@[simp] theorem tasks_spawnTask_self (scenarioType : String) (scenario : ChaosScenario) :
    (s.spawnTask call scenarioType scenario).tasks call = some (s.newTask scenarioType scenario) :=
  Function.update_self _ _ _

/-- The other tasks are as before. -/
theorem tasks_spawnTask_of_ne {other : ι} (hother : other ≠ call) (scenarioType : String)
    (scenario : ChaosScenario) :
    (s.spawnTask call scenarioType scenario).tasks other = s.tasks other :=
  Function.update_of_ne hother _ _

@[simp] theorem calls_spawnTask_self (scenarioType : String) (scenario : ChaosScenario) :
    (s.spawnTask call scenarioType scenario).calls call =
      .spawned scenarioType (s.newTask scenarioType scenario).scenarioId scenario :=
  Function.update_self _ _ _

/-- Where the other calls stand does not change. -/
theorem calls_spawnTask_of_ne {other : ι} (hother : other ≠ call) (scenarioType : String)
    (scenario : ChaosScenario) :
    (s.spawnTask call scenarioType scenario).calls other = s.calls other :=
  Function.update_of_ne hother _ _

/-! ### Registration -/

/-- A call that has spawned nothing may return. -/
theorem Registered.answer (h : s.Registered) (result : Except Status ChaosAck) :
    (s.answer call result).Registered where
  started other hother := by
    by_cases hcall : other = call
    · subst hcall
      simp [ChaosServiceImpl.answer] at hother
    · exact h.started other (by simpa [ChaosServiceImpl.answer, hcall] using hother)
  spawned other scenarioType id scenario hother := by
    by_cases hcall : other = call
    · subst hcall
      simp [ChaosServiceImpl.answer] at hother
    · exact h.spawned other scenarioType id scenario
        (by simpa [ChaosServiceImpl.answer, hcall] using hother)
  listed := h.listed

/-- A spawned task knows the name under which its scenario is to be listed. -/
theorem Registered.spawnTask (h : s.Registered) (hcall : s.calls call = .started)
    (scenarioType : String) (scenario : ChaosScenario) :
    (s.spawnTask call scenarioType scenario).Registered where
  started other hother := by
    by_cases heq : other = call
    · subst heq
      rw [calls_spawnTask_self] at hother
      cases hother
    · rw [calls_spawnTask_of_ne heq] at hother
      rw [taskScenario, tasks_spawnTask_of_ne heq]
      exact h.started other hother
  spawned other _ id _ hother := by
    by_cases heq : other = call
    · subst heq
      rw [calls_spawnTask_self] at hother
      obtain ⟨-, rfl, -⟩ := InjectPhase.spawned.inj hother
      rw [taskScenario, tasks_spawnTask_self, Option.map_some]
    · rw [calls_spawnTask_of_ne heq] at hother
      rw [taskScenario, tasks_spawnTask_of_ne heq]
      exact h.spawned other _ id _ hother
  listed id active hactive := by
    have hne : active.expiryTask ≠ call := h.ne_of_started hcall hactive
    rw [taskScenario, tasks_spawnTask_of_ne hne]
    exact h.listed id active hactive

/-- A scenario is listed under the name that its task knows. -/
theorem Registered.insertScenario (h : s.Registered) {scenarioType id : String}
    {scenario : ChaosScenario} (hcall : s.calls call = .spawned scenarioType id scenario) :
    (s.insertScenario call scenarioType id scenario).Registered := by
  refine Registered.answer (s := { s with
    activeScenarios := s.activeScenarios.insert id ⟨scenario, call⟩ }) ?_ _
  refine ⟨h.started, h.spawned, fun id' active hactive => ?_⟩
  have hinsert : (s.activeScenarios.insert id ⟨scenario, call⟩)[id']? = some active := hactive
  rw [Std.ExtTreeMap.getElem?_insert] at hinsert
  split at hinsert
  -- The scenario is the one of the call, or it has been listed before.
  next heq =>
    obtain rfl := Option.some.inj hinsert
    rw [← Std.compare_eq_iff_eq.mp heq]
    exact h.spawned call scenarioType id scenario hcall
  next => exact h.listed id' active hinsert

/-- A task may move on. -/
theorem Registered.moveTask (h : s.Registered) (htask : s.tasks call = some task)
    (state : TaskState) : (s.moveTask call task state).Registered :=
  h.mono rfl (taskScenario_moveTask htask state) fun _ _ hactive => hactive

/-! ### What an event does -/

/-- What an event does to the service. -/
inductive Moves [FloatParser] (expected : Option String) (s : ChaosServiceImpl ι) :
    ChaosEvent ι → ChaosServiceImpl ι → Prop where
  | nothing {e : ChaosEvent ι} (hidle : ∀ call scenarioType id scenario, e = .insert call →
      s.calls call ≠ .spawned scenarioType id scenario) : Moves expected s e s
  | tick : Moves expected s .tick { s with clock := s.clock + 1 }
  | refuse {call : ι} {request : Request ChaosRequest} {status : Status}
      (hcall : s.calls call = .started) (hcheck : checkScenario expected request = .error status) :
      Moves expected s (.inject call request) (s.answer call (.error status))
  | spawn {call : ι} {request : Request ChaosRequest} {scenario : ChaosScenario}
      (hcall : s.calls call = .started) (hcheck : checkScenario expected request = .ok scenario) :
      Moves expected s (.inject call request)
        (s.spawnTask call request.message.scenarioType scenario)
  | insert {call : ι} {scenarioType id : String} {scenario : ChaosScenario}
      (hcall : s.calls call = .spawned scenarioType id scenario) :
      Moves expected s (.insert call) (s.insertScenario call scenarioType id scenario)
  | wake {call : ι} {task : ExpiryTask} (htask : s.tasks call = some task)
      (hdue : task.due ≤ s.clock) : Moves expected s (.wake call) (s.moveTask call task .awake)
  | expire {call : ι} {task : ExpiryTask} (htask : s.tasks call = some task)
      (hawake : task.state = .awake) :
      Moves expected s (.expire call) (s.removeScenario call task)
  | stop {request : Request StopRequest} {reached : Bool}
      (hauth : checkAuth expected request = .ok ()) :
      Moves expected s (.stop request reached)
        { s with activeScenarios := s.activeScenarios.erase request.message.scenarioId }
  | cancel {request : Request StopRequest} {reached : Bool} {call : ι} {task : ExpiryTask}
      (hauth : checkAuth expected request = .ok ()) (htask : s.tasks call = some task) :
      Moves expected s (.stop request reached)
        ({ s with
          activeScenarios := s.activeScenarios.erase request.message.scenarioId }.moveTask call task
            .aborted)

variable [FloatParser] {expected : Option String}

/-- Stopping a scenario does nothing, or it removes the scenario and may cancel a task. -/
theorem stopScenario_moves (expected : Option String) (s : ChaosServiceImpl ι)
    (request : Request StopRequest) (reached : Bool) :
    s.Moves expected (.stop request reached) (s.stopScenario expected request reached).2 := by
  have hnothing : s.Moves expected (.stop request reached) s := .nothing (by simp)
  unfold stopScenario
  split
  next => exact hnothing
  next hauth =>
    dsimp only
    split
    next active hactive =>
      unfold abortTask
      split
      next task htask =>
        split
        · exact .cancel hauth htask
        · exact .stop hauth
      next => exact .stop hauth
    next => exact hnothing

/-- What a step does. -/
theorem step_moves (expected : Option String) (s : ChaosServiceImpl ι) (e : ChaosEvent ι) :
    s.Moves expected e (s.step expected e) := by
  cases e with
  | tick => exact .tick
  | inject call request =>
      unfold step spawnExpiry
      simp only
      split
      next hcall =>
        split
        next hcheck => exact .refuse hcall hcheck
        next hcheck => exact .spawn hcall hcheck
      next => exact .nothing (by simp)
  | insert call =>
      unfold step
      simp only
      split
      next hcall => exact .insert hcall
      next hidle =>
        refine .nothing fun other scenarioType id scenario heq => ?_
        obtain rfl := ChaosEvent.insert.inj heq
        exact hidle scenarioType id scenario
  | wake call =>
      unfold step
      simp only
      split
      next task htask =>
        split
        next hdue => exact .wake htask hdue.2
        next => exact .nothing (by simp)
      next => exact .nothing (by simp)
  | expire call =>
      unfold step
      simp only
      split
      next task htask =>
        split
        next hawake => exact .expire htask hawake
        next => exact .nothing (by simp)
      next => exact .nothing (by simp)
  | stop request reached => exact s.stopScenario_moves expected request reached

/-- Every event keeps the scenarios registered. -/
theorem Moves.registered {e : ChaosEvent ι} (hmoves : s.Moves expected e t) (h : s.Registered) :
    t.Registered := by
  cases hmoves with
  | nothing => exact h
  | tick => exact h.mono rfl rfl fun _ _ hactive => hactive
  | refuse => exact h.answer _
  | spawn hcall => exact h.spawnTask hcall ..
  | insert hcall => exact h.insertScenario hcall
  | wake htask => exact h.moveTask htask _
  | expire htask => exact (h.erase _).moveTask htask _
  | stop => exact h.erase _
  | cancel _ htask => exact (h.erase _).moveTask htask _

/-- In every run the scenarios are registered. -/
theorem registered_run (expected : Option String) (events : List (ChaosEvent ι)) :
    (events.foldl (ChaosServiceImpl.step expected) default).Registered := by
  induction events using List.reverseRecOn with
  | nil =>
      refine ⟨fun _ _ => rfl, fun _ _ _ _ hcall => ?_, fun id active hactive => ?_⟩
      · cases hcall
      · simp [default] at hactive
  | append_singleton events e ih =>
      rw [List.foldl_concat]
      exact (step_moves expected _ e).registered ih

/-! ### No scenario stays listed -/

omit [FloatParser] in
/-- A scenario that is listed after its task has run lingers. -/
theorem lingers_insertScenario (hran : s.Ran call) (scenarioType id : String)
    (scenario : ChaosScenario) : (s.insertScenario call scenarioType id scenario).Lingers :=
  ⟨id, ⟨scenario, call⟩, Std.ExtTreeMap.getElem?_insert_self, hran⟩

omit [FloatParser] in
/-- A scenario that is listed lingers exactly when its task has run, if none lingered before. -/
theorem lingers_insertScenario_iff (h : ¬ s.Lingers) {scenarioType id : String}
    {scenario : ChaosScenario} :
    (s.insertScenario call scenarioType id scenario).Lingers ↔ s.Ran call := by
  constructor
  case mp =>
    intro ⟨id', active, hactive, hran⟩
    have hinsert : (s.activeScenarios.insert id ⟨scenario, call⟩)[id']? = some active := hactive
    rw [Std.ExtTreeMap.getElem?_insert] at hinsert
    split at hinsert
    next =>
      obtain rfl := Option.some.inj hinsert
      exact hran
    next => exact absurd ⟨id', active, hinsert, hran⟩ h
  case mpr => exact fun hran => lingers_insertScenario hran scenarioType id scenario

/-- Whether an event leaves a scenario lingering, if none lingered before. -/
theorem Moves.not_lingers_iff {e : ChaosEvent ι} (hmoves : s.Moves expected e t)
    (hregistered : s.Registered) (h : ¬ s.Lingers) : ¬ t.Lingers ↔ s.InsertsInTime e := by
  cases hmoves with
  | nothing hidle =>
      exact iff_of_true h fun call scenarioType id scenario heq hcall =>
        absurd hcall (hidle call scenarioType id scenario heq)
  | tick => exact not_lingers_iff_of_mono h (by simp) fun _ _ hactive => ⟨hactive, fun hran => hran⟩
  | refuse =>
      exact not_lingers_iff_of_mono h (by simp) fun _ _ hactive => ⟨hactive, fun hran => hran⟩
  | spawn hcall =>
      refine not_lingers_iff_of_mono h (by simp) fun id active hactive => ⟨hactive, fun hran => ?_⟩
      -- The new task is not that of a scenario listed before.
      have hne : active.expiryTask ≠ _ := hregistered.ne_of_started hcall hactive
      unfold Ran at hran
      rwa [tasks_spawnTask_of_ne hne] at hran
  | insert hcall =>
      rw [not_congr (lingers_insertScenario_iff h)]
      constructor
      case mp =>
        intro hran other scenarioType id scenario heq _
        obtain rfl := ChaosEvent.insert.inj heq
        exact hran
      case mpr => exact fun hintime => hintime _ _ _ _ rfl hcall
  | wake htask =>
      exact not_lingers_iff_of_mono h (by simp) fun id active hactive =>
        ⟨hactive, ran_of_ran_moveTask (by simp)⟩
  | @expire call task htask =>
      refine not_lingers_iff_of_mono h (by simp) fun id active hactive => ?_
      obtain ⟨hne, hbefore⟩ := of_getElem_erase hactive
      -- The scenario of the task is under the name that has been removed.
      have hother : active.expiryTask ≠ call := by
        intro heq
        have hname := hregistered.listed id active hbefore
        rw [heq, taskScenario, htask] at hname
        exact hne (Option.some.inj hname).symm
      exact ⟨hbefore, (ran_moveTask_of_ne hother).mp⟩
  | stop =>
      exact not_lingers_iff_of_mono h (by simp) fun _ _ hactive =>
        ⟨(of_getElem_erase hactive).2, fun hran => hran⟩
  | cancel =>
      exact not_lingers_iff_of_mono h (by simp) fun _ _ hactive =>
        ⟨(of_getElem_erase hactive).2, ran_of_ran_moveTask (by simp)⟩

/-- In every run, no scenario is ever listed whose task has run exactly when every scenario is
listed before its task has run. -/
theorem expired_scenarios_gone_iff (expected : Option String)
    (events : List (ChaosEvent ι)) :
    Always (ChaosServiceImpl.step expected) (fun s => ¬ s.Lingers) default events ↔
      Throughout (ChaosServiceImpl.step expected) InsertsInTime default events := by
  refine always_iff_throughout ?_ fun pre e _ hbefore =>
    (step_moves expected _ e).not_lingers_iff (registered_run expected pre) hbefore
  intro ⟨id, active, hactive, _⟩
  simp [default] at hactive

/-! ### Durations -/

/-- A task that has woken up or has run was due. -/
def Due (s : ChaosServiceImpl ι) : Prop :=
  ∀ call task, s.tasks call = some task → task.state = .awake ∨ task.state = .finished →
    task.due ≤ s.clock

/-- If the event lists a scenario, the time at which it expires has not come yet. -/
def InsertsBeforeDue (s : ChaosServiceImpl ι) (e : ChaosEvent ι) : Prop :=
  ∀ call task, e = .insert call → s.tasks call = some task → s.clock < task.due

omit [FloatParser] in
/-- A task may move on when it is due. -/
theorem Due.moveTask (h : s.Due) {state : TaskState}
    (hdue : state = .awake ∨ state = .finished → task.due ≤ s.clock) :
    (s.moveTask call task state).Due := by
  intro other moved hmoved hstate
  by_cases hother : other = call
  · subst hother
    rw [tasks_moveTask_self] at hmoved
    obtain rfl := Option.some.inj hmoved
    exact hdue hstate
  · rw [tasks_moveTask_of_ne hother] at hmoved
    exact h other moved hmoved hstate

omit [FloatParser] in
/-- A task sleeps at first. -/
theorem Due.spawnTask (h : s.Due) (scenarioType : String) (scenario : ChaosScenario) :
    (s.spawnTask call scenarioType scenario).Due := by
  intro other spawned hspawned hstate
  by_cases hother : other = call
  · subst hother
    rw [tasks_spawnTask_self] at hspawned
    obtain rfl := Option.some.inj hspawned
    simp [newTask] at hstate
  · rw [tasks_spawnTask_of_ne hother] at hspawned
    exact h other spawned hspawned hstate

/-- Every event keeps it true that tasks run when they are due. -/
theorem Moves.due {e : ChaosEvent ι} (hmoves : s.Moves expected e t) (h : s.Due) : t.Due := by
  cases hmoves with
  | nothing => exact h
  | tick => exact fun call task htask hstate => Nat.le_succ_of_le (h call task htask hstate)
  | refuse => exact h
  | spawn => exact h.spawnTask _ _
  | insert => exact h
  | wake htask hdue => exact h.moveTask fun _ => hdue
  | @expire call task htask hawake => exact Due.moveTask h fun _ => h call task htask (.inl hawake)
  | stop => exact h
  | cancel => exact Due.moveTask h fun hstate => by simp at hstate

/-- In every run tasks run when they are due. -/
theorem due_run (expected : Option String) (events : List (ChaosEvent ι)) :
    (events.foldl (ChaosServiceImpl.step expected) default).Due := by
  induction events using List.reverseRecOn with
  | nil => exact fun _ _ htask => by cases htask
  | append_singleton events e ih =>
      rw [List.foldl_concat]
      exact (step_moves expected _ e).due ih

omit [DecidableEq ι] [FloatParser] in
/-- Scenarios that are listed within their durations are listed before their tasks have run. -/
theorem insertsInTime_of_insertsBeforeDue {e : ChaosEvent ι} (h : s.InsertsBeforeDue e)
    (hdue : s.Due) : s.InsertsInTime e := by
  intro call scenarioType id scenario heq _ ⟨task, htask, hfinished⟩
  have hbefore : s.clock < task.due := h call task heq htask
  have hafter : task.due ≤ s.clock := hdue call task htask (.inr hfinished)
  omega

/-- In a run whose scenarios are listed within their durations, they are listed before their tasks
have run. -/
theorem throughout_insertsInTime {events : List (ChaosEvent ι)}
    (h : Throughout (ChaosServiceImpl.step expected) InsertsBeforeDue default events) :
    Throughout (ChaosServiceImpl.step expected) InsertsInTime default events :=
  fun pre e hpre => insertsInTime_of_insertsBeforeDue (h pre e hpre) (due_run expected pre)

/-! ### A scenario that is listed late -/

/-- A call whose task runs as soon as it is due, before the call goes on. -/
def lateInsertion (call : ι) (request : Request ChaosRequest) (duration : Nat) :
    List (ChaosEvent ι) :=
  .inject call request :: List.replicate duration .tick ++ [.wake call, .expire call, .insert call]

/-- Time passes. -/
theorem foldl_tick (s : ChaosServiceImpl ι) (n : Nat) :
    (List.replicate n ChaosEvent.tick).foldl (step expected) s =
      { s with clock := s.clock + n } := by
  induction n generalizing s with
  | zero => rfl
  | succ n ih =>
      rw [List.replicate_succ, List.foldl_cons, ih]
      simp only [step, Nat.add_right_comm _ 1 n, Nat.add_assoc]

/-- A task that is due may run before the scenario it is for is listed. -/
theorem lingers_of_due {scenarioType id : String} {scenario : ChaosScenario}
    (hcall : s.calls call = .spawned scenarioType id scenario) (htask : s.tasks call = some task)
    (hsleeping : task.state = .sleeping) (hdue : task.due ≤ s.clock) :
    ([.wake call, .expire call, .insert call].foldl (step expected) s).Lingers := by
  have hwake : step expected s (.wake call) = s.moveTask call task .awake := by
    simp [step, htask, hsleeping, hdue]
  have hexpire : step expected (s.moveTask call task .awake) (.expire call) =
      (s.moveTask call task .awake).removeScenario call { task with state := .awake } := by
    simp [step]
  have hinsert : step expected ((s.moveTask call task .awake).removeScenario call
        { task with state := .awake }) (.insert call) =
      ((s.moveTask call task .awake).removeScenario call
        { task with state := .awake }).insertScenario call scenarioType id scenario := by
    simp [step, removeScenario, moveTask, hcall]
  rw [List.foldl_cons, hwake, List.foldl_cons, hexpire, List.foldl_cons, hinsert]
  exact lingers_insertScenario (ran_moveTask_self.mpr rfl) _ _ _

/-- Every request that the service accepts may leave its scenario lingering. -/
theorem lingers_lateInsertion (call : ι) {request : Request ChaosRequest} {scenario : ChaosScenario}
    (hcheck : checkScenario expected request = .ok scenario) :
    ((lateInsertion call request scenario.durationMs.toNat).foldl (step expected)
      default).Lingers := by
  have hspawn : step expected default (.inject call request) =
      default.spawnTask call request.message.scenarioType scenario := by
    simp only [step, default, spawnExpiry, hcheck]
  unfold lateInsertion
  rw [List.cons_append, List.foldl_cons, hspawn, List.foldl_append, foldl_tick]
  exact lingers_of_due (calls_spawnTask_self _ _) (tasks_spawnTask_self _ _) rfl (Nat.le_refl _)

end ChaosServiceImpl

end InfoVulcan.Chaos

/-! ## A run -/

namespace InfoVulcan.Chaos

/-- A scenario that is to expire at once. -/
def latencyForNoTime : Request ChaosRequest where
  token := none
  message :=
    { scenarioType := "network_latency"
      parameters := fun key => if key = "duration_ms" then some "0" else none }

/-- Floating point numbers are not parsed. -/
@[reducible] def noFloats : FloatParser where
  parseF64 _ := none

/-- The task of a scenario that is to expire at once runs before the scenario is listed, which
stays listed after that. -/
theorem expired_scenario_listed :
    ¬ Always (@ChaosServiceImpl.step Unit _ noFloats none) (fun s => ¬ s.Lingers) .default
      (ChaosServiceImpl.lateInsertion () latencyForNoTime 0) := by
  intro halways
  have hcheck : @ChaosServiceImpl.checkScenario noFloats none latencyForNoTime =
      .ok (.networkLatency "all" 100 0) := rfl
  have hlingers := @ChaosServiceImpl.lingers_lateInsertion Unit _ noFloats none () _ _ hcheck
  exact halways _ List.prefix_rfl hlingers

end InfoVulcan.Chaos
