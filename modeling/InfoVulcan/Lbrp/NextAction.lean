import InfoVulcan.Custodian.TicketEffects
import InfoVulcan.Lbrp.Routes

/-!
# Next actions through the proxy

A next action that a client writes passes four conversions before it is read again: to the message
of the proxy, to the domain type the custodian stores, back to a message and to the listed form.
They lead back to what was written exactly when the calendar reaches the time and the schedule has
a name; anything else is stored as a default, and the update is accepted all the same.
-/

namespace InfoVulcan.Lbrp

open Custodian

/-- The next action a client is to read after it has written one. -/
def ApiNextActionInput.shown : ApiNextActionInput → Option ApiNextAction
  | .none => Option.none
  | .followUp seconds => some (.followUp seconds)
  | .appointment seconds => some (.appointment seconds)
  | .autoClose schedule => some (.autoClose schedule)

/-- The names of the schedules. -/
def scheduleNames : List String :=
  ["end_of_day", "hours_24", "hours_48", "hours_72"]

variable [Chrono]

/-- The services can represent the next action: the calendar reaches its time, or its schedule has
one of the four names. -/
def ApiNextActionInput.Representable : ApiNextActionInput → Prop
  | .none => True
  | .followUp seconds => (Chrono.fromTimestamp seconds 0).isSome
  | .appointment seconds => (Chrono.fromTimestamp seconds 0).isSome
  | .autoClose schedule => schedule ∈ scheduleNames

/-- The next action that is read after one has been written, through the four conversions. -/
def readBack (input : ApiNextActionInput) : Option ApiNextAction :=
  (Custodian.mapNextAction (protoToNextAction (toProtoNextAction input))).bind mapNextAction

/-- The name of a schedule once it has passed both services. -/
theorem readBack_autoClose (schedule : String) :
    readBack (.autoClose schedule) =
      some (.autoClose (if schedule ∈ scheduleNames then schedule else "end_of_day")) := by
  by_cases h₂₄ : schedule = "hours_24"
  · subst h₂₄
    rfl
  by_cases h₄₈ : schedule = "hours_48"
  · subst h₄₈
    rfl
  by_cases h₇₂ : schedule = "hours_72"
  · subst h₇₂
    rfl
  have hproto : toProtoNextAction (.autoClose schedule) = ⟨some (.autoClose 1)⟩ := by
    simp [toProtoNextAction]
  have hname : (if schedule ∈ scheduleNames then schedule else "end_of_day") = "end_of_day" := by
    by_cases hday : schedule = "end_of_day" <;> simp [scheduleNames, hday, h₂₄, h₄₈, h₇₂]
  rw [readBack, hproto, hname]
  rfl

variable [LawfulChrono]

/-- The seconds of a time are kept by reading and sending them exactly when the calendar reaches
them. -/
theorem seconds_protoToDt_iff (seconds : Int64) :
    (Chrono.toProto (protoToDt ⟨seconds, 0⟩)).seconds = seconds ↔
      (Chrono.fromTimestamp seconds 0).isSome := by
  constructor
  case mp =>
    intro hseconds
    cases htime : Chrono.fromTimestamp seconds 0 with
    | some time => rfl
    | none =>
        -- Only the beginning of unix time would do, and that is reached.
        have hdefault : protoToDt ⟨seconds, 0⟩ = Chrono.default := by
          show (Chrono.fromTimestamp seconds 0).getD Chrono.default = Chrono.default
          rw [htime]
          rfl
        rw [hdefault, toProto_default] at hseconds
        rw [← hseconds, LawfulChrono.fromTimestamp_zero] at htime
        cases htime
  case mpr =>
    intro hreached
    rw [(toProto_protoToDt_iff _).mpr ((reachable_seconds_iff seconds).mpr hreached)]

/-- A next action reads back as written exactly when the services can represent it. -/
theorem readBack_iff (input : ApiNextActionInput) :
    readBack input = input.shown ↔ input.Representable := by
  cases input with
  | none => exact ⟨fun _ => trivial, fun _ => rfl⟩
  | followUp seconds =>
      refine Iff.trans ?_ (seconds_protoToDt_iff seconds)
      simp [readBack, toProtoNextAction, protoToNextAction, Custodian.mapNextAction, mapNextAction,
        ApiNextActionInput.shown]
  | appointment seconds =>
      refine Iff.trans ?_ (seconds_protoToDt_iff seconds)
      simp [readBack, toProtoNextAction, protoToNextAction, Custodian.mapNextAction, mapNextAction,
        ApiNextActionInput.shown]
  | autoClose schedule =>
      rw [readBack_autoClose, ApiNextActionInput.shown, ApiNextActionInput.Representable]
      by_cases hname : schedule ∈ scheduleNames
      · simp [hname]
      · have hday : "end_of_day" ≠ schedule := by
          rintro rfl
          exact hname (by decide)
        simp [hname, hday]

section Handlers

variable [Primitives] [LockFormat] [TicketFormat] [UuidParser] [Db.RowFormat] [FailureText]

omit [LawfulChrono] in
/-- An update that the custodian accepts is accepted. -/
theorem updateTicket_eq_ok {custodian : CustodianServiceImpl} {locks db db' : Sled}
    {now updatedAt : Chrono.DateTime} {entropy : Primitives.Entropy} {sub : String} {id : UInt64}
    {payload : UpdateTicketRequest} {message : TicketMessage} (broken : String)
    (h : custodian.updateTicket locks db now updatedAt entropy
      (updateTicketRequest id sub payload) = (.ok message, db')) :
    updateTicket custodian locks db now updatedAt entropy broken id sub payload =
      (.ok (.ofTicket message), db') := by
  simp only [updateTicket, h]

omit [LawfulChrono] in
/-- After an accepted update, reading the ticket shows the next action after the four
conversions. -/
theorem getTicket_of_accepted {custodian : CustodianServiceImpl} {locks db db' : Sled}
    {now updatedAt : Chrono.DateTime} {entropy : Primitives.Entropy} {broken sub : String}
    {id : UInt64} {payload : UpdateTicketRequest} {input : ApiNextActionInput} {ticket : ApiTicket}
    (hinput : payload.nextAction = some input)
    (haccepted : updateTicket custodian locks db now updatedAt entropy broken id sub payload =
      (.ok ticket, db')) :
    (getTicket custodian db' broken id).map ApiTicket.nextAction = .ok (readBack input) := by
  rcases updateTicket_cases_of_stored custodian locks db now updatedAt entropy
      (updateTicketRequest id sub payload) with
    ⟨stop, herror⟩ | ⟨updater, old, updated, db'', -, hupdated, hold, hnew, -, hok⟩
  · simp only [updateTicket, herror] at haccepted
    cases haccepted
  · simp only [updateTicket, hok] at haccepted
    obtain ⟨-, rfl⟩ := Prod.mk.inj haccepted
    have hclient : custodian.dbClient = true := dbClient_of_accepted hok
    have hnext : updated.nextAction = protoToNextAction (toProtoNextAction input) := by
      rw [(applyUpdates_eq hupdated).1]
      simp [updateTicketRequest, hinput]
    have hget : custodian.getTicket db'' id = _ := hnew.getTicket hclient
    rw [getTicket, hget, readBack, ← hnext]
    rfl

/-- After an update that sets a next action and is accepted, reading the ticket shows the next
action as it was written exactly when the services can represent it. -/
theorem next_action_reads_back_iff {custodian : CustodianServiceImpl} {locks db db' : Sled}
    {now updatedAt : Chrono.DateTime} {entropy : Primitives.Entropy} {broken sub : String}
    {id : UInt64} {payload : UpdateTicketRequest} {input : ApiNextActionInput} {ticket : ApiTicket}
    (hinput : payload.nextAction = some input)
    (haccepted : updateTicket custodian locks db now updatedAt entropy broken id sub payload =
      (.ok ticket, db')) :
    (getTicket custodian db' broken id).map ApiTicket.nextAction = .ok input.shown ↔
      input.Representable := by
  rw [getTicket_of_accepted hinput haccepted, ← readBack_iff input, Except.ok.injEq]

end Handlers

end InfoVulcan.Lbrp

/-! ## Runs on the JSON formats -/

namespace InfoVulcan.Lbrp

open scoped SerdeJson
open Custodian SerdeJson

/-- A request that sets the next action only. -/
def scheduling (input : ApiNextActionInput) : UpdateTicketRequest where
  title := none
  project := none
  priority := none
  status := none
  nextAction := some input

/-- The holder of a lock may set any next action. -/
theorem accepted_scheduling (input : ApiNextActionInput) :
    ∃ ticket db', updateTicket custodian firstLocks firstDb CivilTime.unixEpoch
      CivilTime.unixEpoch [] "broken pipe" 1 (toString holder) (scheduling input) =
        (.ok ticket, db') := by
  obtain ⟨message, db', hok⟩ := accepted_update
    (updateTicketRequest 1 (toString holder) (scheduling input)) rfl rfl rfl rfl
  exact ⟨.ofTicket message, db', updateTicket_eq_ok "broken pipe" hok⟩

/-- A follow-up in November 2023 reads back as written. -/
theorem next_action_reads_back_follow_up :
    ∃ ticket db', updateTicket custodian firstLocks firstDb CivilTime.unixEpoch
        CivilTime.unixEpoch [] "broken pipe" 1 (toString holder)
        (scheduling (.followUp 1700000000)) = (.ok ticket, db') ∧
      (getTicket custodian db' "broken pipe" 1).map ApiTicket.nextAction =
        .ok (some (.followUp 1700000000)) := by
  obtain ⟨ticket, db', haccepted⟩ := accepted_scheduling (.followUp 1700000000)
  have hinput : (scheduling (.followUp 1700000000)).nextAction =
      some (.followUp 1700000000) := rfl
  have hreached : (CivilTime.fromTimestamp 1700000000 0).isSome := by decide
  have hrepresentable : ApiNextActionInput.Representable (.followUp 1700000000) := hreached
  exact ⟨ticket, db', haccepted,
    (next_action_reads_back_iff hinput haccepted).mpr hrepresentable⟩

/-- A follow-up at the end of all seconds is accepted, and does not read back as written: it is
stored for the beginning of unix time. -/
theorem out_of_range_follow_up_replaced :
    ∃ ticket db', updateTicket custodian firstLocks firstDb CivilTime.unixEpoch
        CivilTime.unixEpoch [] "broken pipe" 1 (toString holder)
        (scheduling (.followUp 9223372036854775807)) = (.ok ticket, db') ∧
      (getTicket custodian db' "broken pipe" 1).map ApiTicket.nextAction ≠
        .ok (ApiNextActionInput.shown (.followUp 9223372036854775807)) := by
  obtain ⟨ticket, db', haccepted⟩ := accepted_scheduling (.followUp 9223372036854775807)
  have hinput : (scheduling (.followUp 9223372036854775807)).nextAction =
      some (.followUp 9223372036854775807) := rfl
  have hread : readBack (.followUp 9223372036854775807) = some (.followUp 0) := by decide
  refine ⟨ticket, db', haccepted, fun hsame => ?_⟩
  rw [getTicket_of_accepted hinput haccepted, hread] at hsame
  cases hsame

end InfoVulcan.Lbrp
