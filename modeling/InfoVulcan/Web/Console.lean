import InfoVulcan.Lbrp.NextAction
import InfoVulcan.Library.Decimal
import InfoVulcan.Library.Text
import InfoVulcan.Web.Domain

/-!
# The form for changes to a ticket

The console has one form for changes. It is filled from a ticket that has been loaded or created,
takes edits of each field as text, and is sent as it stands. A reply to a change replaces the ticket
of the form, not what the fields say.

The form lets a status through exactly when the custodian takes it from the status the form knows
(`form_policy_exact`). A form that is sent as it was filled leaves the ticket as it is shown,
through the form, the proxy and the custodian (`unedited_form_changes_nothing`).
-/

namespace InfoVulcan.Web

open Decimal (parseI32 parseI64)
open Lbrp (ApiTicket ApiNextAction ApiNextActionInput UpdateTicketRequest updateTicketRequest)
open Text (isWhiteSpace trim)

/-! ## The form -/

/-- The form: the ticket it is about, and the texts of its fields. -/
structure UpdateForm where
  ticket : Option ApiTicket
  title : String
  project : String
  priority : String
  status : String
  naKind : String
  naAt : String
  naSchedule : String
  deriving DecidableEq

namespace UpdateForm

def initial : UpdateForm := ⟨none, "", "", "", "", "unchanged", "", "end_of_day"⟩

/-- The statuses the form offers: that of the ticket and those it may move to. -/
def statusOptions (form : UpdateForm) : List Int32 :=
  match form.ticket with
  | some t => t.status :: allowedTransitions t.status
  | none => STATUSES.map Prod.fst

/-- Fills the fields besides the next action. -/
def fill (form : UpdateForm) (t : ApiTicket) : UpdateForm :=
  { form with
    ticket := some t
    title := t.title
    project := t.project
    priority := toString t.priority
    status := toString t.status }

/-- Fills the form from a ticket. A text of the next action that the ticket does not say stays. -/
def loadIntoForm (form : UpdateForm) (t : ApiTicket) : UpdateForm :=
  match t.nextAction with
  | some (.followUp seconds) =>
      { form.fill t with naKind := "follow_up", naAt := toString seconds }
  | some (.appointment seconds) =>
      { form.fill t with naKind := "appointment", naAt := toString seconds }
  | some (.autoClose schedule) =>
      { form.fill t with naKind := "auto_close", naSchedule := schedule }
  | none => { form.fill t with naKind := "unchanged" }

/-! ## Sending -/

/-- A call for a change. -/
structure UpdateCall where
  token : String
  ticketId : UInt64
  payload : UpdateTicketRequest
  deriving DecidableEq

def isBlank (text : String) : Bool :=
  trim text == ""

/-- The number in a field. A blank field has none. -/
def enumField (text message : String) : Except String (Option Int32) :=
  if isBlank text then .ok none
  else match parseI32 text with
  | some value => .ok (some value)
  | none => .error message

/-- The text in a field, unless it is blank. -/
def textField (text : String) : Option String :=
  if isBlank text then none else some text

/-- Turns down a status that the ticket may not move to. -/
def checkTransition (current : ApiTicket) : Option Int32 → Except String Unit
  | some next =>
      if canTransition current.status next then .ok ()
      else .error
        s!"Illegal transition: {statusLabel current.status} → {statusLabel next} is not allowed."
  | none => .ok ()

/-- The change of the next action. -/
def readNextAction (form : UpdateForm) : Except String (Option ApiNextActionInput) :=
  match form.naKind with
  | "none" => .ok (some .none)
  | "follow_up" | "appointment" =>
      match parseI64 (trim form.naAt) with
      | none => .error "Next-action time must be a unix-seconds integer."
      | some seconds =>
          .ok (some (if form.naKind = "follow_up" then .followUp seconds
            else .appointment seconds))
  | "auto_close" => .ok (some (.autoClose form.naSchedule))
  | _ => .ok none

/-- What the button for changes does: the call that is sent, or the error that is shown. -/
def onUpdateTicket (token : Option String) (form : UpdateForm) : Except String UpdateCall := do
  let some token := token | .error "Missing auth token. Please sign in again."
  let some current := form.ticket | .error "Load a ticket before updating."
  let priority ← enumField form.priority "Update priority must be a valid integer enum value."
  let status ← enumField form.status "Update status must be a valid integer enum value."
  checkTransition current status
  let nextAction ← form.readNextAction
  return ⟨token, current.ticketId,
    ⟨textField form.title, textField form.project, priority, status, nextAction⟩⟩

end UpdateForm

/-! ## Events -/

/-- What happens to the form: a ticket arrives for it, a reply to a change arrives, a field is
edited, or the button is pressed. -/
inductive FormEvent where
  | loaded (t : ApiTicket)
  | created (t : ApiTicket)
  | updated (t : ApiTicket)
  | title (text : String)
  | project (text : String)
  | priority (text : String)
  | status (text : String)
  | nextAction (kind : String)
  | nextActionAt (text : String)
  | schedule (name : String)
  | send

namespace UpdateForm

/-- The form after an event. A ticket that has been created leaves the next action as it stands. -/
def step (form : UpdateForm) : FormEvent → UpdateForm
  | .loaded t => form.loadIntoForm t
  | .created t => form.fill t
  | .updated t => { form with ticket := some t }
  | .title text => { form with title := text }
  | .project text => { form with project := text }
  | .priority text => { form with priority := text }
  | .status text => { form with status := text }
  | .nextAction kind => { form with naKind := kind }
  | .nextActionAt text => { form with naAt := text }
  | .schedule name => { form with naSchedule := name }
  | .send => form

/-- The form after some events. -/
def run (form : UpdateForm) (events : List FormEvent) : UpdateForm :=
  events.foldl step form

end UpdateForm

/-! ## What is sent -/

namespace UpdateForm

variable {token : Option String} {form : UpdateForm} {call : UpdateCall} {current : ApiTicket}

/-- A call is sent for the ticket of the form, with what its fields say, if they can be read and
the ticket may move to the status. -/
theorem onUpdateTicket_eq_ok :
    onUpdateTicket token form = .ok call ↔
      ∃ tok current priority status nextAction, token = some tok ∧ form.ticket = some current ∧
        enumField form.priority "Update priority must be a valid integer enum value." =
          .ok priority ∧
        enumField form.status "Update status must be a valid integer enum value." = .ok status ∧
        checkTransition current status = .ok () ∧ form.readNextAction = .ok nextAction ∧
        call = ⟨tok, current.ticketId,
          ⟨textField form.title, textField form.project, priority, status, nextAction⟩⟩ := by
  unfold onUpdateTicket
  cases token with
  | none => simp
  | some tok =>
      cases form.ticket with
      | none => simp
      | some current =>
          cases hpriority : enumField form.priority
              "Update priority must be a valid integer enum value." with
          | error message => simp [bind, Except.bind]
          | ok priority =>
              cases hstatus : enumField form.status
                  "Update status must be a valid integer enum value." with
              | error message => simp [bind, Except.bind]
              | ok status =>
                  cases hcheck : checkTransition current status with
                  | error message => simp [bind, Except.bind, hcheck]
                  | ok =>
                      cases hnext : form.readNextAction with
                      | error message => simp [bind, Except.bind, hcheck]
                      | ok nextAction =>
                          simp [bind, Except.bind, hcheck, pure, Except.pure, eq_comm]

/-- The check lets through the statuses the ticket may move to. -/
theorem checkTransition_eq_ok {status : Option Int32} :
    checkTransition current status = .ok () ↔
      ∀ next ∈ status, canTransition current.status next := by
  cases status with
  | none => simp [checkTransition]
  | some next => simp [checkTransition]

/-! ### Numbers in fields -/

/-- A number has no white space, and is not empty. -/
theorem trim_toString_int (n : Int) : trim (toString n) = toString n ∧ toString n ≠ "" := by
  have hdigit : ∀ c ∈ Nat.toDigits 10 n.natAbs, isWhiteSpace c = false := fun c hc =>
    Text.isWhiteSpace_of_isDigit (Nat.isDigit_of_mem_toDigits (by decide) (by decide) hc)
  have hlist := Decimal.toList_toString_int n
  constructor
  · refine Text.trim_eq_self fun c hc => ?_
    rw [hlist] at hc
    split at hc
    · rcases List.mem_cons.mp hc with rfl | hc
      · decide
      · exact hdigit c hc
    · exact hdigit c hc
  · intro hempty
    rw [hempty] at hlist
    split at hlist
    · cases hlist
    · exact Nat.toDigits_ne_nil hlist.symm

theorem isBlank_toString (n : Int32) : isBlank (toString n) = false := by
  obtain ⟨htrim, hne⟩ := trim_toString_int n.toInt
  have htext : toString n = toString n.toInt := rfl
  rw [isBlank, htext, htrim]
  exact beq_eq_false_iff_ne.mpr hne

/-- A number is read from the field it has been written to. -/
theorem enumField_toString (n : Int32) (message : String) :
    enumField (toString n) message = .ok (some n) := by
  rw [enumField, isBlank_toString, if_neg Bool.false_ne_true, Decimal.parseI32_toString]

theorem parseI64_trim_toString (n : Int64) : parseI64 (trim (toString n)) = some n := by
  have htext : toString n = toString n.toInt := rfl
  rw [htext, (trim_toString_int n.toInt).1, ← htext, Decimal.parseI64_toString]

/-! ## The policy -/

section Policy

variable [Chrono] {old : Ticket}

open Custodian (CustodianServiceImpl enumByte)

/-- The fields besides the status can be read. -/
def Readable (form : UpdateForm) : Prop :=
  (∃ priority, enumField form.priority "Update priority must be a valid integer enum value." =
    .ok priority) ∧ ∃ nextAction, form.readNextAction = .ok nextAction

/-- The custodian takes a status exactly when the workflow allows it. -/
theorem applyStatus_number_iff (s : TicketStatus) :
    (∃ updated, CustodianServiceImpl.applyStatus old (some (number s)) = .ok updated) ↔
      old.status.canTransitionTo s := by
  rw [CustodianServiceImpl.applyStatus, fromU8_number]
  by_cases h : old.status.canTransitionTo s <;> simp [h]

variable [UuidParser]

/-- A change of the proxy is made if the custodian takes its status, and sets that status. -/
theorem applyUpdates_of_canTransition (id : UInt64) (sub : String) {payload : UpdateTicketRequest}
    (h : ∀ value ∈ payload.status, canTransition (number old.status) value) :
    ∃ updated, CustodianServiceImpl.applyUpdates (updateTicketRequest id sub payload) old =
        .ok updated ∧
      ∀ value ∈ payload.status, number updated.status = value := by
  have hstatus : (updateTicketRequest id sub payload).status = payload.status := rfl
  have hassigned : (updateTicketRequest id sub payload).assignedToUuid = none := rfl
  unfold CustodianServiceImpl.applyUpdates
  rw [hstatus, hassigned]
  cases hvalue : payload.status with
  | none => exact ⟨_, rfl, nofun⟩
  | some value =>
      obtain ⟨s, rfl, hcan⟩ := (canTransition_iff _ _).mp (h value hvalue)
      simp only [CustodianServiceImpl.applyStatus, fromU8_number, hcan, if_true]
      exact ⟨_, rfl, fun value hmem => (Option.some.inj hmem) ▸ rfl⟩

/-- As long as the form knows the status of the ticket, it offers exactly the statuses that the
custodian takes, sends no call that the custodian turns down for its status, and turns down no
status that the custodian takes. -/
theorem form_policy_exact (hticket : form.ticket = some current)
    (hstatus : current.status = number old.status) :
    (∀ value, value ∈ form.statusOptions ↔
      ∃ s, value = number s ∧ old.status.canTransitionTo s) ∧
    (∀ token call sub, onUpdateTicket token form = .ok call →
      ∃ updated, CustodianServiceImpl.applyUpdates
          (updateTicketRequest call.ticketId sub call.payload) old = .ok updated ∧
        ∀ value ∈ call.payload.status, number updated.status = value) ∧
    ∀ tok s, form.Readable → form.status = toString (number s) →
      ((∃ call, onUpdateTicket (some tok) form = .ok call) ↔
        ∃ updated, CustodianServiceImpl.applyStatus old (some (number s)) = .ok updated) := by
  refine ⟨fun value => ?_, fun token call sub hcall => ?_, fun tok s hreadable htext => ?_⟩
  · rw [statusOptions, hticket, ← canTransition_iff, canTransition, ← hstatus]
    simp only [List.mem_cons, Bool.or_eq_true, beq_iff_eq, List.contains_iff_mem, @eq_comm _ value]
  · obtain ⟨_, current', _, status, _, -, hcurrent, -, -, hcheck, -, rfl⟩ :=
      onUpdateTicket_eq_ok.mp hcall
    obtain rfl := Option.some.inj (hticket.symm.trans hcurrent)
    exact applyUpdates_of_canTransition _ _ fun value hvalue =>
      hstatus ▸ checkTransition_eq_ok.mp hcheck value hvalue
  -- Both sides come down to the transition being allowed.
  · have hread := enumField_toString (number s)
      "Update status must be a valid integer enum value."
    rw [← htext] at hread
    rw [applyStatus_number_iff]
    constructor
    · rintro ⟨call, hcall⟩
      obtain ⟨_, current', _, status, _, -, hcurrent, -, hfield, hcheck, -, rfl⟩ :=
        onUpdateTicket_eq_ok.mp hcall
      obtain rfl := Option.some.inj (hticket.symm.trans hcurrent)
      obtain rfl := Except.ok.inj (hread.symm.trans hfield)
      have hcan := checkTransition_eq_ok.mp hcheck (number s) rfl
      rw [hstatus] at hcan
      obtain ⟨t, hnumber, ht⟩ := (canTransition_iff _ _).mp hcan
      exact number_inj.mp hnumber ▸ ht
    · intro hcan
      obtain ⟨⟨priority, hpriority⟩, nextAction, hnext⟩ := hreadable
      have hcheck : checkTransition current (some (number s)) = .ok () := by
        refine checkTransition_eq_ok.mpr fun next hnext => ?_
        rw [← Option.some.inj hnext, hstatus]
        exact (canTransition_iff _ _).mpr ⟨s, rfl, hcan⟩
      exact ⟨_, onUpdateTicket_eq_ok.mpr ⟨tok, current, priority, _, nextAction, rfl, hticket,
        hpriority, hread, hcheck, hnext, rfl⟩⟩

end Policy

/-! ## Sending a form as it was filled -/

section Unedited

open Custodian (CustodianServiceImpl TicketFormat LockFormat)

/-- A next action that is listed, as it is written. -/
def input : ApiNextAction → ApiNextActionInput
  | .followUp seconds => .followUp seconds
  | .appointment seconds => .appointment seconds
  | .autoClose schedule => .autoClose schedule

/-- The change that a form asks for as it was filled from a ticket. -/
def unedited (t : ApiTicket) : UpdateTicketRequest where
  title := textField t.title
  project := textField t.project
  priority := some t.priority
  status := some t.status
  nextAction := t.nextAction.map input

theorem canTransition_self (status : Int32) : canTransition status status := by
  simp [canTransition]

/-- The form as it was filled says what the ticket says. -/
theorem readNextAction_loadIntoForm (form : UpdateForm) (t : ApiTicket) :
    (form.loadIntoForm t).readNextAction = .ok (t.nextAction.map input) := by
  cases hnext : t.nextAction with
  | none => simp [loadIntoForm, hnext, readNextAction]
  | some action =>
      cases action with
      | followUp seconds =>
          simp [loadIntoForm, hnext, readNextAction, parseI64_trim_toString, input]
      | appointment seconds =>
          simp [loadIntoForm, hnext, readNextAction, parseI64_trim_toString, input]
      | autoClose schedule => simp [loadIntoForm, hnext, readNextAction, input]

section Filled

variable (form : UpdateForm) (t : ApiTicket)

@[simp] theorem loadIntoForm_ticket : (form.loadIntoForm t).ticket = some t := by
  unfold loadIntoForm
  split <;> rfl

@[simp] theorem loadIntoForm_title : (form.loadIntoForm t).title = t.title := by
  unfold loadIntoForm
  split <;> rfl

@[simp] theorem loadIntoForm_project : (form.loadIntoForm t).project = t.project := by
  unfold loadIntoForm
  split <;> rfl

@[simp] theorem loadIntoForm_priority : (form.loadIntoForm t).priority = toString t.priority := by
  unfold loadIntoForm
  split <;> rfl

@[simp] theorem loadIntoForm_status : (form.loadIntoForm t).status = toString t.status := by
  unfold loadIntoForm
  split <;> rfl

end Filled

/-- The ticket of the form after some events: that of the last reply. -/
def lastReply (t : ApiTicket) (events : List FormEvent) : ApiTicket :=
  events.foldl (fun u e => match e with | .updated u' => u' | _ => u) t

/-- Sending the form, and replies, change the ticket of the form and nothing of what its fields
say. -/
theorem run_unedited {form : UpdateForm} {t : ApiTicket} (hticket : form.ticket = some t)
    {events : List FormEvent} (hevents : ∀ e ∈ events, e = .send ∨ ∃ u, e = .updated u) :
    form.run events = { form with ticket := some (lastReply t events) } := by
  induction events generalizing form t with
  | nil => rw [run, lastReply, List.foldl_nil, List.foldl_nil, ← hticket]
  | cons e events ih =>
      have hrest : ∀ e' ∈ events, e' = .send ∨ ∃ u, e' = .updated u :=
        fun e' he' => hevents e' (List.mem_cons_of_mem _ he')
      rcases hevents e List.mem_cons_self with rfl | ⟨u, rfl⟩
      · exact ih hticket hrest
      · have hreplied : run { form with ticket := some u } events =
            { form with ticket := some (lastReply u events) } := ih rfl hrest
        exact hreplied

/-- After a ticket has been loaded, whatever replies arrive, the form is sent as it was filled, to
the ticket of the last reply, if that may move to the status that was loaded. -/
theorem onUpdateTicket_unedited {tok : String} {form : UpdateForm} {t : ApiTicket}
    {events : List FormEvent} (hevents : ∀ e ∈ events, e = .send ∨ ∃ u, e = .updated u) :
    onUpdateTicket (some tok) ((form.step (.loaded t)).run events) = .ok call ↔
      canTransition (lastReply t events).status t.status ∧
        call = ⟨tok, (lastReply t events).ticketId, unedited t⟩ := by
  have hnext : readNextAction { form.loadIntoForm t with ticket := some (lastReply t events) } =
      .ok (t.nextAction.map input) := readNextAction_loadIntoForm form t
  show onUpdateTicket (some tok) ((form.loadIntoForm t).run events) = .ok call ↔ _
  rw [run_unedited (loadIntoForm_ticket form t) hevents, onUpdateTicket_eq_ok, hnext]
  simp only [loadIntoForm_title, loadIntoForm_project, loadIntoForm_priority, loadIntoForm_status,
    enumField_toString, Except.ok.injEq, Option.some.injEq]
  constructor
  · rintro ⟨_, _, _, _, _, rfl, rfl, rfl, rfl, hcheck, rfl, rfl⟩
    exact ⟨checkTransition_eq_ok.mp hcheck _ rfl, rfl⟩
  · rintro ⟨hcan, rfl⟩
    exact ⟨tok, _, _, _, _, rfl, rfl, rfl, rfl,
      checkTransition_eq_ok.mpr fun next hmem => Option.some.inj hmem ▸ hcan, rfl, rfl⟩

variable [Chrono] [LawfulChrono]

/-- The ticket is shown for one that is stored. -/
def Shown (t : ApiTicket) : Prop :=
  ∃ ticket : Ticket, t = .ofTicket (Custodian.domainToProto ticket)

/-- The calendar reaches the time of the next action. -/
def Timely (t : ApiTicket) : Prop :=
  ∀ seconds, t.nextAction = some (.followUp seconds) ∨ t.nextAction = some (.appointment seconds) →
    (Chrono.fromTimestamp seconds 0).isSome

/-- A next action as it is listed. -/
def listed (action : NextAction) : Option ApiNextAction :=
  (Custodian.mapNextAction action).bind Lbrp.mapNextAction

/-- A next action that is written as it is listed is listed the same, and no next action leaves the
one there was. -/
theorem listed_written (action old : NextAction)
    (htimely : ∀ seconds, listed action = some (.followUp seconds) ∨
      listed action = some (.appointment seconds) → (Chrono.fromTimestamp seconds 0).isSome) :
    listed ((((listed action).map input).map Lbrp.toProtoNextAction |>.map
      Custodian.protoToNextAction).getD old) = (listed action).or (listed old) := by
  cases action with
  | none => rfl
  | followUp time =>
      exact (Lbrp.readBack_iff (.followUp (Chrono.toProto time).seconds)).mpr
        (htimely _ (.inl rfl))
  | appointment time =>
      exact (Lbrp.readBack_iff (.appointment (Chrono.toProto time).seconds)).mpr
        (htimely _ (.inr rfl))
  | autoClose schedule => cases schedule <;> rfl

omit [Chrono] [LawfulChrono] in
theorem fromU8_enumInt_priority (p : TicketPriority) :
    TicketPriority.fromU8 (Custodian.enumByte (Custodian.enumInt p.toU8)) = p := by
  cases p <;> decide

/-- A ticket with what another says, where that says something. -/
def overwritten (t before : ApiTicket) : ApiTicket where
  ticketId := before.ticketId
  title := (textField t.title).getD before.title
  project := (textField t.project).getD before.project
  priority := t.priority
  status := t.status
  nextAction := t.nextAction.or before.nextAction

omit [Chrono] [LawfulChrono] in
theorem textField_getD (text : String) : (textField text).getD text = text := by
  unfold textField
  split <;> rfl

omit [Chrono] [LawfulChrono] in
/-- A ticket is not changed by what it says itself. -/
theorem overwritten_self (t : ApiTicket) : overwritten t t = t := by
  rw [overwritten, textField_getD, textField_getD, Option.or_self]

omit [LawfulChrono] in
theorem updateTicketRequest_unedited (id : UInt64) (sub : String) (ticket : Ticket) :
    updateTicketRequest id sub (unedited (.ofTicket (Custodian.domainToProto ticket))) =
      { ticketId := id
        title := textField ticket.title
        project := textField ticket.project
        symptom := none
        priority := some (Custodian.enumInt ticket.priority.toU8)
        status := some (number ticket.status)
        nextAction := ((listed ticket.nextAction).map input).map Lbrp.toProtoNextAction
        resolution := none
        assignedToUuid := none
        updatedByUuid := some sub
        ebond := none
        trackingUrl := none
        networkDevices := [] } := rfl

/-- The ticket that the change of an unedited form leads to is shown with what the form says. -/
theorem shown_of_unedited [UuidParser] {t : ApiTicket} (hshown : Shown t) (htimely : Timely t)
    {id : UInt64} {sub : String} {old updated : Ticket}
    (h : CustodianServiceImpl.applyUpdates (updateTicketRequest id sub (unedited t)) old =
      .ok updated) (updater : Uuid) (updatedAt : Chrono.DateTime) :
    ApiTicket.ofTicket (Custodian.domainToProto { updated with updatedBy := updater, updatedAt }) =
      overwritten t (.ofTicket (Custodian.domainToProto old)) := by
  obtain ⟨ticket, rfl⟩ := hshown
  rw [updateTicketRequest_unedited] at h
  obtain ⟨hupdated, -⟩ := Custodian.applyUpdates_eq h
  simp only [Option.map_some, Option.getD_some, fromU8_enumInt_priority, fromU8_number] at hupdated
  have hnext : listed updated.nextAction =
      (listed ticket.nextAction).or (listed old.nextAction) := by
    rw [hupdated]
    exact listed_written ticket.nextAction old.nextAction htimely
  rw [ApiTicket.ofTicket, overwritten, ApiTicket.mk.injEq]
  exact ⟨by rw [hupdated]; rfl, by rw [hupdated]; rfl, by rw [hupdated]; rfl,
    by rw [hupdated]; rfl, by rw [hupdated]; rfl, hnext⟩

variable [Primitives] [LockFormat] [TicketFormat] [UuidParser] [Db.RowFormat] [FailureText]

/-- A change of an unedited form that is accepted overwrites the ticket it is sent to, and no
other. -/
theorem updateTicket_unedited {custodian : CustodianServiceImpl} {locks db db' : Sled}
    {now updatedAt : Chrono.DateTime} {entropy : Primitives.Entropy} {broken sub : String}
    {id : UInt64} {t reply : ApiTicket} (hshown : Shown t) (htimely : Timely t)
    (haccepted : Lbrp.updateTicket custodian locks db now updatedAt entropy broken id sub
      (unedited t) = (.ok reply, db')) :
    ∃ before, Lbrp.getTicket custodian db broken id = .ok before ∧ reply = overwritten t before ∧
      Lbrp.getTicket custodian db' broken id = .ok reply ∧
      ∀ j, j ≠ id →
        Lbrp.getTicket custodian db' broken j = Lbrp.getTicket custodian db broken j := by
  rcases Custodian.updateTicket_cases_of_stored custodian locks db now updatedAt entropy
      (updateTicketRequest id sub (unedited t)) with
    ⟨stop, herror⟩ | ⟨updater, old, updated, db'', -, hupdated, hold, hnew, hother, hok⟩
  · simp only [Lbrp.updateTicket, herror] at haccepted
    cases haccepted
  · simp only [Lbrp.updateTicket, hok] at haccepted
    obtain ⟨hreply, rfl⟩ := Prod.mk.inj haccepted
    have hclient : custodian.dbClient = true := Custodian.dbClient_of_accepted hok
    have hgot : custodian.getTicket db id = _ := hold.getTicket hclient
    have hgot' : custodian.getTicket db'' id = _ := hnew.getTicket hclient
    refine ⟨.ofTicket (Custodian.domainToProto old), by rw [Lbrp.getTicket, hgot], ?_, ?_,
      fun j hj => ?_⟩
    · rw [← Except.ok.inj hreply]
      exact shown_of_unedited hshown htimely hupdated updater updatedAt
    · rw [Lbrp.getTicket, hgot']
      exact hreply
    -- Other tickets are read from rows that have not been touched.
    · have hfetch : custodian.fetchRecord db'' j = custodian.fetchRecord db j := by
        rw [CustodianServiceImpl.fetchRecord, CustodianServiceImpl.fetchRecord, hother j hj]
      rw [Lbrp.getTicket, Lbrp.getTicket, CustodianServiceImpl.getTicket,
        CustodianServiceImpl.getTicket, hfetch]

omit [LawfulChrono] [LockFormat] [UuidParser] in
/-- What the proxy shows is stored. -/
theorem shown_of_getTicket {custodian : CustodianServiceImpl} {db : Sled} {broken : String}
    {id : UInt64} {t : ApiTicket} (h : Lbrp.getTicket custodian db broken id = .ok t) :
    Shown t := by
  rw [Lbrp.getTicket, CustodianServiceImpl.getTicket] at h
  cases hfetch : custodian.fetchRecord db id with
  | error status =>
      rw [hfetch] at h
      cases h
  | ok record =>
      rw [hfetch] at h
      cases hread : custodian.decryptTicket record.ticketId record.encryptedBody with
      | error stop =>
          simp only [hread, Except.map] at h
          cases h
      | ok ticket =>
          simp only [hread, Except.map] at h
          exact ⟨ticket, (Except.ok.inj h).symm⟩

/-- A form that has been filled from a ticket can be sent, however often it has been sent and
answered with that ticket before. As long as the services show the ticket, a call that is accepted
is answered with it, and they show every ticket as before. -/
theorem unedited_form_changes_nothing (tok : String) (form : UpdateForm) {t : ApiTicket}
    {events : List FormEvent} (hevents : ∀ e ∈ events, e = .send ∨ e = .updated t)
    (htimely : Timely t) (custodian : CustodianServiceImpl) (broken : String) :
    ∃ call, onUpdateTicket (some tok) ((form.step (.loaded t)).run events) = .ok call ∧
      ∀ locks db db' now updatedAt entropy sub reply,
        Lbrp.getTicket custodian db broken t.ticketId = .ok t →
        Lbrp.updateTicket custodian locks db now updatedAt entropy broken call.ticketId sub
          call.payload = (.ok reply, db') →
        reply = t ∧ ∀ id, Lbrp.getTicket custodian db' broken id =
          Lbrp.getTicket custodian db broken id := by
  have hlast : lastReply t events = t := by
    rw [lastReply]
    induction events with
    | nil => rfl
    | cons e events ih =>
        have hrest := ih fun e' he' => hevents e' (List.mem_cons_of_mem _ he')
        rcases hevents e List.mem_cons_self with rfl | rfl <;> exact hrest
  refine ⟨⟨tok, t.ticketId, unedited t⟩, ?_, ?_⟩
  · rw [onUpdateTicket_unedited fun e he => (hevents e he).imp_right fun h => ⟨t, h⟩, hlast]
    exact ⟨canTransition_self _, rfl⟩
  intro locks db db' now updatedAt entropy sub reply hshown haccepted
  -- The ticket that is overwritten is the one that was loaded.
  obtain ⟨before, hbefore, hreply, hafter, hother⟩ :=
    updateTicket_unedited (shown_of_getTicket hshown) htimely haccepted
  have ht : t = before := Except.ok.inj (hshown.symm.trans hbefore)
  rw [← ht, overwritten_self] at hreply
  refine ⟨hreply, fun id => ?_⟩
  by_cases hid : id = t.ticketId
  · rw [hid, hshown, ← hreply]
    exact hreply ▸ hafter
  · exact hother id hid

/-- After a ticket has been loaded and not edited, whatever replies to earlier changes arrive, the
form is sent as it was filled to the ticket of the last reply, if the policy of the form allows its
status to change to the one that was loaded. If the call is accepted, the ticket it is sent to is
overwritten with what was loaded, whatever it has been changed to in between. -/
theorem unedited_form_overwrites (tok : String) (form : UpdateForm) {t : ApiTicket}
    {events : List FormEvent} (hevents : ∀ e ∈ events, e = .send ∨ ∃ u, e = .updated u)
    (hshown : Shown t) (htimely : Timely t) (custodian : CustodianServiceImpl) (broken : String) :
    (∀ call, onUpdateTicket (some tok) ((form.step (.loaded t)).run events) = .ok call ↔
      canTransition (lastReply t events).status t.status ∧
        call = ⟨tok, (lastReply t events).ticketId, unedited t⟩) ∧
    ∀ locks db db' now updatedAt entropy sub reply,
      Lbrp.updateTicket custodian locks db now updatedAt entropy broken
        (lastReply t events).ticketId sub (unedited t) = (.ok reply, db') →
      ∃ before, Lbrp.getTicket custodian db broken (lastReply t events).ticketId = .ok before ∧
        reply = overwritten t before ∧
        Lbrp.getTicket custodian db' broken (lastReply t events).ticketId = .ok reply ∧
        ∀ j, j ≠ (lastReply t events).ticketId →
          Lbrp.getTicket custodian db' broken j = Lbrp.getTicket custodian db broken j :=
  ⟨fun _ => onUpdateTicket_unedited hevents,
    fun _ _ _ _ _ _ _ _ haccepted => updateTicket_unedited hshown htimely haccepted⟩

end Unedited

end UpdateForm

end InfoVulcan.Web

/-! ## Runs on the JSON formats -/

namespace InfoVulcan.Web.UpdateForm

open scoped SerdeJson
open SerdeJson
open Custodian (firstTicket firstDb firstLocks firstRecord holder CustodianServiceImpl)
open Lbrp (ApiTicket updateTicketRequest)

/-- The first ticket, as it is shown. -/
def firstShown : ApiTicket :=
  .ofTicket (Custodian.domainToProto firstTicket)

theorem timely_firstShown : Timely firstShown := by
  have hnext : firstShown.nextAction = none := rfl
  intro seconds h
  rw [hnext] at h
  rcases h with h | h <;> cases h

/-- The first ticket is loaded and set to closed. -/
def closingForm : UpdateForm :=
  (initial.step (.loaded firstShown)).step (.status "255")

/-- The form may close the open ticket. -/
theorem form_policy_exact_closing :
    (∀ value, value ∈ closingForm.statusOptions ↔
      ∃ s, value = number s ∧ firstTicket.status.canTransitionTo s) ∧
    ∃ call, onUpdateTicket (some "token") closingForm = .ok call := by
  have hticket : closingForm.ticket = some firstShown := rfl
  have hstatus : firstShown.status = number firstTicket.status := rfl
  obtain ⟨hoptions, -, hsent⟩ := form_policy_exact hticket hstatus
  refine ⟨hoptions, (hsent "token" .closed ⟨⟨_, enumField_toString _ _⟩, _, rfl⟩ ?_).mpr ?_⟩
  · rfl
  · exact (applyStatus_number_iff .closed).mpr (by decide)

/-- Whoever has just taken the lock of a ticket may send it an unedited form. -/
theorem updateTicket_unedited_accepted {id : UInt64} (hid : id ≠ 0) {db : Sled} {ticket : Ticket}
    (hstored : Custodian.Stores custodian db id ticket) {t : ApiTicket}
    (hcan : canTransition (number ticket.status) t.status) :
    ∃ reply db', Lbrp.updateTicket custodian
      (Custodian.CustodianStateMachine.apply Keyspace.empty (.acquireLock id holder 100 900)).2 db
      CivilTime.unixEpoch CivilTime.unixEpoch [] "broken pipe" id (toString holder) (unedited t) =
        (.ok reply, db') := by
  have hlock : CustodianServiceImpl.checkLock _ CivilTime.unixEpoch
      (updateTicketRequest id (toString holder) (unedited t)) = .ok holder :=
    Custodian.checkLock_acquired rfl rfl
  obtain ⟨record, hget, hread⟩ := hstored
  have hfetch : custodian.fetchRecord db id = .ok record := by
    rw [CustodianServiceImpl.fetchRecord, hget]
    rfl
  obtain ⟨updated, hupdated, -⟩ := applyUpdates_of_canTransition id (toString holder)
    fun value (hvalue : value ∈ (unedited t).status) => Option.some.inj hvalue ▸ hcan
  obtain ⟨db', hok⟩ := Custodian.updateTicket_eq_ok hlock hfetch
    (Custodian.prepareUpdate_eq_ok hread hupdated (encryptTicket_eq _)) hid
  exact ⟨_, db', Lbrp.updateTicket_eq_ok "broken pipe" hok⟩

theorem stores_firstTicket : Custodian.Stores custodian firstDb 1 firstTicket :=
  ⟨firstRecord, Custodian.fetchRecord_eq_ok Custodian.fetchRecord_firstDb,
    Custodian.reads_firstRecord⟩

/-- A ticket that is stored is shown. -/
theorem getTicket_of_stores {db : Sled} {id : UInt64} {ticket : Ticket}
    (h : Custodian.Stores custodian db id ticket) :
    Lbrp.getTicket custodian db "broken pipe" id =
      .ok (.ofTicket (Custodian.domainToProto ticket)) := by
  rw [Lbrp.getTicket, h.getTicket rfl]

/-- The first ticket is loaded and saved again. -/
theorem unedited_form_changes_nothing_first :
    ∃ call db', onUpdateTicket (some "token")
        ((initial.step (.loaded firstShown)).run [.send, .updated firstShown]) = .ok call ∧
      Lbrp.updateTicket custodian firstLocks firstDb CivilTime.unixEpoch CivilTime.unixEpoch []
        "broken pipe" call.ticketId (toString holder) call.payload = (.ok firstShown, db') ∧
      ∀ id, Lbrp.getTicket custodian db' "broken pipe" id =
        Lbrp.getTicket custodian firstDb "broken pipe" id := by
  have hevents : ∀ e ∈ [FormEvent.send, .updated firstShown],
      e = .send ∨ e = .updated firstShown := by simp
  obtain ⟨call, hcall, hsent⟩ :=
    unedited_form_changes_nothing "token" initial hevents timely_firstShown custodian "broken pipe"
  obtain ⟨-, rfl⟩ := (onUpdateTicket_unedited fun e he =>
    (hevents e he).imp_right fun h => ⟨firstShown, h⟩).mp hcall
  obtain ⟨reply, db', haccepted⟩ := updateTicket_unedited_accepted (t := firstShown)
    (by decide) stores_firstTicket (canTransition_self _)
  obtain ⟨rfl, hkept⟩ := hsent _ _ _ _ _ _ _ _ (getTicket_of_stores stores_firstTicket) haccepted
  exact ⟨_, db', hcall, haccepted, hkept⟩

/-- A second ticket, which will be closed at the end of the day. -/
def secondTicket : Ticket :=
  { Ticket.new 2 "second title" "second project" ⟨2⟩ .unknown holder CivilTime.unixEpoch with
    nextAction := .autoClose .endOfDay }

/-- The DB with both tickets. -/
def secondDb : Sled :=
  ((Db.LogEntry.createTicket (ticketBody secondTicket)
    (Db.ticketIndexFromProto (Custodian.ticketIndex secondTicket))).apply firstDb).2

/-- The second ticket, as it is shown. -/
def secondShown : ApiTicket :=
  .ofTicket (Custodian.domainToProto secondTicket)

theorem represents_secondDb : ∃ T, Db.Represents T secondDb ∧
    T.rows 1 = some (Db.Table.fresh (ticketBody firstTicket)
      (Db.ticketIndexFromProto (Custodian.ticketIndex firstTicket))) ∧
    T.rows 2 = some (Db.Table.fresh (ticketBody secondTicket)
      (Db.ticketIndexFromProto (Custodian.ticketIndex secondTicket))) :=
  ⟨_, Custodian.represents_firstDb.apply rfl fun _ => by decide, rfl, rfl⟩

/-- A row under the id of its ticket stores the ticket. -/
theorem stores_of_row {db : Sled} {T : Db.TicketTable} (hT : Db.Represents T db) (ticket : Ticket)
    (hrow : T.rows ticket.ticketId = some (Db.Table.fresh (ticketBody ticket)
      (Db.ticketIndexFromProto (Custodian.ticketIndex ticket)))) :
    Custodian.Stores custodian db ticket.ticketId ticket :=
  ⟨_, Custodian.fetchRecord_eq_ok (Custodian.fetchRecord_of_row hT hrow rfl),
    custodian.decryptTicket_encryptTicket (encryptTicket_eq ticket) ticket.ticketId⟩

/-- The first ticket is loaded, and the reply to a change of the second one arrives. The next save
is accepted and gives the second ticket what the first one says, besides its next action. -/
theorem unedited_form_overwrites_late :
    ∃ call db', onUpdateTicket (some "token")
        ((initial.step (.loaded firstShown)).run [.send, .updated secondShown]) = .ok call ∧
      Lbrp.updateTicket custodian
        (Custodian.CustodianStateMachine.apply Keyspace.empty (.acquireLock 2 holder 100 900)).2
        secondDb CivilTime.unixEpoch CivilTime.unixEpoch [] "broken pipe" call.ticketId
        (toString holder) call.payload = (.ok (overwritten firstShown secondShown), db') ∧
      Lbrp.getTicket custodian secondDb "broken pipe" 2 = .ok secondShown ∧
      Lbrp.getTicket custodian db' "broken pipe" 2 = .ok (overwritten firstShown secondShown) ∧
      Lbrp.getTicket custodian db' "broken pipe" 1 = .ok firstShown := by
  have hevents : ∀ e ∈ [FormEvent.send, .updated secondShown],
      e = .send ∨ ∃ u, e = .updated u := by simp
  obtain ⟨hsent, hoverwrites⟩ := unedited_form_overwrites "token" initial hevents
    ⟨firstTicket, rfl⟩ timely_firstShown custodian "broken pipe"
  obtain ⟨T, hT, hfirst, hsecond⟩ := represents_secondDb
  have hstored := stores_of_row hT secondTicket hsecond
  have hshown := getTicket_of_stores hstored
  obtain ⟨reply, db', haccepted⟩ := updateTicket_unedited_accepted (t := firstShown)
    (by decide) hstored (canTransition_self _)
  obtain ⟨before, hbefore, rfl, hafter, hother⟩ := hoverwrites _ _ _ _ _ _ _ _ haccepted
  obtain rfl : secondShown = before := Except.ok.inj (hshown.symm.trans hbefore)
  refine ⟨_, db', (hsent _).mpr ⟨canTransition_self _, rfl⟩, haccepted, hshown, hafter, ?_⟩
  exact (hother 1 (by decide)).trans
    (getTicket_of_stores (stores_of_row hT firstTicket hfirst))

end InfoVulcan.Web.UpdateForm
