import InfoVulcan.Custodian.Server

/-!
# The workflow as the console knows it

The console keeps a mirror of the statuses, of their numbers and of the transitions between them,
so that a form offers only what the custodian accepts. Here the mirror is compared with the
workflow of the tickets: the statuses it offers are the ones the custodian lets the ticket take
(`mem_allowedTransitions_iff`, `canTransition_iff`).
-/

namespace InfoVulcan.Web

open Custodian (enumByte enumInt)

/-! ## Numbers -/

def OPEN : Int32 := 0
def AWAITING_CUSTOMER : Int32 := 1
def AWAITING_ISP : Int32 := 2
def AWAITING_PARTNER : Int32 := 3
def SUPPORT_HOLD : Int32 := 4
def HANDED_OFF : Int32 := 5
def APPOINTMENT_SCHEDULED : Int32 := 6
def EBOND_RECEIVED : Int32 := 7
def VOICEMAIL_RECEIVED : Int32 := 8
def AUTO_CLOSE : Int32 := 254
def CLOSED : Int32 := 255

/-- The statuses with their labels. -/
def STATUSES : List (Int32 × String) :=
  [(OPEN, "Open"), (AWAITING_CUSTOMER, "Awaiting Customer"), (AWAITING_ISP, "Awaiting ISP"),
    (AWAITING_PARTNER, "Awaiting Partner"), (SUPPORT_HOLD, "Support Hold"),
    (HANDED_OFF, "Handed Off"), (APPOINTMENT_SCHEDULED, "Appointment Scheduled"),
    (EBOND_RECEIVED, "Ebond Received"), (VOICEMAIL_RECEIVED, "Voicemail Received"),
    (AUTO_CLOSE, "Auto-Close"), (CLOSED, "Closed")]

/-- The label of a status. A number that is not a status is shown as a number. -/
def statusLabel (value : Int32) : String :=
  match STATUSES.find? fun (v, _) => v == value with
  | some (_, label) => label
  | none => s!"Status {value}"

/-- The statuses that a form offers for a ticket besides its own. -/
def allowedTransitions (source : Int32) : List Int32 :=
  if source = OPEN then
    [AWAITING_CUSTOMER, AWAITING_ISP, AWAITING_PARTNER, SUPPORT_HOLD, HANDED_OFF,
      APPOINTMENT_SCHEDULED, EBOND_RECEIVED, VOICEMAIL_RECEIVED, CLOSED, AUTO_CLOSE]
  else if source = AWAITING_CUSTOMER then
    [OPEN, SUPPORT_HOLD, APPOINTMENT_SCHEDULED, EBOND_RECEIVED, VOICEMAIL_RECEIVED, CLOSED,
      AUTO_CLOSE]
  else if source = AWAITING_ISP then [OPEN, SUPPORT_HOLD, EBOND_RECEIVED, CLOSED, AUTO_CLOSE]
  else if source = AWAITING_PARTNER then [OPEN, SUPPORT_HOLD, HANDED_OFF, CLOSED, AUTO_CLOSE]
  else if source = SUPPORT_HOLD then
    [OPEN, AWAITING_CUSTOMER, AWAITING_ISP, AWAITING_PARTNER, APPOINTMENT_SCHEDULED, CLOSED,
      AUTO_CLOSE]
  else if source = HANDED_OFF then [OPEN, AWAITING_PARTNER, CLOSED, AUTO_CLOSE]
  else if source = APPOINTMENT_SCHEDULED then
    [OPEN, AWAITING_CUSTOMER, SUPPORT_HOLD, CLOSED, AUTO_CLOSE]
  else if source = EBOND_RECEIVED then [OPEN, AWAITING_ISP, CLOSED, AUTO_CLOSE]
  else if source = VOICEMAIL_RECEIVED then [OPEN, AWAITING_CUSTOMER, CLOSED, AUTO_CLOSE]
  else []

/-- Whether a form lets a ticket move from one status to another. -/
def canTransition (source target : Int32) : Bool :=
  source == target || (allowedTransitions source).contains target

/-! ## The mirror and the workflow -/

/-- The number of a status, as it is shown. -/
def number (s : TicketStatus) : Int32 :=
  enumInt s.toU8

/-- The custodian reads a status back from its number. -/
@[simp] theorem fromU8_number (s : TicketStatus) :
    TicketStatus.fromU8 (enumByte (number s)) = s := by
  cases s <;> decide

/-- Distinct statuses have distinct numbers. -/
theorem number_inj {s t : TicketStatus} : number s = number t ↔ s = t := by
  refine ⟨fun h => ?_, fun h => h ▸ rfl⟩
  rw [← fromU8_number s, h, fromU8_number]

/-- The form offers the numbers of the transitions of the workflow, in the same order. -/
theorem allowedTransitions_number (s : TicketStatus) :
    allowedTransitions (number s) = s.allowedTransitions.map number := by
  cases s <;> decide

/-- A form lets a ticket move to the numbers of the statuses that the workflow allows, and to no
other number. -/
theorem canTransition_iff (s : TicketStatus) (target : Int32) :
    canTransition (number s) target ↔ ∃ t, target = number t ∧ s.canTransitionTo t := by
  rw [canTransition, Bool.or_eq_true, beq_iff_eq, allowedTransitions_number, List.contains_iff_mem,
    List.mem_map]
  constructor
  · rintro (rfl | ⟨t, ht, rfl⟩)
    · exact ⟨s, rfl, TicketStatus.canTransitionTo_iff.mpr (.inl rfl)⟩
    · exact ⟨t, rfl, TicketStatus.canTransitionTo_iff.mpr (.inr ht)⟩
  · rintro ⟨t, rfl, ht⟩
    rcases TicketStatus.canTransitionTo_iff.mp ht with rfl | ht
    · exact .inl rfl
    · exact .inr ⟨t, ht, rfl⟩

end InfoVulcan.Web
