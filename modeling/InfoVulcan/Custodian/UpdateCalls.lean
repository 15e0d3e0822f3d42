import InfoVulcan.Custodian.Server
import InfoVulcan.Library.ReadModifyWrite

/-!
# Concurrent ticket updates

`System` is the state the ticket updates of a custodian share: the locks, the DB, the clock, and
how far each update call has come. A call takes one step at a time, lock commands and the passing
of time happen in between (`System.step`). `history` lists the writes the DB has applied, each with
the record it was computed from; no step depends on it.
-/

namespace InfoVulcan.Custodian

open Db (TicketRecord)

variable [Chrono]

/-! ## Calls -/

/-- How far an update call has come. A prepared call carries the record it has fetched and the
number of writes the ticket had received by then. -/
inductive CallState where
  | received (req : UpdateTicketRequest)
  | locked (req : UpdateTicketRequest) (updater : Uuid)
  | prepared (req : UpdateTicketRequest) (base : TicketRecord) (seen : Nat)
      (write : CustodianServiceImpl.PreparedWrite)
  | answered (req : UpdateTicketRequest) (response : Except (Stop Status) TicketMessage)

namespace CallState

/-- The ticket a call is about to write, with the number of writes it has seen. The DB refuses the
id zero. -/
def pending : CallState → Option (BasedWrite UInt64)
  | prepared req _ seen _ => if req.ticketId = 0 then none else some (req.ticketId, seen)
  | _ => none

/-- The call is neither about to write nor has it been answered with a ticket. -/
def IsQuiet : CallState → Prop
  | prepared .. => False
  | answered _ (.ok _) => False
  | _ => True

theorem IsQuiet.pending_eq_none {c : CallState} (h : c.IsQuiet) : c.pending = none := by
  cases c with
  | prepared => exact h.elim
  | received | locked | answered => rfl

end CallState

/-- A write that the DB has applied: the call and its request, the record it was computed from,
the number of writes the ticket had received when that record was read, what was written, and the
answer to a read right after the write. -/
structure AppliedWrite where
  call : Nat
  request : UpdateTicketRequest
  base : TicketRecord
  seen : Nat
  write : CustodianServiceImpl.PreparedWrite
  left : Except Status TicketRecord

/-- The ticket that was written. -/
def AppliedWrite.ticketId (w : AppliedWrite) : UInt64 :=
  w.request.ticketId

/-- The writes as entries of a read-modify-write log. -/
def journal (history : List AppliedWrite) : List (BasedWrite UInt64) :=
  history.map fun w => (w.ticketId, w.seen)

/-- The latest write to a ticket. -/
def lastOn (history : List AppliedWrite) (ticketId : UInt64) : Option AppliedWrite :=
  (history.filter fun w => w.ticketId = ticketId).getLast?

@[simp] theorem lastOn_append (history : List AppliedWrite) (w : AppliedWrite)
    (ticketId : UInt64) :
    lastOn (history ++ [w]) ticketId =
      if w.ticketId = ticketId then some w else lastOn history ticketId := by
  rw [lastOn, List.filter_append, List.filter_singleton]
  split_ifs with h <;> simp_all [lastOn]

theorem mem_of_lastOn {history : List AppliedWrite} {ticketId : UInt64} {w : AppliedWrite}
    (h : lastOn history ticketId = some w) : w ∈ history :=
  List.mem_of_mem_filter (List.mem_of_getLast? h)

/-! ## The system -/

/-- The state shared by the update calls. -/
structure System where
  locks : Sled
  db : Sled
  now : Chrono.DateTime
  calls : List CallState
  history : List AppliedWrite

namespace System

/-- A system without calls. -/
def start (locks db : Sled) (now : Chrono.DateTime) : System where
  locks := locks
  db := db
  now := now
  calls := []
  history := []

/-- The state of one call changes. -/
def setCall (sys : System) (i : Nat) (c : CallState) : System :=
  { sys with calls := sys.calls.set i c }

/-- The write a call is about to make. -/
def pending (sys : System) (i : Nat) : Option (BasedWrite UInt64) :=
  (sys.calls[i]?).bind CallState.pending

/-- The calls as workers that read and write tickets. -/
def desk (sys : System) : Desk Nat UInt64 where
  pending := sys.pending
  log := journal sys.history

theorem pending_setCall {sys : System} {i : Nat} {c : CallState} (h : sys.calls[i]? = some c)
    (c' : CallState) :
    (sys.setCall i c').pending = Function.update sys.pending i c'.pending := by
  have hlt : i < sys.calls.length := (List.getElem?_eq_some_iff.mp h).1
  funext j
  by_cases hj : i = j
  · subst hj
    simp [pending, setCall, hlt]
  · simp [pending, setCall, List.getElem?_set_ne hj, Function.update_of_ne (Ne.symm hj)]

end System

variable [Primitives]

/-- What can happen next: a request arrives, a call takes its next step, a lock command is
committed, or time passes. The row is computed with a reading of the clock and random bytes of its
own. -/
inductive Event where
  | receive (req : UpdateTicketRequest)
  | checkLock (call : Nat)
  | readRow (call : Nat) (updatedAt : Chrono.DateTime) (entropy : Primitives.Entropy)
  | writeRow (call : Nat)
  | lockCommand (command : LockCommand)
  | tick (now : Chrono.DateTime)

variable [LockFormat] [Db.RowFormat] [TicketFormat] [UuidParser] [FailureText]

/-- One step of the system. A call that is not there, or not in the right place, takes none. -/
def System.step (service : CustodianServiceImpl) (sys : System) : Event → Option System
  | .receive req => some { sys with calls := sys.calls ++ [.received req] }
  | .checkLock i =>
      match sys.calls[i]? with
      | some (.received req) =>
          match CustodianServiceImpl.checkLock sys.locks sys.now req with
          | .error status => some (sys.setCall i (.answered req (.error (.error status))))
          | .ok updater => some (sys.setCall i (.locked req updater))
      | _ => none
  | .readRow i updatedAt entropy =>
      match sys.calls[i]? with
      | some (.locked req updater) =>
          match service.fetchRecord sys.db req.ticketId with
          | .error status => some (sys.setCall i (.answered req (.error (.error status))))
          | .ok record =>
              match service.prepareUpdate req updater updatedAt entropy record with
              | .error stop => some (sys.setCall i (.answered req (.error stop)))
              | .ok write =>
                  let seen := writesTo (journal sys.history) req.ticketId
                  some (sys.setCall i (.prepared req record seen write))
      | _ => none
  | .writeRow i =>
      match sys.calls[i]? with
      | some (.prepared req base seen write) =>
          match CustodianServiceImpl.writeTicket sys.db req.ticketId write with
          | (.error status, db) =>
              some { sys.setCall i (.answered req (.error (.error status))) with db }
          | (.ok message, db) =>
              let left := Db.DatabaseService.getTicket db req.ticketId false
              some { sys.setCall i (.answered req (.ok message)) with
                db
                history := sys.history ++ [⟨i, req, base, seen, write, left⟩] }
      | _ => none
  | .lockCommand command =>
      some { sys with locks := (CustodianStateMachine.apply sys.locks command).2 }
  | .tick now => some { sys with now }

/-! ## Steps that are taken -/

section Steps

variable {service : CustodianServiceImpl} {sys : System} {i : Nat} {req : UpdateTicketRequest}

/-- A request that passes the checks is locked. -/
theorem System.step_checkLock {updater : Uuid} (hcall : sys.calls[i]? = some (.received req))
    (hlock : CustodianServiceImpl.checkLock sys.locks sys.now req = .ok updater) :
    sys.step service (.checkLock i) = some (sys.setCall i (.locked req updater)) := by
  simp [System.step, hcall, hlock]

/-- A call whose new row can be computed is prepared. -/
theorem System.step_readRow {updater : Uuid} {record : TicketRecord}
    {write : CustodianServiceImpl.PreparedWrite} {updatedAt : Chrono.DateTime}
    {entropy : Primitives.Entropy} (hcall : sys.calls[i]? = some (.locked req updater))
    (hfetch : service.fetchRecord sys.db req.ticketId = .ok record)
    (hprepare : service.prepareUpdate req updater updatedAt entropy record = .ok write) :
    sys.step service (.readRow i updatedAt entropy) =
      some (sys.setCall i
        (.prepared req record (writesTo (journal sys.history) req.ticketId) write)) := by
  simp [System.step, hcall, hfetch, hprepare]

/-- A prepared call whose write succeeds is answered. -/
theorem System.step_writeRow {base : TicketRecord} {seen : Nat}
    {write : CustodianServiceImpl.PreparedWrite} {message : TicketMessage} {db : Sled}
    (hcall : sys.calls[i]? = some (.prepared req base seen write))
    (hwrite : CustodianServiceImpl.writeTicket sys.db req.ticketId write = (.ok message, db)) :
    sys.step service (.writeRow i) =
      some { sys.setCall i (.answered req (.ok message)) with
        db
        history := sys.history ++ [⟨i, req, base, seen, write,
          Db.DatabaseService.getTicket db req.ticketId false⟩] } := by
  simp [System.step, hcall, hwrite]

end Steps

end InfoVulcan.Custodian
