import InfoVulcan.Custodian.Json
import InfoVulcan.Custodian.UpdateCalls
import InfoVulcan.Custodian.UpdateTicket
import InfoVulcan.Db.TicketIndex

/-!
# Lost ticket updates

The lock of a ticket is checked once, before the ticket is read, so two updates of one ticket can
both read it before either writes. `Recorded` is what every reachable state of the system records
about its writes; it holds whatever the order of steps. Whether an update is lost is decided by the
read-modify-write log (`System.desk`): none is as long as every write finds no other call between
its read and its write of the same ticket. What a request sets in a field that is never read from it
is acknowledged as well, and is in the ticket only if it was there before (`AsksStored`).
-/

namespace InfoVulcan.Custodian

open Db (TicketRecord)
open Db.DatabaseService (getTicket)

variable [Chrono]

/-! ## What every state records -/

section Recording

variable [Primitives] [Db.RowFormat] [TicketFormat] [UuidParser]
variable {service : CustodianServiceImpl}

/-- A call about to write a ticket has computed the write from the record it has fetched. The
ticket is still there, and unless it was written in between, a read still returns the record. -/
structure Prepared (service : CustodianServiceImpl) (db : Sled) (history : List AppliedWrite)
    (req : UpdateTicketRequest) (base : TicketRecord) (seen : Nat)
    (write : CustodianServiceImpl.PreparedWrite) : Prop where
  computed : ComputedFrom service req base write
  stored : ∃ record, getTicket db req.ticketId false = .ok record
  seen_le : seen ≤ writesTo (journal history) req.ticketId
  current : seen = writesTo (journal history) req.ticketId →
    getTicket db req.ticketId false = .ok base
  ticketId : base.ticketId = req.ticketId

/-- A call stays prepared when another call writes. -/
theorem Prepared.write {db db' : Sled} {history : List AppliedWrite} {req : UpdateTicketRequest}
    {base : TicketRecord} {seen : Nat} {write : CustodianServiceImpl.PreparedWrite}
    {w : AppliedWrite} {record : TicketRecord}
    (h : Prepared service db history req base seen write)
    (hread : getTicket db' w.ticketId false = .ok record)
    (hother : ∀ j, j ≠ w.ticketId → getTicket db' j false = getTicket db j false) :
    Prepared service db' (history ++ [w]) req base seen write := by
  have hcount : writesTo (journal (history ++ [w])) req.ticketId =
      writesTo (journal history) req.ticketId + if w.ticketId = req.ticketId then 1 else 0 := by
    simp [journal]
  have hle := h.seen_le
  by_cases hticket : w.ticketId = req.ticketId
  · rw [if_pos hticket] at hcount
    exact ⟨h.computed, ⟨record, hticket ▸ hread⟩, by omega, fun _ => by omega, h.ticketId⟩
  · rw [if_neg hticket] at hcount
    have hsame := hother _ (Ne.symm hticket)
    refine ⟨h.computed, hsame ▸ h.stored, by omega, fun hseen => ?_, h.ticketId⟩
    rw [hsame]
    exact h.current (by omega)

/-- A write was computed from its record and has left a record that holds the ticket written. If
it had seen all the writes before it, its record is the one the latest of these has left. -/
structure Applied (service : CustodianServiceImpl) (pre : List AppliedWrite) (w : AppliedWrite) :
    Prop where
  computed : ComputedFrom service w.request w.base w.write
  left : ∃ record, w.left = .ok record ∧ Reads service record w.write.ticket
  base : w.seen = writesTo (journal pre) w.ticketId →
    ∀ last, lastOn pre w.ticketId = some last → last.left = .ok w.base

/-- What every reachable state records about calls and writes. -/
structure Recorded (service : CustodianServiceImpl) (sys : System) : Prop where
  prepared : ∀ {i : Nat} {req base seen write},
    sys.calls[i]? = some (CallState.prepared req base seen write) →
    Prepared service sys.db sys.history req base seen write
  answered : ∀ {i : Nat} {req message},
    sys.calls[i]? = some (CallState.answered req (.ok message)) →
    ∃ w ∈ sys.history, w.call = i ∧ w.request = req ∧ message = domainToProto w.write.ticket
  applied : ∀ {pre w post}, sys.history = pre ++ w :: post → Applied service pre w
  current : ∀ {ticketId w}, lastOn sys.history ticketId = some w →
    w.left = getTicket sys.db ticketId false

theorem recorded_start (locks db : Sled) (now : Chrono.DateTime) :
    Recorded service (System.start locks db now) where
  prepared h := by simp [System.start] at h
  answered h := by simp [System.start] at h
  applied h := by simp [System.start] at h
  current h := by simp [System.start, lastOn] at h

variable [FailureText]

/-- What a step can do to calls, DB and writes: nothing that matters here, or prepare a call, or
apply its write. -/
inductive Effect (service : CustodianServiceImpl) (sys sys' : System) : Event → Prop where
  | quiet {e : Event} (hwrite : ∀ i, e = .writeRow i → sys.pending i = none)
      (hdb : sys'.db = sys.db) (hhistory : sys'.history = sys.history)
      (hcalls : ∀ j, sys'.calls[j]? = sys.calls[j]? ∨
        sys.pending j = none ∧ ∃ c, sys'.calls[j]? = some c ∧ c.IsQuiet) : Effect service sys sys' e
  | read {i : Nat} {updatedAt : Chrono.DateTime} {entropy : Primitives.Entropy}
      {req : UpdateTicketRequest} {updater : Uuid} {base : TicketRecord}
      {write : CustodianServiceImpl.PreparedWrite}
      (hcall : sys.calls[i]? = some (.locked req updater))
      (hfetch : getTicket sys.db req.ticketId false = .ok base)
      (hwrite : ComputedFrom service req base write)
      (hsys : sys' = sys.setCall i
        (.prepared req base (writesTo (journal sys.history) req.ticketId) write)) :
      Effect service sys sys' (.readRow i updatedAt entropy)
  | write {i : Nat} {req : UpdateTicketRequest} {base : TicketRecord} {seen : Nat}
      {write : CustodianServiceImpl.PreparedWrite} {db : Sled}
      (hcall : sys.calls[i]? = some (.prepared req base seen write)) (hid : req.ticketId ≠ 0)
      (hwrite : CustodianServiceImpl.writeTicket sys.db req.ticketId write =
        (.ok (domainToProto write.ticket), db))
      (hsys : sys' = { sys.setCall i (.answered req (.ok (domainToProto write.ticket))) with
        db
        history := sys.history ++
          [⟨i, req, base, seen, write,
            getTicket db req.ticketId false⟩] }) :
      Effect service sys sys' (.writeRow i)

variable {sys sys' : System} {e : Event}

/-- A call that goes to a quiet state is of no further consequence. -/
theorem Effect.setCall {i : Nat} {c c' : CallState} (hcall : sys.calls[i]? = some c)
    (hpending : c.pending = none) (hquiet : c'.IsQuiet)
    (hwrite : ∀ j, e = .writeRow j → sys.pending j = none) :
    Effect service sys (sys.setCall i c') e := by
  refine .quiet hwrite rfl rfl fun j => ?_
  have hlt : i < sys.calls.length := (List.getElem?_eq_some_iff.mp hcall).1
  by_cases hj : i = j
  · subst hj
    exact .inr ⟨by simp [System.pending, hcall, hpending],
      c', by simp [System.setCall, hlt], hquiet⟩
  · exact .inl (by simp [System.setCall, List.getElem?_set_ne hj])

omit [Primitives] [Db.RowFormat] [TicketFormat] [UuidParser] [FailureText] in
/-- After one call has changed, a call is that one in its new state or another one as before. -/
theorem setCall_cases {i j : Nat} {c c' : CallState} (h : (sys.setCall i c).calls[j]? = some c') :
    i = j ∧ c' = c ∨ sys.calls[j]? = some c' := by
  by_cases hj : i = j
  · subst hj
    have hlt : i < sys.calls.length := by
      have := (List.getElem?_eq_some_iff.mp h).1
      rwa [System.setCall, List.length_set] at this
    rw [System.setCall, List.getElem?_set_self hlt] at h
    exact .inl ⟨rfl, (Option.some.inj h).symm⟩
  · rw [System.setCall, List.getElem?_set_ne hj] at h
    exact .inr h

omit [FailureText] in
/-- A quiet step keeps the records. -/
theorem Recorded.quiet (hrec : Recorded service sys) (hdb : sys'.db = sys.db)
    (hhistory : sys'.history = sys.history)
    (hcalls : ∀ j, sys'.calls[j]? = sys.calls[j]? ∨
      sys.pending j = none ∧ ∃ c, sys'.calls[j]? = some c ∧ c.IsQuiet) :
    Recorded service sys' := by
  have hloud : ∀ {j : Nat} {c : CallState}, sys'.calls[j]? = some c → ¬ c.IsQuiet →
      sys.calls[j]? = some c := by
    intro j c hc hnot
    rcases hcalls j with hsame | ⟨-, c', hc', hquiet⟩
    · rw [← hsame, hc]
    · obtain rfl := Option.some.inj (hc.symm.trans hc')
      exact absurd hquiet hnot
  constructor
  · intro i req base seen write hcall
    rw [hdb, hhistory]
    exact hrec.prepared (hloud hcall id)
  · intro i req message hcall
    rw [hhistory]
    exact hrec.answered (hloud hcall id)
  · intro pre w post hw
    exact hrec.applied (hhistory ▸ hw)
  · intro ticketId w hw
    rw [hdb]
    exact hrec.current (hhistory ▸ hw)

omit [FailureText] in
/-- A call that has read its record has computed its write from it. -/
theorem Recorded.read (hrec : Recorded service sys) {i : Nat} {req : UpdateTicketRequest}
    {base : TicketRecord} {write : CustodianServiceImpl.PreparedWrite}
    (hfetch : getTicket sys.db req.ticketId false = .ok base)
    (hwrite : ComputedFrom service req base write) :
    Recorded service (sys.setCall i
      (.prepared req base (writesTo (journal sys.history) req.ticketId) write)) := by
  refine ⟨fun {j} => ?_, fun {j} => ?_, hrec.applied, hrec.current⟩
  · intro req' base' seen' write' hcall
    rcases setCall_cases hcall with ⟨-, heq⟩ | hsame
    · obtain ⟨rfl, rfl, rfl, rfl⟩ := CallState.prepared.inj heq
      obtain ⟨_, row, -, -, -, rfl⟩ := Db.DatabaseService.getTicket_eq_ok.mp hfetch
      exact ⟨hwrite, ⟨_, hfetch⟩, le_rfl, fun _ => hfetch, rfl⟩
    · exact hrec.prepared hsame
  · intro req' message hcall
    rcases setCall_cases hcall with ⟨-, heq⟩ | hsame
    · cases heq
    · exact hrec.answered hsame

/-- A write that is applied becomes the latest of its ticket. -/
theorem Recorded.write (hrec : Recorded service sys) {i : Nat} {req : UpdateTicketRequest}
    {base : TicketRecord} {seen : Nat} {write : CustodianServiceImpl.PreparedWrite} {db : Sled}
    (hcall : sys.calls[i]? = some (.prepared req base seen write)) (hid : req.ticketId ≠ 0)
    (hwrite : CustodianServiceImpl.writeTicket sys.db req.ticketId write =
      (.ok (domainToProto write.ticket), db)) :
    Recorded service { sys.setCall i (.answered req (.ok (domainToProto write.ticket))) with
      db
      history := sys.history ++
        [⟨i, req, base, seen, write, getTicket db req.ticketId false⟩] } := by
  have hprep := hrec.prepared hcall
  obtain ⟨record, hrecord⟩ := hprep.stored
  obtain ⟨db', hwrite', hread, hother⟩ := writeTicket_spec hrecord hid write
  obtain rfl : db' = db := by
    rw [hwrite] at hwrite'
    exact (Prod.mk.inj hwrite').2.symm
  obtain ⟨_, _, -, -, -, rfl⟩ := Db.DatabaseService.getTicket_eq_ok.mp hrecord
  refine ⟨fun {j} => ?_, fun {j} => ?_, ?_, ?_⟩
  · intro req' base' seen' write' hcall'
    rcases setCall_cases hcall' with ⟨-, heq⟩ | hsame
    · cases heq
    · exact (hrec.prepared hsame).write hread hother
  · intro req' message hcall'
    rcases setCall_cases hcall' with ⟨rfl, heq⟩ | hsame
    · obtain ⟨rfl, hmessage⟩ := CallState.answered.inj heq
      exact ⟨_, List.mem_append_right _ (List.mem_singleton_self _), rfl, rfl,
        Except.ok.inj hmessage⟩
    · obtain ⟨w, hw, hrest⟩ := hrec.answered hsame
      exact ⟨w, List.mem_append_left _ hw, hrest⟩
  · intro pre w post hw
    -- The write is the one just applied, or it was in the history before.
    rcases List.eq_nil_or_concat post with rfl | ⟨post, u, rfl⟩
    · obtain ⟨rfl, hlast⟩ := List.append_inj' hw rfl
      obtain rfl := List.singleton_inj.mp hlast
      refine ⟨hprep.computed, ⟨_, hread, ?_⟩, fun hseen last hlast => ?_⟩
      · obtain ⟨_, -, -, hbody⟩ := hprep.computed.spec
        rw [hprep.ticketId] at hbody
        exact hbody
      · rw [hrec.current hlast]
        exact hprep.current hseen
    · rw [List.concat_eq_append, ← List.cons_append, ← List.append_assoc] at hw
      exact hrec.applied (List.append_inj' hw rfl).1
  · intro ticketId w hw
    rw [lastOn_append] at hw
    split at hw
    · next hticket =>
        obtain rfl := Option.some.inj hw
        rw [← hticket]
        rfl
    · next hticket =>
        rw [hrec.current hw]
        exact (hother ticketId (Ne.symm hticket)).symm

/-- A step keeps the records. -/
theorem Recorded.step (hrec : Recorded service sys) (h : Effect service sys sys' e) :
    Recorded service sys' := by
  cases h with
  | quiet _ hdb hhistory hcalls => exact hrec.quiet hdb hhistory hcalls
  | read _ hfetch hwrite hsys => exact hsys ▸ hrec.read hfetch hwrite
  | write hcall hid hwrite hsys => exact hsys ▸ hrec.write hcall hid hwrite

variable [LockFormat]

/-- Every step has one of the three effects. -/
theorem Recorded.effect (hrec : Recorded service sys) (h : sys.step service e = some sys') :
    Effect service sys sys' e := by
  cases e with
  | receive req =>
      cases h
      refine .quiet (fun _ hj => by cases hj) rfl rfl fun j => ?_
      by_cases hj : j = sys.calls.length
      · subst hj
        exact .inr ⟨by simp [System.pending], .received req, by simp, trivial⟩
      · refine .inl ?_
        rcases Nat.lt_or_gt_of_ne hj with hlt | hgt
        · rw [List.getElem?_append_left hlt]
        · rw [List.getElem?_eq_none (by simpa using hgt), List.getElem?_eq_none hgt.le]
  | checkLock i =>
      simp only [System.step] at h
      split at h
      · next req hcall =>
          split at h <;> cases h
          · exact .setCall hcall rfl trivial fun _ hj => by cases hj
          · exact .setCall hcall rfl trivial fun _ hj => by cases hj
      · cases h
  | readRow i updatedAt entropy =>
      simp only [System.step] at h
      split at h
      · next req updater hcall =>
          split at h
          · cases h
            exact .setCall hcall rfl trivial fun _ hj => by cases hj
          next record hfetch =>
            split at h <;> cases h
            · exact .setCall hcall rfl trivial fun _ hj => by cases hj
            next write hwrite =>
              exact .read hcall (fetchRecord_eq_ok hfetch) ⟨_, _, _, hwrite⟩ rfl
      · cases h
  | writeRow i =>
      simp only [System.step] at h
      split at h
      · next req base seen write hcall =>
          -- The DB service turns down the id zero, so such a call has nothing to lose.
          by_cases hid : req.ticketId = 0
          · obtain ⟨status, hstatus⟩ := writeTicket_zero sys.db write
            rw [hid, hstatus] at h
            cases h
            have hnone : (CallState.prepared req base seen write).pending = none := by
              simp [CallState.pending, hid]
            refine .setCall hcall hnone trivial fun j hj => ?_
            obtain rfl := Event.writeRow.inj hj
            rw [System.pending, hcall, Option.bind_some, hnone]
          · obtain ⟨record, hrecord⟩ := (hrec.prepared hcall).stored
            obtain ⟨db, hwrite, -⟩ := writeTicket_spec hrecord hid write
            rw [hwrite] at h
            cases h
            exact .write hcall hid hwrite rfl
      · cases h
  | lockCommand command =>
      cases h
      exact .quiet (fun _ hj => by cases hj) rfl rfl fun j => .inl rfl
  | tick now =>
      cases h
      exact .quiet (fun _ hj => by cases hj) rfl rfl fun j => .inl rfl

end Recording

/-! ## Which updates are lost -/

/-- A call that writes finds no other call between its read and its write of the ticket. -/
def WritesAlone [Primitives] (sys : System) (e : Event) : Prop :=
  ∀ i w, e = .writeRow i → sys.pending i = some w → sys.desk.Alone i w.1

/-- A call that writes sets the fields that are never read from requests to what the ticket it has
fetched holds. -/
def AsksStored [Primitives] [TicketFormat] [UuidParser] (service : CustodianServiceImpl)
    (sys : System) (e : Event) : Prop :=
  ∀ (i : Nat) req base seen write, e = .writeRow i →
    sys.calls[i]? = some (CallState.prepared req base seen write) → req.ticketId ≠ 0 →
    ∀ ticket, Reads service base ticket →
      ∀ (f : Field) v, f.taken = false → f.asked req = some v → f.get ticket = v

/-- A call that writes is alone, and what it sets is taken or stored. -/
def Heeded [Primitives] [TicketFormat] [UuidParser] (service : CustodianServiceImpl) (sys : System)
    (e : Event) : Prop :=
  WritesAlone sys e ∧ AsksStored service sys e

/-- No call is between its read and its write. -/
def Settled (sys : System) : Prop :=
  ∀ i, sys.pending i = none

/-- Every write was computed after the preceding write to the ticket, from the record that this one
has left. -/
def NoLostUpdate (history : List AppliedWrite) : Prop :=
  ∀ pre w post, history = pre ++ w :: post →
    w.seen = writesTo (journal pre) w.ticketId ∧
      ∀ last, lastOn pre w.ticketId = some last → last.left = .ok w.base

/-- Every request that was acknowledged has been written, and every field that a write was asked to
set still holds the value in the ticket, unless a later write to the ticket was asked to set the
field again. -/
def ChangesKept [Primitives] [Db.RowFormat] [TicketFormat] [UuidParser]
    (service : CustodianServiceImpl) (sys : System) : Prop :=
  (∀ (i : Nat) req message, sys.calls[i]? = some (CallState.answered req (.ok message)) →
    ∃ w ∈ sys.history, w.call = i ∧ w.request = req) ∧
  ∀ pre w post, sys.history = pre ++ w :: post →
    ∀ (f : Field) v, f.asked w.request = some v →
      (∀ u ∈ post, u.ticketId = w.ticketId → f.asked u.request = none) →
      ∃ record ticket, getTicket sys.db w.ticketId false = .ok record ∧
        Reads service record ticket ∧ f.get ticket = v

/-- The ticket written holds every value that the request sets. -/
def AppliedWrite.TakesEffect [Primitives] [UuidParser] (w : AppliedWrite) : Prop :=
  ∀ (f : Field) v, f.asked w.request = some v → f.get w.write.ticket = v

section Desks

variable [Primitives] [Db.RowFormat] [TicketFormat] [UuidParser] [FailureText]
variable {service : CustodianServiceImpl} {sys sys' : System} {e : Event}

/-- A step reads or writes a ticket on behalf of a call, or does neither. -/
theorem Effect.desk_cases (h : Effect service sys sys' e) :
    (sys'.desk = sys.desk ∧ WritesAlone sys e) ∨
    (∃ i k, sys.pending i = none ∧ sys'.desk = sys.desk.read i k ∧ WritesAlone sys e) ∨
    (∃ i w, e = .writeRow i ∧ sys.pending i = some w ∧ sys'.desk = sys.desk.write i w) := by
  cases h with
  | quiet hwrite hdb hhistory hcalls =>
      refine .inl ⟨?_, fun i w hi hw => ?_⟩
      · have hpending : sys'.pending = sys.pending := by
          funext j
          rcases hcalls j with hsame | ⟨hnone, c, hc, hquiet⟩
          · rw [System.pending, System.pending, hsame]
          · rw [hnone, System.pending, hc]
            exact hquiet.pending_eq_none
        rw [System.desk, System.desk, hpending, hhistory]
      · rw [hwrite i hi] at hw
        cases hw
  | @read i _ _ req updater base write hcall hfetch hwrite hsys =>
      subst hsys
      have hnone : sys.pending i = none := by
        rw [System.pending, hcall]
        rfl
      let c' := CallState.prepared req base (writesTo (journal sys.history) req.ticketId) write
      have hdesk : (sys.setCall i c').desk =
          ⟨Function.update sys.pending i c'.pending, journal sys.history⟩ := by
        rw [System.desk, System.pending_setCall hcall]
        rfl
      -- A read for the id zero is no round of the desk, since its write is turned down.
      by_cases hid : req.ticketId = 0
      · refine .inl ⟨?_, fun _ _ hj => by cases hj⟩
        have hc' : c'.pending = sys.pending i := by
          rw [hnone]
          simp [c', CallState.pending, hid]
        rw [hdesk, hc', Function.update_eq_self]
        rfl
      · refine .inr (.inl ⟨i, req.ticketId, hnone, ?_, fun _ _ hj => by cases hj⟩)
        rw [hdesk]
        simp only [c', CallState.pending, if_neg hid]
        rfl
  | @write i req base seen write db hcall hid hwrite hsys =>
      subst hsys
      refine .inr (.inr ⟨i, (req.ticketId, seen), rfl, ?_, ?_⟩)
      · simp [System.pending, hcall, CallState.pending, hid]
      · have hpending := System.pending_setCall hcall
          (.answered req (.ok (domainToProto write.ticket)))
        simp only [System.desk, Desk.write, journal, List.map_append, List.map_singleton]
        exact congrArg (Desk.mk · _) hpending

/-- A step that is not a write next to another keeps the desk fresh. -/
theorem Effect.fresh (h : Effect service sys sys' e) (hfresh : sys.desk.Fresh)
    (halone : WritesAlone sys e) : sys'.desk.Fresh := by
  rcases h.desk_cases with ⟨hdesk, -⟩ | ⟨i, k, -, hdesk, -⟩ | ⟨i, w, he, hw, hdesk⟩
  · rwa [hdesk]
  · rw [hdesk]
    exact hfresh.read
  · rw [hdesk]
    exact hfresh.write hw (halone i w he hw)

/-- A write next to another leaves the desk stale. -/
theorem Effect.stale_of_not_alone (h : Effect service sys sys' e) (hfresh : sys.desk.Fresh)
    (halone : ¬ WritesAlone sys e) : sys'.desk.Stale := by
  rcases h.desk_cases with ⟨-, hquiet⟩ | ⟨_, _, -, -, hquiet⟩ | ⟨i, w, rfl, hw, hdesk⟩
  · exact absurd hquiet halone
  · exact absurd hquiet halone
  · rw [hdesk]
    refine hfresh.stale_write fun hw' => halone fun j v hj hv => ?_
    obtain rfl := Event.writeRow.inj hj
    obtain rfl : w = v := Option.some.inj (hw.symm.trans hv)
    exact hw'

/-- No step repairs a stale desk. -/
theorem Effect.stale (h : Effect service sys sys' e) (hstale : sys.desk.Stale) :
    sys'.desk.Stale := by
  rcases h.desk_cases with ⟨hdesk, -⟩ | ⟨i, k, hi, hdesk, -⟩ | ⟨i, w, -, hw, hdesk⟩
  · rwa [hdesk]
  · rw [hdesk]
    exact hstale.read hi
  · rw [hdesk]
    exact hstale.write hw

end Desks

section Histories

variable [Primitives] [Db.RowFormat] [TicketFormat] [UuidParser]
variable {service : CustodianServiceImpl} {sys : System} {history : List AppliedWrite}

omit [Primitives] [Db.RowFormat] [TicketFormat] [UuidParser] in
/-- A sequential journal is one whose writes have seen all the writes before them. -/
theorem sequential_journal_iff : Sequential (journal history) ↔
    ∀ pre w post, history = pre ++ w :: post → w.seen = writesTo (journal pre) w.ticketId := by
  constructor
  · rintro h pre w post rfl
    exact h (journal pre) (w.ticketId, w.seen) (journal post) (by simp [journal])
  · intro h pre w post hjournal
    obtain ⟨pre, rest, rfl, rfl, hrest⟩ := List.map_eq_append_iff.mp hjournal
    obtain ⟨w, post, rfl, rfl, rfl⟩ := List.map_eq_cons_iff.mp hrest
    exact h pre w post rfl

/-- In a recorded state, no update is lost exactly when the journal is sequential. -/
theorem Recorded.noLostUpdate_iff (h : Recorded service sys) :
    NoLostUpdate sys.history ↔ Sequential (journal sys.history) := by
  rw [sequential_journal_iff]
  refine ⟨fun hlost pre w post hw => (hlost pre w post hw).1, fun hseen pre w post hw => ?_⟩
  exact ⟨hseen pre w post hw, (h.applied hw).base (hseen pre w post hw)⟩

omit [Db.RowFormat] in
/-- A write takes effect exactly when the values that are never read from its request are in the
ticket it was computed from. -/
theorem takesEffect_iff {w : AppliedWrite} {ticket : Ticket}
    (hcomputed : ComputedFrom service w.request w.base w.write)
    (hread : Reads service w.base ticket) :
    w.TakesEffect ↔
      ∀ (f : Field) v, f.taken = false → f.asked w.request = some v → f.get ticket = v := by
  obtain ⟨ticket', hread', hget, -⟩ := hcomputed.spec
  obtain rfl : ticket = ticket' := Except.ok.inj (hread.symm.trans hread')
  have hkept : ∀ f : Field, f.taken = false → f.get w.write.ticket = f.get ticket := by
    intro f hf
    simp [hget f, Field.applied, hf]
  constructor
  · intro heffect f v hf hasked
    rw [← hkept f hf]
    exact heffect f v hasked
  · intro hstored f v hasked
    cases hf : f.taken with
    | false => exact (hkept f hf).trans (hstored f v hf hasked)
    | true => simp [hget f, Field.applied, hf, hasked]

omit [Db.RowFormat] in
/-- A field keeps the value a write has set, in the ticket of the latest write, as long as no later
write is asked to set it. The induction is on the later writes. -/
theorem kept_of_applied {pre post : List AppliedWrite} {w : AppliedWrite}
    (happlied : ∀ {a u b}, pre ++ w :: post = a ++ u :: b → Applied service a u)
    (hlost : NoLostUpdate (pre ++ w :: post)) (heffect : w.TakesEffect) {f : Field} {v : f.Value}
    (hasked : f.asked w.request = some v)
    (hpost : ∀ u ∈ post, u.ticketId = w.ticketId → f.asked u.request = none) :
    ∃ last, lastOn (pre ++ w :: post) w.ticketId = some last ∧ f.get last.write.ticket = v := by
  induction post using List.reverseRecOn with
  | nil => exact ⟨w, by rw [lastOn_append, if_pos rfl], heffect f v hasked⟩
  | append_singleton post u ih =>
      rw [← List.cons_append, ← List.append_assoc] at hlost happlied ⊢
      obtain ⟨last, hlast, hvalue⟩ := ih
        (fun {a x b} hx => happlied (a := a) (u := x) (b := b ++ [u]) (by simp [hx]))
        (fun a x b hx => hlost a x (b ++ [u]) (by simp [hx]))
        fun x hx => hpost x (List.mem_append_left _ hx)
      rw [lastOn_append]
      by_cases hticket : u.ticketId = w.ticketId
      · rw [if_pos hticket]
        refine ⟨u, rfl, ?_⟩
        obtain ⟨ticket, hread, hget, -⟩ := (happlied rfl).computed.spec
        -- No update is lost, so this write was computed from what the latest one has left.
        have hbase : last.left = .ok u.base := (hlost _ u [] rfl).2 last (hticket ▸ hlast)
        obtain ⟨a, b, hsplit⟩ := List.append_of_mem (mem_of_lastOn hlast)
        have hsplit' : pre ++ w :: post ++ [u] = a ++ last :: (b ++ [u]) := by simp [hsplit]
        obtain ⟨record, hleft, hlastRead⟩ := (happlied hsplit').left
        obtain rfl : record = u.base := Except.ok.inj (hleft.symm.trans hbase)
        obtain rfl : last.write.ticket = ticket := Except.ok.inj (hlastRead.symm.trans hread)
        have hkeep : f.applied u.request = none :=
          Field.applied_of_asked_eq_none (hpost u (by simp) hticket)
        rw [hget f, hkeep, Option.getD_none, hvalue]
      · rw [if_neg hticket]
        exact ⟨last, hlast, hvalue⟩

/-- The record a read returns after the last write to a ticket holds the ticket written. -/
theorem Recorded.reads_last (h : Recorded service sys) {ticketId : UInt64} {w : AppliedWrite}
    (hlast : lastOn sys.history ticketId = some w) :
    ∃ record, getTicket sys.db ticketId false = .ok record ∧
      Reads service record w.write.ticket := by
  obtain ⟨pre, post, hsplit⟩ := List.append_of_mem (mem_of_lastOn hlast)
  obtain ⟨record, hleft, hread⟩ := (h.applied hsplit).left
  exact ⟨record, (h.current hlast).symm.trans hleft, hread⟩

/-- In a recorded state without lost updates whose writes have all taken effect, acknowledged
changes are kept. -/
theorem Recorded.changesKept (h : Recorded service sys) (hlost : NoLostUpdate sys.history)
    (heffect : ∀ w ∈ sys.history, w.TakesEffect) : ChangesKept service sys := by
  refine ⟨fun i req message hcall => ?_, fun pre w post hsplit f v hasked hpost => ?_⟩
  · obtain ⟨w, hw, hi, hreq, -⟩ := h.answered hcall
    exact ⟨w, hw, hi, hreq⟩
  · have hw : w ∈ sys.history := by simp [hsplit]
    obtain ⟨last, hlast, hvalue⟩ := kept_of_applied
      (fun {a u b} hu => h.applied (hsplit.trans hu)) (hsplit ▸ hlost) (heffect w hw) hasked hpost
    obtain ⟨record, hget, hread⟩ := h.reads_last (hsplit ▸ hlast)
    exact ⟨record, last.write.ticket, hget, hread, hvalue⟩

/-- Where acknowledged changes are kept, the latest write has taken effect. -/
theorem Recorded.takesEffect_of_changesKept (h : Recorded service sys)
    (hkept : ChangesKept service sys) {pre : List AppliedWrite} {w : AppliedWrite}
    (hhistory : sys.history = pre ++ [w]) : w.TakesEffect := by
  intro f v hasked
  have hlast : lastOn sys.history w.ticketId = some w := by
    rw [hhistory, lastOn_append, if_pos rfl]
  obtain ⟨record, hget, hread⟩ := h.reads_last hlast
  obtain ⟨record', ticket, hget', hread', hvalue⟩ := hkept.2 pre w [] hhistory f v hasked
    fun u hu => absurd hu List.not_mem_nil
  obtain rfl : record = record' := Except.ok.inj (hget.symm.trans hget')
  obtain rfl : w.write.ticket = ticket := Except.ok.inj (hread.symm.trans hread')
  exact hvalue

omit [Db.RowFormat] in
/-- A call meets the condition with its write exactly when the write takes effect. -/
theorem asksStored_iff_takesEffect {i : Nat} {w : AppliedWrite}
    (hcall : sys.calls[i]? = some (.prepared w.request w.base w.seen w.write))
    (hid : w.request.ticketId ≠ 0)
    (hcomputed : ComputedFrom service w.request w.base w.write) :
    AsksStored service sys (.writeRow i) ↔ w.TakesEffect := by
  obtain ⟨ticket, hread, -⟩ := hcomputed.spec
  rw [takesEffect_iff hcomputed hread]
  constructor
  · intro hasks
    exact hasks i _ _ _ _ rfl hcall hid ticket hread
  · intro hstored j req base seen write he hcall' _ ticket' hread'
    obtain rfl := Event.writeRow.inj he
    obtain ⟨rfl, rfl, -, -⟩ := CallState.prepared.inj (Option.some.inj (hcall.symm.trans hcall'))
    obtain rfl : ticket = ticket' := Except.ok.inj (hread.symm.trans hread')
    exact hstored

variable [FailureText] {sys' : System} {e : Event}

omit [Db.RowFormat] [FailureText] in
/-- A step that writes nothing meets the condition. -/
theorem asksStored_of_pending (hwrite : ∀ i, e = .writeRow i → sys.pending i = none) :
    AsksStored service sys e := by
  intro i req base seen write he hcall hid
  have hnone := hwrite i he
  simp [System.pending, hcall, CallState.pending, hid] at hnone

/-- All writes have taken effect after a step exactly when they had before and the step meets the
condition. -/
theorem Effect.takesEffect_iff (h : Effect service sys sys' e) (hrec : Recorded service sys) :
    (∀ w ∈ sys'.history, w.TakesEffect) ↔
      (∀ w ∈ sys.history, w.TakesEffect) ∧ AsksStored service sys e := by
  cases h with
  | quiet hwrite _ hhistory _ =>
      rw [hhistory]
      exact (and_iff_left (asksStored_of_pending hwrite)).symm
  | read hcall hfetch hwrite hsys =>
      subst hsys
      exact (and_iff_left (asksStored_of_pending fun j hj => by cases hj)).symm
  | write hcall hid hwrite hsys =>
      subst hsys
      rw [List.forall_mem_append, List.forall_mem_singleton]
      exact and_congr_right fun _ =>
        (asksStored_iff_takesEffect (w := ⟨_, _, _, _, _, _⟩) hcall hid
          (hrec.prepared hcall).computed).symm

/-- A step after which acknowledged changes are kept meets the condition. -/
theorem Effect.asksStored (h : Effect service sys sys' e) (hrec : Recorded service sys)
    (hrec' : Recorded service sys') (hkept : ChangesKept service sys') :
    AsksStored service sys e := by
  cases h with
  | quiet hwrite => exact asksStored_of_pending hwrite
  | read => exact asksStored_of_pending fun j hj => by cases hj
  | write hcall hid hwrite hsys =>
      subst hsys
      exact (asksStored_iff_takesEffect (w := ⟨_, _, _, _, _, _⟩) hcall hid
        (hrec.prepared hcall).computed).mpr (hrec'.takesEffect_of_changesKept hkept rfl)

end Histories

section Runs

variable [Primitives] [LockFormat] [Db.RowFormat] [TicketFormat] [UuidParser] [FailureText]
variable {service : CustodianServiceImpl} {locks db : Sled} {now : Chrono.DateTime}
variable {events : List Event} {sys : System}

/-- Every reachable state is recorded. -/
theorem recorded_of_run
    (hrun : Run (System.step service) (fun _ _ => True) (System.start locks db now) events sys) :
    Recorded service sys :=
  hrun.invariant (recorded_start locks db now) fun hrec _ hstep => hrec.step (hrec.effect hstep)

omit [LockFormat] [Db.RowFormat] [TicketFormat] [UuidParser] [FailureText] [Primitives] in
theorem fresh_start : (System.start locks db now).desk.Fresh where
  sequential := Sequential.nil
  current i w hw := by simp [System.desk, System.pending, System.start] at hw

/-- A run has always written alone, or its desk is stale. -/
theorem alone_or_stale
    (hrun : Run (System.step service) (fun _ _ => True) (System.start locks db now) events sys) :
    Run (System.step service) WritesAlone (System.start locks db now) events sys ∧
        sys.desk.Fresh ∨
      sys.desk.Stale := by
  have h : Run (System.step service) WritesAlone (System.start locks db now) events sys ∧ _ ∨ _ :=
    hrun.dichotomy (G := fun sys => Recorded service sys ∧ sys.desk.Fresh)
    (B := fun sys => Recorded service sys ∧ sys.desk.Stale)
    ⟨recorded_start locks db now, fresh_start⟩
    (fun h hok hstep => ⟨h.1.step (h.1.effect hstep), (h.1.effect hstep).fresh h.2 hok⟩)
    (fun h hok hstep => ⟨h.1.step (h.1.effect hstep),
      (h.1.effect hstep).stale_of_not_alone h.2 hok⟩)
    (fun h hstep => ⟨h.1.step (h.1.effect hstep), (h.1.effect hstep).stale h.2⟩)
  exact h.imp (fun h => ⟨h.1, h.2.2⟩) And.right

/-- No update is lost and every acknowledged change is kept. -/
def Intact (service : CustodianServiceImpl) (sys : System) : Prop :=
  NoLostUpdate sys.history ∧ ChangesKept service sys

/-- A run whose steps all meet the condition ends intact. -/
theorem intact_of_heeded
    (hrun : Run (System.step service) (Heeded service) (System.start locks db now) events sys) :
    Intact service sys := by
  obtain ⟨hrec, hfresh, heffect⟩ := hrun.invariant
    (I := fun sys => Recorded service sys ∧ sys.desk.Fresh ∧ ∀ w ∈ sys.history, w.TakesEffect)
    ⟨recorded_start locks db now, fresh_start, fun w hw => absurd hw List.not_mem_nil⟩
    fun h hok hstep =>
      have heffect := h.1.effect hstep
      ⟨h.1.step heffect, heffect.fresh h.2.1 hok.1,
        (heffect.takesEffect_iff h.1).mpr ⟨h.2.2, hok.2⟩⟩
  have hlost := hrec.noLostUpdate_iff.mpr hfresh.sequential
  exact ⟨hlost, hrec.changesKept hlost heffect⟩

/-- If every call that writes finds no other call between its read and its write of the ticket, and
sets the fields that are never read from requests to what is stored, then in every state of the run
no update is lost and every acknowledged change is kept. Conversely, once no call is left between
its read and its write, this is the only way for the run to go. -/
theorem no_lost_update_iff_heeded
    (hrun : Run (System.step service) (fun _ _ => True) (System.start locks db now) events sys) :
    (Run (System.step service) (Heeded service) (System.start locks db now) events sys →
        Everywhere (System.step service) (Intact service) (System.start locks db now) events) ∧
      (Settled sys →
        Everywhere (System.step service) (Intact service) (System.start locks db now) events →
        Run (System.step service) (Heeded service) (System.start locks db now) events sys) := by
  refine ⟨fun hheeded => hheeded.everywhere intact_of_heeded, fun hsettled hintact => ?_⟩
  have halone : Run (System.step service) WritesAlone (System.start locks db now) events sys := by
    rcases alone_or_stale hrun with ⟨halone, -⟩ | hstale
    · exact halone
    · have hlost := (hintact events sys List.prefix_rfl hrun).1
      exact absurd ((recorded_of_run hrun).noLostUpdate_iff.mp hlost)
        (hstale.not_sequential hsettled)
  refine halone.and_of_everywhere (P := fun sys => Recorded service sys ∧ Intact service sys)
    (fun pre sys' hpre hrun' => ⟨recorded_of_run hrun', hintact pre sys' hpre hrun'⟩)
    fun hbefore hafter hstep =>
      (hbefore.1.effect hstep).asksStored hbefore.1 hafter.1 hafter.2.2

omit [LockFormat] [Db.RowFormat] [FailureText] in
/-- A step that writes nothing meets the condition. -/
theorem heeded_of_ne_writeRow {e : Event} (he : ∀ i, e ≠ .writeRow i) : Heeded service sys e :=
  ⟨fun i _ hi => absurd hi (he i), fun i _ _ _ _ hi => absurd hi (he i)⟩

omit [LockFormat] [Db.RowFormat] [FailureText] in
/-- So does a write while no other call is between its read and its write, if its request sets none
of the fields that are never read. -/
theorem heeded_writeRow {i : Nat} {req : UpdateTicketRequest} {base : TicketRecord} {seen : Nat}
    {write : CustodianServiceImpl.PreparedWrite}
    (hcall : sys.calls[i]? = some (.prepared req base seen write))
    (halone : ∀ j, j ≠ i → sys.pending j = none)
    (hasked : ∀ f : Field, f.taken = false → f.asked req = none) :
    Heeded service sys (.writeRow i) := by
  constructor
  · intro j w hj _ k hk v hv
    obtain rfl := Event.writeRow.inj hj
    have hnone : sys.pending k = some v := hv
    rw [halone k hk] at hnone
    cases hnone
  · intro j req' base' seen' write' hj hcall' _ ticket _ f v hf hv
    obtain rfl := Event.writeRow.inj hj
    obtain ⟨rfl, -⟩ := CallState.prepared.inj (Option.some.inj (hcall.symm.trans hcall'))
    rw [hasked f hf] at hv
    cases hv

omit [Primitives] [LockFormat] [Db.RowFormat] [TicketFormat] [UuidParser] [FailureText] in
/-- Of two calls, the other one is not about to write. -/
theorem pending_of_others {i : Nat} (hlength : sys.calls.length = 2)
    (hother : ∀ c, sys.calls[1 - i]? = some c → c.pending = none) (hi : i ≤ 1) :
    ∀ j, j ≠ i → sys.pending j = none := by
  intro j hj
  cases hcall : sys.calls[j]? with
  | none => rw [System.pending, hcall, Option.bind_none]
  | some c =>
      have hlt := (List.getElem?_eq_some_iff.mp hcall).1
      obtain rfl : j = 1 - i := by omega
      rw [System.pending, hcall, Option.bind_some, hother c hcall]

/-- The steps of two calls of which the second reads the ticket after the first has written it. -/
def inTurn (req₀ req₁ : UpdateTicketRequest) (updatedAt : Chrono.DateTime)
    (entropy : Primitives.Entropy) : List Event :=
  [.receive req₀, .receive req₁, .checkLock 0, .checkLock 1, .readRow 0 updatedAt entropy,
    .writeRow 0, .readRow 1 updatedAt entropy, .writeRow 1]

/-- The steps of two calls that both read the ticket before either writes. -/
def crossing (req₀ req₁ : UpdateTicketRequest) (updatedAt : Chrono.DateTime)
    (entropy : Primitives.Entropy) : List Event :=
  [.receive req₀, .receive req₁, .checkLock 0, .checkLock 1, .readRow 0 updatedAt entropy,
    .readRow 1 updatedAt entropy, .writeRow 0, .writeRow 1]

/-- Whenever the holder of a lock has two requests that the service would carry out, it also
carries out both when they cross, and the first update is lost. -/
theorem update_lost_of_crossing {req₀ req₁ : UpdateTicketRequest} {updater₀ updater₁ : Uuid}
    {record : TicketRecord} {write₀ write₁ : CustodianServiceImpl.PreparedWrite}
    {updatedAt : Chrono.DateTime} {entropy : Primitives.Entropy}
    (hticket : req₁.ticketId = req₀.ticketId) (hid : req₀.ticketId ≠ 0)
    (hlock₀ : CustodianServiceImpl.checkLock locks now req₀ = .ok updater₀)
    (hlock₁ : CustodianServiceImpl.checkLock locks now req₁ = .ok updater₁)
    (hfetch : service.fetchRecord db req₀.ticketId = .ok record)
    (hprepare₀ : service.prepareUpdate req₀ updater₀ updatedAt entropy record = .ok write₀)
    (hprepare₁ : service.prepareUpdate req₁ updater₁ updatedAt entropy record = .ok write₁) :
    ∃ sys, Run (System.step service) (fun _ _ => True) (System.start locks db now)
        (crossing req₀ req₁ updatedAt entropy) sys ∧
      ¬ NoLostUpdate sys.history := by
  obtain ⟨db₀, hwrite₀, hread₀, -⟩ := writeTicket_spec (fetchRecord_eq_ok hfetch) hid write₀
  obtain ⟨db₁, hwrite₁, -⟩ := writeTicket_spec hread₀ hid write₁
  have hfetch₁ := hticket ▸ hfetch
  have hwrite₁' := hticket ▸ hwrite₁
  have hreceived : Run (System.step service) (fun _ _ => True) (System.start locks db now)
      [.receive req₀, .receive req₁] _ :=
    (Run.nil.snoc trivial rfl).snoc trivial rfl
  have hlocked := (hreceived.snoc trivial (System.step_checkLock (i := 0) rfl hlock₀)).snoc trivial
    (System.step_checkLock (i := 1) rfl hlock₁)
  have hprepared := (hlocked.snoc trivial (System.step_readRow (i := 0) rfl hfetch hprepare₀)).snoc
    trivial (System.step_readRow (i := 1) rfl hfetch₁ hprepare₁)
  have hwritten := (hprepared.snoc trivial (System.step_writeRow (i := 0) rfl hwrite₀)).snoc
    trivial (System.step_writeRow (i := 1) rfl hwrite₁')
  refine ⟨_, hwritten, fun hlost => ?_⟩
  -- The second write has seen no write, though the first one came before it.
  have hseen := (hlost [_] _ [] rfl).1
  simp [journal, writesTo, AppliedWrite.ticketId, hticket, System.setCall, System.start] at hseen

end Runs

end InfoVulcan.Custodian

/-! ## Runs on the JSON formats -/

namespace InfoVulcan.Custodian

open scoped SerdeJson
open SerdeJson

/-- A user who holds a lock. -/
def holder : Uuid := ⟨1⟩

/-- The first ticket, as it is created. -/
def firstTicket : Ticket :=
  Ticket.new 1 "title" "project" ⟨2⟩ .unknown holder CivilTime.unixEpoch

/-- The DB with the first ticket. -/
def firstDb : Sled :=
  ((Db.LogEntry.createTicket (ticketBody firstTicket)
    (Db.ticketIndexFromProto (ticketIndex firstTicket))).apply Keyspace.empty).2

/-- The record of the first ticket. -/
def firstRecord : Db.TicketRecord where
  ticketId := 1
  encryptedBody := ticketBody firstTicket
  deleted := false
  deletedAtUnix := 0

/-- The locks after the holder has taken the one on the first ticket. -/
def firstLocks : Sled :=
  (CustodianStateMachine.apply Keyspace.empty (.acquireLock 1 holder 100 900)).2

/-- A request of the holder for the first ticket. -/
def holderRequest (title : Option String) (priority : Option Int32) : UpdateTicketRequest where
  ticketId := 1
  title := title
  project := none
  symptom := none
  priority := priority
  status := none
  nextAction := none
  resolution := none
  assignedToUuid := none
  updatedByUuid := some (toString holder)
  ebond := none
  trackingUrl := none
  networkDevices := []

/-- Whoever has just taken the lock passes the check. -/
theorem checkLock_acquired {ticketId : UInt64} {req : UpdateTicketRequest}
    (hticket : req.ticketId = ticketId) (hupdater : req.updatedByUuid = some (toString holder)) :
    CustodianServiceImpl.checkLock
      (CustodianStateMachine.apply Keyspace.empty (.acquireLock ticketId holder 100 900)).2
      CivilTime.unixEpoch req = .ok holder := by
  have hparse : UuidParser.parseStr (toString holder) = some holder :=
    Uuid.parseHyphenated_toString holder
  have hlock : getLockInfo
      (CustodianStateMachine.apply Keyspace.empty (.acquireLock ticketId holder 100 900)).2
      ticketId = .ok (some (lockRecord ticketId holder 100 900)) := by
    have hget : get (CustodianStateMachine.apply Keyspace.empty
        (.acquireLock ticketId holder 100 900)).2 TREE_LOCKS (Bytes.ofU64 ticketId) =
          some (LockFormat.lockInfo.encode (lockRecord ticketId holder 100 900)) :=
      (Keyspace.at_put Keyspace.empty _ _ _).trans (if_pos rfl)
    rw [getLockInfo, hget]
    simp [Except.map]
  have hexpired : (lockRecord ticketId holder 100 900).isExpired
      (Chrono.timestamp (CivilTime.unixEpoch : Chrono.DateTime)) = false :=
    (by decide : (lockRecord 0 holder 100 900).isExpired
      (Chrono.timestamp (CivilTime.unixEpoch : Chrono.DateTime)) = false)
  have hholder : (lockRecord ticketId holder 100 900).userId = holder := rfl
  simp [CustodianServiceImpl.checkLock, hupdater, hparse, hticket, hlock, hexpired, hholder]

theorem checkLock_holderRequest (title : Option String) (priority : Option Int32) :
    CustodianServiceImpl.checkLock firstLocks CivilTime.unixEpoch (holderRequest title priority) =
      .ok holder :=
  checkLock_acquired rfl rfl

/-- A row that is not deleted is fetched as its record. -/
theorem fetchRecord_of_row {id : UInt64} {db : Sled} {T : Db.TicketTable} {row : Db.StoredTicket}
    (hT : Db.Represents T db) (hrow : T.rows id = some row) (hkept : row.deleted = false) :
    custodian.fetchRecord db id = .ok (Db.ticketRecord id row) := by
  have hget : Db.DatabaseService.getTicket db id false = .ok (Db.ticketRecord id row) :=
    Db.DatabaseService.getTicket_eq_ok.mpr
      ⟨_, row, (hT.row id).trans (by rw [hrow]; rfl), Codec.decode_encode .., hkept, rfl⟩
  rw [CustodianServiceImpl.fetchRecord, hget]
  rfl

theorem represents_firstDb :
    Db.Represents (Db.TicketTable.initial.apply (.createTicket (ticketBody firstTicket)
      (Db.ticketIndexFromProto (ticketIndex firstTicket)))) firstDb :=
  Db.Represents.empty.apply rfl fun _ => by decide

theorem fetchRecord_firstDb : custodian.fetchRecord firstDb 1 = .ok firstRecord :=
  have hrow : (Db.TicketTable.initial.apply (.createTicket (ticketBody firstTicket)
      (Db.ticketIndexFromProto (ticketIndex firstTicket)))).rows 1 =
        some (Db.Table.fresh (ticketBody firstTicket)
          (Db.ticketIndexFromProto (ticketIndex firstTicket))) := rfl
  fetchRecord_of_row represents_firstDb hrow rfl

theorem reads_firstRecord : Reads custodian firstRecord firstTicket :=
  custodian.decryptTicket_encryptTicket (encryptTicket_eq firstTicket) 1

/-- The new row of a record that holds a ticket can be computed. -/
theorem prepareUpdate_holderRequest (title : Option String) (priority : Option Int32)
    {record : Db.TicketRecord} {ticket : Ticket} (hread : Reads custodian record ticket) :
    ∃ write, custodian.prepareUpdate (holderRequest title priority) holder CivilTime.unixEpoch []
      record = .ok write :=
  ⟨_, prepareUpdate_eq_ok hread rfl (encryptTicket_eq _)⟩

/-- The requests set no field that is never read. -/
theorem asked_holderRequest (title : Option String) (priority : Option Int32) (f : Field)
    (hf : f.taken = false) : f.asked (holderRequest title priority) = none := by
  cases f with
  | ebond | trackingUrl | networkDevices => rfl
  | title | project | symptom | priority | status | nextAction | resolution | assignedTo => cases hf

/-- The holder of a lock sets the title and then the priority. Both calls have passed the check of
the lock before either reads the ticket. -/
theorem no_lost_update_in_turn :
    ∃ sys, Run (System.step custodian) (fun _ _ => True)
        (System.start firstLocks firstDb CivilTime.unixEpoch)
        (inTurn (holderRequest (some "new title") none) (holderRequest none (some 1))
          CivilTime.unixEpoch []) sys ∧
      sys.history.length = 2 ∧
      Everywhere (System.step custodian) (Intact custodian)
        (System.start firstLocks firstDb CivilTime.unixEpoch)
        (inTurn (holderRequest (some "new title") none) (holderRequest none (some 1))
          CivilTime.unixEpoch []) := by
  obtain ⟨write₀, hprepare₀⟩ :=
    prepareUpdate_holderRequest (some "new title") none reads_firstRecord
  obtain ⟨db₀, hwrite₀, hread₀, -⟩ := writeTicket_spec (fetchRecord_eq_ok fetchRecord_firstDb)
    (by decide) write₀
  have hfetch₁ : custodian.fetchRecord db₀ 1 =
      .ok { firstRecord with encryptedBody := write₀.body } := by
    rw [CustodianServiceImpl.fetchRecord, hread₀]
    rfl
  have hread : Reads custodian { firstRecord with encryptedBody := write₀.body } write₀.ticket :=
    reads_prepareUpdate hprepare₀
  obtain ⟨write₁, hprepare₁⟩ := prepareUpdate_holderRequest none (some 1) hread
  obtain ⟨db₁, hwrite₁, -⟩ := writeTicket_spec hread₀ (by decide) write₁
  have hquiet : ∀ {sys : System} {e : Event}, (∀ i, e ≠ .writeRow i) → Heeded custodian sys e :=
    heeded_of_ne_writeRow
  have hreceived : Run (System.step custodian) (Heeded custodian)
      (System.start firstLocks firstDb CivilTime.unixEpoch)
      [.receive (holderRequest (some "new title") none),
        .receive (holderRequest none (some 1))] _ :=
    (Run.nil.snoc (hquiet (by simp)) rfl).snoc (hquiet (by simp)) rfl
  have hlocked := (hreceived.snoc (hquiet (by simp)) (System.step_checkLock (i := 0) rfl
    (checkLock_holderRequest _ _))).snoc (hquiet (by simp)) (System.step_checkLock (i := 1) rfl
      (checkLock_holderRequest _ _))
  have hfirst := (hlocked.snoc (hquiet (by simp)) (System.step_readRow (i := 0) rfl
    fetchRecord_firstDb hprepare₀)).snoc
      (heeded_writeRow (i := 0) rfl
        (pending_of_others rfl (fun c hc => by cases hc; rfl) zero_le_one)
        (asked_holderRequest _ _))
      (System.step_writeRow (i := 0) rfl hwrite₀)
  have hsecond := (hfirst.snoc (hquiet (by simp)) (System.step_readRow (i := 1) rfl
    hfetch₁ hprepare₁)).snoc
      (heeded_writeRow (i := 1) rfl (pending_of_others rfl (fun c hc => by cases hc; rfl) le_rfl)
        (asked_holderRequest _ _))
      (System.step_writeRow (i := 1) rfl hwrite₁)
  have hrun := hsecond.imp fun _ _ _ => trivial
  exact ⟨_, hrun, rfl, (no_lost_update_iff_heeded hrun).1 hsecond⟩

/-- The holder of a lock sets the title and the priority at the same time, and one is lost. -/
theorem crossing_updates_lose_one :
    ∃ sys, Run (System.step custodian) (fun _ _ => True)
        (System.start firstLocks firstDb CivilTime.unixEpoch)
        (crossing (holderRequest (some "new title") none) (holderRequest none (some 1))
          CivilTime.unixEpoch []) sys ∧
      ¬ NoLostUpdate sys.history := by
  obtain ⟨write₀, hprepare₀⟩ :=
    prepareUpdate_holderRequest (some "new title") none reads_firstRecord
  obtain ⟨write₁, hprepare₁⟩ := prepareUpdate_holderRequest none (some 1) reads_firstRecord
  exact update_lost_of_crossing rfl (by decide) (checkLock_holderRequest _ _)
    (checkLock_holderRequest _ _) fetchRecord_firstDb hprepare₀ hprepare₁

end InfoVulcan.Custodian
