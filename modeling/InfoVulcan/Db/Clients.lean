import InfoVulcan.Db.RecordBook

/-!
# Clients that change what they have been shown

A command on a missing row stops the node for everybody. Rows never go away, so a client that only
changes tickets and users it has been shown before, by a creation, a read or a query, never does
that, whatever the others do in between.
-/

namespace InfoVulcan.Db

/-- The reply carries the record of the target. -/
def Reply.Shows : Reply → Target → Prop
  | .ticket (.ok record), .ticket id => record.ticketId = id
  | .tickets (.ok records), .ticket id => ∃ record ∈ records, record.ticketId = id
  | .user (.ok record), .user uuid => record.userUuid = uuid
  | _, _ => False

variable [RowFormat] [FailureText] {userRecords : Bool} {book : RecordBook}

/-- Every request changes only a row that an earlier reply has shown. -/
def ChangesShown (reqs : List Request) : Prop :=
  ∀ pre req post, reqs = pre ++ req :: post → ∀ e ∈ req.command?, ∀ t ∈ e.target,
    ∃ reply ∈ (serve DbNode.handle .blank pre).1, reply.Shows t

omit [FailureText] in
/-- Rows stay in the book. -/
theorem RecordBook.has_apply {t : Target} (h : book.has t) (e : LogEntry) :
    (book.apply e).has t := by
  cases t with
  | ticket id =>
      show ((book.tickets.apply e).rows id).isSome
      replace h : (book.tickets.rows id).isSome := h
      cases e <;> simp only [TicketTable.apply, TicketTable.rows_change, Function.update_apply] <;>
        first | exact h | (split <;> simp_all)
  | user uuid =>
      show (usersAfter book.users e uuid).isSome
      replace h : (book.users uuid).isSome := h
      cases e <;> simp only [usersAfter, Function.update_apply] <;>
        first | exact h | (split <;> simp_all)

omit [FailureText] in
theorem RecordBook.has_after {t : Target} (h : book.has t) (req : Request) :
    (book.after req).has t := by
  rw [after]
  split
  · exact has_apply h _
  · exact h

omit [RowFormat] [FailureText] in
/-- A ticket reply shows the ticket of its record. -/
theorem Reply.shows_ticket {result : Except Status TicketRecord} {t : Target} :
    (Reply.ticket result).Shows t ↔
      ∃ record, result = .ok record ∧ t = .ticket record.ticketId := by
  cases result <;> cases t <;> simp [Shows, eq_comm]

omit [RowFormat] [FailureText] in
/-- A user reply shows the user of its record. -/
theorem Reply.shows_user {result : Except Status UserRecord} {t : Target} :
    (Reply.user result).Shows t ↔ ∃ record, result = .ok record ∧ t = .user record.userUuid := by
  cases result <;> cases t <;> simp [Shows, eq_comm]

omit [RowFormat] [FailureText] in
/-- A record that is shown is that of a row. -/
theorem shown_eq_ok {I R : Type} {missing : String} {record : Stored I → R}
    {row : Option (Stored I)} {found : R} :
    shown missing record row = .ok found ↔ ∃ stored, row = some stored ∧ record stored = found := by
  cases row <;> simp [shown]

omit [RowFormat] [FailureText] in
/-- A row that is seen is there. -/
theorem isSome_of_seen {I : Type} {row : Option (Stored I)} {includeDeleted : Bool}
    {stored : Stored I} (h : seen row includeDeleted = some stored) : row.isSome := by
  cases row with
  | none => cases h
  | some row => rfl

omit [RowFormat] [FailureText] in
/-- A limit adds nothing. -/
theorem mem_of_limited {α : Type} {limit : Nat} {xs : List α} {x : α} (h : x ∈ limited limit xs) :
    x ∈ xs := by
  rw [limited] at h
  split at h
  · exact h
  · exact List.mem_of_mem_take h

omit [RowFormat] [FailureText] in
/-- A limit is put on what is made of the elements as on the elements. -/
theorem map_limited {α β : Type} (f : α → β) (limit : Nat) (xs : List α) :
    (limited limit xs).map f = limited limit (xs.map f) := by
  rw [limited, limited, apply_ite (List.map f), List.map_take]

omit [FailureText] in
/-- A command that does not fail is applied. -/
theorem RecordBook.after_of_success {req : Request} {e : LogEntry}
    (hsuccess : book.failure? req = none) (hcommand : req.command? = some e) :
    book.after req = book.apply e := by
  rw [failure?, hcommand, Option.bind_some, Option.or_eq_none_iff] at hsuccess
  rw [after, hcommand, hsuccess.1]

omit [RowFormat] [FailureText] in
/-- A failure shows no record. -/
theorem Request.failed_shows_none (req : Request) (status : Status) (t : Target) :
    ¬ (req.failed status).Shows t := by
  cases req <;> cases t <;> exact id

/-- What a right reply shows is in the next book. -/
theorem RecordBook.has_of_shows {req : Request} {reply : Reply} {t : Target}
    (hpermits : specification.permits book req reply) (hshows : reply.Shows t) :
    (book.after req).has t := by
  cases hfailure : book.failure? req with
  | some err =>
      -- A failure shows nothing.
      rw [permits_of_failure hfailure] at hpermits
      exact absurd hshows (hpermits ▸ req.failed_shows_none _ t)
  | none =>
      rw [permits_of_success hfailure] at hpermits
      cases req with
      | createTicket body index =>
          obtain rfl : reply = _ := hpermits
          obtain ⟨record, hrecord, rfl⟩ := Reply.shows_ticket.mp hshows
          rw [after_of_success hfailure rfl, ← Except.ok.inj hrecord]
          show (Function.update book.tickets.rows _ _ _).isSome
          rw [Function.update_self]
          rfl
      | getTicket id includeDeleted =>
          obtain rfl : reply = _ := hpermits
          obtain ⟨record, hrecord, rfl⟩ := Reply.shows_ticket.mp hshows
          obtain ⟨row, hrow, rfl⟩ := shown_eq_ok.mp hrecord
          exact isSome_of_seen hrow
      | updateTicket id body index =>
          obtain rfl : reply = _ := hpermits
          obtain ⟨record, hrecord, rfl⟩ := Reply.shows_ticket.mp hshows
          by_cases hid : id = 0
          · rw [if_pos hid] at hrecord
            cases hrecord
          · rw [if_neg hid] at hrecord
            obtain ⟨row, hrow, rfl⟩ := shown_eq_ok.mp hrecord
            obtain ⟨old, hold, -⟩ := Option.map_eq_some_iff.mp hrow
            exact has_after (t := .ticket id) (Option.isSome_iff_exists.mpr ⟨old, hold⟩) _
      | queryTickets query =>
          obtain ⟨rows, -, hmem, rfl⟩ := hpermits
          cases t with
          | user uuid => exact hshows.elim
          | ticket id =>
              obtain ⟨record, hrecord, rfl⟩ := hshows
              obtain ⟨found, hfound, rfl⟩ := List.mem_map.mp hrecord
              exact Option.isSome_iff_exists.mpr
                ⟨found.2, (hmem _ _).mp (List.mem_of_mem_filter (mem_of_limited hfound))⟩
      | createUser uuid body index =>
          obtain rfl : reply = _ := hpermits
          obtain ⟨record, hrecord, rfl⟩ := Reply.shows_user.mp hshows
          by_cases huuid : uuid = ""
          · rw [if_pos huuid] at hrecord
            cases hrecord
          · rw [if_neg huuid] at hrecord
            rw [after_of_success hfailure (if_neg huuid), ← Except.ok.inj hrecord]
            show (Function.update book.users uuid _ uuid).isSome
            rw [Function.update_self]
            rfl
      | getUser uuid includeDeleted =>
          obtain rfl : reply = _ := hpermits
          obtain ⟨record, hrecord, rfl⟩ := Reply.shows_user.mp hshows
          obtain ⟨row, hrow, rfl⟩ := shown_eq_ok.mp hrecord
          exact isSome_of_seen hrow
      | updateUser uuid body index =>
          obtain rfl : reply = _ := hpermits
          obtain ⟨record, hrecord, rfl⟩ := Reply.shows_user.mp hshows
          by_cases huuid : uuid = ""
          · rw [if_pos huuid] at hrecord
            cases hrecord
          · rw [if_neg huuid] at hrecord
            obtain ⟨row, hrow, rfl⟩ := shown_eq_ok.mp hrecord
            obtain ⟨old, hold, -⟩ := Option.map_eq_some_iff.mp hrow
            exact has_after (t := .user uuid) (Option.isSome_iff_exists.mpr ⟨old, hold⟩) _
      | list collection keyPrefix limit =>
          obtain ⟨items, -, -, rfl⟩ := hpermits
          cases t <;> exact hshows.elim
      | _ =>
          obtain rfl : reply = _ := hpermits
          cases t <;> exact hshows.elim

/-! ## Runs -/

/-- What a run keeps as long as its requests change only rows they have been shown. -/
structure Untroubled (userRecords : Bool) (reqs : List Request) : Prop where
  kept : (reqs.foldl RecordBook.after .blank).Kept userRecords
    (serve DbNode.handle .blank reqs).2
  running : (serve DbNode.handle .blank reqs).2.stopped = none
  known : ∀ reply ∈ (serve DbNode.handle .blank reqs).1, ∀ t, reply.Shows t →
    (reqs.foldl RecordBook.after .blank).has t

/-- The next request is answered from the book, and the run stays as it is. -/
theorem Untroubled.step {reqs : List Request} (h : Untroubled userRecords reqs) {req : Request}
    (hreq : req.Admissible userRecords)
    (hroom : req.isCreateTicket → reqs.countP Request.isCreateTicket + 1 < 2 ^ 64)
    (hshown : ∀ e ∈ req.command?, ∀ t ∈ e.target,
      ∃ reply ∈ (serve DbNode.handle .blank reqs).1, reply.Shows t) :
    (reqs.foldl RecordBook.after .blank).Answers req
        ((serve DbNode.handle .blank reqs).2.handle req).1 ∧
      Untroubled userRecords (reqs ++ [req]) := by
  have hissued : (reqs.foldl RecordBook.after .blank).tickets.issued ≤
      reqs.countP Request.isCreateTicket := RecordBook.issued_le reqs
  have hrunning := h.kept.stopped.symm.trans h.running
  have hknown := h.known
  obtain ⟨hpermits, hkept⟩ := h.kept.handle hreq fun hcreate =>
    (Nat.add_le_add_right hissued 1).trans_lt (hroom hcreate)
  have hserve := serve_append DbNode.handle .blank reqs [req]
  -- A row that has been shown is in the book, so no command of the request fails.
  have hmissing : ∀ e ∈ req.command?,
      (reqs.foldl RecordBook.after .blank).missing e = none := by
    intro e he
    cases htarget : e.target with
    | none => rw [RecordBook.missing, htarget]; rfl
    | some t =>
        obtain ⟨reply, hreply, hshows⟩ := hshown e he t htarget
        rw [RecordBook.missing, htarget, Option.bind_some, if_pos (hknown reply hreply t hshows)]
  have hbook : (reqs ++ [req]).foldl RecordBook.after .blank =
      (reqs.foldl RecordBook.after .blank).after req := List.foldl_concat ..
  have hsuccess : (reqs.foldl RecordBook.after .blank).failure? req = none := by
    rw [RecordBook.failure?, hrunning]
    cases hcommand : req.command? with
    | none => rfl
    | some e => exact hmissing e hcommand
  refine ⟨?_, ?_, ?_, ?_⟩
  · exact (RecordBook.permits_of_success hsuccess).mp hpermits
  · rw [hserve, hbook]
    exact hkept
  · rw [hserve]
    refine hkept.stopped.trans ?_
    show ((reqs.foldl RecordBook.after .blank).after req).stopped = none
    rw [RecordBook.after]
    split
    case h_1 e hcommand _ => exact hmissing e hcommand
    case h_2 => exact hrunning
  · intro reply hreply t hshows
    rw [hbook]
    rw [hserve] at hreply
    rcases List.mem_append.mp hreply with hold | hnew
    · exact RecordBook.has_after (hknown reply hold t hshows) req
    · obtain rfl := List.mem_singleton.mp hnew
      exact RecordBook.has_of_shows hpermits hshows

/-- As long as requests change only rows that earlier replies have shown, the node never stops, and
answers every request from the book. -/
theorem shown_changes_never_stop {reqs : List Request}
    (hreqs : ∀ req ∈ reqs, req.Admissible userRecords)
    (hroom : reqs.countP Request.isCreateTicket < 2 ^ 64) (hshown : ChangesShown reqs) :
    (serve DbNode.handle .blank reqs).2.stopped = none ∧
      ∀ pre req post, reqs = pre ++ req :: post →
        (pre.foldl RecordBook.after .blank).Answers req
          ((serve DbNode.handle .blank pre).2.handle req).1 := by
  have hstep : ∀ pre req, pre ++ [req] <+: reqs → Untroubled userRecords pre →
      (pre.foldl RecordBook.after .blank).Answers req
          ((serve DbNode.handle .blank pre).2.handle req).1 ∧
        Untroubled userRecords (pre ++ [req]) := by
    rintro pre req ⟨post, rfl⟩ h
    refine h.step (hreqs req (by simp)) (fun hcreate => ?_) fun e he t ht => ?_
    · simp only [List.countP_append, List.countP_singleton, if_pos hcreate] at hroom
      omega
    · exact hshown pre req post (by simp) e he t ht
  have hrun : ∀ pre, pre <+: reqs → Untroubled userRecords pre := by
    intro pre
    induction pre using List.reverseRecOn with
    | nil =>
        exact fun _ =>
          ⟨RecordBook.kept_blank, rfl, fun reply hreply => absurd hreply List.not_mem_nil⟩
    | append_singleton pre req ih =>
        exact fun hupto => (hstep pre req hupto (ih ((List.prefix_append ..).trans hupto))).2
  refine ⟨(hrun reqs List.prefix_rfl).running, ?_⟩
  rintro pre req post rfl
  exact (hstep pre req ⟨post, by simp⟩ (hrun pre ⟨req :: post, rfl⟩)).1

end InfoVulcan.Db

/-! ## Runs on the JSON formats -/

namespace InfoVulcan.Db

open scoped SerdeJson

/-- Requests that change the ticket they have created, with a pair in the tree of users. -/
def carefulRequests : List Request :=
  [.createTicket [1] none, .put TREE_USERS [2] [3], .updateTicket 1 [4] none,
    .softDeleteTicket 1 5]

/-- The first reply shows the ticket that all later changes are about. -/
theorem changesShown_careful : ChangesShown carefulRequests := by
  intro pre req post hsplit e he t ht
  cases pre with
  | nil =>
      obtain ⟨rfl, -⟩ := List.cons.inj hsplit
      obtain rfl := Option.some.inj he
      cases ht
  | cons first pre =>
      obtain ⟨rfl, hrest⟩ := List.cons.inj hsplit
      have ht' : t = .ticket 1 := by
        have hreq : req ∈ carefulRequests.tail := by
          show req ∈ [_, _, _]
          rw [hrest]
          simp
        simp only [carefulRequests, List.tail_cons, List.mem_cons, List.not_mem_nil,
          or_false] at hreq
        rcases hreq with rfl | rfl | rfl <;> obtain rfl := Option.some.inj he
        · cases ht
        · exact (Option.some.inj ht).symm
        · exact (Option.some.inj ht).symm
      subst ht'
      refine ⟨_, List.mem_cons_self, ?_⟩
      show (Reply.ticket (DatabaseService.createTicket Keyspace.empty [1] none).1).Shows _
      rw [DatabaseService.createTicket_eq, Keyspace.at_empty]
      rfl

/-- A careful client. -/
theorem shown_changes_never_stop_careful :
    (serve DbNode.handle .blank carefulRequests).2.stopped = none ∧
      ∀ pre req post, carefulRequests = pre ++ req :: post →
        (pre.foldl RecordBook.after .blank).Answers req
          ((serve DbNode.handle .blank pre).2.handle req).1 := by
  have hreqs : ∀ req ∈ carefulRequests, req.Admissible false := by decide
  exact shown_changes_never_stop hreqs (by decide) changesShown_careful

end InfoVulcan.Db
