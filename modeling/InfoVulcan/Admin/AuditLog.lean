import InfoVulcan.Db.Storage
import InfoVulcan.Honeypot.Reporter
import InfoVulcan.Library.Machine
import InfoVulcan.Shared.Foreign

/-!
# The audit log of intrusions

An intrusion is stored under its time, source and endpoint. The admin service says that it is
recorded, also when it could not be stored, and a later one under the same key replaces it. The log
holds what it is said to hold exactly as long as neither happens (`audit_log_kept_iff`).
-/

namespace InfoVulcan.Admin

open Honeypot

/-! ## Recording -/

/-- What is answered to an intrusion. -/
structure IntrusionAck where
  recorded : Bool

/-- The storage key of an intrusion. -/
def intrusionKey (event : IntrusionMessage) : Bytes :=
  Bytes.ofText s!"intrusion:{event.timestampUnix}:{event.sourceIp}:{event.endpointAccessed}"

/-- Records an intrusion. The DB request fails with `failure`, if that is set, which is logged and
not answered. -/
def recordIntrusion (db : Sled) (event : IntrusionMessage) (failure : Option Status) :
    IntrusionAck × Sled :=
  match failure with
  | some _ => (⟨true⟩, db)
  | none => (⟨true⟩, Db.put db "audit" (intrusionKey event) event.encodeToVec)

/-- The audit collection holds the event. -/
def InAudit (db : Sled) (event : IntrusionMessage) : Prop :=
  ∃ key, Db.get db "audit" key = some event.encodeToVec

/-- What the audit collection holds once an event has been stored. -/
theorem get_audit_put (db : Sled) (event : IntrusionMessage) (key : Bytes) :
    Db.get (Db.put db "audit" (intrusionKey event) event.encodeToVec) "audit" key =
      if key = intrusionKey event then some event.encodeToVec else Db.get db "audit" key := by
  show (Db.put db "audit" (intrusionKey event) event.encodeToVec).at? ⟨"audit", key⟩ = _
  rw [Db.put, Keyspace.at_put]
  simp only [Cell.mk.injEq, true_and, eq_comm (a := intrusionKey event)]
  rfl

/-- Storing an event keeps another one that is also stored elsewhere, and itself. -/
theorem inAudit_put_iff {db : Sled} {event event' : IntrusionMessage} :
    InAudit (Db.put db "audit" (intrusionKey event) event.encodeToVec) event' ↔
      event' = event ∨
        ∃ key, key ≠ intrusionKey event ∧ Db.get db "audit" key = some event'.encodeToVec := by
  constructor
  case mp =>
    rintro ⟨key, hkey⟩
    rw [get_audit_put] at hkey
    split at hkey
    next =>
      left
      simpa [eq_comm] using hkey
    next hne => exact .inr ⟨key, hne, hkey⟩
  case mpr =>
    rintro (rfl | ⟨key, hne, hkey⟩)
    · exact ⟨intrusionKey event', by rw [get_audit_put, if_pos rfl]⟩
    · exact ⟨key, by rw [get_audit_put, if_neg hne, hkey]⟩

/-! ## Runs -/

/-- The DB, and the events that are said to be recorded. -/
structure AuditTrail where
  db : Sled
  acknowledged : List IntrusionMessage

namespace AuditTrail

/-- Nothing has been recorded yet. -/
def start (db : Sled) : AuditTrail where
  db := db
  acknowledged := []

/-- A call, whose request fails or not. -/
def step (s : AuditTrail) (call : IntrusionMessage × Option Status) : AuditTrail where
  db := (recordIntrusion s.db call.1 call.2).2
  acknowledged :=
    if (recordIntrusion s.db call.1 call.2).1.recorded then call.1 :: s.acknowledged
    else s.acknowledged

/-- The audit collection holds every event that is said to be recorded. -/
def Honest (s : AuditTrail) : Prop :=
  ∀ event ∈ s.acknowledged, InAudit s.db event

/-- The event is stored, unless it has been before, and what it replaces is stored elsewhere. -/
def Keeps (s : AuditTrail) (call : IntrusionMessage × Option Status) : Prop :=
  match call.2 with
  | some _ => InAudit s.db call.1
  | none =>
      ∀ event ∈ s.acknowledged, event = call.1 ∨
        ∃ key, key ≠ intrusionKey call.1 ∧ Db.get s.db "audit" key = some event.encodeToVec

variable {s : AuditTrail}

theorem honest_start (db : Sled) : (start db).Honest :=
  fun _ h => by cases h

/-- A call keeps what is recorded exactly when it keeps the events one by one. -/
theorem honest_step_iff (h : s.Honest) (call : IntrusionMessage × Option Status) :
    (s.step call).Honest ↔ s.Keeps call := by
  obtain ⟨event, failure⟩ := call
  cases failure with
  | some status =>
      show (∀ event' ∈ event :: s.acknowledged, InAudit s.db event') ↔ InAudit s.db event
      rw [List.forall_mem_cons]
      exact and_iff_left h
  | none =>
      show (∀ event' ∈ event :: s.acknowledged,
        InAudit (Db.put s.db "audit" (intrusionKey event) event.encodeToVec) event') ↔
          s.Keeps (event, none)
      simp only [List.forall_mem_cons, inAudit_put_iff, true_or, true_and]
      rfl

/-- What is said to be recorded is in the audit collection after every call exactly when every call
stores its event, unless it is there already, and replaces none that is not also stored
elsewhere. -/
theorem audit_log_kept_iff (db : Sled) (calls : List (IntrusionMessage × Option Status)) :
    Always step Honest (start db) calls ↔ Throughout step Keeps (start db) calls :=
  always_iff_throughout (honest_start db) fun _ call _ hhonest => honest_step_iff hhonest call

/-! ## Runs from an empty collection -/

/-- The audit collection holds nothing but events that are said to be recorded, each under its
key. -/
def Filed (s : AuditTrail) : Prop :=
  ∀ key value, Db.get s.db "audit" key = some value →
    ∃ event ∈ s.acknowledged, key = intrusionKey event ∧ value = event.encodeToVec

theorem filed_step (h : s.Filed) (call : IntrusionMessage × Option Status) :
    (s.step call).Filed := by
  obtain ⟨event, failure⟩ := call
  have hbefore : ∀ key value, Db.get s.db "audit" key = some value →
      ∃ event' ∈ event :: s.acknowledged,
        key = intrusionKey event' ∧ value = event'.encodeToVec := by
    intro key value hstored
    obtain ⟨event', hmem, hfiled⟩ := h key value hstored
    exact ⟨event', List.mem_cons_of_mem _ hmem, hfiled⟩
  cases failure with
  | some status => exact hbefore
  | none =>
      intro key value hstored
      have hput := get_audit_put s.db event key
      rw [show Db.get (Db.put s.db "audit" (intrusionKey event) event.encodeToVec) "audit" key =
        some value from hstored] at hput
      split at hput
      next hkey => exact ⟨event, List.mem_cons_self, hkey, Option.some.inj hput⟩
      next => exact hbefore key value hput.symm

/-- A filed event is stored under its own key only. -/
theorem Filed.get_eq (h : s.Filed) {event : IntrusionMessage} {key : Bytes}
    (hstored : Db.get s.db "audit" key = some event.encodeToVec) :
    event ∈ s.acknowledged ∧ key = intrusionKey event := by
  obtain ⟨event', hmem, hkey, hvalue⟩ := h key _ hstored
  obtain rfl := IntrusionMessage.encodeToVec_inj.mp hvalue
  exact ⟨hmem, hkey⟩

/-- The event is stored, unless it has been recorded before, and no other event with its key has
been. -/
def KeepsKeys (s : AuditTrail) (call : IntrusionMessage × Option Status) : Prop :=
  match call.2 with
  | some _ => call.1 ∈ s.acknowledged
  | none =>
      ∀ event ∈ s.acknowledged, intrusionKey event = intrusionKey call.1 → event = call.1

theorem keeps_iff_keepsKeys (hfiled : s.Filed) (hhonest : s.Honest)
    (call : IntrusionMessage × Option Status) : s.Keeps call ↔ s.KeepsKeys call := by
  obtain ⟨event, failure⟩ := call
  cases failure with
  | some status =>
      show InAudit s.db event ↔ event ∈ s.acknowledged
      constructor
      case mp =>
        rintro ⟨key, hstored⟩
        exact (hfiled.get_eq hstored).1
      case mpr => exact hhonest event
  | none =>
      refine forall₂_congr fun event' hmem => ?_
      constructor
      case mp =>
        rintro (heq | ⟨key, hne, hstored⟩) hkey
        · exact heq
        · exact absurd ((hfiled.get_eq hstored).2.trans hkey) hne
      case mpr =>
        intro hsame
        by_cases hkey : intrusionKey event' = intrusionKey event
        · exact .inl (hsame hkey)
        · obtain ⟨key, hstored⟩ := hhonest event' hmem
          have hown := (hfiled.get_eq hstored).2
          exact .inr ⟨key, hown ▸ hkey, hstored⟩

/-- In a collection that was empty, events are lost exactly when they cannot be stored, or when
another one has the same key. -/
theorem audit_log_kept_iff_of_empty {db : Sled} (hempty : ∀ key, Db.get db "audit" key = none)
    (calls : List (IntrusionMessage × Option Status)) :
    Always step Honest (start db) calls ↔ Throughout step KeepsKeys (start db) calls := by
  have hfiled : ∀ pre : List (IntrusionMessage × Option Status),
      (pre.foldl step (start db)).Filed := by
    intro pre
    induction pre using List.reverseRecOn with
    | nil =>
        intro key value hstored
        cases (hempty key).symm.trans hstored
    | append_singleton pre call ih =>
        rw [List.foldl_concat]
        exact filed_step ih call
  exact always_iff_throughout (honest_start db) fun pre call _ hhonest =>
    (honest_step_iff hhonest call).trans (keeps_iff_keepsKeys (hfiled pre) hhonest call)

/-- Of two events with the same key the first one is lost, although both can be stored. -/
theorem lost_of_same_key {event event' : IntrusionMessage} (hne : event ≠ event')
    (hkey : intrusionKey event = intrusionKey event') :
    ¬ Always step Honest (start Keyspace.empty) [(event, none), (event', none)] := by
  intro h
  have hempty : ∀ key, Db.get Keyspace.empty "audit" key = none :=
    fun key => Keyspace.get_empty "audit" key
  have hkeeps := (audit_log_kept_iff_of_empty hempty _).mp h [(event, none)] (event', none)
    List.prefix_rfl
  exact hne (hkeeps event List.mem_cons_self hkey)

end AuditTrail

/-! ## A peer that changes its user agent -/

/-- What a peer sends to a trap within one second. -/
def trapped (userAgent : String) : IntrusionMessage :=
  (getWalletBalance ⟨some "203.0.113.7", some userAgent⟩ ⟨1700000000 * 10 ^ 9⟩).toProto

/-- The second of two requests replaces the first one in the log. -/
theorem first_intrusion_lost :
    ¬ Always AuditTrail.step AuditTrail.Honest (AuditTrail.start Keyspace.empty)
      [(trapped "sqlmap/1.0", none), (trapped "curl/8.0", none)] := by
  have hne : trapped "sqlmap/1.0" ≠ trapped "curl/8.0" := by
    intro h
    have hagent : some "sqlmap/1.0" = some "curl/8.0" := congrArg IntrusionMessage.userAgent h
    exact absurd hagent (by decide)
  exact AuditTrail.lost_of_same_key hne rfl

end InfoVulcan.Admin
