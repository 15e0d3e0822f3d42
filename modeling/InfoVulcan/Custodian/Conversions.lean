import InfoVulcan.Custodian.Server

/-!
# Which values survive the conversions

A message carries enumerations as numbers of 32 bits and times as seconds and nanoseconds. What the
custodian cannot represent it replaces by a default. Here it is said which values are kept: the
numbers of the enumeration, and the timestamps in normal form that the calendar reaches.
-/

namespace InfoVulcan.Custodian

/-! ## Enumerations -/

/-- A discriminant is sent as its number. -/
theorem toInt_enumInt (n : UInt8) : (enumInt n).toInt = n.toNat := by
  have hn : (n.toNat : Int) < 256 := by exact_mod_cast n.toNat_lt
  exact Int32.toInt_ofInt_of_le (by omega) (by omega)

/-- A discriminant that was sent is received as it was. -/
@[simp] theorem enumByte_enumInt (n : UInt8) : enumByte (enumInt n) = n := by
  have hn : (n.toNat : Int) < 256 := by exact_mod_cast n.toNat_lt
  rw [enumByte, toInt_enumInt, if_pos ⟨by omega, hn⟩, Int.toNat_natCast, UInt8.ofNat_toNat]

/-- A number is kept by reading and sending it exactly when it is the number of some value. -/
theorem enumInt_fromU8_iff {α : Type} {toU8 : α → UInt8} {fromU8 : UInt8 → α}
    (hread : ∀ a, fromU8 (toU8 a) = a) (v : Int32) :
    enumInt (toU8 (fromU8 (enumByte v))) = v ↔ ∃ a, enumInt (toU8 a) = v := by
  constructor
  case mp => exact fun h => ⟨_, h⟩
  case mpr =>
    rintro ⟨a, rfl⟩
    rw [enumByte_enumInt, hread]

/-- The schedule of a number is kept exactly when it is the number of some schedule. -/
theorem autoCloseToProto_protoToAutoClose_iff (v : Int32) :
    autoCloseToProto (protoToAutoClose v) = v ↔ ∃ schedule, autoCloseToProto schedule = v := by
  constructor
  case mp => exact fun h => ⟨_, h⟩
  case mpr =>
    rintro ⟨schedule, rfl⟩
    cases schedule <;> rfl

/-! ## Times -/

variable [Chrono]

/-- The nanoseconds of a timestamp as they are read. Negative ones count as zero. -/
def protoNanos (ts : Timestamp) : UInt32 :=
  if 0 ≤ ts.nanos.toInt then UInt32.ofNat ts.nanos.toInt.toNat else 0

/-- The timestamp is in normal form and the calendar reaches it. -/
structure Reachable (ts : Timestamp) : Prop where
  nonneg : 0 ≤ ts.nanos.toInt
  lt : ts.nanos.toInt < 10 ^ 9
  inRange : (Chrono.fromTimestamp ts.seconds (protoNanos ts)).isSome

variable [LawfulChrono]

/-- The default time is sent as the beginning of unix time. -/
theorem toProto_default : Chrono.toProto Chrono.default = ⟨0, 0⟩ :=
  LawfulChrono.toProto_fromTimestamp LawfulChrono.fromTimestamp_zero (by decide)

/-- A timestamp is kept by reading and sending it exactly when it is reachable. -/
theorem toProto_protoToDt_iff (ts : Timestamp) :
    Chrono.toProto (protoToDt ts) = ts ↔ Reachable ts := by
  show Chrono.toProto ((Chrono.fromTimestamp ts.seconds (protoNanos ts)).getD Chrono.default) = ts ↔
    Reachable ts
  cases htime : Chrono.fromTimestamp ts.seconds (protoNanos ts) with
  | none =>
      -- The default time is sent as the beginning of unix time, which is reachable.
      refine ⟨fun h => ?_, fun h => ?_⟩
      · rw [Option.getD_none, toProto_default] at h
        have hzero : protoNanos ts = 0 := by rw [← h]; rfl
        rw [hzero, ← h, LawfulChrono.fromTimestamp_zero] at htime
        cases htime
      · have hrange := h.inRange
        rw [htime] at hrange
        cases hrange
  | some time =>
      rw [Option.getD_some]
      constructor
      case mp =>
        intro h
        have hnanos := LawfulChrono.nanos_toProto htime
        rw [h] at hnanos
        exact ⟨hnanos.1, hnanos.2, by rw [htime]; rfl⟩
      case mpr =>
        intro h
        obtain ⟨hnonneg, hlt, -⟩ := h
        have hword : ts.nanos.toInt.toNat < 2 ^ 32 := by omega
        have hnat : (protoNanos ts).toNat = ts.nanos.toInt.toNat := by
          rw [protoNanos, if_pos hnonneg]
          exact UInt32.toNat_ofNat_of_lt' hword
        have hsecond : (protoNanos ts).toNat < 10 ^ 9 := by omega
        rw [LawfulChrono.toProto_fromTimestamp htime hsecond, hnat]
        have hint : Int32.ofNat ts.nanos.toInt.toNat = ts.nanos := by
          rw [← Int32.ofInt_eq_ofNat, Int.toNat_of_nonneg hnonneg, Int32.ofInt_toInt]
        rw [hint]

omit [LawfulChrono] in
/-- A timestamp without nanoseconds is reachable when its seconds are in range. -/
theorem reachable_seconds_iff (seconds : Int64) :
    Reachable ⟨seconds, 0⟩ ↔ (Chrono.fromTimestamp seconds 0).isSome :=
  ⟨fun h => h.inRange, fun h => ⟨le_refl 0, (by decide : (0 : Int32).toInt < 10 ^ 9), h⟩⟩

/-! ## Next actions -/

/-- The next action is the one the message describes. A message without a kind describes none. -/
def Denotes (message : NextActionMessage) (action : NextAction) : Prop :=
  match message.kind with
  | none => action = .none
  | some kind => mapNextAction action = some ⟨some kind⟩

/-- Some next action is the one the message describes, as far as the calendar reaches. -/
def Representable (message : NextActionMessage) : Prop :=
  match message.kind with
  | none => True
  | some (.followUp ts) => Reachable ts
  | some (.appointment ts) => Reachable ts
  | some (.autoClose v) => ∃ schedule, autoCloseToProto schedule = v

/-- The next action that is read from a message is the one it describes exactly when there is one
to describe. -/
theorem denotes_protoToNextAction_iff (message : NextActionMessage) :
    Denotes message (protoToNextAction message) ↔ Representable message := by
  rcases message with ⟨_ | ts | ts | v⟩
  · exact ⟨fun _ => trivial, fun _ => rfl⟩
  · refine Iff.trans ?_ (toProto_protoToDt_iff ts)
    simp [Denotes, protoToNextAction, mapNextAction]
  · refine Iff.trans ?_ (toProto_protoToDt_iff ts)
    simp [Denotes, protoToNextAction, mapNextAction]
  · refine Iff.trans ?_ (autoCloseToProto_protoToAutoClose_iff v)
    simp [Denotes, protoToNextAction, mapNextAction]

end InfoVulcan.Custodian
