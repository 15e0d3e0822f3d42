import InfoVulcan.Library.Codec
import InfoVulcan.Library.Json
import InfoVulcan.Library.Machine
import InfoVulcan.Library.SharedCell
import InfoVulcan.Shared.Encryption

/-!
# The shared keypair file

Services that share a storage path call `load_or_generate_keypair` when they start. A call tests
whether the file exists, and either reads it or generates a keypair and writes it; other calls may
take steps in between. What the calls return is seen as a `SharedCell` that holds the keypair in the
file. They agree as long as no call puts a keypair in the file after another call has returned a
different one.
-/

namespace InfoVulcan

/-- A keypair as it is stored: the public and the secret key. -/
abbrev Keys := Bytes × Bytes

/-- The JSON format of the keypair file. -/
class KeyFormat where
  keys : Codec Keys

/-- Generates a keypair, the one that is drawn by the key encapsulation library. -/
def EncryptionService.generateKeypair (drawn : Keys) : Except EncryptionError Keys :=
  .ok drawn

namespace KeyStore

/-- Where a call stands: before the test, with a file to read or a keypair to generate, with a
keypair to write, or done. -/
inductive Phase where
  | starting
  | loading
  | generating
  | saving (keys : Keys)
  | returned (result : Except String Keys)

/-- The keypair a call has returned, if it has. -/
def Phase.keys? : Phase → Option Keys
  | returned (.ok keys) => some keys
  | _ => none

/-- A step of a call, with what the system answers: whether the test sees the file, whether the
file can be read, the keypair that is drawn, and whether the write succeeds. A write that fails may
have taken effect. -/
inductive CallStep where
  | testExists (visible : Bool)
  | read (readable : Bool)
  | generate (drawn : Keys)
  | write (succeeds takesEffect : Bool)

end KeyStore

open KeyStore

/-- The contents of the keypair file, if it exists, and where each call stands. -/
structure KeyStore (ι : Type) where
  file : Option Bytes
  calls : ι → Phase

namespace KeyStore

variable {ι : Type} [DecidableEq ι] [KeyFormat] (path : String)

/-- A step of `load_or_generate_keypair`, by where the call stands and what is in the file. A step
that is not the next one of the call does nothing. -/
def loadOrGenerateKeypair (file : Option Bytes) : Phase → CallStep → Phase × Option Bytes
  | .starting, .testExists visible =>
      (if visible && file.isSome then .loading else .generating, file)
  | .loading, .read readable =>
      match readable, file with
      | true, some bytes =>
          match KeyFormat.keys.decode bytes with
          | .error _ => (.returned (.error s!"failed to deserialize keypair from {path}"), file)
          | .ok keys => (.returned (.ok keys), file)
      | _, _ => (.returned (.error s!"failed to read keypair from {path}"), file)
  | .generating, .generate drawn =>
      match EncryptionService.generateKeypair drawn with
      | .error e => (.returned (.error s!"Failed to generate keypair: {e}"), file)
      | .ok keys => (.saving keys, file)
  | .saving keys, .write succeeds takesEffect =>
      if succeeds then (.returned (.ok keys), some (KeyFormat.keys.encode keys))
      else (.returned (.error s!"failed to write keypair to {path}"),
        if takesEffect then some (KeyFormat.keys.encode keys) else file)
  | phase, _ => (phase, file)

/-- A call takes a step. -/
def step (s : KeyStore ι) (e : ι × CallStep) : KeyStore ι :=
  let (phase, file) := loadOrGenerateKeypair path s.file (s.calls e.1) e.2
  ⟨file, Function.update s.calls e.1 phase⟩

/-- No call has started. -/
def start (file : Option Bytes) : KeyStore ι where
  file := file
  calls _ := .starting

omit [DecidableEq ι] in
/-- The keypair in the file. -/
def stored (s : KeyStore ι) : Option Keys :=
  s.file.bind fun bytes => (KeyFormat.keys.decode bytes).toOption

/-- All calls that have returned a keypair have returned the same one, and it is the one in the
file. -/
structure Shared (s : KeyStore ι) : Prop where
  same : ∀ c d keys other, s.calls c = .returned (.ok keys) →
    s.calls d = .returned (.ok other) → keys = other
  kept : ∀ c keys, s.calls c = .returned (.ok keys) → s.stored = some keys

/-- The keypair that a step puts in the file. -/
def published (s : KeyStore ι) (e : ι × CallStep) : Option Keys :=
  match s.calls e.1, e.2 with
  | .saving keys, .write succeeds takesEffect => if succeeds || takesEffect then some keys else none
  | _, _ => none

/-- If the step puts a keypair in the file, no call has returned a different one. -/
def Undisturbed (s : KeyStore ι) (e : ι × CallStep) : Prop :=
  ∀ keys, s.published e = some keys → ∀ c other, s.calls c = .returned (.ok other) → other = keys

/-! ## Calls as clients of a shared cell -/

/-- The keypair in the file, and the ones that calls have returned. -/
def view (s : KeyStore ι) : SharedCell ι Keys where
  cell := s.stored
  adopted c := (s.calls c).keys?

variable {path : String} {s : KeyStore ι} {c : ι}

omit [KeyFormat] in
theorem Phase.keys?_eq_some {phase : Phase} {keys : Keys} :
    phase.keys? = some keys ↔ phase = .returned (.ok keys) := by
  unfold keys?
  split <;> simp_all

omit [DecidableEq ι] in
/-- Calls share a keypair when they agree as clients of the cell. -/
theorem shared_iff : s.Shared ↔ s.view.Agree := by
  constructor
  case mp => exact fun h c keys hkeys => h.kept c keys (Phase.keys?_eq_some.mp hkeys)
  case mpr =>
    intro h
    refine ⟨fun c d keys other hc hd => ?_,
      fun c keys hc => h c keys (Phase.keys?_eq_some.mpr hc)⟩
    exact h.eq (Phase.keys?_eq_some.mpr hc) (Phase.keys?_eq_some.mpr hd)

/-- How a step changes the view: the file as it is then, and what the call has returned then. -/
theorem view_move (file : Option Bytes) (phase : Phase) :
    (⟨file, Function.update s.calls c phase⟩ : KeyStore ι).view =
      ⟨stored ⟨file, s.calls⟩, Function.update s.view.adopted c phase.keys?⟩ := by
  have hadopted : (fun d => (Function.update s.calls c phase d).keys?) =
      Function.update (fun d => (s.calls d).keys?) c phase.keys? :=
    funext fun d => Function.apply_update (fun _ phase => phase.keys?) s.calls c phase d
  exact congrArg (SharedCell.mk _) hadopted

/-- A call that moves on without touching the file or returning a keypair is not seen. -/
theorem view_silent {phase : Phase} (hc : s.view.adopted c = none) (hphase : phase.keys? = none) :
    (⟨s.file, Function.update s.calls c phase⟩ : KeyStore ι).view = s.view := by
  rw [view_move, hphase, ← hc, Function.update_eq_self]
  rfl

omit [DecidableEq ι] in
/-- A call that reads the file leaves it, and returns the keypair in it or an error. -/
theorem loading_cases (path : String) (s : KeyStore ι) (readable : Bool) :
    ∃ phase, loadOrGenerateKeypair path s.file .loading (.read readable) = (phase, s.file) ∧
      (phase.keys? = none ∨ ∃ keys, s.stored = some keys ∧ phase = .returned (.ok keys)) := by
  cases readable with
  | false => exact ⟨_, rfl, .inl rfl⟩
  | true =>
      cases hfile : s.file with
      | none => exact ⟨_, rfl, .inl rfl⟩
      | some bytes =>
          cases hdecode : KeyFormat.keys.decode bytes with
          | error e =>
              refine ⟨.returned (.error s!"failed to deserialize keypair from {path}"), ?_,
                .inl rfl⟩
              simp only [loadOrGenerateKeypair, hdecode]
          | ok keys =>
              refine ⟨.returned (.ok keys), ?_, .inr ⟨keys, ?_, rfl⟩⟩
              · simp only [loadOrGenerateKeypair, hdecode]
              · simp [stored, hfile, hdecode, Except.toOption]

/-- What is seen of a step: nothing, that the call returns the keypair in the file, or that it puts
one in the file and returns it or not. -/
theorem step_cases (path : String) (s : KeyStore ι) (c : ι) (e : CallStep) :
    (s.published (c, e) = none ∧ (step path s (c, e)).view = s.view) ∨
    (s.published (c, e) = none ∧ ∃ keys, s.view.cell = some keys ∧ s.view.adopted c = none ∧
      (step path s (c, e)).view = s.view.adopt c keys) ∨
    (∃ keys, s.published (c, e) = some keys ∧
      (step path s (c, e)).view = s.view.publish keys) ∨
    ∃ keys, s.published (c, e) = some keys ∧ s.view.adopted c = none ∧
      (step path s (c, e)).view = (s.view.publish keys).adopt c keys := by
  have hmoved : ∀ phase file, loadOrGenerateKeypair path s.file (s.calls c) e = (phase, file) →
      step path s (c, e) = ⟨file, Function.update s.calls c phase⟩ := by
    intro phase file hmove
    simp only [step, hmove]
  have hsilent : ∀ phase, s.view.adopted c = none → phase.keys? = none →
      loadOrGenerateKeypair path s.file (s.calls c) e = (phase, s.file) →
      (step path s (c, e)).view = s.view := by
    intro phase hc hnone hmove
    rw [hmoved phase s.file hmove]
    exact view_silent hc hnone
  cases hphase : s.calls c with
  | starting =>
      have hc : s.view.adopted c = none := by simp [view, hphase, Phase.keys?]
      have hnone : s.published (c, e) = none := by simp [published, hphase]
      cases e with
      | testExists visible =>
          refine .inl ⟨hnone, hsilent _ hc ?_ (by rw [hphase]; rfl)⟩
          split <;> rfl
      | read | generate | write =>
          exact .inl ⟨hnone, hsilent .starting hc rfl (by rw [hphase]; rfl)⟩
  | loading =>
      have hc : s.view.adopted c = none := by simp [view, hphase, Phase.keys?]
      have hnone : s.published (c, e) = none := by simp [published, hphase]
      cases e with
      | read readable =>
          obtain ⟨phase, hread, hcases⟩ := loading_cases path s readable
          rw [← hphase] at hread
          rcases hcases with hfailed | ⟨keys, hstored, rfl⟩
          · exact .inl ⟨hnone, hsilent phase hc hfailed hread⟩
          · refine .inr (.inl ⟨hnone, keys, hstored, hc, ?_⟩)
            rw [hmoved _ _ hread, view_move]
            rfl
      | testExists | generate | write =>
          exact .inl ⟨hnone, hsilent .loading hc rfl (by rw [hphase]; rfl)⟩
  | generating =>
      have hc : s.view.adopted c = none := by simp [view, hphase, Phase.keys?]
      have hnone : s.published (c, e) = none := by simp [published, hphase]
      cases e with
      | generate drawn => exact .inl ⟨hnone, hsilent (.saving drawn) hc rfl (by rw [hphase]; rfl)⟩
      | testExists | read | write =>
          exact .inl ⟨hnone, hsilent .generating hc rfl (by rw [hphase]; rfl)⟩
  | saving keys =>
      have hc : s.view.adopted c = none := by simp [view, hphase, Phase.keys?]
      cases e with
      | write succeeds takesEffect =>
          have hwritten : stored ⟨some (KeyFormat.keys.encode keys), s.calls⟩ = some keys := by
            simp [stored, Except.toOption]
          cases succeeds with
          | true =>
              refine .inr (.inr (.inr ⟨keys, by simp [published, hphase], hc, ?_⟩))
              rw [hmoved (.returned (.ok keys)) (some (KeyFormat.keys.encode keys))
                (by rw [hphase]; rfl), view_move, hwritten]
              rfl
          | false =>
              cases takesEffect with
              | true =>
                  refine .inr (.inr (.inl ⟨keys, by simp [published, hphase], ?_⟩))
                  rw [hmoved _ (some (KeyFormat.keys.encode keys)) (by rw [hphase]; rfl),
                    view_move, hwritten]
                  exact congrArg (SharedCell.mk _)
                    (Function.update_eq_self_iff.mpr hc.symm)
              | false =>
                  exact .inl ⟨by simp [published, hphase],
                    hsilent _ hc rfl (by rw [hphase]; rfl)⟩
      | testExists | read | generate =>
          exact .inl ⟨by simp [published], hsilent (.saving keys) hc rfl (by rw [hphase]; rfl)⟩
  | returned result =>
      have hstill : loadOrGenerateKeypair path s.file (s.calls c) e = (s.calls c, s.file) := by
        rw [hphase]
        cases e <;> rfl
      refine .inl ⟨by simp [published, hphase], ?_⟩
      rw [hmoved _ _ hstill, Function.update_eq_self]

/-- A step keeps the agreement exactly when it is undisturbed. -/
theorem agree_step_iff (h : s.view.Agree) (e : ι × CallStep) :
    (step path s e).view.Agree ↔ s.Undisturbed e := by
  have hsilent : s.published e = none → s.Undisturbed e := by
    intro hnone keys hkeys
    rw [hnone] at hkeys
    cases hkeys
  have hpublish : ∀ keys, s.published e = some keys →
      (s.view.Unanimous keys ↔ s.Undisturbed e) := by
    intro keys hkeys
    constructor
    case mp =>
      intro hall keys' hkeys' c other hc
      obtain rfl := Option.some.inj (hkeys.symm.trans hkeys')
      exact hall c other (Phase.keys?_eq_some.mpr hc)
    case mpr => exact fun hall c other hc => hall keys hkeys c other (Phase.keys?_eq_some.mp hc)
  rcases step_cases path s e.1 e.2 with
    ⟨hnone, hview⟩ | ⟨hnone, keys, hcell, hc, hview⟩ | ⟨keys, hkeys, hview⟩ |
      ⟨keys, hkeys, hc, hview⟩
  · rw [hview]
    exact iff_of_true h (hsilent hnone)
  · rw [hview]
    exact iff_of_true ((SharedCell.agree_adopt_iff hcell hc).mpr h) (hsilent hnone)
  · rw [hview, SharedCell.agree_publish_iff, hpublish keys hkeys]
  · have hcell : (s.view.publish keys).cell = some keys := rfl
    have hnone : (s.view.publish keys).adopted e.1 = none := hc
    rw [hview, SharedCell.agree_adopt_iff hcell hnone, SharedCell.agree_publish_iff,
      hpublish keys hkeys]

/-- All calls share one keypair in every state of a run exactly when no step puts a keypair in the
file after a call has returned a different one. -/
theorem keypair_shared_iff (path : String) (file : Option Bytes) (events : List (ι × CallStep)) :
    Always (step path) Shared (start file) events ↔
      Throughout (step path) Undisturbed (start file) events := by
  have hstart : Shared (start file : KeyStore ι) :=
    ⟨fun c d keys other hc => (Phase.noConfusion hc), fun c keys hc => Phase.noConfusion hc⟩
  refine always_iff_throughout hstart fun pre e _ h => ?_
  rw [shared_iff]
  exact agree_step_iff (shared_iff.mp h) e

end KeyStore

end InfoVulcan

/-! ## Two services that start at once -/

namespace InfoVulcan.SerdeJson

scoped instance : KeyFormat where
  keys := (JsonFormat.tuple (JsonFormat.list JsonFormat.u8) <|
    JsonFormat.component (JsonFormat.list JsonFormat.u8) JsonFormat.endTuple).conv
      (fun keys => (keys.1, keys.2, ()))
      (fun (publicKey, secretKey, _) => some (publicKey, secretKey)) (fun _ => rfl) |>.codec

end InfoVulcan.SerdeJson

namespace InfoVulcan.KeyStore

open scoped SerdeJson

/-- A keypair, by the byte it consists of. -/
def sampleKeys (byte : UInt8) : Keys :=
  (List.replicate 1184 byte, List.replicate 2400 byte)

/-- Both calls test for the file before either has written it. -/
def startedAtOnce : List (Bool × CallStep) :=
  [(false, .testExists true), (true, .testExists true),
    (false, .generate (sampleKeys 1)), (true, .generate (sampleKeys 2)),
    (false, .write true true), (true, .write true true)]

/-- The two calls return different keypairs. -/
theorem started_at_once_not_shared :
    ¬ Always (step "/data/keys.bin") Shared (start none) startedAtOnce := by
  intro h
  have hend := h startedAtOnce List.prefix_rfl
  have hsame := hend.same false true (sampleKeys 1) (sampleKeys 2) rfl rfl
  have hhead : (List.replicate 1184 (1 : UInt8)).head? = (List.replicate 1184 2).head? :=
    congrArg (fun keys : Keys => keys.1.head?) hsame
  rw [List.head?_replicate, List.head?_replicate] at hhead
  cases hhead

end InfoVulcan.KeyStore
