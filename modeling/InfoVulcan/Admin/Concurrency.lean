import InfoVulcan.Admin.Profiles
import InfoVulcan.Auth.Ownership
import InfoVulcan.Library.Machine

/-!
# Concurrent changes of profiles

Any number of calls create, update and delete accounts at once, and each of them stores a profile
that it has read some requests before. The changes of successful calls last exactly as long as every
profile that is stored agrees with the one it replaces on the fields its call leaves alone.
-/

namespace InfoVulcan.Admin

variable [Chrono] [Primitives] [PasswordHasher] [AccountFormat]

/-! ## Calls at once -/

/-- The DB, where each call stands, and the profiles stored so far: whose, and by which call. -/
structure CallStore (ι : Type) where
  db : Sled
  phases : ι → CallPhase
  writes : List (Uuid × ι)

namespace CallStore

variable {ι : Type}

/-- No call has made a request. -/
def start (db : Sled) : CallStore ι where
  db := db
  phases _ := .started
  writes := []

/-- The fields that have been set in the profile of a user, call by call. -/
def patches (calls : ι → AccountCall) (s : CallStore ι) (id : Uuid) :
    List (Patch ProfileField.Value) :=
  (s.writes.filter fun w => w.1 = id).map fun w => (calls w.2).sets

variable [UuidParser] [DecidableEq ι] (service : AdminServiceImpl) (calls : ι → AccountCall)

/-- A call makes its next request, which may fail. -/
def step (s : CallStore ι) (e : ι × Option Status) : CallStore ι :=
  let (phase, db) := (calls e.1).step service s.db e.2 (s.phases e.1)
  { db
    phases := Function.update s.phases e.1 phase
    writes :=
      match (calls e.1).stores service e.2 (s.phases e.1) with
      | none => s.writes
      | some user => s.writes ++ [(user.userId, e.1)] }

omit [UuidParser] [DecidableEq ι] in
/-- Every field that calls have set in a profile still has the value it was set to last. A profile
that has been deactivated stays so until a later call sets it active. -/
structure EffectsKept (s : CallStore ι) : Prop where
  fields : ∀ id f v, Patch.lastSet (s.patches calls id) f = some v →
    ∃ user, service.profile s.db id = some user ∧ profileField user f = v
  deactivated : ∀ id pre deactivation post, s.patches calls id = pre ++ deactivation :: post →
    deactivation .isActive = some false → (∀ p ∈ post, p .isActive ≠ some true) →
    ∃ user, service.profile s.db id = some user ∧ user.isActive = false

/-- If the request stores a profile, it agrees with the stored one on the fields that its call does
not set. -/
def Current (s : CallStore ι) (e : ι × Option Status) : Prop :=
  ∀ user, (calls e.1).stores service e.2 (s.phases e.1) = some user →
    ∀ old, service.profile s.db user.userId = some old →
      ∀ f, (calls e.1).sets f = none → profileField user f = profileField old f

/-- The fields of the stored profiles and of those that calls have yet to store go back to calls,
or to the profiles `first` that were there at the start. -/
structure Traced (first profiles : Uuid → Option User) (s : CallStore ι) : Prop where
  holds : HoldsProfiles service.keypair profiles s.db
  stored : ∀ id user, profiles id = some user → ∀ f, Patch.lastSet (s.patches calls id) f = none →
    ∃ user₀, first id = some user₀ ∧ profileField user f = profileField user₀ f
  set : ∀ c user, (s.phases c).pending = some user →
    ∀ f v, (calls c).sets f = some v → profileField user f = v
  read : ∀ c user, (s.phases c).pending = some user → (profiles user.userId).isSome ∧
    ∀ f, (calls c).sets f = none → Patch.lastSet (s.patches calls user.userId) f = none →
      ∃ user₀, first user.userId = some user₀ ∧ profileField user f = profileField user₀ f

variable {service calls} {s : CallStore ι} {e : ι × Option Status}
  {first profiles : Uuid → Option User}

/-- The patches of a profile after a request: one more if it stores the profile. -/
theorem patches_step (id : Uuid) :
    (s.step service calls e).patches calls id =
      match (calls e.1).stores service e.2 (s.phases e.1) with
      | none => s.patches calls id
      | some user =>
          if user.userId = id then s.patches calls id ++ [(calls e.1).sets]
          else s.patches calls id := by
  cases hstores : (calls e.1).stores service e.2 (s.phases e.1) with
  | none => simp [patches, step, hstores]
  | some user =>
      by_cases hid : user.userId = id
      · simp [patches, step, hstores, hid]
      · simp [patches, step, hstores, hid]

/-- A field that has not been set after a request was not set before. -/
theorem lastSet_eq_none_of_step {id : Uuid} {f : ProfileField}
    (h : Patch.lastSet ((s.step service calls e).patches calls id) f = none) :
    Patch.lastSet (s.patches calls id) f = none := by
  rw [patches_step] at h
  split at h
  · exact h
  · split at h
    · rw [Patch.lastSet_concat, Option.or_eq_none_iff] at h
      exact h.2
    · exact h

/-- Where another call stands does not change. -/
theorem phases_step_of_ne {c : ι} (hc : c ≠ e.1) :
    (s.step service calls e).phases c = s.phases c :=
  Function.update_of_ne hc _ _

theorem phases_step_self :
    (s.step service calls e).phases e.1 =
      ((calls e.1).step service s.db e.2 (s.phases e.1)).1 :=
  Function.update_self _ _ _

/-- A request that stores no profile keeps the profiles traced. -/
theorem Traced.quiet (h : Traced service calls first profiles s)
    (hquiet : AccountCall.Quiet service profiles (calls e.1) (s.phases e.1)
      ((calls e.1).step service s.db e.2 (s.phases e.1))) :
    Traced service calls first profiles (s.step service calls e) where
  holds := hquiet.holds
  stored id user huser f hnone := h.stored id user huser f (lastSet_eq_none_of_step hnone)
  set c user hpending f v hset := by
    by_cases hc : c = e.1
    · subst hc
      rw [phases_step_self] at hpending
      -- The profile was already computed, or is computed now from the one stored.
      rcases hquiet.pending user hpending with hbefore | ⟨base, -, hedits⟩
      · exact h.set _ user hbefore f v hset
      · rw [hedits.fields f, hset, Option.getD_some]
    · rw [phases_step_of_ne hc] at hpending
      exact h.set c user hpending f v hset
  read c user hpending := by
    by_cases hc : c = e.1
    · subst hc
      rw [phases_step_self] at hpending
      rcases hquiet.pending user hpending with hbefore | ⟨base, hbase, hedits⟩
      · obtain ⟨hold, hread⟩ := h.read _ user hbefore
        exact ⟨hold, fun f hset hnone => hread f hset (lastSet_eq_none_of_step hnone)⟩
      · rw [hedits.userId, hbase]
        refine ⟨rfl, fun f hset hnone => ?_⟩
        rw [hedits.fields f, hset, Option.getD_none]
        exact h.stored base.userId base hbase f (lastSet_eq_none_of_step hnone)
    · rw [phases_step_of_ne hc] at hpending
      obtain ⟨hold, hread⟩ := h.read c user hpending
      exact ⟨hold, fun f hset hnone => hread f hset (lastSet_eq_none_of_step hnone)⟩

/-- A request that stores a profile keeps the profiles traced. -/
theorem Traced.storing (h : Traced service calls first profiles s) {user : User}
    (hstores : (calls e.1).stores service e.2 (s.phases e.1) = some user)
    (hstoring : AccountCall.Storing service profiles (calls e.1) (s.phases e.1)
      ((calls e.1).step service s.db e.2 (s.phases e.1)) user) :
    Traced service calls first (Function.update profiles user.userId (some user))
      (s.step service calls e) where
  holds := hstoring.holds
  stored id user' huser' f hnone := by
    rw [Function.update_apply] at huser'
    split at huser'
    next hid =>
      obtain rfl := Option.some.inj huser'
      rw [patches_step, hstores, hid] at hnone
      simp only [if_true, Patch.lastSet_concat, Option.or_eq_none_iff] at hnone
      -- A profile that has been read agrees with the first one where nothing has set a field
      -- since. A new account sets every field.
      rcases hstoring.source with hpending | hall
      · rw [hid]
        exact (h.read _ user hpending).2 f hnone.1 hnone.2
      · rw [hall f] at hnone
        cases hnone.1
    next => exact h.stored id user' huser' f (lastSet_eq_none_of_step hnone)
  set c user' hpending f v hset := by
    by_cases hc : c = e.1
    · subst hc
      rw [phases_step_self, hstoring.done] at hpending
      cases hpending
    · rw [phases_step_of_ne hc] at hpending
      exact h.set c user' hpending f v hset
  read c user' hpending := by
    by_cases hc : c = e.1
    · subst hc
      rw [phases_step_self, hstoring.done] at hpending
      cases hpending
    · rw [phases_step_of_ne hc] at hpending
      obtain ⟨hold, hread⟩ := h.read c user' hpending
      refine ⟨?_, fun f hset hnone => hread f hset (lastSet_eq_none_of_step hnone)⟩
      rw [Function.update_apply]
      split
      · rfl
      · exact hold

/-- Profiles stay traced along a run. -/
theorem exists_traced {db : Sled} (h : HoldsProfiles service.keypair first db)
    (events : List (ι × Option Status)) :
    ∃ profiles, Traced service calls first profiles
      (events.foldl (step service calls) (start db)) := by
  induction events using List.reverseRecOn with
  | nil =>
      exact ⟨first,
        { holds := h
          stored := fun id user huser f _ => ⟨user, huser, rfl⟩
          set := fun c user hpending => by cases hpending
          read := fun c user hpending => by cases hpending }⟩
  | append_singleton events e ih =>
      obtain ⟨profiles, hs⟩ := ih
      rw [List.foldl_concat]
      rcases AccountCall.step_cases hs.holds (calls e.1) e.2
          ((events.foldl (step service calls) (start db)).phases e.1) with
        ⟨-, hquiet⟩ | ⟨user, hstores, hstoring⟩
      · exact ⟨profiles, hs.quiet hquiet⟩
      · exact ⟨_, hs.storing hstores hstoring⟩

/-- What has been written stays recorded. -/
theorem mem_writes_step {w : Uuid × ι} (h : w ∈ s.writes) :
    w ∈ (s.step service calls e).writes := by
  simp only [step]
  split
  · exact h
  · exact List.mem_append_left _ h

/-- A call that has got to where it has stored its profile is recorded. -/
theorem mem_writes_of_hasStored {db : Sled} {events : List (ι × Option Status)} {c : ι}
    (h : AccountCall.hasStored ((events.foldl (step service calls) (start db)).phases c)) :
    ∃ id, (id, c) ∈ (events.foldl (step service calls) (start db)).writes := by
  induction events using List.reverseRecOn with
  | nil => cases h
  | append_singleton events e ih =>
      rw [List.foldl_concat] at h ⊢
      by_cases hc : c = e.1
      · subst hc
        rw [phases_step_self] at h
        rcases AccountCall.hasStored_step h with hbefore | hstores
        · obtain ⟨id, hid⟩ := ih hbefore
          exact ⟨id, mem_writes_step hid⟩
        · obtain ⟨user, huser⟩ := Option.isSome_iff_exists.mp hstores
          refine ⟨user.userId, ?_⟩
          simp [step, huser]
      · rw [phases_step_of_ne hc] at h
        obtain ⟨id, hid⟩ := ih h
        exact ⟨id, mem_writes_step hid⟩

/-- The profile of a call that has returned an answer has been stored. -/
theorem mem_writes_of_answer {db : Sled} {events : List (ι × Option Status)} {c : ι}
    {answer : AccountAnswer}
    (h : (events.foldl (step service calls) (start db)).phases c = .returned (.ok answer)) :
    ∃ id, (id, c) ∈ (events.foldl (step service calls) (start db)).writes :=
  mem_writes_of_hasStored (by rw [h]; rfl)

omit [UuidParser] [DecidableEq ι] in
/-- Deactivation is one of the fields. -/
theorem effectsKept_iff :
    EffectsKept service calls s ↔ ∀ id f v, Patch.lastSet (s.patches calls id) f = some v →
      ∃ user, service.profile s.db id = some user ∧ profileField user f = v := by
  refine ⟨fun h => h.fields, fun h => ⟨h, ?_⟩⟩
  intro id pre deactivation post hpatches hdeactivates hpost
  refine h id .isActive false ?_
  rw [hpatches]
  refine Patch.lastSet_eq_of_unchanged hdeactivates fun p hp w hw => ?_
  cases w with
  | true => exact absurd hw (hpost p hp)
  | false => rfl

omit [UuidParser] [DecidableEq ι] in
/-- The effects on the profile of a user are kept when the stored profile is kept by the patches. -/
theorem EffectsKept.kept (h : EffectsKept service calls s) {id : Uuid} {user : User}
    (huser : service.profile s.db id = some user) :
    Patch.Kept (s.patches calls id) (profileField user) := by
  intro f v hlast
  obtain ⟨user', huser', hv⟩ := h.fields id f v hlast
  obtain rfl := Option.some.inj (huser.symm.trans huser')
  exact hv

/-- A request that stores no profile keeps the effects of earlier calls. -/
theorem EffectsKept.quiet (h : EffectsKept service calls s)
    (htraced : Traced service calls first profiles s)
    (hnone : (calls e.1).stores service e.2 (s.phases e.1) = none)
    (hquiet : AccountCall.Quiet service profiles (calls e.1) (s.phases e.1)
      ((calls e.1).step service s.db e.2 (s.phases e.1))) :
    EffectsKept service calls (s.step service calls e) := by
  refine effectsKept_iff.mpr fun id f v hlast => ?_
  rw [patches_step, hnone] at hlast
  rw [(htraced.quiet hquiet).holds.profile_eq, ← htraced.holds.profile_eq]
  exact h.fields id f v hlast

/-- After a request that stores a profile, only that profile matters. -/
theorem EffectsKept.storing_iff (h : EffectsKept service calls s)
    (htraced : Traced service calls first profiles s) {user : User}
    (hstores : (calls e.1).stores service e.2 (s.phases e.1) = some user)
    (hstoring : AccountCall.Storing service profiles (calls e.1) (s.phases e.1)
      ((calls e.1).step service s.db e.2 (s.phases e.1)) user) :
    EffectsKept service calls (s.step service calls e) ↔
      Patch.Kept (s.patches calls user.userId ++ [(calls e.1).sets]) (profileField user) := by
  have hprofile : ∀ id, service.profile (s.step service calls e).db id =
      if id = user.userId then some user else service.profile s.db id := fun id => by
    rw [(htraced.storing hstores hstoring).holds.profile_eq, Function.update_apply,
      htraced.holds.profile_eq]
  have hpatches : ∀ id, (s.step service calls e).patches calls id =
      if user.userId = id then s.patches calls id ++ [(calls e.1).sets]
      else s.patches calls id := fun id => by rw [patches_step, hstores]
  rw [effectsKept_iff]
  constructor
  case mp =>
    intro hall f v hlast
    obtain ⟨user', huser', hv⟩ := hall user.userId f v (by rwa [hpatches, if_pos rfl])
    rw [hprofile, if_pos rfl] at huser'
    obtain rfl := Option.some.inj huser'
    exact hv
  case mpr =>
    intro hkept id f v hlast
    rw [hpatches] at hlast
    rw [hprofile]
    by_cases hid : user.userId = id
    · rw [if_pos hid, ← hid] at hlast
      exact ⟨user, if_pos hid.symm, hkept f v hlast⟩
    · rw [if_neg hid] at hlast
      rw [if_neg (Ne.symm hid)]
      exact h.fields id f v hlast

omit [UuidParser] [DecidableEq ι] in
/-- Where no call has set a field, the profile that is stored agrees with the one it replaces. -/
theorem Traced.agree (h : Traced service calls first profiles s) {user old : User}
    (hsource : (s.phases e.1).pending = some user ∨
      ∀ f, (calls e.1).sets f = some (profileField user f))
    (hold : profiles user.userId = some old) {f : ProfileField} (hf : (calls e.1).sets f = none)
    (hlast : Patch.lastSet (s.patches calls user.userId) f = none) :
    profileField user f = profileField old f := by
  rcases hsource with hpending | hall
  · obtain ⟨user₀, hfirst, hv⟩ := (h.read _ user hpending).2 f hf hlast
    obtain ⟨user₁, hfirst', hv'⟩ := h.stored user.userId old hold f hlast
    obtain rfl := Option.some.inj (hfirst.symm.trans hfirst')
    rw [hv, hv']
  · rw [hall f] at hf
    cases hf

/-- A request keeps the effects of earlier calls, and has its own, exactly when the profile it
stores is current. -/
theorem effectsKept_step_iff (htraced : Traced service calls first profiles s)
    (h : EffectsKept service calls s) :
    EffectsKept service calls (s.step service calls e) ↔ Current service calls s e := by
  rcases AccountCall.step_cases htraced.holds (calls e.1) e.2 (s.phases e.1) with
    ⟨hnone, hquiet⟩ | ⟨user, hstores, hstoring⟩
  · refine iff_of_true (h.quiet htraced hnone hquiet) fun user huser => ?_
    rw [hnone] at huser
    cases huser
  have hset : ∀ f v, (calls e.1).sets f = some v → profileField user f = v := by
    intro f v hf
    rcases hstoring.source with hpending | hall
    · exact htraced.set _ user hpending f v hf
    · exact Option.some.inj ((hall f).symm.trans hf)
  rw [h.storing_iff htraced hstores hstoring]
  cases hold : service.profile s.db user.userId with
  | none =>
      -- Only a new account has no profile to replace, and it sets every field.
      have hnone : profiles user.userId = none := (htraced.holds.profile_eq _).symm.trans hold
      have hall : ∀ f, (calls e.1).sets f = some (profileField user f) := by
        rcases hstoring.source with hpending | hall
        · have hread := (htraced.read _ user hpending).1
          rw [hnone] at hread
          cases hread
        · exact hall
      refine iff_of_true (fun f v hlast => ?_) fun user' huser' old hold' => ?_
      · rw [Patch.lastSet_concat, hall f, Option.some_or] at hlast
        exact Option.some.inj hlast
      · obtain rfl := Option.some.inj (hstores.symm.trans huser')
        rw [hold] at hold'
        cases hold'
  | some old =>
      have hprofile : profiles user.userId = some old :=
        (htraced.holds.profile_eq _).symm.trans hold
      rw [Patch.kept_concat_iff (h.kept hold) hset fun f hf hlast =>
        htraced.agree hstoring.source hprofile hf hlast]
      constructor
      case mp =>
        intro hcurrent user' huser' old' hold' f hf
        obtain rfl := Option.some.inj (hstores.symm.trans huser')
        obtain rfl := Option.some.inj (hold.symm.trans hold')
        exact hcurrent f hf
      case mpr => exact fun hcurrent f hf => hcurrent user hstores old hold f hf

/-- Every change that calls make lasts until a later call sets the same field exactly when each
profile that is stored agrees with the one it replaces on the fields its call does not set. -/
theorem profile_changes_kept_iff {db : Sled} (h : HoldsProfiles service.keypair first db)
    (events : List (ι × Option Status)) :
    Always (step service calls) (EffectsKept service calls) (start db) events ↔
      Throughout (step service calls) (Current service calls) (start db) events := by
  have hstart : EffectsKept service calls (start db : CallStore ι) :=
    effectsKept_iff.mpr fun id f v hlast => by cases hlast
  refine always_iff_throughout hstart fun pre e _ hpre => ?_
  obtain ⟨profiles, htraced⟩ : ∃ profiles, Traced service calls first profiles
      (pre.foldl (step service calls) (start db)) := exists_traced h pre
  exact effectsKept_step_iff htraced hpre

/-! ## An edit around a deactivation -/

/-- A call that has yet to store a profile stores it, if it can be encrypted. -/
theorem step_storingUser {c : ι} {user : User} {userBytes : Bytes}
    (hphase : s.phases c = .storingUser user)
    (hbytes : service.encryptUser user (calls c).entropy = .ok userBytes) :
    s.step service calls (c, none) =
      ⟨Db.put s.db "users" user.userId.asBytes userBytes,
        Function.update s.phases c (.returned (.ok ((calls c).answer user))),
        s.writes ++ [(user.userId, c)]⟩ := by
  have hstores : (calls c).stores service none (.storingUser user) = some user := by
    show (service.encryptUser user (calls c).entropy).toOption.map (fun _ => user) = some user
    rw [hbytes]
    rfl
  simp only [step, hphase, AccountCall.step, hbytes, hstores]

/-- An update that sets no password has its profile to store once it has read it. -/
theorem step_update {c : ι} {draws : UpdateDraws} {req : UpdateUserRequest} {user : User}
    (hc : calls c = .update draws req) (hpassword : req.password = none)
    (hphase : s.phases c = .started) (hread : service.existingUser s.db req.id = .ok user) :
    s.step service calls (c, none) =
      ⟨s.db, Function.update s.phases c
        (.storingUser (AdminServiceImpl.applyUpdate draws req user)), s.writes⟩ := by
  simp only [step, hc, hphase, AccountCall.step, AccountCall.start, AccountCall.readUser_none,
    hread, AccountCall.afterReading, hpassword]
  rfl

/-- A deletion has its profile to store once it has read it. -/
theorem step_delete {c : ι} {draws : UpdateDraws} {req : DeleteUserRequest} {user : User}
    (hc : calls c = .delete draws req) (hphase : s.phases c = .started)
    (hread : service.existingUser s.db req.id = .ok user) :
    s.step service calls (c, none) =
      ⟨s.db, Function.update s.phases c
        (.storingUser { user with isActive := false, updatedAt := draws.updatedAt }),
        s.writes⟩ := by
  simp only [step, hc, hphase, AccountCall.step, AccountCall.start, AccountCall.readUser_none,
    hread]
  rfl

omit [UuidParser] [DecidableEq ι] in
/-- What is stored is current if it agrees with the stored profile where its call sets nothing. -/
theorem current_of_storing {c : ι} {user : User} (hphase : s.phases c = .storingUser user)
    (h : ∀ old, service.profile s.db user.userId = some old →
      ∀ f, (calls c).sets f = none → profileField user f = profileField old f) :
    Current service calls s (c, none) := by
  intro user' hstores old hold
  rw [hphase] at hstores
  obtain rfl := AccountCall.eq_of_stores hstores
  exact h old hold

/-- Two updates that set the same fields store current profiles also where both have read the
profile before either stores it. -/
theorem current_of_crossing {c₀ c₁ : ι} (hne : c₀ ≠ c₁) {db : Sled} {user : User}
    {draws₀ draws₁ : UpdateDraws} {req₀ req₁ : UpdateUserRequest}
    (hholds : HoldsProfiles service.keypair first db)
    (hc₀ : calls c₀ = .update draws₀ req₀) (hc₁ : calls c₁ = .update draws₁ req₁)
    (hpassword₀ : req₀.password = none) (hpassword₁ : req₁.password = none)
    (hread₀ : service.existingUser db req₀.id = .ok user)
    (hread₁ : service.existingUser db req₁.id = .ok user)
    (hsame : ∀ f, (calls c₁).sets f = none → (calls c₀).sets f = none)
    (hseal : ∀ user entropy, ∃ userBytes, service.encryptUser user entropy = .ok userBytes) :
    Throughout (step service calls) (Current service calls) (start db)
      [(c₀, none), (c₁, none), (c₀, none), (c₁, none)] := by
  let edited₀ := AdminServiceImpl.applyUpdate draws₀ req₀ user
  let edited₁ := AdminServiceImpl.applyUpdate draws₁ req₁ user
  have hfields₀ : ∀ f, (calls c₀).sets f = none → profileField edited₀ f = profileField user f := by
    intro f hf
    rw [hc₀] at hf
    rw [(edits_applyUpdate draws₀ req₀ user).fields f, hf, Option.getD_none]
  have hfields₁ : ∀ f, (calls c₁).sets f = none → profileField edited₁ f = profileField user f := by
    intro f hf
    rw [hc₁] at hf
    rw [(edits_applyUpdate draws₁ req₁ user).fields f, hf, Option.getD_none]
  obtain ⟨bytes₀, hbytes₀⟩ := hseal edited₀ (calls c₀).entropy
  let phases₁ : ι → CallPhase := Function.update (fun _ => .started) c₀ (.storingUser edited₀)
  let phases₂ := Function.update phases₁ c₁ (.storingUser edited₁)
  have hreads (s : CallStore ι) {c : ι} {draws : UpdateDraws} {req : UpdateUserRequest}
      (hc : calls c = .update draws req) (hphase : s.phases c = .started) :
      Current service calls s (c, none) := by
    intro user' hstores
    rw [hphase, hc] at hstores
    cases hstores
  have h₁ : (start db).step service calls (c₀, none) = ⟨db, phases₁, []⟩ :=
    step_update hc₀ hpassword₀ rfl hread₀
  have hstarted : phases₁ c₁ = .started := Function.update_of_ne hne.symm _ _
  have h₂ : step service calls ⟨db, phases₁, []⟩ (c₁, none) = ⟨db, phases₂, []⟩ :=
    step_update hc₁ hpassword₁ hstarted hread₁
  have hphase₀ : phases₂ c₀ = .storingUser edited₀ := by simp [phases₂, phases₁, hne]
  have hphase₁ (answer : CallPhase) :
      Function.update phases₂ c₀ answer c₁ = .storingUser edited₁ := by
    simp [phases₂, hne.symm]
  have h₃ : step service calls ⟨db, phases₂, []⟩ (c₀, none) = _ := step_storingUser hphase₀ hbytes₀
  rw [throughout_cons, h₁, throughout_cons, h₂, throughout_cons, h₃, throughout_cons]
  refine ⟨hreads _ hc₀ rfl, hreads _ hc₁ hstarted, current_of_storing hphase₀ ?_,
    current_of_storing (hphase₁ _) ?_, throughout_nil⟩
  -- The first write finds the profile that both have read.
  · intro old hold f hf
    obtain rfl : user = old := Option.some.inj
      ((hholds.of_existingUser hread₀).symm.trans ((hholds.profile_eq _).symm.trans hold))
    exact hfields₀ f hf
  -- The second write finds what the first has stored, which agrees where the second sets nothing.
  · intro old hold f hf
    have hprofile := (hholds.putUser hbytes₀).profile_eq user.userId
    have hself : Function.update first user.userId (some edited₀) user.userId = some edited₀ :=
      Function.update_self ..
    obtain rfl : edited₀ = old := Option.some.inj (hself.symm.trans (hprofile.symm.trans hold))
    rw [hfields₁ f hf, hfields₀ f (hsame f hf)]

/-- An edit that has read a profile before it was deactivated makes it active again. -/
theorem deactivation_undone {edit deletion : ι} (hne : edit ≠ deletion) {db : Sled} {user : User}
    {draws deletionDraws : UpdateDraws} {req : UpdateUserRequest} {deletionReq : DeleteUserRequest}
    (hholds : HoldsProfiles service.keypair first db)
    (hedit : calls edit = .update draws req) (hpassword : req.password = none)
    (hdeletion : calls deletion = .delete deletionDraws deletionReq)
    (hread : service.existingUser db req.id = .ok user)
    (hread' : service.existingUser db deletionReq.id = .ok user)
    (hactive : user.isActive = true) (hkeeps : req.active = none)
    (hseal : ∀ user entropy, ∃ userBytes, service.encryptUser user entropy = .ok userBytes) :
    ¬ EffectsKept service calls (List.foldl (step service calls) (start db)
      [(edit, none), (deletion, none), (deletion, none), (edit, none)]) := by
  let edited := AdminServiceImpl.applyUpdate draws req user
  let deleted : User := { user with isActive := false, updatedAt := deletionDraws.updatedAt }
  obtain ⟨deletedBytes, hdeleted⟩ := hseal deleted (calls deletion).entropy
  obtain ⟨editedBytes, hedited⟩ := hseal edited (calls edit).entropy
  let phases₁ : ι → CallPhase := Function.update (fun _ => .started) edit (.storingUser edited)
  let phases₂ := Function.update phases₁ deletion (.storingUser deleted)
  let phases₃ := Function.update phases₂ deletion
    (.returned (.ok ((calls deletion).answer deleted)))
  let db₃ := Db.put db "users" user.userId.asBytes deletedBytes
  -- The edit reads, the deletion reads and stores, and the edit stores what it has read.
  have h₁ : (start db).step service calls (edit, none) = ⟨db, phases₁, []⟩ :=
    step_update hedit hpassword rfl hread
  have hstarted : phases₁ deletion = .started := Function.update_of_ne hne.symm _ _
  have h₂ : step service calls ⟨db, phases₁, []⟩ (deletion, none) = ⟨db, phases₂, []⟩ :=
    step_delete hdeletion hstarted hread'
  have h₃ : step service calls ⟨db, phases₂, []⟩ (deletion, none) =
      ⟨db₃, phases₃, [(user.userId, deletion)]⟩ :=
    step_storingUser (Function.update_self _ _ _) hdeleted
  have hphase : phases₃ edit = .storingUser edited := by
    simp [phases₃, phases₂, phases₁, hne]
  have h₄ : step service calls ⟨db₃, phases₃, [(user.userId, deletion)]⟩ (edit, none) =
      ⟨Db.put db₃ "users" user.userId.asBytes editedBytes,
        Function.update phases₃ edit (.returned (.ok ((calls edit).answer edited))),
        [(user.userId, deletion), (user.userId, edit)]⟩ :=
    step_storingUser hphase hedited
  simp only [List.foldl]
  rw [h₁, h₂, h₃, h₄]
  intro hkept
  obtain ⟨user', huser', hinactive⟩ := hkept.deactivated user.userId [] (calls deletion).sets
    [(calls edit).sets] (by simp [patches]) (by rw [hdeletion]; rfl) (by
      intro p hp
      obtain rfl := List.mem_singleton.mp hp
      rw [hedit]
      simp [AccountCall.sets, hkeeps])
  have hprofile := ((hholds.putUser hdeleted).putUser hedited).profile_eq user.userId
  have hedited' : service.profile (Db.put db₃ "users" user.userId.asBytes editedBytes)
      user.userId = some edited := hprofile.trans (Function.update_self _ _ _)
  obtain rfl := Option.some.inj (hedited'.symm.trans huser')
  have hstill : edited.isActive = true := by
    simp [edited, AdminServiceImpl.applyUpdate, hkeeps, hactive]
  rw [hstill] at hinactive
  cases hinactive

end CallStore

end InfoVulcan.Admin

/-! ## Runs on the JSON formats -/

namespace InfoVulcan.Admin

open scoped SerdeJson

open Auth SerdeJson

/-- The store with a single account. -/
def singleAccount : Sled :=
  performAll accountServices [createCall ⟨1⟩ "alice"]

theorem holdsProfiles_single :
    HoldsProfiles accountServices.admin.keypair firstAccounts.profiles singleAccount where
  cells := stores_first.profiles
  keyed := stores_first.keyed

/-- The profile of the account. -/
def singleUser : User :=
  AdminServiceImpl.newUser (drawsFor ⟨1⟩) (accountRequest "alice")

theorem existingUser_single :
    accountServices.admin.existingUser singleAccount (toString (⟨1⟩ : Uuid)) = .ok singleUser :=
  stores_first.existingUser.mpr ⟨⟨1⟩, Uuid.parseHyphenated_toString ⟨1⟩, rfl⟩

theorem encryptUser_ok (user : User) (entropy : Bytes) :
    ∃ userBytes, accountServices.admin.encryptUser user entropy = .ok userBytes :=
  sealRecord_ok AccountFormat.user user entropy

/-- A request for a new display name. -/
def nameChange (name : String) : UpdateUserRequest where
  id := toString (⟨1⟩ : Uuid)
  email := none
  displayName := some name
  role := none
  active := none
  password := none

/-- The account gets two names at once. -/
def renamedTwice (second : Bool) : AccountCall :=
  .update changeDraws (nameChange (if second then "Ada" else "Alice"))

/-- Both names are computed from the profile as it was, and the second one lasts. -/
theorem profile_changes_kept_iff_renamed :
    Always (CallStore.step accountServices.admin renamedTwice)
      (CallStore.EffectsKept accountServices.admin renamedTwice)
      (CallStore.start singleAccount)
      [(false, none), (true, none), (false, none), (true, none)] := by
  have hsame : ∀ f, (renamedTwice true).sets f = none → (renamedTwice false).sets f = none := by
    intro f hf
    cases f with
    | displayName => cases hf
    | email | role | isActive => rfl
  exact (CallStore.profile_changes_kept_iff holdsProfiles_single _).mpr
    (CallStore.current_of_crossing Bool.false_ne_true holdsProfiles_single rfl rfl rfl rfl
      existingUser_single existingUser_single hsame encryptUser_ok)

/-- The account is renamed and deleted at once. -/
def renamedAndDeleted : Bool → AccountCall
  | false => .update changeDraws (nameChange "Alice")
  | true => .delete changeDraws ⟨toString (⟨1⟩ : Uuid)⟩

/-- The renaming reads the profile before the deletion and stores it after. -/
theorem deletion_undone_by_renaming :
    ¬ Always (CallStore.step accountServices.admin renamedAndDeleted)
      (CallStore.EffectsKept accountServices.admin renamedAndDeleted)
      (CallStore.start singleAccount)
      [(false, none), (true, none), (true, none), (false, none)] := by
  intro h
  have hedit : renamedAndDeleted false = .update changeDraws (nameChange "Alice") := rfl
  have hdeletion : renamedAndDeleted true =
      .delete changeDraws ⟨toString (⟨1⟩ : Uuid)⟩ := rfl
  exact CallStore.deactivation_undone Bool.false_ne_true holdsProfiles_single hedit rfl hdeletion
    existingUser_single existingUser_single rfl rfl encryptUser_ok (h _ List.prefix_rfl)

end InfoVulcan.Admin
