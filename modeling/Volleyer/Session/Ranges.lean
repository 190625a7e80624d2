import Volleyer.Session.Steps

/-!
# What is stored is in range

The forms store indices of the tables of types, genders and levels, and the
screens read them back as subscripts with no check. A play may have the fifth
level and a profile may not. Every writer keeps to these ranges, in whatever
order the screens, the requests and their answers interleave, and so every
subscript is one of its table (`inRange_of_run`).
-/

namespace Volleyer

/-! ## What is read back -/

/-- The texts of some levels. -/
def levelTexts (rows : List Level) (l : LevelRange) : Option (List String) :=
  rows.mapM fun level => subscript levelList (l.row level)

/-- The texts a play is shown with: of its type, and in each `LevelView`. -/
def playTexts (thisPlay : Play) : Option (List String) := do
  let type ← subscript playTypes thisPlay.type
  let levels ← levelTexts [.setBall, .block, .dig, .spike, .sum] thisPlay.levelRange
  return type :: levels

/-- `setUI` -/
def PlayInfoView.setUI : Play → Option (List String) := playTexts

/-- `setContent` -/
def AddPlayViewController.setContent : Play → Option (List String) := playTexts

/-- The texts a gender and levels are shown with. -/
def profileTexts (gender : ℤ) (level : LevelRange) : Option (List String) := do
  let gender ← subscript genderList gender
  let levels ← levelTexts [.setBall, .spike, .dig, .block, .sum] level
  return gender :: levels

/-- `setContent` -/
def ProfileView.setContent (thisUser : User) : Option (List String) :=
  profileTexts thisUser.gender thisUser.level

/-- `setContent`: `integer(forKey:)` of what is not there is `0`. -/
def MyProfileView.setContent (standard : UserDefaults) : Option (List String) :=
  profileTexts (standard.gender.getD 0) ⟨standard.setBall.getD 0, standard.block.getD 0,
    standard.dig.getD 0, standard.spike.getD 0, standard.sum.getD 0⟩

/-- `showOnly` -/
def PlayerListTableViewCell.showOnly (player : User) : Option String :=
  subscript genderList player.gender

/-! ## The ranges -/

/-- A gender and levels a profile may have. -/
def ProfileInRange (user : User) : Prop :=
  (0 ≤ user.gender ∧ user.gender ≤ 1) ∧ user.level.Within 3

/-- What a field of a user document may hold. -/
def UserTitle.InRange : UserTitle → Option Value → Prop
  | .gender, v => ∃ gender : ℤ, v = some (.int gender) ∧ 0 ≤ gender ∧ gender ≤ 1
  | .level, v => ∃ level : LevelRange, v = some level.value ∧ level.Within 3
  | _, _ => True

/-- What a field of a play document may hold. -/
def PlayTitle.InRange : PlayTitle → Option Value → Prop
  | .type, v => ∃ type : ℤ, v = some (.int type) ∧ 0 ≤ type ∧ type ≤ 3
  | .levelRange, v => ∃ levelRange : LevelRange, v = some levelRange.value ∧ levelRange.Within 4
  | _, _ => True

/-- **What is stored is in range**: the type and the levels of every play,
the gender and the levels of every user and of every cached profile. -/
structure StoredInRange (w : World) : Prop where
  plays : ∀ i d, w.server.plays.get i = some d → ∀ f : PlayTitle, f.InRange (d f)
  users : ∀ i d, w.server.users.get i = some d → ∀ f : UserTitle, f.InRange (d f)
  cached : ∀ device, ProfileInRange (w.device device).cachedProfile

/-- **Every reader finds its texts and checkboxes.** -/
structure ReadersSafe (texts : Texts) (w : World) : Prop where
  play : ∀ i d now, w.server.plays.get i = some d →
    (PlayInfoView.setUI (decodePlay i d now)).isSome ∧
    (AddPlayViewController.setContent (decodePlay i d now)).isSome ∧
    (EstablishFinder.ifEditMode texts { thisPlay := decodePlay i d now }).isSome
  user : ∀ i d, w.server.users.get i = some d →
    (ProfileView.setContent (decodeUser i d)).isSome ∧
    (PlayerListTableViewCell.showOnly (decodeUser i d)).isSome
  cached : ∀ device, (MyProfileView.setContent (w.device device)).isSome ∧
    (pushToInputProfile device (w.device device)).isSome

/-- Nothing is stored, and no form is open. -/
def Session.empty : Session where
  world := { server := ⟨.empty, .empty, .empty, []⟩, device := fun _ => {} }
  window _ := []
  profiles := []
  plays := []

variable {texts : Texts} {s s' : Session} {w : World} {c c' : Config Session SessionTask}
variable {e : Event SessionCall Reply} {evs : List (Event SessionCall Reply)}
variable {ts : List SessionTask} {user : User} {play : Play}

/-- Only the gender and the levels count. -/
theorem ProfileInRange.of_eq {user' : User} (h : ProfileInRange user)
    (hgender : user'.gender = user.gender) (hlevel : user'.level = user.level) :
    ProfileInRange user' := by
  rw [ProfileInRange, hgender, hlevel]
  exact h

/-! ## Readers of values in range -/

theorem isSome_mapM {α β : Type} {f : α → Option β} {l : List α} (h : ∀ a ∈ l, (f a).isSome) :
    (l.mapM f).isSome := by
  induction l with
  | nil => rfl
  | cons a l ih =>
    obtain ⟨b, hb⟩ := Option.isSome_iff_exists.1 (h a List.mem_cons_self)
    obtain ⟨bs, hbs⟩ := Option.isSome_iff_exists.1
      (ih fun a' ha' => h a' (List.mem_cons_of_mem a ha'))
    rw [List.mapM_cons, hb, hbs]
    rfl

theorem isSome_levelTexts {l : LevelRange} (rows : List Level) (h : l.Within 4) :
    (levelTexts rows l).isSome := by
  refine isSome_mapM fun level _ => isSome_subscript_iff.2 ?_
  have hlevel := h level
  have hlength : levelList.length = 5 := rfl
  omega

/-- **A play in range is shown.** -/
theorem isSome_playTexts (h : EstablishFinder.InRange play) : (playTexts play).isSome := by
  obtain ⟨type, htype⟩ := Option.isSome_iff_exists.1 (isSome_playTypes_iff.2 h.1)
  obtain ⟨levels, hlevels⟩ := Option.isSome_iff_exists.1
    (isSome_levelTexts [.setBall, .block, .dig, .spike, .sum] h.2)
  rw [playTexts, htype, hlevels]
  rfl

/-- **A profile in range is shown.** -/
theorem isSome_profileTexts (h : ProfileInRange user) :
    (profileTexts user.gender user.level).isSome := by
  obtain ⟨gender, hgender⟩ := Option.isSome_iff_exists.1 (isSome_genderList_iff.2 h.1)
  obtain ⟨levels, hlevels⟩ := Option.isSome_iff_exists.1
    (isSome_levelTexts [.setBall, .spike, .dig, .block, .sum] (h.2.mono (by decide)))
  rw [profileTexts, hgender, hlevels]
  rfl

/-- A user is decoded to what is stored. -/
theorem profileInRange_decodeUser {i : String} {d : Doc UserTitle}
    (h : ∀ f : UserTitle, f.InRange (d f)) : ProfileInRange (decodeUser i d) := by
  obtain ⟨gender, hgender, hrange⟩ := h .gender
  obtain ⟨level, hlevel, hwithin⟩ := h .level
  have hgender' : (decodeUser i d).gender = gender := by
    simp [decodeUser, Doc.int, hgender]
  have hlevel' : (decodeUser i d).level = level := by
    simp [decodeUser, Doc.intDict, hlevel]
  rw [ProfileInRange, hgender', hlevel']
  exact ⟨hrange, hwithin⟩

/-- A play is decoded to what is stored. -/
theorem inRange_decodePlay {i : String} {d : Doc PlayTitle} (now : Date)
    (h : ∀ f : PlayTitle, f.InRange (d f)) : EstablishFinder.InRange (decodePlay i d now) := by
  obtain ⟨type, htype, hrange⟩ := h .type
  obtain ⟨levelRange, hlevel, hwithin⟩ := h .levelRange
  have htype' : (decodePlay i d now).type = type := by
    simp [decodePlay, Doc.int, htype]
  have hlevel' : (decodePlay i d now).levelRange = levelRange := by
    simp [decodePlay, Doc.intDict, hlevel]
  rw [EstablishFinder.InRange, htype', hlevel']
  exact ⟨hrange, hwithin⟩

/-- **What is stored in range is read safely.** -/
theorem StoredInRange.readersSafe (h : StoredInRange w) : ReadersSafe texts w where
  play i d now hd := by
    have hplay := inRange_decodePlay (i := i) now (h.plays i d hd)
    exact ⟨isSome_playTexts hplay, isSome_playTexts hplay,
      EstablishFinder.ifEditMode_isSome.2 (Or.inr hplay)⟩
  user i d hd := by
    have huser := profileInRange_decodeUser (i := i) (h.users i d hd)
    exact ⟨isSome_profileTexts huser, isSome_genderList_iff.2 huser.1⟩
  cached device := by
    have hcached := h.cached device
    exact ⟨isSome_profileTexts hcached, (InputProfile.autoInputUserInfo_isSome rfl).2 hcached⟩

/-! ## What the forms and the tasks hold -/

/-- What a profile form holds: a profile to change is in range, and a
registration may still have the fifth level and no gender. -/
structure InputProfile.InRange (form : InputProfile) : Prop where
  changed : form.changeUserInfoData.isSome → ProfileInRange form.thisUser
  levels : form.thisUser.level.Within 4

/-- What a task in flight carries. -/
def AccountTask.InRange : AccountTask → Prop
  | .roster _ (.setPlay _ data _) => ∀ f : PlayTitle, f.InRange (data.lookup f)
  | .roster _ (.updatePlay _ data) => ∀ f : PlayTitle, (data.lookup f).isSome →
      f.InRange (data.lookup f)
  | .queryUserId _ user _ _ => ProfileInRange user
  | .updateUser _ user => ProfileInRange user
  | .setUser _ user _ _ => ProfileInRange user
  | .updateProfileInfo _ changedUser => ProfileInRange changedUser
  | _ => True

/-- The same, with the form it will read: one to change a profile. -/
def SessionTask.InRange (s : Session) : SessionTask → Prop
  | .account t => t.InRange
  | .queryNewId k _ => ∃ form, s.profiles[k]? = some form ∧ form.changeUserInfoData.isSome
  | _ => True

/-- **Everything is in range**: what is stored, what the forms hold, and what
is in flight. -/
structure InRange (c : Config Session SessionTask) : Prop where
  stored : StoredInRange c.state.world
  profiles : ∀ form ∈ c.state.profiles, form.InRange
  plays : ∀ form ∈ c.state.plays, EstablishFinder.InRange form.thisPlay
  tasks : ∀ t ∈ c.pending, t.InRange c.state

/-! ### Forms -/

theorem inRange_show (device : ℕ) (credential : AppleIDCredential) (wasVolleyer : Option User) :
    (showInputProfileViewController device credential wasVolleyer).InRange := by
  have hlevels : (⟨4, 4, 4, 4, 4⟩ : LevelRange).Within 4 := LevelRange.within_iff.2 (by decide)
  exact ⟨nofun, hlevels⟩

theorem inRange_pushToInputProfile {device : ℕ} {standard : UserDefaults} {form : InputProfile}
    (hcached : ProfileInRange standard.cachedProfile)
    (h : pushToInputProfile device standard = some form) : form.InRange := by
  obtain ⟨-, -, huser⟩ := pushToInputProfile_eq h
  rw [← huser] at hcached
  exact ⟨fun _ => hcached, hcached.2.mono (by decide)⟩

/-- **A checkbox keeps a profile form in range.** -/
theorem InputProfile.InRange.input {form form' : InputProfile} {e : ProfileInput}
    (hform : form.InRange) (h : form.input e = some form') : form'.InRange := by
  obtain ⟨-, hdata, huser | ⟨level, tag, h0, h3, huser⟩⟩ := InputProfile.input_eq h
  · constructor
    · rw [hdata, huser]
      exact hform.changed
    · rw [huser]
      exact hform.levels
  · constructor
    · rw [hdata, huser]
      intro hchange
      have hprofile := hform.changed hchange
      exact ⟨hprofile.1, hprofile.2.set level h0 h3⟩
    · rw [huser]
      exact hform.levels.set level h0 (by omega)

/-- What the picker's text says is a gender. -/
theorem gender_read (form : InputProfile) :
    0 ≤ form.read.thisUser.gender ∧ form.read.thisUser.gender ≤ 1 := by
  have hrange := firstIndexOrZero_range form.genderTextField (show genderList ≠ [] by decide)
  have hlength : genderList.length = 2 := rfl
  rw [hlength] at hrange
  exact ⟨hrange.1, by simp only [InputProfile.read]; omega⟩

/-- **A registration is in range**: no level is the fifth one. -/
theorem profileInRange_doneInput {form form' : InputProfile} (hform : form.InRange)
    (h : form.doneInput = some form') :
    ProfileInRange form'.thisUser := by
  obtain ⟨⟨-, hblock, hset, hdig, hspike, hsum⟩, rfl⟩ := InputProfile.doneInput_eq_some.1 h
  refine ⟨gender_read form, fun level => ?_⟩
  have hlevel := hform.levels level
  have hne : form.thisUser.level.row level ≠ 4 := by
    cases level with
    | setBall => exact hset
    | block => exact hblock
    | dig => exact hdig
    | spike => exact hspike
    | sum => exact hsum
  have hsame : form.read.thisUser.level = form.thisUser.level := rfl
  rw [hsame]
  omega

/-- **A change of profile is in range.** -/
theorem profileInRange_changeUserInfo {form form' : InputProfile} (hform : form.InRange)
    (hchange : form.changeUserInfoData.isSome) (h : form.changeUserInfo = some form') :
    ProfileInRange form'.thisUser := by
  obtain ⟨-, rfl⟩ := InputProfile.changeUserInfo_eq_some.1 h
  exact ⟨gender_read form, (hform.changed hchange).2⟩

/-! ### Tasks -/

/-- The fields of a play that is saved. -/
theorem inRange_savePlayData (h : EstablishFinder.InRange play) (documentID : String) (now : Date)
    (f : PlayTitle) :
    f.InRange ((FinderDataManager.savePlayData play documentID now).lookup f) := by
  cases f with
  | type => exact ⟨play.type, rfl, h.1⟩
  | levelRange => exact ⟨play.levelRange, rfl, h.2⟩
  | _ => trivial

/-- The fields of a play that is changed. -/
theorem inRange_updatePlayData (h : EstablishFinder.InRange play) (f : PlayTitle) :
    f.InRange ((FinderDataManager.updatePlayData play).lookup f) := by
  cases f with
  | type => exact ⟨play.type, rfl, h.1⟩
  | levelRange => exact ⟨play.levelRange, rfl, h.2⟩
  | _ => trivial

/-- **What a task writes to a user document.** -/
theorem inRange_writesUser {t : AccountTask} {i : String} {data : Fields UserTitle} {f : UserTitle}
    (ht : t.InRange) (hw : t.writesUser = some (i, data))
    (hf : (data.lookup f).isSome ∨ ∃ device user now, t = .setUser device user i now) :
    f.InRange (data.lookup f) := by
  have hprofile : ∀ user : User, ProfileInRange user → ∀ data : Fields UserTitle,
      data.lookup .gender = some (.int user.gender) →
      data.lookup .level = some user.level.value → f.InRange (data.lookup f) := by
    intro user huser data hgender hlevel
    cases f with
    | gender => exact ⟨user.gender, hgender, huser.1⟩
    | level => exact ⟨user.level, hlevel, huser.2⟩
    | _ => trivial
  have hother : ∀ g v, data = [(g, v)] → g ≠ .gender → g ≠ .level → (data.lookup f).isSome →
      f.InRange (data.lookup f) := by
    rintro g v rfl hgender hlevel hsome
    have hf : f = g := by
      by_contra hne
      rw [List.lookup_cons, beq_eq_false_iff_ne.2 hne] at hsome
      cases hsome
    subst hf
    cases f with
    | gender => exact absurd rfl hgender
    | level => exact absurd rfl hlevel
    | _ => trivial
  cases t with
  | updateUser device user | updateProfileInfo device user =>
    obtain ⟨rfl, rfl⟩ := Prod.mk.inj (Option.some.inj hw)
    exact hprofile user ht _ rfl rfl
  | setUser device user documentID now =>
    obtain ⟨rfl, rfl⟩ := Prod.mk.inj (Option.some.inj hw)
    exact hprofile user ht _ rfl rfl
  | setImage | setBlockList | removeThisuser =>
    obtain ⟨rfl, rfl⟩ := Prod.mk.inj (Option.some.inj hw)
    rcases hf with hsome | ⟨_, _, _, heq⟩
    · exact hother _ _ rfl (by decide) (by decide) hsome
    · cases heq
  | roster device t =>
    cases t with
    | setMyPlayList =>
      obtain ⟨rfl, rfl⟩ := Prod.mk.inj (Option.some.inj hw)
      rcases hf with hsome | ⟨_, _, _, heq⟩
      · exact hother _ _ rfl (by decide) (by decide) hsome
      · cases heq
    | _ => cases hw
  | queryUserId | putData | downloadURL | getBlockList => cases hw

/-- **Forms stay open for what they are for.** -/
def KeepsForms (s s' : Session) : Prop :=
  ∀ (k : ℕ) (form : InputProfile), s.profiles[k]? = some form →
    ∃ form' : InputProfile, s'.profiles[k]? = some form' ∧
      form'.changeUserInfoData = form.changeUserInfoData

theorem KeepsForms.of_eq (h : s'.profiles = s.profiles) : KeepsForms s s' := by
  intro k form hform
  exact ⟨form, h ▸ hform, rfl⟩

theorem KeepsForms.of_extends (h : s.profiles <+: s'.profiles) : KeepsForms s s' := by
  intro k form hform
  obtain ⟨hk, rfl⟩ := List.getElem?_eq_some_iff.1 hform
  obtain ⟨l, hl⟩ := h
  refine ⟨_, ?_, rfl⟩
  rw [← hl, List.getElem?_append_left hk]
  exact hform

theorem KeepsForms.setProfile {k : ℕ} {form form' : InputProfile}
    (hform : s.profiles[k]? = some form)
    (h : form'.changeUserInfoData = form.changeUserInfoData) :
    KeepsForms s (s.setProfile k form') := by
  intro j form₁ hform₁
  by_cases hj : k = j
  · subst hj
    obtain rfl := Option.some.inj (hform.symm.trans hform₁)
    exact ⟨form', List.getElem?_set_self (List.getElem?_eq_some_iff.1 hform).1, h⟩
  · exact ⟨form₁, (List.getElem?_set_ne hj).trans hform₁, rfl⟩

/-- What is in flight stays in range. -/
theorem SessionTask.InRange.keeps {t : SessionTask} (ht : t.InRange s) (h : KeepsForms s s') :
    t.InRange s' := by
  cases t with
  | queryNewId k id =>
    obtain ⟨form, hform, hchange⟩ := ht
    obtain ⟨form', hform', hdata⟩ := h k form hform
    exact ⟨form', hform', hdata ▸ hchange⟩
  | account => exact ht
  | queryIdentifier | getProfileData => trivial

/-! ## One step -/

/-- A device that keeps a profile in range. -/
theorem cached_setDevice {device : ℕ} {standard : UserDefaults}
    (h : ∀ device, ProfileInRange (w.device device).cachedProfile)
    (hstandard : ProfileInRange standard.cachedProfile) :
    ∀ d, ProfileInRange ((w.setDevice device standard).device d).cachedProfile := by
  intro d
  by_cases hd : d = device
  · subst hd
    simpa only [World.setDevice, Function.update_self] using hstandard
  · simpa only [World.setDevice, Function.update_of_ne hd] using h d

/-- A device that is signed out reads zeros. -/
theorem profileInRange_empty : ProfileInRange (UserDefaults.cachedProfile {}) := by
  have hlevels : (⟨0, 0, 0, 0, 0⟩ : LevelRange).Within 3 := LevelRange.within_iff.2 (by decide)
  have hgender : (0 : ℤ) ≤ 0 ∧ (0 : ℤ) ≤ 1 := by decide
  exact ⟨hgender, hlevels⟩

/-- Tasks of the other managers that write no play. -/
theorem inRange_of_mem_rosterTasks {device : ℕ} {us : List Task}
    (h : ∀ u ∈ us, AccountTask.InRange (.roster device u)) :
    ∀ t ∈ rosterTasks device us, t.InRange s := by
  intro t ht
  obtain ⟨u, hu, rfl⟩ := List.mem_map.1 ht
  exact h u hu

/-- **An event keeps everything in range.** -/
theorem InRange.handles (hc : InRange c) {a : SessionCall} (h : Handles texts c.state a s' ts) :
    StoredInRange s'.world ∧ (∀ form ∈ s'.profiles, form.InRange) ∧
      (∀ form ∈ s'.plays, EstablishFinder.InRange form.thisPlay) ∧ KeepsForms c.state s' ∧
      ∀ t ∈ ts, t.InRange s' := by
  have hnil : ∀ t ∈ ([] : List SessionTask), t.InRange s' := fun t ht => absurd ht List.not_mem_nil
  have hone : ∀ {t : SessionTask}, t.InRange s' → ∀ t' ∈ [t], t'.InRange s' := fun ht t' ht' => by
    obtain rfl := List.mem_singleton.1 ht'
    exact ht
  cases h with
  | launch | logIn => exact ⟨hc.stored, hc.profiles, hc.plays, .of_eq rfl, hone trivial⟩
  | launchLogin | notDone | notChanged => exact ⟨hc.stored, hc.profiles, hc.plays, .of_eq rfl, hnil⟩
  | logout =>
    exact ⟨⟨hc.stored.plays, hc.stored.users,
      cached_setDevice hc.stored.cached profileInRange_empty⟩, hc.profiles, hc.plays, .of_eq rfl,
      hnil⟩
  | pushToInputProfile h =>
    refine ⟨hc.stored, fun form hform => ?_, hc.plays, .of_extends (List.prefix_append ..), hnil⟩
    rcases List.mem_append.1 hform with hform | hform
    · exact hc.profiles form hform
    · obtain rfl := List.mem_singleton.1 hform
      exact inRange_pushToInputProfile (hc.stored.cached _) h
  | input hform h =>
    have hinput := (hc.profiles _ (List.mem_of_getElem? hform)).input h
    exact ⟨hc.stored, forall_mem_set hc.profiles _ hinput, hc.plays,
      .setProfile hform (InputProfile.input_eq h).2.1, hnil⟩
  | doneInput hform hnew h hid =>
    have hprofile := profileInRange_doneInput (hc.profiles _ (List.mem_of_getElem? hform)) h
    obtain ⟨-, rfl⟩ := InputProfile.doneInput_eq_some.1 h
    refine ⟨⟨hc.stored.plays, hc.stored.users, hc.stored.cached⟩, ?_, hc.plays,
      .setProfile hform rfl, hone hprofile⟩
    exact forall_mem_set hc.profiles _ ⟨fun _ => hprofile, hprofile.2.mono (by decide)⟩
  | changeSameId hform hchange h hid =>
    have hprofile :=
      profileInRange_changeUserInfo (hc.profiles _ (List.mem_of_getElem? hform)) hchange h
    obtain ⟨-, rfl⟩ := InputProfile.changeUserInfo_eq_some.1 h
    refine ⟨hc.stored, ?_, hc.plays, .setProfile hform rfl, hone hprofile⟩
    exact forall_mem_set hc.profiles _ ⟨fun _ => hprofile, hprofile.2.mono (by decide)⟩
  | changeNewId hform hchange h hid =>
    have hprofile :=
      profileInRange_changeUserInfo (hc.profiles _ (List.mem_of_getElem? hform)) hchange h
    obtain ⟨-, rfl⟩ := InputProfile.changeUserInfo_eq_some.1 h
    have hk := (List.getElem?_eq_some_iff.1 hform).1
    -- the query goes on with the form, which stays one of a change
    refine ⟨hc.stored, ?_, hc.plays, .setProfile hform rfl,
      hone ⟨_, List.getElem?_set_self hk, hchange⟩⟩
    exact forall_mem_set hc.profiles _ ⟨fun _ => hprofile, hprofile.2.mono (by decide)⟩
  | deleteAccount => exact ⟨hc.stored, hc.profiles, hc.plays, .of_eq rfl, hone trivial⟩
  | pushToEstablish =>
    refine ⟨hc.stored, hc.profiles, fun form hform => ?_, .of_eq rfl, hnil⟩
    rcases List.mem_append.1 hform with hform | hform
    · exact hc.plays form hform
    · obtain rfl := List.mem_singleton.1 hform
      exact EstablishFinder.inRange_blankPlay _ _
  | editPlay hdocument h =>
    refine ⟨hc.stored, hc.profiles, fun form hform => ?_, .of_eq rfl, hnil⟩
    rcases List.mem_append.1 hform with hform | hform
    · exact hc.plays form hform
    · obtain rfl := List.mem_singleton.1 hform
      -- the form opens on the stored play, decoded
      rw [EstablishFinder.ifEditMode_eq h]
      exact inRange_decodePlay _ (hc.stored.plays _ _ hdocument)
  | inputPlay hform h =>
    have hinput := EstablishFinder.inRange_input h (hc.plays _ (List.mem_of_getElem? hform))
    exact ⟨hc.stored, hc.profiles, forall_mem_set hc.plays _ hinput, .of_eq rfl, hnil⟩
  | notAdded hform h =>
    have hadd := EstablishFinder.inRange_of_addData h (hc.plays _ (List.mem_of_getElem? hform))
    exact ⟨hc.stored, hc.profiles, forall_mem_set hc.plays _ hadd, .of_eq rfl, hnil⟩
  | savePlay hform h hnew hid =>
    have hadd := EstablishFinder.inRange_of_addData h (hc.plays _ (List.mem_of_getElem? hform))
    refine ⟨⟨hc.stored.plays, hc.stored.users, hc.stored.cached⟩, hc.profiles,
      forall_mem_set hc.plays _ hadd, .of_eq rfl, inRange_of_mem_rosterTasks fun u hu => ?_⟩
    obtain rfl := List.mem_singleton.1 hu
    exact inRange_savePlayData hadd _ _
  | updatePlay hform h hnew =>
    have hadd := EstablishFinder.inRange_of_addData h (hc.plays _ (List.mem_of_getElem? hform))
    refine ⟨hc.stored, hc.profiles, forall_mem_set hc.plays _ hadd, .of_eq rfl,
      inRange_of_mem_rosterTasks fun u hu => ?_⟩
    obtain rfl := List.mem_singleton.1 hu
    exact fun f _ => inRange_updatePlayData hadd f
  | deletePost =>
    refine ⟨hc.stored, hc.profiles, hc.plays, .of_eq rfl, inRange_of_mem_rosterTasks fun u hu => ?_⟩
    rw [deletePlay_eq] at hu
    rcases List.mem_cons.1 hu with rfl | hu
    · trivial
    · rcases List.mem_append.1 hu with hu | hu
      · obtain ⟨v, -, rfl⟩ := List.mem_map.1 hu
        trivial
      · obtain rfl := List.mem_singleton.1 hu
        trivial

/-- **The plays after an answer** hold what they held, or what a task in
range writes. -/
theorem plays_inRange {t : AccountTask} (ht : t.InRange)
    (h : ∀ i d, w.server.plays.get i = some d → ∀ f : PlayTitle, f.InRange (d f)) (i : String)
    (d : Doc PlayTitle) (hd : (accountAnswerOk w t).1.server.plays.get i = some d) (f : PlayTitle) :
    f.InRange (d f) := by
  rcases plays_accountAnswerOk w t with ⟨device, u, rfl, hserver⟩ | hsame
  · rw [hserver] at hd
    replace ht : (AccountTask.roster device (u.reread (w.device device).firebaseId)).InRange := by
      cases u <;> exact ht
    generalize u.reread (w.device device).firebaseId = u at ht hd
    rcases answer_plays w.server u .ok with hsame | ⟨j, data, finderId, rfl, hset⟩ |
      ⟨j, data, hupdate, hmodify⟩ | ⟨j, rfl, hdelete⟩
    · rw [hsame] at hd
      exact h i d hd f
    · rw [hset] at hd
      rcases get_of_set hd with hold | ⟨rfl, rfl⟩
      · exact h i d hold f
      · exact ht f
    · rw [hmodify] at hd
      rcases field_of_modify hd f with ⟨d₀, hd₀, hf⟩ | ⟨rfl, hsome, hf⟩
      · rw [hf]
        exact h i d₀ hd₀ f
      · rw [hf]
        rcases hupdate with rfl | ⟨l, rfl, rfl⟩
        · exact ht f hsome
        · -- a roster is neither a type nor levels
          cases f with
          | type | levelRange => cases hsome
          | _ => trivial
    · rw [hdelete, Collection.get_delete] at hd
      split at hd
      · cases hd
      · exact h i d hd f
  · rw [hsame] at hd
    exact h i d hd f

/-- **The devices after an answer** keep profiles in range. -/
theorem cached_inRange {t : AccountTask} (ht : t.InRange)
    (h : ∀ device, ProfileInRange (w.device device).cachedProfile) (device : ℕ) :
    ProfileInRange ((accountAnswerOk w t).1.device device).cachedProfile := by
  cases t with
  | updateUser d user | updateProfileInfo d user =>
    have huser : ProfileInRange user := ht
    simp only [accountAnswerOk]
    split
    · exact h device
    · exact cached_setDevice h (huser.of_eq rfl rfl) device
  | setUser d user documentID now =>
    have huser : ProfileInRange user := ht
    exact cached_setDevice h (huser.of_eq rfl rfl) device
  | removeThisuser d firebaseId =>
    simp only [accountAnswerOk]
    split
    · exact h device
    · exact cached_setDevice h profileInRange_empty device
  | downloadURL d savePath urlString =>
    -- only the image changes
    refine cached_setDevice h ?_ device
    exact (h d).of_eq rfl rfl
  | queryUserId d user documentID now =>
    simp only [accountAnswerOk]
    split_ifs <;> exact h device
  | getBlockList d edit documentID userId =>
    simp only [accountAnswerOk]
    split <;> exact h device
  | roster | putData | setImage | setBlockList => exact h device

/-- A profile that is read is in range. -/
theorem cached_didGetProfile {device : ℕ} {completion : Option AppleIDCredential}
    {document : String × Doc UserTitle} (hdocument : ∀ f : UserTitle, f.InRange (document.2 f))
    (h : ∀ device, ProfileInRange (s.world.device device).cachedProfile) (d : ℕ) :
    ProfileInRange ((didGetProfile device completion s document).world.device d).cachedProfile := by
  have huser : ProfileInRange (decodeUser document.1 document.2) :=
    profileInRange_decodeUser hdocument
  have hsaved : ∀ d, ProfileInRange ((s.world.setDevice device (MyDataManager.saveUserDefault
      (s.world.device device) (decodeUser document.1 document.2))).device d).cachedProfile :=
    cached_setDevice h (huser.of_eq rfl rfl)
  cases completion with
  | none => exact hsaved d
  | some credential =>
    simp only [didGetProfile]
    split
    · exact hsaved d
    · refine cached_setDevice hsaved ?_ d
      exact (hsaved device).of_eq rfl rfl

/-- **What is stored after an answer** is in range. -/
theorem StoredInRange.sessionAnswerOk {t : SessionTask} (h : StoredInRange s.world)
    (ht : t.InRange s) : StoredInRange (sessionAnswerOk s t).1.world := by
  have husers : ∀ i d, (Volleyer.sessionAnswerOk s t).1.world.server.users.get i = some d →
      ∀ f : UserTitle, f.InRange (d f) := by
    intro i d hd f
    rcases field_of_sessionAnswerOk hd f with ⟨d₀, hd₀, hf⟩ | ⟨u, data, rfl, hu, hf, hwrites⟩
    · rw [hf]
      exact h.users i d₀ hd₀ f
    · rw [hf]
      exact inRange_writesUser ht hu hwrites
  cases t with
  | account t =>
    have hworld := world_sessionAnswerOk_account s t
    rw [hworld] at husers ⊢
    exact ⟨plays_inRange ht h.plays, husers, cached_inRange ht h.cached⟩
  | queryNewId k id =>
    simp only [Volleyer.sessionAnswerOk]
    split <;> exact h
  | queryIdentifier device credential =>
    simp only [Volleyer.sessionAnswerOk]
    split <;> exact h
  | getProfileData device appleUserId completion =>
    have hserver := server_sessionAnswerOk (s := s)
      (t := .getProfileData device appleUserId completion) fun u hu => by cases hu
    refine ⟨?_, husers, ?_⟩
    · rw [hserver]
      exact h.plays
    · -- one document after the other
      have hdocuments : ∀ document ∈ s.usersWithIdentifier appleUserId, ∀ f : UserTitle,
          f.InRange (document.2 f) := by
        rintro ⟨i, d⟩ hmem
        exact h.users i d (Collection.mem_query.1 hmem).1
      have hcached := h.cached
      simp only [Volleyer.sessionAnswerOk]
      clear husers hserver ht h
      generalize s.usersWithIdentifier appleUserId = documents at hdocuments
      induction documents generalizing s with
      | nil => exact hcached
      | cons document documents ih =>
        refine ih ?_ fun d hd => hdocuments d (List.mem_cons_of_mem _ hd)
        exact cached_didGetProfile (hdocuments document List.mem_cons_self) hcached

/-- **What an answer puts in flight** is in range. -/
theorem tasks_sessionAnswerOk {t t' : SessionTask} (hprofiles : ∀ form ∈ s.profiles, form.InRange)
    (ht : t.InRange s) (ht' : t' ∈ (sessionAnswerOk s t).2) (s' : Session) : t'.InRange s' := by
  cases t with
  | getProfileData => cases ht'
  | queryIdentifier device credential =>
    simp only [sessionAnswerOk] at ht'
    split at ht'
    · obtain rfl := List.mem_singleton.1 ht'
      trivial
    · cases ht'
  | queryNewId k id =>
    obtain ⟨form, hform, hchange⟩ := ht
    simp only [sessionAnswerOk, hform] at ht'
    split at ht'
    · cases ht'
    · obtain rfl := List.mem_singleton.1 ht'
      exact (hprofiles form (List.mem_of_getElem? hform)).changed hchange
  | account t =>
    obtain ⟨u, hu, rfl⟩ := List.mem_map.1 ht'
    cases t with
    | queryUserId device user documentID now =>
      simp only [accountAnswerOk] at hu
      split_ifs at hu
      · cases hu
      · obtain rfl := List.mem_singleton.1 hu
        exact ht
      · obtain rfl := List.mem_singleton.1 hu
        exact ht
    | roster device t =>
      -- no callback of the roster goes on to write a play's type or levels
      obtain ⟨v, hv, rfl⟩ := List.mem_map.1 hu
      have hanswer : v ∈ (answer s.world.server (t.reread _) .ok).2 := hv
      rcases mem_answer hanswer with ⟨_, _, _, _, -, rfl⟩ | ⟨_, _, _, rfl⟩ | ⟨_, _, rfl⟩ |
        ⟨_, _, _, rfl⟩ | ⟨_, _, rfl⟩ | ⟨_, _, -, rfl⟩ <;> trivial
    | getBlockList device edit documentID userId =>
      simp only [accountAnswerOk] at hu
      split at hu
      · cases hu
      · obtain ⟨v, -, rfl⟩ := List.mem_map.1 hu
        trivial
    | putData | downloadURL =>
      obtain rfl := List.mem_singleton.1 hu
      trivial
    | updateUser | updateProfileInfo | removeThisuser =>
      simp only [accountAnswerOk] at hu
      split at hu <;> cases hu
    | setUser | setImage | setBlockList => cases hu

/-- **A step keeps everything in range.** -/
theorem InRange.step (hc : InRange c) (hs : (session texts).step c e = some c') : InRange c' := by
  rcases Machine.step_cases hs with ⟨a, s, ts, rfl, hi, rfl⟩ | ⟨n, r, t, rfl, ht, rfl⟩
  · obtain ⟨hstored, hprofiles, hplays, hkeeps, htasks⟩ := hc.handles (handles_of_issue hi)
    refine ⟨hstored, hprofiles, hplays, fun t ht => ?_⟩
    exact (List.mem_append.1 ht).elim (fun ht => (hc.tasks t ht).keeps hkeeps) (htasks t)
  · cases r with
    | failed =>
      refine ⟨hc.stored, hc.profiles, hc.plays, fun t' ht' => ?_⟩
      exact (Machine.mem_eraseIdx_append ht').elim (hc.tasks t') fun ht' =>
        absurd ht' List.not_mem_nil
    | ok =>
      have hrange := hc.tasks t (List.mem_of_getElem? ht)
      obtain ⟨hextends, hplays⟩ := forms_sessionAnswerOk c.state t
      refine ⟨hc.stored.sessionAnswerOk hrange,
        forall_profiles_sessionAnswerOk hc.profiles inRange_show t, fun form hform => ?_,
        fun t' ht' => ?_⟩
      · exact hc.plays form (hplays ▸ hform)
      · rcases Machine.mem_eraseIdx_append ht' with ht' | ht'
        · exact (hc.tasks t' ht').keeps (.of_extends hextends)
        · exact tasks_sessionAnswerOk hc.profiles hrange ht' _

/-- **What is stored and cached is in range, and every reader safe**, in every
state that the screens reach from an empty store. -/
theorem inRange_of_run {ok : Config Session SessionTask → Event SessionCall Reply → Prop}
    (hrun : (session texts).Run ok (Config.start Session.empty) evs c) :
    StoredInRange c.state.world ∧ ReadersSafe texts c.state.world := by
  have hstored : StoredInRange Session.empty.world :=
    ⟨nofun, nofun, fun _ => profileInRange_empty⟩
  have hempty : InRange (Config.start Session.empty) :=
    ⟨hstored, fun _ h => absurd h List.not_mem_nil, fun _ h => absurd h List.not_mem_nil,
      fun _ h => absurd h List.not_mem_nil⟩
  have hrange : InRange c := hrun.invariant hempty fun _ _ _ hc _ hs => hc.step hs
  exact ⟨hrange.stored, hrange.stored.readersSafe⟩

namespace Sample

/-- Somebody new signs in. -/
def signIn : List (Event SessionCall Reply) :=
  [.call (.logIn 0 { user := "apple" }), .answer 0 .ok]

/-- The form is saved, a play is filled in and published, and the profile
opened. -/
def saveForm : List (Event SessionCall Reply) :=
  [.call (.doneInput 0 "d" ⟨0, 0⟩), .answer 0 .ok, .answer 0 .ok,
    .call (.pushToEstablish 0 ⟨0, 0⟩), .call (.inputPlay 0 (.startDate ⟨10, 0⟩)),
    .call (.inputPlay 0 (.endDate ⟨20, 0⟩)), .call (.inputPlay 0 (.place "gym")),
    .call (.inputPlay 0 (.price "100")), .call (.inputPlay 0 (.typeRow 1)),
    .call (.inputPlay 0 (.male "1")), .call (.inputPlay 0 (.female "2")),
    .call (.inputPlay 0 (.level .spike 0)), .call (.addData 0 true "p" ⟨0, 0⟩), .answer 0 .ok,
    .call (.pushToInputProfile 0)]

/-- Somebody registers and posts. -/
def signUp : List (Event SessionCall Reply) :=
  signIn ++ fillIn.map (fun e => .call (.input 0 e)) ++ saveForm

/-- **A registration and a post**: the user and the play are stored, and the
profile is shown. -/
theorem run_signUp : ∃ c, (session clockTexts).Run (fun _ _ => True)
    (Config.start Session.empty) signUp c ∧ (c.state.world.server.users.get "d").isSome ∧
    (c.state.world.server.plays.get "p").isSome ∧ c.state.profiles.length = 2 := by
  have hexec : ((session clockTexts).exec (Config.start Session.empty) signUp).map
      (fun c => ((c.state.world.server.users.get "d").isSome,
        (c.state.world.server.plays.get "p").isSome, c.state.profiles.length)) =
      some (true, true, 2) := by decide +kernel
  obtain ⟨c, hc, heq⟩ := Option.map_eq_some_iff.1 hexec
  simp only [Prod.mk.injEq] at heq
  exact ⟨c, .of_exec (Machine.admits_of_forall fun _ _ => trivial) hc, heq⟩

end Sample

theorem inRange_signUp : ∃ c : Config Session SessionTask,
    (c.state.world.server.users.get "d").isSome ∧ (c.state.world.server.plays.get "p").isSome ∧
      StoredInRange c.state.world ∧ ReadersSafe Sample.clockTexts c.state.world := by
  obtain ⟨c, hrun, huser, hplay, -⟩ := Sample.run_signUp
  exact ⟨c, huser, hplay, inRange_of_run hrun⟩

end Volleyer
