import Volleyer.Account.Model
import Volleyer.Common.Codec
import Volleyer.Model.Choices

/-!
# Stored profiles — what is saved, and what is read back

`saveProfileInfo` writes a user document whole, for a new account or over
the one there is; `updateProfileInfo` writes the five fields of the form.
Four decoders read the document back. They agree, and a profile is read
back as it was saved and last changed, but for `playN`, which no writer
stores.
-/

namespace Volleyer

open MyDataManager

variable {w : World} {u : User} {i documentID : String} {device : ℕ} {now : Date}
variable {c₁ c : Config World AccountTask} {evs : List (Event AccountCall Reply)}

/-! ## The four decoders -/

protected def MyDataManager.decodeUser (documentID : String) (document : Doc UserTitle) : User :=
  Volleyer.decodeUser documentID document

/-- A snapshot of a missing document holds no data. -/
def MyDataManager.decodeUserDS (documentID : String) (document : Option (Doc UserTitle)) : User :=
  Volleyer.decodeUser documentID (document.getD fun _ => none)

protected def FinderDataManager.decodeUser (documentID : String) (document : Doc UserTitle) :
    User :=
  Volleyer.decodeUser documentID document

/-- A snapshot of a missing document holds no data. -/
def FinderDataManager.decodeUserDS (documentID : String) (document : Option (Doc UserTitle)) :
    User :=
  Volleyer.decodeUser documentID (document.getD fun _ => none)

/-- What the four decoders make of one stored document. -/
def readings (documentID : String) (document : Doc UserTitle) : List User :=
  [MyDataManager.decodeUser documentID document,
    MyDataManager.decodeUserDS documentID (some document),
    FinderDataManager.decodeUser documentID document,
    FinderDataManager.decodeUserDS documentID (some document)]

/-- **The four decoders agree.** -/
theorem mem_readings {d : Doc UserTitle} {user : User} :
    user ∈ readings i d ↔ user = Volleyer.decodeUser i d := by
  simp [readings, MyDataManager.decodeUser, MyDataManager.decodeUserDS,
    FinderDataManager.decodeUser, FinderDataManager.decodeUserDS]

/-! ## The records -/

/-- The document a profile is saved in: a new one where it has no id
yet. -/
def User.savedIn (user : User) (documentID : String) : String :=
  if user.firebaseId = "" then documentID else user.firebaseId

/-- **What the profile form changes of a user.** -/
def User.edited (user changedUser : User) : User :=
  { user with
    id := changedUser.id
    email := changedUser.email
    gender := changedUser.gender
    name := changedUser.name
    level := changedUser.level }

/-- **What a user is to be read back as**: under the document's id, with
the form of the last update. -/
def User.asSaved (user : User) (documentID : String) (last : Option User) : User :=
  let saved := { user with firebaseId := documentID, playN := 0 }
  last.elim saved saved.edited

/-- An update of the profile is read back as one. -/
theorem decodeUser_updateProfileInfoData (d : Doc UserTitle) (v : User) :
    decodeUser i (d.updateData (updateProfileInfoData v)) = (decodeUser i d).edited v := by
  have hlevels : (d.updateData (updateProfileInfoData v)).intDict .level =
      v.level.value.asIntDict := rfl
  rw [decodeUser, hlevels, LevelRange.decodeLevelRange_value]
  rfl

theorem codec_updateProfileInfo (i : String) :
    Codec (decodeUser i) (fun d v => d.updateData (updateProfileInfoData v)) User.edited where
  decode_write d v := decodeUser_updateProfileInfoData d v
  put_put _ _ _ := rfl

/-- Saved over an existing document. -/
theorem decodeUser_saveProfileInfoData (d : Doc UserTitle) (user : User) :
    decodeUser i (d.updateData (saveProfileInfoData user)) = user.asSaved i none := by
  have hlevels : (d.updateData (saveProfileInfoData user)).intDict .level =
      user.level.value.asIntDict := rfl
  have hplays : (d.updateData (saveProfileInfoData user)).strings .myPlayList =
      some user.myPlayList := Value.asStrings_strings _
  have hblocked : (d.updateData (saveProfileInfoData user)).strings .blockList =
      some user.blockList := Value.asStrings_strings _
  rw [decodeUser, hlevels, hplays, hblocked, LevelRange.decodeLevelRange_value]
  rfl

/-- Saved in a document of its own. -/
theorem decodeUser_setData (user : User) :
    decodeUser i (Doc.setData (saveProfileInfoData { user with firebaseId := i } ++
      [(.createdTime, .timestamp now)])) = user.asSaved i none := by
  generalize hd : Doc.setData (saveProfileInfoData { user with firebaseId := i } ++
    [(.createdTime, .timestamp now)]) = d
  have hlevels : d.intDict .level = user.level.value.asIntDict := by rw [← hd]; rfl
  have hplays : d.strings .myPlayList = some user.myPlayList := by
    rw [← hd]
    exact Value.asStrings_strings _
  have hblocked : d.strings .blockList = some user.blockList := by
    rw [← hd]
    exact Value.asStrings_strings _
  rw [decodeUser, hlevels, hplays, hblocked, LevelRange.decodeLevelRange_value, ← hd]
  rfl

/-! ## Runs of updates -/

/-- A call of `updateProfileInfo` on the document `i`, of any device. -/
def EditsProfile (i : String) : AccountCall → Prop
  | .updateProfileInfo _ changedUser => changedUser.firebaseId = i
  | _ => False

/-- The user an answer has updated with. -/
def profileUpdate : World × AccountTask × Reply → Option User
  | (_, .updateProfileInfo _ changedUser, .ok) => some changedUser
  | _ => none

/-- **The updates of a run that succeeded**, in order. -/
def profileUpdates (c₁ : Config World AccountTask) (evs : List (Event AccountCall Reply)) :
    List User :=
  (managers.answered c₁ evs).filterMap profileUpdate

/-- **What a run of updates leaves to be read.** -/
theorem decodeUser_of_run {d₀ : Doc UserTitle} (h₀ : c₁.state.server.users.get i = some d₀)
    (hquiet : c₁.pending = []) (hrun : managers.Run (Machine.Calls (EditsProfile i)) c₁ evs c) :
    ∃ d, c.state.server.users.get i = some d ∧ decodeUser i d =
      (profileUpdates c₁ evs).getLast?.elim (decodeUser i d₀) (decodeUser i d₀).edited := by
  have hissue : ∀ {c : Config World AccountTask} {a w ts},
      Machine.Calls (EditsProfile i) c (.call a : Event AccountCall Reply) →
      managers.issue c.state a = some (w, ts) →
      w = c.state ∧ ∀ t ∈ ts, ∃ device v, t = .updateProfileInfo device v ∧ v.firebaseId = i := by
    intro c a w ts hok hi
    have ha := hok a rfl
    cases a with
    | updateProfileInfo device v =>
      obtain ⟨rfl, rfl⟩ := Prod.mk.inj (Option.some.inj hi)
      exact ⟨rfl, fun t ht => ⟨device, v, List.mem_singleton.1 ht, ha⟩⟩
    | _ => exact ha.elim
  have hstrong := hrun.strengthen
    (P := fun c => ∀ t ∈ c.pending, ∃ device v, t = .updateProfileInfo device v ∧ v.firebaseId = i)
    fun evs c hr => hr.forall_tasks (by simp [hquiet]) (fun hok hi => (hissue hok hi).2)
      fun {c k r t} ht _ _ t' ht' => by
        obtain ⟨device, v, rfl, -⟩ := ht
        cases r with
        | failed => cases ht'
        | ok =>
          simp only [managers, accountAnswer, accountAnswerOk] at ht'
          cases hget : c.state.server.users.get v.firebaseId <;> simp [hget] at ht'
  refine (codec_updateProfileInfo i).run (fun w => w.server.users.get i) hstrong h₀
    (fun hok hi => ?_) fun {c k r t d} hok ht hd => ?_
  · rw [(hissue hok.1 hi).1]
  · obtain ⟨device, v, rfl, rfl⟩ := hok.2 t (List.mem_of_getElem? ht)
    cases r with
    | failed => exact hd
    | ok =>
      simp only [managers, accountAnswer, accountAnswerOk, hd]
      show (c.state.server.users.modify v.firebaseId _).get v.firebaseId = _
      rw [Collection.get_modify_self, hd]
      rfl

/-! ## Saving -/

/-- `saveProfileInfo` alone, its requests answered. -/
def saving (device : ℕ) (user : User) (documentID : String) (now : Date) :
    List (Event AccountCall Reply) :=
  [.call (.saveProfileInfo device user documentID now), .answer 0 .ok, .answer 0 .ok]

/-- What a successful `saveProfileInfo` leaves stored. -/
theorem exists_saved
    (hsave : managers.exec (.start w) (saving device u documentID now) = some c₁)
    (hstored : u.firebaseId ≠ "" → (w.server.users.get u.firebaseId).isSome) :
    c₁.pending = [] ∧ ∃ d, c₁.state.server.users.get (u.savedIn documentID) = some d ∧
      decodeUser (u.savedIn documentID) d = u.asSaved (u.savedIn documentID) none := by
  obtain ⟨c₂, hcall, hrest⟩ := Option.bind_eq_some_iff.1 hsave
  obtain ⟨w', ts, hissue, rfl⟩ := Machine.step_call.1 hcall
  obtain ⟨-, hallocated⟩ := Option.ite_none_left_eq_some.1 hissue
  obtain ⟨rfl, rfl⟩ := Prod.mk.inj (Option.some.inj hallocated)
  obtain ⟨c₃, hquery, hlast⟩ := Option.bind_eq_some_iff.1 hrest
  obtain ⟨t, ht, rfl⟩ := Machine.step_answer.1 hquery
  obtain rfl := Option.some.inj ht
  obtain ⟨c₄, hwrite, hend⟩ := Option.bind_eq_some_iff.1 hlast
  obtain ⟨t, ht, rfl⟩ := Machine.step_answer.1 hwrite
  obtain rfl := Option.some.inj hend
  simp only [managers, accountAnswer, accountAnswerOk, Config.start_state, Config.start_pending,
    List.nil_append, List.eraseIdx_cons_zero] at ht ⊢
  unfold User.savedIn
  by_cases htaken : (w.server.users.query fun document =>
      document.string .id == some u.id).length > 0
  · -- the id is taken, and no write was put in flight
    rw [if_pos htaken] at ht
    cases ht
  · rw [if_neg htaken] at ht ⊢
    by_cases hnew : u.firebaseId = ""
    · rw [if_neg (not_not_intro hnew)] at ht ⊢
      obtain rfl := Option.some.inj ht
      rw [if_pos hnew]
      exact ⟨rfl, _, Collection.get_set_self _ _ _, decodeUser_setData u⟩
    · rw [if_pos hnew] at ht ⊢
      obtain rfl := Option.some.inj ht
      obtain ⟨d, hd⟩ := Option.isSome_iff_exists.1 (hstored hnew)
      rw [if_neg hnew]
      simp only [hd]
      refine ⟨rfl, _, ?_, decodeUser_saveProfileInfoData d u⟩
      show (w.server.users.modify u.firebaseId _).get u.firebaseId = _
      rw [Collection.get_modify_self, hd, Option.map_some]

/-- **A profile survives the store**: whichever way it was saved, after any
run of updates each decoder reads it as the last of them left it. -/
theorem profile_survives
    (hsave : managers.exec (.start w) (saving device u documentID now) = some c₁)
    (hstored : u.firebaseId ≠ "" → (w.server.users.get u.firebaseId).isSome)
    (hrun : managers.Run (Machine.Calls (EditsProfile (u.savedIn documentID))) c₁ evs c) :
    ∃ d, c.state.server.users.get (u.savedIn documentID) = some d ∧
      ∀ user ∈ readings (u.savedIn documentID) d,
        user = u.asSaved (u.savedIn documentID) (profileUpdates c₁ evs).getLast? := by
  obtain ⟨hquiet, d₀, hget, hsaved⟩ := exists_saved hsave hstored
  obtain ⟨d, hd, hread⟩ := decodeUser_of_run hget hquiet hrun
  refine ⟨d, hd, fun user huser => ?_⟩
  rw [mem_readings.1 huser, hread, hsaved]
  rfl

namespace Sample

/-- A user of an id, with the profile of a document. -/
def profileOf (firebaseId id : String) : User where
  firebaseId := firebaseId
  id := id
  email := "mail"
  gender := 0
  name := "name"

/-- No account is stored. -/
def noAccounts : World where
  server := ⟨.empty, .empty, .empty, []⟩
  device := fun _ => {}

end Sample

/-- A new account, whose id is then changed. -/
theorem profile_survives_renamed : ∃ c₁ c,
    managers.exec (.start Sample.noAccounts) (saving 0 (Sample.profileOf "" "bob") "u" ⟨0, 0⟩) =
      some c₁ ∧
    managers.exec c₁ [.call (.updateProfileInfo 0 (Sample.profileOf "u" "rob")), .answer 0 .ok] =
      some c ∧
    ∃ d, c.state.server.users.get "u" = some d ∧
      (MyDataManager.decodeUserDS "u" (some d)).id = "rob" := by
  have hedits : ∀ a, .call a ∈ [(.call (.updateProfileInfo 0 (Sample.profileOf "u" "rob")) :
      Event AccountCall Reply), .answer 0 .ok] → EditsProfile "u" a := by
    intro a ha
    rcases List.mem_cons.1 ha with ha | ha
    · obtain rfl := Event.call.inj ha
      rfl
    · cases List.mem_singleton.1 ha
  have hsave : managers.exec (.start Sample.noAccounts)
      (saving 0 (Sample.profileOf "" "bob") "u" ⟨0, 0⟩) = some _ := rfl
  refine ⟨_, _, hsave, rfl, ?_⟩
  obtain ⟨d, hd, hread⟩ := profile_survives hsave (fun h => absurd rfl h)
    (.of_exec (Machine.admits_calls hedits) rfl)
  exact ⟨d, hd, congrArg User.id (hread _ (.tail _ (.head _)))⟩

end Volleyer
