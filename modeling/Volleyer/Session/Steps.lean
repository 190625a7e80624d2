import Volleyer.Session.Model

/-!
# What an event of the screens does

Each event with the guard it passes (`Handles`), and what an answered task
leaves of the stores and starts. A callback that is about the accounts
touches the stores as `MyDataManager` says; the screens' own callbacks only
read them.
-/

namespace Volleyer

variable {texts : Texts} {s s' : Session} {ts : List SessionTask}

/-! ## Events -/

/-- `document()`: an id that was handed out. -/
def Session.allocate (s : Session) (documentID : String) : Session :=
  { s with world.server.allocated := documentID :: s.world.server.allocated }

/-- Tasks of the managers of plays and requests, started on a device. -/
def rosterTasks (device : ℕ) (ts : List Task) : List SessionTask :=
  ts.map fun t => .account (.roster device t)

/-- **An event, what it passed and what it leaves**: a constructor for each
way through the method that handles it. -/
inductive Handles (texts : Texts) (s : Session) : SessionCall → Session → List SessionTask → Prop
  | launch {device userIdentifier}
      (h : (s.world.device device).userIdentifier = some userIdentifier) :
      Handles texts s (.willConnect device) (s.newWindow device)
        [.getProfileData device userIdentifier none]
  | launchLogin {device} (h : (s.world.device device).userIdentifier = none) :
      Handles texts s (.willConnect device) ((s.newWindow device).loginViewController device) []
  | logIn {device credential} :
      Handles texts s (.logIn device credential) s [.queryIdentifier device credential]
  | logout {device} :
      Handles texts s (.logout device) (s.setDevice device MyDataManager.deleteUserDefault) []
  | pushToInputProfile {device form}
      (h : pushToInputProfile device (s.world.device device) = some form) :
      Handles texts s (.pushToInputProfile device) (s.addProfile form) []
  | input {k e form form'} (hform : s.profiles[k]? = some form) (h : form.input e = some form') :
      Handles texts s (.input k e) (s.setProfile k form') []
  | notDone {k documentID now form} (hform : s.profiles[k]? = some form)
      (h : form.doneInput = none) : Handles texts s (.doneInput k documentID now) s []
  | doneInput {k documentID now form form'} (hform : s.profiles[k]? = some form)
      (hnew : form.changeUserInfoData = none) (h : form.doneInput = some form')
      (hid : documentID ∉ s.world.server.allocated) :
      Handles texts s (.doneInput k documentID now) ((s.setProfile k form').allocate documentID)
        [.account (.queryUserId form.device form'.thisUser documentID now)]
  | notChanged {k form} (hform : s.profiles[k]? = some form) (h : form.changeUserInfo = none) :
      Handles texts s (.changeUserInfo k) s []
  | changeSameId {k form form'} (hform : s.profiles[k]? = some form)
      (hchange : form.changeUserInfoData.isSome) (h : form.changeUserInfo = some form')
      (hid : (s.world.device form.device).id.any (texts.same form'.thisUser.id)) :
      Handles texts s (.changeUserInfo k) (s.setProfile k form')
        [.account (.updateProfileInfo form.device form'.thisUser)]
  | changeNewId {k form form'} (hform : s.profiles[k]? = some form)
      (hchange : form.changeUserInfoData.isSome) (h : form.changeUserInfo = some form')
      (hid : ¬(s.world.device form.device).id.any (texts.same form'.thisUser.id)) :
      Handles texts s (.changeUserInfo k) (s.setProfile k form') [.queryNewId k form'.thisUser.id]
  | deleteAccount {k form} (hform : s.profiles[k]? = some form)
      (hchange : form.changeUserInfoData.isSome) :
      Handles texts s (.deleteAccount k) (s.loginViewController form.device)
        [.account (.removeThisuser form.device form.thisUser.firebaseId)]
  | pushToEstablish {device now} : Handles texts s (.pushToEstablish device now)
      (s.addPlay
        { device := device, thisPlay := blankPlay (s.world.device device).firebaseId now }) []
  | editPlay {device documentID now document form}
      (hdocument : s.world.server.plays.get documentID = some document)
      (h : EstablishFinder.ifEditMode texts
        { device := device, thisPlay := decodePlay documentID document now } = some form) :
      Handles texts s (.editPlay device documentID now) (s.addPlay form) []
  | inputPlay {k e form form'} (hform : s.plays[k]? = some form)
      (h : form.input texts e = some form') :
      Handles texts s (.inputPlay k e) (s.setPlay k form') []
  | notAdded {k isPublishButton documentID now form form'} (hform : s.plays[k]? = some form)
      (h : form.addData texts isPublishButton = (form', false)) :
      Handles texts s (.addData k isPublishButton documentID now) (s.setPlay k form') []
  | savePlay {k isPublishButton documentID now form form'} (hform : s.plays[k]? = some form)
      (h : form.addData texts isPublishButton = (form', true)) (hnew : form'.thisPlay.id = "")
      (hid : documentID ∉ s.world.server.allocated) :
      Handles texts s (.addData k isPublishButton documentID now)
        ((s.setPlay k form').allocate documentID)
        (rosterTasks form'.device (FinderDataManager.savePlay form'.thisPlay documentID now))
  | updatePlay {k isPublishButton documentID now form form'} (hform : s.plays[k]? = some form)
      (h : form.addData texts isPublishButton = (form', true)) (hnew : form'.thisPlay.id ≠ "") :
      Handles texts s (.addData k isPublishButton documentID now) (s.setPlay k form')
        (rosterTasks form'.device (FinderDataManager.updatePlay form'.thisPlay))
  | deletePost {k form} (hform : s.plays[k]? = some form) :
      Handles texts s (.deletePost k) s
        (rosterTasks form.device (FinderDataManager.deletePlay form.thisPlay))

/-- **The edit's done button**: refused, or with the id of before, or with
another. -/
theorem handles_of_changeUserInfo {k : ℕ}
    (h : sessionIssue texts s (.changeUserInfo k) = some (s', ts)) :
    Handles texts s (.changeUserInfo k) s' ts := by
  obtain ⟨form, hform, heq⟩ := Option.bind_eq_some_iff.1 h
  obtain ⟨hchange, heq⟩ := Option.ite_none_left_eq_some.1 heq
  have hsome : form.changeUserInfoData.isSome := by
    rwa [Option.isNone_iff_eq_none, ← Ne, ← Option.isSome_iff_ne_none] at hchange
  split at heq
  · obtain ⟨rfl, rfl⟩ := Prod.mk.inj (Option.some.inj heq)
    exact .notChanged hform ‹_›
  · split at heq
    · obtain ⟨⟨w, us⟩, hissue, heq⟩ := Option.map_eq_some_iff.1 heq
      obtain ⟨rfl, rfl⟩ := Prod.mk.inj heq
      obtain ⟨rfl, rfl⟩ := Prod.mk.inj (Option.some.inj hissue)
      exact .changeSameId hform hsome ‹_› ‹_›
    · obtain ⟨rfl, rfl⟩ := Prod.mk.inj (Option.some.inj heq)
      exact .changeNewId hform hsome ‹_› ‹_›

/-- **The button of a form of a play**: refused, or a new play, or an
edited one. -/
theorem handles_of_addData {k : ℕ} {isPublishButton : Bool} {documentID : String} {now : Timestamp}
    (h : sessionIssue texts s (.addData k isPublishButton documentID now) = some (s', ts)) :
    Handles texts s (.addData k isPublishButton documentID now) s' ts := by
  obtain ⟨form, hform, heq⟩ := Option.bind_eq_some_iff.1 h
  cases hadd : form.addData texts isPublishButton with
  | mk form' saves =>
    simp only [hadd] at heq
    cases saves with
    | false =>
      obtain ⟨rfl, rfl⟩ := Prod.mk.inj (Option.some.inj heq)
      exact .notAdded hform hadd
    | true =>
      rw [if_pos rfl] at heq
      obtain ⟨⟨w, us⟩, hissue, heq⟩ := Option.map_eq_some_iff.1 heq
      obtain ⟨rfl, rfl⟩ := Prod.mk.inj heq
      unfold saveCall at hissue
      split at hissue
      · rename_i hnew
        obtain ⟨-, server, rs, hroster, rfl, rfl⟩ := accountIssue_roster.1 hissue
        obtain ⟨hid, rfl, rfl⟩ := allocate_eq_some.1 hroster
        rw [List.map_map]
        exact .savePlay hform hadd hnew hid
      · rename_i hnew
        obtain ⟨-, server, rs, hroster, rfl, rfl⟩ := accountIssue_roster.1 hissue
        obtain ⟨rfl, rfl⟩ := Prod.mk.inj (Option.some.inj hroster)
        rw [List.map_map]
        exact .updatePlay hform hadd hnew

/-- **What an event that happens does.** -/
theorem handles_of_issue {a : SessionCall} (h : sessionIssue texts s a = some (s', ts)) :
    Handles texts s a s' ts := by
  cases a with
  | willConnect device =>
    simp only [sessionIssue] at h
    split at h <;> obtain ⟨rfl, rfl⟩ := Prod.mk.inj (Option.some.inj h)
    · exact .launch ‹_›
    · exact .launchLogin ‹_›
  | logIn device credential =>
    obtain ⟨rfl, rfl⟩ := Prod.mk.inj (Option.some.inj h)
    exact .logIn
  | logout device =>
    obtain ⟨rfl, rfl⟩ := Prod.mk.inj (Option.some.inj h)
    exact .logout
  | pushToInputProfile device =>
    obtain ⟨form, hform, heq⟩ := Option.map_eq_some_iff.1 h
    obtain ⟨rfl, rfl⟩ := Prod.mk.inj heq
    exact .pushToInputProfile hform
  | input k e =>
    obtain ⟨form, hform, heq⟩ := Option.bind_eq_some_iff.1 h
    obtain ⟨form', hinput, heq⟩ := Option.map_eq_some_iff.1 heq
    obtain ⟨rfl, rfl⟩ := Prod.mk.inj heq
    exact .input hform hinput
  | doneInput k documentID now =>
    obtain ⟨form, hform, heq⟩ := Option.bind_eq_some_iff.1 h
    obtain ⟨hnew, heq⟩ := Option.ite_none_left_eq_some.1 heq
    split at heq
    · obtain ⟨rfl, rfl⟩ := Prod.mk.inj (Option.some.inj heq)
      exact .notDone hform ‹_›
    · obtain ⟨⟨w, us⟩, hissue, heq⟩ := Option.map_eq_some_iff.1 heq
      obtain ⟨rfl, rfl⟩ := Prod.mk.inj heq
      obtain ⟨hid, hissue⟩ := Option.ite_none_left_eq_some.1 hissue
      obtain ⟨rfl, rfl⟩ := Prod.mk.inj (Option.some.inj hissue)
      exact .doneInput hform (Option.not_isSome_iff_eq_none.1 hnew) ‹_› hid
  | changeUserInfo k => exact handles_of_changeUserInfo h
  | deleteAccount k =>
    obtain ⟨form, hform, heq⟩ := Option.bind_eq_some_iff.1 h
    obtain ⟨hchange, heq⟩ := Option.ite_none_left_eq_some.1 heq
    have hsome : form.changeUserInfoData.isSome := by
      rwa [Option.isNone_iff_eq_none, ← Ne, ← Option.isSome_iff_ne_none] at hchange
    obtain ⟨⟨w, us⟩, hissue, heq⟩ := Option.map_eq_some_iff.1 heq
    obtain ⟨rfl, rfl⟩ := Prod.mk.inj heq
    obtain ⟨rfl, rfl⟩ := Prod.mk.inj (Option.some.inj hissue)
    exact .deleteAccount hform hsome
  | pushToEstablish device now =>
    obtain ⟨rfl, rfl⟩ := Prod.mk.inj (Option.some.inj h)
    exact .pushToEstablish
  | editPlay device documentID now =>
    obtain ⟨document, hdocument, heq⟩ := Option.bind_eq_some_iff.1 h
    obtain ⟨form, hform, heq⟩ := Option.map_eq_some_iff.1 heq
    obtain ⟨rfl, rfl⟩ := Prod.mk.inj heq
    exact .editPlay hdocument hform
  | inputPlay k e =>
    obtain ⟨form, hform, heq⟩ := Option.bind_eq_some_iff.1 h
    obtain ⟨form', hinput, heq⟩ := Option.map_eq_some_iff.1 heq
    obtain ⟨rfl, rfl⟩ := Prod.mk.inj heq
    exact .inputPlay hform hinput
  | addData k isPublishButton documentID now => exact handles_of_addData h
  | deletePost k =>
    obtain ⟨form, hform, heq⟩ := Option.bind_eq_some_iff.1 h
    obtain ⟨⟨w, us⟩, hissue, heq⟩ := Option.map_eq_some_iff.1 heq
    obtain ⟨rfl, rfl⟩ := Prod.mk.inj heq
    obtain ⟨-, server, rs, hroster, rfl, rfl⟩ := accountIssue_roster.1 hissue
    obtain ⟨rfl, rfl⟩ := Prod.mk.inj (Option.some.inj hroster)
    rw [List.map_map]
    exact .deletePost hform

/-- **An event writes nothing**: what it saves is in flight. -/
theorem Handles.server {a : SessionCall} (h : Handles texts s a s' ts) :
    s'.world.server.users = s.world.server.users ∧
      s'.world.server.plays = s.world.server.plays := by
  cases h <;> exact ⟨rfl, rfl⟩

/-- **A form that is filled in**, event by event. -/
theorem run_inputs (ok : Config Session SessionTask → Event SessionCall Reply → Prop) {k : ℕ}
    {es : List ProfileInput} {form form' : InputProfile} {past : List Session}
    (hok : ∀ c e, ok c (.call (.input k e))) (hform : s.profiles[k]? = some form)
    (h : es.foldlM InputProfile.input form = some form') : ∃ past',
    (session texts).Run ok ⟨s, past, ts⟩ (es.map fun e => .call (.input k e))
      ⟨s.setProfile k form', past', ts⟩ := by
  induction es generalizing s form past with
  | nil =>
    obtain rfl : form = form' := Option.some.inj h
    obtain ⟨hk, rfl⟩ := List.getElem?_eq_some_iff.1 hform
    refine ⟨past, ?_⟩
    rw [Session.setProfile, List.set_getElem_self]
    exact .nil
  | cons e es ih =>
    obtain ⟨form₁, hinput, hrest⟩ := Option.bind_eq_some_iff.1 h
    have hk := (List.getElem?_eq_some_iff.1 hform).1
    have hset : (s.setProfile k form₁).profiles[k]? = some form₁ := List.getElem?_set_self hk
    have hissue : sessionIssue texts s (.input k e) = some (s.setProfile k form₁, []) := by
      simp only [sessionIssue, hform, hinput, Option.bind_some, Option.map_some]
    have hstep : (session texts).step ⟨s, past, ts⟩ (.call (.input k e)) =
        some ⟨s.setProfile k form₁, s :: past, ts⟩ :=
      Machine.step_call.2 ⟨_, _, hissue, by rw [List.append_nil]; rfl⟩
    obtain ⟨past', hrun⟩ := ih hset hrest
    refine ⟨past', ?_⟩
    have hsame : (s.setProfile k form₁).setProfile k form' = s.setProfile k form' := by
      simp only [Session.setProfile, List.set_set]
    rw [hsame] at hrun
    exact (Machine.Run.snoc .nil (hok _ _) hstep).append hrun

/-! ## Answers -/

/-- What a task writes to a user document. -/
def AccountTask.writesUser : AccountTask → Option (String × Fields UserTitle)
  | .roster _ (.setMyPlayList documentID myPlayList) =>
      some (documentID, [(.myPlayList, .strings myPlayList)])
  | .updateUser _ user => some (user.firebaseId, MyDataManager.saveProfileInfoData user)
  | .setUser _ user documentID now => some (documentID,
      MyDataManager.saveProfileInfoData { user with firebaseId := documentID } ++
        [(.createdTime, .timestamp now)])
  | .setImage documentID urlString => some (documentID, [(.image, .string urlString)])
  | .updateProfileInfo _ changedUser =>
      some (changedUser.firebaseId, MyDataManager.updateProfileInfoData changedUser)
  | .removeThisuser _ firebaseId => some (firebaseId, [(.status, .int (-1))])
  | .setBlockList documentID blockList => some (documentID, [(.blockList, blockList)])
  | _ => none

/-- **What an answer does to the users**: it updates a document with what
its task writes, or stores one that says nothing else. -/
theorem accountAnswerOk_users (w : World) (t : AccountTask) :
    (accountAnswerOk w t).1.server.users = w.server.users ∨
      ∃ i data, t.writesUser = some (i, data) ∧
        ((accountAnswerOk w t).1.server.users = w.server.users.modify i (·.updateData data) ∨
          (∃ device user now, t = .setUser device user i now) ∧
            (accountAnswerOk w t).1.server.users = w.server.users.set i (Doc.setData data)) := by
  cases t with
  | roster device t =>
    rcases answer_users w.server (t.reread (w.device device).firebaseId) .ok with h | ⟨u, l, ht, h⟩
    · exact Or.inl h
    · obtain rfl := Task.eq_of_reread ht (by simp)
      exact Or.inr ⟨u, _, rfl, Or.inl rfl⟩
  | setUser device user documentID now =>
    exact Or.inr ⟨documentID, _, rfl, Or.inr ⟨⟨device, user, now, rfl⟩, rfl⟩⟩
  | updateUser device user =>
    simp only [accountAnswerOk]
    split
    · exact Or.inl rfl
    · exact Or.inr ⟨_, _, rfl, Or.inl rfl⟩
  | updateProfileInfo device user =>
    simp only [accountAnswerOk]
    split
    · exact Or.inl rfl
    · exact Or.inr ⟨_, _, rfl, Or.inl rfl⟩
  | removeThisuser device firebaseId =>
    simp only [accountAnswerOk]
    split
    · exact Or.inl rfl
    · exact Or.inr ⟨_, _, rfl, Or.inl rfl⟩
  | setImage | setBlockList => exact Or.inr ⟨_, _, rfl, Or.inl rfl⟩
  | queryUserId device user documentID now =>
    left
    simp only [accountAnswerOk]
    split_ifs <;> rfl
  | getBlockList device edit documentID userId =>
    left
    simp only [accountAnswerOk]
    split <;> rfl
  | putData | downloadURL => exact Or.inl rfl

section Written

variable {Field : Type} [DecidableEq Field] {docs : Collection String (Doc Field)} {i j : String}
variable {data : Fields Field} {d : Doc Field}

/-- **A field of an updated document** is what it was, or what the update
names there. -/
theorem field_of_modify (h : (docs.modify j (·.updateData data)).get i = some d) (f : Field) :
    (∃ d₀, docs.get i = some d₀ ∧ d f = d₀ f) ∨
      i = j ∧ (data.lookup f).isSome ∧ d f = data.lookup f := by
  rw [Collection.get_modify] at h
  by_cases hij : i = j
  · subst hij
    rw [if_pos rfl, Option.map_eq_some_iff] at h
    obtain ⟨d₀, hd₀, rfl⟩ := h
    cases hf : data.lookup f with
    | none => exact Or.inl ⟨d₀, hd₀, Doc.updateData_of_lookup_eq_none hf⟩
    | some v => exact Or.inr ⟨rfl, rfl, Doc.updateData_of_lookup_eq_some hf⟩
  · rw [if_neg hij] at h
    exact Or.inl ⟨d, h, rfl⟩

/-- A stored document is an old one or the new one. -/
theorem get_of_set (h : (docs.set j (Doc.setData data)).get i = some d) :
    docs.get i = some d ∨ i = j ∧ d = Doc.setData data := by
  rw [Collection.get_set] at h
  by_cases hij : i = j
  · rw [if_pos hij] at h
    exact Or.inr ⟨hij, (Option.some.inj h).symm⟩
  · rw [if_neg hij] at h
    exact Or.inl h

end Written

/-- **A field of a user document** after an answer is what it was, or what
the task writes there. -/
theorem field_of_accountAnswerOk {w : World} {t : AccountTask} {i : String} {d : Doc UserTitle}
    (h : (accountAnswerOk w t).1.server.users.get i = some d) (f : UserTitle) :
    (∃ d₀, w.server.users.get i = some d₀ ∧ d f = d₀ f) ∨
      ∃ data, t.writesUser = some (i, data) ∧ d f = data.lookup f ∧
        ((data.lookup f).isSome ∨ ∃ device user now, t = .setUser device user i now) := by
  rcases accountAnswerOk_users w t with hsame | ⟨j, data, ht, hmodify | ⟨hstores, hset⟩⟩
  · rw [hsame] at h
    exact Or.inl ⟨d, h, rfl⟩
  · rw [hmodify] at h
    rcases field_of_modify h f with hold | ⟨rfl, hsome, hf⟩
    · exact Or.inl hold
    · exact Or.inr ⟨data, ht, hf, Or.inl hsome⟩
  · rw [hset] at h
    rcases get_of_set h with hold | ⟨rfl, rfl⟩
    · exact Or.inl ⟨d, hold, rfl⟩
    · exact Or.inr ⟨data, ht, rfl, Or.inr hstores⟩

/-- A profile that is read is kept on the device; the store is as it was. -/
@[simp] theorem server_didGetProfile (device : ℕ) (completion : Option AppleIDCredential)
    (s : Session) (document : String × Doc UserTitle) :
    (didGetProfile device completion s document).world.server = s.world.server := by
  cases completion with
  | none => rfl
  | some credential =>
    simp only [didGetProfile]
    split <;> rfl

@[simp] theorem server_foldl_didGetProfile (device : ℕ) (completion : Option AppleIDCredential)
    (documents : List (String × Doc UserTitle)) (s : Session) :
    (documents.foldl (didGetProfile device completion) s).world.server = s.world.server := by
  induction documents generalizing s with
  | nil => rfl
  | cons document documents ih => rw [List.foldl_cons, ih, server_didGetProfile]

/-- A form that a sign-in opens is one to register with. -/
theorem forall_profiles_didGetProfile {P : InputProfile → Prop} {device : ℕ}
    {completion : Option AppleIDCredential} {document : String × Doc UserTitle}
    (h : ∀ form ∈ s.profiles, P form)
    (hshow : ∀ device credential user, P (showInputProfileViewController device credential user)) :
    ∀ form ∈ (didGetProfile device completion s document).profiles, P form := by
  cases completion with
  | none => exact h
  | some credential =>
    simp only [didGetProfile]
    split
    · intro form hform
      rcases List.mem_append.1 hform with hform | hform
      · exact h form hform
      · obtain rfl := List.mem_singleton.1 hform
        exact hshow device credential _
    · exact h

/-- Forms that are open stay open. -/
theorem profiles_didGetProfile (device : ℕ) (completion : Option AppleIDCredential) (s : Session)
    (document : String × Doc UserTitle) :
    s.profiles <+: (didGetProfile device completion s document).profiles := by
  cases completion with
  | none => exact List.prefix_rfl
  | some credential =>
    simp only [didGetProfile]
    split
    · exact List.prefix_append ..
    · exact List.prefix_rfl

@[simp] theorem plays_didGetProfile (device : ℕ) (completion : Option AppleIDCredential)
    (s : Session) (document : String × Doc UserTitle) :
    (didGetProfile device completion s document).plays = s.plays := by
  cases completion with
  | none => rfl
  | some credential =>
    simp only [didGetProfile]
    split <;> rfl

/-- **The forms after an answer**: those that were open, and none of them
changed. -/
theorem forms_sessionAnswerOk (s : Session) (t : SessionTask) :
    s.profiles <+: (sessionAnswerOk s t).1.profiles ∧ (sessionAnswerOk s t).1.plays = s.plays := by
  cases t with
  | account t =>
    simp only [sessionAnswerOk]
    cases t.registers s.world <;> exact ⟨List.prefix_rfl, rfl⟩
  | queryNewId k id =>
    simp only [sessionAnswerOk]
    split <;> exact ⟨List.prefix_rfl, rfl⟩
  | queryIdentifier device credential =>
    simp only [sessionAnswerOk]
    split
    · exact ⟨List.prefix_rfl, rfl⟩
    · exact ⟨List.prefix_append .., rfl⟩
  | getProfileData device appleUserId completion =>
    simp only [sessionAnswerOk]
    generalize s.usersWithIdentifier appleUserId = documents
    induction documents generalizing s with
    | nil => exact ⟨List.prefix_rfl, rfl⟩
    | cons document documents ih =>
      obtain ⟨hprofiles, hplays⟩ := ih (didGetProfile device completion s document)
      exact ⟨(profiles_didGetProfile device completion s document).trans hprofiles,
        hplays.trans (plays_didGetProfile device completion s document)⟩

/-- **A form that any answer opens** is one to register with. -/
theorem forall_profiles_sessionAnswerOk {P : InputProfile → Prop}
    (h : ∀ form ∈ s.profiles, P form)
    (hshow : ∀ device credential user, P (showInputProfileViewController device credential user))
    (t : SessionTask) : ∀ form ∈ (sessionAnswerOk s t).1.profiles, P form := by
  cases t with
  | account t =>
    simp only [sessionAnswerOk]
    cases t.registers s.world <;> exact h
  | queryNewId k id =>
    simp only [sessionAnswerOk]
    split <;> exact h
  | queryIdentifier device credential =>
    simp only [sessionAnswerOk]
    split
    · exact h
    · intro form hform
      rcases List.mem_append.1 hform with hform | hform
      · exact h form hform
      · obtain rfl := List.mem_singleton.1 hform
        exact hshow device credential none
  | getProfileData device appleUserId completion =>
    simp only [sessionAnswerOk]
    generalize s.usersWithIdentifier appleUserId = documents
    induction documents generalizing s with
    | nil => exact h
    | cons document documents ih => exact ih (forall_profiles_didGetProfile h hshow)

/-- What an answer about the accounts leaves. -/
theorem world_sessionAnswerOk_account (s : Session) (t : AccountTask) :
    (sessionAnswerOk s (.account t)).1.world = (accountAnswerOk s.world t).1 := by
  simp only [sessionAnswerOk]
  cases t.registers s.world <;> rfl

theorem server_sessionAnswerOk_account (s : Session) (t : AccountTask) :
    (sessionAnswerOk s (.account t)).1.world.server = (accountAnswerOk s.world t).1.server :=
  congrArg World.server (world_sessionAnswerOk_account s t)

/-- The forms of a list with one more or one changed. -/
theorem forall_mem_set {α : Type} {P : α → Prop} {l : List α} (h : ∀ a ∈ l, P a) (k : ℕ) {a : α}
    (ha : P a) : ∀ b ∈ l.set k a, P b := by
  intro b hb
  rcases List.mem_or_eq_of_mem_set hb with hb | rfl
  · exact h b hb
  · exact ha

/-- **Only a task about the accounts writes.** -/
theorem server_sessionAnswerOk {t : SessionTask} (ht : ∀ u, t ≠ .account u) :
    (sessionAnswerOk s t).1.world.server = s.world.server := by
  cases t with
  | account u => exact absurd rfl (ht u)
  | queryNewId k id =>
    simp only [sessionAnswerOk]
    split <;> rfl
  | queryIdentifier device credential =>
    simp only [sessionAnswerOk]
    split <;> rfl
  | getProfileData device appleUserId completion => exact server_foldl_didGetProfile ..

/-- **A field of a user document** after an answer, whoever reads it. -/
theorem field_of_sessionAnswerOk {t : SessionTask} {i : String} {d : Doc UserTitle}
    (h : (sessionAnswerOk s t).1.world.server.users.get i = some d) (f : UserTitle) :
    (∃ d₀, s.world.server.users.get i = some d₀ ∧ d f = d₀ f) ∨
      ∃ u data, t = .account u ∧ u.writesUser = some (i, data) ∧ d f = data.lookup f ∧
        ((data.lookup f).isSome ∨ ∃ device user now, u = .setUser device user i now) := by
  by_cases ht : ∃ u, t = .account u
  · obtain ⟨u, rfl⟩ := ht
    rw [server_sessionAnswerOk_account] at h
    rcases field_of_accountAnswerOk h f with hold | ⟨data, hu, hf⟩
    · exact Or.inl hold
    · exact Or.inr ⟨u, data, rfl, hu, hf⟩
  · rw [server_sessionAnswerOk fun u hu => ht ⟨u, hu⟩] at h
    exact Or.inl ⟨d, h, rfl⟩

/-- The plays after an answer: only the roster's tasks write them. -/
theorem plays_accountAnswerOk (w : World) (t : AccountTask) :
    (∃ device u, t = .roster device u ∧ (accountAnswerOk w t).1.server =
      (answer w.server (u.reread (w.device device).firebaseId) .ok).1) ∨
      (accountAnswerOk w t).1.server.plays = w.server.plays := by
  cases t with
  | roster device u => exact Or.inl ⟨device, u, rfl, rfl⟩
  | queryUserId =>
    right
    simp only [accountAnswerOk]
    split_ifs <;> rfl
  | updateUser | updateProfileInfo | removeThisuser | getBlockList =>
    right
    simp only [accountAnswerOk]
    split <;> rfl
  | setUser | putData | downloadURL | setImage | setBlockList => exact Or.inr rfl

end Volleyer
