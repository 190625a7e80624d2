import Volleyer.Common.Settle
import Volleyer.Common.Writes
import Volleyer.Session.Return
import Volleyer.Session.Unique

/-!
# An id that somebody has

A registration asks for the id that was typed, and a change of profile asks
where that id is not the text the device has cached. The query is over all
the user documents, so it also finds the account's own: somebody who comes
back is refused the id of the account that was removed, and so is somebody
whose cache is older than their own document. Where nothing is asked the id
may be somebody else's by now. Otherwise an id is refused exactly when
another document holds it (`refusesRight_iff`).
-/

namespace Volleyer

/-- **No two user documents share an id.** -/
def IdsUnique (s : Session) : Prop :=
  ∀ i j k, s.userString .id i = some k → s.userString .id j = some k → i = j

/-- The callback of a query that refuses an id: it has found a document. -/
def SessionTask.Refuses (s : Session) : SessionTask → Prop
  | .account (.queryUserId _ user _ _) => (s.usersWithId user.id).length > 0
  | .queryNewId _ id => (s.usersWithId id).length > 0
  | _ => False

/-- The account's own document: a new account has none yet. -/
def InputProfile.ownDocument (form : InputProfile) : Option String :=
  if form.thisUser.firebaseId ≠ "" then some form.thisUser.firebaseId else none

/-- **An attempt**: the button of a form that is filled in. -/
inductive Attempt (s : Session) (form : InputProfile) : SessionCall → Prop
  | doneInput {k documentID now} (hform : s.profiles[k]? = some form)
      (hsaves : form.Filled ∧ form.LevelsChosen) : Attempt s form (.doneInput k documentID now)
  | changeUserInfo {k} (hform : s.profiles[k]? = some form) (hsaves : form.Filled) :
      Attempt s form (.changeUserInfo k)

/-- **A call that runs alone to the end**, and nothing fails. -/
structure RunsAlone (texts : Texts) (s₀ : Session) (a : SessionCall)
    (evs : List (Event SessionCall Reply)) (c₁ c : Config Session SessionTask) : Prop where
  issued : (session texts).step (Config.start s₀) (.call a) = some c₁
  answered : (session texts).Run (SettlesOn.Answers fun _ => .ok) c₁ evs c
  done : c.pending = []

/-- **The attempt is rejected**: a query is answered whose callback refuses. -/
def Refused (texts : Texts) (c₁ : Config Session SessionTask)
    (evs : List (Event SessionCall Reply)) : Prop :=
  ∃ x ∈ (session texts).answered c₁ evs, x.2.1.Refuses x.1

/-- The id in the form is asked for: a change asks only where the cached one
is not the same text. -/
def Asks (texts : Texts) (s : Session) (form : InputProfile) : Prop :=
  form.changeUserInfoData.isSome →
    ¬(s.world.device form.device).id.any (texts.same form.idTextField)

/-- The account's own document holds the id in the form. -/
def HeldByItself (s : Session) (form : InputProfile) : Prop :=
  ∃ i, form.ownDocument = some i ∧ s.userString .id i = some form.idTextField

/-- Another document holds it. -/
def HeldByOther (s : Session) (form : InputProfile) : Prop :=
  ∃ i, form.ownDocument ≠ some i ∧ s.userString .id i = some form.idTextField

/-- **An attempt is decided right**: it is rejected exactly when somebody
else has the id, and an accepted one leaves the ids unique. -/
structure RefusesRight (refused : Prop) (s₀ : Session) (form : InputProfile) (s : Session) :
    Prop where
  refused_iff : refused ↔ HeldByOther s₀ form
  unique : ¬refused → IdsUnique s

/-- At most one document comes by an id: `w` by `id`. -/
def ComesBy (w id : String) (s₀ s : Session) : Prop :=
  ∀ i k, s.userString .id i = some k → s₀.userString .id i = some k ∨ i = w ∧ k = id

/-- **How an attempt is decided**: it is refused an id that it asks for and
somebody has, and otherwise writes it to the account's own document or a new
one. -/
structure Decided (texts : Texts) (refused : Prop) (s₀ : Session) (form : InputProfile)
    (s : Session) : Prop where
  refused_iff : refused ↔ Asks texts s₀ form ∧ ∃ i, s₀.userString .id i = some form.idTextField
  writes : ¬refused → ∃ w, (∀ j, form.ownDocument = some j → j = w) ∧
    ComesBy w form.idTextField s₀ s

variable {texts : Texts} {s s₀ : Session} {form : InputProfile} {a : SessionCall}
variable {evs : List (Event SessionCall Reply)} {c₁ c : Config Session SessionTask}

/-! ## What a query finds -/

/-- **A query finds a document** exactly where one holds the id. -/
theorem length_usersWithId_pos {id : String} :
    (s.usersWithId id).length > 0 ↔ ∃ i, s.userString .id i = some id := by
  rw [gt_iff_lt, List.length_pos_iff_exists_mem]
  constructor
  · rintro ⟨⟨i, d⟩, hmem⟩
    obtain ⟨hd, hid⟩ := Collection.mem_query.1 hmem
    refine ⟨i, ?_⟩
    rw [Session.userString, hd, Option.bind_some]
    exact beq_iff_eq.1 hid
  · rintro ⟨i, hi⟩
    obtain ⟨d, hd, hid⟩ := Option.bind_eq_some_iff.1 hi
    exact ⟨(i, d), Collection.mem_query.2 ⟨hd, beq_iff_eq.2 hid⟩⟩

/-- The ids of a state whose users are those of another. -/
theorem userString_congr (h : s.world.server.users = s₀.world.server.users) (f : UserTitle)
    (i : String) : s.userString f i = s₀.userString f i := by
  unfold Session.userString
  rw [h]

/-! ## What is answered -/

/-- A task that gives a user an id is no query, and starts nothing. -/
theorem writes_of_gives {t : SessionTask} {p : String × String} (h : t.gives .id = some p)
    (s : Session) : ¬t.Refuses s ∧ (sessionAnswerOk s t).2 = [] := by
  cases t with
  | account t =>
    cases t with
    | updateUser | updateProfileInfo =>
      refine ⟨id, ?_⟩
      simp only [sessionAnswerOk, accountAnswerOk]
      split <;> rfl
    | setUser => exact ⟨id, rfl⟩
    | roster device t => cases t <;> cases h
    | _ => cases h
  | _ => cases h

/-- **The write of an attempt, alone**: nothing is refused, and one document
has the id it gives. -/
theorem run_write {t : SessionTask} {past : List Session} {w id : String}
    (ht : t.gives .id = some (w, id))
    (hrun : (session texts).Run (SettlesOn.Answers fun _ => .ok) ⟨s, past, [t]⟩ evs c)
    (hdone : c.pending = []) :
    ¬Refused texts ⟨s, past, [t]⟩ evs ∧ ComesBy w id s c.state := by
  obtain ⟨hwrite, hspawns⟩ := writes_of_gives ht s
  obtain ⟨evs, rfl, hrest⟩ := SettlesOn.run_singleton hrun hdone
  obtain ⟨rfl, rfl⟩ := SettlesOn.run_nil hrest hspawns
  constructor
  · rintro ⟨x, hx, hrefuses⟩
    obtain rfl : x = (s, t, .ok) := List.mem_singleton.1 hx
    exact hwrite hrefuses
  · intro i k hk
    rcases userString_of_sessionAnswerOk hk with hold | hgives
    · exact Or.inl hold
    · obtain ⟨rfl, rfl⟩ := Prod.mk.inj (Option.some.inj (ht.symm.trans hgives))
      exact Or.inr ⟨rfl, rfl⟩

/-- **The query of an attempt, alone**: it refuses, or its write follows. -/
theorem run_query {t : SessionTask} {past : List Session} {w id : String}
    (hlets : ¬t.Refuses s → ∃ t', sessionAnswerOk s t = (s, [t']) ∧ t'.gives .id = some (w, id))
    (hrun : (session texts).Run (SettlesOn.Answers fun _ => .ok) ⟨s, past, [t]⟩ evs c)
    (hdone : c.pending = []) :
    (Refused texts ⟨s, past, [t]⟩ evs ↔ t.Refuses s) ∧
      (¬Refused texts ⟨s, past, [t]⟩ evs → ComesBy w id s c.state) := by
  obtain ⟨evs, rfl, hrest⟩ := SettlesOn.run_singleton hrun hdone
  by_cases h : t.Refuses s
  · have hrefused : Refused texts ⟨s, past, [t]⟩ (.answer 0 .ok :: evs) :=
      ⟨(s, t, .ok), List.mem_cons_self, h⟩
    exact ⟨iff_of_true hrefused h, fun hnot => absurd hrefused hnot⟩
  · obtain ⟨t', hanswer, hgives⟩ := hlets h
    have hnext : (session texts).answer s t .ok = (s, [t']) := hanswer
    rw [hnext] at hrest
    obtain ⟨hnot, hids⟩ := run_write hgives hrest hdone
    refine ⟨iff_of_false ?_ h, fun _ => hids⟩
    rintro ⟨x, hx, hx'⟩
    rcases List.mem_append.1 hx with hfirst | hlater
    · obtain rfl : x = (s, t, .ok) := List.mem_singleton.1 hfirst
      exact h hx'
    · refine hnot ⟨x, ?_, hx'⟩
      have hstep : (session texts).step ⟨s, past, [t]⟩ (.answer 0 .ok) =
          some ⟨s, s :: past, [t']⟩ := by
        refine Machine.step_answer.2 ⟨t, rfl, ?_⟩
        rw [hnext]
        rfl
      rwa [hstep] at hlater

/-- A registration whose query finds nobody writes the user. -/
theorem letsThrough_queryUserId {device : ℕ} {user : User} {documentID : String} {now : Date}
    (h : ¬(SessionTask.account (.queryUserId device user documentID now)).Refuses s) :
    ∃ t, sessionAnswerOk s (.account (.queryUserId device user documentID now)) = (s, [t]) ∧
      t.gives .id =
        some (if user.firebaseId ≠ "" then user.firebaseId else documentID, user.id) := by
  have hnone : ¬(s.world.server.users.query fun document =>
    document.string .id == some user.id).length > 0 := h
  simp only [sessionAnswerOk, accountAnswerOk, if_neg hnone]
  split_ifs with hback
  · exact ⟨.account (.updateUser device user), rfl, rfl⟩
  · exact ⟨.account (.setUser device user documentID now), rfl, rfl⟩

/-- A change whose query finds nobody writes the user of the form. -/
theorem letsThrough_queryNewId {k : ℕ} {id : String} (hform : s.profiles[k]? = some form)
    (h : ¬(SessionTask.queryNewId k id).Refuses s) :
    ∃ t, sessionAnswerOk s (.queryNewId k id) = (s, [t]) ∧
      t.gives .id = some (form.thisUser.firebaseId, form.thisUser.id) := by
  have hnone : ¬(s.usersWithId id).length > 0 := h
  simp only [sessionAnswerOk, if_neg hnone, hform]
  exact ⟨_, rfl, rfl⟩

/-! ## Every attempt -/

/-- **A registration asks**, and writes the account's own document or a new
one. -/
theorem run_doneInput {k : ℕ} {documentID : String} {now : Date}
    (hform : s₀.profiles[k]? = some form) (hsaves : form.Filled ∧ form.LevelsChosen)
    (hrun : RunsAlone texts s₀ (.doneInput k documentID now) evs c₁ c) :
    Decided texts (Refused texts c₁ evs) s₀ form c.state := by
  obtain ⟨s, ts, hi, rfl⟩ := Machine.step_call.1 hrun.issued
  have hissue : sessionIssue texts s₀ (.doneInput k documentID now) = some (s, ts) := hi
  cases handles_of_issue hissue with
  | notDone hform' h =>
    obtain rfl := Option.some.inj (hform.symm.trans hform')
    rw [InputProfile.doneInput_eq_some.2 ⟨hsaves, rfl⟩] at h
    cases h
  | @doneInput _ _ _ _ form' hform' hnew h hid =>
    obtain rfl := Option.some.inj (hform.symm.trans hform')
    obtain ⟨-, rfl⟩ := InputProfile.doneInput_eq_some.1 h
    have hasks : Asks texts s₀ form := by
      intro hsome
      rw [hnew] at hsome
      cases hsome
    have hids : ∀ i, ((s₀.setProfile k form.read).allocate documentID).userString .id i =
        s₀.userString .id i := userString_congr rfl .id
    have hfinds : (((s₀.setProfile k form.read).allocate documentID).usersWithId
        form.idTextField).length > 0 ↔ _ := length_usersWithId_pos
    obtain ⟨hrefused, hwrites⟩ := run_query letsThrough_queryUserId hrun.answered hrun.done
    simp only [ComesBy, hids] at hfinds hwrites
    refine ⟨hrefused.trans (hfinds.trans (and_iff_right hasks).symm), fun h =>
      ⟨_, fun j hj => ?_, hwrites h⟩⟩
    obtain ⟨hback, hj⟩ := Option.ite_none_right_eq_some.1 hj
    exact (Option.some.inj hj).symm.trans (if_pos hback).symm

/-- **A change of profile asks** where the id is not the cached one, and
writes the account's own document. -/
theorem run_changeUserInfo {k : ℕ} (hform : s₀.profiles[k]? = some form) (hsaves : form.Filled)
    (hrun : RunsAlone texts s₀ (.changeUserInfo k) evs c₁ c) :
    Decided texts (Refused texts c₁ evs) s₀ form c.state := by
  have hown : ∀ j, form.ownDocument = some j → j = form.thisUser.firebaseId := by
    intro j hj
    exact (Option.some.inj (Option.ite_none_right_eq_some.1 hj).2).symm
  have hids : ∀ i, (s₀.setProfile k form.read).userString .id i = s₀.userString .id i :=
    userString_congr rfl .id
  obtain ⟨s, ts, hi, rfl⟩ := Machine.step_call.1 hrun.issued
  have hissue : sessionIssue texts s₀ (.changeUserInfo k) = some (s, ts) := hi
  cases handles_of_issue hissue with
  | notChanged hform' h =>
    obtain rfl := Option.some.inj (hform.symm.trans hform')
    rw [InputProfile.changeUserInfo_eq_some.2 ⟨hsaves, rfl⟩] at h
    cases h
  | changeSameId hform' hchange h hid =>
    obtain rfl := Option.some.inj (hform.symm.trans hform')
    obtain ⟨-, rfl⟩ := InputProfile.changeUserInfo_eq_some.1 h
    obtain ⟨hnot, hwrites⟩ := run_write rfl hrun.answered hrun.done
    simp only [ComesBy, hids] at hwrites
    exact ⟨iff_of_false hnot fun hasks => hasks.1 hchange hid, fun _ => ⟨_, hown, hwrites⟩⟩
  | changeNewId hform' hchange h hid =>
    obtain rfl := Option.some.inj (hform.symm.trans hform')
    obtain ⟨-, rfl⟩ := InputProfile.changeUserInfo_eq_some.1 h
    have hfinds : ((s₀.setProfile k form.read).usersWithId form.idTextField).length > 0 ↔ _ :=
      length_usersWithId_pos
    -- the form is still there when the query is answered
    have hread : (s₀.setProfile k form.read).profiles[k]? = some form.read := by
      obtain ⟨hk, -⟩ := List.getElem?_eq_some_iff.1 hform
      exact List.getElem?_set_self hk
    obtain ⟨hrefused, hwrites⟩ := run_query (letsThrough_queryNewId hread) hrun.answered hrun.done
    simp only [ComesBy, hids] at hfinds hwrites
    refine ⟨hrefused.trans (hfinds.trans ?_), fun h => ⟨_, hown, hwrites h⟩⟩
    exact (and_iff_right fun _ => hid).symm

theorem Attempt.decided (h : Attempt s₀ form a) (hrun : RunsAlone texts s₀ a evs c₁ c) :
    Decided texts (Refused texts c₁ evs) s₀ form c.state := by
  cases h with
  | doneInput hform hsaves => exact run_doneInput hform hsaves hrun
  | changeUserInfo hform hsaves => exact run_changeUserInfo hform hsaves hrun

/-- **An id that nobody else has** is still unique when the account comes by
it. -/
theorem idsUnique_of_comesBy {w : String} (hunique : IdsUnique s₀)
    (hown : ∀ j, form.ownDocument = some j → j = w) (hother : ¬HeldByOther s₀ form)
    (h : ComesBy w form.idTextField s₀ s) : IdsUnique s := by
  -- a document that held the id before is the account's own
  have hsame : ∀ i, s₀.userString .id i = some form.idTextField → i = w := by
    intro i hi
    by_contra hne
    exact hother ⟨i, fun hmine => hne (hown i hmine), hi⟩
  intro i j id hi hj
  rcases h i id hi with hi | ⟨rfl, rfl⟩
  · rcases h j id hj with hj | ⟨rfl, rfl⟩
    · exact hunique i j id hi hj
    · exact hsame i hi
  · rcases h j _ hj with hj | ⟨rfl, -⟩
    · exact (hsame j hj).symm
    · rfl

/-- **An attempt is decided right** exactly where the account's own document
does not hold an id that is asked for, and no other one holds an id that is
not. -/
theorem refusesRight_iff (hunique : IdsUnique s₀) (hattempt : Attempt s₀ form a)
    (hrun : RunsAlone texts s₀ a evs c₁ c) :
    RefusesRight (Refused texts c₁ evs) s₀ form c.state ↔
      (Asks texts s₀ form → ¬HeldByItself s₀ form) ∧
        (¬Asks texts s₀ form → ¬HeldByOther s₀ form) := by
  obtain ⟨hrefused, hwrites⟩ := hattempt.decided hrun
  constructor
  · intro h
    constructor
    · rintro hasks ⟨i, hmine, hi⟩
      -- it is refused its own id, and that id is nobody else's
      obtain ⟨j, hother, hj⟩ := h.refused_iff.1 (hrefused.2 ⟨hasks, i, hi⟩)
      obtain rfl := hunique i j _ hi hj
      exact hother hmine
    · intro hnot hother
      exact hnot (hrefused.1 (h.refused_iff.2 hother)).1
  · rintro ⟨hitself, hother⟩
    have hiff : Refused texts c₁ evs ↔ HeldByOther s₀ form := by
      rw [hrefused]
      constructor
      · rintro ⟨hasks, i, hi⟩
        exact ⟨i, fun hmine => hitself hasks ⟨i, hmine, hi⟩, hi⟩
      · intro h
        obtain ⟨i, -, hi⟩ := id h
        exact ⟨by_contra fun hnot => hother hnot h, i, hi⟩
    refine ⟨hiff, fun hnot => ?_⟩
    obtain ⟨w, hown, hw⟩ := hwrites hnot
    exact idsUnique_of_comesBy hunique hown (fun h => hnot (hiff.2 h)) hw

namespace Sample

/-- A form to register with, of the id that the removed account still has. -/
def formerId (firebaseId : String) : InputProfile :=
  { filledForm 0 "apple" "v" with
    thisUser := { (filledForm 0 "apple" "v").thisUser with firebaseId := firebaseId } }

/-- The account `"u"` is removed, and the form is filled in. -/
def vacated (firebaseId : String) : Session := (removed [] []).addProfile (formerId firebaseId)

/-- The registration. -/
def reregister : SessionCall := .doneInput 1 "d" ⟨0, 0⟩

theorem userString_vacated {firebaseId i id : String}
    (h : (vacated firebaseId).userString .id i = some id) : i = "u" ∧ id = "v" := by
  obtain ⟨d, hd, hid⟩ := Option.bind_eq_some_iff.1 h
  obtain rfl := List.mem_singleton.1 (Collection.isSome_get_iff.1 (Option.isSome_of_mem hd))
  obtain rfl := Option.some.inj hd
  exact ⟨rfl, (Option.some.inj hid).symm⟩

theorem idsUnique_vacated (firebaseId : String) : IdsUnique (vacated firebaseId) :=
  fun _ _ _ hi hj => (userString_vacated hi).1.trans (userString_vacated hj).1.symm

theorem attempt_vacated (firebaseId : String) :
    Attempt (vacated firebaseId) (formerId firebaseId) reregister := by
  have hsaves : (filledForm 0 "apple" "v").Filled ∧ (filledForm 0 "apple" "v").LevelsChosen := by
    decide
  exact .doneInput rfl hsaves

/-- Its query finds the document of `"u"`, whoever it is. -/
theorem refused_vacated (firebaseId : String) : ∃ c₁ c,
    RunsAlone plainTexts (vacated firebaseId) reregister [.answer 0 .ok] c₁ c ∧
      Refused plainTexts c₁ [.answer 0 .ok] := by
  refine ⟨_, _, ⟨rfl, .of_exec ⟨?_, trivial⟩ rfl, rfl⟩, _, List.mem_cons_self, ?_⟩
  · rintro t -
    rfl
  · exact length_usersWithId_pos.2 ⟨"u", rfl⟩

end Sample

/-- A newcomer is refused the id, and rightly so. -/
theorem refusesRight_newcomer : ∃ c₁ c,
    RunsAlone Sample.plainTexts (Sample.vacated "") Sample.reregister [.answer 0 .ok] c₁ c ∧
      RefusesRight (Refused Sample.plainTexts c₁ [.answer 0 .ok]) (Sample.vacated "")
        (Sample.formerId "") c.state := by
  obtain ⟨c₁, c, hrun, -⟩ := Sample.refused_vacated ""
  refine ⟨c₁, c, hrun,
    (refusesRight_iff (Sample.idsUnique_vacated "") (Sample.attempt_vacated "") hrun).2 ⟨?_, ?_⟩⟩
  · rintro - ⟨i, hi, -⟩
    cases hi
  · intro hasks
    exact absurd (fun hsome => by cases hsome) hasks

/-- **Somebody who comes back is refused their own id.** -/
theorem not_refusesRight : ¬∀ (texts : Texts) (s₀ : Session) (form : InputProfile)
    (a : SessionCall) (evs : List (Event SessionCall Reply)) (c₁ c : Config Session SessionTask),
    IdsUnique s₀ → Attempt s₀ form a → RunsAlone texts s₀ a evs c₁ c →
    RefusesRight (Refused texts c₁ evs) s₀ form c.state := by
  intro h
  obtain ⟨c₁, c, hrun, hrefused⟩ := Sample.refused_vacated "u"
  have hright := h _ _ _ _ _ _ _ (Sample.idsUnique_vacated "u") (Sample.attempt_vacated "u") hrun
  obtain ⟨i, hother, hi⟩ := hright.refused_iff.1 hrefused
  obtain ⟨rfl, -⟩ := Sample.userString_vacated hi
  exact hother rfl

end Volleyer
