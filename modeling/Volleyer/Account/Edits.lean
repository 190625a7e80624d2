import Volleyer.Account.Agree
import Volleyer.Common.Simulates
import Volleyer.Common.Writes
import Volleyer.Roster.Sample

/-!
# Edits — an edit loses no one else's change

A run with the edits and the run of the same events in which they write
nothing issue the same requests, and store the same off the edited fields:
the lists that others keep are none of them. An edited field holds what
the last edit that was answered says, since no other task in flight names
it.
-/

namespace Volleyer

variable {P : AccountCall → Prop} {w w₀ w' : World} {i : String}
variable {evs : List (Event AccountCall Reply)} {c : Config World AccountTask}

/-! ## The calls behind the tasks in flight -/

/-- The calls but `saveProfileInfo`, which stores a user document whole. -/
def AccountCall.Edits : AccountCall → Prop
  | .saveProfileInfo .. => False
  | _ => True

/-- The calls that neither store the play `i` anew nor delete it. -/
def AccountCall.Spares (i : String) : AccountCall → Prop
  | .roster _ (.savePlay _ documentID _) => documentID ≠ i
  | .roster _ (.deletePlay play) => play.id ≠ i
  | _ => True

/-- A task that stores a document whole, deletes a play or writes a form
is of a call in `P`. -/
def AccountTask.From (P : AccountCall → Prop) : AccountTask → Prop
  | .roster device (.setPlay documentID _ _) =>
      ∃ play now, P (.roster device (.savePlay play documentID now))
  | .roster device (.updatePlay documentID data) =>
      ∃ play, P (.roster device (.updatePlay play)) ∧ play.id = documentID ∧
        data = FinderDataManager.updatePlayData play
  | .roster device (.deletePlay documentID) =>
      ∃ play, P (.roster device (.deletePlay play)) ∧ play.id = documentID
  | .queryUserId device user documentID now | .setUser device user documentID now =>
      P (.saveProfileInfo device user documentID now)
  | .updateUser device user => ∃ documentID now, P (.saveProfileInfo device user documentID now)
  | .updateProfileInfo device changedUser => P (.updateProfileInfo device changedUser)
  | _ => True

/-- What a call of `P` issues is of `P`. -/
theorem from_issue {a : AccountCall} {ts : List AccountTask} (ha : P a)
    (hi : accountIssue w a = some (w', ts)) : ∀ t ∈ ts, t.From P := by
  intro t ht
  cases a with
  | roster device a =>
    obtain ⟨-, s, us, hissue, -, rfl⟩ := accountIssue_roster.1 hi
    obtain ⟨u, hu, rfl⟩ := List.mem_map.1 ht
    cases a with
    | savePlay play j now =>
      obtain ⟨-, -, rfl⟩ := allocate_eq_some.1 hissue
      obtain rfl := List.mem_singleton.1 hu
      exact ⟨play, now, ha⟩
    | saveRequest play players me j now =>
      obtain ⟨-, -, rfl⟩ := allocate_eq_some.1 hissue
      obtain rfl := List.mem_singleton.1 hu
      trivial
    | updatePlay play =>
      obtain ⟨-, rfl⟩ := Prod.mk.inj (Option.some.inj hissue)
      obtain rfl := List.mem_singleton.1 hu
      exact ⟨play, ha, rfl, rfl⟩
    | deletePlay play =>
      obtain ⟨-, rfl⟩ := Prod.mk.inj (Option.some.inj hissue)
      rw [deletePlay_eq] at hu
      rcases List.mem_cons.1 hu with rfl | hu
      · exact ⟨play, ha, rfl⟩
      · rcases List.mem_append.1 hu with hu | hu
        · obtain ⟨v, -, rfl⟩ := List.mem_map.1 hu
          trivial
        · obtain rfl := List.mem_singleton.1 hu
          trivial
    | updateRequest request status | cancelRequest request =>
      obtain ⟨-, rfl⟩ := Prod.mk.inj (Option.some.inj hissue)
      obtain rfl := List.mem_singleton.1 hu
      trivial
  | saveProfileInfo device user documentID now =>
    obtain ⟨-, heq⟩ := Option.ite_none_left_eq_some.1 hi
    obtain ⟨-, rfl⟩ := Prod.mk.inj (Option.some.inj heq)
    obtain rfl := List.mem_singleton.1 ht
    exact ha
  | userDefaults device standard =>
    obtain ⟨-, rfl⟩ := Prod.mk.inj (Option.some.inj hi)
    cases ht
  | updateProfileInfo device changedUser =>
    obtain ⟨-, rfl⟩ := Prod.mk.inj (Option.some.inj hi)
    obtain rfl := List.mem_singleton.1 ht
    exact ha
  | saveProfileImage | removeThisuser | addToBlocklist | removeFromBlocklist =>
    obtain ⟨-, rfl⟩ := Prod.mk.inj (Option.some.inj hi)
    obtain rfl := List.mem_singleton.1 ht
    trivial

/-- And what such a task spawns is. -/
theorem from_answer {t : AccountTask} (ht : t.From P) (r : Reply) :
    ∀ t' ∈ (accountAnswer w t r).2, t'.From P := by
  intro t' ht'
  cases t with
  | roster device t =>
    rw [accountAnswer_roster] at ht'
    obtain ⟨u, hu, rfl⟩ := List.mem_map.1 ht'
    rcases mem_answer hu with ⟨_, _, _, _, -, rfl⟩ | ⟨_, _, _, rfl⟩ | ⟨_, _, rfl⟩ | ⟨_, _, _, rfl⟩ |
      ⟨_, _, rfl⟩ | ⟨_, _, -, rfl⟩ <;> trivial
  | queryUserId device user documentID now =>
    cases r with
    | failed => cases ht'
    | ok =>
      simp only [accountAnswer, accountAnswerOk] at ht'
      split_ifs at ht'
      · cases ht'
      · obtain rfl := List.mem_singleton.1 ht'
        exact ⟨documentID, now, ht⟩
      · obtain rfl := List.mem_singleton.1 ht'
        exact ht
  | putData device savePath urlString | downloadURL device savePath urlString =>
    cases r with
    | failed => cases ht'
    | ok =>
      obtain rfl := List.mem_singleton.1 ht'
      trivial
  | getBlockList device edit documentID userId =>
    cases r with
    | failed => cases ht'
    | ok =>
      simp only [accountAnswer, accountAnswerOk] at ht'
      split at ht'
      · cases ht'
      · obtain ⟨v, -, rfl⟩ := List.mem_map.1 ht'
        trivial
  | updateUser | updateProfileInfo | removeThisuser =>
    cases r with
    | failed => cases ht'
    | ok =>
      simp only [accountAnswer, accountAnswerOk] at ht'
      split at ht' <;> cases ht'
  | setUser | setImage | setBlockList => cases r <;> cases ht'

theorem from_of_run (h : managers.Run (Machine.Calls P) (Config.start w₀) evs c) :
    ∀ t ∈ c.pending, t.From P := by
  refine h.forall_tasks (fun t ht => absurd ht List.not_mem_nil) ?_ ?_
  · exact fun ha hi => from_issue (ha _ rfl) hi
  · exact fun ht _ _ => from_answer ht _

/-! ## The run without the edits -/

def AccountTask.isUpdatePlay : AccountTask → Bool
  | .roster _ (.updatePlay ..) => true
  | _ => false

def AccountTask.isUpdateProfileInfo : AccountTask → Bool
  | .updateProfileInfo .. => true
  | _ => false

theorem AccountTask.isUpdatePlay_eq_true {t : AccountTask} (h : t.isUpdatePlay = true) :
    ∃ device documentID data, t = .roster device (.updatePlay documentID data) := by
  cases t with
  | roster device t =>
    cases t with
    | updatePlay documentID data => exact ⟨device, documentID, data, rfl⟩
    | _ => cases h
  | _ => cases h

theorem AccountTask.isUpdateProfileInfo_eq_true {t : AccountTask}
    (h : t.isUpdateProfileInfo = true) :
    ∃ device changedUser, t = .updateProfileInfo device changedUser := by
  cases t with
  | updateProfileInfo device changedUser => exact ⟨device, changedUser, rfl⟩
  | _ => cases h

/-- **The machine some tasks of which write nothing** to the store. Their
callbacks run all the same. -/
def managersWithout (removed : AccountTask → Bool) :
    Machine World AccountCall AccountTask Reply where
  issue := accountIssue
  answer w t r :=
    if removed t then
      ({ (accountAnswer w t r).1 with server := w.server }, (accountAnswer w t r).2)
    else accountAnswer w t r

variable {removed : AccountTask → Bool} {E : List PlayTitle} {G : List UserTitle}

/-- The removed tasks write the fields `E` and `G` alone, which no other
task reads. -/
structure Removes (removed : AccountTask → Bool) (E : List PlayTitle) (G : List UserTitle) :
    Prop where
  unread : Unread E G
  left : ∀ {w : World} {s' : Server} {t : AccountTask}, removed t = true →
    t.From AccountCall.Edits → w.server.Agree E G s' →
    (accountAnswerOk w t).1.server.Agree E G s'

theorem removes_updatePlay : Removes AccountTask.isUpdatePlay PlayTitle.edited [] where
  unread := ⟨by decide, List.not_mem_nil, List.not_mem_nil, List.not_mem_nil⟩
  left {w s' t} hremoved ht h := by
    obtain ⟨device, documentID, data, rfl⟩ := AccountTask.isUpdatePlay_eq_true hremoved
    obtain ⟨play, -, -, rfl⟩ := ht
    exact h.updatePlay_left documentID (List.Subset.refl _)

theorem removes_updateProfileInfo :
    Removes AccountTask.isUpdateProfileInfo [] UserTitle.edited where
  unread := ⟨List.not_mem_nil, by decide, by decide, by decide⟩
  left {w s' t} hremoved _ h := by
    obtain ⟨device, changedUser, rfl⟩ := AccountTask.isUpdateProfileInfo_eq_true hremoved
    simp only [accountAnswerOk]
    cases w.server.users.get changedUser.firebaseId with
    | none => exact h
    | some _ => exact h.updateUser_left changedUser.firebaseId (List.Subset.refl _)

namespace Removes

/-- **A step with the edits is a step without**, up to the edited fields. -/
theorem simulates (h : Removes removed E G) :
    Simulates managers (managersWithout removed)
      (fun c e => Machine.Calls AccountCall.Edits c e ∧
        ∀ t ∈ c.pending, t.From AccountCall.Edits)
      (World.Agree E G) some where
  call _ hw hb hi := by
    obtain rfl := Option.some.inj hb
    exact hw.accountIssue hi
  silent _ _ hb _ := nomatch hb
  answer {c w' i r t} hok ht hw := by
    have hfrom : t.From AccountCall.Edits := hok.2 t (List.mem_of_getElem? ht)
    cases r with
    | failed =>
      simp only [managers, managersWithout, accountAnswer]
      split <;> exact ⟨rfl, hw⟩
    | ok =>
      obtain ⟨hagree, htasks⟩ := hw.accountAnswerOk h.unread (t := t) fun _ _ _ _ hquery => by
        subst hquery
        exact hfrom.elim
      simp only [managers, managersWithout, accountAnswer]
      split
      · rename_i hremoved
        exact ⟨htasks.symm, ⟨h.left hremoved hfrom hw.server, hagree.device⟩⟩
      · exact ⟨htasks.symm, hagree⟩

theorem run (h : Removes removed E G)
    (hrun : managers.Run (Machine.Calls AccountCall.Edits) (Config.start w₀) evs c) :
    ∃ c', (managersWithout removed).Run (Machine.Calls AccountCall.Edits) (Config.start w₀) evs c' ∧
      c.state.Agree E G c'.state ∧ c'.pending = c.pending := by
  have hstart : (Config.start w₀ : Config World AccountTask).state.Agree E G
      (Config.start w₀ : Config World AccountTask).state := ⟨.refl E G w₀.server, rfl⟩
  have hok : ∀ {c₁ c₂ : Config World AccountTask} {e₁ e₂ : Event AccountCall Reply},
      Machine.Calls AccountCall.Edits c₁ e₁ → e₁.lower some = some e₂ →
      Machine.Calls AccountCall.Edits c₂ e₂ := fun hcalls hlow => by
    rw [Event.lower_some, Option.some.injEq] at hlow
    exact hlow ▸ hcalls
  have hlower : ∃ c', (managersWithout removed).Run (Machine.Calls AccountCall.Edits)
      (Config.start w₀) (evs.filterMap (Event.lower some)) c' ∧
      c.state.Agree E G c'.state ∧ c'.pending = c.pending :=
    h.simulates.run hstart rfl (fun hcalls _ _ _ hlow => hok hcalls.1 hlow)
      (hrun.strengthen fun _ _ hr => from_of_run hr)
  simpa only [Event.lower_some, List.filterMap_some] using hlower

end Removes

/-! ## The last edit -/

/-- What an answer writes to the edited fields of the play `i`: those of
an `updatePlay` that succeeds. -/
def playWrite (i : String) : World × AccountTask × Reply → Option (Doc PlayTitle)
  | (_, .roster _ (.updatePlay documentID data), .ok) =>
      if documentID = i then some (Doc.setData data) else none
  | _ => none

/-- What an answer writes to the edited fields of the user `i`: those of
an `updateProfileInfo` that succeeds. -/
def userWrite (i : String) : World × AccountTask × Reply → Option (Doc UserTitle)
  | (_, .updateProfileInfo _ changedUser, .ok) =>
      if changedUser.firebaseId = i then
        some (Doc.setData (MyDataManager.updateProfileInfoData changedUser))
      else none
  | _ => none

section Written

variable {Field : Type} [DecidableEq Field] {F : List Field} {d : Doc Field} {j : String}
variable {docs : Collection String (Doc Field)} {data : Fields Field}

/-- A write that names no field of `F` leaves them. -/
theorem get_modify_of_disjoint (hd : docs.get i = some d) (hdata : ∀ f ∈ F, data.lookup f = none) :
    ∃ d', (docs.modify j (·.updateData data)).get i = some d' ∧ ∀ f ∈ F, d' f = d f := by
  rw [Collection.get_modify]
  by_cases hij : i = j
  · subst hij
    rw [if_pos rfl, hd]
    exact ⟨_, rfl, fun f hf => Doc.updateData_of_lookup_eq_none (hdata f hf)⟩
  · rw [if_neg hij]
    exact ⟨d, hd, fun f _ => rfl⟩

/-- A write that names the fields of `F` leaves in them what it says. -/
theorem get_modify_of_fields (hd : docs.get i = some d) (hdata : data.map Prod.fst = F) :
    ∃ d', (docs.modify j (·.updateData data)).get i = some d' ∧
      ∀ f ∈ F, d' f = (if j = i then some (Doc.setData data) else none).getD d f := by
  rw [Collection.get_modify]
  by_cases hij : i = j
  · subst hij
    rw [if_pos rfl, if_pos rfl, hd]
    refine ⟨_, rfl, fun f hf => ?_⟩
    obtain ⟨v, hv⟩ := exists_lookup_of_mem (hdata ▸ hf)
    exact (Doc.updateData_of_lookup_eq_some hv).trans hv.symm
  · rw [if_neg hij, if_neg (Ne.symm hij)]
    exact ⟨d, hd, fun f _ => rfl⟩

end Written

theorem accountIssue_eq {a : AccountCall} {ts : List AccountTask}
    (hi : accountIssue w a = some (w', ts)) :
    w'.server.plays = w.server.plays ∧ w'.server.users = w.server.users := by
  cases a with
  | roster device a =>
    obtain ⟨-, s, us, hissue, rfl, -⟩ := accountIssue_roster.1 hi
    obtain ⟨husers, hplays, -⟩ := issue_eq hissue
    exact ⟨hplays, husers⟩
  | saveProfileInfo device user documentID now =>
    obtain ⟨-, heq⟩ := Option.ite_none_left_eq_some.1 hi
    obtain ⟨rfl, -⟩ := Prod.mk.inj (Option.some.inj heq)
    exact ⟨rfl, rfl⟩
  | _ =>
    obtain ⟨rfl, -⟩ := Prod.mk.inj (Option.some.inj hi)
    exact ⟨rfl, rfl⟩

/-- The tasks of `MyDataManager` leave the plays, and write no form of
one. -/
theorem accountAnswer_plays {t : AccountTask} {r : Reply} (ht : ∀ device u, t ≠ .roster device u) :
    (accountAnswer w t r).1.server.plays = w.server.plays ∧ playWrite i (w, t, r) = none := by
  cases r with
  | failed =>
    refine ⟨rfl, ?_⟩
    cases t with
    | roster device u => exact absurd rfl (ht device u)
    | _ => rfl
  | ok =>
    cases t with
    | roster device u => exact absurd rfl (ht device u)
    | queryUserId =>
      simp only [accountAnswer, accountAnswerOk]
      split_ifs <;> exact ⟨rfl, rfl⟩
    | updateUser | updateProfileInfo | removeThisuser | getBlockList =>
      simp only [accountAnswer, accountAnswerOk]
      split <;> exact ⟨rfl, rfl⟩
    | setUser | putData | downloadURL | setImage | setBlockList => exact ⟨rfl, rfl⟩

@[simp] theorem playWrite_failed {t : AccountTask} : playWrite i (w, t, .failed) = none := by
  cases t with
  | roster device t => cases t <;> rfl
  | _ => rfl

theorem playWrite_of_ne {device : ℕ} {t : Task} {r : Reply}
    (ht : ∀ j data, t ≠ .updatePlay j data) : playWrite i (w, .roster device t, r) = none := by
  cases t with
  | updatePlay j data => exact absurd rfl (ht j data)
  | _ => rfl

/-- **The play after an answer**: its edited fields are those of the form
the answer writes, if it writes one. -/
theorem play_of_answer {t : AccountTask} {d : Doc PlayTitle} (hd : w.server.plays.get i = some d)
    (ht : t.From P) (hP : ∀ a, P a → a.Spares i) (r : Reply) :
    ∃ d', (accountAnswer w t r).1.server.plays.get i = some d' ∧
      ∀ f ∈ PlayTitle.edited, d' f = (playWrite i (w, t, r)).getD d f := by
  cases r with
  | failed => exact ⟨d, hd, fun f _ => by rw [playWrite_failed, Option.getD_none]⟩
  | ok =>
    by_cases hroster : ∃ device u, t = .roster device u
    · obtain ⟨device, u, rfl⟩ := hroster
      rw [accountAnswer_roster]
      by_cases hedit : ∃ j data, u = .updatePlay j data
      · obtain ⟨j, data, rfl⟩ := hedit
        obtain ⟨play, -, -, rfl⟩ := ht
        exact get_modify_of_fields hd rfl
      · have hnone : playWrite i (w, .roster device u, .ok) = none :=
          playWrite_of_ne fun j data hu => hedit ⟨j, data, hu⟩
        rw [hnone, Option.getD_none]
        rcases answer_plays w.server (u.reread (w.device device).firebaseId) .ok with hp |
          ⟨j, data, f, hu, hp⟩ | ⟨j, data, hu | ⟨l, -, rfl⟩, hp⟩ | ⟨j, hu, hp⟩ <;> rw [hp]
        · exact ⟨d, hd, fun f _ => rfl⟩
        · -- a play is stored anew under a new id only
          obtain rfl := Task.eq_of_reread hu (by simp)
          obtain ⟨play, now, ha⟩ := ht
          rw [Collection.get_set_of_ne _ _ (Ne.symm (hP _ ha))]
          exact ⟨d, hd, fun f _ => rfl⟩
        · exact absurd ⟨j, data, Task.eq_of_reread hu (by simp)⟩ hedit
        · exact get_modify_of_disjoint hd (by simp [PlayTitle.edited])
        · obtain rfl := Task.eq_of_reread hu (by simp)
          obtain ⟨play, ha, rfl⟩ := ht
          rw [Collection.get_delete_of_ne _ (Ne.symm (hP _ ha))]
          exact ⟨d, hd, fun f _ => rfl⟩
    · obtain ⟨hplays, hwrite⟩ := accountAnswer_plays (w := w) (i := i) (r := .ok)
        fun device u hu => hroster ⟨device, u, hu⟩
      rw [hplays, hwrite]
      exact ⟨d, hd, fun f _ => rfl⟩

/-- **The user after an answer**: the same of `updateProfileInfo`. -/
theorem user_of_answer {t : AccountTask} {d : Doc UserTitle} (hd : w.server.users.get i = some d)
    (ht : t.From AccountCall.Edits) (r : Reply) :
    ∃ d', (accountAnswer w t r).1.server.users.get i = some d' ∧
      ∀ f ∈ UserTitle.edited, d' f = (userWrite i (w, t, r)).getD d f := by
  have hkept : ∃ d', w.server.users.get i = some d' ∧ ∀ f ∈ UserTitle.edited, d' f = d f :=
    ⟨d, hd, fun f _ => rfl⟩
  cases r with
  | failed =>
    cases t <;> exact hkept
  | ok =>
    cases t with
    | roster device t =>
      rw [accountAnswer_roster]
      rcases answer_users w.server (t.reread (w.device device).firebaseId) .ok with hu |
        ⟨u, l, -, hu⟩
      · simp only [hu]
        exact hkept
      · simp only [hu]
        exact get_modify_of_disjoint hd (by simp [UserTitle.edited])
    | queryUserId => exact ht.elim
    | setUser => exact ht.elim
    | updateUser =>
      obtain ⟨_, _, hsave⟩ := ht
      exact hsave.elim
    | putData | downloadURL => exact hkept
    | setImage | setBlockList => exact get_modify_of_disjoint hd (by simp [UserTitle.edited])
    | removeThisuser device firebaseId =>
      simp only [accountAnswer, accountAnswerOk]
      split
      · exact hkept
      · exact get_modify_of_disjoint hd (by simp [UserTitle.edited])
    | getBlockList device edit documentID userId =>
      simp only [accountAnswer, accountAnswerOk]
      split <;> exact hkept
    | updateProfileInfo device changedUser =>
      simp only [accountAnswer, accountAnswerOk, userWrite]
      cases hget : w.server.users.get changedUser.firebaseId with
      | none =>
        have hne : changedUser.firebaseId ≠ i := fun h => by
          rw [h, hd] at hget
          cases hget
        rw [if_neg hne]
        exact hkept
      | some _ => exact get_modify_of_fields hd rfl

/-- The forms a run writes to the play `i`, in the order their writes are
answered. -/
def playWrites (i : String) (w₀ : World) (evs : List (Event AccountCall Reply)) :
    List (Doc PlayTitle) :=
  (managers.answered (Config.start w₀) evs).filterMap (playWrite i)

/-- The forms a run writes to the user `i`. -/
def userWrites (i : String) (w₀ : World) (evs : List (Event AccountCall Reply)) :
    List (Doc UserTitle) :=
  (managers.answered (Config.start w₀) evs).filterMap (userWrite i)

theorem mem_playWrites (h : managers.Run (Machine.Calls P) (Config.start w₀) evs c)
    {form : Doc PlayTitle} (hform : form ∈ playWrites i w₀ evs) :
    ∃ device play, P (.roster device (.updatePlay play)) ∧ play.id = i ∧
      form = Doc.setData (FinderDataManager.updatePlayData play) := by
  obtain ⟨⟨w, t, r⟩, hx, hwrite⟩ := List.mem_filterMap.1 hform
  have hfrom : t.From P := h.forall_answered (fun _ _ hr => from_of_run hr) _ hx
  cases r with
  | failed =>
    rw [playWrite_failed] at hwrite
    cases hwrite
  | ok =>
    cases t with
    | roster device t =>
      cases t with
      | updatePlay j data =>
        obtain ⟨rfl, heq⟩ := Option.ite_none_right_eq_some.1 hwrite
        obtain ⟨play, hplay, hid, rfl⟩ := hfrom
        exact ⟨device, play, hplay, hid, (Option.some.inj heq).symm⟩
      | _ => cases hwrite
    | _ => cases hwrite

theorem mem_userWrites (h : managers.Run (Machine.Calls P) (Config.start w₀) evs c)
    {form : Doc UserTitle} (hform : form ∈ userWrites i w₀ evs) :
    ∃ device changedUser, P (.updateProfileInfo device changedUser) ∧
      changedUser.firebaseId = i ∧
      form = Doc.setData (MyDataManager.updateProfileInfoData changedUser) := by
  obtain ⟨⟨w, t, r⟩, hx, hwrite⟩ := List.mem_filterMap.1 hform
  have hfrom : t.From P := h.forall_answered (fun _ _ hr => from_of_run hr) _ hx
  cases t with
  | updateProfileInfo device changedUser =>
    cases r with
    | failed => cases hwrite
    | ok =>
      obtain ⟨hid, heq⟩ := Option.ite_none_right_eq_some.1 hwrite
      exact ⟨device, changedUser, hfrom, hid, (Option.some.inj heq).symm⟩
  | _ => cases hwrite

/-- The edited fields of a play no call stores anew or deletes. -/
theorem play_of_run (h : managers.Run (Machine.Calls P) (Config.start w₀) evs c)
    (hP : ∀ a, P a → a.Spares i) {d₀ : Doc PlayTitle} (hd₀ : w₀.server.plays.get i = some d₀) :
    ∃ d, c.state.server.plays.get i = some d ∧
      ∀ f ∈ PlayTitle.edited, d f = (playWrites i w₀ evs).getLast?.getD d₀ f := by
  have hrun := h.strengthen fun _ _ hr => from_of_run hr
  refine hrun.last_write (fun w => w.server.plays.get i) hd₀ ?_ ?_
  · intro c a w ts _ hi
    exact congrArg (Collection.get · i) (accountIssue_eq hi).1
  · intro c j r t d hok ht hd
    exact play_of_answer hd (hok.2 t (List.mem_of_getElem? ht)) hP r

/-- The edited fields of a user. -/
theorem user_of_run (h : managers.Run (Machine.Calls AccountCall.Edits) (Config.start w₀) evs c)
    {d₀ : Doc UserTitle} (hd₀ : w₀.server.users.get i = some d₀) :
    ∃ d, c.state.server.users.get i = some d ∧
      ∀ f ∈ UserTitle.edited, d f = (userWrites i w₀ evs).getLast?.getD d₀ f := by
  have hrun := h.strengthen fun _ _ hr => from_of_run hr
  refine hrun.last_write (fun w => w.server.users.get i) hd₀ ?_ ?_
  · intro c a w ts _ hi
    exact congrArg (Collection.get · i) (accountIssue_eq hi).2
  · intro c j r t d hok ht hd
    exact user_of_answer hd (hok.2 t (List.mem_of_getElem? ht)) r

/-- **An edit loses no one else's change.** Whatever else goes on — but
for `saveProfileInfo`, which stores a user whole — a run stores the plays
it would store if `updatePlay` wrote nothing, off the fields of its form,
and likewise the users off the fields of `updateProfileInfo`. A field of a
form holds what the last write of one says, and what it held at the start
if there is none. -/
theorem edits_of_run (h : managers.Run (Machine.Calls AccountCall.Edits) (Config.start w₀) evs c) :
    (∃ c', (managersWithout AccountTask.isUpdatePlay).Run (Machine.Calls AccountCall.Edits)
        (Config.start w₀) evs c' ∧ c'.pending = c.pending ∧
      ∀ i, Option.Rel (AgreeOff PlayTitle.edited) (c.state.server.plays.get i)
        (c'.state.server.plays.get i)) ∧
    (∃ c', (managersWithout AccountTask.isUpdateProfileInfo).Run
        (Machine.Calls AccountCall.Edits) (Config.start w₀) evs c' ∧ c'.pending = c.pending ∧
      ∀ i, Option.Rel (AgreeOff UserTitle.edited) (c.state.server.users.get i)
        (c'.state.server.users.get i)) ∧
    (∀ i d₀, w₀.server.plays.get i = some d₀ → (∀ a, .call a ∈ evs → a.Spares i) →
      ∃ d, c.state.server.plays.get i = some d ∧
        (∀ f ∈ PlayTitle.edited, d f = (playWrites i w₀ evs).getLast?.getD d₀ f) ∧
        ∀ form ∈ playWrites i w₀ evs, ∃ device play,
          .call (.roster device (.updatePlay play)) ∈ evs ∧ play.id = i ∧
            form = Doc.setData (FinderDataManager.updatePlayData play)) ∧
    ∀ i d₀, w₀.server.users.get i = some d₀ →
      ∃ d, c.state.server.users.get i = some d ∧
        (∀ f ∈ UserTitle.edited, d f = (userWrites i w₀ evs).getLast?.getD d₀ f) ∧
        ∀ form ∈ userWrites i w₀ evs, ∃ device changedUser,
          .call (.updateProfileInfo device changedUser) ∈ evs ∧ changedUser.firebaseId = i ∧
          form = Doc.setData (MyDataManager.updateProfileInfoData changedUser) := by
  have hevs : managers.Run (Machine.Calls fun a => .call a ∈ evs) (Config.start w₀) evs c :=
    h.calls fun a ha => ha
  refine ⟨?_, ?_, fun i d₀ hd₀ hspares => ?_, fun i d₀ hd₀ => ?_⟩
  · obtain ⟨c', hr, hagree, hp⟩ := removes_updatePlay.run h
    exact ⟨c', hr, hp, hagree.server.plays.get⟩
  · obtain ⟨c', hr, hagree, hp⟩ := removes_updateProfileInfo.run h
    exact ⟨c', hr, hp, hagree.server.users.get⟩
  · obtain ⟨d, hd, hlast⟩ := play_of_run hevs hspares hd₀
    exact ⟨d, hd, hlast, fun form hform => mem_playWrites hevs hform⟩
  · obtain ⟨d, hd, hlast⟩ := user_of_run h hd₀
    exact ⟨d, hd, hlast, fun form hform => mem_userWrites hevs hform⟩

namespace Sample

/-- A play of `"f"` that `"u"` asks to join, and `"f"` on a device. -/
def signedIn : World where
  server := oneRequest 0
  device _ := { firebaseId := some "f" }

/-- The play of `"f"` at another price. -/
def priced (price : ℤ) : Play := { play "p" ["f"] with price := price }

/-- The user `"f"` under another name. -/
def renamed : User where
  firebaseId := "f"
  id := "f"
  email := ""
  gender := 0
  name := "g"

/-- An edit of the play lands between the read and the write of an
acceptance, another one after it, and an edit of the user amid the change
of a block list. -/
def edits : List (Event AccountCall Reply) :=
  [.call (.roster 0 (.updatePlay (priced 200))),
    .call (.roster 1 (.updateRequest (request "r" "u" "p" 0) 99)), .answer 1 .ok, .answer 2 .ok,
    .answer 0 .ok, .answer 1 .ok, .call (.roster 0 (.updatePlay (priced 300))),
    .call (.addToBlocklist 0 "u"), .call (.updateProfileInfo 0 renamed), .answer 2 .ok,
    .answer 2 .ok, .answer 1 .ok, .answer 0 .ok, .answer 0 .ok, .answer 0 .ok]

end Sample

theorem edits_overlapping :
    ∃ c, managers.Run (Machine.Calls AccountCall.Edits) (Config.start Sample.signedIn)
        Sample.edits c ∧ c.pending = [] ∧
      (∃ c', (managersWithout AccountTask.isUpdatePlay).Run (Machine.Calls AccountCall.Edits)
          (Config.start Sample.signedIn) Sample.edits c' ∧
        ∀ i, Option.Rel (AgreeOff PlayTitle.edited) (c.state.server.plays.get i)
          (c'.state.server.plays.get i)) ∧
      (∃ d, c.state.server.plays.get "p" = some d ∧ d .price = some (.int 300)) ∧
      ∃ d, c.state.server.users.get "f" = some d ∧ d .name = some (.string "g") := by
  have hcalls : ∀ a, .call a ∈ Sample.edits → a.Edits ∧ a.Spares "p" := by
    intro a ha
    simp only [Sample.edits, List.mem_cons, Event.call.injEq, reduceCtorEq, List.not_mem_nil,
      false_or, or_false] at ha
    rcases ha with rfl | rfl | rfl | rfl | rfl <;> exact ⟨trivial, trivial⟩
  have hrun : managers.Run (Machine.Calls AccountCall.Edits) (Config.start Sample.signedIn)
      Sample.edits _ := .of_exec (Machine.admits_calls fun a ha => (hcalls a ha).1) rfl
  obtain ⟨⟨c', hr, -, hagree⟩, -, hplay, huser⟩ := edits_of_run hrun
  obtain ⟨d, hd, hfields, -⟩ := hplay "p" _ rfl fun a ha => (hcalls a ha).2
  obtain ⟨d', hd', hfields', -⟩ := huser "f" _ rfl
  refine ⟨_, hrun, rfl, ⟨c', hr, hagree⟩, ⟨d, hd, ?_⟩, d', hd', ?_⟩
  · exact hfields .price (by decide)
  · exact hfields' .name (by decide)

end Volleyer
