import Volleyer.Account.Edits
import Volleyer.Common.Beside

/-!
# Accounts apart from the roster

The operations on accounts and those on plays and requests write one
collection of users, but other fields of it: `my_play_list` is the
roster's, and the profile, the photo, the block list and the status are
the account's. So neither can tell that the other is there: every run of
all the managers is a run of the roster alone, and one of the account
operations alone (`unseen_of_run`). There are two exceptions:
`saveProfileInfo` stores a user document whole, and `saveRequest` reads
`UserDefaults` again where its query is answered.
-/

namespace Volleyer

/-- The fields the operations on accounts name. -/
def UserTitle.account : List UserTitle :=
  [.id, .email, .name, .gender, .level, .image, .blockList, .status]

/-- The call of the other managers a call is. -/
def AccountCall.asRoster : AccountCall → Option Call
  | .roster _ a => some a
  | _ => none

/-- The call of `MyDataManager` a call is. -/
def AccountCall.asAccount : AccountCall → Option AccountCall
  | .roster _ _ => none
  | a => some a

/-- The task of the other managers a task is. -/
def AccountTask.asRoster : AccountTask → Option Task
  | .roster _ t => some t
  | _ => none

/-- The task of `MyDataManager` a task is. -/
def AccountTask.asAccount : AccountTask → Option AccountTask
  | .roster _ _ => none
  | t => some t

variable {w w' w₀ : World} {s s' : Server} {a : AccountCall} {t : AccountTask}
variable {ts : List AccountTask} {evs : List (Event AccountCall Reply)}
variable {c : Config World AccountTask}

/-! ## Whose calls and tasks -/

theorem AccountCall.asRoster_eq_some {b : Call} :
    a.asRoster = some b ↔ ∃ device, a = .roster device b := by
  cases a <;> simp [AccountCall.asRoster]

theorem AccountTask.asRoster_eq_some {u : Task} :
    t.asRoster = some u ↔ ∃ device, t = .roster device u := by
  cases t <;> simp [AccountTask.asRoster]

theorem AccountCall.asAccount_eq_some {b : AccountCall} :
    a.asAccount = some b ↔ a = b ∧ a.asRoster = none := by
  cases a <;> simp [AccountCall.asAccount, AccountCall.asRoster]

theorem AccountTask.asAccount_eq_some {u : AccountTask} :
    t.asAccount = some u ↔ t = u ∧ t.asRoster = none := by
  cases t <;> simp [AccountTask.asAccount, AccountTask.asRoster]

theorem AccountCall.asAccount_eq_none : a.asAccount = none ↔ ∃ device b, a = .roster device b := by
  cases a <;> simp [AccountCall.asAccount]

theorem AccountTask.asAccount_eq_none : t.asAccount = none ↔ ∃ device u, t = .roster device u := by
  cases t <;> simp [AccountTask.asAccount]

theorem filterMap_asRoster_map (device : ℕ) (us : List Task) :
    (us.map (AccountTask.roster device)).filterMap AccountTask.asRoster = us := by
  rw [List.filterMap_map]
  exact List.filterMap_some

theorem filterMap_asAccount_map (device : ℕ) (us : List Task) :
    (us.map (AccountTask.roster device)).filterMap AccountTask.asAccount = [] := by
  rw [List.filterMap_map]
  exact List.filterMap_eq_nil_iff.2 fun _ _ => rfl

/-- Tasks of `MyDataManager` alone. -/
theorem filterMap_of_account (h : ∀ t ∈ ts, t.asRoster = none) :
    ts.filterMap AccountTask.asRoster = [] ∧ ts.filterMap AccountTask.asAccount = ts := by
  refine ⟨List.filterMap_eq_nil_iff.2 h, ?_⟩
  calc
    ts.filterMap AccountTask.asAccount = ts.filterMap some :=
      List.filterMap_congr fun t ht => AccountTask.asAccount_eq_some.2 ⟨rfl, h t ht⟩
    _ = ts := List.filterMap_some

/-- What a call of `MyDataManager` puts in flight is of it. -/
theorem asRoster_of_accountIssue (ha : a.asRoster = none) (hi : accountIssue w a = some (w', ts)) :
    ∀ t ∈ ts, t.asRoster = none := by
  cases a with
  | roster _ b => cases ha
  | saveProfileInfo device user documentID now =>
    obtain ⟨-, heq⟩ := Option.ite_none_left_eq_some.1 hi
    obtain ⟨-, rfl⟩ := Prod.mk.inj (Option.some.inj heq)
    exact List.forall_mem_singleton.2 rfl
  | userDefaults device standard =>
    obtain ⟨-, rfl⟩ := Prod.mk.inj (Option.some.inj hi)
    exact List.forall_mem_nil _
  | saveProfileImage | updateProfileInfo | removeThisuser | addToBlocklist | removeFromBlocklist =>
    obtain ⟨-, rfl⟩ := Prod.mk.inj (Option.some.inj hi)
    exact List.forall_mem_singleton.2 rfl

/-- And so is what a task of it puts in flight. -/
theorem asRoster_of_accountAnswer (ht : t.asRoster = none) (r : Reply) :
    ∀ t' ∈ (accountAnswer w t r).2, t'.asRoster = none := by
  intro t' ht'
  cases r with
  | failed => cases ht'
  | ok =>
    cases t with
    | roster _ u => cases ht
    | queryUserId device user documentID now =>
      simp only [accountAnswer, accountAnswerOk] at ht'
      split_ifs at ht'
      · cases ht'
      · rw [List.mem_singleton.1 ht']
        rfl
      · rw [List.mem_singleton.1 ht']
        rfl
    | putData | downloadURL =>
      rw [List.mem_singleton.1 ht']
      rfl
    | getBlockList device edit documentID userId =>
      simp only [accountAnswer, accountAnswerOk] at ht'
      split at ht'
      · cases ht'
      · obtain ⟨v, -, rfl⟩ := List.mem_map.1 ht'
        rfl
    | updateUser | updateProfileInfo | removeThisuser =>
      simp only [accountAnswer, accountAnswerOk] at ht'
      split at ht' <;> cases ht'
    | setUser | setImage | setBlockList => cases ht'

/-! ## The roster does not see the accounts -/

/-- No edit stores a user document whole. -/
theorem not_from_updateUser {device : ℕ} {user : User} :
    ¬(AccountTask.updateUser device user).From AccountCall.Edits := by
  rintro ⟨_, _, hedits⟩
  exact hedits

/-- **A task of `MyDataManager` writes fields of an account alone**, but
for `saveProfileInfo`. -/
theorem agree_of_account (ht : t.asRoster = none) (hfrom : t.From AccountCall.Edits)
    (h : w.server.Agree [] UserTitle.account s) (r : Reply) :
    (accountAnswer w t r).1.server.Agree [] UserTitle.account s := by
  cases r with
  | failed => exact h
  | ok =>
    cases t with
    | roster _ u => cases ht
    | queryUserId device user documentID now => exact hfrom.elim
    | updateUser device user => exact (not_from_updateUser hfrom).elim
    | setUser device user documentID now => exact hfrom.elim
    | putData device savePath urlString => exact h
    | downloadURL device savePath urlString => exact h
    | setImage documentID urlString =>
      exact h.updateUser_left documentID (by simp [UserTitle.account])
    | setBlockList documentID blockList =>
      exact h.updateUser_left documentID (by simp [UserTitle.account])
    | updateProfileInfo device changedUser =>
      simp only [accountAnswer, accountAnswerOk]
      split
      · exact h
      · refine h.updateUser_left changedUser.firebaseId ?_
        simp [MyDataManager.updateProfileInfoData, UserTitle.account]
    | removeThisuser device firebaseId =>
      simp only [accountAnswer, accountAnswerOk]
      split
      · exact h
      · exact h.updateUser_left firebaseId (by simp [UserTitle.account])
    | getBlockList device edit documentID userId =>
      simp only [accountAnswer, accountAnswerOk]
      split <;> exact h

/-- The calls but `saveProfileInfo`, with what they put in flight. -/
def EditsOnly (c : Config World AccountTask) (e : Event AccountCall Reply) : Prop :=
  Machine.Calls AccountCall.Edits c e ∧ ∀ t ∈ c.pending, t.From AccountCall.Edits

/-- Where the callback of `saveRequest` reads `UserDefaults` again, they name
the account that asked. -/
def AccountTask.StillAsks (w : World) : AccountTask → Prop
  | .roster device (.querySameRequest _ _ _ me) => (w.device device).firebaseId = me
  | _ => True

/-- A task of `MyDataManager` asks for nobody. -/
theorem stillAsks_of_account (h : t.asRoster = none) : t.StillAsks w := by
  cases t with
  | roster device u => cases h
  | _ => trivial

/-- **Whoever asks is still signed in** when the query is answered. -/
def AskerSignedIn (c : Config World AccountTask) : Event AccountCall Reply → Prop
  | .answer i .ok => ∀ t, c.pending[i]? = some t → t.StillAsks c.state
  | _ => True

/-- Such a callback does what it would have done at the call. -/
theorem reread_of_stillAsks {device : ℕ} {u : Task}
    (h : (AccountTask.roster device u).StillAsks w) :
    u.reread (w.device device).firebaseId = u := by
  refine Task.reread_of_same fun i data play me hquery => ?_
  subst hquery
  exact h

/-- **The managers hold the roster**, up to the fields of accounts, where
the askers are still signed in. -/
theorem holds_roster : Holds managers roster (fun c e => EditsOnly c e ∧ AskerSignedIn c e)
    (fun w s => w.server.Agree [] UserTitle.account s) AccountCall.asRoster
    AccountTask.asRoster where
  issue {c s a b w' ts} _ hw hb hi := by
    obtain ⟨device, rfl⟩ := AccountCall.asRoster_eq_some.1 hb
    obtain ⟨-, s₁, ts₁, hissue, rfl, rfl⟩ := accountIssue_roster.1 hi
    obtain ⟨s₂, hissue₂, hagree⟩ := hw.issue hissue
    rw [filterMap_asRoster_map]
    exact ⟨s₂, hissue₂, hagree⟩
  beside {c s a w' ts} he hw ha hi := by
    refine ⟨(filterMap_of_account (asRoster_of_accountIssue ha hi)).1, ?_⟩
    cases a with
    | roster _ b => cases ha
    | saveProfileInfo device user documentID now => exact (he.1.1 _ rfl).elim
    | _ =>
      obtain ⟨rfl, -⟩ := Prod.mk.inj (Option.some.inj hi)
      exact hw
  answer {c s i r t u} he ht hw hu := by
    obtain ⟨device, rfl⟩ := AccountTask.asRoster_eq_some.1 hu
    show (answer s u r).2 = (accountAnswer c.state (.roster device u) r).2.filterMap _ ∧
      (accountAnswer c.state (.roster device u) r).1.server.Agree [] _ (answer s u r).1
    rw [accountAnswer_roster, filterMap_asRoster_map]
    cases r with
    | failed => exact ⟨rfl, hw⟩
    | ok =>
      rw [reread_of_stillAsks (he.2 _ ht)]
      obtain ⟨hagree, htasks⟩ :=
        hw.answerOk List.not_mem_nil (by decide) (by decide) u
      exact ⟨htasks.symm, hagree⟩
  other {c s i r t} he ht hw hu :=
    ⟨(filterMap_of_account (asRoster_of_accountAnswer hu r)).1,
      agree_of_account hu (he.1.2 t (List.mem_of_getElem? ht)) hw r⟩

/-! ## The accounts do not see the roster -/

/-- **Two worlds of the same accounts**: their users differ in
`my_play_list` alone, and each device keeps the same. -/
structure World.SameAccounts (w w' : World) : Prop where
  users : w.server.users.Rel (AgreeOff [.myPlayList]) w'.server.users
  device : w.device = w'.device

namespace World.SameAccounts

/-- A write of `updateData` to a user of both. -/
theorem updateUser (h : w.SameAccounts w') (documentID : String) (data : Fields UserTitle) :
    (w.updateUser documentID data).SameAccounts (w'.updateUser documentID data) where
  users := h.users.modify documentID fun _ _ hd => hd.updateData data
  device := h.device

/-- What a device keeps, changed in both. -/
theorem setDevice (h : w.SameAccounts w') (device : ℕ) {standard standard' : UserDefaults}
    (hs : standard = standard') :
    (w.setDevice device standard).SameAccounts (w'.setDevice device standard') where
  users := h.users
  device := by rw [World.setDevice, World.setDevice, h.device, hs]

/-- **A task of `MyDataManager` keeps the accounts the same**, and puts the
same in flight. -/
theorem accountAnswer (h : w.SameAccounts w') (ht : t.asRoster = none)
    (hfrom : t.From AccountCall.Edits) (r : Reply) :
    (accountAnswer w' t r).2 = (Volleyer.accountAnswer w t r).2 ∧
      (Volleyer.accountAnswer w t r).1.SameAccounts (Volleyer.accountAnswer w' t r).1 := by
  cases r with
  | failed => exact ⟨rfl, h⟩
  | ok =>
    cases t with
    | roster _ u => cases ht
    | queryUserId device user documentID now => exact hfrom.elim
    | updateUser device user => exact (not_from_updateUser hfrom).elim
    | setUser device user documentID now => exact hfrom.elim
    | putData device savePath urlString => exact ⟨rfl, h⟩
    | downloadURL device savePath urlString =>
      simp only [Volleyer.accountAnswer, accountAnswerOk, h.device]
      exact ⟨trivial, h.setDevice device rfl⟩
    | setImage documentID urlString => exact ⟨rfl, h.updateUser documentID _⟩
    | setBlockList documentID blockList => exact ⟨rfl, h.updateUser documentID _⟩
    | updateProfileInfo device changedUser =>
      rcases h.users.get_cases changedUser.firebaseId with ⟨hd, hd'⟩ | ⟨_, _, hd, hd', -⟩ <;>
        simp only [Volleyer.accountAnswer, accountAnswerOk, hd, hd', h.device]
      · exact ⟨trivial, h⟩
      · exact ⟨trivial, (h.updateUser _ _).setDevice device rfl⟩
    | removeThisuser device firebaseId =>
      rcases h.users.get_cases firebaseId with ⟨hd, hd'⟩ | ⟨_, _, hd, hd', -⟩ <;>
        simp only [Volleyer.accountAnswer, accountAnswerOk, hd, hd']
      · exact ⟨trivial, h⟩
      · exact ⟨trivial, (h.updateUser _ _).setDevice device rfl⟩
    | getBlockList device edit documentID userId =>
      rcases h.users.get_cases documentID with ⟨hd, hd'⟩ | ⟨_, _, hd, hd', hagree⟩ <;>
        simp only [Volleyer.accountAnswer, accountAnswerOk, hd, hd']
      · exact ⟨trivial, h⟩
      · rw [hagree.strings (by decide), h.device]
        exact ⟨rfl, h⟩

/-- **A task of the other managers leaves the accounts alone**: of a user
it writes the list of plays. -/
theorem rosterAnswer (h : w.SameAccounts w') (device : ℕ) (u : Task) (r : Reply) :
    (Volleyer.accountAnswer w (.roster device u) r).1.SameAccounts w' := by
  rw [accountAnswer_roster]
  generalize u.reread (w.device device).firebaseId = u
  rcases answer_users w.server u r with hu | ⟨v, l, rfl, hu⟩
  · exact ⟨by rw [hu]; exact h.users, h.device⟩
  · refine ⟨?_, h.device⟩
    rw [hu]
    exact h.users.modify_left v fun _ _ hd => hd.updateData_left (by simp)

end World.SameAccounts

/-- **The managers hold the operations on accounts**, up to the lists of
plays. -/
theorem holds_accounts : Holds managers managers EditsOnly World.SameAccounts
    AccountCall.asAccount AccountTask.asAccount where
  issue {c w₁ a b w' ts} he hw hb hi := by
    obtain ⟨rfl, ha⟩ := AccountCall.asAccount_eq_some.1 hb
    have htasks := filterMap_of_account (asRoster_of_accountIssue ha hi)
    rw [htasks.2]
    cases a with
    | roster _ b => cases ha
    | saveProfileInfo device user documentID now => exact (he.1 _ rfl).elim
    | userDefaults device standard =>
      obtain ⟨rfl, rfl⟩ := Prod.mk.inj (Option.some.inj hi)
      exact ⟨_, rfl, hw.setDevice device rfl⟩
    | saveProfileImage | updateProfileInfo | removeThisuser | addToBlocklist
    | removeFromBlocklist =>
      obtain ⟨rfl, rfl⟩ := Prod.mk.inj (Option.some.inj hi)
      refine ⟨w₁, ?_, hw⟩
      simp only [managers, accountIssue, hw.device]
  beside {c w₁ a w' ts} _ hw ha hi := by
    obtain ⟨device, b, rfl⟩ := AccountCall.asAccount_eq_none.1 ha
    obtain ⟨-, s, us, hissue, rfl, rfl⟩ := accountIssue_roster.1 hi
    obtain ⟨husers, -⟩ := issue_eq hissue
    refine ⟨filterMap_asAccount_map device us, ?_, hw.device⟩
    show s.users.Rel _ _
    rw [husers]
    exact hw.users
  answer {c w₁ i r t u} he ht hw hu := by
    obtain ⟨rfl, hroster⟩ := AccountTask.asAccount_eq_some.1 hu
    have htasks := filterMap_of_account (asRoster_of_accountAnswer (w := c.state) hroster r)
    show (accountAnswer w₁ t r).2 = (accountAnswer c.state t r).2.filterMap _ ∧ _
    rw [htasks.2]
    exact hw.accountAnswer hroster (he.2 t (List.mem_of_getElem? ht)) r
  other {c w₁ i r t} _ _ hw hu := by
    obtain ⟨device, u, rfl⟩ := AccountTask.asAccount_eq_none.1 hu
    refine ⟨?_, hw.rosterAnswer device u r⟩
    show (accountAnswer c.state (.roster device u) r).2.filterMap _ = []
    rw [accountAnswer_roster, filterMap_asAccount_map]

/-! ## Runs -/

/-- **Neither sees the other.** In every run of the managers without
`saveProfileInfo`, whatever overlaps, fails or comes late: the plays, the
requests and the lists of the users are those of a run of the calls on
plays and requests alone, with the same of them in flight, as long as
whoever asks for a play is signed in until the query is answered; and the
rest of the users, with what the devices keep, is that of a run of the
calls on accounts alone. -/
theorem unseen_of_run
    (hrun : managers.Run (Machine.Calls AccountCall.Edits) (Config.start w₀) evs c) :
    (managers.Run AskerSignedIn (Config.start w₀) evs c →
      ∃ evs' c', roster.Run (fun _ _ => True) (Config.start w₀.server) evs' c' ∧
        callsIn evs' = (callsIn evs).filterMap AccountCall.asRoster ∧
        c'.pending = c.pending.filterMap AccountTask.asRoster ∧
        c.state.server.Agree [] UserTitle.account c'.state) ∧
    ∃ evs' c', managers.Run (fun _ _ => True) (Config.start w₀) evs' c' ∧
      callsIn evs' = (callsIn evs).filterMap AccountCall.asAccount ∧
      c'.pending = c.pending.filterMap AccountTask.asAccount ∧ c.state.SameAccounts c'.state := by
  have hediting : managers.Run EditsOnly (Config.start w₀) evs c :=
    hrun.strengthen fun _ _ hr => from_of_run hr
  refine ⟨fun hasked => ?_, ?_⟩
  · have hroster : ∃ evs' c', roster.Run (fun _ _ => True) (Config.start w₀.server) evs' c' ∧
        HoldsAt (fun w s => w.server.Agree [] UserTitle.account s) AccountTask.asRoster c c' ∧
        callsIn evs' = (callsIn evs).filterMap AccountCall.asRoster :=
      holds_roster.run ⟨.refl _ _ _, rfl⟩ (fun _ _ _ => trivial) (fun _ _ _ _ _ => trivial)
        (Machine.Run.and_iff.2 ⟨hediting, hasked⟩)
    obtain ⟨evs', c', hr, hat, hcalls⟩ := hroster
    exact ⟨evs', c', hr, hcalls, hat.pending, hat.state⟩
  · have haccounts : ∃ evs' c', managers.Run (fun _ _ => True) (Config.start w₀) evs' c' ∧
        HoldsAt World.SameAccounts AccountTask.asAccount c c' ∧
        callsIn evs' = (callsIn evs).filterMap AccountCall.asAccount :=
      holds_accounts.run ⟨⟨.refl (AgreeOff.refl _) _, rfl⟩, rfl⟩ (fun _ _ _ => trivial)
        (fun _ _ _ _ _ => trivial) hediting
    obtain ⟨evs', c', hr, hat, hcalls⟩ := haccounts
    exact ⟨evs', c', hr, hcalls, hat.pending, hat.state⟩

namespace Sample

/-- `"f"` with a play, and `"u"`, each on a device. -/
def bothSignedIn : World where
  server := onePlay
  device n := { firebaseId := some (if n = 0 then "f" else "u") }

/-- `"u"` asks for the play while `"f"` blocks her and changes her profile,
and signs out while she is accepted all the same. -/
def askAndSignOut : List (Event AccountCall Reply) :=
  [.call (.roster 1 (.saveRequest (play "p" ["f"]) [] (some "u") "r" ⟨0, 0⟩)),
    .call (.addToBlocklist 0 "u"), .call (.updateProfileInfo 0 renamed), .answer 0 .ok,
    .answer 2 .ok, .call (.roster 0 (.updateRequest (request "r" "u" "p" 0) 99)),
    .call (.userDefaults 1 {}), .answer 2 .ok, .answer 1 .ok, .answer 0 .ok, .answer 0 .ok,
    .answer 0 .ok, .answer 0 .ok, .answer 0 .ok, .answer 0 .ok]

end Sample

/-- What is asked and accepted on one side, a block list, a profile and a
sign-out on the other. -/
theorem unseen_edits : ∃ c,
    managers.exec (Config.start Sample.bothSignedIn) Sample.askAndSignOut = some c ∧
    (∃ evs' c', roster.Run (fun _ _ => True) (Config.start Sample.bothSignedIn.server) evs' c' ∧
      callsIn evs' = [.saveRequest (Sample.play "p" ["f"]) [] (some "u") "r" ⟨0, 0⟩,
        .updateRequest (Sample.request "r" "u" "p" 0) 99] ∧
      c'.pending = [] ∧ c.state.server.Agree [] UserTitle.account c'.state) ∧
    ∃ evs' c', managers.Run (fun _ _ => True) (Config.start Sample.bothSignedIn) evs' c' ∧
      callsIn evs' =
        [.addToBlocklist 0 "u", .updateProfileInfo 0 Sample.renamed, .userDefaults 1 {}] ∧
      c'.pending = [] ∧ c.state.SameAccounts c'.state := by
  have hcalls : ∀ a, .call a ∈ Sample.askAndSignOut → a.Edits := by
    intro a ha
    simp only [Sample.askAndSignOut, List.mem_cons, Event.call.injEq, reduceCtorEq,
      List.not_mem_nil, false_or, or_false] at ha
    rcases ha with rfl | rfl | rfl | rfl | rfl <;> trivial
  have hok : ∀ {c : Config World AccountTask} {i : ℕ} (t : AccountTask), c.pending[i]? = some t →
      t.StillAsks c.state → AskerSignedIn c (.answer i .ok) := fun t ht hasks t' ht' => by
    obtain rfl := Option.some.inj (ht.symm.trans ht')
    exact hasks
  have hrun : managers.Run (Machine.Calls AccountCall.Edits) (Config.start Sample.bothSignedIn)
      Sample.askAndSignOut _ := .of_exec (Machine.admits_calls hcalls) rfl
  have hasked : managers.Run AskerSignedIn (Config.start Sample.bothSignedIn)
      Sample.askAndSignOut _ :=
    .of_exec ⟨trivial, trivial, trivial, hok _ rfl rfl, hok _ rfl trivial, trivial, trivial,
      hok _ rfl trivial, hok _ rfl trivial, hok _ rfl trivial, hok _ rfl trivial,
      hok _ rfl trivial, hok _ rfl trivial, hok _ rfl trivial, hok _ rfl trivial, trivial⟩ rfl
  obtain ⟨hroster, haccounts⟩ := unseen_of_run hrun
  exact ⟨_, rfl, hroster hasked, haccounts⟩

end Volleyer
