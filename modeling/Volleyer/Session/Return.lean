import Volleyer.Session.Steps

/-!
# Coming back

An account that removes itself is kept, with a status. The sign-in finds it
by its Apple id and opens a form with its document, and registering updates
that document: with a user built anew for the form, whose list of plays is
the empty one of a new user. The plays still name the player. Lists and
rosters agree after a return exactly where the player was in no play
(`keepsGames_iff`).
-/

namespace Volleyer

/-- **Lists and rosters agree**: a stored play is in the list of a stored
user exactly where the user is in its roster. -/
def GamesAgree (s : Server) : Prop :=
  ∀ p u, (s.plays.get p).isSome → (s.users.get u).isSome →
    (p ∈ (s.myPlayList u).getD [] ↔ u ∈ (s.playerInfo p).getD [])

/-- **Nothing but a return**: signing in, filling in a form and registering
as the account, and nothing fails. -/
def ComesBack (account : String) (c : Config Session SessionTask) :
    Event SessionCall Reply → Prop
  | .call (.logIn _ _) => True
  | .call (.input _ _) => True
  | .call (.doneInput k _ _) => ∀ form, c.state.profiles[k]? = some form →
      form.thisUser.firebaseId = account
  | .call _ => False
  | .answer _ r => r = .ok

/-- An account that is stored and not removed. -/
def Live (account : String) (s : Server) : Prop :=
  ∃ d, s.users.get account = some d ∧ d.int .status ≠ some (-1)

/-- What is in flight of a return. -/
def SessionTask.Returns (account : String) : SessionTask → Prop
  | .account (.queryUserId _ user _ _) => user.firebaseId = account ∧ user.myPlayList = []
  | .account (.updateUser _ user) => user.firebaseId = account ∧ user.myPlayList = []
  | .account _ => False
  | .queryNewId _ _ => False
  | .queryIdentifier _ _ => True
  | .getProfileData _ _ _ => True

/-- A form to register with has no plays. -/
def InputProfile.NoPlays (form : InputProfile) : Prop :=
  form.changeUserInfoData = none → form.thisUser.myPlayList = []

/-- **What a return has touched**: the account's document, whose list is
empty where it is no longer removed. -/
structure Returning (account : String) (s₀ : Server) (c : Config Session SessionTask) : Prop where
  plays : c.state.world.server.plays = s₀.plays
  others : ∀ u, u ≠ account → c.state.world.server.users.get u = s₀.users.get u
  list : ∀ d, c.state.world.server.users.get account = some d →
    d.int .status = some (-1) ∨ d.strings .myPlayList = some []
  forms : ∀ form ∈ c.state.profiles, form.NoPlays
  tasks : ∀ t ∈ c.pending, t.Returns account

variable {texts : Texts} {account : String} {s s' s₀ : Session} {S₀ : Server}
variable {c c' c₁ : Config Session SessionTask} {e : Event SessionCall Reply}
variable {evs : List (Event SessionCall Reply)} {ts : List SessionTask}

/-! ## One step of a return -/

/-- A form that a sign-in opens has the plays of a new user. -/
theorem noPlays_show (device : ℕ) (credential : AppleIDCredential) (wasVolleyer : Option User) :
    (showInputProfileViewController device credential wasVolleyer).NoPlays := fun _ => rfl

theorem InputProfile.NoPlays.input {form form' : InputProfile} {e : ProfileInput}
    (hform : form.NoPlays) (h : form.input e = some form') : form'.NoPlays := by
  obtain ⟨-, hdata, huser | ⟨level, tag, -, -, huser⟩⟩ := InputProfile.input_eq h
  · intro hnew
    rw [huser]
    exact hform (hdata ▸ hnew)
  · intro hnew
    rw [huser]
    exact hform (hdata ▸ hnew)

/-- **An event of a return** leaves the store, and saves a user with no
plays. -/
theorem returning_handles {a : SessionCall} (hc : Returning account S₀ c)
    (hok : ComesBack account c (.call a)) (h : Handles texts c.state a s' ts) :
    s'.world.server.users = c.state.world.server.users ∧
      s'.world.server.plays = c.state.world.server.plays ∧
      (∀ form ∈ s'.profiles, form.NoPlays) ∧ ∀ t ∈ ts, t.Returns account := by
  refine ⟨h.server.1, h.server.2, ?_⟩
  cases h with
  | logIn =>
    refine ⟨hc.forms, fun t ht => ?_⟩
    obtain rfl := List.mem_singleton.1 ht
    trivial
  | input hform h =>
    refine ⟨forall_mem_set hc.forms _ ?_, fun t ht => absurd ht List.not_mem_nil⟩
    exact (hc.forms _ (List.mem_of_getElem? hform)).input h
  | notDone => exact ⟨hc.forms, fun t ht => absurd ht List.not_mem_nil⟩
  | @doneInput k documentID now form form' hform hnew h hid =>
    obtain ⟨-, rfl⟩ := InputProfile.doneInput_eq_some.1 h
    have hplays := hc.forms _ (List.mem_of_getElem? hform) hnew
    refine ⟨forall_mem_set hc.forms _ fun _ => hplays, fun t ht => ?_⟩
    obtain rfl := List.mem_singleton.1 ht
    exact ⟨hok form hform, hplays⟩
  | _ => exact absurd hok id

/-- **A write to the account's document alone**, of which `P` holds then. -/
structure WritesOnly (account : String) (P : Doc UserTitle → Prop) (S S' : Server) : Prop where
  plays : S'.plays = S.plays
  others : ∀ u, u ≠ account → S'.users.get u = S.users.get u
  account : ∀ d, S'.users.get account = some d → P d

/-- Nothing is written where there is no document. -/
theorem writesOnly_of_none {P : Doc UserTitle → Prop} {S : Server}
    (h : S.users.get account = none) : WritesOnly account P S S := by
  refine ⟨rfl, fun _ _ => rfl, fun d hd => ?_⟩
  rw [h] at hd
  cases hd

theorem writesOnly_updateUser {P : Doc UserTitle → Prop} {S : Server} {data : Fields UserTitle}
    (h : ∀ d : Doc UserTitle, P (d.updateData data)) :
    WritesOnly account P S (S.updateUser account data) := by
  refine ⟨rfl, fun u hu => Collection.get_modify_of_ne _ _ hu, fun d hd => ?_⟩
  rw [Server.updateUser, Collection.get_modify_self, Option.map_eq_some_iff] at hd
  obtain ⟨d₀, -, rfl⟩ := hd
  exact h d₀

/-- **A registration of the account** writes the empty list of a new user. -/
theorem writesOnly_register {w : World} (device : ℕ) {user : User}
    (hid : user.firebaseId = account) (hplays : user.myPlayList = []) :
    WritesOnly account (fun d => d.strings .myPlayList = some []) w.server
      (accountAnswerOk w (.updateUser device user)).1.server := by
  subst hid
  simp only [accountAnswerOk]
  split
  · exact writesOnly_of_none ‹_›
  · refine writesOnly_updateUser fun d => ?_
    rw [Doc.strings, Doc.updateData_of_lookup_eq_some rfl, hplays]
    rfl

/-- **A removal** writes the status. -/
theorem writesOnly_remove (w : World) (device : ℕ) (account : String) :
    WritesOnly account (fun d => d.int .status = some (-1)) w.server
      (accountAnswerOk w (.removeThisuser device account)).1.server := by
  simp only [accountAnswerOk]
  split
  · exact writesOnly_of_none ‹_›
  · refine writesOnly_updateUser fun d => ?_
    rw [Doc.int_updateData, if_pos rfl]
    rfl

/-- **A step that writes to the account's document alone.** -/
theorem Returning.of_write {t : AccountTask} {P : Doc UserTitle → Prop} {past : List Session}
    {l : List SessionTask} (hplays : s.world.server.plays = S₀.plays)
    (hothers : ∀ u, u ≠ account → s.world.server.users.get u = S₀.users.get u)
    (hwrite : WritesOnly account P s.world.server (accountAnswerOk s.world t).1.server)
    (hP : ∀ d, P d → d.int .status = some (-1) ∨ d.strings .myPlayList = some [])
    (hforms : ∀ form ∈ (sessionAnswerOk s (.account t)).1.profiles, form.NoPlays)
    (htasks : ∀ t ∈ l, t.Returns account) :
    Returning account S₀ ⟨(sessionAnswerOk s (.account t)).1, past, l⟩ := by
  have hserver := server_sessionAnswerOk_account s t
  refine ⟨?_, fun u hu => ?_, fun d hd => ?_, hforms, htasks⟩
  · rw [hserver, hwrite.plays, hplays]
  · rw [hserver, hwrite.others u hu, hothers u hu]
  · rw [hserver] at hd
    exact hP d (hwrite.account d hd)

/-- **A step of a return.** -/
theorem Returning.step (haccount : account ≠ "") (hc : Returning account S₀ c)
    (hok : ComesBack account c e) (hs : (session texts).step c e = some c') :
    Returning account S₀ c' := by
  rcases Machine.step_cases hs with ⟨a, s, ts, rfl, hi, rfl⟩ | ⟨n, r, t, rfl, ht, rfl⟩
  · obtain ⟨husers, hplays, hforms, htasks⟩ := returning_handles hc hok (handles_of_issue hi)
    refine ⟨hplays.trans hc.plays, fun u hu => ?_, fun d hd => ?_, hforms, fun t ht => ?_⟩
    · exact (congrArg (·.get u) husers).trans (hc.others u hu)
    · exact hc.list d ((congrArg (·.get account) husers).symm.trans hd)
    · exact (List.mem_append.1 ht).elim (hc.tasks t) (htasks t)
  · obtain rfl : r = .ok := hok
    have hforms := forall_profiles_sessionAnswerOk hc.forms noPlays_show t
    have hreturns := hc.tasks t (List.mem_of_getElem? ht)
    -- what else is in flight is as before
    have htasks : (∀ t' ∈ (sessionAnswerOk c.state t).2, t'.Returns account) →
        ∀ t' ∈ c.pending.eraseIdx n ++ (sessionAnswerOk c.state t).2, t'.Returns account := by
      intro hnew t' ht'
      rcases Machine.mem_eraseIdx_append ht' with ht' | ht'
      · exact hc.tasks t' ht'
      · exact hnew t' ht'
    -- and so is the store, where nothing was written
    have hkept : (sessionAnswerOk c.state t).1.world.server = c.state.world.server →
        (∀ t' ∈ (sessionAnswerOk c.state t).2, t'.Returns account) →
        Returning account S₀ ⟨(sessionAnswerOk c.state t).1, c.seen,
          c.pending.eraseIdx n ++ (sessionAnswerOk c.state t).2⟩ := by
      intro hserver hnew
      refine ⟨?_, fun u hu => ?_, fun d hd => ?_, hforms, htasks hnew⟩
      · rw [hserver, hc.plays]
      · rw [hserver, hc.others u hu]
      · rw [hserver] at hd
        exact hc.list d hd
    cases t with
    | queryNewId => exact hreturns.elim
    | queryIdentifier device credential =>
      refine hkept (server_sessionAnswerOk fun u hu => by cases hu) ?_
      simp only [sessionAnswerOk]
      split
      · intro t' ht'
        obtain rfl := List.mem_singleton.1 ht'
        trivial
      · exact fun t' ht' => absurd ht' List.not_mem_nil
    | getProfileData device appleUserId completion =>
      exact hkept (server_sessionAnswerOk fun u hu => by cases hu)
        fun t' ht' => absurd ht' List.not_mem_nil
    | account t =>
      cases t with
      | queryUserId device user documentID now =>
        -- the user has the account's id, so a document is updated and none stored
        obtain ⟨hid, hplays⟩ := hreturns
        have hback : user.firebaseId ≠ "" := hid ▸ haccount
        refine hkept ?_ ?_
        · rw [world_sessionAnswerOk_account]
          simp only [accountAnswerOk]
          split_ifs <;> rfl
        · simp only [sessionAnswerOk, accountAnswerOk, if_pos hback]
          split
          · exact fun t' ht' => absurd ht' List.not_mem_nil
          · intro t' ht'
            obtain rfl := List.mem_singleton.1 ht'
            exact ⟨hid, hplays⟩
      | updateUser device user =>
        obtain ⟨hid, hlist⟩ := hreturns
        have hwrite : WritesOnly account _ c.state.world.server _ :=
          writesOnly_register device hid hlist
        have hnone : (sessionAnswerOk c.state (.account (.updateUser device user))).2 = [] := by
          simp only [sessionAnswerOk, accountAnswerOk]
          split <;> rfl
        refine Returning.of_write hc.plays hc.others hwrite (fun _ => Or.inr) hforms (htasks ?_)
        rw [hnone]
        exact fun t' ht' => absurd ht' List.not_mem_nil
      | _ => exact hreturns.elim

/-! ## The removal and the return -/

/-- **A removal** marks the account's document and leaves every other one. -/
theorem returning_of_removal {k : ℕ} {form : InputProfile}
    {ok : Config Session SessionTask → Event SessionCall Reply → Prop}
    (hforms : ∀ form ∈ s₀.profiles, form.changeUserInfoData.isSome)
    (hform : s₀.profiles[k]? = some form)
    (hrun : (session texts).Run ok (Config.start s₀) [.call (.deleteAccount k), .answer 0 .ok] c₁) :
    Returning form.thisUser.firebaseId s₀.world.server c₁ := by
  obtain ⟨c, -, hs, hrest⟩ := hrun.cons_inv
  obtain ⟨s, ts, hi, rfl⟩ := Machine.step_call.1 hs
  obtain ⟨c', -, hs', hnil⟩ := hrest.cons_inv
  obtain rfl := hnil.unique (.nil : (session texts).Run ok c' [] c')
  obtain ⟨t, ht, rfl⟩ := Machine.step_answer.1 hs'
  have hissue : sessionIssue texts s₀ (.deleteAccount k) = some (s, ts) := hi
  cases handles_of_issue hissue with
  | @deleteAccount _ form' hform' hchange =>
    obtain rfl := Option.some.inj (hform.symm.trans hform')
    obtain rfl := Option.some.inj ht
    -- every form in memory changes a profile; none registers a new one
    have hnoPlays : ∀ form' ∈ (s₀.loginViewController form.device).profiles, form'.NoPlays := by
      intro form' hform' hnew
      have hsome := hforms form' hform'
      rw [hnew] at hsome
      cases hsome
    have hnone : (sessionAnswerOk (s₀.loginViewController form.device)
        (.account (.removeThisuser form.device form.thisUser.firebaseId))).2 = [] := by
      simp only [sessionAnswerOk, accountAnswerOk]
      split <;> rfl
    refine Returning.of_write rfl (fun _ _ => rfl) (writesOnly_remove _ _ _) (fun _ => Or.inl)
      (forall_profiles_sessionAnswerOk hnoPlays noPlays_show _) fun t ht => ?_
    have hmem : t ∈ (sessionAnswerOk (s₀.loginViewController form.device)
        (.account (.removeThisuser form.device form.thisUser.firebaseId))).2 := ht
    rw [hnone] at hmem
    cases hmem

/-- **Coming back keeps the games** exactly where there were none: no stored
play has the account in its roster. -/
theorem keepsGames_iff {k : ℕ} {form : InputProfile}
    {ok : Config Session SessionTask → Event SessionCall Reply → Prop}
    (hagree : GamesAgree s₀.world.server)
    (hforms : ∀ form ∈ s₀.profiles, form.changeUserInfoData.isSome)
    (hform : s₀.profiles[k]? = some form) (haccount : form.thisUser.firebaseId ≠ "")
    (hremove :
      (session texts).Run ok (Config.start s₀) [.call (.deleteAccount k), .answer 0 .ok] c₁)
    (hreturn : (session texts).Run (ComesBack form.thisUser.firebaseId) c₁ evs c)
    (hlive : Live form.thisUser.firebaseId c.state.world.server) :
    GamesAgree c.state.world.server ↔ ∀ p, (s₀.world.server.plays.get p).isSome →
      form.thisUser.firebaseId ∉ (s₀.world.server.playerInfo p).getD [] := by
  have hback : Returning form.thisUser.firebaseId s₀.world.server c :=
    hreturn.invariant (returning_of_removal hforms hform hremove)
      fun _ _ _ hc hok hs => hc.step haccount hok hs
  obtain ⟨d, hd, hstatus⟩ := hlive
  have hempty : c.state.world.server.myPlayList form.thisUser.firebaseId = some [] := by
    rw [Server.myPlayList, hd]
    exact (hback.list d hd).resolve_left hstatus
  have hroster : ∀ p, c.state.world.server.playerInfo p = s₀.world.server.playerInfo p := by
    intro p
    rw [Server.playerInfo, Server.playerInfo, hback.plays]
  constructor
  · -- a roster that names the account disagrees with its empty list
    intro h p hp hmem
    rw [← hroster p] at hmem
    rw [← hback.plays] at hp
    have hlist := (h p _ hp (by rw [hd, Option.isSome_some])).2 hmem
    rw [hempty] at hlist
    cases hlist
  · intro h p u hp hu
    rw [hback.plays] at hp
    rw [hroster p]
    rcases eq_or_ne u form.thisUser.firebaseId with rfl | hne
    · rw [hempty]
      exact ⟨fun hmem => absurd hmem List.not_mem_nil, fun hmem => absurd hmem (h p hp)⟩
    · have hsame := hback.others u hne
      rw [hsame] at hu
      rw [Server.myPlayList, hsame]
      exact hagree p u hp hu

namespace Sample

/-- The player `"u"` with a list of plays, a play `"p"` with a roster, and
the form of `"u"`'s profile. -/
def member (myPlayList playerInfo : List String) : Session where
  world :=
    { server :=
        { users := ⟨[("u", Doc.setData [(.id, .string "v"), (.userIdentifier, .string "apple"),
            (.myPlayList, .strings myPlayList), (.status, .int 0)])], by simp⟩
          plays := ⟨[("p", Doc.setData [(.playerInfo, .strings playerInfo)])], by simp⟩
          requests := .empty
          allocated := [] }
      device := fun _ => {} }
  window _ := []
  profiles :=
    [{ device := 0
       thisUser := { firebaseId := "u", id := "v", email := "email", gender := 0, name := "name" }
       changeUserInfoData := some
        { firebaseId := "u", id := "v", email := "email", gender := 0, name := "name" } }]
  plays := []

/-- The removal. -/
def remove : List (Event SessionCall Reply) := [.call (.deleteAccount 0), .answer 0 .ok]

/-- The sign-in. -/
def logIn : List (Event SessionCall Reply) :=
  [.call (.logIn 0 { user := "apple" }), .answer 0 .ok, .answer 0 .ok]

/-- The registration. -/
def register : List (Event SessionCall Reply) :=
  [.call (.doneInput 1 "d" ⟨0, 0⟩), .answer 0 .ok, .answer 0 .ok]

/-- The lists agree where the roster has the player and the list the play,
or neither. -/
theorem gamesAgree_member {myPlayList playerInfo : List String}
    (h : "p" ∈ myPlayList ↔ "u" ∈ playerInfo) :
    GamesAgree (member myPlayList playerInfo).world.server := by
  intro p u hp hu
  obtain rfl := List.mem_singleton.1 (Collection.isSome_get_iff.1 hp)
  obtain rfl := List.mem_singleton.1 (Collection.isSome_get_iff.1 hu)
  have hlist : (member myPlayList playerInfo).world.server.myPlayList "u" = some myPlayList :=
    Value.asStrings_strings myPlayList
  have hroster : (member myPlayList playerInfo).world.server.playerInfo "p" = some playerInfo :=
    Value.asStrings_strings playerInfo
  rw [hlist, hroster]
  exact h

/-- The profile of the member is open, and no registration. -/
theorem isSome_member {myPlayList playerInfo : List String} :
    ∀ form ∈ (member myPlayList playerInfo).profiles, form.changeUserInfoData.isSome := by
  intro form hform
  obtain rfl := List.mem_singleton.1 hform
  rfl

/-- Where the member has left. -/
def removed (myPlayList playerInfo : List String) : Session :=
  (sessionAnswerOk ((member myPlayList playerInfo).loginViewController 0)
    (.account (.removeThisuser 0 "u"))).1

/-- The form that the sign-in opens. -/
def emptyForm : InputProfile :=
  showInputProfileViewController 0 { user := "apple" } (some (decodeUser "u" (Doc.setData [])))

/-- The form, filled in. -/
def backForm : InputProfile := (fillIn.foldlM InputProfile.input emptyForm).getD emptyForm

theorem run_logIn {myPlayList playerInfo : List String} {past : List Session} : ∃ s past',
    (session plainTexts).Run (ComesBack "u") ⟨removed myPlayList playerInfo, past, []⟩ logIn
      ⟨s, past', []⟩ ∧
    s.world.server = (removed myPlayList playerInfo).world.server ∧
    s.profiles = (member myPlayList playerInfo).profiles ++ [emptyForm] :=
  ⟨_, _, .of_exec ⟨trivial, rfl, rfl, trivial⟩ rfl, rfl, rfl⟩

theorem run_register {myPlayList playerInfo : List String} {s : Session} {past : List Session}
    (hserver : s.world.server = (removed myPlayList playerInfo).world.server)
    (hforms : s.profiles = (member myPlayList playerInfo).profiles ++ [backForm]) : ∃ c,
    (session plainTexts).Run (ComesBack "u") ⟨s, past, []⟩ register c ∧
      Live "u" c.state.world.server ∧ c.state.world.server.myPlayList "u" = some [] ∧
      c.state.world.server.playerInfo "p" = some playerInfo ∧
      (c.state.world.server.plays.get "p").isSome := by
  obtain ⟨⟨server, device⟩, window, profiles, plays⟩ := s
  obtain rfl := hserver
  obtain rfl := hforms
  refine ⟨_, .of_exec ⟨?_, rfl, rfl, trivial⟩ rfl, ⟨_, rfl, ?_⟩, rfl, ?_, rfl⟩
  · rintro _ ⟨⟩
    rfl
  · rintro ⟨⟩
  · exact Value.asStrings_strings playerInfo

/-- **The member leaves and comes back**, to an empty list. -/
theorem run_member (myPlayList playerInfo : List String) : ∃ c₁ evs c,
    (session plainTexts).Run (fun _ _ => True) (Config.start (member myPlayList playerInfo)) remove
      c₁ ∧
    (session plainTexts).Run (ComesBack "u") c₁ evs c ∧ Live "u" c.state.world.server ∧
    c.state.world.server.myPlayList "u" = some [] ∧
    c.state.world.server.playerInfo "p" = some playerInfo ∧
    (c.state.world.server.plays.get "p").isSome := by
  have hremove : (session plainTexts).Run (fun _ _ => True)
      (Config.start (member myPlayList playerInfo)) remove ⟨removed myPlayList playerInfo, _, []⟩ :=
    .of_exec ⟨trivial, trivial, trivial⟩ rfl
  obtain ⟨s, past, hlogIn, hserver, hforms⟩ := run_logIn
  have hform : s.profiles[1]? = some emptyForm := by
    rw [hforms]
    rfl
  obtain ⟨past', hfill⟩ := run_inputs (ComesBack "u") (fun _ _ => trivial) hform
    (rfl : fillIn.foldlM InputProfile.input emptyForm = some backForm)
  obtain ⟨c, hregister, hlive⟩ := run_register (s := s.setProfile 1 backForm) hserver (by
    rw [Session.setProfile, hforms]
    rfl)
  exact ⟨_, _, c, hremove, (hlogIn.append hfill).append hregister, hlive⟩

end Sample

theorem keepsGames_comeBack : ∃ (evs : List (Event SessionCall Reply))
    (c₁ c : Config Session SessionTask),
    (session Sample.plainTexts).Run (fun _ _ => True) (Config.start (Sample.member [] ["f"]))
      Sample.remove c₁ ∧
    (session Sample.plainTexts).Run (ComesBack "u") c₁ evs c ∧ GamesAgree c.state.world.server := by
  obtain ⟨c₁, evs, c, hremove, hreturn, hlive, -⟩ := Sample.run_member [] ["f"]
  refine ⟨evs, c₁, c, hremove, hreturn,
    (keepsGames_iff ?_ Sample.isSome_member rfl ?_ hremove hreturn hlive).2 ?_⟩
  · exact Sample.gamesAgree_member (by decide)
  · decide
  · intro p hp
    obtain rfl := List.mem_singleton.1 (Collection.isSome_get_iff.1 hp)
    decide

/-- **A player of a play comes back to an empty list.** -/
theorem not_keepsGames : ¬∀ (texts : Texts) (s₀ : Session) (k : ℕ) (form : InputProfile)
    (evs : List (Event SessionCall Reply)) (c₁ c : Config Session SessionTask),
    GamesAgree s₀.world.server → (∀ form ∈ s₀.profiles, form.changeUserInfoData.isSome) →
    s₀.profiles[k]? = some form → form.thisUser.firebaseId ≠ "" →
    (session texts).Run (fun _ _ => True) (Config.start s₀)
      [.call (.deleteAccount k), .answer 0 .ok] c₁ →
    (session texts).Run (ComesBack form.thisUser.firebaseId) c₁ evs c →
    Live form.thisUser.firebaseId c.state.world.server → GamesAgree c.state.world.server := by
  intro h
  obtain ⟨c₁, evs, c, hremove, hreturn, hlive, hlist, hroster, hplay⟩ :=
    Sample.run_member ["p"] ["u"]
  have hagree := h _ _ 0 _ _ _ _ (Sample.gamesAgree_member (by decide)) Sample.isSome_member rfl
    (by decide) hremove hreturn hlive
  obtain ⟨d, hd, -⟩ := hlive
  have hiff := hagree "p" "u" hplay (by rw [hd, Option.isSome_some])
  rw [hlist, hroster] at hiff
  exact absurd hiff (by decide)

end Volleyer
