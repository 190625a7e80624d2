import Volleyer.Common.Distinct
import Volleyer.Session.Steps

/-!
# Accounts stay unique

An id is asked for before a user document is written with it, by a
registration and by a change of profile, and the write follows in a later
step; the Apple id is asked for when somebody signs in, long before. Both
stay unique where what a write carries is neither stored in another document
nor on its way to one when the write is put in flight
(`accountsUnique_of_run`). Two taps on the done button whose queries are
answered before either write are two accounts of one person
(`not_accountsUnique`).
-/

namespace Volleyer

/-- A text of a stored user document. -/
def Session.userString (f : UserTitle) (s : Session) (documentID : String) : Option String :=
  (s.world.server.users.get documentID).bind (·.string f)

/-- The text a task in flight is about to write to a user document. -/
def SessionTask.gives (f : UserTitle) : SessionTask → Option (String × String)
  | .account t => t.writesUser.bind fun p => ((Doc.setData p.2).string f).map fun k => (p.1, k)
  | _ => none

/-- **The accounts are unique**: no two user documents share an id, and no
two share an Apple id that is not empty. -/
structure AccountsUnique (s : Session) : Prop where
  id : ∀ i j k, s.userString .id i = some k → s.userString .id j = some k → i = j
  userIdentifier : ∀ i j k, k ≠ "" → s.userString .userIdentifier i = some k →
    s.userString .userIdentifier j = some k → i = j

/-- **An id is somebody else's**: another user document stores it, or a write
in flight gives it to another one. The same of an Apple id. -/
abbrev Elsewhere (f : UserTitle) (c : Config Session SessionTask) (documentID k : String) : Prop :=
  Taken (Session.userString f) (SessionTask.gives f) c documentID k

/-- **Accounts are written alone**: where a query lets a registration
through, its id and its Apple id are nobody else's; where a change of profile
goes on to its write, with a query or without one, the id in the form is
nobody else's. -/
def RegistersAlone (texts : Texts) (c : Config Session SessionTask) :
    Event SessionCall Reply → Prop
  | .call (.changeUserInfo k) => ∀ form, c.state.profiles[k]? = some form →
      (c.state.world.device form.device).id.any (texts.same form.idTextField) →
      ¬Elsewhere .id c form.thisUser.firebaseId form.idTextField
  | .call _ => True
  | .answer n .ok =>
      (∀ device user documentID now,
        c.pending[n]? = some (.account (.queryUserId device user documentID now)) →
        c.state.usersWithId user.id = [] →
        let written := if user.firebaseId ≠ "" then user.firebaseId else documentID
        ¬Elsewhere .id c written user.id ∧
          (user.userIdentifier ≠ "" → ¬Elsewhere .userIdentifier c written user.userIdentifier)) ∧
      ∀ k id form, c.pending[n]? = some (.queryNewId k id) → c.state.usersWithId id = [] →
        c.state.profiles[k]? = some form →
        ¬Elsewhere .id c form.thisUser.firebaseId form.thisUser.id
  | .answer _ .failed => True

variable {texts : Texts} {s s' s₀ : Session} {c : Config Session SessionTask}
variable {ts : List SessionTask} {f : UserTitle} {evs : List (Event SessionCall Reply)}

/-! ## Ids and Apple ids as keys -/

/-- An empty Apple id is none. -/
def Counts (f : UserTitle) (k : String) : Prop := f = .userIdentifier → k ≠ ""

instance (f : UserTitle) (k : String) : Decidable (Counts f k) :=
  inferInstanceAs (Decidable (_ → _))

/-- The key of a user document. -/
def Session.key (f : UserTitle) (s : Session) (documentID : String) : Option String :=
  (s.userString f documentID).filter fun k => Counts f k

/-- The key a task in flight names. -/
def SessionTask.names (f : UserTitle) (t : SessionTask) : Option (String × String) :=
  (t.gives f).filter fun p => Counts f p.2

theorem key_eq_some {i k : String} :
    s.key f i = some k ↔ s.userString f i = some k ∧ Counts f k := by
  rw [Session.key, Option.filter_eq_some_iff, decide_eq_true_eq]

theorem names_eq_some {t : SessionTask} {i k : String} :
    t.names f = some (i, k) ↔ t.gives f = some (i, k) ∧ Counts f k := by
  rw [SessionTask.names, Option.filter_eq_some_iff, decide_eq_true_eq]

/-- The unique accounts, key by key. -/
theorem accountsUnique_iff : AccountsUnique s ↔ ∀ f, f = .id ∨ f = .userIdentifier →
    ∀ i j k, s.key f i = some k → s.key f j = some k → i = j := by
  simp only [key_eq_some]
  constructor
  · rintro h f (rfl | rfl) i j k ⟨hi, hk⟩ ⟨hj, -⟩
    · exact h.id i j k hi hj
    · exact h.userIdentifier i j k (hk rfl) hi hj
  · intro h
    -- an id counts whatever it is, an Apple id where it is not empty
    have hcounts : ∀ k, Counts .id k := fun k hid => by cases hid
    refine ⟨fun i j k hi hj => ?_, fun i j k hk hi hj => ?_⟩
    · exact h .id (Or.inl rfl) i j k ⟨hi, hcounts k⟩ ⟨hj, hcounts k⟩
    · exact h .userIdentifier (Or.inr rfl) i j k ⟨hi, fun _ => hk⟩ ⟨hj, fun _ => hk⟩

/-- **A document comes by a text** from the task that gives it. -/
theorem userString_of_sessionAnswerOk {t : SessionTask} {i k : String}
    (h : (sessionAnswerOk s t).1.userString f i = some k) :
    s.userString f i = some k ∨ t.gives f = some (i, k) := by
  obtain ⟨d, hd, hk⟩ := Option.bind_eq_some_iff.1 h
  rcases field_of_sessionAnswerOk hd f with ⟨d₀, hd₀, hf⟩ | ⟨u, data, rfl, hu, hf, -⟩
  · left
    rw [Doc.string, hf] at hk
    exact Option.bind_eq_some_iff.2 ⟨d₀, hd₀, hk⟩
  · right
    rw [Doc.string, hf] at hk
    exact Option.bind_eq_some_iff.2 ⟨_, hu, Option.map_eq_some_iff.2 ⟨k, hk, rfl⟩⟩

/-- An event writes no text. -/
theorem userString_of_handles {a : SessionCall} (h : Handles texts s a s' ts) (i : String) :
    s'.userString f i = s.userString f i := by
  rw [Session.userString, Session.userString, h.server.1]

/-- What is put in flight gives a text to no document, or one that is nobody
else's. -/
theorem namesFree_of_gives (h : (∀ t ∈ ts, t.gives f = none) ∨ ∃ t, ts = [t] ∧
    ∀ i k, t.gives f = some (i, k) → Counts f k → ¬Elsewhere f c i k) :
    NamesFree (Session.key f) (SessionTask.names f) c ts := by
  rcases h with h | ⟨t, rfl, h⟩
  · refine .of_none fun t ht => ?_
    rw [SessionTask.names, h t ht]
    rfl
  · refine .singleton fun {i k} hn => ?_
    obtain ⟨hgives, hk⟩ := names_eq_some.1 hn
    refine fun htaken => h i k hgives hk ?_
    rcases htaken with ⟨j, hne, hj⟩ | ⟨t', ht', j, hne, hn'⟩
    · exact Or.inl ⟨j, hne, (key_eq_some.1 hj).1⟩
    · exact Or.inr ⟨t', ht', j, hne, (names_eq_some.1 hn').1⟩

/-! ## What is put in flight -/

/-- The tasks of the other managers give no user a name. -/
theorem gives_rosterTasks (hf : f = .id ∨ f = .userIdentifier) {device : ℕ} {us : List Task} :
    ∀ t ∈ rosterTasks device us, t.gives f = none := by
  intro t ht
  obtain ⟨u, -, rfl⟩ := List.mem_map.1 ht
  rcases hf with rfl | rfl <;> cases u <;> rfl

/-- **What an event gives**: only a change that keeps the cached id writes at
once. -/
theorem gives_of_handles (hf : f = .id ∨ f = .userIdentifier) {a : SessionCall}
    (hok : RegistersAlone texts c (.call a)) (h : Handles texts c.state a s' ts) :
    (∀ t ∈ ts, t.gives f = none) ∨ ∃ t, ts = [t] ∧
      ∀ i k, t.gives f = some (i, k) → Counts f k → ¬Elsewhere f c i k := by
  cases h with
  | @changeSameId k form form' hform hchange h hid =>
    right
    obtain ⟨-, rfl⟩ := InputProfile.changeUserInfo_eq_some.1 h
    refine ⟨_, rfl, fun i k hgives _ => ?_⟩
    rcases hf with rfl | rfl
    · obtain ⟨rfl, rfl⟩ := Prod.mk.inj (Option.some.inj hgives)
      exact hok form hform hid
    · cases hgives
  | savePlay | updatePlay | deletePost => exact Or.inl (gives_rosterTasks hf)
  | launchLogin | logout | pushToInputProfile | input | notDone | notChanged | pushToEstablish |
    editPlay | inputPlay | notAdded => exact Or.inl fun t ht => absurd ht List.not_mem_nil
  | launch | logIn | doneInput | changeNewId =>
    left
    intro t ht
    obtain rfl := List.mem_singleton.1 ht
    rfl
  | deleteAccount =>
    left
    intro t ht
    obtain rfl := List.mem_singleton.1 ht
    rcases hf with rfl | rfl <;> rfl

/-- A write that registers a user gives no text of somebody else. -/
theorem not_elsewhere_of_gives (hf : f = .id ∨ f = .userIdentifier) {t : SessionTask}
    {written : String} {user : User} (hgives : t.gives .id = some (written, user.id))
    (hgives' : t.gives .userIdentifier = some (written, user.userIdentifier))
    (hid : ¬Elsewhere .id c written user.id)
    (hidentifier : user.userIdentifier ≠ "" →
      ¬Elsewhere .userIdentifier c written user.userIdentifier) {i k : String}
    (h : t.gives f = some (i, k)) (hk : Counts f k) : ¬Elsewhere f c i k := by
  rcases hf with rfl | rfl
  · obtain ⟨rfl, rfl⟩ := Prod.mk.inj (Option.some.inj (hgives.symm.trans h))
    exact hid
  · obtain ⟨rfl, rfl⟩ := Prod.mk.inj (Option.some.inj (hgives'.symm.trans h))
    exact hidentifier (hk rfl)

/-- **What an answer gives**: a query that lets a registration or a change
through is followed by its write. -/
theorem gives_of_answer (hf : f = .id ∨ f = .userIdentifier) {n : ℕ} {t : SessionTask}
    (hok : RegistersAlone texts c (.answer n .ok)) (ht : c.pending[n]? = some t) :
    (∀ t' ∈ (sessionAnswerOk c.state t).2, t'.gives f = none) ∨
      ∃ t', (sessionAnswerOk c.state t).2 = [t'] ∧
        ∀ i k, t'.gives f = some (i, k) → Counts f k → ¬Elsewhere f c i k := by
  have hnil : ∀ t' ∈ ([] : List SessionTask), t'.gives f = none :=
    fun t' ht' => absurd ht' List.not_mem_nil
  cases t with
  | getProfileData => exact Or.inl hnil
  | queryIdentifier device credential =>
    left
    simp only [sessionAnswerOk]
    split
    · intro t' ht'
      obtain rfl := List.mem_singleton.1 ht'
      rfl
    · exact hnil
  | queryNewId k id =>
    simp only [sessionAnswerOk]
    split
    · exact Or.inl hnil
    · rename_i hfree
      have hnone : c.state.usersWithId id = [] := List.length_eq_zero_iff.1 (by omega)
      cases hform : c.state.profiles[k]? with
      | none => exact Or.inl hnil
      | some form =>
        right
        refine ⟨_, rfl, fun i k' hgives _ => ?_⟩
        rcases hf with rfl | rfl
        · obtain ⟨rfl, rfl⟩ := Prod.mk.inj (Option.some.inj hgives)
          exact hok.2 k id form ht hnone hform
        · cases hgives
  | account t =>
    cases t with
    | queryUserId device user documentID now =>
      simp only [sessionAnswerOk, accountAnswerOk]
      split
      · exact Or.inl hnil
      · rename_i htaken
        have hnone : c.state.usersWithId user.id = [] :=
          List.length_eq_zero_iff.1 (Nat.eq_zero_of_not_pos htaken)
        obtain ⟨hid, hidentifier⟩ := hok.1 device user documentID now ht hnone
        right
        -- whether the user comes back or is new, one document is written
        split_ifs at hid hidentifier ⊢
        · exact ⟨_, rfl, fun i k => not_elsewhere_of_gives hf rfl rfl hid hidentifier⟩
        · exact ⟨_, rfl, fun i k => not_elsewhere_of_gives hf rfl rfl hid hidentifier⟩
    | roster device t =>
      left
      intro t' ht'
      have hmem : t' ∈ rosterTasks device (answerOk c.state.world.server
          (t.reread (c.state.world.device device).firebaseId)).2 := by
        simpa [sessionAnswerOk, accountAnswerOk, rosterTasks] using ht'
      exact gives_rosterTasks hf t' hmem
    | getBlockList device edit documentID userId =>
      left
      simp only [sessionAnswerOk, accountAnswerOk]
      split
      · exact hnil
      · intro t' ht'
        obtain ⟨u, hu, rfl⟩ := List.mem_map.1 ht'
        obtain ⟨v, -, rfl⟩ := List.mem_map.1 hu
        rcases hf with rfl | rfl <;> rfl
    | putData | downloadURL =>
      left
      intro t' ht'
      obtain rfl := List.mem_singleton.1 ht'
      rcases hf with rfl | rfl <;> rfl
    | updateUser | updateProfileInfo | removeThisuser =>
      left
      simp only [sessionAnswerOk, accountAnswerOk]
      split <;> exact hnil
    | setUser | setImage | setBlockList => exact Or.inl hnil

/-- **The screens name users by id and Apple id**, and what is written alone
is free. -/
theorem names_session (hf : f = .id ∨ f = .userIdentifier) :
    Names (Session.key f) (SessionTask.names f) (session texts) (RegistersAlone texts) where
  call {c a s ts} hok hi := by
    have hhandles := handles_of_issue hi
    refine ⟨fun {i k} hk => ?_, namesFree_of_gives (gives_of_handles hf hok hhandles)⟩
    rwa [Session.key, userString_of_handles hhandles] at hk
  answer {c n r t} hok ht := by
    cases r with
    | failed => exact ⟨Or.inl, .of_none fun _ ht' => absurd ht' List.not_mem_nil⟩
    | ok =>
      refine ⟨fun {i k} hk => ?_, namesFree_of_gives (gives_of_answer hf hok ht)⟩
      obtain ⟨hstring, hcounts⟩ := key_eq_some.1 hk
      rcases userString_of_sessionAnswerOk hstring with hold | hgives
      · exact Or.inl (key_eq_some.2 ⟨hold, hcounts⟩)
      · exact Or.inr (names_eq_some.2 ⟨hgives, hcounts⟩)

/-- **The accounts stay unique** in every state of a run whose accounts are
written alone. -/
theorem accountsUnique_of_run (h₀ : AccountsUnique s₀)
    (hrun : (session texts).Run (RegistersAlone texts) (Config.start s₀) evs c) :
    ∀ s ∈ c.seen, AccountsUnique s := by
  intro s hs
  refine accountsUnique_iff.2 fun f hf i j k hi hj => ?_
  exact (names_session hf).forall_seen hrun (accountsUnique_iff.1 h₀ f hf _ _ _) s hs i j k hi hj

namespace Sample

/-- A registration form of an Apple id, filled in with an id. -/
def filledForm (device : ℕ) (userIdentifier id : String) : InputProfile where
  device := device
  idTextField := id
  nameTextField := "name"
  emailTextField := "email"
  genderTextField := "男"
  thisUser :=
    { id := "", email := "", gender := -1, name := ""
      userIdentifier := userIdentifier
      level := ⟨0, 0, 0, 0, 0⟩ }

/-- Nobody is registered yet, and some forms are filled in. -/
def registering (profiles : List InputProfile) : Session where
  world := { server := ⟨.empty, .empty, .empty, []⟩, device := fun _ => {} }
  window _ := []
  profiles := profiles
  plays := []

theorem accountsUnique_registering (profiles : List InputProfile) :
    AccountsUnique (registering profiles) :=
  ⟨nofun, nofun⟩

/-- Two people want the same id: the first is registered, and the second is
refused. -/
def registerInTurn : List (Event SessionCall Reply) :=
  [.call (.doneInput 0 "d" ⟨0, 0⟩), .answer 0 .ok, .answer 0 .ok,
    .call (.doneInput 1 "e" ⟨0, 0⟩), .answer 0 .ok]

/-- The done button is tapped twice, and both queries are answered first. -/
def registerTwice : List (Event SessionCall Reply) :=
  [.call (.doneInput 0 "d" ⟨0, 0⟩), .call (.doneInput 0 "e" ⟨0, 0⟩), .answer 0 .ok,
    .answer 0 .ok, .answer 0 .ok, .answer 0 .ok]

end Sample

theorem accountsUnique_registerInTurn : ∃ c, (session Sample.plainTexts).Run
    (RegistersAlone Sample.plainTexts)
      (Config.start (Sample.registering [Sample.filledForm 0 "a" "v", Sample.filledForm 1 "b" "v"]))
      Sample.registerInTurn c ∧ ∀ s ∈ c.seen, AccountsUnique s := by
  have hrun : (session Sample.plainTexts).Run (RegistersAlone Sample.plainTexts)
      (Config.start (Sample.registering [Sample.filledForm 0 "a" "v", Sample.filledForm 1 "b" "v"]))
      Sample.registerInTurn _ :=
    .of_exec ⟨trivial, ⟨?_, ?_⟩, ⟨?_, ?_⟩, trivial, ⟨?_, ?_⟩, trivial⟩ rfl
  · exact ⟨_, hrun, accountsUnique_of_run (Sample.accountsUnique_registering _) hrun⟩
  -- the first query: nothing is stored or in flight
  · rintro _ _ _ _ ⟨⟩ -
    constructor
    · rintro (⟨_, -, h⟩ | ⟨t, ht, _, -, h⟩)
      · cases h
      · obtain rfl := List.mem_singleton.1 ht
        cases h
    · rintro - (⟨_, -, h⟩ | ⟨t, ht, _, -, h⟩)
      · cases h
      · obtain rfl := List.mem_singleton.1 ht
        cases h
  · rintro _ _ _ ⟨⟩
  · rintro _ _ _ _ ⟨⟩
  · rintro _ _ _ ⟨⟩
  -- the second query finds the first account
  · rintro _ _ _ _ ⟨⟩ hnone
    exact absurd hnone (by decide)
  · rintro _ _ _ ⟨⟩

/-- **Two registrations that are let through together are both stored.** -/
theorem not_accountsUnique : ¬∀ (texts : Texts) (s₀ : Session)
    (evs : List (Event SessionCall Reply)) (c : Config Session SessionTask), AccountsUnique s₀ →
    (session texts).Run (fun _ _ => True) (Config.start s₀) evs c →
    ∀ s ∈ c.seen, AccountsUnique s := by
  intro h
  have hrun : (session Sample.plainTexts).Run (fun _ _ => True)
      (Config.start (Sample.registering [Sample.filledForm 0 "a" "v"])) Sample.registerTwice _ :=
    .of_exec ⟨trivial, trivial, trivial, trivial, trivial, trivial, trivial⟩ rfl
  have hunique := h _ _ _ _ (Sample.accountsUnique_registering _) hrun _ List.mem_cons_self
  exact absurd (hunique.id "d" "e" "v" rfl rfl) (by decide)

end Volleyer
