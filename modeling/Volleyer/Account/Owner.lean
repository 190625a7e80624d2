import Volleyer.Account.Agree
import Volleyer.Common.Labelled
import Volleyer.Roster.Sample

/-!
# Whose documents an operation touches

`saveProfileImage`, `addToBlocklist` and `removeFromBlocklist` start with
the account `UserDefaults` name, and read `UserDefaults` again in a later
callback, to choose the document they write. Where these still name the
account the operation started with, it touches that account alone
(`touchesOnly_iff`); where another account has signed in meanwhile, the
image of the first is stored for the second, and so is its block list.
-/

namespace Volleyer

/-- The account a device is signed in as, or what a caller takes for it. -/
def World.account (w : World) (device : ℕ) (fallback : String) : String :=
  (w.device device).firebaseId.getD fallback

/-- **The operations of an account**: the three that read `UserDefaults`
again, where these name the account when the operation starts. -/
def startedBy (account : String) (w : World) : AccountCall → Bool
  | .saveProfileImage device _ => w.account device "user_default_error" = account
  | .addToBlocklist device _ => w.account device "no my id" = account
  | .removeFromBlocklist device _ => w.account device "no my id" = account
  | _ => false

/-- The user document a write of the three operations goes to. -/
def AccountTask.written : AccountTask → Option String
  | .setImage documentID _ => some documentID
  | .setBlockList documentID _ => some documentID
  | _ => none

/-- The documents the callbacks of an account's operations go on to write. -/
def operationWrites (c : Config World (Bool × AccountTask)) :
    Event AccountCall Reply → List String
  | .call _ => []
  | .answer i r => match c.pending[i]? with
    | some (true, t) => (accountAnswer c.state t r).2.filterMap AccountTask.written
    | _ => []

/-- **An account's operations touch its document alone**: they write no
other, and what is stored for the other users is what the run without them
stores. -/
structure TouchesOnly (account : String) (w₀ : World) (evs : List (Event AccountCall Reply))
    (w : World) : Prop where
  writes : ∀ documentID ∈ (managers.labelled (startedBy account)).observed operationWrites
    (Config.start w₀) evs, documentID = account
  others : ∃ c', managers.Run (fun _ _ => True) (Config.start w₀)
      (managers.without (startedBy account) (Config.start w₀) evs) c' ∧
    ∀ user, user ≠ account → ∀ f ∈ ([.image, .blockList] : List UserTitle),
      (w.server.users.get user).bind (· f) = (c'.state.server.users.get user).bind (· f)

/-- Where a callback reads `UserDefaults` again and goes on to write, they
name the account. -/
def AccountTask.StillNames (account : String) (w : World) : AccountTask → Prop
  | .downloadURL device _ _ => w.account device "user_default_error" = account
  | .getBlockList device edit documentID userId => ∀ document,
      w.server.users.get documentID = some document →
      MyDataManager.blockListToWrite edit userId (document.strings .blockList) ≠ none →
      w.account device "no my id" = account
  | _ => True

/-- **The account is still signed in** wherever an operation of its own
reads `UserDefaults` again. -/
def StillSignedIn (account : String) (c : Config World (Bool × AccountTask)) :
    Event AccountCall Reply → Prop
  | .answer i .ok => ∀ t, c.pending[i]? = some (true, t) → t.StillNames account c.state
  | _ => True

/-- What is in flight of an account's operations. -/
def AccountTask.Own (account : String) : AccountTask → Prop
  | .putData _ _ _ => True
  | .downloadURL _ _ _ => True
  | .setImage documentID _ => documentID = account
  | .getBlockList _ _ _ _ => True
  | .setBlockList documentID _ => documentID = account
  | _ => False

/-- What is in flight of other operations: no read of the account's block
list. -/
def AccountTask.Other (account : String) : AccountTask → Prop
  | .getBlockList _ _ documentID _ => documentID ≠ account
  | _ => True

variable {account : String} {w w' w₀ w₁ : World} {evs : List (Event AccountCall Reply)}
variable {c : Config World (Bool × AccountTask)}

/-! ## Worlds that agree but for an account's image and block list -/

/-- **Worlds that differ in an account's image and block list**, and in the
image each device keeps. -/
structure World.AgreeFor (account : String) (w w' : World) : Prop where
  server : w.server.Agree [] [.image, .blockList] w'.server
  others : ∀ user, user ≠ account → w.server.users.get user = w'.server.users.get user
  device : ∀ device, { w.device device with image := none } =
    { w'.device device with image := none }

namespace World.AgreeFor

theorem refl (account : String) (w : World) : w.AgreeFor account w :=
  ⟨.refl _ _ _, fun _ _ => rfl, fun _ => rfl⟩

theorem firebaseId_eq (h : w.AgreeFor account w') (device : ℕ) :
    (w.device device).firebaseId = (w'.device device).firebaseId := by
  have hid := congrArg UserDefaults.firebaseId (h.device device)
  exact hid

theorem account_eq (h : w.AgreeFor account w') (device : ℕ) (fallback : String) :
    w.account device fallback = w'.account device fallback := by
  rw [World.account, World.account, h.firebaseId_eq]

/-- Both write the same to a user document. -/
theorem updateUser (h : w.AgreeFor account w') (documentID : String) (data : Fields UserTitle) :
    (w.updateUser documentID data).AgreeFor account (w'.updateUser documentID data) where
  server := h.server.updateUser documentID data
  others user hu := by
    simp only [World.updateUser, Server.updateUser]
    rcases eq_or_ne user documentID with rfl | hne
    · rw [Collection.get_modify_self, Collection.get_modify_self, h.others user hu]
    · rw [Collection.get_modify_of_ne _ _ hne, Collection.get_modify_of_ne _ _ hne,
        h.others user hu]
  device := h.device

/-- Both store a user document. -/
theorem setUser (h : w.AgreeFor account w') (documentID : String) (d : Doc UserTitle) :
    World.AgreeFor account { w with server.users := w.server.users.set documentID d }
      { w' with server.users := w'.server.users.set documentID d } where
  server := { h.server with users := h.server.users.set documentID (.refl _ d) }
  others user hu := by
    simp only [Collection.get_set, h.others user hu]
  device := h.device

/-- One writes the image or the block list of the account. -/
theorem updateUser_left (h : w.AgreeFor account w') {data : Fields UserTitle}
    (hdata : data.map Prod.fst ⊆ [.image, .blockList]) :
    (w.updateUser account data).AgreeFor account w' where
  server := h.server.updateUser_left account hdata
  others user hu := by
    simp only [World.updateUser, Server.updateUser]
    rw [Collection.get_modify_of_ne _ _ hu, h.others user hu]
  device := h.device

/-- Both write what differs in the image alone to a device. -/
theorem setDevice (h : w.AgreeFor account w') (device : ℕ) {standard standard' : UserDefaults}
    (hs : { standard with image := none } = { standard' with image := none }) :
    (w.setDevice device standard).AgreeFor account (w'.setDevice device standard') where
  server := h.server
  others := h.others
  device d := by
    by_cases hd : d = device
    · subst hd
      simpa only [World.setDevice, Function.update_self] using hs
    · simpa only [World.setDevice, Function.update_of_ne hd] using h.device d

/-- One writes its image to a device. -/
theorem setDevice_left (h : w.AgreeFor account w') (device : ℕ) (image : Option String) :
    (w.setDevice device { w.device device with image := image }).AgreeFor account w' where
  server := h.server
  others := h.others
  device d := by
    by_cases hd : d = device
    · subst hd
      simpa only [World.setDevice, Function.update_self] using h.device d
    · simpa only [World.setDevice, Function.update_of_ne hd] using h.device d

/-- What `saveUserDefault` leaves on a device, with an identifier. -/
theorem saveUserDefault (h : w.AgreeFor account w') (device : ℕ) (user : User) :
    MyDataManager.saveUserDefault (w.device device) user =
      MyDataManager.saveUserDefault (w'.device device) user := by
  have hid := congrArg UserDefaults.userIdentifier (h.device device)
  simp only at hid
  simp only [MyDataManager.saveUserDefault, hid]

/-- What a call issues is the same where the call is no operation of the
account. -/
theorem accountIssue (h : w.AgreeFor account w') {a : AccountCall} {ts : List AccountTask}
    (hi : accountIssue w a = some (w₁, ts)) :
    ∃ w₁', Volleyer.accountIssue w' a = some (w₁', ts) ∧ w₁.AgreeFor account w₁' := by
  cases a with
  | roster device a =>
    obtain ⟨hasked, s₁, ts₁, hissue, rfl, rfl⟩ := accountIssue_roster.1 hi
    obtain ⟨s₁', hissue', hagree⟩ := h.server.issue hissue
    rw [h.firebaseId_eq] at hasked
    refine ⟨_, accountIssue_roster.2 ⟨hasked, s₁', ts₁, hissue', rfl, rfl⟩, hagree,
      fun user hu => ?_, h.device⟩
    simp only
    rw [(issue_eq hissue).1, (issue_eq hissue').1, h.others user hu]
  | userDefaults device standard =>
    obtain ⟨rfl, rfl⟩ := Prod.mk.inj (Option.some.inj hi)
    exact ⟨_, rfl, h.setDevice device rfl⟩
  | saveProfileInfo d user documentID now =>
    obtain ⟨hnew, heq⟩ := Option.ite_none_left_eq_some.1 hi
    obtain ⟨rfl, rfl⟩ := Prod.mk.inj (Option.some.inj heq)
    have hnew' : documentID ∉ w'.server.allocated := h.server.allocated ▸ hnew
    exact ⟨_, Option.ite_none_left_eq_some.2 ⟨hnew', rfl⟩,
      { h.server with allocated := congrArg (List.cons _) h.server.allocated }, h.others, h.device⟩
  | saveProfileImage device urlString =>
    obtain ⟨rfl, rfl⟩ := Prod.mk.inj (Option.some.inj hi)
    have hid := h.account_eq device "user_default_error"
    unfold World.account at hid
    refine ⟨w', ?_, h⟩
    simp only [Volleyer.accountIssue, hid]
  | addToBlocklist device userId | removeFromBlocklist device userId =>
    obtain ⟨rfl, rfl⟩ := Prod.mk.inj (Option.some.inj hi)
    have hid := h.account_eq device "no my id"
    unfold World.account at hid
    refine ⟨w', ?_, h⟩
    simp only [Volleyer.accountIssue, hid]
  | updateProfileInfo | removeThisuser =>
    obtain ⟨rfl, rfl⟩ := Prod.mk.inj (Option.some.inj hi)
    exact ⟨w', rfl, h⟩

/-- **An answer of another operation** does the same to both. -/
theorem accountAnswerOk (h : w.AgreeFor account w') {t : AccountTask} (ht : t.Other account) :
    (accountAnswerOk w t).1.AgreeFor account (accountAnswerOk w' t).1 ∧
      (Volleyer.accountAnswerOk w' t).2 = (Volleyer.accountAnswerOk w t).2 := by
  cases t with
  | roster device t =>
    simp only [Volleyer.accountAnswerOk, ← h.firebaseId_eq device]
    generalize t.reread (w.device device).firebaseId = t
    obtain ⟨hserver, htasks⟩ := h.server.answerOk List.not_mem_nil (by decide) (by decide) t
    refine ⟨⟨hserver, fun user hu => ?_, h.device⟩,
      (congrArg (List.map (AccountTask.roster device)) htasks).symm⟩
    rcases answer_users w.server t .ok with hsame | ⟨u, l, rfl, -⟩
    · rcases answer_users w'.server t .ok with hsame' | ⟨u, l, rfl, -⟩
      · rw [answer_ok] at hsame hsame'
        rw [hsame, hsame', h.others user hu]
      · exact (h.updateUser u [(.myPlayList, .strings l)]).others user hu
    · exact (h.updateUser u [(.myPlayList, .strings l)]).others user hu
  | queryUserId d user documentID now =>
    -- the query reads ids, which the owner's operations leave
    have hlength :
        (w.server.users.query fun document => document.string .id == some user.id).length =
          (w'.server.users.query fun document => document.string .id == some user.id).length :=
      (h.server.users.query fun _ _ hd => by rw [hd.string (by decide)]).length_eq
    simp only [Volleyer.accountAnswerOk, hlength]
    split_ifs
    · exact ⟨h, rfl⟩
    · exact ⟨h, rfl⟩
    · exact ⟨h, rfl⟩
  | updateUser d user =>
    rcases h.server.users.get_cases user.firebaseId with ⟨hd, hd'⟩ | ⟨_, _, hd, hd', -⟩ <;>
      simp only [Volleyer.accountAnswerOk, hd, hd']
    · exact ⟨h, trivial⟩
    · refine ⟨(h.updateUser user.firebaseId _).setDevice d ?_, trivial⟩
      rw [h.saveUserDefault]
  | setUser d user documentID now =>
    refine ⟨(h.setUser documentID _).setDevice d ?_, rfl⟩
    rw [h.saveUserDefault]
  | putData d savePath urlString => exact ⟨h, rfl⟩
  | downloadURL d savePath urlString =>
    have hid := h.account_eq d "user_default_error"
    unfold World.account at hid
    simp only [Volleyer.accountAnswerOk, hid]
    have hdevice := congrArg (fun s : UserDefaults => { s with image := none }) (h.device d)
    exact ⟨h.setDevice d hdevice, trivial⟩
  | setImage documentID urlString => exact ⟨h.updateUser documentID _, rfl⟩
  | updateProfileInfo d changedUser =>
    rcases h.server.users.get_cases changedUser.firebaseId with ⟨hd, hd'⟩ | ⟨_, _, hd, hd', -⟩ <;>
      simp only [Volleyer.accountAnswerOk, hd, hd']
    · exact ⟨h, trivial⟩
    · refine ⟨(h.updateUser changedUser.firebaseId _).setDevice d ?_, trivial⟩
      rw [h.saveUserDefault]
  | removeThisuser d firebaseId =>
    rcases h.server.users.get_cases firebaseId with ⟨hd, hd'⟩ | ⟨_, _, hd, hd', -⟩ <;>
      simp only [Volleyer.accountAnswerOk, hd, hd']
    · exact ⟨h, trivial⟩
    · exact ⟨(h.updateUser firebaseId _).setDevice d rfl, trivial⟩
  | getBlockList d edit documentID userId =>
    have hid := h.account_eq d "no my id"
    unfold World.account at hid
    -- the block list read is another account's
    have hget := h.others documentID ht
    cases hd : w.server.users.get documentID with
    | none =>
      simp only [Volleyer.accountAnswerOk, ← hget, hd]
      exact ⟨h, trivial⟩
    | some document =>
      simp only [Volleyer.accountAnswerOk, ← hget, hd, hid]
      exact ⟨h, trivial⟩
  | setBlockList documentID blockList => exact ⟨h.updateUser documentID _, rfl⟩

end World.AgreeFor

/-! ## The run without an account's operations -/

/-- What an operation of the account starts with. -/
theorem own_of_startedBy {a : AccountCall} {ts : List AccountTask}
    (ha : startedBy account w a = true) (hi : accountIssue w a = some (w₁, ts)) :
    w₁ = w ∧ ∀ t ∈ ts, t.Own account := by
  cases a with
  | saveProfileImage | addToBlocklist | removeFromBlocklist =>
    obtain ⟨rfl, rfl⟩ := Prod.mk.inj (Option.some.inj hi)
    refine ⟨rfl, fun t ht => ?_⟩
    obtain rfl := List.mem_singleton.1 ht
    trivial
  | _ => cases ha

/-- What another call starts with. -/
theorem other_of_not_startedBy {a : AccountCall} {ts : List AccountTask}
    (ha : startedBy account w a = false) (hi : accountIssue w a = some (w₁, ts)) :
    ∀ t ∈ ts, t.Other account := by
  cases a with
  | roster device a =>
    obtain ⟨-, s₁, ts₁, -, rfl, rfl⟩ := accountIssue_roster.1 hi
    intro t ht
    obtain ⟨t', -, rfl⟩ := List.mem_map.1 ht
    trivial
  | saveProfileInfo d user documentID now =>
    obtain ⟨-, heq⟩ := Option.ite_none_left_eq_some.1 hi
    obtain ⟨rfl, rfl⟩ := Prod.mk.inj (Option.some.inj heq)
    intro t ht
    obtain rfl := List.mem_singleton.1 ht
    trivial
  | addToBlocklist device userId | removeFromBlocklist device userId =>
    obtain ⟨rfl, rfl⟩ := Prod.mk.inj (Option.some.inj hi)
    intro t ht
    obtain rfl := List.mem_singleton.1 ht
    exact of_decide_eq_false ha
  | userDefaults =>
    obtain ⟨rfl, rfl⟩ := Prod.mk.inj (Option.some.inj hi)
    exact fun t ht => absurd ht List.not_mem_nil
  | saveProfileImage | updateProfileInfo | removeThisuser =>
    obtain ⟨rfl, rfl⟩ := Prod.mk.inj (Option.some.inj hi)
    intro t ht
    obtain rfl := List.mem_singleton.1 ht
    trivial

/-- No callback starts the read of a block list. -/
theorem other_of_answer (w : World) (t : AccountTask) (r : Reply) :
    ∀ t' ∈ (accountAnswer w t r).2, t'.Other account := by
  intro t' ht'
  cases t' with
  | getBlockList device edit documentID userId =>
    exfalso
    cases r with
    | failed => cases ht'
    | ok =>
      cases t with
      | roster device t =>
        obtain ⟨t₁, -, heq⟩ := List.mem_map.1 ht'
        cases heq
      | getBlockList device' edit' documentID' userId' =>
        simp only [accountAnswer, accountAnswerOk] at ht'
        split at ht'
        · cases ht'
        · obtain ⟨v, -, heq⟩ := List.mem_map.1 ht'
          cases heq
      | _ =>
        simp only [accountAnswer, accountAnswerOk] at ht'
        repeat' split at ht'
        all_goals simp at ht'
  | _ => trivial

/-- The block list a callback goes on to write. -/
theorem mem_answer_getBlockList {device : ℕ} {edit : BlockEdit} {documentID userId : String}
    {t : AccountTask}
    (ht : t ∈ (accountAnswerOk w (.getBlockList device edit documentID userId)).2) :
    ∃ document v, w.server.users.get documentID = some document ∧
      MyDataManager.blockListToWrite edit userId (document.strings .blockList) = some v ∧
      t = .setBlockList (w.account device "no my id") v := by
  cases hd : w.server.users.get documentID with
  | none =>
    simp only [accountAnswerOk, hd] at ht
    cases ht
  | some document =>
    simp only [accountAnswerOk, hd] at ht
    obtain ⟨v, hv, rfl⟩ := List.mem_map.1 ht
    exact ⟨document, v, rfl, Option.mem_toList.1 hv, rfl⟩

/-- **A callback of the account's operations** does nothing the other users
see, and goes on with the account where `UserDefaults` still name it. -/
theorem ownAnswer (h : w.AgreeFor account w') {t : AccountTask} (ht : t.Own account)
    (hnames : t.StillNames account w) :
    (accountAnswerOk w t).1.AgreeFor account w' ∧
      ∀ t' ∈ (accountAnswerOk w t).2, t'.Own account := by
  cases t with
  | putData device savePath urlString =>
    refine ⟨h, fun t' ht' => ?_⟩
    obtain rfl := List.mem_singleton.1 ht'
    trivial
  | downloadURL device savePath urlString =>
    refine ⟨h.setDevice_left device _, fun t' ht' => ?_⟩
    obtain rfl := List.mem_singleton.1 ht'
    exact hnames
  | setImage documentID urlString =>
    obtain rfl : documentID = account := ht
    exact ⟨h.updateUser_left (by simp), fun _ ht' => absurd ht' List.not_mem_nil⟩
  | getBlockList device edit documentID userId =>
    constructor
    · cases hd : w.server.users.get documentID with
      | none =>
        simp only [accountAnswerOk, hd]
        exact h
      | some document =>
        simp only [accountAnswerOk, hd]
        exact h
    · intro t' ht'
      obtain ⟨document, v, hd, hv, rfl⟩ := mem_answer_getBlockList ht'
      exact hnames document hd (by rw [hv]; exact Option.some_ne_none v)
  | setBlockList documentID blockList =>
    obtain rfl : documentID = account := ht
    exact ⟨h.updateUser_left (by simp), fun _ ht' => absurd ht' List.not_mem_nil⟩
  | _ => exact ht.elim

/-- **Nothing but the account's image and block list shows its operations**
where it is still signed in. -/
theorem unnoticed (account : String) :
    Unnoticed managers (startedBy account) (StillSignedIn account) (World.AgreeFor account)
      (AccountTask.Own account) (AccountTask.Other account) where
  call ha h hi := ⟨h.accountIssue hi, other_of_not_startedBy ha hi⟩
  ownCall ha h hi := by
    obtain ⟨rfl, hown⟩ := own_of_startedBy ha hi
    exact ⟨h, hown⟩
  answer r ht h := by
    refine ⟨?_, ?_, other_of_answer _ _ r⟩
    · cases r with
      | ok => exact (h.accountAnswerOk ht).1
      | failed => exact h
    · cases r with
      | ok => exact (h.accountAnswerOk ht).2
      | failed => rfl
  ownAnswer {c s' i r t} hok hp ht h := by
    cases r with
    | ok => exact ownAnswer h ht (hok t hp)
    | failed => exact ⟨h, fun _ ht' => absurd ht' List.not_mem_nil⟩

/-- The documents an admitted callback goes on to write. -/
theorem operationWrites_eq {e : Event AccountCall Reply} (he : StillSignedIn account c e)
    (hown : ∀ t, (true, t) ∈ c.pending → t.Own account) :
    ∀ documentID ∈ operationWrites c e, documentID = account := by
  intro documentID hmem
  cases e with
  | call a => cases hmem
  | answer i r =>
    simp only [operationWrites] at hmem
    split at hmem
    · rename_i t ht
      obtain ⟨t', ht', hwritten⟩ := List.mem_filterMap.1 hmem
      cases r with
      | failed => cases ht'
      | ok =>
        have hnext := (ownAnswer (.refl account c.state) (hown t (List.mem_of_getElem? ht))
          (he t ht)).2 t' ht'
        cases t' with
        | setImage documentID' urlString =>
          obtain rfl := Option.some.inj hwritten
          exact hnext
        | setBlockList documentID' blockList =>
          obtain rfl := Option.some.inj hwritten
          exact hnext
        | _ => cases hwritten
    · cases hmem

/-- And an event whose callback writes the account's document alone is
admitted. -/
theorem stillSignedIn_of_writes {e : Event AccountCall Reply}
    (h : ∀ documentID ∈ operationWrites c e, documentID = account) : StillSignedIn account c e := by
  cases e with
  | call a => trivial
  | answer i r =>
    cases r with
    | failed => trivial
    | ok =>
      intro t ht
      have hwrites : ∀ t' ∈ (accountAnswerOk c.state t).2, ∀ documentID,
          t'.written = some documentID → documentID = account := by
        intro t' ht' documentID hwritten
        refine h documentID ?_
        simp only [operationWrites, ht]
        exact List.mem_filterMap.2 ⟨t', ht', hwritten⟩
      cases t with
      | downloadURL device savePath urlString =>
        exact hwrites _ (List.mem_singleton_self _) _ rfl
      | getBlockList device edit documentID userId =>
        intro document hd hne
        obtain ⟨v, hv⟩ := Option.ne_none_iff_exists'.1 hne
        refine hwrites (.setBlockList (c.state.account device "no my id") v) ?_ _ rfl
        simp only [accountAnswerOk, hd, hv]
        exact List.mem_singleton_self _
      | _ => trivial

/-- The same of the labelled runs. -/
theorem touchesOnly_labelled
    (hrun : (managers.labelled (startedBy account)).Run (fun _ _ => True) (Config.start w₀) evs c) :
    TouchesOnly account w₀ evs c.state ↔
      (managers.labelled (startedBy account)).Run (StillSignedIn account) (Config.start w₀)
        evs c := by
  constructor
  · rintro ⟨hwrites, -⟩
    induction hrun with
    | nil => exact .nil
    | snoc hr _ hs ih =>
      rw [hr.observed_snoc operationWrites hs] at hwrites
      refine .snoc (ih fun d hd => hwrites d (List.mem_append_left _ hd)) ?_ hs
      exact stillSignedIn_of_writes fun d hd => hwrites d (List.mem_append_right _ hd)
  · intro h
    have hstart : Unnoticed.Beside (World.AgreeFor account) (AccountTask.Own account)
        (AccountTask.Other account) (Config.start w₀) (Config.start w₀) :=
      ⟨.refl account w₀, rfl, fun _ ht => absurd ht List.not_mem_nil,
        fun _ ht => absurd ht List.not_mem_nil⟩
    constructor
    · clear hrun
      induction h with
      | nil => exact fun _ hd => absurd hd List.not_mem_nil
      | snoc hr he hs ih =>
        rw [hr.observed_snoc operationWrites hs]
        intro documentID hmem
        rcases List.mem_append.1 hmem with hmem | hmem
        · exact ih documentID hmem
        · obtain ⟨c', -, hbeside⟩ := (unnoticed account).run hstart hr
          exact operationWrites_eq he hbeside.own documentID hmem
    · obtain ⟨c', hr, hbeside⟩ := (unnoticed account).run hstart h
      refine ⟨c', hr, fun user hu f _ => ?_⟩
      rw [hbeside.state.others user hu]

/-- **An account's operations touch its document alone exactly where the
account is still signed in** whenever one of them reads `UserDefaults`
again and goes on to write. -/
theorem touchesOnly_iff {c : Config World AccountTask}
    (hrun : managers.Run (fun _ _ => True) (Config.start w₀) evs c) :
    TouchesOnly account w₀ evs c.state ↔
      ∃ c', (managers.labelled (startedBy account)).Run (StillSignedIn account) (Config.start w₀)
        evs c' := by
  obtain ⟨c', hlabelled, rfl⟩ :=
    Machine.Run.labelled (startedBy account) (Config.start w₀) hrun
  rw [touchesOnly_labelled hlabelled]
  constructor
  · exact fun h => ⟨c', h⟩
  · rintro ⟨c₁, h⟩
    rwa [hlabelled.unique h]

namespace Sample

/-- Two accounts, and a device signed in as the first. -/
def twoAccounts : World where
  server := ⟨users [("a", []), ("b", [])] (by simp), .empty, .empty, []⟩
  device _ := { firebaseId := some "a" }

/-- `"a"` logs out and `"b"` signs in. -/
def switch : List (Event AccountCall Reply) :=
  [.call (.userDefaults 0 MyDataManager.deleteUserDefault),
    .call (.userDefaults 0 { firebaseId := some "b" })]

/-- The image of `"a"` is saved, and the account switched while it is being
written. -/
def saveImage : List (Event AccountCall Reply) :=
  [.call (.saveProfileImage 0 "url"), .answer 0 .ok, .answer 0 .ok] ++ switch ++ [.answer 0 .ok]

/-- The same, but the account is switched before the url comes. -/
def saveImageOfOther : List (Event AccountCall Reply) :=
  [.call (.saveProfileImage 0 "url"), .answer 0 .ok] ++ switch ++ [.answer 0 .ok, .answer 0 .ok]

end Sample

theorem touchesOnly_saveImage : ∃ c,
    managers.Run (fun _ _ => True) (Config.start Sample.twoAccounts) Sample.saveImage c ∧
    TouchesOnly "a" Sample.twoAccounts Sample.saveImage c.state := by
  have hrun : managers.Run (fun _ _ => True) (Config.start Sample.twoAccounts)
      Sample.saveImage _ :=
    .of_exec ⟨trivial, trivial, trivial, trivial, trivial, trivial, trivial⟩ rfl
  refine ⟨_, hrun, (touchesOnly_iff hrun).2 ⟨_, .of_exec ⟨trivial, ?_, ?_, trivial, trivial, ?_,
    trivial⟩ rfl⟩⟩
  -- the upload, the url and the write are answered
  · rintro t ht
    obtain rfl := (Prod.mk.inj (Option.some.inj ht)).2
    trivial
  · rintro t ht
    obtain rfl := (Prod.mk.inj (Option.some.inj ht)).2
    rfl
  · rintro t ht
    obtain rfl := (Prod.mk.inj (Option.some.inj ht)).2
    trivial

/-- **An account that signs in meanwhile is given the image.** -/
theorem not_touchesOnly : ¬∀ (account : String) (w₀ : World)
    (evs : List (Event AccountCall Reply)) (c : Config World AccountTask),
    managers.Run (fun _ _ => True) (Config.start w₀) evs c →
    TouchesOnly account w₀ evs c.state := by
  intro h
  have hrun : managers.Run (fun _ _ => True) (Config.start Sample.twoAccounts)
      Sample.saveImageOfOther _ :=
    .of_exec ⟨trivial, trivial, trivial, trivial, trivial, trivial, trivial⟩ rfl
  obtain ⟨-, c', hr, hothers⟩ := h "a" _ _ _ hrun
  have hwithout : managers.Run (fun _ _ => True) (Config.start Sample.twoAccounts)
      (managers.without (startedBy "a") (Config.start Sample.twoAccounts)
        Sample.saveImageOfOther) _ :=
    .of_exec ⟨trivial, trivial, trivial⟩ rfl
  obtain rfl := hr.unique hwithout
  have himage := hothers "b" (by decide) .image (by decide)
  cases himage

end Volleyer
