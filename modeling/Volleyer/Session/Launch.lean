import Volleyer.Session.Model

/-!
# The launch

A launch with no stored Apple id shows the login. With one it asks for the
account, and the completion of `getProfileData` shows the tab bar: once for
each document that matches, whatever its status says, and never where the
query fails or answers nothing. The login asks whether there is an account
and whether it was removed; the launch does not (`endsWell_iff`).
-/

namespace Volleyer

/-- **A launch that ends well**: one controller was made the window's root,
and where it is the tab bar, `UserDefaults` name an account of the stored
Apple id that was not removed. -/
structure EndsWell (s : Session) (device : ℕ) : Prop where
  once : ∃ root, s.window device ≠ [] ∧ ∀ controller ∈ s.window device, controller = root
  live : ∀ serial, .tabBarViewController serial ∈ s.window device →
    ∃ userIdentifier firebaseId document,
      (s.world.device device).userIdentifier = some userIdentifier ∧
      (s.world.device device).firebaseId = some firebaseId ∧
      s.world.server.users.get firebaseId = some document ∧
      document.string .userIdentifier = some userIdentifier ∧
      document.int .status ≠ some (-1)

variable {texts : Texts} {s s₀ : Session} {device : ℕ} {document : String × Doc UserTitle}
variable {documents : List (String × Doc UserTitle)} {c c' : Config Session SessionTask}
variable {evs : List (Event SessionCall Reply)}

/-! ## The completion of a launch -/

theorem world_didGetProfile_launch :
    (didGetProfile device none s document).world =
      s.world.setDevice device (MyDataManager.saveUserDefault (s.world.device device)
        (decodeUser document.1 document.2)) := rfl

/-- **The completion makes a new tab bar the root**, twice. -/
theorem window_didGetProfile_launch :
    (didGetProfile device none s document).window device =
      s.window device ++ [.tabBarViewController (s.window device).length,
        .tabBarViewController (s.window device).length] := by
  simp [didGetProfile, Session.launchTabBar, Session.tabBarViewController, Session.setRoot,
    Session.setDevice]

/-- What was assigned stays assigned. -/
theorem mem_window_foldl {controller : RootViewController} (h : controller ∈ s.window device) :
    controller ∈ (documents.foldl (didGetProfile device none) s).window device := by
  induction documents generalizing s with
  | nil => exact h
  | cons document documents ih =>
    refine ih ?_
    rw [window_didGetProfile_launch]
    exact List.mem_append_left _ h

/-- Two documents are two tab bars. -/
theorem two_tabBars (document document' : String × Doc UserTitle)
    (documents : List (String × Doc UserTitle)) (hwindow : s.window device = []) :
    .tabBarViewController 0 ∈
        ((document :: document' :: documents).foldl (didGetProfile device none) s).window device ∧
      .tabBarViewController 2 ∈
        ((document :: document' :: documents).foldl (didGetProfile device none) s).window
          device := by
  have hfirst : (didGetProfile device none s document).window device =
      [.tabBarViewController 0, .tabBarViewController 0] := by
    rw [window_didGetProfile_launch, hwindow]
    rfl
  have hsecond : (didGetProfile device none (didGetProfile device none s document)
      document').window device = [.tabBarViewController 0, .tabBarViewController 0,
        .tabBarViewController 2, .tabBarViewController 2] := by
    rw [window_didGetProfile_launch, hfirst]
    rfl
  rw [List.foldl_cons, List.foldl_cons]
  constructor
  · refine mem_window_foldl ?_
    rw [hsecond]
    exact List.mem_cons_self
  · refine mem_window_foldl ?_
    rw [hsecond]
    simp

/-! ## The launch -/

/-- **A launch with an answered query** ends well exactly where one document
matched and was not removed. -/
theorem endsWell_foldl_iff {userIdentifier : String} (hwindow : s.window device = [])
    (hstored : (s.world.device device).userIdentifier = some userIdentifier)
    (hquery : s.usersWithIdentifier userIdentifier = documents) :
    EndsWell (documents.foldl (didGetProfile device none) s) device ↔
      ∃ document, documents = [document] ∧ document.2.int .status ≠ some (-1) := by
  match documents, hquery with
  | [], _ =>
    -- the window stays empty
    constructor
    · rintro ⟨⟨root, hne, -⟩, -⟩
      exact absurd hwindow hne
    · rintro ⟨document, h, -⟩
      cases h
  | [(i, d)], hquery =>
    have hmem : (i, d) ∈ s.usersWithIdentifier userIdentifier := by
      rw [hquery]
      exact List.mem_singleton_self _
    obtain ⟨hget, hidentifier⟩ := Collection.mem_query.1 hmem
    have hsaved : (didGetProfile device none s (i, d)).world.device device =
        MyDataManager.saveUserDefault (s.world.device device) (decodeUser i d) := by
      rw [world_didGetProfile_launch]
      exact Function.update_self ..
    have htabBar : (didGetProfile device none s (i, d)).window device =
        [.tabBarViewController 0, .tabBarViewController 0] := by
      rw [window_didGetProfile_launch, hwindow]
      rfl
    rw [List.foldl_cons, List.foldl_nil]
    -- the tab bar asks that the cached id is of a document that was not removed
    constructor
    · rintro ⟨-, hlive⟩
      obtain ⟨u, firebaseId, document, -, hid, hdocument, -, hstatus⟩ := hlive 0 (by simp [htabBar])
      rw [hsaved] at hid
      obtain rfl := Option.some.inj hid
      have hsame : s.world.server.users.get i = some document := hdocument
      rw [hget] at hsame
      obtain rfl := Option.some.inj hsame
      exact ⟨_, rfl, hstatus⟩
    · rintro ⟨document, h, hstatus⟩
      obtain rfl := List.singleton_inj.1 h
      refine ⟨⟨.tabBarViewController 0, ?_, ?_⟩, fun serial _ => ?_⟩
      · simp [htabBar]
      · simp [htabBar]
      · refine ⟨userIdentifier, i, d, ?_, ?_, hget, by simpa using hidentifier, hstatus⟩
        · rw [hsaved]
          exact hstored
        · rw [hsaved]
          rfl
  | document :: document' :: rest, _ =>
    -- two tab bars are presented, and no window has both as its one root
    constructor
    · rintro ⟨⟨root, -, hall⟩, -⟩
      obtain ⟨hzero, htwo⟩ := two_tabBars document document' rest hwindow
      have hsame := (hall _ hzero).trans (hall _ htwo).symm
      cases hsame
    · rintro ⟨_, h, -⟩
      cases h

/-- Nothing is answered where nothing is in flight. -/
theorem eq_of_answers {ok : Config Session SessionTask → Event SessionCall Reply → Prop}
    (hevs : ∀ e ∈ evs, ∃ i r, e = .answer i r) (hp : c.pending = [])
    (h : (session texts).Run ok c evs c') : evs = [] ∧ c' = c := by
  cases evs with
  | nil => exact ⟨rfl, h.unique (.nil : (session texts).Run ok c [] c)⟩
  | cons e evs =>
    obtain ⟨i, r, rfl⟩ := hevs e List.mem_cons_self
    obtain ⟨c₁, -, hs, -⟩ := h.cons_inv
    obtain ⟨t, ht, -⟩ := Machine.step_answer.1 hs
    rw [hp] at ht
    cases ht

/-- **A launch ends well exactly where no Apple id is stored, or its query
succeeds and answers one document, of an account that was not removed.** -/
theorem endsWell_iff {ok : Config Session SessionTask → Event SessionCall Reply → Prop}
    (hevs : ∀ e ∈ evs, ∃ i r, e = .answer i r)
    (hrun : (session texts).Run ok (Config.start s₀) (.call (.willConnect device) :: evs) c)
    (hdone : c.pending = []) :
    EndsWell c.state device ↔ ∀ userIdentifier,
      (s₀.world.device device).userIdentifier = some userIdentifier →
      evs = [.answer 0 .ok] ∧ ∃ document, s₀.usersWithIdentifier userIdentifier = [document] ∧
        document.2.int .status ≠ some (-1) := by
  obtain ⟨c₁, -, hs, hrest⟩ := hrun.cons_inv
  obtain ⟨s, ts, hi, rfl⟩ := Machine.step_call.1 hs
  have hissue : sessionIssue texts s₀ (.willConnect device) = some (s, ts) := hi
  simp only [sessionIssue] at hissue
  cases hstored : (s₀.world.device device).userIdentifier with
  | none =>
    rw [hstored] at hissue
    obtain ⟨rfl, rfl⟩ := Prod.mk.inj (Option.some.inj hissue)
    obtain ⟨rfl, rfl⟩ := eq_of_answers hevs rfl hrest
    have hwindow : ((s₀.newWindow device).loginViewController device).window device =
        [.loginViewController 0] := by
      simp [Session.loginViewController, Session.setRoot, Session.newWindow]
    constructor
    · intro _ userIdentifier h
      cases h
    · intro _
      refine ⟨⟨.loginViewController 0, ?_, ?_⟩, fun serial h => ?_⟩
      · simp [hwindow]
      · simp [hwindow]
      · simp [hwindow] at h
  | some userIdentifier =>
    rw [hstored] at hissue
    obtain ⟨rfl, rfl⟩ := Prod.mk.inj (Option.some.inj hissue)
    have hwindow : (s₀.newWindow device).window device = [] := by simp [Session.newWindow]
    -- the query is answered, and nothing is left to answer
    cases evs with
    | nil =>
      rw [hrest.unique (.nil : (session texts).Run ok _ [] _)] at hdone
      cases hdone
    | cons e evs =>
      obtain ⟨i, r, rfl⟩ := hevs e List.mem_cons_self
      obtain ⟨c₂, -, hs₂, hrest₂⟩ := hrest.cons_inv
      obtain ⟨t, ht, rfl⟩ := Machine.step_answer.1 hs₂
      obtain ⟨hlt, rfl⟩ := List.getElem?_eq_some_iff.1 ht
      obtain rfl : i = 0 := Nat.lt_one_iff.1 hlt
      have hnone : ∀ r, (sessionAnswer (s₀.newWindow device)
          (.getProfileData device userIdentifier none) r).2 = [] := by
        intro r
        cases r <;> rfl
      obtain ⟨rfl, rfl⟩ := eq_of_answers (fun e he => hevs e (List.mem_cons_of_mem _ he))
        (hnone r) hrest₂
      cases r with
      | failed =>
        -- an error only prints, and the window stays empty
        constructor
        · rintro ⟨⟨root, hne, -⟩, -⟩
          exact absurd hwindow hne
        · intro h
          have hok := (h userIdentifier rfl).1
          cases hok
      | ok =>
        have hends := endsWell_foldl_iff hwindow hstored
          (rfl : (s₀.newWindow device).usersWithIdentifier userIdentifier = _)
        refine hends.trans ⟨fun h u hu => ?_, fun h => (h userIdentifier rfl).2⟩
        obtain rfl := Option.some.inj hu
        exact ⟨rfl, h⟩

namespace Sample

/-- An account of the Apple id `"apple"`, with a status, on a device that
remembers the Apple id. -/
def oneAccount (status : ℤ) : Session where
  world :=
    { server := ⟨⟨[("u", Doc.setData [(.firebaseId, .string "u"), (.id, .string "u"),
        (.userIdentifier, .string "apple"), (.status, .int status)])], by simp⟩, .empty, .empty, []⟩
      device := fun _ => { userIdentifier := some "apple" } }
  window _ := []
  profiles := []
  plays := []

/-- A launch, and the answer to its query. -/
def launch : List (Event SessionCall Reply) := [.call (.willConnect 0), .answer 0 .ok]

end Sample

theorem endsWell_launch : ∃ c, (session Sample.plainTexts).Run (fun _ _ => True)
    (Config.start (Sample.oneAccount 0)) Sample.launch c ∧ EndsWell c.state 0 := by
  have hrun : (session Sample.plainTexts).Run (fun _ _ => True)
      (Config.start (Sample.oneAccount 0)) Sample.launch _ :=
    .of_exec ⟨trivial, trivial, trivial⟩ rfl
  refine ⟨_, hrun, (endsWell_iff ?_ hrun rfl).2 ?_⟩
  · intro e he
    obtain rfl := List.mem_singleton.1 he
    exact ⟨0, .ok, rfl⟩
  · rintro _ ⟨⟩
    exact ⟨rfl, _, rfl, by decide⟩

/-- **A removed account is let in.** -/
theorem not_endsWell : ¬∀ (texts : Texts) (s₀ : Session) (device : ℕ)
    (evs : List (Event SessionCall Reply)) (c : Config Session SessionTask),
    (∀ e ∈ evs, ∃ i r, e = .answer i r) →
    (session texts).Run (fun _ _ => True) (Config.start s₀) (.call (.willConnect device) :: evs)
      c → c.pending = [] → EndsWell c.state device := by
  intro h
  have hrun : (session Sample.plainTexts).Run (fun _ _ => True)
      (Config.start (Sample.oneAccount (-1))) Sample.launch _ :=
    .of_exec ⟨trivial, trivial, trivial⟩ rfl
  have hends := h _ _ 0 _ _ (fun e he => by
    obtain rfl := List.mem_singleton.1 he
    exact ⟨0, .ok, rfl⟩) hrun rfl
  obtain ⟨_, firebaseId, document, -, hid, hget, -, hstatus⟩ := hends.live 0 (by decide)
  obtain rfl : "u" = firebaseId := Option.some.inj hid
  obtain rfl := Option.some.inj hget
  exact hstatus rfl

end Volleyer
