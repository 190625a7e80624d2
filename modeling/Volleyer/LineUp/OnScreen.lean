import Volleyer.LineUp.InLine
import Volleyer.LineUp.Refresh

/-!
# Lining up — the line on the screens

`OnScreen` is what the pages say of the line while a tap is under way: a
page is right about its user, or a refresh of it is still to come. Every
refresh is of the courts as they are, since none is in flight while an
edit is; so its delivery makes the page right, and with nothing in flight
every page is.
-/

namespace Volleyer

variable {l : Line String String} {c c' : Config PlayOneApp PlayOneTask}

/-! ## The pages -/

namespace Page

/-- The page says that its user does not wait. -/
structure Idle (page : Page) : Prop where
  canAddPlay : page.canAddPlay = true
  courtIAdded : page.courtIAdded = none
  rightBarButtonItem : page.rightBarButtonItem = false

/-- The page says that its user waits at a court. -/
structure Shows (page : Page) (k : String) : Prop where
  canAddPlay : page.canAddPlay = false
  courtIAdded : page.courtIAdded = some k
  rightBarButtonItem : page.rightBarButtonItem = true

/-- A page that says the same of its user, and shows no other courts. -/
structure Same (page page' : Page) : Prop where
  canAddPlay : page'.canAddPlay = page.canAddPlay
  courtIAdded : page'.courtIAdded = page.courtIAdded
  rightBarButtonItem : page'.rightBarButtonItem = page.rightBarButtonItem
  playOneData : ∀ playOne ∈ page'.playOneData, playOne ∈ page.playOneData

theorem Same.refl (page : Page) : Same page page := ⟨rfl, rfl, rfl, fun _ h => h⟩

theorem Idle.of_same {page page' : Page} (h : page.Idle) (hs : Same page page') : page'.Idle :=
  ⟨hs.canAddPlay.trans h.canAddPlay, hs.courtIAdded.trans h.courtIAdded,
    hs.rightBarButtonItem.trans h.rightBarButtonItem⟩

theorem Shows.of_same {page page' : Page} {k : String} (h : page.Shows k) (hs : Same page page') :
    page'.Shows k :=
  ⟨hs.canAddPlay.trans h.canAddPlay, hs.courtIAdded.trans h.courtIAdded,
    hs.rightBarButtonItem.trans h.rightBarButtonItem⟩

theorem shows_queued (page : Page) (k : String) : (page.queued k).Shows k := ⟨rfl, rfl, rfl⟩

end Page

/-- A request with a refresh of a device's page still to come. -/
def PlayOneTask.ahead (device : ℕ) : PlayOneTask → Prop
  | .edit _ => True
  | .listenPlayOne device' => device' = device
  | .getPlayOneCourts device' _ => device' = device
  | _ => False

/-- A request of a refresh. -/
def PlayOneTask.refreshes : PlayOneTask → Prop
  | .listenPlayOne _ => True
  | .getPlayOneCourts _ _ => True
  | _ => False

/-- **The pages show a line**, or are about to. -/
structure OnScreen (l : Line String String) (c : Config PlayOneApp PlayOneTask) : Prop where
  signed : ∀ device ∈ c.state.listening, ∃ u, c.state.firebaseId device = some u
  shown : ∀ device, ∀ playOne ∈ (c.state.page device).playOneData, playOne.court ∈ c.state.courtIds
  idle : ∀ {device u}, device ∈ c.state.listening → c.state.firebaseId device = some u →
    u ∉ l.users → (c.state.page device).Idle
  queued : ∀ {device u k}, device ∈ c.state.listening → c.state.firebaseId device = some u →
    (u, k) ∈ l → (c.state.page device).Shows k ∨ ∃ t ∈ c.pending, t.ahead device
  quiet : ∀ {t}, .edit t ∈ c.pending → ∀ t' ∈ c.pending, ¬t'.refreshes
  snapshot : ∀ {device k j document i userId},
    .getPlayOneCourts device (.getUser k j document i userId) ∈ c.pending →
    (c.state.courts.calls.map CourtsCall.documents)[k]? =
        some c.state.courts.playOneCourts.entries ∧
      c.state.courts.playOneCourts.entries[j]? = some document ∧
      (finderIds document.2)[i]? = some userId
  caller : ∀ {device device' k j document i userId j' document' i' userId'},
    .getPlayOneCourts device (.getUser k j document i userId) ∈ c.pending →
    .getPlayOneCourts device' (.getUser k j' document' i' userId') ∈ c.pending → device = device'

/-- **One document an account, one account a device.** -/
structure OneEach (s : PlayOneApp) : Prop where
  document : ∀ {device u}, s.firebaseId device = some u →
    ∃ d, s.courts.usersWithFirebaseId u = [(u, d)]
  device : ∀ {device device' u}, s.firebaseId device = some u → s.firebaseId device' = some u →
    device = device'

namespace OnScreen

/-- What leaves the pages, and the refreshes in flight or none. -/
theorem frame (h : OnScreen l c) (hcourtIds : c'.state.courtIds = c.state.courtIds)
    (hpage : ∀ device, (c.state.page device).Same (c'.state.page device))
    (hids : c'.state.firebaseId = c.state.firebaseId)
    (hlistening : c'.state.listening = c.state.listening)
    (hahead : ∀ device ∈ c.state.listening, (∃ t ∈ c.pending, t.ahead device) →
      ∃ t ∈ c'.pending, t.ahead device)
    (hquiet : ∀ {t}, .edit t ∈ c'.pending → ∀ t' ∈ c'.pending, ¬t'.refreshes)
    (hasks : ∀ {device k j document i userId},
      .getPlayOneCourts device (.getUser k j document i userId) ∈ c'.pending →
      .getPlayOneCourts device (.getUser k j document i userId) ∈ c.pending ∧
        c'.state.courts = c.state.courts) : OnScreen l c' where
  signed := by
    rw [hlistening, hids]
    exact h.signed
  shown device playOne hplayOne := by
    rw [hcourtIds]
    exact h.shown device playOne ((hpage device).playOneData playOne hplayOne)
  idle {device u} hdevice hid hu := by
    rw [hlistening] at hdevice
    rw [hids] at hid
    exact (h.idle hdevice hid hu).of_same (hpage device)
  queued {device u k} hdevice hid hk := by
    rw [hlistening] at hdevice
    rw [hids] at hid
    rcases h.queued hdevice hid hk with hshows | hdue
    · exact Or.inl (hshows.of_same (hpage device))
    · exact Or.inr (hahead device hdevice hdue)
  quiet := hquiet
  snapshot ht := by
    obtain ⟨ht', hcourts⟩ := hasks ht
    rw [hcourts]
    exact h.snapshot ht'
  caller ht ht' := h.caller (hasks ht).1 (hasks ht').1

/-- With nothing in flight a page is right about its user. -/
theorem shows (h : OnScreen l c) (hp : c.pending = []) {device : ℕ} {u k : String}
    (hdevice : device ∈ c.state.listening) (hid : c.state.firebaseId device = some u)
    (hk : (u, k) ∈ l) : (c.state.page device).Shows k := by
  rcases h.queued hdevice hid hk with hshows | ⟨t, ht, -⟩
  · exact hshows
  · rw [hp] at ht
    exact absurd ht List.not_mem_nil

/-- The user of a page that is not idle waits. -/
theorem mem_users (h : OnScreen l c) {device : ℕ} {u : String}
    (hdevice : device ∈ c.state.listening) (hid : c.state.firebaseId device = some u)
    (hpage : ¬(c.state.page device).Idle) : u ∈ l.users := by
  by_contra hu
  exact hpage (h.idle hdevice hid hu)

/-- While a refresh is in flight no edit is. -/
theorem edits_nil (h : OnScreen l c) {t : PlayOneTask} (ht : t ∈ c.pending) (hr : t.refreshes) :
    c.pending.filterMap PlayOneTask.asEdit = [] := by
  refine List.eq_nil_iff_forall_not_mem.2 fun t' ht' => ?_
  obtain ⟨t'', ht'', heq⟩ := List.mem_filterMap.1 ht'
  cases t'' with
  | edit t'' => exact absurd hr (h.quiet ht'' _ ht)
  | _ => cases heq

/-- A page with a new flag, all others as they are. -/
theorem page_of_ne {s : PlayOneApp} {device device' : ℕ} (page : Page) (h : device' ≠ device) :
    (s.setPage device page).page device' = s.page device' := Function.update_of_ne h ..

@[simp] theorem page_self (s : PlayOneApp) (device : ℕ) (page : Page) :
    (s.setPage device page).page device = page := Function.update_self ..

/-- A page that changes its data only is the same page. -/
theorem same_setPage (s : PlayOneApp) (device : ℕ) {page : Page}
    (h : (s.page device).Same page) (device' : ℕ) :
    (s.page device').Same ((s.setPage device page).page device') := by
  by_cases hd : device' = device
  · subst hd
    rwa [page_self]
  · rw [page_of_ne page hd]
    exact .refl _

/-- A page with another one's courts, or none, shows no court that is not
there. -/
theorem shown_setPage (h : OnScreen l c) {device : ℕ} {page : Page}
    (hdata : ∀ playOne ∈ page.playOneData, playOne ∈ (c.state.page device).playOneData)
    (device' : ℕ) :
    ∀ playOne ∈ ((c.state.setPage device page).page device').playOneData,
      playOne.court ∈ c.state.courtIds := by
  intro playOne hplayOne
  by_cases hd : device' = device
  · subst hd
    rw [page_self] at hplayOne
    exact h.shown device' playOne (hdata playOne hplayOne)
  · rw [page_of_ne page hd] at hplayOne
    exact h.shown device' playOne hplayOne

theorem viewDidLoad (h : OnScreen l c) (hline : InLine l c) (hone : OneEach c.state)
    (hp : c.pending = []) {device : ℕ} (hnew : device ∉ c.state.listening)
    (hsigned : ∃ u, c.state.firebaseId device = some u) :
    OnScreen l ⟨{ c.state.setPage device {} with listening := c.state.listening ++ [device] },
      c.seen, c.pending ++ [.listenPlayOne device]⟩ := by
  have hne : ∀ {device'}, device' ∈ c.state.listening → device' ≠ device := by
    rintro device' hdevice' rfl
    exact hnew hdevice'
  rw [hp]
  refine ⟨fun device' hd => ?_, h.shown_setPage fun _ hx => absurd hx List.not_mem_nil,
    fun {device' u} hd hid hu => ?_, fun {device' u k} hd hid hk => ?_, fun ht => ?_, fun ht => ?_,
    fun ht => ?_⟩
  · rcases List.mem_append.1 hd with hd | hd
    · exact h.signed device' hd
    · obtain rfl := List.mem_singleton.1 hd
      exact hsigned
  · rcases List.mem_append.1 hd with hd | hd
    · exact (page_of_ne (s := c.state) {} (hne hd)).symm ▸ h.idle hd hid hu
    · obtain rfl := List.mem_singleton.1 hd
      exact (page_self c.state device' {}).symm ▸ ⟨rfl, rfl, rfl⟩
  · rcases List.mem_append.1 hd with hd | hd
    · exact Or.inl ((page_of_ne (s := c.state) {} (hne hd)).symm ▸ h.shows hp hd hid hk)
    · -- nobody waits whose page has not been loaded
      obtain rfl := List.mem_singleton.1 hd
      obtain ⟨device₁, hd₁, hid₁⟩ := hline.account (Line.mem_users.2 ⟨k, hk⟩)
      obtain rfl := hone.device hid hid₁
      exact absurd hd₁ hnew
  · cases List.mem_singleton.1 ht
  · cases List.mem_singleton.1 ht
  · cases List.mem_singleton.1 ht

theorem pullToRefresh (h : OnScreen l c) (hp : c.pending = []) (device : ℕ) :
    OnScreen l ⟨c.state.setPage device { c.state.page device with playOneData := [] }, c.seen,
      c.pending ++ [.getPlayOneCourts device .getCourts]⟩ := by
  rw [hp]
  refine h.frame rfl (same_setPage c.state device ⟨rfl, rfl, rfl, fun _ hx =>
    absurd hx List.not_mem_nil⟩) rfl rfl ?_ (fun ht => ?_) fun ht => ?_
  · rintro device' - ⟨t, ht, -⟩
    exact absurd (hp ▸ ht) List.not_mem_nil
  · cases List.mem_singleton.1 ht
  · cases List.mem_singleton.1 ht

/-- Two users are signed in on two devices. -/
theorem device_ne {s : PlayOneApp} {device device' : ℕ} {u u' : String}
    (hid : s.firebaseId device = some u) (hid' : s.firebaseId device' = some u') (hu : u' ≠ u) :
    device' ≠ device := by
  rintro rfl
  exact hu (Option.some.inj (hid'.symm.trans hid))

/-- A user lines up. -/
theorem lineUp (h : OnScreen l c) (hp : c.pending = []) {device : ℕ}
    {u k : String} (hid : c.state.firebaseId device = some u) :
    OnScreen (l ++ [(u, k)])
      ⟨c.state.setPage device { c.state.page device with rightBarButtonItem := true }, c.seen,
        c.pending ++ [.createPlayOneFinder u, .edit (.getDocument .add u k)]⟩ := by
  rw [hp]
  refine ⟨h.signed, h.shown_setPage fun _ hx => hx, fun {device' u'} hd hid' hu' => ?_,
    fun {device' u' k'} hd hid' hk' => ?_, fun {t} _ t' ht' => ?_, fun ht => ?_, fun ht => ?_⟩
  · obtain ⟨hold, hself⟩ := not_or.1 (mt Line.mem_users_append.2 hu')
    exact (page_of_ne (s := c.state) _ (device_ne hid hid' hself)).symm ▸ h.idle hd hid' hold
  · -- whoever waits is refreshed after the edit that is now in flight
    exact Or.inr ⟨.edit (.getDocument .add u k), List.mem_cons_of_mem _ List.mem_cons_self, trivial⟩
  · rcases List.mem_pair.1 ht' with rfl | rfl <;> exact id
  · rcases List.mem_pair.1 ht with ht | ht <;> cases ht
  · rcases List.mem_pair.1 ht with ht | ht <;> cases ht

/-- A user cancels. -/
theorem cancel (h : OnScreen l c) (hp : c.pending = []) {device : ℕ} {u k : String}
    (hid : c.state.firebaseId device = some u) (hone : OneEach c.state) {page : Page}
    (hpage : page.Idle) (hdata : page.playOneData = (c.state.page device).playOneData) :
    OnScreen (l.cancel u) ⟨c.state.setPage device page, c.seen,
      c.pending ++ [.edit (.getDocument .delete u k), .deletaPlayOnefinder u]⟩ := by
  rw [hp]
  refine ⟨h.signed, h.shown_setPage fun _ hx => hdata ▸ hx, fun {device' u'} hd hid' hu' => ?_,
    fun {device' u' k'} hd hid' hk' => ?_, fun {t} _ t' ht' => ?_, fun ht => ?_, fun ht => ?_⟩
  · by_cases hd' : device' = device
    · subst hd'
      exact (page_self c.state device' page).symm ▸ hpage
    · have hu : u' ≠ u := by
        rintro rfl
        exact hd' (hone.device hid' hid)
      have hold : u' ∉ l.users := fun hmem => hu' (Line.mem_users_cancel.2 ⟨hmem, hu⟩)
      exact (page_of_ne (s := c.state) _ hd').symm ▸ h.idle hd hid' hold
  · obtain ⟨hk', hu⟩ := Line.mem_cancel.1 hk'
    have hother := page_of_ne (s := c.state) page (device_ne hid hid' hu)
    exact Or.inl (hother.symm ▸ h.shows hp hd hid' hk')
  · rcases List.mem_pair.1 ht' with rfl | rfl <;> exact id
  · rcases List.mem_pair.1 ht with ht | ht <;> cases ht
  · rcases List.mem_pair.1 ht with ht | ht <;> cases ht

/-! ## The answers -/

/-- The read of an edit that finds its court. -/
theorem getDocument (h : OnScreen l c) {n : ℕ} {edit : FinderEdit} {u k : String}
    (hn : c.pending[n]? = some (.edit (.getDocument edit u k))) (hk : k ∈ c.state.courtIds) :
    OnScreen l ⟨(playOneAnswerOk c.state (.edit (.getDocument edit u k))).1, c.seen,
      c.pending.eraseIdx n ++ (playOneAnswerOk c.state (.edit (.getDocument edit u k))).2⟩ := by
  obtain ⟨document, -, hanswer⟩ := exists_answer_getDocument hk edit u
  have hquiet := h.quiet (List.mem_of_getElem? hn)
  rw [hanswer]
  refine h.frame rfl (fun _ => .refl _) rfl rfl (fun device _ _ => ?_) (fun _ t' ht' => ?_)
    fun ht => ?_
  · exact ⟨_, List.mem_append_right _ List.mem_cons_self, trivial⟩
  · rcases Machine.mem_eraseIdx_append ht' with ht' | ht'
    · exact hquiet t' ht'
    · obtain rfl := List.mem_singleton.1 ht'
      exact id
  · rcases Machine.mem_eraseIdx_append ht with ht | ht
    · exact ⟨ht, rfl⟩
    · cases List.mem_singleton.1 ht

/-- The write of an edit, which every listener hears. -/
theorem updateData (h : OnScreen l c) (hline : InLine l c) {n : ℕ} {edit : FinderEdit}
    {u k : String} {ids : List String}
    (hn : c.pending[n]? = some (.edit (.updateData edit u k ids))) (hk : k ∈ c.state.courtIds) :
    OnScreen l ⟨(playOneAnswerOk c.state (.edit (.updateData edit u k ids))).1, c.seen,
      c.pending.eraseIdx n ++ (playOneAnswerOk c.state (.edit (.updateData edit u k ids))).2⟩ := by
  have hquiet := h.quiet (List.mem_of_getElem? hn)
  have hheard : CourtEditTask.heard c.state (.updateData edit u k ids) = c.state.listening :=
    if_pos (Collection.isSome_get_iff.2 hk)
  have hspawn : (playOneAnswerOk c.state (.edit (.updateData edit u k ids))).2 =
      c.state.listening.map .listenPlayOne := by
    simp only [playOneAnswerOk, courtEditAnswerOk, List.map_nil, List.nil_append, hheard]
  have hedits := (filterMap_eq_singleton PlayOneTask.asEdit hline.edit hn rfl).2
  rw [hspawn]
  refine h.frame (courtIds_answer c.state _) (fun _ => .refl _) rfl rfl (fun device hd _ => ?_)
    (fun {t} ht => ?_) fun ht => ?_
  · exact ⟨.listenPlayOne device, List.mem_append_right _ (List.mem_map_of_mem hd), rfl⟩
  · rcases List.mem_append.1 ht with ht | ht
    · have hmem : t ∈ (c.pending.eraseIdx n).filterMap PlayOneTask.asEdit :=
        List.mem_filterMap.2 ⟨_, ht, rfl⟩
      exact absurd (hedits ▸ hmem) List.not_mem_nil
    · obtain ⟨_, -, heq⟩ := List.mem_map.1 ht
      cases heq
  · rcases Machine.mem_eraseIdx_append ht with ht | ht
    · exact absurd trivial (hquiet _ ht)
    · obtain ⟨_, -, heq⟩ := List.mem_map.1 ht
      cases heq

/-- A document of players is stored or removed. -/
theorem answer_finder (h : OnScreen l c) {n : ℕ} {t : PlayOneTask} {w : String × Bool}
    (hn : c.pending[n]? = some t) (ht : t.asFinder = some w) :
    OnScreen l ⟨(playOneAnswerOk c.state t).1, c.seen,
      c.pending.eraseIdx n ++ (playOneAnswerOk c.state t).2⟩ := by
  have hspawn : (playOneAnswerOk c.state t).2 = [] := by
    cases t <;> first | rfl | cases ht
  have hsame : (playOneAnswerOk c.state t).1.courts = c.state.courts ∧
      (playOneAnswerOk c.state t).1.firebaseId = c.state.firebaseId ∧
      (playOneAnswerOk c.state t).1.listening = c.state.listening ∧
      (playOneAnswerOk c.state t).1.page = c.state.page := by
    cases t <;> first | exact ⟨rfl, rfl, rfl, rfl⟩ | cases ht
  have hidle : ∀ device, ¬t.ahead device := fun device => by
    cases t <;> first | exact id | cases ht
  obtain ⟨hcourts, hids, hlistening, hpage⟩ := hsame
  rw [hspawn, List.append_nil]
  refine h.frame (courtIds_answer c.state t) (fun device => ?_) hids hlistening ?_
    (fun ht' t' ht'' => ?_) fun ht' => ?_
  · rw [hpage]
    exact .refl _
  · rintro device - ⟨t', ht', hahead⟩
    refine ⟨t', Machine.mem_eraseIdx_of_ne hn ht' ?_, hahead⟩
    rintro rfl
    exact hidle device hahead
  · exact h.quiet (List.mem_of_mem_eraseIdx ht') t' (List.mem_of_mem_eraseIdx ht'')
  · exact ⟨List.mem_of_mem_eraseIdx ht', hcourts⟩

/-- An event of a listener: the page calls `getPlayOneCourts`. -/
theorem listenPlayOne (h : OnScreen l c) {n device : ℕ}
    (hn : c.pending[n]? = some (.listenPlayOne device)) :
    OnScreen l ⟨(playOneAnswerOk c.state (.listenPlayOne device)).1, c.seen,
      c.pending.eraseIdx n ++ (playOneAnswerOk c.state (.listenPlayOne device)).2⟩ := by
  refine h.frame rfl (same_setPage c.state device ⟨rfl, rfl, rfl, fun _ hx =>
    absurd hx List.not_mem_nil⟩) rfl rfl ?_ (fun ht => ?_) fun ht => ?_
  · rintro device' - ⟨t, ht, hahead⟩
    by_cases hd : device = device'
    · exact ⟨_, List.mem_append_right _ List.mem_cons_self, hd⟩
    · refine ⟨t, List.mem_append_left _ (Machine.mem_eraseIdx_of_ne hn ht ?_), hahead⟩
      rintro rfl
      exact hd hahead
  · rcases Machine.mem_eraseIdx_append ht with ht | ht
    · exact absurd trivial
        (h.quiet ht _ (List.mem_of_getElem? hn))
    · cases List.mem_singleton.1 ht
  · rcases Machine.mem_eraseIdx_append ht with ht | ht
    · exact ⟨ht, rfl⟩
    · cases List.mem_singleton.1 ht

/-- What a request of `getPlayOneCourts` puts in flight. -/
theorem mem_getUser {n device device' k j i : ℕ} {t : CourtsTask}
    {document : String × Doc CourtTitle} {userId : String}
    (h : .getPlayOneCourts device' (.getUser k j document i userId) ∈ c.pending.eraseIdx n ++
      (courtsAnswerOk c.state.courts t).2.map (PlayOneTask.getPlayOneCourts device)) :
    .getPlayOneCourts device' (.getUser k j document i userId) ∈ c.pending ∨
      device' = device ∧ t = .getCourts ∧ k = c.state.courts.calls.length ∧
        c.state.courts.playOneCourts.entries[j]? = some document ∧
        (finderIds document.2)[i]? = some userId := by
  rcases Machine.mem_eraseIdx_append h with h | h
  · exact Or.inl h
  · obtain ⟨t', ht', heq⟩ := List.mem_map.1 h
    obtain ⟨rfl, rfl⟩ := PlayOneTask.getPlayOneCourts.inj heq
    cases t with
    | getCourts =>
      obtain ⟨⟨d, p⟩, hd, ht'⟩ := List.mem_flatMap.1 ht'
      obtain ⟨⟨uid, m⟩, hm, heq'⟩ := List.mem_map.1 ht'
      obtain ⟨rfl, rfl, rfl, rfl, rfl⟩ := CourtsTask.getUser.inj heq'
      exact Or.inr ⟨rfl, rfl, rfl, List.mk_mem_zipIdx_iff_getElem?.1 hd,
        List.mk_mem_zipIdx_iff_getElem?.1 hm⟩
    | getUser k' j' document' i' userId' =>
      simp only [courtsAnswerOk] at ht'
      cases hcall : c.state.courts.calls[k']? with
      | none => simp [hcall] at ht'
      | some call => simp [hcall] at ht'

/-- What an answer to `getPlayOneCourts` hands the page. -/
def delivered (s : Courts) (t : CourtsTask) : List (List PlayOne) :=
  ((courtsAnswerOk s t).1.notified.drop s.notified.length).map Prod.snd

/-- A query in flight is of a call that has begun. -/
theorem lt_length (h : OnScreen l c) {device k j i : ℕ} {document : String × Doc CourtTitle}
    {userId : String}
    (ht : .getPlayOneCourts device (.getUser k j document i userId) ∈ c.pending) :
    k < c.state.courts.calls.length := by
  have hlt := (List.getElem?_eq_some_iff.1 (h.snapshot ht).1).1
  rwa [List.length_map] at hlt

/-- The queries of a call are made on one device. -/
theorem device_unique (h : OnScreen l c) {n device device' : ℕ} {t : CourtsTask}
    (hn : c.pending[n]? = some (.getPlayOneCourts device t)) {j i : ℕ}
    {document : String × Doc CourtTitle} {userId : String}
    (ht : .getPlayOneCourts device' (.getUser (t.number c.state.courts) j document i userId) ∈
      c.pending.eraseIdx n ++
        (courtsAnswerOk c.state.courts t).2.map (PlayOneTask.getPlayOneCourts device)) :
    device' = device := by
  rcases mem_getUser ht with hold | ⟨hd, -⟩
  · cases t with
    | getCourts => exact absurd (h.lt_length hold) (Nat.lt_irrefl _)
    | getUser k j' document' i' userId' => exact h.caller hold (List.mem_of_getElem? hn)
  · exact hd

/-- **A delivery of the line** to the page of a user who does not wait. -/
theorem idle_didget {documents : List (String × Doc CourtTitle)} {playOnes : List PlayOne}
    {page : Page} {u : String} (hlists : Lists documents playOnes)
    (hids : ∀ document ∈ documents, finderIds document.2 = l.queue document.1)
    (hidle : page.Idle) (hu : u ∉ l.users) : (page.didget (some u) playOnes).Idle := by
  have hnot : ∀ playOne ∈ playOnes, u ∉ Page.ids playOne := by
    intro playOne hplayOne hmem
    obtain ⟨document, hdocument, -, hids'⟩ := hlists.sound playOne hplayOne
    rw [hids', hids document hdocument] at hmem
    exact hu (Line.mem_users.2 ⟨_, Line.mem_queue.1 hmem⟩)
  rw [Page.didget_of_not_mem hnot]
  exact ⟨hidle.canAddPlay, hidle.courtIAdded, hidle.rightBarButtonItem⟩

/-- **A delivery of the line** to the page of a user who waits: the courts list
the user once, at the place of the line. -/
theorem shows_didget {documents : List (String × Doc CourtTitle)} {playOnes : List PlayOne}
    {page : Page} {u k : String} (hlists : Lists documents playOnes)
    (hids : ∀ document ∈ documents, finderIds document.2 = l.queue document.1)
    (husers : l.users.Nodup) (hk : (u, k) ∈ l) (hcourt : k ∈ documents.map Prod.fst) :
    (page.didget (some u) playOnes).Shows k := by
  have honly : ∀ playOne ∈ playOnes, u ∈ Page.ids playOne → playOne.court = k := by
    intro playOne hplayOne hmem
    obtain ⟨document, hdocument, hcourt, hids'⟩ := hlists.sound playOne hplayOne
    rw [hids', hids document hdocument] at hmem
    exact hcourt.trans (Line.place_unique husers (Line.mem_queue.1 hmem) hk)
  have hlisted : ∃ playOne ∈ playOnes, u ∈ Page.ids playOne := by
    obtain ⟨document, hdocument, rfl⟩ := List.mem_map.1 hcourt
    obtain ⟨playOne, hplayOne, -, hids'⟩ := hlists.complete document hdocument
    refine ⟨playOne, hplayOne, ?_⟩
    rw [hids', hids document hdocument]
    exact Line.mem_queue.2 hk
  rw [Page.didget_of_mem honly hlisted]
  exact Page.shows_queued _ _

/-- The queries in flight after an answer are of the courts as they are. -/
theorem snapshot_answer (h : OnScreen l c) {n device device' k j i : ℕ} {t : CourtsTask}
    {document : String × Doc CourtTitle} {userId : String}
    (ht : .getPlayOneCourts device' (.getUser k j document i userId) ∈ c.pending.eraseIdx n ++
      (courtsAnswerOk c.state.courts t).2.map (PlayOneTask.getPlayOneCourts device)) :
    ((courtsAnswerOk c.state.courts t).1.calls.map CourtsCall.documents)[k]? =
        some c.state.courts.playOneCourts.entries ∧
      c.state.courts.playOneCourts.entries[j]? = some document ∧
      (finderIds document.2)[i]? = some userId := by
  rcases mem_getUser ht with hold | ⟨-, rfl, rfl, hj, hi⟩
  · obtain ⟨hk, hj, hi⟩ := h.snapshot hold
    obtain ⟨rest, hrest⟩ := courtsAnswerOk_documents c.state.courts t
    refine ⟨?_, hj, hi⟩
    rw [← hrest, List.getElem?_append_left (List.getElem?_eq_some_iff.1 hk).1, hk]
  · exact ⟨documents_getCourts c.state.courts, hj, hi⟩

/-- And the queries of a call are made on one device, as before. -/
theorem caller_answer (h : OnScreen l c) {n device device₁ device₂ k j j' i i' : ℕ}
    {t : CourtsTask} {document document' : String × Doc CourtTitle} {userId userId' : String}
    (h₁ : .getPlayOneCourts device₁ (.getUser k j document i userId) ∈ c.pending.eraseIdx n ++
      (courtsAnswerOk c.state.courts t).2.map (PlayOneTask.getPlayOneCourts device))
    (h₂ : .getPlayOneCourts device₂ (.getUser k j' document' i' userId') ∈ c.pending.eraseIdx n ++
      (courtsAnswerOk c.state.courts t).2.map (PlayOneTask.getPlayOneCourts device)) :
    device₁ = device₂ := by
  rcases mem_getUser h₁ with hold₁ | ⟨rfl, -, hk, -⟩
  · rcases mem_getUser h₂ with hold₂ | ⟨rfl, -, hk, -⟩
    · exact h.caller hold₁ hold₂
    · exact absurd (hk ▸ h.lt_length hold₁) (Nat.lt_irrefl _)
  · rcases mem_getUser h₂ with hold₂ | ⟨rfl, -, -⟩
    · exact absurd (hk ▸ h.lt_length hold₂) (Nat.lt_irrefl _)
    · rfl

/-- **An answer to `getPlayOneCourts`**: its page is right about its user,
or the call has a query in flight. -/
theorem getPlayOneCourts (h : OnScreen l c) (hline : InLine l c) {n device : ℕ} {t : CourtsTask}
    (hn : c.pending[n]? = some (.getPlayOneCourts device t))
    (hdelivered : (∃ playOnes, delivered c.state.courts t = [playOnes] ∧
        Lists c.state.courts.playOneCourts.entries playOnes) ∨
      delivered c.state.courts t = [] ∧ (l = [] ∨ ∃ device' j document i userId,
        .getPlayOneCourts device' (.getUser (t.number c.state.courts) j document i userId) ∈
          c.pending.eraseIdx n ++
            (courtsAnswerOk c.state.courts t).2.map (PlayOneTask.getPlayOneCourts device))) :
    OnScreen l ⟨(playOneAnswerOk c.state (.getPlayOneCourts device t)).1, c.seen,
      c.pending.eraseIdx n ++ (playOneAnswerOk c.state (.getPlayOneCourts device t)).2⟩ := by
  have hmem := List.mem_of_getElem? hn
  have hnone := h.edits_nil hmem trivial
  have hentries := courtsAnswerOk_playOneCourts c.state.courts t
  have hcourtIds := courtIds_answer c.state (.getPlayOneCourts device t)
  have hids : ∀ document ∈ c.state.courts.playOneCourts.entries,
      finderIds document.2 = l.queue document.1 := fun document hdocument => by
    rw [← hline.userIds_eq hnone (List.mem_map_of_mem (f := Prod.fst) hdocument),
      PlayOneCourts.userIds_of_get (Collection.get_eq_some_iff.2 hdocument)]
  have hself : (playOneAnswerOk c.state (.getPlayOneCourts device t)).1.page device =
      (delivered c.state.courts t).foldl (Page.didget (c.state.firebaseId device))
        (c.state.page device) := Function.update_self ..
  have hother : ∀ device', device' ≠ device →
      (playOneAnswerOk c.state (.getPlayOneCourts device t)).1.page device' =
        c.state.page device' := fun device' hd => Function.update_of_ne hd ..
  refine ⟨h.signed, fun device' playOne hplayOne => ?_, fun {device' u} hd hid hu => ?_,
    fun {device' u k} hd hid hk => ?_, fun {t'} ht' => ?_,
    fun {device' k j document i userId} ht' => ?_,
    fun {device₁ device₂ k j document i userId j' document' i' userId'} h₁ h₂ => ?_⟩
  · -- what is shown is what was delivered, or what was shown before
    rw [hcourtIds]
    by_cases hd : device' = device
    · subst hd
      rw [hself] at hplayOne
      rcases hdelivered with ⟨playOnes, heq, hlists⟩ | ⟨heq, -⟩
      · rw [heq, List.foldl_cons, List.foldl_nil, Page.mem_playOneData_didget] at hplayOne
        obtain ⟨document, hdocument, hcourt, -⟩ := hlists.sound playOne hplayOne
        exact hcourt ▸ List.mem_map_of_mem (f := Prod.fst) hdocument
      · rw [heq] at hplayOne
        exact h.shown device' playOne hplayOne
    · exact h.shown device' playOne (hother device' hd ▸ hplayOne)
  · by_cases hd' : device' = device
    · subst hd'
      have hidle := h.idle hd hid hu
      have hid' : c.state.firebaseId device' = some u := hid
      rw [hself]
      rcases hdelivered with ⟨playOnes, heq, hlists⟩ | ⟨heq, -⟩
      · rw [heq, List.foldl_cons, List.foldl_nil, hid']
        exact idle_didget hlists hids hidle hu
      · rw [heq]
        exact hidle
    · rw [hother device' hd']
      exact h.idle hd hid hu
  · by_cases hd' : device' = device
    · subst hd'
      have hid' : c.state.firebaseId device' = some u := hid
      rcases hdelivered with ⟨playOnes, heq, hlists⟩ |
        ⟨heq, hnil | ⟨device'', j, document, i, userId, ht'⟩⟩
      · refine Or.inl ?_
        rw [hself, heq, List.foldl_cons, List.foldl_nil, hid']
        exact shows_didget hlists hids hline.users hk (hline.court hk)
      · rw [hnil] at hk
        exact absurd hk List.not_mem_nil
      · exact Or.inr ⟨_, ht', h.device_unique hn ht'⟩
    · -- another page still waits for its own refresh
      rw [hother device' hd']
      refine (h.queued hd hid hk).imp id ?_
      rintro ⟨t', ht', hahead⟩
      refine ⟨t', List.mem_append_left _ (Machine.mem_eraseIdx_of_ne hn ht' ?_), hahead⟩
      rintro rfl
      exact hd' hahead.symm
  · rcases Machine.mem_eraseIdx_append ht' with ht' | ht'
    · exact absurd trivial (h.quiet ht' _ hmem)
    · obtain ⟨_, -, heq⟩ := List.mem_map.1 ht'
      cases heq
  · have hsame : (playOneAnswerOk c.state (.getPlayOneCourts device t)).1.courts.playOneCourts =
        c.state.courts.playOneCourts := hentries
    rw [hsame]
    exact h.snapshot_answer ht'
  · exact h.caller_answer h₁ h₂

end OnScreen

end Volleyer
