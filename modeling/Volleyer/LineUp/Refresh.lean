import Volleyer.Courts.Delivery
import Volleyer.LineUp.Overlap
import Volleyer.LineUp.Steps

/-!
# Lining up — what a refresh delivers

The pages run the machine of `getPlayOneCourts` as well
(`projects_courts`): an event of a listener is a call of it and a write
of a court is a write of it, so every call that has been answered in full
was delivered once (`Delivering`). What a page makes of a delivery is
read off the courts that list its user.
-/

namespace Volleyer

/-! ## What a page makes of a delivery -/

namespace Page

/-- The page of a user who waits at a court. -/
def queued (page : Page) (court : String) : Page :=
  { page with
    canAddPlay := false
    courtIAdded := some court
    rightBarButtonItem := true }

variable {u court : String} {page : Page} {playOnes : List PlayOne}

/-- The ids of a court's finders. -/
def ids (playOne : PlayOne) : List String := playOne.finders.map User.firebaseId

theorem foldl_find (u : String) (playOne : PlayOne) (page : Page) (finders : List User) :
    finders.foldl (find (some u) playOne) page =
      if u ∈ finders.map User.firebaseId then page.queued playOne.court else page := by
  induction finders generalizing page with
  | nil => rfl
  | cons finder finders ih =>
    rw [List.foldl_cons, ih, List.map_cons]
    by_cases hu : u = finder.firebaseId
    · have hfind : find (some u) playOne page finder = page.queued playOne.court :=
        if_pos (congrArg some hu)
      rw [hfind, if_pos (List.mem_cons.2 (Or.inl hu))]
      split <;> rfl
    · have hfind : find (some u) playOne page finder = page :=
        if_neg fun h => hu (Option.some.inj h)
      rw [hfind]
      exact if_congr (by simp [hu]) rfl rfl

theorem foldl_courts (u : String) (page : Page) (playOnes : List PlayOne)
    (hcourt : ∀ playOne ∈ playOnes, u ∈ ids playOne → playOne.court = court) :
    playOnes.foldl (fun page playOne => playOne.finders.foldl (find (some u) playOne) page) page =
      if ∃ playOne ∈ playOnes, u ∈ ids playOne then page.queued court else page := by
  induction playOnes generalizing page with
  | nil => simp
  | cons playOne playOnes ih =>
    rw [List.foldl_cons, ih _ fun p hp => hcourt p (List.mem_cons_of_mem _ hp), foldl_find]
    by_cases hu : u ∈ ids playOne
    · have hhere : u ∈ playOne.finders.map User.firebaseId := hu
      rw [if_pos hhere, hcourt playOne List.mem_cons_self hu,
        if_pos (⟨playOne, List.mem_cons_self, hu⟩ : ∃ p ∈ playOne :: playOnes, u ∈ ids p)]
      split <;> rfl
    · have hnot : u ∉ playOne.finders.map User.firebaseId := hu
      rw [if_neg hnot]
      exact if_congr (by simp [hu]) rfl rfl

/-- **A delivery that lists the user** at one court has the page show it. -/
theorem didget_of_mem (hcourt : ∀ playOne ∈ playOnes, u ∈ ids playOne → playOne.court = court)
    (hu : ∃ playOne ∈ playOnes, u ∈ ids playOne) :
    didget (some u) page playOnes =
      ({ page with playOneData := sortByOrder playOnes }).queued court := by
  have hmem : ∀ p, p ∈ sortByOrder playOnes ↔ p ∈ playOnes := fun p =>
    List.mem_insertionSort _
  rw [didget, foldl_courts u _ _ fun p hp => hcourt p ((hmem p).1 hp), if_pos]
  obtain ⟨p, hp, hup⟩ := hu
  exact ⟨p, (hmem p).2 hp, hup⟩

/-- One that does not leaves what the page says of them. -/
theorem didget_of_not_mem (hu : ∀ playOne ∈ playOnes, u ∉ ids playOne) :
    didget (some u) page playOnes = { page with playOneData := sortByOrder playOnes } := by
  have hmem : ∀ p, p ∈ sortByOrder playOnes → p ∈ playOnes := fun p =>
    (List.mem_insertionSort _).1
  have hnone : ∀ p ∈ sortByOrder playOnes, u ∈ ids p → p.court = "" :=
    fun p hp hup => absurd hup (hu p (hmem p hp))
  rw [didget, foldl_courts u _ _ hnone, if_neg]
  rintro ⟨p, hp, hup⟩
  exact hu p (hmem p hp) hup

/-- **A delivery replaces the courts.** -/
theorem playOneData_didget (firebaseId : Option String) (page : Page) (playOnes : List PlayOne) :
    (didget firebaseId page playOnes).playOneData = sortByOrder playOnes := by
  have hfind : ∀ (finders : List User) p (page : Page),
      (finders.foldl (find firebaseId p) page).playOneData = page.playOneData := by
    intro finders p
    induction finders with
    | nil => exact fun _ => rfl
    | cons finder finders ih =>
      intro page
      rw [List.foldl_cons, ih, find]
      split <;> rfl
  have hcourts : ∀ (l : List PlayOne) (page : Page),
      (l.foldl (fun page p => p.finders.foldl (find firebaseId p) page) page).playOneData =
        page.playOneData := by
    intro l
    induction l with
    | nil => exact fun _ => rfl
    | cons p l ih =>
      intro page
      rw [List.foldl_cons, ih, hfind]
  exact hcourts _ _

@[simp] theorem mem_playOneData_didget (firebaseId : Option String) (page : Page)
    (playOnes : List PlayOne) (playOne : PlayOne) :
    playOne ∈ (didget firebaseId page playOnes).playOneData ↔ playOne ∈ playOnes := by
  rw [playOneData_didget]
  exact List.mem_insertionSort _

end Page

/-! ## The calls of `getPlayOneCourts` -/

/-- The request of `getPlayOneCourts` a request is. -/
def PlayOneTask.asCourts : PlayOneTask → Option CourtsTask
  | .getPlayOneCourts _ t => some t
  | _ => none

theorem filterMap_asCourts_map (device : ℕ) (ts : List CourtsTask) :
    (ts.map (PlayOneTask.getPlayOneCourts device)).filterMap PlayOneTask.asCourts = ts := by
  rw [List.filterMap_map]
  exact List.filterMap_some

/-- **Every query of a user matches their one document**, which lies under
their id. -/
def Keyed (c : Config Courts CourtsTask) (e : Event CourtsEvent Reply) : Prop :=
  Matching c e ∧ ∀ n r k j document i userId, e = .answer n r →
    c.pending[n]? = some (.getUser k j document i userId) →
    ∃ d, c.state.usersWithFirebaseId userId = [(userId, d)]

/-- **The pages run the machine of `getPlayOneCourts`.** -/
theorem projects_courts {ok' : Config PlayOneApp PlayOneTask → Event PlayOneCall Reply → Prop}
    (hanswer : ∀ {c' i r t}, ok' c' (.answer i r) → c'.pending[i]? = some t →
      r = .ok ∧ ∀ device u, t = .getPlayOneCourts device u → match u with
        | .getCourts => c'.state.courts.playOneCourts.entries ≠ []
        | .getUser _ _ _ _ userId =>
            ∃ d, c'.state.courts.usersWithFirebaseId userId = [(userId, d)]) :
    Projects playOne courts PlayOneApp.courts PlayOneTask.asCourts ok' Keyed where
  call {c' c a s' ts'} hover _ hi := by
    have hcourts := (playOneIssue_courts hi).1
    rcases playOneIssue_cases hi with ⟨device, -, -, -, rfl⟩ | ⟨device, -, -, -, rfl⟩ |
      ⟨device, tag, -, -, -, -, rfl⟩ | ⟨device, tag, p, -, -, -, -, -, rfl⟩ |
      ⟨device, court, -, -, -, -, -, rfl⟩
    · exact Or.inl ⟨hcourts.trans hover.state.symm, rfl⟩
    · refine Or.inr ⟨.getPlayOneCourts, ⟨trivial, nofun⟩, ?_⟩
      rw [hover.state, hcourts]
      rfl
    · exact Or.inl ⟨hcourts.trans hover.state.symm, rfl⟩
    · exact Or.inl ⟨hcourts.trans hover.state.symm, rfl⟩
    · exact Or.inl ⟨hcourts.trans hover.state.symm, rfl⟩
  other {c' c i r t} hover he ht htask := by
    obtain ⟨rfl, -⟩ := hanswer he ht
    cases t with
    | getPlayOneCourts device t => cases htask
    | createPlayOneFinder finder => exact Or.inl ⟨hover.state.symm, rfl⟩
    | deletaPlayOnefinder finder => exact Or.inl ⟨hover.state.symm, rfl⟩
    | listenPlayOne device =>
      refine Or.inr ⟨.getPlayOneCourts, ⟨trivial, nofun⟩, ?_⟩
      rw [hover.state]
      rfl
    | edit t =>
      -- an edit is a write of somebody else to the refreshes
      refine Or.inr ⟨.write c'.state.courts.users
        (courtEditAnswerOk c'.state.courts.playOneCourts t).1, ⟨trivial, nofun⟩, ?_⟩
      have hnone :
          (playOne.answer c'.state (.edit t) .ok).2.filterMap PlayOneTask.asCourts = [] := by
        refine List.filterMap_eq_nil_iff.2 fun t' ht' => ?_
        rcases List.mem_append.1 ht' with ht' | ht'
        · obtain ⟨_, -, rfl⟩ := List.mem_map.1 ht'
          rfl
        · obtain ⟨_, -, rfl⟩ := List.mem_map.1 ht'
          rfl
      rw [hnone, hover.state]
      rfl
  answer {c' c i j r t u} hover he ht htask hj := by
    obtain ⟨rfl, hmatch⟩ := hanswer he ht
    cases t with
    | getPlayOneCourts device t =>
      obtain rfl : t = u := Option.some.inj htask
      have hmatch' := hmatch device t rfl
      refine ⟨⟨?_, ?_⟩, ?_⟩
      · simp only [Matching, hj]
        cases t with
        | getCourts => exact fun _ => hover.state ▸ hmatch'
        | getUser k position document i' userId =>
          obtain ⟨d, hd⟩ := hmatch'
          exact ⟨trivial, by rw [hover.state, hd]; rfl⟩
      · rintro n r k position document i' userId ⟨⟩ hn
        obtain rfl := Option.some.inj (hj.symm.trans hn)
        rw [hover.state]
        exact hmatch'
      · rw [hover.state]
        simp only [playOne, playOneAnswer, playOneAnswerOk, filterMap_asCourts_map]
        rfl
    | _ => cases htask

/-! ## What a call delivered -/

variable {L : CourtsLog} {k j : ℕ} {c : Config Courts CourtsTask} {playOnes : List PlayOne}
variable {s : Courts} {t : CourtsTask}

/-- The number of the call a request is of. -/
def CourtsTask.number (s : Courts) : CourtsTask → ℕ
  | .getCourts => s.calls.length
  | .getUser k _ _ _ _ => k

/-- An answer hands the delegate of its call something, or nothing. -/
theorem courtsAnswerOk_notified (s : Courts) (t : CourtsTask) :
    ∃ l : List (List PlayOne),
      (courtsAnswerOk s t).1.notified = s.notified ++ l.map (t.number s, ·) := by
  cases t with
  | getCourts => exact ⟨_, rfl⟩
  | getUser k position document i userId =>
    simp only [courtsAnswerOk, CourtsTask.number]
    cases s.calls[k]? with
    | none => exact ⟨[], (List.append_nil _).symm⟩
    | some call => exact ⟨_, rfl⟩

/-- The snapshots of the calls stay. -/
theorem courtsAnswerOk_documents (s : Courts) (t : CourtsTask) :
    (s.calls.map CourtsCall.documents) <+:
      (courtsAnswerOk s t).1.calls.map CourtsCall.documents := by
  cases t with
  | getCourts =>
    simp only [courtsAnswerOk, List.map_append]
    exact List.prefix_append _ _
  | getUser k position document i userId =>
    simp only [courtsAnswerOk]
    cases hk : s.calls[k]? with
    | none => exact List.prefix_rfl
    | some call =>
      have hfold : ∀ (l : List (String × Doc UserTitle)) (p : CourtsCall × List (List PlayOne)),
          (l.foldl (CourtsCall.receive position document i) p).1.documents = p.1.documents := by
        intro l
        induction l with
        | nil => exact fun _ => rfl
        | cons e l ih =>
          intro p
          rw [List.foldl_cons, ih, CourtsCall.receive]
          split <;> rfl
      have hsame := map_set_of_eq hk (hfold (s.usersWithFirebaseId userId) (call, []))
      exact ⟨[], (List.append_nil _).trans hsame.symm⟩

theorem foldl_visit_documents (l : List (String × Doc CourtTitle))
    (p : CourtsCall × List (List PlayOne)) :
    (l.foldl CourtsCall.visit p).1.documents = p.1.documents := by
  induction l generalizing p with
  | nil => rfl
  | cons document l ih =>
    rw [List.foldl_cons, ih, CourtsCall.visit]
    split <;> rfl

/-- A call that begins has the courts of the moment. -/
theorem documents_getCourts (s : Courts) :
    ((courtsAnswerOk s .getCourts).1.calls.map CourtsCall.documents)[s.calls.length]? =
      some s.playOneCourts.entries := by
  simp only [courtsAnswerOk, List.map_append, List.map_cons, List.map_nil]
  rw [List.getElem?_append_right (by rw [List.length_map]), List.length_map, Nat.sub_self]
  exact congrArg some (foldl_visit_documents _ _)

/-- What an answer delivers, where its call was not delivered before. -/
theorem delivered_eq (h : s.notifiedBy (t.number s) = []) :
    ((courtsAnswerOk s t).1.notified.drop s.notified.length).map Prod.snd =
      (courtsAnswerOk s t).1.notifiedBy (t.number s) := by
  obtain ⟨l, hl⟩ := courtsAnswerOk_notified s t
  have hall : (l.map (t.number s, ·)).filter (fun p => decide (p.1 = t.number s)) =
      l.map (t.number s, ·) := by
    refine List.filter_eq_self.2 fun p hp => ?_
    obtain ⟨x, -, rfl⟩ := List.mem_map.1 hp
    exact decide_eq_true rfl
  have hold : (s.notified.filter fun p => p.1 = t.number s).map Prod.snd = [] := h
  rw [Courts.notifiedBy, hl, List.drop_left, List.filter_append, List.map_append, hold, hall,
    List.nil_append]

/-- A call with a query in flight was not delivered yet. -/
theorem Underway.notifiedBy_number (h : Underway L c) (ht : t ∈ c.pending) :
    c.state.notifiedBy (t.number c.state) = [] := by
  cases t with
  | getCourts =>
    rw [Courts.notifiedBy, List.map_eq_nil_iff, List.filter_eq_nil_iff]
    intro p hp heq
    have hlt := h.numbered p hp
    rw [of_decide_eq_true heq] at hlt
    exact Nat.lt_irrefl _ hlt
  | getUser k j document i userId =>
    obtain ⟨call, hcall, hj, -⟩ := h.known ht
    obtain ⟨done, -, hby⟩ := h.assembly hcall
    have hopen : j ∈ call.openCourts (asked c.pending k) :=
      CourtsCall.mem_openCourts.2 ⟨(List.getElem?_eq_some_iff.1 hj).1,
        List.ne_nil_of_mem (mem_asked.2 ⟨document, userId, ht⟩)⟩
    rw [CourtsCall.handed_of_getElem? hj] at hby
    exact hby.trans (if_neg (List.ne_nil_of_mem hopen))

/-- **A court as it was delivered** lists the users whose ids its document
held. -/
theorem Assembled.ids {document : String × Doc CourtTitle} {playOne : PlayOne}
    (h : Assembled L k j document playOne)
    (hL : ∀ {s i userId}, (s, .getUser k j document i userId, .ok) ∈ L →
      ∃ d, s.usersWithFirebaseId userId = [(userId, d)]) :
    Page.ids playOne = finderIds document.2 := by
  refine List.ext_getElem? fun i => ?_
  rw [Page.ids, List.getElem?_map]
  cases hid : (finderIds document.2)[i]? with
  | none =>
    have hle : playOne.finders.length ≤ i := by
      rw [h.length]
      exact List.getElem?_eq_none_iff.1 hid
    rw [List.getElem?_eq_none hle, Option.map_none]
  | some userId =>
    obtain ⟨s, e, hx, he, hfinder⟩ := h.finder hid
    obtain ⟨d, hd⟩ := hL hx
    obtain rfl := List.singleton_inj.1 (he.symm.trans hd)
    rw [hfinder]
    rfl

/-- **What a delivery lists**: the courts of a snapshot, each with the
ids its document held. -/
structure Lists (documents : List (String × Doc CourtTitle)) (playOnes : List PlayOne) : Prop where
  sound : ∀ playOne ∈ playOnes, ∃ document ∈ documents,
    playOne.court = document.1 ∧ Page.ids playOne = finderIds document.2
  complete : ∀ document ∈ documents, ∃ playOne ∈ playOnes,
    playOne.court = document.1 ∧ Page.ids playOne = finderIds document.2

/-- **A call that has begun was delivered, or has a query in flight.** -/
theorem Delivering.lists_or_asks (h : Delivering L c)
    (hL : ∀ {s k j document i userId}, (s, .getUser k j document i userId, .ok) ∈ L →
      ∃ d, s.usersWithFirebaseId userId = [(userId, d)])
    {documents : List (String × Doc CourtTitle)}
    (hk : (c.state.calls.map CourtsCall.documents)[k]? = some documents)
    (hnodup : (documents.map Prod.fst).Nodup) :
    (∃ playOnes, c.state.notifiedBy k = [playOnes] ∧ Lists documents playOnes) ∨
      c.state.notifiedBy k = [] ∧
        ∃ j document i userId, .getUser k j document i userId ∈ c.pending := by
  rw [List.getElem?_map] at hk
  obtain ⟨call, hcall, rfl⟩ := Option.map_eq_some_iff.1 hk
  obtain ⟨done, hassembly, hby⟩ := h.assembly hcall
  rw [hby, CourtsCall.due]
  by_cases hopen : call.openCourts (asked c.pending k) = []
  · have hsound : ∀ playOne ∈ call.playOneDataArray, ∃ document ∈ call.documents,
        playOne.court = document.1 ∧ Page.ids playOne = finderIds document.2 := by
      intro playOne hplayOne
      obtain ⟨j, document, hj, rfl⟩ := CourtsCall.exists_isCourt hassembly.array hplayOne
      have hasked : asked c.pending k j = [] := by
        by_contra hne
        have hmem := CourtsCall.mem_openCourts.2 ⟨(List.getElem?_eq_some_iff.1 hj).1, hne⟩
        rw [hopen] at hmem
        exact List.not_mem_nil hmem
      exact ⟨document, List.mem_of_getElem? hj, rfl, (hassembly.assembled hj hasked).ids hL⟩
    rw [if_pos hopen]
    refine Or.inl ⟨_, rfl, hsound, fun document hdocument => ?_⟩
    have hcourt : document.1 ∈ call.playOneDataArray.map PlayOne.court :=
      (hassembly.perm_court hopen).mem_iff.2 (List.mem_map_of_mem (f := Prod.fst) hdocument)
    obtain ⟨playOne, hplayOne, heq⟩ := List.mem_map.1 hcourt
    obtain ⟨document', hdocument', hcourt', hids⟩ := hsound playOne hplayOne
    obtain rfl : document' = document :=
      List.inj_on_of_nodup_map hnodup hdocument' hdocument (hcourt'.symm.trans heq)
    exact ⟨playOne, hplayOne, heq, hids⟩
  · rw [if_neg hopen]
    obtain ⟨j, hj⟩ := List.exists_mem_of_ne_nil _ hopen
    obtain ⟨i, hi⟩ := List.exists_mem_of_ne_nil _ (CourtsCall.mem_openCourts.1 hj).2
    obtain ⟨document, userId, ht⟩ := mem_asked.1 hi
    exact Or.inr ⟨rfl, j, document, i, userId, ht⟩

end Volleyer
