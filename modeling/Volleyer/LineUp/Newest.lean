import Volleyer.Common.Simulates
import Volleyer.LineUp.Refresh

/-!
# Lining up — which snapshot the page settles on

An event of the listener and a pull empty `playOneData` and call
`getPlayOneCourts`; each call that is delivered replaces what is there. A
call is delivered with the last of its users, so one that read its courts
earlier may be delivered later. What the page shows in the end is the
call of the last callback since it was last emptied, reads of no courts
at all aside.
-/

namespace Volleyer

/-- **A page and its data manager.** -/
structure CourtsPage where
  courts : Courts
  page : Page := {}

/-- What happens to a page, and the writes of everyone else. -/
inductive CourtsPageEvent
  | updatePlayOneTableView
  | pullToRefresh
  | write (users : Collection String (Doc UserTitle))
      (playOneCourts : Collection String (Doc CourtTitle))

/-- An event that empties the page, and has it filled again. -/
def CourtsPageEvent.Empties : CourtsPageEvent → Prop
  | .updatePlayOneTableView => True
  | .pullToRefresh => True
  | .write _ _ => False

/-- The event of the data manager it is. -/
def CourtsPageEvent.courts : CourtsPageEvent → CourtsEvent
  | .updatePlayOneTableView => .getPlayOneCourts
  | .pullToRefresh => .getPlayOneCourts
  | .write users playOneCourts => .write users playOneCourts

/-- `playOneData = []` and `getPlayOneCourts()` -/
def CourtsPage.refresh (s : CourtsPage) : CourtsPage × List CourtsTask :=
  ({ s with page.playOneData := [] }, [.getCourts])

def courtsPageIssue (s : CourtsPage) : CourtsPageEvent → Option (CourtsPage × List CourtsTask)
  | .updatePlayOneTableView => some s.refresh
  | .pullToRefresh => some s.refresh
  | .write users playOneCourts =>
      some ({ s with courts.users := users, courts.playOneCourts := playOneCourts }, [])

/-- **What an answered task does**: the delegate of the call is the page. -/
def courtsPageAnswer (firebaseId : Option String) (s : CourtsPage) (t : CourtsTask) (r : Reply) :
    CourtsPage × List CourtsTask :=
  let p := courtsAnswer s.courts t r
  let delivered := (p.1.notified.drop s.courts.notified.length).map Prod.snd
  ({ courts := p.1, page := delivered.foldl (Page.didget firebaseId) s.page }, p.2)

/-- **The machine of a page** on a device signed in as `firebaseId`. -/
def courtsPage (firebaseId : Option String) :
    Machine CourtsPage CourtsPageEvent CourtsTask Reply where
  issue := courtsPageIssue
  answer := courtsPageAnswer firebaseId

variable {firebaseId : Option String} {users : Collection String (Doc UserTitle)}
variable {playOneCourts : Collection String (Doc CourtTitle)}
variable {evs evs₁ evs₂ : List (Event CourtsPageEvent Reply)}
variable {c c' c₀ c₁ : Config CourtsPage CourtsTask} {L L' : CourtsLog} {k : ℕ}

/-- A page that has just been loaded. -/
def CourtsPage.start (users : Collection String (Doc UserTitle))
    (playOneCourts : Collection String (Doc CourtTitle)) : CourtsPage where
  courts := .start users playOneCourts

/-- **Every query is answered**, and a query of a user with the one
document of theirs. -/
def Answering (c : Config CourtsPage CourtsTask) : Event CourtsPageEvent Reply → Prop
  | .call _ => True
  | .answer n r => r = .ok ∧ match c.pending[n]? with
    | some (.getUser _ _ _ _ userId) => (c.state.courts.usersWithFirebaseId userId).length = 1
    | _ => True

/-! ## The data manager's part -/

/-- What was answered, as far as the data manager goes. -/
def courtsLog (firebaseId : Option String) (c : Config CourtsPage CourtsTask)
    (evs : List (Event CourtsPageEvent Reply)) : CourtsLog :=
  ((courtsPage firebaseId).answered c evs).map fun x => (x.1.courts, x.2)

/-- **The data manager runs on its own.** -/
theorem simulates_courts : Simulates (courtsPage firebaseId) courts Answering
    (fun s' s => s'.courts = s) (fun a => some a.courts) where
  call {c' s a b s₁' ts} _ hR hb hi := by
    obtain rfl := Option.some.inj hb
    subst hR
    cases a with
    | updatePlayOneTableView | pullToRefresh | write users playOneCourts =>
      obtain ⟨rfl, rfl⟩ := Prod.mk.inj (Option.some.inj hi)
      exact ⟨_, rfl, rfl⟩
  silent _ _ hnone _ := by cases hnone
  answer {c' s i r t} _ _ hR := by
    subst hR
    exact ⟨rfl, rfl⟩

/-- An answer that finds its user's document is one the data manager finds
it with. -/
theorem matchingUsers_of_answering {c₂ : Config Courts CourtsTask} {e : Event CourtsEvent Reply}
    {e' : Event CourtsPageEvent Reply} (h : Answering c e') (hstate : c.state.courts = c₂.state)
    (hpending : c₂.pending = c.pending) (he : e'.lower (fun a => some a.courts) = some e) :
    MatchingUsers c₂ e := by
  cases e' with
  | call a =>
    have hcall : some (Event.call a.courts) = some e := he
    obtain rfl := Option.some.inj hcall
    trivial
  | answer n r =>
    obtain rfl := Option.some.inj he
    obtain ⟨rfl, hone⟩ := h
    unfold MatchingUsers
    rw [hpending, ← hstate]
    dsimp only
    split
    · rename_i hn
      rw [hn] at hone
      exact ⟨rfl, hone⟩
    · trivial

/-- **Every call of a page is under way.** -/
theorem underway_courtsPage (h : (courtsPage firebaseId).Run Answering
    (Config.start (CourtsPage.start users playOneCourts)) evs c) :
    Underway (courtsLog firebaseId (Config.start (CourtsPage.start users playOneCourts)) evs)
      ⟨c.state.courts, [], c.pending⟩ := by
  let c₀ : Config Courts CourtsTask := Config.start (Courts.start users playOneCourts)
  have hstart : (CourtsPage.start users playOneCourts).courts = c₀.state := rfl
  obtain ⟨⟨s₂, past, ts⟩, hrun, hstate, hpending⟩ := simulates_courts.run hstart rfl
    (fun hok _ hstate hpending he => matchingUsers_of_answering hok hstate hpending he) h
  have hunderway := underway_of_run hrun
  have hlog := simulates_courts.answered_eq hstart rfl h
  rw [hlog] at hunderway
  dsimp only at hstate hpending
  subst hstate hpending
  exact ⟨hunderway.known, hunderway.snapshots, hunderway.numbered, hunderway.assembly⟩

/-! ## What is built from a snapshot -/

/-- **The courts built from a snapshot**: each of its courts once, in their
order, with the finders of its ids in theirs. -/
structure BuiltFrom (L : CourtsLog) (k : ℕ) (documents : List (String × Doc CourtTitle))
    (playOneData : List PlayOne) : Prop where
  courts : (playOneData.map PlayOne.court).Perm (documents.map Prod.fst)
  sorted : playOneData.Pairwise fun a b => a.order ≤ b.order
  assembled : ∀ playOne ∈ playOneData, ∃ j document, documents[j]? = some document ∧
    Assembled L k j document playOne

/-- From no courts nothing is built. -/
theorem builtFrom_nil (L : CourtsLog) (k : ℕ) : BuiltFrom L k [] [] :=
  ⟨.refl _, .nil, fun _ hplayOne => absurd hplayOne List.not_mem_nil⟩

instance PlayOne.totalOrder : Std.Total fun a b : PlayOne => a.order ≤ b.order :=
  ⟨fun a b => le_total a.order b.order⟩

instance PlayOne.transOrder : IsTrans PlayOne fun a b : PlayOne => a.order ≤ b.order :=
  ⟨fun _ _ _ => le_trans⟩

/-- **A call with no query in flight** has handed over what its snapshot
makes. -/
theorem Underway.built {d : Config Courts CourtsTask} (h : Underway L d)
    (hquiet : ∀ t ∈ d.pending, t.call ≠ some k) {documents : List (String × Doc CourtTitle)}
    (hk : (L.filterMap snapshot)[k]? = some documents) (hne : documents ≠ []) :
    ∃ playOnes, d.state.notifiedBy k = [playOnes] ∧
      BuiltFrom L k documents (Page.sortByOrder playOnes) := by
  rw [h.snapshots, List.getElem?_map] at hk
  obtain ⟨call, hcall, rfl⟩ := Option.map_eq_some_iff.1 hk
  obtain ⟨done, hassembly, hby⟩ := h.assembly hcall
  have hasked : ∀ j, asked d.pending k j = [] := fun j => by
    refine List.eq_nil_iff_forall_not_mem.2 fun i hi => ?_
    obtain ⟨document, userId, ht⟩ := mem_asked.1 hi
    exact hquiet _ ht rfl
  have hopen : call.openCourts (asked d.pending k) = [] :=
    List.eq_nil_iff_forall_not_mem.2 fun j hj => (CourtsCall.mem_openCourts.1 hj).2 (hasked j)
  rw [CourtsCall.handed, if_neg hne, CourtsCall.due, if_pos hopen] at hby
  have hsort : (Page.sortByOrder call.playOneDataArray).Perm call.playOneDataArray :=
    List.perm_insertionSort _ _
  refine ⟨_, hby, (hsort.map _).trans (hassembly.perm_court hopen),
    List.pairwise_insertionSort _ _, fun playOne hplayOne => ?_⟩
  obtain ⟨j, document, hj, rfl⟩ :=
    CourtsCall.exists_isCourt hassembly.array (hsort.mem_iff.1 hplayOne)
  exact ⟨j, document, hj, hassembly.assembled hj (hasked j)⟩

/-! ## The last callback -/

/-- A read of no courts. -/
def readsNone (x : Courts × CourtsTask × Reply) : Bool := (snapshot x).any List.isEmpty

/-- The callbacks of a log, reads of no courts aside. -/
def callbacks (L : CourtsLog) : CourtsLog := L.filter fun x => !readsNone x

/-- The number of the call a callback is of. -/
def callbackOf (x : Courts × CourtsTask × Reply) : ℕ := x.2.1.number x.1

/-- **What a page shows**, after callbacks since it was emptied: nothing, or
what the call of the last of them handed over, if none of its queries is
in flight. -/
structure ShowsLast (since : CourtsLog) (c : Config CourtsPage CourtsTask) : Prop where
  empty : callbacks since = [] → c.state.page.playOneData = []
  last : ∀ x ∈ (callbacks since).getLast?, (∃ t ∈ c.pending, t.call = some (callbackOf x)) ∨
    ∃ playOnes, c.state.courts.notifiedBy (callbackOf x) = [playOnes] ∧
      c.state.page.playOneData = Page.sortByOrder playOnes

theorem callbacks_append_of_readsNone {x : Courts × CourtsTask × Reply} (hx : readsNone x = true)
    (L : CourtsLog) : callbacks (L ++ [x]) = callbacks L := by
  unfold callbacks
  rw [List.filter_append, List.filter_cons_of_neg (by simp [hx]), List.filter_nil, List.append_nil]

theorem callbacks_append {x : Courts × CourtsTask × Reply} (hx : readsNone x = false)
    (L : CourtsLog) : callbacks (L ++ [x]) = callbacks L ++ [x] := by
  unfold callbacks
  rw [List.filter_append, List.filter_cons_of_pos (by simp [hx]), List.filter_nil]

/-- A callback is of a call that has courts. -/
theorem Underway.exists_snapshot {d : Config Courts CourtsTask} (h : Underway L d) {t : CourtsTask}
    (ht : t ∈ d.pending) (hx : readsNone (d.state, t, .ok) = false) :
    ∃ documents, documents ≠ [] ∧
      ((L ++ [(d.state, t, Reply.ok)]).filterMap snapshot)[t.number d.state]? = some documents := by
  have hlength : (L.filterMap snapshot).length = d.state.calls.length := by
    rw [h.snapshots, List.length_map]
  cases t with
  | getCourts =>
    refine ⟨d.state.playOneCourts.entries, fun hnil => ?_, ?_⟩
    · have hnone : readsNone (d.state, .getCourts, .ok) = true := by
        simp only [readsNone, snapshot, Option.any_some, hnil, List.isEmpty_nil]
      rw [hx] at hnone
      exact Bool.false_ne_true hnone
    · have hsnapshot : [(d.state, CourtsTask.getCourts, Reply.ok)].filterMap snapshot =
          [d.state.playOneCourts.entries] := rfl
      rw [List.filterMap_append, hsnapshot, CourtsTask.number,
        List.getElem?_append_right (by omega), hlength, Nat.sub_self]
      rfl
  | getUser k j document i userId =>
    obtain ⟨call, hcall, hj, -⟩ := h.known ht
    refine ⟨call.documents, fun hnil => ?_, ?_⟩
    · rw [hnil] at hj
      cases hj
    · have hsnapshot : (L.filterMap snapshot)[k]? = some call.documents := by
        rw [h.snapshots, List.getElem?_map, hcall]
        rfl
      rw [List.filterMap_append, CourtsTask.number,
        List.getElem?_append_left (List.getElem?_eq_some_iff.1 hsnapshot).1, hsnapshot]

namespace ShowsLast

variable {since : CourtsLog}

/-- A page that has just been emptied. -/
theorem refresh (h : c.state.page.playOneData = []) : ShowsLast [] c :=
  ⟨fun _ => h, fun _ hx => by cases hx⟩

/-- What leaves the page, what was handed over, and the queries of users. -/
theorem frame {since' : CourtsLog} (h : ShowsLast since c)
    (hsince : callbacks since' = callbacks since) (hpage : c'.state.page = c.state.page)
    (hnotified : c'.state.courts.notified = c.state.courts.notified)
    (hpending : ∀ t ∈ c.pending, t ≠ .getCourts → t ∈ c'.pending) : ShowsLast since' c' where
  empty hnil := by
    rw [hpage]
    exact h.empty (hsince.symm.trans hnil)
  last x hx := by
    rw [hsince] at hx
    rcases h.last x hx with ⟨t, ht, hcall⟩ | ⟨playOnes, hby, hdata⟩
    · refine Or.inl ⟨t, hpending t ht ?_, hcall⟩
      rintro rfl
      cases hcall
    · refine Or.inr ⟨playOnes, ?_, by rw [hpage, hdata]⟩
      rw [Courts.notifiedBy, hnotified]
      exact hby

/-- **One callback.** It is the last, and its call was handed over with it
if no query of the call is in flight. -/
theorem answer (h : ShowsLast since c) (hunderway : Underway L ⟨c.state.courts, [], c.pending⟩)
    {n : ℕ} {t : CourtsTask} (hn : c.pending[n]? = some t)
    (hc' : c' = ⟨(courtsPageAnswer firebaseId c.state t .ok).1, c.seen,
      c.pending.eraseIdx n ++ (courtsPageAnswer firebaseId c.state t .ok).2⟩)
    (hunderway' : Underway (L ++ [(c.state.courts, t, .ok)]) ⟨c'.state.courts, [], c'.pending⟩) :
    ShowsLast (since ++ [(c.state.courts, t, .ok)]) c' := by
  have ht : t ∈ c.pending := List.mem_of_getElem? hn
  cases hx : readsNone (c.state.courts, t, .ok) with
  | true =>
    -- the snapshot is empty: nothing is handed over, or asked for
    cases t with
    | getUser => cases hx
    | getCourts =>
      have hnil : c.state.courts.playOneCourts.entries = [] := by
        simpa [readsNone, snapshot] using hx
      have hnotified : (courtsAnswer c.state.courts .getCourts .ok).1.notified =
          c.state.courts.notified := by
        simp only [courtsAnswer, courtsAnswerOk, hnil, List.foldl_nil, List.map_nil,
          List.append_nil]
      subst hc'
      refine h.frame (callbacks_append_of_readsNone hx since) ?_ hnotified fun t' ht' hne => ?_
      · show List.foldl _ _ _ = _
        rw [hnotified, List.drop_length]
        rfl
      · exact List.mem_append_left _ (Machine.mem_eraseIdx_of_ne hn ht' hne)
  | false =>
    refine ⟨fun hnil => ?_, fun x hlast => ?_⟩
    · rw [callbacks_append hx] at hnil
      exact absurd hnil (by simp)
    · rw [callbacks_append hx, List.getLast?_concat, Option.mem_some_iff] at hlast
      subst hlast
      by_cases hquiet : ∃ t' ∈ c'.pending, t'.call = some (t.number c.state.courts)
      · exact Or.inl hquiet
      · obtain ⟨documents, hne, hk⟩ := hunderway.exists_snapshot ht hx
        obtain ⟨playOnes, hby, -⟩ :=
          hunderway'.built (fun t' ht' heq => hquiet ⟨t', ht', heq⟩) hk hne
        have hdelivered := delivered_eq (hunderway.notifiedBy_number ht)
        subst hc'
        refine Or.inr ⟨playOnes, hby, ?_⟩
        have hpage : (courtsPageAnswer firebaseId c.state t .ok).1.page =
            c.state.page.didget firebaseId playOnes := by
          show List.foldl _ _ _ = _
          have hhanded : List.map Prod.snd (List.drop c.state.courts.notified.length
              (courtsAnswer c.state.courts t .ok).1.notified) = [playOnes] := hdelivered.trans hby
          rw [hhanded]
          rfl
        exact (congrArg Page.playOneData hpage).trans (Page.playOneData_didget _ _ _)

end ShowsLast

/-! ## Along a run -/

theorem courtsLog_append {ok : Config CourtsPage CourtsTask → Event CourtsPageEvent Reply → Prop}
    (h : (courtsPage firebaseId).Run ok c₀ evs c) (evs' : List (Event CourtsPageEvent Reply)) :
    courtsLog firebaseId c₀ (evs ++ evs') =
      courtsLog firebaseId c₀ evs ++ courtsLog firebaseId c evs' := by
  unfold courtsLog
  rw [Machine.answered_eq, Machine.answered_eq, Machine.answered_eq, h.observed_append,
    List.map_append]

/-- What one event adds to the log. -/
theorem courtsLog_singleton {e : Event CourtsPageEvent Reply}
    (hs : (courtsPage firebaseId).step c e = some c') :
    courtsLog firebaseId c [e] = (c.answered e).map fun x => (x.1.courts, x.2) := by
  unfold courtsLog Machine.answered
  rw [hs]
  unfold Machine.answered
  rw [List.append_nil]

/-- The steps that do not empty the page. -/
def Filling (c : Config CourtsPage CourtsTask) (e : Event CourtsPageEvent Reply) : Prop :=
  Answering c e ∧ ∀ a, e = .call a → ¬a.Empties

/-- A step that does not empty the page: a write, or an answer. -/
theorem filling_cases {e : Event CourtsPageEvent Reply} (hok : Filling c e)
    (hs : (courtsPage firebaseId).step c e = some c') :
    (courtsLog firebaseId c [e] = [] ∧ c'.pending = c.pending ∧ c'.state.page = c.state.page ∧
      c'.state.courts.notified = c.state.courts.notified) ∨
    ∃ n t, c.pending[n]? = some t ∧ courtsLog firebaseId c [e] = [(c.state.courts, t, .ok)] ∧
      c' = ⟨(courtsPageAnswer firebaseId c.state t .ok).1, c.seen,
        c.pending.eraseIdx n ++ (courtsPageAnswer firebaseId c.state t .ok).2⟩ := by
  rw [courtsLog_singleton hs]
  rcases Machine.step_cases hs with ⟨a, s, ts, rfl, hi, rfl⟩ | ⟨n, r, t, rfl, hn, rfl⟩
  · cases a with
    | updatePlayOneTableView | pullToRefresh => exact absurd trivial (hok.2 _ rfl)
    | write users playOneCourts =>
      obtain ⟨rfl, rfl⟩ := Prod.mk.inj (Option.some.inj hi)
      exact Or.inl ⟨rfl, List.append_nil _, rfl, rfl⟩
  · obtain ⟨⟨rfl, -⟩, -⟩ := hok
    refine Or.inr ⟨n, t, hn, ?_, rfl⟩
    rw [Config.answered, hn]
    rfl

/-- **What the page shows**, since it was emptied. -/
theorem showsLast_of_run (h₀ : (courtsPage firebaseId).Run Answering
      (Config.start (CourtsPage.start users playOneCourts)) evs₁ c₀)
    (hempty : c₀.state.page.playOneData = [])
    (h : (courtsPage firebaseId).Run Filling c₀ evs₂ c) :
    ShowsLast (courtsLog firebaseId c₀ evs₂) c := by
  induction h with
  | nil => exact .refresh hempty
  | @snoc evs c e c' hrun hok hs ih =>
    have hbefore := h₀.append (hrun.mono fun _ _ hok => hok.1)
    have hunderway' := underway_courtsPage (hbefore.snoc hok.1 hs)
    rw [courtsLog_append hbefore] at hunderway'
    rw [courtsLog_append hrun]
    rcases filling_cases hok hs with ⟨hlog, hpending, hpage, hnotified⟩ | ⟨n, t, hn, hlog, hc'⟩
    · rw [hlog, List.append_nil]
      refine ih.frame rfl hpage hnotified fun t ht _ => ?_
      rwa [hpending]
    · rw [hlog] at hunderway' ⊢
      exact ih.answer (underway_courtsPage hbefore) hn hc' hunderway'

/-- The read that an emptied page waits for is in flight, or answered. -/
theorem reads_of_run (hpending : .getCourts ∈ c₀.pending)
    (h : (courtsPage firebaseId).Run Filling c₀ evs₂ c) :
    .getCourts ∈ c.pending ∨ ∃ x ∈ courtsLog firebaseId c₀ evs₂, (snapshot x).isSome = true := by
  induction h with
  | nil => exact Or.inl hpending
  | @snoc evs c e c' hrun hok hs ih =>
    rw [courtsLog_append hrun]
    rcases ih with hread | ⟨x, hx, hsome⟩
    · rcases filling_cases hok hs with ⟨-, hsame, -⟩ | ⟨n, t, hn, hlog, rfl⟩
      · rw [hsame]
        exact Or.inl hread
      · by_cases ht : CourtsTask.getCourts = t
        · subst ht
          refine Or.inr ⟨(c.state.courts, .getCourts, .ok), List.mem_append_right _ ?_, rfl⟩
          rw [hlog]
          exact List.mem_singleton_self _
        · exact Or.inl (List.mem_append_left _ (Machine.mem_eraseIdx_of_ne hn hread ht))
    · exact Or.inr ⟨x, List.mem_append_left _ hx, hsome⟩

/-- What a call handed over was built from its snapshot. -/
theorem Underway.built_of_notifiedBy {d : Config Courts CourtsTask} (h : Underway L d)
    (hquiet : ∀ t ∈ d.pending, t.call ≠ some k) {playOnes : List PlayOne}
    (hby : d.state.notifiedBy k = [playOnes]) :
    ∃ documents, (L.filterMap snapshot)[k]? = some documents ∧
      BuiltFrom L k documents (Page.sortByOrder playOnes) := by
  have hmem : playOnes ∈ d.state.notifiedBy k := by
    rw [hby]
    exact List.mem_singleton_self _
  obtain ⟨p, hp, -⟩ := List.mem_map.1 hmem
  obtain ⟨hnotified, hnumber⟩ := List.mem_filter.1 hp
  have hlt := h.numbered p hnotified
  rw [of_decide_eq_true hnumber] at hlt
  have hcall := List.getElem?_eq_getElem hlt
  have hk : (L.filterMap snapshot)[k]? = some d.state.calls[k].documents := by
    rw [h.snapshots, List.getElem?_map, hcall]
    rfl
  refine ⟨_, hk, ?_⟩
  have hne : d.state.calls[k].documents ≠ [] := by
    intro hnil
    obtain ⟨done, -, hhanded⟩ := h.assembly hcall
    rw [hby, CourtsCall.handed, if_pos hnil] at hhanded
    cases hhanded
  obtain ⟨playOnes', hby', hbuilt⟩ := h.built hquiet hk hne
  obtain rfl := List.singleton_inj.1 (hby.symm.trans hby')
  exact hbuilt

/-- A step that empties the page. -/
theorem emptied_of_step {a : CourtsPageEvent} (ha : a.Empties)
    (hs : (courtsPage firebaseId).step c (.call a) = some c') :
    c'.state.page.playOneData = [] ∧ .getCourts ∈ c'.pending := by
  obtain ⟨s, ts, hi, rfl⟩ := Machine.step_call.1 hs
  cases a with
  | updatePlayOneTableView | pullToRefresh =>
    obtain ⟨rfl, rfl⟩ := Prod.mk.inj (Option.some.inj hi)
    exact ⟨rfl, List.mem_append_right _ (List.mem_singleton_self _)⟩
  | write users playOneCourts => exact ha.elim

/-- The newest snapshot of a log is read in a part at its end that reads
one. -/
theorem newest_mem {x : Courts × CourtsTask × Reply} (hx : x ∈ L')
    (hsome : (snapshot x).isSome = true) :
    ∃ k documents, ((L ++ L').filterMap snapshot).length = k + 1 ∧
      ((L ++ L').filterMap snapshot)[k]? = some documents ∧
      ∃ y ∈ L', snapshot y = some documents := by
  obtain ⟨documents, hdocuments⟩ := Option.isSome_iff_exists.1 hsome
  have hne : L'.filterMap snapshot ≠ [] :=
    List.ne_nil_of_mem (List.mem_filterMap.2 ⟨x, hx, hdocuments⟩)
  obtain ⟨S, newest, hS⟩ := List.eq_nil_or_concat _ |>.resolve_left hne
  rw [List.concat_eq_append] at hS
  obtain ⟨y, hy, hnewest⟩ := List.mem_filterMap.1
    (hS ▸ List.mem_append_right _ (List.mem_singleton_self newest))
  rw [List.filterMap_append, hS, ← List.append_assoc]
  refine ⟨(L.filterMap snapshot ++ S).length, newest, ?_, List.getElem?_concat_length, y, hy,
    hnewest⟩
  rw [List.length_append, List.length_singleton]

/-- **The page settles on a snapshot.** Once all callbacks have run, it
shows what was built from the snapshot of the call whose callback was the
last since it was emptied. So it shows the newest one if that callback
was of the newest call. -/
theorem settles_on_newest {a : CourtsPageEvent} (hrun : (courtsPage firebaseId).Run Answering
      (Config.start (CourtsPage.start users playOneCourts)) (evs₁ ++ .call a :: evs₂) c)
    (ha : a.Empties) (hlast : ∀ b, .call b ∈ evs₂ → ¬b.Empties) (hdone : c.pending = []) :
    let start := Config.start (CourtsPage.start users playOneCourts)
    let L := courtsLog firebaseId start (evs₁ ++ .call a :: evs₂)
    let since := callbacks (L.drop (courtsLog firebaseId start evs₁).length)
    ∃ k documents, (L.filterMap snapshot).length = k + 1 ∧
      (L.filterMap snapshot)[k]? = some documents ∧
      ((∀ x ∈ since.getLast?, callbackOf x = k) →
        BuiltFrom L k documents c.state.page.playOneData) ∧
      ∀ x ∈ since.getLast?, ∃ documents', (L.filterMap snapshot)[callbackOf x]? = some documents' ∧
        BuiltFrom L (callbackOf x) documents' c.state.page.playOneData := by
  intro start L since
  obtain ⟨c₀, hrun₀, hrest⟩ := hrun.split
  obtain ⟨c₁, hok, hs, hrun₂⟩ := hrest.cons_inv
  have hrun₁ := hrun₀.snoc hok hs
  obtain ⟨hempty, hpending⟩ := emptied_of_step ha hs
  have hfilling : (courtsPage firebaseId).Run Filling c₁ evs₂ c :=
    Machine.Run.and_iff.2 ⟨hrun₂, hrun₂.calls hlast⟩
  have hL : L = courtsLog firebaseId start evs₁ ++ courtsLog firebaseId c₁ evs₂ := by
    have hcall : courtsLog firebaseId c₀ [.call a] = [] := courtsLog_singleton hs
    have hevents : evs₁ ++ .call a :: evs₂ = evs₁ ++ [.call a] ++ evs₂ := by simp
    show courtsLog firebaseId start (evs₁ ++ .call a :: evs₂) = _
    rw [hevents, courtsLog_append hrun₁, courtsLog_append hrun₀, hcall, List.append_nil]
  have hsince : since = callbacks (courtsLog firebaseId c₁ evs₂) := by
    show callbacks (L.drop _) = _
    rw [hL, List.drop_left]
  have hunderway := underway_courtsPage hrun
  have hquiet : ∀ k, ∀ t ∈ c.pending, t.call ≠ some k := fun k t ht => by
    rw [hdone] at ht
    cases ht
  have hshows := showsLast_of_run hrun₁ hempty hfilling
  -- the page shows the call of the last callback
  have hbuilt : ∀ x ∈ since.getLast?, ∃ documents',
      (L.filterMap snapshot)[callbackOf x]? = some documents' ∧
        BuiltFrom L (callbackOf x) documents' c.state.page.playOneData := by
    intro x hx
    rw [hsince] at hx
    rcases hshows.last x hx with ⟨t, ht, hcall⟩ | ⟨playOnes, hby, hdata⟩
    · exact absurd hcall (hquiet _ t ht)
    · rw [hdata]
      exact hunderway.built_of_notifiedBy (hquiet _) hby
  -- the newest snapshot was read since the page was emptied
  obtain ⟨x, hx, hsome⟩ : ∃ x ∈ courtsLog firebaseId c₁ evs₂, (snapshot x).isSome = true := by
    refine (reads_of_run hpending hfilling).resolve_left fun hread => ?_
    rw [hdone] at hread
    cases hread
  obtain ⟨k, documents, hlength, hk, y, hy, hnewest⟩ :=
    newest_mem (L := courtsLog firebaseId start evs₁) hx hsome
  rw [← hL] at hlength hk
  refine ⟨k, documents, hlength, hk, fun hnumber => ?_, hbuilt⟩
  cases hlastOf : since.getLast? with
  | none =>
    -- every callback since then read no courts, the newest snapshot's too
    have hnil : callbacks (courtsLog firebaseId c₁ evs₂) = [] := by
      rw [← hsince]
      exact List.getLast?_eq_none_iff.1 hlastOf
    have hnone : readsNone y = true := by
      by_contra hread
      exact List.ne_nil_of_mem (List.mem_filter.2 ⟨hy, by simpa using hread⟩) hnil
    have hdocuments : documents = [] := by
      simpa [readsNone, hnewest] using hnone
    rw [hdocuments, hshows.empty hnil]
    exact builtFrom_nil L k
  | some z =>
    obtain ⟨documents', hk', hbuilt'⟩ := hbuilt z hlastOf
    rw [hnumber z hlastOf] at hk' hbuilt'
    obtain rfl := Option.some.inj (hk.symm.trans hk')
    exact hbuilt'

namespace Sample

/-- The courts when everybody has left. -/
def emptyCourts : PlayOneCourts :=
  ⟨[("A", courtDoc [] 1), ("B", courtDoc [] 2)], nodup_courtIds⟩

/-- A page over two courts where users wait. -/
def courtsLoaded : Config CourtsPage CourtsTask :=
  Config.start (CourtsPage.start twoCourts.users twoCourts.playOneCourts)

/-- Two users wait at `"A"`; then both have left, and it is read again
while the first call still asks for them. -/
def leaving (order : List ℕ) : List (Event CourtsPageEvent Reply) :=
  [.call .updatePlayOneTableView, .answer 0 .ok, .call (.write twoCourts.users emptyCourts)] ++
    .call .pullToRefresh :: order.map (.answer · .ok)

end Sample

/-- The first call's callbacks first: the page shows that they left. -/
theorem settles_on_newest_leaving : ∃ c,
    (courtsPage (some "u")).Run Answering Sample.courtsLoaded (Sample.leaving [0, 0, 0, 0]) c ∧
    c.pending = [] ∧ ∃ L k, BuiltFrom L k Sample.emptyCourts.entries c.state.page.playOneData := by
  have hrun : (courtsPage (some "u")).Run Answering Sample.courtsLoaded
      (Sample.leaving [0, 0, 0, 0]) _ :=
    .of_exec ⟨trivial, ⟨rfl, trivial⟩, trivial, trivial, ⟨rfl, rfl⟩, ⟨rfl, rfl⟩, ⟨rfl, rfl⟩,
      ⟨rfl, trivial⟩, trivial⟩ rfl
  obtain ⟨k, documents, hlength, hk, hnewest, -⟩ :=
    settles_on_newest hrun trivial (fun b hb => by simp at hb) rfl
  obtain rfl : 1 = k := Nat.succ.inj hlength
  obtain rfl := Option.some.inj hk
  exact ⟨_, hrun, rfl, _, _, hnewest fun x hx => by obtain rfl := Option.some.inj hx; rfl⟩

/-- The first call's callbacks last: the newest snapshot has nobody, and
the page shows them still. -/
theorem not_settles_on_newest : ∃ c,
    (courtsPage (some "u")).Run Answering Sample.courtsLoaded (Sample.leaving [3, 0, 0, 0]) c ∧
    c.pending = [] ∧
    ((courtsLog (some "u") Sample.courtsLoaded (Sample.leaving [3, 0, 0, 0])).filterMap
      snapshot).getLast? = some Sample.emptyCourts.entries ∧
    ∀ L k, ¬BuiltFrom L k Sample.emptyCourts.entries c.state.page.playOneData := by
  refine ⟨_, .of_exec ⟨trivial, ⟨rfl, trivial⟩, trivial, trivial, ⟨rfl, trivial⟩, ⟨rfl, rfl⟩,
    ⟨rfl, rfl⟩, ⟨rfl, rfl⟩, trivial⟩ rfl, rfl, rfl, fun L k hbuilt => ?_⟩
  obtain ⟨j, document, hj, hassembled⟩ := hbuilt.assembled _ List.mem_cons_self
  have hnone : (finderIds document.2).length = 0 := by
    rcases List.mem_pair.1 (List.mem_of_getElem? hj) with rfl | rfl
    · rfl
    · rfl
  have hthree := hassembled.length.trans hnone
  exact absurd hthree (by decide +kernel)

end Volleyer
