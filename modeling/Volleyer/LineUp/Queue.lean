import Volleyer.LineUp.Once
import Volleyer.LineUp.OnScreen

/-!
# Lining up — a fair queue

Runs of any length by any number of users, one tap at a time: each is
made with nothing in flight, and nothing fails. The store and the pages
keep a line through every step (`line_of_run`), so after each tap the
lists are its queues.
-/

namespace Volleyer

/-- **One tap at a time**: taps, and whatever else happens to a page, with
nothing in flight, on devices that are signed in; and nothing fails. -/
def OneAtATime (c : Config PlayOneApp PlayOneTask) : Event PlayOneCall Reply → Prop
  | .call a => c.pending = [] ∧ ∃ u, c.state.firebaseId a.device = some u
  | .answer _ r => r = .ok

/-- **A fair queue**: the courts' lists are the queues of a line, nobody
is in two places, and the documents of players and the pages say who
waits. -/
structure FairQueue (l : Line String String) (s : PlayOneApp) : Prop where
  lists : ∀ {court document}, s.courts.playOneCourts.get court = some document →
    finderIds document = l.queue court
  once : ∀ u, s.listed u ≤ 1
  finders : ∀ u, (s.playOneFinders.get u).isSome ↔ s.listed u ≠ 0
  canAddPlay : ∀ device ∈ s.listening, ∀ u, s.firebaseId device = some u →
    ((s.page device).canAddPlay = true ↔ s.listed u = 0)

variable {users : Collection String (Doc UserTitle)} {playOneCourts : PlayOneCourts}
variable {playOneFinders : Collection String (Doc PlayerTitle)} {firebaseId : ℕ → Option String}
variable {l : Line String String} {c c' : Config PlayOneApp PlayOneTask}
variable {evs : List (Event PlayOneCall Reply)}

/-! ## One step -/

/-- **What a run keeps**: the store and the pages hold a line, and where
there are courts the refreshes are a run of `getPlayOneCourts`. -/
structure KeepsLine (users : Collection String (Doc UserTitle)) (playOneCourts : PlayOneCourts)
    (l : Line String String) (c : Config PlayOneApp PlayOneTask) : Prop where
  inLine : InLine l c
  onScreen : OnScreen l c
  oneEach : OneEach c.state
  refreshes : c.state.courts.playOneCourts.entries ≠ [] → ∃ evs c₁,
    courts.Run Keyed (Config.start (Courts.start users playOneCourts)) evs c₁ ∧
      Over PlayOneApp.courts PlayOneTask.asCourts c c₁

theorem entries_eq_nil_iff (s : PlayOneApp) :
    s.courts.playOneCourts.entries = [] ↔ s.courtIds = [] :=
  List.map_eq_nil_iff.symm

namespace KeepsLine

/-- An event of a page changes the line as its tap does. -/
theorem call (h : KeepsLine users playOneCourts l c) {a : PlayOneCall} {s : PlayOneApp}
    {ts : List PlayOneTask} (he : OneAtATime c (.call a))
    (hi : playOneIssue c.state a = some (s, ts)) :
    InLine ((c.state.taps a).foldl Line.tap l) ⟨s, c.seen, c.pending ++ ts⟩ ∧
      OnScreen ((c.state.taps a).foldl Line.tap l) ⟨s, c.seen, c.pending ++ ts⟩ := by
  obtain ⟨hp, u, hid⟩ := he
  rcases playOneIssue_cases hi with ⟨device, rfl, hnew, rfl, rfl⟩ | ⟨device, rfl, -, rfl, rfl⟩ |
    ⟨device, tag, rfl, hloaded, hcan, rfl, rfl⟩ |
    ⟨device, tag, p, rfl, hloaded, hcan, hdata, rfl, rfl⟩ |
    ⟨device, court, rfl, hloaded, hbutton, hcourt, rfl, rfl⟩
  · refine ⟨h.inLine.frame rfl rfl rfl (fun _ hd => List.mem_append_left _ hd) ?_ ?_,
      h.onScreen.viewDidLoad h.inLine h.oneEach hp hnew ⟨u, hid⟩⟩
    · rw [List.filterMap_append]
      exact List.append_nil _
    · rw [List.filterMap_append]
      exact List.append_nil _
  · refine ⟨h.inLine.frame rfl rfl rfl (fun _ hd => hd) ?_ ?_, h.onScreen.pullToRefresh hp device⟩
    · rw [List.filterMap_append]
      exact List.append_nil _
    · rw [List.filterMap_append]
      exact List.append_nil _
  · -- a tap that is refused: its user waits already
    have hwaits : u ∈ l.users := h.onScreen.mem_users hloaded hid fun hidle => by
      rw [hidle.canAddPlay] at hcan
      cases hcan
    have hline : (c.state.taps (.lineUp device tag)).foldl Line.tap l = l := by
      have hself : (c.state.firebaseId device).getD "No Id" = u := by
        rw [show c.state.firebaseId device = some u from hid, Option.getD_some]
      rw [PlayOneApp.taps, hself]
      cases (c.state.page device).playOneData[tag]? with
      | none => rfl
      | some p => exact Line.lineUp_of_mem hwaits
    rw [hline, List.append_nil]
    refine ⟨h.inLine.frame rfl rfl rfl (fun _ hd => hd) rfl rfl, ?_⟩
    exact h.onScreen.frame rfl (fun _ => .refl _) rfl rfl (fun _ _ hdue => hdue) h.onScreen.quiet
      fun ht => ⟨ht, rfl⟩
  · have hself : (c.state.firebaseId device).getD "No Id" = u := by
      rw [show c.state.firebaseId device = some u from hid, Option.getD_some]
    -- a page that lets the tap through is of a user who does not wait
    have hfree : u ∉ l.users := fun hmem => by
      obtain ⟨k, hk⟩ := Line.mem_users.1 hmem
      have hshows := h.onScreen.shows hp hloaded hid hk
      rw [hshows.canAddPlay] at hcan
      cases hcan
    have hline : (c.state.taps (.lineUp device tag)).foldl Line.tap l = l ++ [(u, p.court)] := by
      rw [PlayOneApp.taps, hself, hdata]
      exact Line.lineUp_of_not_mem hfree
    rw [hline, hself]
    exact ⟨h.inLine.lineUp hp rfl rfl rfl rfl hloaded hid hfree
      (h.onScreen.shown device p (List.mem_of_getElem? hdata)), h.onScreen.lineUp hp hid⟩
  · have hself : (c.state.firebaseId device).getD "No User Id" = u := by
      rw [show c.state.firebaseId device = some u from hid, Option.getD_some]
    have hwaits : u ∈ l.users := h.onScreen.mem_users hloaded hid fun hidle => by
      rw [hidle.rightBarButtonItem] at hbutton
      cases hbutton
    obtain ⟨k, hk⟩ := Line.mem_users.1 hwaits
    have hshows := h.onScreen.shows hp hloaded hid hk
    obtain rfl : k = court := Option.some.inj (hshows.courtIAdded.symm.trans hcourt)
    have hline : (c.state.taps (.cancelPlay device)).foldl Line.tap l = l.cancel u := by
      rw [PlayOneApp.taps, hself]
      rfl
    rw [hline, hself]
    exact ⟨h.inLine.cancel hp rfl rfl rfl rfl hk,
      h.onScreen.cancel hp hid h.oneEach ⟨rfl, rfl, rfl⟩ rfl⟩

/-- What the answers of a run find, as far as `getPlayOneCourts` goes:
every id in flight is an account's. -/
theorem keyed (h : KeepsLine users playOneCourts l c)
    (hne : c.state.courts.playOneCourts.entries ≠ []) {n : ℕ} {t : PlayOneTask}
    (hn : c.pending[n]? = some t) :
    ∀ device u, t = .getPlayOneCourts device u → match u with
      | .getCourts => c.state.courts.playOneCourts.entries ≠ []
      | .getUser _ _ _ _ userId =>
          ∃ d, c.state.courts.usersWithFirebaseId userId = [(userId, d)] := by
  rintro device u rfl
  have hmem := List.mem_of_getElem? hn
  cases u with
  | getCourts => exact hne
  | getUser k j document i userId =>
    obtain ⟨-, hj, hi⟩ := h.onScreen.snapshot hmem
    have hdocument := List.mem_of_getElem? hj
    have hnone : c.pending.filterMap PlayOneTask.asEdit = [] := h.onScreen.edits_nil hmem trivial
    have hlist := h.inLine.userIds_eq hnone (List.mem_map_of_mem (f := Prod.fst) hdocument)
    rw [PlayOneCourts.userIds_of_get (Collection.get_eq_some_iff.2 hdocument)] at hlist
    have hwaits : (userId, document.1) ∈ l :=
      Line.mem_queue.1 (hlist ▸ List.mem_of_getElem? hi)
    obtain ⟨device', -, hid⟩ := h.inLine.account (Line.mem_users.2 ⟨_, hwaits⟩)
    exact h.oneEach.document hid

/-- The pages' runs are runs of `getPlayOneCourts`. -/
theorem projects : Projects playOne courts PlayOneApp.courts PlayOneTask.asCourts
    (fun c e => OneAtATime c e ∧ c.state.courts.playOneCourts.entries ≠ [] ∧
      ∃ l, KeepsLine users playOneCourts l c) Keyed :=
  projects_courts fun {c' i r t} he ht => by
    obtain ⟨hok, hne, l, hkeeps⟩ := he
    exact ⟨hok, hkeeps.keyed hne ht⟩

/-- The log of a run of `getPlayOneCourts` whose queries match. -/
theorem keyed_log {evs : List (Event CourtsEvent Reply)} {c₁ : Config Courts CourtsTask}
    (hrun : courts.Run Keyed (Config.start (Courts.start users playOneCourts)) evs c₁)
    {s : Courts} {k j i : ℕ} {document : String × Doc CourtTitle} {userId : String}
    (hx : (s, .getUser k j document i userId, .ok) ∈
      courts.answered (Config.start (Courts.start users playOneCourts)) evs) :
    ∃ d, s.usersWithFirebaseId userId = [(userId, d)] := by
  have hall := hrun.forall_answered_ok (P := fun x => ∀ k j document i userId,
    x.2.1 = .getUser k j document i userId → ∃ d, x.1.usersWithFirebaseId userId = [(userId, d)])
    (fun {c i r t} hok ht k j document i' userId heq => by
      subst heq
      exact hok.2 i r k j document i' userId rfl ht)
  exact hall _ hx k j document i userId rfl

/-- **What an answer to `getPlayOneCourts` delivers.** -/
theorem delivered_cases (h : KeepsLine users playOneCourts l c) {n device : ℕ} {t : CourtsTask}
    (hn : c.pending[n]? = some (.getPlayOneCourts device t)) :
    (∃ playOnes, OnScreen.delivered c.state.courts t = [playOnes] ∧
        Lists c.state.courts.playOneCourts.entries playOnes) ∨
      OnScreen.delivered c.state.courts t = [] ∧ (l = [] ∨ ∃ device' j document i userId,
        .getPlayOneCourts device' (.getUser (t.number c.state.courts) j document i userId) ∈
          c.pending.eraseIdx n ++
            (courtsAnswerOk c.state.courts t).2.map (PlayOneTask.getPlayOneCourts device)) := by
  have hmem := List.mem_of_getElem? hn
  by_cases hne : c.state.courts.playOneCourts.entries = []
  · -- no court, so nobody waits and nothing is delivered
    have hids := (entries_eq_nil_iff c.state).1 hne
    have hnil : l = [] := List.eq_nil_iff_forall_not_mem.2 fun e he => by
      have hcourt := h.inLine.court he
      rw [hids] at hcourt
      exact List.not_mem_nil hcourt
    refine Or.inr ⟨?_, Or.inl hnil⟩
    cases t with
    | getCourts =>
      simp only [OnScreen.delivered, courtsAnswerOk, hne, List.foldl_nil, List.map_nil,
        List.append_nil, List.drop_length]
    | getUser k j document i userId =>
      have hj := (h.onScreen.snapshot hmem).2.1
      simp [hne] at hj
  · -- the refreshes so far are a run of `courts`, and the answer one more step of it
    obtain ⟨evs, c₁, hrun, hover⟩ := h.refreshes hne
    have hstep : playOne.step c (.answer n .ok) = some _ := Machine.step_answer.2 ⟨_, hn, rfl⟩
    have hok : OneAtATime c (.answer n .ok) := rfl
    obtain ⟨evs', c₂, hrun', hover'⟩ := projects.step hover ⟨hok, hne, l, h⟩ hstep
    have hrun₂ := hrun.append hrun'
    have hbefore := underway_of_run (hrun.mono fun _ _ hk => matchingUsers_of_matching hk.1)
    have hafter := delivering_of_run (hrun₂.mono fun _ _ hk => hk.1)
    have hpending : t ∈ c₁.pending := by
      rw [hover.pending]
      exact List.mem_filterMap.2 ⟨_, hmem, rfl⟩
    have hquiet := hbefore.notifiedBy_number hpending
    rw [hover.state] at hquiet
    have heq : OnScreen.delivered c.state.courts t =
        c₂.state.notifiedBy (t.number c.state.courts) := by
      rw [hover'.state]
      exact delivered_eq hquiet
    have hsnapshot : (c₂.state.calls.map CourtsCall.documents)[t.number c.state.courts]? =
        some c.state.courts.playOneCourts.entries := by
      rw [hover'.state]
      cases t with
      | getCourts => exact documents_getCourts c.state.courts
      | getUser k j document i userId =>
        obtain ⟨hk, -⟩ := h.onScreen.snapshot hmem
        obtain ⟨rest, hrest⟩ := courtsAnswerOk_documents c.state.courts
          (.getUser k j document i userId)
        have hcalls : ((playOne.answer c.state
            (.getPlayOneCourts device (.getUser k j document i userId)) .ok).1.courts.calls.map
            CourtsCall.documents) = c.state.courts.calls.map CourtsCall.documents ++ rest :=
          hrest.symm
        rw [hcalls, CourtsTask.number, List.getElem?_append_left (List.getElem?_eq_some_iff.1 hk).1,
          hk]
    rw [heq]
    rcases hafter.lists_or_asks (keyed_log hrun₂) hsnapshot c.state.courts.playOneCourts.nodup with
      hlists | ⟨hnone, j, document, i, userId, ht⟩
    · exact Or.inl hlists
    · refine Or.inr ⟨hnone, Or.inr ?_⟩
      rw [hover'.pending] at ht
      obtain ⟨t', ht', htask⟩ := List.mem_filterMap.1 ht
      cases t' with
      | getPlayOneCourts device' t' =>
        obtain rfl := Option.some.inj htask
        exact ⟨device', j, document, i, userId, ht'⟩
      | _ => cases htask

/-- An answer keeps the line. -/
theorem answer (h : KeepsLine users playOneCourts l c) {n : ℕ} {t : PlayOneTask}
    (hn : c.pending[n]? = some t) :
    InLine l ⟨(playOneAnswerOk c.state t).1, c.seen,
        c.pending.eraseIdx n ++ (playOneAnswerOk c.state t).2⟩ ∧
      OnScreen l ⟨(playOneAnswerOk c.state t).1, c.seen,
        c.pending.eraseIdx n ++ (playOneAnswerOk c.state t).2⟩ := by
  cases t with
  | edit t =>
    have hk : t.court ∈ c.state.courtIds :=
      h.inLine.known t (List.mem_filterMap.2 ⟨_, List.mem_of_getElem? hn, rfl⟩)
    cases t with
    | getDocument edit u k => exact ⟨h.inLine.getDocument hn, h.onScreen.getDocument hn hk⟩
    | updateData edit u k ids =>
      exact ⟨h.inLine.updateData hn, h.onScreen.updateData h.inLine hn hk⟩
  | createPlayOneFinder finder =>
    exact ⟨h.inLine.answer_finder hn rfl, h.onScreen.answer_finder hn rfl⟩
  | deletaPlayOnefinder finder =>
    exact ⟨h.inLine.answer_finder hn rfl, h.onScreen.answer_finder hn rfl⟩
  | listenPlayOne device =>
    refine ⟨h.inLine.frame rfl rfl rfl (fun _ hd => hd) ?_ ?_, h.onScreen.listenPlayOne hn⟩
    · rw [List.filterMap_append, filterMap_eraseIdx_of_none hn rfl]
      exact List.append_nil _
    · rw [List.filterMap_append, filterMap_eraseIdx_of_none hn rfl]
      exact List.append_nil _
  | getPlayOneCourts device t =>
    refine ⟨h.inLine.frame (courtsAnswerOk_playOneCourts _ _) rfl rfl (fun _ hd => hd) ?_ ?_,
      h.onScreen.getPlayOneCourts h.inLine hn (h.delivered_cases hn)⟩
    · rw [List.filterMap_append, filterMap_eraseIdx_of_none hn rfl]
      refine (congrArg _ (List.filterMap_eq_nil_iff.2 fun t' ht' => ?_)).trans (List.append_nil _)
      obtain ⟨_, -, rfl⟩ := List.mem_map.1 ht'
      rfl
    · rw [List.filterMap_append, filterMap_eraseIdx_of_none hn rfl]
      refine (congrArg _ (List.filterMap_eq_nil_iff.2 fun t' ht' => ?_)).trans (List.append_nil _)
      obtain ⟨_, -, rfl⟩ := List.mem_map.1 ht'
      rfl

/-- **One step**: the line goes on by the taps of the event. -/
theorem step (h : KeepsLine users playOneCourts l c) {e : Event PlayOneCall Reply}
    (he : OneAtATime c e) (hs : playOne.step c e = some c') :
    KeepsLine users playOneCourts ((tapsOf c e).foldl Line.tap l) c' := by
  have hrefreshes : c'.state.courtIds = c.state.courtIds →
      c'.state.courts.playOneCourts.entries ≠ [] → ∃ evs c₁,
      courts.Run Keyed (Config.start (Courts.start users playOneCourts)) evs c₁ ∧
        Over PlayOneApp.courts PlayOneTask.asCourts c' c₁ := fun hcourtIds hne' => by
    have hne : c.state.courts.playOneCourts.entries ≠ [] := fun hnil => by
      rw [entries_eq_nil_iff] at hnil
      exact hne' ((entries_eq_nil_iff _).2 (hcourtIds.trans hnil))
    obtain ⟨evs, c₁, hrun, hover⟩ := h.refreshes hne
    obtain ⟨evs', c₂, hrun', hover'⟩ := projects.step hover ⟨he, hne, l, h⟩ hs
    exact ⟨evs ++ evs', c₂, hrun.append hrun', hover'⟩
  rcases Machine.step_cases hs with ⟨a, s, ts, rfl, hi, rfl⟩ | ⟨n, r, t, rfl, hn, rfl⟩
  · obtain ⟨hline, hscreen⟩ := h.call he hi
    obtain ⟨hcourts, hids, -⟩ := playOneIssue_courts hi
    refine ⟨hline, hscreen, ⟨fun hid => ?_, fun hid hid' => ?_⟩, hrefreshes ?_⟩
    · rw [Courts.usersWithFirebaseId, hcourts]
      exact h.oneEach.document (hids ▸ hid)
    · exact h.oneEach.device (hids ▸ hid) (hids ▸ hid')
    · rw [PlayOneApp.courtIds, hcourts, PlayOneApp.courtIds]
  · obtain rfl : r = .ok := he
    obtain ⟨hline, hscreen⟩ := h.answer hn
    have hids := firebaseId_answer c.state t .ok
    refine ⟨hline, hscreen, ⟨fun hid => ?_, fun hid hid' => ?_⟩,
      hrefreshes (courtIds_answer c.state t)⟩
    · rw [Courts.usersWithFirebaseId, users_answer]
      exact h.oneEach.document (hids ▸ hid)
    · exact h.oneEach.device (hids ▸ hid) (hids ▸ hid')

end KeepsLine

/-- **The run keeps its line.** -/
theorem line_of_run
    (hempty : ∀ court document, playOneCourts.get court = some document → finderIds document = [])
    (hfinders : ∀ u, playOneFinders.get u = none)
    (hone : OneEach (.start users playOneCourts playOneFinders firebaseId))
    (hrun : playOne.Run OneAtATime
      (Config.start (.start users playOneCourts playOneFinders firebaseId)) evs c) :
    KeepsLine users playOneCourts
      (lineOf (Config.start (.start users playOneCourts playOneFinders firebaseId)) evs) c := by
  induction hrun with
  | nil =>
    refine ⟨⟨List.nodup_nil, fun hu => absurd hu List.not_mem_nil,
      fun hk => absurd hk List.not_mem_nil, Nat.zero_le 1, fun t ht => absurd ht List.not_mem_nil,
      fun k hk => ?_, Nat.zero_le 1, fun u => ?_⟩, ⟨fun device hd => absurd hd List.not_mem_nil,
      fun device playOne hp => absurd hp List.not_mem_nil, fun hd => absurd hd List.not_mem_nil,
      fun hd => absurd hd List.not_mem_nil, fun ht => absurd ht List.not_mem_nil,
      fun ht => absurd ht List.not_mem_nil, fun ht => absurd ht List.not_mem_nil⟩, hone,
      fun _ => ⟨[], _, .nil, rfl, rfl⟩⟩
    · obtain ⟨document, hdocument⟩ := Option.isSome_iff_exists.1 (Collection.isSome_get_iff.2 hk)
      exact (PlayOneCourts.userIds_of_get hdocument).trans (hempty k document hdocument)
    · have hnone :
          (PlayOneApp.start users playOneCourts playOneFinders firebaseId).playOneFinders.get u =
            none := hfinders u
      rw [Config.start_state, hnone]
      rfl
  | @snoc evs c e c' hr he hs ih =>
    have hline : lineOf (Config.start (.start users playOneCourts playOneFinders firebaseId))
        (evs ++ [e]) = (tapsOf c e).foldl Line.tap
          (lineOf (Config.start (.start users playOneCourts playOneFinders firebaseId)) evs) := by
      rw [lineOf, hr.observed_snoc tapsOf hs, Line.ofTaps_append, lineOf]
    rw [hline]
    exact ih.step he hs

/-- Where the lists are the queues, a user is listed as often as they
wait. -/
theorem listed_eq (hline : InLine l c) (hp : c.pending = []) (u : String) :
    c.state.listed u = l.users.count u := by
  have hlists : ∀ e ∈ c.state.courts.playOneCourts.entries, finderIds e.2 = l.queue e.1 :=
    fun e he => by
      rw [← hline.userIds_eq (by rw [hp]; rfl) (List.mem_map_of_mem (f := Prod.fst) he),
        PlayOneCourts.userIds_of_get (Collection.get_eq_some_iff.2 he)]
  have hflat : (c.state.courts.playOneCourts.entries.flatMap fun e => finderIds e.2) =
      c.state.courtIds.flatMap l.queue := by
    rw [PlayOneApp.courtIds, List.flatMap_map]
    exact List.flatMap_congr hlists
  have hperm := Line.perm_flatMap_queue hline.users c.state.courts.playOneCourts.nodup hline.court
  rw [PlayOneApp.listed, PlayOneCourts.listed, hflat]
  exact hperm.count_eq u

/-- **The line-up is a fair queue.** From empty courts, with one document
and one device for each account, any taps of any users, one at a time:
whenever nothing is in flight the courts' lists are the queues of the
line, and the documents of players and the pages say who waits. -/
theorem fairQueue_of_run
    (hempty : ∀ court document, playOneCourts.get court = some document → finderIds document = [])
    (hfinders : ∀ u, playOneFinders.get u = none)
    (hone : OneEach (.start users playOneCourts playOneFinders firebaseId))
    (hrun : playOne.Run OneAtATime
      (Config.start (.start users playOneCourts playOneFinders firebaseId)) evs c)
    (hdone : c.pending = []) :
    FairQueue (lineOf (Config.start (.start users playOneCourts playOneFinders firebaseId)) evs)
      c.state := by
  have hkeeps := line_of_run hempty hfinders hone hrun
  have hlisted := listed_eq hkeeps.inLine hdone
  have hzero : ∀ u, c.state.listed u = 0 ↔
      u ∉ (lineOf (Config.start (.start users playOneCourts playOneFinders firebaseId))
        evs).users := by
    intro u
    rw [hlisted, List.count_eq_zero]
  refine ⟨fun {court document} hcourt => ?_, fun u => ?_, fun u => ?_, fun device hd u hid => ?_⟩
  · have hk : court ∈ c.state.courtIds := Collection.isSome_get_iff.1 (by rw [hcourt]; rfl)
    rw [← hkeeps.inLine.userIds_eq (by rw [hdone]; rfl) hk, PlayOneCourts.userIds_of_get hcourt]
  · rw [hlisted]
    exact List.nodup_iff_count_le_one.1 hkeeps.inLine.users u
  · have hhas := hkeeps.inLine.finders u
    rw [hdone, List.filterMap_nil, List.foldl_nil] at hhas
    rw [hhas, decide_eq_true_iff, Ne, hzero, not_not]
  · rw [hzero]
    constructor
    · intro hcan hwaits
      obtain ⟨k, hk⟩ := Line.mem_users.1 hwaits
      have hshows := hkeeps.onScreen.shows hdone hd hid hk
      rw [hshows.canAddPlay] at hcan
      cases hcan
    · exact fun hfree => (hkeeps.onScreen.idle hd hid hfree).canAddPlay

namespace Sample

/-- A tap, and its callbacks and refreshes in the order of their
positions. -/
def inFull (a : PlayOneCall) (answers : List ℕ) : List (Event PlayOneCall Reply) :=
  .call a :: answers.map fun n => .answer n .ok

/-- Two pages are loaded; `"u"` lines up at the first court, `"v"` behind
them, and `"u"` cancels. -/
def threeTaps : List (Event PlayOneCall Reply) :=
  inFull (.viewDidLoad 0) [0, 0] ++ inFull (.viewDidLoad 1) [0, 0] ++
    inFull (.lineUp 0 0) [1, 0, 0, 1, 0, 0, 0, 0, 0] ++
    inFull (.lineUp 1 0) [0, 0, 0, 0, 0, 0, 0, 1, 0, 0, 0] ++
    inFull (.cancelPlay 0) [0, 0, 0, 0, 0, 0, 0, 0, 0]

theorem oneEach_twoEmptyCourts : OneEach twoEmptyCourts where
  document {device u} hid := by
    match device, hid with
    | 0, rfl => exact ⟨_, rfl⟩
    | 1, rfl => exact ⟨_, rfl⟩
  device {device device' u} hid hid' := by
    match device, device', hid, hid' with
    | 0, 0, _, _ => rfl
    | 1, 1, _, _ => rfl
    | 0, 1, rfl, hid' => exact absurd hid' (by decide)
    | 1, 0, rfl, hid' => exact absurd hid' (by decide)

theorem finderIds_twoEmptyCourts
    (hcourt : twoEmptyCourts.courts.playOneCourts.get court = some document) :
    finderIds document = [] := by
  rcases List.mem_pair.1 (Collection.get_eq_some_iff.1 hcourt) with h | h
  · obtain ⟨-, rfl⟩ := Prod.mk.inj h
    rfl
  · obtain ⟨-, rfl⟩ := Prod.mk.inj h
    rfl

end Sample

theorem fairQueue_threeTaps : ∃ c,
    playOne.Run OneAtATime (Config.start Sample.twoEmptyCourts) Sample.threeTaps c ∧
    lineOf (Config.start Sample.twoEmptyCourts) Sample.threeTaps = [("v", "A")] ∧
    FairQueue [("v", "A")] c.state := by
  have hline : lineOf (Config.start Sample.twoEmptyCourts) Sample.threeTaps = [("v", "A")] := rfl
  have hruns : ∃ c, playOne.Run OneAtATime (Config.start Sample.twoEmptyCourts) Sample.threeTaps c ∧
      c.pending = [] :=
    ⟨_, .of_exec ⟨⟨rfl, "u", rfl⟩, rfl, rfl, ⟨rfl, "v", rfl⟩, rfl, rfl, ⟨rfl, "u", rfl⟩, rfl, rfl,
      rfl, rfl, rfl, rfl, rfl, rfl, rfl, ⟨rfl, "v", rfl⟩, rfl, rfl, rfl, rfl, rfl, rfl, rfl, rfl,
      rfl, rfl, rfl, ⟨rfl, "u", rfl⟩, rfl, rfl, rfl, rfl, rfl, rfl, rfl, rfl, rfl, trivial⟩ rfl,
      rfl⟩
  obtain ⟨c, hrun, hdone⟩ := hruns
  have hfair := fairQueue_of_run
    (fun court document hcourt => Sample.finderIds_twoEmptyCourts hcourt) (fun _ => rfl)
    Sample.oneEach_twoEmptyCourts hrun hdone
  exact ⟨c, hrun, hline, hline ▸ hfair⟩

end Volleyer
