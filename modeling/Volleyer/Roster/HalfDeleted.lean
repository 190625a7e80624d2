import Volleyer.Roster.Deletion

/-!
# The roster — a deletion that fails

The clean-up of a deletion is issued beside the removal of the play and
not after it, so it goes on where the removal fails. `reply` says which of
the Firestore requests of the deletion fail: the lists and the requests
stay as they were exactly where no write of the clean-up comes through.
-/

namespace Volleyer

variable {s : Server} {play : Play} {reply : Task → Reply} {u i p : String} {l : List String}
variable {evs : List (Event Call Reply)} {c c' : Config Server Task}

/-- The lists of plays and the requests of two stores agree. -/
def SameListsAndRequests (s s' : Server) : Prop :=
  (∀ u, s'.myPlayList u = s.myPlayList u) ∧ ∀ i, s'.requests.get i = s.requests.get i

/-- The play is on the list of a listed player, and the clean-up reads the
list and writes it back. -/
def Unlists (reply : Task → Reply) (play : Play) (s : Server) : Prop :=
  ∃ u ∈ play.playerInfo, ∃ l, s.myPlayList u = some l ∧ play.id ∈ l ∧
    reply (.getUsers .removeFound play.id u) = .ok ∧
    reply (.setMyPlayList u (l.erase play.id)) = .ok

/-- A request is for the play, and the clean-up finds and removes it. -/
def Unrequests (reply : Task → Reply) (play : Play) (s : Server) : Prop :=
  ∃ i d, s.requests.get i = some d ∧ d.string .playId = some play.id ∧
    reply (.queryRequests play.id) = .ok ∧ reply (.deleteRequest i) = .ok

/-! ## Nothing comes through -/

/-- A task of a deletion none of whose writes comes through. -/
def Task.Idle (reply : Task → Reply) (play : Play) (t : Task) : Prop :=
  t.Deletes play.id play.playerInfo ∧
    ((∃ u l, t = .setMyPlayList u l) ∨ (∃ i, t = .deleteRequest i) ∨ t = .deletePlay play.id →
      reply t = .failed)

/-- **An idle task leaves the store as it is**, and spawns idle ones, where
no write of the clean-up comes through. -/
theorem Task.Idle.answer {t : Task} (ht : t.Idle reply play)
    (hone : ∀ u ∈ play.playerInfo, s.KeyedAt u) (hlists : ¬Unlists reply play s)
    (hrequests : ¬Unrequests reply play s) :
    (Volleyer.answer s t (reply t)).1 = s ∧
      ∀ t' ∈ (Volleyer.answer s t (reply t)).2, t'.Idle reply play := by
  obtain ⟨hdeletes, hwrites⟩ := ht
  cases hr : reply t with
  | failed => exact ⟨rfl, fun t' ht' => absurd ht' List.not_mem_nil⟩
  | ok =>
    have hnot : ¬((∃ u l, t = .setMyPlayList u l) ∨ (∃ i, t = .deleteRequest i) ∨
        t = .deletePlay play.id) := fun h => by
      rw [hwrites h] at hr
      cases hr
    have hspawn : ∀ t' ∈ (answerOk s t).2, t'.Deletes play.id play.playerInfo := fun _ =>
      hdeletes.answerOk hone
    cases t with
    | getUsers e q u =>
      obtain ⟨rfl, rfl, hu⟩ := hdeletes
      refine ⟨rfl, fun t' ht' => ⟨hspawn t' ht', fun _ => ?_⟩⟩
      rw [answer_ok, answerOk_getUsers (hone u hu)] at ht'
      obtain ⟨m, hm, rfl⟩ := List.mem_map.1 ht'
      obtain ⟨l, hl, hm⟩ := Option.bind_eq_some_iff.1 (Option.mem_toList.1 hm)
      rw [ListEdit.callback_removeFound, Option.ite_none_right_eq_some] at hm
      obtain ⟨hmem, hm⟩ := hm
      obtain rfl := Option.some.inj hm
      -- else the write would come through
      cases hw : reply (.setMyPlayList u (l.erase play.id)) with
      | failed => rfl
      | ok => exact absurd ⟨u, hu, l, hl, hmem, hr, hw⟩ hlists
    | queryRequests q =>
      obtain rfl : q = play.id := hdeletes
      refine ⟨rfl, fun t' ht' => ⟨hspawn t' ht', fun _ => ?_⟩⟩
      obtain ⟨⟨i, d⟩, hd, rfl⟩ := List.mem_map.1 ht'
      obtain ⟨hget, hplay⟩ := Collection.mem_query.1 hd
      cases hw : reply (.deleteRequest i) with
      | failed => rfl
      | ok => exact absurd ⟨i, d, hget, beq_iff_eq.1 hplay, hr, hw⟩ hrequests
    | deletePlay q => exact absurd (Or.inr (Or.inr (congrArg _ hdeletes))) hnot
    | setMyPlayList u l => exact absurd (Or.inl ⟨u, l, rfl⟩) hnot
    | deleteRequest i => exact absurd (Or.inr (Or.inl ⟨i, rfl⟩)) hnot
    | _ => exact hdeletes.elim

/-- **A deletion none of whose writes comes through changes nothing.** -/
theorem state_eq_of_deleting (hfail : reply (.deletePlay play.id) = .failed)
    (hone : ∀ u ∈ play.playerInfo, s.KeyedAt u) (hlists : ¬Unlists reply play s)
    (hrequests : ¬Unrequests reply play s)
    (hrun : roster.Run (SettlesOn.Answers reply) (deleting s play) evs c) : c.state = s := by
  have hinv := hrun.invariant
    (I := fun c => c.state = s ∧ ∀ t ∈ c.pending, t.Idle reply play) ⟨rfl, ?_⟩ ?_
  · exact hinv.1
  · refine fun t ht => ⟨deletes_deletePlay play t ht, fun hwrite => ?_⟩
    rw [deleting, deletePlay_eq] at ht
    rcases hwrite with ⟨u, l, rfl⟩ | ⟨i, rfl⟩ | rfl
    · simp at ht
    · simp at ht
    · exact hfail
  · rintro c e c' ⟨rfl, hidle⟩ hok hs
    cases e with
    | call a => exact hok.elim
    | answer k r =>
      obtain ⟨t, ht, rfl⟩ := Machine.step_answer.1 hs
      obtain rfl := hok t ht
      obtain ⟨hstate, hspawn⟩ := (hidle t (List.mem_of_getElem? ht)).answer hone hlists hrequests
      refine ⟨hstate, fun t' ht' => ?_⟩
      rcases Machine.mem_eraseIdx_append ht' with ht' | ht'
      · exact hidle t' ht'
      · exact hspawn t' ht'

/-! ## Something comes through -/

/-- The tasks in flight of a deletion of `p`, and its players' documents. -/
structure Deleting (p : String) (us : List String) (c : Config Server Task) : Prop where
  keyed : ∀ u ∈ us, c.state.KeyedAt u
  tasks : ∀ t ∈ c.pending, t.Deletes p us

theorem deleting_start (hone : ∀ u ∈ play.playerInfo, s.KeyedAt u) :
    Deleting play.id play.playerInfo (deleting s play) :=
  ⟨hone, deletes_deletePlay play⟩

variable {us : List String}

theorem Deleting.answer (h : Deleting p us c) {k : ℕ} {r : Reply}
    (hs : roster.step c (.answer k r) = some c') : Deleting p us c' := by
  obtain ⟨t, ht, rfl⟩ := Machine.step_answer.1 hs
  refine ⟨fun u hu => (h.keyed u hu).answer t r, fun t' ht' => ?_⟩
  rcases Machine.mem_eraseIdx_append ht' with ht' | ht'
  · exact h.tasks t' ht'
  · cases r with
    | failed => cases ht'
    | ok => exact (h.tasks t (List.mem_of_getElem? ht)).answerOk h.keyed ht'

/-- **A list that is about to be written back**, or has been: what is
written is shorter than it was. -/
structure Shortens (p u : String) (l : List String) (c : Config Server Task) : Prop where
  writes : ∀ m, .setMyPlayList u m ∈ c.pending → m.length < l.length
  list : (c.state.myPlayList u = some l ∧
      (.getUsers .removeFound p u ∈ c.pending ∨ .setMyPlayList u (l.erase p) ∈ c.pending)) ∨
    ∃ m, c.state.myPlayList u = some m ∧ m.length < l.length

/-- What a read of the clean-up has in flight after it is shorter than the
list it read. -/
theorem length_lt_of_mem_answerOk (hkeyed : s.KeyedAt u) {m m' : List String}
    (hl : s.myPlayList u = some m)
    (hm : .setMyPlayList u m' ∈ (answerOk s (.getUsers .removeFound p u)).2) :
    m'.length < m.length := by
  rw [answerOk_getUsers hkeyed, hl, Option.bind_some] at hm
  obtain ⟨m'', hm'', heq⟩ := List.mem_map.1 hm
  obtain rfl := (Task.setMyPlayList.inj heq).2
  rw [ListEdit.callback_removeFound, Option.mem_toList, Option.ite_none_right_eq_some] at hm''
  obtain ⟨hmem, hm''⟩ := hm''
  obtain rfl := Option.some.inj hm''
  have hpos := List.length_pos_of_mem hmem
  rw [List.length_erase_of_mem hmem]
  omega

/-- **Only the read of a player's list** puts a write of it in flight. -/
theorem setMyPlayList_not_mem_answer (hdel : Deleting p us c) {t : Task} (ht : t ∈ c.pending)
    (hother : t ≠ .getUsers .removeFound p u) (r : Reply) (m : List String) :
    .setMyPlayList u m ∉ (answer c.state t r).2 := by
  intro hm
  have hdeletes := hdel.tasks t ht
  cases r with
  | failed => cases hm
  | ok =>
    rw [answer_ok] at hm
    cases t with
    | getUsers e q v =>
      obtain ⟨rfl, rfl, hv⟩ := hdeletes
      rw [answerOk_getUsers (hdel.keyed v hv)] at hm
      obtain ⟨m', -, heq⟩ := List.mem_map.1 hm
      obtain rfl := (Task.setMyPlayList.inj heq).1
      exact hother rfl
    | queryRequests q =>
      obtain ⟨d, -, heq⟩ := List.mem_map.1 hm
      cases heq
    | deletePlay | setMyPlayList | deleteRequest => cases hm
    | _ => exact hdeletes.elim

/-- **Only a write that comes through** changes a player's list. -/
theorem myPlayList_answer_of_ne {t : Task} {r : Reply}
    (hother : ¬∃ m, t = .setMyPlayList u m ∧ r = .ok) :
    (answer s t r).1.myPlayList u = s.myPlayList u := by
  cases r with
  | failed => rfl
  | ok =>
    rcases answer_users s t .ok with hsame | ⟨v, m, rfl, hsame⟩
    · rw [Server.myPlayList, hsame, Server.myPlayList]
    · have huv : u ≠ v := fun huv => hother ⟨m, huv ▸ rfl, rfl⟩
      rw [hsame, Server.myPlayList_updateUser, if_neg huv]

/-- **An answer keeps a list about to be written back.** -/
theorem Shortens.answer (h : Shortens p u l c) (hdel : Deleting p us c) (hu : u ∈ us)
    (hp : p ∈ l) (hread : reply (.getUsers .removeFound p u) = .ok)
    (hwrite : reply (.setMyPlayList u (l.erase p)) = .ok) {k : ℕ} {t : Task}
    (ht : c.pending[k]? = some t)
    (hs : roster.step c (.answer k (reply t)) = some c') : Shortens p u l c' := by
  obtain ⟨t', ht', rfl⟩ := Machine.step_answer.1 hs
  obtain rfl := Option.some.inj (ht.symm.trans ht')
  have hstay : ∀ {t'}, t' ∈ c.pending → t' ≠ t →
      t' ∈ c.pending.eraseIdx k ++ (answer c.state t (reply t)).2 := fun h' hne =>
    List.mem_append_left _ (Machine.mem_eraseIdx_of_ne ht h' hne)
  have hkeyed := hdel.keyed u hu
  by_cases hmine : t = .getUsers .removeFound p u
  · -- the clean-up reads the list
    subst hmine
    rw [hread]
    refine ⟨fun m hm => ?_, ?_⟩
    · rcases Machine.mem_eraseIdx_append hm with hm | hm
      · exact h.writes m hm
      · rcases h.list with ⟨hl, -⟩ | ⟨m', hl, hlt⟩
        · exact length_lt_of_mem_answerOk hkeyed hl hm
        · exact Nat.lt_trans (length_lt_of_mem_answerOk hkeyed hl hm) hlt
    · rcases h.list with ⟨hl, -⟩ | hshort
      · refine Or.inl ⟨hl, Or.inr (List.mem_append_right _ ?_)⟩
        rw [roster_answer, answer_ok, answerOk_getUsers hkeyed, hl, Option.bind_some,
          ListEdit.callback_removeFound, if_pos hp]
        exact List.mem_singleton_self _
      · exact Or.inr hshort
  · have hnew := setMyPlayList_not_mem_answer hdel (List.mem_of_getElem? ht) hmine (reply t)
    have hwrites : ∀ m, .setMyPlayList u m ∈
        c.pending.eraseIdx k ++ (answer c.state t (reply t)).2 → m.length < l.length := fun m hm =>
      (Machine.mem_eraseIdx_append hm).elim (h.writes m) fun hm => absurd hm (hnew m)
    by_cases hset : ∃ m, t = .setMyPlayList u m ∧ reply t = .ok
    · -- a write of the list comes through
      obtain ⟨m, rfl, hr⟩ := hset
      refine ⟨hwrites, Or.inr ⟨m, ?_, h.writes m (List.mem_of_getElem? ht)⟩⟩
      have hsome : ∃ m', c.state.myPlayList u = some m' := by
        rcases h.list with ⟨hl, -⟩ | ⟨m', hl, -⟩
        · exact ⟨l, hl⟩
        · exact ⟨m', hl⟩
      obtain ⟨m', hm'⟩ := hsome
      obtain ⟨d, hd, -⟩ := Option.bind_eq_some_iff.1 hm'
      rw [hr, roster_answer, answer_ok, answerOk, Server.myPlayList_updateUser, if_pos rfl, hd,
        Option.map_some]
    · refine ⟨hwrites, ?_⟩
      rw [roster_answer, myPlayList_answer_of_ne hset]
      rcases h.list with ⟨hl, hpending⟩ | hshort
      · refine Or.inl ⟨hl, hpending.imp (fun h' => hstay h' ?_) fun h' => hstay h' ?_⟩
        · exact fun heq => hmine heq.symm
        · exact fun heq => hset ⟨_, heq.symm, heq ▸ hwrite⟩
      · exact Or.inr hshort

/-- **A request that is about to be removed**, or has been. -/
def Vanishes (p i : String) (d : Doc PlayRequestTitle) (c : Config Server Task) : Prop :=
  c.state.requests.get i = none ∨ c.state.requests.get i = some d ∧
    (.queryRequests p ∈ c.pending ∨ .deleteRequest i ∈ c.pending)

/-- A deletion leaves a request or removes it. -/
theorem get_requests_answer {t : Task} (ht : t.Deletes p us) (r : Reply) (i : String) :
    (answer s t r).1.requests.get i = s.requests.get i ∨
      (answer s t r).1.requests.get i = none := by
  rcases answer_requests s t r with hq | ⟨j, data, rfl, -⟩ | ⟨request, n, htask, -⟩ | ⟨j, rfl, hq⟩
  · exact Or.inl (by rw [hq])
  · exact ht.elim
  · rcases htask with rfl | ⟨rfl, -⟩
    · exact ht.elim
    · exact ht.elim
  · rw [hq, Collection.get_delete]
    by_cases hij : i = j
    · exact Or.inr (if_pos hij)
    · exact Or.inl (if_neg hij)

/-- **An answer keeps a request about to be removed.** -/
theorem Vanishes.answer {d : Doc PlayRequestTitle} (h : Vanishes p i d c) (hdel : Deleting p us c)
    (hd : d.string .playId = some p) (hquery : reply (.queryRequests p) = .ok)
    (hdelete : reply (.deleteRequest i) = .ok) {k : ℕ} {t : Task} (ht : c.pending[k]? = some t)
    (hs : roster.step c (.answer k (reply t)) = some c') : Vanishes p i d c' := by
  obtain ⟨t', ht', rfl⟩ := Machine.step_answer.1 hs
  obtain rfl := Option.some.inj (ht.symm.trans ht')
  have hdeletes := hdel.tasks t (List.mem_of_getElem? ht)
  rcases get_requests_answer hdeletes (reply t) i with hget | hget
  · rcases h with hnone | ⟨hsome, hpending⟩
    · exact Or.inl (hget.trans hnone)
    · by_cases hmine : t = .queryRequests p
      · subst hmine
        refine Or.inr ⟨hget.trans hsome, Or.inr (List.mem_append_right _ ?_)⟩
        rw [hquery]
        refine List.mem_map.2 ⟨(i, d), Collection.mem_query.2 ⟨hsome, ?_⟩, rfl⟩
        rw [hd, beq_self_eq_true]
      · by_cases hgone : t = .deleteRequest i
        · subst hgone
          rw [hdelete] at hget ⊢
          refine Or.inl ?_
          show (Collection.delete _ i).get i = none
          rw [Collection.get_delete_self]
        · refine Or.inr ⟨hget.trans hsome, hpending.imp (fun h' => ?_) fun h' => ?_⟩
          · exact List.mem_append_left _
              (Machine.mem_eraseIdx_of_ne ht h' fun heq => hmine heq.symm)
          · exact List.mem_append_left _
              (Machine.mem_eraseIdx_of_ne ht h' fun heq => hgone heq.symm)
  · exact Or.inl hget

/-- **A failed deletion changes nothing** exactly where no listed player's
list that names the play is read and written back, and no request for the
play is found and removed. Where the rest of the deletion does not fail,
that is where no listed player's list names the play and no request is for
it. -/
theorem deletePlay_failed_iff (hfail : reply (.deletePlay play.id) = .failed)
    (hone : ∀ u ∈ play.playerInfo, s.KeyedAt u)
    (hrun : roster.Run (SettlesOn.Answers reply) (deleting s play) evs c)
    (hdone : c.pending = []) :
    SameListsAndRequests s c.state ↔ ¬Unlists reply play s ∧ ¬Unrequests reply play s := by
  constructor
  · rintro ⟨hlists, hrequests⟩
    refine ⟨?_, ?_⟩
    · rintro ⟨u, hu, l, hl, hmem, hread, hwrite⟩
      have hinv := hrun.invariant (I := fun c => Deleting play.id play.playerInfo c ∧
        Shortens play.id u l c) ⟨deleting_start hone, fun m hm => ?_, Or.inl ⟨hl, Or.inl ?_⟩⟩ ?_
      · rcases hinv.2.list with ⟨-, hpending⟩ | ⟨m, hm, hlt⟩
        · rw [hdone] at hpending
          rcases hpending with h | h <;> cases h
        · rw [hlists, hl, Option.some.injEq] at hm
          rw [hm] at hlt
          exact absurd hlt (Nat.lt_irrefl _)
      · rw [deleting, deletePlay_eq] at hm
        simp at hm
      · rw [deleting, deletePlay_eq]
        exact List.mem_cons_of_mem _ (List.mem_append_left _ (List.mem_map_of_mem hu))
      · rintro c e c' ⟨hdel, hshort⟩ hok hs
        cases e with
        | call a => exact hok.elim
        | answer k r =>
          obtain ⟨t, ht, -⟩ := Machine.step_answer.1 hs
          obtain rfl := hok t ht
          exact ⟨hdel.answer hs, hshort.answer hdel hu hmem hread hwrite ht hs⟩
    · rintro ⟨i, d, hd, hplay, hquery, hdelete⟩
      have hinv := hrun.invariant (I := fun c => Deleting play.id play.playerInfo c ∧
        Vanishes play.id i d c) ⟨deleting_start hone, Or.inr ⟨hd, Or.inl ?_⟩⟩ ?_
      · rcases hinv.2 with hnone | ⟨-, hpending⟩
        · rw [hrequests, hd] at hnone
          cases hnone
        · rw [hdone] at hpending
          rcases hpending with h | h <;> cases h
      · rw [deleting, deletePlay_eq]
        exact List.mem_cons_of_mem _ (List.mem_append_right _ List.mem_cons_self)
      · rintro c e c' ⟨hdel, hremoves⟩ hok hs
        cases e with
        | call a => exact hok.elim
        | answer k r =>
          obtain ⟨t, ht, -⟩ := Machine.step_answer.1 hs
          obtain rfl := hok t ht
          exact ⟨hdel.answer hs, hremoves.answer hdel hplay hquery hdelete ht hs⟩
  · rintro ⟨hlists, hrequests⟩
    have hstate := state_eq_of_deleting hfail hone hlists hrequests hrun
    rw [hstate]
    exact ⟨fun _ => rfl, fun _ => rfl⟩

namespace Sample

/-- The removal of a play fails, and nothing else. -/
def removalFails : Task → Reply
  | .deletePlay _ => .failed
  | _ => .ok

end Sample

/-- The sample play is to be deleted, and is not. -/
theorem removalFails_run : ∃ c,
    roster.Run (SettlesOn.Answers Sample.removalFails)
      (deleting Sample.onePlay (Sample.play "p" ["f"]))
      [.answer 0 .failed, .answer 0 .ok, .answer 0 .ok, .answer 0 .ok] c ∧
    c.pending = [] ∧ c.state.myPlayList "f" = some [] := by
  have hrun : roster.Run (SettlesOn.Answers Sample.removalFails)
      (deleting Sample.onePlay (Sample.play "p" ["f"]))
      [.answer 0 .failed, .answer 0 .ok, .answer 0 .ok, .answer 0 .ok] _ :=
    .of_exec ⟨by rintro t ⟨⟩; rfl, by rintro t ⟨⟩; rfl, by rintro t ⟨⟩; rfl, by rintro t ⟨⟩; rfl,
      trivial⟩ rfl
  exact ⟨_, hrun, rfl, rfl⟩

/-- The play stays, and its finder's list has lost it. -/
theorem deletePlay_failed_changes : ¬∀ (s : Server) (play : Play) (reply : Task → Reply)
    (evs : List (Event Call Reply)) (c : Config Server Task),
    reply (.deletePlay play.id) = .failed → (∀ u ∈ play.playerInfo, s.KeyedAt u) →
    roster.Run (SettlesOn.Answers reply) (deleting s play) evs c → c.pending = [] →
    SameListsAndRequests s c.state := by
  intro hall
  have hkeyed : Sample.onePlay.UsersKeyed := Sample.usersKeyed (by simp) rfl
  obtain ⟨c, hrun, hdone, hlist⟩ := removalFails_run
  have hsame := (hall _ (Sample.play "p" ["f"]) _ _ c rfl (fun u _ => hkeyed.keyedAt u) hrun
    hdone).1 "f"
  have hbefore : Sample.onePlay.myPlayList "f" = some ["p"] := rfl
  rw [hlist, hbefore] at hsame
  exact absurd hsame (by decide)

theorem deletePlay_failed_onePlay : ∃ c,
    roster.Run (SettlesOn.Answers Sample.removalFails)
      (deleting Sample.onePlay (Sample.play "p" ["f"]))
      [.answer 0 .failed, .answer 0 .ok, .answer 0 .ok, .answer 0 .ok] c ∧
    ¬SameListsAndRequests Sample.onePlay c.state := by
  have hkeyed : Sample.onePlay.UsersKeyed := Sample.usersKeyed (by simp) rfl
  obtain ⟨c, hrun, hdone, -⟩ := removalFails_run
  refine ⟨c, hrun, fun hsame => ?_⟩
  have hnone := ((deletePlay_failed_iff rfl (fun u _ => hkeyed.keyedAt u) hrun hdone).1 hsame).1
  exact hnone ⟨"f", List.mem_cons_self, ["p"], rfl, List.mem_cons_self, rfl, rfl⟩

end Volleyer
