import Volleyer.Roster.Sample

/-!
# The roster — deleting a play

`deletePlay` removes the play, takes it off the list of everybody in the
copy of the roster it was given, and removes the requests one query
answers. Requests and answers by others go on meanwhile. The play is gone
whatever happens. What else names it is gone where everything that still
wrote its id landed before the clean-up read that place: `Cleared` says so
of one user's list, `Swept` of the requests.
-/

namespace Volleyer

variable {p : String} {c c' : Config Server Task} {e : Event Call Reply}

/-- Requests for one play are sent, answered and cancelled, and nothing
fails. -/
def Around (p : String) (_ : Config Server Task) : Event Call Reply → Prop
  | .call (.saveRequest play _ _ _ _) => play.id = p
  | .call (.updateRequest request _) => request.playId = p
  | .call (.cancelRequest request) => request.playId = p
  | .call _ => False
  | .answer _ r => r = .ok

/-- **A request is stored before the deletion queries the requests.** -/
def SavedBeforeQuery (p : String) (c : Config Server Task) : Event Call Reply → Prop
  | .call _ => True
  | .answer i _ => ∀ j data, c.pending[i]? = some (.setRequest j data) →
      (Doc.setData data).string .playId = some p → .queryRequests p ∈ c.pending

/-- **A list that names the play is written before the deletion reads
it**, and the deletion reads it with the play in it once. -/
def WrittenBeforeRead (p : String) (c : Config Server Task) : Event Call Reply → Prop
  | .call _ => True
  | .answer i _ =>
      (∀ u l, c.pending[i]? = some (.setMyPlayList u l) → p ∈ l →
        .getUsers .removeFound p u ∈ c.pending) ∧
      ∀ u l, c.pending[i]? = some (.getUsers .removeFound p u) → c.state.myPlayList u = some l →
        l.count p ≤ 1

/-! ## The lists of plays -/

/-- A user's list does not name the play, or is about to be cleared of
it. -/
def Cleared (p u : String) (c : Config Server Task) : Prop :=
  .getUsers .removeFound p u ∈ c.pending ∨ (∀ l, c.state.myPlayList u = some l → p ∉ l) ∨
    ∃ l, .setMyPlayList u l ∈ c.pending ∧ p ∉ l

theorem not_mem_erase_of_count_le {l : List String} (h : l.count p ≤ 1) : p ∉ l.erase p := by
  have hcount : (l.erase p).count p = l.count p - 1 := List.count_erase_self
  rw [← List.count_eq_zero]
  omega

/-- **A step keeps a list cleared.** -/
theorem Cleared.step {u : String} (h : Cleared p u c) (hkeyed : c.state.UsersKeyed)
    (hok : WrittenBeforeRead p c e) (hreply : ∀ i r, e = .answer i r → r = .ok)
    (hs : roster.step c e = some c') : Cleared p u c' := by
  rcases Machine.step_cases hs with ⟨a, s, ts, rfl, hi, rfl⟩ | ⟨i, r, t, rfl, ht, rfl⟩
  · have hlist : s.myPlayList u = c.state.myPlayList u := by
      rw [Server.myPlayList, Server.myPlayList, (issue_eq hi).1]
    rcases h with h | h | ⟨l, hl, hp⟩
    · exact Or.inl (List.mem_append_left _ h)
    · exact Or.inr (Or.inl fun l hl => h l (hlist ▸ hl))
    · exact Or.inr (Or.inr ⟨l, List.mem_append_left _ hl, hp⟩)
  · obtain rfl := hreply i r rfl
    obtain ⟨hwrite, hread⟩ := hok
    have hstay : ∀ {t'}, t' ∈ c.pending → t' ≠ t →
        t' ∈ c.pending.eraseIdx i ++ (answer c.state t .ok).2 := fun h' hne =>
      List.mem_append_left _ (Machine.mem_eraseIdx_of_ne ht h' hne)
    by_cases hmine : t = .getUsers .removeFound p u
    · -- the clean-up reads the list
      subst hmine
      have hts := answerOk_getUsers (hkeyed.keyedAt u) .removeFound p
      cases hl : c.state.myPlayList u with
      | none => exact Or.inr (Or.inl fun l hl' => by cases hl.symm.trans hl')
      | some l =>
        rw [hl, Option.bind_some, ListEdit.callback_removeFound] at hts
        by_cases hp : p ∈ l
        · rw [if_pos hp] at hts
          refine Or.inr (Or.inr ⟨l.erase p, List.mem_append_right _ ?_,
            not_mem_erase_of_count_le (hread u l ht hl)⟩)
          rw [roster_answer, answer_ok, hts]
          exact List.mem_singleton_self _
        · refine Or.inr (Or.inl fun l' hl' => ?_)
          obtain rfl := Option.some.inj (hl.symm.trans hl')
          exact hp
    · rcases answer_users c.state t .ok with hu | ⟨v, l, rfl, hu⟩
      · have hlist : (answer c.state t .ok).1.myPlayList u = c.state.myPlayList u := by
          rw [Server.myPlayList, Server.myPlayList, hu]
        rcases h with h | h | ⟨l, hl, hp⟩
        · exact Or.inl (hstay h fun heq => hmine heq.symm)
        · exact Or.inr (Or.inl fun l hl => h l (hlist ▸ hl))
        · by_cases hlt : Task.setMyPlayList u l = t
          · subst hlt
            refine Or.inr (Or.inl fun l' hl' => ?_)
            rw [roster_answer, answer_ok, answerOk, Server.myPlayList_updateUser, if_pos rfl,
              Option.map_eq_some_iff] at hl'
            obtain ⟨d, -, rfl⟩ := hl'
            exact hp
          · exact Or.inr (Or.inr ⟨l, hstay hl hlt, hp⟩)
      · have hlist : (answer c.state (.setMyPlayList v l) .ok).1.myPlayList u =
            if u = v then (c.state.users.get v).map fun _ => l else c.state.myPlayList u := by
          rw [hu, Server.myPlayList_updateUser]
        by_cases huv : u = v
        · subst huv
          rw [if_pos rfl] at hlist
          by_cases hp : p ∈ l
          · exact Or.inl (hstay (hwrite u l ht hp) (by simp))
          · refine Or.inr (Or.inl fun l' hl' => ?_)
            obtain ⟨d, -, rfl⟩ := Option.map_eq_some_iff.1 (hlist.symm.trans hl')
            exact hp
        · rw [if_neg huv] at hlist
          rcases h with h | h | ⟨m, hm, hp⟩
          · exact Or.inl (hstay h (by simp))
          · exact Or.inr (Or.inl fun l' hl' => h l' (hlist ▸ hl'))
          · refine Or.inr (Or.inr ⟨m, hstay hm fun heq => ?_, hp⟩)
            exact huv (Task.setMyPlayList.inj heq).1

/-! ## The requests -/

/-- Every request for the play is about to be removed. -/
def Swept (p : String) (c : Config Server Task) : Prop :=
  .queryRequests p ∈ c.pending ∨ ∀ i d, c.state.requests.get i = some d →
    d.string .playId = some p → .deleteRequest i ∈ c.pending

/-- What a request says of its play an answer leaves, if it does not
create or remove the request. -/
theorem playId_of_answer {s : Server} {t : Task} {r : Reply} {i : String} {d : Doc PlayRequestTitle}
    (hset : ∀ data, t ≠ .setRequest i data)
    (hd : (answer s t r).1.requests.get i = some d) :
    ∃ b, s.requests.get i = some b ∧ b.string .playId = d.string .playId := by
  rcases answer_requests s t r with hq | ⟨j, data, rfl, hq⟩ | ⟨request, n, -, -, -, hq⟩ | ⟨j, -, hq⟩
  · exact ⟨d, hq ▸ hd, rfl⟩
  · rw [hq, Collection.get_set] at hd
    split at hd
    · rename_i hij
      exact absurd (hij ▸ rfl) (hset data)
    · exact ⟨d, hd, rfl⟩
  · rw [hq] at hd
    obtain ⟨b, hb, hsame⟩ := Server.exists_of_get_updateRequest hd
    exact ⟨b, hb, (hsame _ (by simp)).symm⟩
  · rw [hq, Collection.get_delete] at hd
    split at hd
    · cases hd
    · exact ⟨d, hd, rfl⟩

/-- **A step keeps the requests swept.** -/
theorem Swept.step (h : Swept p c) (hok : SavedBeforeQuery p c e)
    (hreply : ∀ i r, e = .answer i r → r = .ok) (hs : roster.step c e = some c') : Swept p c' := by
  rcases Machine.step_cases hs with ⟨a, s, ts, rfl, hi, rfl⟩ | ⟨i, r, t, rfl, ht, rfl⟩
  · rcases h with h | h
    · exact Or.inl (List.mem_append_left _ h)
    · refine Or.inr fun j d hd hp => List.mem_append_left _ (h j d ?_ hp)
      rwa [← (issue_eq hi).2.2]
  · obtain rfl := hreply i r rfl
    have hstay : ∀ {t'}, t' ∈ c.pending → t' ≠ t →
        t' ∈ c.pending.eraseIdx i ++ (answer c.state t .ok).2 := fun h' hne =>
      List.mem_append_left _ (Machine.mem_eraseIdx_of_ne ht h' hne)
    by_cases hquery : t = .queryRequests p
    · subst hquery
      refine Or.inr fun j d hd hp => List.mem_append_right _ ?_
      refine List.mem_map.2 ⟨(j, d), Collection.mem_query.2 ⟨hd, ?_⟩, rfl⟩
      exact beq_iff_eq.2 hp
    · rcases h with h | h
      · exact Or.inl (hstay h fun heq => hquery heq.symm)
      · by_cases hnew : ∃ j data, t = .setRequest j data ∧
            (Doc.setData data).string .playId = some p
        · obtain ⟨j, data, rfl, hp⟩ := hnew
          exact Or.inl (hstay (hok j data ht hp) (by simp))
        · refine Or.inr fun j d hd hp => ?_
          have hset : ∀ data, t ≠ .setRequest j data := by
            rintro data rfl
            rw [roster_answer, answer_ok, answerOk, Collection.get_set_self,
              Option.some.injEq] at hd
            exact hnew ⟨j, data, rfl, hd ▸ hp⟩
          obtain ⟨b, hb, hbd⟩ := playId_of_answer hset hd
          refine hstay (h j b hb (hbd.trans hp)) ?_
          rintro rfl
          rw [roster_answer, answer_ok, answerOk, Collection.get_delete_self] at hd
          cases hd

/-! ## What is in flight -/

/-- No answer puts a query in flight. -/
theorem queryRequests_not_mem_answer {s : Server} {t : Task} {r : Reply} (q : String) :
    .queryRequests q ∉ (answer s t r).2 := by
  intro h
  rcases mem_answer h with ⟨_, _, _, _, -, h⟩ | ⟨_, _, _, h⟩ | ⟨_, _, h⟩ | ⟨_, _, _, h⟩ |
    ⟨_, _, h⟩ | ⟨_, _, -, h⟩ <;> cases h

/-- The only removals an answer puts in flight are of requests a query for
their play answered. -/
theorem deleteRequest_mem_answer {s : Server} {t : Task} {r : Reply} {i : String}
    (h : .deleteRequest i ∈ (answer s t r).2) :
    ∃ q d, t = .queryRequests q ∧ s.requests.get i = some d ∧ d.string .playId = some q := by
  rcases mem_answer h with ⟨_, _, _, _, -, h'⟩ | ⟨_, _, _, h'⟩ | ⟨_, _, h'⟩ | ⟨_, _, _, h'⟩ |
    ⟨_, _, h'⟩ | ⟨q, _, rfl, -⟩
  · cases h'
  · cases h'
  · cases h'
  · cases h'
  · cases h'
  · cases r with
    | failed => cases h
    | ok =>
      obtain ⟨⟨k, d⟩, hd, hk⟩ := List.mem_map.1 h
      obtain rfl := Task.deleteRequest.inj hk
      obtain ⟨hget, hq⟩ := Collection.mem_query.1 hd
      exact ⟨q, d, rfl, hget, beq_iff_eq.1 hq⟩

/-- **Around a deletion**: ids are handed out once, no play is created, and
a request is removed that was stored. -/
structure Flight (c : Config Server Task) : Prop where
  fresh : Fresh c
  noPlay : ∀ i data f, .setPlay i data f ∉ c.pending
  stored : ∀ i, .deleteRequest i ∈ c.pending → ∃ s ∈ c.seen, s.Stores i

/-- The calls around a deletion put no removal, no new play and no query
in flight. -/
theorem issue_around {a : Call} {s s' : Server} {ts : List Task} (ha : Around p c (.call a))
    (hi : issue s a = some (s', ts)) :
    (∀ i data f, .setPlay i data f ∉ ts) ∧ (∀ i, .deleteRequest i ∉ ts) ∧
      ∀ q, .queryRequests q ∉ ts := by
  cases a with
  | saveRequest =>
    obtain ⟨-, -, rfl⟩ := allocate_eq_some.1 hi
    simp [RequestDataManager.saveRequest]
  | updateRequest | cancelRequest =>
    obtain ⟨-, rfl⟩ := Prod.mk.inj (Option.some.inj hi)
    simp [RequestDataManager.updateRequest, RequestDataManager.cancelRequest]
  | savePlay | updatePlay | deletePlay => exact ha.elim

/-- The deletion itself puts no other removal and no new play in flight. -/
theorem issue_deletePlay {play : Play} {s s' : Server} {ts : List Task}
    (hi : issue s (.deletePlay play) = some (s', ts)) :
    (∀ i data f, .setPlay i data f ∉ ts) ∧ ∀ i, .deleteRequest i ∉ ts := by
  obtain ⟨-, rfl⟩ := Prod.mk.inj (Option.some.inj hi)
  rw [deletePlay_eq]
  simp

theorem Flight.step (h : Flight c)
    (hok : Around p c e ∨ ∃ play, e = .call (.deletePlay play)) (hs : roster.step c e = some c') :
    Flight c' := by
  have hfresh := h.fresh.step hs
  rcases Machine.step_cases hs with ⟨a, s, ts, rfl, hi, rfl⟩ | ⟨i, r, t, rfl, ht, rfl⟩
  · obtain ⟨hplay, hdel⟩ : (∀ i data f, .setPlay i data f ∉ ts) ∧ ∀ i, .deleteRequest i ∉ ts := by
      rcases hok with hok | ⟨play, he⟩
      · obtain ⟨hplay, hdel, -⟩ := issue_around hok hi
        exact ⟨hplay, hdel⟩
      · obtain rfl := Event.call.inj he
        exact issue_deletePlay hi
    refine ⟨hfresh, fun j data f hj => ?_, fun j hj => ?_⟩
    · exact (List.mem_append.1 hj).elim (h.noPlay j data f) (hplay j data f)
    · obtain ⟨s', hs', hst⟩ := h.stored j ((List.mem_append.1 hj).resolve_right (hdel j))
      exact ⟨s', List.mem_cons_of_mem _ hs', hst⟩
  · refine ⟨hfresh, fun j data f hj => ?_, fun j hj => ?_⟩
    · rcases Machine.mem_eraseIdx_append hj with hj | hj
      · exact h.noPlay j data f hj
      · rcases mem_answer hj with ⟨_, _, _, _, -, hj⟩ | ⟨_, _, _, hj⟩ | ⟨_, _, hj⟩ | ⟨_, _, _, hj⟩ |
          ⟨_, _, hj⟩ | ⟨_, _, -, hj⟩ <;> cases hj
    · rcases Machine.mem_eraseIdx_append hj with hj | hj
      · obtain ⟨s', hs', hst⟩ := h.stored j hj
        exact ⟨s', List.mem_cons_of_mem _ hs', hst⟩
      · -- what the query answers is stored
        obtain ⟨q, d, -, hd, -⟩ := deleteRequest_mem_answer hj
        refine ⟨c.state, List.mem_cons_of_mem _ List.mem_cons_self, Or.inr ?_⟩
        rw [hd]
        rfl

/-! ## The play -/

/-- The play is gone or about to be. -/
def Gone (p : String) (c : Config Server Task) : Prop :=
  .deletePlay p ∈ c.pending ∨ c.state.plays.get p = none

theorem Gone.step (h : Gone p c) (hf : Flight c) (hreply : ∀ i r, e = .answer i r → r = .ok)
    (hs : roster.step c e = some c') : Gone p c' := by
  rcases Machine.step_cases hs with ⟨a, s, ts, rfl, hi, rfl⟩ | ⟨i, r, t, rfl, ht, rfl⟩
  · rcases h with h | h
    · exact Or.inl (List.mem_append_left _ h)
    · exact Or.inr (by rw [(issue_eq hi).2.1, h])
  · obtain rfl := hreply i r rfl
    by_cases hmine : t = .deletePlay p
    · subst hmine
      exact Or.inr (Collection.get_delete_self _ _)
    · rcases h with h | h
      · refine Or.inl (List.mem_append_left _ ?_)
        exact Machine.mem_eraseIdx_of_ne ht h fun heq => hmine heq.symm
      · refine Or.inr ?_
        rw [roster_answer]
        rcases answer_plays c.state t .ok with hp | ⟨j, data, f, rfl, -⟩ | ⟨q, data, -, hp⟩ |
          ⟨q, -, hp⟩
        · rw [hp, h]
        · exact absurd (List.mem_of_getElem? ht) (hf.noPlay j data f)
        · rw [hp, Collection.get_modify]
          split
          · rename_i hq
            rw [← hq, h, Option.map_none]
          · exact h
        · rw [hp, Collection.get_delete]
          split
          · rfl
          · exact h

/-! ## A request that stays -/

/-- A request for the play that nothing in flight removes. -/
def Remains (p : String) (c : Config Server Task) : Prop :=
  .queryRequests p ∉ c.pending ∧ ∃ i d, c.state.requests.get i = some d ∧
    d.string .playId = some p ∧ .deleteRequest i ∉ c.pending

/-- **A request that stays stays for good.** -/
theorem Remains.step (h : Remains p c) (hf : Flight c) (hok : Around p c e)
    (hs : roster.step c e = some c') : Remains p c' := by
  obtain ⟨hquery, i, d, hd, hp, hdel⟩ := h
  rcases Machine.step_cases hs with ⟨a, s, ts, rfl, hi, rfl⟩ | ⟨k, r, t, rfl, ht, rfl⟩
  · obtain ⟨-, hnoDelete, hnoQuery⟩ := issue_around hok hi
    refine ⟨fun hq => ?_, i, d, by rw [(issue_eq hi).2.2, hd], hp, fun hi' => ?_⟩
    · exact (List.mem_append.1 hq).elim hquery (hnoQuery p)
    · exact (List.mem_append.1 hi').elim hdel (hnoDelete i)
  · have hpending : t ∈ c.pending := List.mem_of_getElem? ht
    have hstays : ∃ d', (answer c.state t r).1.requests.get i = some d' ∧
        d'.string .playId = some p := by
      rcases answer_requests c.state t r with hq | ⟨j, data, rfl, hq⟩ | ⟨request, n, -, -, -, hq⟩ |
        ⟨j, rfl, hq⟩
      · exact ⟨d, by rw [hq, hd], hp⟩
      · have hij : i ≠ j := by
          rintro rfl
          refine hf.fresh.unused i (List.mem_filterMap.2 ⟨_, hpending, rfl⟩) c.state
            List.mem_cons_self (Or.inr ?_)
          rw [hd]
          rfl
        exact ⟨d, by rw [hq, Collection.get_set_of_ne _ _ hij, hd], hp⟩
      · rw [hq, Server.get_requests_updateRequest]
        by_cases hi : i = request.id
        · subst hi
          rw [if_pos rfl, hd]
          exact ⟨_, rfl, by simpa using hp⟩
        · exact ⟨d, by rw [if_neg hi, hd], hp⟩
      · have hij : i ≠ j := fun hij => hdel (hij ▸ hpending)
        exact ⟨d, by rw [hq, Collection.get_delete_of_ne _ hij, hd], hp⟩
    obtain ⟨d', hd', hp'⟩ := hstays
    refine ⟨fun hq => ?_, i, d', hd', hp', fun hi => ?_⟩
    · rcases Machine.mem_eraseIdx_append hq with hq | hq
      · exact hquery hq
      · exact queryRequests_not_mem_answer p hq
    · rcases Machine.mem_eraseIdx_append hi with hi | hi
      · exact hdel hi
      · obtain ⟨q, b, rfl, hb, hbq⟩ := deleteRequest_mem_answer hi
        obtain rfl := Option.some.inj (hd.symm.trans hb)
        obtain rfl := Option.some.inj (hp.symm.trans hbq)
        exact hquery hpending

/-- **A request stored after the query stays.** -/
theorem remains_of_late (hf : Flight c) (hok : Around p c e) (hlate : ¬SavedBeforeQuery p c e)
    (hs : roster.step c e = some c') : Remains p c' := by
  rcases Machine.step_cases hs with ⟨a, s, ts, rfl, -, -⟩ | ⟨i, r, t, rfl, ht, rfl⟩
  · exact absurd trivial hlate
  · simp only [SavedBeforeQuery, not_forall] at hlate
    obtain ⟨j, data, ht', hp, hquery⟩ := hlate
    obtain rfl := Option.some.inj (ht.symm.trans ht')
    obtain rfl : r = .ok := hok
    have hpending := List.mem_of_getElem? ht
    refine ⟨fun hq => ?_, j, _, Collection.get_set_self _ _ _, hp, fun hj => ?_⟩
    · have hq' := (List.mem_append.1 hq).resolve_right (queryRequests_not_mem_answer p)
      exact hquery (List.mem_of_mem_eraseIdx hq')
    · have hj' := (List.mem_append.1 hj).resolve_right (by simp [answerOk])
      obtain ⟨s, hs, hst⟩ := hf.stored j (List.mem_of_mem_eraseIdx hj')
      exact hf.fresh.unused j (List.mem_filterMap.2 ⟨_, hpending, rfl⟩) s hs hst

/-! ## Runs around a deletion -/

/-- No request names the play. -/
def NoRequestNames (p : String) (s : Server) : Prop :=
  ∀ i d, s.requests.get i = some d → d.string .playId ≠ some p

/-- No user's list names the play. -/
def NoListNames (p : String) (s : Server) : Prop :=
  ∀ u l, s.myPlayList u = some l → p ∉ l

variable {c₀ : Config Server Task} {evs : List (Event Call Reply)}

theorem Flight.of_run (h : Flight c₀) (hrun : roster.Run (Around p) c₀ evs c) : Flight c :=
  hrun.invariant h fun _ _ _ hf hok hs => hf.step (Or.inl hok) hs

theorem reply_of_around : ∀ {c : Config Server Task} {e : Event Call Reply}, Around p c e →
    ∀ i r, e = .answer i r → r = .ok := by
  rintro c e hok i r rfl
  exact hok

theorem keyed_of_run {ok : Config Server Task → Event Call Reply → Prop}
    (h : c₀.state.UsersKeyed) (hrun : roster.Run ok c₀ evs c) : c.state.UsersKeyed := by
  refine hrun.invariant (I := fun c => c.state.UsersKeyed) h fun c e c' hk _ hs => ?_
  rcases Machine.step_cases hs with ⟨a, s, ts, -, hi, rfl⟩ | ⟨i, r, t, -, -, rfl⟩
  · exact hk.issue hi
  · exact hk.answer t r

/-- **The play is gone in the end.** -/
theorem get_plays_of_run (h : Gone p c₀) (hf : Flight c₀) (hrun : roster.Run (Around p) c₀ evs c)
    (hdone : c.pending = []) : c.state.plays.get p = none := by
  have hgone := hrun.invariant (I := fun c => Flight c ∧ Gone p c) ⟨hf, h⟩
    fun c e c' ⟨hf, hg⟩ hok hs =>
      ⟨hf.step (Or.inl hok) hs, hg.step hf (reply_of_around hok) hs⟩
  refine hgone.2.resolve_left ?_
  rw [hdone]
  exact List.not_mem_nil

/-- **No request names the play in the end exactly when each was stored
before the query.** -/
theorem noRequestNames_iff (h : Swept p c₀) (hf : Flight c₀)
    (hrun : roster.Run (Around p) c₀ evs c) (hdone : c.pending = []) :
    NoRequestNames p c.state ↔ roster.Run (SavedBeforeQuery p) c₀ evs c := by
  constructor
  · intro hnone
    have hor : roster.Run (SavedBeforeQuery p) c₀ evs c ∨ Remains p c := by
      clear hdone hnone
      induction hrun with
      | nil => exact Or.inl .nil
      | @snoc evs c e c' hr hok hs ih =>
        have hfc := hf.of_run hr
        rcases ih with ih | ih
        · by_cases hsaved : SavedBeforeQuery p c e
          · exact Or.inl (ih.snoc hsaved hs)
          · exact Or.inr (remains_of_late hfc hok hsaved hs)
        · exact Or.inr (ih.step hfc hok hs)
    refine hor.resolve_right ?_
    rintro ⟨-, i, d, hd, hp, -⟩
    exact hnone i d hd hp
  · intro hsaved i d hd hp
    have hswept := (Machine.Run.and_iff.2 ⟨hrun, hsaved⟩).invariant (I := Swept p) h
      fun c e c' hsw hok hs => hsw.step hok.2 (reply_of_around hok.1) hs
    rcases hswept with hq | hq
    · rw [hdone] at hq
      cases hq
    · have hi := hq i d hd hp
      rw [hdone] at hi
      cases hi

/-- **No list names the play in the end, where every list that did was
written before the clean-up read it.** -/
theorem noListNames_of_run (h : ∀ u, Cleared p u c₀) (hkeyed : c₀.state.UsersKeyed)
    (hrun : roster.Run (Around p) c₀ evs c)
    (hwritten : roster.Run (WrittenBeforeRead p) c₀ evs c) (hdone : c.pending = []) :
    NoListNames p c.state := by
  have hboth := Machine.Run.and_iff.2 ⟨hrun, hwritten⟩
  have hcleared := (hboth.strengthen fun _ _ hr => keyed_of_run hkeyed hr).invariant
    (I := fun c => ∀ u, Cleared p u c) h
    fun c e c' hcl ⟨⟨hok, hw⟩, hk⟩ hs u => (hcl u).step hk hw (reply_of_around hok) hs
  intro u l hl
  rcases hcleared u with hmem | hnone | ⟨m, hmem, -⟩
  · rw [hdone] at hmem
    cases hmem
  · exact hnone l hl
  · rw [hdone] at hmem
    cases hmem

/-- **A play deleted while others ask to join it, are let in, and leave.**
The play is gone in the end. The requests are gone exactly when each was
stored before the deletion queried them. The lists are clear of it if the
copy of the roster names everybody whose list does when the play is
deleted, and every list that names it is written before the deletion reads
it, with the play in it once. -/
theorem deleted_of_run {s₀ : Server} {play : Play} {c₁ c₂ : Config Server Task}
    {evs₁ evs₂ : List (Event Call Reply)} (hstored : ∀ i, s₀.Stores i → i ∈ s₀.allocated)
    (hkeyed : s₀.UsersKeyed) (hbefore : roster.Run (Around play.id) (Config.start s₀) evs₁ c₁)
    (hdelete : roster.step c₁ (.call (.deletePlay play)) = some c₂)
    (hafter : roster.Run (Around play.id) c₂ evs₂ c) (hdone : c.pending = []) :
    c.state.plays.get play.id = none ∧
    (NoRequestNames play.id c.state ↔ roster.Run (SavedBeforeQuery play.id) c₂ evs₂ c) ∧
    ((∀ u l, c₁.state.myPlayList u = some l → play.id ∈ l → u ∈ play.playerInfo) →
      roster.Run (WrittenBeforeRead play.id) c₂ evs₂ c → NoListNames play.id c.state) := by
  have hstart : Flight (Config.start s₀) := ⟨Fresh.start hstored, by simp, by simp⟩
  have hflight : Flight c₂ :=
    (hstart.of_run hbefore).step (p := play.id) (Or.inr ⟨play, rfl⟩) hdelete
  have hkeyed₁ : c₁.state.UsersKeyed := keyed_of_run hkeyed hbefore
  obtain ⟨s, ts, hi, rfl⟩ := Machine.step_call.1 hdelete
  obtain ⟨rfl, rfl⟩ := Prod.mk.inj (Option.some.inj hi)
  have hts : ∀ t, t ∈ FinderDataManager.deletePlay play ↔ t = .deletePlay play.id ∨
      (∃ u ∈ play.playerInfo, .getUsers .removeFound play.id u = t) ∨
        t = .queryRequests play.id := by
    intro t
    simp only [deletePlay_eq, List.mem_cons, List.mem_append, List.mem_map, List.not_mem_nil,
      or_false]
  have hgone : Gone play.id ⟨c₁.state, c₁.seen, c₁.pending ++ FinderDataManager.deletePlay play⟩ :=
    Or.inl (List.mem_append_right _ ((hts _).2 (Or.inl rfl)))
  have hswept :
      Swept play.id ⟨c₁.state, c₁.seen, c₁.pending ++ FinderDataManager.deletePlay play⟩ :=
    Or.inl (List.mem_append_right _ ((hts _).2 (Or.inr (Or.inr rfl))))
  refine ⟨get_plays_of_run hgone hflight hafter hdone,
    noRequestNames_iff hswept hflight hafter hdone, fun hcopy hwritten => ?_⟩
  have hcleared : ∀ u, Cleared play.id u
      ⟨c₁.state, c₁.seen, c₁.pending ++ FinderDataManager.deletePlay play⟩ := by
    intro u
    by_cases hu : u ∈ play.playerInfo
    · exact Or.inl (List.mem_append_right _ ((hts _).2 (Or.inr (Or.inl ⟨u, hu, rfl⟩))))
    · exact Or.inr (Or.inl fun l hl hp => hu (hcopy u l hl hp))
  exact noListNames_of_run hcleared hkeyed₁ hafter hwritten hdone

/-- The play is in the list of exactly the players of its roster, once
each. -/
def ReferencesAgree (p : String) (s : Server) : Prop :=
  ∃ l, s.playerInfo p = some l ∧ l.Nodup ∧
    ∀ u m, s.myPlayList u = some m → m.count p = if u ∈ l then 1 else 0

namespace Sample

/-- A request is on its way to be stored. -/
def sending : List (Event Call Reply) :=
  [.call (.saveRequest (play "p" ["f"]) [] (some "u") "r" ⟨0, 0⟩), .answer 0 .ok]

/-- Where the request is on its way and the play is being deleted. -/
def deleting : Config Server Task where
  state := { onePlay with allocated := "r" :: onePlay.allocated }
  past := [{ onePlay with allocated := "r" :: onePlay.allocated },
    { onePlay with allocated := "r" :: onePlay.allocated }, onePlay]
  pending := [
    .setRequest "r" (RequestDataManager.saveRequestData (play "p" ["f"]) (some "u") ⟨0, 0⟩),
    .deletePlay "p", .getUsers .removeFound "p" "f", .queryRequests "p"]

theorem list_onePlay {u : String} {l : List String} (h : onePlay.myPlayList u = some l) :
    u = "f" ∧ l = ["p"] ∨ u = "u" ∧ l = [] := by
  obtain ⟨d, hd, hl⟩ := Option.bind_eq_some_iff.1 h
  obtain ⟨xs, hxs, rfl⟩ := get_users (by simp) hd
  obtain rfl : xs = l := Option.some.inj ((Value.asStrings_strings xs).symm.trans hl)
  simpa using hxs

end Sample

/-- The request is stored, the play deleted and its finder's list read and
written, and the request queried and removed. -/
theorem deleted_sending : ∃ c, roster.exec Sample.deleting [.answer 0 .ok, .answer 0 .ok,
      .answer 0 .ok, .answer 0 .ok, .answer 0 .ok, .answer 0 .ok] = some c ∧
    c.state.plays.get "p" = none ∧ NoRequestNames "p" c.state ∧ NoListNames "p" c.state := by
  have hbefore : roster.Run (Around "p") (Config.start Sample.onePlay) Sample.sending _ :=
    .of_exec ⟨rfl, rfl, trivial⟩ rfl
  have hafter : roster.Run (Around "p") Sample.deleting [.answer 0 .ok, .answer 0 .ok,
      .answer 0 .ok, .answer 0 .ok, .answer 0 .ok, .answer 0 .ok] _ :=
    .of_exec ⟨rfl, rfl, rfl, rfl, rfl, rfl, trivial⟩ rfl
  have hdelete : roster.step ⟨Sample.deleting.state, [Sample.deleting.state, Sample.onePlay],
      Sample.deleting.pending.take 1⟩ (.call (.deletePlay (Sample.play "p" ["f"]))) =
      some Sample.deleting := rfl
  obtain ⟨hplay, hrequests, hlists⟩ := deleted_of_run Sample.mem_allocated_store
    (Sample.usersKeyed (by simp) rfl) hbefore hdelete hafter rfl
  refine ⟨_, rfl, hplay, hrequests.2 ?_, hlists (fun u l hl hp => ?_) ?_⟩
  · refine .of_exec ⟨?_, ?_, ?_, ?_, ?_, ?_, trivial⟩ rfl
    · intro j data _ _
      exact List.mem_of_getElem? (i := 3) rfl
    all_goals rintro j data ⟨⟩
  · rcases Sample.list_onePlay hl with ⟨rfl, -⟩ | ⟨-, rfl⟩
    · exact List.mem_singleton_self _
    · cases hp
  · refine .of_exec ⟨⟨?_, ?_⟩, ⟨?_, ?_⟩, ⟨?_, ?_⟩, ⟨?_, ?_⟩, ⟨?_, ?_⟩, ⟨?_, ?_⟩, trivial⟩ rfl
    all_goals rintro u l ⟨⟩
    · intro h
      obtain rfl := Option.some.inj h
      decide
    · exact fun h => absurd h List.not_mem_nil

/-- **A request stored after the query outlives the play**: it was let
through before, and the deletion does not look again. -/
theorem not_deleted : ¬∀ (s₀ : Server) (play : Play) (c₁ c₂ c : Config Server Task)
    (evs₁ evs₂ : List (Event Call Reply)), (∀ i, s₀.Stores i → i ∈ s₀.allocated) →
    s₀.UsersKeyed → ReferencesAgree play.id s₀ →
    roster.Run (Around play.id) (Config.start s₀) evs₁ c₁ → LoadedPlay c₁.seen play →
    roster.step c₁ (.call (.deletePlay play)) = some c₂ →
    roster.Run (Around play.id) c₂ evs₂ c → c.pending = [] →
    c.state.plays.get play.id = none ∧ NoListNames play.id c.state ∧
      NoRequestNames play.id c.state := by
  intro h
  have hbefore : roster.Run (Around "p") (Config.start Sample.onePlay) Sample.sending _ :=
    .of_exec ⟨rfl, rfl, trivial⟩ rfl
  have hafter : roster.Run (Around "p") Sample.deleting [.answer 3 .ok, .answer 0 .ok,
      .answer 0 .ok, .answer 0 .ok, .answer 0 .ok] _ :=
    .of_exec ⟨rfl, rfl, rfl, rfl, rfl, trivial⟩ rfl
  have hagree : ReferencesAgree "p" Sample.onePlay := by
    refine ⟨["f"], rfl, by simp, fun u l hl => ?_⟩
    rcases Sample.list_onePlay hl with ⟨rfl, rfl⟩ | ⟨rfl, rfl⟩ <;> decide
  obtain ⟨-, -, hnone⟩ := h _ (Sample.play "p" ["f"]) _ _ _ _ _ Sample.mem_allocated_store
    (Sample.usersKeyed (by simp) rfl) hagree hbefore ⟨_, List.mem_cons_self, _, ⟨0, 0⟩, rfl, rfl⟩
    rfl hafter rfl
  exact hnone "r" _ rfl rfl

/-- **A list that is written after the clean-up outlives the play**: the
sender is let in, and is not in the copy of the roster. -/
theorem not_noListNames : ¬∀ (s₀ : Server) (play : Play) (c₁ c₂ c : Config Server Task)
    (evs₁ evs₂ : List (Event Call Reply)), (∀ i, s₀.Stores i → i ∈ s₀.allocated) →
    s₀.UsersKeyed → ReferencesAgree play.id s₀ →
    roster.Run (Around play.id) (Config.start s₀) evs₁ c₁ → LoadedPlay c₁.seen play →
    roster.step c₁ (.call (.deletePlay play)) = some c₂ →
    roster.Run (Around play.id) c₂ evs₂ c → c.pending = [] → NoListNames play.id c.state := by
  intro h
  have hbefore : roster.Run (Around "p") (Config.start (Sample.oneRequest 0))
      [.call (.updateRequest (Sample.request "r" "u" "p" 0) 99), .answer 0 .ok] _ :=
    .of_exec ⟨rfl, rfl, trivial⟩ rfl
  have hagree : ReferencesAgree "p" (Sample.oneRequest 0) := by
    refine ⟨["f"], rfl, by simp, fun u l hl => ?_⟩
    rcases Sample.list_onePlay hl with ⟨rfl, rfl⟩ | ⟨rfl, rfl⟩ <;> decide
  have hlists := h _ (Sample.play "p" ["f"]) _ _ _ _ (List.replicate 9 (.answer 0 .ok))
    Sample.mem_allocated_store (Sample.usersKeyed (by simp) rfl) hagree hbefore
    ⟨_, List.mem_cons_self, _, ⟨0, 0⟩, rfl, rfl⟩ rfl
    (.of_exec ⟨rfl, rfl, rfl, rfl, rfl, rfl, rfl, rfl, rfl, trivial⟩ rfl) rfl
  exact hlists "u" _ rfl List.mem_cons_self

end Volleyer
