import Volleyer.Roster.Exact
import Volleyer.Roster.Sample

/-!
# The roster — serial runs

The two operations on a whole play, the dispatch of a call to the
operation it is, and what every serial run from an empty roster keeps.
-/

namespace Volleyer

variable {s : Server} {p u : String} {accepted : List String}

/-! ## Editing and deleting a play -/

/-- The document of a user after the clean-up of a deletion. -/
theorem get_users_foldl_editUser (s : Server) (p : String) {us : List String} (hus : us.Nodup)
    (v : String) :
    (us.foldl (fun s u => s.editUser .removeFound p u) s).users.get v =
      if v ∈ us then (s.users.get v).map (editUserDoc .removeFound p) else s.users.get v := by
  induction us generalizing s with
  | nil => simp
  | cons u us ih =>
    obtain ⟨hu, hus⟩ := List.nodup_cons.1 hus
    rw [List.foldl_cons, ih _ hus, Server.editUser, Collection.get_modify]
    by_cases hvu : v = u
    · subst hvu
      simp [hu]
    · simp [hvu]

/-- The list of a user after the clean-up of a deletion. -/
theorem myPlayList_foldl_editUser (s : Server) (p : String) {us : List String} (hus : us.Nodup)
    (v : String) :
    (us.foldl (fun s u => s.editUser .removeFound p u) s).myPlayList v =
      if v ∈ us then (s.myPlayList v).map (·.erase p) else s.myPlayList v := by
  induction us generalizing s with
  | nil => simp
  | cons u us ih =>
    obtain ⟨hu, hus⟩ := List.nodup_cons.1 hus
    have hone : (s.editUser .removeFound p u).myPlayList v =
        if v = u then (s.myPlayList u).map (·.erase p) else s.myPlayList v := by
      rw [Server.myPlayList_editUser]
      congr 2
      funext l
      rw [ListEdit.callback_removeFound_getD, ListEdit.callback_remove, Option.getD_some]
    rw [List.foldl_cons, ih _ hus, hone]
    by_cases hvu : v = u
    · subst hvu
      simp [hu]
    · simp [hvu]

/-- The clean-up touches user documents only. -/
theorem foldl_editUser_frame (s : Server) (p : String) (us : List String) :
    (us.foldl (fun s u => s.editUser .removeFound p u) s).plays = s.plays ∧
      (us.foldl (fun s u => s.editUser .removeFound p u) s).requests = s.requests ∧
      (us.foldl (fun s u => s.editUser .removeFound p u) s).allocated = s.allocated ∧
      ∀ v, ((us.foldl (fun s u => s.editUser .removeFound p u) s).users.get v).isSome =
        (s.users.get v).isSome := by
  induction us generalizing s with
  | nil => exact ⟨rfl, rfl, rfl, fun _ => rfl⟩
  | cons u us ih =>
    obtain ⟨h1, h2, h3, h4⟩ := ih (s.editUser .removeFound p u)
    exact ⟨h1, h2, h3, fun v => (h4 v).trans (s.isSome_users_editUser _ _ _ _)⟩

/-- What a deletion does alone. -/
theorem foldl_effect_deletePlay (s : Server) (play : Play) :
    (FinderDataManager.deletePlay play).foldl effect s =
      { play.playerInfo.foldl (fun s u => s.editUser .removeFound play.id u)
          { s with plays := s.plays.delete play.id } with
        requests := s.requests.keep fun e => !(e.2.string .playId == some play.id) } := by
  set s₁ := play.playerInfo.foldl (fun s u => s.editUser .removeFound play.id u)
    { s with plays := s.plays.delete play.id } with hs₁
  have hrequests : s₁.requests = s.requests := (foldl_editUser_frame _ play.id _).2.1
  rw [deletePlay_eq, List.foldl_cons, List.foldl_append, List.foldl_map, ← hrequests]
  rfl

namespace Exact

/-- **`updatePlay` keeps the invariant**: it names neither the finder nor
the roster. -/
theorem updatePlay (h : Exact accepted s) (play : Play) :
    Exact accepted (s.updatePlay play.id (FinderDataManager.updatePlayData play)) := by
  have hinfo : ∀ q, (s.updatePlay play.id (FinderDataManager.updatePlayData play)).playerInfo q =
      s.playerInfo q := by
    intro q
    simp only [Server.playerInfo, Server.updatePlay, Collection.get_modify]
    split
    · rename_i hq
      subst hq
      cases s.plays.get play.id <;> rfl
    · rfl
  have hfinder : ∀ q, (s.updatePlay play.id (FinderDataManager.updatePlayData play)).finderId q =
      s.finderId q := by
    intro q
    simp only [Server.finderId, Server.updatePlay, Collection.get_modify]
    split
    · rename_i hq
      subst hq
      cases s.plays.get play.id <;> rfl
    · rfl
  refine ⟨?_, fun q hq => ?_, ?_, h.unique, h.nodup, h.known, h.complete⟩
  · simp only [hinfo]
    exact h.lists
  · rw [hfinder, hinfo]
    refine h.plays q ?_
    rw [Server.updatePlay, Collection.get_modify] at hq
    split at hq
    · rename_i he
      rw [Option.isSome_map] at hq
      exact he ▸ hq
    · exact hq
  · simp only [Server.Requests, hfinder]
    exact h.requests

/-- **`deletePlay` of the current value keeps the invariant**: its roster
is the one the lists of plays agree with. -/
theorem deletePlay (h : Exact accepted s) {play : Play} (hplay : CurrentPlay s play) :
    Exact accepted ((FinderDataManager.deletePlay play).foldl effect s) := by
  obtain ⟨d, t, hd, hdec⟩ := hplay
  obtain ⟨-, f, -, hinfo, hnodup⟩ := h.plays play.id (by rw [hd]; rfl)
  have hroster : s.playerInfo play.id = some play.playerInfo := by
    rw [hinfo, ← hdec]
    rw [Server.playerInfo, hd, Option.bind_some] at hinfo
    simp only [decodePlay, hinfo, Option.getD_some]
  rw [hroster, Option.some.injEq] at hinfo
  rw [← hinfo] at hnodup
  set p := play.id with hp
  set us := play.playerInfo with hus
  set s₁ := us.foldl (fun s u => s.editUser .removeFound p u)
    { s with plays := s.plays.delete p } with hs₁
  have hfold : (FinderDataManager.deletePlay play).foldl effect s =
      { s₁ with requests := s.requests.keep fun e => !(e.2.string .playId == some p) } :=
    foldl_effect_deletePlay s play
  obtain ⟨hfp, -, hfa, hfu⟩ := foldl_editUser_frame { s with plays := s.plays.delete p } p us
  set s' : Server :=
    { s₁ with requests := s.requests.keep fun e => !(e.2.string .playId == some p) } with hs'
  rw [hfold]
  have hplays : ∀ q, s'.plays.get q = if q = p then none else s.plays.get q := by
    intro q
    change s₁.plays.get q = _
    rw [hs₁, hfp]
    exact Collection.get_delete _ _ _
  have hinfo' : ∀ q, s'.playerInfo q = if q = p then none else s.playerInfo q := by
    intro q
    rw [Server.playerInfo, hplays]
    split <;> rfl
  have hfinder : ∀ q, q ≠ p → s'.finderId q = s.finderId q := by
    intro q hq
    rw [Server.finderId, hplays, if_neg hq, Server.finderId]
  -- the requests that stay are those of the other plays
  have hget : ∀ j e, s'.requests.get j = some e ↔
      s.requests.get j = some e ∧ e.string .playId ≠ some p := by
    intro j e
    change (s.requests.keep _).get j = some e ↔ _
    rw [Collection.get_keep, Option.filter_eq_some_iff]
    simp
  have hstatus : ∀ j n, s'.status j = some n → s.status j = some n := by
    intro j n hj
    obtain ⟨e, he, hn⟩ := Option.bind_eq_some_iff.1 hj
    rw [Server.status, ((hget j e).1 he).1, Option.bind_some, hn]
  have hseat : ∀ q j, q ≠ p → s'.seat q j = s.seat q j := by
    intro q j hq
    ext v
    rw [Server.seat_eq_some, Server.seat_eq_some]
    refine exists_congr fun e => ⟨?_, ?_⟩
    · rintro ⟨he, hrest⟩
      exact ⟨((hget j e).1 he).1, hrest⟩
    · rintro ⟨he, hrest⟩
      exact ⟨(hget j e).2 ⟨he, fun hep => hq (Option.some.inj (hrest.1.symm.trans hep))⟩, hrest⟩
  have hlist : ∀ v, s'.myPlayList v =
      if v ∈ us then (s.myPlayList v).map (·.erase p) else s.myPlayList v := by
    intro v
    change s₁.myPlayList v = _
    rw [hs₁, myPlayList_foldl_editUser _ p hnodup]
    rfl
  have husers : ∀ v, (s'.users.get v).isSome → (s.users.get v).isSome := by
    intro v hv
    change (s₁.users.get v).isSome at hv
    rwa [hs₁, hfu] at hv
  have hlists := h.lists_of_play husers (fun q hq => by rw [hinfo', if_neg hq]) (by
    intro v l hl hn hmem
    have hpl : p ∈ l ↔ v ∈ us := by
      rw [hmem, hroster]
      simp
    rw [hlist, hl, hinfo', if_pos rfl]
    by_cases hvu : v ∈ us
    · obtain ⟨hn', hrest, hgone⟩ := erase_drops hn p
      rw [if_pos hvu]
      exact ⟨l.erase p, rfl, hn', hrest, by simp [hgone]⟩
    · rw [if_neg hvu]
      exact ⟨l, rfl, hn, fun _ _ => Iff.rfl, by simp [hpl, hvu]⟩)
  refine ⟨hlists, fun q hq => ?_, fun j e he => ?_, fun j k e e' he he' => ?_, h.nodup,
    fun j hj => ?_, fun j hj => h.complete j (hstatus j 99 hj)⟩
  · rw [hplays] at hq
    split at hq
    · cases hq
    · rename_i hqp
      obtain ⟨ha, g, hg, hi, hn⟩ := h.plays q hq
      have hsenders : accepted.filterMap (s'.seat q) = accepted.filterMap (s.seat q) :=
        List.filterMap_congr fun j _ => hseat q j hqp
      rw [hsenders, hfinder q hqp, hinfo', if_neg hqp]
      refine ⟨?_, g, hg, hi, hn⟩
      change q ∈ s₁.allocated
      rwa [hs₁, hfa]
  · obtain ⟨he, hep⟩ := (hget j e).1 he
    obtain ⟨ha, v, q, hv, hq, g, hg, hfg, hne⟩ := h.requests j e he
    refine ⟨?_, v, q, hv, hq, g, hg, ?_, hne⟩
    · change j ∈ s₁.allocated
      rwa [hs₁, hfa]
    · rw [hfinder q fun hqp => hep (by rw [hq, hqp]), hfg]
  · exact h.unique j k e e' ((hget j e).1 he).1 ((hget k e').1 he').1
  · refine ⟨?_, fun h0 => (h.known j hj).2 (hstatus j 0 h0)⟩
    change j ∈ s₁.allocated
    rw [hs₁, hfa]
    exact (h.known j hj).1

end Exact

/-! ## Calls -/

/-- The tasks of a deletion work on different documents. -/
theorem pairwise_deletePlay {play : Play} (h : play.playerInfo.Nodup) :
    (FinderDataManager.deletePlay play).Pairwise Apart := by
  rw [deletePlay_eq, List.pairwise_cons, List.pairwise_append, List.pairwise_map]
  refine ⟨fun t ht => ?_, h.imp fun {a b} hab => ?_, List.pairwise_singleton _ _,
    fun t ht t' ht' => ?_⟩
  · rcases List.mem_append.1 ht with ht | ht
    · obtain ⟨u, -, rfl⟩ := List.mem_map.1 ht
      exact ⟨.play _, .user u, rfl, rfl, by simp⟩
    · obtain rfl := List.mem_singleton.1 ht
      exact ⟨.play _, .requests, rfl, rfl, by simp⟩
  · exact ⟨.user a, .user b, rfl, rfl, fun e => absurd (Lane.user.inj e) hab⟩
  · obtain ⟨u, -, rfl⟩ := List.mem_map.1 ht
    obtain rfl := List.mem_singleton.1 ht'
    exact ⟨.user u, .requests, rfl, rfl, by simp⟩

/-- Any other call accepts nothing. -/
theorem append_acceptCall {e : Event Call Reply} (h : acceptCall e = none) :
    accepted ++ (acceptCall e).toList = accepted := by
  rw [h, Option.toList_none, List.append_nil]

/-- **A call on current values keeps the invariant**, its callbacks
played out, and its tasks are apart. -/
theorem Exact.call (h : Exact accepted s) {a : Call} {s' : Server} {ts : List Task}
    (ha : CurrentCall s a) (hi : issue s a = some (s', ts)) :
    ts.Pairwise Apart ∧
      Exact (accepted ++ (acceptCall (.call a)).toList) (ts.foldl effect s') := by
  cases a with
  | savePlay play i now =>
    obtain ⟨hnew, rfl, rfl⟩ := allocate_eq_some.1 hi
    rw [append_acceptCall rfl]
    exact ⟨List.pairwise_singleton _ _, h.savePlay hnew play now⟩
  | updatePlay play =>
    obtain ⟨rfl, rfl⟩ := Prod.mk.inj (Option.some.inj hi)
    rw [append_acceptCall rfl]
    exact ⟨List.pairwise_singleton _ _, h.updatePlay play⟩
  | deletePlay play =>
    obtain ⟨rfl, rfl⟩ := Prod.mk.inj (Option.some.inj hi)
    rw [append_acceptCall rfl]
    refine ⟨pairwise_deletePlay ?_, h.deletePlay ha⟩
    obtain ⟨d, t, hd, hdec⟩ := ha
    obtain ⟨f, -, hinfo, -⟩ := h.agrees.roster play.id d hd
    rw [← hdec]
    simp only [decodePlay, hinfo, Option.getD_some]
    exact h.agrees.nodup play.id _ (by rw [Server.playerInfo, hd, Option.bind_some, hinfo])
  | saveRequest play players me i now =>
    obtain ⟨hnew, rfl, rfl⟩ := allocate_eq_some.1 hi
    obtain ⟨hplay, u, rfl, hu⟩ := ha
    rw [append_acceptCall rfl]
    exact ⟨List.pairwise_singleton _ _, h.saveRequest hnew now hplay hu⟩
  | updateRequest request status =>
    obtain ⟨rfl, rfl⟩ := Prod.mk.inj (Option.some.inj hi)
    obtain ⟨hcur, h0, hst⟩ := ha
    obtain ⟨d, hd, hu, hp, -⟩ := hcur.exists_doc
    obtain ⟨-, v, q, hv, hq, -⟩ := h.requests _ d hd
    rw [hv, Option.getD_some] at hu
    rw [hq, Option.getD_some] at hp
    refine ⟨List.pairwise_singleton _ _, ?_⟩
    change Exact _ (effect s (.updateStatus request status))
    rw [Server.status, hd, Option.bind_some] at h0
    rcases hst with rfl | rfl
    · simp only [effect, hd, if_true]
      exact h.accept hd (hu ▸ hv) (hp ▸ hq) h0
    · rw [append_acceptCall rfl]
      simp only [effect, hd]
      exact h.setStatus (by rw [Server.status, hd, Option.bind_some, h0]; decide) (by decide)
        (by decide)
  | cancelRequest request =>
    obtain ⟨rfl, rfl⟩ := Prod.mk.inj (Option.some.inj hi)
    obtain ⟨hcur, -⟩ := ha
    obtain ⟨d, hd, hu, hp, hst⟩ := hcur.exists_doc
    obtain ⟨-, v, q, hv, hq, -⟩ := h.requests _ d hd
    rw [hv, Option.getD_some] at hu
    rw [hq, Option.getD_some] at hp
    rw [append_acceptCall rfl]
    refine ⟨List.pairwise_singleton _ _, ?_⟩
    change Exact _ (effect s (.cancelStatus request))
    -- the value the call was given has the stored status
    have hiff : request.status = 99 ↔ d.int .status = some 99 := by
      rw [hst]
      cases d.int .status <;> simp
    simp only [effect, hd]
    split
    · rename_i h99
      exact h.cancel hd (hu ▸ hv) (hp ▸ hq) (hiff.1 h99)
    · rename_i h99
      refine h.setStatus ?_ (by decide) (by decide)
      rw [Server.status, hd, Option.bind_some]
      exact fun e => h99 (hiff.2 e)

/-! ## Runs -/

/-- A store with no play and no request is exact. -/
theorem Exact.empty (hlists : ∀ u d, s.users.get u = some d → d.strings .myPlayList = some [])
    (hplays : ∀ p, s.plays.get p = none) (hrequests : ∀ r, s.requests.get r = none) :
    Exact [] s where
  lists u hu := by
    obtain ⟨d, hd⟩ := Option.isSome_iff_exists.1 hu
    refine ⟨[], by rw [Server.myPlayList, hd, Option.bind_some, hlists u d hd], List.nodup_nil,
      fun p => ?_⟩
    simp [Server.playerInfo, hplays]
  plays p hp := by simp [hplays] at hp
  requests i d hd := by simp [hrequests] at hd
  unique i j d e hd := by simp [hrequests] at hd
  nodup := List.nodup_nil
  known i hi := by simp at hi
  complete i hi := by simp [Server.status, hrequests] at hi

/-- **Serial runs keep the roster exact.** From users with empty lists,
no plays and no requests, whenever an operation has finished the three
records of who plays agree. -/
theorem rosterAgrees_of_serial {s₀ : Server} {evs : List (Event Call Reply)}
    {c : Config Server Task} (hkeyed : s₀.UsersKeyed)
    (hlists : ∀ u d, s₀.users.get u = some d → d.strings .myPlayList = some [])
    (hplays : ∀ p, s₀.plays.get p = none) (hrequests : ∀ r, s₀.requests.get r = none)
    (hrun : roster.Run Serial (Config.start s₀) evs c) (hdone : c.pending = []) :
    RosterAgrees (acceptedIn evs) c.state := by
  have hinv := settles.serial (I := fun evs s => Exact (acceptedIn evs) s) hrun rfl hkeyed
    (Exact.empty hlists hplays hrequests) (fun _ _ h => h.1) (fun _ _ _ h _ _ => h)
    (fun evs i r s h => by
      rwa [acceptedIn, List.filterMap_append, show [Event.answer i r].filterMap acceptCall =
        [] from rfl, List.append_nil])
    (fun evs c a s ts _ _ hg h hok hi => by
      obtain ⟨hap, hex⟩ := h.call hok.2 hi
      refine ⟨hg.issue hi, hap, ?_⟩
      have hone : [Event.call a].filterMap acceptCall = (acceptCall (.call a)).toList := by
        cases hacc : acceptCall (.call a) <;> simp [hacc]
      rwa [acceptedIn, List.filterMap_append, hone])
  rw [Config.settled_of_pending_nil hdone] at hinv
  exact hinv.1.agrees

/-- A play is published, asked to be joined, and joined; the last five
callbacks run out of order. -/
def Sample.join : List (Event Call Reply) :=
  [.call (.savePlay (Sample.play "" []) "p" ⟨0, 0⟩), .answer 0 .ok, .answer 0 .ok, .answer 0 .ok,
    .call (.saveRequest (Sample.play "p" ["f"]) [] (some "u") "r" ⟨0, 0⟩), .answer 0 .ok,
    .answer 0 .ok, .call (.updateRequest (Sample.request "r" "u" "p" 0) 99), .answer 0 .ok,
    .answer 1 .ok, .answer 0 .ok, .answer 1 .ok, .answer 0 .ok]

/-- After it the player is the second of the play, and the records
agree. -/
theorem rosterAgrees_join : ∃ c, roster.exec (Config.start Sample.twoUsers) Sample.join = some c ∧
    c.state.playerInfo "p" = some ["f", "u"] ∧ RosterAgrees ["r"] c.state := by
  have hrun : roster.Run Serial (Config.start Sample.twoUsers) Sample.join _ :=
    .of_exec ⟨⟨rfl, trivial⟩, rfl, rfl, rfl, ⟨rfl, ⟨_, ⟨0, 0⟩, rfl, rfl⟩, "u", rfl, by decide⟩,
      rfl, rfl, ⟨rfl, ⟨_, ⟨0, 0⟩, rfl, .inl rfl⟩, rfl, .inl rfl⟩, rfl, rfl, rfl, rfl, rfl, trivial⟩
      rfl
  exact ⟨_, rfl, rfl, rosterAgrees_of_serial (Sample.usersKeyed (by decide) rfl)
    (Sample.strings_of_get_users (by decide) rfl (by decide)) (fun _ => rfl) (fun _ => rfl) hrun
    rfl⟩

end Volleyer
