import Volleyer.Roster.Separate

/-!
# The roster — operations that overlap, one at a time

A run whose overlapping calls are about separate plays and users leads to
the documents to which the same calls lead one at a time, in the order in
which they were made (`exists_serial_of_separate`).
-/

namespace Volleyer

variable {s s' : Server} {a b : Call} {p i : String} {accepted : List String}

/-! ## The machine settles -/

/-- **Tasks that do not interfere**: on different cells, or both removing a
request. -/
def Independent (x y : Call × Task) : Prop :=
  Disjoint (lanes x) (lanes y) ∨ ∃ i j, x.2 = .deleteRequest i ∧ y.2 = .deleteRequest j

theorem cellEffect_comm {x y : Call × Task} (h : Independent x y) (v : Cells) :
    cellEffect (cellEffect v x) y = cellEffect (cellEffect v y) x := by
  rcases h with h | ⟨i, j, hx, hy⟩
  · exact (worksOn_cellEffect x).comm (worksOn_cellEffect y) h v
  · obtain ⟨a, t⟩ := x
    obtain ⟨b, u⟩ := y
    obtain rfl : t = .deleteRequest i := hx
    obtain rfl : u = .deleteRequest j := hy
    by_cases hab : a.ofPlay = b.ofPlay
    · -- removals of one play's requests
      rw [cellEffect, cellEffect, cellEffect, cellEffect, hab, changeCell_changeCell,
        changeCell_changeCell]
      refine changeCell_congr ?_
      by_cases hij : i = j
      · rw [hij]
      · exact Function.update_comm hij _ _ _
    · refine (worksOn_cellEffect (a, .deleteRequest i)).comm
        (worksOn_cellEffect (b, .deleteRequest j)) ?_ v
      simpa [lanes] using hab

/-- **Each task in flight is accounted for**, by the states so far and by
its call. -/
structure Attributed (c : Config Server (Call × Task)) : Prop where
  fresh : Fresh c.untag
  keyed : c.state.UsersKeyed
  traced : Traced c.seen
  tasks : ∀ x ∈ c.pending, x.2.Traced c.seen
  owns : ∀ x ∈ c.pending, x.1.Owns c.seen x.2

/-- **In every run of what clients call** the tasks are accounted for. -/
theorem attributed_of_run {ok : Config Server (Call × Task) → Event Call Reply → Prop}
    {s₀ : Server} {evs : List (Event Call Reply)} {c : Config Server (Call × Task)}
    (hkeyed : s₀.UsersKeyed)
    (hlists : ∀ u d, s₀.users.get u = some d → d.strings .myPlayList = some [])
    (hplays : ∀ p, s₀.plays.get p = none) (hrequests : ∀ r, s₀.requests.get r = none)
    (hok : ∀ c e, ok c e → Clients c.untag e)
    (hrun : roster.tagged.Run ok (Config.start s₀) evs c) : Attributed c := by
  have htracing : ∀ {evs c}, roster.tagged.Run ok (Config.start s₀) evs c →
      Fresh c.untag ∧ c.state.UsersKeyed ∧ Traced c.seen ∧
        ∀ t ∈ c.untag.pending, t.Traced c.seen := fun hr =>
    tracing_of_run hkeyed hlists hplays hrequests (hr.mono hok).untag
  obtain ⟨hfresh, hkeyed', htraced, htasks⟩ := htracing hrun
  have howns := (hrun.strengthen fun _ _ hr => (htracing hr).2).forall_pending
    (I := fun _ _ => True) (J := fun s past x => x.1.Owns (s :: past) x.2) trivial (by simp)
    (fun c a s ts _ _ hi => by
      obtain ⟨⟨s₁, ts₁⟩, hissue, heq⟩ := Option.map_eq_some_iff.1 hi
      obtain ⟨rfl, rfl⟩ := Prod.mk.inj heq
      refine ⟨trivial, fun x hx => ?_, fun x hx => hx.cons s₁⟩
      obtain ⟨t, ht, rfl⟩ := List.mem_map.1 hx
      exact Call.Owns.of_issue hissue t ht)
    (fun c i r x _ hx hc _ => by
      refine ⟨trivial, fun y hy => ?_, fun y hy => hy.cons _⟩
      obtain ⟨t, ht, rfl⟩ := List.mem_map.1 hy
      cases r with
      | failed => cases ht
      | ok => exact (hx.answerOk hc.2.2.1 List.mem_cons_self hc.2.1 ht).1.cons _)
  exact ⟨hfresh, hkeyed', htraced, fun x hx => htasks x.2 (List.mem_map_of_mem hx), howns.2⟩

/-- What a task puts in flight does not interfere. -/
theorem pairwise_independent {t : Task} (h : s.UsersKeyed) (a : Call) :
    ((answerOk s t).2.map (a, ·)).Pairwise Independent := by
  have hoption : ∀ (o : Option (List String)) (T : List String → Task),
      ((o.toList.map T).map (a, ·)).Pairwise Independent := by
    intro o T
    cases o <;> simp
  have hedits : ∀ (e : ListEdit) (p u : String) (q : Prop) [Decidable q],
      ((if q then editMyPlayList e p u ++ editPlayerInfo e u p else []).map (a, ·)).Pairwise
        Independent := by
    intro e p u q _
    split
    · refine List.pairwise_pair.2 (Or.inl ?_)
      simp [lanes]
    · exact List.Pairwise.nil
  cases t with
  | querySameRequest i data play me =>
    rw [answerOk_querySameRequest]
    split <;> simp
  | updateStatus request n =>
    rw [answerOk_updateStatus]
    exact hedits _ _ _ _
  | cancelStatus request =>
    rw [answerOk_cancelStatus]
    exact hedits _ _ _ _
  | getUsers e p u =>
    rw [answerOk_getUsers (h.keyedAt u)]
    exact hoption _ _
  | getPlay e u p => exact hoption _ _
  | queryRequests p =>
    refine List.pairwise_map.2 (List.pairwise_map.2 (List.pairwise_of_forall fun d d' => ?_))
    exact Or.inr ⟨d.1, d'.1, rfl, rfl⟩
  | setPlay p data f => exact List.pairwise_singleton _ _
  | _ => exact List.Pairwise.nil

/-- **The tagged machine settles**, told by its cells. -/
theorem settlesAs : SettlesAs roster.tagged (fun _ => Reply.ok) Attributed Server.cells cellEffect
    Independent where
  symm h := by
    rcases h with h | ⟨i, j, hx, hy⟩
    · exact Or.inl h.symm
    · exact Or.inr ⟨j, i, hy, hx⟩
  comm h v := cellEffect_comm h v
  unfold {c x} hc hx := by
    refine cellEffect_unfold (hc.owns x hx) hc.traced List.mem_cons_self hc.keyed (hc.tasks x hx)
      fun i hi => hc.fresh.unused i ?_
    exact List.mem_filterMap.2 ⟨x.2, List.mem_map_of_mem hx, hi⟩
  spawn {c x} hc _ := pairwise_independent hc.keyed x.1
  inherit {c x y z} hc hx hxz hy := by
    obtain ⟨t, ht, rfl⟩ := List.mem_map.1 hy
    rcases hxz with hxz | ⟨i, j, hi, -⟩
    · have hsubset := ((hc.owns x hx).answerOk hc.traced List.mem_cons_self hc.keyed ht).2
      exact Or.inl (hxz.mono_left hsubset)
    · -- a removal goes on to nothing
      rw [roster_answer, answer_ok, hi] at ht
      cases ht

/-! ## Callbacks come to an end -/

/-- How many callbacks a task can be followed by, one after the other. -/
def Task.rank : Task → ℕ
  | .setPlay _ _ _ | .updateStatus _ _ | .cancelStatus _ => 2
  | .querySameRequest _ _ _ _ | .getUsers _ _ _ | .getPlay _ _ _ | .queryRequests _ => 1
  | _ => 0

theorem ranked_roster : Ranked roster Task.rank := by
  intro s t r t' ht'
  rw [roster_answer] at ht'
  cases r with
  | failed => cases ht'
  | ok =>
    cases t with
    | setPlay p data f =>
      obtain rfl := List.mem_singleton.1 ht'
      exact Nat.one_lt_two
    | updateStatus request n =>
      rw [answer_ok, answerOk_updateStatus] at ht'
      rcases (mem_edits ht').2 with rfl | rfl <;> exact Nat.one_lt_two
    | cancelStatus request =>
      rw [answer_ok, answerOk_cancelStatus] at ht'
      rcases (mem_edits ht').2 with rfl | rfl <;> exact Nat.one_lt_two
    | querySameRequest i data play me =>
      rw [answer_ok, answerOk_querySameRequest] at ht'
      split at ht'
      · obtain rfl := List.mem_singleton.1 ht'
        exact Nat.zero_lt_one
      · cases ht'
    | getUsers e p u =>
      obtain ⟨d, -, hd⟩ := List.mem_filterMap.1 ht'
      obtain ⟨l, -, rfl⟩ := Option.map_eq_some_iff.1 hd
      exact Nat.zero_lt_one
    | getPlay e u p =>
      obtain ⟨l, -, rfl⟩ := List.mem_map.1 ht'
      exact Nat.zero_lt_one
    | queryRequests p =>
      obtain ⟨d, -, rfl⟩ := List.mem_map.1 ht'
      exact Nat.zero_lt_one
    | _ => cases ht'

/-! ## A call on what is settled -/

/-- **Calls that overlap are separate**, each on values that are current
when it is made, and nothing fails. -/
def Overlapping (c : Config Server (Call × Task)) : Event Call Reply → Prop
  | .call a => CurrentCall c.state a ∧ ∀ x ∈ c.pending, a.Separate x.1
  | .answer _ r => r = .ok

/-- What is current was loaded. -/
theorem clientCall_of_current {c : Config Server (Call × Task)} (h : CurrentCall c.state a) :
    ClientCall c.untag.seen a := by
  have hmem : c.state ∈ c.untag.seen := List.mem_cons_self
  cases a with
  | saveRequest play players me i now => exact ⟨⟨c.state, hmem, h.1⟩, h.2⟩
  | updateRequest request n => exact ⟨c.state, hmem, h.1⟩
  | cancelRequest request => exact ⟨c.state, hmem, h.1⟩
  | _ => trivial

/-- A request that is delivered names the play it is stored for. -/
theorem CurrentRequest.playId_eq {hist : List Server} {request : PlayRequest}
    (h : CurrentRequest s request) (htraced : Traced hist) (hs : s ∈ hist) :
    ∀ d, s.requests.get request.id = some d → d.string .playId = some request.playId := by
  intro d hd
  obtain ⟨b, hb, -, hp, -⟩ := h.exists_doc
  obtain rfl := Option.some.inj (hd.symm.trans hb)
  obtain ⟨u, q, -, hq, -⟩ := htraced.requests s hs _ d hd
  rw [hp, hq, Option.getD_some]

/-- **What is current stays so** where the cells of the call are the
same. -/
theorem currentCall_of_cells {hist : List Server} (h : CurrentCall s a) (htraced : Traced hist)
    (hs : s ∈ hist) (hcells : ∀ k ∈ a.keys, s'.cells k = s.cells k) : CurrentCall s' a := by
  have hplay : ∀ {play : Play}, play.id = a.ofPlay → CurrentPlay s play → CurrentPlay s' play := by
    rintro play hid ⟨d, now, hd, hdec⟩
    have hget : s'.plays.get play.id = s.plays.get play.id := hcells (.play play.id) hid
    exact ⟨d, now, hget.trans hd, hdec⟩
  have hrequest : ∀ {request : PlayRequest}, request.playId = a.ofPlay →
      CurrentRequest s request → CurrentRequest s' request ∧
        s'.status request.id = s.status request.id := by
    intro request hid hcur
    have hof := hcur.playId_eq htraced hs
    obtain ⟨d, now, hd, hdec⟩ := hcur
    have hcell : s'.requestsIn request.playId = s.requestsIn request.playId :=
      hcells (.requests request.playId) hid
    have hin : s'.requestsIn request.playId request.id = some d := by
      rw [hcell]
      exact Server.requestsIn_eq_some.2 ⟨hd, hof d hd⟩
    have hget : s'.requests.get request.id = some d := (Server.requestsIn_eq_some.1 hin).1
    refine ⟨⟨d, now, hget, hdec⟩, ?_⟩
    rw [Server.status, Server.status, hget, hd]
  cases a with
  | savePlay play i now => trivial
  | updatePlay play => trivial
  | deletePlay play => exact hplay rfl h
  | saveRequest play players me i now => exact ⟨hplay rfl h.1, h.2⟩
  | updateRequest request n =>
    obtain ⟨hcur, hstatus⟩ := hrequest rfl h.1
    exact ⟨hcur, hstatus.trans h.2.1, h.2.2⟩
  | cancelRequest request =>
    obtain ⟨hcur, hstatus⟩ := hrequest rfl h.1
    exact ⟨hcur, hstatus ▸ h.2⟩

/-- **A call puts the same in flight** where the same ids are handed out. -/
theorem issue_of_allocated {s₁ : Server} {ts : List Task} (h : issue s a = some (s₁, ts))
    (hids : s'.allocated = s.allocated) :
    issue s' a = some ({ s' with allocated := s₁.allocated }, ts) := by
  have hsame : ∀ {i : String} {ts₁ : List Task}, s.allocate i ts₁ = some (s₁, ts) →
      s'.allocate i ts₁ = some ({ s' with allocated := s₁.allocated }, ts) := by
    intro i ts₁ hi
    obtain ⟨hnew, rfl, rfl⟩ := allocate_eq_some.1 hi
    exact allocate_eq_some.2 ⟨hids ▸ hnew, by rw [hids], rfl⟩
  have hnone : s' = { s' with allocated := s.allocated } := by rw [← hids]
  cases a with
  | savePlay play i now => exact hsame h
  | saveRequest play players me i now => exact hsame h
  | _ =>
    obtain ⟨rfl, rfl⟩ := Prod.mk.inj (Option.some.inj h)
    exact congrArg (fun s => some (s, _)) hnone

/-- Ids handed out are told by one cell. -/
theorem cells_allocated (s : Server) (ids : List String) :
    Server.cells { s with allocated := ids } = changeCell .allocated (fun _ => ids) s.cells := by
  funext k
  by_cases hk : k = .allocated
  · subst hk
    rw [changeCell_self]
    rfl
  · rw [changeCell_of_ne hk]
    cases k with
    | allocated => exact absurd rfl hk
    | _ => rfl

/-- What a call puts in flight does not interfere, where the roster it is
given lists nobody twice. -/
theorem pairwise_issue {s₁ : Server} {ts : List Task} (h : issue s a = some (s₁, ts))
    (hnodup : ∀ play, a = .deletePlay play → play.playerInfo.Nodup) :
    (ts.map (a, ·)).Pairwise Independent := by
  cases a with
  | deletePlay play =>
    obtain ⟨-, rfl⟩ := Prod.mk.inj (Option.some.inj h)
    rw [deletePlay_eq, List.pairwise_map, List.pairwise_cons, List.pairwise_append,
      List.pairwise_map]
    refine ⟨fun t ht => Or.inl ?_, (hnodup play rfl).imp fun hne => Or.inl ?_,
      List.pairwise_singleton _ _, fun t ht t' ht' => Or.inl ?_⟩
    · rcases List.mem_append.1 ht with ht | ht
      · obtain ⟨u, -, rfl⟩ := List.mem_map.1 ht
        simp [lanes]
      · obtain rfl := List.mem_singleton.1 ht
        simp [lanes]
    · simpa [lanes] using hne
    · obtain ⟨u, -, rfl⟩ := List.mem_map.1 ht
      obtain rfl := List.mem_singleton.1 ht'
      simp [lanes]
  | savePlay play i now =>
    obtain ⟨-, -, rfl⟩ := allocate_eq_some.1 h
    exact List.pairwise_singleton _ _
  | saveRequest play players me i now =>
    obtain ⟨-, -, rfl⟩ := allocate_eq_some.1 h
    exact List.pairwise_singleton _ _
  | _ =>
    obtain ⟨-, rfl⟩ := Prod.mk.inj (Option.some.inj h)
    exact List.pairwise_singleton _ _

/-- A roster that is current lists nobody twice. -/
theorem Exact.nodup_playerInfo (h : Exact accepted s) {play : Play} (hplay : CurrentPlay s play) :
    play.playerInfo.Nodup := by
  obtain ⟨d, t, hd, hdec⟩ := hplay
  obtain ⟨-, f, -, hinfo, hnodup⟩ := h.plays play.id (by rw [hd]; rfl)
  rw [Server.playerInfo, hd, Option.bind_some] at hinfo
  rw [← hdec]
  simp only [decodePlay, hinfo, Option.getD_some]
  exact hnodup

/-- **A call made while others are under way**, which is separate from them,
can be made where they are played out: it puts the same in flight, and
does not interfere with what they have there. -/
theorem serial_call {c b : Config Server (Call × Task)} {xs : List (Call × Task)}
    (hc : Attributed c) (hok : Overlapping c (.call a)) (hquiet : b.pending = [])
    (hview : b.state.cells = c.settledView Server.cells cellEffect)
    (hex : Exact accepted b.state) (hi : roster.tagged.issue c.state a = some (s, xs)) :
    Serial b.untag (.call a) ∧ xs.Pairwise Independent ∧
      (∀ x ∈ c.pending, ∀ y ∈ xs, Independent x y) ∧
      ∃ s', roster.tagged.issue b.state a = some (s', xs) ∧
        s'.cells = c.pending.foldl cellEffect s.cells := by
  obtain ⟨⟨s₁, ts⟩, hissue, heq⟩ := Option.map_eq_some_iff.1 hi
  obtain ⟨rfl, rfl⟩ := Prod.mk.inj heq
  have hdisjoint : ∀ x ∈ c.pending, Disjoint (lanes x) a.keys := fun x hx =>
    (hok.2 x hx).disjoint.symm.mono_left (hc.owns x hx).lanes_subset
  have hkeep : ∀ k, (∀ x ∈ c.pending, k ∉ lanes x) → b.state.cells k = c.state.cells k := by
    intro k hk
    rw [hview]
    exact WorksOn.foldl_keeps worksOn_cellEffect hk _
  have hids : b.state.allocated = c.state.allocated :=
    hkeep .allocated fun x _ => allocated_notMem_lanes x
  have hcurrent : CurrentCall b.state a :=
    currentCall_of_cells hok.1 hc.traced List.mem_cons_self fun k hk =>
      hkeep k fun x hx hkx => Set.disjoint_left.1 (hdisjoint x hx) hkx hk
  have hissue' := issue_of_allocated hissue hids
  refine ⟨⟨List.map_eq_nil_iff.2 hquiet, hcurrent⟩, pairwise_issue hissue ?_, ?_, _,
    congrArg (Option.map _) hissue', ?_⟩
  · rintro play rfl
    exact hex.nodup_playerInfo hcurrent
  · intro x hx y hy
    obtain ⟨t, ht, rfl⟩ := List.mem_map.1 hy
    have howns : a.Owns c.seen t := Call.Owns.of_issue hissue t ht
    exact Or.inl ((hdisjoint x hx).mono_right howns.lanes_subset)
  · -- the id a call takes is told by a cell no task works on
    obtain ⟨hu, hp, hr⟩ := issue_eq hissue
    have hsame : s₁.cells = changeCell .allocated (fun _ => s₁.allocated) c.state.cells := by
      rw [← cells_allocated, ← hu, ← hp, ← hr]
    show Server.cells { b.state with allocated := s₁.allocated } =
      c.pending.foldl cellEffect s₁.cells
    rw [cells_allocated, hview, hsame]
    refine (WorksOn.foldl_comm worksOn_cellEffect (worksOn_changeCell _) (fun x _ => ?_) _).symm
    exact Set.disjoint_singleton_left.2 (allocated_notMem_lanes x)

/-! ## Runs -/

/-- **Two stores of the same documents**, however each holds them. -/
structure SameDocuments (s s' : Server) : Prop where
  users : ∀ u, s.users.get u = s'.users.get u
  plays : ∀ p, s.plays.get p = s'.plays.get p
  requests : ∀ r, s.requests.get r = s'.requests.get r
  allocated : s.allocated = s'.allocated

/-- The cells tell the documents, where every request is for a play. -/
theorem SameDocuments.of_cells {hist hist' : List Server} (h : s.cells = s'.cells)
    (htraced : Traced hist) (hs : s ∈ hist) (htraced' : Traced hist') (hs' : s' ∈ hist') :
    SameDocuments s s' where
  users u := congrFun h (.user u)
  plays p := congrFun h (.play p)
  requests r := by
    have hiff : ∀ p d, s.requestsIn p r = some d ↔ s'.requestsIn p r = some d := fun p d => by
      rw [show s.requestsIn p = s'.requestsIn p from congrFun h (.requests p)]
    ext d
    constructor
    · intro hd
      obtain ⟨u, p, -, hp, -⟩ := htraced.requests s hs r d hd
      exact (Server.requestsIn_eq_some.1 ((hiff p d).1 (Server.requestsIn_eq_some.2 ⟨hd, hp⟩))).1
    · intro hd
      obtain ⟨u, p, -, hp, -⟩ := htraced'.requests s' hs' r d hd
      exact (Server.requestsIn_eq_some.1 ((hiff p d).2 (Server.requestsIn_eq_some.2 ⟨hd, hp⟩))).1
  allocated := congrFun h .allocated

/-- What one serves, the other does. -/
theorem Serves.of_same {C : Club String String String} (h : Serves s' C)
    (hsame : SameDocuments s s') : Serves s C where
  plays p := by
    rw [hsame.plays]
    exact h.plays p
  finder p := by
    rw [Server.finderId, hsame.plays]
    exact h.finder p
  roster p := by
    rw [Server.playerInfo, hsame.plays]
    exact h.roster p
  lists u d hd := h.lists u d (hsame.users u ▸ hd)
  requests i := by
    rw [hsame.requests]
    exact h.requests i
  application i := by
    rw [Server.application, hsame.requests]
    exact h.application i
  receiver i d a hd := h.receiver i d a (hsame.requests i ▸ hd)
  players i d hd := h.players i d (hsame.requests i ▸ hd)

section

variable {s₀ : Server} {evs : List (Event Call Reply)} {c : Config Server (Call × Task)}

/-- Overlapping calls, one at a time: the same calls one after the other
lead to the same documents, and the operations of the calls to the club
these mirror. -/
theorem mirrors_of_separate (hkeyed : s₀.UsersKeyed)
    (hlists : ∀ u d, s₀.users.get u = some d → d.strings .myPlayList = some [])
    (hplays : ∀ p, s₀.plays.get p = none) (hrequests : ∀ r, s₀.requests.get r = none)
    (hrun : roster.tagged.Run Overlapping (Config.start s₀) evs c) (hdone : c.pending = []) :
    ∃ evs' b C, roster.Run Serial (Config.start s₀) evs' b ∧ b.pending = [] ∧
      callsIn evs' = callsIn evs ∧ SameDocuments c.state b.state ∧
      ((callsIn evs).filterMap clubOp).foldlM Club.step Club.empty = some C ∧
      ∃ accepted, Exact accepted b.state ∧ Mirrors accepted b.state C := by
  have hattributed : ∀ {evs c}, roster.tagged.Run Overlapping (Config.start s₀) evs c →
      Attributed c := fun hr =>
    attributed_of_run hkeyed hlists hplays hrequests (fun c e he => by
      cases e with
      | call a => exact clientCall_of_current he.1
      | answer i r => trivial) hr
  have hattributed' : ∀ {evs c}, roster.tagged.Run (fun c e => Serial c.untag e)
      (Config.start s₀) evs c → Attributed c := fun hr =>
    attributed_of_run hkeyed hlists hplays hrequests (fun c e he => by
      cases e with
      | call a => exact clientCall_of_current he.2
      | answer i r => trivial) hr
  have hmirrors : ∀ {evs b}, roster.tagged.Run (fun c e => Serial c.untag e) (Config.start s₀)
      evs b → b.pending = [] → ∃ C, ((callsIn evs).filterMap clubOp).foldlM Club.step Club.empty =
        some C ∧ ∃ accepted, Exact accepted b.state ∧ Mirrors accepted b.state C := by
    intro evs b hr hquiet
    obtain ⟨C, hC, accepted, hex, hm⟩ :=
      mirrors_of_serial hkeyed hlists hplays hrequests hr.untag
    have hnil : b.untag.pending = [] := List.map_eq_nil_iff.2 hquiet
    rw [Config.settled_of_pending_nil hnil] at hex hm
    exact ⟨C, by rw [filterMap_callsIn, hC], accepted, hex, hm⟩
  obtain ⟨evs', b, hb, hquiet, hcalls, hcells⟩ := settlesAs.exists_serial
    ranked_roster.tagged hattributed hattributed' rfl (fun hr t _ => hr) (fun _ => rfl)
    (fun hr hb hok hquiet hview hi => by
      obtain ⟨-, -, accepted, hex, -⟩ := hmirrors hb hquiet
      exact serial_call (hattributed hr) hok hquiet hview hex hi) hrun
  rw [Config.settledView, hdone, List.foldl_nil] at hcells
  obtain ⟨C, hC, accepted, hex, hm⟩ := hmirrors hb hquiet
  have hsame := SameDocuments.of_cells hcells.symm (hattributed hrun).traced List.mem_cons_self
    (hattributed' hb).traced List.mem_cons_self
  exact ⟨evs', b.untag, C, hb.untag, List.map_eq_nil_iff.2 hquiet, hcalls, hsame, hcalls ▸ hC,
    accepted, hex, hm⟩

/-- **Overlapping calls, one at a time.** From users with empty lists, no
plays and no requests, let calls overlap that are about separate plays and
users, their callbacks run in any order, and nothing fail. When nothing is
in flight, the same calls made one at a time in the order of the run lead
to the same documents. So the operations of the calls are enabled one
after the other, and the documents serve the club they lead to. -/
theorem exists_serial_of_separate (hkeyed : s₀.UsersKeyed)
    (hlists : ∀ u d, s₀.users.get u = some d → d.strings .myPlayList = some [])
    (hplays : ∀ p, s₀.plays.get p = none) (hrequests : ∀ r, s₀.requests.get r = none)
    (hrun : roster.tagged.Run Overlapping (Config.start s₀) evs c) (hdone : c.pending = []) :
    ∃ evs' b C, roster.Run Serial (Config.start s₀) evs' b ∧ b.pending = [] ∧
      callsIn evs' = callsIn evs ∧ SameDocuments c.state b.state ∧
      ((callsIn evs).filterMap clubOp).foldlM Club.step Club.empty = some C ∧
      Serves c.state C := by
  obtain ⟨evs', b, C, hb, hquiet, hcalls, hsame, hC, accepted, hex, hm⟩ :=
    mirrors_of_separate hkeyed hlists hplays hrequests hrun hdone
  exact ⟨evs', b, C, hb, hquiet, hcalls, hsame, hC, (hm.serves hex).of_same hsame⟩

end

/-- A play of `"u"` under an id, with a roster. -/
def Sample.playOfOther (id : String) (roster : List String) : Play :=
  { Sample.play id roster with finderId := "u" }

/-- Two members publish a play each, ask to join each other's and accept,
each time both at once and the second one's callbacks first. -/
def Sample.eachOther : List (Event Call Reply) :=
  [.call (.savePlay (Sample.play "" []) "p" ⟨0, 0⟩),
    .call (.savePlay (Sample.playOfOther "" []) "q" ⟨0, 0⟩), .answer 1 .ok, .answer 1 .ok,
    .answer 0 .ok, .answer 1 .ok, .answer 1 .ok, .answer 0 .ok,
    .call (.saveRequest (Sample.play "p" ["f"]) [] (some "u") "r" ⟨0, 0⟩),
    .call (.saveRequest (Sample.playOfOther "q" ["u"]) [] (some "f") "t" ⟨0, 0⟩), .answer 1 .ok,
    .answer 1 .ok, .answer 0 .ok, .answer 0 .ok,
    .call (.updateRequest (Sample.request "r" "u" "p" 0) 99),
    .call (.updateRequest { Sample.request "t" "f" "q" 0 with requestReceverId := "u" } 99),
    .answer 1 .ok, .answer 0 .ok, .answer 3 .ok, .answer 0 .ok, .answer 0 .ok, .answer 0 .ok,
    .answer 0 .ok, .answer 0 .ok, .answer 0 .ok, .answer 0 .ok]

/-- Each ends in the other's play, as if one had waited for the other. -/
theorem exists_serial_eachOther : ∃ c,
    roster.tagged.exec (Config.start Sample.twoUsers) Sample.eachOther = some c ∧
      c.state.playerInfo "p" = some ["f", "u"] ∧ c.state.playerInfo "q" = some ["u", "f"] ∧
      ∃ evs' b C, roster.Run Serial (Config.start Sample.twoUsers) evs' b ∧ b.pending = [] ∧
        callsIn evs' = callsIn Sample.eachOther ∧ SameDocuments c.state b.state ∧
        ((callsIn Sample.eachOther).filterMap clubOp).foldlM Club.step Club.empty = some C ∧
        Serves c.state C := by
  have hrun : roster.tagged.Run Overlapping (Config.start Sample.twoUsers) Sample.eachOther _ :=
    .of_exec ⟨⟨trivial, List.forall_mem_nil _⟩,
      ⟨trivial, List.forall_mem_singleton.2 ⟨by decide, by decide⟩⟩, rfl, rfl, rfl, rfl, rfl, rfl,
      ⟨⟨⟨_, ⟨0, 0⟩, rfl, rfl⟩, "u", rfl, by decide⟩, List.forall_mem_nil _⟩,
      ⟨⟨⟨_, ⟨0, 0⟩, rfl, rfl⟩, "f", rfl, by decide⟩,
        List.forall_mem_singleton.2 ⟨by decide, by decide⟩⟩, rfl, rfl, rfl, rfl,
      ⟨⟨⟨_, ⟨0, 0⟩, rfl, .inl rfl⟩, rfl, .inl rfl⟩, List.forall_mem_nil _⟩,
      ⟨⟨⟨_, ⟨0, 0⟩, rfl, .inl rfl⟩, rfl, .inl rfl⟩,
        List.forall_mem_singleton.2 ⟨by decide, by decide⟩⟩, rfl, rfl, rfl, rfl, rfl, rfl, rfl, rfl,
      rfl, rfl, trivial⟩ rfl
  exact ⟨_, rfl, rfl, rfl, exists_serial_of_separate (Sample.usersKeyed (by decide) rfl)
    (Sample.strings_of_get_users (by decide) rfl (by decide)) (fun _ => rfl) (fun _ => rfl) hrun
    rfl⟩

end Volleyer
