import Volleyer.Roster.Settle

/-!
# The roster — operations one at a time

When each operation finishes before the next starts and is given the
value stored then, the three records of who plays agree. `Exact` is the
invariant that ties them: a play's roster is its finder and the senders
seated in it, in the order of the acceptances, and a user's list holds
the plays whose roster holds the user. Each operation keeps it, its
callbacks played out (`Exact.savePlay`, …); `Settles.serial` carries it
along a run.
-/

namespace Volleyer

variable {s : Server} {p u i : String} {accepted : List String}

/-! ## What is claimed -/

/-- The request a call accepts. -/
def acceptCall : Event Call Reply → Option String
  | .call (.updateRequest request status) => if status = 99 then some request.id else none
  | _ => none

/-- The requests a run accepts, in the order it accepts them. -/
def acceptedIn (evs : List (Event Call Reply)) : List String := evs.filterMap acceptCall

/-- The operations on current values. An edited play keeps its id and
may change anything else. -/
def CurrentCall (s : Server) : Call → Prop
  | .savePlay _ _ _ => True
  | .updatePlay _ => True
  | .deletePlay play => CurrentPlay s play
  | .saveRequest play _ me _ _ => CurrentPlay s play ∧ ∃ u, me = some u ∧ u ≠ play.finderId
  | .updateRequest request status =>
      CurrentRequest s request ∧ s.status request.id = some 0 ∧ (status = 99 ∨ status = 1)
  | .cancelRequest request => CurrentRequest s request ∧ s.status request.id ≠ some (-1)

/-- **One operation at a time**, on current values, nothing failing. -/
def Serial (c : Config Server Task) : Event Call Reply → Prop
  | .call a => c.pending = [] ∧ CurrentCall c.state a
  | .answer _ r => r = .ok

/-- **The three records agree.** -/
structure RosterAgrees (accepted : List String) (s : Server) : Prop where
  roster : ∀ p d, s.plays.get p = some d → ∃ f, d.string .finderId = some f ∧
    d.strings .playerInfo = some (f :: accepted.filterMap (s.seat p)) ∧
    ∀ i u, s.seat p i = some u → i ∈ accepted
  lists : ∀ u d, s.users.get u = some d → ∃ l, d.strings .myPlayList = some l ∧ l.Nodup ∧
    ∀ p, p ∈ l ↔ ∃ r, s.playerInfo p = some r ∧ u ∈ r
  nodup : ∀ p r, s.playerInfo p = some r → r.Nodup
  unique : ∀ i j d e u p, s.requests.get i = some d → s.requests.get j = some e →
    d.string .requestSenderId = some u → e.string .requestSenderId = some u →
    d.string .playId = some p → e.string .playId = some p → i = j
  list_play : ∀ u d l p, s.users.get u = some d → d.strings .myPlayList = some l → p ∈ l →
    (s.plays.get p).isSome
  request_play : ∀ i d p, s.requests.get i = some d → d.string .playId = some p →
    (s.plays.get p).isSome

/-- Where one element of a list answers nothing any more, its answer is
the one that goes. -/
theorem filterMap_eq_erase {α β : Type*} [DecidableEq β] {f g : α → Option β} {l : List α} {a : α}
    {b : β} (hl : l.Nodup) (hfl : (l.filterMap f).Nodup) (ha : a ∈ l) (hfa : f a = some b)
    (hga : g a = none) (hfg : ∀ x ∈ l, x ≠ a → g x = f x) :
    l.filterMap g = (l.filterMap f).erase b := by
  induction l with
  | nil => cases ha
  | cons x l ih =>
    obtain ⟨hx, hl⟩ := List.nodup_cons.1 hl
    by_cases hxa : x = a
    · subst hxa
      rw [List.filterMap_cons_none hga, List.filterMap_cons_some hfa, List.erase_cons_head]
      exact List.filterMap_congr fun y hy => hfg y (List.mem_cons_of_mem _ hy) fun e => hx (e ▸ hy)
    · have hal : a ∈ l := (List.mem_cons.1 ha).resolve_left fun e => hxa e.symm
      have hgx : g x = f x := hfg x List.mem_cons_self hxa
      have hrest : ∀ y ∈ l, y ≠ a → g y = f y := fun y hy => hfg y (List.mem_cons_of_mem _ hy)
      cases hfx : f x with
      | none =>
        rw [List.filterMap_cons_none (hgx.trans hfx), List.filterMap_cons_none hfx]
        rw [List.filterMap_cons_none hfx] at hfl
        exact ih hl hfl hal hrest
      | some c =>
        rw [List.filterMap_cons_some (hgx.trans hfx), List.filterMap_cons_some hfx]
        rw [List.filterMap_cons_some hfx, List.nodup_cons] at hfl
        have hcb : c ≠ b := fun e => hfl.1 (List.mem_filterMap.2 ⟨a, hal, e ▸ hfa⟩)
        rw [List.erase_cons_tail (by simpa using hcb), ih hl hfl.2 hal hrest]

/-- A new element at the end is the only one that is added. -/
theorem append_adds {l : List String} {x : String} (hn : l.Nodup) (hx : x ∉ l) :
    (l ++ [x]).Nodup ∧ (∀ y, y ≠ x → (y ∈ l ++ [x] ↔ y ∈ l)) ∧ x ∈ l ++ [x] := by
  refine ⟨?_, fun y hy => ?_, List.mem_append_right _ List.mem_cons_self⟩
  · rw [← List.concat_eq_append]
    exact List.Nodup.concat hx hn
  · rw [List.mem_append, List.mem_singleton, or_iff_left hy]

/-- And what is erased is the only one that goes. -/
theorem erase_drops {l : List String} (hn : l.Nodup) (x : String) :
    (l.erase x).Nodup ∧ (∀ y, y ≠ x → (y ∈ l.erase x ↔ y ∈ l)) ∧ x ∉ l.erase x :=
  ⟨hn.erase x, fun _ hy => List.mem_erase_of_ne hy, hn.not_mem_erase⟩

/-! ## The invariant -/

/-- The request under an id is for a play, by a sender who is not its
finder. -/
def Server.Requests (s : Server) (d : Doc PlayRequestTitle) (u p : String) : Prop :=
  d.string .requestSenderId = some u ∧ d.string .playId = some p ∧
    ∃ f, d.string .requestReceiverId = some f ∧ s.finderId p = some f ∧ u ≠ f

/-- **The invariant of the serial runs.** -/
structure Exact (accepted : List String) (s : Server) : Prop where
  lists : ∀ u, (s.users.get u).isSome → ∃ l, s.myPlayList u = some l ∧ l.Nodup ∧
    ∀ p, p ∈ l ↔ ∃ r, s.playerInfo p = some r ∧ u ∈ r
  plays : ∀ p, (s.plays.get p).isSome → p ∈ s.allocated ∧ ∃ f, s.finderId p = some f ∧
    s.playerInfo p = some (f :: accepted.filterMap (s.seat p)) ∧
    (f :: accepted.filterMap (s.seat p)).Nodup
  requests : ∀ i d, s.requests.get i = some d → i ∈ s.allocated ∧ ∃ u p, s.Requests d u p
  unique : ∀ i j d e, s.requests.get i = some d → s.requests.get j = some e →
    d.string .requestSenderId = e.string .requestSenderId →
    d.string .playId = e.string .playId → i = j
  nodup : accepted.Nodup
  known : ∀ i ∈ accepted, i ∈ s.allocated ∧ s.status i ≠ some 0
  complete : ∀ i, s.status i = some 99 → i ∈ accepted

namespace Server

theorem isSome_of_finderId {f : String} (h : s.finderId p = some f) : (s.plays.get p).isSome := by
  rw [finderId] at h
  obtain ⟨d, hd, -⟩ := Option.bind_eq_some_iff.1 h
  rw [hd]
  rfl

theorem isSome_of_playerInfo {r : List String} (h : s.playerInfo p = some r) :
    (s.plays.get p).isSome := by
  rw [playerInfo] at h
  obtain ⟨d, hd, -⟩ := Option.bind_eq_some_iff.1 h
  rw [hd]
  rfl

/-- A request seats nobody once its status is another. -/
theorem seat_eq_none (h : s.status i ≠ some 99) : s.seat p i = none := by
  rw [Option.eq_none_iff_forall_ne_some]
  exact fun v hv => h (status_of_seat hv)

/-- A write of a status leaves the seat of every other request. -/
theorem seat_updateRequest_of_ne (s : Server) {r : String} (n : ℤ) (h : i ≠ r) :
    (s.updateRequest r [(.status, .int n)]).seat p i = s.seat p i := by
  rw [seat, get_requests_updateRequest, if_neg h, seat]

/-- **A status written and both lists edited**, field by field. -/
structure Reseated (s s' : Server) (r : String) (n : ℤ) (e : ListEdit) (p u : String) : Prop where
  requests : s'.requests = (s.updateRequest r [(.status, .int n)]).requests
  allocated : s'.allocated = s.allocated
  users : ∀ v, (s'.users.get v).isSome → (s.users.get v).isSome
  plays : ∀ q, (s'.plays.get q).isSome → (s.plays.get q).isSome
  finderId : ∀ q, s'.finderId q = s.finderId q
  playerInfo : ∀ q, s'.playerInfo q =
    if q = p then (s.playerInfo p).map fun l => (e.callback u l).getD l else s.playerInfo q
  myPlayList : ∀ v, s'.myPlayList v =
    if v = u then (s.myPlayList u).map fun l => (e.callback p l).getD l else s.myPlayList v

theorem reseated (s : Server) (r : String) (n : ℤ) (e : ListEdit) (p u : String) :
    s.Reseated (((s.updateRequest r [(.status, .int n)]).editUser e p u).editPlay e u p)
      r n e p u where
  requests := rfl
  allocated := rfl
  users v hv := by
    change (((s.updateRequest r [(.status, .int n)]).editUser e p u).users.get v).isSome at hv
    rwa [isSome_users_editUser] at hv
  plays q hq := by rwa [isSome_plays_editPlay] at hq
  finderId q := by rw [finderId_editPlay]; rfl
  playerInfo q := by rw [playerInfo_editPlay]; rfl
  myPlayList v := by
    change ((s.updateRequest r [(.status, .int n)]).editUser e p u).myPlayList v = _
    rw [myPlayList_editUser]
    rfl

namespace Reseated

variable {s' : Server} {r : String} {n : ℤ} {e : ListEdit}

/-- Every other request seats whom it did. -/
theorem seat_of_ne (h : s.Reseated s' r n e p u) (q : String) (hi : i ≠ r) :
    s'.seat q i = s.seat q i := by
  rw [← s.seat_updateRequest_of_ne n hi, seat, seat, h.requests]

theorem status_eq (h : s.Reseated s' r n e p u) (hr : (s.requests.get r).isSome) (j : String) :
    s'.status j = if j = r then some n else s.status j := by
  obtain ⟨d, hd⟩ := Option.isSome_iff_exists.1 hr
  have hs' : s'.status j = (s.updateRequest r [(.status, .int n)]).status j := by
    rw [status, status, h.requests]
  rw [hs', status_updateRequest, hd, Option.map_some]

end Reseated

end Server

namespace Exact

/-- The invariant says what is claimed. -/
theorem agrees (h : Exact accepted s) : RosterAgrees accepted s where
  roster p d hd := by
    obtain ⟨-, f, hf, hr, -⟩ := h.plays p (by rw [hd]; rfl)
    rw [Server.finderId, hd, Option.bind_some] at hf
    rw [Server.playerInfo, hd, Option.bind_some] at hr
    exact ⟨f, hf, hr, fun i u hi => h.complete i (Server.status_of_seat hi)⟩
  lists u d hd := by
    obtain ⟨l, hl, hn, hmem⟩ := h.lists u (by rw [hd]; rfl)
    rw [Server.myPlayList, hd, Option.bind_some] at hl
    exact ⟨l, hl, hn, hmem⟩
  nodup p r hr := by
    obtain ⟨-, f, -, hr', hn⟩ := h.plays p (Server.isSome_of_playerInfo hr)
    rw [hr, Option.some.injEq] at hr'
    exact hr' ▸ hn
  unique i j d e u p hd he hdu heu hdp hep :=
    h.unique i j d e hd he (hdu.trans heu.symm) (hdp.trans hep.symm)
  list_play u d l p hd hl hp := by
    obtain ⟨l', hl', -, hmem⟩ := h.lists u (by rw [hd]; rfl)
    rw [Server.myPlayList, hd, Option.bind_some, hl, Option.some.injEq] at hl'
    obtain ⟨r, hr, -⟩ := (hmem p).1 (hl' ▸ hp)
    exact Server.isSome_of_playerInfo hr
  request_play i d p hd hp := by
    obtain ⟨-, u, q, -, hq, f, -, hf, -⟩ := h.requests i d hd
    rw [hp, Option.some.injEq] at hq
    exact hq ▸ Server.isSome_of_finderId hf

/-- **The lists follow the rosters** where one play's roster changes, and
each user's list in that play alone. -/
theorem lists_of_play (h : Exact accepted s) {s' : Server}
    (husers : ∀ v, (s'.users.get v).isSome → (s.users.get v).isSome)
    (hother : ∀ q, q ≠ p → s'.playerInfo q = s.playerInfo q)
    (hlist : ∀ v l, s.myPlayList v = some l → l.Nodup →
      (p ∈ l ↔ ∃ r, s.playerInfo p = some r ∧ v ∈ r) →
      ∃ l', s'.myPlayList v = some l' ∧ l'.Nodup ∧ (∀ q, q ≠ p → (q ∈ l' ↔ q ∈ l)) ∧
        (p ∈ l' ↔ ∃ r, s'.playerInfo p = some r ∧ v ∈ r)) :
    ∀ v, (s'.users.get v).isSome → ∃ l, s'.myPlayList v = some l ∧ l.Nodup ∧
      ∀ q, q ∈ l ↔ ∃ r, s'.playerInfo q = some r ∧ v ∈ r := by
  intro v hv
  obtain ⟨l, hl, hn, hmem⟩ := h.lists v (husers v hv)
  obtain ⟨l', hl', hn', hrest, hp⟩ := hlist v l hl hn (hmem p)
  refine ⟨l', hl', hn', fun q => ?_⟩
  by_cases hqp : q = p
  · subst hqp
    exact hp
  · rw [hrest q hqp, hmem q, hother q hqp]

/-- **The rosters follow the seats** where one play's roster changes. -/
theorem plays_of_roster (h : Exact accepted s) {s' : Server} {accepted' after : List String}
    {f : String} (hplays : ∀ q, (s'.plays.get q).isSome → (s.plays.get q).isSome)
    (hall : s'.allocated = s.allocated) (hfinder : ∀ q, s'.finderId q = s.finderId q)
    (hother : ∀ q, q ≠ p → s'.playerInfo q = s.playerInfo q) (hf : s.finderId p = some f)
    (hroster : s'.playerInfo p = some (f :: after)) (hn : (f :: after).Nodup)
    (hsenders : ∀ q, accepted'.filterMap (s'.seat q) =
      if q = p then after else accepted.filterMap (s.seat q)) :
    ∀ q, (s'.plays.get q).isSome → q ∈ s'.allocated ∧ ∃ f, s'.finderId q = some f ∧
      s'.playerInfo q = some (f :: accepted'.filterMap (s'.seat q)) ∧
      (f :: accepted'.filterMap (s'.seat q)).Nodup := by
  intro q hq
  obtain ⟨ha, g, hg, hinfo, hnodup⟩ := h.plays q (hplays q hq)
  refine ⟨hall ▸ ha, g, by rw [hfinder, hg], ?_⟩
  rw [hsenders]
  by_cases hqp : q = p
  · subst hqp
    obtain rfl := Option.some.inj (hf.symm.trans hg)
    rw [if_pos rfl]
    exact ⟨hroster, hn⟩
  · rw [if_neg hqp, hother q hqp]
    exact ⟨hinfo, hnodup⟩

/-! ## Each operation keeps it -/

/-- A play whose id is new has no roster and no request. -/
theorem get_plays_eq_none (h : Exact accepted s) (hi : i ∉ s.allocated) :
    s.plays.get i = none := by
  rw [← Option.not_isSome_iff_eq_none]
  exact fun hs => hi (h.plays i hs).1

theorem seat_eq_none_of_fresh (h : Exact accepted s) (hp : s.plays.get p = none) (i : String) :
    s.seat p i = none := by
  rw [Option.eq_none_iff_forall_ne_some]
  intro v hv
  obtain ⟨d, hd, hpd, -⟩ := Server.seat_eq_some.1 hv
  have := h.agrees.request_play i d p hd hpd
  simp [hp] at this

/-- **`savePlay` keeps the invariant**: a new roster holds its finder. -/
theorem savePlay (h : Exact accepted s) (hi : i ∉ s.allocated) (play : Play) (now : Date) :
    Exact accepted (effect { s with allocated := i :: s.allocated }
      (.setPlay i (FinderDataManager.savePlayData play i now) play.finderId)) := by
  have hnone : s.plays.get i = none := h.get_plays_eq_none hi
  set s' := effect { s with allocated := i :: s.allocated }
    (.setPlay i (FinderDataManager.savePlayData play i now) play.finderId) with hs'
  have hplays : ∀ q, s'.plays.get q = if q = i then
      some (Doc.setData (FinderDataManager.savePlayData play i now)) else s.plays.get q :=
    fun q => Collection.get_set _ _ _ _
  -- what every list and roster is now
  have hinfo : ∀ q, s'.playerInfo q = if q = i then some [play.finderId] else s.playerInfo q := by
    intro q
    rw [Server.playerInfo, hplays]
    split <;> rfl
  have hfinder : ∀ q, s'.finderId q = if q = i then some play.finderId else s.finderId q := by
    intro q
    rw [Server.finderId, hplays]
    split <;> rfl
  have hlist : ∀ v, s'.myPlayList v = if v = play.finderId then
      (s.myPlayList v).map (· ++ [i]) else s.myPlayList v := by
    intro v
    rw [hs', effect, Server.myPlayList_editUser]
    split
    · rename_i hv
      subst hv
      rfl
    · rfl
  have hseat : ∀ q j, s'.seat q j = s.seat q j := fun _ _ => rfl
  have husers : ∀ v, (s'.users.get v).isSome → (s.users.get v).isSome := by
    intro v hv
    rw [hs', effect, Server.isSome_users_editUser] at hv
    exact hv
  have hlists := h.lists_of_play husers (fun q hq => by rw [hinfo, if_neg hq]) (by
    intro v l hl hn hmem
    have hil : i ∉ l := fun hil => by
      obtain ⟨r, hr, -⟩ := hmem.1 hil
      have := Server.isSome_of_playerInfo hr
      simp [hnone] at this
    rw [hlist, hl, hinfo, if_pos rfl]
    by_cases hvf : v = play.finderId
    · obtain ⟨hn', hrest, hi⟩ := append_adds hn hil
      rw [if_pos hvf]
      exact ⟨l ++ [i], rfl, hn', hrest, by simp [hvf]⟩
    · rw [if_neg hvf]
      exact ⟨l, rfl, hn, fun _ _ => Iff.rfl, by simp [hil, hvf]⟩)
  refine ⟨hlists, fun q hq => ?_, fun j d hd => ?_, h.unique, h.nodup,
    fun j hj => ⟨List.mem_cons_of_mem _ (h.known j hj).1, (h.known j hj).2⟩, h.complete⟩
  · rw [hfinder, hinfo]
    simp only [hseat]
    by_cases hqi : q = i
    · subst hqi
      have hnil : accepted.filterMap (s.seat q) = [] :=
        List.filterMap_eq_nil_iff.2 fun j _ => h.seat_eq_none_of_fresh hnone j
      exact ⟨List.mem_cons_self, play.finderId, by simp [hnil]⟩
    · rw [hplays, if_neg hqi] at hq
      obtain ⟨ha, f, hf, hr, hn⟩ := h.plays q hq
      exact ⟨List.mem_cons_of_mem _ ha, f, by simp [hqi, hf], by simp [hqi, hr], hn⟩
  · obtain ⟨ha, v, q, hv, hq, f, hr, hf, hne⟩ := h.requests j d hd
    have hqi : q ≠ i := fun e => by
      have := Server.isSome_of_finderId hf
      simp [e, hnone] at this
    exact ⟨List.mem_cons_of_mem _ ha, v, q, hv, hq, f, hr, by rw [hfinder, if_neg hqi, hf], hne⟩

/-- The play that a request is for. -/
theorem play_of_request (h : Exact accepted s) {r : String} {d : Doc PlayRequestTitle}
    (hd : s.requests.get r = some d) (hu : d.string .requestSenderId = some u)
    (hp : d.string .playId = some p) :
    r ∈ s.allocated ∧ ∃ f, s.finderId p = some f ∧ u ≠ f ∧
      s.playerInfo p = some (f :: accepted.filterMap (s.seat p)) ∧
      (f :: accepted.filterMap (s.seat p)).Nodup := by
  obtain ⟨hall, v, q, hv, hq, f, -, hf, huf⟩ := h.requests r d hd
  obtain rfl := Option.some.inj (hu.symm.trans hv)
  obtain rfl := Option.some.inj (hp.symm.trans hq)
  obtain ⟨-, f', hf', hinfo, hnodup⟩ := h.plays p (Server.isSome_of_finderId hf)
  obtain rfl := Option.some.inj (hf.symm.trans hf')
  exact ⟨hall, f, hf, huf, hinfo, hnodup⟩

/-- A write of a status keeps what the invariant says of requests. -/
theorem requests_of_status (h : Exact accepted s) (s' : Server) {r : String} {n : ℤ}
    (hreq : s'.requests = (s.updateRequest r [(.status, .int n)]).requests)
    (hfinder : ∀ q, s'.finderId q = s.finderId q) (hall : s'.allocated = s.allocated) :
    (∀ i d, s'.requests.get i = some d → i ∈ s'.allocated ∧ ∃ u p, s'.Requests d u p) ∧
    ∀ i j d e, s'.requests.get i = some d → s'.requests.get j = some e →
      d.string .requestSenderId = e.string .requestSenderId →
      d.string .playId = e.string .playId → i = j := by
  refine ⟨fun i d hd => ?_, fun i j d e hd he hs hp => ?_⟩
  · rw [hreq] at hd
    obtain ⟨b, hb, hf⟩ := Server.exists_of_get_updateRequest hd
    obtain ⟨ha, v, q, hv, hq, f, hr, hrest, hne⟩ := h.requests i b hb
    refine ⟨hall ▸ ha, v, q, by rw [hf _ (by simp), hv], by rw [hf _ (by simp), hq], f,
      by rw [hf _ (by simp), hr], by rw [hfinder, hrest], hne⟩
  · rw [hreq] at hd he
    obtain ⟨b, hb, hf⟩ := Server.exists_of_get_updateRequest hd
    obtain ⟨b', hb', hf'⟩ := Server.exists_of_get_updateRequest he
    refine h.unique i j b b' hb hb' ?_ ?_
    · rw [← hf _ (by simp), ← hf' _ (by simp), hs]
    · rw [← hf _ (by simp), ← hf' _ (by simp), hp]

/-- **A status that is neither pending nor accepted, in place of one that
is not accepted**, changes no seat. -/
theorem setStatus (h : Exact accepted s) {r : String} {n : ℤ} (hr : s.status r ≠ some 99)
    (h99 : n ≠ 99) (h0 : n ≠ 0) : Exact accepted (s.updateRequest r [(.status, .int n)]) := by
  have hseat : ∀ q j, (s.updateRequest r [(.status, .int n)]).seat q j = s.seat q j := by
    intro q j
    by_cases hj : j = r
    · subst hj
      rw [Server.seat_eq_none hr, Server.seat_eq_none]
      rw [Server.status_updateRequest, if_pos rfl]
      cases s.requests.get j <;> simp [h99]
    · exact s.seat_updateRequest_of_ne n hj
  have hstatus : ∀ j m, (s.updateRequest r [(.status, .int n)]).status j = some m →
      s.status j = some m ∨ m = n := by
    intro j m hj
    rw [Server.status_updateRequest] at hj
    split at hj
    · obtain ⟨d, -, rfl⟩ := Option.map_eq_some_iff.1 hj
      exact Or.inr rfl
    · exact Or.inl hj
  obtain ⟨hreq, huniq⟩ := h.requests_of_status (s.updateRequest r [(.status, .int n)])
    rfl (fun _ => rfl) rfl
  refine ⟨h.lists, fun q hq => ?_, hreq, huniq, h.nodup,
    fun j hj => ⟨(h.known j hj).1, fun hj0 => ?_⟩, fun j hj => ?_⟩
  · simp only [hseat]
    exact h.plays q hq
  · rcases hstatus j 0 hj0 with hj0 | hj0
    · exact (h.known j hj).2 hj0
    · exact h0 hj0.symm
  · rcases hstatus j 99 hj with hj | hj
    · exact h.complete j hj
    · exact absurd hj.symm h99

/-- **Accepting keeps the invariant**: the sender is seated last. -/
theorem accept (h : Exact accepted s) {r : String} {d : Doc PlayRequestTitle}
    (hd : s.requests.get r = some d) (hu : d.string .requestSenderId = some u)
    (hp : d.string .playId = some p) (h0 : d.int .status = some 0) :
    Exact (accepted ++ [r])
      (((s.updateRequest r [(.status, .int 99)]).editUser .append p u).editPlay .append u p) := by
  have hre := s.reseated r 99 .append p u
  set s' := ((s.updateRequest r [(.status, .int 99)]).editUser .append p u).editPlay .append u p
  have hstatus : s.status r = some 0 := by rw [Server.status, hd, Option.bind_some, h0]
  have hr : r ∉ accepted := fun hr => (h.known r hr).2 hstatus
  have hst := hre.status_eq (by rw [hd]; rfl)
  obtain ⟨hall, f, hf, huf, hinfo, hnodup⟩ := h.play_of_request hd hu hp
  have hseat : ∀ q, s'.seat q r = if q = p then some u else none := by
    intro q
    rw [Server.seat, hre.requests, Server.get_requests_updateRequest, if_pos rfl, hd,
      Option.map_some, Option.bind_some]
    simp only [Doc.string_updateData, Doc.int_updateData, Value.asInt_int, reduceCtorEq,
      if_false, if_true, hp, hu, and_true, Option.some.injEq]
    exact if_congr eq_comm rfl rfl
  -- in the order of the acceptances the new one is last
  have hsenders : ∀ q, (accepted ++ [r]).filterMap (s'.seat q) =
      if q = p then accepted.filterMap (s.seat p) ++ [u] else accepted.filterMap (s.seat q) := by
    intro q
    have hbefore : accepted.filterMap (s'.seat q) = accepted.filterMap (s.seat q) :=
      List.filterMap_congr fun j hj => hre.seat_of_ne q fun e => hr (e ▸ hj)
    rw [List.filterMap_append, hbefore, List.filterMap_cons, hseat]
    by_cases hqp : q = p
    · simp [hqp]
    · simp [hqp]
  -- a sender already seated would have a second request for the play
  have hnew : u ∉ f :: accepted.filterMap (s.seat p) := by
    rw [List.mem_cons, not_or]
    refine ⟨huf, fun hmem => ?_⟩
    obtain ⟨j, -, hj⟩ := List.mem_filterMap.1 hmem
    obtain ⟨e, he, hep, he99, heu⟩ := Server.seat_eq_some.1 hj
    obtain rfl := h.unique r j d e hd he (hu.trans heu.symm) (hp.trans hep.symm)
    rw [hd, Option.some.injEq] at he
    rw [← he, h0] at he99
    cases he99
  have hother : ∀ q, q ≠ p → s'.playerInfo q = s.playerInfo q := fun q hq => by
    rw [hre.playerInfo, if_neg hq]
  have hroster : s'.playerInfo p = some (f :: (accepted.filterMap (s.seat p) ++ [u])) := by
    rw [hre.playerInfo, if_pos rfl, hinfo]
    rfl
  have hlists := h.lists_of_play hre.users hother (by
    intro v l hl hn hmem
    have hmem' : p ∈ l ↔ v ∈ f :: accepted.filterMap (s.seat p) := by
      rw [hmem, hinfo]
      simp
    rw [hre.myPlayList, hroster]
    by_cases hvu : v = u
    · subst hvu
      obtain ⟨hn', hrest, hp⟩ := append_adds hn fun hpl => hnew (hmem'.1 hpl)
      rw [if_pos rfl, hl]
      exact ⟨l ++ [p], rfl, hn', hrest, by simp⟩
    · rw [if_neg hvu]
      exact ⟨l, hl, hn, fun _ _ => Iff.rfl, hmem'.trans (by simp [hvu])⟩)
  have hplays := h.plays_of_roster hre.plays hre.allocated hre.finderId hother hf hroster
    (append_adds hnodup hnew).1 hsenders
  obtain ⟨hreq, huniq⟩ := h.requests_of_status s' hre.requests hre.finderId hre.allocated
  refine ⟨hlists, hplays, hreq, huniq, (append_adds h.nodup hr).1, fun j hj => ?_, fun j hj => ?_⟩
  · rw [hst]
    rcases List.mem_append.1 hj with hj | hj
    · rw [if_neg fun e : j = r => hr (e ▸ hj)]
      exact h.known j hj
    · rw [List.mem_singleton] at hj
      subst hj
      exact ⟨hall, by simp⟩
  · by_cases hjr : j = r
    · simp [hjr]
    · rw [hst, if_neg hjr] at hj
      exact List.mem_append_left _ (h.complete j hj)

/-- **Cancelling keeps the invariant**: the sender leaves the roster the
request seated it in. -/
theorem cancel (h : Exact accepted s) {r : String} {d : Doc PlayRequestTitle}
    (hd : s.requests.get r = some d) (hu : d.string .requestSenderId = some u)
    (hp : d.string .playId = some p) (h99 : d.int .status = some 99) :
    Exact accepted
      (((s.updateRequest r [(.status, .int (-1))]).editUser .remove p u).editPlay
        .remove u p) := by
  have hre := s.reseated r (-1) .remove p u
  set s' := ((s.updateRequest r [(.status, .int (-1))]).editUser .remove p u).editPlay .remove u p
  have hstatus : s.status r = some 99 := by rw [Server.status, hd, Option.bind_some, h99]
  have hr : r ∈ accepted := h.complete r hstatus
  have hst := hre.status_eq (by rw [hd]; rfl)
  obtain ⟨-, f, hf, huf, hinfo, hnodup⟩ := h.play_of_request hd hu hp
  -- the request seats nobody any more, and every other one whom it did
  have hrnone : ∀ q, s'.seat q r = none := fun q => Server.seat_eq_none (by simp [hst])
  have hsenders : ∀ q, accepted.filterMap (s'.seat q) =
      if q = p then (accepted.filterMap (s.seat p)).erase u else accepted.filterMap (s.seat q) := by
    intro q
    by_cases hqp : q = p
    · subst hqp
      rw [if_pos rfl]
      exact filterMap_eq_erase h.nodup (List.nodup_cons.1 hnodup).2 hr
        (Server.seat_eq_some.2 ⟨d, hd, hp, h99, hu⟩) (hrnone q) fun j _ hj => hre.seat_of_ne q hj
    · rw [if_neg hqp]
      refine List.filterMap_congr fun j _ => ?_
      by_cases hj : j = r
      · subst hj
        rw [hrnone, eq_comm, Option.eq_none_iff_forall_ne_some]
        intro w hw
        obtain ⟨e, he, hep, -⟩ := Server.seat_eq_some.1 hw
        rw [hd, Option.some.injEq] at he
        rw [← he, hp, Option.some.injEq] at hep
        exact hqp hep.symm
      · exact hre.seat_of_ne q hj
  have herase : (f :: accepted.filterMap (s.seat p)).erase u =
      f :: (accepted.filterMap (s.seat p)).erase u :=
    List.erase_cons_tail (by simpa using huf.symm)
  obtain ⟨hnodup', hkept, hgone⟩ := erase_drops hnodup u
  rw [herase] at hnodup' hkept hgone
  have hother : ∀ q, q ≠ p → s'.playerInfo q = s.playerInfo q := fun q hq => by
    rw [hre.playerInfo, if_neg hq]
  have hroster : s'.playerInfo p = some (f :: (accepted.filterMap (s.seat p)).erase u) := by
    rw [hre.playerInfo, if_pos rfl, hinfo, Option.map_some, ListEdit.callback_remove,
      Option.getD_some, herase]
  have hlists := h.lists_of_play hre.users hother (by
    intro v l hl hn hmem
    rw [hre.myPlayList, hroster]
    simp only [ListEdit.callback_remove, Option.getD_some]
    by_cases hvu : v = u
    · subst hvu
      obtain ⟨hn', hrest, hp⟩ := erase_drops hn p
      rw [if_pos rfl, hl]
      exact ⟨l.erase p, rfl, hn', hrest, by simpa [hp] using hgone⟩
    · rw [if_neg hvu]
      refine ⟨l, hl, hn, fun _ _ => Iff.rfl, ?_⟩
      rw [hmem, hinfo]
      simpa using (hkept v hvu).symm)
  have hplays := h.plays_of_roster hre.plays hre.allocated hre.finderId hother hf hroster hnodup'
    hsenders
  obtain ⟨hreq, huniq⟩ := h.requests_of_status s' hre.requests hre.finderId hre.allocated
  refine ⟨hlists, hplays, hreq, huniq, h.nodup, fun j hj => ⟨?_, ?_⟩, fun j hj => ?_⟩
  · rw [hre.allocated]
    exact (h.known j hj).1
  · rw [hst]
    split
    · simp
    · exact (h.known j hj).2
  · rw [hst] at hj
    split at hj
    · simp at hj
    · exact h.complete j hj

/-- **`saveRequest` keeps the invariant**: its check lets one request of a
sender for a play through. -/
theorem saveRequest (h : Exact accepted s) (hi : i ∉ s.allocated) {play : Play} (now : Date)
    (hplay : CurrentPlay s play) (hu : u ≠ play.finderId) :
    Exact accepted (effect { s with allocated := i :: s.allocated }
      (.querySameRequest i (RequestDataManager.saveRequestData play (some u) now) play
        (some u))) := by
  obtain ⟨d, t, hd, hdec⟩ := hplay
  obtain ⟨-, f, hf, -, -⟩ := h.plays play.id (by rw [hd]; rfl)
  have hfinder : play.finderId = f := by
    rw [Server.finderId, hd, Option.bind_some] at hf
    rw [← hdec]
    simp only [decodePlay, hf, Option.getD_some]
  subst hfinder
  simp only [effect]
  split
  · rename_i hsend
    set doc := Doc.setData (RequestDataManager.saveRequestData play (some u) now) with hdoc
    have hnone : s.requests.get i = none := by
      rw [Option.eq_none_iff_forall_ne_some]
      exact fun e he => hi (h.requests i e he).1
    have hstatus : s.status i = none := by rw [Server.status, hnone, Option.bind_none]
    have hget : ∀ j, (s.requests.set i doc).get j = if j = i then some doc
        else s.requests.get j := fun j => Collection.get_set _ _ _ _
    -- no stored request has the sender and the play of the new one
    have hnew : ∀ j e, s.requests.get j = some e → e.string .requestSenderId = some u →
        e.string .playId ≠ some play.id := by
      intro j e he heu hep
      obtain ⟨-, v, q, -, hq, g, hg, hfg, -⟩ := h.requests j e he
      rw [hep, Option.some.injEq] at hq
      rw [← hq, hf, Option.some.injEq] at hfg
      have hmem : e ∈ (s.requestsOfPlay play.id).map Prod.snd :=
        List.mem_map.2 ⟨(j, e), Collection.mem_query.2 ⟨he, by simp [hep]⟩, rfl⟩
      have := List.all_eq_true.1 hsend e hmem
      simp [heu, hg, hfg] at this
    refine ⟨h.lists, fun q hq => ?_, fun j e he => ?_, fun j k e e' he he' hs hp => ?_, h.nodup,
      fun j hj => ⟨List.mem_cons_of_mem _ (h.known j hj).1, ?_⟩, fun j hj => ?_⟩
    · obtain ⟨ha, g, hg, hinfo, hn⟩ := h.plays q hq
      have hsenders : accepted.filterMap (Server.seat { s with
          requests := s.requests.set i doc, allocated := i :: s.allocated } q) =
          accepted.filterMap (s.seat q) := by
        refine List.filterMap_congr fun j hj => ?_
        have hji : j ≠ i := fun e => hi (e ▸ (h.known j hj).1)
        rw [Server.seat, Server.seat]
        simp only [hget, if_neg hji]
      rw [hsenders]
      exact ⟨List.mem_cons_of_mem _ ha, g, hg, hinfo, hn⟩
    · change (s.requests.set i doc).get j = some e at he
      rw [hget] at he
      split at he
      · rename_i hji
        obtain rfl := Option.some.inj he
        exact ⟨hji ▸ List.mem_cons_self, u, play.id, rfl, rfl, play.finderId, rfl, hf, hu⟩
      · obtain ⟨ha, v, q, hrest⟩ := h.requests j e he
        exact ⟨List.mem_cons_of_mem _ ha, v, q, hrest⟩
    · change (s.requests.set i doc).get j = some e at he
      change (s.requests.set i doc).get k = some e' at he'
      rw [hget] at he he'
      have hdu : doc.string .requestSenderId = some u := rfl
      have hdp : doc.string .playId = some play.id := rfl
      split at he
      · rename_i hji
        obtain rfl := Option.some.inj he
        split at he'
        · rename_i hki
          exact hji.trans hki.symm
        · exact absurd (hp.symm.trans hdp) (hnew k e' he' (hs.symm.trans hdu))
      · split at he'
        · obtain rfl := Option.some.inj he'
          exact absurd (hp.trans hdp) (hnew j e he (hs.trans hdu))
        · exact h.unique j k e e' he he' hs hp
    · change ((s.requests.set i doc).get j).bind _ ≠ _
      have hji : j ≠ i := fun e => hi (e ▸ (h.known j hj).1)
      rw [hget, if_neg hji]
      exact (h.known j hj).2
    · change ((s.requests.set i doc).get j).bind _ = _ at hj
      rw [hget] at hj
      split at hj
      · cases hj
      · exact h.complete j hj
  · exact ⟨h.lists, fun q hq => ⟨List.mem_cons_of_mem _ (h.plays q hq).1, (h.plays q hq).2⟩,
      fun j e he => ⟨List.mem_cons_of_mem _ (h.requests j e he).1, (h.requests j e he).2⟩,
      h.unique, h.nodup, fun j hj => ⟨List.mem_cons_of_mem _ (h.known j hj).1, (h.known j hj).2⟩,
      h.complete⟩

end Exact

end Volleyer
