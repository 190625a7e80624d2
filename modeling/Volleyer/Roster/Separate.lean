import Volleyer.Common.Linearize
import Volleyer.Common.Tagged
import Volleyer.Roster.Cells
import Volleyer.Roster.Origins
import Volleyer.Roster.Refines

/-!
# The roster — operations on separate plays

Members who are about different plays need not wait for each other. Calls
may overlap where no two in flight are about one play or edit the list of
one user, and their callbacks run in any order: each ends with what it
would have done alone. So such a run leads to the documents to which the
same calls lead one at a time, in the order in which they were made, and
these are the documents of a club (`exists_serial_of_separate`).
-/

namespace Volleyer

variable {hist : List Server} {s s' : Server} {a b : Call} {t t' : Task} {p u i : String}

/-! ## What is in flight for a call -/

/-- **A task of a call** is about the play of the call and its users. A
request it removes was sent for that play. -/
def Call.Owns (hist : List Server) (a : Call) : Task → Prop
  | .setPlay p _ f => p = a.ofPlay ∧ f ∈ a.members
  | .updatePlay p _ | .deletePlay p | .getPlay _ _ p | .setPlayerInfo p _ | .queryRequests p =>
      p = a.ofPlay
  | .querySameRequest _ data play _ =>
      play.id = a.ofPlay ∧ (Doc.setData data).string .playId = some a.ofPlay
  | .setRequest _ data => (Doc.setData data).string .playId = some a.ofPlay
  | .updateStatus request _ | .cancelStatus request =>
      request.playId = a.ofPlay ∧ request.requestSenderId ∈ a.members
  | .getUsers _ _ u | .setMyPlayList u _ => u ∈ a.members
  | .deleteRequest i => ∃ u, Sent hist i u a.ofPlay

namespace Call.Owns

theorem cons (h : a.Owns hist t) (s : Server) : a.Owns (s :: hist) t := by
  cases t with
  | deleteRequest i =>
    obtain ⟨u, hu⟩ := h
    exact ⟨u, hu.cons s⟩
  | _ => exact h

/-- A task works on cells of its call. -/
theorem lanes_subset (h : a.Owns hist t) : lanes (a, t) ⊆ a.keys := by
  intro k hk
  cases t with
  | setPlay p data f =>
    rcases hk with rfl | rfl
    · exact h.1
    · exact h.2
  | querySameRequest i data play me =>
    rcases hk with rfl | rfl
    · exact h.1
    · exact rfl
  | updateStatus request n =>
    rcases hk with rfl | rfl | rfl
    · exact h.1
    · exact h.1
    · exact h.2
  | cancelStatus request =>
    rcases hk with rfl | rfl | rfl
    · exact h.1
    · exact h.1
    · exact h.2
  | setRequest i data =>
    obtain rfl := Set.mem_singleton_iff.1 hk
    exact rfl
  | deleteRequest i =>
    obtain rfl := Set.mem_singleton_iff.1 hk
    exact rfl
  | _ =>
    obtain rfl := Set.mem_singleton_iff.1 hk
    exact h

/-- What a call puts in flight is its own. -/
theorem of_issue {ts : List Task} (hi : issue s a = some (s', ts)) : ∀ t ∈ ts, a.Owns hist t := by
  intro t ht
  cases a with
  | savePlay play i now =>
    obtain ⟨-, -, rfl⟩ := allocate_eq_some.1 hi
    obtain rfl := List.mem_singleton.1 ht
    exact ⟨rfl, List.mem_singleton_self _⟩
  | saveRequest play players me i now =>
    obtain ⟨-, -, rfl⟩ := allocate_eq_some.1 hi
    obtain rfl := List.mem_singleton.1 ht
    exact ⟨rfl, rfl⟩
  | deletePlay play =>
    obtain ⟨-, rfl⟩ := Prod.mk.inj (Option.some.inj hi)
    rw [deletePlay_eq, List.mem_cons, List.mem_append, List.mem_singleton] at ht
    rcases ht with rfl | ht | rfl
    · exact rfl
    · obtain ⟨u, hu, rfl⟩ := List.mem_map.1 ht
      exact hu
    · exact rfl
  | updatePlay play =>
    obtain ⟨-, rfl⟩ := Prod.mk.inj (Option.some.inj hi)
    obtain rfl := List.mem_singleton.1 ht
    exact rfl
  | updateRequest request n =>
    obtain ⟨-, rfl⟩ := Prod.mk.inj (Option.some.inj hi)
    obtain rfl := List.mem_singleton.1 ht
    exact ⟨rfl, List.mem_singleton_self _⟩
  | cancelRequest request =>
    obtain ⟨-, rfl⟩ := Prod.mk.inj (Option.some.inj hi)
    obtain rfl := List.mem_singleton.1 ht
    exact ⟨rfl, List.mem_singleton_self _⟩

end Call.Owns

/-- The two tasks of an edit of both lists. -/
theorem mem_edits {e : ListEdit} {q : Prop} [Decidable q]
    (h : t ∈ if q then editMyPlayList e p u ++ editPlayerInfo e u p else []) :
    q ∧ (t = .getUsers e p u ∨ t = .getPlay e u p) := by
  by_cases hq : q
  · rw [if_pos hq] at h
    exact ⟨hq, List.mem_pair.1 h⟩
  · rw [if_neg hq] at h
    cases h

/-- **What a task puts in flight** is of its call as well, and works on
cells of the task. -/
theorem Call.Owns.answerOk (h : a.Owns hist t) (htraced : Traced hist) (hs : s ∈ hist)
    (hkeyed : s.UsersKeyed) (ht' : t' ∈ (answerOk s t).2) :
    a.Owns hist t' ∧ lanes (a, t') ⊆ lanes (a, t) := by
  cases t with
  | setPlay p data f =>
    obtain rfl := List.mem_singleton.1 ht'
    exact ⟨h.2, by simp [lanes]⟩
  | querySameRequest i data play me =>
    rw [answerOk_querySameRequest] at ht'
    split at ht'
    · obtain rfl := List.mem_singleton.1 ht'
      exact ⟨h.2, by simp [lanes]⟩
    · cases ht'
  | updateStatus request n =>
    rw [answerOk_updateStatus] at ht'
    rcases (mem_edits ht').2 with rfl | rfl
    · exact ⟨h.2, by simp [lanes]⟩
    · exact ⟨h.1, by simp [lanes]⟩
  | cancelStatus request =>
    rw [answerOk_cancelStatus] at ht'
    rcases (mem_edits ht').2 with rfl | rfl
    · exact ⟨h.2, by simp [lanes]⟩
    · exact ⟨h.1, by simp [lanes]⟩
  | getUsers e p u =>
    rw [answerOk_getUsers (hkeyed.keyedAt u)] at ht'
    obtain ⟨l, -, rfl⟩ := List.mem_map.1 ht'
    exact ⟨h, subset_rfl⟩
  | getPlay e u p =>
    rw [answerOk_getPlay] at ht'
    obtain ⟨l, -, rfl⟩ := List.mem_map.1 ht'
    exact ⟨h, subset_rfl⟩
  | queryRequests p =>
    obtain ⟨⟨i, d⟩, hd, rfl⟩ := List.mem_map.1 ht'
    obtain ⟨hget, hplay⟩ := Collection.mem_query.1 hd
    obtain ⟨v, q, hv, hq, -⟩ := htraced.requests s hs i d hget
    obtain rfl : p = a.ofPlay := h
    exact ⟨⟨v, s, hs, d, hget, hv, beq_iff_eq.1 hplay⟩, subset_rfl⟩
  | _ => cases ht'

/-! ## One answer unfolds an effect -/

/-- Changes that leave the same in their cell. -/
theorem changeCell_congr {k : Key} {F G : k.Cell → k.Cell} {v : Cells} (h : F (v k) = G (v k)) :
    changeCell k F v = changeCell k G v := by
  rw [changeCell, changeCell, h]

/-- What a list is read for is written back, if anything: the cell is
changed as by one edit. -/
theorem changeCell_edit {v : Cells} (k : Key) {F : k.Cell → k.Cell} {o : Option (List String)}
    {G : List String → k.Cell → k.Cell} {T : List String → Task}
    (hT : ∀ l, cellEffect v (a, T l) = changeCell k (G l) v)
    (hF : F (v k) = o.elim (v k) fun l => G l (v k)) :
    changeCell k F v = ((o.toList.map T).map (a, ·)).foldl cellEffect v := by
  cases o with
  | none => exact changeCell_eq_self hF
  | some l => exact (changeCell_congr hF).trans (hT l).symm

/-- A request that was sent for a play is one of its requests. -/
theorem Traced.playId_of_sent (h : Traced hist) (hs : s ∈ hist) (hi : Sent hist i u p) :
    ∀ d, s.requests.get i = some d → d.string .playId = some p := by
  intro d hd
  obtain ⟨v, q, -, hq, -, huniq⟩ := h.requests_of_mem hs hd
  rw [hq, (huniq u p hi).2]

/-- The check of `saveRequest`, on the requests of the play. -/
theorem canSend_iff (s : Server) (play : Play) (me : Option String) :
    CanSend play me (s.requestsIn play.id) ↔ RequestDataManager.canSendRequest play me
      ((s.requestsOfPlay play.id).map Prod.snd) = true := by
  simp only [CanSend, Server.requestsIn_eq_some, RequestDataManager.canSendRequest,
    List.all_eq_true, List.mem_map, Prod.exists, exists_eq_right, forall_exists_index,
    Server.requestsOfPlay, Collection.mem_query, beq_iff_eq, Bool.not_eq_true', Bool.and_eq_false_iff,
    beq_eq_false_iff_ne, ne_eq, not_and_or]
  exact forall_comm

/-- The removals a query goes on to leave none of what it found. -/
theorem foldl_deleteRequest (a : Call) (l : List String) (v : Cells) :
    (l.map fun i => (a, Task.deleteRequest i)).foldl cellEffect v =
      changeCell (.requests a.ofPlay) (fun R j => if j ∈ l then none else R j) v := by
  induction l generalizing v with
  | nil =>
    refine (changeCell_eq_self ?_).symm
    funext j
    rw [if_neg List.not_mem_nil]
  | cons i l ih =>
    rw [List.map_cons, List.foldl_cons, ih, cellEffect, changeCell_changeCell]
    refine changeCell_congr ?_
    funext j
    by_cases hl : j ∈ l
    · rw [if_pos hl, if_pos (List.mem_cons_of_mem i hl)]
    · by_cases hj : j = i
      · rw [if_neg hl, hj, Function.update_self, if_pos List.mem_cons_self]
      · rw [if_neg hl, Function.update_of_ne hj, if_neg]
        rw [List.mem_cons, not_or]
        exact ⟨hj, hl⟩

/-- A status written to a request that was sent, and what follows it. -/
theorem cellStatus_cells {request : PlayRequest} {n : ℤ} {e : ListEdit} {q : Prop} [Decidable q]
    (hplay : ∀ d, s.requests.get request.id = some d → d.string .playId = some request.playId) :
    cellStatus request n (if q then some e else none) s.cells =
      ((if (s.requests.get request.id).isSome ∧ q then
          editMyPlayList e request.playId request.requestSenderId ++
            editPlayerInfo e request.requestSenderId request.playId
        else []).map (a, ·)).foldl cellEffect
        (s.updateRequest request.id [(.status, .int n)]).cells := by
  have hcell : s.cells (.requests request.playId) request.id = s.requests.get request.id :=
    Server.requestsIn_eq_get hplay
  have hnew : ∀ d, (s.requests.modify request.id (·.updateData [(.status, .int n)])).get
      request.id = some d → d.string .playId = some request.playId := by
    intro d hd
    rw [Collection.get_modify_self, Option.map_eq_some_iff] at hd
    obtain ⟨b, hb, rfl⟩ := hd
    simpa using hplay b hb
  have hcells : (s.updateRequest request.id [(.status, .int n)]).cells =
      changeCell (.requests request.playId) (fun R => Function.update R request.id
        ((R request.id).map (·.updateData [(.status, .int n)]))) s.cells := by
    refine (Server.cells_of_requests (i := request.id)
      (fun j hj => s.requests.get_modify_of_ne _ hj) hplay hnew).trans (changeCell_congr ?_)
    show Function.update _ _ _ = Function.update _ _ _
    rw [Collection.get_modify_self, hcell]
  rw [cellStatus, hcell]
  cases hget : s.requests.get request.id with
  | none =>
    rw [Server.updateRequest, Collection.modify_of_get_eq_none _ hget]
    simp
  | some d =>
    rw [if_pos Option.isSome_some, hcells]
    by_cases hq : q
    · rw [if_pos hq, if_pos ⟨Option.isSome_some, hq⟩]
      rfl
    · rw [if_neg hq, if_neg fun h => hq h.2]
      rfl

/-- **One answer unfolds an effect.** -/
theorem cellEffect_unfold (h : a.Owns hist t) (htraced : Traced hist) (hs : s ∈ hist)
    (hkeyed : s.UsersKeyed) (ht : t.Traced hist)
    (hnew : ∀ i, t.newId = some i → ∀ s ∈ hist, ¬s.Stores i) :
    cellEffect s.cells (a, t) =
      ((answerOk s t).2.map (a, ·)).foldl cellEffect (answerOk s t).1.cells := by
  cases t with
  | setPlay p data f =>
    have hcells : Server.cells { s with plays := s.plays.set p (Doc.setData data) } =
        changeCell (Key.play p) (fun _ => some (Doc.setData data)) s.cells :=
      Server.cells_of_plays (s.plays.get_set_self p _) fun q hq => s.plays.get_set_of_ne _ hq
    rw [cellEffect, ← hcells]
    rfl
  | updatePlay p data => exact (s.cells_modify_plays p _).symm
  | setPlayerInfo p l => exact (s.cells_modify_plays p _).symm
  | setMyPlayList u l => exact (s.cells_modify_users u _).symm
  | deletePlay p =>
    exact (Server.cells_of_plays (F := fun _ => none) (s.plays.get_delete_self p)
      fun q hq => s.plays.get_delete_of_ne hq).symm
  | querySameRequest i data play me =>
    rw [answerOk_querySameRequest, cellEffect]
    by_cases hsend : CanSend play me (s.requestsIn play.id)
    · rw [if_pos ((canSend_iff s play me).1 hsend)]
      exact if_pos hsend
    · rw [if_neg fun h => hsend ((canSend_iff s play me).2 h)]
      exact if_neg hsend
  | setRequest i data =>
    have hnone : s.requests.get i = none := by
      by_contra hne
      exact hnew i rfl s hs (Or.inr (Option.isSome_iff_ne_none.2 hne))
    have hcells := Server.cells_of_requests (s := s) (p := a.ofPlay) (i := i)
      (fun j hj => s.requests.get_set_of_ne (Doc.setData data) hj)
      (fun d hd => absurd hd (by simp [hnone])) fun d hd => by
        rw [Collection.get_set_self, Option.some.injEq] at hd
        rw [← hd]
        exact h
    rw [Collection.get_set_self] at hcells
    exact hcells.symm
  | updateStatus request n =>
    rw [answerOk_updateStatus]
    exact cellStatus_cells (htraced.playId_of_sent hs ht)
  | cancelStatus request =>
    rw [answerOk_cancelStatus]
    exact cellStatus_cells (htraced.playId_of_sent hs ht)
  | getUsers e p u =>
    rw [answerOk_getUsers (hkeyed.keyedAt u)]
    refine changeCell_edit (Key.user u) (fun _ => rfl) ?_
    show (s.users.get u).map (editUserDoc e p) = _
    rw [Server.myPlayList]
    cases hd : s.users.get u with
    | none => exact hd.symm
    | some d =>
      rw [Option.map_some, editUserDoc, Option.bind_some]
      cases (d.strings .myPlayList).bind (e.callback p) with
      | none => exact hd.symm
      | some l =>
        exact (congrArg (Option.map (Doc.updateData · [(.myPlayList, .strings l)])) hd).symm
  | getPlay e u p =>
    rw [answerOk_getPlay]
    refine changeCell_edit (Key.play p) (fun _ => rfl) ?_
    show (s.plays.get p).map (editPlayDoc e u) = _
    rw [Server.playerInfo]
    cases hd : s.plays.get p with
    | none => exact hd.symm
    | some d =>
      rw [Option.map_some, editPlayDoc, Option.bind_some]
      cases (d.strings .playerInfo).bind (e.callback u) with
      | none => exact hd.symm
      | some l =>
        exact (congrArg (Option.map (Doc.updateData · [(.playerInfo, .strings l)])) hd).symm
  | queryRequests p =>
    obtain rfl : p = a.ofPlay := h
    have hmap : ((answerOk s (.queryRequests a.ofPlay)).2.map (a, ·)) =
        ((s.requestsOfPlay a.ofPlay).map Prod.fst).map fun i => (a, Task.deleteRequest i) := by
      rw [answerOk, List.map_map, List.map_map]
      rfl
    rw [hmap, foldl_deleteRequest, cellEffect]
    refine changeCell_congr ?_
    funext j
    show none = if j ∈ (s.requestsOfPlay a.ofPlay).map Prod.fst then none
      else s.requestsIn a.ofPlay j
    split
    · rfl
    · rename_i hj
      rw [eq_comm, Option.eq_none_iff_forall_ne_some]
      intro d hd
      obtain ⟨hget, hplay⟩ := Server.requestsIn_eq_some.1 hd
      exact hj (List.mem_map.2 ⟨(j, d), Collection.mem_query.2 ⟨hget, beq_iff_eq.2 hplay⟩, rfl⟩)
  | deleteRequest i =>
    obtain ⟨u, hu⟩ := h
    have hcells := Server.cells_of_requests (s := s) (p := a.ofPlay) (i := i)
      (fun j hj => s.requests.get_delete_of_ne hj)
      (htraced.playId_of_sent hs hu) fun d hd => absurd hd (by simp)
    rw [Collection.get_delete_self] at hcells
    exact hcells.symm

end Volleyer
