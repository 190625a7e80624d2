import Mathlib.Data.Set.Insert
import Volleyer.Common.Cells
import Volleyer.Roster.Settle

/-!
# The roster — the store in cells

What can be told of the store: the document of each user and of each
play, the requests of each play, and the ids handed out. How a collection
holds its documents does not show in `Server.cells`, so two documents may
be created in either order. `cellEffect` is what a task of a call does
when it and all of its callbacks run alone, and `lanes` are the cells it
works on (`worksOn_cellEffect`), which are cells of its call.
-/

namespace Volleyer

variable {s s' : Server} {p q u i : String}

/-- A part of the store. -/
inductive Key
  | user (u : String)
  | play (p : String)
  | requests (p : String)
  | allocated
deriving DecidableEq

/-- What stands in a part: a document, the requests of a play under their
ids, or a list of ids. -/
abbrev Key.Cell : Key → Type
  | user _ => Option (Doc UserTitle)
  | play _ => Option (Doc PlayTitle)
  | requests _ => String → Option (Doc PlayRequestTitle)
  | allocated => List String

abbrev Cells : Type := (k : Key) → k.Cell

/-! ## What can be told of a store -/

namespace Server

/-- The requests of a play, under their ids. -/
def requestsIn (s : Server) (p i : String) : Option (Doc PlayRequestTitle) :=
  (s.requests.get i).filter fun d => d.string .playId == some p

/-- **The store in cells.** -/
def cells (s : Server) : Cells
  | .user u => s.users.get u
  | .play p => s.plays.get p
  | .requests p => s.requestsIn p
  | .allocated => s.allocated

theorem requestsIn_eq_some {d : Doc PlayRequestTitle} :
    s.requestsIn p i = some d ↔ s.requests.get i = some d ∧ d.string .playId = some p := by
  rw [requestsIn, Option.filter_eq_some_iff, beq_iff_eq]

/-- A request stands among those of its own play. -/
theorem requestsIn_eq_get (h : ∀ d, s.requests.get i = some d → d.string .playId = some p) :
    s.requestsIn p i = s.requests.get i := by
  ext d
  rw [requestsIn_eq_some]
  exact and_iff_left_of_imp (h d)

/-- And among those of no other play. -/
theorem requestsIn_eq_none (h : ∀ d, s.requests.get i = some d → d.string .playId = some p)
    (hq : q ≠ p) : s.requestsIn q i = none := by
  rw [Option.eq_none_iff_forall_ne_some]
  intro d hd
  obtain ⟨hget, hplay⟩ := requestsIn_eq_some.1 hd
  exact hq (Option.some.inj (hplay.symm.trans (h d hget)))

/-- A user document rewritten. -/
theorem cells_modify_users (s : Server) (u : String) (f : Doc UserTitle → Doc UserTitle) :
    cells { s with users := s.users.modify u f } = changeCell (.user u) (·.map f) s.cells := by
  funext k
  by_cases hk : k = .user u
  · subst hk
    rw [changeCell_self]
    exact s.users.get_modify_self u f
  · rw [changeCell_of_ne hk]
    cases k with
    | user v => exact s.users.get_modify_of_ne f fun hv => hk (by rw [hv])
    | _ => rfl

/-- A play document written, whatever is written. -/
theorem cells_of_plays {ps : Collection String (Doc PlayTitle)}
    {F : Option (Doc PlayTitle) → Option (Doc PlayTitle)} (hF : ps.get p = F (s.plays.get p))
    (hother : ∀ q, q ≠ p → ps.get q = s.plays.get q) :
    cells { s with plays := ps } = changeCell (.play p) F s.cells := by
  funext k
  by_cases hk : k = .play p
  · subst hk
    rw [changeCell_self]
    exact hF
  · rw [changeCell_of_ne hk]
    cases k with
    | play q => exact hother q fun hq => hk (by rw [hq])
    | _ => rfl

theorem cells_modify_plays (s : Server) (p : String) (f : Doc PlayTitle → Doc PlayTitle) :
    cells { s with plays := s.plays.modify p f } = changeCell (.play p) (·.map f) s.cells :=
  cells_of_plays (s.plays.get_modify_self p f) fun _ hq => s.plays.get_modify_of_ne f hq

/-- **A request of a play written**, whatever is written: where the one that
was there is of the play and the one that is then, no other play shows
it. -/
theorem cells_of_requests {rs : Collection String (Doc PlayRequestTitle)}
    (hother : ∀ j, j ≠ i → rs.get j = s.requests.get j)
    (hold : ∀ d, s.requests.get i = some d → d.string .playId = some p)
    (hnew : ∀ d, rs.get i = some d → d.string .playId = some p) :
    cells { s with requests := rs } =
      changeCell (.requests p) (fun R => Function.update R i (rs.get i)) s.cells := by
  set s' : Server := { s with requests := rs } with hs'
  have hsame : ∀ q j, j ≠ i → s'.requestsIn q j = s.requestsIn q j := by
    intro q j hj
    rw [requestsIn, requestsIn, hs', hother j hj]
  funext k
  by_cases hk : k = .requests p
  · subst hk
    rw [changeCell_self]
    funext j
    show s'.requestsIn p j = Function.update (s.requestsIn p) i (rs.get i) j
    by_cases hj : j = i
    · subst hj
      rw [Function.update_self]
      exact requestsIn_eq_get hnew
    · rw [Function.update_of_ne hj]
      exact hsame p j hj
  · rw [changeCell_of_ne hk]
    cases k with
    | requests q =>
      have hq : q ≠ p := fun hq => hk (by rw [hq])
      funext j
      by_cases hj : j = i
      · subst hj
        exact (requestsIn_eq_none hnew hq).trans (requestsIn_eq_none hold hq).symm
      · exact hsame q j hj
    | _ => rfl

end Server

/-! ## What a call works on -/

namespace Call

/-- The play a call is about. -/
def ofPlay : Call → String
  | .savePlay _ documentID _ => documentID
  | .updatePlay play | .deletePlay play | .saveRequest play _ _ _ _ => play.id
  | .updateRequest request _ | .cancelRequest request => request.playId

/-- The users whose lists a call may edit. -/
def members : Call → List String
  | .savePlay play _ _ => [play.finderId]
  | .updatePlay _ | .saveRequest _ _ _ _ _ => []
  | .deletePlay play => play.playerInfo
  | .updateRequest request _ | .cancelRequest request => [request.requestSenderId]

/-- **The cells of a call**: its play, the requests for it, and its users. -/
def keys (a : Call) : Set Key
  | .play p | .requests p => p = a.ofPlay
  | .user u => u ∈ a.members
  | .allocated => False

/-- **Separate calls**: about different plays, and no user of the one is a
user of the other. -/
def Separate (a b : Call) : Prop := a.ofPlay ≠ b.ofPlay ∧ ∀ u ∈ a.members, u ∉ b.members

theorem Separate.disjoint {a b : Call} (h : a.Separate b) : Disjoint a.keys b.keys := by
  refine Set.disjoint_left.2 fun k ha hb => ?_
  cases k with
  | user u => exact h.2 u ha hb
  | play p => exact h.1 (Eq.trans (Eq.symm ha) hb)
  | requests p => exact h.1 (Eq.trans (Eq.symm ha) hb)
  | allocated => exact ha

end Call

/-! ## What a task does alone -/

/-- No request of the play is of this sender to its finder. -/
def CanSend (play : Play) (me : Option String) (R : String → Option (Doc PlayRequestTitle)) :
    Prop :=
  ∀ i d, R i = some d → ¬(d.string .requestSenderId = me ∧
    d.string .requestReceiverId = some play.finderId)

/-- Both lists edited. -/
def cellEdit (e : ListEdit) (request : PlayRequest) (v : Cells) : Cells :=
  changeCell (.play request.playId) (·.map (editPlayDoc e request.requestSenderId))
    (changeCell (.user request.requestSenderId) (·.map (editUserDoc e request.playId)) v)

/-- A status written where the request is, and both lists edited after it
where the status says so. -/
def cellStatus (request : PlayRequest) (n : ℤ) (edit : Option ListEdit) (v : Cells) : Cells :=
  if (v (.requests request.playId) request.id).isSome then
    edit.elim id (fun e => cellEdit e request) (changeCell (.requests request.playId)
      (fun R => Function.update R request.id
        ((R request.id).map (·.updateData [(.status, .int n)]))) v)
  else v

open Classical in
/-- **What a task of a call does alone**, all of its callbacks included. -/
noncomputable def cellEffect (v : Cells) : Call × Task → Cells
  | (_, .setPlay documentID data finderId) =>
      changeCell (.user finderId) (·.map (editUserDoc .append documentID))
        (changeCell (.play documentID) (fun _ => some (Doc.setData data)) v)
  | (_, .updatePlay documentID data) => changeCell (.play documentID) (·.map (·.updateData data)) v
  | (_, .deletePlay documentID) => changeCell (.play documentID) (fun _ => none) v
  | (a, .querySameRequest documentID data play me) =>
      if CanSend play me (v (.requests play.id)) then
        changeCell (.requests a.ofPlay)
          (fun R => Function.update R documentID (some (Doc.setData data))) v
      else v
  | (a, .setRequest documentID data) =>
      changeCell (.requests a.ofPlay)
        (fun R => Function.update R documentID (some (Doc.setData data))) v
  | (_, .updateStatus request status) =>
      cellStatus request status (if status = 99 then some .append else none) v
  | (_, .cancelStatus request) =>
      cellStatus request (-1) (if request.status = 99 then some .remove else none) v
  | (_, .getUsers edit playId userId) =>
      changeCell (.user userId) (·.map (editUserDoc edit playId)) v
  | (_, .setMyPlayList documentID myPlayList) =>
      changeCell (.user documentID) (·.map (·.updateData [(.myPlayList, .strings myPlayList)])) v
  | (_, .getPlay edit userId playId) =>
      changeCell (.play playId) (·.map (editPlayDoc edit userId)) v
  | (_, .setPlayerInfo documentID playInfo) =>
      changeCell (.play documentID) (·.map (·.updateData [(.playerInfo, .strings playInfo)])) v
  | (_, .queryRequests playId) => changeCell (.requests playId) (fun _ _ => none) v
  | (a, .deleteRequest documentID) =>
      changeCell (.requests a.ofPlay) (fun R => Function.update R documentID none) v

/-- The cells a task works on. -/
def lanes : Call × Task → Set Key
  | (_, .setPlay p _ f) => {.play p, .user f}
  | (_, .updatePlay p _) | (_, .deletePlay p) | (_, .getPlay _ _ p) | (_, .setPlayerInfo p _) =>
      {.play p}
  | (a, .querySameRequest _ _ play _) => {.requests play.id, .requests a.ofPlay}
  | (a, .setRequest _ _) | (a, .deleteRequest _) => {.requests a.ofPlay}
  | (_, .updateStatus request _) | (_, .cancelStatus request) =>
      {.requests request.playId, .play request.playId, .user request.requestSenderId}
  | (_, .getUsers _ _ u) | (_, .setMyPlayList u _) => {.user u}
  | (_, .queryRequests p) => {.requests p}

/-- The change of one cell, among others. -/
theorem worksOn_cell {K : Set Key} (k : Key) (hk : k ∈ K) (F : k.Cell → k.Cell) :
    WorksOn K (changeCell k F) :=
  (worksOn_changeCell F).mono (Set.singleton_subset_iff.2 hk)

theorem worksOn_cellStatus (request : PlayRequest) (n : ℤ) (edit : Option ListEdit) :
    WorksOn {.requests request.playId, .play request.playId, .user request.requestSenderId}
      (cellStatus request n edit) := by
  unfold cellStatus
  refine .ite (fun hv => ?_) (.comp (f := changeCell (.requests request.playId) _) ?_
    (worksOn_cell _ (by simp) _)) .id
  · rw [hv (.requests request.playId) (by simp)]
  · cases edit with
    | none => exact .id
    | some e =>
      exact (worksOn_cell (.play request.playId) (by simp) _).comp
        (worksOn_cell (.user request.requestSenderId) (by simp) _)

/-- **A task works on its cells.** -/
theorem worksOn_cellEffect (x : Call × Task) : WorksOn (lanes x) fun v => cellEffect v x := by
  obtain ⟨a, t⟩ := x
  cases t with
  | setPlay p data f =>
    exact (worksOn_cell _ (by simp [lanes]) _).comp
      (worksOn_cell _ (by simp [lanes]) _)
  | querySameRequest i data play me =>
    classical
    unfold cellEffect
    refine .ite (fun hv => ?_) (worksOn_cell _ (by simp [lanes]) _) .id
    rw [hv (.requests play.id) (by simp [lanes])]
  | updateStatus request n => exact worksOn_cellStatus request n _
  | cancelStatus request => exact worksOn_cellStatus request (-1) _
  | updatePlay p data => exact worksOn_cell (.play p) (Set.mem_singleton _) _
  | deletePlay p => exact worksOn_cell (.play p) (Set.mem_singleton _) fun _ => none
  | getPlay e u p => exact worksOn_cell (.play p) (Set.mem_singleton _) _
  | setPlayerInfo p l => exact worksOn_cell (.play p) (Set.mem_singleton _) _
  | getUsers e p u => exact worksOn_cell (.user u) (Set.mem_singleton _) _
  | setMyPlayList u l => exact worksOn_cell (.user u) (Set.mem_singleton _) _
  | queryRequests p => exact worksOn_cell (.requests p) (Set.mem_singleton _) fun _ _ => none
  | setRequest i data =>
    exact worksOn_cell (.requests a.ofPlay) (Set.mem_singleton _) fun R =>
      Function.update R i (some (Doc.setData data))
  | deleteRequest i =>
    exact worksOn_cell (.requests a.ofPlay) (Set.mem_singleton _) fun R => Function.update R i none

/-- No task hands out an id. -/
theorem allocated_notMem_lanes (x : Call × Task) : Key.allocated ∉ lanes x := by
  obtain ⟨a, t⟩ := x
  cases t <;> simp [lanes]

end Volleyer
