import Volleyer.Common.Settle
import Volleyer.Roster.Effects

/-!
# The roster — operations that do not overlap

`effect s t` is what a task does when it runs alone to its end, without
a failure. Two tasks are `Apart` when they work on different documents,
or both remove requests; such tasks commute, and what a task goes on to
issue stays on its own document. So the roster machine settles.
-/

namespace Volleyer

variable {s : Server} {p u : String}

/-- **What a task does alone**, all of its callbacks included. -/
def effect (s : Server) : Task → Server
  | .setPlay documentID data finderId =>
      { s with plays := s.plays.set documentID (Doc.setData data) }.editUser
        .append documentID finderId
  | .updatePlay documentID data => s.updatePlay documentID data
  | .deletePlay documentID => { s with plays := s.plays.delete documentID }
  | .querySameRequest documentID data play me =>
      if RequestDataManager.canSendRequest play me ((s.requestsOfPlay play.id).map Prod.snd) then
        { s with requests := s.requests.set documentID (Doc.setData data) }
      else s
  | .setRequest documentID data =>
      { s with requests := s.requests.set documentID (Doc.setData data) }
  | .updateStatus request status =>
      match s.requests.get request.id with
      | none => s
      | some _ =>
        if status = 99 then
          ((s.updateRequest request.id [(.status, .int status)]).editUser
            .append request.playId request.requestSenderId).editPlay
            .append request.requestSenderId request.playId
        else s.updateRequest request.id [(.status, .int status)]
  | .cancelStatus request =>
      match s.requests.get request.id with
      | none => s
      | some _ =>
        if request.status = 99 then
          ((s.updateRequest request.id [(.status, .int (-1))]).editUser
            .remove request.playId request.requestSenderId).editPlay
            .remove request.requestSenderId request.playId
        else s.updateRequest request.id [(.status, .int (-1))]
  | .getUsers edit playId userId => s.editUser edit playId userId
  | .setMyPlayList documentID myPlayList =>
      s.updateUser documentID [(.myPlayList, .strings myPlayList)]
  | .getPlay edit userId playId => s.editPlay edit userId playId
  | .setPlayerInfo documentID playInfo =>
      s.updatePlay documentID [(.playerInfo, .strings playInfo)]
  | .queryRequests playId =>
      { s with requests := s.requests.keep fun e => !(e.2.string .playId == some playId) }
  | .deleteRequest documentID => { s with requests := s.requests.delete documentID }

/-- Where a task that is one of several works. -/
inductive Lane
  | user (u : String)
  | play (p : String)
  | requests
deriving DecidableEq

/-- The lane of a task; an operation that is always alone has none. -/
def Task.lane : Task → Option Lane
  | .getUsers _ _ u => some (.user u)
  | .setMyPlayList u _ => some (.user u)
  | .updatePlay p _ => some (.play p)
  | .deletePlay p => some (.play p)
  | .getPlay _ _ p => some (.play p)
  | .setPlayerInfo p _ => some (.play p)
  | .queryRequests _ => some .requests
  | .deleteRequest _ => some .requests
  | _ => none

/-- **Tasks that do not interfere**: on different documents, or both
removing requests. -/
def Apart (t t' : Task) : Prop :=
  ∃ a b, t.lane = some a ∧ t'.lane = some b ∧ (a = b → a = .requests)

theorem Apart.symm {t t' : Task} (h : Apart t t') : Apart t' t := by
  obtain ⟨a, b, ha, hb, hab⟩ := h
  exact ⟨b, a, hb, ha, fun e => e ▸ hab e.symm⟩

/-! ## The shape of an effect in its lane -/

theorem effect_user {t : Task} (h : t.lane = some (.user u)) :
    ∃ f, ∀ s, effect s t = { s with users := s.users.modify u f } := by
  cases t <;> simp only [Task.lane, Option.some.injEq, Lane.user.injEq, reduceCtorEq] at h
  case getUsers e p v => subst h; exact ⟨_, fun _ => rfl⟩
  case setMyPlayList v l => subst h; exact ⟨_, fun _ => rfl⟩

theorem effect_play {t : Task} (h : t.lane = some (.play p)) :
    (∃ f, ∀ s, effect s t = { s with plays := s.plays.modify p f }) ∨
      ∀ s, effect s t = { s with plays := s.plays.delete p } := by
  cases t <;> simp only [Task.lane, Option.some.injEq, Lane.play.injEq, reduceCtorEq] at h
  case updatePlay q data => subst h; exact Or.inl ⟨_, fun _ => rfl⟩
  case deletePlay q => subst h; exact Or.inr fun _ => rfl
  case getPlay e v q => subst h; exact Or.inl ⟨_, fun _ => rfl⟩
  case setPlayerInfo q l => subst h; exact Or.inl ⟨_, fun _ => rfl⟩

theorem effect_requests {t : Task} (h : t.lane = some .requests) :
    ∃ q, ∀ s, effect s t = { s with requests := s.requests.keep q } := by
  cases t <;> simp only [Task.lane, Option.some.injEq, reduceCtorEq] at h
  case queryRequests q => exact ⟨_, fun _ => rfl⟩
  case deleteRequest r => exact ⟨_, fun _ => rfl⟩

/-- **Tasks that are apart commute.** -/
theorem effect_comm {t t' : Task} (h : Apart t t') (s : Server) :
    effect (effect s t) t' = effect (effect s t') t := by
  obtain ⟨a, b, ha, hb, hab⟩ := h
  match a, b with
  | .user u, .user v =>
    obtain ⟨f, hf⟩ := effect_user ha
    obtain ⟨g, hg⟩ := effect_user hb
    have huv : u ≠ v := fun e => by simpa [e] using hab (by rw [e])
    simp only [hf, hg, s.users.modify_modify_of_ne f g huv]
  | .play p, .play q =>
    have hpq : p ≠ q := fun e => by simpa [e] using hab (by rw [e])
    rcases effect_play ha with ⟨f, hf⟩ | hf <;> rcases effect_play hb with ⟨g, hg⟩ | hg
    · simp only [hf, hg, s.plays.modify_modify_of_ne f g hpq]
    · simp only [hf, hg, s.plays.modify_delete q p f]
    · simp only [hf, hg, s.plays.modify_delete p q g]
    · simp only [hf, hg, s.plays.delete_delete p q]
  | .requests, .requests =>
    obtain ⟨f, hf⟩ := effect_requests ha
    obtain ⟨g, hg⟩ := effect_requests hb
    simp only [hf, hg, s.requests.keep_keep f g]
  | .user u, .play q =>
    obtain ⟨f, hf⟩ := effect_user ha
    rcases effect_play hb with ⟨g, hg⟩ | hg <;> simp only [hf, hg]
  | .play p, .user v =>
    obtain ⟨g, hg⟩ := effect_user hb
    rcases effect_play ha with ⟨f, hf⟩ | hf <;> simp only [hf, hg]
  | .user u, .requests =>
    obtain ⟨f, hf⟩ := effect_user ha
    obtain ⟨g, hg⟩ := effect_requests hb
    simp only [hf, hg]
  | .requests, .user v =>
    obtain ⟨f, hf⟩ := effect_requests ha
    obtain ⟨g, hg⟩ := effect_user hb
    simp only [hf, hg]
  | .play p, .requests =>
    obtain ⟨g, hg⟩ := effect_requests hb
    rcases effect_play ha with ⟨f, hf⟩ | hf <;> simp only [hf, hg]
  | .requests, .play q =>
    obtain ⟨f, hf⟩ := effect_requests ha
    rcases effect_play hb with ⟨g, hg⟩ | hg <;> simp only [hf, hg]

/-! ## One answer unfolds an effect -/

/-- A helper's query and write, one after the other, are its edit. -/
theorem foldl_effect_setMyPlayList (s : Server) (e : ListEdit) (p u : String) :
    (((s.myPlayList u).bind (e.callback p)).toList.map (Task.setMyPlayList u)).foldl effect s =
      s.editUser e p u := by
  have hread : s.users.modify u (editUserDoc e p) = _ :=
    s.users.modify_read u (fun d => (d.strings .myPlayList).bind (e.callback p))
      fun l d => d.updateData [(.myPlayList, .strings l)]
  rw [Server.editUser, hread, Server.myPlayList, Option.bind_assoc]
  cases (s.users.get u).bind fun d => (d.strings .myPlayList).bind (e.callback p) <;> rfl

/-- A helper's read and write of a roster are its edit. -/
theorem foldl_effect_setPlayerInfo (s : Server) (e : ListEdit) (u p : String) :
    (((s.playerInfo p).bind (e.callback u)).toList.map (Task.setPlayerInfo p)).foldl effect s =
      s.editPlay e u p := by
  have hread : s.plays.modify p (editPlayDoc e u) = _ :=
    s.plays.modify_read p (fun d => (d.strings .playerInfo).bind (e.callback u))
      fun l d => d.updateData [(.playerInfo, .strings l)]
  rw [Server.editPlay, hread, Server.playerInfo, Option.bind_assoc]
  cases (s.plays.get p).bind fun d => (d.strings .playerInfo).bind (e.callback u) <;> rfl

theorem foldl_effect_deleteRequest (s : Server) (l : List (String × Doc PlayRequestTitle)) :
    (l.map fun d => Task.deleteRequest d.1).foldl effect s =
      { s with requests := (l.map Prod.fst).foldl Collection.delete s.requests } := by
  induction l generalizing s with
  | nil => rfl
  | cons d l ih => simp only [List.map_cons, List.foldl_cons, effect, ih]

/-- The user whose documents a task queries has the one under the user's
id. -/
def Server.KeyedFor (s : Server) : Task → Prop
  | .getUsers _ _ u => s.KeyedAt u
  | _ => True

theorem Server.UsersKeyed.keyedFor (h : s.UsersKeyed) (t : Task) : s.KeyedFor t := by
  cases t with
  | getUsers e p u => exact h.keyedAt u
  | _ => trivial

/-- **One answer unfolds an effect.** -/
theorem effect_unfold {t : Task} (h : s.KeyedFor t) :
    effect s t = (answerOk s t).2.foldl effect (answerOk s t).1 := by
  cases t with
  | querySameRequest i data play me =>
    simp only [effect, answerOk]
    split
    · rename_i hsend
      split <;> rfl
    · rename_i hsend
      split
      · rename_i hnil
        rw [List.length_eq_zero_iff.1 hnil] at hsend
        exact absurd rfl hsend
      · rfl
  | updateStatus request status =>
    cases hd : s.requests.get request.id with
    | none => simp only [effect, answerOk, hd, List.foldl_nil]
    | some d =>
      simp only [effect, answerOk, hd]
      split <;> rfl
  | cancelStatus request =>
    cases hd : s.requests.get request.id with
    | none => simp only [effect, answerOk, hd, List.foldl_nil]
    | some d =>
      simp only [effect, answerOk, hd]
      split <;> rfl
  | getUsers e p u =>
    rw [answerOk_getUsers h]
    exact (foldl_effect_setMyPlayList s e p u).symm
  | getPlay e u p => exact (foldl_effect_setPlayerInfo s e u p).symm
  | queryRequests p =>
    simp only [effect, answerOk, foldl_effect_deleteRequest, Server.requestsOfPlay,
      Collection.foldl_delete_query]
  | _ => rfl

/-! ## What a task issues -/

/-- What a task in a lane issues stays in it. -/
theorem lane_of_mem_answerOk {t t' : Task} {a : Lane} (h : s.KeyedFor t) (ht : t.lane = some a)
    (ht' : t' ∈ (answerOk s t).2) : t'.lane = some a := by
  cases t <;> simp only [Task.lane, Option.some.injEq, reduceCtorEq] at ht <;> subst ht
  case getUsers e p u =>
    rw [answerOk_getUsers h] at ht'
    obtain ⟨l, -, rfl⟩ := List.mem_map.1 ht'
    rfl
  case getPlay e u p =>
    obtain ⟨l, -, rfl⟩ := List.mem_map.1 ht'
    rfl
  case queryRequests p =>
    obtain ⟨d, -, rfl⟩ := List.mem_map.1 ht'
    rfl
  all_goals simp [answerOk] at ht'

theorem pairwise_answerOk {t : Task} (h : s.KeyedFor t) : (answerOk s t).2.Pairwise Apart := by
  have hoption : ∀ {α : Type} (o : Option α) (f : α → Task),
      (o.toList.map f).Pairwise Apart := by
    intro α o f
    cases o <;> simp
  cases t with
  | querySameRequest i data play me =>
    simp only [answerOk]
    split
    · simp
    · split <;> simp
  | updateStatus request status =>
    simp only [answerOk]
    split
    · simp
    · split
      · refine List.pairwise_pair.2 ?_
        exact ⟨.user _, .play _, rfl, rfl, by simp⟩
      · simp
  | cancelStatus request =>
    simp only [answerOk]
    split
    · simp
    · split
      · refine List.pairwise_pair.2 ?_
        exact ⟨.user _, .play _, rfl, rfl, by simp⟩
      · simp
  | getUsers e p u =>
    rw [answerOk_getUsers h]
    exact hoption _ _
  | getPlay e u p => exact hoption _ _
  | queryRequests p =>
    refine List.pairwise_map.2 (List.pairwise_of_forall fun d d' => ?_)
    exact ⟨.requests, .requests, rfl, rfl, fun _ => rfl⟩
  | setPlay i data f => simp [answerOk, appendPlayIdToUserPlayList, editMyPlayList]
  | _ => simp [answerOk]

/-- **The roster machine settles.** -/
theorem settles : Settles roster (fun _ => .ok) Server.UsersKeyed effect Apart where
  symm := Apart.symm
  comm h s := effect_comm h s
  unfold {_ t} h := effect_unfold (h.keyedFor t)
  good {_ t} h := h.answer t .ok
  spawn {_} h t := pairwise_answerOk (h.keyedFor t)
  inherit {s t t' u} h htu ht' := by
    obtain ⟨a, b, ha, hb, hab⟩ := htu
    exact ⟨a, b, lane_of_mem_answerOk (h.keyedFor t) ha ht', hb, hab⟩

end Volleyer
