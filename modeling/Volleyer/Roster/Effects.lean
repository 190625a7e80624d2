import Volleyer.Roster.Model

/-!
# The roster — what each task does

What the documents say (`myPlayList`, `playerInfo`, `status`, …), what
each write does to it, and what each answer writes and issues. Later
arguments read these and unfold no task.
-/

namespace Volleyer

variable {s : Server} {p u i : String}

/-! ## What the documents say -/

namespace Server

/-- The `my_play_list` of a user document. -/
def myPlayList (s : Server) (u : String) : Option (List String) :=
  (s.users.get u).bind (·.strings .myPlayList)

/-- The `player_info` of a play document. -/
def playerInfo (s : Server) (p : String) : Option (List String) :=
  (s.plays.get p).bind (·.strings .playerInfo)

/-- The `finder_id` of a play document. -/
def finderId (s : Server) (p : String) : Option String :=
  (s.plays.get p).bind (·.string .finderId)

/-- The status of a request document. -/
def status (s : Server) (r : String) : Option ℤ :=
  (s.requests.get r).bind (·.int .status)

/-- The sender a request seats in a play: the one of a request for it
that stands accepted. -/
def seat (s : Server) (p i : String) : Option String :=
  (s.requests.get i).bind fun d =>
    if d.string .playId = some p ∧ d.int .status = some 99 then d.string .requestSenderId else none

theorem seat_eq_some {v : String} : s.seat p i = some v ↔ ∃ d, s.requests.get i = some d ∧
    d.string .playId = some p ∧ d.int .status = some 99 ∧ d.string .requestSenderId = some v := by
  simp only [seat, Option.bind_eq_some_iff, Option.ite_none_right_eq_some, and_assoc]

theorem status_of_seat {v : String} (h : s.seat p i = some v) : s.status i = some 99 := by
  obtain ⟨d, hd, -, h99, -⟩ := seat_eq_some.1 h
  rw [status, hd, Option.bind_some, h99]

/-- **Every user document is stored under its `firebase_id`**, which is
how `saveProfileInfo` creates it. -/
def UsersKeyed (s : Server) : Prop :=
  ∀ u d, s.users.get u = some d → d.string .firebaseId = some u

/-- **A user's documents are the one stored under the user's id**, if that
is there. -/
def KeyedAt (s : Server) (u : String) : Prop :=
  ∀ i d, s.users.get i = some d → (d.string .firebaseId = some u ↔ i = u)

theorem UsersKeyed.keyedAt (h : s.UsersKeyed) (u : String) : s.KeyedAt u := fun i d hd => by
  rw [h i d hd, Option.some.injEq]

/-- The query of the helpers answers the user's own document. -/
theorem usersWithFirebaseId_of_keyed (h : s.KeyedAt u) :
    s.usersWithFirebaseId u = (s.users.get u).toList.map (u, ·) := by
  refine Collection.query_eq_of_forall fun j d hd => ?_
  rw [beq_iff_eq, h j d hd]

end Server

/-! ## The values a screen holds -/

/-- The value of a play as it is stored now. -/
def CurrentPlay (s : Server) (play : Play) : Prop :=
  ∃ d now, s.plays.get play.id = some d ∧ decodePlay play.id d now = play

/-- The value of a request as it is stored now, by either decoder. -/
def CurrentRequest (s : Server) (request : PlayRequest) : Prop :=
  ∃ d now, s.requests.get request.id = some d ∧
    (decodePlayRequest request.id d now = some request ∨
      decodeModifiedRequest request.id d now = some request)

/-- What the delivered value of a request says of the stored one. -/
theorem CurrentRequest.exists_doc {request : PlayRequest} (h : CurrentRequest s request) :
    ∃ d, s.requests.get request.id = some d ∧
      request.requestSenderId = (d.string .requestSenderId).getD "no sender id" ∧
      request.playId = (d.string .playId).getD "no play id" ∧
      request.status = (d.int .status).getD 400 := by
  obtain ⟨d, now, hd, hdec⟩ := h
  have : ∃ player, decodePlayRequestWith player request.id d now = some request :=
    hdec.elim (fun h => ⟨_, h⟩) (fun h => ⟨_, h⟩)
  obtain ⟨player, hdec⟩ := this
  obtain ⟨-, hu, -, hp, hst⟩ := decodePlayRequestWith_eq_some hdec
  exact ⟨d, hd, hu, hp, hst⟩

/-- The value of a play as some state of the run stored it. -/
def LoadedPlay (hist : List Server) (play : Play) : Prop := ∃ s ∈ hist, CurrentPlay s play

/-- The value of a request as some state of the run stored it. -/
def LoadedRequest (hist : List Server) (request : PlayRequest) : Prop :=
  ∃ s ∈ hist, CurrentRequest s request

/-! ## The edits of a list -/

namespace ListEdit

variable {x : String} {xs ys : List String}

@[simp] theorem callback_append : append.callback x xs = some (xs ++ [x]) := rfl

/-- Finding the first index and removing it is erasing. -/
@[simp] theorem callback_remove : remove.callback x xs = some (xs.erase x) := by
  rw [callback, List.erase_eq_eraseIdx]
  cases xs.idxOf? x <;> rfl

theorem callback_removeFound :
    removeFound.callback x xs = if x ∈ xs then some (xs.erase x) else none := by
  rw [callback, List.erase_eq_eraseIdx]
  cases h : xs.idxOf? x with
  | none => rw [if_neg (List.idxOf?_eq_none_iff.1 h), Option.map_none]
  | some i =>
    have hx : x ∈ xs := by
      by_contra hx
      rw [List.idxOf?_eq_none_iff.2 hx] at h
      cases h
    rw [if_pos hx, Option.map_some]

/-- **The two removals agree** where nothing comes between the read and
the write: what the one does not write back is what was there. -/
theorem callback_removeFound_getD :
    (removeFound.callback x xs).getD xs = (remove.callback x xs).getD xs := by
  rw [callback_removeFound, callback_remove]
  split
  · rfl
  · rename_i h
    exact (List.erase_of_not_mem h).symm

/-- What an edit leaves besides the element it is about. -/
theorem mem_of_mem_callback {e : ListEdit} (h : e.callback x xs = some ys) {y : String}
    (hy : y ∈ ys) : y ∈ xs ∨ e = append ∧ y = x := by
  cases e with
  | append =>
    obtain rfl := Option.some.inj h
    simpa using hy
  | remove =>
    rw [callback_remove, Option.some.injEq] at h
    exact Or.inl (List.mem_of_mem_erase (h ▸ hy))
  | removeFound =>
    rw [callback_removeFound] at h
    split at h
    · exact Or.inl (List.mem_of_mem_erase (Option.some.inj h ▸ hy))
    · cases h

end ListEdit

/-! ## What a write does to what the documents say -/

/-- A user document after a helper's edit of its list. -/
def editUserDoc (e : ListEdit) (playId : String) (d : Doc UserTitle) : Doc UserTitle :=
  (((d.strings .myPlayList).bind (e.callback playId)).map fun myPlayList =>
    d.updateData [(.myPlayList, .strings myPlayList)]).getD d

/-- A play document after a helper's edit of its roster. -/
def editPlayDoc (e : ListEdit) (userId : String) (d : Doc PlayTitle) : Doc PlayTitle :=
  (((d.strings .playerInfo).bind (e.callback userId)).map fun playInfo =>
    d.updateData [(.playerInfo, .strings playInfo)]).getD d

namespace Server

/-- A helper's edit of a user's list, as one step. -/
def editUser (s : Server) (e : ListEdit) (playId userId : String) : Server :=
  { s with users := s.users.modify userId (editUserDoc e playId) }

/-- A helper's edit of a play's roster, as one step. -/
def editPlay (s : Server) (e : ListEdit) (userId playId : String) : Server :=
  { s with plays := s.plays.modify playId (editPlayDoc e userId) }

end Server

namespace Server

@[simp] theorem myPlayList_updateUser (s : Server) (u v : String) (l : List String) :
    (s.updateUser u [(.myPlayList, .strings l)]).myPlayList v =
      if v = u then (s.users.get u).map fun _ => l else s.myPlayList v := by
  simp only [myPlayList, updateUser, Collection.get_modify]
  split
  · cases s.users.get u <;> simp
  · rfl

@[simp] theorem playerInfo_updatePlay (s : Server) (p q : String) (l : List String) :
    (s.updatePlay p [(.playerInfo, .strings l)]).playerInfo q =
      if q = p then (s.plays.get p).map fun _ => l else s.playerInfo q := by
  simp only [playerInfo, updatePlay, Collection.get_modify]
  split
  · cases s.plays.get p <;> simp
  · rfl

/-- A helper's edit of a user's list. -/
theorem myPlayList_editUser (s : Server) (e : ListEdit) (p u v : String) :
    (s.editUser e p u).myPlayList v =
      if v = u then (s.myPlayList u).map fun l => (e.callback p l).getD l
      else s.myPlayList v := by
  simp only [myPlayList, editUser, Collection.get_modify]
  split
  · cases s.users.get u with
    | none => rfl
    | some d =>
      simp only [Option.map_some, Option.bind_some, editUserDoc]
      cases hl : d.strings .myPlayList with
      | none => simp [hl]
      | some l => cases hc : e.callback p l <;> simp [hl, hc]
  · rfl

/-- A helper's edit of a roster. -/
theorem playerInfo_editPlay (s : Server) (e : ListEdit) (u p q : String) :
    (s.editPlay e u p).playerInfo q =
      if q = p then (s.playerInfo p).map fun l => (e.callback u l).getD l
      else s.playerInfo q := by
  simp only [playerInfo, editPlay, Collection.get_modify]
  split
  · cases s.plays.get p with
    | none => rfl
    | some d =>
      simp only [Option.map_some, Option.bind_some, editPlayDoc]
      cases hl : d.strings .playerInfo with
      | none => simp [hl]
      | some l => cases hc : e.callback u l <;> simp [hl, hc]
  · rfl

/-- No edit of a roster changes the finder. -/
@[simp] theorem finderId_editPlay (s : Server) (e : ListEdit) (u p q : String) :
    (s.editPlay e u p).finderId q = s.finderId q := by
  simp only [finderId, editPlay, Collection.get_modify]
  split
  · rename_i h
    subst h
    cases s.plays.get q with
    | none => rfl
    | some d =>
      simp only [Option.map_some, Option.bind_some, editPlayDoc]
      cases (d.strings .playerInfo).bind (e.callback u) <;> simp
  · rfl

@[simp] theorem status_updateRequest (s : Server) (r i : String) (n : ℤ) :
    (s.updateRequest r [(.status, .int n)]).status i =
      if i = r then (s.requests.get r).map fun _ => n else s.status i := by
  simp only [status, updateRequest, Collection.get_modify]
  split
  · cases s.requests.get r <;> simp
  · rfl

/-- What a write of a status leaves of a request. -/
theorem get_requests_updateRequest (s : Server) (r i : String) (n : ℤ) :
    (s.updateRequest r [(.status, .int n)]).requests.get i =
      if i = r then (s.requests.get r).map (·.updateData [(.status, .int n)])
      else s.requests.get i := by
  rw [updateRequest, Collection.get_modify]

/-- A request after a write of a status says what it said before, but for
the status. -/
theorem exists_of_get_updateRequest {r i : String} {n : ℤ} {d : Doc PlayRequestTitle}
    (h : (s.updateRequest r [(.status, .int n)]).requests.get i = some d) :
    ∃ b, s.requests.get i = some b ∧ ∀ f, f ≠ .status → d.string f = b.string f := by
  rw [get_requests_updateRequest] at h
  by_cases hi : i = r
  · subst hi
    rw [if_pos rfl, Option.map_eq_some_iff] at h
    obtain ⟨b, hb, rfl⟩ := h
    exact ⟨b, hb, fun f hf => by simp [hf]⟩
  · rw [if_neg hi] at h
    exact ⟨d, h, fun _ _ => rfl⟩

/-- A helper's edit keeps the user documents that are there. -/
@[simp] theorem isSome_users_editUser (s : Server) (e : ListEdit) (p u v : String) :
    ((s.editUser e p u).users.get v).isSome = (s.users.get v).isSome := by
  simp only [editUser, Collection.get_modify]
  split
  · rename_i h
    rw [h, Option.isSome_map]
  · rfl

@[simp] theorem isSome_plays_editPlay (s : Server) (e : ListEdit) (u p q : String) :
    ((s.editPlay e u p).plays.get q).isSome = (s.plays.get q).isSome := by
  simp only [editPlay, Collection.get_modify]
  split
  · rename_i h
    rw [h, Option.isSome_map]
  · rfl

end Server

/-! ## Single answers -/

@[simp] theorem roster_answer (s : Server) (t : Task) (r : Reply) :
    roster.answer s t r = answer s t r := rfl

@[simp] theorem roster_issue (s : Server) (a : Call) : roster.issue s a = issue s a := rfl

@[simp] theorem answer_ok (s : Server) (t : Task) : answer s t .ok = answerOk s t := rfl

@[simp] theorem answer_failed (s : Server) (t : Task) : answer s t .failed = (s, []) := rfl

/-- The query of `saveRequest` lets a request through that no stored one
forbids: where there is none at all, nothing is asked. -/
theorem answerOk_querySameRequest (s : Server) (i : String) (data : Fields PlayRequestTitle)
    (play : Play) (me : Option String) :
    answerOk s (.querySameRequest i data play me) =
      (s, if RequestDataManager.canSendRequest play me ((s.requestsOfPlay play.id).map Prod.snd)
        then [.setRequest i data] else []) := by
  simp only [answerOk]
  by_cases hempty : ((s.requestsOfPlay play.id).map Prod.snd).length = 0
  · rw [if_pos hempty, List.length_eq_zero_iff.1 hempty]
    rfl
  · rw [if_neg hempty, apply_ite (Prod.mk s)]

/-- A status is written where the request is, and only an acceptance of a
request that is there goes on to the two lists. -/
theorem answerOk_updateStatus (s : Server) (request : PlayRequest) (n : ℤ) :
    answerOk s (.updateStatus request n) =
      (s.updateRequest request.id [(.status, .int n)],
        if (s.requests.get request.id).isSome ∧ n = 99 then
          appendPlayIdToUserPlayList request.playId request.requestSenderId ++
            appendUserIdToPlayPlayerInfo request.requestSenderId request.playId
        else []) := by
  simp only [answerOk]
  cases hd : s.requests.get request.id with
  | none => simp [Server.updateRequest, Collection.modify_of_get_eq_none _ hd]
  | some d => simp

/-- The same of a cancellation, which goes on where the request passed in
was accepted. -/
theorem answerOk_cancelStatus (s : Server) (request : PlayRequest) :
    answerOk s (.cancelStatus request) =
      (s.updateRequest request.id [(.status, .int (-1))],
        if (s.requests.get request.id).isSome ∧ request.status = 99 then
          RequestDataManager.deletePlayIdToUserPlayList request.playId request.requestSenderId ++
            deleteUserIdToPlayPlayerInfo request.requestSenderId request.playId
        else []) := by
  simp only [answerOk]
  cases hd : s.requests.get request.id with
  | none => simp [Server.updateRequest, Collection.modify_of_get_eq_none _ hd]
  | some d => simp

/-- What a helper's query puts in flight: one write of the list the user
has then, edited. -/
theorem answerOk_getUsers (h : s.KeyedAt u) (e : ListEdit) (p : String) :
    answerOk s (.getUsers e p u) =
      (s, ((s.myPlayList u).bind (e.callback p)).toList.map (.setMyPlayList u)) := by
  simp only [answerOk, Server.usersWithFirebaseId_of_keyed h, Server.myPlayList, Prod.mk.injEq,
    true_and]
  cases hd : s.users.get u with
  | none => rfl
  | some d =>
    have hu : d.string .firebaseId = some u := (h u d hd).2 rfl
    simp only [Option.toList_some, List.map_cons, List.map_nil, List.filterMap_cons,
      List.filterMap_nil, Option.bind_some, hu, Option.getD_some]
    cases (d.strings .myPlayList).bind (e.callback p) <;> rfl

/-- What a helper's read puts in flight. -/
theorem answerOk_getPlay (s : Server) (e : ListEdit) (u p : String) :
    answerOk s (.getPlay e u p) =
      (s, ((s.playerInfo p).bind (e.callback u)).toList.map (.setPlayerInfo p)) := rfl

/-- A write that names no `firebase_id` keeps the documents under theirs. -/
theorem Server.UsersKeyed.updateUser (h : s.UsersKeyed) {data : Fields UserTitle}
    (hdata : data.lookup .firebaseId = none) : (s.updateUser u data).UsersKeyed := by
  intro v d hd
  rw [Server.updateUser, Collection.get_modify] at hd
  by_cases hv : v = u
  · subst hv
    rw [if_pos rfl, Option.map_eq_some_iff] at hd
    obtain ⟨b, hb, rfl⟩ := hd
    rw [Doc.string, Doc.updateData_of_lookup_eq_none hdata]
    exact h v b hb
  · rw [if_neg hv] at hd
    exact h v d hd

theorem Server.KeyedAt.updateUser (h : s.KeyedAt u) {v : String} {data : Fields UserTitle}
    (hdata : data.lookup .firebaseId = none) : (s.updateUser v data).KeyedAt u := by
  intro i d hd
  rw [Server.updateUser, Collection.get_modify] at hd
  by_cases hi : i = v
  · subst hi
    rw [if_pos rfl, Option.map_eq_some_iff] at hd
    obtain ⟨b, hb, rfl⟩ := hd
    rw [Doc.string, Doc.updateData_of_lookup_eq_none hdata]
    exact h i b hb
  · rw [if_neg hi] at hd
    exact h i d hd

/-- The only task that writes a user document writes its list of plays. -/
theorem answer_users (s : Server) (t : Task) (r : Reply) :
    (answer s t r).1.users = s.users ∨
      ∃ u l, t = .setMyPlayList u l ∧
        (answer s t r).1 = s.updateUser u [(.myPlayList, .strings l)] := by
  cases r with
  | failed => exact Or.inl rfl
  | ok =>
    cases t with
    | setMyPlayList u l => exact Or.inr ⟨u, l, rfl, rfl⟩
    | querySameRequest i data play me =>
      rw [answer_ok, answerOk_querySameRequest]
      exact Or.inl rfl
    | updateStatus request status =>
      rw [answer_ok, answerOk_updateStatus]
      exact Or.inl rfl
    | cancelStatus request =>
      rw [answer_ok, answerOk_cancelStatus]
      exact Or.inl rfl
    | _ => exact Or.inl rfl

/-- **What an answer does to the plays**: it creates one, rewrites fields
of one, or removes one. -/
theorem answer_plays (s : Server) (t : Task) (r : Reply) :
    (answer s t r).1.plays = s.plays ∨
      (∃ i data f, t = .setPlay i data f ∧
        (answer s t r).1.plays = s.plays.set i (Doc.setData data)) ∨
      (∃ p data, (t = .updatePlay p data ∨
          ∃ l, t = .setPlayerInfo p l ∧ data = [(.playerInfo, .strings l)]) ∧
        (answer s t r).1.plays = s.plays.modify p (·.updateData data)) ∨
      ∃ p, t = .deletePlay p ∧ (answer s t r).1.plays = s.plays.delete p := by
  cases r with
  | failed => exact Or.inl rfl
  | ok =>
    cases t with
    | setPlay i data f => exact Or.inr (Or.inl ⟨i, data, f, rfl, rfl⟩)
    | updatePlay p data => exact Or.inr (Or.inr (Or.inl ⟨p, data, Or.inl rfl, rfl⟩))
    | setPlayerInfo p l => exact Or.inr (Or.inr (Or.inl ⟨p, _, Or.inr ⟨l, rfl, rfl⟩, rfl⟩))
    | deletePlay p => exact Or.inr (Or.inr (Or.inr ⟨p, rfl, rfl⟩))
    | querySameRequest i data play me =>
      rw [answer_ok, answerOk_querySameRequest]
      exact Or.inl rfl
    | updateStatus request status =>
      rw [answer_ok, answerOk_updateStatus]
      exact Or.inl rfl
    | cancelStatus request =>
      rw [answer_ok, answerOk_cancelStatus]
      exact Or.inl rfl
    | _ => exact Or.inl rfl

/-- **What an answer does to the requests**: it creates one, writes the
status of one, or removes one. -/
theorem answer_requests (s : Server) (t : Task) (r : Reply) :
    (answer s t r).1.requests = s.requests ∨
      (∃ i data, t = .setRequest i data ∧
        (answer s t r).1.requests = s.requests.set i (Doc.setData data)) ∨
      (∃ request n, (t = .updateStatus request n ∨ t = .cancelStatus request ∧ n = -1) ∧ r = .ok ∧
        (s.requests.get request.id).isSome ∧ (answer s t r).1.requests =
          (s.updateRequest request.id [(.status, .int n)]).requests) ∨
      ∃ i, t = .deleteRequest i ∧ (answer s t r).1.requests = s.requests.delete i := by
  cases r with
  | failed => exact Or.inl rfl
  | ok =>
    cases t with
    | setRequest i data => exact Or.inr (Or.inl ⟨i, data, rfl, rfl⟩)
    | deleteRequest i => exact Or.inr (Or.inr (Or.inr ⟨i, rfl, rfl⟩))
    | updateStatus request n =>
      cases hd : s.requests.get request.id with
      | none =>
        simp only [answer_ok, answerOk, hd]
        exact Or.inl trivial
      | some d =>
        have hsome : (s.requests.get request.id).isSome := by rw [hd, Option.isSome_some]
        rw [answer_ok, answerOk_updateStatus]
        exact Or.inr (Or.inr (Or.inl ⟨request, n, Or.inl rfl, rfl, hsome, rfl⟩))
    | cancelStatus request =>
      cases hd : s.requests.get request.id with
      | none =>
        simp only [answer_ok, answerOk, hd]
        exact Or.inl trivial
      | some d =>
        have hsome : (s.requests.get request.id).isSome := by rw [hd, Option.isSome_some]
        rw [answer_ok, answerOk_cancelStatus]
        exact Or.inr (Or.inr (Or.inl ⟨request, -1, Or.inr ⟨rfl, rfl⟩, rfl, hsome, rfl⟩))
    | querySameRequest i data play me =>
      rw [answer_ok, answerOk_querySameRequest]
      exact Or.inl rfl
    | _ => exact Or.inl rfl

theorem Server.KeyedAt.answer (h : s.KeyedAt u) (t : Task) (r : Reply) :
    (answer s t r).1.KeyedAt u := by
  rcases answer_users s t r with hu | ⟨v, l, -, hu⟩
  · intro i d hd
    rw [hu] at hd
    exact h i d hd
  · rw [hu]
    exact h.updateUser rfl

theorem Server.UsersKeyed.answer (h : s.UsersKeyed) (t : Task) (r : Reply) :
    (answer s t r).1.UsersKeyed := by
  rcases answer_users s t r with hu | ⟨u, l, -, hu⟩
  · intro v d hd
    rw [hu] at hd
    exact h v d hd
  · rw [hu]
    exact h.updateUser rfl

/-- **What an answer issues**: `saveRequest` goes on to its write, and
everything else is a read, a write of a list, or a removal. -/
theorem mem_answer {t t' : Task} {r : Reply} (h : t' ∈ (answer s t r).2) :
    (∃ i data play me, t = .querySameRequest i data play me ∧ t' = .setRequest i data) ∨
      (∃ e p u, t' = .getUsers e p u) ∨ (∃ u l, t' = .setMyPlayList u l) ∨
      (∃ e u p, t' = .getPlay e u p) ∨ (∃ p l, t' = .setPlayerInfo p l) ∨
      ∃ p i, t = .queryRequests p ∧ t' = .deleteRequest i := by
  cases r with
  | failed => cases h
  | ok =>
    cases t with
    | setPlay i data f =>
      obtain rfl := List.mem_singleton.1 h
      exact Or.inr (Or.inl ⟨_, _, _, rfl⟩)
    | querySameRequest i data play me =>
      rw [answer_ok, answerOk_querySameRequest] at h
      split at h
      · exact Or.inl ⟨i, data, play, me, rfl, List.mem_singleton.1 h⟩
      · cases h
    | updateStatus request n =>
      rw [answer_ok, answerOk_updateStatus] at h
      split at h
      · rcases List.mem_pair.1 h with rfl | rfl
        · exact Or.inr (Or.inl ⟨_, _, _, rfl⟩)
        · exact Or.inr (Or.inr (Or.inr (Or.inl ⟨_, _, _, rfl⟩)))
      · cases h
    | cancelStatus request =>
      rw [answer_ok, answerOk_cancelStatus] at h
      split at h
      · rcases List.mem_pair.1 h with rfl | rfl
        · exact Or.inr (Or.inl ⟨_, _, _, rfl⟩)
        · exact Or.inr (Or.inr (Or.inr (Or.inl ⟨_, _, _, rfl⟩)))
      · cases h
    | getUsers e p u =>
      obtain ⟨d, -, hd⟩ := List.mem_filterMap.1 h
      obtain ⟨l, -, rfl⟩ := Option.map_eq_some_iff.1 hd
      exact Or.inr (Or.inr (Or.inl ⟨_, _, rfl⟩))
    | getPlay e u p =>
      obtain ⟨l, -, rfl⟩ := List.mem_map.1 h
      exact Or.inr (Or.inr (Or.inr (Or.inr (Or.inl ⟨_, _, rfl⟩))))
    | queryRequests p =>
      obtain ⟨d, -, rfl⟩ := List.mem_map.1 h
      exact Or.inr (Or.inr (Or.inr (Or.inr (Or.inr ⟨_, _, rfl, rfl⟩))))
    | _ => cases h

/-- The tasks of a deletion. -/
theorem deletePlay_eq (play : Play) :
    FinderDataManager.deletePlay play = .deletePlay play.id ::
      (play.playerInfo.map (Task.getUsers .removeFound play.id) ++ [.queryRequests play.id]) := by
  rw [List.map_eq_flatMap]
  rfl

/-- A call that takes an id takes a new one. -/
theorem allocate_eq_some {s' : Server} {i : String} {ts ts' : List Task} :
    s.allocate i ts = some (s', ts') ↔
      i ∉ s.allocated ∧ s' = { s with allocated := i :: s.allocated } ∧ ts' = ts := by
  rw [Server.allocate]
  split
  · rename_i h
    simp [h]
  · rename_i h
    simp only [Option.some.injEq, Prod.mk.injEq, h, not_false_eq_true, true_and]
    exact and_congr eq_comm eq_comm

/-- A call writes nothing. -/
theorem issue_eq {a : Call} {s' : Server} {ts : List Task} (h : issue s a = some (s', ts)) :
    s'.users = s.users ∧ s'.plays = s.plays ∧ s'.requests = s.requests := by
  cases a with
  | savePlay play i now =>
    obtain ⟨-, rfl, -⟩ := allocate_eq_some.1 h
    exact ⟨rfl, rfl, rfl⟩
  | saveRequest play players me i now =>
    obtain ⟨-, rfl, -⟩ := allocate_eq_some.1 h
    exact ⟨rfl, rfl, rfl⟩
  | _ =>
    obtain ⟨rfl, -⟩ := Prod.mk.inj (Option.some.inj h)
    exact ⟨rfl, rfl, rfl⟩

theorem Server.UsersKeyed.issue (h : s.UsersKeyed) {a : Call} {s' : Server} {ts : List Task}
    (hi : issue s a = some (s', ts)) : s'.UsersKeyed := by
  intro u d hd
  rw [(issue_eq hi).1] at hd
  exact h u d hd

end Volleyer
