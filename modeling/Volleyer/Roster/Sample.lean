import Volleyer.Roster.Fresh

/-!
# The roster — small stores

Stores of a few documents, as the managers write them. What is shown to
fail, and what is shown to be inhabited, is shown on these.
-/

namespace Volleyer.Sample

/-- The user documents of a list of ids with their lists of plays. -/
def users (l : List (String × List String)) (h : (l.map Prod.fst).Nodup) :
    Collection String (Doc UserTitle) where
  entries := l.map fun e =>
    (e.1, Doc.setData [(.firebaseId, .string e.1), (.myPlayList, .strings e.2)])
  nodup := by
    rw [List.map_map]
    exact h

/-- A request of a sender for a play of `"f"`, with a status. -/
def request (id sender play : String) (status : ℤ) : PlayRequest where
  requestPlayerList := []
  requestReceverId := "f"
  requestSenderId := sender
  playId := play
  status := status
  createTime := ⟨0, 0⟩
  id := id

/-- The document of a request. -/
def requestDoc (r : PlayRequest) : Doc PlayRequestTitle :=
  Doc.setData [(.requestSenderId, .string r.requestSenderId),
    (.requestReceiverId, .string r.requestReceverId), (.playId, .string r.playId),
    (.status, .int r.status), (.requestPlayerList, .strings []),
    (.createTime, .timestamp r.createTime)]

/-- The request documents of a list of requests. -/
def requests (l : List PlayRequest) (h : (l.map PlayRequest.id).Nodup) :
    Collection String (Doc PlayRequestTitle) where
  entries := l.map fun r => (r.id, requestDoc r)
  nodup := by
    rw [List.map_map]
    exact h

/-- A play of `"f"` under an id, with a roster. -/
def play (id : String) (roster : List String) : Play where
  id := id
  finderId := "f"
  startTime := ⟨0, 0⟩
  endTime := ⟨0, 0⟩
  place := ""
  price := 0
  type := 0
  levelRange := ⟨0, 0, 0, 0, 0⟩
  lackAmount := ⟨0, 0, 0⟩
  playerInfo := roster
  status := 0

/-- The play documents of a list of plays: each as it was saved, its roster
brought up to date. -/
def plays (l : List Play) (h : (l.map Play.id).Nodup) : Collection String (Doc PlayTitle) where
  entries := l.map fun p =>
    (p.id, (Doc.setData (FinderDataManager.savePlayData p p.id ⟨0, 0⟩)).updateData
      [(.playerInfo, .strings p.playerInfo)])
  nodup := by
    rw [List.map_map]
    exact h

/-- What a sample of user documents stores. -/
theorem get_users {l : List (String × List String)} (h : (l.map Prod.fst).Nodup) {u : String}
    {d : Doc UserTitle} (hd : (users l h).get u = some d) :
    ∃ xs, (u, xs) ∈ l ∧
      d = Doc.setData [(.firebaseId, .string u), (.myPlayList, .strings xs)] := by
  rw [Collection.get_eq_some_iff] at hd
  obtain ⟨⟨v, xs⟩, hv, he⟩ := List.mem_map.1 hd
  obtain ⟨rfl, rfl⟩ := Prod.mk.inj he
  exact ⟨xs, hv, rfl⟩

theorem usersKeyed {s : Server} {l : List (String × List String)} (h : (l.map Prod.fst).Nodup)
    (hs : s.users = users l h) : s.UsersKeyed := by
  intro u d hd
  rw [hs] at hd
  obtain ⟨xs, -, rfl⟩ := get_users h hd
  rfl

/-- Users with nothing in their lists. -/
theorem strings_of_get_users {s : Server} {l : List (String × List String)}
    (h : (l.map Prod.fst).Nodup) (hs : s.users = users l h) (hl : ∀ e ∈ l, e.2 = []) (u : String)
    (d : Doc UserTitle) (hd : s.users.get u = some d) : d.strings .myPlayList = some [] := by
  rw [hs] at hd
  obtain ⟨xs, hxs, rfl⟩ := get_users h hd
  obtain rfl : xs = [] := hl _ hxs
  rfl

/-- What a sample of request documents stores. -/
theorem get_requests {l : List PlayRequest} (h : (l.map PlayRequest.id).Nodup) {r : String}
    {d : Doc PlayRequestTitle} (hd : (requests l h).get r = some d) :
    ∃ q ∈ l, q.id = r ∧ d = requestDoc q := by
  rw [Collection.get_eq_some_iff] at hd
  obtain ⟨q, hq, he⟩ := List.mem_map.1 hd
  obtain ⟨rfl, rfl⟩ := Prod.mk.inj he
  exact ⟨q, hq, rfl, rfl⟩

/-- A store of users, plays and requests whose ids were handed out. -/
def store (us : Collection String (Doc UserTitle)) (ps : Collection String (Doc PlayTitle))
    (rs : Collection String (Doc PlayRequestTitle)) : Server where
  users := us
  plays := ps
  requests := rs
  allocated := ps.entries.map Prod.fst ++ rs.entries.map Prod.fst

/-- What is stored has its id handed out. -/
theorem mem_allocated_store {us : Collection String (Doc UserTitle)}
    {ps : Collection String (Doc PlayTitle)} {rs : Collection String (Doc PlayRequestTitle)}
    (i : String) (h : (store us ps rs).Stores i) : i ∈ (store us ps rs).allocated := by
  rw [store, List.mem_append]
  rcases h with h | h
  · obtain ⟨d, hd⟩ := Option.isSome_iff_exists.1 h
    exact Or.inl (List.mem_map_of_mem (Collection.get_eq_some_iff.1 hd))
  · obtain ⟨d, hd⟩ := Option.isSome_iff_exists.1 h
    exact Or.inr (List.mem_map_of_mem (Collection.get_eq_some_iff.1 hd))

/-- A play of `"f"`, and a request of `"u"` to join it, with a status. -/
def oneRequest (status : ℤ) : Server :=
  store (users [("f", ["p"]), ("u", [])] (by simp)) (plays [play "p" ["f"]] (by simp))
    (requests [request "r" "u" "p" status] (by simp))

/-- A play of `"f"`, another user, and no request. -/
def onePlay : Server :=
  store (users [("f", ["p"]), ("u", [])] (by simp)) (plays [play "p" ["f"]] (by simp)) .empty

/-- A play of `"f"`, and two pending requests to join it. -/
def twoRequests : Server :=
  store (users [("f", ["p"]), ("u", []), ("v", [])] (by simp)) (plays [play "p" ["f"]] (by simp))
    (requests [request "r" "u" "p" 0, request "q" "v" "p" 0] (by simp [request]))

/-- Two users, a finder and another, and nothing else. -/
def twoUsers : Server where
  users := users [("f", []), ("u", [])] (by decide)
  plays := .empty
  requests := .empty
  allocated := []

end Volleyer.Sample
