import Mathlib.Algebra.GroupWithZero.Nat
import Volleyer.Roster.Serial

/-!
# The roster — a deletion, alone

`deletePlay` puts a removal, a read for each listed player and a query in
flight at once, and the reads and the query go on to writes. They work on
different documents or all remove requests, so they settle whatever the
order is, and the state they settle in is the deletion done exactly.
-/

namespace Volleyer

variable {s s' : Server} {p : String} {us : List String} {play : Play}
variable {evs : List (Event Call Reply)} {c c' : Config Server Task}

/-- **A deletion that has just been called.** -/
def deleting (s : Server) (play : Play) : Config Server Task :=
  ⟨s, [s], FinderDataManager.deletePlay play⟩

/-- The tasks of a deletion of the play `p` with the roster `us`. -/
def Task.Deletes (p : String) (us : List String) : Task → Prop
  | .deletePlay q => q = p
  | .getUsers edit q u => edit = .removeFound ∧ q = p ∧ u ∈ us
  | .setMyPlayList u _ => u ∈ us
  | .queryRequests q => q = p
  | .deleteRequest _ => True
  | _ => False

theorem deletes_deletePlay (play : Play) :
    ∀ t ∈ FinderDataManager.deletePlay play, t.Deletes play.id play.playerInfo := by
  intro t ht
  rw [deletePlay_eq] at ht
  rcases List.mem_cons.1 ht with rfl | ht
  · exact rfl
  · rcases List.mem_append.1 ht with ht | ht
    · obtain ⟨u, hu, rfl⟩ := List.mem_map.1 ht
      exact ⟨rfl, rfl, hu⟩
    · obtain rfl := List.mem_singleton.1 ht
      exact rfl

namespace Task.Deletes

variable {t t' : Task}

theorem keyedFor (ht : t.Deletes p us) (h : ∀ u ∈ us, s.KeyedAt u) : s.KeyedFor t := by
  cases t with
  | getUsers e q u => exact h u ht.2.2
  | _ => trivial

/-- What a task of a deletion spawns is one. -/
theorem answerOk (ht : t.Deletes p us) (h : ∀ u ∈ us, s.KeyedAt u)
    (ht' : t' ∈ (Volleyer.answerOk s t).2) : t'.Deletes p us := by
  cases t with
  | getUsers e q u =>
    rw [answerOk_getUsers (h u ht.2.2)] at ht'
    obtain ⟨l, -, rfl⟩ := List.mem_map.1 ht'
    exact ht.2.2
  | queryRequests q =>
    obtain ⟨d, -, rfl⟩ := List.mem_map.1 ht'
    trivial
  | deletePlay | setMyPlayList | deleteRequest => cases ht'
  | _ => exact ht.elim

end Task.Deletes

/-- **A deletion settles**, where each player of the roster has one
document. -/
theorem settlesOn_deletes (p : String) (us : List String) :
    SettlesOn roster (fun _ => .ok) (fun s => ∀ u ∈ us, s.KeyedAt u) (Task.Deletes p us) effect
      Apart where
  symm := Apart.symm
  comm h s := effect_comm h s
  unfold h ht := effect_unfold (ht.keyedFor h)
  good {_ t} h _ := fun u hu => (h u hu).answer t .ok
  on h ht _ ht' := ht.answerOk h ht'
  spawn h ht := pairwise_answerOk (ht.keyedFor h)
  inherit h ht htu ht' := by
    obtain ⟨a, b, ha, hb, hab⟩ := htu
    exact ⟨a, b, lane_of_mem_answerOk (ht.keyedFor h) ha ht', hb, hab⟩

/-! ## How long it takes -/

/-- How many answers a task takes, with those it spawns, where at most `n`
requests are of the play. -/
def Task.answers (n : ℕ) : Task → ℕ
  | .getUsers _ _ _ => 2
  | .queryRequests _ => n + 1
  | _ => 1

/-- An answer of a deletion never adds a request. -/
theorem Task.Deletes.length_requestsOfPlay {t : Task} (ht : t.Deletes p us) (s : Server) :
    ((Volleyer.answerOk s t).1.requestsOfPlay p).length ≤ (s.requestsOfPlay p).length := by
  cases t with
  | deleteRequest i =>
    have hsub : (Collection.delete s.requests i).entries.Sublist s.requests.entries :=
      List.filter_sublist
    exact (hsub.filter _).length_le
  | deletePlay | getUsers | setMyPlayList | queryRequests => exact Nat.le_refl _
  | _ => exact ht.elim

/-- **An answer uses up one of the answers its task takes.** -/
theorem Task.Deletes.answers_answerOk {t : Task} {n : ℕ} (ht : t.Deletes p us)
    (h : ∀ u ∈ us, s.KeyedAt u) (hn : (s.requestsOfPlay p).length ≤ n) :
    (((Volleyer.answerOk s t).2).map (Task.answers n)).sum + 1 ≤ t.answers n := by
  cases t with
  | getUsers e q u =>
    rw [answerOk_getUsers (h u ht.2.2)]
    cases (s.myPlayList u).bind (e.callback q) with
    | none => simp [Task.answers]
    | some l => simp [Task.answers]
  | queryRequests q =>
    obtain rfl : q = p := ht
    have hone : (((s.requestsOfPlay q).map fun document => Task.deleteRequest document.1).map
        (Task.answers n)).sum = (s.requestsOfPlay q).length := by
      rw [List.map_map]
      exact (congrArg List.sum List.map_const').trans (List.sum_replicate_nat.trans (Nat.mul_one _))
    show _ + 1 ≤ n + 1
    rw [Volleyer.answerOk, hone]
    omega
  | deletePlay | setMyPlayList | deleteRequest => exact Nat.le_refl _
  | _ => exact ht.elim

/-- **A deletion ends**: each listed player takes two answers, each request
of the play one, and the removal and the query one each. -/
theorem length_le_of_deleting (h : ∀ u ∈ play.playerInfo, s.KeyedAt u)
    (hrun : roster.Run (SettlesOn.Answers fun _ => .ok) (deleting s play) evs c) :
    evs.length ≤ 2 * play.playerInfo.length + (s.requestsOfPlay play.id).length + 2 := by
  set n := (s.requestsOfPlay play.id).length with hn
  have hstart : ((FinderDataManager.deletePlay play).map (Task.answers n)).sum =
      2 * play.playerInfo.length + n + 2 := by
    have hreads : ((play.playerInfo.map (Task.getUsers .removeFound play.id)).map
        (Task.answers n)).sum = play.playerInfo.length * 2 := by
      rw [List.map_map]
      exact (congrArg List.sum List.map_const').trans List.sum_replicate_nat
    rw [deletePlay_eq, List.map_cons, List.map_append, List.sum_cons, List.sum_append, hreads]
    simp only [Task.answers, List.map_cons, List.map_nil, List.sum_cons, List.sum_nil]
    omega
  have hinv : (∀ u ∈ play.playerInfo, c.state.KeyedAt u) ∧
      (∀ t ∈ c.pending, t.Deletes play.id play.playerInfo) ∧
      (c.state.requestsOfPlay play.id).length ≤ n ∧
      evs.length + (c.pending.map (Task.answers n)).sum ≤
        2 * play.playerInfo.length + n + 2 := by
    induction hrun with
    | nil => exact ⟨h, deletes_deletePlay play, Nat.le_refl n, by rw [← hstart]; simp [deleting]⟩
    | @snoc evs c e c' _ hok hs ih =>
      obtain ⟨hkeyed, hon, hle, hsum⟩ := ih
      cases e with
      | call a => exact hok.elim
      | answer i r =>
        obtain ⟨t, ht, rfl⟩ := Machine.step_answer.1 hs
        obtain rfl : r = .ok := hok t ht
        have hton := hon t (List.mem_of_getElem? ht)
        have hperm := ((Machine.perm_cons_eraseIdx ht).map (Task.answers n)).sum_nat
        have hone := hton.answers_answerOk hkeyed hle
        refine ⟨fun u hu => (hkeyed u hu).answer t .ok, fun t' ht' => ?_,
          Nat.le_trans (hton.length_requestsOfPlay c.state) hle, ?_⟩
        · rcases Machine.mem_eraseIdx_append ht' with ht' | ht'
          · exact hon t' ht'
          · exact hton.answerOk hkeyed ht'
        · rw [List.map_cons, List.sum_cons] at hperm
          simp only [List.length_append, List.length_singleton, List.map_append, List.sum_append,
            roster_answer, answer_ok]
          omega
  omega

/-! ## What it leaves -/

/-- **What a deletion is to leave** of a store: the play and the requests
for it are gone, the play is off the list of each of its players, in the
order of the others, and everything else is as before. -/
structure DeletedExactly (p : String) (us : List String) (s s' : Server) : Prop where
  plays : ∀ q, s'.plays.get q = if q = p then none else s.plays.get q
  requests : ∀ i, s'.requests.get i =
    (s.requests.get i).filter fun document => decide (document.string .playId ≠ some p)
  players : ∀ u ∈ us, ∃ document myPlayList, s.users.get u = some document ∧
    document.strings .myPlayList = some myPlayList ∧
    s'.users.get u = some (document.updateData
      [(.myPlayList, .strings (myPlayList.filter fun playId => decide (playId ≠ p)))])
  others : ∀ u, u ∉ us → s'.users.get u = s.users.get u

/-- Erasing an element that occurs once is keeping the others. -/
theorem erase_eq_filter_of_count_le {l : List String} (h : l.count p ≤ 1) :
    l.erase p = l.filter fun playId => decide (playId ≠ p) := by
  induction l with
  | nil => rfl
  | cons a l ih =>
    by_cases hap : a = p
    · subst hap
      have hnot : a ∉ l := by
        rw [List.count_cons_self] at h
        exact List.count_eq_zero.1 (by omega)
      rw [List.erase_cons_head, List.filter_cons_of_neg (by simp), eq_comm, List.filter_eq_self]
      intro b hb
      simpa using fun hba : b = a => hnot (hba ▸ hb)
    · rw [List.count_cons_of_ne hap] at h
      rw [List.erase_cons_tail (by simpa using hap), List.filter_cons_of_pos (by simpa using hap),
        ih h]

/-- **Deleting a play alone does exactly that.** The play is passed as it
is stored, its roster names each of its players once, they are the users
whose lists name the play, once, and each has one document. Whatever the
order of the callbacks, the deletion ends, and then exactly the play, the
requests for it and its id in the lists of its players are gone. -/
theorem deletePlay_alone (hplay : CurrentPlay s play)
    (hroster : (s.playerInfo play.id).getD [] = us) (hnodup : us.Nodup)
    (hholders : ∀ u, (∃ l, s.myPlayList u = some l ∧ play.id ∈ l) ↔ u ∈ us)
    (honce : ∀ u ∈ us, ∀ l, s.myPlayList u = some l → l.count play.id = 1)
    (hone : ∀ u ∈ us, s.KeyedAt u)
    (hrun : roster.Run (SettlesOn.Answers fun _ => .ok) (deleting s play) evs c) :
    evs.length ≤ 2 * us.length + (s.requestsOfPlay play.id).length + 2 ∧
      (c.pending = [] → DeletedExactly play.id us s c.state) := by
  have hinfo : play.playerInfo = us := by
    obtain ⟨d, now, hd, hdec⟩ := hplay
    rw [Server.playerInfo, hd, Option.bind_some] at hroster
    rw [← hroster, ← hdec]
    rfl
  subst hinfo
  refine ⟨length_le_of_deleting hone hrun, fun hdone => ?_⟩
  have hsettled := (settlesOn_deletes play.id play.playerInfo).state_of_run hrun hone
    (deletes_deletePlay play) (pairwise_deletePlay hnodup) hdone
  have hstate : c.state = (FinderDataManager.deletePlay play).foldl effect s := hsettled
  rw [foldl_effect_deletePlay] at hstate
  have husers : ∀ u, c.state.users.get u = if u ∈ play.playerInfo then
      (s.users.get u).map (editUserDoc .removeFound play.id) else s.users.get u := by
    intro u
    rw [hstate]
    exact get_users_foldl_editUser _ play.id hnodup u
  refine ⟨fun q => ?_, fun i => ?_, fun u hu => ?_, fun u hu => by rw [husers, if_neg hu]⟩
  · rw [hstate, ← Collection.get_delete]
    exact congrArg (Collection.get · q) (foldl_editUser_frame _ play.id _).1
  · rw [hstate]
    show (Collection.keep _ _).get i = _
    rw [Collection.get_keep]
    refine congrArg (Option.filter · _) (funext fun document => ?_)
    rw [decide_not, ← beq_eq_decide]
  · obtain ⟨l, hl, hmem⟩ := (hholders u).2 hu
    obtain ⟨document, hget, hread⟩ := Option.bind_eq_some_iff.1 hl
    have hcount := honce u hu l hl
    refine ⟨document, l, hget, hread, ?_⟩
    rw [husers, if_pos hu, hget, Option.map_some, editUserDoc, hread, Option.bind_some,
      ListEdit.callback_removeFound, if_pos hmem, erase_eq_filter_of_count_le (by omega)]
    rfl

namespace Sample

/-- Three plays and their players, and requests for two of them. -/
def threePlays : Server :=
  store (users [("f", ["q", "p"]), ("u", ["p", "q"]), ("v", ["q", "s"])] (by simp))
    (plays [Sample.play "p" ["f", "u"], Sample.play "q" ["f", "u", "v"], Sample.play "s" ["v"]]
      (by simp [Sample.play]))
    (requests [request "r" "u" "p" 99, request "t" "v" "q" 99, request "w" "v" "p" 1]
      (by simp [request]))

theorem list_threePlays {u : String} {l : List String} (h : threePlays.myPlayList u = some l) :
    u = "f" ∧ l = ["q", "p"] ∨ u = "u" ∧ l = ["p", "q"] ∨ u = "v" ∧ l = ["q", "s"] := by
  obtain ⟨d, hd, hl⟩ := Option.bind_eq_some_iff.1 h
  obtain ⟨xs, hxs, rfl⟩ := get_users (by simp) hd
  obtain rfl : xs = l := Option.some.inj ((Value.asStrings_strings xs).symm.trans hl)
  simpa using hxs

end Sample

/-- A play of two is deleted, with its two requests: the requests are queried
first, and the players' lists read and written before the removals. -/
theorem deletePlay_alone_threePlays : ∃ c,
    roster.Run (SettlesOn.Answers fun _ => .ok)
      (deleting Sample.threePlays (Sample.play "p" ["f", "u"]))
      [.answer 3 .ok, .answer 2 .ok, .answer 1 .ok, .answer 4 .ok, .answer 0 .ok, .answer 1 .ok,
        .answer 0 .ok, .answer 0 .ok] c ∧
    DeletedExactly "p" ["f", "u"] Sample.threePlays c.state := by
  have hkeyed : Sample.threePlays.UsersKeyed := Sample.usersKeyed (by simp) rfl
  have hrun : roster.Run (SettlesOn.Answers fun _ => .ok)
      (deleting Sample.threePlays (Sample.play "p" ["f", "u"]))
      [.answer 3 .ok, .answer 2 .ok, .answer 1 .ok, .answer 4 .ok, .answer 0 .ok, .answer 1 .ok,
        .answer 0 .ok, .answer 0 .ok] _ :=
    .of_exec ⟨fun _ _ => rfl, fun _ _ => rfl, fun _ _ => rfl, fun _ _ => rfl, fun _ _ => rfl,
      fun _ _ => rfl, fun _ _ => rfl, fun _ _ => rfl, trivial⟩ rfl
  have hroster : (Sample.threePlays.playerInfo "p").getD [] = ["f", "u"] := rfl
  refine ⟨_, hrun, (deletePlay_alone ⟨_, ⟨0, 0⟩, rfl, rfl⟩ hroster (by simp)
    (fun u => ⟨?_, fun hu => ?_⟩) (fun u hu l hl => ?_) (fun u _ => hkeyed.keyedAt u) hrun).2 rfl⟩
  · rintro ⟨l, hl, hmem⟩
    rcases Sample.list_threePlays hl with ⟨rfl, -⟩ | ⟨rfl, -⟩ | ⟨-, rfl⟩
    · decide
    · decide
    · exact absurd hmem (by decide)
  · rcases List.mem_cons.1 hu with rfl | hu
    · exact ⟨["q", "p"], rfl, by decide⟩
    · obtain rfl := List.mem_singleton.1 hu
      exact ⟨["p", "q"], rfl, by decide⟩
  · rcases Sample.list_threePlays hl with ⟨-, rfl⟩ | ⟨-, rfl⟩ | ⟨rfl, -⟩
    · rfl
    · rfl
    · exact absurd hu (by decide)

end Volleyer
