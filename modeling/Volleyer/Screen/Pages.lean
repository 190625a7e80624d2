import Volleyer.Feed.Delivery
import Volleyer.Roster.Refines
import Volleyer.Screen.Arrival
import Volleyer.Stored.Request

/-!
# What a member's pages show

Four pages read the three records of who plays: one's plays and the plays
one has found through the list of the user's document, the received and
the sent requests through the collection of all of them. Where the store
serves a club, each page is a question the club answers.
-/

namespace Volleyer

variable {s : Server} {C : Club String String String} {u : String} {now clock : String → Date}
variable {evs : List (Event FetchEvent FetchReply)} {c : Config Fetches FetchTask}

/-! ## The page of the plays one has found -/

/-- **The screen of the plays one has found**: the plays, the rows last
loaded from them, and what stands in their place. -/
structure MyFindersViewController where
  myFinders : List Play := []
  myFindersTableView : List Play := []
  photoImageViewHidden : Bool := true
  noDataLabelHidden : Bool := true
  myFindersTableViewHidden : Bool := false

namespace MyFindersViewController

/-- `manager(_:didGet:)`; `me` is what `UserDefaults` says of the account. -/
def didGet (me : Option String) (vc : MyFindersViewController) (plays : List Play) :
    MyFindersViewController :=
  let myFinders := sortByStartTime (plays.filter fun i => some i.finderId == me)
  if myFinders.length = 0 then
    { vc with
      myFinders := myFinders
      photoImageViewHidden := false
      noDataLabelHidden := false
      myFindersTableViewHidden := true }
  else
    { myFinders := myFinders
      myFindersTableView := myFinders
      photoImageViewHidden := true
      noDataLabelHidden := true
      myFindersTableViewHidden := false }

/-- The plays that can be seen. -/
def shown (vc : MyFindersViewController) : List Play :=
  if vc.myFindersTableViewHidden then [] else vc.myFindersTableView

/-- A delivery is shown: those of it the account has found, by their
starts. -/
theorem shown_didGet (me : Option String) (vc : MyFindersViewController) (plays : List Play) :
    (didGet me vc plays).shown = sortByStartTime (plays.filter fun i => some i.finderId == me) := by
  unfold didGet shown
  dsimp only
  split
  · rename_i hnil
    exact (List.length_eq_zero_iff.1 hnil).symm
  · rfl

end MyFindersViewController

/-! ## What the pages are to show -/

/-- **The pages of a member show the club's answers**: their plays with the
rosters, those they found by their starts, the requests for the latter,
and their own, each with its standing. -/
structure PagesShow (C : Club String String String) (u : String) (myPlays myFinders : List Play)
    (received sent : List PlayRequest) : Prop where
  plays_nodup : (myPlays.map Play.id).Nodup
  plays_iff : ∀ p, p ∈ myPlays.map Play.id ↔ C.Plays u p
  rosters : ∀ play ∈ myPlays, C.roster play.id = some play.playerInfo
  finders_nodup : (myFinders.map Play.id).Nodup
  finders_iff : ∀ p, p ∈ myFinders.map Play.id ↔ C.finder p = some u
  finders_sorted : myFinders.Pairwise Play.StartsBy
  requests_nodup : (received.map PlayRequest.id).Nodup ∧ (sent.map PlayRequest.id).Nodup
  received_iff : ∀ i, i ∈ received.map PlayRequest.id ↔
    ∃ a, C.application i = some a ∧ C.finder a.play = some u
  sent_iff : ∀ i, i ∈ sent.map PlayRequest.id ↔ ∃ a, C.application i = some a ∧ a.sender = u
  standings : ∀ r ∈ received ++ sent, ∃ a, C.application r.id = some a ∧
    r.requestSenderId = a.sender ∧ r.playId = a.play ∧
    Standing.ofStatus r.status = some a.standing
  requests_sorted : received.Pairwise RequestDataManager.SentBy ∧
    sent.Pairwise RequestDataManager.SentBy

namespace Serves

/-! ## The two pages of plays -/

/-- The list of a user, and a play for each of its entries. -/
theorem exists_list (h : Serves s C) {d : Doc UserTitle} (hd : s.users.get u = some d) :
    ∃ l, d.strings .myPlayList = some l ∧ l.Nodup ∧ (∀ p, p ∈ l ↔ C.Plays u p) ∧
      ∀ p ∈ l, (s.plays.get p).isSome := by
  obtain ⟨l, hl, hn, hmem⟩ := h.lists u d hd
  refine ⟨l, hl, hn, hmem, fun p hp => (h.plays p).2 ?_⟩
  obtain ⟨r, hr, -⟩ := (hmem p).1 hp
  obtain ⟨f, hf, -⟩ := Option.map_eq_some_iff.1 hr
  rw [hf]
  rfl

/-- What is read of a play that is there. -/
theorem storedPlay_eq (h : Serves s C) {p : String} (hp : (s.plays.get p).isSome) :
    C.finder p = some (storedPlay s.plays now p).finderId ∧
      C.roster p = some (storedPlay s.plays now p).playerInfo := by
  obtain ⟨d, hd⟩ := Option.isSome_iff_exists.1 hp
  obtain ⟨f, hf⟩ := Option.isSome_iff_exists.1 ((h.plays p).1 hp)
  have hfinder : d.string .finderId = some f := by
    rw [← hf, ← h.finder, Server.finderId, hd, Option.bind_some]
  have hroster : d.strings .playerInfo = C.roster p := by
    rw [← h.roster, Server.playerInfo, hd, Option.bind_some]
  have hsome : C.roster p = some (f :: C.seats.filterMap (C.seatIn p)) := by
    rw [Club.roster, hf, Option.map_some]
  simp only [storedPlay, hd, Option.getD_some, decodePlay, hfinder, hroster, hsome, hf, and_self]

end Serves

/-- **The ids that were answered are those of the list.** -/
theorem perm_arrived {users : Collection String (Doc UserTitle)}
    {plays : Collection String (Doc PlayTitle)} {firebaseId : Option String} {ids : List String}
    {document : Doc UserTitle} (hget : users.get (firebaseId.getD "") = some document)
    (hlist : document.strings .myPlayList = some ids)
    (h : Arrival users plays (.getThisUserPlays firebaseId) now evs c) :
    (arrived users plays (.call (.getThisUserPlays firebaseId) :: evs)).Perm ids := by
  obtain ⟨⟨fetch, ids', gather⟩, hk, hbegun⟩ := exists_call rfl h
  obtain ⟨rfl, -⟩ := Prod.mk.inj hbegun
  have htracked := (tracking_of_run h.run).tracked hk
  have hopened := htracked.opened
  rw [h.done, List.filterMap_nil, List.length_nil, Nat.add_zero, if_neg (by simp)] at hopened
  obtain ⟨o, ho⟩ := List.length_eq_one_iff.1 hopened
  have hmem : o ∈ userReads 0 (fetches.answered (Config.start (Fetches.start users plays))
      (.call (.getThisUserPlays firebaseId) :: evs)) := by rw [ho]; exact List.mem_cons_self
  have hfound : o.2.bind (Fetch.listed .thisUserPlays) = some ids := by
    rw [userReads_of_readFrom (readFrom_of_run rfl h.run) 0 o hmem, fst_of_mem_userReads h 0 o hmem,
      hget]
    exact hlist
  have hids : ids' = ids := by
    have hlisted := htracked.listed (by simp)
    rw [ho, List.flatMap_cons, List.flatMap_nil, List.append_nil, Fetch.idsOf, hfound] at hlisted
    exact hlisted
  have hawaits := htracked.awaits
  rw [h.done, List.filterMap_nil] at hawaits
  rw [arrived, map_fst_reads .playersData .thisUserPlays, ← hids]
  exact hawaits.perm_keys

/-! ## The two lists of requests -/

/-- A list of requests names each document once. -/
theorem nodup_bucket {p : PlayRequest → Prop} [DecidablePred p]
    (requests : Collection String (Doc PlayRequestTitle)) :
    ((bucket p clock requests.entries).map PlayRequest.id).Nodup := by
  have hsub : ∀ l : List (String × Doc PlayRequestTitle),
      ((decodedRequests clock l).map PlayRequest.id).Sublist (l.map Prod.fst) := by
    intro l
    induction l with
    | nil => exact .slnil
    | cons e l ih =>
      rw [decodedRequests, List.filterMap_cons]
      cases hdecode : decodePlayRequest e.1 e.2 (clock e.1) with
      | none => exact ih.cons _
      | some r =>
        rw [List.map_cons, List.map_cons, (decodePlayRequestWith_eq_some hdecode).1]
        exact ih.cons_cons _
  rw [bucket, ((List.perm_insertionSort _ _).map PlayRequest.id).nodup_iff]
  exact requests.nodup.sublist ((List.filter_sublist.map _).trans (hsub _))

namespace Serves

/-- **A stored request, as it is decoded**: its application, sent to the
finder of the play. -/
theorem decodePlayRequest_eq (h : Serves s C) {i : String} {d : Doc PlayRequestTitle}
    (hd : s.requests.get i = some d) (t : Date) : ∃ a r, C.application i = some a ∧
      decodePlayRequest i d t = some r ∧ r.id = i ∧ r.requestSenderId = a.sender ∧
      r.playId = a.play ∧ C.finder a.play = some r.requestReceverId ∧
      Standing.ofStatus r.status = some a.standing := by
  obtain ⟨a, ha⟩ := Option.ne_none_iff_exists'.1 fun hnone => by
    rw [(h.requests i).2 hnone] at hd
    cases hd
  have happ : Volleyer.application d = some a := by
    rw [← ha, ← h.application, Server.application, hd, Option.bind_some]
  obtain ⟨hs, hp, hst⟩ := application_eq_some.1 happ
  obtain ⟨n, hn, hstanding⟩ := Option.bind_eq_some_iff.1 hst
  obtain ⟨f, hf, -⟩ := C.applies i a ha
  have hr : d.string .requestReceiverId = some f := by rw [h.receiver i d a hd ha, hf]
  obtain ⟨r, hdecode⟩ : ∃ r, decodePlayRequest i d t = some r := by
    unfold decodePlayRequest decodePlayRequestWith
    rw [h.players i d hd]
    exact ⟨_, rfl⟩
  obtain ⟨hid, hsender, hreceiver, hplay, hstatus⟩ := decodePlayRequestWith_eq_some hdecode
  rw [hs, Option.getD_some] at hsender
  rw [hr, Option.getD_some] at hreceiver
  rw [hp, Option.getD_some] at hplay
  rw [hn, Option.getD_some] at hstatus
  exact ⟨a, r, ha, hdecode, hid, hsender, hplay, by rw [hf, hreceiver], by rw [hstatus, hstanding]⟩

/-- No stored request traps its readers. -/
theorem not_traps (h : Serves s C) : ∀ document ∈ s.requests.entries, ¬document.2.Traps := by
  rintro ⟨i, d⟩ hd ⟨players, hplayers, player, hmem, -⟩
  rw [h.players i d (Collection.get_eq_some_iff.2 hd), Option.some.injEq] at hplayers
  rw [← hplayers] at hmem
  cases hmem

/-- **What is decoded is the club's applications.** -/
theorem mem_decodedRequests (h : Serves s C) {r : PlayRequest}
    (hr : r ∈ decodedRequests clock s.requests.entries) :
    ∃ a, C.application r.id = some a ∧ r.requestSenderId = a.sender ∧ r.playId = a.play ∧
      C.finder a.play = some r.requestReceverId ∧ Standing.ofStatus r.status = some a.standing := by
  obtain ⟨⟨i, d⟩, hd, hdecode⟩ := List.mem_filterMap.1 hr
  obtain ⟨a, r', ha, hdecode', hid, hrest⟩ :=
    h.decodePlayRequest_eq (Collection.get_eq_some_iff.2 hd) (clock i)
  obtain rfl := Option.some.inj (hdecode.symm.trans hdecode')
  exact ⟨a, hid ▸ ha, hrest⟩

/-- And each of them is. -/
theorem exists_decodedRequest (h : Serves s C) (clock : String → Date) {i : String}
    {a : Application String String} (ha : C.application i = some a) :
    ∃ r ∈ decodedRequests clock s.requests.entries, r.id = i ∧
      r.requestSenderId = a.sender ∧ C.finder a.play = some r.requestReceverId := by
  obtain ⟨d, hd⟩ := Option.ne_none_iff_exists'.1 fun hnone => by
    rw [(h.requests i).1 hnone] at ha
    cases ha
  obtain ⟨a', r, ha', hdecode, hid, hs, -, hf, -⟩ := h.decodePlayRequest_eq hd (clock i)
  obtain rfl := Option.some.inj (ha.symm.trans ha')
  exact ⟨r, List.mem_filterMap.2 ⟨(i, d), Collection.get_eq_some_iff.1 hd, hdecode⟩, hid, hs, hf⟩

/-- **The pages of a member show the club's answers**, where the store
serves the club. -/
theorem pagesShow (h : Serves s C) (hu : (s.users.get u).isSome)
    (hpage : Arrival s.users s.plays (.getThisUserPlays (some u)) now evs c)
    (vc : MyPlaysViewController) (vc' : MyFindersViewController) :
    ∃ received sent, RequestDataManager.getPlayRequests (some u) clock s.requests.entries =
        some (received, sent) ∧
      PagesShow C u (c.state.playsHanded.foldl .didGet vc).shown
        (c.state.playsHanded.foldl (.didGet (some u)) vc').shown received sent := by
  obtain ⟨d, hd⟩ := Option.isSome_iff_exists.1 hu
  obtain ⟨l, hl, hn, hmem, hall⟩ := h.exists_list hd
  have hperm := perm_arrived hd hl hpage
  rw [playsHanded_eq hd hl hall hpage, List.foldl_cons, List.foldl_nil, List.foldl_cons,
    List.foldl_nil, MyPlaysViewController.shown_didGet, MyFindersViewController.shown_didGet]
  set order := arrived s.users s.plays (.call (.getThisUserPlays (some u)) :: evs)
  have hids : (order.map (storedPlay s.plays now)).map Play.id = order := by
    rw [List.map_map]
    exact List.map_id order
  -- the second page selects from the first, and sorts
  set mine := (order.map (storedPlay s.plays now)).filter fun i => some i.finderId == some u
  have hsort : ((sortByStartTime mine).map Play.id).Perm (mine.map Play.id) :=
    (perm_sortByStartTime mine).map Play.id
  refine ⟨_, _, getPlayRequests_eq_some_iff.2 ⟨h.not_traps, rfl⟩, ?_, fun p => ?_, ?_, ?_, ?_,
    pairwise_sortByStartTime mine, ⟨nodup_bucket _, nodup_bucket _⟩, ?_, ?_, ?_,
    pairwise_bucket, pairwise_bucket⟩
  · rw [hids]
    exact hperm.nodup_iff.2 hn
  · rw [hids, hperm.mem_iff, hmem]
  · rintro play hplay
    obtain ⟨p, hp, rfl⟩ := List.mem_map.1 hplay
    exact (h.storedPlay_eq (hall p (hperm.mem_iff.1 hp))).2
  · rw [hsort.nodup_iff]
    refine (hperm.nodup_iff.2 hn).sublist ?_
    have hsub : mine.Sublist (order.map (storedPlay s.plays now)) := List.filter_sublist
    rw [← hids]
    exact hsub.map Play.id
  · intro p
    rw [hsort.mem_iff, List.mem_map]
    constructor
    · rintro ⟨play, hplay, rfl⟩
      obtain ⟨hplay, hfinder⟩ := List.mem_filter.1 hplay
      obtain ⟨q, hq, rfl⟩ := List.mem_map.1 hplay
      rw [beq_iff_eq] at hfinder
      rw [← hfinder]
      exact (h.storedPlay_eq (hall q (hperm.mem_iff.1 hq))).1
    · intro hf
      have hp : p ∈ order := hperm.mem_iff.2 ((hmem p).2 (C.plays_iff.2 (.inl hf)))
      refine ⟨storedPlay s.plays now p, List.mem_filter.2 ⟨List.mem_map_of_mem hp, ?_⟩, rfl⟩
      rw [beq_iff_eq, ← hf]
      exact (h.storedPlay_eq (hall p (hperm.mem_iff.1 hp))).1.symm
  · intro i
    rw [List.mem_map]
    constructor
    · rintro ⟨r, hr, rfl⟩
      obtain ⟨hdecoded, hreceived⟩ := mem_bucket.1 hr
      obtain ⟨a, ha, -, -, hf, -⟩ := h.mem_decodedRequests hdecoded
      exact ⟨a, ha, hf.trans hreceived⟩
    · rintro ⟨a, ha, hf⟩
      obtain ⟨r, hr, rfl, -, hrf⟩ := h.exists_decodedRequest clock ha
      exact ⟨r, mem_bucket.2 ⟨hr, hrf.symm.trans hf⟩, rfl⟩
  · intro i
    rw [List.mem_map]
    constructor
    · rintro ⟨r, hr, rfl⟩
      obtain ⟨hdecoded, -, hsent⟩ := mem_bucket.1 hr
      obtain ⟨a, ha, hs, -⟩ := h.mem_decodedRequests hdecoded
      exact ⟨a, ha, hs.symm.trans (Option.some.inj hsent)⟩
    · rintro ⟨a, ha, rfl⟩
      obtain ⟨r, hr, rfl, hs, hrf⟩ := h.exists_decodedRequest clock ha
      refine ⟨r, mem_bucket.2 ⟨hr, fun hreceived => ?_, congrArg some hs⟩, rfl⟩
      -- the receiver is the finder, who did not send it
      obtain ⟨f, hf, hne⟩ := C.applies _ a ha
      exact hne (Option.some.inj (hreceived.symm.trans (hrf.symm.trans hf)))
  · intro r hr
    have hdecoded : r ∈ decodedRequests clock s.requests.entries := by
      rcases List.mem_append.1 hr with hr | hr
      · exact (mem_bucket.1 hr).1
      · exact (mem_bucket.1 hr).1
    obtain ⟨a, ha, hs, hp, -, hst⟩ := h.mem_decodedRequests hdecoded
    exact ⟨a, ha, hs, hp, hst⟩

end Serves

/-! ## Runs -/

/-- **Every page of every member.** From users with empty lists, no plays
and no requests, take any calls one at a time on current values, their
answers in any order, until nothing is in flight. Then any member opens
the four pages, and the reads of the list are answered in any order: the
pages show what the club, led by the operations of the calls, says of the
member. -/
theorem pages_of_serial {s₀ : Server} {calls : List (Event Call Reply)} {c : Config Server Task}
    {c' : Config Fetches FetchTask} (hkeyed : s₀.UsersKeyed)
    (hlists : ∀ u d, s₀.users.get u = some d → d.strings .myPlayList = some [])
    (hplays : ∀ p, s₀.plays.get p = none) (hrequests : ∀ r, s₀.requests.get r = none)
    (hrun : roster.Run Serial (Config.start s₀) calls c) (hdone : c.pending = [])
    (hu : (c.state.users.get u).isSome)
    (hpage : Arrival c.state.users c.state.plays (.getThisUserPlays (some u)) now evs c')
    (clock : String → Date) (vc : MyPlaysViewController) (vc' : MyFindersViewController) :
    ∃ C received sent,
      (calls.filterMap (Event.op clubOp)).foldlM Club.step Club.empty = some C ∧
      RequestDataManager.getPlayRequests (some u) clock c.state.requests.entries =
        some (received, sent) ∧
      PagesShow C u (c'.state.playsHanded.foldl .didGet vc).shown
        (c'.state.playsHanded.foldl (.didGet (some u)) vc').shown received sent := by
  obtain ⟨C, hC, accepted, hex, hmirrors⟩ := mirrors_of_serial hkeyed hlists hplays hrequests hrun
  rw [Config.settled_of_pending_nil hdone] at hex hmirrors
  obtain ⟨received, sent, hget, hpages⟩ := (hmirrors.serves hex).pagesShow hu hpage vc vc'
  exact ⟨C, received, sent, hC, hget, hpages⟩

/-- The finder of the play of `Sample.leave` sees it on both pages, and the
request withdrawn. -/
theorem pages_leave : ∃ c' received sent,
    roster.exec (Config.start Sample.twoUsers) Sample.leave = some Sample.left ∧
    Arrival Sample.left.state.users Sample.left.state.plays (.getThisUserPlays (some "f"))
      (fun _ => ⟨0, 0⟩) (Sample.answersAt [0, 0]) c' ∧
    (received.map fun r => (r.id, r.status)) = [("r", -1)] ∧
    ∃ C : Club String String String, C.finder "p" = some "f" ∧
      PagesShow C "f" (c'.state.playsHanded.foldl MyPlaysViewController.didGet {}).shown
        (c'.state.playsHanded.foldl (MyFindersViewController.didGet (some "f")) {}).shown
        received sent := by
  have hpage : Arrival Sample.left.state.users Sample.left.state.plays
      (.getThisUserPlays (some "f")) (fun _ => ⟨0, 0⟩) (Sample.answersAt [0, 0]) _ :=
    ⟨.of_exec ⟨⟨rfl, rfl⟩, fun _ _ => rfl, fun _ _ => rfl, trivial⟩ rfl, rfl⟩
  obtain ⟨C, received, sent, -, hget, hpages⟩ := pages_of_serial
    (Sample.usersKeyed (by decide) rfl) (Sample.strings_of_get_users (by decide) rfl (by decide))
    (fun _ => rfl) (fun _ => rfl) Sample.run_leave rfl rfl hpage (fun _ => ⟨0, 0⟩) {} {}
  refine ⟨_, received, sent, rfl, hpage, ?_, C, ?_, hpages⟩
  · obtain ⟨rfl, -⟩ := Prod.mk.inj (Option.some.inj hget)
    rfl
  · exact (hpages.finders_iff "p").1 (by decide +kernel)

end Volleyer
