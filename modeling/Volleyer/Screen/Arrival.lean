import Volleyer.Common.StableSort
import Volleyer.Fetch.Arrival
import Volleyer.Roster.Sample
import Volleyer.Team.Button

/-!
# Two lists in the order of the answers

`getPlayersData` and `getThisUserPlays` append each record when its read
is answered. The one sorts what it has by gender, which leaves players of
one gender as they came; the other hands it over as it is. Neither puts
the records back in the order of the ids, so the screens show the order of
the answers, and the split takes its first eighteen from it.
-/

namespace Volleyer

variable {users : Collection String (Doc UserTitle)} {plays : Collection String (Doc PlayTitle)}
variable {now : String → Date} {ids : List String} {firebaseId : Option String}
variable {evs evs' : List (Event FetchEvent FetchReply)} {c c' : Config Fetches FetchTask}

/-! ## The screens -/

/-- **The screen of one's plays**: the plays, the rows last loaded from
them, and what stands in their place. -/
structure MyPlaysViewController where
  myPlays : List Play := []
  myPlaysTableView : List Play := []
  photoImageViewHidden : Bool := true
  noDataLabelHidden : Bool := true
  myPlaysTableViewHidden : Bool := false

namespace MyPlaysViewController

/-- `manager(_:didGet:)` -/
def didGet (vc : MyPlaysViewController) (plays : List Play) : MyPlaysViewController :=
  if plays.length = 0 then
    { vc with
      myPlays := plays
      photoImageViewHidden := false
      noDataLabelHidden := false
      myPlaysTableViewHidden := true }
  else
    { myPlays := plays
      myPlaysTableView := plays
      photoImageViewHidden := true
      noDataLabelHidden := true
      myPlaysTableViewHidden := false }

/-- The plays that can be seen. -/
def shown (vc : MyPlaysViewController) : List Play :=
  if vc.myPlaysTableViewHidden then [] else vc.myPlaysTableView

/-- A delivery is shown. -/
theorem shown_didGet (vc : MyPlaysViewController) (plays : List Play) :
    (vc.didGet plays).shown = plays := by
  unfold didGet shown
  split
  · rename_i hnil
    exact (List.length_eq_zero_iff.1 hnil).symm
  · rfl

end MyPlaysViewController

namespace MyFinderInfo

variable {s : MyFinderInfo} {l l' : List User}

/-- The screen after the completions of a call of `getPlayersData`. -/
def complete (s : MyFinderInfo) (handed : List (Option (List User))) : MyFinderInfo :=
  handed.foldl (fun s gotPlayers => (s.step (.getPlayersData gotPlayers)).getD s) s

/-- **Two screens that show the same**: the list of players, and the page
the button opens. -/
def Same (s s' : MyFinderInfo) : Prop :=
  s.players = s'.players ∧
    (s.step .randomTeamPage).map MyFinderInfo.pages =
      (s'.step .randomTeamPage).map MyFinderInfo.pages

theorem players_complete : (s.complete [some l]).players = l := by
  simp only [complete, List.foldl_cons, List.foldl_nil, step]
  split
  · rfl
  · rfl

/-- Screens show the same where the same players were handed over. -/
theorem same_complete_iff : (s.complete [some l]).Same (s.complete [some l']) ↔ l = l' := by
  constructor
  · rintro ⟨hplayers, -⟩
    rwa [players_complete, players_complete] at hplayers
  · rintro rfl
    exact ⟨rfl, rfl⟩

end MyFinderInfo

/-! ## What the calls hand over -/

/-- What the first call has handed over, of players. -/
def Fetches.playersHanded (s : Fetches) : List (Option (List User)) :=
  match s.calls.head? with
  | some ⟨.playersData, _, gather⟩ => gather.handed
  | _ => []

/-- What it has handed over, of one's plays. -/
def Fetches.playsHanded (s : Fetches) : List (List Play) :=
  match s.calls.head? with
  | some ⟨.thisUserPlays, _, gather⟩ => gather.lists
  | _ => []

/-- The player of an id. -/
def storedPlayer (users : Collection String (Doc UserTitle)) (id : String) : User :=
  decodeUser id ((users.get id).getD fun _ => none)

/-- The play of an id, read at `now` of it. -/
def storedPlay (plays : Collection String (Doc PlayTitle)) (now : String → Date) (id : String) :
    Play :=
  decodePlay id ((plays.get id).getD fun _ => none) (now id)

theorem storedPlayer_injective : Function.Injective (storedPlayer users) := fun _ _ h =>
  congrArg User.firebaseId h

theorem storedPlay_injective : Function.Injective (storedPlay plays now) := fun _ _ h =>
  congrArg Play.id h

/-- **The players of a call**, when their ids are all answered: one list,
sorted from the order of the answers. -/
theorem playersHanded_eq (hall : ∀ id ∈ ids, (users.get id).isSome)
    (h : Arrival users plays (.getPlayersData ids) now evs c) :
    (arrived users plays (.call (.getPlayersData ids) :: evs)).Perm ids ∧
      c.state.playersHanded = if ids = [] then [] else
        [some (sortByGender
          ((arrived users plays (.call (.getPlayersData ids) :: evs)).map (storedPlayer users)))] := by
  obtain ⟨⟨fetch, ids', gather⟩, hk, hbegun⟩ := exists_call rfl h
  obtain ⟨rfl, hids⟩ := Prod.mk.inj hbegun
  obtain rfl : ids' = ids := hids
  have htracked := (tracking_of_run h.run).tracked hk
  have hdone : c.pending.filterMap (FetchTask.asks 0) = [] := by rw [h.done, List.filterMap_nil]
  have hhanded : c.state.playersHanded = gather.handed := by
    unfold Fetches.playersHanded
    rw [List.head?_eq_getElem?, hk]
  rw [hhanded]
  by_cases hne : ids' = []
  · subst hne
    have hawaits := htracked.awaits
    rw [hdone] at hawaits
    have hperm := hawaits.perm_keys
    have hreads : reads .playersData 0 (fetches.answered (Config.start (Fetches.start users plays))
        (.call (.getPlayersData []) :: evs)) = [] := List.map_eq_nil_iff.1 (List.perm_nil.1 hperm)
    rw [if_pos rfl]
    refine ⟨hperm, ?_⟩
    rcases htracked.gather_cases with ⟨-, -, -, hnot, -⟩ | ⟨-, hgather⟩
    · exact absurd rfl hnot
    · dsimp only at hgather
      rw [hreads] at hgather
      rw [hgather]
      rfl
  · rw [if_neg hne]
    refine htracked.handed_of_found hdone hne (readFrom_of_run rfl h.run) fun id hid => ?_
    obtain ⟨document, hdoc⟩ := Option.isSome_iff_exists.1 (hall id hid)
    show (users.get id).map (decodeUser id) = some (storedPlayer users id)
    rw [storedPlayer, hdoc]
    rfl

/-- Every read of a user's document of the call is the one it began
with. -/
theorem fst_of_mem_userReads (h : Arrival users plays (.getThisUserPlays firebaseId) now evs c)
    (k : ℕ) : ∀ o ∈ userReads k (fetches.answered (Config.start (Fetches.start users plays))
      (.call (.getThisUserPlays firebaseId) :: evs)), o.1 = firebaseId.getD "" := by
  intro o ho
  have htasks := h.run.forall_answered (J := fun t => ∀ k documentID,
    t = .getUser k documentID → documentID = firebaseId.getD "") fun evs c hr =>
      hr.forall_tasks (by simp) (fun {c a s ts} hok hi t ht k documentID heq => ?_)
        fun {c i r t} _ _ _ t' ht' k documentID heq => ?_
  · obtain ⟨s, r, hx, -⟩ := mem_userReads ho
    exact htasks _ hx k o.1 rfl
  · obtain ⟨rfl, -⟩ := hok
    obtain ⟨-, rfl⟩ := Prod.mk.inj (Option.some.inj hi)
    rw [List.mem_singleton.1 ht] at heq
    exact (FetchTask.getUser.inj heq).2.symm
  · subst heq
    exfalso
    cases t with
    | getRecord k' id =>
      have hnil : (fetches.answer c.state (.getRecord k' id) r).2 = [] := by
        show (fetchAnswer c.state (.getRecord k' id) r).2 = []
        simp only [fetchAnswer]
        split
        · rfl
        · rfl
      rw [hnil] at ht'
      cases ht'
    | getUser k' d =>
      cases r with
      | failed => cases ht'
      | ok instant =>
        have hspawn : .getUser k documentID ∈
            (fetchAnswer c.state (.getUser k' d) (.ok instant)).2 := ht'
        simp only [fetchAnswer] at hspawn
        split at hspawn
        · obtain ⟨id, -, hid⟩ := List.mem_map.1 hspawn
          cases hid
        · cases hspawn

/-- **The plays of a call**, when the listed ids are all answered: one list,
in the order of the answers. -/
theorem playsHanded_eq {document : Doc UserTitle}
    (hget : users.get (firebaseId.getD "") = some document)
    (hlist : document.strings .myPlayList = some ids) (hall : ∀ id ∈ ids, (plays.get id).isSome)
    (h : Arrival users plays (.getThisUserPlays firebaseId) now evs c) :
    c.state.playsHanded = [(arrived users plays
      (.call (.getThisUserPlays firebaseId) :: evs)).map (storedPlay plays now)] := by
  obtain ⟨⟨fetch, ids', gather⟩, hk, hbegun⟩ := exists_call rfl h
  obtain ⟨rfl, -⟩ := Prod.mk.inj hbegun
  have htracked := (tracking_of_run h.run).tracked hk
  have hreadFrom := readFrom_of_run rfl h.run
  have hhanded : c.state.playsHanded = gather.lists := by
    unfold Fetches.playsHanded
    rw [List.head?_eq_getElem?, hk]
  have hdone : c.pending.filterMap (FetchTask.asks 0) = [] := by rw [h.done, List.filterMap_nil]
  -- the one read of the user's document finds the list
  have hopened := htracked.opened
  rw [h.done, List.filterMap_nil, List.length_nil, Nat.add_zero, if_neg (by simp)] at hopened
  obtain ⟨o, ho⟩ := List.length_eq_one_iff.1 hopened
  have hmem : o ∈ userReads 0 (fetches.answered (Config.start (Fetches.start users plays))
      (.call (.getThisUserPlays firebaseId) :: evs)) := by rw [ho]; exact List.mem_cons_self
  have hfound : o.2.bind (Fetch.listed .thisUserPlays) = some ids := by
    rw [userReads_of_readFrom hreadFrom 0 o hmem, fst_of_mem_userReads h 0 o hmem, hget]
    exact hlist
  have hids : ids' = ids := by
    have hlisted := htracked.listed (by simp)
    rw [ho, List.flatMap_cons, List.flatMap_nil, List.append_nil, Fetch.idsOf, hfound] at hlisted
    exact hlisted
  subst hids
  rw [hhanded, arrived, map_fst_reads .playersData .thisUserPlays]
  by_cases hne : ids' = []
  · rcases htracked.gather_cases with ⟨-, -, -, -, -, hreads, hgather⟩ | ⟨hnot, -⟩
    · dsimp only at hreads hgather
      rw [hgather, hreads]
      rfl
    · exact absurd (hfound.trans (congrArg some hne)) (hnot o hmem)
  · have hstored : ∀ id ∈ ids',
        Fetch.stored users plays now .thisUserPlays id = some (storedPlay plays now id) := by
      intro id hid
      obtain ⟨play, hplay⟩ := Option.isSome_iff_exists.1 (hall id hid)
      show (plays.get id).map (fun d => decodePlay id d (now id)) = some (storedPlay plays now id)
      rw [storedPlay, hplay]
      rfl
    have hhand := (htracked.handed_of_found hdone hne hreadFrom hstored).2
    dsimp only at hhand
    rw [Gather.lists, hhand]
    rfl

/-! ## What the screens show of them -/

/-- Two orders that agree on the players of each gender. -/
def AgreeByGender (users : Collection String (Doc UserTitle)) (ids ids' : List String) : Prop :=
  ∀ gender, (ids.filter fun id => decide ((storedPlayer users id).gender = gender)) =
    ids'.filter fun id => decide ((storedPlayer users id).gender = gender)

/-- The sort by gender forgets no more of the order than that. -/
theorem sortByGender_map_eq_iff {ids ids' : List String} :
    sortByGender (ids.map (storedPlayer users)) = sortByGender (ids'.map (storedPlayer users)) ↔
      AgreeByGender users ids ids' := by
  refine (@insertionSort_eq_iff User ℤ _ User.gender _ _).trans (forall_congr' fun gender => ?_)
  rw [List.filter_map, List.filter_map, (List.map_injective_iff.2 storedPlayer_injective).eq_iff]
  exact Iff.rfl

/-- Players of two genders may come in either order. -/
theorem agreeByGender_swap {id id' : String}
    (h : (storedPlayer users id).gender ≠ (storedPlayer users id').gender) :
    AgreeByGender users [id, id'] [id', id] := by
  intro gender
  by_cases hid : (storedPlayer users id).gender = gender
  · have hid' : ¬(storedPlayer users id').gender = gender := fun hid' => h (hid.trans hid'.symm)
    simp [hid, hid']
  · by_cases hid' : (storedPlayer users id').gender = gender
    · simp [hid, hid']
    · simp [hid, hid']

/-- **The players of a play, in two orders.** -/
theorem same_players_iff {now' : String → Date} (hall : ∀ id ∈ ids, (users.get id).isSome)
    (h : Arrival users plays (.getPlayersData ids) now evs c)
    (h' : Arrival users plays (.getPlayersData ids) now' evs' c') (s : MyFinderInfo) :
    (s.complete c.state.playersHanded).Same (s.complete c'.state.playersHanded) ↔
      AgreeByGender users (arrived users plays (.call (.getPlayersData ids) :: evs))
        (arrived users plays (.call (.getPlayersData ids) :: evs')) := by
  obtain ⟨hperm, hhanded⟩ := playersHanded_eq hall h
  obtain ⟨hperm', hhanded'⟩ := playersHanded_eq hall h'
  rw [hhanded, hhanded']
  by_cases hne : ids = []
  · subst hne
    rw [List.perm_nil.1 hperm, List.perm_nil.1 hperm']
    exact iff_of_true ⟨rfl, rfl⟩ fun _ => rfl
  · rw [if_neg hne, if_neg hne, MyFinderInfo.same_complete_iff]
    exact sortByGender_map_eq_iff

/-- **The plays of a list, in two orders.** -/
theorem same_plays_iff {document : Doc UserTitle}
    (hget : users.get (firebaseId.getD "") = some document)
    (hlist : document.strings .myPlayList = some ids) (hall : ∀ id ∈ ids, (plays.get id).isSome)
    (h : Arrival users plays (.getThisUserPlays firebaseId) now evs c)
    (h' : Arrival users plays (.getThisUserPlays firebaseId) now evs' c')
    (vc : MyPlaysViewController) :
    (c.state.playsHanded.foldl .didGet vc).shown = (c'.state.playsHanded.foldl .didGet vc).shown ↔
      arrived users plays (.call (.getThisUserPlays firebaseId) :: evs) =
        arrived users plays (.call (.getThisUserPlays firebaseId) :: evs') := by
  rw [playsHanded_eq hget hlist hall h, playsHanded_eq hget hlist hall h', List.foldl_cons,
    List.foldl_nil, List.foldl_cons, List.foldl_nil, MyPlaysViewController.shown_didGet,
    MyPlaysViewController.shown_didGet]
  exact (List.map_injective_iff.2 storedPlay_injective).eq_iff

/-- **The order of the answers is seen.** Two orders show the same players,
and open the same team page, exactly where those of each gender come in
one order. They show the same plays exactly where they are one order. -/
theorem same_iff_same_order (users : Collection String (Doc UserTitle))
    (plays : Collection String (Doc PlayTitle)) :
    (∀ ids now now' evs evs' c c' s, (∀ id ∈ ids, (users.get id).isSome) →
      Arrival users plays (.getPlayersData ids) now evs c →
      Arrival users plays (.getPlayersData ids) now' evs' c' →
      ((MyFinderInfo.complete s c.state.playersHanded).Same (s.complete c'.state.playersHanded) ↔
        AgreeByGender users (arrived users plays (.call (.getPlayersData ids) :: evs))
          (arrived users plays (.call (.getPlayersData ids) :: evs')))) ∧
    (∀ firebaseId document ids now evs evs' c c' vc,
      users.get (firebaseId.getD "") = some document →
      document.strings .myPlayList = some ids → (∀ id ∈ ids, (plays.get id).isSome) →
      Arrival users plays (.getThisUserPlays firebaseId) now evs c →
      Arrival users plays (.getThisUserPlays firebaseId) now evs' c' →
      ((c.state.playsHanded.foldl MyPlaysViewController.didGet vc).shown =
          (c'.state.playsHanded.foldl MyPlaysViewController.didGet vc).shown ↔
        arrived users plays (.call (.getThisUserPlays firebaseId) :: evs) =
          arrived users plays (.call (.getThisUserPlays firebaseId) :: evs'))) := by
  constructor
  · intro ids now now' evs evs' c c' s hall h h'
    exact same_players_iff hall h h' s
  · intro firebaseId document ids now evs evs' c c' vc hget hlist hall h h'
    exact same_plays_iff hget hlist hall h h' vc

namespace Sample

/-- The user document of a gender, and a list of plays. -/
def userOf (id : String) (gender : ℤ) (myPlayList : List String) : String × Doc UserTitle :=
  (id, Doc.setData [(.firebaseId, .string id), (.gender, .int gender),
    (.myPlayList, .strings myPlayList)])

/-- A finder of two plays, and players of two genders. -/
def twoGenders : Collection String (Doc UserTitle) :=
  ⟨[userOf "f" 0 ["p", "q"], userOf "u" 0 [], userOf "v" 1 [], userOf "w" 1 []], by decide⟩

/-- The two plays. -/
def twoPlays : Collection String (Doc PlayTitle) :=
  Sample.plays [Sample.play "p" [], Sample.play "q" []] (by decide)

/-- A call, and its reads answered in some order. -/
def answersAt (is : List ℕ) : List (Event FetchEvent FetchReply) :=
  is.map fun i => .answer i (.ok ⟨0, 0⟩)

end Sample

/-- Two players of two genders, answered in either order. -/
theorem same_in_any_order : ∃ c c',
    Arrival Sample.twoGenders Sample.twoPlays (.getPlayersData ["u", "v"]) (fun _ => ⟨0, 0⟩)
      (Sample.answersAt [0, 0]) c ∧
    Arrival Sample.twoGenders Sample.twoPlays (.getPlayersData ["u", "v"]) (fun _ => ⟨0, 0⟩)
      (Sample.answersAt [1, 0]) c' ∧
    ((MyFinderInfo.viewDidLoad []).complete c.state.playersHanded).Same
      ((MyFinderInfo.viewDidLoad []).complete c'.state.playersHanded) := by
  have hrun : Arrival Sample.twoGenders Sample.twoPlays (.getPlayersData ["u", "v"])
      (fun _ => ⟨0, 0⟩) (Sample.answersAt [0, 0]) _ :=
    ⟨.of_exec ⟨⟨rfl, rfl⟩, fun _ _ => rfl, fun _ _ => rfl, trivial⟩ rfl, rfl⟩
  have hrun' : Arrival Sample.twoGenders Sample.twoPlays (.getPlayersData ["u", "v"])
      (fun _ => ⟨0, 0⟩) (Sample.answersAt [1, 0]) _ :=
    ⟨.of_exec ⟨⟨rfl, rfl⟩, fun _ _ => rfl, fun _ _ => rfl, trivial⟩ rfl, rfl⟩
  have hiff := (same_iff_same_order Sample.twoGenders Sample.twoPlays).1 ["u", "v"] _ _ _ _ _ _
    (MyFinderInfo.viewDidLoad []) (by decide) hrun hrun'
  have hgender : (storedPlayer Sample.twoGenders "u").gender ≠
      (storedPlayer Sample.twoGenders "v").gender := by decide
  exact ⟨_, _, hrun, hrun', hiff.2 (agreeByGender_swap hgender)⟩

/-- Two of one gender, and two plays, change places with their answers. -/
theorem order_of_answers_seen :
    (∃ c c',
      Arrival Sample.twoGenders Sample.twoPlays (.getPlayersData ["v", "w"]) (fun _ => ⟨0, 0⟩)
        (Sample.answersAt [0, 0]) c ∧
      Arrival Sample.twoGenders Sample.twoPlays (.getPlayersData ["v", "w"]) (fun _ => ⟨0, 0⟩)
        (Sample.answersAt [1, 0]) c' ∧
      ¬((MyFinderInfo.viewDidLoad []).complete c.state.playersHanded).Same
        ((MyFinderInfo.viewDidLoad []).complete c'.state.playersHanded)) ∧
    ∃ c c',
      Arrival Sample.twoGenders Sample.twoPlays (.getThisUserPlays (some "f")) (fun _ => ⟨0, 0⟩)
        (Sample.answersAt [0, 0, 0]) c ∧
      Arrival Sample.twoGenders Sample.twoPlays (.getThisUserPlays (some "f")) (fun _ => ⟨0, 0⟩)
        (Sample.answersAt [0, 1, 0]) c' ∧
      (c.state.playsHanded.foldl MyPlaysViewController.didGet {}).shown ≠
        (c'.state.playsHanded.foldl MyPlaysViewController.didGet {}).shown := by
  constructor
  · refine ⟨_, _, ⟨.of_exec ⟨⟨rfl, rfl⟩, fun _ _ => rfl, fun _ _ => rfl, trivial⟩ rfl, rfl⟩,
      ⟨.of_exec ⟨⟨rfl, rfl⟩, fun _ _ => rfl, fun _ _ => rfl, trivial⟩ rfl, rfl⟩, ?_⟩
    rintro ⟨hplayers, -⟩
    exact absurd (congrArg (List.map User.firebaseId) hplayers) (by decide +kernel)
  · refine ⟨_, _, ⟨.of_exec ⟨⟨rfl, rfl⟩, fun _ _ => rfl, fun _ _ => rfl, fun _ _ => rfl, trivial⟩
        rfl, rfl⟩,
      ⟨.of_exec ⟨⟨rfl, rfl⟩, fun _ _ => rfl, fun _ _ => rfl, fun _ _ => rfl, trivial⟩ rfl, rfl⟩, ?_⟩
    intro h
    exact absurd (congrArg (List.map Play.id) h) (by decide +kernel)

end Volleyer
