import Volleyer.Account.Apart
import Volleyer.Roster.Linear
import Volleyer.Screen.Pages

/-!
# The club, served by all three managers

The roster serves its club whatever is done to accounts meanwhile
(`served_of_beside`): calls on plays and requests that are separate overlap
each other, and overlap any number of uploads, edits, removals and changes
of block lists, of any device, some of which fail. When none of the former
is under way, the store and the four pages of every member say what the
club says.
-/

namespace Volleyer

variable {w₀ : World} {s s' : Server} {a : Call} {evs : List (Event AccountCall Reply)}
variable {c c' : Config World (AccountCall × AccountTask)} {G : List UserTitle}

/-! ## Stores that differ in fields of accounts -/

/-- Collections that agree on every field store the same. -/
theorem Collection.Rel.get_eq {Field : Type} {docs docs' : Collection String (Doc Field)}
    (h : docs.Rel (AgreeOff []) docs') (i : String) : docs.get i = docs'.get i := by
  rcases h.get_cases i with ⟨hd, hd'⟩ | ⟨d, d', hd, hd', hagree⟩
  · rw [hd, hd']
  · rw [hd, hd', funext fun f => hagree f List.not_mem_nil]

/-- What is current in one is current in the other. -/
theorem CurrentCall.of_agree (h : CurrentCall s a) (hagree : s.Agree [] G s') :
    CurrentCall s' a := by
  have hplay : ∀ {play : Play}, CurrentPlay s play → CurrentPlay s' play := by
    rintro play ⟨d, now, hd, hdec⟩
    exact ⟨d, now, (hagree.plays.get_eq play.id).symm.trans hd, hdec⟩
  have hrequest : ∀ {request : PlayRequest},
      CurrentRequest s request → CurrentRequest s' request := by
    rintro request ⟨d, now, hd, hdec⟩
    exact ⟨d, now, hagree.requests ▸ hd, hdec⟩
  have hstatus : ∀ i, s'.status i = s.status i := fun i => by
    rw [Server.status, Server.status, hagree.requests]
  cases a with
  | savePlay play i now => trivial
  | updatePlay play => trivial
  | deletePlay play => exact hplay h
  | saveRequest play players me i now => exact ⟨hplay h.1, h.2⟩
  | updateRequest request n => exact ⟨hrequest h.1, (hstatus _).trans h.2.1, h.2.2⟩
  | cancelRequest request => exact ⟨hrequest h.1, hstatus request.id ▸ h.2⟩

/-- What one serves, the other does: the lists of plays are the same. -/
theorem Serves.of_agree {C : Club String String String} (h : Serves s' C) (hagree : s.Agree [] G s')
    (hG : .myPlayList ∉ G) : Serves s C where
  plays p := by
    rw [hagree.plays.get_eq p]
    exact h.plays p
  finder p := by
    rw [Server.finderId, hagree.plays.get_eq p]
    exact h.finder p
  roster p := by
    rw [Server.playerInfo, hagree.plays.get_eq p]
    exact h.roster p
  lists u d hd := by
    rcases hagree.users.get_cases u with ⟨hnone, -⟩ | ⟨d₁, d', hd₁, hd', hoff⟩
    · rw [hnone] at hd
      cases hd
    · obtain rfl := Option.some.inj (hd₁.symm.trans hd)
      rw [hoff.strings hG]
      exact h.lists u d' hd'
  requests i := by
    rw [hagree.requests]
    exact h.requests i
  application i := by
    rw [Server.application, hagree.requests]
    exact h.application i
  receiver i d a hd := h.receiver i d a (hagree.requests ▸ hd)
  players i d hd := h.players i d (hagree.requests ▸ hd)

/-! ## Runs -/

/-- **Calls on plays and requests beside any on accounts.** Those on plays
and requests are separate from those under way and on current values,
nothing of them fails, and whoever asks for a play is signed in until the
query is answered. -/
def BesideAccounts (c : Config World (AccountCall × AccountTask)) : Event AccountCall Reply → Prop
  | .call (.roster _ a) => CurrentCall c.state.server a ∧
      ∀ x ∈ c.pending, ∀ device b, x.1 = .roster device b → a.Separate b
  | .call a => a.Edits
  | .answer i r => ∀ x device t, c.pending[i]? = some x → x.2 = .roster device t →
      r = .ok ∧ x.2.StillAsks c.state

/-- The tasks in flight are each of a call of the same manager. -/
theorem asRoster_of_run
    {ok : Config World (AccountCall × AccountTask) → Event AccountCall Reply → Prop}
    (hrun : managers.tagged.Run ok (Config.start w₀) evs c) :
    ∀ x ∈ c.pending, x.1.asRoster = none → x.2.asRoster = none := by
  refine hrun.forall_tasks (fun x hx => absurd hx List.not_mem_nil) ?_ ?_
  · intro c a w ts _ hi x hx ha
    obtain ⟨⟨w₁, ts₁⟩, hi₁, heq⟩ := Option.map_eq_some_iff.1 hi
    obtain ⟨rfl, rfl⟩ := Prod.mk.inj heq
    obtain ⟨t, ht, rfl⟩ := List.mem_map.1 hx
    exact asRoster_of_accountIssue ha hi₁ t ht
  · intro c i r x hx _ _ y hy ha
    obtain ⟨t, ht, rfl⟩ := List.mem_map.1 hy
    exact asRoster_of_accountAnswer (hx ha) r t ht

/-- **A run beside accounts is a run of the roster**, of separate calls. -/
theorem overlapping_of_beside
    (hrun : managers.tagged.Run BesideAccounts (Config.start w₀) evs c) :
    ∃ evs' c', roster.tagged.Run Overlapping (Config.start w₀.server) evs' c' ∧
      HoldsAt (fun w s => w.server.Agree [] UserTitle.account s)
        (taggedTask AccountCall.asRoster AccountTask.asRoster) c c' ∧
      callsIn evs' = (callsIn evs).filterMap AccountCall.asRoster := by
  have hedits : ∀ {c e}, BesideAccounts c e → Machine.Calls AccountCall.Edits c.untag e := by
    rintro c e he a rfl
    cases a with
    | roster device a => trivial
    | saveProfileInfo device user documentID now => exact he
    | _ => trivial
  have hasked : ∀ {c e}, BesideAccounts c e → AskerSignedIn c.untag e := by
    intro c e he
    cases e with
    | call a => trivial
    | answer i r =>
      cases r with
      | failed => trivial
      | ok =>
        intro t ht
        obtain ⟨x, hx, rfl⟩ : ∃ x, c.pending[i]? = some x ∧ x.2 = t :=
          Option.map_eq_some_iff.1 (List.getElem?_map.symm.trans ht)
        rcases hroster : x.2.asRoster with _ | u
        · exact stillAsks_of_account hroster
        · obtain ⟨device, hu⟩ := AccountTask.asRoster_eq_some.1 hroster
          exact (he x device u hx hu).2
  have hholds : Holds managers.tagged roster.tagged
      (fun c e => BesideAccounts c e ∧ (∀ t ∈ c.untag.pending, t.From AccountCall.Edits) ∧
        ∀ x ∈ c.pending, x.1.asRoster = none → x.2.asRoster = none)
      (fun w s => w.server.Agree [] UserTitle.account s) AccountCall.asRoster
      (taggedTask AccountCall.asRoster AccountTask.asRoster) :=
    holds_roster.tagged (fun he => ⟨⟨hedits he.1, he.2.1⟩, hasked he.1⟩) fun he => he.2.2
  refine hholds.run ⟨.refl _ _ _, rfl⟩ ?_ ?_ (hrun.strengthen fun _ _ hr =>
    ⟨from_of_run (hr.mono fun c e he => hedits he).untag, asRoster_of_run hr⟩)
  · rintro c c' a b ⟨he, -⟩ hat hb
    obtain ⟨device, rfl⟩ := AccountCall.asRoster_eq_some.1 hb
    refine ⟨he.1.of_agree hat.state, fun y hy => ?_⟩
    rw [hat.pending] at hy
    obtain ⟨x, hx, hxy⟩ := List.mem_filterMap.1 hy
    obtain ⟨device', hcall⟩ := AccountCall.asRoster_eq_some.1 (taggedTask_eq_some.1 hxy).1
    exact he.2 x hx device' y.1 hcall
  · rintro c c' i j r x y ⟨he, -⟩ hat hx hxy -
    obtain ⟨device, htask⟩ := AccountTask.asRoster_eq_some.1 (taggedTask_eq_some.1 hxy).2
    exact (he x device y.2 hx htask).1

/-- **The club is served beside any accounts.** From users with empty
lists, no plays and no requests, let separate calls on plays and requests
overlap, together with any operations on accounts, callbacks in any order,
and nothing of the former fail. Then the operations of the former are
enabled one after the other; and whenever nothing of them is in flight the
store serves the club they lead to, and so do the four pages any member
opens. -/
theorem served_of_beside (hkeyed : w₀.server.UsersKeyed)
    (hlists : ∀ u d, w₀.server.users.get u = some d → d.strings .myPlayList = some [])
    (hplays : ∀ p, w₀.server.plays.get p = none) (hrequests : ∀ r, w₀.server.requests.get r = none)
    (hrun : managers.tagged.Run BesideAccounts (Config.start w₀) evs c)
    (hdone : ∀ x ∈ c.pending, x.2.asRoster = none) :
    ∃ C, ((callsIn evs).filterMap fun a => a.asRoster.bind clubOp).foldlM Club.step Club.empty =
        some C ∧ Serves c.state.server C ∧
      ∀ (u : String) (now : String → Date) (clock : String → Date) (vc : MyPlaysViewController)
        (vc' : MyFindersViewController) (answers : List (Event FetchEvent FetchReply))
        (page : Config Fetches FetchTask), (c.state.server.users.get u).isSome →
        Arrival c.state.server.users c.state.server.plays (.getThisUserPlays (some u)) now answers
          page →
        ∃ received sent,
          RequestDataManager.getPlayRequests (some u) clock c.state.server.requests.entries =
            some (received, sent) ∧
          PagesShow C u (page.state.playsHanded.foldl .didGet vc).shown
            (page.state.playsHanded.foldl (.didGet (some u)) vc').shown received sent := by
  obtain ⟨evs', c', hr, hat, hcalls⟩ := overlapping_of_beside hrun
  have hquiet : c'.pending = [] := by
    rw [hat.pending, List.filterMap_eq_nil_iff]
    exact fun x hx => taggedTask_eq_none (hdone x hx)
  obtain ⟨-, b, C, -, -, -, hsame, hC, accepted, hex, hm⟩ :=
    mirrors_of_separate hkeyed hlists hplays hrequests hr hquiet
  have hserves : Serves c.state.server C :=
    ((hm.serves hex).of_same hsame).of_agree hat.state (by decide)
  refine ⟨C, ?_, hserves, fun u now clock vc vc' answers page hu hpage =>
    hserves.pagesShow hu hpage vc vc'⟩
  rw [hcalls, List.filterMap_filterMap] at hC
  exact hC

/-- Two members, each on a device. -/
def Sample.members : World where
  server := twoUsers
  device n := { firebaseId := some (if n = 0 then "f" else "u") }

/-- Both publish a play at once, while one renames herself and the other
fails to block her; then the other asks for her play, and signs out while
the request is stored, and she is removed. -/
def Sample.busy : List (Event AccountCall Reply) :=
  [.call (.roster 0 (.savePlay (Sample.play "" []) "p" ⟨0, 0⟩)),
    .call (.updateProfileInfo 0 Sample.renamed),
    .call (.roster 1 (.savePlay (Sample.playOfOther "" []) "q" ⟨0, 0⟩)),
    .call (.addToBlocklist 1 "f"), .answer 0 .ok, .answer 2 .failed, .answer 2 .ok, .answer 0 .ok,
    .answer 0 .ok, .answer 1 .ok, .answer 1 .ok, .answer 0 .ok,
    .call (.roster 1 (.saveRequest (Sample.play "p" ["f"]) [] (some "u") "r" ⟨0, 0⟩)),
    .call (.removeThisuser 0 "f"), .answer 0 .ok, .call (.userDefaults 1 {}), .answer 1 .ok,
    .answer 0 .ok]

/-- Where it leads. -/
def Sample.afterBusy : Config World (AccountCall × AccountTask) :=
  (managers.tagged.exec (Config.start Sample.members) Sample.busy).getD
    (Config.start Sample.members)

/-- The two are separate, what fails is the read of a block list, and who
asks is signed in until the query is answered. -/
theorem Sample.run_busy :
    managers.tagged.Run BesideAccounts (Config.start Sample.members) Sample.busy
      Sample.afterBusy := by
  have hok : ∀ {c : Config World (AccountCall × AccountTask)} {i : ℕ}
      (x : AccountCall × AccountTask), c.pending[i]? = some x → x.2.StillAsks c.state →
      BesideAccounts c (.answer i .ok) := fun x hx hasks y device t hy _ => by
    obtain rfl := Option.some.inj (hx.symm.trans hy)
    exact ⟨rfl, hasks⟩
  refine .of_exec ⟨⟨trivial, List.forall_mem_nil _⟩, trivial, ⟨trivial, ?_⟩, trivial,
    hok _ rfl trivial, ?_, hok _ rfl trivial, hok _ rfl trivial, hok _ rfl trivial,
    hok _ rfl trivial, hok _ rfl trivial, hok _ rfl trivial,
    ⟨⟨⟨_, ⟨0, 0⟩, rfl, rfl⟩, "u", rfl, by decide⟩, List.forall_mem_nil _⟩, trivial,
    hok _ rfl rfl, trivial, hok _ rfl trivial, hok _ rfl trivial, trivial⟩ rfl
  · refine List.forall_mem_cons.2 ⟨?_, List.forall_mem_singleton.2 fun device b hb => ?_⟩
    · intro device b hb
      obtain ⟨-, rfl⟩ := AccountCall.roster.inj hb
      exact ⟨by decide, by decide⟩
    · cases hb
  · intro x device t hx ht
    obtain rfl : (AccountCall.addToBlocklist 1 "f", AccountTask.getBlockList 1 .add "u" "f") = x :=
      Option.some.inj hx
    cases ht

/-- The one who renamed herself finds her play on her pages. -/
theorem served_busy : ∃ C page received sent,
    managers.tagged.exec (Config.start Sample.members) Sample.busy = some Sample.afterBusy ∧
    [ClubOp.post "p" "f", .post "q" "u", .apply "r" "u" "p"].foldlM Club.step
      (Club.empty : Club String String String) = some C ∧
    C.roster "p" = some ["f"] ∧ Serves Sample.afterBusy.state.server C ∧
    Arrival Sample.afterBusy.state.server.users Sample.afterBusy.state.server.plays
      (.getThisUserPlays (some "f")) (fun _ => ⟨0, 0⟩) (Sample.answersAt [0, 0]) page ∧
    PagesShow C "f" (page.state.playsHanded.foldl MyPlaysViewController.didGet {}).shown
      (page.state.playsHanded.foldl (MyFindersViewController.didGet (some "f")) {}).shown
      received sent := by
  have hpage : Arrival Sample.afterBusy.state.server.users Sample.afterBusy.state.server.plays
      (.getThisUserPlays (some "f")) (fun _ => ⟨0, 0⟩) (Sample.answersAt [0, 0]) _ :=
    ⟨.of_exec ⟨⟨rfl, rfl⟩, fun _ _ => rfl, fun _ _ => rfl, trivial⟩ rfl, rfl⟩
  obtain ⟨C, hC, hserves, hpages⟩ := served_of_beside (Sample.usersKeyed (by decide) rfl)
    (Sample.strings_of_get_users (by decide) rfl (by decide)) (fun _ => rfl) (fun _ => rfl)
    Sample.run_busy (List.forall_mem_nil _)
  obtain ⟨received, sent, -, hshow⟩ :=
    hpages "f" (fun _ => ⟨0, 0⟩) (fun _ => ⟨0, 0⟩) {} {} _ _ rfl hpage
  exact ⟨C, _, received, sent, rfl, hC, (hserves.roster "p").symm, hserves, hpage, hshow⟩

end Volleyer
