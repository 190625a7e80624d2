import Volleyer.Common.Refines
import Volleyer.Roster.Exact
import Volleyer.Roster.Fresh
import Volleyer.Roster.Sample

/-!
# The roster — cancelling from an old copy

`cancelRequest` takes the player off the lists when the copy it is given
says accepted, whatever is stored, and `updateRequest` puts the player on
them at each acceptance. With operations that do not overlap a player is in
the lists of a play as often as acceptances of their request stand
(`Counted`). So a cancellation leaves the play exactly when none stands, or
one does and the copy says accepted (`left_iff`).
-/

namespace Volleyer

variable {s s₀ : Server} {p f u r : String} {c c' : Config Server Task}
  {evs : List (Event Call Reply)} {e : Event Call Reply}

/-! ## What is claimed -/

/-- **The sender has left**: the request is cancelled and neither list
mentions the other. -/
def Left (s : Server) (request : PlayRequest) : Prop :=
  s.status request.id = some (-1) ∧
    (∀ l, s.playerInfo request.playId = some l → request.requestSenderId ∉ l) ∧
    ∀ l, s.myPlayList request.requestSenderId = some l → request.playId ∉ l

/-- What is called: requests for plays of somebody else, and acceptances,
denials and cancellations of them, each on a value loaded at any earlier
time. -/
def InfoCall (c : Config Server Task) : Call → Prop
  | .saveRequest play _ me _ _ => LoadedPlay c.seen play ∧ ∃ u, me = some u ∧ u ≠ play.finderId
  | .updateRequest request _ | .cancelRequest request => LoadedRequest c.seen request
  | _ => False

/-- One operation at a time, nothing failing. -/
def InfoScreen (c : Config Server Task) : Event Call Reply → Prop
  | .call a => c.pending = [] ∧ InfoCall c a
  | .answer _ r => r = .ok

/-- The operation a run is in, or has last finished. -/
def lastCall (evs : List (Event Call Reply)) : Option Call := (callsIn evs).getLast?

/-- How many acceptances of a request stand after a call: an acceptance is
one more, and a cancellation one less where its copy says accepted. -/
def stands (r : String) (k : ℕ) : Call → ℕ
  | .updateRequest request status => if request.id = r ∧ status = 99 then k + 1 else k
  | .cancelRequest request => if request.id = r ∧ request.status = 99 then k - 1 else k
  | _ => k

/-- **How many acceptances of a request stand** after some calls. -/
def standing (r : String) (calls : List Call) : ℕ := calls.foldl (stands r) 0

/-- **Each cancellation is of no more than its copy says**: where a request
for the play is cancelled, no acceptance of it stands, or one does and the
copy says accepted. -/
def CopiesAgree (p : String) (calls : List Call) : Prop :=
  ∀ n request, calls[n]? = some (.cancelRequest request) → request.playId = p →
    standing request.id (calls.take n) = 0 ∨
      standing request.id (calls.take n) = 1 ∧ request.status = 99

/-- A play whose only player is its finder, and no request for it among
those that are stored. -/
structure OnlyFinder (p f : String) (s : Server) : Prop where
  keyed : s.UsersKeyed
  stores : ∀ i, s.Stores i → i ∈ s.allocated
  finder : s.finderId p = some f
  roster : s.playerInfo p = some [f]
  requests : ∀ r d, s.requests.get r = some d → ∃ u q, d.string .requestSenderId = some u ∧
    d.string .playId = some q ∧ q ≠ p
  lists : ∀ u l, u ≠ f → s.myPlayList u = some l → p ∉ l

/-! ## The invariant -/

/-- How often the lists of a player and a play mention each other. -/
def Mentions (s : Server) (p u : String) (n : ℕ) : Prop :=
  (∀ l, s.playerInfo p = some l → l.count u = n) ∧
    ∀ l, s.myPlayList u = some l → l.count p = n

/-- **The lists count what stands**: a player is in the lists of the play as
often as `K` says of their request for it, and not without one. -/
structure Counted (p f : String) (K : String → ℕ) (s : Server) : Prop where
  known : ∀ r, (s.requests.get r).isSome → r ∈ s.allocated
  finder : s.finderId p = some f
  roster : (s.playerInfo p).isSome
  requests : ∀ r d, s.requests.get r = some d → ∃ u q, d.string .requestSenderId = some u ∧
    d.string .playId = some q ∧ (q = p → d.string .requestReceiverId = some f ∧ u ≠ f)
  unique : ∀ r r' d d', s.requests.get r = some d → s.requests.get r' = some d' →
    d.string .playId = some p → d'.string .playId = some p →
    d.string .requestSenderId = d'.string .requestSenderId → r = r'
  unsent : ∀ r, s.requests.get r = none → K r = 0
  mentions : ∀ r d u, s.requests.get r = some d → d.string .playId = some p →
    d.string .requestSenderId = some u → Mentions s p u (K r)
  others : ∀ u, u ≠ f → (∀ r d, s.requests.get r = some d → d.string .playId = some p →
    d.string .requestSenderId ≠ some u) → Mentions s p u 0

theorem OnlyFinder.counted (h : OnlyFinder p f s) : Counted p f (fun _ => 0) s := by
  have hnone : ∀ {r d}, s.requests.get r = some d → d.string .playId ≠ some p := by
    intro r d hd hp
    obtain ⟨u, q, -, hq, hqp⟩ := h.requests r d hd
    exact hqp (Option.some.inj (hq.symm.trans hp))
  refine ⟨fun r hr => h.stores r (Or.inr hr), h.finder, by rw [h.roster]; rfl, fun r d hd => ?_,
    fun r r' d d' hd _ hp => absurd hp (hnone hd), fun r _ => rfl,
    fun r d u hd hp => absurd hp (hnone hd), fun u hu _ => ⟨fun l hl => ?_, fun l hl => ?_⟩⟩
  · obtain ⟨u, q, hu, hq, hqp⟩ := h.requests r d hd
    exact ⟨u, q, hu, hq, fun heq => absurd heq hqp⟩
  · obtain rfl := Option.some.inj (h.roster.symm.trans hl)
    rw [List.count_eq_zero, List.mem_singleton]
    exact hu
  · exact List.count_eq_zero.2 (h.lists u l hu hl)

/-! ## Edits of the lists -/

/-- How often an edit leaves an element other than its own. -/
theorem count_callback_of_ne (e : ListEdit) {x y : String} (h : y ≠ x) (l : List String) :
    ((e.callback x l).getD l).count y = l.count y := by
  have herase : (l.erase x).count y = l.count y := List.count_erase_of_ne h
  cases e with
  | append => simp [h.symm]
  | remove => rw [ListEdit.callback_remove, Option.getD_some, herase]
  | removeFound =>
    rw [ListEdit.callback_removeFound_getD, ListEdit.callback_remove, Option.getD_some, herase]

/-- A status, and both lists of a player and a play, rewritten. -/
def settleRequest (s : Server) (e : ListEdit) (r p u : String) (n : ℤ) : Server :=
  ((s.updateRequest r [(.status, .int n)]).editUser e p u).editPlay e u p

section

variable {q v : String} {n : ℤ} {k : ℕ}

theorem playerInfo_settleRequest (s : Server) (e : ListEdit) (r q u : String) (n : ℤ) (p : String) :
    (settleRequest s e r q u n).playerInfo p =
      if p = q then (s.playerInfo q).map fun l => (e.callback u l).getD l else s.playerInfo p :=
  Server.playerInfo_editPlay _ e u q p

theorem myPlayList_settleRequest (s : Server) (e : ListEdit) (r q u : String) (n : ℤ) (v : String) :
    (settleRequest s e r q u n).myPlayList v =
      if v = u then (s.myPlayList u).map fun l => (e.callback q l).getD l else s.myPlayList v :=
  Server.myPlayList_editUser _ e q u v

/-- Other players' mentions stay, and those of other plays. -/
theorem Mentions.settleRequest_of_ne (h : Mentions s p v k) (e : ListEdit) (hne : p ≠ q ∨ v ≠ u) :
    Mentions (settleRequest s e r q u n) p v k := by
  refine ⟨fun l hl => ?_, fun l hl => ?_⟩
  · rw [playerInfo_settleRequest] at hl
    split at hl
    · rename_i hpq
      subst hpq
      obtain ⟨l', hl', rfl⟩ := Option.map_eq_some_iff.1 hl
      have hvu : v ≠ u := hne.resolve_left fun hn => hn rfl
      rw [count_callback_of_ne e hvu, h.1 l' hl']
    · exact h.1 l hl
  · rw [myPlayList_settleRequest] at hl
    split at hl
    · rename_i hvu
      subst hvu
      obtain ⟨l', hl', rfl⟩ := Option.map_eq_some_iff.1 hl
      have hpq : p ≠ q := hne.resolve_right fun hn => hn rfl
      rw [count_callback_of_ne e hpq, h.2 l' hl']
    · exact h.2 l hl

/-- An acceptance adds one mention to each list. -/
theorem Mentions.accept (h : Mentions s p u k) :
    Mentions (settleRequest s .append r p u n) p u (k + 1) := by
  refine ⟨fun l hl => ?_, fun l hl => ?_⟩
  · rw [playerInfo_settleRequest, if_pos rfl] at hl
    obtain ⟨l', hl', rfl⟩ := Option.map_eq_some_iff.1 hl
    simp [h.1 l' hl']
  · rw [myPlayList_settleRequest, if_pos rfl] at hl
    obtain ⟨l', hl', rfl⟩ := Option.map_eq_some_iff.1 hl
    simp [h.2 l' hl']

/-- A cancellation takes one away. -/
theorem Mentions.cancel (h : Mentions s p u k) :
    Mentions (settleRequest s .remove r p u n) p u (k - 1) := by
  refine ⟨fun l hl => ?_, fun l hl => ?_⟩
  · rw [playerInfo_settleRequest, if_pos rfl] at hl
    obtain ⟨l', hl', rfl⟩ := Option.map_eq_some_iff.1 hl
    rw [ListEdit.callback_remove, Option.getD_some, List.count_erase_self, h.1 l' hl']
  · rw [myPlayList_settleRequest, if_pos rfl] at hl
    obtain ⟨l', hl', rfl⟩ := Option.map_eq_some_iff.1 hl
    rw [ListEdit.callback_remove, Option.getD_some, List.count_erase_self, h.2 l' hl']

end

/-! ## Each operation keeps the invariant -/

namespace Counted

variable {n : ℤ} {d : Doc PlayRequestTitle} {K K' : String → ℕ}

/-- **A status rewritten**, and what the lists mention with it. -/
theorem of_status (h : Counted p f K s) (s' : Server)
    (hreq : s'.requests = (s.updateRequest r [(.status, .int n)]).requests)
    (hall : s'.allocated = s.allocated) (hfinder : s'.finderId p = s.finderId p)
    (hroster : (s'.playerInfo p).isSome) (hunsent : ∀ j, s.requests.get j = none → K' j = 0)
    (hmentions : ∀ j b v, s.requests.get j = some b → b.string .playId = some p →
      b.string .requestSenderId = some v → Mentions s' p v (K' j))
    (hothers : ∀ v, v ≠ f → (∀ j b, s.requests.get j = some b → b.string .playId = some p →
      b.string .requestSenderId ≠ some v) → Mentions s' p v 0) :
    Counted p f K' s' := by
  -- a request is there as before, and says the same but for its status
  have hsame : ∀ {j d}, s'.requests.get j = some d → ∃ b, s.requests.get j = some b ∧
      ∀ g, g ≠ .status → d.string g = b.string g := fun hd =>
    Server.exists_of_get_updateRequest (hreq ▸ hd)
  have hthere : ∀ {j b}, s.requests.get j = some b → ∃ d, s'.requests.get j = some d ∧
      ∀ g, g ≠ .status → d.string g = b.string g := by
    intro j b hb
    have hsome : (s'.requests.get j).isSome := by
      rw [hreq, Server.get_requests_updateRequest]
      split
      · rename_i hjr
        rw [← hjr, hb]
        rfl
      · rw [hb]
        rfl
    obtain ⟨d, hd⟩ := Option.isSome_iff_exists.1 hsome
    obtain ⟨b', hb', hdb⟩ := hsame hd
    obtain rfl := Option.some.inj (hb.symm.trans hb')
    exact ⟨d, hd, hdb⟩
  refine ⟨fun j hj => ?_, hfinder.trans h.finder, hroster, fun j d hd => ?_,
    fun j j' d d' hd hd' hp hp' hs => ?_, fun j hj => hunsent j ?_, fun j d v hd hp hv => ?_,
    fun v hv hnone => hothers v hv fun j b hb hp hbv => ?_⟩
  · obtain ⟨d, hd⟩ := Option.isSome_iff_exists.1 hj
    obtain ⟨b, hb, -⟩ := hsame hd
    rw [hall]
    exact h.known j (Option.isSome_iff_exists.2 ⟨b, hb⟩)
  · obtain ⟨b, hb, hdb⟩ := hsame hd
    rw [hdb _ (by simp), hdb _ (by simp), hdb _ (by simp)]
    exact h.requests j b hb
  · obtain ⟨b, hb, hdb⟩ := hsame hd
    obtain ⟨b', hb', hdb'⟩ := hsame hd'
    rw [hdb _ (by simp)] at hp hs
    rw [hdb' _ (by simp)] at hp' hs
    exact h.unique j j' b b' hb hb' hp hp' hs
  · rw [Option.eq_none_iff_forall_ne_some]
    intro b hb
    obtain ⟨d, hd, -⟩ := hthere hb
    rw [hj] at hd
    cases hd
  · obtain ⟨b, hb, hdb⟩ := hsame hd
    rw [hdb _ (by simp)] at hp hv
    exact hmentions j b v hb hp hv
  · obtain ⟨d, hd, hdb⟩ := hthere hb
    refine hnone j d hd ?_ ?_
    · rw [hdb _ (by simp), hp]
    · rw [hdb _ (by simp), hbv]

/-- **A status that goes with no edit** changes no count. -/
theorem setStatus (h : Counted p f K s) : Counted p f K (s.updateRequest r [(.status, .int n)]) :=
  h.of_status _ rfl rfl rfl h.roster h.unsent h.mentions h.others

/-- The finder and the roster stay where both lists are rewritten. -/
theorem frame_settleRequest (h : Counted p f K s) (e : ListEdit) (r q u : String) (n : ℤ) :
    (settleRequest s e r q u n).finderId p = s.finderId p ∧
      ((settleRequest s e r q u n).playerInfo p).isSome := by
  refine ⟨Server.finderId_editPlay _ e u q p, ?_⟩
  rw [playerInfo_settleRequest]
  split
  · rename_i hpq
    rw [Option.isSome_map, ← hpq]
    exact h.roster
  · exact h.roster

/-- **Both lists edited** for the sender and the play of a request: `g` is
what that does to a count. -/
theorem settle (h : Counted p f K s) {q : String} {e : ListEdit} {g : ℕ → ℕ}
    (hd : s.requests.get r = some d) (hu : d.string .requestSenderId = some u)
    (hq : d.string .playId = some q)
    (hedit : ∀ k, Mentions s p u k → Mentions (settleRequest s e r p u n) p u (g k)) :
    Counted p f (fun j => if j = r then g (K r) else K j) (settleRequest s e r q u n) := by
  obtain ⟨hfinder, hroster⟩ := h.frame_settleRequest e r q u n
  refine h.of_status _ rfl rfl hfinder hroster (fun j hj => ?_) (fun j b v hb hp hv => ?_)
    fun v hv hnone => ?_
  · rw [if_neg, h.unsent j hj]
    rintro rfl
    rw [hj] at hd
    cases hd
  · split
    · rename_i hjr
      subst hjr
      obtain rfl := Option.some.inj (hb.symm.trans hd)
      obtain rfl := Option.some.inj (hp.symm.trans hq)
      obtain rfl := Option.some.inj (hv.symm.trans hu)
      exact hedit _ (h.mentions j b v hb hp hv)
    · rename_i hjr
      refine (h.mentions j b v hb hp hv).settleRequest_of_ne e ?_
      by_cases hpq : p = q
      · subst hpq
        refine Or.inr fun hvu => hjr (h.unique j r b d hb hd hp hq ?_)
        rw [hv, hu, hvu]
      · exact Or.inl hpq
  · refine (h.others v hv hnone).settleRequest_of_ne e ?_
    by_cases hpq : p = q
    · subst hpq
      refine Or.inr fun hvu => hnone r d hd hq ?_
      rw [hu, hvu]
    · exact Or.inl hpq

/-- **A request sent keeps the invariant**: no acceptance of it stands, and
the check lets no second one of a sender through. -/
theorem saveRequest (h : Counted p f K s) {i : String} (hi : i ∉ s.allocated) (now : Date)
    {play : Play} (hfinder : play.id = p → play.finderId = f) (hu : u ≠ play.finderId) :
    Counted p f K (effect { s with allocated := i :: s.allocated }
      (.querySameRequest i (RequestDataManager.saveRequestData play (some u) now) play
        (some u))) := by
  set doc : Doc PlayRequestTitle :=
    Doc.setData (RequestDataManager.saveRequestData play (some u) now) with hdoc
  have hsame : Counted p f K { s with allocated := i :: s.allocated } :=
    ⟨fun j hj => List.mem_cons_of_mem _ (h.known j hj), h.finder, h.roster, h.requests, h.unique,
      h.unsent, h.mentions, h.others⟩
  rw [effect]
  split
  swap
  · exact hsame
  rename_i hsend
  have hget : ∀ j, (s.requests.set i doc).get j = if j = i then some doc else s.requests.get j :=
    fun j => Collection.get_set _ _ _ _
  have hnone : s.requests.get i = none := by
    rw [← Option.not_isSome_iff_eq_none]
    exact fun hs => hi (h.known i hs)
  have hold : ∀ {j e}, s.requests.get j = some e → (s.requests.set i doc).get j = some e := by
    intro j e he
    rw [hget, if_neg, he]
    rintro rfl
    rw [hnone] at he
    cases he
  -- nobody else's request for the play is from this sender
  have hnew : play.id = p → ∀ j e, s.requests.get j = some e → e.string .playId = some p →
      e.string .requestSenderId ≠ some u := by
    rintro rfl j e he hep heu
    obtain ⟨v, q, -, hq, hqp⟩ := h.requests j e he
    have hrec := (hqp (Option.some.inj (hq.symm.trans hep))).1
    have hmem : e ∈ (s.requestsOfPlay play.id).map Prod.snd :=
      List.mem_map.2 ⟨(j, e), Collection.mem_query.2 ⟨he, by simp [hep]⟩, rfl⟩
    have hpass := List.all_eq_true.1 hsend e hmem
    simp [heu, hrec, hfinder rfl] at hpass
  refine ⟨fun j hj => ?_, h.finder, h.roster, fun j d hd => ?_,
    fun j j' d d' hd hd' hp hp' hs => ?_, fun j hj => h.unsent j ?_, fun j d v hd hp hv => ?_,
    fun v hv hno => h.others v hv fun j d hd => hno j d (hold hd)⟩
  · change ((s.requests.set i doc).get j).isSome at hj
    rw [hget] at hj
    split at hj
    · rename_i hji
      exact hji ▸ List.mem_cons_self
    · exact List.mem_cons_of_mem _ (h.known j hj)
  · change (s.requests.set i doc).get j = some d at hd
    rw [hget] at hd
    split at hd
    · obtain rfl := Option.some.inj hd
      refine ⟨u, play.id, rfl, rfl, fun hpid => ⟨congrArg some (hfinder hpid), ?_⟩⟩
      rw [← hfinder hpid]
      exact hu
    · exact h.requests j d hd
  · change (s.requests.set i doc).get j = some d at hd
    change (s.requests.set i doc).get j' = some d' at hd'
    rw [hget] at hd hd'
    split at hd <;> split at hd'
    · rename_i hji hji'
      exact hji.trans hji'.symm
    · obtain rfl := Option.some.inj hd
      exact absurd hs.symm (hnew (Option.some.inj hp) j' d' hd' hp')
    · obtain rfl := Option.some.inj hd'
      exact absurd hs (hnew (Option.some.inj hp') j d hd hp)
    · exact h.unique j j' d d' hd hd' hp hp' hs
  · change (s.requests.set i doc).get j = none at hj
    rw [Option.eq_none_iff_forall_ne_some]
    intro e he
    rw [hold he] at hj
    cases hj
  · change (s.requests.set i doc).get j = some d at hd
    rw [hget] at hd
    split at hd
    · rename_i hji
      obtain rfl := Option.some.inj hd
      obtain rfl := Option.some.inj hv
      have hpid : play.id = p := Option.some.inj hp
      have hzero : Mentions s p u 0 := by
        refine h.others u ?_ (hnew hpid)
        rw [← hfinder hpid]
        exact hu
      rw [hji, h.unsent i hnone]
      exact hzero
    · exact h.mentions j d v hd hp hv

/-- **The sender has left** where the request is cancelled and no acceptance
stands. -/
theorem left_iff_none_stands (h : Counted p f K s) {request : PlayRequest}
    (hd : s.requests.get request.id = some d)
    (hu : d.string .requestSenderId = some request.requestSenderId)
    (hq : d.string .playId = some request.playId) (hqp : request.playId = p) :
    Left s request ↔ s.status request.id = some (-1) ∧ K request.id = 0 := by
  have hm : Mentions s request.playId request.requestSenderId (K request.id) := by
    rw [hqp]
    exact h.mentions _ d _ hd (hqp ▸ hq) hu
  refine and_congr_right fun _ => ⟨fun hleft => ?_, fun hzero => ?_⟩
  · obtain ⟨l, hl⟩ := Option.isSome_iff_exists.1 h.roster
    rw [← hqp] at hl
    rw [← hm.1 l hl]
    exact List.count_eq_zero.2 (hleft.1 l hl)
  · rw [hzero] at hm
    exact ⟨fun l hl => List.count_eq_zero.1 (hm.1 l hl), fun l hl => List.count_eq_zero.1 (hm.2 l hl)⟩

end Counted

/-! ## Copies -/

/-- Tasks that remove no request, and write of a play its roster alone. -/
def Task.Keeps : Task → Prop
  | .queryRequests _ | .deleteRequest _ | .setPlay _ _ _ | .updatePlay _ _ | .deletePlay _ => False
  | _ => True

/-- A run of the screens puts no other in flight. -/
theorem keeps_of_run (hrun : roster.Run InfoScreen (Config.start s₀) evs c) :
    ∀ t ∈ c.pending, t.Keeps := by
  refine hrun.forall_tasks (fun t ht => absurd ht List.not_mem_nil) ?_ ?_
  · intro c a s ts hok hi t ht
    cases a with
    | saveRequest play players me j now =>
      obtain ⟨-, rfl, rfl⟩ := allocate_eq_some.1 hi
      obtain rfl := List.mem_singleton.1 ht
      trivial
    | updateRequest request n =>
      obtain ⟨rfl, rfl⟩ := Prod.mk.inj (Option.some.inj hi)
      obtain rfl := List.mem_singleton.1 ht
      trivial
    | cancelRequest request =>
      obtain ⟨rfl, rfl⟩ := Prod.mk.inj (Option.some.inj hi)
      obtain rfl := List.mem_singleton.1 ht
      trivial
    | savePlay | updatePlay | deletePlay => exact hok.2.elim
  · intro c i x t ht _ _ t' ht'
    rcases mem_answer ht' with ⟨j, data, play, me, rfl, rfl⟩ | ⟨_, _, _, rfl⟩ | ⟨_, _, rfl⟩ |
      ⟨_, _, _, rfl⟩ | ⟨_, _, rfl⟩ | ⟨_, _, rfl, -⟩
    all_goals trivial

/-- **A request once stored stays**, and only its status changes. -/
theorem requests_kept (h₀ : ∀ i, s₀.Stores i → i ∈ s₀.allocated)
    (hrun : roster.Run InfoScreen (Config.start s₀) evs c) :
    ∀ s ∈ c.seen, ∀ r d, s.requests.get r = some d → ∃ d', c.state.requests.get r = some d' ∧
      ∀ g, g ≠ .status → d'.string g = d.string g := by
  have hall := hrun.strengthen (P := fun c => Fresh c ∧ ∀ t ∈ c.pending, t.Keeps)
    fun _ _ hr => ⟨fresh_of_run h₀ hr, keeps_of_run hr⟩
  refine hall.invariant (I := fun c => ∀ s ∈ c.seen, ∀ r d, s.requests.get r = some d →
    ∃ d', c.state.requests.get r = some d' ∧ ∀ g, g ≠ .status → d'.string g = d.string g)
    (fun s hs r d hd => ?_) fun c e c' ih he hs => ?_
  · obtain rfl := List.mem_singleton.1 hs
    exact ⟨d, hd, fun _ _ => rfl⟩
  obtain ⟨-, hf, hkeeps⟩ := he
  have hstep : ∀ r d, c.state.requests.get r = some d → ∃ d', c'.state.requests.get r = some d' ∧
      ∀ g, g ≠ .status → d'.string g = d.string g := by
    intro r d hd
    rcases Machine.step_cases hs with ⟨a, s, ts, rfl, hi, rfl⟩ | ⟨i, x, t, rfl, ht, rfl⟩
    · exact ⟨d, (issue_eq hi).2.2 ▸ hd, fun _ _ => rfl⟩
    · have hmem : t ∈ c.pending := List.mem_of_getElem? ht
      rw [roster_answer]
      rcases answer_requests c.state t x with hq | ⟨j, data, rfl, hq⟩ |
        ⟨request, n, -, -, -, hq⟩ | ⟨j, rfl, -⟩
      · exact ⟨d, hq ▸ hd, fun _ _ => rfl⟩
      · refine ⟨d, ?_, fun _ _ => rfl⟩
        rw [hq, Collection.get_set, if_neg, hd]
        rintro rfl
        exact hf.unused r (List.mem_filterMap.2 ⟨_, hmem, rfl⟩) c.state List.mem_cons_self
          (Or.inr (by rw [hd]; rfl))
      · rw [hq, Server.get_requests_updateRequest]
        split
        · rename_i hrr
          subst hrr
          rw [hd, Option.map_some]
          exact ⟨_, rfl, fun g hg => by simp [hg]⟩
        · exact ⟨d, hd, fun _ _ => rfl⟩
      · exact (hkeeps _ hmem).elim
  intro s hmem r d hd
  rw [Config.seen, Machine.step_past hs] at hmem
  rcases List.mem_cons.1 hmem with rfl | hmem
  · exact ⟨d, hd, fun _ _ => rfl⟩
  · obtain ⟨d₁, hd₁, h₁⟩ := ih s hmem r d hd
    obtain ⟨d₂, hd₂, h₂⟩ := hstep r d₁ hd₁
    exact ⟨d₂, hd₂, fun g hg => (h₂ g hg).trans (h₁ g hg)⟩

/-- **A play keeps its finder.** -/
theorem finder_kept (hrun : roster.Run InfoScreen (Config.start s₀) evs c) (p : String) :
    ∀ s ∈ c.seen, s.finderId p = s₀.finderId p := by
  refine hrun.forall_seen_of_runs (fun s hs => absurd hs List.not_mem_nil) fun evs c hr => ?_
  have hall := hr.strengthen (P := fun c => ∀ t ∈ c.pending, t.Keeps) fun _ _ hr => keeps_of_run hr
  refine hall.invariant (I := fun c => c.state.finderId p = s₀.finderId p) rfl
    fun c e c' ih he hs => ?_
  rw [← ih]
  rcases Machine.step_cases hs with ⟨a, s, ts, rfl, hi, rfl⟩ | ⟨i, x, t, rfl, ht, rfl⟩
  · rw [Server.finderId, Server.finderId, (issue_eq hi).2.1]
  · have hkeeps := he.2 t (List.mem_of_getElem? ht)
    rw [roster_answer, Server.finderId, Server.finderId]
    rcases answer_plays c.state t x with hp | ⟨_, _, _, rfl, -⟩ |
      ⟨j, data, rfl | ⟨l, rfl, rfl⟩, hp⟩ | ⟨_, rfl, -⟩
    · rw [hp]
    · exact hkeeps.elim
    · exact hkeeps.elim
    · rw [hp, Collection.get_modify]
      split
      · rename_i hj
        rw [hj]
        cases c.state.plays.get j <;> rfl
      · rfl
    · exact hkeeps.elim

/-- A copy of a play names the finder. -/
theorem finder_of_loaded (hrun : roster.Run InfoScreen (Config.start s₀) evs c) {play : Play}
    (hplay : LoadedPlay c.seen play) (hf : s₀.finderId play.id = some f) : play.finderId = f := by
  obtain ⟨s, hs, d, now, hd, hdec⟩ := hplay
  have hstored : d.string .finderId = some f := by
    rw [← hf, ← finder_kept hrun play.id s hs, Server.finderId, hd, Option.bind_some]
  rw [← hdec]
  simp only [decodePlay, hstored, Option.getD_some]

/-- A copy of a request names the sender and the play of the stored one. -/
theorem Counted.exists_doc {K : String → ℕ} (h : Counted p f K c.state) {request : PlayRequest}
    (hcopy : LoadedRequest c.seen request)
    (hkept : ∀ s ∈ c.seen, ∀ r d, s.requests.get r = some d → ∃ d',
      c.state.requests.get r = some d' ∧ ∀ g, g ≠ .status → d'.string g = d.string g) :
    ∃ d, c.state.requests.get request.id = some d ∧
      d.string .requestSenderId = some request.requestSenderId ∧
      d.string .playId = some request.playId := by
  obtain ⟨s, hs, hcur⟩ := hcopy
  obtain ⟨b, hb, hbu, hbp, -⟩ := hcur.exists_doc
  obtain ⟨d, hd, hdb⟩ := hkept s hs _ b hb
  obtain ⟨u, q, hu, hq, -⟩ := h.requests _ d hd
  rw [← hdb _ (by simp), hu, Option.getD_some] at hbu
  rw [← hdb _ (by simp), hq, Option.getD_some] at hbp
  exact ⟨d, hd, hbu ▸ hu, hbp ▸ hq⟩

namespace Counted

variable {K : String → ℕ} {request : PlayRequest} {d : Doc PlayRequestTitle}

/-- **An acceptance or a denial, played out.** -/
theorem updateRequest (h : Counted p f K s) (hd : s.requests.get request.id = some d)
    (hu : d.string .requestSenderId = some request.requestSenderId)
    (hq : d.string .playId = some request.playId) (n : ℤ) :
    Counted p f (fun r => stands r (K r) (.updateRequest request n))
      (effect s (.updateStatus request n)) := by
  by_cases h99 : n = 99
  · have heffect : effect s (.updateStatus request n) =
        settleRequest s .append request.id request.playId request.requestSenderId n := by
      simp only [effect, hd, if_pos h99]
      rfl
    have hcount : (fun r => stands r (K r) (.updateRequest request n)) =
        fun r => if r = request.id then K request.id + 1 else K r := by
      funext r
      by_cases hr : r = request.id
      · rw [if_pos hr, stands, if_pos ⟨hr.symm, h99⟩, hr]
      · rw [if_neg hr, stands, if_neg fun hn => hr hn.1.symm]
    rw [heffect, hcount]
    exact h.settle (g := (· + 1)) hd hu hq fun _ hm => hm.accept
  · have heffect : effect s (.updateStatus request n) =
        s.updateRequest request.id [(.status, .int n)] := by
      simp only [effect, hd, if_neg h99]
    have hcount : (fun r => stands r (K r) (.updateRequest request n)) = K := by
      funext r
      rw [stands, if_neg fun hn => h99 hn.2]
    rw [heffect, hcount]
    exact h.setStatus

/-- **A cancellation, played out.** -/
theorem cancelRequest (h : Counted p f K s) (hd : s.requests.get request.id = some d)
    (hu : d.string .requestSenderId = some request.requestSenderId)
    (hq : d.string .playId = some request.playId) :
    Counted p f (fun r => stands r (K r) (.cancelRequest request))
        (effect s (.cancelStatus request)) ∧
      ∃ d', (effect s (.cancelStatus request)).requests.get request.id = some d' ∧
        d'.string .requestSenderId = some request.requestSenderId ∧
        d'.string .playId = some request.playId ∧ d'.int .status = some (-1) := by
  have hstored : ∀ e, ∃ d', (settleRequest s e request.id request.playId request.requestSenderId
      (-1)).requests.get request.id = some d' ∧
        d'.string .requestSenderId = some request.requestSenderId ∧
        d'.string .playId = some request.playId ∧ d'.int .status = some (-1) := by
    intro e
    refine ⟨d.updateData [(.status, .int (-1))], ?_, ?_, ?_, rfl⟩
    · refine (Server.get_requests_updateRequest s request.id request.id (-1)).trans ?_
      rw [if_pos rfl, hd, Option.map_some]
    · simp [hu]
    · simp [hq]
  by_cases h99 : request.status = 99
  · have heffect : effect s (.cancelStatus request) =
        settleRequest s .remove request.id request.playId request.requestSenderId (-1) := by
      simp only [effect, hd, if_pos h99]
      rfl
    have hcount : (fun r => stands r (K r) (.cancelRequest request)) =
        fun r => if r = request.id then K request.id - 1 else K r := by
      funext r
      by_cases hr : r = request.id
      · rw [if_pos hr, stands, if_pos ⟨hr.symm, h99⟩, hr]
      · rw [if_neg hr, stands, if_neg fun hn => hr hn.1.symm]
    rw [heffect, hcount]
    exact ⟨h.settle (g := (· - 1)) hd hu hq fun _ hm => hm.cancel, hstored _⟩
  · have heffect : effect s (.cancelStatus request) =
        s.updateRequest request.id [(.status, .int (-1))] := by
      simp only [effect, hd, if_neg h99]
    have hcount : (fun r => stands r (K r) (.cancelRequest request)) = K := by
      funext r
      rw [stands, if_neg fun hn => h99 hn.2]
    rw [heffect, hcount]
    exact ⟨h.setStatus, hstored .remove⟩

end Counted

/-! ## Runs -/

theorem standing_append (r : String) (calls : List Call) (a : Call) :
    standing r (calls ++ [a]) = stands r (standing r calls) a := by
  rw [standing, List.foldl_append]
  rfl

/-- Nothing stands after a cancellation where its copy says what stood. -/
theorem standing_cancel {before : List Call} {request : PlayRequest} :
    standing request.id (before ++ [.cancelRequest request]) = 0 ↔
      standing request.id before = 0 ∨ standing request.id before = 1 ∧ request.status = 99 := by
  rw [standing_append, stands]
  split_ifs with h
  · omega
  · have h99 : request.status ≠ 99 := fun hn => h ⟨rfl, hn⟩
    simp [h99]

theorem lastCall_append_call (evs : List (Event Call Reply)) (a : Call) :
    lastCall (evs ++ [.call a]) = some a := by
  simp [lastCall]

theorem lastCall_append_answer (evs : List (Event Call Reply)) (i : ℕ) (x : Reply) :
    lastCall (evs ++ [.answer i x]) = lastCall evs := by
  simp [lastCall]

/-- A call of the screens puts one task in flight. -/
theorem InfoCall.pairwise {a : Call} (ha : InfoCall c a) {ts : List Task}
    (hi : issue c.state a = some (s, ts)) : ts.Pairwise Apart := by
  cases a with
  | saveRequest play players me i now =>
    obtain ⟨-, rfl, rfl⟩ := allocate_eq_some.1 hi
    exact List.pairwise_singleton _ _
  | updateRequest request n =>
    obtain ⟨rfl, rfl⟩ := Prod.mk.inj (Option.some.inj hi)
    exact List.pairwise_singleton _ _
  | cancelRequest request =>
    obtain ⟨rfl, rfl⟩ := Prod.mk.inj (Option.some.inj hi)
    exact List.pairwise_singleton _ _
  | savePlay | updatePlay | deletePlay => exact ha.elim

/-- **The lists count what stands** after the operation a run is in, played
out; and where that is a cancellation, the sender has left exactly when
nothing stands. -/
theorem counted_of_run (h₀ : OnlyFinder p f s₀)
    (hrun : roster.Run InfoScreen (Config.start s₀) evs c) :
    Counted p f (fun r => standing r (callsIn evs)) (c.settled effect) ∧
      ∀ request, lastCall evs = some (.cancelRequest request) → request.playId = p →
        (Left (c.settled effect) request ↔ standing request.id (callsIn evs) = 0) := by
  refine (settles.serial (I := fun evs s => Counted p f (fun r => standing r (callsIn evs)) s ∧
    ∀ request, lastCall evs = some (.cancelRequest request) → request.playId = p →
      (Left s request ↔ standing request.id (callsIn evs) = 0)) hrun rfl h₀.keyed
    ⟨h₀.counted, fun _ he => nomatch he⟩ (fun _ _ h => h.1) (fun _ _ _ h _ _ => h)
    (fun evs i r s h => ?_) fun evs c a s ts hr _ hg h hok hi => ?_).1
  · rw [lastCall_append_answer, callsIn_answer]
    exact h
  · have hkept := requests_kept h₀.stores hr
    obtain ⟨hcounted, -⟩ := h
    refine ⟨hg.issue hi, hok.2.pairwise hi, ?_⟩
    rw [callsIn_call, lastCall_append_call]
    simp only [standing_append]
    cases a with
    | saveRequest play players me i now =>
      obtain ⟨hnew, rfl, rfl⟩ := allocate_eq_some.1 hi
      obtain ⟨-, hplay, u, rfl, hu⟩ := hok
      refine ⟨hcounted.saveRequest hnew now (fun hp => ?_) hu, fun request he => nomatch he⟩
      exact finder_of_loaded hr hplay (hp ▸ h₀.finder)
    | updateRequest request n =>
      obtain ⟨rfl, rfl⟩ := Prod.mk.inj (Option.some.inj hi)
      obtain ⟨d, hd, hu, hq⟩ := hcounted.exists_doc hok.2 hkept
      exact ⟨hcounted.updateRequest hd hu hq n, fun request he => nomatch he⟩
    | cancelRequest request =>
      obtain ⟨rfl, rfl⟩ := Prod.mk.inj (Option.some.inj hi)
      obtain ⟨d, hd, hu, hq⟩ := hcounted.exists_doc hok.2 hkept
      obtain ⟨hcancel, d', hd', hu', hq', hstatus⟩ := hcounted.cancelRequest hd hu hq
      refine ⟨hcancel, fun request' he hqp => ?_⟩
      obtain rfl := Call.cancelRequest.inj (Option.some.inj he)
      refine (hcancel.left_iff_none_stands hd' hu' hq' hqp).trans (and_iff_right ?_)
      show (effect c.state (.cancelStatus request)).status request.id = _
      rw [Server.status, hd', Option.bind_some, hstatus]
    | savePlay | updatePlay | deletePlay => exact hok.2.elim

/-- **Cancelling leaves the play exactly where the copies agree.** In runs
of operations that do not overlap, each on a value loaded at any earlier
time, from a play with its finder only and no request, the sender has left
after every finished cancellation if and only if at each of them no
acceptance of the request stands, or one does and the copy says accepted. -/
theorem left_iff (h₀ : OnlyFinder p f s₀) (hrun : roster.Run InfoScreen (Config.start s₀) evs c)
    (hdone : c.pending = []) :
    (∀ evs₁ c₁ request, evs₁ <+: evs → roster.Run InfoScreen (Config.start s₀) evs₁ c₁ →
      c₁.pending = [] → lastCall evs₁ = some (.cancelRequest request) → request.playId = p →
      Left c₁.state request) ↔ CopiesAgree p (callsIn evs) := by
  constructor
  · intro hleft n request hn hqp
    have hfirst : (callsIn evs).take (n + 1) = (callsIn evs).take n ++ [.cancelRequest request] := by
      rw [List.take_add_one, hn]
      rfl
    obtain ⟨evs₁, c₁, hevs, hr₁, hdone₁, hcalls⟩ :=
      hrun.exists_quiet (fun _ _ he => he.1) hdone (List.take_prefix (n + 1) _)
    rw [hfirst] at hcalls
    have hlast : lastCall evs₁ = some (.cancelRequest request) := by
      rw [lastCall, hcalls, List.getLast?_append]
      rfl
    have hiff := (counted_of_run h₀ hr₁).2 request hlast hqp
    rw [Config.settled_of_pending_nil hdone₁, hcalls] at hiff
    exact standing_cancel.1 (hiff.1 (hleft _ _ _ hevs hr₁ hdone₁ hlast hqp))
  · intro hagree evs₁ c₁ request hevs hr₁ hdone₁ hlast hqp
    have hiff := (counted_of_run h₀ hr₁).2 request hlast hqp
    rw [Config.settled_of_pending_nil hdone₁] at hiff
    obtain ⟨before, hcalls⟩ := List.getLast?_eq_some_iff.1 hlast
    obtain ⟨after, hafter⟩ : callsIn evs₁ <+: callsIn evs := hevs.filterMap _
    rw [hcalls] at hiff hafter
    have hagrees := hagree before.length request (by simp [← hafter]) hqp
    rw [← hafter, List.append_assoc, List.take_left] at hagrees
    exact hiff.2 (standing_cancel.2 hagrees)

theorem Sample.onlyFinder : OnlyFinder "p" "f" Sample.onePlay where
  keyed := Sample.usersKeyed (by simp) rfl
  stores := Sample.mem_allocated_store
  finder := rfl
  roster := rfl
  requests r d hd := by cases hd
  lists u l hu hl := by
    obtain ⟨d, hd, hdl⟩ := Option.bind_eq_some_iff.1 hl
    obtain ⟨xs, hxs, rfl⟩ := Sample.get_users (by simp) hd
    obtain rfl : xs = l := Option.some.inj ((Value.asStrings_strings xs).symm.trans hdl)
    rcases List.mem_pair.1 hxs with he | he
    · exact absurd (Prod.mk.inj he).1 hu
    · rw [(Prod.mk.inj he).2]
      exact List.not_mem_nil

/-- A request is sent, accepted, and cancelled from a copy with a status;
`ends` are the callbacks of the cancellation. -/
def Sample.joinAndCancel (status : ℤ) (ends : List (Event Call Reply)) : List (Event Call Reply) :=
  .call (.saveRequest (Sample.play "p" ["f"]) [] (some "u") "r" ⟨0, 0⟩) :: .answer 0 .ok ::
    .answer 0 .ok :: .call (.updateRequest (Sample.request "r" "u" "p" 0) 99) :: .answer 0 .ok ::
    .answer 0 .ok :: .answer 0 .ok :: .answer 0 .ok :: .answer 0 .ok ::
    .call (.cancelRequest (Sample.request "r" "u" "p" status)) :: ends

/-- From the copy that says accepted the sender leaves. -/
theorem left_joinAndCancel : ∃ c, roster.exec (Config.start Sample.onePlay)
    (Sample.joinAndCancel 99 [.answer 0 .ok, .answer 1 .ok, .answer 0 .ok, .answer 0 .ok,
      .answer 0 .ok]) = some c ∧ Left c.state (Sample.request "r" "u" "p" 99) := by
  have hrun : roster.Run InfoScreen (Config.start Sample.onePlay)
      (Sample.joinAndCancel 99 [.answer 0 .ok, .answer 1 .ok, .answer 0 .ok, .answer 0 .ok,
        .answer 0 .ok]) _ :=
    .of_exec ⟨⟨rfl, ⟨_, List.mem_cons_self, _, ⟨0, 0⟩, rfl, rfl⟩, "u", rfl, by decide⟩, rfl, rfl,
      ⟨rfl, _, List.mem_cons_self, _, ⟨0, 0⟩, rfl, .inl rfl⟩, rfl, rfl, rfl, rfl, rfl,
      ⟨rfl, _, List.mem_cons_self, _, ⟨0, 0⟩, rfl, .inl rfl⟩, rfl, rfl, rfl, rfl, rfl, trivial⟩ rfl
  refine ⟨_, rfl, (left_iff Sample.onlyFinder hrun rfl).2 (fun n request hn _ => ?_) _ _ _
    List.prefix_rfl hrun rfl rfl rfl⟩
  -- one acceptance stands when the third call cancels
  match n, hn with
  | 2, hn =>
    obtain rfl := Call.cancelRequest.inj (Option.some.inj hn)
    exact Or.inr ⟨rfl, rfl⟩

/-- **From an older copy the sender stays**: it was loaded while the
request was pending, and the request is accepted before it is cancelled. -/
theorem not_left_joinAndCancel : ¬∀ (p f : String) (s₀ : Server) (evs : List (Event Call Reply))
    (c : Config Server Task) (request : PlayRequest), OnlyFinder p f s₀ →
    roster.Run InfoScreen (Config.start s₀) evs c → c.pending = [] →
    lastCall evs = some (.cancelRequest request) → request.playId = p → Left c.state request := by
  intro h
  have hrun : roster.Run InfoScreen (Config.start Sample.onePlay)
      (Sample.joinAndCancel 0 [.answer 0 .ok]) _ :=
    .of_exec ⟨⟨rfl, ⟨_, List.mem_cons_self, _, ⟨0, 0⟩, rfl, rfl⟩, "u", rfl, by decide⟩, rfl, rfl,
      ⟨rfl, _, List.mem_cons_self, _, ⟨0, 0⟩, rfl, .inl rfl⟩, rfl, rfl, rfl, rfl, rfl,
      ⟨rfl, _, List.mem_of_getElem? (i := 6) rfl, _, ⟨0, 0⟩, rfl, .inl rfl⟩, rfl, trivial⟩ rfl
  obtain ⟨-, hleft, -⟩ := h _ _ _ _ _ _ Sample.onlyFinder hrun rfl rfl rfl
  exact hleft ["f", "u"] rfl (by decide)

end Volleyer
