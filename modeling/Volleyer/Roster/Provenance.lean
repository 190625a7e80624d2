import Volleyer.Roster.Fresh
import Volleyer.Roster.Sample

/-!
# The roster — where its entries come from

Any number of clients issue any operations on values of any age, their
callbacks overlap, and any write may fail. Lists are then lost and
restored at will, but what a list can hold is bounded by the past: a
roster starts with its finder, and everybody else in it was accepted
into the play at some moment. `Traced` is what holds of the states so
far, `Task.Traced` what holds of a list still in flight.
-/

namespace Volleyer

variable {s : Server} {hist : List Server} {p u f : String}

/-! ## The past -/

/-- Some state so far seats `u` in `p`: a request of `u` for `p` was
stored with status `99`. -/
def AcceptedInto (hist : List Server) (p u : String) : Prop := ∃ s ∈ hist, ∃ r, s.seat p r = some u

/-- Some state so far has `p` with finder `f`. -/
def PublishedBy (hist : List Server) (p f : String) : Prop := ∃ s ∈ hist, s.finderId p = some f

/-- What puts a play in a user's list. -/
def Granted (hist : List Server) (p u : String) : Prop :=
  PublishedBy hist p u ∨ AcceptedInto hist p u

/-- Some state so far has the request `r`, of `u` for `p`. -/
def Sent (hist : List Server) (r u p : String) : Prop :=
  ∃ s ∈ hist, ∃ d, s.requests.get r = some d ∧ d.string .requestSenderId = some u ∧
    d.string .playId = some p

theorem AcceptedInto.cons (h : AcceptedInto hist p u) (s : Server) :
    AcceptedInto (s :: hist) p u := by
  obtain ⟨s', hs', h⟩ := h
  exact ⟨s', List.mem_cons_of_mem _ hs', h⟩

theorem PublishedBy.cons (h : PublishedBy hist p f) (s : Server) :
    PublishedBy (s :: hist) p f := by
  obtain ⟨s', hs', h⟩ := h
  exact ⟨s', List.mem_cons_of_mem _ hs', h⟩

theorem Granted.cons (h : Granted hist p u) (s : Server) : Granted (s :: hist) p u :=
  h.imp (fun h => h.cons s) fun h => h.cons s

theorem Sent.cons {r : String} (h : Sent hist r u p) (s : Server) : Sent (s :: hist) r u p := by
  obtain ⟨s', hs', h⟩ := h
  exact ⟨s', List.mem_cons_of_mem _ hs', h⟩

/-- A roster of `p` the past accounts for: its finder, then players
accepted into it. -/
def RosterTraced (hist : List Server) (p : String) (l : List String) : Prop :=
  ∃ f rest, l = f :: rest ∧ PublishedBy hist p f ∧ f ∉ rest ∧ ∀ v ∈ rest, AcceptedInto hist p v

/-- A list of `u` the past accounts for. -/
def ListTraced (hist : List Server) (u : String) (l : List String) : Prop :=
  ∀ p ∈ l, Granted hist p u

/-- A request of `u` for `p` that is not its finder's. -/
def SenderTraced (hist : List Server) (u p : String) : Prop := ∃ f, PublishedBy hist p f ∧ u ≠ f

theorem RosterTraced.cons {l : List String} (h : RosterTraced hist p l) (s : Server) :
    RosterTraced (s :: hist) p l := by
  obtain ⟨f, rest, hl, hf, hn, hrest⟩ := h
  exact ⟨f, rest, hl, hf.cons s, hn, fun v hv => (hrest v hv).cons s⟩

theorem ListTraced.cons {l : List String} (h : ListTraced hist u l) (s : Server) :
    ListTraced (s :: hist) u l :=
  fun p hp => (h p hp).cons s

theorem SenderTraced.cons (h : SenderTraced hist u p) (s : Server) :
    SenderTraced (s :: hist) u p := by
  obtain ⟨f, hf, hne⟩ := h
  exact ⟨f, hf.cons s, hne⟩

/-! ## What holds of the states so far -/

/-- **What clients call.** A request is sent by somebody for a play whose
finder is somebody else, as `AddPlayViewController` shows the button to
nobody else; values passed in were loaded at any earlier time. -/
def ClientCall (hist : List Server) : Call → Prop
  | .savePlay _ _ _ | .updatePlay _ | .deletePlay _ => True
  | .saveRequest play _ me _ _ => LoadedPlay hist play ∧ ∃ u, me = some u ∧ u ≠ play.finderId
  | .updateRequest request _ | .cancelRequest request => LoadedRequest hist request

/-- Any interleaving of what clients call; any answer may be a failure. -/
def Clients (c : Config Server Task) : Event Call Reply → Prop
  | .call a => ClientCall c.seen a
  | .answer _ _ => True

/-- **The states so far account for every list.** -/
structure Traced (hist : List Server) : Prop where
  plays : ∀ s ∈ hist, ∀ p d, s.plays.get p = some d → ∃ f l, d.string .finderId = some f ∧
    d.strings .playerInfo = some l ∧ RosterTraced hist p l
  lists : ∀ s ∈ hist, ∀ u l, s.myPlayList u = some l → ListTraced hist u l
  requests : ∀ s ∈ hist, ∀ r d, s.requests.get r = some d → ∃ u p,
    d.string .requestSenderId = some u ∧ d.string .playId = some p ∧ SenderTraced hist u p
  finder : ∀ p f f', PublishedBy hist p f → PublishedBy hist p f' → f = f'
  sent : ∀ r u p u' p', Sent hist r u p → Sent hist r u' p' → u = u' ∧ p = p'

/-- **The past accounts for what a task in flight will write.** -/
def Task.Traced (hist : List Server) : Task → Prop
  | .setPlay documentID data finderId => ∃ play now, finderId = play.finderId ∧
      data = FinderDataManager.savePlayData play documentID now
  | .updatePlay _ data => ∃ play, data = FinderDataManager.updatePlayData play
  | .querySameRequest _ data _ _ | .setRequest _ data => ∃ play u now,
      data = RequestDataManager.saveRequestData play (some u) now ∧ SenderTraced hist u play.id
  | .updateStatus request _ | .cancelStatus request =>
      Sent hist request.id request.requestSenderId request.playId
  | .getUsers edit playId userId => edit = .append → Granted hist playId userId
  | .setMyPlayList documentID myPlayList => ListTraced hist documentID myPlayList
  | .getPlay edit userId playId => SenderTraced hist userId playId ∧
      (edit = .append → AcceptedInto hist playId userId)
  | .setPlayerInfo documentID playInfo => RosterTraced hist documentID playInfo
  | .deletePlay _ | .queryRequests _ | .deleteRequest _ => True

/-- What accounts for a write goes on doing so. -/
theorem Task.Traced.cons {t : Task} (h : t.Traced hist) (s : Server) : t.Traced (s :: hist) := by
  cases t with
  | setPlay i data f => exact h
  | updatePlay p data => exact h
  | querySameRequest i data play me =>
    obtain ⟨play, u, now, hdata, hu⟩ := h
    exact ⟨play, u, now, hdata, hu.cons s⟩
  | setRequest i data =>
    obtain ⟨play, u, now, hdata, hu⟩ := h
    exact ⟨play, u, now, hdata, hu.cons s⟩
  | updateStatus request n => exact Sent.cons h s
  | cancelStatus request => exact Sent.cons h s
  | getUsers e p u => exact fun he => (h he).cons s
  | setMyPlayList u l => exact ListTraced.cons h s
  | getPlay e u p => exact ⟨h.1.cons s, fun he => (h.2 he).cons s⟩
  | setPlayerInfo p l => exact RosterTraced.cons h s
  | deletePlay p => trivial
  | queryRequests p => trivial
  | deleteRequest r => trivial

namespace Traced

/-- **One more state**, each part of which is accounted for by the states
before it and itself. -/
theorem cons (h : Traced hist) (s : Server)
    (hplays : ∀ p d, s.plays.get p = some d → ∃ f l, d.string .finderId = some f ∧
      d.strings .playerInfo = some l ∧ RosterTraced (s :: hist) p l ∧
      ∀ f', PublishedBy hist p f' → f = f')
    (hlists : ∀ u l, s.myPlayList u = some l → ListTraced hist u l)
    (hrequests : ∀ r d, s.requests.get r = some d → ∃ u p, d.string .requestSenderId = some u ∧
      d.string .playId = some p ∧ SenderTraced hist u p ∧
      ∀ u' p', Sent hist r u' p' → u = u' ∧ p = p') : Traced (s :: hist) where
  plays s' hs' p d hd := by
    rcases List.mem_cons.1 hs' with rfl | hs'
    · obtain ⟨f, l, hf, hl, hlt, -⟩ := hplays p d hd
      exact ⟨f, l, hf, hl, hlt⟩
    · obtain ⟨f, l, hf, hl, hlt⟩ := h.plays s' hs' p d hd
      exact ⟨f, l, hf, hl, hlt.cons s⟩
  lists s' hs' u l hl := by
    rcases List.mem_cons.1 hs' with rfl | hs'
    · exact (hlists u l hl).cons _
    · exact (h.lists s' hs' u l hl).cons s
  requests s' hs' r d hd := by
    rcases List.mem_cons.1 hs' with rfl | hs'
    · obtain ⟨u, p, hu, hp, hup, -⟩ := hrequests r d hd
      exact ⟨u, p, hu, hp, hup.cons _⟩
    · obtain ⟨u, p, hu, hp, hup⟩ := h.requests s' hs' r d hd
      exact ⟨u, p, hu, hp, hup.cons s⟩
  finder p f f' hf hf' := by
    have hnew : ∀ {g}, s.finderId p = some g → ∀ g', PublishedBy hist p g' → g = g' := by
      intro g hg
      obtain ⟨d, hd, hdg⟩ := Option.bind_eq_some_iff.1 hg
      obtain ⟨g₁, _, hg₁, -, -, huniq⟩ := hplays p d hd
      obtain rfl := Option.some.inj (hdg.symm.trans hg₁)
      exact huniq
    obtain ⟨s₁, hs₁, hf⟩ := hf
    obtain ⟨s₂, hs₂, hf'⟩ := hf'
    rcases List.mem_cons.1 hs₁ with rfl | hm₁ <;> rcases List.mem_cons.1 hs₂ with rfl | hm₂
    · exact Option.some.inj (hf.symm.trans hf')
    · exact hnew hf f' ⟨s₂, hm₂, hf'⟩
    · exact (hnew hf' f ⟨s₁, hm₁, hf⟩).symm
    · exact h.finder p f f' ⟨s₁, hm₁, hf⟩ ⟨s₂, hm₂, hf'⟩
  sent r u p u' p' hr hr' := by
    have hnew : ∀ {d v q}, s.requests.get r = some d → d.string .requestSenderId = some v →
        d.string .playId = some q → ∀ v' q', Sent hist r v' q' → v = v' ∧ q = q' := by
      intro d v q hd hv hq
      obtain ⟨v₁, q₁, hv₁, hq₁, -, huniq⟩ := hrequests r d hd
      obtain rfl := Option.some.inj (hv.symm.trans hv₁)
      obtain rfl := Option.some.inj (hq.symm.trans hq₁)
      exact huniq
    obtain ⟨s₁, hs₁, d, hd, hu, hp⟩ := hr
    obtain ⟨s₂, hs₂, d', hd', hu', hp'⟩ := hr'
    rcases List.mem_cons.1 hs₁ with rfl | hm₁ <;> rcases List.mem_cons.1 hs₂ with rfl | hm₂
    · obtain rfl := Option.some.inj (hd.symm.trans hd')
      exact ⟨Option.some.inj (hu.symm.trans hu'), Option.some.inj (hp.symm.trans hp')⟩
    · exact hnew hd hu hp u' p' ⟨s₂, hm₂, d', hd', hu', hp'⟩
    · obtain ⟨h1, h2⟩ := hnew hd' hu' hp' u p ⟨s₁, hm₁, d, hd, hu, hp⟩
      exact ⟨h1.symm, h2.symm⟩
    · exact h.sent r u p u' p' ⟨s₁, hm₁, d, hd, hu, hp⟩ ⟨s₂, hm₂, d', hd', hu', hp'⟩

/-- The plays of a state so far, found again. -/
theorem plays_of_mem (h : Traced hist) (hs : s ∈ hist) (s' : Server) {d : Doc PlayTitle}
    (hd : s.plays.get p = some d) : ∃ f l, d.string .finderId = some f ∧
      d.strings .playerInfo = some l ∧ RosterTraced (s' :: hist) p l ∧
      ∀ f', PublishedBy hist p f' → f = f' := by
  obtain ⟨f, l, hf, hl, hlt⟩ := h.plays s hs p d hd
  refine ⟨f, l, hf, hl, hlt.cons s', fun f' => h.finder p f f' ⟨s, hs, ?_⟩⟩
  rw [Server.finderId, hd, Option.bind_some, hf]

/-- The requests of a state so far, found again. -/
theorem requests_of_mem (h : Traced hist) (hs : s ∈ hist) {r : String} {d : Doc PlayRequestTitle}
    (hd : s.requests.get r = some d) : ∃ u p, d.string .requestSenderId = some u ∧
      d.string .playId = some p ∧ SenderTraced hist u p ∧
      ∀ u' p', Sent hist r u' p' → u = u' ∧ p = p' := by
  obtain ⟨u, p, hu, hp, hup⟩ := h.requests s hs r d hd
  exact ⟨u, p, hu, hp, hup, fun u' p' => h.sent r u p u' p' ⟨s, hs, d, hd, hu, hp⟩⟩

/-- A state that differs in its users. -/
theorem cons_users (h : Traced hist) (hs : s ∈ hist) {s' : Server} (hp : s'.plays = s.plays)
    (hr : s'.requests = s.requests)
    (hlists : ∀ u l, s'.myPlayList u = some l → ListTraced hist u l) : Traced (s' :: hist) :=
  h.cons s' (fun _ _ hd => h.plays_of_mem hs s' (hp ▸ hd)) hlists
    fun _ _ hd => h.requests_of_mem hs (hr ▸ hd)

/-- A state that differs in its plays. -/
theorem cons_plays (h : Traced hist) (hs : s ∈ hist) {s' : Server} (hu : s'.users = s.users)
    (hr : s'.requests = s.requests)
    (hplays : ∀ p d, s'.plays.get p = some d → ∃ f l, d.string .finderId = some f ∧
      d.strings .playerInfo = some l ∧ RosterTraced (s' :: hist) p l ∧
      ∀ f', PublishedBy hist p f' → f = f') : Traced (s' :: hist) := by
  refine h.cons s' hplays (fun u l hl => h.lists s hs u l ?_)
    fun _ _ hd => h.requests_of_mem hs (hr ▸ hd)
  rwa [Server.myPlayList, ← hu]

/-- A state that differs in its requests. -/
theorem cons_requests (h : Traced hist) (hs : s ∈ hist) {s' : Server} (hu : s'.users = s.users)
    (hp : s'.plays = s.plays)
    (hrequests : ∀ r d, s'.requests.get r = some d → ∃ u p, d.string .requestSenderId = some u ∧
      d.string .playId = some p ∧ SenderTraced hist u p ∧
      ∀ u' p', Sent hist r u' p' → u = u' ∧ p = p') : Traced (s' :: hist) := by
  refine h.cons s' (fun _ _ hd => h.plays_of_mem hs s' (hp ▸ hd))
    (fun u l hl => h.lists s hs u l ?_) hrequests
  rwa [Server.myPlayList, ← hu]

/-- A state that stores the same. -/
theorem cons_same (h : Traced hist) (hs : s ∈ hist) {s' : Server} (hu : s'.users = s.users)
    (hp : s'.plays = s.plays) (hr : s'.requests = s.requests) : Traced (s' :: hist) :=
  h.cons_requests hs hu hp fun _ _ hd => h.requests_of_mem hs (hr ▸ hd)

/-- A state with the requests of another, one status rewritten. -/
theorem cons_status (h : Traced hist) (hs : s ∈ hist) (r : String) (n : ℤ) :
    Traced (s.updateRequest r [(.status, .int n)] :: hist) := by
  refine h.cons_requests hs rfl rfl fun j d hd => ?_
  obtain ⟨b, hb, hbd⟩ := Server.exists_of_get_updateRequest hd
  rw [hbd _ (by simp), hbd _ (by simp)]
  exact h.requests_of_mem hs hb

/-- A state with the plays of another, some fields of one rewritten. -/
theorem cons_updatePlay (h : Traced hist) (hs : s ∈ hist) (q : String) (data : Fields PlayTitle)
    (hdata : ∀ b, s.plays.get q = some b → ∃ f l, (b.updateData data).string .finderId = some f ∧
      (b.updateData data).strings .playerInfo = some l ∧
      RosterTraced (s.updatePlay q data :: hist) q l ∧ ∀ f', PublishedBy hist q f' → f = f') :
    Traced (s.updatePlay q data :: hist) := by
  refine h.cons_plays hs rfl rfl fun p d hd => ?_
  rw [Server.updatePlay, Collection.get_modify] at hd
  split at hd
  · rename_i hpq
    subst hpq
    obtain ⟨b, hb, rfl⟩ := Option.map_eq_some_iff.1 hd
    exact hdata b hb
  · exact h.plays_of_mem hs _ hd

/-- **A play under a new id** is published by its finder, who is alone in
its roster. -/
theorem cons_setPlay (h : Traced hist) (hs : s ∈ hist) {i : String} {play : Play} {now : Date}
    (hnew : ∀ s ∈ hist, ¬s.Stores i) {s' : Server} (hu : s'.users = s.users)
    (hr : s'.requests = s.requests)
    (hp : s'.plays = s.plays.set i (Doc.setData (FinderDataManager.savePlayData play i now))) :
    Traced (s' :: hist) ∧ PublishedBy (s' :: hist) i play.finderId := by
  have hhere : PublishedBy (s' :: hist) i play.finderId := by
    refine ⟨s', List.mem_cons_self, ?_⟩
    rw [Server.finderId, hp, Collection.get_set_self]
    rfl
  refine ⟨h.cons_plays hs hu hr fun p d hd => ?_, hhere⟩
  rw [hp, Collection.get_set] at hd
  split at hd
  · rename_i hpi
    obtain rfl := Option.some.inj hd
    subst hpi
    refine ⟨play.finderId, [play.finderId], rfl, rfl,
      ⟨play.finderId, [], rfl, hhere, by simp, by simp⟩, ?_⟩
    rintro f' ⟨s', hs', hf'⟩
    obtain ⟨b, hb, -⟩ := Option.bind_eq_some_iff.1 hf'
    exact absurd (Or.inl (by rw [hb]; rfl)) (hnew s' hs')
  · exact h.plays_of_mem hs _ hd

/-- **A request under a new id** of somebody who is not the finder. -/
theorem cons_setRequest (h : Traced hist) (hs : s ∈ hist) {i : String} {play : Play} {now : Date}
    (hnew : ∀ s ∈ hist, ¬s.Stores i) (hsender : SenderTraced hist u play.id) {s' : Server}
    (hu : s'.users = s.users) (hp : s'.plays = s.plays)
    (hr : s'.requests = s.requests.set i
      (Doc.setData (RequestDataManager.saveRequestData play (some u) now))) :
    Traced (s' :: hist) := by
  refine h.cons_requests hs hu hp fun r d hd => ?_
  rw [hr, Collection.get_set] at hd
  split at hd
  · rename_i hri
    obtain rfl := Option.some.inj hd
    subst hri
    refine ⟨u, play.id, rfl, rfl, hsender, ?_⟩
    rintro u' p' ⟨s', hs', b, hb, -⟩
    exact absurd (Or.inr (by rw [hb]; rfl)) (hnew s' hs')
  · exact h.requests_of_mem hs hd

/-- **A request that was sent is accepted** by the write of its status. -/
theorem acceptedInto_of_status (h : Traced hist) (hs : s ∈ hist) {r : String}
    {d : Doc PlayRequestTitle} (hd : s.requests.get r = some d) (hr : Sent hist r u p) :
    AcceptedInto (s.updateRequest r [(.status, .int 99)] :: hist) p u := by
  obtain ⟨u', p', hu, hp, -, huniq⟩ := h.requests_of_mem hs hd
  obtain ⟨rfl, rfl⟩ := huniq _ _ hr
  refine ⟨_, List.mem_cons_self, r, Server.seat_eq_some.2
    ⟨d.updateData [(.status, .int 99)], ?_, ?_, ?_, ?_⟩⟩
  · rw [Server.get_requests_updateRequest, if_pos rfl, hd, Option.map_some]
  · simpa using hp
  · simp
  · simpa using hu

/-- A sender whose request was stored is not the finder. -/
theorem senderTraced_of_sent (h : Traced hist) {r : String} (hr : Sent hist r u p) :
    SenderTraced hist u p := by
  obtain ⟨s, hs, d, hd, hu, hp⟩ := hr
  obtain ⟨u', p', hu', hp', hup⟩ := h.requests s hs r d hd
  obtain rfl := Option.some.inj (hu.symm.trans hu')
  obtain rfl := Option.some.inj (hp.symm.trans hp')
  exact hup

/-- **What an edit leaves of a roster** is accounted for: no edit removes
the finder, who sent no request. -/
theorem rosterTraced_callback (h : Traced hist) {e : ListEdit} {v : String} {l l' : List String}
    (hl : RosterTraced hist p l) (hv : SenderTraced hist v p)
    (hacc : e = .append → AcceptedInto hist p v) (hl' : e.callback v l = some l') :
    RosterTraced hist p l' := by
  obtain ⟨f, rest, rfl, hf, hn, hrest⟩ := hl
  obtain ⟨g, hg, hvg⟩ := hv
  have hvf : v ≠ f := by rwa [← h.finder p g f hg hf]
  have herase : RosterTraced hist p ((f :: rest).erase v) := by
    rw [List.erase_cons_tail (by simpa using hvf.symm)]
    exact ⟨f, _, rfl, hf, fun hm => hn (List.mem_of_mem_erase hm),
      fun w hw => hrest w (List.mem_of_mem_erase hw)⟩
  cases e with
  | append =>
    obtain rfl := Option.some.inj hl'
    refine ⟨f, rest ++ [v], rfl, hf, ?_, fun w hw => ?_⟩
    · rw [List.mem_append, List.mem_singleton]
      exact fun hm => hm.elim hn fun hm => hvf hm.symm
    · rcases List.mem_append.1 hw with hw | hw
      · exact hrest w hw
      · exact List.mem_singleton.1 hw ▸ hacc rfl
  | remove =>
    rw [ListEdit.callback_remove, Option.some.injEq] at hl'
    exact hl' ▸ herase
  | removeFound =>
    rw [ListEdit.callback_removeFound] at hl'
    split at hl'
    · exact Option.some.inj hl' ▸ herase
    · cases hl'

/-- **The write of a status** starts list edits for a request it accepts
alone. -/
theorem answerOk_updateStatus (h : Traced hist) (hs : s ∈ hist) {request : PlayRequest} {n : ℤ}
    (hr : Sent hist request.id request.requestSenderId request.playId) :
    Traced ((answerOk s (.updateStatus request n)).1 :: hist) ∧
      ∀ t' ∈ (answerOk s (.updateStatus request n)).2,
        t'.Traced ((answerOk s (.updateStatus request n)).1 :: hist) := by
  cases hd : s.requests.get request.id with
  | none =>
    simp only [Volleyer.answerOk, hd]
    exact ⟨h.cons_same hs rfl rfl rfl, by simp⟩
  | some d =>
    simp only [Volleyer.answerOk, hd]
    refine ⟨h.cons_status hs _ _, fun t' ht' => ?_⟩
    split at ht'
    · rename_i h99
      subst h99
      have hacc := h.acceptedInto_of_status hs hd hr
      rcases List.mem_pair.1 ht' with rfl | rfl
      · exact fun _ => Or.inr hacc
      · exact ⟨(h.senderTraced_of_sent hr).cons _, fun _ => hacc⟩
    · cases ht'

/-- **The write of a withdrawal** starts removals. -/
theorem answerOk_cancelStatus (h : Traced hist) (hs : s ∈ hist) {request : PlayRequest}
    (hr : Sent hist request.id request.requestSenderId request.playId) :
    Traced ((answerOk s (.cancelStatus request)).1 :: hist) ∧
      ∀ t' ∈ (answerOk s (.cancelStatus request)).2,
        t'.Traced ((answerOk s (.cancelStatus request)).1 :: hist) := by
  cases hd : s.requests.get request.id with
  | none =>
    simp only [Volleyer.answerOk, hd]
    exact ⟨h.cons_same hs rfl rfl rfl, by simp⟩
  | some d =>
    simp only [Volleyer.answerOk, hd]
    refine ⟨h.cons_status hs _ _, fun t' ht' => ?_⟩
    split at ht'
    · rcases List.mem_pair.1 ht' with rfl | rfl
      · rintro ⟨⟩
      · refine ⟨(h.senderTraced_of_sent hr).cons _, ?_⟩
        rintro ⟨⟩
    · cases ht'

/-- **A successful answer keeps what the past accounts for.** -/
theorem answerOk (h : Traced hist) (hs : s ∈ hist) (hkeyed : s.UsersKeyed) {t : Task}
    (ht : t.Traced hist) (hnew : ∀ i, t.newId = some i → ∀ s ∈ hist, ¬s.Stores i) :
    Traced ((answerOk s t).1 :: hist) ∧
      ∀ t' ∈ (answerOk s t).2, t'.Traced ((answerOk s t).1 :: hist) := by
  cases t with
  | setPlay i data f =>
    obtain ⟨play, now, rfl, rfl⟩ := ht
    refine And.imp_right (fun hhere t' ht' => ?_) (h.cons_setPlay hs (hnew i rfl) rfl rfl rfl)
    obtain rfl := List.mem_singleton.1 ht'
    exact fun _ => Or.inl hhere
  | updatePlay q data =>
    obtain ⟨play, rfl⟩ := ht
    refine ⟨h.cons_updatePlay hs q _ fun b hb => ?_, by simp [Volleyer.answerOk]⟩
    -- neither the finder nor the roster is among the fields written
    obtain ⟨f, l, hf, hl, hrest⟩ := h.plays_of_mem hs _ hb
    exact ⟨f, l, hf, hl, hrest⟩
  | deletePlay q =>
    refine ⟨h.cons_plays hs rfl rfl fun p d hd => ?_, by simp [Volleyer.answerOk]⟩
    rw [Volleyer.answerOk, Collection.get_delete] at hd
    split at hd
    · cases hd
    · exact h.plays_of_mem hs _ hd
  | querySameRequest i data play me =>
    have hpass : Task.Traced (s :: hist) (.setRequest i data) := Task.Traced.cons ht s
    have hsame : Traced (s :: hist) := h.cons_same hs rfl rfl rfl
    rw [Volleyer.answerOk]
    split
    · exact ⟨hsame, by simpa using hpass⟩
    · split
      · exact ⟨hsame, by simpa using hpass⟩
      · exact ⟨hsame, by simp⟩
  | setRequest i data =>
    obtain ⟨play, u, now, rfl, hu⟩ := ht
    exact ⟨h.cons_setRequest hs (hnew i rfl) hu rfl rfl rfl, by simp [Volleyer.answerOk]⟩
  | updateStatus request n => exact h.answerOk_updateStatus hs ht
  | cancelStatus request => exact h.answerOk_cancelStatus hs ht
  | getUsers e p u =>
    rw [answerOk_getUsers (hkeyed.keyedAt _)]
    refine ⟨h.cons_same hs rfl rfl rfl, fun t' ht' => ?_⟩
    obtain ⟨l', hl', rfl⟩ := List.mem_map.1 ht'
    obtain ⟨l, hl, hcb⟩ := Option.bind_eq_some_iff.1 (Option.mem_toList.1 hl')
    intro q hq
    rcases ListEdit.mem_of_mem_callback hcb hq with hq | ⟨he, rfl⟩
    · exact (h.lists s hs u l hl q hq).cons s
    · exact (ht he).cons s
  | setMyPlayList u l =>
    refine ⟨h.cons_users hs rfl rfl fun v l' hl' => ?_, by simp [Volleyer.answerOk]⟩
    rw [Volleyer.answerOk, Server.myPlayList_updateUser] at hl'
    split at hl'
    · rename_i hvu
      obtain ⟨d, -, rfl⟩ := Option.map_eq_some_iff.1 hl'
      exact hvu ▸ ht
    · exact h.lists s hs v l' hl'
  | getPlay e v p =>
    refine ⟨h.cons_same hs rfl rfl rfl, fun t' ht' => ?_⟩
    rw [answerOk_getPlay] at ht'
    obtain ⟨l', hl', rfl⟩ := List.mem_map.1 ht'
    obtain ⟨l, hl, hcb⟩ := Option.bind_eq_some_iff.1 (Option.mem_toList.1 hl')
    obtain ⟨d, hd, hdl⟩ := Option.bind_eq_some_iff.1 hl
    obtain ⟨f, l₁, -, hl₁, htr⟩ := h.plays s hs p d hd
    obtain rfl := Option.some.inj (hdl.symm.trans hl₁)
    exact (h.rosterTraced_callback htr ht.1 ht.2 hcb).cons s
  | setPlayerInfo q l =>
    refine ⟨h.cons_updatePlay hs q _ fun b hb => ?_, by simp [Volleyer.answerOk]⟩
    obtain ⟨f, l', hf, -, -, huniq⟩ := h.plays_of_mem hs s hb
    exact ⟨f, l, by simpa using hf, by simp, RosterTraced.cons ht _, huniq⟩
  | queryRequests p =>
    refine ⟨h.cons_same hs rfl rfl rfl, fun t' ht' => ?_⟩
    obtain ⟨d, -, rfl⟩ := List.mem_map.1 ht'
    trivial
  | deleteRequest i =>
    refine ⟨h.cons_requests hs rfl rfl fun r d hd => ?_, by simp [Volleyer.answerOk]⟩
    rw [Volleyer.answerOk, Collection.get_delete] at hd
    split at hd
    · cases hd
    · exact h.requests_of_mem hs hd

/-- **Whatever a client calls, on what it has loaded**, the past accounts
for. -/
theorem issue (h : Traced hist) (hs : s ∈ hist) {a : Call} {s' : Server} {ts : List Task}
    (ha : ClientCall hist a) (hi : Volleyer.issue s a = some (s', ts)) :
    Traced (s' :: hist) ∧ ∀ t ∈ ts, t.Traced (s' :: hist) := by
  obtain ⟨hu, hp, hr⟩ := issue_eq hi
  refine ⟨h.cons_same hs hu hp hr, ?_⟩
  have hsent : ∀ {request}, LoadedRequest hist request →
      Sent (s' :: hist) request.id request.requestSenderId request.playId := by
    rintro request ⟨s₁, hs₁, hcur⟩
    obtain ⟨d, hd, hdu, hdp, -⟩ := hcur.exists_doc
    obtain ⟨u, p, hu, hp, -⟩ := h.requests s₁ hs₁ _ d hd
    rw [hu, Option.getD_some] at hdu
    rw [hp, Option.getD_some] at hdp
    exact Sent.cons ⟨s₁, hs₁, d, hd, hdu ▸ hu, hdp ▸ hp⟩ s'
  cases a with
  | savePlay play i now =>
    obtain ⟨-, rfl, rfl⟩ := allocate_eq_some.1 hi
    intro t ht
    obtain rfl := List.mem_singleton.1 ht
    exact ⟨play, now, rfl, rfl⟩
  | updatePlay play =>
    obtain ⟨rfl, rfl⟩ := Prod.mk.inj (Option.some.inj hi)
    intro t ht
    obtain rfl := List.mem_singleton.1 ht
    exact ⟨play, rfl⟩
  | deletePlay play =>
    obtain ⟨rfl, rfl⟩ := Prod.mk.inj (Option.some.inj hi)
    intro t ht
    rw [deletePlay_eq, List.mem_cons, List.mem_append, List.mem_singleton] at ht
    rcases ht with rfl | ht | rfl
    · trivial
    · obtain ⟨u, -, rfl⟩ := List.mem_map.1 ht
      exact fun he => nomatch he
    · trivial
  | saveRequest play players me i now =>
    obtain ⟨-, rfl, rfl⟩ := allocate_eq_some.1 hi
    obtain ⟨⟨s₁, hs₁, d, now', hd, hdec⟩, u, rfl, hu⟩ := ha
    obtain ⟨f, -, hf, -, -⟩ := h.plays s₁ hs₁ _ d hd
    have hplay : play.finderId = f := by
      rw [← hdec]
      simp only [decodePlay, hf, Option.getD_some]
    intro t ht
    obtain rfl := List.mem_singleton.1 ht
    refine ⟨play, u, now, rfl, f, PublishedBy.cons ⟨s₁, hs₁, ?_⟩ _, hplay ▸ hu⟩
    rw [Server.finderId, hd, Option.bind_some, hf]
  | updateRequest request n =>
    obtain ⟨rfl, rfl⟩ := Prod.mk.inj (Option.some.inj hi)
    intro t ht
    obtain rfl := List.mem_singleton.1 ht
    exact hsent ha
  | cancelRequest request =>
    obtain ⟨rfl, rfl⟩ := Prod.mk.inj (Option.some.inj hi)
    intro t ht
    obtain rfl := List.mem_singleton.1 ht
    exact hsent ha

end Traced

/-! ## Runs -/

/-- Users with empty lists, and nothing else. -/
theorem Traced.empty (hlists : ∀ u d, s.users.get u = some d → d.strings .myPlayList = some [])
    (hplays : ∀ p, s.plays.get p = none) (hrequests : ∀ r, s.requests.get r = none) :
    Traced [s] where
  plays s' hs' p d hd := by
    rw [List.mem_singleton.1 hs', hplays] at hd
    cases hd
  lists s' hs' u l hl p hp := by
    rw [List.mem_singleton.1 hs'] at hl
    obtain ⟨d, hd, hdl⟩ := Option.bind_eq_some_iff.1 hl
    obtain rfl := Option.some.inj ((hlists u d hd).symm.trans hdl)
    cases hp
  requests s' hs' r d hd := by
    rw [List.mem_singleton.1 hs', hrequests] at hd
    cases hd
  finder p f f' := by
    rintro ⟨s', hs', hf⟩
    rw [List.mem_singleton.1 hs', Server.finderId, hplays] at hf
    cases hf
  sent r u p u' p' := by
    rintro ⟨s', hs', d, hd, -⟩
    rw [List.mem_singleton.1 hs', hrequests] at hd
    cases hd

/-- **Every list entry comes from somewhere.** Any number of clients call
anything at any time on values of any age, and any answer may be a
failure. From users with empty lists, no plays and no requests, every
stored play's roster starts with its finder and goes on with players
accepted into it at some moment, and every play in a user's list is one
the user published or was accepted into. -/
theorem entries_of_run {s₀ : Server} {evs : List (Event Call Reply)} {c : Config Server Task}
    (hkeyed : s₀.UsersKeyed)
    (hlists : ∀ u d, s₀.users.get u = some d → d.strings .myPlayList = some [])
    (hplays : ∀ p, s₀.plays.get p = none) (hrequests : ∀ r, s₀.requests.get r = none)
    (hrun : roster.Run Clients (Config.start s₀) evs c) :
    (∀ p d, c.state.plays.get p = some d → ∃ f rest, d.string .finderId = some f ∧
      d.strings .playerInfo = some (f :: rest) ∧ ∀ v ∈ rest, AcceptedInto c.seen p v) ∧
    ∀ u d l, c.state.users.get u = some d → d.strings .myPlayList = some l →
      ∀ p ∈ l, PublishedBy c.seen p u ∨ AcceptedInto c.seen p u := by
  have hstores : ∀ i, s₀.Stores i → i ∈ s₀.allocated := by
    rintro i (hi | hi)
    · simp [hplays] at hi
    · simp [hrequests] at hi
  have hinv := (hrun.strengthen fun _ _ h => fresh_of_run hstores h).forall_pending
    (I := fun s past => Traced (s :: past) ∧ s.UsersKeyed)
    (J := fun s past t => t.Traced (s :: past))
    ⟨Traced.empty hlists hplays hrequests, hkeyed⟩ (by simp)
    (fun c a s ts hI hok hi => by
      obtain ⟨h1, h2⟩ := hI.1.issue List.mem_cons_self hok.1 hi
      exact ⟨⟨h1, hI.2.issue hi⟩, h2, fun t ht => ht.cons s⟩)
    (fun c i r t hI ht hok hti => by
      have hnew : ∀ i, t.newId = some i → ∀ s ∈ c.seen, ¬s.Stores i := fun i hi =>
        hok.2.unused i (List.mem_filterMap.2 ⟨t, List.mem_of_getElem? hti, hi⟩)
      have hboth : Traced ((answer c.state t r).1 :: c.seen) ∧
          ∀ t' ∈ (answer c.state t r).2, t'.Traced ((answer c.state t r).1 :: c.seen) := by
        cases r with
        | ok => exact hI.1.answerOk List.mem_cons_self hI.2 ht hnew
        | failed => exact ⟨hI.1.cons_same List.mem_cons_self rfl rfl rfl, by simp⟩
      exact ⟨⟨hboth.1, hI.2.answer t r⟩, hboth.2, fun t' ht' => ht'.cons _⟩)
  obtain ⟨⟨h, -⟩, -⟩ := hinv
  refine ⟨fun p d hd => ?_, fun u d l hd hl p hp => ?_⟩
  · obtain ⟨f, l, hf, hl, f', rest, rfl, hf', -, hrest⟩ := h.plays _ List.mem_cons_self p d hd
    have hff : f = f' := h.finder p f f' ⟨_, List.mem_cons_self, by
      rw [Server.finderId, hd, Option.bind_some, hf]⟩ hf'
    exact ⟨f, rest, hf, hff ▸ hl, hrest⟩
  · refine h.lists _ List.mem_cons_self u l ?_ p hp
    rw [Server.myPlayList, hd, Option.bind_some, hl]

/-- A request accepted twice from one copy, the two acceptances
overlapping and one write of a list failing. -/
def Sample.acceptedTwice : List (Event Call Reply) :=
  [.call (.savePlay (Sample.play "" []) "p" ⟨0, 0⟩), .answer 0 .ok, .answer 0 .ok, .answer 0 .ok,
    .call (.saveRequest (Sample.play "p" ["f"]) [] (some "u") "r" ⟨0, 0⟩), .answer 0 .ok,
    .answer 0 .ok, .call (.updateRequest (Sample.request "r" "u" "p" 0) 99), .answer 0 .ok,
    .call (.updateRequest (Sample.request "r" "u" "p" 0) 99), .answer 2 .ok, .answer 0 .ok,
    .answer 0 .ok, .answer 2 .failed, .answer 2 .ok, .answer 0 .ok, .answer 0 .ok, .answer 0 .ok,
    .answer 0 .ok]

/-- The player is in the roster twice, and was accepted into it. -/
theorem entries_acceptedTwice : ∃ c,
    roster.exec (Config.start Sample.twoUsers) Sample.acceptedTwice = some c ∧
      c.state.playerInfo "p" = some ["f", "u", "u"] ∧ AcceptedInto c.seen "p" "u" := by
  have hrun : roster.Run Clients (Config.start Sample.twoUsers) Sample.acceptedTwice _ :=
    .of_exec ⟨trivial, trivial, trivial, trivial,
      ⟨⟨_, List.mem_cons_self, _, ⟨0, 0⟩, rfl, rfl⟩, "u", rfl, by decide⟩, trivial, trivial,
      ⟨_, List.mem_cons_self, _, ⟨0, 0⟩, rfl, .inl rfl⟩, trivial,
      ⟨_, List.mem_of_getElem? (i := 1) rfl, _, ⟨0, 0⟩, rfl, .inl rfl⟩, trivial, trivial, trivial,
      trivial, trivial, trivial, trivial, trivial, trivial, trivial⟩ rfl
  have hends := entries_of_run (Sample.usersKeyed (by decide) rfl)
    (Sample.strings_of_get_users (by decide) rfl (by decide)) (fun _ => rfl) (fun _ => rfl) hrun
  obtain ⟨f, rest, -, hl, hrest⟩ := hends.1 "p" _ rfl
  have hl' : some ["f", "u", "u"] = some (f :: rest) := hl
  obtain ⟨-, rfl⟩ := List.cons.inj (Option.some.inj hl')
  exact ⟨_, rfl, rfl, hrest "u" List.mem_cons_self⟩

end Volleyer
