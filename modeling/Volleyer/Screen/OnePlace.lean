import Volleyer.Roster.Sample
import Volleyer.Screen.Received

/-!
# The screen of received requests — one place per player

A button shows only on a cell drawn from a pending request, and a request
that a state of the run has pending was pending at the start. So whatever
is accepted was pending at the start, and while nothing is accepted twice
nobody has two places. The screen does let a request be accepted twice:
its rows keep the status they were delivered with, and a row drawn again
shows the buttons again.
-/

namespace Volleyer

variable {s₀ s : Server} {me : Option String} {request : PlayRequest}

/-- Lists are delivered as some state of the run had them, taps are taps
on what shows, and nothing fails. -/
def Showing (me : Option String) (c : Config Received Task) : Event ReceivedCall Reply → Prop
  | .call (.iReceive playRequests) => ∃ s ∈ c.seen, ∃ now,
      playRequests = RequestDataManager.playRequestsReceive s.server me now
  | .call _ => True
  | .answer _ r => r = .ok

/-- The requests a run on the screen accepts, in the order of the taps. -/
def accepted (evs : List (Event ReceivedCall Reply)) : List PlayRequest :=
  accepts (evs.filterMap (Event.lower ReceivedCall.updateRequest))

/-! ## Requests keep what they say -/

/-- **The requests of a later state**: those of an earlier one, changed in
the status only, and not back to pending. -/
def Derives (s₀ s : Server) : Prop :=
  ∀ i d, s.requests.get i = some d → ∃ d₀, s₀.requests.get i = some d₀ ∧
    (∀ f, f ≠ .status → d₀ f = d f) ∧ (d.int .status = some 0 → d₀.int .status = some 0)

/-- A value of a request the start stores: it says the same of the sender
and the play, and it is not pending where the stored one is not. -/
def Stems (s₀ : Server) (request : PlayRequest) : Prop :=
  ∃ r₀, CurrentRequest s₀ r₀ ∧ r₀.id = request.id ∧
    r₀.requestSenderId = request.requestSenderId ∧ r₀.playId = request.playId ∧
    (request.status = 0 → r₀.status = 0)

/-- The tasks the screen puts in flight. -/
def Task.Tapped : Task → Prop
  | .updateStatus _ status => status ≠ 0
  | .getUsers _ _ _ => True
  | .setMyPlayList _ _ => True
  | .getPlay _ _ _ => True
  | .setPlayerInfo _ _ => True
  | _ => False

theorem Derives.refl (s : Server) : Derives s s :=
  fun _ d hd => ⟨d, hd, fun _ _ => rfl, id⟩

/-- What a later state delivers stems from the start. -/
theorem Derives.stems (h : Derives s₀ s) (hr : CurrentRequest s request) : Stems s₀ request := by
  obtain ⟨d, now, hd, hdec⟩ := hr
  obtain ⟨d₀, hd₀, hsame, hstatus⟩ := h _ _ hd
  have hst : request.status = (d.int .status).getD 400 :=
    hdec.elim (fun h => (decodePlayRequestWith_eq_some h).2.2.2.2)
      fun h => (decodePlayRequestWith_eq_some h).2.2.2.2
  refine ⟨{ request with status := (d₀.int .status).getD 400 }, ⟨d₀, now, hd₀, ?_⟩, rfl, rfl, rfl,
    fun h0 => ?_⟩
  · exact hdec.imp (decodePlayRequestWith_of_eq hsame) (decodePlayRequestWith_of_eq hsame)
  · have h0' : d.int .status = some 0 := by
      rw [h0] at hst
      cases hn : d.int .status with
      | none => simp [hn] at hst
      | some n =>
        rw [hn, Option.getD_some] at hst
        rw [← hst]
    simp only [hstatus h0', Option.getD_some]

/-- **No tap makes a request pending.** -/
theorem Derives.answer (h : Derives s₀ s) {t : Task} (ht : t.Tapped) (r : Reply) :
    Derives s₀ (answer s t r).1 := by
  intro i d hd
  rcases answer_requests s t r with hq | ⟨j, data, rfl, -⟩ |
    ⟨request, n, rfl | ⟨rfl, -⟩, -, -, hq⟩ | ⟨j, rfl, -⟩
  · exact h i d (hq ▸ hd)
  · exact ht.elim
  · rw [hq, Server.get_requests_updateRequest] at hd
    by_cases hi : i = request.id
    · rw [if_pos hi, Option.map_eq_some_iff] at hd
      obtain ⟨b, hb, rfl⟩ := hd
      obtain ⟨d₀, hd₀, hsame, -⟩ := h _ b hb
      refine ⟨d₀, hi ▸ hd₀, fun f hf => ?_, fun h0 => ?_⟩
      · rw [hsame f hf, Doc.updateData_singleton_of_ne _ _ hf]
      · rw [Doc.int_updateData, if_pos rfl, Value.asInt_int, Option.some.injEq] at h0
        exact absurd h0 ht
    · rw [if_neg hi] at hd
      exact h i d hd
  · exact ht.elim
  · exact ht.elim

/-- A tap puts only such tasks in flight. -/
theorem tapped_answer {t t' : Task} (ht : t.Tapped) {r : Reply} (ht' : t' ∈ (answer s t r).2) :
    t'.Tapped := by
  rcases mem_answer ht' with ⟨_, _, _, _, rfl, -⟩ | ⟨_, _, _, rfl⟩ | ⟨_, _, rfl⟩ | ⟨_, _, _, rfl⟩ |
    ⟨_, _, rfl⟩ | ⟨_, _, rfl, -⟩
  · exact ht.elim
  · trivial
  · trivial
  · trivial
  · trivial
  · exact ht.elim

/-! ## What the screen shows -/

/-- **The screen shows requests of the start**, and offers those that were
pending then. -/
structure Shows (s₀ : Server) (screen : RequestsReceivedViewController) : Prop where
  rows : ∀ request ∈ screen.myRequests, Stems s₀ request
  cells : ∀ k, (screen.cells k).Offers (Stems s₀)

namespace Shows

variable {screen : RequestsReceivedViewController}

theorem start : Shows s₀ {} where
  rows := by simp
  cells _ _ _ hr := by cases hr

theorem setCell (h : Shows s₀ screen) {cell : RequestsTableViewCell} (k : ℕ)
    (hcell : cell.Offers (Stems s₀)) : Shows s₀ (screen.setCell k cell) where
  rows := h.rows
  cells j := by
    simp only [RequestsReceivedViewController.setCell, Function.update_apply]
    split
    · exact hcell
    · exact h.cells j

end Shows

/-- **What a call leaves**: the store as it was, a screen that shows
requests of the start, and tasks of taps. -/
theorem shows_of_issue {s s' : Received} {a : ReceivedCall} {ts : List Task}
    (h : Shows s₀ s.screen) (hi : received.issue s a = some (s', ts))
    (hdelivered : ∀ l, a = .iReceive l → ∀ request ∈ l, Stems s₀ request) :
    s'.server = s.server ∧ Shows s₀ s'.screen ∧ ∀ t ∈ ts, t.Tapped := by
  cases a with
  | iReceive l =>
    obtain ⟨rfl, rfl⟩ := Prod.mk.inj (Option.some.inj hi)
    exact ⟨rfl, ⟨hdelivered l rfl, h.cells⟩, by simp⟩
  | cellForRowAt row k =>
    obtain ⟨request, hrow, heq⟩ := Option.map_eq_some_iff.1 hi
    obtain ⟨rfl, rfl⟩ := Prod.mk.inj heq
    have hstems : Stems s₀ request := h.rows request (List.mem_of_getElem? hrow)
    exact ⟨rfl, h.setCell k (RequestsTableViewCell.offers_draw hstems), by simp⟩
  | acceptRequest k request | denyRequest k request =>
    obtain ⟨-, htap⟩ := Option.ite_none_right_eq_some.1 hi
    obtain ⟨rfl, rfl⟩ := Prod.mk.inj (Option.some.inj htap)
    refine ⟨rfl, h.setCell k (RequestsTableViewCell.offers_showOnly _), fun t ht => ?_⟩
    cases request with
    | none => cases ht
    | some request =>
      obtain rfl := List.mem_singleton.1 ht
      simp [Task.Tapped]

variable {evs : List (Event ReceivedCall Reply)} {c : Config Received Task}

/-- **Throughout a run** the screen shows requests of the start. -/
theorem shows_of_run (hrun : received.Run (Showing me) (Config.start ⟨s₀, {}⟩) evs c) :
    Shows s₀ c.state.screen := by
  have hinv := hrun.forall_pending
    (I := fun s past => (∀ s' ∈ s :: past, Derives s₀ s'.server) ∧ Shows s₀ s.screen)
    (J := fun _ _ t => t.Tapped) ⟨?_, .start⟩ (by simp) ?_ ?_
  · exact hinv.1.2
  · intro s' hs'
    obtain rfl := List.mem_singleton.1 hs'
    exact .refl s₀
  · rintro c a s ts ⟨hseen, hshows⟩ hok hi
    obtain ⟨hserver, hshows', hts⟩ := shows_of_issue hshows hi fun l ha request hr => by
      subst ha
      obtain ⟨s', hs', now, rfl⟩ := hok
      exact (hseen s' hs').stems (currentRequest_of_mem_receive hr)
    refine ⟨⟨fun s' hs' => ?_, hshows'⟩, hts, fun _ ht => ht⟩
    rcases List.mem_cons.1 hs' with rfl | hs'
    · rw [hserver]
      exact hseen _ List.mem_cons_self
    · exact hseen s' hs'
  · rintro c i r t ⟨hseen, hshows⟩ ht - -
    refine ⟨⟨fun s' hs' => ?_, hshows⟩, fun t' ht' => tapped_answer ht ht', fun _ ht => ht⟩
    rcases List.mem_cons.1 hs' with rfl | hs'
    · exact (hseen _ List.mem_cons_self).answer ht r
    · exact hseen s' hs'

/-! ## One place per player -/

/-- An acceptance is of a request that is pending at the start. -/
def Pending (s₀ : Server) : Call → Prop
  | .updateRequest request status => status = 99 → request.status = 0 ∧ Stems s₀ request
  | _ => False

/-- **A run on the screen is a run of the roster machine** that answers
requests only, and accepts those only that were pending at the start. -/
theorem roster_of_showing (hrun : received.Run (Showing me) (Config.start ⟨s₀, {}⟩) evs c) :
    ∃ c', roster.Run Updating (Config.start s₀)
        (evs.filterMap (Event.lower ReceivedCall.updateRequest)) c' ∧
      c'.state = c.state.server ∧
      ∀ request ∈ accepted evs, request.status = 0 ∧ Stems s₀ request := by
  have hshows := hrun.strengthen fun _ _ h => shows_of_run h
  have hlower : ∀ {c' c'' : Config Received Task} {c : Config Server Task} {e' e},
      Showing me c' e' ∧ Shows s₀ c'.state.screen → received.step c' e' = some c'' →
      c'.state.server = c.state → c.pending = c'.pending →
      e'.lower ReceivedCall.updateRequest = some e →
      Updating c e ∧ ∀ a, e = .call a → Pending s₀ a := by
    rintro c' c'' c e' e ⟨hok, hshow⟩ hs - - he
    cases e' with
    | answer i r =>
      obtain rfl := Option.some.inj he
      exact ⟨hok, fun a ha => by cases ha⟩
    | call a =>
      obtain ⟨b, hb, rfl⟩ := Option.map_eq_some_iff.1 he
      obtain ⟨s, ts, hi, -⟩ := Machine.step_call.1 hs
      cases a with
      | iReceive | cellForRowAt => cases hb
      | acceptRequest k request =>
        obtain ⟨request, rfl, rfl⟩ := Option.map_eq_some_iff.1 hb
        obtain ⟨⟨hshown, hcell⟩, -⟩ := Option.ite_none_right_eq_some.1 hi
        refine ⟨⟨request, 99, rfl⟩, fun a ha => ?_⟩
        cases ha
        exact fun _ => hshow.cells k (Or.inl hshown) request hcell
      | denyRequest k request =>
        obtain ⟨request, rfl, rfl⟩ := Option.map_eq_some_iff.1 hb
        refine ⟨⟨request, 1, rfl⟩, fun a ha => ?_⟩
        cases ha
        exact fun h => absurd h (by decide)
  obtain ⟨c', hrun', hstate, -⟩ :=
    received_simulates.run (show _ = (Config.start s₀ : Config Server Task).state from rfl) rfl
      hlower hshows
  refine ⟨c', hrun'.mono fun _ _ h => h.1, hstate.symm, fun request hr => ?_⟩
  obtain ⟨e, he, ha⟩ := List.mem_filterMap.1 hr
  cases e with
  | answer => cases ha
  | call a =>
    have hp := hrun'.forall_calls (P := Pending s₀) (fun _ a h => h.2 a rfl) a he
    cases a with
    | updateRequest r status =>
      obtain ⟨h99, hreq⟩ := Option.ite_none_right_eq_some.1 ha
      obtain rfl := Option.some.inj hreq
      exact hp h99
    | _ => cases ha

/-- **One place per player.** Of the requests stored at the start no two
share the sender and the play, and no pending one has its sender in the
play. Lists are delivered, cells drawn and drawn again, and buttons that
show tapped, in any order and with the updates overlapping. If no request
is accepted twice, nobody ever has two places. -/
theorem noDuplicates_of_showing (hkeyed : s₀.UsersKeyed) (h₀ : NoDuplicates s₀)
    (hdistinct : ∀ r r', CurrentRequest s₀ r → CurrentRequest s₀ r' →
      r.requestSenderId = r'.requestSenderId → r.playId = r'.playId → r.id = r'.id)
    (hpending : ∀ r, CurrentRequest s₀ r → r.status = 0 →
      r.requestSenderId ∉ (s₀.playerInfo r.playId).getD [] ∧
        r.playId ∉ (s₀.myPlayList r.requestSenderId).getD [])
    (hrun : received.Run (Showing me) (Config.start ⟨s₀, {}⟩) evs c)
    (honce : ((accepted evs).map PlayRequest.id).Nodup) : NoDuplicates c.state.server := by
  obtain ⟨c', hrun', hstate, haccepted⟩ := roster_of_showing hrun
  have hpairs : ((accepted evs).map fun q => (q.playId, q.requestSenderId)).Nodup := by
    rw [List.Nodup, List.pairwise_map] at honce ⊢
    refine honce.imp_of_mem fun {q q'} hq hq' hne heq => hne ?_
    obtain ⟨r, hr, hid, hsender, hplay, -⟩ := (haccepted q hq).2
    obtain ⟨r', hr', hid', hsender', hplay', -⟩ := (haccepted q' hq').2
    obtain ⟨hp, hu⟩ := Prod.mk.inj heq
    rw [← hid, ← hid']
    exact hdistinct r r' hr hr' (by rw [hsender, hsender', hu]) (by rw [hplay, hplay', hp])
  have hnew : ∀ q ∈ accepted evs, q.requestSenderId ∉ (s₀.playerInfo q.playId).getD [] ∧
      q.playId ∉ (s₀.myPlayList q.requestSenderId).getD [] := by
    intro q hq
    obtain ⟨h0, r, hr, -, hsender, hplay, hstatus⟩ := haccepted q hq
    have hr0 := hpending r hr (hstatus h0)
    rwa [hsender, hplay] at hr0
  rw [← hstate]
  exact noDuplicates_of_updating hkeyed h₀ hrun' hpairs (fun q hq => (hnew q hq).1)
    fun q hq => (hnew q hq).2

namespace Sample

theorem noDuplicates_oneRequest (n : ℤ) : NoDuplicates (oneRequest n) := by
  constructor
  · intro p l hl
    obtain ⟨d, hd, hl⟩ := Option.bind_eq_some_iff.1 hl
    obtain ⟨q, hq, he⟩ := List.mem_map.1 (Collection.get_eq_some_iff.1 hd)
    obtain rfl := List.mem_singleton.1 hq
    obtain ⟨rfl, rfl⟩ := Prod.mk.inj he
    obtain rfl : ["f"] = l := Option.some.inj hl
    simp
  · intro u l hl
    obtain ⟨d, hd, hl⟩ := Option.bind_eq_some_iff.1 hl
    obtain ⟨xs, hxs, rfl⟩ := get_users (by simp) hd
    obtain rfl : xs = l := Option.some.inj ((Value.asStrings_strings xs).symm.trans hl)
    simp only [List.mem_cons, Prod.mk.injEq, List.not_mem_nil, or_false] at hxs
    rcases hxs with ⟨-, rfl⟩ | ⟨-, rfl⟩ <;> simp

/-- What is delivered of the one request. -/
theorem currentRequest_oneRequest {n : ℤ} {r : PlayRequest} (h : CurrentRequest (oneRequest n) r) :
    r.id = "r" ∧ r.requestSenderId = "u" ∧ r.playId = "p" := by
  obtain ⟨d, hd, hsender, hplay, -⟩ := h.exists_doc
  obtain ⟨q, hq, hid, rfl⟩ := get_requests (by simp) hd
  obtain rfl := List.mem_singleton.1 hq
  exact ⟨hid.symm, hsender, hplay⟩

/-- The finder's screen is delivered the request, draws it and accepts it;
the update runs to its end. -/
def tapAccept : List (Event ReceivedCall Reply) :=
  [.call (.cellForRowAt 0 0), .call (.acceptRequest 0 (some (Sample.request "r" "u" "p" 0))),
    .answer 0 .ok, .answer 0 .ok, .answer 0 .ok, .answer 0 .ok, .answer 0 .ok]

/-- The list is delivered first. -/
def deliver (status : ℤ) : Event ReceivedCall Reply :=
  .call (.iReceive [Sample.request "r" "u" "p" status])

end Sample

/-- The list is delivered, the request accepted, and the list delivered
and drawn again. -/
theorem noDuplicates_tapAccept : ∃ c,
    received.exec (Config.start ⟨Sample.oneRequest 0, {}⟩) (Sample.deliver 0 :: Sample.tapAccept ++
      [Sample.deliver 99, .call (.cellForRowAt 0 0)]) = some c ∧
    c.state.server.playerInfo "p" = some ["f", "u"] ∧ NoDuplicates c.state.server := by
  have hrun : received.Run (Showing (some "f")) (Config.start ⟨Sample.oneRequest 0, {}⟩)
      (Sample.deliver 0 :: Sample.tapAccept ++ [Sample.deliver 99, .call (.cellForRowAt 0 0)]) _ :=
    .of_exec ⟨⟨_, List.mem_cons_self, ⟨0, 0⟩, rfl⟩, trivial, trivial, rfl, rfl, rfl, rfl, rfl,
      ⟨_, List.mem_cons_self, ⟨0, 0⟩, rfl⟩, trivial, trivial⟩ rfl
  refine ⟨_, rfl, rfl, noDuplicates_of_showing (Sample.usersKeyed (by simp) rfl)
    (Sample.noDuplicates_oneRequest 0) (fun r r' hr hr' _ _ => ?_) (fun r hr _ => ?_) hrun
    (by decide)⟩
  · rw [(Sample.currentRequest_oneRequest hr).1, (Sample.currentRequest_oneRequest hr').1]
  · obtain ⟨-, hsender, hplay⟩ := Sample.currentRequest_oneRequest hr
    rw [hsender, hplay]
    decide

/-- **A row drawn again can be accepted again**: the screen still holds
the copy that was pending, the buttons show, and the player is appended a
second time. -/
theorem not_noDuplicates : ¬∀ (me : Option String) (s₀ : Server)
    (evs : List (Event ReceivedCall Reply)) (c : Config Received Task), s₀.UsersKeyed →
    NoDuplicates s₀ →
    (∀ r r', CurrentRequest s₀ r → CurrentRequest s₀ r' →
      r.requestSenderId = r'.requestSenderId → r.playId = r'.playId → r.id = r'.id) →
    (∀ r, CurrentRequest s₀ r → r.status = 0 →
      r.requestSenderId ∉ (s₀.playerInfo r.playId).getD [] ∧
        r.playId ∉ (s₀.myPlayList r.requestSenderId).getD []) →
    received.Run (Showing me) (Config.start ⟨s₀, {}⟩) evs c → NoDuplicates c.state.server := by
  intro h
  have hrun : received.Run (Showing (some "f")) (Config.start ⟨Sample.oneRequest 0, {}⟩)
      (Sample.deliver 0 :: Sample.tapAccept ++ Sample.tapAccept) _ :=
    .of_exec ⟨⟨_, List.mem_cons_self, ⟨0, 0⟩, rfl⟩, trivial, trivial, rfl, rfl, rfl, rfl, rfl,
      trivial, trivial, rfl, rfl, rfl, rfl, rfl, trivial⟩ rfl
  have hnodup := h _ _ _ _ (Sample.usersKeyed (by simp) rfl) (Sample.noDuplicates_oneRequest 0)
    (fun r r' hr hr' _ _ => by
      rw [(Sample.currentRequest_oneRequest hr).1, (Sample.currentRequest_oneRequest hr').1])
    (fun r hr _ => by
      obtain ⟨-, hsender, hplay⟩ := Sample.currentRequest_oneRequest hr
      rw [hsender, hplay]
      decide) hrun
  have htwice : ["f", "u", "u"].Nodup := hnodup.1 "p" _ rfl
  exact absurd htwice (by decide)

end Volleyer
