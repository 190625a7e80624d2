import Volleyer.App.Screens
import Volleyer.Feed.Visible
import Volleyer.Roster.Origins

/-!
# The app — who may change what

The store checks nothing: any client could accept any request. That only
those concerned do so is a matter of the screens, which keep to it over
whole runs of all the devices, whatever is delivered late and whatever
fails: whoever calls a manager is the finder of the play, the receiver of
the request or its sender, as stored (`authorized_of_run`).
-/

namespace Volleyer

variable {texts : Texts} {account : ℕ → String} {hist hist' : List Server} {me p f r : String}
variable {s₀ s : Server} {c : Config App Task} {evs : List (Event AppCall Reply)}
variable {a : AppCall} {b : Call}

/-! ## Runs of the app -/

/-- **Where the devices begin**: users with empty lists, each under its own
id, no plays and no requests. -/
structure Server.Opens (s : Server) : Prop where
  keyed : s.UsersKeyed
  lists : ∀ u d, s.users.get u = some d → d.strings .myPlayList = some []
  plays : ∀ p, s.plays.get p = none
  requests : ∀ r, s.requests.get r = none

/-- The states of the store in a run so far. -/
def Config.stored (c : Config App Task) : List Server := c.seen.map App.server

/-- **Anything happens on any device**, and what is delivered was stored at
some time before. -/
def Loads (account : ℕ → String) (c : Config App Task) : Event AppCall Reply → Prop
  | .call a => a.event.Delivers c.stored (account a.device)
  | .answer _ _ => True

/-- The runs of the devices from where they begin. -/
abbrev AppRun (texts : Texts) (account : ℕ → String) (s₀ : Server)
    (evs : List (Event AppCall Reply)) (c : Config App Task) : Prop :=
  (app texts account).Run (Loads account) (Config.start (App.start s₀)) evs c

/-- Every screen of every device holds what its page is for. -/
def Holding (account : ℕ → String) (c : Config App Task) : Prop :=
  ∀ device tab, ∀ screen ∈ c.state.viewControllers device tab,
    screen.Holds c.stored (account device)

/-- **Every screen of every device**, wherever a run leads, holds what its
page is for. -/
theorem holding_of_run (hrun : AppRun texts account s₀ evs c) : Holding account c := by
  refine hrun.invariant (I := Holding account) ?_ ?_
  · intro device tab screen hscreen
    cases tab with
    | finder =>
      obtain rfl := List.mem_singleton.1 hscreen
      exact fun _ h => absurd h List.not_mem_nil
    | profile =>
      obtain rfl := List.mem_singleton.1 hscreen
      trivial
  · intro c e c' hc he hs
    have hmore : ∀ s ∈ c.stored, s ∈ c'.stored := by
      intro s hs'
      rw [Config.stored, Config.seen, Machine.step_past hs]
      exact List.mem_cons_of_mem _ hs'
    intro device tab screen hscreen
    refine Screen.Holds.mono ?_ hmore
    rcases Machine.step_cases hs with ⟨a, s, ts, rfl, hi, rfl⟩ | ⟨i, reply, t, rfl, -, rfl⟩
    · obtain ⟨stack, hhandle, hstacks, -⟩ := app_issue_cases hi
      have hmem : screen ∈ s.viewControllers device tab := hscreen
      rw [hstacks] at hmem
      simp only [App.setStack] at hmem
      split at hmem
      · rename_i hhere
        obtain ⟨rfl, rfl⟩ := hhere
        exact Screen.holds_handle (hc _ _) he hhandle screen hmem
      · exact hc device tab screen hmem
    · exact hc device tab screen hscreen

/-- A call of a manager concerns the account of its device. -/
theorem entitled_of_issue {s : App} {ts : List Task} (hc : Holding account c)
    (hi : (app texts account).issue c.state a = some (s, ts))
    (hb : a.operation account = some b) : Entitled c.stored (account a.device) b := by
  obtain ⟨stack, hhandle, -⟩ := app_issue_cases hi
  exact Screen.entitled_of_handle (hc _ _) hhandle hb

/-- What concerns an account a client may call. -/
theorem Entitled.clientCall (h : Entitled hist me b) : ClientCall hist b := by
  cases b with
  | savePlay play i now => trivial
  | updatePlay play => trivial
  | deletePlay play => trivial
  | saveRequest play players sender i now => exact ⟨h.2.1, me, h.1, h.2.2⟩
  | updateRequest request n => exact h.1
  | cancelRequest request => exact h.1

/-- **Every call of a run** concerns the account of its device. -/
theorem entitled_of_run (hrun : AppRun texts account s₀ evs c) : ∀ a, .call a ∈ evs →
    ∀ b, a.operation account = some b → Entitled c.stored (account a.device) b := by
  induction hrun with
  | nil => exact fun a ha => absurd ha List.not_mem_nil
  | @snoc evs c e c' hr _ hs ih =>
    have hmore : ∀ s ∈ c.stored, s ∈ c'.stored := by
      intro s hs'
      rw [Config.stored, Config.seen, Machine.step_past hs]
      exact List.mem_cons_of_mem _ hs'
    intro a ha b hb
    refine Entitled.mono ?_ hmore
    rcases List.mem_append.1 ha with ha | ha
    · exact ih a ha b hb
    · obtain rfl := List.mem_singleton.1 ha
      obtain ⟨s, ts, hi, -⟩ := Machine.step_call.1 hs
      exact entitled_of_issue (holding_of_run hr) hi hb

/-! ## The calls account for what is stored -/

/-- **A call of a run**, by whom it concerns. -/
def Concerned (account : ℕ → String) (evs : List (Event AppCall Reply)) (hist : List Server)
    (b : Call) : Prop :=
  ∃ a, .call a ∈ evs ∧ a.operation account = some b ∧ Entitled hist (account a.device) b

/-- **The states of the store account for its lists, and the calls for its
documents.** -/
structure Accounted (account : ℕ → String) (evs : List (Event AppCall Reply))
    (hist : List Server) : Prop where
  traced : Traced hist
  made : ∀ s ∈ hist, Made (Concerned account evs hist) s

/-- **Wherever the devices lead**, everything is accounted for. -/
theorem accounted_of_run (hopens : s₀.Opens) (hrun : AppRun texts account s₀ evs c) :
    ∃ hist, Accounted account evs hist ∧ ∀ s, s ∈ hist ↔ s ∈ c.stored := by
  obtain ⟨c', hroster, hbeneath⟩ :
      ∃ c', roster.Run Clients (Config.start s₀)
          (evs.filterMap (Event.lower (AppCall.operation account))) c' ∧
        Simulates.Beneath App.server c c' := app_simulates.run_beneath
    (fun {c' c'' c e' e} hok hs hbeneath hlow => by
      cases e' with
      | answer i reply =>
        obtain rfl := Option.some.inj hlow
        trivial
      | call a =>
        obtain ⟨b, hb, rfl⟩ := Option.map_eq_some_iff.1 hlow
        obtain ⟨s, ts, hi, -⟩ := Machine.step_call.1 hs
        have hentitled := (entitled_of_issue hok.2 hi hb).mono fun s hs => (hbeneath.seen s).2 hs
        exact hentitled.clientCall)
    (hrun.strengthen fun _ _ hr => holding_of_run hr)
  have hseen : ∀ s, s ∈ c'.seen ↔ s ∈ c.stored := hbeneath.seen
  have hcalls : ∀ b, .call b ∈ evs.filterMap (Event.lower (AppCall.operation account)) →
      Concerned account evs c'.seen b := by
    intro b hb
    obtain ⟨e, he, hlow⟩ := List.mem_filterMap.1 hb
    cases e with
    | answer i reply => cases hlow
    | call a =>
      obtain ⟨b', hb', heq⟩ := Option.map_eq_some_iff.1 hlow
      obtain rfl := Event.call.inj heq
      exact ⟨a, he, hb', (entitled_of_run hrun a he b' hb').mono fun s hs => (hseen s).2 hs⟩
  refine ⟨c'.seen, ⟨?_, ?_⟩, hseen⟩
  · exact traced_of_run hopens.keyed hopens.lists hopens.plays hopens.requests hroster
  · exact made_of_run hopens.plays hopens.requests (hroster.calls hcalls)

/-- The request `r` was stored as one `f` receives. -/
def ReceivedBy (hist : List Server) (r f : String) : Prop :=
  ∃ s ∈ hist, ∃ d, s.requests.get r = some d ∧ d.string .requestReceiverId = some f

namespace Accounted

/-- A loaded play is one somebody published, its finder. -/
theorem publishedBy_of_loaded (h : Accounted account evs hist) {play : Play}
    (hplay : LoadedPlay hist play) : PublishedBy hist play.id play.finderId := by
  obtain ⟨s, hs, d, now, hd, hdecode⟩ := hplay
  obtain ⟨f, -, hf, -⟩ := h.traced.plays s hs _ d hd
  refine ⟨s, hs, ?_⟩
  rw [Server.finderId, hd, Option.bind_some, hf, ← hdecode]
  simp only [decodePlay, hf, Option.getD_some]

/-- **A stored request** was sent by a device of its sender, for a play of
its receiver, who is somebody else. -/
theorem request (h : Accounted account evs hist) (hs : s ∈ hist) {d : Doc PlayRequestTitle}
    (hd : s.requests.get r = some d) : ∃ play players me now a,
      .call a ∈ evs ∧ a.operation account = some (.saveRequest play players (some me) r now) ∧
      account a.device = me ∧ d.string .requestSenderId = some me ∧
      d.string .playId = some play.id ∧ d.string .requestReceiverId = some play.finderId ∧
      PublishedBy hist play.id play.finderId ∧ me ≠ play.finderId := by
  obtain ⟨play, players, sender, now, ⟨a, ha, hop, hme, hloaded, hne⟩, hsender, hplay, hreceiver⟩ :=
    (h.made s hs).request r d hd
  subst hme
  exact ⟨play, players, _, now, a, ha, hop, rfl, hsender, hplay, hreceiver,
    h.publishedBy_of_loaded hloaded, hne⟩

/-- **A loaded request** was stored as it reads, for a play of its receiver. -/
theorem loaded (h : Accounted account evs hist) {request : PlayRequest}
    (hrequest : LoadedRequest hist request) :
    Sent hist request.id request.requestSenderId request.playId ∧
      ReceivedBy hist request.id request.requestReceverId ∧
      PublishedBy hist request.playId request.requestReceverId := by
  obtain ⟨s, hs, d, now, hd, hdecode⟩ := hrequest
  obtain ⟨player, hdecode⟩ : ∃ player,
      decodePlayRequestWith player request.id d now = some request :=
    hdecode.elim (fun h => ⟨_, h⟩) fun h => ⟨_, h⟩
  obtain ⟨-, hsender, hreceiver, hplay, -⟩ := decodePlayRequestWith_eq_some hdecode
  obtain ⟨play, players, me, now', a, -, -, -, hd₁, hd₂, hd₃, hpublished, -⟩ := h.request hs hd
  rw [hd₁, Option.getD_some] at hsender
  rw [hd₂, Option.getD_some] at hplay
  rw [hd₃, Option.getD_some] at hreceiver
  rw [hsender, hplay, hreceiver]
  exact ⟨⟨s, hs, d, hd, hd₁, hd₂⟩, ⟨s, hs, d, hd, hd₃⟩, hpublished⟩

/-- **A request has one receiver**: it is for one play, whose finder does
not change. -/
theorem receiver (h : Accounted account evs hist) {f' : String} (hr : ReceivedBy hist r f)
    (hr' : ReceivedBy hist r f') : f = f' := by
  obtain ⟨s, hs, d, hd, hf⟩ := hr
  obtain ⟨s', hs', d', hd', hf'⟩ := hr'
  obtain ⟨play, -, u, -, -, -, -, -, hu, hp, hfinder, hpublished, -⟩ := h.request hs hd
  obtain ⟨play', -, u', -, -, -, -, -, hu', hp', hfinder', hpublished', -⟩ := h.request hs' hd'
  have hplay : play.id = play'.id :=
    (h.traced.sent r u play.id u' play'.id ⟨s, hs, d, hd, hu, hp⟩ ⟨s', hs', d', hd', hu', hp'⟩).2
  have hsame : play.finderId = play'.finderId :=
    h.traced.finder _ _ _ hpublished (hplay ▸ hpublished')
  rw [hf, Option.some_inj] at hfinder
  rw [hf', Option.some_inj] at hfinder'
  rw [hfinder, hfinder', hsame]

end Accounted

/-! ## What an account is authorized to do -/

/-- **What an account is authorized to do**, by what was stored: to post
plays of its own, to change and delete those it posted, to ask for the
play of somebody else, to decide on the requests it receives for its
plays and to withdraw its own. -/
def Authorized (hist : List Server) (me : String) : Call → Prop
  | .savePlay play _ _ => play.finderId = me
  | .updatePlay play | .deletePlay play => PublishedBy hist play.id me
  | .saveRequest play _ sender _ _ =>
      sender = some me ∧ PublishedBy hist play.id play.finderId ∧ play.finderId ≠ me
  | .updateRequest request _ =>
      Sent hist request.id request.requestSenderId request.playId ∧
        ReceivedBy hist request.id me ∧ PublishedBy hist request.playId me
  | .cancelRequest request => Sent hist request.id me request.playId

theorem PublishedBy.mono (h : PublishedBy hist p f) (hsub : ∀ s ∈ hist, s ∈ hist') :
    PublishedBy hist' p f := by
  obtain ⟨s, hs, hf⟩ := h
  exact ⟨s, hsub s hs, hf⟩

theorem Sent.mono (h : Sent hist r me p) (hsub : ∀ s ∈ hist, s ∈ hist') :
    Sent hist' r me p := by
  obtain ⟨s, hs, hd⟩ := h
  exact ⟨s, hsub s hs, hd⟩

theorem ReceivedBy.mono (h : ReceivedBy hist r f) (hsub : ∀ s ∈ hist, s ∈ hist') :
    ReceivedBy hist' r f := by
  obtain ⟨s, hs, hd⟩ := h
  exact ⟨s, hsub s hs, hd⟩

theorem Authorized.mono (h : Authorized hist me b) (hsub : ∀ s ∈ hist, s ∈ hist') :
    Authorized hist' me b := by
  cases b with
  | savePlay play i now => exact h
  | updatePlay play => exact PublishedBy.mono h hsub
  | deletePlay play => exact PublishedBy.mono h hsub
  | saveRequest play players sender i now => exact ⟨h.1, h.2.1.mono hsub, h.2.2⟩
  | updateRequest request n => exact ⟨h.1.mono hsub, h.2.1.mono hsub, h.2.2.mono hsub⟩
  | cancelRequest request => exact Sent.mono h hsub

/-- **What concerns an account it is authorized to do.** -/
theorem Accounted.authorized (h : Accounted account evs hist) (hb : Entitled hist me b) :
    Authorized hist me b := by
  have hmine : ∀ {play}, Mine hist me play → PublishedBy hist play.id me := by
    rintro play ⟨loaded, hloaded, hsame, hfinder⟩
    have hid : loaded.id = play.id := congrArg Prod.fst hsame
    have hof : loaded.finderId = play.finderId := congrArg Prod.snd hsame
    rw [← hid, ← hfinder, ← hof]
    exact h.publishedBy_of_loaded hloaded
  cases b with
  | savePlay play i now => exact hb
  | updatePlay play => exact hmine hb
  | deletePlay play => exact hmine hb
  | saveRequest play players sender i now =>
    exact ⟨hb.1, h.publishedBy_of_loaded hb.2.1, hb.2.2.symm⟩
  | updateRequest request n =>
    obtain ⟨hloaded, hreceiver⟩ := hb
    obtain ⟨hsent, hof, hpublished⟩ := h.loaded hloaded
    exact ⟨hsent, hreceiver ▸ hof, hreceiver ▸ hpublished⟩
  | cancelRequest request =>
    obtain ⟨hloaded, hsender⟩ := hb
    exact hsender ▸ (h.loaded hloaded).1

/-- **Only those concerned change the roster.** Any number of devices,
signed in as any accounts, open and leave their screens in any order, are
delivered values of any age, and any request of a manager may fail. From
users with empty lists, no plays and no requests, whenever a device calls
a manager, its account is authorized to by what the store had before: it
is the finder of the play, the receiver of the request or its sender, and
a play never has two finders, nor a request two senders or two receivers. -/
theorem authorized_of_run (hopens : s₀.Opens)
    (hrun : AppRun texts account s₀ (evs ++ [.call a]) c) (hb : a.operation account = some b) :
    Authorized (c.past.map App.server) (account a.device) b ∧
      (∀ p f f', PublishedBy (c.past.map App.server) p f →
        PublishedBy (c.past.map App.server) p f' → f = f') ∧
      (∀ r u p u' p', Sent (c.past.map App.server) r u p → Sent (c.past.map App.server) r u' p' →
        u = u' ∧ p = p') ∧
      ∀ r f f', ReceivedBy (c.past.map App.server) r f →
        ReceivedBy (c.past.map App.server) r f' → f = f' := by
  obtain ⟨c₁, hbefore, -, hs⟩ := hrun.snoc_inv
  have hpast : c.past.map App.server = c₁.stored := by
    rw [Machine.step_past hs]
    rfl
  obtain ⟨s, ts, hi, -⟩ := Machine.step_call.1 hs
  have hentitled := entitled_of_issue (holding_of_run hbefore) hi hb
  obtain ⟨hist, haccounted, hmem⟩ := accounted_of_run hopens hbefore
  have hto : ∀ s ∈ c₁.stored, s ∈ hist := fun s hs => (hmem s).2 hs
  rw [hpast]
  refine ⟨?_, fun p f f' hf hf' => ?_, fun r u p u' p' hr hr' => ?_, fun r f f' hr hr' => ?_⟩
  · exact (haccounted.authorized (hentitled.mono hto)).mono fun s hs => (hmem s).1 hs
  · exact haccounted.traced.finder p f f' (hf.mono hto) (hf'.mono hto)
  · exact haccounted.traced.sent r u p u' p' (hr.mono hto) (hr'.mono hto)
  · exact haccounted.receiver (hr.mono hto) (hr'.mono hto)

namespace Sample

/-- Device `0` is the finder's, every other one the player's. -/
def twoDevices (device : ℕ) : String := if device = 0 then "f" else "u"

/-- The play the finder posts. -/
def gymPlay : Play :=
  { blankPlay (some "f") ⟨0, 0⟩ with
    place := "gym", price := 100, type := 1, lackAmount := ⟨1, 2, 0⟩, status := 1 }

/-- Its document. -/
def gymDoc : Doc PlayTitle := Doc.setData (FinderDataManager.savePlayData gymPlay "p" ⟨0, 0⟩)

/-- The request for it. -/
def gymRequest : PlayRequest := request "r" "u" "p" 0

/-- The form on device `0` is filled in. -/
def fill (e : EstablishEvent) : Event AppCall Reply :=
  .call ⟨0, .finder, .establish e none "" ⟨0, 0⟩⟩

/-- The finder posts a play. -/
def post : List (Event AppCall Reply) :=
  [.call ⟨0, .finder, .pushToEstablishVC ⟨0, 0⟩⟩, fill .doneStartDatePicker,
    fill .doneEndDatePicker, fill (.place "gym"), fill (.price "100"), fill (.didSelectRow 1),
    fill (.male "1"), fill (.female "2"),
    .call ⟨0, .finder, .establish (.addData true) (some (.savePlay gymPlay)) "p" ⟨0, 0⟩⟩,
    .answer 0 .ok, .answer 0 .ok, .answer 0 .ok]

/-- The player finds it and asks for it. -/
def ask : List (Event AppCall Reply) :=
  [.call ⟨1, .finder, .getPublishPlay 0 (.found (Doc.setData []))
      (.found [⟨"p", gymDoc, ⟨-1, 0⟩, ⟨-1, 0⟩⟩])⟩,
    .call ⟨1, .finder, .didSelectRowAt 0⟩,
    .call ⟨1, .finder, .sendRequest (savedPlay gymPlay "p") "r" ⟨0, 0⟩⟩,
    .answer 0 .ok, .answer 0 .ok]

/-- The finder is shown the request. -/
def receive : List (Event AppCall Reply) :=
  [.call ⟨0, .profile, .pushToRequestsReceive⟩,
    .call ⟨0, .profile, .getPlayRequests 0 (fun _ => ⟨0, 0⟩) [("r", requestDoc gymRequest)]⟩,
    .call ⟨0, .profile, .cellForRowAt 0 0 0⟩]

/-- And accepts. -/
def acceptGym : AppCall := ⟨0, .profile, .acceptRequest 0 (some gymRequest)⟩

/-- Where some events lead. -/
def after (c : Config App Task) (evs : List (Event AppCall Reply)) : Config App Task :=
  ((app clockTexts twoDevices).exec c evs).getD c

def posted : Config App Task := after (Config.start (App.start twoUsers)) post

def asked : Config App Task := after posted ask

theorem opens_twoUsers : twoUsers.Opens :=
  ⟨usersKeyed (by decide) rfl, strings_of_get_users (by decide) rfl (by decide), fun _ => rfl,
    fun _ => rfl⟩

theorem run_post : AppRun clockTexts twoDevices twoUsers post posted :=
  .of_exec ⟨trivial, trivial, trivial, trivial, trivial, trivial, trivial, trivial, trivial,
    trivial, trivial, trivial, trivial⟩ rfl

/-- The feed has the play that was posted. -/
theorem delivers_posted : (ScreenEvent.getPublishPlay 0 (.found (Doc.setData []))
    (.found [⟨"p", gymDoc, ⟨-1, 0⟩, ⟨-1, 0⟩⟩])).Delivers posted.stored "u" := by
  intro documents hfound e he
  obtain rfl := Fetched.found.inj hfound
  obtain rfl := List.mem_singleton.1 he
  have hstored : posted.state.server.plays.get "p" = some gymDoc := rfl
  exact ⟨_, List.mem_cons_self, hstored⟩

theorem run_ask : (app clockTexts twoDevices).Run (Loads twoDevices) posted ask asked :=
  .of_exec ⟨delivers_posted, trivial, trivial, trivial, trivial, trivial⟩ rfl

/-- And the page of received requests the one that was sent. -/
theorem delivers_asked : (ScreenEvent.getPlayRequests 0 (fun _ => ⟨0, 0⟩)
    [("r", requestDoc gymRequest)]).Delivers (asked.state.server :: asked.stored) "f" := by
  intro document hdocument
  obtain rfl := List.mem_singleton.1 hdocument
  have hstored : asked.state.server.requests.get "r" = some (requestDoc gymRequest) := rfl
  exact ⟨_, List.mem_cons_self, hstored⟩

theorem run_accept : (app clockTexts twoDevices).Run (Loads twoDevices) asked
    (receive ++ [.call acceptGym]) (after asked (receive ++ [.call acceptGym])) :=
  .of_exec ⟨trivial, delivers_asked, trivial, trivial, trivial⟩ rfl

/-- The whole of it, to the tap that accepts. -/
def meet : List (Event AppCall Reply) := post ++ (ask ++ receive)

theorem run_meet : AppRun clockTexts twoDevices twoUsers (meet ++ [.call acceptGym])
    (after asked (receive ++ [.call acceptGym])) := by
  have hmeet : meet ++ [.call acceptGym] = post ++ (ask ++ (receive ++ [.call acceptGym])) := rfl
  rw [hmeet]
  exact run_post.append (run_ask.append run_accept)

end Sample

/-- The finder accepts a request for the play, and is authorized to. -/
theorem authorized_meet : ∃ c,
    AppRun Sample.clockTexts Sample.twoDevices Sample.twoUsers
      (Sample.meet ++ [.call Sample.acceptGym]) c ∧
    Sent (c.past.map App.server) "r" "u" "p" ∧ ReceivedBy (c.past.map App.server) "r" "f" ∧
    PublishedBy (c.past.map App.server) "p" "f" := by
  have hauthorized := authorized_of_run Sample.opens_twoUsers Sample.run_meet rfl
  exact ⟨_, Sample.run_meet, hauthorized.1⟩

end Volleyer
