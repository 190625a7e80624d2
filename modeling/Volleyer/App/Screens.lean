import Volleyer.App.Model

/-!
# The app — what a screen can hold

Whatever is delivered, in whatever order the screens are opened and left,
a screen holds values some state of the store had, and only values its
page selects: the received page requests its account received, the sent
page requests it sent, the page of finders plays it found, and a form a
blank play of the account or one of those. So a control calls a manager
only on what concerns the account (`entitled_of_handle`).
-/

namespace Volleyer

variable {texts : Texts} {hist hist' : List Server} {me : String} {s : Server}
variable {stack stack' : List Screen} {e : ScreenEvent} {play : Play} {now : Date}

/-! ## What a form keeps -/

/-- Which play it is, and whose. -/
def Play.owner (play : Play) : String × String := (play.id, play.finderId)

namespace EstablishFinderViewController

variable {vc vc' : EstablishFinderViewController}

theorem owner_checkboxTapped {level : Level} {checkbox : ℤ}
    (h : vc.checkboxTapped level checkbox = some vc') :
    vc'.form.thisPlay.owner = vc.form.thisPlay.owner := by
  obtain ⟨sender, -, rfl⟩ := Option.map_eq_some_iff.1 h
  rfl

/-- A form opens on the play it was given. -/
theorem owner_viewDidLoad (h : viewDidLoad texts play now = some vc) :
    vc.form.thisPlay.owner = play.owner := by
  unfold viewDidLoad ifEditMode at h
  split at h
  · obtain rfl := Option.some.inj h
    rfl
  · simp only [Option.bind_eq_bind, Option.bind_eq_some_iff] at h
    obtain ⟨type, -, vc₁, h₁, vc₂, h₂, vc₃, h₃, vc₄, h₄, h₅⟩ := h
    calc vc.form.thisPlay.owner
      _ = vc₄.form.thisPlay.owner := owner_checkboxTapped h₅
      _ = vc₃.form.thisPlay.owner := owner_checkboxTapped h₄
      _ = vc₂.form.thisPlay.owner := owner_checkboxTapped h₃
      _ = vc₁.form.thisPlay.owner := owner_checkboxTapped h₂
      _ = play.owner := owner_checkboxTapped h₁

/-- What a form saves is its play: a new one, or one that is changed. -/
structure SavesPlay (vc : EstablishFinderViewController) (save : PlaySave) : Prop where
  owner : save.play.owner = vc.form.thisPlay.owner
  updates : ∀ thisPlay, save = .updatePlay thisPlay → vc.form.thisPlay.id ≠ ""

/-- What `addData` keeps, and what it saves. -/
theorem owner_addData (vc : EstablishFinderViewController) (isPublishButton : Bool) :
    (vc.addData texts isPublishButton).1.form.thisPlay.owner = vc.form.thisPlay.owner ∧
      ∀ save ∈ (vc.addData texts isPublishButton).2, vc.SavesPlay save := by
  have hmarked : (vc.form.publish isPublishButton).thisPlay.owner = vc.form.thisPlay.owner := by
    rw [EstablishFinder.publish_eq]
    rfl
  simp only [addData]
  generalize vc.form.publish isPublishButton = marked at hmarked
  split
  · split
    · exact ⟨hmarked, fun _ h => absurd h (Option.not_mem_none _)⟩
    · split
      · exact ⟨hmarked, fun _ h => absurd h (Option.not_mem_none _)⟩
      · refine ⟨hmarked, fun save hsave => ?_⟩
        obtain rfl := Option.some.inj (Option.mem_def.1 hsave)
        split
        · exact ⟨hmarked, fun _ heq => by cases heq⟩
        · rename_i hid
          refine ⟨hmarked, fun _ _ => ?_⟩
          have hsame : marked.thisPlay.id = vc.form.thisPlay.id := congrArg Prod.fst hmarked
          rw [← hsame]
          exact hid
  · exact ⟨hmarked, fun _ h => absurd h (Option.not_mem_none _)⟩

/-- **An event of the form keeps whose play it is**, and saves that play. -/
theorem owner_issue {e : EstablishEvent} {ts : List PlaySave}
    (h : vc.issue texts e = some (vc', ts)) :
    vc'.form.thisPlay.owner = vc.form.thisPlay.owner ∧ ∀ save ∈ ts, vc.SavesPlay save := by
  cases e with
  | checkboxTapped level checkbox =>
    obtain ⟨vc₁, htap, heq⟩ := Option.map_eq_some_iff.1 h
    obtain ⟨rfl, rfl⟩ := Prod.mk.inj heq
    exact ⟨owner_checkboxTapped htap, fun _ h => absurd h List.not_mem_nil⟩
  | didSelectRow row =>
    obtain ⟨text, -, heq⟩ := Option.map_eq_some_iff.1 h
    obtain ⟨rfl, rfl⟩ := Prod.mk.inj heq
    exact ⟨rfl, fun _ h => absurd h List.not_mem_nil⟩
  | addData isPublishButton =>
    obtain ⟨rfl, rfl⟩ := Prod.mk.inj (Option.some.inj h)
    refine (vc.owner_addData isPublishButton).imp id fun hsaves save hsave => hsaves save ?_
    exact Option.mem_toList.1 hsave
  | donePlace =>
    obtain ⟨rfl, rfl⟩ := Prod.mk.inj (Option.some.inj h)
    exact ⟨congrArg (·.thisPlay.owner) (vc.donePlace_eq texts).1,
      fun _ h => absurd h List.not_mem_nil⟩
  | donePrice | doneMaleLack | doneFemaleLack =>
    obtain ⟨rfl, rfl⟩ := Prod.mk.inj (Option.some.inj h)
    exact ⟨congrArg (·.thisPlay.owner) (vc.doneNumber_eq _ _ _).1,
      fun _ h => absurd h List.not_mem_nil⟩
  | _ =>
    obtain ⟨rfl, rfl⟩ := Prod.mk.inj (Option.some.inj h)
    exact ⟨rfl, fun _ h => absurd h List.not_mem_nil⟩

end EstablishFinderViewController

/-! ## What a screen holds -/

/-- A play of `me` that was loaded, as far as which play it is. -/
def Mine (hist : List Server) (me : String) (play : Play) : Prop :=
  ∃ loaded, LoadedPlay hist loaded ∧ loaded.owner = play.owner ∧ play.finderId = me

/-- A loaded request that `me` received. -/
def ReceivedAs (hist : List Server) (me : String) (request : PlayRequest) : Prop :=
  LoadedRequest hist request ∧ request.requestReceverId = me

/-- A loaded request that `me` sent. -/
def SentAs (hist : List Server) (me : String) (request : PlayRequest) : Prop :=
  LoadedRequest hist request ∧ request.requestSenderId = me

/-- **What a screen of `me` holds** was stored at some time, and is what its
page is for. -/
def Screen.Holds (hist : List Server) (me : String) : Screen → Prop
  | .finder vc => ∀ play ∈ vc.publicPlays, LoadedPlay hist play
  | .addPlay thisPlay => LoadedPlay hist thisPlay
  | .establishFinder vc => vc.form.thisPlay.finderId = me ∧
      (vc.form.thisPlay.id ≠ "" → Mine hist me vc.form.thisPlay)
  | .myFinders vc => ∀ play ∈ vc.myFinders, Mine hist me play
  | .myFinderInfo thisPlay => Mine hist me thisPlay
  | .requestsReceived vc => (∀ request ∈ vc.myRequests, ReceivedAs hist me request) ∧
      ∀ k request, (vc.cells k).updateStatus = some request → ReceivedAs hist me request
  | .requestSent vc => ∀ request ∈ vc.myRequests, SentAs hist me request
  | .info thisRequest => ∀ request ∈ thisRequest, SentAs hist me request
  | .my _ | .myPlays _ => True

/-- **What is delivered was stored at some time.** A change of a sent request
is told by the listener on the requests `me` sent. -/
def ScreenEvent.Delivers (hist : List Server) (me : String) : ScreenEvent → Prop
  | .getPublishPlay _ _ plays => ∀ documents, plays = .found documents → ∀ e ∈ documents,
      ∃ s ∈ hist, s.plays.get e.documentID = some e.document
  | .getThisUserPlays _ plays => ∀ play ∈ plays, LoadedPlay hist play
  | .getPlayRequests _ _ documents => ∀ document ∈ documents,
      ∃ s ∈ hist, s.requests.get document.1 = some document.2
  | .updateRequestsSentTableView _ modifiedRequest => SentAs hist me modifiedRequest
  | _ => True

/-- **What concerns an account**: the call of a manager it may make. -/
def Entitled (hist : List Server) (me : String) : Call → Prop
  | .savePlay play _ _ => play.finderId = me
  | .updatePlay play | .deletePlay play => Mine hist me play
  | .saveRequest play _ sender _ _ =>
      sender = some me ∧ LoadedPlay hist play ∧ me ≠ play.finderId
  | .updateRequest request _ => ReceivedAs hist me request
  | .cancelRequest request => SentAs hist me request

/-! ### More states -/

theorem LoadedPlay.mono (h : LoadedPlay hist play) (hsub : ∀ s ∈ hist, s ∈ hist') :
    LoadedPlay hist' play := by
  obtain ⟨s, hs, hcur⟩ := h
  exact ⟨s, hsub s hs, hcur⟩

theorem LoadedRequest.mono {request : PlayRequest} (h : LoadedRequest hist request)
    (hsub : ∀ s ∈ hist, s ∈ hist') : LoadedRequest hist' request := by
  obtain ⟨s, hs, hcur⟩ := h
  exact ⟨s, hsub s hs, hcur⟩

theorem Mine.mono (h : Mine hist me play) (hsub : ∀ s ∈ hist, s ∈ hist') : Mine hist' me play := by
  obtain ⟨loaded, hloaded, howner⟩ := h
  exact ⟨loaded, hloaded.mono hsub, howner⟩

/-- A screen goes on holding what was stored. -/
theorem Screen.Holds.mono {screen : Screen} (h : screen.Holds hist me)
    (hsub : ∀ s ∈ hist, s ∈ hist') : screen.Holds hist' me := by
  cases screen with
  | finder vc => exact fun play hplay => (h play hplay).mono hsub
  | addPlay thisPlay => exact LoadedPlay.mono h hsub
  | establishFinder vc => exact ⟨h.1, fun hid => (h.2 hid).mono hsub⟩
  | myFinders vc => exact fun play hplay => (h play hplay).mono hsub
  | myFinderInfo thisPlay => exact Mine.mono h hsub
  | requestsReceived vc =>
    exact ⟨fun r hr => (h.1 r hr).imp_left (·.mono hsub),
      fun k r hr => (h.2 k r hr).imp_left (·.mono hsub)⟩
  | requestSent vc => exact fun r hr => (h r hr).imp_left (·.mono hsub)
  | info thisRequest => exact fun r hr => (h r hr).imp_left (·.mono hsub)
  | my vc => trivial
  | myPlays vc => trivial

/-- What concerns an account goes on concerning it. -/
theorem Entitled.mono {b : Call} (h : Entitled hist me b) (hsub : ∀ s ∈ hist, s ∈ hist') :
    Entitled hist' me b := by
  cases b with
  | savePlay play i now => exact h
  | updatePlay play => exact Mine.mono h hsub
  | deletePlay play => exact Mine.mono h hsub
  | saveRequest play players sender i now => exact ⟨h.1, h.2.1.mono hsub, h.2.2⟩
  | updateRequest request n => exact And.imp_left (·.mono hsub) h
  | cancelRequest request => exact And.imp_left (·.mono hsub) h

/-! ## Deliveries -/

/-- **The feed** hands over plays its snapshot stores. -/
theorem loadedPlay_of_mem_getPublishPlay {user : Fetched (Doc UserTitle)}
    {plays : Fetched (List Examined)} {playsArray : List Play}
    (hplays : ∀ documents, plays = .found documents → ∀ e ∈ documents,
      ∃ s ∈ hist, s.plays.get e.documentID = some e.document)
    (h : playsArray ∈ FinderDataManager.getPublishPlay user plays) (hplay : play ∈ playsArray) :
    LoadedPlay hist play := by
  obtain ⟨document, documents, -, hfound, -, rfl⟩ :=
    FinderDataManager.exists_of_mem_getPublishPlay h
  rw [(perm_sortByStartTime _).mem_iff, shownPlays, List.mem_map] at hplay
  obtain ⟨e, he, rfl⟩ := hplay
  obtain ⟨s, hs, hget⟩ := hplays documents hfound e (List.mem_filter.1 he).1
  exact ⟨s, hs, e.document, e.decodedAt, hget, rfl⟩

/-- The home page keeps the last list that is not empty. -/
theorem mem_publicPlays_foldl {lists : List (List Play)} {vc : FinderViewController}
    (h : play ∈ (lists.foldl FinderViewController.didGet vc).publicPlays) :
    play ∈ vc.publicPlays ∨ ∃ playsArray ∈ lists, play ∈ playsArray := by
  induction lists generalizing vc with
  | nil => exact Or.inl h
  | cons playsArray lists ih =>
    rcases ih h with hvc | ⟨playsArray', hmem, hplay⟩
    · unfold FinderViewController.didGet at hvc
      split at hvc
      · exact Or.inr ⟨playsArray, List.mem_cons_self, hvc⟩
      · exact Or.inl hvc
    · exact Or.inr ⟨playsArray', List.mem_cons_of_mem _ hmem, hplay⟩

/-- **The page of finders** selects the plays of the account. -/
theorem mine_of_mem_didGet {vc : MyFindersViewController} {plays : List Play}
    (hplays : ∀ play ∈ plays, LoadedPlay hist play)
    (h : play ∈ (vc.didGet (some me) plays).myFinders) : Mine hist me play := by
  have hmem : play ∈ sortByStartTime (plays.filter fun i => some i.finderId == some me) := by
    unfold MyFindersViewController.didGet at h
    dsimp only at h
    split at h <;> exact h
  rw [(perm_sortByStartTime _).mem_iff, List.mem_filter, beq_iff_eq] at hmem
  exact ⟨play, hplays play hmem.1, rfl, Option.some.inj hmem.2⟩

/-- **The two lists of requests** have those the account received, and those
it sent. -/
theorem mem_getPlayRequests {clock : String → Date}
    {documents : List (String × Doc PlayRequestTitle)}
    {playRequests : List PlayRequest × List PlayRequest}
    (hdocuments : ∀ document ∈ documents, ∃ s ∈ hist, s.requests.get document.1 = some document.2)
    (h : RequestDataManager.getPlayRequests (some me) clock documents = some playRequests) :
    (∀ request ∈ playRequests.1, ReceivedAs hist me request) ∧
      ∀ request ∈ playRequests.2, SentAs hist me request := by
  obtain ⟨-, rfl⟩ := getPlayRequests_eq_some_iff.1 h
  have hloaded : ∀ request ∈ decodedRequests clock documents, LoadedRequest hist request := by
    intro request hrequest
    obtain ⟨document, hdocument, hdecode⟩ := List.mem_filterMap.1 hrequest
    obtain ⟨s, hs, hget⟩ := hdocuments document hdocument
    obtain ⟨hid, -⟩ := decodePlayRequestWith_eq_some hdecode
    exact ⟨s, hs, document.2, clock document.1, hid ▸ hget, Or.inl (hid ▸ hdecode)⟩
  refine ⟨fun request hrequest => ?_, fun request hrequest => ?_⟩
  · obtain ⟨hdecoded, hreceived⟩ := mem_bucket.1 hrequest
    exact ⟨hloaded request hdecoded, Option.some.inj hreceived⟩
  · obtain ⟨hdecoded, -, hsent⟩ := mem_bucket.1 hrequest
    exact ⟨hloaded request hdecoded, Option.some.inj hsent⟩

namespace Screen

/-! ## Stacks -/

/-- A screen of a shorter stack was one of the longer. -/
theorem mem_of_mem_popToMyFinders {screen : Screen} (h : screen ∈ popToMyFinders stack) :
    screen ∈ stack := by
  unfold popToMyFinders at h
  split at h
  · exact List.mem_of_mem_drop h
  · exact h

/-- A delegate's method that keeps what a screen holds. -/
theorem holds_deliver {depth : ℕ} {f : Screen → Option Screen}
    (hstack : ∀ screen ∈ stack, screen.Holds hist me)
    (hf : ∀ screen screen', screen.Holds hist me → f screen = some screen' →
      screen'.Holds hist me)
    (h : deliver stack depth f = some stack') : ∀ screen ∈ stack', screen.Holds hist me := by
  obtain ⟨screen', hscreen', rfl⟩ := Option.map_eq_some_iff.1 h
  obtain ⟨screen, hscreen, hf'⟩ := Option.bind_eq_some_iff.1 hscreen'
  intro screen₁ hmem
  rcases List.mem_or_eq_of_mem_set hmem with hmem | rfl
  · exact hstack screen₁ hmem
  · exact hf screen screen₁ (hstack screen (List.mem_of_getElem? hscreen)) hf'

/-- A drawn cell, or a tapped one, keeps what the screen holds. -/
theorem holds_onReceived {vc : RequestsReceivedViewController} {a : ReceivedCall}
    {screen : Screen} (hvc : (Screen.requestsReceived vc).Holds hist me)
    (ha : ∀ playRequests, a ≠ .iReceive playRequests) (h : onReceived s a vc = some screen) :
    screen.Holds hist me := by
  -- a cell captures what it did, or the row it is drawn for
  have hset : ∀ {k : ℕ} {cell : RequestsTableViewCell},
      (∀ request, cell.updateStatus = some request → ReceivedAs hist me request) →
      (Screen.requestsReceived (vc.setCell k cell)).Holds hist me := by
    intro k cell hcell
    refine ⟨hvc.1, fun k' request hrequest => ?_⟩
    simp only [RequestsReceivedViewController.setCell] at hrequest
    rw [Function.update_apply] at hrequest
    split at hrequest
    · exact hcell request hrequest
    · exact hvc.2 k' request hrequest
  obtain ⟨p, hissue, rfl⟩ := Option.map_eq_some_iff.1 h
  cases a with
  | iReceive playRequests => exact absurd rfl (ha playRequests)
  | cellForRowAt row k =>
    obtain ⟨thisRequest, hrow, rfl⟩ := Option.map_eq_some_iff.1 hissue
    refine hset fun request hrequest => ?_
    obtain rfl : thisRequest = request := Option.some.inj hrequest
    exact hvc.1 thisRequest (List.mem_of_getElem? hrow)
  | acceptRequest k request | denyRequest k request =>
    obtain ⟨-, htap⟩ := Option.ite_none_right_eq_some.1 hissue
    obtain rfl := Option.some.inj htap
    exact hset (hvc.2 k)

/-! ## Events -/

/-- A page the account's page opens. -/
theorem holds_push (page : Screen) (hstack : ∀ screen ∈ stack, screen.Holds hist me)
    (hpage : page.Holds hist me) (h : handle.push stack page = some stack') :
    ∀ screen ∈ stack', screen.Holds hist me := by
  unfold handle.push at h
  split at h
  · obtain rfl := Option.some.inj h
    exact List.forall_mem_cons.2 ⟨hpage, hstack⟩
  · cases h

/-- The home page is delivered the feed. -/
theorem holds_getPublishPlay {depth : ℕ} {user : Fetched (Doc UserTitle)}
    {plays : Fetched (List Examined)} (hstack : ∀ screen ∈ stack, screen.Holds hist me)
    (he : (ScreenEvent.getPublishPlay depth user plays).Delivers hist me)
    (h : handle texts (some me) s stack (.getPublishPlay depth user plays) = some stack') :
    ∀ screen ∈ stack', screen.Holds hist me := by
  refine holds_deliver hstack (fun screen screen' hscreen hf => ?_) h
  split at hf
  · obtain rfl := Option.some.inj hf
    intro play hplay
    rcases mem_publicPlays_foldl hplay with hplay | ⟨playsArray, hmem, hplay⟩
    · exact hscreen play hplay
    · exact loadedPlay_of_mem_getPublishPlay he hmem hplay
  · cases hf

/-- The pages of plays and of finders are delivered a user's plays. -/
theorem holds_getThisUserPlays {depth : ℕ} {plays : List Play}
    (hstack : ∀ screen ∈ stack, screen.Holds hist me)
    (he : (ScreenEvent.getThisUserPlays depth plays).Delivers hist me)
    (h : handle texts (some me) s stack (.getThisUserPlays depth plays) = some stack') :
    ∀ screen ∈ stack', screen.Holds hist me := by
  refine holds_deliver hstack (fun screen screen' hscreen hf => ?_) h
  split at hf
  · obtain rfl := Option.some.inj hf
    trivial
  · obtain rfl := Option.some.inj hf
    exact fun play hplay => mine_of_mem_didGet he hplay
  · cases hf

/-- The pages of requests, and the account's page, are delivered the two
lists. -/
theorem holds_getPlayRequests {depth : ℕ} {clock : String → Date}
    {documents : List (String × Doc PlayRequestTitle)}
    (hstack : ∀ screen ∈ stack, screen.Holds hist me)
    (he : (ScreenEvent.getPlayRequests depth clock documents).Delivers hist me)
    (h : handle texts (some me) s stack (.getPlayRequests depth clock documents) = some stack') :
    ∀ screen ∈ stack', screen.Holds hist me := by
  obtain ⟨playRequests, hget, hdeliver⟩ := Option.bind_eq_some_iff.1 h
  obtain ⟨hreceived, hsent⟩ := mem_getPlayRequests he hget
  refine holds_deliver hstack (fun screen screen' hscreen hf => ?_) hdeliver
  split at hf
  · obtain rfl := Option.some.inj hf
    exact ⟨hreceived, hscreen.2⟩
  · obtain rfl := Option.some.inj hf
    intro request hrequest
    rw [RequestSentViewController.myRequests_iSent] at hrequest
    exact hsent request hrequest
  · obtain rfl := Option.some.inj hf
    trivial
  · cases hf

/-- The page of sent requests is told of a change. -/
theorem holds_updateRequestsSentTableView {depth : ℕ} {modifiedRequest : PlayRequest}
    (hstack : ∀ screen ∈ stack, screen.Holds hist me) (he : SentAs hist me modifiedRequest)
    (h : handle texts (some me) s stack (.updateRequestsSentTableView depth modifiedRequest) =
      some stack') : ∀ screen ∈ stack', screen.Holds hist me := by
  refine holds_deliver hstack (fun screen screen' hscreen hf => ?_) h
  split at hf
  · obtain rfl := Option.some.inj hf
    intro request hrequest
    rcases RequestSentViewController.mem_updateRequestsSentTableView hrequest with rfl | hrow
    · exact he
    · exact hscreen request hrow
  · cases hf

/-- **A form is opened**, on a blank play of the account or on one it
posted. -/
theorem holds_pushToEstablishVC (hstack : ∀ screen ∈ stack, screen.Holds hist me)
    (h : handle texts (some me) s stack (.pushToEstablishVC now) = some stack') :
    ∀ screen ∈ stack', screen.Holds hist me := by
  simp only [handle] at h
  split at h
  · obtain ⟨form, hload, rfl⟩ := Option.map_eq_some_iff.1 h
    have howner := EstablishFinderViewController.owner_viewDidLoad hload
    refine List.forall_mem_cons.2 ⟨⟨congrArg Prod.snd howner, fun hid => absurd ?_ hid⟩, hstack⟩
    exact congrArg Prod.fst howner
  · rename_i thisPlay rest
    obtain ⟨form, hload, rfl⟩ := Option.map_eq_some_iff.1 h
    have howner := EstablishFinderViewController.owner_viewDidLoad hload
    obtain ⟨loaded, hloaded, hsame, hme⟩ := hstack _ List.mem_cons_self
    have hform : form.form.thisPlay.finderId = me := (congrArg Prod.snd howner).trans hme
    exact List.forall_mem_cons.2
      ⟨⟨hform, fun _ => ⟨loaded, hloaded, hsame.trans howner.symm, hform⟩⟩, hstack⟩
  · cases h

/-- **A row is tapped**: the page it opens is of what the row shows. -/
theorem holds_didSelectRowAt {row : ℕ} (hstack : ∀ screen ∈ stack, screen.Holds hist me)
    (h : handle texts (some me) s stack (.didSelectRowAt row) = some stack') :
    ∀ screen ∈ stack', screen.Holds hist me := by
  obtain ⟨screen, hscreen, rfl⟩ := Option.map_eq_some_iff.1 h
  obtain ⟨top, htop, hrow⟩ := Option.bind_eq_some_iff.1 hscreen
  have hholds := hstack top (List.mem_of_mem_head? htop)
  refine List.forall_mem_cons.2 ⟨?_, hstack⟩
  split at hrow
  · obtain ⟨play, hplay, rfl⟩ := Option.map_eq_some_iff.1 hrow
    exact hholds play (List.mem_of_getElem? hplay)
  · obtain ⟨play, hplay, rfl⟩ := Option.map_eq_some_iff.1 hrow
    exact hholds play (List.mem_of_getElem? hplay)
  · obtain ⟨request, -, rfl⟩ := Option.map_eq_some_iff.1 hrow
    exact fun _ h => absurd h (Option.not_mem_none _)
  · obtain ⟨request, hrequest, rfl⟩ := Option.map_eq_some_iff.1 hrow
    intro r hr
    obtain rfl := Option.some.inj hr
    exact hholds request (List.mem_of_getElem? hrequest)
  · cases hrow

/-- **An event of a form** keeps whose play it is, also where it saves and
leaves. -/
theorem holds_establish {e : EstablishEvent} {save : Option PlaySave} {i : String}
    (hstack : ∀ screen ∈ stack, screen.Holds hist me)
    (h : handle texts (some me) s stack (.establish e save i now) = some stack') :
    ∀ screen ∈ stack', screen.Holds hist me := by
  simp only [handle] at h
  split at h
  · rename_i vc rest
    obtain ⟨⟨vc', saves⟩, hissue, h⟩ := Option.bind_eq_some_iff.1 h
    obtain ⟨-, h⟩ := Option.ite_none_right_eq_some.1 h
    obtain ⟨howner, -⟩ := EstablishFinderViewController.owner_issue hissue
    obtain ⟨hme, hmine⟩ := hstack _ List.mem_cons_self
    have hforms : ∀ screen ∈ Screen.establishFinder vc' :: rest, screen.Holds hist me := by
      refine List.forall_mem_cons.2 ⟨⟨(congrArg Prod.snd howner).trans hme, fun hid => ?_⟩,
        fun screen hscreen => hstack screen (List.mem_cons_of_mem _ hscreen)⟩
      obtain ⟨loaded, hloaded, hsame, hfinder⟩ := hmine fun hvc =>
        hid ((congrArg Prod.fst howner).trans hvc)
      exact ⟨loaded, hloaded, hsame.trans howner.symm,
        (congrArg Prod.snd howner).trans hfinder⟩
    split at h
    · obtain rfl := Option.some.inj h
      exact hforms
    · obtain rfl := Option.some.inj h
      exact fun screen hscreen => hforms screen (List.mem_of_mem_drop hscreen)
    · obtain rfl := Option.some.inj h
      exact fun screen hscreen => hforms screen (mem_of_mem_popToMyFinders hscreen)
  · cases h

/-- **A delivery, a tap, or a screen that is opened or left** keeps what the
screens of a stack hold. -/
theorem holds_handle (hstack : ∀ screen ∈ stack, screen.Holds hist me)
    (he : e.Delivers hist me) (h : handle texts (some me) s stack e = some stack') :
    ∀ screen ∈ stack', screen.Holds hist me := by
  cases e with
  | getPublishPlay depth user plays => exact holds_getPublishPlay hstack he h
  | getThisUserPlays depth plays => exact holds_getThisUserPlays hstack he h
  | getPlayRequests depth clock documents => exact holds_getPlayRequests hstack he h
  | updateRequestsSentTableView depth modifiedRequest =>
    exact holds_updateRequestsSentTableView hstack he h
  | cellForRowAt depth row cell =>
    refine holds_deliver hstack (fun screen screen' hscreen hf => ?_) h
    split at hf
    · exact holds_onReceived hscreen (fun _ heq => by cases heq) hf
    · cases hf
  | successDeletePost =>
    obtain rfl := Option.some.inj h
    exact fun screen hscreen => hstack screen (mem_of_mem_popToMyFinders hscreen)
  | back =>
    obtain ⟨-, heq⟩ := Option.ite_none_right_eq_some.1 h
    obtain rfl := Option.some.inj heq
    exact fun screen hscreen => hstack screen (List.mem_of_mem_drop hscreen)
  | pushToEstablishVC now => exact holds_pushToEstablishVC hstack h
  | pushToMyFinders =>
    exact holds_push (.myFinders {}) hstack (fun _ h => absurd h List.not_mem_nil) h
  | pushToMyPlays => exact holds_push (.myPlays {}) hstack trivial h
  | pushToRequestsReceive =>
    exact holds_push (.requestsReceived {}) hstack
      ⟨fun _ h => absurd h List.not_mem_nil, fun _ _ h => by cases h⟩ h
  | pushToRequestsSend =>
    exact holds_push (.requestSent {}) hstack (fun _ h => absurd h List.not_mem_nil) h
  | didSelectRowAt row => exact holds_didSelectRowAt hstack h
  | sendRequest thisPlay i now =>
    simp only [handle] at h
    split at h
    · obtain ⟨-, heq⟩ := Option.ite_none_right_eq_some.1 h
      obtain rfl := Option.some.inj heq
      exact fun screen hscreen => hstack screen (List.mem_of_mem_drop hscreen)
    · cases h
  | establish e save i now => exact holds_establish hstack h
  | deletePost thisPlay =>
    simp only [handle] at h
    split at h
    · obtain ⟨-, heq⟩ := Option.ite_none_right_eq_some.1 h
      obtain rfl := Option.some.inj heq
      exact hstack
    · cases h
  | acceptRequest cell request | denyRequest cell request =>
    simp only [handle] at h
    split at h
    · obtain ⟨screen, hscreen, rfl⟩ := Option.map_eq_some_iff.1 h
      obtain ⟨hvc, hrest⟩ := List.forall_mem_cons.1 hstack
      exact List.forall_mem_cons.2 ⟨holds_onReceived hvc (fun _ heq => by cases heq) hscreen, hrest⟩
    · cases h
  | cancelRequest thisRequest =>
    simp only [handle] at h
    split at h
    · obtain ⟨-, heq⟩ := Option.ite_none_right_eq_some.1 h
      obtain rfl := Option.some.inj heq
      exact (List.forall_mem_cons.1 hstack).2
    · cases h

/-- A tap passes on what the cell captured, which the account received. -/
theorem receivedAs_of_tap {vc : RequestsReceivedViewController} {a : ReceivedCall}
    {request : PlayRequest} {n : ℤ} {screen : Screen}
    (hvc : (Screen.requestsReceived vc).Holds hist me)
    (ha : a.updateRequest = some (.updateRequest request n))
    (h : onReceived s a vc = some screen) : ReceivedAs hist me request := by
  obtain ⟨p, hissue, -⟩ := Option.map_eq_some_iff.1 h
  cases a with
  | iReceive | cellForRowAt => cases ha
  | acceptRequest k captured | denyRequest k captured =>
    obtain ⟨r, rfl, heq⟩ := Option.map_eq_some_iff.1 ha
    obtain ⟨rfl, -⟩ := Call.updateRequest.inj heq
    obtain ⟨⟨-, hcell⟩, -⟩ := Option.ite_none_right_eq_some.1 hissue
    exact hvc.2 k r hcell

/-- **A control calls a manager only on what concerns the account.** -/
theorem entitled_of_handle (hstack : ∀ screen ∈ stack, screen.Holds hist me) {b : Call}
    (h : handle texts (some me) s stack e = some stack') (hb : e.operation (some me) = some b) :
    Entitled hist me b := by
  cases e with
  | sendRequest thisPlay i now =>
    obtain rfl := Option.some.inj hb
    simp only [handle] at h
    split at h
    · obtain ⟨⟨rfl, hne⟩, -⟩ := Option.ite_none_right_eq_some.1 h
      exact ⟨rfl, hstack _ List.mem_cons_self, fun heq => hne (congrArg some heq.symm)⟩
    · cases h
  | establish e save i now =>
    simp only [handle] at h
    split at h
    · rename_i vc rest
      obtain ⟨⟨vc', saves⟩, hissue, h⟩ := Option.bind_eq_some_iff.1 h
      obtain ⟨rfl, -⟩ : saves = save.toList ∧ _ := Option.ite_none_right_eq_some.1 h
      obtain ⟨-, hall⟩ := EstablishFinderViewController.owner_issue hissue
      obtain ⟨hme, hmine⟩ := hstack _ List.mem_cons_self
      rcases save with _ | thisPlay | thisPlay
      · cases hb
      · obtain rfl := Option.some.inj hb
        have hsave := hall (.savePlay thisPlay) List.mem_cons_self
        exact (congrArg Prod.snd hsave.owner).trans hme
      · obtain rfl := Option.some.inj hb
        have hsave := hall (.updatePlay thisPlay) List.mem_cons_self
        obtain ⟨loaded, hloaded, hsame, hfinder⟩ := hmine (hsave.updates thisPlay rfl)
        exact ⟨loaded, hloaded, hsame.trans hsave.owner.symm,
          (congrArg Prod.snd hsave.owner).trans hfinder⟩
    · cases h
  | deletePost thisPlay =>
    obtain rfl := Option.some.inj hb
    simp only [handle] at h
    split at h
    · obtain ⟨⟨rfl, hid⟩, -⟩ := Option.ite_none_right_eq_some.1 h
      exact (hstack _ List.mem_cons_self).2 hid
    · cases h
  | acceptRequest cell captured =>
    obtain ⟨request, rfl, rfl⟩ := Option.map_eq_some_iff.1 hb
    simp only [handle] at h
    split at h
    · obtain ⟨screen, hscreen, -⟩ := Option.map_eq_some_iff.1 h
      exact receivedAs_of_tap (hstack _ List.mem_cons_self) rfl hscreen
    · cases h
  | denyRequest cell captured =>
    obtain ⟨request, rfl, rfl⟩ := Option.map_eq_some_iff.1 hb
    simp only [handle] at h
    split at h
    · obtain ⟨screen, hscreen, -⟩ := Option.map_eq_some_iff.1 h
      exact receivedAs_of_tap (hstack _ List.mem_cons_self) rfl hscreen
    · cases h
  | cancelRequest thisRequest =>
    obtain ⟨request, rfl, rfl⟩ := Option.map_eq_some_iff.1 hb
    simp only [handle] at h
    split at h
    · obtain ⟨⟨rfl, -⟩, -⟩ := Option.ite_none_right_eq_some.1 h
      exact hstack _ List.mem_cons_self request rfl
    · cases h
  | _ => cases hb

end Screen

end Volleyer
