import Volleyer.Feed.Model
import Volleyer.Screen.Pages
import Volleyer.Screen.Sent
import Volleyer.Session.EstablishForm

/-!
# The app — every device, with the screens that call the managers

A device is signed in as one account and shows two stacks of screens that
can change the roster: the one of the home page and the one of the
account's page. A screen holds what it was handed when it was pushed and
what was delivered to it since, of whatever age; its controls call the
managers on that. The machine is the roster machine with the stacks of
all the devices beside the store.

A delivery may reach a screen that is covered; only the top one can be
tapped. The tabs without such calls, and the pages of profiles, blocks
and reports, are left out.
-/

namespace Volleyer

deriving instance DecidableEq for PlaySave

/-! ## Screens -/

/-- **A screen** of a stack, with what it holds. -/
inductive Screen
  | finder (vc : FinderViewController)
  | addPlay (thisPlay : Play)
  | establishFinder (vc : EstablishFinderViewController)
  | my (vc : MyViewController)
  | myPlays (vc : MyPlaysViewController)
  | myFinders (vc : MyFindersViewController)
  | myFinderInfo (thisPlay : Play)
  | requestsReceived (vc : RequestsReceivedViewController)
  | requestSent (vc : RequestSentViewController)
  /-- of a sent request, or, with none, of a received one -/
  | info (thisRequest : Option PlayRequest)

/-- **What happens on a stack.** A delivery names the depth of the screen it
reaches, the top one at `0`. The label of a control says what the screen,
or the closure of the cell, passes to the manager. -/
inductive ScreenEvent
  | getPublishPlay (depth : ℕ) (user : Fetched (Doc UserTitle)) (plays : Fetched (List Examined))
  | getThisUserPlays (depth : ℕ) (plays : List Play)
  | getPlayRequests (depth : ℕ) (clock : String → Date)
      (documents : List (String × Doc PlayRequestTitle))
  | updateRequestsSentTableView (depth : ℕ) (modifiedRequest : PlayRequest)
  | cellForRowAt (depth row cell : ℕ)
  /-- the completion of `deletePost` -/
  | successDeletePost
  | back
  | pushToEstablishVC (now : Date)
  | pushToMyFinders
  | pushToMyPlays
  | pushToRequestsReceive
  | pushToRequestsSend
  | didSelectRowAt (row : ℕ)
  | sendRequest (thisPlay : Play) (documentID : String) (now : Date)
  | establish (e : EstablishEvent) (save : Option PlaySave) (documentID : String) (now : Date)
  | deletePost (thisPlay : Play)
  | acceptRequest (cell : ℕ) (request : Option PlayRequest)
  | denyRequest (cell : ℕ) (request : Option PlayRequest)
  | cancelRequest (thisRequest : Option PlayRequest)

/-- **The call of a manager** an event makes, on the device of `me`. -/
def ScreenEvent.operation (me : Option String) : ScreenEvent → Option Call
  | .sendRequest thisPlay documentID now => some (.saveRequest thisPlay [] me documentID now)
  | .establish _ (some (.savePlay thisPlay)) documentID now =>
      some (.savePlay thisPlay documentID now)
  | .establish _ (some (.updatePlay thisPlay)) _ _ => some (.updatePlay thisPlay)
  | .deletePost thisPlay => some (.deletePlay thisPlay)
  | .acceptRequest _ request => request.map (.updateRequest · 99)
  | .denyRequest _ request => request.map (.updateRequest · 1)
  | .cancelRequest thisRequest => thisRequest.map .cancelRequest
  | _ => none

namespace Screen

/-- `isKind(of: MyFindersViewController.self)` -/
def isMyFinders : Screen → Bool
  | .myFinders _ => true
  | _ => false

/-- `popToRootViewController` -/
def popToRoot (stack : List Screen) : List Screen := stack.drop (stack.length - 1)

/-- `popToViewController` of the first `MyFindersViewController` among the
`viewControllers`, which the root comes first of. -/
def popToMyFinders (stack : List Screen) : List Screen :=
  match stack.reverse.findIdx? isMyFinders with
  | some i => stack.drop (stack.length - (i + 1))
  | none => stack

/-- A delegate's method at a depth of the stack. -/
def deliver (stack : List Screen) (depth : ℕ) (f : Screen → Option Screen) :
    Option (List Screen) :=
  (stack[depth]?.bind f).map (stack.set depth)

/-- The screen of requests, and what a tap or a drawn cell makes of it. -/
def onReceived (s : Server) (a : ReceivedCall) (vc : RequestsReceivedViewController) :
    Option Screen :=
  (RequestsReceivedViewController.issue ⟨s, vc⟩ a).map fun p => .requestsReceived p.1.screen

/-- **What an event leaves of a stack**, the top first, if it can happen. -/
def handle (texts : Texts) (me : Option String) (s : Server) (stack : List Screen) :
    ScreenEvent → Option (List Screen)
  | .getPublishPlay depth user plays => deliver stack depth fun
      | .finder vc => some (.finder
          ((FinderDataManager.getPublishPlay user plays).foldl FinderViewController.didGet vc))
      | _ => none
  | .getThisUserPlays depth plays => deliver stack depth fun
      | .myPlays vc => some (.myPlays (vc.didGet plays))
      | .myFinders vc => some (.myFinders (vc.didGet me plays))
      | _ => none
  | .getPlayRequests depth clock documents =>
      (RequestDataManager.getPlayRequests me clock documents).bind fun playRequests =>
        deliver stack depth fun
          | .requestsReceived vc => some (.requestsReceived { vc with myRequests := playRequests.1 })
          | .requestSent vc => some (.requestSent (vc.iSent playRequests.2))
          | .my vc => some (.my ((vc.iReceive playRequests.1).iSent playRequests.2))
          | _ => none
  | .updateRequestsSentTableView depth modifiedRequest => deliver stack depth fun
      | .requestSent vc => some (.requestSent (vc.updateRequestsSentTableView modifiedRequest))
      | _ => none
  | .cellForRowAt depth row cell => deliver stack depth fun
      | .requestsReceived vc => onReceived s (.cellForRowAt row cell) vc
      | _ => none
  | .successDeletePost => some (popToMyFinders stack)
  | .back => if 1 < stack.length then some (stack.drop 1) else none
  | .pushToEstablishVC now =>
      match stack with
      | .finder vc :: rest =>
          (EstablishFinderViewController.viewDidLoad texts (blankPlay me now) now).map fun form =>
            .establishFinder form :: .finder vc :: rest
      | .myFinderInfo thisPlay :: rest =>
          (EstablishFinderViewController.viewDidLoad texts thisPlay now).map fun form =>
            .establishFinder form :: .myFinderInfo thisPlay :: rest
      | _ => none
  | .pushToMyFinders => push (.myFinders {})
  | .pushToMyPlays => push (.myPlays {})
  | .pushToRequestsReceive => push (.requestsReceived {})
  | .pushToRequestsSend => push (.requestSent {})
  | .didSelectRowAt row =>
      (stack.head?.bind fun
        | .finder vc => vc.publicPlays[row]?.map .addPlay
        | .myFinders vc => vc.myFinders[row]?.map .myFinderInfo
        | .requestsReceived vc => vc.myRequests[row]?.map fun _ => .info none
        | .requestSent vc => vc.myRequests[row]?.map fun thisRequest => .info (some thisRequest)
        | _ => none).map (· :: stack)
  | .sendRequest thisPlay _ _ =>
      match stack with
      | .addPlay play :: _ =>
          -- the button is hidden from the finder
          if play = thisPlay ∧ some play.finderId ≠ me then some (popToRoot stack) else none
      | _ => none
  | .establish e save _ _ =>
      match stack with
      | .establishFinder vc :: rest =>
          (vc.issue texts e).bind fun p =>
            if p.2 = save.toList then
              match save with
              | none => some (.establishFinder p.1 :: rest)
              | some (.savePlay _) => some (popToRoot (.establishFinder p.1 :: rest))
              | some (.updatePlay _) => some (popToMyFinders (.establishFinder p.1 :: rest))
            else none
      | _ => none
  | .deletePost thisPlay =>
      match stack with
      | .establishFinder vc :: _ =>
          -- the button shows for a play that was saved
          if vc.form.thisPlay = thisPlay ∧ thisPlay.id ≠ "" then some stack else none
      | _ => none
  | .acceptRequest cell request =>
      match stack with
      | .requestsReceived vc :: rest =>
          (onReceived s (.acceptRequest cell request) vc).map (· :: rest)
      | _ => none
  | .denyRequest cell request =>
      match stack with
      | .requestsReceived vc :: rest =>
          (onReceived s (.denyRequest cell request) vc).map (· :: rest)
      | _ => none
  | .cancelRequest thisRequest =>
      match stack with
      | .info request :: rest =>
          -- the button is disabled for a request that was cancelled
          if request = thisRequest ∧ request.map PlayRequest.status ≠ some (-1) then some rest
          else none
      | _ => none
where
  /-- a page the account's page opens -/
  push (page : Screen) : Option (List Screen) :=
    match stack with
    | .my vc :: rest => some (page :: .my vc :: rest)
    | _ => none

end Screen

/-! ## The machine -/

/-- The tabs whose screens call the managers. -/
inductive Tab
  | finder
  | profile
deriving DecidableEq

/-- **The store, with the stacks** of every device beside it. -/
structure App where
  server : Server
  viewControllers : ℕ → Tab → List Screen

/-- **An event of a device.** -/
structure AppCall where
  device : ℕ
  tab : Tab
  event : ScreenEvent

/-- The call of a manager it makes; `account` is whom each device is signed
in as. -/
def AppCall.operation (account : ℕ → String) (a : AppCall) : Option Call :=
  a.event.operation (some (account a.device))

namespace App

/-- A device that has been signed in. -/
def start (server : Server) : App where
  server := server
  viewControllers _ := fun
    | .finder => [.finder {}]
    | .profile => [.my {}]

/-- The app with one stack replaced. -/
def setStack (s : App) (device : ℕ) (tab : Tab) (stack : List Screen) : App :=
  { s with viewControllers := fun device' tab' =>
      if device' = device ∧ tab' = tab then stack else s.viewControllers device' tab' }

/-- **What an event does**: to its stack, and what its call puts in
flight. -/
def issue (texts : Texts) (account : ℕ → String) (s : App) (a : AppCall) :
    Option (App × List Task) :=
  (Screen.handle texts (some (account a.device)) s.server (s.viewControllers a.device a.tab)
    a.event).bind fun stack =>
      match a.operation account with
      | none => some (s.setStack a.device a.tab stack, [])
      | some b => (Volleyer.issue s.server b).map fun p =>
          ({ s.setStack a.device a.tab stack with server := p.1 }, p.2)

end App

/-- **The devices over the roster machine.** -/
def app (texts : Texts) (account : ℕ → String) : Machine App AppCall Task Reply where
  issue := App.issue texts account
  answer s t r := ({ s with server := (answer s.server t r).1 }, (answer s.server t r).2)

variable {texts : Texts} {account : ℕ → String} {s s' : App} {a : AppCall} {ts : List Task}

/-- **What an event does**, its call or none. -/
theorem app_issue_cases (h : (app texts account).issue s a = some (s', ts)) :
    ∃ stack, Screen.handle texts (some (account a.device)) s.server
        (s.viewControllers a.device a.tab) a.event = some stack ∧
      s'.viewControllers = (s.setStack a.device a.tab stack).viewControllers ∧
      (a.operation account = none ∧ s'.server = s.server ∧ ts = [] ∨
        ∃ b, a.operation account = some b ∧ issue s.server b = some (s'.server, ts)) := by
  obtain ⟨stack, hstack, h⟩ := Option.bind_eq_some_iff.1 h
  refine ⟨stack, hstack, ?_⟩
  cases hop : a.operation account with
  | none =>
    simp only [hop] at h
    obtain ⟨rfl, rfl⟩ := Prod.mk.inj (Option.some.inj h)
    exact ⟨rfl, .inl ⟨rfl, rfl, rfl⟩⟩
  | some b =>
    simp only [hop] at h
    obtain ⟨⟨s₁, ts₁⟩, hi, heq⟩ := Option.map_eq_some_iff.1 h
    obtain ⟨rfl, rfl⟩ := Prod.mk.inj heq
    exact ⟨rfl, .inr ⟨b, rfl, hi⟩⟩

/-- **The devices run the roster machine.** -/
theorem app_simulates {ok : Config App Task → Event AppCall Reply → Prop} :
    Simulates (app texts account) roster ok (fun s' s => s'.server = s)
      (AppCall.operation account) where
  call {c' s a b s₁ ts} _ hs hb hi := by
    subst hs
    obtain ⟨-, -, -, ⟨hnone, -⟩ | ⟨b', hb', hissue⟩⟩ := app_issue_cases hi
    · rw [hb] at hnone
      cases hnone
    · obtain rfl := Option.some.inj (hb.symm.trans hb')
      exact ⟨_, hissue, rfl⟩
  silent {c' s a s₁ ts} _ hs hb hi := by
    subst hs
    obtain ⟨-, -, -, ⟨-, hserver, hts⟩ | ⟨b', hb', -⟩⟩ := app_issue_cases hi
    · exact ⟨hserver, hts⟩
    · rw [hb] at hb'
      cases hb'
  answer _ _ hs := by
    subst hs
    exact ⟨rfl, rfl⟩

end Volleyer
