import Volleyer.Courts.Model

/-!
# Lining up — the play-one page as a machine

A tap on a court's header lines the user up there and a confirmed tap on
the bar button takes them off again. Either edits the court's list by
reading it and writing it back (`courtEdits`), and has the user's document
of players stored or removed. A write that lands on a court is an event
of every page's listener; the page drops what it shows and calls
`getPlayOneCourts`, and only the delivery of that call sets the flag that
keeps the user from lining up again.

A page is one device's. `canAddPlay`, `courtIAdded` and the bar button
are the page's own, and everything the callbacks read of `UserDefaults`
is the id of the account that is signed in.
-/

namespace Volleyer

/-! ## The edits of a court's list -/

/-- `addFinderOFACourt` and `deleteFinderOFACourt`. -/
inductive FinderEdit
  | add
  | delete
deriving DecidableEq, Repr

/-- What an edit makes of the ids it read. -/
def FinderEdit.apply (finder : String) (userIds : List String) : FinderEdit → List String
  | .add => userIds ++ [finder]
  | .delete =>
      match userIds.idxOf? finder with
      | some finderIndex => userIds.eraseIdx finderIndex
      | none => userIds

/-- A request in flight of an edit. -/
inductive CourtEditTask
  /-- the read of the court -/
  | getDocument (edit : FinderEdit) (finder court : String)
  /-- the write of the whole list -/
  | updateData (edit : FinderEdit) (finder court : String) (userIds : List String)

/-- The courts. -/
abbrev PlayOneCourts := Collection String (Doc CourtTitle)

/-- What an answered request of an edit does. -/
def courtEditAnswerOk (playOneCourts : PlayOneCourts) :
    CourtEditTask → PlayOneCourts × List CourtEditTask
  | .getDocument edit finder court =>
      match playOneCourts.get court with
      | none => (playOneCourts, [])
      | some document =>
        (playOneCourts,
          [.updateData edit finder court (edit.apply finder (finderIds document))])
  | .updateData _ _ court userIds =>
      (playOneCourts.modify court (·.updateData [(.finderIds, .strings userIds)]), [])

def courtEditAnswer (playOneCourts : PlayOneCourts) (t : CourtEditTask) :
    Reply → PlayOneCourts × List CourtEditTask
  | .ok => courtEditAnswerOk playOneCourts t
  | .failed => (playOneCourts, [])

/-- The two calls, by anyone for any court. -/
inductive CourtEditCall
  | addFinderOFACourt (finder court : String)
  | deleteFinderOFACourt (finder court : String)

def courtEditIssue (playOneCourts : PlayOneCourts) :
    CourtEditCall → Option (PlayOneCourts × List CourtEditTask)
  | .addFinderOFACourt finder court => some (playOneCourts, [.getDocument .add finder court])
  | .deleteFinderOFACourt finder court =>
      some (playOneCourts, [.getDocument .delete finder court])

/-- **The machine of the edits**, of any number of users. -/
def courtEdits : Machine PlayOneCourts CourtEditCall CourtEditTask Reply where
  issue := courtEditIssue
  answer := courtEditAnswer

/-! ## The page -/

/-- The fields of a document of `play_one_finders`. -/
inductive PlayerTitle
  | player1 | player2 | player3 | player4 | player5
deriving DecidableEq, Repr

/-- The dictionary `createPlayOneFinder` stores. -/
def createPlayOneFinderData : Fields PlayerTitle :=
  [PlayerTitle.player1, .player2, .player3, .player4, .player5].map fun player =>
    (player, .map [("name", .string ""), ("image", .string "")])

/-- What `PlayOneViewController` keeps. -/
structure Page where
  playOneData : List PlayOne := []
  canAddPlay : Bool := true
  courtIAdded : Option String := none
  /-- whether the bar has the button that cancels -/
  rightBarButtonItem : Bool := false

namespace Page

/-- `playOneData.sort { $0.order < $1.order }` -/
def sortByOrder (playOneData : List PlayOne) : List PlayOne :=
  playOneData.insertionSort fun a b => a.order ≤ b.order

/-- The body of the loops over the courts and their finders. -/
def find (firebaseId : Option String) (playOne : PlayOne) (page : Page) (finder : User) : Page :=
  if firebaseId = some finder.firebaseId then
    { page with
      canAddPlay := false
      courtIAdded := some playOne.court
      rightBarButtonItem := true }
  else page

/-- `manager(_:didget:)`, on a device signed in as `firebaseId`. -/
def didget (firebaseId : Option String) (page : Page) (playOne : List PlayOne) : Page :=
  let playOneData := sortByOrder playOne
  playOneData.foldl
    (fun page playOne => playOne.finders.foldl (find firebaseId playOne) page)
    { page with playOneData := playOneData }

end Page

/-- The store, the calls of `getPlayOneCourts`, and on each device the
account of its `UserDefaults` and its page. `listening` are the devices
whose page has been loaded. -/
structure PlayOneApp where
  courts : Courts
  playOneFinders : Collection String (Doc PlayerTitle)
  firebaseId : ℕ → Option String
  page : ℕ → Page
  listening : List ℕ

namespace PlayOneApp

/-- A store before any page has been loaded. -/
def start (users : Collection String (Doc UserTitle)) (playOneCourts : PlayOneCourts)
    (playOneFinders : Collection String (Doc PlayerTitle)) (firebaseId : ℕ → Option String) :
    PlayOneApp where
  courts := .start users playOneCourts
  playOneFinders := playOneFinders
  firebaseId := firebaseId
  page _ := {}
  listening := []

def setPage (s : PlayOneApp) (device : ℕ) (page : Page) : PlayOneApp :=
  { s with page := Function.update s.page device page }

end PlayOneApp

/-- **A request in flight** of a page. -/
inductive PlayOneTask
  /-- a request of an edit -/
  | edit (t : CourtEditTask)
  | createPlayOneFinder (finder : String)
  | deletaPlayOnefinder (finder : String)
  /-- an event of the listener of a device's page -/
  | listenPlayOne (device : ℕ)
  /-- a request of `getPlayOneCourts`, called on a device -/
  | getPlayOneCourts (device : ℕ) (t : CourtsTask)

/-- The devices whose listener a request of an edit is an event of. -/
def CourtEditTask.heard (s : PlayOneApp) : CourtEditTask → List ℕ
  | .getDocument .. => []
  | .updateData _ _ court _ => if (s.courts.playOneCourts.get court).isSome then s.listening else []

/-- **What an answered request does.** The delegate of a call is the page
of the device it was made on. -/
def playOneAnswerOk (s : PlayOneApp) : PlayOneTask → PlayOneApp × List PlayOneTask
  | .edit t =>
      let p := courtEditAnswerOk s.courts.playOneCourts t
      ({ s with courts.playOneCourts := p.1 },
        p.2.map .edit ++ (t.heard s).map .listenPlayOne)
  | .createPlayOneFinder finder =>
      let document := Doc.setData createPlayOneFinderData
      ({ s with playOneFinders := s.playOneFinders.set finder document }, [])
  | .deletaPlayOnefinder finder =>
      ({ s with playOneFinders := s.playOneFinders.delete finder }, [])
  | .listenPlayOne device =>
      (s.setPage device { s.page device with playOneData := [] },
        [.getPlayOneCourts device .getCourts])
  | .getPlayOneCourts device t =>
      let p := courtsAnswerOk s.courts t
      let delivered := (p.1.notified.drop s.courts.notified.length).map Prod.snd
      let page := delivered.foldl (Page.didget (s.firebaseId device)) (s.page device)
      ({ s.setPage device page with courts := p.1 }, p.2.map (.getPlayOneCourts device))

/-- The answer to a request: a failed one only prints. -/
def playOneAnswer (s : PlayOneApp) (t : PlayOneTask) : Reply → PlayOneApp × List PlayOneTask
  | .ok => playOneAnswerOk s t
  | .failed => (s, [])

/-- What happens to a page: it is loaded, its header is pulled, and the
two taps, the one on the bar button with the alert confirmed. -/
inductive PlayOneCall
  | viewDidLoad (device : ℕ)
  | pullToRefresh (device : ℕ)
  | lineUp (device tag : ℕ)
  | cancelPlay (device : ℕ)

/-- **What an event of a page does.** A page is loaded once and has no
events before; the bar button has to be there for its tap. Where the
source traps (`playOneData[sender.tag]` out of range, `courtIAdded!` of
`nil`) nothing follows. -/
def playOneIssue (s : PlayOneApp) : PlayOneCall → Option (PlayOneApp × List PlayOneTask)
  | .viewDidLoad device =>
      if device ∈ s.listening then none
      else
        let loaded := s.setPage device {}
        some ({ loaded with listening := s.listening ++ [device] }, [.listenPlayOne device])
  | .pullToRefresh device =>
      if device ∈ s.listening then
        some (s.setPage device { s.page device with playOneData := [] },
          [.getPlayOneCourts device .getCourts])
      else none
  | .lineUp device tag =>
      if device ∈ s.listening then
        if (s.page device).canAddPlay then
          match (s.page device).playOneData[tag]? with
          | none => none
          | some playOne =>
            let finder := (s.firebaseId device).getD "No Id"
            some (s.setPage device { s.page device with rightBarButtonItem := true },
              [.createPlayOneFinder finder, .edit (.getDocument .add finder playOne.court)])
        else some (s, [])
      else none
  | .cancelPlay device =>
      if device ∈ s.listening ∧ (s.page device).rightBarButtonItem then
        match (s.page device).courtIAdded with
        | none => none
        | some court =>
          let finder := (s.firebaseId device).getD "No User Id"
          let page :=
            { s.page device with
              rightBarButtonItem := false
              canAddPlay := true
              courtIAdded := none }
          some (s.setPage device page,
            [.edit (.getDocument .delete finder court), .deletaPlayOnefinder finder])
      else none

/-- **The machine of the play-one pages.** -/
def playOne : Machine PlayOneApp PlayOneCall PlayOneTask Reply where
  issue := playOneIssue
  answer := playOneAnswer

end Volleyer
