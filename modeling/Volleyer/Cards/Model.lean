import Volleyer.LineUp.Screen

/-!
# Cards — who plays with a finder, and the pages that say so

A finder in the line-up has a document of five players, each a name and
the address of a photo. It is made when the finder lines up and removed
when they cancel (`PlayOneDataManager`, in `Volleyer.LineUp.Model`); the
page of a finder (`PlayOneFinderViewController`) shows it, and where the
finder is the account of the device it leads to a camera page
(`CameraViewController`), which stores a photo and then names it.

The pages lie on a stack above the line-up of the tab. `savePlayOneImage`
is three requests, one after the other: the photo is stored under a path
of the finder and the player, its address is asked for, and name and
address are written to the document. The storage gives the object it
stores after `k` others the address `url path k`, and `URL(string:)`
accepts the texts `isURL` accepts. The progress views are left out: a tap
they keep from a page may happen here.
-/

namespace Volleyer

/-! ## The document of a finder -/

namespace PlayerTitle

/-- The key of a player, which is also part of the path of the photo. -/
def rawValue : PlayerTitle → String
  | player1 => "player1"
  | player2 => "player2"
  | player3 => "player3"
  | player4 => "player4"
  | player5 => "player5"

theorem rawValue_injective : Function.Injective rawValue := by
  intro a b h
  cases a <;> cases b <;> first | rfl | simp [rawValue] at h

end PlayerTitle

/-- One of the players of a finder. -/
structure PlayerN where
  name : String
  image : String
deriving DecidableEq, Repr

/-- The dictionary a player is stored as. -/
def PlayerN.value (playerN : PlayerN) : Value :=
  .map [("name", .string playerN.name), ("image", .string playerN.image)]

/-- The keys `getPlayOneFinderData` reads, in this order. -/
def playersTitle : List PlayerTitle := [.player1, .player2, .player3, .player4, .player5]

/-- What it reads under one key. -/
def decodePlayerN (document : Doc PlayerTitle) (playern : PlayerTitle) : PlayerN :=
  let player := (document playern).bind Value.asStringDict
  { name := (player.bind (·.lookup "name")).getD ""
    image := (player.bind (·.lookup "image")).getD "" }

/-- The players of a document. -/
def fivePlayersData (document : Doc PlayerTitle) : List PlayerN :=
  playersTitle.map (decodePlayerN document)

/-- What is stored is read. -/
theorem decodePlayerN_of_value {document : Doc PlayerTitle} {playern : PlayerTitle}
    {playerN : PlayerN} (h : document playern = some playerN.value) :
    decodePlayerN document playern = playerN := by
  rw [decodePlayerN, h]
  rfl

/-! ## The pages -/

/-- The bytes of a photo. -/
abbrev ImageData := List UInt8

/-- **The page of a finder**, loaded: whether the camera buttons are hidden,
and for each player the text of the label and the address the image view
was last given. -/
structure PlayOneFinderPage extends PlayOneFinderViewController where
  takePlayerPhotoButtonIsHidden : Bool
  playerNameLabel : PlayerTitle → String := fun _ => "Loading"
  playerImageView : PlayerTitle → Option String := fun _ => none

namespace PlayOneFinderPage

/-- The body of the loop of `manager(_:didget:)`. -/
def showPlayer (isURL : String → Bool) (vc : PlayOneFinderPage)
    (player : PlayerTitle × PlayerN) : PlayOneFinderPage :=
  { vc with
    playerNameLabel := Function.update vc.playerNameLabel player.1
      (if player.2.name = "" then "目前沒人" else player.2.name)
    playerImageView :=
      if isURL player.2.image then
        Function.update vc.playerImageView player.1 (some player.2.image)
      else vc.playerImageView }

/-- `manager(_:didget:)` -/
def didget (isURL : String → Bool) (vc : PlayOneFinderPage) (playerN : List PlayerN) :
    PlayOneFinderPage :=
  (playersTitle.zip playerN).foldl (showPlayer isURL) vc

end PlayOneFinderPage

/-- **The camera page.** Once a photo is taken the button that took it
sends it. -/
structure CameraViewController where
  finderInfo : User
  playerN : PlayerTitle
  nameTextField : String := ""
  imageTook : Option ImageData := none

/-- A page above the line-up, numbered in the order of their making. -/
inductive CardScreen
  | finder (number : ℕ) (vc : PlayOneFinderPage)
  | camera (number : ℕ) (vc : CameraViewController)

def CardScreen.number : CardScreen → ℕ
  | finder number _ => number
  | camera number _ => number

/-- A delivery to the page of a number. -/
def CardScreen.didget (isURL : String → Bool) (number : ℕ) (playerN : List PlayerN) :
    CardScreen → CardScreen
  | finder i vc => .finder i (if i = number then vc.didget isURL playerN else vc)
  | camera i vc => .camera i vc

/-! ## The state and the requests in flight -/

/-- **A call of `savePlayOneImage`**: its number, the page it was made on,
and its arguments. -/
structure SaveImage where
  number : ℕ
  device : ℕ
  page : ℕ
  finder : String
  playerN : PlayerTitle
  imageData : ImageData
  playerName : String
deriving DecidableEq

/-- Where the photo of a player of a finder is stored. -/
def savePath (firebaseId : String) (playerN : PlayerTitle) : String :=
  "playOneImages/" ++ firebaseId ++ " " ++ playerN.rawValue ++ ".png"

def SaveImage.savePath (call : SaveImage) : String := Volleyer.savePath call.finder call.playerN

/-- An object of the storage: the call that stored it, and how many it
stored before. -/
structure StoredImage where
  upload : SaveImage
  number : ℕ

/-- The line-up with its store, the storage, and for each device the pages
above the line-up, the last one first. `made` counts the pages and the
calls. -/
structure CardApp where
  playOne : PlayOneApp
  storage : Collection String StoredImage
  uploads : ℕ
  navigation : ℕ → List CardScreen
  made : ℕ

/-- **A request in flight.** -/
inductive CardTask
  | playOne (t : PlayOneTask)
  /-- the three requests of `savePlayOneImage` -/
  | putData (call : SaveImage)
  | downloadURL (call : SaveImage)
  | updateData (call : SaveImage) (urlString : String)
  /-- the read of `getPlayOneFinderData`, of a page -/
  | getPlayOneFinderData (device number : ℕ) (finder : String)

namespace CardApp

/-- Before any page has been opened. -/
def start (playOne : PlayOneApp) : CardApp where
  playOne := playOne
  storage := .empty
  uploads := 0
  navigation _ := []
  made := 0

def setNavigation (s : CardApp) (device : ℕ) (screens : List CardScreen) : CardApp :=
  { s with navigation := Function.update s.navigation device screens }

/-- `viewWillAppear` of the page on top. -/
def viewWillAppear (device : ℕ) : List CardScreen → List CardTask
  | .finder number vc :: _ => [.getPlayOneFinderData device number vc.finderInfo.firebaseId]
  | _ => []

/-- `popViewController`: the page below appears. -/
def popViewController (s : CardApp) (device : ℕ) : CardApp × List CardTask :=
  let screens := (s.navigation device).tail
  (s.setNavigation device screens, viewWillAppear device screens)

end CardApp

/-- **What an answered request does.** An upload that goes wrong at any of
its requests only tells so. A page that is gone is not popped, and is
delivered nothing. -/
def cardAnswerOk (url : String → ℕ → String) (isURL : String → Bool) (s : CardApp) :
    CardTask → CardApp × List CardTask
  | .playOne t =>
      let p := playOneAnswerOk s.playOne t
      ({ s with playOne := p.1 }, p.2.map .playOne)
  | .putData call =>
      ({ s with
          storage := s.storage.set call.savePath ⟨call, s.uploads⟩
          uploads := s.uploads + 1 },
        [.downloadURL call])
  | .downloadURL call =>
      match s.storage.get call.savePath with
      | none => (s, [])
      | some object => (s, [.updateData call (url call.savePath object.number)])
  | .updateData call urlString =>
      match s.playOne.playOneFinders.get call.finder with
      | none => (s, [])
      | some _ =>
        let data := [(call.playerN, PlayerN.value ⟨call.playerName, urlString⟩)]
        let s' :=
          { s with
            playOne.playOneFinders :=
              s.playOne.playOneFinders.modify call.finder (·.updateData data) }
        if call.page ∈ (s.navigation call.device).map CardScreen.number then
          s'.popViewController call.device
        else (s', [])
  | .getPlayOneFinderData device number finder =>
      match s.playOne.playOneFinders.get finder with
      | none => (s, [])
      | some document =>
        let playerN := fivePlayersData document
        (s.setNavigation device ((s.navigation device).map (CardScreen.didget isURL number playerN)),
          [])

/-- The answer to a request: a failed one leaves everything. -/
def cardAnswer (url : String → ℕ → String) (isURL : String → Bool) (s : CardApp) (t : CardTask) :
    Reply → CardApp × List CardTask
  | .ok => cardAnswerOk url isURL s t
  | .failed => (s, [])

/-! ## The events of the pages -/

/-- What happens to the pages: those of the line-up, a tap on one of its
finders, the tab shown again, a tap on the camera button of a player, the
name typed, the photo taken and sent, and the way back. -/
inductive CardCall
  | playOne (a : PlayOneCall)
  | tapAFinder (device whichCourt whichFinder : ℕ)
  | viewWillAppear (device : ℕ)
  | inputPlayerInfo (device : ℕ) (playerN : PlayerTitle)
  | editName (device : ℕ) (text : String)
  | takePhoto (device : ℕ) (imageData : ImageData)
  | dismissSelf (device : ℕ)
  | back (device : ℕ)

/-- Whether an event of the line-up can happen: the taps need its page on
top. -/
def PlayOneCall.reachable (navigation : ℕ → List CardScreen) : PlayOneCall → Bool
  | .viewDidLoad _ => true
  | .pullToRefresh device => (navigation device).isEmpty
  | .lineUp device _ => (navigation device).isEmpty
  | .cancelPlay device => (navigation device).isEmpty

/-- The call a tap on "完成拍照" makes: there has to be a photo, and a name. -/
def CardApp.submission (s : CardApp) (device : ℕ) : Option SaveImage :=
  match s.navigation device with
  | .camera number vc :: _ =>
      match vc.imageTook with
      | some imageTook =>
          if vc.nameTextField ≠ "" then
            some
              { number := s.made
                device := device
                page := number
                finder := vc.finderInfo.firebaseId
                playerN := vc.playerN
                imageData := imageTook
                playerName := vc.nameTextField }
          else none
      | none => none
  | _ => none

/-- **What an event does.** Where the source traps (a finder tapped while
the courts are loading) nothing follows. -/
def cardIssue (s : CardApp) : CardCall → Option (CardApp × List CardTask)
  | .playOne a =>
      if a.reachable s.navigation then
        (playOneIssue s.playOne a).map fun p => ({ s with playOne := p.1 }, p.2.map .playOne)
      else none
  | .tapAFinder device whichCourt whichFinder =>
      if device ∈ s.playOne.listening ∧ (s.navigation device).isEmpty then
        match (s.playOne.page device).playOneData[whichCourt]? with
        | none => none
        | some playOne =>
          match playOne.finders[whichFinder]? with
          | none => none
          | some finderInfo =>
            let nextVC : PlayOneFinderPage :=
              { finderInfo := finderInfo
                court := playOne.court ++ " play" ++ toString (whichFinder + 1)
                takePlayerPhotoButtonIsHidden :=
                  some finderInfo.firebaseId != s.playOne.firebaseId device }
            let screens := .finder s.made nextVC :: s.navigation device
            some ({ s.setNavigation device screens with made := s.made + 1 },
              CardApp.viewWillAppear device screens)
      else none
  | .viewWillAppear device => some (s, CardApp.viewWillAppear device (s.navigation device))
  | .inputPlayerInfo device playerN =>
      match s.navigation device with
      | .finder number vc :: rest =>
          if vc.takePlayerPhotoButtonIsHidden then none
          else
            let nextVC : CameraViewController := { finderInfo := vc.finderInfo, playerN := playerN }
            some ({ s.setNavigation device (.camera s.made nextVC :: .finder number vc :: rest) with
              made := s.made + 1 }, [])
      | _ => none
  | .editName device text =>
      match s.navigation device with
      | .camera number vc :: rest =>
          some (s.setNavigation device (.camera number { vc with nameTextField := text } :: rest),
            [])
      | _ => none
  | .takePhoto device imageData =>
      match s.navigation device with
      | .camera number vc :: rest =>
          if vc.imageTook.isNone then
            some (s.setNavigation device
              (.camera number { vc with imageTook := some imageData } :: rest), [])
          else none
      | _ => none
  | .dismissSelf device =>
      match s.navigation device with
      | .camera _ vc :: _ =>
          if vc.imageTook.isSome then
            some ({ s with made := s.made + 1 }, (s.submission device).toList.map .putData)
          else none
      | _ => none
  | .back device =>
      if (s.navigation device).isEmpty then none else some (s.popViewController device)

/-- **The machine of the play-one tab**, of any number of devices. -/
def playOneTab (url : String → ℕ → String) (isURL : String → Bool) :
    Machine CardApp CardCall CardTask Reply where
  issue := cardIssue
  answer := cardAnswer url isURL

end Volleyer
