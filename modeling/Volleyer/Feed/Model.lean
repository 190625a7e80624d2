import Mathlib.Data.List.Sort
import Volleyer.Common.Gather
import Volleyer.Model.Documents
import Volleyer.Screen.Received

/-!
# The home feed — `getPublishPlay` and the screen it fills

One call reads the user's document and then a snapshot of all plays. The
loop over the snapshot keeps an array and a count, and hands the array to
the delegate where the count reaches the number of documents: inside the
loop, in each branch that counts. `FinderViewController` is that
delegate, and keeps its plays from one refresh to the next.
-/

namespace Volleyer

/-- `Int64(now.timeIntervalSince1970)`, which drops the fraction of a
second. -/
def Timestamp.int64 (now : Date) : ℤ :=
  if now.seconds < 0 ∧ 0 < now.nanoseconds then now.seconds + 1 else now.seconds

/-- **A document of the snapshot**, with what the clock says when the
loop comes to it (`now`) and when `decodePlay` asks for a default. -/
structure Examined where
  documentID : String
  document : Doc PlayTitle
  now : Date
  decodedAt : Date

namespace Examined

/-- `self.decodePlay(document)` -/
def play (e : Examined) : Play := decodePlay e.documentID e.document e.decodedAt

/-- `document.data()[PlayTitle.startTime.rawValue] as? Timestamp` -/
def startTime (e : Examined) : Option Timestamp := e.document.timestamp .startTime

/-- `finderId ?? ""` -/
def finderId (e : Examined) : String := (e.document.string .finderId).getD ""

end Examined

/-- The order of a sort by `$0.startTime < $1.startTime`. -/
def Play.StartsBy (a b : Play) : Prop := ¬b.startTime.before a.startTime

instance (a b : Play) : Decidable (a.StartsBy b) := inferInstanceAs (Decidable ¬_)

/-- `playsArray.sort { $0.startTime < $1.startTime }` -/
def sortByStartTime (plays : List Play) : List Play := plays.insertionSort Play.StartsBy

namespace FinderDataManager

/-- The variables of the loop, and what the delegate was handed. -/
structure PublishLoop where
  playsArray : List Play := []
  numOfDocument : ℕ := 0
  delivered : List (List Play) := []

/-- `if numOfDocument == querySnapshot!.documents.count { … }` -/
def PublishLoop.deliver (count : ℕ) (s : PublishLoop) : PublishLoop :=
  if s.numOfDocument = count then
    let playsArray := sortByStartTime s.playsArray
    { s with playsArray := playsArray, delivered := s.delivered ++ [playsArray] }
  else s

/-- **One turn of the loop.** A document without a start time is not
counted. -/
def PublishLoop.examine (myBlockList : List String) (count : ℕ) (s : PublishLoop) (e : Examined) :
    PublishLoop :=
  match e.startTime with
  | none => s
  | some startTime =>
      if startTime.seconds > e.now.int64 then
        if myBlockList.idxOf? e.finderId = none then
          PublishLoop.deliver count
            { s with playsArray := s.playsArray ++ [e.play], numOfDocument := s.numOfDocument + 1 }
        else PublishLoop.deliver count { s with numOfDocument := s.numOfDocument + 1 }
      else PublishLoop.deliver count { s with numOfDocument := s.numOfDocument + 1 }

/-- `document.data()?[UserTitle.blockList.rawValue] as? [String] ?? []` -/
def myBlockList (document : Doc UserTitle) : List String := (document.strings .blockList).getD []

/-- **`getPublishPlay`**: the lists its delegate is called with, in
order. What is not answered is only printed. -/
def getPublishPlay (user : Fetched (Doc UserTitle)) (plays : Fetched (List Examined)) :
    List (List Play) :=
  match user with
  | .found document =>
      match plays with
      | .found documents =>
          (documents.foldl (PublishLoop.examine (myBlockList document) documents.length) {}).delivered
      | _ => []
  | _ => []

end FinderDataManager

/-- **The home screen**, as far as the delegate reaches it: the plays,
the rows last loaded from them, and what stands in their place. -/
structure FinderViewController where
  publicPlays : List Play := []
  finderTableView : List Play := []
  waitingAnimateHidden : Bool := false
  pleaseWaitLabelHidden : Bool := false
  noPostLabelShown : Bool := false
  title : String := "請稍候"

namespace FinderViewController

/-- `manager(_:didGet:)` -/
def didGet (vc : FinderViewController) (plays : List Play) : FinderViewController :=
  if plays.length > 0 then
    { vc with
      publicPlays := plays
      finderTableView := plays
      waitingAnimateHidden := true
      pleaseWaitLabelHidden := true
      title := "排球人" }
  else { vc with noPostLabelShown := true }

/-- `setNavBar()` -/
def setNavBar (vc : FinderViewController) : FinderViewController := { vc with title := "請稍候" }

end FinderViewController

/-- **A refresh**: whether the screen appears or the table was pulled, and
what the two reads of its `getPublishPlay` answer. -/
structure FeedRefresh where
  viewWillAppear : Bool
  user : Fetched (Doc UserTitle)
  plays : Fetched (List Examined)

namespace FeedRefresh

/-- What a refresh hands to the screen. -/
def delivered (r : FeedRefresh) : List (List Play) :=
  FinderDataManager.getPublishPlay r.user r.plays

/-- The screen after a refresh. -/
def run (vc : FinderViewController) (r : FeedRefresh) : FinderViewController :=
  r.delivered.foldl FinderViewController.didGet (if r.viewWillAppear then vc.setNavBar else vc)

/-- The screen after a history of refreshes. -/
def runAll (vc : FinderViewController) (rs : List FeedRefresh) : FinderViewController :=
  rs.foldl run vc

end FeedRefresh

end Volleyer
