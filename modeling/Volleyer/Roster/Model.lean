import Volleyer.Common.Collection
import Volleyer.Common.Machine
import Volleyer.Model.Documents

/-!
# The roster — the managers' operations as a machine

Who plays is stored three times: as the status of a request, in the
play's `player_info` and in the player's `my_play_list`. The operations
of `FinderDataManager` and `RequestDataManager` that write any of the
three are calls of one machine. A task is one Firestore request in
flight with what its callback captured; answering it `ok` applies it
atomically and runs the callback, answering it `failed` prints an error
and nothing else.

`allocated` holds the ids `document()` has handed out. No operation here
writes `UserDefaults`, so the two reads of the signed-in account in
`saveRequest` are one argument, `me`.
-/

namespace Volleyer

/-- The collections the operations read and write. -/
structure Server where
  users : Collection String (Doc UserTitle)
  plays : Collection String (Doc PlayTitle)
  requests : Collection String (Doc PlayRequestTitle)
  allocated : List String

/-- The three ways a callback rewrites a list it has read. -/
inductive ListEdit
  | append
  | remove
  | removeFound
deriving DecidableEq, Repr

namespace ListEdit

/-- The list a callback writes back, or `none` where it writes nothing.
`remove` writes also where the element is not found; `removeFound`, the
`deletePlayIdToUserPlayList` of `FinderDataManager`, does not. -/
def callback : ListEdit → String → List String → Option (List String)
  | append, x, xs => some (xs ++ [x])
  | remove, x, xs => some (match xs.idxOf? x with
      | some deleteIndex => xs.eraseIdx deleteIndex
      | none => xs)
  | removeFound, x, xs => (xs.idxOf? x).map fun deleteIndex => xs.eraseIdx deleteIndex

end ListEdit

/-- **A Firestore request in flight**, with what its callback captured. -/
inductive Task
  /-- `document.setData` of `savePlay` -/
  | setPlay (documentID : String) (data : Fields PlayTitle) (finderId : String)
  /-- `plays.document(_).updateData` of `updatePlay` -/
  | updatePlay (documentID : String) (data : Fields PlayTitle)
  /-- `plays.document(_).delete` of `deletePlay` -/
  | deletePlay (documentID : String)
  /-- the query of `saveRequest` -/
  | querySameRequest (documentID : String) (data : Fields PlayRequestTitle) (play : Play)
      (me : Option String)
  /-- `document.setData` of `saveRequest` -/
  | setRequest (documentID : String) (data : Fields PlayRequestTitle)
  /-- `updateData` of the status in `updateRequest` -/
  | updateStatus (request : PlayRequest) (status : ℤ)
  /-- `updateData` of the status in `cancelRequest` -/
  | cancelStatus (request : PlayRequest)
  /-- the query of a helper that edits `my_play_list` -/
  | getUsers (edit : ListEdit) (playId userId : String)
  /-- `updateData` of `my_play_list` -/
  | setMyPlayList (documentID : String) (myPlayList : List String)
  /-- the read of a helper that edits `player_info` -/
  | getPlay (edit : ListEdit) (userId playId : String)
  /-- `updateData` of `player_info` -/
  | setPlayerInfo (documentID : String) (playInfo : List String)
  /-- the query of `deletaAllRequestOfPlayId` -/
  | queryRequests (playId : String)
  /-- `delete` of one request in `deletaAllRequestOfPlayId` -/
  | deleteRequest (documentID : String)

/-! ## The helpers both managers have -/

/-- The common body of the helpers that edit `my_play_list`. -/
def editMyPlayList (edit : ListEdit) (playId userId : String) : List Task :=
  [.getUsers edit playId userId]

/-- The common body of the helpers that edit `player_info`. -/
def editPlayerInfo (edit : ListEdit) (userId playId : String) : List Task :=
  [.getPlay edit userId playId]

/-- `appendPlayIdToUserPlayList` of either manager. -/
def appendPlayIdToUserPlayList (playId userId : String) : List Task :=
  editMyPlayList .append playId userId

/-- `appendUserIdToPlayPlayerInfo` of either manager. -/
def appendUserIdToPlayPlayerInfo (userId playId : String) : List Task :=
  editPlayerInfo .append userId playId

/-- `deleteUserIdToPlayPlayerInfo` of either manager. -/
def deleteUserIdToPlayPlayerInfo (userId playId : String) : List Task :=
  editPlayerInfo .remove userId playId

/-- `deletaAllRequestOfPlayId` of either manager. -/
def deletaAllRequestOfPlayId (playId : String) : List Task :=
  [.queryRequests playId]

namespace FinderDataManager

def deletePlayIdToUserPlayList (playId userId : String) : List Task :=
  editMyPlayList .removeFound playId userId

/-- The fields `savePlay` stores; the roster starts with the finder. -/
def savePlayData (play : Play) (documentID : String) (now : Date) : Fields PlayTitle :=
  [(.id, .string documentID), (.finderId, .string play.finderId), (.createTime, .timestamp now),
    (.startTime, .timestamp play.startTime), (.endTime, .timestamp play.endTime),
    (.place, .string play.place), (.price, .int play.price), (.type, .int play.type),
    (.levelRange, play.levelRange.value), (.lackAmount, play.lackAmount.value),
    (.playerInfo, .strings [play.finderId]), (.status, .int play.status),
    (.levelFilter, .bool play.levelFilter), (.followerListId, .strings play.followerListId)]

def savePlay (play : Play) (documentID : String) (now : Date) : List Task :=
  [.setPlay documentID (savePlayData play documentID now) play.finderId]

/-- The fields `updatePlay` names. -/
def updatePlayData (play : Play) : Fields PlayTitle :=
  [(.startTime, .timestamp play.startTime), (.endTime, .timestamp play.endTime),
    (.place, .string play.place), (.price, .int play.price), (.type, .int play.type),
    (.levelRange, play.levelRange.value), (.lackAmount, play.lackAmount.value)]

def updatePlay (play : Play) : List Task :=
  [.updatePlay play.id (updatePlayData play)]

/-- The clean-up is issued beside the deletion, over the roster of the
value passed in. -/
def deletePlay (play : Play) : List Task :=
  .deletePlay play.id ::
    (play.playerInfo.flatMap fun userId => deletePlayIdToUserPlayList play.id userId) ++
    deletaAllRequestOfPlayId play.id

end FinderDataManager

namespace RequestDataManager

def deletePlayIdToUserPlayList (playId userId : String) : List Task :=
  editMyPlayList .remove playId userId

/-- The fields `saveRequest` stores. The list of players it builds from
its argument is not among them: an empty one is stored. -/
def saveRequestData (play : Play) (me : Option String) (now : Date) : Fields PlayRequestTitle :=
  [(.requestSenderId, me.elim .null .string), (.requestReceiverId, .string play.finderId),
    (.playId, .string play.id), (.status, .int 0), (.requestPlayerList, .strings []),
    (.createTime, .timestamp now)]

def saveRequest (play : Play) (_playerList : List Player) (me : Option String)
    (documentID : String) (now : Date) : List Task :=
  [.querySameRequest documentID (saveRequestData play me now) play me]

/-- Whether the callback of `saveRequest` lets the request through: no
document of the play has this sender and this receiver. -/
def canSendRequest (play : Play) (me : Option String) (documents : List (Doc PlayRequestTitle)) :
    Bool :=
  documents.all fun document =>
    !(document.string .requestSenderId == me &&
      document.string .requestReceiverId == some play.finderId)

def updateRequest (request : PlayRequest) (status : ℤ) : List Task :=
  [.updateStatus request status]

def cancelRequest (request : PlayRequest) : List Task :=
  [.cancelStatus request]

end RequestDataManager

/-! ## Answers -/

namespace Server

/-- The user documents a helper's query answers. -/
def usersWithFirebaseId (s : Server) (userId : String) : List (String × Doc UserTitle) :=
  s.users.query fun document => document.string .firebaseId == some userId

/-- The request documents of a play. -/
def requestsOfPlay (s : Server) (playId : String) : List (String × Doc PlayRequestTitle) :=
  s.requests.query fun document => document.string .playId == some playId

/-- A write of `updateData` to a user document. -/
def updateUser (s : Server) (documentID : String) (data : Fields UserTitle) : Server :=
  { s with users := s.users.modify documentID (·.updateData data) }

/-- A write of `updateData` to a play document. -/
def updatePlay (s : Server) (documentID : String) (data : Fields PlayTitle) : Server :=
  { s with plays := s.plays.modify documentID (·.updateData data) }

/-- A write of `updateData` to a request document. -/
def updateRequest (s : Server) (documentID : String) (data : Fields PlayRequestTitle) : Server :=
  { s with requests := s.requests.modify documentID (·.updateData data) }

end Server

open FinderDataManager RequestDataManager in
/-- **What an answered task does.** `updateData` of a missing document is
an error, and so runs no callback. -/
def answerOk (s : Server) : Task → Server × List Task
  | .setPlay documentID data finderId =>
      ({ s with plays := s.plays.set documentID (Doc.setData data) },
        appendPlayIdToUserPlayList documentID finderId)
  | .updatePlay documentID data => (s.updatePlay documentID data, [])
  | .deletePlay documentID => ({ s with plays := s.plays.delete documentID }, [])
  | .querySameRequest documentID data play me =>
      let documents := (s.requestsOfPlay play.id).map Prod.snd
      if documents.length = 0 then (s, [.setRequest documentID data])
      else if canSendRequest play me documents then (s, [.setRequest documentID data])
      else (s, [])
  | .setRequest documentID data =>
      ({ s with requests := s.requests.set documentID (Doc.setData data) }, [])
  | .updateStatus request status =>
      match s.requests.get request.id with
      | none => (s, [])
      | some _ =>
        (s.updateRequest request.id [(.status, .int status)],
          if status = 99 then
            appendPlayIdToUserPlayList request.playId request.requestSenderId ++
              appendUserIdToPlayPlayerInfo request.requestSenderId request.playId
          else [])
  | .cancelStatus request =>
      match s.requests.get request.id with
      | none => (s, [])
      | some _ =>
        (s.updateRequest request.id [(.status, .int (-1))],
          if request.status = 99 then
            RequestDataManager.deletePlayIdToUserPlayList request.playId
                request.requestSenderId ++
              deleteUserIdToPlayPlayerInfo request.requestSenderId request.playId
          else [])
  | .getUsers edit playId userId =>
      (s, (s.usersWithFirebaseId userId).filterMap fun userDocument =>
        ((userDocument.2.strings .myPlayList).bind (edit.callback playId)).map
          (.setMyPlayList ((userDocument.2.string .firebaseId).getD "no id")))
  | .setMyPlayList documentID myPlayList =>
      (s.updateUser documentID [(.myPlayList, .strings myPlayList)], [])
  | .getPlay edit userId playId =>
      (s, (((s.plays.get playId).bind (·.strings .playerInfo)).bind
        (edit.callback userId)).toList.map (.setPlayerInfo playId))
  | .setPlayerInfo documentID playInfo =>
      (s.updatePlay documentID [(.playerInfo, .strings playInfo)], [])
  | .queryRequests playId =>
      (s, (s.requestsOfPlay playId).map fun document => .deleteRequest document.1)
  | .deleteRequest documentID => ({ s with requests := s.requests.delete documentID }, [])

/-- The answer to a task: a failed one only prints. -/
def answer (s : Server) (t : Task) : Reply → Server × List Task
  | .ok => answerOk s t
  | .failed => (s, [])

/-! ## Calls -/

/-- The operations, with the id `document()` answers and the date where
the operation takes one. -/
inductive Call
  | savePlay (play : Play) (documentID : String) (now : Date)
  | updatePlay (play : Play)
  | deletePlay (play : Play)
  | saveRequest (play : Play) (playerList : List Player) (me : Option String)
      (documentID : String) (now : Date)
  | updateRequest (request : PlayRequest) (status : ℤ)
  | cancelRequest (request : PlayRequest)
deriving DecidableEq

/-- `document()`: an id never handed out before. -/
def Server.allocate (s : Server) (documentID : String) (ts : List Task) :
    Option (Server × List Task) :=
  if documentID ∈ s.allocated then none
  else some ({ s with allocated := documentID :: s.allocated }, ts)

/-- What a call puts in flight. -/
def issue (s : Server) : Call → Option (Server × List Task)
  | .savePlay play documentID now =>
      s.allocate documentID (FinderDataManager.savePlay play documentID now)
  | .updatePlay play => some (s, FinderDataManager.updatePlay play)
  | .deletePlay play => some (s, FinderDataManager.deletePlay play)
  | .saveRequest play playerList me documentID now =>
      s.allocate documentID (RequestDataManager.saveRequest play playerList me documentID now)
  | .updateRequest request status => some (s, RequestDataManager.updateRequest request status)
  | .cancelRequest request => some (s, RequestDataManager.cancelRequest request)

/-- **The roster machine.** -/
def roster : Machine Server Call Task Reply where
  issue := issue
  answer := answer

end Volleyer
