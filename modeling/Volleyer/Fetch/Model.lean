import Volleyer.Common.Collection
import Volleyer.Common.Gather
import Volleyer.Common.Machine
import Volleyer.Model.Gender

/-!
# The fan-in fetches as a machine

`getThisUserPlays`, `getBlockList` and `getPlayersData` turn a list of
ids into records: one read for each id, and a callback that appends what
it finds and compares the length of the array with that of the list. The
first two take the list from the user's document, and answer an empty one
at once; the third is given it, and reports errors. The array of a call
is its own, and the calls overlap at will.

`calls` numbers the calls in the order in which they were issued. What
everyone else writes meanwhile is any store (`FetchEvent.write`).
-/

namespace Volleyer

/-- **The three fetches.** -/
inductive Fetch
  | thisUserPlays
  | blockList
  | playersData
deriving DecidableEq

namespace Fetch

/-- What a fetch collects. -/
def Record : Fetch → Type
  | thisUserPlays => Play
  | blockList => User
  | playersData => User

/-- What is done to the array before it is handed over. -/
def finish : (fetch : Fetch) → List fetch.Record → List fetch.Record
  | thisUserPlays, playsArray => playsArray
  | blockList, blockListUser => blockListUser
  | playersData, players => sortByGender players

/-- Whether a failed read calls the completion: `completion(nil, err)`. -/
def reports : Fetch → Bool
  | thisUserPlays => false
  | blockList => false
  | playersData => true

/-- The field of the user's document that has the ids. -/
def listed : Fetch → Doc UserTitle → Option (List String)
  | thisUserPlays, document => document.strings .myPlayList
  | blockList, document => document.strings .blockList
  | playersData, _ => none

end Fetch

/-- **A call**: its ids, the array, and what was handed over. -/
structure FetchCall where
  fetch : Fetch
  ids : List String := []
  gather : Gather fetch.Record := {}

/-- The store, and the calls. -/
structure Fetches where
  users : Collection String (Doc UserTitle)
  plays : Collection String (Doc PlayTitle)
  calls : List FetchCall

/-- **A read in flight** of a call. -/
inductive FetchTask
  /-- the read of the user's document -/
  | getUser (call : ℕ) (documentID : String)
  /-- the read of one id -/
  | getRecord (call : ℕ) (id : String)

/-- The answer to a read; `now` stands in for a missing time. -/
inductive FetchReply
  | ok (now : Date)
  | failed

namespace Fetch

/-- `decodePlayDS` or `decodeUserDS` of the document of an id. -/
def find (s : Fetches) (now : Date) : (fetch : Fetch) → String → Option fetch.Record
  | thisUserPlays, playId => (s.plays.get playId).map fun document => decodePlay playId document now
  | blockList, id => (s.users.get id).map (decodeUser id)
  | playersData, playerId => (s.users.get playerId).map (decodeUser playerId)

/-- What the read of an id answers. -/
def fetched (fetch : Fetch) (s : Fetches) (id : String) : FetchReply → Fetched fetch.Record
  | .ok now => .ofOption (fetch.find s now id)
  | .failed => .failed

end Fetch

namespace FetchCall

/-- The callback of the user's document: an empty list is handed over at
once, and where there is no list nothing happens. -/
def listRead (call : FetchCall) (document : Doc UserTitle) : FetchCall :=
  match call.fetch.listed document with
  | none => call
  | some ids =>
      if ids.length = 0 then
        { call with gather.handed := call.gather.handed ++ [some []] }
      else { call with ids := ids }

/-- The callback of one id. -/
def recordRead (call : FetchCall) (o : Fetched call.fetch.Record) : FetchCall :=
  { call with
    gather := call.gather.receive call.fetch.finish call.fetch.reports call.ids.length o }

end FetchCall

/-- What an answered read does, in the call it is part of. -/
def fetchAnswer (s : Fetches) : FetchTask → FetchReply → Fetches × List FetchTask
  | .getUser k documentID, .ok _ =>
      match s.calls[k]?, s.users.get documentID with
      | some call, some document =>
          ({ s with calls := s.calls.set k (call.listRead document) },
            ((call.fetch.listed document).getD []).map (.getRecord k))
      | _, _ => (s, [])
  | .getUser _ _, .failed => (s, [])
  | .getRecord k id, r =>
      match s.calls[k]? with
      | some call =>
          ({ s with calls := s.calls.set k (call.recordRead (call.fetch.fetched s id r)) }, [])
      | none => (s, [])

/-- The operations, with what `UserDefaults` says of the account where
they ask, and the writes of everyone else. -/
inductive FetchEvent
  | getThisUserPlays (firebaseId : Option String)
  | getBlockList (firebaseId : Option String)
  | getPlayersData (playersId : List String)
  | write (users : Collection String (Doc UserTitle)) (plays : Collection String (Doc PlayTitle))

namespace Fetches

/-- A store, before any call. -/
def start (users : Collection String (Doc UserTitle)) (plays : Collection String (Doc PlayTitle)) :
    Fetches where
  users := users
  plays := plays
  calls := []

/-- The common beginning of a call. -/
def addCall (s : Fetches) (call : FetchCall) (ts : List FetchTask) : Fetches × List FetchTask :=
  ({ s with calls := s.calls ++ [call] }, ts)

end Fetches

namespace FinderDataManager

def getThisUserPlays (s : Fetches) (firebaseId : Option String) : Fetches × List FetchTask :=
  s.addCall ⟨.thisUserPlays, [], {}⟩ [.getUser s.calls.length (firebaseId.getD "")]

def getPlayersData (s : Fetches) (playersId : List String) : Fetches × List FetchTask :=
  s.addCall ⟨.playersData, playersId, {}⟩ (playersId.map (.getRecord s.calls.length))

end FinderDataManager

namespace MyDataManager

def getBlockList (s : Fetches) (firebaseId : Option String) : Fetches × List FetchTask :=
  s.addCall ⟨.blockList, [], {}⟩ [.getUser s.calls.length (firebaseId.getD "no my id")]

end MyDataManager

open FinderDataManager MyDataManager in
/-- What a call puts in flight. -/
def fetchIssue (s : Fetches) : FetchEvent → Option (Fetches × List FetchTask)
  | .getThisUserPlays firebaseId => some (getThisUserPlays s firebaseId)
  | .getBlockList firebaseId => some (getBlockList s firebaseId)
  | .getPlayersData playersId => some (getPlayersData s playersId)
  | .write users plays => some ({ s with users := users, plays := plays }, [])

/-- **The machine of the three fetches.** -/
def fetches : Machine Fetches FetchEvent FetchTask FetchReply where
  issue := fetchIssue
  answer := fetchAnswer

end Volleyer
