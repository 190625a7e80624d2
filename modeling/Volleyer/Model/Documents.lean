import Volleyer.Model.Value

/-!
# Users, plays and requests

The records of the app, the fields of the documents that store them, and
the decoders that read a document back. A field enumeration carries the
source's raw values, which tell the fields of a document apart
(`UserTitle.rawValue_injective` and its siblings), so a field may stand
for its key.
-/

namespace Volleyer

/-! ## Fields -/

/-- The fields of a user document. `createdTime` is written under a
literal key by `saveProfileInfo` and is no case of the source's own
enumeration. -/
inductive UserTitle
  | firebaseId | loginWay | id | userIdentifier | email | name | gender | level | myPlayList
  | image | blockList | status | createdTime
deriving DecidableEq, Repr

namespace UserTitle

def rawValue : UserTitle → String
  | firebaseId => "firebase_id"
  | loginWay => "login_way"
  | id => "id"
  | userIdentifier => "user_identifier"
  | email => "email"
  | name => "name"
  | gender => "gender"
  | level => "self_level"
  | myPlayList => "my_play_list"
  | image => "image"
  | blockList => "block_list"
  | status => "status"
  | createdTime => "created_time"

theorem rawValue_injective : Function.Injective rawValue := by
  intro a b h
  cases a <;> cases b <;> first | rfl | simp [rawValue] at h

end UserTitle

/-- The fields of a play document. -/
inductive PlayTitle
  | id | finderId | createTime | startTime | endTime | place | price | type | levelRange
  | lackAmount | playerInfo | status | levelFilter | followerListId
deriving DecidableEq, Repr

namespace PlayTitle

def rawValue : PlayTitle → String
  | id => "id"
  | finderId => "finder_id"
  | createTime => "create_time"
  | startTime => "start_time"
  | endTime => "end_time"
  | place => "place"
  | price => "price"
  | type => "type"
  | levelRange => "level_range"
  | lackAmount => "lack_amount"
  | playerInfo => "player_info"
  | status => "status"
  | levelFilter => "level_filter"
  | followerListId => "follower_list_id"

theorem rawValue_injective : Function.Injective rawValue := by
  intro a b h
  cases a <;> cases b <;> first | rfl | simp [rawValue] at h

end PlayTitle

/-- The fields of a request document. -/
inductive PlayRequestTitle
  | requestPlayerList | requestReceiverId | requestSenderId | playId | status | createTime
deriving DecidableEq, Repr

namespace PlayRequestTitle

/-- The receiver's key is spelt as the source spells it, in every reader
and writer. -/
def rawValue : PlayRequestTitle → String
  | requestPlayerList => "request_player_list"
  | requestReceiverId => "request_reveiver_id"
  | requestSenderId => "request_sender_id"
  | playId => "play_id"
  | status => "status"
  | createTime => "create_time"

theorem rawValue_injective : Function.Injective rawValue := by
  intro a b h
  cases a <;> cases b <;> first | rfl | simp [rawValue] at h

end PlayRequestTitle

/-! ## Records -/

structure LevelRange where
  setBall : ℤ
  block : ℤ
  dig : ℤ
  spike : ℤ
  sum : ℤ
deriving DecidableEq, Repr

structure LackAmount where
  male : ℤ
  female : ℤ
  unlimited : ℤ
deriving DecidableEq, Repr

structure Player where
  name : String
  gender : String
deriving DecidableEq, Repr

structure Play where
  id : String := ""
  finderId : String
  startTime : Date
  endTime : Date
  place : String
  price : ℤ
  type : ℤ
  levelRange : LevelRange
  lackAmount : LackAmount
  playerInfo : List String
  status : ℤ
  levelFilter : Bool := false
  followerListId : List String := []
deriving DecidableEq, Repr

structure PlayRequest where
  requestPlayerList : List Player
  requestReceverId : String
  requestSenderId : String
  playId : String
  status : ℤ := 0
  createTime : Date
  id : String := ""
deriving DecidableEq, Repr

def placeholderImage : String :=
  "https://firebasestorage.googleapis.com/v0/b/volleyer-a15b6.appspot.com/o/defaults%2Fplaceholder.png?alt=media&token=d686707b-7b55-4291-8d67-c809c14f9528&_gl=1*gmtbad*_ga*MTE1Njk3OTU3Ny4xNjkxNjU1MTk0*_ga_CW55HF8NVT*MTY5NjA2MDc1Ni45Mi4xLjE2OTYwNjEwMTguNTQuMC4w"

structure User where
  firebaseId : String := ""
  loginWay : ℤ := -1
  userIdentifier : String := ""
  id : String
  email : String
  gender : ℤ
  name : String
  level : LevelRange := ⟨4, 4, 4, 4, 4⟩
  myPlayList : List String := []
  image : String := placeholderImage
  playN : ℕ := 0
  blockList : List String := []
  status : ℤ := 0
deriving DecidableEq, Repr

/-! ## Encoders -/

/-- The dictionary the writers store a level range as. -/
def LevelRange.value (l : LevelRange) : Value :=
  .map [("set", .int l.setBall), ("block", .int l.block), ("dig", .int l.dig),
    ("spike", .int l.spike), ("sum", .int l.sum)]

/-- The dictionary the writers store the missing players as. -/
def LackAmount.value (l : LackAmount) : Value :=
  .map [("male", .int l.male), ("female", .int l.female), ("unlimited", .int l.unlimited)]

/-! ## Decoders -/

/-- `levelDict?[…] ?? 0` at each of the five levels. -/
def decodeLevelRange (levelDict : Option (List (String × ℤ))) : LevelRange where
  setBall := ((levelDict.bind (·.lookup "set"))).getD 0
  block := ((levelDict.bind (·.lookup "block"))).getD 0
  dig := ((levelDict.bind (·.lookup "dig"))).getD 0
  spike := ((levelDict.bind (·.lookup "spike"))).getD 0
  sum := ((levelDict.bind (·.lookup "sum"))).getD 0

/-- `lackDict?[…] ?? 0` at each of the three amounts. -/
def decodeLackAmount (lackDict : Option (List (String × ℤ))) : LackAmount where
  male := ((lackDict.bind (·.lookup "male"))).getD 0
  female := ((lackDict.bind (·.lookup "female"))).getD 0
  unlimited := ((lackDict.bind (·.lookup "unlimited"))).getD 0

/-- `decodePlay` and `decodePlayDS` of the three managers, which read
the same fields with the same defaults; `now` is the `Date()` of a
missing time. -/
def decodePlay (documentID : String) (document : Doc PlayTitle) (now : Date) : Play where
  id := documentID
  finderId := (document.string .finderId).getD "no firebase id"
  startTime := (document.timestamp .startTime).getD now
  endTime := (document.timestamp .endTime).getD now
  place := (document.string .place).getD "no place"
  price := (document.int .price).getD (-1)
  type := (document.int .type).getD 0
  levelRange := decodeLevelRange (document.intDict .levelRange)
  lackAmount := decodeLackAmount (document.intDict .lackAmount)
  playerInfo := (document.strings .playerInfo).getD []
  status := (document.int .status).getD 0

/-- `decodeUser` and `decodeUserDS` of the managers, which read the same
fields with the same defaults. -/
def decodeUser (documentID : String) (document : Doc UserTitle) : User where
  firebaseId := documentID
  loginWay := (document.int .loginWay).getD 0
  userIdentifier := (document.string .userIdentifier).getD ""
  id := (document.string .id).getD "no id"
  email := (document.string .email).getD "no email"
  gender := (document.int .gender).getD 0
  name := (document.string .name).getD "no name"
  level := decodeLevelRange (document.intDict .level)
  myPlayList := (document.strings .myPlayList).getD []
  image := (document.string .image).getD placeholderImage
  blockList := (document.strings .blockList).getD []
  status := (document.int .status).getD 0

/-- The request a document decodes to, with `player` the way its readers
read one player. A document whose list of players is no list of string
dictionaries is passed over. -/
def decodePlayRequestWith (player : List (String × String) → Option Player) (documentID : String)
    (document : Doc PlayRequestTitle) (now : Date) : Option PlayRequest := do
  let requestPlayerList ← document.stringDicts .requestPlayerList
  let requestPlayerArray ← requestPlayerList.mapM player
  return {
    requestPlayerList := requestPlayerArray
    requestReceverId := (document.string .requestReceiverId).getD "no receiver id"
    requestSenderId := (document.string .requestSenderId).getD "no sender id"
    playId := (document.string .playId).getD "no play id"
    status := (document.int .status).getD 400
    createTime := (document.timestamp .createTime).getD now
    id := documentID }

/-- The decoder of `getPlayRequests`. Its `player["Name"]!` and
`player["Gender"]!` trap where a key is missing: no request is
delivered. -/
def decodePlayRequest : String → Doc PlayRequestTitle → Date → Option PlayRequest :=
  decodePlayRequestWith fun player => do
    let name ← player.lookup "Name"
    let gender ← player.lookup "Gender"
    return ⟨name, gender⟩

/-- The decoder of `listenPlayRequests`, with a default for a missing
key. -/
def decodeModifiedRequest : String → Doc PlayRequestTitle → Date → Option PlayRequest :=
  decodePlayRequestWith fun player =>
    some ⟨(player.lookup "Name").getD "name error", (player.lookup "Gender").getD "gender error"⟩

@[simp] theorem decodePlay_id (i : String) (d : Doc PlayTitle) (now : Date) :
    (decodePlay i d now).id = i := rfl

/-- **What a delivered request says**, whichever decoder delivered it:
the ids and the status its document held. -/
theorem decodePlayRequestWith_eq_some {player : List (String × String) → Option Player}
    {i : String} {d : Doc PlayRequestTitle} {now : Date} {r : PlayRequest}
    (h : decodePlayRequestWith player i d now = some r) :
    r.id = i ∧ r.requestSenderId = (d.string .requestSenderId).getD "no sender id" ∧
      r.requestReceverId = (d.string .requestReceiverId).getD "no receiver id" ∧
      r.playId = (d.string .playId).getD "no play id" ∧ r.status = (d.int .status).getD 400 := by
  simp only [decodePlayRequestWith, Option.bind_eq_bind, Option.bind_eq_some_iff,
    Option.pure_def, Option.some.injEq] at h
  obtain ⟨_, _, _, _, rfl⟩ := h
  exact ⟨rfl, rfl, rfl, rfl, rfl⟩

/-- Two documents that differ in the status only decode to requests that
differ in the status only. -/
theorem decodePlayRequestWith_of_eq {player : List (String × String) → Option Player} {i : String}
    {d d' : Doc PlayRequestTitle} {now : Date} {r : PlayRequest}
    (hd : ∀ f, f ≠ .status → d' f = d f) (h : decodePlayRequestWith player i d now = some r) :
    decodePlayRequestWith player i d' now =
      some { r with status := (d'.int .status).getD 400 } := by
  simp only [decodePlayRequestWith, Option.bind_eq_bind, Option.bind_eq_some_iff,
    Option.pure_def, Option.some.injEq] at h ⊢
  obtain ⟨dicts, hdicts, players, hplayers, rfl⟩ := h
  have hstrings : ∀ f, f ≠ .status → d'.string f = d.string f := fun f hf => by
    rw [Doc.string, Doc.string, hd f hf]
  refine ⟨dicts, ?_, players, hplayers, ?_⟩
  · rw [Doc.stringDicts, hd _ (by simp)]
    exact hdicts
  · simp only [hstrings _ (show PlayRequestTitle.requestReceiverId ≠ .status by simp),
      hstrings _ (show PlayRequestTitle.requestSenderId ≠ .status by simp),
      hstrings _ (show PlayRequestTitle.playId ≠ .status by simp), Doc.timestamp,
      hd _ (show PlayRequestTitle.createTime ≠ .status by simp)]

end Volleyer
