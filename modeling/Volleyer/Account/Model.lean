import Mathlib.Logic.Function.Basic
import Volleyer.Roster.Effects

/-!
# Accounts — the operations of `MyDataManager`

The operations on user documents, beside those of the other two managers.
Each runs on a device, whose `UserDefaults` name the account that is
signed in; callbacks read them again when they run. A call of another
manager is one here, made on a device, and its answers touch the store
alone.
-/

namespace Volleyer

/-- What `UserDefaults.standard` keeps of the signed-in account. -/
structure UserDefaults where
  firebaseId : Option String := none
  userIdentifier : Option String := none
  id : Option String := none
  name : Option String := none
  image : Option String := none
  email : Option String := none
  gender : Option ℤ := none
  setBall : Option ℤ := none
  block : Option ℤ := none
  dig : Option ℤ := none
  spike : Option ℤ := none
  sum : Option ℤ := none

/-- The store, and what each device keeps. -/
structure World where
  server : Server
  device : ℕ → UserDefaults

namespace World

def setDevice (w : World) (device : ℕ) (standard : UserDefaults) : World :=
  { w with device := Function.update w.device device standard }

/-- A write of `updateData` to a user document. -/
def updateUser (w : World) (documentID : String) (data : Fields UserTitle) : World :=
  { w with server := w.server.updateUser documentID data }

end World

/-- The two operations on a block list. -/
inductive BlockEdit
  | add
  | remove

namespace MyDataManager

/-- The fields `saveProfileInfo` names. -/
def saveProfileInfoData (user : User) : Fields UserTitle :=
  [(.firebaseId, .string user.firebaseId), (.loginWay, .int user.loginWay), (.id, .string user.id),
    (.userIdentifier, .string user.userIdentifier), (.email, .string user.email),
    (.name, .string user.name), (.gender, .int user.gender), (.level, user.level.value),
    (.myPlayList, .strings user.myPlayList), (.image, .string user.image),
    (.blockList, .strings user.blockList), (.status, .int user.status)]

/-- The fields `updateProfileInfo` names. -/
def updateProfileInfoData (changedUser : User) : Fields UserTitle :=
  [(.id, .string changedUser.id), (.email, .string changedUser.email),
    (.name, .string changedUser.name), (.gender, .int changedUser.gender),
    (.level, changedUser.level.value)]

def saveUserDefault (standard : UserDefaults) (thisUser : User) : UserDefaults :=
  { standard with
    firebaseId := some thisUser.firebaseId
    id := some thisUser.id
    name := some thisUser.name
    image := some thisUser.image
    email := some thisUser.email
    gender := some thisUser.gender
    setBall := some thisUser.level.setBall
    block := some thisUser.level.block
    dig := some thisUser.level.dig
    spike := some thisUser.level.spike
    sum := some thisUser.level.sum }

def deleteUserDefault : UserDefaults := {}

/-- What the callbacks of `addToBlocklist` and `removeFromBlocklist` write
back, if anything. Where there is no list to append to, `nil` is
written. -/
def blockListToWrite (edit : BlockEdit) (userId : String) (blockList : Option (List String)) :
    Option Value :=
  let blockListIdx := blockList.bind fun l => l.idxOf? userId
  match edit with
  | .add =>
      if blockListIdx = none then
        some ((blockList.map fun l => l ++ [userId]).elim .null .strings)
      else none
  | .remove => blockListIdx.bind fun i => blockList.map fun l => .strings (l.eraseIdx i)

end MyDataManager

/-- Whether a call is by the account a device is signed in as: `saveRequest`
reads `UserDefaults` for the sender. -/
def Call.AskedBy (me : Option String) : Call → Prop
  | .saveRequest _ _ sender _ _ => sender = me
  | _ => True

instance Call.decidableAskedBy (me : Option String) (a : Call) : Decidable (a.AskedBy me) := by
  cases a <;> unfold Call.AskedBy <;> infer_instance

/-- A task as its callback runs: the one of `saveRequest` reads
`UserDefaults` again, to tell the sender's own requests. -/
def Task.reread (me : Option String) : Task → Task
  | .querySameRequest documentID data play _ => .querySameRequest documentID data play me
  | t => t

/-- **A request in flight**, of any of the managers. -/
inductive AccountTask
  /-- a task of the other managers, of a call made on a device -/
  | roster (device : ℕ) (t : Task)
  /-- the query of `saveProfileInfo` -/
  | queryUserId (device : ℕ) (user : User) (documentID : String) (now : Date)
  /-- `updateData` of `saveProfileInfo` -/
  | updateUser (device : ℕ) (user : User)
  /-- `setData` of `saveProfileInfo` -/
  | setUser (device : ℕ) (user : User) (documentID : String) (now : Date)
  /-- `putData` of `saveProfileImage` -/
  | putData (device : ℕ) (savePath urlString : String)
  /-- `downloadURL` of `saveProfileImage` -/
  | downloadURL (device : ℕ) (savePath urlString : String)
  /-- `updateData` of `saveProfileImage` -/
  | setImage (documentID urlString : String)
  /-- `updateData` of `updateProfileInfo` -/
  | updateProfileInfo (device : ℕ) (changedUser : User)
  /-- `updateData` of `removeThisuser` -/
  | removeThisuser (device : ℕ) (firebaseId : String)
  /-- the read of `addToBlocklist` and `removeFromBlocklist` -/
  | getBlockList (device : ℕ) (edit : BlockEdit) (documentID userId : String)
  /-- `updateData` of `addToBlocklist` and `removeFromBlocklist` -/
  | setBlockList (documentID : String) (blockList : Value)

open MyDataManager in
/-- **What an answered task does.** -/
def accountAnswerOk (w : World) : AccountTask → World × List AccountTask
  | .roster device t =>
      let t' := t.reread (w.device device).firebaseId
      ({ w with server := (answerOk w.server t').1 },
        (answerOk w.server t').2.map (.roster device))
  | .queryUserId device user documentID now =>
      let documents := w.server.users.query fun document => document.string .id == some user.id
      if documents.length > 0 then (w, [])
      else if user.firebaseId ≠ "" then (w, [.updateUser device user])
      else (w, [.setUser device user documentID now])
  | .updateUser device user =>
      match w.server.users.get user.firebaseId with
      | none => (w, [])
      | some _ =>
        ((w.updateUser user.firebaseId (saveProfileInfoData user)).setDevice device
          { saveUserDefault (w.device device) user with userIdentifier := some user.userIdentifier },
          [])
  | .setUser device user documentID now =>
      let userCopy := { user with firebaseId := documentID }
      let data := saveProfileInfoData userCopy ++ [(.createdTime, .timestamp now)]
      (({ w with server.users := w.server.users.set documentID (Doc.setData data) }).setDevice device
        { saveUserDefault (w.device device) userCopy with
          userIdentifier := some user.userIdentifier }, [])
  | .putData device savePath urlString => (w, [.downloadURL device savePath urlString])
  | .downloadURL device _ urlString =>
      (w.setDevice device { w.device device with image := some urlString },
        [.setImage ((w.device device).firebaseId.getD "user_default_error") urlString])
  | .setImage documentID urlString =>
      (w.updateUser documentID [(.image, .string urlString)], [])
  | .updateProfileInfo device changedUser =>
      match w.server.users.get changedUser.firebaseId with
      | none => (w, [])
      | some _ =>
        ((w.updateUser changedUser.firebaseId (updateProfileInfoData changedUser)).setDevice device
          (saveUserDefault (w.device device) changedUser), [])
  | .removeThisuser device firebaseId =>
      match w.server.users.get firebaseId with
      | none => (w, [])
      | some _ =>
        ((w.updateUser firebaseId [(.status, .int (-1))]).setDevice device deleteUserDefault, [])
  | .getBlockList device edit documentID userId =>
      match w.server.users.get documentID with
      | none => (w, [])
      | some document =>
        (w, (blockListToWrite edit userId (document.strings .blockList)).toList.map
          (.setBlockList ((w.device device).firebaseId.getD "no my id")))
  | .setBlockList documentID blockList =>
      (w.updateUser documentID [(.blockList, blockList)], [])

/-- The answer to a task: a failed one only prints. -/
def accountAnswer (w : World) (t : AccountTask) : Reply → World × List AccountTask
  | .ok => accountAnswerOk w t
  | .failed => (w, [])

/-- The operations. `saveProfileImage` comes with the url the storage
answers in the end, and `userDefaults` is whatever else in the app writes
`UserDefaults`: signing in, signing out, reading a profile. -/
inductive AccountCall
  | roster (device : ℕ) (a : Call)
  | userDefaults (device : ℕ) (standard : UserDefaults)
  | saveProfileInfo (device : ℕ) (user : User) (documentID : String) (now : Date)
  | saveProfileImage (device : ℕ) (urlString : String)
  | updateProfileInfo (device : ℕ) (changedUser : User)
  | removeThisuser (device : ℕ) (firebaseId : String)
  | addToBlocklist (device : ℕ) (userId : String)
  | removeFromBlocklist (device : ℕ) (userId : String)

/-- What a call puts in flight. -/
def accountIssue (w : World) : AccountCall → Option (World × List AccountTask)
  | .roster device a =>
      if a.AskedBy (w.device device).firebaseId then
        (issue w.server a).map fun p => ({ w with server := p.1 }, p.2.map (.roster device))
      else none
  | .userDefaults device standard => some (w.setDevice device standard, [])
  | .saveProfileInfo device user documentID now =>
      if documentID ∈ w.server.allocated then none
      else some ({ w with server.allocated := documentID :: w.server.allocated },
        [.queryUserId device user documentID now])
  | .saveProfileImage device urlString =>
      let savePath := "profileImages/" ++
        ((w.device device).firebaseId.getD "user_default_error") ++ ".png"
      some (w, [.putData device savePath urlString])
  | .updateProfileInfo device changedUser => some (w, [.updateProfileInfo device changedUser])
  | .removeThisuser device firebaseId => some (w, [.removeThisuser device firebaseId])
  | .addToBlocklist device userId =>
      some (w, [.getBlockList device .add ((w.device device).firebaseId.getD "no my id") userId])
  | .removeFromBlocklist device userId =>
      some (w, [.getBlockList device .remove ((w.device device).firebaseId.getD "no my id") userId])

/-- **The machine of all three managers.** -/
def managers : Machine World AccountCall AccountTask Reply where
  issue := accountIssue
  answer := accountAnswer

variable {w w' : World} {ts : List AccountTask}

/-- What a call of another manager puts in flight. -/
theorem accountIssue_roster {device : ℕ} {a : Call} :
    accountIssue w (.roster device a) = some (w', ts) ↔
      a.AskedBy (w.device device).firebaseId ∧ ∃ s us, issue w.server a = some (s, us) ∧
        w' = { w with server := s } ∧ ts = us.map (.roster device) := by
  rw [accountIssue, Option.ite_none_right_eq_some, Option.map_eq_some_iff]
  refine and_congr_right fun _ => ⟨?_, ?_⟩
  · rintro ⟨⟨s, us⟩, hissue, heq⟩
    obtain ⟨rfl, rfl⟩ := Prod.mk.inj heq
    exact ⟨s, us, hissue, rfl, rfl⟩
  · rintro ⟨s, us, hissue, rfl, rfl⟩
    exact ⟨(s, us), hissue, rfl⟩

/-- What an answered task of another manager does. -/
theorem accountAnswer_roster (w : World) (device : ℕ) (t : Task) (r : Reply) :
    accountAnswer w (.roster device t) r =
      ({ w with server := (answer w.server (t.reread (w.device device).firebaseId) r).1 },
        (answer w.server (t.reread (w.device device).firebaseId) r).2.map (.roster device)) := by
  cases r with
  | ok => rfl
  | failed => rfl

namespace Task

variable {me : Option String} {t t' : Task}

/-- A callback that asks for no account is the one it was. -/
theorem eq_of_reread (h : t.reread me = t')
    (ht' : ∀ i data play sender, t' ≠ .querySameRequest i data play sender) : t = t' := by
  cases t with
  | querySameRequest i data play sender => exact absurd h.symm (ht' i data play me)
  | _ => exact h

/-- And so is one that asked for the account of the call. -/
theorem reread_of_same (h : ∀ i data play sender, t = .querySameRequest i data play sender →
    me = sender) : t.reread me = t := by
  cases t with
  | querySameRequest i data play sender =>
    obtain rfl := h i data play sender rfl
    rfl
  | _ => rfl

end Task

end Volleyer
