import Mathlib.Algebra.Group.Int.Defs
import Volleyer.Feed.Model
import Volleyer.Roster.Model

/-!
# Notifications — the snapshot listeners of `RequestDataManager`

Whenever the tab bar loads, two listeners are added, on the requests the
signed-in account has received and on those it has sent. Each is bound to the
`firebase_id` that `UserDefaults` hold at that moment. A listener is told of
the documents its query has and of every change of them after that; nothing
removes one. For a new document of the first kind that is younger than the
launch, the sender is read and a local notification raised. The callback
narrows the launch date to an `Int32` for that, which traps out of range, and
a trap ends the process.

The device, its `UserDefaults` and the store are one state here; a change
that a listener is told of is in flight until its callback runs. Where the
process has ended no callback runs, and nothing happens on the device.
-/

namespace Volleyer

/-- A local notification, with the listener and the document behind it. -/
structure LocalNotification where
  listener : ℕ
  documentID : String
  title : String
  subtitle : String
  body : String

/-- **The device**, and the store behind it. -/
structure Notify where
  server : Server
  launchAppDate : Option Date
  firebaseId : Option String
  /-- the listeners on received requests, by the id each is bound to -/
  receiving : List (Option String)
  /-- the listeners on sent requests -/
  sending : List (Option String)
  notifications : List LocalNotification
  /-- a callback has trapped -/
  ended : Bool := false

/-- `diff.type` -/
inductive DocumentChangeType
  | added
  | modified
  | removed
deriving DecidableEq

/-- **A change of a snapshot.** -/
structure DocumentChange where
  type : DocumentChangeType
  documentID : String
  document : Doc PlayRequestTitle

namespace DocumentChange

/-- `firebaseTime` -/
def createTime (diff : DocumentChange) : Option Timestamp := diff.document.timestamp .createTime

/-- The id a notification is raised with. -/
def senderId (diff : DocumentChange) : String :=
  (diff.document.string .requestSenderId).getD "no sender id"

end DocumentChange

/-- The seconds since 1970 `Int32` can hold. -/
def Timestamp.FitsInt32 (date : Date) : Prop := -2 ^ 31 ≤ date.int64 ∧ date.int64 < 2 ^ 31

instance (date : Date) : Decidable date.FitsInt32 := inferInstanceAs (Decidable (_ ∧ _))

/-- `Int32(date.timeIntervalSince1970)`, which traps out of range. -/
def Timestamp.int32 (date : Date) : Option Int32 :=
  if date.FitsInt32 then some (Int32.ofInt date.int64) else none

/-- What the callback of the listener on received requests raises for one
change; `none` is a trap. -/
def RequestDataManager.notifyChange (launchAppDate : Option Date) (diff : DocumentChange) :
    Option (List String) :=
  match diff.type with
  | .added =>
      match launchAppDate, diff.createTime with
      | some launchTime, some firebaseTime =>
          launchTime.int32.map fun launchSecond =>
            if launchSecond.toInt < firebaseTime.seconds then [diff.senderId] else []
      | _, _ => some []
  | .modified | .removed => some []

/-- **A callback in flight.** -/
inductive NotifyTask
  /-- a change, told to a listener on received requests -/
  | received (listener : ℕ) (type : DocumentChangeType) (documentID : String)
      (document : Doc PlayRequestTitle)
  /-- a change, told to a listener on sent requests -/
  | sent (listener : ℕ) (type : DocumentChangeType) (documentID : String)
      (document : Doc PlayRequestTitle)
  /-- the read of `successNotificationContent` -/
  | getUserByFirebaseId (listener : ℕ) (documentID id : String)

/-- `whereField(field, isEqualTo: id as Any)`: no id is compared as `null`. -/
def isEqualTo (field : PlayRequestTitle) (id : Option String) (document : Doc PlayRequestTitle) :
    Bool :=
  match id, document field with
  | some id, some (.string text) => text == id
  | none, some .null => true
  | _, _ => false

namespace Notify

/-- What the listeners are told of a change. -/
def deliver (s : Notify) (type : DocumentChangeType) (documentID : String)
    (document : Doc PlayRequestTitle) : List NotifyTask :=
  ((s.receiving.zipIdx.filter fun p => isEqualTo .requestReceiverId p.1 document).map fun p =>
    .received p.2 type documentID document) ++
  (s.sending.zipIdx.filter fun p => isEqualTo .requestSenderId p.1 document).map fun p =>
    .sent p.2 type documentID document

/-- `listenPlayRequests`: two listeners, and what they are told at first. -/
def listenPlayRequests (s : Notify) : Notify × List NotifyTask :=
  ({ s with
      receiving := s.receiving ++ [s.firebaseId]
      sending := s.sending ++ [s.firebaseId] },
    ((s.server.requests.query (isEqualTo .requestReceiverId s.firebaseId)).map fun document =>
      .received s.receiving.length .added document.1 document.2) ++
    (s.server.requests.query (isEqualTo .requestSenderId s.firebaseId)).map fun document =>
      .sent s.sending.length .added document.1 document.2)

end Notify

/-- What happens on the device, and to the requests anywhere. -/
inductive NotifyCall
  /-- of `TabBarViewController` -/
  | viewDidLoad
  | logout
  /-- a profile that is read, or registered, for a sign-in or a launch -/
  | saveUserDefault (firebaseId : String)
  | addRequest (documentID : String) (document : Doc PlayRequestTitle)
  | updateRequest (documentID : String) (status : ℤ)
  | deleteRequest (documentID : String)

/-- Events of the device itself, of which there are none once its process
has ended. -/
def NotifyCall.onDevice : NotifyCall → Bool
  | .viewDidLoad | .logout | .saveUserDefault _ => true
  | .addRequest _ _ | .updateRequest _ _ | .deleteRequest _ => false

/-- What an event puts in flight. -/
def notifyEvent (s : Notify) : NotifyCall → Option (Notify × List NotifyTask)
  | .viewDidLoad => some s.listenPlayRequests
  | .logout => some ({ s with firebaseId := none }, [])
  | .saveUserDefault firebaseId => some ({ s with firebaseId := some firebaseId }, [])
  | .addRequest documentID document =>
      if documentID ∈ s.server.allocated then none
      else some ({ s with
          server.requests := s.server.requests.set documentID document
          server.allocated := documentID :: s.server.allocated },
        s.deliver .added documentID document)
  | .updateRequest documentID status =>
      (s.server.requests.get documentID).map fun document =>
        ({ s with server := s.server.updateRequest documentID [(.status, .int status)] },
          s.deliver .modified documentID (document.updateData [(.status, .int status)]))
  | .deleteRequest documentID =>
      (s.server.requests.get documentID).map fun document =>
        ({ s with server.requests := s.server.requests.delete documentID },
          s.deliver .removed documentID document)

/-- **What an event does**, where it can happen. -/
def notifyIssue (s : Notify) (a : NotifyCall) : Option (Notify × List NotifyTask) :=
  if s.ended ∧ a.onDevice then none else notifyEvent s a

/-- **What a callback does.** A listener on sent requests shows a change on
the screen, and raises nothing. -/
def notifyAnswerOk (s : Notify) : NotifyTask → Notify × List NotifyTask
  | .received listener type documentID document =>
      match RequestDataManager.notifyChange s.launchAppDate ⟨type, documentID, document⟩ with
      | none => ({ s with ended := true }, [])
      | some ids => (s, ids.map (.getUserByFirebaseId listener documentID))
  | .sent _ _ _ _ => (s, [])
  | .getUserByFirebaseId listener documentID id =>
      match s.server.users.get id with
      | none => (s, [])
      | some document =>
          ({ s with notifications := s.notifications ++ [{
              listener, documentID
              title := "有新的邀請"
              subtitle := "加場邀請"
              body := (decodeUser id document).id ++ " 寄送加場邀請給你" }] }, [])

/-- An error only prints, and where the process has ended nothing runs. -/
def notifyAnswer (s : Notify) (t : NotifyTask) : Reply → Notify × List NotifyTask
  | .ok => if s.ended then (s, []) else notifyAnswerOk s t
  | .failed => (s, [])

/-- **The machine of the listeners.** -/
def notify : Machine Notify NotifyCall NotifyTask Reply where
  issue := notifyIssue
  answer := notifyAnswer

end Volleyer
