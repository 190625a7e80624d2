import Volleyer.Session.EstablishFinder
import Volleyer.Session.InputProfile

/-!
# Sessions — who enters the app, and the forms they fill in

The app on its devices: the launch (`SceneDelegate`), the sign-in with
Apple (`LoginViewController`), the profile forms and the play forms that
are open, over the store and the `UserDefaults` of the account operations.
A form keeps its number. The tab bar makes itself the root when its view
loads, and so is assigned twice where a launch assigns it too; the serial
number of a controller tells one assigned twice from two.
-/

namespace Volleyer

/-- A controller a window's root is assigned. -/
inductive RootViewController
  | loginViewController (serial : ℕ)
  | tabBarViewController (serial : ℕ)
deriving DecidableEq

/-- **The app on its devices**: what is stored, what each window's root was
assigned, and the forms. -/
structure Session where
  world : World
  window : ℕ → List RootViewController
  profiles : List InputProfile
  plays : List EstablishFinder

namespace Session

def setDevice (s : Session) (device : ℕ) (standard : UserDefaults) : Session :=
  { s with world := s.world.setDevice device standard }

/-- `window = UIWindow(…)` -/
def newWindow (s : Session) (device : ℕ) : Session :=
  { s with window := Function.update s.window device [] }

/-- `window?.rootViewController = controller` -/
def setRoot (s : Session) (device : ℕ) (controller : RootViewController) : Session :=
  { s with window := Function.update s.window device (s.window device ++ [controller]) }

/-- `LoginViewController()` as the root. -/
def loginViewController (s : Session) (device : ℕ) : Session :=
  s.setRoot device (.loginViewController (s.window device).length)

/-- `TabBarViewController()`, whose view makes it the root. -/
def tabBarViewController (s : Session) (device : ℕ) : Session :=
  s.setRoot device (.tabBarViewController (s.window device).length)

/-- The same, assigned by the launch as well. -/
def launchTabBar (s : Session) (device : ℕ) : Session :=
  (s.tabBarViewController device).setRoot device (.tabBarViewController (s.window device).length)

def addProfile (s : Session) (form : InputProfile) : Session :=
  { s with profiles := s.profiles ++ [form] }

def setProfile (s : Session) (k : ℕ) (form : InputProfile) : Session :=
  { s with profiles := s.profiles.set k form }

def addPlay (s : Session) (form : EstablishFinder) : Session :=
  { s with plays := s.plays ++ [form] }

def setPlay (s : Session) (k : ℕ) (form : EstablishFinder) : Session :=
  { s with plays := s.plays.set k form }

/-- The user documents with an id. -/
def usersWithId (s : Session) (id : String) : List (String × Doc UserTitle) :=
  s.world.server.users.query fun document => document.string .id == some id

/-- The user documents of an Apple id. -/
def usersWithIdentifier (s : Session) (userIdentifier : String) : List (String × Doc UserTitle) :=
  s.world.server.users.query fun document => document.string .userIdentifier == some userIdentifier

end Session

/-- **A request in flight**, of the account operations, of the profile form,
or of a sign-in. -/
inductive SessionTask
  | account (t : AccountTask)
  /-- the query of `changeUserInfo` -/
  | queryNewId (profile : ℕ) (id : String)
  /-- the query of `LoginViewController` -/
  | queryIdentifier (device : ℕ) (credential : AppleIDCredential)
  /-- the query of `getProfileData`, for a launch or for a sign-in -/
  | getProfileData (device : ℕ) (appleUserId : String) (completion : Option AppleIDCredential)

open MyDataManager in
/-- What `getProfileData` does with a document, and its completion: the
launch shows the tab bar, the sign-in shows it or the form to come back
with. -/
def didGetProfile (device : ℕ) (completion : Option AppleIDCredential) (s : Session)
    (document : String × Doc UserTitle) : Session :=
  let thisUser := decodeUser document.1 document.2
  let s := s.setDevice device (saveUserDefault (s.world.device device) thisUser)
  match completion with
  | none => s.launchTabBar device
  | some credential =>
    if thisUser.status = -1 then
      s.addProfile (showInputProfileViewController device credential (some thisUser))
    else
      (s.setDevice device { s.world.device device with userIdentifier := some credential.user
        }).tabBarViewController device

/-- The device a registration that succeeds takes to the tab bar. -/
def AccountTask.registers (w : World) : AccountTask → Option ℕ
  | .updateUser device user => (w.server.users.get user.firebaseId).map fun _ => device
  | .setUser device _ _ _ => some device
  | _ => none

/-- **What an answered task does.** -/
def sessionAnswerOk (s : Session) : SessionTask → Session × List SessionTask
  | .account t =>
      let s' := { s with world := (accountAnswerOk s.world t).1 }
      ((t.registers s.world).elim s' s'.tabBarViewController,
        (accountAnswerOk s.world t).2.map .account)
  | .queryNewId k id =>
      if (s.usersWithId id).length > 0 then (s, [])
      else (s, (s.profiles[k]?.map fun form =>
        .account (.updateProfileInfo form.device form.thisUser)).toList)
  | .queryIdentifier device credential =>
      if (s.usersWithIdentifier credential.user).length > 0 then
        (s, [.getProfileData device credential.user (some credential)])
      else (s.addProfile (showInputProfileViewController device credential none), [])
  | .getProfileData device appleUserId completion =>
      ((s.usersWithIdentifier appleUserId).foldl (didGetProfile device completion) s, [])

/-- The answer to a task: a failed one only prints. -/
def sessionAnswer (s : Session) (t : SessionTask) : Reply → Session × List SessionTask
  | .ok => sessionAnswerOk s t
  | .failed => (s, [])

/-- The events of the screens, with the id `document()` answers and the date
where one is taken. A form that changes something is opened with
`pushToInputProfile` or `editPlay`. -/
inductive SessionCall
  | willConnect (device : ℕ)
  | logIn (device : ℕ) (credential : AppleIDCredential)
  | logout (device : ℕ)
  | pushToInputProfile (device : ℕ)
  | input (profile : ℕ) (e : ProfileInput)
  | doneInput (profile : ℕ) (documentID : String) (now : Date)
  | changeUserInfo (profile : ℕ)
  | deleteAccount (profile : ℕ)
  | pushToEstablish (device : ℕ) (now : Date)
  | editPlay (device : ℕ) (documentID : String) (now : Date)
  | inputPlay (play : ℕ) (e : PlayInput)
  | addData (play : ℕ) (isPublishButton : Bool) (documentID : String) (now : Date)
  | deletePost (play : ℕ)

/-- An operation on the store, started by a screen. -/
def startAccount (s : Session) (a : AccountCall) : Option (Session × List SessionTask) :=
  (accountIssue s.world a).map fun p => ({ s with world := p.1 }, p.2.map .account)

/-- The save of a play form: a new play, or one that is edited. -/
def saveCall (device : ℕ) (play : Play) (documentID : String) (now : Date) : AccountCall :=
  if play.id = "" then .roster device (.savePlay play documentID now)
  else .roster device (.updatePlay play)

/-- **What an event puts in flight.** Where a subscript traps there is no
event. -/
def sessionIssue (texts : Texts) (s : Session) :
    SessionCall → Option (Session × List SessionTask)
  | .willConnect device =>
      match (s.world.device device).userIdentifier with
      | some thisUserAppleId =>
          some (s.newWindow device, [.getProfileData device thisUserAppleId none])
      | none => some ((s.newWindow device).loginViewController device, [])
  | .logIn device credential => some (s, [.queryIdentifier device credential])
  | .logout device => some (s.setDevice device MyDataManager.deleteUserDefault, [])
  | .pushToInputProfile device =>
      (pushToInputProfile device (s.world.device device)).map fun form => (s.addProfile form, [])
  | .input k e => s.profiles[k]?.bind fun form =>
      (form.input e).map fun form' => (s.setProfile k form', [])
  | .doneInput k documentID now => s.profiles[k]?.bind fun form =>
      if form.changeUserInfoData.isSome then none
      else match form.doneInput with
        | none => some (s, [])
        | some form' => startAccount (s.setProfile k form')
            (.saveProfileInfo form.device form'.thisUser documentID now)
  | .changeUserInfo k => s.profiles[k]?.bind fun form =>
      if form.changeUserInfoData.isNone then none
      else match form.changeUserInfo with
        | none => some (s, [])
        | some form' =>
          if (s.world.device form.device).id.any (texts.same form'.thisUser.id) then
            startAccount (s.setProfile k form') (.updateProfileInfo form.device form'.thisUser)
          else some (s.setProfile k form', [.queryNewId k form'.thisUser.id])
  | .deleteAccount k => s.profiles[k]?.bind fun form =>
      if form.changeUserInfoData.isNone then none
      else startAccount (s.loginViewController form.device)
        (.removeThisuser form.device form.thisUser.firebaseId)
  | .pushToEstablish device now =>
      some (s.addPlay
        { device := device, thisPlay := blankPlay (s.world.device device).firebaseId now }, [])
  | .editPlay device documentID now => (s.world.server.plays.get documentID).bind fun document =>
      (EstablishFinder.ifEditMode texts
        { device := device, thisPlay := decodePlay documentID document now }).map
        fun form => (s.addPlay form, [])
  | .inputPlay k e => s.plays[k]?.bind fun form =>
      (form.input texts e).map fun form' => (s.setPlay k form', [])
  | .addData k isPublishButton documentID now => s.plays[k]?.bind fun form =>
      let form' := (form.addData texts isPublishButton).1
      if (form.addData texts isPublishButton).2 then
        startAccount (s.setPlay k form') (saveCall form'.device form'.thisPlay documentID now)
      else some (s.setPlay k form', [])
  | .deletePost k => s.plays[k]?.bind fun form =>
      startAccount s (.roster form.device (.deletePlay form.thisPlay))

/-- **The machine of the screens.** -/
def session (texts : Texts) : Machine Session SessionCall SessionTask Reply where
  issue := sessionIssue texts
  answer := sessionAnswer

/-- Texts for runs that ask for none. -/
def Sample.plainTexts : Texts := ⟨fun _ => "", String.length, (· == ·)⟩

end Volleyer
