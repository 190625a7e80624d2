import Mathlib.Data.List.Sort
import Mathlib.Logic.Function.Basic
import Volleyer.Common.Collection
import Volleyer.Common.Machine
import Volleyer.Model.Documents

/-!
# Courts — `getPlayOneCourts` as a machine

One call reads the courts and then, for each id in each court's
`finder_ids`, the user. Its callbacks share three variables: the snapshot
of the courts, the array they fill, and for each court the finders found
so far. A court is complete when its finders are as many as its ids, and
the array is handed to the delegate when it holds as many courts as the
snapshot; a court without ids is complete at once, inside the loop over
the snapshot.

`calls` numbers the calls by when their snapshot was answered, and
`notified` is what the delegate was handed, each with the number of the
call whose callback it was.
-/

namespace Volleyer

/-- The fields of a court document, under their literal keys. -/
inductive CourtTitle
  | finderIds | order
deriving DecidableEq, Repr

namespace CourtTitle

def rawValue : CourtTitle → String
  | finderIds => "finder_ids"
  | order => "order"

theorem rawValue_injective : Function.Injective rawValue := by
  intro a b h
  cases a <;> cases b <;> first | rfl | simp [rawValue] at h

end CourtTitle

/-- A court as the delegate receives it. -/
structure PlayOne where
  court : String
  finders : List User
  order : ℤ

/-- `document.data()["finder_ids"] as? [String] ?? []` -/
def finderIds (document : Doc CourtTitle) : List String :=
  (document.strings .finderIds).getD []

/-- `document.data()["order"] as? Int ?? 0` -/
def courtOrder (document : Doc CourtTitle) : ℤ := (document.int .order).getD 0

/-- `finders.sort { $0.playN < $1.playN }` -/
def sortByPlayN (finders : List User) : List User :=
  finders.insertionSort fun a b => a.playN ≤ b.playN

/-- **What the callbacks of one call share**: the documents of its
snapshot, the array, and the finders of the document at each position. -/
structure CourtsCall where
  documents : List (String × Doc CourtTitle)
  playOneDataArray : List PlayOne := []
  finders : ℕ → List User := fun _ => []

namespace CourtsCall

/-- Appends a court to the array. The array goes to the delegate when it
counts as many courts as the snapshot. -/
def append (call : CourtsCall) (playOne : PlayOne) : CourtsCall × List (List PlayOne) :=
  let playOneDataArray := call.playOneDataArray ++ [playOne]
  ({ call with playOneDataArray := playOneDataArray },
    if call.documents.length = playOneDataArray.length then [playOneDataArray] else [])

/-- What the loop over the snapshot does with a document itself. -/
def visit (p : CourtsCall × List (List PlayOne)) (document : String × Doc CourtTitle) :
    CourtsCall × List (List PlayOne) :=
  if (finderIds document.2).length = 0 then
    let q := p.1.append ⟨document.1, [], courtOrder document.2⟩
    (q.1, p.2 ++ q.2)
  else p

/-- What a callback does with one user document: the `i`-th finder of the
court at a position, put in front of the others. -/
def receive (position : ℕ) (document : String × Doc CourtTitle) (i : ℕ)
    (p : CourtsCall × List (List PlayOne)) (userDocument : String × Doc UserTitle) :
    CourtsCall × List (List PlayOne) :=
  let thisUser := { decodeUser userDocument.1 userDocument.2 with playN := i }
  let finders := thisUser :: p.1.finders position
  if finders.length = (finderIds document.2).length then
    let finders := sortByPlayN finders
    let call := { p.1 with finders := Function.update p.1.finders position finders }
    let q := call.append ⟨document.1, finders, courtOrder document.2⟩
    (q.1, p.2 ++ q.2)
  else ({ p.1 with finders := Function.update p.1.finders position finders }, p.2)

end CourtsCall

/-- The store, the calls, and what the delegate was handed. -/
structure Courts where
  users : Collection String (Doc UserTitle)
  playOneCourts : Collection String (Doc CourtTitle)
  calls : List CourtsCall
  notified : List (ℕ × List PlayOne)

namespace Courts

/-- A store, before any call. -/
def start (users : Collection String (Doc UserTitle))
    (playOneCourts : Collection String (Doc CourtTitle)) : Courts where
  users := users
  playOneCourts := playOneCourts
  calls := []
  notified := []

/-- The user documents a query for an id answers. -/
def usersWithFirebaseId (s : Courts) (userId : String) : List (String × Doc UserTitle) :=
  s.users.query fun document => document.string .firebaseId == some userId

/-- What a call handed to the delegate. -/
def notifiedBy (s : Courts) (k : ℕ) : List (List PlayOne) :=
  (s.notified.filter fun p => p.1 = k).map Prod.snd

/-- The state after a callback of the call `k`. -/
def setCall (s : Courts) (k : ℕ) (p : CourtsCall × List (List PlayOne)) : Courts :=
  { s with calls := s.calls.set k p.1, notified := s.notified ++ p.2.map (k, ·) }

end Courts

/-- **A request in flight** of `getPlayOneCourts`. -/
inductive CourtsTask
  /-- the query of the courts -/
  | getCourts
  /-- the query of the `i`-th finder of the court at a position of a
  call's snapshot -/
  | getUser (call position : ℕ) (document : String × Doc CourtTitle) (i : ℕ) (userId : String)

/-- The queries the loop issues for the document at a position. -/
def getUsers (k : ℕ) (document : String × Doc CourtTitle) (position : ℕ) : List CourtsTask :=
  (finderIds document.2).zipIdx.map fun p => .getUser k position document p.2 p.1

/-- **What an answered task does.** -/
def courtsAnswerOk (s : Courts) : CourtsTask → Courts × List CourtsTask
  | .getCourts =>
      let documents := s.playOneCourts.entries
      let p := documents.foldl CourtsCall.visit ({ documents := documents }, [])
      ({ s with
          calls := s.calls ++ [p.1]
          notified := s.notified ++ p.2.map (s.calls.length, ·) },
        documents.zipIdx.flatMap fun d => getUsers s.calls.length d.1 d.2)
  | .getUser k position document i userId =>
      match s.calls[k]? with
      | none => (s, [])
      | some call =>
        (s.setCall k ((s.usersWithFirebaseId userId).foldl
          (CourtsCall.receive position document i) (call, [])), [])

/-- The answer to a task: a failed one only prints. -/
def courtsAnswer (s : Courts) (t : CourtsTask) : Reply → Courts × List CourtsTask
  | .ok => courtsAnswerOk s t
  | .failed => (s, [])

/-- The operation, and the writes of everyone else: what they leave is
any users and any courts. -/
inductive CourtsEvent
  | getPlayOneCourts
  | write (users : Collection String (Doc UserTitle))
      (playOneCourts : Collection String (Doc CourtTitle))

/-- What a call puts in flight. -/
def courtsIssue (s : Courts) : CourtsEvent → Option (Courts × List CourtsTask)
  | .getPlayOneCourts => some (s, [.getCourts])
  | .write users playOneCourts =>
      some ({ s with users := users, playOneCourts := playOneCourts }, [])

/-- **The machine of `getPlayOneCourts`.** -/
def courts : Machine Courts CourtsEvent CourtsTask Reply where
  issue := courtsIssue
  answer := courtsAnswer

end Volleyer
