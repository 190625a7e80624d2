import Volleyer.Common.Projects
import Volleyer.Notify.Model
import Volleyer.Screen.Sent

/-!
# The page of sent requests, as it is kept up to date

Two things bring requests to the page. Each load (`getPlayRequests`) reads
the whole collection and hands the page what its account sent; and each
listener on sent requests tells of every change of one of them, which the
closure the page left with the shared manager shows in place. The closure
holds the page weakly: where the page is gone, nothing is shown. A process
that has ended shows no page.

The machine is that of the listeners, with the page and its loads beside
it. A load is a read at the store, and a callback that is in flight with
what was read.
-/

namespace Volleyer

/-- **The device of the listeners, with the page of sent requests**, if it
is open; pages are numbered in the order they were opened. `clock` is the
`Date()` a document without a time is given. -/
structure LiveSent where
  notify : Notify
  requestSent : Option (ℕ × RequestSentViewController)
  opened : ℕ
  clock : String → Date

/-- **A callback in flight**: of a listener, or of a load of a page. -/
inductive LiveTask
  | notify (t : NotifyTask)
  | getDocuments (page : ℕ)
  | getPlayRequests (page : ℕ) (documents : List (String × Doc PlayRequestTitle))

/-- What happens: on the device and to the requests anywhere, the time that
passes, and the page opened, pulled and left. -/
inductive LiveCall
  | notify (a : NotifyCall)
  | tick (clock : String → Date)
  | pushToRequestsSend
  | pullToRefresh
  | back

namespace LiveSent

/-- A callback traps, and the process ends. -/
def trap (s : LiveSent) : LiveSent :=
  { s with notify := { s.notify with ended := true }, requestSent := none }

/-- A page that is still open is told something. -/
def tell (s : LiveSent) (f : RequestSentViewController → RequestSentViewController) : LiveSent :=
  { s with requestSent := s.requestSent.map fun page => (page.1, f page.2) }

/-- The closure of the page, called with a changed document: one without a
list of players is passed over. -/
def modified (s : LiveSent) (documentID : String) (document : Doc PlayRequestTitle) : LiveSent :=
  match decodeModifiedRequest documentID document (s.clock documentID) with
  | none => s
  | some aPlayRequest => s.tell (·.updateRequestsSentTableView aPlayRequest)

/-- Where no page is open, nothing is shown. -/
theorem modified_of_none {s : LiveSent} (h : s.requestSent = none) (documentID : String)
    (document : Doc PlayRequestTitle) : s.modified documentID document = s := by
  unfold modified
  split
  · rfl
  · simp only [tell, h, Option.map_none]
    rw [← h]

/-- `manager(_:iSent:)`, of a page of a number. -/
def iSent (s : LiveSent) (page : ℕ) (playRequests : List PlayRequest) : LiveSent :=
  { s with requestSent := s.requestSent.map fun shown =>
      if shown.1 = page then (page, shown.2.iSent playRequests) else shown }

end LiveSent

/-- **What an event does.** A tab bar that loads has no pages. -/
def liveIssue (s : LiveSent) : LiveCall → Option (LiveSent × List LiveTask)
  | .notify a =>
      (notifyIssue s.notify a).map fun p =>
        ({ s with
            notify := p.1
            requestSent := match a with
              | .viewDidLoad => none
              | _ => s.requestSent },
          p.2.map .notify)
  | .tick clock => some ({ s with clock := clock }, [])
  | .pushToRequestsSend =>
      if s.requestSent.isNone ∧ s.notify.ended = false then
        some ({ s with requestSent := some (s.opened, {}), opened := s.opened + 1 },
          [.getDocuments s.opened])
      else none
  | .pullToRefresh => s.requestSent.map fun page => (s, [.getDocuments page.1])
  | .back => some ({ s with requestSent := none }, [])

/-- **What a callback does.** -/
def liveAnswerOk (s : LiveSent) : LiveTask → LiveSent × List LiveTask
  | .notify (.sent _ type documentID document) =>
      (match type with
        | .modified => s.modified documentID document
        | .added | .removed => s, [])
  | .notify t =>
      let p := notifyAnswerOk s.notify t
      (if p.1.ended then s.trap else { s with notify := p.1 }, p.2.map .notify)
  | .getDocuments page => (s, [.getPlayRequests page s.notify.server.requests.entries])
  | .getPlayRequests page documents =>
      match RequestDataManager.getPlayRequests s.notify.firebaseId s.clock documents with
      | none => (s.trap, [])
      | some playRequests => (s.iSent page playRequests.2, [])

/-- An error only prints, and where the process has ended nothing runs. -/
def liveAnswer (s : LiveSent) (t : LiveTask) : Reply → LiveSent × List LiveTask
  | .ok => if s.notify.ended then (s, []) else liveAnswerOk s t
  | .failed => (s, [])

/-- **The machine of the page.** -/
def liveSent : Machine LiveSent LiveCall LiveTask Reply where
  issue := liveIssue
  answer := liveAnswer

variable {l : ℕ} {documentID documentID' : String}

/-! ## What a listener has to tell -/

/-- The listener on sent requests a callback is of. -/
def LiveTask.listener : LiveTask → Option ℕ
  | .notify (.sent l _ _ _) => some l
  | _ => none

/-- What a callback tells of a changed document, for a listener. -/
def LiveTask.tells (l : ℕ) (documentID : String) : LiveTask → Option (Doc PlayRequestTitle)
  | .notify (.sent l' .modified documentID' document) =>
      if l' = l ∧ documentID' = documentID then some document else none
  | _ => none

/-- **What a listener has still to tell of a document**, in order. -/
def untold (l : ℕ) (documentID : String) (pending : List LiveTask) : List (Doc PlayRequestTitle) :=
  pending.filterMap (LiveTask.tells l documentID)

theorem tells_eq_some_iff {t : LiveTask} {document : Doc PlayRequestTitle} :
    t.tells l documentID = some document ↔
      t = .notify (.sent l .modified documentID document) := by
  constructor
  · intro h
    cases t with
    | getDocuments page | getPlayRequests page documents => cases h
    | notify t =>
      cases t with
      | received | getUserByFirebaseId => cases h
      | sent l' type documentID' document' =>
        cases type with
        | added | removed => cases h
        | modified =>
          obtain ⟨⟨rfl, rfl⟩, hdocument⟩ := Option.ite_none_right_eq_some.1 h
          rw [Option.some.inj hdocument]
  · rintro rfl
    exact if_pos ⟨rfl, rfl⟩

theorem mem_untold {pending : List LiveTask} {document : Doc PlayRequestTitle} :
    document ∈ untold l documentID pending ↔
      .notify (.sent l .modified documentID document) ∈ pending := by
  constructor
  · intro h
    obtain ⟨t, ht, htells⟩ := List.mem_filterMap.1 h
    rw [← tells_eq_some_iff.1 htells]
    exact ht
  · exact fun h => List.mem_filterMap.2 ⟨_, h, tells_eq_some_iff.2 rfl⟩

theorem untold_append (l : ℕ) (documentID : String) (pending ts : List LiveTask) :
    untold l documentID (pending ++ ts) = untold l documentID pending ++ untold l documentID ts :=
  List.filterMap_append

/-- **What the listeners are told of a change**: each of its sender, the
document. -/
theorem mem_untold_deliver {s : Notify} {type : DocumentChangeType}
    {document document' : Doc PlayRequestTitle} :
    document' ∈ untold l documentID ((s.deliver type documentID' document).map .notify) ↔
      type = .modified ∧ documentID = documentID' ∧ document' = document ∧
        ∃ me, s.sending[l]? = some me ∧ isEqualTo .requestSenderId me document := by
  rw [mem_untold, List.mem_map]
  constructor
  · rintro ⟨t, ht, heq⟩
    obtain rfl := LiveTask.notify.inj heq
    rcases List.mem_append.1 ht with ht | ht
    · obtain ⟨p, -, heq⟩ := List.mem_map.1 ht
      cases heq
    · obtain ⟨p, hp, heq⟩ := List.mem_map.1 ht
      obtain ⟨rfl, rfl, rfl, rfl⟩ := NotifyTask.sent.inj heq
      obtain ⟨hzip, hequal⟩ := List.mem_filter.1 hp
      exact ⟨rfl, rfl, rfl, p.1, List.mem_zipIdx_iff_getElem?.1 hzip, hequal⟩
  · rintro ⟨rfl, rfl, rfl, me, hme, hequal⟩
    refine ⟨_, List.mem_append_right _ (List.mem_map.2 ⟨(me, l), ?_, rfl⟩), rfl⟩
    exact List.mem_filter.2 ⟨List.mem_zipIdx_iff_getElem?.2 hme, hequal⟩

/-- What a listener tells first, and then the others. -/
theorem untold_eraseIdx {pending : List LiveTask} {n : ℕ} {document : Doc PlayRequestTitle}
    (ht : pending[n]? = some (.notify (.sent l .modified documentID document)))
    (hfirst : ∀ t ∈ pending.take n, t.listener ≠ some l) :
    untold l documentID pending = document :: untold l documentID (pending.eraseIdx n) := by
  obtain ⟨hhead, hrest⟩ := filterMap_eraseIdx_of_some ht (tells_eq_some_iff.2 rfl)
  have hnone : (pending.take n).filterMap (LiveTask.tells l documentID) = [] := by
    refine List.filterMap_eq_nil_iff.2 fun t ht => ?_
    cases htells : t.tells l documentID with
    | none => rfl
    | some d =>
      rw [tells_eq_some_iff.1 htells] at ht
      exact absurd rfl (hfirst _ ht)
  rw [hnone, List.length_nil] at hhead hrest
  show untold l documentID pending = document :: (pending.eraseIdx n).filterMap _
  rw [hrest]
  unfold untold
  cases heq : pending.filterMap (LiveTask.tells l documentID) with
  | nil =>
    rw [heq] at hhead
    cases hhead
  | cons first rest =>
    rw [heq] at hhead
    rw [Option.some.inj hhead]
    rfl

/-- Another callback has nothing to tell. -/
theorem untold_eraseIdx_of_none {pending : List LiveTask} {n : ℕ} {t : LiveTask}
    (ht : pending[n]? = some t) (hnone : t.tells l documentID = none) :
    untold l documentID (pending.eraseIdx n) = untold l documentID pending :=
  filterMap_eraseIdx_of_none ht hnone

end Volleyer
