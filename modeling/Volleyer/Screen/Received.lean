import Mathlib.Data.List.Sort
import Volleyer.Common.Simulates
import Volleyer.Roster.Register

/-!
# The screen of received requests

`RequestsReceivedViewController` shows the requests last delivered to it.
A cell is drawn from its row, and `updateStatus` captures the request of
that row; the buttons of a drawn cell stay as the drawing or the last tap
left them. `RequestsTableViewCell`s are reused, so any cell may be drawn
for any row.

The machine is the roster machine with the screen beside the store: a tap
is a call of `updateRequest`, everything else touches the screen alone.
-/

namespace Volleyer

/-- The texts the buttons and the states of a request carry. -/
inductive RequestEnum
  | invite | accepted | denied

def RequestEnum.rawValue : RequestEnum → String
  | invite => "邀請"
  | accepted => "已接受"
  | denied => "已拒絕"

abbrev requestStatus : List String := ["等待中", "已接受", "已拒絕", "已取消"]

/-! ## Cells -/

/-- A cell. `updateStatus` is the request its closure captured, if it was
ever drawn. -/
structure RequestsTableViewCell where
  acceptRequestButtonIsHidden : Bool := false
  denyRequestButtonIsHidden : Bool := false
  statusLableIsHidden : Bool := true
  statusLableText : String := "Status"
  updateStatus : Option PlayRequest := none

namespace RequestsTableViewCell

def showOnly (cell : RequestsTableViewCell) (status : String) : RequestsTableViewCell :=
  { cell with
    acceptRequestButtonIsHidden := true
    denyRequestButtonIsHidden := true
    statusLableIsHidden := false
    statusLableText := RequestEnum.invite.rawValue ++ status }

/-- What `cellForRowAt` makes of a dequeued cell. -/
def draw (cell : RequestsTableViewCell) (thisRequest : PlayRequest) : RequestsTableViewCell :=
  let cell :=
    if thisRequest.status = 99 then cell.showOnly requestStatus[1]
    else if thisRequest.status = 0 then
      { cell with
        acceptRequestButtonIsHidden := false
        denyRequestButtonIsHidden := false
        statusLableIsHidden := true }
    else if thisRequest.status = -1 then cell.showOnly requestStatus[3]
    else cell.showOnly requestStatus[2]
  { cell with updateStatus := some thisRequest }

/-- **What a cell offers**: a button that shows belongs to a request that
was pending where the cell was drawn. -/
def Offers (cell : RequestsTableViewCell) (P : PlayRequest → Prop) : Prop :=
  cell.acceptRequestButtonIsHidden = false ∨ cell.denyRequestButtonIsHidden = false →
    ∀ request, cell.updateStatus = some request → request.status = 0 ∧ P request

variable {cell : RequestsTableViewCell} {P Q : PlayRequest → Prop} {request : PlayRequest}

theorem Offers.mono (h : cell.Offers P) (hPQ : ∀ request, P request → Q request) :
    cell.Offers Q :=
  fun hshown request hr => (h hshown request hr).imp id (hPQ request)

/-- After a tap the cell offers nothing. -/
theorem offers_showOnly (status : String) : (cell.showOnly status).Offers P :=
  fun hshown => by rcases hshown with h | h <;> cases h

/-- A drawn cell offers its row, if that is pending. -/
theorem offers_draw (h : P request) : (cell.draw request).Offers P := by
  intro hshown r hr
  obtain rfl : request = r := Option.some.inj hr
  refine ⟨?_, h⟩
  by_contra hne
  have hhidden : (cell.draw request).acceptRequestButtonIsHidden = true ∧
      (cell.draw request).denyRequestButtonIsHidden = true := by
    simp only [draw, if_neg hne]
    split
    · exact ⟨rfl, rfl⟩
    · split <;> exact ⟨rfl, rfl⟩
  rcases hshown with h | h
  · rw [hhidden.1] at h
    cases h
  · rw [hhidden.2] at h
    cases h

end RequestsTableViewCell

/-! ## The list a screen is delivered -/

/-- `$0.createTime < $1.createTime` -/
def Timestamp.before (a b : Timestamp) : Prop :=
  a.seconds < b.seconds ∨ a.seconds = b.seconds ∧ a.nanoseconds < b.nanoseconds

instance (a b : Timestamp) : Decidable (a.before b) :=
  inferInstanceAs (Decidable (_ ∨ _ ∧ _))

/-- What the callback of `getPlayRequests` delivers to `me` as received;
`now` stands in for a missing time. -/
def RequestDataManager.playRequestsReceive (s : Server) (me : Option String) (now : Date) :
    List PlayRequest :=
  let playRequestsReceiveArray := s.requests.entries.filterMap fun document =>
    (decodePlayRequest document.1 document.2 now).filter fun aPlayRequest =>
      some aPlayRequest.requestReceverId == me
  playRequestsReceiveArray.insertionSort fun a b => ¬b.createTime.before a.createTime

/-- What is delivered is stored. -/
theorem currentRequest_of_mem_receive {s : Server} {me : Option String} {now : Date}
    {request : PlayRequest} (h : request ∈ RequestDataManager.playRequestsReceive s me now) :
    CurrentRequest s request := by
  rw [RequestDataManager.playRequestsReceive, List.mem_insertionSort] at h
  obtain ⟨⟨i, d⟩, hd, hr⟩ := List.mem_filterMap.1 h
  obtain ⟨hdec, -⟩ := Option.filter_eq_some_iff.1 hr
  have hid : request.id = i := (decodePlayRequestWith_eq_some hdec).1
  exact ⟨d, now, hid ▸ Collection.get_eq_some_iff.2 hd, Or.inl (hid ▸ hdec)⟩

/-! ## The machine -/

/-- The screen: the rows, and the cells. -/
structure RequestsReceivedViewController where
  myRequests : List PlayRequest := []
  cells : ℕ → RequestsTableViewCell := fun _ => {}

/-- The store with the screen beside it. -/
structure Received where
  server : Server
  screen : RequestsReceivedViewController

/-- What happens on the screen. The label of a tap says which request the
cell's closure captured. -/
inductive ReceivedCall
  | iReceive (playRequests : List PlayRequest)
  | cellForRowAt (row cell : ℕ)
  | acceptRequest (cell : ℕ) (request : Option PlayRequest)
  | denyRequest (cell : ℕ) (request : Option PlayRequest)

namespace RequestsReceivedViewController

/-- The screen with one cell replaced. -/
def setCell (screen : RequestsReceivedViewController) (k : ℕ) (cell : RequestsTableViewCell) :
    RequestsReceivedViewController :=
  { screen with cells := Function.update screen.cells k cell }

/-- The screen after a tap on a cell, and what its closure starts. -/
def tap (s : Received) (k : ℕ) (text : RequestEnum) (status : ℤ) (request : Option PlayRequest) :
    Received × List Task :=
  ({ s with screen := s.screen.setCell k ((s.screen.cells k).showOnly text.rawValue) },
    request.elim [] (RequestDataManager.updateRequest · status))

/-- Only a button that shows can be tapped. -/
def issue (s : Received) : ReceivedCall → Option (Received × List Task)
  | .iReceive playRequests => some ({ s with screen.myRequests := playRequests }, [])
  | .cellForRowAt row k => s.screen.myRequests[row]?.map fun thisRequest =>
      ({ s with screen := s.screen.setCell k ((s.screen.cells k).draw thisRequest) }, [])
  | .acceptRequest k request =>
      if (s.screen.cells k).acceptRequestButtonIsHidden = false ∧
          (s.screen.cells k).updateStatus = request then
        some (tap s k .accepted 99 request)
      else none
  | .denyRequest k request =>
      if (s.screen.cells k).denyRequestButtonIsHidden = false ∧
          (s.screen.cells k).updateStatus = request then
        some (tap s k .denied 1 request)
      else none

end RequestsReceivedViewController

/-- **The screen over the roster machine.** -/
def received : Machine Received ReceivedCall Task Reply where
  issue := RequestsReceivedViewController.issue
  answer s t r := ({ s with server := (answer s.server t r).1 }, (answer s.server t r).2)

/-- The call of the manager an event of the screen makes. -/
def ReceivedCall.updateRequest : ReceivedCall → Option Call
  | .acceptRequest _ request => request.map (.updateRequest · 99)
  | .denyRequest _ request => request.map (.updateRequest · 1)
  | _ => none

/-- **The screen runs the roster machine.** -/
theorem received_simulates
    {ok : Config Received Task → Event ReceivedCall Reply → Prop} :
    Simulates received roster ok (fun r s => r.server = s) ReceivedCall.updateRequest where
  call {c' s a b s₁ ts} _ hs hb hi := by
    subst hs
    cases a with
    | iReceive | cellForRowAt => cases hb
    | acceptRequest k request | denyRequest k request =>
      obtain ⟨request, rfl, rfl⟩ := Option.map_eq_some_iff.1 hb
      obtain ⟨-, htap⟩ := Option.ite_none_right_eq_some.1 hi
      obtain ⟨rfl, rfl⟩ := Prod.mk.inj (Option.some.inj htap)
      exact ⟨_, rfl, rfl⟩
  silent {c' s a s₁ ts} _ hs hb hi := by
    subst hs
    cases a with
    | iReceive =>
      obtain ⟨rfl, rfl⟩ := Prod.mk.inj (Option.some.inj hi)
      exact ⟨rfl, rfl⟩
    | cellForRowAt row k =>
      obtain ⟨request, -, heq⟩ := Option.map_eq_some_iff.1 hi
      obtain ⟨rfl, rfl⟩ := Prod.mk.inj heq
      exact ⟨rfl, rfl⟩
    | acceptRequest k request | denyRequest k request =>
      obtain rfl := Option.map_eq_none_iff.1 hb
      obtain ⟨-, htap⟩ := Option.ite_none_right_eq_some.1 hi
      obtain ⟨rfl, rfl⟩ := Prod.mk.inj (Option.some.inj htap)
      exact ⟨rfl, rfl⟩
  answer _ _ hs := by
    subst hs
    exact ⟨rfl, rfl⟩

end Volleyer
