import Volleyer.Screen.Received
import Volleyer.Stored.Request

/-!
# The page of sent requests, and the page that opens it

`RequestSentViewController` shows the requests last delivered to it, and
replaces a row where the listener on sent requests tells of a change
(`updateRequestsSentTableView`). `MyViewController` shows how many of the
requests of each kind wait for an answer.
-/

namespace Volleyer

/-! ## The two screens -/

/-- **The screen of sent requests**: the requests, and what stands in their
place. -/
structure RequestSentViewController where
  myRequests : List PlayRequest := []
  photoImageViewHidden : Bool := true
  noDataLabelHidden : Bool := true
  requestsTableViewHidden : Bool := false

namespace RequestSentViewController

/-- `manager(_:iSent:)` -/
def iSent (vc : RequestSentViewController) (playRequests : List PlayRequest) :
    RequestSentViewController :=
  if playRequests.length = 0 then
    { vc with
      myRequests := playRequests
      photoImageViewHidden := false
      noDataLabelHidden := false
      requestsTableViewHidden := true }
  else
    { myRequests := playRequests
      photoImageViewHidden := true
      noDataLabelHidden := true
      requestsTableViewHidden := false }

/-- The closure `viewDidLoad` leaves with the shared manager: each row of
the request is replaced, and reloaded. -/
def updateRequestsSentTableView (vc : RequestSentViewController) (modifiedRequest : PlayRequest) :
    RequestSentViewController :=
  { vc with
    myRequests := vc.myRequests.map fun request =>
      if request.id = modifiedRequest.id then modifiedRequest else request }

@[simp] theorem myRequests_iSent (vc : RequestSentViewController)
    (playRequests : List PlayRequest) : (vc.iSent playRequests).myRequests = playRequests := by
  unfold iSent
  split <;> rfl

/-- A row after a change is the changed request, or was there. -/
theorem mem_updateRequestsSentTableView {vc : RequestSentViewController}
    {modifiedRequest request : PlayRequest}
    (h : request ∈ (vc.updateRequestsSentTableView modifiedRequest).myRequests) :
    request = modifiedRequest ∨ request ∈ vc.myRequests := by
  obtain ⟨row, hrow, rfl⟩ := List.mem_map.1 h
  split
  · exact Or.inl rfl
  · exact Or.inr hrow

end RequestSentViewController

/-- **The page of the account**, as far as the requests reach it: the
amounts that wait, each with the text last written to its label. -/
structure MyViewController where
  requestReceiveAmountLabelHidden : Bool := false
  requestReceiveAmountLabel : String := ""
  requestSentAmountLabelHidden : Bool := false
  requestSentAmountLabel : String := ""

namespace MyViewController

/-- `for i in playRequests where i.status == 0` -/
def amount (playRequests : List PlayRequest) : ℕ := playRequests.countP (·.status == 0)

/-- The text of an amount, with two blanks on either side. -/
def amountText (amount : ℕ) : String := "  " ++ toString amount ++ "  "

/-- `manager(_:iReceive:)` -/
def iReceive (vc : MyViewController) (playRequests : List PlayRequest) : MyViewController :=
  if amount playRequests > 0 then
    { vc with
      requestReceiveAmountLabelHidden := false
      requestReceiveAmountLabel := amountText (amount playRequests) }
  else { vc with requestReceiveAmountLabelHidden := true }

/-- `manager(_:iSent:)` -/
def iSent (vc : MyViewController) (playRequests : List PlayRequest) : MyViewController :=
  if amount playRequests > 0 then
    { vc with
      requestSentAmountLabelHidden := false
      requestSentAmountLabel := amountText (amount playRequests) }
  else { vc with requestSentAmountLabelHidden := true }

end MyViewController

end Volleyer
