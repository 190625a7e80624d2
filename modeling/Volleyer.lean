import Volleyer.Common.Codec
import Volleyer.Common.Collection
import Volleyer.Common.Machine
import Volleyer.Common.Settle
import Volleyer.Common.Edits
import Volleyer.Common.Appends
import Volleyer.Common.Simulates
import Volleyer.Common.Projects
import Volleyer.Common.Writes
import Volleyer.Common.Agree
import Volleyer.Common.Join
import Volleyer.Common.Distinct
import Volleyer.Common.Labelled
import Volleyer.Common.Line
import Volleyer.Common.Beside
import Volleyer.Common.Binary64
import Volleyer.Common.Cells
import Volleyer.Common.Ranked
import Volleyer.Common.Linearize
import Volleyer.Model.Value
import Volleyer.Model.Documents
import Volleyer.Model.Choices
import Volleyer.Roster.Model
import Volleyer.Roster.Effects
import Volleyer.Roster.Settle
import Volleyer.Roster.Exact
import Volleyer.Roster.Sample
import Volleyer.Roster.Fresh
import Volleyer.Roster.Provenance
import Volleyer.Roster.Finality
import Volleyer.Roster.Register
import Volleyer.Roster.Overlap
import Volleyer.Roster.Serial
import Volleyer.Roster.Cancel
import Volleyer.Roster.Failure
import Volleyer.Roster.Delete
import Volleyer.Roster.OneRequest
import Volleyer.Screen.Received
import Volleyer.Screen.OnePlace
import Volleyer.Account.Model
import Volleyer.Account.Agree
import Volleyer.Account.Edits
import Volleyer.Account.Owner
import Volleyer.Courts.Model
import Volleyer.Courts.Assembly
import Volleyer.Courts.Delivery
import Volleyer.LineUp.Model
import Volleyer.LineUp.Overlap
import Volleyer.LineUp.Steps
import Volleyer.LineUp.CancelPlay
import Volleyer.LineUp.Table
import Volleyer.LineUp.Screen
import Volleyer.LineUp.Once
import Volleyer.LineUp.Refresh
import Volleyer.LineUp.InLine
import Volleyer.LineUp.OnScreen
import Volleyer.LineUp.Queue
import Volleyer.LineUp.Newest
import Volleyer.Session.InputProfile
import Volleyer.Session.EstablishFinder
import Volleyer.Session.Model
import Volleyer.Session.Steps
import Volleyer.Session.Launch
import Volleyer.Session.Unique
import Volleyer.Session.Return
import Volleyer.Session.Refused
import Volleyer.Session.Ranges
import Volleyer.Session.EstablishForm
import Volleyer.Common.Owed
import Volleyer.Notify.Model
import Volleyer.Notify.Once
import Volleyer.Feed.Model
import Volleyer.Feed.Delivery
import Volleyer.Feed.Latest
import Volleyer.Common.Tagged
import Volleyer.Roster.Gone
import Volleyer.Common.Gather
import Volleyer.Model.Gender
import Volleyer.Fetch.Model
import Volleyer.Fetch.Delivery
import Volleyer.Fetch.Answers
import Volleyer.Common.Deal
import Volleyer.Team.Model
import Volleyer.Team.Partition
import Volleyer.Team.Close
import Volleyer.Team.Button
import Volleyer.Common.ThreeHands
import Volleyer.Common.TightHands
import Volleyer.Common.FreedHands
import Volleyer.Common.StuckHands
import Volleyer.Team.Doomed
import Volleyer.Team.Stuck
import Volleyer.Team.Doubles
import Volleyer.Account.Blocking
import Volleyer.Feed.Visible
import Volleyer.Roster.Deletion
import Volleyer.Roster.HalfDeleted
import Volleyer.Common.StableSort
import Volleyer.Fetch.Arrival
import Volleyer.Screen.Arrival
import Volleyer.Screen.Titles
import Volleyer.Account.Overlap
import Volleyer.Stored.Play
import Volleyer.Stored.Profile
import Volleyer.Stored.Request
import Volleyer.Notify.Dates
import Volleyer.Stored.Cache
import Volleyer.LineUp.Controls
import Volleyer.Common.Refines
import Volleyer.Roster.Club
import Volleyer.Roster.Refines
import Volleyer.Screen.Pages
import Volleyer.Roster.Origins
import Volleyer.Screen.Sent
import Volleyer.App.Model
import Volleyer.App.Screens
import Volleyer.App.Owners
import Volleyer.App.Consent
import Volleyer.Roster.Decisions
import Volleyer.Roster.AsDecided
import Volleyer.Roster.Cells
import Volleyer.Roster.Separate
import Volleyer.Roster.Linear
import Volleyer.Cards.Model
import Volleyer.Cards.Steps
import Volleyer.Cards.Signed
import Volleyer.Cards.OnePerson
import Volleyer.Screen.Live
import Volleyer.Screen.UpToDate
import Volleyer.Account.Apart
import Volleyer.Account.Served
import Volleyer.App.RoundTrips
