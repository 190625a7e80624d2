import Volleyer.LineUp.Model

/-!
# Lining up — the screen of one device

`PlayOneViewController` and the table it is the source of. The table asks
for cells and headers of the sections it counted when it was last
reloaded, and only a delivery reloads it; `playOneData` is emptied by
every event of the listener and every pull besides. The bar button is put
up by a tap on a header as well as by a delivery that lists the user, and
`courtIAdded`, which its alert unwraps, by the delivery alone.

What is delivered is any list of courts (`didget`), and it is kept as the
list last delivered. A forced unwrap of `nil` and an index out of range
end the program: nothing happens on a screen that has trapped.
-/

namespace Volleyer

/-- A header of the table: its section, and whether its button is hidden. -/
structure SectionHeader where
  tag : ℕ
  lineUpButtonIsHidden : Bool

/-- A cell of the table, with the section it was made for and the courts of
then. -/
structure PlayOneTableViewCell where
  tag : ℕ
  playOneFinderData : List User
  playOneData : List PlayOne

/-- `collectionView(_:numberOfItemsInSection:)` of a cell, which hides its
collection view where there is no finder. -/
def PlayOneTableViewCell.numberOfItems (cell : PlayOneTableViewCell) : ℕ :=
  if cell.playOneFinderData.length = 0 then 0
  else (cell.playOneData[cell.tag]?.map fun playOne => playOne.finders.length).getD 0

/-- What a page of one finder is opened with. -/
structure PlayOneFinderViewController where
  court : String
  finderInfo : User

/-- The requests the screen makes of its data manager. -/
inductive PlayOneRequest
  | getPlayOneCourts
  | createPlayOneFinder (finder : String)
  | addFinderOFACourt (finder court : String)
  | deleteFinderOFACourt (finder court : String)
  | deletaPlayOnefinder (finder : String)
deriving DecidableEq

/-- What ends the program. -/
inductive Trap
  | indexOutOfRange
  | unwrappedNil
deriving DecidableEq

/-- **The screen.** -/
structure PlayOneScreen where
  page : Page := {}
  /-- the sections the table counted when it was last reloaded -/
  numberOfSections : ℕ := 0
  headers : List SectionHeader := []
  cells : List PlayOneTableViewCell := []
  /-- whether the alert of `cancelPlay` is up -/
  alert : Bool := false
  pushed : List PlayOneFinderViewController := []
  requests : List PlayOneRequest := []
  /-- the courts as they were last delivered -/
  delivered : List PlayOne := []
  trap : Option Trap := none

/-- What happens on the screen. -/
inductive PlayOneScreenCall
  | updatePlayOneTableView
  | pullToRefresh
  | didget (playOne : List PlayOne)
  | cellForRowAt (tag : ℕ)
  | viewForHeaderInSection (tag : ℕ)
  /-- a tap on the button of a header -/
  | lineUp (tag : ℕ)
  /-- a tap on a finder in a cell -/
  | tapAFinder (whichCourt whichFinder : ℕ)
  /-- a tap on the bar button -/
  | cancelPlay
  | okAction
  | cancelAction

namespace PlayOneScreen

/-- `playOneData = []` and `getPlayOneCourts()` -/
def refresh (s : PlayOneScreen) : PlayOneScreen :=
  { s with page.playOneData := [], requests := s.requests ++ [.getPlayOneCourts] }

/-- `manager(_:didget:)`, whose `reloadData()` does away with the cells and
the headers. -/
def didget (firebaseId : Option String) (s : PlayOneScreen) (playOne : List PlayOne) :
    PlayOneScreen :=
  let page := s.page.didget firebaseId playOne
  { s with
    page := page
    numberOfSections := page.playOneData.length
    headers := []
    cells := []
    delivered := playOne }

/-- An index out of range. -/
def outOfRange (s : PlayOneScreen) : PlayOneScreen := { s with trap := some .indexOutOfRange }

/-- `tableView(_:cellForRowAt:)` -/
def cellForRowAt (s : PlayOneScreen) (tag : ℕ) : PlayOneScreen :=
  match s.page.playOneData[tag]? with
  | none => s.outOfRange
  | some playOne =>
      let cell :=
        { tag := tag, playOneFinderData := playOne.finders, playOneData := s.page.playOneData }
      { s with cells := s.cells ++ [cell] }

/-- `tableView(_:viewForHeaderInSection:)` -/
def viewForHeaderInSection (s : PlayOneScreen) (tag : ℕ) : PlayOneScreen :=
  match s.page.playOneData[tag]? with
  | none => s.outOfRange
  | some _ =>
      let header := { tag := tag, lineUpButtonIsHidden := !s.page.canAddPlay }
      { s with headers := s.headers ++ [header] }

/-- `lineUp(_:)` -/
def lineUp (firebaseId : Option String) (s : PlayOneScreen) (tag : ℕ) : PlayOneScreen :=
  let finder := firebaseId.getD "No Id"
  if s.page.canAddPlay then
    match s.page.playOneData[tag]? with
    | none => { s.outOfRange with requests := s.requests ++ [.createPlayOneFinder finder] }
    | some playOne =>
        { s with
          page.rightBarButtonItem := true
          requests := s.requests ++
            [.createPlayOneFinder finder, .addFinderOFACourt finder playOne.court] }
  else s

/-- `pushToPlayOneFinderVC(whichCourt:whichFinder:)` -/
def pushToPlayOneFinderVC (s : PlayOneScreen) (whichCourt whichFinder : ℕ) : PlayOneScreen :=
  match s.page.playOneData[whichCourt]? with
  | none => s.outOfRange
  | some playOne =>
      match playOne.finders[whichFinder]? with
      | none => s.outOfRange
      | some finderInfo =>
          let court := playOne.court ++ " play" ++ toString (whichFinder + 1)
          { s with pushed := s.pushed ++ [{ court := court, finderInfo := finderInfo }] }

/-- The action of the alert that confirms. -/
def okAction (firebaseId : Option String) (s : PlayOneScreen) : PlayOneScreen :=
  let finder := firebaseId.getD "No User Id"
  let page := { s.page with rightBarButtonItem := false, canAddPlay := true }
  match s.page.courtIAdded with
  | none => { s with page := page, alert := false, trap := some .unwrappedNil }
  | some court =>
      { s with
        page := { page with courtIAdded := none }
        alert := false
        requests := s.requests ++
          [.deleteFinderOFACourt finder court, .deletaPlayOnefinder finder] }

/-- Whether a call can happen: the table asks for what it has, and what is
tapped is there. -/
def Offers (s : PlayOneScreen) : PlayOneScreenCall → Prop
  | .updatePlayOneTableView | .pullToRefresh | .didget _ => True
  | .cellForRowAt tag | .viewForHeaderInSection tag => tag < s.numberOfSections
  | .lineUp tag => ∃ header ∈ s.headers, header.tag = tag ∧ header.lineUpButtonIsHidden = false
  | .tapAFinder whichCourt whichFinder =>
      ∃ cell ∈ s.cells, cell.tag = whichCourt ∧ whichFinder < cell.numberOfItems
  | .cancelPlay => s.page.rightBarButtonItem = true
  | .okAction | .cancelAction => s.alert = true

instance (s : PlayOneScreen) : DecidablePred s.Offers
  | .updatePlayOneTableView | .pullToRefresh | .didget _ => inferInstanceAs (Decidable True)
  | .cellForRowAt tag | .viewForHeaderInSection tag =>
      inferInstanceAs (Decidable (tag < s.numberOfSections))
  | .lineUp tag => inferInstanceAs (Decidable (∃ header ∈ s.headers,
      header.tag = tag ∧ header.lineUpButtonIsHidden = false))
  | .tapAFinder whichCourt whichFinder => inferInstanceAs (Decidable (∃ cell ∈ s.cells,
      cell.tag = whichCourt ∧ whichFinder < cell.numberOfItems))
  | .cancelPlay => inferInstanceAs (Decidable (s.page.rightBarButtonItem = true))
  | .okAction | .cancelAction => inferInstanceAs (Decidable (s.alert = true))

/-- **What a call does.** -/
def apply (firebaseId : Option String) (s : PlayOneScreen) : PlayOneScreenCall → PlayOneScreen
  | .updatePlayOneTableView | .pullToRefresh => s.refresh
  | .didget playOne => s.didget firebaseId playOne
  | .cellForRowAt tag => s.cellForRowAt tag
  | .viewForHeaderInSection tag => s.viewForHeaderInSection tag
  | .lineUp tag => s.lineUp firebaseId tag
  | .tapAFinder whichCourt whichFinder => s.pushToPlayOneFinderVC whichCourt whichFinder
  | .cancelPlay => { s with alert := true }
  | .okAction => s.okAction firebaseId
  | .cancelAction => { s with alert := false }

end PlayOneScreen

/-- **The machine of the screen** of a device signed in as `firebaseId`. -/
def playOneScreen (firebaseId : Option String) :
    Machine PlayOneScreen PlayOneScreenCall Empty Empty where
  issue s a := if s.trap = none ∧ s.Offers a then some (s.apply firebaseId a, []) else none
  answer _ t _ := t.elim

variable {firebaseId : Option String} {c c' : Config PlayOneScreen Empty}

/-- A step is a call that can happen, of a screen that has not trapped. -/
theorem step_playOneScreen {e : Event PlayOneScreenCall Empty}
    (h : (playOneScreen firebaseId).step c e = some c') :
    ∃ a, e = .call a ∧ c.state.trap = none ∧ c.state.Offers a ∧
      c' = ⟨c.state.apply firebaseId a, c.seen, c.pending⟩ := by
  rcases Machine.step_cases h with ⟨a, s, ts, rfl, hi, rfl⟩ | ⟨i, r, t, -⟩
  · obtain ⟨⟨htrap, hoffers⟩, hs⟩ := Option.ite_none_right_eq_some.1 hi
    obtain ⟨rfl, rfl⟩ := Prod.mk.inj (Option.some.inj hs)
    exact ⟨a, rfl, htrap, hoffers, by rw [List.append_nil]⟩
  · exact t.elim

end Volleyer
