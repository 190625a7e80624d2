import Volleyer.LineUp.Refresh
import Volleyer.LineUp.Screen

/-!
# Lining up — the alert of the bar button

`canAddPlay` and `courtIAdded` go together, and while the user may not
line up the bar button is there (`Linked`). It is there too after a tap
on a header, when `courtIAdded` is `nil` still, and it stays over a
delivery that lists the user no more. These are the two ways to a button
whose alert unwraps no court, or one where the user does not wait.
-/

namespace Volleyer

variable {firebaseId : Option String} {s s' : PlayOneScreen} {a : PlayOneScreenCall}
variable {evs : List (Event PlayOneScreenCall Empty)} {c : Config PlayOneScreen Empty}

/-! ## Who is listed -/

/-- The user is one of the finders of a court. -/
def PlayOne.Lists (playOne : PlayOne) (firebaseId : Option String) : Prop :=
  ∃ finder ∈ playOne.finders, firebaseId = some finder.firebaseId

namespace Page

variable {page : Page}

/-- The loop over the finders of a court. -/
theorem foldl_find_cases (firebaseId : Option String) (playOne : PlayOne) (page : Page)
    (finders : List User) :
    (∃ finder ∈ finders, firebaseId = some finder.firebaseId) ∧
        finders.foldl (find firebaseId playOne) page = page.queued playOne.court ∨
      (¬∃ finder ∈ finders, firebaseId = some finder.firebaseId) ∧
        finders.foldl (find firebaseId playOne) page = page := by
  induction finders generalizing page with
  | nil => exact Or.inr ⟨by simp, rfl⟩
  | cons finder finders ih =>
    rw [List.foldl_cons]
    by_cases hfinder : firebaseId = some finder.firebaseId
    · have hfind : find firebaseId playOne page finder = page.queued playOne.court := if_pos hfinder
      rw [hfind]
      refine Or.inl ⟨⟨finder, List.mem_cons_self, hfinder⟩, ?_⟩
      rcases ih (page.queued playOne.court) with ⟨-, hrest⟩ | ⟨-, hrest⟩
      · rw [hrest]
        rfl
      · exact hrest
    · have hfind : find firebaseId playOne page finder = page := if_neg hfinder
      rw [hfind]
      simpa [hfinder] using ih page

/-- The loop over the courts: the last court that lists the user stays. -/
theorem foldl_courts_cases (firebaseId : Option String) (page : Page) (playOnes : List PlayOne) :
    (∃ playOne ∈ playOnes, playOne.Lists firebaseId ∧
        playOnes.foldl (fun page playOne => playOne.finders.foldl (find firebaseId playOne) page)
          page = page.queued playOne.court) ∨
      (∀ playOne ∈ playOnes, ¬playOne.Lists firebaseId) ∧
        playOnes.foldl (fun page playOne => playOne.finders.foldl (find firebaseId playOne) page)
          page = page := by
  induction playOnes generalizing page with
  | nil => exact Or.inr ⟨fun _ hp => absurd hp List.not_mem_nil, rfl⟩
  | cons playOne playOnes ih =>
    rw [List.foldl_cons]
    rcases foldl_find_cases firebaseId playOne page playOne.finders with ⟨hlists, hfind⟩ |
      ⟨hnot, hfind⟩
    · rw [hfind]
      refine Or.inl ?_
      rcases ih (page.queued playOne.court) with ⟨p, hp, hlists', hrest⟩ | ⟨-, hrest⟩
      · exact ⟨p, List.mem_cons_of_mem _ hp, hlists', hrest⟩
      · exact ⟨playOne, List.mem_cons_self, hlists, hrest⟩
    · rw [hfind]
      refine (ih page).imp ?_ ?_
      · rintro ⟨p, hp, hlists, hrest⟩
        exact ⟨p, List.mem_cons_of_mem _ hp, hlists, hrest⟩
      · rintro ⟨hall, hrest⟩
        exact ⟨List.forall_mem_cons.2 ⟨hnot, hall⟩, hrest⟩

/-- **What a delivery does to a page.** It shows one of the courts that
list the user, or says of them what it said. -/
theorem didget_cases (firebaseId : Option String) (page : Page) (playOnes : List PlayOne) :
    (∃ playOne ∈ playOnes, playOne.Lists firebaseId ∧ didget firebaseId page playOnes =
        ({ page with playOneData := sortByOrder playOnes }).queued playOne.court) ∨
      (∀ playOne ∈ playOnes, ¬playOne.Lists firebaseId) ∧
        didget firebaseId page playOnes = { page with playOneData := sortByOrder playOnes } := by
  have hmem : ∀ p, p ∈ sortByOrder playOnes ↔ p ∈ playOnes := fun p => List.mem_insertionSort _
  refine (foldl_courts_cases firebaseId { page with playOneData := sortByOrder playOnes }
    (sortByOrder playOnes)).imp ?_ ?_
  · rintro ⟨p, hp, hlists, hdidget⟩
    exact ⟨p, (hmem p).1 hp, hlists, hdidget⟩
  · rintro ⟨hnone, hdidget⟩
    exact ⟨fun p hp => hnone p ((hmem p).2 hp), hdidget⟩

end Page

/-! ## The three pieces of state -/

namespace PlayOneScreen

/-- A screen that says the same of lining up. -/
structure Beside (s s' : PlayOneScreen) : Prop where
  canAddPlay : s'.page.canAddPlay = s.page.canAddPlay
  courtIAdded : s'.page.courtIAdded = s.page.courtIAdded
  rightBarButtonItem : s'.page.rightBarButtonItem = s.page.rightBarButtonItem
  alert : s'.alert = s.alert

theorem beside_cellForRowAt (s : PlayOneScreen) (tag : ℕ) :
    Beside s (s.cellForRowAt tag) ∧ (s.cellForRowAt tag).delivered = s.delivered := by
  unfold cellForRowAt
  split
  · exact ⟨⟨rfl, rfl, rfl, rfl⟩, rfl⟩
  · exact ⟨⟨rfl, rfl, rfl, rfl⟩, rfl⟩

theorem beside_viewForHeaderInSection (s : PlayOneScreen) (tag : ℕ) :
    Beside s (s.viewForHeaderInSection tag) ∧
      (s.viewForHeaderInSection tag).delivered = s.delivered := by
  unfold viewForHeaderInSection
  split
  · exact ⟨⟨rfl, rfl, rfl, rfl⟩, rfl⟩
  · exact ⟨⟨rfl, rfl, rfl, rfl⟩, rfl⟩

theorem beside_pushToPlayOneFinderVC (s : PlayOneScreen) (whichCourt whichFinder : ℕ) :
    Beside s (s.pushToPlayOneFinderVC whichCourt whichFinder) ∧
      (s.pushToPlayOneFinderVC whichCourt whichFinder).delivered = s.delivered := by
  unfold pushToPlayOneFinderVC
  split
  · exact ⟨⟨rfl, rfl, rfl, rfl⟩, rfl⟩
  · split
    · exact ⟨⟨rfl, rfl, rfl, rfl⟩, rfl⟩
    · exact ⟨⟨rfl, rfl, rfl, rfl⟩, rfl⟩

/-- **The flag, the court and the button** are set and cleared together,
but for the button after a tap. -/
structure Linked (s : PlayOneScreen) : Prop where
  court : s.page.canAddPlay = true ↔ s.page.courtIAdded = none
  button : s.page.canAddPlay = false → s.page.rightBarButtonItem = true
  alert : s.alert = true → s.page.rightBarButtonItem = true

namespace Linked

/-- What leaves the three pieces and the alert. -/
theorem of_beside (h : s.Linked) (hs : Beside s s') : s'.Linked where
  court := by
    rw [hs.canAddPlay, hs.courtIAdded]
    exact h.court
  button := by
    rw [hs.canAddPlay, hs.rightBarButtonItem]
    exact h.button
  alert := by
    rw [hs.alert, hs.rightBarButtonItem]
    exact h.alert

theorem didget (h : s.Linked) (playOne : List PlayOne) : (s.didget firebaseId playOne).Linked := by
  unfold PlayOneScreen.didget
  rcases s.page.didget_cases firebaseId playOne with ⟨p, -, -, hdidget⟩ | ⟨-, hdidget⟩
  · rw [hdidget]
    exact ⟨iff_of_false Bool.false_ne_true nofun, fun _ => rfl, fun _ => rfl⟩
  · rw [hdidget]
    exact h.of_beside ⟨rfl, rfl, rfl, rfl⟩

theorem lineUp (h : s.Linked) (tag : ℕ) : (s.lineUp firebaseId tag).Linked := by
  unfold PlayOneScreen.lineUp
  split
  · split
    · exact h.of_beside ⟨rfl, rfl, rfl, rfl⟩
    · exact ⟨h.court, fun _ => rfl, fun _ => rfl⟩
  · exact h

theorem okAction (s : PlayOneScreen) : (s.okAction firebaseId).Linked := by
  unfold PlayOneScreen.okAction
  cases hcourt : s.page.courtIAdded with
  | none => exact ⟨iff_of_true rfl hcourt, nofun, nofun⟩
  | some court => exact ⟨iff_of_true rfl rfl, nofun, nofun⟩

/-- **Every step keeps them so.** -/
theorem apply (h : s.Linked) (ha : s.Offers a) : (s.apply firebaseId a).Linked := by
  cases a with
  | updatePlayOneTableView | pullToRefresh => exact h.of_beside ⟨rfl, rfl, rfl, rfl⟩
  | didget playOne => exact h.didget playOne
  | cellForRowAt tag => exact h.of_beside (s.beside_cellForRowAt tag).1
  | viewForHeaderInSection tag => exact h.of_beside (s.beside_viewForHeaderInSection tag).1
  | lineUp tag => exact h.lineUp tag
  | tapAFinder whichCourt whichFinder =>
    exact h.of_beside (s.beside_pushToPlayOneFinderVC whichCourt whichFinder).1
  | cancelPlay => exact ⟨h.court, h.button, fun _ => ha⟩
  | okAction => exact .okAction s
  | cancelAction => exact ⟨h.court, h.button, nofun⟩

end Linked

/-! ## What the alert cancels -/

/-- The user waits at a court, as it was last delivered. -/
def WaitsAt (firebaseId : Option String) (s : PlayOneScreen) (court : String) : Prop :=
  ∃ playOne ∈ s.delivered, playOne.court = court ∧ playOne.Lists firebaseId

/-- **Cancelling is right**: where the bar button is, `courtIAdded` is a
court where the user waits, and where its alert is up, the unwrap passes
and the user is taken off such a court. -/
structure CancelsRight (firebaseId : Option String) (s : PlayOneScreen) : Prop where
  button : s.page.rightBarButtonItem = true →
    ∃ court, s.page.courtIAdded = some court ∧ s.WaitsAt firebaseId court
  confirmed : s.alert = true → ∃ court, s.WaitsAt firebaseId court ∧
    (s.okAction firebaseId).trap = s.trap ∧
    (s.okAction firebaseId).requests = s.requests ++
      [.deleteFinderOFACourt (firebaseId.getD "No User Id") court,
        .deletaPlayOnefinder (firebaseId.getD "No User Id")]

/-- It is enough that it is where the button is. -/
theorem cancelsRight_iff (h : s.Linked) :
    s.CancelsRight firebaseId ↔ (s.page.rightBarButtonItem = true →
      ∃ court, s.page.courtIAdded = some court ∧ s.WaitsAt firebaseId court) := by
  refine ⟨CancelsRight.button, fun hbutton => ⟨hbutton, fun halert => ?_⟩⟩
  obtain ⟨court, hcourt, hwaits⟩ := hbutton (h.alert halert)
  refine ⟨court, hwaits, ?_⟩
  unfold okAction
  rw [hcourt]
  exact ⟨rfl, rfl⟩

/-- What leaves the button, the court and the delivery. -/
theorem CancelsRight.frame (h : s.CancelsRight firebaseId) (hl : s'.Linked)
    (hcourt : s'.page.courtIAdded = s.page.courtIAdded)
    (hbutton : s'.page.rightBarButtonItem = s.page.rightBarButtonItem)
    (hdelivered : s'.delivered = s.delivered) : s'.CancelsRight firebaseId := by
  refine (cancelsRight_iff hl).2 fun hthere => ?_
  rw [hbutton] at hthere
  obtain ⟨court, hsome, hwaits⟩ := h.button hthere
  refine ⟨court, hcourt.trans hsome, ?_⟩
  unfold WaitsAt
  rwa [hdelivered]

theorem CancelsRight.of_beside (h : s.CancelsRight firebaseId) (hl : s'.Linked)
    (hs : Beside s s' ∧ s'.delivered = s.delivered) : s'.CancelsRight firebaseId :=
  h.frame hl hs.1.courtIAdded hs.1.rightBarButtonItem hs.2

/-- **What a call must not do**: line the user up, or deliver courts that
do not list them where the button is. -/
def KeepsCourt (firebaseId : Option String) (s : PlayOneScreen) : PlayOneScreenCall → Prop
  | .lineUp tag => s.page.canAddPlay = true → s.page.playOneData[tag]? = none
  | .didget playOne => s.page.rightBarButtonItem = true → ∃ p ∈ playOne, p.Lists firebaseId
  | _ => True

/-- **A tap on a header** puts the button up over no court. -/
theorem cancelsRight_lineUp_iff (hl : s.Linked) (h : s.CancelsRight firebaseId) (tag : ℕ) :
    (s.lineUp firebaseId tag).CancelsRight firebaseId ↔
      s.KeepsCourt firebaseId (.lineUp tag) := by
  have hl' : (s.lineUp firebaseId tag).Linked := hl.lineUp tag
  by_cases hcan : s.page.canAddPlay = true
  · cases hdata : s.page.playOneData[tag]? with
    | none =>
      refine iff_of_true ?_ fun _ => hdata
      refine h.frame hl' ?_ ?_ ?_ <;>
        · unfold lineUp
          rw [if_pos hcan, hdata]
          rfl
    | some playOne =>
      have hbutton : (s.lineUp firebaseId tag).page.rightBarButtonItem = true := by
        unfold lineUp
        rw [if_pos hcan, hdata]
      have hcourt : (s.lineUp firebaseId tag).page.courtIAdded = none := by
        unfold lineUp
        rw [if_pos hcan, hdata]
        exact hl.court.1 hcan
      refine iff_of_false (fun hright => ?_) fun hkeeps => ?_
      · obtain ⟨court, hsome, -⟩ := hright.button hbutton
        rw [hcourt] at hsome
        cases hsome
      · have hnone := hkeeps hcan
        rw [hdata] at hnone
        cases hnone
  · have hsame : s.lineUp firebaseId tag = s := if_neg hcan
    rw [hsame]
    exact iff_of_true h fun hcan' => absurd hcan' hcan

/-- **A delivery** is right where it lists the user, or there is no
button. -/
theorem cancelsRight_didget_iff (hl : s.Linked) (playOne : List PlayOne) :
    (s.didget firebaseId playOne).CancelsRight firebaseId ↔
      s.KeepsCourt firebaseId (.didget playOne) := by
  have hl' : (s.didget firebaseId playOne).Linked := hl.didget playOne
  rw [cancelsRight_iff hl']
  rcases s.page.didget_cases firebaseId playOne with ⟨p, hp, hlists, hdidget⟩ | ⟨hnone, hdidget⟩
  · refine iff_of_true (fun _ => ⟨p.court, ?_, p, hp, rfl, hlists⟩) fun _ => ⟨p, hp, hlists⟩
    show (s.page.didget firebaseId playOne).courtIAdded = some p.court
    rw [hdidget]
    rfl
  · have hbutton : (s.didget firebaseId playOne).page.rightBarButtonItem =
        s.page.rightBarButtonItem := by
      show (s.page.didget firebaseId playOne).rightBarButtonItem = _
      rw [hdidget]
    rw [hbutton]
    refine imp_congr_right fun _ => iff_of_false ?_ ?_
    · rintro ⟨court, -, p, hp, -, hlists⟩
      exact hnone p hp hlists
    · rintro ⟨p, hp, hlists⟩
      exact hnone p hp hlists

/-- **Every other call keeps it right.** -/
theorem cancelsRight_apply_iff (hl : s.Linked) (h : s.CancelsRight firebaseId)
    (ha : s.Offers a) :
    (s.apply firebaseId a).CancelsRight firebaseId ↔ s.KeepsCourt firebaseId a := by
  have hl' : (s.apply firebaseId a).Linked := hl.apply ha
  cases a with
  | lineUp tag => exact cancelsRight_lineUp_iff hl h tag
  | didget playOne => exact cancelsRight_didget_iff hl playOne
  | updatePlayOneTableView | pullToRefresh | cancelPlay | cancelAction =>
    exact iff_of_true (h.frame hl' rfl rfl rfl) trivial
  | cellForRowAt tag => exact iff_of_true (h.of_beside hl' (s.beside_cellForRowAt tag)) trivial
  | viewForHeaderInSection tag =>
    exact iff_of_true (h.of_beside hl' (s.beside_viewForHeaderInSection tag)) trivial
  | tapAFinder whichCourt whichFinder =>
    exact iff_of_true (h.of_beside hl' (s.beside_pushToPlayOneFinderVC whichCourt whichFinder))
      trivial
  | okAction =>
    refine iff_of_true ((cancelsRight_iff hl').2 fun hbutton => ?_) trivial
    have hgone : (s.okAction firebaseId).page.rightBarButtonItem = false := by
      unfold okAction
      split <;> rfl
    exact absurd (hgone.symm.trans hbutton) Bool.false_ne_true

end PlayOneScreen

/-! ## Along a run -/

theorem linked_of_run (h : (playOneScreen firebaseId).Run (fun _ _ => True) (.start {}) evs c) :
    c.state.Linked := by
  refine h.invariant (I := fun c => c.state.Linked) ⟨iff_of_true rfl rfl, nofun, nofun⟩ ?_
  intro c e c' hl _ hstep
  obtain ⟨a, rfl, -, ha, rfl⟩ := step_playOneScreen hstep
  exact hl.apply ha

/-- No call of a run lines the user up, or delivers courts that do not list
them where the button is. -/
def KeepsCourt (firebaseId : Option String) (c : Config PlayOneScreen Empty)
    (e : Event PlayOneScreenCall Empty) : Prop :=
  ∀ a, e = .call a → c.state.KeepsCourt firebaseId a

/-- **Cancelling a line-up, over a run.** It is right in every state
exactly where no tap lined the user up, and every delivery under the
button listed them. -/
theorem cancelsRight_run_iff
    (h : (playOneScreen firebaseId).Run (fun _ _ => True) (.start {}) evs c) :
    (∀ s ∈ c.seen, s.CancelsRight firebaseId) ↔
      (playOneScreen firebaseId).Run (KeepsCourt firebaseId) (.start {}) evs c := by
  induction h with
  | nil =>
    refine iff_of_true (fun s hs => ?_) .nil
    rw [List.mem_singleton.1 hs]
    exact ⟨nofun, nofun⟩
  | @snoc evs c e c' hrun _ hstep ih =>
    have hl := linked_of_run hrun
    obtain ⟨a, rfl, htrap, ha, rfl⟩ := step_playOneScreen hstep
    rw [Config.seen, List.forall_mem_cons, ih]
    constructor
    · rintro ⟨hright, hkeeps⟩
      refine .snoc hkeeps (fun a' ha' => ?_) hstep
      obtain rfl := Event.call.inj ha'
      exact (PlayOneScreen.cancelsRight_apply_iff hl (ih.2 hkeeps c.state List.mem_cons_self)
        ha).1 hright
    · intro hkeeps
      obtain ⟨c₁, hrun₁, hok, -⟩ := hkeeps.snoc_inv
      obtain rfl := hrun.unique hrun₁
      have hright := ih.2 hrun₁ c.state List.mem_cons_self
      exact ⟨(PlayOneScreen.cancelsRight_apply_iff hl hright ha).2 (hok a rfl), hrun₁⟩

namespace Sample

/-- The court where a finder waits. -/
def courtOf (finder : User) : PlayOne := ⟨"A", [finder], 1⟩

/-- A court is delivered with the user on it, and the bar button's alert
confirmed. -/
def cancelDelivered : List (Event PlayOneScreenCall Empty) :=
  [.call (.didget [courtOf (decodeUser "u" fun _ => none)]), .call .cancelPlay, .call .okAction]

/-- The user lines up, and cancels before anything is delivered. -/
def cancelAtOnce : List (Event PlayOneScreenCall Empty) :=
  [.call (.didget [⟨"A", [], 1⟩]), .call (.viewForHeaderInSection 0), .call (.lineUp 0),
    .call .cancelPlay, .call .okAction]

end Sample

theorem cancelsRight_cancelDelivered : ∃ c,
    (playOneScreen (some "u")).Run (KeepsCourt (some "u")) (.start {}) Sample.cancelDelivered c ∧
    ∀ s ∈ c.seen, s.CancelsRight (some "u") := by
  have hkeeps : (playOneScreen (some "u")).Admits (KeepsCourt (some "u")) (.start {})
      Sample.cancelDelivered := by
    refine ⟨?_, ?_, ?_, trivial⟩ <;> intro a ha <;> obtain rfl := Event.call.inj ha
    · exact fun _ => ⟨_, List.mem_cons_self, _, List.mem_cons_self, rfl⟩
    · trivial
    · trivial
  obtain ⟨c, hrun⟩ : ∃ c, (playOneScreen (some "u")).Run (KeepsCourt (some "u")) (.start {})
      Sample.cancelDelivered c := ⟨_, .of_exec hkeeps rfl⟩
  exact ⟨c, hrun, (cancelsRight_run_iff (hrun.mono fun _ _ _ => trivial)).2 hrun⟩

/-- The alert is up over no court, and confirming it unwraps `nil`. -/
theorem cancelAtOnce_traps : ∃ c,
    (playOneScreen (some "u")).Run (fun _ _ => True) (.start {}) Sample.cancelAtOnce c ∧
      c.state.trap = some .unwrappedNil ∧ ∃ s ∈ c.seen, ¬s.CancelsRight (some "u") := by
  refine ⟨_, .of_exec ⟨trivial, trivial, trivial, trivial, trivial, trivial⟩ rfl, rfl, _,
    .tail _ (.head _), fun hright => ?_⟩
  obtain ⟨court, hcourt, -⟩ := hright.button rfl
  cases hcourt

end Volleyer
