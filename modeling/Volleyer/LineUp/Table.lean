import Volleyer.LineUp.Screen

/-!
# Lining up — the table and its data

The sections of the table are those of the last delivery. `playOneData`
is too, unless it was emptied since: then it has no section at all, and
the table still asks for its own. So an index is out of range exactly
where it is used after an event of the listener, or a pull, and before
the next delivery.
-/

namespace Volleyer

variable {firebaseId : Option String} {s s' : PlayOneScreen} {a : PlayOneScreenCall}
variable {evs : List (Event PlayOneScreenCall Empty)} {c : Config PlayOneScreen Empty}

/-- **The section a call looks up** in `playOneData`. -/
def PlayOneScreenCall.sectionIndex : PlayOneScreenCall → Option ℕ
  | .cellForRowAt tag => some tag
  | .viewForHeaderInSection tag => some tag
  | .lineUp tag => some tag
  | .tapAFinder whichCourt _ => some whichCourt
  | _ => none

/-- Whether `playOneData` has been emptied, after a call. -/
def PlayOneScreenCall.empties (emptied : Bool) : PlayOneScreenCall → Bool
  | .updatePlayOneTableView => true
  | .pullToRefresh => true
  | .didget _ => false
  | _ => emptied

/-- **Whether `playOneData` was emptied and nothing delivered since.** -/
def emptied (evs : List (Event PlayOneScreenCall Empty)) : Bool :=
  evs.foldl (fun emptied e => match e with
    | .call a => a.empties emptied
    | .answer _ _ => emptied) false

theorem emptied_append (evs : List (Event PlayOneScreenCall Empty)) (a : PlayOneScreenCall) :
    emptied (evs ++ [.call a]) = a.empties (emptied evs) := by
  unfold emptied
  rw [List.foldl_append]
  rfl

/-- An item of a cell is a finder of its court. -/
theorem PlayOneTableViewCell.exists_of_lt_numberOfItems (cell : PlayOneTableViewCell) {row : ℕ}
    (h : row < cell.numberOfItems) :
    ∃ playOne, cell.playOneData[cell.tag]? = some playOne ∧ row < playOne.finders.length := by
  unfold numberOfItems at h
  split at h
  · omega
  · cases hcourt : cell.playOneData[cell.tag]? with
    | none =>
      rw [hcourt] at h
      exact absurd h (Nat.not_lt_zero _)
    | some playOne =>
      rw [hcourt] at h
      exact ⟨playOne, rfl, h⟩

/-- **The table and its data**, as far as it was emptied. -/
structure Tabled (empty : Bool) (s : PlayOneScreen) : Prop where
  data : s.page.playOneData.length = if empty then 0 else s.numberOfSections
  cells : empty = false → ∀ cell ∈ s.cells, cell.playOneData = s.page.playOneData
  headers : ∀ header ∈ s.headers, header.tag < s.numberOfSections ∧
    (header.lineUpButtonIsHidden = false → s.page.canAddPlay = true)

namespace Tabled

variable {empty : Bool}

/-- A section of the table is looked up. -/
theorem getElem?_cases (h : Tabled empty s) {tag : ℕ} (htag : tag < s.numberOfSections) :
    empty = true ∧ s.page.playOneData[tag]? = none ∨
      empty = false ∧ ∃ playOne, s.page.playOneData[tag]? = some playOne := by
  have hdata := h.data
  cases empty with
  | true =>
    refine Or.inl ⟨rfl, List.getElem?_eq_none ?_⟩
    rw [if_pos rfl] at hdata
    omega
  | false =>
    rw [if_neg Bool.false_ne_true] at hdata
    exact Or.inr ⟨rfl, _, List.getElem?_eq_getElem (by omega)⟩

/-- What leaves the data, the cells and the headers. -/
theorem frame (h : Tabled empty s) (hdata : s'.page.playOneData = s.page.playOneData)
    (hsections : s'.numberOfSections = s.numberOfSections) (hcells : s'.cells = s.cells)
    (hheaders : s'.headers = s.headers)
    (hcan : s.page.canAddPlay = true → s'.page.canAddPlay = true) : Tabled empty s' where
  data := by
    rw [hdata, hsections]
    exact h.data
  cells hempty cell hcell := by
    rw [hcells] at hcell
    rw [hdata]
    exact h.cells hempty cell hcell
  headers header hheader := by
    rw [hheaders] at hheader
    obtain ⟨htag, hhidden⟩ := h.headers header hheader
    rw [hsections]
    exact ⟨htag, fun hnot => hcan (hhidden hnot)⟩

theorem outOfRange (h : Tabled empty s) : Tabled empty s.outOfRange :=
  h.frame rfl rfl rfl rfl id

theorem refresh (h : Tabled empty s) : Tabled true s.refresh where
  data := rfl
  cells hfalse := absurd hfalse Bool.noConfusion
  headers := h.headers

theorem didget (playOne : List PlayOne) : Tabled false (s.didget firebaseId playOne) where
  data := rfl
  cells _ _ hcell := absurd hcell List.not_mem_nil
  headers _ hheader := absurd hheader List.not_mem_nil

/-- **A cell of a section of the table.** -/
theorem cellForRowAt (h : Tabled empty s) {tag : ℕ} (htag : tag < s.numberOfSections) :
    Tabled empty (s.cellForRowAt tag) ∧
      (s.cellForRowAt tag).trap = if empty then some .indexOutOfRange else s.trap := by
  unfold PlayOneScreen.cellForRowAt
  rcases h.getElem?_cases htag with ⟨rfl, hnone⟩ | ⟨rfl, playOne, hsome⟩
  · rw [hnone]
    exact ⟨h.outOfRange, rfl⟩
  · rw [hsome]
    refine ⟨⟨h.data, fun _ cell hcell => ?_, h.headers⟩, rfl⟩
    rcases List.mem_append.1 hcell with hcell | hcell
    · exact h.cells rfl cell hcell
    · rw [List.mem_singleton.1 hcell]

/-- **A header of a section of the table.** -/
theorem viewForHeaderInSection (h : Tabled empty s) {tag : ℕ} (htag : tag < s.numberOfSections) :
    Tabled empty (s.viewForHeaderInSection tag) ∧
      (s.viewForHeaderInSection tag).trap =
        if empty then some .indexOutOfRange else s.trap := by
  unfold PlayOneScreen.viewForHeaderInSection
  rcases h.getElem?_cases htag with ⟨rfl, hnone⟩ | ⟨rfl, playOne, hsome⟩
  · rw [hnone]
    exact ⟨h.outOfRange, rfl⟩
  · rw [hsome]
    refine ⟨⟨h.data, h.cells, fun header hheader => ?_⟩, rfl⟩
    rcases List.mem_append.1 hheader with hheader | hheader
    · exact h.headers header hheader
    · rw [List.mem_singleton.1 hheader]
      exact ⟨htag, fun hshown => by simpa using hshown⟩

/-- **A tap on the button of a header.** -/
theorem lineUp (firebaseId : Option String) (h : Tabled empty s) {header : SectionHeader}
    (hheader : header ∈ s.headers) (hshown : header.lineUpButtonIsHidden = false) :
    Tabled empty (s.lineUp firebaseId header.tag) ∧
      (s.lineUp firebaseId header.tag).trap =
        if empty then some .indexOutOfRange else s.trap := by
  obtain ⟨htag, hcan⟩ := h.headers header hheader
  unfold PlayOneScreen.lineUp
  rw [if_pos (hcan hshown)]
  rcases h.getElem?_cases htag with ⟨rfl, hnone⟩ | ⟨rfl, playOne, hsome⟩
  · rw [hnone]
    exact ⟨h.frame rfl rfl rfl rfl id, rfl⟩
  · rw [hsome]
    exact ⟨h.frame rfl rfl rfl rfl id, rfl⟩

/-- **A tap on a finder in a cell**, whose row the court still has. -/
theorem pushToPlayOneFinderVC (h : Tabled empty s) {cell : PlayOneTableViewCell}
    (hcell : cell ∈ s.cells) {whichFinder : ℕ} (hrow : whichFinder < cell.numberOfItems) :
    Tabled empty (s.pushToPlayOneFinderVC cell.tag whichFinder) ∧
      (s.pushToPlayOneFinderVC cell.tag whichFinder).trap =
        if empty then some .indexOutOfRange else s.trap := by
  have hdata := h.data
  unfold PlayOneScreen.pushToPlayOneFinderVC
  cases empty with
  | true =>
    rw [List.eq_nil_of_length_eq_zero hdata]
    exact ⟨h.outOfRange, rfl⟩
  | false =>
    obtain ⟨playOne, hcourt, hlt⟩ := cell.exists_of_lt_numberOfItems hrow
    rw [h.cells rfl cell hcell] at hcourt
    rw [hcourt]
    dsimp only
    rw [List.getElem?_eq_getElem hlt]
    exact ⟨h.frame rfl rfl rfl rfl id, rfl⟩

end Tabled

/-- **What a step keeps**, and where it is out of range. -/
theorem tabled_step (firebaseId : Option String) {empty : Bool} (h : Tabled empty s)
    (htrap : s.trap = none) (ha : s.Offers a) :
    Tabled (a.empties empty) (s.apply firebaseId a) ∧
      ((s.apply firebaseId a).trap = some .indexOutOfRange ↔
        a.sectionIndex.isSome = true ∧ empty = true) := by
  -- a call that looks a section up, and one that looks none up
  have hlooks : ∀ {t : PlayOneScreen},
      t.trap = (if empty then some Trap.indexOutOfRange else s.trap) →
      (t.trap = some .indexOutOfRange ↔ true = true ∧ empty = true) := by
    intro t ht
    rw [ht, htrap, eq_self_iff_true, true_and]
    cases empty with
    | true => exact iff_of_true rfl rfl
    | false => exact iff_of_false nofun Bool.false_ne_true
  have hnot : ∀ {t : PlayOneScreen}, t.trap ≠ some .indexOutOfRange →
      (t.trap = some .indexOutOfRange ↔ false = true ∧ empty = true) := fun ht =>
    iff_of_false ht fun h => Bool.false_ne_true h.1
  have hnone : s.trap ≠ some .indexOutOfRange := by
    rw [htrap]
    nofun
  cases a with
  | updatePlayOneTableView | pullToRefresh => exact ⟨h.refresh, hnot hnone⟩
  | didget playOne => exact ⟨.didget playOne, hnot hnone⟩
  | cellForRowAt tag =>
    obtain ⟨hcell, hcellTrap⟩ := h.cellForRowAt ha
    exact ⟨hcell, hlooks hcellTrap⟩
  | viewForHeaderInSection tag =>
    obtain ⟨hheader, hheaderTrap⟩ := h.viewForHeaderInSection ha
    exact ⟨hheader, hlooks hheaderTrap⟩
  | lineUp tag =>
    obtain ⟨header, hheader, rfl, hshown⟩ := ha
    obtain ⟨hlineUp, hlineUpTrap⟩ := h.lineUp firebaseId hheader hshown
    exact ⟨hlineUp, hlooks hlineUpTrap⟩
  | tapAFinder whichCourt whichFinder =>
    obtain ⟨cell, hcell, rfl, hrow⟩ := ha
    obtain ⟨hpush, hpushTrap⟩ := h.pushToPlayOneFinderVC hcell hrow
    exact ⟨hpush, hlooks hpushTrap⟩
  | cancelPlay | cancelAction => exact ⟨h.frame rfl rfl rfl rfl id, hnot hnone⟩
  | okAction =>
    unfold PlayOneScreen.apply PlayOneScreen.okAction
    cases s.page.courtIAdded with
    | none => exact ⟨h.frame rfl rfl rfl rfl fun _ => rfl, hnot nofun⟩
    | some court => exact ⟨h.frame rfl rfl rfl rfl fun _ => rfl, hnot hnone⟩

/-- **A section that is looked up** is there where the data was not
emptied. -/
theorem lt_length_iff {empty : Bool} (h : Tabled empty s) (ha : s.Offers a) {tag : ℕ}
    (htag : a.sectionIndex = some tag) : tag < s.page.playOneData.length ↔ empty = false := by
  have hdata := h.data
  cases empty with
  | true =>
    rw [if_pos rfl] at hdata
    exact iff_of_false (by omega) Bool.noConfusion
  | false =>
    rw [if_neg Bool.false_ne_true] at hdata
    refine iff_of_true ?_ rfl
    cases a with
    | cellForRowAt tag' | viewForHeaderInSection tag' =>
      obtain rfl := Option.some.inj htag
      rw [hdata]
      exact ha
    | lineUp tag' =>
      obtain rfl := Option.some.inj htag
      obtain ⟨header, hheader, rfl, -⟩ := ha
      rw [hdata]
      exact (h.headers header hheader).1
    | tapAFinder whichCourt whichFinder =>
      obtain rfl := Option.some.inj htag
      obtain ⟨cell, hcell, rfl, hrow⟩ := ha
      obtain ⟨playOne, hcourt, -⟩ := cell.exists_of_lt_numberOfItems hrow
      rw [h.cells rfl cell hcell] at hcourt
      exact (List.getElem?_eq_some_iff.1 hcourt).1
    | _ => cases htag

/-! ## Along a run -/

theorem tabled_of_run (h : (playOneScreen firebaseId).Run (fun _ _ => True) (.start {}) evs c) :
    Tabled (emptied evs) c.state := by
  induction h with
  | nil => exact ⟨rfl, fun _ _ hcell => absurd hcell List.not_mem_nil,
      fun _ hheader => absurd hheader List.not_mem_nil⟩
  | snoc _ _ hstep ih =>
    obtain ⟨a, rfl, htrap, ha, rfl⟩ := step_playOneScreen hstep
    rw [emptied_append]
    exact (tabled_step _ ih htrap ha).1

/-- **The screen runs out of range** exactly where a section is looked up
after an event of the listener, or a pull, and before the next delivery. -/
theorem never_outOfRange_iff
    (h : (playOneScreen firebaseId).Run (fun _ _ => True) (.start {}) evs c) :
    (∀ s ∈ c.seen, s.trap ≠ some .indexOutOfRange) ↔
      ∀ evs₁ a, evs₁ ++ [.call a] <+: evs → a.sectionIndex.isSome = true →
        emptied evs₁ = false := by
  induction h with
  | nil =>
    refine iff_of_true (fun s hs => ?_) fun evs₁ a hbegins => ?_
    · rw [List.mem_singleton.1 hs]
      nofun
    · exact absurd (List.prefix_nil.1 hbegins) (by simp)
  | @snoc evs c e c' hrun _ hstep ih =>
    obtain ⟨a, rfl, htrap, ha, rfl⟩ := step_playOneScreen hstep
    obtain ⟨-, hout⟩ := tabled_step firebaseId (tabled_of_run hrun) htrap ha
    rw [Config.seen, List.forall_mem_cons, ih]
    constructor
    · rintro ⟨hlast, hbefore⟩ evs₁ a' hbegins hindexes
      rcases List.prefix_concat_iff.1 hbegins with heq | hbegins
      · obtain ⟨rfl, ha'⟩ := List.append_singleton_inj.1 heq
        obtain rfl := Event.call.inj ha'
        exact Bool.eq_false_iff.2 fun hemptied => hlast (hout.2 ⟨hindexes, hemptied⟩)
      · exact hbefore evs₁ a' hbegins hindexes
    · intro hall
      refine ⟨fun hlast => ?_, fun evs₁ a' hbegins => hall evs₁ a' (hbegins.trans
        (List.prefix_append _ _))⟩
      obtain ⟨hindexes, hemptied⟩ := hout.1 hlast
      rw [hall evs a (List.prefix_refl _) hindexes] at hemptied
      exact Bool.false_ne_true hemptied

/-- **The table and its data, over a run.** Every section that is looked
up is one of `playOneData` exactly where none is looked up after an event
of the listener, or a pull, and before the next delivery. -/
theorem sections_inRange_iff
    (h : (playOneScreen firebaseId).Run (fun _ _ => True) (.start {}) evs c) :
    (∀ evs₁ a c₁ tag, evs₁ ++ [.call a] <+: evs →
      (playOneScreen firebaseId).Run (fun _ _ => True) (.start {}) evs₁ c₁ →
      a.sectionIndex = some tag → tag < c₁.state.page.playOneData.length) ↔
    ∀ evs₁ a, evs₁ ++ [.call a] <+: evs → a.sectionIndex.isSome = true → emptied evs₁ = false := by
  -- a call of the run is made on the screen its events before it lead to
  have hcalled : ∀ {evs₁ a}, evs₁ ++ [.call a] <+: evs → ∃ c₁,
      (playOneScreen firebaseId).Run (fun _ _ => True) (.start {}) evs₁ c₁ ∧
        c₁.state.Offers a := by
    rintro evs₁ a ⟨evs₂, rfl⟩
    obtain ⟨c₂, hrun₂, -⟩ := h.split
    obtain ⟨c₁, hrun₁, -, hstep⟩ := hrun₂.snoc_inv
    obtain ⟨a', ha', -, hoffers, -⟩ := step_playOneScreen hstep
    obtain rfl := Event.call.inj ha'
    exact ⟨c₁, hrun₁, hoffers⟩
  constructor
  · intro hall evs₁ a hbegins hindexes
    obtain ⟨tag, htag⟩ := Option.isSome_iff_exists.1 hindexes
    obtain ⟨c₁, hrun₁, ha⟩ := hcalled hbegins
    exact (lt_length_iff (tabled_of_run hrun₁) ha htag).1 (hall evs₁ a c₁ tag hbegins hrun₁ htag)
  · intro hall evs₁ a c₁ tag hbegins hrun₁ htag
    obtain ⟨c₂, hrun₂, ha⟩ := hcalled hbegins
    obtain rfl := hrun₁.unique hrun₂
    have hindexes : a.sectionIndex.isSome = true := by
      rw [htag]
      rfl
    exact (lt_length_iff (tabled_of_run hrun₁) ha htag).2 (hall evs₁ a hbegins hindexes)

namespace Sample

/-- One court is delivered, shown, and lined up at. -/
def lineUpAtOne : List (Event PlayOneScreenCall Empty) :=
  [.call .updatePlayOneTableView, .call (.didget [⟨"A", [], 1⟩]), .call (.cellForRowAt 0),
    .call (.viewForHeaderInSection 0), .call (.lineUp 0)]

/-- One court is delivered, and its cell asked for after a pull. -/
def scrollWhilePulling : List (Event PlayOneScreenCall Empty) :=
  [.call .updatePlayOneTableView, .call (.didget [⟨"A", [], 1⟩]), .call .pullToRefresh,
    .call (.cellForRowAt 0)]

end Sample

/-- Between two events of the listener all of it is in range. -/
theorem sections_inRange_lineUpAtOne : ∃ c,
    (playOneScreen (some "u")).Run (fun _ _ => True) (.start {}) Sample.lineUpAtOne c ∧
    ∀ evs₁ a c₁ tag, evs₁ ++ [.call a] <+: Sample.lineUpAtOne →
      (playOneScreen (some "u")).Run (fun _ _ => True) (.start {}) evs₁ c₁ →
      a.sectionIndex = some tag → tag < c₁.state.page.playOneData.length := by
  have hrun : (playOneScreen (some "u")).Run (fun _ _ => True) (.start {}) Sample.lineUpAtOne _ :=
    .of_exec ⟨trivial, trivial, trivial, trivial, trivial, trivial⟩ rfl
  have hnever := (never_outOfRange_iff hrun).1 (by decide)
  exact ⟨_, hrun, (sections_inRange_iff hrun).2 hnever⟩

/-- The cell's section is gone, and the screen traps. -/
theorem section_outOfRange_scrollWhilePulling :
    (∃ c, (playOneScreen (some "u")).Run (fun _ _ => True) (.start {}) Sample.scrollWhilePulling c ∧
      c.state.trap = some .indexOutOfRange) ∧
    ∃ c, (playOneScreen (some "u")).Run (fun _ _ => True) (.start {})
        (Sample.scrollWhilePulling.take 3) c ∧
      (PlayOneScreenCall.cellForRowAt 0).sectionIndex = some 0 ∧
      ¬0 < c.state.page.playOneData.length := by
  exact ⟨⟨_, .of_exec ⟨trivial, trivial, trivial, trivial, trivial⟩ rfl, rfl⟩,
    _, .of_exec ⟨trivial, trivial, trivial, trivial⟩ rfl, rfl, Nat.lt_irrefl 0⟩

end Volleyer
