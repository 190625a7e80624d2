import Mathlib.Logic.Function.Basic
import Volleyer.Session.EstablishFinder

/-!
# The play form on the screen

`EstablishFinderViewController` with what it shows: the five rows of
checkboxes, the pickers behind the text fields, and the handlers that keep
them in step with the play. A checkbox that is tapped is the one of its row
that is selected, and its tag is the level; a date picker's Done writes a
date and its text at once. So what is shown is what the play has, and what
is saved is what is shown (`saves_shown`).
-/

namespace Volleyer

/-- A checkbox. -/
structure UIButton where
  tag : ℤ
  isSelected : Bool
deriving DecidableEq

/-- **The screen of a play form**: the texts and the play, and the widgets. -/
structure EstablishFinderViewController where
  form : EstablishFinder
  checkboxes : Level → List UIButton
  startDatePicker : Date
  endDatePicker : Date
  /-- whether a text field is edited -/
  isEditing : Bool := false
  /-- the text of the last `LKProgressHUD.showFailure` -/
  failure : Option String := none

/-- What `addData` asks `FinderDataManager` for. -/
inductive PlaySave
  | savePlay (thisPlay : Play)
  | updatePlay (thisPlay : Play)

/-- The play that is passed. -/
def PlaySave.play : PlaySave → Play
  | .savePlay thisPlay => thisPlay
  | .updatePlay thisPlay => thisPlay

/-- The taps, the wheels of the pickers and the edits of the text fields. The
times and the type are edited by their pickers alone. -/
inductive EstablishEvent
  | checkboxTapped (level : Level) (checkbox : ℕ)
  | beginEditing
  | startDatePicker (date : Date)
  | endDatePicker (date : Date)
  | didSelectRow (row : ℕ)
  | place (text : String)
  | price (text : String)
  | male (text : String)
  | female (text : String)
  | doneStartDatePicker
  | doneEndDatePicker
  | donePlace
  | donePrice
  | doneMaleLack
  | doneFemaleLack
  | cancelToolbar
  | addData (isPublishButton : Bool)

namespace EstablishFinderViewController

/-- `createCheckboxes`: the fifth one is selected. -/
def createCheckboxes : List UIButton :=
  (List.range 5).map fun i => { tag := i, isSelected := i == 4 }

/-- `checkbox.isSelected = (checkbox == sender)` -/
def select (checkboxes : List UIButton) (sender : ℤ) : List UIButton :=
  checkboxes.mapIdx fun i checkbox => { checkbox with isSelected := (i : ℤ) == sender }

/-- **A tap on a checkbox**, or `none` where there is no such one. -/
def checkboxTapped (vc : EstablishFinderViewController) (level : Level) (checkbox : ℤ) :
    Option EstablishFinderViewController :=
  (subscript (vc.checkboxes level) checkbox).map fun sender =>
    { vc with
      form.thisPlay.levelRange := vc.form.thisPlay.levelRange.set level sender.tag
      checkboxes := Function.update vc.checkboxes level (select (vc.checkboxes level) checkbox) }

def setCheckboxTapped (vc : EstablishFinderViewController) := vc.checkboxTapped .setBall

def blockCheckboxTapped (vc : EstablishFinderViewController) := vc.checkboxTapped .block

def digCheckboxTapped (vc : EstablishFinderViewController) := vc.checkboxTapped .dig

def spickCheckboxTapped (vc : EstablishFinderViewController) := vc.checkboxTapped .spike

def sumCheckboxTapped (vc : EstablishFinderViewController) := vc.checkboxTapped .sum

/-- The texts of a play that is edited, and its times in the pickers. -/
def showPlay (texts : Texts) (type : String) (vc : EstablishFinderViewController) :
    EstablishFinderViewController :=
  { vc with
    form := { vc.form with
      startTimeTextField := texts.string vc.form.thisPlay.startTime
      endTimeTextField := texts.string vc.form.thisPlay.endTime
      placeTextField := vc.form.thisPlay.place
      priceTextField := toString vc.form.thisPlay.price
      typeTextField := type
      maleTextField := toString vc.form.thisPlay.lackAmount.male
      femaleTextField := toString vc.form.thisPlay.lackAmount.female }
    startDatePicker := vc.form.thisPlay.startTime
    endDatePicker := vc.form.thisPlay.endTime }

/-- **`ifEditMode`**, or `none` where a subscript traps. -/
def ifEditMode (texts : Texts) (vc : EstablishFinderViewController) :
    Option EstablishFinderViewController :=
  if vc.form.thisPlay.id = "" then some vc
  else do
    let type ← subscript playTypes vc.form.thisPlay.type
    let vc := vc.showPlay texts type
    let vc ← vc.setCheckboxTapped vc.form.thisPlay.levelRange.setBall
    let vc ← vc.blockCheckboxTapped vc.form.thisPlay.levelRange.block
    let vc ← vc.digCheckboxTapped vc.form.thisPlay.levelRange.dig
    let vc ← vc.spickCheckboxTapped vc.form.thisPlay.levelRange.spike
    vc.sumCheckboxTapped vc.form.thisPlay.levelRange.sum

/-- A screen of a play before it is shown: the pickers start at the current
date. -/
def createViews (thisPlay : Play) (now : Date) : EstablishFinderViewController where
  form := { thisPlay := thisPlay }
  checkboxes _ := createCheckboxes
  startDatePicker := now
  endDatePicker := now

def viewDidLoad (texts : Texts) (thisPlay : Play) (now : Date) :
    Option EstablishFinderViewController :=
  (createViews thisPlay now).ifEditMode texts

/-- `LKProgressHUD.showFailure` -/
def showFailure (vc : EstablishFinderViewController) (text : String) :
    EstablishFinderViewController :=
  { vc with failure := some text }

/-- `view.endEditing(true)` -/
def endEditing (vc : EstablishFinderViewController) : EstablishFinderViewController :=
  { vc with isEditing := false }

def doneStartDatePicker (texts : Texts) (vc : EstablishFinderViewController) :
    EstablishFinderViewController :=
  endEditing
    { vc with
      form.startTimeTextField := texts.string vc.startDatePicker
      form.thisPlay.startTime := vc.startDatePicker
      endDatePicker :=
        if vc.form.endTimeTextField = "" then vc.startDatePicker else vc.endDatePicker }

def doneEndDatePicker (texts : Texts) (vc : EstablishFinderViewController) :
    EstablishFinderViewController :=
  endEditing
    { vc with
      form.endTimeTextField := texts.string vc.endDatePicker
      form.thisPlay.endTime := vc.endDatePicker }

def donePlace (texts : Texts) (vc : EstablishFinderViewController) :
    EstablishFinderViewController :=
  if texts.count vc.form.placeTextField > 15 then vc.showFailure "字數勿超過 15 字"
  else vc.endEditing

/-- Done on a number: it is out of bounds, or no number at all. -/
def doneNumber (text failure : String) (bound : ℤ) (vc : EstablishFinderViewController) :
    EstablishFinderViewController :=
  let number := (parseInt text).getD (-1)
  if number > bound ∨ number < 0 then vc.showFailure failure else vc.endEditing

def donePrice (vc : EstablishFinderViewController) : EstablishFinderViewController :=
  vc.doneNumber vc.form.priceTextField "請輸入合理價格" 100000

def doneMaleLack (vc : EstablishFinderViewController) : EstablishFinderViewController :=
  vc.doneNumber vc.form.maleTextField "請輸入合理人數" 99

def doneFemaleLack (vc : EstablishFinderViewController) : EstablishFinderViewController :=
  vc.doneNumber vc.form.femaleTextField "請輸入合理人數" 99

def cancelToolbar (vc : EstablishFinderViewController) : EstablishFinderViewController :=
  vc.endEditing

/-- **`addData`**, and what it asks for. -/
def addData (texts : Texts) (vc : EstablishFinderViewController) (isPublishButton : Bool) :
    EstablishFinderViewController × Option PlaySave :=
  let vc := { vc with form := vc.form.publish isPublishButton }
  if vc.form.Filled then
    if vc.form.thisPlay.startTime.after vc.form.thisPlay.endTime then
      (vc.showFailure "結束時間早於開始時間", none)
    else if vc.form.Unreasonable texts then (vc.showFailure "請符合字數限制", none)
    else
      let vc := { vc with form := vc.form.read }
      (vc, some (if vc.form.thisPlay.id = "" then .savePlay vc.form.thisPlay
        else .updatePlay vc.form.thisPlay))
  else (vc.showFailure "請填寫完整資訊", none)

/-- **What an event does**, and what it asks for. -/
def issue (texts : Texts) (vc : EstablishFinderViewController) :
    EstablishEvent → Option (EstablishFinderViewController × List PlaySave)
  | .checkboxTapped level checkbox => (vc.checkboxTapped level checkbox).map fun vc => (vc, [])
  | .beginEditing => some ({ vc with isEditing := true }, [])
  | .startDatePicker date => some ({ vc with startDatePicker := date }, [])
  | .endDatePicker date => some ({ vc with endDatePicker := date }, [])
  | .didSelectRow row => (subscript playTypes row).map fun text =>
      ({ vc with form.typeTextField := text }, [])
  | .place text => some ({ vc with form.placeTextField := text }, [])
  | .price text => some ({ vc with form.priceTextField := text }, [])
  | .male text => some ({ vc with form.maleTextField := text }, [])
  | .female text => some ({ vc with form.femaleTextField := text }, [])
  | .doneStartDatePicker => some (vc.doneStartDatePicker texts, [])
  | .doneEndDatePicker => some (vc.doneEndDatePicker texts, [])
  | .donePlace => some (vc.donePlace texts, [])
  | .donePrice => some (vc.donePrice, [])
  | .doneMaleLack => some (vc.doneMaleLack, [])
  | .doneFemaleLack => some (vc.doneFemaleLack, [])
  | .cancelToolbar => some (vc.cancelToolbar, [])
  | .addData isPublishButton =>
      some ((vc.addData texts isPublishButton).1, (vc.addData texts isPublishButton).2.toList)

end EstablishFinderViewController

/-- **The machine of the form**: what it asks for is nobody's answer to it. -/
def establishForm (texts : Texts) :
    Machine EstablishFinderViewController EstablishEvent PlaySave Reply where
  issue := EstablishFinderViewController.issue texts
  answer vc _ _ := (vc, [])

/-! ## What the texts say of the play -/

/-- An event of the type's picker or of another widget: nobody types a type. -/
def PlayInput.Picked (e : PlayInput) : Prop := ∀ text, e ≠ .type text

namespace EstablishFinder

/-- **The texts are in step with the play**, whose levels the checkboxes
have. -/
structure InStep (texts : Texts) (form : EstablishFinder) : Prop where
  levels : form.thisPlay.levelRange.Within 4
  startTime : form.startTimeTextField = "" ∨
    form.startTimeTextField = texts.string form.thisPlay.startTime
  endTime : form.endTimeTextField = "" ∨
    form.endTimeTextField = texts.string form.thisPlay.endTime
  type : form.typeTextField = "" ∨ form.typeTextField ∈ playTypes

/-- **A valid play.** -/
structure Valid (texts : Texts) (play : Play) : Prop where
  inOrder : ¬play.startTime.after play.endTime
  place : 1 ≤ texts.count play.place ∧ texts.count play.place ≤ 15
  price : 0 ≤ play.price ∧ play.price ≤ 100000
  male : 0 ≤ play.lackAmount.male ∧ play.lackAmount.male ≤ 99
  female : 0 ≤ play.lackAmount.female ∧ play.lackAmount.female ≤ 99
  inRange : InRange play

/-- **The texts show a play.** -/
structure Shows (texts : Texts) (form : EstablishFinder) (play : Play) : Prop where
  startTime : form.startTimeTextField = texts.string play.startTime
  endTime : form.endTimeTextField = texts.string play.endTime
  place : form.placeTextField = play.place
  price : parseInt form.priceTextField = some play.price
  male : parseInt form.maleTextField = some play.lackAmount.male
  female : parseInt form.femaleTextField = some play.lackAmount.female
  type : subscript playTypes play.type = some form.typeTextField

variable {texts : Texts} {form form' : EstablishFinder} {isPublishButton : Bool}

/-- **An event keeps them in step.** -/
theorem InStep.input {e : PlayInput} (hform : form.InStep texts) (he : e.Picked)
    (h : form.input texts e = some form') : form'.InStep texts := by
  cases e with
  | level level checkbox =>
    obtain ⟨tag, htag, rfl⟩ := Option.map_eq_some_iff.1 h
    obtain ⟨-, h0, h5⟩ := tag_range htag
    exact ⟨hform.levels.set level h0 (by omega), hform.startTime, hform.endTime, hform.type⟩
  | typeRow row =>
    obtain ⟨text, htext, rfl⟩ := Option.map_eq_some_iff.1 h
    refine ⟨hform.levels, hform.startTime, hform.endTime, Or.inr ?_⟩
    exact List.mem_of_getElem? (Option.ite_none_right_eq_some.1 htext).2
  | type text => exact absurd rfl (he text)
  | startDate date =>
    obtain rfl := Option.some.inj h
    exact ⟨hform.levels, Or.inr rfl, hform.endTime, hform.type⟩
  | endDate date =>
    obtain rfl := Option.some.inj h
    exact ⟨hform.levels, hform.startTime, Or.inr rfl, hform.type⟩
  | place | price | male | female =>
    obtain rfl := Option.some.inj h
    exact ⟨hform.levels, hform.startTime, hform.endTime, hform.type⟩

/-- Saving or not, `addData` leaves the times and their texts, the levels and
the text of the type. -/
theorem InStep.addData (hform : form.InStep texts) (isPublishButton : Bool) :
    (form.addData texts isPublishButton).1.InStep texts := by
  have hpublish : (form.publish isPublishButton).InStep texts := by
    rw [publish_eq]
    exact ⟨hform.levels, hform.startTime, hform.endTime, hform.type⟩
  rcases addData_fst texts form isPublishButton with hleft | hread
  · rw [hleft]
    exact hpublish
  · rw [hread]
    exact ⟨hpublish.levels, hpublish.startTime, hpublish.endTime, hpublish.type⟩

theorem levelRange_addData (texts : Texts) (form : EstablishFinder) (isPublishButton : Bool) :
    (form.addData texts isPublishButton).1.thisPlay.levelRange = form.thisPlay.levelRange := by
  have hpublish : (form.publish isPublishButton).thisPlay.levelRange =
      form.thisPlay.levelRange := by rw [publish_eq]
  rcases addData_fst texts form isPublishButton with hleft | hread
  · rw [hleft, hpublish]
  · rw [hread]
    exact hpublish

/-- **A form opens in step**, blank or with a play in range. -/
theorem inStep_ifEditMode {play : Play} (hplay : InRange play)
    (h : ifEditMode texts { thisPlay := play } = some form') : form'.InStep texts := by
  have hlevels : form'.thisPlay.levelRange.Within 4 := by
    rw [ifEditMode_eq h]
    exact hplay.2
  unfold ifEditMode at h
  split at h
  · obtain rfl := Option.some.inj h
    exact ⟨hlevels, Or.inl rfl, Or.inl rfl, Or.inl rfl⟩
  · simp only [Option.bind_eq_bind, Option.bind_eq_some_iff, Option.pure_def,
      Option.some.injEq] at h
    obtain ⟨type, htype, t₁, h₁, t₂, h₂, t₃, h₃, t₄, h₄, t₅, h₅, rfl⟩ := h
    refine ⟨hlevels, Or.inr rfl, Or.inr rfl, Or.inr ?_⟩
    exact List.mem_of_getElem? (Option.ite_none_right_eq_some.1 htype).2

/-- A number within a bound that the fallback exceeds was parsed. -/
theorem parseInt_eq_some {text : String} {fallback bound : ℤ} (hfallback : bound < fallback)
    (h : (parseInt text).getD fallback ≤ bound) :
    parseInt text = some ((parseInt text).getD fallback) := by
  cases hparse : parseInt text with
  | some n => rfl
  | none =>
    rw [hparse, Option.getD_none] at h
    omega

theorem not_unreasonable_iff : ¬form.Unreasonable texts ↔
    texts.count form.placeTextField ≤ 15 ∧ (0 ≤ form.priceInput ∧ form.priceInput ≤ 100000) ∧
      (0 ≤ form.maleInput ∧ form.maleInput ≤ 99) ∧
      (0 ≤ form.femaleInput ∧ form.femaleInput ≤ 99) := by
  unfold Unreasonable
  omega

/-- **A play that `addData` saves is valid.** -/
theorem valid_of_addData (hcount : ∀ text, texts.count text = 0 → text = "")
    (hform : form.InStep texts) (h : form.addData texts isPublishButton = (form', true)) :
    Valid texts form'.thisPlay := by
  obtain ⟨hfilled, horder, hreasonable, rfl⟩ := addData_eq_true h
  obtain ⟨hplace, hprice, hmale, hfemale⟩ := not_unreasonable_iff.1 hreasonable
  have hsome : texts.count form.placeTextField ≠ 0 := fun h => hfilled.2.2.1 (hcount _ h)
  have htype := firstIndexOrZero_range form.typeTextField (show playTypes ≠ [] by decide)
  have hlength : playTypes.length = 4 := rfl
  rw [publish_eq]
  refine ⟨horder, ⟨?_, hplace⟩, hprice, hmale, hfemale, ?_, hform.levels⟩
  · show 1 ≤ texts.count form.placeTextField
    omega
  · show 0 ≤ firstIndexOrZero playTypes form.typeTextField ∧
      firstIndexOrZero playTypes form.typeTextField ≤ 3
    omega

/-- **And the texts show it.** -/
theorem shows_of_addData (hform : form.InStep texts)
    (h : form.addData texts isPublishButton = (form', true)) : form.Shows texts form'.thisPlay := by
  obtain ⟨hfilled, -, hreasonable, rfl⟩ := addData_eq_true h
  obtain ⟨hstart, hend, -, -, htype, -⟩ := hfilled
  obtain ⟨-, ⟨-, hprice⟩, ⟨-, hmale⟩, -, hfemale⟩ := not_unreasonable_iff.1 hreasonable
  rw [publish_eq]
  exact
    { startTime := hform.startTime.resolve_left hstart
      endTime := hform.endTime.resolve_left hend
      place := rfl
      price := parseInt_eq_some (by decide) hprice
      male := parseInt_eq_some (by decide) hmale
      female := parseInt_eq_some (by decide) hfemale
      type := subscript_firstIndexOrZero (hform.type.resolve_left htype) }

end EstablishFinder

/-! ## Rows of checkboxes -/

namespace EstablishFinderViewController

/-- A row with one checkbox selected. -/
def rowAt (n : ℤ) : List UIButton :=
  (Volleyer.createCheckboxes 5).map fun tag => { tag := tag, isSelected := tag == n }

theorem createCheckboxes_eq : createCheckboxes = rowAt 4 := rfl

/-- Whatever was selected, the one that is tapped is. -/
theorem select_rowAt (n checkbox : ℤ) : select (rowAt n) checkbox = rowAt checkbox := rfl

/-- A checkbox is found by its tag. -/
theorem subscript_rowAt {n checkbox : ℤ} {sender : UIButton}
    (h : subscript (rowAt n) checkbox = some sender) :
    sender.tag = checkbox ∧ 0 ≤ checkbox ∧ checkbox ≤ 4 := by
  rw [rowAt, subscript_map, Option.map_eq_some_iff] at h
  obtain ⟨tag, htag, rfl⟩ := h
  obtain ⟨rfl, h0, h5⟩ := tag_range htag
  exact ⟨rfl, h0, by omega⟩

/-- **Exactly one checkbox of a row is selected.** -/
theorem filter_rowAt {n : ℤ} (h : 0 ≤ n ∧ n ≤ 4) :
    (rowAt n).filter UIButton.isSelected = [{ tag := n, isSelected := true }] := by
  have hn : n = 0 ∨ n = 1 ∨ n = 2 ∨ n = 3 ∨ n = 4 := by omega
  rcases hn with rfl | rfl | rfl | rfl | rfl <;> rfl

/-- **The rows show the levels.** -/
def Ticked (vc : EstablishFinderViewController) : Prop :=
  ∀ level, vc.checkboxes level = rowAt (vc.form.thisPlay.levelRange.row level)

variable {texts : Texts} {vc vc' : EstablishFinderViewController} {e : EstablishEvent}
variable {isPublishButton : Bool} {ts : List PlaySave}

/-- **A tap on a checkbox** of a row moves the row and the level together. -/
theorem checkboxTapped_eq {level : Level} {n checkbox : ℤ} (hrow : vc.checkboxes level = rowAt n)
    (h : vc.checkboxTapped level checkbox = some vc') :
    vc'.form =
        { vc.form with
          thisPlay.levelRange := vc.form.thisPlay.levelRange.set level checkbox } ∧
      vc'.checkboxes = Function.update vc.checkboxes level (rowAt checkbox) ∧
      0 ≤ checkbox ∧ checkbox ≤ 4 := by
  obtain ⟨sender, hsender, rfl⟩ := Option.map_eq_some_iff.1 h
  rw [hrow] at hsender
  obtain ⟨htag, hrange⟩ := subscript_rowAt hsender
  refine ⟨by rw [htag], ?_, hrange⟩
  rw [hrow, select_rowAt]

/-- Rows that show the levels do so after a tap. -/
theorem Ticked.tapped {level : Level} {checkbox : ℤ} (hvc : vc.Ticked)
    (h : vc.checkboxTapped level checkbox = some vc') : vc'.Ticked := by
  obtain ⟨hform, hrows, -⟩ := checkboxTapped_eq (hvc level) h
  intro level'
  rw [hrows, hform, LevelRange.row_set]
  by_cases hlevel : level' = level
  · subst hlevel
    rw [Function.update_self, if_pos rfl]
  · rw [Function.update_of_ne hlevel, if_neg hlevel, hvc level']

/-- Every row has one checkbox selected, those of some levels at them. -/
def TickedOn (levels : List Level) (vc : EstablishFinderViewController) : Prop :=
  ∀ level, ∃ n, vc.checkboxes level = rowAt n ∧
    (level ∈ levels → n = vc.form.thisPlay.levelRange.row level)

/-- **A tap on the checkbox of a level** in range ticks it there, and changes
nothing else. -/
theorem TickedOn.tapped {levels : List Level} (hvc : vc.TickedOn levels)
    (hlevels : vc.form.thisPlay.levelRange.Within 4) (level : Level) : ∃ vc',
    vc.checkboxTapped level (vc.form.thisPlay.levelRange.row level) = some vc' ∧
      vc'.form = vc.form ∧ vc'.TickedOn (level :: levels) := by
  obtain ⟨n, hrow, -⟩ := hvc level
  have hrange := hlevels level
  have htap : ∃ vc',
      vc.checkboxTapped level (vc.form.thisPlay.levelRange.row level) = some vc' := by
    rw [checkboxTapped, hrow, rowAt, subscript_map, subscript_createCheckboxes (by omega)]
    exact ⟨_, rfl⟩
  obtain ⟨vc', htap⟩ := htap
  obtain ⟨hform, hrows, -⟩ := checkboxTapped_eq hrow htap
  rw [LevelRange.set_row] at hform
  refine ⟨vc', htap, hform, fun level' => ?_⟩
  rw [hrows, hform]
  by_cases hlevel : level' = level
  · subst hlevel
    exact ⟨_, Function.update_self .., fun _ => rfl⟩
  · obtain ⟨m, hrow', hm⟩ := hvc level'
    refine ⟨m, (Function.update_of_ne hlevel ..).trans hrow', fun hmem => hm ?_⟩
    exact (List.mem_cons.1 hmem).resolve_left hlevel

/-- **The screen opens where the form does**, its rows at the levels. -/
theorem exists_ifEditMode {form' : EstablishFinder} (hrows : vc.TickedOn [])
    (hblank : vc.form.thisPlay.id = "" → vc.Ticked)
    (h : vc.form.ifEditMode texts = some form') :
    ∃ vc', vc.ifEditMode texts = some vc' ∧ vc'.form = form' ∧ vc'.Ticked := by
  unfold EstablishFinder.ifEditMode at h
  by_cases hid : vc.form.thisPlay.id = ""
  · rw [if_pos hid] at h
    exact ⟨vc, if_pos hid, Option.some.inj h, hblank hid⟩
  · rw [if_neg hid] at h
    simp only [Option.bind_eq_bind, Option.bind_eq_some_iff, Option.pure_def,
      Option.some.injEq] at h
    obtain ⟨type, htype, t₁, h₁, t₂, h₂, t₃, h₃, t₄, h₄, t₅, h₅, rfl⟩ := h
    obtain ⟨rfl, hset⟩ := tag_range h₁
    obtain ⟨rfl, hblock⟩ := tag_range h₂
    obtain ⟨rfl, hdig⟩ := tag_range h₃
    obtain ⟨rfl, hspike⟩ := tag_range h₄
    obtain ⟨rfl, hsum⟩ := tag_range h₅
    have hlevels : vc.form.thisPlay.levelRange.Within 4 :=
      LevelRange.within_iff.2 ⟨by omega, by omega, by omega, by omega, by omega⟩
    -- the five taps, one after the other
    have hshown : (vc.showPlay texts type).TickedOn [] := hrows
    obtain ⟨vc₁, htap₁, hform₁, hticked⟩ := hshown.tapped hlevels .setBall
    obtain ⟨vc₂, htap₂, hform₂, hticked⟩ := hticked.tapped (by rwa [hform₁]) .block
    rw [hform₁] at hform₂
    obtain ⟨vc₃, htap₃, hform₃, hticked⟩ := hticked.tapped (by rwa [hform₂]) .dig
    rw [hform₂] at hform₃
    obtain ⟨vc₄, htap₄, hform₄, hticked⟩ := hticked.tapped (by rwa [hform₃]) .spike
    rw [hform₃] at hform₄
    obtain ⟨vc₅, htap₅, hform₅, hticked⟩ := hticked.tapped (by rwa [hform₄]) .sum
    rw [hform₄] at hform₅
    refine ⟨vc₅, ?_, hform₅, fun level => ?_⟩
    · rw [ifEditMode, if_neg hid]
      simp only [Option.bind_eq_bind, Option.bind_eq_some_iff]
      exact ⟨type, htype, vc₁, htap₁, vc₂, htap₂, vc₃, htap₃, vc₄, htap₄, htap₅⟩
    · obtain ⟨n, hrow, hn⟩ := hticked level
      rw [hrow, hn (by cases level <;> decide)]

/-! ## What an event of the screen does to the form -/

/-- A failed Done or one that ends the editing leaves the form and its rows. -/
theorem doneNumber_eq (vc : EstablishFinderViewController) (text failure : String) (bound : ℤ) :
    (vc.doneNumber text failure bound).form = vc.form ∧
      (vc.doneNumber text failure bound).checkboxes = vc.checkboxes := by
  simp only [doneNumber]
  split <;> exact ⟨rfl, rfl⟩

theorem donePlace_eq (vc : EstablishFinderViewController) (texts : Texts) :
    (vc.donePlace texts).form = vc.form ∧ (vc.donePlace texts).checkboxes = vc.checkboxes := by
  unfold donePlace
  split <;> exact ⟨rfl, rfl⟩

/-- **The form is left by `addData`** as the form alone leaves it, and its
play is passed on where it goes on to save. -/
theorem addData_eq (vc : EstablishFinderViewController) (texts : Texts) (isPublishButton : Bool) :
    (vc.addData texts isPublishButton).1.form = (vc.form.addData texts isPublishButton).1 ∧
      (vc.addData texts isPublishButton).1.checkboxes = vc.checkboxes ∧
      (vc.addData texts isPublishButton).2.map PlaySave.play =
        if (vc.form.addData texts isPublishButton).2 then
          some (vc.form.addData texts isPublishButton).1.thisPlay
        else none := by
  simp only [addData, EstablishFinder.addData]
  split
  · split
    · exact ⟨rfl, rfl, rfl⟩
    · split
      · exact ⟨rfl, rfl, rfl⟩
      · refine ⟨rfl, rfl, ?_⟩
        rw [Option.map_some]
        split <;> rfl
  · exact ⟨rfl, rfl, rfl⟩

/-- What the screen saves the form saves. -/
theorem addData_eq_some {save : PlaySave}
    (h : vc.addData texts isPublishButton = (vc', some save)) :
    vc.form.addData texts isPublishButton = (vc'.form, true) ∧ save.play = vc'.form.thisPlay := by
  obtain ⟨hform, -, hsave⟩ := vc.addData_eq texts isPublishButton
  rw [h] at hform hsave
  rw [Option.map_some, eq_comm, Option.ite_none_right_eq_some, Option.some.injEq, ← hform] at hsave
  exact ⟨Prod.ext hform.symm hsave.1, hsave.2.symm⟩

theorem Ticked.of_eq (hvc : vc.Ticked) (hrows : vc'.checkboxes = vc.checkboxes)
    (hlevels : vc'.form.thisPlay.levelRange = vc.form.thisPlay.levelRange) : vc'.Ticked := by
  intro level
  rw [hrows, hlevels]
  exact hvc level

/-- **An event of the screen** leaves the form, or is an event of it, or
saves it; the rows follow the levels. -/
theorem issue_cases (hvc : vc.Ticked) (h : vc.issue texts e = some (vc', ts)) :
    vc'.Ticked ∧
      (vc'.form = vc.form ∨
        (∃ input : PlayInput, input.Picked ∧ vc.form.input texts input = some vc'.form) ∨
        ∃ isPublishButton, vc'.form = (vc.form.addData texts isPublishButton).1) := by
  cases e with
  | checkboxTapped level checkbox =>
    obtain ⟨vc₁, htap, heq⟩ := Option.map_eq_some_iff.1 h
    obtain ⟨rfl, -⟩ := Prod.mk.inj heq
    obtain ⟨hform, -, hrange⟩ := checkboxTapped_eq (hvc level) htap
    refine ⟨hvc.tapped htap, Or.inr (Or.inl ⟨.level level checkbox, fun _ => nofun, ?_⟩)⟩
    rw [hform, EstablishFinder.input, subscript_createCheckboxes (by omega)]
    rfl
  | didSelectRow row =>
    obtain ⟨text, htext, heq⟩ := Option.map_eq_some_iff.1 h
    obtain ⟨rfl, -⟩ := Prod.mk.inj heq
    refine ⟨hvc, Or.inr (Or.inl ⟨.typeRow row, fun _ => nofun, ?_⟩)⟩
    rw [EstablishFinder.input, htext]
    rfl
  | place text =>
    obtain ⟨rfl, -⟩ := Prod.mk.inj (Option.some.inj h)
    exact ⟨hvc, Or.inr (Or.inl ⟨.place text, fun _ => nofun, rfl⟩)⟩
  | price text =>
    obtain ⟨rfl, -⟩ := Prod.mk.inj (Option.some.inj h)
    exact ⟨hvc, Or.inr (Or.inl ⟨.price text, fun _ => nofun, rfl⟩)⟩
  | male text =>
    obtain ⟨rfl, -⟩ := Prod.mk.inj (Option.some.inj h)
    exact ⟨hvc, Or.inr (Or.inl ⟨.male text, fun _ => nofun, rfl⟩)⟩
  | female text =>
    obtain ⟨rfl, -⟩ := Prod.mk.inj (Option.some.inj h)
    exact ⟨hvc, Or.inr (Or.inl ⟨.female text, fun _ => nofun, rfl⟩)⟩
  | doneStartDatePicker =>
    obtain ⟨rfl, -⟩ := Prod.mk.inj (Option.some.inj h)
    exact ⟨hvc, Or.inr (Or.inl ⟨.startDate vc.startDatePicker, fun _ => nofun, rfl⟩)⟩
  | doneEndDatePicker =>
    obtain ⟨rfl, -⟩ := Prod.mk.inj (Option.some.inj h)
    exact ⟨hvc, Or.inr (Or.inl ⟨.endDate vc.endDatePicker, fun _ => nofun, rfl⟩)⟩
  | beginEditing | startDatePicker | endDatePicker | cancelToolbar =>
    obtain ⟨rfl, -⟩ := Prod.mk.inj (Option.some.inj h)
    exact ⟨hvc, Or.inl rfl⟩
  | donePlace =>
    obtain ⟨rfl, -⟩ := Prod.mk.inj (Option.some.inj h)
    obtain ⟨hform, hrows⟩ := vc.donePlace_eq texts
    exact ⟨hvc.of_eq hrows (congrArg (·.thisPlay.levelRange) hform), Or.inl hform⟩
  | donePrice | doneMaleLack | doneFemaleLack =>
    obtain ⟨rfl, -⟩ := Prod.mk.inj (Option.some.inj h)
    obtain ⟨hform, hrows⟩ := vc.doneNumber_eq _ _ _
    exact ⟨hvc.of_eq hrows (congrArg (·.thisPlay.levelRange) hform), Or.inl hform⟩
  | addData isPublishButton =>
    obtain ⟨rfl, -⟩ := Prod.mk.inj (Option.some.inj h)
    obtain ⟨hform, hrows, -⟩ := vc.addData_eq texts isPublishButton
    refine ⟨hvc.of_eq hrows ?_, Or.inr (Or.inr ⟨isPublishButton, hform⟩)⟩
    rw [hform, EstablishFinder.levelRange_addData]

/-! ## Every run of the form -/

/-- **The screen shows its play**: in each row the checkbox of the level and
no other is selected, and a time is not shown yet or is the play's. -/
structure Agrees (texts : Texts) (vc : EstablishFinderViewController) : Prop where
  rows : ∀ level, (vc.checkboxes level).filter UIButton.isSelected =
    [{ tag := vc.form.thisPlay.levelRange.row level, isSelected := true }]
  startTime : vc.form.startTimeTextField = "" ∨
    vc.form.startTimeTextField = texts.string vc.form.thisPlay.startTime
  endTime : vc.form.endTimeTextField = "" ∨
    vc.form.endTimeTextField = texts.string vc.form.thisPlay.endTime

/-- **The screen displays a play**, in its texts and its rows. -/
structure Displays (texts : Texts) (vc : EstablishFinderViewController) (play : Play) : Prop where
  shows : vc.form.Shows texts play
  rows : ∀ level, (vc.checkboxes level).filter UIButton.isSelected =
    [{ tag := play.levelRange.row level, isSelected := true }]

/-- **The play of a form that opens**: a blank one, or a stored one with its
type and levels in range. -/
def Opens (play : Play) : Prop :=
  (∃ finderId now, play = blankPlay finderId now) ∨ play.id ≠ "" ∧ EstablishFinder.InRange play

theorem Opens.inRange {play : Play} (h : Opens play) : EstablishFinder.InRange play := by
  rcases h with ⟨finderId, now, rfl⟩ | ⟨-, hplay⟩
  · exact EstablishFinder.inRange_blankPlay finderId now
  · exact hplay

/-- **In step**: the rows are at the levels, and the texts at the times. -/
def InStep (texts : Texts) (vc : EstablishFinderViewController) : Prop :=
  vc.Ticked ∧ vc.form.InStep texts

theorem InStep.rows (h : vc.InStep texts) (level : Level) :
    (vc.checkboxes level).filter UIButton.isSelected =
      [{ tag := vc.form.thisPlay.levelRange.row level, isSelected := true }] := by
  rw [h.1 level, filter_rowAt (h.2.levels level)]

/-- **A form that opens is in step**, and opens without a trap. -/
theorem exists_viewDidLoad (texts : Texts) {play : Play} (now : Date) (hplay : Opens play) :
    ∃ vc, viewDidLoad texts play now = some vc ∧ vc.InStep texts := by
  have hblank : play.id = "" → (createViews play now).Ticked := by
    intro hid
    rcases hplay with ⟨finderId, now', rfl⟩ | ⟨hstored, -⟩
    · intro level
      cases level <;> rfl
    · exact absurd hid hstored
  have hrows : (createViews play now).TickedOn [] :=
    fun _ => ⟨4, createCheckboxes_eq, fun h => absurd h List.not_mem_nil⟩
  have hsome : (EstablishFinder.ifEditMode texts { thisPlay := play }).isSome :=
    EstablishFinder.ifEditMode_isSome.2 (Or.inr hplay.inRange)
  obtain ⟨form, hform⟩ := Option.isSome_iff_exists.1 hsome
  obtain ⟨vc, hopen, rfl, hticked⟩ := exists_ifEditMode hrows hblank hform
  exact ⟨vc, hopen, hticked, EstablishFinder.inStep_ifEditMode hplay.inRange hform⟩

/-- **An event of the screen keeps it in step.** -/
theorem InStep.issue (hvc : vc.InStep texts) (h : vc.issue texts e = some (vc', ts)) :
    vc'.InStep texts := by
  obtain ⟨hrows, hform | ⟨input, hpicked, hform⟩ | ⟨isPublishButton, hform⟩⟩ :=
    issue_cases hvc.1 h
  · refine ⟨hrows, ?_⟩
    rw [hform]
    exact hvc.2
  · exact ⟨hrows, hvc.2.input hpicked hform⟩
  · refine ⟨hrows, ?_⟩
    rw [hform]
    exact hvc.2.addData isPublishButton

end EstablishFinderViewController

open EstablishFinderViewController

variable {texts : Texts} {vc₀ : EstablishFinderViewController} {play : Play} {now : Date}
variable {evs : List (Event EstablishEvent Reply)}
variable {c : Config EstablishFinderViewController PlaySave}

/-- **The form stays in step** in every state of a run. -/
theorem inStep_of_run (hplay : Opens play) (hload : viewDidLoad texts play now = some vc₀)
    (hrun : (establishForm texts).Run (fun _ _ => True) (Config.start vc₀) evs c) :
    c.state.InStep texts := by
  obtain ⟨vc, hload', hstep⟩ := exists_viewDidLoad texts now hplay
  obtain rfl := Option.some.inj (hload.symm.trans hload')
  refine hrun.invariant (I := fun c => c.state.InStep texts) hstep ?_
  intro c e c' hc _ hs
  rcases Machine.step_cases hs with ⟨a, s, ts, rfl, hi, rfl⟩ | ⟨n, r, t, rfl, ht, rfl⟩
  · exact InStep.issue hc hi
  · exact hc

/-- **The form saves what it shows, and only valid plays.** -/
theorem saves_shown (hcount : ∀ text, texts.count text = 0 → text = "") (hplay : Opens play)
    (hload : viewDidLoad texts play now = some vc₀)
    (hrun : (establishForm texts).Run (fun _ _ => True) (Config.start vc₀) evs c) :
    c.state.Agrees texts ∧ ∀ isPublishButton vc save,
      c.state.addData texts isPublishButton = (vc, some save) →
      EstablishFinder.Valid texts save.play ∧ c.state.Displays texts save.play := by
  have hstep := inStep_of_run hplay hload hrun
  refine ⟨⟨hstep.rows, hstep.2.startTime, hstep.2.endTime⟩, ?_⟩
  intro isPublishButton vc save hadd
  obtain ⟨hsaves, hplays⟩ := addData_eq_some hadd
  have hvalid := EstablishFinder.valid_of_addData hcount hstep.2 hsaves
  have hshows := EstablishFinder.shows_of_addData hstep.2 hsaves
  have hlevels := EstablishFinder.levelRange_addData texts c.state.form isPublishButton
  rw [hsaves] at hlevels
  rw [hplays]
  refine ⟨hvalid, hshows, fun level => ?_⟩
  rw [hlevels]
  exact hstep.rows level

namespace Sample

/-- A new play is filled in. -/
def fillPlay : List (Event EstablishEvent Reply) :=
  [.call .doneStartDatePicker, .call .doneEndDatePicker, .call (.place "gym"),
    .call (.price "100"), .call (.didSelectRow 1), .call (.male "1"), .call (.female "2"),
    .call .doneFemaleLack, .call (.checkboxTapped .spike 0)]

end Sample

/-- A new play is saved with the type that was chosen and the level that was
ticked. -/
theorem saves_shown_new : ∃ vc₀ c vc save,
    viewDidLoad Sample.clockTexts (blankPlay (some "f") ⟨0, 0⟩) ⟨0, 0⟩ = some vc₀ ∧
    (establishForm Sample.clockTexts).Run (fun _ _ => True) (Config.start vc₀) Sample.fillPlay c ∧
    c.state.addData Sample.clockTexts true = (vc, some (.savePlay save)) ∧
    save.type = 1 ∧ save.levelRange = ⟨4, 4, 4, 0, 4⟩ ∧
    EstablishFinder.Valid Sample.clockTexts save ∧ c.state.Displays Sample.clockTexts save := by
  have hload : viewDidLoad Sample.clockTexts (blankPlay (some "f") ⟨0, 0⟩) ⟨0, 0⟩ =
      some (createViews (blankPlay (some "f") ⟨0, 0⟩) ⟨0, 0⟩) := rfl
  have hrun : (establishForm Sample.clockTexts).Run (fun _ _ => True)
      (Config.start (createViews (blankPlay (some "f") ⟨0, 0⟩) ⟨0, 0⟩)) Sample.fillPlay _ :=
    .of_exec ⟨trivial, trivial, trivial, trivial, trivial, trivial, trivial, trivial, trivial,
      trivial⟩ rfl
  have hshown := saves_shown (fun _ => String.length_eq_zero_iff.1)
    (Or.inl ⟨some "f", ⟨0, 0⟩, rfl⟩) hload hrun
  refine ⟨_, _, _, _, hload, hrun, rfl, rfl, rfl, ?_⟩
  exact hshown.2 true _ _ rfl

end Volleyer
