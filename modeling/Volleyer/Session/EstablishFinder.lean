import Mathlib.Algebra.Group.Int.Defs
import Volleyer.Model.Choices
import Volleyer.Roster.Model

/-!
# The play form — `EstablishFinderViewController`

Opened blank the form publishes a play, opened with a play it changes
that one (`ifEditMode`). It keeps the play and the texts apart: a row of
checkboxes and the two date pickers write the play at once, the texts are
read when the play is saved (`addData`).

`Texts` is what the form asks of the language beside numbers: how a date
is spelt, and how many characters a text has.
-/

namespace Volleyer

/-- How texts are made, counted and compared. -/
structure Texts where
  /-- `formatter.string(from:)` -/
  string : Date → String
  /-- `text.count` -/
  count : String → ℕ
  /-- `text == other`, which tells no spellings of one character apart -/
  same : String → String → Bool

/-- Whether a date is after another one. -/
def Timestamp.after (t t' : Timestamp) : Prop :=
  t'.seconds < t.seconds ∨ t'.seconds = t.seconds ∧ t'.nanoseconds < t.nanoseconds

instance (t t' : Timestamp) : Decidable (t.after t') := inferInstanceAs (Decidable (_ ∨ _))

/-- The value of decimal digits, if there are any and nothing else. -/
def digits : List Char → Option ℤ
  | [] => none
  | cs => if cs.all Char.isDigit then
      some (cs.foldl (fun n c => 10 * n + (c.toNat - '0'.toNat : ℕ)) 0)
    else none

/-- `Int(text)`: an optional sign and digits, of a number of 64 bits. -/
def parseInt (text : String) : Option ℤ :=
  (match text.toList with
    | '+' :: cs => digits cs
    | '-' :: cs => (digits cs).map Neg.neg
    | cs => digits cs).filter fun n => -2 ^ 63 ≤ n ∧ n < 2 ^ 63

/-- What the form holds, on a device. -/
structure EstablishFinder where
  device : ℕ := 0
  startTimeTextField : String := ""
  endTimeTextField : String := ""
  placeTextField : String := ""
  priceTextField : String := ""
  typeTextField : String := ""
  maleTextField : String := ""
  femaleTextField : String := ""
  thisPlay : Play

/-- An event of a text field, a picker or a row of checkboxes. -/
inductive PlayInput
  | startDate (date : Date)
  | endDate (date : Date)
  | place (text : String)
  | price (text : String)
  | type (text : String)
  | typeRow (row : ℕ)
  | male (text : String)
  | female (text : String)
  | level (level : Level) (checkbox : ℕ)

/-- The play of a blank form. -/
def blankPlay (finderId : Option String) (now : Date) : Play where
  finderId := finderId.getD "Wrong User Id"
  startTime := now
  endTime := now
  place := ""
  price := 0
  type := 0
  levelRange := ⟨4, 4, 4, 4, 4⟩
  lackAmount := ⟨0, 0, 0⟩
  playerInfo := []
  status := 0

namespace EstablishFinder

/-- **An event of the form**, or `none` where there is no such choice. -/
def input (texts : Texts) (form : EstablishFinder) : PlayInput → Option EstablishFinder
  | .startDate date => some
      { form with startTimeTextField := texts.string date, thisPlay.startTime := date }
  | .endDate date => some
      { form with endTimeTextField := texts.string date, thisPlay.endTime := date }
  | .place text => some { form with placeTextField := text }
  | .price text => some { form with priceTextField := text }
  | .type text => some { form with typeTextField := text }
  | .typeRow row => (subscript playTypes row).map fun text => { form with typeTextField := text }
  | .male text => some { form with maleTextField := text }
  | .female text => some { form with femaleTextField := text }
  | .level level checkbox => (subscript (createCheckboxes 5) checkbox).map fun tag =>
      { form with thisPlay.levelRange := form.thisPlay.levelRange.set level tag }

/-- **`ifEditMode`**, or `none` where a subscript traps. The taps it makes
on the checkboxes set the levels to the tags. -/
def ifEditMode (texts : Texts) (form : EstablishFinder) : Option EstablishFinder :=
  if form.thisPlay.id = "" then some form
  else do
    let type ← subscript playTypes form.thisPlay.type
    let setBall ← subscript (createCheckboxes 5) form.thisPlay.levelRange.setBall
    let block ← subscript (createCheckboxes 5) form.thisPlay.levelRange.block
    let dig ← subscript (createCheckboxes 5) form.thisPlay.levelRange.dig
    let spike ← subscript (createCheckboxes 5) form.thisPlay.levelRange.spike
    let sum ← subscript (createCheckboxes 5) form.thisPlay.levelRange.sum
    return { form with
      startTimeTextField := texts.string form.thisPlay.startTime
      endTimeTextField := texts.string form.thisPlay.endTime
      placeTextField := form.thisPlay.place
      priceTextField := toString form.thisPlay.price
      typeTextField := type
      maleTextField := toString form.thisPlay.lackAmount.male
      femaleTextField := toString form.thisPlay.lackAmount.female
      thisPlay.levelRange := ⟨setBall, block, dig, spike, sum⟩ }

/-- The text fields are all filled in. -/
def Filled (form : EstablishFinder) : Prop :=
  form.startTimeTextField ≠ "" ∧ form.endTimeTextField ≠ "" ∧ form.placeTextField ≠ "" ∧
    form.priceTextField ≠ "" ∧ form.typeTextField ≠ "" ∧ form.maleTextField ≠ "" ∧
    form.femaleTextField ≠ ""

instance (form : EstablishFinder) : Decidable form.Filled :=
  inferInstanceAs (Decidable (_ ∧ _))

def priceInput (form : EstablishFinder) : ℤ := (parseInt form.priceTextField).getD 1000000

def maleInput (form : EstablishFinder) : ℤ := (parseInt form.maleTextField).getD 100

def femaleInput (form : EstablishFinder) : ℤ := (parseInt form.femaleTextField).getD 100

/-- The texts are too long or no reasonable numbers. -/
def Unreasonable (texts : Texts) (form : EstablishFinder) : Prop :=
  texts.count form.placeTextField > 15 ∨ form.priceInput > 100000 ∨ form.priceInput < 0 ∨
    form.maleInput > 99 ∨ form.maleInput < 0 ∨ form.femaleInput > 99 ∨ form.femaleInput < 0

instance (texts : Texts) (form : EstablishFinder) : Decidable (form.Unreasonable texts) :=
  inferInstanceAs (Decidable (_ ∨ _))

/-- The play with what the text fields say. -/
def read (form : EstablishFinder) : EstablishFinder :=
  { form with
    thisPlay := { form.thisPlay with
      place := form.placeTextField
      price := form.priceInput
      type := firstIndexOrZero playTypes form.typeTextField
      lackAmount := { form.thisPlay.lackAmount with
        male := form.maleInput
        female := form.femaleInput } } }

/-- The publish button marks the play before anything is checked. -/
def publish (form : EstablishFinder) (isPublishButton : Bool) : EstablishFinder :=
  if isPublishButton then { form with thisPlay.status := 1 } else form

/-- **`addData`**: the form as it is left, and whether it goes on to save. -/
def addData (texts : Texts) (form : EstablishFinder) (isPublishButton : Bool) :
    EstablishFinder × Bool :=
  let form := form.publish isPublishButton
  if form.Filled then
    if form.thisPlay.startTime.after form.thisPlay.endTime then (form, false)
    else if form.Unreasonable texts then (form, false)
    else (form.read, true)
  else (form, false)

/-! ## What an event leaves -/

/-- A play whose type and levels the tables have. -/
def InRange (play : Play) : Prop :=
  (0 ≤ play.type ∧ play.type ≤ 3) ∧ play.levelRange.Within 4

variable {texts : Texts} {form form' : EstablishFinder}

theorem inRange_blankPlay (finderId : Option String) (now : Date) :
    InRange (blankPlay finderId now) := by
  have htype : (0 : ℤ) ≤ 0 ∧ (0 : ℤ) ≤ 3 := by decide
  have hlevels : (⟨4, 4, 4, 4, 4⟩ : LevelRange).Within 4 := LevelRange.within_iff.2 (by decide)
  exact ⟨htype, hlevels⟩

/-- **An event keeps the play in range.** -/
theorem inRange_input {e : PlayInput} (h : form.input texts e = some form')
    (hform : InRange form.thisPlay) : InRange form'.thisPlay := by
  cases e with
  | level level checkbox =>
    obtain ⟨tag, htag, rfl⟩ := Option.map_eq_some_iff.1 h
    obtain ⟨-, h0, h5⟩ := tag_range htag
    exact ⟨hform.1, hform.2.set level h0 (by omega)⟩
  | typeRow row =>
    obtain ⟨text, -, rfl⟩ := Option.map_eq_some_iff.1 h
    exact hform
  | startDate | endDate | place | price | type | male | female =>
    obtain rfl := Option.some.inj h
    exact hform

/-- **The form opens** exactly where the play is in range, or new. -/
theorem ifEditMode_isSome : (form.ifEditMode texts).isSome ↔
    form.thisPlay.id = "" ∨ InRange form.thisPlay := by
  unfold ifEditMode
  by_cases hid : form.thisPlay.id = ""
  · rw [if_pos hid]
    exact ⟨fun _ => Or.inl hid, fun _ => rfl⟩
  · rw [if_neg hid, or_iff_right hid, InRange, ← isSome_playTypes_iff]
    cases htype : subscript playTypes form.thisPlay.type with
    | none => exact ⟨nofun, fun h => absurd h.1 (by decide)⟩
    | some type =>
      have hrows := isSome_tickRows_iff (n := 4) (l := form.thisPlay.levelRange)
        fun setBall block dig spike sum => { form with
          startTimeTextField := texts.string form.thisPlay.startTime
          endTimeTextField := texts.string form.thisPlay.endTime
          placeTextField := form.thisPlay.place
          priceTextField := toString form.thisPlay.price
          typeTextField := type
          maleTextField := toString form.thisPlay.lackAmount.male
          femaleTextField := toString form.thisPlay.lackAmount.female
          thisPlay.levelRange := ⟨setBall, block, dig, spike, sum⟩ }
      exact hrows.trans (and_iff_right rfl).symm

/-- The form opens on the play it was given. -/
theorem ifEditMode_eq (h : form.ifEditMode texts = some form') :
    form'.thisPlay = form.thisPlay := by
  unfold ifEditMode at h
  split at h
  · obtain rfl := Option.some.inj h
    rfl
  · simp only [Option.bind_eq_bind, Option.bind_eq_some_iff, Option.pure_def,
      Option.some.injEq] at h
    obtain ⟨type, -, t₁, h₁, t₂, h₂, t₃, h₃, t₄, h₄, t₅, h₅, rfl⟩ := h
    rw [(tag_range h₁).1, (tag_range h₂).1, (tag_range h₃).1, (tag_range h₄).1, (tag_range h₅).1]

/-- The publish button marks the play and nothing else. -/
theorem publish_eq (form : EstablishFinder) (isPublishButton : Bool) :
    form.publish isPublishButton =
      { form with thisPlay.status := if isPublishButton then 1 else form.thisPlay.status } := by
  unfold publish
  cases isPublishButton <;> rfl

/-- **What `addData` went on to save**: the form was filled in, in order
and reasonable, and its texts were read. -/
theorem addData_eq_true {isPublishButton : Bool}
    (h : form.addData texts isPublishButton = (form', true)) :
    form.Filled ∧ ¬form.thisPlay.startTime.after form.thisPlay.endTime ∧
      ¬form.Unreasonable texts ∧ form' = (form.publish isPublishButton).read := by
  have hpublish := publish_eq form isPublishButton
  simp only [addData] at h
  generalize form.publish isPublishButton = marked at h hpublish
  split at h
  · rename_i hfilled
    split at h
    · cases h
    · rename_i horder
      split at h
      · cases h
      · rename_i hreasonable
        obtain ⟨rfl, -⟩ := Prod.mk.inj h
        rw [hpublish] at hfilled horder hreasonable
        exact ⟨hfilled, horder, hreasonable, rfl⟩
  · cases h

/-- **`addData` reads the texts or leaves them**: saving or not, it marks the
play before. -/
theorem addData_fst (texts : Texts) (form : EstablishFinder) (isPublishButton : Bool) :
    (form.addData texts isPublishButton).1 = form.publish isPublishButton ∨
      (form.addData texts isPublishButton).1 = (form.publish isPublishButton).read := by
  simp only [addData]
  split
  · split
    · exact Or.inl rfl
    · split
      · exact Or.inl rfl
      · exact Or.inr rfl
  · exact Or.inl rfl

/-- **Saving keeps the play in range**, whatever the text of its type. -/
theorem inRange_addData (isPublishButton : Bool) (hform : InRange form.thisPlay) :
    InRange (form.addData texts isPublishButton).1.thisPlay := by
  have hpublish : InRange (form.publish isPublishButton).thisPlay := by
    rw [publish_eq]
    exact hform
  rcases addData_fst texts form isPublishButton with hleft | hread
  · rw [hleft]
    exact hpublish
  · rw [hread]
    have htype := firstIndexOrZero_range (form.publish isPublishButton).typeTextField
      (show playTypes ≠ [] by decide)
    have hlength : playTypes.length = 4 := rfl
    refine ⟨?_, hpublish.2⟩
    simp only [read]
    omega

theorem inRange_of_addData {isPublishButton saves : Bool}
    (h : form.addData texts isPublishButton = (form', saves)) (hform : InRange form.thisPlay) :
    InRange form'.thisPlay := by
  have hadd : InRange (form.addData texts isPublishButton).1.thisPlay :=
    inRange_addData isPublishButton hform
  rwa [h] at hadd

end EstablishFinder

/-- Every time is spelt the same. -/
def Sample.clockTexts : Texts := ⟨fun _ => "noon", String.length, (· == ·)⟩

end Volleyer
