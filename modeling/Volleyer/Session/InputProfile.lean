import Volleyer.Account.Model
import Volleyer.Model.Choices

/-!
# The profile form — `InputProfileViewController`

One form serves two purposes. Opened after a sign-in that found no account
it registers one (`doneInput`); opened with the cached profile it changes
that one (`changeUserInfo`). The levels start at the fifth choice, which
the form has no checkbox for, and registering asks for another.
-/

namespace Volleyer

/-- What the form holds. -/
structure InputProfile where
  device : ℕ
  idTextField : String := ""
  nameTextField : String := ""
  emailTextField : String := ""
  genderTextField : String := ""
  thisUser : User := { id := "", email := "", gender := -1, name := "" }
  changeUserInfoData : Option User := none

/-- An event of a text field, the picker or a row of checkboxes. -/
inductive ProfileInput
  | id (text : String)
  | name (text : String)
  | email (text : String)
  | gender (text : String)
  | genderRow (row : ℕ)
  | level (level : Level) (checkbox : ℕ)

namespace InputProfile

/-- **An event of the form**, or `none` where there is no such choice. -/
def input (form : InputProfile) : ProfileInput → Option InputProfile
  | .id text => some { form with idTextField := text }
  | .name text => some { form with nameTextField := text }
  | .email text => some { form with emailTextField := text }
  | .gender text => some { form with genderTextField := text }
  | .genderRow row => (subscript genderList row).map fun text =>
      { form with genderTextField := text }
  | .level level checkbox => (subscript (createCheckboxes 4) checkbox).map fun tag =>
      { form with thisUser.level := form.thisUser.level.set level tag }

/-- The text fields are all filled in. -/
def Filled (form : InputProfile) : Prop :=
  form.idTextField ≠ "" ∧ form.nameTextField ≠ "" ∧ form.emailTextField ≠ "" ∧
    form.genderTextField ≠ ""

instance (form : InputProfile) : Decidable form.Filled :=
  inferInstanceAs (Decidable (_ ∧ _))

/-- The user with what the text fields say. -/
def read (form : InputProfile) : InputProfile :=
  { form with
    thisUser := { form.thisUser with
      email := form.emailTextField
      id := form.idTextField
      name := form.nameTextField
      gender := firstIndexOrZero genderList form.genderTextField } }

/-- No level is the fifth choice. -/
def LevelsChosen (form : InputProfile) : Prop :=
  form.thisUser.level.block ≠ 4 ∧ form.thisUser.level.setBall ≠ 4 ∧ form.thisUser.level.dig ≠ 4 ∧
    form.thisUser.level.spike ≠ 4 ∧ form.thisUser.level.sum ≠ 4

instance (form : InputProfile) : Decidable form.LevelsChosen :=
  inferInstanceAs (Decidable (_ ∧ _))

/-- `doneInput`: the form as it is left, where it goes on to save. -/
def doneInput (form : InputProfile) : Option InputProfile :=
  if form.Filled ∧ form.LevelsChosen then some form.read else none

/-- `changeUserInfo`: the form as it is left, where it goes on to save. -/
def changeUserInfo (form : InputProfile) : Option InputProfile :=
  if form.Filled then some form.read else none

/-- **`autoInputUserInfo`**, or `none` where a subscript traps. -/
def autoInputUserInfo (form : InputProfile) : Option InputProfile :=
  match form.changeUserInfoData with
  | none => some form
  | some changeUserInfoData => do
    let gender ← subscript genderList changeUserInfoData.gender
    let _ ← subscript (createCheckboxes 4) changeUserInfoData.level.setBall
    let _ ← subscript (createCheckboxes 4) changeUserInfoData.level.block
    let _ ← subscript (createCheckboxes 4) changeUserInfoData.level.dig
    let _ ← subscript (createCheckboxes 4) changeUserInfoData.level.spike
    let _ ← subscript (createCheckboxes 4) changeUserInfoData.level.sum
    return { form with
      thisUser := changeUserInfoData
      idTextField := changeUserInfoData.id
      nameTextField := changeUserInfoData.name
      emailTextField := changeUserInfoData.email
      genderTextField := gender }

end InputProfile

/-- The credential of a sign-in with Apple. -/
structure AppleIDCredential where
  user : String
  givenName : Option String := none
  familyName : Option String := none
  email : Option String := none

/-- `showInputProfileViewController`: the form to register with, for
somebody who has removed an account before, or for a new user. -/
def showInputProfileViewController (device : ℕ) (credential : AppleIDCredential)
    (wasVolleyer : Option User) : InputProfile where
  device := device
  thisUser :=
    { id := "", email := "", gender := -1, name := ""
      firebaseId := (wasVolleyer.map User.firebaseId).getD ""
      loginWay := 1
      userIdentifier := credential.user }
  nameTextField := (credential.givenName.bind fun givenName =>
    credential.familyName.map fun familyName => familyName ++ givenName).getD ""
  emailTextField := credential.email.getD ""

/-- The profile `UserDefaults` cache, as `pushToInputProfile` reads it. -/
def UserDefaults.cachedProfile (standard : UserDefaults) : User where
  firebaseId := standard.firebaseId.getD "No firebase id found"
  id := standard.id.getD "No id found"
  email := standard.email.getD "No email found"
  gender := standard.gender.getD 0
  name := standard.name.getD "No name found"
  level := ⟨standard.setBall.getD 0, standard.block.getD 0, standard.dig.getD 0,
    standard.spike.getD 0, standard.sum.getD 0⟩
  image := standard.image.getD placeholderImage

/-- `pushToInputProfile`: the form to change the cached profile with. -/
def pushToInputProfile (device : ℕ) (standard : UserDefaults) : Option InputProfile :=
  InputProfile.autoInputUserInfo
    { device := device, changeUserInfoData := some standard.cachedProfile }

/-! ## What an event leaves -/

namespace InputProfile

variable {form form' : InputProfile}

/-- **An event of the form** changes its texts and one level. -/
theorem input_eq {e : ProfileInput} (h : form.input e = some form') :
    form'.device = form.device ∧ form'.changeUserInfoData = form.changeUserInfoData ∧
      (form'.thisUser = form.thisUser ∨ ∃ level tag, 0 ≤ tag ∧ tag ≤ 3 ∧
        form'.thisUser = { form.thisUser with level := form.thisUser.level.set level tag }) := by
  cases e with
  | level level checkbox =>
    obtain ⟨tag, htag, rfl⟩ := Option.map_eq_some_iff.1 h
    obtain ⟨-, h0, h4⟩ := tag_range htag
    exact ⟨rfl, rfl, Or.inr ⟨level, tag, h0, by omega, rfl⟩⟩
  | genderRow row =>
    obtain ⟨text, -, rfl⟩ := Option.map_eq_some_iff.1 h
    exact ⟨rfl, rfl, Or.inl rfl⟩
  | id | name | email | gender =>
    obtain rfl := Option.some.inj h
    exact ⟨rfl, rfl, Or.inl rfl⟩

theorem doneInput_eq_some : form.doneInput = some form' ↔
    (form.Filled ∧ form.LevelsChosen) ∧ form' = form.read := by
  rw [doneInput, Option.ite_none_right_eq_some, Option.some.injEq, eq_comm (a := form.read)]

theorem changeUserInfo_eq_some : form.changeUserInfo = some form' ↔
    form.Filled ∧ form' = form.read := by
  rw [changeUserInfo, Option.ite_none_right_eq_some, Option.some.injEq, eq_comm (a := form.read)]

/-- **The form opens** exactly where the gender and the levels to show are in
range. -/
theorem autoInputUserInfo_isSome {changeUserInfoData : User}
    (h : form.changeUserInfoData = some changeUserInfoData) :
    form.autoInputUserInfo.isSome ↔
      (0 ≤ changeUserInfoData.gender ∧ changeUserInfoData.gender ≤ 1) ∧
        changeUserInfoData.level.Within 3 := by
  rw [← isSome_genderList_iff]
  simp only [autoInputUserInfo, h]
  cases hgender : subscript genderList changeUserInfoData.gender with
  | none => exact ⟨nofun, fun h => absurd h.1 (by decide)⟩
  | some gender =>
    have hrows := isSome_tickRows_iff (n := 3) (l := changeUserInfoData.level)
      fun _ _ _ _ _ => { form with
        changeUserInfoData := some changeUserInfoData
        thisUser := changeUserInfoData
        idTextField := changeUserInfoData.id
        nameTextField := changeUserInfoData.name
        emailTextField := changeUserInfoData.email
        genderTextField := gender }
    exact hrows.trans (and_iff_right rfl).symm

/-- What it then shows. -/
theorem autoInputUserInfo_eq {changeUserInfoData : User}
    (h : form.changeUserInfoData = some changeUserInfoData)
    (hauto : form.autoInputUserInfo = some form') :
    form'.device = form.device ∧ form'.changeUserInfoData = some changeUserInfoData ∧
      form'.thisUser = changeUserInfoData := by
  rw [autoInputUserInfo, h] at hauto
  simp only [Option.bind_eq_bind, Option.bind_eq_some_iff, Option.pure_def, Option.some.injEq]
    at hauto
  obtain ⟨gender, -, -, -, -, -, -, -, -, -, -, -, rfl⟩ := hauto
  exact ⟨rfl, rfl, rfl⟩

end InputProfile

/-- The cached profile that a form is opened with. -/
theorem pushToInputProfile_eq {device : ℕ} {standard : UserDefaults} {form : InputProfile}
    (h : pushToInputProfile device standard = some form) :
    form.device = device ∧ form.changeUserInfoData = some standard.cachedProfile ∧
      form.thisUser = standard.cachedProfile :=
  InputProfile.autoInputUserInfo_eq rfl h

/-- The texts and levels of a form that is filled in. -/
def Sample.fillIn : List ProfileInput :=
  [.id "w", .name "name", .email "email", .genderRow 0, .level .setBall 0, .level .block 0,
    .level .dig 0, .level .spike 0, .level .sum 0]

end Volleyer
