import Volleyer.Stored.Profile

/-!
# The cached profile — what errors leave of it

`UserDefaults` keep the profile that the screens show and the next edit
starts from. `updateProfileInfo` and `removeThisuser` touch it when the
store has answered; `saveProfileImage` before the document is written, so
that an error there leaves an image the document does not have.
-/

namespace Volleyer

open MyDataManager

variable {w : World} {u v : User} {i : String} {device : ℕ} {d : Doc UserTitle}
variable {replies : List Reply} {c : Config World AccountTask}

/-! ## What is cached -/

/-- The values of a profile that are cached. -/
structure CachedProfile where
  id : Option String := none
  name : Option String := none
  image : Option String := none
  email : Option String := none
  gender : Option ℤ := none
  setBall : Option ℤ := none
  block : Option ℤ := none
  dig : Option ℤ := none
  spike : Option ℤ := none
  sum : Option ℤ := none
deriving DecidableEq

/-- What `UserDefaults` keep of a profile. -/
def UserDefaults.profile (standard : UserDefaults) : CachedProfile where
  id := standard.id
  name := standard.name
  image := standard.image
  email := standard.email
  gender := standard.gender
  setBall := standard.setBall
  block := standard.block
  dig := standard.dig
  spike := standard.spike
  sum := standard.sum

/-- What is to be cached of a user. -/
def User.profile (user : User) : CachedProfile where
  id := some user.id
  name := some user.name
  image := some user.image
  email := some user.email
  gender := some user.gender
  setBall := some user.level.setBall
  block := some user.level.block
  dig := some user.level.dig
  spike := some user.level.spike
  sum := some user.level.sum

/-- **A signed-in account whose cache is the stored profile.** -/
structure World.Cached (w : World) (device : ℕ) (i : String) (d : Doc UserTitle) : Prop where
  signedIn : (w.device device).firebaseId = some i
  stored : w.server.users.get i = some d
  profile : (w.device device).profile = (decodeUser i d).profile

/-- **The cache follows the store**: it is the stored profile, or it is
cleared. -/
def World.Follows (w : World) (device : ℕ) (i : String) : Prop :=
  (∃ d, w.server.users.get i = some d ∧ (w.device device).profile = (decodeUser i d).profile) ∨
    (w.device device).profile = {}

/-! ## The operations -/

/-- The operations on a profile. -/
inductive ProfileOperation
  | updateProfileInfo (changedUser : User)
  | saveProfileImage (urlString : String)
  | removeThisuser (firebaseId : String)

namespace ProfileOperation

def call (device : ℕ) : ProfileOperation → AccountCall
  | updateProfileInfo changedUser => .updateProfileInfo device changedUser
  | saveProfileImage urlString => .saveProfileImage device urlString
  | removeThisuser firebaseId => .removeThisuser device firebaseId

/-- **An operation alone**, its requests answered as chosen. -/
def alone (device : ℕ) (operation : ProfileOperation) (replies : List Reply) :
    List (Event AccountCall Reply) :=
  .call (operation.call device) :: replies.map (.answer 0)

/-- **The branch that parts the cache from the store is not taken**: an
image is not left without its document, and a successful update is of the
account's own document and its own image. -/
def Safe (w : World) (i : String) (user : User) (replies : List Reply) :
    ProfileOperation → Prop
  | updateProfileInfo changedUser =>
      replies = [.ok] → (w.server.users.get changedUser.firebaseId).isSome →
        changedUser.image = user.image ∧
          (changedUser.firebaseId = i ∨ changedUser.profile = user.profile)
  | saveProfileImage urlString => replies = [.ok, .ok, .failed] → urlString = user.image
  | removeThisuser _ => True

end ProfileOperation

/-- What `saveProfileImage` caches when the url is answered. -/
def World.cacheImage (w : World) (device : ℕ) (urlString : String) : World :=
  w.setDevice device { w.device device with image := some urlString }

/-! ## What is left -/

theorem profile_saveUserDefault (standard : UserDefaults) (user : User) :
    (saveUserDefault standard user).profile = user.profile := rfl

/-- A profile that was cached is not cleared. -/
theorem profile_ne_empty (user : User) : user.profile ≠ {} := fun h =>
  absurd (congrArg CachedProfile.id h) (Option.some_ne_none _)

/-- A cache is the profile of one user only. -/
theorem follows_iff_of_cached (hstored : w.server.users.get i = some d)
    (hcache : (w.device device).profile = u.profile) :
    w.Follows device i ↔ u.profile = (decodeUser i d).profile := by
  constructor
  · rintro (⟨d', hd', heq⟩ | hempty)
    · obtain rfl := Option.some.inj (hstored.symm.trans hd')
      rw [← hcache, heq]
    · exact absurd (hcache.symm.trans hempty) (profile_ne_empty u)
  · intro heq
    exact Or.inl ⟨d, hstored, hcache.trans heq⟩

/-- The edited profile is the form's, but for the image. -/
theorem profile_edited_iff : v.profile = (u.edited v).profile ↔ v.image = u.image := by
  simp [User.profile, User.edited]

/-- An image that is written is read back, beside the rest. -/
theorem decodeUser_setImage (d : Doc UserTitle) (urlString : String) :
    decodeUser i (d.updateData [(.image, .string urlString)]) =
      { decodeUser i d with image := urlString } := rfl

theorem World.Cached.follows (h : w.Cached device i d) : w.Follows device i :=
  Or.inl ⟨d, h.stored, h.profile⟩

namespace ProfileOperation

/-- An update: only its success changes anything. -/
theorem follows_updateProfileInfo (h : w.Cached device i d)
    (hexec : managers.exec (.start w) ((updateProfileInfo v).alone device replies) = some c)
    (hdone : c.pending = []) :
    c.state.Follows device i ↔ (updateProfileInfo v).Safe w i (decodeUser i d) replies := by
  obtain ⟨r, rest, rfl, hrest⟩ := Machine.exec_lone hexec hdone
  cases r with
  | failed =>
    obtain ⟨rfl, rfl⟩ := Machine.exec_idle hrest
    exact iff_of_true h.follows nofun
  | ok =>
    simp only [managers, accountAnswer, accountAnswerOk, Config.start_state] at hrest
    cases hget : w.server.users.get v.firebaseId with
    | none =>
      simp only [hget] at hrest
      obtain ⟨rfl, rfl⟩ := Machine.exec_idle hrest
      refine iff_of_true h.follows fun _ hsome => ?_
      rw [hget] at hsome
      cases hsome
    | some d' =>
      simp only [hget] at hrest
      obtain ⟨rfl, rfl⟩ := Machine.exec_idle hrest
      have hsafe : (updateProfileInfo v).Safe w i (decodeUser i d) [.ok] ↔
          v.image = (decodeUser i d).image ∧
            (v.firebaseId = i ∨ v.profile = (decodeUser i d).profile) := by
        simp only [Safe, hget, Option.isSome_some, forall_const]
      have hcache : (((w.updateUser v.firebaseId (updateProfileInfoData v)).setDevice device
          (saveUserDefault (w.device device) v)).device device).profile = v.profile := by
        simp only [World.setDevice, Function.update_self, profile_saveUserDefault]
      rw [hsafe]
      by_cases hown : v.firebaseId = i
      · have hstored : (w.server.users.modify v.firebaseId
            (·.updateData (updateProfileInfoData v))).get i =
            some (d.updateData (updateProfileInfoData v)) := by
          rw [hown, Collection.get_modify_self, h.stored, Option.map_some]
        rw [follows_iff_of_cached hstored hcache, decodeUser_updateProfileInfoData,
          profile_edited_iff]
        exact (and_iff_left (Or.inl hown)).symm
      · have hstored : (w.server.users.modify v.firebaseId
            (·.updateData (updateProfileInfoData v))).get i = some d := by
          rw [Collection.get_modify_of_ne _ _ (Ne.symm hown), h.stored]
        rw [follows_iff_of_cached hstored hcache]
        constructor
        · intro heq
          exact ⟨Option.some.inj (congrArg CachedProfile.image heq), Or.inr heq⟩
        · rintro ⟨-, hor⟩
          exact hor.resolve_left hown

/-- A removal: the cache is cleared, or nothing has changed. -/
theorem follows_removeThisuser {firebaseId : String} (h : w.Cached device i d)
    (hexec : managers.exec (.start w) ((removeThisuser firebaseId).alone device replies) = some c)
    (hdone : c.pending = []) : c.state.Follows device i := by
  obtain ⟨r, rest, rfl, hrest⟩ := Machine.exec_lone hexec hdone
  cases r with
  | failed =>
    obtain ⟨rfl, rfl⟩ := Machine.exec_idle hrest
    exact h.follows
  | ok =>
    simp only [managers, accountAnswer, accountAnswerOk, Config.start_state] at hrest
    cases hget : w.server.users.get firebaseId with
    | none =>
      simp only [hget] at hrest
      obtain ⟨rfl, rfl⟩ := Machine.exec_idle hrest
      exact h.follows
    | some d' =>
      simp only [hget] at hrest
      obtain ⟨rfl, rfl⟩ := Machine.exec_idle hrest
      refine Or.inr ?_
      simp only [World.setDevice, Function.update_self]
      rfl

/-- An image: it is cached once it is uploaded, whether or not the document
is written. -/
theorem follows_saveProfileImage {urlString : String} (h : w.Cached device i d)
    (hexec : managers.exec (.start w) ((saveProfileImage urlString).alone device replies) = some c)
    (hdone : c.pending = []) :
    c.state.Follows device i ↔ (saveProfileImage urlString).Safe w i (decodeUser i d) replies := by
  obtain ⟨upload, replies', rfl, hupload⟩ := Machine.exec_lone hexec hdone
  cases upload with
  | failed =>
    obtain ⟨rfl, rfl⟩ := Machine.exec_idle hupload
    exact iff_of_true h.follows nofun
  | ok =>
    obtain ⟨download, rest, rfl, hdownload⟩ := Machine.exec_lone hupload hdone
    cases download with
    | failed =>
      obtain ⟨rfl, rfl⟩ := Machine.exec_idle hdownload
      exact iff_of_true h.follows nofun
    | ok =>
      have hme : (w.device device).firebaseId.getD "user_default_error" = i := by
        rw [h.signedIn, Option.getD_some]
      obtain ⟨write, rest', rfl, hwrite⟩ := Machine.exec_lone hdownload hdone
      have hcache : ((w.cacheImage device urlString).device device).profile =
          User.profile { decodeUser i d with image := urlString } := by
        simp only [World.cacheImage, World.setDevice, Function.update_self]
        exact congrArg (fun p => { p with image := some urlString }) h.profile
      cases write with
      | failed =>
        -- the image is cached, and the document keeps the one it has
        obtain ⟨rfl, rfl⟩ := Machine.exec_idle hwrite
        show (w.cacheImage device urlString).Follows device i ↔ _
        have hstored : (w.cacheImage device urlString).server.users.get i = some d := h.stored
        rw [follows_iff_of_cached hstored hcache]
        simp [User.profile, Safe]
      | ok =>
        obtain ⟨rfl, rfl⟩ := Machine.exec_idle hwrite
        show ((w.cacheImage device urlString).updateUser ((w.device device).firebaseId.getD
          "user_default_error") [(.image, .string urlString)]).Follows device i ↔ _
        rw [hme]
        have hstored : ((w.cacheImage device urlString).updateUser i
            [(.image, .string urlString)]).server.users.get i =
            some (d.updateData [(.image, .string urlString)]) := by
          show (w.server.users.modify i _).get i = _
          rw [Collection.get_modify_self, h.stored, Option.map_some]
        refine iff_of_true ((follows_iff_of_cached hstored hcache).2 ?_) (by simp [Safe])
        rw [decodeUser_setImage]

/-- **The cache follows the store through errors**, whatever the operation
is and whichever of its requests fail, exactly where the branch that parts
them is not taken. -/
theorem follows_iff {operation : ProfileOperation} (h : w.Cached device i d)
    (hexec : managers.exec (.start w) (operation.alone device replies) = some c)
    (hdone : c.pending = []) :
    c.state.Follows device i ↔ operation.Safe w i (decodeUser i d) replies := by
  cases operation with
  | updateProfileInfo changedUser => exact follows_updateProfileInfo h hexec hdone
  | saveProfileImage urlString => exact follows_saveProfileImage h hexec hdone
  | removeThisuser firebaseId => exact iff_of_true (follows_removeThisuser h hexec hdone) trivial

end ProfileOperation

namespace Sample

/-- A user with an image. -/
def pictured : User := { profileOf "u" "bob" with image := "old" }

/-- The account of that user, cached by every device. -/
def cachedAccount : World where
  server := ⟨⟨[("u", Doc.setData (saveProfileInfoData pictured))], List.nodup_singleton _⟩, .empty,
    .empty, ["u"]⟩
  device := fun _ => saveUserDefault {} pictured

theorem cached_cachedAccount :
    cachedAccount.Cached 0 "u" (Doc.setData (saveProfileInfoData pictured)) where
  signedIn := rfl
  stored := rfl
  profile := rfl

end Sample

/-- **An image is uploaded and its document is not written**: the cache shows
an image that the store does not have. -/
theorem follows_fails : ¬∀ (w : World) (device : ℕ) (i : String) (d : Doc UserTitle)
    (operation : ProfileOperation) (replies : List Reply) (c : Config World AccountTask),
    w.Cached device i d → managers.exec (.start w) (operation.alone device replies) = some c →
    c.pending = [] → c.state.Follows device i := by
  intro h
  rcases h _ 0 "u" _ (.saveProfileImage "new") [.ok, .ok, .failed] _ Sample.cached_cachedAccount rfl
    rfl with ⟨d, hd, hprofile⟩ | hempty
  · obtain rfl : Doc.setData (saveProfileInfoData Sample.pictured) = d := Option.some.inj hd
    have himage : some "new" = some "old" := congrArg CachedProfile.image hprofile
    exact absurd himage (by decide)
  · exact absurd (congrArg CachedProfile.image hempty) (Option.some_ne_none _)

theorem follows_iff_image_saved : ∃ c, managers.exec (.start Sample.cachedAccount)
      (ProfileOperation.alone 0 (.saveProfileImage "new") [.ok, .ok, .ok]) = some c ∧
    c.state.Follows 0 "u" := by
  have hexec : managers.exec (.start Sample.cachedAccount)
      (ProfileOperation.alone 0 (.saveProfileImage "new") [.ok, .ok, .ok]) = some _ := rfl
  refine ⟨_, hexec, (ProfileOperation.follows_iff Sample.cached_cachedAccount hexec rfl).2 ?_⟩
  intro hfailed
  cases hfailed

end Volleyer
