import Volleyer.Account.Model
import Volleyer.Common.Agree

/-!
# Worlds that agree off the edited fields

`updatePlay` and `updateProfileInfo` write a form: they name the fields
the form shows and read none. Every other writer of these documents reads
and names other fields. So two worlds that differ in edited fields alone
issue the same requests, and go on differing in those alone.
-/

namespace Volleyer

/-- The fields `updatePlay` names. -/
def PlayTitle.edited : List PlayTitle :=
  [.startTime, .endTime, .place, .price, .type, .levelRange, .lackAmount]

/-- The fields `updateProfileInfo` names. -/
def UserTitle.edited : List UserTitle := [.id, .email, .name, .gender, .level]

section Doc

variable {Field : Type} [DecidableEq Field] {F : List Field} {d d' : Doc Field}
variable {data : Fields Field}

theorem lookup_eq_none_of_not_mem {f : Field} (hf : f ∉ data.map Prod.fst) :
    data.lookup f = none := by
  refine List.lookup_eq_none_iff.2 fun p hp => bne_iff_ne.2 fun hfp => hf ?_
  rw [hfp]
  exact List.mem_map_of_mem hp

theorem exists_lookup_of_mem {f : Field} (hf : f ∈ data.map Prod.fst) :
    ∃ v, data.lookup f = some v := by
  rw [← Option.ne_none_iff_exists', Ne, List.lookup_eq_none_iff]
  obtain ⟨p, hp, rfl⟩ := List.mem_map.1 hf
  intro hnone
  have hself := hnone p hp
  simp at hself

theorem AgreeOff.updateData (h : AgreeOff F d d') (data : Fields Field) :
    AgreeOff F (d.updateData data) (d'.updateData data) := fun f hf => by
  rw [Doc.updateData, Doc.updateData, h f hf]

/-- A write of fields of `F` alone keeps the agreement off `F`. -/
theorem AgreeOff.updateData_left (h : AgreeOff F d d') (hdata : data.map Prod.fst ⊆ F) :
    AgreeOff F (d.updateData data) d' := fun f hf => by
  rw [Doc.updateData_of_lookup_eq_none (lookup_eq_none_of_not_mem fun hd => hf (hdata hd)), h f hf]

omit [DecidableEq Field] in
theorem AgreeOff.string (h : AgreeOff F d d') {f : Field} (hf : f ∉ F) :
    d.string f = d'.string f := by
  rw [Doc.string, Doc.string, h f hf]

omit [DecidableEq Field] in
theorem AgreeOff.strings (h : AgreeOff F d d') {f : Field} (hf : f ∉ F) :
    d.strings f = d'.strings f := by
  rw [Doc.strings, Doc.strings, h f hf]

end Doc

/-! ## Stores that agree off some fields -/

/-- Two stores that differ in the fields `E` of plays and `G` of users
alone. -/
structure Server.Agree (E : List PlayTitle) (G : List UserTitle) (s s' : Server) : Prop where
  plays : s.plays.Rel (AgreeOff E) s'.plays
  users : s.users.Rel (AgreeOff G) s'.users
  requests : s.requests = s'.requests
  allocated : s.allocated = s'.allocated

/-- Two worlds whose stores do. -/
structure World.Agree (E : List PlayTitle) (G : List UserTitle) (w w' : World) : Prop where
  server : w.server.Agree E G w'.server
  device : w.device = w'.device

/-- The fields the other writers read and write are not among `E` and
`G`. -/
structure Unread (E : List PlayTitle) (G : List UserTitle) : Prop where
  playerInfo : .playerInfo ∉ E
  firebaseId : .firebaseId ∉ G
  myPlayList : .myPlayList ∉ G
  blockList : .blockList ∉ G

variable {E : List PlayTitle} {G : List UserTitle} {s s' : Server} {w w' : World}

namespace Server.Agree

theorem refl (E : List PlayTitle) (G : List UserTitle) (s : Server) : s.Agree E G s where
  plays := .refl (AgreeOff.refl E) _
  users := .refl (AgreeOff.refl G) _
  requests := rfl
  allocated := rfl

theorem updatePlay (h : s.Agree E G s') (documentID : String) (data : Fields PlayTitle) :
    (s.updatePlay documentID data).Agree E G (s'.updatePlay documentID data) :=
  { h with plays := h.plays.modify documentID fun _ _ hd => hd.updateData data }

theorem updateUser (h : s.Agree E G s') (documentID : String) (data : Fields UserTitle) :
    (s.updateUser documentID data).Agree E G (s'.updateUser documentID data) :=
  { h with users := h.users.modify documentID fun _ _ hd => hd.updateData data }

theorem updatePlay_left (h : s.Agree E G s') (documentID : String) {data : Fields PlayTitle}
    (hdata : data.map Prod.fst ⊆ E) : (s.updatePlay documentID data).Agree E G s' :=
  { h with plays := h.plays.modify_left documentID fun _ _ hd => hd.updateData_left hdata }

theorem updateUser_left (h : s.Agree E G s') (documentID : String) {data : Fields UserTitle}
    (hdata : data.map Prod.fst ⊆ G) : (s.updateUser documentID data).Agree E G s' :=
  { h with users := h.users.modify_left documentID fun _ _ hd => hd.updateData_left hdata }

/-- **An answer keeps the agreement**, and spawns the same tasks. -/
theorem answerOk (hplayerInfo : .playerInfo ∉ E) (hfirebaseId : .firebaseId ∉ G)
    (hmyPlayList : .myPlayList ∉ G) (h : s.Agree E G s') (t : Task) :
    (answerOk s t).1.Agree E G (answerOk s' t).1 ∧
      (Volleyer.answerOk s t).2 = (Volleyer.answerOk s' t).2 := by
  obtain ⟨users, plays, requests, allocated⟩ := s
  obtain ⟨users', plays', requests', allocated'⟩ := s'
  obtain ⟨hplays, husers, hreq, halloc⟩ := id h
  simp only at hplays husers hreq halloc
  subst hreq halloc
  cases t with
  | setPlay documentID data finderId =>
    exact ⟨{ h with plays := hplays.set documentID (.refl E _) }, rfl⟩
  | updatePlay documentID data => exact ⟨h.updatePlay documentID data, rfl⟩
  | deletePlay documentID => exact ⟨{ h with plays := hplays.delete documentID }, rfl⟩
  | querySameRequest documentID data play me =>
    rw [answerOk_querySameRequest, answerOk_querySameRequest]
    exact ⟨h, rfl⟩
  | setRequest documentID data => exact ⟨{ h with requests := rfl }, rfl⟩
  | updateStatus request status =>
    rw [answerOk_updateStatus, answerOk_updateStatus]
    exact ⟨{ h with requests := rfl }, rfl⟩
  | cancelStatus request =>
    rw [answerOk_cancelStatus, answerOk_cancelStatus]
    exact ⟨{ h with requests := rfl }, rfl⟩
  | getUsers edit playId userId =>
    refine ⟨h, husers.filterMap_query (fun d d' hd => ?_) fun i d d' hd => ?_⟩
    · rw [hd.string hfirebaseId]
    · simp only [hd.string hfirebaseId, hd.strings hmyPlayList]
  | setMyPlayList documentID myPlayList => exact ⟨h.updateUser documentID _, rfl⟩
  | getPlay edit userId playId =>
    have hlist : (plays.get playId).bind (·.strings .playerInfo) =
        (plays'.get playId).bind (·.strings .playerInfo) :=
      hplays.bind_get playId fun _ _ hd => hd.strings hplayerInfo
    simp only [Volleyer.answerOk, hlist]
    exact ⟨h, trivial⟩
  | setPlayerInfo documentID playInfo => exact ⟨h.updatePlay documentID _, rfl⟩
  | queryRequests playId => exact ⟨h, rfl⟩
  | deleteRequest documentID => exact ⟨{ h with requests := rfl }, rfl⟩

/-- What a call issues is the same. -/
theorem issue (h : s.Agree E G s') {a : Call} {s₁ : Server} {ts : List Task}
    (hi : issue s a = some (s₁, ts)) :
    ∃ s₁', Volleyer.issue s' a = some (s₁', ts) ∧ s₁.Agree E G s₁' := by
  have hallocate : ∀ {i : String} {ts' : List Task}, s.allocate i ts' = some (s₁, ts) →
      ∃ s₁', s'.allocate i ts' = some (s₁', ts) ∧ s₁.Agree E G s₁' := fun hi => by
    obtain ⟨hnew, rfl, rfl⟩ := allocate_eq_some.1 hi
    exact ⟨_, allocate_eq_some.2 ⟨h.allocated ▸ hnew, rfl, rfl⟩,
      { h with allocated := congrArg (List.cons _) h.allocated }⟩
  cases a with
  | savePlay play i now => exact hallocate hi
  | saveRequest play players me i now => exact hallocate hi
  | updatePlay | deletePlay | updateRequest | cancelRequest =>
    obtain ⟨rfl, rfl⟩ := Prod.mk.inj (Option.some.inj hi)
    exact ⟨s', rfl, h⟩

end Server.Agree

namespace World.Agree

/-- The same of the tasks of all three managers, but for the query of
`saveProfileInfo`, which reads the `id` field. -/
theorem accountAnswerOk (hr : Unread E G) (h : w.Agree E G w') {t : AccountTask}
    (ht : ∀ device user documentID now, t = .queryUserId device user documentID now → .id ∉ G) :
    (accountAnswerOk w t).1.Agree E G (accountAnswerOk w' t).1 ∧
      (Volleyer.accountAnswerOk w t).2 = (Volleyer.accountAnswerOk w' t).2 := by
  obtain ⟨s, device⟩ := w
  obtain ⟨s', device'⟩ := w'
  obtain ⟨hs, hdevice⟩ := id h
  simp only at hs hdevice
  subst hdevice
  cases t with
  | roster d t =>
    obtain ⟨hserver, htasks⟩ := hs.answerOk hr.playerInfo hr.firebaseId hr.myPlayList
      (t.reread (device d).firebaseId)
    exact ⟨⟨hserver, rfl⟩, congrArg (List.map (AccountTask.roster d)) htasks⟩
  | queryUserId d user documentID now =>
    have hid := ht d user documentID now rfl
    have hlength : (s.users.query fun document => document.string .id == some user.id).length =
        (s'.users.query fun document => document.string .id == some user.id).length :=
      (hs.users.query fun _ _ hd => by rw [hd.string hid]).length_eq
    simp only [Volleyer.accountAnswerOk, hlength]
    split_ifs
    · exact ⟨h, rfl⟩
    · exact ⟨h, rfl⟩
    · exact ⟨h, rfl⟩
  | updateUser d user =>
    rcases hs.users.get_cases user.firebaseId with ⟨hd, hd'⟩ | ⟨_, _, hd, hd', -⟩ <;>
      simp only [Volleyer.accountAnswerOk, hd, hd']
    · exact ⟨h, trivial⟩
    · exact ⟨⟨hs.updateUser _ _, rfl⟩, trivial⟩
  | setUser d user documentID now =>
    exact ⟨⟨{ hs with users := hs.users.set documentID (.refl G _) }, rfl⟩, rfl⟩
  | putData d savePath urlString => exact ⟨h, rfl⟩
  | downloadURL d savePath urlString => exact ⟨⟨hs, rfl⟩, rfl⟩
  | setImage documentID urlString => exact ⟨⟨hs.updateUser documentID _, rfl⟩, rfl⟩
  | updateProfileInfo d changedUser =>
    rcases hs.users.get_cases changedUser.firebaseId with ⟨hd, hd'⟩ | ⟨_, _, hd, hd', -⟩ <;>
      simp only [Volleyer.accountAnswerOk, hd, hd']
    · exact ⟨h, trivial⟩
    · exact ⟨⟨hs.updateUser _ _, rfl⟩, trivial⟩
  | removeThisuser d firebaseId =>
    rcases hs.users.get_cases firebaseId with ⟨hd, hd'⟩ | ⟨_, _, hd, hd', -⟩ <;>
      simp only [Volleyer.accountAnswerOk, hd, hd']
    · exact ⟨h, trivial⟩
    · exact ⟨⟨hs.updateUser _ _, rfl⟩, trivial⟩
  | getBlockList d edit documentID userId =>
    rcases hs.users.get_cases documentID with ⟨hd, hd'⟩ | ⟨_, _, hd, hd', hagree⟩ <;>
      simp only [Volleyer.accountAnswerOk, hd, hd']
    · exact ⟨h, trivial⟩
    · rw [hagree.strings hr.blockList]
      exact ⟨h, rfl⟩
  | setBlockList documentID blockList => exact ⟨⟨hs.updateUser documentID _, rfl⟩, rfl⟩

/-- What a call issues is the same, and it keeps the agreement. -/
theorem accountIssue (h : w.Agree E G w') {a : AccountCall} {w₁ : World} {ts : List AccountTask}
    (hi : accountIssue w a = some (w₁, ts)) :
    ∃ w₁', Volleyer.accountIssue w' a = some (w₁', ts) ∧ w₁.Agree E G w₁' := by
  obtain ⟨s, device⟩ := w
  obtain ⟨s', device'⟩ := w'
  obtain ⟨hs, hdevice⟩ := id h
  simp only at hs hdevice
  subst hdevice
  cases a with
  | roster d a =>
    obtain ⟨hasked, s₁, ts₁, hissue, rfl, rfl⟩ := accountIssue_roster.1 hi
    obtain ⟨s₁', hissue', hagree⟩ := hs.issue hissue
    exact ⟨_, accountIssue_roster.2 ⟨hasked, s₁', ts₁, hissue', rfl, rfl⟩, ⟨hagree, rfl⟩⟩
  | saveProfileInfo d user documentID now =>
    obtain ⟨hnew, heq⟩ := Option.ite_none_left_eq_some.1 hi
    obtain ⟨rfl, rfl⟩ := Prod.mk.inj (Option.some.inj heq)
    have hnew' : documentID ∉ s'.allocated := hs.allocated ▸ hnew
    exact ⟨_, Option.ite_none_left_eq_some.2 ⟨hnew', rfl⟩,
      ⟨{ hs with allocated := congrArg (List.cons _) hs.allocated }, rfl⟩⟩
  | userDefaults | saveProfileImage | updateProfileInfo | removeThisuser | addToBlocklist
  | removeFromBlocklist =>
    obtain ⟨rfl, rfl⟩ := Prod.mk.inj (Option.some.inj hi)
    exact ⟨_, rfl, ⟨hs, rfl⟩⟩

end World.Agree

end Volleyer
