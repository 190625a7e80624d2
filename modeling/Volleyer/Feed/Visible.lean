import Volleyer.Feed.Delivery
import Volleyer.Session.Model

/-!
# The home feed — a play that has just been posted

`addData` compares the start of a play with its end, `getPublishPlay` with
the clock. Neither does the other's test, so a post that was accepted is
shown exactly where it starts in a later second.
-/

namespace Volleyer

open FinderDataManager

variable {texts : Texts} {form form' : EstablishFinder} {isPublishButton : Bool}
variable {documentID : String} {now decodedAt : Date}

/-! ## What was saved is what is decoded -/

theorem decodeLackAmount_value (l : LackAmount) : decodeLackAmount l.value.asIntDict = l := rfl

/-- **The play a saved one is read back as**: its finder is its roster. -/
def savedPlay (play : Play) (documentID : String) : Play :=
  { play with
    id := documentID
    playerInfo := [play.finderId]
    levelFilter := false
    followerListId := [] }

/-- A saved play is decoded as it was saved. -/
theorem decodePlay_savePlayData (play : Play) :
    decodePlay documentID (Doc.setData (savePlayData play documentID now)) decodedAt =
      savedPlay play documentID := by
  have hlevels : (Doc.setData (savePlayData play documentID now)).intDict .levelRange =
      play.levelRange.value.asIntDict := rfl
  have hlack : (Doc.setData (savePlayData play documentID now)).intDict .lackAmount =
      play.lackAmount.value.asIntDict := rfl
  have hroster : (Doc.setData (savePlayData play documentID now)).strings .playerInfo =
      some [play.finderId] := Value.asStrings_strings _
  rw [decodePlay, hlevels, hlack, hroster, LevelRange.decodeLevelRange_value,
    decodeLackAmount_value]
  rfl

/-! ## What the form saves -/

namespace EstablishFinder

/-- **A form is posted**: `addData` accepts it, and its play is new, so that
it is saved with the message of success. -/
def Posts (texts : Texts) (form : EstablishFinder) (isPublishButton : Bool)
    (form' : EstablishFinder) : Prop :=
  form.addData texts isPublishButton = (form', true) ∧ form.thisPlay.id = ""

/-- Saving leaves who posts the play, and when it starts and ends. -/
theorem addData_keeps (h : form.addData texts isPublishButton = (form', true)) :
    form'.thisPlay.finderId = form.thisPlay.finderId ∧
      form'.thisPlay.startTime = form.thisPlay.startTime ∧
      form'.thisPlay.endTime = form.thisPlay.endTime := by
  obtain ⟨-, -, -, rfl⟩ := addData_eq_true h
  rw [publish_eq]
  exact ⟨rfl, rfl, rfl⟩

end EstablishFinder

/-! ## Whether it is shown -/

/-- The document of a post, as the feed of second `now` examines it. -/
def posted (play : Play) (documentID : String) (now decodedAt : Date) : Examined where
  documentID := documentID
  document := Doc.setData (savePlayData play documentID now)
  now := now
  decodedAt := decodedAt

/-- **A post is to be shown** where it starts in a later second. -/
theorem shown_posted_iff {b : List String} {play : Play} :
    (posted play documentID now decodedAt).Shown b ↔
      now.int64 < play.startTime.seconds ∧ play.finderId ∉ b := by
  have hstart : (posted play documentID now decodedAt).startTime = some play.startTime := rfl
  have hfinder : (posted play documentID now decodedAt).finderId = play.finderId := rfl
  simp only [Examined.Shown, hstart, hfinder, Option.mem_some_iff, exists_eq_left']
  exact Iff.rfl

/-- **An accepted post is visible** exactly where it starts in a later
second than it is read. -/
theorem post_visible_iff {user : Doc UserTitle} {documents : List Examined}
    (hpost : form.Posts texts isPublishButton form')
    (hposted : posted form'.thisPlay documentID now decodedAt ∈ documents)
    (hids : (documents.map Examined.documentID).Nodup)
    (hothers : ∀ e ∈ documents, e.documentID ≠ documentID → e.startTime.isSome)
    (hblock : form.thisPlay.finderId ∉ myBlockList user) :
    (∃ plays ∈ getPublishPlay (.found user) (.found documents),
        savedPlay form'.thisPlay documentID ∈ plays) ↔
      now.int64 < form.thisPlay.startTime.seconds := by
  obtain ⟨hfinder, hstart, -⟩ := EstablishFinder.addData_keeps hpost.1
  have hall : documents ≠ [] ∧ ∀ e ∈ documents, e.startTime.isSome := by
    refine ⟨List.ne_nil_of_mem hposted, fun e he => ?_⟩
    by_cases hid : e.documentID = documentID
    · have heq : e = posted form'.thisPlay documentID now decodedAt :=
        List.inj_on_of_nodup_map hids he hposted hid
      rw [heq]
      rfl
    · exact hothers e he hid
  have hshown : (posted form'.thisPlay documentID now decodedAt).Shown (myBlockList user) ↔
      now.int64 < form.thisPlay.startTime.seconds := by
    rw [shown_posted_iff, hfinder, hstart]
    exact and_iff_left hblock
  rw [getPublishPlay_eq, if_pos hall, ← hshown]
  simp only [List.mem_singleton, exists_eq_left, (perm_sortByStartTime _).mem_iff, shownPlays,
    List.mem_map, List.mem_filter, decide_eq_true_eq]
  constructor
  · rintro ⟨e, ⟨he, hs⟩, hplay⟩
    have hid : e.documentID = documentID := congrArg Play.id hplay
    have heq : e = posted form'.thisPlay documentID now decodedAt :=
      List.inj_on_of_nodup_map hids he hposted hid
    rwa [heq] at hs
  · exact fun hs => ⟨_, ⟨hposted, hs⟩, decodePlay_savePlayData _⟩

namespace Sample

/-- A new play of `f`, filled in at second 2000 to start at second
`start`. -/
def filledPlay (start : ℤ) : EstablishFinder where
  startTimeTextField := "start"
  endTimeTextField := "end"
  placeTextField := "gym"
  priceTextField := "100"
  typeTextField := "男網混排"
  maleTextField := "1"
  femaleTextField := "1"
  thisPlay := { blankPlay (some "f") ⟨2000, 0⟩ with startTime := ⟨start, 0⟩, endTime := ⟨3000, 0⟩ }

/-- Such a form, as `addData` leaves it. -/
def savedForm (start : ℤ) : EstablishFinder := ((filledPlay start).publish true).read

/-- It is accepted whether its start is over or to come. -/
theorem posts_filledPlay : (filledPlay 1000).Posts plainTexts true (savedForm 1000) ∧
    (filledPlay 2500).Posts plainTexts true (savedForm 2500) := by
  refine ⟨⟨?_, rfl⟩, ⟨?_, rfl⟩⟩ <;> rfl

/-- Its document, read at second 2000. -/
def postedPlay (start : ℤ) : Examined :=
  posted (savedForm start).thisPlay "p" ⟨2000, 0⟩ ⟨2000, 0⟩

end Sample

/-- A post that starts in the past is accepted and shown to no one. -/
theorem post_visible_fails : ¬∀ (texts : Texts) (form form' : EstablishFinder)
    (isPublishButton : Bool) (documentID : String) (now decodedAt : Date) (user : Doc UserTitle)
    (documents : List Examined), form.Posts texts isPublishButton form' →
    posted form'.thisPlay documentID now decodedAt ∈ documents →
    (documents.map Examined.documentID).Nodup →
    (∀ e ∈ documents, e.documentID ≠ documentID → e.startTime.isSome) →
    form.thisPlay.finderId ∉ myBlockList user →
    ∃ plays ∈ getPublishPlay (.found user) (.found documents),
      savedPlay form'.thisPlay documentID ∈ plays := by
  intro hall
  have hdelivered : getPublishPlay (.found (Doc.setData []))
      (.found [Sample.postedPlay 1000]) = [[]] := by decide
  obtain ⟨plays, hplays, hmem⟩ := hall Sample.plainTexts _ _ true "p" ⟨2000, 0⟩ ⟨2000, 0⟩
    (Doc.setData []) [Sample.postedPlay 1000] Sample.posts_filledPlay.1 List.mem_cons_self
    (List.nodup_singleton _) (fun e he hne => absurd (List.mem_singleton.1 he ▸ rfl) hne)
    List.not_mem_nil
  rw [hdelivered] at hplays
  obtain rfl := List.mem_singleton.1 hplays
  cases hmem

theorem post_visible_iff_future : ∃ plays ∈ getPublishPlay (.found (Doc.setData []))
    (.found [Sample.postedPlay 2500]), savedPlay (Sample.savedForm 2500).thisPlay "p" ∈ plays := by
  have hposted : posted (Sample.savedForm 2500).thisPlay "p" ⟨2000, 0⟩ ⟨2000, 0⟩ ∈
      [Sample.postedPlay 2500] := List.mem_cons_self
  exact (post_visible_iff Sample.posts_filledPlay.2 hposted (List.nodup_singleton _)
    (fun e he hne => absurd (List.mem_singleton.1 he ▸ rfl) hne) List.not_mem_nil).2 (by decide)

end Volleyer
