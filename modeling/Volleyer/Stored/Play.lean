import Volleyer.Common.Codec
import Volleyer.Common.Tagged
import Volleyer.Feed.Visible
import Volleyer.Roster.Sample

/-!
# Stored plays — what is saved, and what is read back

`savePlay` writes fourteen fields by hand, `updatePlay` seven of them, and
the decoders build a `Play` of eleven: the other two keep their defaults,
whatever was saved. So a play is read back as it was saved and updated
exactly where it holds the defaults in these two.
-/

namespace Volleyer

open FinderDataManager

variable {s : Server} {p : Play} {i : String} {now decodedAt : Date}
variable {c₁ c : Config Server (Call × Task)} {evs : List (Event Call Reply)}

/-! ## The decoders and the update -/

/-- A snapshot of a missing document holds no data. -/
def FinderDataManager.decodePlayDS (documentID : String) (document : Option (Doc PlayTitle))
    (now : Date) : Play :=
  decodePlay documentID (document.getD fun _ => none) now

/-- **What an update changes of a play.** -/
def Play.updated (play changed : Play) : Play :=
  { play with
    startTime := changed.startTime
    endTime := changed.endTime
    place := changed.place
    price := changed.price
    type := changed.type
    levelRange := changed.levelRange
    lackAmount := changed.lackAmount }

/-- **What a play is to be read back as**: its own id and its finder's
roster, and the form of the last update. -/
def Play.asSaved (play : Play) (documentID : String) (last : Option Play) : Play :=
  let saved := { play with id := documentID, playerInfo := [play.finderId] }
  last.elim saved saved.updated

/-- An update is read back as one. -/
theorem decodePlay_updatePlayData (d : Doc PlayTitle) (q : Play) :
    decodePlay i (d.updateData (updatePlayData q)) decodedAt =
      (decodePlay i d decodedAt).updated q := by
  have hlevels : (d.updateData (updatePlayData q)).intDict .levelRange =
      q.levelRange.value.asIntDict := rfl
  have hlack : (d.updateData (updatePlayData q)).intDict .lackAmount =
      q.lackAmount.value.asIntDict := rfl
  rw [decodePlay, hlevels, hlack, LevelRange.decodeLevelRange_value, decodeLackAmount_value]
  rfl

theorem codec_updatePlay (i : String) (decodedAt : Date) :
    Codec (fun d => decodePlay i d decodedAt) (fun d q => d.updateData (updatePlayData q))
      Play.updated where
  decode_write d q := decodePlay_updatePlayData d q
  put_put _ _ _ := rfl

/-- What is read back differs from what is to be read back in the two
fields no decoder reads. -/
theorem savedPlay_updated_eq_iff (play : Play) (last : Option Play) :
    last.elim (savedPlay play i) (savedPlay play i).updated = play.asSaved i last ↔
      play.levelFilter = false ∧ play.followerListId = [] := by
  cases last with
  | none =>
    simp only [Option.elim_none, savedPlay, Play.asSaved, Play.mk.injEq, true_and]
    exact and_congr eq_comm eq_comm
  | some q =>
    simp only [Option.elim_some, savedPlay, Play.updated, Play.asSaved, Play.mk.injEq, true_and]
    exact and_congr eq_comm eq_comm

/-! ## Runs of updates -/

/-- A call of `updatePlay` on the play `i`. -/
def Updates (i : String) : Call → Prop
  | .updatePlay play => play.id = i
  | _ => False

/-- The play an answer has updated with. -/
def updateMade : Server × (Call × Task) × Reply → Option Play
  | (_, (.updatePlay play, _), .ok) => some play
  | _ => none

/-- **The updates of a run that succeeded**, in order. -/
def updatesMade (c₁ : Config Server (Call × Task)) (evs : List (Event Call Reply)) : List Play :=
  (roster.tagged.answered c₁ evs).filterMap updateMade

/-- The tasks of a saved play and its updates: those of `savePlay` that
are left write no play. -/
def OfUpdates (i : String) : Call × Task → Prop
  | (.savePlay .., .getUsers ..) => True
  | (.savePlay .., .setMyPlayList ..) => True
  | (.updatePlay play, t) => play.id = i ∧ t = .updatePlay i (updatePlayData play)
  | _ => False

/-- What an answer to such a task leaves in the play's document. -/
theorem get_answer_of_ofUpdates {a : Call} {t : Task} {r : Reply} {d : Doc PlayTitle}
    (h : OfUpdates i (a, t)) (hd : s.plays.get i = some d) :
    (answer s t r).1.plays.get i = some ((updateMade (s, (a, t), r)).elim d
      fun q => d.updateData (updatePlayData q)) := by
  cases r with
  | failed =>
    have hnone : updateMade (s, (a, t), .failed) = none := by
      cases a <;> rfl
    rw [hnone]
    exact hd
  | ok =>
    cases a with
    | savePlay play j now =>
      cases t with
      | getUsers | setMyPlayList => exact hd
      | _ => exact h.elim
    | updatePlay play =>
      obtain ⟨rfl, rfl⟩ := h
      show (s.plays.modify play.id _).get play.id = _
      rw [Collection.get_modify_self, hd]
      rfl
    | _ => exact h.elim

/-- And such tasks put in flight only such tasks. -/
theorem ofUpdates_of_mem_answer {a : Call} {t t' : Task} {r : Reply} (h : OfUpdates i (a, t))
    (ht : t' ∈ (answer s t r).2) : OfUpdates i (a, t') := by
  cases r with
  | failed => cases ht
  | ok =>
    cases a with
    | savePlay play j now =>
      cases t with
      | getUsers edit playId userId =>
        obtain ⟨document, -, hwrite⟩ := List.mem_filterMap.1 ht
        obtain ⟨l, -, rfl⟩ := Option.map_eq_some_iff.1 hwrite
        trivial
      | setMyPlayList => cases ht
      | _ => exact h.elim
    | updatePlay play =>
      obtain ⟨-, rfl⟩ := h
      cases ht
    | _ => exact h.elim

/-- **What a run of updates leaves to be read.** -/
theorem decodePlay_of_run {d₀ : Doc PlayTitle} (h₀ : c₁.state.plays.get i = some d₀)
    (htasks : ∀ x ∈ c₁.pending, OfUpdates i x)
    (hrun : roster.tagged.Run (Machine.Calls (Updates i)) c₁ evs c) (decodedAt : Date) :
    ∃ d, c.state.plays.get i = some d ∧ decodePlay i d decodedAt =
      (updatesMade c₁ evs).getLast?.elim (decodePlay i d₀ decodedAt)
        (decodePlay i d₀ decodedAt).updated := by
  have hissue : ∀ {c : Config Server (Call × Task)} {a s ts},
      Machine.Calls (Updates i) c (.call a : Event Call Reply) →
      roster.tagged.issue c.state a = some (s, ts) →
      s = c.state ∧ ∀ x ∈ ts, OfUpdates i x := by
    intro c a s ts hok hi
    obtain ⟨⟨s', ts'⟩, hcall, heq⟩ := Option.map_eq_some_iff.1 hi
    have ha := hok a rfl
    cases a with
    | updatePlay play =>
      obtain ⟨rfl, rfl⟩ := Prod.mk.inj (Option.some.inj hcall)
      obtain ⟨rfl, rfl⟩ := Prod.mk.inj heq
      refine ⟨rfl, fun x hx => ?_⟩
      obtain rfl := List.mem_singleton.1 hx
      obtain rfl : play.id = i := ha
      exact ⟨rfl, rfl⟩
    | _ => exact ha.elim
  have hstrong := hrun.strengthen (P := fun c => ∀ x ∈ c.pending, OfUpdates i x)
    fun evs c hr => hr.forall_tasks htasks (fun hok hi => (hissue hok hi).2)
      fun {c k r x} hx _ _ x' hx' => by
        obtain ⟨t', ht', rfl⟩ := List.mem_map.1 hx'
        exact ofUpdates_of_mem_answer hx ht'
  refine (codec_updatePlay i decodedAt).run (fun s => s.plays.get i) hstrong h₀
    (fun hok hi => ?_) fun {c k r x d} hok hx hd => ?_
  · rw [(hissue hok.1 hi).1]
  · obtain ⟨a, t⟩ := x
    exact get_answer_of_ofUpdates (hok.2 _ (List.mem_of_getElem? hx)) hd

/-- What a successful `savePlay` leaves stored, and what it leaves in
flight. -/
theorem saved_of_exec
    (hsave : roster.tagged.exec (Config.start s) [.call (.savePlay p i now), .answer 0 .ok] =
      some c₁) :
    c₁.state.plays.get i = some (Doc.setData (savePlayData p i now)) ∧
      ∀ x ∈ c₁.pending, OfUpdates i x := by
  obtain ⟨c, hcall, hrest⟩ := Option.bind_eq_some_iff.1 hsave
  obtain ⟨s', ts, hi, rfl⟩ := Machine.step_call.1 hcall
  obtain ⟨⟨s'', ts'⟩, hissue, heq⟩ := Option.map_eq_some_iff.1 hi
  obtain ⟨-, rfl, rfl⟩ := allocate_eq_some.1 hissue
  obtain ⟨rfl, rfl⟩ := Prod.mk.inj heq
  obtain ⟨c', hanswer, hend⟩ := Option.bind_eq_some_iff.1 hrest
  obtain ⟨t, ht, rfl⟩ := Machine.step_answer.1 hanswer
  obtain rfl := Option.some.inj hend
  obtain rfl := Option.some.inj ht
  refine ⟨Collection.get_set_self _ _ _, fun x hx => ?_⟩
  obtain rfl := List.mem_singleton.1 hx
  trivial

/-- **A play survives the store**, through any run of updates, exactly
where the two fields no decoder reads hold their defaults. -/
theorem play_survives_iff
    (hsave : roster.tagged.exec (Config.start s) [.call (.savePlay p i now), .answer 0 .ok] =
      some c₁)
    (hrun : roster.tagged.Run (Machine.Calls (Updates i)) c₁ evs c) :
    (∃ d, c.state.plays.get i = some d ∧
        decodePlay i d decodedAt = p.asSaved i (updatesMade c₁ evs).getLast? ∧
        decodePlayDS i (some d) decodedAt = p.asSaved i (updatesMade c₁ evs).getLast?) ↔
      p.levelFilter = false ∧ p.followerListId = [] := by
  obtain ⟨hget, htasks⟩ := saved_of_exec hsave
  obtain ⟨d, hd, hread⟩ := decodePlay_of_run hget htasks hrun decodedAt
  rw [decodePlay_savePlayData] at hread
  rw [← savedPlay_updated_eq_iff (i := i) p (updatesMade c₁ evs).getLast?, ← hread]
  constructor
  · rintro ⟨d', hd', heq, -⟩
    obtain rfl := Option.some.inj (hd.symm.trans hd')
    exact heq
  · intro heq
    exact ⟨d, hd, heq, heq⟩

namespace Sample

/-- A play that is filtered by level. -/
def filteredPlay : Play := { play "p" ["f"] with levelFilter := true }

/-- Nothing is stored. -/
def emptyStore : Server := store (users [] (by simp)) (plays [] (by simp)) (requests [] (by simp))

end Sample

/-- A play that is filtered by level is read back as one that is not. -/
theorem play_survives_fails : ¬∀ (s : Server) (p : Play) (i : String) (now decodedAt : Date)
    (evs : List (Event Call Reply)) (c₁ c : Config Server (Call × Task)),
    roster.tagged.exec (Config.start s) [.call (.savePlay p i now), .answer 0 .ok] = some c₁ →
    roster.tagged.Run (Machine.Calls (Updates i)) c₁ evs c →
    ∃ d, c.state.plays.get i = some d ∧
      decodePlay i d decodedAt = p.asSaved i (updatesMade c₁ evs).getLast? ∧
      decodePlayDS i (some d) decodedAt = p.asSaved i (updatesMade c₁ evs).getLast? := by
  intro h
  obtain ⟨d, hd, hread, -⟩ := h Sample.emptyStore Sample.filteredPlay "p" ⟨0, 0⟩ ⟨0, 0⟩ [] _ _ rfl
    .nil
  obtain rfl : Doc.setData (savePlayData Sample.filteredPlay "p" ⟨0, 0⟩) = d := Option.some.inj hd
  exact Bool.noConfusion (congrArg Play.levelFilter hread)

theorem play_survives_iff_updated : ∃ c₁ c, roster.tagged.exec (Config.start Sample.emptyStore)
      [.call (.savePlay (Sample.play "p" []) "q" ⟨1, 0⟩), .answer 0 .ok] = some c₁ ∧
    roster.tagged.exec c₁ [.call (.updatePlay (Sample.play "q" ["u"])), .answer 1 .ok] = some c ∧
    ∃ d, c.state.plays.get "q" = some d ∧
      (decodePlay "q" d ⟨2, 0⟩).playerInfo = ["f"] := by
  have hupdates : ∀ a, .call a ∈
      [(.call (.updatePlay (Sample.play "q" ["u"])) : Event Call Reply), .answer 1 .ok] →
      Updates "q" a := by
    intro a ha
    rcases List.mem_cons.1 ha with ha | ha
    · obtain rfl := Event.call.inj ha
      rfl
    · cases List.mem_singleton.1 ha
  have hsave : roster.tagged.exec (Config.start Sample.emptyStore)
      [.call (.savePlay (Sample.play "p" []) "q" ⟨1, 0⟩), .answer 0 .ok] = some _ := rfl
  refine ⟨_, _, hsave, rfl, ?_⟩
  have hsurvives : ∃ d, _ = some d ∧ decodePlay "q" d ⟨2, 0⟩ = _ ∧ _ :=
    (play_survives_iff hsave (.of_exec (Machine.admits_calls hupdates) rfl)).2 ⟨rfl, rfl⟩
  obtain ⟨d, hd, hread, -⟩ := hsurvives
  exact ⟨d, hd, congrArg Play.playerInfo hread⟩

end Volleyer
