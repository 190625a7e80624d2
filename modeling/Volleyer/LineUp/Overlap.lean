import Volleyer.Common.Members
import Volleyer.LineUp.Model

/-!
# Lining up — calls that overlap

Any number of users edit one court's list, each with one call. A call
reads the list and writes it back edited, so `Edits` says what becomes of
it: the list is a chain of edits, and it holds them all exactly when
every write landed on the list its read saw.
-/

namespace Volleyer

/-- The ids a court lists. -/
def PlayOneCourts.userIds (s : PlayOneCourts) (court : String) : List String :=
  ((s.get court).map finderIds).getD []

/-- An edit and the user it is of. -/
abbrev UserEdit := FinderEdit × String

/-- The edit of a user's call, made on a list. -/
def UserEdit.make (x : UserEdit) (userIds : List String) : List String := x.1.apply x.2 userIds

namespace CourtEditTask

/-- The edit of a court a task in flight is still to make. -/
def owes (court : String) : CourtEditTask → Option UserEdit
  | .getDocument edit finder court' => if court' = court then some (edit, finder) else none
  | .updateData edit finder court' _ => if court' = court then some (edit, finder) else none

/-- The list of a court a task in flight is going to write. -/
def writes (court : String) : CourtEditTask → Option (List String)
  | .getDocument .. => none
  | .updateData _ _ court' userIds => if court' = court then some userIds else none

end CourtEditTask

/-- The edit a call asks for, if it is a court's. -/
def CourtEditCall.asks (court : String) : CourtEditCall → Option UserEdit
  | .addFinderOFACourt finder court' => if court' = court then some (.add, finder) else none
  | .deleteFinderOFACourt finder court' => if court' = court then some (.delete, finder) else none

/-- The edits of a court the calls of a run are for. -/
def editsOf (court : String) (evs : List (Event CourtEditCall Reply)) : List UserEdit :=
  Edits.asked (CourtEditCall.asks court) evs

/-- Every answer succeeds. -/
def Succeeds (_ : Config PlayOneCourts CourtEditTask) : Event CourtEditCall Reply → Prop
  | .call _ => True
  | .answer _ r => r = .ok

/-- **A write of a court's list lands on the list its read saw.** -/
def WritesEditOfList (court : String) (c : Config PlayOneCourts CourtEditTask) :
    Event CourtEditCall Reply → Prop
  | .call _ => True
  | .answer n _ => ∀ edit finder userIds,
      c.pending[n]? = some (.updateData edit finder court userIds) →
      userIds = edit.apply finder (c.state.userIds court)

/-- **Nobody lost, nobody twice**: the users of a list who did not delete
themselves and those who added themselves, each once. -/
structure LinedUp (edits : List UserEdit) (before after : List String) : Prop where
  mem : ∀ u, u ∈ after ↔ u ∈ before ∧ (.delete, u) ∉ edits ∨ (.add, u) ∈ edits
  nodup : after.Nodup

/-! ## The edits -/

@[simp] theorem apply_add (finder : String) (userIds : List String) :
    FinderEdit.add.apply finder userIds = userIds ++ [finder] := rfl

@[simp] theorem apply_delete (finder : String) (userIds : List String) :
    FinderEdit.delete.apply finder userIds = userIds.erase finder := by
  rw [List.erase_eq_eraseIdx, FinderEdit.apply]
  cases userIds.idxOf? finder <;> rfl

/-- A written list is read back as it was written. -/
@[simp] theorem finderIds_updateData (document : Doc CourtTitle) (userIds : List String) :
    finderIds (document.updateData [(.finderIds, .strings userIds)]) = userIds := by
  simp [finderIds]

namespace PlayOneCourts

variable {s : PlayOneCourts} {court : String}

theorem userIds_of_get {document : Doc CourtTitle} (h : s.get court = some document) :
    s.userIds court = finderIds document := by
  rw [userIds, h, Option.map_some, Option.getD_some]

/-- What a write leaves in a court's list. -/
theorem userIds_modify (court' : String) (ids : List String) (h : (s.get court').isSome) :
    userIds (s.modify court' (·.updateData [(.finderIds, .strings ids)])) court =
      if court = court' then ids else s.userIds court := by
  obtain ⟨document, hdocument⟩ := Option.isSome_iff_exists.1 h
  by_cases hc : court = court'
  · subst hc
    rw [if_pos rfl, userIds_of_get ((Collection.get_modify_self ..).trans
      (congrArg (Option.map _) hdocument)), finderIds_updateData]
  · rw [if_neg hc, userIds, Collection.get_modify_of_ne _ _ hc, userIds]

end PlayOneCourts

/-- The edits of a list of users. -/
theorem members_make : Members UserEdit.make (fun x => x.1 = .add) Prod.snd where
  append {x} hx userIds := by
    obtain ⟨edit, u⟩ := x
    obtain rfl : edit = .add := hx
    exact apply_add u userIds
  erase {x} hx userIds := by
    obtain ⟨edit, u⟩ := x
    cases edit with
    | add => exact absurd rfl hx
    | delete => exact apply_delete u userIds

section

variable {w : List UserEdit} {before after : List String}

/-- **A chain of different users' edits loses nobody.** -/
theorem linedUp_chain (hbefore : before.Nodup) (husers : (w.map Prod.snd).Nodup)
    (hchanges : ∀ x ∈ w, Members.Changes (fun x : UserEdit => x.1 = .add) Prod.snd before x) :
    LinedUp w before (Edits.chain UserEdit.make before w) := by
  obtain ⟨hnodup, hmade⟩ := members_make.chain_of_nodup hbefore husers hchanges
  refine ⟨fun u => ?_, hnodup⟩
  by_cases hu : u ∈ w.map Prod.snd
  · obtain ⟨⟨edit, v⟩, hx, rfl⟩ := List.mem_map.1 hu
    have hdone := hmade _ hx
    cases edit with
    | add =>
      have hmem : v ∈ Edits.chain UserEdit.make before w := by
        by_contra hnot
        exact hdone (iff_of_true rfl hnot)
      exact iff_of_true hmem (Or.inr hx)
    | delete =>
      have hadd : (.add, v) ∉ w := fun hadd => by
        cases List.inj_on_of_nodup_map husers hx hadd rfl
      refine iff_of_false (fun hmem => hdone ?_) ?_
      · exact iff_of_false nofun (not_not.2 hmem)
      · rintro (⟨-, hnot⟩ | hmem)
        · exact hnot hx
        · exact hadd hmem
  · have hne : ∀ edit, (edit, u) ∉ w := fun edit hmem =>
      hu (List.mem_map_of_mem (f := Prod.snd) hmem)
    rw [members_make.mem_chain_of_not_mem hu]
    simp [hne]

/-- Edits in another order are made on as many users. -/
theorem LinedUp.of_perm {w' : List UserEdit} (h : LinedUp w before after) (hp : w.Perm w') :
    LinedUp w' before after where
  mem u := by rw [h.mem u, hp.mem_iff, hp.mem_iff]
  nodup := h.nodup

/-- A list that holds some edits has none of them to be made. -/
theorem LinedUp.not_changes (h : LinedUp w before after) (husers : (w.map Prod.snd).Nodup)
    {x : UserEdit} (hx : x ∈ w) :
    ¬Members.Changes (fun x : UserEdit => x.1 = .add) Prod.snd after x := by
  obtain ⟨edit, u⟩ := x
  intro hchanges
  cases edit with
  | add => exact hchanges.1 rfl ((h.mem u).2 (Or.inr hx))
  | delete =>
    have hmem : u ∈ after := by
      by_contra hnot
      cases hchanges.2 hnot
    rcases (h.mem u).1 hmem with ⟨-, hnot⟩ | hadd
    · exact hnot hx
    · cases List.inj_on_of_nodup_map husers hx hadd rfl

end

/-! ## The machine edits a court's list -/

variable {court : String} {document : Doc CourtTitle} {playOneCourts : PlayOneCourts}

/-- **The machine edits each court's list.** -/
theorem edits_court (court : String) :
    Edits courtEdits .ok (fun s => (s.get court).isSome) (fun _ => True)
      (fun s => s.userIds court) UserEdit.make (CourtEditTask.owes court)
      (CourtEditTask.writes court) where
  good {s t} hs _ := by
    refine ⟨?_, fun _ _ => trivial⟩
    cases t with
    | getDocument edit finder court' =>
      simp only [courtEdits, courtEditAnswer, courtEditAnswerOk]
      cases s.get court' <;> exact hs
    | updateData edit finder court' ids =>
      simp only [courtEdits, courtEditAnswer, courtEditAnswerOk, Collection.get_modify]
      split
      · next h => rw [Option.isSome_map, ← h, hs]
      · exact hs
  debt {t b} _ hb := by
    cases t with
    | getDocument => cases hb
    | updateData edit finder court' ids =>
      obtain ⟨hcourt, -⟩ := Option.ite_none_right_eq_some.1 hb
      exact ⟨(edit, finder), if_pos hcourt⟩
  read {s t} hs _ hwt := by
    cases t with
    | getDocument edit finder court' =>
      simp only [courtEdits, courtEditAnswer, courtEditAnswerOk]
      cases hget : s.get court' with
      | none => exact ⟨rfl, List.nil_sublist _, fun _ ht' => absurd ht' List.not_mem_nil⟩
      | some document =>
        refine ⟨rfl, ?_, fun t' ht' b hb => ?_⟩
        · by_cases hc : court' = court
          · simp [CourtEditTask.owes, hc]
          · simp [CourtEditTask.owes, hc]
        · obtain rfl := List.mem_singleton.1 ht'
          obtain ⟨rfl, hids⟩ := Option.ite_none_right_eq_some.1 hb
          obtain rfl := Option.some.inj hids
          exact ⟨(edit, finder), if_pos rfl, by rw [UserEdit.make,
            PlayOneCourts.userIds_of_get hget]⟩
    | updateData edit finder court' ids =>
      have hne : court ≠ court' := by
        rintro rfl
        simp [CourtEditTask.writes] at hwt
      refine ⟨?_, List.nil_sublist _, fun _ ht' => absurd ht' List.not_mem_nil⟩
      simp only [courtEdits, courtEditAnswer, courtEditAnswerOk, PlayOneCourts.userIds,
        Collection.get_modify_of_ne _ _ hne]
  write {s t b} hs _ hwt := by
    cases t with
    | getDocument => cases hwt
    | updateData edit finder court' ids =>
      obtain ⟨rfl, hb⟩ := Option.ite_none_right_eq_some.1 hwt
      obtain rfl := Option.some.inj hb
      refine ⟨Or.inl ?_, rfl, fun _ ht' => absurd ht' List.not_mem_nil⟩
      exact (PlayOneCourts.userIds_modify court' ids hs).trans (if_pos rfl)

/-- Nothing fails, so no edit lapses and every write is made. -/
theorem sure_court (court : String) :
    Edits.Sure courtEdits .ok (fun s => (s.get court).isSome) (fun _ => True)
      (fun s => s.userIds court) (CourtEditTask.owes court) (CourtEditTask.writes court) where
  pass {s t} hs _ hwt := by
    cases t with
    | getDocument edit finder court' =>
      simp only [courtEdits, courtEditAnswer, courtEditAnswerOk]
      by_cases hc : court' = court
      · subst hc
        obtain ⟨document, hdocument⟩ := Option.isSome_iff_exists.1 hs
        simp [CourtEditTask.owes, hdocument]
      · cases s.get court' <;> simp [CourtEditTask.owes, hc]
    | updateData edit finder court' ids =>
      have hne : court' ≠ court := by
        rintro rfl
        simp [CourtEditTask.writes] at hwt
      simp [courtEdits, courtEditAnswer, courtEditAnswerOk, CourtEditTask.owes, hne]
  land {s t b} hs _ hwt := by
    cases t with
    | getDocument => cases hwt
    | updateData edit finder court' ids =>
      obtain ⟨rfl, hb⟩ := Option.ite_none_right_eq_some.1 hwt
      obtain rfl := Option.some.inj hb
      exact (PlayOneCourts.userIds_modify court' ids hs).trans (if_pos rfl)

theorem calls_court (court : String) :
    Edits.Calls courtEdits .ok (fun s => (s.get court).isSome) (fun _ => True)
      (fun s => s.userIds court) (CourtEditTask.owes court) (CourtEditTask.writes court)
      (CourtEditCall.asks court) Succeeds where
  reply h := h
  call {c a s ts} _ hs hi := by
    cases a with
    | addFinderOFACourt finder court' =>
      obtain ⟨rfl, rfl⟩ := Prod.mk.inj (Option.some.inj hi)
      refine ⟨hs, rfl, ?_, fun t ht => ⟨trivial, by rw [List.mem_singleton.1 ht]; rfl⟩⟩
      by_cases hc : court' = court <;> simp [CourtEditTask.owes, CourtEditCall.asks, hc]
    | deleteFinderOFACourt finder court' =>
      obtain ⟨rfl, rfl⟩ := Prod.mk.inj (Option.some.inj hi)
      refine ⟨hs, rfl, ?_, fun t ht => ⟨trivial, by rw [List.mem_singleton.1 ht]; rfl⟩⟩
      by_cases hc : court' = court <;> simp [CourtEditTask.owes, CourtEditCall.asks, hc]

theorem writesEditOfList_iff {c : Config PlayOneCourts CourtEditTask}
    {e : Event CourtEditCall Reply} :
    WritesEditOfList court c e ↔ Edits.LandsOnRead (fun s => s.userIds court) UserEdit.make
      (CourtEditTask.owes court) (CourtEditTask.writes court) c e := by
  cases e with
  | call a => exact Iff.rfl
  | answer n r =>
    constructor
    · intro h t b ht hb
      cases t with
      | getDocument => cases hb
      | updateData edit finder court' ids =>
        obtain ⟨rfl, hids⟩ := Option.ite_none_right_eq_some.1 hb
        obtain rfl := Option.some.inj hids
        exact ⟨(edit, finder), if_pos rfl, h _ _ _ ht⟩
    · intro h edit finder ids ht
      obtain ⟨x, hx, hids⟩ := h _ ids ht (if_pos rfl)
      have howes : some (edit, finder) = some x := (if_pos rfl).symm.trans hx
      obtain rfl := Option.some.inj howes
      exact hids

/-- **Calls that overlap.** Different users add themselves to a court's
list or, being in it, delete themselves, with calls whose reads and
writes come in any order and succeed; calls for other courts run beside
them. When all have run, the list is right exactly when every write of it
landed on the list its read saw. -/
theorem linedUp_iff {evs : List (Event CourtEditCall Reply)}
    {c : Config PlayOneCourts CourtEditTask}
    (hcourt : playOneCourts.get court = some document) (hnodup : (finderIds document).Nodup)
    (husers : ((editsOf court evs).map Prod.snd).Nodup)
    (hlisted : ∀ x ∈ editsOf court evs, x.2 ∈ finderIds document ↔ x.1 = .delete)
    (hrun : courtEdits.Run Succeeds (Config.start playOneCourts) evs c) (hdone : c.pending = []) :
    LinedUp (editsOf court evs) (finderIds document) (c.state.userIds court) ↔
      courtEdits.Run (WritesEditOfList court) (Config.start playOneCourts) evs c := by
  have hstart := PlayOneCourts.userIds_of_get hcourt
  have hchanges : ∀ x ∈ editsOf court evs,
      Members.Changes (fun x : UserEdit => x.1 = .add) Prod.snd (finderIds document) x := by
    rintro ⟨edit, u⟩ hx
    have hmem := hlisted _ hx
    cases edit with
    | add => exact iff_of_true rfl fun h => by cases hmem.1 h
    | delete => exact iff_of_false nofun (not_not.2 (hmem.2 rfl))
  have hlands : courtEdits.Run (WritesEditOfList court) (Config.start playOneCourts) evs c ↔
      courtEdits.Run (Edits.LandsOnRead (fun s => s.userIds court) UserEdit.make
        (CourtEditTask.owes court) (CourtEditTask.writes court))
        (Config.start playOneCourts) evs c :=
    ⟨fun h => h.mono fun _ _ => writesEditOfList_iff.1,
      fun h => h.mono fun _ _ => writesEditOfList_iff.2⟩
  rw [hlands]
  refine (edits_court court).complete_iff (sure_court court) (calls_court court) rfl
    (Option.isSome_iff_exists.2 ⟨document, hcourt⟩) hrun hdone
    (P := LinedUp (editsOf court evs) (finderIds document)) (fun w hw => ?_) fun w hw => ?_
  · rw [Config.start_state, hstart]
    refine (linedUp_chain hnodup ((hw.map _).nodup_iff.2 husers) fun x hx => ?_).of_perm hw
    exact hchanges x (hw.mem_iff.1 hx)
  · rw [Config.start_state, hstart] at hw
    exact members_make.length_le_of_chain husers hchanges fun x hx => hw.not_changes husers hx

namespace Sample

/-- A court where `"u"` waits. -/
def courtOfU : PlayOneCourts :=
  ⟨[("A", Doc.setData [(.finderIds, .strings ["u"])])], by simp⟩

/-- `"u"` leaves the court while `"v"` and `"w"` line up, in the order of
the answers. -/
def threeEdits (answers : List ℕ) : List (Event CourtEditCall Reply) :=
  [.call (.deleteFinderOFACourt "u" "A"), .call (.addFinderOFACourt "v" "A"),
    .call (.addFinderOFACourt "w" "A")] ++ answers.map fun n => .answer n .ok

end Sample

/-- Three users, one after the other. -/
theorem linedUp_threeEdits : ∃ c, courtEdits.Run Succeeds (Config.start Sample.courtOfU)
    (Sample.threeEdits [0, 2, 0, 1, 0, 0]) c ∧ c.pending = [] ∧
    LinedUp (editsOf "A" (Sample.threeEdits [0, 2, 0, 1, 0, 0])) ["u"] (c.state.userIds "A") := by
  have hrun : courtEdits.Run Succeeds (Config.start Sample.courtOfU)
      (Sample.threeEdits [0, 2, 0, 1, 0, 0]) _ :=
    .of_exec ⟨trivial, trivial, trivial, rfl, rfl, rfl, rfl, rfl, rfl, trivial⟩ rfl
  have hcourt : Sample.courtOfU.get "A" = some (Doc.setData [(.finderIds, .strings ["u"])]) := rfl
  refine ⟨_, hrun, rfl, (linedUp_iff hcourt (by decide) (by decide) (by decide) hrun
    rfl).2 (.of_exec ⟨trivial, trivial, trivial, ?_, ?_, ?_, ?_, ?_, ?_, trivial⟩ rfl)⟩
  all_goals
    rintro edit finder ids ⟨⟩
    try rfl

/-- **Users are lost where two calls overlap**: both read the list, and
the second write drops the user of the first. -/
theorem not_linedUp : ¬∀ (playOneCourts : PlayOneCourts) (court : String)
    (document : Doc CourtTitle) (evs : List (Event CourtEditCall Reply))
    (c : Config PlayOneCourts CourtEditTask),
    playOneCourts.get court = some document → (finderIds document).Nodup →
    ((editsOf court evs).map Prod.snd).Nodup →
    (∀ x ∈ editsOf court evs, x.2 ∈ finderIds document ↔ x.1 = .delete) →
    courtEdits.Run Succeeds (Config.start playOneCourts) evs c → c.pending = [] →
    LinedUp (editsOf court evs) (finderIds document) (c.state.userIds court) := by
  intro h
  have hrun : courtEdits.Run Succeeds (Config.start Sample.courtOfU)
      (Sample.threeEdits [0, 0, 0, 0, 0, 0]) _ :=
    .of_exec ⟨trivial, trivial, trivial, rfl, rfl, rfl, rfl, rfl, rfl, trivial⟩ rfl
  have hlined := h _ "A" _ _ _ rfl (by decide) (by decide) (by decide) hrun rfl
  have hv := (hlined.mem "v").2 (Or.inr (by decide))
  exact absurd hv (by decide)

end Volleyer
