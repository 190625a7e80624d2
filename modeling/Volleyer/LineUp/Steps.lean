import Volleyer.Common.Projects
import Volleyer.LineUp.Model

/-!
# Lining up — what a step does

One inversion lemma for the events of a page and one equation for each
part of the state an answer leaves. The pages run the machine of the
edits (`projects_edits`): a tap that passes is one call of it, and the
requests of the edits are its requests.
-/

namespace Volleyer

variable {s s' : PlayOneApp} {a : PlayOneCall} {ts : List PlayOneTask}

/-! ## The calls of `getPlayOneCourts` -/

@[simp] theorem courtsAnswerOk_playOneCourts (s : Courts) (t : CourtsTask) :
    (courtsAnswerOk s t).1.playOneCourts = s.playOneCourts := by
  cases t with
  | getCourts => rfl
  | getUser k position document i userId =>
    simp only [courtsAnswerOk]
    cases s.calls[k]? <;> rfl

@[simp] theorem courtsAnswerOk_users (s : Courts) (t : CourtsTask) :
    (courtsAnswerOk s t).1.users = s.users := by
  cases t with
  | getCourts => rfl
  | getUser k position document i userId =>
    simp only [courtsAnswerOk]
    cases s.calls[k]? <;> rfl

/-! ## The events of a page -/

/-- The device of an event. -/
def PlayOneCall.device : PlayOneCall → ℕ
  | .viewDidLoad device => device
  | .pullToRefresh device => device
  | .lineUp device _ => device
  | .cancelPlay device => device

/-- **What an event of a page can do.** -/
theorem playOneIssue_cases (h : playOneIssue s a = some (s', ts)) :
    (∃ device, a = .viewDidLoad device ∧ device ∉ s.listening ∧
      s' = { s.setPage device {} with listening := s.listening ++ [device] } ∧
      ts = [.listenPlayOne device]) ∨
    (∃ device, a = .pullToRefresh device ∧ device ∈ s.listening ∧
      s' = s.setPage device { s.page device with playOneData := [] } ∧
      ts = [.getPlayOneCourts device .getCourts]) ∨
    (∃ device tag, a = .lineUp device tag ∧ device ∈ s.listening ∧
      (s.page device).canAddPlay = false ∧ s' = s ∧ ts = []) ∨
    (∃ device tag playOne, a = .lineUp device tag ∧ device ∈ s.listening ∧
      (s.page device).canAddPlay = true ∧ (s.page device).playOneData[tag]? = some playOne ∧
      s' = s.setPage device { s.page device with rightBarButtonItem := true } ∧
      ts = [.createPlayOneFinder ((s.firebaseId device).getD "No Id"),
        .edit (.getDocument .add ((s.firebaseId device).getD "No Id") playOne.court)]) ∨
    (∃ device court, a = .cancelPlay device ∧ device ∈ s.listening ∧
      (s.page device).rightBarButtonItem = true ∧ (s.page device).courtIAdded = some court ∧
      s' = s.setPage device { s.page device with
        rightBarButtonItem := false, canAddPlay := true, courtIAdded := none } ∧
      ts = [.edit (.getDocument .delete ((s.firebaseId device).getD "No User Id") court),
        .deletaPlayOnefinder ((s.firebaseId device).getD "No User Id")]) := by
  cases a with
  | viewDidLoad device =>
    simp only [playOneIssue, Option.ite_none_left_eq_some, Option.some.injEq, Prod.mk.injEq] at h
    obtain ⟨hnew, rfl, rfl⟩ := h
    exact Or.inl ⟨device, rfl, hnew, rfl, rfl⟩
  | pullToRefresh device =>
    simp only [playOneIssue, Option.ite_none_right_eq_some, Option.some.injEq, Prod.mk.injEq] at h
    obtain ⟨hloaded, rfl, rfl⟩ := h
    exact Or.inr (Or.inl ⟨device, rfl, hloaded, rfl, rfl⟩)
  | lineUp device tag =>
    obtain ⟨hloaded, h⟩ := Option.ite_none_right_eq_some.1 h
    cases hcan : (s.page device).canAddPlay with
    | false =>
      simp only [hcan, Bool.false_eq_true, if_false, Option.some.injEq, Prod.mk.injEq] at h
      obtain ⟨rfl, rfl⟩ := h
      exact Or.inr (Or.inr (Or.inl ⟨device, tag, rfl, hloaded, hcan, rfl, rfl⟩))
    | true =>
      rw [if_pos hcan] at h
      cases hdata : (s.page device).playOneData[tag]? with
      | none => simp only [hdata, reduceCtorEq] at h
      | some playOne =>
        simp only [hdata] at h
        obtain ⟨rfl, rfl⟩ := Prod.mk.inj (Option.some.inj h)
        exact Or.inr (Or.inr (Or.inr (Or.inl
          ⟨device, tag, playOne, rfl, hloaded, hcan, hdata, rfl, rfl⟩)))
  | cancelPlay device =>
    obtain ⟨⟨hloaded, hbutton⟩, h⟩ := Option.ite_none_right_eq_some.1 h
    cases hcourt : (s.page device).courtIAdded with
    | none => simp [hcourt] at h
    | some court =>
      simp only [hcourt, Option.some.injEq, Prod.mk.injEq] at h
      obtain ⟨rfl, rfl⟩ := h
      exact Or.inr (Or.inr (Or.inr (Or.inr
        ⟨device, court, rfl, hloaded, hbutton, hcourt, rfl, rfl⟩)))

/-- Nothing but a write of an edit changes the courts. -/
theorem playOneIssue_courts (h : playOneIssue s a = some (s', ts)) :
    s'.courts = s.courts ∧ s'.firebaseId = s.firebaseId ∧ s'.playOneFinders = s.playOneFinders := by
  rcases playOneIssue_cases h with ⟨device, -, -, rfl, -⟩ | ⟨device, -, -, rfl, -⟩ |
    ⟨device, tag, -, -, -, rfl, -⟩ | ⟨device, tag, playOne, -, -, -, -, rfl, -⟩ |
    ⟨device, court, -, -, -, -, rfl, -⟩ <;> exact ⟨rfl, rfl, rfl⟩

/-! ## The answers -/

/-- Whose account a device is signed in as stays. -/
theorem firebaseId_answer (s : PlayOneApp) (t : PlayOneTask) (r : Reply) :
    (playOne.answer s t r).1.firebaseId = s.firebaseId := by
  cases r with
  | failed => rfl
  | ok => cases t <;> rfl

/-- And so do the users. -/
theorem users_answer (s : PlayOneApp) (t : PlayOneTask) (r : Reply) :
    (playOne.answer s t r).1.courts.users = s.courts.users := by
  cases r with
  | failed => rfl
  | ok =>
    cases t with
    | getPlayOneCourts device t => exact courtsAnswerOk_users _ _
    | _ => rfl

/-- The request of an edit a request is. -/
def PlayOneTask.asEdit : PlayOneTask → Option CourtEditTask
  | .edit t => some t
  | _ => none

theorem filterMap_asEdit_map_edit (ts : List CourtEditTask) :
    (ts.map PlayOneTask.edit).filterMap PlayOneTask.asEdit = ts := by
  rw [List.filterMap_map]
  exact List.filterMap_some

/-- An answer to an edit is an answer to it, as far as the courts go. -/
theorem answer_edit (s : PlayOneApp) (t : CourtEditTask) (r : Reply) :
    courtEdits.answer s.courts.playOneCourts t r =
      ((playOne.answer s (.edit t) r).1.courts.playOneCourts,
        (playOne.answer s (.edit t) r).2.filterMap PlayOneTask.asEdit) := by
  cases r with
  | failed => rfl
  | ok =>
    simp only [playOne, playOneAnswer, playOneAnswerOk, List.filterMap_append,
      filterMap_asEdit_map_edit]
    have hheard :
        ((t.heard s).map PlayOneTask.listenPlayOne).filterMap PlayOneTask.asEdit = [] := by
      rw [List.filterMap_map]
      exact List.filterMap_eq_nil_iff.2 fun _ _ => rfl
    rw [hheard, List.append_nil]
    rfl

/-- Any other answer leaves the courts, and edits nothing. -/
theorem answer_of_asEdit_none {t : PlayOneTask} (ht : t.asEdit = none) (s : PlayOneApp)
    (r : Reply) :
    (playOne.answer s t r).1.courts.playOneCourts = s.courts.playOneCourts ∧
      (playOne.answer s t r).2.filterMap PlayOneTask.asEdit = [] := by
  cases r with
  | failed => exact ⟨rfl, rfl⟩
  | ok =>
    cases t with
    | edit t => cases ht
    | createPlayOneFinder finder => exact ⟨rfl, rfl⟩
    | deletaPlayOnefinder finder => exact ⟨rfl, rfl⟩
    | listenPlayOne device => exact ⟨rfl, rfl⟩
    | getPlayOneCourts device t =>
      refine ⟨courtsAnswerOk_playOneCourts _ _, ?_⟩
      simp only [playOne, playOneAnswer, playOneAnswerOk, List.filterMap_map]
      exact List.filterMap_eq_nil_iff.2 fun _ _ => rfl

/-- The call of the edits an event of a page makes, if it makes one. -/
def PlayOneApp.editCall (s : PlayOneApp) : PlayOneCall → Option CourtEditCall
  | .lineUp device tag =>
      if (s.page device).canAddPlay then
        (s.page device).playOneData[tag]?.map fun playOne =>
          .addFinderOFACourt ((s.firebaseId device).getD "No Id") playOne.court
      else none
  | .cancelPlay device =>
      (s.page device).courtIAdded.map
        (.deleteFinderOFACourt ((s.firebaseId device).getD "No User Id"))
  | _ => none

/-- An event of a page makes its call of the edits. -/
theorem issue_editCall (h : playOneIssue s a = some (s', ts)) :
    (s.editCall a = none ∧ ts.filterMap PlayOneTask.asEdit = []) ∨
      ∃ b, s.editCall a = some b ∧
        courtEdits.issue s.courts.playOneCourts b =
          some (s.courts.playOneCourts, ts.filterMap PlayOneTask.asEdit) := by
  rcases playOneIssue_cases h with ⟨device, rfl, -, -, rfl⟩ | ⟨device, rfl, -, -, rfl⟩ |
    ⟨device, tag, rfl, -, hcan, -, rfl⟩ | ⟨device, tag, playOne, rfl, -, hcan, hdata, -, rfl⟩ |
    ⟨device, court, rfl, -, -, hcourt, -, rfl⟩
  · exact Or.inl ⟨rfl, rfl⟩
  · exact Or.inl ⟨rfl, rfl⟩
  · exact Or.inl ⟨by simp [PlayOneApp.editCall, hcan], rfl⟩
  · refine Or.inr ⟨.addFinderOFACourt ((s.firebaseId device).getD "No Id") playOne.court, ?_, rfl⟩
    rw [PlayOneApp.editCall, if_pos hcan, hdata, Option.map_some]
  · refine Or.inr ⟨.deleteFinderOFACourt ((s.firebaseId device).getD "No User Id") court, ?_, rfl⟩
    rw [PlayOneApp.editCall, hcourt, Option.map_some]

/-- **The pages run the machine of the edits**, and its calls are those
their taps make. -/
theorem projects_edits {ok' : Config PlayOneApp PlayOneTask → Event PlayOneCall Reply → Prop}
    {ok : Config PlayOneCourts CourtEditTask → Event CourtEditCall Reply → Prop}
    (hcall : ∀ {c' c a b}, Over (fun s : PlayOneApp => s.courts.playOneCourts)
      PlayOneTask.asEdit c' c → ok' c' (.call a) → c'.state.editCall a = some b → ok c (.call b))
    (hanswer : ∀ {c' c i j r t u}, Over (fun s : PlayOneApp => s.courts.playOneCourts)
      PlayOneTask.asEdit c' c → ok' c' (.answer i r) → c'.pending[i]? = some t →
      t.asEdit = some u → c.pending[j]? = some u → ok c (.answer j r)) :
    Projects playOne courtEdits (fun s => s.courts.playOneCourts) PlayOneTask.asEdit ok' ok where
  call {c' c a s' ts'} hover he hi := by
    have hcourts := congrArg Courts.playOneCourts (playOneIssue_courts hi).1
    rcases issue_editCall hi with ⟨-, hts⟩ | ⟨b, hb, hissue⟩
    · exact Or.inl ⟨hcourts.trans hover.state.symm, hts⟩
    · refine Or.inr ⟨b, hcall hover he hb, ?_⟩
      rw [hover.state, hissue, hcourts]
  other {c' c i r t} hover _ _ ht := by
    obtain ⟨hcourts, hts⟩ := answer_of_asEdit_none ht c'.state r
    exact Or.inl ⟨hcourts.trans hover.state.symm, hts⟩
  answer {c' c i j r t u} hover he hi ht hj := by
    refine ⟨hanswer hover he hi ht hj, ?_⟩
    cases t with
    | edit t =>
      obtain rfl := Option.some.inj ht
      rw [hover.state, answer_edit]
    | _ => cases ht

end Volleyer
