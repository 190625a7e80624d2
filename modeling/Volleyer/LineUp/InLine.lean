import Volleyer.Common.Line
import Volleyer.Common.Writes
import Volleyer.LineUp.Overlap
import Volleyer.LineUp.Steps

/-!
# Lining up — the store in line

With taps taken one at a time the courts' lists are the queues of a line:
who lines up stands behind those who are there, and who cancels is taken
out. `InLine` is what the store says of the line while a tap is under
way: an edit in flight, read or still to be read, settles the list it is
of, and a write in flight the document of players.
-/

namespace Volleyer

variable {l : Line String String} {c : Config PlayOneApp PlayOneTask}

/-! ## The line of a run -/

/-- What a tap is, on a header for the court it shows. -/
def PlayOneApp.taps (s : PlayOneApp) : PlayOneCall → List (Tap String String)
  | .lineUp device tag =>
      ((s.page device).playOneData[tag]?.map fun playOne =>
        .lineUp ((s.firebaseId device).getD "No Id") playOne.court).toList
  | .cancelPlay device => [.cancel ((s.firebaseId device).getD "No User Id")]
  | _ => []

/-- The taps an event is. -/
def tapsOf (c : Config PlayOneApp PlayOneTask) : Event PlayOneCall Reply → List (Tap String String)
  | .call a => c.state.taps a
  | .answer _ _ => []

/-- **The line after a run's taps.** -/
def lineOf (c₀ : Config PlayOneApp PlayOneTask) (evs : List (Event PlayOneCall Reply)) :
    Line String String :=
  .ofTaps (playOne.observed tapsOf c₀ evs)

/-! ## The store -/

/-- The court of a request of an edit. -/
def CourtEditTask.court : CourtEditTask → String
  | .getDocument _ _ court => court
  | .updateData _ _ court _ => court

/-- What a court's list is once a request of an edit has run to its end. -/
def CourtEditTask.settle (k : String) (userIds : List String) : CourtEditTask → List String
  | .getDocument edit finder court => if k = court then edit.apply finder userIds else userIds
  | .updateData _ _ court ids => if k = court then ids else userIds

/-- The user whose document of players a request stores or removes. -/
def PlayOneTask.asFinder : PlayOneTask → Option (String × Bool)
  | .createPlayOneFinder finder => some (finder, true)
  | .deletaPlayOnefinder finder => some (finder, false)
  | _ => none

/-- Whether a user has a document once a request has been answered. -/
def settleFinder (u : String) (has : Bool) (w : String × Bool) : Bool :=
  if u = w.1 then w.2 else has

/-- The ids of the courts. -/
def PlayOneApp.courtIds (s : PlayOneApp) : List String :=
  s.courts.playOneCourts.entries.map Prod.fst

/-- No answer stores or removes a court. -/
theorem courtIds_answer (s : PlayOneApp) (t : PlayOneTask) :
    (playOneAnswerOk s t).1.courtIds = s.courtIds := by
  cases t with
  | edit t =>
    cases t with
    | getDocument edit u k =>
      simp only [playOneAnswerOk, courtEditAnswerOk, PlayOneApp.courtIds]
      cases s.courts.playOneCourts.get k <;> rfl
    | updateData edit u k ids =>
      simp only [playOneAnswerOk, courtEditAnswerOk, PlayOneApp.courtIds, Collection.modify,
        List.map_map]
      refine List.map_congr_left fun e _ => ?_
      simp only [Function.comp_apply]
      split <;> rfl
  | createPlayOneFinder finder => rfl
  | deletaPlayOnefinder finder => rfl
  | listenPlayOne device => rfl
  | getPlayOneCourts device t =>
    exact congrArg (fun s : PlayOneCourts => s.entries.map Prod.fst)
      (courtsAnswerOk_playOneCourts s.courts t)

/-- The read of an edit of a court there is asks for its write. -/
theorem exists_answer_getDocument {s : PlayOneApp} {k : String} (hk : k ∈ s.courtIds)
    (edit : FinderEdit) (u : String) :
    ∃ document, s.courts.playOneCourts.get k = some document ∧
      playOneAnswerOk s (.edit (.getDocument edit u k)) =
        (s, [.edit (.updateData edit u k (edit.apply u (finderIds document)))]) := by
  obtain ⟨document, hdocument⟩ := Option.isSome_iff_exists.1 (Collection.isSome_get_iff.2 hk)
  refine ⟨document, hdocument, ?_⟩
  simp only [playOneAnswerOk, courtEditAnswerOk, hdocument, CourtEditTask.heard]
  rfl

/-- **The store holds a line**, an edit in flight being settled. -/
structure InLine (l : Line String String) (c : Config PlayOneApp PlayOneTask) : Prop where
  users : l.users.Nodup
  account : ∀ {u}, u ∈ l.users → ∃ device ∈ c.state.listening, c.state.firebaseId device = some u
  court : ∀ {u k}, (u, k) ∈ l → k ∈ c.state.courtIds
  edit : (c.pending.filterMap PlayOneTask.asEdit).length ≤ 1
  known : ∀ t ∈ c.pending.filterMap PlayOneTask.asEdit, t.court ∈ c.state.courtIds
  lists : ∀ k ∈ c.state.courtIds, (c.pending.filterMap PlayOneTask.asEdit).foldl
    (CourtEditTask.settle k) (PlayOneCourts.userIds c.state.courts.playOneCourts k) = l.queue k
  finder : (c.pending.filterMap PlayOneTask.asFinder).length ≤ 1
  finders : ∀ u, (c.pending.filterMap PlayOneTask.asFinder).foldl (settleFinder u)
    (c.state.playOneFinders.get u).isSome = decide (u ∈ l.users)

namespace InLine

/-- What touches neither the courts nor the documents of players, and
edits nothing, leaves the line. -/
theorem frame (h : InLine l c) {c' : Config PlayOneApp PlayOneTask}
    (hcourts : c'.state.courts.playOneCourts = c.state.courts.playOneCourts)
    (hfinders : c'.state.playOneFinders = c.state.playOneFinders)
    (hids : c'.state.firebaseId = c.state.firebaseId)
    (hlistening : ∀ device ∈ c.state.listening, device ∈ c'.state.listening)
    (hedit : c'.pending.filterMap PlayOneTask.asEdit = c.pending.filterMap PlayOneTask.asEdit)
    (hfinder : c'.pending.filterMap PlayOneTask.asFinder =
      c.pending.filterMap PlayOneTask.asFinder) : InLine l c' := by
  have hcourtIds : c'.state.courtIds = c.state.courtIds := by
    rw [PlayOneApp.courtIds, PlayOneApp.courtIds, hcourts]
  refine ⟨h.users, fun hu => ?_, fun hk => hcourtIds ▸ h.court hk, hedit ▸ h.edit, ?_, ?_,
    hfinder ▸ h.finder, ?_⟩
  · obtain ⟨device, hdevice, hid⟩ := h.account hu
    exact ⟨device, hlistening device hdevice, hids ▸ hid⟩
  · rw [hedit, hcourtIds]
    exact h.known
  · rw [hcourtIds, hedit, hcourts]
    exact h.lists
  · rw [hfinder, hfinders]
    exact h.finders

/-- With no edit in flight the lists are the queues. -/
theorem userIds_eq (h : InLine l c) (hquiet : c.pending.filterMap PlayOneTask.asEdit = [])
    {k : String} (hk : k ∈ c.state.courtIds) :
    PlayOneCourts.userIds c.state.courts.playOneCourts k = l.queue k := by
  have hlists := h.lists k hk
  rwa [hquiet] at hlists

/-- With none in flight, whoever waits has a document of players. -/
theorem isSome_finder_eq (h : InLine l c)
    (hquiet : c.pending.filterMap PlayOneTask.asFinder = []) {u : String} :
    (c.state.playOneFinders.get u).isSome = decide (u ∈ l.users) := by
  have hfinders := h.finders u
  rwa [hquiet] at hfinders

/-- A user lines up. -/
theorem lineUp (h : InLine l c) (hp : c.pending = []) {s : PlayOneApp} {u k : String} {device : ℕ}
    (hcourts : s.courts = c.state.courts) (hfinders : s.playOneFinders = c.state.playOneFinders)
    (hids : s.firebaseId = c.state.firebaseId) (hlistening : s.listening = c.state.listening)
    (hdevice : device ∈ c.state.listening) (hid : c.state.firebaseId device = some u)
    (hu : u ∉ l.users) (hk : k ∈ c.state.courtIds) :
    InLine (l ++ [(u, k)])
      ⟨s, c.seen, c.pending ++ [.createPlayOneFinder u, .edit (.getDocument .add u k)]⟩ := by
  have hcourtIds : s.courtIds = c.state.courtIds := by
    rw [PlayOneApp.courtIds, PlayOneApp.courtIds, hcourts]
  rw [hp]
  have hedits : ([.createPlayOneFinder u, .edit (.getDocument .add u k)] :
      List PlayOneTask).filterMap PlayOneTask.asEdit = [.getDocument .add u k] := rfl
  have hfinder : ([.createPlayOneFinder u, .edit (.getDocument .add u k)] :
      List PlayOneTask).filterMap PlayOneTask.asFinder = [(u, true)] := rfl
  refine ⟨Line.nodup_append h.users hu k, fun {v} hv => ?_, fun {v k'} hv => ?_, ?_, ?_, ?_, ?_,
    fun v => ?_⟩
  · rcases Line.mem_users_append.1 hv with hv | rfl
    · obtain ⟨device', hdevice', hid'⟩ := h.account hv
      exact ⟨device', hlistening ▸ hdevice', hids ▸ hid'⟩
    · exact ⟨device, hlistening ▸ hdevice, hids ▸ hid⟩
  · rw [hcourtIds]
    rcases List.mem_append.1 hv with hv | hv
    · exact h.court hv
    · obtain ⟨-, rfl⟩ := Prod.mk.inj (List.mem_singleton.1 hv)
      exact hk
  · rw [List.nil_append, hedits]
    exact Nat.le_refl 1
  · rw [List.nil_append, hedits, hcourtIds]
    intro t ht
    obtain rfl := List.mem_singleton.1 ht
    exact hk
  · rw [List.nil_append, hedits, hcourtIds, hcourts]
    intro k' hk'
    have hlist := h.userIds_eq (by rw [hp]; rfl) hk'
    rw [List.foldl_cons, List.foldl_nil, CourtEditTask.settle, Line.queue_append, hlist, apply_add]
  · rw [List.nil_append, hfinder]
    exact Nat.le_refl 1
  · rw [List.nil_append, hfinder, List.foldl_cons, List.foldl_nil, settleFinder, hfinders,
      h.isSome_finder_eq (by rw [hp]; rfl)]
    by_cases hvu : v = u
    · simp [hvu, Line.mem_users_append]
    · simp [hvu, Line.mem_users_append]

/-- A user who waits cancels. -/
theorem cancel (h : InLine l c) (hp : c.pending = []) {s : PlayOneApp} {u k : String}
    (hcourts : s.courts = c.state.courts) (hfinders : s.playOneFinders = c.state.playOneFinders)
    (hids : s.firebaseId = c.state.firebaseId) (hlistening : s.listening = c.state.listening)
    (hu : (u, k) ∈ l) :
    InLine (l.cancel u)
      ⟨s, c.seen, c.pending ++ [.edit (.getDocument .delete u k), .deletaPlayOnefinder u]⟩ := by
  have hcourtIds : s.courtIds = c.state.courtIds := by
    rw [PlayOneApp.courtIds, PlayOneApp.courtIds, hcourts]
  rw [hp]
  have hedits : ([.edit (.getDocument .delete u k), .deletaPlayOnefinder u] :
      List PlayOneTask).filterMap PlayOneTask.asEdit = [.getDocument .delete u k] := rfl
  have hfinder : ([.edit (.getDocument .delete u k), .deletaPlayOnefinder u] :
      List PlayOneTask).filterMap PlayOneTask.asFinder = [(u, false)] := rfl
  refine ⟨Line.nodup_cancel h.users u, fun {v} hv => ?_, fun {v k'} hv => ?_, ?_, ?_, ?_, ?_,
    fun v => ?_⟩
  · obtain ⟨device, hdevice, hid⟩ := h.account (Line.mem_users_cancel.1 hv).1
    exact ⟨device, hlistening ▸ hdevice, hids ▸ hid⟩
  · exact hcourtIds ▸ h.court (Line.mem_cancel.1 hv).1
  · rw [List.nil_append, hedits]
    exact Nat.le_refl 1
  · rw [List.nil_append, hedits, hcourtIds]
    intro t ht
    obtain rfl := List.mem_singleton.1 ht
    exact h.court hu
  · rw [List.nil_append, hedits, hcourtIds, hcourts]
    intro k' hk'
    have hlist := h.userIds_eq (by rw [hp]; rfl) hk'
    rw [List.foldl_cons, List.foldl_nil, CourtEditTask.settle, Line.queue_cancel h.users hu, hlist,
      apply_delete]
  · rw [List.nil_append, hfinder]
    exact Nat.le_refl 1
  · rw [List.nil_append, hfinder, List.foldl_cons, List.foldl_nil, settleFinder, hfinders,
      h.isSome_finder_eq (by rw [hp]; rfl)]
    by_cases hvu : v = u
    · simp [hvu, Line.mem_users_cancel]
    · simp [hvu, Line.mem_users_cancel]

/-- The read of an edit. -/
theorem getDocument (h : InLine l c) {n : ℕ} {edit : FinderEdit} {u k : String}
    (hn : c.pending[n]? = some (.edit (.getDocument edit u k))) :
    InLine l ⟨(playOneAnswerOk c.state (.edit (.getDocument edit u k))).1, c.seen,
      c.pending.eraseIdx n ++ (playOneAnswerOk c.state (.edit (.getDocument edit u k))).2⟩ := by
  obtain ⟨hsole, herase⟩ := filterMap_eq_singleton PlayOneTask.asEdit h.edit hn rfl
  have hfinder : (c.pending.eraseIdx n).filterMap PlayOneTask.asFinder =
      c.pending.filterMap PlayOneTask.asFinder := filterMap_eraseIdx_of_none hn rfl
  have hk : k ∈ c.state.courtIds :=
    h.known (.getDocument edit u k) (hsole ▸ List.mem_cons_self)
  obtain ⟨document, hdocument, hanswer⟩ := exists_answer_getDocument hk edit u
  have hedits : (c.pending.eraseIdx n ++
      [PlayOneTask.edit (.updateData edit u k (edit.apply u (finderIds document)))]).filterMap
        PlayOneTask.asEdit = [.updateData edit u k (edit.apply u (finderIds document))] := by
    rw [List.filterMap_append, herase]
    rfl
  have hfinder' : (c.pending.eraseIdx n ++
      [PlayOneTask.edit (.updateData edit u k (edit.apply u (finderIds document)))]).filterMap
        PlayOneTask.asFinder = c.pending.filterMap PlayOneTask.asFinder := by
    rw [List.filterMap_append, hfinder]
    exact List.append_nil _
  rw [hanswer]
  refine ⟨h.users, h.account, h.court, ?_, ?_, fun k' hk' => ?_, ?_, fun v => ?_⟩
  · rw [hedits]
    exact Nat.le_refl 1
  · rw [hedits]
    intro t ht
    obtain rfl := List.mem_singleton.1 ht
    exact hk
  · have hlist := h.lists k' hk'
    rw [hsole, List.foldl_cons, List.foldl_nil, CourtEditTask.settle] at hlist
    rw [hedits, List.foldl_cons, List.foldl_nil, CourtEditTask.settle, ← hlist]
    by_cases hkk : k' = k
    · rw [if_pos hkk, if_pos hkk, hkk, PlayOneCourts.userIds_of_get hdocument]
    · rw [if_neg hkk, if_neg hkk]
  · rw [hfinder']
    exact h.finder
  · rw [hfinder']
    exact h.finders v

/-- The write of an edit. -/
theorem updateData (h : InLine l c) {n : ℕ} {edit : FinderEdit} {u k : String} {ids : List String}
    (hn : c.pending[n]? = some (.edit (.updateData edit u k ids))) :
    InLine l ⟨(playOneAnswerOk c.state (.edit (.updateData edit u k ids))).1, c.seen,
      c.pending.eraseIdx n ++ (playOneAnswerOk c.state (.edit (.updateData edit u k ids))).2⟩ := by
  obtain ⟨hsole, herase⟩ := filterMap_eq_singleton PlayOneTask.asEdit h.edit hn rfl
  have hfinder : (c.pending.eraseIdx n).filterMap PlayOneTask.asFinder =
      c.pending.filterMap PlayOneTask.asFinder := filterMap_eraseIdx_of_none hn rfl
  have hk : k ∈ c.state.courtIds :=
    h.known (.updateData edit u k ids) (hsole ▸ List.mem_cons_self)
  have hspawn : ∀ {α : Type} (task : PlayOneTask → Option α),
      (∀ device, task (.listenPlayOne device) = none) →
      (playOneAnswerOk c.state (.edit (.updateData edit u k ids))).2.filterMap task = [] := by
    intro α task htask
    refine List.filterMap_eq_nil_iff.2 fun t ht => ?_
    obtain ⟨device, -, rfl⟩ := List.mem_map.1 ht
    exact htask device
  have hedits : (c.pending.eraseIdx n ++
      (playOneAnswerOk c.state (.edit (.updateData edit u k ids))).2).filterMap
        PlayOneTask.asEdit = [] := by
    rw [List.filterMap_append, herase, hspawn _ fun _ => rfl]
    rfl
  have hfinder' : (c.pending.eraseIdx n ++
      (playOneAnswerOk c.state (.edit (.updateData edit u k ids))).2).filterMap
        PlayOneTask.asFinder = c.pending.filterMap PlayOneTask.asFinder := by
    rw [List.filterMap_append, hfinder, hspawn _ fun _ => rfl]
    exact List.append_nil _
  have hcourtIds := courtIds_answer c.state (.edit (.updateData edit u k ids))
  refine ⟨h.users, h.account, fun hv => hcourtIds ▸ h.court hv, ?_, ?_, fun k' hk' => ?_, ?_,
    fun v => ?_⟩
  · rw [hedits]
    exact Nat.zero_le 1
  · rw [hedits]
    exact fun t ht => absurd ht List.not_mem_nil
  · rw [hcourtIds] at hk'
    have hlist := h.lists k' hk'
    rw [hsole, List.foldl_cons, List.foldl_nil, CourtEditTask.settle] at hlist
    rw [hedits, List.foldl_nil, ← hlist]
    exact PlayOneCourts.userIds_modify k ids (Collection.isSome_get_iff.2 hk)
  · rw [hfinder']
    exact h.finder
  · rw [hfinder']
    exact h.finders v

/-- A document of players is stored or removed. -/
theorem answer_finder (h : InLine l c) {n : ℕ} {t : PlayOneTask} {w : String × Bool}
    (hn : c.pending[n]? = some t) (ht : t.asFinder = some w) :
    InLine l ⟨(playOneAnswerOk c.state t).1, c.seen,
      c.pending.eraseIdx n ++ (playOneAnswerOk c.state t).2⟩ := by
  obtain ⟨hsole, herase⟩ := filterMap_eq_singleton PlayOneTask.asFinder h.finder hn ht
  have hedit : t.asEdit = none := by
    cases t <;> first | rfl | cases ht
  have hedits : (c.pending.eraseIdx n).filterMap PlayOneTask.asEdit =
      c.pending.filterMap PlayOneTask.asEdit := filterMap_eraseIdx_of_none hn hedit
  have hget : ∀ v, ((playOneAnswerOk c.state t).1.playOneFinders.get v).isSome =
      settleFinder v (c.state.playOneFinders.get v).isSome w := by
    intro v
    cases t with
    | createPlayOneFinder finder =>
      obtain rfl := Option.some.inj ht
      simp only [playOneAnswerOk, Collection.get_set, settleFinder]
      split <;> rfl
    | deletaPlayOnefinder finder =>
      obtain rfl := Option.some.inj ht
      simp only [playOneAnswerOk, Collection.get_delete, settleFinder]
      split <;> rfl
    | _ => cases ht
  have hspawn : (playOneAnswerOk c.state t).2 = [] := by
    cases t <;> first | rfl | cases ht
  have hsame : (playOneAnswerOk c.state t).1.courts = c.state.courts ∧
      (playOneAnswerOk c.state t).1.firebaseId = c.state.firebaseId ∧
      (playOneAnswerOk c.state t).1.listening = c.state.listening := by
    cases t <;> first | exact ⟨rfl, rfl, rfl⟩ | cases ht
  obtain ⟨hcourts, hids, hlistening⟩ := hsame
  have hcourtIds := courtIds_answer c.state t
  rw [hspawn, List.append_nil]
  refine ⟨h.users, fun hu => ?_, fun hv => hcourtIds ▸ h.court hv, ?_, ?_, ?_, ?_, fun v => ?_⟩
  · rw [hlistening, hids]
    exact h.account hu
  · rw [hedits]
    exact h.edit
  · rw [hedits, hcourtIds]
    exact h.known
  · rw [hedits, hcourtIds, hcourts]
    exact h.lists
  · rw [herase]
    exact Nat.zero_le 1
  · have hold := h.finders v
    rw [hsole, List.foldl_cons, List.foldl_nil] at hold
    rw [herase, List.foldl_nil, hget, hold]

end InLine

end Volleyer
