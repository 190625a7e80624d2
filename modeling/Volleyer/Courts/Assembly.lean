import Volleyer.Common.Join
import Volleyer.Common.Writes
import Volleyer.Courts.Model

/-!
# Courts — a call assembles its own snapshot

Two joins, one inside the other: a court awaits its finders, and a call
awaits its courts. `Assembly` says what arrived in either and what is
awaited, which the queries in flight are. A court is open while a query
of it is in flight, so the inner count is reached with the last answer of
a court and the outer one with the last answer of the call: neither
before, nor twice.
-/

namespace Volleyer

/-- What a run answered, as far as a call of `getPlayOneCourts` goes. -/
abbrev CourtsLog := List (Courts × CourtsTask × Reply)

variable {L : CourtsLog} {k j i : ℕ} {document : String × Doc CourtTitle}
variable {call : CourtsCall} {asks asks' : ℕ → List ℕ} {done : List ℕ}

/-- A finder the `i`-th query of a court answered: the one user document
that matched the id then, decoded. -/
def Decoded (L : CourtsLog) (k j : ℕ) (document : String × Doc CourtTitle) (u : User) : Prop :=
  ∃ userId s e, (finderIds document.2)[u.playN]? = some userId ∧
    (s, .getUser k j document u.playN userId, .ok) ∈ L ∧ s.usersWithFirebaseId userId = [e] ∧
    u = { decodeUser e.1 e.2 with playN := u.playN }

/-- The court of the document at a position, with the finders found. -/
def CourtsCall.IsCourt (call : CourtsCall) (j : ℕ) (playOne : PlayOne) : Prop :=
  ∃ document, call.documents[j]? = some document ∧
    playOne = ⟨document.1, call.finders j, courtOrder document.2⟩

/-- The positions of a snapshot with a query in flight. -/
def CourtsCall.openCourts (call : CourtsCall) (asks : ℕ → List ℕ) : List ℕ :=
  (List.range call.documents.length).filter fun j => asks j ≠ []

/-- **A call under way.** `asks` are the queries in flight for each court,
and `done` the courts in the array. -/
structure Assembly (L : CourtsLog) (k : ℕ) (asks : ℕ → List ℕ) (call : CourtsCall)
    (done : List ℕ) : Prop where
  finders : ∀ {j document}, call.documents[j]? = some document →
    Awaits (List.range (finderIds document.2).length) ((call.finders j).map User.playN) (asks j)
  decoded : ∀ {j document u}, call.documents[j]? = some document → u ∈ call.finders j →
    Decoded L k j document u
  sorted : ∀ {j document}, call.documents[j]? = some document → asks j = [] →
    (call.finders j).map User.playN = List.range (finderIds document.2).length
  courts : Awaits (List.range call.documents.length) done (call.openCourts asks)
  array : List.Forall₂ call.IsCourt done call.playOneDataArray

/-- What a call is to have handed to the delegate. -/
def CourtsCall.due (call : CourtsCall) (asks : ℕ → List ℕ) : List (List PlayOne) :=
  if call.openCourts asks = [] then [call.playOneDataArray] else []

namespace CourtsCall

theorem mem_openCourts : j ∈ call.openCourts asks ↔ j < call.documents.length ∧ asks j ≠ [] := by
  simp only [CourtsCall.openCourts, List.mem_filter, List.mem_range, decide_eq_true_eq]

theorem openCourts_congr (h : ∀ j, asks j = [] ↔ asks' j = []) :
    call.openCourts asks = call.openCourts asks' := by
  refine List.filter_congr fun j _ => ?_
  rw [decide_eq_decide]
  exact not_congr (h j)

end CourtsCall

/-- A relation along two lists, weakened at the members of the first. -/
theorem forall₂_of_mem {α β : Type*} {R S : α → β → Prop} {l : List α} {l' : List β}
    (h : List.Forall₂ R l l') (himp : ∀ a ∈ l, ∀ b, R a b → S a b) : List.Forall₂ S l l' := by
  induction h with
  | nil => exact .nil
  | @cons a b l l' hab _ ih =>
    refine .cons (himp a List.mem_cons_self b hab) (ih fun a ha => ?_)
    exact himp a (List.mem_cons_of_mem _ ha)

namespace CourtsCall

/-- The call with the finders of one court replaced. -/
def setFinders (call : CourtsCall) (j : ℕ) (finders : List User) : CourtsCall :=
  { call with finders := Function.update call.finders j finders }

@[simp] theorem setFinders_documents (finders : List User) :
    (call.setFinders j finders).documents = call.documents := rfl

@[simp] theorem setFinders_array (finders : List User) :
    (call.setFinders j finders).playOneDataArray = call.playOneDataArray := rfl

@[simp] theorem setFinders_self (finders : List User) :
    (call.setFinders j finders).finders j = finders := Function.update_self ..

theorem setFinders_of_ne (finders : List User) (h : i ≠ j) :
    (call.setFinders j finders).finders i = call.finders i := Function.update_of_ne h ..

/-- A court whose finders stay is the same court. -/
theorem IsCourt.setFinders {finders : List User} {playOne : PlayOne} (h : call.IsCourt i playOne)
    (hne : i ≠ j) : (call.setFinders j finders).IsCourt i playOne := by
  obtain ⟨document, hdocument, heq⟩ := h
  exact ⟨document, hdocument, by rw [heq, setFinders_of_ne finders hne]⟩

/-- A court loses its last query. -/
theorem perm_openCourts (hj : j < call.documents.length) (hasks : asks j ≠ []) :
    (call.openCourts asks).Perm (j :: call.openCourts (Function.update asks j [])) := by
  have hnodup : ∀ asks : ℕ → List ℕ, (call.openCourts asks).Nodup := fun asks =>
    List.nodup_range.filter _
  have hclosed : j ∉ call.openCourts (Function.update asks j []) := fun h =>
    (mem_openCourts.1 h).2 (Function.update_self ..)
  refine (List.perm_ext_iff_of_nodup (hnodup asks)
    (List.nodup_cons.2 ⟨hclosed, hnodup _⟩)).2 fun j' => ?_
  rw [List.mem_cons, mem_openCourts, mem_openCourts]
  by_cases hjj : j' = j
  · subst hjj
    exact iff_of_true ⟨hj, hasks⟩ (Or.inl rfl)
  · rw [Function.update_of_ne hjj]
    exact ⟨Or.inr, fun h => h.resolve_left hjj⟩

end CourtsCall

/-! ## Sorting the finders -/

theorem perm_sortByPlayN (finders : List User) : (sortByPlayN finders).Perm finders :=
  finders.perm_insertionSort _

theorem map_playN_sortByPlayN (finders : List User) :
    (sortByPlayN finders).map User.playN = (finders.map User.playN).insertionSort (· ≤ ·) :=
  List.map_insertionSort _ _ _ _ fun _ _ _ _ => Iff.rfl

namespace Assembly

theorem mono {L' : CourtsLog} (h : Assembly L k asks call done) (hL : ∀ x ∈ L, x ∈ L') :
    Assembly L' k asks call done where
  finders := h.finders
  decoded hj hu := by
    obtain ⟨userId, s, e, hid, hx, he, heq⟩ := h.decoded hj hu
    exact ⟨userId, s, e, hid, hL _ hx, he, heq⟩
  sorted := h.sorted
  courts := h.courts
  array := h.array

/-- Only which queries are in flight matters. -/
theorem perm (h : Assembly L k asks call done) (hp : ∀ j, (asks' j).Perm (asks j)) :
    Assembly L k asks' call done where
  finders {j document} hj := (h.finders hj).perm (.refl _) (hp j)
  decoded := h.decoded
  sorted {j document} hj hnil := h.sorted hj (List.perm_nil.1 (hnil ▸ (hp j).symm))
  courts := by
    have hopen : call.openCourts asks' = call.openCourts asks :=
      CourtsCall.openCourts_congr fun j =>
        ⟨fun hnil => List.perm_nil.1 (hnil ▸ (hp j).symm),
          fun hnil => List.perm_nil.1 (hnil ▸ hp j)⟩
    rw [hopen]
    exact h.courts
  array := h.array

/-- The array is full when no query of the call is in flight. -/
theorem length_array_eq_iff (h : Assembly L k asks call done) :
    call.documents.length = call.playOneDataArray.length ↔ call.openCourts asks = [] := by
  rw [← h.array.length_eq, ← h.courts.length_eq_iff, List.length_range, eq_comm]

/-! ## One answer -/

/-- What a callback makes of the finders: the new one in front, sorted if
they are all there. -/
def foundFinders (document : String × Doc CourtTitle) (finders : List User) (u : User) :
    List User :=
  if (u :: finders).length = (finderIds document.2).length then sortByPlayN (u :: finders)
  else u :: finders

theorem perm_foundFinders (document : String × Doc CourtTitle) (finders : List User) (u : User) :
    (foundFinders document finders u).Perm (u :: finders) := by
  rw [foundFinders]
  split
  · exact perm_sortByPlayN _
  · exact .refl _

/-- The callback in these terms: the court is appended when its finders
are all there. -/
theorem receive_eq {userDocument : String × Doc UserTitle} {u : User}
    (hu : u = { decodeUser userDocument.1 userDocument.2 with playN := i }) :
    CourtsCall.receive j document i (call, []) userDocument =
      if (u :: call.finders j).length = (finderIds document.2).length then
        (call.setFinders j (foundFinders document (call.finders j) u)).append
          ⟨document.1, foundFinders document (call.finders j) u, courtOrder document.2⟩
      else (call.setFinders j (foundFinders document (call.finders j) u), []) := by
  subst hu
  by_cases hfull : ({ decodeUser userDocument.1 userDocument.2 with playN := i } ::
      call.finders j).length = (finderIds document.2).length
  · simp only [CourtsCall.receive, foundFinders, if_pos hfull, List.nil_append]
    rfl
  · simp only [CourtsCall.receive, foundFinders, if_neg hfull]
    rfl

/-- The finders after an answer, and the queries still in flight. -/
theorem awaits_foundFinders (h : Assembly L k asks call done)
    (hj : call.documents[j]? = some document) {rest : List ℕ} {u : User}
    (hasks : (asks j).Perm (u.playN :: rest)) :
    Awaits (List.range (finderIds document.2).length)
      ((foundFinders document (call.finders j) u).map User.playN) rest :=
  ((h.finders hj).arrive hasks).perm ((perm_foundFinders document (call.finders j) u).map _)
    (.refl rest)

/-- The finders are all there with the last answer of their court. -/
theorem length_foundFinders_eq_iff (h : Assembly L k asks call done)
    (hj : call.documents[j]? = some document) {rest : List ℕ} {u : User}
    (hasks : (asks j).Perm (u.playN :: rest)) :
    (u :: call.finders j).length = (finderIds document.2).length ↔ rest = [] := by
  have hcount := (h.awaits_foundFinders hj hasks).length_eq_iff
  rwa [List.length_map, (perm_foundFinders document (call.finders j) u).length_eq,
    List.length_range] at hcount

section Answered

variable {rest : List ℕ} {u : User}

/-- **The finders of every court** and its queries, after an answer. -/
theorem finders_answered (h : Assembly L k asks call done) (hj : call.documents[j]? = some document)
    (hasks : (asks j).Perm (u.playN :: rest)) {j' : ℕ} {document' : String × Doc CourtTitle}
    (hj' : call.documents[j']? = some document') :
    Awaits (List.range (finderIds document'.2).length)
      (((call.setFinders j (foundFinders document (call.finders j) u)).finders j').map User.playN)
      (Function.update asks j rest j') := by
  by_cases hjj : j' = j
  · subst hjj
    obtain rfl := Option.some.inj (hj.symm.trans hj')
    rw [CourtsCall.setFinders_self, Function.update_self]
    exact h.awaits_foundFinders hj hasks
  · rw [CourtsCall.setFinders_of_ne _ hjj, Function.update_of_ne hjj]
    exact h.finders hj'

/-- The finder that is found is decoded as the others are. -/
theorem decoded_answered (h : Assembly L k asks call done) (hj : call.documents[j]? = some document)
    (hdecoded : Decoded L k j document u) {j' : ℕ} {document' : String × Doc CourtTitle} {v : User}
    (hj' : call.documents[j']? = some document')
    (hv : v ∈ (call.setFinders j (foundFinders document (call.finders j) u)).finders j') :
    Decoded L k j' document' v := by
  by_cases hjj : j' = j
  · subst hjj
    obtain rfl := Option.some.inj (hj.symm.trans hj')
    rw [CourtsCall.setFinders_self] at hv
    have hmem := (perm_foundFinders document (call.finders j') u).mem_iff.1 hv
    rcases List.mem_cons.1 hmem with rfl | hv
    · exact hdecoded
    · exact h.decoded hj hv
  · rw [CourtsCall.setFinders_of_ne _ hjj] at hv
    exact h.decoded hj' hv

/-- A court with no query in flight has its finders in order. -/
theorem sorted_answered (h : Assembly L k asks call done) (hj : call.documents[j]? = some document)
    (hasks : (asks j).Perm (u.playN :: rest)) {j' : ℕ} {document' : String × Doc CourtTitle}
    (hj' : call.documents[j']? = some document') (hnil : Function.update asks j rest j' = []) :
    ((call.setFinders j (foundFinders document (call.finders j) u)).finders j').map User.playN =
      List.range (finderIds document'.2).length := by
  by_cases hjj : j' = j
  · subst hjj
    obtain rfl := Option.some.inj (hj.symm.trans hj')
    rw [Function.update_self] at hnil
    subst hnil
    have hall := (h.finders hj).arrive hasks
    rw [CourtsCall.setFinders_self, foundFinders,
      if_pos ((h.length_foundFinders_eq_iff hj hasks).2 rfl), map_playN_sortByPlayN]
    exact hall.insertionSort_eq
  · rw [CourtsCall.setFinders_of_ne _ hjj]
    rw [Function.update_of_ne hjj] at hnil
    exact h.sorted hj' hnil

/-- **With its last finder a court joins the array.** -/
theorem last_answered (h : Assembly L k asks call done) (hj : call.documents[j]? = some document)
    (hasks : (asks j).Perm [u.playN]) (hdecoded : Decoded L k j document u)
    (hlt : j < call.documents.length) (hne : asks j ≠ [])
    (harray : List.Forall₂
      (call.setFinders j (foundFinders document (call.finders j) u)).IsCourt done
      call.playOneDataArray) :
    Assembly L k (Function.update asks j [])
      ((call.setFinders j (foundFinders document (call.finders j) u)).append
        ⟨document.1, foundFinders document (call.finders j) u, courtOrder document.2⟩).1
      (done ++ [j]) where
  finders := h.finders_answered hj hasks
  decoded := h.decoded_answered hj hdecoded
  sorted := h.sorted_answered hj hasks
  courts := (h.courts.arrive (CourtsCall.perm_openCourts hlt hne)).perm
    (List.perm_append_singleton j done) (.refl _)
  array := by
    refine List.rel_append harray (.cons ⟨document, hj, ?_⟩ .nil)
    rw [CourtsCall.setFinders_self]

end Answered

/-- **One answer.** Its court loses one query in flight. With the last one
the court joins the array, and if no court is open then, the array is
handed on. -/
theorem receive (h : Assembly L k asks call done) (hj : call.documents[j]? = some document)
    {rest : List ℕ} (hasks : (asks j).Perm (i :: rest)) {userDocument : String × Doc UserTitle}
    (hdecoded : Decoded L k j document
      { decodeUser userDocument.1 userDocument.2 with playN := i }) :
    ∃ done', Assembly L k (Function.update asks j rest)
        (CourtsCall.receive j document i (call, []) userDocument).1 done' ∧
      (CourtsCall.receive j document i (call, []) userDocument).2 =
        (CourtsCall.receive j document i (call, []) userDocument).1.due
          (Function.update asks j rest) := by
  obtain ⟨u, hu⟩ : ∃ u, u = { decodeUser userDocument.1 userDocument.2 with playN := i } :=
    ⟨_, rfl⟩
  have hi : u.playN = i := by rw [hu]
  rw [← hu] at hdecoded
  rw [receive_eq hu]
  subst hi
  have hlt : j < call.documents.length := (List.getElem?_eq_some_iff.1 hj).1
  have hne : asks j ≠ [] := fun hnil => List.cons_ne_nil _ _ (List.nil_perm.1 (hnil ▸ hasks))
  have hnot : j ∉ done := h.courts.not_mem_arrived List.nodup_range
    (CourtsCall.mem_openCourts.2 ⟨hlt, hne⟩)
  have hfull := h.length_foundFinders_eq_iff hj hasks
  have harray : List.Forall₂
      (call.setFinders j (foundFinders document (call.finders j) u)).IsCourt done
      call.playOneDataArray :=
    forall₂_of_mem h.array fun j' hj' playOne hcourt =>
      hcourt.setFinders fun hjj => hnot (hjj ▸ hj')
  by_cases hrest : rest = []
  · -- the last finder of the court
    subst hrest
    rw [if_pos (hfull.2 rfl)]
    have hnew := h.last_answered hj hasks hdecoded hlt hne harray
    exact ⟨done ++ [j], hnew, if_congr hnew.length_array_eq_iff rfl rfl⟩
  · -- the court is still open, so nothing is due
    rw [if_neg fun hl => hrest (hfull.1 hl)]
    have hopen : call.openCourts (Function.update asks j rest) = call.openCourts asks :=
      CourtsCall.openCourts_congr fun j' => by
        by_cases hjj : j' = j
        · subst hjj
          rw [Function.update_self]
          exact iff_of_false hrest hne
        · rw [Function.update_of_ne hjj]
    refine ⟨done, ⟨h.finders_answered hj hasks, h.decoded_answered hj hdecoded,
      h.sorted_answered hj hasks, ?_, harray⟩, ?_⟩
    · have hcourts := h.courts
      rwa [← hopen] at hcourts
    · have hj' : j ∈ call.openCourts (Function.update asks j rest) := by
        rw [hopen]
        exact CourtsCall.mem_openCourts.2 ⟨hlt, hne⟩
      exact (if_neg (List.ne_nil_of_mem hj')).symm

end Assembly

end Volleyer
