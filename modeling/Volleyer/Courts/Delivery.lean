import Mathlib.Tactic.IntervalCases
import Volleyer.Common.Projects
import Volleyer.Courts.Assembly
import Volleyer.Roster.Sample

/-!
# Courts — every call is delivered once

Along a run each call is an `Assembly` of the queries it has in flight,
and the delegate was handed its array exactly if there are none. A call
begins in the loop over its snapshot, which appends the courts without
ids and issues all the queries; it goes on one answer at a time.
-/

namespace Volleyer

variable {L : CourtsLog} {k j : ℕ} {ts : List CourtsTask} {s : Courts}
variable {D : List (String × Doc CourtTitle)}

/-- The index a task asks for, of a court of a call. -/
def CourtsTask.asks (k j : ℕ) : CourtsTask → Option ℕ
  | .getCourts => none
  | .getUser k' j' _ i _ => if k' = k ∧ j' = j then some i else none

/-- The queries in flight for a court of a call. -/
def asked (ts : List CourtsTask) (k j : ℕ) : List ℕ := ts.filterMap (CourtsTask.asks k j)

/-- The number of ids of the court at a position. -/
def finderCount (D : List (String × Doc CourtTitle)) (j : ℕ) : ℕ :=
  (D[j]?.map fun document => (finderIds document.2).length).getD 0

/-! ## The loop over the snapshot -/

theorem zipIdx_flatMap_ite {α β : Type*} (l : List α) (g : α → List β) (n j : ℕ) :
    ((l.zipIdx n).flatMap fun d => if d.2 = n + j then g d.1 else []) = (l[j]?.map g).getD [] := by
  induction l generalizing n j with
  | nil => rfl
  | cons a l ih =>
    rw [List.zipIdx_cons, List.flatMap_cons]
    cases j with
    | zero =>
      have hrest :
          ((l.zipIdx (n + 1)).flatMap fun d => if d.2 = n + 0 then g d.1 else []) = [] := by
        refine List.flatMap_eq_nil_iff.2 fun d hd => if_neg ?_
        have hle := List.le_snd_of_mem_zipIdx hd
        omega
      rw [hrest, if_pos (Nat.add_zero n).symm, List.append_nil]
      rfl
    | succ j =>
      have hshift : n + (j + 1) = n + 1 + j := by omega
      have hne : ¬n = n + (j + 1) := by omega
      rw [if_neg hne, List.nil_append, hshift, ih (n + 1) j]
      rfl

theorem asked_getUsers (document : String × Doc CourtTitle) (p k' : ℕ) :
    asked (getUsers k' document p) k j =
      if p = j then (if k' = k then List.range (finderIds document.2).length else []) else [] := by
  rw [asked, getUsers, List.filterMap_map]
  by_cases hpj : p = j
  · by_cases hk : k' = k
    · rw [if_pos hpj, if_pos hk]
      have hall : ∀ x ∈ (finderIds document.2).zipIdx,
          (CourtsTask.asks k j ∘ fun q => CourtsTask.getUser k' p document q.2 q.1) x = some x.2 :=
        fun x _ => if_pos ⟨hk, hpj⟩
      rw [List.filterMap_congr hall, List.filterMap_eq_map', List.zipIdx_map_snd]
      exact List.range_eq_range'.symm
    · rw [if_pos hpj, if_neg hk]
      exact List.filterMap_eq_nil_iff.2 fun x _ => if_neg fun h => hk h.1
  · rw [if_neg hpj]
    exact List.filterMap_eq_nil_iff.2 fun x _ => if_neg fun h => hpj h.2

/-- The queries the loop issues ask for every finder of every court. -/
theorem asked_loop (D : List (String × Doc CourtTitle)) (k' : ℕ) :
    asked (D.zipIdx.flatMap fun d => getUsers k' d.1 d.2) k j =
      if k' = k then List.range (finderCount D j) else [] := by
  have hflat : asked (D.zipIdx.flatMap fun d => getUsers k' d.1 d.2) k j =
      D.zipIdx.flatMap fun d => asked (getUsers k' d.1 d.2) k j := List.filterMap_flatMap ..
  have hzip := zipIdx_flatMap_ite D (fun document : String × Doc CourtTitle =>
    if k' = k then List.range (finderIds document.2).length else []) 0 j
  rw [Nat.zero_add] at hzip
  rw [hflat]
  simp only [asked_getUsers]
  rw [hzip, finderCount]
  cases D[j]? with
  | none => simp
  | some document => rfl

/-- Whether the court at a position has no ids. -/
def isEmptyCourt (D : List (String × Doc CourtTitle)) (j : ℕ) : Bool := finderCount D j = 0

/-- **The loop over a part of the snapshot** appends its courts without
ids, and the array is full only at the end of the snapshot. -/
theorem visit_prefix (hD : D ≠ []) {p : List (String × Doc CourtTitle)} (hp : p <+: D) :
    ∃ call, p.foldl CourtsCall.visit ({ documents := D }, []) =
        (call, if D.length = call.playOneDataArray.length then [call.playOneDataArray] else []) ∧
      call.documents = D ∧ call.finders = (fun _ => []) ∧
      List.Forall₂ call.IsCourt ((List.range p.length).filter (isEmptyCourt D))
        call.playOneDataArray := by
  induction p using List.reverseRecOn with
  | nil =>
    refine ⟨{ documents := D }, ?_, rfl, rfl, .nil⟩
    have hlength : ¬D.length = ([] : List PlayOne).length := fun h =>
      hD (List.length_eq_zero_iff.1 h)
    rw [if_neg hlength]
    rfl
  | append_singleton p document ih =>
    obtain ⟨call, hfold, hdocuments, hfinders, harray⟩ :=
      ih ((List.prefix_append p [document]).trans hp)
    obtain ⟨rest, hrest⟩ := hp
    have hat : D[p.length]? = some document := by simp [← hrest]
    have hlength : p.length < D.length := by
      rw [← hrest, List.length_append, List.length_append, List.length_singleton]
      omega
    have hle : call.playOneDataArray.length ≤ p.length := by
      rw [← harray.length_eq]
      exact (List.length_filter_le ..).trans List.length_range.le
    have hlt : ¬D.length = call.playOneDataArray.length := by omega
    have hcount : finderCount D p.length =
        (finderIds document.2).length := by
      rw [finderCount, hat]
      rfl
    rw [if_neg hlt] at hfold
    rw [List.foldl_append, List.foldl_cons, List.foldl_nil, hfold, List.length_append,
      List.length_singleton, List.range_succ, List.filter_append]
    by_cases hempty : (finderIds document.2).length = 0
    · have htrue : isEmptyCourt D p.length = true := by
        rw [isEmptyCourt, hcount, hempty]
        rfl
      rw [List.filter_cons_of_pos htrue, List.filter_nil]
      refine ⟨(call.append ⟨document.1, [], courtOrder document.2⟩).1, ?_, hdocuments, hfinders,
        List.rel_append harray (.cons ⟨document, ?_, ?_⟩ .nil)⟩
      · simp only [CourtsCall.visit, if_pos hempty, CourtsCall.append, hdocuments, List.nil_append]
      · rw [hdocuments, hat]
      · rw [hfinders]
    · have hfalse : ¬isEmptyCourt D p.length = true := by
        rw [isEmptyCourt, hcount, decide_eq_true_eq]
        exact hempty
      rw [List.filter_cons_of_neg hfalse, List.filter_nil, List.append_nil]
      refine ⟨call, ?_, hdocuments, hfinders, harray⟩
      rw [CourtsCall.visit, if_neg hempty, if_neg hlt]

/-- What a call hands to the delegate: of an empty snapshot nothing. -/
def CourtsCall.handed (call : CourtsCall) (asks : ℕ → List ℕ) : List (List PlayOne) :=
  if call.documents = [] then [] else call.due asks

/-- A call of an empty snapshot has nothing to wait for. -/
theorem assembly_empty (asks : ℕ → List ℕ) : Assembly L k asks { documents := [] } [] where
  finders hj := by cases hj
  decoded hj := by cases hj
  sorted hj := by cases hj
  courts := .start []
  array := .nil

/-- A call whose loop has run, with its queries in flight. -/
theorem assembly_loop (D : List (String × Doc CourtTitle)) :
    ∃ call, D.foldl CourtsCall.visit ({ documents := D }, []) =
        (call, call.handed fun j => List.range (finderCount D j)) ∧ call.documents = D ∧
      ∃ done, Assembly L k (fun j => List.range (finderCount D j)) call done := by
  by_cases hD : D = []
  · subst hD
    exact ⟨_, rfl, rfl, _, assembly_empty _⟩
  obtain ⟨call, hfold, hdocuments, hfinders, harray⟩ := visit_prefix hD (List.prefix_refl D)
  have hcount : ∀ {j document}, call.documents[j]? = some document →
      (finderIds document.2).length = finderCount D j := fun {j document} hj => by
    rw [finderCount, ← hdocuments, hj]
    rfl
  have hopen : call.openCourts (fun j => List.range (finderCount D j)) =
      (List.range D.length).filter fun j => !isEmptyCourt D j := by
    rw [CourtsCall.openCourts, hdocuments]
    refine List.filter_congr fun j _ => ?_
    rw [isEmptyCourt, ← decide_not, decide_eq_decide, Ne, List.range_eq_nil]
  have hassembly : Assembly L k (fun j => List.range (finderCount D j)) call
      ((List.range D.length).filter (isEmptyCourt D)) :=
    { finders := fun {j document} hj => by
        rw [hfinders, hcount hj]
        exact Awaits.start _
      decoded := fun {j document u} hj hu => by
        rw [hfinders] at hu
        cases hu
      sorted := fun {j document} hj hnil => by
        rw [hfinders, hcount hj, hnil]
        rfl
      courts := by
        rw [hopen, hdocuments]
        exact List.filter_append_perm _ _
      array := harray }
  refine ⟨call, ?_, hdocuments, _, hassembly⟩
  have hfull := hassembly.length_array_eq_iff
  rw [hdocuments] at hfull
  rw [hfold, CourtsCall.handed, hdocuments, if_neg hD, CourtsCall.due]
  exact congrArg (Prod.mk call) (if_congr hfull rfl rfl)

/-! ## Along a run -/

/-- The snapshot an answer gives a call. -/
def snapshot : Courts × CourtsTask × Reply → Option (List (String × Doc CourtTitle))
  | (s, .getCourts, .ok) => some s.playOneCourts.entries
  | _ => none

/-- **Every call of a configuration is under way**, and was delivered if
it is not any more. -/
structure Delivering (L : CourtsLog) (c : Config Courts CourtsTask) : Prop where
  known : ∀ {k j document i userId}, .getUser k j document i userId ∈ c.pending →
    ∃ call, c.state.calls[k]? = some call ∧ call.documents[j]? = some document ∧
      (finderIds document.2)[i]? = some userId
  snapshots : L.filterMap snapshot = c.state.calls.map CourtsCall.documents
  numbered : ∀ p ∈ c.state.notified, p.1 < c.state.calls.length
  assembly : ∀ {k call}, c.state.calls[k]? = some call →
    ∃ done, Assembly L k (asked c.pending k) call done ∧
      c.state.notifiedBy k = call.due (asked c.pending k)

/-- **Every call of a configuration is under way**, of whatever snapshot. -/
structure Underway (L : CourtsLog) (c : Config Courts CourtsTask) : Prop where
  known : ∀ {k j document i userId}, .getUser k j document i userId ∈ c.pending →
    ∃ call, c.state.calls[k]? = some call ∧ call.documents[j]? = some document ∧
      (finderIds document.2)[i]? = some userId
  snapshots : L.filterMap snapshot = c.state.calls.map CourtsCall.documents
  numbered : ∀ p ∈ c.state.notified, p.1 < c.state.calls.length
  assembly : ∀ {k call}, c.state.calls[k]? = some call →
    ∃ done, Assembly L k (asked c.pending k) call done ∧
      c.state.notifiedBy k = call.handed (asked c.pending k)

/-- No query of a user fails, and every id in flight matches one. -/
def MatchingUsers (c : Config Courts CourtsTask) : Event CourtsEvent Reply → Prop
  | .call _ => True
  | .answer n r => match c.pending[n]? with
    | some (.getUser _ _ _ _ userId) =>
        r = .ok ∧ (c.state.usersWithFirebaseId userId).length = 1
    | _ => True

/-- No query fails, every id in flight matches one user, and a snapshot
of the courts is not empty. -/
def Matching (c : Config Courts CourtsTask) : Event CourtsEvent Reply → Prop
  | .call _ => True
  | .answer n r => match c.pending[n]? with
    | some .getCourts => r = .ok → c.state.playOneCourts.entries ≠ []
    | some (.getUser _ _ _ _ userId) =>
        r = .ok ∧ (c.state.usersWithFirebaseId userId).length = 1
    | none => True

theorem asked_append (ts ts' : List CourtsTask) (k j : ℕ) :
    asked (ts ++ ts') k j = asked ts k j ++ asked ts' k j :=
  List.filterMap_append

theorem asked_perm {ts' : List CourtsTask} (h : ts.Perm ts') (k j : ℕ) :
    (asked ts k j).Perm (asked ts' k j) :=
  h.filterMap _

/-- A callback that is not of a court leaves the queries for it. -/
theorem asked_eraseIdx {n : ℕ} {t : CourtsTask} (hn : ts[n]? = some t) (ht : t.asks k j = none) :
    asked (ts.eraseIdx n) k j = asked ts k j :=
  filterMap_eraseIdx_of_none hn ht

theorem mem_asked {i : ℕ} : i ∈ asked ts k j ↔
    ∃ document userId, .getUser k j document i userId ∈ ts := by
  simp only [asked, List.mem_filterMap]
  constructor
  · rintro ⟨t, ht, hi⟩
    cases t with
    | getCourts => cases hi
    | getUser k' j' document i' userId =>
      obtain ⟨⟨rfl, rfl⟩, heq⟩ := Option.ite_none_right_eq_some.1 hi
      obtain rfl := Option.some.inj heq
      exact ⟨document, userId, ht⟩
  · rintro ⟨document, userId, ht⟩
    exact ⟨_, ht, if_pos ⟨rfl, rfl⟩⟩

theorem CourtsCall.handed_perm {call : CourtsCall} {asks asks' : ℕ → List ℕ}
    (h : ∀ j, (asks' j).Perm (asks j)) : call.handed asks' = call.handed asks := by
  have hopen : call.openCourts asks' = call.openCourts asks :=
    CourtsCall.openCourts_congr fun j =>
      ⟨fun hnil => List.perm_nil.1 (hnil ▸ (h j).symm), fun hnil => List.perm_nil.1 (hnil ▸ h j)⟩
  rw [CourtsCall.handed, CourtsCall.handed, CourtsCall.due, CourtsCall.due, hopen]

/-- A snapshot with a document at some position is not empty. -/
theorem CourtsCall.handed_of_getElem? {call : CourtsCall} {document : String × Doc CourtTitle}
    (hj : call.documents[j]? = some document) (asks : ℕ → List ℕ) :
    call.handed asks = call.due asks :=
  if_neg fun hnil => by
    rw [hnil] at hj
    cases hj

theorem Courts.notifiedBy_append (s : Courts) (k k' : ℕ) (calls : List CourtsCall)
    (l : List (List PlayOne)) :
    Courts.notifiedBy { s with calls := calls, notified := s.notified ++ l.map (k', ·) } k =
      s.notifiedBy k ++ if k' = k then l else [] := by
  rw [Courts.notifiedBy, Courts.notifiedBy, List.filter_append, List.map_append]
  congr 1
  by_cases hk : k' = k
  · rw [if_pos hk, List.filter_eq_self.2, List.map_map]
    · exact List.map_id l
    · rintro p hp
      obtain ⟨x, -, rfl⟩ := List.mem_map.1 hp
      exact decide_eq_true hk
  · rw [if_neg hk, List.filter_eq_nil_iff.2, List.map_nil]
    rintro p hp
    obtain ⟨x, -, rfl⟩ := List.mem_map.1 hp
    exact fun h => hk (of_decide_eq_true h)

theorem receive_documents {call : CourtsCall} {document : String × Doc CourtTitle} {i : ℕ}
    {e : String × Doc UserTitle} :
    (CourtsCall.receive j document i (call, []) e).1.documents = call.documents := by
  rw [Assembly.receive_eq rfl]
  split <;> rfl

namespace Underway

variable {c : Config Courts CourtsTask}

theorem start (users : Collection String (Doc UserTitle))
    (playOneCourts : Collection String (Doc CourtTitle)) :
    Underway [] (Config.start (Courts.start users playOneCourts)) where
  known ht := absurd ht List.not_mem_nil
  snapshots := rfl
  numbered p hp := absurd hp List.not_mem_nil
  assembly hk := by simp [Courts.start] at hk

/-- What neither answers nor issues a query of a user leaves the calls. -/
theorem of_quiet {L' : CourtsLog} {s' : Courts} {ts : List CourtsTask} {past : List Courts}
    (h : Underway L c) (hcalls : s'.calls = c.state.calls)
    (hnotified : s'.notified = c.state.notified) (hL : ∀ x ∈ L, x ∈ L')
    (hsnapshots : L'.filterMap snapshot = L.filterMap snapshot)
    (hts : ∀ {k j document i userId}, CourtsTask.getUser k j document i userId ∈ ts →
      .getUser k j document i userId ∈ c.pending)
    (hasked : ∀ k j, (asked ts k j).Perm (asked c.pending k j)) :
    Underway L' ⟨s', past, ts⟩ where
  known ht := by
    rw [hcalls]
    exact h.known (hts ht)
  snapshots := by rw [hsnapshots, h.snapshots, hcalls]
  numbered := by
    rw [hnotified, hcalls]
    exact h.numbered
  assembly {k call} hk := by
    rw [hcalls] at hk
    obtain ⟨done, hassembly, hby⟩ := h.assembly hk
    refine ⟨done, (hassembly.mono hL).perm (hasked k), ?_⟩
    have hsame : s'.notifiedBy k = c.state.notifiedBy k := by
      rw [Courts.notifiedBy, Courts.notifiedBy, hnotified]
    rw [CourtsCall.handed_perm (hasked k), ← hby]
    exact hsame

/-- A call begins: its snapshot is answered and its loop runs. -/
theorem answer_getCourts (h : Underway L c) {n : ℕ} (hn : c.pending[n]? = some .getCourts) :
    Underway (L ++ [(c.state, .getCourts, .ok)])
      ⟨(courtsAnswerOk c.state .getCourts).1, c.seen,
        c.pending.eraseIdx n ++ (courtsAnswerOk c.state .getCourts).2⟩ := by
  have hasked : ∀ k j, asked (c.pending.eraseIdx n) k j = asked c.pending k j :=
    fun _ _ => asked_eraseIdx hn rfl
  obtain ⟨call, hfold, hdocuments, done, hassembly⟩ :=
    assembly_loop (L := L ++ [(c.state, .getCourts, .ok)]) (k := c.state.calls.length)
      c.state.playOneCourts.entries
  have hold : ∀ {k call}, c.state.calls[k]? = some call → k < c.state.calls.length :=
    fun hk => (List.getElem?_eq_some_iff.1 hk).1
  have hanswer : courtsAnswerOk c.state .getCourts =
      ({ c.state with
          calls := c.state.calls ++ [call]
          notified := c.state.notified ++
            (call.handed fun j => List.range (finderCount c.state.playOneCourts.entries j)).map
              (c.state.calls.length, ·) },
        c.state.playOneCourts.entries.zipIdx.flatMap fun d =>
          getUsers c.state.calls.length d.1 d.2) := by
    simp only [courtsAnswerOk, hfold]
  rw [hanswer]
  have hlength : (c.state.calls ++ [call]).length = c.state.calls.length + 1 :=
    List.length_append
  refine ⟨fun {k' j' document' i' userId'} ht => ?_, ?_, fun p hp => ?_, fun {k' call'} hk' => ?_⟩
  · rcases Machine.mem_eraseIdx_append ht with ht | ht
    · obtain ⟨call', hk', hj', hid'⟩ := h.known ht
      exact ⟨call', (List.getElem?_append_left (hold hk')).trans hk', hj', hid'⟩
    · obtain ⟨⟨document, position⟩, hd, ht⟩ := List.mem_flatMap.1 ht
      obtain ⟨⟨userId, i⟩, hi, heq⟩ := List.mem_map.1 ht
      obtain ⟨rfl, rfl, rfl, rfl, rfl⟩ := CourtsTask.getUser.inj heq
      refine ⟨call, List.getElem?_concat_length, ?_, List.mem_zipIdx_iff_getElem?.1 hi⟩
      rw [hdocuments]
      exact List.mem_zipIdx_iff_getElem?.1 hd
  · rw [List.filterMap_append, h.snapshots, List.map_append]
    exact congrArg (_ ++ [·]) hdocuments.symm
  · refine lt_of_lt_of_eq ?_ hlength.symm
    rcases List.mem_append.1 hp with hp | hp
    · exact Nat.lt_succ_of_lt (h.numbered p hp)
    · obtain ⟨x, -, rfl⟩ := List.mem_map.1 hp
      exact Nat.lt_succ_self _
  · have hnotified := c.state.notifiedBy_append k' c.state.calls.length (c.state.calls ++ [call])
      (call.handed fun j => List.range (finderCount c.state.playOneCourts.entries j))
    have hadded : ∀ j, asked (c.pending.eraseIdx n ++
        c.state.playOneCourts.entries.zipIdx.flatMap fun d =>
          getUsers c.state.calls.length d.1 d.2) k' j = asked (c.pending.eraseIdx n) k' j ++
        if c.state.calls.length = k' then
          List.range (finderCount c.state.playOneCourts.entries j) else [] := fun j => by
      rw [asked_append, asked_loop]
    by_cases hk : c.state.calls.length = k'
    · subst hk
      obtain rfl : call = call' := Option.some.inj (List.getElem?_concat_length.symm.trans hk')
      -- a call that begins has no earlier query in flight, and was not delivered
      have hnone : ∀ j, asked (c.pending.eraseIdx n) c.state.calls.length j = [] := fun j => by
        refine List.eq_nil_iff_forall_not_mem.2 fun i hi => ?_
        obtain ⟨document, userId, ht⟩ := mem_asked.1 hi
        obtain ⟨call', hk', -⟩ := h.known (List.mem_of_mem_eraseIdx ht)
        exact absurd (hold hk') (lt_irrefl _)
      have hby : c.state.notifiedBy c.state.calls.length = [] := by
        rw [Courts.notifiedBy, List.filter_eq_nil_iff.2, List.map_nil]
        exact fun p hp hpk => (h.numbered p hp).ne (of_decide_eq_true hpk)
      have hall : ∀ j, (asked (c.pending.eraseIdx n ++
          c.state.playOneCourts.entries.zipIdx.flatMap fun d =>
            getUsers c.state.calls.length d.1 d.2) c.state.calls.length j).Perm
          (List.range (finderCount c.state.playOneCourts.entries j)) := fun j => by
        rw [hadded j, hnone j, if_pos rfl, List.nil_append]
      rw [if_pos rfl, hby, List.nil_append] at hnotified
      exact ⟨done, hassembly.perm hall, hnotified.trans (CourtsCall.handed_perm hall).symm⟩
    · have hlt : k' < c.state.calls.length := by
        have hle := (List.getElem?_eq_some_iff.1 hk').1
        have hle' : k' < c.state.calls.length + 1 := lt_of_lt_of_eq hle hlength
        omega
      have hk'' : c.state.calls[k']? = some call' :=
        (List.getElem?_append_left hlt).symm.trans hk'
      obtain ⟨done', hassembly', hby'⟩ := h.assembly hk''
      have hall : ∀ j, (asked (c.pending.eraseIdx n ++
          c.state.playOneCourts.entries.zipIdx.flatMap fun d =>
            getUsers c.state.calls.length d.1 d.2) k' j).Perm (asked c.pending k' j) := fun j => by
        rw [hadded j, if_neg hk, List.append_nil, hasked k' j]
      rw [if_neg hk, List.append_nil, hby', ← CourtsCall.handed_perm hall] at hnotified
      exact ⟨done', (hassembly'.mono fun x hx => List.mem_append_left _ hx).perm hall, hnotified⟩

/-- A call goes on: one query of it is answered. -/
theorem answer_getUser (h : Underway L c) {n k j i : ℕ} {document : String × Doc CourtTitle}
    {userId : String} (hn : c.pending[n]? = some (.getUser k j document i userId))
    (hmatch : (c.state.usersWithFirebaseId userId).length = 1) :
    Underway (L ++ [(c.state, .getUser k j document i userId, .ok)])
      ⟨(courtsAnswerOk c.state (.getUser k j document i userId)).1, c.seen,
        c.pending.eraseIdx n ++ (courtsAnswerOk c.state (.getUser k j document i userId)).2⟩ := by
  obtain ⟨call, hk, hj, hid⟩ := h.known (List.mem_of_getElem? hn)
  obtain ⟨e, he⟩ := List.length_eq_one_iff.1 hmatch
  obtain ⟨done, hassembly, hby⟩ := h.assembly hk
  have hasks : (asked c.pending k j).Perm (i :: asked (c.pending.eraseIdx n) k j) := by
    have hfirst := asked_perm (Machine.perm_cons_eraseIdx hn) k j
    have hcons : asked (.getUser k j document i userId :: c.pending.eraseIdx n) k j =
        i :: asked (c.pending.eraseIdx n) k j := List.filterMap_cons_some (if_pos ⟨rfl, rfl⟩)
    rwa [hcons] at hfirst
  have hother : ∀ k' j', ¬(k = k' ∧ j = j') →
      (asked (c.pending.eraseIdx n) k' j').Perm (asked c.pending k' j') := by
    intro k' j' hne
    rw [asked_eraseIdx hn (if_neg hne)]
  -- the one matching user is what the court's place at `i` is filled with
  have hdecoded : Decoded (L ++ [(c.state, .getUser k j document i userId, .ok)]) k j document
      { decodeUser e.1 e.2 with playN := i } :=
    ⟨userId, c.state, e, hid, List.mem_append_right _ List.mem_cons_self, he, rfl⟩
  obtain ⟨done', hreceived, hdue⟩ :=
    (hassembly.mono fun x hx => List.mem_append_left _ hx).receive hj hasks hdecoded
  have hdocument : (CourtsCall.receive j document i (call, []) e).1.documents[j]? =
      some document := by rw [receive_documents, hj]
  -- the call was not due before: this query was still in flight
  have hopen : call.handed (asked c.pending k) = [] := by
    rw [CourtsCall.handed_of_getElem? hj]
    refine if_neg (List.ne_nil_of_mem (a := j) (CourtsCall.mem_openCourts.2 ⟨?_, ?_⟩))
    · exact (List.getElem?_eq_some_iff.1 hj).1
    · exact fun hnil => List.cons_ne_nil _ _ (List.nil_perm.1 (hnil ▸ hasks))
  have hupdate : ∀ j', (asked (c.pending.eraseIdx n) k j').Perm
      (Function.update (asked c.pending k) j (asked (c.pending.eraseIdx n) k j) j') := fun j' => by
    by_cases hjj : j' = j
    · subst hjj
      rw [Function.update_self]
    · rw [Function.update_of_ne hjj]
      exact hother k j' fun h => hjj h.2.symm
  have hanswer : courtsAnswerOk c.state (.getUser k j document i userId) =
      (c.state.setCall k (CourtsCall.receive j document i (call, []) e), []) := by
    simp only [courtsAnswerOk, hk, he, List.foldl_cons, List.foldl_nil]
  rw [hanswer, List.append_nil]
  have hlt : k < c.state.calls.length := (List.getElem?_eq_some_iff.1 hk).1
  have hdocuments : (c.state.calls.set k (CourtsCall.receive j document i (call, []) e).1).map
      CourtsCall.documents = c.state.calls.map CourtsCall.documents :=
    map_set_of_eq hk receive_documents
  refine ⟨fun {k' j' document' i' userId'} ht => ?_, ?_, ?_, fun {k' call'} hk' => ?_⟩
  · obtain ⟨call', hk', hj', hid'⟩ := h.known (List.mem_of_mem_eraseIdx ht)
    have hsame := congrArg (fun l => l[k']?) hdocuments
    simp only [List.getElem?_map, hk', Option.map_some] at hsame
    obtain ⟨call'', hk'', heq⟩ := Option.map_eq_some_iff.1 hsame
    exact ⟨call'', hk'', by rw [heq, hj'], hid'⟩
  · rw [List.filterMap_append, h.snapshots]
    exact (List.append_nil _).trans hdocuments.symm
  · intro p hp
    have hlength : (c.state.setCall k (CourtsCall.receive j document i (call, []) e)).calls.length =
        c.state.calls.length := List.length_set
    rw [hlength]
    rcases List.mem_append.1 hp with hp | hp
    · exact h.numbered p hp
    · obtain ⟨x, -, rfl⟩ := List.mem_map.1 hp
      exact hlt
  · have hnotified := c.state.notifiedBy_append k' k
      (c.state.calls.set k (CourtsCall.receive j document i (call, []) e).1)
      (CourtsCall.receive j document i (call, []) e).2
    by_cases hkk : k = k'
    · subst hkk
      have hself : (c.state.calls.set k (CourtsCall.receive j document i (call, []) e).1)[k]? =
          some call' := hk'
      rw [List.getElem?_set_self hlt, Option.some.injEq] at hself
      subst hself
      rw [if_pos rfl, hby, hopen, List.nil_append] at hnotified
      exact ⟨done', hreceived.perm hupdate,
        hnotified.trans (hdue.trans ((CourtsCall.handed_of_getElem? hdocument _).symm.trans
          (CourtsCall.handed_perm hupdate).symm))⟩
    · have hget : (c.state.calls.set k (CourtsCall.receive j document i (call, []) e).1)[k']? =
          some call' := hk'
      rw [List.getElem?_set_ne hkk] at hget
      obtain ⟨done'', hassembly', hby'⟩ := h.assembly hget
      have hp := fun j' => hother k' j' fun h => hkk h.1
      rw [if_neg hkk, List.append_nil, hby', ← CourtsCall.handed_perm hp] at hnotified
      exact ⟨done'', (hassembly'.mono fun x hx => List.mem_append_left _ hx).perm hp, hnotified⟩

end Underway

variable {users : Collection String (Doc UserTitle)}
variable {playOneCourts : Collection String (Doc CourtTitle)} {c : Config Courts CourtsTask}
variable {evs : List (Event CourtsEvent Reply)}

theorem underway_of_run
    (h : courts.Run MatchingUsers (Config.start (Courts.start users playOneCourts)) evs c) :
    Underway (courts.answered (Config.start (Courts.start users playOneCourts)) evs) c := by
  induction h with
  | nil => exact .start users playOneCourts
  | @snoc evs c e c' hr he hs ih =>
    rw [hr.answered_snoc hs]
    rcases Machine.step_cases hs with ⟨a, s, ts, rfl, hi, rfl⟩ | ⟨n, r, t, rfl, hn, rfl⟩
    · rw [Config.answered, List.append_nil]
      cases a with
      | getPlayOneCourts =>
        obtain ⟨rfl, rfl⟩ := Prod.mk.inj (Option.some.inj hi)
        refine ih.of_quiet rfl rfl (fun _ hx => hx) rfl (fun ht => ?_) fun k j => ?_
        · rcases List.mem_append.1 ht with ht | ht
          · exact ht
          · cases List.mem_singleton.1 ht
        · rw [asked_append]
          exact .of_eq (List.append_nil _)
      | write users playOneCourts =>
        obtain ⟨rfl, rfl⟩ := Prod.mk.inj (Option.some.inj hi)
        rw [List.append_nil]
        exact ih.of_quiet rfl rfl (fun _ hx => hx) rfl (fun ht => ht) fun k j => .refl _
    · have hanswered : c.answered (.answer n r : Event CourtsEvent Reply) =
          [(c.state, t, r)] := by
        rw [Config.answered, hn, Option.map_some, Option.toList_some]
      rw [hanswered]
      cases t with
      | getUser k j document i userId =>
        simp only [MatchingUsers, hn] at he
        obtain ⟨rfl, hmatch⟩ := he
        exact ih.answer_getUser hn hmatch
      | getCourts =>
        cases r with
        | ok => exact ih.answer_getCourts hn
        | failed =>
          have hpending : (courts.answer c.state .getCourts .failed).2 = [] := rfl
          rw [hpending, List.append_nil]
          refine ih.of_quiet rfl rfl (fun _ hx => List.mem_append_left _ hx) ?_
            (fun ht => List.mem_of_mem_eraseIdx ht) fun k j => ?_
          · rw [List.filterMap_append]
            exact List.append_nil _
          · rw [asked_eraseIdx hn rfl]

theorem matchingUsers_of_matching {e : Event CourtsEvent Reply} (h : Matching c e) :
    MatchingUsers c e := by
  cases e with
  | call a => trivial
  | answer n r =>
    cases hn : c.pending[n]? with
    | none => simp only [MatchingUsers, hn]
    | some t =>
      simp only [Matching, hn] at h
      cases t with
      | getCourts => simp only [MatchingUsers, hn]
      | getUser k j document i userId =>
        simp only [MatchingUsers, hn]
        exact h

/-- No snapshot that is read is empty. -/
theorem snapshot_ne_nil
    (h : courts.Run Matching (Config.start (Courts.start users playOneCourts)) evs c) :
    ∀ documents ∈ (courts.answered (Config.start (Courts.start users playOneCourts)) evs).filterMap
      snapshot, documents ≠ [] := by
  have hread := h.forall_answered_ok (P := fun x => ∀ documents, snapshot x = some documents →
    documents ≠ []) fun {c i r t} hok ht documents hx => ?_
  · intro documents hdocuments
    obtain ⟨x, hx, hsnapshot⟩ := List.mem_filterMap.1 hdocuments
    exact hread x hx documents hsnapshot
  · simp only [Matching, ht] at hok
    cases t with
    | getUser => cases hx
    | getCourts =>
      cases r with
      | failed => cases hx
      | ok => exact Option.some.inj hx ▸ hok rfl

theorem delivering_of_run
    (h : courts.Run Matching (Config.start (Courts.start users playOneCourts)) evs c) :
    Delivering (courts.answered (Config.start (Courts.start users playOneCourts)) evs) c := by
  have hunderway := underway_of_run (h.mono fun _ _ => matchingUsers_of_matching)
  refine ⟨hunderway.known, hunderway.snapshots, hunderway.numbered, fun {k call} hk => ?_⟩
  obtain ⟨done, hassembly, hby⟩ := hunderway.assembly hk
  have hne : call.documents ≠ [] := by
    refine snapshot_ne_nil h _ ?_
    rw [hunderway.snapshots]
    exact List.mem_map_of_mem (List.mem_of_getElem? hk)
  exact ⟨done, hassembly, hby.trans (if_neg hne)⟩

/-- **A court as it is to be delivered**: its finders are the users its
ids matched, in the order of the ids. -/
structure Assembled (L : CourtsLog) (k j : ℕ) (document : String × Doc CourtTitle)
    (playOne : PlayOne) : Prop where
  court : playOne.court = document.1
  order : playOne.order = courtOrder document.2
  length : playOne.finders.length = (finderIds document.2).length
  finder : ∀ {i userId}, (finderIds document.2)[i]? = some userId →
    ∃ s e, (s, .getUser k j document i userId, .ok) ∈ L ∧ s.usersWithFirebaseId userId = [e] ∧
      playOne.finders[i]? = some { decodeUser e.1 e.2 with playN := i }

/-- A call a task is a query of. -/
def CourtsTask.call : CourtsTask → Option ℕ
  | .getCourts => none
  | .getUser k _ _ _ _ => some k

theorem Assembly.assembled {asks : ℕ → List ℕ} {call : CourtsCall} {done : List ℕ}
    (h : Assembly L k asks call done) {document : String × Doc CourtTitle}
    (hj : call.documents[j]? = some document) (hasks : asks j = []) :
    Assembled L k j document ⟨document.1, call.finders j, courtOrder document.2⟩ := by
  have hsorted := h.sorted hj hasks
  have hlength := congrArg List.length hsorted
  rw [List.length_map, List.length_range] at hlength
  refine ⟨rfl, rfl, hlength, fun {i userId} hid => ?_⟩
  have hlt : i < (call.finders j).length := by
    rw [hlength]
    exact (List.getElem?_eq_some_iff.1 hid).1
  have hplayN : (call.finders j)[i].playN = i := by
    have hget := congrArg (fun l => l[i]?) hsorted
    simp only [List.getElem?_map, List.getElem?_eq_getElem hlt, Option.map_some,
      List.getElem?_range (hlength ▸ hlt), Option.some.injEq] at hget
    exact hget
  obtain ⟨userId', s, e, hid', hx, he, heq⟩ := h.decoded hj (List.getElem_mem hlt)
  rw [hplayN] at hid' hx heq
  obtain rfl := Option.some.inj (hid.symm.trans hid')
  refine ⟨s, e, hx, he, ?_⟩
  rw [← heq, List.getElem?_eq_getElem hlt]

/-- The ids of a snapshot, by position. -/
def courtAt (D : List (String × Doc CourtTitle)) (j : ℕ) : String :=
  (D[j]?.map Prod.fst).getD ""

theorem map_range_court (D : List (String × Doc CourtTitle)) :
    (List.range D.length).map (courtAt D) = D.map Prod.fst := by
  refine List.ext_getElem (by simp) fun j hj hj' => ?_
  have hlt : j < D.length := by simpa using hj
  simp [courtAt, hlt]

namespace CourtsCall

variable {call : CourtsCall} {done : List ℕ} {array : List PlayOne}

/-- The courts of the array are those of the positions done. -/
theorem map_court (h : List.Forall₂ call.IsCourt done array) :
    array.map PlayOne.court = done.map (courtAt call.documents) := by
  induction h with
  | nil => rfl
  | @cons j playOne done array hcourt _ ih =>
    obtain ⟨document, hj, rfl⟩ := hcourt
    rw [List.map_cons, List.map_cons, ih, courtAt, hj]
    rfl

theorem exists_isCourt (h : List.Forall₂ call.IsCourt done array) {playOne : PlayOne}
    (hp : playOne ∈ array) : ∃ j, call.IsCourt j playOne := by
  induction h with
  | nil => cases hp
  | @cons j playOne' done array hcourt _ ih =>
    rcases List.mem_cons.1 hp with rfl | hp
    · exact ⟨j, hcourt⟩
    · exact ih hp

end CourtsCall

/-- An array with nothing to wait for has every court of the snapshot. -/
theorem Assembly.perm_court {asks : ℕ → List ℕ} {call : CourtsCall} {done : List ℕ}
    (h : Assembly L k asks call done) (hopen : call.openCourts asks = []) :
    (call.playOneDataArray.map PlayOne.court).Perm (call.documents.map Prod.fst) := by
  have hcourts := h.courts
  rw [hopen] at hcourts
  rw [CourtsCall.map_court h.array, ← map_range_court call.documents]
  exact hcourts.perm_keys.map _

/-- **Every call is delivered once.** A call that has read a snapshot is
delivered while none of its queries is in flight any more and not while
one is: one list, each court of the snapshot once, with its finders in
the order of its ids. -/
theorem courts_of_run
    (h : courts.Run Matching (Config.start (Courts.start users playOneCourts)) evs c)
    {documents : List (String × Doc CourtTitle)}
    (hk : ((courts.answered (Config.start (Courts.start users playOneCourts)) evs).filterMap
      snapshot)[k]? = some documents) :
    ((∃ t ∈ c.pending, t.call = some k) → c.state.notifiedBy k = []) ∧
    ((∀ t ∈ c.pending, t.call ≠ some k) → ∃ playOnes, c.state.notifiedBy k = [playOnes] ∧
      (playOnes.map PlayOne.court).Perm (documents.map Prod.fst) ∧
      (playOnes.map PlayOne.court).Nodup ∧
      ∀ playOne ∈ playOnes, ∃ j document, documents[j]? = some document ∧
        Assembled (courts.answered (Config.start (Courts.start users playOneCourts)) evs) k j
          document playOne) := by
  have hinv := delivering_of_run h
  have hcalls := hk
  rw [hinv.snapshots, List.getElem?_map] at hcalls
  obtain ⟨call, hcall, rfl⟩ := Option.map_eq_some_iff.1 hcalls
  obtain ⟨done, hassembly, hby⟩ := hinv.assembly hcall
  refine ⟨?_, fun hquiet => ?_⟩
  · rintro ⟨t, ht, htk⟩
    cases t with
    | getCourts => cases htk
    | getUser k' j document i userId =>
      obtain rfl := Option.some.inj htk
      obtain ⟨call', hcall', hj, -⟩ := hinv.known ht
      obtain rfl := Option.some.inj (hcall.symm.trans hcall')
      have hopen : j ∈ call.openCourts (asked c.pending k') :=
        CourtsCall.mem_openCourts.2 ⟨(List.getElem?_eq_some_iff.1 hj).1,
          List.ne_nil_of_mem (mem_asked.2 ⟨document, userId, ht⟩)⟩
      rw [hby]
      exact if_neg (List.ne_nil_of_mem hopen)
  · have hasked : ∀ j, asked c.pending k j = [] := fun j => by
      refine List.eq_nil_iff_forall_not_mem.2 fun i hi => ?_
      obtain ⟨document, userId, ht⟩ := mem_asked.1 hi
      exact hquiet _ ht rfl
    have hopen : call.openCourts (asked c.pending k) = [] :=
      List.eq_nil_iff_forall_not_mem.2 fun j hj => (CourtsCall.mem_openCourts.1 hj).2 (hasked j)
    have hperm := hassembly.perm_court hopen
    refine ⟨call.playOneDataArray, hby.trans (if_pos hopen), hperm, ?_, fun playOne hplayOne => ?_⟩
    · obtain ⟨⟨s, t, r⟩, -, hx⟩ := List.mem_filterMap.1 (List.mem_of_getElem? hk)
      refine hperm.nodup_iff.2 ?_
      cases t with
      | getUser => cases hx
      | getCourts =>
        cases r with
        | failed => cases hx
        | ok => exact Option.some.inj hx ▸ s.playOneCourts.nodup
    · obtain ⟨j, document, hj, rfl⟩ := CourtsCall.exists_isCourt hassembly.array hplayOne
      exact ⟨j, document, hj, hassembly.assembled hj (hasked j)⟩

namespace Sample

/-- A court document with ids lined up. -/
def courtDoc (ids : List String) (order : ℤ) : Doc CourtTitle :=
  Doc.setData [(.finderIds, .strings ids), (.order, .int order)]

/-- The ids of the two users. -/
theorem nodup_userIds : ["u", "v"].Nodup := by
  simp

/-- The ids of the two courts. -/
theorem nodup_courtIds : ["A", "B"].Nodup := by
  simp

/-- A court where `"u"` lines up twice around `"v"`, and an empty one. -/
def twoCourts : Courts :=
  .start (Sample.users [("u", []), ("v", [])] nodup_userIds)
    ⟨[("A", courtDoc ["u", "v", "u"] 1), ("B", courtDoc [] 2)], nodup_courtIds⟩

/-- Two calls whose queries are answered in turn, the later call's last
ones first. -/
def overlapping : List (Event CourtsEvent Reply) :=
  [.call .getPlayOneCourts, .call .getPlayOneCourts, .answer 0 .ok, .answer 0 .ok, .answer 5 .ok,
    .answer 0 .ok, .answer 3 .ok, .answer 0 .ok, .answer 0 .ok, .answer 0 .ok]

end Sample

theorem courts_overlapping : ∃ c,
    courts.Run Matching (Config.start Sample.twoCourts) Sample.overlapping c ∧
    c.pending = [] ∧ ∀ k < 2, ∃ playOnes, c.state.notifiedBy k = [playOnes] ∧
      (playOnes.map PlayOne.court).Perm ["A", "B"] := by
  have hrun : courts.Run Matching (Config.start Sample.twoCourts) Sample.overlapping _ :=
    .of_exec ⟨trivial, trivial, fun _ => List.cons_ne_nil _ _, fun _ => List.cons_ne_nil _ _,
      ⟨rfl, rfl⟩, ⟨rfl, rfl⟩, ⟨rfl, rfl⟩, ⟨rfl, rfl⟩, ⟨rfl, rfl⟩, ⟨rfl, rfl⟩, trivial⟩ rfl
  refine ⟨_, hrun, rfl, fun k hk => ?_⟩
  have hsnapshot : ((courts.answered (Config.start Sample.twoCourts) Sample.overlapping).filterMap
      snapshot)[k]? = some Sample.twoCourts.playOneCourts.entries := by
    interval_cases k <;> rfl
  have hdelivered := (courts_of_run hrun hsnapshot).2 fun t ht => absurd ht List.not_mem_nil
  exact hdelivered.imp fun playOnes h => ⟨h.1, h.2.1⟩

end Volleyer
