import Volleyer.Feed.Model

/-!
# The home feed — what is delivered, and when

Where every document counts, the count reaches the number of documents
with the last one and not before; where one does not, it is never
reached. So the delegate is called at most once, and then with what the
whole snapshot left in the array.
-/

namespace Volleyer

variable {b : List String} {count : ℕ} {e : Examined} {documents : List Examined}

/-! ## The order of the feed -/

instance : Std.Total Play.StartsBy where
  total p q := by
    unfold Play.StartsBy Timestamp.before
    omega

instance : IsTrans Play Play.StartsBy where
  trans p q r hpq hqr := by
    unfold Play.StartsBy Timestamp.before at *
    omega

theorem perm_sortByStartTime (plays : List Play) : (sortByStartTime plays).Perm plays :=
  plays.perm_insertionSort _

theorem pairwise_sortByStartTime (plays : List Play) :
    (sortByStartTime plays).Pairwise Play.StartsBy :=
  plays.pairwise_insertionSort _

/-! ## What the feed is for -/

/-- **A play the feed is to show**: it starts in a later second, and its
finder is not blocked. -/
def Examined.Shown (b : List String) (e : Examined) : Prop :=
  (∃ startTime ∈ e.startTime, e.now.int64 < startTime.seconds) ∧ e.finderId ∉ b

instance (b : List String) (e : Examined) : Decidable (e.Shown b) :=
  inferInstanceAs (Decidable (_ ∧ _))

/-- The plays a snapshot is to show, in its order. -/
def shownPlays (b : List String) (documents : List Examined) : List Play :=
  (documents.filter (·.Shown b)).map Examined.play

theorem shownPlays_append (b : List String) (documents documents' : List Examined) :
    shownPlays b (documents ++ documents') = shownPlays b documents ++ shownPlays b documents' := by
  rw [shownPlays, List.filter_append, List.map_append, shownPlays, shownPlays]

/-- A snapshot shows something if one of its documents is to be shown. -/
theorem shownPlays_eq_nil_iff : shownPlays b documents = [] ↔ ∀ e ∈ documents, ¬e.Shown b := by
  simp only [shownPlays, List.map_eq_nil_iff, List.filter_eq_nil_iff, decide_eq_true_eq]

namespace FinderDataManager

namespace PublishLoop

variable {s : PublishLoop}

theorem deliver_of_ne (h : s.numOfDocument ≠ count) : s.deliver count = s := if_neg h

/-- **One turn of the loop**: a document that has a start time is
counted, and appended if it is to be shown. -/
theorem examine_eq (h : e.startTime.isSome) :
    s.examine b count e = deliver count
      { s with
        playsArray := s.playsArray ++ shownPlays b [e]
        numOfDocument := s.numOfDocument + 1 } := by
  obtain ⟨startTime, hstart⟩ := Option.isSome_iff_exists.1 h
  have hshown : e.Shown b ↔ e.now.int64 < startTime.seconds ∧ e.finderId ∉ b := by
    simp only [Examined.Shown, hstart, Option.mem_some_iff, exists_eq_left']
  unfold examine
  simp only [hstart, List.idxOf?_eq_none_iff]
  by_cases htime : startTime.seconds > e.now.int64
  · by_cases hfinder : e.finderId ∈ b
    · have hnot : ¬e.Shown b := fun hs => (hshown.1 hs).2 hfinder
      simp [htime, hfinder, shownPlays, hnot]
    · have hyes : e.Shown b := hshown.2 ⟨htime, hfinder⟩
      simp [htime, hfinder, shownPlays, hyes]
  · have hnot : ¬e.Shown b := fun hs => htime (hshown.1 hs).1
    simp [htime, shownPlays, hnot]

/-- A document without a start time is passed over. -/
theorem examine_of_none (h : e.startTime = none) : s.examine b count e = s := by
  unfold examine
  rw [h]

theorem shownPlays_of_none (h : e.startTime = none) : shownPlays b [e] = [] := by
  refine shownPlays_eq_nil_iff.2 fun e' he' hshown => ?_
  obtain rfl := List.mem_singleton.1 he'
  obtain ⟨⟨startTime, hstart, -⟩, -⟩ := hshown
  rw [h] at hstart
  exact absurd hstart (Option.not_mem_none startTime)

/-- **The loop before the count is reached**: so far it collects what is
to be shown, and hands over nothing. -/
theorem foldl_examine_of_lt (h : s.numOfDocument + documents.length < count) :
    documents.foldl (examine b count) s =
      { s with
        playsArray := s.playsArray ++ shownPlays b documents
        numOfDocument := s.numOfDocument + documents.countP (·.startTime.isSome) } := by
  induction documents generalizing s with
  | nil => simp [shownPlays]
  | cons e documents ih =>
    have hshown : shownPlays b (e :: documents) = shownPlays b [e] ++ shownPlays b documents :=
      shownPlays_append b [e] documents
    rw [List.length_cons] at h
    rw [List.foldl_cons]
    cases hstart : e.startTime with
    | none =>
      rw [examine_of_none hstart, ih (by omega), hshown, shownPlays_of_none hstart,
        List.countP_cons_of_neg (by simp [hstart]), List.nil_append]
    | some startTime =>
      have hcount : s.numOfDocument + 1 ≠ count := by omega
      rw [examine_eq (by simp [hstart]), deliver_of_ne hcount,
        ih (show s.numOfDocument + 1 + documents.length < count by omega), hshown,
        List.countP_cons_of_pos (by simp [hstart])]
      simp only [List.append_assoc, PublishLoop.mk.injEq, true_and, and_true]
      omega

end PublishLoop

/-- **What the loop hands over**: what the snapshot is to show, sorted, if
the snapshot is not empty and each of its documents has a start time, and
otherwise nothing. -/
theorem getPublishPlay_eq (user : Doc UserTitle) (documents : List Examined) :
    getPublishPlay (.found user) (.found documents) =
      if documents ≠ [] ∧ ∀ e ∈ documents, e.startTime.isSome then
        [sortByStartTime (shownPlays (myBlockList user) documents)]
      else [] := by
  simp only [getPublishPlay]
  rcases List.eq_nil_or_concat documents with rfl | ⟨documents, e, rfl⟩
  · simp
  · -- all documents but the last leave the count below the number of documents
    have hlength : (documents ++ [e]).length = documents.length + 1 := by simp
    have hlt : (0 : ℕ) + documents.length < (documents ++ [e]).length := by omega
    have hinit : documents.foldl
        (PublishLoop.examine (myBlockList user) (documents ++ [e]).length) {} = _ :=
      PublishLoop.foldl_examine_of_lt hlt
    rw [List.concat_eq_append, List.foldl_append, hinit, List.foldl_cons, List.foldl_nil]
    have hle := List.countP_le_length (p := fun e : Examined => e.startTime.isSome) (l := documents)
    cases hstart : e.startTime with
    | none =>
      rw [PublishLoop.examine_of_none hstart, if_neg]
      rintro ⟨-, hall⟩
      have hlast := hall e (List.mem_append_right _ List.mem_cons_self)
      rw [hstart] at hlast
      cases hlast
    | some startTime =>
      have hsome : e.startTime.isSome := by simp [hstart]
      have hall : (documents ++ [e] ≠ [] ∧ ∀ e' ∈ documents ++ [e], e'.startTime.isSome) ↔
          documents.countP (·.startTime.isSome) = documents.length := by
        rw [List.countP_eq_length]
        simp only [ne_eq, List.append_eq_nil_iff, List.cons_ne_nil, and_false, not_false_eq_true,
          List.mem_append, List.mem_singleton, true_and]
        exact ⟨fun h e' he' => h e' (Or.inl he'), fun h e' he' => he'.elim (h e') fun heq => heq ▸ hsome⟩
      rw [PublishLoop.examine_eq hsome, PublishLoop.deliver, shownPlays_append]
      by_cases hcount : documents.countP (·.startTime.isSome) = documents.length
      · rw [if_pos (by rw [hlength, ← hcount, Nat.zero_add]), if_pos (hall.2 hcount)]
        simp
      · have hne : 0 + documents.countP (·.startTime.isSome) + 1 ≠ (documents ++ [e]).length := by
          omega
        rw [if_neg hne, if_neg (fun h => hcount (hall.1 h))]

/-- What is handed over comes of two reads that were answered. -/
theorem exists_of_mem_getPublishPlay {user : Fetched (Doc UserTitle)}
    {plays : Fetched (List Examined)} {playsArray : List Play}
    (h : playsArray ∈ getPublishPlay user plays) :
    ∃ document documents, user = .found document ∧ plays = .found documents ∧
      getPublishPlay user plays = [sortByStartTime (shownPlays (myBlockList document) documents)] ∧
      playsArray = sortByStartTime (shownPlays (myBlockList document) documents) := by
  cases user with
  | missing => cases h
  | failed => cases h
  | found document =>
    cases plays with
    | missing => cases h
    | failed => cases h
    | found documents =>
      rw [getPublishPlay_eq] at h ⊢
      split at h
      · rename_i hall
        exact ⟨document, documents, rfl, rfl, by rw [if_pos hall], List.mem_singleton.1 h⟩
      · cases h

end FinderDataManager

open FinderDataManager

/-- **What the feed delivers is right.** At most one list, and it has the
plays that are to be shown, each once, by ascending start time. -/
theorem publishPlay_delivered (user : Fetched (Doc UserTitle)) (plays : Fetched (List Examined)) :
    (getPublishPlay user plays).length ≤ 1 ∧
    ∀ playsArray ∈ getPublishPlay user plays, ∃ document documents,
      user = .found document ∧ plays = .found documents ∧
      playsArray.Perm
        ((documents.filter (·.Shown ((document.strings .blockList).getD []))).map Examined.play) ∧
      playsArray.Pairwise fun p q => ¬q.startTime.before p.startTime := by
  refine ⟨?_, fun playsArray h => ?_⟩
  · cases hdelivered : getPublishPlay user plays with
    | nil => exact Nat.zero_le 1
    | cons playsArray rest =>
      have hmem : playsArray ∈ getPublishPlay user plays := by
        rw [hdelivered]
        exact List.mem_cons_self
      obtain ⟨document, documents, -, -, hone, -⟩ := exists_of_mem_getPublishPlay hmem
      rw [← hdelivered, hone, List.length_singleton]
  · obtain ⟨document, documents, huser, hplays, -, rfl⟩ := exists_of_mem_getPublishPlay h
    exact ⟨document, documents, huser, hplays, perm_sortByStartTime _, pairwise_sortByStartTime _⟩

/-- **When the feed answers**, by the end of its callback: exactly when the snapshot is not empty and
each of its documents has a start time. -/
theorem publishPlay_answers_iff (user : Doc UserTitle) (documents : List Examined) :
    (getPublishPlay (.found user) (.found documents)).length = 1 ↔
      documents ≠ [] ∧ ∀ e ∈ documents, (e.document.timestamp .startTime).isSome := by
  rw [getPublishPlay_eq]
  split
  · rename_i hall
    exact iff_of_true rfl hall
  · rename_i hall
    exact iff_of_false (by simp) hall

namespace Sample

/-- A time that has not come when the feed is read. -/
def future : Timestamp := ⟨3000, 0⟩

/-- A document of a snapshot read at second 2000. -/
def examined (documentID : String) (data : Fields PlayTitle) : Examined :=
  ⟨documentID, Doc.setData data, ⟨2000, 0⟩, ⟨2000, 0⟩⟩

end Sample

/-- A document without a start time silences the feed, although another
play is to be shown. -/
theorem publishPlay_silent : ∃ (user : Doc UserTitle) (documents : List Examined),
    shownPlays (myBlockList user) documents ≠ [] ∧
    (getPublishPlay (.found user) (.found documents)).length ≠ 1 :=
  ⟨Doc.setData [], [Sample.examined "a" [(.startTime, .timestamp Sample.future)],
    Sample.examined "b" []], by decide, by decide⟩

end Volleyer
