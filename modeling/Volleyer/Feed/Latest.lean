import Volleyer.Account.Model
import Volleyer.Feed.Delivery

/-!
# The home feed — the list on the screen

The screen replaces its plays by what a refresh hands it, unless that is
the empty list. So after a history of refreshes it shows what the last
one with something to show found, and that is the latest answer only
where the latest answer is not empty or none before it was.
-/

namespace Volleyer

open FinderDataManager

namespace FeedRefresh

variable {r : FeedRefresh} {rs : List FeedRefresh} {vc : FinderViewController}

/-- **The refresh is answered**: both reads are, and every document of a
snapshot that is not empty has a start time. -/
def Answers (r : FeedRefresh) : Prop :=
  ∃ document documents, r.user = .found document ∧ r.plays = .found documents ∧
    documents ≠ [] ∧ ∀ e ∈ documents, e.startTime.isSome

/-- The refresh finds a play that starts later and is not of a blocked
finder. -/
def Finds (r : FeedRefresh) : Prop :=
  ∃ document documents, r.user = .found document ∧ r.plays = .found documents ∧
    ∃ e ∈ documents, e.Shown (myBlockList document)

/-- What an answered refresh hands to the screen. -/
theorem Answers.delivered_eq (h : r.Answers) :
    ∃ document documents, r.user = .found document ∧ r.plays = .found documents ∧
      r.delivered = [sortByStartTime (shownPlays (myBlockList document) documents)] := by
  obtain ⟨document, documents, huser, hplays, hall⟩ := h
  refine ⟨document, documents, huser, hplays, ?_⟩
  rw [delivered, huser, hplays, getPublishPlay_eq, if_pos hall]

/-- A refresh that is not answered hands over nothing. -/
theorem delivered_of_not_answers (h : ¬r.Answers) : r.delivered = [] := by
  refine List.eq_nil_iff_forall_not_mem.2 fun playsArray hp => h ?_
  obtain ⟨document, documents, huser, hplays, hone, -⟩ := exists_of_mem_getPublishPlay hp
  rw [huser, hplays, getPublishPlay_eq] at hone
  split at hone
  · rename_i hall
    exact ⟨document, documents, huser, hplays, hall⟩
  · cases hone

/-- What is handed over is empty if nothing was found. -/
theorem eq_nil_iff_of_mem_delivered {plays : List Play} (h : plays ∈ r.delivered) :
    plays = [] ↔ ¬r.Finds := by
  obtain ⟨document, documents, huser, hplays, -, rfl⟩ := exists_of_mem_getPublishPlay h
  rw [← List.length_eq_zero_iff, (perm_sortByStartTime _).length_eq, List.length_eq_zero_iff,
    shownPlays_eq_nil_iff]
  constructor
  · rintro hnone ⟨document', documents', huser', hplays', e, he, hshown⟩
    obtain rfl := Fetched.found.inj (huser.symm.trans huser')
    obtain rfl := Fetched.found.inj (hplays.symm.trans hplays')
    exact hnone e he hshown
  · exact fun hnot e he hshown => hnot ⟨document, documents, huser, hplays, e, he, hshown⟩

/-- A refresh that hands over nothing leaves the plays. -/
theorem publicPlays_run_of_nil (h : r.delivered = []) :
    (r.run vc).publicPlays = vc.publicPlays := by
  unfold run
  rw [h, List.foldl_nil]
  split <;> rfl

/-- **One refresh**: the list it hands over replaces the plays, unless it
is empty. -/
theorem publicPlays_run {plays : List Play} (h : r.delivered = [plays]) :
    (r.run vc).publicPlays = if plays = [] then vc.publicPlays else plays := by
  unfold run
  rw [h, List.foldl_cons, List.foldl_nil]
  unfold FinderViewController.didGet
  simp only [gt_iff_lt, List.length_pos_iff, ne_eq, ite_not]
  by_cases hplays : plays = []
  · simp only [hplays, if_true]
    split <;> rfl
  · simp only [hplays, if_false]

theorem runAll_append (rs rs' : List FeedRefresh) :
    runAll vc (rs ++ rs') = runAll (runAll vc rs) rs' := List.foldl_append

/-- **The screen is empty** as long as no refresh handed over a play. -/
theorem publicPlays_runAll_eq_nil_iff :
    (runAll vc rs).publicPlays = [] ↔
      vc.publicPlays = [] ∧ ∀ r ∈ rs, ¬(r.Answers ∧ r.Finds) := by
  induction rs using List.reverseRecOn with
  | nil => simp [runAll]
  | append_singleton rs r ih =>
    have hlast : (runAll vc (rs ++ [r])).publicPlays = (r.run (runAll vc rs)).publicPlays := by
      rw [runAll_append]
      rfl
    have hforall : (∀ r' ∈ rs ++ [r], ¬(r'.Answers ∧ r'.Finds)) ↔
        (∀ r' ∈ rs, ¬(r'.Answers ∧ r'.Finds)) ∧ ¬(r.Answers ∧ r.Finds) := by
      simp only [List.forall_mem_append, List.forall_mem_singleton]
    rw [hlast, hforall]
    by_cases hanswers : r.Answers
    · obtain ⟨document, documents, -, -, hone⟩ := hanswers.delivered_eq
      have hnil := eq_nil_iff_of_mem_delivered (hone ▸ List.mem_singleton_self _)
      rw [publicPlays_run hone]
      by_cases hfinds : r.Finds
      · rw [if_neg (fun h => hnil.1 h hfinds)]
        exact iff_of_false (fun h => hnil.1 h hfinds) fun h => h.2.2 ⟨hanswers, hfinds⟩
      · rw [if_pos (hnil.2 hfinds), ih]
        exact and_congr_right fun _ => (and_iff_left fun h => hfinds h.2).symm
    · rw [publicPlays_run_of_nil (delivered_of_not_answers hanswers), ih]
      exact and_congr_right fun _ => (and_iff_left fun h => hanswers h.1).symm

/-- The screen shows what the last refresh of a history handed over. -/
def Latest (rs : List FeedRefresh) (r : FeedRefresh) : Prop :=
  ∀ plays ∈ r.delivered, (runAll {} (rs ++ [r])).publicPlays = plays

/-- The last refresh of a history finds a play to show, or none before it
handed one over. -/
def Replaces (rs : List FeedRefresh) (r : FeedRefresh) : Prop :=
  r.Answers → r.Finds ∨ ∀ r' ∈ rs, ¬(r'.Answers ∧ r'.Finds)

theorem latest_iff_replaces : Latest rs r ↔ Replaces rs r := by
  have hlast : (runAll {} (rs ++ [r])).publicPlays = (r.run (runAll {} rs)).publicPlays := by
    rw [runAll_append]
    rfl
  unfold Latest Replaces
  rw [hlast]
  by_cases hanswers : r.Answers
  · obtain ⟨document, documents, -, -, hone⟩ := hanswers.delivered_eq
    have hnil := eq_nil_iff_of_mem_delivered (hone ▸ List.mem_singleton_self _)
    have hempty : (runAll {} rs).publicPlays = [] ↔ _ := publicPlays_runAll_eq_nil_iff
    rw [publicPlays_run hone, hone]
    simp only [List.mem_singleton, forall_eq, hanswers, forall_const]
    by_cases hfinds : r.Finds
    · rw [if_neg (fun h => hnil.1 h hfinds)]
      exact iff_of_true rfl (Or.inl hfinds)
    · rw [if_pos (hnil.2 hfinds), hnil.2 hfinds, hempty]
      simp only [hfinds, false_or, true_and]
  · rw [delivered_of_not_answers hanswers]
    exact iff_of_true (fun _ h => absurd h List.not_mem_nil) fun h => absurd h hanswers

end FeedRefresh

open FeedRefresh

/-- **When the home list is the latest answer.** After every refresh of a
history the screen shows the list it was handed, exactly if every
answered refresh finds a play to show or comes before any that did. Then
no play of a finder that is blocked when the refresh reads the block list
is on the screen after it. -/
theorem homeList_latest_iff (rs : List FeedRefresh) :
    ((∀ rs' r, rs' ++ [r] <+: rs → ∀ plays ∈ r.delivered,
        (runAll {} (rs' ++ [r])).publicPlays = plays) ↔
      ∀ rs' r, rs' ++ [r] <+: rs → r.Answers →
        r.Finds ∨ ∀ r' ∈ rs', ¬(r'.Answers ∧ r'.Finds)) ∧
    ((∀ rs' r, rs' ++ [r] <+: rs → r.Answers →
        r.Finds ∨ ∀ r' ∈ rs', ¬(r'.Answers ∧ r'.Finds)) →
      ∀ rs' r, rs' ++ [r] <+: rs → r.Answers → ∃ document documents,
        r.user = .found document ∧ r.plays = .found documents ∧
        ∀ play ∈ (runAll {} (rs' ++ [r])).publicPlays,
          ∃ e ∈ documents, play = e.play ∧ e.finderId ∉ myBlockList document) := by
  constructor
  · exact forall_congr' fun rs' => forall_congr' fun r => imp_congr_right fun _ =>
      latest_iff_replaces
  · intro hreplaces rs' r hr hanswers
    obtain ⟨document, documents, huser, hplays, hone⟩ := hanswers.delivered_eq
    have hlatest : Latest rs' r := latest_iff_replaces.2 (hreplaces rs' r hr)
    have hshows := hlatest _ (hone ▸ List.mem_singleton_self _)
    refine ⟨document, documents, huser, hplays, fun play hplay => ?_⟩
    rw [hshows, (perm_sortByStartTime _).mem_iff] at hplay
    obtain ⟨e, he, rfl⟩ := List.mem_map.1 hplay
    obtain ⟨hmem, hshown⟩ := List.mem_filter.1 he
    exact ⟨e, hmem, rfl, (of_decide_eq_true hshown).2⟩

namespace Sample

/-- A user who blocks nobody, and the same user after `addToBlocklist`. -/
def unblocked : Doc UserTitle := Doc.setData [(.blockList, .strings [])]

def blocked (userId : String) : Doc UserTitle :=
  unblocked.updateData
    ((MyDataManager.blockListToWrite .add userId (unblocked.strings .blockList)).toList.map
      (UserTitle.blockList, ·))

/-- The snapshot of one coming play of `"f"`. -/
def playOfF : List Examined :=
  [examined "a" [(.finderId, .string "f"), (.startTime, .timestamp future)]]

end Sample

/-- The one play on the screen is `"f"`'s, the user blocks `"f"` and
refreshes: the answer is empty, and the play stays. -/
theorem homeList_keeps_blocked :
    let before : FeedRefresh := ⟨true, .found Sample.unblocked, .found Sample.playOfF⟩
    let after : FeedRefresh := ⟨true, .found (Sample.blocked "f"), .found Sample.playOfF⟩
    "f" ∈ myBlockList (Sample.blocked "f") ∧ after.delivered = [[]] ∧
      (runAll {} [before, after]).publicPlays.map Play.finderId = ["f"] := by
  refine ⟨by decide, by decide, by decide⟩

end Volleyer
