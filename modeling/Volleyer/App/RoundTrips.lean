import Volleyer.Account.Edits
import Volleyer.Cards.Model
import Volleyer.Fetch.Model
import Volleyer.Roster.Linear
import Volleyer.Screen.UpToDate

/-!
# Round trips — the callbacks of the app come to an end

How many callbacks can follow one another, each on the answer to the one
before, whatever is stored and whatever else goes on: three of the managers
of accounts, plays and requests, five of the play-one tab, where an edit of
a court is an event of every page, and an event of a page loads the courts
anew, and two of the fetches and of the page of sent requests. No chain of
callbacks feeds itself, so they all come to an end (`terminates_iff_of_app`).
-/

namespace Volleyer

/-! ## Accounts, plays and requests -/

/-- How many callbacks can follow a task of the managers. -/
def AccountTask.rank : AccountTask → ℕ
  | .roster _ t => t.rank
  | .putData _ _ _ => 2
  | .queryUserId _ _ _ _ | .downloadURL _ _ _ | .getBlockList _ _ _ _ => 1
  | _ => 0

theorem Task.rank_lt (t : Task) : t.rank < 3 := by
  cases t <;> simp [Task.rank]

theorem AccountTask.rank_lt (t : AccountTask) : t.rank < 3 := by
  cases t with
  | roster _ t => exact t.rank_lt
  | _ => simp [AccountTask.rank]

@[simp] theorem Task.rank_reread (me : Option String) (t : Task) : (t.reread me).rank = t.rank := by
  cases t <;> rfl

theorem ranked_managers : Ranked managers AccountTask.rank := by
  intro w t r t' ht'
  cases r with
  | failed => cases ht'
  | ok =>
    replace ht' : t' ∈ (accountAnswerOk w t).2 := ht'
    cases t with
    | roster device t =>
      obtain ⟨u, hu, rfl⟩ := List.mem_map.1 ht'
      have hrank := ranked_roster w.server (t.reread _) .ok u hu
      rwa [Task.rank_reread] at hrank
    | queryUserId device user documentID now =>
      simp only [accountAnswerOk] at ht'
      split_ifs at ht'
      · cases ht'
      · rw [List.mem_singleton.1 ht']
        exact Nat.zero_lt_one
      · rw [List.mem_singleton.1 ht']
        exact Nat.zero_lt_one
    | putData device savePath urlString =>
      rw [List.mem_singleton.1 ht']
      exact Nat.one_lt_two
    | downloadURL device savePath urlString =>
      rw [List.mem_singleton.1 ht']
      exact Nat.zero_lt_one
    | getBlockList device edit documentID userId =>
      simp only [accountAnswerOk] at ht'
      split at ht'
      · cases ht'
      · obtain ⟨v, -, rfl⟩ := List.mem_map.1 ht'
        exact Nat.zero_lt_one
    | updateUser | updateProfileInfo | removeThisuser =>
      simp only [accountAnswerOk] at ht'
      split at ht' <;> cases ht'
    | setUser | setImage | setBlockList => cases ht'

/-! ## The play-one tab -/

def CourtsTask.rank : CourtsTask → ℕ
  | .getCourts => 1
  | .getUser _ _ _ _ _ => 0

theorem ranked_courts : Ranked courts CourtsTask.rank := by
  intro s t r t' ht'
  cases r with
  | failed => cases ht'
  | ok =>
    replace ht' : t' ∈ (courtsAnswerOk s t).2 := ht'
    cases t with
    | getCourts =>
      obtain ⟨d, -, hd⟩ := List.mem_flatMap.1 ht'
      obtain ⟨p, -, rfl⟩ := List.mem_map.1 hd
      exact Nat.zero_lt_one
    | getUser k position document i userId =>
      simp only [courtsAnswerOk] at ht'
      split at ht' <;> cases ht'

/-- How many callbacks can follow a task of a page: what is read last is
the finders of the courts. -/
def PlayOneTask.rank : PlayOneTask → ℕ
  | .edit (.getDocument _ _ _) => 4
  | .edit (.updateData _ _ _ _) => 3
  | .listenPlayOne _ => 2
  | .getPlayOneCourts _ t => t.rank
  | .createPlayOneFinder _ | .deletaPlayOnefinder _ => 0

theorem ranked_playOne : Ranked playOne PlayOneTask.rank := by
  intro s t r t' ht'
  cases r with
  | failed => cases ht'
  | ok =>
    replace ht' : t' ∈ (playOneAnswerOk s t).2 := ht'
    cases t with
    | edit t =>
      rcases List.mem_append.1 ht' with ht' | ht'
      · obtain ⟨u, hu, rfl⟩ := List.mem_map.1 ht'
        cases t with
        | getDocument edit finder court =>
          simp only [courtEditAnswerOk] at hu
          split at hu
          · cases hu
          · rw [List.mem_singleton.1 hu]
            exact Nat.lt_succ_self 3
        | updateData edit finder court userIds => cases hu
      · obtain ⟨device, hdevice, rfl⟩ := List.mem_map.1 ht'
        cases t with
        | getDocument edit finder court => cases hdevice
        | updateData edit finder court userIds => exact Nat.lt_succ_self 2
    | createPlayOneFinder finder => cases ht'
    | deletaPlayOnefinder finder => cases ht'
    | listenPlayOne device =>
      rw [List.mem_singleton.1 ht']
      exact Nat.one_lt_two
    | getPlayOneCourts device t =>
      obtain ⟨u, hu, rfl⟩ := List.mem_map.1 ht'
      exact ranked_courts s.courts t .ok u hu

theorem PlayOneTask.rank_lt (t : PlayOneTask) : t.rank < 5 := by
  cases t with
  | edit t => cases t <;> simp [PlayOneTask.rank]
  | getPlayOneCourts device t => cases t <;> simp [PlayOneTask.rank, CourtsTask.rank]
  | _ => simp [PlayOneTask.rank]

/-- With the cards: the page below a camera page reads the card when it
appears. -/
def CardTask.rank : CardTask → ℕ
  | .playOne t => t.rank
  | .putData _ => 3
  | .downloadURL _ => 2
  | .updateData _ _ => 1
  | .getPlayOneFinderData _ _ _ => 0

/-- A page that appears reads a card at most. -/
theorem rank_of_viewWillAppear {device : ℕ} {screens : List CardScreen} {t : CardTask}
    (h : t ∈ CardApp.viewWillAppear device screens) : t.rank = 0 := by
  unfold CardApp.viewWillAppear at h
  split at h
  · rw [List.mem_singleton.1 h]
    rfl
  · cases h

theorem ranked_playOneTab (url : String → ℕ → String) (isURL : String → Bool) :
    Ranked (playOneTab url isURL) CardTask.rank := by
  intro s t r t' ht'
  cases r with
  | failed => cases ht'
  | ok =>
    replace ht' : t' ∈ (cardAnswerOk url isURL s t).2 := ht'
    cases t with
    | playOne t =>
      obtain ⟨u, hu, rfl⟩ := List.mem_map.1 ht'
      exact ranked_playOne s.playOne t .ok u hu
    | putData call =>
      rw [List.mem_singleton.1 ht']
      exact Nat.lt_succ_self 2
    | downloadURL call =>
      simp only [cardAnswerOk] at ht'
      split at ht'
      · cases ht'
      · rw [List.mem_singleton.1 ht']
        exact Nat.one_lt_two
    | updateData call urlString =>
      simp only [cardAnswerOk] at ht'
      split at ht'
      · cases ht'
      · split_ifs at ht'
        · rw [rank_of_viewWillAppear ht']
          exact Nat.zero_lt_one
        · cases ht'
    | getPlayOneFinderData device number finder =>
      simp only [cardAnswerOk] at ht'
      split at ht' <;> cases ht'

theorem CardTask.rank_lt (t : CardTask) : t.rank < 5 := by
  cases t with
  | playOne t => exact t.rank_lt
  | _ => simp [CardTask.rank]

/-! ## Fetches and listeners -/

def FetchTask.rank : FetchTask → ℕ
  | .getUser _ _ => 1
  | .getRecord _ _ => 0

theorem ranked_fetches : Ranked fetches FetchTask.rank := by
  intro s t r t' ht'
  replace ht' : t' ∈ (fetchAnswer s t r).2 := ht'
  cases t with
  | getUser k documentID =>
    cases r with
    | failed => cases ht'
    | ok now =>
      simp only [fetchAnswer] at ht'
      split at ht'
      · obtain ⟨id, -, rfl⟩ := List.mem_map.1 ht'
        exact Nat.zero_lt_one
      · cases ht'
  | getRecord k id =>
    simp only [fetchAnswer] at ht'
    split at ht' <;> cases ht'

theorem FetchTask.rank_lt (t : FetchTask) : t.rank < 2 := by
  cases t <;> simp [FetchTask.rank]

def NotifyTask.rank : NotifyTask → ℕ
  | .received _ _ _ _ => 1
  | .sent _ _ _ _ | .getUserByFirebaseId _ _ _ => 0

/-- The ids a change is read for are the last of it. -/
theorem rank_notifyAnswerOk {s : Notify} {t t' : NotifyTask} (ht' : t' ∈ (notifyAnswerOk s t).2) :
    t'.rank < t.rank := by
  cases t with
  | received listener type documentID document =>
    simp only [notifyAnswerOk] at ht'
    split at ht'
    · cases ht'
    · obtain ⟨id, -, rfl⟩ := List.mem_map.1 ht'
      exact Nat.zero_lt_one
  | sent listener type documentID document => cases ht'
  | getUserByFirebaseId listener documentID id =>
    simp only [notifyAnswerOk] at ht'
    split at ht' <;> cases ht'

def LiveTask.rank : LiveTask → ℕ
  | .notify t => t.rank
  | .getDocuments _ => 1
  | .getPlayRequests _ _ => 0

theorem ranked_liveSent : Ranked liveSent LiveTask.rank := by
  intro s t r t' ht'
  cases r with
  | failed => cases ht'
  | ok =>
    replace ht' : t' ∈ (if s.notify.ended then (s, []) else liveAnswerOk s t).2 := ht'
    split at ht'
    · cases ht'
    cases t with
    | notify t =>
      cases t with
      | sent => cases ht'
      | received | getUserByFirebaseId =>
        obtain ⟨u, hu, rfl⟩ := List.mem_map.1 ht'
        exact rank_notifyAnswerOk hu
    | getDocuments page =>
      rw [List.mem_singleton.1 ht']
      exact Nat.zero_lt_one
    | getPlayRequests page documents =>
      simp only [liveAnswerOk] at ht'
      split at ht' <;> cases ht'

theorem LiveTask.rank_lt (t : LiveTask) : t.rank < 2 := by
  cases t with
  | notify t => cases t <;> simp [LiveTask.rank, NotifyTask.rank]
  | _ => simp [LiveTask.rank]

/-! ## The app -/

namespace Sample

/-- A court where `"f"` waits, and a page that listens. -/
def listening : CardApp :=
  .start { PlayOneApp.start twoUsers.users
      ⟨[("A", Doc.setData [(.finderIds, .strings ["f"])])], by simp⟩ .empty (fun _ => some "f") with
    listening := [0] }

/-- What an edit of the court is followed by, up to the read of its
finder. -/
def reload : List CardTask :=
  [.playOne (.edit (.getDocument .add "g" "A")),
    .playOne (.edit (.updateData .add "g" "A" ["f", "g"])), .playOne (.listenPlayOne 0),
    .playOne (.getPlayOneCourts 0 .getCourts),
    .playOne (.getPlayOneCourts 0
      (.getUser 0 0 ("A", Doc.setData [(.finderIds, .strings ["f"])]) 0 "f"))]

/-- What the upload of a photo is followed by. -/
def upload : List AccountTask :=
  [.putData 0 "path" "url", .downloadURL 0 "path" "url", .setImage "f" "url"]

/-- The list of plays of `"f"` is being read. -/
def reading : Fetches where
  users := users [("f", ["p"])] (by decide)
  plays := .empty
  calls := [⟨.thisUserPlays, [], {}⟩]

end Sample

theorem isChain_reload (url : String → ℕ → String) (isURL : String → Bool) :
    Sample.reload.IsChain (playOneTab url isURL).Spawns := by
  have hspawns : ∀ t t', t' ∈ (cardAnswerOk url isURL Sample.listening t).2 →
      (playOneTab url isURL).Spawns t t' := fun t t' h => ⟨_, .ok, h⟩
  refine .cons_cons (hspawns _ _ ?_) (.cons_cons (hspawns _ _ ?_) (.cons_cons (hspawns _ _ ?_)
    (.cons_cons (hspawns _ _ ?_) (.singleton _))))
  all_goals exact List.mem_cons_self

theorem isChain_upload : Sample.upload.IsChain managers.Spawns := by
  have hspawns : ∀ t t', t' ∈ (accountAnswerOk Sample.signedIn t).2 →
      managers.Spawns t t' := fun t t' h => ⟨_, .ok, h⟩
  refine .cons_cons (hspawns _ _ ?_) (.cons_cons (hspawns _ _ ?_) (.singleton _))
  all_goals exact List.mem_cons_self

/-- **The app comes to an end.** Of the managers of accounts, plays and
requests, no more than three callbacks follow one another, of the play-one
tab no more than five, of the fetches and of the page of sent requests no
more than two, and each of these numbers is reached; and in all of them no
run of answers is without an end. -/
theorem terminates_iff_of_app :
    (∀ k, managers.Terminates k ↔ 3 ≤ k) ∧
    (∀ url isURL k, (playOneTab url isURL).Terminates k ↔ 5 ≤ k) ∧
    (∀ k, fetches.Terminates k ↔ 2 ≤ k) ∧ ∀ k, liveSent.Terminates k ↔ 2 ≤ k := by
  refine ⟨?_, fun url isURL => ?_, ?_, ?_⟩
  · exact ranked_managers.terminates_iff AccountTask.rank_lt isChain_upload rfl
  · exact (ranked_playOneTab url isURL).terminates_iff CardTask.rank_lt
      (isChain_reload url isURL) rfl
  · have hreads : [FetchTask.getUser 0 "f", .getRecord 0 "p"].IsChain fetches.Spawns :=
      .cons_cons ⟨Sample.reading, .ok ⟨0, 0⟩, List.mem_cons_self⟩ (.singleton _)
    exact ranked_fetches.terminates_iff FetchTask.rank_lt hreads rfl
  · have hload : [LiveTask.getDocuments 0, .getPlayRequests 0 []].IsChain liveSent.Spawns :=
      .cons_cons ⟨Sample.liveLaunched, .ok, List.mem_cons_self⟩ (.singleton _)
    exact ranked_liveSent.terminates_iff LiveTask.rank_lt hload rfl

end Volleyer
