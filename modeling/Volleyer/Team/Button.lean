import Volleyer.Common.Machine
import Volleyer.Team.Partition

/-!
# The button that splits

`MyFinderInfoViewController` enables `randomTeamButton` when a delivery
has eighteen players, and nothing disables it again. What follows it is
the table of players: a later delivery replaces it, and a row of it can be
deleted. The button is live with enough players exactly in the runs that
keep eighteen in the table once it is enabled (`safe_iff_keeps`).
-/

namespace Volleyer

/-- What is set of the button. -/
structure RandomTeamButton where
  title : String
  isEnabled : Bool
  alpha : ℚ
deriving DecidableEq

/-- **The screen**: its table, its button, and the pages it has opened. -/
structure MyFinderInfo where
  players : List User
  randomTeamButton : RandomTeamButton
  pages : List RandomTeamViewController := []

/-- `UITableViewCell.EditingStyle` -/
inductive EditingStyle
  | none
  | delete
  | insert
deriving DecidableEq

/-- What happens on the screen. -/
inductive MyFinderInfoCall
  /-- the completion of `getPlayersData`, with the players or an error -/
  | getPlayersData (gotPlayers : Option (List User))
  /-- `tableView(_:commit:forRowAt:)` of the table, at one of its rows -/
  | commit (editingStyle : EditingStyle) (row : ℕ)
  /-- a tap on the button, which only an enabled one tells of -/
  | randomTeamPage

namespace MyFinderInfo

variable {s s' : MyFinderInfo} {e : MyFinderInfoCall}

/-- `viewDidLoad`, over whatever is in the table by then. -/
def viewDidLoad (players : List User) : MyFinderInfo where
  players := players
  randomTeamButton := { title := "18 人才能分隊", isEnabled := false, alpha := 1 / 2 }

/-- **What a callback does**, or `none` where it is not called. -/
def step (s : MyFinderInfo) : MyFinderInfoCall → Option MyFinderInfo
  | .getPlayersData (some gotPlayers) =>
      if 18 ≤ gotPlayers.length then
        some { s with
          players := gotPlayers
          randomTeamButton := { title := "幫我分隊", isEnabled := true, alpha := 1 } }
      else some { s with players := gotPlayers }
  | .getPlayersData none => some s
  | .commit editingStyle row =>
      if row < s.players.length then
        if editingStyle = .delete then some { s with players := s.players.eraseIdx row }
        else some s
      else none
  | .randomTeamPage =>
      if s.randomTeamButton.isEnabled then
        some { s with pages := s.pages ++ [{ playerUsers := s.players.take 18 }] }
      else none

/-- **A live button has enough players**, and every page it opened reads
labels that exist. -/
structure Safe (s : MyFinderInfo) : Prop where
  enough : s.randomTeamButton.isEnabled = true → 18 ≤ s.players.length
  inRange : ∀ page ∈ s.pages, ∀ shuffles rest,
    (generateRandomTeamWithLevel page shuffles rest).isSome

/-- The call does not leave an enabled button with fewer than eighteen
players. -/
def Keeps (s : MyFinderInfo) : MyFinderInfoCall → Prop
  | .getPlayersData (some gotPlayers) =>
      s.randomTeamButton.isEnabled = true → 18 ≤ gotPlayers.length
  | .commit .delete _ => s.randomTeamButton.isEnabled = true → 18 < s.players.length
  | _ => True

theorem safe_viewDidLoad (players : List User) : (viewDidLoad players).Safe where
  enough h := absurd h Bool.false_ne_true
  inRange _ hpage := absurd hpage List.not_mem_nil

/-- **Eighteen players never trap.** -/
theorem isSome_generateRandomTeamWithLevel {page : RandomTeamViewController}
    (h18 : page.playerUsers.length = 18) (shuffles : List (Shuffled page.playerUsers))
    (rest : Shuffled imageNames) : (generateRandomTeamWithLevel page shuffles rest).isSome := by
  have himage : rest.1.length = 3 := rest.2.length_eq
  rw [generateRandomTeamWithLevel]
  cases hloop : calculateMaxAverageLevelDifference page.playerUsers shuffles page with
  | mk c returned =>
    cases returned with
    | none => rfl
    | some d =>
      have hreturned :
          (calculateMaxAverageLevelDifference page.playerUsers shuffles page).2 = some d := by
        rw [hloop]
      obtain ⟨hthree, hsix⟩ := length_of_returned hreturned h18
      rw [hloop] at hthree hsix
      have hput := putNameIntoLabels_eq hthree hsix
      have hfirst : rest.1[0]? = some (rest.1[0]) := List.getElem?_eq_getElem (by omega)
      simp only [hput, hfirst]
      rfl

/-- **One callback.** A safe screen stays safe exactly at the calls that
keep enough players. -/
theorem safe_step_iff (h : s.step e = some s') (hs : s.Safe) : s'.Safe ↔ s.Keeps e := by
  cases e with
  | getPlayersData gotPlayers =>
    cases gotPlayers with
    | none =>
      obtain rfl : s = s' := Option.some.inj h
      exact iff_of_true hs trivial
    | some gotPlayers =>
      simp only [step] at h
      split at h
      · rename_i h18
        obtain rfl := Option.some.inj h
        exact iff_of_true ⟨fun _ => h18, hs.inRange⟩ fun _ => h18
      · obtain rfl := Option.some.inj h
        exact ⟨fun hsafe => hsafe.enough, fun hkeeps => ⟨hkeeps, hs.inRange⟩⟩
  | commit editingStyle row =>
    simp only [step] at h
    split at h
    · rename_i hrow
      split at h
      · rename_i hdelete
        subst hdelete
        obtain rfl := Option.some.inj h
        have hlength : (s.players.eraseIdx row).length + 1 = s.players.length := by
          rw [List.length_eraseIdx_of_lt hrow]
          omega
        constructor
        · intro hsafe henabled
          have henough : 18 ≤ (s.players.eraseIdx row).length := hsafe.enough henabled
          omega
        · intro hkeeps
          refine ⟨fun henabled => ?_, hs.inRange⟩
          have hmore : 18 < s.players.length := hkeeps henabled
          show 18 ≤ (s.players.eraseIdx row).length
          omega
      · rename_i hdelete
        obtain rfl := Option.some.inj h
        refine iff_of_true hs ?_
        cases editingStyle with
        | none => trivial
        | delete => exact absurd rfl hdelete
        | insert => trivial
    · cases h
  | randomTeamPage =>
    simp only [step] at h
    split at h
    · rename_i henabled
      obtain rfl := Option.some.inj h
      refine iff_of_true ⟨hs.enough, fun page hpage => ?_⟩ trivial
      rcases List.mem_append.1 hpage with hpage | hpage
      · exact hs.inRange page hpage
      · obtain rfl := List.mem_singleton.1 hpage
        refine isSome_generateRandomTeamWithLevel ?_
        rw [List.length_take]
        have henough := hs.enough henabled
        omega
    · cases h

end MyFinderInfo

/-- **The machine of the screen**, whose callbacks put nothing in flight. -/
def myFinderInfo : Machine MyFinderInfo MyFinderInfoCall Empty Empty where
  issue s e := (s.step e).map (·, [])
  answer _ t := t.elim

/-- The calls that keep enough players where they happen. -/
def KeepsEnough (c : Config MyFinderInfo Empty) (e : Event MyFinderInfoCall Empty) : Prop :=
  ∀ a, e = .call a → c.state.Keeps a

variable {evs : List (Event MyFinderInfoCall Empty)} {c c' : Config MyFinderInfo Empty}
  {players : List User}

theorem step_myFinderInfo {e : Event MyFinderInfoCall Empty}
    (h : myFinderInfo.step c e = some c') :
    ∃ a, e = .call a ∧ c.state.step a = some c'.state ∧ c'.seen = c'.state :: c.seen := by
  rcases Machine.step_cases h with ⟨a, s, ts, rfl, hissue, rfl⟩ | ⟨_, _, t, _⟩
  · obtain ⟨s', hs', heq⟩ := Option.map_eq_some_iff.1 hissue
    obtain ⟨rfl, rfl⟩ := Prod.mk.inj heq
    exact ⟨a, rfl, hs', rfl⟩
  · exact t.elim

/-- **The button is live with enough players** in every state of a run,
and the pages it opens are in range, exactly where every step of the run
keeps eighteen players once it is enabled. -/
theorem safe_iff_keeps
    (h : myFinderInfo.Run (fun _ _ => True) (.start (.viewDidLoad players)) evs c) :
    (∀ s ∈ c.seen, s.Safe) ↔
      myFinderInfo.Run KeepsEnough (.start (.viewDidLoad players)) evs c := by
  induction h with
  | nil =>
    refine iff_of_true (fun s hs => ?_) .nil
    rw [List.mem_singleton.1 hs]
    exact MyFinderInfo.safe_viewDidLoad players
  | @snoc evs c e c' hrun _ hstep ih =>
    obtain ⟨a, rfl, hs, hseen⟩ := step_myFinderInfo hstep
    rw [hseen, List.forall_mem_cons, ih]
    constructor
    · rintro ⟨hsafe, hkeeps⟩
      refine .snoc hkeeps (fun a' ha' => ?_) hstep
      obtain rfl := Event.call.inj ha'
      exact (MyFinderInfo.safe_step_iff hs (ih.2 hkeeps c.state List.mem_cons_self)).1 hsafe
    · intro hkeeps
      obtain ⟨c₁, hrun₁, hok, hstep₁⟩ := hkeeps.snoc_inv
      obtain rfl := hrun.unique hrun₁
      have hsafe := ih.2 hrun₁ c.state List.mem_cons_self
      exact ⟨(MyFinderInfo.safe_step_iff hs hsafe).2 (hok a rfl), hrun₁⟩

/-- Players are delivered, the first row is deleted, and the button
tapped. -/
def deleteAndTap (n : ℕ) : List (Event MyFinderInfoCall Empty) :=
  [.call (.getPlayersData (some (List.replicate n (playerOf "Noah" 0 0)))),
    .call (.commit .delete 0), .call .randomTeamPage]

/-- With nineteen players it may be, and the page shows eighteen. -/
theorem safe_iff_keeps_nineteen :
    ∃ c, myFinderInfo.Run KeepsEnough (.start (.viewDidLoad [])) (deleteAndTap 19) c ∧
      ∀ s ∈ c.seen, s.Safe := by
  have hkeeps : myFinderInfo.Admits KeepsEnough (.start (.viewDidLoad [])) (deleteAndTap 19) := by
    refine ⟨?_, ?_, ?_, trivial⟩ <;> intro a ha <;> obtain rfl := Event.call.inj ha
    · intro _
      decide
    · intro _
      decide
    · trivial
  obtain ⟨c, hrun⟩ : ∃ c, myFinderInfo.Run KeepsEnough (.start (.viewDidLoad []))
      (deleteAndTap 19) c := ⟨_, .of_exec hkeeps rfl⟩
  exact ⟨c, hrun, (safe_iff_keeps (hrun.mono fun _ _ _ => trivial)).2 hrun⟩

/-- **Eighteen players, and one is deleted.** The button stays enabled
over seventeen, and the page it opens traps. -/
theorem enabled_with_seventeen :
    ∃ c, myFinderInfo.Run (fun _ _ => True) (.start (.viewDidLoad [])) (deleteAndTap 18) c ∧
      c.state.randomTeamButton.isEnabled = true ∧ c.state.players.length = 17 ∧
      ∃ page ∈ c.state.pages, ∃ shuffles rest,
        generateRandomTeamWithLevel page shuffles rest = none := by
  refine ⟨_, .of_exec ⟨trivial, trivial, trivial, trivial⟩ rfl, rfl, rfl, _, List.mem_cons_self,
    [⟨_, List.Perm.refl _⟩], ⟨imageNames, List.Perm.refl _⟩, ?_⟩
  exact Option.isNone_iff_eq_none.1 (by decide +kernel)

end Volleyer
